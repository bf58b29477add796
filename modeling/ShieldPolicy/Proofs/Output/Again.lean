import ShieldPolicy.Proofs.FileSystem.Progress
import ShieldPolicy.Proofs.Output.Outcome

/-!
Writing the output again. Where the way to the directory is still open and nothing is refused, a
second writing succeeds and leaves the directory as the first one did: `write_again`.
-/

namespace ShieldPolicy

open FileSystem Disk OnDisk
open Location (Below)

namespace FileSystem

variable {fs : FileSystem} {out : Location} {name text : String} {document : Option Document}

theorem Empty.children (empty : fs.Empty out) : fs.children out = [] := by
  refine List.eq_nil_iff_forall_not_mem.mpr fun name member => ?_
  rw [mem_children, empty.2 _ (Location.below_child out name)] at member
  cases member

theorem HoldsOnly.children {e : Entry} (holds : fs.HoldsOnly out name e) :
    fs.children out = [name] := by
  refine List.perm_singleton.mp ((List.perm_ext_iff_of_nodup (children_nodup fs out)
    (List.pairwise_singleton _ name)).mpr fun other => ?_)
  rw [mem_children, holds.2 _ (Location.below_child out other), List.mem_singleton]
  by_cases same : other = name
  · simp [same]
  · simp [same]

/-- What is in the output directory after a run that has not cut off its own way there. -/
def Holds (fs : FileSystem) (out : Location) (name : String) : Option Document → Prop
  | none => fs.Empty out
  | some d => fs.HoldsOnly out name (.file d.contents)

theorem Holds.of_spares {d d' : Disk} (holds : d.files.Holds out name document)
    (apart : ∀ l, d.journal = some l → ¬ Below out l) (spares : Spares (fun _ => False) d d') :
    d'.files.Holds out name document := by
  cases document with
  | none => exact Empty.of_sameShape holds spares.sameShape
  | some document => exact Output.holdsOnly_of_spares holds apart spares

theorem Holds.spares {d d' : Disk} (holds : d.files.Holds out name document)
    (holds' : d'.files.Holds out name document) (spares : Spares (Below out) d d') :
    Spares (fun _ => False) d d' := by
  refine ⟨spares.current, spares.journal, fun q _ => ?_⟩
  by_cases below : Below out q
  · refine .inl ?_
    cases document with
    | none => rw [holds.2 q below, holds'.2 q below]
    | some document => rw [holds.2 q below, holds'.2 q below]
  · exact spares.entries q below

/-- Where the way to the directory is still open, it holds the document, or nothing. -/
theorem Holds.of_filled {base : FileSystem} {dir : Path} {l : Location}
    (filled : Output.Filled base dir out name document fs) (shrunk : Shrunk base fs)
    (entered : fs.enter (steps dir) = .ok l) : fs.Holds out name document := by
  cases document with
  | none => exact Cleared.empty_of_enter filled shrunk entered
  | some document => exact filled.1

end FileSystem

/-! ### Worlds -/

namespace World

variable {w w' : World} {files : FileSystem} {p dir : Path} {out : Location} {name text : String}

theorem look_of_ok {α : Type} {f : FileSystem → Except FileFault α} {a : α}
    (h : f w.files = .ok a) : look f w = (.ok a, w) := by
  rw [look, h]

theorem change_of_ok {f : FileSystem → Except FileFault FileSystem} (h : f w.files = .ok files) :
    change f w = (.ok (), settle { w with files }) := by
  rw [change, h]

theorem change_of_error {f : FileSystem → Except FileFault FileSystem} {fault : FileFault}
    (h : f w.files = .error fault) : change f w = (.error fault, w) := by
  rw [change, h]

theorem makeDirectories_of_find (found : w.files.find p = .ok (out, .directory)) :
    (Machine.makeDirectories p : StateM World _) w = (.ok (), w) := by
  have made : (Machine.makeDirectory p : StateM World _) w = (.error .alreadyExists, w) :=
    change_of_error (makeDirectory_of_find found)
  have there : (Machine.isDirectory p : StateM World _) w = (true, w) := by
    have status : (Machine.status p : StateM World _) w = (.ok .directory, w) := by
      refine look_of_ok ?_
      rw [found]
      rfl
    rw [Machine.isDirectory, run_bind status]
    rfl
  rw [Machine.makeDirectories, Path.ancestors, Path.ancestorsWithin, Machine.makeFirst,
    present_of_find found, if_neg Bool.false_ne_true, run_bind made]
  change (Machine.makeFirst.accept p (.error .alreadyExists) : StateM World _) w = _
  rw [Machine.makeFirst.accept, run_bind there]
  rfl

theorem clearDirectory_of_empty (found : w.files.find dir = .ok (out, .directory))
    (empty : w.files.Empty out) :
    (Machine.clearDirectory dir : StateM World _) w = (.ok 0, w) := by
  have listed : (Machine.list dir : StateM World _) w = (.ok [], w) := by
    refine look_of_ok ?_
    rw [list_of_find found, empty.children]
    rfl
  rw [Machine.clearDirectory, run_bind listed]
  rfl

theorem clearDirectory_of_holdsOnly (valid : ValidName name)
    (short : name.utf8ByteSize ≤ nameBound) (screened : screen (dir.join ⟨name⟩) = .ok ())
    (found : w.files.find dir = .ok (out, .directory))
    (holds : w.files.HoldsOnly out name (.file text)) :
    (Machine.clearDirectory dir : StateM World _) w =
      (.ok 1, settle { w with files := w.files.prune (out ++ [name]) }) := by
  have listed : (Machine.list dir : StateM World _) w = (.ok [(name, false)], w) := by
    refine look_of_ok ?_
    rw [list_of_find found, holds.children]
    simp [holds.entry]
  have removed : (Machine.removeFile (dir.join ⟨name⟩) : StateM World _) w =
      (.ok (), settle { w with files := w.files.prune (out ++ [name]) }) :=
    change_of_ok (removeFile_join (present_of_find found) valid screened short
      (find_directory_iff.mp found).2 holds.entry)
  rw [Machine.clearDirectory, run_bind listed]
  change (Machine.removeAll dir [(name, false)] : StateM World _) w = _
  rw [Machine.removeAll, if_neg Bool.false_ne_true, run_bind removed]
  rfl

end World

namespace Output

variable {w : World} {dir : Path} {out : Location} {name : String} {d : Document}
  {document : Option Document} {logger : Logger}

structure Screened (dir : Path) (name : String) : Prop where
  valid : ValidName name
  short : name.utf8ByteSize ≤ nameBound
  screened : screen (dir.join ⟨name⟩) = .ok ()

theorem screened_of_writeWhole {σ : Type} [Machine (StateM σ)] [OnDisk σ] {s s' : σ}
    (present : dir.isEmpty = false) (valid : ValidName name) (validDraft : ValidName (name ++ ".tmp"))
    (named : d.path = dir.join ⟨name⟩) (run : (writeWhole d : StateM σ _) s = (.ok (), s')) :
    Screened dir name ∧ Screened dir (name ++ ".tmp") := by
  unfold writeWhole at run
  rw [named, draftOf_join valid validDraft] at run
  obtain ⟨wrote, mid, -, run⟩ := bind_run run
  cases wrote with
  | error fault =>
    obtain ⟨wrong, -⟩ := pure_run run
    cases wrong
  | ok =>
    obtain ⟨moved, last, moving, run⟩ := bind_run run
    cases moved with
    | error fault =>
      obtain ⟨removed, after, -, run⟩ := bind_run run
      obtain ⟨wrong, -⟩ := pure_run run
      cases wrong
    | ok =>
      obtain ⟨files, changed, -⟩ := (OnDisk.renameFile _ _ _ _ _ moving).1 rfl
      obtain ⟨l, a, l', b, moved, source, target, -⟩ := renameFile_eq_ok changed
      obtain ⟨screened, -, short, -⟩ := (slot_join_eq_ok_iff present validDraft).mp source
      obtain ⟨screened', -, short', -⟩ := (slot_join_eq_ok_iff present valid).mp target
      exact ⟨⟨valid, short', screened'⟩, ⟨validDraft, short, screened⟩⟩

theorem writeWhole_of_empty (file : Screened dir name) (draft : Screened dir (name ++ ".tmp"))
    (named : d.path = dir.join ⟨name⟩) (present : dir.isEmpty = false)
    (entered : w.files.enter (steps dir) = .ok out) (empty : w.files.Empty out) :
    ∃ w', (writeWhole d : StateM World _) w = (.ok (), w') := by
  have onward := root_not_mem_tail_steps dir
  have free := empty.2 _ (Location.below_child out (name ++ ".tmp"))
  have holds := empty.put (name ++ ".tmp") (.file d.contents)
  obtain ⟨mid, written, same⟩ : ∃ mid, (Machine.writeText (dir.join ⟨name ++ ".tmp"⟩) d.contents :
      StateM World _) w = (.ok (), mid) ∧
        mid.files = w.files.put (out ++ [name ++ ".tmp"]) (.file d.contents) :=
    ⟨_, World.change_of_ok
      (writeText_join present draft.valid draft.screened draft.short entered free), rfl⟩
  obtain ⟨last, moved⟩ : ∃ last, (Machine.renameFile (dir.join ⟨name ++ ".tmp"⟩)
      (dir.join ⟨name⟩) : StateM World _) mid = (.ok (), last) := by
    refine ⟨_, World.change_of_ok (renameFile_join present draft.valid draft.screened draft.short
      ?_ file.valid file.screened file.short (same ▸ holds.entry) ?_)⟩
    · rw [same]
      exact enter_put entered onward free
    · rw [same, holds.2 _ (Location.below_child out name)]
      split <;> simp
  refine ⟨last, ?_⟩
  rw [writeWhole, named, draftOf_join file.valid draft.valid, run_bind written]
  dsimp only
  rw [run_bind moved]
  rfl

theorem clearDirectory_of_holds (screened : document ≠ none → Screened dir name) (sound : (disk w).Sound)
    (found : w.files.find dir = .ok (out, .directory)) (holds : w.files.Holds out name document) :
    ∃ count w', (Machine.clearDirectory dir : StateM World _) w = (.ok count, w') ∧
      Confined out (disk w) (disk w') ∧ w'.files.Empty out ∧
      w'.files.enter (steps dir) = .ok out := by
  have entered := (find_directory_iff.mp found).2
  cases document with
  | none =>
    exact ⟨_, _, World.clearDirectory_of_empty found holds, sound.confined out, holds, entered⟩
  | some d =>
    have file := screened nofun
    have holds : w.files.HoldsOnly out name (.file d.contents) := holds
    have thinned : Thinned (Below out) w.files (w.files.prune (out ++ [name])) :=
      (thinned_prune (by simp)).mono fun q => Location.below_of_child_prefix
    refine ⟨_, _, World.clearDirectory_of_holdsOnly file.valid file.short file.screened found holds,
      ?_, holds.prune, ?_⟩
    · have settled : disk (World.settle { w with files := w.files.prune (out ++ [name]) }) =
          (disk w).renew (w.files.prune (out ++ [name])) := World.settle_eq w _
      rw [settled]
      exact (sound.loses_renew thinned).confined
    · exact enter_pruneFile sound.tree entered (root_not_mem_tail_steps dir) (by simp) holds.entry

/-- A second writing of the same document succeeds, changes nothing outside the directory, and
leaves there what was there. -/
theorem write_again (screened : document ≠ none →
      Screened dir name ∧ Screened dir (name ++ ".tmp"))
    (named : ∀ d, document = some d → d.path = dir.join ⟨name⟩) (sound : (disk w).Sound)
    (found : w.files.find dir = .ok (out, .directory)) (holds : w.files.Holds out name document) :
    ∃ w', (write logger dir document : StateM World _) w = (.ok (), w') ∧
      Spares (Below out) (disk w) (disk w') ∧ w'.files.Holds out name document := by
  obtain ⟨count, cleared, clears, first, empty, entered⟩ :=
    clearDirectory_of_holds (fun due => (screened due).1) sound found holds
  obtain ⟨logged, logs, quiet⟩ := exists_log logger (.outputCleared dir count) cleared
  have second := first.sound.confined_of_spares out quiet
  have empty := empty.of_sameShape quiet.sameShape
  have entered : logged.files.enter (steps dir) = .ok out :=
    enter_congr entered quiet.current (fun q _ => quiet.sameShape q) empty.1
  unfold write
  rw [run_bind (World.makeDirectories_of_find found)]
  dsimp only
  rw [run_bind clears]
  dsimp only
  rw [run_bind logs]
  cases document with
  | none => exact ⟨logged, rfl, (first.trans second).spares, empty⟩
  | some d =>
    obtain ⟨file, draft⟩ := screened nofun
    have path := named d rfl
    obtain ⟨last, writes⟩ :=
      writeWhole_of_empty file draft path (present_of_find found) entered empty
    have ready : Ready dir out logged.files := fun l there => by
      rw [entered] at there
      exact ⟨(Except.ok.inj there).symm, empty⟩
    obtain ⟨third, done⟩ := writeWhole_run (present_of_find found) file.valid draft.valid path
      second.sound ready writes
    refine ⟨last, ?_, ((first.trans second).trans third).spares, (done rfl).1⟩
    dsimp only
    rw [run_bind writes]
    rfl

end Output

end ShieldPolicy
