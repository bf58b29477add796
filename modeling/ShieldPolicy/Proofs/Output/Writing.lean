import ShieldPolicy.Output
import ShieldPolicy.Proofs.Output.Clearing

/-!
Writing the output. A document is written wholly or not at all, and nothing outside the output
directory changes.
-/

namespace ShieldPolicy

open FileSystem Disk OnDisk
open Location (Below)

namespace FileSystem

variable {fs fs' : FileSystem} {out l q : Location} {name other : String} {dir : Path} {e : Entry}

/-! ### One entry in a directory -/

theorem Empty.put (empty : fs.Empty out) (name : String) (e : Entry) :
    (fs.put (out ++ [name]) e).HoldsOnly out name e := by
  have nonroot : out ++ [name] ≠ [] := by simp
  refine ⟨?_, fun q below => ?_⟩
  · rw [entry?_put nonroot, if_neg (by simp)]
    exact empty.1
  · rw [entry?_put nonroot, empty.2 q below]

theorem HoldsOnly.prune (holds : fs.HoldsOnly out name e) :
    (fs.prune (out ++ [name])).Empty out := by
  have nonroot : out ++ [name] ≠ [] := by simp
  refine ⟨?_, fun q below => ?_⟩
  · rw [entry?_prune nonroot, if_neg (Location.not_prefix_parent out name)]
    exact holds.1
  · rw [entry?_prune nonroot]
    split
    · rfl
    · rename_i outside
      rw [holds.2 q below, if_neg]
      rintro rfl
      exact outside (List.prefix_refl _)

theorem HoldsOnly.entry (holds : fs.HoldsOnly out name e) : fs.entry? (out ++ [name]) = some e := by
  rw [holds.2 _ (Location.below_child out name), if_pos rfl]

theorem fileSlot_join (present : dir.isEmpty = false) (valid : ValidName name)
    (h : fs.fileSlot (dir.join ⟨name⟩) = .ok l) : ∃ place, fs.enter (steps dir) = .ok place ∧
      ((∀ target, fs.entry? (place ++ [name]) ≠ some (.link target)) → l = place ++ [name]) := by
  obtain ⟨⟨place, last⟩, slot, h⟩ := bind_ok h
  obtain ⟨screened, entered, short, same⟩ := (slot_join_eq_ok_iff present valid).mp slot
  cases same
  dsimp only at h
  rw [endsOpen_join_name present valid] at h
  obtain ⟨l', resolved, h⟩ := bind_ok h
  refine ⟨place, entered, fun solid => ?_⟩
  rw [resolve_join_of_enter present valid screened short entered solid] at resolved
  split at h
  · cases h
  · cases h
    exact (Except.ok.inj resolved).symm

theorem find_join (present : dir.isEmpty = false) (valid : ValidName name)
    (screened : screen (dir.join ⟨name⟩) = .ok ()) (short : name.utf8ByteSize ≤ nameBound)
    (entered : fs.enter (steps dir) = .ok l) (entry : fs.entry? (l ++ [name]) = some e)
    (solid : ∀ target, e ≠ .link target) :
    fs.find (dir.join ⟨name⟩) = .ok (l ++ [name], e) := by
  refine find_eq_ok_iff.mpr ⟨resolve_join_of_enter present valid screened short entered ?_, entry⟩
  intro target same
  rw [entry] at same
  exact solid target (Option.some.inj same)

theorem Cleared.no_file {base : FileSystem} {text : String} (cleared : Cleared base dir out fs)
    (entry : fs.entry? q = some (.file text)) : ¬ Below out q := by
  intro below
  rcases cleared with ⟨empty, -⟩ | ⟨left, -, -, holds⟩
  · rw [empty.2 q below] at entry
    cases entry
  · rw [holds q below] at entry
    split at entry <;> cases entry

/-! ### What depends on no text -/

theorem shrunk_of_sameShape (current : fs'.current = fs.current)
    (same : ∀ q, SameShape fs fs' q) : Shrunk fs fs' := by
  refine ⟨current, fun {q e} entry kind => ?_⟩
  cases e with
  | directory => exact (same q).symm.of_directory entry
  | link target => exact (same q).symm.of_link entry
  | file text => cases kind

theorem Empty.of_sameShape (empty : fs.Empty out) (same : ∀ q, SameShape fs fs' q) :
    fs'.Empty out :=
  ⟨(same out).of_directory empty.1, fun q below => (same q).of_none (empty.2 q below)⟩

theorem Cleared.of_sameShape {base : FileSystem} (cleared : Cleared base dir out fs)
    (same : ∀ q, SameShape fs fs' q) : Cleared base dir out fs' := by
  rcases cleared with ⟨empty, around⟩ | ⟨name, through, here, holds⟩
  · exact .inl ⟨empty.of_sameShape same, around⟩
  · refine .inr ⟨name, through, (same out).of_directory here, fun q below => ?_⟩
    have entry := holds q below
    split
    · rename_i child
      exact (same q).of_directory (by rw [entry, if_pos child])
    · rename_i other
      exact (same q).of_none (by rw [entry, if_neg other])

end FileSystem

namespace Disk

/-- Only what is in a directory has changed, and nothing there is new but files. -/
structure Confined (out : Location) (d d' : Disk) : Prop where
  spares : Spares (Below out) d d'
  shrunk : Shrunk d.files d'.files
  sound : d'.Sound

variable {d d' d'' : Disk} {out : Location} {name text : String}

theorem Sound.confined (sound : d.Sound) (out : Location) : Confined out d d :=
  ⟨Spares.refl _ d, Shrunk.refl d.files, sound⟩

theorem Confined.trans (first : Confined out d d') (second : Confined out d' d'') :
    Confined out d d'' :=
  ⟨first.spares.trans second.spares, first.shrunk.trans second.shrunk, second.sound⟩

theorem Loses.confined (loses : Loses (Below out) d d') : Confined out d d' :=
  ⟨loses.spares, loses.files.shrunk, loses.sound⟩

theorem Spares.sameShape (spares : Spares (fun _ => False) d d') (q : Location) :
    SameShape d.files d'.files q :=
  (spares.entries q id).sameShape

theorem Spares.find_directory_iff {p : Path} (spares : Spares (fun _ => False) d d') :
    d'.files.find p = .ok (out, .directory) ↔ d.files.find p = .ok (out, .directory) := by
  rw [find_eq_ok_iff, find_eq_ok_iff, (spares.sameShape out).directory_iff,
    resolve_congr spares.current fun q _ => spares.sameShape q]

theorem Sound.confined_of_spares (sound : d.Sound) (out : Location)
    (spares : Spares (fun _ => False) d d') : Confined out d d' :=
  ⟨spares.within, shrunk_of_sameShape spares.current spares.sameShape,
    sound.of_spares spares⟩

theorem confined_renew {files : FileSystem} (tree : files.WellFormed)
    (spares : ∀ q, ¬ Below out q → files.entry? q = d.files.entry? q)
    (shrunk : Shrunk d.files files) : Confined out d (d.renew files) :=
  ⟨spares_renew shrunk.current spares, shrunk, sound_renew tree⟩

end Disk

namespace FileSystem

variable {fs : FileSystem} {out q : Location} {name text : String}

theorem entry?_put_outside {e : Entry} (outside : ¬ Below out q) :
    FileSystem.entry? (fs.put (out ++ [name]) e) q = fs.entry? q := by
  rw [entry?_put (by simp), if_neg]
  rintro rfl
  exact outside (Location.below_child out name)

theorem shrunk_putFile {l : Location} (nonroot : l ≠ []) : Shrunk fs (fs.put l (.file text)) := by
  refine ⟨rfl, fun {q e} entry kind => ?_⟩
  rw [entry?_put nonroot] at entry
  split at entry
  · cases entry
    cases kind
  · exact entry

theorem entry?_prune_outside (outside : ¬ Below out q) :
    FileSystem.entry? (fs.prune (out ++ [name])) q = fs.entry? q := by
  rw [entry?_prune (by simp), if_neg fun within => outside (Location.below_of_child_prefix within)]

end FileSystem

namespace Output

theorem draftOf_join {dir : Path} {name : String} (valid : ValidName name)
    (validDraft : ValidName (name ++ ".tmp")) :
    draftOf (dir.join ⟨name⟩) = dir.join ⟨name ++ ".tmp"⟩ := by
  simp only [draftOf, Path.join, Path.isAbsolute_name valid, Path.isAbsolute_name validDraft,
    Bool.false_eq_true, if_false]
  split <;> simp only [String.append_assoc]

variable {σ : Type} [Machine (StateM σ)] [OnDisk σ] {s s' : σ} {dir : Path} {out : Location}
  {name : String} {d : Document} {r : Except FileFault Unit}

/-- Whoever still reaches a directory reaches it at this place, and finds it empty. -/
def Ready (dir : Path) (out : Location) (fs : FileSystem) : Prop :=
  ∀ l, fs.enter (steps dir) = .ok l → l = out ∧ fs.Empty out

theorem ready_of_cleared {base fs : FileSystem} (entered : base.enter (steps dir) = .ok out)
    (shrunk : Shrunk base fs) (cleared : Cleared base dir out fs) : Ready dir out fs := by
  intro l there
  have before := (enter_of_shrunk shrunk (root_not_mem_tail_steps dir) there).1
  rw [entered] at before
  exact ⟨(Except.ok.inj before).symm, cleared.empty_of_enter shrunk there⟩

theorem writeDraft_run {text : String} (present : dir.isEmpty = false) (valid : ValidName name)
    (sound : (disk s).Sound) (ready : Ready dir out (disk s).files)
    (run : (Machine.writeText (dir.join ⟨name⟩) text : StateM σ _) s = (r, s')) :
    disk s' = disk s ∧ r ≠ .ok () ∨ Confined out (disk s) (disk s') ∧
      ∃ written, (disk s').files.HoldsOnly out name (.file written) ∧
        (r = .ok () → written = text) := by
  have placed {l : Location} {written : String}
      (slot : (disk s).files.fileSlot (dir.join ⟨name⟩) = .ok l)
      (same : disk s' = (disk s).renew ((disk s).files.put l (.file written))) :
      Confined out (disk s) (disk s') ∧ (disk s').files.HoldsOnly out name (.file written) := by
    obtain ⟨place, entered, at_⟩ := fileSlot_join present valid slot
    obtain ⟨rfl, empty⟩ := ready place entered
    have free := empty.2 _ (Location.below_child place name)
    obtain rfl := at_ fun target => by rw [free]; simp
    rw [same]
    exact ⟨confined_renew (sound.tree.putFile slot written) (fun q => entry?_put_outside)
      (shrunk_putFile (by simp)), empty.put name _⟩
  obtain ⟨done, failed⟩ := OnDisk.writeText _ _ s s' r run
  cases r with
  | ok =>
    obtain ⟨files, changed, same⟩ := done rfl
    obtain ⟨l, slot, rfl⟩ := writeText_eq_ok changed
    obtain ⟨confined, holds⟩ := placed slot same
    exact .inr ⟨confined, text, holds, fun _ => rfl⟩
  | error fault =>
    obtain same | ⟨files, ⟨l, written, slot, rfl⟩, same⟩ := failed fault rfl
    · exact .inl ⟨same, nofun⟩
    · obtain ⟨confined, holds⟩ := placed slot same
      exact .inr ⟨confined, written, holds, nofun⟩

theorem renameDraft_run {draft text : String} (present : dir.isEmpty = false)
    (validDraft : ValidName draft) (valid : ValidName name) (sound : (disk s).Sound)
    (holds : (disk s).files.HoldsOnly out draft (.file text))
    (reaches : ∀ l, (disk s).files.enter (steps dir) = .ok l → l = out)
    (run : (Machine.renameFile (dir.join ⟨draft⟩) (dir.join ⟨name⟩) : StateM σ _) s = (r, s')) :
    disk s' = disk s ∧ r ≠ .ok () ∨ Confined out (disk s) (disk s') ∧
      (disk s').files.HoldsOnly out name (.file text) ∧
      (disk s').files.find (dir.join ⟨name⟩) = .ok (out ++ [name], .file text) := by
  obtain ⟨done, failed⟩ := OnDisk.renameFile _ _ s s' r run
  cases r with
  | error fault =>
    obtain same | ⟨_, torn, _⟩ := failed fault rfl
    · exact .inl ⟨same, nofun⟩
    · exact torn.elim
  | ok =>
    obtain ⟨files, changed, same⟩ := done rfl
    obtain ⟨l, a, l', b, moved, source, target, entry, -, rfl⟩ := renameFile_eq_ok changed
    obtain ⟨-, entered, -, named⟩ := (slot_join_eq_ok_iff present validDraft).mp source
    obtain ⟨screened, entered', short, named'⟩ := (slot_join_eq_ok_iff present valid).mp target
    obtain rfl := reaches l entered
    obtain rfl := reaches l' entered'
    cases named
    cases named'
    rw [holds.entry] at entry
    cases entry
    have empty := holds.prune
    have free := empty.2 _ (Location.below_child l' name)
    have now := empty.put name (.file text)
    -- No directory and no link went with the draft, so the way to the directory is as it was.
    have kept : Shrunk (((disk s).files.prune (l' ++ [draft])).put (l' ++ [name]) (.file text))
        (disk s).files := by
      refine ⟨rfl, fun {q e} entry kind => ?_⟩
      by_cases below : Below l' q
      · rw [holds.2 q below] at entry
        split at entry <;> cases entry
        cases kind
      · rw [entry?_put_outside below, entry?_prune_outside below, entry]
    have found := find_join present valid screened short
      (enter_of_shrunk kept (root_not_mem_tail_steps dir) entered').1 now.entry nofun
    rw [same]
    refine .inr ⟨confined_renew ?_ (fun q outside => ?_) ?_, now, found⟩
    · refine (sound.tree.prune (by simp)).put valid empty.1 fun here => ?_
      rw [free] at here
      cases here
    · rw [entry?_put_outside outside, entry?_prune_outside outside]
    · exact (thinned_prune (by simp)).shrunk.trans (shrunk_putFile (by simp))

theorem removeDraft_run {draft : String} (present : dir.isEmpty = false)
    (validDraft : ValidName draft) (sound : (disk s).Sound)
    (reaches : ∀ l, (disk s).files.enter (steps dir) = .ok l → l = out)
    (run : (Machine.removeFile (dir.join ⟨draft⟩) : StateM σ _) s = (r, s')) :
    Confined out (disk s) (disk s') := by
  rcases removeFile_loses sound run with same | ⟨l, last, slot, loses⟩
  · rw [same]
    exact sound.confined out
  · obtain ⟨-, entered, -, -⟩ := (slot_join_eq_ok_iff present validDraft).mp slot
    obtain rfl := reaches l entered
    exact (loses.mono fun q => Location.below_of_child_prefix).confined

theorem writeWhole_run (present : dir.isEmpty = false) (valid : ValidName name)
    (validDraft : ValidName (name ++ ".tmp")) (named : d.path = dir.join ⟨name⟩)
    (sound : (disk s).Sound) (ready : Ready dir out (disk s).files)
    (run : (writeWhole d : StateM σ _) s = (r, s')) :
    Confined out (disk s) (disk s') ∧
      (r = .ok () → (disk s').files.HoldsOnly out name (.file d.contents) ∧
        (disk s').files.find (dir.join ⟨name⟩) = .ok (out ++ [name], .file d.contents)) := by
  unfold writeWhole at run
  rw [named, draftOf_join valid validDraft] at run
  obtain ⟨wrote, mid, writing, run⟩ := bind_run run
  rcases writeDraft_run present validDraft sound ready writing with
    ⟨same, failed⟩ | ⟨first, written, holds, whole⟩
  · split at run
    · obtain ⟨rfl, rfl⟩ := pure_run run
      exact ⟨same ▸ sound.confined out, nofun⟩
    · exact absurd rfl failed
  have reaches (l : Location) (entered : (disk mid).files.enter (steps dir) = .ok l) : l = out :=
    (ready l (enter_of_shrunk first.shrunk (root_not_mem_tail_steps dir) entered).1).1
  split at run
  · obtain ⟨rfl, rfl⟩ := pure_run run
    exact ⟨first, nofun⟩
  · obtain rfl := whole rfl
    obtain ⟨moved, after, moving, run⟩ := bind_run run
    rcases renameDraft_run present validDraft valid first.sound holds reaches moving with
      ⟨same, failed⟩ | ⟨second, holds⟩
    · split at run
      · exact absurd rfl failed
      · obtain ⟨removed, last, removal, run⟩ := bind_run run
        obtain ⟨rfl, rfl⟩ := pure_run run
        rw [← same] at first reaches
        exact ⟨first.trans (removeDraft_run present validDraft first.sound reaches removal), nofun⟩
    · split at run
      · obtain ⟨rfl, rfl⟩ := pure_run run
        exact ⟨first.trans second, fun _ => holds⟩
      · obtain ⟨removed, last, removal, run⟩ := bind_run run
        obtain ⟨rfl, rfl⟩ := pure_run run
        refine ⟨(first.trans second).trans (removeDraft_run present validDraft second.sound
          (fun l entered => reaches l ?_) removal), nofun⟩
        exact (enter_of_shrunk second.shrunk (root_not_mem_tail_steps dir) entered).1

/-! ### The output directory -/

/-- The disk once the missing directories on the way to one were made, as far as they could be. -/
def furnished (dir : Path) (s : σ) : Disk := disk ((Machine.makeDirectories dir : StateM σ _) s).2

theorem prepare_run {logger : Logger} {r : Except GenerationError Unit} (sound : (disk s).Sound)
    (run : (write logger dir none : StateM σ _) s = (r, s')) :
    ∃ made, made = furnished dir s ∧ Made (disk s) made ∧
      ((∃ fault, r = .error (.output .createDirectory dir fault)) ∧ disk s' = made ∨
        (∃ fault, r = .error (.output .cleanup dir fault)) ∧
          (disk s' = made ∨ ∃ out, made.files.find dir = .ok (out, .directory) ∧
            Confined out made (disk s')) ∨
        r = .ok () ∧ ∃ out, made.files.find dir = .ok (out, .directory) ∧
          Confined out made (disk s') ∧ Cleared made.files dir out (disk s').files) := by
  obtain ⟨making, mid, makes, run⟩ := bind_run run
  have made := makeDirectories_made sound makes
  refine ⟨disk mid, by rw [furnished, makes], made, ?_⟩
  split at run
  · obtain ⟨rfl, rfl⟩ := pure_run run
    exact .inl ⟨⟨_, rfl⟩, rfl⟩
  obtain ⟨clearing, after, clears, run⟩ := bind_run run
  have cleared := clearDirectory_run made.sound clears
  split at run
  · obtain ⟨rfl, rfl⟩ := pure_run run
    refine .inr (.inl ⟨⟨_, rfl⟩, ?_⟩)
    rcases cleared with ⟨same, -⟩ | ⟨out, found, loses, -⟩
    · exact .inl same
    · exact .inr ⟨out, found, loses.confined⟩
  · rename_i count
    obtain ⟨⟨⟩, last, logged, run⟩ := bind_run run
    obtain ⟨rfl, rfl⟩ := pure_run run
    rcases cleared with ⟨-, failed⟩ | ⟨out, found, loses, done⟩
    · exact absurd rfl (failed count)
    · have log := log_spares logged
      exact .inr (.inr ⟨rfl, out, found,
        loses.confined.trans (loses.sound.confined_of_spares out log),
        (done count rfl).2.of_sameShape log.sameShape⟩)

omit [OnDisk σ] in
/-- A run with a document prepares the directory, as one without does, and then writes it. When that
fails the directory is cleared a second time. -/
theorem write_some {logger : Logger} {r : Except GenerationError Unit}
    (run : (write logger dir (some d) : StateM σ _) s = (r, s')) :
    (write logger dir none : StateM σ _) s = (r, s') ∧ r ≠ .ok () ∨
      ∃ mid, (write logger dir none : StateM σ _) s = (.ok (), mid) ∧
        ((writeWhole d : StateM σ _) mid = (.ok (), s') ∧ r = .ok () ∨
          ∃ fault torn cleared after, (writeWhole d : StateM σ _) mid = (.error fault, torn) ∧
            (Machine.clearDirectory dir : StateM σ _) torn = (cleared, after) ∧
            ((∃ count, cleared = .ok count) ∧ s' = after ∨
              ∃ e, (logger.log e : StateM σ _) after = ((), s')) ∧
            r = .error (.output .write d.path fault)) := by
  obtain ⟨making, made, makes, run⟩ := bind_run run
  rw [write, run_bind makes]
  split at run
  · obtain ⟨rfl, rfl⟩ := pure_run run
    exact .inl ⟨rfl, nofun⟩
  obtain ⟨clearing, emptied, clears, run⟩ := bind_run run
  rw [run_bind clears]
  split at run
  · obtain ⟨rfl, rfl⟩ := pure_run run
    exact .inl ⟨rfl, nofun⟩
  obtain ⟨⟨⟩, mid, logged, run⟩ := bind_run run
  rw [run_bind logged]
  refine .inr ⟨mid, rfl, ?_⟩
  obtain ⟨wrote, torn, writing, run⟩ := bind_run run
  split at run
  · obtain ⟨rfl, rfl⟩ := pure_run run
    exact .inl ⟨writing, rfl⟩
  · rename_i fault
    obtain ⟨cleared, after, clears, run⟩ := bind_run run
    refine .inr ⟨fault, torn, cleared, after, writing, clears, ?_⟩
    split at run
    · obtain ⟨rfl, rfl⟩ := pure_run run
      exact ⟨.inl ⟨⟨_, rfl⟩, rfl⟩, rfl⟩
    · obtain ⟨⟨⟩, last, logged, run⟩ := bind_run run
      obtain ⟨rfl, rfl⟩ := pure_run run
      exact ⟨.inr ⟨_, logged⟩, rfl⟩

def Filled (base : FileSystem) (dir : Path) (out : Location) (name : String)
    (document : Option Document) (fs : FileSystem) : Prop :=
  match document with
  | some d => fs.HoldsOnly out name (.file d.contents) ∧
      fs.find (dir.join ⟨name⟩) = .ok (out ++ [name], .file d.contents)
  | none => Cleared base dir out fs

theorem holdsOnly_of_spares {d d' : Disk} {text : String}
    (holds : d.files.HoldsOnly out name (.file text))
    (apart : ∀ l, d.journal = some l → ¬ Below out l) (spares : Spares (fun _ => False) d d') :
    d'.files.HoldsOnly out name (.file text) := by
  refine ⟨(spares.sameShape out).of_directory holds.1, fun q below => ?_⟩
  rcases spares.entries q id with same | ⟨logged, -⟩
  · rw [same, holds.2 q below]
  · exact absurd below (apart q logged)

theorem Filled.of_spares {base : FileSystem} {document : Option Document} {d d' : Disk}
    (filled : Filled base dir out name document d.files)
    (apart : ∀ l, d.journal = some l → ¬ Below out l) (spares : Spares (fun _ => False) d d') :
    Filled base dir out name document d'.files := by
  cases document with
  | none => exact Cleared.of_sameShape filled spares.sameShape
  | some document =>
    obtain ⟨holds, found⟩ := filled
    have holds' := holdsOnly_of_spares holds apart spares
    refine ⟨holds', ?_⟩
    rw [find_congr spares.current (fun q _ => spares.sameShape q), found]
    intro l resolved
    rw [(find_eq_ok_iff.mp found).1] at resolved
    cases resolved
    rw [holds.entry, holds'.entry]

/-- When the directory can still be reached after the writing failed, it holds no directory, and so
clearing it leaves nothing. -/
theorem empty_of_second_clearing {mid torn after : FileSystem} (tree : torn.WellFormed)
    (ready : Ready dir out mid) (shrunk : Shrunk mid torn)
    (entered : torn.enter (steps dir) = .ok out) (cleared : Cleared torn dir out after) :
    after.Empty out := by
  rcases cleared with ⟨empty, -⟩ | ⟨left, through, -⟩
  · exact empty
  · have here := shrunk.entries (LeadsThrough.directory tree entered through) rfl
    obtain ⟨-, empty⟩ := ready out (enter_of_shrunk shrunk (root_not_mem_tail_steps dir) entered).1
    rw [empty.2 _ (Location.below_child out left)] at here
    cases here

theorem recover_run {logger : Logger} {torn after : σ} {mid : FileSystem}
    {cleared : Except FileFault Nat} (sound : (disk torn).Sound) (ready : Ready dir out mid)
    (shrunk : Shrunk mid (disk torn).files)
    (clears : (Machine.clearDirectory dir : StateM σ _) torn = (cleared, after))
    (logged : (∃ count, cleared = .ok count) ∧ s' = after ∨
      ∃ e, (logger.log e : StateM σ _) after = ((), s')) :
    Confined out (disk torn) (disk s') ∧
      ∀ count, cleared = .ok count → (disk s').files.Empty out := by
  have log : Spares (fun _ => False) (disk after) (disk s') := by
    rcases logged with ⟨-, rfl⟩ | ⟨e, logged⟩
    · exact Spares.refl _ _
    · exact log_spares logged
  rcases clearDirectory_run sound clears with ⟨same, failed⟩ | ⟨place, found, loses, done⟩
  · rw [same] at log
    exact ⟨sound.confined_of_spares out log, fun count counted => absurd counted (failed count)⟩
  · have entered := (find_directory_iff.mp found).2
    obtain ⟨rfl, -⟩ := ready place
      (enter_of_shrunk shrunk (root_not_mem_tail_steps dir) entered).1
    refine ⟨loses.confined.trans (loses.sound.confined_of_spares place log), fun count counted => ?_⟩
    exact (empty_of_second_clearing sound.tree ready shrunk entered
      (done count counted).2).of_sameShape log.sameShape

/-- The writer is all or nothing and stays inside the directory that its path led to once missing
directories were made, whichever operation fails. The second clearing is the one from `torn`. -/
theorem write_outcome {logger : Logger} {document : Option Document}
    {r : Except GenerationError Unit} (sound : (disk s).Sound)
    (valid : ValidName name) (validDraft : ValidName (name ++ ".tmp"))
    (named : ∀ d, document = some d → d.path = dir.join ⟨name⟩)
    (run : (write logger dir document : StateM σ _) s = (r, s')) :
    ∃ made, made = furnished dir s ∧ Made (disk s) made ∧
      (r = .ok () → ∃ out, made.files.find dir = .ok (out, .directory) ∧
        Confined out made (disk s') ∧
        Filled made.files dir out name document (disk s').files ∧
        ∀ l, (disk s').journal = some l → ¬ Below out l) ∧
      (∀ path fault, r = .error (.output .write path fault) → ∃ d out mid torn,
        document = some d ∧ made.files.find dir = .ok (out, .directory) ∧
        (write logger dir none : StateM σ _) s = (.ok (), mid) ∧
        (writeWhole d : StateM σ _) mid = (.error fault, torn) ∧
        ∀ count after, (Machine.clearDirectory dir : StateM σ _) torn = (.ok count, after) →
          (disk s').files.Empty out) ∧
      (∀ path fault, r = .error (.output .createDirectory path fault) → disk s' = made) ∧
      (disk s' = made ∨ ∃ out, made.files.find dir = .ok (out, .directory) ∧
        Spares (Below out) made (disk s')) := by
  have unprepared (prepared : (write logger dir none : StateM σ _) s = (r, s')) (failed : r ≠ .ok ()) :
      ∃ made, made = furnished dir s ∧ Made (disk s) made ∧
        (∀ path fault, r ≠ .error (.output .write path fault)) ∧
        (∀ path fault, r = .error (.output .createDirectory path fault) → disk s' = made) ∧
        (disk s' = made ∨ ∃ out, made.files.find dir = .ok (out, .directory) ∧
          Spares (Below out) made (disk s')) := by
    obtain ⟨made, meant, makes, ⟨⟨fault, rfl⟩, same⟩ | ⟨⟨fault, rfl⟩, rest⟩ | ⟨done, -⟩⟩ :=
      prepare_run sound prepared
    · exact ⟨made, meant, makes, nofun, fun _ _ _ => same, .inl same⟩
    · exact ⟨made, meant, makes, nofun, nofun, rest.imp_right fun ⟨out, found, confined⟩ =>
        ⟨out, found, confined.spares⟩⟩
    · exact absurd done failed
  cases document with
  | none =>
    by_cases done : r = .ok ()
    · subst done
      obtain ⟨made, meant, makes,
        ⟨⟨_, wrong⟩, _⟩ | ⟨⟨_, wrong⟩, _⟩ | ⟨-, out, found, confined, cleared⟩⟩ :=
          prepare_run sound run
      · cases wrong
      · cases wrong
      · refine ⟨made, meant, makes, fun _ => ⟨out, found, confined, cleared, fun l logged => ?_⟩,
          nofun, nofun, .inr ⟨out, found, confined.spares⟩⟩
        obtain ⟨text, entry⟩ := confined.sound.journal logged
        exact cleared.no_file entry
    · obtain ⟨made, meant, makes, other, unmade, spares⟩ := unprepared run done
      exact ⟨made, meant, makes, fun same => absurd same done,
        fun path fault same => absurd same (other path fault), unmade, spares⟩
  | some d =>
    rcases write_some run with ⟨prepared, failed⟩ | ⟨mid, prepared, rest⟩
    · obtain ⟨made, meant, makes, other, unmade, spares⟩ := unprepared prepared failed
      exact ⟨made, meant, makes, fun same => absurd same failed,
        fun path fault same => absurd same (other path fault), unmade, spares⟩
    obtain ⟨made, meant, makes,
      ⟨⟨_, wrong⟩, _⟩ | ⟨⟨_, wrong⟩, _⟩ | ⟨-, out, found, confined, cleared⟩⟩ :=
        prepare_run sound prepared
    · cases wrong
    · cases wrong
    have ready := ready_of_cleared (find_directory_iff.mp found).2 confined.shrunk cleared
    refine ⟨made, meant, makes, ?_⟩
    rcases rest with ⟨written, rfl⟩ | ⟨fault, torn, second, after, failed, clears, logged, rfl⟩
    · obtain ⟨later, holds⟩ := writeWhole_run (present_of_find found) valid validDraft
        (named d rfl) confined.sound ready written
      refine ⟨fun _ => ⟨out, found, confined.trans later, holds rfl, fun l logged => ?_⟩,
        nofun, nofun, .inr ⟨out, found, (confined.trans later).spares⟩⟩
      -- The log file was in place when the directory was cleared.
      obtain ⟨text, entry⟩ := confined.sound.journal (later.spares.journal logged)
      exact cleared.no_file entry
    · obtain ⟨later, -⟩ := writeWhole_run (present_of_find found) valid validDraft
        (named d rfl) confined.sound ready failed
      obtain ⟨last, empty⟩ := recover_run later.sound ready later.shrunk clears logged
      refine ⟨nofun, fun path fault' same => ?_, nofun,
        .inr ⟨out, found, ((confined.trans later).trans last).spares⟩⟩
      cases same
      refine ⟨d, out, mid, torn, rfl, found, prepared, failed, fun count after' again => ?_⟩
      rw [clears] at again
      cases again
      exact empty count rfl

end Output

end ShieldPolicy
