import ShieldPolicy.Proofs.FileSystem.Twin
import ShieldPolicy.Proofs.Machine.Alongside
import ShieldPolicy.Proofs.Output.Again

/-!
Disks that differ in nothing but the text of the log file. A run that does not read the log file
cannot tell them apart, `indifferent_alike`, whatever it logs itself.
-/

namespace ShieldPolicy

open FileSystem

namespace FileSystem

variable {fs fs' : FileSystem} {p : Path} {l dir : Location} {name text text' : String}

theorem resolve_of_fileSlot (h : fs.fileSlot p = .ok l) :
    endsOpen p = false ∧ fs.resolve p true = .ok l ∧ fs.entry? l ≠ some .directory := by
  obtain ⟨⟨place, last⟩, slot, h⟩ := bind_ok h
  cases last with
  | none => cases h
  | some last =>
    dsimp only at h
    split at h
    · cases h
    · rename_i closed
      obtain ⟨l', resolved, h⟩ := bind_ok h
      split at h
      · cases h
      · cases h
        exact ⟨by simpa using closed, resolved, ‹_›⟩

theorem resolve_of_entered (screened : screen p = .ok ()) (closed : endsOpen p = false)
    (last : (steps p).getLast? = some (.name name)) (entered : fs.enter (steps p).dropLast = .ok dir)
    (short : name.utf8ByteSize ≤ nameBound) (entry : fs.entry? (dir ++ [name]) = some (.file text)) :
    fs.resolve p true = .ok (dir ++ [name]) := by
  obtain ⟨reached, here⟩ := enter_eq_ok_iff.mp entered
  obtain ⟨left, onward⟩ := reached.append here
  have way : wholeSteps p = (steps p).dropLast ++ [.name name] := by
    rw [wholeSteps, closed, List.dropLast_append_getLast? _ last]
    simp
  rw [resolve_eq_ok_iff, way]
  exact ⟨screened, (onward (.down here short entry (by simp) .done)).walk_eq⟩

theorem text_of_writeText (h : fs.writeText p text = .ok fs')
    (slot : fs'.slot p = .ok (dir, some name))
    (entry : fs'.entry? (dir ++ [name]) = some (.file text')) : text' = text := by
  obtain ⟨l, written, rfl⟩ := writeText_eq_ok h
  obtain ⟨closed, resolved, other⟩ := resolve_of_fileSlot written
  have nonroot : l ≠ [] := by
    rintro rfl
    exact other rfl
  rw [entry?_put nonroot] at entry
  split at entry
  · cases entry
    rfl
  · rename_i elsewhere
    -- A file that stood at the path before is the one that was written.
    obtain ⟨screened, last, entered, short⟩ := slot_eq_ok slot
    have onward : .root ∉ (steps p).dropLast.tail := fun member => by
      rw [List.tail_dropLast] at member
      exact root_not_mem_tail_steps p (List.dropLast_subset _ member)
    have before := (enter_of_shrunk (shrunk_putFile nonroot) onward entered).1
    rw [resolve_of_entered screened closed last before short entry] at resolved
    cases resolved
    exact absurd rfl elsewhere

end FileSystem

namespace Disk

/-- The same entries at the same places. Only the log file may hold another text. -/
structure Alike (d d' : Disk) : Prop where
  current : d'.files.current = d.files.current
  journal : d'.journal = d.journal
  entries : ∀ q, SameAt d d' q

variable {d d' d'' : Disk} {l : Location} {e : Entry} {text : String}

theorem Alike.refl (d : Disk) : Alike d d := ⟨rfl, rfl, fun _ => .inl rfl⟩

theorem Alike.symm (alike : Alike d d') : Alike d' d where
  current := alike.current.symm
  journal := alike.journal.symm
  entries q := by
    obtain same | ⟨logged, text, text', entry, entry'⟩ := alike.entries q
    · exact .inl same.symm
    · exact .inr ⟨alike.journal.trans logged, text', text, entry', entry⟩

theorem Alike.trans (first : Alike d d') (second : Alike d' d'') : Alike d d'' where
  current := second.current.trans first.current
  journal := second.journal.trans first.journal
  entries q := (first.entries q).trans (first.journal ▸ id) (second.entries q)

theorem Logged.alike (logged : Logged d d') : Alike d d' := by
  obtain rfl | ⟨l, text, opened, rfl⟩ := logged
  · exact Alike.refl _
  · have spares : Spares (fun _ => False) d { d with files := d.files.appendAt l text } :=
      spares_append opened
    exact ⟨spares.current, rfl, fun q => spares.entries q id⟩

theorem Alike.spares (alike : Alike d d') : Spares (fun _ => False) d d' :=
  ⟨alike.current, fun logged => alike.journal ▸ logged, fun q _ => alike.entries q⟩

theorem Alike.twin (alike : Alike d d') : Twin d.files d'.files :=
  ⟨alike.current, fun q => (alike.entries q).sameShape⟩

theorem Alike.entry?_eq (alike : Alike d d') (closed : d.journal = none) (q : Location) :
    d'.files.entry? q = d.files.entry? q := by
  obtain same | ⟨logged, -⟩ := alike.entries q
  · exact same
  · rw [closed] at logged
    cases logged

/-! ### The same change on both sides -/

theorem Alike.put (alike : Alike d d') (nonroot : l ≠ []) (e : Entry) :
    Alike { d with files := d.files.put l e } { d' with files := d'.files.put l e } := by
  refine ⟨alike.current, alike.journal, fun q => ?_⟩
  unfold SameAt
  rw [entry?_put nonroot, entry?_put nonroot]
  split
  · exact .inl rfl
  · exact alike.entries q

theorem Alike.prune (alike : Alike d d') (nonroot : l ≠ []) :
    Alike { d with files := d.files.prune l } { d' with files := d'.files.prune l } := by
  refine ⟨alike.current, alike.journal, fun q => ?_⟩
  unfold SameAt
  rw [entry?_prune nonroot, entry?_prune nonroot]
  split
  · exact .inl rfl
  · exact alike.entries q

theorem Alike.hollow (alike : Alike d d') (l : Location) :
    Alike { d with files := d.files.hollow l } { d' with files := d'.files.hollow l } := by
  refine ⟨alike.current, alike.journal, fun q => ?_⟩
  unfold SameAt
  rw [entry?_hollow, entry?_hollow]
  split
  · exact .inl rfl
  · exact alike.entries q

theorem Alike.uprooted (alike : Alike d d') (p : Path) (nonroot : l ≠ []) :
    Alike { d with files := d.files.uprooted p l } { d' with files := d'.files.uprooted p l } := by
  have emptied := alike.hollow l
  have slot : (d'.files.hollow l).slot p = (d.files.hollow l).slot p := emptied.twin.slot
  unfold FileSystem.uprooted
  rw [slot]
  split
  · exact emptied.prune nonroot
  · exact emptied

theorem Alike.renew {files files' : FileSystem}
    (alike : Alike { d with files } { d' with files := files' }) :
    Alike (d.renew files) (d'.renew files') := by
  have journal : d'.journal = d.journal := alike.journal
  refine ⟨alike.current, ?_, fun q => ?_⟩
  · have kept (l : Location) : (files'.entry? l).any Entry.isFile =
        (files.entry? l).any Entry.isFile := by
      obtain same | ⟨-, text, text', entry, entry'⟩ := alike.entries l
      · rw [same]
      · rw [entry, entry']
        rfl
    simp only [Disk.renew, journal, kept]
  · obtain same | ⟨logged, text, text', entry, entry'⟩ := alike.entries q
    · exact .inl same
    · exact .inr ⟨journal_renew.mpr ⟨logged, text, entry⟩, text, text', entry, entry'⟩

/-! ### Operations on both sides -/

/-- The operation fails alike on both sides, or leaves disks that are alike. -/
def ChangesAlike (f : FileSystem → Except FileFault FileSystem) (d d' : Disk) : Prop :=
  Outcomes Eq (fun files files' => Alike { d with files } { d' with files := files' })
    (f d.files) (f d'.files)

variable {p : Path}

theorem Alike.at_slot {operation : FileSystem → Location → String → Except FileFault FileSystem}
    {fault : FileFault} (alike : Alike d d')
    (each : ∀ dir name, ChangesAlike (fun fs => operation fs dir name) d d') :
    ChangesAlike (fun fs => do
      match ← fs.slot p with
      | (dir, some name) => operation fs dir name
      | (_, none) => .error fault) d d' := by
  unfold ChangesAlike
  beta_reduce
  rw [alike.twin.slot]
  cases d.files.slot p with
  | error fault => exact .error rfl
  | ok slot =>
    obtain ⟨dir, last⟩ := slot
    cases last with
    | none => exact .error rfl
    | some name => exact each dir name

theorem Alike.makeDirectory (alike : Alike d d') :
    ChangesAlike (fun fs => fs.makeDirectory p) d d' := by
  refine alike.at_slot fun dir name => ?_
  unfold ChangesAlike
  beta_reduce
  rw [(alike.twin.shape _).isSome_eq]
  split
  · exact .error rfl
  · exact .ok (alike.put (by simp) _)

theorem Alike.removeFile (alike : Alike d d') : ChangesAlike (fun fs => fs.removeFile p) d d' := by
  refine alike.at_slot fun dir name => ?_
  have shape := alike.twin.shape (dir ++ [name])
  have gone := alike.prune (l := dir ++ [name]) (by simp)
  unfold ChangesAlike
  beta_reduce
  cases entry : d.files.entry? (dir ++ [name]) with
  | none =>
    rw [shape.of_none entry]
    exact .error rfl
  | some e =>
    cases e with
    | directory =>
      rw [shape.of_directory entry]
      exact .error rfl
    | link target =>
      rw [shape.of_link entry]
      dsimp only
      split
      · exact .error rfl
      · exact .ok gone
    | file text =>
      obtain ⟨text', entry'⟩ := shape.of_file entry
      rw [entry']
      dsimp only
      split
      · exact .error rfl
      · exact .ok gone

theorem Alike.removeTree (alike : Alike d d') : ChangesAlike (fun fs => fs.removeTree p) d d' := by
  refine alike.at_slot fun dir name => ?_
  have shape := alike.twin.shape (dir ++ [name])
  unfold ChangesAlike
  beta_reduce
  cases entry : d.files.entry? (dir ++ [name]) with
  | none =>
    rw [shape.of_none entry]
    exact .error rfl
  | some e =>
    cases e with
    | directory =>
      rw [shape.of_directory entry]
      exact .ok (alike.uprooted p (by simp))
    | link target =>
      rw [shape.of_link entry]
      exact .ok (alike.prune (by simp))
    | file text =>
      obtain ⟨text', entry'⟩ := shape.of_file entry
      rw [entry']
      exact .error rfl

theorem Alike.writeText (alike : Alike d d') (text : String) :
    ChangesAlike (fun fs => fs.writeText p text) d d' := by
  unfold ChangesAlike FileSystem.writeText
  beta_reduce
  rw [alike.twin.fileSlot]
  cases slot : d.files.fileSlot p with
  | error fault => exact .error rfl
  | ok l =>
    have nonroot : l ≠ [] := by
      rintro rfl
      exact (resolve_of_fileSlot slot).2.2 rfl
    exact .ok (alike.put nonroot _)

/-- A file that was just written is moved alike, since it is the same on both sides even where it is
the log file. -/
theorem Alike.renameWritten {source target : Path} {fs fs' : FileSystem} {text : String}
    (alike : Alike d d') (written : fs.writeText source text = .ok d.files)
    (written' : fs'.writeText source text = .ok d'.files) :
    ChangesAlike (fun fs => fs.renameFile source target) d d' := by
  unfold ChangesAlike FileSystem.renameFile
  beta_reduce
  rw [alike.twin.slot, alike.twin.slot]
  cases slot : d.files.slot source with
  | error fault => exact .error rfl
  | ok origin =>
    cases d.files.slot target with
    | error fault => exact .error rfl
    | ok goal =>
      obtain ⟨fromDir, fromName⟩ := origin
      obtain ⟨toDir, toName⟩ := goal
      cases fromName with
      | none => exact .error rfl
      | some fromName =>
        cases toName with
        | none => exact .error rfl
        | some toName =>
          have moved : d'.files.entry? (fromDir ++ [fromName]) =
              d.files.entry? (fromDir ++ [fromName]) := by
            obtain same | ⟨-, _, _, entry, entry'⟩ := alike.entries (fromDir ++ [fromName])
            · exact same
            · rw [entry, entry', text_of_writeText written slot entry,
                text_of_writeText written' (alike.twin.slot.trans slot) entry']
          have goal : d'.files.entry? (toDir ++ [toName]) = some .directory ↔
              d.files.entry? (toDir ++ [toName]) = some .directory :=
            (alike.twin.shape _).directory_iff
          simp only [bind, Except.bind, moved, goal]
          split
          · exact .error rfl
          · split
            · exact .error rfl
            · split
              · exact .error rfl
              · exact .ok ((alike.prune (by simp)).put (by simp) _)

end Disk

open Disk OnDisk

namespace World

variable {w w' : World} {logger logger' : Logger}

def Alike (w w' : World) : Prop := Disk.Alike (disk w) (disk w')

theorem Alike.refl (w : World) : Alike w w := Disk.Alike.refl _

theorem Alike.symm (alike : Alike w w') : Alike w' w := Disk.Alike.symm alike

theorem Alike.trans {w'' : World} (first : Alike w w') (second : Alike w' w'') : Alike w w'' :=
  Disk.Alike.trans first second

theorem alongside_look {α : Type} {f : FileSystem → Except FileFault α}
    (twins : ∀ {fs fs'}, Twin fs fs' → f fs' = f fs) : Alongside Alike Eq (look f) (look f) :=
  fun _ _ alike => ⟨(twins alike.twin).symm, alike⟩

theorem alike_settle {files files' : FileSystem}
    (alike : Disk.Alike { disk w with files } { disk w' with files := files' }) :
    Alike (settle { w with files }) (settle { w' with files := files' }) := by
  change Disk.Alike ⟨_, _⟩ ⟨_, _⟩
  rw [settle_eq, settle_eq]
  exact alike.renew

theorem change_alike {f : FileSystem → Except FileFault FileSystem} (alike : Alike w w')
    (changes : ChangesAlike f (disk w) (disk w')) :
    (change f w).1 = (change f w').1 ∧ Alike (change f w).2 (change f w').2 := by
  have outcomes : Outcomes _ _ (f w.files) (f w'.files) := changes
  unfold change
  generalize f w.files = r, f w'.files = r' at outcomes
  cases outcomes with
  | ok changed => exact ⟨rfl, alike_settle changed⟩
  | error same => exact ⟨by rw [same], alike⟩

theorem alongside_change {f : FileSystem → Except FileFault FileSystem}
    (changes : ∀ {d d'}, Disk.Alike d d' → ChangesAlike f d d') :
    Alongside Alike Eq (change f) (change f) :=
  fun _ _ alike => change_alike alike (changes alike)

theorem change_then {α : Type} {f : FileSystem → Except FileFault FileSystem}
    {next : Except FileFault Unit → StateM World α} (alike : Alike w w')
    (changes : ChangesAlike f (disk w) (disk w'))
    (refused : ∀ fault, Alongside Alike Eq (next (.error fault)) (next (.error fault)))
    (done : ∀ {files files'}, f w.files = .ok files → f w'.files = .ok files' →
      Disk.Alike { disk w with files } { disk w' with files := files' } →
      (next (.ok ()) (settle { w with files })).1 =
          (next (.ok ()) (settle { w' with files := files' })).1 ∧
        Alike (next (.ok ()) (settle { w with files })).2
          (next (.ok ()) (settle { w' with files := files' })).2) :
    ((change f >>= next) w).1 = ((change f >>= next) w').1 ∧
      Alike ((change f >>= next) w).2 ((change f >>= next) w').2 := by
  have outcomes : Outcomes _ _ (f w.files) (f w'.files) := changes
  change (next (change f w).1 (change f w).2).1 = (next (change f w').1 (change f w').2).1 ∧
    Alike (next (change f w).1 (change f w).2).2 (next (change f w').1 (change f w').2).2
  unfold change
  generalize taken : f w.files = r, taken' : f w'.files = r' at outcomes
  cases outcomes with
  | ok changed => exact done taken taken' changed
  | error same =>
    subst same
    exact refused _ w w' alike

theorem alongside_writeWhole (d : Document) :
    Alongside Alike Eq (Output.writeWhole d) (Output.writeWhole d) := by
  intro w w' alike
  refine change_then alike (Disk.Alike.writeText alike d.contents) (fun _ => .pure rfl) ?_
  intro files files' written written' drafted
  have settled : Alike (settle { w with files }) (settle { w' with files := files' }) :=
    alike_settle drafted
  refine Alongside.onward (change_alike settled
    (Disk.Alike.renameWritten settled written written')) fun moved => ?_
  split
  · exact .pure rfl
  · exact (alongside_change Disk.Alike.removeFile).same fun _ => .pure rfl

/-- No operation on the files tells worlds apart that differ in the text of the log file. -/
theorem indifferent_alike (logger logger' : Logger) : Indifferent Alike logger logger' where
  status _ := alongside_look Twin.kind
  list _ := alongside_look Twin.list
  makeDirectory _ := alongside_change Disk.Alike.makeDirectory
  removeFile _ := alongside_change Disk.Alike.removeFile
  removeTree _ := alongside_change Disk.Alike.removeTree
  writeWhole := alongside_writeWhole
  left _ {_ _} alike := (log_logged rfl).alike.symm.trans alike
  right _ {_ _} alike := alike.trans (log_logged rfl).alike

end World

end ShieldPolicy
