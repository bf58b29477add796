import ShieldPolicy.Machine.World
import ShieldPolicy.Proofs.FileSystem.Change

/-!
Trees that differ in nothing but the texts of files. Every path leads to the same place in both,
`Twin.find`, so looking at it and listing it answer the same.
-/

namespace ShieldPolicy.FileSystem

/-- The same tree, whose files may hold other texts. -/
structure Twin (fs fs' : FileSystem) : Prop where
  current : fs'.current = fs.current
  shape : ∀ l, SameShape fs fs' l

variable {fs fs' : FileSystem} {p : Path} {l : Location}

namespace Twin

variable (twin : Twin fs fs')
include twin

theorem resolve : fs'.resolve p true = fs.resolve p true :=
  resolve_congr twin.current fun q _ => twin.shape q

/-- A path leads nowhere in both trees for the same reason, or to the same place. -/
theorem find : (∃ fault, fs.find p = .error fault ∧ fs'.find p = .error fault) ∨
    ∃ l e e', fs.find p = .ok (l, e) ∧ fs'.find p = .ok (l, e') ∧ e'.shape = e.shape := by
  rw [FileSystem.find, FileSystem.find, twin.resolve]
  cases fs.resolve p true with
  | error fault => exact .inl ⟨fault, rfl, rfl⟩
  | ok l =>
    simp only [bind, Except.bind]
    have shape : (fs'.entry? l).map Entry.shape = (fs.entry? l).map Entry.shape := twin.shape l
    cases entry : fs.entry? l with
    | none =>
      rw [(twin.shape l).of_none entry]
      exact .inl ⟨.notFound, rfl, rfl⟩
    | some e =>
      cases entry' : fs'.entry? l with
      | none => simp [entry, entry'] at shape
      | some e' =>
        rw [entry, entry'] at shape
        exact .inr ⟨l, e, e', rfl, rfl, Option.some.inj shape⟩

theorem enter {way : List Path.Component} : fs'.enter way = fs.enter way := by
  have walk : fs'.walk true linkBound fs.current way = fs.walk true linkBound fs.current way :=
    (walk_congr fun q _ => twin.shape q).1
  rw [FileSystem.enter, FileSystem.enter, twin.current, walk]
  cases fs.walk true linkBound fs.current way with
  | error fault => rfl
  | ok l =>
    simp only [bind, Except.bind]
    cases entry : fs.entry? l with
    | none => rw [(twin.shape l).of_none entry]
    | some e =>
      cases e with
      | directory => rw [(twin.shape l).of_directory entry]
      | link target => rw [(twin.shape l).of_link entry]
      | file text =>
        obtain ⟨text', entry'⟩ := (twin.shape l).of_file entry
        rw [entry']

theorem slot : fs'.slot p = fs.slot p := by
  unfold FileSystem.slot
  simp only [twin.enter]

theorem fileSlot : fs'.fileSlot p = fs.fileSlot p := by
  unfold FileSystem.fileSlot
  simp only [twin.slot, twin.resolve, (twin.shape _).directory_iff]

theorem kind : (do return World.kindOf (← fs'.find p).2) =
    (do return World.kindOf (← fs.find p).2 : Except FileFault FileKind) := by
  obtain ⟨fault, found, found'⟩ | ⟨l, e, e', found, found', shape⟩ := twin.find (p := p)
  · rw [found, found']
  · rw [found, found']
    cases e <;> cases e' <;> first | rfl | cases shape

theorem children (dir : Location) : fs'.children dir = fs.children dir := by
  have mem (name : String) : name ∈ fs'.children dir ↔ name ∈ fs.children dir := by
    rw [mem_children, mem_children, (twin.shape _).isSome_eq]
  simp only [FileSystem.children, mem_sortedNames] at mem ⊢
  exact sortedNames_congr mem

theorem list : fs'.list p = fs.list p := by
  have directory (l : Location) : (fs'.entry? l == some .directory) =
      (fs.entry? l == some .directory) := by
    rw [Bool.eq_iff_iff, beq_iff_eq, beq_iff_eq, (twin.shape l).directory_iff]
  rw [FileSystem.list, FileSystem.list]
  obtain ⟨fault, found, found'⟩ | ⟨l, e, e', found, found', shape⟩ := twin.find (p := p)
  · rw [found, found']
    rfl
  · rw [found, found']
    cases e with
    | directory =>
      cases e' with
      | directory => simp only [bind, Except.bind, twin.children, directory]
      | file | link => cases shape
    | file | link =>
      cases e' with
      | directory => cases shape
      | file | link => rfl

end Twin

end ShieldPolicy.FileSystem
