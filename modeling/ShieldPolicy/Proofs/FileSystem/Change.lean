import ShieldPolicy.FileSystem.Files
import ShieldPolicy.Proofs.FileSystem.Enter

/-!
What the operations on files do. Each lemma says all that is known of an operation that was not
refused, and that a tree stays a tree.
-/

namespace ShieldPolicy.FileSystem

open Location (Below)

variable {fs fs' : FileSystem} {p source target : Path} {l q dir : Location} {name text : String}

theorem bind_ok {α β : Type} {first : Except FileFault α} {next : α → Except FileFault β} {b : β}
    (h : first >>= next = .ok b) : ∃ a, first = .ok a ∧ next a = .ok b := by
  cases first with
  | error fault => cases h
  | ok a => exact ⟨a, rfl, h⟩

/-! ### Slots -/

theorem slot_eq_ok (h : fs.slot p = .ok (dir, some name)) :
    screen p = .ok () ∧ (steps p).getLast? = some (.name name) ∧
      fs.enter (steps p).dropLast = .ok dir ∧ name.utf8ByteSize ≤ nameBound := by
  obtain ⟨⟨⟩, screened, h⟩ := bind_ok h
  dsimp only at h
  split at h
  · rename_i last taken
    obtain ⟨place, entered, h⟩ := bind_ok h
    split at h
    · cases h
    · cases h
      exact ⟨screened, taken, entered, Nat.not_lt.mp ‹_›⟩
  · obtain ⟨place, _, h⟩ := bind_ok h
    cases h

theorem directory_of_slot (h : fs.slot p = .ok (dir, some name)) : fs.entry? dir = some .directory :=
  directory_of_enter (slot_eq_ok h).2.2.1

theorem validName_of_slot (h : fs.slot p = .ok (dir, some name)) : ValidName name :=
  validName_of_mem_steps (List.mem_of_getLast? (slot_eq_ok h).2.1)

theorem fileSlot_eq_ok (tree : fs.WellFormed) (h : fs.fileSlot p = .ok l) :
    fs.entry? l ≠ some .directory ∧
      ∃ dir name, l = dir ++ [name] ∧ ValidName name ∧ fs.entry? dir = some .directory := by
  obtain ⟨⟨place, last⟩, slot, h⟩ := bind_ok h
  cases last with
  | none => cases h
  | some last =>
    dsimp only at h
    split at h
    · cases h
    · rename_i closed
      obtain ⟨l', resolved, h⟩ := bind_ok h
      split at h
      · cases h
      · rename_i other
        cases h
        refine ⟨other, ?_⟩
        obtain ⟨past, reached⟩ := reaches_of_walk_eq (resolve_eq_ok_iff.mp resolved).2
        have whole : wholeSteps p = steps p := by simp [wholeSteps, closed]
        rw [whole] at reached
        have taken := (slot_eq_ok slot).2.1
        have onward : steps p ≠ [] := fun nil => by simp [nil] at taken
        rcases reached.placed tree onward fun _ => validName_of_mem_steps with present | free
        · cases parts : l.reverse with
          | nil => rw [List.reverse_eq_nil_iff.mp parts] at other; exact absurd rfl other
          | cons name above =>
            have same : l = above.reverse ++ [name] := by simpa using congrArg List.reverse parts
            rw [same] at present
            exact ⟨_, name, same, tree.names present, tree.parents present⟩
        · exact free

/-! ### Making and writing -/

theorem makeDirectory_eq_ok (h : fs.makeDirectory p = .ok fs') :
    ∃ dir name, fs.slot p = .ok (dir, some name) ∧ fs.entry? (dir ++ [name]) = none ∧
      fs' = fs.put (dir ++ [name]) .directory := by
  obtain ⟨⟨dir, last⟩, slot, h⟩ := bind_ok h
  cases last with
  | none => cases h
  | some name =>
    dsimp only at h
    split at h
    · cases h
    · rename_i free
      cases h
      exact ⟨dir, name, slot, by simpa using free, rfl⟩

theorem writeText_eq_ok (h : fs.writeText p text = .ok fs') :
    ∃ l, fs.fileSlot p = .ok l ∧ fs' = fs.put l (.file text) := by
  obtain ⟨l, slot, h⟩ := bind_ok h
  cases h
  exact ⟨l, slot, rfl⟩

theorem WellFormed.putFile (tree : fs.WellFormed) (slot : fs.fileSlot p = .ok l) (text : String) :
    (fs.put l (.file text)).WellFormed := by
  obtain ⟨other, dir, name, rfl, valid, parent⟩ := fileSlot_eq_ok tree slot
  exact tree.put valid parent fun same => absurd same other

theorem appendAt_appendAt (fs : FileSystem) (l : Location) (text text' : String) :
    (fs.appendAt l text).appendAt l text' = fs.appendAt l (text ++ text') := by
  rw [appendAt.eq_def fs]
  split
  · rename_i before entry
    have nonroot : l ≠ [] := by
      intro root
      rw [root] at entry
      cases entry
    have now : FileSystem.entry? (fs.put l (.file (before ++ text))) l = some (.file (before ++ text)) := by
      rw [entry?_put nonroot, if_pos rfl]
    simp only [appendAt, now, entry, put_put, String.append_assoc]
  · rename_i other
    rw [appendAt, appendAt]
    split
    · rename_i before entry
      exact absurd entry (other before)
    · rfl

/-- All that is there stays, and what is new is a directory. -/
structure Grown (fs fs' : FileSystem) : Prop where
  current : fs'.current = fs.current
  kept : ∀ {q e}, fs.entry? q = some e → fs'.entry? q = some e
  fresh : ∀ {q e}, fs'.entry? q = some e → fs.entry? q = some e ∨ e = .directory

theorem Grown.refl (fs : FileSystem) : Grown fs fs := ⟨rfl, id, .inl⟩

theorem Grown.trans {fs'' : FileSystem} (first : Grown fs fs') (second : Grown fs' fs'') :
    Grown fs fs'' where
  current := second.current.trans first.current
  kept entry := second.kept (first.kept entry)
  fresh entry := (second.fresh entry).elim first.fresh .inr

theorem Grown.find_directory (grown : Grown fs fs') (found : fs.find p = .ok (l, .directory)) :
    fs'.find p = .ok (l, .directory) := by
  obtain ⟨screened, entered⟩ := find_directory_iff.mp found
  obtain ⟨reached, ends⟩ := enter_eq_ok_iff.mp entered
  refine find_directory_iff.mpr ⟨screened, enter_congr entered grown.current (fun q member => ?_)
    (grown.kept ends)⟩
  obtain ⟨e, entry, -⟩ := reached.past_solid ends (root_not_mem_tail_steps p) q member
  exact sameShape_of_eq (by rw [entry, grown.kept entry])

theorem makeDirectory_grown (h : fs.makeDirectory p = .ok fs') : Grown fs fs' := by
  obtain ⟨dir, name, slot, free, rfl⟩ := makeDirectory_eq_ok h
  have nonroot : dir ++ [name] ≠ [] := by simp
  refine ⟨rfl, fun {q e} entry => ?_, fun {q e} entry => ?_⟩
  · rw [entry?_put nonroot, if_neg]
    · exact entry
    · rintro rfl
      rw [free] at entry
      cases entry
  · rw [entry?_put nonroot] at entry
    split at entry
    · exact .inr (Option.some.inj entry).symm
    · exact .inl entry

theorem WellFormed.makeDirectory (tree : fs.WellFormed) (h : fs.makeDirectory p = .ok fs') :
    fs'.WellFormed := by
  obtain ⟨dir, name, slot, free, rfl⟩ := makeDirectory_eq_ok h
  exact tree.put (validName_of_slot slot) (directory_of_slot slot) fun _ => rfl

/-! ### Removing -/

/-- Some of what stood within a part of the tree is gone, and what is left is a tree. -/
structure Thinned (part : Location → Prop) (fs fs' : FileSystem) : Prop where
  current : fs'.current = fs.current
  entries : ∀ q, fs'.entry? q = fs.entry? q ∨ part q ∧ fs'.entry? q = none
  tree : fs.WellFormed → fs'.WellFormed

theorem Thinned.refl (part : Location → Prop) (fs : FileSystem) : Thinned part fs fs :=
  ⟨rfl, fun _ => .inl rfl, id⟩

theorem Thinned.trans {part : Location → Prop} {fs'' : FileSystem} (first : Thinned part fs fs')
    (second : Thinned part fs' fs'') : Thinned part fs fs'' where
  current := second.current.trans first.current
  entries q := by
    rcases second.entries q with same | gone
    · rw [same]
      exact first.entries q
    · exact .inr gone
  tree := second.tree ∘ first.tree

theorem Thinned.mono {part part' : Location → Prop} (wider : ∀ q, part q → part' q)
    (thinned : Thinned part fs fs') : Thinned part' fs fs' :=
  ⟨thinned.current, fun q => (thinned.entries q).imp_right (And.imp_left (wider q)), thinned.tree⟩

theorem Thinned.entry_of_some {part : Location → Prop} {e : Entry} (thinned : Thinned part fs fs')
    (entry : fs'.entry? q = some e) : fs.entry? q = some e := by
  rcases thinned.entries q with same | ⟨_, gone⟩
  · rwa [same] at entry
  · rw [gone] at entry
    cases entry

theorem Thinned.none_of_none {part : Location → Prop} (thinned : Thinned part fs fs')
    (entry : fs.entry? q = none) : fs'.entry? q = none := by
  rcases thinned.entries q with same | ⟨_, gone⟩
  · rwa [same]
  · exact gone

theorem Thinned.shrunk {part : Location → Prop} (thinned : Thinned part fs fs') : Shrunk fs fs' :=
  ⟨thinned.current, fun entry _ => thinned.entry_of_some entry⟩

theorem thinned_prune (nonroot : l ≠ []) : Thinned (l <+: ·) fs (fs.prune l) := by
  refine ⟨rfl, fun q => ?_, fun tree => tree.prune nonroot⟩
  rw [entry?_prune nonroot]
  split
  · exact .inr ⟨‹_›, rfl⟩
  · exact .inl rfl

theorem thinned_hollow (fs : FileSystem) (l : Location) : Thinned (l <+: ·) fs (fs.hollow l) := by
  refine ⟨rfl, fun q => ?_, fun tree => tree.hollow⟩
  rw [entry?_hollow]
  split
  · exact .inr ⟨(‹Below l q›).1, rfl⟩
  · exact .inl rfl

theorem removeFile_eq_ok (h : fs.removeFile p = .ok fs') :
    ∃ dir name, fs.slot p = .ok (dir, some name) ∧ (fs.entry? (dir ++ [name])).isSome ∧
      fs.entry? (dir ++ [name]) ≠ some .directory ∧ fs' = fs.prune (dir ++ [name]) := by
  obtain ⟨⟨dir, last⟩, slot, h⟩ := bind_ok h
  cases last with
  | none => cases h
  | some name =>
    dsimp only at h
    split at h
    · cases h
    · cases h
    · rename_i e other entry
      split at h
      · cases h
      · cases h
        exact ⟨dir, name, slot, by simp [entry], by simpa [entry] using other, rfl⟩

/-- What is left of a directory that was removed: nothing, or, where the way to it led through what
was in it, the directory with nothing in it. -/
def uprooted (fs : FileSystem) (p : Path) (l : Location) : FileSystem :=
  if ((fs.hollow l).slot p).toBool then (fs.hollow l).prune l else fs.hollow l

theorem removeTree_eq_ok (h : fs.removeTree p = .ok fs') :
    ∃ dir name, fs.slot p = .ok (dir, some name) ∧
      ((∃ target, fs.entry? (dir ++ [name]) = some (.link target) ∧ fs' = fs.prune (dir ++ [name])) ∨
        fs.entry? (dir ++ [name]) = some .directory ∧ fs' = fs.uprooted p (dir ++ [name])) := by
  obtain ⟨⟨dir, last⟩, slot, h⟩ := bind_ok h
  cases last with
  | none => cases h
  | some name =>
    dsimp only at h
    split at h
    · cases h
    · cases h
    · cases h
      exact ⟨dir, name, slot, .inl ⟨_, ‹_›, rfl⟩⟩
    · cases h
      exact ⟨dir, name, slot, .inr ⟨‹_›, rfl⟩⟩

theorem thinned_uprooted (nonroot : l ≠ []) : Thinned (l <+: ·) fs (fs.uprooted p l) := by
  unfold uprooted
  split
  · exact (thinned_hollow fs l).trans (thinned_prune nonroot)
  · exact thinned_hollow fs l

theorem removeFile_thinned (h : fs.removeFile p = .ok fs') :
    ∃ dir name, fs.slot p = .ok (dir, some name) ∧ Thinned (dir ++ [name] <+: ·) fs fs' := by
  obtain ⟨dir, name, slot, _, _, rfl⟩ := removeFile_eq_ok h
  exact ⟨dir, name, slot, thinned_prune (by simp)⟩

theorem removeTree_thinned (h : fs.removeTree p = .ok fs') :
    ∃ dir name, fs.slot p = .ok (dir, some name) ∧ Thinned (dir ++ [name] <+: ·) fs fs' := by
  obtain ⟨dir, name, slot, ⟨target, _, rfl⟩ | ⟨_, rfl⟩⟩ := removeTree_eq_ok h
  · exact ⟨dir, name, slot, thinned_prune (by simp)⟩
  · exact ⟨dir, name, slot, thinned_uprooted (by simp)⟩

/-! ### Moving -/

theorem renameFile_eq_ok (h : fs.renameFile source target = .ok fs') :
    ∃ fromDir fromName toDir toName moved, fs.slot source = .ok (fromDir, some fromName) ∧
      fs.slot target = .ok (toDir, some toName) ∧
      fs.entry? (fromDir ++ [fromName]) = some moved ∧
      fs.entry? (toDir ++ [toName]) ≠ some .directory ∧
      fs' = (fs.prune (fromDir ++ [fromName])).put (toDir ++ [toName]) moved := by
  obtain ⟨⟨fromDir, fromName⟩, slot, h⟩ := bind_ok h
  obtain ⟨⟨toDir, toName⟩, slot', h⟩ := bind_ok h
  cases fromName with
  | none => cases h
  | some fromName =>
    cases toName with
    | none => cases h
    | some toName =>
      dsimp only at h
      split at h
      · cases h
      · rename_i moved entry
        split at h
        · cases h
        · split at h
          · cases h
          · cases h
            exact ⟨fromDir, fromName, toDir, toName, moved, slot, slot', entry, ‹_›, rfl⟩

end ShieldPolicy.FileSystem
