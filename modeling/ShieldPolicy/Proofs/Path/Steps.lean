import ShieldPolicy.FileSystem
import ShieldPolicy.Proofs.Text.Pieces

/-!
The steps of a path. `steps_join` says that joining paths joins their steps, and
`steps_join_name` that a name put behind a directory is the last step of the path.
-/

namespace ShieldPolicy

def ValidName (name : String) : Prop :=
  name ≠ "" ∧ name ≠ "." ∧ name ≠ ".." ∧ '/' ∉ name.toList

instance (name : String) : Decidable (ValidName name) := inferInstanceAs (Decidable (_ ∧ _))

namespace Path

theorem ne_nil_of_mem_pieces {p : Path} {piece : List Char} (h : piece ∈ p.pieces) : piece ≠ [] := by
  have := (List.mem_filter.mp h).2
  rintro rfl
  simp at this

theorem slash_not_mem_of_mem_pieces {p : Path} {piece : List Char} (h : piece ∈ p.pieces) :
    '/' ∉ piece :=
  Text.not_mem_of_mem_splitOn (List.mem_filter.mp h).1

theorem pieces_append_slash {p q r : Path} (h : r.text.toList = p.text.toList ++ '/' :: q.text.toList) :
    r.pieces = p.pieces ++ q.pieces := by
  simp only [pieces, h, Text.splitOn_append_cons, List.filter_append]

theorem not_isEmpty_iff {p : Path} : p.isEmpty = false ↔ p.text.toList ≠ [] := by
  simp [isEmpty]

theorem join_relative {dir p : Path} (relative : p.isAbsolute = false) (present : dir.isEmpty = false) :
    dir.join p = if dir.text.toList.getLast? == some '/' then ⟨dir.text ++ p.text⟩
      else ⟨dir.text ++ "/" ++ p.text⟩ := by
  simp [join, relative, present]

theorem pieces_join {dir p : Path} (relative : p.isAbsolute = false) (present : dir.isEmpty = false) :
    (dir.join p).pieces = dir.pieces ++ p.pieces := by
  rw [join_relative relative present]
  split
  · rename_i ends
    -- The separator at the end of the directory is the one between the two.
    obtain ⟨before, same⟩ : ∃ before, dir.text.toList = before ++ ['/'] :=
      List.getLast?_eq_some_iff.mp (by simpa using ends)
    have left : dir.pieces = (⟨String.ofList before⟩ : Path).pieces := by
      have cut : dir.pieces = (⟨String.ofList before⟩ : Path).pieces ++ (⟨""⟩ : Path).pieces :=
        pieces_append_slash (by simp [same])
      rw [cut]
      simp [pieces, Text.splitOn]
    rw [left]
    exact pieces_append_slash (by simp [same])
  · exact pieces_append_slash (by simp)

theorem isAbsolute_join {dir p : Path} (relative : p.isAbsolute = false) (present : dir.isEmpty = false) :
    (dir.join p).isAbsolute = dir.isAbsolute := by
  have nonempty := not_isEmpty_iff.mp present
  rw [join_relative relative present]
  split <;> cases hdir : dir.text.toList <;> simp_all [isAbsolute]

theorem isAbsolute_name {name : String} (valid : ValidName name) : (⟨name⟩ : Path).isAbsolute = false := by
  cases hname : name.toList with
  | nil => simp [isAbsolute, hname]
  | cons c cs =>
    have other : c ≠ '/' := fun same => valid.2.2.2 (by simp [hname, same])
    simp [isAbsolute, hname, other]

theorem pieces_name {name : String} (valid : ValidName name) : (⟨name⟩ : Path).pieces = [name.toList] := by
  have nonempty : name.toList ≠ [] := fun nil => valid.1 (by simpa using nil)
  simp [pieces, Text.splitOn_of_not_mem valid.2.2.2, nonempty]

theorem root_not_mem_map_ofPiece (pieces : List (List Char)) :
    .root ∉ pieces.map Component.ofPiece := by
  intro member
  obtain ⟨piece, -, same⟩ := List.mem_map.mp member
  unfold Component.ofPiece at same
  split at same <;> cases same

theorem foldl_locateStep_none (cs : List Component) : cs.foldl locateStep none = none := by
  induction cs with
  | nil => rfl
  | cons c cs ih => exact ih

/-- The depth stays the number of names, and the names are those that the steps lead to. -/
theorem foldl_locateStep {cs : List Component} (onward : .root ∉ cs) (l : Location) :
    cs.foldl locateStep (some (l.reverse, l.length)) =
      (l.walk? cs).map fun l' => (l'.reverse, l'.length) := by
  induction cs generalizing l with
  | nil => rfl
  | cons c cs ih =>
    rw [List.mem_cons, not_or] at onward
    have step : locateStep (some (l.reverse, l.length)) c =
        (l.step? c).map fun l' => (l'.reverse, l'.length) := by
      cases c with
      | root => exact absurd rfl onward.1
      | current => rfl
      | name text => simp [locateStep, Location.step?]
      | parent =>
        by_cases root : l = []
        · rw [root]
          rfl
        · simp [locateStep, Location.step?, root]
    rw [List.foldl_cons, step, Location.walk?]
    cases l.step? c with
    | none => exact foldl_locateStep_none cs
    | some next => exact ih onward.2 next

theorem locate?_eq_walk? (p : Path) : p.locate? = Location.walk? [] p.components := by
  have body := foldl_locateStep
    (root_not_mem_map_ofPiece (p.pieces.filter fun piece => piece != ['.'])) []
  have read (cs : List Component) (l : Option Location)
      (walked : cs.foldl locateStep (some ([], 0)) = l.map fun l' => (l'.reverse, l'.length)) :
      (cs.foldl locateStep (some ([], 0))).map (fun read => read.1.reverse) = l := by
    rw [walked]
    cases l <;> simp
  unfold locate? components
  dsimp only
  split
  · exact read _ _ body
  split <;> exact read _ _ body

end Path

namespace FileSystem

def stepOf (piece : List Char) : Path.Component :=
  if piece = ['.'] then .current else Path.Component.ofPiece piece

theorem steps_eq (p : Path) :
    steps p = (if p.isAbsolute then [.root] else []) ++ p.pieces.map stepOf := by
  unfold steps stepOf
  split <;> simp_all

theorem stepOf_ne_root (piece : List Char) : stepOf piece ≠ .root := by
  unfold stepOf Path.Component.ofPiece
  repeat' split
  all_goals simp

theorem stepOf_name {name : String} (valid : ValidName name) : stepOf name.toList = .name name := by
  obtain ⟨-, dot, dots, -⟩ := valid
  have h₁ : name.toList ≠ ['.'] := fun same => dot (String.toList_inj.mp (by simpa using same))
  have h₂ : name.toList ≠ ['.', '.'] := fun same => dots (String.toList_inj.mp (by simpa using same))
  simp [stepOf, Path.Component.ofPiece, h₁, h₂]

theorem validName_of_stepOf {piece : List Char} {name : String} (nonempty : piece ≠ [])
    (noSlash : '/' ∉ piece) (h : stepOf piece = .name name) : ValidName name := by
  unfold stepOf Path.Component.ofPiece at h
  split at h
  · cases h
  · rename_i dot
    split at h
    · cases h
    · rename_i dots
      cases h
      exact ⟨by simpa using nonempty, fun same => dot (by simpa using congrArg String.toList same),
        fun same => dots (by simpa using congrArg String.toList same), by simpa using noSlash⟩

theorem validName_of_mem_steps {p : Path} {name : String} (h : Path.Component.name name ∈ steps p) :
    ValidName name := by
  rw [steps_eq, List.mem_append] at h
  rcases h with h | h
  · split at h <;> simp at h
  · obtain ⟨piece, member, same⟩ := List.mem_map.mp h
    exact validName_of_stepOf (Path.ne_nil_of_mem_pieces member)
      (Path.slash_not_mem_of_mem_pieces member) same

theorem root_not_mem_map_stepOf (pieces : List (List Char)) : .root ∉ pieces.map stepOf := by
  intro h
  obtain ⟨piece, _, same⟩ := List.mem_map.mp h
  exact stepOf_ne_root piece same

theorem steps_join {dir p : Path} (relative : p.isAbsolute = false) (present : dir.isEmpty = false) :
    steps (dir.join p) = steps dir ++ steps p := by
  simp [steps_eq, Path.isAbsolute_join relative present, Path.pieces_join relative present, relative]

theorem steps_name {name : String} (valid : ValidName name) : steps ⟨name⟩ = [.name name] := by
  simp [steps_eq, Path.isAbsolute_name valid, Path.pieces_name valid, stepOf_name valid]

theorem steps_join_name {dir : Path} {name : String} (present : dir.isEmpty = false)
    (valid : ValidName name) : steps (dir.join ⟨name⟩) = steps dir ++ [.name name] := by
  rw [steps_join (Path.isAbsolute_name valid) present, steps_name valid]

theorem endsOpen_join_name {dir : Path} {name : String} (present : dir.isEmpty = false)
    (valid : ValidName name) : endsOpen (dir.join ⟨name⟩) = false := by
  have nonempty : name.toList ≠ [] := fun nil => valid.1 (by simpa using nil)
  obtain ⟨before, last, same⟩ : ∃ before last, name.toList = before ++ [last] :=
    ⟨_, _, (List.dropLast_concat_getLast nonempty).symm⟩
  have other : last ≠ '/' := fun slash => valid.2.2.2 (by simp [same, slash])
  obtain ⟨front, whole⟩ : ∃ front, (dir.join ⟨name⟩).text.toList = front ++ [last] := by
    rw [Path.join_relative (Path.isAbsolute_name valid) present]
    split
    · exact ⟨dir.text.toList ++ before, by simp [same]⟩
    · exact ⟨dir.text.toList ++ '/' :: before, by simp [same]⟩
  simp [endsOpen, whole, other]

end FileSystem

end ShieldPolicy
