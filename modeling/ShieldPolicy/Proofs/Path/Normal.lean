import ShieldPolicy.Proofs.Location.Relative
import ShieldPolicy.Proofs.Path.Climb

/-!
Reading a path lexically. `locate?_eq_walk?_moves` says that this takes the steps of the path one after
the other, and `locate?_join` that what stands in front can be replaced by the path of its place.
With the law for paths that climb above the root they make `locate?_lexical`.
-/

namespace ShieldPolicy.Path

variable {p q dir : Path} {l : Location}

/-! ### The steps of a path -/

def moves (p : Path) : List Component :=
  (p.pieces.filter fun piece => piece != ['.']).map Component.ofPiece

theorem components_of_absolute (absolute : p.isAbsolute) : p.components = .root :: p.moves :=
  if_pos absolute

theorem isEmpty_of_isAbsolute (absolute : p.isAbsolute) : p.isEmpty = false := by
  rw [not_isEmpty_iff]
  intro empty
  simp [isAbsolute, empty] at absolute

theorem moves_join (absolute : dir.isAbsolute) (relative : q.isAbsolute = false) :
    (dir.join q).moves = dir.moves ++ q.moves := by
  rw [moves, pieces_join relative (isEmpty_of_isAbsolute absolute), List.filter_append,
    List.map_append]
  rfl

theorem isAbsolute_join_of_absolute (absolute : dir.isAbsolute) (relative : q.isAbsolute = false) :
    (dir.join q).isAbsolute := by
  rw [isAbsolute_join relative (isEmpty_of_isAbsolute absolute)]
  exact absolute

theorem isAbsolute_anchoredAt (absolute : dir.isAbsolute) : (dir.anchoredAt p).isAbsolute := by
  unfold anchoredAt
  split
  · assumption
  · rename_i relative
    exact isAbsolute_join_of_absolute absolute (by simpa using relative)

/-! ### The path of a place -/

theorem isAbsolute_path (l : Location) : l.path.isAbsolute := by
  simp [Location.path, isAbsolute]

theorem isEmpty_path (l : Location) : l.path.isEmpty = false :=
  isEmpty_of_isAbsolute (isAbsolute_path l)

section Place

variable (valid : ∀ name ∈ l, ValidName name)
include valid

theorem pieces_path : l.path.pieces = l.map String.toList := by
  have joined := Text.toList_joinTexts '/' l
  rw [show String.singleton '/' = "/" from rfl] at joined
  have written : l.path.text.toList = [] ++ '/' :: Text.joinWith '/' (l.map String.toList) := by
    rw [Location.path, String.toList_append, joined]
    rfl
  rw [pieces, written, Text.splitOn_append_cons, List.filter_append]
  cases l with
  | nil => rfl
  | cons name rest =>
    rw [Text.splitOn_joinWith (by simp)]
    · refine List.filter_eq_self.mpr ?_
      intro piece member
      obtain ⟨name, there, rfl⟩ := List.mem_map.mp member
      simpa using (valid name there).1
    · intro piece member
      obtain ⟨name, there, rfl⟩ := List.mem_map.mp member
      exact (valid name there).2.2.2

theorem steps_path : FileSystem.steps l.path = .root :: l.map .name := by
  rw [FileSystem.steps_eq, pieces_path valid, List.map_map, if_pos (isAbsolute_path l)]
  refine congrArg (Component.root :: ·) (List.map_congr_left ?_)
  intro name member
  exact FileSystem.stepOf_name (valid name member)

theorem moves_path : l.path.moves = l.map .name := by
  have named (name : String) (member : name ∈ l) :
      name.toList ≠ ['.'] ∧ Component.ofPiece name.toList = .name name := by
    have other : name.toList ≠ ['.'] := fun same =>
      (valid name member).2.1 (String.toList_inj.mp (by simpa using same))
    have step := FileSystem.stepOf_name (valid name member)
    rw [FileSystem.stepOf, if_neg other] at step
    exact ⟨other, step⟩
  have kept : (l.map String.toList).filter (fun piece => piece != ['.']) = l.map String.toList := by
    refine List.filter_eq_self.mpr ?_
    intro piece member
    obtain ⟨name, there, rfl⟩ := List.mem_map.mp member
    simpa using (named name there).1
  rw [moves, pieces_path valid, kept, List.map_map]
  exact List.map_congr_left fun name member => (named name member).2

end Place

/-! ### Walks -/

theorem walk?_components (absolute : p.isAbsolute) :
    Location.walk? [] p.components = Location.walk? [] p.moves := by
  rw [components_of_absolute absolute]
  rfl

theorem locate?_eq_walk?_moves (absolute : p.isAbsolute) : p.locate? = Location.walk? [] p.moves := by
  rw [locate?_eq_walk?, walk?_components absolute]

theorem locate?_path (valid : ∀ name ∈ l, ValidName name) : l.path.locate? = some l := by
  rw [locate?_eq_walk?_moves (isAbsolute_path l), moves_path valid, Location.walk?_names]
  rfl

theorem place_path (valid : ∀ name ∈ l, ValidName name) : l.path.place = l :=
  place_of_locate? (locate?_path valid)

theorem locate?_join (absolute : dir.isAbsolute) (relative : q.isAbsolute = false) :
    (dir.join q).locate? = dir.locate?.bind fun l => l.walk? q.moves := by
  rw [locate?_eq_walk?_moves (isAbsolute_join_of_absolute absolute relative),
    moves_join absolute relative, Location.walk?_append, locate?_eq_walk?_moves absolute]

/-! ### The lexical place -/

/-- An absolute path has no place when some of its first steps go up more often than down. Otherwise
its place is where the steps lead from the root, and where the path leads if it leads anywhere and
there are no links. The path of the place holds names alone and names the same place, also in front
of a relative path. -/
theorem locate?_lexical (absolute : p.isAbsolute) :
    (p.locate? = none ↔ p.ClimbsAboveRoot) ∧
    (∀ l, p.locate? = some l → Location.walk? [] p.components = some l ∧
      l.path.components = .root :: l.map .name ∧ l.path.locate? = some l ∧
      ∀ fs : FileSystem, fs.LinkFree → ∀ l' e, fs.find p = .ok (l', e) → l' = l) ∧
    ∀ q : Path, q.isAbsolute = false →
      (p.join q).locate? = p.locate?.bind fun l => (l.path.join q).locate? := by
  refine ⟨locate?_eq_none_iff, fun l located => ?_, fun q relative => ?_⟩
  · have valid : ∀ name ∈ l, ValidName name := fun name => validName_of_mem_locate? located
    refine ⟨?_, ?_, locate?_path valid, fun fs free l' e found => ?_⟩
    · rw [← locate?_eq_walk?, located]
    · rw [components_of_absolute (isAbsolute_path l), moves_path valid]
    · rw [free.find_place absolute found, place_of_locate? located]
  · rw [locate?_join absolute relative]
    refine Option.bind_congr fun l located => ?_
    have valid : ∀ name ∈ l, ValidName name := fun name => validName_of_mem_locate? located
    rw [locate?_join (isAbsolute_path l) relative, locate?_path valid, Option.bind_some]

theorem locate?_lexical_app :
    (⟨"/app//src/./../lib/"⟩ : Path).locate? = some ["app", "lib"] ∧
      Location.walk? [] (⟨"/app//src/./../lib/"⟩ : Path).components = some ["app", "lib"] ∧
      (Location.path ["app", "lib"]).locate? = some ["app", "lib"] ∧
      ((⟨"/app//src/./../lib/"⟩ : Path).join ⟨"../out"⟩).locate? =
        ((Location.path ["app", "lib"]).join ⟨"../out"⟩).locate? ∧
      ((⟨"/app//src/./../lib/"⟩ : Path).join ⟨"../out"⟩).locate? = some ["app", "out"] := by
  have located : (⟨"/app//src/./../lib/"⟩ : Path).locate? = some ["app", "lib"] := by decide
  obtain ⟨-, place, joined⟩ := locate?_lexical (p := ⟨"/app//src/./../lib/"⟩) (by decide)
  obtain ⟨walked, -, again, -⟩ := place _ located
  have onward := joined ⟨"../out"⟩ (by decide)
  rw [located] at onward
  exact ⟨located, walked, again, onward, by decide⟩

end ShieldPolicy.Path
