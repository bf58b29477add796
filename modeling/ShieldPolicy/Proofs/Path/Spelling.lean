import Mathlib.Data.String.Basic
import ShieldPolicy.Proofs.Path.Ancestors

/-!
How joined paths are spelled. `join_path_sublist` says that the path of a place is spelled with
nothing but what stands in every path of the place, also in front of another path; so the system
looks at it where it looks at the others: `screen_of_sublist`.
-/

open scoped List

namespace ShieldPolicy

theorem Text.cons_joinWith {α : Type} {sep : α} {pieces : List (List α)} (some : pieces ≠ []) :
    sep :: joinWith sep pieces = pieces.flatMap (sep :: ·) := by
  induction pieces with
  | nil => exact absurd rfl some
  | cons piece rest ih =>
    cases rest with
    | nil => simp [joinWith]
    | cons next rest =>
      rw [List.flatMap_cons, ← ih (List.cons_ne_nil _ _)]
      rfl

open Location (stepClamped)

namespace Path

variable {p q dir : Path} {l : Location}

/-! ### Pieces behind separators -/

def spell (pieces : List (List Char)) : List Char := pieces.flatMap ('/' :: ·)

theorem spell_sublist {pieces pieces' : List (List Char)} (fewer : pieces <+ pieces') :
    spell pieces <+ spell pieces' := by
  induction fewer with
  | slnil => exact List.Sublist.refl _
  | cons piece _ ih => exact ih.trans (List.sublist_append_right _ _)
  | cons_cons piece _ ih => exact ih.append_left _

theorem cons_eq_spell_splitOn (rest : List Char) :
    '/' :: rest = spell (Text.splitOn '/' rest) := by
  rw [spell, ← Text.cons_joinWith (Text.splitOn_ne_nil '/' rest), Text.joinWith_splitOn]

theorem spell_pieces_sublist (absolute : p.isAbsolute) : spell p.pieces <+ p.text.toList := by
  obtain ⟨rest, written⟩ := text_of_absolute absolute
  rw [pieces_of_slash written, written, cons_eq_spell_splitOn]
  exact spell_sublist List.filter_sublist

theorem spell_map_toList (l : Location) : spell (l.map String.toList) =
    if l = [] then [] else l.path.text.toList := by
  split
  · rename_i root
    rw [root]
    rfl
  · rename_i some
    have joined := Text.toList_joinTexts '/' l
    rw [show String.singleton '/' = "/" from rfl] at joined
    rw [spell, ← Text.cons_joinWith (by simpa using some), ← joined, Location.path,
      String.toList_append]
    rfl

/-! ### Joined paths -/

def stem (p : Path) : List Char :=
  if FileSystem.endsOpen p then p.text.toList.dropLast else p.text.toList

theorem text_join (present : dir.isEmpty = false) (relative : q.isAbsolute = false) :
    (dir.join q).text.toList = dir.stem ++ '/' :: q.text.toList := by
  rw [join_relative relative present, stem, FileSystem.endsOpen]
  split
  · rename_i ends
    obtain ⟨before, same⟩ : ∃ before, dir.text.toList = before ++ ['/'] :=
      List.getLast?_eq_some_iff.mp (by simpa using ends)
    simp [same]
  · simp

theorem text_prefix_join (present : dir.isEmpty = false) (relative : q.isAbsolute = false) :
    dir.text.toList <+: (dir.join q).text.toList := by
  rw [join_relative relative present]
  split <;> simp [String.toList_append]

theorem prefix_stem (p : Path) : p.stem <+: p.text.toList := by
  rw [stem]
  split
  · exact List.dropLast_prefix _
  · exact List.prefix_refl _

theorem spell_pieces_stem (absolute : p.isAbsolute) : spell p.pieces <+ p.stem := by
  rw [stem]
  split
  · rename_i ends
    obtain ⟨before, same⟩ : ∃ before, p.text.toList = before ++ ['/'] :=
      List.getLast?_eq_some_iff.mp (by simpa [FileSystem.endsOpen] using ends)
    have cut : p.pieces = (⟨String.ofList before⟩ : Path).pieces := by
      have cut := pieces_append_slash (p := ⟨String.ofList before⟩) (q := ⟨""⟩) (r := p)
        (by simp [same])
      rw [cut]
      simp [pieces, Text.splitOn]
    rw [cut, same, List.dropLast_concat]
    cases before with
    | nil => exact List.Sublist.refl _
    | cons c before =>
      have slash : c = '/' := by simpa [isAbsolute, same] using absolute
      have shorter := spell_pieces_sublist (p := ⟨String.ofList (c :: before)⟩)
        (by simp [isAbsolute, slash])
      rwa [String.toList_ofList] at shorter
  · exact spell_pieces_sublist absolute

theorem endsOpen_path (valid : ∀ name ∈ l, ValidName name) (some : l ≠ []) :
    FileSystem.endsOpen l.path = false := by
  have written := spell_map_toList l
  obtain ⟨above, name, rfl⟩ := (List.eq_nil_or_concat' l).resolve_left some
  obtain ⟨nonempty, -, -, noSlash⟩ := valid name (by simp)
  obtain ⟨before, last, same⟩ : ∃ before last, name.toList = before ++ [last] :=
    ⟨_, _, (List.dropLast_concat_getLast fun nil => nonempty (by simpa using nil)).symm⟩
  have other : last ≠ '/' := fun slash => noSlash (by simp [same, slash])
  rw [if_neg some, List.map_append, spell, List.flatMap_append, List.map_singleton,
    List.flatMap_singleton, same, ← List.cons_append, ← List.append_assoc] at written
  rw [FileSystem.endsOpen, ← written, List.getLast?_concat]
  simpa using other

theorem stem_path (valid : ∀ name ∈ l, ValidName name) :
    l.path.stem = spell (l.map String.toList) := by
  rw [spell_map_toList]
  split
  · rename_i root
    rw [root]
    rfl
  · rename_i some
    rw [stem, if_neg (by simp [endsOpen_path valid some])]

theorem place_sublist (p : Path) : p.place.map String.toList <+ p.pieces := by
  have onward (pieces : List (List Char)) (l : Location) :
      ((pieces.map FileSystem.stepOf).foldl stepClamped l).map String.toList <+
        l.map String.toList ++ pieces := by
    induction pieces generalizing l with
    | nil => simp
    | cons piece pieces ih =>
      have skip : l.map String.toList ++ pieces <+ l.map String.toList ++ piece :: pieces :=
        (List.sublist_cons_self _ _).append_left _
      rw [List.map_cons, List.foldl_cons]
      unfold FileSystem.stepOf Component.ofPiece
      split
      · exact (ih l).trans skip
      split
      · refine (ih l.dropLast).trans (List.Sublist.trans ?_ skip)
        exact ((List.dropLast_sublist l).map _).append_right _
      · have next := ih (l ++ [String.ofList piece])
        rwa [List.map_append, List.map_singleton, String.toList_ofList, List.append_assoc] at next
  have whole := onward p.pieces []
  rw [place, FileSystem.steps_eq, List.foldl_append]
  split <;> exact whole

theorem name_mem_steps_of_mem_place {name : String} (member : name ∈ p.place) :
    .name name ∈ FileSystem.steps p := by
  have onward (way : List Component) (l : Location) (member : name ∈ way.foldl stepClamped l) :
      name ∈ l ∨ .name name ∈ way := by
    induction way generalizing l with
    | nil => exact .inl member
    | cons c way ih =>
      rcases ih _ member with here | later
      · cases c with
        | root => cases here
        | current => exact .inl here
        | parent => exact .inl (List.mem_of_mem_dropLast here)
        | name text =>
          rcases List.mem_append.mp here with above | last
          · exact .inl above
          · rw [List.mem_singleton.mp last]
            exact .inr List.mem_cons_self
      · exact .inr (List.mem_cons_of_mem _ later)
  exact (onward _ [] member).resolve_left (List.not_mem_nil)

theorem validName_of_mem_place {name : String} (member : name ∈ p.place) : ValidName name :=
  FileSystem.validName_of_mem_steps (name_mem_steps_of_mem_place member)

theorem mem_place_of_name_mem_steps {name : String} (down : .parent ∉ FileSystem.steps p)
    (member : .name name ∈ FileSystem.steps p) : name ∈ p.place := by
  have onward (way : List Component) (onward : .root ∉ way) (down : .parent ∉ way)
      (l : Location) (member : name ∈ l ∨ .name name ∈ way) : name ∈ way.foldl stepClamped l := by
    induction way generalizing l with
    | nil => simpa using member
    | cons c way ih =>
      rw [List.mem_cons, not_or] at onward down
      refine ih onward.2 down.2 _ ?_
      cases c with
      | root => exact absurd rfl onward.1
      | parent => exact absurd rfl down.1
      | current => simpa [stepClamped] using member
      | name text => simpa [stepClamped, or_assoc] using member
  rw [FileSystem.steps_eq] at down member
  rw [place, FileSystem.steps_eq, List.foldl_append]
  rw [List.mem_append, not_or] at down
  refine onward _ (FileSystem.root_not_mem_map_stepOf _) down.2 _ (.inr ?_)
  refine (List.mem_append.mp member).resolve_left fun start => ?_
  split at start <;> simp at start

theorem exists_piece_of_mem {c : Char} (absolute : p.isAbsolute) (other : c ≠ '/')
    (member : c ∈ p.text.toList) : ∃ piece ∈ p.pieces, c ∈ piece := by
  obtain ⟨rest, written⟩ := text_of_absolute absolute
  rw [written, cons_eq_spell_splitOn] at member
  obtain ⟨piece, there, inside⟩ := List.mem_flatMap.mp member
  have inside := (List.mem_cons.mp inside).resolve_left other
  rw [pieces_of_slash written]
  exact ⟨piece, List.mem_filter.mpr ⟨there, by simpa using List.ne_nil_of_mem inside⟩, inside⟩

/-- The path of a place is spelled with nothing but what every path of the place holds. -/
theorem join_path_sublist (absolute : dir.isAbsolute) (relative : q.isAbsolute = false) :
    (dir.place.path.join q).text.toList <+ (dir.join q).text.toList := by
  have valid : ∀ name ∈ dir.place, ValidName name := fun name => validName_of_mem_place
  rw [text_join (isEmpty_path _) relative, text_join (isEmpty_of_isAbsolute absolute) relative,
    stem_path valid]
  exact ((spell_sublist (place_sublist dir)).trans (spell_pieces_stem absolute)).append_right _

theorem Front.prefix_stem (front : Front dir p) : dir.stem <+: p.stem := by
  obtain ⟨more, written⟩ := front.text
  cases more with
  | nil =>
    have same : dir = p := by
      rw [List.append_nil, String.toList_inj] at written
      cases dir
      cases p
      exact congrArg Path.mk written
    rw [same]
  | cons c more =>
    refine (Path.prefix_stem dir).trans ?_
    rw [stem, ← written]
    split
    · rw [List.dropLast_append_of_ne_nil (List.cons_ne_nil c more)]
      exact List.prefix_append _ _
    · exact List.prefix_append _ _

theorem Front.join_sublist (front : Front dir p) (absolute : p.isAbsolute)
    (relative : q.isAbsolute = false) :
    (dir.join q).text.toList <+ (p.join q).text.toList := by
  rw [text_join (isEmpty_of_isAbsolute front.absolute) relative,
    text_join (isEmpty_of_isAbsolute absolute) relative]
  exact front.prefix_stem.sublist.append_right _

theorem mem_path_of_mem {c : Char} {name : String} (member : name ∈ l) (inside : c ∈ name.toList) :
    c ∈ l.path.text.toList := by
  have spelled := spell_map_toList l
  rw [if_neg (List.ne_nil_of_mem member)] at spelled
  rw [← spelled]
  exact List.mem_flatMap.mpr ⟨_, List.mem_map_of_mem member, List.mem_cons_of_mem _ inside⟩

/-- Without a `..` the path of a place holds all characters of the paths of the place but dots. -/
theorem mem_place_path {c : Char} (absolute : p.isAbsolute) (down : .parent ∉ FileSystem.steps p)
    (other : c ≠ '/') (other' : c ≠ '.') (member : c ∈ p.text.toList) :
    c ∈ p.place.path.text.toList := by
  obtain ⟨piece, there, inside⟩ := exists_piece_of_mem absolute other member
  have step : FileSystem.stepOf piece = .name (String.ofList piece) := by
    unfold FileSystem.stepOf Component.ofPiece
    rw [if_neg, if_neg]
    all_goals
      rintro rfl
      simp [other'] at inside
  have taken : .name (String.ofList piece) ∈ FileSystem.steps p := by
    rw [FileSystem.steps_eq, ← step]
    exact List.mem_append_right _ (List.mem_map_of_mem there)
  exact mem_path_of_mem (mem_place_of_name_mem_steps down taken) (by simpa using inside)

end Path

namespace FileSystem

variable {p q : Path}

theorem plain_of_screen (screened : screen p = .ok ()) : '\x00' ∉ p.text.toList := by
  have plain := (screen_eq_ok_iff.mp screened).1
  rwa [Path.hasNul, List.contains_eq_mem, decide_eq_false_iff_not] at plain

theorem size_le_of_sublist (fewer : p.text.toList <+ q.text.toList) :
    p.text.utf8ByteSize ≤ q.text.utf8ByteSize := by
  have shorter := String.utf8Len_le_of_sublist fewer
  rwa [← String.utf8ByteSize_ofList, ← String.utf8ByteSize_ofList, String.ofList_toList,
    String.ofList_toList] at shorter

theorem screen_of_sublist (present : p.isEmpty = false)
    (fewer : p.text.toList <+ q.text.toList) (screened : screen q = .ok ()) :
    screen p = .ok () := by
  obtain ⟨-, -, short⟩ := screen_eq_ok_iff.mp screened
  refine screen_eq_ok_iff.mpr ⟨?_, present, (size_le_of_sublist fewer).trans short⟩
  rw [Path.hasNul, List.contains_eq_mem, decide_eq_false_iff_not]
  exact fun member => plain_of_screen screened (fewer.subset member)

end FileSystem

end ShieldPolicy
