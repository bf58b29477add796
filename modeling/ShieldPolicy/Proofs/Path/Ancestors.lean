import Mathlib.Data.List.DropRight
import Mathlib.Data.List.Infix
import ShieldPolicy.Proofs.Path.Normal

/-!
The parents of an absolute path. A parent is written as a first part of the path and lacks its last
step: `front_of_parent?` and `moves_of_parent?`. So the places of the ancestors are those that the
path passes, the last one first, and without a `..` in the path these are its place and all above
it: `map_place_ancestors`.
-/

namespace ShieldPolicy

namespace Text

variable {α : Type} {sep : α} {pieces pieces' : List (List α)}

theorem prefix_joinWith (front : pieces <+: pieces') :
    joinWith sep pieces <+: joinWith sep pieces' := by
  induction pieces generalizing pieces' with
  | nil => exact List.nil_prefix
  | cons piece rest ih =>
    obtain ⟨rest', rfl, onward⟩ : ∃ rest', pieces' = piece :: rest' ∧ rest <+: rest' := by
      obtain ⟨more, rfl⟩ := front
      exact ⟨rest ++ more, rfl, List.prefix_append _ _⟩
    cases rest with
    | nil =>
      cases rest' with
      | nil => exact List.prefix_refl _
      | cons => exact List.prefix_append _ _
    | cons next rest =>
      cases rest' with
      | nil => simp at onward
      | cons next' rest' =>
        change piece ++ sep :: joinWith sep (next :: rest) <+:
          piece ++ sep :: joinWith sep (next' :: rest')
        rw [List.prefix_append_right_inj, List.cons_prefix_cons]
        exact ⟨rfl, ih onward⟩

end Text

namespace Location

variable {l dir : Location} {name : String}

def upward (l : Location) : List Location := l.inits.reverse

theorem mem_upward : dir ∈ l.upward ↔ dir <+: l := by
  rw [upward, List.mem_reverse, List.mem_inits]

theorem upward_concat (l : Location) (name : String) :
    upward (l ++ [name]) = (l ++ [name]) :: l.upward := by
  simp [upward, List.inits_append]

theorem upward_eq_cons (l : Location) : ∃ rest, l.upward = l :: rest := by
  cases l using List.reverseRecOn with
  | nil => exact ⟨[], rfl⟩
  | append_singleton l name => exact ⟨upward l, upward_concat l name⟩

theorem findSome?_upward_dropLast {α : Type} {f : Location → Option α} (none : f l = none) :
    (upward l).findSome? f = (upward l.dropLast).findSome? f := by
  cases l using List.reverseRecOn with
  | nil => rfl
  | append_singleton l name =>
    rw [upward_concat, List.findSome?_cons, none, List.dropLast_concat]

end Location

open Location (stepClamped)

namespace Path

variable {p up dir : Path} {pieces : List (List Char)} {rest : List Char}

/-! ### Pieces that name no component -/

def isSolid (piece : List Char) : Bool := !(piece.isEmpty || piece == ['.'])

theorem filter_dropIdle (pieces : List (List Char)) :
    (dropIdle pieces).filter isSolid = pieces.filter isSolid := by
  change (pieces.rdropWhile fun piece => piece.isEmpty || piece == ['.']).filter isSolid = _
  induction pieces using List.reverseRecOn with
  | nil => rfl
  | append_singleton pieces piece ih =>
    rw [List.rdropWhile_concat]
    split
    · rename_i idle
      have gone : [piece].filter isSolid = [] := by simp [isSolid, idle]
      rw [ih, List.filter_append, gone, List.append_nil]
    · rfl

theorem prefix_dropIdle (pieces : List (List Char)) : dropIdle pieces <+: pieces :=
  List.rdropWhile_prefix _ pieces

theorem isSolid_getLast (some : dropIdle pieces ≠ []) :
    isSolid ((dropIdle pieces).getLast some) := by
  have solid := List.rdropWhile_last_not
    (fun piece : List Char => piece.isEmpty || piece == ['.']) pieces some
  exact (Bool.not_eq_true' _).mpr (Bool.eq_false_iff.mpr solid)

theorem text_of_absolute (absolute : p.isAbsolute) : ∃ rest, p.text.toList = '/' :: rest := by
  cases written : p.text.toList with
  | nil => simp [isAbsolute, written] at absolute
  | cons c rest =>
    have slash : c = '/' := by simpa [isAbsolute, written] using absolute
    exact ⟨rest, by rw [slash]⟩

theorem pieces_of_slash (written : p.text.toList = '/' :: rest) :
    p.pieces = (Text.splitOn '/' rest).filter fun piece => !piece.isEmpty := by
  have cut := Text.splitOn_append_cons '/' [] rest
  rw [List.nil_append, ← written] at cut
  rw [Path.pieces, cut, List.filter_append]
  rfl

theorem moves_of_pieces (same : p.pieces = pieces.filter fun piece => !piece.isEmpty) :
    p.moves = (pieces.filter isSolid).map Component.ofPiece := by
  rw [moves, same, List.filter_filter]
  congr 2
  funext piece
  rw [isSolid, Bool.not_or, Bool.and_comm]
  rfl

/-! ### Parents -/

/-- Whether a path is written as a first part of another one and leads to where that passes. -/
structure Front (front p : Path) : Prop where
  absolute : front.isAbsolute
  text : front.text.toList <+: p.text.toList
  steps : FileSystem.steps front <+: FileSystem.steps p
  moves : front.moves <+: p.moves

theorem Front.refl (absolute : p.isAbsolute) : Front p p :=
  ⟨absolute, List.prefix_refl _, List.prefix_refl _, List.prefix_refl _⟩

theorem Front.trans (first : Front dir up) (second : Front up p) : Front dir p :=
  ⟨first.absolute, first.text.trans second.text, first.steps.trans second.steps,
    first.moves.trans second.moves⟩

theorem pieces_parent? (written : p.text.toList = '/' :: rest) (parent : p.parent? = some up) :
    ∃ body, dropIdle (Text.splitOn '/' rest) = body ∧ body ≠ [] ∧
      up.text.toList = '/' :: Text.joinWith '/' (dropIdle body.dropLast) ∧
      up.pieces = (dropIdle body.dropLast).filter fun piece => !piece.isEmpty := by
  have absolute : p.isAbsolute := by simp [isAbsolute, written]
  unfold parent? at parent
  rw [if_pos absolute, written, List.drop_one, List.tail_cons] at parent
  split at parent
  · cases parent
  rename_i body some
  cases parent
  have text : (⟨String.ofList ('/' :: Text.joinWith '/' (dropIdle
      (dropIdle (Text.splitOn '/' rest)).dropLast))⟩ : Path).text.toList = '/' :: Text.joinWith '/'
        (dropIdle (dropIdle (Text.splitOn '/' rest)).dropLast) := String.toList_ofList
  refine ⟨_, rfl, some, text, ?_⟩
  rw [pieces_of_slash text]
  generalize left : dropIdle (dropIdle (Text.splitOn '/' rest)).dropLast = pieces
  cases pieces with
  | nil => rfl
  | cons piece pieces =>
    rw [Text.splitOn_joinWith (List.cons_ne_nil _ _)]
    intro piece member
    rw [← left] at member
    have inside := (prefix_dropIdle _).subset member
    exact Text.not_mem_of_mem_splitOn
      ((prefix_dropIdle _).subset ((List.dropLast_prefix _).subset inside))

theorem moves_of_parent?_none (absolute : p.isAbsolute) (none : p.parent? = none) :
    p.moves = [] := by
  obtain ⟨rest, written⟩ := text_of_absolute absolute
  unfold parent? at none
  rw [if_pos absolute, written, List.drop_one, List.tail_cons] at none
  split at none
  · rename_i idle
    rw [moves_of_pieces (pieces_of_slash written), ← filter_dropIdle, idle]
    rfl
  · cases none

theorem moves_of_parent? (absolute : p.isAbsolute) (parent : p.parent? = some up) :
    ∃ c, p.moves = up.moves ++ [c] := by
  obtain ⟨rest, written⟩ := text_of_absolute absolute
  obtain ⟨_, rfl, some, -, left⟩ := pieces_parent? written parent
  have last := isSolid_getLast some
  refine ⟨Component.ofPiece ((dropIdle (Text.splitOn '/' rest)).getLast some), ?_⟩
  rw [moves_of_pieces (pieces_of_slash written), moves_of_pieces left, filter_dropIdle,
    ← filter_dropIdle (Text.splitOn '/' rest)]
  conv_lhs => rw [← List.dropLast_concat_getLast some]
  rw [List.filter_append, List.filter_cons_of_pos last, List.filter_nil, List.map_append,
    List.map_singleton]

theorem front_of_parent? (absolute : p.isAbsolute) (parent : p.parent? = some up) :
    Front up p := by
  obtain ⟨rest, written⟩ := text_of_absolute absolute
  obtain ⟨body, cut, some, text, left⟩ := pieces_parent? written parent
  have absolute' : up.isAbsolute := by simp [isAbsolute, text]
  have front : dropIdle body.dropLast <+: Text.splitOn '/' rest := by
    rw [← cut]
    exact ((prefix_dropIdle _).trans (List.dropLast_prefix _)).trans (prefix_dropIdle _)
  obtain ⟨c, moves⟩ := moves_of_parent? absolute parent
  refine ⟨absolute', ?_, ?_, ?_⟩
  · rw [text, written, List.cons_prefix_cons, ← Text.joinWith_splitOn '/' rest]
    exact ⟨rfl, Text.prefix_joinWith front⟩
  · rw [FileSystem.steps_eq, FileSystem.steps_eq, if_pos absolute, if_pos absolute', left,
      pieces_of_slash written, List.prefix_append_right_inj]
    exact (front.filter _).map _
  · rw [moves]
    exact List.prefix_append _ _

theorem length_of_parent? (absolute : p.isAbsolute) (parent : p.parent? = some up) :
    up.text.length < p.text.length := by
  have front := front_of_parent? absolute parent
  obtain ⟨c, moves⟩ := moves_of_parent? absolute parent
  rw [← String.length_toList, ← String.length_toList]
  refine Nat.lt_of_le_of_ne front.text.length_le fun same => ?_
  have same : up = p := by
    have text := String.toList_inj.mp (front.text.eq_of_length same)
    cases up
    cases p
    exact congrArg Path.mk text
  rw [same] at moves
  simp at moves

/-- What holds of the root and of each path whose parent it holds of holds of all absolute paths. -/
theorem induction_parent? {motive : (p : Path) → p.isAbsolute → Prop}
    (top : ∀ p absolute, p.parent? = none → motive p absolute)
    (onward : ∀ p up absolute absolute', p.parent? = some up → motive up absolute' →
      motive p absolute)
    (absolute : p.isAbsolute) : motive p absolute := by
  generalize bound : p.text.length = n
  induction n using Nat.strongRecOn generalizing p with
  | ind n ih =>
    cases parent : p.parent? with
    | none => exact top p absolute parent
    | some up =>
      have shorter := length_of_parent? absolute parent
      have absolute' := (front_of_parent? absolute parent).absolute
      exact onward p up absolute absolute' parent (ih _ (bound ▸ shorter) absolute' rfl)

/-! ### Ancestors -/

theorem ancestorsWithin_eq {n m : Nat} (absolute : p.isAbsolute) (enough : p.text.length ≤ n)
    (enough' : p.text.length ≤ m) : ancestorsWithin n p = ancestorsWithin m p := by
  have some : p.text.length ≠ 0 := by
    obtain ⟨rest, written⟩ := text_of_absolute absolute
    rw [← String.length_toList, written]
    simp
  induction n generalizing m p with
  | zero => omega
  | succ n ih =>
    cases m with
    | zero => omega
    | succ m =>
      rw [ancestorsWithin, ancestorsWithin]
      cases parent : p.parent? with
      | none => rfl
      | some up =>
        have shorter := length_of_parent? absolute parent
        have absolute' := (front_of_parent? absolute parent).absolute
        obtain ⟨rest, written⟩ := text_of_absolute absolute'
        have some' : up.text.length ≠ 0 := by
          rw [← String.length_toList, written]
          simp
        exact congrArg _ (ih absolute' (by omega) (by omega) some')

theorem ancestors_of_parent?_none (none : p.parent? = none) : p.ancestors = [p] := by
  rw [ancestors, ancestorsWithin, none]

theorem ancestors_of_parent? (absolute : p.isAbsolute) (parent : p.parent? = some up) :
    p.ancestors = p :: up.ancestors := by
  have shorter := length_of_parent? absolute parent
  have absolute' := (front_of_parent? absolute parent).absolute
  rw [ancestors, ancestorsWithin, parent]
  exact congrArg _ (ancestorsWithin_eq absolute' (by omega) (Nat.le_succ _))

theorem ancestors_eq_cons (p : Path) : ∃ rest, p.ancestors = p :: rest := ⟨_, rfl⟩

theorem front_of_mem_ancestors (absolute : p.isAbsolute) (member : dir ∈ p.ancestors) :
    Front dir p := by
  induction absolute using induction_parent? with
  | top p absolute none =>
    rw [ancestors_of_parent?_none none] at member
    obtain rfl := List.mem_singleton.mp member
    exact .refl absolute
  | onward p up absolute _ parent ih =>
    rw [ancestors_of_parent? absolute parent] at member
    rcases List.mem_cons.mp member with rfl | above
    · exact .refl absolute
    · exact (ih above).trans (front_of_parent? absolute parent)

/-! ### The places of the ancestors -/

theorem place_eq_foldl_moves (absolute : p.isAbsolute) :
    p.place = p.moves.foldl stepClamped [] := by
  rw [place_eq_foldl_components, components_of_absolute absolute]
  rfl

theorem up_or_down_of_mem_moves {c : Component} (member : c ∈ p.moves) :
    c = .parent ∨ ∃ name, c = .name name := by
  obtain ⟨piece, -, rfl⟩ := List.mem_map.mp member
  unfold Component.ofPiece
  split
  · exact .inl rfl
  · exact .inr ⟨_, rfl⟩

theorem place_of_parent?_none (absolute : p.isAbsolute) (none : p.parent? = none) :
    p.place = [] := by
  rw [place_eq_foldl_moves absolute, moves_of_parent?_none absolute none]
  rfl

theorem place_of_parent? (absolute : p.isAbsolute) (parent : p.parent? = some up) :
    ∃ c ∈ p.moves, (c = .parent ∨ ∃ name, c = .name name) ∧ p.place = stepClamped up.place c := by
  have absolute' := (front_of_parent? absolute parent).absolute
  obtain ⟨c, moves⟩ := moves_of_parent? absolute parent
  have member : c ∈ p.moves := by simp [moves]
  refine ⟨c, member, up_or_down_of_mem_moves member, ?_⟩
  rw [place_eq_foldl_moves absolute, moves, List.foldl_concat, ← place_eq_foldl_moves absolute']

theorem find?_ancestors {has : Location → Bool} (here : has p.place) :
    (p.ancestors.map place).find? has = some p.place := by
  obtain ⟨rest, ancestors⟩ := ancestors_eq_cons p
  rw [ancestors, List.map_cons, List.find?_cons_of_pos here]

theorem map_place_ancestors (absolute : p.isAbsolute) (down : .parent ∉ p.moves) :
    p.ancestors.map place = p.place.upward := by
  induction absolute using induction_parent? with
  | top p absolute none =>
    rw [ancestors_of_parent?_none none, List.map_singleton, place_of_parent?_none absolute none]
    rfl
  | onward p up absolute absolute' parent ih =>
    have front := front_of_parent? absolute parent
    obtain ⟨c, member, rfl | ⟨name, rfl⟩, place⟩ := place_of_parent? absolute parent
    · exact absurd member down
    · have ih := ih fun member => down (front.moves.subset member)
      rw [ancestors_of_parent? absolute parent, List.map_cons, ih, place]
      exact (Location.upward_concat _ _).symm

/-- What is found at the first of the ancestors is what is found nearest to the place and above it,
unless it stands aside. -/
theorem findSome?_ancestors {α : Type} {f : Location → Option α} (absolute : p.isAbsolute)
    (above : ∀ l, (p.ancestors.map place).find? (fun l => (f l).isSome) = some l → l <+: p.place) :
    (p.ancestors.map place).findSome? f = p.place.upward.findSome? f := by
  induction absolute using induction_parent? with
  | top p absolute none =>
    rw [ancestors_of_parent?_none none, List.map_singleton, place_of_parent?_none absolute none]
    rfl
  | onward p up absolute absolute' parent ih =>
    rw [ancestors_of_parent? absolute parent, List.map_cons, List.find?_cons] at above
    rw [ancestors_of_parent? absolute parent, List.map_cons, List.findSome?_cons]
    cases here : f p.place with
    | some =>
      obtain ⟨rest, upward⟩ := Location.upward_eq_cons p.place
      rw [upward, List.findSome?_cons, here]
    | none =>
      simp only [here, Option.isSome_none] at above
      obtain ⟨c, -, rfl | ⟨name, rfl⟩, place⟩ := place_of_parent? absolute parent
      · have place : p.place = up.place.dropLast := place
        have before : p.place <+: up.place := by
          rw [place]
          exact List.dropLast_prefix _
        -- What the `..` leads away from was visited first, so nothing is found there.
        have aside : f up.place = none := by
          by_contra found
          have visited := above up.place (find?_ancestors (Option.isSome_iff_ne_none.mpr found))
          rw [← visited.eq_of_length (Nat.le_antisymm visited.length_le before.length_le)] at here
          exact found here
        rw [ih fun l found => (above l found).trans before, place]
        exact Location.findSome?_upward_dropLast aside
      · have place : p.place = up.place ++ [name] := place
        rw [place] at above here ⊢
        have below (l : Location)
            (found : (up.ancestors.map Path.place).find? (fun l => (f l).isSome) = some l) :
            l <+: up.place := by
          have has : (f l).isSome := List.find?_some (p := fun l => (f l).isSome) found
          rcases List.prefix_concat_iff.mp (above l found) with rfl | within
          · rw [here] at has
            cases has
          · exact within
        have step := Location.findSome?_upward_dropLast here
        rw [List.dropLast_concat] at step
        rw [step]
        exact ih below

end Path

end ShieldPolicy
