import ShieldPolicy.Location
import Mathlib.Data.List.Basic

/-!
The way from one location to another. `relative?_eq` says that the function always gives it, and
`walk?_relative` that its steps lead where they should.
-/

namespace ShieldPolicy.Location

variable {l base target : Location} {names : List String} {way way' : List Path.Component}

/-! ### Walks -/

theorem walk?_append (l : Location) (way way' : List Path.Component) :
    l.walk? (way ++ way') = (l.walk? way).bind fun mid => mid.walk? way' := by
  induction way generalizing l with
  | nil => rfl
  | cons c way ih =>
    rw [List.cons_append, walk?, walk?]
    cases l.step? c with
    | none => rfl
    | some next => exact ih next

theorem walk?_names (l : Location) (names : List String) :
    l.walk? (names.map .name) = some (l ++ names) := by
  induction names generalizing l with
  | nil => simp [walk?]
  | cons name names ih =>
    have next : (l ++ [name]).walk? (names.map .name) = some (l ++ [name] ++ names) := ih _
    simpa [walk?, step?] using next

theorem walk?_parents {n : Nat} (enough : n ≤ l.length) :
    l.walk? (List.replicate n .parent) = some (l.take (l.length - n)) := by
  induction n generalizing l with
  | zero => simp [walk?]
  | succ n ih =>
    have present : l ≠ [] := List.ne_nil_of_length_pos (by omega)
    have up : l.step? .parent = some l.dropLast := by simp [step?, present]
    have shorter : n ≤ l.dropLast.length := by rw [List.length_dropLast]; omega
    rw [List.replicate_succ, walk?, up, Option.bind_some, ih shorter, List.dropLast_eq_take,
      List.take_take, List.length_take]
    congr 2
    omega

/-! ### What two locations share -/

theorem commonLength_le {α : Type} [DecidableEq α] (base target : List α) :
    commonLength base target ≤ base.length ∧ commonLength base target ≤ target.length := by
  induction base generalizing target with
  | nil => simp [commonLength]
  | cons a base ih =>
    cases target with
    | nil => simp [commonLength]
    | cons b target =>
      have shorter := ih target
      rw [commonLength]
      split
      · exact ⟨Nat.succ_le_succ shorter.1, Nat.succ_le_succ shorter.2⟩
      · exact ⟨Nat.zero_le _, Nat.zero_le _⟩

theorem take_commonLength (base target : Location) :
    base.take (commonLength base target) = target.take (commonLength base target) := by
  induction base generalizing target with
  | nil => simp [commonLength]
  | cons a base ih =>
    cases target with
    | nil => simp [commonLength]
    | cons b target =>
      rw [commonLength]
      split
      · rename_i same
        rw [same, List.take_succ_cons, List.take_succ_cons, ih]
      · rfl

theorem commonLength_of_prefix (above : target <+: base) :
    commonLength base target = target.length := by
  induction target generalizing base with
  | nil => cases base <;> rfl
  | cons b target ih =>
    obtain ⟨rest, rfl⟩ := above
    rw [List.cons_append, commonLength, if_pos rfl, ih (List.prefix_append _ _)]
    rfl

theorem commonLength_map {α β : Type} [DecidableEq α] [DecidableEq β] {f : α → β}
    (injective : Function.Injective f) (base target : List α) :
    commonLength (base.map f) (target.map f) = commonLength base target := by
  induction base generalizing target with
  | nil => rfl
  | cons a base ih =>
    cases target with
    | nil => rfl
    | cons b target =>
      rw [List.map_cons, List.map_cons, commonLength, commonLength, ih]
      simp only [injective.eq_iff]

theorem commonLength_components (base target : Location) :
    commonLength base.components target.components = commonLength base target + 1 := by
  have names : Function.Injective Path.Component.name := fun _ _ => Path.Component.name.inj
  rw [components, components, commonLength, if_pos rfl, commonLength_map names]

theorem length_components (l : Location) : l.components.length = l.length + 1 := by
  rw [components, List.length_cons, List.length_map]

/-! ### The way from one to the other -/

def relative (base target : Location) : List Path.Component :=
  List.replicate (base.length - commonLength base target) .parent ++
    (target.drop (commonLength base target)).map .name

theorem checkedSub?_of_le {a b : Nat} (less : b ≤ a) : checkedSub? a b = some (a - b) := if_pos less

theorem fromUTF8?_toUTF8 (text : String) : String.fromUTF8? text.toUTF8 = some text := by
  simp only [String.fromUTF8?, String.toUTF8_eq_toByteArray, dif_pos text.isValidUTF8]
  rfl

theorem text?_eq (c : Path.Component) : c.text? = some c.text := fromUTF8?_toUTF8 c.text

/-- There is a way from any location to any other: the root is shared, no more is shared than `base`
has, and every step is text. -/
theorem relative?_eq (base target : Location) :
    relative? base target = some ((relative base target).map Path.Component.text) := by
  have less : commonLength base target + 1 ≤ base.length + 1 :=
    Nat.succ_le_succ (commonLength_le base target).1
  have down (steps : List Path.Component) :
      steps.mapM Path.Component.text? = some (steps.map Path.Component.text) := by
    rw [funext text?_eq]
    exact List.mapM_pure
  rw [relative?, commonLength_components, length_components, if_neg (Nat.succ_ne_zero _),
    checkedSub?_of_le less, Nat.add_sub_add_right, components, List.drop_succ_cons, down]
  simp [relative, List.map_drop, Path.Component.text]

theorem walk?_relative (base target : Location) :
    base.walk? (relative base target) = some target := by
  obtain ⟨short, -⟩ := commonLength_le base target
  have up := walk?_parents (l := base) (Nat.sub_le base.length (commonLength base target))
  rw [relative, walk?_append, up, Option.bind_some, walk?_names,
    Nat.sub_sub_self short, take_commonLength, List.take_append_drop]

theorem relative_above (above : target <+: base) :
    relative base target = List.replicate (base.length - target.length) .parent := by
  rw [relative, commonLength_of_prefix above, List.drop_length]
  exact List.append_nil _

theorem relative_apart (apart : ¬ target <+: base) :
    ∃ way dir file, target = dir ++ [file] ∧ relative base target = way ++ [.name file] := by
  have beyond : target.drop (commonLength base target) ≠ [] := by
    intro none
    have whole : target.take (commonLength base target) = target := by
      rw [← List.append_nil (target.take _), ← none, List.take_append_drop]
    rw [← take_commonLength] at whole
    exact apart (whole ▸ List.take_prefix _ _)
  have some : target ≠ [] := fun none => apart (none ▸ List.nil_prefix)
  have last : target.drop (commonLength base target) =
      (target.drop (commonLength base target)).dropLast ++ [target.getLast some] := by
    rw [← List.getLast_drop beyond, List.dropLast_concat_getLast]
  refine ⟨List.replicate (base.length - commonLength base target) .parent ++
    (target.drop (commonLength base target)).dropLast.map .name, target.dropLast,
    target.getLast some, (List.dropLast_concat_getLast some).symm, ?_⟩
  rw [relative, last, List.map_append, List.append_assoc]
  simp

theorem relative_eq_nil_iff : relative base target = [] ↔ target = base := by
  constructor
  · intro none
    have reached := walk?_relative base target
    rw [none] at reached
    exact (Option.some.inj reached).symm
  · rintro rfl
    rw [relative_above (List.prefix_refl target), Nat.sub_self]
    rfl

theorem mem_relative {c : Path.Component} (member : c ∈ relative base target) :
    c = .parent ∨ ∃ name ∈ target, c = .name name := by
  rw [relative] at member
  rcases List.mem_append.mp member with up | down
  · exact .inl (List.eq_of_mem_replicate up)
  · obtain ⟨name, there, rfl⟩ := List.mem_map.mp down
    exact .inr ⟨name, List.mem_of_mem_drop there, rfl⟩

end ShieldPolicy.Location
