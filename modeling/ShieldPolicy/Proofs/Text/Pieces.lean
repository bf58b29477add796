import ShieldPolicy.Text.Split

/-!
Cutting at separators. `splitOn_append_cons` cuts a list in two at a separator, and
`splitOn_lines` reads back lines that were written one after the other, `splitOn_joinWith` pieces
with a separator between each two.
-/

namespace ShieldPolicy.Text

variable {α : Type} [DecidableEq α] {sep : α} {cs : List α}

theorem splitOn_of_not_mem (h : sep ∉ cs) : splitOn sep cs = [cs] := by
  induction cs with
  | nil => rfl
  | cons c cs ih =>
    simp only [List.mem_cons, not_or] at h
    rw [splitOn, if_neg (Ne.symm h.1), ih h.2]

theorem splitOn_append_cons (sep : α) (as bs : List α) :
    splitOn sep (as ++ sep :: bs) = splitOn sep as ++ splitOn sep bs := by
  induction as with
  | nil => simp [splitOn]
  | cons a as ih =>
    rw [List.cons_append, splitOn, splitOn]
    split
    · rw [ih]; rfl
    · rw [ih]
      cases hs : splitOn sep as with
      | nil => exact absurd hs (splitOn_ne_nil sep as)
      | cons piece pieces => rfl

theorem not_mem_of_mem_splitOn {piece : List α} (h : piece ∈ splitOn sep cs) : sep ∉ piece := by
  induction cs generalizing piece with
  | nil => simp [splitOn] at h; simp [h]
  | cons c cs ih =>
    rw [splitOn] at h
    split at h
    · rcases List.mem_cons.mp h with rfl | h
      · simp
      · exact ih h
    · rename_i hc
      cases hs : splitOn sep cs with
      | nil => exact absurd hs (splitOn_ne_nil sep cs)
      | cons first pieces =>
        rw [hs] at h ih
        rcases List.mem_cons.mp h with rfl | h
        · simp only [List.mem_cons, not_or]
          exact ⟨Ne.symm hc, ih List.mem_cons_self⟩
        · exact ih (List.mem_cons_of_mem _ h)

theorem splitOn_lines {lines : List (List α)} (h : ∀ line ∈ lines, sep ∉ line) :
    splitOn sep (lines.flatMap fun line => line ++ [sep]) = lines ++ [[]] := by
  induction lines with
  | nil => rfl
  | cons line lines ih =>
    rw [List.flatMap_cons, List.append_assoc, List.singleton_append, splitOn_append_cons,
      splitOn_of_not_mem (h line List.mem_cons_self),
      ih fun other member => h other (List.mem_cons_of_mem _ member)]
    rfl

theorem splitOn_joinWith {pieces : List (List α)} (some : pieces ≠ [])
    (h : ∀ piece ∈ pieces, sep ∉ piece) : splitOn sep (joinWith sep pieces) = pieces := by
  induction pieces with
  | nil => exact absurd rfl some
  | cons piece rest ih =>
    have first : splitOn sep piece = [piece] := splitOn_of_not_mem (h piece List.mem_cons_self)
    cases rest with
    | nil => exact first
    | cons next rest =>
      have onward := ih (List.cons_ne_nil _ _) fun other member =>
        h other (List.mem_cons_of_mem _ member)
      rw [joinWith, splitOn_append_cons, first, onward]
      · rfl
      · intro wrong
        cases wrong

theorem flatMap_joinWith {β γ : Type} {sep : β} {single : γ} {f : β → List γ}
    (once : f sep = [single]) (pieces : List (List β)) : (joinWith sep pieces).flatMap f =
      joinWith single (pieces.map fun piece => piece.flatMap f) := by
  induction pieces with
  | nil => rfl
  | cons piece rest ih =>
    cases rest with
    | nil => rfl
    | cons next rest =>
      rw [List.map_cons] at ih ⊢
      simp only [joinWith, List.flatMap_append, List.flatMap_cons, once, ih, List.map_cons,
        List.singleton_append]

theorem toList_joinTexts (c : Char) (texts : List String) :
    (joinTexts (String.singleton c) texts).toList = joinWith c (texts.map String.toList) := by
  induction texts with
  | nil => rfl
  | cons text rest ih =>
    cases rest with
    | nil => rfl
    | cons next rest =>
      rw [List.map_cons] at ih ⊢
      simp only [joinTexts, joinWith, String.toList_append, ih, String.toList_singleton,
        List.append_assoc, List.singleton_append, List.map_cons]

theorem dropStart?_append (head cs : List α) : dropStart? head (head ++ cs) = some cs := by
  simp [dropStart?]

theorem dropEnd?_append (tail cs : List α) : dropEnd? tail (cs ++ tail) = some cs := by
  simp [dropEnd?]

theorem dropEnd?_eq_some_iff {tail cs front : List α} :
    dropEnd? tail cs = some front ↔ cs = front ++ tail := by
  constructor
  · intro cut
    unfold dropEnd? at cut
    split at cut
    · rename_i ends
      obtain ⟨before, rfl⟩ := List.isSuffixOf_iff_suffix.mp ends
      cases cut
      simp
    · cases cut
  · rintro rfl
    exact dropEnd?_append tail front

end ShieldPolicy.Text
