import ShieldPolicy.Proofs.Text.Pieces
import ShieldPolicy.Provider
import Mathlib.Data.List.TakeWhile

/-!
Identities of client generators as texts. A name and a version that are written together are read
back: `Provider.parse_display`.
-/

namespace ShieldPolicy

namespace Text

variable {cs : List Char}

theorem dropBlank_of_plain (plain : ∀ c ∈ cs, isBlank c = false) : dropBlank cs = cs := by
  cases cs with
  | nil => rfl
  | cons c cs => exact List.dropWhile_cons_of_neg (by simp [plain c List.mem_cons_self])

theorem trimChars_of_plain (plain : ∀ c ∈ cs, isBlank c = false) : trimChars cs = cs := by
  have back : ∀ c ∈ cs.reverse, isBlank c = false := fun c member =>
    plain c (List.mem_reverse.mp member)
  rw [trimChars, dropBlank_of_plain plain, dropBlank_of_plain back, List.reverse_reverse]

end Text

namespace Provider

open Text

theorem cutAtLast_append {before after : List Char} (last : '@' ∉ after) :
    cutAtLast (before ++ '@' :: after) = some (before, after) := by
  obtain ⟨piece, pieces, some⟩ := List.exists_cons_of_ne_nil
    (List.reverse_ne_nil_iff.mpr (splitOn_ne_nil '@' before))
  have cut : (splitOn '@' (before ++ '@' :: after)).reverse = after :: piece :: pieces := by
    rw [splitOn_append_cons, splitOn_of_not_mem last, List.reverse_append, some]
    rfl
  rw [cutAtLast, cut]
  dsimp only
  rw [← some, List.reverse_reverse, joinWith_splitOn]

theorem parse_display {name version : String} (named : name ≠ "") (versioned : version ≠ "")
    (last : '@' ∉ version.toList) (plainName : ∀ c ∈ name.toList, isBlank c = false)
    (plain : ∀ c ∈ version.toList, isBlank c = false) :
    parse (display ⟨name, some version⟩) = .ok ⟨name, some version⟩ := by
  have spelled : (display ⟨name, some version⟩).toList = name.toList ++ '@' :: version.toList := by
    simp [display, String.toList_append]
  have whole : trimChars (name.toList ++ '@' :: version.toList) =
      name.toList ++ '@' :: version.toList := by
    refine trimChars_of_plain fun c member => ?_
    rcases List.mem_append.mp member with member | member
    · exact plainName c member
    rcases List.mem_cons.mp member with rfl | member
    · rfl
    · exact plain c member
  simp [parse, spelled, whole, cutAtLast_append last, named, versioned]

end Provider

end ShieldPolicy
