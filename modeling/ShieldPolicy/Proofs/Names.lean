import ShieldPolicy.Names

/-!
Lists of names as sets. `mem_sortedNames` says that no name is lost or added,
`sortedNames_ascending` that the names ascend strictly, `utf8_lt` that this is the order of their
bytes, and `sortedNames_congr` that a set of names has one such list.
-/

namespace ShieldPolicy

/-! ### Repeats -/

theorem mem_dropRepeats {a : String} {names : List String} : a ∈ dropRepeats names ↔ a ∈ names := by
  fun_induction dropRepeats names with
  | case1 => rfl
  | case2 b => rfl
  | case3 b rest ih => rw [ih]; simp
  | case4 b c rest different ih => simp only [List.mem_cons, ih]

theorem dropRepeats_ascending {names : List String} (sorted : names.Pairwise (· ≤ ·)) :
    (dropRepeats names).Pairwise (· < ·) := by
  fun_induction dropRepeats names with
  | case1 => exact List.Pairwise.nil
  | case2 a => exact List.pairwise_singleton _ a
  | case3 a rest ih => exact ih sorted.of_cons
  | case4 a b rest different ih =>
    refine List.Pairwise.cons ?_ (ih sorted.of_cons)
    intro c member
    have below := (List.pairwise_cons.mp sorted).1
    have above := (List.pairwise_cons.mp sorted.of_cons).1
    refine String.not_le.mp fun back => different ?_
    -- A name that is no greater than `a` is no greater than `b` either, and `b` lies between.
    rcases List.mem_cons.mp (mem_dropRepeats.mp member) with rfl | later
    · exact String.le_antisymm (below c List.mem_cons_self) back
    · exact String.le_antisymm (below b List.mem_cons_self)
        (String.le_trans (above c later) back)

/-! ### Order -/

theorem mergeSort_sorted (names : List String) :
    (names.mergeSort fun a b => decide (a ≤ b)).Pairwise (· ≤ ·) := by
  have trans (a b c : String) (first : decide (a ≤ b)) (second : decide (b ≤ c)) :
      decide (a ≤ c) :=
    decide_eq_true (String.le_trans (of_decide_eq_true first) (of_decide_eq_true second))
  have total (a b : String) : decide (a ≤ b) || decide (b ≤ a) := by
    simpa using String.le_total a b
  have sorted := List.pairwise_mergeSort trans total names
  exact sorted.imp fun le => of_decide_eq_true le

theorem mem_sortedNames {a : String} {names : List String} : a ∈ sortedNames names ↔ a ∈ names := by
  rw [sortedNames, mem_dropRepeats, List.mem_mergeSort]

theorem sortedNames_ascending (names : List String) : (sortedNames names).Pairwise (· < ·) :=
  dropRepeats_ascending (mergeSort_sorted names)

theorem sortedNames_nodup (names : List String) : (sortedNames names).Nodup := by
  refine (sortedNames_ascending names).imp fun {a b} less => ?_
  rintro rfl
  exact String.not_le.mpr less (String.le_refl a)

theorem sortedNames_congr {names names' : List String} (same : ∀ a, a ∈ names ↔ a ∈ names') :
    sortedNames names = sortedNames names' := by
  have perm : (sortedNames names).Perm (sortedNames names') :=
    (List.perm_ext_iff_of_nodup (sortedNames_nodup _) (sortedNames_nodup _)).mpr fun a => by
      rw [mem_sortedNames, mem_sortedNames, same a]
  refine perm.eq_of_pairwise ?_ (sortedNames_ascending names) (sortedNames_ascending names')
  intro a b _ _ less greater
  exact absurd greater (String.lt_asymm less)

/-! ### Bytes -/

def utf8 (s : String) : List UInt8 := s.toUTF8.data.toList

theorem utf8_eq (s : String) : utf8 s = s.toList.flatMap String.utf8EncodeChar := by
  rw [utf8, String.toUTF8_eq_toByteArray, ← String.utf8Encode_toList, List.utf8Encode]
  exact List.toList_data_toByteArray

/-- The encodings of two different characters differ before either ends, and the smaller character
has the smaller byte there. -/
theorem utf8EncodeChar_append_lt {c d : Char} (less : c < d) (after after' : List UInt8) :
    String.utf8EncodeChar c ++ after < String.utf8EncodeChar d ++ after' := by
  have smaller : c.val.toNat < d.val.toNat := less
  have hc : c.val.toNat < 0x110000 := by
    rcases c.valid with h | h <;> omega
  have hd : d.val.toNat < 0x110000 := by
    rcases d.valid with h | h <;> omega
  -- Every byte is a digit of the code point to the base 64.
  have digit (v : Nat) : v / 4096 = v / 64 / 64 ∧ v / 262144 = v / 64 / 64 / 64 := by omega
  unfold String.utf8EncodeChar
  simp only [digit]
  repeat' split
  all_goals
    simp only [List.cons_append, List.nil_append, List.cons_lt_cons_iff, UInt8.lt_iff_toNat_lt,
      ← UInt8.toNat_inj, UInt8.toNat_ofNat']
    omega

theorem utf8_lt {a b : String} (less : a < b) : utf8 a < utf8 b := by
  have less : a.toList < b.toList := less
  rw [utf8_eq, utf8_eq]
  generalize a.toList = as at less
  generalize b.toList = bs at less
  induction less with
  | nil =>
    rename_i d ds
    cases he : String.utf8EncodeChar d with
    | nil =>
      have := String.length_utf8EncodeChar d
      have := d.utf8Size_pos
      simp_all
    | cons x xs => simp [he]
  | rel less =>
    rw [List.flatMap_cons, List.flatMap_cons]
    exact utf8EncodeChar_append_lt less _ _
  | cons _ ih =>
    rw [List.flatMap_cons, List.flatMap_cons]
    exact List.append_left_lt ih

end ShieldPolicy
