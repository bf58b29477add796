import ShieldPolicy.Binary64
import Mathlib.Algebra.Order.Field.Power
import Mathlib.Data.Rat.Cast.Order
import Mathlib.Tactic.FieldSimp
import Mathlib.Tactic.Linarith
import Mathlib.Tactic.Positivity
import Mathlib.Tactic.Ring

/-!
Rounding to the format binary64. A quotient is rounded on the right side of every power of two
between its bounds: `ofRatio_le` and `le_ofRatio`.
-/

namespace ShieldPolicy.Binary64

variable {m num den t : Nat} {e K : Int} {s : Bool}

def value (m : Nat) (e : Int) : ℚ := m * 2 ^ e

structure IsCanonical (m : Nat) (e : Int) : Prop where
  mantissa : m < 2 ^ 53
  least : leastExponent ≤ e
  greatest : e ≤ greatestExponent
  normal : 2 ^ 52 ≤ m ∨ e = leastExponent

/-! ### Quotients of natural numbers -/

theorem div_le_roundDiv (num den : Nat) : num / den ≤ roundDiv num den := by
  unfold roundDiv
  dsimp only
  repeat' split
  all_goals omega

theorem roundDiv_le_succ (num den : Nat) : roundDiv num den ≤ num / den + 1 := by
  unfold roundDiv
  dsimp only
  repeat' split
  all_goals omega

theorem le_roundDiv (pos : 0 < den) (below : t * den ≤ num) : t ≤ roundDiv num den :=
  Nat.le_trans ((Nat.le_div_iff_mul_le pos).mpr below) (div_le_roundDiv num den)

theorem roundDiv_le (pos : 0 < den) (above : num ≤ t * den) : roundDiv num den ≤ t := by
  obtain less | whole := Nat.lt_or_eq_of_le above
  · exact Nat.le_trans (roundDiv_le_succ num den) ((Nat.div_lt_iff_lt_mul pos).mpr less)
  · rw [roundDiv, whole, Nat.mul_mod_left, if_pos (by omega), Nat.mul_div_cancel _ pos]

theorem inUnits_pos (pos : 0 < den) (num : Nat) (e : Int) : 0 < (inUnits num den e).2 := by
  unfold inUnits
  split
  · exact Nat.mul_pos pos (Nat.pow_pos (by decide))
  · exact pos

theorem cast_pow_toNat (b : Nat) (up : 0 ≤ e) : ((Nat.pow b e.toNat : Nat) : ℚ) = b ^ e := by
  obtain ⟨n, rfl⟩ := Int.eq_ofNat_of_zero_le up
  rw [Int.toNat_natCast, Nat.pow_eq, Nat.cast_pow, zpow_natCast]

theorem inUnits_ratio (num den : Nat) (e : Int) :
    ((inUnits num den e).1 : ℚ) / (inUnits num den e).2 = num / den / 2 ^ e := by
  unfold inUnits
  split
  · rename_i up
    rw [Nat.cast_mul, cast_pow_toNat 2 up, Nat.cast_ofNat, div_div]
  · rename_i down
    rw [Nat.cast_mul, cast_pow_toNat 2 (by omega), Nat.cast_ofNat, zpow_neg]
    ring

theorem scaled_pos (m : Nat) (e : Int) : 0 < (scaled m e).2 := by
  unfold scaled
  split
  · exact Nat.one_pos
  · exact Nat.pow_pos (by decide)

theorem scaled_ratio (m : Nat) (e : Int) :
    ((scaled m e).1 : ℚ) / (scaled m e).2 = value m e := by
  unfold scaled value
  split
  · rename_i up
    rw [Nat.cast_mul, cast_pow_toNat 2 up, Nat.cast_ofNat, Nat.cast_one, div_one]
  · rename_i down
    rw [cast_pow_toNat 2 (by omega), Nat.cast_ofNat, zpow_neg, div_inv_eq_mul]

theorem inUnits_le_iff (pos : 0 < den) (num : Nat) (e : Int) (t : Nat) :
    (inUnits num den e).1 ≤ t * (inUnits num den e).2 ↔ (num : ℚ) / den ≤ value t e := by
  have unitPos : (0 : ℚ) < (inUnits num den e).2 := by exact_mod_cast inUnits_pos pos num e
  rw [value, ← div_le_iff₀ (by positivity), ← inUnits_ratio, div_le_iff₀ unitPos]
  exact_mod_cast Iff.rfl

theorem le_inUnits_iff (pos : 0 < den) (num : Nat) (e : Int) (t : Nat) :
    t * (inUnits num den e).2 ≤ (inUnits num den e).1 ↔ value t e ≤ (num : ℚ) / den := by
  have unitPos : (0 : ℚ) < (inUnits num den e).2 := by exact_mod_cast inUnits_pos pos num e
  rw [value, ← le_div_iff₀ (by positivity), ← inUnits_ratio, le_div_iff₀ unitPos]
  exact_mod_cast Iff.rfl

theorem value_two_pow (k : Nat) (e : Int) : value (2 ^ k) e = 2 ^ (e + k) := by
  rw [value, zpow_add₀ two_ne_zero, zpow_natCast, mul_comm]
  norm_cast

theorem inUnits_lt_iff (pos : 0 < den) (num : Nat) (e : Int) (k : Nat) :
    (inUnits num den e).1 / (inUnits num den e).2 < 2 ^ k ↔ (num : ℚ) / den < 2 ^ (e + k) := by
  rw [Nat.div_lt_iff_lt_mul (inUnits_pos pos num e), ← value_two_pow, ← not_le, ← not_le,
    le_inUnits_iff pos]

/-! ### The unit -/

section Unit

variable (some : 0 < num) (pos : 0 < den)
include some pos

/-- The logarithms give a quotient's own but for one. -/
theorem ratio_log2 : (2 : ℚ) ^ ((num.log2 : Int) - den.log2 - 1) < num / den ∧
    (num : ℚ) / den < 2 ^ ((num.log2 : Int) - den.log2 + 1) := by
  have numLow : (2 : ℚ) ^ num.log2 ≤ num := by exact_mod_cast Nat.log2_self_le some.ne'
  have denLow : (2 : ℚ) ^ den.log2 ≤ den := by exact_mod_cast Nat.log2_self_le pos.ne'
  have numHigh : (num : ℚ) < 2 ^ (num.log2 + 1) := by exact_mod_cast Nat.lt_log2_self
  have denHigh : (den : ℚ) < 2 ^ (den.log2 + 1) := by exact_mod_cast Nat.lt_log2_self
  have numPos : (0 : ℚ) < num := by exact_mod_cast some
  have denPos : (0 : ℚ) < den := by exact_mod_cast pos
  constructor
  · calc (2 : ℚ) ^ ((num.log2 : Int) - den.log2 - 1)
        = 2 ^ num.log2 / 2 ^ (den.log2 + 1) := by
          rw [sub_sub, zpow_sub₀ two_ne_zero, zpow_natCast]
          norm_cast
      _ ≤ num / 2 ^ (den.log2 + 1) := by gcongr
      _ < num / den := div_lt_div_of_pos_left numPos denPos denHigh
  · calc (num : ℚ) / den
        ≤ num / 2 ^ den.log2 := by gcongr
      _ < 2 ^ (num.log2 + 1) / 2 ^ den.log2 := by gcongr
      _ = 2 ^ ((num.log2 : Int) - den.log2 + 1) := by
          rw [sub_add_eq_add_sub, zpow_sub₀ two_ne_zero, zpow_natCast]
          norm_cast

/-- In its unit a quotient has 53 bits before the point, or fewer where the unit is the least one. -/
theorem unitOf_spec : leastExponent ≤ unitOf num den ∧
    (num : ℚ) / den < 2 ^ (unitOf num den + 53) ∧
      (2 ^ (unitOf num den + 52) ≤ (num : ℚ) / den ∨ unitOf num den = leastExponent) := by
  obtain ⟨low, high⟩ := ratio_log2 some pos
  have unit : unitOf num den = max leastExponent
      (if (inUnits num den ((num.log2 : Int) - den.log2 - 52)).1 /
          (inUnits num den ((num.log2 : Int) - den.log2 - 52)).2 < 2 ^ 52 then
        (num.log2 : Int) - den.log2 - 52 - 1 else (num.log2 : Int) - den.log2 - 52) := rfl
  obtain ⟨g, guess⟩ : ∃ g : Int, (num.log2 : Int) - den.log2 = g + 52 := ⟨_, (sub_add_cancel _ 52).symm⟩
  rw [guess] at low high unit
  rw [add_sub_cancel_right] at unit
  have twoPow {a b : Int} (le : a ≤ b) : (2 : ℚ) ^ a ≤ 2 ^ b := zpow_le_zpow_right₀ one_le_two le
  by_cases small : (num : ℚ) / den < 2 ^ (g + 52)
  · rw [if_pos ((inUnits_lt_iff pos num g 52).mpr small)] at unit
    refine ⟨by omega, lt_of_lt_of_le small (twoPow (by omega)), ?_⟩
    by_cases least : unitOf num den = leastExponent
    · exact .inr least
    · exact .inl (le_trans (twoPow (by omega)) low.le)
  · rw [if_neg (fun less => small ((inUnits_lt_iff pos num g 52).mp less))] at unit
    refine ⟨by omega, lt_of_lt_of_le high (twoPow (by omega)), ?_⟩
    by_cases least : unitOf num den = leastExponent
    · exact .inr least
    · exact .inl (le_trans (twoPow (by omega)) (not_lt.mp small))

theorem unitOf_eq {u : Int} (least : leastExponent ≤ u) (high : (num : ℚ) / den < 2 ^ (u + 53))
    (low : 2 ^ (u + 52) ≤ (num : ℚ) / den ∨ u = leastExponent) : unitOf num den = u := by
  obtain ⟨least', high', low'⟩ := unitOf_spec some pos
  have exponents {a b : Int} (le : (2 : ℚ) ^ a ≤ num / den) (lt : (num : ℚ) / den < 2 ^ b) : a < b :=
    (zpow_lt_zpow_iff_right₀ one_lt_two).mp (lt_of_le_of_lt le lt)
  refine le_antisymm ?_ ?_
  · rcases low' with low' | same
    · have := exponents low' high
      omega
    · omega
  · rcases low with low | same
    · have := exponents low high'
      omega
    · omega

end Unit

/-! ### Rounding -/

def rounded (num den : Nat) : Nat × Int :=
  let e := unitOf num den
  let m := roundDiv (inUnits num den e).1 (inUnits num den e).2
  if m = 2 ^ 53 then (2 ^ 52, e + 1) else (m, e)

theorem ofRatio_of_pos (some : 0 < num) : ofRatio s num den =
    if greatestExponent < (rounded num den).2 then .infinite s
    else .finite s (rounded num den).1 (rounded num den).2 := by
  rw [ofRatio, if_neg some.ne']
  rfl

theorem value_rounded (num den : Nat) : value (rounded num den).1 (rounded num den).2 =
    value (roundDiv (inUnits num den (unitOf num den)).1 (inUnits num den (unitOf num den)).2)
      (unitOf num den) := by
  unfold rounded
  dsimp only
  split
  · rename_i carry
    rw [carry, value_two_pow, value_two_pow]
    congr 1
    omega
  · rfl

section Rounded

variable (some : 0 < num) (pos : 0 < den)
include some pos

theorem roundDiv_bounds :
    roundDiv (inUnits num den (unitOf num den)).1 (inUnits num den (unitOf num den)).2 ≤ 2 ^ 53 ∧
      (2 ^ 52 ≤ roundDiv (inUnits num den (unitOf num den)).1 (inUnits num den (unitOf num den)).2 ∨
        unitOf num den = leastExponent) := by
  obtain ⟨-, high, low⟩ := unitOf_spec some pos
  constructor
  · have below := (inUnits_lt_iff pos num _ 53).mpr high
    exact Nat.le_trans (roundDiv_le_succ _ _) below
  · refine low.imp_left fun low => ?_
    have above : ¬ _ < 2 ^ 52 := fun less => not_lt.mpr low ((inUnits_lt_iff pos num _ 52).mp less)
    exact Nat.le_trans (not_lt.mp above) (div_le_roundDiv _ _)

theorem rounded_spec : (rounded num den).1 < 2 ^ 53 ∧ leastExponent ≤ (rounded num den).2 ∧
    (2 ^ 52 ≤ (rounded num den).1 ∨ (rounded num den).2 = leastExponent) := by
  obtain ⟨high, low⟩ := roundDiv_bounds some pos
  have least := (unitOf_spec some pos).1
  unfold rounded
  dsimp only
  split
  · exact ⟨by norm_num, by dsimp only; omega, .inl (le_refl _)⟩
  · rename_i small
    exact ⟨lt_of_le_of_ne high small, least, low⟩

theorem value_rounded_le (least : leastExponent ≤ K) (le : (num : ℚ) / den ≤ 2 ^ K) :
    value (rounded num den).1 (rounded num den).2 ≤ 2 ^ K := by
  obtain ⟨-, -, low⟩ := unitOf_spec some pos
  have unit : unitOf num den ≤ K := by
    rcases low with low | low
    · have := (zpow_le_zpow_iff_right₀ one_lt_two).mp (low.trans le)
      omega
    · omega
  obtain ⟨k, same⟩ := Int.eq_ofNat_of_zero_le (sub_nonneg.mpr unit)
  obtain rfl : K = unitOf num den + k := by omega
  rw [← value_two_pow] at le ⊢
  rw [value_rounded]
  have bound := roundDiv_le (inUnits_pos pos num _) ((inUnits_le_iff pos num _ _).mpr le)
  unfold value
  gcongr

theorem le_value_rounded (least : leastExponent ≤ K) (le : 2 ^ K ≤ (num : ℚ) / den) :
    2 ^ K ≤ value (rounded num den).1 (rounded num den).2 := by
  obtain ⟨-, high, -⟩ := unitOf_spec some pos
  by_cases unit : unitOf num den ≤ K
  · obtain ⟨k, same⟩ := Int.eq_ofNat_of_zero_le (sub_nonneg.mpr unit)
    obtain rfl : K = unitOf num den + k := by omega
    rw [← value_two_pow] at le ⊢
    rw [value_rounded]
    have bound := le_roundDiv (inUnits_pos pos num _) ((le_inUnits_iff pos num _ _).mpr le)
    unfold value
    gcongr
  · rw [value_rounded]
    obtain low | low := (roundDiv_bounds some pos).2
    · calc (2 : ℚ) ^ K
          ≤ 2 ^ (unitOf num den + (52 : Nat)) := zpow_le_zpow_right₀ one_le_two (by omega)
        _ = value (2 ^ 52) (unitOf num den) := (value_two_pow _ _).symm
        _ ≤ _ := by
          unfold value
          gcongr
    · omega

end Rounded

theorem ofRatio_le (pos : 0 < den) (least : leastExponent ≤ K) (greatest : K < 1024)
    (le : (num : ℚ) / den ≤ 2 ^ K) :
    ∃ m e, ofRatio s num den = .finite s m e ∧ IsCanonical m e ∧ value m e ≤ 2 ^ K := by
  obtain rfl | some := Nat.eq_zero_or_pos num
  · refine ⟨0, leastExponent, rfl, ⟨by norm_num, le_refl _, by decide, .inr rfl⟩, ?_⟩
    rw [value, Nat.cast_zero, zero_mul]
    positivity
  · obtain ⟨mantissa, exponent, normal⟩ := rounded_spec some pos
    have bound := value_rounded_le some pos least le
    have finite : (rounded num den).2 ≤ greatestExponent := by
      by_contra beyond
      have high : 2 ^ 52 ≤ (rounded num den).1 := by
        rcases normal with high | least
        · exact high
        · rw [least] at beyond
          exact absurd (by decide) beyond
      have wide : (2 : ℚ) ^ ((rounded num den).2 + (52 : Nat)) ≤ 2 ^ K := by
        refine le_trans ?_ bound
        rw [← value_two_pow]
        unfold value
        gcongr
      have exponents := (zpow_le_zpow_iff_right₀ one_lt_two).mp wide
      rw [greatestExponent] at beyond
      omega
    exact ⟨_, _, by rw [ofRatio_of_pos some, if_neg (not_lt.mpr finite)],
      ⟨mantissa, exponent, finite, normal⟩, bound⟩

theorem le_ofRatio (pos : 0 < den) (least : leastExponent ≤ K) (le : 2 ^ K ≤ (num : ℚ) / den) :
    ofRatio s num den = .infinite s ∨
      ∃ m e, ofRatio s num den = .finite s m e ∧ 2 ^ K ≤ value m e := by
  have some : 0 < num := by
    refine Nat.pos_of_ne_zero ?_
    rintro rfl
    rw [Nat.cast_zero, zero_div] at le
    exact absurd (lt_of_lt_of_le (by positivity) le) (lt_irrefl 0)
  rw [ofRatio_of_pos some]
  split
  · exact .inl rfl
  · exact .inr ⟨_, _, rfl, le_value_rounded some pos least le⟩

/-! ### Finite numbers -/

def IsFinite : Binary64 → Prop
  | .finite _ m e => IsCanonical m e
  | _ => False

theorem ofRatio_cases (pos : 0 < den) (num : Nat) (s : Bool) :
    ofRatio s num den = .infinite s ∨ (ofRatio s num den).IsFinite := by
  obtain rfl | some := Nat.eq_zero_or_pos num
  · exact .inr ⟨by norm_num, le_refl _, by decide, .inr rfl⟩
  · obtain ⟨mantissa, exponent, normal⟩ := rounded_spec some pos
    rw [ofRatio_of_pos some]
    split
    · exact .inl rfl
    · exact .inr ⟨mantissa, exponent, not_lt.mp ‹_›, normal⟩

def IsBounded (K : Int) : Binary64 → Prop
  | .finite _ m e => IsCanonical m e ∧ value m e ≤ 2 ^ K
  | _ => False

def IsLarge : Binary64 → Prop
  | .finite _ m e => 1 ≤ value m e
  | .infinite _ => True
  | .nan => False

variable {x y : Binary64}

theorem IsBounded.isFinite (bounded : x.IsBounded K) : x.IsFinite := by
  cases x with
  | finite => exact bounded.1
  | infinite | nan => exact bounded

theorem isFinite_neg (finite : x.IsFinite) : x.neg.IsFinite := by
  cases x with
  | finite => exact finite
  | infinite | nan => exact finite

theorem isBounded_ofRatio (pos : 0 < den) (least : leastExponent ≤ K) (greatest : K < 1024)
    (le : (num : ℚ) / den ≤ 2 ^ K) : (ofRatio s num den).IsBounded K := by
  obtain ⟨m, e, same, canonical, bound⟩ := ofRatio_le (s := s) pos least greatest le
  rw [same]
  exact ⟨canonical, bound⟩

theorem isBounded_ofNat {n k : Nat} (le : n ≤ 2 ^ k) (greatest : k < 1024) :
    (ofNat s n).IsBounded k := by
  refine isBounded_ofRatio Nat.one_pos (by rw [leastExponent]; omega) (by omega) ?_
  rw [Nat.cast_one, div_one, zpow_natCast]
  exact_mod_cast le

theorem isLarge_powerOfTen (k : Nat) : (powerOfTen k).IsLarge := by
  have one : (2 : ℚ) ^ (0 : Int) ≤ ((Nat.pow 10 k : Nat) : ℚ) / (1 : Nat) := by
    rw [zpow_zero, Nat.cast_one, div_one]
    exact_mod_cast Nat.one_le_pow k 10 (by decide)
  rcases le_ofRatio (s := false) Nat.one_pos (by decide) one with beyond | ⟨m, e, same, bound⟩
  · rw [powerOfTen, ofNat, beyond]
    trivial
  · rw [powerOfTen, ofNat, same]
    rwa [zpow_zero] at bound

theorem isBounded_divMagnitude (bounded : x.IsBounded K) (large : y.IsLarge)
    (least : leastExponent ≤ K) (greatest : K < 1024) : (x.divMagnitude y).IsBounded K := by
  cases x with
  | infinite | nan => exact bounded
  | finite s m e =>
    cases y with
    | infinite => exact bounded
    | nan => exact large.elim
    | finite s' m' e' =>
      have one : 1 ≤ value m' e' := large
      have divisor : 0 < m' := by
        refine Nat.pos_of_ne_zero ?_
        rintro rfl
        rw [value, Nat.cast_zero, zero_mul] at one
        exact absurd one (by norm_num)
      have pos := scaled_pos m (e - e')
      have quotient : ((scaled m (e - e')).1 : ℚ) / ((scaled m (e - e')).2 * m' : Nat) =
          value m e / value m' e' := by
        rw [Nat.cast_mul, ← div_div, scaled_ratio]
        simp only [value]
        rw [zpow_sub₀ two_ne_zero]
        field_simp
      have bound : value m e / value m' e' ≤ 2 ^ K :=
        le_trans (div_le_self (by unfold value; positivity) one) bounded.2
      rw [← quotient] at bound
      exact isBounded_ofRatio (Nat.mul_pos pos divisor) least greatest bound

theorem mulMagnitude_cases (finite : x.IsFinite) (y : Binary64) :
    (x.mulMagnitude y).isInfinite ∨ (x.mulMagnitude y).IsFinite := by
  cases x with
  | infinite | nan => exact finite.elim
  | finite s m e =>
    cases y with
    | infinite | nan => exact .inr finite
    | finite s' m' e' =>
      rcases ofRatio_cases (scaled_pos (m * m') (e + e')) (scaled (m * m') (e + e')).1 s with
        beyond | within
      · left
        rw [mulMagnitude]
        dsimp only
        rw [beyond]
        rfl
      · exact .inr within

end ShieldPolicy.Binary64
