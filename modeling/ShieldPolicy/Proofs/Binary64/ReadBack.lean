import ShieldPolicy.Binary64.Shortest
import ShieldPolicy.Proofs.Binary64.Rounding
import Mathlib.Tactic.Qify

/-!
The values that are rounded to a number. `readBack` gives the ends of them: `ofRatio_of_readsAs`,
and for decimal digits `ofDecimal_of_readsAs`.
-/

namespace ShieldPolicy.Binary64

variable {m num den t k : Nat} {e step : Int} {q : ℚ} {s : Bool}

/-- The lower end of the values that read back as `m · 2 ^ e`. -/
def lowEnd (m : Nat) (e : Int) : ℚ := value (readBack m e).1 (e - 2)

def highEnd (m : Nat) (e : Int) : ℚ := value (readBack m e).2.1 (e - 2)

/-- Whether a value reads back as `m · 2 ^ e`: it lies between the ends, which do not read back
themselves if the mantissa is odd. -/
structure ReadsAs (m : Nat) (e : Int) (q : ℚ) : Prop where
  low : lowEnd m e ≤ q
  high : q ≤ highEnd m e
  odd : m % 2 = 1 → lowEnd m e < q ∧ q < highEnd m e

/-! ### Half a unit -/

theorem roundDiv_near (num : Nat) (pos : 0 < den) :
    2 * (roundDiv num den * den) ≤ 2 * num + den ∧ 2 * num ≤ 2 * (roundDiv num den * den) + den := by
  have split := Nat.div_add_mod num den
  have rest := Nat.mod_lt num pos
  have next := Nat.add_mul (num / den) 1 den
  rw [Nat.mul_comm] at split
  unfold roundDiv
  dsimp only
  split_ifs <;> omega

/-- A quotient that is not farther than one half from a natural number is rounded to it, where a tie
goes to an even one. -/
theorem roundDiv_eq (pos : 0 < den) (low : 2 * (t * den) ≤ 2 * num + den)
    (high : 2 * num ≤ 2 * (t * den) + den)
    (odd : t % 2 = 1 → 2 * (t * den) < 2 * num + den ∧ 2 * num < 2 * (t * den) + den) :
    roundDiv num den = t := by
  have split := Nat.div_add_mod num den
  have rest := Nat.mod_lt num pos
  rw [Nat.mul_comm] at split
  unfold roundDiv
  dsimp only
  generalize num / den = d at split ⊢
  generalize num % den = r at split rest ⊢
  obtain less | rfl | rfl | more : t < d ∨ t = d ∨ t = d + 1 ∨ d + 2 ≤ t := by omega
  · have apart : (t + 1) * den ≤ d * den := Nat.mul_le_mul_right den less
    rw [Nat.succ_mul] at apart
    omega
  · grind
  · rw [Nat.succ_mul] at low high odd
    grind
  · have apart : (d + 2) * den ≤ t * den := Nat.mul_le_mul_right den more
    rw [Nat.add_mul] at apart
    omega

theorem roundDiv_inUnits (pos : 0 < den) (low : ((t : ℚ) - 1 / 2) * 2 ^ e ≤ num / den)
    (high : (num : ℚ) / den ≤ (t + 1 / 2) * 2 ^ e)
    (odd : t % 2 = 1 → ((t : ℚ) - 1 / 2) * 2 ^ e < num / den ∧
      (num : ℚ) / den < (t + 1 / 2) * 2 ^ e) :
    roundDiv (inUnits num den e).1 (inUnits num den e).2 = t := by
  have unitPos : (0 : ℚ) < (inUnits num den e).2 := by exact_mod_cast inUnits_pos pos num e
  have ratio := inUnits_ratio num den e
  have power : (0 : ℚ) < 2 ^ e := by positivity
  rw [eq_div_iff power.ne'] at ratio
  rw [← ratio] at low high odd
  simp only [mul_le_mul_iff_left₀ power, mul_lt_mul_iff_left₀ power, le_div_iff₀ unitPos,
    div_le_iff₀ unitPos, lt_div_iff₀ unitPos, div_lt_iff₀ unitPos] at low high odd
  refine roundDiv_eq (inUnits_pos pos num e) ?_ ?_ fun isOdd => ?_
  · qify
    linarith
  · qify
    linarith
  · obtain ⟨low, high⟩ := odd isOdd
    qify
    constructor <;> linarith

/-! ### The ends -/

theorem quarter (e : Int) : (2 : ℚ) ^ (e - 2) = 2 ^ e / 4 := by
  rw [zpow_sub₀ two_ne_zero]
  norm_num

theorem highEnd_eq (m : Nat) (e : Int) : highEnd m e = (m + 1 / 2) * 2 ^ e := by
  simp only [highEnd, readBack, value, quarter]
  push_cast
  ring

theorem lowEnd_eq (some : 0 < m) (usual : m = 2 ^ 52 → e ≤ leastExponent) :
    lowEnd m e = (m - 1 / 2) * 2 ^ e := by
  have inside : ¬ (m = Nat.pow 2 52 ∧ leastExponent < e) := fun edge => by
    have := usual edge.1
    omega
  simp only [lowEnd, readBack, value, quarter, if_neg inside]
  rw [Nat.cast_sub (by omega)]
  push_cast
  ring

/-- The number before the least mantissa of a unit is nearer by half, so half of that counts. -/
theorem lowEnd_edge (above : leastExponent < e) :
    lowEnd (2 ^ 52) e = (2 ^ 53 - 1 / 2) * 2 ^ (e - 1) := by
  simp only [lowEnd, readBack, value]
  rw [if_pos ⟨rfl, above⟩, quarter, zpow_sub₀ two_ne_zero]
  norm_num
  ring

theorem lowEnd_pos (some : 0 < m) (e : Int) : 0 < lowEnd m e := by
  have ends : 0 < (readBack m e).1 := by
    unfold readBack
    dsimp only
    split <;> omega
  unfold lowEnd value
  positivity

/-! ### Rounding -/

theorem rounded_eq (pos : 0 < den) {u : Int} (unit : unitOf num den = u)
    (low : ((t : ℚ) - 1 / 2) * 2 ^ u ≤ num / den) (high : (num : ℚ) / den ≤ (t + 1 / 2) * 2 ^ u)
    (odd : t % 2 = 1 → ((t : ℚ) - 1 / 2) * 2 ^ u < num / den ∧
      (num : ℚ) / den < (t + 1 / 2) * 2 ^ u) :
    rounded num den = if t = 2 ^ 53 then (2 ^ 52, u + 1) else (t, u) := by
  unfold rounded
  dsimp only
  rw [unit, roundDiv_inUnits pos low high odd]

theorem num_pos_of_readsAs (some : 0 < m) (reads : ReadsAs m e ((num : ℚ) / den)) : 0 < num := by
  refine Nat.pos_of_ne_zero ?_
  rintro rfl
  have low := reads.low
  rw [Nat.cast_zero, zero_div] at low
  exact absurd (lowEnd_pos some e) (not_lt.mpr low)

theorem ReadsAs.lt (canonical : IsCanonical m e) (reads : ReadsAs m e q) : q < 2 ^ (e + 53) := by
  have mantissa : (m : ℚ) + 1 ≤ 2 ^ 53 := by exact_mod_cast canonical.mantissa
  have high := reads.high
  rw [highEnd_eq] at high
  calc q
      ≤ (m + 1 / 2) * 2 ^ e := high
    _ < 2 ^ 53 * 2 ^ e := by gcongr; linarith
    _ = 2 ^ (e + 53) := by rw [zpow_add₀ two_ne_zero, mul_comm]; norm_cast

theorem rounded_edge (greatest : e ≤ greatestExponent) (above : leastExponent < e) (pos : 0 < den)
    (reads : ReadsAs (2 ^ 52) e ((num : ℚ) / den)) : rounded num den = (2 ^ 52, e) := by
  have canonical : IsCanonical (2 ^ 52) e := ⟨by norm_num, above.le, greatest, .inl (le_refl _)⟩
  have present := num_pos_of_readsAs (by norm_num) reads
  have below := reads.lt canonical
  obtain ⟨low, high, -⟩ := reads
  rw [lowEnd_edge above] at low
  rw [highEnd_eq] at high
  push_cast at high
  obtain ⟨u, rfl⟩ : ∃ u, e = u + 1 := ⟨e - 1, by omega⟩
  have power : (0 : ℚ) < 2 ^ u := by positivity
  have shift (k : Nat) : (2 : ℚ) ^ (u + k) = 2 ^ k * 2 ^ u := by
    rw [zpow_add₀ two_ne_zero, zpow_natCast, mul_comm]
  have next := shift 1
  have least := shift 52
  have bound := shift 53
  push_cast at next least bound
  rw [add_sub_cancel_right] at low
  rw [next] at high
  -- The unit of the value is `u + 1`, or `u` with a mantissa that is rounded up to `2 ^ 53`.
  by_cases whole : (2 : ℚ) ^ (u + 53) ≤ num / den
  · have unit : unitOf num den = u + 1 :=
      unitOf_eq present pos above.le below (.inl (by rwa [add_assoc]))
    rw [bound] at whole
    rw [rounded_eq pos unit (t := 2 ^ 52), if_neg (by norm_num)]
    · push_cast
      rw [next]
      linarith
    · push_cast
      rwa [next]
    · exact fun odd => absurd odd (by norm_num)
  · have unit : unitOf num den = u := by
      refine unitOf_eq present pos (by omega) (not_le.mp whole) (.inl ?_)
      rw [least]
      linarith
    rw [bound, not_le] at whole
    rw [rounded_eq pos unit (t := 2 ^ 53), if_pos rfl]
    · push_cast
      exact low
    · push_cast
      linarith
    · exact fun odd => absurd odd (by norm_num)

theorem rounded_usual (canonical : IsCanonical m e) (some : 0 < m)
    (usual : m = 2 ^ 52 → e ≤ leastExponent) (pos : 0 < den)
    (reads : ReadsAs m e ((num : ℚ) / den)) : rounded num den = (m, e) := by
  have present := num_pos_of_readsAs some reads
  have below := reads.lt canonical
  obtain ⟨low, high, odd⟩ := reads
  rw [highEnd_eq] at high odd
  rw [lowEnd_eq some usual] at low odd
  have unit : unitOf num den = e := by
    refine unitOf_eq present pos canonical.least below ?_
    by_cases least : e = leastExponent
    · exact .inr least
    · have more : 2 ^ 52 + 1 ≤ m := by
        have normal := canonical.normal.resolve_right least
        have := canonical.least
        omega
      have mantissa : (2 : ℚ) ^ 52 + 1 ≤ m := by exact_mod_cast more
      refine .inl ?_
      calc (2 : ℚ) ^ (e + 52)
          = 2 ^ 52 * 2 ^ e := by rw [zpow_add₀ two_ne_zero, mul_comm]; norm_cast
        _ ≤ (m - 1 / 2) * 2 ^ e := by gcongr; linarith
        _ ≤ num / den := low
  rw [rounded_eq pos unit low high odd, if_neg canonical.mantissa.ne]

theorem ofRatio_of_readsAs (s : Bool) (canonical : IsCanonical m e) (some : 0 < m) (pos : 0 < den)
    (reads : ReadsAs m e ((num : ℚ) / den)) : ofRatio s num den = .finite s m e := by
  have same : rounded num den = (m, e) := by
    by_cases edge : m = 2 ^ 52 ∧ leastExponent < e
    · obtain ⟨rfl, above⟩ := edge
      exact rounded_edge canonical.greatest above pos reads
    · exact rounded_usual canonical some (fun same => not_lt.mp fun above => edge ⟨same, above⟩)
        pos reads
  rw [ofRatio_of_pos (num_pos_of_readsAs some reads), same, if_neg (not_lt.mpr canonical.greatest)]

theorem ofDecimal_of_readsAs (s : Bool) (canonical : IsCanonical m e) (some : 0 < m)
    (reads : ReadsAs m e (k * 10 ^ step)) : ofDecimal s k step = .finite s m e := by
  unfold ofDecimal ofNat
  split
  · rename_i up
    refine ofRatio_of_readsAs s canonical some Nat.one_pos ?_
    rwa [Nat.cast_mul, cast_pow_toNat 10 up, Nat.cast_ofNat, Nat.cast_one, div_one]
  · rename_i down
    refine ofRatio_of_readsAs s canonical some (Nat.pow_pos (by decide)) ?_
    rwa [cast_pow_toNat 10 (by omega), Nat.cast_ofNat, zpow_neg, div_inv_eq_mul]

end ShieldPolicy.Binary64
