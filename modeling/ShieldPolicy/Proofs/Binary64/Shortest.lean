import ShieldPolicy.Proofs.Binary64.ReadBack

/-!
The digits that `shortest` finds are read as the number that they stand for:
`ofDecimal_of_shortest`. A grid of eighteen digits is fine enough for every number.
-/

namespace ShieldPolicy.Binary64

variable {m k num den fuel : Nat} {e step lead : Int}

/-! ### The grid -/

/-- The unit of a grid, `10 ^ step`, in units of `2 ^ (e - 2)`, as a quotient. -/
def grid (e step : Int) : Nat × Nat :=
  if 0 ≤ step then ((scaled 1 (2 - e)).1 * Nat.pow 10 step.toNat, (scaled 1 (2 - e)).2)
  else ((scaled 1 (2 - e)).1, (scaled 1 (2 - e)).2 * Nat.pow 10 (-step).toNat)

def reads (m : Nat) (e step : Int) (k : Nat) : Bool :=
  let v := k * (grid e step).1
  let (lo, hi, closed) := readBack m e
  if closed then lo * (grid e step).2 ≤ v && v ≤ hi * (grid e step).2
  else lo * (grid e step).2 < v && v < hi * (grid e step).2

def nearest (m : Nat) (e step : Int) : Nat :=
  roundDiv (4 * m * (grid e step).2) (grid e step).1

def neighbour (m : Nat) (e step : Int) : Nat :=
  let below := 4 * m * (grid e step).2 / (grid e step).1
  if nearest m e step == below then below + 1 else below

theorem gridPoint?_eq (m : Nat) (e step : Int) : gridPoint? m e step =
    if reads m e step (nearest m e step) && nearest m e step != 0 then some (nearest m e step)
    else if reads m e step (neighbour m e step) && neighbour m e step != 0 then
      some (neighbour m e step)
    else none := by
  have near : nearest m e step =
      if 2 * (4 * m * (grid e step).2 % (grid e step).1) < (grid e step).1 ||
          (2 * (4 * m * (grid e step).2 % (grid e step).1) == (grid e step).1 &&
            4 * m * (grid e step).2 / (grid e step).1 % 2 == 0) then
        4 * m * (grid e step).2 / (grid e step).1
      else 4 * m * (grid e step).2 / (grid e step).1 + 1 := by
    unfold nearest roundDiv
    grind
  rw [neighbour, near]
  rfl

theorem grid_pos (e step : Int) : 0 < (grid e step).2 := by
  unfold grid
  split
  · exact scaled_pos 1 (2 - e)
  · exact Nat.mul_pos (scaled_pos 1 (2 - e)) (Nat.pow_pos (by decide))

theorem num_grid_pos (e step : Int) : 0 < (grid e step).1 := by
  have unit : 0 < (scaled 1 (2 - e)).1 := by
    unfold scaled
    split
    · exact Nat.mul_pos Nat.one_pos (Nat.pow_pos (by decide))
    · exact Nat.one_pos
  unfold grid
  split
  · exact Nat.mul_pos unit (Nat.pow_pos (by decide))
  · exact unit

theorem grid_ratio (e step : Int) :
    ((grid e step).1 : ℚ) / (grid e step).2 = 10 ^ step / 2 ^ (e - 2) := by
  have unit : ((scaled 1 (2 - e)).1 : ℚ) / (scaled 1 (2 - e)).2 = 1 / 2 ^ (e - 2) := by
    rw [scaled_ratio, value, Nat.cast_one, one_mul, one_div, ← zpow_neg, neg_sub]
  unfold grid
  split
  · rename_i up
    rw [Nat.cast_mul, cast_pow_toNat 10 up, Nat.cast_ofNat, mul_div_right_comm, unit]
    ring
  · rename_i down
    rw [Nat.cast_mul, cast_pow_toNat 10 (by omega), Nat.cast_ofNat, ← div_div, unit, zpow_neg,
      div_inv_eq_mul]
    ring

theorem grid_point (e step : Int) (k : Nat) : (k * (grid e step).1 : ℚ) =
    k * 10 ^ step / 2 ^ (e - 2) * (grid e step).2 := by
  have unitPos : (0 : ℚ) < (grid e step).2 := by exact_mod_cast grid_pos e step
  rw [mul_div_assoc, ← grid_ratio, mul_assoc, div_mul_cancel₀ _ unitPos.ne']

theorem le_point_iff (e step : Int) (n k : Nat) :
    n * (grid e step).2 ≤ k * (grid e step).1 ↔ value n (e - 2) ≤ k * 10 ^ step := by
  have unitPos : (0 : ℚ) < (grid e step).2 := by exact_mod_cast grid_pos e step
  rw [value, ← le_div_iff₀ (by positivity), ← mul_le_mul_iff_left₀ unitPos, ← grid_point]
  exact_mod_cast Iff.rfl

theorem point_le_iff (e step : Int) (n k : Nat) :
    k * (grid e step).1 ≤ n * (grid e step).2 ↔ k * 10 ^ step ≤ value n (e - 2) := by
  have unitPos : (0 : ℚ) < (grid e step).2 := by exact_mod_cast grid_pos e step
  rw [value, ← div_le_iff₀ (by positivity), ← mul_le_mul_iff_left₀ unitPos, ← grid_point]
  exact_mod_cast Iff.rfl

theorem reads_iff : reads m e step k ↔ ReadsAs m e (k * 10 ^ step) := by
  have low := le_point_iff e step (readBack m e).1 k
  have high := point_le_iff e step (readBack m e).2.1 k
  have above : (readBack m e).1 * (grid e step).2 < k * (grid e step).1 ↔
      lowEnd m e < k * 10 ^ step := by
    rw [← not_le, ← not_le, point_le_iff]
    rfl
  have below : k * (grid e step).1 < (readBack m e).2.1 * (grid e step).2 ↔
      k * 10 ^ step < highEnd m e := by
    rw [← not_le, ← not_le, le_point_iff]
    rfl
  have closed : (readBack m e).2.2 = (m % 2 == 0) := rfl
  unfold reads
  dsimp only
  rw [closed]
  obtain even | odd := Nat.mod_two_eq_zero_or_one m
  · simp only [even, beq_self_eq_true, if_true, Bool.and_eq_true, decide_eq_true_eq, low, high]
    constructor
    · rintro ⟨low, high⟩
      exact ⟨low, high, by omega⟩
    · intro reads
      exact ⟨reads.low, reads.high⟩
  · simp only [odd, one_ne_zero, beq_iff_eq, if_false, Bool.and_eq_true, decide_eq_true_eq, above,
      below]
    constructor
    · rintro ⟨above, below⟩
      exact ⟨above.le, below.le, fun _ => ⟨above, below⟩⟩
    · intro reads
      exact reads.odd odd

theorem gridPoint?_eq_some (found : gridPoint? m e step = some k) :
    0 < k ∧ ReadsAs m e (k * 10 ^ step) := by
  rw [gridPoint?_eq] at found
  split at found
  · rename_i first
    cases found
    obtain ⟨reads, some⟩ := Bool.and_eq_true_iff.mp first
    exact ⟨Nat.pos_of_ne_zero (by simpa using some), reads_iff.mp reads⟩
  split at found
  · rename_i second
    cases found
    obtain ⟨reads, some⟩ := Bool.and_eq_true_iff.mp second
    exact ⟨Nat.pos_of_ne_zero (by simpa using some), reads_iff.mp reads⟩
  · cases found

theorem isSome_gridPoint? (some : 0 < m) (fine : (10 : ℚ) ^ step < 2 ^ (e - 1)) :
    (gridPoint? m e step).isSome := by
  have pos := grid_pos e step
  have dense : (grid e step).1 < 2 * (grid e step).2 := by
    have unitPos : (0 : ℚ) < (grid e step).2 := by exact_mod_cast pos
    have ratio : ((grid e step).1 : ℚ) / (grid e step).2 < 2 := by
      rw [grid_ratio, div_lt_iff₀ (by positivity), ← zpow_one_add₀ two_ne_zero]
      rwa [show 1 + (e - 2) = e - 1 by omega]
    rw [div_lt_iff₀ unitPos] at ratio
    exact_mod_cast ratio
  have near := roundDiv_near (4 * m * (grid e step).2) (num_grid_pos e step)
  rw [mul_assoc 4 m] at near
  rw [show roundDiv (4 * (m * (grid e step).2)) (grid e step).1 = nearest m e step by
    rw [nearest, mul_assoc]] at near
  have inside : (readBack m e).1 + 1 ≤ 4 * m ∧ (readBack m e).2.1 = 4 * m + 2 := by
    unfold readBack
    dsimp only
    split <;> omega
  have low := Nat.mul_le_mul_right (grid e step).2 inside.1
  rw [Nat.add_mul, mul_assoc] at low
  have above : (readBack m e).1 * (grid e step).2 < nearest m e step * (grid e step).1 := by omega
  have below : nearest m e step * (grid e step).1 < (readBack m e).2.1 * (grid e step).2 := by
    rw [inside.2, Nat.add_mul, mul_assoc]
    omega
  have found : reads m e step (nearest m e step) = true := by
    unfold reads
    dsimp only
    split
    · simp [above.le, below.le]
    · simp [above, below]
  have nonzero : nearest m e step ≠ 0 := by
    intro zero
    rw [zero, zero_mul] at above
    exact Nat.not_lt_zero _ above
  rw [gridPoint?_eq, if_pos (by simp [found, nonzero])]
  rfl

/-! ### The first digit -/

theorem ten_pow_length_le {n : Nat} (some : 0 < n) : 10 ^ ((Nat.toDigits 10 n).length - 1) ≤ n := by
  have present : 0 < (Nat.toDigits 10 n).length := List.length_pos_iff.mpr Nat.toDigits_ne_nil
  by_contra less
  obtain single | more := Nat.eq_zero_or_pos ((Nat.toDigits 10 n).length - 1)
  · rw [single] at less
    omega
  · have shorter := (Nat.length_toDigits_le_iff (by decide) more).mpr (not_le.mp less)
    omega

theorem ten_pow_leadingExponent_le (some : 0 < num) (pos : 0 < den) :
    (10 : ℚ) ^ leadingExponent num den ≤ num / den := by
  have divisor : (0 : ℚ) < den := by exact_mod_cast pos
  unfold leadingExponent
  split
  · rename_i whole
    rw [zpow_natCast, le_div_iff₀ divisor]
    have digits := ten_pow_length_le (Nat.div_pos whole pos)
    rw [Nat.le_div_iff_mul_le pos] at digits
    exact_mod_cast digits
  · have length := (Nat.length_toDigits_le_iff (b := 10) (n := (den - 1) / num) (by decide)
      (List.length_pos_iff.mpr Nat.toDigits_ne_nil)).mp (le_refl _)
    rw [Nat.div_lt_iff_lt_mul some] at length
    rw [zpow_neg, zpow_natCast, inv_eq_one_div, div_le_div_iff₀ (by positivity) divisor]
    have bound : den ≤ num * 10 ^ (Nat.toDigits 10 ((den - 1) / num)).length := by
      rw [mul_comm]
      omega
    rw [one_mul]
    exact_mod_cast bound

/-! ### The digits -/

/-- Of the counts of digits that are tried, the first on whose grid a point reads back is taken. -/
theorem readsAs_shortestFrom {count n : Nat} (start : count ≤ n) (tried : n < count + fuel)
    (reads : (gridPoint? m e (lead + 1 - n)).isSome) :
    0 < (shortestFrom m e lead count fuel).1 ∧ ReadsAs m e
      ((shortestFrom m e lead count fuel).1 * 10 ^ (shortestFrom m e lead count fuel).2) := by
  induction fuel generalizing count with
  | zero => omega
  | succ fuel ih =>
    unfold shortestFrom
    dsimp only
    split
    · rename_i found
      exact gridPoint?_eq_some found
    · rename_i none
      obtain same | later := Nat.eq_or_lt_of_le start
      · rw [← same, none] at reads
        cases reads
      · exact ih later (by omega)

theorem grid_fine (mantissa : m < 2 ^ 53) (leads : (10 : ℚ) ^ lead ≤ value m e) :
    (10 : ℚ) ^ (lead + 1 - (18 : Nat)) < 2 ^ (e - 1) := by
  have below : (m : ℚ) < 2 ^ 53 := by exact_mod_cast mantissa
  have power : (2 : ℚ) ^ e = 2 * 2 ^ (e - 1) := by
    rw [← zpow_one_add₀ two_ne_zero, add_sub_cancel]
  have tens : (10 : ℚ) ^ (lead + 1 - (18 : Nat)) = 10 ^ lead / 10 ^ 17 := by
    rw [show lead + 1 - (18 : Nat) = lead - (17 : Nat) by omega, zpow_sub₀ (by norm_num),
      zpow_natCast]
  rw [tens, div_lt_iff₀ (by positivity)]
  calc (10 : ℚ) ^ lead
      ≤ m * 2 ^ e := leads
    _ < 2 ^ 53 * 2 ^ e := by gcongr
    _ = 2 ^ (e - 1) * 2 ^ 54 := by rw [power]; ring
    _ < 2 ^ (e - 1) * 10 ^ 17 := by gcongr; norm_num

theorem dropZeros_value (fuel : Nat) (step : Int) (some : 0 < k) :
    0 < (dropZeros fuel k step).1 ∧
      ((dropZeros fuel k step).1 : ℚ) * 10 ^ (dropZeros fuel k step).2 = k * 10 ^ step := by
  induction fuel generalizing k step with
  | zero => exact ⟨some, rfl⟩
  | succ fuel ih =>
    unfold dropZeros
    split
    · rename_i ends
      obtain ⟨rest, rfl⟩ := Nat.dvd_of_mod_eq_zero ends.1
      rw [Nat.mul_div_cancel_left rest (by decide)]
      obtain ⟨present, value⟩ := ih (k := rest) (step + 1) (by omega)
      refine ⟨present, value.trans ?_⟩
      rw [zpow_add_one₀ (by norm_num)]
      push_cast
      ring
    · exact ⟨some, rfl⟩

theorem readsAs_shortest (mantissa : m < 2 ^ 53) (some : 0 < m) (e : Int) :
    0 < (shortest m e).1 ∧ ReadsAs m e ((shortest m e).1 * 10 ^ (shortest m e).2) := by
  have whole : 0 < (scaled m e).1 := by
    unfold scaled
    split
    · exact Nat.mul_pos some (Nat.pow_pos (by decide))
    · exact some
  have leads := ten_pow_leadingExponent_le whole (scaled_pos m e)
  rw [scaled_ratio] at leads
  have digits := readsAs_shortestFrom (by decide : 1 ≤ 18) (by decide : 18 < 1 + 18)
    (isSome_gridPoint? some (grid_fine mantissa leads))
  rw [shortest, if_neg some.ne']
  dsimp only
  generalize shortestFrom m e (leadingExponent (scaled m e).1 (scaled m e).2) 1 18 = found
    at digits ⊢
  obtain ⟨present, same⟩ := dropZeros_value 20 found.2 digits.1
  rw [same]
  exact ⟨present, digits.2⟩

theorem shortest_shape (mantissa : m < 2 ^ 53) (e : Int) :
    0 < (shortest m e).1 ∨ (shortest m e).1 = 0 ∧ (shortest m e).2 = 0 := by
  obtain rfl | present := Nat.eq_zero_or_pos m
  · exact .inr ⟨rfl, rfl⟩
  · exact .inl (readsAs_shortest mantissa present e).1

theorem ofDecimal_zero (s : Bool) (step : Int) : ofDecimal s 0 step = zero s := by
  unfold ofDecimal ofNat
  rw [Nat.zero_mul]
  exact ite_self _

/-- Digits and a power of ten with the value of a number's shortest ones are read as the number. -/
theorem ofDecimal_of_shortest (s : Bool) (canonical : IsCanonical m e)
    (same : (k : ℚ) * 10 ^ step = (shortest m e).1 * 10 ^ (shortest m e).2) :
    ofDecimal s k step = .finite s m e := by
  obtain rfl | some := Nat.eq_zero_or_pos m
  · obtain rfl : e = leastExponent := canonical.normal.resolve_left (by norm_num)
    rw [shortest, if_pos rfl, Nat.cast_zero, zero_mul, mul_eq_zero, Nat.cast_eq_zero] at same
    obtain rfl := same.resolve_right (by positivity)
    exact ofDecimal_zero s step
  · have reads := (readsAs_shortest canonical.mantissa some e).2
    rw [← same] at reads
    exact ofDecimal_of_readsAs s canonical some reads

end ShieldPolicy.Binary64
