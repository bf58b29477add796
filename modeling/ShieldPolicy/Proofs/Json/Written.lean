import ShieldPolicy.Json.Writer
import ShieldPolicy.Proofs.Binary64.Shortest
import ShieldPolicy.Proofs.Json.Grammar
import ShieldPolicy.Proofs.Text.Pieces
import Mathlib.Data.Rat.Init
import Mathlib.Tactic.FieldSimp
import Mathlib.Tactic.IntervalCases
import Mathlib.Tactic.Ring

/-!
What is written spells its value: `spells_write`. Only an infinite number is no JSON, so the value
must hold none.
-/

namespace ShieldPolicy.Json

variable {cs digits : List Char} {c : Char} {n k : Nat} {s : String}

/-! ### Digits -/

theorem isDigits_toDigits (n : Nat) : IsDigits (Nat.toDigits 10 n) :=
  ⟨Nat.toDigits_ne_nil, fun _ member => Nat.isDigit_of_mem_toDigits (by decide) (by decide) member⟩

theorem head?_toDigits (present : 0 < n) : (Nat.toDigits 10 n).head? ≠ some '0' := by
  induction n using Nat.strongRecOn with
  | ind n ih =>
    by_cases small : n < 10
    · rw [Nat.toDigits_of_lt_base small]
      interval_cases n <;> decide
    · have high : 0 < n / 10 := by omega
      have split := Nat.toDigits_append_toDigits (b := 10) (by decide) high (Nat.mod_lt n (by decide))
      rw [Nat.div_add_mod] at split
      rw [← split, List.head?_append_of_ne_nil _ Nat.toDigits_ne_nil]
      exact ih (n / 10) (by omega) high

theorem isWhole_toDigits (n : Nat) : IsWhole (Nat.toDigits 10 n) := by
  refine ⟨isDigits_toDigits n, ?_⟩
  intro zero
  obtain rfl | present := Nat.eq_zero_or_pos n
  · rfl
  · exact absurd zero (head?_toDigits present)

theorem isWhole_zero : IsWhole ['0'] := isWhole_toDigits 0

theorem isDigits_append (first : IsDigits cs) (more : ∀ c ∈ digits, c.isDigit) :
    IsDigits (cs ++ digits) := by
  refine ⟨List.append_ne_nil_of_left_ne_nil first.1 _, ?_⟩
  intro c member
  rcases List.mem_append.mp member with early | late
  · exact first.2 c early
  · exact more c late

/-! ### Numbers -/

section Numerals

variable (negative : Bool) {step : Int} {whole fraction : List Char}

def signOf (negative : Bool) : List Char := if negative then ['-'] else []

theorem isNumeral_point (isWhole : IsWhole whole) (isDigits : IsDigits fraction) {power : List Char}
    {n : Int} (isExponent : IsExponent n power) :
    IsNumeral negative (Nat.ofDigitChars 10 (whole ++ fraction) 0) (n - fraction.length)
      (signOf negative ++ whole ++ '.' :: fraction ++ power) :=
  .intro isWhole (.some isDigits) isExponent

theorem isWhole_of_head (isDigits : IsDigits cs) (nonzero : cs.head? ≠ some '0') : IsWhole cs :=
  ⟨isDigits, fun zero => absurd zero nonzero⟩

theorem isWhole_take {w : Nat} (present : 0 < k) (some : 0 < w) :
    IsWhole ((Nat.toDigits 10 k).take w) := by
  have isDigits := isDigits_toDigits k
  refine isWhole_of_head ⟨?_, fun c member => isDigits.2 c (List.mem_of_mem_take member)⟩ ?_
  · rw [Ne, List.take_eq_nil_iff, not_or]
    exact ⟨some.ne', isDigits.1⟩
  · rw [List.head?_take, if_neg some.ne']
    exact head?_toDigits present

theorem isDigits_zeros (n : Nat) : ∀ c ∈ List.replicate n '0', c.isDigit := by
  intro c member
  rw [List.eq_of_mem_replicate member]
  rfl

theorem isNumeral_whole {zeros : Nat} (shape : 0 < k ∨ zeros = 0) :
    IsNumeral negative (k * 10 ^ (zeros + 1)) (-1)
      (signOf negative ++ (Nat.toDigits 10 k ++ List.replicate zeros '0') ++ ['.', '0']) := by
  have isDigits := isDigits_append (isDigits_toDigits k) (isDigits_zeros zeros)
  have isWhole : IsWhole (Nat.toDigits 10 k ++ List.replicate zeros '0') := by
    rcases shape with present | rfl
    · refine isWhole_of_head isDigits ?_
      rw [List.head?_append_of_ne_nil _ Nat.toDigits_ne_nil]
      exact head?_toDigits present
    · rw [List.replicate_zero, List.append_nil]
      exact isWhole_toDigits k
  have numeral := isNumeral_point negative isWhole isWhole_zero.1 .none
  have value : Nat.ofDigitChars 10
      (Nat.toDigits 10 k ++ List.replicate zeros '0' ++ ['0']) 0 = k * 10 ^ (zeros + 1) := by
    rw [List.append_assoc, Nat.ofDigitChars_append, Nat.ofDigitChars_ten_toDigits,
      ← List.replicate_succ', Nat.ofDigitChars_replicate_zero, Nat.mul_comm]
  rw [value] at numeral
  simpa using numeral

theorem isNumeral_inside {w : Nat} (present : 0 < k) (some : 0 < w)
    (inside : w < (Nat.toDigits 10 k).length) :
    IsNumeral negative k (w - (Nat.toDigits 10 k).length)
      (signOf negative ++ (Nat.toDigits 10 k).take w ++ '.' :: (Nat.toDigits 10 k).drop w) := by
  have isDigits := isDigits_toDigits k
  have behind : IsDigits ((Nat.toDigits 10 k).drop w) := by
    refine ⟨?_, fun c member => isDigits.2 c (List.mem_of_mem_drop member)⟩
    rw [Ne, List.drop_eq_nil_iff]
    omega
  have numeral := isNumeral_point negative (isWhole_take present some) behind .none
  rw [List.take_append_drop, Nat.ofDigitChars_ten_toDigits, List.length_drop] at numeral
  have exponent : (0 : Int) - ((Nat.toDigits 10 k).length - w : Nat) =
      w - (Nat.toDigits 10 k).length := by omega
  rw [exponent] at numeral
  simpa using numeral

theorem isNumeral_below (k zeros : Nat) :
    IsNumeral negative k (-(zeros + (Nat.toDigits 10 k).length : Nat))
      (signOf negative ++ '0' :: '.' :: (List.replicate zeros '0' ++ Nat.toDigits 10 k)) := by
  have isDigits := isDigits_toDigits k
  have behind : IsDigits (List.replicate zeros '0' ++ Nat.toDigits 10 k) := by
    refine ⟨List.append_ne_nil_of_right_ne_nil _ isDigits.1, ?_⟩
    intro c member
    rcases List.mem_append.mp member with zero | digit
    · exact isDigits_zeros zeros c zero
    · exact isDigits.2 c digit
  have numeral := isNumeral_point negative isWhole_zero behind .none
  have value : Nat.ofDigitChars 10
      (['0'] ++ (List.replicate zeros '0' ++ Nat.toDigits 10 k)) 0 = k := by
    rw [← List.append_assoc, ← List.replicate_one, List.replicate_append_replicate,
      Nat.ofDigitChars_append, Nat.ofDigitChars_replicate_zero, Nat.mul_zero,
      Nat.ofDigitChars_ten_toDigits]
  rw [value, List.length_append, List.length_replicate] at numeral
  simpa using numeral

theorem toList_toString (n : Nat) : (toString n).toList = Nat.toDigits 10 n := Nat.toList_repr

theorem isExponent_exponentText (e : Int) : IsExponent e (Binary64.exponentText e).toList := by
  have value := Nat.ofDigitChars_ten_toDigits (n := e.natAbs)
  have digits := isDigits_toDigits e.natAbs
  unfold Binary64.exponentText
  rw [String.toList_append, toList_toString]
  split
  · have down := IsExponent.down (.inl (rfl : 'e' = 'e')) digits
    rw [value, Int.natCast_natAbs, abs_of_neg ‹_›, neg_neg] at down
    exact down
  · have up := IsExponent.up (.inl (rfl : 'e' = 'e')) (.inr rfl) digits
    rw [value, Int.natCast_natAbs, abs_of_nonneg (not_lt.mp ‹_›)] at up
    exact up

theorem isNumeral_scientific (present : 0 < k) (e : Int) :
    IsNumeral negative k (e - ((Nat.toDigits 10 k).drop 1).length)
      (signOf negative ++ (Nat.toDigits 10 k).take 1 ++
        (if ((Nat.toDigits 10 k).drop 1).isEmpty then [] else '.' :: (Nat.toDigits 10 k).drop 1) ++
          (Binary64.exponentText e).toList) := by
  have isDigits := isDigits_toDigits k
  have behind : IsFraction ((Nat.toDigits 10 k).drop 1)
      (if ((Nat.toDigits 10 k).drop 1).isEmpty then [] else '.' :: (Nat.toDigits 10 k).drop 1) := by
    split
    · rename_i none
      rw [List.isEmpty_iff.mp none]
      exact .none
    · rename_i some
      exact .some ⟨by simpa using some, fun c member => isDigits.2 c (List.mem_of_mem_drop member)⟩
  have numeral : IsNumeral negative _ _ _ :=
    .intro (isWhole_take present Nat.one_pos) behind (isExponent_exponentText e)
  rw [List.take_append_drop, Nat.ofDigitChars_ten_toDigits] at numeral
  exact numeral

/-- The layout of JSON makes a number of its grammar from decimal digits, with the same value. -/
theorem isNumeral_layout (shape : 0 < k ∨ k = 0 ∧ step = 0) :
    ∃ k' step', IsNumeral negative k' step'
      (signOf negative ++ (Binary64.Layout.json.write k step).toList) ∧
        (k' : ℚ) * 10 ^ step' = k * 10 ^ step := by
  have some : 0 < (Nat.toDigits 10 k).length := List.length_pos_iff.mpr Nat.toDigits_ne_nil
  simp only [Binary64.Layout.write, Binary64.Layout.json]
  split
  · by_cases whole : 0 ≤ step
    · obtain ⟨zeros, rfl⟩ := Int.eq_ofNat_of_zero_le whole
      have numeral := isNumeral_whole negative (by omega : 0 < k ∨ zeros = 0)
      refine ⟨_, _, by simpa [whole] using numeral, ?_⟩
      push_cast
      rw [zpow_neg_one, zpow_natCast]
      ring
    · have present : 0 < k := by omega
      rw [if_neg whole]
      by_cases reaches : 0 ≤ step + (Nat.toDigits 10 k).length - 1
      · obtain ⟨w, lead⟩ := Int.eq_ofNat_of_zero_le reaches
        have numeral := isNumeral_inside negative present (Nat.succ_pos w) (by omega)
        have place : ((w + 1 : Nat) : Int) - (Nat.toDigits 10 k).length = step := by omega
        rw [place] at numeral
        refine ⟨_, _, ?_, rfl⟩
        rw [if_pos reaches, lead]
        simpa [String.toList_append] using numeral
      · have numeral := isNumeral_below negative k
          ((-(step + (Nat.toDigits 10 k).length - 1)).toNat - 1)
        have place : (-(((-(step + (Nat.toDigits 10 k).length - 1)).toNat - 1 +
            (Nat.toDigits 10 k).length : Nat) : Int)) = step := by omega
        rw [place] at numeral
        refine ⟨_, _, ?_, rfl⟩
        rw [if_neg reaches]
        simpa [String.toList_append] using numeral
  · rename_i scientific
    have present : 0 < k := by
      rcases shape with present | ⟨rfl, rfl⟩
      · exact present
      · exact absurd (by decide) scientific
    have numeral := isNumeral_scientific negative present
      (step + (Nat.toDigits 10 k).length - 1)
    have place : step + (Nat.toDigits 10 k).length - 1 -
        (((Nat.toDigits 10 k).drop 1).length : Nat) = step := by
      rw [List.length_drop]
      omega
    rw [place] at numeral
    refine ⟨_, _, ?_, rfl⟩
    cases rest : (Nat.toDigits 10 k).drop 1 <;>
      simpa [rest, String.toList_append] using numeral

end Numerals

theorem spells_real (negative : Bool) {m : Nat} {e : Int} (canonical : Binary64.IsCanonical m e) :
    Spells (.number (.real (.finite negative m e)))
      (Binary64.write .json (.finite negative m e)).toList := by
  obtain ⟨k, step, numeral, same⟩ :=
    isNumeral_layout negative (Binary64.shortest_shape canonical.mantissa e)
  have shown : (Binary64.write .json (.finite negative m e)).toList = signOf negative ++
      (Binary64.Layout.json.write (Binary64.shortest m e).1 (Binary64.shortest m e).2).toList := by
    cases negative <;> simp [Binary64.write, signOf]
  rw [shown]
  exact .real numeral (Binary64.ofDecimal_of_shortest negative canonical same)

theorem spells_natural (n : Nat) : Spells (.number (.natural n)) (toString n).toList := by
  rw [toList_toString]
  exact .natural (isWhole_toDigits n) Nat.ofDigitChars_ten_toDigits

theorem spells_negative (n : Nat) : Spells (.number (.negative n)) ("-" ++ toString n).toList := by
  rw [String.toList_append, toList_toString]
  exact .negative (isWhole_toDigits n) Nat.ofDigitChars_ten_toDigits

/-! ### Texts -/

theorem spellsChar_of_control (control : c.toNat < 0x20) : SpellsChar c (writeChar c) := by
  -- The letter of the escape is the last character that is written.
  have each : ∀ n < 0x20,
      (writeChar (.ofNat n) = ['\\', (writeChar (.ofNat n)).getLastD '0'] ∧
        Reader.shortEscape? ((writeChar (.ofNat n)).getLastD '0') = some (.ofNat n)) ∨
      (writeChar (.ofNat n) = '\\' :: 'u' :: (writeChar (.ofNat n)).drop 2 ∧
        ((writeChar (.ofNat n)).drop 2).length = 4 ∧
        Reader.hexNumber? ((writeChar (.ofNat n)).drop 2) = some n) := by
    decide
  have found := each c.toNat control
  rw [Char.ofNat_toNat] at found
  rcases found with ⟨written, escape⟩ | ⟨written, four, code⟩
  · rw [written]
    exact .letter escape
  · rw [written]
    exact .code four code

theorem spellsChar_writeChar (c : Char) : SpellsChar c (writeChar c) := by
  by_cases control : c.toNat < 0x20
  · exact spellsChar_of_control control
  · by_cases quote : c = '"'
    · subst quote
      exact .letter rfl
    by_cases backslash : c = '\\'
    · subst backslash
      exact .letter rfl
    have other (known : Char) (low : known.toNat < 0x20) : c ≠ known := by
      rintro rfl
      exact control low
    have plain : writeChar c = [c] := by
      simp only [writeChar, quote, backslash, control, other '\x08' (by decide),
        other '\x0c' (by decide), other '\n' (by decide), other '\r' (by decide),
        other '\t' (by decide), if_false]
    rw [plain]
    exact .plain quote backslash (not_lt.mp control)

theorem spellsText_writeText (s : String) : SpellsText s (writeText s).toList := by
  have inside (cs : List Char) : SpellsChars cs (cs.flatMap writeChar) := by
    induction cs with
    | nil => exact .nil
    | cons c cs ih => exact .cons (spellsChar_writeChar c) ih
  rw [writeText, String.toList_ofList]
  exact .quoted (inside s.toList)

/-! ### Values -/

theorem spells_braced {members : List (String × Json)} {texts : List (String × String)}
    (each : List.Forall₂ (fun m t => m.1 = t.1 ∧ Spells m.2 t.2.toList) members texts) :
    Spells (.object members) (braced texts).toList := by
  have inside : SpellsMembers members
      (Text.joinTexts "," (texts.map fun t => writeText t.1 ++ ":" ++ t.2)).toList := by
    induction each with
    | nil => exact .nil
    | @cons m t members texts head rest ih =>
      obtain ⟨key, j⟩ := m
      obtain ⟨key', value⟩ := t
      obtain ⟨rfl, spelled⟩ := head
      have named := spellsText_writeText key
      cases rest with
      | nil => simpa [Text.joinTexts] using SpellsMembers.last named spelled
      | cons next rest => simpa [Text.joinTexts] using SpellsMembers.cons named spelled ih
  rw [braced, String.toList_append, String.toList_append]
  exact .object inside

mutual

/-- What is written for a value spells it, unless it holds an infinite number. -/
theorem spells_write : ∀ j : Json, j.IsFinite → Spells j j.write.toList
  | .null, _ => .null
  | .bool true, _ => .true
  | .bool false, _ => .false
  | .number (.natural n), _ => spells_natural n
  | .number (.negative n), _ => spells_negative n
  | .number (.real (.finite negative _ _)), finite => spells_real negative finite
  | .number (.real (.infinite _)), finite => by cases finite
  | .number (.real .nan), finite => by cases finite
  | .text s, _ => .text (spellsText_writeText s)
  | .array items, finite => by
    rw [write, String.toList_append, String.toList_append]
    exact .array (spells_writeItems items (by rwa [IsFinite] at finite))
  | .object members, finite => by
    rw [write]
    exact spells_braced (spells_writeMembers members (by rwa [IsFinite] at finite))

theorem spells_writeItems : ∀ items : List Json, AreFinite items →
    SpellsItems items (Text.joinTexts "," (writeItems items)).toList
  | [], _ => .nil
  | [j], finite => .last (spells_write j finite.1)
  | j :: next :: rest, finite => by
    have item := spells_write j finite.1
    have others := spells_writeItems (next :: rest) finite.2
    have text : (Text.joinTexts "," (writeItems (j :: next :: rest))).toList =
        j.write.toList ++ ',' :: (Text.joinTexts "," (writeItems (next :: rest))).toList := by
      simp [writeItems, Text.joinTexts]
    rw [text]
    exact .cons item others

theorem spells_writeMembers : ∀ members : List (String × Json), MembersFinite members →
    List.Forall₂ (fun m t => m.1 = t.1 ∧ Spells m.2 t.2.toList) members (writeMembers members)
  | [], _ => .nil
  | (_, j) :: rest, finite =>
    .cons ⟨rfl, spells_write j finite.1⟩ (spells_writeMembers rest finite.2)

end

end ShieldPolicy.Json
