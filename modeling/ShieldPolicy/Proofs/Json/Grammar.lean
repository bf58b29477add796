import ShieldPolicy.Json.Scalar
import ShieldPolicy.Proofs.Binary64.Rounding

/-!
The grammar of compact JSON texts. `Spells` relates a value to the texts that stand for it. No such
text holds a control character, so it fits on one line: `Spells.noControl`.
-/

namespace ShieldPolicy.Json

/-! ### Numbers -/

def IsDigits (cs : List Char) : Prop := cs ≠ [] ∧ ∀ c ∈ cs, c.isDigit

/-- A whole number without sign. Only the number zero starts with a zero. -/
def IsWhole (cs : List Char) : Prop := IsDigits cs ∧ (cs.head? = some '0' → cs = ['0'])

inductive IsFraction : List Char → List Char → Prop where
  | none : IsFraction [] []
  | some {digits : List Char} (some : IsDigits digits) : IsFraction digits ('.' :: digits)

inductive IsExponent : Int → List Char → Prop where
  | none : IsExponent 0 []
  | up {mark : Char} {sign digits : List Char} (marked : mark = 'e' ∨ mark = 'E')
      (signed : sign = [] ∨ sign = ['+']) (some : IsDigits digits) :
      IsExponent (Nat.ofDigitChars 10 digits 0) (mark :: sign ++ digits)
  | down {mark : Char} {digits : List Char} (marked : mark = 'e' ∨ mark = 'E')
      (some : IsDigits digits) :
      IsExponent (-Nat.ofDigitChars 10 digits 0) (mark :: '-' :: digits)

/-- A number `± significand · 10 ^ exponent`. -/
inductive IsNumeral : Bool → Nat → Int → List Char → Prop where
  | intro {negative : Bool} {whole digits fraction exponent : List Char} {n : Int}
      (isWhole : IsWhole whole) (isFraction : IsFraction digits fraction)
      (isExponent : IsExponent n exponent) :
      IsNumeral negative (Nat.ofDigitChars 10 (whole ++ digits) 0) (n - digits.length)
        ((if negative then ['-'] else []) ++ whole ++ fraction ++ exponent)

/-! ### Texts -/

inductive SpellsChar : Char → List Char → Prop where
  | plain {c : Char} (quote : c ≠ '"') (backslash : c ≠ '\\') (visible : 0x20 ≤ c.toNat) :
      SpellsChar c [c]
  | letter {c letter : Char} (escape : Reader.shortEscape? letter = some c) :
      SpellsChar c ['\\', letter]
  | code {c : Char} {digits : List Char} (four : digits.length = 4)
      (code : Reader.hexNumber? digits = some c.toNat) : SpellsChar c ('\\' :: 'u' :: digits)

inductive SpellsChars : List Char → List Char → Prop where
  | nil : SpellsChars [] []
  | cons {c : Char} {cs first rest : List Char} (head : SpellsChar c first)
      (tail : SpellsChars cs rest) : SpellsChars (c :: cs) (first ++ rest)

inductive SpellsText (s : String) : List Char → Prop where
  | quoted {cs : List Char} (inside : SpellsChars s.toList cs) : SpellsText s ('"' :: cs ++ ['"'])

/-! ### Values -/

mutual

/-- A value. A number that is no integer is the one nearest to its numeral. -/
inductive Spells : Json → List Char → Prop where
  | null : Spells .null ['n', 'u', 'l', 'l']
  | true : Spells (.bool true) ['t', 'r', 'u', 'e']
  | false : Spells (.bool false) ['f', 'a', 'l', 's', 'e']
  | natural {n : Nat} {cs : List Char} (whole : IsWhole cs) (value : Nat.ofDigitChars 10 cs 0 = n) :
      Spells (.number (.natural n)) cs
  | negative {n : Nat} {cs : List Char} (whole : IsWhole cs)
      (value : Nat.ofDigitChars 10 cs 0 = n) : Spells (.number (.negative n)) ('-' :: cs)
  | real {negative : Bool} {k : Nat} {step : Int} {m : Nat} {e : Int} {cs : List Char}
      (numeral : IsNumeral negative k step cs)
      (value : Binary64.ofDecimal negative k step = .finite negative m e) :
      Spells (.number (.real (.finite negative m e))) cs
  | text {s : String} {cs : List Char} (text : SpellsText s cs) : Spells (.text s) cs
  | array {items : List Json} {cs : List Char} (inside : SpellsItems items cs) :
      Spells (.array items) ('[' :: cs ++ [']'])
  | object {members : List (String × Json)} {cs : List Char} (inside : SpellsMembers members cs) :
      Spells (.object members) ('\x7b' :: cs ++ ['\x7d'])

inductive SpellsItems : List Json → List Char → Prop where
  | nil : SpellsItems [] []
  | last {j : Json} {cs : List Char} (item : Spells j cs) : SpellsItems [j] cs
  | cons {j next : Json} {rest : List Json} {cs more : List Char} (item : Spells j cs)
      (others : SpellsItems (next :: rest) more) :
      SpellsItems (j :: next :: rest) (cs ++ ',' :: more)

inductive SpellsMembers : List (String × Json) → List Char → Prop where
  | nil : SpellsMembers [] []
  | last {key : String} {j : Json} {name cs : List Char} (named : SpellsText key name)
      (value : Spells j cs) : SpellsMembers [(key, j)] (name ++ ':' :: cs)
  | cons {key : String} {j : Json} {next : String × Json} {rest : List (String × Json)}
      {name cs more : List Char} (named : SpellsText key name) (value : Spells j cs)
      (others : SpellsMembers (next :: rest) more) :
      SpellsMembers ((key, j) :: next :: rest) (name ++ ':' :: cs ++ ',' :: more)

end

/-! ### Values that can be spelled -/

mutual

def IsFinite : Json → Prop
  | .number (.real x) => x.IsFinite
  | .array items => AreFinite items
  | .object members => MembersFinite members
  | _ => True

def AreFinite : List Json → Prop
  | [] => True
  | j :: rest => IsFinite j ∧ AreFinite rest

def MembersFinite : List (String × Json) → Prop
  | [] => True
  | (_, j) :: rest => IsFinite j ∧ MembersFinite rest

end

/-! ### No controls -/

def NoControl (cs : List Char) : Prop := ∀ c ∈ cs, 0x20 ≤ c.toNat

variable {c : Char} {cs more digits : List Char} {j : Json} {s : String}

@[simp] theorem noControl_nil : NoControl [] := nofun

@[simp] theorem noControl_cons : NoControl (c :: cs) ↔ 0x20 ≤ c.toNat ∧ NoControl cs :=
  List.forall_mem_cons

@[simp] theorem noControl_append : NoControl (cs ++ more) ↔ NoControl cs ∧ NoControl more :=
  List.forall_mem_append

theorem IsDigits.noControl (digits : IsDigits cs) : NoControl cs := by
  intro c member
  have digit := digits.2 c member
  simp only [Char.isDigit, Bool.and_eq_true, decide_eq_true_eq, UInt32.le_iff_toNat_le] at digit
  exact Nat.le_trans (by decide) digit.1

theorem IsFraction.noControl (fraction : IsFraction digits cs) : NoControl cs := by
  cases fraction with
  | none => exact noControl_nil
  | some digits => exact noControl_cons.mpr ⟨by decide, digits.noControl⟩

theorem IsExponent.noControl {n : Int} (exponent : IsExponent n cs) : NoControl cs := by
  cases exponent with
  | none => exact noControl_nil
  | up marked signed digits =>
    obtain rfl | rfl := marked <;> obtain rfl | rfl := signed <;> simp [digits.noControl]
  | down marked digits =>
    obtain rfl | rfl := marked <;> simp [digits.noControl]

theorem IsNumeral.noControl {negative : Bool} {k : Nat} {step : Int}
    (numeral : IsNumeral negative k step cs) : NoControl cs := by
  cases numeral with
  | intro whole fraction exponent =>
    have sign : NoControl (if negative then ['-'] else []) := by cases negative <;> simp
    simp only [noControl_append]
    exact ⟨⟨⟨sign, whole.1.noControl⟩, fraction.noControl⟩, exponent.noControl⟩

theorem bounds_of_hexValue? {n : Nat} (value : Reader.hexValue? c = some n) : '0' ≤ c ∧ c ≤ 'f' := by
  unfold Reader.hexValue? at value
  split at value
  · rename_i range
    exact ⟨range.1, Char.le_trans range.2 (by decide)⟩
  split at value
  · rename_i range
    exact ⟨Char.le_trans (by decide) range.1, range.2⟩
  split at value
  · rename_i range
    exact ⟨Char.le_trans (by decide) range.1, Char.le_trans range.2 (by decide)⟩
  · cases value

theorem visible_of_hexValue? {n : Nat} (value : Reader.hexValue? c = some n) : 0x20 ≤ c.toNat :=
  Nat.le_trans (by decide) (Char.le_def.mp (bounds_of_hexValue? value).1)

theorem hexValue?_of_hexNumber? {n : Nat} (number : Reader.hexNumber? digits = some n) :
    ∀ d ∈ digits, ∃ v, Reader.hexValue? d = some v := by
  unfold Reader.hexNumber? at number
  generalize some 0 = start at number
  induction digits generalizing start with
  | nil => exact nofun
  | cons d digits ih =>
    rw [List.foldl_cons] at number
    refine List.forall_mem_cons.mpr ⟨?_, ih _ number⟩
    cases value : Reader.hexValue? d with
    | some v => exact ⟨v, rfl⟩
    | none =>
      -- Once a character is no digit, nothing that follows makes a number again.
      have fails (ds : List Char) : ds.foldl (fun acc ch => acc.bind fun n =>
          (Reader.hexValue? ch).map (16 * n + ·)) none = none := by
        induction ds with
        | nil => rfl
        | cons d ds ih => exact ih
      have none : (start.bind fun n => (Reader.hexValue? d).map (16 * n + ·)) = none := by
        cases start <;> simp [value]
      rw [none, fails] at number
      cases number

theorem noControl_of_hexNumber? {n : Nat} (number : Reader.hexNumber? digits = some n) :
    NoControl digits := by
  intro d member
  obtain ⟨v, value⟩ := hexValue?_of_hexNumber? number d member
  exact visible_of_hexValue? value

theorem visible_of_shortEscape? {letter : Char} (escape : Reader.shortEscape? letter = some c) :
    0x20 ≤ letter.toNat := by
  unfold Reader.shortEscape? at escape
  split at escape
  · rename_i known
    obtain rfl | rfl | rfl := known <;> decide
  -- The other letters stand for one control each.
  repeat
    split at escape
    · rename_i known
      subst known
      decide
  cases escape

theorem SpellsChar.noControl (spelled : SpellsChar c cs) : NoControl cs := by
  cases spelled with
  | plain _ _ visible => simpa using visible
  | letter escape => simp [visible_of_shortEscape? escape]
  | code _ code => simp [noControl_of_hexNumber? code]

theorem SpellsChars.noControl (spelled : SpellsChars cs more) : NoControl more := by
  induction spelled with
  | nil => exact noControl_nil
  | cons head tail ih => exact noControl_append.mpr ⟨head.noControl, ih⟩

theorem SpellsText.noControl (spelled : SpellsText s cs) : NoControl cs := by
  cases spelled with
  | quoted inside => simp [inside.noControl]

mutual

/-- A value is spelled on one line. -/
theorem Spells.noControl : ∀ {j : Json} {cs : List Char}, Spells j cs → NoControl cs
  | _, _, .null => by simp
  | _, _, .true => by simp
  | _, _, .false => by simp
  | _, _, .natural whole _ => whole.1.noControl
  | _, _, .negative whole _ => noControl_cons.mpr ⟨by decide, whole.1.noControl⟩
  | _, _, .real numeral _ => numeral.noControl
  | _, _, .text spelled => spelled.noControl
  | _, _, .array inside => by simp [inside.noControl]
  | _, _, .object inside => by simp [inside.noControl]

theorem SpellsItems.noControl : ∀ {items : List Json} {cs : List Char}, SpellsItems items cs →
    NoControl cs
  | _, _, .nil => noControl_nil
  | _, _, .last item => item.noControl
  | _, _, .cons item others => by simp [item.noControl, others.noControl]

theorem SpellsMembers.noControl : ∀ {members : List (String × Json)} {cs : List Char},
    SpellsMembers members cs → NoControl cs
  | _, _, .nil => noControl_nil
  | _, _, .last named value => by simp [named.noControl, value.noControl]
  | _, _, .cons named value others => by
    simp [named.noControl, value.noControl, others.noControl]

end

end ShieldPolicy.Json
