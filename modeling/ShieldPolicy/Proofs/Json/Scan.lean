import ShieldPolicy.Proofs.Json.Grammar
import ShieldPolicy.Proofs.Json.Skip

/-!
What a reader gives on a text that goes on. Texts in quotes are read back, `ends_textRest`, and what
a number is read as does not depend on what follows it: `gives_unsignedNumber`.
-/

namespace ShieldPolicy.Json

/-! ### What is spelled -/

section Spelled

variable {ch : Char} {cs : List Char}

theorem SpellsChar.length_pos (spelled : SpellsChar ch cs) : 0 < cs.length := by
  cases spelled <;> simp

theorem SpellsChars.length_le {spelled : List Char} (spells : SpellsChars cs spelled) :
    cs.length ≤ spelled.length := by
  induction spells with
  | nil => exact Nat.le_refl 0
  | cons head _ ih =>
    have one := head.length_pos
    rw [List.length_cons, List.length_append]
    omega

theorem IsExponent.mark {n : Int} (isExponent : IsExponent n (ch :: cs)) : ch = 'e' ∨ ch = 'E' := by
  generalize whole : ch :: cs = spelled at isExponent
  cases isExponent with
  | none => cases whole
  | up marked => rwa [(List.cons.inj whole).1]
  | down marked => rwa [(List.cons.inj whole).1]

end Spelled

namespace Reader

open Cursor

variable {α β : Type} {reader : Reader α} {next : α → Option β} {more : α → Reader β}
  {c mid : Cursor} {answer : Option α} {a : α} {ch : Char} {cs text tail : List Char}

/-! ### Answers and where they leave off -/

/-- An answer that leaves this text to be read, or an error where there is none. -/
inductive Ends (tail : List Char) : Option α → Except Error α × Cursor → Prop where
  | ok {a : α} {c : Cursor} (rest : c.rest = tail) : Ends tail (some a) (.ok a, c)
  | error {e : Error} {c : Cursor} : Ends tail none (.error e, c)

/-- What may follow a value: nothing, or the next sign of what holds it. -/
def Quiet (tail : List Char) : Prop := ∀ c ∈ tail.head?, c = ',' ∨ c = ']' ∨ c = '\x7d'

/-- The answer of a reader on a text, whatever quiet text follows. -/
def Gives (reader : Reader α) (text : List Char) (answer : Option α) : Prop :=
  ∀ ⦃c tail⦄, Quiet tail → c.rest = text ++ tail → Ends tail answer (reader c)

theorem quiet_nil : Quiet [] := nofun

theorem quiet_comma (rest : List Char) : Quiet (',' :: rest) := by
  rintro c ⟨⟩
  exact .inl rfl

theorem quiet_bracket (rest : List Char) : Quiet (']' :: rest) := by
  rintro c ⟨⟩
  exact .inr (.inl rfl)

theorem quiet_brace (rest : List Char) : Quiet ('\x7d' :: rest) := by
  rintro c ⟨⟩
  exact .inr (.inr rfl)

theorem Ends.bind {between : List Char} (first : Ends between answer (reader c))
    (rest : ∀ a mid, answer = some a → mid.rest = between → Ends tail (next a) (more a mid)) :
    Ends tail (answer.bind next) ((reader >>= more) c) := by
  generalize read : reader c = outcome at first
  cases first with
  | ok left =>
    rw [bind_of_ok read]
    exact rest _ _ rfl left
  | error =>
    rw [bind_of_error read]
    exact .error

theorem Ends.bind_pure (f : α → β) (inside : Ends tail answer (reader c)) :
    Ends tail (answer.map f) ((reader >>= fun a => pure (f a)) c) := by
  rw [Option.map_eq_bind]
  exact inside.bind fun a mid _ left => .ok left

theorem Ends.map (f : α → β) (inside : Ends tail answer (reader c)) :
    Ends tail (answer.map f) ((f <$> reader) c) := by
  rw [map_eq_pure_bind]
  exact inside.bind_pure f

theorem Ends.placed (inside : Ends tail answer (reader c)) :
    Ends tail answer (placed reader c) := by
  unfold Reader.placed
  generalize reader c = outcome at inside
  cases inside with
  | ok left => exact .ok left
  | @error e c =>
    obtain ⟨fault, position⟩ := e
    cases position <;> exact .error

theorem Ends.closedBy {between : List Char} {closing : Reader Unit}
    (inside : Ends between answer (reader c))
    (close : ∀ mid, mid.rest = between → Ends tail (some ()) (closing mid)) :
    Ends tail answer (closedBy reader closing c) := by
  unfold Reader.closedBy
  generalize reader c = outcome at inside
  cases inside with
  | @ok a mid left =>
    have closed := close mid left
    dsimp only
    generalize closing mid = outcome at closed
    cases closed with
    | ok left => exact .ok left
  | error => exact .error

theorem Ends.of_ok (ends : Ends tail (some a) (reader c)) :
    ∃ mid, reader c = (.ok a, mid) ∧ mid.rest = tail := by
  generalize reader c = outcome at ends
  cases ends with
  | ok left => exact ⟨_, rfl, left⟩

/-! ### Single characters -/

theorem head_of_rest (rest : c.rest = ch :: cs) : c.rest.head? = some ch := by
  rw [rest]
  rfl

theorem rest_advance_of_rest (rest : c.rest = ch :: cs) : c.advance.rest = cs := by
  rw [rest_advance, rest]
  rfl

theorem dropSpace_of_solid (rest : c.rest = ch :: cs) (solid : isSpace ch = false) :
    c.dropSpace = c := by
  rw [dropSpace, rest, List.takeWhile_cons_of_neg (by simp [solid])]
  rfl

theorem peekSolid_of_solid (rest : c.rest = ch :: cs) (solid : isSpace ch = false) :
    peekSolid c = (.ok (some ch), c) := by
  rw [peekSolid_eq, dropSpace_of_solid rest solid, head_of_rest rest]

theorem Quiet.not_digit (quiet : Quiet tail) : ∀ ch, tail.head? = some ch → ch.isDigit = false := by
  intro ch head
  rcases quiet ch head with rfl | rfl | rfl <;> rfl

theorem ends_word (expected : List Char) (rest : c.rest = expected ++ tail) :
    Ends tail (some ()) (word expected c) := by
  induction expected generalizing c with
  | nil => exact .ok rest
  | cons ch expected ih =>
    rw [word, bind_of_ok (peek_of_head (head_of_rest rest))]
    dsimp only
    rw [if_pos rfl, bind_of_ok (advance_eq c)]
    exact ih (rest_advance_of_rest rest)

/-! ### Texts -/

theorem utf8Size_of_hexValue? {n : Nat} (value : hexValue? ch = some n) :
    ch.utf8Size = 1 ∧ ch ≠ '\n' := by
  have low : ch.val ≤ 0x7F :=
    UInt32.le_trans (Char.le_def.mp (bounds_of_hexValue? value).2) (by decide)
  refine ⟨?_, ?_⟩
  · unfold Char.utf8Size
    exact if_pos low
  · rintro rfl
    cases value

theorem bytesAhead_hex {digits : List Char} (plain : ∀ d ∈ digits, d.utf8Size = 1 ∧ d ≠ '\n')
    (p : Position) : ∃ after, bytesAhead digits.length (digits ++ tail) p = (after, true) := by
  induction digits generalizing p with
  | nil => exact ⟨p, by rw [List.length_nil, bytesAhead]⟩
  | cons d digits ih =>
    obtain ⟨⟨one, line⟩, others⟩ := List.forall_mem_cons.mp plain
    rw [List.length_cons, List.cons_append, bytesAhead, if_neg line, one, if_pos (by omega),
      Nat.add_sub_cancel]
    exact ih others _

theorem ends_hexFour {digits : List Char} {n : Nat} (four : digits.length = 4)
    (number : hexNumber? digits = some n) (rest : c.rest = digits ++ tail) :
    Ends tail (some n) (hexFour c) := by
  have plain : ∀ d ∈ digits, d.utf8Size = 1 ∧ d ≠ '\n' := by
    intro d member
    obtain ⟨v, value⟩ := hexValue?_of_hexNumber? number d member
    exact utf8Size_of_hexValue? value
  obtain ⟨after, ahead⟩ :
      ∃ after, bytesAhead digits.length (digits ++ tail) c.here = (after, true) :=
    bytesAhead_hex plain c.here
  have taken : c.rest.take 4 = digits := by rw [rest, ← four, List.take_left]
  have read : bytesAhead 4 c.rest c.here = (after, true) := by rw [rest, ← four, ahead]
  have found : hexFour c = (.ok n, advanceBy 4 c) := by
    unfold hexFour
    rw [bind_of_ok (rfl : (get : Reader Cursor) c = (.ok c, c)), read]
    dsimp only
    rw [taken, number]
    rfl
  rw [found]
  refine .ok ?_
  rw [rest_advanceBy, rest, ← four, List.drop_left]

theorem not_surrogate (c : Char) : ¬ (0xDC00 ≤ c.toNat ∧ c.toNat ≤ 0xDFFF) ∧
    (c.toNat < 0xD800 ∨ 0xDBFF < c.toNat) := by
  have valid : c.toNat < 0xD800 ∨ 0xDFFF < c.toNat ∧ c.toNat < 0x110000 := c.valid
  omega

theorem unicodeEscape_of_code {digits : List Char} (four : digits.length = 4)
    (code : hexNumber? digits = some ch.toNat) (rest : c.rest = digits ++ tail) :
    ∃ mid, mid.rest = tail ∧ unicodeEscape c = (.ok ch, mid) := by
  obtain ⟨mid, read, left⟩ := (ends_hexFour four code rest).of_ok
  obtain ⟨low, single⟩ := not_surrogate ch
  refine ⟨mid, left, ?_⟩
  unfold unicodeEscape
  rw [bind_of_ok read, if_neg low, if_pos single, Char.ofNat_toNat]
  rfl

theorem textRest_escape {fuel : Nat} {read : List Char} (rest : c.rest = '\\' :: cs)
    (escaped : escape c.advance = (.ok ch, mid)) :
    textRest (fuel + 1) read c = textRest fuel (ch :: read) mid := by
  rw [textRest, bind_of_ok (peek_of_head (head_of_rest rest))]
  dsimp only
  rw [if_neg (by decide), if_pos rfl, bind_of_ok (advance_eq c), bind_of_ok escaped]

theorem textRest_char {fuel : Nat} {read first : List Char} (spelled : SpellsChar ch first)
    (rest : c.rest = first ++ tail) :
    ∃ mid, mid.rest = tail ∧ textRest (fuel + 1) read c = textRest fuel (ch :: read) mid := by
  cases spelled with
  | plain quote backslash visible =>
    refine ⟨c.advance, rest_advance_of_rest rest, ?_⟩
    rw [textRest, bind_of_ok (peek_of_head (head_of_rest rest))]
    dsimp only
    rw [if_neg quote, if_neg backslash, if_neg (by omega), bind_of_ok (advance_eq c)]
  | @letter letter known =>
    have next := rest_advance_of_rest rest
    refine ⟨c.advance.advance, rest_advance_of_rest next, textRest_escape rest ?_⟩
    have other : letter ≠ 'u' := by
      rintro rfl
      cases known
    unfold escape
    rw [bind_of_ok (peek_of_head (head_of_rest next))]
    dsimp only
    rw [if_neg other, known]
    rfl
  | code four code =>
    have next := rest_advance_of_rest rest
    obtain ⟨mid, left, read⟩ := unicodeEscape_of_code four code (rest_advance_of_rest next)
    refine ⟨mid, left, textRest_escape rest ?_⟩
    unfold escape
    rw [bind_of_ok (peek_of_head (head_of_rest next))]
    dsimp only
    rw [if_pos rfl, bind_of_ok (advance_eq _), read]

theorem ends_textRest {fuel : Nat} {read spelled : List Char} (spells : SpellsChars cs spelled)
    (enough : cs.length < fuel) (rest : c.rest = spelled ++ '"' :: tail) :
    Ends tail (some (String.ofList (read.reverse ++ cs))) (textRest fuel read c) := by
  induction spells generalizing fuel read c with
  | nil =>
    obtain ⟨fuel, rfl⟩ := Nat.exists_eq_add_one.mpr (Nat.zero_lt_of_lt enough)
    rw [textRest, bind_of_ok (peek_of_head (head_of_rest rest)), List.append_nil]
    exact .ok (rest_advance_of_rest rest)
  | @cons ch cs first others head _ ih =>
    rw [List.length_cons] at enough
    obtain ⟨fuel, rfl⟩ := Nat.exists_eq_add_one.mpr (Nat.zero_lt_of_lt enough)
    rw [List.append_assoc] at rest
    obtain ⟨mid, left, step⟩ : ∃ mid : Cursor, mid.rest = others ++ '"' :: tail ∧
        textRest (fuel + 1) read c = textRest fuel (ch :: read) mid := textRest_char head rest
    rw [step]
    have further : Ends tail (some (String.ofList ((ch :: read).reverse ++ cs)))
        (textRest fuel (ch :: read) mid) := ih (Nat.lt_of_succ_lt_succ enough) left
    rwa [List.reverse_cons, List.append_assoc, List.singleton_append] at further

theorem ends_text {s : String} {spelled : List Char} (spells : SpellsText s ('"' :: spelled))
    (rest : c.rest = spelled ++ tail) : Ends tail (some s) (Reader.text c) := by
  generalize whole : '"' :: spelled = quoted at spells
  cases spells with
  | @quoted inside chars =>
    obtain rfl : spelled = inside ++ ['"'] := (List.cons.inj whole).2
    have fits := chars.length_le
    have enough : s.toList.length < c.rest.length + 1 := by
      rw [rest, List.length_append, List.length_append]
      omega
    rw [List.append_assoc] at rest
    have read : Ends tail (some (String.ofList ([].reverse ++ s.toList)))
        (textRest (c.rest.length + 1) [] c) := ends_textRest chars enough rest
    rwa [List.reverse_nil, List.nil_append, String.ofList_toList] at read

/-! ### Numbers -/

section Numbers

variable (negative : Bool) (significand : Nat) (exponent : Int) {ds : List Char}

theorem digits_of_run (run : ∀ d ∈ ds, d.isDigit)
    (stop : ∀ ch, tail.head? = some ch → ch.isDigit = false)
    (rest : c.rest = ds ++ tail) : ∃ mid, mid.rest = tail ∧ digits c = (.ok ds, mid) := by
  have none : tail.takeWhile Char.isDigit = [] := by
    cases tail with
    | nil => rfl
    | cons ch tail => exact List.takeWhile_cons_of_neg (by simp [stop ch rfl])
  have taken : c.rest.takeWhile Char.isDigit = ds := by
    rw [rest, List.takeWhile_append_of_pos run, none, List.append_nil]
  refine ⟨c.pastDigits, ?_, ?_⟩
  · rw [pastDigits, rest_advanceBy, taken, rest, List.drop_left]
  · rw [digits_eq, taken]

theorem gives_realNumber :
    ∃ answer, Gives (realNumber negative significand exponent) [] answer := by
  refine ⟨(scaleDecimal? significand exponent).map fun x =>
    .real (if negative then x.neg else x), ?_⟩
  intro c tail _ rest
  unfold realNumber
  cases scaleDecimal? significand exponent with
  | none => exact .error
  | some x => exact .ok rest

theorem exponentDigits_run (run : ∀ d ∈ ds, d.isDigit) (start : Nat) :
    ∃ written left, (∀ d ∈ left, d.isDigit) ∧ (written ≠ none → left = []) ∧
      ∀ {fuel c tail}, Quiet tail → ds.length < fuel → c.rest = ds ++ tail →
        ∃ mid, mid.rest = left ++ tail ∧ exponentDigits fuel start c = (.ok written, mid) := by
  induction ds generalizing start with
  | nil =>
    refine ⟨some start, [], nofun, fun _ => rfl, ?_⟩
    intro fuel c tail quiet enough rest
    obtain ⟨fuel, rfl⟩ := Nat.exists_eq_add_one.mpr (Nat.zero_lt_of_lt enough)
    refine ⟨c, rest, ?_⟩
    rw [exponentDigits, bind_of_ok (peek_eq c)]
    cases head : c.rest.head? with
    | none => rfl
    | some ch =>
      have other : ch.isDigit = false := quiet.not_digit ch (by rw [← head, rest, List.nil_append])
      dsimp only
      rw [if_neg (by simp [other])]
      rfl
  | cons d ds ih =>
    obtain ⟨digit, others⟩ := List.forall_mem_cons.mp run
    have step {fuel : Nat} {c : Cursor} {tail : List Char} (rest : c.rest = d :: ds ++ tail) :
        exponentDigits (fuel + 1) start c =
          (if start * 10 + (d.toNat - '0'.toNat) < exponentBound then
            exponentDigits fuel (start * 10 + (d.toNat - '0'.toNat))
          else return none) c.advance := by
      rw [exponentDigits, bind_of_ok (peek_of_head (head_of_rest rest))]
      dsimp only
      rw [if_pos digit, bind_of_ok (advance_eq c)]
    by_cases within : start * 10 + (d.toNat - '0'.toNat) < exponentBound
    · obtain ⟨written, left, digits, done, reads⟩ := ih others (start * 10 + (d.toNat - '0'.toNat))
      refine ⟨written, left, digits, done, ?_⟩
      intro fuel c tail quiet enough rest
      rw [List.length_cons] at enough
      obtain ⟨fuel, rfl⟩ := Nat.exists_eq_add_one.mpr (Nat.zero_lt_of_lt enough)
      rw [step rest, if_pos within]
      exact reads quiet (Nat.lt_of_succ_lt_succ enough) (rest_advance_of_rest rest)
    · refine ⟨none, ds, others, fun some => absurd rfl some, ?_⟩
      intro fuel c tail quiet enough rest
      obtain ⟨fuel, rfl⟩ := Nat.exists_eq_add_one.mpr (Nat.zero_lt_of_lt enough)
      refine ⟨c.advance, rest_advance_of_rest rest, ?_⟩
      rw [step rest, if_neg within]
      rfl

section Exponent

variable {down : Bool} {written : Nat} (digits : IsDigits ds) (rest : c.rest = ds ++ tail)
include digits rest

theorem exponentNumber_of_some
    (read : exponentDigits (c.rest.length + 1) 0 c = (.ok (some written), mid)) :
    exponentNumber negative significand exponent down c =
      realNumber negative significand (max (-(exponentBound : Int)) (min (exponentBound - 1)
        (if down then exponent - written else exponent + written))) mid := by
  obtain ⟨d, more, rfl⟩ := List.exists_cons_of_ne_nil digits.1
  unfold exponentNumber
  rw [bind_of_ok (peek_of_head (head_of_rest rest))]
  dsimp only
  rw [if_neg (by simp [digits.2 d List.mem_cons_self])]
  refine (bind_of_ok (rfl : (get : Reader Cursor) c = (.ok c, c))).trans ?_
  exact bind_of_ok read

theorem exponentNumber_of_none
    (read : exponentDigits (c.rest.length + 1) 0 c = (.ok none, mid)) :
    exponentNumber negative significand exponent down c =
      (if significand ≠ 0 ∧ !down then failHere .numberOutOfRange
      else do
        discard Reader.digits
        return .real (.zero negative)) mid := by
  obtain ⟨d, more, rfl⟩ := List.exists_cons_of_ne_nil digits.1
  unfold exponentNumber
  rw [bind_of_ok (peek_of_head (head_of_rest rest))]
  dsimp only
  rw [if_neg (by simp [digits.2 d List.mem_cons_self])]
  refine (bind_of_ok (rfl : (get : Reader Cursor) c = (.ok c, c))).trans ?_
  exact bind_of_ok read

end Exponent

theorem gives_exponentNumber (down : Bool) (digits : IsDigits ds) :
    ∃ answer, Gives (exponentNumber negative significand exponent down) ds answer := by
  obtain ⟨written, left, run, done, reads⟩ := exponentDigits_run digits.2 0
  have enough {c : Cursor} {tail : List Char} (rest : c.rest = ds ++ tail) :
      ds.length < c.rest.length + 1 := by
    rw [rest, List.length_append]
    omega
  cases written with
  | some written =>
    obtain ⟨answer, gives⟩ := gives_realNumber negative significand
      (max (-(exponentBound : Int)) (min (exponentBound - 1)
        (if down then exponent - written else exponent + written)))
    refine ⟨answer, ?_⟩
    intro c tail quiet rest
    obtain ⟨mid, after, read⟩ := reads quiet (enough rest) rest
    rw [done nofun] at after
    rw [exponentNumber_of_some negative significand exponent digits rest read]
    exact gives quiet after
  | none =>
    by_cases large : significand ≠ 0 ∧ !down
    · refine ⟨none, ?_⟩
      intro c tail quiet rest
      obtain ⟨mid, after, read⟩ := reads quiet (enough rest) rest
      rw [exponentNumber_of_none negative significand exponent digits rest read, if_pos large]
      exact .error
    · refine ⟨some (.real (.zero negative)), ?_⟩
      intro c tail quiet rest
      obtain ⟨mid, after, read⟩ := reads quiet (enough rest) rest
      obtain ⟨stop, end_, past⟩ := digits_of_run run quiet.not_digit after
      rw [exponentNumber_of_none negative significand exponent digits rest read, if_neg large,
        bind_of_ok (discard_of_ok past)]
      exact .ok end_

theorem exponentPart_unsigned {mark d : Char} (digit : d.isDigit)
    (rest : c.rest = mark :: d :: cs) :
    exponentPart negative significand exponent c =
      exponentNumber negative significand exponent false c.advance := by
  unfold exponentPart
  rw [bind_of_ok (advance_eq c),
    bind_of_ok (peek_of_head (head_of_rest (rest_advance_of_rest rest)))]
  have plus : some d ≠ some '+' := by
    rintro ⟨⟩
    cases digit
  have minus : some d ≠ some '-' := by
    rintro ⟨⟩
    cases digit
  generalize some d = head at plus minus
  dsimp only
  split
  · exact absurd rfl plus
  · exact absurd rfl minus
  · rfl

theorem exponentPart_signed {mark sign : Char} (down : Bool)
    (signed : sign = if down then '-' else '+') (rest : c.rest = mark :: sign :: cs) :
    exponentPart negative significand exponent c =
      exponentNumber negative significand exponent down c.advance.advance := by
  unfold exponentPart
  rw [bind_of_ok (advance_eq c),
    bind_of_ok (peek_of_head (head_of_rest (rest_advance_of_rest rest)))]
  cases down <;> subst signed <;> rfl

theorem gives_exponentPart {n : Int} (isExponent : IsExponent n (ch :: cs)) :
    ∃ answer, Gives (exponentPart negative significand exponent) (ch :: cs) answer := by
  generalize whole : ch :: cs = spelled at isExponent
  cases isExponent with
  | none => cases whole
  | @up mark sign ds marked signed digits =>
    obtain ⟨answer, gives⟩ := gives_exponentNumber negative significand exponent false digits
    refine ⟨answer, ?_⟩
    intro c tail quiet rest
    rcases signed with rfl | rfl
    · obtain ⟨d, more, rfl⟩ := List.exists_cons_of_ne_nil digits.1
      rw [exponentPart_unsigned negative significand exponent (digits.2 d List.mem_cons_self) rest]
      exact gives quiet (rest_advance_of_rest rest)
    · rw [exponentPart_signed negative significand exponent false rfl rest]
      exact gives quiet (rest_advance_of_rest (rest_advance_of_rest rest))
  | @down mark ds marked digits =>
    obtain ⟨answer, gives⟩ := gives_exponentNumber negative significand exponent true digits
    refine ⟨answer, ?_⟩
    intro c tail quiet rest
    rw [exponentPart_signed negative significand exponent true rfl rest]
    exact gives quiet (rest_advance_of_rest (rest_advance_of_rest rest))

theorem Quiet.not_number (quiet : Quiet tail) :
    tail.head? ≠ some '.' ∧ tail.head? ≠ some 'e' ∧ tail.head? ≠ some 'E' := by
  refine ⟨?_, ?_, ?_⟩
  all_goals
    intro head
    rcases quiet _ head with wrong | wrong | wrong <;> cases wrong

theorem gives_afterDigits {n : Int} (isExponent : IsExponent n text) :
    ∃ answer, Gives (afterDigits negative significand exponent) text answer := by
  cases text with
  | nil =>
    obtain ⟨answer, gives⟩ := gives_realNumber negative significand exponent
    refine ⟨answer, ?_⟩
    intro c tail quiet rest
    obtain ⟨-, lower, upper⟩ := quiet.not_number
    have real : afterDigits negative significand exponent c =
        realNumber negative significand exponent c := by
      unfold afterDigits
      rw [bind_of_ok (peek_eq c), rest, List.nil_append]
      generalize tail.head? = head at lower upper
      split
      · exact absurd rfl lower
      · exact absurd rfl upper
      · rfl
    rw [real]
    exact gives quiet rest
  | cons mark cs =>
    obtain ⟨answer, gives⟩ := gives_exponentPart negative significand exponent isExponent
    refine ⟨answer, ?_⟩
    intro c tail quiet rest
    have part : afterDigits negative significand exponent c =
        exponentPart negative significand exponent c := by
      unfold afterDigits
      rw [bind_of_ok (peek_of_head (head_of_rest rest))]
      rcases isExponent.mark with rfl | rfl <;> rfl
    rw [part]
    exact gives quiet rest

theorem not_digit_of_isExponent {n : Int} (isExponent : IsExponent n text) (quiet : Quiet tail) :
    ∀ ch, (text ++ tail).head? = some ch → ch.isDigit = false := by
  cases text with
  | nil => exact quiet.not_digit
  | cons mark cs =>
    rintro ch ⟨⟩
    rcases isExponent.mark with rfl | rfl <;> rfl

theorem gives_fractionPart {n : Int} (digits : IsDigits ds) (isExponent : IsExponent n text) :
    ∃ answer, Gives (fractionPart negative significand exponent) ('.' :: ds ++ text) answer := by
  obtain ⟨answer, gives⟩ := gives_afterDigits negative (accumulate significand ds).1
    (exponent - (accumulate significand ds).2.1) isExponent
  refine ⟨answer, ?_⟩
  intro c tail quiet rest
  have after : c.advance.rest = ds ++ (text ++ tail) := by
    rw [rest_advance_of_rest rest]
    exact List.append_assoc _ _ _
  obtain ⟨mid, left, read⟩ :=
    digits_of_run digits.2 (not_digit_of_isExponent isExponent quiet) after
  unfold fractionPart
  rw [bind_of_ok (advance_eq c), bind_of_ok read, if_neg (by simp [digits.1])]
  exact gives quiet left

theorem wholeOrReal_quiet (quiet : Quiet c.rest) (left : Nat) :
    wholeOrReal negative significand left c =
      (if left ≠ 0 then realNumber negative significand left
      else if !negative then return .natural significand
      else if 1 ≤ significand ∧ significand ≤ Integer64.signedLimit then
        return .negative significand
      else return .real (Binary64.ofNat true significand)) c := by
  obtain ⟨point, lower, upper⟩ := quiet.not_number
  unfold wholeOrReal
  rw [bind_of_ok (peek_eq c)]
  generalize c.rest.head? = head at point lower upper
  split
  · exact absurd rfl point
  · exact absurd rfl lower
  · exact absurd rfl upper
  · rfl

theorem gives_wholeOrReal {n : Int} {fraction : List Char} (left : Nat)
    (isFraction : IsFraction ds fraction) (isExponent : IsExponent n text) :
    ∃ answer, Gives (wholeOrReal negative significand left) (fraction ++ text) answer := by
  cases isFraction with
  | some digits =>
    obtain ⟨answer, gives⟩ := gives_fractionPart negative significand left digits isExponent
    refine ⟨answer, ?_⟩
    intro c tail quiet rest
    unfold wholeOrReal
    rw [bind_of_ok (peek_of_head (head_of_rest rest))]
    exact gives quiet rest
  | none =>
    cases text with
    | cons mark cs =>
      obtain ⟨answer, gives⟩ := gives_exponentPart negative significand left isExponent
      refine ⟨answer, ?_⟩
      intro c tail quiet rest
      unfold wholeOrReal
      rw [bind_of_ok (peek_of_head (head_of_rest rest))]
      rcases isExponent.mark with rfl | rfl <;> exact gives quiet rest
    | nil =>
      by_cases long : left ≠ 0
      · obtain ⟨answer, gives⟩ := gives_realNumber negative significand left
        refine ⟨answer, ?_⟩
        intro c tail quiet rest
        rw [wholeOrReal_quiet negative significand (rest ▸ quiet), if_pos long]
        exact gives quiet rest
      · refine ⟨some (if !negative then .natural significand
          else if 1 ≤ significand ∧ significand ≤ Integer64.signedLimit then .negative significand
          else .real (Binary64.ofNat true significand)), ?_⟩
        intro c tail quiet rest
        rw [wholeOrReal_quiet negative significand (rest ▸ quiet), if_neg long]
        split
        · exact .ok rest
        split
        · exact .ok rest
        · exact .ok rest

theorem accumulate_of_lt (fits : Nat.ofDigitChars 10 ds significand < Integer64.unsignedLimit) :
    accumulate significand ds = (Nat.ofDigitChars 10 ds significand, ds.length, 0) := by
  induction ds generalizing significand with
  | nil => rfl
  | cons d ds ih =>
    rw [Nat.ofDigitChars_cons, Nat.mul_comm] at fits ⊢
    have within : significand * 10 + (d.toNat - '0'.toNat) < Integer64.unsignedLimit := by
      refine Nat.lt_of_le_of_lt ?_ fits
      rw [Nat.ofDigitChars_eq_ofDigitChars_zero]
      exact Nat.le_trans (Nat.le_mul_of_pos_left _ (Nat.pow_pos (by decide))) (Nat.le_add_right _ _)
    rw [accumulate]
    dsimp only
    rw [if_pos within, ih _ fits]
    rfl

theorem unsignedNumber_whole (isWhole : IsWhole ds)
    (stop : ∀ ch, tail.head? = some ch → ch.isDigit = false) (rest : c.rest = ds ++ tail) :
    ∃ mid, mid.rest = tail ∧ unsignedNumber negative c =
      wholeOrReal negative (accumulate 0 ds).1 (accumulate 0 ds).2.2 mid := by
  obtain ⟨⟨present, run⟩, zero⟩ := isWhole
  obtain ⟨d, more, rfl⟩ := List.exists_cons_of_ne_nil present
  unfold unsignedNumber
  rw [bind_of_ok (peek_of_head (head_of_rest rest))]
  dsimp only
  by_cases first : d = '0'
  · subst first
    obtain rfl : more = [] := (List.cons.inj (zero rfl)).2
    have after : c.advance.rest = tail := rest_advance_of_rest rest
    refine ⟨c.advance, after, ?_⟩
    rw [if_pos rfl, bind_of_ok (advance_eq c), bind_of_ok (peek_eq _), after]
    cases head : tail.head? with
    | none => rfl
    | some ch =>
      dsimp only
      rw [if_neg (by simp [stop ch head])]
      rfl
  · obtain ⟨mid, left, read⟩ := digits_of_run run stop rest
    refine ⟨mid, left, ?_⟩
    rw [if_neg first, if_pos (run d List.mem_cons_self), bind_of_ok read]

/-- What a number is read as does not depend on what follows it. -/
theorem gives_unsignedNumber {whole fraction : List Char} {n : Int} (isWhole : IsWhole whole)
    (isFraction : IsFraction ds fraction) (isExponent : IsExponent n text) :
    ∃ answer, Gives (unsignedNumber negative) (whole ++ fraction ++ text) answer := by
  obtain ⟨answer, gives⟩ := gives_wholeOrReal negative (accumulate 0 whole).1
    (accumulate 0 whole).2.2 isFraction isExponent
  refine ⟨answer, ?_⟩
  intro c tail quiet rest
  have stop : ∀ ch, (fraction ++ text ++ tail).head? = some ch → ch.isDigit = false := by
    cases isFraction with
    | none => exact not_digit_of_isExponent isExponent quiet
    | some digits =>
      rintro ch ⟨⟩
      rfl
  obtain ⟨mid, left, read⟩ := unsignedNumber_whole negative isWhole stop (by simpa using rest)
  rw [read]
  exact gives quiet left

theorem gives_whole {ds : List Char} (isWhole : IsWhole ds)
    (fits : Nat.ofDigitChars 10 ds 0 < Integer64.unsignedLimit) :
    Gives (unsignedNumber false) ds (some (.natural (Nat.ofDigitChars 10 ds 0))) := by
  intro c tail quiet rest
  obtain ⟨mid, left, read⟩ := unsignedNumber_whole false isWhole quiet.not_digit rest
  rw [read, accumulate_of_lt _ fits, wholeOrReal_quiet _ _ (left ▸ quiet)]
  exact .ok left

theorem gives_negative {ds : List Char} (isWhole : IsWhole ds)
    (some : 1 ≤ Nat.ofDigitChars 10 ds 0)
    (fits : Nat.ofDigitChars 10 ds 0 ≤ Integer64.signedLimit) :
    Gives (unsignedNumber true) ds (.some (.negative (Nat.ofDigitChars 10 ds 0))) := by
  intro c tail quiet rest
  obtain ⟨mid, left, read⟩ := unsignedNumber_whole true isWhole quiet.not_digit rest
  have unsigned : Nat.ofDigitChars 10 ds 0 < Integer64.unsignedLimit :=
    Nat.lt_of_le_of_lt fits (by decide)
  rw [read, accumulate_of_lt _ unsigned, wholeOrReal_quiet _ _ (left ▸ quiet)]
  dsimp only
  rw [if_neg (by decide), if_neg (by decide), if_pos ⟨some, fits⟩]
  exact .ok left

end Numbers

end Reader

end ShieldPolicy.Json
