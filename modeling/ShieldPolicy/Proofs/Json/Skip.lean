import ShieldPolicy.Json.Decoder

/-!
Values that are passed over. Passing over a value that could be read stops where reading it does:
`skipValue_of_value`.
-/

namespace ShieldPolicy.Json

/-! ### Cursors -/

namespace Cursor

variable {c : Cursor}

theorem rest_advance (c : Cursor) : c.advance.rest = c.rest.tail := by
  unfold advance
  split
  · rename_i done
    rw [done]
    rfl
  · rename_i ch rest more
    rw [more]
    split <;> rfl

theorem rest_advanceBy (n : Nat) (c : Cursor) : (advanceBy n c).rest = c.rest.drop n := by
  induction n generalizing c with
  | zero => rfl
  | succ n ih => rw [advanceBy, ih, rest_advance, List.drop_tail]

theorem rest_dropSpace (c : Cursor) : c.dropSpace.rest = c.rest.dropWhile isSpace := by
  rw [dropSpace, rest_advanceBy]
  induction c.rest with
  | nil => rfl
  | cons ch rest ih =>
    rw [List.takeWhile_cons, List.dropWhile_cons]
    split
    · simpa using ih
    · rfl

theorem dropSpace_dropSpace (c : Cursor) : c.dropSpace.dropSpace = c.dropSpace := by
  have none : c.dropSpace.rest.takeWhile isSpace = [] := by
    rw [rest_dropSpace]
    induction c.rest with
    | nil => rfl
    | cons ch rest ih =>
      rw [List.dropWhile_cons]
      split
      · exact ih
      · rename_i solid
        rw [List.takeWhile_cons_of_neg solid]
  rw [dropSpace, none]
  rfl

theorem length_advance {ch : Char} (head : c.rest.head? = some ch) :
    c.advance.rest.length + 1 = c.rest.length := by
  rw [rest_advance]
  cases taken : c.rest with
  | nil => rw [taken] at head; cases head
  | cons => simp

theorem length_advance_le (c : Cursor) : c.advance.rest.length ≤ c.rest.length := by
  rw [rest_advance, List.length_tail]
  omega

theorem length_dropSpace (c : Cursor) : c.dropSpace.rest.length ≤ c.rest.length := by
  rw [dropSpace, rest_advanceBy, List.length_drop]
  omega

def pastDigits (c : Cursor) : Cursor := advanceBy (c.rest.takeWhile Char.isDigit).length c

theorem pastDigits_of_digit {ch : Char} (head : c.rest.head? = some ch) (digit : ch.isDigit) :
    c.pastDigits = c.advance.pastDigits := by
  rw [pastDigits, pastDigits, rest_advance]
  cases taken : c.rest with
  | nil => rw [taken] at head; cases head
  | cons first rest =>
    rw [taken] at head
    cases head
    rw [List.takeWhile_cons_of_pos digit]
    rfl

theorem pastDigits_of_other (other : ∀ ch, c.rest.head? = some ch → ch.isDigit = false) :
    c.pastDigits = c := by
  rw [pastDigits]
  cases taken : c.rest with
  | nil => rfl
  | cons first rest =>
    have plain := other first (by rw [taken]; rfl)
    rw [List.takeWhile_cons_of_neg (by simp [plain])]
    rfl

theorem length_pastDigits (c : Cursor) : c.pastDigits.rest.length ≤ c.rest.length := by
  rw [pastDigits, rest_advanceBy, List.length_drop]
  omega

end Cursor

namespace Reader

open Cursor

variable {α β : Type} {reader : Reader α} {next : α → Reader β} {c mid c' : Cursor} {a : α} {b : β}
  {ch : Char}

/-! ### Readers step by step -/

theorem bind_of_ok (read : reader c = (.ok a, mid)) : (reader >>= next) c = next a mid := by
  simp only [bind, ExceptT.bind, ExceptT.mk, StateT.bind, ExceptT.bindCont, read]

theorem bind_of_error {e : Error} (read : reader c = (.error e, mid)) :
    (reader >>= next) c = (.error e, mid) := by
  simp only [bind, ExceptT.bind, ExceptT.mk, StateT.bind, ExceptT.bindCont, read]
  rfl

theorem bind_ok (h : (reader >>= next) c = (.ok b, c')) :
    ∃ a mid, reader c = (.ok a, mid) ∧ next a mid = (.ok b, c') := by
  cases read : reader c with
  | mk answer mid =>
    cases answer with
    | ok a => exact ⟨a, mid, rfl, (bind_of_ok read).symm.trans h⟩
    | error e =>
      rw [bind_of_error read] at h
      cases h

theorem placed_ok (read : placed reader c = (.ok a, c')) : reader c = (.ok a, c') := by
  unfold placed at read
  split at read
  · cases read
  · exact read

theorem closedBy_ok {closing : Reader Unit} (read : closedBy reader closing c = (.ok a, c')) :
    ∃ mid, reader c = (.ok a, mid) ∧ closing mid = (.ok (), c') := by
  unfold closedBy at read
  cases inside : reader c with
  | mk answer mid =>
    cases closed : closing mid with
    | mk done last =>
      simp only [inside, closed] at read
      cases answer with
      | error e => cases read
      | ok a =>
        cases done with
        | error e => cases read
        | ok =>
          cases read
          exact ⟨mid, rfl, closed⟩

theorem discard_of_ok (read : reader c = (.ok a, mid)) : discard reader c = (.ok (), mid) := by
  change ((fun _ => ()) <$> reader) c = _
  rw [map_eq_pure_bind, bind_of_ok read]
  rfl

theorem peek_eq (c : Cursor) : peek c = (.ok c.rest.head?, c) := rfl

theorem advance_eq (c : Cursor) : advance c = (.ok (), c.advance) := rfl

theorem peekSolid_eq (c : Cursor) : peekSolid c = (.ok c.dropSpace.rest.head?, c.dropSpace) := rfl

theorem peek_of_head (head : c.rest.head? = some ch) : peek c = (.ok (some ch), c) := by
  rw [peek_eq, head]

theorem peekSolid_of_head (head : c.dropSpace.rest.head? = some ch) :
    peekSolid c = (.ok (some ch), c.dropSpace) := by
  rw [peekSolid_eq, head]

theorem digits_eq (c : Cursor) :
    digits c = (.ok (c.rest.takeWhile Char.isDigit), c.pastDigits) := rfl

/-! ### Texts -/

theorem length_hexFour {n : Nat} (read : hexFour c = (.ok n, c')) :
    c'.rest.length ≤ c.rest.length := by
  obtain ⟨before, _, taken, read⟩ := bind_ok read
  cases taken
  generalize bytesAhead 4 c.rest c.here = ahead at read
  obtain ⟨after, _ | _⟩ := ahead
  · cases read
  · dsimp only at read
    cases spelled : hexNumber? (c.rest.take 4) with
    | none => rw [spelled] at read; cases read
    | some n =>
      rw [spelled] at read
      cases read
      rw [rest_advanceBy, List.length_drop]
      omega

theorem expectOrEnd_ok {expected : Char} (read : unicodeEscape.expectOrEnd expected c = (.ok (), c')) :
    c.rest.head? = some expected ∧ c' = c.advance := by
  unfold unicodeEscape.expectOrEnd at read
  rw [bind_of_ok (peek_eq c)] at read
  cases head : c.rest.head? with
  | none => rw [head] at read; cases read
  | some ch =>
    rw [head] at read
    dsimp only at read
    split at read
    · rename_i same
      cases read
      exact ⟨by rw [same], rfl⟩
    · cases read

inductive Escaped (c : Cursor) : Cursor → Prop where
  | letter {ch meant : Char} (head : c.rest.head? = some ch) (other : ch ≠ 'u')
      (known : shortEscape? ch = some meant) : Escaped c c.advance
  | code {n : Nat} {c' : Cursor} (head : c.rest.head? = some 'u')
      (read : hexFour c.advance = (.ok n, c')) : Escaped c c'
  | pair {n k : Nat} {mid c' : Cursor} (head : c.rest.head? = some 'u')
      (first : hexFour c.advance = (.ok n, mid)) (slash : mid.rest.head? = some '\\')
      (again : mid.advance.rest.head? = some 'u')
      (second : hexFour mid.advance.advance = (.ok k, c')) : Escaped c c'

theorem escape_ok {meant : Char} (read : escape c = (.ok meant, c')) : Escaped c c' := by
  unfold escape at read
  rw [bind_of_ok (peek_eq c)] at read
  cases head : c.rest.head? with
  | none => rw [head] at read; cases read
  | some ch =>
    rw [head] at read
    dsimp only at read
    split at read
    · rename_i unicode
      subst unicode
      rw [bind_of_ok (advance_eq c)] at read
      obtain ⟨first, mid, taken, read⟩ := bind_ok read
      split at read
      · cases read
      split at read
      · cases read
        exact .code head taken
      obtain ⟨_, _, slash, read⟩ := bind_ok read
      obtain ⟨here, rfl⟩ := expectOrEnd_ok slash
      obtain ⟨_, _, unicode, read⟩ := bind_ok read
      obtain ⟨there, rfl⟩ := expectOrEnd_ok unicode
      obtain ⟨second, last, other, read⟩ := bind_ok read
      split at read
      · cases read
      · have stop := (Prod.mk.inj read).2
        exact .pair head taken here there (stop ▸ other)
    · rename_i other
      cases known : shortEscape? ch with
      | none => rw [known] at read; cases read
      | some meant =>
        rw [known] at read
        cases read
        exact .letter head other known

theorem Escaped.length (escaped : Escaped c c') : c'.rest.length < c.rest.length := by
  cases escaped with
  | letter head => have := length_advance head; omega
  | code head read => have := length_advance head; have := length_hexFour read; omega
  | pair head first slash again second =>
    have := length_advance head
    have := length_hexFour first
    have := length_advance slash
    have := length_advance again
    have := length_hexFour second
    omega

theorem skipTextRest_escape {fuel : Nat} (head : c.rest.head? = some '\\') :
    skipTextRest (fuel + 1) c = (do
      match ← peek with
      | none => failHere .endInText
      | some code =>
        if code = 'u' then
          advance
          discard hexFour
          skipTextRest fuel
        else if (shortEscape? code).isSome then
          advance
          skipTextRest fuel
        else failAhead .invalidEscape : Reader Unit) c.advance := by
  rw [skipTextRest, bind_of_ok (peek_of_head head)]
  rfl

theorem skipTextRest_code {fuel n : Nat} (head : c.rest.head? = some '\\')
    (unicode : c.advance.rest.head? = some 'u') (read : hexFour c.advance.advance = (.ok n, c')) :
    skipTextRest (fuel + 1) c = skipTextRest fuel c' := by
  rw [skipTextRest_escape head, bind_of_ok (peek_of_head unicode)]
  dsimp only
  rw [if_pos rfl, bind_of_ok (advance_eq _), bind_of_ok (discard_of_ok read)]

theorem skipTextRest_letter {fuel : Nat} {letter meant : Char} (head : c.rest.head? = some '\\')
    (next : c.advance.rest.head? = some letter) (other : letter ≠ 'u')
    (known : shortEscape? letter = some meant) :
    skipTextRest (fuel + 1) c = skipTextRest fuel c.advance.advance := by
  rw [skipTextRest_escape head, bind_of_ok (peek_of_head next)]
  dsimp only
  rw [if_neg other, known]
  rfl

theorem skipTextRest_escaped {fuel : Nat} (head : c.rest.head? = some '\\')
    (escaped : Escaped c.advance mid) (enough : c.rest.length ≤ fuel) :
    ∃ less, mid.rest.length < less ∧ skipTextRest (fuel + 1) c = skipTextRest less mid := by
  have shorter := length_advance head
  have within := escaped.length
  cases escaped with
  | letter next other known =>
    exact ⟨fuel, by omega, skipTextRest_letter head next other known⟩
  | code unicode read => exact ⟨fuel, by omega, skipTextRest_code head unicode read⟩
  | @pair _ _ between _ unicode first slash again second =>
    have := length_advance unicode
    have := length_hexFour first
    have := length_advance slash
    have := length_advance again
    have := length_hexFour second
    obtain ⟨less, rfl⟩ : ∃ less, fuel = less + 1 := ⟨fuel - 1, by omega⟩
    refine ⟨less, by omega, ?_⟩
    rw [skipTextRest_code head unicode first, skipTextRest_code slash again second]

theorem skipTextRest_of_textRest {fuel enough : Nat} {read : List Char} {s : String}
    (taken : textRest fuel read c = (.ok s, c')) (bound : c.rest.length < enough) :
    skipTextRest enough c = (.ok (), c') ∧ c'.rest.length < c.rest.length := by
  induction fuel generalizing read c enough with
  | zero => cases taken
  | succ fuel ih =>
    obtain ⟨enough, rfl⟩ : ∃ less, enough = less + 1 := ⟨enough - 1, by omega⟩
    unfold textRest at taken
    cases head : c.rest.head? with
    | none =>
      rw [bind_of_ok (peek_eq c), head] at taken
      cases taken
    | some ch =>
      have shorter := length_advance head
      rw [bind_of_ok (peek_of_head head)] at taken
      dsimp only at taken
      split at taken
      · rename_i quote
        cases taken
        subst quote
        rw [skipTextRest, bind_of_ok (peek_of_head head)]
        exact ⟨rfl, by omega⟩
      split at taken
      · rename_i quote slash
        subst slash
        rw [bind_of_ok (advance_eq c)] at taken
        obtain ⟨meant, mid, escape, taken⟩ := bind_ok taken
        have escaped := escape_ok escape
        have within : c.rest.length ≤ enough := by omega
        obtain ⟨less, fits, skipped⟩ := skipTextRest_escaped head escaped within
        obtain ⟨rest, further⟩ := ih taken fits
        have := escaped.length
        exact ⟨skipped.trans rest, by omega⟩
      split at taken
      · cases taken
      · rename_i quote slash visible
        rw [bind_of_ok (advance_eq c)] at taken
        have within : c.advance.rest.length < enough := by omega
        obtain ⟨rest, further⟩ := ih taken within
        rw [skipTextRest, bind_of_ok (peek_of_head head)]
        dsimp only
        rw [if_neg quote, if_neg slash, if_neg visible, bind_of_ok (advance_eq c)]
        exact ⟨rest, by omega⟩

theorem skipText_of_text {s : String} (read : text c = (.ok s, c')) :
    skipText c = (.ok (), c') ∧ c'.rest.length < c.rest.length := by
  obtain ⟨_, _, taken, read⟩ := bind_ok read
  cases taken
  exact skipTextRest_of_textRest read (Nat.lt_succ_self _)

/-! ### Numbers -/

variable {negative : Bool} {significand : Nat} {exponent : Int} {n : Number}

theorem stop_realNumber (read : realNumber negative significand exponent c = (.ok n, c')) :
    c' = c := by
  unfold realNumber at read
  cases scaled : scaleDecimal? significand exponent with
  | none => rw [scaled] at read; cases read
  | some x =>
    rw [scaled] at read
    cases read
    rfl

theorem exponentDigits_ok {fuel start : Nat} {written : Option Nat}
    (read : exponentDigits fuel start c = (.ok written, c')) (bound : c.rest.length < fuel) :
    c'.pastDigits = c.pastDigits ∧ (written ≠ none → c' = c.pastDigits) := by
  induction fuel generalizing start c with
  | zero => omega
  | succ fuel ih =>
    unfold exponentDigits at read
    rw [bind_of_ok (peek_eq c)] at read
    cases head : c.rest.head? with
    | none =>
      have past : c.pastDigits = c := pastDigits_of_other (by rw [head]; nofun)
      rw [head] at read
      cases read
      exact ⟨rfl, fun _ => past.symm⟩
    | some ch =>
      have shorter := length_advance head
      rw [head] at read
      dsimp only at read
      split at read
      · rename_i digit
        rw [pastDigits_of_digit head digit]
        rw [bind_of_ok (advance_eq c)] at read
        split at read
        · exact ih read (by omega)
        · cases read
          exact ⟨rfl, nofun⟩
      · rename_i other
        have past : c.pastDigits = c := pastDigits_of_other fun next same => by
          rw [head] at same
          cases same
          simpa using other
        cases read
        exact ⟨rfl, fun _ => past.symm⟩

def exponentNumber (negative : Bool) (significand : Nat) (exponent : Int) (down : Bool) :
    Reader Number := do
  match ← peek with
  | none => failHere .endInValue
  | some ch =>
    if !ch.isDigit then failAhead .invalidNumber
    else match ← exponentDigits ((← get).rest.length + 1) 0 with
      | some written =>
        let bound : Int := exponentBound
        let total := if down then exponent - written else exponent + written
        realNumber negative significand (max (-bound) (min (bound - 1) total))
      | none =>
        if significand ≠ 0 ∧ !down then failHere .numberOutOfRange
        else
          discard digits
          return .real (.zero negative)

def skipExponentDigits : Reader Unit := do
  match ← peek with
  | some ch => if ch.isDigit then discard digits else failAhead .invalidNumber
  | none => failHere .invalidNumber

theorem exponent_sign (negative : Bool) (significand : Nat) (exponent : Int) (c : Cursor) :
    ∃ down mid, mid.rest.length ≤ c.rest.length ∧ exponentPart negative significand exponent c =
        exponentNumber negative significand exponent down mid ∧
      skipExponent c = skipExponentDigits mid := by
  have shorter := length_advance_le c
  have further := length_advance_le c.advance
  unfold exponentPart skipExponent
  rw [bind_of_ok (advance_eq c), bind_of_ok (advance_eq c), bind_of_ok (peek_eq _),
    bind_of_ok (peek_eq _)]
  by_cases plus : c.advance.rest.head? = some '+'
  · rw [plus]
    exact ⟨false, _, Nat.le_trans further shorter, rfl, rfl⟩
  by_cases minus : c.advance.rest.head? = some '-'
  · rw [minus]
    exact ⟨true, _, Nat.le_trans further shorter, rfl, rfl⟩
  refine ⟨false, c.advance, shorter, ?_, ?_⟩
  · generalize c.advance.rest.head? = head at plus minus
    dsimp only
    split
    · exact absurd rfl plus
    · exact absurd rfl minus
    · rfl
  · generalize c.advance.rest.head? = head at plus minus
    dsimp only
    split
    · exact absurd rfl plus
    · exact absurd rfl minus
    · rfl

theorem skipExponent_of_exponentPart
    (read : exponentPart negative significand exponent c = (.ok n, c')) :
    skipExponent c = (.ok (), c') := by
  obtain ⟨down, mid, -, reads, skips⟩ := exponent_sign negative significand exponent c
  rw [reads] at read
  rw [skips]
  unfold exponentNumber at read
  unfold skipExponentDigits
  rw [bind_of_ok (peek_eq mid)] at read ⊢
  cases head : mid.rest.head? with
  | none => rw [head] at read; cases read
  | some ch =>
    rw [head] at read
    dsimp only at read ⊢
    split at read
    · cases read
    · rename_i other
      have digit : ch.isDigit = true := by simpa using other
      rw [if_pos digit, discard_of_ok (digits_eq mid)]
      obtain ⟨before, _, same, read⟩ := bind_ok read
      cases same
      obtain ⟨written, stop, taken, read⟩ := bind_ok read
      obtain ⟨past, full⟩ := exponentDigits_ok taken (Nat.lt_succ_self _)
      cases written with
      | some written => rw [stop_realNumber read, full nofun]
      | none =>
        dsimp only at read
        split at read
        · cases read
        · rw [bind_of_ok (discard_of_ok (digits_eq stop))] at read
          rw [← past]
          exact Prod.ext rfl (Prod.mk.inj read).2

def skipAfterDigits : Reader Unit := do
  match ← peek with
  | some 'e' | some 'E' => skipExponent
  | _ => pure ()

theorem skipAfterDigits_of_afterDigits
    (read : afterDigits negative significand exponent c = (.ok n, c')) :
    skipAfterDigits c = (.ok (), c') := by
  unfold afterDigits at read
  unfold skipAfterDigits
  rw [bind_of_ok (peek_eq c)] at read ⊢
  generalize c.rest.head? = head at read ⊢
  by_cases lower : head = some 'e'
  · subst lower
    exact skipExponent_of_exponentPart read
  by_cases upper : head = some 'E'
  · subst upper
    exact skipExponent_of_exponentPart read
  have real : realNumber negative significand exponent c = (.ok n, c') := by
    split at read
    · exact absurd rfl lower
    · exact absurd rfl upper
    · exact read
  rw [stop_realNumber real]
  split
  · exact absurd rfl lower
  · exact absurd rfl upper
  · rfl

def skipFraction : Reader Unit := do
  advance
  let run ← digits
  if run.isEmpty then failAhead .invalidNumber
  else skipAfterDigits

theorem skip_of_fractionPart (head : c.rest.head? = some '.')
    (read : fractionPart negative significand exponent c = (.ok n, c')) :
    skipUnsignedNumber.tail c = (.ok (), c') := by
  have whole : skipUnsignedNumber.tail c = skipFraction c := by
    unfold skipUnsignedNumber.tail
    rw [bind_of_ok (peek_of_head head)]
    rfl
  rw [whole]
  unfold fractionPart at read
  unfold skipFraction
  rw [bind_of_ok (advance_eq c), bind_of_ok (digits_eq _)] at read ⊢
  split at read
  · rw [bind_of_ok (peek_eq _)] at read
    generalize c.advance.pastDigits.rest.head? = next at read
    cases next <;> cases read
  · rename_i present
    rw [if_neg present]
    exact skipAfterDigits_of_afterDigits read

theorem skip_of_wholeOrReal {left : Nat} (read : wholeOrReal negative significand left c = (.ok n, c')) :
    skipUnsignedNumber.tail c = (.ok (), c') := by
  by_cases point : c.rest.head? = some '.'
  · unfold wholeOrReal at read
    rw [bind_of_ok (peek_of_head point)] at read
    exact skip_of_fractionPart point read
  unfold wholeOrReal at read
  unfold skipUnsignedNumber.tail
  rw [bind_of_ok (peek_eq c)] at read ⊢
  generalize c.rest.head? = head at point read
  split at read
  · exact absurd rfl point
  · exact skipExponent_of_exponentPart read
  · exact skipExponent_of_exponentPart read
  · have stop : c' = c := by
      split at read
      · exact stop_realNumber read
      split at read
      · exact (Prod.mk.inj read).2.symm
      split at read
      · exact (Prod.mk.inj read).2.symm
      · exact (Prod.mk.inj read).2.symm
    rw [stop]
    rfl

theorem skipUnsignedNumber_of_unsignedNumber (read : unsignedNumber negative c = (.ok n, c')) :
    skipUnsignedNumber c = (.ok (), c') := by
  unfold unsignedNumber at read
  unfold skipUnsignedNumber
  rw [bind_of_ok (peek_eq c)] at read ⊢
  cases head : c.rest.head? with
  | none => rw [head] at read; cases read
  | some ch =>
    rw [head] at read
    dsimp only at read ⊢
    split at read
    · rename_i zero
      rw [if_pos zero]
      rw [bind_of_ok (advance_eq c), bind_of_ok (peek_eq _)] at read ⊢
      cases next : c.advance.rest.head? with
      | none =>
        rw [next] at read
        exact skip_of_wholeOrReal read
      | some other =>
        rw [next] at read
        dsimp only at read ⊢
        split at read
        · cases read
        · rename_i plain
          rw [if_neg plain]
          exact skip_of_wholeOrReal read
    split at read
    · rename_i zero digit
      rw [if_neg zero, if_pos digit, bind_of_ok (discard_of_ok (digits_eq c))]
      rw [bind_of_ok (digits_eq c)] at read
      exact skip_of_wholeOrReal read
    · cases read

/-! ### How far readers go -/

def Forward (reader : Reader α) : Prop :=
  ∀ {c a c'}, reader c = (.ok a, c') → c'.rest.length ≤ c.rest.length

theorem Forward.bind (first : Forward reader) (rest : ∀ a, Forward (next a)) :
    Forward (reader >>= next) := by
  intro c b c' read
  obtain ⟨a, mid, taken, read⟩ := bind_ok read
  exact Nat.le_trans (rest a read) (first taken)

theorem forward_pure (a : α) : Forward (pure a) := by
  rintro c a' c' ⟨⟩
  exact Nat.le_refl _

theorem forward_failHere (fault : Fault) : Forward (failHere fault : Reader α) := by
  rintro c a c' ⟨⟩

theorem forward_failAhead (fault : Fault) : Forward (failAhead fault : Reader α) := by
  rintro c a c' ⟨⟩

theorem forward_peek : Forward peek := by
  rintro c a c' ⟨⟩
  exact Nat.le_refl _

theorem forward_advance : Forward advance := by
  rintro c a c' ⟨⟩
  exact length_advance_le c

theorem forward_digits : Forward digits := by
  rintro c a c' ⟨⟩
  exact length_pastDigits c

theorem forward_word (expected : List Char) : Forward (word expected) := by
  induction expected with
  | nil => exact forward_pure ()
  | cons first more ih =>
    refine forward_peek.bind fun head => ?_
    split
    · exact forward_failHere _
    · split
      · exact forward_advance.bind fun _ => ih
      · exact forward_failAhead _

theorem forward_skipExponent : Forward skipExponent := by
  intro c a c' read
  obtain ⟨-, mid, shorter, -, skips⟩ := exponent_sign false 0 0 c
  rw [skips] at read
  have forward : Forward skipExponentDigits := by
    refine forward_peek.bind fun head => ?_
    split
    · split
      · intro c a c' read
        rw [discard_of_ok (digits_eq c)] at read
        cases read
        exact length_pastDigits c
      · exact forward_failAhead _
    · exact forward_failHere _
  exact Nat.le_trans (forward read) shorter

theorem forward_skipAfterDigits : Forward skipAfterDigits := by
  refine forward_peek.bind fun head => ?_
  split
  · exact forward_skipExponent
  · exact forward_skipExponent
  · exact forward_pure ()

theorem forward_tail : Forward skipUnsignedNumber.tail := by
  refine forward_peek.bind fun head => ?_
  split
  · refine forward_advance.bind fun _ => forward_digits.bind fun run => ?_
    split
    · exact forward_failAhead _
    · exact forward_skipAfterDigits
  · exact forward_skipExponent
  · exact forward_skipExponent
  · exact forward_pure ()

theorem length_skipUnsignedNumber (read : skipUnsignedNumber c = (.ok (), c')) :
    c'.rest.length < c.rest.length := by
  unfold skipUnsignedNumber at read
  rw [bind_of_ok (peek_eq c)] at read
  cases head : c.rest.head? with
  | none => rw [head] at read; cases read
  | some ch =>
    have shorter := length_advance head
    rw [head] at read
    dsimp only at read
    split at read
    · rw [bind_of_ok (advance_eq c), bind_of_ok (peek_eq _)] at read
      cases next : c.advance.rest.head? with
      | none =>
        rw [next] at read
        have := forward_tail read
        omega
      | some other =>
        rw [next] at read
        dsimp only at read
        split at read
        · cases read
        · have := forward_tail read
          omega
    split at read
    · rename_i digit
      rw [bind_of_ok (discard_of_ok (digits_eq c)), pastDigits_of_digit head digit] at read
      have := forward_tail read
      have := length_pastDigits c.advance
      omega
    · cases read

/-! ### Parts of containers -/

inductive ItemAhead (c : Cursor) : (first more : Bool) → Cursor → Prop where
  | none {first : Bool} (closed : c.dropSpace.rest.head? = some ']') :
      ItemAhead c first false c.dropSpace
  | first {ch : Char} (head : c.dropSpace.rest.head? = some ch) (other : ch ≠ ']') :
      ItemAhead c true true c.dropSpace
  | next {ch : Char} (comma : c.dropSpace.rest.head? = some ',')
      (head : c.dropSpace.advance.dropSpace.rest.head? = some ch) (other : ch ≠ ']') :
      ItemAhead c false true c.dropSpace.advance.dropSpace

inductive MemberAhead (c : Cursor) : (first more : Bool) → Cursor → Prop where
  | none {first : Bool} (closed : c.dropSpace.rest.head? = some '\x7d') :
      MemberAhead c first false c.dropSpace
  | first (quote : c.dropSpace.rest.head? = some '"') : MemberAhead c true true c.dropSpace
  | next (comma : c.dropSpace.rest.head? = some ',')
      (quote : c.dropSpace.advance.dropSpace.rest.head? = some '"') :
      MemberAhead c false true c.dropSpace.advance.dropSpace

theorem anotherItem_ok {first more : Bool} (read : anotherItem first c = (.ok more, c')) :
    ItemAhead c first more c' := by
  unfold anotherItem at read
  rw [bind_of_ok (peekSolid_eq c)] at read
  generalize head : c.dropSpace.rest.head? = ahead at read
  split at read
  · cases read
  · cases read
    exact .none head
  · rename_i ch open_
    split at read
    · rename_i isFirst
      subst isFirst
      cases read
      exact .first head fun same => open_ (by rw [same])
    · rename_i later
      have first : first = false := by simpa using later
      subst first
      split at read
      · rename_i comma
        subst comma
        rw [bind_of_ok (advance_eq _), bind_of_ok (peekSolid_eq _)] at read
        generalize next : c.dropSpace.advance.dropSpace.rest.head? = ahead' at read
        split at read
        · cases read
        · rename_i ch' open'
          cases read
          exact .next head next fun same => open' (by rw [same])
        · cases read
      · cases read

theorem anotherMember_ok {first more : Bool} (read : anotherMember first c = (.ok more, c')) :
    MemberAhead c first more c' := by
  unfold anotherMember at read
  rw [bind_of_ok (peekSolid_eq c)] at read
  generalize head : c.dropSpace.rest.head? = ahead at read
  split at read
  · cases read
  · cases read
    exact .none head
  · split at read
    · rename_i isFirst
      subst isFirst
      split at read
      · rename_i quote
        subst quote
        cases read
        exact .first head
      · cases read
    · rename_i later
      have first : first = false := by simpa using later
      subst first
      split at read
      · rename_i comma
        subst comma
        rw [bind_of_ok (advance_eq _), bind_of_ok (peekSolid_eq _)] at read
        generalize next : c.dropSpace.advance.dropSpace.rest.head? = ahead' at read
        split at read
        · cases read
          exact .next head next
        · cases read
        · cases read
        · cases read
      · cases read

theorem listEnd_ok (read : listEnd c = (.ok (), c')) :
    c.dropSpace.rest.head? = some ']' ∧ c' = c.dropSpace.advance := by
  unfold listEnd at read
  rw [bind_of_ok (peekSolid_eq c)] at read
  generalize head : c.dropSpace.rest.head? = ahead at read
  split at read
  · cases read
    exact ⟨rfl, rfl⟩
  · rw [bind_of_ok (advance_eq _), bind_of_ok (peekSolid_eq _)] at read
    generalize c.dropSpace.advance.dropSpace.rest.head? = next at read
    split at read <;> cases read
  · cases read
  · cases read

theorem objectEnd_ok (read : objectEnd c = (.ok (), c')) :
    c.dropSpace.rest.head? = some '\x7d' ∧ c' = c.dropSpace.advance := by
  unfold objectEnd at read
  rw [bind_of_ok (peekSolid_eq c)] at read
  generalize head : c.dropSpace.rest.head? = ahead at read
  split at read
  · cases read
    exact ⟨rfl, rfl⟩
  · cases read
  · cases read
  · cases read

theorem length_colon (read : colon c = (.ok (), c')) : c'.rest.length ≤ c.rest.length := by
  unfold colon at read
  rw [bind_of_ok (peekSolid_eq c)] at read
  generalize c.dropSpace.rest.head? = ahead at read
  split at read
  · cases read
    exact Nat.le_trans (length_advance_le _) (length_dropSpace c)
  · cases read
  · cases read

/-! ### Values -/

variable {levels : Nat} {j : Json} {filled isObject : Bool} {frames : List Bool}

theorem valueWith_ok {list object : Reader Json} (read : valueWith list object c = (.ok j, c')) :
    (∃ ch scalar, c.dropSpace.rest.head? = some ch ∧ scalar? ch = some scalar ∧
      scalar c.dropSpace = (.ok j, c')) ∨
    (c.dropSpace.rest.head? = some '[' ∧ ∃ mid, list c.dropSpace = (.ok j, mid) ∧
      listEnd mid = (.ok (), c')) ∨
    (c.dropSpace.rest.head? = some '\x7b' ∧ ∃ mid, object c.dropSpace = (.ok j, mid) ∧
      objectEnd mid = (.ok (), c')) := by
  unfold valueWith at read
  rw [bind_of_ok (peekSolid_eq c)] at read
  cases head : c.dropSpace.rest.head? with
  | none => rw [head] at read; cases read
  | some ch =>
    rw [head] at read
    dsimp only at read
    cases known : scalar? ch with
    | some scalar =>
      rw [known] at read
      exact .inl ⟨ch, scalar, rfl, known, placed_ok read⟩
    | none =>
      rw [known] at read
      dsimp only at read
      split at read
      · rename_i bracket
        subst bracket
        exact .inr (.inl ⟨rfl, closedBy_ok (placed_ok read)⟩)
      split at read
      · rename_i bracket
        subst bracket
        exact .inr (.inr ⟨rfl, closedBy_ok (placed_ok read)⟩)
      · cases read

/-- Passing over is the same before and after blanks. -/
theorem skipWithin_dropSpace {fuel : Nat} :
    skipWithin (fuel + 1) true filled frames c.dropSpace =
      skipWithin (fuel + 1) true filled frames c := by
  unfold skipWithin
  rw [bind_of_ok (peekSolid_eq c), bind_of_ok (peekSolid_eq _), dropSpace_dropSpace]

theorem skipWithin_scalar (fuel : Nat) (filled : Bool) (frames : List Bool) {read : Reader Json}
    (head : c.dropSpace.rest.head? = some ch) (known : scalar? ch = some read)
    (taken : read c.dropSpace = (.ok j, c')) :
    skipWithin (fuel + 1) true filled frames c = skipWithin fuel false true frames c' ∧
      c'.rest.length < c.dropSpace.rest.length := by
  have shorter := length_advance head
  rw [skipWithin, bind_of_ok (peekSolid_of_head head)]
  dsimp only
  have word {expected : List Char} {value : Json}
      (same : read = (do advance; word expected; return value)) :
      c'.rest.length < c.dropSpace.rest.length := by
    rw [same, bind_of_ok (advance_eq _)] at taken
    have := Forward.bind (forward_word expected) (fun _ => forward_pure value) taken
    omega
  have whole := known
  unfold scalar? at whole
  -- The three words are read and passed over alike.
  iterate 3
    split at whole
    · rename_i letter
      subst letter
      rw [known]
      exact ⟨bind_of_ok (discard_of_ok taken), word (Option.some.inj whole).symm⟩
  split at whole
  · rename_i sign
    subst sign
    cases whole
    rw [bind_of_ok (advance_eq _)] at taken
    obtain ⟨n, mid, number, taken⟩ := bind_ok taken
    cases taken
    have skipped := skipUnsignedNumber_of_unsignedNumber number
    have := length_skipUnsignedNumber skipped
    rw [if_neg (by decide), if_pos rfl, bind_of_ok (advance_eq _), bind_of_ok skipped]
    exact ⟨rfl, by omega⟩
  split at whole
  · rename_i digit
    cases whole
    obtain ⟨n, mid, number, taken⟩ := bind_ok taken
    cases taken
    have skipped := skipUnsignedNumber_of_unsignedNumber number
    rw [if_neg (by rintro (rfl | rfl) <;> cases digit), if_neg (by rintro rfl; cases digit),
      if_pos digit, bind_of_ok skipped]
    exact ⟨rfl, length_skipUnsignedNumber skipped⟩
  split at whole
  · rename_i quote
    subst quote
    cases whole
    rw [bind_of_ok (advance_eq _)] at taken
    obtain ⟨s, mid, text, taken⟩ := bind_ok taken
    cases taken
    obtain ⟨skipped, further⟩ := skipText_of_text text
    rw [if_neg (by decide), if_neg (by decide), if_neg (by decide), if_pos rfl,
      bind_of_ok (advance_eq _), bind_of_ok skipped]
    exact ⟨rfl, by omega⟩
  · cases whole

theorem skipWithin_close {fuel : Nat} (head : c.dropSpace.rest.head? = some (closing isObject)) :
    skipWithin (fuel + 1) false filled (isObject :: frames) c =
      skipWithin fuel false true frames c.dropSpace.advance := by
  rw [skipWithin, bind_of_ok (peekSolid_of_head head)]
  dsimp only
  rw [if_neg fun both => by cases isObject <;> exact absurd both.1 (by decide), if_pos rfl]
  rfl

theorem skipWithin_firstItem {fuel : Nat} (head : c.dropSpace.rest.head? = some ch)
    (other : ch ≠ ']') :
    skipWithin (fuel + 1) false false (false :: frames) c =
      skipWithin fuel true false (false :: frames) c.dropSpace := by
  rw [skipWithin, bind_of_ok (peekSolid_of_head head)]
  dsimp only
  rw [if_neg (by simp), if_neg (show ¬ ch = closing false from other), if_neg (by simp)]
  rfl

theorem skipWithin_nextItem {fuel : Nat} (comma : c.dropSpace.rest.head? = some ',') :
    skipWithin (fuel + 1) false true (false :: frames) c =
      skipWithin fuel true false (false :: frames) c.dropSpace.advance := by
  rw [skipWithin, bind_of_ok (peekSolid_of_head comma)]
  rfl

theorem skipKey_ok {key : String} (quote : c.dropSpace.rest.head? = some '"')
    (read : text c.dropSpace.advance = (.ok key, mid)) (after : colon mid = (.ok (), c')) :
    skipKey c = (.ok (), c') := by
  rw [skipKey, bind_of_ok (peekSolid_of_head quote)]
  change (advance >>= fun _ => skipText >>= fun _ => colon) c.dropSpace = _
  rw [bind_of_ok (advance_eq _), bind_of_ok (skipText_of_text read).1, after]

theorem skipWithin_firstMember {fuel : Nat} {key : String}
    (quote : c.dropSpace.rest.head? = some '"')
    (read : text c.dropSpace.advance = (.ok key, mid)) (after : colon mid = (.ok (), c')) :
    skipWithin (fuel + 1) false false (true :: frames) c =
      skipWithin fuel true false (true :: frames) c' := by
  have again : c.dropSpace.dropSpace.rest.head? = some '"' := by rw [dropSpace_dropSpace, quote]
  rw [← dropSpace_dropSpace] at read
  rw [skipWithin, bind_of_ok (peekSolid_of_head quote)]
  change (skipKey >>= fun _ => skipWithin fuel true false (true :: frames)) c.dropSpace = _
  rw [bind_of_ok (skipKey_ok again read after)]

theorem skipWithin_nextMember {fuel : Nat} {key : String} (comma : c.dropSpace.rest.head? = some ',')
    (quote : c.dropSpace.advance.dropSpace.rest.head? = some '"')
    (read : text c.dropSpace.advance.dropSpace.advance = (.ok key, mid))
    (after : colon mid = (.ok (), c')) :
    skipWithin (fuel + 1) false true (true :: frames) c =
      skipWithin fuel true false (true :: frames) c' := by
  rw [skipWithin, bind_of_ok (peekSolid_of_head comma)]
  change (advance >>= fun _ => skipKey >>= fun _ => skipWithin fuel true false (true :: frames))
    c.dropSpace = _
  rw [bind_of_ok (advance_eq _), bind_of_ok (skipKey_ok quote read after)]

/-- The steps that pass over a value, of which every second one moves the cursor. -/
def Passed (c c' : Cursor) : Prop :=
  ∃ steps, steps + 2 + 2 * c'.rest.length ≤ 2 * c.rest.length ∧ ∀ fuel filled frames,
    skipWithin (fuel + (steps + 1)) true filled frames c = skipWithin fuel false true frames c'

def PassedRest (isObject filled : Bool) (c c' : Cursor) : Prop :=
  ∃ steps, steps + 1 + 2 * c'.rest.length ≤ 2 * c.rest.length ∧ ∀ fuel frames,
    skipWithin (fuel + steps) false filled (isObject :: frames) c =
      skipWithin fuel false true frames c'

theorem passedRest_close (head : c.dropSpace.rest.head? = some (closing isObject)) :
    PassedRest isObject filled c c.dropSpace.advance := by
  have := length_advance head
  have := length_dropSpace c
  exact ⟨1, by omega, fun fuel frames => skipWithin_close head⟩

theorem passed_open (isObject : Bool)
    (head : c.dropSpace.rest.head? = some (if isObject then '\x7b' else '['))
    (rest : PassedRest isObject false c.dropSpace.advance c') : Passed c c' := by
  obtain ⟨steps, bound, skip⟩ := rest
  have := length_advance head
  have := length_dropSpace c
  refine ⟨steps, by omega, fun fuel filled frames => ?_⟩
  rw [← Nat.add_assoc, skipWithin, bind_of_ok (peekSolid_of_head head)]
  cases isObject with
  | false => exact skip fuel frames
  | true => exact skip fuel frames

theorem Passed.of_dropSpace (passed : Passed c.dropSpace c') : Passed c c' := by
  obtain ⟨steps, bound, skip⟩ := passed
  have := length_dropSpace c
  refine ⟨steps, by omega, fun fuel filled frames => ?_⟩
  rw [← skip, ← Nat.add_assoc, skipWithin_dropSpace]

theorem passedRest_items {item : Reader α} (each : ∀ {c a c'}, item c = (.ok a, c') → Passed c c')
    {fuel : Nat} {first : Bool} {items : List α}
    (read : itemsWithin item fuel first c = (.ok items, mid)) (close : listEnd mid = (.ok (), c')) :
    PassedRest false (!first) c c' := by
  induction fuel generalizing first c items with
  | zero => cases read
  | succ fuel ih =>
    obtain ⟨more, mid₁, another, read⟩ := bind_ok read
    cases anotherItem_ok another with
    | none closed =>
      cases read
      obtain ⟨-, rfl⟩ := listEnd_ok close
      rw [dropSpace_dropSpace]
      exact passedRest_close closed
    | first head other =>
      obtain ⟨a, mid₂, taken, read⟩ := bind_ok read
      obtain ⟨rest, mid₃, others, read⟩ := bind_ok read
      cases read
      obtain ⟨steps, bound, skip⟩ := each taken
      obtain ⟨steps', bound', skip'⟩ := ih others
      have := length_dropSpace c
      refine ⟨1 + (steps + 1) + steps', by omega, fun fuel frames => ?_⟩
      rw [show fuel + (1 + (steps + 1) + steps') = fuel + steps' + (steps + 1) + 1 by omega]
      exact (skipWithin_firstItem head other).trans ((skip _ _ _).trans (skip' _ _))
    | next comma head other =>
      obtain ⟨a, mid₂, taken, read⟩ := bind_ok read
      obtain ⟨rest, mid₃, others, read⟩ := bind_ok read
      cases read
      obtain ⟨steps, bound, skip⟩ := (each taken).of_dropSpace
      obtain ⟨steps', bound', skip'⟩ := ih others
      have := length_dropSpace c
      have := length_advance comma
      refine ⟨1 + (steps + 1) + steps', by omega, fun fuel frames => ?_⟩
      rw [show fuel + (1 + (steps + 1) + steps') = fuel + steps' + (steps + 1) + 1 by omega]
      exact (skipWithin_nextItem comma).trans ((skip _ _ _).trans (skip' _ _))

theorem passedRest_members {member : String → α → Reader α}
    (each : ∀ {key a c a' c'}, member key a c = (.ok a', c') →
      ∃ mid, colon c = (.ok (), mid) ∧ Passed mid c')
    {fuel : Nat} {first : Bool} {a a' : α}
    (read : membersWithin member fuel first a c = (.ok a', mid))
    (close : objectEnd mid = (.ok (), c')) : PassedRest true (!first) c c' := by
  induction fuel generalizing first c a with
  | zero => cases read
  | succ fuel ih =>
    obtain ⟨more, mid₁, another, read⟩ := bind_ok read
    cases anotherMember_ok another with
    | none closed =>
      cases read
      obtain ⟨-, rfl⟩ := objectEnd_ok close
      rw [dropSpace_dropSpace]
      exact passedRest_close closed
    | first quote =>
      change (advance >>= fun _ => _) c.dropSpace = _ at read
      rw [bind_of_ok (advance_eq _)] at read
      obtain ⟨key, mid₂, named, read⟩ := bind_ok read
      obtain ⟨next, mid₃, taken, others⟩ := bind_ok read
      obtain ⟨mid₄, after, steps, bound, skip⟩ := each taken
      obtain ⟨steps', bound', skip'⟩ := ih others
      have := length_dropSpace c
      have := length_advance quote
      have := (skipText_of_text named).2
      have := length_colon after
      refine ⟨1 + (steps + 1) + steps', by omega, fun fuel frames => ?_⟩
      rw [show fuel + (1 + (steps + 1) + steps') = fuel + steps' + (steps + 1) + 1 by omega]
      exact (skipWithin_firstMember quote named after).trans ((skip _ _ _).trans (skip' _ _))
    | next comma quote =>
      change (advance >>= fun _ => _) c.dropSpace.advance.dropSpace = _ at read
      rw [bind_of_ok (advance_eq _)] at read
      obtain ⟨key, mid₂, named, read⟩ := bind_ok read
      obtain ⟨next, mid₃, taken, others⟩ := bind_ok read
      obtain ⟨mid₄, after, steps, bound, skip⟩ := each taken
      obtain ⟨steps', bound', skip'⟩ := ih others
      have := length_dropSpace c
      have := length_advance comma
      have := length_dropSpace c.dropSpace.advance
      have := length_advance quote
      have := (skipText_of_text named).2
      have := length_colon after
      refine ⟨1 + (steps + 1) + steps', by omega, fun fuel frames => ?_⟩
      rw [show fuel + (1 + (steps + 1) + steps') = fuel + steps' + (steps + 1) + 1 by omega]
      exact (skipWithin_nextMember comma quote named after).trans
        ((skip _ _ _).trans (skip' _ _))

theorem passed_scalar {read : Reader Json} (head : c.dropSpace.rest.head? = some ch)
    (known : scalar? ch = some read) (taken : read c.dropSpace = (.ok j, c')) : Passed c c' := by
  have shorter := (skipWithin_scalar 0 false [] head known taken).2
  have := length_dropSpace c
  exact ⟨0, by omega, fun fuel filled frames =>
    (skipWithin_scalar fuel filled frames head known taken).1⟩

theorem passed_of_value (read : value levels c = (.ok j, c')) : Passed c c' := by
  induction levels generalizing c j c' with
  | zero =>
    obtain ⟨ch, scalar, head, known, taken⟩ | ⟨-, mid, taken, -⟩ | ⟨-, mid, taken, -⟩ :=
      valueWith_ok read
    · exact passed_scalar head known taken
    · cases taken
    · cases taken
  | succ levels ih =>
    obtain ⟨ch, scalar, head, known, taken⟩ | ⟨head, mid, taken, close⟩ | ⟨head, mid, taken, close⟩ :=
      valueWith_ok read
    · exact passed_scalar head known taken
    · rw [bind_of_ok (advance_eq _)] at taken
      obtain ⟨items, mid', inside, taken⟩ := bind_ok taken
      cases taken
      obtain ⟨start, _, same, inside⟩ := bind_ok inside
      cases same
      exact passed_open false head (passedRest_items ih inside close)
    · rw [bind_of_ok (advance_eq _)] at taken
      obtain ⟨members, mid', inside, taken⟩ := bind_ok taken
      cases taken
      obtain ⟨start, _, same, inside⟩ := bind_ok inside
      cases same
      refine passed_open true head (passedRest_members (fun {_ _ _ _ _} taken => ?_)
        inside close)
      obtain ⟨⟨⟩, mid₁, after, taken⟩ := bind_ok taken
      obtain ⟨j, mid₂, taken, same⟩ := bind_ok taken
      cases same
      exact ⟨mid₁, after, ih taken⟩

/-- Passing over a value stops where reading it does. -/
theorem skipValue_of_value (read : value levels c = (.ok j, c')) : skipValue c = (.ok (), c') := by
  obtain ⟨steps, bound, skip⟩ := passed_of_value read
  change skipWithin (2 * c.rest.length + 2) true false [] c = _
  obtain ⟨more, enough⟩ : ∃ more, 2 * c.rest.length + 2 = more + 1 + (steps + 1) :=
    ⟨2 * c.rest.length - steps, by omega⟩
  rw [enough, skip]
  rfl

end Reader

end ShieldPolicy.Json
