import ShieldPolicy.Integer64
import ShieldPolicy.Json.Cursor

/-!
# Reading a JSON text: texts and numbers

Whole numbers stay exact while they fit in 64 bits. Other numbers are the significand's leading
digits, as many as fit in 64 bits, times a power of ten: both factors and their product or quotient
are rounded to binary64.
-/

namespace ShieldPolicy.Json.Reader

/-! ### Texts -/

def hexValue? (ch : Char) : Option Nat :=
  if '0' ≤ ch ∧ ch ≤ '9' then some (ch.toNat - '0'.toNat)
  else if 'a' ≤ ch ∧ ch ≤ 'f' then some (ch.toNat - 'a'.toNat + 10)
  else if 'A' ≤ ch ∧ ch ≤ 'F' then some (ch.toNat - 'A'.toNat + 10)
  else none

def hexNumber? (digits : List Char) : Option Nat :=
  digits.foldl (fun acc ch => acc.bind fun n => (hexValue? ch).map (16 * n + ·)) (some 0)

def hexFour : Reader Nat := do
  let c ← get
  match Cursor.bytesAhead 4 c.rest c.here with
  | (end_, false) => throw ⟨.endInText, some end_⟩
  | (after, true) =>
    match hexNumber? (c.rest.take 4) with
    | none => throw ⟨.invalidEscape, some after⟩
    | some n =>
      set (Cursor.advanceBy 4 c)
      return n

/-- The character of a `\u` escape whose `u` has been read. A code above the first plane comes as a
pair of escapes. -/
def unicodeEscape : Reader Char := do
  let first ← hexFour
  if 0xDC00 ≤ first ∧ first ≤ 0xDFFF then failHere .loneSurrogate
  else if first < 0xD800 ∨ 0xDBFF < first then return Char.ofNat first
  else
    expectOrEnd '\\'
    expectOrEnd 'u'
    let second ← hexFour
    if second < 0xDC00 ∨ 0xDFFF < second then failHere .loneSurrogate
    else return Char.ofNat ((first - 0xD800) * 0x400 + (second - 0xDC00) + 0x10000)
where
  /-- The second half of a pair must follow at once. -/
  expectOrEnd (expected : Char) : Reader Unit := do
    match ← peek with
    | none => failHere .endInText
    | some ch => if ch = expected then advance else failAhead .unpairedSurrogate

def shortEscape? (ch : Char) : Option Char :=
  if ch = '"' ∨ ch = '\\' ∨ ch = '/' then some ch
  else if ch = 'b' then some '\x08'
  else if ch = 'f' then some '\x0c'
  else if ch = 'n' then some '\n'
  else if ch = 'r' then some '\r'
  else if ch = 't' then some '\t'
  else none

def escape : Reader Char := do
  match ← peek with
  | none => failHere .endInText
  | some ch =>
    if ch = 'u' then advance; unicodeEscape
    else match shortEscape? ch with
      | some meant => advance; return meant
      | none => failAhead .invalidEscape

/-- The rest of a text, up to its closing quote; `read` holds what was read, nearest first. -/
def textRest : Nat → List Char → Reader String
  | 0, _ => failHere .endInText
  | fuel + 1, read => do
    match ← peek with
    | none => failHere .endInText
    | some ch =>
      if ch = '"' then
        advance
        return String.ofList read.reverse
      else if ch = '\\' then
        advance
        let meant ← escape
        textRest fuel (meant :: read)
      else if ch.toNat < 0x20 then failAhead .controlCharacter
      else
        advance
        textRest fuel (ch :: read)

def text : Reader String := do textRest ((← get).rest.length + 1) []

/-- Passes over a text whose opening quote has been read, without pairing its surrogates. -/
def skipTextRest : Nat → Reader Unit
  | 0 => failHere .endInText
  | fuel + 1 => do
    match ← peek with
    | none => failHere .endInText
    | some ch =>
      if ch = '"' then advance
      else if ch = '\\' then
        advance
        match ← peek with
        | none => failHere .endInText
        | some code =>
          if code = 'u' then
            advance
            discard hexFour
            skipTextRest fuel
          else if (shortEscape? code).isSome then
            advance
            skipTextRest fuel
          else failAhead .invalidEscape
      else if ch.toNat < 0x20 then failHere .controlCharacter
      else
        advance
        skipTextRest fuel

def skipText : Reader Unit := do skipTextRest ((← get).rest.length + 1)

/-! ### Numbers -/

def digits : Reader (List Char) := do
  let c ← get
  let run := c.rest.takeWhile Char.isDigit
  set (Cursor.advanceBy run.length c)
  return run

/-- Appends digits to a significand while it fits in 64 bits. The second part counts the digits that
were taken, the third those that were not. -/
def accumulate (significand : Nat) : List Char → Nat × Nat × Nat
  | [] => (significand, 0, 0)
  | ch :: rest =>
    let next := significand * 10 + (ch.toNat - '0'.toNat)
    if next < Integer64.unsignedLimit then
      let (s, taken, left) := accumulate next rest
      (s, taken + 1, left)
    else (significand, 0, rest.length + 1)

/-- Divides by a power of ten in steps that the format can hold. -/
def divideDown (x : Binary64) (power : Nat) : Binary64 :=
  if x.isZero then x
  else if h : power ≤ 308 then x.divMagnitude (.powerOfTen power)
  else divideDown (x.divMagnitude (.powerOfTen 308)) (power - 308)
termination_by power

/-- `significand · 10 ^ exponent`, each factor and the result rounded; none beyond the format. -/
def scaleDecimal? (significand : Nat) (exponent : Int) : Option Binary64 :=
  let x := Binary64.ofNat false significand
  if exponent < 0 then some (divideDown x (-exponent).toNat)
  else if x.isZero then some x
  else if 308 < exponent then none
  else
    let y := x.mulMagnitude (.powerOfTen exponent.toNat)
    if y.isInfinite then none else some y

def realNumber (negative : Bool) (significand : Nat) (exponent : Int) : Reader Number := do
  match scaleDecimal? significand exponent with
  | none => failHere .numberOutOfRange
  | some x => return .real (if negative then x.neg else x)

def exponentBound : Nat := Nat.pow 2 31

/-- Reads the digits of an exponent. When they pass the bound, the number is out of range or
zero. -/
def exponentDigits : Nat → Nat → Reader (Option Nat)
  | 0, exponent => return some exponent
  | fuel + 1, exponent => do
    match ← peek with
    | some ch =>
      if ch.isDigit then
        advance
        let next := exponent * 10 + (ch.toNat - '0'.toNat)
        if next < exponentBound then exponentDigits fuel next else return none
      else return some exponent
    | none => return some exponent

def exponentPart (negative : Bool) (significand : Nat) (exponent : Int) : Reader Number := do
  advance
  let down ← do
    match ← peek with
    | some '+' => advance; pure false
    | some '-' => advance; pure true
    | _ => pure false
  match ← peek with
  | none => failHere .endInValue
  | some ch =>
    if !ch.isDigit then failAhead .invalidNumber
    else match ← exponentDigits ((← get).rest.length + 1) 0 with
      | some written =>
        let bound : Int := exponentBound
        let total := if down then exponent - written else exponent + written
        realNumber negative significand (max (-bound) (min (bound - 1) total))
      | none =>
        if significand ≠ 0 ∧ !down then failHere .numberOutOfRange
        else
          discard digits
          return .real (.zero negative)

def afterDigits (negative : Bool) (significand : Nat) (exponent : Int) : Reader Number := do
  match ← peek with
  | some 'e' | some 'E' => exponentPart negative significand exponent
  | _ => realNumber negative significand exponent

def fractionPart (negative : Bool) (significand : Nat) (exponent : Int) : Reader Number := do
  advance
  let run ← digits
  if run.isEmpty then
    match ← peek with
    | some _ => failAhead .invalidNumber
    | none => failAhead .endInValue
  else
    let (s, taken, _) := accumulate significand run
    afterDigits negative s (exponent - taken)

def wholeOrReal (negative : Bool) (significand left : Nat) : Reader Number := do
  match ← peek with
  | some '.' => fractionPart negative significand left
  | some 'e' | some 'E' => exponentPart negative significand left
  | _ =>
    if left ≠ 0 then realNumber negative significand left
    else if !negative then return .natural significand
    else if 1 ≤ significand ∧ significand ≤ Integer64.signedLimit then return .negative significand
    else return .real (Binary64.ofNat true significand)

def unsignedNumber (negative : Bool) : Reader Number := do
  match ← peek with
  | none => failHere .endInValue
  | some ch =>
    if ch = '0' then
      advance
      match ← peek with
      | some next => if next.isDigit then failAhead .invalidNumber else wholeOrReal negative 0 0
      | none => wholeOrReal negative 0 0
    else if ch.isDigit then
      let run ← digits
      let (s, _, left) := accumulate 0 run
      wholeOrReal negative s left
    else failAhead .invalidNumber

def skipExponent : Reader Unit := do
  advance
  match ← peek with
  | some '+' | some '-' => advance
  | _ => pure ()
  match ← peek with
  | some ch => if ch.isDigit then discard digits else failAhead .invalidNumber
  | none => failHere .invalidNumber

/-- Passes over a number whose sign has been read, without regard to its range. -/
def skipUnsignedNumber : Reader Unit := do
  match ← peek with
  | none => failHere .invalidNumber
  | some ch =>
    if ch = '0' then
      advance
      match ← peek with
      | some next => if next.isDigit then failAhead .invalidNumber else tail
      | none => tail
    else if ch.isDigit then
      discard digits
      tail
    else failAhead .invalidNumber
where
  tail : Reader Unit := do
    match ← peek with
    | some '.' =>
      advance
      let run ← digits
      if run.isEmpty then failAhead .invalidNumber
      else match ← peek with
        | some 'e' | some 'E' => skipExponent
        | _ => pure ()
    | some 'e' | some 'E' => skipExponent
    | _ => pure ()

end ShieldPolicy.Json.Reader
