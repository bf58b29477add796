import ShieldPolicy.Settings.Numeral
import ShieldPolicy.Text.Blank
import ShieldPolicy.Text.Identifier

/-!
# JSON5 files

JSON with comments, commas after the last item, keys without quotes, texts in single quotes and
numbers in more forms.
-/

namespace ShieldPolicy.Json5

open Text Text.Scan

/-! ### What stands between values -/

def isLineEnd (c : Char) : Bool := c == '\n' || c == '\r' || c == '\u2028' || c == '\u2029'

def isSpace (c : Char) : Bool := (isBlank c && c != '\u0085') || c == '\ufeff'

def lineComment : Scan Unit := do
  word ['/', '/']
  let _ ← run (!isLineEnd ·)

def blockRest : List Char → Option (Unit × List Char)
  | '*' :: '/' :: rest => some ((), rest)
  | _ :: rest => blockRest rest
  | [] => none

def space : Scan Unit := do
  let _ ← many ((do let _ ← run1 isSpace) <|> lineComment <|> do word ['/', '*']; blockRest)

/-! ### Texts -/

/-- A character given by four digits in base sixteen; two of them, each for half of it, stand for a
character of more than 16 bits. -/
def unit16 : Scan Char := do
  let first := number 16 (← exactly isHexDigit 4)
  if 0xD800 ≤ first ∧ first < 0xDC00 then
    word ['\\', 'u']
    let second := number 16 (← exactly isHexDigit 4)
    if second < 0xDC00 ∨ 0xE000 ≤ second then failure
    return Char.ofNat (0x10000 + (first - 0xD800) * 0x400 + (second - 0xDC00))
  else match charOf? first with
    | some c => return c
    | none => failure

/-- What follows a backslash: none for a line break that it takes away. -/
def escape : Scan (List Char) := do
  match ← next with
  | 'b' => return ['\x08']
  | 'f' => return ['\x0c']
  | 'n' => return ['\n']
  | 'r' => return ['\r']
  | 't' => return ['\t']
  | 'v' => return ['\x0b']
  | '0' => return ['\x00']
  | 'x' => return [← codePoint 2]
  | 'u' => return [← unit16]
  | '\r' =>
    let _ ← accept '\n'
    return []
  | c => if isLineEnd c then return [] else if c.isDigit then failure else return [c]

def textChar (quote : Char) : Scan (List Char) := do
  match ← oneOf fun c => c ≠ quote && !isLineEnd c with
  | '\\' => escape
  | c => return [c]

def text : Scan String := do
  let quote ← oneOf fun c => c == '"' || c == '\''
  let parts ← many (textChar quote)
  char quote
  return String.ofList parts.flatten

def identifierChar (p : Char → Bool) : Scan Char :=
  oneOf p <|> do word ['\\', 'u']; unit16

def identifier : Scan String := do
  let first ← identifierChar startsIdentifier
  return String.ofList (first :: (← many (identifierChar continuesIdentifier)))

/-! ### Numbers -/

/-- A number in base sixteen, of 32 bits. -/
def based : Scan Data := do
  char '0'
  let _ ← oneOf fun c => c == 'x' || c == 'X'
  let n := number 16 (← run1 isHexDigit)
  if Nat.pow 2 32 ≤ n then failure
  return .integer n

/-- The digits before the point of a number: no zero stands before another digit. -/
def wholePart : Scan (List Char) := do
  let digits ← run Char.isDigit
  if 1 < digits.length && digits.head? == some '0' then failure
  return digits

def decimal : Scan (List Char) := do
  let whole ← wholePart
  let point ← maybe (char '.')
  let decimals ← if point.isSome then run Char.isDigit else pure []
  if whole.isEmpty && decimals.isEmpty then failure
  let power ← maybe do
    let _ ← oneOf fun c => c == 'e' || c == 'E'
    let sign ← maybe (oneOf fun c => c == '+' || c == '-')
    return ['e'] ++ sign.toList ++ (← run1 Char.isDigit)
  let part := if point.isSome then '.' :: decimals else []
  return whole ++ part ++ power.getD []

/-- A number. It has to be within 64 bits if it is a whole one, and finite if it is spelled in
digits; a plus stands before digits in base ten only. -/
def numeral : Scan Data := do
  let sign ← maybe (oneOf fun c => c == '+' || c == '-')
  (do
    if sign.isSome then failure
    based) <|>
  (do
    let cs ← decimal
    let cs := sign.toList ++ cs
    if cs.contains '.' || cs.contains 'e' then
      match Numeral.real? cs with
      | some (.finite negative m e) => return .real (.finite negative m e)
      | _ => failure
    else match Numeral.integer? cs with
      | some i => return .integer i
      | none => failure) <|>
  (do
    if sign == some '+' then failure
    (do word "Infinity".toList; return .real (.infinite (sign == some '-'))) <|>
      do word ['N', 'a', 'N']; return .real .nan)

/-! ### Values -/

def value : Nat → Scan Data
  | 0 => failure
  | levels + 1 =>
    (do word ['n', 'u', 'l', 'l']; return .absent) <|>
    (do word ['t', 'r', 'u', 'e']; return .flag true) <|>
    (do word ['f', 'a', 'l', 's', 'e']; return .flag false) <|>
    (do return .text (← text)) <|>
    (do return .list (← bracketed space '[' ']' (value levels))) <|>
    (do return .ofMembers (← bracketed space '\x7b' '\x7d' do
      let key ← text <|> identifier
      space
      char ':'
      space
      return (key, ← value levels))) <|>
    numeral

def parse? (file : String) : Option Data :=
  whole (do space; let d ← value (file.length + 1); space; return d) file

end ShieldPolicy.Json5
