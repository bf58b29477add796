import ShieldPolicy.Integer64
import ShieldPolicy.Settings.Data
import ShieldPolicy.Text.Scan

/-!
# TOML: blanks, keys and scalars
-/

namespace ShieldPolicy.Toml

open Text Text.Scan

/-! ### Blanks -/

def isBlank (c : Char) : Bool := c == ' ' || c == '\t'

def blanks : Scan Unit := do
  let _ ← run isBlank

def isCommentChar (c : Char) : Bool := c == '\t' || (' ' ≤ c && c != '\x7f')

def newline : Scan Unit := word ['\n'] <|> word ['\r', '\n']

def comment : Scan Unit := do
  char '#'
  let _ ← run isCommentChar

def space : Scan Unit := do
  let _ ← many ((do let _ ← oneOf isBlank) <|> newline <|> comment)

/-- What may follow on the line of a definition. -/
def lineEnd : Scan Unit := do
  blanks
  let _ ← maybe comment
  newline <|> finished

/-! ### Texts -/

def escape : Scan Char := do
  match ← next with
  | 'b' => return '\x08'
  | 't' => return '\t'
  | 'n' => return '\n'
  | 'f' => return '\x0c'
  | 'r' => return '\r'
  | '"' => return '"'
  | '\\' => return '\\'
  | 'u' => codePoint 4
  | 'U' => codePoint 8
  | _ => failure

def plainChar (quote : Char) : Scan Char :=
  oneOf fun c => isCommentChar c && c != quote

def basicText : Scan String := do
  char '"'
  let cs ← many (oneOf (fun c => isCommentChar c && c != '"' && c != '\\') <|>
    do char '\\'; escape)
  char '"'
  return String.ofList cs

def literalText : Scan String := do
  char '\''
  let cs ← many (plainChar '\'')
  char '\''
  return String.ofList cs

/-- The quotes at the end of a text of several lines: three close it, and up to two before them
belong to it. -/
def closingQuotes (quote : Char) : Scan (List Char) := fun cs =>
  let count := min (cs.takeWhile (· == quote)).length 5
  if count < 3 then none else some (List.replicate (count - 3) quote, cs.drop count)

def innerQuotes (quote : Char) : Scan (List Char) := fun cs =>
  let quotes := cs.takeWhile (· == quote)
  if quotes.isEmpty || 2 < quotes.length then none else some (quotes, cs.drop quotes.length)

def lineBreak : Scan (List Char) := do
  newline
  return ['\n']

/-- A backslash at the end of a line, which drops the blanks that follow. -/
def continuation : Scan (List Char) := do
  char '\\'
  blanks
  newline
  let _ ← many ((do let _ ← oneOf isBlank) <|> newline)
  return []

def longBasicText : Scan String := do
  word ['"', '"', '"']
  let _ ← maybe newline
  let parts ← many
    ((do return [← oneOf fun c => isCommentChar c && c != '"' && c != '\\']) <|> lineBreak <|>
      continuation <|> (do char '\\'; return [← escape]) <|> innerQuotes '"')
  let last ← closingQuotes '"'
  return String.ofList (parts.flatten ++ last)

def longLiteralText : Scan String := do
  word ['\'', '\'', '\'']
  let _ ← maybe newline
  let parts ← many
    ((do return [← plainChar '\'']) <|> lineBreak <|> innerQuotes '\'')
  let last ← closingQuotes '\''
  return String.ofList (parts.flatten ++ last)

def text : Scan String := longBasicText <|> longLiteralText <|> basicText <|> literalText

/-! ### Keys -/

def isBareChar (c : Char) : Bool := c.isAlphanum || c == '_' || c == '-'

def simpleKey : Scan String :=
  basicText <|> literalText <|> do return String.ofList (← run1 isBareChar)

/-- How many steps one thing in a document may lead down. -/
def maxSteps : Nat := 79

def key : Scan (List String) := do
  let parts ← separated simpleKey do blanks; char '.'; blanks
  if maxSteps < parts.length then failure
  return parts

/-! ### Numbers -/

/-- Digits with single underscores between them. -/
def digitRun (p : Char → Bool) : Scan (List Char) := do
  let first ← oneOf p
  return first :: (← many (oneOf p <|> do char '_'; oneOf p))

def sign : Scan Bool := do
  if ← accept '-' then return true
  let _ ← accept '+'
  return false

/-- The digits of a decimal number. Only a zero alone starts with zero. -/
def decimalDigits : Scan (List Char) := do
  match ← peek with
  | some '0' => char '0'; return ['0']
  | _ => digitRun Char.isDigit

def bounded (i : Int) : Scan Data :=
  if Integer64.fits i then return .integer i else failure

def basedInteger : Scan Data := do
  char '0'
  match ← next with
  | 'x' => bounded (number 16 (← digitRun isHexDigit))
  | 'o' => bounded (number 8 (← digitRun fun c => '0' ≤ c && c ≤ '7'))
  | 'b' => bounded (number 2 (← digitRun fun c => c == '0' || c == '1'))
  | _ => failure

def integer : Scan Data := basedInteger <|> do
  let negative ← sign
  let n : Int := number 10 (← decimalDigits)
  bounded (if negative then -n else n)

def fraction : Scan (List Char) := do
  char '.'
  digitRun Char.isDigit

def exponent : Scan Int := do
  let _ ← oneOf fun c => c == 'e' || c == 'E'
  let negative ← sign
  let n : Int := number 10 (← digitRun Char.isDigit)
  return if negative then -n else n

def decimal : Scan Data := do
  let negative ← sign
  let whole ← decimalDigits
  let part ← maybe fraction
  let power ← maybe exponent
  if part.isNone && power.isNone then failure
  let digits := part.getD []
  let power := max (-20000) (min 20000 (power.getD 0))
  let x := Binary64.ofDecimal negative (number 10 (whole ++ digits)) (power - digits.length)
  if x = .infinite false then failure
  return .real x

/-- A real number that is no decimal. -/
def specialNumber : Scan Data := do
  let negative ← sign
  (do word ['i', 'n', 'f']; return .real (.infinite negative)) <|>
    (do word ['n', 'a', 'n']; return .real .nan)

/-! ### Dates -/

def twoDigits (low high : Nat) : Scan (List Char) := do
  let digits ← exactly Char.isDigit 2
  let n := number 10 digits
  if low ≤ n ∧ n ≤ high then return digits else failure

def daysIn (year month : Nat) : Nat :=
  if month = 2 then
    if year % 4 = 0 ∧ (year % 100 ≠ 0 ∨ year % 400 = 0) then 29 else 28
  else if month = 4 ∨ month = 6 ∨ month = 9 ∨ month = 11 then 30 else 31

def date : Scan (List Char) := do
  let year ← exactly Char.isDigit 4
  char '-'
  let month ← twoDigits 1 12
  char '-'
  let day ← twoDigits 1 (daysIn (number 10 year) (number 10 month))
  return year ++ '-' :: month ++ '-' :: day

/-- The part of a second, in as many of its first nine digits as are needed. -/
def secondPart : Scan (List Char) := do
  char '.'
  let digits ← run1 Char.isDigit
  let shown := ((digits.take 9).reverse.dropWhile (· == '0')).reverse
  return if shown.isEmpty then [] else '.' :: shown

def time : Scan (List Char) := do
  let hour ← twoDigits 0 23
  char ':'
  let minute ← twoDigits 0 59
  char ':'
  let second ← twoDigits 0 60
  let part := (← maybe secondPart).getD []
  return hour ++ ':' :: minute ++ ':' :: second ++ part

/-- The distance from universal time. -/
def offset : Scan (List Char) :=
  (do let _ ← oneOf fun c => c == 'Z' || c == 'z'; return ['Z']) <|> do
    let mark ← oneOf fun c => c == '+' || c == '-'
    let hour ← twoDigits 0 23
    char ':'
    let minute ← twoDigits 0 59
    let isZero := (hour ++ minute).all (· == '0')
    return (if isZero then '+' else mark) :: hour ++ ':' :: minute

/-- A date, a time or both. It is kept as text. -/
def dateTime : Scan Data := do
  let cs ← (do
      let day ← date
      let more ← maybe do
        let _ ← oneOf fun c => c == 'T' || c == 't' || c == ' '
        let moment ← time
        return 'T' :: moment ++ (← maybe offset).getD []
      return day ++ more.getD []) <|> time
  return .text (String.ofList cs)

def scalar : Scan Data :=
  (do return .text (← text)) <|>
    (do word ['t', 'r', 'u', 'e']; return .flag true) <|>
    (do word ['f', 'a', 'l', 's', 'e']; return .flag false) <|>
    dateTime <|> decimal <|> specialNumber <|> integer

end ShieldPolicy.Toml
