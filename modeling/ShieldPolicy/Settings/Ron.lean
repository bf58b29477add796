import ShieldPolicy.Settings.Numeral

/-!
# RON files

Records and tuples are written in parentheses, maps in braces and lists in brackets; a name may
stand before a parenthesis or by itself. What stands for an optional value is the value itself.
-/

namespace ShieldPolicy.Ron

open Text Text.Scan

/-! ### Names, and what stands between values -/

def startsName (c : Char) : Bool := c == '_' || c.isAlpha

def continuesName (c : Char) : Bool := c == '_' || c.isAlphanum

def continuesRawName (c : Char) : Bool := continuesName c || c == '.' || c == '+' || c == '-'

/-- The rest of a comment that is open so many times. -/
def blockRest : Nat → List Char → Option (Unit × List Char)
  | depth, '/' :: '*' :: rest => blockRest (depth + 1) rest
  | depth, '*' :: '/' :: rest => if depth ≤ 1 then some ((), rest) else blockRest (depth - 1) rest
  | depth, _ :: rest => blockRest depth rest
  | _, [] => none

def space : Scan Unit := do
  let _ ← many ((do let _ ← run1 fun c => c == ' ' || c == '\t' || c == '\n' || c == '\r') <|>
    (do word ['/', '/']; let _ ← run (· ≠ '\n')) <|>
    do word ['/', '*']; blockRest 1)

/-- A name. One that is not marked as raw must not run on into what only a raw name may hold. -/
def name : Scan String
  | 'r' :: '"' :: _ => none
  | 'r' :: '#' :: rest =>
    let found := rest.takeWhile continuesRawName
    if found.isEmpty then none else some (String.ofList found, rest.drop found.length)
  | ['r'] => none
  | cs =>
    let found := cs.takeWhile continuesName
    if !cs.head?.any startsName || found.length < (cs.takeWhile continuesRawName).length then none
    else some (String.ofList found, cs.drop found.length)

/-- The given word if it comes next as a whole, and whether it did. -/
def acceptWord (expected : String) : Scan Bool := fun cs =>
  match dropStart? expected.toList cs with
  | some rest => if rest.head?.any continuesName then some (false, cs) else some (true, rest)
  | none => some (false, cs)

/-! ### Texts -/

def escape : Scan Char := do
  match ← next with
  | '\'' => return '\''
  | '"' => return '"'
  | '\\' => return '\\'
  | 'n' => return '\n'
  | 'r' => return '\r'
  | 't' => return '\t'
  | '0' => return '\x00'
  | 'x' => codePoint 2
  | 'u' => do
    char '\x7b'
    let digits ← run1 isHexDigit
    char '\x7d'
    match charOf? (number 16 digits) with
    | some c => if digits.length ≤ 6 then return c else failure
    | none => failure
  | _ => failure

def quotedText : Scan String := do
  char '"'
  let cs ← many do
    match ← oneOf (· ≠ '"') with
    | '\\' => escape
    | c => return c
  char '"'
  return String.ofList cs

/-- The characters before the first place where a word stands, and what follows that word. -/
def upTo (ending : List Char) : Scan (List Char)
  | [] => none
  | c :: rest =>
    match dropStart? ending (c :: rest) with
    | some after => some ([], after)
    | none => (upTo ending rest).map fun (before, after) => (c :: before, after)

/-- A raw text, which a quote with as many `#`s after it ends as stand before it. -/
def rawText : Scan String := do
  char 'r'
  let marks ← run (· == '#')
  char '"'
  return String.ofList (← upTo ('"' :: marks))

def character : Scan String := do
  char '\''
  let c ← match ← oneOf (· ≠ '\'') with
    | '\\' => escape
    | c => pure c
  char '\''
  return String.ofList [c]

/-! ### Numbers -/

def isIntegerChar (c : Char) : Bool := isHexDigit c || c == '_'

def isRealChar (c : Char) : Bool :=
  c.isDigit || c == '.' || c == 'e' || c == 'E' || c == '+' || c == '-' || c == '_'

def real : Scan Data := do
  match Numeral.real? (← run1 isRealChar) with
  | some x => return .real x
  | none => failure

def digits : Scan (Nat × List Char) := do
  let base ← (do word ['0', 'x']; return 16) <|> (do word ['0', 'b']; return 2) <|>
    (do word ['0', 'o']; return 8) <|> pure 10
  let cs ← run1 isIntegerChar
  if cs.head? == some '_' || !cs.all (fun c => c == '_' || digitValue c < base) then failure
  return (base, cs.filter (· ≠ '_'))

/-- A whole number. With a sign it has 63 bits, without one 64; one of more than 63 bits stands for
the real number nearest to it. -/
def integer : Scan Data := do
  let sign ← maybe (oneOf fun c => c == '+' || c == '-')
  let (base, cs) ← digits
  let n := number base cs
  let i : Int := if sign == some '-' then -n else n
  if Integer64.fits i then return .integer i
  else if sign.isNone && n < Integer64.unsignedLimit then return .real (.ofNat false n)
  else failure

/-- A number: a whole one if nothing but its digits is there and they fit. -/
def numeral : Scan Data := fun cs =>
  let body := if cs.head?.any (fun c => c == '+' || c == '-') then cs.drop 1 else cs
  if (body.takeWhile isIntegerChar).length < (body.takeWhile isRealChar).length then real cs
  else (integer <|> real) cs

/-! ### Values -/

/-- What is switched on at the start of a file. -/
def switches : Scan (List String) := do
  word ['#']; space
  word ['!']; space
  word ['[']; space
  word "enable".toList; space
  let found ← bracketed space '(' ')' name
  if found.isEmpty then failure
  space
  char ']'
  space
  if found.all ["unwrap_newtypes", "implicit_some", "unwrap_variant_newtypes"].contains then
    return found
  else failure

/-- A key of a map and how it ranks: of keys that read the same the one of the highest rank
counts. A key that is no text reads as the empty one. -/
def mapKey (value : Scan Data) : Scan (Nat × String) := do
  match ← peek with
  | some '"' => return (2, ← quotedText)
  | some '\'' => return (1, ← character)
  | _ => (do return (2, ← rawText)) <|> do let _ ← value; return (0, "")

def member {κ : Type} (key : Scan κ) (value : Scan Data) : Scan (κ × Data) := do
  let k ← key
  space
  char ':'
  space
  return (k, ← value)

def map (value : Scan Data) : Scan Data := do
  let members ← bracketed space '\x7b' '\x7d' (member (mapKey value) value)
  let ranked (rank : Nat) : List (String × Data) :=
    members.filterMap fun ((r, key), d) => if r = rank then some (key, d) else none
  return .ofMembers (ranked 0 ++ ranked 1 ++ ranked 2)

/-- A record if the first thing in parentheses is a name with a colon after it, otherwise a
tuple. -/
def record (value : Scan Data) : Scan Data := fun cs =>
  let starts : Scan Unit := do char '('; space; let _ ← name; space; char ':'
  match starts cs with
  | some _ => (Data.ofMembers <$> bracketed space '(' ')' (member name value)) cs
  | none => (Data.list <$> bracketed space '(' ')' value) cs

/-- What follows the word for an optional value that is there. Its parentheses may be left out where
that is switched on. -/
def present (implicit : Bool) (value : Scan Data) : Scan Data := do
  space
  if ← accept '(' then
    space
    let d ← value
    space
    let _ ← accept ','
    space
    char ')'
    return d
  else if implicit then value
  else failure

/-- A value, given how the value within an optional one is read, and the values within anything in
brackets unless none may be opened. -/
def valueOf (implicit : Bool) (optional : Scan Data) (inner : Option (Scan Data)) :
    Scan Data := do
  if ← acceptWord "true" then return .flag true
  if ← acceptWord "false" then return .flag false
  if ← acceptWord "Some" then return ← present implicit optional
  if ← acceptWord "None" then return .absent
  if (← maybe (word ['(', ')'])).isSome then return .absent
  if ← acceptWord "inf" then return .real (.infinite false)
  if ← acceptWord "-inf" then return .real (.infinite true)
  if ← acceptWord "NaN" then return .real .nan
  if (← maybe name).isSome then
    space
    if (← peek) != some '(' then return .absent
  match ← peek, inner with
  | some '(', some value => record value
  | some '[', some value => return .list (← bracketed space '[' ']' value)
  | some '\x7b', some value => map value
  | some '"', _ => return .text (← quotedText)
  | some 'r', _ => return .text (← rawText)
  | some '\'', _ => return .text (← character)
  | some '.', _ => real
  | some c, _ => if c.isDigit || c == '+' || c == '-' then numeral else failure
  | none, _ => failure

/-- A value with so many steps to go down: one into an optional value, two into brackets, of which
the first is for the bracket. -/
def value (implicit : Bool) : Nat → Scan Data
  | 0, cs => valueOf implicit failure none cs
  | 1, cs => valueOf implicit (value implicit 0) (some failure) cs
  | steps + 2, cs => valueOf implicit (value implicit (steps + 1)) (some (value implicit steps)) cs

def parse? (file : String) : Option Data :=
  whole (do
    space
    let found ← many switches
    if (← peek) == some '#' then failure
    let d ← value (found.flatten.contains "implicit_some") 128
    space
    return d) file

end ShieldPolicy.Ron
