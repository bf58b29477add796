import ShieldPolicy.Settings.Data
import ShieldPolicy.Text.Blank
import ShieldPolicy.Text.Scan

/-!
# INI files

A file holds entries of the form `key = value` or `key: value`, in sections that a name in brackets
opens. All values are texts. A line that starts with `;` or `#` is a comment; elsewhere those two
characters mean nothing. A backslash escapes the character after it, in names and keys too, and one
at the end of a line joins the next line on.
-/

namespace ShieldPolicy.Ini

open Text Text.Scan

/-- The character that four digits in base sixteen stand for; a plus may take the place of the
first. -/
def codePoint? (digits : List Char) : Option Char :=
  let spelled := if digits.head? == some '+' then digits.drop 1 else digits
  if spelled.all isHexDigit then charOf? (number 16 spelled) else none

def unescape (c : Char) : Char :=
  match c with
  | '0' => '\x00'
  | 'a' => '\x07'
  | 'b' => '\x08'
  | 't' => '\t'
  | 'r' => '\r'
  | 'n' => '\n'
  | _ => c

/-- The text up to a character that ends it, escapes resolved. The end of the file ends it if
`mayEnd` says so. -/
def literal (ends : Char → Bool) (mayEnd : Bool) : Scan (List Char)
  | [] => if mayEnd then some ([], []) else none
  | '\\' :: 'x' :: a :: b :: c :: d :: rest => do
    let here ← codePoint? [a, b, c, d]
    let (more, left) ← literal ends mayEnd rest
    return (here :: more, left)
  | '\\' :: '\n' :: rest => literal ends mayEnd rest
  | '\\' :: c :: rest => do
    if c = 'x' then none
    let (more, left) ← literal ends mayEnd rest
    return (unescape c :: more, left)
  | '\\' :: [] => none
  | c :: rest =>
    if ends c then some ([], c :: rest)
    else do
      let (more, left) ← literal ends mayEnd rest
      return (c :: more, left)

def isLineEnd (c : Char) : Bool := c == '\n' || c == '\r'

def quoted (quote : Char) : Scan (List Char) := do
  char quote
  let cs ← literal (· == quote) false
  char quote
  return cs

/-- A value: parts in quotes, and then the rest of the line. Quotes within the rest stand for
themselves. -/
def value : Scan String := do
  let _ ← run fun c => isBlank c && !isLineEnd c
  let parts ← many (quoted '"' <|> quoted '\'')
  let next ← peek
  if next == some '"' || next == some '\'' then failure
  let rest ← literal isLineEnd true
  return String.ofList (trimChars (parts.flatten ++ rest))

def sectionName : Scan String := do
  char '['
  let cs ← literal (· == ']') false
  char ']'
  return String.ofList (trimChars cs)

def entry : Scan (String × Data) := do
  let key ← literal (fun c => c == '=' || c == ':') false
  let _ ← next
  if (trimChars key).isEmpty then failure
  return (String.ofList (trimChars key), .text (← value))

/-- The sections read so far, the one being read last; its entries nearest first. -/
structure Progress where
  closed : List (String × Data) := []
  current : Option String := none
  entries : List (String × Data) := []

namespace Progress

/-- Closes the section being read. Entries before the first section stand for themselves. -/
def close (p : Progress) : List (String × Data) :=
  match p.current with
  | none => p.closed ++ p.entries.reverse
  | some name => p.closed ++ [(name, .ofMembers p.entries.reverse)]

/-- Takes in what the rest of a file holds. `atStart` says whether it starts a line. -/
def read (p : Progress) : Nat → Bool → List Char → Option Progress
  | 0, _, _ => none
  | fuel + 1, atStart, cs =>
    match cs with
    | [] => some p
    | c :: rest =>
      if isBlank c then p.read fuel (c == '\n') rest
      else if c = ';' ∨ c = '#' then
        if atStart then p.read fuel true ((rest.dropWhile (· ≠ '\n')).drop 1) else none
      else if c = '[' then do
        let (name, left) ← sectionName cs
        { closed := p.close, current := some name : Progress }.read fuel false left
      else do
        let (e, left) ← entry cs
        { p with entries := e :: p.entries }.read fuel false left

end Progress

def parse? (file : String) : Option Data := do
  let p ← ({} : Progress).read (file.length + 1) true file.toList
  return .ofMembers p.close

end ShieldPolicy.Ini
