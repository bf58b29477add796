import ShieldPolicy.Json

/-!
# Writing JSON

The compact form has no blanks at all; the indented form puts every item on a line of its own.
-/

namespace ShieldPolicy.Json

/-- A character inside quotes. Only the quote, the backslash and the controls are escaped. -/
def writeChar (c : Char) : List Char :=
  if c = '"' then ['\\', '"']
  else if c = '\\' then ['\\', '\\']
  else if c = '\x08' then ['\\', 'b']
  else if c = '\x0c' then ['\\', 'f']
  else if c = '\n' then ['\\', 'n']
  else if c = '\r' then ['\\', 'r']
  else if c = '\t' then ['\\', 't']
  else if c.toNat < 0x20 then
    let digits := Nat.toDigits 16 c.toNat
    ['\\', 'u'] ++ List.replicate (4 - digits.length) '0' ++ digits
  else [c]

def writeText (s : String) : String := String.ofList ('"' :: s.toList.flatMap writeChar ++ ['"'])

def Number.write : Number → String
  | .natural n => toString n
  | .negative n => "-" ++ toString n
  | .real x => x.write .json

def braced (members : List (String × String)) : String :=
  "\x7b" ++ Text.joinTexts "," (members.map fun (key, value) => writeText key ++ ":" ++ value)
    ++ "\x7d"

mutual

def write : Json → String
  | .null => "null"
  | .bool b => toString b
  | .number n => n.write
  | .text s => writeText s
  | .array items => "[" ++ Text.joinTexts "," (writeItems items) ++ "]"
  | .object members => braced (writeMembers members)

def writeItems : List Json → List String
  | [] => []
  | item :: rest => write item :: writeItems rest

def writeMembers : List (String × Json) → List (String × String)
  | [] => []
  | (key, value) :: rest => (key, write value) :: writeMembers rest

end

/-- A line break and the indent of the given depth. -/
def breakLine (depth : Nat) : String := "\n" ++ String.ofList (List.replicate (2 * depth) ' ')

def indentedBlock (opening closing : String) (depth : Nat) (parts : List String) : String :=
  if parts.isEmpty then opening ++ closing
  else opening ++ breakLine (depth + 1) ++ Text.joinTexts ("," ++ breakLine (depth + 1)) parts ++
    breakLine depth ++ closing

end ShieldPolicy.Json
