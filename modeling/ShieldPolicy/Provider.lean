import ShieldPolicy.Integer64
import ShieldPolicy.Text.Blank
import ShieldPolicy.Text.Split

/-!
# The companion client generator

The client generator that runs beside this one names the operations of each model. Its identity is
a name and, when known, a version; the version decides which vocabulary of operation kinds to
expect.
-/

namespace ShieldPolicy

structure Provider where
  name : String
  version : Option String := none
deriving DecidableEq, Inhabited

namespace Provider

/-- The client generators whose model description is understood. -/
def companions : List String := ["prisma-client-js", "prisma-client"]

def isCompanion (p : Provider) : Bool := companions.contains p.name

def display (p : Provider) : String :=
  match p.version with
  | some version => p.name ++ "@" ++ version
  | none => p.name

def cutAtLast (cs : List Char) : Option (List Char × List Char) :=
  match (Text.splitOn '@' cs).reverse with
  | [] | [_] => none
  | last :: before => some (Text.joinWith '@' before.reverse, last)

/-- Reads `name` or `name@version`, or fails with the trimmed text when it names nothing. A scope
starts with `@`, so only a later `@` separates a version; an empty version counts as none. -/
def parse (identity : String) : Except String Provider :=
  let cs := Text.trimChars identity.toList
  let (name, version) := match cutAtLast cs with
    | some (before, after) => if before.isEmpty then (cs, []) else (before, after)
    | none => (cs, [])
  if name.isEmpty then .error (String.ofList cs)
  else .ok
    { name := String.ofList name
      version := if version.isEmpty then none else some (String.ofList version) }

def digitsValue (cs : List Char) : Option Nat :=
  cs.foldl
    (fun acc c => acc.bind fun n =>
      if c.isDigit then some (10 * n + (c.toNat - '0'.toNat)) else none)
    (some 0)

/-- A number in decimal digits, with a `+` allowed before them, below the bound. -/
def boundedNumber? (bound : Nat) (cs : List Char) : Option Nat :=
  let digits := match cs with
    | '+' :: rest => rest
    | _ => cs
  if digits.isEmpty then none
  else (digitsValue digits).filter fun n => n < bound

/-- The marks that may stand before a version number, any number of them. -/
def isVersionMark (c : Char) : Bool := c == 'v' || c == '^' || c == '~' || c == '='

def majorOf? (version : String) : Option Nat :=
  let cs := Text.trimChars version.toList
  let cs := (Text.dropStart? ['>', '='] cs).getD cs
  boundedNumber? Integer64.unsignedLimit ((cs.dropWhile isVersionMark).takeWhile fun c => c != '.')

end Provider

end ShieldPolicy
