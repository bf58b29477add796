import ShieldPolicy.Text.Split

/-!
# Scanning text

A scanner takes characters off the front of a text, or fails and takes none.
-/

namespace ShieldPolicy.Text

abbrev Scan := StateT (List Char) Option

namespace Scan

def peek : Scan (Option Char) := fun cs => some (cs.head?, cs)

def next : Scan Char
  | [] => none
  | c :: rest => some (c, rest)

def oneOf (p : Char → Bool) : Scan Char
  | [] => none
  | c :: rest => if p c then some (c, rest) else none

def char (c : Char) : Scan Unit := do
  let _ ← oneOf (· == c)

def word (expected : List Char) : Scan Unit := fun cs =>
  (dropStart? expected cs).map fun rest => ((), rest)

/-- The given character if it comes next, and whether it did. -/
def accept (c : Char) : Scan Bool := fun
  | [] => some (false, [])
  | d :: rest => if d = c then some (true, rest) else some (false, d :: rest)

def run (p : Char → Bool) : Scan (List Char) := fun cs => some (cs.takeWhile p, cs.dropWhile p)

def run1 (p : Char → Bool) : Scan (List Char) := do
  let first ← oneOf p
  return first :: (← run p)

def maybe {α : Type} (s : Scan α) : Scan (Option α) := fun cs =>
  match s cs with
  | some (a, rest) => some (some a, rest)
  | none => some (none, cs)

/-- Scans as often as it succeeds and something is taken, within a bound. -/
def manyWithin {α : Type} (s : Scan α) : Nat → Scan (List α)
  | 0 => return []
  | fuel + 1 => fun cs =>
    match s cs with
    | none => some ([], cs)
    | some (a, rest) =>
      if rest.length < cs.length then
        match manyWithin s fuel rest with
        | some (as, left) => some (a :: as, left)
        | none => none
      else some ([], cs)

def many {α : Type} (s : Scan α) : Scan (List α) := fun cs => manyWithin s (cs.length + 1) cs

def separated {α : Type} (s : Scan α) (separator : Scan Unit) : Scan (List α) := do
  let first ← s
  return first :: (← many (do separator; s))

/-- Things between brackets with commas between them, perhaps one after the last too, and `space`
around each. -/
def bracketed {α : Type} (space : Scan Unit) (opening closing : Char) (item : Scan α) :
    Scan (List α) := do
  char opening
  space
  let found ← maybe do
    let found ← separated item do space; char ','; space
    space
    let _ ← accept ','
    space
    return found
  char closing
  return found.getD []

def finished : Scan Unit := fun cs => if cs.isEmpty then some ((), []) else none

def whole {α : Type} (s : Scan α) (text : String) : Option α :=
  ((do let a ← s; finished; return a : Scan α) text.toList).map Prod.fst

def digitValue (c : Char) : Nat :=
  if c.isDigit then c.toNat - '0'.toNat
  else if 'a' ≤ c then c.toNat - 'a'.toNat + 10
  else c.toNat - 'A'.toNat + 10

def isHexDigit (c : Char) : Bool :=
  c.isDigit || ('a' ≤ c && c ≤ 'f') || ('A' ≤ c && c ≤ 'F')

def number (base : Nat) (digits : List Char) : Nat :=
  digits.foldl (fun n c => base * n + digitValue c) 0

def exactly (p : Char → Bool) : Nat → Scan (List Char)
  | 0 => return []
  | n + 1 => do return (← oneOf p) :: (← exactly p n)

def charOf? (n : Nat) : Option Char := if n.isValidChar then some (Char.ofNat n) else none

def codePoint (digits : Nat) : Scan Char := do
  match charOf? (number 16 (← exactly isHexDigit digits)) with
  | some c => return c
  | none => failure

end Scan

end ShieldPolicy.Text
