import ShieldPolicy.Toml.Scalar
import ShieldPolicy.Toml.Table

/-!
# TOML documents
-/

namespace ShieldPolicy.Toml

open Text Text.Scan

def inlineTable (definitions : List (List String × Data)) : Option Data := do
  let table ← definitions.foldlM (fun n (keys, d) => Node.define? keys d n) Node.root
  return table.data

def definition (value : Scan Data) : Scan (List String × Data) := do
  let keys ← key
  blanks
  char '='
  blanks
  let d ← value
  return (keys, d)

def arrayRest (value : Scan Data) : Scan Data := do
  space
  let items ← maybe do
    let items ← separated value do space; char ','; space
    space
    let _ ← accept ','
    space
    return items
  char ']'
  return .list (items.getD [])

def tableRest (value : Scan Data) : Scan Data := do
  blanks
  let definitions ← maybe (separated (definition value) do blanks; char ','; blanks)
  blanks
  char '\x7d'
  match inlineTable (definitions.getD []) with
  | some d => return d
  | none => failure

def value : Nat → Scan Data
  | 0 => scalar
  | levels + 1 => do
    match ← peek with
    | some '[' => char '['; arrayRest (value levels)
    | some '\x7b' => char '\x7b'; tableRest (value levels)
    | _ => scalar

structure Progress where
  root : Node := .root
  current : List String := []

/-- A header in brackets, doubled for an item of an array. -/
def header : Scan (Bool × List String) := do
  char '['
  let isItem ← accept '['
  blanks
  let keys ← key
  blanks
  char ']'
  if isItem then char ']'
  return (isItem, keys)

def line (p : Progress) : Scan Progress := do
  blanks
  match ← peek with
  | some '[' =>
    let (isItem, keys) ← header
    lineEnd
    match if isItem then p.root.openItem? keys else p.root.openTable? keys with
    | some root => return { root, current := keys }
    | none => failure
  | some c =>
    if c == '#' || c == '\n' || c == '\r' then
      lineEnd
      return p
    else
      let (keys, d) ← definition (value maxSteps)
      lineEnd
      match p.root.change? false (Node.define? keys d) p.current with
      | some root => return { p with root }
      | none => failure
  | none => return p

def linesWithin : Nat → Progress → Scan Progress
  | 0, p => return p
  | fuel + 1, p => fun cs =>
    if cs.isEmpty then some (p, []) else
      match line p cs with
      | some (next, rest) => linesWithin fuel next rest
      | none => none

def parse? (document : String) : Option Data :=
  let cs := document.toList
  let body := if cs.head? = some '\ufeff' then cs.drop 1 else cs
  match linesWithin (body.length + 1) {} body with
  | some (p, []) => some p.root.data
  | _ => none

end ShieldPolicy.Toml
