import ShieldPolicy.Json

/-!
# Reading a JSON text: the cursor

A cursor is what is left of a text and the place where it starts. A reader moves a cursor and
answers a value or an error; it also says where it stopped when it failed, because a fault that has
no place of its own is located where the innermost enclosing value was given up.
-/

namespace ShieldPolicy.Json

structure Cursor where
  rest : List Char
  line : Nat := 1
  column : Nat := 0
deriving DecidableEq

namespace Cursor

def start (text : String) : Cursor := { rest := text.toList }

def here (c : Cursor) : Position := ⟨c.line, c.column⟩

def advance (c : Cursor) : Cursor :=
  match c.rest with
  | [] => c
  | ch :: rest =>
    if ch = '\n' then ⟨rest, c.line + 1, 0⟩ else ⟨rest, c.line, c.column + ch.utf8Size⟩

def ahead (c : Cursor) : Position :=
  match c.rest with
  | [] => c.here
  | ch :: _ => if ch = '\n' then ⟨c.line + 1, 0⟩ else ⟨c.line, c.column + 1⟩

/-- The place some bytes further, or the end of the text and `false` when it ends before. -/
def bytesAhead : Nat → List Char → Position → Position × Bool
  | 0, _, p => (p, true)
  | _, [], p => (p, false)
  | n + 1, ch :: rest, p =>
    if ch = '\n' then bytesAhead n rest ⟨p.line + 1, 0⟩
    else if ch.utf8Size ≤ n + 1 then
      bytesAhead (n + 1 - ch.utf8Size) rest ⟨p.line, p.column + ch.utf8Size⟩
    else (⟨p.line, p.column + (n + 1)⟩, true)
termination_by _ rest => rest

def isSpace (ch : Char) : Bool := ch == ' ' || ch == '\n' || ch == '\t' || ch == '\r'

def advanceBy : Nat → Cursor → Cursor
  | 0, c => c
  | n + 1, c => advanceBy n c.advance

def dropSpace (c : Cursor) : Cursor := advanceBy (c.rest.takeWhile isSpace).length c

end Cursor

abbrev Reader := ExceptT Error (StateM Cursor)

namespace Reader

def failHere {α : Type} (fault : Fault) : Reader α := do throw ⟨fault, some (← get).here⟩

def failAhead {α : Type} (fault : Fault) : Reader α := do throw ⟨fault, some (← get).ahead⟩

def failUnplaced {α : Type} (fault : Fault) : Reader α := throw ⟨fault, none⟩

def peek : Reader (Option Char) := do return (← get).rest.head?

def advance : Reader Unit := modify Cursor.advance

def peekSolid : Reader (Option Char) := do
  modify Cursor.dropSpace
  peek

/-- Gives a fault without a place the place where the reader stopped. -/
def placed {α : Type} (reader : Reader α) : Reader α := fun c =>
  match reader c with
  | (.error ⟨fault, none⟩, c') => (.error ⟨fault, some c'.here⟩, c')
  | answer => answer

/-- Reads the inside and then its closing bracket. The bracket is looked for even when the inside
failed, and the inside's fault counts first. -/
def closedBy {α : Type} (inside : Reader α) (closing : Reader Unit) : Reader α := fun c =>
  let (answer, c₁) := inside c
  let (closed, c₂) := closing c₁
  match answer, closed with
  | .error e, _ => (.error e, c₂)
  | .ok _, .error e => (.error e, c₂)
  | .ok a, .ok () => (.ok a, c₂)

def word : List Char → Reader Unit
  | [] => pure ()
  | expected :: more => do
    match ← peek with
    | none => failHere .endInValue
    | some ch => if ch = expected then advance; word more else failAhead .expectedWord

end Reader

end ShieldPolicy.Json
