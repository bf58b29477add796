import ShieldPolicy.Text.Scan

/-!
# Places in a YAML file

A place knows its line and column, because indentation means something. A line break is a line feed,
a carriage return, or both in this order.
-/

namespace ShieldPolicy.Yaml

/-! ### Characters -/

def isSpace (c : Char) : Bool := c == ' ' || c == '\t'

def isBreak (c : Char) : Bool := c == '\n' || c == '\r'

def atGap (cs : List Char) : Bool := cs.head?.all fun c => isSpace c || isBreak c

def atLineEnd (cs : List Char) : Bool := cs.head?.all isBreak

def isFlowMark (c : Char) : Bool :=
  c == ',' || c == '[' || c == ']' || c == '\x7b' || c == '\x7d'

def isWordChar (c : Char) : Bool := c.isAlphanum || c == '_' || c == '-'

/-! ### Places -/

structure Cursor where
  rest : List Char
  index : Nat := 0
  line : Nat := 0
  column : Nat := 0
  /-- Whether nothing but spaces and tabs stands before it on its line. -/
  isLeading : Bool := true

namespace Cursor

def pass (cur : Cursor) (n : Nat) : Cursor :=
  { cur with
    rest := cur.rest.drop n
    index := cur.index + n
    column := cur.column + n
    isLeading := cur.isLeading && n == 0 }

def passSpace (cur : Cursor) (n : Nat) : Cursor :=
  { cur.pass n with isLeading := cur.isLeading }

def passLine (cur : Cursor) (rest : List Char) (n : Nat) : Cursor :=
  { rest, index := cur.index + n, line := cur.line + 1 }

def passBreak (cur : Cursor) : Cursor :=
  match cur.rest with
  | '\r' :: '\n' :: rest => cur.passLine rest 2
  | c :: rest => if isBreak c then cur.passLine rest 1 else cur
  | [] => cur

def span (cur : Cursor) (p : Char → Bool) : List Char × Cursor :=
  let found := cur.rest.takeWhile p
  (found, cur.pass found.length)

def passToBreak (cur : Cursor) : Cursor := (cur.span (!isBreak ·)).2

def atDocumentMark (cur : Cursor) (mark : List Char) : Bool :=
  cur.column == 0 && mark.isPrefixOf cur.rest && atGap (cur.rest.drop 3)

def atDocumentEnd (cur : Cursor) : Bool := cur.atDocumentMark ['.', '.', '.']

def atDocumentStart (cur : Cursor) : Bool := cur.atDocumentMark ['-', '-', '-']

structure Padding where
  hasTab : Bool
  hasSpace : Bool

/-- Passes spaces, tabs if they are allowed, and a comment, before which one of them has to
stand. -/
def passPadding (cur : Cursor) (tabs : Bool) : Option (Padding × Cursor) :=
  let found := cur.rest.takeWhile fun c => c == ' ' || (tabs && c == '\t')
  let padding : Padding := ⟨found.contains '\t', found.contains ' '⟩
  let after := cur.passSpace found.length
  if after.rest.head? != some '#' then some (padding, after)
  else if found.isEmpty then none
  else some (padding, after.passToBreak)

/-- Passes spaces, tabs and a comment up to the end of the line, where nothing else may stand. -/
def passToLineEnd (cur : Cursor) : Option Cursor := do
  let (_, after) ← cur.passPadding true
  if atLineEnd after.rest then return after else none

/-! ### Gaps within a scalar -/

/-- The spaces, tabs and line breaks that come next: the spaces and tabs that stand before the first
break, the number of breaks, and the place after them. `atTab` passes a tab that starts a line left
of `indent`. -/
def gap (atTab : Cursor → Option Cursor) (indent : Int) :
    Nat → Cursor → Option (List Char × Nat × Cursor)
  | 0, cur => some ([], 0, cur)
  | fuel + 1, cur =>
    match cur.rest with
    | [] => some ([], 0, cur)
    | c :: _ =>
      if isSpace c then
        if !cur.isLeading then do
          let (blanks, breaks, after) ← gap atTab indent fuel (cur.passSpace 1)
          return (c :: blanks, breaks, after)
        else if c = '\t' ∧ cur.column < indent then do
          gap atTab indent fuel (← atTab cur)
        else gap atTab indent fuel (cur.passSpace 1)
      else if isBreak c then do
        let (_, breaks, after) ← gap atTab indent fuel cur.passBreak
        return ([], breaks + 1, after)
      else some ([], 0, cur)

/-- What a gap stands for: itself within a line, a space for one break, and otherwise one break less
than there are. -/
def folded (blanks : List Char) (breaks : Nat) : List Char :=
  match breaks with
  | 0 => blanks
  | 1 => [' ']
  | n + 1 => List.replicate n '\n'

end Cursor

end ShieldPolicy.Yaml
