import ShieldPolicy.Text.Split

/-!
# Paths

A path is kept as it was written: joining appends text and never simplifies it. Comparison and the
parts of a path go by components, for which doubled and trailing separators and inner `.` vanish
while `..` stays.
-/

namespace ShieldPolicy

structure Path where
  text : String
deriving DecidableEq, Inhabited

namespace Path

inductive Component where
  | root
  | current
  | parent
  | name (text : String)
deriving DecidableEq

namespace Component

def text : Component → String
  | .root => "/"
  | .current => "."
  | .parent => ".."
  | .name text => text

def text? (c : Component) : Option String := String.fromUTF8? c.text.toUTF8

end Component

def isAbsolute (p : Path) : Bool := p.text.toList.head? == some '/'

def isEmpty (p : Path) : Bool := p.text.isEmpty

def pieces (p : Path) : List (List Char) :=
  (Text.splitOn '/' p.text.toList).filter fun piece => !piece.isEmpty

def Component.ofPiece (piece : List Char) : Component :=
  if piece = ['.', '.'] then .parent else .name (String.ofList piece)

/-- The steps of the path. A `.` counts only at the very start of a relative path. -/
def components (p : Path) : List Component :=
  let body (pieces : List (List Char)) :=
    (pieces.filter fun piece => piece != ['.']).map Component.ofPiece
  if p.isAbsolute then .root :: body p.pieces
  else if p.pieces.head? = some ['.'] then .current :: body p.pieces
  else body p.pieces

/-- The path reached from `base` by `p`: an absolute `p` stands for itself. -/
def join (base p : Path) : Path :=
  if p.isAbsolute then p
  else if base.isEmpty || base.text.toList.getLast? == some '/' then ⟨base.text ++ p.text⟩
  else ⟨base.text ++ "/" ++ p.text⟩

def anchoredAt (base p : Path) : Path := if p.isAbsolute then p else base.join p

def dropIdle (pieces : List (List Char)) : List (List Char) :=
  (pieces.reverse.dropWhile fun piece => piece.isEmpty || piece == ['.']).reverse

/-- The path without its last component, none for the root and the empty path. What is left keeps
the text it was written with. -/
def parent? (p : Path) : Option Path :=
  let cs := p.text.toList
  if p.isAbsolute then
    match dropIdle (Text.splitOn '/' (cs.drop 1)) with
    | [] => none
    | body => some ⟨String.ofList ('/' :: Text.joinWith '/' (dropIdle body.dropLast))⟩
  else
    match Text.splitOn '/' cs with
    | ['.'] :: rest =>
      match dropIdle rest with
      | [] => some ⟨""⟩
      | body =>
        match dropIdle body.dropLast with
        | [] => some ⟨"."⟩
        | left => some ⟨String.ofList ('.' :: '/' :: Text.joinWith '/' left)⟩
    | all =>
      match dropIdle all with
      | [] => none
      | body => some ⟨String.ofList (Text.joinWith '/' (dropIdle body.dropLast))⟩

/-- A parent is written with fewer characters than a bound on the path's own length; the bound
makes the climb below finite. -/
def ancestorsWithin : Nat → Path → List Path
  | 0, p => [p]
  | n + 1, p => p :: match p.parent? with
    | none => []
    | some up => ancestorsWithin n up

def ancestors (p : Path) : List Path := ancestorsWithin (p.text.length + 1) p

def fileName? (p : Path) : Option String :=
  match p.components.getLast? with
  | some (.name text) => some text
  | _ => none

/-- What follows the last dot of the file name, if something stands before that dot. -/
def fileExtension? (p : Path) : Option String := do
  let name ← p.fileName?
  match Text.splitOn '.' name.toList with
  | [] | [_] => none
  | [[], _] => none
  | parts => parts.getLast?.map String.ofList

def hasNul (p : Path) : Bool := p.text.toList.contains '\x00'

end Path

end ShieldPolicy
