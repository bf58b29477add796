import ShieldPolicy.Path

/-!
# Locations

A location is a place in the directory tree: the names that lead to it from the root. `Path.locate?`
reads a path lexically, without looking at any file, and `Location.relative?` leads from one
location to another.
-/

namespace ShieldPolicy

/-- The names that lead from the root to a place. -/
abbrev Location := List String

namespace Location

def path (l : Location) : Path := ⟨"/" ++ Text.joinTexts "/" l⟩

def step? (l : Location) : Path.Component → Option Location
  | .root => some []
  | .current => some l
  | .parent => if l.isEmpty then none else some l.dropLast
  | .name text => some (l ++ [text])

def walk? (l : Location) : List Path.Component → Option Location
  | [] => some l
  | c :: rest => (l.step? c).bind fun next => next.walk? rest

def commonLength {α : Type} [DecidableEq α] : List α → List α → Nat
  | a :: as, b :: bs => if a = b then commonLength as bs + 1 else 0
  | _, _ => 0

def components (l : Location) : List Path.Component := .root :: l.map .name

def checkedSub? (a b : Nat) : Option Nat := if b ≤ a then some (a - b) else none

/-- The steps from `base` to `target`: up to the last component that they share, then down by name.
None when they share no component, or a step is no text. -/
def relative? (base target : Location) : Option (List String) :=
  let shared := commonLength base.components target.components
  if shared = 0 then none
  else do
    let up ← checkedSub? base.components.length shared
    let down ← (target.components.drop shared).mapM Path.Component.text?
    some (List.replicate up ".." ++ down)

end Location

namespace Path

/-- The names read so far, nearest first, and their number. None once a `..` has climbed above the
root. -/
def locateStep (read : Option (List String × Nat)) (c : Component) : Option (List String × Nat) :=
  read.bind fun (names, depth) => match c with
    | .root | .current => some (names, depth)
    | .parent => if depth = 0 then none else some (names.tail, depth - 1)
    | .name text => some (text :: names, depth + 1)

/-- The place an absolute path names when no link is followed. `none` when a `..` climbs above
the root. -/
def locate? (p : Path) : Option Location :=
  (p.components.foldl locateStep (some ([], 0))).map fun read => read.1.reverse

def portable (p : Path) : Path :=
  ⟨String.ofList (p.text.toList.map fun c => if c = '\\' then '/' else c)⟩

end Path

end ShieldPolicy
