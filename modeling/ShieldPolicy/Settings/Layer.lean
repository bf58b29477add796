import ShieldPolicy.Settings.Data
import ShieldPolicy.Settings.Numeral
import ShieldPolicy.Text.Lowercase

/-!
# Layers of settings

Settings come in layers. A layer is put on top of what is there: its tables are merged into the
tables of the same key, and anything else takes the place of what had its key. Keys are compared in
lower case. Each value remembers the layer that it came from.
-/

namespace ShieldPolicy

/-- A value and the layer that it came from; merged tables come from no single layer. -/
inductive Setting where
  | absent (origin : Option String)
  | flag (origin : Option String) (b : Bool)
  | integer (origin : Option String) (i : Int)
  | real (origin : Option String) (x : Binary64)
  | text (origin : Option String) (s : String)
  | list (origin : Option String) (items : List Setting)
  | table (origin : Option String) (members : List (String × Setting))
deriving Inhabited

namespace Setting

mutual

def ofData (origin : Option String) : Data → Setting
  | .absent => .absent origin
  | .flag b => .flag origin b
  | .integer i => .integer origin i
  | .real x => .real origin x
  | .text s => .text origin s
  | .list items => .list origin (ofItems origin items)
  | .table members => .table origin (ofMembers origin members)

def ofItems (origin : Option String) : List Data → List Setting
  | [] => []
  | d :: rest => ofData origin d :: ofItems origin rest

def ofMembers (origin : Option String) : List (String × Data) → List (String × Setting)
  | [] => []
  | (key, d) :: rest => (key, ofData origin d) :: ofMembers origin rest

end

def origin : Setting → Option String
  | .absent o | .flag o _ | .integer o _ | .real o _ | .text o _ | .list o _ | .table o _ => o

def empty : Setting := .table none []

def asTable : Setting → Setting
  | .table o members => .table o members
  | _ => empty

def member? : Setting → String → Option Setting
  | .table _ members, key => members.lookup key
  | _, _ => none

/-- A table with a member put in its place; anything else becomes a table first. -/
def withMember (root : Setting) (key : String) (value : Setting) : Setting :=
  match root with
  | .table o members => .table o (Json.insertMember key value members)
  | _ => .table none [(key, value)]

mutual

def put (key : String) : Setting → Setting → Setting
  | .table _ members, root =>
    let name := Text.lowercase key
    root.withMember name (putAll members ((root.member? name).getD empty))
  | value, root => root.withMember (Text.lowercase key) value

def putAll : List (String × Setting) → Setting → Setting
  | [], root => root
  | (key, value) :: rest, root => putAll rest (put key value root)

end

end Setting

/-! ### Keys that are paths -/

/-- A key that leads through tables and lists. An index below zero counts from the end. -/
inductive KeyPath where
  | name (key : String)
  | child (parent : KeyPath) (key : String)
  | item (parent : KeyPath) (index : Int)
deriving DecidableEq, Inhabited

namespace KeyPath

def isNameChar (c : Char) : Bool :=
  ('a' ≤ c && c ≤ 'z') || ('A' ≤ c && c ≤ 'Z') || c.isDigit || c == ' ' || c == '_' || c == '-'

def index? (cs : List Char) : Option Int :=
  let isSpace (c : Char) : Bool := c == ' ' || c == '\t'
  let body := (cs.dropWhile isSpace).reverse.dropWhile isSpace |>.reverse
  if body.head? == some '+' then none else Numeral.integer? body

/-- Reads what follows a path: names after dots and indices in brackets. -/
def extend? : Nat → KeyPath → List Char → Option KeyPath
  | _, p, [] => some p
  | 0, _, _ => none
  | fuel + 1, p, '.' :: rest =>
    let name := rest.takeWhile isNameChar
    if name.isEmpty then none
    else extend? fuel (.child p (Text.lowercase (String.ofList name))) (rest.drop name.length)
  | fuel + 1, p, '[' :: rest =>
    let inner := rest.takeWhile (· ≠ ']')
    match index? inner, rest.drop inner.length with
    | some i, ']' :: after => extend? fuel (.item p i) after
    | _, _ => none
  | _, _, _ => none

/-- The path that a key spells, or the key itself as a name when it spells none. -/
def ofKey (key : String) : KeyPath :=
  let cs := key.toList
  let first := cs.takeWhile isNameChar
  let itself := name (Text.lowercase key)
  if first.isEmpty then itself
  else
    (extend? cs.length (.name (Text.lowercase (String.ofList first)))
      (cs.drop first.length)).getD itself

/-- The place that an index means in a list of so many items, none when it is before the first. -/
def place? (index : Int) (count : Nat) : Option Nat :=
  if 0 ≤ index then some index.toNat
  else if index.natAbs ≤ count then some (count - index.natAbs)
  else none

/-- The items of a list with one more changed; a list that is too short is filled up. -/
def changeItem (f : Setting → Setting) : Nat → List Setting → List Setting
  | 0, [] => [f (.absent none)]
  | 0, x :: rest => f x :: rest
  | n + 1, [] => .absent none :: changeItem f n []
  | n + 1, x :: rest => x :: changeItem f n rest

def changeAt (f : Setting → Setting) (index : Int) (items : List Setting) : List Setting :=
  match place? index items.length with
  | some n => changeItem f n items
  | none => items

def changeList (f : Setting → Setting) (index : Int) : Setting → Setting
  | .list o items => .list o (changeAt f index items)
  | _ => .list none (changeAt f index [])

/-- Changes what a path leads to. What is in the way becomes a table or a list. -/
def change : KeyPath → (Setting → Setting) → Setting → Setting
  | .name key, f, root => root.withMember key (f ((root.member? key).getD (.absent none)))
  | .child parent key, f, root =>
    parent.change
      (fun v => v.asTable.withMember key (f ((v.member? key).getD (.absent none)))) root
  | .item parent index, f, root => parent.change (changeList f index) root

def put (value : Setting) : KeyPath → Setting → Setting
  | .name key, root => Setting.put key value root
  | .child parent key, root => parent.change (fun v => Setting.put key value v.asTable) root
  | .item parent index, root => parent.change (changeList (fun _ => value) index) root

end KeyPath

def Setting.overlay (root : Setting) (layer : List (String × Setting)) : Setting :=
  layer.foldl (fun acc (key, value) => (KeyPath.ofKey key).put value acc) root

end ShieldPolicy
