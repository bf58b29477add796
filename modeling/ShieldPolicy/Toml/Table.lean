import ShieldPolicy.Settings.Data

/-!
# TOML: tables under construction

A table is defined piece by piece, by headers and by keys with dots. What is defined once must not
be defined again: a header opens a table once, keys with dots extend only tables that such keys
made, and a value is never extended.
-/

namespace ShieldPolicy.Toml

/-- What a key stands for while a document is read. -/
inductive Node where
  | value (d : Data)
  /-- A table. It is implicit until a header names it; `dotted` says that keys with dots made it. -/
  | table (implicit dotted : Bool) (members : List (String × Node))
  /-- The tables of an array, the last one open. -/
  | tables (closed : List Node) (last : Node)
deriving Inhabited

namespace Node

def root : Node := .table false false []

def implied (dotted : Bool) : Node := .table true dotted []

def withMember (table : Node) (key : String) (member : Node) : Node :=
  match table with
  | .table implicit dotted members =>
    .table implicit dotted (Json.insertMember key member members)
  | n => n

def member? (table : Node) (key : String) : Option Node :=
  match table with
  | .table _ _ members => members.lookup key
  | _ => none

/-- Changes the table that keys lead to. Tables on the way are made where there are none; of an
array the last table is taken. -/
def change? (dotted : Bool) (f : Node → Option Node) : List String → Node → Option Node
  | [], n => f n
  | key :: rest, n => do
    match n.member? key with
    | none =>
      let made ← change? dotted f rest (implied dotted)
      return n.withMember key made
    | some (.value _) => none
    | some (.tables closed last) =>
      let changed ← change? dotted f rest last
      return n.withMember key (.tables closed changed)
    | some (.table implicit isDotted members) =>
      if dotted && !implicit then none
      else
        let changed ← change? dotted f rest (.table implicit isDotted members)
        return n.withMember key changed

def openTable? (keys : List String) (root : Node) : Option Node := do
  let last ← keys.getLast?
  root.change? false (fun n =>
    match n.member? last with
    | none => some (n.withMember last (.table false false []))
    | some (.table true false members) => some (n.withMember last (.table false false members))
    | some _ => none) keys.dropLast

def openItem? (keys : List String) (root : Node) : Option Node := do
  let last ← keys.getLast?
  root.change? false (fun n =>
    match n.member? last with
    | none => some (n.withMember last (.tables [] (.table false false [])))
    | some (.tables closed previous) =>
      some (n.withMember last (.tables (closed ++ [previous]) (.table false false [])))
    | some _ => none) keys.dropLast

def define? (keys : List String) (d : Data) (table : Node) : Option Node := do
  let last ← keys.getLast?
  table.change? true (fun n =>
    match n with
    | .table _ dotted _ =>
      if dotted == keys.dropLast.isEmpty then none
      else match n.member? last with
        | none => some (n.withMember last (.value d))
        | some _ => none
    | _ => none) keys.dropLast

mutual

/-- What was built. -/
def data : Node → Data
  | .value d => d
  | .table _ _ members => .table (memberData members)
  | .tables closed last => .list (itemData closed ++ [data last])

def itemData : List Node → List Data
  | [] => []
  | n :: rest => data n :: itemData rest

def memberData : List (String × Node) → List (String × Data)
  | [] => []
  | (key, n) :: rest => (key, data n) :: memberData rest

end

end Node

end ShieldPolicy.Toml
