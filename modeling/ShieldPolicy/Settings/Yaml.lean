import ShieldPolicy.Settings.Yaml.Layout
import ShieldPolicy.Settings.Yaml.Node

/-!
# YAML files

A file holds one document at most. What stands after a null character is no part of it.
-/

namespace ShieldPolicy.Yaml

namespace Node

def key? : Node → Option String
  | .text s => some s
  | .integer i => some (toString i)
  | _ => none

mutual

/-- The data that a node holds. Of real numbers only those that are written as elsewhere stand. -/
def data? : Node → Option Data
  | .absent | .invalid => some .absent
  | .flag b => some (.flag b)
  | .integer i => some (.integer i)
  | .real word => (Numeral.real? word.toList).map Data.real
  | .text s => some (.text s)
  | .sequence items => do return .list (← itemData? items)
  | .mapping members => do return .ofMembers (← memberData? members)

def itemData? : List Node → Option (List Data)
  | [] => some []
  | n :: rest => do return (← data? n) :: (← itemData? rest)

def memberData? : List (Node × Node) → Option (List (String × Data))
  | [] => some []
  | (k, n) :: rest => do
    let others ← memberData? rest
    match k.key? with
    | some key => return (key, ← data? n) :: others
    | none => return others

end

end Node

def parse? (file : String) : Option Data := do
  match ← Node.ofTokens? (← tokens? (file.toList.takeWhile (· ≠ '\x00'))) with
  | none => return .table []
  | some n => n.data?

end ShieldPolicy.Yaml
