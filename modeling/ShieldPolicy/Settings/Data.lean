import ShieldPolicy.Integer64
import ShieldPolicy.Json

/-!
# Data of settings files

Whatever its format, a settings file holds data of one form.
-/

namespace ShieldPolicy

inductive Data where
  | absent
  | flag (b : Bool)
  | integer (i : Int)
  | real (x : Binary64)
  | text (s : String)
  | list (items : List Data)
  | table (members : List (String × Data))
deriving Inhabited

namespace Data

def ofMembers (members : List (String × Data)) : Data :=
  .table (members.foldl (fun acc m => Json.insertMember m.1 m.2 acc) [])

/-- A number of a JSON text. A natural number of more than 63 bits becomes a real one. -/
def ofNumber : Json.Number → Data
  | .natural n => if n < Integer64.signedLimit then .integer n else .real (Binary64.ofNat false n)
  | .negative n => .integer (-(n : Int))
  | .real x => .real x

mutual

def ofJson : Json → Data
  | .null => .absent
  | .bool b => .flag b
  | .number n => ofNumber n
  | .text s => .text s
  | .array items => .list (ofItems items)
  | .object members => .table (ofObject members)

def ofItems : List Json → List Data
  | [] => []
  | j :: rest => ofJson j :: ofItems rest

def ofObject : List (String × Json) → List (String × Data)
  | [] => []
  | (key, j) :: rest => (key, ofJson j) :: ofObject rest

end

def describe : Data → String
  | .absent => "unit value"
  | .flag b => "boolean `" ++ toString b ++ "`"
  | .integer i => "64-bit integer `" ++ toString i ++ "`"
  | .real x => "floating point `" ++ x.write .plain ++ "`"
  | .text s => "string " ++ Text.quoted s
  | .list _ => "sequence"
  | .table _ => "map"

end Data

end ShieldPolicy
