import ShieldPolicy.Binary64.Shortest
import ShieldPolicy.Text.Quoted
import ShieldPolicy.Text.Split

/-!
# JSON values

Numbers keep the three forms that a text can give them. The members of an object stand in ascending
order of their keys, each key once.
-/

namespace ShieldPolicy

inductive Json.Number where
  /-- A whole number below `2 ^ 64` without sign. -/
  | natural (n : Nat)
  /-- The negative of a whole number from `1` to `2 ^ 63`. -/
  | negative (n : Nat)
  | real (x : Binary64)
deriving DecidableEq, Inhabited

inductive Json where
  | null
  | bool (b : Bool)
  | number (n : Json.Number)
  | text (s : String)
  | array (items : List Json)
  | object (members : List (String × Json))
deriving Inhabited

namespace Json

/-- Puts a member in its place; a later value for a key replaces the earlier one. -/
def insertMember {α : Type} (key : String) (value : α) : List (String × α) → List (String × α)
  | [] => [(key, value)]
  | (k, v) :: rest =>
    if key < k then (key, value) :: (k, v) :: rest
    else if key = k then (key, value) :: rest
    else (k, v) :: insertMember key value rest

def ofMembers (members : List (String × Json)) : Json :=
  .object (members.foldl (fun acc m => insertMember m.1 m.2 acc) [])

def get? : Json → String → Option Json
  | .object members, key => members.lookup key
  | _, _ => none

def text? : Json → Option String
  | .text s => some s
  | _ => none

def Number.integer? : Number → Option Int
  | .natural n => some n
  | .negative n => some (-(n : Int))
  | .real _ => none

/-- What stands in a place where something else was expected. -/
inductive Found where
  | null
  | boolean (b : Bool)
  | integer (i : Int)
  | real (x : Binary64)
  | text (s : String)
  | sequence
  | map
deriving DecidableEq

def Number.found : Number → Found
  | .natural n => .integer n
  | .negative n => .integer (-(n : Int))
  | .real x => .real x

def found : Json → Found
  | .null => .null
  | .bool b => .boolean b
  | .number n => n.found
  | .text s => .text s
  | .array _ => .sequence
  | .object _ => .map

def Found.describe : Found → String
  | .null => "null"
  | .boolean b => "boolean `" ++ toString b ++ "`"
  | .integer i => "integer `" ++ toString i ++ "`"
  | .real x => "floating point `" ++ x.write .json ++ "`"
  | .text s => "string " ++ Text.quoted s
  | .sequence => "sequence"
  | .map => "map"

inductive Fault where
  | endInValue
  | endInText
  | endInObject
  | endInList
  | expectedValue
  | expectedWord
  | expectedColon
  | expectedMemberEnd
  | expectedItemEnd
  | keyIsNoText
  | trailingComma
  | trailingCharacters
  | invalidNumber
  | numberOutOfRange
  | invalidEscape
  | loneSurrogate
  | unpairedSurrogate
  | controlCharacter
  | tooDeep
  | wrongType (found : Found) (expected : String)
  | missingField (name : String)
  | duplicateField (name : String)
  | wrongLength (length : Nat) (expected : String)
deriving DecidableEq

def Fault.message : Fault → String
  | .endInValue => "EOF while parsing a value"
  | .endInText => "EOF while parsing a string"
  | .endInObject => "EOF while parsing an object"
  | .endInList => "EOF while parsing a list"
  | .expectedValue => "expected value"
  | .expectedWord => "expected ident"
  | .expectedColon => "expected `:`"
  | .expectedMemberEnd => "expected `,` or `\x7d`"
  | .expectedItemEnd => "expected `,` or `]`"
  | .keyIsNoText => "key must be a string"
  | .trailingComma => "trailing comma"
  | .trailingCharacters => "trailing characters"
  | .invalidNumber => "invalid number"
  | .numberOutOfRange => "number out of range"
  | .invalidEscape => "invalid escape"
  | .loneSurrogate => "lone leading surrogate in hex escape"
  | .unpairedSurrogate => "unexpected end of hex escape"
  | .controlCharacter => "control character (\\u0000-\\u001F) found while parsing a string"
  | .tooDeep => "recursion limit exceeded"
  | .wrongType found expected => "invalid type: " ++ found.describe ++ ", expected " ++ expected
  | .missingField name => "missing field `" ++ name ++ "`"
  | .duplicateField name => "duplicate field `" ++ name ++ "`"
  | .wrongLength length expected =>
    "invalid length " ++ toString length ++ ", expected " ++ expected

/-- A place in a text: lines count from one, columns count the bytes before it on its line. -/
structure Position where
  line : Nat
  column : Nat
deriving DecidableEq

structure Error where
  fault : Fault
  position : Option Position := none
deriving DecidableEq

def Error.message (e : Error) : String :=
  match e.position with
  | none => e.fault.message
  | some p => e.fault.message ++ " at line " ++ toString p.line ++ " column " ++ toString p.column

end Json

end ShieldPolicy
