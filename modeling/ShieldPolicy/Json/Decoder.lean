import ShieldPolicy.Integer64
import ShieldPolicy.Json.Reader
import ShieldPolicy.Path

/-!
# Decoding JSON into records

A decoder says what is expected of a JSON value and what is made of it. It has two faces: one takes
a value at hand, the other reads a text and fails at a place in it. Both are built together, so that
each shape is described once.

A record is an object with known members or a list of its fields in order, of which those that need
not be present may be left out at the end.
-/

namespace ShieldPolicy.Json

structure Decoder (α : Type) where
  ofValue : Json → Except Fault α
  /-- Reads a text in which so many levels may still be opened. -/
  ofText : Nat → Reader α

namespace Decoder

def decode {α : Type} (d : Decoder α) (j : Json) : Except Error α :=
  (d.ofValue j).mapError fun fault => ⟨fault, none⟩

def parse {α : Type} (d : Decoder α) (text : String) : Except Error α :=
  Reader.run (d.ofText levelBound) text

def map {α β : Type} (f : α → β) (d : Decoder α) : Decoder β where
  ofValue j := (d.ofValue j).map f
  ofText levels := f <$> d.ofText levels

def any : Decoder Json where
  ofValue := .ok
  ofText := Reader.value

/-- Reads what starts with a character that passes the test; anything else is a mismatch. -/
def expecting {α : Type} (expected : String) (starts : Char → Bool) (read : Char → Reader α) :
    Reader α := do
  match ← Reader.peekSolid with
  | none => Reader.failAhead .endInValue
  | some ch => if starts ch then Reader.placed (read ch) else Reader.mismatch expected

def textNamed (expected : String) : Decoder String where
  ofValue
    | .text s => .ok s
    | j => .error (.wrongType j.found expected)
  ofText _ := expecting expected (· == '"') fun _ => do
    Reader.advance
    Reader.text

def text : Decoder String := textNamed "a string"

def path : Decoder Path := (textNamed "path string").map Path.mk

def bool : Decoder Bool where
  ofValue
    | .bool b => .ok b
    | j => .error (.wrongType j.found "a boolean")
  ofText _ := expecting "a boolean" (fun ch => ch == 't' || ch == 'f') fun ch => do
    Reader.advance
    if ch = 't' then Reader.word ['r', 'u', 'e'] else Reader.word ['a', 'l', 's', 'e']
    return ch == 't'

def integer : Decoder Int where
  ofValue
    | .number n => ofNumber n
    | j => .error (.wrongType j.found "i64")
  ofText _ := expecting "i64" (fun ch => ch == '-' || ch.isDigit) fun ch => do
    if ch = '-' then Reader.advance
    match ofNumber (← Reader.unsignedNumber (ch == '-')) with
    | .ok i => return i
    | .error fault => Reader.failUnplaced fault
where
  ofNumber (n : Number) : Except Fault Int :=
    match n.integer? with
    | some i => if Integer64.fits i then .ok i else .error (.wrongType n.found "i64")
    | none => .error (.wrongType n.found "i64")

def optional {α : Type} (d : Decoder α) : Decoder (Option α) where
  ofValue
    | .null => .ok none
    | j => (d.ofValue j).map some
  ofText levels := do
    match ← Reader.peekSolid with
    | some 'n' =>
      Reader.advance
      Reader.word ['u', 'l', 'l']
      return none
    | _ => some <$> d.ofText levels

def list {α : Type} (d : Decoder α) : Decoder (List α) where
  ofValue
    | .array items => items.mapM d.ofValue
    | j => .error (.wrongType j.found "a sequence")
  ofText levels := expecting "a sequence" (· == '[') fun _ =>
    Reader.opened
      (fun inner => Reader.closedBy (Reader.items (d.ofText inner)) Reader.listEnd) levels

def members {α : Type} (d : Decoder α) : Decoder (List (String × α)) where
  ofValue
    | .object members => members.mapM fun (key, j) => return (key, ← d.ofValue j)
    | j => .error (.wrongType j.found "a map")
  ofText levels := expecting "a map" (· == '\x7b') fun _ =>
    Reader.opened (fun inner =>
      Reader.closedBy
        (Reader.members (fun key read => do
          Reader.colon
          return insertMember key (← d.ofText inner) read) [])
        Reader.objectEnd) levels

/-! ### Records -/

structure Field (ρ : Type) where
  name : String
  isRequired : Bool
  /-- What is expected of the field, and how it is put into the record. -/
  decoder : Decoder (ρ → ρ)

def Field.required {ρ α : Type} (name : String) (d : Decoder α) (put : α → ρ → ρ) : Field ρ :=
  ⟨name, true, d.map put⟩

def Field.defaulted {ρ α : Type} (name : String) (d : Decoder α) (put : α → ρ → ρ) : Field ρ :=
  ⟨name, false, d.map put⟩

def recordName (name : String) : String := "struct " ++ name

def recordLength {ρ : Type} (name : String) (fields : List (Field ρ)) : String :=
  recordName name ++ " with " ++ toString fields.length ++
    (if fields.length = 1 then " element" else " elements")

def missing? {ρ : Type} (fields : List (Field ρ)) (present : List String) : Option String :=
  (fields.find? fun f => f.isRequired && !present.contains f.name).map Field.name

/-- Takes the members of an object into a record, `other` those that are no field. -/
def ofMembers {ρ : Type} (fields : List (Field ρ)) (other : String → Json → ρ → ρ) (blank : ρ)
    (members : List (String × Json)) : Except Fault ρ := do
  let r ← members.foldlM (fun r (key, j) =>
    match fields.find? fun f => f.name == key with
    | some f => return (← f.decoder.ofValue j) r
    | none => return other key j r) blank
  match missing? fields (members.map Prod.fst) with
  | some name => .error (.missingField name)
  | none => .ok r

/-- Takes items into the fields in order and answers what is left of them. `count` fields came
before. -/
def ofItems {ρ : Type} (expected : String) : Nat → List (Field ρ) → List Json → ρ →
    Except Fault (ρ × List Json)
  | _, [], rest, r => .ok (r, rest)
  | count, f :: fields, j :: rest, r => do
    let put ← f.decoder.ofValue j
    ofItems expected (count + 1) fields rest (put r)
  | count, f :: fields, [], r =>
    if f.isRequired then .error (.wrongLength count expected)
    else ofItems expected (count + 1) fields [] r

/-- Reads the members of an object into a record. Each field may come once; `other` reads what is no
field. -/
def readMembers {ρ : Type} (fields : List (Field ρ)) (other : String → ρ → Reader ρ) (blank : ρ)
    (levels : Nat) : Reader ρ := do
  let (r, present) ← Reader.members (fun key (r, present) =>
    match fields.find? fun f => f.name == key with
    | some f =>
      if present.contains key then Reader.failUnplaced (.duplicateField key)
      else do
        Reader.colon
        let put ← f.decoder.ofText levels
        return (put r, key :: present)
    | none => do return (← other key r, present)) (blank, [])
  match missing? fields present with
  | some name => Reader.failUnplaced (.missingField name)
  | none => return r

def readItems {ρ : Type} (expected : String) (levels : Nat) : Nat → List (Field ρ) → ρ → Reader ρ
  | _, [], r => return r
  | count, f :: fields, r => do
    if ← Reader.anotherItem (count == 0) then
      let put ← f.decoder.ofText levels
      readItems expected levels (count + 1) fields (put r)
    else if f.isRequired then Reader.failUnplaced (.wrongLength count expected)
    else readItems expected levels (count + 1) fields r

/-- A record: an object, whose other members do not matter, or the list of the fields. -/
def record {ρ : Type} (name : String) (fields : List (Field ρ)) (blank : ρ) : Decoder ρ where
  ofValue
    | .object members => ofMembers fields (fun _ _ r => r) blank members
    | .array items => do
      let (r, rest) ← ofItems (recordLength name fields) 0 fields items blank
      if rest.isEmpty then .ok r
      else .error (.wrongLength items.length "fewer elements in array")
    | j => .error (.wrongType j.found (recordName name))
  ofText levels := expecting (recordName name) (fun ch => ch == '[' || ch == '\x7b') fun ch =>
    Reader.opened (fun inner =>
      if ch = '[' then
        Reader.closedBy (readItems (recordLength name fields) inner 0 fields blank) Reader.listEnd
      else
        Reader.closedBy
          (readMembers fields (fun _ r => do
            Reader.colon
            Reader.skipValue
            return r) blank inner)
          Reader.objectEnd) levels

/-- A record that also keeps its other members: an object only. -/
def openRecord {ρ : Type} (name : String) (fields : List (Field ρ))
    (other : String → Json → ρ → ρ) (blank : ρ) : Decoder ρ where
  ofValue
    | .object members => ofMembers fields other blank members
    | j => .error (.wrongType j.found (recordName name))
  ofText levels := expecting (recordName name) (· == '\x7b') fun _ =>
    Reader.opened (fun inner =>
      Reader.closedBy
        (readMembers fields (fun key r => do
          Reader.colon
          return other key (← Reader.value inner) r) blank inner)
        Reader.objectEnd) levels

end Decoder

end ShieldPolicy.Json
