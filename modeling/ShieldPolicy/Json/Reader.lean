import ShieldPolicy.Json.Scalar

/-!
# Reading a JSON text: values

`value` reads a value of bounded nesting. `skipValue` passes over a value whose content does not
matter: it knows no bound on the nesting and checks no number's range.
-/

namespace ShieldPolicy.Json

namespace Reader

/-! ### Containers -/

def anotherItem (first : Bool) : Reader Bool := do
  match ← peekSolid with
  | none => failAhead .endInList
  | some ']' => return false
  | some ch =>
    if first then return true
    else if ch = ',' then
      advance
      match ← peekSolid with
      | some ']' => failAhead .trailingComma
      | some _ => return true
      | none => failAhead .endInValue
    else failAhead .expectedItemEnd

def anotherMember (first : Bool) : Reader Bool := do
  match ← peekSolid with
  | none => failAhead .endInObject
  | some '\x7d' => return false
  | some ch =>
    if first then
      if ch = '"' then return true else failAhead .keyIsNoText
    else if ch = ',' then
      advance
      match ← peekSolid with
      | some '"' => return true
      | some '\x7d' => failAhead .trailingComma
      | some _ => failAhead .keyIsNoText
      | none => failAhead .endInValue
    else failAhead .expectedMemberEnd

def listEnd : Reader Unit := do
  match ← peekSolid with
  | some ']' => advance
  | some ',' =>
    advance
    match ← peekSolid with
    | some ']' => failAhead .trailingComma
    | _ => failAhead .trailingCharacters
  | some _ => failAhead .trailingCharacters
  | none => failAhead .endInList

def objectEnd : Reader Unit := do
  match ← peekSolid with
  | some '\x7d' => advance
  | some ',' => failAhead .trailingComma
  | some _ => failAhead .trailingCharacters
  | none => failAhead .endInObject

def colon : Reader Unit := do
  match ← peekSolid with
  | some ':' => advance
  | some _ => failAhead .expectedColon
  | none => failAhead .endInObject

def itemsWithin {α : Type} (item : Reader α) : Nat → Bool → Reader (List α)
  | 0, _ => failHere .endInList
  | fuel + 1, first => do
    if ← anotherItem first then
      let a ← item
      let rest ← itemsWithin item fuel false
      return a :: rest
    else return []

/-- The items of a list. Each item is at least one character long. -/
def items {α : Type} (item : Reader α) : Reader (List α) := do
  itemsWithin item ((← get).rest.length + 1) true

def membersWithin {σ : Type} (member : String → σ → Reader σ) : Nat → Bool → σ → Reader σ
  | 0, _, _ => failHere .endInObject
  | fuel + 1, first, s => do
    if ← anotherMember first then
      advance
      let key ← text
      let next ← member key s
      membersWithin member fuel false next
    else return s

/-- Takes the members of an object one after the other; `member` starts at the colon. -/
def members {σ : Type} (member : String → σ → Reader σ) (s : σ) : Reader σ := do
  membersWithin member ((← get).rest.length + 1) true s

def opened {α : Type} (inside : Nat → Reader α) : Nat → Reader α
  | 0 => failAhead .tooDeep
  | levels + 1 => do
    advance
    inside levels

/-! ### Values -/

/-- A value that holds no other, whose first character is `ch`; none for a bracket or any other
character. -/
def scalar? (ch : Char) : Option (Reader Json) :=
  if ch = 'n' then some do advance; word ['u', 'l', 'l']; return .null
  else if ch = 't' then some do advance; word ['r', 'u', 'e']; return .bool true
  else if ch = 'f' then some do advance; word ['a', 'l', 's', 'e']; return .bool false
  else if ch = '-' then some do advance; return .number (← unsignedNumber true)
  else if ch.isDigit then some do return .number (← unsignedNumber false)
  else if ch = '"' then some do advance; return .text (← text)
  else none

def valueWith (list object : Reader Json) : Reader Json := do
  match ← peekSolid with
  | none => failAhead .endInValue
  | some ch =>
    match scalar? ch with
    | some read => placed read
    | none =>
      if ch = '[' then placed (closedBy list listEnd)
      else if ch = '\x7b' then placed (closedBy object objectEnd)
      else failAhead .expectedValue

/-- A value in which so many levels may be opened. -/
def value : Nat → Reader Json
  | 0 => valueWith (failAhead .tooDeep) (failAhead .tooDeep)
  | levels + 1 =>
    valueWith
      (do advance; return .array (← items (value levels)))
      (do
        advance
        return .object (← members (fun key read => do
          colon
          return insertMember key (← value levels) read) []))

/-! ### Values that are passed over -/

def closing (isObject : Bool) : Char := if isObject then '\x7d' else ']'

def skipKey : Reader Unit := do
  match ← peekSolid with
  | some '"' =>
    advance
    skipText
    colon
  | some _ => failAhead .keyIsNoText
  | none => failAhead .endInObject

/-- Passes over values. With `due`, a value comes next; otherwise one was just passed when
`filled`, or a container just opened. The containers that are open stand nearest first, `true` for
an object. -/
def skipWithin : Nat → (due filled : Bool) → List Bool → Reader Unit
  | 0, _, _, _ => failHere .endInValue
  | fuel + 1, true, _, frames => do
    match ← peekSolid with
    | none => failAhead .endInValue
    | some ch =>
      if ch = '[' ∨ ch = '\x7b' then
        advance
        skipWithin fuel false false ((ch = '\x7b') :: frames)
      else if ch = '-' then
        advance
        skipUnsignedNumber
        skipWithin fuel false true frames
      else if ch.isDigit then
        skipUnsignedNumber
        skipWithin fuel false true frames
      else if ch = '"' then
        advance
        skipText
        skipWithin fuel false true frames
      else match scalar? ch with
        | some word =>
          discard word
          skipWithin fuel false true frames
        | none => failAhead .expectedValue
  | _ + 1, false, _, [] => return ()
  | fuel + 1, false, filled, isObject :: frames => do
    match ← peekSolid with
    | none => failAhead (if isObject then .endInObject else .endInList)
    | some ch =>
      if ch = ',' ∧ filled then
        advance
        if isObject then skipKey
        skipWithin fuel true false (isObject :: frames)
      else if ch = closing isObject then
        advance
        skipWithin fuel false true frames
      else if filled then failAhead (if isObject then .expectedMemberEnd else .expectedItemEnd)
      else
        if isObject then skipKey
        skipWithin fuel true false (isObject :: frames)

/-- Passes over a value. Every second step at least moves the cursor. -/
def skipValue : Reader Unit := do skipWithin (2 * (← get).rest.length + 2) true false []

/-! ### Whole texts -/

/-- What is found where something else was expected, and the fault that says so. Scalars are read
before, containers are left untouched. -/
def mismatch {α : Type} (expected : String) : Reader α := do
  match ← peek with
  | none => failAhead .expectedValue
  | some ch =>
    match scalar? ch with
    | some read =>
      let j ← read
      failHere (.wrongType j.found expected)
    | none =>
      if ch = '[' then failHere (.wrongType .sequence expected)
      else if ch = '\x7b' then failHere (.wrongType .map expected)
      else failAhead .expectedValue

def textEnd : Reader Unit := do
  match ← peekSolid with
  | some _ => failAhead .trailingCharacters
  | none => return ()

def run {α : Type} (reader : Reader α) (text : String) : Except Error α :=
  let whole : Reader α := do
    let a ← reader
    textEnd
    return a
  (whole (Cursor.start text)).1

end Reader

def levelBound : Nat := 127

def parse (text : String) : Except Error Json := Reader.run (Reader.value levelBound) text

end ShieldPolicy.Json
