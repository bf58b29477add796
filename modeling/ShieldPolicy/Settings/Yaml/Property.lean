import ShieldPolicy.Settings.Yaml.Cursor
import ShieldPolicy.Settings.Yaml.Token

/-!
# Properties and directives of YAML files

Anchors, aliases and tags stand before nodes, directives before documents.
-/

namespace ShieldPolicy.Yaml

open Text Text.Scan

/-! ### Anchors -/

def isAnchorChar (c : Char) : Bool :=
  !isSpace c && !isBreak c && !isFlowMark c && c != '\ufeff'

def anchorName (cur : Cursor) : Option (String × Cursor) :=
  let (name, after) := (cur.pass 1).span isAnchorChar
  if name.isEmpty then none else some (String.ofList name, after)

/-! ### Tags -/

def isUriChar (c : Char) : Bool :=
  (isWordChar c && c != '_') || "#;/?:@&=+$,_.!~*'()[]%".toList.contains c

def isTagChar (c : Char) : Bool := isUriChar c && !isFlowMark c && c != '!'

/-- How many bytes the character has whose first byte this is. -/
def byteCount? (first : Nat) : Option Nat :=
  if first < 0x80 then some 1
  else if first < 0xC0 then none
  else if first < 0xE0 then some 2
  else if first < 0xF0 then some 3
  else if first < 0xF8 then some 4
  else none

/-- Bytes written as a percent sign and two digits, side by side in one number. -/
def escapedBytes : Nat → Nat → List Char → Option Nat
  | 0, code, _ => some code
  | count + 1, code, '%' :: a :: b :: rest =>
    let byte := number 16 [a, b]
    if isHexDigit a && isHexDigit b && byte / 0x40 == 2 then
      escapedBytes count (code * 0x100 + byte) rest
    else none
  | _, _, _ => none

/-- The character that an escape stands for, and the number of characters that spell it. The code of
a character of more than one byte is made of the bytes as they are. -/
def uriEscape? (cs : List Char) : Option (Char × Nat) :=
  match cs with
  | '%' :: a :: b :: rest => do
    if !isHexDigit a || !isHexDigit b then none
    let first := number 16 [a, b]
    let count ← byteCount? first
    let c ← charOf? (← escapedBytes (count - 1) first rest)
    return (c, 3 * count)
  | _ => none

def uriChars (p : Char → Bool) : Nat → Cursor → Option (List Char × Cursor)
  | 0, cur => some ([], cur)
  | fuel + 1, cur =>
    match cur.rest with
    | [] => some ([], cur)
    | c :: _ =>
      if !p c then some ([], cur)
      else do
        let (d, length) ← if c = '%' then uriEscape? cur.rest else pure (c, 1)
        let (more, after) ← uriChars p fuel (cur.pass length)
        return (d :: more, after)

def uri (p : Char → Bool) (cur : Cursor) : Option (List Char × Cursor) :=
  uriChars p (cur.rest.length + 1) cur

/-- A handle: an exclamation mark, or two with a word between them. In a tag the second may be
missing. -/
def tagHandle (inDirective : Bool) (cur : Cursor) : Option (List Char × Cursor) :=
  if cur.rest.head? != some '!' then none else
  let (word, after) := (cur.pass 1).span isWordChar
  if after.rest.head? == some '!' then some ('!' :: word ++ ['!'], after.pass 1)
  else if inDirective && !word.isEmpty then none
  else some ('!' :: word, after)

def tagParts (cur : Cursor) : Option (String × String × Cursor) :=
  match cur.rest with
  | '!' :: '<' :: _ => do
    let (address, after) ← uri isUriChar (cur.pass 2)
    if after.rest.head? == some '>' then return ("", String.ofList address, after.pass 1) else none
  | _ => do
    let (handle, after) ← tagHandle false cur
    let (suffix, final) ← uri isTagChar after
    if 2 ≤ handle.length && handle.getLast? == some '!' then
      if suffix.isEmpty then none
      return (String.ofList handle, String.ofList suffix, final)
    let suffix := handle.drop 1 ++ suffix
    return if suffix.isEmpty then ("", "!", final) else ("!", String.ofList suffix, final)

/-- A tag. A gap has to follow it, or between brackets a mark that means something there. -/
def tag (inFlow : Bool) (cur : Cursor) : Option (Token × Cursor) := do
  let (handle, suffix, after) ← tagParts cur
  if atGap after.rest || (inFlow && after.rest.head?.any isFlowMark) then
    return (.tag handle suffix, after)
  else none

/-! ### Directives -/

def versionNumber (cur : Cursor) : Option Cursor :=
  let (digits, after) := cur.span Char.isDigit
  if digits.isEmpty || 9 < digits.length then none else some after

def passSpaces (cur : Cursor) : Cursor := cur.passSpace (cur.rest.takeWhile isSpace).length

def version (cur : Cursor) : Option Cursor := do
  let after ← versionNumber (passSpaces cur)
  if after.rest.head? == some '.' then versionNumber (after.pass 1) else none

def tagDefinition (cur : Cursor) : Option (Token × Cursor) := do
  let (handle, after) ← tagHandle true (passSpaces cur)
  let start := passSpaces after
  let first ← start.rest.head?
  if first != '!' && !isTagChar first then none
  let (mark, next) := if first = '!' then (['!'], start.pass 1) else ([], start)
  let (address, final) ← uri isUriChar next
  if atGap final.rest then
    return (.tagDirective (String.ofList handle) (String.ofList (mark ++ address)), final)
  else none

/-- A directive and its line. One of an unknown name stands for nothing. -/
def directive (cur : Cursor) : Option (Token × Cursor) := do
  let (name, after) := (cur.pass 1).span isWordChar
  if name.isEmpty || !atGap after.rest then none
  let (t, final) ←
    if name = "YAML".toList then (version after).map fun final => (Token.versionDirective, final)
    else if name = "TAG".toList then tagDefinition after
    else some (.tagDirective "" "", after.passToBreak)
  return (t, (← final.passToLineEnd).passBreak)

end ShieldPolicy.Yaml
