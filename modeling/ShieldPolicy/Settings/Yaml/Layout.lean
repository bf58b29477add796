import ShieldPolicy.Settings.Yaml.Property
import ShieldPolicy.Settings.Yaml.Scalar

/-!
# From text to tokens

Indentation opens and closes collections. A token may turn out to be a key only when the colon after
it is found; what that puts before the token is recorded with it.
-/

namespace ShieldPolicy.Yaml

/-- A token, and the tokens that a colon after it has put before it. -/
structure Slot where
  before : List Token := []
  token : Token

/-- A column that was left for one further in. Without a block it only keeps what comes next from
standing at that column. -/
structure Indent where
  outer : Int
  isBlock : Bool
deriving DecidableEq

/-- A token that a colon would make a key. -/
structure Candidate where
  slot : Nat
  index : Nat
  line : Nat
  column : Nat
  /-- Whether nothing but a key may stand there. -/
  isRequired : Bool

structure Layout where
  cursor : Cursor
  slots : Array Slot := #[]
  /-- The column of the collection that is being read, below zero outside of any. -/
  indent : Int := -1
  indents : List Indent := []
  allowsKey : Bool := true
  candidate : Option Candidate := none
  /-- The candidates outside of the brackets that are open, the nearest first. -/
  outerCandidates : List (Option Candidate) := []
  /-- Where a colon needs no gap after it, since what stands before it is in quotes or brackets. -/
  adjacent : Nat := 0
  hasBraces : Bool := false
  /-- Whether a mapping without braces is being read in brackets. -/
  isImplicit : Bool := false

namespace Layout

def inFlow (s : Layout) : Bool := !s.outerCandidates.isEmpty

def push (s : Layout) (token : Token) : Layout := { s with slots := s.slots.push { token } }

/-- Puts a token before the one of a candidate, and before what was put there earlier. -/
def insert (s : Layout) (c : Candidate) (token : Token) : Layout :=
  { s with
    slots := s.slots.modify c.slot fun slot => { slot with before := token :: slot.before } }

def goTo (s : Layout) (cursor : Cursor) : Layout := { s with cursor }

/-! ### Indentation -/

/-- Closes the collections further in than a column, given how many columns were left. -/
def leaveWithin (column : Int) : List Indent → Layout → Layout
  | [], s => s
  | i :: outer, s =>
    if column < s.indent then
      let s := { s with indent := i.outer, indents := outer }
      leaveWithin column outer (if i.isBlock then s.push .blockEnd else s)
    else s

/-- Closes the collections further in than a column. Brackets hold theirs open. -/
def leave (s : Layout) (column : Int) : Layout :=
  if s.inFlow then s else leaveWithin column s.indents s

def dropLoose : List Indent → Int → List Indent × Int
  | i :: outer, indent => if i.isBlock then (i :: outer, indent) else dropLoose outer i.outer
  | [], indent => ([], indent)

def tighten (s : Layout) : Layout :=
  let (indents, indent) := dropLoose s.indents s.indent
  { s with indents, indent }

def loosen (s : Layout) : Layout :=
  if !s.inFlow && (s.indents.head?.any (·.isBlock)) then
    { s with indents := ⟨s.indent, false⟩ :: s.indents, indent := s.indent + 1 }
  else s

/-- Starts a collection at a column, unless one is being read there. The token that says so goes
before a candidate, or else to the end. -/
def enter (s : Layout) (column : Nat) (token : Token) (c : Option Candidate) : Layout :=
  if s.inFlow then s else
  let s := match s.indents with
    | i :: outer =>
      if s.indent ≤ (column : Int) ∧ !i.isBlock then
        { s with indent := i.outer, indents := outer }
      else s
    | [] => s
  if s.indent < (column : Int) then
    let s := { s with indents := ⟨s.indent, true⟩ :: s.indents, indent := column }
    match c with
    | some c => s.insert c token
    | none => s.push token
  else s

/-! ### Keys -/

def offer (s : Layout) : Layout :=
  if s.allowsKey then
    let isRequired := !s.inFlow && s.indent == (s.cursor.column : Int) &&
      s.indents.head?.any (·.isBlock)
    { s with
      candidate := some
        { slot := s.slots.size, index := s.cursor.index, line := s.cursor.line
          column := s.cursor.column, isRequired } }
  else s

/-- Gives the candidate up. It must not be one that has to be a key. -/
def withdraw (s : Layout) : Option Layout :=
  if s.candidate.any (·.isRequired) then none else some { s with candidate := none }

/-- Gives the candidate up outside brackets when its line is over or it is too far back. -/
def expire (s : Layout) : Option Layout :=
  let isOver := s.candidate.any fun c =>
    c.line < s.cursor.line || c.index + 1024 < s.cursor.index
  if !s.inFlow && isOver then s.withdraw else some s

/-! ### Blanks -/

/-- Passes blanks, comments and line breaks. After a line break a key may start. A tab must not take
the place of indentation. -/
def passBlanks (s : Layout) : Nat → Option Layout
  | 0 => some s
  | fuel + 1 =>
    match s.cursor.rest with
    | [] => some s
    | c :: _ =>
      if c = '\t' ∧ !s.indents.isEmpty ∧ s.cursor.isLeading ∧ s.cursor.column < s.indent then do
        (s.goTo (← s.cursor.passToLineEnd)).passBlanks fuel
      else if isSpace c then (s.goTo (s.cursor.passSpace 1)).passBlanks fuel
      else if isBreak c then
        { s with
          cursor := s.cursor.passBreak
          allowsKey := s.allowsKey || !s.inFlow : Layout }.passBlanks fuel
      else if c = '#' then (s.goTo s.cursor.passToBreak).passBlanks fuel
      else some s

def skip (s : Layout) : Option Layout := s.passBlanks (s.cursor.rest.length + 1)

def passKeyBlanks (s : Layout) : Nat → Bool → Option Layout
  | 0, _ => none
  | fuel + 1, found =>
    match s.cursor.rest with
    | [] => if found then some s else none
    | c :: _ =>
      if c = ' ' then (s.goTo (s.cursor.passSpace 1)).passKeyBlanks fuel true
      else if isBreak c then
        { s with
          cursor := s.cursor.passBreak
          allowsKey := s.allowsKey || !s.inFlow : Layout }.passKeyBlanks fuel true
      else if c = '#' then (s.goTo s.cursor.passToBreak).passKeyBlanks fuel found
      else if found && c ≠ '\t' then some s
      else none

/-! ### Tokens -/

def documentMark (s : Layout) (token : Token) : Option Layout := do
  let s ← (s.leave (-1)).withdraw
  return ({ s with allowsKey := false }.goTo (s.cursor.pass 3)).push token

/-- The end of a document, after which nothing may stand on its line. -/
def documentEnd (s : Layout) : Option Layout := do
  let s ← s.documentMark .documentEnd
  return s.goTo (← s.cursor.passToLineEnd)

def directive (s : Layout) : Option Layout := do
  let s ← (s.leave (-1)).withdraw
  let (token, after) ← Yaml.directive s.cursor
  return ({ s with allowsKey := false }.goTo after).push token

/-- A bracket or a brace that opens something, which may be a key. No more than 255 are open. -/
def openFlow (s : Layout) (token : Token) : Option Layout := do
  let s := s.offer.loosen
  if 255 ≤ s.outerCandidates.length then none
  let (_, after) ← (s.cursor.pass 1).passPadding true
  return { s with
    cursor := after
    candidate := none
    outerCandidates := s.candidate :: s.outerCandidates
    allowsKey := true
    hasBraces := s.hasBraces || token == .flowMappingStart : Layout }.push token

def closeImplicit (s : Layout) : Layout :=
  if s.isImplicit then
    { s with isImplicit := false, hasBraces := false : Layout }.push .flowMappingEnd
  else s

def closeFlow (s : Layout) (token : Token) : Option Layout := do
  let s ← s.withdraw
  let s := match s.outerCandidates with
    | candidate :: outerCandidates => { s with candidate, outerCandidates }
    | [] => s
  let s := { s with allowsKey := false : Layout }.closeImplicit
  let (_, after) ← (s.cursor.pass 1).passPadding true
  let s := if s.inFlow then { s with adjacent := after.index } else s
  return (s.goTo after).push token

def flowEntry (s : Layout) : Option Layout := do
  let s ← s.withdraw
  let s := { s with allowsKey := true : Layout }.closeImplicit
  let (_, after) ← (s.cursor.pass 1).passPadding true
  return (s.goTo after).push .flowEntry

/-- The dash before an item. A tab must not stand between two dashes. -/
def blockEntry (s : Layout) : Option Layout := do
  if s.inFlow || !s.allowsKey then none
  let (padding, after) ← (s.cursor.pass 1).passPadding true
  let s := s.enter s.cursor.column .blockSequenceStart none
  if padding.hasTab && after.rest.head? == some '-' && atGap (after.rest.drop 1) then none
  let s := s.goTo after
  let s := if after.rest.head?.any fun c => isBreak c || isFlowMark c then s.loosen else s
  let s ← s.withdraw
  return { s with allowsKey := true : Layout }.push .blockEntry

def keyMark (s : Layout) : Option Layout := do
  if !s.inFlow && !s.allowsKey then none
  let s := if s.inFlow then { s with hasBraces := true }
    else s.enter s.cursor.column .blockMappingStart none
  let s ← s.withdraw
  let s := ({ s with allowsKey := !s.inFlow }.goTo (s.cursor.pass 1))
  let s ← s.passKeyBlanks (s.cursor.rest.length + 1) false
  return s.push .key

/-- The place after a colon. A tab alone does not part it from what follows. -/
def afterColon (cur : Cursor) : Option Cursor := do
  let after := cur.pass 1
  if after.rest.head? != some '\t' then return after
  let (padding, final) ← after.passPadding true
  if !padding.hasSpace && final.rest.head?.any fun c => c == '-' || isWordChar c then none
  return final

/-- The colon after a key, which may have been left out. -/
def valueMark (s : Layout) : Option Layout := do
  let start := s.cursor
  let isImplicit := s.inFlow && !s.hasBraces
  let s := { s with isImplicit, cursor := (← afterColon start) }
  match s.candidate with
  | some c =>
    let s := s.insert c .key
    if isImplicit && c.line < start.line then none
    let s := if isImplicit then s.insert c .flowMappingStart else s
    let s := (s.enter c.column .blockMappingStart (some c)).loosen
    return { s with candidate := none, allowsKey := false : Layout }.push .value
  | none =>
    let s := if isImplicit then s.push .flowMappingStart else s
    if !s.inFlow && !s.allowsKey then none
    let s := (s.enter start.column .blockMappingStart none).loosen
    return { s with allowsKey := !s.inFlow : Layout }.push .value

def anchor (s : Layout) (token : String → Token) : Option Layout := do
  let s := s.offer
  let (name, after) ← anchorName s.cursor
  return ({ s with allowsKey := false }.goTo after).push (token name)

def tag (s : Layout) : Option Layout := do
  let s := s.offer
  let (token, after) ← Yaml.tag s.inFlow s.cursor
  return ({ s with allowsKey := false }.goTo after).push token

def block (s : Layout) (isLiteral : Bool) : Option Layout := do
  let s := s.offer.tighten
  let (text, after) ← blockScalar isLiteral s.indent (s.cursor.pass 1)
  return ({ s with allowsKey := true }.goTo after).push (.scalar false text)

def quoted (s : Layout) (quote : Char) : Option Layout := do
  let s := s.offer
  let (text, after) ← quotedScalar quote s.indent s.inFlow s.cursor
  let s := ({ s with allowsKey := false }.goTo after).push (.scalar false text)
  let s ← s.skip
  return { s with adjacent := s.cursor.index }

def plain (s : Layout) : Option Layout := do
  let s := s.offer.tighten
  let least := s.indent + 1
  if s.inFlow && s.cursor.column < least then none
  let (text, after) ← plainScalar s.inFlow least (s.cursor.rest.length + 1) s.cursor
  return ({ s with allowsKey := after.isLeading }.goTo after).push
    (.scalar true (String.ofList text))

def next (s : Layout) : Option Layout := do
  let c ← s.cursor.rest.head?
  let after := s.cursor.rest.drop 1
  if s.cursor.column = 0 ∧ c = '%' then return ← s.directive
  if s.cursor.atDocumentStart then return ← s.documentMark .documentStart
  if s.cursor.atDocumentEnd then return ← s.documentEnd
  if s.cursor.column < s.indent then none
  match c with
  | '[' => s.openFlow .flowSequenceStart
  | '\x7b' => s.openFlow .flowMappingStart
  | ']' => s.closeFlow .flowSequenceEnd
  | '\x7d' => s.closeFlow .flowMappingEnd
  | ',' => s.flowEntry
  | '*' => s.anchor .alias
  | '&' => s.anchor .anchor
  | '!' => s.tag
  | '\'' | '"' => s.quoted c
  | '-' => if atGap after then s.blockEntry else s.plain
  | '?' => if atGap after then s.keyMark else s.plain
  | ':' =>
    if atGap after ||
      (s.inFlow && (after.head?.any isFlowMark || s.cursor.index == s.adjacent)) then s.valueMark
    else s.plain
  | '|' => if s.inFlow then s.plain else s.block true
  | '>' => if s.inFlow then s.plain else s.block false
  | '%' | '@' | '\x60' => none
  | _ => s.plain

/-- Takes in all tokens that are left. At the end no token may still have to be a key. -/
def read : Nat → Layout → Option Layout
  | 0, _ => none
  | fuel + 1, s => do
    let s ← (← s.skip).expire
    let s := s.leave s.cursor.column
    if s.cursor.rest.isEmpty then
      if s.candidate.any (·.isRequired) then none else return s.leave (-1)
    else read fuel (← s.next)

end Layout

def tokens? (file : List Char) : Option (List Token) := do
  let s ← Layout.read (file.length + 2) { cursor := { rest := file } }
  return s.slots.toList.flatMap fun slot => slot.before ++ [slot.token]

end ShieldPolicy.Yaml
