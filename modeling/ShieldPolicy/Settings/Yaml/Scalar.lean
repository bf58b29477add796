import ShieldPolicy.Settings.Yaml.Cursor

/-!
# Texts of YAML scalars

A scalar is written in quotes, plainly, or as a block of lines. In the first two forms a single line
break stands for a space; in a block it stands for itself unless the block is folded.
-/

namespace ShieldPolicy.Yaml

open Text Text.Scan

/-! ### In quotes -/

def escapeDigits (c : Char) : Nat :=
  match c with
  | 'x' => 2
  | 'u' => 4
  | 'U' => 8
  | _ => 0

def escaped? (c : Char) : Option Char :=
  match c with
  | '0' => some '\x00'
  | 'a' => some '\x07'
  | 'b' => some '\x08'
  | 't' | '\t' => some '\t'
  | 'n' => some '\n'
  | 'v' => some '\x0b'
  | 'f' => some '\x0c'
  | 'r' => some '\r'
  | 'e' => some '\x1b'
  | 'N' => some '\u0085'
  | '_' => some '\u00a0'
  | 'L' => some '\u2028'
  | 'P' => some '\u2029'
  | ' ' | '"' | '/' | '\\' => some c
  | _ => none

/-- The character of an escape and the number of characters that spell it, the backslash apart. -/
def escape? : List Char → Option (Char × Nat)
  | [] => none
  | c :: rest =>
    let count := escapeDigits c
    if count = 0 then (escaped? c).map fun d => (d, 1)
    else
      let digits := rest.take count
      if digits.length < count || !digits.all isHexDigit then none
      else (charOf? (number 16 digits)).map fun d => (d, count + 1)

def quotedWord (quote : Char) : Nat → Cursor → Option (List Char × Cursor)
  | 0, cur => some ([], cur)
  | fuel + 1, cur =>
    if atGap cur.rest then some ([], cur) else
    match cur.rest with
    | [] => some ([], cur)
    | c :: rest =>
      if c = quote then
        if c = '\'' ∧ rest.head? = some '\'' then do
          let (word, after) ← quotedWord quote fuel (cur.pass 2)
          return (c :: word, after)
        else some ([], cur)
      else if c = '\\' ∧ quote = '"' then
        if rest.head?.any isBreak then some ([], (cur.pass 1).passBreak)
        else do
          let (d, length) ← escape? rest
          let (word, after) ← quotedWord quote fuel (cur.pass (length + 1))
          return (d :: word, after)
      else do
        let (word, after) ← quotedWord quote fuel (cur.pass 1)
        return (c :: word, after)

/-- The text in quotes from here to the closing quote. A line must not start left of `indent`. -/
def quotedRest (quote : Char) (indent : Int) : Nat → Cursor → Option (List Char × Cursor)
  | 0, _ => none
  | fuel + 1, cur => do
    if cur.atDocumentStart || cur.atDocumentEnd || cur.rest.isEmpty || cur.column < indent then none
    let (word, after) ← quotedWord quote (cur.rest.length + 1) cur
    if after.rest.head? == some quote then return (word, after.pass 1)
    let (blanks, breaks, next) ← after.gap (fun _ => none) indent (after.rest.length + 1)
    let between := if after.isLeading then List.replicate breaks '\n'
      else Cursor.folded blanks breaks
    let (more, final) ← quotedRest quote indent fuel next
    return (word ++ between ++ more, final)

/-- A text in quotes. What may follow it on its line is a colon, or between brackets another mark;
outside brackets the colon has to be on the line where the text started. -/
def quotedScalar (quote : Char) (indent : Int) (inFlow : Bool) (cur : Cursor) :
    Option (String × Cursor) := do
  let (cs, after) ← quotedRest quote indent (cur.rest.length + 1) (cur.pass 1)
  let (_, final) ← after.passPadding true
  let mayFollow := match final.rest with
    | ':' :: _ => inFlow || cur.line == final.line
    | c :: _ => isBreak c || (inFlow && (c == ',' || c == '\x7d' || c == ']'))
    | [] => true
  if mayFollow then return (String.ofList cs, final) else none

/-! ### Plain -/

/-- The characters of a plain scalar up to a gap, a colon before a gap, or between brackets a mark
that means something there. -/
def plainWord (inFlow : Bool) : List Char → List Char
  | [] => []
  | c :: rest =>
    if isSpace c || isBreak c || (inFlow && isFlowMark c) then []
    else if c = ':' && (atGap rest || (inFlow && rest.head?.any isFlowMark)) then []
    else c :: plainWord inFlow rest

/-- The plain scalar from here on. Its lines must not start left of `indent`. -/
def plainScalar (inFlow : Bool) (indent : Int) : Nat → Cursor → Option (List Char × Cursor)
  | 0, _ => none
  | fuel + 1, cur => do
    if cur.atDocumentStart || cur.atDocumentEnd || cur.rest.head? == some '#' then
      return ([], cur)
    if inFlow && cur.rest.head? == some '-' && (cur.rest.drop 1).head?.any isFlowMark then none
    let word := plainWord inFlow cur.rest
    let after := cur.pass word.length
    if after.rest.isEmpty || !atGap after.rest then return (word, after)
    let (blanks, breaks, next) ← after.gap Cursor.passToLineEnd indent (after.rest.length + 1)
    if !inFlow && next.column < indent then return (word, next)
    let (more, final) ← plainScalar inFlow indent fuel next
    return (word ++ (if more.isEmpty then [] else Cursor.folded blanks breaks ++ more), final)

/-! ### Blocks of lines -/

/-- What becomes of the line breaks at the end of a block. -/
inductive Chomping where
  | strip
  | clip
  | keep
deriving DecidableEq

structure BlockHeader where
  isLiteral : Bool
  chomping : Chomping := .clip
  /-- How much further in its lines are, zero when the first line shows it. -/
  increment : Nat := 0

def chomping? (c : Char) : Option Chomping :=
  if c = '+' then some .keep else if c = '-' then some .strip else none

/-- The sign and the digit after the mark of a block, in either order, and how many there are. -/
def blockHeader (isLiteral : Bool) (cs : List Char) : Option (BlockHeader × Nat) :=
  let plain : BlockHeader := { isLiteral }
  match cs with
  | [] => some (plain, 0)
  | c :: rest =>
    match chomping? c with
    | some chomping =>
      match rest with
      | d :: _ =>
        if d = '0' then none
        else if d.isDigit then some ({ plain with chomping, increment := digitValue d }, 2)
        else some ({ plain with chomping }, 1)
      | [] => some ({ plain with chomping }, 1)
    | none =>
      if c = '0' then none
      else if c.isDigit then
        match rest.head?.bind chomping? with
        | some chomping => some ({ plain with chomping, increment := digitValue c }, 2)
        | none => some ({ plain with increment := digitValue c }, 1)
      else some (plain, 0)

/-- The place where a line of a block starts that is so far in, and the number of empty lines before
it. -/
def blockLine (indent : Nat) : Nat → Cursor → Nat × Cursor
  | 0, cur => (0, cur)
  | fuel + 1, cur =>
    let spaces := ((cur.rest.takeWhile (· == ' ')).take (indent - cur.column)).length
    let after := cur.passSpace spaces
    if after.rest.head?.any isBreak then
      let (breaks, final) := blockLine indent fuel after.passBreak
      (breaks + 1, final)
    else (0, after)

/-- How far in the first line of a block is, the lines with nothing but spaces before it included,
the number of those lines, and the place where the first line starts. -/
def firstBlockLine : Nat → Cursor → Nat × Nat × Cursor
  | 0, cur => (0, 0, cur)
  | fuel + 1, cur =>
    let after := cur.passSpace (cur.rest.takeWhile (· == ' ')).length
    if after.rest.head?.any isBreak then
      let (indent, breaks, final) := firstBlockLine fuel after.passBreak
      (max indent after.column, breaks + 1, final)
    else (after.column, 0, after)

structure BlockText where
  text : List Char := []
  /-- Whether a line break after the last line has not been written yet. -/
  hasBreak : Bool := false
  breaks : Nat := 0
  startsBlank : Bool := false

def BlockText.lastBreak (t : BlockText) : List Char := if t.hasBreak then ['\n'] else []

/-- The block with one more line. A folded block joins lines that both start with something. -/
def BlockText.add (t : BlockText) (isLiteral : Bool) (line : List Char) : BlockText :=
  let startsBlank := line.head?.any isSpace
  let gap :=
    if !isLiteral && t.hasBreak && !t.startsBlank && !startsBlank then
      if t.breaks = 0 then [' '] else List.replicate t.breaks '\n'
    else t.lastBreak ++ List.replicate t.breaks '\n'
  { text := t.text ++ gap ++ line, startsBlank }

def blockLines (isLiteral : Bool) (indent : Nat) : Nat → BlockText → Cursor → BlockText × Cursor
  | 0, t, cur => (t, cur)
  | fuel + 1, t, cur =>
    if cur.column ≠ indent || cur.rest.isEmpty || (indent = 0 && cur.atDocumentEnd) then (t, cur)
    else
      let (line, after) := cur.span (!isBreak ·)
      let t := t.add isLiteral line
      if after.rest.isEmpty then (t, after)
      else
        let next := after.passBreak
        let (breaks, start) := blockLine indent (next.rest.length + 1) next
        blockLines isLiteral indent fuel { t with hasBreak := true, breaks } start

/-- The text of a block that the file ends in before any line, given whether a line break follows
the header and how many empty lines come after that. -/
def emptyBlock (chomping : Chomping) (hasBreak : Bool) (breaks : Nat) : List Char :=
  match chomping, hasBreak with
  | .strip, _ | _, false => []
  | .clip, true => ['\n']
  | .keep, true => List.replicate (max 1 breaks) '\n'

/-- The end of a block as its chomping has it. When the file ends in the block without a line break,
one is added. -/
def BlockText.finish (t : BlockText) (chomping : Chomping) (indent : Nat) (cur : Cursor) :
    List Char :=
  let added := if cur.rest.isEmpty && max indent 1 ≤ cur.column then ['\n'] else []
  match chomping with
  | .strip => t.text
  | .clip => t.text ++ t.lastBreak ++ added
  | .keep => t.text ++ t.lastBreak ++ added ++ List.replicate t.breaks '\n'

def blockScalar (isLiteral : Bool) (outer : Int) (cur : Cursor) : Option (String × Cursor) := do
  let (header, length) ← blockHeader isLiteral cur.rest
  let lineEnd ← (cur.pass length).passToLineEnd
  let hasBreak := !lineEnd.rest.isEmpty
  let body := lineEnd.passBreak
  if body.rest.head? == some '\t' then none
  let fuel := body.rest.length + 1
  let (indent, breaks, start) :=
    if header.increment = 0 then
      let (found, breaks, start) := firstBlockLine fuel body
      let least := if 0 < outer then max 1 (outer + 1).toNat else (outer + 1).toNat
      (max found least, breaks, start)
    else
      let indent := (max outer 0).toNat + header.increment
      (indent, blockLine indent fuel body)
  if start.rest.isEmpty then
    return (String.ofList (emptyBlock header.chomping hasBreak breaks), start)
  if start.column < indent && outer < start.column then none
  let (t, final) := blockLines header.isLiteral indent fuel { breaks } start
  return (String.ofList (t.finish header.chomping indent final), final)

end ShieldPolicy.Yaml
