import ShieldPolicy.Settings.Numeral
import ShieldPolicy.Text.Alphanumeric
import ShieldPolicy.Text.Blank

/-!
# Patterns for values

A filter may ask that a field of a span have a value that matches a pattern. What the pattern
matches does not matter here, since no record is inside a span; whether it is one does. Braces do
not occur in it, because a closing one ends the field.
-/

namespace ShieldPolicy.Log

open Text Text.Scan

inductive PatternError where
  | malformed
  | wordBoundary
deriving DecidableEq

def PatternError.message : PatternError → String
  | .malformed => "error building NFA"
  | .wordBoundary =>
    "unsupported regex feature for DFAs: cannot build DFAs for regexes with Unicode word " ++
      "boundaries; switch to ASCII word boundaries, or heuristically enable Unicode word " ++
      "boundaries or use a different regex engine"

namespace Pattern

structure Progress where
  rest : List Char
  /-- Whether blanks and comments mean nothing. -/
  isVerbose : Bool := false
  /-- Whether characters of every script are meant, and not single bytes. -/
  isUnicode : Bool := true
  hasBoundary : Bool := false
  names : List (List Char) := []

abbrev Reader := StateT Progress Option

def rest : Reader (List Char) := do return (← get).rest

def pass (n : Nat) : Reader Unit := modify fun p => { p with rest := p.rest.drop n }

def dropSpace : Nat → List Char → List Char
  | 0, cs => cs
  | fuel + 1, cs =>
    match dropBlank cs with
    | '#' :: after => dropSpace fuel (after.dropWhile (· ≠ '\n'))
    | other => other

def significant (cs : List Char) : Reader (List Char) := do
  return if (← get).isVerbose then dropSpace (cs.length + 1) cs else cs

def skip : Reader Unit := do
  let cs ← significant (← rest)
  modify fun p => { p with rest := cs }

def next : Reader Char := do
  match ← rest with
  | c :: _ =>
    pass 1
    return c
  | [] => failure

def needUnicode : Reader Unit := do
  if !(← get).isUnicode then failure

/-! ### Escapes -/

inductive Item where
  | literal (c : Char)
  | set
  | assertion

def hexDigits : Nat → Reader (List Char)
  | 0 => return []
  | n + 1 => do
    skip
    let c ← next
    if !isHexDigit c then failure
    return c :: (← hexDigits n)

def coded (digits : Nat) : Reader Item := do
  match charOf? (number 16 (← hexDigits digits)) with
  | some c =>
    if digits = 2 ∧ 0x80 ≤ c.toNat then needUnicode
    return .literal c
  | none => failure

/-- The characters of a general category of one letter. -/
def category : Reader Item := do
  needUnicode
  skip
  if ['c', 'l', 'm', 'n', 'p', 's', 'z'].contains (← next).toLower then return .set else failure

def boundary : Reader Item := do
  modify fun p => { p with hasBoundary := p.hasBoundary || p.isUnicode }
  return .assertion

def escape : Reader Item := do
  match ← next with
  | 'x' => coded 2
  | 'u' => coded 4
  | 'U' => coded 8
  | 'p' | 'P' => category
  | 'd' | 's' | 'w' => return .set
  | 'D' | 'S' | 'W' =>
    needUnicode
    return .set
  | 'a' => return .literal '\x07'
  | 'f' => return .literal '\x0c'
  | 't' => return .literal '\t'
  | 'n' => return .literal '\n'
  | 'r' => return .literal '\r'
  | 'v' => return .literal '\x0b'
  | 'A' | 'z' => return .assertion
  | 'b' | 'B' | '<' | '>' => boundary
  | c => if c.toNat < 0x80 && !c.isAlphanum then return .literal c else failure

/-! ### Sets of characters -/

def setNames : List String :=
  ["alnum", "alpha", "ascii", "blank", "cntrl", "digit", "graph", "lower", "print", "punct",
   "space", "upper", "word", "xdigit"]

/-- The number of characters of a named set within brackets, if one comes next, and whether it is
negated. -/
def namedSet? (cs : List Char) : Option (Nat × Bool) := do
  let inner ← dropStart? ['[', ':'] cs
  let (isNegated, body) := match inner with
    | '^' :: more => (true, more)
    | _ => (false, inner)
  let name := body.takeWhile (· ≠ ':')
  let _ ← dropStart? [':', ']'] (body.drop name.length)
  if setNames.contains (String.ofList name) then
    return (name.length + (if isNegated then 5 else 4), isNegated)
  else none

/-- The start of a set: its bracket, the mark of a negated one, and the dashes and the bracket that
stand for themselves there. -/
def openSet : Reader Unit := do
  pass 1
  skip
  if (← rest).head? == some '^' then
    needUnicode
    pass 1
    skip
  let cs ← rest
  let dashes := (cs.takeWhile (· == '-')).length
  pass dashes
  skip
  if dashes = 0 ∧ cs.head? = some ']' then pass 1

def setItem : Reader Item := do
  match ← next with
  | '\\' =>
    match ← escape with
    | .assertion => failure
    | item => return item
  | c =>
    if 0x80 ≤ c.toNat then needUnicode
    return .literal c

def setRange : Reader Unit := do
  let first ← setItem
  skip
  match ← rest with
  | [] => failure
  | '-' :: after =>
    let beyond := (← significant after).head?
    if beyond == some ']' || beyond == some '-' then return ()
    pass 1
    skip
    match first, ← setItem with
    | .literal a, .literal b => if b < a then failure
    | _, _ => failure
  | _ => return ()

def setRest : Nat → Nat → Reader Unit
  | 0, _ => failure
  | fuel + 1, depth => do
    skip
    let cs ← rest
    match cs with
    | [] => failure
    | '[' :: _ =>
      match namedSet? cs with
      | some (length, isNegated) =>
        if isNegated then needUnicode
        pass length
        setRest fuel depth
      | none =>
        openSet
        setRest fuel (depth + 1)
    | ']' :: _ =>
      pass 1
      if 1 < depth then setRest fuel (depth - 1)
    | '&' :: '&' :: _ | '-' :: '-' :: _ | '~' :: '~' :: _ =>
      pass 2
      setRest fuel depth
    | _ =>
      setRange
      setRest fuel depth

/-! ### Groups -/

def isNameChar (c : Char) : Bool :=
  c == '_' || c == '.' || c == '[' || c == ']' || isAlphanumeric c

def groupName : Reader Unit := do
  let name := (← rest).takeWhile (· ≠ '>')
  let names := (← get).names
  let startsWell := name.head?.any fun c => c == '_' || isAlphabetic c
  if !startsWell || !name.all isNameChar || names.contains name then failure
  pass name.length
  if (← next) != '>' then failure
  modify fun p => { p with names := name :: p.names }

/-- Flags that are switched on, or off after a dash: each letter once, and none missing after the
dash. -/
def flags : Reader (List Char) := do
  let letters := (← rest).takeWhile fun c => c ≠ ':' ∧ c ≠ ')'
  let isKnown := letters.all ['i', 'm', 's', 'U', 'u', 'R', 'x', '-'].contains
  if !isKnown || !letters.Nodup || letters.getLast? == some '-' then failure
  pass letters.length
  return letters

def switch (letters : List Char) : Reader Unit :=
  modify fun p =>
    let on := letters.takeWhile (· ≠ '-')
    let set (flag : Char) (now : Bool) : Bool :=
      if on.contains flag then true else if letters.contains flag then false else now
    { p with isVerbose := set 'x' p.isVerbose, isUnicode := set 'u' p.isUnicode }

/-- What comes after the bracket of a group: `true` if it is the start of the group's pattern, and
`false` if flags were switched for what follows. -/
def openGroup : Reader Bool := do
  skip
  match ← rest with
  | '?' :: 'P' :: '<' :: _ =>
    pass 3
    groupName
    return true
  | '?' :: '<' :: c :: _ =>
    if c = '=' ∨ c = '!' then failure
    pass 2
    groupName
    return true
  | '?' :: _ =>
    pass 1
    let letters ← flags
    let last ← next
    if last = ')' ∧ letters.isEmpty then failure
    switch letters
    return last == ':'
  | _ => return true

/-- What is left of a pattern, or of a group up to its bracket. `repeats` says whether something
comes before that can be repeated. -/
def sequence (inGroup : Bool) : Nat → Bool → Reader Unit
  | 0, _ => failure
  | fuel + 1, repeats => do
    skip
    match ← rest with
    | [] => if inGroup then failure
    | c :: _ =>
      match c with
      | ')' => if inGroup then pass 1 else failure
      | '|' => do
        pass 1
        sequence inGroup fuel false
      | '(' => do
        let before ← get
        pass 1
        let isGroup ← openGroup
        if isGroup then
          sequence true fuel false
          modify fun p =>
            { p with isVerbose := before.isVerbose, isUnicode := before.isUnicode }
        sequence inGroup fuel isGroup
      | '[' => do
        openSet
        setRest fuel 1
        sequence inGroup fuel true
      | '?' | '*' | '+' => do
        if !repeats then failure
        pass 1
        if (← rest).head? == some '?' then pass 1
        sequence inGroup fuel true
      | '\x7b' => failure
      | '\\' => do
        pass 1
        let _ ← escape
        sequence inGroup fuel true
      | '.' => do
        needUnicode
        pass 1
        sequence inGroup fuel true
      | _ => do
        pass 1
        sequence inGroup fuel true

end Pattern

def patternFault? (text : List Char) : Option PatternError :=
  match (Pattern.sequence false (text.length + 1) false).run { rest := text } with
  | none => some .malformed
  | some (_, p) => if p.hasBoundary then some .wordBoundary else none

/-- What is wrong with the value that a field is asked to have: a flag, a number or a pattern. -/
def valueFault? (text : List Char) : Option PatternError :=
  if (Numeral.real? text).isSome then none else patternFault? text

end ShieldPolicy.Log
