import ShieldPolicy.Settings.Numeral
import ShieldPolicy.Settings.Yaml.Token

/-!
# Nodes of YAML files

A document is a tree of scalars, sequences and mappings. A node may be given a name, by which a
later node stands for the same.
-/

namespace ShieldPolicy.Yaml

open Text Text.Scan

/-! ### Nodes -/

/-- A node. A real number is kept as it is written. -/
inductive Node where
  | absent
  /-- A node that is not what its tag says, or that does not stand yet. -/
  | invalid
  | flag (b : Bool)
  | integer (i : Int)
  | real (word : String)
  | text (s : String)
  | sequence (items : List Node)
  | mapping (members : List (Node × Node))
deriving Inhabited

namespace Node

mutual

/-- Whether two nodes are the same. Numbers are compared as they are written, unless both are
whole. -/
def same : Node → Node → Bool
  | .absent, .absent => true
  | .invalid, .invalid => true
  | .flag a, .flag b => a == b
  | .integer i, .integer j => i == j
  | .real v, .real w => v == w
  | .text s, .text t => s == t
  | .sequence xs, .sequence ys => sameItems xs ys
  | .mapping xs, .mapping ys => sameMembers xs ys
  | _, _ => false

def sameItems : List Node → List Node → Bool
  | [], [] => true
  | x :: xs, y :: ys => same x y && sameItems xs ys
  | _, _ => false

def sameMembers : List (Node × Node) → List (Node × Node) → Bool
  | [], [] => true
  | (k, x) :: xs, (l, y) :: ys => same k l && same x y && sameMembers xs ys
  | _, _ => false

end

def based? (base : Nat) (cs : List Char) : Option Int :=
  let (negative, digits) := match cs with
    | '-' :: rest => (true, rest)
    | '+' :: rest => (false, rest)
    | _ => (false, cs)
  if digits.isEmpty || !digits.all (fun c => isHexDigit c && digitValue c < base) then none
  else
    let n : Int := number base digits
    let i := if negative then -n else n
    if Integer64.fits i then some i else none

/-- The whole number that a plain scalar spells. A plus may stand before the sign. -/
def integer? (cs : List Char) : Option Int :=
  let marked := match cs with
    | '0' :: 'x' :: digits => based? 16 digits
    | '0' :: 'o' :: digits => based? 8 digits
    | '+' :: digits => based? 10 digits
    | _ => none
  marked <|> based? 10 cs

def unlimitedWords : List String :=
  [".inf", ".Inf", ".INF", "+.inf", "+.Inf", "+.INF", "-.inf", "-.Inf", "-.INF", ".nan", "NaN",
   ".NAN"]

def isReal (word : String) : Bool :=
  unlimitedWords.contains word ||
    (word.toList.any Char.isDigit && (Numeral.real? word.toList).isSome)

def ofPlain (word : String) : Node :=
  match integer? word.toList with
  | some i => .integer i
  | none =>
    if word = "" ∨ word = "~" ∨ word = "null" then .absent
    else if word = "true" then .flag true
    else if word = "false" then .flag false
    else if isReal word then .real word
    else .text word

/-- What starts the names of the types that all files share. -/
def coreTags : String := "tag:yaml.org,2002:"

def ofTyped (type word : String) : Node :=
  match type with
  | "bool" => if word = "true" then .flag true else if word = "false" then .flag false else .invalid
  | "int" => ((based? 10 word.toList).map Node.integer).getD .invalid
  | "float" => if isReal word then .real word else .invalid
  | "null" => if word = "~" ∨ word = "null" then .absent else .invalid
  | _ => .text word

def ofScalar (isPlain : Bool) (tag : Option (String × String)) (word : String) : Node :=
  if !isPlain then .text word
  else match tag with
    | none => ofPlain word
    | some (start, type) => if start = coreTags then ofTyped type word else .text word

/-- The mapping of keys and values in turn, none when a key occurs twice. An invalid node does not
serve as a key, so that the next one takes its place. -/
def ofPairs : Node → List (Node × Node) → List Node → Option Node
  | _, members, [] => some (.mapping members.reverse)
  | .invalid, members, n :: rest => ofPairs n members rest
  | key, members, n :: rest =>
    if members.any fun m => same m.1 key then none else ofPairs .invalid ((key, n) :: members) rest

end Node

/-! ### From tokens to nodes -/

structure Progress where
  rest : List Token
  /-- The names given so far, the latest first, each with the number of its node. -/
  names : List (String × Nat) := []
  nodes : List (Nat × Node) := []
  handles : List (String × String) := []

abbrev Reader := StateT Progress Option

namespace Reader

def peek : Reader (Option Token) := do return (← get).rest.head?

def pass : Reader Unit := modify fun p => { p with rest := p.rest.drop 1 }

def accept (token : Token) : Reader Bool := do
  if (← peek) == some token then
    pass
    return true
  return false

def isNext (tokens : List Token) : Reader Bool := do return (← peek).any tokens.contains

def tagStart (handle suffix : String) : Reader String := do
  let handles := (← get).handles
  if handle = "!!" then return (handles.lookup "!!").getD Node.coreTags
  if handle = "" ∧ suffix = "!" then return (handles.lookup "").getD ""
  match handles.lookup handle with
  | some start => return start
  | none => if 2 ≤ handle.length ∧ handle.endsWith "!" then failure else return handle

def tag : Reader (Option (String × String)) := do
  match ← peek with
  | some (.tag handle suffix) =>
    pass
    return some (← tagStart handle suffix, suffix)
  | _ => return none

def anchor : Reader (Option Nat) := do
  match ← peek with
  | some (.anchor name) =>
    let id := (← get).names.length
    modify fun p => { p with rest := p.rest.drop 1, names := (name, id) :: p.names }
    return some id
  | _ => return none

def properties : Reader (Option Nat × Option (String × String)) := do
  match ← anchor with
  | some id => return (some id, ← tag)
  | none =>
    let found ← tag
    if found.isSome then return (← anchor, found) else return (none, none)

/-- The node that a name stands for. Within itself it is invalid. -/
def named (name : String) : Reader Node := do
  let p ← get
  match p.names.lookup name with
  | some id => return (p.nodes.lookup id).getD .invalid
  | none => failure

/-- A key or a value that is left out where one of the given tokens comes next. -/
def orAbsent (tokens : List Token) (read : Reader Node) : Reader Node := do
  if ← isNext tokens then return .absent else read

/-- What starts or ends a member of a mapping by indent. -/
def memberMarks : List Token := [.key, .value, .blockEnd]

def valueOf (ends : List Token) (read : Reader Node) : Reader Node := do
  if ← accept .value then orAbsent ends read else return .absent

def blockItems (node : Reader Node) : Nat → Reader (List Node)
  | 0 => failure
  | fuel + 1 => do
    if ← accept .blockEnd then return []
    if !(← accept .blockEntry) then failure
    let item ← orAbsent [.blockEntry, .blockEnd] node
    return item :: (← blockItems node fuel)

/-- The items of a sequence that is not further in than the key before it. -/
def looseItems (node : Reader Node) : Nat → Reader (List Node)
  | 0 => failure
  | fuel + 1 => do
    if !(← accept .blockEntry) then return []
    let item ← orAbsent (.blockEntry :: memberMarks) node
    return item :: (← looseItems node fuel)

def blockPairs (node : Reader Node) : Nat → Reader (List Node)
  | 0 => failure
  | fuel + 1 => do
    if ← accept .blockEnd then return []
    let key ← if ← accept .key then orAbsent memberMarks node
      else if ← isNext [.value] then pure .absent
      else failure
    let value ← valueOf memberMarks node
    return key :: value :: (← blockPairs node fuel)

/-- The single member of a mapping without braces after the mark of its key. -/
def flowPair (node : Reader Node) : Reader Node := do
  let key ←
    if ← isNext [.value, .flowEntry, .flowSequenceEnd] then do
      pass
      pure .absent
    else node
  let value ← valueOf [.flowEntry, .flowSequenceEnd] node
  match Node.ofPairs .invalid [] [key, value] with
  | some pair => return pair
  | none => failure

def flowItems (node : Reader Node) : Nat → Bool → Reader (List Node)
  | 0, _ => failure
  | fuel + 1, first => do
    if ← accept .flowSequenceEnd then return []
    if !first then
      if !(← accept .flowEntry) then failure
      if ← accept .flowSequenceEnd then return []
    let item ← if ← accept .key then flowPair node else node
    return item :: (← flowItems node fuel false)

def flowPairs (node : Reader Node) : Nat → Bool → Reader (List Node)
  | 0, _ => failure
  | fuel + 1, first => do
    if ← accept .flowMappingEnd then return []
    if !first then
      if !(← accept .flowEntry) then failure
      if ← accept .flowMappingEnd then return []
    let ends : List Token := [.flowEntry, .flowMappingEnd]
    let (key, value) ←
      if ← accept .key then do
        let key ← orAbsent (.value :: ends) node
        pure (key, ← valueOf ends node)
      else if ← isNext [.value] then do pure (.absent, ← valueOf ends node)
      else do pure (← node, .absent)
    return key :: value :: (← flowPairs node fuel false)

def mappingOf (read : Reader (List Node)) : Reader Node := do
  match Node.ofPairs .invalid [] (← read) with
  | some n => return n
  | none => failure

/-- A node after its properties, given how the nodes within it are read. `inBlock` says whether
indentation means something, `loose` whether items may stand as far in as the key. -/
def content (inBlock loose : Bool) (hasProperty : Bool) (tag : Option (String × String))
    (blockNode memberNode flowNode : Reader Node) (fuel : Nat) : Reader Node := do
  match ← peek with
  | some (.scalar isPlain word) => do
    pass
    return .ofScalar isPlain tag word
  | some .flowSequenceStart => do
    pass
    return .sequence (← flowItems flowNode fuel true)
  | some .flowMappingStart => do
    pass
    mappingOf (flowPairs flowNode fuel true)
  | some .blockEntry =>
    if loose then return .sequence (← looseItems blockNode fuel) else empty
  | some .blockSequenceStart => do
    if !inBlock then empty else
    pass
    return .sequence (← blockItems blockNode fuel)
  | some .blockMappingStart => do
    if !inBlock then empty else
    pass
    mappingOf (blockPairs memberNode fuel)
  | _ => empty
where
  empty : Reader Node :=
    if hasProperty then return .ofScalar true tag "" else failure

def node (inBlock loose : Bool) : Nat → Reader Node
  | 0 => failure
  | levels + 1 => do
    match ← peek with
    | some (.alias name) => do
      pass
      named name
    | _ =>
      let (id, tag) ← properties
      let n ← content inBlock loose (id.isSome || tag.isSome) tag (node true false levels)
        (node true true levels) (node false false levels) ((← get).rest.length + 1)
      match id with
      | some id => modify fun p => { p with nodes := (id, n) :: p.nodes }
      | none => pure ()
      return n

/-! ### Documents -/

/-- Passes the directives that come next. The handles of the last one count. -/
def directives : Nat → Bool → Reader Unit
  | 0, _ => failure
  | fuel + 1, hasVersion => do
    match ← peek with
    | some .versionDirective =>
      if hasVersion then failure
      modify fun p => { p with rest := p.rest.drop 1, handles := [] }
      directives fuel true
    | some (.tagDirective handle start) =>
      modify fun p => { p with rest := p.rest.drop 1, handles := [(handle, start)] }
      directives fuel hasVersion
    | _ => return ()

def document (fuel : Nat) : Reader Node := do
  let isMarked := (← peek).any fun t => t.isDirective || t == .documentStart
  if !isMarked then return ← node true false fuel
  directives fuel false
  if !(← accept .documentStart) then failure
  match ← peek with
  | none => return .absent
  | some t =>
    if t.isDirective || t == .documentStart || t == .documentEnd then return .absent
    else node true false fuel

def ends : Reader Unit :=
  modify fun p => { p with rest := p.rest.dropWhile (· == .documentEnd) }

/-- The one document of a file, or none if there is no document. -/
def file (fuel : Nat) : Reader (Option Node) := do
  ends
  if (← peek).isNone then return none
  let n ← document fuel
  ends
  if (← peek).isSome then failure
  return some n

end Reader

/-- The document of some tokens: none when they are malformed, and `some none` when there is no
document. -/
def Node.ofTokens? (tokens : List Token) : Option (Option Node) :=
  ((Reader.file (tokens.length + 1)).run { rest := tokens }).map Prod.fst

end ShieldPolicy.Yaml
