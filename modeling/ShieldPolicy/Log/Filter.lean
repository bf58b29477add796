import ShieldPolicy.Log.Pattern
import ShieldPolicy.Log.Record
import ShieldPolicy.Provider
import ShieldPolicy.Text.Lowercase

/-!
# Log filters

A filter is a list of directives, each of which sets the least level for the targets that start with
a given text. Of the directives for a record the one with the longest target decides. A directive is
written `level`, `target`, `target=level` or with the name of a span in brackets; a record is never
inside a span.
-/

namespace ShieldPolicy.Log

/-- The least level that passes, none for no level at all. -/
abbrev Threshold := Option Level

def Threshold.admits (t : Threshold) (level : Level) : Bool :=
  match t with
  | some least => level.rank ≤ least.rank
  | none => false

structure Directive where
  target : Option String := none
  fields : List String := []
  inSpan : Bool := false
  threshold : Threshold := some .trace
deriving DecidableEq

inductive DirectiveError where
  | malformed
  | unknownLevel
  /-- A field is asked to have a value that is none. -/
  | badValue (e : PatternError)
deriving DecidableEq

def DirectiveError.message : DirectiveError → String
  | .malformed => "invalid filter directive"
  | .badValue e => "invalid field filter: " ++ e.message
  | .unknownLevel =>
    "error parsing level filter: expected one of \"off\", \"error\", \"warn\", \"info\", " ++
      "\"debug\", \"trace\", or a number 0-5"

def thresholds : List Threshold :=
  [none, some .error, some .warn, some .info, some .debug, some .trace]

def Threshold.name : Threshold → String
  | none => "off"
  | some level => String.ofList (level.name.toList.map Char.toLower)

def threshold? (cs : List Char) : Option Threshold :=
  match Provider.boundedNumber? 6 cs with
  | some n => thresholds[n]?
  | none =>
    if cs.isEmpty then some (some .error)
    else thresholds.find? fun t => t.name.toList == cs.map Char.toLower

namespace Directive

/-- The threshold at the end of a directive, where nothing stands for the least one. A comma may
end it. -/
def thresholdOf (cs : List Char) : Except DirectiveError Threshold := do
  let word := cs.takeWhile (· ≠ ',')
  let t ← if word.isEmpty then pure (some .trace)
    else match threshold? word with
      | some t => pure t
      | none => throw .unknownLevel
  if (cs.drop (word.length + 1)).isEmpty then return t else throw .malformed

def afterSpan (d : Directive) : List Char → List Char → Except DirectiveError Directive
  | [], _ => .ok d
  | '=' :: _, raw => do return { d with threshold := ← thresholdOf (raw.drop 1) }
  | _, _ => .error .malformed

def fieldName (field : List Char) : Except DirectiveError String :=
  let name := field.takeWhile (· ≠ '=')
  let value := (field.drop (name.length + 1)).takeWhile (· ≠ '=')
  if field.isEmpty then .error .malformed
  else if field.length = name.length then .ok (String.ofList name)
  else match valueFault? value with
    | some e => .error (.badValue e)
    | none => .ok (String.ofList name)

/-- The part of a directive from the inside of the brackets on. `cs` is what is read and `raw` what
the parts are cut from. -/
def span (d : Directive) (cs raw : List Char) : Except DirectiveError Directive :=
  let name := cs.takeWhile fun c => c ≠ ']' ∧ c ≠ '\x7b'
  match cs.drop name.length with
  | ']' :: rest => afterSpan { d with inSpan := true } rest (raw.drop (name.length + 1))
  | _ :: rest =>
    let inner := rest.takeWhile (· ≠ '\x7d')
    let fields := Text.splitOn ',' ((raw.drop (name.length + 1)).take inner.length)
    match (if inner.length < rest.length then fields else fields.dropLast).mapM fieldName with
    | .error e => .error e
    | .ok names => match rest.drop inner.length with
      | '\x7d' :: ']' :: after =>
        afterSpan
          { d with
            inSpan := !name.isEmpty || fields.any (·.contains '=')
            fields := names }
          after (raw.drop (name.length + inner.length + 3))
      | _ => .error .malformed
  | [] => .error .malformed

/-- The word of a directive that has neither level nor brackets: a level or a target. -/
def levelOrTarget (raw : List Char) : Directive :=
  if raw.isEmpty then {}
  else match threshold? raw with
    | some threshold => { threshold }
    | none => { target := some (String.ofList raw) }

/-- Reads a directive. Blanks around it are passed over, but the parts are cut from the text with
its blanks. -/
def parse (text : String) : Except DirectiveError Directive :=
  let raw := text.toList
  match Text.trimChars raw with
  | [] => .error .malformed
  | '[' :: rest => span {} rest (raw.drop 1)
  | c :: rest =>
    if !(c == '-' || c == ':' || c == '_' || Text.isAlphanumeric c) then .error .malformed
    else
      let word := c :: rest.takeWhile fun c => c ≠ '=' ∧ c ≠ '[' ∧ c ≠ ','
      let target := some (String.ofList (raw.take word.length))
      match (c :: rest).drop word.length with
      | [] => .ok (levelOrTarget raw)
      | '=' :: _ => do
        return { target, threshold := ← thresholdOf (raw.drop (word.length + 1)) }
      | '[' :: after => span { target } after (raw.drop (word.length + 1))
      | _ :: after => if after.isEmpty then .ok (levelOrTarget raw) else .error .malformed

def covers (d : Directive) (r : Record) : Bool :=
  !d.inSpan && d.target.all (fun t => t.toList.isPrefixOf r.target.toList) &&
    d.fields.all fun name => name == "message" || (r.fields.lookup name).isSome

def weight (d : Directive) : Nat × Nat :=
  (match d.target with
    | none => 0
    | some t => t.utf8ByteSize + 1, d.fields.length)

/-- Whether the second directive goes before the first, which came earlier. Where they are as
particular, the names of the fields decide. -/
def yields (a b : Directive) : Bool :=
  if a.weight.1 ≠ b.weight.1 then a.weight.1 < b.weight.1
  else if a.weight.2 ≠ b.weight.2 then a.weight.2 < b.weight.2
  else !(b.fields.lex a.fields fun name other => decide (name < other))

end Directive

/-- The directives in force, the later ones last. -/
structure Filter where
  directives : List Directive := []
deriving DecidableEq

namespace Filter

def deciding? (f : Filter) (r : Record) : Option Directive :=
  (f.directives.filter (·.covers r)).foldl (fun best d =>
    match best with
    | none => some d
    | some b => some (if b.yields d then d else b)) none

def admits (f : Filter) (r : Record) : Bool :=
  match f.deciding? r with
  | some d => d.threshold.admits r.level
  | none => false

def parts (text : String) : List String :=
  ((Text.splitOn ',' text.toList).filter fun part => !part.isEmpty).map String.ofList

/-- The filter that a text describes, if each of its parts is a directive. Without any, nothing
passes. -/
def parse (text : String) : Except DirectiveError Filter := do
  return ⟨← (parts text).mapM Directive.parse⟩

/-- The filter of the parts that are directives, and the words about each other part. Without any
directive errors pass. -/
def parseLenient (text : String) : Filter × List String :=
  let read := (parts text).map fun part => (part, Directive.parse part)
  let directives := read.filterMap fun (_, d) => d.toOption
  let complaints := read.filterMap fun (part, d) =>
    match d with
    | .ok _ => none
    | .error e => some ("ignoring `" ++ part ++ "`: " ++ e.message)
  (⟨if directives.isEmpty then [{ threshold := some .error }] else directives⟩, complaints)

def add (f : Filter) (d : Directive) : Filter := ⟨f.directives ++ [d]⟩

end Filter

end ShieldPolicy.Log
