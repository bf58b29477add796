import ShieldPolicy.CommandLine.Usage
import ShieldPolicy.Path

/-!
# Options on a command line

An option is named by `--name`. Its value is attached by `=`, or else it is the next argument, which
must not start with a dash unless it is a dash alone. Such a value is looked at only when the next
option is read or when all are: an argument that cannot be read at all counts before it.
`Reading.run` reads options up to the first argument that is neither an option nor the value of
one.
-/

namespace ShieldPolicy.CommandLine

inductive Effect (α : Type) where
  | flag (set : α → α)
  | text (set : String → α → α)
  /-- It takes a path, which must not be empty. -/
  | path (set : Path → α → α)

structure OptionSpec (α : Type) where
  name : String
  effect : Effect α
  about : String

def OptionSpec.takesValue {α : Type} (o : OptionSpec α) : Bool :=
  match o.effect with
  | .flag _ => false
  | .text _ | .path _ => true

inductive Argument where
  /-- Two dashes alone, after which no option follows. -/
  | separator
  | long (name : String) (attached : Option String)
  | short (letters : List Char)
  | word

def Argument.ofText (text : String) : Argument :=
  match text.toList with
  | ['-', '-'] => .separator
  | '-' :: '-' :: cs =>
    let name := cs.takeWhile (· ≠ '=')
    .long (String.ofList name) <|
      match cs.drop name.length with
      | [] => none
      | _ :: attached => some (String.ofList attached)
  | '-' :: c :: cs => .short (c :: cs)
  | _ => .word

structure Reading (α : Type) where
  /-- The command whose options are read, none for those of the program. -/
  command : Option String
  result : α
  given : List String := []
  /-- The option that was read last, if its value is not attached to it, with that value. -/
  pending : Option (OptionSpec α × Option String) := none
  ended : Bool := false

namespace Reading

variable {α : Type}

def take (r : Reading α) (o : OptionSpec α) (value : Option String) :
    Except UsageError (Reading α) :=
  if o.takesValue && value.isNone then .error (.missingValue o.name)
  else if r.given.contains o.name then .error (.repeatedOption o.name)
  else
    let keep (result : α) : Reading α := { r with result, given := o.name :: r.given }
    match o.effect, value with
    | .flag set, _ => .ok (keep (set r.result))
    | .text set, value => .ok (keep (set (value.getD "") r.result))
    | .path set, value =>
      let p : Path := ⟨value.getD ""⟩
      if p.isEmpty then .error (.emptyPath o.name) else .ok (keep (set p r.result))

def settle (r : Reading α) : Except UsageError (Reading α) :=
  match r.pending with
  | none => .ok r
  | some (o, value) => { r with pending := none }.take o value

def askHelp (r : Reading α) : Except UsageError (Reading α) := do
  let _ ← r.settle
  throw (.help r.command)

def long (specs : List (OptionSpec α)) (r : Reading α) (name : String) (attached : Option String) :
    Except UsageError (Reading α) :=
  if name = "help" then
    if attached.isSome then .error (.unexpectedValue name) else r.askHelp
  else match specs.find? fun o => o.name == name with
  | none => .error (.unknownArgument ("--" ++ name))
  | some o =>
    if o.takesValue then
      if attached.isSome then do (← r.settle).take o attached
      else do return { ← r.settle with pending := some (o, none) }
    else if attached.isSome then .error (.unexpectedValue name)
    else do (← r.settle).take o none

/-- Reads options up to the first argument that is neither an option nor the value of one, and
answers with the arguments from there on. -/
def run (specs : List (OptionSpec α)) (r : Reading α) :
    List String → Except UsageError (Reading α × List String)
  | [] => .ok (r, [])
  | text :: rest =>
    if r.ended then .ok (r, text :: rest)
    else match Argument.ofText text with
    | .separator => run specs { r with ended := true } rest
    | .long name attached => do run specs (← r.long specs name attached) rest
    | .short ('h' :: _) => do run specs (← r.askHelp) rest
    | .short _ => .error (.unknownArgument text)
    | .word =>
      match r.pending with
      | some (o, none) => run specs { r with pending := some (o, some text) } rest
      | _ => .ok (r, text :: rest)

end Reading

def readOptions {α : Type} (command : String) (specs : List (OptionSpec α))
    (required : List String) (start : α) (args : List String) : Except UsageError α := do
  let (r, rest) ← Reading.run specs { command := some command, result := start } args
  match rest with
  | text :: _ => throw (.unknownArgument text)
  | [] =>
    let r ← r.settle
    match required.find? fun name => !r.given.contains name with
    | some name => throw (.missingOption name)
    | none => return r.result

end ShieldPolicy.CommandLine
