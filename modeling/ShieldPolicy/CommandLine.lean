import ShieldPolicy.CommandLine.Option
import ShieldPolicy.Settings

/-!
# The command line

The options of the program come first, then a command with options of its own. Without a command the
host is served.
-/

namespace ShieldPolicy

/-- The options of the command that generates. What is not given is taken from the settings. -/
structure GenerateOptions where
  dmmf : Path
  output : Option Path := none
  schema : Option Path := none
  contextPath : Option Path := none
  provider : Option String := none
deriving DecidableEq, Inhabited

def GenerateOptions.override (o : GenerateOptions) (s : GeneratorSettings) : GeneratorSettings :=
  { s with
    output := o.output.getD s.output
    schema := o.schema <|> s.schema
    contextPath := o.contextPath <|> s.contextPath
    provider := o.provider.getD s.provider }

inductive Command where
  | host
  | manifest
  | generate (options : GenerateOptions)
deriving DecidableEq, Inhabited

structure Invocation where
  command : Option Command := none
  workspace : Path := ⟨"."⟩
  config : Option Path := none
  verbose : Bool := false
  quiet : Bool := false
  logLevel : Option String := none
  logFormat : Option String := none
  logOutput : Option String := none
  logFile : Option Path := none
deriving DecidableEq, Inhabited

namespace CommandLine

def programOptions : List (OptionSpec Invocation) :=
  [ { name := "workspace"
      effect := .path fun workspace i => { i with workspace }
      about := "Workspace root directory, the base of relative paths [default: .]" },
    { name := "config"
      effect := .path fun config i => { i with config := some config }
      about := "Settings file, read in place of all others" },
    { name := "verbose", effect := .flag fun i => { i with verbose := true }
      about := "Log at level debug" },
    { name := "quiet", effect := .flag fun i => { i with quiet := true }
      about := "Log nothing" },
    { name := "log-level"
      effect := .text fun level i => { i with logLevel := some level }
      about := "Log level: trace, debug, info, warn, error or off" },
    { name := "log-format"
      effect := .text fun format i => { i with logFormat := some format }
      about := "Log format: json or text" },
    { name := "log-output"
      effect := .text fun output i => { i with logOutput := some output }
      about := "Log output: stdout, stderr or file" },
    { name := "log-file"
      effect := .path fun file i => { i with logFile := some file }
      about := "Log file, for the log output file" } ]

def generateOptions : List (OptionSpec GenerateOptions) :=
  [ { name := "dmmf", effect := .path fun dmmf o => { o with dmmf }
      about := "JSON file that describes the operations of the models [required]" },
    { name := "output", effect := .path fun output o => { o with output := some output }
      about := "Output directory, whose contents are replaced" },
    { name := "schema", effect := .path fun schema o => { o with schema := some schema }
      about := "Schema file or directory, the base of relative context paths" },
    { name := "context-path"
      effect := .path fun contextPath o => { o with contextPath := some contextPath }
      about := "Context type module, relative to the schema directory or absolute" },
    { name := "provider"
      effect := .text fun provider o => { o with provider := some provider }
      about := "Companion client generator, with its version if need be (name@version)" } ]

def commandNames : List String := ["host", "manifest", "generate", "help"]

def readCommand (name : String) (args : List String) : Except UsageError Command :=
  match name with
  | "host" => do
    readOptions name [] [] () args
    return .host
  | "manifest" => do
    readOptions name [] [] () args
    return .manifest
  | "generate" => do
    return .generate (← readOptions name generateOptions ["dmmf"] { dmmf := ⟨""⟩ } args)
  | _ => .error (.unknownCommand name)

/-- What the words after `help` ask for: help on one command at most. -/
def helpOn : List String → UsageError
  | [] => .help none
  | [name] => if commandNames.contains name then .help (some name) else .unknownCommand name
  | name :: next :: _ => .unknownCommand (if commandNames.contains name then next else name)

def parse (args : List String) : Except UsageError Invocation := do
  let (r, rest) ← Reading.run programOptions { command := none, result := {} } args
  match rest with
  | [] => return (← r.settle).result
  | name :: args =>
    if r.ended then
      throw (if commandNames.contains name then .unknownArgument name else .unknownCommand name)
    else if name = "help" then throw (helpOn args)
    else
      let command ← readCommand name args
      return { (← r.settle).result with command := some command }

end CommandLine

namespace Invocation

def servesHost (i : Invocation) : Bool :=
  match i.command with
  | none | some .host => true
  | some .manifest | some (.generate _) => false

def override (i : Invocation) (s : LoggingSettings) : LoggingSettings :=
  { s with
    enabled := s.enabled && !i.quiet
    level := i.logLevel.getD (if i.verbose then "debug" else s.level)
    format := i.logFormat.getD s.format
    output := i.logOutput.getD s.output
    file := i.logFile <|> s.file }

end Invocation

end ShieldPolicy
