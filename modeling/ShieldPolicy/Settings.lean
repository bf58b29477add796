import ShieldPolicy.Environment
import ShieldPolicy.Generation.Configuration
import ShieldPolicy.Json.Decoder
import ShieldPolicy.Machine

/-!
# Settings

What a user can set about the generator and about logging. Every setting has a default.
-/

namespace ShieldPolicy

/-- Settings of the generator. Relative paths start from a directory that is given later. -/
structure GeneratorSettings where
  /-- The file of the context type, relative to the schema directory or absolute. -/
  contextPath : Option Path := none
  output : Path := ⟨"./generated"⟩
  /-- The schema file or its directory. -/
  schema : Option Path := none
  provider : String := "prisma-client-js"
  /-- The version of the companion, where `provider` has none. -/
  clientVersion : Option String := none
deriving DecidableEq, Inhabited

structure LoggingSettings where
  enabled : Bool := true
  level : String := "info"
  /-- `json` or `text`. -/
  format : String := "text"
  /-- `stdout`, `stderr` or `file`. -/
  output : String := "stderr"
  file : Option Path := none
  color : Bool := true
  modules : List (String × String) := []
deriving DecidableEq, Inhabited

structure Settings where
  generator : GeneratorSettings := {}
  logging : LoggingSettings := {}
deriving DecidableEq, Inhabited

/-- The directory that relative paths of a schema start from: the parent of a schema file, or the
path itself. A path that leads nowhere is taken for a file when its name ends in `.prisma`. -/
def schemaDirectory {m : Type → Type} [Monad m] [Machine m] (schema : Path) : m Path := do
  let isFile ← Machine.isFile schema
  let isDirectory ← Machine.isDirectory schema
  let looksLikeFile := isFile || (!isDirectory && schema.fileExtension? == some "prisma")
  match schema.parent? with
  | some parent => return if looksLikeFile then parent else schema
  | none => return schema

namespace GeneratorSettings

def decoder : Json.Decoder GeneratorSettings :=
  .record "GeneratorSettings"
    [ .defaulted "context_path" (.optional .path) fun contextPath s => { s with contextPath },
      .defaulted "output" .path fun output s => { s with output },
      .defaulted "schema" (.optional .path) fun schema s => { s with schema },
      .defaulted "provider" .text fun provider s => { s with provider },
      .defaulted "client_version" (.optional .text) fun clientVersion s =>
        { s with clientVersion } ]
    {}

/-- The companion. A version that stands with its name counts before the one set apart. -/
def companion (s : GeneratorSettings) : Except ConfigurationError Provider :=
  match Provider.parse s.provider with
  | .error name => .error (.unsupportedProvider name)
  | .ok p => .ok { p with version := p.version <|> s.clientVersion }

def configuration {m : Type → Type} [Monad m] [Machine m] (s : GeneratorSettings) (base : Path) :
    m GenerationConfig := do
  let schemaRoot ← match s.schema with
    | some schema => schemaDirectory (base.anchoredAt schema)
    | none => pure base
  return {
    contextPath := s.contextPath.getD ⟨""⟩
    outputDirectory := base.anchoredAt s.output
    schemaRoot }

end GeneratorSettings

namespace LoggingSettings

def decoder : Json.Decoder LoggingSettings :=
  .record "LoggingConfig"
    [ .defaulted "enabled" .bool fun enabled s => { s with enabled },
      .defaulted "level" .text fun level s => { s with level },
      .defaulted "format" .text fun format s => { s with format },
      .defaulted "output" .text fun output s => { s with output },
      .defaulted "file" (.optional .path) fun file s => { s with file },
      .defaulted "color" .bool fun color s => { s with color },
      .defaulted "modules" (.members .text) fun modules s => { s with modules } ]
    {}

/-- The settings while the host is served, whose streams carry requests and answers alone: logs go
to a file, and nowhere if there is no place for one. -/
def forHost (s : LoggingSettings) (env : Environment) : LoggingSettings :=
  let file := s.file <|> env.defaultLogFile?
  { s with output := "file", file, enabled := s.enabled && file.isSome }

end LoggingSettings

end ShieldPolicy
