import ShieldPolicy.Generation
import ShieldPolicy.Settings

/-!
# Options from the host

The host describes the generator blocks of the schema and hands over the model description. What it
leaves open is filled in from the settings, and the companion's version, last of all, from the
client package that is installed.
-/

namespace ShieldPolicy

/-- A value that is given literally or by the name of a variable. -/
structure EnvValue where
  value : Option String := none
  fromEnvVar : Option String := none
deriving DecidableEq, Inhabited

namespace EnvValue

def decoder : Json.Decoder EnvValue :=
  .record "EnvValue"
    [ .defaulted "value" (.optional .text) fun value v => { v with value },
      .defaulted "fromEnvVar" (.optional .text) fun fromEnvVar v => { v with fromEnvVar } ]
    {}

/-- The value. A variable that is named and set counts first. -/
def resolve (v : EnvValue) (env : Environment) : Option String :=
  v.fromEnvVar.bind env.get? <|> v.value

end EnvValue

structure GeneratorBlock where
  name : String := ""
  provider : EnvValue := {}
  output : Option EnvValue := none
  config : List (String × Json) := []
deriving Inhabited

namespace GeneratorBlock

def decoder : Json.Decoder GeneratorBlock :=
  .record "GeneratorBlock"
    [ .defaulted "name" .text fun name b => { b with name },
      .required "provider" EnvValue.decoder fun provider b => { b with provider },
      .defaulted "output" (.optional EnvValue.decoder) fun output b => { b with output },
      .defaulted "config" (.members .any) fun config b => { b with config } ]
    {}

def option? (b : GeneratorBlock) (key : String) : Option String :=
  (b.config.lookup key).bind Json.text?

def isCompanion (b : GeneratorBlock) (env : Environment) : Bool :=
  (b.provider.resolve env).any fun name => Provider.companions.contains name

end GeneratorBlock

structure GeneratorOptions where
  generator : GeneratorBlock := {}
  otherGenerators : List GeneratorBlock := []
  schemaPath : Path := ⟨""⟩
  dmmf : Json := .null
deriving Inhabited

namespace GeneratorOptions

def decoder : Json.Decoder GeneratorOptions :=
  .record "GeneratorOptions"
    [ .required "generator" GeneratorBlock.decoder fun generator o => { o with generator },
      .defaulted "otherGenerators" (.list GeneratorBlock.decoder) fun otherGenerators o =>
        { o with otherGenerators },
      .required "schemaPath" .path fun schemaPath o => { o with schemaPath },
      .defaulted "dmmf" .any fun dmmf o => { o with dmmf } ]
    {}

def companion? (o : GeneratorOptions) (env : Environment) : Option GeneratorBlock :=
  o.otherGenerators.find? fun b => b.isCompanion env

variable {m : Type → Type} [Monad m] [Machine m]

def packageVersion (logger : Logger) (manifest : Path) : m (Option String) := do
  match ← Machine.readText manifest with
  | .error _ => return none
  | .ok text =>
  match Json.parse text with
  | .error e =>
    logger.log (.packageUnreadable manifest e)
    return none
  | .ok package =>
  match (package.get? "version").bind Json.text? with
  | none => return none
  | some version =>
    logger.log (.clientVersionFound manifest version)
    return some version

def firstVersion (logger : Logger) : List Path → m (Option String)
  | [] => return none
  | manifest :: rest => do
    match ← packageVersion logger manifest with
    | some version => return some version
    | none => firstVersion logger rest

/-- The manifests that may tell the companion's version: that of its output, then those of the
client packages installed above the schema, the nearest first. -/
def packageManifests (schemaRoot : Path) (output : Option String) : List Path :=
  (output.map fun text => (schemaRoot.anchoredAt ⟨text⟩).join ⟨"package.json"⟩).toList ++
    schemaRoot.ancestors.map fun dir => dir.join ⟨"node_modules/@prisma/client/package.json"⟩

/-- The companion, its version from this generator's block, else from the settings, else from the
installed package. -/
def provider (o : GeneratorOptions) (logger : Logger) (env : Environment) (s : GeneratorSettings)
    (schemaRoot : Path) : m (Option Provider) := do
  match o.companion? env with
  | none => return none
  | some block =>
  match block.provider.resolve env with
  | none => return none
  | some name =>
  match o.generator.option? "clientVersion" <|> s.clientVersion with
  | some version => return some { name, version := some version }
  | none =>
    let output := block.output.bind fun v => v.resolve env
    return some { name, version := ← firstVersion logger (packageManifests schemaRoot output) }

def configuration (o : GeneratorOptions) (env : Environment) (s : GeneratorSettings)
    (schemaRoot : Path) : GenerationConfig where
  contextPath := ((o.generator.option? "contextPath").map Path.mk <|> s.contextPath).getD ⟨""⟩
  outputDirectory := schemaRoot.anchoredAt
    (((o.generator.output.bind fun v => v.resolve env).map Path.mk).getD s.output)
  schemaRoot

def run (o : GeneratorOptions) (logger : Logger) (env : Environment) (s : GeneratorSettings) :
    m (Except GenerationError GenerationReport) := do
  let schemaRoot ← schemaDirectory o.schemaPath
  let provider ← o.provider logger env s schemaRoot
  Generation.run logger (o.configuration env s schemaRoot) { provider, description := .json o.dmmf }

end GeneratorOptions

end ShieldPolicy
