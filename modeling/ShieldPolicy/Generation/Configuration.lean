import ShieldPolicy.Generation.ContextImport
import ShieldPolicy.Generation.Failure

/-!
# The configuration of a run

A run is told where the context type is, which directory to fill, and where the schema is. Because
the output directory is emptied first, it must not be a place that holds the user's own sources.
-/

namespace ShieldPolicy

structure GenerationConfig where
  /-- The file of the context type, absolute or relative to the schema directory. -/
  contextPath : Path
  /-- The directory that receives the policy and loses all else. -/
  outputDirectory : Path
  schemaRoot : Path
deriving DecidableEq

structure ValidatedConfig where
  outputFile : Path
  contextSpecifier : String
  contextFile : Path
deriving DecidableEq

namespace GenerationConfig

def policyFileName : Path := ⟨"shield.ts"⟩

def outputFile (config : GenerationConfig) : Path := config.outputDirectory.join policyFileName

def pathViolations (config : GenerationConfig) : List Violation :=
  (if config.contextPath.isEmpty then [.missingContextPath] else []) ++
  (if config.outputDirectory.isAbsolute then []
    else [.relativePath .outputDirectory config.outputDirectory]) ++
  (if config.schemaRoot.isAbsolute then [] else [.relativePath .schemaRoot config.schemaRoot])

def outputDangers (config : GenerationConfig) : List OutputDanger :=
  match config.outputDirectory.locate? with
  | none => [.aboveRoot]
  | some [] => [.root]
  | some output =>
    let holds (place : Option Location) : Bool := place.any fun l => output.isPrefixOf l
    (if holds config.schemaRoot.locate? then [.holdsSchema] else []) ++
    (if holds (ContextImport.contextFile? config.contextPath config.schemaRoot) then [.holdsContext]
      else [])

def contextSpecifier (config : GenerationConfig) : Except Violation String :=
  ContextImport.specifier config.outputDirectory config.contextPath config.schemaRoot

/-- The rules that are broken: those on single paths, or else those between the paths. -/
def violations (config : GenerationConfig) : List Violation :=
  match config.pathViolations with
  | [] =>
    config.outputDangers.map (.unsafeOutput config.outputDirectory) ++
      match config.contextSpecifier with
      | .ok _ => []
      | .error v => [v]
  | broken => broken

def validate (config : GenerationConfig) : Except ConfigurationError ValidatedConfig :=
  match config.violations, config.contextSpecifier with
  | [], .ok contextSpecifier =>
    .ok
      { outputFile := config.outputFile
        contextSpecifier
        contextFile :=
          match ContextImport.contextFile? config.contextPath config.schemaRoot with
          | some l => l.path
          | none => ⟨""⟩ }
  | [], .error v => .error (.rejected v [])
  | first :: more, _ => .error (.rejected first more)

end GenerationConfig

end ShieldPolicy
