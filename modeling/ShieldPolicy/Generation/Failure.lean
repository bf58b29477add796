import ShieldPolicy.Generation.Violation
import ShieldPolicy.Json
import ShieldPolicy.Provider
import ShieldPolicy.Settings.Failure

/-!
# Failures of a run

A run fails in one of its stages: the configuration is not fit, the model description cannot be
taken in, the output cannot be written, or the host cannot be talked to.
-/

namespace ShieldPolicy

/-- Why a run is refused before anything is changed. -/
inductive ConfigurationError where
  | rejected (first : Violation) (more : List Violation)
  | missingCompanion
  | unsupportedProvider (name : String)
  | unsupportedVersion (provider version : String)
  | mixedVocabularies (provider : String)
  | settings (e : SettingsError)
deriving DecidableEq

def ConfigurationError.violations : ConfigurationError → List Violation
  | .rejected first more => first :: more
  | _ => []

def ConfigurationError.message : ConfigurationError → String
  | .rejected first [] => first.message
  | .rejected first more =>
    "invalid generator configuration:\n" ++
      Text.joinTexts "\n" ((first :: more).map fun v => "  - " ++ v.message)
  | .missingCompanion =>
    "no companion client generator found (expected one of: " ++
      Text.joinTexts ", " Provider.companions ++ ")"
  | .unsupportedProvider name => "unsupported model provider: " ++ name
  | .unsupportedVersion provider version =>
    "unsupported version " ++ Text.quoted version ++ " of model provider " ++ provider
  | .mixedVocabularies provider =>
    "cannot determine the model description format of " ++ provider ++
      ": it mixes legacy and current operation kinds"
  | .settings e => "failed to load settings: " ++ e.message

inductive IngestionError where
  | unreadable (path : Path) (fault : FileFault)
  | malformed (e : Json.Error)
  /-- The source of the description failed, in its own words. -/
  | provider (text : String)
deriving DecidableEq

def IngestionError.message : IngestionError → String
  | .unreadable path fault =>
    "failed to read model description " ++ Text.quoted path.text ++ ": " ++ fault.message
  | .malformed e => "malformed model description: " ++ e.message
  | .provider text => "model provider failed: " ++ text

inductive OutputStep where
  | createDirectory
  | cleanup
  | write
deriving DecidableEq

def OutputStep.message : OutputStep → String
  | .createDirectory => "create output directory"
  | .cleanup => "clean output directory"
  | .write => "write output file"

inductive GenerationError where
  | configuration (e : ConfigurationError)
  | ingestion (e : IngestionError)
  | output (step : OutputStep) (path : Path) (fault : FileFault)
  /-- The host's requests cannot be read, or there is no directory to start from. -/
  | protocol (fault : FileFault)
deriving DecidableEq

namespace GenerationError

def ofLoading : SettingsError → GenerationError
  | .noCurrentDirectory fault => .protocol fault
  | e => .configuration (.settings e)

def message : GenerationError → String
  | .configuration e => "configuration error: " ++ e.message
  | .ingestion e => "ingestion error: " ++ e.message
  | .output step path fault =>
    "I/O error: failed to " ++ step.message ++ " at " ++ Text.quoted path.text ++ ": " ++
      fault.message
  | .protocol fault => "host protocol I/O error: " ++ fault.message

inductive Stage where
  | configuration
  | ingestion
  | output
  | protocol
deriving DecidableEq

def Stage.name : Stage → String
  | .configuration => "configuration"
  | .ingestion => "ingestion"
  | .output => "output"
  | .protocol => "protocol"

def stage : GenerationError → Stage
  | .configuration _ => .configuration
  | .ingestion _ => .ingestion
  | .output _ _ _ => .output
  | .protocol _ => .protocol

end GenerationError

end ShieldPolicy
