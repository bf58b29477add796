import ShieldPolicy.Generation.Failure
import ShieldPolicy.Log.Record
import ShieldPolicy.Operation.Vocabulary

/-!
# What is logged

The events of a run, and the record that each of them leaves.
-/

namespace ShieldPolicy.Log

def vocabularyName : Vocabulary → String
  | .legacy => "Legacy"
  | .current => "Current"

inductive Event where
  | starting
  | settingsFailed (e : GenerationError)
  | completed
  | commandFailed (e : GenerationError)
  | servingHost
  | noGlobalSettings (path : Path)
  | contextMissing (file : Path)
  | vocabularySelected (provider : Provider) (v : Vocabulary) (detected : Bool)
  | unknownKind (o : Operation)
  | classified (models queries mutations ignored : Nat)
  | outputCleared (dir : Path) (removed : Nat)
  | cleanupFailed (dir : Path) (fault : FileFault)
  | policyWritten (path : Path)
  | nothingToWrite (dir : Path)
  | packageUnreadable (manifest : Path) (e : Json.Error)
  | clientVersionFound (manifest : Path) (version : String)
  | requestMalformed (e : Json.Error)
  | requestReceived (method : String)
  | requestCompleted (queries mutations : Nat)
  | requestFailed (e : GenerationError)
  | streamClosed

def Event.record : Event → Record
  | .starting => ⟨.info, "shieldgen", "shieldgen starting", []⟩
  | .settingsFailed e => ⟨.error, "shieldgen", "Error loading settings: " ++ e.message, []⟩
  | .completed => ⟨.info, "shieldgen", "Command completed successfully", []⟩
  | .commandFailed e =>
    ⟨.error, "shieldgen", "Command failed: " ++ e.message, [("stage", .text e.stage.name)]⟩
  | .servingHost => ⟨.info, "shieldgen::cli::route", "Serving host protocol", []⟩
  | .noGlobalSettings path =>
    ⟨.debug, "shieldgen::config::sources::global_file", "No global configuration file",
      [("config_path", .shown path.text)]⟩
  | .contextMissing file =>
    ⟨.warn, "shieldgen::generation::run", "Context type file does not exist yet",
      [("context_file", .shown file.text)]⟩
  | .vocabularySelected provider v detected =>
    ⟨.debug, "shieldgen::generation::run", "Selected classification table",
      [("provider", .shown provider.display), ("table", .shown (vocabularyName v)),
        ("detected", .flag detected)]⟩
  | .unknownKind o =>
    ⟨.debug, "shieldgen::generation::classify", "Ignoring unrecognized operation kind",
      [("model", .shown o.model), ("kind", .shown o.kind)]⟩
  | .classified models queries mutations ignored =>
    ⟨.info, "shieldgen::generation::run", "Classified model operations",
      [("models", .number models), ("queries", .number queries), ("mutations", .number mutations),
        ("ignored", .number ignored)]⟩
  | .outputCleared dir removed =>
    ⟨.debug, "shieldgen::generation::write", "Cleared previous output",
      [("output_dir", .shown dir.text), ("removed", .number removed)]⟩
  | .cleanupFailed dir fault =>
    ⟨.warn, "shieldgen::generation::write",
      "Failed to clean output directory after write failure",
      [("output_dir", .shown dir.text), ("error", .shown fault.message)]⟩
  | .policyWritten path =>
    ⟨.info, "shieldgen::generation::run", "Wrote shield policy", [("path", .shown path.text)]⟩
  | .nothingToWrite dir =>
    ⟨.info, "shieldgen::generation::run",
      "No operations to protect, output directory left empty",
      [("output_dir", .shown dir.text)]⟩
  | .packageUnreadable manifest e =>
    ⟨.debug, "shieldgen::host::options", "Unreadable package manifest",
      [("manifest", .shown manifest.text), ("error", .shown e.message)]⟩
  | .clientVersionFound manifest version =>
    ⟨.debug, "shieldgen::host::options", "Detected installed client version",
      [("manifest", .shown manifest.text), ("version", .shown version)]⟩
  | .requestMalformed e =>
    ⟨.warn, "shieldgen::host::rpc", "Malformed host request", [("error", .shown e.message)]⟩
  | .requestReceived method =>
    ⟨.debug, "shieldgen::host::rpc", "Host request", [("method", .shown method)]⟩
  | .requestCompleted queries mutations =>
    ⟨.info, "shieldgen::host::rpc", "Generation finished",
      [("queries", .number queries), ("mutations", .number mutations)]⟩
  | .requestFailed e =>
    ⟨.error, "shieldgen::host::rpc", "Generation failed",
      [("stage", .text e.stage.name), ("error", .shown e.message)]⟩
  | .streamClosed => ⟨.debug, "shieldgen::host::rpc", "Host closed the request stream", []⟩

end ShieldPolicy.Log
