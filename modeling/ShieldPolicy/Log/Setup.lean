import ShieldPolicy.Log
import ShieldPolicy.Settings

/-!
# Setting up logging

The settings say what is logged, how and where. Variables of the environment count before them:
`SHIELDGEN_LOG` for the filter, if it holds one, `SHIELDGEN_LOG_FORMAT` for the layout, if it names
one, and `SHIELDGEN_LOG_OUTPUT` for the stream, unless the settings ask for a file.
-/

namespace ShieldPolicy

def logStream (word : String) : Except SettingsError Stream :=
  match word with
  | "stdout" => .ok .output
  | "stderr" => .ok .error
  | "file" => .ok .journal
  | _ => .error (.logOutput word)

/-- Whether a word names a log format, and whether that is the JSON one. -/
def logFormat? (word : String) : Option Bool :=
  match word with
  | "json" => some true
  | "text" => some false
  | _ => none

namespace LoggingSettings

def withModules (f : Log.Filter) : List (String × String) → Except SettingsError Log.Filter
  | [] => .ok f
  | (target, level) :: rest =>
    match Log.Directive.parse (target ++ "=" ++ level) with
    | .error e => .error (.logDirective e.message)
    | .ok d => withModules (f.add d) rest

/-- The filter, and the words about parts of the level that are no directives. The level `off` turns
the modules off too. -/
def filter (s : LoggingSettings) (env : Environment) :
    List String × Except SettingsError Log.Filter :=
  match (env.get? "SHIELDGEN_LOG").bind fun text => (Log.Filter.parse text).toOption with
  | some f => ([], .ok f)
  | none =>
    let (f, complaints) := Log.Filter.parseLenient s.level
    (complaints, if s.level = "off" then .ok f else withModules f s.modules)

def isJson (s : LoggingSettings) (env : Environment) : Except SettingsError Bool :=
  match (env.get? "SHIELDGEN_LOG_FORMAT").bind logFormat?, logFormat? s.format with
  | some json, _ => .ok json
  | none, some json => .ok json
  | none, none => .error (.logFormat s.format)

def stream (s : LoggingSettings) (env : Environment) : Except SettingsError Stream :=
  if s.output = "file" then .ok .journal
  else logStream ((env.get? "SHIELDGEN_LOG_OUTPUT").getD s.output)

def layout (s : LoggingSettings) (json : Bool) (stream : Stream) : Log.Layout :=
  if json then .json
  else if s.color ∧ stream ≠ .journal then .coloured
  else .text

variable {m : Type → Type} [Monad m] [Machine m]

/-- Makes the directory of a file, unless the file is said to be nowhere. -/
def makeParent (file : Path) : m (Except FileFault Unit) :=
  match file.parent? with
  | some dir => Machine.makeDirectories dir
  | none => return .ok ()

def openFile (s : LoggingSettings) (env : Environment) : m (Except SettingsError Unit) := do
  match s.file <|> env.defaultLogFile? with
  | none => return .error .noLogFile
  | some file =>
  match ← makeParent file with
  | .error fault => return .error (.logDirectory fault)
  | .ok () =>
  match ← Machine.openJournal file with
  | .error fault => return .error (.logFile file fault)
  | .ok () => return .ok ()

def openLogger (s : LoggingSettings) (env : Environment) (filter : Log.Filter) (json : Bool)
    (stream : Stream) : m (Except SettingsError Logger) := do
  let logger : Logger := { filter, layout := s.layout json stream, stream }
  if stream ≠ .journal then return .ok logger
  match ← s.openFile env with
  | .error e => return .error e
  | .ok () => return .ok logger

def complain : List String → m Unit
  | [] => return ()
  | line :: rest => do
    Machine.write .error (line ++ "\n")
    complain rest

/-- Sets up logging. When it is not enabled nothing is logged, whatever else is set. -/
def logger (s : LoggingSettings) (env : Environment) : m (Except SettingsError Logger) := do
  if !s.enabled then return .ok .silent
  let (complaints, filter) := s.filter env
  complain complaints
  match filter, s.isJson env, s.stream env with
  | .error e, _, _ => return .error e
  | .ok _, .error e, _ => return .error e
  | .ok _, .ok _, .error e => return .error e
  | .ok filter, .ok json, .ok stream => s.openLogger env filter json stream

end LoggingSettings

end ShieldPolicy
