import ShieldPolicy.CommandLine.Help
import ShieldPolicy.Log.Setup
import ShieldPolicy.Workspace

/-!
# The program

A run reads its arguments, sets up logging, loads the settings and does what it was asked to. While
the host is served, standard error belongs to the responses: failures are logged, and not printed.
-/

namespace ShieldPolicy

inductive Progress where
  | ended (code : Nat)
  | serving (session : Session)

namespace Program

def success : Nat := 0

def failure : Nat := 1

/-- The exit code when the arguments cannot be read. -/
def misuse : Nat := 2

variable {m : Type → Type} [Monad m] [Machine m]

def printLine (stream : Stream) (text : String) : m Unit := Machine.write stream (text ++ "\n")

def refuse : UsageError → m Nat
  | .help command => do
    Machine.write .output (CommandLine.helpText command)
    return success
  | e => do
    printLine .error ("error: " ++ e.message)
    return misuse

/-- The logging settings of a run. Settings that cannot be loaded count as the defaults here; that
they cannot be is told later. -/
def loggingSettings (env : Environment) (i : Invocation) : m LoggingSettings := do
  let base := match ← Workspace.loadSettings .silent env i.workspace i.config with
    | .ok settings => settings.logging
    | .error _ => {}
  let s := i.override base
  return if i.servesHost then s.forHost env else s

def fail (logger : Logger) (i : Invocation) (event : Log.Event) (e : GenerationError) : m Nat := do
  logger.log event
  if !i.servesHost then printLine .error e.message
  return failure

def succeed (logger : Logger) (text : String) : m Nat := do
  logger.log .completed
  if !text.isEmpty then printLine .output text
  return success

def execute (logger : Logger) (env : Environment) (i : Invocation) (w : Workspace) :
    m Progress := do
  match i.command with
  | none | some .host =>
    logger.log .servingHost
    return .serving (w.session logger env)
  | some .manifest => return .ended (← succeed logger Manifest.standard.pretty)
  | some (.generate o) =>
    match ← w.generate logger o with
    | .ok report => return .ended (← succeed logger report.summary)
    | .error e => return .ended (← fail logger i (.commandFailed e) e)

def runLogged (logger : Logger) (env : Environment) (i : Invocation) : m Progress := do
  logger.log .starting
  match ← Workspace.load logger env i.workspace i.config with
  | .error e =>
    let e := GenerationError.ofLoading e
    return .ended (← fail logger i (.settingsFailed e) e)
  | .ok w => execute logger env i w

/-- Runs up to the point where input is read. The host is served without logging when logging cannot
be set up. -/
def start (env : Environment) (i : Invocation) : m Progress := do
  match ← (← loggingSettings env i).logger env with
  | .ok logger => runLogged logger env i
  | .error e =>
    if i.servesHost then runLogged .silent env i
    else
      printLine .error
        ("Failed to initialize logging: " ++ (ConfigurationError.settings e).message)
      return .ended failure

def runWith (serve : Session → m (Except FileFault Unit)) (env : Environment) (args : List String) :
    m Nat := do
  match CommandLine.parse args with
  | .error e => refuse e
  | .ok i =>
  match ← start env i with
  | .ended code => return code
  | .serving session =>
    match ← serve session with
    | .ok () => succeed session.logger ""
    | .error fault => fail session.logger i (.commandFailed (.protocol fault)) (.protocol fault)

def run (env : Environment) (args : List String) (input : Input) : m Nat :=
  runWith (fun session => session.serveInput .error input) env args

end Program

end ShieldPolicy
