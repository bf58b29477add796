import ShieldPolicy.CommandLine
import ShieldPolicy.Generation
import ShieldPolicy.Host.Manifest
import ShieldPolicy.Host.Session
import ShieldPolicy.Settings.Load

/-!
# Workspaces

A workspace is a directory with the settings for it. Paths that are given relative to it start from
its root.
-/

namespace ShieldPolicy

structure Workspace where
  root : Path
  settings : Settings
deriving Inhabited

namespace Workspace

variable {m : Type → Type} [Monad m] [Machine m]

/-- The root of the workspace at a path: without links if the path leads anywhere, and in any case
absolute. -/
def rootOf (p : Path) : m (Except FileFault Path) := do
  match ← Machine.canonical p with
  | .ok real => return .ok real
  | .error _ => Machine.absolute p

def loadSettings (logger : Logger) (env : Environment) (p : Path) :
    Option Path → m (Except SettingsError Settings)
  | some file => Settings.loadFile env file
  | none => Settings.load logger env p

def load (logger : Logger) (env : Environment) (p : Path) (config : Option Path) :
    m (Except SettingsError Workspace) := do
  match ← loadSettings logger env p config with
  | .error e => return .error e
  | .ok settings =>
    match ← rootOf p with
    | .error fault => return .error (.noCurrentDirectory fault)
    | .ok root => return .ok { root, settings }

def generateWith (w : Workspace) (logger : Logger) (s : GeneratorSettings) (dmmf : Path) :
    m (Except GenerationError GenerationReport) := do
  match s.companion with
  | .error e => return .error (.configuration e)
  | .ok p =>
    let config ← s.configuration w.root
    let description := DescriptionSource.file (w.root.anchoredAt dmmf)
    Generation.run logger config { provider := some p, description }

def generate (w : Workspace) (logger : Logger) (o : GenerateOptions) :
    m (Except GenerationError GenerationReport) :=
  w.generateWith logger (o.override w.settings.generator) o.dmmf

def session (w : Workspace) (logger : Logger) (env : Environment) : Session :=
  { settings := w.settings.generator, environment := env, logger }

end Workspace

end ShieldPolicy
