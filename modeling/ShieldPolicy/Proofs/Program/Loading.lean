import ShieldPolicy.Log.Setup
import ShieldPolicy.Proofs.Host.Keeps
import ShieldPolicy.Workspace

/-!
Relations that hold along what a run does before it reads any input: `Opens.load` for loading the
settings of a workspace, `Opens.openLogger` for opening the log file.
-/

namespace ShieldPolicy

variable {σ : Type} {R : σ → σ → Prop} [Machine (StateM σ)] {logger : Logger}

/-- A relation that holds along every operation on files, along what this logger writes, and along
finding places and opening the log file. -/
structure Opens (R : σ → σ → Prop) (logger : Logger) : Prop extends KeptBy R logger where
  canonical (p : Path) : Keeps R (Machine.canonical p : StateM σ _)
  currentDirectory : Keeps R (Machine.currentDirectory : StateM σ _)
  openJournal (p : Path) : Keeps R (Machine.openJournal p : StateM σ _)

namespace Opens

variable (opens : Opens R logger)
include opens

theorem pathExists (p : Path) : Keeps R (Machine.pathExists p : StateM σ Bool) :=
  opens.bind (opens.status p) fun _ => opens.pure _

theorem absolute (p : Path) : Keeps R (Machine.absolute p : StateM σ _) := by
  unfold Machine.absolute
  split
  · exact opens.pure _
  · exact opens.bind opens.currentDirectory fun _ => opens.pure _

/-! ### Settings files -/

theorem firstFile (ps : List Path) : Keeps R (Settings.firstFile ps : StateM σ _) := by
  induction ps with
  | nil => exact opens.pure _
  | cons p rest ih =>
    refine opens.bind (opens.isFile p) fun found => ?_
    split
    · exact opens.pure _
    · exact ih

theorem readSource (p : Path) : Keeps R (Settings.readSource p : StateM σ _) := by
  refine opens.bind (opens.absolute p) fun start => ?_
  split
  · exact opens.pure _
  refine opens.bind (opens.firstFile _) fun located => ?_
  split
  · exact opens.pure _
  refine opens.bind opens.currentDirectory fun here => ?_
  split
  · exact opens.pure _
  refine opens.bind (opens.readText _) fun text => ?_
  split <;> exact opens.pure _

theorem fileLayer (p : Path) (required : Bool) :
    Keeps R (Settings.fileLayer p required : StateM σ _) := by
  refine opens.bind (opens.readSource p) fun source => ?_
  split
  · split <;> exact opens.pure _
  · split <;> exact opens.pure _

theorem fileLayers (ps : List Path) : Keeps R (Settings.fileLayers ps : StateM σ _) := by
  induction ps with
  | nil => exact opens.pure _
  | cons p rest ih =>
    refine opens.bind (opens.fileLayer p false) fun layer => ?_
    split
    · exact opens.pure _
    refine opens.bind ih fun layers => ?_
    split <;> exact opens.pure _

theorem existing (ps : List Path) : Keeps R (Settings.existing ps : StateM σ _) := by
  induction ps with
  | nil => exact opens.pure _
  | cons p rest ih =>
    exact opens.bind (opens.pathExists p) fun _ => opens.bind ih fun _ => opens.pure _

theorem globalFile (env : Environment) :
    Keeps R (Settings.globalFile logger env : StateM σ _) := by
  unfold Settings.globalFile
  split
  · exact opens.pure _
  refine opens.bind (opens.pathExists _) fun found => ?_
  split
  · refine opens.bind (opens.canonical _) fun real => ?_
    split <;> exact opens.pure _
  · exact opens.bind (opens.log _) fun _ => opens.pure _

/-! ### Workspaces -/

theorem loadSettings (env : Environment) (p : Path) (config : Option Path) :
    Keeps R (Workspace.loadSettings logger env p config : StateM σ _) := by
  cases config with
  | some file =>
    refine opens.bind (opens.pathExists file) fun found => ?_
    split
    · exact opens.pure _
    · refine opens.bind (opens.fileLayer file true) fun layer => ?_
      split <;> exact opens.pure _
  | none =>
    refine opens.bind (opens.globalFile env) fun global => ?_
    refine opens.bind (opens.existing _) fun files => ?_
    refine opens.bind (opens.fileLayers _) fun layers => ?_
    split <;> exact opens.pure _

theorem rootOf (p : Path) : Keeps R (Workspace.rootOf p : StateM σ _) := by
  refine opens.bind (opens.canonical p) fun real => ?_
  split
  · exact opens.pure _
  · exact opens.absolute p

theorem load (env : Environment) (p : Path) (config : Option Path) :
    Keeps R (Workspace.load logger env p config : StateM σ _) := by
  refine opens.bind (opens.loadSettings env p config) fun settings => ?_
  split
  · exact opens.pure _
  · refine opens.bind (opens.rootOf p) fun root => ?_
    split <;> exact opens.pure _

/-! ### The log file -/

theorem openFile (s : LoggingSettings) (env : Environment) :
    Keeps R (s.openFile env : StateM σ _) := by
  unfold LoggingSettings.openFile
  split
  · exact opens.pure _
  refine opens.bind ?_ fun made => ?_
  · unfold LoggingSettings.makeParent
    split
    · exact opens.makeFirst _
    · exact opens.pure _
  split
  · exact opens.pure _
  refine opens.bind (opens.openJournal _) fun opened => ?_
  split <;> exact opens.pure _

theorem openLogger (s : LoggingSettings) (env : Environment) (filter : Log.Filter) (json : Bool)
    (stream : Stream) : Keeps R (s.openLogger env filter json stream : StateM σ _) := by
  unfold LoggingSettings.openLogger
  dsimp only
  split
  · exact opens.pure _
  refine opens.bind (opens.openFile s env) fun opened => ?_
  split <;> exact opens.pure _

end Opens

end ShieldPolicy
