import ShieldPolicy.Host.Session
import ShieldPolicy.Proofs.Operation.Classification

/-!
Relations that hold along every run. A reflexive and transitive relation between states holds from
the start of an answer to its end when it holds along each operation that may be used on the way:
`keeps_answer`. Of the streams, only that of the log is written to, if anything is logged.
-/

namespace ShieldPolicy

variable {σ α β : Type} {R : σ → σ → Prop}

/-- Whether the relation holds from any state to the one that the run ends in. -/
def Keeps (R : σ → σ → Prop) (x : StateM σ α) : Prop := ∀ s, R s (x s).2

theorem Keeps.of_run {x : StateM σ α} {s s' : σ} {a : α} (keeps : Keeps R x) (run : x s = (a, s')) :
    R s s' := by
  have kept := keeps s
  rwa [run] at kept

/-- A relation that holds along every operation on files, along what this logger writes, and along
any sequence of these. Opening a log file is none of them. -/
structure KeptBy [Machine (StateM σ)] (R : σ → σ → Prop) (logger : Logger) : Prop where
  refl (s : σ) : R s s
  trans {s s' s'' : σ} : R s s' → R s' s'' → R s s''
  status (p : Path) : Keeps R (Machine.status p : StateM σ _)
  readText (p : Path) : Keeps R (Machine.readText p : StateM σ _)
  list (p : Path) : Keeps R (Machine.list p : StateM σ _)
  makeDirectory (p : Path) : Keeps R (Machine.makeDirectory p : StateM σ _)
  writeText (p : Path) (text : String) : Keeps R (Machine.writeText p text : StateM σ _)
  removeFile (p : Path) : Keeps R (Machine.removeFile p : StateM σ _)
  removeTree (p : Path) : Keeps R (Machine.removeTree p : StateM σ _)
  renameFile (source target : Path) : Keeps R (Machine.renameFile source target : StateM σ _)
  log (e : Log.Event) : Keeps R (logger.log e : StateM σ Unit)

namespace KeptBy

variable [Machine (StateM σ)] {logger : Logger} (kept : KeptBy R logger)
include kept

/-! ### Sequences -/

theorem pure (a : α) : Keeps R (Pure.pure a : StateM σ α) := fun s => kept.refl s

theorem bind {x : StateM σ α} {f : α → StateM σ β} (first : Keeps R x)
    (rest : ∀ a, Keeps R (f a)) : Keeps R (x >>= f) :=
  fun s => kept.trans (first s) (rest _ _)

/-! ### Files -/

theorem isDirectory (p : Path) : Keeps R (Machine.isDirectory p : StateM σ Bool) := by
  refine kept.bind (kept.status p) fun kind => ?_
  split <;> exact kept.pure _

theorem isFile (p : Path) : Keeps R (Machine.isFile p : StateM σ Bool) := by
  refine kept.bind (kept.status p) fun kind => ?_
  split <;> exact kept.pure _

theorem accept (p : Path) (made : Except FileFault Unit) :
    Keeps R (Machine.makeFirst.accept p made : StateM σ _) := by
  cases made with
  | ok => exact kept.pure _
  | error fault =>
    refine kept.bind (kept.isDirectory p) fun found => ?_
    split <;> exact kept.pure _

theorem makeFirst (ways : List Path) : Keeps R (Machine.makeFirst ways : StateM σ _) := by
  induction ways with
  | nil => exact kept.pure _
  | cons p above ih =>
    unfold Machine.makeFirst
    split
    · exact kept.pure _
    refine kept.bind (kept.makeDirectory p) fun made => ?_
    split
    · exact kept.pure _
    · refine kept.bind ih fun parent => ?_
      split
      · exact kept.pure _
      · exact kept.bind (kept.makeDirectory p) fun made => kept.accept p made
    · exact kept.accept p _

theorem removeAll (dir : Path) (entries : List (String × Bool)) :
    Keeps R (Machine.removeAll dir entries : StateM σ _) := by
  induction entries with
  | nil => exact kept.pure _
  | cons entry rest ih =>
    obtain ⟨name, isDir⟩ := entry
    refine kept.bind ?_ fun removed => ?_
    · split
      · exact kept.removeTree _
      · exact kept.removeFile _
    · split
      · exact kept.pure _
      · refine kept.bind ih fun others => ?_
        split <;> exact kept.pure _

theorem clearDirectory (dir : Path) : Keeps R (Machine.clearDirectory dir : StateM σ _) := by
  refine kept.bind (kept.list dir) fun listed => ?_
  split
  · exact kept.pure _
  · exact kept.removeAll dir _

/-! ### The log -/

theorem logAll (events : List Log.Event) : Keeps R (logger.logAll events : StateM σ Unit) := by
  induction events with
  | nil => exact kept.pure _
  | cons e rest ih => exact kept.bind (kept.log e) fun _ => ih

/-! ### The output -/

theorem writeWhole (d : Document) : Keeps R (Output.writeWhole d : StateM σ _) := by
  refine kept.bind (kept.writeText _ _) fun written => ?_
  split
  · exact kept.pure _
  · refine kept.bind (kept.renameFile _ _) fun moved => ?_
    split
    · exact kept.pure _
    · exact kept.bind (kept.removeFile _) fun _ => kept.pure _

theorem output (dir : Path) (document : Option Document) :
    Keeps R (Output.write logger dir document : StateM σ _) := by
  refine kept.bind (kept.makeFirst _) fun made => ?_
  split
  · exact kept.pure _
  refine kept.bind (kept.clearDirectory dir) fun cleared => ?_
  split
  · exact kept.pure _
  refine kept.bind (kept.log _) fun _ => ?_
  split
  · exact kept.pure _
  refine kept.bind (kept.writeWhole _) fun written => ?_
  split
  · exact kept.pure _
  refine kept.bind (kept.clearDirectory dir) fun again => ?_
  split
  · exact kept.pure _
  · exact kept.bind (kept.log _) fun _ => kept.pure _

/-! ### Runs -/

theorem anyExists (ways : List Path) : Keeps R (Generation.anyExists ways : StateM σ Bool) := by
  induction ways with
  | nil => exact kept.pure _
  | cons p rest ih =>
    refine kept.bind (kept.bind (kept.status p) fun _ => kept.pure _) fun found => ?_
    split
    · exact kept.pure _
    · exact ih

theorem ingest (source : DescriptionSource) :
    Keeps R (Generation.ingest source : StateM σ _) := by
  cases source with
  | file path =>
    refine kept.bind (kept.readText path) fun read => ?_
    split <;> exact kept.pure _
  | json | operations | failing => exact kept.pure _

theorem produce (dir : Path) (config : ValidatedConfig) (p : Provider)
    (versioned : Option Vocabulary) (d : ModelDescription) :
    Keeps R (Generation.produce logger dir config p versioned d : StateM σ _) := by
  unfold Generation.produce
  split
  · exact kept.pure _
  rw [Generation.classify_eq]
  refine kept.bind (kept.log _) fun _ =>
    kept.bind (kept.bind (kept.logAll _) fun _ => kept.pure _) fun buckets =>
    kept.bind (kept.log _) fun _ => kept.bind (kept.output dir _) fun written => ?_
  split
  · exact kept.pure _
  · exact kept.bind (kept.log _) fun _ => kept.pure _

theorem run (config : GenerationConfig) (source : ModelSource) :
    Keeps R (Generation.run logger config source : StateM σ _) := by
  unfold Generation.run
  split
  · exact kept.pure _
  refine kept.bind (kept.anyExists _) fun found => ?_
  extract_lets next
  have rest : Keeps R (next ()) := by
    unfold next
    split
    · exact kept.pure _
    split
    · exact kept.pure _
    refine kept.bind (kept.ingest _) fun taken => ?_
    split
    · exact kept.pure _
    · exact kept.produce _ _ _ _ _
  split
  · exact kept.bind (kept.log _) fun _ => rest
  · exact rest

/-! ### Requests -/

theorem packageVersion (manifest : Path) :
    Keeps R (GeneratorOptions.packageVersion logger manifest : StateM σ _) := by
  refine kept.bind (kept.readText manifest) fun read => ?_
  split
  · exact kept.pure _
  split
  · exact kept.bind (kept.log _) fun _ => kept.pure _
  split
  · exact kept.pure _
  · exact kept.bind (kept.log _) fun _ => kept.pure _

theorem firstVersion (manifests : List Path) :
    Keeps R (GeneratorOptions.firstVersion logger manifests : StateM σ _) := by
  induction manifests with
  | nil => exact kept.pure _
  | cons manifest rest ih =>
    refine kept.bind (kept.packageVersion manifest) fun found => ?_
    split
    · exact kept.pure _
    · exact ih

theorem provider (o : GeneratorOptions) (env : Environment) (s : GeneratorSettings) (root : Path) :
    Keeps R (o.provider logger env s root : StateM σ _) := by
  unfold GeneratorOptions.provider
  split
  · exact kept.pure _
  split
  · exact kept.pure _
  split
  · exact kept.pure _
  · exact kept.bind (kept.firstVersion _) fun version => kept.pure _

theorem schemaDirectory (schema : Path) :
    Keeps R (schemaDirectory schema : StateM σ Path) := by
  refine kept.bind (kept.isFile schema) fun _ => kept.bind (kept.isDirectory schema) fun _ => ?_
  split <;> exact kept.pure _

theorem options (o : GeneratorOptions) (env : Environment) (s : GeneratorSettings) :
    Keeps R (o.run logger env s : StateM σ _) :=
  kept.bind (kept.schemaDirectory _) fun root =>
    kept.bind (kept.provider o env s root) fun _ => kept.run _ _

end KeptBy

theorem keeps_answer [Machine (StateM σ)] {session : Session}
    (kept : KeptBy R session.logger) (line : String) :
    Keeps R (session.answer line : StateM σ Response) := by
  unfold Session.answer
  split
  · refine kept.bind (kept.log _) fun _ => ?_
    split
    · exact kept.pure _
    split
    · unfold Session.generate
      split
      · exact kept.pure _
      refine kept.bind (kept.options _ _ _) fun outcome => ?_
      split
      · exact kept.bind (kept.log _) fun _ => kept.pure _
      · exact kept.bind (kept.log _) fun _ => kept.pure _
    · exact kept.pure _
  · exact kept.bind (kept.log _) fun _ => kept.pure _

end ShieldPolicy
