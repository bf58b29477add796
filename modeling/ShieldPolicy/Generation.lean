import ShieldPolicy.Generation.Configuration
import ShieldPolicy.Operation.Description
import ShieldPolicy.Output

/-!
# A generation run

A run checks its configuration, chooses a vocabulary, takes in the model description, classifies its
operations and writes the policy. The first failure ends it. Nothing is changed before the last
step.
-/

namespace ShieldPolicy

inductive DescriptionSource where
  | file (path : Path)
  | json (value : Json)
  | operations (operations : List Operation)
  | failing (text : String)

structure ModelSource where
  provider : Option Provider
  description : DescriptionSource

structure GenerationReport where
  /-- The policy file, none when there was nothing to write. -/
  outputPath : Option Path
  vocabulary : Vocabulary
  models : Nat
  queries : Nat
  mutations : Nat
  subscriptions : Nat
  ignored : Nat
deriving DecidableEq

def GenerationReport.summary (r : GenerationReport) : String :=
  match r.outputPath with
  | some path =>
    "Wrote " ++ path.text ++ " (" ++ toString r.queries ++ " queries, " ++ toString r.mutations ++
      " mutations across " ++ toString r.models ++ " models)"
  | none => "No operations found; output directory left empty"

namespace Generation

variable {m : Type → Type} [Monad m] [Machine m]

/-- The endings that an import of a file may leave out. -/
def moduleEndings : List String := ["", ".ts", ".tsx", ".d.ts"]

def anyExists : List Path → m Bool
  | [] => return false
  | p :: rest => do
    if ← Machine.pathExists p then return true
    anyExists rest

def moduleExists (p : Path) : m Bool :=
  anyExists (moduleEndings.map fun ending => ⟨p.text ++ ending⟩)

def ingest : DescriptionSource → m (Except IngestionError ModelDescription)
  | .file path => do
    match ← Machine.readText path with
    | .error fault => return .error (.unreadable path fault)
    | .ok text => return (ModelDescription.ofText text).mapError .malformed
  | .json value => return (ModelDescription.ofJson value).mapError .malformed
  | .operations operations => return .ok ⟨operations⟩
  | .failing text => return .error (.provider text)

/-- The vocabulary of a client, or the one that its operations use when its version is not known. -/
def chooseVocabulary (p : Provider) (versioned : Option Vocabulary) (d : ModelDescription) :
    Except ConfigurationError Vocabulary :=
  match versioned with
  | some v => .ok v
  | none => Vocabulary.detect p d.operations

def report (d : ModelDescription) (v : Vocabulary) (set : OperationSet)
    (document : Option Document) : GenerationReport where
  outputPath := document.map Document.path
  vocabulary := v
  models := d.models.length
  queries := set.queries.length
  mutations := set.mutations.length
  subscriptions := set.subscriptions.length
  ignored := (v.classify d.operations).ignored

def documentFor (config : ValidatedConfig) (set : OperationSet) : Option Document :=
  (Policy.ofOperations? set config.contextSpecifier).map fun p => p.document config.outputFile

def written (dir : Path) : Option Document → Log.Event
  | some d => .policyWritten d.path
  | none => .nothingToWrite dir

def classify (logger : Logger) (v : Vocabulary) (operations : List Operation) :
    m OperationBuckets :=
  operations.foldlM (fun buckets o => do
    let bucket := v.bucket? o.kind
    if bucket.isNone then logger.log (.unknownKind o)
    return buckets.push o.name bucket) {}

def produce (logger : Logger) (dir : Path) (config : ValidatedConfig) (p : Provider)
    (versioned : Option Vocabulary) (d : ModelDescription) :
    m (Except GenerationError GenerationReport) := do
  match chooseVocabulary p versioned d with
  | .error e => return .error (.configuration e)
  | .ok v =>
  logger.log (.vocabularySelected p v versioned.isNone)
  let buckets ← classify logger v d.operations
  let set := buckets.sorted
  let document := documentFor config set
  let result := report d v set document
  logger.log (.classified result.models result.queries result.mutations result.ignored)
  match ← Output.write logger dir document with
  | .error e => return .error e
  | .ok () =>
  logger.log (written dir document)
  return .ok result

def run (logger : Logger) (config : GenerationConfig) (source : ModelSource) :
    m (Except GenerationError GenerationReport) := do
  match config.validate with
  | .error e => return .error (.configuration e)
  | .ok validated =>
  if !(← moduleExists validated.contextFile) then
    logger.log (.contextMissing validated.contextFile)
  match source.provider with
  | none => return .error (.configuration .missingCompanion)
  | some p =>
  match Vocabulary.ofProvider p with
  | .error e => return .error (.configuration e)
  | .ok versioned =>
  match ← ingest source.description with
  | .error e => return .error (.ingestion e)
  | .ok d => produce logger config.outputDirectory validated p versioned d

end Generation

end ShieldPolicy
