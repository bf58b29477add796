import ShieldPolicy.Proofs.FileSystem.Place
import ShieldPolicy.Proofs.Generation.Run

/-!
The user's own sources. Where there are no links, a run spares the context file, and the schema
directory too when its path does not climb above the root: `accepted_run_spares`.
-/

namespace ShieldPolicy

open FileSystem Disk OnDisk GenerationConfig
open Location (Below)

variable {σ : Type} [Machine (StateM σ)] [OnDisk σ] {s s' : σ} {logger : Logger}
  {config : GenerationConfig} {source : ModelSource} {validated : ValidatedConfig}
  {r : Except GenerationError GenerationReport}

/-! ### Trees without links -/

theorem FileSystem.LinkFree.of_grown {fs fs' : FileSystem} (free : fs.LinkFree) (grown : Grown fs fs') :
    fs'.LinkFree := by
  intro l target entry
  rcases grown.fresh entry with before | other
  · exact free l target before
  · cases other

theorem FileSystem.LinkFree.of_spares {d d' : Disk} (free : d.files.LinkFree)
    (spares : Spares (fun _ => False) d d') : d'.files.LinkFree :=
  fun l target entry => free l target ((spares.sameShape l).symm.of_link entry)

/-- A run changes nothing but the log file and what is below the place of the output directory. -/
theorem run_keeps {l : Location} (accepted : config.validate = .ok validated)
    (sound : (disk s).Sound) (free : (disk s).files.LinkFree)
    (run : (Generation.run logger config source : StateM σ _) s = (r, s'))
    (outside : ¬ Below config.outputDirectory.place l)
    (present : ((disk s).files.entry? l).isSome) : SameAt (disk s) (disk s') l := by
  obtain ⟨before, made, quiet, makes, spares⟩ := Generation.run_spares_present sound run
  refine spares.entries l ?_
  rintro (absent | ⟨out, found, below⟩)
  · rw [absent] at present
    cases present
  · -- Without links the output directory is where its path says.
    rw [((free.of_spares quiet).of_grown makes.files).find_place (accepted_absolute accepted).1
      found] at below
    exact outside below

/-! ### The sources of an accepted configuration -/

/-- The output directory of an accepted configuration is not the root and does not hold the context
file. It holds the schema directory only where the path of that climbs above the root and is checked
as if it were the root. A run leaves the context file in place, and the schema directory when its
path does not climb. -/
theorem accepted_run_spares (accepted : config.validate = .ok validated) (sound : (disk s).Sound)
    (free : (disk s).files.LinkFree)
    (run : (Generation.run logger config source : StateM σ _) s = (r, s')) :
    (∀ p l e, p.isAbsolute → (disk s).files.find p = .ok (l, e) → l = p.place) ∧
      config.outputDirectory.place ≠ [] ∧
      ¬ config.outputDirectory.place <+: config.contextAnchored.place ∧
      (config.outputDirectory.place <+: config.schemaRoot.place → config.schemaRoot.locate? = none) ∧
      (config.schemaRoot.locate? = none → config.contextPath.portable.isAbsolute ∧
        config.validate = { config with schemaRoot := ⟨"/"⟩ }.validate) ∧
      (((disk s).files.entry? config.contextAnchored.place).isSome →
        SameAt (disk s) (disk s') config.contextAnchored.place) ∧
      (config.schemaRoot.locate? ≠ none →
        (disk s).files.entry? config.schemaRoot.place = some .directory →
        (disk s').files.entry? config.schemaRoot.place = some .directory) := by
  obtain ⟨output, context, outputAt, nonroot, contextAt, apart, schemaApart⟩ :=
    accepted_located accepted
  have outputPlace := Path.place_of_locate? outputAt
  have contextPlace := Path.place_of_locate? contextAt
  have schema : config.outputDirectory.place <+: config.schemaRoot.place →
      config.schemaRoot.locate? = none := by
    intro within
    cases located : config.schemaRoot.locate? with
    | none => rfl
    | some l =>
      rw [outputPlace, Path.place_of_locate? located] at within
      exact absurd within (schemaApart l located)
  refine ⟨fun p l e absolute found => free.find_place absolute found, outputPlace ▸ nonroot,
    by rwa [outputPlace, contextPlace], schema, fun above => ?_, fun present => ?_,
    fun located there => ?_⟩
  · have absolute := context_absolute accepted above
    exact ⟨absolute,
      validate_of_schemaRoot_above_root above (accepted_absolute accepted).2 absolute⟩
  · refine run_keeps accepted sound free run (fun below => apart ?_) present
    rw [outputPlace, contextPlace] at below
    exact below.1
  · have kept := run_keeps accepted sound free run (fun below => located (schema below.1))
      (by rw [there]; rfl)
    exact kept.sameShape.of_directory there

def schemaWorld : World where
  files.entries := [(["app"], .directory), (["app", "context.ts"], .file "type"),
    (["app", "out"], .directory), (["app", "out", "old.ts"], .file "old")]

def schemaConfig : GenerationConfig := ⟨⟨"context.ts"⟩, ⟨"/app/./out"⟩, ⟨"/app"⟩⟩

def singleSource : ModelSource :=
  ⟨some ⟨"prisma-client", none⟩, .operations [⟨"Post", "findMany", "findManyPost"⟩]⟩

/-- The output is replaced, and the schema directory and the context file are kept. -/
theorem accepted_run_spares_schema : ∃ r w,
    (Generation.run .silent schemaConfig singleSource : StateM World _) schemaWorld = (r, w) ∧
      w.files.entry? ["app", "out", "old.ts"] = none ∧
      w.files.entry? ["app"] = some .directory ∧
      w.files.entry? ["app", "context.ts"] = some (.file "type") := by
  have sound : (disk schemaWorld).Sound := ⟨wellFormed_of_tidy (by decide +kernel), nofun⟩
  have free : (disk schemaWorld).files.LinkFree := linkFree_of_all (by decide +kernel)
  have checked : schemaConfig.validate.toOption.isSome := by decide +kernel
  have gone : ((Generation.run .silent schemaConfig singleSource : StateM World _)
    schemaWorld).2.files.entry? ["app", "out", "old.ts"] = none := by decide +kernel
  cases run : (Generation.run .silent schemaConfig singleSource : StateM World _) schemaWorld with
  | mk r w =>
    rw [run] at gone
    cases accepted : schemaConfig.validate with
    | error e =>
      rw [accepted] at checked
      cases checked
    | ok validated =>
      obtain ⟨-, -, -, -, -, context, schema⟩ := accepted_run_spares accepted sound free run
      refine ⟨r, w, rfl, gone, schema (by decide) (by decide), ?_⟩
      have file : schemaConfig.contextAnchored.place = ["app", "context.ts"] := by decide
      rw [file] at context
      rcases context (by decide) with same | ⟨logged, -⟩
      · exact same
      · cases logged

def heldWorld : World where
  files.entries := [(["a"], .directory), (["a", "b"], .directory),
    (["a", "b", "schema.prisma"], .file "models")]

def climbingConfig : GenerationConfig := ⟨⟨"/context.ts"⟩, ⟨"/a"⟩, ⟨"/../a/b"⟩⟩

/-- An accepted configuration whose output directory holds the schema directory, which is lost. -/
theorem run_wipes_schema : climbingConfig.validate.toOption.isSome ∧
    heldWorld.files.find climbingConfig.schemaRoot = .ok (["a", "b"], .directory) ∧
    ∃ r w, (Generation.run .silent climbingConfig singleSource : StateM World _) heldWorld = (r, w) ∧
      w.files.entry? ["a", "b"] = none := by
  refine ⟨by decide +kernel, by decide +kernel, ?_⟩
  have gone : ((Generation.run .silent climbingConfig singleSource : StateM World _)
    heldWorld).2.files.entry? ["a", "b"] = none := by decide +kernel
  exact ⟨_, _, (Prod.eta _).symm, gone⟩

end ShieldPolicy
