import ShieldPolicy.Proofs.Generation.Run
import ShieldPolicy.Proofs.Output.Again

/-!
Running again on the files that a run has left: `run_again`.
-/

namespace ShieldPolicy.Generation

open FileSystem Disk OnDisk
open Location (Below)

/-! ### Runs that go on -/

section Steps

variable {σ : Type} [Machine (StateM σ)] [OnDisk σ] {s : σ} {config : GenerationConfig}
  {source : ModelSource} {validated : ValidatedConfig} {p : Provider}
  {versioned : Option Vocabulary} {d : ModelDescription} {v : Vocabulary}

theorem run_of_produce (logger : Logger) (accepted : config.validate = .ok validated)
    (provided : source.provider = some p) (known : Vocabulary.ofProvider p = .ok versioned)
    (ingests : ∀ t, Spares (fun _ => False) (disk s) (disk t) →
      ∃ t', (ingest source.description : StateM σ _) t = (.ok d, t')) :
    ∃ t, Spares (fun _ => False) (disk s) (disk t) ∧
      (Generation.run logger config source : StateM σ _) s =
        (produce logger config.outputDirectory validated p versioned d : StateM σ _) t := by
  obtain ⟨there, s₁, looked⟩ : ∃ there s₁,
    (moduleExists validated.contextFile : StateM σ _) s = (there, s₁) := ⟨_, _, rfl⟩
  obtain ⟨before, quiet, onward⟩ := optional_run (!there)
    (logger.log (.contextMissing validated.contextFile) : StateM σ Unit) s₁
  have spares : Spares (fun _ => False) (disk s) (disk before) := by
    rw [← anyExists_run looked]
    obtain rfl | logged := quiet
    · exact Spares.refl _ _
    · exact log_spares logged
  obtain ⟨after, taken⟩ := ingests before spares
  refine ⟨after, (ingest_run taken).symm ▸ spares, ?_⟩
  unfold Generation.run
  rw [accepted]
  dsimp only
  rw [run_bind looked, provided]
  simp only [known]
  exact (onward _).trans (run_bind taken)

theorem produce_of_write (logger : Logger) (dir : Path) (validated : ValidatedConfig)
    (chosen : chooseVocabulary p versioned d = .ok v)
    (writes : ∀ t, Spares (fun _ => False) (disk s) (disk t) → ∃ t',
      (Output.write logger dir (documentFor validated (operationSet v d)) : StateM σ _) t =
        (.ok (), t') ∧ Spares (fun _ => False) (disk t) (disk t')) :
    ∃ s', (produce logger dir validated p versioned d : StateM σ _) s =
        (.ok (report d v (operationSet v d) (documentFor validated (operationSet v d))), s') ∧
      Spares (fun _ => False) (disk s) (disk s') := by
  obtain ⟨s₁, first, selected⟩ := exists_log logger (.vocabularySelected p v versioned.isNone) s
  obtain ⟨_, s₂, second⟩ : ∃ buckets s₂,
    (Generation.classify logger v d.operations : StateM σ _) s₁ = (buckets, s₂) := ⟨_, _, rfl⟩
  obtain ⟨rfl, classified⟩ := classify_run second
  obtain ⟨result, same⟩ : ∃ result,
    result = report d v (operationSet v d) (documentFor validated (operationSet v d)) := ⟨_, rfl⟩
  obtain ⟨s₃, third, counted⟩ := exists_log logger
    (.classified result.models result.queries result.mutations result.ignored) s₂
  have quiet := (selected.trans classified.spares).trans counted
  obtain ⟨s₄, written, writing⟩ := writes s₃ quiet
  obtain ⟨s₅, last, told⟩ := exists_log logger
    (Generation.written dir (documentFor validated (operationSet v d))) s₄
  refine ⟨s₅, ?_, (quiet.trans writing).trans told⟩
  subst same
  unfold produce
  rw [chosen]
  dsimp only
  rw [run_bind first, run_bind second]
  refine (run_bind third).trans ?_
  refine (run_bind written).trans ?_
  exact run_bind last

end Steps

/-! ### A second run -/

variable {s s' t : World} {logger : Logger} {config : GenerationConfig} {source : ModelSource}
  {report : GenerationReport}

/-- A second run on what the first one has left succeeds with the same report and changes nothing,
if it takes in the same description and the output directory can still be reached. -/
theorem run_again (sound : (disk s).Sound)
    (run : (Generation.run logger config source : StateM World _) s = (.ok report, s'))
    (reached : ∃ l, s'.files.find config.outputDirectory = .ok (l, .directory))
    (taken : ∀ d before after, Spares (fun _ => False) (disk s) (disk before) →
      (ingest source.description : StateM World _) before = (.ok d, after) →
      ∀ t, Spares (fun _ => False) (disk s') (disk t) →
        ∃ t', (ingest source.description : StateM World _) t = (.ok d, t'))
    (start : Spares (fun _ => False) (disk s') (disk t)) :
    ∃ t', (Generation.run logger config source : StateM World _) t = (.ok report, t') ∧
      Spares (fun _ => False) (disk t) (disk t') := by
  rcases run_cases sound run with ⟨⟨e, failed⟩, -⟩ |
    ⟨validated, p, versioned, d, before, mid, accepted, provided, known, quiet, ingested, -, sound',
      run⟩
  · cases failed
  rcases produce_run sound' run with
    ⟨⟨e, failed⟩, -⟩ | ⟨v, ready, after, written, chosen, sound'', -, writes, rest⟩
  · cases failed
  rcases rest with ⟨⟨e, -, failed⟩, -⟩ | ⟨rfl, last, same⟩
  · cases failed
  cases same
  have named (document : Document) : documentFor validated (operationSet v d) = some document →
      document.path = config.outputDirectory.join ⟨"shield.ts"⟩ := path_of_documentFor accepted
  obtain ⟨made, -, -, done, -⟩ := Output.write_outcome sound'' Output.validName_policy
    Output.validName_draft named writes
  obtain ⟨out, found, confined, filled, apart⟩ := done rfl
  obtain ⟨l, reached⟩ := reached
  have screened (some : documentFor validated (operationSet v d) ≠ none) :
      Output.Screened config.outputDirectory "shield.ts" ∧
        Output.Screened config.outputDirectory ("shield.ts" ++ ".tmp") := by
    cases due : documentFor validated (operationSet v d) with
    | none => exact absurd due some
    | some document =>
      rw [due] at writes
      obtain ⟨-, failed⟩ | ⟨begun, -, ⟨whole, -⟩ | ⟨_, _, _, _, _, _, _, failed⟩⟩ :=
        Output.write_some writes
      · exact absurd rfl failed
      · exact Output.screened_of_writeWhole (present_of_find found) Output.validName_policy
          Output.validName_draft (named document due) whole
      · cases failed
  -- What the first run has left, whatever was logged since.
  have left (u : World) (quiet : Spares (fun _ => False) (disk s') (disk u)) :
      (disk u).Sound ∧ u.files.find config.outputDirectory = .ok (out, .directory) ∧
        u.files.Holds out "shield.ts" (documentFor validated (operationSet v d)) := by
    have shrunk := confined.shrunk.trans (shrunk_of_sameShape last.current last.sameShape)
    have entered := (find_directory_iff.mp reached).2
    have before := (enter_of_shrunk shrunk (root_not_mem_tail_steps _) entered).1
    rw [(find_directory_iff.mp found).2] at before
    cases before
    have holds := Holds.of_filled (filled.of_spares apart last) shrunk entered
    exact ⟨confined.sound.of_spares (last.trans quiet), quiet.find_directory_iff.mpr reached,
      holds.of_spares (fun l logged => apart l (last.journal logged)) quiet⟩
  obtain ⟨begun, quiet', onward⟩ := run_of_produce logger accepted provided known
    fun u quiet' => taken d before mid quiet ingested u (start.trans quiet')
  obtain ⟨t', produced, still⟩ := produce_of_write (s := begun) logger
    config.outputDirectory validated chosen fun u quiet'' => by
      obtain ⟨sound, found, holds⟩ := left u ((start.trans quiet').trans quiet'')
      obtain ⟨u', written, spares, holds'⟩ := Output.write_again screened named sound found holds
      exact ⟨u', written, holds.spares holds' spares⟩
  exact ⟨t', onward.trans produced, quiet'.trans still⟩

end ShieldPolicy.Generation
