import ShieldPolicy.Generation
import ShieldPolicy.Proofs.Generation.Configuration
import ShieldPolicy.Proofs.Operation.Classification
import ShieldPolicy.Proofs.Output.Outcome

/-!
What a generation run does, step by step. Nothing but the log file changes before the output is
written: `run_cases`.
-/

namespace ShieldPolicy.Generation

open FileSystem Disk OnDisk
open Location (Below)

variable {σ : Type} [Machine (StateM σ)] [OnDisk σ] {s s' : σ} {logger : Logger}
  {config : GenerationConfig} {source : ModelSource} {dir : Path} {validated : ValidatedConfig}
  {p : Provider} {versioned : Option Vocabulary} {d : ModelDescription}
  {r : Except GenerationError GenerationReport}

/-! ### Steps that only look -/

theorem anyExists_run {ps : List Path} {b : Bool}
    (run : (anyExists ps : StateM σ Bool) s = (b, s')) : disk s' = disk s := by
  induction ps generalizing s with
  | nil =>
    obtain ⟨-, rfl⟩ := pure_run run
    rfl
  | cons p rest ih =>
    obtain ⟨there, mid, looked, run⟩ := bind_run run
    obtain ⟨kind, mid', status, looked⟩ := bind_run looked
    obtain ⟨-, rfl⟩ := pure_run looked
    have same := (OnDisk.status p s mid kind status).1
    split at run
    · obtain ⟨-, rfl⟩ := pure_run run
      exact same
    · exact (ih run).trans same

theorem ingest_run {source : DescriptionSource} {r : Except IngestionError ModelDescription}
    (run : (ingest source : StateM σ _) s = (r, s')) : disk s' = disk s := by
  cases source with
  | json | operations | failing =>
    obtain ⟨-, rfl⟩ := pure_run run
    rfl
  | file path =>
    obtain ⟨text, mid, read, run⟩ := bind_run run
    have same := (OnDisk.readText path s mid text read).1
    split at run
    all_goals
      obtain ⟨-, rfl⟩ := pure_run run
      exact same

/-! ### A run -/

def operationSet (v : Vocabulary) (d : ModelDescription) : OperationSet :=
  (v.classify d.operations).sorted

theorem classify_run {buckets : OperationBuckets} {operations : List Operation}
    (run : (classify logger v operations : StateM σ _) s = (buckets, s')) :
    buckets = v.classify operations ∧ Logged (disk s) (disk s') := by
  rw [classify_eq] at run
  obtain ⟨⟨⟩, _, logged, same⟩ := bind_run run
  obtain ⟨rfl, rfl⟩ := pure_run same
  exact ⟨rfl, logAll_logged logged⟩

theorem produce_parts
    (run : (produce logger dir validated p versioned d : StateM σ _) s = (r, s')) :
    (∃ e, r = .error (.configuration e)) ∧ s' = s ∨
      ∃ v before after written, chooseVocabulary p versioned d = .ok v ∧
        Logged (disk s) (disk before) ∧
        (Output.write logger dir (documentFor validated (operationSet v d)) : StateM σ _) before =
          (written, after) ∧
        ((∃ e, written = .error e ∧ r = .error e) ∧ s' = after ∨
          written = .ok () ∧ Logged (disk after) (disk s') ∧
            r = .ok (report d v (operationSet v d) (documentFor validated (operationSet v d)))) := by
  unfold produce at run
  cases chosen : chooseVocabulary p versioned d with
  | error e =>
    rw [chosen] at run
    obtain ⟨rfl, rfl⟩ := pure_run run
    exact .inl ⟨⟨_, rfl⟩, rfl⟩
  | ok v =>
    rw [chosen] at run
    obtain ⟨⟨⟩, s₁, first, run⟩ := bind_run run
    obtain ⟨_, s₂, second, run⟩ := bind_run run
    obtain ⟨rfl, classified⟩ := classify_run second
    obtain ⟨⟨⟩, s₃, third, run⟩ := bind_run run
    obtain ⟨written, after, writes, run⟩ := bind_run run
    have logged := ((log_logged first).trans classified).trans (log_logged third)
    refine .inr ⟨v, s₃, after, written, rfl, logged, writes, ?_⟩
    split at run
    · obtain ⟨rfl, rfl⟩ := pure_run run
      exact .inl ⟨⟨_, rfl, rfl⟩, rfl⟩
    · obtain ⟨⟨⟩, last, logged, run⟩ := bind_run run
      obtain ⟨rfl, rfl⟩ := pure_run run
      exact .inr ⟨rfl, log_logged logged, rfl⟩

theorem produce_run (sound : (disk s).Sound)
    (run : (produce logger dir validated p versioned d : StateM σ _) s = (r, s')) :
    (∃ e, r = .error (.configuration e)) ∧ s' = s ∨
      ∃ v before after written, chooseVocabulary p versioned d = .ok v ∧
        (disk before).Sound ∧ Spares (fun _ => False) (disk s) (disk before) ∧
        (Output.write logger dir (documentFor validated (operationSet v d)) : StateM σ _) before =
          (written, after) ∧
        ((∃ e, written = .error e ∧ r = .error e) ∧ s' = after ∨
          written = .ok () ∧ Spares (fun _ => False) (disk after) (disk s') ∧
            r = .ok (report d v (operationSet v d) (documentFor validated (operationSet v d)))) := by
  obtain early | ⟨v, before, after, written, chosen, logged, writes, rest⟩ := produce_parts run
  · exact .inl early
  · refine .inr ⟨v, before, after, written, chosen, sound.of_spares logged.spares, logged.spares,
      writes, ?_⟩
    exact rest.imp_right fun ⟨done, logged', result⟩ => ⟨done, logged'.spares, result⟩

/-- Either a run is over before it produces anything, and then it names one of the first two stages,
or it has taken in a description. -/
theorem run_parts (run : (Generation.run logger config source : StateM σ _) s = (r, s')) :
    ((∃ e, r = .error (.configuration e)) ∨ ∃ e, r = .error (.ingestion e)) ∧
        Logged (disk s) (disk s') ∨
      ∃ validated p versioned d before mid, config.validate = .ok validated ∧
        source.provider = some p ∧ Vocabulary.ofProvider p = .ok versioned ∧
        Logged (disk s) (disk before) ∧
        (ingest source.description : StateM σ _) before = (.ok d, mid) ∧
        disk mid = disk before ∧
        (produce logger config.outputDirectory validated p versioned d : StateM σ _) mid =
          (r, s') := by
  unfold Generation.run at run
  cases accepted : config.validate with
  | error e =>
    rw [accepted] at run
    obtain ⟨rfl, rfl⟩ := pure_run run
    exact .inl ⟨.inl ⟨_, rfl⟩, Logged.refl _⟩
  | ok validated =>
    rw [accepted] at run
    obtain ⟨there, s₁, looked, run⟩ := bind_run run
    -- Whether the context file exists only decides what is logged.
    obtain ⟨before, quiet, onward⟩ := optional_run (!there)
      (logger.log (.contextMissing validated.contextFile) : StateM σ Unit) s₁
    replace run := (onward _).symm.trans run
    have logged : Logged (disk s) (disk before) := by
      rw [← anyExists_run looked]
      obtain rfl | logged := quiet
      · exact Logged.refl _
      · exact log_logged logged
    cases provided : source.provider with
    | none =>
      rw [provided] at run
      obtain ⟨rfl, rfl⟩ := pure_run run
      exact .inl ⟨.inl ⟨_, rfl⟩, logged⟩
    | some p =>
      rw [provided] at run
      cases known : Vocabulary.ofProvider p with
      | error e =>
        simp only [known] at run
        obtain ⟨rfl, rfl⟩ := pure_run run
        exact .inl ⟨.inl ⟨_, rfl⟩, logged⟩
      | ok versioned =>
        simp only [known] at run
        obtain ⟨taken, mid, ingested, run⟩ := bind_run run
        have same := ingest_run ingested
        cases taken with
        | error e =>
          obtain ⟨rfl, rfl⟩ := pure_run run
          exact .inl ⟨.inr ⟨_, rfl⟩, same ▸ logged⟩
        | ok d =>
          exact .inr ⟨validated, p, versioned, d, before, mid, rfl, rfl, known, logged,
            ingested, same, run⟩

theorem run_cases (sound : (disk s).Sound)
    (run : (Generation.run logger config source : StateM σ _) s = (r, s')) :
    (∃ e, r = .error e) ∧ Spares (fun _ => False) (disk s) (disk s') ∨
      ∃ validated p versioned d before mid, config.validate = .ok validated ∧
        source.provider = some p ∧ Vocabulary.ofProvider p = .ok versioned ∧
        Spares (fun _ => False) (disk s) (disk before) ∧
        (ingest source.description : StateM σ _) before = (.ok d, mid) ∧
        disk mid = disk before ∧ (disk mid).Sound ∧
        (produce logger config.outputDirectory validated p versioned d : StateM σ _) mid =
          (r, s') := by
  obtain ⟨⟨e, failed⟩ | ⟨e, failed⟩, logged⟩ |
    ⟨validated, p, versioned, d, before, mid, accepted, provided, known, logged, ingested, same,
      run⟩ := run_parts run
  · exact .inl ⟨⟨_, failed⟩, logged.spares⟩
  · exact .inl ⟨⟨_, failed⟩, logged.spares⟩
  · exact .inr ⟨validated, p, versioned, d, before, mid, accepted, provided, known, logged.spares,
      ingested, same, same ▸ sound.of_spares logged.spares, run⟩

/-! ### The policy file -/

theorem path_of_documentFor {set : OperationSet} {document : Document}
    (accepted : config.validate = .ok validated) (due : documentFor validated set = some document) :
    document.path = config.outputDirectory.join ⟨"shield.ts"⟩ := by
  obtain ⟨policy, -, rfl⟩ := Option.map_eq_some_iff.mp due
  exact (GenerationConfig.validate_eq_ok accepted).2.2

/-- A run changes nothing but the log file and, once missing directories were made, what is in the
output directory. -/
theorem run_spares (sound : (disk s).Sound)
    (run : (Generation.run logger config source : StateM σ _) s = (r, s')) :
    Spares (fun _ => False) (disk s) (disk s') ∨
      ∃ (ready : σ) (made : Disk), Logged (disk s) (disk ready) ∧
        made = Output.furnished config.outputDirectory ready ∧ Made (disk ready) made ∧
        (Spares (fun _ => False) made (disk s') ∨
          ∃ out, made.files.find config.outputDirectory = .ok (out, .directory) ∧
            Spares (Below out) made (disk s')) := by
  rcases run_parts run with ⟨-, logged⟩ |
    ⟨validated, p, versioned, d, before, mid, accepted, -, -, logged, -, same, produced⟩
  · exact .inl logged.spares
  rw [← same] at logged
  rcases produce_parts produced with ⟨-, rfl⟩ | ⟨v, ready, after, written, -, quiet, writes, rest⟩
  · exact .inl logged.spares
  have quiet' : Spares (fun _ => False) (disk after) (disk s') := by
    rcases rest with ⟨-, rfl⟩ | ⟨-, last, -⟩
    · exact Spares.refl _ _
    · exact last.spares
  have logged := logged.trans quiet
  obtain ⟨made, meant, makes, -, -, -, confined⟩ := Output.write_outcome
    (sound.of_spares logged.spares) Output.validName_policy Output.validName_draft
    (fun _ => path_of_documentFor accepted) writes
  refine .inr ⟨ready, made, logged, meant, makes, ?_⟩
  rcases confined with same | ⟨out, found, outside⟩
  · exact .inl (same ▸ quiet')
  · exact .inr ⟨out, found, outside.trans quiet'.within⟩

theorem run_spares_present (sound : (disk s).Sound)
    (run : (Generation.run logger config source : StateM σ _) s = (r, s')) :
    ∃ before made, Spares (fun _ => False) (disk s) before ∧ Made before made ∧
      Spares (fun q => (disk s).files.entry? q = none ∨
        ∃ out, made.files.find config.outputDirectory = .ok (out, .directory) ∧ Below out q)
        (disk s) (disk s') := by
  rcases run_spares sound run with spares | ⟨ready, made, logged, -, makes, rest⟩
  · exact ⟨_, _, spares, (sound.of_spares spares).made, spares.within⟩
  have quiet := logged.spares
  have kept : Spares (fun q => (disk s).files.entry? q = none) (disk s) made := by
    refine ⟨makes.files.current.trans quiet.current, fun logged => quiet.journal ?_,
      fun q present => ?_⟩
    · rwa [makes.journal] at logged
    · have first := quiet.entries q id
      refine first.trans quiet.journal (makes.sameAt ?_)
      rw [first.sameShape.isSome_eq, Option.isSome_iff_ne_none]
      exact present
  refine ⟨disk ready, made, quiet, makes, (kept.mono fun _ => .inl).trans ?_⟩
  rcases rest with spares | ⟨out, found, spares⟩
  · exact spares.within
  · exact spares.mono fun q below => .inr ⟨out, found, below⟩

end ShieldPolicy.Generation
