import ShieldPolicy.Proofs.Generation.Run
import ShieldPolicy.Proofs.Host.Answer

/-!
Failures before the output is written. A run that fails in its configuration or in taking in the
description has written nothing but its log, and neither has a request whose answer names one of
these stages: `early_failure_untouched`.
-/

namespace ShieldPolicy

open Disk OnDisk

section Runs

variable {σ : Type} [Machine (StateM σ)] {s s' : σ} {logger : Logger} {dir : Path}
  {document : Option Document} {config : GenerationConfig} {source : ModelSource}
  {e : GenerationError}

/-! ### Runs -/

theorem Output.stage_of_write
    (run : (Output.write logger dir document : StateM σ _) s = (.error e, s')) :
    e.stage = .output := by
  obtain ⟨made, s₁, -, run⟩ := bind_run run
  cases made with
  | error fault =>
    obtain ⟨failed, -⟩ := pure_run run
    cases failed
    rfl
  | ok =>
    obtain ⟨cleared, s₂, -, run⟩ := bind_run run
    cases cleared with
    | error fault =>
      obtain ⟨failed, -⟩ := pure_run run
      cases failed
      rfl
    | ok removed =>
      obtain ⟨⟨⟩, s₃, -, run⟩ := bind_run run
      cases document with
      | none =>
        obtain ⟨done, -⟩ := pure_run run
        cases done
      | some d =>
        obtain ⟨written, s₄, -, run⟩ := bind_run run
        cases written with
        | ok =>
          obtain ⟨done, -⟩ := pure_run run
          cases done
        | error fault =>
          obtain ⟨again, s₅, -, run⟩ := bind_run run
          cases again with
          | ok count =>
            obtain ⟨failed, -⟩ := pure_run run
            cases failed
            rfl
          | error fault' =>
            obtain ⟨⟨⟩, s₆, -, run⟩ := bind_run run
            obtain ⟨failed, -⟩ := pure_run run
            cases failed
            rfl

variable [OnDisk σ]

theorem Generation.run_logged
    (run : (Generation.run logger config source : StateM σ _) s = (.error e, s'))
    (early : e.stage ≠ .output) : Logged (disk s) (disk s') := by
  obtain ⟨-, logged⟩ | ⟨_, _, _, _, before, mid, -, -, -, logged, -, same, run⟩ := run_parts run
  · exact logged
  rw [← same] at logged
  obtain ⟨-, rfl⟩ | ⟨_, ready, after, written, -, -, writes, rest⟩ := produce_parts run
  · exact logged
  obtain ⟨⟨e', failed, same⟩, -⟩ | ⟨-, -, done⟩ := rest
  · cases same
    rw [failed] at writes
    exact absurd (Output.stage_of_write writes) early
  · cases done

/-! ### Requests -/

theorem schemaDirectory_run {p dir : Path}
    (run : (schemaDirectory p : StateM σ Path) s = (dir, s')) : disk s' = disk s := by
  obtain ⟨isFile, s₁, first, run⟩ := bind_run run
  obtain ⟨isDirectory, s₂, second, run⟩ := bind_run run
  have same : disk s₂ = disk s :=
    (isDirectory_run second).trans (isFile_run first)
  split at run
  all_goals
    obtain ⟨-, rfl⟩ := pure_run run
    exact same

namespace GeneratorOptions

variable {o : GeneratorOptions} {env : Environment} {settings : GeneratorSettings} {root : Path}

theorem packageVersion_logged {manifest : Path} {version : Option String}
    (run : (packageVersion logger manifest : StateM σ _) s = (version, s')) :
    Logged (disk s) (disk s') := by
  obtain ⟨text, mid, read, run⟩ := bind_run run
  rw [← (OnDisk.readText manifest s mid text read).1]
  cases text with
  | error fault =>
    obtain ⟨-, rfl⟩ := pure_run run
    exact Logged.refl _
  | ok text =>
    cases parsed : Json.parse text with
    | error e =>
      simp only [parsed] at run
      obtain ⟨⟨⟩, last, logged, run⟩ := bind_run run
      obtain ⟨-, rfl⟩ := pure_run run
      exact log_logged logged
    | ok package =>
      cases named : (package.get? "version").bind Json.text? with
      | none =>
        simp only [parsed, named] at run
        obtain ⟨-, rfl⟩ := pure_run run
        exact Logged.refl _
      | some version =>
        simp only [parsed, named] at run
        obtain ⟨⟨⟩, last, logged, run⟩ := bind_run run
        obtain ⟨-, rfl⟩ := pure_run run
        exact log_logged logged

theorem firstVersion_logged {manifests : List Path} {version : Option String}
    (run : (firstVersion logger manifests : StateM σ _) s = (version, s')) :
    Logged (disk s) (disk s') := by
  induction manifests generalizing s with
  | nil =>
    obtain ⟨-, rfl⟩ := pure_run run
    exact Logged.refl _
  | cons manifest rest ih =>
    obtain ⟨found, mid, first, run⟩ := bind_run run
    have logged := packageVersion_logged first
    cases found with
    | some version =>
      obtain ⟨-, rfl⟩ := pure_run run
      exact logged
    | none => exact logged.trans (ih run)

theorem provider_logged {provider : Option Provider}
    (run : (o.provider logger env settings root : StateM σ _) s = (provider, s')) :
    Logged (disk s) (disk s') := by
  unfold GeneratorOptions.provider at run
  cases chosen : o.companion? env with
  | none =>
    rw [chosen] at run
    obtain ⟨-, rfl⟩ := pure_run run
    exact Logged.refl _
  | some block =>
    cases named : block.provider.resolve env with
    | none =>
      simp only [chosen, named] at run
      obtain ⟨-, rfl⟩ := pure_run run
      exact Logged.refl _
    | some name =>
      cases given : o.generator.option? "clientVersion" <|> settings.clientVersion with
      | some version =>
        simp only [chosen, named, given] at run
        obtain ⟨-, rfl⟩ := pure_run run
        exact Logged.refl _
      | none =>
        simp only [chosen, named, given] at run
        obtain ⟨version, mid, found, run⟩ := bind_run run
        obtain ⟨-, rfl⟩ := pure_run run
        exact firstVersion_logged found

theorem run_logged (run : (o.run logger env settings : StateM σ _) s = (.error e, s'))
    (early : e.stage ≠ .output) : Logged (disk s) (disk s') := by
  obtain ⟨root, s₁, located, run⟩ := bind_run run
  obtain ⟨provider, s₂, chosen, run⟩ := bind_run run
  rw [← schemaDirectory_run located]
  exact (provider_logged chosen).trans (Generation.run_logged run early)

end GeneratorOptions

theorem Session.Answers.logged {session : Session} {line : String} {response : Response}
    (answers : session.Answers line s response s')
    (early : response.stage? = some "configuration" ∨ response.stage? = some "ingestion") :
    Logged (disk s) (disk s') := by
  cases answers with
  | malformed | manifest | unknown | unfit | fulfilled => rcases early with early | early <;> cases early
  | @failed _ _ e _ _ _ _ _ logged _ ran logged' =>
    rw [Response.stage?_ofRunError] at early
    have stage : e.stage ≠ .output := by
      intro output
      rw [output] at early
      revert early
      decide
    exact ((log_logged logged).trans (GeneratorOptions.run_logged ran stage)).trans
      (log_logged logged')

end Runs

/-- A run that fails in its configuration or in taking in the description leaves every entry as it
was, and so does a request whose answer names one of these stages. Only an open log file, if there
is one, is written to, and that only at its end. -/
theorem early_failure_untouched {σ : Type} [Machine (StateM σ)] [OnDisk σ] :
    (∀ (logger : Logger) (config : GenerationConfig) (source : ModelSource) (s s' : σ)
        (e : GenerationError),
      (Generation.run logger config source : StateM σ _) s = (.error e, s') →
      e.stage = .configuration ∨ e.stage = .ingestion →
      Logged (disk s) (disk s') ∧ ((disk s).journal = none → disk s' = disk s)) ∧
    ∀ (session : Session) (line : String) (s s' : σ) (response : Response),
      (session.answer line : StateM σ _) s = (response, s') →
      response.stage? = some "configuration" ∨ response.stage? = some "ingestion" →
      Logged (disk s) (disk s') ∧ ((disk s).journal = none → disk s' = disk s) := by
  constructor
  · intro logger config source s s' e run early
    have stage : e.stage ≠ .output := by
      intro output
      rw [output] at early
      rcases early with wrong | wrong <;> cases wrong
    have logged := Generation.run_logged run stage
    exact ⟨logged, logged.eq_of_no_journal⟩
  · intro session line s s' response run early
    have logged := (Session.answers_of_answer run).logged early
    exact ⟨logged, logged.eq_of_no_journal⟩

def olderWorld : World where
  files.entries := [(["out"], .directory), (["out", "shield.ts"], .file "old")]

/-- A description that mixes two vocabularies, which shows only after it was taken in. -/
def mixedSource : ModelSource :=
  ⟨some ⟨"prisma-client", none⟩,
    .operations [⟨"Post", "create", "createPost"⟩, ⟨"Post", "createOne", "createOnePost"⟩]⟩

def contextlessLine : String :=
  "\x7b\"id\":1,\"method\":\"generate\",\"params\":\x7b\"generator\":\x7b\"provider\":\x7b\x7d," ++
    "\"output\":\x7b\"value\":\"/out\"\x7d\x7d,\"schemaPath\":\"/app/schema.prisma\"\x7d\x7d"

theorem early_failure_untouched_older :
    (∃ e w, (Generation.run .silent ⟨⟨"/context.ts"⟩, ⟨"/out"⟩, ⟨"/app"⟩⟩ mixedSource :
        StateM World _) olderWorld = (.error e, w) ∧ e.stage = .configuration ∧
        disk w = disk olderWorld) ∧
      ∃ response w, (Session.answer {} contextlessLine : StateM World _) olderWorld =
        (response, w) ∧ response.stage? = some "configuration" ∧ disk w = disk olderWorld := by
  constructor
  · have failed : ((Generation.run .silent ⟨⟨"/context.ts"⟩, ⟨"/out"⟩, ⟨"/app"⟩⟩ mixedSource :
        StateM World _) olderWorld).1 =
          .error (.configuration (.mixedVocabularies "prisma-client")) := by decide +kernel
    cases run : (Generation.run .silent ⟨⟨"/context.ts"⟩, ⟨"/out"⟩, ⟨"/app"⟩⟩ mixedSource :
      StateM World _) olderWorld with
    | mk r w =>
      rw [run] at failed
      cases failed
      have untouched := early_failure_untouched.1 _ _ _ _ _ _ run (.inl rfl)
      exact ⟨_, w, rfl, rfl, untouched.2 rfl⟩
  · have stage : ((Session.answer {} contextlessLine : StateM World _) olderWorld).1.stage? =
        some "configuration" := by decide +kernel
    cases run : (Session.answer {} contextlessLine : StateM World _) olderWorld with
    | mk response w =>
      rw [run] at stage
      have untouched := early_failure_untouched.2 _ _ _ _ _ run (.inl stage)
      exact ⟨response, w, rfl, stage, untouched.2 rfl⟩

end ShieldPolicy
