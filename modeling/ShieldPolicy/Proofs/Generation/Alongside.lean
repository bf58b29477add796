import ShieldPolicy.Generation
import ShieldPolicy.Proofs.Machine.Alongside
import ShieldPolicy.Proofs.Operation.Classification

/-!
Two runs of the generation side by side. Runs with the same configuration, whose descriptions use
the same kinds for the same names, choose the same vocabulary and write the same policy:
`Indifferent.run`.
-/

namespace ShieldPolicy

variable {d d' : ModelDescription} {v : Vocabulary} {b : Bucket}

/-! ### Descriptions that expose the same operations -/

/-- Whether two descriptions have the same kinds with the same names, whatever their order, their
models and their repetitions. -/
def ModelDescription.SameUses (d d' : ModelDescription) : Prop :=
  ∀ kind name, (∃ o ∈ d.operations, o.kind = kind ∧ o.name = name) ↔
    ∃ o ∈ d'.operations, o.kind = kind ∧ o.name = name

theorem ModelDescription.sameUses_iff : d.SameUses d' ↔
    (∀ o ∈ d.operations, ∃ o' ∈ d'.operations, o'.kind = o.kind ∧ o'.name = o.name) ∧
      ∀ o ∈ d'.operations, ∃ o' ∈ d.operations, o'.kind = o.kind ∧ o'.name = o.name := by
  constructor
  · intro same
    exact ⟨fun o member => (same o.kind o.name).mp ⟨o, member, rfl, rfl⟩,
      fun o member => (same o.kind o.name).mpr ⟨o, member, rfl, rfl⟩⟩
  · rintro ⟨left, right⟩ kind name
    constructor
    · rintro ⟨o, member, rfl, rfl⟩
      exact left o member
    · rintro ⟨o, member, rfl, rfl⟩
      exact right o member

instance : Decidable (d.SameUses d') := decidable_of_iff _ ModelDescription.sameUses_iff.symm

theorem ModelDescription.sameUses_of_perm (perm : d.operations.Perm d'.operations) :
    d.SameUses d' := by
  intro kind name
  simp only [perm.mem_iff]

theorem ModelDescription.SameUses.kind (same : d.SameUses d') (kind : String) :
    (∃ o ∈ d.operations, o.kind = kind) ↔ ∃ o ∈ d'.operations, o.kind = kind := by
  constructor
  · rintro ⟨o, member, used⟩
    obtain ⟨o', member', used', -⟩ := (same kind o.name).mp ⟨o, member, used, rfl⟩
    exact ⟨o', member', used'⟩
  · rintro ⟨o, member, used⟩
    obtain ⟨o', member', used', -⟩ := (same kind o.name).mpr ⟨o, member, used, rfl⟩
    exact ⟨o', member', used'⟩

namespace Vocabulary

theorem detect_congr (p : Provider) (same : d.SameUses d') :
    detect p d'.operations = detect p d.operations := by
  have uses (kinds : List String) :
      (d'.operations.any fun o => kinds.contains o.kind) =
        d.operations.any fun o => kinds.contains o.kind := by
    rw [Bool.eq_iff_iff, List.any_eq_true, List.any_eq_true]
    constructor
    · rintro ⟨o, member, known⟩
      obtain ⟨o', member', used⟩ := (same.kind o.kind).mpr ⟨o, member, rfl⟩
      exact ⟨o', member', used ▸ known⟩
    · rintro ⟨o, member, known⟩
      obtain ⟨o', member', used⟩ := (same.kind o.kind).mp ⟨o, member, rfl⟩
      exact ⟨o', member', used ▸ known⟩
  simp only [detect, uses]

theorem sortedNames_namesIn_congr (same : d.SameUses d') :
    sortedNames (v.namesIn b d'.operations) = sortedNames (v.namesIn b d.operations) := by
  refine sortedNames_congr fun name => ?_
  rw [mem_namesIn, mem_namesIn]
  constructor
  · rintro ⟨o, member, known, named⟩
    obtain ⟨o', member', used, named'⟩ := (same o.kind name).mpr ⟨o, member, rfl, named⟩
    exact ⟨o', member', used ▸ known, named'⟩
  · rintro ⟨o, member, known, named⟩
    obtain ⟨o', member', used, named'⟩ := (same o.kind name).mp ⟨o, member, rfl, named⟩
    exact ⟨o', member', used ▸ known, named'⟩

theorem sorted_classify_congr (same : d.SameUses d') :
    (v.classify d'.operations).sorted = (v.classify d.operations).sorted := by
  simp only [classify_eq, OperationBuckets.sorted, sortedNames_namesIn_congr same]

end Vocabulary

namespace Generation

theorem chooseVocabulary_congr (p : Provider) (versioned : Option Vocabulary)
    (same : d.SameUses d') :
    chooseVocabulary p versioned d' = chooseVocabulary p versioned d := by
  cases versioned with
  | some v => rfl
  | none => exact Vocabulary.detect_congr p same

def Reports (d d' : ModelDescription) (r r' : GenerationReport) : Prop :=
  ∃ v set document, r = report d v set document ∧ r' = report d' v set document

theorem Reports.same {r r' : GenerationReport} (reports : Reports d d' r r') :
    r'.outputPath = r.outputPath ∧ r'.vocabulary = r.vocabulary ∧ r'.queries = r.queries ∧
      r'.mutations = r.mutations ∧ r'.subscriptions = r.subscriptions := by
  obtain ⟨v, set, document, rfl, rfl⟩ := reports
  exact ⟨rfl, rfl, rfl, rfl, rfl⟩

theorem Reports.eq_of_perm {r r' : GenerationReport} (reports : Reports d d' r r')
    (perm : d.operations.Perm d'.operations) : r = r' := by
  obtain ⟨v, set, document, rfl, rfl⟩ := reports
  have models : d.models = d'.models := by
    unfold ModelDescription.models
    exact sortedNames_congr fun name => (perm.map Operation.model).mem_iff
  have ignored : (v.classify d.operations).ignored = (v.classify d'.operations).ignored := by
    rw [v.ignored_classify, v.ignored_classify, perm.countP_eq]
  simp only [report, models, ignored]

/-- Failures that are the same, or that are both ones of taking in the description. -/
inductive FailsAlike (E : IngestionError → IngestionError → Prop) :
    GenerationError → GenerationError → Prop where
  | same (e : GenerationError) : FailsAlike E e e
  | ingestion {e e' : IngestionError} (failures : E e e') :
      FailsAlike E (.ingestion e) (.ingestion e')

theorem FailsAlike.stage {E : IngestionError → IngestionError → Prop} {e e' : GenerationError}
    (fails : FailsAlike E e e') : e.stage = e'.stage := by
  cases fails <;> rfl

end Generation

/-! ### Runs -/

section Runs

open Generation

variable {σ : Type} {R : σ → σ → Prop} [Machine (StateM σ)] {logger logger' : Logger}

theorem Overlooked.anyExists (alike : Overlooked R logger logger') (ways : List Path) :
    Alongside R Eq (Generation.anyExists ways : StateM σ Bool) (Generation.anyExists ways) := by
  induction ways with
  | nil => exact .pure rfl
  | cons p rest ih =>
    refine Alongside.same ((alike.status p).same fun kind => .pure rfl) fun found => ?_
    split
    · exact .pure rfl
    · exact ih

namespace Indifferent

theorem produce (alike : Indifferent R logger logger') (dir : Path) (config : ValidatedConfig)
    (p : Provider) (versioned : Option Vocabulary) (same : d.SameUses d') :
    Alongside R (Outcomes Eq (Reports d d'))
      (Generation.produce logger dir config p versioned d : StateM σ _)
      (Generation.produce logger' dir config p versioned d') := by
  unfold Generation.produce
  rw [chooseVocabulary_congr p versioned same]
  split
  · exact .pure (.error rfl)
  rename_i v chosen
  rw [classify_eq, classify_eq, bind_assoc, bind_assoc]
  refine (alike.log _ _).same fun _ => (alike.logAll _ _).same fun _ => ?_
  rw [pure_bind, pure_bind, Vocabulary.sorted_classify_congr same]
  refine (alike.log _ _).same fun _ => (alike.write dir _).same fun written => ?_
  split
  · exact .pure (.error rfl)
  · exact (alike.log _ _).same fun _ => .pure (.ok ⟨_, _, _, rfl, rfl⟩)

variable {R₀ : σ → σ → Prop} {S : ModelDescription → ModelDescription → Prop}
  {E : IngestionError → IngestionError → Prop} {source source' : DescriptionSource}

/-- Runs that differ in the description alone end alike. Until the descriptions were taken in, a
narrower relation may count. -/
theorem run_from (alike : Indifferent R logger logger') (before : Overlooked R₀ logger logger')
    (within : ∀ {s t}, R₀ s t → R s t) (config : GenerationConfig) (provider : Option Provider)
    (taken : Alongside R₀ (Outcomes E S) (ingest source : StateM σ _) (ingest source'))
    (uses : ∀ d d', S d d' → d.SameUses d') :
    Leads R₀ R
      (Outcomes (FailsAlike E) fun r r' => ∃ d d', S d d' ∧ Reports d d' r r')
      (Generation.run logger config ⟨provider, source⟩ : StateM σ _)
      (Generation.run logger' config ⟨provider, source'⟩) := by
  unfold Generation.run
  split
  · exact .pure within (.error (.same _))
  rename_i validated valid
  refine .same (before.anyExists _) fun found => ?_
  extract_lets next next'
  have rest : Leads R₀ R
      (Outcomes (FailsAlike E) fun r r' => ∃ d d', S d d' ∧ Reports d d' r r')
      (next ()) (next' ()) := by
    unfold next next'
    dsimp only
    split
    · exact .pure within (.error (.same _))
    split
    · exact .pure within (.error (.same _))
    refine .bind taken fun answer answer' answers => ?_
    cases answers with
    | error failures => exact .pure within (.error (.ingestion failures))
    | ok related =>
      refine .of_alongside within ((alike.produce _ _ _ _ (uses _ _ related)).imp
        fun r r' outcomes => outcomes.imp ?_ ?_)
      · rintro e _ rfl
        exact .same e
      · exact fun a b reports => ⟨_, _, related, reports⟩
  split
  · exact .same (before.log _ _) fun _ => rest
  · exact rest

theorem run (alike : Indifferent R logger logger') (config : GenerationConfig)
    (provider : Option Provider)
    (taken : Alongside R (Outcomes E S) (ingest source : StateM σ _) (ingest source'))
    (uses : ∀ d d', S d d' → d.SameUses d') :
    Alongside R
      (Outcomes (FailsAlike E) fun r r' => ∃ d d', S d d' ∧ Reports d d' r r')
      (Generation.run logger config ⟨provider, source⟩ : StateM σ _)
      (Generation.run logger' config ⟨provider, source'⟩) :=
  alike.run_from alike.toOverlooked id config provider taken uses

end Indifferent

end Runs

end ShieldPolicy
