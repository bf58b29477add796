import ShieldPolicy.Proofs.Generation.Alongside
import ShieldPolicy.Proofs.Generation.Exactness
import ShieldPolicy.Proofs.Machine.Alike
import ShieldPolicy.Proofs.Operation.Description

/-!
Neither the order nor the repetition of the operations shows in what a run does, `run_orderless`.
-/

namespace ShieldPolicy

open Generation FileSystem Disk OnDisk
open Location (Below)

def GenerationReport.SamePolicy (r r' : GenerationReport) : Prop :=
  r'.outputPath = r.outputPath ∧ r'.vocabulary = r.vocabulary ∧ r'.queries = r.queries ∧
    r'.mutations = r.mutations ∧ r'.subscriptions = r.subscriptions

variable {logger logger' : Logger} {config : GenerationConfig} {provider : Option Provider}
  {d d' : ModelDescription} {j j' : Json} {w w' s s' : World}
  {r r' : Except GenerationError GenerationReport}

theorem run_of_sameUses (same : d.SameUses d') (start : World.Alike w w')
    (run : (Generation.run logger config ⟨provider, .operations d.operations⟩ : StateM World _) w =
      (r, s))
    (run' : (Generation.run logger' config ⟨provider, .operations d'.operations⟩ : StateM World _) w' =
      (r', s')) :
    Outcomes Eq (Reports d d') r r' ∧ World.Alike s s' := by
  have taken : Alongside World.Alike (Outcomes (fun _ _ => False) fun a b => a = d ∧ b = d')
      (ingest (.operations d.operations)) (ingest (.operations d'.operations)) :=
    .pure (.ok ⟨rfl, rfl⟩)
  have sides := (World.indifferent_alike logger logger').run config provider taken
    (fun a b ⟨left, right⟩ => left ▸ right ▸ same) w w' start
  rw [run, run'] at sides
  obtain ⟨outcomes, alike⟩ := sides
  refine ⟨outcomes.imp ?_ ?_, alike⟩
  · rintro e e' (_ | impossible)
    · rfl
    · exact impossible.elim
  · rintro a b ⟨_, _, ⟨rfl, rfl⟩, reports⟩
    exact reports

theorem run_of_reordered (reordered : ModelDescription.Reordered j j') (start : World.Alike w w')
    (run : (Generation.run logger config ⟨provider, .json j⟩ : StateM World _) w = (r, s))
    (run' : (Generation.run logger' config ⟨provider, .json j'⟩ : StateM World _) w' = (r', s')) :
    Outcomes (FailsAlike fun _ _ => (ModelDescription.ofJson j).toOption = none) Eq r r' ∧
      World.Alike s s' := by
  have values := Outcomes.of_rel (ModelDescription.operations_of_reordered reordered)
  have taken : Alongside World.Alike
      (Outcomes (fun _ _ => (ModelDescription.ofJson j).toOption = none)
        fun a b : ModelDescription => a.operations.Perm b.operations)
      (ingest (.json j)) (ingest (.json j')) :=
    .pure (values.mapError fun _ _ malformed => malformed)
  have sides := (World.indifferent_alike logger logger').run config provider taken
    (fun a b perm => ModelDescription.sameUses_of_perm perm) w w' start
  rw [run, run'] at sides
  obtain ⟨outcomes, alike⟩ := sides
  refine ⟨outcomes.imp (fun _ _ fails => fails) ?_, alike⟩
  rintro a b ⟨_, _, perm, reports⟩
  exact reports.eq_of_perm perm

/-! ### What the runs leave -/

/-- Whether this is the output directory of a run that starts here, once missing directories were
made. -/
def GenerationConfig.Fills (config : GenerationConfig) (w : World) (out : Location) : Prop :=
  ∃ before made, Spares (fun _ => False) (disk w) before ∧ Made before made ∧
    made.files.find config.outputDirectory = .ok (out, .directory)

theorem run_closes {source : ModelSource} {report : GenerationReport} (sound : (disk w).Sound)
    (run : (Generation.run logger config source : StateM World _) w = (.ok report, s)) :
    ∃ out, config.Fills w out ∧ ∀ l, s.journal = some l → ¬ Below out l := by
  rcases run_cases sound run with ⟨⟨e, failed⟩, -⟩ |
    ⟨validated, p, versioned, d, loading, loaded, accepted, -, -, quiet, -, same, sound', run⟩
  · cases failed
  rcases produce_run sound' run with
    ⟨⟨e, failed⟩, -⟩ | ⟨v, before, after, written, -, sound'', spares, writes, rest⟩
  · cases failed
  rcases rest with ⟨⟨e, -, failed⟩, -⟩ | ⟨rfl, last, -⟩
  · cases failed
  obtain ⟨made, -, makes, done, -⟩ := Output.write_outcome sound'' Output.validName_policy
    Output.validName_draft (fun _ => path_of_documentFor accepted) writes
  obtain ⟨out, found, -, -, apart⟩ := done rfl
  exact ⟨out, ⟨_, made, quiet.trans (same ▸ spares), makes, found⟩,
    fun l logged => apart l (last.journal logged)⟩

/-- The same entries everywhere, but that an open log file may hold another text, and none such in
the output directory after a success. -/
structure SameTree (config : GenerationConfig) (w : World)
    (r : Except GenerationError GenerationReport) (s s' : World) : Prop where
  alike : World.Alike s s'
  output : (disk w).Sound → ∀ report, r = .ok report → ∃ out, config.Fills w out ∧
    ∀ q, Below out q → s'.files.entry? q = s.files.entry? q

theorem sameTree_of_alike {source : ModelSource}
    (run : (Generation.run logger config source : StateM World _) w = (r, s))
    (alike : World.Alike s s') : SameTree config w r s s' := by
  refine ⟨alike, ?_⟩
  rintro sound report rfl
  obtain ⟨out, fills, apart⟩ := run_closes sound run
  refine ⟨out, fills, fun q below => ?_⟩
  obtain same | ⟨logged, -⟩ := alike.entries q
  · exact same
  · exact absurd below (apart q logged)

/-- Runs come to the same report or the same error, and leave the same tree, whenever their
descriptions have the same kinds with the same names: the reports say the same of what was written,
and are the same where the operations differ in order alone. Values that differ in order come to the
same, or both hold no description and fail as such. -/
theorem run_orderless (logger : Logger) (config : GenerationConfig) (provider : Option Provider)
    (w : World) :
    (∀ (d d' : ModelDescription) r s r' s', d.SameUses d' →
      (Generation.run logger config ⟨provider, .operations d.operations⟩ : StateM World _) w =
        (r, s) →
      (Generation.run logger config ⟨provider, .operations d'.operations⟩ : StateM World _) w =
        (r', s') →
      Outcomes Eq GenerationReport.SamePolicy r r' ∧ SameTree config w r s s' ∧
        (d.operations.Perm d'.operations → r = r')) ∧
    (∀ j j' r s r' s', ModelDescription.Reordered j j' →
      (Generation.run logger config ⟨provider, .json j⟩ : StateM World _) w = (r, s) →
      (Generation.run logger config ⟨provider, .json j'⟩ : StateM World _) w = (r', s') →
      Outcomes (FailsAlike fun _ _ => (ModelDescription.ofJson j).toOption = none) Eq r r' ∧
        SameTree config w r s s') := by
  constructor
  · intro d d' r s r' s' same run run'
    obtain ⟨outcomes, alike⟩ := run_of_sameUses same (.refl w) run run'
    refine ⟨outcomes.imp (fun _ _ => id) fun _ _ reports => reports.same,
      sameTree_of_alike run alike, fun perm => ?_⟩
    exact (outcomes.imp (fun _ _ => id) fun _ _ reports => reports.eq_of_perm perm).eq
  · intro j j' r s r' s' reordered run run'
    obtain ⟨outcomes, alike⟩ := run_of_reordered reordered (.refl w) run run'
    exact ⟨outcomes, sameTree_of_alike run alike⟩

/-- The same operations the other way round, a read of them twice. -/
def fewTwice : List Operation :=
  fewOperations.reverse ++ [⟨"Draft", "findMany", "findManyPost"⟩]

def mappingOf (model kind name : String) : List (String × Json) :=
  [(kind, .text name), ("model", .text model), ("plural", .null)]

def describe (mappings : List (List (String × Json))) : Json :=
  .object [("mappings", .object [("modelOperations", .array (mappings.map .object))])]

def fewMappings : Json :=
  describe [mappingOf "Post" "findMany" "findManyPost", mappingOf "User" "createOne" "createOneUser"]

def fewMappingsBack : Json :=
  describe [(mappingOf "User" "createOne" "createOneUser").reverse,
    mappingOf "Post" "findMany" "findManyPost"]

theorem reordered_fewMappings : ModelDescription.Reordered fewMappings fewMappingsBack :=
  .member [] [] (.member [] [] (.array
    (.cons (.same _) (.cons (.object (List.reverse_perm _).symm (by decide)) .nil)) (.swap _ _ _)))

def runOn (source : DescriptionSource) : Except GenerationError GenerationReport × World :=
  (Generation.run .silent usedConfig ⟨some ⟨"prisma-client-js", none⟩, source⟩ : StateM World _)
    usedWorld

/-- An operation that is named twice is allowed once, and the same file is written. -/
theorem run_orderless_few : ∃ report s report' s' json t t',
    runOn (.operations fewOperations) = (.ok report, s) ∧
      runOn (.operations fewTwice) = (.ok report', s') ∧
      report'.vocabulary = report.vocabulary ∧ report'.queries = report.queries ∧
      s'.files.entry? ["out", "shield.ts"] = s.files.entry? ["out", "shield.ts"] ∧
      runOn (.json fewMappings) = (.ok json, t) ∧ runOn (.json fewMappingsBack) = (.ok json, t') ∧
      t'.files.entry? ["out", "shield.ts"] = t.files.entry? ["out", "shield.ts"] := by
  have done : (runOn (.operations fewOperations)).1.toOption.isSome := by decide +kernel
  have read : (runOn (.json fewMappings)).1.toOption.isSome := by decide +kernel
  have closed : (runOn (.operations fewOperations)).2.journal = none := by decide +kernel
  have unlogged : (runOn (.json fewMappings)).2.journal = none := by decide +kernel
  cases run : runOn (.operations fewOperations) with
  | mk r s =>
  cases run' : runOn (.operations fewTwice) with
  | mk r' s' =>
  cases taken : runOn (.json fewMappings) with
  | mk q t =>
  cases taken' : runOn (.json fewMappingsBack) with
  | mk q' t' =>
  rw [run] at done closed
  rw [taken] at read unlogged
  obtain ⟨outcomes, tree, -⟩ := (run_orderless _ _ _ _).1 ⟨fewOperations⟩ ⟨fewTwice⟩ _ _ _ _
    (by decide) run run'
  obtain ⟨outcomes', tree'⟩ := (run_orderless _ _ _ _).2 _ _ _ _ _ _ reordered_fewMappings
    taken taken'
  cases outcomes with
  | error => cases done
  | ok same =>
  cases outcomes' with
  | error => cases read
  | ok same' =>
  cases same'
  exact ⟨_, s, _, s', _, t, t', rfl, rfl, same.2.1, same.2.2.1, tree.alike.entry?_eq closed _, rfl,
    rfl, tree'.alike.entry?_eq unlogged _⟩

end ShieldPolicy
