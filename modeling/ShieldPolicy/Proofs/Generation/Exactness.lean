import ShieldPolicy.Proofs.Generation.Run
import ShieldPolicy.Proofs.Operation.Classification
import ShieldPolicy.Proofs.Policy.ReadBack

/-!
The policy of a run allows exactly the operations that are known, and the report counts them:
`run_exact`.
-/

namespace ShieldPolicy

open FileSystem Disk OnDisk Generation
open Location (Below)

/-! ### The policy for operations -/

namespace Policy

variable {v : Vocabulary} {d : ModelDescription} {queries mutations : List String}
  {specifier : String}

def sectionsOf (queries mutations : List String) : List PolicySection :=
  (if queries = [] then [] else [⟨.query, queries⟩]) ++
    if mutations = [] then [] else [⟨.mutation, mutations⟩]

theorem sectionsOf_eq_nil : sectionsOf queries mutations = [] ↔ queries = [] ∧ mutations = [] := by
  rw [sectionsOf, List.append_eq_nil_iff]
  refine and_congr ?_ ?_
  all_goals
    split
    · simpa
    · simpa

theorem mem_of_mem_sectionsOf {s : PolicySection} {name : String}
    (member : s ∈ sectionsOf queries mutations) (named : name ∈ s.names) :
    name ∈ queries ∨ name ∈ mutations := by
  rcases List.mem_append.mp member with member | member
  · split at member
    · cases member
    · rw [List.mem_singleton.mp member] at named
      exact .inl named
  · split at member
    · cases member
    · rw [List.mem_singleton.mp member] at named
      exact .inr named

theorem filterMap_of?_operationSet : Bucket.all.filterMap (PolicySection.of? (operationSet v d)) =
    sectionsOf (operationSet v d).queries (operationSet v d).mutations := by
  have none : (operationSet v d).subscriptions = [] := by
    simp [operationSet, OperationBuckets.sorted, Vocabulary.classify_eq,
      Vocabulary.namesIn_subscription, sortedNames, dropRepeats]
  simp only [Bucket.all, List.filterMap_cons, List.filterMap_nil, PolicySection.of?,
    OperationSet.names, none, List.isEmpty_iff, if_true, sectionsOf]
  split <;> split <;> simp_all

theorem ofOperations?_operationSet : ofOperations? (operationSet v d) specifier =
    if (operationSet v d).queries = [] ∧ (operationSet v d).mutations = [] then none
    else some ⟨specifier, sectionsOf (operationSet v d).queries (operationSet v d).mutations⟩ := by
  rw [ofOperations?, filterMap_of?_operationSet]
  split
  · rename_i nil
    rw [if_pos (sectionsOf_eq_nil.mp nil)]
  · rename_i some
    rw [if_neg fun nil => some (sectionsOf_eq_nil.mpr nil)]

theorem read?_of_lists {operations : List Operation} (listed : v.Lists .query operations queries)
    (listed' : v.Lists .mutation operations mutations) (unbroken : '\n' ∉ specifier.toList)
    (names : ∀ o ∈ operations, '\n' ∉ o.name.toList) :
    read? (Policy.mk specifier (sectionsOf queries mutations)).render =
      some ⟨specifier, sectionsOf queries mutations⟩ := by
  refine read?_render unbroken fun s member name named => ?_
  rcases mem_of_mem_sectionsOf member named with query | mutation
  · obtain ⟨o, present, -, rfl⟩ := listed.mem_iff.mp query
    exact names o present
  · obtain ⟨o, present, -, rfl⟩ := listed'.mem_iff.mp mutation
    exact names o present

end Policy

/-! ### The report -/

/-- What a report counts. -/
structure GenerationReport.Counts (r : GenerationReport) (d : ModelDescription)
    (queries mutations : List String) : Prop where
  queries : r.queries = queries.length
  mutations : r.mutations = mutations.length
  subscriptions : r.subscriptions = 0
  ignored : r.ignored = d.operations.countP fun o => r.vocabulary.bucket? o.kind = none
  models : r.models = (d.operations.map Operation.model).dedup.length

theorem counts_report (d : ModelDescription) (v : Vocabulary) (document : Option Document) :
    (report d v (operationSet v d) document).Counts d (operationSet v d).queries
      (operationSet v d).mutations where
  queries := rfl
  mutations := rfl
  subscriptions := by
    simp [report, operationSet, OperationBuckets.sorted, Vocabulary.classify_eq,
      Vocabulary.namesIn_subscription, sortedNames, dropRepeats]
  ignored := Vocabulary.ignored_classify v d.operations
  models := d.length_models

/-! ### A run -/

section Run

variable {σ : Type} [Machine (StateM σ)] [OnDisk σ] {s s' : σ} {logger : Logger}
  {config : GenerationConfig} {source : ModelSource} {report : GenerationReport}

/-- A run that succeeds leaves a policy that allows exactly the operations that are known, or, when
there are none, an empty directory. Only where the way to the output directory leads through what is
in one of its own subdirectories, that one is left when there are none, empty as well. -/
theorem run_exact (sound : (disk s).Sound)
    (run : (Generation.run logger config source : StateM σ _) s = (.ok report, s')) :
    ∃ validated d loading loaded before made out queries mutations,
      config.validate = .ok validated ∧
      Spares (fun _ => False) (disk s) (disk loading) ∧
      (ingest source.description : StateM σ _) loading = (.ok d, loaded) ∧
      Spares (fun _ => False) (disk s) before ∧ Made before made ∧
      made.files.find config.outputDirectory = .ok (out, .directory) ∧
      report.vocabulary.Lists .query d.operations queries ∧
      report.vocabulary.Lists .mutation d.operations mutations ∧
      report.Counts d queries mutations ∧
      (queries = [] ∧ mutations = [] → report.outputPath = none ∧
        ((disk s').files.Empty out ↔
          ∀ name, ¬ made.files.LeadsThrough (steps config.outputDirectory) (out ++ [name])) ∧
        (¬ (disk s').files.Empty out → ∃ name, (disk s').files.HoldsOnly out name .directory)) ∧
      (¬ (queries = [] ∧ mutations = []) → report.outputPath = some config.outputFile ∧
        ∃ text, (disk s').files.HoldsOnly out "shield.ts" (.file text) ∧
          (disk s').files.readText config.outputFile = .ok text ∧
          ('\n' ∉ validated.contextSpecifier.toList →
            (∀ o ∈ d.operations, '\n' ∉ o.name.toList) →
            Policy.read? text =
              some ⟨validated.contextSpecifier, Policy.sectionsOf queries mutations⟩)) := by
  rcases run_cases sound run with ⟨⟨e, failed⟩, -⟩ |
    ⟨validated, p, versioned, d, loading, loaded, accepted, -, -, quiet, taken, same, sound', run⟩
  · cases failed
  rcases produce_run sound' run with
    ⟨⟨e, failed⟩, -⟩ | ⟨v, before, after, written, -, sound'', spares, writes, rest⟩
  · cases failed
  rcases rest with ⟨⟨e, -, failed⟩, -⟩ | ⟨rfl, last, same⟩
  · cases failed
  cases same
  obtain ⟨made, -, makes, done, -, -, -⟩ := Output.write_outcome sound''
    Output.validName_policy Output.validName_draft (fun _ => path_of_documentFor accepted) writes
  obtain ⟨out, found, -, filled, apart⟩ := done rfl
  have filled := filled.of_spares apart last
  have queries : v.Lists .query d.operations (operationSet v d).queries := v.lists_classify .query _
  have mutations : v.Lists .mutation d.operations (operationSet v d).mutations :=
    v.lists_classify .mutation _
  refine ⟨validated, d, loading, loaded, _, made, out, _, _, accepted, quiet, taken,
    quiet.trans (same ▸ spares), makes,
    found, queries, mutations, counts_report d v _, fun nothing => ?_, fun something => ?_⟩
  · have due : documentFor validated (operationSet v d) = none := by
      rw [documentFor, Policy.ofOperations?_operationSet, if_pos nothing]
      rfl
    rw [due] at filled ⊢
    exact ⟨rfl, Cleared.empty_iff filled, Cleared.holdsOnly filled⟩
  · have due : documentFor validated (operationSet v d) =
        some ⟨config.outputFile, Policy.render ⟨validated.contextSpecifier,
          Policy.sectionsOf (operationSet v d).queries (operationSet v d).mutations⟩⟩ := by
      rw [documentFor, Policy.ofOperations?_operationSet, if_neg something,
        ← (GenerationConfig.validate_eq_ok accepted).2.2]
      rfl
    rw [due] at filled ⊢
    obtain ⟨holds, policy⟩ := filled
    dsimp only at holds policy
    refine ⟨rfl, _, holds, ?_, fun unbroken names =>
      Policy.read?_of_lists queries mutations unbroken names⟩
    rw [GenerationConfig.outputFile, FileSystem.readText, GenerationConfig.policyFileName, policy]
    rfl

end Run

/-- An output directory that holds an older policy, one directory too deep. -/
def usedWorld : World where
  files.entries := [(["out"], .directory), (["out", "old"], .directory),
    (["out", "old", "shield.ts"], .file "old"), (["schema"], .directory)]

def usedConfig : GenerationConfig := ⟨⟨"/src/context.ts"⟩, ⟨"/out"⟩, ⟨"/schema"⟩⟩

def fewOperations : List Operation :=
  [⟨"Post", "findMany", "findManyPost"⟩, ⟨"User", "createOne", "createOneUser"⟩,
    ⟨"Post", "count", "countPost"⟩]

def fewSource : ModelSource :=
  ⟨some ⟨"prisma-client-js", some "6.1.0"⟩, .operations fewOperations⟩

theorem run_exact_few : ∃ report s' text queries mutations,
    (Generation.run .silent usedConfig fewSource : StateM World _) usedWorld = (.ok report, s') ∧
      report.Counts ⟨fewOperations⟩ queries mutations ∧ "findManyPost" ∈ queries ∧
      s'.files.HoldsOnly ["out"] "shield.ts" (.file text) ∧
      Policy.read? text = some ⟨"../src/context", Policy.sectionsOf queries mutations⟩ := by
  have sound : (disk usedWorld).Sound := ⟨wellFormed_of_tidy (by decide +kernel), nofun⟩
  have done : ((Generation.run .silent usedConfig fewSource : StateM World _)
    usedWorld).1.toOption.isSome := by decide +kernel
  cases run : (Generation.run .silent usedConfig fewSource : StateM World _) usedWorld with
  | mk r s' =>
    rw [run] at done
    cases r with
    | error e => cases done
    | ok report =>
      obtain ⟨validated, d, loading, loaded, before, made, out, queries, mutations, accepted, -,
        taken, spares, makes, found, listed, listed', counts, -, policy⟩ := run_exact sound run
      obtain ⟨same, -⟩ := pure_run taken
      cases same
      have there : (disk usedWorld).files.find ⟨"/out"⟩ = .ok (["out"], .directory) := by
        decide +kernel
      have there := makes.files.find_directory (spares.find_directory_iff.mpr there)
      rw [show usedConfig.outputDirectory = ⟨"/out"⟩ from rfl, there] at found
      cases found
      have specifier : usedConfig.validate.toOption.map ValidatedConfig.contextSpecifier =
          some "../src/context" := by decide +kernel
      rw [accepted] at specifier
      have specifier : validated.contextSpecifier = "../src/context" := Option.some.inj specifier
      have query : "findManyPost" ∈ queries := listed.mem_iff.mpr
        ⟨_, List.mem_cons_self, by cases report.vocabulary <;> decide, rfl⟩
      obtain ⟨-, text, holds, -, back⟩ := policy fun nothing => by
        rw [nothing.1] at query
        cases query
      rw [specifier] at back
      exact ⟨report, s', text, queries, mutations, rfl, counts, query, holds,
        back (by decide) (by decide)⟩

/-- Without operations the run succeeds, but where the way to the output directory leads through what
is in it, the directory is not left empty. -/
theorem run_leaves_subdirectory : ∃ report w,
    (Generation.run .silent ⟨⟨"/context.ts"⟩, ⟨"/out/sub/x/../.."⟩, ⟨"/schema"⟩⟩
      ⟨some ⟨"prisma-client-js", none⟩, .operations []⟩ : StateM World _) Output.nestedWorld =
        (.ok report, w) ∧
      report.outputPath = none ∧ w.files.entry? ["out", "sub"] = some .directory := by
  have done : ((Generation.run .silent ⟨⟨"/context.ts"⟩, ⟨"/out/sub/x/../.."⟩, ⟨"/schema"⟩⟩
      ⟨some ⟨"prisma-client-js", none⟩, .operations []⟩ : StateM World _)
        Output.nestedWorld).1.toOption.map GenerationReport.outputPath = some none := by
    decide +kernel
  have left : ((Generation.run .silent ⟨⟨"/context.ts"⟩, ⟨"/out/sub/x/../.."⟩, ⟨"/schema"⟩⟩
      ⟨some ⟨"prisma-client-js", none⟩, .operations []⟩ : StateM World _)
        Output.nestedWorld).2.files.entry? ["out", "sub"] = some .directory := by decide +kernel
  cases run : (Generation.run .silent ⟨⟨"/context.ts"⟩, ⟨"/out/sub/x/../.."⟩, ⟨"/schema"⟩⟩
      ⟨some ⟨"prisma-client-js", none⟩, .operations []⟩ : StateM World _) Output.nestedWorld with
  | mk r w =>
    rw [run] at done left
    cases r with
    | error e => cases done
    | ok report => exact ⟨report, w, rfl, Option.some.inj done, left⟩

end ShieldPolicy
