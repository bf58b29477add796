import ShieldPolicy.Proofs.Generation.Configuration
import ShieldPolicy.Proofs.Generation.ContextImport

/-!
What validation reports. A configuration is accepted exactly when it breaks none of the rules.
Otherwise the error holds an entry for every broken rule, unless one of the rules on single paths is
broken: these hide the others. `validate_reports` says both.
-/

namespace ShieldPolicy.GenerationConfig

inductive Rule where
  | contextGiven
  | outputAbsolute
  | schemaAbsolute
  | outputNotRoot
  | apartFromSchema
  | apartFromContext
  | outputBelowRoot
  | contextBelowRoot
  | contextNotOutput
deriving DecidableEq

/-- Whether the rule is about a single path as it is written. These rules are checked first. -/
def Rule.comesFirst : Rule → Bool
  | .contextGiven | .outputAbsolute | .schemaAbsolute => true
  | _ => false

variable {config : GenerationConfig} {rule : Rule} {validated : ValidatedConfig}
  {e : ConfigurationError}

def Breaks (config : GenerationConfig) : Rule → Prop
  | .contextGiven => config.contextPath.isEmpty
  | .outputAbsolute => config.outputDirectory.isAbsolute = false
  | .schemaAbsolute => config.schemaRoot.isAbsolute = false
  | .outputNotRoot =>
    config.outputDirectory.isAbsolute ∧ config.outputDirectory.locate? = some []
  | .apartFromSchema =>
    config.outputDirectory.isAbsolute ∧ config.schemaRoot.isAbsolute ∧
      ∃ output schema, config.outputDirectory.locate? = some output ∧
        config.schemaRoot.locate? = some schema ∧ output <+: schema
  | .apartFromContext =>
    config.outputDirectory.isAbsolute ∧ config.schemaRoot.isAbsolute ∧
      config.contextPath.isEmpty = false ∧
      ∃ output file, config.outputDirectory.locate? = some output ∧
        config.contextAnchored.locate? = some file ∧ output <+: file
  | .outputBelowRoot => config.outputDirectory.ClimbsAboveRoot
  | .contextBelowRoot => config.contextAnchored.ClimbsAboveRoot
  | .contextNotOutput =>
    ∃ l, config.outputDirectory.locate? = some l ∧ config.contextAnchored.locate? = some l

/-- The entry that reports a broken rule. A root directory holds everything below it, which goes
without saying. -/
def report (config : GenerationConfig) : Rule → Violation
  | .contextGiven => .missingContextPath
  | .outputAbsolute => .relativePath .outputDirectory config.outputDirectory
  | .schemaAbsolute => .relativePath .schemaRoot config.schemaRoot
  | .outputNotRoot => .unsafeOutput config.outputDirectory .root
  | .apartFromSchema =>
    .unsafeOutput config.outputDirectory
      (if config.outputDirectory.locate? = some [] then .root else .holdsSchema)
  | .apartFromContext =>
    .unsafeOutput config.outputDirectory
      (if config.outputDirectory.locate? = some [] then .root else .holdsContext)
  | .outputBelowRoot => .unsafeOutput config.outputDirectory .aboveRoot
  | .contextBelowRoot => .unresolvableContext config.contextPath .contextAboveRoot
  | .contextNotOutput => .unresolvableContext config.contextPath .contextIsOutput

/-! ### The error of validation -/

theorem contextSpecifier_of_violations_nil (none : config.violations = []) :
    ∃ text, config.contextSpecifier = .ok text := by
  unfold violations at none
  split at none
  · cases specified : config.contextSpecifier with
    | ok text => exact ⟨text, rfl⟩
    | error v => simp [specified] at none
  · rename_i broken
    exact absurd none broken

theorem validate_eq_ok_iff : (∃ v, config.validate = .ok v) ↔ config.violations = [] := by
  constructor
  · rintro ⟨v, accepted⟩
    exact (validate_eq_ok accepted).1
  · intro none
    obtain ⟨text, specified⟩ := contextSpecifier_of_violations_nil none
    rw [validate, none, specified]
    exact ⟨_, rfl⟩

theorem violations_of_validate (refused : config.validate = .error e) :
    e.violations = config.violations := by
  unfold validate at refused
  split at refused
  · cases refused
  · rename_i none specified
    obtain ⟨text, specified'⟩ := contextSpecifier_of_violations_nil none
    rw [specified] at specified'
    cases specified'
  · rename_i first more found
    cases refused
    exact found.symm

/-! ### Rules on single paths -/

theorem pathViolations_eq_nil_iff :
    config.pathViolations = [] ↔ ∀ rule, rule.comesFirst → ¬ config.Breaks rule := by
  unfold pathViolations
  constructor
  · intro none rule first
    cases rule <;> cases first <;> simp_all [Breaks]
  · intro kept
    have given := kept .contextGiven rfl
    have output := kept .outputAbsolute rfl
    have schema := kept .schemaAbsolute rfl
    simp_all [Breaks]

theorem report_mem_pathViolations (first : rule.comesFirst) (broken : config.Breaks rule) :
    config.report rule ∈ config.pathViolations := by
  unfold pathViolations
  cases rule <;> cases first <;> simp_all [Breaks, report]

theorem report_not_mem_pathViolations (later : rule.comesFirst = false) :
    config.report rule ∉ config.pathViolations := by
  unfold pathViolations
  cases rule <;> cases later <;> simp [report]

/-! ### Rules between the paths -/

theorem violations_of_paths (broken : config.pathViolations ≠ []) :
    config.violations = config.pathViolations := by
  unfold violations
  split
  · rename_i none
    exact absurd none broken
  · rfl

theorem any_isPrefixOf_iff {output : Location} {place? : Option Location} :
    (place?.any fun l => output.isPrefixOf l) ↔ ∃ place, place? = some place ∧ output <+: place := by
  cases place? <;> simp

theorem mem_outputDangers_of_holds {output place : Location}
    (here : config.outputDirectory.locate? = some output) (apart : output ≠ [])
    (within : output <+: place) :
    (config.schemaRoot.locate? = some place → .holdsSchema ∈ config.outputDangers) ∧
    (config.contextAnchored.locate? = some place → .holdsContext ∈ config.outputDangers) := by
  have held {place? : Option Location} (there : place? = some place) :
      place?.any fun l => output.isPrefixOf l :=
    any_isPrefixOf_iff.mpr ⟨place, there, within⟩
  have context : ContextImport.contextFile? config.contextPath config.schemaRoot =
      config.contextAnchored.locate? := rfl
  cases output with
  | nil => exact absurd rfl apart
  | cons name rest =>
    unfold outputDangers
    rw [here, context]
    dsimp only
    constructor
    · intro there
      rw [if_pos (held there)]
      exact List.mem_cons_self
    · intro there
      rw [if_pos (held there)]
      exact List.mem_append_right _ List.mem_cons_self

section Unbroken

variable (paths : config.pathViolations = [])
include paths

theorem unsafeOutput_mem_violations {danger : OutputDanger} (member : danger ∈ config.outputDangers) :
    .unsafeOutput config.outputDirectory danger ∈ config.violations := by
  unfold violations
  rw [paths]
  exact List.mem_append_left _ (List.mem_map_of_mem member)

theorem obstacle_mem_violations {v : Violation} (failed : config.contextSpecifier = .error v) :
    v ∈ config.violations := by
  unfold violations
  rw [paths, failed]
  exact List.mem_append_right _ List.mem_cons_self

theorem absolute_of_paths : config.contextPath.isEmpty = false ∧ config.schemaRoot.isAbsolute ∧
    config.outputDirectory.isAbsolute := by
  have kept := pathViolations_eq_nil_iff.mp paths
  have given := kept .contextGiven rfl
  have output := kept .outputAbsolute rfl
  have schema := kept .schemaAbsolute rfl
  simp_all [Breaks]

theorem report_mem_violations (later : rule.comesFirst = false) (broken : config.Breaks rule) :
    config.report rule ∈ config.violations := by
  obtain ⟨given, schemaAbsolute, outputAbsolute⟩ := absolute_of_paths paths
  have rooted (root : config.outputDirectory.locate? = some []) :
      .unsafeOutput config.outputDirectory .root ∈ config.violations := by
    refine unsafeOutput_mem_violations paths ?_
    rw [outputDangers, root]
    exact List.mem_cons_self
  cases rule with
  | contextGiven | outputAbsolute | schemaAbsolute => cases later
  | outputNotRoot => exact rooted broken.2
  | apartFromSchema =>
    obtain ⟨-, -, output, schema, here, there, within⟩ := broken
    by_cases root : config.outputDirectory.locate? = some []
    · rw [report, if_pos root]
      exact rooted root
    · rw [report, if_neg root]
      refine unsafeOutput_mem_violations paths
        ((mem_outputDangers_of_holds here ?_ within).1 there)
      rintro rfl
      exact root here
  | apartFromContext =>
    obtain ⟨-, -, -, output, file, here, there, within⟩ := broken
    by_cases root : config.outputDirectory.locate? = some []
    · rw [report, if_pos root]
      exact rooted root
    · rw [report, if_neg root]
      refine unsafeOutput_mem_violations paths
        ((mem_outputDangers_of_holds here ?_ within).2 there)
      rintro rfl
      exact root here
  | outputBelowRoot =>
    refine unsafeOutput_mem_violations paths ?_
    rw [outputDangers, Path.locate?_eq_none_iff.mpr broken]
    exact List.mem_cons_self
  | contextBelowRoot =>
    refine obstacle_mem_violations paths ?_
    exact ContextImport.specifier_of_context_above_root given schemaAbsolute outputAbsolute
      (Path.locate?_eq_none_iff.mpr broken)
  | contextNotOutput =>
    obtain ⟨l, here, there⟩ := broken
    refine obstacle_mem_violations paths ?_
    exact ContextImport.specifier_of_same given schemaAbsolute outputAbsolute there here

end Unbroken

theorem outputDangers_of_unbroken (kept : ∀ rule, ¬ config.Breaks rule)
    (paths : config.pathViolations = []) : config.outputDangers = [] := by
  obtain ⟨given, schemaAbsolute, outputAbsolute⟩ := absolute_of_paths paths
  have context : ContextImport.contextFile? config.contextPath config.schemaRoot =
      config.contextAnchored.locate? := rfl
  unfold outputDangers
  rw [context]
  split
  · rename_i above
    exact absurd (Path.locate?_eq_none_iff.mp above) (kept .outputBelowRoot)
  · rename_i root
    exact absurd ⟨outputAbsolute, root⟩ (kept .outputNotRoot)
  · rename_i output _ here
    have schema : ¬ config.schemaRoot.locate?.any fun l => output.isPrefixOf l := by
      intro held
      obtain ⟨l, there, within⟩ := any_isPrefixOf_iff.mp held
      exact kept .apartFromSchema ⟨outputAbsolute, schemaAbsolute, output, l, here, there, within⟩
    have file : ¬ config.contextAnchored.locate?.any fun l => output.isPrefixOf l := by
      intro held
      obtain ⟨l, there, within⟩ := any_isPrefixOf_iff.mp held
      exact kept .apartFromContext ⟨outputAbsolute, schemaAbsolute, given, output, l, here, there, within⟩
    dsimp only
    rw [if_neg schema, if_neg file]
    rfl

theorem violations_eq_nil_iff : config.violations = [] ↔ ∀ rule, ¬ config.Breaks rule := by
  constructor
  · intro none rule broken
    by_cases paths : config.pathViolations = []
    · cases first : rule.comesFirst with
      | true => exact pathViolations_eq_nil_iff.mp paths rule first broken
      | false =>
        have member := report_mem_violations paths first broken
        rw [none] at member
        cases member
    · rw [violations_of_paths paths] at none
      exact paths none
  · intro kept
    have paths := pathViolations_eq_nil_iff.mpr fun rule _ => kept rule
    obtain ⟨given, schemaAbsolute, outputAbsolute⟩ := absolute_of_paths paths
    have specified : ∃ text, config.contextSpecifier = .ok text := by
      cases specified : config.contextSpecifier with
      | ok text => exact ⟨text, rfl⟩
      | error v =>
        have failed := (ContextImport.specifier_leads given schemaAbsolute outputAbsolute).2.mp
          ⟨v, specified⟩
        rcases failed with above | above | same
        · exact absurd above (kept .contextBelowRoot)
        · exact absurd above (kept .outputBelowRoot)
        · exact absurd same (kept .contextNotOutput)
    obtain ⟨text, specified⟩ := specified
    unfold violations
    rw [paths, outputDangers_of_unbroken kept paths, specified]
    rfl

/-- Validation accepts exactly the configurations that break no rule. A broken rule is missing from
its error only when it comes later than another broken one. -/
theorem validate_reports (config : GenerationConfig) :
    ((∃ v, config.validate = .ok v) ↔ ∀ rule, ¬ config.Breaks rule) ∧
    ∀ e, config.validate = .error e → ∀ rule, config.Breaks rule →
      (config.report rule ∈ e.violations ↔
        rule.comesFirst ∨ ∀ first : Rule, first.comesFirst → ¬ config.Breaks first) := by
  refine ⟨validate_eq_ok_iff.trans violations_eq_nil_iff, ?_⟩
  intro e refused rule broken
  rw [violations_of_validate refused, ← pathViolations_eq_nil_iff]
  by_cases paths : config.pathViolations = []
  · refine iff_of_true ?_ (.inr paths)
    cases first : rule.comesFirst with
    | true => exact absurd broken (pathViolations_eq_nil_iff.mp paths rule first)
    | false => exact report_mem_violations paths first broken
  · rw [violations_of_paths paths]
    cases first : rule.comesFirst with
    | true => exact iff_of_true (report_mem_pathViolations first broken) (.inl rfl)
    | false =>
      refine iff_of_false (report_not_mem_pathViolations first) ?_
      simp [paths]

theorem validate_reports_sources :
    ∃ e, (GenerationConfig.mk ⟨"context.ts"⟩ ⟨"/app"⟩ ⟨"/app/schema"⟩).validate = .error e ∧
      .unsafeOutput ⟨"/app"⟩ .holdsSchema ∈ e.violations ∧
      .unsafeOutput ⟨"/app"⟩ .holdsContext ∈ e.violations := by
  have refused : (GenerationConfig.mk ⟨"context.ts"⟩ ⟨"/app"⟩ ⟨"/app/schema"⟩).validate =
      .error (.rejected (.unsafeOutput ⟨"/app"⟩ .holdsSchema)
        [.unsafeOutput ⟨"/app"⟩ .holdsContext]) := by
    decide
  refine ⟨_, refused, ?_, ?_⟩
  · refine ((validate_reports _).2 _ refused .apartFromSchema ?_).mpr (.inr ?_)
    · exact ⟨by decide, by decide, ["app"], ["app", "schema"], by decide, by decide, by decide⟩
    · exact pathViolations_eq_nil_iff.mp (by decide)
  · refine ((validate_reports _).2 _ refused .apartFromContext ?_).mpr (.inr ?_)
    · exact ⟨by decide, by decide, by decide, ["app"], ["app", "schema", "context.ts"], by decide,
        by decide, by decide⟩
    · exact pathViolations_eq_nil_iff.mp (by decide)

/-- Where no context path is given, nothing is said about an output directory that is the root. -/
theorem validate_hides_root :
    (GenerationConfig.mk ⟨""⟩ ⟨"/"⟩ ⟨"/app"⟩).validate = .error (.rejected .missingContextPath []) ∧
      (GenerationConfig.mk ⟨""⟩ ⟨"/"⟩ ⟨"/app"⟩).Breaks .outputNotRoot ∧
      ∀ danger, .unsafeOutput ⟨"/"⟩ danger ∉
        (ConfigurationError.rejected .missingContextPath []).violations := by
  refine ⟨by decide, ⟨by decide, by decide⟩, ?_⟩
  intro danger
  cases danger <;> decide

end ShieldPolicy.GenerationConfig
