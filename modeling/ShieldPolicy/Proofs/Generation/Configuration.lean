import ShieldPolicy.Generation.Configuration
import ShieldPolicy.Proofs.Path.Normal

/-!
What is known of a configuration that is accepted. `accepted_located` says where its paths lie;
`validate_of_schemaRoot_above_root` says which schema directories are not looked at.
-/

namespace ShieldPolicy.GenerationConfig

variable {config : GenerationConfig} {validated : ValidatedConfig}

def contextAnchored (config : GenerationConfig) : Path :=
  config.schemaRoot.anchoredAt config.contextPath.portable

theorem validate_eq_ok (accepted : config.validate = .ok validated) :
    config.violations = [] ∧ config.contextSpecifier = .ok validated.contextSpecifier ∧
      validated.outputFile = config.outputFile := by
  unfold validate at accepted
  split at accepted
  · rename_i specifier none specified
    cases accepted
    exact ⟨none, specified, rfl⟩
  · cases accepted
  · cases accepted

theorem violations_nil (accepted : config.validate = .ok validated) :
    config.pathViolations = [] ∧ config.outputDangers = [] := by
  have none := (validate_eq_ok accepted).1
  unfold violations at none
  split at none
  · rename_i unbroken
    exact ⟨unbroken, List.map_eq_nil_iff.mp (List.append_eq_nil_iff.mp none).1⟩
  · rename_i broken
    exact absurd none broken

theorem accepted_absolute (accepted : config.validate = .ok validated) :
    config.outputDirectory.isAbsolute ∧ config.schemaRoot.isAbsolute := by
  have unbroken := (violations_nil accepted).1
  simp only [pathViolations, List.append_eq_nil_iff] at unbroken
  obtain ⟨⟨-, output⟩, schema⟩ := unbroken
  have kept {rule : Bool} {v : Violation} (none : (if rule then [] else [v]) = []) : rule := by
    cases rule with
    | true => rfl
    | false => cases none
  exact ⟨kept output, kept schema⟩

theorem context_located (accepted : config.validate = .ok validated) :
    ∃ context, config.contextAnchored.locate? = some context := by
  have specified := (validate_eq_ok accepted).2.1
  unfold contextSpecifier ContextImport.specifier at specified
  split at specified
  · cases specified
  split at specified
  · cases specified
  split at specified
  · cases specified
  split at specified
  · cases specified
  · cases specified
  · rename_i context _ located _
    exact ⟨context, located⟩

/-- The output directory and the context file of an accepted configuration have places, and the
directory holds neither the context file nor the schema directory, if that has a place. -/
theorem accepted_located (accepted : config.validate = .ok validated) :
    ∃ output context, config.outputDirectory.locate? = some output ∧ output ≠ [] ∧
      config.contextAnchored.locate? = some context ∧ ¬ output <+: context ∧
      ∀ schema, config.schemaRoot.locate? = some schema → ¬ output <+: schema := by
  have dangers := (violations_nil accepted).2
  obtain ⟨context, contextLocated⟩ := context_located accepted
  unfold outputDangers at dangers
  split at dangers
  · cases dangers
  · cases dangers
  · rename_i output root outputLocated
    have free {place : Option Location} {danger : OutputDanger} {l : Location}
        (none : (if place.any fun l => output.isPrefixOf l then [danger] else []) = [])
        (located : place = some l) : ¬ output <+: l := by
      intro within
      rw [located, Option.any_some, if_pos (List.isPrefixOf_iff_prefix.mpr within)] at none
      cases none
    obtain ⟨schema, file⟩ := List.append_eq_nil_iff.mp dangers
    exact ⟨output, context, outputLocated, root, contextLocated, free file contextLocated,
      fun l => free schema⟩

/-! ### What is not looked at -/

variable {root : Path}

theorem contextFile?_of_absolute {context : Path} (absolute : context.portable.isAbsolute) :
    ContextImport.contextFile? context root = context.portable.locate? := by
  rw [ContextImport.contextFile?, Path.anchoredAt, if_pos absolute]

theorem contextSpecifier_of_absolute (context : config.contextPath.portable.isAbsolute)
    (here : config.schemaRoot.isAbsolute) (there : root.isAbsolute) :
    { config with schemaRoot := root }.contextSpecifier = config.contextSpecifier := by
  simp only [contextSpecifier, ContextImport.specifier, here, there,
    contextFile?_of_absolute context, Bool.not_true, Bool.false_eq_true, if_false]

theorem context_absolute (accepted : config.validate = .ok validated)
    (schema : config.schemaRoot.locate? = none) : config.contextPath.portable.isAbsolute := by
  obtain ⟨context, located⟩ := context_located accepted
  cases relative : config.contextPath.portable.isAbsolute with
  | true => rfl
  | false =>
    rw [contextAnchored, Path.anchoredAt, relative, if_neg Bool.false_ne_true,
      Path.locate?_join (accepted_absolute accepted).2 relative, schema] at located
    cases located

/-- A schema directory whose path climbs above the root is checked as the root directory would be,
which no output directory holds. -/
theorem validate_of_schemaRoot_above_root (schema : config.schemaRoot.locate? = none)
    (absolute : config.schemaRoot.isAbsolute) (context : config.contextPath.portable.isAbsolute) :
    config.validate = { config with schemaRoot := ⟨"/"⟩ }.validate := by
  have rootAbsolute : (⟨"/"⟩ : Path).isAbsolute := rfl
  have rootLocated : (⟨"/"⟩ : Path).locate? = some [] := by decide
  have paths : { config with schemaRoot := ⟨"/"⟩ }.pathViolations = config.pathViolations := by
    simp only [pathViolations, absolute, rootAbsolute, if_true]
  have dangers : { config with schemaRoot := ⟨"/"⟩ }.outputDangers = config.outputDangers := by
    unfold outputDangers
    dsimp only
    split
    · rfl
    · rfl
    · rename_i output nonroot _
      have held : output.isPrefixOf ([] : Location) = false := by
        cases output with
        | nil => exact absurd rfl nonroot
        | cons name rest => rfl
      simp only [schema, rootLocated, contextFile?_of_absolute context, Option.any_some,
        Option.any_none, held]
  have specifier := contextSpecifier_of_absolute context absolute rootAbsolute
  simp only [validate, violations, paths, dangers, specifier, outputFile,
    contextFile?_of_absolute context]

end ShieldPolicy.GenerationConfig
