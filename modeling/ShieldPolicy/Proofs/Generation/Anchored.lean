import ShieldPolicy.Proofs.Generation.Inputs
import ShieldPolicy.Proofs.Generation.Violations
import ShieldPolicy.Proofs.Host.Untouched
import ShieldPolicy.Proofs.Path.Ancestors

/-!
Where relative paths start from. What is put behind an absolute path is absolute, and so is the
parent of one. So the directories of a run are absolute when a command or a request with an absolute
schema path asks for it, and no such run is refused for a relative path: `configuration_anchored`.
-/

namespace ShieldPolicy

variable {logger : Logger} {e : ConfigurationError}

/-! ### Directories that relative paths start from -/

section Machines

variable {σ : Type} [Machine (StateM σ)] {s s' : σ} {p base dir : Path}

theorem schemaDirectory_cases (run : (schemaDirectory p : StateM σ Path) s = (dir, s')) :
    dir = p ∨ p.parent? = some dir := by
  obtain ⟨isFile, s₁, -, run⟩ := bind_run run
  obtain ⟨isDirectory, s₂, -, run⟩ := bind_run run
  split at run
  · rename_i parent above
    obtain ⟨rfl, -⟩ := pure_run run
    split
    · exact .inr above
    · exact .inl rfl
  · exact .inl (pure_run run).1

theorem isAbsolute_schemaDirectory (absolute : p.isAbsolute)
    (run : (schemaDirectory p : StateM σ Path) s = (dir, s')) : dir.isAbsolute := by
  obtain rfl | above := schemaDirectory_cases run
  · exact absolute
  · exact (Path.front_of_parent? absolute above).absolute

end Machines

theorem World.isAbsolute_absolute {p q : Path} {s s' : World}
    (run : (Machine.absolute p : StateM World _) s = (.ok q, s')) : q.isAbsolute := by
  unfold Machine.absolute at run
  by_cases absolute : p.isAbsolute
  · rw [if_pos absolute] at run
    obtain ⟨same, -⟩ := pure_run run
    cases same
    exact absolute
  · rw [if_neg absolute] at run
    obtain ⟨here, mid, found, run⟩ := bind_run run
    obtain ⟨same, -⟩ := pure_run run
    have found : s.files.here = here := congrArg Prod.fst found
    unfold FileSystem.here at found
    split at found <;> subst found <;> cases same
    exact Path.isAbsolute_join_of_absolute (Path.isAbsolute_path _) (by simpa using absolute)

theorem Workspace.isAbsolute_rootOf {p root : Path} {s s' : World}
    (run : (rootOf p : StateM World _) s = (.ok root, s')) : root.isAbsolute := by
  obtain ⟨real, mid, found, run⟩ := bind_run run
  cases real with
  | ok real =>
    obtain ⟨same, -⟩ := pure_run run
    cases same
    have found : s.files.canonical p = .ok root := congrArg Prod.fst found
    cases place : s.files.find p with
    | error fault => simp [FileSystem.canonical, place, bind, Except.bind] at found
    | ok place =>
      rw [FileSystem.canonical, ‹s.files.find p = _›] at found
      cases found
      exact Path.isAbsolute_path _
  | error fault => exact World.isAbsolute_absolute run

/-! ### Configurations -/

/-- Whether a run is refused for a relative path. -/
def ConfigurationError.NamesRelativePath (e : ConfigurationError) : Prop :=
  ∃ field p, .relativePath field p ∈ e.violations

theorem ConfigurationError.not_namesRelativePath (none : e.violations = []) :
    ¬ e.NamesRelativePath := by
  rintro ⟨field, p, member⟩
  rw [none] at member
  cases member

namespace GenerationConfig

variable {config : GenerationConfig}

structure Anchored (config : GenerationConfig) : Prop where
  outputDirectory : config.outputDirectory.isAbsolute
  schemaRoot : config.schemaRoot.isAbsolute

theorem Anchored.contextSpecifier_ne (anchored : config.Anchored) (field : AnchorField) (p : Path) :
    config.contextSpecifier ≠ .error (.relativePath field p) := by
  intro refused
  rw [contextSpecifier, ContextImport.specifier, anchored.outputDirectory,
    anchored.schemaRoot] at refused
  split at refused
  · cases refused
  rw [if_neg (by decide), if_neg (by decide)] at refused
  split at refused
  · cases refused
  · cases refused
  split at refused
  · cases refused
  split at refused <;> cases refused

theorem Anchored.relativePath_not_mem (anchored : config.Anchored) (field : AnchorField)
    (p : Path) : .relativePath field p ∉ config.violations := by
  intro member
  unfold violations at member
  split at member
  · rcases List.mem_append.mp member with danger | obstacle
    · obtain ⟨_, -, same⟩ := List.mem_map.mp danger
      cases same
    · split at obstacle
      · cases obstacle
      · rename_i refused
        rw [← List.mem_singleton.mp obstacle] at refused
        exact anchored.contextSpecifier_ne field p refused
  · rw [pathViolations, anchored.outputDirectory, anchored.schemaRoot] at member
    split at member <;> simp at member

theorem Anchored.of_validate (anchored : config.Anchored) (refused : config.validate = .error e) :
    ¬ e.NamesRelativePath := by
  rintro ⟨field, p, member⟩
  rw [violations_of_validate refused] at member
  exact anchored.relativePath_not_mem field p member

end GenerationConfig

theorem GeneratorSettings.anchored_configuration {settings : GeneratorSettings} {base : Path}
    {config : GenerationConfig} {s s' : World} (absolute : base.isAbsolute)
    (run : (settings.configuration base : StateM World _) s = (config, s')) : config.Anchored := by
  unfold configuration at run
  cases set : settings.schema with
  | none =>
    rw [set] at run
    obtain ⟨rfl, -⟩ := pure_run run
    exact ⟨Path.isAbsolute_anchoredAt absolute, absolute⟩
  | some schema =>
    rw [set] at run
    obtain ⟨root, mid, found, run⟩ := bind_run run
    obtain ⟨rfl, -⟩ := pure_run run
    exact ⟨Path.isAbsolute_anchoredAt absolute,
      isAbsolute_schemaDirectory (Path.isAbsolute_anchoredAt absolute) found⟩

theorem GeneratorOptions.isAbsolute_schemaRoot {o : GeneratorOptions} {w : World}
    (absolute : o.schemaPath.isAbsolute) : (o.schemaRoot w).isAbsolute :=
  isAbsolute_schemaDirectory absolute rfl

/-! ### Runs -/

namespace Generation

variable {σ : Type} [Machine (StateM σ)] {s s' : σ} {config : GenerationConfig}
  {source : ModelSource}

theorem violations_of_ofProvider {p : Provider} (unknown : Vocabulary.ofProvider p = .error e) :
    e.violations = [] := by
  unfold Vocabulary.ofProvider at unknown
  cases companion : p.isCompanion with
  | false =>
    rw [companion] at unknown
    cases unknown
    rfl
  | true =>
    rw [companion] at unknown
    cases read : Vocabulary.majorOf p with
    | error e' =>
      rw [read] at unknown
      cases unknown
      unfold Vocabulary.majorOf at read
      split at read
      · cases read
      · split at read <;> cases read
        rfl
    | ok major? =>
      rw [read] at unknown
      cases major? with
      | none => cases unknown
      | some major =>
        cases known : Vocabulary.ofMajor? major with
        | some v => simp [known, bind, Except.bind, pure, Except.pure] at unknown
        | none =>
          simp only [known, bind, Except.bind] at unknown
          cases unknown
          rfl

theorem violations_of_chooseVocabulary {p : Provider} {versioned : Option Vocabulary}
    {d : ModelDescription} (mixed : chooseVocabulary p versioned d = .error e) :
    e.violations = [] := by
  unfold chooseVocabulary at mixed
  split at mixed
  · cases mixed
  · unfold Vocabulary.detect at mixed
    dsimp only at mixed
    split at mixed <;> cases mixed
    rfl

theorem violations_of_produce {dir : Path} {validated : ValidatedConfig} {p : Provider}
    {versioned : Option Vocabulary} {d : ModelDescription}
    (run : (produce logger dir validated p versioned d : StateM σ _) s =
      (.error (.configuration e), s')) : e.violations = [] := by
  unfold produce at run
  cases chosen : chooseVocabulary p versioned d with
  | error e' =>
    rw [chosen] at run
    obtain ⟨same, -⟩ := pure_run run
    cases same
    exact violations_of_chooseVocabulary chosen
  | ok v =>
    rw [chosen] at run
    obtain ⟨⟨⟩, s₁, -, run⟩ := bind_run run
    obtain ⟨⟨⟩, s₂, -, run⟩ := bind_run run
    obtain ⟨⟨⟩, s₃, -, run⟩ := bind_run run
    obtain ⟨written, after, writes, run⟩ := bind_run run
    cases written with
    | error e' =>
      obtain ⟨same, -⟩ := pure_run run
      cases same
      cases Output.stage_of_write writes
    | ok =>
      obtain ⟨⟨⟩, last, -, run⟩ := bind_run run
      obtain ⟨done, -⟩ := pure_run run
      cases done

theorem violations_of_run
    (run : (Generation.run logger config source : StateM σ _) s = (.error (.configuration e), s')) :
    e.violations = [] ∨ config.validate = .error e := by
  unfold Generation.run at run
  cases checked : config.validate with
  | error e' =>
    rw [checked] at run
    obtain ⟨same, -⟩ := pure_run run
    cases same
    exact .inr rfl
  | ok validated =>
    left
    rw [checked] at run
    obtain ⟨there, s₁, -, run⟩ := bind_run run
    obtain ⟨before, -, onward⟩ := optional_run (!there)
      (logger.log (.contextMissing validated.contextFile) : StateM σ Unit) s₁
    replace run := (onward _).symm.trans run
    cases provided : source.provider with
    | none =>
      rw [provided] at run
      obtain ⟨same, -⟩ := pure_run run
      cases same
      rfl
    | some p =>
      rw [provided] at run
      cases known : Vocabulary.ofProvider p with
      | error e' =>
        simp only [known] at run
        obtain ⟨same, -⟩ := pure_run run
        cases same
        exact violations_of_ofProvider known
      | ok versioned =>
        simp only [known] at run
        obtain ⟨taken, mid, -, run⟩ := bind_run run
        cases taken with
        | error e' =>
          obtain ⟨same, -⟩ := pure_run run
          cases same
        | ok d => exact violations_of_produce run

theorem not_namesRelativePath_of_run (anchored : config.Anchored)
    (run : (Generation.run logger config source : StateM σ _) s = (.error (.configuration e), s')) :
    ¬ e.NamesRelativePath := by
  obtain none | refused := violations_of_run run
  · exact ConfigurationError.not_namesRelativePath none
  · exact anchored.of_validate refused

end Generation

theorem Workspace.not_namesRelativePath_of_generate {w : Workspace} {o : GenerateOptions}
    {s s' : World} (absolute : w.root.isAbsolute)
    (run : (w.generate logger o : StateM World _) s = (.error (.configuration e), s')) :
    ¬ e.NamesRelativePath := by
  unfold generate generateWith at run
  cases named : (o.override w.settings.generator).companion with
  | error e' =>
    rw [named] at run
    obtain ⟨same, -⟩ := pure_run run
    cases same
    refine ConfigurationError.not_namesRelativePath ?_
    unfold GeneratorSettings.companion at named
    split at named <;> cases named
    rfl
  | ok companion =>
    rw [named] at run
    obtain ⟨config, mid, configured, run⟩ := bind_run run
    exact Generation.not_namesRelativePath_of_run
      (GeneratorSettings.anchored_configuration absolute configured) run

theorem GeneratorOptions.anchored_configuration {o : GeneratorOptions} {root : Path}
    (absolute : root.isAbsolute) (env : Environment) (settings : GeneratorSettings) :
    (o.configuration env settings root).Anchored :=
  ⟨Path.isAbsolute_anchoredAt absolute, absolute⟩

/-- The directories of a run are absolute in every workspace that was loaded, and for every request
with an absolute schema path. So validation names no relative path, and no run fails for one. -/
theorem configuration_anchored (logger : Logger) (env : Environment) :
    (∀ (p : Path) (file : Option Path) (t t' : World) (w : Workspace),
      (Workspace.load logger env p file : StateM World _) t = (.ok w, t') →
      ∀ (settings : Settings) (o : GenerateOptions) (s : World),
        let w : Workspace := { w with settings }
        let config := ((w.settingsFor o).configuration w.root : StateM World _) s |>.1
        config.outputDirectory.isAbsolute ∧ config.schemaRoot.isAbsolute ∧
        (∀ e, config.validate = .error e → ¬ e.NamesRelativePath) ∧
        ∀ e s', (w.generate logger o : StateM World _) s = (.error (.configuration e), s') →
          ¬ e.NamesRelativePath) ∧
    ∀ (o : GeneratorOptions) (settings : GeneratorSettings) (s : World),
      o.schemaPath.isAbsolute →
      let config := o.configuration env settings (o.schemaRoot s)
      config.outputDirectory.isAbsolute ∧ config.schemaRoot.isAbsolute ∧
      (∀ e, config.validate = .error e → ¬ e.NamesRelativePath) ∧
      ∀ e s', (o.run logger env settings : StateM World _) s = (.error (.configuration e), s') →
        ¬ e.NamesRelativePath := by
  refine ⟨fun p file t t' w loaded settings o s => ?_, fun o settings s absolute => ?_⟩
  · have absolute : w.root.isAbsolute := by
      obtain ⟨settings, mid, -, loaded⟩ := bind_run loaded
      cases settings with
      | error e =>
        obtain ⟨failed, -⟩ := pure_run loaded
        cases failed
      | ok settings =>
        obtain ⟨root, last, found, loaded⟩ := bind_run loaded
        cases root with
        | error fault =>
          obtain ⟨failed, -⟩ := pure_run loaded
          cases failed
        | ok root =>
          obtain ⟨same, -⟩ := pure_run loaded
          cases same
          exact Workspace.isAbsolute_rootOf found
    have anchored : (((Workspace.settingsFor ⟨w.root, settings⟩ o).configuration w.root :
        StateM World _) s |>.1).Anchored :=
      GeneratorSettings.anchored_configuration absolute rfl
    exact ⟨anchored.outputDirectory, anchored.schemaRoot, fun e => anchored.of_validate,
      fun e s' => Workspace.not_namesRelativePath_of_generate absolute⟩
  · have anchored := GeneratorOptions.anchored_configuration (o := o)
      (GeneratorOptions.isAbsolute_schemaRoot (w := s) absolute) env settings
    refine ⟨anchored.outputDirectory, anchored.schemaRoot, fun e => anchored.of_validate,
      fun e s' run => ?_⟩
    obtain ⟨root, s₁, found, run⟩ := bind_run run
    obtain ⟨provider, s₂, -, run⟩ := bind_run run
    have absolute := isAbsolute_schemaDirectory absolute found
    exact Generation.not_namesRelativePath_of_run
      (GeneratorOptions.anchored_configuration absolute env settings) run

def homeWorld : World where
  files := { entries := [(["home"], .directory)], current := ["home"] }

/-- A workspace that does not exist, by a relative path, and a schema path that leads nowhere. -/
theorem configuration_anchored_missing :
    (∃ w t', (Workspace.load .silent {} ⟨"missing"⟩ none : StateM World _)
        homeWorld = (.ok w, t') ∧ w.root = ⟨"/home/missing"⟩ ∧
      (w.outputDirectory { dmmf := ⟨"models.json"⟩ }).isAbsolute) ∧
    (⟨"/app/../schema.prisma"⟩ : Path).isAbsolute ∧
      (GeneratorOptions.schemaRoot { schemaPath := ⟨"/app/../schema.prisma"⟩ } {}).isAbsolute := by
  have absolute : (⟨"/app/../schema.prisma"⟩ : Path).isAbsolute := by decide
  obtain ⟨workspace, request⟩ := configuration_anchored .silent {}
  refine ⟨?_, absolute, (request { schemaPath := ⟨"/app/../schema.prisma"⟩ } {} {} absolute).2.1⟩
  have root : ((Workspace.load .silent {} ⟨"missing"⟩ none : StateM World _)
      homeWorld).1.toOption.map Workspace.root = some ⟨"/home/missing"⟩ := by
    decide +kernel
  cases loaded : (Workspace.load .silent {} ⟨"missing"⟩ none : StateM World _)
      homeWorld with
  | mk r t' =>
    rw [loaded] at root
    cases r with
    | error e => cases root
    | ok w =>
      have output := (workspace _ _ _ _ _ loaded w.settings { dmmf := ⟨"models.json"⟩ } {}).1
      rw [Workspace.configuration_outputDirectory] at output
      exact ⟨w, t', rfl, Option.some_inj.mp root, output⟩

end ShieldPolicy
