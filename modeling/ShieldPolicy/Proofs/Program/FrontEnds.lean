import ShieldPolicy.Proofs.Host.Alike
import ShieldPolicy.Proofs.Operation.Description
import ShieldPolicy.Proofs.Provider
import ShieldPolicy.Workspace

/-!
The command line and the host side by side. A command and a request for the same project run with
the same configuration and the same client, and end alike: `front_ends_agree`.
-/

namespace ShieldPolicy

open Disk OnDisk Generation

/-- What is asked of either front end: a policy for a schema, written for a client whose version is
known. -/
structure Project where
  schema : Path
  output : Path
  contextPath : Path
  companion : String
  version : String
  schema_absolute : schema.isAbsolute
  output_absolute : output.isAbsolute
  known : companion ∈ Provider.companions
  versioned : version ≠ ""
  plain : ∀ c ∈ version.toList, c ≠ '@' ∧ Text.isBlank c = false

namespace Project

variable {project : Project} {w : World} {logger : Logger}

def provider (project : Project) : Provider := ⟨project.companion, some project.version⟩

def configuration (project : Project) (w : World) : GenerationConfig where
  contextPath := project.contextPath
  outputDirectory := project.output
  schemaRoot := ((schemaDirectory project.schema : StateM World Path) w).1

theorem anchoredAt_schema (base : Path) : base.anchoredAt project.schema = project.schema :=
  if_pos project.schema_absolute

theorem anchoredAt_output (base : Path) : base.anchoredAt project.output = project.output :=
  if_pos project.output_absolute

/-! ### The command line -/

def options (project : Project) (dmmf : Path) : GenerateOptions where
  dmmf
  output := some project.output
  schema := some project.schema
  contextPath := some project.contextPath
  provider := some project.provider.display

theorem parse_display (project : Project) :
    Provider.parse project.provider.display = .ok project.provider := by
  have plainNames : Provider.companions.all (fun name =>
      name != "" && name.toList.all fun c => !Text.isBlank c) := by decide +kernel
  have plainName : project.companion ≠ "" ∧
      ∀ c ∈ project.companion.toList, Text.isBlank c = false := by
    simpa using List.all_eq_true.mp plainNames _ project.known
  exact Provider.parse_display plainName.1 project.versioned
    (fun member => (project.plain _ member).1 rfl) plainName.2
    fun c member => (project.plain c member).2

theorem companion_options (settings : GeneratorSettings) (dmmf : Path) :
    ((project.options dmmf).override settings).companion = .ok project.provider := by
  have parsed := project.parse_display
  simp only [GeneratorSettings.companion, GenerateOptions.override, options, Option.getD_some, parsed]
  rfl

theorem configuration_options (settings : GeneratorSettings) (dmmf root : Path) :
    (((project.options dmmf).override settings).configuration root : StateM World _) w =
      (project.configuration w, w) := by
  have found : (schemaDirectory (root.anchoredAt project.schema) : StateM World Path) w =
      (((schemaDirectory project.schema : StateM World Path) w).1, w) := by
    rw [anchoredAt_schema]
    exact schemaDirectory_alike (.refl w) project.schema
  have output : root.anchoredAt ((project.options dmmf).override settings).output =
      project.output := anchoredAt_output root
  unfold GeneratorSettings.configuration
  rw [output]
  exact run_bind found

theorem generate_options (ws : Workspace) (dmmf : Path) :
    (ws.generate logger (project.options dmmf) : StateM World _) w =
      (Generation.run logger (project.configuration w)
        ⟨some project.provider, .file (ws.root.anchoredAt dmmf)⟩ : StateM World _) w := by
  unfold Workspace.generate Workspace.generateWith
  rw [companion_options]
  exact run_bind (configuration_options _ _ _)

end Project

/-! ### The host -/

namespace GeneratorOptions

variable {o : GeneratorOptions} {env : Environment} {project : Project} {d : Json} {w u : World}
  {logger : Logger}

structure AsksFor (o : GeneratorOptions) (env : Environment) (project : Project) (d : Json) :
    Prop where
  schema : o.schemaPath = project.schema
  output : (o.generator.output.bind fun v => v.resolve env) = some project.output.text
  contextPath : o.generator.option? "contextPath" = some project.contextPath.text
  companion : ∃ block, o.otherGenerators = [block] ∧
    block.provider.resolve env = some project.companion
  version : o.generator.option? "clientVersion" = some project.version
  dmmf : o.dmmf = d

theorem AsksFor.provider (asks : o.AsksFor env project d) (settings : GeneratorSettings)
    (root : Path) : (o.provider logger env settings root : StateM World _) =
      pure (some project.provider) := by
  obtain ⟨block, one, named⟩ := asks.companion
  have companion : o.companion? env = some block := by
    rw [companion?, one]
    refine List.find?_cons_of_pos ?_
    rw [GeneratorBlock.isCompanion, named]
    exact List.contains_iff_mem.mpr project.known
  simp only [GeneratorOptions.provider, companion, named, asks.version]
  rfl

theorem AsksFor.configuration (asks : o.AsksFor env project d) (settings : GeneratorSettings)
    (root : Path) :
    o.configuration env settings root = ⟨project.contextPath, project.output, root⟩ := by
  have output : root.anchoredAt (((o.generator.output.bind fun v => v.resolve env).map Path.mk).getD
      settings.output) = project.output := by
    rw [asks.output]
    exact Project.anchoredAt_output root
  rw [GeneratorOptions.configuration, output, asks.contextPath]
  rfl

theorem AsksFor.run (asks : o.AsksFor env project d) (settings : GeneratorSettings)
    (alike : w.Alike u) :
    (o.run logger env settings : StateM World _) u =
      (Generation.run logger (project.configuration w) ⟨some project.provider, .json d⟩ :
        StateM World _) u := by
  unfold GeneratorOptions.run
  rw [run_bind (schemaDirectory_alike alike o.schemaPath), asks.provider, asks.configuration,
    asks.schema, asks.dmmf]
  rfl

def ofProject (project : Project) (d : Json) : GeneratorOptions where
  generator :=
    { output := some { value := some project.output.text }
      config := [("clientVersion", .text project.version),
        ("contextPath", .text project.contextPath.text)] }
  otherGenerators := [{ provider := { value := some project.companion } }]
  schemaPath := project.schema
  dmmf := d

def paramsFor (project : Project) (d : Json) : Json :=
  .object [("dmmf", d),
    ("generator", .object [
      ("config", .object [("clientVersion", .text project.version),
        ("contextPath", .text project.contextPath.text)]),
      ("output", .object [("value", .text project.output.text)]), ("provider", .object [])]),
    ("otherGenerators",
      .array [.object [("provider", .object [("value", .text project.companion)])]]),
    ("schemaPath", .text project.schema.text)]

theorem decode_paramsFor (project : Project) (d : Json) :
    decoder.decode (paramsFor project d) = .ok (ofProject project d) := rfl

theorem asksFor_ofProject (env : Environment) (project : Project) (d : Json) :
    (ofProject project d).AsksFor env project d :=
  ⟨rfl, rfl, rfl, ⟨_, rfl, rfl⟩, rfl, rfl⟩

end GeneratorOptions

/-! ### Descriptions in files and in requests -/

section Sources

variable {w s t : World} {logger : Logger} {p : Path} {text : String} {d : Json}

/-- Whether a file holds the text, whatever is logged. -/
def Holds (logger : Logger) (p : Path) (text : String) (w : World) : Prop :=
  ∀ events, ((logger.logAll events : StateM World Unit) w).2.files.readText p = .ok text

theorem holds_of_apart (read : w.files.readText p = .ok text)
    (apart : ∀ l e, w.files.find p = .ok (l, e) → w.journal ≠ some l) : Holds logger p text w := by
  intro events
  have alike : w.Alike ((logger.logAll events : StateM World Unit) w).2 :=
    (World.indifferent_alike .silent logger).logAll_right events (.refl w)
  have same : ((logger.logAll events : StateM World Unit) w).2.files.find p = w.files.find p :=
    (Disk.Alike.spares alike).find apart
  rw [FileSystem.readText, same]
  exact read

theorem overlooked_holds (logger logger' : Logger) (p : Path) (text : String) :
    Overlooked (fun s t => Holds logger p text s ∧ World.Alike s t) logger logger' where
  status q s t start :=
    ⟨((World.indifferent_alike logger logger').status q s t start.2).1, start⟩
  left e _ _ start :=
    ⟨fun events => start.1 (e :: events), (World.indifferent_alike logger logger').left e start.2⟩
  right e _ _ start := ⟨start.1, (World.indifferent_alike logger logger').right e start.2⟩

/-- The text of a file and its value are the same description, or neither is one. -/
theorem ingest_file_json (parsed : Json.parseDistinct text = .ok d) :
    Alongside (fun s t => Holds logger p text s ∧ World.Alike s t) (Outcomes (fun _ _ => True) Eq)
      (ingest (.file p)) (ingest (.json d)) := by
  rintro s t ⟨held, alike⟩
  have read : (Machine.readText p : StateM World _) s = (.ok text, s) := Prod.ext (held []) rfl
  have taken : (ingest (.file p) : StateM World _) s =
      ((ModelDescription.ofText text).mapError .malformed, s) := run_bind read
  have same : Option.Rel Eq (ModelDescription.ofText text).toOption
      (ModelDescription.ofJson d).toOption := by
    rw [ModelDescription.toOption_ofText parsed]
    cases (ModelDescription.ofJson d).toOption with
    | none => exact .none
    | some description => exact .some rfl
  rw [taken]
  exact ⟨(Outcomes.of_rel same).mapError fun _ _ _ => trivial, held, alike⟩

theorem run_file_json (logger' : Logger) (config : GenerationConfig) (provider : Option Provider)
    (held : Holds logger p text s) (parsed : Json.parseDistinct text = .ok d) (alike : s.Alike t) :
    Outcomes (FailsAlike fun _ _ => True) Eq
        ((Generation.run logger config ⟨provider, .file p⟩ : StateM World _) s).1
        ((Generation.run logger' config ⟨provider, .json d⟩ : StateM World _) t).1 ∧
      World.Alike ((Generation.run logger config ⟨provider, .file p⟩ : StateM World _) s).2
        ((Generation.run logger' config ⟨provider, .json d⟩ : StateM World _) t).2 := by
  obtain ⟨outcomes, ends⟩ := (World.indifferent_alike logger logger').run_from
    (overlooked_holds logger logger' p text) And.right config provider (ingest_file_json parsed)
    (fun a b same => ModelDescription.sameUses_of_perm (same ▸ .refl _)) s t ⟨held, alike⟩
  refine ⟨outcomes.imp (fun _ _ => id) ?_, ends⟩
  rintro r r' ⟨a, _, rfl, reports⟩
  exact reports.eq_of_perm (.refl _)

end Sources

/-! ### Side by side -/

/-- Whether a response says that a run succeeded, or failed in the same stage, as a command did. -/
inductive Response.Tells (id : Json) :
    Except GenerationError GenerationReport → Response → Prop where
  | done (report : GenerationReport) : Tells id (.ok report) (.success id .null)
  | failed {e e' : GenerationError} (stage : e'.stage = e.stage) :
      Tells id (.error e) (.ofRunError id e')

/-- A command and a request for the same project start from the same configuration and the same
client, whatever the settings of either are. They succeed or fail together, in the same stage if
they fail, and leave the same files. With an open log file this holds but for its text, and where
the model description is no log file that grows meanwhile. -/
theorem front_ends_agree {ws : Workspace} {session : Session} {logger : Logger} {project : Project}
    {dmmf : Path} {text : String} {d : Json} {request : Request} {o : GeneratorOptions} {w : World}
    (held : Holds logger (ws.root.anchoredAt dmmf) text w)
    (parsed : Json.parseDistinct text = .ok d) (method : request.method = "generate")
    (decoded : GeneratorOptions.decoder.decode request.params = .ok o)
    (asks : o.AsksFor session.environment project d) :
    (ws.generate logger (project.options dmmf) : StateM World _) w =
        (Generation.run logger (project.configuration w)
          ⟨some project.provider, .file (ws.root.anchoredAt dmmf)⟩ : StateM World _) w ∧
      (∀ u, w.Alike u →
        (o.run session.logger session.environment session.settings : StateM World _) u =
          (Generation.run session.logger (project.configuration w)
            ⟨some project.provider, .json d⟩ : StateM World _) u) ∧
      ∀ r s response t, (ws.generate logger (project.options dmmf) : StateM World _) w = (r, s) →
        (session.answerRequest request : StateM World _) w = (response, t) →
        Response.Tells request.id r response ∧ s.Alike t ∧
          (w.journal = none → ∀ l, t.files.entry? l = s.files.entry? l) := by
  refine ⟨Project.generate_options ws dmmf, fun u alike => asks.run session.settings alike, ?_⟩
  intro r s response t command answer
  rw [Project.generate_options] at command
  rw [Session.answerRequest_generate method decoded] at answer
  obtain ⟨⟨⟩, begun, received, answer⟩ := bind_run answer
  have started : w.Alike begun := (log_logged received).alike
  obtain ⟨outcome, ended, ran, answer⟩ := bind_run answer
  obtain ⟨⟨⟩, last, logged, answer⟩ := bind_run answer
  obtain ⟨rfl, rfl⟩ := pure_run answer
  rw [asks.run session.settings started] at ran
  obtain ⟨outcomes, alike⟩ := run_file_json session.logger (project.configuration w)
    (some project.provider) held parsed started
  rw [command, ran] at outcomes alike
  have closed (closed : w.journal = none) : s.journal = none :=
    ((World.keptBy_closed logger).run (project.configuration w)
      ⟨some project.provider, .file (ws.root.anchoredAt dmmf)⟩).of_run command closed
  have alike := alike.trans (log_logged logged).alike
  refine ⟨?_, alike, fun quiet => alike.entry?_eq (closed quiet)⟩
  cases outcomes with
  | ok same => exact .done _
  | error fails => exact .failed fails.stage.symm

def shopProject : Project where
  schema := ⟨"/shop/schema.prisma"⟩
  output := ⟨"/shop/out"⟩
  contextPath := ⟨"context.ts"⟩
  companion := "prisma-client"
  version := "5.1.0"
  schema_absolute := rfl
  output_absolute := rfl
  known := by decide
  versioned := by decide
  plain c member := by
    have each : "5.1.0".toList.all (fun c => c != '@' && !Text.isBlank c) := by decide +kernel
    simpa using List.all_eq_true.mp each c member

def shopText : String :=
  "\x7b\"mappings\":\x7b\"modelOperations\":[\x7b\"model\":\"Cart\"," ++
    "\"findMany\":\"findManyCart\"\x7d]\x7d\x7d"

def shopWorld : World where
  files.entries := [(["shop"], .directory), (["shop", "models.json"], .file shopText)]

def shopCommand : Except GenerationError GenerationReport × World :=
  (Workspace.generate ⟨⟨"/shop"⟩, {}⟩ .silent (shopProject.options ⟨"models.json"⟩) : StateM World _)
    shopWorld

def shopRequest (d : Json) : Request where
  method := "generate"
  params := GeneratorOptions.paramsFor shopProject d

theorem front_ends_agree_shop : ∃ d report s t, Json.parseDistinct shopText = .ok d ∧
    shopCommand = (.ok report, s) ∧
    (Session.answerRequest {} (shopRequest d) : StateM World _) shopWorld =
      (.success .null .null, t) ∧
    t.files.entry? ["shop", "out", "shield.ts"] = s.files.entry? ["shop", "out", "shield.ts"] := by
  have read : (Json.parseDistinct shopText).toOption.isSome := by decide +kernel
  have done : shopCommand.1.toOption.isSome := by decide +kernel
  have held : Holds .silent ((⟨"/shop"⟩ : Path).anchoredAt ⟨"models.json"⟩) shopText shopWorld :=
    holds_of_apart (by decide +kernel) nofun
  cases parsed : Json.parseDistinct shopText with
  | error e =>
    rw [parsed] at read
    cases read
  | ok d =>
  cases command : shopCommand with
  | mk r s =>
  cases answer : (Session.answerRequest {} (shopRequest d) : StateM World _) shopWorld with
  | mk response t =>
  rw [command] at done
  obtain ⟨told, -, same⟩ := (@front_ends_agree ⟨⟨"/shop"⟩, {}⟩ {} _ _ _ _ _ (shopRequest d) _ _
    held parsed rfl (GeneratorOptions.decode_paramsFor shopProject d)
    (GeneratorOptions.asksFor_ofProject _ shopProject d)).2.2 r s response t command answer
  cases told with
  | failed => cases done
  | done report => exact ⟨d, report, s, t, rfl, rfl, answer, same rfl _⟩

end ShieldPolicy
