import ShieldPolicy.Proofs.Generation.Again
import ShieldPolicy.Proofs.Generation.Reserved

/-!
Commands and requests done a second time. Where the first time has kept what is read, the second time
has the same outcome and changes nothing: `generate_again`.
-/

namespace ShieldPolicy

open FileSystem Disk OnDisk Generation
open Location (Below)

/-! ### Runs -/

section Runs

variable {σ : Type} [Machine (StateM σ)] [OnDisk σ] {s s' : σ} {logger : Logger}
  {config : GenerationConfig} {source : ModelSource} {r : Except GenerationError GenerationReport}

theorem journal_of_run {l : Location} (sound : (disk s).Sound)
    (run : (Generation.run logger config source : StateM σ _) s = (r, s'))
    (logged : (disk s').journal = some l) : (disk s).journal = some l := by
  obtain ⟨_, _, -, -, spares⟩ := run_spares_present sound run
  exact spares.journal logged

end Runs

/-! ### Commands -/

namespace Workspace

variable {w : Workspace} {o : GenerateOptions} {logger : Logger} {s s' : World}
  {report : GenerationReport}

theorem generate_kept (sound : (disk s).Sound)
    (run : (w.generate logger o : StateM World _) s = (.ok report, s'))
    (kept : ∀ p ∈ w.inputs o, Kept (disk s) (disk s') p)
    (reached : ∃ l, s'.files.find (w.outputDirectory o) = .ok (l, .directory)) :
    ∃ s'', (w.generate logger o : StateM World _) s' = (.ok report, s'') ∧
      Spares (fun _ => False) (disk s') (disk s'') := by
  have run : (w.generateWith logger (w.settingsFor o) o.dmmf : StateM World _) s = (.ok report, s') :=
    run
  change ∃ s'', (w.generateWith logger (w.settingsFor o) o.dmmf : StateM World _) s' = _ ∧ _
  unfold generateWith at run ⊢
  cases companion : (w.settingsFor o).companion with
  | error e =>
    rw [companion] at run
    obtain ⟨wrong, -⟩ := pure_run run
    cases wrong
  | ok p =>
    rw [companion] at run
    dsimp only at run ⊢
    obtain ⟨dmmf, schema⟩ := List.forall_mem_cons.mp kept
    have here : ((w.settingsFor o).configuration w.root : StateM World _) s = (_, s) :=
      configuration_congr fun _ _ => rfl
    have there : ((w.settingsFor o).configuration w.root : StateM World _) s' = (_, s') :=
      configuration_congr fun p member => (schema p member).same
    rw [run_bind here] at run
    rw [run_bind there]
    rw [← configuration_outputDirectory (s := s)] at reached
    refine run_again sound run reached ?_ (Spares.refl _ _)
    intro d before after quiet ingested t quiet'
    refine ⟨t, World.ingest_again (fun path same => ?_) ingested⟩
    cases same
    have after := dmmf.trans (fun logged => journal_of_run sound run logged) quiet'
    exact after.same.trans (Kept.of_spares quiet dmmf.apart).same.symm

end Workspace

/-! ### Requests -/

namespace GeneratorOptions

variable {o : GeneratorOptions} {logger : Logger} {env : Environment} {settings : GeneratorSettings}
  {d : Disk} {s s' t u : World} {report : GenerationReport}

/-- What a request reads before it runs: the same as in these files, wherever it starts. -/
theorem run_start (logger : Logger) (kept : ∀ p ∈ o.inputs env settings u, Kept (disk u) (disk s) p)
    (journal : ∀ {l}, (disk s).journal = some l → (disk u).journal = some l) :
    ∃ t, Spares (fun _ => False) (disk s) (disk t) ∧
      (o.run logger env settings : StateM World _) s =
        (Generation.run logger (o.configuration env settings (o.schemaRoot u))
          ⟨providerIn u.files o env settings (o.schemaRoot u), .json o.dmmf⟩ : StateM World _) t := by
  obtain ⟨schema, manifests⟩ := List.forall_mem_cons.mp kept
  have located : (schemaDirectory o.schemaPath : StateM World Path) s = (o.schemaRoot u, s) :=
    World.schemaDirectory_congr schema.same
  obtain ⟨t, found, spares⟩ := provider_run logger journal manifests
  refine ⟨t, spares, ?_⟩
  rw [GeneratorOptions.run, run_bind located]
  exact run_bind found

theorem run_journal {l : Location} (sound : (disk s).Sound)
    (run : (o.run logger env settings : StateM World _) s = (.ok report, s'))
    (apart : ∀ p ∈ o.inputs env settings u, Kept (disk u) (disk s) p)
    (journal : ∀ {l}, (disk s).journal = some l → (disk u).journal = some l)
    (logged : (disk s').journal = some l) : (disk s).journal = some l := by
  obtain ⟨begun, quiet, same⟩ := run_start logger apart journal
  rw [same] at run
  exact quiet.journal (journal_of_run (sound.of_spares quiet) run logged)

theorem run_kept (sound : (disk s).Sound)
    (run : (o.run logger env settings : StateM World _) s = (.ok report, s'))
    (apart : ∀ p ∈ o.inputs env settings u, Kept (disk u) (disk s) p)
    (journal : ∀ {l}, (disk s).journal = some l → (disk u).journal = some l)
    (kept : ∀ p ∈ o.inputs env settings u, Kept (disk u) (disk t) p)
    (start : Spares (fun _ => False) (disk s') (disk t))
    (reached : ∃ l, s'.files.find
      (o.configuration env settings (o.schemaRoot u)).outputDirectory = .ok (l, .directory)) :
    ∃ t', (o.run logger env settings : StateM World _) t = (.ok report, t') ∧
      Spares (fun _ => False) (disk t) (disk t') := by
  obtain ⟨begun, quiet, same⟩ := run_start logger apart journal
  rw [same] at run
  have sound' := sound.of_spares quiet
  have later : ∀ {l}, (disk t).journal = some l → (disk u).journal = some l := fun logged =>
    journal (quiet.journal (journal_of_run sound' run (start.journal logged)))
  obtain ⟨begun', quiet', same'⟩ := run_start logger kept later
  rw [same']
  have taken (d : ModelDescription) (before after : World)
      (_ : Spares (fun _ => False) (disk begun) (disk before))
      (ingested : (ingest (.json o.dmmf) : StateM World _) before = (.ok d, after)) (v : World)
      (_ : Spares (fun _ => False) (disk s') (disk v)) :
      ∃ v', (ingest (.json o.dmmf) : StateM World _) v = (.ok d, v') :=
    ⟨v, World.ingest_again (fun _ wrong => by cases wrong) ingested⟩
  obtain ⟨t', again, spares⟩ := run_again sound' run reached taken (start.trans quiet')
  exact ⟨t', again, quiet'.trans spares⟩

end GeneratorOptions

namespace Session

variable {session : Session} {r : Request} {o : GeneratorOptions} {response : Response}
  {s s' : World}

theorem answerRequest_kept (sound : (disk s).Sound) (method : r.method = "generate")
    (decoded : GeneratorOptions.decoder.decode r.params = .ok o)
    (run : (session.answerRequest r : StateM World _) s = (response, s'))
    (fulfilled : response.error = none)
    (kept : ∀ p ∈ o.inputs session.environment session.settings s, Kept (disk s) (disk s') p)
    (reached : ∃ l, s'.files.find (o.configuration session.environment session.settings
      (o.schemaRoot s)).outputDirectory = .ok (l, .directory)) :
    ∃ s'', (session.answerRequest r : StateM World _) s' = (response, s'') ∧
      Spares (fun _ => False) (disk s') (disk s'') := by
  obtain ⟨s₁, first, quiet⟩ := exists_log session.logger (.requestReceived r.method) s
  obtain ⟨t₁, first', quiet'⟩ := exists_log session.logger (.requestReceived r.method) s'
  rw [answerRequest_generate method decoded] at run ⊢
  rw [run_bind first] at run
  rw [run_bind first']
  obtain ⟨outcome, s₂, running, run⟩ := bind_run run
  obtain ⟨⟨⟩, s₃, last, run⟩ := bind_run run
  obtain ⟨rfl, rfl⟩ := pure_run run
  cases outcome with
  | error e => cases fulfilled
  | ok report =>
    have still := log_spares last
    have begun (p : Path) (member : p ∈ o.inputs session.environment session.settings s) :
        Kept (disk s) (disk s₁) p := .of_spares quiet (kept p member).apart
    have later : ∀ {l}, (disk s').journal = some l → (disk s).journal = some l := fun logged =>
      quiet.journal (GeneratorOptions.run_journal (sound.of_spares quiet) running begun quiet.journal
        (still.journal logged))
    have reached : ∃ l, s₂.files.find (o.configuration session.environment session.settings
        (o.schemaRoot s)).outputDirectory = .ok (l, .directory) :=
      reached.imp fun l found => still.find_directory_iff.mp found
    obtain ⟨t₂, again, spares⟩ := GeneratorOptions.run_kept (sound.of_spares quiet) running begun
      quiet.journal (fun p member => (kept p member).trans later quiet') (still.trans quiet') reached
    obtain ⟨t₃, last', told⟩ := exists_log session.logger (outcomeEvent (.ok report)) t₂
    refine ⟨t₃, ?_, (quiet'.trans spares).trans told⟩
    rw [run_bind again]
    exact run_bind last'

end Session

/-! ### The second time -/

/-- A command and a request have the same outcome when they are done again, and then change nothing
but the log file, where the first time has kept the paths that are read and the way to the output
directory. -/
theorem generate_again :
    (∀ (w : Workspace) (logger : Logger) (o : GenerateOptions) (s s' : World)
        (report : GenerationReport), (disk s).Sound →
      (w.generate logger o : StateM World _) s = (.ok report, s') →
      (∀ p ∈ w.inputs o, Kept (disk s) (disk s') p) →
      (∃ l, s'.files.find (w.outputDirectory o) = .ok (l, .directory)) →
      ∃ s'', (w.generate logger o : StateM World _) s' = (.ok report, s'') ∧
        Spares (fun _ => False) (disk s') (disk s'')) ∧
    ∀ (session : Session) (r : Request) (o : GeneratorOptions) (s s' : World)
        (response : Response), (disk s).Sound → r.method = "generate" →
      GeneratorOptions.decoder.decode r.params = .ok o →
      (session.answerRequest r : StateM World _) s = (response, s') → response.error = none →
      (∀ p ∈ o.inputs session.environment session.settings s, Kept (disk s) (disk s') p) →
      (∃ l, s'.files.find (o.configuration session.environment session.settings
        (o.schemaRoot s)).outputDirectory = .ok (l, .directory)) →
      ∃ s'', (session.answerRequest r : StateM World _) s' = (response, s'') ∧
        Spares (fun _ => False) (disk s') (disk s'') := by
  refine ⟨fun w logger o s s' report sound run kept reached => ?_,
    fun session r o s s' response sound method decoded run fulfilled kept reached => ?_⟩
  · exact Workspace.generate_kept sound run kept reached
  · exact Session.answerRequest_kept sound method decoded run fulfilled kept reached

def modelWorld : World where
  files.entries := [(["ws"], .directory), (["ws", "models.json"], .file
    ("\x7b\"mappings\":\x7b\"modelOperations\":[\x7b\"model\":\"Post\"," ++
      "\"findMany\":\"findManyPost\"\x7d]\x7d\x7d"))]

def modelOptions : GenerateOptions :=
  { dmmf := ⟨"models.json"⟩, output := some ⟨"out"⟩, contextPath := some ⟨"/context.ts"⟩ }

def modelRequest : Request where
  method := "generate"
  params := .object [
    ("dmmf", .object [("mappings", .object [])]),
    ("generator", .object [("config", .object [("contextPath", .text "/context.ts")]),
      ("output", .object [("value", .text "/ws/out")]), ("provider", .object [])]),
    ("otherGenerators",
      .array [.object [("provider", .object [("value", .text "prisma-client-js")])]]),
    ("schemaPath", .text "/ws/schema.prisma")]

theorem generate_again_models :
    (∃ report s' s'', (Workspace.generate ⟨⟨"/ws"⟩, {}⟩ .silent modelOptions : StateM World _)
        modelWorld = (.ok report, s') ∧
      (Workspace.generate ⟨⟨"/ws"⟩, {}⟩ .silent modelOptions : StateM World _) s' =
        (.ok report, s'') ∧ Spares (fun _ => False) (disk s') (disk s'')) ∧
    ∃ response s' s'', (Session.answerRequest {} modelRequest : StateM World _) modelWorld =
        (response, s') ∧ response.error = none ∧
      (Session.answerRequest {} modelRequest : StateM World _) s' = (response, s'') ∧
      Spares (fun _ => False) (disk s') (disk s'') := by
  have sound : (disk modelWorld).Sound := ⟨wellFormed_of_tidy (by decide +kernel), nofun⟩
  constructor
  · have done : ((Workspace.generate ⟨⟨"/ws"⟩, {}⟩ .silent modelOptions : StateM World _)
      modelWorld).1.toOption.isSome := by decide +kernel
    have clear : ∀ p ∈ Workspace.inputs ⟨⟨"/ws"⟩, {}⟩ modelOptions,
        modelWorld.Clear (Workspace.outputDirectory ⟨⟨"/ws"⟩, {}⟩ modelOptions) p := by
      decide +kernel
    have reached : ((Workspace.generate ⟨⟨"/ws"⟩, {}⟩ .silent modelOptions : StateM World _)
      modelWorld).2.files.find (Workspace.outputDirectory ⟨⟨"/ws"⟩, {}⟩ modelOptions) =
        .ok (["ws", "out"], .directory) := by decide +kernel
    cases run : (Workspace.generate ⟨⟨"/ws"⟩, {}⟩ .silent modelOptions : StateM World _)
      modelWorld with
    | mk r s' =>
      rw [run] at done reached
      cases r with
      | error e => cases done
      | ok report =>
        obtain ⟨s'', again, spares⟩ := generate_again.1 _ _ _ _ _ _ sound run
          (fun p member => Workspace.generate_keeps sound run (clear p member)) ⟨_, reached⟩
        exact ⟨report, s', s'', rfl, again, spares⟩
  · have done : ((Session.answerRequest {} modelRequest : StateM World _)
      modelWorld).1.error.isNone := by decide +kernel
    have clear : ((GeneratorOptions.decoder.decode modelRequest.params).toOption.any fun o =>
        (o.inputs {} {} modelWorld).all fun p => decide (modelWorld.Clear
          (o.configuration {} {} (o.schemaRoot modelWorld)).outputDirectory p)) := by decide +kernel
    have reached : ((GeneratorOptions.decoder.decode modelRequest.params).toOption.any fun o =>
        decide (((Session.answerRequest {} modelRequest : StateM World _) modelWorld).2.files.find
          (o.configuration {} {} (o.schemaRoot modelWorld)).outputDirectory =
            .ok (["ws", "out"], .directory))) := by decide +kernel
    cases run : (Session.answerRequest {} modelRequest : StateM World _) modelWorld with
    | mk response s' =>
      rw [run] at done reached
      cases decoded : GeneratorOptions.decoder.decode modelRequest.params with
      | error e =>
        rw [decoded] at clear
        cases clear
      | ok o =>
        rw [decoded] at clear reached
        have clear := List.all_eq_true.mp clear
        obtain ⟨s'', again, spares⟩ := generate_again.2 {} modelRequest o modelWorld s' response sound
          rfl decoded run (by simpa using done)
          (fun p member => Session.answerRequest_keeps sound rfl decoded run
            (of_decide_eq_true (clear p member)))
          ⟨_, of_decide_eq_true reached⟩
        exact ⟨response, s', s'', rfl, by simpa using done, again, spares⟩

def buriedWorld : World where
  files.entries := [(["ws"], .directory), (["ws", "out"], .directory),
    (["ws", "out", "models.json"], .file "\x7b\"mappings\":\x7b\x7d\x7d")]

def buriedOptions : GenerateOptions :=
  { dmmf := ⟨"out/models.json"⟩, output := some ⟨"out"⟩, contextPath := some ⟨"/context.ts"⟩ }

/-- A model description in the output directory is gone the second time. -/
theorem generate_buried_fails_again : ∃ report s' e s'',
    (Workspace.generate ⟨⟨"/ws"⟩, {}⟩ .silent buriedOptions : StateM World _) buriedWorld =
        (.ok report, s') ∧
      (Workspace.generate ⟨⟨"/ws"⟩, {}⟩ .silent buriedOptions : StateM World _) s' =
        (.error (.ingestion e), s'') := by
  have first : ((Workspace.generate ⟨⟨"/ws"⟩, {}⟩ .silent buriedOptions : StateM World _)
    buriedWorld).1.toOption.isSome := by decide +kernel
  have second : ((Workspace.generate ⟨⟨"/ws"⟩, {}⟩ .silent buriedOptions : StateM World _)
      ((Workspace.generate ⟨⟨"/ws"⟩, {}⟩ .silent buriedOptions : StateM World _) buriedWorld).2).1 =
        .error (.ingestion (.unreadable ⟨"/ws/out/models.json"⟩ .notFound)) := by decide +kernel
  cases run : (Workspace.generate ⟨⟨"/ws"⟩, {}⟩ .silent buriedOptions : StateM World _)
    buriedWorld with
  | mk r s' =>
    rw [run] at first second
    cases r with
    | error e => cases first
    | ok report => exact ⟨report, s', _, _, rfl, Prod.ext second rfl⟩

-- Nor may the way to the output directory be cut off: the link that it goes through is removed, and
-- the second time makes a directory in its place.
example :
    let w : Workspace := ⟨⟨"/ws"⟩, {}⟩
    let o : GenerateOptions :=
      { dmmf := ⟨"models.json"⟩, output := some ⟨"out/way"⟩, contextPath := some ⟨"/context.ts"⟩ }
    let linked : FileSystem := { entries := [(["ws"], .directory), (["ws", "out"], .directory),
      (["ws", "models.json"], .file "\x7b\"mappings\":\x7b\x7d\x7d"),
      (["ws", "out", "way"], .link "../out")] }
    let once := ((w.generate .silent o : StateM World _) { files := linked }).2
    let twice := ((w.generate .silent o : StateM World _) once).2
    once.files.entry? ["ws", "out", "way"] = none ∧
      twice.files.entry? ["ws", "out", "way"] = some .directory := by
  decide +kernel

end ShieldPolicy
