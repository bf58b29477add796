import ShieldPolicy.Proofs.Host.Alike

/-!
Where a command or a request may change the files, told from the files that it starts from. A path
that is looked up elsewhere leads to what it led to, or to nothing as before:
`Workspace.generate_keeps`, `Session.answerRequest_keeps`.
-/

namespace ShieldPolicy

open FileSystem Disk OnDisk
open Location (Below)

namespace World

variable {s s' u : World} {dir p : Path} {q : Location}

/-- Whether a run that writes to a directory may change what stands at a place: a missing directory
is made there on the way, or it is in the directory. -/
def Reserved (w : World) (dir : Path) (q : Location) : Prop :=
  w.files.entry? q = none ∧ (Output.furnished dir w).files.entry? q = some .directory ∨
    ∃ out, (Output.furnished dir w).files.find dir = .ok (out, .directory) ∧ Below out q

instance (w : World) (dir : Path) (q : Location) : Decidable (w.Reserved dir q) :=
  have : Decidable (∃ out, (Output.furnished dir w).files.find dir = .ok (out, .directory) ∧
      Below out q) :=
    match found : (Output.furnished dir w).files.find dir with
    | .ok (out, .directory) => decidable_of_iff (Below out q)
        ⟨fun below => ⟨out, rfl, below⟩, fun ⟨_, same, below⟩ => by cases same; exact below⟩
    | .ok (_, .file _) | .ok (_, .link _) | .error _ => isFalse nofun
  inferInstanceAs (Decidable (_ ∨ _))

/-- Whether a path is looked up where no run that writes to the directory changes anything, and does
not lead to the log file. -/
def Clear (w : World) (dir p : Path) : Prop :=
  (∀ q ∈ w.files.trail (wholeSteps p), ¬ w.Reserved dir q) ∧
    ∀ l ∈ (w.files.resolve p true).toOption, ¬ w.Reserved dir l ∧ w.journal ≠ some l

instance (w : World) (dir p : Path) : Decidable (w.Clear dir p) := inferInstanceAs (Decidable (_ ∧ _))

theorem Clear.kept {d : Disk} (clear : s.Clear dir p) (spares : Spares (s.Reserved dir) (disk s) d) :
    Kept (disk s) d p := by
  obtain ⟨way, ends⟩ := clear
  have ends (l : Location) (resolved : s.files.resolve p true = .ok l) :
      ¬ s.Reserved dir l ∧ s.journal ≠ some l := ends l (by rw [resolved]; rfl)
  refine ⟨congrArg Except.toOption (find_congr spares.current (fun q member => ?_)
    fun l resolved => ?_), fun l e found => (ends l (find_eq_ok_iff.mp found).1).2⟩
  · exact (spares.entries q (way q member)).sameShape
  · obtain ⟨outside, apart⟩ := ends l resolved
    rcases spares.entries l outside with same | ⟨logged, -⟩
    · exact same
    · exact absurd logged apart

theorem furnished_alike (alike : s.Alike u) (dir : Path) :
    Disk.Alike (Output.furnished dir s) (Output.furnished dir u) :=
  ((indifferent_alike .silent .silent).makeFirst dir.ancestors s u alike).2

theorem Reserved.of_alike (reserved : u.Reserved dir q) (alike : s.Alike u) : s.Reserved dir q := by
  have furnished := furnished_alike alike dir
  rcases reserved with ⟨none, made⟩ | ⟨out, found, below⟩
  · exact .inl ⟨(Disk.Alike.twin alike).shape q |>.symm.of_none none,
      (furnished.twin.shape q).symm.of_directory made⟩
  · exact .inr ⟨out, furnished.spares.find_directory_iff.mp found, below⟩

end World

/-! ### Runs -/

theorem Generation.run_spares_reserved {logger : Logger} {config : GenerationConfig}
    {source : ModelSource} {s s' : World} {r : Except GenerationError GenerationReport}
    (sound : (disk s).Sound)
    (run : (Generation.run logger config source : StateM World _) s = (r, s')) :
    Spares (s.Reserved config.outputDirectory) (disk s) (disk s') := by
  rcases run_spares sound run with spares | ⟨ready, made, logged, rfl, makes, rest⟩
  · exact spares.within
  have back {q : Location} (reserved : ready.Reserved config.outputDirectory q) :
      s.Reserved config.outputDirectory q := reserved.of_alike logged.alike
  have making : Spares (s.Reserved config.outputDirectory) (disk ready)
      (Output.furnished config.outputDirectory ready) := by
    refine ⟨makes.files.current, fun opened => makes.journal ▸ opened, fun q outside => ?_⟩
    cases before : (disk ready).files.entry? q with
    | some e => exact makes.sameAt (by simp [before])
    | none =>
      cases after : (Output.furnished config.outputDirectory ready).files.entry? q with
      | none => exact .inl (after.trans before.symm)
      | some e =>
        obtain there | rfl := makes.files.fresh after
        · cases before.symm.trans there
        · exact absurd (back (.inl ⟨before, after⟩)) outside
  refine logged.spares.within.trans (making.trans ?_)
  rcases rest with spares | ⟨out, found, spares⟩
  · exact spares.within
  · exact spares.mono fun q below => back (.inr ⟨out, found, below⟩)

/-! ### Commands and requests -/

variable {logger : Logger} {s s' : World} {r : Except GenerationError GenerationReport}

theorem Workspace.generate_spares {w : Workspace} {o : GenerateOptions} (sound : (disk s).Sound)
    (run : (w.generate logger o : StateM World _) s = (r, s')) :
    Spares (s.Reserved (w.outputDirectory o)) (disk s) (disk s') := by
  have run : (w.generateWith logger (w.settingsFor o) o.dmmf : StateM World _) s = (r, s') := run
  unfold generateWith at run
  cases companion : (w.settingsFor o).companion with
  | error e =>
    rw [companion] at run
    obtain ⟨-, rfl⟩ := pure_run run
    exact Spares.refl _ _
  | ok p =>
    rw [companion] at run
    have here : ((w.settingsFor o).configuration w.root : StateM World _) s = (_, s) :=
      configuration_congr fun _ _ => rfl
    dsimp only at run
    rw [run_bind here] at run
    rw [← configuration_outputDirectory (s := s)]
    exact Generation.run_spares_reserved sound run

theorem Workspace.generate_keeps {w : Workspace} {o : GenerateOptions} {p : Path}
    (sound : (disk s).Sound) (run : (w.generate logger o : StateM World _) s = (r, s'))
    (clear : s.Clear (w.outputDirectory o) p) : Kept (disk s) (disk s') p :=
  clear.kept (generate_spares sound run)

theorem GeneratorOptions.run_spares {o : GeneratorOptions} {env : Environment}
    {settings : GeneratorSettings} (sound : (disk s).Sound)
    (run : (o.run logger env settings : StateM World _) s = (r, s')) :
    Spares (s.Reserved (o.configuration env settings (o.schemaRoot s)).outputDirectory)
      (disk s) (disk s') := by
  have here : (schemaDirectory o.schemaPath : StateM World Path) s = (o.schemaRoot s, s) :=
    World.schemaDirectory_congr rfl
  unfold GeneratorOptions.run at run
  rw [run_bind here] at run
  obtain ⟨provider, begun, chosen, run⟩ := bind_run run
  have logged := provider_logged chosen
  have spares := Generation.run_spares_reserved (sound.of_spares logged.spares) run
  exact logged.spares.within.trans (spares.mono fun q reserved => reserved.of_alike logged.alike)

theorem Session.answerRequest_spares {session : Session} {r : Request} {o : GeneratorOptions}
    {response : Response} (sound : (disk s).Sound) (method : r.method = "generate")
    (decoded : GeneratorOptions.decoder.decode r.params = .ok o)
    (run : (session.answerRequest r : StateM World _) s = (response, s')) :
    Spares (s.Reserved (o.configuration session.environment session.settings
      (o.schemaRoot s)).outputDirectory) (disk s) (disk s') := by
  rw [answerRequest_generate method decoded] at run
  obtain ⟨⟨⟩, begun, first, run⟩ := bind_run run
  obtain ⟨outcome, mid, running, run⟩ := bind_run run
  obtain ⟨⟨⟩, last, logged, run⟩ := bind_run run
  obtain ⟨-, rfl⟩ := pure_run run
  have quiet := log_logged first
  have root : o.schemaRoot begun = o.schemaRoot s := by
    have located := congrArg Prod.fst (schemaDirectory_alike quiet.alike o.schemaPath)
    exact located
  have spares := GeneratorOptions.run_spares (sound.of_spares quiet.spares) running
  rw [root] at spares
  exact (quiet.spares.within.trans
    (spares.mono fun q reserved => reserved.of_alike quiet.alike)).trans (log_spares logged).within

theorem Session.answerRequest_keeps {session : Session} {r : Request} {o : GeneratorOptions}
    {response : Response} {p : Path} (sound : (disk s).Sound) (method : r.method = "generate")
    (decoded : GeneratorOptions.decoder.decode r.params = .ok o)
    (run : (session.answerRequest r : StateM World _) s = (response, s'))
    (clear : s.Clear (o.configuration session.environment session.settings
      (o.schemaRoot s)).outputDirectory p) : Kept (disk s) (disk s') p :=
  clear.kept (answerRequest_spares sound method decoded run)

end ShieldPolicy
