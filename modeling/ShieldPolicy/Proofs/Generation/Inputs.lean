import ShieldPolicy.Proofs.Generation.Run
import ShieldPolicy.Workspace

/-!
What is read before the output is written. `Kept` says that a path still leads to what it led to,
and then what is read there is the same, whatever was logged in between.
-/

namespace ShieldPolicy

open FileSystem Disk OnDisk

/-! ### Paths that lead where they led -/

namespace FileSystem

variable {fs fs' : FileSystem} {p : Path}

/-- Where a path leads and what stands there, nothing where it leads nowhere. -/
def find? (fs : FileSystem) (p : Path) : Option (Location × Entry) := (fs.find p).toOption

theorem find?_eq_some_iff {l : Location} {e : Entry} :
    fs.find? p = some (l, e) ↔ fs.find p = .ok (l, e) := by
  rw [find?]
  cases fs.find p <;> simp [Except.toOption]

theorem toOption_readText_congr (same : fs'.find? p = fs.find? p) :
    (fs'.readText p).toOption = (fs.readText p).toOption := by
  unfold find? at same
  unfold readText
  cases found : fs.find p with
  | error fault =>
    rw [found] at same
    cases found' : fs'.find p with
    | error fault' => rfl
    | ok x =>
      rw [found'] at same
      cases same
  | ok x =>
    rw [found] at same
    cases found' : fs'.find p with
    | error fault =>
      rw [found'] at same
      cases same
    | ok x' =>
      rw [found'] at same
      cases same
      rfl

end FileSystem

namespace Disk

/-- A path leads to what it led to, or still to nothing, and not to the log file. -/
structure Kept (d d' : Disk) (p : Path) : Prop where
  same : d'.files.find? p = d.files.find? p
  apart : ∀ l e, d.files.find p = .ok (l, e) → d.journal ≠ some l

variable {d d' d'' : Disk} {p : Path}

theorem Spares.find (spares : Spares (fun _ => False) d d')
    (apart : ∀ l e, d.files.find p = .ok (l, e) → d.journal ≠ some l) :
    d'.files.find p = d.files.find p := by
  refine find_congr spares.current (fun q _ => spares.sameShape q) fun l resolved => ?_
  rcases spares.entries l id with same | ⟨logged, text, -, entry, -⟩
  · exact same
  · exact absurd logged (apart l _ (find_eq_ok_iff.mpr ⟨resolved, entry⟩))

theorem Kept.of_spares (spares : Spares (fun _ => False) d d')
    (apart : ∀ l e, d.files.find p = .ok (l, e) → d.journal ≠ some l) : Kept d d' p :=
  ⟨congrArg Except.toOption (spares.find apart), apart⟩

theorem Kept.find (kept : Kept d d' p) {l : Location} {e : Entry}
    (found : d'.files.find p = .ok (l, e)) : d.files.find p = .ok (l, e) := by
  rw [← find?_eq_some_iff] at found ⊢
  rwa [kept.same] at found

theorem Kept.trans (kept : Kept d d' p) (journal : ∀ {l}, d'.journal = some l → d.journal = some l)
    (spares : Spares (fun _ => False) d' d'') : Kept d d'' p := by
  have still : d''.files.find p = d'.files.find p := spares.find fun l e found logged =>
    kept.apart l e (kept.find found) (journal logged)
  exact ⟨(congrArg Except.toOption still).trans kept.same, kept.apart⟩

end Disk

/-! ### Looking at a path -/

namespace World

variable {w w' : World} {p : Path}

theorem status_eq (w : World) (p : Path) : ∃ kind, (Machine.status p : StateM World _) w = (kind, w) ∧
    kind.toOption = (w.files.find? p).map fun x => kindOf x.2 := by
  refine ⟨do return kindOf (← w.files.find p).2, rfl, ?_⟩
  rw [find?]
  cases w.files.find p <;> rfl

theorem isFile_eq (w : World) (p : Path) : (Machine.isFile p : StateM World _) w =
    (decide ((w.files.find? p).map (fun x => kindOf x.2) = some .file), w) := by
  obtain ⟨kind, looked, same⟩ := status_eq w p
  rw [Machine.isFile, run_bind looked, ← same]
  cases kind with
  | error => rfl
  | ok kind => cases kind <;> rfl

theorem isDirectory_eq (w : World) (p : Path) : (Machine.isDirectory p : StateM World _) w =
    (decide ((w.files.find? p).map (fun x => kindOf x.2) = some .directory), w) := by
  obtain ⟨kind, looked, same⟩ := status_eq w p
  rw [Machine.isDirectory, run_bind looked, ← same]
  cases kind with
  | error => rfl
  | ok kind => cases kind <;> rfl

theorem schemaDirectory_congr (same : w'.files.find? p = w.files.find? p) :
    (schemaDirectory p : StateM World Path) w' =
      ((schemaDirectory p : StateM World Path) w |>.1, w') := by
  rw [schemaDirectory, run_bind (isFile_eq w' p), run_bind (isDirectory_eq w' p),
    run_bind (isFile_eq w p), run_bind (isDirectory_eq w p), same]
  cases p.parent? <;> rfl

theorem ingest_again {source : DescriptionSource} {d : ModelDescription} {after : World}
    (same : ∀ path, source = .file path → w'.files.find? path = w.files.find? path)
    (taken : (Generation.ingest source : StateM World _) w = (.ok d, after)) :
    (Generation.ingest source : StateM World _) w' = (.ok d, w') := by
  have decoded := congrArg Prod.fst taken
  cases source with
  | json | operations | failing => exact Prod.ext decoded rfl
  | file path =>
    have text := toOption_readText_congr (same path rfl)
    have read (w : World) : (Machine.readText path : StateM World _) w =
      (w.files.readText path, w) := rfl
    rw [Generation.ingest, run_bind (read w)] at decoded
    rw [Generation.ingest, run_bind (read w')]
    cases known : w.files.readText path with
    | error fault =>
      rw [known] at decoded
      cases decoded
    | ok given =>
      rw [known] at text decoded
      cases known' : w'.files.readText path with
      | error fault =>
        rw [known'] at text
        cases text
      | ok given' =>
        rw [known'] at text
        cases text
        exact Prod.ext decoded rfl

end World

open World (schemaDirectory_congr ingest_again)

/-! ### The inputs of a command -/

namespace Workspace

variable {w : Workspace} {o : GenerateOptions} {s s' : World}

def settingsFor (w : Workspace) (o : GenerateOptions) : GeneratorSettings :=
  o.override w.settings.generator

/-- The paths that a command reads: the model description, and that of the schema if it is set. -/
def inputs (w : Workspace) (o : GenerateOptions) : List Path :=
  w.root.anchoredAt o.dmmf :: ((w.settingsFor o).schema.map w.root.anchoredAt).toList

def outputDirectory (w : Workspace) (o : GenerateOptions) : Path :=
  w.root.anchoredAt (w.settingsFor o).output

theorem configuration_congr
    (same : ∀ p ∈ ((w.settingsFor o).schema.map w.root.anchoredAt).toList,
      s'.files.find? p = s.files.find? p) :
    ((w.settingsFor o).configuration w.root : StateM World _) s' =
      (((w.settingsFor o).configuration w.root : StateM World _) s |>.1, s') := by
  unfold GeneratorSettings.configuration
  cases set : (w.settingsFor o).schema with
  | none => rfl
  | some schema =>
    have same := schemaDirectory_congr (same (w.root.anchoredAt schema) (by simp [set]))
    have here := schemaDirectory_congr (rfl : s.files.find? (w.root.anchoredAt schema) = _)
    simp only
    rw [run_bind same, run_bind here]
    rfl

theorem configuration_outputDirectory :
    ((w.settingsFor o).configuration w.root : StateM World _) s |>.1.outputDirectory =
      w.outputDirectory o := by
  unfold GeneratorSettings.configuration
  cases (w.settingsFor o).schema <;> rfl

end Workspace

/-! ### The inputs of a request -/

namespace GeneratorOptions

variable {o : GeneratorOptions} {logger : Logger} {env : Environment} {settings : GeneratorSettings}
  {w w' : World} {manifest : Path} {ps : List Path} {root : Path}

def versionIn (fs : FileSystem) (manifest : Path) : Option String := do
  let package ← (Json.parse (← (fs.readText manifest).toOption)).toOption
  (package.get? "version").bind Json.text?

/-- The manifests that are read until one names a version. -/
def consulted (fs : FileSystem) : List Path → List Path
  | [] => []
  | manifest :: rest =>
    manifest :: if (versionIn fs manifest).isSome then [] else consulted fs rest

def manifests (o : GeneratorOptions) (env : Environment) (settings : GeneratorSettings)
    (root : Path) : List Path :=
  match o.companion? env, o.generator.option? "clientVersion" <|> settings.clientVersion with
  | some block, none => packageManifests root (block.output.bind fun v => v.resolve env)
  | _, _ => []

theorem packageVersion_run (logger : Logger) (manifest : Path) (w : World) :
    ∃ w', (packageVersion logger manifest : StateM World _) w = (versionIn w.files manifest, w') ∧
      Spares (fun _ => False) (disk w) (disk w') := by
  have read : (Machine.readText manifest : StateM World _) w = (w.files.readText manifest, w) := rfl
  unfold packageVersion
  rw [run_bind read, versionIn]
  cases w.files.readText manifest with
  | error fault => exact ⟨w, rfl, Spares.refl _ _⟩
  | ok text =>
    cases parsed : Json.parse text with
    | error e =>
      obtain ⟨w', logged, spares⟩ := exists_log logger (.packageUnreadable manifest e) w
      refine ⟨w', ?_, spares⟩
      simp only [Except.toOption, Option.bind_eq_bind, Option.bind_some, parsed]
      exact run_bind logged
    | ok package =>
      cases named : (package.get? "version").bind Json.text? with
      | none =>
        refine ⟨w, ?_, Spares.refl _ _⟩
        simp only [Except.toOption, Option.bind_eq_bind, Option.bind_some, parsed, named]
        rfl
      | some version =>
        obtain ⟨w', logged, spares⟩ := exists_log logger (.clientVersionFound manifest version) w
        refine ⟨w', ?_, spares⟩
        simp only [Except.toOption, Option.bind_eq_bind, Option.bind_some, parsed, named]
        exact run_bind logged

theorem versionIn_congr {fs fs' : FileSystem} (same : fs'.find? manifest = fs.find? manifest) :
    versionIn fs' manifest = versionIn fs manifest := by
  rw [versionIn, versionIn, toOption_readText_congr same]

theorem firstVersion_run {d : Disk} (logger : Logger)
    (journal : ∀ {l}, (disk w).journal = some l → d.journal = some l)
    (kept : ∀ p ∈ consulted d.files ps, Kept d (disk w) p) :
    ∃ w', (firstVersion logger ps : StateM World _) w =
        (ps.findSome? (versionIn d.files), w') ∧ Spares (fun _ => False) (disk w) (disk w') := by
  induction ps generalizing w with
  | nil => exact ⟨w, rfl, Spares.refl _ _⟩
  | cons manifest rest ih =>
    obtain ⟨mid, read, first⟩ := packageVersion_run logger manifest w
    have same : w.files.find? manifest = d.files.find? manifest :=
      (kept manifest List.mem_cons_self).same
    rw [versionIn_congr same] at read
    rw [firstVersion, run_bind read, List.findSome?_cons]
    cases named : versionIn d.files manifest with
    | some version => exact ⟨mid, rfl, first⟩
    | none =>
      have rest_kept : ∀ p ∈ consulted d.files rest, Kept d (disk mid) p := fun p member => by
        refine (kept p ?_).trans journal first
        rw [consulted, named]
        exact List.mem_cons_of_mem _ member
      obtain ⟨last, found, second⟩ := ih (fun logged => journal (first.journal logged)) rest_kept
      exact ⟨last, found, first.trans second⟩

def providerIn (fs : FileSystem) (o : GeneratorOptions) (env : Environment)
    (settings : GeneratorSettings) (root : Path) : Option Provider := do
  let block ← o.companion? env
  let name ← block.provider.resolve env
  return {
    name
    version := (o.generator.option? "clientVersion" <|> settings.clientVersion) <|>
      (o.manifests env settings root).findSome? (versionIn fs) }

theorem provider_run {d : Disk} (logger : Logger)
    (journal : ∀ {l}, (disk w).journal = some l → d.journal = some l)
    (kept : ∀ p ∈ consulted d.files (o.manifests env settings root), Kept d (disk w) p) :
    ∃ w', (o.provider logger env settings root : StateM World _) w =
        (providerIn d.files o env settings root, w') ∧
      Spares (fun _ => False) (disk w) (disk w') := by
  unfold GeneratorOptions.provider providerIn
  unfold manifests at kept ⊢
  cases chosen : o.companion? env with
  | none => exact ⟨w, rfl, Spares.refl _ _⟩
  | some block =>
    rw [chosen] at kept
    cases named : block.provider.resolve env with
    | none =>
      refine ⟨w, ?_, Spares.refl _ _⟩
      simp only [named, Option.bind_eq_bind, Option.bind_some, Option.bind_none]
      rfl
    | some name =>
      cases given : o.generator.option? "clientVersion" <|> settings.clientVersion with
      | some version =>
        refine ⟨w, ?_, Spares.refl _ _⟩
        simp only [named, Option.bind_eq_bind, Option.bind_some]
        rfl
      | none =>
        rw [given] at kept
        obtain ⟨w', found, spares⟩ := firstVersion_run logger journal kept
        refine ⟨w', ?_, spares⟩
        simp only [named, Option.bind_eq_bind, Option.bind_some]
        exact run_bind found

def schemaRoot (o : GeneratorOptions) (w : World) : Path :=
  (schemaDirectory o.schemaPath : StateM World Path) w |>.1

/-- The paths that a request reads: that of the schema, and the manifests that are consulted. -/
def inputs (o : GeneratorOptions) (env : Environment) (settings : GeneratorSettings) (w : World) :
    List Path :=
  o.schemaPath :: consulted w.files (o.manifests env settings (o.schemaRoot w))

end GeneratorOptions

end ShieldPolicy
