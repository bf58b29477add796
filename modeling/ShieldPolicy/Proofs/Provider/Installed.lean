import ShieldPolicy.Proofs.FileSystem.Standing
import ShieldPolicy.Proofs.Generation.Anchored

/-!
The version of an installed client. It is looked for in each directory that the path of the schema
directory passes, the last one first. `provider_installed` says when that finds the package nearest
above the schema directory; `provider_aside` is a path on which it finds another one.
-/

namespace ShieldPolicy

open FileSystem Disk OnDisk

namespace GeneratorOptions

variable {fs : FileSystem} {dir root manifest : Path} {version : String} {o : GeneratorOptions}
  {block : GeneratorBlock} {env : Environment} {settings : GeneratorSettings} {logger : Logger}
  {w : World}

/-! ### Packages and their versions -/

def clientManifest : Path := ⟨"node_modules/@prisma/client/package.json"⟩

def installedIn (fs : FileSystem) (dir : Path) : Option String :=
  versionIn fs (dir.join clientManifest)

def installedAt (fs : FileSystem) (l : Location) : Option String := installedIn fs l.path

def generatedVersion (fs : FileSystem) (block : GeneratorBlock) (env : Environment) (root : Path) :
    Option String :=
  (block.output.bind fun v => v.resolve env).bind fun text =>
    versionIn fs ((root.anchoredAt ⟨text⟩).join ⟨"package.json"⟩)

theorem relative_clientManifest : clientManifest.isAbsolute = false := by decide

theorem pieces_clientManifest : clientManifest.pieces ≠ [] := by decide

theorem exists_find_of_versionIn (named : versionIn fs manifest = some version) :
    ∃ l e, fs.find manifest = .ok (l, e) := by
  cases found : fs.find manifest with
  | ok place => exact ⟨place.1, place.2, rfl⟩
  | error fault =>
    rw [versionIn, FileSystem.readText, found] at named
    cases named

theorem findSome?_packageManifests (fs : FileSystem) (block : GeneratorBlock) (env : Environment)
    (root : Path) :
    (packageManifests root (block.output.bind fun v => v.resolve env)).findSome? (versionIn fs) =
      (generatedVersion fs block env root <|> root.ancestors.findSome? (installedIn fs)) := by
  rw [packageManifests, List.findSome?_append, List.findSome?_map, generatedVersion]
  cases block.output.bind fun v => v.resolve env with
  | none => rfl
  | some text =>
    rw [Option.orElse_eq_orElse, Option.orElse_eq_or, Option.map_some, Option.toList_some,
      List.findSome?_singleton, Option.bind_some]
    rfl

/-! ### What is installed at a place -/

theorem enter_path {l : Location} (valid : ∀ name ∈ l, ValidName name) (stands : Stands fs l) :
    fs.enter (steps l.path) = .ok l := by
  have place : l.path.place = l := Path.place_path valid
  have down : .parent ∉ steps l.path := by simp [Path.steps_path valid]
  have entered : fs.enter (steps l.path) = .ok l.path.place := by
    refine enter_of_stands (Path.isAbsolute_path l) down ?_
    rwa [place]
  rwa [place] at entered

theorem installedIn_of_enter (free : fs.LinkFree) (absolute : dir.isAbsolute)
    (entered : fs.enter (steps dir) = .ok dir.place)
    (screened : screen (dir.join clientManifest) = .ok ()) :
    installedIn fs dir = installedAt fs dir.place := by
  have entered' := enter_path (fun name => Path.validName_of_mem_place)
    (free.stands_of_enter absolute entered)
  have present : (dir.place.path.join clientManifest).isEmpty = false :=
    Path.isEmpty_of_isAbsolute
      (Path.isAbsolute_join_of_absolute (Path.isAbsolute_path _) relative_clientManifest)
  have screened' := screen_of_sublist present
    (Path.join_path_sublist absolute relative_clientManifest) screened
  have same : fs.find (dir.join clientManifest) = fs.find (dir.place.path.join clientManifest) :=
    free.find_join_congr (Path.isAbsolute_path _) absolute relative_clientManifest
      pieces_clientManifest entered' entered screened' screened
  rw [installedAt, installedIn, installedIn, versionIn, versionIn, FileSystem.readText,
    FileSystem.readText, same]

theorem installedAt_of_installedIn (free : fs.LinkFree) (absolute : dir.isAbsolute)
    (installed : installedIn fs dir = some version) : installedAt fs dir.place = some version := by
  obtain ⟨l, e, found⟩ := exists_find_of_versionIn installed
  have entered := free.enter_of_find_join absolute relative_clientManifest pieces_clientManifest
    found
  have screened := (resolve_eq_ok_iff.mp (find_eq_ok_iff.mp found).1).1
  rw [← installedIn_of_enter free absolute entered screened, installed]

/-- Whether the path of a directory can be followed: it leads to one, or it holds no `..`. -/
def Followed (fs : FileSystem) (root : Path) : Prop :=
  (∃ l, fs.find root = .ok (l, .directory)) ∨ .parent ∉ root.components

section Visited

variable (absolute : root.isAbsolute) (front : Path.Front dir root)
  (fits : (root.join clientManifest).text.utf8ByteSize ≤ pathBound)
include absolute front fits

theorem screen_of_front (plain : '\x00' ∉ dir.text.toList) :
    screen (dir.join clientManifest) = .ok () := by
  have present := Path.isEmpty_of_isAbsolute front.absolute
  have fewer := front.join_sublist absolute relative_clientManifest
  refine screen_eq_ok_iff.mpr ⟨?_, ?_, (size_le_of_sublist fewer).trans fits⟩
  · rw [Path.hasNul, List.contains_eq_mem, decide_eq_false_iff_not,
      Path.text_join present relative_clientManifest, List.mem_append, not_or]
    exact ⟨fun member => plain ((Path.prefix_stem dir).subset member), by decide⟩
  · exact Path.isEmpty_of_isAbsolute
      (Path.isAbsolute_join_of_absolute front.absolute relative_clientManifest)

/-- What lies at the place of a directory is found where the path of the schema passes it. -/
theorem installedIn_of_followed (free : fs.LinkFree) (followed : Followed fs root) :
    installedIn fs dir = installedAt fs dir.place := by
  rcases followed with ⟨l, found⟩ | down
  · obtain ⟨screened, entered⟩ := find_directory_iff.mp found
    refine installedIn_of_enter free front.absolute (free.enter_front front entered)
      (screen_of_front absolute front fits fun member => ?_)
    exact plain_of_screen screened (front.text.subset member)
  · have down : .parent ∉ steps dir := fun member =>
      down (parent_mem_components absolute (front.steps.subset member))
    refine Option.ext fun version =>
      ⟨installedAt_of_installedIn free front.absolute, fun there => ?_⟩
    obtain ⟨l, e, found⟩ := exists_find_of_versionIn there
    have rooted := Path.isAbsolute_path dir.place
    have stands := free.stands_of_enter rooted
      (free.enter_of_find_join rooted relative_clientManifest pieces_clientManifest found)
    rw [Path.place_path fun name => Path.validName_of_mem_place] at stands
    rw [installedIn_of_enter free front.absolute (enter_of_stands front.absolute down stands)]
    · exact there
    refine screen_of_front absolute front fits fun member => ?_
    have screened := (resolve_eq_ok_iff.mp (find_eq_ok_iff.mp found).1).1
    refine plain_of_screen screened
      ((Path.text_prefix_join (Path.isEmpty_path _) relative_clientManifest).subset ?_)
    exact Path.mem_place_path front.absolute down (by decide) (by decide) member

end Visited

/-! ### The package that is taken -/

def met (fs : FileSystem) (root : Path) : Option Location :=
  (root.ancestors.map Path.place).find? fun l => (installedAt fs l).isSome

theorem findSome?_eq_bind_find? {α β : Type} (f : α → Option β) (xs : List α) :
    xs.findSome? f = (xs.find? fun x => (f x).isSome).bind f := by
  induction xs with
  | nil => rfl
  | cons x xs ih =>
    rw [List.findSome?_cons, List.find?_cons]
    cases here : f x with
    | some y => simp [here]
    | none => exact ih

theorem above_of_met (absolute : root.isAbsolute) (down : .parent ∉ root.components)
    {l : Location} (first : met fs root = some l) : l <+: root.place := by
  rw [Path.components_of_absolute absolute] at down
  rw [met, Path.map_place_ancestors absolute fun member => down (.tail _ member)] at first
  exact Location.mem_upward.mp (List.mem_of_find?_eq_some first)

theorem findSome?_installedIn (free : fs.LinkFree) (absolute : root.isAbsolute)
    (fits : (root.join clientManifest).text.utf8ByteSize ≤ pathBound)
    (followed : Followed fs root) :
    root.ancestors.findSome? (installedIn fs) = (met fs root).bind (installedAt fs) := by
  have same : root.ancestors.map (installedIn fs) =
      (root.ancestors.map Path.place).map (installedAt fs) := by
    rw [List.map_map]
    refine List.map_congr_left fun dir member => ?_
    exact installedIn_of_followed absolute (Path.front_of_mem_ancestors absolute member) fits free
      followed
  have each {α : Type} (f : α → Option String) (xs : List α) :
      xs.findSome? f = (xs.map f).findSome? id := by
    rw [List.findSome?_map]
    rfl
  rw [met, ← findSome?_eq_bind_find?, each, same, ← each]

/-- The version of the companion is that of the package in its output directory, else that of the
first client that the path of the schema directory passes. Where that lies at or above the
directory, as it does without a `..`, it is the nearest one. -/
theorem provider_installed (companion : o.companion? env = some block)
    (unset : o.generator.option? "clientVersion" = none) (unset' : settings.clientVersion = none)
    (absolute : o.schemaPath.isAbsolute) (free : w.files.LinkFree)
    (apart : ∀ p ∈ consulted w.files (o.manifests env settings (o.schemaRoot w)),
      ∀ l e, w.files.find p = .ok (l, e) → w.journal ≠ some l) :
    let root := o.schemaRoot w
    ∃ name version w', (o.provider logger env settings root : StateM World _) w =
        (some ⟨name, version⟩, w') ∧
      version = (generatedVersion w.files block env root <|>
        root.ancestors.findSome? (installedIn w.files)) ∧
      (∀ dir ∈ root.ancestors, ∀ version, installedIn w.files dir = some version →
        installedAt w.files dir.place = some version) ∧
      (.parent ∉ root.components → ∀ l, met w.files root = some l → l <+: root.place) ∧
      ((root.join clientManifest).text.utf8ByteSize ≤ pathBound → Followed w.files root →
        version = (generatedVersion w.files block env root <|>
          (met w.files root).bind (installedAt w.files)) ∧
        ((∀ l, met w.files root = some l → l <+: root.place) →
          version = (generatedVersion w.files block env root <|>
            root.place.upward.findSome? (installedAt w.files)))) := by
  intro root
  have rooted : root.isAbsolute := isAbsolute_schemaRoot absolute
  have manifests : o.manifests env settings root =
      packageManifests root (block.output.bind fun v => v.resolve env) := by
    rw [GeneratorOptions.manifests, companion, unset, unset']
    rfl
  obtain ⟨name, named⟩ : ∃ name, block.provider.resolve env = some name := by
    have chosen := List.find?_some companion
    cases named : block.provider.resolve env with
    | some name => exact ⟨name, rfl⟩
    | none => simp [GeneratorBlock.isCompanion, named] at chosen
  obtain ⟨w', provided, -⟩ : ∃ w', (o.provider logger env settings root : StateM World _) w =
      (providerIn w.files o env settings root, w') ∧ Spares (fun _ => False) (disk w) (disk w') :=
    provider_run (d := disk w) logger id fun p member => ⟨rfl, apart p member⟩
  have found := findSome?_packageManifests w.files block env root
  refine ⟨name, _, w', ?_, rfl, ?_, fun down l => above_of_met rooted down, fun fits followed => ?_⟩
  · rw [provided, providerIn, companion, manifests, unset, unset']
    simp only [Option.bind_eq_bind, Option.bind_some, named]
    rw [← found]
    rfl
  · exact fun dir member version =>
      installedAt_of_installedIn free (Path.front_of_mem_ancestors rooted member).absolute
  · have first := findSome?_installedIn free rooted fits followed
    rw [first]
    refine ⟨rfl, fun above => ?_⟩
    rw [met, ← findSome?_eq_bind_find?, Path.findSome?_ancestors rooted above]

def clientPackage (dir : Location) (version : String) : List (Location × Entry) :=
  [(dir ++ ["node_modules"], .directory), (dir ++ ["node_modules", "@prisma"], .directory),
    (dir ++ ["node_modules", "@prisma", "client"], .directory),
    (dir ++ ["node_modules", "@prisma", "client", "package.json"],
      .file ("\x7b\"version\":\"" ++ version ++ "\"\x7d"))]

/-- A repository with a client of its own and an older one in one of its two packages. -/
def repositoryWorld : World where
  files.entries := [(["repo"], .directory), (["repo", "packages"], .directory),
      (["repo", "packages", "api"], .directory), (["repo", "packages", "web"], .directory),
      (["repo", "packages", "api", "schema.prisma"], .file "")] ++
    clientPackage ["repo"] "5.22.0" ++ clientPackage ["repo", "packages", "web"] "4.16.2"

def openRequest (schemaPath : Path) : GeneratorOptions where
  otherGenerators := [{ provider := { value := some "prisma-client-js" } }]
  schemaPath

theorem provider_installed_above : ∃ name w',
    ((openRequest ⟨"/repo/packages/../schema.prisma"⟩).provider .silent {} {}
      ((openRequest ⟨"/repo/packages/../schema.prisma"⟩).schemaRoot repositoryWorld) :
        StateM World _) repositoryWorld = (some ⟨name, some "5.22.0"⟩, w') := by
  have free : repositoryWorld.files.LinkFree := linkFree_of_all (by decide +kernel)
  have root : (openRequest ⟨"/repo/packages/../schema.prisma"⟩).schemaRoot repositoryWorld =
      ⟨"/repo/packages/.."⟩ := by decide +kernel
  obtain ⟨name, version, w', provided, -, -, -, nearest⟩ :=
    @provider_installed (openRequest ⟨"/repo/packages/../schema.prisma"⟩) _ {} {} .silent
      repositoryWorld rfl rfl rfl (by decide) free fun _ _ _ _ _ => nofun
  have first : met repositoryWorld.files ⟨"/repo/packages/.."⟩ = some ["repo"] := by
    decide +kernel
  have followed : Followed repositoryWorld.files ⟨"/repo/packages/.."⟩ :=
    .inl ⟨["repo"], by decide +kernel⟩
  rw [root] at nearest
  obtain ⟨-, nearest⟩ := nearest (by decide +kernel) followed
  have version : version = some "5.22.0" := by
    rw [nearest fun l there => ?_]
    · decide +kernel
    · rw [first] at there
      cases there
      decide +kernel
  exact ⟨name, w', version ▸ provided⟩

/-- The path of the schema goes by a package that does not hold it, and the client of that package is
taken for the one nearest above the schema. -/
theorem provider_aside :
    repositoryWorld.files.LinkFree ∧
    repositoryWorld.files.find ⟨"/repo/packages/web/../api/schema.prisma"⟩ =
      .ok (["repo", "packages", "api", "schema.prisma"], .file "") ∧
    (Location.upward ["repo", "packages", "api"]).findSome? (installedAt repositoryWorld.files) =
      some "5.22.0" ∧
    ∃ w', ((openRequest ⟨"/repo/packages/web/../api/schema.prisma"⟩).provider .silent {} {}
      ((openRequest ⟨"/repo/packages/web/../api/schema.prisma"⟩).schemaRoot repositoryWorld) :
        StateM World _) repositoryWorld = (some ⟨"prisma-client-js", some "4.16.2"⟩, w') := by
  have answered {x : Option Provider × World} {p : Option Provider} (same : x.1 = p) :
      ∃ w', x = (p, w') := ⟨x.2, Prod.ext same rfl⟩
  exact ⟨linkFree_of_all (by decide +kernel), by decide +kernel, by decide +kernel,
    answered (by decide +kernel)⟩

end GeneratorOptions

end ShieldPolicy
