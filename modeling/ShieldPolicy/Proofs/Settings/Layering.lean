import ShieldPolicy.Proofs.Generation.Inputs
import ShieldPolicy.Proofs.Machine.Alike
import ShieldPolicy.Proofs.Settings.Variables

/-!
Settings as they are loaded. Each of them comes from its variable, or else from the file of the
workspace for the environment, the file of the workspace, or the user's file, or else is its
default: `Settings.load_resolves`. A file is read in the format that its name tells, and that of a
link is the name of what it leads to.
-/

namespace ShieldPolicy.Settings

open Setting Schema Disk OnDisk

variable {w w' : World} {logger : Logger} {env : Environment} {p : Path} {keys : List String}
  {layer : Layer} {layers : List Layer} {g f e o : Option Layer}

/-! ### Layers on top of the defaults -/

def setBy? (keys : List String) (layer : Layer) : Option Setting := latest (sets? keys) layer

theorem defaultLayer_eq : defaultLayer =
    [ (Text.joinTexts "." ["generator", "output"], .text none "./generated"),
      (Text.joinTexts "." ["generator", "provider"], .text none "prisma-client-js"),
      (Text.joinTexts "." ["logging", "level"], .text none "info") ] := rfl

theorem spelled_defaults : Spelled ["generator", "output"] ∧ Spelled ["generator", "provider"] ∧
    Spelled ["logging", "level"] := by
  decide +kernel

theorem fitsLayer_default : schema.FitsLayer defaultLayer := by
  obtain ⟨output, provider, level⟩ := spelled_defaults
  intro key value member
  rw [defaultLayer_eq] at member
  fin_cases member
  · rw [output.ofKey]
    exact fits_text (.inside (.inside (.here ⟨_, rfl⟩)))
  · rw [provider.ofKey]
    exact fits_text (.inside (.inside (.here ⟨_, rfl⟩)))
  · rw [level.ofKey]
    exact fits_text (.inside (.inside (.here ⟨_, rfl⟩)))

theorem resolves_default : Resolves (setBy? · defaultLayer) {} := by
  obtain ⟨output, provider, level⟩ := spelled_defaults
  have sets (keys : List String) : setBy? keys defaultLayer =
      if keys = ["logging", "level"] then some (.text none "info")
      else if keys = ["generator", "provider"] then some (.text none "prisma-client-js")
      else if keys = ["generator", "output"] then some (.text none "./generated") else none := by
    rw [setBy?, defaultLayer_eq, latest_cons, latest_cons, latest_singleton, output.sets?,
      provider.sets?, level.sets?]
    split
    · rfl
    split
    · rfl
    · rfl
  rw [funext sets]
  exact ⟨⟨.unset, .set rfl, .unset, .set rfl, .unset⟩,
    ⟨.unset, .set rfl, .unset, .unset, .unset, .unset, fun name => .unset⟩⟩

/-- The settings in layers come from the layers on top of the built-in one. -/
theorem ofLayers_resolves (fits : ∀ layer ∈ layers, schema.FitsLayer layer) :
    ∃ s, ofLayers (defaultLayer :: layers) = .ok s ∧
      s.Resolves fun keys => latest (setBy? keys) layers := by
  have each : ∀ layer ∈ defaultLayer :: layers, schema.FitsLayer layer := by
    rintro layer (_ | ⟨_, member⟩)
    · exact fitsLayer_default
    · exact fits layer member
  have start : schema.Holds empty := holds_empty
  obtain ⟨holds, leaves⟩ := adds_layers each start
  obtain ⟨s, taken, resolves⟩ := resolves_of_holds holds
  refine ⟨s, taken, Resolves.of_or (resolves.congr fun keys leaf => ?_) resolves_default⟩
  rw [leaves keys leaf, Option.bind_some, look_empty leaf, Option.or_none]
  exact latest_cons

/-! ### Layers from files -/

def formatOf? (p : Path) : Option (String → Option Data) :=
  p.fileExtension?.bind fun ending => formats.lookup ending

/-- The path by which a file is read. A relative one starts from the current directory, which has to
be there. -/
def readAt (w : World) (p : Path) : Except FileFault Path :=
  if p.isAbsolute then .ok p else w.files.here.map fun here => here.join p

/-- The layer of a file, in the format that its name tells. The file is not the open log file. -/
inductive Tells (w : World) (p : Path) : Layer → Prop where
  | intro {file : Path} {l : Location} {text : String} {format : String → Option Data}
      {members : List (String × Data)} (led : readAt w p = .ok file)
      (found : w.files.find file = .ok (l, .file text)) (apart : w.journal ≠ some l)
      (known : formatOf? file = some format) (parsed : format text = some (.table members)) :
      Tells w p (Setting.ofMembers (some (originOf w.files.here file)) members)

/-- The layer of a file that need not be there: an empty one where its name tells no format. -/
inductive Offers (w : World) (p : Path) : Layer → Prop where
  | told {layer : Layer} (tells : Tells w p layer) : Offers w p layer
  | ignored {file : Path} {l : Location} {text : String} (led : readAt w p = .ok file)
      (found : w.files.find file = .ok (l, .file text)) (apart : w.journal ≠ some l)
      (unknown : formatOf? file = none) : Offers w p []

theorem isFile_of_find {l : Location} {text : String} (found : w.files.find p = .ok (l, .file text)) :
    (Machine.isFile p : StateM World Bool) w = (true, w) := by
  have status : (Machine.status p : StateM World _) w = (.ok .file, w) := by
    change (w.files.find p >>= fun x => pure (World.kindOf x.2), w) = _
    rw [found]
    rfl
  exact run_bind status

theorem locate_of_find {l : Location} {text : String} (found : w.files.find p = .ok (l, .file text)) :
    (locate p : StateM World _) w = (some p, w) := run_bind (isFile_of_find found)

theorem readText_of_find {l : Location} {text : String}
    (found : w.files.find p = .ok (l, .file text)) :
    (Machine.readText p : StateM World _) w = (.ok text, w) := by
  change (w.files.readText p, w) = _
  rw [FileSystem.readText, found]
  rfl

theorem absolute_run (w : World) (p : Path) :
    (Machine.absolute p : StateM World _) w = (readAt w p, w) := by
  unfold Machine.absolute readAt
  split <;> rfl

theorem currentDirectory_run (w : World) :
    (Machine.currentDirectory : StateM World _) w = (w.files.here, w) := rfl

theorem readSource_known {file : Path} {l : Location} {text : String}
    {format : String → Option Data} (led : readAt w p = .ok file)
    (found : w.files.find file = .ok (l, .file text)) (known : formatOf? file = some format) :
    (readSource p : StateM World _) w = (.ok (originOf w.files.here file, text, format), w) := by
  unfold formatOf? at known
  unfold readSource
  rw [run_bind (absolute_run w p), led]
  dsimp only
  rw [run_bind (locate_of_find found)]
  dsimp only
  rw [run_bind (currentDirectory_run w), known]
  dsimp only
  rw [run_bind (readText_of_find found)]
  rfl

theorem readSource_unknown {file : Path} {l : Location} {text : String}
    (led : readAt w p = .ok file) (found : w.files.find file = .ok (l, .file text))
    (unknown : formatOf? file = none) : (readSource p : StateM World _) w =
      (.error (.unreadableFile (originOf w.files.here file) "its format is not known"), w) := by
  unfold formatOf? at unknown
  unfold readSource
  rw [run_bind (absolute_run w p), led]
  dsimp only
  rw [run_bind (locate_of_find found)]
  dsimp only
  rw [run_bind (currentDirectory_run w), unknown]
  rfl

theorem Tells.fileLayer (tells : Tells w p layer) (required : Bool) :
    (fileLayer p required : StateM World _) w = (.ok layer, w) := by
  obtain ⟨led, found, -, known, parsed⟩ := tells
  unfold Settings.fileLayer
  rw [run_bind (readSource_known led found known)]
  dsimp only
  rw [parsed]
  rfl

theorem Offers.fileLayer (offers : Offers w p layer) :
    (fileLayer p false : StateM World _) w = (.ok layer, w) := by
  cases offers with
  | told tells => exact tells.fileLayer false
  | ignored led found apart unknown => exact run_bind (readSource_unknown led found unknown)

/-! ### What is logged meanwhile -/

theorem find_of_alike (alike : w.Alike w')
    (apart : ∀ l e, w.files.find p = .ok (l, e) → w.journal ≠ some l) :
    w'.files.find p = w.files.find p := (Disk.Alike.spares alike).find apart

theorem here_of_alike (alike : w.Alike w') : w'.files.here = w.files.here := by
  have current : w'.files.current = w.files.current := alike.current
  unfold FileSystem.here
  rw [current]
  exact if_congr (alike.entries w.files.current).sameShape.directory_iff rfl rfl

theorem Offers.alike (offers : Offers w p layer) (alike : w.Alike w') : Offers w' p layer := by
  have here := here_of_alike alike
  have journal : w'.journal = w.journal := alike.journal
  have read : readAt w' p = readAt w p := by rw [readAt, readAt, here]
  have same {file : Path} {l : Location} {text : String}
      (found : w.files.find file = .ok (l, .file text)) (apart : w.journal ≠ some l) :
      w'.files.find file = .ok (l, .file text) := by
    rw [find_of_alike alike, found]
    intro l' e found'
    cases found.symm.trans found'
    exact apart
  cases offers with
  | told tells =>
    obtain ⟨led, found, apart, known, parsed⟩ := tells
    exact .told (here ▸ .intro (read.trans led) (same found apart) (journal ▸ apart) known parsed)
  | ignored led found apart unknown =>
    exact .ignored (read.trans led) (same found apart) (journal ▸ apart) unknown

/-! ### Which files there are -/

/-- The layer of a file that a workspace may have, none if it has not. A path from the current
directory is looked up from there, and read from the root on. -/
inductive MayOffer (w : World) (p : Path) : Option Layer → Prop where
  | missing {fault : FileFault} (missing : w.files.find p = .error fault) : MayOffer w p none
  | present {l : Location} {e : Entry} {layer : Layer} (found : w.files.find p = .ok (l, e))
      (apart : w.journal ≠ some l) (offers : Offers w p layer) : MayOffer w p (some layer)

/-- The layer of the user's file, none if there is none. It is read by its path without links. -/
inductive UserOffers (w : World) (env : Environment) : Option Layer → Prop where
  | unnamed (unnamed : env.globalSettings? = none) : UserOffers w env none
  | missing {p : Path} {fault : FileFault} (named : env.globalSettings? = some p)
      (missing : w.files.find p = .error fault) : UserOffers w env none
  | present {p : Path} {l : Location} {e : Entry} {layer : Layer}
      (named : env.globalSettings? = some p) (found : w.files.find p = .ok (l, e))
      (offers : Offers w l.path layer) : UserOffers w env (some layer)

inductive EnvironmentOffers (w : World) (env : Environment) (workspace : Path) :
    Option Layer → Prop where
  | unnamed (unnamed : env.get? "SHIELDGEN_ENV" = none) : EnvironmentOffers w env workspace none
  | named {name : String} {o : Option Layer} (named : env.get? "SHIELDGEN_ENV" = some name)
      (offers : MayOffer w (workspace.join ⟨"shieldgen." ++ name ++ ".toml"⟩) o) :
      EnvironmentOffers w env workspace o

theorem MayOffer.alike (offers : MayOffer w p o) (alike : w.Alike w') : MayOffer w' p o := by
  cases offers with
  | missing missing =>
    refine .missing ((find_of_alike alike fun l e found => ?_).trans missing)
    cases missing.symm.trans found
  | present found apart offers =>
    have journal : w'.journal = w.journal := alike.journal
    refine .present ((find_of_alike alike fun l e found' => ?_).trans found) (journal ▸ apart)
      (offers.alike alike)
    cases found.symm.trans found'
    exact apart

theorem pathExists_eq : (Machine.pathExists p : StateM World Bool) w =
    ((w.files.find p).toBool, w) := by
  have status : (Machine.status p : StateM World _) w =
    (w.files.find p >>= fun x => pure (World.kindOf x.2), w) := rfl
  unfold Machine.pathExists
  rw [run_bind status]
  cases w.files.find p <;> rfl

theorem fileLayers_existing {ps : List Path} {os : List (Option Layer)}
    (offers : List.Forall₂ (MayOffer w) ps os) : ∃ files,
      (existing ps : StateM World _) w = (files, w) ∧
      (fileLayers files : StateM World _) w = (.ok os.reduceOption, w) := by
  induction offers with
  | nil => exact ⟨[], rfl, rfl⟩
  | @cons p o ps os offer _ ih =>
    obtain ⟨files, exist, taken⟩ := ih
    have step : (existing (p :: ps) : StateM World _) w =
        (if (w.files.find p).toBool then p :: files else files, w) := by
      unfold existing
      rw [run_bind pathExists_eq, run_bind exist]
      rfl
    cases offer with
    | missing missing =>
      rw [missing] at step
      exact ⟨files, step, taken⟩
    | present found apart offers =>
      rw [found] at step
      refine ⟨p :: files, step, ?_⟩
      unfold fileLayers
      rw [run_bind offers.fileLayer]
      dsimp only
      rw [run_bind taken]
      rfl

theorem globalFile_offers (offers : UserOffers w env o) (logger : Logger) : ∃ files w',
    (globalFile logger env : StateM World _) w = (files, w') ∧ w.Alike w' ∧
      ∀ rest layers, (fileLayers rest : StateM World _) w' = (.ok layers, w') →
        (fileLayers (files ++ rest) : StateM World _) w' = (.ok (o.toList ++ layers), w') := by
  unfold globalFile
  cases offers with
  | unnamed unnamed =>
    rw [unnamed]
    exact ⟨[], w, rfl, .refl w, fun rest layers taken => taken⟩
  | missing named missing =>
    rw [named]
    dsimp only
    rw [run_bind pathExists_eq, missing]
    exact ⟨[], _, rfl, (log_logged rfl).alike, fun rest layers taken => taken⟩
  | @present p l e layer named found offers =>
    have canonical : (Machine.canonical p : StateM World _) w = (.ok l.path, w) := by
      change (w.files.canonical p, w) = _
      rw [FileSystem.canonical, found]
      rfl
    rw [named]
    dsimp only
    rw [run_bind pathExists_eq, found]
    refine ⟨[l.path], w, run_bind canonical, .refl w, fun rest layers taken => ?_⟩
    rw [List.singleton_append]
    unfold fileLayers
    rw [run_bind offers.fileLayer]
    dsimp only
    rw [run_bind taken]
    rfl

/-! ### Loading -/

structure FilesOffer (w : World) (env : Environment) (workspace : Path) (g f e : Option Layer) :
    Prop where
  user : UserOffers w env g
  own : MayOffer w (workspace.join ⟨"shieldgen.toml"⟩) f
  environment : EnvironmentOffers w env workspace e

theorem fileLayers_workspaceFiles {workspace : Path}
    (own : MayOffer w (workspace.join ⟨"shieldgen.toml"⟩) f)
    (environment : EnvironmentOffers w env workspace e) : ∃ files,
      (existing (workspaceFiles env workspace) : StateM World _) w = (files, w) ∧
      (fileLayers files : StateM World _) w = (.ok (f.toList ++ e.toList), w) := by
  unfold workspaceFiles
  cases environment with
  | unnamed unnamed =>
    rw [unnamed]
    obtain ⟨files, exist, taken⟩ := fileLayers_existing (.cons own .nil)
    refine ⟨files, exist, taken.trans ?_⟩
    cases f <;> rfl
  | named named offers =>
    rw [named]
    obtain ⟨files, exist, taken⟩ := fileLayers_existing (.cons own (.cons offers .nil))
    refine ⟨files, exist, taken.trans ?_⟩
    cases f <;> cases e <;> rfl

theorem load_eq {workspace : Path} (offers : FilesOffer w env workspace g f e) (logger : Logger) :
    ∃ w', w.Alike w' ∧ (load logger env workspace : StateM World _) w =
      (ofLayers (defaultLayer :: (g.toList ++ (f.toList ++ e.toList)) ++ [variableLayer env]), w') := by
  obtain ⟨global, w', found, alike, onward⟩ := globalFile_offers offers.user logger
  have environment : EnvironmentOffers w' env workspace e := by
    cases offers.environment with
    | unnamed unnamed => exact .unnamed unnamed
    | named named offers => exact .named named (offers.alike alike)
  obtain ⟨files, exist, taken⟩ :=
    fileLayers_workspaceFiles (offers.own.alike alike) environment
  refine ⟨w', alike, ?_⟩
  unfold load
  rw [run_bind found, run_bind exist, run_bind (onward files _ taken)]
  rfl

theorem loadFile_eq {l : Location} {entry : Entry} (found : w.files.find p = .ok (l, entry))
    (tells : Tells w p layer) : (loadFile env p : StateM World _) w =
      (ofLayers [defaultLayer, layer, variableLayer env], w) := by
  unfold loadFile
  rw [run_bind pathExists_eq, found]
  exact run_bind (tells.fileLayer true)

theorem latest_toList {α β : Type} {look : α → Option β} {o : Option α} :
    latest look o.toList = o.bind look := by
  cases o with
  | none => rfl
  | some a => exact latest_singleton

/-- Loading settings succeeds where each layer is what may stand there. Each setting then comes from
its variable, or else from the file for the environment, the file of the workspace, the user's file,
or else is its default. A single file that is asked for takes the place of the three. -/
theorem load_resolves (leaves : LeafVariables env) :
    (∀ logger workspace g f e, FilesOffer w env workspace g f e →
      (∀ layer ∈ g.toList ++ (f.toList ++ e.toList), schema.FitsLayer layer) →
      ∃ s w', (load logger env workspace : StateM World _) w = (.ok s, w') ∧
        s.Resolves fun keys => (ofVariable? env keys).or ((e.bind (setBy? keys)).or
          ((f.bind (setBy? keys)).or (g.bind (setBy? keys))))) ∧
    ∀ p l entry layer, w.files.find p = .ok (l, entry) → Tells w p layer →
      schema.FitsLayer layer → ∃ s, (loadFile env p : StateM World _) w = (.ok s, w) ∧
        s.Resolves fun keys => (ofVariable? env keys).or (setBy? keys layer) := by
  constructor
  · intro logger workspace g f e offers fits
    obtain ⟨w', -, loaded⟩ := load_eq offers logger
    have each : ∀ layer ∈ g.toList ++ (f.toList ++ e.toList) ++ [variableLayer env],
        schema.FitsLayer layer := by
      intro layer member
      rcases List.mem_append.mp member with member | member
      · exact fits layer member
      · exact List.mem_singleton.mp member ▸ leaves.fitsLayer
    obtain ⟨s, taken, resolves⟩ := ofLayers_resolves each
    refine ⟨s, w', loaded.trans (by rw [← taken]; rfl), resolves.congr fun keys leaf => ?_⟩
    rw [latest_append, latest_append, latest_append, latest_toList, latest_toList, latest_toList,
      latest_singleton, setBy?, leaves.latest_sets? leaf, Option.or_assoc]
  · intro p l entry layer found tells fits
    have each : ∀ layer' ∈ [layer, variableLayer env], schema.FitsLayer layer' := by
      simp only [List.mem_cons, List.not_mem_nil, or_false, forall_eq_or_imp, forall_eq]
      exact ⟨fits, leaves.fitsLayer⟩
    obtain ⟨s, taken, resolves⟩ := ofLayers_resolves each
    refine ⟨s, (loadFile_eq found tells).trans (by rw [taken]), resolves.congr fun keys leaf => ?_⟩
    have last : setBy? keys (variableLayer env) = ofVariable? env keys := leaves.latest_sets? leaf
    rw [latest_cons, latest_singleton, last]

/-! ### A workspace with three files -/

mutual

def sameTexts : Data → Data → Bool
  | .text s, .text s' => s == s'
  | .table members, .table members' => sameMembers members members'
  | _, _ => false

def sameMembers : List (String × Data) → List (String × Data) → Bool
  | [], [] => true
  | (key, d) :: rest, (key', d') :: rest' =>
    key == key' && sameTexts d d' && sameMembers rest rest'
  | _, _ => false

end

mutual

theorem eq_of_sameTexts {d d' : Data} (same : sameTexts d d') : d = d' := by
  cases d <;> cases d' <;> unfold sameTexts at same <;> try cases same
  case text.text => rw [eq_of_beq same]
  case table.table => rw [eq_of_sameMembers same]

theorem eq_of_sameMembers {members members' : List (String × Data)}
    (same : sameMembers members members') : members = members' := by
  cases members <;> cases members' <;> unfold sameMembers at same <;> try cases same
  case nil.nil => rfl
  case cons.cons m rest m' rest' =>
    simp only [Bool.and_eq_true] at same
    obtain ⟨⟨key, value⟩, others⟩ := same
    rw [Prod.ext (eq_of_beq key) (eq_of_sameTexts value), eq_of_sameMembers others]

end

theorem tells_of_sameTexts {l : Location} {text : String} {members : List (String × Data)}
    (absolute : p.isAbsolute) (found : w.files.find p = .ok (l, .file text))
    (apart : w.journal ≠ some l) (ending : p.fileExtension? = some "toml")
    (parsed : (Toml.parse? text).any (sameTexts · (.table members))) :
    Tells w p (Setting.ofMembers (some (originOf w.files.here p)) members) := by
  have known : formatOf? p = some Toml.parse? := by
    rw [formatOf?, ending]
    rfl
  obtain ⟨d, held, same⟩ := Option.any_eq_true _ _ |>.mp parsed
  exact .intro (if_pos absolute) found apart known (held.trans (congrArg some (eq_of_sameTexts same)))

def shopUserText : String := "[logging]\nlevel = \"warn\"\nformat = \"json\"\n"

def shopOwnText : String := "[generator]\noutput = \"out\"\n\n[logging]\nlevel = \"debug\"\n"

def shopTestText : String := "[generator]\noutput = \"test\"\n"

def shopFiles : World where
  files.entries :=
    [ (["home"], .directory), (["home", "shieldgen"], .directory),
      (["home", "shieldgen", "config.toml"], .file shopUserText),
      (["shop"], .directory), (["shop", "shieldgen.toml"], .file shopOwnText),
      (["shop", "shieldgen.test.toml"], .file shopTestText) ]

def shopVariables : Environment where
  bindings :=
    [ ("HOME", "/"), ("XDG_CONFIG_HOME", "/home"), ("SHIELDGEN_ENV", "test"),
      ("SHIELDGEN__LOGGING__modules__SHIELD", "trace") ]

theorem leafVariables_shop : LeafVariables shopVariables where
  leaf := by
    intro b member sets
    rw [shopVariables] at member
    fin_cases member
    · exact absurd sets (by decide +kernel)
    · exact absurd sets (by decide +kernel)
    · exact absurd sets (by decide +kernel)
    · exact ⟨["logging", "modules", "shield"], by decide +kernel, by decide +kernel,
        .inside (.inside (.inside (.here ⟨_, rfl⟩)))⟩
  once := by
    have each : ∀ b ∈ shopVariables.bindings, ∀ b' ∈ shopVariables.bindings,
        ¬ SetsSomething b ∨ Text.lowercase b.1 ≠ Text.lowercase b'.1 ∨ b = b' := by
      decide +kernel
    intro b member b' member' sets same
    exact ((each b member b' member').resolve_left (not_not_intro sets)).resolve_left
      (not_not_intro same)

def shopUser : Layer :=
  Setting.ofMembers (some "home/shieldgen/config.toml")
    [("logging", .table [("format", .text "json"), ("level", .text "warn")])]

def shopOwn : Layer :=
  Setting.ofMembers (some "shop/shieldgen.toml")
    [ ("generator", .table [("output", .text "out")]),
      ("logging", .table [("level", .text "debug")]) ]

def shopTest : Layer :=
  Setting.ofMembers (some "shop/shieldgen.test.toml")
    [("generator", .table [("output", .text "test")])]

theorem tells_shopOwn : Tells shopFiles ⟨"/shop/shieldgen.toml"⟩ shopOwn :=
  tells_of_sameTexts rfl rfl nofun (by decide +kernel) (by decide +kernel)

theorem tells_shopUser : Tells shopFiles ⟨"/home/shieldgen/config.toml"⟩ shopUser :=
  tells_of_sameTexts rfl rfl nofun (by decide +kernel) (by decide +kernel)

theorem tells_shopTest : Tells shopFiles ⟨"/shop/shieldgen.test.toml"⟩ shopTest :=
  tells_of_sameTexts rfl rfl nofun (by decide +kernel) (by decide +kernel)

theorem userOffers_shop : UserOffers shopFiles shopVariables (some shopUser) := by
  have named : shopVariables.globalSettings? = some ⟨"/home/shieldgen/config.toml"⟩ := by
    decide +kernel
  have real : Location.path ["home", "shieldgen", "config.toml"] =
    ⟨"/home/shieldgen/config.toml"⟩ := by decide +kernel
  have found : shopFiles.files.find ⟨"/home/shieldgen/config.toml"⟩ =
    .ok (["home", "shieldgen", "config.toml"], .file shopUserText) := rfl
  exact .present named found (.told (real ▸ tells_shopUser))

theorem filesOffer_shop : FilesOffer shopFiles shopVariables ⟨"/shop"⟩ (some shopUser)
    (some shopOwn) (some shopTest) := by
  have own : MayOffer shopFiles ⟨"/shop/shieldgen.toml"⟩ (some shopOwn) :=
    .present (e := .file shopOwnText) rfl nofun (.told tells_shopOwn)
  have test : MayOffer shopFiles ⟨"/shop/shieldgen.test.toml"⟩ (some shopTest) :=
    .present (e := .file shopTestText) rfl nofun (.told tells_shopTest)
  have path : (⟨"/shop"⟩ : Path).join ⟨"shieldgen.toml"⟩ = ⟨"/shop/shieldgen.toml"⟩ := by
    decide +kernel
  have path' : (⟨"/shop"⟩ : Path).join ⟨"shieldgen." ++ "test" ++ ".toml"⟩ =
      ⟨"/shop/shieldgen.test.toml"⟩ := by
    decide +kernel
  have asked : shopVariables.get? "SHIELDGEN_ENV" = some "test" := by decide +kernel
  exact ⟨userOffers_shop, path ▸ own, .named asked (path' ▸ test)⟩

theorem fitsLayer_shop : schema.FitsLayer shopUser ∧ schema.FitsLayer shopOwn ∧
    schema.FitsLayer shopTest := by
  have lower : ∀ key ∈ ["format", "level", "output"], Text.lowercase key = key := by decide +kernel
  have leaf {s : Schema} {reads : Setting → Prop} {o : Option String} {text : String}
      (known : s = .leaf reads) (read : reads (.text o text)) : s.Fits (.text o text) := by
    rw [known]
    exact ⟨read, nofun⟩
  refine ⟨fitsLayer_of_plain (by decide +kernel) ?_, fitsLayer_of_plain (by decide +kernel) ?_,
    fitsLayer_of_plain (by decide +kernel) ?_⟩
  all_goals
    intro m member
    fin_cases member
    all_goals
      refine ⟨_, _, rfl, fun key x member => ?_⟩
      fin_cases member
      all_goals exact ⟨lower _ (by decide), leaf rfl ⟨_, rfl⟩⟩

def shopSettings : Settings where
  generator.output := ⟨"test"⟩
  logging := { level := "debug", format := "json", modules := [("shield", "trace")] }

theorem load_resolves_shop : (∃ w',
      (load .silent shopVariables ⟨"/shop"⟩ : StateM World _) shopFiles = (.ok shopSettings, w') ∧
      shopSettings.Resolves fun keys => (ofVariable? shopVariables keys).or ((setBy? keys shopTest).or
        ((setBy? keys shopOwn).or (setBy? keys shopUser)))) ∧
    ∃ s, (loadFile shopVariables ⟨"/shop/shieldgen.toml"⟩ : StateM World _) shopFiles =
        (.ok s, shopFiles) ∧
      s.Resolves fun keys => (ofVariable? shopVariables keys).or (setBy? keys shopOwn) := by
  obtain ⟨user, own, test⟩ := fitsLayer_shop
  have fits : ∀ layer ∈ (some shopUser).toList ++ ((some shopOwn).toList ++ (some shopTest).toList),
      schema.FitsLayer layer := by
    simp [user, own, test]
  have loaded : ((load .silent shopVariables ⟨"/shop"⟩ : StateM World _) shopFiles).1.toOption =
      some shopSettings := by
    decide +kernel
  constructor
  · obtain ⟨s, w', run, resolves⟩ := (load_resolves leafVariables_shop).1 .silent _ _ _ _
      filesOffer_shop fits
    rw [run] at loaded
    cases loaded
    exact ⟨w', run, resolves⟩
  · exact (load_resolves leafVariables_shop).2 ⟨"/shop/shieldgen.toml"⟩
      ["shop", "shieldgen.toml"] (.file shopOwnText) shopOwn rfl tells_shopOwn own

def linkedText : String := "[generator]\noutput = \"./policy\"\n"

def linkedFiles : World where
  files.entries :=
    [ (["home"], .directory), (["home", "shieldgen.conf"], .file linkedText),
      (["home", "shieldgen"], .directory),
      (["home", "shieldgen", "config.toml"], .link "../shieldgen.conf"), (["shop"], .directory) ]

/-- A link to a name that tells no format hides the user's settings. -/
theorem load_skips_linked :
    Toml.parse? linkedText = some (.table [("generator", .table [("output", .text "./policy")])]) ∧
      (linkedFiles.files.readText ⟨"/home/shieldgen/config.toml"⟩).toOption = some linkedText ∧
      (Environment.globalSettings? ⟨[("HOME", "/"), ("XDG_CONFIG_HOME", "/home")], none⟩ =
        some ⟨"/home/shieldgen/config.toml"⟩) ∧
      ((load .silent ⟨[("HOME", "/"), ("XDG_CONFIG_HOME", "/home")], none⟩ ⟨"/shop"⟩ :
        StateM World _) linkedFiles).1.toOption = some {} := by
  have parsed : (Toml.parse? linkedText).any
      (sameTexts · (.table [("generator", .table [("output", .text "./policy")])])) := by
    decide +kernel
  obtain ⟨d, held, same⟩ := Option.any_eq_true _ _ |>.mp parsed
  exact ⟨held.trans (congrArg some (eq_of_sameTexts same)), by decide +kernel, by decide +kernel,
    by decide +kernel⟩

end ShieldPolicy.Settings
