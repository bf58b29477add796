import ShieldPolicy.Log
import ShieldPolicy.Settings.Decode
import ShieldPolicy.Settings.Ini
import ShieldPolicy.Settings.Json5
import ShieldPolicy.Settings.Ron
import ShieldPolicy.Settings.Yaml
import ShieldPolicy.Toml.Document

/-!
# Loading settings

From the bottom up the layers are: the built-in defaults, the user's file, the workspace's file, the
file of the workspace for the environment that a variable names, and the variables. A single file
that is asked for by name takes the place of the three files.
-/

namespace ShieldPolicy

namespace Settings

/-! ### Layers -/

/-- A layer: values by key, which may be a path. -/
abbrev Layer := List (String × Setting)

def defaultLayer : Layer :=
  [ ("generator.output", .text none "./generated"),
    ("generator.provider", .text none "prisma-client-js"),
    ("logging.level", .text none "info") ]

/-- The settings in layers, the lowest first. -/
def ofLayers (layers : List Layer) : Except SettingsError Settings :=
  ofSetting (layers.foldl Setting.overlay Setting.empty)

/-- The text with every two underscores in a row replaced by a dot. -/
def dotted : List Char → List Char
  | '_' :: '_' :: rest => '.' :: dotted rest
  | c :: rest => c :: dotted rest
  | [] => []

/-- What starts the name of a variable that sets something, in letters of either case. -/
def variableStart : List Char := "shieldgen__".toList

/-- The layer of the variables, ascending by key. -/
def variableLayer (env : Environment) : Layer :=
  (env.bindings.filterMap fun (name, value) =>
    (Text.dropStart? variableStart (Text.lowercase name).toList).map fun key =>
      (String.ofList (dotted key), Setting.text (some "the environment") value)).foldl
    (fun layer (key, value) => Json.insertMember key value layer) []

/-! ### Files -/

def json? (text : String) : Option Data := (Json.parse text).toOption.map Data.ofJson

def formats : List (String × (String → Option Data)) :=
  [ ("toml", Toml.parse?), ("json", json?), ("yaml", Yaml.parse?), ("yml", Yaml.parse?),
    ("ini", Ini.parse?), ("ron", Ron.parse?), ("json5", Json5.parse?) ]

def leading (base target : List Path.Component) : List Path.Component :=
  match base, target with
  | b :: bs, t :: ts => if b = t then leading bs ts else upThen (b :: bs) (t :: ts)
  | bs, ts => upThen bs ts
where
  upThen (base target : List Path.Component) : List Path.Component :=
    base.map (fun _ => .parent) ++ target

/-- How messages name a file: by its path from the current directory, if there is one. -/
def originOf (here : Except FileFault Path) (file : Path) : String :=
  match here with
  | .error _ => file.text
  | .ok here =>
    Text.joinTexts "/" ((leading here.components file.components).map Path.Component.text)

variable {m : Type → Type} [Monad m] [Machine m]

def firstFile : List Path → m (Option Path)
  | [] => return none
  | p :: rest => do
    if ← Machine.isFile p then return some p
    firstFile rest

/-- The file that a path means: itself, or else its name with the ending of a format. -/
def locate (p : Path) : m (Option Path) := do
  let others := match p.fileName? with
    | some name =>
      formats.map fun (ending, _) =>
        (p.parent?.getD ⟨""⟩).join ⟨name ++ "." ++ ending⟩
    | none => []
  firstFile (p :: others)

def layerOf (origin : String) : Data → Except SettingsError Layer
  | .table members => .ok (Setting.ofMembers (some origin) members)
  | d => .error (.notTable d.describe origin)

def readSource (p : Path) :
    m (Except SettingsError (String × String × (String → Option Data))) := do
  match ← Machine.absolute p with
  | .error fault => return .error (.unreadableFile p.text fault.message)
  | .ok start =>
  match ← locate start with
  | none => return .error (.unreadableFile p.text "there is no such file")
  | some file =>
  let origin := originOf (← Machine.currentDirectory) file
  match file.fileExtension?.bind fun ending => formats.lookup ending with
  | none => return .error (.unreadableFile origin "its format is not known")
  | some format =>
  match ← Machine.readText file with
  | .error fault => return .error (.unreadableFile origin fault.message)
  | .ok text => return .ok (origin, text, format)

/-- The layer of a file. A file that need not be there gives no layer when it cannot be read. -/
def fileLayer (p : Path) (required : Bool) : m (Except SettingsError Layer) := do
  match ← readSource p with
  | .error e => return if required then .error e else .ok []
  | .ok (origin, text, format) =>
    match format text with
    | none => return .error (.unreadableFile origin "it is malformed")
    | some d => return layerOf origin d

def fileLayers : List Path → m (Except SettingsError (List Layer))
  | [] => return .ok []
  | p :: rest => do
    match ← fileLayer p false with
    | .error e => return .error e
    | .ok layer =>
      match ← fileLayers rest with
      | .error e => return .error e
      | .ok layers => return .ok (layer :: layers)

/-- The user's file, without links, if it exists. -/
def globalFile (logger : Logger) (env : Environment) : m (List Path) := do
  match env.globalSettings? with
  | none => return []
  | some p =>
    if ← Machine.pathExists p then
      match ← Machine.canonical p with
      | .ok real => return [real]
      | .error _ => return [p]
    else
      logger.log (.noGlobalSettings p)
      return []

def existing : List Path → m (List Path)
  | [] => return []
  | p :: rest => do
    let found ← Machine.pathExists p
    let others ← existing rest
    return if found then p :: others else others

def workspaceFiles (env : Environment) (workspace : Path) : List Path :=
  workspace.join ⟨"shieldgen.toml"⟩ ::
    ((env.get? "SHIELDGEN_ENV").map fun name =>
      workspace.join ⟨"shieldgen." ++ name ++ ".toml"⟩).toList

/-! ### Loading -/

def load (logger : Logger) (env : Environment) (workspace : Path) :
    m (Except SettingsError Settings) := do
  let global ← globalFile logger env
  let files ← existing (workspaceFiles env workspace)
  match ← fileLayers (global ++ files) with
  | .error e => return .error e
  | .ok layers => return ofLayers (defaultLayer :: layers ++ [variableLayer env])

def loadFile (env : Environment) (p : Path) : m (Except SettingsError Settings) := do
  if !(← Machine.pathExists p) then return .error (.fileNotFound p)
  match ← fileLayer p true with
  | .error e => return .error e
  | .ok layer => return ofLayers [defaultLayer, layer, variableLayer env]

end Settings

end ShieldPolicy
