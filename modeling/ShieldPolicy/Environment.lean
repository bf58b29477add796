import ShieldPolicy.Path

/-!
# The environment of a run

Variables with their values, and the directories that the platform sets aside for a user's files.
-/

namespace ShieldPolicy

structure Environment where
  /-- Each variable once. -/
  bindings : List (String × String) := []
  /-- The home directory of the account, for want of a variable that names one. -/
  accountHome : Option Path := none
deriving Inhabited

namespace Environment

def get? (env : Environment) (name : String) : Option String := env.bindings.lookup name

def home? (env : Environment) : Option Path :=
  match env.get? "HOME" with
  | some text => if text.isEmpty then env.accountHome else some ⟨text⟩
  | none => env.accountHome

/-- The directory that a variable names by an absolute path, or else one below the home
directory. -/
def userDirectory? (env : Environment) (name : String) (belowHome : Path) : Option Path := do
  let home ← env.home?
  match env.get? name with
  | some text => if Path.isAbsolute ⟨text⟩ then return ⟨text⟩ else return home.join belowHome
  | none => return home.join belowHome

def globalSettings? (env : Environment) : Option Path := do
  let dir ← env.userDirectory? "XDG_CONFIG_HOME" ⟨".config"⟩
  return (dir.join ⟨"shieldgen"⟩).join ⟨"config.toml"⟩

def defaultLogFile? (env : Environment) : Option Path := do
  let dir ← env.userDirectory? "XDG_DATA_HOME" ⟨".local/share"⟩
  return (dir.join ⟨"shieldgen"⟩).join ⟨"shieldgen.log"⟩

end Environment

end ShieldPolicy
