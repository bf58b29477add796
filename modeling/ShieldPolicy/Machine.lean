import ShieldPolicy.FileSystem.Fault
import ShieldPolicy.Path

/-!
# The machine that a run works on

A run reads and changes files, writes to streams and looks at a clock. It does so through the
operations of this class alone, so that it can run on the file system of a computer as well as on
one that is a value.
-/

namespace ShieldPolicy

inductive FileKind where
  | directory
  | file
deriving DecidableEq

inductive Stream where
  | output
  | error
  /-- The log file, once it was opened. -/
  | journal
deriving DecidableEq

/-- What a run can do to its surroundings. -/
class Machine (m : Type → Type) where
  status : Path → m (Except FileFault FileKind)
  readText : Path → m (Except FileFault String)
  /-- The names in a directory, each with whether it is a directory itself. -/
  list : Path → m (Except FileFault (List (String × Bool)))
  /-- The absolute path without links that leads to the same place. -/
  canonical : Path → m (Except FileFault Path)
  makeDirectory : Path → m (Except FileFault Unit)
  writeText : Path → String → m (Except FileFault Unit)
  /-- Removes a file or a link. -/
  removeFile : Path → m (Except FileFault Unit)
  removeTree : Path → m (Except FileFault Unit)
  renameFile : Path → Path → m (Except FileFault Unit)
  openJournal : Path → m (Except FileFault Unit)
  write : Stream → String → m Unit
  currentDirectory : m (Except FileFault Path)
  clock : m String

namespace Machine

variable {m : Type → Type} [Monad m] [Machine m]

def pathExists (p : Path) : m Bool := return (← status p).toBool

def isDirectory (p : Path) : m Bool := do
  match ← status p with
  | .ok .directory => return true
  | _ => return false

def isFile (p : Path) : m Bool := do
  match ← status p with
  | .ok .file => return true
  | _ => return false

/-- A path made absolute. Only a relative one needs the current directory. -/
def absolute (p : Path) : m (Except FileFault Path) := do
  if p.isAbsolute then return .ok p
  return (← currentDirectory).map fun here => here.join p

/-- Makes the first of these directories, each of which is the parent of the one before. A parent is
made only when its child could not be for want of it. -/
def makeFirst : List Path → m (Except FileFault Unit)
  | [] => return .ok ()
  | p :: above => do
    if p.isEmpty then return .ok ()
    match ← makeDirectory p with
    | .ok () => return .ok ()
    | .error .notFound =>
      match ← makeFirst above with
      | .error fault => return .error fault
      | .ok () => accept p (← makeDirectory p)
    | .error fault => accept p (.error fault)
where
  accept (p : Path) : Except FileFault Unit → m (Except FileFault Unit)
    | .ok () => return .ok ()
    | .error fault => do
      if ← isDirectory p then return .ok () else return .error fault

def makeDirectories (p : Path) : m (Except FileFault Unit) := makeFirst p.ancestors

/-- Removes the named entries of a directory, a link itself and not what it leads to, and answers
how many there were. -/
def removeAll (dir : Path) : List (String × Bool) → m (Except FileFault Nat)
  | [] => return .ok 0
  | (name, isDir) :: rest => do
    let p := dir.join ⟨name⟩
    match ← (if isDir then removeTree p else removeFile p) with
    | .error fault => return .error fault
    | .ok () =>
      match ← removeAll dir rest with
      | .error fault => return .error fault
      | .ok count => return .ok (count + 1)

def clearDirectory (dir : Path) : m (Except FileFault Nat) := do
  match ← list dir with
  | .error fault => return .error fault
  | .ok entries => removeAll dir entries

end Machine

end ShieldPolicy
