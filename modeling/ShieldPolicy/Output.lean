import ShieldPolicy.Log
import ShieldPolicy.Policy

/-!
# Writing the output

The output directory is made, emptied and then filled by at most one file. The file is written under
another name first and moved to its own name when it is complete. When that fails, the directory is
emptied again, so that it never holds a part of a policy.
-/

namespace ShieldPolicy.Output

variable {m : Type → Type} [Monad m] [Machine m]

def draftOf (p : Path) : Path := ⟨p.text ++ ".tmp"⟩

def writeWhole (d : Document) : m (Except FileFault Unit) := do
  match ← Machine.writeText (draftOf d.path) d.contents with
  | .error fault => return .error fault
  | .ok () =>
    match ← Machine.renameFile (draftOf d.path) d.path with
    | .ok () => return .ok ()
    | .error fault =>
      let _ ← Machine.removeFile (draftOf d.path)
      return .error fault

def write (logger : Logger) (dir : Path) (document : Option Document) :
    m (Except GenerationError Unit) := do
  match ← Machine.makeDirectories dir with
  | .error fault => return .error (.output .createDirectory dir fault)
  | .ok () =>
  match ← Machine.clearDirectory dir with
  | .error fault => return .error (.output .cleanup dir fault)
  | .ok removed =>
  logger.log (.outputCleared dir removed)
  match document with
  | none => return .ok ()
  | some d =>
    match ← writeWhole d with
    | .ok () => return .ok ()
    | .error fault =>
      match ← Machine.clearDirectory dir with
      | .ok _ => pure ()
      | .error cleanup => logger.log (.cleanupFailed dir cleanup)
      return .error (.output .write d.path fault)

end ShieldPolicy.Output
