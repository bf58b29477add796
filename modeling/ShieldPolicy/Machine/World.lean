import ShieldPolicy.FileSystem.Files
import ShieldPolicy.Machine

/-!
# A machine that is a value

A world holds a file system and what was written to the streams. The log file stays open while its
file is in place; once that was removed or replaced by something else, what is written is lost.
-/

namespace ShieldPolicy

structure World where
  files : FileSystem := {}
  journal : Option Location := none
  output : String := ""
  error : String := ""
  time : String := ""
deriving Inhabited

namespace World

/-- Gives up a log file that is no longer in place. -/
def settle (w : World) : World :=
  { w with journal := w.journal.filter fun l => match w.files.entry? l with
      | some (.file _) => true
      | _ => false }

def look {α : Type} (f : FileSystem → Except FileFault α) : StateM World (Except FileFault α) :=
  fun w => (f w.files, w)

def change (f : FileSystem → Except FileFault FileSystem) :
    StateM World (Except FileFault Unit) := fun w =>
  match f w.files with
  | .ok files => (.ok (), settle { w with files })
  | .error fault => (.error fault, w)

def print (w : World) (text : String) : Stream → World
  | .output => { w with output := w.output ++ text }
  | .error => { w with error := w.error ++ text }
  | .journal => match w.journal with
    | some l => { w with files := w.files.appendAt l text }
    | none => w

def kindOf (e : Entry) : FileKind := if e.isDirectory then .directory else .file

instance : Machine (StateM World) where
  status p := look fun fs => do return kindOf (← fs.find p).2
  readText p := look fun fs => fs.readText p
  list p := look fun fs => fs.list p
  canonical p := look fun fs => fs.canonical p
  makeDirectory p := change fun fs => fs.makeDirectory p
  writeText p text := change fun fs => fs.writeText p text
  removeFile p := change fun fs => fs.removeFile p
  removeTree p := change fun fs => fs.removeTree p
  renameFile source target := change fun fs => fs.renameFile source target
  openJournal p := fun w =>
    match w.files.openEnd p with
    | .ok (files, l) => (.ok (), { w with files, journal := some l })
    | .error fault => (.error fault, w)
  write stream text := fun w => ((), w.print text stream)
  currentDirectory := look fun fs => fs.here
  clock := fun w => (w.time, w)

end World

end ShieldPolicy
