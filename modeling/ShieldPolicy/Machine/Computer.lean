import ShieldPolicy.Environment
import ShieldPolicy.Machine
import Std.Time.Format

/-!
# The computer as a machine

The operations of a machine on the files, the streams and the clock of the computer that the program
runs on.
-/

namespace ShieldPolicy

/-- A run on the computer. Its state is the log file, once it was opened. -/
abbrev Computer := StateT (Option IO.FS.Handle) IO

namespace Computer

def errorNumber? : IO.Error → Option UInt32
  | .alreadyExists _ code _ | .invalidArgument _ code _ | .permissionDenied _ code _
  | .resourceExhausted _ code _ | .inappropriateType _ code _ | .noSuchThing _ code _
  | .interrupted _ code _ | .noFileOrDirectory _ code _ | .otherError code _
  | .resourceBusy code _ | .resourceVanished code _ | .unsupportedOperation code _
  | .hardwareFault code _ | .unsatisfiedConstraints code _ | .illegalOperation code _
  | .protocolError code _ | .timeExpired code _ => some (min code (0 - code))
  | .unexpectedEof | .userError _ => none

def faultOf (e : IO.Error) : FileFault :=
  match errorNumber? e with
  | some 2 => .notFound
  | some 16 => .busy
  | some 17 => .alreadyExists
  | some 20 => .notDirectory
  | some 21 => .isDirectory
  | some 36 => .nameTooLong
  | some 39 => .notEmpty
  | some 40 => .tooManyLinks
  | _ => .other (toString e)

def attempt {α : Type} (p : Path) (act : String → IO α) : Computer (Except FileFault α) := do
  if p.hasNul then return .error .nulInPath
  try return .ok (← act p.text)
  catch e => return .error (faultOf e)

def entries (dir : String) : IO (List (IO.FS.DirEntry × Bool)) := do
  let found ← (← IO.FS.realPath dir).readDir
  found.toList.mapM fun entry => do
    return (entry, (← entry.path.symlinkMetadata).type == .dir)

partial def removeTree (dir : String) : IO Unit := do
  for (entry, isDirectory) in ← entries dir do
    if isDirectory then removeTree entry.path.toString
    else IO.FS.removeFile entry.path
  IO.FS.removeDir dir

def now : IO String := do
  let moment := Std.Time.DateTime.ofTimestampWithZone (← Std.Time.Timestamp.now) .UTC
  return moment.format "uuuu-MM-dd'T'HH:mm:ss.SSSSSSSSSxxx"

def print (stream : IO.FS.Stream) (text : String) : IO Unit := do
  stream.putStr text
  stream.flush

instance : Machine Computer where
  status p := attempt p fun name => do
    return if (← (← IO.FS.realPath name).metadata).type == .dir then .directory else .file
  readText p := do
    match ← attempt p fun name => IO.FS.readBinFile name with
    | .error fault => return .error fault
    | .ok bytes => return (String.fromUTF8? bytes).elim (.error .notText) .ok
  list p := attempt p fun name => do
    return (← entries name).map fun (entry, isDirectory) => (entry.fileName, isDirectory)
  canonical p := attempt p fun name => return ⟨(← IO.FS.realPath name).toString⟩
  makeDirectory p := attempt p fun name => IO.FS.createDir name
  writeText p text := attempt p fun name => IO.FS.writeFile name text
  removeFile p := attempt p fun name => IO.FS.removeFile name
  removeTree p := attempt p removeTree
  renameFile source target := attempt source fun name => IO.FS.rename name target.text
  openJournal p := do
    match ← attempt p fun name => IO.FS.Handle.mk name .append with
    | .error fault => return .error fault
    | .ok handle =>
      set (some handle)
      return .ok ()
  write stream text := do
    match stream with
    | .output => print (← IO.getStdout) text
    | .error => print (← IO.getStderr) text
    | .journal =>
      if let some handle ← get then
        handle.putStr text
        handle.flush
  currentDirectory := attempt ⟨"."⟩ fun name => return ⟨(← IO.FS.realPath name).toString⟩
  clock := now

/-- The variables of the process, which the system lists in a file. -/
def environment : IO Environment := do
  let bytes ← try IO.FS.readBinFile "/proc/self/environ" catch _ => pure ByteArray.empty
  let listed := Text.splitOn '\x00' ((String.fromUTF8? bytes).getD "").toList
  let bindings := listed.filterMap fun cs =>
    let name := cs.takeWhile (· ≠ '=')
    if name.isEmpty then none
    else some (String.ofList name, String.ofList (cs.drop (name.length + 1)))
  return { bindings }

end Computer

end ShieldPolicy
