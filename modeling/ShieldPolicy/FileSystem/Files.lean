import ShieldPolicy.FileSystem

/-!
# Operations on files

Each operation either is refused, and then the file system is as before, or gives the file system
after it. Operations that remove or rename never follow a link in last place.
-/

namespace ShieldPolicy.FileSystem

def readText (fs : FileSystem) (p : Path) : Except FileFault String := do
  match ← fs.find p with
  | (_, .file text) => .ok text
  | _ => .error .isDirectory

def list (fs : FileSystem) (p : Path) : Except FileFault (List (String × Bool)) := do
  match ← fs.find p with
  | (l, .directory) =>
    .ok ((fs.children l).map fun name => (name, fs.entry? (l ++ [name]) == some .directory))
  | _ => .error .notDirectory

def canonical (fs : FileSystem) (p : Path) : Except FileFault Path := do
  let (l, _) ← fs.find p
  return l.path

def here (fs : FileSystem) : Except FileFault Path :=
  if fs.entry? fs.current = some .directory then .ok fs.current.path else .error .notFound

def makeDirectory (fs : FileSystem) (p : Path) : Except FileFault FileSystem := do
  match ← fs.slot p with
  | (l, some name) =>
    if (fs.entry? (l ++ [name])).isSome then .error .alreadyExists
    else .ok (fs.put (l ++ [name]) .directory)
  | (_, none) => .error .alreadyExists

/-- The location of the file that a path leads to, which need not exist. -/
def fileSlot (fs : FileSystem) (p : Path) : Except FileFault Location := do
  match ← fs.slot p with
  | (_, none) => .error .isDirectory
  | (_, some _) =>
    if endsOpen p then .error .isDirectory
    else
      let l ← fs.resolve p true
      if fs.entry? l = some .directory then .error .isDirectory else .ok l

def writeText (fs : FileSystem) (p : Path) (text : String) : Except FileFault FileSystem := do
  let l ← fs.fileSlot p
  return fs.put l (.file text)

/-- Writes at the end of the file at a location, if one is there. -/
def appendAt (fs : FileSystem) (l : Location) (text : String) : FileSystem :=
  match fs.entry? l with
  | some (.file before) => fs.put l (.file (before ++ text))
  | _ => fs

/-- The location of a file to be written at its end, made when it does not exist. -/
def openEnd (fs : FileSystem) (p : Path) : Except FileFault (FileSystem × Location) := do
  let l ← fs.fileSlot p
  return (if (fs.entry? l).isSome then fs else fs.put l (.file ""), l)

def removeFile (fs : FileSystem) (p : Path) : Except FileFault FileSystem := do
  match ← fs.slot p with
  | (l, some name) =>
    match fs.entry? (l ++ [name]) with
    | none => .error .notFound
    | some .directory => .error .isDirectory
    | some _ => if endsOpen p then .error .notDirectory else .ok (fs.prune (l ++ [name]))
  | (_, none) => .error .isDirectory

/-- Removes a directory with all that is in it; a link is removed itself. What is in the directory
goes first. When the way to the directory led through that, its path leads nowhere by then, and the
directory stays, with nothing in it. -/
def removeTree (fs : FileSystem) (p : Path) : Except FileFault FileSystem := do
  match ← fs.slot p with
  | (l, some name) =>
    match fs.entry? (l ++ [name]) with
    | none => .error .notFound
    | some (.file _) => .error .notDirectory
    | some (.link _) => .ok (fs.prune (l ++ [name]))
    | some .directory =>
      let emptied := fs.hollow (l ++ [name])
      .ok (if (emptied.slot p).toBool then emptied.prune (l ++ [name]) else emptied)
  | (_, none) => .error .busy

def makeLink (fs : FileSystem) (p : Path) (target : String) : Except FileFault FileSystem := do
  screen ⟨target⟩
  match ← fs.slot p with
  | (l, some name) =>
    if (fs.entry? (l ++ [name])).isSome then .error .alreadyExists
    else .ok (fs.put (l ++ [name]) (.link target))
  | (_, none) => .error .alreadyExists

def renameFile (fs : FileSystem) (source target : Path) : Except FileFault FileSystem := do
  let (fromDir, fromName) ← fs.slot source
  let (toDir, toName) ← fs.slot target
  match fromName, toName with
  | some fromName, some toName =>
    match fs.entry? (fromDir ++ [fromName]) with
    | none => .error .notFound
    | some moved =>
      if endsOpen source || endsOpen target then .error .notDirectory
      else if fs.entry? (toDir ++ [toName]) = some .directory then .error .isDirectory
      else .ok ((fs.prune (fromDir ++ [fromName])).put (toDir ++ [toName]) moved)
  | _, _ => .error .busy

end ShieldPolicy.FileSystem
