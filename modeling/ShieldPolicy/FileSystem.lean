import ShieldPolicy.FileSystem.Fault
import ShieldPolicy.Location
import ShieldPolicy.Names

/-!
# The file system

A tree of directories, text files and symbolic links, kept as one table from locations to entries.
The root is always a directory. `resolve` follows a path through the tree as the system does: every
directory on the way has to exist, a `..` at the root stays there, and links are followed within a
bound.
-/

namespace ShieldPolicy

inductive Entry where
  | directory
  | file (text : String)
  | link (target : String)
deriving DecidableEq, Inhabited

def Entry.isDirectory : Entry → Bool
  | .directory => true
  | _ => false

def Entry.isFile : Entry → Bool
  | .file _ => true
  | _ => false

/-- The entries below the root, each location once, and the directory that relative paths start
from. -/
structure FileSystem where
  entries : List (Location × Entry) := []
  current : Location := []
deriving Inhabited

namespace FileSystem

/-! ### The table -/

def entry? (fs : FileSystem) (l : Location) : Option Entry :=
  if l = [] then some .directory else fs.entries.lookup l

def put (fs : FileSystem) (l : Location) (e : Entry) : FileSystem :=
  { fs with entries := (l, e) :: fs.entries.filter fun x => x.1 ≠ l }

/-- Takes away a location and all that is below it. -/
def prune (fs : FileSystem) (l : Location) : FileSystem :=
  { fs with entries := fs.entries.filter fun x => !l.isPrefixOf x.1 }

/-- Takes away all that is below a location. -/
def hollow (fs : FileSystem) (l : Location) : FileSystem :=
  { fs with entries := fs.entries.filter fun x => !l.isPrefixOf x.1 || x.1 = l }

def children (fs : FileSystem) (l : Location) : List String :=
  sortedNames (fs.entries.filterMap fun x =>
    if x.1.dropLast = l then x.1.getLast? else none)

/-! ### Paths -/

def endsOpen (p : Path) : Bool := p.text.toList.getLast? == some '/'

def steps (p : Path) : List Path.Component :=
  let body := p.pieces.map fun piece =>
    if piece = ['.'] then Path.Component.current else Path.Component.ofPiece piece
  if p.isAbsolute then .root :: body else body

/-- The steps of a path. A separator at its end asks for a directory, as a `.` after it would. -/
def wholeSteps (p : Path) : List Path.Component :=
  steps p ++ if endsOpen p then [.current] else []

/-- How many bytes a name may have. -/
def nameBound : Nat := 255

/-- How many bytes a path may have. -/
def pathBound : Nat := 4095

def linkBound : Nat := 40

/-- Takes steps from a location. The last name need not exist; it is followed when it is a link and
`followLast` holds. `expand` goes on from a directory with the steps of a link spliced in. -/
def walkSteps (fs : FileSystem)
    (expand : Location → List Path.Component → Except FileFault Location) (followLast : Bool) :
    Location → List Path.Component → Except FileFault Location
  | place, [] => .ok place
  | place, step :: rest =>
    match step, fs.entry? place with
    | .root, _ => fs.walkSteps expand followLast [] rest
    | _, none => .error .notFound
    | .current, some .directory => fs.walkSteps expand followLast place rest
    | .parent, some .directory => fs.walkSteps expand followLast place.dropLast rest
    | .name name, some .directory =>
      if nameBound < name.utf8ByteSize then .error .nameTooLong
      else match fs.entry? (place ++ [name]) with
        | none => if rest.isEmpty then .ok (place ++ [name]) else .error .notFound
        | some (.link target) =>
          if rest.isEmpty && !followLast then .ok (place ++ [name])
          else expand place (wholeSteps ⟨target⟩ ++ rest)
        | some _ => fs.walkSteps expand followLast (place ++ [name]) rest
    | _, some _ => .error .notDirectory

def walk (fs : FileSystem) (followLast : Bool) :
    Nat → Location → List Path.Component → Except FileFault Location
  | 0 => fs.walkSteps (fun _ _ => .error .tooManyLinks) followLast
  | links + 1 => fs.walkSteps (fs.walk followLast links) followLast

def screen (p : Path) : Except FileFault Unit :=
  if p.hasNul then .error .nulInPath
  else if p.isEmpty then .error .notFound
  else if pathBound < p.text.utf8ByteSize then .error .nameTooLong
  else .ok ()

/-- The location that a path leads to. Its last name need not exist, unless a separator follows. -/
def resolve (fs : FileSystem) (p : Path) (followLast : Bool) : Except FileFault Location := do
  screen p
  fs.walk followLast linkBound fs.current (wholeSteps p)

def find (fs : FileSystem) (p : Path) : Except FileFault (Location × Entry) := do
  let l ← fs.resolve p true
  match fs.entry? l with
  | some e => .ok (l, e)
  | none => .error .notFound

def enter (fs : FileSystem) (way : List Path.Component) : Except FileFault Location := do
  let l ← fs.walk true linkBound fs.current way
  match fs.entry? l with
  | some .directory => .ok l
  | some _ => .error .notDirectory
  | none => .error .notFound

/-- The directory that holds the last name of a path, and that name; none for a path that ends in
`.` or `..` or is a root. -/
def slot (fs : FileSystem) (p : Path) : Except FileFault (Location × Option String) := do
  screen p
  let way := steps p
  match way.getLast? with
  | some (.name name) =>
    let l ← fs.enter way.dropLast
    if nameBound < name.utf8ByteSize then .error .nameTooLong else .ok (l, some name)
  | _ => return (← fs.enter way, none)

end FileSystem

end ShieldPolicy
