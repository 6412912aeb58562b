import LinkerMap.Disk

/-! # File systems

A tree of directories and files with two devices: one is empty and takes all that is written to it,
the other never ends and has room for nothing. A place in the tree is the list of the names that
lead to it from the root.
-/

namespace LinkerMap

abbrev Location := List String

inductive Node where
  | directory
  | file (content : ByteArray)
  | null
  | full

/-- What is at each place, and the directory where relative paths begin. -/
structure FileSystem where
  node? : Location → Option Node
  working : Location

namespace FileSystem

/-- An empty working directory beside the directory of the devices. -/
def initial : FileSystem where
  node?
    | [] => some .directory
    | ["dev"] => some .directory
    | ["dev", "null"] => some .null
    | ["dev", "full"] => some .full
    | ["work"] => some .directory
    | _ => none
  working := ["work"]

def set (fs : FileSystem) (location : Location) (node : Node) : FileSystem :=
  { fs with node? := fun l => if l = location then some node else fs.node? l }

def checkDirectory (fs : FileSystem) (location : Location) : Except Cause Location :=
  match fs.node? location with
  | some .directory => .ok location
  | some _ => .error .notDirectory
  | none => .error .noEntry

/-- The place that a component leads to, seen from a directory. There need not be anything. -/
def child (directory : Location) (component : String) : Except Cause Location :=
  if component = "." then .ok directory
  else if component = ".." then .ok directory.dropLast
  else if 255 < component.utf8ByteSize then .error .nameTooLong
  else .ok (directory ++ [component])

/-- The place that components lead to. There must be something at each, and a directory at all but
the last. -/
def walk (fs : FileSystem) (location : Location) : List String → Except Cause Location
  | [] => .ok location
  | component :: components => do
    let directory ← fs.checkDirectory location
    let next ← child directory component
    match fs.node? next with
    | some _ => fs.walk next components
    | none => .error .noEntry

/-- Where a path begins. Some texts are no path at all. -/
def origin (fs : FileSystem) (path : Path) : Except Cause Location :=
  if path.text.toList.contains '\x00' then .error .zeroInName
  else if path.text.isEmpty then .error .noEntry
  else if 4096 ≤ path.text.utf8ByteSize then .error .nameTooLong
  else if path.isAbsolute then .ok []
  else .ok fs.working

def locate (fs : FileSystem) (path : Path) : Except Cause Location := do
  let location ← fs.walk (← fs.origin path) path.components
  if path.endsInSlash then fs.checkDirectory location else .ok location

/-- The place of something that may be made: the directory above it must be there, and the path
must end in a name. -/
def target (fs : FileSystem) (path : Path) : Except Cause Location := do
  let above ← fs.walk (← fs.origin path) path.components.dropLast
  let directory ← fs.checkDirectory above
  match path.components.getLast? with
  | none => .error .isDirectory
  | some name =>
    if path.endsInSlash || name == "." || name == ".." then .error .isDirectory
    else child directory name

def load (fs : FileSystem) (location : Location) : Except Cause ByteArray :=
  match fs.node? location with
  | some (.file content) => .ok content
  | some .null => .ok .empty
  | some .full => .error .endless
  | some .directory => .error .isDirectory
  | none => .error .noEntry

/-- Fills the file at a place, which need not be there yet. -/
def store (fs : FileSystem) (location : Location) (content : ByteArray) :
    Except Cause FileSystem :=
  match fs.node? location with
  | none | some (.file _) => .ok (fs.set location (.file content))
  | some .null => .ok fs
  | some .full => if content.isEmpty then .ok fs else .error .noSpace
  | some .directory => .error .isDirectory

def read (fs : FileSystem) (path : Path) : Except Cause ByteArray := do
  fs.load (← fs.locate path)

/-- Writes a file at a path, in place of the one that is there. -/
def write (fs : FileSystem) (path : Path) (content : ByteArray) : Except Cause FileSystem := do
  fs.store (← fs.target path) content

/-- Makes an empty file at a path, in place of the one that is there. -/
def create (fs : FileSystem) (path : Path) : Except Cause FileSystem :=
  fs.write path .empty

def makeDirectory (fs : FileSystem) (path : Path) : Except Cause FileSystem := do
  let directory ← fs.walk (← fs.origin path) path.components.dropLast
  match path.components.getLast? with
  | none => .ok fs
  | some name =>
    let location ← child directory name
    match fs.node? location with
    | none => .ok (fs.set location .directory)
    | some _ => .ok fs

def look (question : FileSystem → Except Cause α) : StateM FileSystem (Except Cause α) :=
  modifyGet fun fs => (question fs, fs)

def change (action : FileSystem → Except Cause FileSystem) :
    StateM FileSystem (Except Cause Unit) :=
  modifyGet fun fs =>
    match action fs with
    | .ok changed => (.ok (), changed)
    | .error cause => (.error cause, fs)

/-- The disk of a program that runs in a file system. -/
def disk : Disk (StateM FileSystem) where
  access path := look fun fs => (fs.locate path).map fun _ => ()
  read path := look (·.read path)
  create path := change (·.create path)
  write path content := change (·.write path content)

end FileSystem

end LinkerMap
