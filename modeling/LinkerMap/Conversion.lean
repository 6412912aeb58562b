import LinkerMap.Disk
import LinkerMap.Script.Routines
import LinkerMap.Text.Utf8

/-! # Conversion

Reading a map from a file and writing its script to another. The output is made only when the map
has been read.
-/

namespace LinkerMap

inductive Step where
  | opening
  | reading
  | creating
  | writing
  deriving DecidableEq, Repr

def Step.verb : Step → String
  | opening => "open"
  | reading => "read"
  | creating => "create"
  | writing => "write"

/-- A file that could not be used, the step that failed, and why. -/
structure Failure where
  step : Step
  path : Path
  cause : Cause
  deriving DecidableEq, Repr

def Failure.message (failure : Failure) : String :=
  "Failed to " ++ failure.step.verb ++ " file: " ++ failure.path.text

namespace Conversion

/-- Drops one byte order mark in front. -/
def dropMark : List Char → List Char
  | '\uFEFF' :: cs => cs
  | cs => cs

def sectionsOfBytes (bytes : ByteArray) : Sections :=
  Sections.ofText (String.ofList (dropMark (Text.decode bytes).toList))

/-- How many octets are gathered before they are handed to the disk. -/
def bufferSize : Nat := 8192

def runInto (limit? : Option Nat) (emission : Emission α) : EStateM.Result SinkError Output α :=
  emission.run (.empty limit?)

def outputOf : EStateM.Result SinkError Output α → Output
  | .ok _ output => output
  | .error _ output => output

/-- What writing a script came to, and the notices left on the way. -/
structure Written where
  notices : Array Notice
  result : Except Failure Findings

structure Report where
  sections : Nat
  findings : Findings
  deriving DecidableEq, Repr

variable {m : Type → Type} [Monad m]

/-- Where the script of a map goes when no other place is given. -/
def defaultOutput (input : Path) : Path :=
  input.withExtension "idc"

def readMap (disk : Disk m) (path : Path) : m (Except Failure Sections) := do
  match ← disk.access path with
  | .error cause => return .error ⟨.opening, path, cause⟩
  | .ok () =>
    match ← disk.read path with
    | .error cause => return .error ⟨.reading, path, cause⟩
    | .ok bytes => return .ok (sectionsOfBytes bytes)

/-- Writes the script of a map at a path. When the disk refuses the script, the notices are those
left before the first octet that the buffer has no room for. -/
def writeScript (disk : Disk m) (path : Path) (sections : Sections) : m Written := do
  match ← disk.create path with
  | .error cause => return ⟨#[], .error ⟨.creating, path, cause⟩⟩
  | .ok () =>
    match runInto none (Script.ofSections sections) with
    | .error .full output => return ⟨output.notices, .error ⟨.writing, path, .noSpace⟩⟩
    | .ok findings output =>
      match ← disk.write path output.sink.written with
      | .ok () => return ⟨output.notices, .ok findings⟩
      | .error cause =>
        let gathered := outputOf (runInto (some bufferSize) (Script.ofSections sections))
        return ⟨gathered.notices, .error ⟨.writing, path, cause⟩⟩

/-- Converts the map at a path. -/
def convert (disk : Disk m) (input output : Path) : m (Except Failure Report) := do
  match ← readMap disk input with
  | .error failure => return .error failure
  | .ok sections =>
    let written ← writeScript disk output sections
    return written.result.map (⟨sections.size, ·⟩)

end Conversion

end LinkerMap
