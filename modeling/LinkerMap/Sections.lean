import LinkerMap.Text.Blank
import LinkerMap.Text.Lines

/-! # Sections

A map is a list of titled sections. A line that starts with a space belongs to the body of the
section whose title stands above it; any other line that is not empty is a title; an empty line
ends a body. Sections stand in the order in which their titles first got a body, and a title that
gets another body keeps the last one.
-/

namespace LinkerMap

/-- The bodies of a map, each under its title. -/
structure Sections where
  entries : List (String × List String)
  deriving DecidableEq, Repr, Inhabited

namespace Sections

def memoryMap : String := "Memory map:"

/-- The title over the symbols placed in a segment. -/
def layoutTitle (segment : String) : String :=
  segment ++ " section layout"

def empty : Sections := ⟨[]⟩

/-- Replaces the body of a title where the title stands, or puts both at the end. -/
def insertEntry (title : String) (body : List String) :
    List (String × List String) → List (String × List String)
  | [] => [(title, body)]
  | (t, b) :: entries =>
    if t = title then (title, body) :: entries else (t, b) :: insertEntry title body entries

def insert (sections : Sections) (title : String) (body : List String) : Sections :=
  ⟨insertEntry title body sections.entries⟩

def get? (sections : Sections) (title : String) : Option (List String) :=
  sections.entries.lookup title

def titles (sections : Sections) : List String :=
  sections.entries.map Prod.fst

def size (sections : Sections) : Nat :=
  sections.entries.length

def isEmpty (sections : Sections) : Bool :=
  sections.entries.isEmpty

end Sections

def isBodyLine (line : String) : Bool :=
  line.toList.head? == some ' '

/-- A map read up to some line: the sections so far, the title that stands above the next line, and
the body lines read under it. -/
structure Splitter where
  sections : Sections
  title : String
  body : Array String

namespace Splitter

/-- Before the first line, the title is empty. -/
def start : Splitter := ⟨.empty, "", #[]⟩

def commit (s : Splitter) : Splitter :=
  if s.body.isEmpty then s
  else { s with sections := s.sections.insert s.title s.body.toList, body := #[] }

def read (s : Splitter) (line : String) : Splitter :=
  if line.isEmpty then s.commit
  else if isBodyLine line then { s with body := s.body.push line }
  else { s.commit with title := Text.trim line }

end Splitter

namespace Sections

/-- The sections of a map given line by line. -/
def ofLines (lines : List String) : Sections :=
  (lines.foldl Splitter.read .start).commit.sections

def ofText (text : String) : Sections :=
  ofLines (Text.lines text)

end Sections

end LinkerMap
