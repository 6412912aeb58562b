import LinkerMap.Sections
import LinkerMap.Script.Findings
import LinkerMap.Script.Statement

/-! # The script of a map

The script has three routines. The entry calls the other two: one renames the segments of the
memory map, the other names the symbols that the layouts place in them and comments them with their
modules. Layouts are taken in the order of the memory map.
-/

namespace LinkerMap.Script

open Emission

def entryName : String := "main"

def segmentRoutineName : String := "handleSegments"

def symbolRoutineName : String := "handleFunctions"

def entry : Emission Unit :=
  routine entryName [.call segmentRoutineName, .call symbolRoutineName]

/-- Renames the segment of one row of the memory map. -/
def renameRow (found : SegmentFindings) (row : String) : Emission SegmentFindings :=
  match Segment.ofRow? row with
  | some segment => do
    statement (.renameSeg segment.start segment.name)
    return { found with segments := found.segments.push segment }
  | none => do
    note (.skippedMapRow row)
    return { found with skipped := found.skipped + 1 }

def renameSegments (sections : Sections) : Emission SegmentFindings :=
  match sections.get? Sections.memoryMap with
  | some rows => rows.foldlM renameRow {}
  | none => do
    note .noMemoryMap
    return {}

def segmentRoutine (sections : Sections) : Emission SegmentFindings := do
  openRoutine segmentRoutineName
  let found ← renameSegments sections
  closeRoutine
  return found

/-- Names a symbol, and comments it with its module. -/
def nameSymbol (symbol : Symbol) : Emission Unit := do
  statement (.makeNameEx symbol.address symbol.name symbol.flags)
  match symbol.module? with
  | some origin => statement (.makeComm symbol.address origin)
  | none => return

/-- Names the symbol of one row of the layout of a segment. -/
def nameRow (segment : String) (found : SymbolFindings) (row : String) :
    Emission SymbolFindings :=
  match Symbol.ofRow? row with
  | some symbol =>
    if symbol.isNamed then do
      nameSymbol symbol
      return { found with symbols := found.symbols.push (segment, symbol) }
    else return { found with ignored := found.ignored + 1 }
  | none => do
    note (.skippedLayoutRow segment row)
    return { found with skipped := found.skipped + 1 }

def nameLayout (sections : Sections) (found : SymbolFindings) (segment : String) :
    Emission SymbolFindings :=
  match sections.get? (Sections.layoutTitle segment) with
  | some rows => rows.foldlM (nameRow segment) found
  | none => do
    note (.noLayout segment)
    return { found with missing := found.missing.push segment }

def symbolRoutine (sections : Sections) (segments : SegmentFindings) : Emission SymbolFindings := do
  openRoutine symbolRoutineName
  let found ← segments.names.toList.foldlM (nameLayout sections) {}
  closeRoutine
  return found

/-- Writes the script of a map. -/
def ofSections (sections : Sections) : Emission Findings := do
  entry
  let segments ← segmentRoutine sections
  let symbols ← symbolRoutine sections segments
  return ⟨segments, symbols⟩

end LinkerMap.Script
