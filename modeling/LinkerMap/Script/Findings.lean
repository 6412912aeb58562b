import LinkerMap.Segment
import LinkerMap.Symbol

/-! # Findings

What a map holds for its script: the segments to rename, the symbols to name, and how much of it is
left out.
-/

namespace LinkerMap

/-- The segments of the memory map, in its order, and how many of its rows describe none. -/
structure SegmentFindings where
  segments : Array Segment := #[]
  skipped : Nat := 0
  deriving DecidableEq, Repr, Inhabited

/-- The symbols of the layouts in the order of the memory map, each with its segment. Rows that do
not describe a symbol are skipped, those of another kind ignored, and segments without a layout are
missing. -/
structure SymbolFindings where
  symbols : Array (String × Symbol) := #[]
  skipped : Nat := 0
  ignored : Nat := 0
  missing : Array String := #[]
  deriving DecidableEq, Repr, Inhabited

structure Findings where
  segments : SegmentFindings
  symbols : SymbolFindings
  deriving DecidableEq, Repr, Inhabited

def SegmentFindings.names (found : SegmentFindings) : Array String :=
  found.segments.map Segment.name

/-- How many symbols come with their module, which is then written as a comment. -/
def SymbolFindings.comments (found : SymbolFindings) : Nat :=
  found.symbols.countP fun (_, symbol) => symbol.module?.isSome

end LinkerMap
