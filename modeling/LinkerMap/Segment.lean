import LinkerMap.Hex
import LinkerMap.Row.Classes

/-! # Segments

A row of the memory map names a segment and says where it starts, how large it is and where it lies
in the image.
-/

namespace LinkerMap

/-- A segment of the image. -/
structure Segment where
  name : String
  start : Hex
  size : Hex
  offset : Hex
  deriving DecidableEq, Repr, Inhabited

namespace Segment

open Row

/-- A row holds the name, the start, the size and the offset, with blanks in front of each. -/
def pattern : List CharClass := [blank, nonSpace, blank, hex, blank, hex, blank, hex]

def ofRow? (row : String) : Option Segment :=
  match find? pattern row.toList with
  | some ⟨[_, name, _, start, _, size, _, offset], _⟩ =>
    some {
      name := Text.trim (String.ofList name)
      start := ⟨String.ofList start⟩
      size := ⟨String.ofList size⟩
      offset := ⟨String.ofList offset⟩ }
  | _ => none

end Segment

end LinkerMap
