import LinkerMap.Log.Level
import LinkerMap.Sections
import LinkerMap.Text.Quoted

/-! # Notices

What the generator tells the log: everything in the map that it leaves out of the script without
counting it as a row of another kind.
-/

namespace LinkerMap

inductive Notice where
  | noMemoryMap
  | skippedMapRow (row : String)
  | noLayout (segment : String)
  | skippedLayoutRow (segment row : String)
  deriving DecidableEq, Repr

namespace Notice

/-- A map that names no segments is worth a warning. -/
def level : Notice → Log.Level
  | noMemoryMap => .warn
  | _ => .debug

/-- The wording of a notice. Rows are quoted, names of segments stand as they are. -/
def message : Notice → String
  | noMemoryMap => "no `" ++ Sections.memoryMap ++ "` section, segments are left as is"
  | skippedMapRow row => "skip memory map row: " ++ Text.quote row
  | noLayout segment => "no layout for segment `" ++ segment ++ "`"
  | skippedLayoutRow segment row => "skip `" ++ segment ++ "` layout row: " ++ Text.quote row

end Notice

end LinkerMap
