/-! # Lines

A text as the list of its lines. A line ends at a line feed, with or without a carriage return in
front of it; the last line may lack its end.
-/

namespace LinkerMap.Text

section Cut

variable {α : Type} [DecidableEq α]

def dropEnd (last : α) (xs : List α) : List α :=
  if xs.getLast? = some last then xs.dropLast else xs

/-- Cuts at each `feed`, and drops one `ret` in front of it. What follows the last `feed` is a piece
unless it is empty, and keeps its `ret`. -/
def cutLines (feed ret : α) (xs : List α) : List (List α) :=
  let pieces := xs.splitOn feed
  let last := pieces.getLast (List.splitOn_ne_nil feed xs)
  pieces.dropLast.map (dropEnd ret) ++ if last.isEmpty then [] else [last]

end Cut

def linesOfList (cs : List Char) : List (List Char) :=
  cutLines '\n' '\r' cs

def lines (s : String) : List String :=
  (linesOfList s.toList).map String.ofList

/-- The text of lines that each end in a line feed. -/
def unlines (ls : List String) : String :=
  String.join (ls.map (· ++ "\n"))

end LinkerMap.Text
