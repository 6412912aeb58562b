import LinkerMap.Regex.Fault
import LinkerMap.Text.Lines

/-! # Reports on faults

A fault is reported under the pattern that holds it, its place marked by carets. The lines of a
pattern of several lines are numbered, and a place that runs over several of them is told in words.
-/

namespace LinkerMap.Regex

/-- A place in a text, by line and column, both from zero on. -/
structure Place where
  line : Nat
  column : Nat
  deriving DecidableEq, Repr

def Place.ofOffset (pattern : List Char) (offset : Nat) : Place :=
  let before := pattern.take offset
  ⟨before.count '\n', (before.reverse.takeWhile (· != '\n')).length⟩

def Span.places (pattern : List Char) (span : Span) : Place × Place :=
  (.ofOffset pattern span.start, .ofOffset pattern span.stop)

/-- Carets below the columns of spans, one at least for each, behind what is marked already. -/
def carets (marked : Nat) : List (Nat × Nat) → List Char
  | [] => []
  | (start, stop) :: spans =>
    let width := max 1 (stop - start)
    List.replicate (start - marked) ' ' ++ List.replicate width '^' ++
      carets (max marked start + width) spans

/-- Lines of a pattern, each followed by the carets below it. The label of a line stands before it,
and blanks as wide before the carets. -/
def marked (label : Nat → List Char) (spans : List (Place × Place)) (lines : List (List Char)) :
    List (List Char) :=
  lines.zipIdx.flatMap fun (line, i) =>
    let here := spans.filter fun (start, stop) => start.line == i && stop.line == i
    let columns := here.map fun (start, stop) => (start.column, stop.column)
    (label i ++ line) ::
      if here.isEmpty then []
      else [List.replicate (label i).length ' ' ++ carets 0 columns]

/-- How many lines have a number: a line feed at the end begins one more. -/
def lineCount (pattern : List Char) : Nat :=
  (Text.linesOfList pattern).length + if pattern.getLast? = some '\n' then 1 else 0

def lineLabel (count i : Nat) : List Char :=
  (toString (i + 1)).toList.leftpad (toString count).length ' ' ++ [':', ' ']

def overLines (start stop : Place) : String :=
  "on line " ++ toString (start.line + 1) ++ " (column " ++ toString (start.column + 1) ++
    ") through line " ++ toString (stop.line + 1) ++ " (column " ++ toString stop.column ++ ")"

def shownLines (pattern : List Char) (spans : List (Place × Place)) : List String :=
  let lines := Text.linesOfList pattern
  if pattern.contains '\n' then
    let border := String.ofList (List.replicate 79 '~')
    let numbered := marked (lineLabel (lineCount pattern)) spans lines
    border :: numbered.map String.ofList ++ [border] ++
      (spans.filter fun (start, stop) => start.line != stop.line).map
        fun (start, stop) => overLines start stop
  else (marked (fun _ => List.replicate 4 ' ') spans lines).map String.ofList

def report (pattern : List Char) (fault : Fault) : String :=
  let spans := fault.spans.map (·.places pattern)
  "\n".intercalate <|
    ["regex parse error:"] ++ shownLines pattern spans ++ ["error: " ++ fault.defect.message]

end LinkerMap.Regex
