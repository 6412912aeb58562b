import LinkerMap.Script.Findings
import LinkerMap.Terminal.Style

/-! # Listing

The findings as a table: the segments that are renamed, the symbols that are named, in groups by
their segment, and the segments without a layout.
-/

namespace LinkerMap.Listing

def indent : Nat := 19

/-- A line of dashes with a cross at the end of the first column. -/
def rule : String :=
  String.ofList (List.replicate indent '-' ++ '+' :: List.replicate 53 '-')

def header (title : String) : String :=
  String.ofList (List.replicate indent '-') ++ "+------[" ++ title ++ "]" ++
    String.ofList (List.replicate (45 - title.utf8ByteSize) '-')

/-- An address in eight digits, filled up with zeros. Digits without a value are shown as they are
written. -/
def address (hex : Hex) : String :=
  match hex.value? with
  | some value => String.ofList ((upperDigits value).leftpad 8 '0')
  | none => hex.text

def size (hex : Hex) : String :=
  match hex.value? with
  | some value => String.ofList ((upperDigits value).leftpad 8 ' ')
  | none => String.ofList (hex.text.toList.leftpad 8 ' ')

/-- The address and the size in front of a row. -/
def columns (start extent : Hex) : String :=
  "[" ++ address start ++ "] " ++ size extent ++ " | "

def segmentRow (segment : Segment) : String :=
  columns segment.start segment.size ++ Terminal.cyan segment.name

def symbolRow (symbol : Symbol) : String :=
  let name := if symbol.isLocal then Terminal.yellow symbol.name else Terminal.green symbol.name
  let origin := match symbol.module? with
    | some origin => " ;" ++ origin
    | none => ""
  columns symbol.address symbol.size ++ "0x" ++
    String.ofList ((lowerDigits symbol.flags).leftpad 3 '0') ++ " " ++ name ++ origin

/-- The row of a segment without a layout. -/
def missingRow (segment : String) : String :=
  String.ofList (List.replicate indent ' ') ++ "| " ++ Terminal.strong "no layout" ++ ": " ++
    segment

/-- The lines so far, and the segment of the group that is open. -/
structure Groups where
  lines : Array String
  current? : Option String

/-- Adds the row of a symbol, under a new header if its segment is not that of the row before. -/
def Groups.add (groups : Groups) : String × Symbol → Groups
  | (segment, symbol) =>
    let lines :=
      if groups.current? = some segment then groups.lines
      else groups.lines.push (header segment)
    ⟨lines.push (symbolRow symbol), some segment⟩

def symbolLines (symbols : Array (String × Symbol)) : Array String :=
  (symbols.foldl Groups.add ⟨#[], none⟩).lines

def lines (found : Findings) : List String :=
  header "segments" :: found.segments.segments.toList.map segmentRow ++
    (symbolLines found.symbols.symbols).toList ++
    found.symbols.missing.toList.map missingRow ++ [rule]

end LinkerMap.Listing
