import LinkerMap.Proofs.Text.Lines
import LinkerMap.Script.Routines

/-! # Findings and scripts without a sink

The findings of a map read off its sections, and the lines of the script with given findings. The
routines are held against these in `Rendering`.
-/

namespace LinkerMap

namespace Sections

def mapRows (sections : Sections) : List String :=
  (sections.get? "Memory map:").getD []

def segmentNames (sections : Sections) : List String :=
  (sections.mapRows.filterMap Segment.ofRow?).map Segment.name

def layoutRows (sections : Sections) (segment : String) : List String :=
  (sections.get? (segment ++ " section layout")).getD []

end Sections

namespace Symbol

/-- The symbol that a row of a layout names: the kind of the row is `4`. -/
def named? (row : String) : Option Symbol :=
  (ofRow? row).filter (·.kind == "4")

def isIgnored (row : String) : Bool :=
  (ofRow? row).any (·.kind != "4")

def isSkipped (row : String) : Bool :=
  (ofRow? row).isNone

def statements (symbol : Symbol) : List Statement :=
  .makeNameEx symbol.address symbol.name
      (if symbol.name.toList.head? = some '@' then 0x125 else 0x143) ::
    (symbol.module?.map (.makeComm symbol.address)).toList

theorem statements_eq (symbol : Symbol) : symbol.statements =
    .makeNameEx symbol.address symbol.name symbol.flags ::
      (symbol.module?.map (.makeComm symbol.address)).toList := by
  by_cases h : symbol.name.toList.head? = some '@' <;> simp [statements, flags, isLocal, h] <;>
    rfl

theorem length_filterMap_named? (rows : List String) :
    (rows.filterMap named?).length + rows.countP isSkipped + rows.countP isIgnored =
      rows.length := by
  induction rows with
  | nil => rfl
  | cons row rows ih =>
    cases h : ofRow? row with
    | none => simp [named?, isSkipped, isIgnored, h] at ih ⊢; omega
    | some symbol =>
      by_cases hn : symbol.kind = "4" <;>
        simp [Option.filter_some, named?, isSkipped, isIgnored, h, hn] at ih ⊢ <;>
        omega

end Symbol

namespace SegmentFindings

/-- What the rows of a memory map hold. -/
def ofRows (rows : List String) : SegmentFindings where
  segments := (rows.filterMap Segment.ofRow?).toArray
  skipped := rows.countP fun row => (Segment.ofRow? row).isNone

theorem toList_segments_ofRows (rows : List String) :
    (ofRows rows).segments.toList = rows.filterMap Segment.ofRow? := rfl

def statements (found : SegmentFindings) : List Statement :=
  found.segments.toList.map fun segment => .renameSeg segment.start segment.name

def addRow (found : SegmentFindings) (row : String) : SegmentFindings :=
  match Segment.ofRow? row with
  | some segment => { found with segments := found.segments.push segment }
  | none => { found with skipped := found.skipped + 1 }

theorem foldl_addRow (rows : List String) (found : SegmentFindings) :
    rows.foldl addRow found =
      ⟨found.segments ++ (ofRows rows).segments, found.skipped + (ofRows rows).skipped⟩ := by
  induction rows generalizing found with
  | nil => simp [ofRows]
  | cons row rows ih =>
    rw [List.foldl_cons, ih]
    cases h : Segment.ofRow? row with
    | none => simp [addRow, ofRows, h, Nat.add_assoc, Nat.add_comm 1]
    | some segment => simp [addRow, ofRows, h]

end SegmentFindings

namespace SymbolFindings

/-- What the layouts of segments hold. -/
def ofLayouts (sections : Sections) (segments : List String) : SymbolFindings where
  symbols := (segments.flatMap fun segment =>
    ((sections.layoutRows segment).filterMap Symbol.named?).map (segment, ·)).toArray
  skipped := (segments.flatMap sections.layoutRows).countP Symbol.isSkipped
  ignored := (segments.flatMap sections.layoutRows).countP Symbol.isIgnored
  missing := (segments.filter fun segment =>
    (sections.get? (segment ++ " section layout")).isNone).toArray

theorem toList_symbols_ofLayouts (sections : Sections) (segments : List String) :
    (ofLayouts sections segments).symbols.toList = segments.flatMap fun segment =>
      ((sections.layoutRows segment).filterMap Symbol.named?).map (segment, ·) := rfl

theorem size_add_skipped_add_ignored (sections : Sections) (segments : List String) :
    (ofLayouts sections segments).symbols.size + (ofLayouts sections segments).skipped +
      (ofLayouts sections segments).ignored = (segments.flatMap sections.layoutRows).length := by
  have hrows := Symbol.length_filterMap_named? (segments.flatMap sections.layoutRows)
  rw [List.filterMap_flatMap] at hrows
  simpa [ofLayouts, List.length_flatMap] using hrows

def statements (found : SymbolFindings) : List Statement :=
  found.symbols.toList.flatMap fun entry => entry.2.statements

theorem length_flatMap_statements (entries : List (String × Symbol)) :
    (entries.flatMap fun entry => entry.2.statements).length =
      entries.length + entries.countP fun entry => entry.2.module?.isSome := by
  induction entries with
  | nil => rfl
  | cons entry entries ih =>
    cases hm : entry.2.module? <;> simp [Symbol.statements, hm] at ih ⊢ <;> omega

theorem length_statements (found : SymbolFindings) :
    found.statements.length = found.symbols.size + found.comments := by
  rw [comments, ← Array.countP_toList, ← Array.length_toList]
  exact length_flatMap_statements found.symbols.toList

def addRow (segment : String) (found : SymbolFindings) (row : String) : SymbolFindings :=
  match Symbol.ofRow? row with
  | some symbol =>
    if symbol.isNamed then { found with symbols := found.symbols.push (segment, symbol) }
    else { found with ignored := found.ignored + 1 }
  | none => { found with skipped := found.skipped + 1 }

def addLayout (sections : Sections) (found : SymbolFindings) (segment : String) :
    SymbolFindings :=
  match sections.get? (segment ++ " section layout") with
  | some rows => rows.foldl (addRow segment) found
  | none => { found with missing := found.missing.push segment }

theorem foldl_addRow (segment : String) (rows : List String) (found : SymbolFindings) :
    rows.foldl (addRow segment) found = { found with
      symbols := found.symbols ++ ((rows.filterMap Symbol.named?).map (segment, ·)).toArray
      skipped := found.skipped + rows.countP Symbol.isSkipped
      ignored := found.ignored + rows.countP Symbol.isIgnored } := by
  induction rows generalizing found with
  | nil => simp
  | cons row rows ih =>
    rw [List.foldl_cons, ih]
    cases h : Symbol.ofRow? row with
    | none =>
      simp [addRow, Symbol.named?, Symbol.isSkipped, Symbol.isIgnored, h, Nat.add_assoc,
        Nat.add_comm 1]
    | some symbol =>
      by_cases hn : symbol.kind = "4" <;>
        simp [addRow, Symbol.isNamed, Symbol.namedKind, Option.filter_some, Symbol.named?,
          Symbol.isSkipped, Symbol.isIgnored, h, hn, Nat.add_assoc, Nat.add_comm 1]

theorem foldl_addLayout (sections : Sections) (segments : List String) (found : SymbolFindings) :
    segments.foldl (addLayout sections) found =
      ⟨found.symbols ++ (ofLayouts sections segments).symbols,
        found.skipped + (ofLayouts sections segments).skipped,
        found.ignored + (ofLayouts sections segments).ignored,
        found.missing ++ (ofLayouts sections segments).missing⟩ := by
  induction segments generalizing found with
  | nil => simp [ofLayouts]
  | cons segment segments ih =>
    rw [List.foldl_cons, ih]
    cases h : sections.get? (segment ++ " section layout") with
    | none => simp [addLayout, ofLayouts, Sections.layoutRows, h]
    | some rows =>
      simp [addLayout, foldl_addRow, ofLayouts, Sections.layoutRows, h, Nat.add_assoc]

end SymbolFindings

namespace Findings

/-- What a map holds. -/
def ofSections (sections : Sections) : Findings :=
  let segments := SegmentFindings.ofRows sections.mapRows
  ⟨segments, .ofLayouts sections segments.names.toList⟩

end Findings

theorem Sections.names_ofSections (sections : Sections) :
    (Findings.ofSections sections).segments.names.toList = sections.segmentNames := by
  simp [Findings.ofSections, SegmentFindings.names, SegmentFindings.ofRows, segmentNames]

/-! ### The lines of a script -/

namespace Statement

theorem text_call (routine : String) : (call routine).text = "\t" ++ routine ++ "();" := rfl

theorem text_renameSeg (address : Hex) (name : String) : (renameSeg address name).text =
    "\tRenameSeg(" ++ address.literal ++ ", " ++ argument name ++ ");" := rfl

theorem text_makeNameEx (address : Hex) (name : String) (flags : Nat) :
    (makeNameEx address name flags).text = "\tMakeNameEx(" ++ address.literal ++ ", " ++
      argument name ++ ", 0x" ++ String.ofList (lowerDigits flags) ++ ");" := rfl

theorem text_makeComm (address : Hex) (comment : String) : (makeComm address comment).text =
    "\tMakeComm(" ++ address.literal ++ ", " ++ argument comment ++ ");" := rfl

/-- The line of a statement, with the digits of the map. -/
def line : Statement → String
  | call routine => "\t" ++ routine ++ "();"
  | renameSeg address name => "\tRenameSeg(0x" ++ address.text ++ ", \"" ++ name ++ "\");"
  | makeNameEx address name flags => "\tMakeNameEx(0x" ++ address.text ++ ", \"" ++ name ++
      "\", 0x" ++ String.ofList (Nat.toDigits 16 flags) ++ ");"
  | makeComm address comment => "\tMakeComm(0x" ++ address.text ++ ", \"" ++ comment ++ "\");"

theorem line_eq_text (s : Statement) : s.line = s.text := by
  cases s with
  | call routine => rfl
  | renameSeg address name =>
    change "\tRenameSeg(0x" ++ address.text ++ ", \"" ++ name ++ "\");" = _
    simp [text_renameSeg, Hex.literal, argument, ← String.toList_inj]
  | makeNameEx address name flags =>
    change "\tMakeNameEx(0x" ++ address.text ++ ", \"" ++ name ++ "\", 0x" ++
      String.ofList (lowerDigits flags) ++ ");" = _
    simp [text_makeNameEx, Hex.literal, argument, ← String.toList_inj]
  | makeComm address comment =>
    change "\tMakeComm(0x" ++ address.text ++ ", \"" ++ comment ++ "\");" = _
    simp [text_makeComm, Hex.literal, argument, ← String.toList_inj]

end Statement

namespace Script

def routineLines (name : String) (body : List Statement) : List String :=
  ["static " ++ name ++ "()", "\x7b"] ++ body.map Statement.line ++ ["\x7d"]

def lines (found : Findings) : List String :=
  routineLines "main" [.call "handleSegments", .call "handleFunctions"] ++
    routineLines "handleSegments" found.segments.statements ++
    routineLines "handleFunctions" found.symbols.statements

theorem routineLines_eq (name : String) (body : List Statement) : routineLines name body =
    ["static " ++ name ++ "()", "\x7b"] ++ body.map Statement.text ++ ["\x7d"] := by
  rw [routineLines, funext Statement.line_eq_text]

end Script

end LinkerMap
