import LinkerMap.Listing
import LinkerMap.Proofs.Hex.Digits
import LinkerMap.Proofs.Script.Determination

/-! # Listings and scripts

A script has the digits of the map, a listing has digits of its own. Row by row the listing tells
the same as the statements of the script, in the same order: the digits denote the same numbers, and
names, flags and modules are the same.
-/

namespace LinkerMap

def Statement.isMakeNameEx : Statement → Bool
  | makeNameEx .. => true
  | _ => false

namespace Row

theorem IsRun.exists_denotes {digits : List Char} (h : IsRun hex digits) :
    ∃ n, Hex.Denotes digits n := by
  refine Hex.exists_denotes h.1 fun c hc => ?_
  have hd := h.2 c hc
  simp only [hex, Bool.or_eq_true, Bool.and_eq_true, decide_eq_true_eq] at hd
  unfold Hex.digit?
  rcases hd with hd | hd
  · rw [if_pos hd, Option.isSome_some]
  · split <;> rfl

end Row

namespace Listing

open Hex Row

variable {start extent field : Hex} {n : Nat} {text : String} {rows : List String}
  {statements : List Statement} {extents : List Hex}

/-- A row with a text behind two columns. The digits in the columns denote the numbers of two
fields, whatever their number and their zeros are. -/
inductive Shows (start extent : Hex) (text : String) : String → Prop
  | columns {address size : List Char} {gap n m : Nat}
      (shownAddress : Denotes address n) (writtenAddress : Denotes start.text.toList n)
      (shownSize : Denotes size m) (writtenSize : Denotes extent.text.toList m) :
      Shows start extent text ("[" ++ String.ofList address ++ "] " ++
        String.ofList (List.replicate gap ' ' ++ size) ++ " | " ++ text)

theorem exists_denotes_address (h : Denotes field.text.toList n) :
    ∃ digits, address field = String.ofList digits ∧ Denotes digits n := by
  by_cases hn : n < UInt64.size
  · rw [address, value?_of_denotes h, if_pos hn]
    exact ⟨_, rfl, (denotes_upperDigits n).leftpad 8⟩
  · rw [address, value?_of_denotes h, if_neg hn]
    exact ⟨_, String.ofList_toList.symm, h⟩

theorem exists_denotes_size (h : Denotes field.text.toList n) : ∃ gap digits,
    size field = String.ofList (List.replicate gap ' ' ++ digits) ∧ Denotes digits n := by
  by_cases hn : n < UInt64.size
  · rw [size, value?_of_denotes h, if_pos hn]
    exact ⟨_, _, rfl, denotes_upperDigits n⟩
  · rw [size, value?_of_denotes h, if_neg hn]
    exact ⟨_, _, rfl, h⟩

theorem shows_columns (hs : IsRun hex start.text.toList) (he : IsRun hex extent.text.toList)
    (text : String) : Shows start extent text (columns start extent ++ text) := by
  obtain ⟨n, hn⟩ := hs.exists_denotes
  obtain ⟨m, hm⟩ := he.exists_denotes
  obtain ⟨digits, haddress, hd⟩ := exists_denotes_address hn
  obtain ⟨gap, digits', hsize, hd'⟩ := exists_denotes_size hm
  rw [columns, haddress, hsize]
  exact .columns hd hn hd' hm

example : columns ⟨"0000000080003100"⟩ ⟨"100000000000000000"⟩ =
    "[80003100] 100000000000000000 | " := by decide

/-- Rows that tell what statements tell about segments, and show these extents. -/
inductive TellSegments : List String → List Statement → List Hex → Prop
  | nil : TellSegments [] [] []
  | renamed {row name : String} {address extent : Hex} {rows : List String}
      {statements : List Statement} {extents : List Hex} :
      Shows address extent ("\x1b[36m" ++ name ++ "\x1b[39m") row →
      TellSegments rows statements extents →
      TellSegments (row :: rows) (.renameSeg address name :: statements) (extent :: extents)

/-- What a row shows of a symbol: its flags and its name. Local names are yellow. -/
def nameText (name : String) (flags : Nat) : String :=
  "0x" ++ String.ofList (lowerDigits flags) ++ " " ++
    if name.toList.head? = some '@' then "\x1b[33m" ++ name ++ "\x1b[39m"
    else "\x1b[32m" ++ name ++ "\x1b[39m"

/-- Rows that tell what statements tell about symbols, and show these extents. A row ends with a
module exactly when a comment follows the name in the script. -/
inductive TellSymbols : List String → List Statement → List Hex → Prop
  | nil : TellSymbols [] [] []
  | named {row name : String} {address extent : Hex} {flags : Nat} {rows : List String}
      {statements : List Statement} {extents : List Hex} :
      Shows address extent (nameText name flags) row → TellSymbols rows statements extents →
      TellSymbols (row :: rows) (.makeNameEx address name flags :: statements) (extent :: extents)
  | commented {row name origin : String} {address extent : Hex} {flags : Nat} {rows : List String}
      {statements : List Statement} {extents : List Hex} :
      Shows address extent (nameText name flags ++ " ;" ++ origin) row →
      TellSymbols rows statements extents →
      TellSymbols (row :: rows)
        (.makeNameEx address name flags :: .makeComm address origin :: statements)
        (extent :: extents)

theorem TellSegments.length_eq (h : TellSegments rows statements extents) :
    rows.length = statements.length := by
  induction h with
  | nil => rfl
  | renamed _ _ ih => rw [List.length_cons, List.length_cons, ih]

theorem TellSymbols.length_eq (h : TellSymbols rows statements extents) :
    rows.length = statements.countP Statement.isMakeNameEx := by
  induction h with
  | nil => rfl
  | named _ _ ih => rw [List.length_cons, List.countP_cons_of_pos rfl, ih]
  | commented _ _ ih =>
    rw [List.length_cons, List.countP_cons_of_pos rfl, List.countP_cons_of_neg Bool.false_ne_true,
      ih]

theorem tellSegments_map {segments : List Segment}
    (h : ∀ segment ∈ segments, IsRun hex segment.start.text.toList ∧
      IsRun hex segment.size.text.toList) :
    TellSegments (segments.map segmentRow)
      (segments.map fun segment => .renameSeg segment.start segment.name)
      (segments.map Segment.size) := by
  induction segments with
  | nil => exact .nil
  | cons segment segments ih =>
    rw [List.forall_mem_cons] at h
    exact .renamed (shows_columns h.1.1 h.1.2 _) (ih h.2)

theorem nameText_eq (symbol : Symbol) : nameText symbol.name symbol.flags =
    "0x" ++ String.ofList ((lowerDigits symbol.flags).leftpad 3 '0') ++ " " ++
      if symbol.isLocal then Terminal.yellow symbol.name else Terminal.green symbol.name := by
  have hpad : (lowerDigits symbol.flags).leftpad 3 '0' = lowerDigits symbol.flags := by
    rw [Symbol.lowerDigits_flags]
    split <;> rfl
  simp only [nameText, hpad, Symbol.isLocal, beq_iff_eq]
  rfl

theorem symbolRow_of_none {symbol : Symbol} (h : symbol.module? = none) : symbolRow symbol =
    columns symbol.address symbol.size ++ nameText symbol.name symbol.flags := by
  simp only [symbolRow, h, nameText_eq, String.append_assoc, String.append_empty]

theorem symbolRow_of_some {symbol : Symbol} {origin : String} (h : symbol.module? = some origin) :
    symbolRow symbol = columns symbol.address symbol.size ++
      (nameText symbol.name symbol.flags ++ " ;" ++ origin) := by
  simp only [symbolRow, h, nameText_eq, String.append_assoc]

theorem tellSymbols_map {symbols : List Symbol}
    (h : ∀ symbol ∈ symbols, IsRun hex symbol.address.text.toList ∧
      IsRun hex symbol.size.text.toList) :
    TellSymbols (symbols.map symbolRow) (symbols.flatMap Symbol.statements)
      (symbols.map Symbol.size) := by
  induction symbols with
  | nil => exact .nil
  | cons symbol symbols ih =>
    rw [List.forall_mem_cons] at h
    rw [List.map_cons, List.flatMap_cons, List.map_cons, Symbol.statements_eq]
    cases hm : symbol.module? with
    | none =>
      rw [symbolRow_of_none hm]
      exact .named (shows_columns h.1.1 h.1.2 _) (ih h.2)
    | some origin =>
      rw [symbolRow_of_some hm]
      exact .commented (shows_columns h.1.1 h.1.2 _) (ih h.2)

/-! ### Lines that are rows -/

/-- Rows begin with a bracket, and no other line of a listing does. -/
def isRow (line : String) : Bool :=
  line.toList.head? == some '['

theorem isRow_symbolRow (symbol : Symbol) : isRow (symbolRow symbol) = true := by
  simp [isRow, symbolRow, columns]

theorem isRow_header (title : String) : isRow (header title) = false := by
  simp [isRow, header, indent, List.replicate_succ]

theorem isRow_missingRow (segment : String) : isRow (missingRow segment) = false := by
  simp [isRow, missingRow, indent, List.replicate_succ]

theorem isRow_rule : isRow rule = false := by decide

theorem filter_isRow_add (groups : Groups) (entry : String × Symbol) :
    (groups.add entry).lines.toList.filter isRow =
      groups.lines.toList.filter isRow ++ [symbolRow entry.2] := by
  obtain ⟨segment, symbol⟩ := entry
  rw [Groups.add]
  split <;> simp [isRow_symbolRow, isRow_header]

theorem filter_isRow_foldl_add (entries : List (String × Symbol)) (groups : Groups) :
    (entries.foldl Groups.add groups).lines.toList.filter isRow =
      groups.lines.toList.filter isRow ++ entries.map (symbolRow ·.2) := by
  induction entries generalizing groups with
  | nil => simp
  | cons entry entries ih =>
    rw [List.foldl_cons, ih, filter_isRow_add, List.append_assoc, List.singleton_append,
      List.map_cons]

/-- Whatever headers stand between them, there is one row for each symbol. -/
theorem filter_isRow_symbolLines (symbols : Array (String × Symbol)) :
    (symbolLines symbols).toList.filter isRow = (symbols.toList.map Prod.snd).map symbolRow := by
  rw [symbolLines, ← Array.foldl_toList, filter_isRow_foldl_add, List.map_map]
  rfl

def linesBelow (found : SymbolFindings) : List String :=
  (symbolLines found.symbols).toList ++ found.missing.toList.map missingRow ++ [rule]

theorem lines_eq (found : Findings) : lines found = header "segments" ::
    (found.segments.segments.toList.map segmentRow ++ linesBelow found.symbols) := by
  simp [lines, linesBelow]

theorem filter_isRow_linesBelow (found : SymbolFindings) :
    (linesBelow found).filter isRow = (found.symbols.toList.map Prod.snd).map symbolRow := by
  have hmissing : (found.missing.toList.map missingRow).filter isRow = [] := by
    simp [isRow_missingRow]
  have hrule : [rule].filter isRow = [] := by simp [isRow_rule]
  rw [linesBelow, List.filter_append, List.filter_append, filter_isRow_symbolLines, hmissing,
    hrule, List.append_nil, List.append_nil]

/-! ### The whole listing -/

theorem map_snd_ofLayouts (sections : Sections) (segments : List String) :
    (SymbolFindings.ofLayouts sections segments).symbols.toList.map Prod.snd =
      (segments.flatMap sections.layoutRows).filterMap Symbol.named? := by
  rw [SymbolFindings.toList_symbols_ofLayouts, List.map_flatMap, List.filterMap_flatMap]
  simp

theorem statements_eq_flatMap (found : SymbolFindings) :
    found.statements = (found.symbols.toList.map Prod.snd).flatMap Symbol.statements := by
  rw [SymbolFindings.statements, List.flatMap_map]

/-- The listing of any map has a row for each segment that the script renames, and below these one
for each symbol that it names. Each tells what the statement tells, and shows the size that is
written in its row of the map. -/
theorem lines_tell_script (sections : Sections) : ∃ found out segmentRows below,
    Script.ofSections sections (.empty none) = .ok found out ∧
    out.sink.written = (Text.unlines (Script.lines found)).toUTF8 ∧
    lines found = header "segments" :: (segmentRows ++ below) ∧
    TellSegments segmentRows found.segments.statements
      ((sections.mapRows.filterMap Segment.ofRow?).map Segment.size) ∧
    TellSymbols (below.filter isRow) found.symbols.statements
      (((found.segments.names.toList.flatMap sections.layoutRows).filterMap Symbol.named?).map
        Symbol.size) ∧
    segmentRows.length = found.segments.statements.length ∧
    (below.filter isRow).length = found.symbols.statements.countP Statement.isMakeNameEx := by
  obtain ⟨notices, h⟩ := Script.ofSections_unlimited sections
  have hsegments : TellSegments
      ((sections.mapRows.filterMap Segment.ofRow?).map segmentRow)
      (Findings.ofSections sections).segments.statements
      ((sections.mapRows.filterMap Segment.ofRow?).map Segment.size) := by
    refine tellSegments_map fun segment hs => ?_
    obtain ⟨row, -, hr⟩ := List.mem_filterMap.mp hs
    exact ⟨Segment.isRun_start hr, Segment.isRun_size hr⟩
  have hsymbols : TellSymbols
      ((linesBelow (Findings.ofSections sections).symbols).filter isRow)
      (Findings.ofSections sections).symbols.statements
      ((((Findings.ofSections sections).segments.names.toList.flatMap
        sections.layoutRows).filterMap Symbol.named?).map Symbol.size) := by
    rw [filter_isRow_linesBelow, statements_eq_flatMap, Findings.ofSections, map_snd_ofLayouts]
    refine tellSymbols_map fun symbol hs => ?_
    obtain ⟨row, -, hr⟩ := List.mem_filterMap.mp hs
    have hrow := (Option.filter_eq_some_iff.mp hr).1
    exact ⟨Symbol.isRun_address hrow, Symbol.isRun_size hrow⟩
  exact ⟨_, _, _, _, h, rfl, lines_eq _, hsegments, hsymbols, hsegments.length_eq,
    hsymbols.length_eq⟩

end Listing

end LinkerMap
