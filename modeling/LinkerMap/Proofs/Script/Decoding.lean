import LinkerMap.Proofs.Script.Rendering
import LinkerMap.Proofs.Sections.Document

/-! # The script of a document

The segments of a document are found in the order of its memory map, and the symbols in the order
of the segments, wherever their layouts stand.
-/

namespace LinkerMap

namespace Symbol

variable {symbol : Symbol}

theorem named?_row (h : symbol.IsWritable) (gaps : Nat → Nat) :
    named? (symbol.row gaps) = Option.guard (·.kind == "4") symbol := by
  rw [named?, ofRow?_row h, Option.filter_some, Option.guard]

theorem isIgnored_row (h : symbol.IsWritable) (gaps : Nat → Nat) :
    isIgnored (symbol.row gaps) = (symbol.kind != "4") := by
  rw [isIgnored, ofRow?_row h, Option.any_some]

theorem isSkipped_row (h : symbol.IsWritable) (gaps : Nat → Nat) :
    isSkipped (symbol.row gaps) = false := by
  rw [isSkipped, ofRow?_row h, Option.isNone_some]

end Symbol

namespace Entry

variable {entry : Entry}

theorem ofRow?_row (h : entry.IsWritable) : Segment.ofRow? entry.row = some entry.segment := by
  rw [row, Segment.ofRow?_row h.segment]

theorem filterMap_named?_rows (h : entry.IsWritable) :
    entry.rows.filterMap Symbol.named? = entry.symbols.filter (·.kind == "4") := by
  rw [rows, symbols, ← List.filterMap_eq_filter, List.filterMap_map, List.filterMap_map]
  refine List.filterMap_congr fun line hl => ?_
  rw [Function.comp_apply, Function.comp_apply, Symbol.named?_row (h.layout line hl)]

theorem countP_isIgnored_rows (h : entry.IsWritable) :
    entry.rows.countP Symbol.isIgnored = entry.symbols.countP (·.kind != "4") := by
  rw [rows, symbols, List.countP_map, List.countP_map]
  refine List.countP_congr fun line hl => ?_
  rw [Function.comp_apply, Function.comp_apply, Symbol.isIgnored_row (h.layout line hl)]

theorem not_isSkipped_of_mem_rows {row : String} (h : entry.IsWritable) (hr : row ∈ entry.rows) :
    ¬ Symbol.isSkipped row = true := by
  obtain ⟨line, hl, rfl⟩ := List.mem_map.mp hr
  rw [Symbol.isSkipped_row (h.layout line hl)]
  decide

end Entry

namespace Document

variable {document : Document} {entry : Entry}

def segmentFindings (document : Document) : SegmentFindings where
  segments := (document.entries.map Entry.segment).toArray
  skipped := 0

/-- The symbols of kind `4` in the order of the memory map, how many symbols are of another kind,
and the names of the segments without a layout. -/
def symbolFindings (document : Document) : SymbolFindings where
  symbols := (document.entries.flatMap fun entry =>
    (entry.symbols.filter (·.kind == "4")).map (entry.segment.name, ·)).toArray
  skipped := 0
  ignored := (document.entries.flatMap Entry.symbols).countP (·.kind != "4")
  missing := ((document.entries.filter (·.layout.isEmpty)).map (·.segment.name)).toArray

def findings (document : Document) : Findings :=
  ⟨document.segmentFindings, document.symbolFindings⟩

theorem layoutRows_sections (h : document.WellFormed) (he : entry ∈ document.entries) :
    document.sections.layoutRows entry.segment.name = entry.rows := by
  rw [Sections.layoutRows, ← Sections.layoutTitle, get?_layoutTitle h he]
  split
  · rename_i hl
    rw [Entry.rows, hl]
    rfl
  · rfl

theorem isNone_get?_layoutTitle (h : document.WellFormed) (he : entry ∈ document.entries) :
    (document.sections.get? (Sections.layoutTitle entry.segment.name)).isNone =
      entry.layout.isEmpty := by
  rw [get?_layoutTitle h he]
  split <;> simp_all

theorem ofRows_mapRows (h : document.WellFormed) :
    SegmentFindings.ofRows document.sections.mapRows = document.segmentFindings := by
  have hr : ∀ entry ∈ document.entries,
      (Segment.ofRow? ∘ Entry.row) entry = (some ∘ Entry.segment) entry := by
    intro entry he
    rw [Function.comp_apply, Function.comp_apply, Entry.ofRow?_row (h.entries entry he)]
  rw [mapRows_sections h, SegmentFindings.ofRows, segmentFindings, List.filterMap_map,
    List.countP_map]
  congr 1
  · rw [List.filterMap_congr hr, List.filterMap_eq_map]
  · rw [List.countP_eq_zero]
    intro entry he
    rw [Function.comp_apply, Entry.ofRow?_row (h.entries entry he), Option.isNone_some]
    decide

theorem ofLayouts_names (h : document.WellFormed) :
    SymbolFindings.ofLayouts document.sections document.segmentFindings.names.toList =
      document.symbolFindings := by
  have hn : document.segmentFindings.names.toList = document.entries.map (·.segment.name) := by
    simp [SegmentFindings.names, segmentFindings]
  have hl : ∀ entry ∈ document.entries,
      document.sections.layoutRows entry.segment.name = entry.rows :=
    fun entry he => layoutRows_sections h he
  rw [hn, SymbolFindings.ofLayouts, symbolFindings, List.flatMap_map, List.flatMap_map,
    List.flatMap_congr hl]
  congr 1
  · refine congrArg List.toArray (List.flatMap_congr fun entry he => ?_)
    rw [hl entry he, Entry.filterMap_named?_rows (h.entries entry he)]
  · rw [List.countP_eq_zero]
    intro row hr
    obtain ⟨entry, he, hm⟩ := List.mem_flatMap.mp hr
    exact Entry.not_isSkipped_of_mem_rows (h.entries entry he) hm
  · rw [List.countP_flatMap, List.countP_flatMap]
    refine congrArg List.sum (List.map_congr_left fun entry he => ?_)
    exact Entry.countP_isIgnored_rows (h.entries entry he)
  · rw [List.filter_map]
    congr 2
    exact List.filter_congr fun entry he => isNone_get?_layoutTitle h he

/-- The script of the text of a document is always written, and it is made from what the document
holds, in whatever order the layouts stand. -/
theorem ofSections_text (h : document.WellFormed) : ∃ notices,
    Script.ofSections (.ofText document.text) (.empty none) = .ok document.findings
      ⟨⟨(Text.unlines (Script.lines document.findings)).toUTF8, none⟩, notices⟩ := by
  have hf : Findings.ofSections document.sections = document.findings := by
    rw [Findings.ofSections, ofRows_mapRows h, ofLayouts_names h]
    rfl
  rw [ofText_text h, ← hf]
  exact Script.ofSections_unlimited document.sections

def twoLayouts : Document :=
  let init : Entry := {
    segment := ⟨".init", ⟨"80003100"⟩, ⟨"2470"⟩, ⟨"100"⟩⟩
    gaps := fun _ => 0
    lead := 0
    layout := [((fun _ => 1), ⟨⟨"0"⟩, ⟨"24"⟩, ⟨"80003100"⟩, "1", ".init", none⟩),
      ((fun _ => 1), ⟨⟨"0"⟩, ⟨"24"⟩, ⟨"80003100"⟩, "4", "__start", some "init.o"⟩)] }
  let text : Entry := {
    segment := ⟨".text", ⟨"800060e0"⟩, ⟨"330c78"⟩, ⟨"3040"⟩⟩
    gaps := fun _ => 0
    lead := 1
    layout := [((fun _ => 0), ⟨⟨"0"⟩, ⟨"10"⟩, ⟨"800060e0"⟩, "4", "main", none⟩)] }
  let bss : Entry := {
    segment := ⟨".bss", ⟨"803f7c00"⟩, ⟨"1234"⟩, ⟨"0"⟩⟩
    gaps := fun _ => 0
    lead := 0
    layout := [] }
  { entries := [init, text, bss], lead := 1, layouts := [text, init], ended := true }

theorem ofSections_text_twoLayouts :
    twoLayouts.lines = [
      "Memory map:", "", " .init 80003100 2470 100", " .text 800060e0 330c78 3040",
      " .bss 803f7c00 1234 0", "",
      ".text section layout", "", " 0 10 800060e0 4 main", "",
      ".init section layout", "  0  24  80003100  1  .init",
      "  0  24  80003100  4  __start  init.o"] ∧
    Script.lines twoLayouts.findings = [
      "static main()", "\x7b", "\thandleSegments();", "\thandleFunctions();", "\x7d",
      "static handleSegments()", "\x7b", "\tRenameSeg(0x80003100, \".init\");",
      "\tRenameSeg(0x800060e0, \".text\");", "\tRenameSeg(0x803f7c00, \".bss\");", "\x7d",
      "static handleFunctions()", "\x7b", "\tMakeNameEx(0x80003100, \"__start\", 0x143);",
      "\tMakeComm(0x80003100, \"init.o\");", "\tMakeNameEx(0x800060e0, \"main\", 0x143);",
      "\x7d"] ∧
    ∃ notices, Script.ofSections (.ofText twoLayouts.text) (.empty none) =
      .ok twoLayouts.findings
        ⟨⟨(Text.unlines (Script.lines twoLayouts.findings)).toUTF8, none⟩, notices⟩ := by
  have h : twoLayouts.WellFormed := ⟨by decide, by decide, .swap _ _ _⟩
  exact ⟨by decide, by decide, ofSections_text h⟩

end Document

end LinkerMap
