import LinkerMap.Proofs.Row.Naming
import LinkerMap.Proofs.Script.Rendering

/-! # Names in scripts

A script enters an empty name exactly for the rows that are read without a name.
-/

namespace LinkerMap

/-- The name that a statement enters. -/
def Statement.name? : Statement → Option String
  | renameSeg _ name => some name
  | makeNameEx _ name _ => some name
  | call _ | makeComm _ _ => none

def HasNameless (statements : List Statement) : Prop :=
  ∃ s ∈ statements, s.name? = some ""

theorem hasNameless_append_iff {ss ts : List Statement} :
    HasNameless (ss ++ ts) ↔ HasNameless ss ∨ HasNameless ts := by
  simp only [HasNameless, List.mem_append, or_and_right, exists_or]

namespace Symbol

theorem hasNameless_statements_iff (symbol : Symbol) :
    HasNameless symbol.statements ↔ symbol.name = "" := by
  cases h : symbol.module? <;> simp [HasNameless, statements, Statement.name?, h]

theorem exists_named?_name_eq_empty_iff (row : String) :
    (∃ symbol, named? row = some symbol ∧ symbol.name = "") ↔
      (named? row).isSome = true ∧ endsAtKind row = true := by
  rw [← exists_name_eq_empty_iff, Option.isSome_iff_exists]
  constructor
  · rintro ⟨symbol, h, hn⟩
    exact ⟨⟨symbol, h⟩, symbol, (Option.filter_eq_some_iff.mp h).1, hn⟩
  · rintro ⟨⟨symbol, h⟩, other, ho, hn⟩
    obtain rfl : symbol = other :=
      Option.some.inj ((Option.filter_eq_some_iff.mp h).1.symm.trans ho)
    exact ⟨symbol, h, hn⟩

end Symbol

theorem SegmentFindings.hasNameless_ofRows_iff (rows : List String) :
    HasNameless (ofRows rows).statements ↔
      ∃ row ∈ rows, Segment.beginsAtStart row = true := by
  simp only [HasNameless, statements, toList_segments_ofRows, ← Segment.exists_name_eq_empty_iff]
  constructor
  · rintro ⟨s, hs, hn⟩
    obtain ⟨segment, hsegment, rfl⟩ := List.mem_map.mp hs
    obtain ⟨row, hrow, h⟩ := List.mem_filterMap.mp hsegment
    exact ⟨row, hrow, segment, h, Option.some.inj hn⟩
  · rintro ⟨row, hrow, segment, h, hn⟩
    exact ⟨_, List.mem_map_of_mem (List.mem_filterMap.mpr ⟨row, hrow, h⟩), congrArg some hn⟩

theorem SymbolFindings.hasNameless_ofLayouts_iff (sections : Sections) (segments : List String) :
    HasNameless (ofLayouts sections segments).statements ↔
      ∃ segment ∈ segments, ∃ row ∈ sections.layoutRows segment,
        (Symbol.named? row).isSome = true ∧ Symbol.endsAtKind row = true := by
  simp only [← Symbol.exists_named?_name_eq_empty_iff]
  constructor
  · rintro ⟨s, hs, hn⟩
    obtain ⟨entry, hentry, hs⟩ := List.mem_flatMap.mp hs
    rw [toList_symbols_ofLayouts] at hentry
    obtain ⟨segment, hsegment, hentry⟩ := List.mem_flatMap.mp hentry
    obtain ⟨symbol, hsymbol, rfl⟩ := List.mem_map.mp hentry
    obtain ⟨row, hrow, h⟩ := List.mem_filterMap.mp hsymbol
    exact ⟨segment, hsegment, row, hrow, symbol, h,
      symbol.hasNameless_statements_iff.mp ⟨s, hs, hn⟩⟩
  · rintro ⟨segment, hsegment, row, hrow, symbol, h, hn⟩
    obtain ⟨s, hs, hn⟩ := symbol.hasNameless_statements_iff.mpr hn
    refine ⟨s, List.mem_flatMap.mpr ⟨(segment, symbol), ?_, hs⟩, hn⟩
    rw [toList_symbols_ofLayouts]
    exact List.mem_flatMap.mpr ⟨segment, hsegment,
      List.mem_map_of_mem (List.mem_filterMap.mpr ⟨row, hrow, h⟩)⟩

namespace Script

/-- No symbol without a name is read exactly when something other than blanks stands behind the
kind, and no segment without a name when something other stands in front of the start. A script
enters no empty name exactly when this holds of the rows of the memory map, and of those rows of
layouts that name a symbol. -/
theorem named_iff (row : String) (sections : Sections) :
    ((∀ symbol, Symbol.ofRow? row = some symbol → symbol.name ≠ "") ↔
      Symbol.endsAtKind row = false) ∧
    ((∀ segment, Segment.ofRow? row = some segment → segment.name ≠ "") ↔
      Segment.beginsAtStart row = false) ∧
    ∃ found out, ofSections sections (.empty none) = .ok found out ∧
      out.sink.written = (Text.unlines (lines found)).toUTF8 ∧
      ((∀ s ∈ found.segments.statements ++ found.symbols.statements, s.name? ≠ some "") ↔
        (∀ row ∈ sections.mapRows, Segment.beginsAtStart row = false) ∧
        ∀ segment ∈ found.segments.names.toList, ∀ row ∈ sections.layoutRows segment,
          (Symbol.named? row).isSome = true → Symbol.endsAtKind row = false) := by
  refine ⟨?_, ?_, ?_⟩
  · rw [← Bool.not_eq_true, ← Symbol.exists_name_eq_empty_iff, not_exists]
    exact forall_congr' fun _ => not_and.symm
  · rw [← Bool.not_eq_true, ← Segment.exists_name_eq_empty_iff, not_exists]
    exact forall_congr' fun _ => not_and.symm
  · obtain ⟨notices, h⟩ := ofSections_unlimited sections
    refine ⟨_, _, h, rfl, ?_⟩
    have hsegments : HasNameless (Findings.ofSections sections).segments.statements ↔ _ :=
      SegmentFindings.hasNameless_ofRows_iff sections.mapRows
    have hsymbols : HasNameless (Findings.ofSections sections).symbols.statements ↔ _ :=
      SymbolFindings.hasNameless_ofLayouts_iff sections
        (Findings.ofSections sections).segments.names.toList
    have hnameless := hasNameless_append_iff.trans (or_congr hsegments hsymbols)
    simpa [HasNameless] using not_congr hnameless

/-- Rows with a tab in place of a name are read, and the script enters empty names for them. -/
theorem nameless_tab :
    Symbol.ofRow? " 1 2 3 4 \t" = some ⟨⟨"1"⟩, ⟨"2"⟩, ⟨"3"⟩, "4", "", none⟩ ∧
    Segment.ofRow? " \t 1 2 3" = some ⟨"", ⟨"1"⟩, ⟨"2"⟩, ⟨"3"⟩⟩ ∧
    ∃ found notices, ofSections (.ofLines ["Memory map:", " .text 1 2 3 ", " \t 1 2 3",
        ".text section layout", " 1 2 3 4 \t"]) (.empty none) =
          .ok found ⟨⟨(Text.unlines (lines found)).toUTF8, none⟩, notices⟩ ∧
      lines found = [
        "static main()", "\x7b", "\thandleSegments();", "\thandleFunctions();", "\x7d",
        "static handleSegments()", "\x7b", "\tRenameSeg(0x1, \".text\");",
        "\tRenameSeg(0x1, \"\");", "\x7d",
        "static handleFunctions()", "\x7b", "\tMakeNameEx(0x3, \"\", 0x143);", "\x7d"] := by
  refine ⟨by decide, by decide, ?_⟩
  obtain ⟨notices, h⟩ := ofSections_unlimited (.ofLines ["Memory map:", " .text 1 2 3 ",
    " \t 1 2 3", ".text section layout", " 1 2 3 4 \t"])
  exact ⟨_, notices, h, by decide +kernel⟩

end Script

end LinkerMap
