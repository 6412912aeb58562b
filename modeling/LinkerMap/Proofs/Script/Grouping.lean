import LinkerMap.Proofs.Script.Listing
import Mathlib.Data.List.Nodup

/-! # Groups of a listing

The symbols of a listing stand in groups, each under a header with the name of a segment. For any
findings the header above a row is that of its symbol. For the findings of a map in which no segment
stands twice there is one group for each segment that has a symbol, in the order of the memory map.
-/

namespace LinkerMap.Listing

variable {segment : String} {current? : Option String} {symbols : List Symbol}

theorem header_injective : Function.Injective header := by
  intro title title' h
  have hdashes : ∀ n, ']' ∉ List.replicate n '-' := fun n hm =>
    absurd (List.eq_of_mem_replicate hm) (by decide)
  have hlists := congrArg (fun s => s.toList.reverse) h
  simp only [header, String.toList_append, String.toList_ofList, List.reverse_append,
    List.append_assoc, List.reverse_replicate] at hlists
  obtain ⟨-, hrest⟩ := append_cons_inj (hdashes _) (hdashes _) hlists
  exact String.toList_inj.mp (List.reverse_inj.mp (List.append_cancel_right hrest))

/-- The rows of a listing, each with the line that is the last header above it. -/
def underHeaders (header? : Option String) : List String → List (Option String × String)
  | [] => []
  | line :: lines =>
    if isRow line then (header?, line) :: underHeaders header? lines
    else underHeaders (some line) lines

/-! ### Lines with a group open -/

def linesFrom (current? : Option String) : List (String × Symbol) → List String
  | [] => []
  | (segment, symbol) :: entries =>
    if current? = some segment then symbolRow symbol :: linesFrom current? entries
    else header segment :: symbolRow symbol :: linesFrom (some segment) entries

theorem toList_lines_foldl_add (entries : List (String × Symbol)) (groups : Groups) :
    (entries.foldl Groups.add groups).lines.toList =
      groups.lines.toList ++ linesFrom groups.current? entries := by
  induction entries generalizing groups with
  | nil => simp [linesFrom]
  | cons entry entries ih =>
    obtain ⟨segment, symbol⟩ := entry
    rw [List.foldl_cons, ih, Groups.add, linesFrom]
    by_cases h : groups.current? = some segment <;> simp [h]

theorem toList_symbolLines (symbols : Array (String × Symbol)) :
    (symbolLines symbols).toList = linesFrom none symbols.toList := by
  rw [symbolLines, ← Array.foldl_toList, toList_lines_foldl_add]
  rfl

/-- Each symbol has one row, and the header above the row is that of its segment. -/
theorem underHeaders_linesFrom (current? : Option String) (entries : List (String × Symbol)) :
    underHeaders (current?.map header) (linesFrom current? entries) =
      entries.map fun entry => (some (header entry.1), symbolRow entry.2) := by
  induction entries generalizing current? with
  | nil => rfl
  | cons entry entries ih =>
    obtain ⟨segment, symbol⟩ := entry
    rw [linesFrom, List.map_cons]
    by_cases h : current? = some segment
    · have hi := ih current?
      rw [if_pos h, underHeaders, if_pos (isRow_symbolRow symbol), hi, h]
      rfl
    · have hi := ih (some segment)
      rw [Option.map_some] at hi
      rw [if_neg h, underHeaders, if_neg (by simp [isRow_header]), underHeaders,
        if_pos (isRow_symbolRow symbol), hi]

theorem exists_row_of_linesFrom {entries : List (String × Symbol)} {before behind : List String}
    {line : String} (h : linesFrom current? entries = before ++ line :: behind)
    (hl : isRow line = false) :
    ∃ entry ∈ entries, line = header entry.1 ∧ ∃ row ∈ behind.head?, isRow row = true := by
  induction entries generalizing current? before with
  | nil => simp [linesFrom] at h
  | cons entry entries ih =>
    obtain ⟨segment, symbol⟩ := entry
    have hrow := isRow_symbolRow symbol
    have hrest : ∀ {current? : Option String} {before : List String},
        symbolRow symbol :: linesFrom current? entries = before ++ line :: behind →
        ∃ entry ∈ entries, line = header entry.1 ∧ ∃ row ∈ behind.head?, isRow row = true := by
      rintro current? (_ | ⟨first, before⟩) he
      · obtain ⟨rfl, -⟩ := List.cons.inj he
        exact absurd hl (by simp [hrow])
      · exact ih (List.cons.inj he).2
    rw [linesFrom] at h
    split at h
    · obtain ⟨entry, he, hline⟩ := hrest h
      exact ⟨entry, List.mem_cons_of_mem _ he, hline⟩
    · rcases before with _ | ⟨first, before⟩
      · obtain ⟨rfl, rfl⟩ := List.cons.inj h
        exact ⟨_, List.mem_cons_self, rfl, _, rfl, hrow⟩
      · obtain ⟨entry, he, hline⟩ := hrest (List.cons.inj h).2
        exact ⟨entry, List.mem_cons_of_mem _ he, hline⟩

/-! ### One group for each segment -/

theorem linesFrom_append_same (segment : String) (symbols : List Symbol)
    (rest : List (String × Symbol)) :
    linesFrom (some segment) (symbols.map (segment, ·) ++ rest) =
      symbols.map symbolRow ++ linesFrom (some segment) rest := by
  induction symbols with
  | nil => rfl
  | cons symbol symbols ih => simp [linesFrom, ih]

theorem linesFrom_append_other (hne : symbols ≠ []) (hc : current? ≠ some segment)
    (rest : List (String × Symbol)) :
    linesFrom current? (symbols.map (segment, ·) ++ rest) =
      header segment :: (symbols.map symbolRow ++ linesFrom (some segment) rest) := by
  obtain ⟨symbol, symbols, rfl⟩ := List.exists_cons_of_ne_nil hne
  rw [List.map_cons, List.cons_append, linesFrom, if_neg hc, linesFrom_append_same, List.map_cons,
    List.cons_append]

/-- When no segment stands twice, the symbols of each segment make one group. -/
theorem linesFrom_flatMap {segments : List String} (named : String → List Symbol)
    (hn : segments.Nodup) (hc : ∀ segment ∈ segments, current? ≠ some segment) :
    linesFrom current? (segments.flatMap fun segment => (named segment).map (segment, ·)) =
      (segments.filter fun segment => named segment ≠ []).flatMap fun segment =>
        header segment :: (named segment).map symbolRow := by
  induction segments generalizing current? with
  | nil => rfl
  | cons segment segments ih =>
    rw [List.nodup_cons] at hn
    rw [List.forall_mem_cons] at hc
    rw [List.flatMap_cons]
    by_cases hne : named segment = []
    · rw [List.filter_cons_of_neg (by simpa using hne), hne]
      exact ih hn.2 hc.2
    · have hother : ∀ other ∈ segments, some segment ≠ some other := by
        rintro _ ho ⟨⟩
        exact hn.1 ho
      rw [List.filter_cons_of_pos (by simpa using hne), linesFrom_append_other hne hc.1,
        ih hn.2 hother, List.flatMap_cons, List.cons_append]

/-! ### The groups of a whole listing -/

def groupLines (found : Findings) : List String :=
  (symbolLines found.symbols.symbols).toList

theorem lines_eq_groupLines (found : Findings) : lines found = header "segments" ::
    (found.segments.segments.toList.map segmentRow ++ groupLines found ++
      found.symbols.missing.toList.map missingRow ++ [rule]) := rfl

theorem header_of_groupLines {found : Findings} {before behind : List String} {line : String}
    (h : groupLines found = before ++ line :: behind) (hl : isRow line = false) :
    ∃ entry ∈ found.symbols.symbols, line = header entry.1 ∧
      ∃ row ∈ behind.head?, isRow row = true := by
  rw [groupLines, toList_symbolLines] at h
  simpa using exists_row_of_linesFrom h hl

theorem exists_of_header_mem {found : Findings} (h : header segment ∈ groupLines found) :
    ∃ symbol, (segment, symbol) ∈ found.symbols.symbols := by
  obtain ⟨before, behind, hl⟩ := List.append_of_mem h
  obtain ⟨⟨other, symbol⟩, he, hheader, -⟩ := header_of_groupLines hl (isRow_header segment)
  obtain rfl := header_injective hheader
  exact ⟨symbol, he⟩

theorem mem_symbols_ofSections_iff {sections : Sections} {symbol : Symbol} :
    (segment, symbol) ∈ (Findings.ofSections sections).symbols.symbols ↔
      segment ∈ (Findings.ofSections sections).segments.names.toList ∧
        symbol ∈ (sections.layoutRows segment).filterMap Symbol.named? := by
  rw [← Array.mem_toList_iff, Findings.ofSections, SymbolFindings.toList_symbols_ofLayouts]
  constructor
  · intro h
    obtain ⟨other, ho, hs⟩ := List.mem_flatMap.mp h
    obtain ⟨_, hs, he⟩ := List.mem_map.mp hs
    cases he
    exact ⟨ho, hs⟩
  · rintro ⟨hsegment, hs⟩
    exact List.mem_flatMap.mpr ⟨segment, hsegment, List.mem_map_of_mem hs⟩

theorem header_not_mem_of_missing {sections : Sections}
    (h : segment ∈ (Findings.ofSections sections).symbols.missing) :
    header segment ∉ groupLines (.ofSections sections) := by
  intro hm
  obtain ⟨symbol, hs⟩ := exists_of_header_mem hm
  have hnone : (sections.get? (segment ++ " section layout")).isNone = true :=
    (List.mem_filter.mp (List.mem_toArray.mp h)).2
  have hrows : sections.layoutRows segment = [] := by
    rw [Sections.layoutRows, Option.isNone_iff_eq_none.mp hnone, Option.getD_none]
  rw [mem_symbols_ofSections_iff, hrows] at hs
  cases hs.2

/-- The segments that have a symbol, in the order of the memory map. -/
def titled (found : Findings) : List String :=
  found.segments.names.toList.filter fun segment => found.symbols.symbols.any (·.1 == segment)

theorem titled_ofSections (sections : Sections) : titled (.ofSections sections) =
    (Findings.ofSections sections).segments.names.toList.filter fun segment =>
      (sections.layoutRows segment).filterMap Symbol.named? ≠ [] := by
  refine List.filter_congr fun segment hs => ?_
  rw [Bool.eq_iff_iff, Array.any_eq_true', decide_eq_true_iff]
  constructor
  · rintro ⟨⟨other, symbol⟩, hsymbol, he⟩
    obtain rfl := beq_iff_eq.mp he
    exact List.ne_nil_of_mem (mem_symbols_ofSections_iff.mp hsymbol).2
  · intro hne
    obtain ⟨symbol, hsymbol⟩ := List.exists_mem_of_ne_nil _ hne
    exact ⟨(segment, symbol), mem_symbols_ofSections_iff.mpr ⟨hs, hsymbol⟩, beq_self_eq_true _⟩

theorem headers_groupLines {sections : Sections}
    (hn : (Findings.ofSections sections).segments.names.toList.Nodup) :
    (groupLines (.ofSections sections)).filter (!isRow ·) =
      (titled (.ofSections sections)).map header := by
  have hgroup : ∀ segment : String, ∀ symbols : List Symbol,
      (header segment :: symbols.map symbolRow).filter (!isRow ·) = [header segment] := by
    simp [isRow_header, isRow_symbolRow]
  have hgroups : groupLines (.ofSections sections) = _ :=
    (toList_symbolLines _).trans (linesFrom_flatMap _ hn fun _ _ => nofun)
  rw [hgroups, titled_ofSections, List.filter_flatMap, List.map_eq_flatMap]
  simp only [hgroup]
  rfl

/-- The listing of any findings has one row for each symbol, in their order. The last header above a
row is that of the segment of its symbol, and behind each header stands a row. In the listing of any
map a segment without a layout has no header. If no segment stands twice in the memory map, each
that has a symbol has one header, and these stand in the order of the memory map. -/
theorem lines_grouped :
    Function.Injective header ∧
    (∀ found : Findings,
      lines found = header "segments" :: (found.segments.segments.toList.map segmentRow ++
        groupLines found ++ found.symbols.missing.toList.map missingRow ++ [rule]) ∧
      (groupLines found).filter isRow = found.symbols.symbols.toList.map (symbolRow ·.2) ∧
      underHeaders none (groupLines found) = found.symbols.symbols.toList.map
        (fun entry => (some (header entry.1), symbolRow entry.2)) ∧
      ∀ before line behind, groupLines found = before ++ line :: behind → isRow line = false →
        ∃ entry ∈ found.symbols.symbols, line = header entry.1 ∧
          ∃ row ∈ behind.head?, isRow row = true) ∧
    ∀ sections : Sections, ∃ found,
      (∃ out, Script.ofSections sections (.empty none) = .ok found out) ∧
      (∀ out found' out', Script.ofSections sections out = .ok found' out' → found' = found) ∧
      (∀ segment ∈ found.symbols.missing, header segment ∉ groupLines found) ∧
      (found.segments.names.toList.Nodup →
        (groupLines found).filter (!isRow ·) = (titled found).map header ∧
        ∀ segment symbol, (segment, symbol) ∈ found.symbols.symbols →
          (groupLines found).count (header segment) = 1) := by
  refine ⟨header_injective, fun found => ⟨lines_eq_groupLines found, ?_, ?_,
    fun _ _ _ => header_of_groupLines⟩, fun sections => ?_⟩
  · rw [groupLines, filter_isRow_symbolLines, List.map_map]
    rfl
  · rw [groupLines, toList_symbolLines]
    exact underHeaders_linesFrom none _
  · obtain ⟨notices, h⟩ := Script.ofSections_unlimited sections
    refine ⟨_, ⟨_, h⟩, fun out found' out' h' => (Script.performs_ofSections _).eq_of_ok h',
      fun segment => header_not_mem_of_missing, fun hn => ?_⟩
    have hheaders := headers_groupLines hn
    refine ⟨hheaders, fun segment symbol hs => ?_⟩
    have hmem : segment ∈ titled (.ofSections sections) :=
      List.mem_filter.mpr ⟨(mem_symbols_ofSections_iff.mp hs).1,
        Array.any_eq_true'.mpr ⟨_, hs, beq_self_eq_true segment⟩⟩
    rw [← List.count_filter (p := (!isRow ·)) (by simp [isRow_header]), hheaders]
    exact List.count_eq_one_of_mem ((hn.filter _).map header_injective) (List.mem_map_of_mem hmem)

/-- Of two segments the second has a layout, with two symbols in it. -/
theorem lines_grouped_oneMissing :
    let sections := Sections.ofLines ["Memory map:", "  .a 1 2 3", "  .b 4 5 6",
      ".b section layout", "  1 2 3 4 f", "  4 5 6 4 @7"]
    ∃ found, (∃ out, Script.ofSections sections (.empty none) = .ok found out) ∧
      found.segments.names.toList.Nodup ∧ ".a" ∈ found.symbols.missing ∧
      header ".a" ∉ groupLines found ∧
      (groupLines found).filter (!isRow ·) = [header ".b"] ∧
      (groupLines found).count (header ".b") = 1 := by
  intro sections
  obtain ⟨found, hran, hunique, hmissing, hgroups⟩ := lines_grouped.2.2 sections
  obtain ⟨notices, h⟩ := Script.ofSections_unlimited sections
  obtain rfl := hunique _ _ _ h
  have hn : (Findings.ofSections sections).segments.names.toList.Nodup := by decide +kernel
  have ha : ".a" ∈ (Findings.ofSections sections).symbols.missing := by decide +kernel
  have hb : (".b", ⟨⟨"1"⟩, ⟨"2"⟩, ⟨"3"⟩, "4", "f", none⟩) ∈
      (Findings.ofSections sections).symbols.symbols := by decide +kernel
  have htitled : titled (.ofSections sections) = [".b"] := by decide +kernel
  obtain ⟨hheaders, hcount⟩ := hgroups hn
  rw [htitled] at hheaders
  exact ⟨_, hran, hn, ha, hmissing _ ha, hheaders, hcount _ _ hb⟩

end LinkerMap.Listing
