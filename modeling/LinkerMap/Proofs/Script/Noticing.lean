import LinkerMap.Log.Filter
import LinkerMap.Proofs.Script.Determination
import LinkerMap.Proofs.Text.Quoted

/-! # What a script leaves out

A script leaves one notice for each row that describes nothing and for each segment without a
layout, in the order in which they are met, or a warning that there is no memory map. What a notice
says takes one line: rows are quoted, and no name of a segment in a text holds a line feed.
-/

namespace LinkerMap

open Effect

/-! ### The notices of effects -/

namespace Effect

theorem noted_append (es fs : List Effect) : noted (es ++ fs) = noted es ++ noted fs := by
  induction es with
  | nil => rfl
  | cons e es ih => cases e <;> simp [noted, ih]

theorem noted_flatMap {α : Type} (effects : α → List Effect) (as : List α) :
    noted (as.flatMap effects) = as.flatMap fun a => noted (effects a) := by
  induction as with
  | nil => rfl
  | cons a as ih => rw [List.flatMap_cons, List.flatMap_cons, noted_append, ih]

theorem noted_lineEffects (body : List Statement) : noted (body.map Script.lineEffect) = [] := by
  induction body with
  | nil => rfl
  | cons s body ih => exact ih

end Effect

namespace Sections

variable {sections : Sections} {segment row : String}

/-- What is left out of the memory map: the rows that describe no segment, or else all of it, if
there is none. -/
def mapNotices (sections : Sections) : List Notice :=
  match sections.get? memoryMap with
  | some rows => (rows.filter fun row => (Segment.ofRow? row).isNone).map .skippedMapRow
  | none => [.noMemoryMap]

/-- What is left out of the layout of a segment: the rows that describe no symbol, or else all of
it, if there is none. -/
def layoutNotices (sections : Sections) (segment : String) : List Notice :=
  match sections.get? (layoutTitle segment) with
  | some rows => (rows.filter Symbol.isSkipped).map (.skippedLayoutRow segment)
  | none => [.noLayout segment]

def notices (sections : Sections) : List Notice :=
  sections.mapNotices ++ sections.segmentNames.flatMap sections.layoutNotices

end Sections

namespace Script

variable {sections : Sections}

theorem noted_mapEffects (sections : Sections) :
    noted (mapEffects sections) = sections.mapNotices := by
  unfold mapEffects Sections.mapNotices
  cases sections.get? Sections.memoryMap with
  | none => rfl
  | some rows =>
    induction rows with
    | nil => rfl
    | cons row rows ih =>
      simp only [List.flatMap_cons, noted_append, ih]
      cases h : Segment.ofRow? row <;> simp [mapRowEffects, h, noted, lineEffect]

theorem noted_layoutEffects (sections : Sections) (segment : String) :
    noted (layoutEffects sections segment) = sections.layoutNotices segment := by
  unfold layoutEffects Sections.layoutNotices
  cases sections.get? (Sections.layoutTitle segment) with
  | none => rfl
  | some rows =>
    induction rows with
    | nil => rfl
    | cons row rows ih =>
      simp only [List.flatMap_cons, noted_append, ih]
      cases h : Symbol.ofRow? row with
      | none => simp [layoutRowEffects, h, noted, Symbol.isSkipped]
      | some symbol =>
        cases hn : symbol.isNamed <;>
          simp [layoutRowEffects, h, hn, noted, noted_lineEffects, Symbol.isSkipped]

theorem noted_routineEffects (name : String) (es : List Effect) :
    noted (routineEffects name es) = noted es := by
  simp [routineEffects, openEffects, closeEffects, noted, noted_append]

theorem noted_effects (sections : Sections) : noted (effects sections) = sections.notices := by
  simp only [effects, noted_append, noted_routineEffects, noted_lineEffects, noted_mapEffects,
    noted_flatMap, noted_layoutEffects, Sections.names_ofSections, List.nil_append,
    Sections.notices]

end Script

/-! ### How many notices there are -/

namespace Sections

variable {sections : Sections} {segment row : String}

theorem length_mapNotices (sections : Sections) : sections.mapNotices.length =
    (SegmentFindings.ofRows sections.mapRows).skipped +
      if (sections.get? "Memory map:").isNone then 1 else 0 := by
  unfold mapNotices mapRows memoryMap
  cases sections.get? "Memory map:" with
  | none => rfl
  | some rows => simp [SegmentFindings.ofRows, List.countP_eq_length_filter]

theorem length_layoutNotices (sections : Sections) (segment : String) :
    (sections.layoutNotices segment).length =
      (sections.layoutRows segment).countP Symbol.isSkipped +
        if (sections.get? (segment ++ " section layout")).isNone then 1 else 0 := by
  unfold layoutNotices layoutRows layoutTitle
  cases sections.get? (segment ++ " section layout") with
  | none => rfl
  | some rows => simp [List.countP_eq_length_filter]

theorem length_flatMap_layoutNotices (sections : Sections) (segments : List String) :
    (segments.flatMap sections.layoutNotices).length =
      (SymbolFindings.ofLayouts sections segments).skipped +
        (SymbolFindings.ofLayouts sections segments).missing.size := by
  induction segments with
  | nil => rfl
  | cons segment segments ih =>
    rw [List.flatMap_cons, List.length_append, ih, length_layoutNotices]
    by_cases h : (sections.get? (segment ++ " section layout")).isNone <;>
      simp [SymbolFindings.ofLayouts, h] <;> omega

/-- There is a notice for each row that is skipped and for each layout that is missing, and one if
there is no memory map. -/
theorem length_notices (sections : Sections) : sections.notices.length =
    (Findings.ofSections sections).segments.skipped +
      (Findings.ofSections sections).symbols.skipped +
      (Findings.ofSections sections).symbols.missing.size +
      if (sections.get? "Memory map:").isNone then 1 else 0 := by
  rw [notices, List.length_append, length_mapNotices, length_flatMap_layoutNotices,
    ← names_ofSections]
  simp only [Findings.ofSections]
  omega

theorem skippedLayoutRow_not_mem_notices (h : Symbol.isIgnored row = true) :
    .skippedLayoutRow segment row ∉ sections.notices := by
  have hskipped : Symbol.isSkipped row = false := by
    unfold Symbol.isIgnored at h
    unfold Symbol.isSkipped
    cases hr : Symbol.ofRow? row <;> simp_all
  intro hm
  rcases List.mem_append.mp hm with hm | hm
  · unfold mapNotices at hm
    split at hm <;> simp at hm
  · obtain ⟨other, -, hm⟩ := List.mem_flatMap.mp hm
    unfold layoutNotices at hm
    split at hm <;> simp [hskipped] at hm

end Sections

/-! ### What a notice says -/

namespace Text

variable {c : Char}

theorem isShown_of_isGraphic (h : isGraphic c = true) : Terminal.isShown c = true := by
  simp only [isGraphic] at h
  rw [Terminal.isShown, Bool.or_eq_true_iff]
  right
  split at h
  · simp only [decide_eq_true_eq] at h
    simp only [Bool.and_eq_true, decide_eq_true_eq, bne_iff_ne]
    omega
  · simp only [Bool.and_eq_true, bne_iff_ne] at h
    simp only [Bool.and_eq_true, decide_eq_true_eq, bne_iff_ne]
    omega

end Text

namespace Notice

/-- The segment whose name a notice tells as it stands. -/
def segment? : Notice → Option String
  | noMemoryMap | skippedMapRow _ => none
  | noLayout segment | skippedLayoutRow segment _ => some segment

def record (notice : Notice) : String :=
  Log.record notice.level notice.message

def line (notice : Notice) : String :=
  "[" ++ String.ofList (notice.level.name.toList.rightpad 5 ' ') ++ "] " ++ notice.message

theorem record_eq_plain (notice : Notice) : notice.record = Terminal.plain (notice.line ++ "\n") :=
  rfl

theorem line_noMemoryMap :
    noMemoryMap.line = "[WARN ] no `Memory map:` section, segments are left as is" := by decide

theorem line_of_debug {notice : Notice} (h : notice.level = .debug) :
    notice.line = "[DEBUG] " ++ notice.message := by
  have hlevel : "[" ++ String.ofList (Log.Level.debug.name.toList.rightpad 5 ' ') ++ "] " =
      "[DEBUG] " := by decide
  rw [line, h, hlevel]

theorem line_skippedMapRow (row : String) :
    (skippedMapRow row).line = "[DEBUG] skip memory map row: " ++ Text.quote row := by
  have hm : (skippedMapRow row).message = "skip memory map row: " ++ Text.quote row := rfl
  rw [line_of_debug rfl, hm, ← String.toList_inj]
  simp

theorem line_noLayout (segment : String) :
    (noLayout segment).line = "[DEBUG] no layout for segment `" ++ segment ++ "`" := by
  have hm : (noLayout segment).message = "no layout for segment `" ++ segment ++ "`" := rfl
  rw [line_of_debug rfl, hm, ← String.toList_inj]
  simp

theorem line_skippedLayoutRow (segment row : String) : (skippedLayoutRow segment row).line =
    "[DEBUG] skip `" ++ segment ++ "` layout row: " ++ Text.quote row := by
  have hm : (skippedLayoutRow segment row).message =
      "skip `" ++ segment ++ "` layout row: " ++ Text.quote row := rfl
  rw [line_of_debug rfl, hm, ← String.toList_inj]
  simp

/-- A notice about a row of a layout can be told from its line, since names hold no space. -/
theorem eq_of_line_eq {notice : Notice} {segment row : String}
    (h : notice.line = (skippedLayoutRow segment row).line)
    (hnotice : ∀ other ∈ notice.segment?, ' ' ∉ other.toList) (hsegment : ' ' ∉ segment.toList) :
    notice = skippedLayoutRow segment row := by
  rw [line_skippedLayoutRow, ← String.toList_inj] at h
  cases notice with
  | noMemoryMap => simp [line_noMemoryMap] at h
  | skippedMapRow other => simp [line_skippedMapRow] at h
  | noLayout other => simp [line_noLayout] at h
  | skippedLayoutRow other row' =>
    have hother := hnotice other rfl
    have hcut : ∀ name quoted : String,
        ("[DEBUG] skip `" ++ name ++ "` layout row: " ++ quoted).toList = "[DEBUG] skip `".toList ++
          ((name.toList ++ ['`']) ++ ' ' :: ("layout row: ".toList ++ quoted.toList)) := by
      simp
    rw [line_skippedLayoutRow, hcut, hcut] at h
    obtain ⟨hname, hrest⟩ := append_cons_inj (by simp [hother]) (by simp [hsegment])
      (List.append_cancel_left h)
    obtain rfl := String.toList_inj.mp (List.append_cancel_right hname)
    obtain rfl := Text.quote_inj.mp (String.toList_inj.mp (List.append_cancel_left hrest))
    rfl

section

variable {P : Char → Prop} (hgraphic : ∀ c, Text.isGraphic c = true → P c)
include hgraphic

theorem forall_mem_of_all {s : String} (h : s.toList.all Text.isGraphic = true) :
    ∀ c ∈ s.toList, P c :=
  fun c hc => hgraphic c (List.all_eq_true.mp h c hc)

theorem forall_mem_quote (row : String) : ∀ c ∈ (Text.quote row).toList, P c :=
  fun c hc => hgraphic c (Text.isGraphic_of_mem_quote row c hc)

theorem forall_mem_line (notice : Notice)
    (hsegment : ∀ segment ∈ notice.segment?, ∀ c ∈ segment.toList, P c) :
    ∀ c ∈ notice.line.toList, P c := by
  have htext {s : String} := forall_mem_of_all hgraphic (s := s)
  cases notice with
  | noMemoryMap =>
    rw [line_noMemoryMap]
    exact htext (by decide)
  | skippedMapRow row =>
    rw [line_skippedMapRow, String.toList_append, List.forall_mem_append]
    exact ⟨htext (by decide), forall_mem_quote hgraphic row⟩
  | noLayout segment =>
    rw [line_noLayout, String.toList_append, String.toList_append, List.forall_mem_append,
      List.forall_mem_append]
    exact ⟨⟨htext (by decide), hsegment segment rfl⟩, htext (by decide)⟩
  | skippedLayoutRow segment row =>
    rw [line_skippedLayoutRow, String.toList_append, String.toList_append, String.toList_append,
      List.forall_mem_append, List.forall_mem_append, List.forall_mem_append]
    exact ⟨⟨⟨htext (by decide), hsegment segment rfl⟩, htext (by decide)⟩,
      forall_mem_quote hgraphic row⟩

end

theorem record_eq_line (notice : Notice) (h : ∀ segment ∈ notice.segment?,
    ∀ c ∈ segment.toList, Terminal.isShown c = true) : notice.record = notice.line ++ "\n" := by
  have hend : ∀ c ∈ "\n".toList, Terminal.isShown c = true := List.all_eq_true.mp (by decide)
  rw [record_eq_plain]
  refine Terminal.plain_of_all_isShown ?_
  rw [String.toList_append]
  exact List.forall_mem_append.mpr
    ⟨forall_mem_line (fun _ => Text.isShown_of_isGraphic) notice h, hend⟩

theorem lf_not_mem_line (notice : Notice)
    (h : ∀ segment ∈ notice.segment?, '\n' ∉ segment.toList) : '\n' ∉ notice.line.toList := by
  have hgraphic : ∀ c, Text.isGraphic c = true → c ≠ '\n' := by
    rintro c hc rfl
    exact absurd hc (by decide)
  have hall := forall_mem_line hgraphic notice fun segment hs c hc he => h segment hs (he ▸ hc)
  exact fun hm => hall _ hm rfl

end Notice

/-! ### Names of segments in notices -/

namespace Sections

variable {sections : Sections} {segment row line text : String} {notice : Notice}

theorem mem_names_of_mem_notices (h : notice ∈ sections.notices)
    (hs : segment ∈ notice.segment?) :
    segment ∈ sections.segmentNames := by
  rcases List.mem_append.mp h with hm | hm
  · unfold mapNotices at hm
    split at hm
    · obtain ⟨row, -, rfl⟩ := List.mem_map.mp hm
      cases hs
    · obtain rfl := List.mem_singleton.mp hm
      cases hs
  · obtain ⟨other, ho, hm⟩ := List.mem_flatMap.mp hm
    unfold layoutNotices at hm
    split at hm
    · obtain ⟨row, -, rfl⟩ := List.mem_map.mp hm
      cases hs
      exact ho
    · obtain rfl := List.mem_singleton.mp hm
      cases hs
      exact ho

theorem space_not_mem_of_mem_segmentNames (h : segment ∈ sections.segmentNames) :
    ' ' ∉ segment.toList := by
  obtain ⟨found, hfound, rfl⟩ := List.mem_map.mp h
  obtain ⟨row, -, hrow⟩ := List.mem_filterMap.mp hfound
  exact Segment.space_not_mem_name hrow

/-! ### The log -/

/-- What the log tells of the memory map: its rows that describe no segment, or a warning. -/
def mapLog (sections : Sections) : List String :=
  match sections.get? "Memory map:" with
  | some rows => (rows.filter fun row => (Segment.ofRow? row).isNone).map fun row =>
      "[DEBUG] skip memory map row: " ++ Text.quote row
  | none => ["[WARN ] no `Memory map:` section, segments are left as is"]

/-- What the log tells of the layout of a segment: its rows that describe no symbol, or that there
is none. -/
def layoutLog (sections : Sections) (segment : String) : List String :=
  match sections.get? (segment ++ " section layout") with
  | some rows => (rows.filter fun row => (Symbol.ofRow? row).isNone).map fun row =>
      "[DEBUG] skip `" ++ segment ++ "` layout row: " ++ Text.quote row
  | none => ["[DEBUG] no layout for segment `" ++ segment ++ "`"]

/-- The lines of a log, layout by layout in the order of the memory map. -/
def log (sections : Sections) : List String :=
  sections.mapLog ++ sections.segmentNames.flatMap sections.layoutLog

theorem map_line_mapNotices (sections : Sections) :
    sections.mapNotices.map Notice.line = sections.mapLog := by
  unfold mapNotices mapLog memoryMap
  cases sections.get? "Memory map:" with
  | none => rw [List.map_singleton, Notice.line_noMemoryMap]
  | some rows =>
    rw [List.map_map]
    exact List.map_congr_left fun row _ => Notice.line_skippedMapRow row

theorem map_line_layoutNotices (sections : Sections) (segment : String) :
    (sections.layoutNotices segment).map Notice.line = sections.layoutLog segment := by
  unfold layoutNotices layoutLog layoutTitle
  cases sections.get? (segment ++ " section layout") with
  | none => rw [List.map_singleton, Notice.line_noLayout]
  | some rows =>
    rw [List.map_map]
    exact List.map_congr_left fun row _ => Notice.line_skippedLayoutRow segment row

theorem map_line_notices (sections : Sections) :
    sections.notices.map Notice.line = sections.log := by
  simp only [notices, log, List.map_append, List.map_flatMap, map_line_mapNotices,
    map_line_layoutNotices]

theorem length_log (sections : Sections) : sections.log.length = sections.notices.length := by
  rw [← map_line_notices, List.length_map]

theorem map_record_notices (sections : Sections) : sections.notices.map Notice.record =
    sections.log.map fun line => Terminal.plain (line ++ "\n") := by
  rw [← map_line_notices, List.map_map]
  exact List.map_congr_left fun notice _ => notice.record_eq_plain

theorem plain_of_mem_log (h : ∀ segment ∈ sections.segmentNames,
    ∀ c ∈ segment.toList, Terminal.isShown c = true) :
    ∀ line ∈ sections.log, Terminal.plain (line ++ "\n") = line ++ "\n" := by
  rw [← map_line_notices, List.forall_mem_map]
  exact fun notice hn => notice.record_eq_line fun segment hs =>
    h segment (mem_names_of_mem_notices hn hs)

theorem line_not_mem_log (hs : segment ∈ sections.segmentNames)
    (h : Symbol.isIgnored row = true) :
    "[DEBUG] skip `" ++ segment ++ "` layout row: " ++ Text.quote row ∉ sections.log := by
  rw [← Notice.line_skippedLayoutRow, ← map_line_notices]
  intro hm
  obtain ⟨notice, hnotice, hline⟩ := List.mem_map.mp hm
  obtain rfl := Notice.eq_of_line_eq hline
    (fun other ho => space_not_mem_of_mem_segmentNames (mem_names_of_mem_notices hnotice ho))
    (space_not_mem_of_mem_segmentNames hs)
  exact skippedLayoutRow_not_mem_notices h hnotice

theorem lf_not_mem_of_mem_log (h : line ∈ (ofText text).log) : '\n' ∉ line.toList := by
  rw [← map_line_notices] at h
  obtain ⟨notice, hnotice, rfl⟩ := List.mem_map.mp h
  have hlegible := Script.isLegible_ofText text
  generalize ofText text = sections at hnotice hlegible
  refine notice.lf_not_mem_line fun name hs => ?_
  obtain ⟨segment, hsegment, rfl⟩ := List.mem_map.mp (mem_names_of_mem_notices hnotice hs)
  exact (hlegible.segments segment hsegment).name

end Sections

end LinkerMap
