import LinkerMap.Proofs.Script.Effects
import LinkerMap.Proofs.Script.Reference

/-! # The routines against their reference

Each routine performs a list of effects that is read off the sections, row by row. The text of
these effects is the script with the findings that the routine returns.
-/

namespace LinkerMap.Script

open Effect Emission

variable {sections : Sections} {row segment name : String}

def lineEffect (s : Statement) : Effect := .text (s.text ++ "\n")

def openEffects (name : String) : List Effect :=
  [.text ("static " ++ name ++ "()\n"), .text "\x7b\n"]

def closeEffects : List Effect := [.text "\x7d\n"]

def mapRowEffects (row : String) : List Effect :=
  match Segment.ofRow? row with
  | some segment => [lineEffect (.renameSeg segment.start segment.name)]
  | none => [.notice (.skippedMapRow row)]

def mapEffects (sections : Sections) : List Effect :=
  match sections.get? Sections.memoryMap with
  | some rows => rows.flatMap mapRowEffects
  | none => [.notice .noMemoryMap]

def layoutRowEffects (segment row : String) : List Effect :=
  match Symbol.ofRow? row with
  | some symbol => if symbol.isNamed then symbol.statements.map lineEffect else []
  | none => [.notice (.skippedLayoutRow segment row)]

def layoutEffects (sections : Sections) (segment : String) : List Effect :=
  match sections.get? (Sections.layoutTitle segment) with
  | some rows => rows.flatMap (layoutRowEffects segment)
  | none => [.notice (.noLayout segment)]

def routineEffects (name : String) (body : List Effect) : List Effect :=
  openEffects name ++ (body ++ closeEffects)

def effects (sections : Sections) : List Effect :=
  routineEffects entryName
      ([.call segmentRoutineName, .call symbolRoutineName].map lineEffect) ++
    (routineEffects segmentRoutineName (mapEffects sections) ++
      routineEffects symbolRoutineName
        ((Findings.ofSections sections).segments.names.toList.flatMap (layoutEffects sections)))

/-! ### What the routines perform -/

theorem performs_statement (s : Statement) : Performs (statement s) [lineEffect s] () :=
  performs_write _

theorem performs_openRoutine (name : String) :
    Performs (openRoutine name) (openEffects name) () :=
  (performs_write _).bind (performs_write _)

theorem performs_closeRoutine : Performs closeRoutine closeEffects () :=
  performs_write _

theorem performs_renameRow (found : SegmentFindings) (row : String) :
    Performs (renameRow found row) (mapRowEffects row) (found.addRow row) := by
  unfold renameRow mapRowEffects SegmentFindings.addRow
  cases Segment.ofRow? row with
  | some segment => exact (performs_statement _).bind_pure fun _ => _
  | none => exact (performs_note _).bind_pure fun _ => _

theorem performs_renameSegments (sections : Sections) :
    Performs (renameSegments sections) (mapEffects sections) (.ofRows sections.mapRows) := by
  unfold renameSegments mapEffects Sections.mapRows Sections.memoryMap
  cases sections.get? "Memory map:" with
  | some rows =>
    have h := Performs.foldlM performs_renameRow rows {}
    rw [SegmentFindings.foldl_addRow] at h
    simpa using h
  | none => exact (performs_note _).bind_pure fun _ => _

theorem performs_nameSymbol (symbol : Symbol) :
    Performs (nameSymbol symbol) (symbol.statements.map lineEffect) () := by
  rw [nameSymbol, Symbol.statements_eq]
  cases symbol.module? with
  | some origin => exact (performs_statement _).bind (performs_statement _)
  | none => exact (performs_statement _).bind (.pure ())

theorem performs_nameRow (segment : String) (found : SymbolFindings) (row : String) :
    Performs (nameRow segment found row) (layoutRowEffects segment row)
      (found.addRow segment row) := by
  unfold nameRow layoutRowEffects SymbolFindings.addRow
  cases Symbol.ofRow? row with
  | some symbol =>
    cases hn : symbol.isNamed with
    | true =>
      simp only [hn, if_true]
      exact (performs_nameSymbol symbol).bind_pure fun _ => _
    | false =>
      simp only [hn, Bool.false_eq_true, if_false]
      exact .pure _
  | none => exact (performs_note _).bind_pure fun _ => _

theorem performs_nameLayout (sections : Sections) (found : SymbolFindings) (segment : String) :
    Performs (nameLayout sections found segment) (layoutEffects sections segment)
      (found.addLayout sections segment) := by
  unfold nameLayout layoutEffects SymbolFindings.addLayout Sections.layoutTitle
  cases sections.get? (segment ++ " section layout") with
  | some rows => exact .foldlM (performs_nameRow segment) rows found
  | none => exact (performs_note _).bind_pure fun _ => _

theorem performs_segmentRoutine (sections : Sections) :
    Performs (segmentRoutine sections)
      (routineEffects segmentRoutineName (mapEffects sections)) (.ofRows sections.mapRows) := by
  unfold segmentRoutine
  refine (performs_openRoutine _).bind ((performs_renameSegments sections).bind ?_)
  exact performs_closeRoutine.bind_pure fun _ => _

theorem performs_symbolRoutine (sections : Sections) (segments : SegmentFindings) :
    Performs (symbolRoutine sections segments)
      (routineEffects symbolRoutineName (segments.names.toList.flatMap (layoutEffects sections)))
      (.ofLayouts sections segments.names.toList) := by
  have h := Performs.foldlM (performs_nameLayout sections) segments.names.toList {}
  rw [SymbolFindings.foldl_addLayout] at h
  simp only [Array.empty_append, Nat.zero_add] at h
  unfold symbolRoutine
  refine (performs_openRoutine _).bind (h.bind ?_)
  exact performs_closeRoutine.bind_pure fun _ => _

theorem performs_routine (name : String) (body : List Statement) :
    Performs (routine name body) (routineEffects name (body.map lineEffect)) () := by
  have h := Performs.forM performs_statement body
  rw [← List.map_eq_flatMap] at h
  exact (performs_openRoutine name).bind (h.bind performs_closeRoutine)

theorem performs_ofSections (sections : Sections) :
    Performs (ofSections sections) (effects sections) (.ofSections sections) := by
  unfold ofSections effects
  refine (performs_routine _ _).bind ((performs_segmentRoutine sections).bind ?_)
  exact (performs_symbolRoutine sections _).bind_pure fun _ => _

/-! ### What the routines write -/

@[simp] theorem written_lineEffects (body : List Statement) :
    written (body.map lineEffect) = Text.unlines (body.map Statement.text) := by
  induction body with
  | nil => rfl
  | cons s body ih =>
    rw [List.map_cons, List.map_cons, Text.unlines_cons, ← ih]
    rfl

theorem written_flatMap_mapRowEffects (rows : List String) :
    written (rows.flatMap mapRowEffects) =
      Text.unlines ((SegmentFindings.ofRows rows).statements.map Statement.text) := by
  induction rows with
  | nil => rfl
  | cons row rows ih =>
    rw [List.flatMap_cons, written_append, ih]
    cases h : Segment.ofRow? row with
    | none => simp [mapRowEffects, h, written, SegmentFindings.ofRows, SegmentFindings.statements]
    | some segment =>
      simp [mapRowEffects, h, written, lineEffect, SegmentFindings.ofRows,
        SegmentFindings.statements, Text.unlines_cons]

theorem written_mapEffects (sections : Sections) :
    written (mapEffects sections) =
      Text.unlines ((SegmentFindings.ofRows sections.mapRows).statements.map Statement.text) := by
  rw [← written_flatMap_mapRowEffects, mapEffects, Sections.memoryMap, Sections.mapRows]
  cases sections.get? "Memory map:" <;> rfl

theorem written_flatMap_layoutRowEffects (segment : String) (rows : List String) :
    written (rows.flatMap (layoutRowEffects segment)) =
      Text.unlines (((rows.filterMap Symbol.named?).flatMap Symbol.statements).map
        Statement.text) := by
  induction rows with
  | nil => rfl
  | cons row rows ih =>
    rw [List.flatMap_cons, written_append, ih]
    cases h : Symbol.ofRow? row with
    | none => simp [layoutRowEffects, h, written, Symbol.named?]
    | some symbol =>
      by_cases hn : symbol.kind = "4" <;>
        simp [layoutRowEffects, h, hn, written, Symbol.isNamed, Symbol.namedKind, Symbol.named?,
          Option.filter_some, Text.unlines_append]

theorem written_flatMap_layoutEffects (sections : Sections) (segments : List String) :
    written (segments.flatMap (layoutEffects sections)) =
      Text.unlines ((SymbolFindings.ofLayouts sections segments).statements.map
        Statement.text) := by
  induction segments with
  | nil => rfl
  | cons segment segments ih =>
    rw [List.flatMap_cons, written_append, ih]
    cases h : sections.get? (segment ++ " section layout") with
    | none =>
      simp [layoutEffects, Sections.layoutTitle, h, written, SymbolFindings.ofLayouts,
        SymbolFindings.statements, Sections.layoutRows]
    | some rows =>
      simp [layoutEffects, Sections.layoutTitle, h, written_flatMap_layoutRowEffects,
        SymbolFindings.ofLayouts, SymbolFindings.statements, Sections.layoutRows,
        Text.unlines_append, List.flatMap_map]

theorem written_routineEffects {name : String} {es : List Effect} {body : List Statement}
    (h : written es = Text.unlines (body.map Statement.text)) :
    written (routineEffects name es) = Text.unlines (routineLines name body) := by
  simp [routineEffects, openEffects, closeEffects, written, h, routineLines_eq, Text.unlines_cons,
    Text.unlines_append, String.append_assoc]

theorem written_effects (sections : Sections) :
    written (effects sections) = Text.unlines (lines (.ofSections sections)) := by
  rw [effects, written_append, written_append, written_routineEffects (written_lineEffects _),
    written_routineEffects (written_mapEffects sections),
    written_routineEffects (written_flatMap_layoutEffects sections _), lines,
    Text.unlines_append, Text.unlines_append, String.append_assoc]
  rfl

/-! ### What the routines come to -/

theorem segmentRoutine_unlimited (sections : Sections) : ∃ notices,
    segmentRoutine sections (.empty none) = .ok (.ofRows sections.mapRows)
      ⟨⟨(Text.unlines (routineLines "handleSegments"
        (SegmentFindings.ofRows sections.mapRows).statements)).toUTF8, none⟩, notices⟩ := by
  have h := (performs_segmentRoutine sections).unlimited
  rw [written_routineEffects (written_mapEffects sections)] at h
  exact ⟨_, h⟩

theorem symbolRoutine_unlimited (sections : Sections) (segments : SegmentFindings) : ∃ notices,
    symbolRoutine sections segments (.empty none) =
      .ok (.ofLayouts sections segments.names.toList)
        ⟨⟨(Text.unlines (routineLines "handleFunctions" (SymbolFindings.ofLayouts sections
          segments.names.toList).statements)).toUTF8, none⟩, notices⟩ := by
  have h := (performs_symbolRoutine sections segments).unlimited
  rw [written_routineEffects (written_flatMap_layoutEffects sections _)] at h
  exact ⟨_, h⟩

theorem ofSections_unlimited (sections : Sections) : ∃ notices,
    ofSections sections (.empty none) = .ok (.ofSections sections)
      ⟨⟨(Text.unlines (lines (.ofSections sections))).toUTF8, none⟩, notices⟩ := by
  have h := (performs_ofSections sections).unlimited
  rw [written_effects] at h
  exact ⟨_, h⟩

/-- The routines return what their reference says, for any sections and any segments, and write
what they return. -/
theorem routines_agree_with_reference :
    (∀ sections : Sections, ∃ found out,
      segmentRoutine sections (.empty none) = .ok found out ∧
      found.segments.toList = sections.mapRows.filterMap Segment.ofRow? ∧
      found.skipped = sections.mapRows.countP (fun row => (Segment.ofRow? row).isNone) ∧
      out.sink.written =
        (Text.unlines (routineLines "handleSegments" found.statements)).toUTF8) ∧
    (∀ (sections : Sections) (segments : SegmentFindings), ∃ found out,
      symbolRoutine sections segments (.empty none) = .ok found out ∧
      found.missing.toList = segments.names.toList.filter
        (fun segment => (sections.get? (segment ++ " section layout")).isNone) ∧
      found.symbols.toList = segments.names.toList.flatMap (fun segment =>
        ((sections.layoutRows segment).filterMap Symbol.named?).map (segment, ·)) ∧
      found.skipped = (segments.names.toList.flatMap sections.layoutRows).countP
        Symbol.isSkipped ∧
      found.ignored = (segments.names.toList.flatMap sections.layoutRows).countP
        Symbol.isIgnored ∧
      found.symbols.size + found.skipped + found.ignored =
        (segments.names.toList.flatMap sections.layoutRows).length ∧
      out.sink.written =
        (Text.unlines (routineLines "handleFunctions" found.statements)).toUTF8) ∧
    ∀ sections : Sections, ∃ found out,
      ofSections sections (.empty none) = .ok found out ∧
      found.segments = .ofRows sections.mapRows ∧
      found.symbols = .ofLayouts sections found.segments.names.toList ∧
      out.sink.written = (Text.unlines (lines found)).toUTF8 := by
  refine ⟨fun sections => ?_, fun sections segments => ?_, fun sections => ?_⟩
  · obtain ⟨notices, h⟩ := segmentRoutine_unlimited sections
    exact ⟨_, _, h, rfl, rfl, rfl⟩
  · obtain ⟨notices, h⟩ := symbolRoutine_unlimited sections segments
    exact ⟨_, _, h, rfl, rfl, rfl, rfl, SymbolFindings.size_add_skipped_add_ignored sections _, rfl⟩
  · obtain ⟨notices, h⟩ := ofSections_unlimited sections
    exact ⟨_, _, h, rfl, rfl, rfl⟩

end LinkerMap.Script
