import LinkerMap.Proofs.Sections.Document
import LinkerMap.Proofs.Sections.Titling
import LinkerMap.Proofs.Script.Rendering

/-! # Segments without a layout

A segment is missing from a script when no row stands under the title of its layout. The name of a
segment and the title of a layout are trimmed on their own, but they meet: every name that is not
empty has a title under which rows can stand.
-/

namespace LinkerMap

/-- Some row stands behind a title line with the title, with no title line between them. -/
def HasRowUnder (lines : List String) (title : String) : Prop :=
  ∃ before line between row behind, lines = before ++ line :: (between ++ row :: behind) ∧
    isTitleLine line = true ∧ Text.trim line = title ∧
    (∀ other ∈ between, isTitleLine other = false) ∧ isBodyLine row = true

def beginsWithRow (lines : List String) : Bool :=
  (lines.takeWhile (!isTitleLine ·)).any isBodyLine

def hasRowUnder (title : String) : List String → Bool
  | [] => false
  | line :: lines =>
    isTitleLine line && Text.trim line == title && beginsWithRow lines || hasRowUnder title lines

variable {line title : String} {lines between : List String}

/-! ### Rows under a title -/

theorem beginsWithRow_iff : beginsWithRow lines = true ↔
    ∃ between row behind, lines = between ++ row :: behind ∧
      (∀ other ∈ between, isTitleLine other = false) ∧ isBodyLine row = true := by
  rw [beginsWithRow, List.any_eq_true]
  constructor
  · rintro ⟨row, hr, hb⟩
    obtain ⟨between, behind, hl⟩ := List.append_of_mem hr
    refine ⟨between, row, behind ++ lines.dropWhile (!isTitleLine ·), ?_, fun other ho => ?_, hb⟩
    · rw [← List.cons_append, ← List.append_assoc, ← hl, List.takeWhile_append_dropWhile]
    · have hm : other ∈ lines.takeWhile (!isTitleLine ·) := hl ▸ List.mem_append_left _ ho
      simpa using List.mem_takeWhile_imp hm
  · rintro ⟨between, row, behind, rfl, hbetween, hb⟩
    refine ⟨row, ?_, hb⟩
    rw [List.takeWhile_append_of_pos (by simpa using hbetween),
      List.takeWhile_cons_of_pos (by simp [isTitleLine_of_row hb])]
    simp

theorem hasRowUnder_cons_iff : HasRowUnder (line :: lines) title ↔
    isTitleLine line = true ∧ Text.trim line = title ∧ beginsWithRow lines = true ∨
      HasRowUnder lines title := by
  rw [beginsWithRow_iff]
  constructor
  · rintro ⟨_ | ⟨first, before⟩, line', between, row, behind, hl, ht, htrim, hbetween, hb⟩
    · obtain ⟨rfl, rfl⟩ := List.cons.inj hl
      exact .inl ⟨ht, htrim, between, row, behind, rfl, hbetween, hb⟩
    · obtain ⟨rfl, rfl⟩ := List.cons.inj hl
      exact .inr ⟨before, line', between, row, behind, rfl, ht, htrim, hbetween, hb⟩
  · rintro (⟨ht, htrim, between, row, behind, rfl, hbetween, hb⟩ |
      ⟨before, line', between, row, behind, rfl, ht, htrim, hbetween, hb⟩)
    · exact ⟨[], line, between, row, behind, rfl, ht, htrim, hbetween, hb⟩
    · exact ⟨line :: before, line', between, row, behind, rfl, ht, htrim, hbetween, hb⟩

theorem hasRowUnder_iff : hasRowUnder title lines = true ↔ HasRowUnder lines title := by
  induction lines with
  | nil => simp [hasRowUnder, HasRowUnder]
  | cons line lines ih =>
    rw [hasRowUnder_cons_iff, ← ih]
    simp [hasRowUnder, and_assoc]

instance : Decidable (HasRowUnder lines title) :=
  decidable_of_iff _ hasRowUnder_iff

/-! ### Stretches under a title -/

theorem lastTitle_append (h : ∀ line ∈ between, isTitleLine line = false) (lines : List String) :
    lastTitle (lines ++ between) = lastTitle lines := by
  have hf : between.filter isTitleLine = [] := by simpa [List.filter_eq_nil_iff] using h
  rw [lastTitle, List.filter_append, hf, List.append_nil, lastTitle]

theorem exists_of_lastTitle_ne_empty (h : lastTitle lines ≠ "") :
    ∃ before line between, lines = before ++ line :: between ∧ isTitleLine line = true ∧
      Text.trim line = lastTitle lines ∧ ∀ other ∈ between, isTitleLine other = false := by
  induction lines using List.reverseRecOn with
  | nil => exact absurd rfl h
  | append_singleton lines last ih =>
    rw [lastTitle_concat] at h ⊢
    by_cases ht : isTitleLine last = true
    · rw [if_pos ht]
      exact ⟨lines, last, [], rfl, ht, rfl, by simp⟩
    · rw [if_neg ht] at h ⊢
      obtain ⟨before, line, between, rfl, hline, htrim, hbetween⟩ := ih h
      refine ⟨before, line, between ++ [last], by simp, hline, htrim, ?_⟩
      exact List.forall_mem_append.mpr ⟨hbetween, by simpa using ht⟩

theorem hasRowUnder_iff_exists_stretch (hne : title ≠ "") : HasRowUnder lines title ↔
    ∃ stretch : Stretch, stretch.IsIn lines ∧ stretch.title = title := by
  constructor
  · rintro ⟨before, line, between, row, behind, rfl, ht, rfl, hbetween, hb⟩
    obtain ⟨stretch, front, hs, hbefore, hrows⟩ :=
      exists_stretch (before ++ line :: between) behind hb
    have hfront : ∀ other ∈ front, isTitleLine other = false := fun other ho =>
      isTitleLine_of_row (hs.rows other (hrows ▸ List.mem_append_left _ ho))
    refine ⟨stretch, by simpa using hs, ?_⟩
    calc stretch.title = lastTitle (before ++ line :: between) := by
          rw [hbefore, lastTitle_append hfront, Stretch.title]
      _ = lastTitle (before ++ [line]) := by
          rw [List.append_cons, lastTitle_append hbetween]
      _ = Text.trim line := by rw [lastTitle_concat, if_pos ht]
  · rintro ⟨⟨above, rows⟩, hs, rfl⟩
    obtain ⟨before, line, between, rfl, ht, htrim, hbetween⟩ := exists_of_lastTitle_ne_empty hne
    obtain ⟨row, rows, rfl⟩ := List.exists_cons_of_ne_nil hs.ne
    obtain ⟨behind, rfl, -⟩ := hs.behind
    exact ⟨before, line, between, row, rows ++ behind, by simp, ht, htrim, hbetween,
      hs.rows row List.mem_cons_self⟩

namespace Sections

theorem mem_titles_ofLines_iff_hasRowUnder (hne : title ≠ "") :
    title ∈ (ofLines lines).titles ↔ HasRowUnder lines title := by
  rw [mem_titles_ofLines_iff, hasRowUnder_iff_exists_stretch hne]

theorem layoutTitle_ne_empty (segment : String) : layoutTitle segment ≠ "" := by
  intro h
  have hl := congrArg String.toList h
  simp [toList_layoutTitle] at hl

theorem isNone_get?_layoutTitle (lines : List String) (segment : String) :
    ((ofLines lines).get? (layoutTitle segment)).isNone = true ↔
      ¬ HasRowUnder lines (layoutTitle segment) := by
  rw [Option.isNone_iff_eq_none, get?_eq_none_iff,
    mem_titles_ofLines_iff_hasRowUnder (layoutTitle_ne_empty segment)]

theorem exists_hasRowUnder_iff (hne : title ≠ "") :
    (∃ lines, HasRowUnder lines title) ↔ Text.IsTrimmed title.toList := by
  constructor
  · rintro ⟨_, _, line, _, _, _, _, _, rfl, _⟩
    rw [Text.toList_trim]
    exact Text.isTrimmed_trimList _
  · intro h
    refine ⟨[title, " "], [], title, [], " ", [], rfl, ?_, Text.trim_eq_self_iff.mpr h, ?_, rfl⟩
    · simp [isTitleLine, hne, isBodyLine_of_isTrimmed h]
    · simp

end Sections

namespace Segment

/-- A name that is not empty has a layout title that some map has. -/
theorem name_ne_empty_iff {row : String} {segment : Segment} (h : ofRow? row = some segment) :
    segment.name ≠ "" ↔ Text.IsTrimmed (Sections.layoutTitle segment.name).toList := by
  constructor
  · intro hne
    exact Sections.isTrimmed_layoutTitle hne (isTrimmed_name h)
  · intro ht he
    rw [he] at ht
    exact absurd ht (by decide)

end Segment

namespace Script

open Emission

/-- The segments without a layout are those under whose layout title no row stands, in the order of
the memory map and as often as they stand in it. Every segment with a name that is not empty can
have a layout, and no two names share one, or take the memory map for theirs. -/
theorem missing_layouts :
    (∀ lines, ∃ found,
      (∃ out, ofSections (.ofLines lines) (.empty none) = .ok found out) ∧
      (∀ out found' out', ofSections (.ofLines lines) out = .ok found' out' → found' = found) ∧
      found.segments.segments.toList =
        (Sections.ofLines lines).mapRows.filterMap Segment.ofRow? ∧
      found.symbols.missing.toList = (found.segments.segments.toList.map Segment.name).filter
        fun name => ¬ HasRowUnder lines (Sections.layoutTitle name)) ∧
    (∀ row segment, Segment.ofRow? row = some segment → (segment.name ≠ "" ↔
      ∃ lines, Sections.layoutTitle segment.name ∈ (Sections.ofLines lines).titles)) ∧
    Function.Injective Sections.layoutTitle ∧
    ∀ name, Sections.layoutTitle name ≠ Sections.memoryMap := by
  refine ⟨fun lines => ?_, fun row segment h => ?_, fun _ _ => Sections.layoutTitle_inj.mp,
    fun name => (Sections.memoryMap_ne_layoutTitle name).symm⟩
  · obtain ⟨notices, hok⟩ := ofSections_unlimited (.ofLines lines)
    refine ⟨.ofSections (.ofLines lines), ⟨_, hok⟩, fun out found' out' hout => ?_, rfl, ?_⟩
    · exact (performs_ofSections _).eq_of_ok hout
    · have hmissing : (Findings.ofSections (.ofLines lines)).symbols.missing.toList =
          (Findings.ofSections (.ofLines lines)).segments.names.toList.filter fun name =>
            ((Sections.ofLines lines).get? (Sections.layoutTitle name)).isNone := rfl
      rw [hmissing, SegmentFindings.names, Array.toList_map]
      refine List.filter_congr fun name _ => ?_
      rw [Bool.eq_iff_iff, Sections.isNone_get?_layoutTitle, decide_eq_true_iff]
  · have hne := Sections.layoutTitle_ne_empty segment.name
    simp only [Sections.mem_titles_ofLines_iff_hasRowUnder hne, Sections.exists_hasRowUnder_iff hne]
    exact Segment.name_ne_empty_iff h

/-- A name with a tab in front of a letter that is not ASCII has a layout, and a name of hexadecimal
digits has none: there is a title line for it, but no row. -/
theorem missing_layouts_tab :
    let lines := ["Memory map:", "  .t\tä 80 10 0", "  ab 1 2 3", "ab section layout",
      "\t.t\tä section layout ", "  UNUSED"]
    Segment.ofRow? "  .t\tä 80 10 0" = some ⟨".t\tä", ⟨"80"⟩, ⟨"10"⟩, ⟨"0"⟩⟩ ∧
    (∃ lines, Sections.layoutTitle ".t\tä" ∈ (Sections.ofLines lines).titles) ∧
    ∃ found out, ofSections (.ofLines lines) (.empty none) = .ok found out ∧
      found.segments.segments.toList.map Segment.name = [".t\tä", "ab"] ∧
      found.symbols.missing.toList = ["ab"] := by
  intro lines
  have hrow : Segment.ofRow? "  .t\tä 80 10 0" = some ⟨".t\tä", ⟨"80"⟩, ⟨"10"⟩, ⟨"0"⟩⟩ := by
    decide +kernel
  obtain ⟨found, ⟨out, hrun⟩, -, hsegments, hmissing⟩ := missing_layouts.1 lines
  have hnames : found.segments.segments.toList.map Segment.name = [".t\tä", "ab"] := by
    rw [hsegments]
    decide +kernel
  rw [hnames] at hmissing
  exact ⟨hrow, (missing_layouts.2.1 _ _ hrow).mp (by decide), found, out, hrun, hnames,
    hmissing.trans (by decide +kernel)⟩

end Script

end LinkerMap
