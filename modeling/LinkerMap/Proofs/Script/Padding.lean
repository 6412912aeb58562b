import LinkerMap.Proofs.Row.Padding
import LinkerMap.Proofs.Script.Rendering
import LinkerMap.Proofs.Sections.Lockstep

/-! # Padded maps

The script of a map is that of its findings, and these depend on what each row is read as. Spaces
behind the lines of a map, and more spaces in front of its rows, are therefore not seen.
-/

namespace LinkerMap

theorem filterMap_eq_of_forall₂ {α β : Type} {f : α → Option β} {xs ys : List α}
    (h : List.Forall₂ (fun x y => f x = f y) xs ys) : xs.filterMap f = ys.filterMap f := by
  induction h with
  | nil => rfl
  | cons hx _ ih => rw [List.filterMap_cons, hx, ih, List.filterMap_cons]

theorem countP_eq_of_forall₂ {α : Type} {p : α → Bool} {xs ys : List α}
    (h : List.Forall₂ (fun x y => p x = p y) xs ys) : xs.countP p = ys.countP p := by
  induction h with
  | nil => rfl
  | cons hx _ ih => rw [List.countP_cons, hx, ih, List.countP_cons]

/-! ### Findings in lockstep -/

/-- Rows that are read as the same segment and as the same symbol. -/
def SameRow (row row' : String) : Prop :=
  Segment.ofRow? row = Segment.ofRow? row' ∧ Symbol.ofRow? row = Symbol.ofRow? row'

variable {sections sections' : Sections} {rows rows' : List String}

theorem SegmentFindings.ofRows_congr (h : List.Forall₂ SameRow rows rows') :
    ofRows rows = ofRows rows' := by
  have hsegments : rows.filterMap Segment.ofRow? = rows'.filterMap Segment.ofRow? :=
    filterMap_eq_of_forall₂ (h.imp fun _ _ hr => hr.1)
  have hskipped : rows.countP (fun row => (Segment.ofRow? row).isNone) =
      rows'.countP fun row => (Segment.ofRow? row).isNone :=
    countP_eq_of_forall₂ (h.imp fun _ _ hr => congrArg Option.isNone hr.1)
  rw [ofRows, hsegments, hskipped, ofRows]

theorem Sections.Lockstep.forall₂_rows (h : sections.Lockstep SameRow sections')
    (title : String) :
    List.Forall₂ SameRow ((sections.get? title).getD []) ((sections'.get? title).getD []) := by
  have hg := h.get? title
  generalize sections.get? title = found, sections'.get? title = found' at hg ⊢
  cases hg with
  | none => exact .nil
  | some hr => exact hr

theorem Sections.Lockstep.isNone_get? (h : sections.Lockstep SameRow sections')
    (title : String) : (sections.get? title).isNone = (sections'.get? title).isNone := by
  have hg := h.get? title
  generalize sections.get? title = found, sections'.get? title = found' at hg ⊢
  cases hg <;> rfl

theorem SymbolFindings.ofLayouts_lockstep (h : sections.Lockstep SameRow sections')
    (segments : List String) : ofLayouts sections segments = ofLayouts sections' segments := by
  have hrows (segment : String) :
      List.Forall₂ SameRow (sections.layoutRows segment) (sections'.layoutRows segment) :=
    h.forall₂_rows (Sections.layoutTitle segment)
  have hall : List.Forall₂ SameRow (segments.flatMap sections.layoutRows)
      (segments.flatMap sections'.layoutRows) :=
    List.rel_flatMap (List.forall₂_same.mpr fun _ _ => rfl) fun _ _ he => he ▸ hrows _
  have hsymbols (segment : String) : (sections.layoutRows segment).filterMap Symbol.named? =
      (sections'.layoutRows segment).filterMap Symbol.named? :=
    filterMap_eq_of_forall₂ ((hrows segment).imp fun _ _ hr =>
      congrArg (Option.filter (·.kind == "4")) hr.2)
  have hskipped : (segments.flatMap sections.layoutRows).countP Symbol.isSkipped =
      (segments.flatMap sections'.layoutRows).countP Symbol.isSkipped :=
    countP_eq_of_forall₂ (hall.imp fun _ _ hr => congrArg Option.isNone hr.2)
  have hignored : (segments.flatMap sections.layoutRows).countP Symbol.isIgnored =
      (segments.flatMap sections'.layoutRows).countP Symbol.isIgnored :=
    countP_eq_of_forall₂ (hall.imp fun _ _ hr => congrArg (Option.any (·.kind != "4")) hr.2)
  simp only [ofLayouts, hsymbols, hskipped, hignored, h.isNone_get?]

theorem Findings.ofSections_lockstep (h : sections.Lockstep SameRow sections') :
    ofSections sections = ofSections sections' := by
  have hm : SegmentFindings.ofRows sections.mapRows = .ofRows sections'.mapRows :=
    SegmentFindings.ofRows_congr (h.forall₂_rows Sections.memoryMap)
  simp only [ofSections, hm, SymbolFindings.ofLayouts_lockstep h]

/-- A line of a map, and the spaces that are put in front of it if it is a row, and behind it if it
is not empty. -/
structure PaddedLine where
  before : Nat
  line : String
  behind : Nat
  deriving DecidableEq, Repr

namespace PaddedLine

open Row

variable {padded : PaddedLine}

def text (padded : PaddedLine) : String :=
  (if isBodyLine padded.line then String.ofList (padding padded.before) else "") ++
    padded.line ++
    if padded.line.isEmpty then "" else String.ofList (padding padded.behind)

theorem toList_text_of_row (h : isBodyLine padded.line = true) :
    padded.text.toList =
      padding padded.before ++ padded.line.toList ++ padding padded.behind := by
  simp [text, h, Splitter.isEmpty_of_isBodyLine h]

theorem toList_text_of_title (he : padded.line ≠ "") (h : isBodyLine padded.line = false) :
    padded.text.toList = padded.line.toList ++ padding padded.behind := by
  simp [text, h, he]

theorem sameLine_of_row (h : isBodyLine padded.line = true) :
    SameLine SameRow padded.line padded.text := by
  have htext := toList_text_of_row h
  obtain ⟨cs, hline⟩ : ∃ cs, padded.line.toList = ' ' :: cs := by
    simpa [isBodyLine, List.head?_eq_some_iff] using h
  have hbody : isBodyLine padded.text = true := by
    rw [isBodyLine, htext, hline]
    cases padded.before <;> rfl
  exact .row h hbody
    ⟨(Segment.ofRow?_padded hline htext).symm, (Symbol.ofRow?_padded hline htext).symm⟩

theorem sameLine_of_title (he : padded.line ≠ "") (h : isBodyLine padded.line = false) :
    SameLine SameRow padded.line padded.text := by
  have htext := toList_text_of_title he h
  have hne : padded.line.toList ≠ [] := mt String.toList_eq_nil_iff.mp he
  have he' : padded.text ≠ "" := by
    intro ht
    rw [ht] at htext
    exact hne (List.append_eq_nil_iff.mp htext.symm).1
  have h' : isBodyLine padded.text = false := by
    rwa [isBodyLine, htext, List.head?_append_of_ne_nil _ hne]
  refine .title he he' h h' (String.toList_inj.mp ?_)
  rw [Text.toList_trim, Text.toList_trim, htext,
    Text.trimList_append fun _ => blank_of_mem_padding]

theorem sameLine (padded : PaddedLine) : SameLine SameRow padded.line padded.text := by
  by_cases he : padded.line = ""
  · have ht : padded.text = "" := by simp [text, he, isBodyLine]
    rw [he, ht]
    exact .empty
  · cases h : isBodyLine padded.line with
    | true => exact sameLine_of_row h
    | false => exact sameLine_of_title he h

end PaddedLine

theorem lockstep_padded (padded : List PaddedLine) :
    (Sections.ofLines (padded.map PaddedLine.line)).Lockstep SameRow
      (.ofLines (padded.map PaddedLine.text)) := by
  refine Sections.lockstep_ofLines ?_
  rw [List.forall₂_map_left_iff, List.forall₂_map_right_iff, List.forall₂_same]
  exact fun line _ => line.sameLine

namespace Script

open Emission Row

theorem outcome_ofSections_congr (h : Findings.ofSections sections = .ofSections sections')
    (limit? : Option Nat) : outcome (ofSections sections (.empty limit?)) =
      outcome (ofSections sections' (.empty limit?)) := by
  rw [Output.empty, (performs_ofSections sections).outcome_eq, written_effects, h,
    (performs_ofSections sections').outcome_eq, written_effects]

/-- Spaces behind the lines of a map, and more spaces in front of its rows, change neither the
findings nor the script, whatever it is written to. A row with such spaces is read as before. -/
theorem ofSections_padded (padded : List PaddedLine) :
    (∃ found out out',
      ofSections (.ofLines (padded.map PaddedLine.line)) (.empty none) = .ok found out ∧
      ofSections (.ofLines (padded.map PaddedLine.text)) (.empty none) = .ok found out' ∧
      out.sink.written = (Text.unlines (lines found)).toUTF8 ∧
      out'.sink.written = out.sink.written) ∧
    (∀ limit?,
      outcome (ofSections (.ofLines (padded.map PaddedLine.line)) (.empty limit?)) =
        outcome (ofSections (.ofLines (padded.map PaddedLine.text)) (.empty limit?))) ∧
    ∀ (before behind : Nat) (row : String),
      let spaced := String.ofList (padding before) ++ (" " ++ row) ++ String.ofList (padding behind)
      Segment.ofRow? spaced = Segment.ofRow? (" " ++ row) ∧
        Symbol.ofRow? spaced = Symbol.ofRow? (" " ++ row) := by
  have hf := Findings.ofSections_lockstep (lockstep_padded padded)
  refine ⟨?_, outcome_ofSections_congr hf, fun before behind row => ?_⟩
  · obtain ⟨notices, h⟩ := ofSections_unlimited (.ofLines (padded.map PaddedLine.line))
    obtain ⟨notices', h'⟩ := ofSections_unlimited (.ofLines (padded.map PaddedLine.text))
    rw [← hf] at h'
    exact ⟨_, _, _, h, h', rfl, rfl⟩
  · have hline : (" " ++ row).toList = ' ' :: row.toList := by simp
    have hspaced : (String.ofList (padding before) ++ (" " ++ row) ++
        String.ofList (padding behind)).toList =
          padding before ++ (" " ++ row).toList ++ padding behind := by simp
    exact ⟨Segment.ofRow?_padded hline hspaced, Symbol.ofRow?_padded hline hspaced⟩

end Script

end LinkerMap
