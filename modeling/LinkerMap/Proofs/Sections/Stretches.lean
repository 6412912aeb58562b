import LinkerMap.Proofs.Sections.Splitting
import Mathlib.Data.List.DropRight
import Mathlib.Data.List.Infix

/-! # Stretches of rows

Rows that stand together in a map, with no row next to them, form a stretch, and the last title in
front of it stands over it. Every row of a map stands in a stretch.
-/

namespace LinkerMap

/-- A line that is neither empty nor a row. -/
def isTitleLine (line : String) : Bool :=
  !line.isEmpty && !isBodyLine line

def lastTitle (lines : List String) : String :=
  ((lines.filter isTitleLine).getLast?.map Text.trim).getD ""

def endsInRow (lines : List String) : Bool :=
  lines.getLast?.any isBodyLine

/-- Rows that stand together, and the lines in front of them. -/
structure Stretch where
  before : List String
  rows : List String

namespace Stretch

def title (stretch : Stretch) : String :=
  lastTitle stretch.before

def entry (stretch : Stretch) : String × List String :=
  (stretch.title, stretch.rows)

/-- The rows are lines of a map, and no row stands next to them. -/
structure IsIn (lines : List String) (stretch : Stretch) : Prop where
  ne : stretch.rows ≠ []
  rows : ∀ row ∈ stretch.rows, isBodyLine row = true
  before : ∀ line ∈ stretch.before.getLast?, isBodyLine line = false
  behind : ∃ behind, lines = stretch.before ++ (stretch.rows ++ behind) ∧
    ∀ line ∈ behind.head?, isBodyLine line = false

end Stretch

/-- The stretches of a map that begin behind the lines passed, in their order. -/
def stretchesFrom (passed : List String) : List String → List Stretch
  | [] => []
  | line :: lines =>
    if isBodyLine line && !endsInRow passed then
      ⟨passed, line :: lines.takeWhile isBodyLine⟩ :: stretchesFrom (passed ++ [line]) lines
    else stretchesFrom (passed ++ [line]) lines

def stretches (lines : List String) : List Stretch :=
  stretchesFrom [] lines

variable {line : String} {lines passed : List String} {stretch : Stretch}

/-! ### Titles and rows -/

theorem isTitleLine_of_row (h : isBodyLine line = true) : isTitleLine line = false := by
  simp [isTitleLine, h]

theorem lastTitle_concat (lines : List String) (line : String) : lastTitle (lines ++ [line]) =
    if isTitleLine line then Text.trim line else lastTitle lines := by
  unfold lastTitle
  rw [List.filter_append]
  split
  · rename_i h
    simp [h]
  · rename_i h
    simp [h]

theorem trim_lastTitle (lines : List String) : Text.trim (lastTitle lines) = lastTitle lines := by
  unfold lastTitle
  cases (lines.filter isTitleLine).getLast? with
  | none => rfl
  | some line => exact Text.trim_trim line

theorem endsInRow_concat (lines : List String) (line : String) :
    endsInRow (lines ++ [line]) = isBodyLine line := by
  simp [endsInRow]

theorem endsInRow_eq_false_iff :
    endsInRow lines = false ↔ ∀ line ∈ lines.getLast?, isBodyLine line = false := by
  cases h : lines.getLast? <;> simp [endsInRow, h]

/-! ### Where stretches stand -/

/-- A stretch begins in front of `behind`: the line before is no row, and as many of the lines to
come belong to the stretch as are rows. -/
structure Stretch.Begins (stretch : Stretch) (behind : List String) : Prop where
  before : endsInRow stretch.before = false
  rows : stretch.rows = behind.takeWhile isBodyLine
  ne : stretch.rows ≠ []

theorem Stretch.isIn_iff : stretch.IsIn lines ↔
    ∃ behind, lines = stretch.before ++ behind ∧ stretch.Begins behind := by
  constructor
  · rintro ⟨hne, hrows, hbefore, behind, hl, hbehind⟩
    refine ⟨stretch.rows ++ behind, hl, endsInRow_eq_false_iff.mpr hbefore, ?_, hne⟩
    rw [List.takeWhile_append_of_pos hrows]
    cases behind with
    | nil => simp
    | cons line behind => simp [hbehind line rfl]
  · rintro ⟨behind, hl, hbefore, hrows, hne⟩
    refine ⟨hne, ?_, endsInRow_eq_false_iff.mp hbefore, behind.dropWhile isBodyLine, ?_, ?_⟩
    · intro row hr
      rw [hrows] at hr
      exact List.mem_takeWhile_imp hr
    · rw [hrows, List.takeWhile_append_dropWhile, hl]
    · intro line hm
      have h := List.head?_dropWhile_not isBodyLine behind
      rw [Option.mem_def.mp hm] at h
      simpa using h

theorem Stretch.begins_cons_iff : stretch.Begins (line :: lines) ↔
    isBodyLine line = true ∧ endsInRow stretch.before = false ∧
      stretch.rows = line :: lines.takeWhile isBodyLine := by
  constructor
  · rintro ⟨hbefore, hrows, hne⟩
    cases hb : isBodyLine line with
    | false => simp [hrows, hb] at hne
    | true => exact ⟨rfl, hbefore, by rw [hrows, List.takeWhile_cons_of_pos hb]⟩
  · rintro ⟨hb, hbefore, hrows⟩
    exact ⟨hbefore, by rw [hrows, List.takeWhile_cons_of_pos hb], by simp [hrows]⟩

theorem mem_stretchesFrom_cons_iff : stretch ∈ stretchesFrom passed (line :: lines) ↔
    stretch.before = passed ∧ stretch.Begins (line :: lines) ∨
      stretch ∈ stretchesFrom (passed ++ [line]) lines := by
  obtain ⟨before, rows⟩ := stretch
  rw [Stretch.begins_cons_iff, stretchesFrom]
  split
  · rename_i h
    simp only [Bool.and_eq_true, Bool.not_eq_true'] at h
    rw [List.mem_cons, Stretch.mk.injEq]
    refine or_congr_left ⟨?_, ?_⟩
    · rintro ⟨rfl, rfl⟩
      exact ⟨rfl, h.1, h.2, rfl⟩
    · rintro ⟨rfl, -, -, rfl⟩
      exact ⟨rfl, rfl⟩
  · rename_i h
    refine (or_iff_right ?_).symm
    rintro ⟨rfl, hb, hp, -⟩
    exact h (by simpa [hb] using hp)

theorem mem_stretchesFrom_iff : stretch ∈ stretchesFrom passed lines ↔
    ∃ skipped behind, lines = skipped ++ behind ∧ stretch.before = passed ++ skipped ∧
      stretch.Begins behind := by
  induction lines generalizing passed with
  | nil =>
    constructor
    · intro h
      cases h
    · rintro ⟨skipped, behind, hl, -, -, hrows, hne⟩
      obtain ⟨-, rfl⟩ := List.append_eq_nil_iff.mp hl.symm
      exact absurd hrows hne
  | cons line lines ih =>
    rw [mem_stretchesFrom_cons_iff, ih]
    simp only [List.append_assoc, List.singleton_append]
    constructor
    · rintro (⟨hbefore, hbegins⟩ | ⟨skipped, behind, rfl, hbefore, hbegins⟩)
      · exact ⟨[], line :: lines, rfl, by simpa using hbefore, hbegins⟩
      · exact ⟨line :: skipped, behind, rfl, hbefore, hbegins⟩
    · rintro ⟨_ | ⟨first, skipped⟩, behind, hl, hbefore, hbegins⟩
      · obtain rfl : line :: lines = behind := hl
        exact .inl ⟨by simpa using hbefore, hbegins⟩
      · obtain ⟨rfl, rfl⟩ := List.cons.inj hl
        exact .inr ⟨skipped, behind, rfl, hbefore, hbegins⟩

theorem mem_stretches_iff : stretch ∈ stretches lines ↔ stretch.IsIn lines := by
  rw [stretches, mem_stretchesFrom_iff, Stretch.isIn_iff]
  constructor
  · rintro ⟨skipped, behind, rfl, hbefore, hbegins⟩
    exact ⟨behind, by rw [hbefore, List.nil_append], hbegins⟩
  · rintro ⟨behind, rfl, hbegins⟩
    exact ⟨stretch.before, behind, rfl, rfl, hbegins⟩

theorem pairwise_stretchesFrom (passed lines : List String) :
    (stretchesFrom passed lines).Pairwise fun s t => s.before.length < t.before.length := by
  induction lines generalizing passed with
  | nil => exact .nil
  | cons line lines ih =>
    rw [stretchesFrom]
    split
    · refine .cons (fun later hl => ?_) (ih _)
      obtain ⟨skipped, -, -, hbefore, -⟩ := mem_stretchesFrom_iff.mp hl
      simp only [hbefore, List.length_append, List.length_singleton]
      omega
    · exact ih _

/-- Every row of a map stands in a stretch. -/
theorem exists_stretch (before behind : List String) (hb : isBodyLine line = true) :
    ∃ (stretch : Stretch) (front : List String), stretch.IsIn (before ++ line :: behind) ∧
      before = stretch.before ++ front ∧
      stretch.rows = front ++ line :: behind.takeWhile isBodyLine := by
  let front := before.rtakeWhile isBodyLine
  have hfront : ∀ row ∈ front, isBodyLine row = true := fun row hr => List.mem_rtakeWhile_imp hr
  have hbefore : before.rdropWhile isBodyLine ++ front = before :=
    List.rdropWhile_append_rtakeWhile
  refine ⟨⟨before.rdropWhile isBodyLine, front ++ line :: behind.takeWhile isBodyLine⟩, front,
    Stretch.isIn_iff.mpr ⟨front ++ line :: behind, ?_, ?_, ?_, by simp⟩, hbefore.symm, rfl⟩
  · rw [← List.append_assoc, hbefore]
  · refine endsInRow_eq_false_iff.mpr fun last hl => ?_
    obtain ⟨hne, rfl⟩ := List.mem_getLast?_eq_getLast hl
    simpa using List.rdropWhile_last_not isBodyLine before hne
  · rw [List.takeWhile_append_of_pos hfront, List.takeWhile_cons_of_pos hb]

end LinkerMap
