import LinkerMap.Proofs.Sections.Collecting
import LinkerMap.Proofs.Sections.Stretches

/-! # The rows of each title

Splitting a map gives the rows of its stretches, in turn, to the titles over them. A title has the
rows of the last stretch under it and the place of the first.
-/

namespace LinkerMap

variable {line title : String} {lines passed rows : List String}

namespace Splitter

variable {s : Splitter}

/-- What a splitter keeps in mind of the lines it has read. -/
structure HasPassed (s : Splitter) (passed : List String) : Prop where
  title : s.title = lastTitle passed
  body : s.body.isEmpty = !endsInRow passed

theorem hasPassed_start : start.HasPassed [] := ⟨rfl, rfl⟩

theorem title_commit (s : Splitter) : s.commit.title = s.title := by
  unfold commit
  split <;> rfl

theorem HasPassed.read (h : s.HasPassed passed) (line : String) :
    (s.read line).HasPassed (passed ++ [line]) := by
  by_cases he : line = ""
  · subst he
    refine ⟨?_, ?_⟩
    · rw [read_empty, title_commit, h.title, lastTitle_concat]
      rfl
    · rw [read_empty, body_commit, endsInRow_concat]
      rfl
  · cases hb : isBodyLine line with
    | false =>
      refine ⟨?_, ?_⟩
      · simp [read_title he hb, lastTitle_concat, isTitleLine, he, hb]
      · simp [read_title he hb, endsInRow_concat, hb]
    | true =>
      refine ⟨?_, ?_⟩
      · simp [read_row hb, lastTitle_concat, isTitleLine, hb, h.title]
      · simp [read_row hb, endsInRow_concat, hb]

theorem read_of_not_row (s : Splitter) (h : isBodyLine line = false) :
    (s.read line).sections = s.commit.sections ∧ (s.read line).body = #[] := by
  by_cases he : line = ""
  · subst he
    rw [read_empty]
    exact ⟨rfl, s.body_commit⟩
  · rw [read_title he h]
    exact ⟨rfl, s.body_commit⟩

/-- What the body that is being read comes to when it ends: its rows and those that follow. -/
def pending (s : Splitter) (lines : List String) : List (String × List String) :=
  if s.body.isEmpty then [] else [(s.title, s.body.toList ++ lines.takeWhile isBodyLine)]

theorem pending_of_body_eq (h : s.body = #[]) : s.pending lines = [] := by
  simp [pending, h]

theorem commit_eq_collectFrom (s : Splitter) (h : lines.takeWhile isBodyLine = []) :
    s.commit.sections = s.sections.collectFrom (s.pending lines) := by
  unfold commit pending
  split <;> simp [Sections.collectFrom, h]

/-- A row goes to the body that is being read, or begins a stretch. -/
theorem pending_read_row (h : s.HasPassed passed) (hb : isBodyLine line = true)
    (lines : List String) :
    (s.read line).pending lines ++ (stretchesFrom (passed ++ [line]) lines).map Stretch.entry =
      s.pending (line :: lines) ++ (stretchesFrom passed (line :: lines)).map Stretch.entry := by
  have hempty := h.body
  rw [read_row hb, stretchesFrom]
  cases he : endsInRow passed with
  | false =>
    rw [he, Bool.not_false, Array.isEmpty_iff] at hempty
    simp [pending, hempty, hb, h.title, Stretch.entry, Stretch.title]
  | true =>
    rw [he, Bool.not_true] at hempty
    simp [pending, hempty, hb]

theorem sections_after (h : s.HasPassed passed) (lines : List String) :
    (s.after lines).sections = s.sections.collectFrom
      (s.pending lines ++ (stretchesFrom passed lines).map Stretch.entry) := by
  -- A body that is being read is that of a stretch passed, so its rows come in front of all others.
  induction lines generalizing s passed with
  | nil =>
    have ht : ([] : List String).takeWhile isBodyLine = [] := rfl
    simpa [stretchesFrom, after] using s.commit_eq_collectFrom ht
  | cons line lines ih =>
    have hnext : s.after (line :: lines) = (s.read line).after lines := rfl
    rw [hnext, ih (h.read line)]
    cases hb : isBodyLine line with
    | false =>
      obtain ⟨hsections, hbody⟩ := s.read_of_not_row hb
      have ht : (line :: lines).takeWhile isBodyLine = [] := by simp [hb]
      rw [pending_of_body_eq hbody, hsections, s.commit_eq_collectFrom ht, List.nil_append,
        Sections.collectFrom_append, stretchesFrom, hb, Bool.false_and, if_neg Bool.false_ne_true]
    | true =>
      rw [pending_read_row h hb, read_row hb]

end Splitter

namespace Sections

/-- The sections of a map give the rows of each stretch in turn to its title. -/
theorem ofLines_eq_collect (lines : List String) :
    ofLines lines = collect ((stretches lines).map Stretch.entry) := by
  have h := Splitter.sections_after Splitter.hasPassed_start lines
  rw [Splitter.pending_of_body_eq rfl, List.nil_append] at h
  exact h

theorem getLast?_eq_some_iff_of_pairwise {α : Type} {place : α → Nat} {a : α} {as : List α}
    (h : as.Pairwise fun a b => place a < place b) :
    as.getLast? = some a ↔ a ∈ as ∧ ∀ b ∈ as, place b ≤ place a := by
  rcases List.eq_nil_or_concat as with rfl | ⟨as, last, rfl⟩
  · simp
  · rw [List.concat_eq_append] at h ⊢
    obtain ⟨-, -, hlast⟩ := List.pairwise_append.mp h
    rw [List.getLast?_concat, Option.some.injEq]
    constructor
    · rintro rfl
      refine ⟨by simp, fun b hb => ?_⟩
      rcases List.mem_append.mp hb with hb | hb
      · exact (hlast b hb last (by simp)).le
      · rw [List.mem_singleton.mp hb]
    · rintro ⟨ha, hle⟩
      rcases List.mem_append.mp ha with ha | ha
      · have := hlast a ha last (by simp)
        have := hle last (by simp)
        omega
      · exact (List.mem_singleton.mp ha).symm

theorem get?_ofLines_eq_some_iff : (ofLines lines).get? title = some rows ↔
    ∃ s : Stretch, s.IsIn lines ∧ s.title = title ∧ s.rows = rows ∧
      ∀ s' : Stretch, s'.IsIn lines → s'.title = title → s'.before.length ≤ s.before.length := by
  have hfilter : ((stretches lines).map Stretch.entry).filter (fun entry => entry.1 = title) =
      ((stretches lines).filter fun s => s.title = title).map Stretch.entry := by
    rw [List.filter_map]
    rfl
  have hplaces := (pairwise_stretchesFrom [] lines).filter fun s => decide (s.title = title)
  rw [ofLines_eq_collect, get?_collect, hfilter, List.getLast?_map, Option.map_map,
    Option.map_eq_some_iff]
  simp only [stretches, getLast?_eq_some_iff_of_pairwise hplaces, List.mem_filter,
    decide_eq_true_eq, and_imp]
  simp only [← stretches.eq_1, mem_stretches_iff]
  constructor
  · rintro ⟨s, ⟨⟨hs, ht⟩, hlast⟩, hr⟩
    exact ⟨s, hs, ht, hr, hlast⟩
  · rintro ⟨s, hs, ht, hr, hlast⟩
    exact ⟨s, ⟨⟨hs, ht⟩, hlast⟩, hr⟩

theorem mem_titles_collect_entries {ss : List Stretch} :
    title ∈ (collect (ss.map Stretch.entry)).titles ↔ ∃ s ∈ ss, s.title = title := by
  rw [mem_titles_collect, List.map_map, List.mem_map]
  rfl

theorem mem_titles_ofLines_iff :
    title ∈ (ofLines lines).titles ↔ ∃ s : Stretch, s.IsIn lines ∧ s.title = title := by
  simp only [ofLines_eq_collect, mem_titles_collect_entries, mem_stretches_iff]

theorem pairwise_titles_collect {ss : List Stretch}
    (h : ss.Pairwise fun s t => s.before.length < t.before.length) :
    (collect (ss.map Stretch.entry)).titles.Pairwise fun title title' =>
      ∃ s ∈ ss, s.title = title ∧
        ∀ s' ∈ ss, s'.title = title' → s.before.length < s'.before.length := by
  induction ss using List.reverseRecOn with
  | nil => exact .nil
  | append_singleton ss last ih =>
    obtain ⟨hss, -, hlast⟩ := List.pairwise_append.mp h
    have hold : (collect (ss.map Stretch.entry)).titles.Pairwise fun title title' =>
        ∃ s ∈ ss ++ [last], s.title = title ∧
          ∀ s' ∈ ss ++ [last], s'.title = title' → s.before.length < s'.before.length := by
      refine (ih hss).imp ?_
      rintro title title' ⟨s, hs, ht, hfirst⟩
      refine ⟨s, List.mem_append_left _ hs, ht, fun s' hs' ht' => ?_⟩
      rcases List.mem_append.mp hs' with hs' | hs'
      · exact hfirst s' hs' ht'
      · exact hlast s hs s' hs'
    rw [List.map_append, List.map_singleton, collect_concat, titles_insert]
    split
    · exact hold
    · rename_i hnew
      refine List.pairwise_append.mpr ⟨hold, List.pairwise_singleton _ _, ?_⟩
      intro title ht title' ht'
      obtain ⟨s, hs, rfl⟩ := mem_titles_collect_entries.mp ht
      obtain rfl := List.mem_singleton.mp ht'
      refine ⟨s, List.mem_append_left _ hs, rfl, fun s' hs' ht' => ?_⟩
      rcases List.mem_append.mp hs' with hs' | hs'
      · exact absurd (mem_titles_collect_entries.mpr ⟨s', hs', ht'⟩) hnew
      · exact hlast s hs s' hs'

/-- Each title has the rows of the last stretch under it, and none if there is no such stretch. The
titles are those over stretches, in the order of the first stretch under each. The rows of a title
are lines behind it, all rows of a map stand in stretches, and a stretch is lost only to a later one
under its title. -/
theorem ofLines_stretches (lines : List String) :
    (∀ title rows, (ofLines lines).get? title = some rows ↔
      ∃ s : Stretch, s.IsIn lines ∧ s.title = title ∧ s.rows = rows ∧
        ∀ s' : Stretch, s'.IsIn lines → s'.title = title →
          s'.before.length ≤ s.before.length) ∧
    (∀ title, (ofLines lines).get? title = none ↔
      ∀ s : Stretch, s.IsIn lines → s.title ≠ title) ∧
    (ofLines lines).titles.Nodup ∧
    (∀ title, title ∈ (ofLines lines).titles ↔ ∃ s : Stretch, s.IsIn lines ∧ s.title = title) ∧
    (ofLines lines).titles.Pairwise (fun title title' => ∃ s : Stretch, s.IsIn lines ∧
      s.title = title ∧ ∀ s' : Stretch, s'.IsIn lines → s'.title = title' →
        s.before.length < s'.before.length) ∧
    (ofLines lines).size = (ofLines lines).titles.length ∧
    ((ofLines lines).isEmpty = true ↔ ∀ s : Stretch, ¬ s.IsIn lines) ∧
    (∀ title rows, (ofLines lines).get? title = some rows → ∃ before behind,
      lines = before ++ (rows ++ behind) ∧ lastTitle before = title) ∧
    (∀ before row behind, lines = before ++ row :: behind → isBodyLine row = true →
      ∃ (s : Stretch) (front back : List String), s.IsIn lines ∧ before = s.before ++ front ∧
        s.rows = front ++ row :: back ∧ ((ofLines lines).get? s.title = some s.rows ∨
          ∃ s' : Stretch, s'.IsIn lines ∧ s'.title = s.title ∧
            s.before.length < s'.before.length)) := by
  refine ⟨fun _ _ => get?_ofLines_eq_some_iff, fun title => ?_, ?_, fun _ => mem_titles_ofLines_iff,
    ?_, ?_, ?_, fun title rows h => ?_, fun before row behind hl hb => ?_⟩
  · rw [get?_eq_none_iff, mem_titles_ofLines_iff]
    simp only [not_exists, not_and]
  · rw [ofLines_eq_collect]
    exact nodup_titles_collect _
  · have h := pairwise_titles_collect (pairwise_stretchesFrom [] lines)
    rw [← stretches, ← ofLines_eq_collect] at h
    simpa only [mem_stretches_iff] using h
  · exact (List.length_map Prod.fst).symm
  · simp only [isEmpty_eq_true_iff, mem_titles_ofLines_iff, not_exists, not_and]
    exact ⟨fun h s hs => h s.title s hs rfl, fun h _ s hs => absurd hs (h s)⟩
  · obtain ⟨s, hs, rfl, rfl, -⟩ := get?_ofLines_eq_some_iff.mp h
    obtain ⟨behind, hl, -⟩ := hs.behind
    exact ⟨s.before, behind, hl, rfl⟩
  · subst hl
    obtain ⟨s, front, hs, hbefore, hrows⟩ := exists_stretch before behind hb
    refine ⟨s, front, _, hs, hbefore, hrows, ?_⟩
    by_cases hlast : ∀ s' : Stretch, s'.IsIn (before ++ row :: behind) → s'.title = s.title →
        s'.before.length ≤ s.before.length
    · exact .inl (get?_ofLines_eq_some_iff.mpr ⟨s, hs, rfl, rfl, hlast⟩)
    · push Not at hlast
      exact .inr hlast

example : ofLines [" w", "a ", " x", " x", "", " y", "b", "", "\ta", " z"] =
    ⟨[("", [" w"]), ("a", [" z"])]⟩ := by decide

end Sections

end LinkerMap
