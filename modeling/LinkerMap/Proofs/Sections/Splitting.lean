import LinkerMap.Sections
import LinkerMap.Proofs.Text.Lines

/-! # Splitting a map into sections

The rows of a section are lines of the map. Blocks with an empty line between any two of them are
read one by one: each gives its title its rows, and nothing else of it is kept.
-/

namespace LinkerMap

theorem isBodyLine_of_isTrimmed {line : String} (h : Text.IsTrimmed line.toList) :
    isBodyLine line = false := by
  rw [isBodyLine, beq_eq_false_iff_ne]
  intro hs
  exact absurd (h.1 ' ' hs) (by decide)

namespace Sections

variable {sections : Sections} {title title' : String} {body : List String}
  {entries : List (String × List String)} {entry : String × List String}

theorem mem_insertEntry (h : entry ∈ insertEntry title body entries) :
    entry = (title, body) ∨ entry ∈ entries := by
  induction entries with
  | nil => exact .inl (List.mem_singleton.mp h)
  | cons e entries ih =>
    obtain ⟨t, b⟩ := e
    rw [insertEntry] at h
    split at h
    · rcases List.mem_cons.mp h with rfl | h
      · exact .inl rfl
      · exact .inr (List.mem_cons_of_mem _ h)
    · rcases List.mem_cons.mp h with rfl | h
      · exact .inr List.mem_cons_self
      · exact (ih h).imp_right (List.mem_cons_of_mem _)

theorem lookup_insertEntry (title title' : String) (body : List String)
    (entries : List (String × List String)) :
    (insertEntry title body entries).lookup title' =
      if title' = title then some body else entries.lookup title' := by
  induction entries with
  | nil =>
    by_cases h : title' = title
    · simp [insertEntry, h]
    · simp [insertEntry, List.lookup_cons, beq_eq_false_iff_ne.mpr h, h]
  | cons e entries ih =>
    obtain ⟨t, b⟩ := e
    by_cases h : title' = t
    · subst h
      by_cases ht : title' = title <;> simp [insertEntry, ht]
    · have hb : (title' == t) = false := beq_eq_false_iff_ne.mpr h
      by_cases ht : t = title
      · subst ht
        simp [insertEntry, List.lookup_cons, hb, h]
      · simp [insertEntry, List.lookup_cons, hb, ht, ih]

theorem get?_insert (sections : Sections) (title title' : String) (body : List String) :
    (sections.insert title body).get? title' =
      if title' = title then some body else sections.get? title' :=
  lookup_insertEntry title title' body sections.entries

theorem mem_entries_of_get? (h : sections.get? title = some body) :
    (title, body) ∈ sections.entries := by
  obtain ⟨before, behind, he, -⟩ := List.lookup_eq_some_iff.mp h
  rw [he]
  exact List.mem_append_right _ List.mem_cons_self

end Sections

namespace Splitter

variable {s : Splitter} {lines : List String} {line : String} {P : String → Prop}

theorem commit_of_body_eq (h : s.body = #[]) : s.commit = s := by
  simp [commit, h]

@[simp] theorem body_commit (s : Splitter) : s.commit.body = #[] := by
  unfold commit
  split
  · simp_all
  · rfl

@[simp] theorem commit_commit (s : Splitter) : s.commit.commit = s.commit :=
  commit_of_body_eq s.body_commit

@[simp] theorem read_empty (s : Splitter) : s.read "" = s.commit := by
  simp [read]

theorem isEmpty_of_isBodyLine (h : isBodyLine line = true) : line.isEmpty = false := by
  rw [Bool.eq_false_iff]
  intro he
  simp [String.isEmpty_iff.mp he, isBodyLine] at h

theorem read_row (h : isBodyLine line = true) :
    s.read line = { s with body := s.body.push line } := by
  simp [read, isEmpty_of_isBodyLine h, h]

theorem read_title (he : line ≠ "") (h : isBodyLine line = false) :
    s.read line = { s.commit with title := Text.trim line } := by
  simp [read, he, h]

/-! ### Where rows come from -/

/-- All rows of the sections and of the body being read have a property. -/
structure RowsHave (P : String → Prop) (s : Splitter) : Prop where
  entries : ∀ entry ∈ s.sections.entries, ∀ row ∈ entry.2, P row
  body : ∀ row ∈ s.body, P row

theorem RowsHave.commit (h : s.RowsHave P) : s.commit.RowsHave P := by
  refine ⟨fun entry he row hr => ?_, by simp⟩
  unfold Splitter.commit at he
  split at he
  · exact h.entries entry he row hr
  · rcases Sections.mem_insertEntry he with rfl | he
    · exact h.body row (Array.mem_toList_iff.mp hr)
    · exact h.entries entry he row hr

theorem RowsHave.read (h : s.RowsHave P) (hl : isBodyLine line = true → P line) :
    (s.read line).RowsHave P := by
  by_cases he : line = ""
  · subst he
    rw [read_empty]
    exact h.commit
  · cases hb : isBodyLine line with
    | false =>
      rw [read_title he hb]
      exact ⟨h.commit.entries, h.commit.body⟩
    | true =>
      rw [read_row hb]
      refine ⟨h.entries, fun row hr => ?_⟩
      rcases Array.mem_push.mp hr with hr | rfl
      · exact h.body row hr
      · exact hl hb

theorem RowsHave.foldl (h : s.RowsHave P) (hl : ∀ l ∈ lines, isBodyLine l = true → P l) :
    (lines.foldl Splitter.read s).RowsHave P := by
  induction lines generalizing s with
  | nil => exact h
  | cons l lines ih =>
    rw [List.forall_mem_cons] at hl
    exact ih (h.read hl.1) hl.2

theorem rowsHave_start (P : String → Prop) : start.RowsHave P :=
  ⟨by simp [start, Sections.empty], by simp [start]⟩

end Splitter

theorem Sections.mem_of_get?_ofLines {lines rows : List String} {title row : String}
    (h : (ofLines lines).get? title = some rows) (hr : row ∈ rows) :
    row ∈ lines ∧ isBodyLine row = true := by
  have hs : (lines.foldl Splitter.read .start).commit.RowsHave
      fun row => row ∈ lines ∧ isBodyLine row = true :=
    ((Splitter.rowsHave_start _).foldl fun l hl hb => ⟨hl, hb⟩).commit
  exact hs.entries _ (mem_entries_of_get? h) row hr

/-- Lines that belong together in a map: a title, empty lines under it, and rows. -/
structure Block where
  title : String
  gap : Nat
  rows : List String

namespace Block

def lines (block : Block) : List String :=
  block.title :: (List.replicate block.gap "" ++ block.rows)

structure WellFormed (block : Block) : Prop where
  title_ne : block.title ≠ ""
  title_not_row : isBodyLine block.title = false
  rows : ∀ row ∈ block.rows, isBodyLine row = true

theorem isLine_of_mem_lines {block : Block} (ht : Text.IsLine block.title)
    (hr : ∀ row ∈ block.rows, Text.IsLine row) : ∀ l ∈ block.lines, Text.IsLine l := by
  intro l hl
  simp only [lines, List.mem_cons, List.mem_append] at hl
  rcases hl with rfl | hl | hl
  · exact ht
  · rw [List.eq_of_mem_replicate hl]
    exact Text.isLine_empty
  · exact hr l hl

/-- Sections with the rows of a block, if it has any. -/
def addTo (sections : Sections) (block : Block) : Sections :=
  if block.rows = [] then sections else sections.insert (Text.trim block.title) block.rows

end Block

namespace Splitter

variable {s : Splitter} {block : Block} {blocks : List Block}

/-- The state when some lines have been read and their last body has ended. -/
def after (s : Splitter) (lines : List String) : Splitter :=
  (lines.foldl read s).commit

theorem after_append_empty (s : Splitter) (ls ms : List String) :
    s.after (ls ++ "" :: ms) = (s.after ls).after ms := by
  rw [after, List.foldl_append, List.foldl_cons, read_empty]
  rfl

theorem foldl_read_empty (h : s.body = #[]) (n : Nat) :
    (List.replicate n "").foldl read s = s := by
  induction n with
  | zero => rfl
  | succ n ih => rw [List.replicate_succ, List.foldl_cons, read_empty, commit_of_body_eq h, ih]

theorem foldl_read_rows {rows : List String} (h : ∀ row ∈ rows, isBodyLine row = true) :
    rows.foldl read s = { s with body := s.body ++ rows.toArray } := by
  induction rows generalizing s with
  | nil => simp
  | cons row rows ih =>
    rw [List.forall_mem_cons] at h
    rw [List.foldl_cons, read_row h.1, ih h.2]
    simp

/-- Reading a block gives its title its rows. -/
theorem after_block (s : Splitter) (h : block.WellFormed) :
    s.after block.lines = ⟨block.addTo s.commit.sections, Text.trim block.title, #[]⟩ := by
  rw [after, Block.lines, List.foldl_cons, read_title h.title_ne h.title_not_row,
    List.foldl_append, foldl_read_empty (by simp), foldl_read_rows h.rows]
  have hb : s.commit.body = #[] := s.body_commit
  generalize s.commit = t at hb ⊢
  by_cases hr : block.rows = [] <;> simp [commit, Block.addTo, hb, hr]

theorem sections_after_blocks (s : Splitter) (hne : blocks ≠ [])
    (h : ∀ block ∈ blocks, block.WellFormed) :
    (s.after ([""].intercalate (blocks.map Block.lines))).sections =
      blocks.foldl (fun sections block => block.addTo sections) s.commit.sections := by
  induction blocks generalizing s with
  | nil => exact absurd rfl hne
  | cons block blocks ih =>
    rw [List.forall_mem_cons] at h
    cases blocks with
    | nil => simp [after_block s h.1]
    | cons next blocks =>
      have hi := ih (s.after block.lines) (by simp) h.2
      rw [List.map_cons, List.map_cons, List.intercalate_cons_cons, List.append_assoc,
        List.singleton_append, after_append_empty, ← List.map_cons, hi, after_block s h.1,
        commit_of_body_eq rfl]
      rfl

end Splitter

namespace Sections

variable {lines : List String} {sections : Sections} {block : Block} {blocks : List Block}
  {title : String}

theorem ofLines_eq_after (lines : List String) :
    ofLines lines = (Splitter.start.after lines).sections := rfl

theorem ofLines_append_empty (lines : List String) : ofLines (lines ++ [""]) = ofLines lines := by
  rw [ofLines_eq_after, Splitter.after_append_empty, ofLines_eq_after]
  simp [Splitter.after]

theorem ofText_intercalate (h : ∀ l ∈ lines, Text.IsLine l) :
    ofText ("\n".intercalate lines) = ofLines lines := by
  rcases List.eq_nil_or_concat lines with rfl | ⟨lines, l, rfl⟩
  · rfl
  · rw [List.concat_eq_append] at h ⊢
    rw [List.forall_mem_append, List.forall_mem_singleton] at h
    rw [ofText, Text.lines_intercalate h.1 h.2]
    by_cases hl : l = ""
    · simp [hl, ofLines_append_empty]
    · rw [if_neg hl]

theorem get?_foldl_addTo_of_forall (h : ∀ block ∈ blocks, block.rows ≠ [] →
    Text.trim block.title ≠ title) :
    (blocks.foldl (fun sections block => block.addTo sections) sections).get? title =
      sections.get? title := by
  induction blocks generalizing sections with
  | nil => rfl
  | cons block blocks ih =>
    rw [List.forall_mem_cons] at h
    rw [List.foldl_cons, ih h.2, Block.addTo]
    split
    · rfl
    · rename_i hr
      rw [get?_insert, if_neg (h.1 hr).symm]

theorem get?_foldl_addTo_of_mem
    (hn : (blocks.map fun block => Text.trim block.title).Nodup) (hb : block ∈ blocks)
    (hr : block.rows ≠ []) :
    (blocks.foldl (fun sections block => block.addTo sections) sections).get?
      (Text.trim block.title) = some block.rows := by
  induction blocks generalizing sections with
  | nil => simp at hb
  | cons first blocks ih =>
    rw [List.map_cons, List.nodup_cons] at hn
    rcases List.mem_cons.mp hb with rfl | hb
    · rw [List.foldl_cons, get?_foldl_addTo_of_forall, Block.addTo, if_neg hr, get?_insert,
        if_pos rfl]
      intro other ho _ he
      exact hn.1 (List.mem_map.mpr ⟨other, ho, he⟩)
    · exact ih hn.2 hb

end Sections

end LinkerMap
