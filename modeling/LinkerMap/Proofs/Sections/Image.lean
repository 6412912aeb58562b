import LinkerMap.Proofs.Sections.Blocks
import LinkerMap.Proofs.Sections.Titling

/-! # Sections written out

Sections are those of some map exactly when no title stands twice, each title is its own trim, and
each body has rows and nothing else. Written out one below the other, such sections are read back.
-/

namespace LinkerMap

namespace Sections

/-- The line that stands for a title: a line that is empty would be none. -/
def titleLine (title : String) : String :=
  if title = "" then "\t" else title

def toLines (sections : Sections) : List String :=
  sections.entries.flatMap fun entry => titleLine entry.1 :: entry.2

/-- No title stands twice, titles are trimmed, and bodies have rows and nothing else. -/
structure WellFormed (sections : Sections) : Prop where
  nodup : sections.titles.Nodup
  trimmed : ∀ entry ∈ sections.entries, Text.trim entry.1 = entry.1
  body_ne : ∀ entry ∈ sections.entries, entry.2 ≠ []
  body : ∀ entry ∈ sections.entries, ∀ row ∈ entry.2, isBodyLine row = true

variable {sections : Sections} {title : String}

theorem titleLine_ne_empty (title : String) : titleLine title ≠ "" := by
  unfold titleLine
  split
  · decide
  · assumption

theorem trim_titleLine (h : Text.trim title = title) : Text.trim (titleLine title) = title := by
  unfold titleLine
  split
  · rename_i he
    rw [he]
    decide
  · exact h

theorem isBodyLine_titleLine (h : Text.trim title = title) :
    isBodyLine (titleLine title) = false := by
  unfold titleLine
  split
  · decide
  · exact isBodyLine_of_isTrimmed (Text.trim_eq_self_iff.mp h)

/-! ### Writing sections and reading them back -/

def block (entry : String × List String) : SpacedBlock :=
  ⟨⟨titleLine entry.1, 0, entry.2⟩, 0⟩

theorem lines_block (entry : String × List String) :
    (block entry).lines = titleLine entry.1 :: entry.2 := by
  simp [block, SpacedBlock.lines, Block.lines]

theorem WellFormed.block (h : sections.WellFormed) {entry : String × List String}
    (he : entry ∈ sections.entries) : (block entry).WellFormed where
  title_ne := titleLine_ne_empty entry.1
  title_not_row := isBodyLine_titleLine (h.trimmed entry he)
  rows := h.body entry he
  rows_ne := h.body_ne entry he

theorem WellFormed.addTo_block (h : sections.WellFormed) {entry : String × List String}
    (he : entry ∈ sections.entries) (sections' : Sections) :
    (Sections.block entry).addTo sections' = sections'.insert entry.1 entry.2 := by
  rw [Block.addTo, if_neg (h.block he).rows_ne]
  change sections'.insert (Text.trim (titleLine entry.1)) entry.2 = _
  rw [trim_titleLine (h.trimmed entry he)]

theorem WellFormed.ofLines_toLines (h : sections.WellFormed) :
    ofLines sections.toLines = sections := by
  have hblocks : ∀ block ∈ sections.entries.map Sections.block, block.WellFormed := by
    intro block hb
    obtain ⟨entry, he, rfl⟩ := List.mem_map.mp hb
    exact h.block he
  calc ofLines sections.toLines
      = ofBlocks (sections.entries.map Sections.block) := by
        simp only [ofBlocks, toLines, List.flatMap_map, lines_block]
    _ = collect sections.entries := by
        rw [ofBlocks_eq_foldl hblocks, List.foldl_map, List.foldl_map]
        exact List.foldl_ext _ _ _ fun sections' entry he => h.addTo_block he sections'
    _ = sections := collect_of_nodup h.nodup

/-! ### The sections of maps -/

theorem wellFormed_ofLines (lines : List String) : (ofLines lines).WellFormed := by
  have hentries : ∀ entry ∈ (ofLines lines).entries, ∃ stretch : Stretch,
      stretch.IsIn lines ∧ stretch.entry = entry := by
    intro entry he
    rw [ofLines_eq_collect] at he
    obtain ⟨stretch, hs, rfl⟩ := List.mem_map.mp (mem_of_mem_entries_collect he)
    exact ⟨stretch, mem_stretches_iff.mp hs, rfl⟩
  refine ⟨?_, fun entry he => ?_, fun entry he => ?_, fun entry he => ?_⟩
  · rw [ofLines_eq_collect]
    exact nodup_titles_collect _
  all_goals obtain ⟨stretch, hs, rfl⟩ := hentries entry he
  · exact trim_lastTitle stretch.before
  · exact hs.ne
  · exact hs.rows

/-- The sections of maps are the well-formed ones, which are those that are read back when they are
written out. So writing out the sections of a map and reading them again changes nothing. -/
theorem ofLines_image :
    (∀ sections : Sections,
      ((∃ lines, ofLines lines = sections) ↔ sections.WellFormed) ∧
      (sections.WellFormed ↔ ofLines sections.toLines = sections)) ∧
    ∀ lines, ofLines (ofLines lines).toLines = ofLines lines := by
  refine ⟨fun sections => ⟨⟨?_, fun h => ?_⟩, fun h => h.ofLines_toLines, fun h => ?_⟩,
    fun lines => (wellFormed_ofLines lines).ofLines_toLines⟩
  · rintro ⟨lines, rfl⟩
    exact wellFormed_ofLines lines
  · exact ⟨sections.toLines, h.ofLines_toLines⟩
  · rw [← h]
    exact wellFormed_ofLines _

example : (Sections.mk [("a", [" x"]), ("", [" y", " z"])]).toLines =
    ["a", " x", "\t", " y", " z"] := by decide

end Sections

end LinkerMap
