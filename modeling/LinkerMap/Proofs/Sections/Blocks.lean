import LinkerMap.Proofs.Sections.Splitting
import Mathlib.Data.List.Nodup

/-! # Maps made of blocks

A map may be written as blocks with any number of empty lines between them. When no two of them have
one title, each title has the rows of its block, wherever that block stands.
-/

namespace LinkerMap

namespace Splitter

variable {line : String}

/-- A title ends whatever is read in front of it. -/
theorem after_append_title (s : Splitter) (ls ms : List String) (he : line ≠ "")
    (ht : isBodyLine line = false) :
    s.after (ls ++ line :: ms) = (s.after ls).after (line :: ms) := by
  simp only [after, List.foldl_append, List.foldl_cons, read_title he ht, commit_commit]

theorem after_append_replicate (s : Splitter) (ls : List String) (n : Nat) :
    s.after (ls ++ List.replicate n "") = s.after ls := by
  rw [after, after, List.foldl_append]
  generalize ls.foldl read s = t
  cases n with
  | zero => rfl
  | succ n =>
    rw [List.replicate_succ, List.foldl_cons, read_empty, foldl_read_empty t.body_commit,
      commit_commit]

end Splitter

/-- A block with empty lines behind it. -/
structure SpacedBlock extends Block where
  trail : Nat

namespace SpacedBlock

/-- The title under which the rows are found. -/
def key (block : SpacedBlock) : String :=
  Text.trim block.title

def lines (block : SpacedBlock) : List String :=
  block.toBlock.lines ++ List.replicate block.trail ""

structure WellFormed (block : SpacedBlock) : Prop extends block.toBlock.WellFormed where
  rows_ne : block.rows ≠ []

instance (block : SpacedBlock) : Decidable block.WellFormed :=
  decidable_of_iff ((block.title ≠ "" ∧ isBodyLine block.title = false ∧
      ∀ row ∈ block.rows, isBodyLine row = true) ∧ block.rows ≠ [])
    ⟨fun ⟨⟨ht, hb, hr⟩, hn⟩ => ⟨⟨ht, hb, hr⟩, hn⟩,
      fun h => ⟨⟨h.title_ne, h.title_not_row, h.rows⟩, h.rows_ne⟩⟩

/-- Blocks put in another order, and blocks without any of the given titles put in or left out. -/
inductive Rearranged (titles : List String) : List SpacedBlock → List SpacedBlock → Prop
  | perm {blocks blocks' : List SpacedBlock} : blocks.Perm blocks' →
      Rearranged titles blocks blocks'
  | putIn {block : SpacedBlock} {before behind : List SpacedBlock} : block.key ∉ titles →
      Rearranged titles (before ++ behind) (before ++ block :: behind)
  | leaveOut {block : SpacedBlock} {before behind : List SpacedBlock} : block.key ∉ titles →
      Rearranged titles (before ++ block :: behind) (before ++ behind)
  | trans {blocks blocks' blocks'' : List SpacedBlock} : Rearranged titles blocks blocks' →
      Rearranged titles blocks' blocks'' → Rearranged titles blocks blocks''

theorem Rearranged.mem_iff {titles : List String} {blocks blocks' : List SpacedBlock}
    {block : SpacedBlock} (h : Rearranged titles blocks blocks') (hb : block.key ∈ titles) :
    block ∈ blocks ↔ block ∈ blocks' := by
  induction h with
  | perm hp => exact hp.mem_iff
  | @putIn other before behind ho =>
    have hne : block ≠ other := fun he => ho (he ▸ hb)
    simp [hne]
  | @leaveOut other before behind ho =>
    have hne : block ≠ other := fun he => ho (he ▸ hb)
    simp [hne]
  | trans _ _ ih ih' => exact ih.trans ih'

end SpacedBlock

namespace Splitter

variable {block : SpacedBlock} {blocks : List SpacedBlock}

theorem after_spacedBlock (s : Splitter) (h : block.WellFormed) :
    s.after block.lines = ⟨block.addTo s.commit.sections, block.key, #[]⟩ := by
  rw [SpacedBlock.lines, after_append_replicate, after_block s h.toWellFormed]
  rfl

theorem after_append_spacedBlock (s : Splitter) (ls ms : List String) (h : block.WellFormed) :
    s.after (ls ++ (block.lines ++ ms)) = (s.after ls).after (block.lines ++ ms) :=
  after_append_title s ls _ h.title_ne h.title_not_row

theorem sections_after_spacedBlocks (s : Splitter) (h : ∀ block ∈ blocks, block.WellFormed) :
    (s.after (blocks.flatMap SpacedBlock.lines)).sections =
      (blocks.map SpacedBlock.toBlock).foldl (fun sections block => block.addTo sections)
        s.commit.sections := by
  induction blocks generalizing s with
  | nil => rfl
  | cons block blocks ih =>
    rw [List.forall_mem_cons] at h
    rw [List.flatMap_cons, List.map_cons, List.foldl_cons]
    cases blocks with
    | nil => simp [after_spacedBlock s h.1]
    | cons next blocks =>
      have hi := ih (s.after block.lines) h.2
      rw [List.flatMap_cons] at hi ⊢
      rw [after_append_spacedBlock s _ _ (h.2 next List.mem_cons_self), hi,
        after_spacedBlock s h.1, commit_of_body_eq rfl]

end Splitter

namespace Sections

variable {blocks : List SpacedBlock} {title : String} {rows : List String}

def ofBlocks (blocks : List SpacedBlock) : Sections :=
  ofLines (blocks.flatMap SpacedBlock.lines)

theorem ofBlocks_eq_foldl (h : ∀ block ∈ blocks, block.WellFormed) : ofBlocks blocks =
    (blocks.map SpacedBlock.toBlock).foldl (fun sections block => block.addTo sections) empty := by
  rw [ofBlocks, ofLines_eq_after, Splitter.sections_after_spacedBlocks _ h]
  rfl

theorem get?_ofBlocks_eq_some_iff (h : ∀ block ∈ blocks, block.WellFormed)
    (hn : (blocks.map SpacedBlock.key).Nodup) :
    (ofBlocks blocks).get? title = some rows ↔
      ∃ block ∈ blocks, block.key = title ∧ block.rows = rows := by
  rw [ofBlocks_eq_foldl h]
  by_cases hb : ∃ block ∈ blocks, block.key = title
  · obtain ⟨block, hb, rfl⟩ := hb
    have hkeys : ((blocks.map SpacedBlock.toBlock).map fun block =>
        Text.trim block.title).Nodup := by
      rw [List.map_map]
      exact hn
    rw [SpacedBlock.key, get?_foldl_addTo_of_mem hkeys (List.mem_map_of_mem hb)
      (h block hb).rows_ne, Option.some.injEq]
    constructor
    · intro hr
      exact ⟨block, hb, rfl, hr⟩
    · rintro ⟨other, ho, he, rfl⟩
      rw [List.inj_on_of_nodup_map hn ho hb he]
  · have hother : ∀ block ∈ blocks.map SpacedBlock.toBlock, block.rows ≠ [] →
        Text.trim block.title ≠ title := by
      intro block hm _ he
      obtain ⟨spaced, hs, rfl⟩ := List.mem_map.mp hm
      exact hb ⟨spaced, hs, he⟩
    rw [get?_foldl_addTo_of_forall hother]
    constructor
    · intro hr
      simp [get?, empty] at hr
    · rintro ⟨block, hm, he, -⟩
      exact absurd ⟨block, hm, he⟩ hb

theorem get?_ofBlocks_of_rearranged {blocks' : List SpacedBlock} {titles : List String}
    (h : ∀ block ∈ blocks, block.WellFormed) (h' : ∀ block ∈ blocks', block.WellFormed)
    (hn : (blocks.map SpacedBlock.key).Nodup) (hn' : (blocks'.map SpacedBlock.key).Nodup)
    (hr : SpacedBlock.Rearranged titles blocks blocks') (ht : title ∈ titles) :
    (ofBlocks blocks).get? title = (ofBlocks blocks').get? title := by
  ext rows
  rw [get?_ofBlocks_eq_some_iff h hn, get?_ofBlocks_eq_some_iff h' hn']
  constructor
  · rintro ⟨block, hb, rfl, he⟩
    exact ⟨block, (hr.mem_iff ht).mp hb, rfl, he⟩
  · rintro ⟨block, hb, rfl, he⟩
    exact ⟨block, (hr.mem_iff ht).mpr hb, rfl, he⟩

end Sections

end LinkerMap
