import LinkerMap.Proofs.Row.Writing
import LinkerMap.Proofs.Script.Reference
import LinkerMap.Proofs.Sections.Splitting
import Mathlib.Data.List.Nodup

/-! # Maps as they are written

A document is a memory map and the layouts of some of its segments, in any order. Each row of its
text is found again under its title.
-/

namespace LinkerMap

theorem mem_intercalate {α : Type} {a : α} {sep : List α} {ls : List (List α)}
    (h : a ∈ sep.intercalate ls) : a ∈ sep ∨ ∃ l ∈ ls, a ∈ l := by
  induction ls with
  | nil => simp at h
  | cons l ls ih =>
    by_cases hn : ls = []
    · subst hn
      exact .inr ⟨l, List.mem_cons_self, by simpa using h⟩
    · rw [List.intercalate_cons_of_ne_nil hn, List.mem_append, List.mem_append] at h
      rcases h with (h | h) | h
      · exact .inr ⟨l, List.mem_cons_self, h⟩
      · exact .inl h
      · exact (ih h).imp_right fun ⟨m, hm, ha⟩ => ⟨m, List.mem_cons_of_mem _ hm, ha⟩

/-- A segment of a document, with the spaces of its row, the empty lines under the title of its
layout, and the rows of the layout with their spaces. Without rows, no layout is written. -/
structure Entry where
  segment : Segment
  gaps : Nat → Nat
  lead : Nat
  layout : List ((Nat → Nat) × Symbol)

/-- The entries of a memory map, the empty lines under its title, the entries that have a layout in
the order in which the layouts stand, and whether the last line ends. -/
structure Document where
  entries : List Entry
  lead : Nat
  layouts : List Entry
  ended : Bool

namespace Entry

def symbols (entry : Entry) : List Symbol :=
  entry.layout.map Prod.snd

def row (entry : Entry) : String :=
  entry.segment.row entry.gaps

def rows (entry : Entry) : List String :=
  entry.layout.map fun line => line.2.row line.1

def title (entry : Entry) : String :=
  Sections.layoutTitle entry.segment.name

def block (entry : Entry) : Block :=
  ⟨entry.title, entry.lead, entry.rows⟩

@[mk_iff]
structure IsWritable (entry : Entry) : Prop where
  segment : entry.segment.IsWritable
  layout : ∀ line ∈ entry.layout, line.2.IsWritable

instance (entry : Entry) : Decidable entry.IsWritable :=
  decidable_of_iff _ (isWritable_iff entry).symm

end Entry

namespace Sections

theorem memoryMap_ne_empty : memoryMap ≠ "" := by decide

theorem isBodyLine_memoryMap : isBodyLine memoryMap = false := by decide

theorem trim_memoryMap : Text.trim memoryMap = memoryMap := by decide

theorem isLine_memoryMap : Text.IsLine memoryMap := ⟨by decide, by decide⟩

theorem layoutTitle_inj {s t : String} : layoutTitle s = layoutTitle t ↔ s = t := by
  refine ⟨fun h => ?_, fun h => by rw [h]⟩
  have hl := congrArg String.toList h
  simp only [layoutTitle, String.toList_append] at hl
  exact String.toList_inj.mp (List.append_cancel_right hl)

theorem toList_layoutTitle (segment : String) :
    (layoutTitle segment).toList = segment.toList ++ " section layout".toList := by
  simp [layoutTitle]

theorem isTrimmed_layoutTitle {segment : String} (hne : segment ≠ "")
    (h : Text.IsTrimmed segment.toList) : Text.IsTrimmed (layoutTitle segment).toList := by
  rw [toList_layoutTitle]
  constructor
  · rw [List.head?_append_of_ne_nil _ (by simpa using hne)]
    exact h.1
  · have hl : " section layout".toList.getLast? = some 't' := by decide
    rw [List.getLast?_append_of_ne_nil _ (by decide), hl]
    rintro c ⟨⟩
    decide

theorem memoryMap_ne_layoutTitle (segment : String) : memoryMap ≠ layoutTitle segment := by
  intro h
  have hl : 11 = (segment ++ " section layout").length := congrArg String.length h
  rw [String.length_append] at hl
  change 11 = segment.length + 15 at hl
  omega

end Sections

namespace Entry

open Row

variable {entry : Entry}

theorem toList_title (entry : Entry) :
    entry.title.toList = entry.segment.name.toList ++ " section layout".toList :=
  Sections.toList_layoutTitle entry.segment.name

theorem isTrimmed_title (h : IsWord entry.segment.name.toList) :
    Text.IsTrimmed entry.title.toList :=
  Sections.isTrimmed_layoutTitle (fun he => h.1 (by simp [he])) h.isTrimmed

theorem isLine_title (h : IsWord entry.segment.name.toList) : Text.IsLine entry.title := by
  refine Text.isLine_of_isTrimmed (isTrimmed_title h) ?_
  rw [toList_title, List.mem_append]
  exact not_or.mpr ⟨h.lf_not_mem, by decide⟩

theorem trim_title (h : IsWord entry.segment.name.toList) : Text.trim entry.title = entry.title :=
  Text.trim_eq_self_iff.mpr (isTrimmed_title h)

theorem wellFormed_block (h : IsWord entry.segment.name.toList) : entry.block.WellFormed where
  title_ne := by
    intro he
    have hl := congrArg String.toList he
    simp [block, toList_title] at hl
  title_not_row := isBodyLine_of_isTrimmed (isTrimmed_title h)
  rows := by
    intro row hr
    obtain ⟨line, -, rfl⟩ := List.mem_map.mp hr
    exact line.2.isBodyLine_row line.1

theorem isLine_of_mem_block (h : entry.IsWritable) :
    ∀ l ∈ entry.block.lines, Text.IsLine l := by
  refine Block.isLine_of_mem_lines (isLine_title h.segment.name) fun row hr => ?_
  obtain ⟨line, hm, rfl⟩ := List.mem_map.mp hr
  exact Symbol.isLine_row (h.layout line hm) line.1

end Entry

namespace Document

variable {document : Document} {entry : Entry}

def mapBlock (document : Document) : Block :=
  ⟨Sections.memoryMap, document.lead, document.entries.map Entry.row⟩

def blocks (document : Document) : List Block :=
  document.mapBlock :: document.layouts.map Entry.block

def lines (document : Document) : List String :=
  [""].intercalate (document.blocks.map Block.lines)

def text (document : Document) : String :=
  if document.ended then Text.unlines document.lines else "\n".intercalate document.lines

/-- No two segments have one name, each can be written, and the layouts are those of the entries
that have one. -/
structure WellFormed (document : Document) : Prop where
  names : (document.entries.map (·.segment.name)).Nodup
  entries : ∀ entry ∈ document.entries, entry.IsWritable
  layouts : document.layouts.Perm (document.entries.filter (!·.layout.isEmpty))

theorem mem_layouts_iff (h : document.WellFormed) :
    entry ∈ document.layouts ↔ entry ∈ document.entries ∧ entry.layout ≠ [] := by
  rw [h.layouts.mem_iff, List.mem_filter]
  simp

theorem isWord_name (h : document.WellFormed) (he : entry ∈ document.entries) :
    Row.IsWord entry.segment.name.toList :=
  (h.entries entry he).segment.name

theorem wellFormed_of_mem_blocks (h : document.WellFormed) :
    ∀ block ∈ document.blocks, block.WellFormed := by
  rw [blocks, List.forall_mem_cons]
  constructor
  · refine ⟨Sections.memoryMap_ne_empty, Sections.isBodyLine_memoryMap, fun row hr => ?_⟩
    obtain ⟨entry, -, rfl⟩ := List.mem_map.mp hr
    exact entry.segment.isBodyLine_row entry.gaps
  · intro block hb
    obtain ⟨entry, he, rfl⟩ := List.mem_map.mp hb
    exact entry.wellFormed_block (isWord_name h ((mem_layouts_iff h).mp he).1)

theorem isLine_of_mem_blocks (h : document.WellFormed) :
    ∀ block ∈ document.blocks, ∀ l ∈ block.lines, Text.IsLine l := by
  rw [blocks, List.forall_mem_cons]
  constructor
  · refine Block.isLine_of_mem_lines Sections.isLine_memoryMap fun row hr => ?_
    obtain ⟨entry, he, rfl⟩ := List.mem_map.mp hr
    exact Segment.isLine_row (h.entries entry he).segment entry.gaps
  · intro block hb
    obtain ⟨entry, he, rfl⟩ := List.mem_map.mp hb
    exact entry.isLine_of_mem_block (h.entries entry ((mem_layouts_iff h).mp he).1)

theorem isLine_of_mem_lines (h : document.WellFormed) :
    ∀ l ∈ document.lines, Text.IsLine l := by
  intro l hl
  rcases mem_intercalate hl with hl | ⟨lines, hm, hl⟩
  · rw [List.mem_singleton.mp hl]
    exact Text.isLine_empty
  · obtain ⟨block, hb, rfl⟩ := List.mem_map.mp hm
    exact isLine_of_mem_blocks h block hb l hl

theorem trim_title_mapBlock (document : Document) :
    Text.trim document.mapBlock.title = Sections.memoryMap :=
  Sections.trim_memoryMap

theorem trim_title_block (h : document.WellFormed) (he : entry ∈ document.entries) :
    Text.trim entry.block.title = entry.title :=
  entry.trim_title (isWord_name h he)

theorem eq_of_title_eq (h : document.WellFormed) {other : Entry} (he : entry ∈ document.entries)
    (ho : other ∈ document.entries) (ht : entry.title = other.title) : entry = other :=
  List.inj_on_of_nodup_map h.names he ho (Sections.layoutTitle_inj.mp ht)

theorem nodup_titles (h : document.WellFormed) :
    (document.blocks.map fun block => Text.trim block.title).Nodup := by
  have ht : (document.layouts.map Entry.block).map (fun block => Text.trim block.title) =
      document.layouts.map Entry.title := by
    rw [List.map_map]
    exact List.map_congr_left fun entry he => trim_title_block h ((mem_layouts_iff h).mp he).1
  rw [blocks, List.map_cons, trim_title_mapBlock, ht, List.nodup_cons]
  constructor
  · intro hm
    obtain ⟨entry, -, he⟩ := List.mem_map.mp hm
    exact Sections.memoryMap_ne_layoutTitle _ he.symm
  · have hn : (document.entries.map Entry.title).Nodup :=
      List.Nodup.map_on (fun e he o ho ht => eq_of_title_eq h he ho ht) (.of_map _ h.names)
    exact (h.layouts.map _).nodup_iff.mpr ((List.filter_sublist.map _).nodup hn)

/-- The sections of a document, block by block. -/
def sections (document : Document) : Sections :=
  document.blocks.foldl (fun sections block => block.addTo sections) .empty

/-- The text of a document has its sections. -/
theorem ofText_text (h : document.WellFormed) :
    Sections.ofText document.text = document.sections := by
  have hl := isLine_of_mem_lines h
  have he : Sections.ofText document.text = Sections.ofLines document.lines := by
    unfold text
    split
    · rw [← Text.intercalate_append_empty, Sections.ofText_intercalate,
        Sections.ofLines_append_empty]
      exact List.forall_mem_append.mpr ⟨hl, by simpa using Text.isLine_empty⟩
    · exact Sections.ofText_intercalate hl
  rw [he, Sections.ofLines_eq_after, lines,
    Splitter.sections_after_blocks _ (by simp [blocks]) (wellFormed_of_mem_blocks h)]
  rfl

theorem get?_trim_title {block : Block} (h : document.WellFormed) (hb : block ∈ document.blocks)
    (hr : block.rows ≠ []) : document.sections.get? (Text.trim block.title) = some block.rows :=
  Sections.get?_foldl_addTo_of_mem (nodup_titles h) hb hr

theorem mapRows_sections (h : document.WellFormed) :
    document.sections.mapRows = document.entries.map Entry.row := by
  by_cases he : document.entries = []
  · have hl : document.layouts = [] := by
      rw [← List.perm_nil]
      simpa [he] using h.layouts
    have hs : document.sections = .empty := by
      simp [sections, blocks, mapBlock, he, hl, Block.addTo]
    rw [hs, he]
    rfl
  · have hr : document.mapBlock.rows ≠ [] := mt List.map_eq_nil_iff.mp he
    have hg := get?_trim_title h List.mem_cons_self hr
    rw [trim_title_mapBlock, Sections.memoryMap] at hg
    rw [Sections.mapRows, hg]
    rfl

theorem get?_layoutTitle (h : document.WellFormed) (he : entry ∈ document.entries) :
    document.sections.get? (Sections.layoutTitle entry.segment.name) =
      if entry.layout = [] then none else some entry.rows := by
  change document.sections.get? entry.title = _
  split
  · rename_i hl
    refine (Sections.get?_foldl_addTo_of_forall ?_).trans rfl
    rw [blocks, List.forall_mem_cons, trim_title_mapBlock]
    constructor
    · exact fun _ => Sections.memoryMap_ne_layoutTitle _
    · intro block hb _ ht
      obtain ⟨other, ho, rfl⟩ := List.mem_map.mp hb
      obtain ⟨ho, hn⟩ := (mem_layouts_iff h).mp ho
      rw [trim_title_block h ho] at ht
      exact hn (eq_of_title_eq h ho he ht ▸ hl)
  · rename_i hl
    have hb : entry.block ∈ document.blocks :=
      List.mem_cons_of_mem _ (List.mem_map_of_mem ((mem_layouts_iff h).mpr ⟨he, hl⟩))
    have hg := get?_trim_title h hb (mt List.map_eq_nil_iff.mp hl)
    rwa [trim_title_block h he] at hg

end Document

end LinkerMap
