import LinkerMap.Proofs.Script.Rendering
import LinkerMap.Proofs.Sections.Blocks

/-! # Rearranged maps

The script of a map depends on its memory map and on the layouts of the segments there. Maps made of
blocks that differ in the order of these sections, or in other sections, have one script.
-/

namespace LinkerMap

namespace Sections

variable {sections sections' : Sections} {segment : String}

/-- The titles that the script of a map depends on. -/
def titlesRead (sections : Sections) : List String :=
  memoryMap :: (Findings.ofSections sections).segments.names.toList.map layoutTitle

/-- Every title that is read has the same rows. -/
def AgreeWhereRead (sections sections' : Sections) : Prop :=
  ∀ title ∈ sections.titlesRead, sections.get? title = sections'.get? title

theorem AgreeWhereRead.memoryMap (h : sections.AgreeWhereRead sections') :
    sections.get? memoryMap = sections'.get? memoryMap :=
  h _ List.mem_cons_self

theorem AgreeWhereRead.layout (h : sections.AgreeWhereRead sections')
    (hs : segment ∈ (Findings.ofSections sections).segments.names.toList) :
    sections.get? (layoutTitle segment) = sections'.get? (layoutTitle segment) :=
  h _ (List.mem_cons_of_mem _ (List.mem_map_of_mem hs))

theorem AgreeWhereRead.mapRows (h : sections.AgreeWhereRead sections') :
    sections.mapRows = sections'.mapRows :=
  congrArg (Option.getD · []) h.memoryMap

end Sections

theorem SymbolFindings.ofLayouts_congr {sections sections' : Sections} {segments : List String}
    (h : ∀ segment ∈ segments, sections.get? (Sections.layoutTitle segment) =
      sections'.get? (Sections.layoutTitle segment)) :
    ofLayouts sections segments = ofLayouts sections' segments := by
  have hrows : ∀ segment ∈ segments, sections.layoutRows segment =
      sections'.layoutRows segment :=
    fun segment hs => congrArg (Option.getD · []) (h segment hs)
  rw [ofLayouts, ofLayouts, List.flatMap_congr hrows]
  congr 2
  · exact List.flatMap_congr fun segment hs => by rw [hrows segment hs]
  · exact List.filter_congr fun segment hs => congrArg Option.isNone (h segment hs)

theorem SymbolFindings.statements_ofLayouts (sections : Sections) (segments : List String) :
    (ofLayouts sections segments).statements = segments.flatMap fun segment =>
      ((sections.layoutRows segment).filterMap Symbol.named?).flatMap Symbol.statements := by
  rw [statements, toList_symbols_ofLayouts, List.flatMap_assoc]
  simp only [List.flatMap_map]

theorem Findings.ofSections_congr {sections sections' : Sections}
    (h : sections.AgreeWhereRead sections') : ofSections sections = ofSections sections' := by
  have hl := SymbolFindings.ofLayouts_congr fun _ => h.layout
  calc ofSections sections
      = ⟨(ofSections sections).segments,
          .ofLayouts sections (ofSections sections).segments.names.toList⟩ := rfl
    _ = ⟨(ofSections sections).segments,
          .ofLayouts sections' (ofSections sections).segments.names.toList⟩ := by rw [hl]
    _ = ofSections sections' := by simp only [ofSections, h.mapRows]

namespace Script

open Effect Emission

variable {sections sections' : Sections}

theorem effects_congr (h : sections.AgreeWhereRead sections') :
    effects sections = effects sections' := by
  have hm : mapEffects sections = mapEffects sections' := by
    rw [mapEffects, h.memoryMap, mapEffects]
  have hl : ∀ segment ∈ (Findings.ofSections sections).segments.names.toList,
      layoutEffects sections segment = layoutEffects sections' segment := by
    intro segment hs
    rw [layoutEffects, h.layout hs, layoutEffects]
  rw [effects, hm, List.flatMap_congr hl, Findings.ofSections_congr h, effects]

theorem ofSections_eq_of_agree (h : sections.AgreeWhereRead sections') :
    ofSections sections = ofSections sections' := by
  have hs : ofSections sections = _ := performs_ofSections sections
  have hs' : ofSections sections' = _ := performs_ofSections sections'
  rw [hs, hs', effects_congr h, Findings.ofSections_congr h]

/-- Blocks with different titles may be put in another order, and blocks whose titles are not read
may be put in or left out: the script is the same. Its symbols are named in the order of the memory
map. -/
theorem ofSections_rearranged {blocks blocks' : List SpacedBlock}
    (h : ∀ block ∈ blocks, block.WellFormed) (h' : ∀ block ∈ blocks', block.WellFormed)
    (hn : (blocks.map SpacedBlock.key).Nodup) (hn' : (blocks'.map SpacedBlock.key).Nodup)
    (hr : SpacedBlock.Rearranged (Sections.ofBlocks blocks).titlesRead blocks blocks') :
    ofSections (.ofLines (blocks.flatMap SpacedBlock.lines)) =
      ofSections (.ofLines (blocks'.flatMap SpacedBlock.lines)) ∧
    ∃ found out, ofSections (.ofLines (blocks.flatMap SpacedBlock.lines)) (.empty none) =
        .ok found out ∧
      out.sink.written = (Text.unlines (lines found)).toUTF8 ∧
      found.symbols.statements = found.segments.names.toList.flatMap fun segment =>
        (((Sections.ofBlocks blocks).layoutRows segment).filterMap Symbol.named?).flatMap
          Symbol.statements := by
  have hagree : (Sections.ofBlocks blocks).AgreeWhereRead (.ofBlocks blocks') :=
    fun _ ht => Sections.get?_ofBlocks_of_rearranged h h' hn hn' hr ht
  refine ⟨ofSections_eq_of_agree hagree, ?_⟩
  obtain ⟨notices, hrun⟩ := ofSections_unlimited (.ofBlocks blocks)
  exact ⟨_, _, hrun, rfl, SymbolFindings.statements_ofLayouts _ _⟩

/-- A memory map and its layouts, and the same with a section that is not read and the memory map at
the end. -/
theorem ofSections_rearranged_layoutsFirst :
    let map : SpacedBlock :=
      ⟨⟨"Memory map:", 1, [" .init 80003100 2470 100", " .text 800060e0 330c78 3040"]⟩, 1⟩
    let init : SpacedBlock := ⟨⟨".init section layout", 0, [" 0 24 80003100  4 __start"]⟩, 2⟩
    let text : SpacedBlock := ⟨⟨".text section layout", 0, [" 0 10 800060e0  4 main  m.o"]⟩, 0⟩
    let other : SpacedBlock := ⟨⟨"Linker generated symbols:", 0, [" _stack_end 80400000"]⟩, 1⟩
    (Sections.ofBlocks [map, init, text]).titlesRead =
      ["Memory map:", ".init section layout", ".text section layout"] ∧
    [text, other, init, map].flatMap SpacedBlock.lines = [
      ".text section layout", " 0 10 800060e0  4 main  m.o",
      "Linker generated symbols:", " _stack_end 80400000", "",
      ".init section layout", " 0 24 80003100  4 __start", "", "",
      "Memory map:", "", " .init 80003100 2470 100", " .text 800060e0 330c78 3040", ""] ∧
    ofSections (.ofLines ([map, init, text].flatMap SpacedBlock.lines)) =
      ofSections (.ofLines ([text, other, init, map].flatMap SpacedBlock.lines)) := by
  intro map init text other
  have hput : SpacedBlock.Rearranged (Sections.ofBlocks [map, init, text]).titlesRead
      ([text] ++ [init, map]) ([text] ++ other :: [init, map]) := .putIn (by decide +kernel)
  have hr : SpacedBlock.Rearranged (Sections.ofBlocks [map, init, text]).titlesRead
      [map, init, text] [text, other, init, map] :=
    .trans (.perm (List.reverse_perm [map, init, text]).symm) hput
  exact ⟨by decide +kernel, by decide,
    (ofSections_rearranged (by decide) (by decide) (by decide) (by decide) hr).1⟩

end Script

end LinkerMap
