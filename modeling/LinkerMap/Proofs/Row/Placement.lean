import LinkerMap.Proofs.Row.Division
import LinkerMap.Proofs.Row.Writing

/-! # Where the fields stand in a row

The fields that are read off a row stand in it one behind the other, with blanks in front of each.
The blanks that are trimmed off a name belong to the gaps around it. A row may begin with anything
else, but its fields are read at the first place where such a row can begin.
-/

namespace LinkerMap

namespace Row

variable {p : CharClass} {ps : List CharClass} {c : Char} {cs row run rest : List Char}
  {reading : Reading}

/-- Every blank of a row is a space. -/
def IsSpaced (row : String) : Prop :=
  ∀ c ∈ row.toList, blank c = true → c = ' '

instance (row : String) : Decidable (IsSpaced row) :=
  decidable_of_iff (row.toList.all fun c => !blank c || c == ' ') (by
    simp [IsSpaced, imp_iff_not_or])

theorem IsRun.isWord_trimList (h : IsRun nonSpace run) (hs : ∀ c ∈ run, blank c = true → c = ' ') :
    IsWord (Text.trimList run) := by
  have hw : IsWord run := by
    refine ⟨h.1, fun c hc => ?_⟩
    by_contra hb
    have hn := h.2 c hc
    rw [hs c hc (by simpa using hb)] at hn
    cases hn
  rwa [Text.trimList_eq_self_iff.mpr hw.isTrimmed]

def Gap.ofRun (h : IsRun blank run) : Gap :=
  ⟨String.ofList run, by rwa [String.toList_ofList]⟩

@[simp] theorem Gap.toList_text_ofRun (h : IsRun blank run) : (Gap.ofRun h).text.toList = run :=
  String.toList_ofList

theorem head?_rest_of_runsAt? (h : runsAt? [p] cs = some ⟨[run], rest⟩) :
    ∀ c ∈ rest.head?, p c = false := by
  intro c hc
  by_contra hp
  obtain ⟨rest, rfl⟩ := List.head?_eq_some_iff.mp hc
  have hg := isGreatest_runsAt? h
  obtain ⟨hrun, -⟩ := List.forall₂_cons.mp (runsAt?_sound h).1
  have hlong : IsRun p (run ++ [c]) := hrun.append (by simpa using hp)
  have hcs : cs = [run ++ [c]].flatten ++ rest := by
    rw [hg.eq]
    simp
  have hlength : (run ++ [c]).length = run.length + 1 := List.length_append
  rcases cons_le_cons_iff.mp
    (hg.lengths_le (forall₂_holds_required.mpr (.cons hlong .nil)) hcs) with hlt | ⟨he, -⟩
  · omega
  · omega

theorem space_mem_takeWhile_blank (h : ∀ c ∈ rest.head?, nonSpace c = false) (hne : rest ≠ []) :
    ' ' ∈ rest.takeWhile blank := by
  obtain ⟨c, rest, rfl⟩ := List.exists_cons_of_ne_nil hne
  obtain rfl : c = ' ' := by simpa [nonSpace] using h c rfl
  rw [List.takeWhile_cons_of_pos (by decide)]
  exact List.mem_cons_self

theorem exists_first_place (h : find? ps row = some reading) : ∃ before,
    row = before ++ (reading.runs.flatten ++ reading.rest) ∧
      List.Forall₂ IsRun ps reading.runs ∧
      ∀ d : Division, d.Divides (ps.map required) row → before.length ≤ d.before.length := by
  obtain ⟨before, hfirst⟩ := isFirst_of_find? h (isGreatest_nil reading.rest)
  rw [List.append_nil, List.append_nil] at hfirst
  exact ⟨before, hfirst.divides.eq, forall₂_holds_required.mp hfirst.divides.holds,
    hfirst.before_le⟩

end Row

namespace Segment

open Row

variable {row : String} {segment : Segment}

/-- The fields of a segment, each as it must be, and where they stand in a row: there is no earlier
place in the row where a segment could be read. -/
structure StandsIn (segment : Segment) (row before : String) (gaps : Nat → Gap) (behind : String) :
    Prop where
  row_eq : row = before ++ segment.spacedRow gaps behind
  before_le : ∀ d : Division, d.Divides parts row.toList →
    before.toList.length ≤ d.before.length
  space_not_mem_name : ' ' ∉ segment.name.toList
  trim_name : Text.trim segment.name = segment.name
  start : IsRun hex segment.start.text.toList
  size : IsRun hex segment.size.text.toList
  offset : IsRun hex segment.offset.text.toList

theorem exists_standsIn (h : ofRow? row = some segment) :
    ∃ before gaps behind, segment.StandsIn row before gaps behind := by
  obtain ⟨reading, hf⟩ := Option.isSome_iff_exists.mp
    (isSome_ofRow? row ▸ Option.isSome_iff_exists.mpr ⟨segment, h⟩)
  obtain ⟨b₀, name, b₁, start, b₂, size, b₃, offset, rest, rfl⟩ := exists_runs hf
  obtain ⟨before, hrow, hruns, hfirst⟩ := exists_first_place hf
  simp only [pattern, List.forall₂_cons, List.Forall₂.nil, and_true] at hruns
  obtain ⟨h₀, hname, h₁, hstart, h₂, hsize, h₃, hoffset⟩ := hruns
  obtain ⟨front, back, hfront, hback, hglue⟩ := Text.exists_append_trimList name
  rw [ofRow?_of_find? hf, Option.some.injEq] at h
  subst h
  -- The blanks trimmed off the name go to the gaps in front of it and behind it.
  let gaps : List Gap :=
    [.ofRun (h₀.append hfront), .ofRun (h₁.prepend hback), .ofRun h₂, .ofRun h₃]
  refine ⟨String.ofList before, fun i => gaps.getD i (.spaces 0), String.ofList rest,
    ?_, ?_, ?_, Text.trim_trim _, ?_, ?_, ?_⟩
  · rw [← String.toList_inj, hrow]
    simp [gaps, spacedRow, hglue]
  · rw [String.toList_ofList]
    exact hfirst
  · simpa using hname.space_not_mem_trimList
  · simpa using hstart
  · simpa using hsize
  · simpa using hoffset

theorem isWord_name (h : ofRow? row = some segment) (hs : IsSpaced row) :
    IsWord segment.name.toList := by
  obtain ⟨name, hread⟩ := exists_readOff h
  rw [hread.name_eq, Text.toList_trim, String.toList_ofList]
  exact hread.name.isWord_trimList fun c hc => hs c (hread.piece.subset hc)

end Segment

namespace Symbol

open Row

variable {row origin : String} {symbol : Symbol} {bs cs : List Char}

theorem isSome_moduleOf?_iff :
    (moduleOf? cs).isSome = true ↔ ∃ c ∈ cs, blank c = false := by
  have hline : (moduleOf? cs).isSome = true ↔
      ∃ c ∈ (cs.dropWhile blank).takeWhile (· != '\n'), blank c = false := by
    simp [moduleOf?_eq, Text.trim_eq_empty_iff, blank]
  rw [hline]
  constructor
  · rintro ⟨c, hc, hb⟩
    exact ⟨c, (List.dropWhile_sublist _).subset ((List.takeWhile_sublist _).subset hc), hb⟩
  · intro h
    obtain ⟨blanks, c, behind, rfl, hc, hblanks⟩ :=
      exists_first (p := (!blank ·)) (by simpa using h)
    simp only [Bool.not_eq_true', Bool.not_eq_false'] at hc hblanks
    have hlf : (c != '\n') = true := by
      rw [bne_iff_ne]
      rintro rfl
      cases hc
    refine ⟨c, ?_, hc⟩
    rw [List.dropWhile_append_of_pos hblanks, List.dropWhile_cons_of_neg (by simp [hc]),
      List.takeWhile_cons_of_pos (p := (· != '\n')) hlf]
    exact List.mem_cons_self

theorem exists_of_moduleOf? (h : moduleOf? cs = some origin) :
    IsOrigin origin ∧ ∃ rest, cs = cs.takeWhile blank ++ (origin.toList ++ rest) := by
  rw [moduleOf?_eq] at h
  obtain ⟨he, hne⟩ := Option.filter_eq_some_iff.mp h
  obtain rfl := Option.some.inj he
  have hprefix := List.takeWhile_prefix (· != '\n') (l := cs.dropWhile blank)
  have hhead : ∀ c ∈ ((cs.dropWhile blank).takeWhile (· != '\n')).head?, blank c = false := by
    intro c hc
    obtain ⟨more, hm⟩ := hprefix
    have hfirst : c ∈ (cs.dropWhile blank).head? := hm ▸ List.mem_head?_append_of_mem_head? hc
    exact not_of_mem_head?_dropWhile hfirst
  obtain ⟨rest, hrest⟩ := (Text.trimList_prefix hhead).trans hprefix
  refine ⟨⟨by simpa using hne, ?_, ?_⟩, rest, ?_⟩
  · rw [Text.toList_trim, String.toList_ofList]
    intro hlf
    cases List.mem_takeWhile_imp ((Text.trimList_infix _).subset hlf)
  · rw [Text.toList_trim]
    exact Text.isTrimmed_trimList _
  · rw [Text.toList_trim, String.toList_ofList, hrest, List.takeWhile_append_dropWhile]

theorem isSome_moduleOf?_iff_append (hb : ∀ c ∈ bs, blank c = true) :
    (moduleOf? cs).isSome = true ↔ ∃ c ∈ bs ++ cs, blank c = false := by
  rw [isSome_moduleOf?_iff]
  constructor
  · rintro ⟨c, hc, hn⟩
    exact ⟨c, List.mem_append_right bs hc, hn⟩
  · rintro ⟨c, hc, hn⟩
    rcases List.mem_append.mp hc with hc | hc
    · rw [hb c hc] at hn
      cases hn
    · exact ⟨c, hc, hn⟩

/-- A module behind a name has a space in front of it, since nothing else stops the name. -/
theorem exists_gap_of_moduleOf? (h : moduleOf? cs = some origin) (hb : ∀ c ∈ bs, blank c = true)
    (hstop : ∀ c ∈ cs.head?, nonSpace c = false) : ∃ (gap : Gap) (rest : String),
      ' ' ∈ gap.text.toList ∧ String.ofList (bs ++ cs) = gap.text ++ origin ++ rest := by
  obtain ⟨ho, rest, hrest⟩ := exists_of_moduleOf? h
  have hne : cs ≠ [] := by
    rintro rfl
    simp [ho.ne] at hrest
  have hspace := space_mem_takeWhile_blank hstop hne
  have hgap : IsRun blank (bs ++ cs.takeWhile blank) :=
    .prepend ⟨List.ne_nil_of_mem hspace, fun c hc => List.mem_takeWhile_imp hc⟩ hb
  refine ⟨.ofRun hgap, String.ofList rest, ?_, ?_⟩
  · rw [Gap.toList_text_ofRun]
    exact List.mem_append_right bs hspace
  · rw [← String.toList_inj]
    simpa using hrest

/-- The fields of a symbol, each as it must be, and where they stand in a row: there is no earlier
place in the row where a symbol could be read. Behind the name stand blanks only, or the module. -/
structure StandsIn (symbol : Symbol) (row before : String) (gaps : Nat → Gap) (behind : String) :
    Prop where
  row_eq : row = before ++ symbol.spacedRow gaps behind
  before_le : ∀ d : Division, d.Divides (parts.take 10) row.toList →
    before.toList.length ≤ d.before.length
  start : IsRun hex symbol.start.text.toList
  size : IsRun hex symbol.size.text.toList
  address : IsRun hex symbol.address.text.toList
  kind : IsRun digit symbol.kind.toList
  space_not_mem_name : ' ' ∉ symbol.name.toList
  trim_name : Text.trim symbol.name = symbol.name
  isSome_module_iff : symbol.module?.isSome = true ↔ ∃ c ∈ behind.toList, blank c = false
  origin : ∀ origin ∈ symbol.module?, origin ≠ "" ∧ Text.trim origin = origin ∧
    '\n' ∉ origin.toList ∧ ∃ (gap : Gap) (rest : String),
      ' ' ∈ gap.text.toList ∧ behind = gap.text ++ origin ++ rest

theorem exists_standsIn (h : ofRow? row = some symbol) :
    ∃ before gaps behind, symbol.StandsIn row before gaps behind := by
  obtain ⟨reading, hf⟩ := Option.isSome_iff_exists.mp
    (isSome_ofRow? row ▸ Option.isSome_iff_exists.mpr ⟨symbol, h⟩)
  obtain ⟨b₀, start, b₁, size, b₂, address, b₃, kind, b₄, name, rest, rfl⟩ := exists_runs hf
  obtain ⟨before, hrow, hruns, hfirst⟩ := exists_first_place hf
  simp only [pattern, List.forall₂_cons, List.Forall₂.nil, and_true] at hruns
  obtain ⟨h₀, hstart, h₁, hsize, h₂, haddress, h₃, hkind, h₄, hname⟩ := hruns
  obtain ⟨front, back, hfront, hback, hglue⟩ := Text.exists_append_trimList name
  rw [ofRow?_of_find? hf, Option.some.injEq] at h
  subst h
  let gaps : List Gap :=
    [.ofRun h₀, .ofRun h₁, .ofRun h₂, .ofRun h₃, .ofRun (h₄.append hfront)]
  refine ⟨String.ofList before, fun i => gaps.getD i (.spaces 0), String.ofList (back ++ rest),
    ?_, ?_, ?_, ?_, ?_, ?_, ?_, Text.trim_trim _, ?_, ?_⟩
  · rw [← String.toList_inj, hrow]
    simp [gaps, spacedRow, hglue]
  · rw [String.toList_ofList]
    exact hfirst
  · simpa using hstart
  · simpa using hsize
  · simpa using haddress
  · simpa using hkind
  · simpa using hname.space_not_mem_trimList
  · rw [String.toList_ofList]
    exact isSome_moduleOf?_iff_append hback
  · intro origin horigin
    obtain ⟨ho, -⟩ := exists_of_moduleOf? horigin
    obtain ⟨_, _, _, hread, _⟩ := exists_of_find? hf
    have hstop := head?_rest_of_runsAt? (runsAt?_drop hread 9)
    exact ⟨ho.ne, Text.trim_eq_self_iff.mpr ho.isTrimmed, ho.lf_not_mem,
      exists_gap_of_moduleOf? horigin hback hstop⟩

theorem isWord_name (h : ofRow? row = some symbol) (hs : IsSpaced row) :
    IsWord symbol.name.toList := by
  obtain ⟨name, _, hread⟩ := exists_readOff h
  rw [hread.name_eq, Text.toList_trim, String.toList_ofList]
  exact hread.name.isWord_trimList fun c hc => hs c (hread.piece.subset hc)

theorem StandsIn.isSome_module_iff_of_isSpaced {before behind : String} {gaps : Nat → Gap}
    (h : symbol.StandsIn row before gaps behind) (hs : IsSpaced row) :
    symbol.module?.isSome = true ↔ ∃ c ∈ behind.toList, c ≠ ' ' := by
  rw [h.isSome_module_iff]
  refine exists_congr fun c => and_congr_right fun hc => ?_
  have hrow : c ∈ row.toList := by simp [h.row_eq, spacedRow, hc]
  constructor
  · rintro hb rfl
    cases hb
  · intro hne
    by_contra hb
    exact hne (hs c hrow (by simpa using hb))

end Symbol

namespace Row

/-- The fields that are read off a row are as they must be, and stand in it in their order with
blanks in front of each, from the first place on where this is possible. If all blanks of the row
are spaces, there is a name, which is one word, and a module exactly when something else than spaces
stands behind the name. -/
theorem fields_stand_in_row :
    (∀ (row : String) (symbol : Symbol), Symbol.ofRow? row = some symbol →
      ∃ before gaps behind, symbol.StandsIn row before gaps behind ∧
        (IsSpaced row → IsWord symbol.name.toList ∧
          (symbol.module?.isSome = true ↔ ∃ c ∈ behind.toList, c ≠ ' '))) ∧
    ∀ (row : String) (segment : Segment), Segment.ofRow? row = some segment →
      ∃ before gaps behind, segment.StandsIn row before gaps behind ∧
        (IsSpaced row → IsWord segment.name.toList) := by
  constructor
  · intro row symbol h
    obtain ⟨before, gaps, behind, hs⟩ := Symbol.exists_standsIn h
    exact ⟨before, gaps, behind, hs, fun hspaced =>
      ⟨Symbol.isWord_name h hspaced, hs.isSome_module_iff_of_isSpaced hspaced⟩⟩
  · intro row segment h
    obtain ⟨before, gaps, behind, hs⟩ := Segment.exists_standsIn h
    exact ⟨before, gaps, behind, hs, fun hspaced => Segment.isWord_name h hspaced⟩

/-- Fields set apart by tabs and wide spaces behind another word, and rows with spaces only. -/
theorem fields_stand_in_row_tabs :
    (∃ before gaps behind, Symbol.StandsIn ⟨⟨"1a"⟩, ⟨"2"⟩, ⟨"3"⟩, "٤", "f\tg", some "lib a.o"⟩
      "x 1a\t2 3\u2003  ٤ \tf\tg\t lib a.o\t\n5" before gaps behind) ∧
    (∃ before gaps behind, Symbol.StandsIn ⟨⟨"1a"⟩, ⟨"2"⟩, ⟨"3"⟩, "4", "f", some "a.o"⟩
      " 1a 2 3  4 f  a.o " before gaps behind ∧ IsWord "f".toList ∧
        ((some "a.o").isSome = true ↔ ∃ c ∈ behind.toList, c ≠ ' ')) ∧
    ∃ before gaps behind, Segment.StandsIn ⟨".text", ⟨"1a"⟩, ⟨"2"⟩, ⟨"3"⟩⟩
      "x .text  1a 2 3g" before gaps behind ∧ IsWord ".text".toList := by
  refine ⟨?_, ?_, ?_⟩
  · obtain ⟨before, gaps, behind, hs, -⟩ := fields_stand_in_row.1
      "x 1a\t2 3\u2003  ٤ \tf\tg\t lib a.o\t\n5"
      ⟨⟨"1a"⟩, ⟨"2"⟩, ⟨"3"⟩, "٤", "f\tg", some "lib a.o"⟩ (by decide +kernel)
    exact ⟨before, gaps, behind, hs⟩
  · obtain ⟨before, gaps, behind, hs, hspaced⟩ := fields_stand_in_row.1 " 1a 2 3  4 f  a.o "
      ⟨⟨"1a"⟩, ⟨"2"⟩, ⟨"3"⟩, "4", "f", some "a.o"⟩ (by decide +kernel)
    exact ⟨before, gaps, behind, hs, hspaced (by decide +kernel)⟩
  · obtain ⟨before, gaps, behind, hs, hspaced⟩ := fields_stand_in_row.2 "x .text  1a 2 3g"
      ⟨".text", ⟨"1a"⟩, ⟨"2"⟩, ⟨"3"⟩⟩ (by decide +kernel)
    exact ⟨before, gaps, behind, hs, hspaced (by decide +kernel)⟩

end Row

end LinkerMap
