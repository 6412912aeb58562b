import LinkerMap.Proofs.Row.Fields
import Mathlib.Tactic.MkIffOfInductiveProp

/-! # Blanks between fields

The fields of a row may be set apart by blanks of any kind. A name reads on through the blanks
behind it up to the next space, but these are trimmed off again, so that a name without a space in
it is read as it was written.
-/

namespace LinkerMap

namespace Row

variable {p : CharClass} {ps : List CharClass} {c : Char}
  {gap gap' run name bs cs rest : List Char}
  {runs : List (List Char)}

structure Gap where
  text : String
  isRun : IsRun blank text.toList

/-- A name as it is written: it holds no space, and neither of its ends is blank. -/
@[mk_iff]
structure IsName (cs : List Char) : Prop where
  isRun : IsRun nonSpace cs
  isTrimmed : Text.IsTrimmed cs

instance (cs : List Char) : Decidable (IsName cs) :=
  decidable_of_iff _ (isName_iff cs).symm

theorem hex_of_blank (h : blank c = true) : hex c = false := by
  by_contra hc
  rw [blank_of_hex (by simpa using hc)] at h
  cases h

theorem blank_ofNat_of_mem_decimalZeros : ∀ first ∈ Text.decimalZeros, ∀ d < 10,
    blank (Char.ofNat (first + d)) = false := by
  decide +kernel

theorem digit_of_blank (h : blank c = true) : digit c = false := by
  by_contra hc
  have hd : digit c = true := by simpa using hc
  obtain ⟨first, hf, hr⟩ := List.any_eq_true.mp hd
  simp only [Bool.and_eq_true, decide_eq_true_eq] at hr
  have hb := blank_ofNat_of_mem_decimalZeros first hf (c.toNat - first) (by omega)
  rw [Nat.add_sub_cancel' hr.1, Char.ofNat_toNat, h] at hb
  cases hb

theorem IsRun.blank_head? (hp : ∀ c, blank c = true → p c = false) (hr : IsRun p run) :
    ∀ c ∈ run.head?, blank c = false := by
  intro c hc
  by_contra hb
  have hf := hp c (by simpa using hb)
  rw [hr.2 c (List.mem_of_mem_head? hc)] at hf
  cases hf

theorem Longest.blanks (hg : IsRun blank gap) (hr : ∀ c ∈ run.head?, blank c = false)
    (h : Longest (p :: ps) (run :: runs) rest) :
    Longest (blank :: p :: ps) (gap :: run :: runs) rest := by
  have hne : run ≠ [] := by
    cases h with
    | cons hr _ _ => exact hr.1
  refine .cons hg ?_ h
  rw [List.flatten_cons, List.append_assoc, List.head?_append_of_ne_nil _ hne]
  exact hr

theorem Longest.blanks_field (hp : ∀ c, blank c = true → p c = false) (hg : IsRun blank gap)
    (hr : IsRun p run) (hg' : IsRun blank gap') (h : Longest ps (gap' :: runs) rest) :
    Longest (blank :: p :: ps) (gap :: run :: gap' :: runs) rest :=
  .blanks hg (hr.blank_head? hp) (.cons_of_forall hr (fun c hc => hp c (hg'.2 c hc)) h)

/-! ### Names and the blanks behind them -/

theorem not_of_mem_head?_dropWhile (h : c ∈ (cs.dropWhile p).head?) : p c = false := by
  have hd := List.head?_dropWhile_not p cs
  rw [Option.mem_def.mp h] at hd
  simpa using hd

theorem dropWhile_nonSpace_ne_nil (h : ' ' ∈ bs) : bs.dropWhile nonSpace ≠ [] := by
  intro hd
  have hs := List.dropWhile_eq_nil_iff.mp hd ' ' h
  simp [nonSpace] at hs

theorem takeWhile_nonSpace_append (h : ' ' ∈ bs) (cs : List Char) :
    (bs ++ cs).takeWhile nonSpace = bs.takeWhile nonSpace := by
  rw [List.takeWhile_append, if_neg]
  intro hl
  have hall := (List.takeWhile_prefix nonSpace).eq_of_length hl
  have hs := List.takeWhile_eq_self_iff.mp hall ' ' h
  simp [nonSpace] at hs

theorem dropWhile_nonSpace_append (h : ' ' ∈ bs) (cs : List Char) :
    (bs ++ cs).dropWhile nonSpace = bs.dropWhile nonSpace ++ cs := by
  rw [List.dropWhile_append, if_neg]
  simpa using dropWhile_nonSpace_ne_nil h

theorem IsName.longest (h : IsName name) (hg : IsRun blank gap) (cs : List Char)
    (hn : ∀ c ∈ (runs.flatten ++ rest).head?, nonSpace c = false) (hl : Longest ps runs rest) :
    Longest (blank :: nonSpace :: ps) (gap :: (name ++ cs.takeWhile nonSpace) :: runs) rest := by
  refine .blanks hg ?_ (.cons ?_ hn hl)
  · rw [List.head?_append_of_ne_nil _ h.isRun.1]
    exact h.isTrimmed.1
  · exact h.isRun.append fun _ hc => List.mem_takeWhile_imp hc

theorem IsName.trim_append (h : IsName name) (hb : ∀ c ∈ bs, blank c = true) :
    Text.trim (String.ofList (name ++ bs)) = String.ofList name := by
  rw [Text.trim, String.toList_ofList, Text.trimList_append hb,
    Text.trimList_eq_self_iff.mpr h.isTrimmed]

end Row

namespace Segment

open Row

variable {segment : Segment}

/-- The name holds no space and has no blank ends, and the other fields are hexadecimal. -/
@[mk_iff]
structure IsReadable (segment : Segment) : Prop where
  name : IsName segment.name.toList
  start : IsRun hex segment.start.text.toList
  size : IsRun hex segment.size.text.toList
  offset : IsRun hex segment.offset.text.toList

instance (segment : Segment) : Decidable segment.IsReadable :=
  decidable_of_iff _ (isReadable_iff segment).symm

/-- The row of a segment with blanks in front of its fields, and more behind the last. -/
def spacedRow (gaps : Nat → Gap) (segment : Segment) (behind : String) : String :=
  (gaps 0).text ++ segment.name ++ (gaps 1).text ++ segment.start.text ++ (gaps 2).text ++
    segment.size.text ++ (gaps 3).text ++ segment.offset.text ++ behind

theorem IsReadable.longest_spacedRow (h : segment.IsReadable) (gaps : Nat → Gap)
    (hg : ' ' ∈ (gaps 1).text.toList) {behind : List Char}
    (hb : ∀ c ∈ behind.head?, hex c = false) :
    Longest pattern [(gaps 0).text.toList,
      segment.name.toList ++ (gaps 1).text.toList.takeWhile nonSpace,
      (gaps 1).text.toList.dropWhile nonSpace, segment.start.text.toList, (gaps 2).text.toList,
      segment.size.text.toList, (gaps 3).text.toList, segment.offset.text.toList] behind := by
  have hne := dropWhile_nonSpace_ne_nil hg
  have hblanks : IsRun blank ((gaps 1).text.toList.dropWhile nonSpace) :=
    ⟨hne, fun c hc => (gaps 1).isRun.2 c ((List.dropWhile_sublist _).subset hc)⟩
  -- Blanks behind the name are parted at the first space: up to it they are read with the name.
  refine h.name.longest (gaps 0).isRun _ ?_ ?_
  · rw [List.flatten_cons, List.append_assoc, List.head?_append_of_ne_nil _ hne]
    exact fun c => not_of_mem_head?_dropWhile
  · refine .blanks_field (fun _ => hex_of_blank) hblanks h.start (gaps 2).isRun ?_
    refine .blanks_field (fun _ => hex_of_blank) (gaps 2).isRun h.size (gaps 3).isRun ?_
    exact .blanks (gaps 3).isRun (h.offset.blank_head? fun _ => hex_of_blank) (.single h.offset hb)

theorem ofRow?_spacedRow (h : segment.IsReadable) (gaps : Nat → Gap) {behind : String}
    (hg : ' ' ∈ (gaps 1).text.toList) (hb : ∀ c ∈ behind.toList.head?, hex c = false) :
    ofRow? (segment.spacedRow gaps behind) = some segment := by
  have hsplit (cs : List Char) : (gaps 1).text.toList.takeWhile nonSpace ++
      ((gaps 1).text.toList.dropWhile nonSpace ++ cs) = (gaps 1).text.toList ++ cs := by
    rw [← List.append_assoc, List.takeWhile_append_dropWhile]
  rw [ofRow?_of_longest (h.longest_spacedRow gaps hg hb) (by simp [spacedRow, hsplit]),
    h.name.trim_append fun c hc => (gaps 1).isRun.2 c ((List.takeWhile_sublist _).subset hc)]
  simp only [String.ofList_toList]

end Segment

namespace Symbol

open Row

variable {symbol : Symbol} {behind : String} {bs : List Char}

/-- A module as it is written: it stays on its line, and neither of its ends is blank. -/
@[mk_iff]
structure IsOrigin (origin : String) : Prop where
  ne : origin ≠ ""
  lf_not_mem : '\n' ∉ origin.toList
  isTrimmed : Text.IsTrimmed origin.toList

instance (origin : String) : Decidable (IsOrigin origin) :=
  decidable_of_iff _ (isOrigin_iff origin).symm

/-- The name holds no space and has no blank ends, the kind is made of decimal digits of any script,
and the other fields are hexadecimal. -/
@[mk_iff]
structure IsReadable (symbol : Symbol) : Prop where
  start : IsRun hex symbol.start.text.toList
  size : IsRun hex symbol.size.text.toList
  address : IsRun hex symbol.address.text.toList
  kind : IsRun digit symbol.kind.toList
  name : IsName symbol.name.toList
  origin : ∀ origin ∈ symbol.module?, IsOrigin origin

instance (symbol : Symbol) : Decidable symbol.IsReadable :=
  decidable_of_iff _ (isReadable_iff symbol).symm

/-- What may stand behind the name of a symbol: blanks only, or its module with blanks around it and
a space among those in front. -/
inductive Trail : Option String → String → Prop
  | blanks {behind : String} (hb : ∀ c ∈ behind.toList, blank c = true) : Trail none behind
  | origin (gap : Gap) (hg : ' ' ∈ gap.text.toList) (origin : String) {behind : String}
      (hb : ∀ c ∈ behind.toList, blank c = true) :
      Trail (some origin) (gap.text ++ origin ++ behind)

/-- The row of a symbol with blanks in front of its fields up to the name, and more behind that. -/
def spacedRow (gaps : Nat → Gap) (symbol : Symbol) (behind : String) : String :=
  (gaps 0).text ++ symbol.start.text ++ (gaps 1).text ++ symbol.size.text ++ (gaps 2).text ++
    symbol.address.text ++ (gaps 3).text ++ symbol.kind ++ (gaps 4).text ++ symbol.name ++ behind

theorem IsReadable.longest_spacedRow (h : symbol.IsReadable) (gaps : Nat → Gap)
    (behind : List Char) :
    Longest pattern [(gaps 0).text.toList, symbol.start.text.toList, (gaps 1).text.toList,
      symbol.size.text.toList, (gaps 2).text.toList, symbol.address.text.toList,
      (gaps 3).text.toList, symbol.kind.toList, (gaps 4).text.toList,
      symbol.name.toList ++ behind.takeWhile nonSpace] (behind.dropWhile nonSpace) := by
  have hhex : ∀ c, blank c = true → hex c = false := fun _ => hex_of_blank
  refine .blanks_field hhex (gaps 0).isRun h.start (gaps 1).isRun ?_
  refine .blanks_field hhex (gaps 1).isRun h.size (gaps 2).isRun ?_
  refine .blanks_field hhex (gaps 2).isRun h.address (gaps 3).isRun ?_
  refine .blanks_field (fun _ => digit_of_blank) (gaps 3).isRun h.kind (gaps 4).isRun ?_
  exact h.name.longest (gaps 4).isRun _ (fun _ => not_of_mem_head?_dropWhile) .nil

theorem moduleOf?_of_blank (hb : ∀ c ∈ bs, blank c = true) : moduleOf? bs = none := by
  rw [moduleOf?, List.dropWhile_eq_nil_iff.mpr hb]
  rfl

theorem moduleOf?_append {gap : List Char} {origin : String} (h : IsOrigin origin)
    (hg : ∀ c ∈ gap, blank c = true) (hb : ∀ c ∈ bs, blank c = true) :
    moduleOf? (gap ++ (origin.toList ++ bs)) = some origin := by
  have hne : origin.toList ≠ [] := by simpa using h.ne
  have hstart : (gap ++ (origin.toList ++ bs)).dropWhile blank = origin.toList ++ bs := by
    rw [List.dropWhile_append_of_pos hg]
    refine Text.dropWhile_isBlank_eq_self_iff.mpr ?_
    rw [List.head?_append_of_ne_nil _ hne]
    exact h.isTrimmed.1
  have hline : ∀ c ∈ origin.toList, (c != '\n') = true :=
    fun c hc => bne_iff_ne.mpr fun he => h.lf_not_mem (he ▸ hc)
  have hfound : Text.trimList ((origin.toList ++ bs).takeWhile (· != '\n')) = origin.toList := by
    rw [List.takeWhile_append_of_pos hline,
      Text.trimList_append fun c hc => hb c ((List.takeWhile_sublist _).subset hc),
      Text.trimList_eq_self_iff.mpr h.isTrimmed]
  rw [moduleOf?, hstart, hfound, String.ofList_toList, if_neg (by simpa using hne)]

/-- The name reads on through blanks only, and the module is found behind them. -/
theorem Trail.read {origin? : Option String} (h : Trail origin? behind)
    (ho : ∀ origin ∈ origin?, IsOrigin origin) :
    (∀ c ∈ behind.toList.takeWhile nonSpace, blank c = true) ∧
      moduleOf? (behind.toList.dropWhile nonSpace) = origin? := by
  cases h with
  | blanks hb =>
    refine ⟨fun c hc => hb c ((List.takeWhile_sublist _).subset hc), moduleOf?_of_blank ?_⟩
    exact fun c hc => hb c ((List.dropWhile_sublist _).subset hc)
  | @origin gap hg origin behind hb =>
    have hgap := gap.isRun.2
    rw [String.toList_append, String.toList_append, List.append_assoc,
      takeWhile_nonSpace_append hg, dropWhile_nonSpace_append hg]
    refine ⟨fun c hc => hgap c ((List.takeWhile_sublist _).subset hc), ?_⟩
    exact moduleOf?_append (ho origin rfl)
      (fun c hc => hgap c ((List.dropWhile_sublist _).subset hc)) hb

theorem ofRow?_spacedRow (h : symbol.IsReadable) (gaps : Nat → Gap)
    (ht : Trail symbol.module? behind) :
    ofRow? (symbol.spacedRow gaps behind) = some symbol := by
  obtain ⟨hb, hm⟩ := ht.read h.origin
  rw [ofRow?_of_longest (h.longest_spacedRow gaps behind.toList) (by simp [spacedRow]),
    h.name.trim_append hb, hm]
  simp only [String.ofList_toList]

end Symbol

namespace Row

/-- A symbol or a segment is read back from a row in which its fields are set apart by blanks of any
kind. A module, or the start of a segment, needs a space among the blanks in front of it. -/
theorem spaced_rows_read_back :
    (∀ (symbol : Symbol) (gaps : Nat → Gap) (behind : String), symbol.IsReadable →
      Symbol.Trail symbol.module? behind →
        Symbol.ofRow? (symbol.spacedRow gaps behind) = some symbol) ∧
    ∀ (segment : Segment) (gaps : Nat → Gap) (behind : String), segment.IsReadable →
      ' ' ∈ (gaps 1).text.toList → (∀ c ∈ behind.toList.head?, hex c = false) →
        Segment.ofRow? (segment.spacedRow gaps behind) = some segment := by
  constructor
  · intro symbol gaps behind h ht
    exact Symbol.ofRow?_spacedRow h gaps ht
  · intro segment gaps behind h hg hb
    exact Segment.ofRow?_spacedRow h gaps hg hb

/-- Tabs, line ends and wide spaces set fields apart, and may stand in a name. -/
theorem spaced_rows_read_back_tabs :
    Symbol.ofRow? "\t8a\r\n04\u2003 8b\t٤\n@f\t1c \t my file.o\t" =
      some ⟨⟨"8a"⟩, ⟨"04"⟩, ⟨"8b"⟩, "٤", "@f\t1c", some "my file.o"⟩ ∧
    Symbol.ofRow? "\t8a\r\n04\u2003 8b\t٤\n@f\t1c\t\t" =
      some ⟨⟨"8a"⟩, ⟨"04"⟩, ⟨"8b"⟩, "٤", "@f\t1c", none⟩ ∧
    Segment.ofRow? "\t8\t8\t8\t8\r\n 04\u2003 8b\t0fgh" =
      some ⟨"8\t8\t8\t8", ⟨"04"⟩, ⟨"8b"⟩, ⟨"0f"⟩⟩ := by
  let gaps : Nat → Gap
    | 0 => ⟨"\t", by decide +kernel⟩
    | 1 => ⟨"\r\n", by decide +kernel⟩
    | 2 => ⟨"\u2003 ", by decide +kernel⟩
    | 3 => ⟨"\t", by decide +kernel⟩
    | _ => ⟨"\n", by decide +kernel⟩
  let wide : Nat → Gap
    | 1 => ⟨"\r\n ", by decide +kernel⟩
    | n => gaps n
  refine ⟨?_, ?_, ?_⟩
  · exact spaced_rows_read_back.1 ⟨⟨"8a"⟩, ⟨"04"⟩, ⟨"8b"⟩, "٤", "@f\t1c", some "my file.o"⟩ gaps
      (" \t " ++ "my file.o" ++ "\t") (by decide +kernel)
      (.origin ⟨" \t ", by decide +kernel⟩ (by decide +kernel) "my file.o"
        (List.all_eq_true.mp (by decide +kernel)))
  · exact spaced_rows_read_back.1 ⟨⟨"8a"⟩, ⟨"04"⟩, ⟨"8b"⟩, "٤", "@f\t1c", none⟩ gaps
      "\t\t" (by decide +kernel) (.blanks (List.all_eq_true.mp (by decide +kernel)))
  · exact spaced_rows_read_back.2 ⟨"8\t8\t8\t8", ⟨"04"⟩, ⟨"8b"⟩, ⟨"0f"⟩⟩ wide "gh"
      (by decide +kernel) (by decide +kernel) (by rintro c ⟨⟩; decide)

end Row

end LinkerMap
