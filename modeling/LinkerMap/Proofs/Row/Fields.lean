import LinkerMap.Segment
import LinkerMap.Symbol
import LinkerMap.Proofs.Row.Reading
import LinkerMap.Proofs.Text.Trim

/-! # The fields of rows

The fields of a segment or a symbol stand in its row in their order, with blanks in front of each.
A row whose runs are as long as they can be has these runs as its fields.
-/

namespace LinkerMap

namespace Row

variable {c : Char} {run : List Char}

theorem hex_iff : hex c = true ↔
    (0x30 ≤ c.toNat ∧ c.toNat ≤ 0x39) ∨ (0x61 ≤ c.toNat ∧ c.toNat ≤ 0x66) := by
  simp [hex, Char.le_def, UInt32.le_iff_toNat_le]

theorem blank_of_hex (h : hex c = true) : blank c = false := by
  rw [hex_iff] at h
  simp only [blank, Text.isBlank, Bool.or_eq_false_iff, Bool.and_eq_false_iff,
    decide_eq_false_iff_not, beq_eq_false_iff_ne]
  omega

theorem IsRun.space_not_mem_trimList (h : IsRun nonSpace run) : ' ' ∉ Text.trimList run := by
  intro hs
  cases h.2 ' ' ((Text.trimList_infix run).subset hs)

end Row

namespace Segment

open Row

variable {row : String} {segment : Segment} {b₀ name b₁ start b₂ size b₃ offset rest : List Char}

/-- The fields of a segment that is read off a row, where a run of the row holds the name. -/
structure ReadOff (segment : Segment) (row : String) (name : List Char) : Prop where
  piece : name <:+: row.toList
  name_eq : segment.name = Text.trim (String.ofList name)
  name : IsRun nonSpace name
  start : IsRun hex segment.start.text.toList
  size : IsRun hex segment.size.text.toList
  offset : IsRun hex segment.offset.text.toList

theorem exists_readOff (h : ofRow? row = some segment) : ∃ name, segment.ReadOff row name := by
  unfold ofRow? at h
  split at h
  · rename_i b₀ name b₁ start b₂ size b₃ offset rest hf
    obtain ⟨before, hruns, hrow⟩ := find?_sound hf
    simp only [pattern, List.forall₂_cons, List.Forall₂.nil, and_true] at hruns
    obtain ⟨-, hname, -, hstart, -, hsize, -, hoffset⟩ := hruns
    rw [Option.some.injEq] at h
    subst h
    refine ⟨name, ⟨before ++ b₀, b₁ ++ (start ++ (b₂ ++ (size ++ (b₃ ++ (offset ++ rest))))), ?_⟩,
      rfl, hname, ?_, ?_, ?_⟩
    · simpa using hrow.symm
    · rwa [String.toList_ofList]
    · rwa [String.toList_ofList]
    · rwa [String.toList_ofList]
  · simp at h

theorem ofRow?_of_longest
    (h : Longest pattern [b₀, name, b₁, start, b₂, size, b₃, offset] rest)
    (hr : row.toList = [b₀, name, b₁, start, b₂, size, b₃, offset].flatten ++ rest) :
    ofRow? row = some ⟨Text.trim (String.ofList name), ⟨String.ofList start⟩,
      ⟨String.ofList size⟩, ⟨String.ofList offset⟩⟩ := by
  rw [ofRow?, hr, h.find?_eq]

theorem isRun_start (h : ofRow? row = some segment) : IsRun hex segment.start.text.toList := by
  obtain ⟨_, hread⟩ := exists_readOff h
  exact hread.start

theorem isRun_size (h : ofRow? row = some segment) : IsRun hex segment.size.text.toList := by
  obtain ⟨_, hread⟩ := exists_readOff h
  exact hread.size

theorem name_infix (h : ofRow? row = some segment) : segment.name.toList <:+: row.toList := by
  obtain ⟨name, hread⟩ := exists_readOff h
  rw [hread.name_eq, Text.toList_trim, String.toList_ofList]
  exact (Text.trimList_infix name).trans hread.piece

theorem isTrimmed_name (h : ofRow? row = some segment) : Text.IsTrimmed segment.name.toList := by
  obtain ⟨_, hread⟩ := exists_readOff h
  rw [hread.name_eq, Text.toList_trim]
  exact Text.isTrimmed_trimList _

theorem space_not_mem_name (h : ofRow? row = some segment) : ' ' ∉ segment.name.toList := by
  obtain ⟨_, hread⟩ := exists_readOff h
  rw [hread.name_eq, Text.toList_trim, String.toList_ofList]
  exact hread.name.space_not_mem_trimList

end Segment

namespace Symbol

open Row

variable {row : String} {symbol : Symbol}
  {b₀ start b₁ size b₂ address b₃ kind b₄ name rest : List Char}

/-- The fields of a symbol that is read off a row, where a run of the row holds the name and the
rest behind it the module. -/
structure ReadOff (symbol : Symbol) (row : String) (name rest : List Char) : Prop where
  piece : name <:+: row.toList
  name_eq : symbol.name = Text.trim (String.ofList name)
  module_eq : symbol.module? = moduleOf? rest
  name : IsRun nonSpace name
  start : IsRun hex symbol.start.text.toList
  size : IsRun hex symbol.size.text.toList
  address : IsRun hex symbol.address.text.toList
  kind : IsRun digit symbol.kind.toList

theorem exists_readOff (h : ofRow? row = some symbol) :
    ∃ name rest, symbol.ReadOff row name rest := by
  unfold ofRow? at h
  split at h
  · rename_i b₀ start b₁ size b₂ address b₃ kind b₄ name rest hf
    obtain ⟨before, hruns, hrow⟩ := find?_sound hf
    simp only [pattern, List.forall₂_cons, List.Forall₂.nil, and_true] at hruns
    obtain ⟨-, hstart, -, hsize, -, haddress, -, hkind, -, hname⟩ := hruns
    rw [Option.some.injEq] at h
    subst h
    refine ⟨name, rest, ⟨before ++ (b₀ ++ (start ++ (b₁ ++ (size ++ (b₂ ++ (address ++ (b₃ ++
      (kind ++ b₄)))))))), rest, ?_⟩, rfl, rfl, hname, ?_, ?_, ?_, ?_⟩
    · simpa using hrow.symm
    · rwa [String.toList_ofList]
    · rwa [String.toList_ofList]
    · rwa [String.toList_ofList]
    · rwa [String.toList_ofList]
  · simp at h

theorem ofRow?_of_longest
    (h : Longest pattern [b₀, start, b₁, size, b₂, address, b₃, kind, b₄, name] rest)
    (hr : row.toList =
      [b₀, start, b₁, size, b₂, address, b₃, kind, b₄, name].flatten ++ rest) :
    ofRow? row = some ⟨⟨String.ofList start⟩, ⟨String.ofList size⟩, ⟨String.ofList address⟩,
      String.ofList kind, Text.trim (String.ofList name), moduleOf? rest⟩ := by
  rw [ofRow?, hr, h.find?_eq]

theorem isRun_address (h : ofRow? row = some symbol) :
    IsRun hex symbol.address.text.toList := by
  obtain ⟨_, _, hread⟩ := exists_readOff h
  exact hread.address

theorem isRun_size (h : ofRow? row = some symbol) : IsRun hex symbol.size.text.toList := by
  obtain ⟨_, _, hread⟩ := exists_readOff h
  exact hread.size

theorem name_infix (h : ofRow? row = some symbol) : symbol.name.toList <:+: row.toList := by
  obtain ⟨name, _, hread⟩ := exists_readOff h
  rw [hread.name_eq, Text.toList_trim, String.toList_ofList]
  exact (Text.trimList_infix name).trans hread.piece

theorem lf_not_mem_module {origin : String} (h : ofRow? row = some symbol)
    (hm : symbol.module? = some origin) : '\n' ∉ origin.toList := by
  obtain ⟨_, rest, hread⟩ := exists_readOff h
  rw [hread.module_eq, moduleOf?] at hm
  split at hm
  · simp at hm
  · rw [Option.some.injEq] at hm
    rw [← hm, String.toList_ofList]
    intro hc
    have hw := List.mem_takeWhile_imp ((Text.trimList_infix _).subset hc)
    simp at hw

end Symbol

end LinkerMap
