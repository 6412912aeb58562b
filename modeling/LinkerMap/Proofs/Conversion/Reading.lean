import LinkerMap.Proofs.Conversion.AllOrNothing
import LinkerMap.Proofs.Sections.Splitting
import LinkerMap.Proofs.Text.Cutting

/-! # Reading a map

A map file is decoded, a byte order mark in front of it is dropped, and it is cut into lines. How
the lines end does not matter, one mark does not matter, and octets that are no text do no harm
beyond their line.
-/

namespace LinkerMap.Conversion

open FileSystem Text

variable {bs old new front behind : List UInt8} {cs : List Char} {i : Nat}

def markOctets : List UInt8 := [0xEF, 0xBB, 0xBF]

/-- Drops the octets of one byte order mark in front. -/
def dropMarkOctets (bs : List UInt8) : List UInt8 :=
  if markOctets <+: bs then bs.drop markOctets.length else bs

def linesOfBytes (bytes : ByteArray) : List String :=
  lines (String.ofList (dropMark (decode bytes).toList))

theorem utf8EncodeChar_mark : String.utf8EncodeChar '\uFEFF' = markOctets := by decide

theorem dropMark_of_head? (h : cs.head? ≠ some '\uFEFF') : dropMark cs = cs := by
  unfold dropMark
  split
  · exact absurd rfl h
  · rfl

/-- A mark is dropped before or after it has been decoded. -/
theorem dropMark_characters (bs : List UInt8) :
    dropMark (characters bs) = characters (dropMarkOctets bs) := by
  have hd : Decodes bs (characters bs) := decodes_iff.mpr rfl
  unfold dropMarkOctets
  split
  · rename_i h
    obtain ⟨bs, rfl⟩ := h
    rw [← utf8EncodeChar_mark] at hd ⊢
    obtain ⟨cs, hc, hcs⟩ := hd.exists_of_append
    rw [hc, List.drop_left, decodes_iff.mp hcs]
    rfl
  · rename_i h
    refine dropMark_of_head? fun hc => h ?_
    obtain ⟨cs, hcs⟩ := List.head?_eq_some_iff.mp hc
    obtain ⟨ds, rfl, -⟩ := (hcs ▸ hd).exists_of_cons (by decide)
    rw [utf8EncodeChar_mark]
    exact List.prefix_append _ _

theorem dropMarkOctets_append (bs ds : List UInt8) :
    dropMarkOctets (bs ++ 0x0A :: ds) = dropMarkOctets bs ++ 0x0A :: ds := by
  have hp : markOctets <+: bs ++ 0x0A :: ds ↔ markOctets <+: bs := by
    refine ⟨fun h => ?_, fun h => h.trans (List.prefix_append _ _)⟩
    rcases List.prefix_or_prefix_of_prefix h (List.prefix_append _ _) with hm | hm
    · exact hm
    · obtain ⟨rest, hr⟩ := hm
      rw [← hr, List.prefix_append_right_inj] at h
      cases rest with
      | nil => exact ⟨[], by simpa using hr.symm⟩
      | cons b rest =>
        obtain rfl : b = 0x0A := (List.cons_prefix_cons.mp h).1
        have hm : 0x0A ∈ markOctets := by simp [← hr]
        exact absurd hm (by decide)
  unfold dropMarkOctets
  simp only [hp]
  split
  · rename_i h
    rw [List.drop_append_of_le_length h.length_le]
  · rfl

theorem lf_not_mem_dropMarkOctets (h : 0x0A ∉ bs) : 0x0A ∉ dropMarkOctets bs := by
  unfold dropMarkOctets
  split
  · exact fun hm => h (List.mem_of_mem_drop hm)
  · exact h

theorem linesOfBytes_eq_map (bytes : ByteArray) :
    linesOfBytes bytes =
      (octetLines (dropMarkOctets bytes.data.toList)).map fun octets =>
        decode octets.toByteArray := by
  have hd (octets : List UInt8) :
      decode octets.toByteArray = String.ofList (characters octets) := by
    rw [← String.toList_inj, toList_decode, String.toList_ofList, List.toList_data_toByteArray]
  simp only [linesOfBytes, lines, hd]
  rw [String.toList_ofList, toList_decode, dropMark_characters, linesOfList_characters,
    List.map_map]
  rfl

theorem octetLines_append_lf (h : 0x0A ∉ bs) (ds : List UInt8) :
    octetLines (dropMarkOctets (bs ++ 0x0A :: ds)) =
      dropEnd 0x0D (dropMarkOctets bs) :: octetLines ds := by
  rw [dropMarkOctets_append]
  exact cutLines_append_cons (lf_not_mem_dropMarkOctets h) ds

theorem tail_octetLines_dropMarkOctets (bs : List UInt8) :
    (octetLines (dropMarkOctets bs)).tail = (octetLines bs).tail := by
  by_cases hb : 0x0A ∈ bs
  · obtain ⟨bs, ds, rfl, h⟩ := List.eq_append_cons_of_mem hb
    rw [octetLines_append_lf h]
    exact (congrArg List.tail (cutLines_append_cons h ds)).symm
  · exact (tail_cutLines_of_not_mem (lf_not_mem_dropMarkOctets hb)).trans
      (tail_cutLines_of_not_mem hb).symm

theorem getElem?_octetLines_exchange (ho : 0x0A ∉ old) (hn : 0x0A ∉ new)
    (hi : i ≠ front.count 0x0A) :
    (octetLines (dropMarkOctets (front ++ (old ++ behind))))[i]? =
      (octetLines (dropMarkOctets (front ++ (new ++ behind))))[i]? := by
  cases i with
  | zero =>
    have hf : 0x0A ∈ front := by
      rw [← List.one_le_count_iff]
      omega
    obtain ⟨first, front, rfl, h⟩ := List.eq_append_cons_of_mem hf
    rw [List.append_assoc, List.append_assoc, List.cons_append, List.cons_append,
      octetLines_append_lf h, octetLines_append_lf h]
    rfl
  | succ i =>
    rw [← List.getElem?_tail, ← List.getElem?_tail, tail_octetLines_dropMarkOctets,
      tail_octetLines_dropMarkOctets, List.getElem?_tail, List.getElem?_tail]
    exact getElem?_cutLines_exchange ho hn hi

/-- Any octets may be in a map file. Its sections are those of the lines that come of dropping one
mark, cutting the octets, and decoding each piece on its own to the text that it stands for. What
stands on a line can be exchanged for anything without a line feed, and each of the other lines is
read as before. -/
theorem readMap_cuts_octets :
    (∀ (fs : FileSystem) (path : Path) (bytes : ByteArray), fs.read path = .ok bytes →
      (readMap FileSystem.disk path).run fs = (.ok (.ofLines (linesOfBytes bytes)), fs) ∧
      linesOfBytes bytes =
        (octetLines (dropMarkOctets bytes.data.toList)).map fun octets =>
          decode octets.toByteArray) ∧
    (∀ (octets : List UInt8) (text : String),
      decode octets.toByteArray = text ↔ Decodes octets text.toList) ∧
    ∀ front old new behind : ByteArray, 0x0A ∉ old.data → 0x0A ∉ new.data →
      ∀ i ≠ front.data.count 0x0A,
        (linesOfBytes (front ++ (old ++ behind)))[i]? =
          (linesOfBytes (front ++ (new ++ behind)))[i]? := by
  refine ⟨fun fs path bytes h => ⟨run_readMap_of_ok h, linesOfBytes_eq_map bytes⟩,
    fun octets text => ?_, fun front old new behind ho hn i hi => ?_⟩
  · rw [decodes_iff, ← String.toList_inj, toList_decode, List.toList_data_toByteArray]
  · have hold : 0x0A ∉ old.data.toList := by simpa using ho
    have hnew : 0x0A ∉ new.data.toList := by simpa using hn
    have hcount : i ≠ front.data.toList.count 0x0A := by simpa using hi
    simp only [linesOfBytes_eq_map, ByteArray.toList_data_append, List.getElem?_map]
    rw [getElem?_octetLines_exchange hold hnew hcount]

/-- Octets that are no text in front of each kind of line end, behind a mark. -/
theorem readMap_cuts_octets_damaged :
    let front : ByteArray := ⟨#[0xEF, 0xBB, 0xBF, 0x4D, 0x0A, 0x20, 0xE2, 0x82, 0x0D, 0x0A]⟩
    let old : ByteArray := ⟨#[0x20, 0xED, 0xA0, 0x80, 0xF0]⟩
    let new : ByteArray := ⟨#[0x20, 0x61]⟩
    let behind : ByteArray := ⟨#[0x0A, 0x20, 0xC0, 0xAF]⟩
    let fs := FileSystem.initial.set ["work", "game.map"] (.file (front ++ (old ++ behind)))
    fs.read ⟨"game.map"⟩ = .ok (front ++ (old ++ behind)) ∧
    (readMap FileSystem.disk ⟨"game.map"⟩).run fs = (.ok (.ofLines ["M", " \uFFFD",
      " \uFFFD\uFFFD\uFFFD\uFFFD", " \uFFFD\uFFFD"]), fs) ∧
    0x0A ∉ old.data ∧ 0x0A ∉ new.data ∧ 3 ≠ front.data.count 0x0A ∧
    (linesOfBytes (front ++ (old ++ behind)))[3]? =
      (linesOfBytes (front ++ (new ++ behind)))[3]? := by
  intro front old new behind fs
  have hread : fs.read ⟨"game.map"⟩ = .ok (front ++ (old ++ behind)) := rfl
  have hlines : ((octetLines (dropMarkOctets (front ++ (old ++ behind)).data.toList)).map
      fun octets => decode octets.toByteArray) =
      ["M", " \uFFFD", " \uFFFD\uFFFD\uFFFD\uFFFD", " \uFFFD\uFFFD"] := by decide
  have hold : 0x0A ∉ old.data := by simp [old]
  have hnew : 0x0A ∉ new.data := by simp [new]
  have hi : 3 ≠ front.data.count 0x0A := by decide
  obtain ⟨hrun, hcut⟩ := readMap_cuts_octets.1 fs _ _ hread
  rw [hcut, hlines] at hrun
  exact ⟨hread, hrun, hold, hnew, hi, readMap_cuts_octets.2.2 front old new behind hold hnew 3 hi⟩

theorem decode_toUTF8 (s : String) : decode s.toUTF8 = s := by
  have hs : s.toUTF8.data.toList = s.toList.flatMap String.utf8EncodeChar := by
    change s.toByteArray.data.toList = _
    rw [← String.utf8Encode_toList, List.utf8Encode, List.toList_data_toByteArray]
  rw [← String.toList_inj, toList_decode, hs, characters_flatMap_utf8EncodeChar]

theorem sectionsOfBytes_toUTF8 {text : String} (h : text.toList.head? ≠ some '\uFEFF') :
    sectionsOfBytes text.toUTF8 = .ofText text := by
  rw [sectionsOfBytes, decode_toUTF8, dropMark_of_head? h, String.ofList_toList]

def mark : ByteArray := markOctets.toByteArray

theorem toUTF8_append_mark (s : String) : mark ++ s.toUTF8 = ("\uFEFF" ++ s).toUTF8 := by
  change _ = ("\uFEFF" ++ s).toByteArray
  rw [String.toByteArray_append]
  rfl

/-- A text is the same map however its lines end, in a file and with or without a mark in front. Of
two marks, one belongs to the text. -/
theorem readMap_of_lined {lined : Lined} (h : ∀ l ∈ lined.lines, IsLine l) :
    Sections.ofText lined.text = .ofLines lined.lines ∧
    ∀ (fs : FileSystem) (path : Path),
      (fs.read path = .ok lined.text.toUTF8 → lined.text.toList.head? ≠ some '\uFEFF' →
        (readMap FileSystem.disk path).run fs = (.ok (.ofLines lined.lines), fs)) ∧
      (fs.read path = .ok (mark ++ lined.text.toUTF8) →
        (readMap FileSystem.disk path).run fs = (.ok (.ofLines lined.lines), fs)) := by
  have ht : Sections.ofText lined.text = .ofLines lined.lines := by
    rw [Sections.ofText, lines_text h, Lined.lines]
    cases lined.last? with
    | none => rfl
    | some l =>
      by_cases hl : l = ""
      · simp [hl, Sections.ofLines_append_empty]
      · simp [hl]
  refine ⟨ht, fun fs path => ⟨fun hr hm => ?_, fun hr => ?_⟩⟩
  · rw [run_readMap_of_ok hr, sectionsOfBytes, decode_toUTF8, dropMark_of_head? hm,
      String.ofList_toList, ht]
  · rw [run_readMap_of_ok hr, sectionsOfBytes, toUTF8_append_mark, decode_toUTF8,
      String.toList_append]
    change (Except.ok (Sections.ofText (String.ofList lined.text.toList)), fs) = _
    rw [String.ofList_toList, ht]

/-- Lines that end in either way, in a file and behind a mark in another. -/
theorem readMap_of_lined_mixed :
    let lined : Lined := ⟨[("Memory map:", .crlf), (" .text 1 2 3", .lf)], some " .data 4 5 6"⟩
    let plain := FileSystem.initial.set ["work", "game.map"] (.file lined.text.toUTF8)
    let marked := FileSystem.initial.set ["work", "game.map"] (.file (mark ++ lined.text.toUTF8))
    (∀ l ∈ lined.lines, IsLine l) ∧
    plain.read ⟨"game.map"⟩ = .ok lined.text.toUTF8 ∧
    lined.text.toList.head? ≠ some '\uFEFF' ∧
    marked.read ⟨"game.map"⟩ = .ok (mark ++ lined.text.toUTF8) ∧
    Sections.ofText lined.text = .ofLines lined.lines ∧
    (readMap FileSystem.disk ⟨"game.map"⟩).run plain = (.ok (.ofLines lined.lines), plain) ∧
    (readMap FileSystem.disk ⟨"game.map"⟩).run marked = (.ok (.ofLines lined.lines), marked) := by
  intro lined plain marked
  have hlines : ∀ l ∈ lined.lines, IsLine l := by
    simp only [lined, Lined.lines, IsLine]
    decide
  have hplain : plain.read ⟨"game.map"⟩ = .ok lined.text.toUTF8 := rfl
  have hmarked : marked.read ⟨"game.map"⟩ = .ok (mark ++ lined.text.toUTF8) := rfl
  have hhead : lined.text.toList.head? ≠ some '\uFEFF' := by decide
  obtain ⟨htext, hread⟩ := readMap_of_lined hlines
  exact ⟨hlines, hplain, hhead, hmarked, htext, (hread plain _).1 hplain hhead,
    (hread marked _).2 hmarked⟩

end LinkerMap.Conversion
