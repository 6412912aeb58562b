import LinkerMap.Proofs.Text.Decoding
import LinkerMap.Proofs.Text.Lines

/-! # Cutting into lines

A text is decoded as a whole and then cut into lines. Its lines are those that come of cutting the
octets and decoding each piece on its own, whatever the octets are. What stands on a line can
therefore be exchanged without a change to any other line, and each line may end in its own way.
-/

namespace LinkerMap.Text

open String (utf8EncodeChar)

variable {bs : List UInt8}

section Cut

variable {α : Type} [DecidableEq α] {feed ret : α} {xs old new front behind : List α} {i : Nat}

theorem cutLines_append_cons (h : feed ∉ xs) (ys : List α) :
    cutLines feed ret (xs ++ feed :: ys) = dropEnd ret xs :: cutLines feed ret ys := by
  have hys := List.splitOn_ne_nil feed ys
  simp only [cutLines, List.splitOn_append_cons_self_of_not_mem h,
    List.dropLast_cons_of_ne_nil hys, List.getLast_cons hys, List.map_cons, List.cons_append]

theorem cutLines_of_not_mem (h : feed ∉ xs) :
    cutLines feed ret xs = if xs.isEmpty then [] else [xs] := by
  simp [cutLines, List.splitOn_eq_singleton h]

theorem induction_on_lines {motive : List α → Prop} (feed : α)
    (last : ∀ xs, feed ∉ xs → motive xs)
    (line : ∀ xs ys, feed ∉ xs → motive ys → motive (xs ++ feed :: ys)) (xs : List α) :
    motive xs := by
  induction h : xs.length using Nat.strong_induction_on generalizing xs with
  | _ n ih =>
    by_cases hm : feed ∈ xs
    · obtain ⟨xs, ys, rfl, hx⟩ := List.eq_append_cons_of_mem hm
      exact line xs ys hx (ih ys.length (by simp [← h]; omega) ys rfl)
    · exact last xs hm

theorem tail_cutLines_of_not_mem (h : feed ∉ xs) : (cutLines feed ret xs).tail = [] := by
  rw [cutLines_of_not_mem h]
  split <;> rfl

theorem tail_cutLines_append (ho : feed ∉ old) (hn : feed ∉ new) (behind : List α) :
    (cutLines feed ret (old ++ behind)).tail = (cutLines feed ret (new ++ behind)).tail := by
  by_cases hb : feed ∈ behind
  · obtain ⟨line, behind, rfl, hl⟩ := List.eq_append_cons_of_mem hb
    rw [← List.append_assoc, ← List.append_assoc, cutLines_append_cons (by simp [ho, hl]),
      cutLines_append_cons (by simp [hn, hl])]
    rfl
  · rw [tail_cutLines_of_not_mem (by simp [ho, hb]), tail_cutLines_of_not_mem (by simp [hn, hb])]

theorem getElem?_cutLines_exchange (ho : feed ∉ old) (hn : feed ∉ new)
    (hi : i ≠ front.count feed) :
    (cutLines feed ret (front ++ (old ++ behind)))[i]? =
      (cutLines feed ret (front ++ (new ++ behind)))[i]? := by
  induction front using induction_on_lines feed generalizing i with
  | last xs hx =>
    rw [List.count_eq_zero_of_not_mem hx] at hi
    obtain ⟨i, rfl⟩ := Nat.exists_eq_succ_of_ne_zero hi
    have hold : feed ∉ xs ++ old := by simp [hx, ho]
    have hnew : feed ∉ xs ++ new := by simp [hx, hn]
    rw [← List.getElem?_tail, ← List.getElem?_tail, ← List.append_assoc,
      tail_cutLines_append hold hnew, List.append_assoc]
  | line xs ys hx ih =>
    rw [List.append_assoc, List.append_assoc, List.cons_append, List.cons_append,
      cutLines_append_cons hx, cutLines_append_cons hx]
    cases i with
    | zero => rfl
    | succ i =>
      refine ih fun hc => hi ?_
      rw [List.count_append, List.count_eq_zero_of_not_mem hx, List.count_cons_self, hc,
        Nat.zero_add]

end Cut

/-- The lines of octets, still to be decoded. -/
def octetLines (bs : List UInt8) : List (List UInt8) :=
  cutLines 0x0A 0x0D bs

theorem characters_eq_nil_iff : characters bs = [] ↔ bs = [] := by
  rw [← decodes_iff]
  exact ⟨Decodes.eq_nil, fun h => h ▸ .nil⟩

theorem lf_not_mem_characters (h : 0x0A ∉ bs) : '\n' ∉ characters bs := by
  intro hm
  have hd : Decodes bs (characters bs) := decodes_iff.mpr rfl
  exact h ((hd.utf8EncodeChar_infix hm (by decide)).subset (by decide))

theorem characters_append_lf (bs ds : List UInt8) :
    characters (bs ++ 0x0A :: ds) = characters bs ++ '\n' :: characters ds :=
  characters_append_cons (by decide) bs ds

theorem dropEnd_characters (bs : List UInt8) :
    dropEnd '\r' (characters bs) = characters (dropEnd 0x0D bs) := by
  unfold dropEnd
  by_cases h : bs.getLast? = some 0x0D
  · obtain ⟨ds, rfl⟩ := List.getLast?_eq_some_iff.mp h
    have hc : characters (ds ++ [0x0D]) = characters ds ++ ['\r'] :=
      characters_append_cons (by decide) ds []
    simp [hc]
  · have hc : (characters bs).getLast? ≠ some '\r' := by
      intro hr
      have hd : Decodes bs (characters bs) := decodes_iff.mpr rfl
      obtain ⟨ds, rfl⟩ := hd.utf8EncodeChar_suffix hr (by decide)
      exact h (by simp [utf8EncodeChar])
    rw [if_neg h, if_neg hc]

/-- Cutting what has been decoded is decoding what has been cut. -/
theorem linesOfList_characters (bs : List UInt8) :
    linesOfList (characters bs) = (octetLines bs).map characters := by
  rw [linesOfList, octetLines]
  induction bs using induction_on_lines (0x0A : UInt8) with
  | last bs h =>
    rw [cutLines_of_not_mem h, cutLines_of_not_mem (lf_not_mem_characters h)]
    by_cases hb : bs = []
    · simp [hb, characters_eq_nil_iff.mpr]
    · simp [hb, characters_eq_nil_iff]
  | line bs ds h ih =>
    rw [characters_append_lf, cutLines_append_cons (lf_not_mem_characters h),
      cutLines_append_cons h, dropEnd_characters, ih, List.map_cons]

inductive LineEnd where
  | lf
  | crlf
  deriving DecidableEq, Repr

def LineEnd.text : LineEnd → String
  | lf => "\n"
  | crlf => "\r\n"

/-- Lines as they stand in a text, each with its end, and the last line if it lacks its end. -/
structure Lined where
  ended : List (String × LineEnd)
  last? : Option String
  deriving DecidableEq, Repr

namespace Lined

def lines (lined : Lined) : List String :=
  lined.ended.map Prod.fst ++ lined.last?.toList

def text (lined : Lined) : String :=
  String.join (lined.ended.map fun (l, e) => l ++ e.text) ++ lined.last?.getD ""

end Lined

theorem lines_append_lineEnd {l : String} (h : IsLine l) (e : LineEnd) (s : String) :
    lines (l ++ e.text ++ s) = l :: lines s := by
  have hl := dropEnd_toList h
  have hr : dropEnd '\r' (l.toList ++ ['\r']) = l.toList := by simp [dropEnd]
  simp only [lines, linesOfList, String.toList_append]
  cases e with
  | lf =>
    change (cutLines '\n' '\r' (l.toList ++ ['\n'] ++ s.toList)).map _ = _
    rw [List.append_assoc, List.singleton_append, cutLines_append_cons h.1, hl, List.map_cons,
      String.ofList_toList]
  | crlf =>
    change (cutLines '\n' '\r' (l.toList ++ ['\r', '\n'] ++ s.toList)).map _ = _
    rw [List.append_assoc, List.cons_append, List.singleton_append, List.append_cons,
      cutLines_append_cons (by simp [h.1]), hr, List.map_cons, String.ofList_toList]

/-- The ends of lines are read off, and an empty last line is not seen. -/
theorem lines_text {lined : Lined} (h : ∀ l ∈ lined.lines, IsLine l) :
    lines lined.text = lined.ended.map Prod.fst ++ lined.last?.toList.filter (· ≠ "") := by
  obtain ⟨ended, last?⟩ := lined
  induction ended with
  | nil =>
    cases last? with
    | none => rfl
    | some l =>
      have hl : IsLine l := h l (by simp [Lined.lines])
      simp only [Lined.text, List.map_nil, String.join_nil, Option.getD_some, String.empty_append,
        lines, linesOfList, cutLines_of_not_mem hl.1]
      by_cases he : l = "" <;> simp [he]
  | cons line ended ih =>
    obtain ⟨l, e⟩ := line
    have hl : Lined.lines ⟨(l, e) :: ended, last?⟩ = l :: Lined.lines ⟨ended, last?⟩ := rfl
    have ht : Lined.text ⟨(l, e) :: ended, last?⟩ = l ++ e.text ++ Lined.text ⟨ended, last?⟩ := by
      simp [Lined.text, String.append_assoc]
    rw [hl, List.forall_mem_cons] at h
    rw [ht, lines_append_lineEnd h.1, ih h.2, List.map_cons, List.cons_append]

end LinkerMap.Text
