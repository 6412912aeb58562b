import LinkerMap.Text.Blank
import Mathlib.Data.List.DropRight

/-! # Trimming

A text is its own trim when neither of its ends is blank. A trim is a piece of the text.
-/

namespace LinkerMap.Text

variable {cs : List Char} {s : String}

/-- Neither end is blank. -/
def IsTrimmed (cs : List Char) : Prop :=
  (∀ c ∈ cs.head?, isBlank c = false) ∧ ∀ c ∈ cs.getLast?, isBlank c = false

instance (cs : List Char) : Decidable (IsTrimmed cs) :=
  decidable_of_iff (cs.head?.all (!isBlank ·) = true ∧ cs.getLast?.all (!isBlank ·) = true)
    (by simp [IsTrimmed, Option.all_eq_true])

theorem dropWhile_isBlank_eq_self_iff :
    cs.dropWhile isBlank = cs ↔ ∀ c ∈ cs.head?, isBlank c = false := by
  cases cs with
  | nil => simp
  | cons c cs =>
    rw [List.dropWhile_eq_self_iff]
    simp

theorem rdropWhile_isBlank_eq_self_iff :
    cs.rdropWhile isBlank = cs ↔ ∀ c ∈ cs.getLast?, isBlank c = false := by
  rw [List.rdropWhile_eq_self_iff]
  rcases List.eq_nil_or_concat cs with rfl | ⟨cs, c, rfl⟩ <;> simp

theorem trimList_eq_rdropWhile (cs : List Char) :
    trimList cs = (cs.dropWhile isBlank).rdropWhile isBlank := rfl

theorem trimList_infix (cs : List Char) : trimList cs <:+: cs :=
  (List.rdropWhile_prefix isBlank _).isInfix.trans (List.dropWhile_suffix isBlank).isInfix

theorem trimList_prefix (h : ∀ c ∈ cs.head?, isBlank c = false) : trimList cs <+: cs := by
  rw [trimList_eq_rdropWhile, dropWhile_isBlank_eq_self_iff.mpr h]
  exact List.rdropWhile_prefix isBlank cs

theorem exists_append_trimList (cs : List Char) : ∃ front back,
    (∀ c ∈ front, isBlank c = true) ∧ (∀ c ∈ back, isBlank c = true) ∧
      ∀ rest, front ++ (trimList cs ++ (back ++ rest)) = cs ++ rest := by
  refine ⟨cs.takeWhile isBlank, (cs.dropWhile isBlank).rtakeWhile isBlank,
    fun c hc => List.mem_takeWhile_imp hc, fun c hc => List.mem_rtakeWhile_imp hc, fun rest => ?_⟩
  rw [trimList_eq_rdropWhile, ← List.append_assoc (List.rdropWhile _ _),
    List.rdropWhile_append_rtakeWhile, ← List.append_assoc, List.takeWhile_append_dropWhile]

theorem trimList_append {blanks : List Char} (h : ∀ c ∈ blanks, isBlank c = true)
    (cs : List Char) : trimList (cs ++ blanks) = trimList cs := by
  have hb : blanks.dropWhile isBlank = [] := List.dropWhile_eq_nil_iff.mpr h
  rw [trimList_eq_rdropWhile, trimList_eq_rdropWhile, List.dropWhile_append]
  split
  · rename_i he
    rw [hb, List.isEmpty_iff.mp he]
  · rw [List.rdropWhile, List.reverse_append, List.dropWhile_append_of_pos (by simpa using h),
      List.rdropWhile]

theorem trimList_eq_self_iff : trimList cs = cs ↔ IsTrimmed cs := by
  rw [trimList_eq_rdropWhile, IsTrimmed, ← dropWhile_isBlank_eq_self_iff,
    ← rdropWhile_isBlank_eq_self_iff]
  constructor
  · intro h
    have hd : cs.dropWhile isBlank = cs := by
      refine (List.dropWhile_suffix isBlank).eq_of_length_le ?_
      calc cs.length = ((cs.dropWhile isBlank).rdropWhile isBlank).length := by rw [h]
        _ ≤ (cs.dropWhile isBlank).length := (List.rdropWhile_prefix isBlank _).length_le
    exact ⟨hd, by rwa [hd] at h⟩
  · rintro ⟨hd, hr⟩
    rw [hd, hr]

theorem isTrimmed_trimList (cs : List Char) : IsTrimmed (trimList cs) := by
  constructor
  · intro c hc
    have hd := dropWhile_isBlank_eq_self_iff.mp (List.dropWhile_idempotent isBlank cs)
    obtain ⟨blanks, hb⟩ := List.rdropWhile_prefix isBlank (cs.dropWhile isBlank)
    rw [← hb] at hd
    exact hd c (List.mem_head?_append_of_mem_head? hc)
  · exact rdropWhile_isBlank_eq_self_iff.mp (List.rdropWhile_idempotent isBlank _)

theorem isTrimmed_of_forall (h : ∀ c ∈ cs, isBlank c = false) : IsTrimmed cs :=
  ⟨fun c hc => h c (List.mem_of_mem_head? hc), fun c hc => h c (List.mem_of_mem_getLast? hc)⟩

@[simp] theorem toList_trim (s : String) : (trim s).toList = trimList s.toList := by
  rw [trim, String.toList_ofList]

theorem trim_eq_empty_iff : trim s = "" ↔ ∀ c ∈ s.toList, isBlank c = true := by
  rw [← String.toList_inj, toList_trim, trimList_eq_rdropWhile, String.toList_empty,
    List.rdropWhile_eq_nil_iff]
  refine ⟨fun h => ?_, fun h c hc => h c ((List.dropWhile_sublist _).subset hc)⟩
  rw [← List.takeWhile_append_dropWhile (p := isBlank) (l := s.toList)]
  exact List.forall_mem_append.mpr ⟨fun c hc => List.mem_takeWhile_imp hc, h⟩

theorem trim_eq_self_iff : trim s = s ↔ IsTrimmed s.toList := by
  rw [← String.toList_inj, toList_trim, trimList_eq_self_iff]

theorem trim_trim (s : String) : trim (trim s) = trim s :=
  trim_eq_self_iff.mpr (toList_trim s ▸ isTrimmed_trimList s.toList)

end LinkerMap.Text
