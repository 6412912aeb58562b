import LinkerMap.Proofs.Text.Trim
import LinkerMap.Text.Lines

/-! # Lines of a text

No line holds a line feed, and lines written with line feeds between them are read back.
-/

namespace LinkerMap

theorem append_cons_inj {α : Type} {a : α} {xs ys zs ws : List α} (hx : a ∉ xs) (hy : a ∉ ys)
    (h : xs ++ a :: zs = ys ++ a :: ws) : xs = ys ∧ zs = ws := by
  induction xs generalizing ys with
  | nil =>
    cases ys with
    | nil => simpa using h
    | cons y ys =>
      rw [List.nil_append, List.cons_append, List.cons.injEq] at h
      exact absurd h.1 fun he => hy (he ▸ List.mem_cons_self)
  | cons x xs ih =>
    cases ys with
    | nil =>
      rw [List.nil_append, List.cons_append, List.cons.injEq] at h
      exact absurd h.1 fun he => hx (he ▸ List.mem_cons_self)
    | cons y ys =>
      rw [List.cons_append, List.cons_append, List.cons.injEq] at h
      obtain ⟨rfl, h⟩ := h
      obtain ⟨rfl, hz⟩ := ih (fun hm => hx (List.mem_cons_of_mem _ hm))
        (fun hm => hy (List.mem_cons_of_mem _ hm)) h
      exact ⟨rfl, hz⟩

namespace Text

variable {l s : String} {ls : List String} {cs piece : List Char}

theorem not_mem_of_mem_splitOn {a : Char} (h : piece ∈ cs.splitOn a) : a ∉ piece := by
  induction cs generalizing piece with
  | nil => simp_all
  | cons c cs ih =>
    rw [List.splitOn_cons_eq_if_modifyHead] at h
    split at h
    · rcases List.mem_cons.mp h with rfl | h
      · simp
      · exact ih h
    · rename_i hc
      obtain ⟨first, others, he⟩ := List.exists_cons_of_ne_nil (List.splitOn_ne_nil a cs)
      rw [he, List.modifyHead_cons, List.mem_cons] at h
      rcases h with rfl | h
      · have hf : a ∉ first := ih (he ▸ List.mem_cons_self)
        exact List.not_mem_cons_of_ne_of_not_mem (fun ha => hc (by simp [ha])) hf
      · exact ih (he ▸ List.mem_cons_of_mem _ h)

theorem dropEnd_sublist {α : Type} [DecidableEq α] (last : α) (xs : List α) :
    (dropEnd last xs).Sublist xs := by
  unfold dropEnd
  split
  · exact List.dropLast_sublist xs
  · exact List.Sublist.refl xs

theorem lf_not_mem_of_mem_lines (h : l ∈ lines s) : '\n' ∉ l.toList := by
  obtain ⟨cs, hcs, rfl⟩ := List.mem_map.mp h
  rw [String.toList_ofList]
  simp only [linesOfList, cutLines, List.mem_append, List.mem_map] at hcs
  rcases hcs with ⟨piece, hp, rfl⟩ | hl
  · exact fun hm => not_mem_of_mem_splitOn ((List.dropLast_sublist _).subset hp)
      ((dropEnd_sublist '\r' piece).subset hm)
  · split at hl
    · simp at hl
    · rw [List.mem_singleton] at hl
      exact not_mem_of_mem_splitOn (hl ▸ List.getLast_mem _)

/-- What may stand on a line in front of a line feed: no line feed, and no carriage return at the
end. -/
def IsLine (l : String) : Prop :=
  '\n' ∉ l.toList ∧ l.toList.getLast? ≠ some '\r'

theorem isLine_empty : IsLine "" :=
  ⟨by simp, by simp⟩

theorem isLine_of_isTrimmed (h : IsTrimmed l.toList) (hn : '\n' ∉ l.toList) : IsLine l :=
  ⟨hn, fun hr => absurd (h.2 '\r' hr) (by decide)⟩

theorem IsLine.append (hs : '\n' ∉ s.toList) (h : IsLine l) (hl : l ≠ "") : IsLine (s ++ l) := by
  have hne : l.toList ≠ [] := fun he => hl (String.toList_eq_nil_iff.mp he)
  constructor
  · rw [String.toList_append, List.mem_append]
    exact not_or.mpr ⟨hs, h.1⟩
  · rw [String.toList_append, List.getLast?_append_of_ne_nil _ hne]
    exact h.2

theorem dropEnd_toList (h : IsLine l) : dropEnd '\r' l.toList = l.toList :=
  if_neg h.2

/-- Lines with line feeds between them are read back, but for an empty last one. -/
theorem lines_intercalate (h : ∀ l ∈ ls, IsLine l) (hl : IsLine l) :
    lines ("\n".intercalate (ls ++ [l])) = ls ++ if l = "" then [] else [l] := by
  have hs : ("\n".intercalate (ls ++ [l])).toList.splitOn '\n' =
      ls.map String.toList ++ [l.toList] := by
    rw [String.toList_intercalate, List.map_append]
    exact List.splitOn_intercalate '\n'
      (by simpa [or_imp, forall_and, hl.1] using fun l hl => (h l hl).1) (by simp)
  have hr : (ls.map String.toList).map (dropEnd '\r') = ls.map String.toList := by
    simpa using fun l hl => dropEnd_toList (h l hl)
  simp only [lines, linesOfList, cutLines, hs, List.dropLast_concat, List.getLast_concat, hr,
    List.map_append, List.map_map]
  congr 1
  · simp
  · by_cases he : l = "" <;> simp [he]

@[simp] theorem unlines_nil : unlines [] = "" := rfl

theorem unlines_cons (l : String) (ls : List String) :
    unlines (l :: ls) = l ++ "\n" ++ unlines ls := by
  simp [unlines]

theorem unlines_append (ls ms : List String) : unlines (ls ++ ms) = unlines ls ++ unlines ms := by
  simp [unlines]

theorem isEmpty_toUTF8_unlines_cons (l : String) (ls : List String) :
    (unlines (l :: ls)).toUTF8.isEmpty = false := by
  rw [unlines_cons]
  simp [ByteArray.isEmpty]

theorem intercalate_append_empty (ls : List String) :
    "\n".intercalate (ls ++ [""]) = unlines ls := by
  induction ls with
  | nil => rfl
  | cons l ls ih =>
    rw [List.cons_append, String.intercalate_cons_of_ne_nil (by simp), ih, unlines_cons]

theorem splitOn_unlines (h : ∀ l ∈ ls, '\n' ∉ l.toList) :
    (unlines ls).toList.splitOn '\n' = ls.map String.toList ++ [[]] := by
  induction ls with
  | nil => simp
  | cons l ls ih =>
    rw [List.forall_mem_cons] at h
    have he : (unlines (l :: ls)).toList = l.toList ++ '\n' :: (unlines ls).toList := by
      simp [unlines]
    rw [he, List.splitOn_append_cons_self_of_not_mem h.1, ih h.2, List.map_cons, List.cons_append]

theorem count_lf_unlines (h : ∀ l ∈ ls, '\n' ∉ l.toList) :
    (unlines ls).toList.count '\n' = ls.length := by
  induction ls with
  | nil => rfl
  | cons l ls ih =>
    rw [List.forall_mem_cons] at h
    rw [unlines_cons, String.toList_append, String.toList_append, List.count_append,
      List.count_append, List.count_eq_zero.mpr h.1, ih h.2, List.length_cons, Nat.zero_add]
    exact Nat.add_comm 1 _

theorem unlines_inj {ms : List String} (hl : ∀ l ∈ ls, '\n' ∉ l.toList)
    (hm : ∀ l ∈ ms, '\n' ∉ l.toList) : unlines ls = unlines ms ↔ ls = ms := by
  refine ⟨fun h => ?_, fun h => by rw [h]⟩
  have hs := splitOn_unlines hl
  rw [h, splitOn_unlines hm] at hs
  exact ((List.map_inj_right fun _ _ => String.toList_inj.mp).mp
    (List.append_cancel_right hs)).symm

end Text

end LinkerMap
