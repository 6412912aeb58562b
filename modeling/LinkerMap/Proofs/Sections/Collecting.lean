import LinkerMap.Proofs.Sections.Splitting
import Mathlib.Data.List.Nodup

/-! # Giving titles bodies

Titles are given bodies one after the other. Each title has the body it is given last, and stands
where it was first given one.
-/

namespace LinkerMap.Sections

variable {sections : Sections} {entry : String × List String}
  {entries : List (String × List String)} {title : String}

/-- Sections in which titles are given bodies, one after the other. -/
def collectFrom (sections : Sections) (entries : List (String × List String)) : Sections :=
  entries.foldl (fun sections entry => sections.insert entry.1 entry.2) sections

def collect (entries : List (String × List String)) : Sections :=
  empty.collectFrom entries

theorem collectFrom_append (sections : Sections) (es fs : List (String × List String)) :
    sections.collectFrom (es ++ fs) = (sections.collectFrom es).collectFrom fs :=
  List.foldl_append

theorem collect_concat (entries : List (String × List String)) (entry : String × List String) :
    collect (entries ++ [entry]) = (collect entries).insert entry.1 entry.2 :=
  collectFrom_append empty entries [entry]

theorem titles_insert (sections : Sections) (title : String) (body : List String) :
    (sections.insert title body).titles =
      if title ∈ sections.titles then sections.titles else sections.titles ++ [title] := by
  obtain ⟨entries⟩ := sections
  simp only [titles, insert]
  induction entries with
  | nil => rfl
  | cons entry entries ih =>
    obtain ⟨t, b⟩ := entry
    by_cases h : t = title
    · simp [insertEntry, h]
    · by_cases hm : title ∈ entries.map Prod.fst <;>
        simp only [hm, if_true, if_false] at ih <;>
        simp [insertEntry, h, Ne.symm h, hm, ih]

theorem mem_titles_insert {body : List String} {title' : String} :
    title' ∈ (sections.insert title body).titles ↔ title' ∈ sections.titles ∨ title' = title := by
  rw [titles_insert]
  split
  · rename_i h
    exact (or_iff_left_of_imp fun he => he ▸ h).symm
  · rw [List.mem_append, List.mem_singleton]

theorem mem_titles_collect : title ∈ (collect entries).titles ↔ title ∈ entries.map Prod.fst := by
  induction entries using List.reverseRecOn with
  | nil => rfl
  | append_singleton entries entry ih =>
    rw [collect_concat, mem_titles_insert, ih, List.map_append, List.mem_append, List.map_singleton,
      List.mem_singleton]

theorem nodup_titles_collect (entries : List (String × List String)) :
    (collect entries).titles.Nodup := by
  induction entries using List.reverseRecOn with
  | nil => exact .nil
  | append_singleton entries entry ih =>
    rw [collect_concat, titles_insert]
    split
    · exact ih
    · rename_i h
      rw [← List.concat_eq_append]
      exact ih.concat h

theorem mem_of_mem_entries_collect (h : entry ∈ (collect entries).entries) : entry ∈ entries := by
  induction entries using List.reverseRecOn with
  | nil => exact h
  | append_singleton entries last ih =>
    rw [collect_concat] at h
    rcases mem_insertEntry h with rfl | h
    · exact List.mem_append_right _ (List.mem_singleton_self _)
    · exact List.mem_append_left _ (ih h)

theorem insertEntry_of_not_mem (body : List String) (h : title ∉ entries.map Prod.fst) :
    insertEntry title body entries = entries ++ [(title, body)] := by
  induction entries with
  | nil => rfl
  | cons entry entries ih =>
    rw [List.map_cons, List.mem_cons, not_or] at h
    rw [insertEntry, if_neg (Ne.symm h.1), ih h.2, List.cons_append]

theorem collect_of_nodup (h : (entries.map Prod.fst).Nodup) : collect entries = ⟨entries⟩ := by
  induction entries using List.reverseRecOn with
  | nil => rfl
  | append_singleton entries entry ih =>
    rw [List.map_append, List.map_singleton, ← List.concat_eq_append, List.nodup_concat] at h
    rw [collect_concat, ih h.2, insert, insertEntry_of_not_mem _ h.1]

/-- A title has the body it is given last. -/
theorem get?_collect (entries : List (String × List String)) (title : String) :
    (collect entries).get? title =
      (entries.filter fun entry => entry.1 = title).getLast?.map Prod.snd := by
  induction entries using List.reverseRecOn with
  | nil => rfl
  | append_singleton entries entry ih =>
    rw [collect_concat, get?_insert, List.filter_append]
    by_cases h : title = entry.1
    · simp [h]
    · simp [h, Ne.symm h, ih]

theorem get?_eq_none_iff : sections.get? title = none ↔ title ∉ sections.titles := by
  simp only [get?, titles, List.lookup_eq_none_iff, List.mem_map, not_exists, not_and]
  grind

theorem isEmpty_eq_true_iff : sections.isEmpty = true ↔ ∀ title, title ∉ sections.titles := by
  rw [isEmpty, List.isEmpty_iff, ← List.eq_nil_iff_forall_not_mem, titles, List.map_eq_nil_iff]

end LinkerMap.Sections
