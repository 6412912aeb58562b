import LinkerMap.Row.Pattern
import Mathlib.Data.List.Forall2

/-! # What a row pattern reads

A reading cuts the characters from its start into runs of the classes of the pattern and a rest.
Conversely, runs that are each as long as their class allows are what the pattern reads.
-/

namespace LinkerMap.Row

variable {p : CharClass} {ps : List CharClass} {c : Char} {cs rest run : List Char}
  {runs : List (List Char)} {reading : Reading}

/-- A non-empty list of characters of a class. -/
def IsRun (p : CharClass) (run : List Char) : Prop :=
  run ≠ [] ∧ ∀ c ∈ run, p c = true

instance (p : CharClass) (run : List Char) : Decidable (IsRun p run) :=
  decidable_of_iff (run ≠ [] ∧ run.all p = true) (by simp [IsRun])

theorem isRun_singleton (h : p c = true) : IsRun p [c] :=
  ⟨by simp, by simpa using h⟩

theorem IsRun.cons (h : p c = true) (hr : IsRun p run) : IsRun p (c :: run) :=
  ⟨by simp, by simpa [h] using hr.2⟩

theorem IsRun.append (hr : IsRun p run) (hc : ∀ c ∈ cs, p c = true) : IsRun p (run ++ cs) :=
  ⟨by simp [hr.1], List.forall_mem_append.mpr ⟨hr.2, hc⟩⟩

theorem IsRun.prepend (hr : IsRun p run) (hc : ∀ c ∈ cs, p c = true) : IsRun p (cs ++ run) :=
  ⟨by simp [hr.1], List.forall_mem_append.mpr ⟨hc, hr.2⟩⟩

@[simp] theorem runsAt?_nil (cs : List Char) : runsAt? [] cs = some ⟨[], cs⟩ := by
  cases cs <;> simp only [runsAt?]

theorem runsAt?_sound (h : runsAt? ps cs = some reading) :
    List.Forall₂ IsRun ps reading.runs ∧ cs = reading.runs.flatten ++ reading.rest := by
  induction cs generalizing ps reading with
  | nil =>
    cases ps with
    | nil => rw [runsAt?_nil, Option.some.injEq] at h; subst h; exact ⟨.nil, rfl⟩
    | cons p ps => simp [runsAt?] at h
  | cons c cs ih =>
    cases ps with
    | nil => rw [runsAt?_nil, Option.some.injEq] at h; subst h; exact ⟨.nil, rfl⟩
    | cons p ps =>
      by_cases hp : p c = true
      · simp only [runsAt?, hp, if_true, Option.or_eq_some_iff, Option.map_eq_some_iff] at h
        rcases h with ⟨r, hr, rfl⟩ | ⟨-, r, hr, rfl⟩
        · obtain ⟨hf, rfl⟩ := ih hr
          obtain ⟨run, runs, hrun, hruns, he⟩ := List.forall₂_cons_left_iff.mp hf
          obtain ⟨_, rest⟩ := r
          subst he
          exact ⟨.cons (hrun.cons hp) hruns, rfl⟩
        · obtain ⟨hf, rfl⟩ := ih hr
          exact ⟨.cons (isRun_singleton hp) hf, rfl⟩
      · simp [runsAt?, hp] at h

theorem leftmost?_sound (h : leftmost? ps cs = some reading) :
    ∃ before, List.Forall₂ IsRun ps reading.runs ∧
      cs = before ++ (reading.runs.flatten ++ reading.rest) := by
  induction cs with
  | nil => exact ⟨[], runsAt?_sound h⟩
  | cons c cs ih =>
    simp only [leftmost?, Option.or_eq_some_iff] at h
    rcases h with h | ⟨-, h⟩
    · exact ⟨[], runsAt?_sound h⟩
    · obtain ⟨before, hf, rfl⟩ := ih h
      exact ⟨c :: before, hf, rfl⟩

theorem find?_sound (h : find? ps cs = some reading) :
    ∃ before, List.Forall₂ IsRun ps reading.runs ∧
      cs = before ++ (reading.runs.flatten ++ reading.rest) :=
  leftmost?_sound (find?_eq_leftmost? ps cs ▸ h)

/-- Runs of the classes of a pattern, none of which could take one more character. -/
inductive Longest : List CharClass → List (List Char) → List Char → Prop
  | nil {rest : List Char} : Longest [] [] rest
  | cons {p : CharClass} {ps : List CharClass} {run rest : List Char} {runs : List (List Char)} :
      IsRun p run → (∀ c ∈ (runs.flatten ++ rest).head?, p c = false) → Longest ps runs rest →
      Longest (p :: ps) (run :: runs) rest

theorem Longest.cons_of_forall {next : List Char} (hr : IsRun p run)
    (hn : ∀ c ∈ next, p c = false) (h : Longest ps (next :: runs) rest) :
    Longest (p :: ps) (run :: next :: runs) rest := by
  refine .cons hr ?_ h
  obtain ⟨c, next, rfl⟩ : ∃ c cs, next = c :: cs := by
    cases h with
    | cons hq _ _ => exact List.exists_cons_of_ne_nil hq.1
  simpa using hn c List.mem_cons_self

theorem Longest.single (hr : IsRun p run) (hn : ∀ c ∈ rest.head?, p c = false) :
    Longest [p] [run] rest :=
  .cons hr (by simpa using hn) .nil

theorem runsAt?_eq_none (h : ∀ c ∈ cs.head?, p c = false) : runsAt? (p :: ps) cs = none := by
  cases cs with
  | nil => rfl
  | cons c cs => simp [runsAt?, h c rfl]

theorem runsAt?_append (hr : IsRun p run) (hn : ∀ c ∈ cs.head?, p c = false)
    (h : runsAt? ps cs = some reading) :
    runsAt? (p :: ps) (run ++ cs) = some { reading with runs := run :: reading.runs } := by
  obtain ⟨hne, hp⟩ := hr
  induction run with
  | nil => exact absurd rfl hne
  | cons c run ih =>
    have hc : p c = true := hp c (by simp)
    cases run with
    | nil => simp [runsAt?, hc, runsAt?_eq_none hn, h, Reading.start]
    | cons d run =>
      have hd := ih (by simp) fun x hx => hp x (List.mem_cons_of_mem _ hx)
      rw [List.cons_append, runsAt?, if_pos hc, hd]
      rfl

theorem Longest.runsAt?_eq (h : Longest ps runs rest) :
    runsAt? ps (runs.flatten ++ rest) = some ⟨runs, rest⟩ := by
  induction h with
  | nil => exact runsAt?_nil _
  | cons hr hn _ ih =>
    rw [List.flatten_cons, List.append_assoc, runsAt?_append hr hn ih]

/-- Longest runs at the beginning of a row are what is found in it. -/
theorem Longest.find?_eq (h : Longest ps runs rest) :
    find? ps (runs.flatten ++ rest) = some ⟨runs, rest⟩ := by
  rw [find?_eq_leftmost?]
  cases he : runs.flatten ++ rest with
  | nil => rw [leftmost?, ← he, h.runsAt?_eq]
  | cons c cs => rw [leftmost?, ← he, h.runsAt?_eq, Option.some_or]

end LinkerMap.Row
