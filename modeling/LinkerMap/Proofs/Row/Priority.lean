import LinkerMap.Proofs.Row.Reading
import Mathlib.Data.List.Infix

/-! # Which reading is taken

A pattern reads something wherever runs of its classes stand. What it reads behind its first runs is
what the rest of it reads there, and a row is read at the leftmost place where anything is read.
-/

namespace LinkerMap.Row

variable {p : CharClass} {ps : List CharClass} {cs rest run : List Char}
  {runs : List (List Char)} {reading : Reading}

theorem isSome_runsAt? (h : List.Forall₂ IsRun ps runs) (rest : List Char) :
    (runsAt? ps (runs.flatten ++ rest)).isSome = true := by
  induction h with
  | nil => simp
  | @cons p run ps runs hrun _ ih =>
    obtain ⟨hne, hp⟩ := hrun
    rw [List.flatten_cons, List.append_assoc]
    induction run with
    | nil => exact absurd rfl hne
    | cons c run ihrun =>
      rw [List.cons_append, runsAt?, if_pos (hp c List.mem_cons_self), Option.isSome_or,
        Option.isSome_map, Option.isSome_map, Bool.or_eq_true]
      cases run with
      | nil => exact .inr ih
      | cons d run => exact .inl (ihrun (by simp) fun x hx => hp x (List.mem_cons_of_mem _ hx))

theorem exists_runs_eq_cons (h : runsAt? (p :: ps) cs = some reading) :
    ∃ run runs, reading.runs = run :: runs := by
  obtain ⟨run, runs, -, -, he⟩ := List.forall₂_cons_left_iff.mp (runsAt?_sound h).1
  exact ⟨run, runs, he⟩

theorem exists_first_run {c : Char} (h : runsAt? (p :: ps) (c :: cs) = some reading) :
    p c = true ∧ ∃ run runs, reading.runs = (c :: run) :: runs := by
  obtain ⟨hruns, hcs⟩ := runsAt?_sound h
  obtain ⟨run, runs, hrun, -, he⟩ := List.forall₂_cons_left_iff.mp hruns
  obtain ⟨d, run, rfl⟩ := List.exists_cons_of_ne_nil hrun.1
  rw [he] at hcs
  obtain rfl : c = d := (List.cons.inj hcs).1
  exact ⟨hrun.2 c List.mem_cons_self, run, runs, he⟩

theorem runsAt?_tail (h : runsAt? (p :: ps) cs = some ⟨run :: runs, rest⟩) :
    runsAt? ps (runs.flatten ++ rest) = some ⟨runs, rest⟩ := by
  induction cs generalizing run with
  | nil => simp [runsAt?] at h
  | cons c cs ih =>
    by_cases hp : p c = true
    · simp only [runsAt?, hp, if_true, Option.or_eq_some_iff, Option.map_eq_some_iff] at h
      rcases h with ⟨⟨found, behind⟩, hr, he⟩ | ⟨-, ⟨found, behind⟩, hr, he⟩
      · obtain ⟨first, others, rfl⟩ := exists_runs_eq_cons hr
        simp only [Reading.widen, Reading.mk.injEq, List.cons.injEq] at he
        obtain ⟨⟨-, rfl⟩, rfl⟩ := he
        exact ih hr
      · simp only [Reading.start, Reading.mk.injEq, List.cons.injEq] at he
        obtain ⟨⟨-, rfl⟩, rfl⟩ := he
        rwa [← (runsAt?_sound hr).2]
    · simp [runsAt?, hp] at h

theorem runsAt?_drop (h : runsAt? ps cs = some reading) (n : Nat) :
    runsAt? (ps.drop n) ((reading.runs.drop n).flatten ++ reading.rest) =
      some ⟨reading.runs.drop n, reading.rest⟩ := by
  induction n generalizing ps cs reading with
  | zero =>
    rw [List.drop_zero, List.drop_zero, ← (runsAt?_sound h).2, h]
  | succ n ih =>
    cases ps with
    | nil =>
      obtain ⟨runs, rest⟩ := reading
      obtain rfl : runs = [] := List.forall₂_nil_left_iff.mp (runsAt?_sound h).1
      simp
    | cons p ps =>
      obtain ⟨run, runs, he⟩ := exists_runs_eq_cons h
      obtain ⟨_, rest⟩ := reading
      subst he
      exact ih (runsAt?_tail h)

theorem exists_of_leftmost? (h : leftmost? ps cs = some reading) :
    ∃ before behind, cs = before ++ behind ∧ runsAt? ps behind = some reading ∧
      ∀ passed, passed <:+ before → passed ≠ [] → runsAt? ps (passed ++ behind) = none := by
  induction cs with
  | nil => exact ⟨[], [], rfl, h, by simp⟩
  | cons c cs ih =>
    simp only [leftmost?, Option.or_eq_some_iff] at h
    rcases h with h | ⟨hc, h⟩
    · exact ⟨[], c :: cs, rfl, h, by simp⟩
    · obtain ⟨before, behind, rfl, hr, hn⟩ := ih h
      refine ⟨c :: before, behind, rfl, hr, fun passed hs hne => ?_⟩
      rcases List.suffix_cons_iff.mp hs with rfl | hs
      · exact hc
      · exact hn passed hs hne

/-- A row is read at one place, and nothing is read at any place in front of it. -/
theorem exists_of_find? (h : find? ps cs = some reading) :
    ∃ before behind, cs = before ++ behind ∧ runsAt? ps behind = some reading ∧
      ∀ passed, passed <:+ before → passed ≠ [] → runsAt? ps (passed ++ behind) = none :=
  exists_of_leftmost? (find?_eq_leftmost? ps cs ▸ h)

end LinkerMap.Row
