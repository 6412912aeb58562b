import LinkerMap.Proofs.Row.Naming

/-! # Spaces around rows

Spaces behind a row, and more spaces in front of a row that starts with one, change nothing in what
is read. The last run of a pattern holds no space, so nothing is read of the padding behind the row.
The second run holds none either, so the spaces in front of it all go to the first gap.
-/

namespace LinkerMap

namespace Row

variable {p q : CharClass} {ps : List CharClass} {c : Char} {n : Nat}

def padding (n : Nat) : List Char :=
  List.replicate n ' '

theorem eq_space_of_mem_padding (h : c ∈ padding n) : c = ' ' :=
  List.eq_of_mem_replicate h

theorem blank_of_mem_padding (h : c ∈ padding n) : blank c = true :=
  eq_space_of_mem_padding h ▸ by decide

theorem padding_zero : padding 0 = [] := rfl

theorem padding_succ (n : Nat) : padding (n + 1) = ' ' :: padding n := rfl

namespace Reading

def extend (more : List Char) (reading : Reading) : Reading :=
  { reading with rest := reading.rest ++ more }

theorem extend_widen (more : List Char) (c : Char) (reading : Reading) :
    (reading.widen c).extend more = (reading.extend more).widen c := by
  obtain ⟨_ | ⟨run, runs⟩, rest⟩ := reading <;> rfl

theorem extend_start (more : List Char) (c : Char) (reading : Reading) :
    (reading.start c).extend more = (reading.extend more).start c := rfl

end Reading

/-- The last run of a pattern holds no space. -/
def EndsInWord (ps : List CharClass) : Prop :=
  ∀ p ∈ ps.getLast?, p ' ' = false

theorem EndsInWord.tail (h : EndsInWord (p :: ps)) : EndsInWord ps := by
  cases ps with
  | nil => simp [EndsInWord]
  | cons q ps => simpa [EndsInWord, List.getLast?_cons_cons] using h

theorem runsAt?_padding (h : EndsInWord (p :: ps)) (n : Nat) :
    runsAt? (p :: ps) (padding n) = none := by
  induction n generalizing p ps with
  | zero => rfl
  | succ n ih =>
    cases ps with
    | nil =>
      have hp : p ' ' = false := h p rfl
      simp [padding_succ, runsAt?, hp]
    | cons q ps => simp [padding_succ, runsAt?, ih h, ih h.tail]

theorem runsAt?_append_padding (h : EndsInWord ps) (cs : List Char) (n : Nat) :
    runsAt? ps (cs ++ padding n) = (runsAt? ps cs).map (Reading.extend (padding n)) := by
  induction cs generalizing ps with
  | nil =>
    cases ps with
    | nil => simp [Reading.extend]
    | cons p ps => simp [runsAt?, runsAt?_padding h]
  | cons c cs ih =>
    cases ps with
    | nil => simp [Reading.extend]
    | cons p ps =>
      by_cases hp : p c = true
      · simp [runsAt?, hp, ih h, ih h.tail, Option.map_or, Function.comp_def, Reading.extend_widen,
          Reading.extend_start]
      · simp [runsAt?, hp]

theorem leftmost?_padding (h : EndsInWord (p :: ps)) (n : Nat) :
    leftmost? (p :: ps) (padding n) = none := by
  induction n with
  | zero => rfl
  | succ n ih => rw [padding_succ, leftmost?, ← padding_succ, runsAt?_padding h, ih, Option.none_or]

theorem leftmost?_append_padding (h : EndsInWord (p :: ps)) (cs : List Char) (n : Nat) :
    leftmost? (p :: ps) (cs ++ padding n) =
      (leftmost? (p :: ps) cs).map (Reading.extend (padding n)) := by
  induction cs with
  | nil => exact leftmost?_padding h n
  | cons c cs ih =>
    have hr := runsAt?_append_padding h (c :: cs) n
    rw [List.cons_append] at hr
    simp [leftmost?, hr, ih, Option.map_or]

theorem runsAt?_cons_space (hp : p ' ' = true) (hq : q ' ' = false) (cs : List Char) :
    runsAt? (p :: q :: ps) (' ' :: ' ' :: cs) =
      (runsAt? (p :: q :: ps) (' ' :: cs)).map (Reading.widen ' ') := by
  have hn : runsAt? (q :: ps) (' ' :: cs) = none := runsAt?_eq_none (by simpa using hq)
  rw [runsAt?, if_pos hp, hn, Option.map_none, Option.or_none]

/-- The runs behind the first, and the characters behind them. -/
def Reading.behindFirst (reading : Reading) : List (List Char) × List Char :=
  (reading.runs.tail, reading.rest)

theorem Reading.behindFirst_widen (c : Char) (reading : Reading) :
    (reading.widen c).behindFirst = reading.behindFirst := by
  obtain ⟨_ | ⟨run, runs⟩, rest⟩ := reading <;> rfl

theorem behindFirst_leftmost?_cons_space (hp : p ' ' = true) (hq : q ' ' = false)
    (cs : List Char) :
    (leftmost? (p :: q :: ps) (' ' :: ' ' :: cs)).map Reading.behindFirst =
      (leftmost? (p :: q :: ps) (' ' :: cs)).map Reading.behindFirst := by
  have hs : runsAt? (p :: q :: ps) (' ' :: ' ' :: cs) = _ := runsAt?_cons_space hp hq cs
  cases hr : runsAt? (p :: q :: ps) (' ' :: cs) with
  | none =>
    rw [hr] at hs
    rw [leftmost?, hs]
    rfl
  | some reading =>
    rw [hr] at hs
    rw [leftmost?, hs, leftmost?, hr]
    exact congrArg some (reading.behindFirst_widen ' ')

/-- Spaces around a row do not change what is read behind the first gap. -/
theorem find?_padded (hp : p ' ' = true) (hq : q ' ' = false) (h : EndsInWord (p :: q :: ps))
    (cs : List Char) (before behind : Nat) :
    (find? (p :: q :: ps) (padding before ++ ' ' :: cs ++ padding behind)).map Reading.behindFirst =
      (find? (p :: q :: ps) (' ' :: cs)).map fun reading =>
        (reading.extend (padding behind)).behindFirst := by
  rw [find?_eq_leftmost?, find?_eq_leftmost?, List.append_assoc]
  induction before with
  | zero =>
    rw [padding_zero, List.nil_append, leftmost?_append_padding h, Option.map_map]
    rfl
  | succ n ih =>
    obtain ⟨ds, hd⟩ : ∃ ds, padding n ++ (' ' :: cs ++ padding behind) = ' ' :: ds := by
      cases n <;> exact ⟨_, rfl⟩
    rw [hd] at ih
    rw [padding_succ, List.cons_append, hd, behindFirst_leftmost?_cons_space hp hq, ih]

end Row

namespace Segment

open Row

variable {row row' : String} {cs : List Char} {before behind : Nat}

theorem ofRow?_congr (h : (find? pattern row.toList).map (·.runs.tail) =
    (find? pattern row'.toList).map (·.runs.tail)) : ofRow? row = ofRow? row' := by
  cases hr : find? pattern row.toList with
  | none =>
    rw [hr, Option.map_none, eq_comm, Option.map_eq_none_iff] at h
    rw [ofRow?, hr, ofRow?, h]
  | some reading =>
    rw [hr, Option.map_some, eq_comm, Option.map_eq_some_iff] at h
    obtain ⟨reading', hr', ht⟩ := h
    obtain ⟨_, _, _, _, _, _, _, _, _, rfl⟩ := exists_runs hr
    obtain ⟨_, _, _, _, _, _, _, _, _, rfl⟩ := exists_runs hr'
    simp only [List.tail_cons, List.cons.injEq, and_true] at ht
    obtain ⟨rfl, rfl, rfl, rfl, rfl, rfl, rfl⟩ := ht
    rw [ofRow?, hr, ofRow?, hr']

theorem ofRow?_padded (hrow : row.toList = ' ' :: cs)
    (hrow' : row'.toList = padding before ++ row.toList ++ padding behind) :
    ofRow? row' = ofRow? row := by
  have hends : EndsInWord pattern := by
    rintro p ⟨⟩
    decide
  have hf := find?_padded (by decide) (by decide) hends cs before behind
  have ht := congrArg (Option.map Prod.fst) hf
  rw [Option.map_map, Option.map_map] at ht
  rw [hrow] at hrow'
  exact ofRow?_congr (by rw [hrow, hrow']; exact ht)

end Segment

namespace Symbol

open Row

variable {row row' : String} {cs : List Char} {before behind : Nat}

theorem ofRow?_congr
    (h : (find? pattern row.toList).map (fun r => (r.runs.tail, moduleOf? r.rest)) =
      (find? pattern row'.toList).map (fun r => (r.runs.tail, moduleOf? r.rest))) :
    ofRow? row = ofRow? row' := by
  cases hr : find? pattern row.toList with
  | none =>
    rw [hr, Option.map_none, eq_comm, Option.map_eq_none_iff] at h
    rw [ofRow?, hr, ofRow?, h]
  | some reading =>
    rw [hr, Option.map_some, eq_comm, Option.map_eq_some_iff] at h
    obtain ⟨reading', hr', ht⟩ := h
    obtain ⟨_, _, _, _, _, _, _, _, _, _, _, rfl⟩ := exists_runs hr
    obtain ⟨_, _, _, _, _, _, _, _, _, _, _, rfl⟩ := exists_runs hr'
    simp only [List.tail_cons, Prod.mk.injEq, List.cons.injEq, and_true] at ht
    obtain ⟨⟨rfl, rfl, rfl, rfl, rfl, rfl, rfl, rfl, rfl⟩, hm⟩ := ht
    rw [ofRow?, hr, ofRow?, hr']
    simp only [hm]

theorem moduleOf?_append_padding (rest : List Char) (n : Nat) :
    moduleOf? (rest ++ padding n) = moduleOf? rest := by
  have hblank : ∀ c ∈ padding n, blank c = true := fun _ => blank_of_mem_padding
  have hline : ∀ c ∈ padding n, (c != '\n') = true :=
    fun c hc => eq_space_of_mem_padding hc ▸ by decide
  suffices h : Text.trimList (((rest ++ padding n).dropWhile blank).takeWhile (· != '\n')) =
      Text.trimList ((rest.dropWhile blank).takeWhile (· != '\n')) by
    rw [moduleOf?, h, moduleOf?]
  rw [List.dropWhile_append]
  split
  · rename_i he
    rw [List.isEmpty_iff.mp he, List.dropWhile_eq_nil_iff.mpr hblank]
  · rw [List.takeWhile_append]
    split
    · rename_i hl
      rw [List.takeWhile_eq_self_iff.mpr hline, Text.trimList_append hblank,
        (List.takeWhile_prefix _).eq_of_length hl]
    · rfl

theorem ofRow?_padded (hrow : row.toList = ' ' :: cs)
    (hrow' : row'.toList = padding before ++ row.toList ++ padding behind) :
    ofRow? row' = ofRow? row := by
  have hends : EndsInWord pattern := by
    rintro p ⟨⟩
    decide
  have hf := find?_padded (by decide) (by decide) hends cs before behind
  have ht := congrArg (Option.map (Prod.map id moduleOf?)) hf
  rw [Option.map_map, Option.map_map] at ht
  rw [hrow] at hrow'
  refine ofRow?_congr ?_
  rw [hrow, hrow']
  refine Eq.trans ht (Option.map_congr fun reading _ => ?_)
  exact congrArg (Prod.mk _) (moduleOf?_append_padding reading.rest behind)

end Symbol

end LinkerMap
