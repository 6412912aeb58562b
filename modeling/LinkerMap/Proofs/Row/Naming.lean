import LinkerMap.Proofs.Row.Fields
import LinkerMap.Proofs.Row.Priority

/-! # Names of rows

The name of a row is trimmed, and blanks other than the space may stand in it: a row whose name is
all blank is read, and nothing is left of its name. Such rows are told by what stands behind the
kind of a symbol, or in front of the start of a segment.
-/

namespace LinkerMap

namespace Row

variable {cs before gap name rest row : List Char} {pattern : List CharClass} {reading : Reading}

/-- What stands in a row in front of the `n`-th run of its reading, and what stands from there
on. -/
def cut? (n : Nat) (pattern : List CharClass) (row : List Char) :
    Option (List Char × List Char) :=
  (find? pattern row).map fun reading =>
    let behind := (reading.runs.drop n).flatten ++ reading.rest
    (row.take (row.length - behind.length), behind)

theorem cut?_eq (h : find? pattern row = some reading)
    (hrow : row = before ++ (reading.runs.flatten ++ reading.rest)) (n : Nat) :
    cut? n pattern row = some (before ++ (reading.runs.take n).flatten,
      (reading.runs.drop n).flatten ++ reading.rest) := by
  have hsplit : row = (before ++ (reading.runs.take n).flatten) ++
      ((reading.runs.drop n).flatten ++ reading.rest) := by
    rw [hrow, ← List.take_append_drop n reading.runs, List.flatten_append]
    simp
  simp only [cut?, h, Option.map_some, Option.some.injEq, Prod.mk.injEq, and_true]
  rw [hsplit, List.length_append, Nat.add_sub_cancel, List.take_left]

theorem exists_first {p : CharClass} (h : ∃ c ∈ cs, p c = true) : ∃ passed c behind,
    cs = passed ++ c :: behind ∧ p c = true ∧ ∀ d ∈ passed, p d = false := by
  obtain ⟨c, hc⟩ := Option.isSome_iff_exists.mp (List.find?_isSome.mpr h)
  obtain ⟨hp, passed, behind, hcs, hpassed⟩ := List.find?_eq_some_iff_append.mp hc
  exact ⟨passed, c, behind, hcs, hp, by simpa using hpassed⟩

theorem exists_last {p : CharClass} (h : ∃ c ∈ cs, p c = true) : ∃ passed c behind,
    cs = passed ++ c :: behind ∧ p c = true ∧ ∀ d ∈ behind, p d = false := by
  have hr : ∃ c ∈ cs.reverse, p c = true := by simpa using h
  obtain ⟨behind, c, passed, hcs, hp, hbehind⟩ := exists_first hr
  refine ⟨passed.reverse, c, behind.reverse, ?_, hp, by simpa using hbehind⟩
  rw [← List.reverse_reverse cs, hcs]
  simp

theorem nonSpace_of_not_blank {c : Char} (h : blank c = false) : nonSpace c = true := by
  have hs : c ≠ ' ' := fun he => absurd h (he ▸ by decide)
  simpa [nonSpace] using hs

theorem suffix_dropWhile_append {gap : List Char} (h : IsRun blank gap) (before cs : List Char) :
    gap ++ cs <:+ (before ++ (gap ++ cs)).dropWhile (!blank ·) := by
  rw [List.dropWhile_append]
  split
  · obtain ⟨c, gap, rfl⟩ := List.exists_cons_of_ne_nil h.1
    rw [List.cons_append, List.dropWhile_cons_of_neg (by simp [h.2 c])]
  · exact List.suffix_append _ _

theorem forall_blank_name_iff (h : runsAt? [blank, nonSpace] cs = some ⟨[gap, name], rest⟩) :
    (∀ c ∈ name, blank c = true) ↔ ∀ c ∈ cs, blank c = true := by
  have hcs := (runsAt?_sound h).2
  refine ⟨fun hname => ?_, fun hall c hc => hall c (by rw [hcs]; simp [hc])⟩
  by_contra hc
  have hother : ∃ c ∈ cs, (!blank c) = true := by simpa using hc
  obtain ⟨blanks, x, behind, rfl, hx, hblanks⟩ := exists_first hother
  simp only [Bool.not_eq_true', Bool.not_eq_false'] at hx hblanks
  have hgap : IsRun blank blanks := by
    refine ⟨?_, hblanks⟩
    rintro rfl
    simp [(exists_first_run h).1] at hx
  obtain ⟨reading, hr⟩ := Option.isSome_iff_exists.mp
    (isSome_runsAt? (.cons (isRun_singleton (nonSpace_of_not_blank hx)) .nil) behind)
  obtain ⟨-, word, others, hruns⟩ := exists_first_run hr
  have hread := runsAt?_append hgap (by simpa using hx) hr
  rw [List.flatten_singleton, List.singleton_append, h, hruns] at hread
  obtain ⟨⟨-, rfl, -⟩, -⟩ : (gap = blanks ∧ name = x :: word ∧ [] = others) ∧
      rest = reading.rest := by simpa using hread
  simp [hname x List.mem_cons_self] at hx

end Row

namespace Symbol

open Row

/-- Whether a row is read as a symbol and only blanks stand behind its kind. -/
def endsAtKind (row : String) : Bool :=
  (cut? 8 pattern row.toList).any fun (_, behind) => behind.all blank

theorem exists_runs {row : List Char} {reading : Reading} (h : find? pattern row = some reading) :
    ∃ b₀ start b₁ size b₂ address b₃ kind b₄ name rest, reading =
      ⟨[b₀, start, b₁, size, b₂, address, b₃, kind, b₄, name], rest⟩ := by
  obtain ⟨-, hruns, -⟩ := find?_sound h
  obtain ⟨runs, rest⟩ := reading
  match runs, hruns.length_eq with
  | [b₀, start, b₁, size, b₂, address, b₃, kind, b₄, name], _ =>
    exact ⟨b₀, start, b₁, size, b₂, address, b₃, kind, b₄, name, rest, rfl⟩

/-- A symbol has no name exactly when only blanks stand behind its kind. -/
theorem exists_name_eq_empty_iff (row : String) :
    (∃ symbol, ofRow? row = some symbol ∧ symbol.name = "") ↔ endsAtKind row = true := by
  cases h : find? pattern row.toList with
  | none => simp [ofRow?, endsAtKind, cut?, h]
  | some reading =>
    obtain ⟨b₀, start, b₁, size, b₂, address, b₃, kind, b₄, name, rest, rfl⟩ := exists_runs h
    obtain ⟨before, behind, hrow, hread, -⟩ := exists_of_find? h
    have hname := forall_blank_name_iff (runsAt?_drop hread 8)
    have hempty : (∃ symbol, ofRow? row = some symbol ∧ symbol.name = "") ↔
        ∀ c ∈ name, blank c = true := by
      simp [ofRow?, h, Text.trim_eq_empty_iff, blank]
    have hends : endsAtKind row = true ↔
        ∀ c ∈ [b₄, name].flatten ++ rest, blank c = true := by
      simp [endsAtKind, cut?, h, or_imp, forall_and]
    rw [hempty, hends]
    exact hname

end Symbol

namespace Segment

open Row

/-- Whether a row is read as a segment and only blanks stand in front of its start. What the row
begins with is no part of it if there is no blank in front of that. -/
def beginsAtStart (row : String) : Bool :=
  (cut? 3 pattern row.toList).any fun (front, _) => (front.dropWhile (!blank ·)).all blank

theorem exists_runs {row : List Char} {reading : Reading} (h : find? pattern row = some reading) :
    ∃ b₀ name b₁ start b₂ size b₃ offset rest, reading =
      ⟨[b₀, name, b₁, start, b₂, size, b₃, offset], rest⟩ := by
  obtain ⟨-, hruns, -⟩ := find?_sound h
  obtain ⟨runs, rest⟩ := reading
  match runs, hruns.length_eq with
  | [b₀, name, b₁, start, b₂, size, b₃, offset], _ =>
    exact ⟨b₀, name, b₁, start, b₂, size, b₃, offset, rest, rfl⟩

/-- When the name of a segment is all blank, there is no blank in front of what is read: from such
a blank on, a segment could be read with the word behind it as its name. -/
theorem not_blank_of_mem_before {before b₀ name b₁ start b₂ size b₃ offset rest : List Char}
    (hruns : List.Forall₂ IsRun pattern [b₀, name, b₁, start, b₂, size, b₃, offset])
    (hname : ∀ c ∈ name, blank c = true)
    (hfirst : ∀ passed, passed <:+ before → passed ≠ [] → runsAt? pattern
      (passed ++ ([b₀, name, b₁, start, b₂, size, b₃, offset].flatten ++ rest)) = none) :
    ∀ c ∈ before, blank c = false := by
  by_contra hc
  have hblank : ∃ c ∈ before, blank c = true := by simpa using hc
  obtain ⟨skipped, c, word, rfl, hb, hword⟩ := exists_last hblank
  have hnone := hfirst (c :: word) (List.suffix_append _ _) (by simp)
  simp only [pattern, List.forall₂_cons, List.Forall₂.nil, and_true] at hruns
  obtain ⟨h₀, hn, h₁, hfields⟩ := hruns
  by_cases hw : word = []
  · have hwide : List.Forall₂ IsRun pattern
        [c :: b₀, name, b₁, start, b₂, size, b₃, offset] := by
      simpa [pattern] using ⟨h₀.cons hb, hn, h₁, hfields⟩
    have hsome := isSome_runsAt? hwide rest
    exact Option.isSome_iff_ne_none.mp hsome (by simpa [hw] using hnone)
  · have hgap : IsRun blank (b₀ ++ (name ++ b₁)) :=
      h₀.append (List.forall_mem_append.mpr ⟨hname, h₁.2⟩)
    have hword' : IsRun nonSpace word := ⟨hw, fun d hd => nonSpace_of_not_blank (hword d hd)⟩
    have hearly : List.Forall₂ IsRun pattern
        [[c], word, b₀ ++ (name ++ b₁), start, b₂, size, b₃, offset] := by
      simpa [pattern] using ⟨isRun_singleton hb, hword', hgap, hfields⟩
    have hsome := isSome_runsAt? hearly rest
    exact Option.isSome_iff_ne_none.mp hsome (by simpa using hnone)

/-- A segment has no name exactly when only blanks stand in front of its start. -/
theorem exists_name_eq_empty_iff (row : String) :
    (∃ segment, ofRow? row = some segment ∧ segment.name = "") ↔ beginsAtStart row = true := by
  cases h : find? pattern row.toList with
  | none => simp [ofRow?, beginsAtStart, cut?, h]
  | some reading =>
    obtain ⟨b₀, name, b₁, start, b₂, size, b₃, offset, rest, rfl⟩ := exists_runs h
    obtain ⟨before, behind, hrow, hread, hfirst⟩ := exists_of_find? h
    obtain ⟨hruns, rfl⟩ := runsAt?_sound hread
    have hempty : (∃ segment, ofRow? row = some segment ∧ segment.name = "") ↔
        ∀ c ∈ name, blank c = true := by
      simp [ofRow?, h, Text.trim_eq_empty_iff, blank]
    have hbegins : beginsAtStart row = true ↔
        ∀ c ∈ (before ++ (b₀ ++ (name ++ b₁))).dropWhile (!blank ·), blank c = true := by
      simp [beginsAtStart, cut?_eq h hrow 3]
    rw [hempty, hbegins]
    have hgap := hruns
    simp only [pattern, List.forall₂_cons, List.Forall₂.nil, and_true] at hgap
    obtain ⟨h₀, -, h₁, -⟩ := hgap
    constructor
    · intro hname c hc
      rw [List.dropWhile_append_of_pos fun d hd => by
        simp [not_blank_of_mem_before hruns hname hfirst d hd]] at hc
      have hgap := h₀.append (List.forall_mem_append.mpr ⟨hname, h₁.2⟩)
      exact hgap.2 c ((List.dropWhile_sublist _).subset hc)
    · intro hall c hc
      refine hall c ((suffix_dropWhile_append h₀ before _).subset ?_)
      simp [hc]

end Segment

end LinkerMap
