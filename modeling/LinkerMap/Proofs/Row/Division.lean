import Mathlib.Data.List.Lex
import LinkerMap.Proofs.Row.Naming

/-! # Which division of a row is read

A row can be divided into the parts of a pattern in many ways. What is read is the division that
starts first and, of those that start there, has the greatest lengths of its parts, an earlier part
counting for more than all that follow it.
-/

namespace LinkerMap

namespace Row

/-- A part of a row: a run of a class, or nothing if the part is optional. -/
structure Part where
  charClass : CharClass
  isOptional : Bool

def Part.Holds (part : Part) (run : List Char) : Prop :=
  IsRun part.charClass run ∨ part.isOptional = true ∧ run = []

def required (p : CharClass) : Part := ⟨p, false⟩

def optional (p : CharClass) : Part := ⟨p, true⟩

variable {p : CharClass} {ps : List CharClass} {parts qs : List Part}
  {cs row rest rest' : List Char}
  {runs runs' others : List (List Char)} {reading : Reading}

theorem forall₂_holds_required :
    List.Forall₂ Part.Holds (ps.map required) runs ↔ List.Forall₂ IsRun ps runs := by
  rw [List.forall₂_map_left_iff]
  have hr : (fun p => Part.Holds (required p)) = IsRun := by
    ext p run
    simp [Part.Holds, required]
  rw [hr]

theorem forall₂_append_left {α β : Type} {R : α → β → Prop} {as bs : List α} {cs : List β}
    (h : List.Forall₂ R (as ++ bs) cs) :
    ∃ ds es, cs = ds ++ es ∧ List.Forall₂ R as ds ∧ List.Forall₂ R bs es := by
  refine ⟨cs.take as.length, cs.drop as.length, (List.take_append_drop _ _).symm, ?_, ?_⟩
  · simpa using List.forall₂_take as.length h
  · simpa using List.forall₂_drop as.length h

/-! ### The greatest lengths at one place -/

/-- Lists of lengths are compared from the first on. -/
structure IsGreatest (parts : List Part) (cs : List Char) (runs : List (List Char))
    (rest : List Char) : Prop where
  holds : List.Forall₂ Part.Holds parts runs
  eq : cs = runs.flatten ++ rest
  lengths_le : ∀ {runs' : List (List Char)} {rest' : List Char},
    List.Forall₂ Part.Holds parts runs' → cs = runs'.flatten ++ rest' →
      runs'.map List.length ≤ runs.map List.length

theorem flatten_append_inj (hl : runs'.map List.length = runs.map List.length)
    (h : runs'.flatten ++ rest' = runs.flatten ++ rest) : runs' = runs ∧ rest' = rest := by
  have hlength : runs'.flatten.length = runs.flatten.length := by
    rw [List.length_flatten, List.length_flatten, hl]
  obtain ⟨hf, hr⟩ := List.append_inj h hlength
  exact ⟨List.eq_iff_flatten_eq.mpr ⟨hf, hl⟩, hr⟩

theorem nil_le (ls : List Nat) : [] ≤ ls := by
  rcases List.lex_nil_or_eq_nil ls with h | rfl
  · exact le_of_lt h
  · exact le_rfl

theorem cons_le_cons_iff {k l : Nat} {ks ls : List Nat} :
    k :: ks ≤ l :: ls ↔ k < l ∨ k = l ∧ ks ≤ ls := by
  rw [le_iff_lt_or_eq, le_iff_lt_or_eq, List.cons_lt_cons_iff, List.cons_eq_cons, or_assoc,
    ← and_or_left]

theorem append_le_append {ks ls ms ns : List Nat} (hl : ks.length = ms.length) (h : ks ≤ ms)
    (he : ks = ms → ls ≤ ns) : ks ++ ls ≤ ms ++ ns := by
  induction ks generalizing ms with
  | nil =>
    obtain rfl : ms = [] := List.length_eq_zero_iff.mp hl.symm
    exact he rfl
  | cons k ks ih =>
    cases ms with
    | nil => cases hl
    | cons m ms =>
      rw [cons_le_cons_iff] at h
      rw [List.cons_append, List.cons_append, cons_le_cons_iff]
      rcases h with h | ⟨rfl, h⟩
      · exact Or.inl h
      · refine Or.inr ⟨rfl, ih (Nat.succ.inj hl) h ?_⟩
        rintro rfl
        exact he rfl

theorem lengths_cons_le {c d : Char} {run first : List Char}
    (h : (run :: others).map List.length ≤ (first :: runs).map List.length) :
    ((c :: run) :: others).map List.length ≤ ((d :: first) :: runs).map List.length := by
  rw [List.map_cons, List.map_cons, cons_le_cons_iff] at h ⊢
  rw [List.length_cons, List.length_cons, Nat.add_lt_add_iff_right, Nat.add_right_cancel_iff]
  exact h

/-- A longer run is tried before a shorter one, so what is read has the greatest lengths. -/
theorem lengths_le_of_runsAt? (h : runsAt? ps cs = some reading)
    (hruns : List.Forall₂ IsRun ps runs) (hcs : cs = runs.flatten ++ rest) :
    runs.map List.length ≤ reading.runs.map List.length := by
  induction cs generalizing ps reading runs with
  | nil =>
    cases hruns with
    | nil => exact nil_le _
    | cons => cases h
  | cons c cs ih =>
    cases hruns with
    | nil => exact nil_le _
    | @cons p run ps others hrun hothers =>
      obtain ⟨d, run, rfl⟩ := List.exists_cons_of_ne_nil hrun.1
      obtain rfl : c = d := (List.cons.inj hcs).1
      have htail : cs = (run :: others).flatten ++ rest := (List.cons.inj hcs).2
      have hp : p c = true := hrun.2 c List.mem_cons_self
      have hshort : run ≠ [] → IsRun p run := by
        intro hne
        exact ⟨hne, fun d hd => hrun.2 d (List.mem_cons_of_mem _ hd)⟩
      simp only [runsAt?, hp, if_true, Option.or_eq_some_iff, Option.map_eq_some_iff] at h
      rcases h with ⟨⟨found, behind⟩, hr, rfl⟩ | ⟨hnone, narrow, hr, rfl⟩
      · obtain ⟨first, following, he⟩ := exists_runs_eq_cons hr
        obtain rfl : found = first :: following := he
        by_cases hne : run = []
        · obtain ⟨hfound, -⟩ := runsAt?_sound hr
          have hfirst : first ≠ [] := by cases hfound with | cons hrun _ => exact hrun.1
          have hpos := List.length_pos_iff.mpr hfirst
          subst hne
          refine cons_le_cons_iff.mpr (Or.inl ?_)
          rw [List.length_singleton, List.length_cons]
          omega
        · exact lengths_cons_le (ih hr (.cons (hshort hne) hothers) htail)
      · have hone : run = [] := by
          by_contra hne
          have hsome := isSome_runsAt? (List.Forall₂.cons (hshort hne) hothers) rest
          rw [← htail, Option.map_eq_none_iff.mp hnone] at hsome
          cases hsome
        subst hone
        exact cons_le_cons_iff.mpr (Or.inr ⟨rfl, ih hr hothers htail⟩)

theorem isGreatest_runsAt? (h : runsAt? ps cs = some reading) :
    IsGreatest (ps.map required) cs reading.runs reading.rest where
  holds := forall₂_holds_required.mpr (runsAt?_sound h).1
  eq := (runsAt?_sound h).2
  lengths_le hruns hcs := lengths_le_of_runsAt? h (forall₂_holds_required.mp hruns) hcs

theorem isGreatest_nil (cs : List Char) : IsGreatest [] cs [] cs where
  holds := .nil
  eq := rfl
  lengths_le hruns _ := by
    cases hruns
    exact le_rfl

theorem isGreatest_optional (p : CharClass) (cs : List Char) :
    IsGreatest [optional p] cs [cs.takeWhile p] (cs.dropWhile p) where
  holds := by
    refine .cons ?_ .nil
    by_cases hne : cs.takeWhile p = []
    · exact Or.inr ⟨rfl, hne⟩
    · exact Or.inl ⟨hne, fun c hc => List.mem_takeWhile_imp hc⟩
  eq := by simp
  lengths_le {runs' rest'} hruns hcs := by
    obtain ⟨run, _, hrun, hnil, rfl⟩ := List.forall₂_cons_left_iff.mp hruns
    cases hnil
    have hall : ∀ c ∈ run, p c = true := by
      rcases hrun with hrun | ⟨-, rfl⟩
      · exact hrun.2
      · simp
    have hcs : cs = run ++ rest' := by simpa using hcs
    rw [hcs, List.takeWhile_append_of_pos hall]
    refine cons_le_cons_iff.mpr ?_
    rw [List.length_append]
    rcases Nat.eq_or_lt_of_le (Nat.le_add_right run.length (rest'.takeWhile p).length) with he | hlt
    · exact Or.inr ⟨he, le_rfl⟩
    · exact Or.inl hlt

theorem IsGreatest.append (h : IsGreatest parts cs runs rest)
    (h' : IsGreatest qs rest runs' rest') :
    IsGreatest (parts ++ qs) cs (runs ++ runs') rest' where
  holds := List.rel_append h.holds h'.holds
  eq := by rw [h.eq, h'.eq, List.flatten_append, List.append_assoc]
  lengths_le {all last} hall hcs := by
    obtain ⟨front, back, rfl, hfront, hback⟩ := forall₂_append_left hall
    rw [List.flatten_append, List.append_assoc] at hcs
    rw [List.map_append, List.map_append]
    have hlength : front.length = runs.length :=
      hfront.length_eq.symm.trans h.holds.length_eq
    apply append_le_append
    · rw [List.length_map, List.length_map, hlength]
    · exact h.lengths_le hfront hcs
    · intro hl
      obtain ⟨-, hr⟩ := flatten_append_inj hl (hcs.symm.trans h.eq)
      exact h'.lengths_le hback hr.symm

/-! ### The first division of a row -/

/-- The parts of a row, with what stands in front of them and what is left behind them. -/
structure Division where
  before : List Char
  runs : List (List Char)
  behind : List Char

namespace Division

variable {d d' : Division}

def lengths (d : Division) : List Nat := d.runs.map List.length

structure Divides (parts : List Part) (row : List Char) (d : Division) : Prop where
  eq : row = d.before ++ (d.runs.flatten ++ d.behind)
  holds : List.Forall₂ Part.Holds parts d.runs

/-- It starts first, and of the divisions that start there it has the greatest lengths. -/
structure IsFirst (parts : List Part) (row : List Char) (d : Division) : Prop where
  divides : d.Divides parts row
  before_le : ∀ d' : Division, d'.Divides parts row → d.before.length ≤ d'.before.length
  lengths_le : ∀ d' : Division, d'.Divides parts row → d'.before.length = d.before.length →
    d'.lengths ≤ d.lengths

theorem IsFirst.unique (h : d.IsFirst parts row) (h' : d'.IsFirst parts row) : d = d' := by
  have hb : d.before.length = d'.before.length :=
    Nat.le_antisymm (h.before_le d' h'.divides) (h'.before_le d h.divides)
  have hl : d.lengths = d'.lengths :=
    le_antisymm (h'.lengths_le d h.divides hb) (h.lengths_le d' h'.divides hb.symm)
  obtain ⟨hbefore, hrow⟩ := List.append_inj (h.divides.eq.symm.trans h'.divides.eq) hb
  obtain ⟨hruns, hbehind⟩ := flatten_append_inj hl hrow
  cases d
  cases d'
  simp_all

theorem Divides.take (h : d.Divides (ps.map required ++ qs) row) :
    ∃ runs behind, List.Forall₂ IsRun ps runs ∧ row = d.before ++ (runs.flatten ++ behind) := by
  obtain ⟨runs, others, he, hruns, -⟩ := forall₂_append_left h.holds
  refine ⟨runs, others.flatten ++ d.behind, forall₂_holds_required.mp hruns, ?_⟩
  rw [h.eq, he, List.flatten_append, List.append_assoc]

end Division

theorem runsAt?_eq_none_of_leftmost? (h : leftmost? ps row = none) {before behind : List Char}
    (hrow : row = before ++ behind) : runsAt? ps behind = none := by
  induction row generalizing before with
  | nil =>
    obtain ⟨-, rfl⟩ := List.append_eq_nil_iff.mp hrow.symm
    exact h
  | cons c row ih =>
    rw [leftmost?, Option.or_eq_none_iff] at h
    cases before with
    | nil =>
      obtain rfl : c :: row = behind := hrow
      exact h.1
    | cons d before => exact ih h.2 (List.cons.inj hrow).2

theorem isSome_find?_iff :
    (find? ps row).isSome = true ↔ ∃ d : Division, d.Divides (ps.map required) row := by
  constructor
  · intro h
    obtain ⟨reading, h⟩ := Option.isSome_iff_exists.mp h
    obtain ⟨before, hruns, hrow⟩ := find?_sound h
    exact ⟨⟨before, reading.runs, reading.rest⟩, hrow, forall₂_holds_required.mpr hruns⟩
  · rintro ⟨d, h⟩
    rw [Option.isSome_iff_ne_none]
    intro hnone
    have hsome := isSome_runsAt? (forall₂_holds_required.mp h.holds) d.behind
    rw [runsAt?_eq_none_of_leftmost? (find?_eq_leftmost? ps row ▸ hnone) h.eq] at hsome
    cases hsome

theorem isFirst_of_find? (h : find? ps row = some reading)
    (hrest : IsGreatest qs reading.rest runs rest) :
    ∃ before, Division.IsFirst (ps.map required ++ qs) row
      ⟨before, reading.runs ++ runs, rest⟩ := by
  obtain ⟨before, behind, rfl, hread, hearly⟩ := exists_of_find? h
  have hgreatest := (isGreatest_runsAt? hread).append hrest
  refine ⟨before, ⟨by rw [hgreatest.eq], hgreatest.holds⟩, ?_, ?_⟩
  · intro d hd
    by_contra hlt
    rw [Nat.not_le] at hlt
    obtain ⟨runs', behind', hruns, hrow⟩ := hd.take
    obtain ⟨passed, hp⟩ : d.before <+: before :=
      List.prefix_of_prefix_length_le ⟨_, hrow.symm⟩ (List.prefix_append _ _) hlt.le
    have hne : passed ≠ [] := by
      rintro rfl
      simp [← hp] at hlt
    have hnone := hearly passed ⟨d.before, hp⟩ hne
    rw [← hp, List.append_assoc] at hrow
    have hsome := isSome_runsAt? hruns behind'
    rw [← List.append_cancel_left hrow, hnone] at hsome
    cases hsome
  · intro d hd hb
    obtain ⟨-, hrow⟩ := List.append_inj hd.eq hb.symm
    exact hgreatest.lengths_le hd.holds hrow

theorem isFirst_iff (ps : List CharClass) {greatest : List Char → List (List Char)}
    {left : List Char → List Char} (hrest : ∀ cs, IsGreatest qs cs (greatest cs) (left cs)) :
    (∃ before behind, Division.IsFirst (ps.map required ++ qs) row ⟨before, runs, behind⟩) ↔
      ∃ reading, find? ps row = some reading ∧ runs = reading.runs ++ greatest reading.rest := by
  constructor
  · rintro ⟨before, behind, h⟩
    obtain ⟨runs', behind', hruns, hrow⟩ := h.divides.take
    obtain ⟨reading, hf⟩ := Option.isSome_iff_exists.mp (isSome_find?_iff.mpr
      ⟨⟨before, runs', behind'⟩, hrow, forall₂_holds_required.mpr hruns⟩)
    obtain ⟨before', h'⟩ := isFirst_of_find? hf (hrest reading.rest)
    exact ⟨reading, hf, congrArg Division.runs (h.unique h')⟩
  · rintro ⟨reading, hf, rfl⟩
    obtain ⟨before, h⟩ := isFirst_of_find? hf (hrest reading.rest)
    exact ⟨before, left reading.rest, h⟩

end Row

namespace Segment

open Row

/-- The name, the start, the size and the offset, with blanks in front of each. -/
def parts : List Part :=
  [required blank, required nonSpace, required blank, required hex, required blank, required hex,
    required blank, required hex]

theorem ofRow?_of_find? {row : String} {b₀ name b₁ start b₂ size b₃ offset rest : List Char}
    (h : find? pattern row.toList = some ⟨[b₀, name, b₁, start, b₂, size, b₃, offset], rest⟩) :
    ofRow? row = some ⟨Text.trim (String.ofList name), ⟨String.ofList start⟩, ⟨String.ofList size⟩,
      ⟨String.ofList offset⟩⟩ := by
  rw [ofRow?, h]

theorem isSome_ofRow? (row : String) :
    (ofRow? row).isSome = (find? pattern row.toList).isSome := by
  cases h : find? pattern row.toList with
  | none => rw [ofRow?, h]; rfl
  | some reading =>
    obtain ⟨_, _, _, _, _, _, _, _, _, rfl⟩ := exists_runs h
    rw [ofRow?_of_find? h]
    rfl

/-- A row describes a segment exactly when it can be divided into eight parts, and the fields of the
segment are parts of the first division. -/
theorem segment_iff_isFirst (row : String) :
    ((ofRow? row).isSome = true ↔ ∃ d : Division, d.Divides parts row.toList) ∧
    ∀ segment, ofRow? row = some segment ↔
      ∃ b₀ name b₁ start b₂ size b₃ offset,
        (∃ before behind, Division.IsFirst parts row.toList
          ⟨before, [b₀, name, b₁, start, b₂, size, b₃, offset], behind⟩) ∧
        segment = {
          name := Text.trim (String.ofList name)
          start := ⟨String.ofList start⟩
          size := ⟨String.ofList size⟩
          offset := ⟨String.ofList offset⟩ } := by
  refine ⟨?_, fun segment => ?_⟩
  · rw [isSome_ofRow?]
    exact isSome_find?_iff
  constructor
  · intro h
    obtain ⟨reading, hf⟩ := Option.isSome_iff_exists.mp
      (isSome_ofRow? row ▸ Option.isSome_iff_exists.mpr ⟨segment, h⟩)
    obtain ⟨b₀, name, b₁, start, b₂, size, b₃, offset, rest, rfl⟩ := exists_runs hf
    have hfirst := (isFirst_iff pattern isGreatest_nil).mpr ⟨_, hf, rfl⟩
    rw [ofRow?_of_find? hf, Option.some.injEq] at h
    exact ⟨b₀, name, b₁, start, b₂, size, b₃, offset, hfirst, h.symm⟩
  · rintro ⟨b₀, name, b₁, start, b₂, size, b₃, offset, hfirst, rfl⟩
    obtain ⟨⟨_, rest⟩, hf, hruns⟩ := (isFirst_iff pattern isGreatest_nil).mp hfirst
    rw [List.append_nil] at hruns
    subst hruns
    exact ofRow?_of_find? hf

end Segment

namespace Symbol

open Row

/-- The start, the size, the address, the kind and the name, with blanks in front of each. Behind
them there may be blanks, and behind these a module on the same line. -/
def parts : List Part :=
  [required blank, required hex, required blank, required hex, required blank, required hex,
    required blank, required digit, required blank, required nonSpace, optional blank,
    optional (· != '\n')]

theorem ofRow?_of_find? {row : String}
    {b₀ start b₁ size b₂ address b₃ kind b₄ name rest : List Char}
    (h : find? pattern row.toList =
      some ⟨[b₀, start, b₁, size, b₂, address, b₃, kind, b₄, name], rest⟩) :
    ofRow? row = some ⟨⟨String.ofList start⟩, ⟨String.ofList size⟩, ⟨String.ofList address⟩,
      String.ofList kind, Text.trim (String.ofList name), moduleOf? rest⟩ := by
  rw [ofRow?, h]

theorem isSome_ofRow? (row : String) :
    (ofRow? row).isSome = (find? pattern row.toList).isSome := by
  cases h : find? pattern row.toList with
  | none => rw [ofRow?, h]; rfl
  | some reading =>
    obtain ⟨_, _, _, _, _, _, _, _, _, _, _, rfl⟩ := exists_runs h
    rw [ofRow?_of_find? h]
    rfl

theorem moduleOf?_eq (rest : List Char) : moduleOf? rest =
    let origin := (rest.dropWhile blank).takeWhile (· != '\n')
    some (Text.trim (String.ofList origin)) |>.filter (· ≠ "") := by
  simp only [moduleOf?, Text.trim, String.toList_ofList, Option.filter_some]
  split <;> simp_all

/-- A row describes a symbol exactly when it can be divided into the first ten parts, and the fields
of the symbol are parts of the first division into all twelve. -/
theorem symbol_iff_isFirst (row : String) :
    ((ofRow? row).isSome = true ↔ ∃ d : Division, d.Divides (parts.take 10) row.toList) ∧
    ∀ symbol, ofRow? row = some symbol ↔
      ∃ b₀ start b₁ size b₂ address b₃ kind b₄ name b₅ origin,
        (∃ before behind, Division.IsFirst parts row.toList
          ⟨before, [b₀, start, b₁, size, b₂, address, b₃, kind, b₄, name, b₅, origin],
            behind⟩) ∧
        symbol = {
          start := ⟨String.ofList start⟩
          size := ⟨String.ofList size⟩
          address := ⟨String.ofList address⟩
          kind := String.ofList kind
          name := Text.trim (String.ofList name)
          module? := some (Text.trim (String.ofList origin)) |>.filter (· ≠ "") } := by
  have hrest : ∀ cs, IsGreatest [optional blank, optional (· != '\n')] cs
      [cs.takeWhile blank, (cs.dropWhile blank).takeWhile (· != '\n')]
      ((cs.dropWhile blank).dropWhile (· != '\n')) :=
    fun cs => (isGreatest_optional blank cs).append (isGreatest_optional _ _)
  refine ⟨?_, fun symbol => ?_⟩
  · rw [isSome_ofRow?]
    exact isSome_find?_iff
  constructor
  · intro h
    obtain ⟨reading, hf⟩ := Option.isSome_iff_exists.mp
      (isSome_ofRow? row ▸ Option.isSome_iff_exists.mpr ⟨symbol, h⟩)
    obtain ⟨b₀, start, b₁, size, b₂, address, b₃, kind, b₄, name, rest, rfl⟩ := exists_runs hf
    have hfirst := (isFirst_iff pattern hrest).mpr ⟨_, hf, rfl⟩
    rw [ofRow?_of_find? hf, Option.some.injEq, moduleOf?_eq] at h
    exact ⟨b₀, start, b₁, size, b₂, address, b₃, kind, b₄, name, _, _, hfirst, h.symm⟩
  · rintro ⟨b₀, start, b₁, size, b₂, address, b₃, kind, b₄, name, b₅, origin, hfirst, rfl⟩
    obtain ⟨reading, hf, hruns⟩ := (isFirst_iff pattern hrest).mp hfirst
    obtain ⟨_, _, _, _, _, _, _, _, _, _, rest, rfl⟩ := exists_runs hf
    simp only [List.cons_append, List.nil_append, List.cons.injEq, and_true] at hruns
    obtain ⟨rfl, rfl, rfl, rfl, rfl, rfl, rfl, rfl, rfl, rfl, rfl, rfl⟩ := hruns
    rw [ofRow?_of_find? hf, moduleOf?_eq]

end Symbol

end LinkerMap
