import LinkerMap.Hex
import Mathlib.Data.List.Induction
import Mathlib.Data.Nat.Digits.Defs

/-! # Numbers and their digits

Digits denote a number by their places. The value of a field is that number as long as it fits in 64
bits, and the digits that are written for a number denote it, with any number of zeros in front.
-/

namespace LinkerMap

namespace Hex

variable {digits : List Char} {values : List Nat} {c : Char} {d n m : Nat} {field : Hex}

/-- What digits are worth one by one. -/
def Worth (digits : List Char) (values : List Nat) : Prop :=
  digits.map digit? = values.map some

theorem worth_concat_iff : Worth (digits ++ [c]) values ↔
    ∃ others d, values = others ++ [d] ∧ Worth digits others ∧ digit? c = some d := by
  constructor
  · intro h
    rw [Worth, List.map_append, eq_comm, List.map_eq_append_iff] at h
    obtain ⟨others, last, rfl, hd, hl⟩ := h
    obtain ⟨d, rfl, hc⟩ := List.map_eq_singleton_iff.mp hl
    exact ⟨others, d, rfl, hd.symm, hc.symm⟩
  · rintro ⟨others, d, rfl, hd, hc⟩
    rw [Worth] at hd ⊢
    simp [hd, hc]

/-- Digits of either case, the most significant first, and the number that they denote. -/
def Denotes (digits : List Char) (n : Nat) : Prop :=
  digits ≠ [] ∧ ∃ values, Worth digits values ∧ Nat.ofDigits 16 values.reverse = n

theorem ofDigits?_concat (digits : List Char) (c : Char) : ofDigits? (digits ++ [c]) =
    (ofDigits? digits).bind fun n => (digit? c).map (16 * n + ·) := by
  simp [ofDigits?, List.foldlM_append]

theorem ofDigits?_eq_some_iff : ofDigits? digits = some n ↔
    ∃ values, Worth digits values ∧ Nat.ofDigits 16 values.reverse = n := by
  induction digits using List.reverseRecOn generalizing n with
  | nil => simp [ofDigits?, Worth]
  | append_singleton digits c ih =>
    rw [ofDigits?_concat, Option.bind_eq_some_iff]
    constructor
    · rintro ⟨m, hm, h⟩
      obtain ⟨d, hd, rfl⟩ := Option.map_eq_some_iff.mp h
      obtain ⟨others, ho, rfl⟩ := ih.mp hm
      refine ⟨others ++ [d], worth_concat_iff.mpr ⟨others, d, rfl, ho, hd⟩, ?_⟩
      rw [List.reverse_concat, Nat.ofDigits_cons, Nat.add_comm]
    · rintro ⟨values, hv, rfl⟩
      obtain ⟨others, d, rfl, ho, hd⟩ := worth_concat_iff.mp hv
      refine ⟨_, ih.mpr ⟨others, ho, rfl⟩, ?_⟩
      rw [hd, Option.map_some, List.reverse_concat, Nat.ofDigits_cons, Nat.add_comm]

theorem denotes_iff : Denotes digits n ↔ digits ≠ [] ∧ ofDigits? digits = some n := by
  rw [ofDigits?_eq_some_iff, Denotes]

theorem Denotes.unique (h : Denotes digits n) (h' : Denotes digits m) : n = m :=
  Option.some.inj ((denotes_iff.mp h).2.symm.trans (denotes_iff.mp h').2)

theorem exists_denotes (hne : digits ≠ []) (h : ∀ c ∈ digits, (digit? c).isSome = true) :
    ∃ n, Denotes digits n := by
  refine ⟨_, hne, digits.map fun c => (digit? c).getD 0, ?_, rfl⟩
  rw [Worth, List.map_map]
  refine List.map_congr_left fun c hc => ?_
  obtain ⟨d, hd⟩ := Option.isSome_iff_exists.mp (h c hc)
  rw [Function.comp_apply, hd, Option.getD_some]

theorem Denotes.concat (h : Denotes digits n) (hc : digit? c = some d) :
    Denotes (digits ++ [c]) (16 * n + d) := by
  obtain ⟨-, values, hv, rfl⟩ := h
  refine ⟨by simp, values ++ [d], worth_concat_iff.mpr ⟨values, d, rfl, hv, hc⟩, ?_⟩
  rw [List.reverse_concat, Nat.ofDigits_cons, Nat.add_comm]

theorem denotes_singleton (hc : digit? c = some d) : Denotes [c] d :=
  ⟨by simp, [d], by simp [Worth, hc], by simp⟩

/-- Zeros in front do not count. -/
theorem Denotes.leftpad (h : Denotes digits n) (width : Nat) :
    Denotes (digits.leftpad width '0') n := by
  obtain ⟨hne, values, hv, rfl⟩ := h
  have hz : digit? '0' = some 0 := by decide
  refine ⟨by simp [List.leftpad, hne],
    List.replicate (width - digits.length) 0 ++ values, ?_, ?_⟩
  · rw [Worth] at hv ⊢
    simp [List.leftpad, hv, hz]
  · rw [List.reverse_append, List.reverse_replicate, Nat.ofDigits_append,
      Nat.ofDigits_replicate_zero, Nat.mul_zero, Nat.add_zero]

theorem digit?_toUpper_digitChar (h : d < 16) : digit? d.digitChar.toUpper = some d := by
  have hall : ∀ d < 16, digit? (Nat.digitChar d).toUpper = some d := by decide
  exact hall d h

theorem upperDigits_of_lt (h : n < 16) : upperDigits n = [n.digitChar.toUpper] := by
  rw [upperDigits, Nat.toDigits_of_lt_base h, List.map_singleton]

theorem upperDigits_of_ge (h : 16 ≤ n) :
    upperDigits n = upperDigits (n / 16) ++ [(n % 16).digitChar.toUpper] := by
  rw [upperDigits, Nat.toDigits_of_base_le (by decide) h, List.map_append, List.map_singleton,
    upperDigits]

theorem denotes_upperDigits (n : Nat) : Denotes (upperDigits n) n := by
  induction n using Nat.strong_induction_on with
  | _ n ih =>
    rcases Nat.lt_or_ge n 16 with hlt | hge
    · rw [upperDigits_of_lt hlt]
      exact denotes_singleton (digit?_toUpper_digitChar hlt)
    · have hd := (ih (n / 16) (by omega)).concat
        (digit?_toUpper_digitChar (Nat.mod_lt n (by decide)))
      rwa [Nat.div_add_mod, ← upperDigits_of_ge hge] at hd

theorem dropPlus_of_denotes (h : Denotes digits n) : dropPlus digits = digits := by
  obtain ⟨-, values, hv, -⟩ := h
  unfold dropPlus
  split
  · have hp : digit? '+' = none := by decide
    cases values <;> simp [Worth, hp] at hv
  · rfl

theorem value?_of_denotes (h : Denotes field.text.toList n) :
    field.value? = if n < UInt64.size then some n else none := by
  obtain ⟨hne, hn⟩ := denotes_iff.mp h
  have he : field.text.toList.isEmpty = false := by simpa using hne
  simp only [value?, dropPlus_of_denotes h, he, Bool.false_eq_true, if_false, hn]
  rw [Option.filter_some]
  simp only [decide_eq_true_eq]

end Hex

end LinkerMap
