import LinkerMap.Listing
import LinkerMap.Proofs.Hex.Digits
import Mathlib.Data.List.Forall2

/-! # Values of fields

The value of a field is exactly the number that its digits denote, however many digits there are,
and it is missing exactly when there is no such number of 64 bits. The columns of a listing keep it:
all its digits are written, those above 32 bits too.
-/

namespace LinkerMap

namespace Hex

variable {digits : List Char} {values : List Nat} {c : Char} {d n : Nat} {v w : UInt64} {s : String}

def IsDigit (c : Char) (d : Nat) : Prop :=
  d < 16 ∧ (c = d.digitChar ∨ c = d.digitChar.toUpper)

theorem digit?_digitChar (h : d < 16) : digit? d.digitChar = some d := by
  have hall : ∀ d < 16, digit? (Nat.digitChar d) = some d := by decide
  exact hall d h

theorem toNat_digitChar_of_ge (h : 10 ≤ d) (hd : d < 16) :
    d.digitChar.toNat = 87 + d ∧ d.digitChar.toUpper.toNat = 55 + d := by
  have hall : ∀ d < 16, 10 ≤ d →
      (Nat.digitChar d).toNat = 87 + d ∧ (Nat.digitChar d).toUpper.toNat = 55 + d := by decide
  exact hall d hd h

theorem digit?_eq_some_iff : digit? c = some d ↔ IsDigit c d := by
  constructor
  · intro h
    simp only [digit?, Char.le_def, UInt32.le_iff_toNat_le] at h
    split at h
    · rename_i hc
      change 48 ≤ c.toNat ∧ c.toNat ≤ 57 at hc
      have hd : c.toNat - 48 = d := Option.some.inj h
      refine ⟨by omega, .inl (Char.toNat_inj.mp ?_)⟩
      rw [Nat.toNat_digitChar_of_lt_ten (by omega)]
      omega
    · split at h
      · rename_i hc
        change 97 ≤ c.toNat ∧ c.toNat ≤ 102 at hc
        have hd : c.toNat - 97 + 10 = d := Option.some.inj h
        refine ⟨by omega, .inl (Char.toNat_inj.mp ?_)⟩
        rw [(toNat_digitChar_of_ge (by omega) (by omega)).1]
        omega
      · obtain ⟨hc, hd⟩ := Option.ite_none_right_eq_some.mp h
        change 65 ≤ c.toNat ∧ c.toNat ≤ 70 at hc
        have hd : c.toNat - 65 + 10 = d := Option.some.inj hd
        refine ⟨by omega, .inr (Char.toNat_inj.mp ?_)⟩
        rw [(toNat_digitChar_of_ge (by omega) (by omega)).2]
        omega
  · rintro ⟨hd, rfl | rfl⟩
    · exact digit?_digitChar hd
    · exact digit?_toUpper_digitChar hd

theorem worth_iff : Worth digits values ↔ List.Forall₂ IsDigit digits values := by
  have hd : (fun c d => digit? c = some d) = IsDigit := by
    ext c d
    exact digit?_eq_some_iff
  rw [Worth, ← List.forall₂_eq_eq_eq, List.forall₂_map_left_iff, List.forall₂_map_right_iff, hd]

/-- A text that is read as a number: one plus sign at most, and behind it digits of either case, the
most significant first. -/
def Spells (s : String) (n : Nat) : Prop :=
  ∃ sign digits values, s.toList = sign ++ digits ∧ (sign = [] ∨ sign = ['+']) ∧ digits ≠ [] ∧
    List.Forall₂ IsDigit digits values ∧ Nat.ofDigits 16 values.reverse = n

theorem exists_sign (cs : List Char) :
    ∃ sign, cs = sign ++ dropPlus cs ∧ (sign = [] ∨ sign = ['+']) := by
  unfold dropPlus
  split
  · exact ⟨['+'], rfl, .inr rfl⟩
  · exact ⟨[], rfl, .inl rfl⟩

theorem spells_iff : Spells s n ↔ Denotes (dropPlus s.toList) n := by
  constructor
  · rintro ⟨sign, digits, values, hs, hsign, hne, hd, hn⟩
    have h : Denotes digits n := ⟨hne, values, worth_iff.mpr hd, hn⟩
    rcases hsign with rfl | rfl
    · rw [hs, List.nil_append, dropPlus_of_denotes h]
      exact h
    · rw [hs]
      exact h
  · rintro ⟨hne, values, hd, hn⟩
    obtain ⟨sign, hs, hsign⟩ := exists_sign s.toList
    exact ⟨sign, dropPlus s.toList, values, hs, hsign, hne, worth_iff.mp hd, hn⟩

theorem value?_eq_some_iff : (⟨s⟩ : Hex).value? = some n ↔ Spells s n ∧ n < 2 ^ 64 := by
  rw [spells_iff, denotes_iff, value?]
  by_cases hne : dropPlus s.toList = []
  · simp [hne]
  · simp [hne, Option.filter_eq_some_iff, UInt64.size]

theorem value?_eq_none_iff : (⟨s⟩ : Hex).value? = none ↔ ∀ n, Spells s n → 2 ^ 64 ≤ n := by
  rw [Option.eq_none_iff_forall_ne_some]
  refine forall_congr' fun n => ?_
  rw [ne_eq, value?_eq_some_iff, not_and, not_lt]

theorem value?_eq_of_lt {field : Hex} (h : Denotes field.text.toList n) (hn : n < 2 ^ 64) :
    field.value? = some n := by
  rw [value?_of_denotes h]
  exact if_pos hn

/-- One more digit behind a sum in 64 bits, unless that overflows. -/
def addDigit? (sum : UInt64) (c : Char) : Option UInt64 :=
  (digit? c).bind fun d =>
    if 16 * sum.toNat + d < UInt64.size then some (16 * sum + .ofNat d) else none

theorem addDigit?_eq_some_iff :
    addDigit? v c = some w ↔ ∃ d, digit? c = some d ∧ 16 * v.toNat + d = w.toNat := by
  rw [addDigit?, Option.bind_eq_some_iff]
  refine exists_congr fun d => and_congr_right fun _ => ?_
  have hsum (hlt : 16 * v.toNat + d < UInt64.size) :
      (16 * v + .ofNat d).toNat = 16 * v.toNat + d := by
    change _ < 2 ^ 64 at hlt
    rw [UInt64.toNat_add, UInt64.toNat_mul, UInt64.toNat_ofNat']
    change (16 * v.toNat % 2 ^ 64 + d % 2 ^ 64) % 2 ^ 64 = _
    omega
  constructor
  · intro h
    obtain ⟨hlt, hw⟩ := Option.ite_none_right_eq_some.mp h
    rw [← Option.some.inj hw, hsum hlt]
  · intro h
    have hlt : 16 * v.toNat + d < UInt64.size := h ▸ w.toNat_lt_size
    rw [if_pos hlt, Option.some.injEq, ← UInt64.toNat_inj, hsum hlt, h]

/-- The sum in 64 bits comes to an end exactly when the number that the digits denote fits: it does
not overflow before that, and zeros in front never matter. -/
theorem foldlM_addDigit?_eq_some_iff :
    digits.foldlM addDigit? 0 = some w ↔ ofDigits? digits = some w.toNat := by
  induction digits using List.reverseRecOn generalizing w with
  | nil => simp [ofDigits?, ← UInt64.toNat_inj]
  | append_singleton digits c ih =>
    have hlast : (digits ++ [c]).foldlM addDigit? 0 =
        (digits.foldlM addDigit? 0).bind (addDigit? · c) := by
      simp [List.foldlM_append]
    rw [hlast, ofDigits?_concat, Option.bind_eq_some_iff, Option.bind_eq_some_iff]
    simp only [addDigit?_eq_some_iff, Option.map_eq_some_iff]
    constructor
    · rintro ⟨v, hv, hd⟩
      exact ⟨v.toNat, ih.mp hv, hd⟩
    · rintro ⟨m, hm, d, hd, hw⟩
      have hlt : m < UInt64.size := by
        have := w.toNat_lt_size
        omega
      have hv := UInt64.toNat_ofNat_of_lt' hlt
      exact ⟨.ofNat m, ih.mpr (hv.symm ▸ hm), d, hd, by rw [hv, hw]⟩

theorem mem_upperDigits (h : c ∈ upperDigits n) : c ∈ "0123456789ABCDEF".toList := by
  have hall : ∀ d < 16, (Nat.digitChar d).toUpper ∈ "0123456789ABCDEF".toList := by decide
  induction n using Nat.strong_induction_on with
  | _ n ih =>
    rcases Nat.lt_or_ge n 16 with hlt | hge
    · rw [upperDigits_of_lt hlt, List.mem_singleton] at h
      exact h ▸ hall n hlt
    · rw [upperDigits_of_ge hge, List.mem_append, List.mem_singleton] at h
      rcases h with h | rfl
      · exact ih (n / 16) (by omega) h
      · exact hall (n % 16) (Nat.mod_lt n (by decide))

theorem head?_upperDigits_ne_zero (h : n ≠ 0) : (upperDigits n).head? ≠ some '0' := by
  have hall : ∀ d < 16, d ≠ 0 → some (Nat.digitChar d).toUpper ≠ some '0' := by decide
  induction n using Nat.strong_induction_on with
  | _ n ih =>
    rcases Nat.lt_or_ge n 16 with hlt | hge
    · rw [upperDigits_of_lt hlt]
      exact hall n hlt h
    · rw [upperDigits_of_ge hge, List.head?_append_of_ne_nil _ (denotes_upperDigits _).1]
      exact ih (n / 16) (by omega) (by omega)

/-- The digits of a number in a listing: upper-case ones, without a zero in front of others, that
are read as the number. They take more than eight places exactly for more than 32 bits. -/
structure IsNumeral (digits : String) (n : Nat) : Prop where
  isUpper : ∀ c ∈ digits.toList, c ∈ "0123456789ABCDEF".toList
  eq_zero : digits.toList.head? = some '0' → digits = "0"
  value?_eq : (⟨digits⟩ : Hex).value? = some n
  length_le_iff : digits.length ≤ 8 ↔ n < 2 ^ 32

theorem isNumeral_upperDigits (h : n < 2 ^ 64) : IsNumeral (String.ofList (upperDigits n)) n where
  isUpper c hc := by
    rw [String.toList_ofList] at hc
    exact mem_upperDigits hc
  eq_zero hz := by
    rw [String.toList_ofList] at hz
    by_cases hn : n = 0
    · rw [hn]
      rfl
    · exact absurd hz (head?_upperDigits_ne_zero hn)
  value?_eq := by
    refine value?_eq_of_lt ?_ h
    rw [String.toList_ofList]
    exact denotes_upperDigits n
  length_le_iff := by
    have hw : 2 ^ 32 = 16 ^ 8 := rfl
    rw [String.length_ofList, upperDigits, List.length_map, hw]
    exact Nat.length_toDigits_le_iff (by decide) (by decide)

/-- The value of a field is the number that its digits denote, if that fits in 64 bits: it is what
the digits come to when they are summed up in 64 bits, where nothing overflows before the number
does. A field is kept as it is written, and its columns show all digits of its value. -/
theorem values_exact (s : String) :
    (∀ n, (⟨s⟩ : Hex).value? = some n ↔ Spells s n ∧ n < 2 ^ 64) ∧
    ((⟨s⟩ : Hex).value? = none ↔ ∀ n, Spells s n → 2 ^ 64 ≤ n) ∧
    (∀ w : UInt64, (⟨s⟩ : Hex).value? = some w.toNat ↔
      dropPlus s.toList ≠ [] ∧ (dropPlus s.toList).foldlM addDigit? 0 = some w) ∧
    (⟨s⟩ : Hex).text = s ∧ (⟨s⟩ : Hex).literal.toList = ['0', 'x'] ++ s.toList ∧
    ∀ n, (⟨s⟩ : Hex).value? = some n → ∃ digits, IsNumeral digits n ∧
      Listing.address ⟨s⟩ = String.ofList (digits.toList.leftpad 8 '0') ∧
      Listing.size ⟨s⟩ = String.ofList (digits.toList.leftpad 8 ' ') ∧
      (⟨Listing.address ⟨s⟩⟩ : Hex).value? = some n := by
  refine ⟨fun n => value?_eq_some_iff, value?_eq_none_iff, fun w => ?_, rfl, ?_, fun n h => ?_⟩
  · rw [value?_eq_some_iff, spells_iff, denotes_iff, foldlM_addDigit?_eq_some_iff]
    exact and_iff_left w.toNat_lt_size
  · rw [literal, String.toList_append]
    rfl
  · have hn : n < 2 ^ 64 := (value?_eq_some_iff.mp h).2
    have haddress : Listing.address ⟨s⟩ = String.ofList ((upperDigits n).leftpad 8 '0') := by
      rw [Listing.address, h]
    refine ⟨String.ofList (upperDigits n), isNumeral_upperDigits hn, ?_, ?_, ?_⟩
    · rw [haddress, String.toList_ofList]
    · rw [Listing.size, h, String.toList_ofList]
    · refine value?_eq_of_lt ?_ hn
      rw [haddress, String.toList_ofList]
      exact (denotes_upperDigits n).leftpad 8

/-- A value of 37 bits behind a sign and zeros. -/
theorem values_exact_wide : ∃ digits, IsNumeral digits 0x1fffffffff ∧
    Listing.address ⟨"+0000000000001fFfffFFff"⟩ = String.ofList (digits.toList.leftpad 8 '0') ∧
    Listing.size ⟨"+0000000000001fFfffFFff"⟩ = String.ofList (digits.toList.leftpad 8 ' ') ∧
    (⟨Listing.address ⟨"+0000000000001fFfffFFff"⟩⟩ : Hex).value? = some 0x1fffffffff :=
  (values_exact "+0000000000001fFfffFFff").2.2.2.2.2 0x1fffffffff (by decide)

end Hex

end LinkerMap
