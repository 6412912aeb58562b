import LinkerMap.Proofs.Text.Encoding

/-! # What the decoder reads

The decoder goes through octets one by one. What it reads is the text that the octets stand for,
whatever octets it is given.
-/

namespace LinkerMap.Text

open String (utf8EncodeChar)

variable {b : UInt8} {bs ds piece : List UInt8} {c : Char} {cs es : List Char}
  {value more : Nat} {low high : UInt8}

/-! ### What is owed -/

namespace Pending

/-- The number of a character of which `value` is known and these octets follow. -/
def assemble (value : Nat) (octets : List UInt8) : Nat :=
  octets.foldl (fun n b => n * 64 + (b.toNat - 0x80)) value

/-- The octets that have been read of a character. An octet from `low` to `high` and so many more
octets complete it, and no other octet goes on with a character. -/
structure Owes (piece : List UInt8) (value more : Nat) (low high : UInt8) : Prop where
  ne_nil : piece ≠ []
  low_le_high : low ≤ high
  completes : ∀ b tail, low ≤ b → b ≤ high → tail.length = more →
    (∀ t ∈ tail, 0x80 ≤ t ∧ t ≤ 0xBF) →
    utf8EncodeChar (Char.ofNat (assemble value (b :: tail))) = piece ++ b :: tail
  within : ∀ b, Begins (piece ++ [b]) → low ≤ b ∧ b ≤ high

theorem owes_two (h : 0xC2 ≤ b.toNat) (h' : b.toNat < 0xE0) :
    Owes [b] (b.toNat - 0xC0) 0 0x80 0xBF := by
  refine ⟨by simp, by decide, fun d tail hl hh ht _ => ?_, fun d hd => ?_⟩
  · obtain rfl := List.eq_nil_of_length_eq_zero ht
    rw [UInt8.le_iff_toNat_le] at hl hh
    change 0x80 ≤ d.toNat at hl
    change d.toNat ≤ 0xBF at hh
    have hn : assemble (b.toNat - 0xC0) [d] = (b.toNat - 0xC0) * 64 + (d.toNat - 0x80) := rfl
    rw [utf8EncodeChar_eq_iff, hn, toNat_ofNat_of_isValidChar (.inl (by omega)), numbers,
      if_neg (by omega), if_pos (by omega)]
    simp only [List.cons_append, List.nil_append, List.map_cons, List.map_nil, List.cons.injEq,
      and_true]
    omega
  · exact hd.within_of_ne_nil (by simp)

/-- Of three octets, the second keeps clear of numbers that need only two and of surrogates. -/
theorem owes_three (h : 0xE0 ≤ b.toNat) (h' : b.toNat < 0xF0)
    (hlow : b.toNat = 0xE0 ∧ low.toNat = 0xA0 ∨ b.toNat ≠ 0xE0 ∧ low.toNat = 0x80)
    (hhigh : b.toNat = 0xED ∧ high.toNat = 0x9F ∨ b.toNat ≠ 0xED ∧ high.toNat = 0xBF) :
    Owes [b] (b.toNat - 0xE0) 1 low high := by
  refine ⟨by simp, ?_, fun d tail hl hh ht hr => ?_, fun d hd => ?_⟩
  · rw [UInt8.le_iff_toNat_le]
    omega
  · obtain ⟨t, rfl⟩ := List.length_eq_one_iff.mp ht
    obtain ⟨ht, ht'⟩ := hr t (by simp)
    rw [UInt8.le_iff_toNat_le] at hl hh ht ht'
    change 0x80 ≤ t.toNat at ht
    change t.toNat ≤ 0xBF at ht'
    have hn : assemble (b.toNat - 0xE0) [d, t] =
      ((b.toNat - 0xE0) * 64 + (d.toNat - 0x80)) * 64 + (t.toNat - 0x80) := rfl
    rw [utf8EncodeChar_eq_iff, hn,
      toNat_ofNat_of_isValidChar (by unfold Nat.isValidChar; omega), numbers,
      if_neg (by omega), if_neg (by omega), if_pos (by omega)]
    simp only [List.cons_append, List.nil_append, List.map_cons, List.map_nil, List.cons.injEq,
      and_true]
    omega
  · have hsecond := hd.second
    rw [UInt8.le_iff_toNat_le, UInt8.le_iff_toNat_le]
    omega

theorem owes_four (h : 0xF0 ≤ b.toNat) (h' : b.toNat < 0xF5)
    (hlow : b.toNat = 0xF0 ∧ low.toNat = 0x90 ∨ b.toNat ≠ 0xF0 ∧ low.toNat = 0x80)
    (hhigh : b.toNat = 0xF4 ∧ high.toNat = 0x8F ∨ b.toNat ≠ 0xF4 ∧ high.toNat = 0xBF) :
    Owes [b] (b.toNat - 0xF0) 2 low high := by
  refine ⟨by simp, ?_, fun d tail hl hh ht hr => ?_, fun d hd => ?_⟩
  · rw [UInt8.le_iff_toNat_le]
    omega
  · obtain ⟨t, u, rfl⟩ := List.length_eq_two.mp ht
    obtain ⟨ht, ht'⟩ := hr t (by simp)
    obtain ⟨hu, hu'⟩ := hr u (by simp)
    rw [UInt8.le_iff_toNat_le] at hl hh ht ht' hu hu'
    change 0x80 ≤ t.toNat at ht
    change t.toNat ≤ 0xBF at ht'
    change 0x80 ≤ u.toNat at hu
    change u.toNat ≤ 0xBF at hu'
    have hn : assemble (b.toNat - 0xF0) [d, t, u] = (((b.toNat - 0xF0) * 64 +
      (d.toNat - 0x80)) * 64 + (t.toNat - 0x80)) * 64 + (u.toNat - 0x80) := rfl
    rw [utf8EncodeChar_eq_iff, hn,
      toNat_ofNat_of_isValidChar (by unfold Nat.isValidChar; omega), numbers,
      if_neg (by omega), if_neg (by omega), if_neg (by omega)]
    simp only [List.cons_append, List.nil_append, List.map_cons, List.map_nil, List.cons.injEq,
      and_true]
    omega
  · have hsecond := hd.second
    rw [UInt8.le_iff_toNat_le, UInt8.le_iff_toNat_le]
    omega

theorem Owes.exists_tail (h : Owes piece value more low high) (hl : low ≤ b) (hh : b ≤ high) :
    ∃ c tail, utf8EncodeChar c = piece ++ b :: tail := by
  have hr : ∀ t ∈ List.replicate more (0x80 : UInt8), 0x80 ≤ t ∧ t ≤ 0xBF := by
    intro t ht
    rw [List.eq_of_mem_replicate ht]
    decide
  exact ⟨_, _, h.completes b _ hl hh List.length_replicate hr⟩

theorem Owes.isBroken (h : Owes piece value more low high)
    (hb : ∀ b ∈ bs.head?, ¬ (low ≤ b ∧ b ≤ high)) : IsBroken piece bs := by
  obtain ⟨c, tail, hc⟩ := h.exists_tail (UInt8.le_refl low) h.low_le_high
  refine isBroken_of_not_isPrefix h.ne_nil (fun d hd => ?_) (.inl ⟨c, low :: tail, hc.symm⟩)
    fun b hm hbegins => hb b hm (h.within b hbegins)
  have hp : utf8EncodeChar d <+: utf8EncodeChar c := hc ▸ hd.trans (List.prefix_append _ _)
  obtain rfl := utf8EncodeChar_prefix_inj hp
  have hl := hd.length_le
  rw [hc, List.length_append, List.length_cons] at hl
  omega

theorem Owes.next (h : Owes piece value (more + 1) low high) (hl : low ≤ b) (hh : b ≤ high) :
    Owes (piece ++ [b]) (value * 64 + (b.toNat - 0x80)) more 0x80 0xBF := by
  refine ⟨by simp, by decide, fun d tail hl' hh' ht hr => ?_, fun d hd => ?_⟩
  · have hc := h.completes b (d :: tail) hl hh (by simp [ht])
      (List.forall_mem_cons.mpr ⟨⟨hl', hh'⟩, hr⟩)
    have ha : assemble value (b :: d :: tail) =
      assemble (value * 64 + (b.toNat - 0x80)) (d :: tail) := by
        rw [assemble, List.foldl_cons, assemble]
    rw [← ha, hc, List.append_assoc, List.singleton_append]
  · exact hd.within_of_ne_nil (by simp)

theorem Owes.last (h : Owes piece value 0 low high) (hl : low ≤ b) (hh : b ≤ high) :
    utf8EncodeChar (Char.ofNat (value * 64 + (b.toNat - 0x80))) = piece ++ [b] :=
  h.completes b [] hl hh rfl (by simp)

/-- What the first octet of a character comes to. -/
inductive Began (b : UInt8) : List Char × Pending → Prop
  | whole {c : Char} : utf8EncodeChar c = [b] → Began b ([c], nothing)
  | never : ¬ Begins [b] → Began b ([replacement], nothing)
  | partly {value more : Nat} {low high : UInt8} : Owes [b] value more low high →
      Began b ([], owing value more low high)

theorem begin_eq (b : UInt8) : begin b =
    if b.toNat < 0x80 then ([Char.ofNat b.toNat], nothing)
    else if b.toNat < 0xC2 then ([replacement], nothing)
    else if b.toNat < 0xE0 then ([], owing (b.toNat - 0xC0) 0 0x80 0xBF)
    else if b.toNat = 0xE0 then ([], owing 0 1 0xA0 0xBF)
    else if b.toNat = 0xED then ([], owing 0xD 1 0x80 0x9F)
    else if b.toNat < 0xF0 then ([], owing (b.toNat - 0xE0) 1 0x80 0xBF)
    else if b.toNat = 0xF0 then ([], owing 0 2 0x90 0xBF)
    else if b.toNat < 0xF4 then ([], owing (b.toNat - 0xF0) 2 0x80 0xBF)
    else if b.toNat = 0xF4 then ([], owing 4 2 0x80 0x8F)
    else ([replacement], nothing) := by
  have he : ∀ n : UInt8, b = n ↔ b.toNat = n.toNat := fun n => UInt8.toNat_inj.symm
  unfold begin
  simp only [UInt8.lt_iff_toNat_lt, he]
  rfl

theorem began_begin (b : UInt8) : Began b (begin b) := by
  rw [begin_eq]
  refine iteInduction (fun h₁ => ?_) fun h₁ => iteInduction (fun h₂ => ?_) fun h₂ =>
    iteInduction (fun h₃ => ?_) fun h₃ => iteInduction (fun h₄ => ?_) fun h₄ =>
    iteInduction (fun h₅ => ?_) fun h₅ => iteInduction (fun h₆ => ?_) fun h₆ =>
    iteInduction (fun h₇ => ?_) fun h₇ => iteInduction (fun h₈ => ?_) fun h₈ =>
    iteInduction (fun h₉ => ?_) fun h₉ => ?_
  · exact .whole (utf8EncodeChar_ofNat_of_lt (UInt8.lt_iff_toNat_lt.mpr h₁))
  · exact .never (not_begins_singleton (by omega) (by omega))
  · exact .partly (owes_two (by omega) h₃)
  · have ho : Owes [b] (b.toNat - 0xE0) 1 0xA0 0xBF := owes_three
      (by omega) (by omega) (.inl ⟨h₄, rfl⟩) (.inr ⟨by omega, rfl⟩)
    rw [h₄] at ho
    exact .partly ho
  · have ho : Owes [b] (b.toNat - 0xE0) 1 0x80 0x9F := owes_three
      (by omega) (by omega) (.inr ⟨h₄, rfl⟩) (.inl ⟨h₅, rfl⟩)
    rw [h₅] at ho
    exact .partly ho
  · exact .partly (owes_three (by omega) h₆ (.inr ⟨h₄, rfl⟩) (.inr ⟨h₅, rfl⟩))
  · have ho : Owes [b] (b.toNat - 0xF0) 2 0x90 0xBF := owes_four
      (by omega) (by omega) (.inl ⟨h₇, rfl⟩) (.inr ⟨by omega, rfl⟩)
    rw [h₇] at ho
    exact .partly ho
  · exact .partly (owes_four (by omega) (by omega) (.inr ⟨h₇, rfl⟩) (.inr ⟨by omega, rfl⟩))
  · have ho : Owes [b] (b.toNat - 0xF0) 2 0x80 0x8F := owes_four
      (by omega) (by omega) (.inr ⟨h₇, rfl⟩) (.inl ⟨h₉, rfl⟩)
    rw [h₉] at ho
    exact .partly ho
  · exact .never (not_begins_singleton (by omega) (by omega))

/-! ### What is read -/

def characters : Pending → List UInt8 → List Char
  | p, [] => p.finish
  | p, b :: bs => (p.read b).1 ++ (p.read b).2.characters bs

/-- The octets that have been read of the character that is pending. -/
inductive Stands : List UInt8 → Pending → Prop
  | nothing : Stands [] nothing
  | owing {piece : List UInt8} {value more : Nat} {low high : UInt8} :
      Owes piece value more low high → Stands piece (owing value more low high)

theorem Stands.decodes {p : Pending} (h : Stands piece p) :
    Decodes (piece ++ bs) (p.characters bs) := by
  induction bs generalizing piece p with
  | nil =>
    cases h with
    | nothing => exact .nil
    | owing ho => exact .broken (ho.isBroken (by simp)) .nil
  | cons b bs ih =>
    have hfirst : Decodes (b :: bs) (Pending.nothing.characters (b :: bs)) := by
      have hb := began_begin b
      change Decodes _ ((begin b).1 ++ (begin b).2.characters bs)
      generalize begin b = first at hb ⊢
      cases hb with
      | @whole c hc =>
        have hd := (ih .nothing).character c
        rwa [hc] at hd
      | never hn => exact .broken (isBroken_singleton hn) (ih .nothing)
      | partly ho => exact ih (.owing ho)
    cases h with
    | nothing => exact hfirst
    | @owing _ value more low high ho =>
      by_cases hb : low ≤ b ∧ b ≤ high
      · rw [List.append_cons]
        cases more with
        | zero =>
          rw [characters, read, if_pos hb, ← ho.last hb.1 hb.2]
          exact (ih .nothing).character _
        | succ more =>
          rw [characters, read, if_pos hb]
          exact ih (.owing (ho.next hb.1 hb.2))
      · rw [characters, read, if_neg hb]
        exact .broken (ho.isBroken (by simpa using hb)) hfirst

end Pending

def characters (bs : List UInt8) : List Char :=
  Pending.nothing.characters bs

/-- Octets are read as the text that they stand for. -/
theorem decodes_iff : Decodes bs cs ↔ characters bs = cs := by
  have h : Decodes bs (characters bs) := Pending.Stands.nothing.decodes
  exact ⟨h.unique, fun he => he ▸ h⟩

theorem toList_decodeFrom (done : String) (p : Pending) (bs : List UInt8) :
    (decodeFrom done p bs).toList = done.toList ++ p.characters bs := by
  have hpush : ∀ (cs : List Char) (s : String),
      (cs.foldl String.push s).toList = s.toList ++ cs := by
    intro cs
    induction cs with
    | nil => simp
    | cons c cs ih => simp [ih]
  induction bs generalizing done p with
  | nil => simp [decodeFrom, Pending.characters]
  | cons b bs ih => simp [decodeFrom, Pending.characters, ih, hpush]

@[simp] theorem toList_decode (bytes : ByteArray) :
    (decode bytes).toList = characters bytes.data.toList := by
  rw [decode, toList_decodeFrom, String.toList_empty, List.nil_append, characters]

theorem characters_flatMap_utf8EncodeChar (cs : List Char) :
    characters (cs.flatMap utf8EncodeChar) = cs :=
  decodes_iff.mp (.flatMap_utf8EncodeChar cs)

theorem characters_append_cons (hb : b < 0x80) (bs ds : List UInt8) :
    characters (bs ++ b :: ds) = characters bs ++ Char.ofNat b.toNat :: characters ds :=
  decodes_iff.mp ((decodes_iff.mpr rfl).append_cons hb (decodes_iff.mpr rfl))

end LinkerMap.Text
