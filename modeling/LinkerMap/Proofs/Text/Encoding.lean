import LinkerMap.Text.Utf8
import Mathlib.Data.List.Infix
import Mathlib.Tactic.SplitIfs

/-! # Octets as text

Octets stand for a text when they are cut into the encodings of its characters. Where no encoding
begins, the longest piece that could still have begun one stands for one replacement character.
There is one way to cut, and no piece goes beyond an octet below `0x80`: that octet stands for
itself.
-/

namespace LinkerMap.Text

open String (utf8EncodeChar utf8EncodeChar_ne_nil)

variable {b : UInt8} {bs ds piece : List UInt8} {c d : Char} {cs es : List Char}

/-! ### Encodings of characters -/

theorem toNat_lt (c : Char) : c.toNat < 0x110000 := by
  rcases c.valid with h | h
  · exact Nat.lt_trans h (by decide)
  · exact h.2

theorem toNat_ofNat_of_isValidChar {n : Nat} (h : n.isValidChar) : (Char.ofNat n).toNat = n := by
  rw [Char.ofNat, dif_pos h]
  rfl

def numbers (n : Nat) : List Nat :=
  if n < 0x80 then [n]
  else if n < 0x800 then [n / 64 + 0xC0, n % 64 + 0x80]
  else if n < 0x10000 then [n / 4096 + 0xE0, n / 64 % 64 + 0x80, n % 64 + 0x80]
  else [n / 262144 + 0xF0, n / 4096 % 64 + 0x80, n / 64 % 64 + 0x80, n % 64 + 0x80]

theorem map_toNat_utf8EncodeChar (c : Char) :
    (utf8EncodeChar c).map UInt8.toNat = numbers c.toNat := by
  have hc := toNat_lt c
  have hv : c.val.toNat = c.toNat := rfl
  simp only [utf8EncodeChar, numbers, hv]
  split_ifs <;> first | omega | (simp; omega)

theorem utf8EncodeChar_eq_iff :
    utf8EncodeChar c = bs ↔ numbers c.toNat = bs.map UInt8.toNat := by
  rw [← map_toNat_utf8EncodeChar]
  exact (List.map_inj_right fun _ _ => UInt8.toNat_inj.mp).symm

theorem utf8EncodeChar_eq_singleton_of_mem (h : b ∈ utf8EncodeChar c) (hb : b < 0x80) :
    utf8EncodeChar c = [b] := by
  have hm : b.toNat ∈ (utf8EncodeChar c).map UInt8.toNat := List.mem_map_of_mem h
  rw [UInt8.lt_iff_toNat_lt] at hb
  change b.toNat < 0x80 at hb
  rw [utf8EncodeChar_eq_iff]
  rw [map_toNat_utf8EncodeChar] at hm
  unfold numbers at hm ⊢
  split_ifs at hm ⊢
  · simpa [eq_comm] using hm
  all_goals
    simp only [List.mem_cons, List.not_mem_nil, or_false] at hm
    omega

theorem utf8EncodeChar_ofNat_of_lt (hb : b < 0x80) :
    utf8EncodeChar (Char.ofNat b.toNat) = [b] := by
  rw [UInt8.lt_iff_toNat_lt] at hb
  change b.toNat < 0x80 at hb
  have hn : (Char.ofNat b.toNat).toNat = b.toNat :=
    toNat_ofNat_of_isValidChar (.inl (by omega))
  rw [utf8EncodeChar_eq_iff, hn, numbers, if_pos hb]
  rfl

theorem utf8EncodeChar_prefix_inj (h : utf8EncodeChar c <+: utf8EncodeChar d) : c = d := by
  obtain ⟨behind, hd⟩ := h
  have hc : ((utf8EncodeChar c).toByteArray ++ behind.toByteArray).utf8DecodeChar? 0 = some c :=
    ByteArray.utf8DecodeChar?_utf8EncodeChar_append
  have hd' : ((utf8EncodeChar d).toByteArray ++ ByteArray.empty).utf8DecodeChar? 0 = some d :=
    ByteArray.utf8DecodeChar?_utf8EncodeChar_append
  rw [ByteArray.append_empty, ← hd, List.toByteArray_append, hc] at hd'
  exact Option.some.inj hd'

/-- Some character begins with these octets. -/
def Begins (piece : List UInt8) : Prop :=
  ∃ c, piece <+: utf8EncodeChar c

theorem Begins.exists_numbers (h : Begins piece) : ∃ n, n.isValidChar ∧
    piece.map UInt8.toNat <+: numbers n := by
  obtain ⟨c, hc⟩ := h
  exact ⟨c.toNat, c.valid, map_toNat_utf8EncodeChar c ▸ hc.map UInt8.toNat⟩

theorem Begins.of_isPrefix (h : Begins piece) (hp : bs <+: piece) : Begins bs := by
  obtain ⟨c, hc⟩ := h
  exact ⟨c, hp.trans hc⟩

theorem not_begins_singleton (h : 0x80 ≤ b.toNat) (h' : b.toNat < 0xC2 ∨ 0xF5 ≤ b.toNat) :
    ¬ Begins [b] := by
  intro hb
  obtain ⟨n, hn, hp⟩ := hb.exists_numbers
  unfold Nat.isValidChar at hn
  unfold numbers at hp
  split_ifs at hp <;> simp only [List.map_cons, List.map_nil, List.cons_prefix_cons] at hp <;> omega

theorem Begins.within_of_ne_nil (h : Begins (piece ++ [b])) (hp : piece ≠ []) :
    0x80 ≤ b ∧ b ≤ 0xBF := by
  obtain ⟨n, hn, hprefix⟩ := h.exists_numbers
  obtain ⟨p, piece, rfl⟩ := List.exists_cons_of_ne_nil hp
  rw [UInt8.le_iff_toNat_le, UInt8.le_iff_toNat_le]
  change 0x80 ≤ b.toNat ∧ b.toNat ≤ 0xBF
  have hm : b.toNat ∈ (piece ++ [b]).map UInt8.toNat := by simp
  unfold Nat.isValidChar at hn
  unfold numbers at hprefix
  split_ifs at hprefix
  · exact absurd ((List.cons_prefix_cons.mp hprefix).2.subset hm) List.not_mem_nil
  all_goals
    have hb := (List.cons_prefix_cons.mp hprefix).2.subset hm
    simp only [List.mem_cons, List.not_mem_nil, or_false] at hb
    omega

/-- What the second octet of a character can be. Behind some first octets, only some numbers need as
many octets as these announce. -/
theorem Begins.second {d : UInt8} (h : Begins ([b] ++ [d])) :
    (0x80 ≤ d.toNat ∧ d.toNat ≤ 0xBF) ∧
    (b.toNat = 0xE0 → 0xA0 ≤ d.toNat) ∧ (b.toNat = 0xED → d.toNat ≤ 0x9F) ∧
    (b.toNat = 0xF0 → 0x90 ≤ d.toNat) ∧ (b.toNat = 0xF4 → d.toNat ≤ 0x8F) := by
  obtain ⟨n, hn, hp⟩ := h.exists_numbers
  unfold Nat.isValidChar at hn
  unfold numbers at hp
  split_ifs at hp <;>
    simp only [List.cons_append, List.nil_append, List.map_cons, List.map_nil,
      List.cons_prefix_cons, List.prefix_nil, reduceCtorEq, and_false] at hp <;>
    omega

theorem not_begins_concat (hp : piece ≠ []) (hb : b < 0x80) : ¬ Begins (piece ++ [b]) := by
  rintro ⟨c, hc⟩
  have hm : b ∈ utf8EncodeChar c := hc.subset (by simp)
  rw [utf8EncodeChar_eq_singleton_of_mem hm hb] at hc
  have hl := hc.length_le
  simp only [List.length_append, List.length_singleton] at hl
  exact hp (List.eq_nil_of_length_eq_zero (by omega))

/-- No character begins where the piece does, in front of these octets. The piece is one octet, or
the longest piece with which a character could have begun. -/
structure IsBroken (piece bs : List UInt8) : Prop where
  ne_nil : piece ≠ []
  incomplete : ∀ c, ¬ utf8EncodeChar c <+: piece ++ bs
  begins : Begins piece ∨ piece.length = 1
  longest : ∀ b ∈ bs.head?, ¬ Begins (piece ++ [b])

/-- Octets stand for these characters. -/
inductive Decodes : List UInt8 → List Char → Prop
  | nil : Decodes [] []
  | character {bs : List UInt8} {cs : List Char} (c : Char) : Decodes bs cs →
      Decodes (utf8EncodeChar c ++ bs) (c :: cs)
  | broken {piece bs : List UInt8} {cs : List Char} : IsBroken piece bs → Decodes bs cs →
      Decodes (piece ++ bs) (replacement :: cs)

theorem isBroken_of_not_isPrefix (hp : piece ≠ []) (hn : ∀ c, ¬ utf8EncodeChar c <+: piece)
    (hb : Begins piece ∨ piece.length = 1) (hl : ∀ b ∈ bs.head?, ¬ Begins (piece ++ [b])) :
    IsBroken piece bs := by
  refine ⟨hp, fun c hc => ?_, hb, hl⟩
  rcases Nat.lt_or_ge piece.length (utf8EncodeChar c).length with hlt | hge
  · cases bs with
    | nil => exact hn c (by simpa using hc)
    | cons b bs =>
      have hcut : piece ++ [b] <+: piece ++ b :: bs := ⟨bs, by simp⟩
      refine hl b rfl ⟨c, List.prefix_of_prefix_length_le hcut hc ?_⟩
      rw [List.length_append, List.length_singleton]
      exact hlt
  · exact hn c (List.prefix_of_prefix_length_le hc (List.prefix_append _ _) hge)

theorem isBroken_singleton (h : ¬ Begins [b]) : IsBroken [b] bs := by
  refine isBroken_of_not_isPrefix (by simp) (fun c hc => h ?_) (.inr rfl)
    fun d _ hd => h (hd.of_isPrefix (List.prefix_append _ _))
  have hl := List.length_pos_of_ne_nil (utf8EncodeChar_ne_nil (c := c))
  exact ⟨c, hc.eq_of_length_le hl ▸ List.prefix_refl _⟩

theorem IsBroken.append_cons (h : IsBroken piece bs) (hb : b < 0x80) :
    IsBroken piece (bs ++ b :: ds) := by
  have hn : ∀ c, ¬ utf8EncodeChar c <+: piece :=
    fun c hc => h.incomplete c (hc.trans (List.prefix_append _ _))
  refine isBroken_of_not_isPrefix h.ne_nil hn h.begins fun a ha => ?_
  cases bs with
  | nil =>
    obtain rfl : b = a := by simpa using ha
    exact not_begins_concat h.ne_nil hb
  | cons d bs => exact h.longest a (by simpa using ha)

theorem IsBroken.eq_nil_of_append (h : IsBroken piece (ds ++ bs))
    (h' : IsBroken (piece ++ ds) bs) : ds = [] := by
  cases ds with
  | nil => rfl
  | cons d ds =>
    have hd : ¬ Begins (piece ++ [d]) := h.longest d (by simp)
    rcases h'.begins with hb | hl
    · exact absurd (hb.of_isPrefix ⟨ds, by simp⟩) hd
    · have hp := List.length_pos_of_ne_nil h.ne_nil
      simp only [List.length_append, List.length_cons] at hl
      omega

theorem IsBroken.eq_of_append_eq {other : List UInt8} (h : IsBroken piece bs)
    (h' : IsBroken other ds) (he : piece ++ bs = other ++ ds) : piece = other ∧ bs = ds := by
  rcases List.append_eq_append_iff.mp he with ⟨between, rfl, rfl⟩ | ⟨between, rfl, rfl⟩
  · obtain rfl := h.eq_nil_of_append h'
    simp
  · obtain rfl := h'.eq_nil_of_append h
    simp

namespace Decodes

theorem eq_nil (h : Decodes bs []) : bs = [] := by
  cases h with
  | nil => rfl

theorem exists_of_cons (h : Decodes bs (c :: cs)) (hc : c ≠ replacement) :
    ∃ ds, bs = utf8EncodeChar c ++ ds ∧ Decodes ds cs := by
  cases h with
  | character c h => exact ⟨_, rfl, h⟩
  | broken _ _ => exact absurd rfl hc

theorem exists_of_append (h : Decodes (utf8EncodeChar c ++ bs) es) :
    ∃ cs, es = c :: cs ∧ Decodes bs cs := by
  generalize he : utf8EncodeChar c ++ bs = ds at h
  cases h with
  | nil => simp at he
  | @character ds cs d h =>
    have hd : utf8EncodeChar d <+: utf8EncodeChar c ++ bs := ⟨ds, he.symm⟩
    obtain rfl : c = d := by
      rcases List.prefix_or_prefix_of_prefix (List.prefix_append _ bs) hd with hp | hp
      · exact utf8EncodeChar_prefix_inj hp
      · exact (utf8EncodeChar_prefix_inj hp).symm
    exact ⟨cs, rfl, List.append_cancel_left he ▸ h⟩
  | broken hp _ => exact absurd (he ▸ List.prefix_append _ bs) (hp.incomplete c)

theorem exists_of_isBroken (hp : IsBroken piece bs) (h : Decodes (piece ++ bs) es) :
    ∃ cs, es = replacement :: cs ∧ Decodes bs cs := by
  generalize he : piece ++ bs = ds at h
  cases h with
  | nil => exact absurd (List.append_eq_nil_iff.mp he).1 hp.ne_nil
  | character c _ => exact absurd (he ▸ List.prefix_append _ _) (hp.incomplete c)
  | broken ho h =>
    obtain ⟨-, rfl⟩ := hp.eq_of_append_eq ho he
    exact ⟨_, rfl, h⟩

theorem eq_nil_of_nil (h : Decodes [] es) : es = [] := by
  generalize he : ([] : List UInt8) = bs at h
  cases h with
  | nil => rfl
  | character c _ => simp at he
  | broken hp _ => exact absurd (List.append_eq_nil_iff.mp he.symm).1 hp.ne_nil

theorem unique (h : Decodes bs cs) (h' : Decodes bs es) : cs = es := by
  induction h generalizing es with
  | nil => exact h'.eq_nil_of_nil.symm
  | character c _ ih =>
    obtain ⟨cs, rfl, h⟩ := h'.exists_of_append
    rw [ih h]
  | broken hp _ ih =>
    obtain ⟨cs, rfl, h⟩ := exists_of_isBroken hp h'
    rw [ih h]

theorem flatMap_utf8EncodeChar (cs : List Char) : Decodes (cs.flatMap utf8EncodeChar) cs := by
  induction cs with
  | nil => exact .nil
  | cons c cs ih => exact .character c ih

/-- What stands in front of an octet below `0x80` is read as if nothing followed, and what stands
behind it as if nothing came before. -/
theorem append_cons (h : Decodes bs cs) (hb : b < 0x80) (h' : Decodes ds es) :
    Decodes (bs ++ b :: ds) (cs ++ Char.ofNat b.toNat :: es) := by
  induction h with
  | nil =>
    have hd := h'.character (Char.ofNat b.toNat)
    rwa [utf8EncodeChar_ofNat_of_lt hb] at hd
  | character c _ ih =>
    rw [List.append_assoc]
    exact ih.character c
  | broken hp _ ih =>
    rw [List.append_assoc]
    exact ih.broken (hp.append_cons hb)

theorem utf8EncodeChar_infix (h : Decodes bs cs) (hm : c ∈ cs) (hc : c ≠ replacement) :
    utf8EncodeChar c <:+: bs := by
  induction h with
  | nil => simp at hm
  | @character bs cs d _ ih =>
    rcases List.mem_cons.mp hm with rfl | hm
    · exact (List.prefix_append _ bs).isInfix
    · exact (ih hm).trans (List.suffix_append _ bs).isInfix
  | @broken piece bs cs _ _ ih =>
    rcases List.mem_cons.mp hm with rfl | hm
    · exact absurd rfl hc
    · exact (ih hm).trans (List.suffix_append piece bs).isInfix

theorem utf8EncodeChar_suffix (h : Decodes bs cs) (hl : cs.getLast? = some c)
    (hc : c ≠ replacement) : utf8EncodeChar c <:+ bs := by
  induction h with
  | nil => simp at hl
  | @character bs cs d h ih =>
    cases cs with
    | nil =>
      obtain rfl : d = c := by simpa using hl
      rw [h.eq_nil, List.append_nil]
    | cons e cs =>
      rw [List.getLast?_cons_cons] at hl
      exact (ih hl).trans (List.suffix_append _ bs)
  | @broken piece bs cs _ h ih =>
    cases cs with
    | nil =>
      obtain rfl : replacement = c := by simpa using hl
      exact absurd rfl hc
    | cons e cs =>
      rw [List.getLast?_cons_cons] at hl
      exact (ih hl).trans (List.suffix_append piece bs)

end Decodes

end LinkerMap.Text
