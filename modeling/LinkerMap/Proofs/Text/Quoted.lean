import LinkerMap.Proofs.Hex.Digits
import LinkerMap.Proofs.Text.Lines
import LinkerMap.Text.Quoted

/-! # Reading quoted forms

A quoted form is made of graphic characters, and the text can be told from it: an escape is told
from whatever stands behind it.
-/

namespace LinkerMap

theorem Hex.toDigits_injective : Function.Injective (Nat.toDigits 16) := by
  intro n m h
  have hn := denotes_upperDigits n
  rw [upperDigits, h, ← upperDigits] at hn
  exact hn.unique (denotes_upperDigits m)

namespace Text

variable {c d : Char} {cs ds xs ys : List Char} {s t : String}

/-! ### Graphic characters -/

theorem forall_mem_toDigits {P : Char → Prop} (h : ∀ d < 16, P (Nat.digitChar d)) (n : Nat) :
    ∀ c ∈ Nat.toDigits 16 n, P c := by
  induction n using Nat.strong_induction_on with
  | _ n ih =>
    rcases Nat.lt_or_ge n 16 with hlt | hge
    · rw [Nat.toDigits_of_lt_base hlt, List.forall_mem_singleton]
      exact h n hlt
    · rw [Nat.toDigits_of_base_le (by decide) hge]
      exact List.forall_mem_append.mpr ⟨ih (n / 16) (by omega),
        List.forall_mem_singleton.mpr (h _ (Nat.mod_lt n (by decide)))⟩

/-- The characters that are escaped by a letter, each behind its letter. -/
def shorthands : List (Char × Char) :=
  [('0', '\x00'), ('t', '\t'), ('r', '\r'), ('n', '\n'), ('"', '"'), ('\\', '\\')]

/-- The three ways to write a character between quotes. -/
inductive Escape (c : Char) : List Char → Prop
  | plain (hg : isGraphic c = true) (hc : c ≠ '\\') : Escape c [c]
  | short {letter : Char} (h : (letter, c) ∈ shorthands) : Escape c ['\\', letter]
  | code : Escape c (escapeCode c)

theorem escape_spec (c : Char) : Escape c (escape c) := by
  unfold escape
  split
  · exact .short (by simp [shorthands, *])
  split
  · exact .short (by simp [shorthands, *])
  split
  · exact .short (by simp [shorthands, *])
  split
  · exact .short (by simp [shorthands, *])
  split
  · rename_i h
    rcases Bool.or_eq_true_iff.mp h with h | h <;> rw [of_decide_eq_true h] <;>
      exact .short (by decide)
  split
  · rename_i hc hg
    exact .plain hg fun h => hc (by simp [h])
  · exact .code

theorem isGraphic_of_mem_escape (c : Char) : ∀ d ∈ escape c, isGraphic d = true := by
  have hslash : isGraphic '\\' = true := by decide
  have hletters : ∀ p ∈ shorthands, isGraphic p.1 = true := by decide
  have hopen : ∀ d ∈ "\\u\x7b".toList, isGraphic d = true := List.all_eq_true.mp (by decide)
  have hclose : isGraphic '}' = true := by decide
  have hc := escape_spec c
  generalize escape c = cs at hc
  cases hc with
  | plain hg => exact List.forall_mem_singleton.mpr hg
  | short h =>
    exact List.forall_mem_cons.mpr ⟨hslash, List.forall_mem_singleton.mpr (hletters _ h)⟩
  | code =>
    exact List.forall_mem_append.mpr ⟨List.forall_mem_append.mpr
      ⟨hopen, forall_mem_toDigits (by decide) c.toNat⟩, List.forall_mem_singleton.mpr hclose⟩

/-- Whatever a text holds, its quoted form can be shown as it is. -/
theorem isGraphic_of_mem_quote (s : String) : ∀ c ∈ (quote s).toList, isGraphic c = true := by
  have hquote : isGraphic '"' = true := by decide
  rw [quote, String.toList_ofList, List.cons_append, List.forall_mem_cons, List.forall_mem_append,
    List.forall_mem_singleton]
  refine ⟨hquote, fun d hd => ?_, hquote⟩
  obtain ⟨c, -, hd⟩ := List.mem_flatMap.mp hd
  exact isGraphic_of_mem_escape c d hd

theorem escapeCode_append_inj (h : escapeCode c ++ xs = escapeCode d ++ ys) :
    c = d ∧ xs = ys := by
  have hclose : ∀ n, '}' ∉ Nat.toDigits 16 n :=
    fun n hm => forall_mem_toDigits (P := (· ≠ '}')) (by decide) n _ hm rfl
  simp only [escapeCode, List.append_assoc, List.singleton_append] at h
  obtain ⟨hdigits, hrest⟩ :=
    append_cons_inj (hclose c.toNat) (hclose d.toNat) (List.append_cancel_left h)
  exact ⟨Char.toNat_inj.mp (Hex.toDigits_injective hdigits), hrest⟩

theorem escape_append_inj (h : escape c ++ xs = escape d ++ ys) : c = d ∧ xs = ys := by
  have hletters : ∀ p ∈ shorthands, ∀ q ∈ shorthands, p.1 = q.1 → p.2 = q.2 := by decide
  have hu : ∀ p ∈ shorthands, p.1 ≠ 'u' := by decide
  have hc := escape_spec c
  have hd := escape_spec d
  generalize escape c = cs at hc h
  generalize escape d = ds at hd h
  cases hc with
  | plain _ hc =>
    cases hd with
    | plain => exact List.cons.inj h
    | short => exact absurd (List.cons.inj h).1 hc
    | code => exact absurd (List.cons.inj h).1 hc
  | short hc =>
    cases hd with
    | plain _ hd => exact absurd (List.cons.inj h).1.symm hd
    | short hd =>
      obtain ⟨hletter, hrest⟩ := List.cons.inj (List.cons.inj h).2
      exact ⟨hletters _ hc _ hd hletter, hrest⟩
    | code => exact absurd (List.cons.inj (List.cons.inj h).2).1 (hu _ hc)
  | code =>
    cases hd with
    | plain _ hd => exact absurd (List.cons.inj h).1.symm hd
    | short hd => exact absurd (List.cons.inj (List.cons.inj h).2).1.symm (hu _ hd)
    | code => exact escapeCode_append_inj h

theorem escape_ne_nil (c : Char) : escape c ≠ [] := by
  have hc := escape_spec c
  generalize escape c = cs at hc
  cases hc <;> simp [escapeCode]

theorem flatMap_escape_inj (h : cs.flatMap escape = ds.flatMap escape) : cs = ds := by
  induction cs generalizing ds with
  | nil =>
    cases ds with
    | nil => rfl
    | cons d ds => simp [escape_ne_nil] at h
  | cons c cs ih =>
    cases ds with
    | nil => simp [escape_ne_nil] at h
    | cons d ds =>
      rw [List.flatMap_cons, List.flatMap_cons] at h
      obtain ⟨rfl, hrest⟩ := escape_append_inj h
      rw [ih hrest]

theorem quote_inj : quote s = quote t ↔ s = t := by
  refine ⟨fun h => ?_, fun h => h ▸ rfl⟩
  have hlists := List.append_cancel_right (List.cons.inj (String.ofList_inj.mp h)).2
  exact String.toList_inj.mp (flatMap_escape_inj hlists)

end Text

end LinkerMap
