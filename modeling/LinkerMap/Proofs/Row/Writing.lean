import LinkerMap.Sections
import LinkerMap.Proofs.Row.Spacing
import LinkerMap.Proofs.Text.Lines

/-! # Writing rows

A row is written with spaces in front of each of its fields, and these spaces are blanks as any
others. It is read as what was written, however many spaces these are and whatever else its names
could be taken for.
-/

namespace LinkerMap

namespace Row

variable {p : CharClass} {c : Char} {run : List Char} {n : Nat} {s t : String}

/-- Characters that stand together: there are some, and none is blank. -/
def IsWord (cs : List Char) : Prop :=
  cs ≠ [] ∧ ∀ c ∈ cs, blank c = false

instance (cs : List Char) : Decidable (IsWord cs) :=
  decidable_of_iff (cs ≠ [] ∧ cs.all (!blank ·) = true) (by simp [IsWord])

theorem IsWord.isRun (h : IsWord run) : IsRun nonSpace run := by
  refine ⟨h.1, fun c hc => ?_⟩
  have hs : c ≠ ' ' := fun he => absurd (h.2 c hc) (he ▸ by decide)
  simpa [nonSpace] using hs

theorem IsWord.isTrimmed (h : IsWord run) : Text.IsTrimmed run :=
  Text.isTrimmed_of_forall h.2

theorem IsWord.isName (h : IsWord run) : IsName run :=
  ⟨h.isRun, h.isTrimmed⟩

theorem IsRun.isWord (h : IsRun p run) (hp : ∀ c, p c = true → blank c = false) : IsWord run :=
  ⟨h.1, fun c hc => hp c (h.2 c hc)⟩

theorem isWord_of_hex (h : IsRun hex run) : IsWord run :=
  h.isWord fun _ => blank_of_hex

theorem blank_of_isDigit (h : c.isDigit = true) : blank c = false := by
  rw [Char.isDigit_iff_toNat] at h
  simp only [blank, Text.isBlank, Bool.or_eq_false_iff, Bool.and_eq_false_iff,
    decide_eq_false_iff_not, beq_eq_false_iff_ne]
  change 0x30 ≤ c.toNat ∧ c.toNat ≤ 0x39 at h
  omega

theorem digit_of_isDigit (h : c.isDigit = true) : digit c = true := by
  rw [Char.isDigit_iff_toNat] at h
  change 0x30 ≤ c.toNat ∧ c.toNat ≤ 0x39 at h
  refine List.any_eq_true.mpr ⟨0x30, by decide, ?_⟩
  simp only [Bool.and_eq_true, decide_eq_true_eq]
  omega

def spaces (n : Nat) : List Char :=
  List.replicate (n + 1) ' '

theorem eq_of_mem_spaces (h : c ∈ spaces n) : c = ' ' :=
  List.eq_of_mem_replicate h

theorem isRun_spaces (n : Nat) : IsRun blank (spaces n) := by
  refine ⟨by simp [spaces], fun c hc => ?_⟩
  rw [eq_of_mem_spaces hc]
  decide

def Gap.spaces (n : Nat) : Gap :=
  ⟨String.ofList (Row.spaces n), by simpa using isRun_spaces n⟩

@[simp] theorem Gap.toList_text_spaces (n : Nat) : (Gap.spaces n).text.toList = Row.spaces n :=
  String.toList_ofList

def field (n : Nat) (s : String) : String :=
  String.ofList (spaces n) ++ s

@[simp] theorem toList_field (n : Nat) (s : String) :
    (field n s).toList = spaces n ++ s.toList := by
  simp [field]

theorem isLine_field (h : Text.IsTrimmed s.toList) (hn : '\n' ∉ s.toList) (hs : s ≠ "") :
    Text.IsLine (field n s) := by
  refine Text.IsLine.append ?_ (Text.isLine_of_isTrimmed h hn) hs
  rw [String.toList_ofList]
  exact fun hm => absurd (eq_of_mem_spaces hm) (by decide)

theorem IsWord.lf_not_mem (h : IsWord run) : '\n' ∉ run :=
  fun hm => absurd (h.2 _ hm) (by decide)

theorem IsWord.isLine_field (h : IsWord s.toList) : Text.IsLine (field n s) :=
  Row.isLine_field h.isTrimmed h.lf_not_mem (fun he => h.1 (by simp [he]))

theorem IsWord.isLine_field_append (h : IsWord s.toList) (ht : Text.IsLine t) :
    Text.IsLine (field n s ++ t) := by
  by_cases he : t = ""
  · rw [he, String.append_empty]
    exact h.isLine_field
  · exact ht.append h.isLine_field.1 he

theorem isBodyLine_field_append (n : Nat) (s t : String) : isBodyLine (field n s ++ t) = true := by
  simp [isBodyLine, spaces, List.replicate_succ]

end Row

namespace Segment

open Row

variable {segment : Segment}

@[mk_iff]
structure IsWritable (segment : Segment) : Prop where
  name : IsWord segment.name.toList
  start : IsRun hex segment.start.text.toList
  size : IsRun hex segment.size.text.toList
  offset : IsRun hex segment.offset.text.toList

instance (segment : Segment) : Decidable segment.IsWritable :=
  decidable_of_iff _ (isWritable_iff segment).symm

/-- The row of a segment, with so many spaces more than one in front of its fields. -/
def row (gaps : Nat → Nat) (segment : Segment) : String :=
  field (gaps 0) segment.name ++ (field (gaps 1) segment.start.text ++
    (field (gaps 2) segment.size.text ++ field (gaps 3) segment.offset.text))

theorem IsWritable.isReadable (h : segment.IsWritable) : segment.IsReadable :=
  ⟨h.name.isName, h.start, h.size, h.offset⟩

theorem row_eq_spacedRow (gaps : Nat → Nat) (segment : Segment) :
    segment.row gaps = segment.spacedRow (fun i => .spaces (gaps i)) "" := by
  simp [row, spacedRow, ← String.toList_inj]

theorem isBodyLine_row (gaps : Nat → Nat) (segment : Segment) :
    isBodyLine (segment.row gaps) = true :=
  isBodyLine_field_append _ _ _

theorem ofRow?_row (h : segment.IsWritable) (gaps : Nat → Nat) :
    ofRow? (segment.row gaps) = some segment := by
  rw [row_eq_spacedRow]
  exact ofRow?_spacedRow h.isReadable _ (by simp [spaces]) (by simp)

theorem isLine_row (h : segment.IsWritable) (gaps : Nat → Nat) :
    Text.IsLine (segment.row gaps) := by
  refine h.name.isLine_field_append ?_
  refine (isWord_of_hex h.start).isLine_field_append ?_
  refine (isWord_of_hex h.size).isLine_field_append ?_
  exact (isWord_of_hex h.offset).isLine_field

end Segment

namespace Symbol

open Row

variable {symbol : Symbol}

/-- The name is a word, the kind is made of ASCII digits and the other fields are hexadecimal. The
module, if any, is a piece of a line without blanks at its ends. -/
@[mk_iff]
structure IsWritable (symbol : Symbol) : Prop where
  start : IsRun hex symbol.start.text.toList
  size : IsRun hex symbol.size.text.toList
  address : IsRun hex symbol.address.text.toList
  kind : IsRun Char.isDigit symbol.kind.toList
  name : IsWord symbol.name.toList
  origin : ∀ origin ∈ symbol.module?, origin ≠ "" ∧ Text.trim origin = origin ∧
    '\n' ∉ origin.toList

instance (symbol : Symbol) : Decidable symbol.IsWritable :=
  decidable_of_iff _ (isWritable_iff symbol).symm

/-- What stands behind the name. -/
def originField (n : Nat) (symbol : Symbol) : String :=
  match symbol.module? with
  | some origin => field n origin
  | none => ""

def row (gaps : Nat → Nat) (symbol : Symbol) : String :=
  field (gaps 0) symbol.start.text ++ (field (gaps 1) symbol.size.text ++
    (field (gaps 2) symbol.address.text ++ (field (gaps 3) symbol.kind ++
      (field (gaps 4) symbol.name ++ symbol.originField (gaps 5)))))

theorem isBodyLine_row (gaps : Nat → Nat) (symbol : Symbol) :
    isBodyLine (symbol.row gaps) = true :=
  isBodyLine_field_append _ _ _

theorem IsWritable.isReadable (h : symbol.IsWritable) : symbol.IsReadable where
  start := h.start
  size := h.size
  address := h.address
  kind := ⟨h.kind.1, fun c hc => digit_of_isDigit (h.kind.2 c hc)⟩
  name := h.name.isName
  origin := by
    intro origin ho
    obtain ⟨hne, ht, hn⟩ := h.origin origin ho
    exact ⟨hne, hn, Text.trim_eq_self_iff.mp ht⟩

theorem row_eq_spacedRow (gaps : Nat → Nat) (symbol : Symbol) : symbol.row gaps =
    symbol.spacedRow (fun i => .spaces (gaps i)) (symbol.originField (gaps 5)) := by
  simp [row, spacedRow, ← String.toList_inj]

theorem trail_originField (n : Nat) (symbol : Symbol) :
    Trail symbol.module? (symbol.originField n) := by
  unfold originField
  cases symbol.module? with
  | none => exact .blanks (by simp)
  | some origin =>
    have hb : ∀ c ∈ "".toList, blank c = true := by simp
    have ht := Trail.origin (.spaces n) (by simp [spaces]) origin hb
    rwa [String.append_empty] at ht

theorem ofRow?_row (h : symbol.IsWritable) (gaps : Nat → Nat) :
    ofRow? (symbol.row gaps) = some symbol := by
  rw [row_eq_spacedRow]
  exact ofRow?_spacedRow h.isReadable _ (symbol.trail_originField (gaps 5))

theorem isLine_originField (h : symbol.IsWritable) (n : Nat) :
    Text.IsLine (symbol.originField n) := by
  unfold originField
  cases hm : symbol.module? with
  | none => exact Text.isLine_empty
  | some origin =>
    obtain ⟨hne, ht, hn⟩ := h.origin origin hm
    exact isLine_field (Text.trim_eq_self_iff.mp ht) hn hne

theorem isLine_row (h : symbol.IsWritable) (gaps : Nat → Nat) : Text.IsLine (symbol.row gaps) := by
  refine (isWord_of_hex h.start).isLine_field_append ?_
  refine (isWord_of_hex h.size).isLine_field_append ?_
  refine (isWord_of_hex h.address).isLine_field_append ?_
  refine (h.kind.isWord fun _ => blank_of_isDigit).isLine_field_append ?_
  exact h.name.isLine_field_append (isLine_originField h _)

end Symbol

end LinkerMap
