import LinkerMap.Path
import LinkerMap.Proofs.Text.Lines
import Mathlib.Data.List.TakeDrop

/-! # Extensions of paths

The name that a path ends in has an extension if a dot stands in it behind its beginning. A path
that ends in a name stays what it is up to there when it is given another extension.
-/

namespace LinkerMap.Path

variable {path : Path} {above : List (List Char)} {name front ending piece : List Char}
  {extension : String}

/-- The name that a path ends in. Slashes and dots behind it do not count, and two dots are no
name. -/
def name? (path : Path) : Option (List Char) :=
  (path.pieces.filter (!isIdle ·)).getLast?.filter (· ≠ ['.', '.'])

/-- What follows the last dot of a name, unless it is a dot that the name begins with. -/
def extensionOf? (name : List Char) : Option String :=
  match name.reverse.dropWhile (· != '.') with
  | _ :: _ :: _ => some (String.ofList (name.reverse.takeWhile (· != '.')).reverse)
  | _ => none

def extension? (path : Path) : Option String :=
  path.name?.bind extensionOf?

/-! ### Names cut at their last dot -/

theorem not_dot_of_mem_reverse (h : '.' ∉ ending) : ∀ c ∈ ending.reverse, (c != '.') = true := by
  intro c hc
  rw [bne_iff_ne]
  rintro rfl
  exact h (List.mem_reverse.mp hc)

theorem dropWhile_reverse_append (h : '.' ∉ ending) :
    (front ++ '.' :: ending).reverse.dropWhile (· != '.') = '.' :: front.reverse := by
  rw [List.reverse_append, List.reverse_cons, List.append_assoc,
    List.dropWhile_append_of_pos (not_dot_of_mem_reverse h)]
  rfl

theorem takeWhile_reverse_append (h : '.' ∉ ending) :
    (front ++ '.' :: ending).reverse.takeWhile (· != '.') = ending.reverse := by
  rw [List.reverse_append, List.reverse_cons, List.append_assoc,
    List.takeWhile_append_of_pos (not_dot_of_mem_reverse h)]
  simp

theorem eq_append_of_dropWhile {cs : List Char}
    (h : name.reverse.dropWhile (· != '.') = '.' :: cs) :
    name = cs.reverse ++ '.' :: (name.reverse.takeWhile (· != '.')).reverse := by
  calc name = (name.reverse.takeWhile (· != '.') ++ name.reverse.dropWhile (· != '.')).reverse := by
        rw [List.takeWhile_append_dropWhile, List.reverse_reverse]
    _ = cs.reverse ++ '.' :: (name.reverse.takeWhile (· != '.')).reverse := by
        rw [h, List.reverse_append, List.reverse_cons, List.append_assoc]
        rfl

theorem extensionOf?_eq_some_iff : extensionOf? name = some extension ↔
    ∃ front, front ≠ [] ∧ '.' ∉ extension.toList ∧ name = front ++ '.' :: extension.toList := by
  unfold extensionOf?
  constructor
  · intro h
    split at h
    · rename_i dot c cs hdrop
      obtain rfl := Option.some.inj h
      have hdot : dot = '.' := by
        have hhead := List.head?_dropWhile_not (· != '.') name.reverse
        rw [hdrop] at hhead
        simpa using hhead
      rw [hdot] at hdrop
      rw [String.toList_ofList, List.mem_reverse]
      refine ⟨(c :: cs).reverse, by simp, ?_, eq_append_of_dropWhile hdrop⟩
      exact fun hm => by simpa using List.mem_takeWhile_imp hm
    · cases h
  · rintro ⟨front, hfront, hdot, rfl⟩
    obtain ⟨c, cs, hcs⟩ := List.exists_cons_of_ne_nil (List.reverse_ne_nil_iff.mpr hfront)
    rw [dropWhile_reverse_append hdot, takeWhile_reverse_append hdot, hcs, List.reverse_reverse,
      String.ofList_toList]

theorem stem_append (hfront : front ≠ []) (h : '.' ∉ ending) :
    stem (front ++ '.' :: ending) = front := by
  obtain ⟨c, cs, hcs⟩ := List.exists_cons_of_ne_nil (List.reverse_ne_nil_iff.mpr hfront)
  rw [stem, dropWhile_reverse_append h, hcs]
  change (c :: cs).reverse = front
  rw [← hcs, List.reverse_reverse]

theorem stem_ne_nil (h : name ≠ []) : stem name ≠ [] := by
  unfold stem
  split
  · exact h
  · exact fun he => by simp_all

theorem mem_of_mem_stem {c : Char} (h : c ∈ stem name) : c ∈ name := by
  unfold stem at h
  split at h
  · exact h
  · exact List.mem_reverse.mp ((List.dropWhile_sublist _).subset
      (List.mem_of_mem_drop (List.mem_reverse.mp h)))

/-- A name with another extension. -/
def extend (name : List Char) (extension : String) : List Char :=
  stem name ++ '.' :: extension.toList

theorem slash_not_mem_extend (h : '/' ∉ name) (hslash : '/' ∉ extension.toList) :
    '/' ∉ extend name extension := by
  rw [extend, List.mem_append, List.mem_cons]
  rintro (hm | hm | hm)
  · exact h (mem_of_mem_stem hm)
  · exact absurd hm (by decide)
  · exact hslash hm

theorem extend_eq_self_iff (hne : name ≠ []) (hdot : '.' ∉ extension.toList) :
    extend name extension = name ↔ extensionOf? name = some extension := by
  rw [extensionOf?_eq_some_iff]
  constructor
  · intro h
    exact ⟨stem name, stem_ne_nil hne, hdot, h.symm⟩
  · rintro ⟨front, hfront, -, rfl⟩
    rw [extend, stem_append hfront hdot]

/-! ### Paths made of pieces -/

def ofPieces (pieces : List (List Char)) : Path :=
  ⟨String.ofList (['/'].intercalate pieces)⟩

theorem ofPieces_pieces (path : Path) : ofPieces path.pieces = path := by
  rw [ofPieces, pieces, List.intercalate_splitOn, String.ofList_toList]

theorem pieces_ofPieces {pieces : List (List Char)} (h : ∀ piece ∈ pieces, '/' ∉ piece)
    (hne : pieces ≠ []) : (ofPieces pieces).pieces = pieces := by
  rw [Path.pieces, ofPieces, String.toList_ofList]
  exact List.splitOn_intercalate '/' h hne

theorem pieces_ne_nil (path : Path) : path.pieces ≠ [] :=
  List.splitOn_ne_nil '/' _

theorem slash_not_mem_of_mem_pieces (h : piece ∈ path.pieces) : '/' ∉ piece :=
  Text.not_mem_of_mem_splitOn h

/-- What stands in front of the last piece. -/
def lead (above : List (List Char)) : List Char :=
  ['/'].intercalate (above ++ [[]])

theorem lead_cons (piece : List Char) (above : List (List Char)) :
    lead (piece :: above) = piece ++ '/' :: lead above := by
  rw [lead, List.cons_append, List.intercalate_cons_of_ne_nil (by simp), List.append_assoc]
  rfl

theorem toList_text (h : path.pieces = above ++ [name]) :
    path.text.toList = lead above ++ name := by
  have htext : path.text.toList = ['/'].intercalate path.pieces :=
    (List.intercalate_splitOn '/').symm
  rw [htext, h]
  clear htext h
  induction above with
  | nil => simp [lead]
  | cons piece above ih =>
    rw [List.cons_append, List.intercalate_cons_of_ne_nil (by simp), ih, lead_cons]
    simp

theorem getLast?_lead (h : above ≠ []) : (lead above).getLast? = some '/' := by
  induction above with
  | nil => exact absurd rfl h
  | cons piece above ih =>
    rw [lead_cons]
    cases above with
    | nil => simp [lead]
    | cons piece' above =>
      rw [List.getLast?_append_of_ne_nil _ (by simp), List.getLast?_cons, ih (by simp)]
      rfl

theorem isAbsolute_eq (h : path.pieces = above ++ [name]) :
    path.isAbsolute = ((lead above).head? == some '/') := by
  rw [isAbsolute, toList_text h]
  cases above with
  | nil =>
    have hm : name ∈ path.pieces := by simp [h]
    have hslash : '/' ∉ name := slash_not_mem_of_mem_pieces hm
    have hlead : lead [] = [] := rfl
    rw [hlead, List.nil_append]
    cases name with
    | nil => rfl
    | cons c name =>
      have hc : c ≠ '/' := fun he => hslash (he ▸ List.mem_cons_self)
      simpa using hc
  | cons piece above =>
    rw [lead_cons]
    cases piece <;> rfl

theorem endsInSlash_of_nil (h : path.pieces = above ++ [[]]) (hne : above ≠ []) :
    path.endsInSlash = true := by
  rw [endsInSlash, toList_text h, List.append_nil, getLast?_lead hne]
  rfl

theorem components_eq (h : path.pieces = above ++ [name]) (hne : name ≠ []) : path.components =
    (above.filter (!·.isEmpty)).map String.ofList ++ [String.ofList name] := by
  simp [components, h, hne]

/-! ### Paths that end in a name -/

theorem pieces_exchange {name' : List Char} (h : path.pieces = above ++ [name])
    (hslash : '/' ∉ name') : (ofPieces (above ++ [name'])).pieces = above ++ [name'] := by
  refine pieces_ofPieces ?_ (by simp)
  rw [List.forall_mem_append, List.forall_mem_singleton]
  exact ⟨fun piece hm => slash_not_mem_of_mem_pieces (h ▸ List.mem_append_left _ hm), hslash⟩

theorem name?_eq (h : path.pieces = above ++ [name]) (hidle : isIdle name = false) :
    path.name? = if name = ['.', '.'] then none else some name := by
  simp [name?, h, hidle, Option.filter_some]

theorem extension?_eq (h : path.pieces = above ++ [name]) (hidle : isIdle name = false)
    (hname : name ≠ ['.', '.']) : path.extension? = extensionOf? name := by
  rw [extension?, name?_eq h hidle, if_neg hname]
  rfl

theorem withExtension_of_dots (h : path.pieces = above ++ [['.', '.']]) :
    path.withExtension extension = path := by
  have hspan : path.pieces.reverse.span isIdle = ([], ['.', '.'] :: above.reverse) := by
    rw [h, List.reverse_append]
    rfl
  rw [withExtension, hspan]
  rfl

theorem withExtension_of_name (h : path.pieces = above ++ [name]) (hidle : isIdle name = false)
    (hname : name ≠ ['.', '.']) : path.withExtension extension = ofPieces (above ++
      [if stem name = ['.'] then ['.', '.'] else extend name extension]) := by
  have hspan : path.pieces.reverse.span isIdle = ([], name :: above.reverse) := by
    rw [h, List.span_eq_takeWhile_dropWhile]
    simp [hidle]
  rw [withExtension, hspan]
  simp [hname, ofPieces, extend]

end LinkerMap.Path
