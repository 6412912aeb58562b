import LinkerMap.Proofs.FileSystem.Writing
import LinkerMap.Proofs.Path.Extension

/-! # Neighbours

What can be read is at a path that ends in a name. Two such paths that differ in nothing but the
name lead to two places in one directory, and what is written at one of them is read there and not
at the other.
-/

namespace LinkerMap.FileSystem

open LinkerMap.Path

variable {fs fs' : FileSystem} {path path' : Path} {place place' directory start : Location}
  {above : List (List Char)} {name name' : List Char} {content : ByteArray}

theorem load_eq_ok : fs.load place = .ok content ↔
    fs.node? place = some (.file content) ∨ fs.node? place = some .null ∧ content = .empty := by
  unfold load
  constructor
  · intro h
    split at h
    next old hn => exact .inl (Except.ok.inj h ▸ hn)
    next hn => exact .inr ⟨hn, (Except.ok.inj h).symm⟩
    all_goals cases h
  · rintro (hn | ⟨hn, rfl⟩) <;> rw [hn]

theorem read_eq_ok : fs.read path = .ok content ↔
    ∃ place, fs.locate path = .ok place ∧ fs.load place = .ok content :=
  bind_eq_ok

theorem not_directory_of_load (h : fs.load place = .ok content) :
    fs.node? place ≠ some .directory := by
  rcases load_eq_ok.mp h with hn | ⟨hn, -⟩ <;> rw [hn] <;> nofun

theorem start_of_origin (h : fs.origin path = .ok start) :
    start = if path.isAbsolute then [] else fs.working := by
  unfold origin at h
  split at h
  · cases h
  split at h
  · cases h
  split at h
  · cases h
  split at h
  · rw [if_pos ‹_›]
    exact (Except.ok.inj h).symm
  · rw [if_neg ‹_›]
    exact (Except.ok.inj h).symm

theorem text_ne_empty_of_origin (h : fs.origin path = .ok start) : path.text ≠ "" := by
  intro he
  rw [origin, he] at h
  cases h

theorem child_eq_ok (hdot : name ≠ ['.']) (hdots : name ≠ ['.', '.'])
    (h : child directory (String.ofList name) = .ok place) :
    place = directory ++ [String.ofList name] := by
  have hdot' : String.ofList name ≠ "." := fun he => hdot (String.ofList_injective he)
  have hdots' : String.ofList name ≠ ".." := fun he => hdots (String.ofList_injective he)
  rw [child, if_neg hdot', if_neg hdots'] at h
  split at h
  · cases h
  · exact (Except.ok.inj h).symm

/-! ### Paths that can be read -/

/-- What can be read is at a path that has neither a slash nor a dot behind its name. -/
theorem exists_pieces_of_read (h : fs.read path = .ok content) :
    ∃ above name, path.pieces = above ++ [name] ∧ isIdle name = false := by
  obtain ⟨place, hl, hload⟩ := read_eq_ok.mp h
  have hn := not_directory_of_load hload
  obtain ⟨start, ho, hw, hslash⟩ := locate_eq_ok.mp hl
  obtain ⟨above, name, hp⟩ : ∃ above name, path.pieces = above ++ [name] :=
    ⟨_, _, (List.dropLast_append_getLast path.pieces_ne_nil).symm⟩
  refine ⟨above, name, hp, Bool.eq_false_iff.mpr fun hidle => ?_⟩
  rcases Bool.or_eq_true_iff.mp hidle with hempty | hdot
  · obtain rfl := List.isEmpty_iff.mp hempty
    have habove : above ≠ [] := by
      rintro rfl
      have htext := toList_text hp
      exact text_ne_empty_of_origin ho (String.toList_eq_nil_iff.mp htext)
    exact hn (hslash (endsInSlash_of_nil hp habove))
  · obtain rfl := eq_of_beq hdot
    rw [components_eq hp (by simp), walk_concat_eq_ok] at hw
    obtain ⟨next, -, hd, hc, -⟩ := hw
    obtain rfl := Except.ok.inj hc
    exact hn hd

/-- The directory that the pieces in front of a name lead to. -/
def enter (fs : FileSystem) (above : List (List Char)) : Except Cause Location :=
  fs.walk (if (lead above).head? == some '/' then [] else fs.working)
    ((above.filter (!·.isEmpty)).map String.ofList)

theorem place_of_locate (hp : path.pieces = above ++ [name]) (hidle : isIdle name = false)
    (hname : name ≠ ['.', '.']) (h : fs.locate path = .ok place) :
    ∃ directory, fs.enter above = .ok directory ∧ place = directory ++ [String.ofList name] := by
  obtain ⟨hne, hdot⟩ := Bool.or_eq_false_iff.mp hidle
  obtain ⟨start, ho, hw, -⟩ := locate_eq_ok.mp h
  rw [components_eq hp (by simpa using hne), walk_concat_eq_ok] at hw
  obtain ⟨directory, hw, -, hc, -⟩ := hw
  rw [start_of_origin ho, isAbsolute_eq hp] at hw
  exact ⟨directory, hw, child_eq_ok (by simpa using hdot) hname hc⟩

theorem place_of_target (hp : path.pieces = above ++ [name]) (hne : name ≠ [])
    (h : fs.target path = .ok place) :
    (name ≠ ['.'] ∧ name ≠ ['.', '.']) ∧
    ∃ directory, fs.enter above = .ok directory ∧ place = directory ++ [String.ofList name] := by
  obtain ⟨start, directory, names, last, hcomponents, hs, ho, hw, -, hc⟩ := target_eq_ok.mp h
  rw [components_eq hp hne] at hcomponents
  obtain ⟨rfl, hlast⟩ := List.append_inj' hcomponents rfl
  obtain rfl := List.singleton_inj.mp hlast
  rw [start_of_origin ho, isAbsolute_eq hp] at hw
  have hnames : name ≠ ['.'] ∧ name ≠ ['.', '.'] := by
    constructor <;> rintro rfl <;> simp at hs
  exact ⟨hnames, directory, hw, child_eq_ok hnames.1 hnames.2 hc⟩

theorem ne_of_name_ne (hp : path.pieces = above ++ [name]) (hidle : isIdle name = false)
    (hname : name ≠ ['.', '.']) (hl : fs.locate path = .ok place)
    (hp' : path'.pieces = above ++ [name']) (hne' : name' ≠ [])
    (ht : fs.target path' = .ok place') (hne : name ≠ name') : place ≠ place' := by
  obtain ⟨directory, hw, rfl⟩ := place_of_locate hp hidle hname hl
  obtain ⟨-, directory', hw', rfl⟩ := place_of_target hp' hne' ht
  obtain rfl := Except.ok.inj (hw.symm.trans hw')
  intro he
  have hlast := List.singleton_inj.mp (List.append_cancel_left he)
  exact hne (String.ofList_injective hlast)

/-! ### Reading beside what is written -/

theorem read_of_write_elsewhere (hc : content.isEmpty = false)
    (hw : fs.write path' content = .ok fs') (ht : fs.target path' = .ok place')
    (hl : fs.locate path = .ok place) (hne : place ≠ place') : fs'.read path = fs.read path := by
  obtain ⟨place'', ht', hs⟩ := write_eq_ok.mp hw
  obtain rfl := Except.ok.inj (ht.symm.trans ht')
  have hload : fs'.load place = fs.load place := by
    rw [load, load, (filled_of_store hc hs).elsewhere place hne]
  rw [FileSystem.read, FileSystem.read, hl, (keeps_of_store hs).locate hl]
  exact hload

theorem read_of_write_here {old : ByteArray} (hc : content.isEmpty = false)
    (hw : fs.write path content = .ok fs') (hl : fs.locate path = .ok place)
    (hn : fs.node? place = some (.file old)) : fs'.read path = .ok content := by
  obtain ⟨place', ht, hs⟩ := write_eq_ok.mp hw
  obtain ⟨place'', ht', hfilled, hl'⟩ := filled_of_write hc hw
  have hl'' := (keeps_of_store hs).locate hl
  obtain rfl := Except.ok.inj (hl'.symm.trans hl'')
  have hhere := hfilled.here
  rw [hn] at hhere
  exact read_eq_ok.mpr ⟨place'', hl', load_eq_ok.mpr (.inl hhere)⟩

end LinkerMap.FileSystem
