import LinkerMap.FileSystem

/-! # Writing in two steps

Making a file and then filling it comes to writing it at once. The file that is made leaves every
way through the tree open, so that the second step finds the place of the first, and nothing changes
anywhere else.
-/

namespace LinkerMap.FileSystem

variable {fs fs' : FileSystem} {path : Path} {place location next : Location}
  {content content' : ByteArray} {cause : Cause}

theorem bind_eq_ok {α β : Type} {x : Except Cause α} {f : α → Except Cause β} {b : β} :
    x >>= f = .ok b ↔ ∃ a, x = .ok a ∧ f a = .ok b := by
  cases x with
  | error => exact ⟨nofun, nofun⟩
  | ok a => exact ⟨fun h => ⟨a, rfl, h⟩, by rintro ⟨_, ⟨⟩, h⟩; exact h⟩

@[simp] theorem node?_set_self (fs : FileSystem) (place : Location) (node : Node) :
    (fs.set place node).node? place = some node :=
  if_pos rfl

theorem node?_set_of_ne (fs : FileSystem) (node : Node) (h : location ≠ place) :
    (fs.set place node).node? location = fs.node? location :=
  if_neg h

@[simp] theorem set_set (fs : FileSystem) (place : Location) (node node' : Node) :
    (fs.set place node).set place node' = fs.set place node' := by
  simp only [set]
  congr
  funext l
  split <;> rfl

/-! ### Ways that stay open -/

/-- What is there in one file system is there in another, and a directory is still one. -/
structure Keeps (fs fs' : FileSystem) : Prop where
  working : fs'.working = fs.working
  entry : ∀ {l}, (fs.node? l).isSome → (fs'.node? l).isSome
  directory : ∀ {l}, fs.node? l = some .directory → fs'.node? l = some .directory

theorem keeps_set (h : fs.node? place ≠ some .directory) (node : Node) :
    fs.Keeps (fs.set place node) where
  working := rfl
  entry {l} hl := by
    by_cases hp : l = place
    · rw [hp, node?_set_self]; rfl
    · rwa [node?_set_of_ne fs node hp]
  directory {l} hl := by
    have hp : l ≠ place := by rintro rfl; exact h hl
    rwa [node?_set_of_ne fs node hp]

theorem checkDirectory_eq_ok : fs.checkDirectory location = .ok next ↔
    fs.node? location = some .directory ∧ next = location := by
  unfold checkDirectory
  constructor
  · intro h
    split at h
    · cases h; exact ⟨‹_›, rfl⟩
    · cases h
    · cases h
  · rintro ⟨hd, rfl⟩
    rw [hd]

theorem walk_cons_eq_ok {component : String} {components : List String} :
    fs.walk location (component :: components) = .ok place ↔
      ∃ next, fs.node? location = some .directory ∧ child location component = .ok next ∧
        (fs.node? next).isSome ∧ fs.walk next components = .ok place := by
  simp only [walk, bind_eq_ok, checkDirectory_eq_ok]
  constructor
  · rintro ⟨_, ⟨hd, rfl⟩, next, hc, h⟩
    split at h
    · exact ⟨next, hd, hc, by simp_all, h⟩
    · cases h
  · rintro ⟨next, hd, hc, hn, h⟩
    obtain ⟨node, hn⟩ := Option.isSome_iff_exists.mp hn
    exact ⟨location, ⟨hd, rfl⟩, next, hc, by rwa [hn]⟩

theorem Keeps.walk (k : fs.Keeps fs') {components : List String}
    (h : fs.walk location components = .ok place) : fs'.walk location components = .ok place := by
  induction components generalizing location with
  | nil => exact h
  | cons component components ih =>
    obtain ⟨next, hd, hc, hn, h⟩ := walk_cons_eq_ok.mp h
    exact walk_cons_eq_ok.mpr ⟨next, k.directory hd, hc, k.entry hn, ih h⟩

theorem walk_concat_eq_ok {component : String} {components : List String} :
    fs.walk location (components ++ [component]) = .ok place ↔
      ∃ above, fs.walk location components = .ok above ∧ fs.node? above = some .directory ∧
        child above component = .ok place ∧ (fs.node? place).isSome := by
  induction components generalizing location with
  | nil =>
    rw [List.nil_append, walk_cons_eq_ok]
    constructor
    · rintro ⟨next, hd, hc, hn, ⟨⟩⟩
      exact ⟨location, rfl, hd, hc, hn⟩
    · rintro ⟨above, ⟨⟩, hd, hc, hn⟩
      exact ⟨place, hd, hc, hn, rfl⟩
  | cons first components ih =>
    rw [List.cons_append, walk_cons_eq_ok]
    simp only [ih, walk_cons_eq_ok]
    constructor
    · rintro ⟨next, hd, hc, hn, above, hw, h⟩
      exact ⟨above, ⟨next, hd, hc, hn, hw⟩, h⟩
    · rintro ⟨above, ⟨next, hd, hc, hn, hw⟩, h⟩
      exact ⟨next, hd, hc, hn, above, hw, h⟩

theorem Keeps.origin (k : fs.Keeps fs') (path : Path) : fs'.origin path = fs.origin path := by
  simp only [FileSystem.origin, k.working]

theorem target_eq_ok : fs.target path = .ok place ↔
    ∃ start above names name, path.components = names ++ [name] ∧
      (path.endsInSlash || name == "." || name == "..") = false ∧ fs.origin path = .ok start ∧
      fs.walk start names = .ok above ∧ fs.node? above = some .directory ∧
      child above name = .ok place := by
  simp only [target, bind_eq_ok, checkDirectory_eq_ok]
  constructor
  · rintro ⟨start, ho, above, hw, _, ⟨hd, rfl⟩, h⟩
    split at h
    next => cases h
    next name hl =>
      obtain ⟨names, hn⟩ := List.getLast?_eq_some_iff.mp hl
      rw [hn, List.dropLast_concat] at hw
      split at h
      · cases h
      · exact ⟨start, _, names, name, hn, Bool.eq_false_iff.mpr ‹_›, ho, hw, hd, h⟩
  · rintro ⟨start, above, names, name, hn, hs, ho, hw, hd, h⟩
    refine ⟨start, ho, above, by rwa [hn, List.dropLast_concat], above, ⟨hd, rfl⟩, ?_⟩
    rw [hn, List.getLast?_concat]
    exact (if_neg (Bool.eq_false_iff.mp hs)).trans h

theorem Keeps.target (k : fs.Keeps fs') (h : fs.target path = .ok place) :
    fs'.target path = .ok place := by
  obtain ⟨start, above, names, name, hn, hs, ho, hw, hd, hc⟩ := target_eq_ok.mp h
  exact target_eq_ok.mpr ⟨start, above, names, name, hn, hs, (k.origin path).trans ho, k.walk hw,
    k.directory hd, hc⟩

theorem locate_eq_ok : fs.locate path = .ok place ↔
    ∃ start, fs.origin path = .ok start ∧ fs.walk start path.components = .ok place ∧
      (path.endsInSlash = true → fs.node? place = some .directory) := by
  simp only [locate, bind_eq_ok]
  constructor
  · rintro ⟨start, ho, l, hw, h⟩
    split at h
    · obtain ⟨hd, rfl⟩ := checkDirectory_eq_ok.mp h
      exact ⟨start, ho, hw, fun _ => hd⟩
    · obtain rfl := Except.ok.inj h
      exact ⟨start, ho, hw, fun hs => absurd hs ‹_›⟩
  · rintro ⟨start, ho, hw, hd⟩
    refine ⟨start, ho, place, hw, ?_⟩
    split
    · exact checkDirectory_eq_ok.mpr ⟨hd ‹_›, rfl⟩
    · rfl

theorem Keeps.locate (k : fs.Keeps fs') (h : fs.locate path = .ok place) :
    fs'.locate path = .ok place := by
  obtain ⟨start, ho, hw, hd⟩ := locate_eq_ok.mp h
  exact locate_eq_ok.mpr ⟨start, (k.origin path).trans ho, k.walk hw, fun hs => k.directory (hd hs)⟩

/-- A path leads to its own target once there is something. -/
theorem locate_of_target (h : fs.target path = .ok place) (hp : (fs.node? place).isSome) :
    fs.locate path = .ok place := by
  obtain ⟨start, above, names, name, hn, hs, ho, hw, hd, hc⟩ := target_eq_ok.mp h
  rw [Bool.or_assoc, Bool.or_eq_false_iff] at hs
  refine locate_eq_ok.mpr ⟨start, ho, ?_, fun hslash => absurd hslash (by rw [hs.1]; nofun)⟩
  rw [hn]
  exact walk_concat_eq_ok.mpr ⟨above, hw, hd, hc, hp⟩

/-! ### Writing at a place -/

/-- Where octets can be written there is nothing, a file, or a device. A device stays as it is. -/
theorem store_cases (h : fs.store place content = .ok fs') :
    (fs.node? place = none ∨ ∃ old, fs.node? place = some (.file old)) ∧
        fs' = fs.set place (.file content) ∨
      fs.node? place = some .null ∧ fs' = fs ∨
      fs.node? place = some .full ∧ content.isEmpty ∧ fs' = fs := by
  unfold store at h
  split at h
  next hn => exact .inl ⟨.inl hn, (Except.ok.inj h).symm⟩
  next old hn => exact .inl ⟨.inr ⟨old, hn⟩, (Except.ok.inj h).symm⟩
  next hn => exact .inr (.inl ⟨hn, (Except.ok.inj h).symm⟩)
  next hn =>
    split at h
    · exact .inr (.inr ⟨hn, ‹_›, (Except.ok.inj h).symm⟩)
    · cases h
  next => cases h

theorem keeps_of_store (h : fs.store place content = .ok fs') : fs.Keeps fs' := by
  obtain ⟨hn, rfl⟩ | ⟨-, rfl⟩ | ⟨-, -, rfl⟩ := store_cases h
  · refine keeps_set ?_ _
    rcases hn with hn | ⟨old, hn⟩ <;> rw [hn] <;> nofun
  · exact ⟨rfl, id, id⟩
  · exact ⟨rfl, id, id⟩

theorem store_of_store (h : fs.store place content = .ok fs') (content' : ByteArray) :
    fs'.store place content' = fs.store place content' := by
  obtain ⟨hn, rfl⟩ | ⟨-, rfl⟩ | ⟨-, -, rfl⟩ := store_cases h
  · rw [store, node?_set_self, set_set]
    rcases hn with hn | ⟨old, hn⟩ <;> rw [store, hn]
  · rfl
  · rfl

theorem eq_of_store_of_error (h : fs.store place content = .ok fs')
    (he : fs.store place content' = .error cause) : fs' = fs := by
  obtain ⟨hn, -⟩ | ⟨-, rfl⟩ | ⟨-, -, rfl⟩ := store_cases h
  · rcases hn with hn | ⟨old, hn⟩ <;> rw [store, hn] at he <;> cases he
  · rfl
  · rfl

/-- That octets are written at a place, and nothing is changed anywhere else. The null device takes
them and stays as it is; directories and the full device take none. -/
structure Filled (fs : FileSystem) (place : Location) (content : ByteArray) (fs' : FileSystem) :
    Prop where
  here : match fs.node? place with
    | none | some (.file _) => fs'.node? place = some (.file content)
    | some .null => fs'.node? place = some .null
    | some .directory | some .full => False
  elsewhere : ∀ location, location ≠ place → fs'.node? location = fs.node? location
  working : fs'.working = fs.working

theorem filled_of_store (hc : content.isEmpty = false) (h : fs.store place content = .ok fs') :
    fs.Filled place content fs' := by
  obtain ⟨hn, rfl⟩ | ⟨hn, rfl⟩ | ⟨-, he, -⟩ := store_cases h
  · refine ⟨?_, fun _ => node?_set_of_ne fs _, rfl⟩
    rcases hn with hn | ⟨old, hn⟩ <;> rw [hn] <;> exact node?_set_self ..
  · exact ⟨by rw [hn], fun _ _ => rfl, rfl⟩
  · rw [he] at hc
    cases hc

theorem Filled.isSome (h : fs.Filled place content fs') : (fs'.node? place).isSome := by
  have hhere := h.here
  split at hhere <;> simp_all

theorem Filled.eq_of_file (h : fs.Filled place content fs')
    (hf : fs'.node? place = some (.file content')) : content' = content := by
  have hhere := h.here
  split at hhere
  · exact Node.file.inj (Option.some.inj (hf.symm.trans hhere))
  · exact Node.file.inj (Option.some.inj (hf.symm.trans hhere))
  · cases hf.symm.trans hhere
  · exact hhere.elim
  · exact hhere.elim

/-! ### Writing at a path -/

/-- Whether any octets can be written at a path. -/
def IsWritable (fs : FileSystem) (path : Path) : Prop :=
  ∀ content, ∃ fs', fs.write path content = .ok fs'

theorem write_eq_ok : fs.write path content = .ok fs' ↔
    ∃ place, fs.target path = .ok place ∧ fs.store place content = .ok fs' :=
  bind_eq_ok

theorem write_eq_store (h : fs.target path = .ok place) (content : ByteArray) :
    fs.write path content = fs.store place content := by
  rw [write, h]
  rfl

theorem write_of_write (h : fs.write path content = .ok fs') (content' : ByteArray) :
    fs'.write path content' = fs.write path content' := by
  obtain ⟨place, ht, hs⟩ := write_eq_ok.mp h
  rw [write_eq_store ht, write_eq_store ((keeps_of_store hs).target ht), store_of_store hs]

theorem IsWritable.exists_create_write (h : fs.IsWritable path) (content : ByteArray) :
    ∃ created fs', fs.create path = .ok created ∧ created.write path content = .ok fs' := by
  obtain ⟨created, made⟩ := h .empty
  obtain ⟨fs', written⟩ := h content
  exact ⟨created, fs', made, (write_of_write made content).trans written⟩

theorem eq_of_write_of_error (h : fs.write path content = .ok fs')
    (he : fs.write path content' = .error cause) : fs' = fs := by
  obtain ⟨place, ht, hs⟩ := write_eq_ok.mp h
  exact eq_of_store_of_error hs (write_eq_store ht _ ▸ he)

theorem filled_of_write (hc : content.isEmpty = false) (h : fs.write path content = .ok fs') :
    ∃ place, fs.target path = .ok place ∧ fs.Filled place content fs' ∧
      fs'.locate path = .ok place := by
  obtain ⟨place, ht, hs⟩ := write_eq_ok.mp h
  have hf := filled_of_store hc hs
  exact ⟨place, ht, hf, locate_of_target ((keeps_of_store hs).target ht) hf.isSome⟩

end LinkerMap.FileSystem
