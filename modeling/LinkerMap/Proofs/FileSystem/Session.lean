import LinkerMap.Proofs.FileSystem.Writing

/-! # Sessions

Whatever files are written and whatever directories are made in a session, the null device is where
it is in the beginning, and nowhere else.
-/

namespace LinkerMap.FileSystem

variable {fs fs' : FileSystem} {path : Path} {place : Location} {content : ByteArray}

/-- The file systems of a session, which begins in an empty directory, writes files and makes
directories. -/
inductive IsSession : FileSystem → Prop where
  | initial : IsSession initial
  | write {fs fs' : FileSystem} {path : Path} {content : ByteArray} :
    IsSession fs → fs.write path content = .ok fs' → IsSession fs'
  | makeDirectory {fs fs' : FileSystem} {path : Path} :
    IsSession fs → fs.makeDirectory path = .ok fs' → IsSession fs'

theorem makeDirectory_cases (h : fs.makeDirectory path = .ok fs') :
    fs' = fs ∨ ∃ place, fs' = fs.set place .directory := by
  obtain ⟨start, -, h⟩ := bind_eq_ok.mp h
  obtain ⟨above, -, h⟩ := bind_eq_ok.mp h
  split at h
  · exact .inl (Except.ok.inj h).symm
  · obtain ⟨place, -, h⟩ := bind_eq_ok.mp h
    split at h
    · exact .inr ⟨place, (Except.ok.inj h).symm⟩
    · exact .inl (Except.ok.inj h).symm

theorem null_initial (h : initial.node? place = some .null) : place = ["dev", "null"] := by
  unfold initial at h
  dsimp only at h
  split at h <;> first | rfl | cases h

theorem null_set {node : Node} {place' : Location} (hnode : node ≠ .null)
    (h : (fs.set place' node).node? place = some .null) : fs.node? place = some .null := by
  by_cases hp : place = place'
  · rw [hp, node?_set_self] at h
    exact absurd (Option.some.inj h) hnode
  · rwa [node?_set_of_ne fs node hp] at h

theorem IsSession.null_eq (hfs : fs.IsSession) (h : fs.node? place = some .null) :
    place = ["dev", "null"] := by
  induction hfs with
  | initial => exact null_initial h
  | write _ hw ih =>
    obtain ⟨place', -, hs⟩ := write_eq_ok.mp hw
    obtain ⟨-, rfl⟩ | ⟨-, rfl⟩ | ⟨-, -, rfl⟩ := store_cases hs
    · refine ih (null_set ?_ h)
      nofun
    · exact ih h
    · exact ih h
  | makeDirectory _ hd ih =>
    obtain rfl | ⟨place', rfl⟩ := makeDirectory_cases hd
    · exact ih h
    · refine ih (null_set ?_ h)
      nofun

end LinkerMap.FileSystem
