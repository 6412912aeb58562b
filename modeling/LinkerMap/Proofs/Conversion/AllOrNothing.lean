import LinkerMap.Conversion
import LinkerMap.Proofs.FileSystem.Writing
import LinkerMap.Proofs.Script.Rendering

/-! # All or nothing

A conversion opens the map, reads it, makes the output and writes the script there. If one of these
steps is refused, the file system is left as it was. If none is, the output holds the script, and
nothing has changed anywhere else.
-/

namespace LinkerMap.Conversion

open FileSystem

variable {fs fs' created : FileSystem} {input output path : Path} {place : Location}
  {cause : Cause} {failure : Failure} {bytes : ByteArray} {sections : Sections}
  {findings : Findings} {out : Output}

/-! ### The steps in a file system -/

theorem run_bind_of {α β : Type} {x : StateM FileSystem α} {f : α → StateM FileSystem β} {a : α}
    (h : x.run fs = (a, fs')) : (x >>= f).run fs = (f a).run fs' := by
  rw [StateT.run_bind, h]
  rfl

theorem run_access_of_ok (h : fs.locate path = .ok place) :
    (disk.access path).run fs = (.ok (), fs) := by
  change ((fs.locate path).map _, fs) = _
  rw [h]
  rfl

theorem run_access_of_error (h : fs.locate path = .error cause) :
    (disk.access path).run fs = (.error cause, fs) := by
  change ((fs.locate path).map _, fs) = _
  rw [h]
  rfl

theorem run_read (fs : FileSystem) (path : Path) : (disk.read path).run fs = (fs.read path, fs) :=
  rfl

theorem run_change_of_ok {action : FileSystem → Except Cause FileSystem}
    (h : action fs = .ok fs') : (change action).run fs = (.ok (), fs') := by
  simp only [change, StateT.run_modifyGet, h]
  rfl

theorem run_change_of_error {action : FileSystem → Except Cause FileSystem}
    (h : action fs = .error cause) : (change action).run fs = (.error cause, fs) := by
  simp only [change, StateT.run_modifyGet, h]
  rfl

theorem run_readMap_of_locate_error (h : fs.locate path = .error cause) :
    (readMap disk path).run fs = (.error ⟨.opening, path, cause⟩, fs) :=
  run_bind_of (run_access_of_error h)

theorem run_readMap_of_locate_ok (h : fs.locate path = .ok place) :
    (readMap disk path).run fs =
      (disk.read path >>= fun
        | .error cause => pure (.error ⟨.reading, path, cause⟩)
        | .ok bytes => pure (.ok (sectionsOfBytes bytes))).run fs :=
  run_bind_of (run_access_of_ok h)

theorem run_readMap_of_load_error (hl : fs.locate path = .ok place)
    (h : fs.load place = .error cause) :
    (readMap disk path).run fs = (.error ⟨.reading, path, cause⟩, fs) := by
  have hr : fs.read path = .error cause := by
    rw [FileSystem.read, hl]
    exact h
  rw [run_readMap_of_locate_ok hl]
  exact run_bind_of ((run_read fs path).trans (congrArg (·, fs) hr))

theorem run_readMap_of_ok (h : fs.read path = .ok bytes) :
    (readMap disk path).run fs = (.ok (sectionsOfBytes bytes), fs) := by
  obtain ⟨place, hl, -⟩ := bind_eq_ok.mp h
  rw [run_readMap_of_locate_ok hl]
  exact run_bind_of ((run_read fs path).trans (congrArg (·, fs) h))

theorem run_writeScript_of_create_error (h : fs.create path = .error cause) :
    (writeScript disk path sections).run fs = (⟨#[], .error ⟨.creating, path, cause⟩⟩, fs) :=
  run_bind_of (run_change_of_error h)

theorem runInto_ofSections (sections : Sections) : ∃ out,
    runInto none (Script.ofSections sections) = .ok (.ofSections sections) out ∧
      out.sink.written.isEmpty = false := by
  obtain ⟨notices, h⟩ := Script.ofSections_unlimited sections
  exact ⟨_, h, Text.isEmpty_toUTF8_unlines_cons _ _⟩

theorem run_writeScript_of_create_ok (hc : fs.create path = .ok created)
    (hs : runInto none (Script.ofSections sections) = .ok findings out) :
    (writeScript disk path sections).run fs =
      (disk.write path out.sink.written >>= fun
        | .ok () => pure ⟨out.notices, .ok findings⟩
        | .error cause =>
          pure ⟨(outputOf (runInto (some bufferSize) (Script.ofSections sections))).notices,
            .error ⟨.writing, path, cause⟩⟩).run created := by
  refine (run_bind_of (run_change_of_ok hc)).trans ?_
  dsimp only
  generalize runInto none (Script.ofSections sections) = result at hs ⊢
  subst hs
  rfl

theorem run_writeScript_of_ok (hc : fs.create path = .ok created)
    (hs : runInto none (Script.ofSections sections) = .ok findings out)
    (h : created.write path out.sink.written = .ok fs') :
    (writeScript disk path sections).run fs = (⟨out.notices, .ok findings⟩, fs') := by
  rw [run_writeScript_of_create_ok hc hs]
  exact run_bind_of (run_change_of_ok h)

/-- A script that is refused leaves what was there before the output was made. -/
theorem run_writeScript_of_write_error (hc : fs.create path = .ok created)
    (hs : runInto none (Script.ofSections sections) = .ok findings out)
    (h : created.write path out.sink.written = .error cause) :
    (writeScript disk path sections).run fs =
      (⟨(outputOf (runInto (some bufferSize) (Script.ofSections sections))).notices,
        .error ⟨.writing, path, cause⟩⟩, fs) := by
  obtain rfl : created = fs := eq_of_write_of_error hc (write_of_write hc _ ▸ h)
  rw [run_writeScript_of_create_ok hc hs]
  exact run_bind_of (run_change_of_error h)

/-! ### The first step that is refused -/

/-- Why a conversion fails: one of its steps is refused and those before it are not. What a step
meets is what the steps before it leave. -/
inductive FirstRefused (fs : FileSystem) (input output : Path) : Failure → Prop
  | opening {cause : Cause} (refused : fs.locate input = .error cause) :
      FirstRefused fs input output ⟨.opening, input, cause⟩
  | reading {place : Location} {cause : Cause} (opened : fs.locate input = .ok place)
      (refused : fs.load place = .error cause) :
      FirstRefused fs input output ⟨.reading, input, cause⟩
  | creating {bytes : ByteArray} {cause : Cause} (read : fs.read input = .ok bytes)
      (refused : fs.create output = .error cause) :
      FirstRefused fs input output ⟨.creating, output, cause⟩
  | writing {bytes : ByteArray} {created : FileSystem} {findings : Findings} {out : Output}
      {cause : Cause} (read : fs.read input = .ok bytes) (made : fs.create output = .ok created)
      (script : runInto none (Script.ofSections (sectionsOfBytes bytes)) = .ok findings out)
      (refused : created.write output out.sink.written = .error cause) :
      FirstRefused fs input output ⟨.writing, output, cause⟩

theorem run_convert_of_firstRefused (h : FirstRefused fs input output failure) :
    (convert disk input output).run fs = (.error failure, fs) := by
  cases h with
  | opening refused => exact run_bind_of (run_readMap_of_locate_error refused)
  | reading opened refused => exact run_bind_of (run_readMap_of_load_error opened refused)
  | creating read refused =>
    rw [convert, run_bind_of (run_readMap_of_ok read)]
    exact run_bind_of (run_writeScript_of_create_error refused)
  | writing read made script refused =>
    rw [convert, run_bind_of (run_readMap_of_ok read)]
    exact run_bind_of (run_writeScript_of_write_error made script refused)

theorem run_convert_of_written (read : fs.read input = .ok bytes)
    (made : fs.create output = .ok created)
    (script : runInto none (Script.ofSections (sectionsOfBytes bytes)) = .ok findings out)
    (written : created.write output out.sink.written = .ok fs') :
    (convert disk input output).run fs = (.ok ⟨(sectionsOfBytes bytes).size, findings⟩, fs') := by
  rw [convert, run_bind_of (run_readMap_of_ok read)]
  exact run_bind_of (run_writeScript_of_ok made script written)

theorem exists_run_convert_of_isWritable (read : fs.read input = .ok bytes)
    (writable : fs.IsWritable output) :
    ∃ report fs', (convert disk input output).run fs = (.ok report, fs') := by
  obtain ⟨out, script, -⟩ := runInto_ofSections (sectionsOfBytes bytes)
  obtain ⟨created, fs', made, written⟩ := writable.exists_create_write out.sink.written
  exact ⟨_, fs', run_convert_of_written read made script written⟩

theorem firstRefused_or_written (fs : FileSystem) (input output : Path) :
    (∃ failure, FirstRefused fs input output failure) ∨
      ∃ bytes created findings out fs', fs.read input = .ok bytes ∧
        fs.create output = .ok created ∧
        runInto none (Script.ofSections (sectionsOfBytes bytes)) = .ok findings out ∧
        out.sink.written.isEmpty = false ∧ created.write output out.sink.written = .ok fs' := by
  cases hl : fs.locate input with
  | error cause => exact .inl ⟨_, .opening hl⟩
  | ok place =>
    cases hr : fs.load place with
    | error cause => exact .inl ⟨_, .reading hl hr⟩
    | ok bytes =>
      have read : fs.read input = .ok bytes := bind_eq_ok.mpr ⟨place, hl, hr⟩
      obtain ⟨out, script, hne⟩ := runInto_ofSections (sectionsOfBytes bytes)
      cases hc : fs.create output with
      | error cause => exact .inl ⟨_, .creating read hc⟩
      | ok created =>
        cases hw : created.write output out.sink.written with
        | error cause => exact .inl ⟨_, .writing read hc script hw⟩
        | ok fs' => exact .inr ⟨bytes, created, _, out, fs', read, rfl, script, hne, hw⟩

def refusal (input output : Path) : Step → String
  | .opening => "Failed to open file: " ++ input.text
  | .reading => "Failed to read file: " ++ input.text
  | .creating => "Failed to create file: " ++ output.text
  | .writing => "Failed to write file: " ++ output.text

theorem FirstRefused.message (h : FirstRefused fs input output failure) :
    failure.message = refusal input output failure.step := by
  cases h <;> rfl

/-- In any file system and for any two paths, a conversion does all of its work or none. It fails
with the first step that is refused, and then has changed nothing. Otherwise the output leads to a
file with the octets of the script, or to the null device, the script is that of the map as it was
in the beginning, and all other places are as they were. -/
theorem convert_allOrNothing (fs : FileSystem) (input output : Path) :
    (∃ failure,
      (convert FileSystem.disk input output).run fs = (.error failure, fs) ∧
      (∀ failure', FirstRefused fs input output failure' ↔ failure' = failure) ∧
      failure.message = refusal input output failure.step) ∨
    ∃ bytes findings out place fs',
      (convert FileSystem.disk input output).run fs =
        (.ok ⟨(sectionsOfBytes bytes).size, findings⟩, fs') ∧
      (∀ failure, ¬ FirstRefused fs input output failure) ∧
      fs.read input = .ok bytes ∧
      runInto none (Script.ofSections (sectionsOfBytes bytes)) = .ok findings out ∧
      fs.target output = .ok place ∧ fs.Filled place out.sink.written fs' ∧
      fs'.locate output = .ok place := by
  rcases firstRefused_or_written fs input output with
    ⟨failure, h⟩ | ⟨bytes, created, findings, out, fs', read, made, script, hne, written⟩
  · have hrun := run_convert_of_firstRefused h
    refine .inl ⟨failure, hrun, fun failure' => ⟨fun h' => ?_, fun he => he ▸ h⟩, h.message⟩
    have := hrun.symm.trans (run_convert_of_firstRefused h')
    exact (Except.error.inj (Prod.mk.inj this).1).symm
  · have hrun := run_convert_of_written read made script written
    have hw : fs.write output out.sink.written = .ok fs' := write_of_write made _ ▸ written
    obtain ⟨place, htarget, hfilled, hlocate⟩ := filled_of_write hne hw
    refine .inr ⟨bytes, findings, out, place, fs', hrun, fun failure h => ?_, read, script, htarget,
      hfilled, hlocate⟩
    cases hrun.symm.trans (run_convert_of_firstRefused h)

end LinkerMap.Conversion
