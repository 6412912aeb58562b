import LinkerMap.Proofs.Command.Agreement
import LinkerMap.Proofs.Conversion.AllOrNothing
import LinkerMap.Proofs.FileSystem.Neighbours
import LinkerMap.Proofs.FileSystem.Session

/-! # The default output

A map is converted to a script beside it, unless another place is given. The map itself stays what
it is, unless it has the extension of a script: then the script takes its place.
-/

namespace LinkerMap.Conversion

open FileSystem LinkerMap.Path

variable {fs fs' : FileSystem} {path : Path} {place : Location} {above : List (List Char)}
  {name : List Char} {bytes content : ByteArray}

/-! ### Where the default output is -/

theorem defaultOutput_eq (hp : path.pieces = above ++ [name]) (hidle : isIdle name = false)
    (ht : fs.target (defaultOutput path) = .ok place) :
    name ≠ ['.', '.'] ∧ defaultOutput path = ofPieces (above ++ [extend name "idc"]) := by
  have hdots : ∀ {path' : Path}, path'.pieces = above ++ [['.', '.']] →
      fs.target path' ≠ .ok place :=
    fun hp' ht' => (place_of_target hp' (by simp) ht').1.2 rfl
  by_cases hname : name = ['.', '.']
  · rw [hname] at hp
    rw [defaultOutput, withExtension_of_dots hp] at ht
    exact absurd ht (hdots hp)
  refine ⟨hname, ?_⟩
  rw [defaultOutput, withExtension_of_name hp hidle hname] at ht ⊢
  by_cases hstem : stem name = ['.']
  · rw [if_pos hstem] at ht
    exact absurd ht (hdots (pieces_exchange hp (by decide)))
  · rw [if_neg hstem]

/-- A map without the extension of a script is not where its script is. -/
theorem ne_place_of_defaultOutput {place' : Location} (hp : path.pieces = above ++ [name])
    (hidle : isIdle name = false) (hl : fs.locate path = .ok place)
    (ht : fs.target (defaultOutput path) = .ok place') (he : path.extension? ≠ some "idc") :
    place ≠ place' := by
  obtain ⟨hname, hout⟩ := defaultOutput_eq hp hidle ht
  have hne : name ≠ [] := by rintro rfl; cases hidle
  rw [extension?_eq hp hidle hname, Ne, ← extend_eq_self_iff hne (by decide)] at he
  have hm : name ∈ path.pieces := by simp [hp]
  have hslash : '/' ∉ extend name "idc" :=
    slash_not_mem_extend (slash_not_mem_of_mem_pieces hm) (by decide)
  have hp' := pieces_exchange hp hslash
  rw [hout] at ht
  exact ne_of_name_ne hp hidle hname hl hp' (by simp [extend]) ht (Ne.symm he)

theorem defaultOutput_eq_self (hp : path.pieces = above ++ [name]) (hidle : isIdle name = false)
    (ht : fs.target (defaultOutput path) = .ok place) (he : path.extension? = some "idc") :
    defaultOutput path = path := by
  obtain ⟨hname, hout⟩ := defaultOutput_eq hp hidle ht
  have hne : name ≠ [] := by rintro rfl; cases hidle
  rw [extension?_eq hp hidle hname, ← extend_eq_self_iff hne (by decide)] at he
  rw [hout, he, ← hp, ofPieces_pieces]

/-! ### Conversions to the default output -/

theorem run_convert_cases (fs : FileSystem) (input output : Path) :
    (∃ failure, (convert FileSystem.disk input output).run fs = (.error failure, fs)) ∨
    ∃ bytes findings out fs', (convert FileSystem.disk input output).run fs =
        (.ok ⟨(sectionsOfBytes bytes).size, findings⟩, fs') ∧
      fs.read input = .ok bytes ∧
      runInto none (Script.ofSections (sectionsOfBytes bytes)) = .ok findings out ∧
      out.sink.written.isEmpty = false ∧ fs.write output out.sink.written = .ok fs' := by
  rcases firstRefused_or_written fs input output with
    ⟨failure, h⟩ | ⟨bytes, created, findings, out, fs', read, made, script, hne, written⟩
  · exact .inl ⟨failure, run_convert_of_firstRefused h⟩
  · exact .inr ⟨bytes, findings, out, fs', run_convert_of_written read made script written, read,
      script, hne, (write_of_write made _).symm.trans written⟩

theorem read_of_defaultOutput_elsewhere (read : fs.read path = .ok bytes)
    (hc : content.isEmpty = false) (written : fs.write (defaultOutput path) content = .ok fs')
    (he : path.extension? ≠ some "idc") : fs'.read path = fs.read path := by
  obtain ⟨above, name, hp, hidle⟩ := exists_pieces_of_read read
  obtain ⟨place, hl, -⟩ := read_eq_ok.mp read
  obtain ⟨place', ht, -⟩ := write_eq_ok.mp written
  exact read_of_write_elsewhere hc written ht hl (ne_place_of_defaultOutput hp hidle hl ht he)

theorem file_of_extension (hfs : fs.IsSession) (hp : path.pieces = above ++ [name])
    (hidle : isIdle name = false) (hname : name ≠ ['.', '.']) (hl : fs.locate path = .ok place)
    (hload : fs.load place = .ok bytes) (he : path.extension? = some "idc") :
    fs.node? place = some (.file bytes) := by
  rcases load_eq_ok.mp hload with hn | ⟨hn, -⟩
  · exact hn
  obtain ⟨directory, -, rfl⟩ := place_of_locate hp hidle hname hl
  have hplace : directory ++ [String.ofList name] = ["dev"] ++ ["null"] := hfs.null_eq hn
  have hlast := List.singleton_inj.mp (List.append_inj' hplace rfl).2
  have hnull : name = "null".toList := by rw [← hlast, String.toList_ofList]
  rw [extension?_eq hp hidle hname, extensionOf?_eq_some_iff] at he
  obtain ⟨front, -, -, hsplit⟩ := he
  have hdot : '.' ∈ name := hsplit ▸ List.mem_append_right _ List.mem_cons_self
  rw [hnull] at hdot
  exact absurd hdot (by decide)

theorem read_of_defaultOutput_here (hfs : fs.IsSession) (read : fs.read path = .ok bytes)
    (hc : content.isEmpty = false) (written : fs.write (defaultOutput path) content = .ok fs')
    (he : path.extension? = some "idc") : fs'.read path = .ok content := by
  obtain ⟨above, name, hp, hidle⟩ := exists_pieces_of_read read
  obtain ⟨place, hl, hload⟩ := read_eq_ok.mp read
  obtain ⟨place', ht, -⟩ := write_eq_ok.mp written
  obtain ⟨hname, -⟩ := defaultOutput_eq hp hidle ht
  rw [defaultOutput_eq_self hp hidle ht he] at written
  exact read_of_write_here hc written hl (file_of_extension hfs hp hidle hname hl hload he)

theorem run_default_eq_convert {arguments : List String} {options : Command.Options}
    (parsed : Command.parse arguments = .ok options) (input : options.input = path)
    (unnamed : options.output? = none) (spec? : Option String) (fs : FileSystem) :
    let converted := (convert FileSystem.disk path (defaultOutput path)).run fs
    let ran := (Command.run FileSystem.disk arguments spec?).run fs
    ran.2 = converted.2 ∧ ran.1.exitCode = if converted.1.isOk then 0 else 1 := by
  have output : options.output = defaultOutput path := by
    rw [Command.Options.output, unnamed, input]
    rfl
  obtain ⟨filter, complaints, hrun⟩ := Command.run_eq_map_course FileSystem.disk parsed spec?
  rw [hrun, convert_eq_map_course, input, output]
  simp only [StateT.run_map]
  exact ⟨rfl, Command.exitCode_outcome options filter _⟩

/-- Converting a map to its default output spares the map, unless it has the extension of a script
and the conversion succeeds. In a session, the script is then found in place of the map. A run of
the command that names no output does what the conversion does. -/
theorem convert_sparesInput (fs : FileSystem) (path : Path) :
    let converted := (convert FileSystem.disk path (defaultOutput path)).run fs
    (path.extension? ≠ some "idc" ∨ converted.1.isOk = false →
      converted.2.read path = fs.read path) ∧
    (fs.IsSession → converted.2.IsSession ∧ ∀ report, converted.1 = .ok report →
      path.extension? = some "idc" → ∃ bytes out, fs.read path = .ok bytes ∧
        runInto none (Script.ofSections (sectionsOfBytes bytes)) = .ok report.findings out ∧
        converted.2.read path = .ok out.sink.written) ∧
    ∀ (arguments : List String) (options : Command.Options) (spec? : Option String),
      Command.parse arguments = .ok options → options.input = path → options.output? = none →
      ((Command.run FileSystem.disk arguments spec?).run fs).2 = converted.2 ∧
      ((Command.run FileSystem.disk arguments spec?).run fs).1.exitCode =
        if converted.1.isOk then 0 else 1 := by
  have hcommand (arguments : List String) (options : Command.Options) (spec? : Option String)
      (parsed : Command.parse arguments = .ok options) (input : options.input = path)
      (unnamed : options.output? = none) := run_default_eq_convert parsed input unnamed spec? fs
  have hcases := run_convert_cases fs path (defaultOutput path)
  generalize (convert FileSystem.disk path (defaultOutput path)).run fs = converted
    at hcases hcommand ⊢
  obtain ⟨failure, rfl⟩ | ⟨bytes, findings, out, fs', rfl, read, script, hne, written⟩ := hcases
  · exact ⟨fun _ => rfl, fun hfs => ⟨hfs, nofun⟩, hcommand⟩
  · refine ⟨fun h => read_of_defaultOutput_elsewhere read hne written (h.resolve_right nofun),
      fun hfs => ⟨hfs.write written, fun report hreport he => ?_⟩, hcommand⟩
    obtain rfl := Except.ok.inj hreport
    exact ⟨bytes, out, read, script, read_of_defaultOutput_here hfs read hne written he⟩

/-- A map under its own extension, which is spared by the command, and one under that of a script,
which is lost. -/
theorem convert_sparesInput_twoExtensions :
    let bytes := "Memory map:\n  .text  80003100 10 100\n".toUTF8
    let spared := FileSystem.initial.set ["work", "game.map"] (.file bytes)
    let lost := FileSystem.initial.set ["work", "game.idc"] (.file bytes)
    let options : Command.Options := { input? := some ⟨"game.map"⟩ }
    extension? ⟨"game.map"⟩ = some "map" ∧ Command.parse ["game.map"] = .ok options ∧
    options.input = ⟨"game.map"⟩ ∧ options.output? = none ∧
    ((Command.run FileSystem.disk ["game.map"] none).run spared).2.read ⟨"game.map"⟩ = .ok bytes ∧
    extension? ⟨"game.idc"⟩ = some "idc" ∧ lost.IsSession ∧ ∃ report out,
      ((convert FileSystem.disk ⟨"game.idc"⟩ (defaultOutput ⟨"game.idc"⟩)).run lost).1 =
        .ok report ∧
      runInto none (Script.ofSections (sectionsOfBytes bytes)) = .ok report.findings out ∧
      ((convert FileSystem.disk ⟨"game.idc"⟩ (defaultOutput ⟨"game.idc"⟩)).run lost).2.read
        ⟨"game.idc"⟩ = .ok out.sink.written := by
  intro bytes
  clear_value bytes
  intro spared lost options
  have parsed : Command.parse ["game.map"] = .ok options := by decide
  have hmap : extension? ⟨"game.map"⟩ = some "map" := by decide
  have hidc : extension? ⟨"game.idc"⟩ = some "idc" := by decide
  have hsession : lost.IsSession := .write .initial (rfl : initial.write ⟨"game.idc"⟩ bytes = _)
  have output : defaultOutput ⟨"game.idc"⟩ = ⟨"game.idc"⟩ := by decide
  have read : lost.read ⟨"game.idc"⟩ = .ok bytes := rfl
  obtain ⟨hspared, -, hcommand⟩ := convert_sparesInput spared ⟨"game.map"⟩
  have hkept := hspared (.inl (by rw [hmap]; decide))
  rw [← (hcommand _ _ none parsed rfl rfl).1] at hkept
  obtain ⟨-, hlost, -⟩ := convert_sparesInput lost ⟨"game.idc"⟩
  obtain ⟨out, script, -⟩ := runInto_ofSections (sectionsOfBytes bytes)
  have hrun : ((convert FileSystem.disk ⟨"game.idc"⟩ (defaultOutput ⟨"game.idc"⟩)).run lost).1 =
      .ok ⟨(sectionsOfBytes bytes).size, .ofSections (sectionsOfBytes bytes)⟩ := by
    rw [output, run_convert_of_written read (rfl : lost.create ⟨"game.idc"⟩ = _) script rfl]
  obtain ⟨bytes', out', read', script', hread⟩ := (hlost hsession).2 _ hrun hidc
  obtain rfl := Except.ok.inj (read.symm.trans read')
  exact ⟨hmap, parsed, rfl, rfl, hkept, hidc, hsession, _, out', hrun, script', hread⟩

end LinkerMap.Conversion
