import LinkerMap.Proofs.Command.Summary
import LinkerMap.Proofs.Conversion.Reading
import LinkerMap.Proofs.Script.Noticing

/-! # The log of a run

A log at the level of debugging holds a record for each notice of the conversion and nothing else.
It accounts for all that the script leaves out, but for the rows of another kind.
-/

namespace LinkerMap

namespace Log

/-- A filter that lets records down to the level of debugging through, whatever their target. -/
def debugging : Filter := ⟨[⟨none, .upTo .debug⟩], none⟩

theorem ofSpec_debug : Filter.ofSpec "debug" = (debugging, []) := by rfl

theorem debugging_allows (target : String) (notice : Notice) :
    debugging.allows target notice.level notice.message = true := by
  cases notice <;> rfl

end Log

namespace Conversion

theorem runInto_notices (sections : Sections) : ∃ out,
    runInto none (Script.ofSections sections) = .ok (.ofSections sections) out ∧
      out.notices = sections.notices.toArray :=
  ⟨_, (Script.performs_ofSections sections).unlimited, by rw [Script.noted_effects]⟩

end Conversion

namespace Command

open Conversion

variable {fs fs' : FileSystem} {options : Options} {arguments : List String} {bytes : ByteArray}
  {sections : Sections} {notices : Array Notice} {found : Findings}

theorem logText_debugging (notices : List Notice) :
    logText Log.debugging notices.toArray = String.join (notices.map Notice.record) := by
  have hall : notices.filter (fun notice =>
      Log.debugging.allows logTarget notice.level notice.message) = notices :=
    List.filter_eq_self.mpr fun notice _ => Log.debugging_allows logTarget notice
  rw [logText, hall]
  rfl

theorem run_debug_of_course (parsed : parse arguments = .ok options)
    (hcourse : (course FileSystem.disk options.input options.output).run fs =
      (.read sections ⟨notices, .ok found⟩, fs')) :
    ∃ stdout, (run FileSystem.disk arguments (some "debug")).run fs =
      (⟨0, stdout, logText Log.debugging notices⟩, fs') := by
  have settings : ((some "debug").map Log.Filter.ofSpec).getD (.standard, []) =
      (Log.debugging, []) := Log.ofSpec_debug
  rw [run_eq_map_course_of FileSystem.disk parsed settings, StateT.run_map, hcourse]
  have hcomplaints : complaintText [] = "" := rfl
  simp only [hcomplaints, String.empty_append]
  exact ⟨_, rfl⟩

/-- When a map can be read and its output can be written, a run that logs at the level of debugging
writes what is left out of the map to the error output, in its order, and nothing else. There is a
record for each row that is skipped and for each layout that is missing, and one if there is no
memory map, but none for a row of another kind. No line feed is in what a record says. Where the
records stand in the log as they are made, each takes one line, and they do so unless the name of a
segment holds a control. -/
theorem debugLog_accounts (parsed : parse arguments = .ok options)
    (read : fs.read options.input = .ok bytes) (writable : fs.IsWritable options.output) :
    let sections := sectionsOfBytes bytes
    ∃ found fs' stdout stderr,
      (convert FileSystem.disk options.input options.output).run fs =
        (.ok ⟨sections.size, found⟩, fs') ∧
      (run FileSystem.disk arguments (some "debug")).run fs = (⟨0, stdout, stderr⟩, fs') ∧
      stderr = String.join (sections.log.map fun line => Terminal.plain (line ++ "\n")) ∧
      sections.log.length = found.segments.skipped + found.symbols.skipped +
        found.symbols.missing.size +
          (if (sections.get? "Memory map:").isNone then 1 else 0) ∧
      (∀ segment ∈ sections.segmentNames, ∀ row, Symbol.isIgnored row = true →
        "[DEBUG] skip `" ++ segment ++ "` layout row: " ++ Text.quote row ∉ sections.log) ∧
      (∀ line ∈ sections.log, '\n' ∉ line.toList) ∧
      ((∀ line ∈ sections.log, Terminal.plain (line ++ "\n") = line ++ "\n") →
        stderr = Text.unlines sections.log ∧
        stderr.toList.count '\n' = sections.log.length) ∧
      ((∀ segment ∈ sections.segmentNames, ∀ c ∈ segment.toList,
        0x20 ≤ c.toNat ∧ c.toNat ≠ 0x7F) →
        ∀ line ∈ sections.log, Terminal.plain (line ++ "\n") = line ++ "\n") := by
  intro sections
  obtain ⟨out, script, hnotices⟩ := runInto_notices sections
  obtain ⟨created, fs', made, written⟩ := writable.exists_create_write out.sink.written
  have hcourse := run_course_of_written read made script written
  have hconvert : (convert FileSystem.disk options.input options.output).run fs =
      (.ok ⟨sections.size, .ofSections sections⟩, fs') := by
    rw [convert_eq_map_course, StateT.run_map, hcourse]
    rfl
  obtain ⟨stdout, hrun⟩ := run_debug_of_course parsed hcourse
  rw [hnotices, logText_debugging, Sections.map_record_notices] at hrun
  have hlf : ∀ line ∈ sections.log, '\n' ∉ line.toList := fun _ => Sections.lf_not_mem_of_mem_log
  refine ⟨_, fs', stdout, _, hconvert, hrun, rfl,
    sections.length_log.trans sections.length_notices, fun _ hs _ => Sections.line_not_mem_log hs,
    hlf, fun hplain => ?_, fun hnames => ?_⟩
  · rw [List.map_congr_left hplain]
    exact ⟨rfl, Text.count_lf_unlines hlf⟩
  · refine Sections.plain_of_mem_log fun segment hs c hc => ?_
    obtain ⟨hspace, hdelete⟩ := hnames segment hs c hc
    simp [Terminal.isShown, hspace, hdelete]

/-- A row of the memory map is skipped, the first segment has no layout, and of the layout of the
second a row is skipped, a row is of another kind and a row is named. Another map has a layout but
no memory map. -/
theorem debugLog_accounts_twoSegments :
    let text := "Memory map:\n  Starting Size\n  .a 1 2 3\n  .b 4 5 6\n" ++
      ".b section layout\n  UNUSED\n  1 2 3 5 g\n  1 2 3 4 f\n"
    let text' := ".b section layout\n  UNUSED\n"
    let fs := FileSystem.initial.set ["work", "game.map"] (.file text.toUTF8)
    let fs' := FileSystem.initial.set ["work", "game.map"] (.file text'.toUTF8)
    let options : Options := { input? := some ⟨"game.map"⟩ }
    parse ["game.map"] = .ok options ∧
    fs.read options.input = .ok text.toUTF8 ∧ fs.IsWritable options.output ∧
    fs'.read options.input = .ok text'.toUTF8 ∧ fs'.IsWritable options.output ∧
    Symbol.isIgnored "  1 2 3 5 g" = true ∧
    (∃ stdout left, (run FileSystem.disk ["game.map"] (some "debug")).run fs =
      (⟨0, stdout, Text.unlines [
        "[DEBUG] skip memory map row: \"  Starting Size\"",
        "[DEBUG] no layout for segment `.a`",
        "[DEBUG] skip `.b` layout row: \"  UNUSED\""]⟩, left)) ∧
    ∃ stdout left, (run FileSystem.disk ["game.map"] (some "debug")).run fs' =
      (⟨0, stdout, Text.unlines [
        "[WARN ] no `Memory map:` section, segments are left as is"]⟩, left) := by
  intro text text' fs fs' options
  have parsed : parse ["game.map"] = .ok options := by decide
  have output : options.output = ⟨"game.idc"⟩ := by decide
  have usable : ∀ content : ByteArray,
      let fs := FileSystem.initial.set ["work", "game.map"] (.file content)
      fs.read ⟨"game.map"⟩ = .ok content ∧ fs.IsWritable ⟨"game.idc"⟩ := fun content =>
    ⟨rfl, fun script => ⟨_, rfl⟩⟩
  obtain ⟨read, writable⟩ := usable text.toUTF8
  obtain ⟨read', writable'⟩ := usable text'.toUTF8
  rw [← output] at writable writable'
  have hnames : (sectionsOfBytes text.toUTF8).segmentNames = [".a", ".b"] := by
    rw [sectionsOfBytes_toUTF8 (by decide)]
    decide +kernel
  have hnames' : (sectionsOfBytes text'.toUTF8).segmentNames = [] := by
    rw [sectionsOfBytes_toUTF8 (by decide)]
    decide +kernel
  have hlog : (sectionsOfBytes text.toUTF8).log = [
      "[DEBUG] skip memory map row: \"  Starting Size\"", "[DEBUG] no layout for segment `.a`",
      "[DEBUG] skip `.b` layout row: \"  UNUSED\""] := by
    rw [sectionsOfBytes_toUTF8 (by decide)]
    decide +kernel
  have hlog' : (sectionsOfBytes text'.toUTF8).log = [
      "[WARN ] no `Memory map:` section, segments are left as is"] := by
    rw [sectionsOfBytes_toUTF8 (by decide)]
    decide +kernel
  obtain ⟨_, left, stdout, stderr, -, hrun, -, -, -, -, hlines, hplain⟩ :=
    debugLog_accounts parsed read writable
  obtain ⟨_, left', stdout', stderr', -, hrun', -, -, -, -, hlines', hplain'⟩ :=
    debugLog_accounts parsed read' writable'
  rw [hnames] at hplain
  rw [hnames'] at hplain'
  rw [(hlines (hplain (by simp))).1, hlog] at hrun
  rw [(hlines' (hplain' (by simp))).1, hlog'] at hrun'
  exact ⟨parsed, read, writable, read', writable', by decide +kernel, ⟨stdout, left, hrun⟩,
    stdout', left', hrun'⟩

end Command

end LinkerMap
