import LinkerMap.Proofs.Command.Agreement
import LinkerMap.Proofs.Conversion.Reading
import LinkerMap.Proofs.Script.Counting

/-! # The summary of a run

The numbers that a run prints are those of the file that it leaves: of the lines of the script, and
of the rows of the map that was read for it.
-/

namespace LinkerMap

theorem SegmentFindings.size_add_skipped (rows : List String) :
    (ofRows rows).segments.size + (ofRows rows).skipped = rows.length := by
  rw [← Array.length_toList, toList_segments_ofRows, List.length_filterMap_eq_countP, ofRows,
    List.length_eq_countP_add_countP (fun row => (Segment.ofRow? row).isSome)]
  congr 1
  exact List.countP_congr fun row _ => by simp

namespace Command

open Conversion FileSystem Text

/-- The numbers in a summary, and the segments that it names. -/
@[ext]
structure Tally where
  renamed : Nat
  skippedMapRows : Nat
  named : Nat
  comments : Nat
  skippedLayoutRows : Nat
  ignored : Nat
  missing : List String
  deriving DecidableEq, Repr

namespace Tally

def lines (tally : Tally) : List String :=
  ["  - renamed #" ++ toString tally.renamed ++ " segments " ++
      ("\x1b[1m(skipped " ++ toString tally.skippedMapRows ++ " rows)\x1b[22m"),
    "  - named #" ++ toString tally.named ++ " symbols, #" ++ toString tally.comments ++
      " comments " ++ ("\x1b[1m(skipped " ++ toString tally.skippedLayoutRows ++
        " rows, ignored " ++ toString tally.ignored ++ ")\x1b[22m")] ++
  if tally.missing.isEmpty then []
  else ["  - \x1b[33mno layout\x1b[39m for: " ++ ", ".intercalate tally.missing]

/-- The numbers are those of the lines of a script and of the rows of a map. -/
structure Accounts (tally : Tally) (sections : Sections) (script : String) : Prop where
  renamed : tally.renamed = (script.toList.splitOn '\n').countP (Script.calls "RenameSeg")
  named : tally.named = (script.toList.splitOn '\n').countP (Script.calls "MakeNameEx")
  comments : tally.comments = (script.toList.splitOn '\n').countP (Script.calls "MakeComm")
  comments_le : tally.comments ≤ tally.named
  mapRows : tally.renamed + tally.skippedMapRows = sections.mapRows.length
  layoutRows : tally.named + tally.skippedLayoutRows + tally.ignored =
    (sections.segmentNames.flatMap sections.layoutRows).length
  ignored : tally.ignored =
    (sections.segmentNames.flatMap sections.layoutRows).countP Symbol.isIgnored
  missing : tally.missing = sections.segmentNames.filter fun segment =>
    (sections.get? (segment ++ " section layout")).isNone

/-- The script and the map leave no choice of the numbers. -/
theorem Accounts.unique {tally tally' : Tally} {sections : Sections} {script : String}
    (h : tally.Accounts sections script) (h' : tally'.Accounts sections script) :
    tally = tally' := by
  have hrenamed := h.renamed.trans h'.renamed.symm
  have hnamed := h.named.trans h'.named.symm
  have hignored := h.ignored.trans h'.ignored.symm
  have hmap := h.mapRows.trans h'.mapRows.symm
  have hlayouts := h.layoutRows.trans h'.layoutRows.symm
  exact Tally.ext hrenamed (by omega) hnamed (h.comments.trans h'.comments.symm) (by omega)
    hignored (h.missing.trans h'.missing.symm)

def ofFindings (found : Findings) : Tally where
  renamed := found.segments.segments.size
  skippedMapRows := found.segments.skipped
  named := found.symbols.symbols.size
  comments := found.symbols.comments
  skippedLayoutRows := found.symbols.skipped
  ignored := found.symbols.ignored
  missing := found.symbols.missing.toList

theorem lines_ofFindings (found : Findings) : (ofFindings found).lines = summary found := by
  have hrows (n : Nat) : Terminal.strong ("(skipped " ++ toString n ++ " rows)") =
      "\x1b[1m(skipped " ++ toString n ++ " rows)\x1b[22m" := by
    simp [Terminal.strong, Terminal.select, ← String.toList_inj]
  have hboth (n m : Nat) :
      Terminal.strong ("(skipped " ++ toString n ++ " rows, ignored " ++ toString m ++ ")") =
        "\x1b[1m(skipped " ++ toString n ++ " rows, ignored " ++ toString m ++ ")\x1b[22m" := by
    simp [Terminal.strong, Terminal.select, ← String.toList_inj]
  have hmissing : "  - " ++ Terminal.yellow "no layout" ++ " for: " =
      "  - \x1b[33mno layout\x1b[39m for: " := by decide
  rw [lines, summary, hrows, hboth, hmissing, ← Array.isEmpty_toList]
  rfl

theorem accounts_ofFindings (text : String) :
    (ofFindings (.ofSections (.ofText text))).Accounts (.ofText text)
      (Text.unlines (Script.lines (.ofSections (.ofText text)))) := by
  have hlegible := Script.isLegible_ofText text
  generalize Sections.ofText text = sections at hlegible ⊢
  have hnames := sections.names_ofSections
  constructor
  · rw [Script.countP_calls_unlines hlegible (by decide) (by decide) (by decide)]
    rfl
  · rw [Script.countP_calls_unlines hlegible (by decide) (by decide) (by decide)]
    exact (Nat.zero_add _).symm
  · rw [Script.countP_calls_unlines hlegible (by decide) (by decide) (by decide)]
    exact ((Nat.zero_add _).trans (Nat.zero_add _)).symm
  · exact Array.countP_le_size
  · exact SegmentFindings.size_add_skipped sections.mapRows
  · rw [← hnames]
    exact SymbolFindings.size_add_skipped_add_ignored sections _
  · rw [← hnames]
    rfl
  · rw [← hnames]
    rfl

end Tally

variable {fs fs' created : FileSystem} {options : Options} {arguments : List String}
  {input output : Path} {bytes : ByteArray} {findings : Findings} {out : Output}
  {failure : Failure} {outcome : Outcome}

theorem run_course_of_written (read : fs.read input = .ok bytes)
    (made : fs.create output = .ok created)
    (script : runInto none (Script.ofSections (sectionsOfBytes bytes)) = .ok findings out)
    (written : created.write output out.sink.written = .ok fs') :
    (course FileSystem.disk input output).run fs =
      (.read (sectionsOfBytes bytes) ⟨out.notices, .ok findings⟩, fs') := by
  rw [course, run_bind_of (run_readMap_of_ok read)]
  exact run_bind_of (run_writeScript_of_ok made script written)

theorem result_course_of_firstRefused (h : FirstRefused fs input output failure) :
    ((course FileSystem.disk input output).run fs).1.result = .error failure := by
  have hrun := run_convert_of_firstRefused h
  rw [convert_eq_map_course, StateT.run_map] at hrun
  exact (Prod.mk.inj hrun).1

theorem runInto_unlimited {sections : Sections}
    (script : runInto none (Script.ofSections sections) = .ok findings out) :
    findings = .ofSections sections ∧
      out.sink.written = (Text.unlines (Script.lines (.ofSections sections))).toUTF8 := by
  obtain ⟨notices, h⟩ := Script.ofSections_unlimited sections
  cases h.symm.trans script
  exact ⟨rfl, rfl⟩

theorem exists_of_exitCode_eq_zero (parsed : parse arguments = .ok options)
    (spec? : Option String)
    (ran : (run FileSystem.disk arguments spec?).run fs = (outcome, fs'))
    (success : outcome.exitCode = 0) : ∃ bytes found,
      fs.read options.input = .ok bytes ∧ found = Findings.ofSections (sectionsOfBytes bytes) ∧
      fs.write options.output (Text.unlines (Script.lines found)).toUTF8 = .ok fs' ∧
      outcome.stdout = unlines (say options (announceReading options ++
          announceWriting options (sectionsOfBytes bytes) ++ summary found)) ++
        unlines (if options.dump then Listing.lines found else []) := by
  obtain ⟨filter, complaints, hrun⟩ := run_eq_map_course FileSystem.disk parsed spec?
  rw [hrun, StateT.run_map] at ran
  rcases firstRefused_or_written fs options.input options.output with
    ⟨failure, h⟩ | ⟨bytes, created, findings, out, after, read, made, script, -, written⟩
  · have hcode := exitCode_outcome options filter
      ((course FileSystem.disk options.input options.output).run fs).1
    rw [result_course_of_firstRefused h] at hcode
    cases ran
    exact absurd (hcode.symm.trans success) (by simp [Except.isOk, Except.toBool])
  · obtain ⟨rfl, hscript⟩ := runInto_unlimited script
    rw [run_course_of_written read made script written] at ran
    cases ran
    refine ⟨bytes, _, read, rfl, ?_, stdout_outcome options filter _⟩
    rw [← hscript, ← write_of_write made]
    exact written

/-- When a run that is not quiet succeeds and its output is a regular file then, the numbers that it
prints are those of the lines of that file, and of the rows of the map as it was before. -/
theorem summary_accounts {place : Location} {content : ByteArray}
    (parsed : parse arguments = .ok options) (loud : options.quiet = false) (spec? : Option String)
    (ran : (run FileSystem.disk arguments spec?).run fs = (outcome, fs'))
    (success : outcome.exitCode = 0) (located : fs'.locate options.output = .ok place)
    (regular : fs'.node? place = some (.file content)) :
    ∃ bytes, ∃ script : String, ∃ (tally : Tally) (listed : List String),
      fs.read options.input = .ok bytes ∧ content = script.toUTF8 ∧
      outcome.stdout = unlines (announceReading options ++
        announceWriting options (sectionsOfBytes bytes) ++ tally.lines ++ listed) ∧
      (options.dump = false → listed = []) ∧
      tally.Accounts (sectionsOfBytes bytes) script := by
  obtain ⟨bytes, found, read, hfound, written, told⟩ :=
    exists_of_exitCode_eq_zero parsed spec? ran success
  obtain ⟨place', -, hfilled, hlocate⟩ :=
    filled_of_write (by rw [Script.lines]; exact Text.isEmpty_toUTF8_unlines_cons _ _) written
  obtain rfl : place = place' := Except.ok.inj (located.symm.trans hlocate)
  have hcontent := hfilled.eq_of_file regular
  refine ⟨bytes, _, .ofFindings found, if options.dump then Listing.lines found else [], read,
    hcontent, ?_, ?_, ?_⟩
  · rw [told, say, loud, Tally.lines_ofFindings, unlines_append _ (ite _ _ _)]
    rfl
  · intro hd
    rw [hd]
    rfl
  · rw [hfound]
    exact Tally.accounts_ofFindings _

theorem exists_run_of_written (parsed : parse arguments = .ok options) (spec? : Option String)
    (read : fs.read options.input = .ok bytes) (writable : fs.IsWritable options.output) :
    ∃ outcome fs', (run FileSystem.disk arguments spec?).run fs = (outcome, fs') ∧
      outcome.exitCode = 0 ∧ fs.write options.output
        (unlines (Script.lines (.ofSections (sectionsOfBytes bytes)))).toUTF8 = .ok fs' := by
  obtain ⟨out, script, -⟩ := runInto_ofSections (sectionsOfBytes bytes)
  obtain ⟨created, fs', made, written⟩ := writable.exists_create_write out.sink.written
  obtain ⟨filter, complaints, hrun⟩ := run_eq_map_course FileSystem.disk parsed spec?
  have ran := congrArg (StateT.run · fs) hrun
  simp only [StateT.run_map, run_course_of_written read made script written] at ran
  refine ⟨_, fs', ran, rfl, ?_⟩
  rw [← (runInto_unlimited script).2, ← write_of_write made]
  exact written

/-- A row of the memory map is skipped, the first segment has no layout, and of the layout of the
second a row is skipped, a row is of another kind and a row is named and commented. -/
theorem summary_accounts_gameMap :
    let text := "Memory map:\n  Starting Size\n  .a 1 2 3\n  .b 4 5 6\n" ++
      ".b section layout\n  UNUSED\n  1 2 3 5 g\n  1 2 3 4 f a.o\n"
    let fs := FileSystem.initial.set ["work", "game.map"] (.file text.toUTF8)
    let options : Options := { input? := some ⟨"game.map"⟩ }
    let tally : Tally := ⟨2, 1, 1, 1, 1, 1, [".a"]⟩
    parse ["game.map"] = .ok options ∧ options.quiet = false ∧
    ∃ outcome fs' content,
      (run FileSystem.disk ["game.map"] none).run fs = (outcome, fs') ∧
      outcome.exitCode = 0 ∧
      fs'.locate options.output = .ok ["work", "game.idc"] ∧
      fs'.node? ["work", "game.idc"] = some (.file content) ∧
      ∃ script : String, content = script.toUTF8 ∧
        outcome.stdout = unlines (announceReading options ++
          announceWriting options (.ofText text) ++ tally.lines) ∧
        tally.Accounts (.ofText text) script := by
  intro text fs options tally
  have parsed : parse ["game.map"] = .ok options := by decide
  have output : options.output = ⟨"game.idc"⟩ := by decide
  have usable : ∀ content : ByteArray,
      let fs := FileSystem.initial.set ["work", "game.map"] (.file content)
      fs.read ⟨"game.map"⟩ = .ok content ∧ ∀ script, fs.write ⟨"game.idc"⟩ script =
        .ok (fs.set ["work", "game.idc"] (.file script)) := fun _ => ⟨rfl, fun _ => rfl⟩
  obtain ⟨read, writes⟩ := usable text.toUTF8
  have hsections : sectionsOfBytes text.toUTF8 = .ofText text := sectionsOfBytes_toUTF8 (by decide)
  rw [← output] at writes
  obtain ⟨outcome, fs', ran, success, written⟩ := exists_run_of_written parsed none read
    fun content => ⟨_, writes content⟩
  rw [hsections] at written
  obtain rfl := Except.ok.inj ((writes _).symm.trans written)
  have located : FileSystem.locate (fs.set ["work", "game.idc"] (.file (unlines (Script.lines
      (.ofSections (.ofText text)))).toUTF8)) options.output = .ok ["work", "game.idc"] := by
    rw [output]
    rfl
  have regular := node?_set_self fs ["work", "game.idc"]
    (.file (unlines (Script.lines (.ofSections (.ofText text)))).toUTF8)
  obtain ⟨bytes, script, told, listed, read', hscript, hstdout, hlisted, haccounts⟩ :=
    summary_accounts parsed rfl none ran success located regular
  obtain rfl : text.toUTF8 = bytes := Except.ok.inj (read.symm.trans read')
  rw [hsections] at hstdout haccounts
  obtain rfl : unlines (Script.lines (.ofSections (.ofText text))) = script :=
    String.toByteArray_inj.mp hscript
  have hfound := Tally.accounts_ofFindings text
  have hnumbers : Tally.ofFindings (.ofSections (.ofText text)) = tally := by decide +kernel
  rw [hnumbers] at hfound
  obtain rfl := haccounts.unique hfound
  rw [hlisted rfl, List.append_nil] at hstdout
  exact ⟨parsed, rfl, outcome, _, _, ran, success, located, regular, _, rfl, hstdout, haccounts⟩

end Command

end LinkerMap
