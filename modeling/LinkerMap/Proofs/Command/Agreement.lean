import LinkerMap.Command.Run
import LinkerMap.Proofs.Conversion.AllOrNothing

/-! # The command and the conversion

A conversion and a run of the command take one course through the disk. The conversion forgets all
of it but the result, and the command reports on it. What the command prints has therefore no part
in what becomes of the files, and the switches and the log have a part only in what it prints.
-/

namespace LinkerMap

namespace Conversion

/-- What a conversion comes to, with all that is learnt on the way. -/
inductive Course where
  | unread (failure : Failure)
  | read (sections : Sections) (written : Written)

def Course.result : Course → Except Failure Report
  | unread failure => .error failure
  | read sections written => written.result.map (⟨sections.size, ·⟩)

variable {m : Type → Type} [Monad m]

/-- Converts the map at a path and forgets nothing. -/
def course (disk : Disk m) (input output : Path) : m Course := do
  match ← readMap disk input with
  | .error failure => return .unread failure
  | .ok sections => return .read sections (← writeScript disk output sections)

theorem map_course [LawfulMonad m] {α : Type} (disk : Disk m) (input output : Path)
    (f : Course → α) : f <$> course disk input output = (readMap disk input >>= fun
      | .error failure => pure (f (.unread failure))
      | .ok sections => writeScript disk output sections >>= fun written =>
        pure (f (.read sections written))) := by
  rw [course, map_bind]
  refine bind_congr fun result => ?_
  cases result with
  | error failure => rw [map_pure]
  | ok sections =>
    rw [map_bind]
    refine bind_congr fun written => ?_
    rw [map_pure]

theorem convert_eq_map_course [LawfulMonad m] (disk : Disk m) (input output : Path) :
    convert disk input output = Course.result <$> course disk input output := by
  rw [map_course]
  refine bind_congr fun result => ?_
  cases result <;> rfl

end Conversion

namespace Command

open Conversion Text

variable {options options' : Options} {filter filter' : Log.Filter} {course : Course}
  {failure : Failure}

/-- What a run reports of a course. -/
def outcome (options : Options) (filter : Log.Filter) : Course → Outcome
  | .unread failure =>
    ⟨1, unlines (say options (announceReading options)), unlines (diagnosis failure)⟩
  | .read sections written =>
    let announced := say options (announceReading options) ++
      say options (announceWriting options sections)
    let logged := logText filter written.notices
    match written.result with
    | .error failure => ⟨1, unlines announced, logged ++ unlines (diagnosis failure)⟩
    | .ok found =>
      let listed := if options.dump then Listing.lines found else []
      ⟨0, unlines (announced ++ say options (summary found) ++ listed), logged⟩

theorem perform_eq_map_course {m : Type → Type} [Monad m] [LawfulMonad m] (disk : Disk m)
    (options : Options) (filter : Log.Filter) : perform disk options filter =
      outcome options filter <$> Conversion.course disk options.input options.output := by
  rw [map_course]
  refine bind_congr fun result => ?_
  cases result with
  | error failure => rfl
  | ok sections =>
    refine bind_congr fun written => ?_
    obtain ⟨notices, result⟩ := written
    cases result <;> rfl

/-! ### What is printed of a course -/

def story (options : Options) : Course → List String
  | .unread _ => announceReading options
  | .read sections written => announceReading options ++ announceWriting options sections ++
      match written.result with
      | .error _ => []
      | .ok found => summary found

def listing : Except Failure Report → List String
  | .error _ => []
  | .ok report => Listing.lines report.findings

theorem say_append (options : Options) (ls ms : List String) :
    say options (ls ++ ms) = say options ls ++ say options ms := by
  unfold say
  split <;> rfl

theorem stdout_outcome (options : Options) (filter : Log.Filter) (course : Course) :
    (outcome options filter course).stdout = unlines (say options (story options course)) ++
      unlines (if options.dump then listing course.result else []) := by
  cases course with
  | unread failure => simp [outcome, story, listing, Course.result, unlines]
  | read sections written =>
    obtain ⟨notices, result⟩ := written
    cases result with
    | error failure =>
      simp [outcome, story, listing, Course.result, say_append, unlines, Except.map]
    | ok found =>
      rw [← unlines_append]
      simp only [outcome, story, listing, Course.result, say_append, Except.map]

theorem exitCode_outcome (options : Options) (filter : Log.Filter) (course : Course) :
    (outcome options filter course).exitCode = if course.result.isOk then 0 else 1 := by
  cases course with
  | unread failure => rfl
  | read sections written =>
    obtain ⟨notices, result⟩ := written
    cases result <;> rfl

theorem unlines_diagnosis (failure : Failure) : unlines (diagnosis failure) =
    "\x1b[31m\x1b[1merror\x1b[39m\x1b[22m: " ++ failure.message ++ "\n" ++
      "  \x1b[34mcaused by\x1b[39m: " ++ failure.cause.message ++ "\n" := by
  have herror : Terminal.alarm "error" = "\x1b[31m\x1b[1merror\x1b[39m\x1b[22m" := by decide
  have hcause : Terminal.blue "caused by" = "\x1b[34mcaused by\x1b[39m" := by decide
  rw [diagnosis, herror, hcause, ← String.toList_inj]
  simp [unlines]

theorem stderr_outcome (options : Options) (filter : Log.Filter)
    (h : course.result = .error failure) : ∃ before,
      (outcome options filter course).stderr = before ++ unlines (diagnosis failure) := by
  cases course with
  | unread failure' =>
    cases h
    exact ⟨"", by rw [String.empty_append]; rfl⟩
  | read sections written =>
    obtain ⟨notices, result⟩ := written
    cases result with
    | error failure' => cases h; exact ⟨_, rfl⟩
    | ok found => cases h

theorem stdout_outcome_of_quiet (hq : options.quiet = true) (hd : options.dump = false) :
    (outcome options filter course).stdout = "" := by
  rw [stdout_outcome, say, if_pos hq, hd]
  rfl

theorem story_congr (hi : options'.input = options.input) (ho : options'.output = options.output)
    (course : Course) : story options' course = story options course := by
  cases course <;> simp only [story, announceReading, announceWriting, hi, ho]

theorem stdout_outcome_of_dump (hi : options'.input = options.input)
    (ho : options'.output = options.output) (hq : options'.quiet = options.quiet)
    (hd : options.dump = true) (hd' : options'.dump = false) :
    (outcome options filter course).stdout =
      (outcome options' filter' course).stdout ++ unlines (listing course.result) := by
  rw [stdout_outcome, stdout_outcome, story_congr hi ho, say, say, hq, hd, hd']
  simp [unlines]

theorem run_eq_map_course_of {m : Type → Type} [Monad m] [LawfulMonad m] (disk : Disk m)
    {arguments : List String} (parsed : parse arguments = .ok options) {spec? : Option String}
    {complaints : List Log.FilterError}
    (settings : (spec?.map Log.Filter.ofSpec).getD (.standard, []) = (filter, complaints)) :
    run disk arguments spec? =
      (fun course => { outcome options filter course with
        stderr := complaintText complaints ++ (outcome options filter course).stderr }) <$>
      Conversion.course disk options.input options.output := by
  unfold run
  rw [settings, parsed]
  dsimp only
  rw [perform_eq_map_course, bind_map_left, map_eq_pure_bind]

theorem run_eq_map_course {m : Type → Type} [Monad m] [LawfulMonad m] (disk : Disk m)
    {arguments : List String} (parsed : parse arguments = .ok options) (spec? : Option String) :
    ∃ filter complaints, run disk arguments spec? =
      (fun course => { outcome options filter course with
        stderr := complaintText complaints ++ (outcome options filter course).stderr }) <$>
      Conversion.course disk options.input options.output :=
  ⟨_, _, run_eq_map_course_of disk parsed rfl⟩

/-- From one file system, a run of the command leaves what the conversion of its paths leaves, and
its exit code and its error output tell how that ended. A second run with other switches or another
log ends in the same way. A quiet run prints nothing but the listing that is asked for, and the
listing comes behind what is printed without it. -/
theorem run_agrees_with_convert {arguments arguments' : List String} {input output : Path}
    (parsed : parse arguments = .ok options) (parsed' : parse arguments' = .ok options')
    (reads : options.input?.getD ⟨"GZLE01.map"⟩ = input)
    (reads' : options'.input?.getD ⟨"GZLE01.map"⟩ = input)
    (writes : options.output?.getD (defaultOutput input) = output)
    (writes' : options'.output?.getD (defaultOutput input) = output)
    (spec? spec?' : Option String) (fs : FileSystem) :
    let converted := (convert FileSystem.disk input output).run fs
    let first := (run FileSystem.disk arguments spec?).run fs
    let second := (run FileSystem.disk arguments' spec?').run fs
    first.2 = converted.2 ∧
    first.1.exitCode = (if converted.1.isOk then 0 else 1) ∧
    (∀ failure, converted.1 = .error failure → ∃ before, first.1.stderr = before ++
      ("\x1b[31m\x1b[1merror\x1b[39m\x1b[22m: " ++ failure.message ++ "\n" ++
        "  \x1b[34mcaused by\x1b[39m: " ++ failure.cause.message ++ "\n")) ∧
    second.2 = first.2 ∧
    second.1.exitCode = first.1.exitCode ∧
    (options.quiet = true → options.dump = false → first.1.stdout = "") ∧
    (options'.quiet = options.quiet → options.dump = true → options'.dump = false →
      (∀ report, converted.1 = .ok report →
        first.1.stdout = second.1.stdout ++ unlines (Listing.lines report.findings)) ∧
      (∀ failure, converted.1 = .error failure → first.1.stdout = second.1.stdout)) := by
  obtain rfl : options.input = input := reads
  obtain rfl : options.output = output := writes
  have hinput : options'.input = options.input := reads'
  have houtput : options'.output = options.output := by
    rw [Options.output, hinput]
    exact writes'
  obtain ⟨filter, complaints, hrun⟩ := run_eq_map_course FileSystem.disk parsed spec?
  obtain ⟨filter', complaints', hrun'⟩ := run_eq_map_course FileSystem.disk parsed' spec?'
  rw [hinput, houtput] at hrun'
  rw [hrun, hrun', convert_eq_map_course]
  simp only [StateT.run_map]
  generalize (Conversion.course FileSystem.disk options.input options.output).run fs = left
  obtain ⟨course, fs'⟩ := left
  refine ⟨rfl, exitCode_outcome options filter course, fun failure h => ?_, rfl, ?_,
    stdout_outcome_of_quiet, fun hq hd hd' => ?_⟩
  · obtain ⟨before, hstderr⟩ := stderr_outcome options filter h
    rw [unlines_diagnosis] at hstderr
    exact ⟨complaintText complaints ++ before, by rw [String.append_assoc, ← hstderr]; rfl⟩
  · exact (exitCode_outcome options' filter' course).trans
      (exitCode_outcome options filter course).symm
  · have hdump : (outcome options filter course).stdout =
        (outcome options' filter' course).stdout ++ unlines (listing course.result) :=
      stdout_outcome_of_dump hinput houtput hq hd hd'
    refine ⟨fun report (h : course.result = .ok report) => ?_,
      fun failure (h : course.result = .error failure) => ?_⟩
    · rwa [h] at hdump
    · rwa [h, listing, unlines_nil, String.append_empty] at hdump

/-- A listing of a map, a run without one that names the default output and turns the log off, and
runs for a map that is not there. -/
theorem run_agrees_with_convert_gameMap :
    let fs := FileSystem.initial.set ["work", "game.map"]
      (.file "Memory map:\n  .text  80003100 00000010 00000100\n".toUTF8)
    let converted := (convert FileSystem.disk ⟨"game.map"⟩ ⟨"game.idc"⟩).run fs
    let first := (run FileSystem.disk ["-d", "game.map"] none).run fs
    let second := (run FileSystem.disk ["game.map", "game.idc"] (some "off")).run fs
    let failed := (run FileSystem.disk ["-q", "nope.map"] none).run .initial
    let failed' := (run FileSystem.disk ["-d", "-q", "nope.map"] (some "debug")).run .initial
    parse ["-d", "game.map"] = .ok { input? := some ⟨"game.map"⟩, dump := true } ∧
    parse ["game.map", "game.idc"] =
      .ok { input? := some ⟨"game.map"⟩, output? := some ⟨"game.idc"⟩ } ∧
    first.2 = converted.2 ∧
    first.1.exitCode = (if converted.1.isOk then 0 else 1) ∧
    second.2 = first.2 ∧
    second.1.exitCode = first.1.exitCode ∧
    (∃ report, converted.1 = .ok report ∧
      first.1.stdout = second.1.stdout ++ unlines (Listing.lines report.findings)) ∧
    (convert FileSystem.disk ⟨"nope.map"⟩ ⟨"nope.idc"⟩).run .initial =
      (.error ⟨.opening, ⟨"nope.map"⟩, .noEntry⟩, .initial) ∧
    failed.1.exitCode = 1 ∧ failed.1.stdout = "" ∧ failed'.1.exitCode = 1 ∧
    ∃ before, failed.1.stderr = before ++
      ("\x1b[31m\x1b[1merror\x1b[39m\x1b[22m: Failed to open file: nope.map\n" ++
        "  \x1b[34mcaused by\x1b[39m: No such file or directory (os error 2)\n") := by
  intro fs
  have read : fs.read ⟨"game.map"⟩ = .ok _ := rfl
  have writable : fs.IsWritable ⟨"game.idc"⟩ := fun content =>
    ⟨fs.set ["work", "game.idc"] (.file content), rfl⟩
  clear_value fs
  intro converted first second failed failed'
  have parsed : parse ["-d", "game.map"] =
      .ok { input? := some ⟨"game.map"⟩, dump := true } := by decide
  have parsed' : parse ["game.map", "game.idc"] =
      .ok { input? := some ⟨"game.map"⟩, output? := some ⟨"game.idc"⟩ } := by decide
  have parsedQuiet : parse ["-q", "nope.map"] =
      .ok { input? := some ⟨"nope.map"⟩, quiet := true } := by decide
  have parsedBoth : parse ["-d", "-q", "nope.map"] =
      .ok { input? := some ⟨"nope.map"⟩, dump := true, quiet := true } := by decide
  have hmissing : (convert FileSystem.disk ⟨"nope.map"⟩ ⟨"nope.idc"⟩).run .initial =
      (.error ⟨.opening, ⟨"nope.map"⟩, .noEntry⟩, .initial) :=
    run_convert_of_firstRefused (.opening (by decide))
  obtain ⟨report, fs', hconverted⟩ := exists_run_convert_of_isWritable read writable
  have named (path : Path) : (some path).getD ⟨"GZLE01.map"⟩ = path := rfl
  have beside : defaultOutput ⟨"game.map"⟩ = ⟨"game.idc"⟩ := by decide
  have besideMissing : defaultOutput ⟨"nope.map"⟩ = ⟨"nope.idc"⟩ := by decide
  obtain ⟨hfs, hcode, -, hfs', hcode', -, hdump⟩ := run_agrees_with_convert parsed parsed'
    (named ⟨"game.map"⟩) (named ⟨"game.map"⟩) beside rfl none (some "off") fs
  obtain ⟨-, hcodeQuiet, hstderr, -, hcodeBoth, hquiet, -⟩ := run_agrees_with_convert parsedQuiet
    parsedBoth (named ⟨"nope.map"⟩) (named ⟨"nope.map"⟩) besideMissing besideMissing none
    (some "debug") .initial
  rw [hmissing] at hcodeQuiet hstderr
  have hreport : converted.1 = .ok report := congrArg Prod.fst hconverted
  obtain ⟨before, hbefore⟩ := hstderr _ rfl
  have hmessage : Failure.message ⟨.opening, ⟨"nope.map"⟩, .noEntry⟩ =
      "Failed to open file: nope.map" := by decide
  have hcause : Cause.noEntry.message = "No such file or directory (os error 2)" := by decide
  refine ⟨parsed, parsed', hfs, hcode, hfs', hcode',
    ⟨report, hreport, (hdump rfl rfl rfl).1 _ hreport⟩, hmissing, hcodeQuiet, hquiet rfl rfl,
    hcodeBoth.trans hcodeQuiet, before, ?_⟩
  rw [hbefore, hmessage, hcause]
  rfl

end Command

end LinkerMap
