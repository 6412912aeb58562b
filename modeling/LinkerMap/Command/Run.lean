import LinkerMap.Command.Arguments
import LinkerMap.Conversion
import LinkerMap.Listing
import LinkerMap.Log.Filter
import LinkerMap.Text.Lines

/-! # The command

One run of the command: it reads its arguments, converts a map, and reports what it does unless it
is to be quiet. Notices and failures go to the error output.
-/

namespace LinkerMap.Command

open Text (unlines)

/-- What a run leaves: its exit code and its two outputs. -/
structure Outcome where
  exitCode : UInt8
  stdout : String
  stderr : String
  deriving DecidableEq, Repr

def banner : String := "map2idc 0.1.0"

/-- What notices are filed under in the log. -/
def logTarget : String := "map2idc::script"

def defaultInput : Path := ⟨"GZLE01.map"⟩

def helpText : List String := [
  banner,
  "  map2idc contributors",
  "  IDC script generator for CodeWarrior linker map files",
  "",
  "Usage:",
  "  map2idc [OPTIONS] [INPUT] [OUTPUT]",
  "",
  "Arguments:",
  "  [INPUT]   Input map file [default: GZLE01.map]",
  "  [OUTPUT]  Output IDC script [default: input with `.idc` extension]",
  "",
  "Options:",
  "  -d, --dump     Dump renamed segments and named symbols",
  "  -q, --quiet    Only print errors",
  "  -h, --help     Print help",
  "  -V, --version  Print version"]

def usageText : List String := [
  "Usage: map2idc [OPTIONS] [INPUT] [OUTPUT]",
  "",
  "For more information, try '--help'."]

def Options.input (options : Options) : Path :=
  options.input?.getD defaultInput

def Options.output (options : Options) : Path :=
  options.output?.getD (Conversion.defaultOutput options.input)

def say (options : Options) (lines : List String) : List String :=
  if options.quiet then [] else lines

def announceReading (options : Options) : List String :=
  [banner, "1. Read Map File and Split Sections", "  < " ++ options.input.text]

/-- The lines that tell what was read and announce the writing. -/
def announceWriting (options : Options) (sections : Sections) : List String :=
  ["  - found #" ++ toString sections.size ++ " sections", "2. Generate Script",
    "  > " ++ options.output.text]

/-- The lines that tell what was written. -/
def summary (found : Findings) : List String :=
  let segments := found.segments
  let symbols := found.symbols
  ["  - renamed #" ++ toString segments.segments.size ++ " segments " ++
      Terminal.strong ("(skipped " ++ toString segments.skipped ++ " rows)"),
    "  - named #" ++ toString symbols.symbols.size ++ " symbols, #" ++
      toString symbols.comments ++ " comments " ++
      Terminal.strong ("(skipped " ++ toString symbols.skipped ++ " rows, ignored " ++
        toString symbols.ignored ++ ")")] ++
  if symbols.missing.isEmpty then []
  else ["  - " ++ Terminal.yellow "no layout" ++ " for: " ++
    ", ".intercalate symbols.missing.toList]

def diagnosis (failure : Failure) : List String :=
  [Terminal.alarm "error" ++ ": " ++ failure.message,
    "  " ++ Terminal.blue "caused by" ++ ": " ++ failure.cause.message]

/-- The records of the notices that a filter lets through. -/
def logText (filter : Log.Filter) (notices : Array Notice) : String :=
  let allowed := notices.toList.filter fun notice =>
    filter.allows logTarget notice.level notice.message
  String.join (allowed.map fun notice => Log.record notice.level notice.message)

/-- The complaints about a specification. They are told twice over, once for each of the two times
that it is read. -/
def complaintText (complaints : List Log.FilterError) : String :=
  let once := unlines (complaints.map Log.FilterError.message)
  once ++ once

variable {m : Type → Type} [Monad m]

/-- Converts a map as the options ask. -/
def perform (disk : Disk m) (options : Options) (filter : Log.Filter) : m Outcome := do
  let announced := say options (announceReading options)
  match ← Conversion.readMap disk options.input with
  | .error failure => return ⟨1, unlines announced, unlines (diagnosis failure)⟩
  | .ok sections =>
    let announced := announced ++ say options (announceWriting options sections)
    let written ← Conversion.writeScript disk options.output sections
    let logged := logText filter written.notices
    match written.result with
    | .error failure => return ⟨1, unlines announced, logged ++ unlines (diagnosis failure)⟩
    | .ok found =>
      let listed := if options.dump then Listing.lines found else []
      return ⟨0, unlines (announced ++ say options (summary found) ++ listed), logged⟩

def halted : Halt → Outcome
  | .help => ⟨0, unlines helpText, ""⟩
  | .version => ⟨0, unlines [banner], ""⟩
  | .usage => ⟨2, "", unlines usageText⟩

/-- One run with arguments and, if there is one, a specification of the log. -/
def run (disk : Disk m) (arguments : List String) (logSpec? : Option String) : m Outcome := do
  let (filter, complaints) := (logSpec?.map Log.Filter.ofSpec).getD (.standard, [])
  let outcome ← match parse arguments with
    | .error halt => pure (halted halt)
    | .ok options => perform disk options filter
  return { outcome with stderr := complaintText complaints ++ outcome.stderr }

end LinkerMap.Command
