import LinkerMap.Path

/-! # Arguments

The arguments of the command: two switches, two requests that are answered at once, and up to two
paths. Arguments are read from left to right, and the first that asks for an answer or cannot be
read ends the reading.
-/

namespace LinkerMap.Command

structure Options where
  input? : Option Path := none
  output? : Option Path := none
  dump : Bool := false
  quiet : Bool := false
  deriving DecidableEq, Repr, Inhabited

inductive Flag where
  | dump
  | quiet
  | help
  | version
  deriving DecidableEq, Repr

/-- Why the reading of the arguments ends early. -/
inductive Halt where
  | help
  | version
  | usage
  deriving DecidableEq, Repr

namespace Flag

def ofWord? : List Char → Option Flag := fun word =>
  if word = "dump".toList then some dump
  else if word = "quiet".toList then some quiet
  else if word = "help".toList then some help
  else if word = "version".toList then some version
  else none

def ofLetter? : Char → Option Flag
  | 'd' => some dump
  | 'q' => some quiet
  | 'h' => some help
  | 'V' => some version
  | _ => none

end Flag

namespace Options

/-- Takes a flag, or what there is in its place. A switch may be given once. -/
def takeFlag (options : Options) : Option Flag → Except Halt Options
  | some .dump => if options.dump then .error .usage else .ok { options with dump := true }
  | some .quiet => if options.quiet then .error .usage else .ok { options with quiet := true }
  | some .help => .error .help
  | some .version => .error .version
  | none => .error .usage

/-- Takes a path. It may not be empty, and there are two at most. -/
def takePath (options : Options) (text : String) : Except Halt Options :=
  if text.isEmpty then .error .usage
  else if options.input?.isNone then .ok { options with input? := some ⟨text⟩ }
  else if options.output?.isNone then .ok { options with output? := some ⟨text⟩ }
  else .error .usage

/-- Takes one argument in front of two dashes that stand alone. A dash alone is a path. -/
def take (options : Options) (argument : String) : Except Halt Options :=
  match argument.toList with
  | '-' :: '-' :: word => options.takeFlag (Flag.ofWord? word)
  | '-' :: letter :: letters =>
    (letter :: letters).foldlM (fun options letter => options.takeFlag (Flag.ofLetter? letter))
      options
  | _ => options.takePath argument

/-- Takes all arguments. Behind two dashes that stand alone there are only paths. -/
def takeAll (options : Options) : List String → Except Halt Options
  | [] => .ok options
  | "--" :: arguments => arguments.foldlM takePath options
  | argument :: arguments => do
    let options ← options.take argument
    options.takeAll arguments

end Options

def parse (arguments : List String) : Except Halt Options :=
  Options.takeAll {} arguments

end LinkerMap.Command
