import LinkerMap.Command.Run

/-! # The program

The command on the files of the machine.
-/

namespace LinkerMap

def Cause.ofError : IO.Error → Cause
  | .noFileOrDirectory _ code details | .interrupted _ code details => .other code.toNat details
  | .alreadyExists _ code details | .invalidArgument _ code details
  | .permissionDenied _ code details | .resourceExhausted _ code details
  | .inappropriateType _ code details | .noSuchThing _ code details => .other code.toNat details
  | .otherError code details | .resourceBusy code details | .resourceVanished code details
  | .unsupportedOperation code details | .hardwareFault code details
  | .unsatisfiedConstraints code details | .illegalOperation code details
  | .protocolError code details | .timeExpired code details => .other code.toNat details
  | .unexpectedEof => .other 0 "unexpected end of file"
  | .userError text => .other 0 text

def attempt (action : IO α) : IO (Except Cause α) := do
  try return .ok (← action)
  catch error => return .error (.ofError error)

/-- The files of the machine. -/
def machineDisk : Disk IO where
  access path := attempt do
    discard (IO.FS.Handle.mk path.text .read)
  read path := attempt (IO.FS.readBinFile path.text)
  create path := attempt do
    discard (IO.FS.Handle.mk path.text .write)
  write path content := attempt do
    let handle ← IO.FS.Handle.mk path.text .write
    handle.write content
    handle.flush

end LinkerMap

open LinkerMap in
def main (arguments : List String) : IO UInt32 := do
  let outcome ← Command.run machineDisk arguments (← IO.getEnv "RUST_LOG")
  (← IO.getStdout).putStr outcome.stdout
  (← IO.getStderr).putStr outcome.stderr
  return outcome.exitCode.toUInt32
