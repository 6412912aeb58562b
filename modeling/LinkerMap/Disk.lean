import LinkerMap.Path

/-! # Disks

What a conversion asks of the place where its files are, and why it may be refused.
-/

namespace LinkerMap

inductive Cause where
  | noEntry
  | notDirectory
  | isDirectory
  | noSpace
  | nameTooLong
  | zeroInName
  | endless
  | other (code : Nat) (text : String)
  deriving DecidableEq, Repr

namespace Cause

/-- The wording of a cause that the system numbers. -/
def numbered (code : Nat) (text : String) : String :=
  text ++ " (os error " ++ toString code ++ ")"

def message : Cause → String
  | noEntry => numbered 2 "No such file or directory"
  | notDirectory => numbered 20 "Not a directory"
  | isDirectory => numbered 21 "Is a directory"
  | noSpace => numbered 28 "No space left on device"
  | nameTooLong => numbered 36 "File name too long"
  | zeroInName => "file name contained an unexpected NUL byte"
  | endless => "out of memory"
  | other code text => numbered code text

end Cause

/-- The use of a file in four steps. `access` opens a file to be read and `read` gives all it holds;
`create` makes an empty file, in place of the one that is there, and `write` fills it. -/
structure Disk (m : Type → Type) where
  access : Path → m (Except Cause Unit)
  read : Path → m (Except Cause ByteArray)
  create : Path → m (Except Cause Unit)
  write : Path → ByteArray → m (Except Cause Unit)

end LinkerMap
