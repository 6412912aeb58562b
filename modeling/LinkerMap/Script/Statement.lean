import LinkerMap.Hex
import LinkerMap.Script.Emission

/-! # Statements and routines

A script is made of routines without parameters, and a routine of statements, one on a line.
-/

namespace LinkerMap

inductive Statement where
  | call (routine : String)
  | renameSeg (address : Hex) (name : String)
  | makeNameEx (address : Hex) (name : String) (flags : Nat)
  | makeComm (address : Hex) (text : String)
  deriving DecidableEq, Repr

namespace Statement

/-- A name or a comment as an argument. It is not escaped. -/
def argument (text : String) : String :=
  "\"" ++ text ++ "\""

/-- The line of a statement, indented by a tab. -/
def text : Statement → String
  | call routine => "\t" ++ routine ++ "();"
  | renameSeg address name => "\tRenameSeg(" ++ address.literal ++ ", " ++ argument name ++ ");"
  | makeNameEx address name flags =>
    "\tMakeNameEx(" ++ address.literal ++ ", " ++ argument name ++ ", 0x" ++
      String.ofList (lowerDigits flags) ++ ");"
  | makeComm address comment =>
    "\tMakeComm(" ++ address.literal ++ ", " ++ argument comment ++ ");"

end Statement

namespace Emission

def openRoutine (name : String) : Emission Unit := do
  write ("static " ++ name ++ "()\n")
  write "\x7b\n"

def statement (s : Statement) : Emission Unit :=
  write (s.text ++ "\n")

def closeRoutine : Emission Unit :=
  write "\x7d\n"

/-- Writes a routine of statements that are known beforehand. -/
def routine (name : String) (body : List Statement) : Emission Unit := do
  openRoutine name
  body.forM statement
  closeRoutine

end Emission

end LinkerMap
