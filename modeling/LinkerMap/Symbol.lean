import LinkerMap.Hex
import LinkerMap.Row.Classes

/-! # Symbols

A row of a section layout places a symbol: where it starts, its size, its address, the kind of the
row, its name, and the module it comes from, if any.
-/

namespace LinkerMap

/-- A symbol placed in a segment. -/
structure Symbol where
  start : Hex
  size : Hex
  address : Hex
  kind : String
  name : String
  module? : Option String
  deriving DecidableEq, Repr, Inhabited

namespace NameFlag

/-! The bits that say how a name is entered. -/

def check : Nat := 0x001
def isPublic : Nat := 0x002
def isNonPublic : Nat := 0x004
def isAuto : Nat := 0x020
def isNonAuto : Nat := 0x040
def noWarning : Nat := 0x100

end NameFlag

namespace Symbol

open Row

def namedKind : String := "4"

/-- A row holds the start, the size, the address, the kind and the name, with blanks in front of
each. -/
def pattern : List CharClass :=
  [blank, hex, blank, hex, blank, hex, blank, digit, blank, nonSpace]

/-- The module in what stands behind the name: the rest of the line without the blanks around
it. -/
def moduleOf? (rest : List Char) : Option String :=
  let found := Text.trimList ((rest.dropWhile blank).takeWhile (· != '\n'))
  if found.isEmpty then none else some (String.ofList found)

def ofRow? (row : String) : Option Symbol :=
  match find? pattern row.toList with
  | some ⟨[_, start, _, size, _, address, _, kind, _, name], rest⟩ =>
    some {
      start := ⟨String.ofList start⟩
      size := ⟨String.ofList size⟩
      address := ⟨String.ofList address⟩
      kind := String.ofList kind
      name := Text.trim (String.ofList name)
      module? := moduleOf? rest }
  | _ => none

/-- Other kinds of rows are markers and the like. -/
def isNamed (symbol : Symbol) : Bool :=
  symbol.kind == namedKind

/-- Names that the compiler makes up begin with an at sign. -/
def isLocal (symbol : Symbol) : Bool :=
  symbol.name.toList.head? == some '@'

/-- How the name is entered: a local name is kept out of the list of public names. -/
def flags (symbol : Symbol) : Nat :=
  let base := NameFlag.noWarning ||| NameFlag.check
  if symbol.isLocal then base ||| NameFlag.isNonPublic ||| NameFlag.isAuto
  else base ||| NameFlag.isPublic ||| NameFlag.isNonAuto

end Symbol

end LinkerMap
