/-! # Hexadecimal fields

A field is kept as it is written in the map. Its value is known when the digits fit in 64 bits.
-/

namespace LinkerMap

/-- A hexadecimal field, as written. -/
structure Hex where
  text : String
  deriving DecidableEq, Repr, Inhabited

namespace Hex

def digit? (c : Char) : Option Nat :=
  if '0' ≤ c ∧ c ≤ '9' then some (c.toNat - '0'.toNat)
  else if 'a' ≤ c ∧ c ≤ 'f' then some (c.toNat - 'a'.toNat + 10)
  else if 'A' ≤ c ∧ c ≤ 'F' then some (c.toNat - 'A'.toNat + 10)
  else none

/-- The number that hexadecimal digits denote, the most significant first. -/
def ofDigits? (digits : List Char) : Option Nat :=
  digits.foldlM (fun n c => (digit? c).map (16 * n + ·)) 0

def dropPlus : List Char → List Char
  | '+' :: digits => digits
  | digits => digits

/-- The value of a field: one plus sign may stand in front of its digits, there is a digit, and the
number fits in 64 bits. -/
def value? (hex : Hex) : Option Nat :=
  let digits := dropPlus hex.text.toList
  if digits.isEmpty then none else (ofDigits? digits).filter (· < UInt64.size)

def literal (hex : Hex) : String :=
  "0x" ++ hex.text

end Hex

def upperDigits (n : Nat) : List Char :=
  (Nat.toDigits 16 n).map Char.toUpper

def lowerDigits (n : Nat) : List Char :=
  Nat.toDigits 16 n

end LinkerMap
