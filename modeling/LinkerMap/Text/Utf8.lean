/-! # UTF-8

Decoding octets that need not be UTF-8. A sequence that breaks off, or that no character begins
with, becomes one replacement character: the octets dropped for it are the longest that could
still have begun a character.
-/

namespace LinkerMap.Text

/-- Stands for octets that are no character. -/
def replacement : Char := '\uFFFD'

/-- What a decoder has read of a character: `owing value more low high` has the bits `value`, lacks
an octet from `low` to `high`, and then `more` continuation octets. -/
inductive Pending where
  | nothing
  | owing (value more : Nat) (low high : UInt8)
  deriving DecidableEq, Repr

namespace Pending

def begin (b : UInt8) : List Char × Pending :=
  if b < 0x80 then ([Char.ofNat b.toNat], nothing)
  else if b < 0xC2 then ([replacement], nothing)
  else if b < 0xE0 then ([], owing (b.toNat - 0xC0) 0 0x80 0xBF)
  else if b = 0xE0 then ([], owing 0 1 0xA0 0xBF)
  else if b = 0xED then ([], owing 0xD 1 0x80 0x9F)
  else if b < 0xF0 then ([], owing (b.toNat - 0xE0) 1 0x80 0xBF)
  else if b = 0xF0 then ([], owing 0 2 0x90 0xBF)
  else if b < 0xF4 then ([], owing (b.toNat - 0xF0) 2 0x80 0xBF)
  else if b = 0xF4 then ([], owing 4 2 0x80 0x8F)
  else ([replacement], nothing)

/-- Reads one octet: the characters that are now known, and what is pending after it. -/
def read : Pending → UInt8 → List Char × Pending
  | nothing, b => begin b
  | owing value more low high, b =>
    if low ≤ b ∧ b ≤ high then
      let value := value * 64 + (b.toNat - 0x80)
      match more with
      | 0 => ([Char.ofNat value], nothing)
      | more + 1 => ([], owing value more 0x80 0xBF)
    else
      let (known, pending) := begin b
      (replacement :: known, pending)

def finish : Pending → List Char
  | nothing => []
  | owing .. => [replacement]

end Pending

/-- Decodes octets behind a text that is already decoded. -/
def decodeFrom (done : String) (pending : Pending) : List UInt8 → String
  | [] => done ++ String.ofList pending.finish
  | b :: bs =>
    let (known, pending) := pending.read b
    decodeFrom (known.foldl String.push done) pending bs

def decode (bytes : ByteArray) : String :=
  decodeFrom "" .nothing bytes.data.toList

end LinkerMap.Text
