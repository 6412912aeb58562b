import LinkerMap.Text.CharSet

/-! # Sets as sequences of octets

In UTF-8 a character is up to four octets. The members of an interval are those of a few sequences
of octet intervals: the interval is cut where the number of octets changes, and further until in
each piece the last octets run over all that can follow the first ones.
-/

namespace LinkerMap.Regex

open Text (Interval CharSet)

def octetCount (n : Nat) : Nat :=
  if n < 0x80 then 1 else if n < 0x800 then 2 else if n < 0x10000 then 3 else 4

/-- So many octets that follow the first, from the last bits of a code point. -/
def trailingOctets (n : Nat) : Nat → List Nat
  | 0 => []
  | k + 1 => (0x80 ||| ((n >>> (6 * k)) &&& 0x3F)) :: trailingOctets n k

def octets (n : Nat) : List Nat :=
  match octetCount n with
  | 1 => [n]
  | 2 => (0xC0 ||| (n >>> 6)) :: trailingOctets n 1
  | 3 => (0xE0 ||| (n >>> 12)) :: trailingOctets n 2
  | _ => (0xF0 ||| (n >>> 18)) :: trailingOctets n 3

/-- Cuts an interval behind a code point, if that is within it and not its last. -/
def cutBehind (n : Nat) (interval : Interval) : List Interval :=
  if interval.1 ≤ n && n < interval.2 then [(interval.1, n), (n + 1, interval.2)] else [interval]

def withoutSurrogates (interval : Interval) : List Interval :=
  if interval.1 < 0xE000 && 0xD7FF < interval.2 then
    [(interval.1, 0xD7FF), (0xE000, interval.2)].filter fun (first, last) => first ≤ last
  else [interval]

/-- Cuts an interval that is not within one block of code points that agree but for so many last
bits: into the rest of its first block, the blocks that it holds altogether, and the part of its
last block. -/
def cutAtBlocks (bits : Nat) (interval : Interval) : List Interval :=
  let (first, last) := interval
  let mask := (1 <<< bits) - 1
  if first >>> bits == last >>> bits then [interval]
  else
    let start := if first &&& mask == 0 then first else (first ||| mask) + 1
    let stop := if last &&& mask == mask then last + 1 else last - (last &&& mask)
    (if first < start then [(first, start - 1)] else []) ++
      (if start < stop then [(start, stop - 1)] else []) ++
      if stop ≤ last then [(stop, last)] else []

/-- The sequences of octet intervals of an interval of code points. -/
def octetSequences (interval : Interval) : List (List Interval) :=
  let pieces := (withoutSurrogates interval).flatMap (cutBehind 0x7F)
    |>.flatMap (cutBehind 0x7FF) |>.flatMap (cutBehind 0xFFFF) |>.flatMap fun piece =>
      if piece.2 < 0x80 then [piece]
      else (cutAtBlocks 6 piece).flatMap (cutAtBlocks 12) |>.flatMap (cutAtBlocks 18)
  pieces.map fun (first, last) => (octets first).zip (octets last)

def octetSequencesOf (members : CharSet) : List (List Interval) :=
  members.intervals.flatMap octetSequences

end LinkerMap.Regex
