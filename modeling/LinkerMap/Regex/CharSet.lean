import LinkerMap.Regex.Bracket
import LinkerMap.Text.Property

/-! # Sets of patterns

The sets of characters that the names and shorthands of patterns stand for, and the operations on
sets.
-/

namespace LinkerMap.Regex

open Text (CharSet Interval Property Category)

def Operation.apply (operation : Operation) (s t : CharSet) : CharSet :=
  match operation with
  | intersection => s.intersection t
  | difference => s.difference t
  | symmetricDifference => s.symmetricDifference t

def asciiLetters : List Interval := [(0x41, 0x5A), (0x61, 0x7A)]

def AsciiClass.intervals : AsciiClass → List Interval
  | alnum => (0x30, 0x39) :: asciiLetters
  | alpha => asciiLetters
  | ascii => [(0x00, 0x7F)]
  | blank => [(0x09, 0x09), (0x20, 0x20)]
  | cntrl => [(0x00, 0x1F), (0x7F, 0x7F)]
  | digit => [(0x30, 0x39)]
  | graph => [(0x21, 0x7E)]
  | lower => [(0x61, 0x7A)]
  | print => [(0x20, 0x7E)]
  | punct => [(0x21, 0x2F), (0x3A, 0x40), (0x5B, 0x60), (0x7B, 0x7E)]
  | space => [(0x09, 0x0D), (0x20, 0x20)]
  | upper => [(0x41, 0x5A)]
  | word => (0x30, 0x39) :: (0x5F, 0x5F) :: asciiLetters
  | xdigit => Text.asciiHexDigits

def AsciiClass.set (kind : AsciiClass) : CharSet := .ofIntervals kind.intervals

/-- The set of a shorthand, among all characters or within ASCII. A word is made of what is
alphabetic, marks, decimal digits, connectors and the controls that join. -/
def Shorthand.set (unicode : Bool) : Shorthand → CharSet
  | digit => if unicode then Category.decimalNumber.set else AsciiClass.digit.set
  | blank => if unicode then Property.whiteSpace.set else AsciiClass.space.set
  | word =>
    if unicode then
      .unionAll [Property.alphabetic.set, Property.joinControl.set,
        Category.setOf (.decimalNumber :: .connectorPunctuation :: Category.marks)]
    else AsciiClass.word.set

/-- The letters of ASCII in an interval, each in its other case. -/
def otherAsciiCase (interval : Interval) : List Interval :=
  let shared (first last : Nat) : Interval := (max first interval.1, min last interval.2)
  let raised := shared 0x61 0x7A
  let lowered := shared 0x41 0x5A
  (if raised.1 ≤ raised.2 then [(raised.1 - 0x20, raised.2 - 0x20)] else []) ++
    if lowered.1 ≤ lowered.2 then [(lowered.1 + 0x20, lowered.2 + 0x20)] else []

/-- The characters that differ from a member in the case of a letter of ASCII alone. -/
def asciiCaseless (set : CharSet) : CharSet :=
  set.union (.ofIntervals (set.intervals.flatMap otherAsciiCase))

end LinkerMap.Regex
