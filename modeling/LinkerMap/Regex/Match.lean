import LinkerMap.Regex.Meaning
import LinkerMap.Regex.Reading

/-! # Matching

An expression matches a text if it matches some part of it. The places of a text are numbered from
before its first character to behind its last. A set of places is a number whose bits tell the
members, so that all parts of the text are tried at once: an expression takes the places where its
matches may start to the places where they end.
-/

namespace LinkerMap.Regex

def WordTest.holds (before behind : Bool) : WordTest → Bool
  | boundary => before != behind
  | noBoundary => before == behind
  | wordStart => !before && behind
  | wordEnd => before && !behind
  | wordStartHalf => !before
  | wordEndHalf => !behind

/-- Whether a test of a place holds, by the characters before and behind it. -/
def Look.holds (before? behind? : Option Char) : Look → Bool
  | textStart => before?.isNone
  | textEnd => behind?.isNone
  | lineStart false => before?.all (· == '\n')
  | lineStart true => before?.all fun c => c == '\n' || (c == '\r' && behind? != some '\n')
  | lineEnd false => behind?.all (· == '\n')
  | lineEnd true => behind?.all fun c => c == '\r' || (c == '\n' && before? != some '\r')
  | word test unicode =>
    let isWord := (Shorthand.word.set unicode).contains
    test.holds (before?.any isWord) (behind?.any isWord)

/-- A set of places, by bits. -/
abbrev Places := Nat

def Places.ofList (tests : List Bool) : Places :=
  tests.foldr (fun test places => 2 * places + test.toNat) 0

/-- The places where a test holds, the character in front of the text given. -/
def placesWhere (look : Look) (before? : Option Char) : List Char → Places
  | [] => (look.holds before? none).toNat
  | c :: cs => 2 * placesWhere look (some c) cs + (look.holds before? (some c)).toNat

/-- An expression over one text: what it does to sets of places. -/
inductive Moves where
  | stay
  | filter (places : Places)
  | step (places : Places)
  | sequence (first second : Moves)
  | either (left right : Moves)
  | repeated (body : Moves) (least : Nat) (most? : Option Nat)

mutual

def moves (text : List Char) : Regex → Moves
  | empty => .stay
  | literal cs =>
    cs.foldr (fun c rest => .sequence (.step (.ofList (text.map (· == c)))) rest) .stay
  | set members _ => .step (.ofList (text.map members.contains))
  | look asked => .filter (placesWhere asked none text)
  | repetition body least most? _ => .repeated (body.moves text) least most?
  | capture _ body => body.moves text
  | concat parts => movesOfAll text parts
  | choice branches => movesOfAny text branches

def movesOfAll (text : List Char) : List Regex → Moves
  | [] => .stay
  | r :: rs => .sequence (r.moves text) (movesOfAll text rs)

def movesOfAny (text : List Char) : List Regex → Moves
  | [] => .filter 0
  | r :: rs => .either (r.moves text) (movesOfAny text rs)

end

/-- Does the same over and over, so many times or until nothing changes. -/
def iterate (f : Places → Places) : Nat → Places → Places
  | 0, places => places
  | n + 1, places => if f places = places then places else iterate f n (f places)

namespace Moves

/-- The places reached from a set of places in a text of so many places. In as many repetitions as
there are places one stays where it is, so more of them reach nothing else. -/
def reach (size : Nat) : Moves → Places → Places
  | stay, places => places
  | filter held, places => places &&& held
  | step crossed, places => (places &&& crossed) <<< 1
  | sequence first second, places => second.reach size (first.reach size places)
  | either left right, places => left.reach size places ||| right.reach size places
  | repeated body least most?, places =>
    let start := iterate (body.reach size) (min least size) places
    let more := (most?.map (· - least)).getD size
    iterate (fun places => places ||| body.reach size places) (min more size) start

end Moves

def isIn (regex : Regex) (text : String) : Bool :=
  let chars := text.toList
  let size := chars.length + 1
  (regex.moves chars).reach size (1 <<< size - 1) != 0

def ofPattern (pattern : String) : Except Fault Regex := do
  return (← (← Pattern.read pattern.toList).regex {}).1

end LinkerMap.Regex
