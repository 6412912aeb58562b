import LinkerMap.Text.CharSet

/-! # Regular expressions

What a pattern means, free of how it is written: characters, sets of them and tests of places, in
sequence, as alternatives and repeated. Expressions are built in a simple form: no sequence stands
in a sequence and no choice in a choice, characters side by side are one literal, and a choice
between single characters or sets is a set.
-/

namespace LinkerMap

/-- A test by the words before and behind a place. Half a word start has no word before it, half a
word end none behind it. -/
inductive Regex.WordTest where
  | boundary
  | noBoundary
  | wordStart
  | wordEnd
  | wordStartHalf
  | wordEndHalf
  deriving DecidableEq, Repr

/-- A test of a place. Lines may end by line feeds alone, or by carriage returns as well. Words are
those of all scripts, or of ASCII alone. -/
inductive Regex.Look where
  | textStart
  | textEnd
  | lineStart (returns : Bool)
  | lineEnd (returns : Bool)
  | word (test : Regex.WordTest) (unicode : Bool)
  deriving DecidableEq, Repr

/-- A regular expression. A set is one of characters, or one of octets where a pattern asks for
them. A repetition without an upper bound has none. -/
inductive Regex where
  | empty
  | literal (chars : List Char)
  | set (members : Text.CharSet) (octets : Bool)
  | look (look : Regex.Look)
  | repetition (body : Regex) (least : Nat) (most? : Option Nat) (isLazy : Bool)
  | capture (number : Nat) (body : Regex)
  | concat (parts : List Regex)
  | choice (branches : List Regex)

namespace Regex

open Text (CharSet)

mutual

def same : Regex → Regex → Bool
  | empty, empty => true
  | literal cs, literal ds => cs == ds
  | set s octets, set t octets' => s == t && octets == octets'
  | look l, look m => l == m
  | repetition r least most? isLazy, repetition r' least' most?' isLazy' =>
    least == least' && most? == most?' && isLazy == isLazy' && r.same r'
  | capture n r, capture n' r' => n == n' && r.same r'
  | concat rs, concat rs' => allSame rs rs'
  | choice rs, choice rs' => allSame rs rs'
  | _, _ => false

def allSame : List Regex → List Regex → Bool
  | [], [] => true
  | r :: rs, r' :: rs' => r.same r' && allSame rs rs'
  | _, _ => false

end

mutual

/-- How many characters a match has at least, if there can be a match. -/
def shortest? : Regex → Option Nat
  | empty | look _ => some 0
  | literal cs => some cs.length
  | set members _ => if members.isEmpty then none else some 1
  | repetition body least _ _ => body.shortest?.map (least * ·)
  | capture _ body => body.shortest?
  | concat parts => shortestOfAll? parts
  | choice branches => shortestOfAny? branches

def shortestOfAll? : List Regex → Option Nat
  | [] => some 0
  | r :: rs => do return (← r.shortest?) + (← shortestOfAll? rs)

def shortestOfAny? : List Regex → Option Nat
  | [] => none
  | [r] => r.shortest?
  | r :: rs => do return min (← r.shortest?) (← shortestOfAny? rs)

end

mutual

/-- How many characters a match has at most, if there is a bound and there can be a match. -/
def longest? : Regex → Option Nat
  | empty | look _ => some 0
  | literal cs => some cs.length
  | set members _ => if members.isEmpty then none else some 1
  | repetition body _ most? _ => do return (← most?) * (← body.longest?)
  | capture _ body => body.longest?
  | concat parts => longestOfAll? parts
  | choice branches => longestOfAny? branches

def longestOfAll? : List Regex → Option Nat
  | [] => some 0
  | r :: rs => do return (← r.longest?) + (← longestOfAll? rs)

def longestOfAny? : List Regex → Option Nat
  | [] => none
  | [r] => r.longest?
  | r :: rs => do return max (← r.longest?) (← longestOfAny? rs)

end

def never : Regex := set .none true

def ofSet (members : CharSet) (octets : Bool) : Regex :=
  match members.intervals with
  | [] => never
  | [(first, last)] =>
    if first = last then literal [Char.ofNat first] else set members octets
  | _ => set members octets

/-- The parts that an expression has in a sequence. -/
def parts : Regex → List Regex
  | empty => []
  | concat rs => rs
  | r => [r]

/-- Puts an expression in front of others, joined with the first if both are literals. -/
def consPart : Regex → List Regex → List Regex
  | literal cs, literal ds :: rs => literal (cs ++ ds) :: rs
  | r, rs => r :: rs

def sequence (regexes : List Regex) : Regex :=
  match (regexes.flatMap parts).foldr consPart [] with
  | [] => empty
  | [r] => r
  | rs => concat rs

def branches : Regex → List Regex
  | choice rs => rs
  | r => [r]

def singleCode? : Regex → Option Nat
  | literal [c] => some c.toNat
  | _ => none

def members? : Regex → Option CharSet
  | set s _ => some s
  | _ => none

def concat? : Regex → Option (List Regex)
  | concat rs => some rs
  | _ => none

def sharedParts (rs rs' : List Regex) : List Regex :=
  ((rs.zip rs').takeWhile fun (r, r') => r.same r').map (·.1)

/-- A choice in which a set stands for single characters and for sets. -/
def joined (regexes : List Regex) : Regex :=
  match regexes.flatMap branches with
  | [] => never
  | [r] => r
  | rs =>
    match rs.mapM singleCode?, rs.mapM members? with
    | some codes, _ => ofSet (.ofIntervals (codes.map fun n => (n, n))) false
    | none, some sets => ofSet (.unionAll sets) false
    | none, none => choice rs

/-- A choice between expressions. What all of them begin with stands in front of it. -/
def either (regexes : List Regex) : Regex :=
  match joined regexes with
  | choice rs =>
    match rs.mapM concat? with
    | some (first :: others) =>
      let shared := others.foldl sharedParts first
      if shared.isEmpty then choice rs
      else
        let rest := (first :: others).map fun parts => sequence (parts.drop shared.length)
        sequence (shared ++ [joined rest])
    | _ => choice rs
  | r => r

/-- An expression over and over. What matches nothing but the empty text is not repeated. -/
def repeated (body : Regex) (least : Nat) (most? : Option Nat) (isLazy : Bool) : Regex :=
  let isStill := body.longest? == some 0
  let least := if isStill then min least 1 else least
  let most? := if isStill then some (min (most?.getD 1) 1) else most?
  if least = 0 && most? = some 0 then empty
  else if least = 1 && most? = some 1 then body
  else repetition body least most? isLazy

end Regex

end LinkerMap
