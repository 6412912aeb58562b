import LinkerMap.Regex.Expression
import LinkerMap.Regex.Literals

/-! # The size of expressions

An expression is run by two machines, one that reads a text forward and tells what is captured, and
one that reads it backward. A part that is repeated so many times has its states as many times. An
expression is refused if one of its machines takes too much room.
-/

namespace LinkerMap.Regex

mutual

/-- Whether a match can only begin at the start of a text, because it begins with a test for it. -/
def startsText : Regex → Bool
  | look .textStart => true
  | capture _ body => body.startsText
  | repetition body least _ _ => least != 0 && body.startsText
  | concat parts => anyStartsText parts
  | choice branches => allStartText branches
  | _ => false

def anyStartsText : List Regex → Bool
  | [] => false
  | r :: rs => r.startsText || (r.longest? == some 0 && anyStartsText rs)

def allStartText : List Regex → Bool
  | [] => true
  | r :: rs => r.startsText && allStartText rs

end

mutual

/-- Whether a match can only end at the end of a text, because it ends with a test for it. -/
def endsText : Regex → Bool
  | look .textEnd => true
  | capture _ body => body.endsText
  | repetition body least _ _ => least != 0 && body.endsText
  | concat parts => anyEndsText parts
  | choice branches => allEndText branches
  | _ => false

def anyEndsText : List Regex → Bool
  | [] => false
  | r :: rs => anyEndsText rs || (rs.all (·.longest? == some 0) && r.endsText)

def allEndText : List Regex → Bool
  | [] => true
  | r :: rs => r.endsText && allEndText rs

end

def octetsOf (chars : List Char) : List Nat := chars.flatMap fun c => octets c.toNat

def literalOctets? (direction : Direction) : Regex → Option (List Nat)
  | literal cs =>
    match direction with
    | .forward => some (octetsOf cs)
    | .backward => some (octetsOf cs).reverse
  | _ => none

open Build in
mutual

/-- Adds the states of an expression, and tells whether the last of them branches. -/
def build (direction : Direction) : Regex → Build Bool
  | empty | look _ => do
    let _ ← add 1 0
    return false
  | literal cs => do
    let _ ← add (octetsOf cs).length 0
    return false
  | set members _ => do
    addSet direction members
    return false
  | capture _ body =>
    match direction with
    | .forward => do
      let _ ← add 1 0
      let branches ← body.build direction
      let _ ← add 1 0
      goOn branches
      return false
    | .backward => body.build direction
  | concat parts => do
    return (← buildAll direction none parts).getD false
  | choice branches =>
    match branches.mapM (literalOctets? direction) with
    | some literals => do
      Literals.add literals
      return false
    | none => do
      buildAny direction 0 branches
      return false
  | repetition body least most? _ => do
    match least, most? with
    | 0, some 1 =>
      let _ ← add 1 0
      let branches ← body.build direction
      let _ ← add 1 0
      branch 2
      goOn branches
      return false
    | 0, none =>
      if body.shortest?.any (0 < ·) then
        let _ ← add 1 0
        let branches ← body.build direction
        branch 1
        goOn branches
        return true
      else
        let branches ← body.build direction
        let _ ← add 3 0
        goOn branches
        branch 4
        return false
    | n + 1, none =>
      let branches ← body.build direction
      let branches ← times (body.build direction) n branches
      let _ ← add 1 0
      goOn branches
      branch 1
      return true
    | 0, some most =>
      let _ ← add 2 0
      goOn (← optional (body.build direction) most false)
      return false
    | n + 1, some most =>
      let branches ← body.build direction
      let branches ← times (body.build direction) n branches
      if most = n + 1 then return branches
      else
        let _ ← add 1 0
        goOn (← optional (body.build direction) (most - (n + 1)) branches)
        return false

/-- Adds the states of parts in the order that they are read in. It is given whether the last state
before them branches, if there is one, and tells it of the last state of all. -/
def buildAll (direction : Direction) (before? : Option Bool) : List Regex → Build (Option Bool)
  | [] => return before?
  | r :: rs =>
    match direction with
    | .forward => do
      let branches ← r.build direction
      goOn (before?.getD false)
      buildAll direction (some branches) rs
    | .backward => do
      let before? ← buildAll direction before? rs
      let branches ← r.build direction
      goOn (before?.getD false)
      return some branches

/-- Adds the states of branches, of which there are some already. The states that lead to them and
on from them come behind the first two. -/
def buildAny (direction : Direction) (built : Nat) : List Regex → Build Unit
  | [] => return
  | r :: rs => do
    let branches ← r.build direction
    if built = 1 then
      let _ ← add 2 0
    branch 1
    goOn branches
    buildAny direction (built + 1) rs

end

open Build in
/-- Builds the machine of an expression. Unless a match begins at the end of the text that is read
first, the machine begins with states that pass over octets. -/
def machine (direction : Direction) (regex : Regex) : Build Unit := do
  let isAnchored := match direction with
    | .forward => regex.startsText
    | .backward => regex.endsText
  if isAnchored then
    let _ ← add 1 0
  else
    let _ ← add 3 stepRoom
    branch 2
  let branches ← (match direction with
    | .forward => build .forward (capture 0 regex)
    | .backward => build .backward regex : Build Bool)
  let _ ← add 1 0
  goOn branches

def isTooLarge (regex : Regex) : Bool :=
  (regex.machine .forward {}).isNone || (regex.machine .backward {}).isNone

end LinkerMap.Regex
