import LinkerMap.Regex.Pattern
import LinkerMap.Text.Letter

/-! # Reading patterns

A pattern is read from its start. The groups that are open are kept with what stood before them, so
that a bracket closes the innermost one.
-/

namespace LinkerMap.Regex

structure GroupName where
  name : String
  span : Span
  deriving DecidableEq, Repr

/-- What is read of one group: the branches that are done and the parts of the one being read, both
from the last to the first. -/
structure Branches where
  first : Nat
  done : List Pattern
  start : Nat
  parts : List Pattern

namespace Branches

def startAt (place : Nat) : Branches := ⟨place, [], place, []⟩

def push (branches : Branches) (part : Pattern) : Branches :=
  { branches with parts := part :: branches.parts }

def branch (branches : Branches) (bar : Nat) : Branches :=
  ⟨branches.first, .ofParts branches.start bar branches.parts :: branches.done, bar + 1, []⟩

def pattern (branches : Branches) (stop : Nat) : Pattern :=
  let last := Pattern.ofParts branches.start stop branches.parts
  if branches.done.isEmpty then last
  else .alternatives ⟨branches.first, stop⟩ (last :: branches.done).reverse

end Branches

/-- A group that is open: its bracket, its number if it is captured, its settings, what is read
around it, and whether blanks mean nothing there. -/
structure OpenGroup where
  bracket : Span
  number? : Option Nat
  settings : Settings
  around : Branches
  spacedAround : Bool

/-- How far a pattern is read. -/
structure Progress where
  cursor : Cursor
  spaced : Bool := false
  captured : Nat := 0
  names : List GroupName := []
  groups : List OpenGroup := []
  current : Branches

/-- Reads switches up to the end of their list. `seen` holds those before, `negation?` the sign that
switches off what follows it, and `dangling` says that this sign was the last character. -/
def readSwitches (seen : List (Switch × Bool × Span)) (negation? : Option Span) (dangling : Bool)
    (offset : Nat) : List Char → Except Fault (Settings × Cursor)
  | [] => fail ⟨offset, offset⟩ .flagMissing
  | c :: cs =>
    let span : Span := ⟨offset, offset + 1⟩
    if c == ':' || c == ')' then
      match negation? with
      | some sign =>
        if dangling then fail sign .flagNegationDangling
        else return (seen.reverse.map fun (switch, on, _) => (switch, on), ⟨offset, c :: cs⟩)
      | none => return (seen.reverse.map fun (switch, on, _) => (switch, on), ⟨offset, c :: cs⟩)
    else if c == '-' then
      match negation? with
      | some earlier => .error ⟨span, .flagNegationRepeated, some earlier⟩
      | none => readSwitches seen (some span) true (offset + 1) cs
    else
      match Switch.ofLetter? c with
      | none => fail span .flagUnknown
      | some switch =>
        match seen.find? fun (earlier, _) => earlier == switch with
        | some (_, _, earlier) => .error ⟨span, .flagRepeated, some earlier⟩
        | none =>
          readSwitches ((switch, negation?.isNone, span) :: seen) negation? false (offset + 1) cs

/-- Whether a character may stand in the name of a group, at its start or behind it. -/
def isGroupNameChar (atStart : Bool) (c : Char) : Bool :=
  c == '_' || if atStart then Text.isLetter c
    else c == '.' || c == '[' || c == ']' || Text.isLetterOrNumber c

def readGroupName (names : List GroupName) (cursor : Cursor) :
    Except Fault (GroupName × Cursor) :=
  let head := cursor.rest.takeWhile (isGroupNameChar true) |>.take 1
  let name := head ++ (cursor.rest.drop head.length).takeWhile fun c =>
    !head.isEmpty && isGroupNameChar false c
  let close := cursor.forward name.length
  match close.char? with
  | none => fail close.here .groupNameUnclosed
  | some '>' =>
    let named : GroupName := ⟨String.ofList name, close.since cursor.offset⟩
    if name.isEmpty then fail cursor.here .groupNameEmpty
    else
      match names.find? (·.name == named.name) with
      | some earlier => .error ⟨named.span, .groupNameRepeated, some earlier.span⟩
      | none => return (named, close.bump)
  | some _ => fail close.ahead .groupNameCharacter

namespace Progress

def start (pattern : List Char) : Progress :=
  { cursor := .atStart pattern, current := .startAt 0 }

def push (progress : Progress) (part : Pattern) (behind : Cursor) : Progress :=
  { progress with cursor := behind, current := progress.current.push part }

def spacedUnder (progress : Progress) (settings : Settings) : Bool :=
  (settings.lookup .spaced).getD progress.spaced

def openGroup (progress : Progress) (number? : Option Nat) (settings : Settings)
    (inside : Cursor) : Progress :=
  { progress with
    cursor := inside
    spaced := progress.spacedUnder settings
    groups := ⟨progress.cursor.ahead, number?, settings, progress.current, progress.spaced⟩ ::
      progress.groups
    current := .startAt inside.offset }

def openCapture (progress : Progress) (inside : Cursor) : Progress :=
  let number := progress.captured + 1
  { progress.openGroup (some number) [] inside with captured := number }

/-- Reads what begins with an opening bracket: a group, or settings for the rest of the group
around. -/
def readOpen (progress : Progress) : Except Fault Progress := do
  let bracket := progress.cursor.ahead
  let inside := progress.cursor.step progress.spaced
  let ahead? := (["?=", "?!", "?<=", "?<!"].findSome? inside.past? : Option Cursor)
  match ahead?, (inside.past? "?P<").or (inside.past? "?<"), inside.past? "?" with
  | some behind, _, _ => fail (behind.since bracket.start) .lookaround
  | none, some name, _ =>
    let (named, behind) ← readGroupName progress.names name
    return { progress.openCapture behind with names := named :: progress.names }
  | none, none, some mark =>
    if mark.atEnd then fail bracket .groupUnclosed
    else
      let (settings, close) ← readSwitches [] none false mark.offset mark.rest
      if close.char? = some ')' then
        if mark.offset = close.offset then fail inside.here .repetitionMissing
        else
          let part := Pattern.settings (close.bump.since bracket.start) settings
          return { progress.push part close.bump with spaced := progress.spacedUnder settings }
      else return progress.openGroup none settings close.bump
  | none, none, none => return progress.openCapture inside

def readClose (progress : Progress) : Except Fault Progress :=
  match progress.groups with
  | [] => fail progress.cursor.ahead .groupUnopened
  | group :: groups =>
    let behind := progress.cursor.bump
    let body := progress.current.pattern progress.cursor.offset
    return { progress with
      cursor := behind
      spaced := group.spacedAround
      groups
      current := group.around.push
        (.group (behind.since group.bracket.start) group.number? group.settings body) }

/-- The part that a repetition repeats, and the branches without it. -/
def repeated (progress : Progress) : Except Fault (Pattern × Branches) :=
  match progress.current.parts with
  | part :: parts =>
    if part.isRepeatable then return (part, { progress.current with parts })
    else fail progress.cursor.here .repetitionMissing
  | [] => fail progress.cursor.here .repetitionMissing

/-- Moves over the sign that has a repetition take as little as it can, and tells whether there is
one. -/
def dropLazy (cursor : Cursor) : Bool × Cursor :=
  match cursor.past? "?" with
  | some behind => (true, behind)
  | none => (false, cursor)

def readSign (progress : Progress) (least : Nat) (most? : Option Nat) :
    Except Fault Progress := do
  let (part, branches) ← progress.repeated
  let (isLazy, behind) := dropLazy progress.cursor.bump
  let whole := Pattern.repetition (behind.since part.span.start) part least most? isLazy
  return { progress with cursor := behind, current := branches.push whole }

/-- Reads a number and the blanks around it. What is wrong with it is told by the result. -/
def readCount (spaced : Bool) (cursor : Cursor) : Except Fault Nat × Cursor :=
  let first := cursor.dropBlanks
  let (digits, behind) := first.readWhile spaced Char.isDigit
  let span := behind.since first.offset
  let value := digits.foldl (fun n c => 10 * n + (c.toNat - '0'.toNat)) 0
  let result :=
    if digits.isEmpty then fail span .countEmpty
    else if value < UInt32.size then return value
    else fail span .decimalTooLarge
  (result, behind.dropBlanks)

def readCounts (progress : Progress) : Except Fault Progress := do
  let spaced := progress.spaced
  let start := progress.cursor.offset
  let unclosed (cursor : Cursor) : Except Fault (Option Nat × Cursor) :=
    fail (cursor.since start) .countUnclosed
  let (part, branches) ← progress.repeated
  let first := progress.cursor.step spaced
  let (least, behind) := readCount spaced first
  let (most?, close) ←
    if first.atEnd then unclosed first
    else if behind.atEnd then unclosed behind
    else if behind.char? = some ',' then
      let second := behind.step spaced
      if second.atEnd then unclosed second
      else if second.char? = some '}' then pure (none, second)
      else do
        let _ ← least
        let (most, close) := readCount spaced second
        pure (some (← most), close)
    else do
      pure (some (← least), behind)
  let least ← least
  if close.char? ≠ some '}' then fail (close.since start) .countUnclosed
  else
    let (isLazy, behind) := dropLazy (close.step spaced)
    if most?.any (· < least) then fail (behind.since start) .countRange
    else
      let whole := Pattern.repetition (behind.since part.span.start) part least most? isLazy
      return { progress with cursor := behind, current := branches.push whole }

def readPart (progress : Progress) (c : Char) : Except Fault Progress :=
  if c == '(' then progress.readOpen
  else if c == ')' then progress.readClose
  else if c == '|' then
    return { progress with
      cursor := progress.cursor.bump
      current := progress.current.branch progress.cursor.offset }
  else if c == '?' then progress.readSign 0 (some 1)
  else if c == '*' then progress.readSign 0 none
  else if c == '+' then progress.readSign 1 none
  else if c == '{' then progress.readCounts
  else if c == '[' then do
    let (bracket, behind) ← readBracket progress.spaced progress.cursor
    return progress.push (.bracket bracket) behind
  else do
    let (atom, behind) ← readAtom progress.spaced progress.cursor c
    return progress.push (.atom atom) behind

def finish (progress : Progress) : Except Fault Pattern :=
  match progress.groups with
  | [] => return progress.current.pattern progress.cursor.offset
  | group :: _ => fail group.bracket .groupUnclosed

/-- Reads on, as far as the steps go. -/
def readOn : Nat → Progress → Except Fault Pattern
  | 0, progress => progress.finish
  | steps + 1, progress =>
    let cursor := progress.cursor.skip progress.spaced
    let progress := { progress with cursor }
    match cursor.char? with
    | none => progress.finish
    | some c => do readOn steps (← progress.readPart c)

end Progress

def nestingLimit : Nat := 250

def Pattern.read (pattern : List Char) : Except Fault Pattern := do
  let whole ← (Progress.start pattern).readOn (pattern.length + 1)
  match whole.tooDeep? nestingLimit with
  | some span => fail span (.nesting nestingLimit)
  | none => return whole

end LinkerMap.Regex
