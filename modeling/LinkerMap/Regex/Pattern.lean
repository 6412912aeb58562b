import LinkerMap.Regex.Bracket

/-! # Patterns as trees

A pattern read into its parts, each with its place: atoms, classes, groups, repetitions, sequences
and alternatives. Groups may nest only so deep.
-/

namespace LinkerMap.Regex

/-- What can be switched on and off within a group. -/
inductive Switch where
  | caseless
  | multiLine
  | dotAll
  | ungreedy
  | unicode
  | crlf
  | spaced
  deriving DecidableEq, Repr

def Switch.ofLetter? (c : Char) : Option Switch :=
  [('i', caseless), ('m', multiLine), ('s', dotAll), ('U', ungreedy), ('u', unicode), ('R', crlf),
    ('x', spaced)].lookup c

/-- Switches with what they are set to, no switch twice. -/
abbrev Settings := List (Switch × Bool)

/-- A pattern, or a part of one. A group that is captured has a number. A count without an upper
bound has none, and a repetition takes as much as it can or as little. -/
inductive Pattern where
  | empty (place : Nat)
  | settings (span : Span) (settings : Settings)
  | atom (atom : Atom)
  | bracket (bracket : Bracket)
  | group (span : Span) (number? : Option Nat) (settings : Settings) (body : Pattern)
  | repetition (span : Span) (body : Pattern) (least : Nat) (most? : Option Nat) (isLazy : Bool)
  | sequence (span : Span) (parts : List Pattern)
  | alternatives (span : Span) (branches : List Pattern)

namespace Pattern

def span : Pattern → Span
  | empty place => ⟨place, place⟩
  | atom a => a.span
  | bracket b => b.span
  | settings span _ | group span _ _ _ | repetition span _ _ _ _ | sequence span _ |
    alternatives span _ => span

/-- The sequence of parts that begins and ends at given places, the last part first. -/
def ofParts (start stop : Nat) : List Pattern → Pattern
  | [] => empty start
  | [part] => part
  | parts => sequence ⟨start, stop⟩ parts.reverse

def isRepeatable : Pattern → Bool
  | empty _ | settings _ _ => false
  | _ => true

end Pattern

mutual

def Bracket.tooDeep? (room : Nat) : Bracket → Option Span
  | .nested span _ body => if room = 0 then some span else body.tooDeep? (room - 1)
  | .union span items => if room = 0 then some span else Bracket.anyTooDeep? (room - 1) items
  | .operation span _ left right =>
    if room = 0 then some span else (left.tooDeep? (room - 1)).or (right.tooDeep? (room - 1))
  | _ => none

def Bracket.anyTooDeep? (room : Nat) : List Bracket → Option Span
  | [] => none
  | item :: items => (item.tooDeep? room).or (Bracket.anyTooDeep? room items)

end

mutual

/-- The first part that stands deeper than there is room for. -/
def Pattern.tooDeep? (room : Nat) : Pattern → Option Span
  | .empty _ | .settings _ _ | .atom _ => none
  | .bracket b => b.tooDeep? room
  | .group span _ _ body => if room = 0 then some span else body.tooDeep? (room - 1)
  | .repetition span body _ _ _ => if room = 0 then some span else body.tooDeep? (room - 1)
  | .sequence span parts => if room = 0 then some span else Pattern.anyTooDeep? (room - 1) parts
  | .alternatives span branches =>
    if room = 0 then some span else Pattern.anyTooDeep? (room - 1) branches

def Pattern.anyTooDeep? (room : Nat) : List Pattern → Option Span
  | [] => none
  | part :: parts => (part.tooDeep? room).or (Pattern.anyTooDeep? room parts)

end

end LinkerMap.Regex
