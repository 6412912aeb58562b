import LinkerMap.Regex.Atom

/-! # Bracketed classes

A class between brackets holds characters, ranges, shorthands and classes. Two classes side by side
are joined by an operation, and the operations of one class are carried out from the left.
-/

namespace LinkerMap.Regex

inductive AsciiClass where
  | alnum
  | alpha
  | ascii
  | blank
  | cntrl
  | digit
  | graph
  | lower
  | print
  | punct
  | space
  | upper
  | word
  | xdigit
  deriving DecidableEq, Repr

def AsciiClass.ofName? (name : String) : Option AsciiClass :=
  [("alnum", alnum), ("alpha", alpha), ("ascii", ascii), ("blank", blank), ("cntrl", cntrl),
    ("digit", digit), ("graph", graph), ("lower", lower), ("print", print), ("punct", punct),
    ("space", space), ("upper", upper), ("word", word), ("xdigit", xdigit)].lookup name

/-- What two classes can be joined by. -/
inductive Operation where
  | intersection
  | difference
  | symmetricDifference
  deriving DecidableEq, Repr

def Operation.signs : List (String × Operation) :=
  [("&&", intersection), ("--", difference), ("~~", symmetricDifference)]

inductive Bracket where
  | empty (place : Nat)
  | literal (literal : Literal)
  | range (first last : Literal)
  | named (span : Span) (name : AsciiClass) (negated : Bool)
  | shorthand (span : Span) (kind : Shorthand) (negated : Bool)
  | property (span : Span) (name : PropertyName) (negated : Bool)
  | nested (span : Span) (negated : Bool) (body : Bracket)
  | union (span : Span) (items : List Bracket)
  | operation (span : Span) (operation : Operation) (left right : Bracket)

namespace Bracket

def span : Bracket → Span
  | empty place => ⟨place, place⟩
  | literal l => l.span
  | range first last => ⟨first.span.start, last.span.stop⟩
  | named span _ _ | shorthand span _ _ | property span _ _ | nested span _ _ | union span _ |
    operation span _ _ _ => span

/-- The class of items, the last first. -/
def ofItems (place : Nat) : List Bracket → Bracket
  | [] => empty place
  | [item] => item
  | last :: items =>
    let first := (items.getLast?.map (·.span.start)).getD last.span.start
    union ⟨first, last.span.stop⟩ (last :: items).reverse

def ofAtom : Atom → Except Fault Bracket
  | .literal l => return literal l
  | .shorthand span kind negated => return shorthand span kind negated
  | .property span name negated => return property span name negated
  | .anything span | .assertion span _ => fail span .classEscape

def boundOfAtom : Atom → Except Fault Literal
  | .literal l => return l
  | atom => fail atom.span .classRangeBound

end Bracket

/-- A class that is being read: its opening, the items of the class around it, the operation that
waits for its right side, and the items since, the last first. -/
structure OpenBracket where
  opening : Span
  negated : Bool
  waiting? : Option (Operation × Bracket) := none
  place : Nat
  items : List Bracket

namespace OpenBracket

def push (level : OpenBracket) (item : Bracket) : OpenBracket :=
  { level with items := item :: level.items }

/-- What is read so far, the waiting operation carried out. -/
def body (level : OpenBracket) : Bracket :=
  let right := Bracket.ofItems level.place level.items
  match level.waiting? with
  | none => right
  | some (operation, left) =>
    .operation ⟨left.span.start, right.span.stop⟩ operation left right

/-- Has what is read so far wait for the right side of an operation, that begins at a place. -/
def await (level : OpenBracket) (operation : Operation) (place : Nat) : OpenBracket :=
  { level with waiting? := some (operation, level.body), place, items := [] }

end OpenBracket

/-- Reads the opening of a class: the bracket, the sign of negation, and the dashes or the closing
bracket that stand for themselves there. -/
def readOpening (spaced : Bool) (cursor : Cursor) : Except Fault (OpenBracket × Cursor) :=
  let start := cursor.offset
  let first := cursor.step spaced
  let negated := first.char? = some '^'
  let first := if negated then first.step spaced else first
  if first.atEnd then fail (first.since start) .classUnclosed
  else
    let (dashes, behind) := first.readWhile spaced (· == '-')
    let items := dashes.mapIdx fun i c =>
      Bracket.literal ⟨⟨first.offset + i, first.offset + i + 1⟩, c, false⟩
    if behind.atEnd then fail ⟨start, start⟩ .classUnclosed
    else if dashes.isEmpty && first.char? = some ']' then
      let behind := first.step spaced
      if behind.atEnd then fail (behind.since start) .classUnclosed
      else return (⟨behind.since start, negated, none, first.offset,
        [.literal ⟨first.ahead, ']', false⟩]⟩, behind)
    else return (⟨behind.since start, negated, none, first.offset, items.reverse⟩, behind)

def readNamed? (cursor : Cursor) : Option (Bracket × Cursor) := do
  let sign ← cursor.past? "[:"
  let (negated, first) := match sign.past? "^" with
    | some behind => (true, behind)
    | none => (false, sign)
  let name := first.rest.takeWhile (· != ':')
  let behind ← (first.forward name.length).past? ":]"
  let kind ← AsciiClass.ofName? (String.ofList name)
  return (.named (behind.since cursor.offset) kind negated, behind)

def readMember (spaced : Bool) (cursor : Cursor) (c : Char) : Except Fault (Atom × Cursor) :=
  if c == '\\' then readEscape spaced cursor else return (.plain cursor c, cursor.bump)

/-- Reads an item that begins with a character: a range if a dash follows that stands neither before
the end nor before another dash. -/
def readItem (spaced : Bool) (opening : Span) (cursor : Cursor) (c : Char) :
    Except Fault (Bracket × Cursor) := do
  let (atom, behind) ← readMember spaced cursor c
  let dash := behind.skip spaced
  let next? := dash.nextMeant? spaced
  if dash.atEnd then fail opening .classUnclosed
  else if dash.char? ≠ some '-' ∨ next? = some ']' ∨ next? = some '-' then
    return (← Bracket.ofAtom atom, dash)
  else
    let second := dash.step spaced
    match second.char? with
    | none => fail opening .classUnclosed
    | some d =>
      let (atom', behind) ← readMember spaced second d
      let first ← Bracket.boundOfAtom atom
      let last ← Bracket.boundOfAtom atom'
      if first.char ≤ last.char then return (.range first last, behind)
      else fail ⟨first.span.start, last.span.stop⟩ .classRange

def operationAt? (cursor : Cursor) : Option (Operation × Cursor) :=
  Operation.signs.findSome? fun (sign, operation) =>
    (cursor.past? sign).map fun behind => (operation, behind)

def closeBracket (level : OpenBracket) (cursor : Cursor) : Bracket × Cursor :=
  (.nested (cursor.bump.since level.opening.start) level.negated level.body, cursor.bump)

/-- Reads on in a class within others, the innermost first, as far as the steps go. -/
def readLevels (spaced : Bool) :
    Nat → OpenBracket → List OpenBracket → Cursor → Except Fault (Bracket × Cursor)
  | 0, level, _, _ => fail level.opening .classUnclosed
  | steps + 1, level, outer, cursor =>
    let cursor := cursor.skip spaced
    match cursor.char?, operationAt? cursor, readNamed? cursor with
    | none, _, _ => fail level.opening .classUnclosed
    | some _, some (operation, behind), _ =>
      readLevels spaced steps (level.await operation behind.offset) outer behind
    | some _, none, some (item, behind) => readLevels spaced steps (level.push item) outer behind
    | some '[', none, none => do
      let (inner, behind) ← readOpening spaced cursor
      readLevels spaced steps inner (level :: outer) behind
    | some ']', none, none =>
      let (bracket, behind) := closeBracket level cursor
      match outer with
      | [] => return (bracket, behind)
      | parent :: outer => readLevels spaced steps (parent.push bracket) outer behind
    | some c, none, none => do
      let (item, behind) ← readItem spaced level.opening cursor c
      readLevels spaced steps (level.push item) outer behind

def readBracket (spaced : Bool) (cursor : Cursor) : Except Fault (Bracket × Cursor) := do
  let (level, behind) ← readOpening spaced cursor
  readLevels spaced (behind.rest.length + 1) level [] behind

end LinkerMap.Regex
