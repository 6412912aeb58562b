import LinkerMap.Hex
import LinkerMap.Regex.Cursor

/-! # Atoms of patterns

An atom is a character that stands for itself, a shorthand for a set of characters, or an assertion
about a place. Most of what is not a plain character is written behind a backslash.
-/

namespace LinkerMap.Regex

/-- A character that stands for itself. As an octet it is written by two hexadecimal digits. -/
structure Literal where
  span : Span
  char : Char
  isOctet : Bool := false
  deriving DecidableEq, Repr

/-- The sets that a letter behind a backslash stands for. -/
inductive Shorthand where
  | digit
  | blank
  | word
  deriving DecidableEq, Repr

/-- What can be asked of a place. Half a word start has no word before it, half a word end none
behind it. -/
inductive Assertion where
  | lineStart
  | lineEnd
  | textStart
  | textEnd
  | boundary
  | noBoundary
  | wordStart
  | wordEnd
  | wordStartHalf
  | wordEndHalf
  deriving DecidableEq, Repr

/-- How a property of characters is named, alone or with one of its values. -/
inductive PropertyName where
  | single (name : String)
  | valued (name value : String)
  deriving DecidableEq, Repr

inductive Atom where
  | literal (literal : Literal)
  | anything (span : Span)
  | assertion (span : Span) (assertion : Assertion)
  | shorthand (span : Span) (kind : Shorthand) (negated : Bool)
  | property (span : Span) (name : PropertyName) (negated : Bool)
  deriving DecidableEq, Repr

namespace Atom

def span : Atom → Span
  | literal l => l.span
  | anything span | assertion span _ | shorthand span _ _ | property span _ _ => span

def plain (cursor : Cursor) (c : Char) : Atom := .literal ⟨cursor.ahead, c, false⟩

end Atom

def isHexDigit (c : Char) : Bool := (Hex.digit? c).isSome

def charOfHex? (digits : List Char) : Option Char :=
  (Hex.ofDigits? digits).bind fun n => if n.isValidChar then some (Char.ofNat n) else none

def readHexDigits (spaced : Bool) : Nat → Cursor → Except Fault (List Char × Cursor)
  | 0, cursor => return ([], cursor)
  | k + 1, cursor =>
    match cursor.char? with
    | none => fail cursor.here .escapeUnfinished
    | some c =>
      if isHexDigit c then do
        let (cs, behind) ← readHexDigits spaced k (cursor.step spaced)
        return (c :: cs, behind)
      else fail cursor.ahead .hexDigit

def readBracedHex (spaced : Bool) (start : Nat) (cursor : Cursor) : Except Fault (Atom × Cursor) :=
  let (digits, close) := (cursor.step spaced).readWhile spaced isHexDigit
  match close.char? with
  | none => fail (close.since cursor.offset) .escapeUnfinished
  | some '}' =>
    let behind := close.step spaced
    if digits.isEmpty then fail (behind.since cursor.offset) .hexEmpty
    else
      match charOfHex? digits with
      | some c => return (.literal ⟨behind.since start, c, false⟩, behind)
      | none => fail (close.since (cursor.offset + 1)) .hexNoCharacter
  | some _ => fail close.ahead .hexDigit

/-- Reads a code point, from the letter on that tells the number of its digits. -/
def readHex (spaced : Bool) (start digits : Nat) (cursor : Cursor) :
    Except Fault (Atom × Cursor) :=
  let first := cursor.step spaced
  match first.char? with
  | none => fail first.here .escapeUnfinished
  | some '{' => readBracedHex spaced start first
  | some _ => do
    let (cs, behind) ← readHexDigits spaced digits first
    match charOfHex? cs with
    | some c => return (.literal ⟨behind.since start, c, digits == 2⟩, behind)
    | none => fail (behind.since first.offset) .hexNoCharacter

/-- What stands before and behind the first place where a word stands. -/
def splitAtWord? (word : List Char) : List Char → Option (List Char × List Char)
  | [] => none
  | c :: cs =>
    if word.isPrefixOf (c :: cs) then some ([], (c :: cs).drop word.length)
    else (splitAtWord? word cs).map fun (before, behind) => (c :: before, behind)

/-- The property that a text between braces names, and whether its value is excluded. -/
def PropertyName.ofText (text : List Char) : PropertyName × Bool :=
  let valued (parts : List Char × List Char) : PropertyName :=
    .valued (String.ofList parts.1) (String.ofList parts.2)
  match splitAtWord? ['!', '='] text, splitAtWord? [':'] text, splitAtWord? ['='] text with
  | some parts, _, _ => (valued parts, true)
  | none, some parts, _ | none, none, some parts => (valued parts, false)
  | none, none, none => (.single (String.ofList text), false)

def readProperty (spaced : Bool) (start : Nat) (negated : Bool) (cursor : Cursor) :
    Except Fault (Atom × Cursor) :=
  let first := cursor.step spaced
  match first.char? with
  | none => fail first.here .escapeUnfinished
  | some '{' =>
    let (text, close) := (first.step spaced).readWhile spaced (· != '}')
    if close.atEnd then fail close.here .escapeUnfinished
    else
      let (name, excluded) := PropertyName.ofText text
      return (.property (close.bump.since start) name (negated != excluded), close.bump)
  | some '\\' => fail first.ahead .propertyName
  | some c =>
    let behind := first.step spaced
    return (.property (behind.since start) (.single (String.singleton c)) negated, behind)

def Assertion.ofName? (name : List Char) : Option Assertion :=
  [("start", wordStart), ("end", wordEnd), ("start-half", wordStartHalf),
    ("end-half", wordEndHalf)].lookup (String.ofList name)

/-- Reads a boundary, from behind its letter on. A brace that begins with no name is a count. -/
def readBoundary (spaced : Bool) (start : Nat) (cursor : Cursor) : Except Fault (Atom × Cursor) :=
  let isNameChar (c : Char) : Bool := c.isAlpha || c == '-'
  let bare : Atom × Cursor := (.assertion (cursor.since start) .boundary, cursor)
  if cursor.char? = some '{' then
    let first := cursor.step spaced
    match first.char? with
    | none => fail (first.since start) .boundaryUnfinished
    | some c =>
      if isNameChar c then
        let (name, close) := first.readWhile spaced isNameChar
        if close.char? = some '}' then
          match Assertion.ofName? name with
          | some assertion => return (.assertion (close.bump.since start) assertion, close.bump)
          | none => fail (close.since first.offset) .boundaryUnknown
        else fail (close.since cursor.offset) .boundaryUnclosed
      else return bare
  else return bare

/-- Whether a character may stand behind a backslash for itself. -/
def isEscapable (c : Char) : Bool :=
  c.toNat < 0x80 && !c.isAlphanum && c != '<' && c != '>'

def controlOfLetter? (c : Char) : Option Char :=
  [('a', '\x07'), ('f', '\x0C'), ('t', '\t'), ('n', '\n'), ('r', '\r'), ('v', '\x0B')].lookup c

/-- The shorthands by letter. An upper-case letter stands for the other characters. -/
def Shorthand.ofLetter? (c : Char) : Option (Shorthand × Bool) :=
  [('d', digit, false), ('s', blank, false), ('w', word, false), ('D', digit, true),
    ('S', blank, true), ('W', word, true)].lookup c

def Assertion.ofLetter? (c : Char) : Option Assertion :=
  [('A', textStart), ('z', textEnd), ('B', noBoundary), ('<', wordStart),
    ('>', wordEnd)].lookup c

def readEscape (spaced : Bool) (cursor : Cursor) : Except Fault (Atom × Cursor) :=
  let start := cursor.offset
  let letter := cursor.bump
  let behind := letter.bump
  let span := behind.since start
  match letter.char? with
  | none => fail (letter.since start) .escapeUnfinished
  | some c =>
    if c.isDigit then fail span .backreference
    else if c == 'x' then readHex spaced start 2 letter
    else if c == 'u' then readHex spaced start 4 letter
    else if c == 'U' then readHex spaced start 8 letter
    else if c == 'p' || c == 'P' then readProperty spaced start (c == 'P') letter
    else if c == 'b' then readBoundary spaced start behind
    else if isEscapable c then return (.literal ⟨span, c, false⟩, behind)
    else
      match Shorthand.ofLetter? c, controlOfLetter? c, Assertion.ofLetter? c with
      | some (kind, negated), _, _ => return (.shorthand span kind negated, behind)
      | none, some control, _ => return (.literal ⟨span, control, false⟩, behind)
      | none, none, some assertion => return (.assertion span assertion, behind)
      | none, none, none => fail span .escapeUnknown

def readAtom (spaced : Bool) (cursor : Cursor) (c : Char) : Except Fault (Atom × Cursor) :=
  if c == '\\' then readEscape spaced cursor
  else if c == '.' then return (.anything cursor.ahead, cursor.bump)
  else if c == '^' then return (.assertion cursor.ahead .lineStart, cursor.bump)
  else if c == '$' then return (.assertion cursor.ahead .lineEnd, cursor.bump)
  else return (.plain cursor c, cursor.bump)

end LinkerMap.Regex
