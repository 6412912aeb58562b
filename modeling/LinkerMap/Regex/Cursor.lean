import LinkerMap.Regex.Fault
import LinkerMap.Text.Blank

/-! # Cursors

A place in a pattern with what is left to read. In a spaced pattern blanks mean nothing, and nor
does a comment, from a number sign to the end of its line.
-/

namespace LinkerMap.Regex

/-- How many characters are read, and those that are left. -/
structure Cursor where
  offset : Nat
  rest : List Char
  deriving DecidableEq, Repr

namespace Cursor

def atStart (pattern : List Char) : Cursor := ⟨0, pattern⟩

def char? (cursor : Cursor) : Option Char := cursor.rest.head?

def atEnd (cursor : Cursor) : Bool := cursor.rest.isEmpty

def here (cursor : Cursor) : Span := ⟨cursor.offset, cursor.offset⟩

def ahead (cursor : Cursor) : Span := ⟨cursor.offset, cursor.offset + 1⟩

def since (cursor : Cursor) (start : Nat) : Span := ⟨start, cursor.offset⟩

def bump (cursor : Cursor) : Cursor :=
  match cursor.rest with
  | [] => cursor
  | _ :: cs => ⟨cursor.offset + 1, cs⟩

def forward (cursor : Cursor) (n : Nat) : Cursor :=
  ⟨cursor.offset + min n cursor.rest.length, cursor.rest.drop n⟩

def past? (word : String) (cursor : Cursor) : Option Cursor :=
  if word.toList.isPrefixOf cursor.rest then some (cursor.forward word.length) else none

def dropBlanks (cursor : Cursor) : Cursor :=
  cursor.forward (cursor.rest.takeWhile Text.isBlank).length

/-- How many characters of blanks and comments stand in front, the first of them in a comment or
not. -/
def spacing (inComment : Bool) : List Char → Nat
  | [] => 0
  | c :: cs =>
    if inComment then spacing (c != '\n') cs + 1
    else if Text.isBlank c then spacing false cs + 1
    else if c == '#' then spacing true cs + 1
    else 0

/-- Moves over what means nothing in a spaced pattern. -/
def skip (spaced : Bool) (cursor : Cursor) : Cursor :=
  if spaced then cursor.forward (spacing false cursor.rest) else cursor

/-- Moves over one character and what means nothing behind it. -/
def step (spaced : Bool) (cursor : Cursor) : Cursor :=
  cursor.bump.skip spaced

theorem length_rest_skip_le (spaced : Bool) (cursor : Cursor) :
    (cursor.skip spaced).rest.length ≤ cursor.rest.length := by
  simp only [skip, forward]
  split <;> simp

theorem length_rest_step_lt (spaced : Bool) (cursor : Cursor) (h : cursor.rest ≠ []) :
    (cursor.step spaced).rest.length < cursor.rest.length := by
  refine Nat.lt_of_le_of_lt (length_rest_skip_le spaced cursor.bump) ?_
  cases hr : cursor.rest with
  | nil => exact absurd hr h
  | cons c cs => simp [bump, hr]

/-- Reads the characters in front that pass a test, and steps over each. -/
def readWhile (spaced : Bool) (p : Char → Bool) (cursor : Cursor) : List Char × Cursor :=
  if h : cursor.rest = [] then ([], cursor)
  else if p (cursor.rest.head h) then
    let (cs, behind) := readWhile spaced p (cursor.step spaced)
    (cursor.rest.head h :: cs, behind)
  else ([], cursor)
termination_by cursor.rest.length
decreasing_by exact length_rest_step_lt spaced cursor h

def next? (cursor : Cursor) : Option Char := cursor.bump.char?

/-- The character behind the one at the cursor that means something. A comment is taken for its
first character. -/
def nextMeant? (spaced : Bool) (cursor : Cursor) : Option Char :=
  if spaced then
    match cursor.bump.dropBlanks.char? with
    | some '#' => (cursor.bump.dropBlanks.bump.dropBlanks.char?).or cursor.next?
    | some c => some c
    | none => cursor.next?
  else cursor.next?

end Cursor

def fail {α : Type} (span : Span) (defect : Defect) : Except Fault α :=
  .error ⟨span, defect, none⟩

end LinkerMap.Regex
