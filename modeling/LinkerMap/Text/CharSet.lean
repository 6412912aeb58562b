/-! # Sets of characters

A set of characters is kept as intervals of code points, in rising order and with a gap between any
two. An interval may run over the surrogates, which are no characters.
-/

namespace LinkerMap.Text

/-- First and last code point of an interval. -/
abbrev Interval := Nat × Nat

/-- First and last code point of a run, and the step between its members. -/
abbrev Run := Nat × Nat × Nat

def Run.intervals : Run → List Interval
  | (first, last, step) =>
    if step = 1 then [(first, last)]
    else (List.range ((last - first) / step + 1)).map fun i => (first + step * i, first + step * i)

/-- A set of characters. -/
structure CharSet where
  intervals : List Interval
  deriving DecidableEq, Repr

def lastCode : Nat := 0x10FFFF

/-- The code point of the next character. -/
def nextCode (n : Nat) : Nat := if n = 0xD7FF then 0xE000 else n + 1

def previousCode (n : Nat) : Nat := if n = 0xE000 then 0xD7FF else n - 1

namespace CharSet

def none : CharSet := ⟨[]⟩

def all : CharSet := ⟨[(0, lastCode)]⟩

def single (c : Char) : CharSet := ⟨[(c.toNat, c.toNat)]⟩

def between (first last : Char) : CharSet := ⟨[(first.toNat, last.toNat)]⟩

def contains (set : CharSet) (c : Char) : Bool :=
  set.intervals.any fun (first, last) => first ≤ c.toNat && c.toNat ≤ last

def isEmpty (set : CharSet) : Bool := set.intervals.isEmpty

/-- Joins an interval with those behind it that leave no gap. -/
def join : Interval → List Interval → List Interval
  | i, [] => [i]
  | i, j :: js => if j.1 ≤ i.2 + 1 then join (i.1, max i.2 j.2) js else i :: join j js

def ofIntervals (intervals : List Interval) : CharSet :=
  match intervals.mergeSort fun i j => i.1 ≤ j.1 with
  | [] => none
  | i :: is => ⟨join i is⟩

def ofRuns (runs : List Run) : CharSet := ofIntervals (runs.flatMap Run.intervals)

def unionAll (sets : List CharSet) : CharSet := ofIntervals (sets.flatMap intervals)

def union (s t : CharSet) : CharSet := unionAll [s, t]

/-- The intervals between given ones and behind the last of them. Where a gap has no character in
it, it runs from its one neighbour to the other. -/
def gaps : List Interval → List Interval
  | [] => []
  | [(_, last)] => if last < lastCode then [(nextCode last, lastCode)] else []
  | (_, last) :: (first, end') :: is =>
    let (a, b) := (nextCode last, previousCode first)
    (min a b, max a b) :: gaps ((first, end') :: is)

def complement (set : CharSet) : CharSet :=
  match set.intervals with
  | [] => all
  | (first, last) :: is =>
    ⟨(if 0 < first then [(0, previousCode first)] else []) ++ gaps ((first, last) :: is)⟩

def intersection (s t : CharSet) : CharSet :=
  ⟨s.intervals.flatMap fun (first, last) => t.intervals.filterMap fun (first', last') =>
    let (a, b) := (max first first', min last last')
    if a ≤ b then some (a, b) else Option.none⟩

/-- What intervals in rising order leave of an interval. -/
def cut (first last : Nat) : List Interval → List Interval
  | [] => [(first, last)]
  | (first', last') :: is =>
    if last' < first then cut first last is
    else if last < first' then [(first, last)]
    else (if first < first' then [(first, previousCode first')] else []) ++
      if last' < last then cut (nextCode last') last is else []

def difference (s t : CharSet) : CharSet :=
  ⟨s.intervals.flatMap fun (first, last) => cut first last t.intervals⟩

def symmetricDifference (s t : CharSet) : CharSet :=
  (s.union t).difference (s.intersection t)

/-- A set with some intervals more and then others fewer. -/
def adjusted (set : CharSet) (more fewer : List Interval) : CharSet :=
  (set.union (ofIntervals more)).difference (ofIntervals fewer)

end CharSet

end LinkerMap.Text
