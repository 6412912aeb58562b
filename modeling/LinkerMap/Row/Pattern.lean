/-! # Row patterns

A row is read by a pattern: non-empty runs of characters, one after the other, each from a class of
its own. The pattern may start anywhere in the row. Of the places and lengths that fit, the row is
read at the leftmost start, and there each run in turn is as long as the runs after it allow.

`runsAt?` says what is read at one place. `find?` goes through the row once, from its end, and
keeps for every part of the pattern what is read when that part starts at the place reached.
-/

namespace LinkerMap.Row

/-- The characters that a run may hold. -/
abbrev CharClass := Char → Bool

/-- The runs that a pattern has read, and the characters behind them. -/
structure Reading where
  runs : List (List Char)
  rest : List Char
  deriving DecidableEq, Repr

namespace Reading

def widen (c : Char) (reading : Reading) : Reading :=
  match reading.runs with
  | [] => reading
  | run :: runs => { reading with runs := (c :: run) :: runs }

def start (c : Char) (reading : Reading) : Reading :=
  { reading with runs := [c] :: reading.runs }

end Reading

/-- What a pattern reads at the start of a list of characters: a longer run is tried before a
shorter one. -/
def runsAt? : List CharClass → List Char → Option Reading
  | [], cs => some ⟨[], cs⟩
  | _ :: _, [] => none
  | p :: ps, c :: cs =>
    if p c then
      ((runsAt? (p :: ps) cs).map (Reading.widen c)).or ((runsAt? ps cs).map (Reading.start c))
    else none
termination_by structural _ cs => cs

/-- A class of the pattern, and what is read when its run starts at the place reached. -/
structure Stage where
  charClass : CharClass
  reading : Option Reading

/-- What is read by the stages from here on, `rest` being the characters from the place reached. -/
def readingOf (rest : List Char) : List Stage → Option Reading
  | [] => some ⟨[], rest⟩
  | stage :: _ => stage.reading

def advance (c : Char) (rest : List Char) : List Stage → List Stage
  | [] => []
  | stage :: stages =>
    let reading :=
      if stage.charClass c then
        (stage.reading.map (Reading.widen c)).or ((readingOf rest stages).map (Reading.start c))
      else none
    { stage with reading } :: advance c rest stages

/-- The place reached, the stages there, and what is read at the leftmost start from there on. -/
structure Search where
  rest : List Char
  stages : List Stage
  found : Option Reading

namespace Search

def atEnd (pattern : List CharClass) : Search :=
  let stages := pattern.map (⟨·, none⟩)
  ⟨[], stages, readingOf [] stages⟩

def step (c : Char) (search : Search) : Search :=
  let rest := c :: search.rest
  let stages := advance c search.rest search.stages
  ⟨rest, stages, (readingOf rest stages).or search.found⟩

end Search

def find? (pattern : List CharClass) (row : List Char) : Option Reading :=
  (row.foldr Search.step (Search.atEnd pattern)).found

/-- What a pattern reads at the leftmost place where it reads anything. -/
def leftmost? (pattern : List CharClass) : List Char → Option Reading
  | [] => runsAt? pattern []
  | c :: cs => (runsAt? pattern (c :: cs)).or (leftmost? pattern cs)

def stagesAt (cs : List Char) : List CharClass → List Stage
  | [] => []
  | p :: ps => ⟨p, runsAt? (p :: ps) cs⟩ :: stagesAt cs ps

theorem readingOf_stagesAt (cs : List Char) (ps : List CharClass) :
    readingOf cs (stagesAt cs ps) = runsAt? ps cs := by
  cases ps <;> simp [stagesAt, readingOf, runsAt?]

theorem advance_stagesAt (c : Char) (cs : List Char) (ps : List CharClass) :
    advance c cs (stagesAt cs ps) = stagesAt (c :: cs) ps := by
  induction ps with
  | nil => rfl
  | cons p ps ih => simp [stagesAt, advance, runsAt?, readingOf_stagesAt, ih]

theorem stagesAt_nil (ps : List CharClass) : stagesAt [] ps = ps.map (⟨·, none⟩) := by
  induction ps with
  | nil => rfl
  | cons p ps ih => simp [stagesAt, runsAt?, ih]

theorem foldr_step (pattern : List CharClass) (row : List Char) :
    row.foldr Search.step (Search.atEnd pattern) =
      ⟨row, stagesAt row pattern, leftmost? pattern row⟩ := by
  induction row with
  | nil =>
    simp [Search.atEnd, leftmost?, ← stagesAt_nil, readingOf_stagesAt]
  | cons c cs ih =>
    simp [ih, Search.step, advance_stagesAt, readingOf_stagesAt, leftmost?]

/-- The search finds what is read at the leftmost start. -/
theorem find?_eq_leftmost? (pattern : List CharClass) (row : List Char) :
    find? pattern row = leftmost? pattern row := by
  rw [find?, foldr_step]

end LinkerMap.Row
