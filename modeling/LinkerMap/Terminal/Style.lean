/-! # Terminal styles

Text between the control sequences that switch a style of a terminal on and off.
-/

namespace LinkerMap.Terminal

/-- The control sequence that selects a rendition. -/
def select (rendition : String) : String :=
  "\x1b[" ++ rendition ++ "m"

def green (s : String) : String := select "32" ++ s ++ select "39"
def yellow (s : String) : String := select "33" ++ s ++ select "39"
def blue (s : String) : String := select "34" ++ s ++ select "39"
def cyan (s : String) : String := select "36" ++ s ++ select "39"
def strong (s : String) : String := select "1" ++ s ++ select "22"

/-- Red and strong, the strong style ending last. -/
def alarm (s : String) : String :=
  select "31" ++ select "1" ++ s ++ select "39" ++ select "22"

end LinkerMap.Terminal
