import LinkerMap.Text.Blank
import LinkerMap.Text.Digit
import LinkerMap.Row.Pattern

/-! # Character classes of rows

The classes that the runs of a row are drawn from.
-/

namespace LinkerMap.Row

def blank : CharClass := Text.isBlank

def hex : CharClass := fun c => ('0' ≤ c && c ≤ '9') || ('a' ≤ c && c ≤ 'f')

def digit : CharClass := Text.isDecimalDigit

/-- Anything but the space: other blanks may stand in a name. -/
def nonSpace : CharClass := (· != ' ')

end LinkerMap.Row
