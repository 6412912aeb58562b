import LinkerMap.Regex.Expression
import LinkerMap.Regex.Pattern
import LinkerMap.Regex.Property

/-! # What patterns mean

The expression that a pattern stands for under the modes that its switches set. A pattern that is
well formed may still be at fault: it may name no property, or match what is no text.
-/

namespace LinkerMap.Regex

open Text (CharSet)

/-- The switches that change what a pattern means. -/
structure Modes where
  caseless : Bool := false
  multiLine : Bool := false
  dotAll : Bool := false
  ungreedy : Bool := false
  unicode : Bool := true
  crlf : Bool := false
  deriving DecidableEq, Repr

def Modes.set (modes : Modes) : Switch × Bool → Modes
  | (.caseless, on) => { modes with caseless := on }
  | (.multiLine, on) => { modes with multiLine := on }
  | (.dotAll, on) => { modes with dotAll := on }
  | (.ungreedy, on) => { modes with ungreedy := on }
  | (.unicode, on) => { modes with unicode := on }
  | (.crlf, on) => { modes with crlf := on }
  | (.spaced, _) => modes

def Modes.under (modes : Modes) (settings : Settings) : Modes :=
  settings.foldl Modes.set modes

def Assertion.look (modes : Modes) : Assertion → Look
  | lineStart => if modes.multiLine then .lineStart modes.crlf else .textStart
  | lineEnd => if modes.multiLine then .lineEnd modes.crlf else .textEnd
  | textStart => .textStart
  | textEnd => .textEnd
  | boundary => .word .boundary modes.unicode
  | noBoundary => .word .noBoundary modes.unicode
  | wordStart => .word .wordStart modes.unicode
  | wordEnd => .word .wordEnd modes.unicode
  | wordStartHalf => .word .wordStartHalf modes.unicode
  | wordEndHalf => .word .wordEndHalf modes.unicode

/-- A set under the modes, the characters of either case counted where case does not. -/
def Modes.cased (modes : Modes) (set : CharSet) : CharSet :=
  if !modes.caseless then set else if modes.unicode then set.caseless else asciiCaseless set

/-- What is not in a set, if it is to be negated. Within octets the rest of a set is not text. -/
def Modes.negated (modes : Modes) (span : Span) (negated : Bool) (set : CharSet) :
    Except Fault CharSet :=
  if !negated then return set
  else if modes.unicode then return set.complement
  else fail span .invalidUtf8

def Modes.ofSet (modes : Modes) (set : CharSet) : Regex :=
  .ofSet set (!modes.unicode)

/-- A character that stands for itself. An octet beyond ASCII is not text. -/
def Literal.checked (modes : Modes) (literal : Literal) : Except Fault Char :=
  let isHigh := 0x80 ≤ literal.char.toNat && literal.char.toNat ≤ 0xFF
  if !modes.unicode && literal.isOctet && isHigh then fail literal.span .invalidUtf8
  else return literal.char

def Literal.member (modes : Modes) (literal : Literal) : Except Fault Char := do
  let c ← literal.checked modes
  if modes.unicode || c.toNat < 0x80 then return c else fail literal.span .unicodeForbidden

def Literal.regex (modes : Modes) (literal : Literal) : Except Fault Regex := do
  let c ← literal.checked modes
  if modes.unicode || c.toNat < 0x80 then return modes.ofSet (modes.cased (.single c))
  else return .literal [c]

def propertySet (modes : Modes) (span : Span) (name : PropertyName) (negated : Bool) :
    Except Fault CharSet :=
  if !modes.unicode then fail span .unicodeForbidden
  else
    match name.set with
    | .ok members => modes.negated span negated (modes.cased members)
    | .error defect => fail span defect

/-- The set that a point stands for: any character but the ends of lines, unless these are taken
in. -/
def dotSet (modes : Modes) : CharSet :=
  if modes.dotAll then .all
  else if modes.crlf then (CharSet.all).adjusted [] [(0xA, 0xA), (0xD, 0xD)]
  else (CharSet.all).adjusted [] [(0xA, 0xA)]

mutual

def Bracket.set (modes : Modes) : Bracket → Except Fault CharSet
  | .empty _ => return .none
  | .literal l => do return .single (← l.member modes)
  | .range first last => do return .between (← first.member modes) (← last.member modes)
  | .named span name negated => modes.negated span negated (modes.cased name.set)
  | .shorthand span kind negated => modes.negated span negated (kind.set modes.unicode)
  | .property span name negated => propertySet modes span name negated
  | .nested span negated body => do modes.negated span negated (modes.cased (← body.set modes))
  | .union _ items => do return .unionAll (← Bracket.setsOf modes items)
  | .operation _ op left right => do
    let s ← left.set modes
    let t ← right.set modes
    return op.apply (modes.cased s) (modes.cased t)

def Bracket.setsOf (modes : Modes) : List Bracket → Except Fault (List CharSet)
  | [] => return []
  | item :: items => do return (← item.set modes) :: (← Bracket.setsOf modes items)

end

def Atom.regex (modes : Modes) : Atom → Except Fault Regex
  | .literal l => l.regex modes
  | .anything span =>
    if modes.unicode then return .ofSet (dotSet modes) false else fail span .invalidUtf8
  | .assertion _ asked => return .look (asked.look modes)
  | .shorthand span kind negated => do
    return modes.ofSet (← modes.negated span negated (kind.set modes.unicode))
  | .property span name negated => do
    return modes.ofSet (← propertySet modes span name negated)

mutual

/-- The expression of a pattern, and the modes behind it. -/
def Pattern.regex (modes : Modes) : Pattern → Except Fault (Regex × Modes)
  | .empty _ => return (.empty, modes)
  | .settings _ switches => return (.empty, modes.under switches)
  | .atom a => do return (← a.regex modes, modes)
  | .bracket b => do return (modes.ofSet (← b.set modes), modes)
  | .group _ number? switches body => do
    let (regex, _) ← body.regex (modes.under switches)
    match number? with
    | some number => return (.capture number regex, modes)
    | none => return (regex, modes)
  | .repetition _ body least most? isLazy => do
    let (regex, behind) ← body.regex modes
    return (regex.repeated least most? (isLazy != modes.ungreedy), behind)
  | .sequence _ parts => do
    let (regexes, behind) ← Pattern.regexes modes parts
    return (Regex.sequence regexes, behind)
  | .alternatives _ branches => do
    let (regexes, behind) ← Pattern.regexes modes branches
    return (Regex.either regexes, behind)

/-- The expressions of parts or branches. What one sets holds in those behind it. -/
def Pattern.regexes (modes : Modes) : List Pattern → Except Fault (List Regex × Modes)
  | [] => return ([], modes)
  | part :: parts => do
    let (first, between) ← part.regex modes
    let (others, behind) ← Pattern.regexes between parts
    return (first :: others, behind)

end

end LinkerMap.Regex
