/-! # Log levels

How grave a log record is. A threshold lets through the levels that are at least as grave.
-/

namespace LinkerMap.Log

/-- The level of a record, the gravest first. -/
inductive Level where
  | error
  | warn
  | info
  | debug
  | trace
  deriving DecidableEq, Repr

namespace Level

def rank : Level → Nat
  | error => 1
  | warn => 2
  | info => 3
  | debug => 4
  | trace => 5

def name : Level → String
  | error => "ERROR"
  | warn => "WARN"
  | info => "INFO"
  | debug => "DEBUG"
  | trace => "TRACE"

end Level

inductive Threshold where
  | off
  | upTo (level : Level)
  deriving DecidableEq, Repr

namespace Threshold

/-- How many levels are let through. -/
def rank : Threshold → Nat
  | off => 0
  | upTo level => level.rank

def allows (threshold : Threshold) (level : Level) : Bool :=
  level.rank ≤ threshold.rank

def all : Threshold := upTo .trace

def name : Threshold → String
  | off => "OFF"
  | upTo level => level.name

/-- The threshold of a name, in letters of either case. -/
def ofName? (s : String) : Option Threshold :=
  [off, upTo .error, upTo .warn, upTo .info, upTo .debug, upTo .trace].find? fun threshold =>
    threshold.name.toList == s.toList.map Char.toUpper

end Threshold

end LinkerMap.Log
