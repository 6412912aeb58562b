import LinkerMap.Log.Level
import LinkerMap.Regex.Match
import LinkerMap.Regex.Report
import LinkerMap.Regex.Size
import LinkerMap.Terminal.Plain

/-! # Log filters

A specification such as `warn,parser=debug` says which records are let through. Its items, between
commas, give a threshold to the targets that begin with a name, or to all of them. The longest name
that a target begins with decides. Behind a slash stands a pattern that a message must match.
-/

namespace LinkerMap.Log

/-- A threshold for the targets that begin with a name, or for all targets. -/
structure Directive where
  name? : Option String
  threshold : Threshold
  deriving DecidableEq, Repr

/-- The directives, no two for one name, and the expression that messages must match. -/
structure Filter where
  directives : List Directive
  regex? : Option Regex

/-- Why a part of a specification is left out. -/
inductive FilterError where
  | tooManySlashes (spec : String)
  | unreadable (part : String)
  | faulty (pattern : String) (fault : Regex.Fault)
  | tooLarge
  deriving DecidableEq, Repr

def FilterError.message : FilterError → String
  | tooManySlashes spec => "warning: invalid logging spec '" ++ spec ++
      "' (too many '/'s), ignoring it"
  | unreadable part => "warning: invalid logging spec '" ++ part ++ "', ignoring it"
  | faulty pattern fault => "warning: invalid regex filter - " ++
      Regex.report pattern.toList fault ++ ", ignoring it"
  | tooLarge => "warning: invalid regex filter - Compiled regex exceeds size limit of " ++
      toString Regex.roomLimit ++ " bytes., ignoring it"

namespace Directive

/-- The directive that an item gives, or the part of it that cannot be read. A word alone is a
threshold, or else a name whose targets are let through altogether. A name keeps its blanks. -/
def ofItem? (item : String) : Except FilterError Directive :=
  match (item.toList.splitOn '=').map String.ofList with
  | [word] =>
    match Threshold.ofName? word with
    | some threshold => .ok ⟨none, threshold⟩
    | none => .ok ⟨some word, .all⟩
  | [name, word] =>
    let word := Text.trim word
    if word.isEmpty then .ok ⟨some name, .all⟩
    else
      match Threshold.ofName? word with
      | some threshold => .ok ⟨some name, threshold⟩
      | none => .error (.unreadable word)
  | _ => .error (.unreadable item)

def covers (directive : Directive) (target : String) : Bool :=
  match directive.name? with
  | none => true
  | some name => name.toList.isPrefixOf target.toList

/-- The more a directive asks of a target, the more it weighs. -/
def weight (directive : Directive) : Nat :=
  match directive.name? with
  | none => 0
  | some name => name.length + 1

end Directive

namespace Filter

def standard : Filter := ⟨[⟨none, .upTo .warn⟩], none⟩

/-- Puts a directive in place of the one for its name, or behind the others. -/
def insert (directive : Directive) : List Directive → List Directive
  | [] => [directive]
  | d :: ds => if d.name? = directive.name? then directive :: ds else d :: insert directive ds

def addItem (state : Filter × List FilterError) (item : String) : Filter × List FilterError :=
  match Directive.ofItem? item with
  | .ok directive => ({ state.1 with directives := insert directive state.1.directives }, state.2)
  | .error error => (state.1, state.2 ++ [error])

def addItems (filter : Filter) (items : List Char) : Filter × List FilterError :=
  let items := (items.splitOn ',').map fun item => Text.trim (String.ofList item)
  (items.filter (!·.isEmpty)).foldl addItem (filter, [])

def addPattern (state : Filter × List FilterError) (pattern : String) :
    Filter × List FilterError :=
  match Regex.ofPattern pattern with
  | .ok regex =>
    if regex.isTooLarge then (state.1, state.2 ++ [.tooLarge])
    else ({ state.1 with regex? := some regex }, state.2)
  | .error fault => (state.1, state.2 ++ [.faulty pattern fault])

/-- The filter of a specification, and what could not be read in it. -/
def ofSpec (spec : String) : Filter × List FilterError :=
  match spec.toList.splitOn '/' with
  | [items] => addItems standard items
  | [items, pattern] => addPattern (addItems standard items) (String.ofList pattern)
  | _ => (standard, [.tooManySlashes spec])

/-- The directive that decides about a target: the heaviest of those that cover it. -/
def decider? (filter : Filter) (target : String) : Option Directive :=
  filter.directives.foldl
    (fun best directive =>
      if directive.covers target && best.all (·.weight ≤ directive.weight) then some directive
      else best)
    none

def allows (filter : Filter) (target : String) (level : Level) (message : String) : Bool :=
  (filter.decider? target).any (·.threshold.allows level) &&
    filter.regex?.all (·.isIn message)

end Filter

/-- A record as it is written, its level in a field of five. It is plain text to its end. -/
def record (level : Level) (message : String) : String :=
  Terminal.plain <|
    "[" ++ String.ofList (level.name.toList.rightpad 5 ' ') ++ "] " ++ message ++ "\n"

end LinkerMap.Log
