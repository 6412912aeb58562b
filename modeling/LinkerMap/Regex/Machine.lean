import LinkerMap.Regex.Memo
import LinkerMap.Regex.Octets

/-! # Machines

An expression is run by a machine of states that read octets. Only the room of a machine is told
here: how many states it has, and what they hold besides. A machine that takes too much room is not
built.
-/

namespace LinkerMap.Regex

open Text (Interval CharSet)

inductive Direction where
  | forward
  | backward
  deriving DecidableEq, Repr

/-- A machine that is being built: its states, the octets that they hold besides, and the states
that are known for the set that is being built. -/
structure Machine where
  states : Nat := 0
  held : Nat := 0
  known : Memo := ⟨1, {}⟩

abbrev Build := StateT Machine Option

/-- The octets of a state, without what it holds. -/
def stateRoom : Nat := 32

def stepRoom : Nat := 8

def branchRoom : Nat := 4

def roomLimit : Nat := 10485760

namespace Build

/-- Adds states that hold so many octets besides. The first of them is told. -/
def add (states held : Nat) : Build Nat := fun machine =>
  let grown := { machine with states := machine.states + states, held := machine.held + held }
  if stateRoom * grown.states + grown.held ≤ roomLimit then some (machine.states, grown) else none

def branch (n : Nat) : Build Unit := do
  let _ ← add 0 (branchRoom * n)

/-- Goes on from the end of a part: if that is a state that branches, it takes one branch more. -/
def goOn (branches : Bool) : Build Unit := if branches then branch 1 else pure ()

def forget (slots : Nat) : Build Unit :=
  modify fun machine => { machine with known := ⟨slots, {}⟩ }

/-- The state of a key: the one that is known, or else a new one. -/
def stateOf (key : List Nat) (held : Nat) : Build Nat := fun machine =>
  match machine.known.find? key with
  | some state => some (state, machine)
  | none => do
    let (state, machine) ← add 1 held machine
    return (state, { machine with known := machine.known.insert key state })

end Build

/-- A state to which steps may still be added: its steps, from the last to the first, and the step
that is next, whose goal is not known. -/
structure OpenState where
  steps : List Nat := []
  next? : Option Interval := none

namespace OpenState

def lead (state : OpenState) (goal : Nat) : OpenState :=
  match state.next? with
  | some (first, last) => ⟨goal :: last :: first :: state.steps, none⟩
  | none => state

/-- Closes open states, each the goal of the one before it, the last of them leading to a goal. -/
def close (goal : Nat) : List OpenState → Build Nat
  | [] => return goal
  | state :: states => do
    let closed := state.lead (← close goal states)
    Build.stateOf closed.steps.reverse (stepRoom * (closed.steps.length / 3))

/-- Adds a sequence to open states. What it shares with the sequence before it is left open. -/
def insert (goal : Nat) : List OpenState → List Interval → Build (List OpenState)
  | state :: states, interval :: intervals => do
    if state.next? == some interval then
      return state :: (← insert goal states intervals)
    else
      let led := state.lead (← close goal states)
      return ⟨led.steps, some interval⟩ :: intervals.map fun next => ⟨[], some next⟩
  | _, intervals => return intervals.map fun next => ⟨[], some next⟩

def insertAll (goal : Nat) (states : List OpenState) : List (List Interval) → Build Nat
  | [] => close goal states
  | sequence :: sequences => do insertAll goal (← insert goal states sequence) sequences

end OpenState

namespace Build

/-- Adds what reads a sequence from its last octet to its first, and tells where that begins. -/
def addBackward (goal : Nat) : List Interval → Build Nat
  | [] => return goal
  | (first, last) :: intervals => do
    addBackward (← stateOf [goal, first, last] 0) intervals

def addAllBackward (goal : Nat) : List (List Interval) → Build Unit
  | [] => return
  | sequence :: sequences => do
    let _ ← addBackward goal sequence
    branch 1
    addAllBackward goal sequences

def addSet (direction : Direction) (members : CharSet) : Build Unit := do
  if members.intervals.all fun (_, last) => last < 0x80 then
    let _ ← add 2 (stepRoom * members.intervals.length)
  else
    let sequences := octetSequencesOf members
    match direction with
    | .forward =>
      forget 10000
      let goal ← add 1 0
      let _ ← OpenState.insertAll goal [{}] sequences
    | .backward =>
      forget 1000
      let start ← add 2 0
      addAllBackward (start + 1) sequences

def times (one : Build Bool) : Nat → Bool → Build Bool
  | 0, branches => return branches
  | n + 1, branches => do
    let next ← one
    goOn branches
    times one n next

def optional (one : Build Bool) : Nat → Bool → Build Bool
  | 0, branches => return branches
  | n + 1, branches => do
    let _ ← add 1 0
    let next ← one
    goOn branches
    branch 2
    optional one n next

end Build

end LinkerMap.Regex
