import LinkerMap.Regex.Machine

/-! # Choices between literals

A choice between literals is read by a tree: literals that begin alike share the way to where they
part. A literal that ends within another is taken where it ends, before the literals that come
behind it in the choice.
-/

namespace LinkerMap.Regex.Literals

def behind (octet : Nat) (literals : List (List Nat)) : List (List Nat) :=
  literals.filterMap fun literal =>
    match literal with
    | [] => none
    | first :: rest => if first = octet then some rest else none

/-- Parts literals where one of them has ended. That the first of them end is told once. -/
def stretches : List (List Nat) → List (List (List Nat))
  | [] :: [] :: literals => stretches ([] :: literals)
  | literals => literals.splitOnP (·.isEmpty)
termination_by literals => literals.length

/-- Adds the states where literals part that have begun alike, down to a depth. -/
def addTree : Nat → List (List Nat) → Build Unit
  | 0, _ => return
  | depth + 1, literals => do
    if literals.any (!·.isEmpty) then
      let parts := stretches literals
      let taken := parts.filter (!·.isEmpty)
      for stretch in taken do
        let octets := (stretch.filterMap List.head?).eraseDups
        for octet in octets do
          addTree depth (behind octet stretch)
        let held := if octets.length = 1 then 0 else stepRoom * octets.length
        let _ ← Build.add 1 held
      let _ ← Build.add 1 (branchRoom * (taken.length + (parts.length - 1)))

def add (literals : List (List Nat)) : Build Unit := do
  let _ ← Build.add 1 0
  addTree (literals.foldl (fun depth literal => max depth literal.length) 0) literals

end LinkerMap.Regex.Literals
