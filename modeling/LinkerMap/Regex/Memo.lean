import Std.Data.HashMap

/-! # Memos

A memo of bounded size remembers numbers for keys. It has a fixed number of slots: a key goes into
the slot of its hash, in place of what was there.
-/

namespace LinkerMap.Regex

/-- The slots of a memo that hold something, each a key and its number. -/
structure Memo where
  size : Nat
  slots : Std.HashMap Nat (List Nat × Nat) := {}

namespace Memo

/-- The hash of a key, by multiplication with a prime. -/
def hash (key : List Nat) : UInt64 :=
  key.foldl (fun h n => (h ^^^ n.toUInt64) * 1099511628211) 14695981039346656037

def slot (memo : Memo) (key : List Nat) : Nat := (hash key).toNat % memo.size

def find? (memo : Memo) (key : List Nat) : Option Nat :=
  match memo.slots[memo.slot key]? with
  | some (key', n) => if key == key' then some n else none
  | none => none

def insert (memo : Memo) (key : List Nat) (n : Nat) : Memo :=
  { memo with slots := memo.slots.insert (memo.slot key) (key, n) }

end Memo

end LinkerMap.Regex
