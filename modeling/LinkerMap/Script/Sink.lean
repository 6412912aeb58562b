/-! # Sinks

Where a script is written to, octet by octet. A sink may have a limit: it takes octets up to the
limit, and refuses the rest of a text that goes beyond it.
-/

namespace LinkerMap

/-- The octets written so far, and how many the sink takes in all. -/
structure Sink where
  written : ByteArray
  limit? : Option Nat

inductive SinkError where
  | full
  deriving DecidableEq, Repr

def SinkError.message : SinkError → String
  | full => "sink full"

namespace Sink

def empty (limit? : Option Nat) : Sink := ⟨.empty, limit?⟩

/-- Writes octets, as many as the sink takes. The answer says whether these are all. -/
def accept : Sink → ByteArray → Bool × Sink
  | ⟨written, none⟩, bytes => (true, ⟨written ++ bytes, none⟩)
  | ⟨written, some limit⟩, bytes =>
    let room := limit - written.size
    if bytes.size ≤ room then (true, ⟨written ++ bytes, some limit⟩)
    else (false, ⟨written ++ bytes.extract 0 room, some limit⟩)

end Sink

end LinkerMap
