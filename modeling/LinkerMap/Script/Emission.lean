import LinkerMap.Script.Notice
import LinkerMap.Script.Sink

/-! # Emissions

A computation that writes to a sink and leaves notices. It stops at the first text that the sink
refuses; what was written and noted until then stays.
-/

namespace LinkerMap

/-- A sink, and the notices left while writing to it. -/
structure Output where
  sink : Sink
  notices : Array Notice

def Output.empty (limit? : Option Nat) : Output := ⟨.empty limit?, #[]⟩

/-- A computation that writes and notes. -/
abbrev Emission := EStateM SinkError Output

namespace Emission

def write (text : String) : Emission Unit
  | ⟨sink, notices⟩ =>
    match sink.accept text.toUTF8 with
    | (true, sink) => .ok () ⟨sink, notices⟩
    | (false, sink) => .error .full ⟨sink, notices⟩

def note (notice : Notice) : Emission Unit
  | ⟨sink, notices⟩ => .ok () ⟨sink, notices.push notice⟩

end Emission

end LinkerMap
