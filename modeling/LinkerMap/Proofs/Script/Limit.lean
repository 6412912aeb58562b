import LinkerMap.Proofs.Script.Rendering

/-! # Sinks with a limit

A sink with a limit holds what a sink without one would hold, up to the limit. A computation fails
when that is not all, and otherwise ends as it does without a limit.
-/

namespace LinkerMap.Script

open Effect Emission

/-- Started on an empty sink with a limit, a computation ends as it does on one without when the
octets fit. When they do not, it fails, and the sink holds as many of them as fit. -/
def KeepsLimits {α : Type} (m : Emission α) : Prop :=
  ∃ a octets notices, m (.empty none) = .ok a ⟨⟨octets, none⟩, notices⟩ ∧
    ∀ limit,
      (octets.size ≤ limit →
        m (.empty (some limit)) = .ok a ⟨⟨octets, some limit⟩, notices⟩) ∧
      (limit < octets.size → ∃ left, left <+: notices.toList ∧
        m (.empty (some limit)) =
          .error .full ⟨⟨octets.extract 0 limit, some limit⟩, left.toArray⟩)

theorem keepsLimits_of_performs {α : Type} {m : Emission α} {es : List Effect} {a : α}
    (h : Performs m es a) : KeepsLimits m := by
  refine ⟨a, _, _, h.unlimited, fun limit => ⟨fun hl => ?_, fun hl => ?_⟩⟩
  · have hs : (Sink.empty (some limit)).accept (written es).toByteArray =
        (true, ⟨(written es).toUTF8, some limit⟩) := by
      simpa [Sink.empty, Sink.accept] using hl
    rw [Output.empty, h.of_accept hs, Array.empty_append]
  · have hs : (Sink.empty (some limit)).accept (written es).toByteArray =
        (false, ⟨(written es).toUTF8.extract 0 limit, some limit⟩) := by
      simpa [Sink.empty, Sink.accept] using hl
    obtain ⟨left, hleft, he⟩ := h.of_refuse hs
    exact ⟨left, hleft, by rw [Output.empty, he, Array.empty_append]⟩

/-- The whole script, each of its handlers and any other routine keep the limit of a sink. -/
theorem routines_keepLimits (sections : Sections) (segments : SegmentFindings) (name : String)
    (body : List Statement) :
    KeepsLimits (ofSections sections) ∧ KeepsLimits (segmentRoutine sections) ∧
      KeepsLimits (symbolRoutine sections segments) ∧ KeepsLimits (routine name body) :=
  ⟨keepsLimits_of_performs (performs_ofSections sections),
    keepsLimits_of_performs (performs_segmentRoutine sections),
    keepsLimits_of_performs (performs_symbolRoutine sections segments),
    keepsLimits_of_performs (performs_routine name body)⟩

end LinkerMap.Script
