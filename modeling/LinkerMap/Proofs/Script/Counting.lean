import LinkerMap.Proofs.Script.Determination

/-! # Counting the lines of a script

A line is told to be a statement by the function that it calls. The lines that call a function are
as many as the statements that do.
-/

namespace LinkerMap

namespace Statement

/-- The function that a statement calls. -/
def callee : Statement → String
  | call routine => routine
  | renameSeg _ _ => "RenameSeg"
  | makeNameEx _ _ _ => "MakeNameEx"
  | makeComm _ _ => "MakeComm"

theorem toList_text_eq (s : Statement) :
    ∃ behind, s.text.toList = '\t' :: (s.callee.toList ++ '(' :: behind) := by
  cases s with
  | call routine => exact ⟨");".toList, by simp [text_call, callee]⟩
  | renameSeg address name => simp [toList_text_renameSeg, callee]
  | makeNameEx address name flags => simp [toList_text_makeNameEx, callee]
  | makeComm address comment => simp [toList_text_makeComm, callee]

end Statement

namespace SegmentFindings

theorem callee_of_mem_statements {found : SegmentFindings} {s : Statement}
    (hs : s ∈ found.statements) : s.callee = "RenameSeg" := by
  obtain ⟨segment, -, rfl⟩ := List.mem_map.mp hs
  rfl

theorem countP_callee (found : SegmentFindings) (function : String) :
    found.statements.countP (·.callee == function) =
      if "RenameSeg" = function then found.segments.size else 0 := by
  split
  · rename_i hf
    have hall : found.statements.countP (·.callee == function) = found.statements.length := by
      rw [List.countP_eq_length]
      intro s hs
      rw [callee_of_mem_statements hs, hf]
      exact BEq.rfl
    rw [hall, statements, List.length_map, Array.length_toList]
  · rename_i hf
    rw [List.countP_eq_zero]
    intro s hs
    rw [callee_of_mem_statements hs]
    simpa using hf

end SegmentFindings

namespace SymbolFindings

theorem callee_of_mem_statements {found : SymbolFindings} {s : Statement}
    (hs : s ∈ found.statements) : s.callee = "MakeNameEx" ∨ s.callee = "MakeComm" := by
  obtain ⟨entry, -, hs⟩ := List.mem_flatMap.mp hs
  rcases List.mem_cons.mp hs with rfl | hs
  · exact Or.inl rfl
  · obtain ⟨origin, -, rfl⟩ := by simpa using hs
    exact Or.inr rfl

theorem countP_callee_flatMap (entries : List (String × Symbol)) (function : String) :
    (entries.flatMap fun entry => entry.2.statements).countP (·.callee == function) =
      (if "MakeNameEx" = function then entries.length else 0) +
        if "MakeComm" = function then entries.countP (·.2.module?.isSome) else 0 := by
  induction entries with
  | nil => simp
  | cons entry entries ih =>
    rw [List.flatMap_cons, List.countP_append, ih, List.length_cons, List.countP_cons]
    cases hm : entry.2.module? <;>
      simp only [Symbol.statements, Statement.callee, hm, List.countP_cons, beq_iff_eq] <;>
      grind

theorem countP_callee (found : SymbolFindings) (function : String) :
    found.statements.countP (·.callee == function) =
      (if "MakeNameEx" = function then found.symbols.size else 0) +
        if "MakeComm" = function then found.comments else 0 := by
  rw [statements, countP_callee_flatMap, Array.length_toList, Array.countP_toList]
  rfl

end SymbolFindings

namespace Script

variable {function : String} {found : Findings}

/-- A line that begins with a tab, a function and an opening parenthesis. -/
def calls (function : String) (line : List Char) : Bool :=
  ('\t' :: (function.toList ++ ['('])).isPrefixOf line

theorem calls_text (hf : '(' ∉ function.toList) {s : Statement} (hs : '(' ∉ s.callee.toList) :
    calls function s.text.toList = (s.callee == function) := by
  obtain ⟨behind, ht⟩ := s.toList_text_eq
  rw [Bool.eq_iff_iff, calls, ht, List.isPrefixOf_iff_prefix, List.cons_prefix_cons, beq_iff_eq]
  constructor
  · rintro ⟨-, rest, h⟩
    rw [List.append_assoc, List.singleton_append] at h
    exact (String.toList_inj.mp (append_cons_inj hf hs h).1).symm
  · rintro rfl
    exact ⟨rfl, behind, by simp⟩

theorem countP_calls_routineLines (hf : '(' ∉ function.toList) (name : String)
    {body : List Statement} (hb : ∀ s ∈ body, '(' ∉ s.callee.toList) :
    (routineLines name body).countP (fun l => calls function l.toList) =
      body.countP (·.callee == function) := by
  have hcalls : (body.map Statement.text).countP (fun l => calls function l.toList) =
      body.countP (·.callee == function) := by
    rw [List.countP_map]
    apply List.countP_congr
    intro s hs
    rw [Function.comp_apply, calls_text hf (hb s hs)]
  rw [routineLines_eq, List.countP_append, List.countP_append, hcalls]
  simp [calls]

/-- But for those that its entry calls, a script calls a function for each segment, for each symbol
or for each module. -/
theorem countP_calls_lines (hf : '(' ∉ function.toList) (hs : function ≠ "handleSegments")
    (hn : function ≠ "handleFunctions") (found : Findings) :
    (lines found).countP (fun l => calls function l.toList) =
      (if "RenameSeg" = function then found.segments.segments.size else 0) +
        ((if "MakeNameEx" = function then found.symbols.symbols.size else 0) +
          if "MakeComm" = function then found.symbols.comments else 0) := by
  have hentry : [Statement.call "handleSegments", .call "handleFunctions"].countP
      (·.callee == function) = 0 := by
    simp [Statement.callee, Ne.symm hs, Ne.symm hn]
  rw [lines, List.countP_append, List.countP_append, countP_calls_routineLines hf,
    countP_calls_routineLines hf, countP_calls_routineLines hf, hentry, Nat.zero_add,
    SegmentFindings.countP_callee, SymbolFindings.countP_callee]
  · intro s hs
    rcases SymbolFindings.callee_of_mem_statements hs with h | h <;> rw [h] <;> decide
  · intro s hs
    rw [SegmentFindings.callee_of_mem_statements hs]
    decide
  · decide

theorem countP_calls_unlines (h : found.IsLegible) (hf : '(' ∉ function.toList)
    (hs : function ≠ "handleSegments") (hn : function ≠ "handleFunctions") :
    ((Text.unlines (lines found)).toList.splitOn '\n').countP (calls function) =
      (if "RenameSeg" = function then found.segments.segments.size else 0) +
        ((if "MakeNameEx" = function then found.symbols.symbols.size else 0) +
          if "MakeComm" = function then found.symbols.comments else 0) := by
  have hend : [([] : List Char)].countP (calls function) = 0 := rfl
  rw [Text.splitOn_unlines (lf_not_mem_lines h), List.countP_append, List.countP_map, hend,
    Nat.add_zero, ← countP_calls_lines hf hs hn]
  rfl

end Script

end LinkerMap
