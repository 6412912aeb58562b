import LinkerMap.Proofs.Script.Determination

/-! # Quoted arguments

A statement quotes a name or a module without escaping it. Reading the line from the quote in front
of it as a string literal gives it back exactly when it holds no quote and no backslash.
-/

namespace LinkerMap

namespace Literal

variable {escaped : Char → Char} {c : Char} {cs rest tail denoted : List Char}

/-- Reads a string literal from behind the quote that opens it: what it denotes, and what stands
behind the quote that closes it. A backslash takes the character behind it, whatever that is, and
`escaped` says what the two denote. -/
def read? (escaped : Char → Char) : List Char → Option (List Char × List Char)
  | [] => none
  | '"' :: rest => some ([], rest)
  | ['\\'] => none
  | '\\' :: c :: rest =>
    (read? escaped rest).map fun (denoted, tail) => (escaped c :: denoted, tail)
  | c :: rest => (read? escaped rest).map fun (denoted, tail) => (c :: denoted, tail)

theorem read?_quote (rest : List Char) : read? escaped ('"' :: rest) = some ([], rest) := rfl

theorem map_cons_eq_some_iff {o : Option (List Char × List Char)} :
    (o.map fun (denoted, tail) => (c :: denoted, tail)) = some (denoted, tail) ↔
      ∃ found, o = some (found, tail) ∧ denoted = c :: found := by
  rw [Option.map_eq_some_iff]
  constructor
  · rintro ⟨⟨found, _⟩, h, ⟨⟩⟩
    exact ⟨found, h, rfl⟩
  · rintro ⟨found, h, rfl⟩
    exact ⟨_, h, rfl⟩

theorem read?_backslash_eq_some_iff :
    read? escaped ('\\' :: c :: rest) = some (denoted, tail) ↔
      ∃ found, read? escaped rest = some (found, tail) ∧ denoted = escaped c :: found :=
  map_cons_eq_some_iff

theorem read?_cons_eq_some_iff (hq : c ≠ '"') (hb : c ≠ '\\') :
    read? escaped (c :: rest) = some (denoted, tail) ↔
      ∃ found, read? escaped rest = some (found, tail) ∧ denoted = c :: found := by
  rw [read?]
  · exact map_cons_eq_some_iff
  · exact hq
  · rintro rfl
    exact absurd rfl hb
  · rintro _ _ rfl
    exact absurd rfl hb

theorem length_lt_of_read? (h : read? escaped cs = some (denoted, tail)) :
    tail.length < cs.length := by
  fun_induction read? escaped cs generalizing denoted with
  | case1 => cases h
  | case2 rest =>
    cases h
    exact Nat.lt_succ_self _
  | case3 => cases h
  | case4 c rest ih =>
    obtain ⟨found, hr, -⟩ := map_cons_eq_some_iff.mp h
    exact Nat.lt_succ_of_lt (Nat.lt_succ_of_lt (ih hr))
  | case5 c rest _ _ _ ih =>
    obtain ⟨found, hr, -⟩ := map_cons_eq_some_iff.mp h
    exact Nat.lt_succ_of_lt (ih hr)

/-- What can be written between the quotes of a literal, and what it denotes. -/
inductive Denotes (escaped : Char → Char) : List Char → List Char → Prop
  | nil : Denotes escaped [] []
  | plain {c : Char} {cs denoted : List Char} : c ≠ '"' → c ≠ '\\' → Denotes escaped cs denoted →
      Denotes escaped (c :: cs) (c :: denoted)
  | pair {c : Char} {cs denoted : List Char} : Denotes escaped cs denoted →
      Denotes escaped ('\\' :: c :: cs) (escaped c :: denoted)

theorem Denotes.read?_eq (h : Denotes escaped cs denoted) (tail : List Char) :
    read? escaped (cs ++ '"' :: tail) = some (denoted, tail) := by
  induction h with
  | nil => exact read?_quote tail
  | plain hq hb _ ih => exact (read?_cons_eq_some_iff hq hb).mpr ⟨_, ih, rfl⟩
  | pair _ ih => exact read?_backslash_eq_some_iff.mpr ⟨_, ih, rfl⟩

theorem denotes_of_read? : ∀ {cs denoted : List Char},
    read? escaped (cs ++ '"' :: tail) = some (denoted, tail) → Denotes escaped cs denoted
  | [], _, h => by
    cases h
    exact .nil
  | c :: cs, denoted, h => by
    by_cases hq : c = '"'
    · subst hq
      obtain ⟨-, ht⟩ := Prod.mk.inj (Option.some.inj h)
      have hl := congrArg List.length ht
      rw [List.append_eq, List.length_append, List.length_cons] at hl
      omega
    by_cases hb : c = '\\'
    · subst hb
      cases cs with
      | nil =>
        -- The backslash takes the quote, and a literal that closes later leaves less behind it.
        obtain ⟨found, hr, -⟩ := read?_backslash_eq_some_iff.mp h
        exact absurd (length_lt_of_read? hr) (Nat.lt_irrefl _)
      | cons c cs =>
        obtain ⟨found, hr, rfl⟩ := read?_backslash_eq_some_iff.mp h
        exact .pair (denotes_of_read? hr)
    · obtain ⟨found, hr, rfl⟩ := (read?_cons_eq_some_iff hq hb).mp h
      exact .plain hq hb (denotes_of_read? hr)

theorem read?_eq_some_iff :
    read? escaped (cs ++ '"' :: tail) = some (denoted, tail) ↔ Denotes escaped cs denoted :=
  ⟨denotes_of_read?, fun h => h.read?_eq tail⟩

theorem Denotes.length_le (h : Denotes escaped cs denoted) : denoted.length ≤ cs.length := by
  induction h with
  | nil => exact Nat.le_refl _
  | plain _ _ _ ih => exact Nat.succ_le_succ ih
  | pair _ ih => exact Nat.le_succ_of_le (Nat.succ_le_succ ih)

theorem Denotes.not_mem_of_eq (h : Denotes escaped cs denoted) (he : denoted = cs) :
    '"' ∉ cs ∧ '\\' ∉ cs := by
  induction h with
  | nil => simp
  | plain hq hb _ ih =>
    obtain ⟨hqs, hbs⟩ := ih (List.cons.inj he).2
    exact ⟨List.not_mem_cons_of_ne_of_not_mem hq.symm hqs,
      List.not_mem_cons_of_ne_of_not_mem hb.symm hbs⟩
  | pair h _ =>
    have hl := h.length_le
    rw [(List.cons.inj he).2] at hl
    exact absurd hl (Nat.not_succ_le_self _)

/-- A text denotes itself exactly when nothing in it closes or escapes. -/
theorem denotes_self_iff : Denotes escaped cs cs ↔ '"' ∉ cs ∧ '\\' ∉ cs := by
  constructor
  · intro h
    exact h.not_mem_of_eq rfl
  · rintro ⟨hq, hb⟩
    induction cs with
    | nil => exact .nil
    | cons c cs ih =>
      rw [List.mem_cons, not_or] at hq hb
      exact .plain (Ne.symm hq.1) (Ne.symm hb.1) (ih hq.2 hb.2)

end Literal

namespace Statement

/-- The text that a statement quotes. -/
def quoted? : Statement → Option String
  | call _ => none
  | renameSeg _ name => some name
  | makeNameEx _ name _ => some name
  | makeComm _ comment => some comment

theorem quote_not_mem {address : Hex} (h : ∀ c ∈ address.text.toList, Row.hex c = true) :
    '"' ∉ address.text.toList :=
  fun hm => absurd (h _ hm) (by decide)

end Statement

namespace Script

variable {found : Findings}

theorem exists_text_eq (h : found.IsLegible) {s : Statement}
    (hs : s ∈ found.segments.statements ++ found.symbols.statements) :
    ∃ quoted head tail, s.quoted? = some quoted ∧ '"' ∉ head ∧
      s.text.toList = head ++ '"' :: (quoted.toList ++ '"' :: tail) := by
  rcases List.mem_append.mp hs with hs | hs
  · obtain ⟨segment, hm, rfl⟩ := List.mem_map.mp hs
    have hq := Statement.quote_not_mem (h.segments segment hm).start
    refine ⟨segment.name, "\tRenameSeg(0x".toList ++ segment.start.text.toList ++ ", ".toList,
      ");".toList, rfl, by simp [hq], ?_⟩
    simp [Statement.toList_text_renameSeg]
  · obtain ⟨⟨_, symbol⟩, hm, hs⟩ := List.mem_flatMap.mp hs
    have hq := Statement.quote_not_mem (h.symbols _ hm).address
    rw [Symbol.statements_eq] at hs
    rcases List.mem_cons.mp hs with rfl | hs
    · refine ⟨symbol.name, "\tMakeNameEx(0x".toList ++ symbol.address.text.toList ++ ", ".toList,
        ", 0x".toList ++ (lowerDigits symbol.flags ++ ");".toList), rfl, by simp [hq], ?_⟩
      simp [Statement.toList_text_makeNameEx]
    · obtain ⟨origin, -, rfl⟩ := by simpa using hs
      refine ⟨origin, "\tMakeComm(0x".toList ++ symbol.address.text.toList ++ ", ".toList,
        ");".toList, rfl, by simp [hq], ?_⟩
      simp [Statement.toList_text_makeComm]

/-- For every text, each statement that renames, names or comments quotes its argument as it is.
Read as a literal from the first quote of the line on, the argument closes at the quote behind it
exactly when it is made of pairs of a backslash and a character and of characters that are neither
quotes nor backslashes, and it denotes itself exactly when it has none of either. -/
theorem quoted_literal_iff (text : String) : ∃ found out,
    ofSections (.ofText text) (.empty none) = .ok found out ∧
    out.sink.written = (Text.unlines (lines found)).toUTF8 ∧
    ∀ s ∈ found.segments.statements ++ found.symbols.statements, ∃ quoted head tail,
      s.quoted? = some quoted ∧ '"' ∉ head ∧
      s.text.toList = head ++ '"' :: (quoted.toList ++ '"' :: tail) ∧
      ∀ escaped : Char → Char,
        (∀ denoted, Literal.read? escaped (quoted.toList ++ '"' :: tail) = some (denoted, tail) ↔
          Literal.Denotes escaped quoted.toList denoted) ∧
        (Literal.read? escaped (quoted.toList ++ '"' :: tail) = some (quoted.toList, tail) ↔
          '"' ∉ quoted.toList ∧ '\\' ∉ quoted.toList) := by
  obtain ⟨notices, h⟩ := ofSections_unlimited (.ofText text)
  have hlegible := isLegible_ofText text
  generalize Findings.ofSections (.ofText text) = found at h hlegible
  refine ⟨found, _, h, rfl, ?_⟩
  intro s hs
  obtain ⟨quoted, head, tail, hquoted, hhead, htext⟩ := exists_text_eq hlegible hs
  refine ⟨quoted, head, tail, hquoted, hhead, htext, fun escaped => ⟨fun denoted => ?_, ?_⟩⟩
  · exact Literal.read?_eq_some_iff
  · rw [Literal.read?_eq_some_iff]
    exact Literal.denotes_self_iff

/-- A quote in a name closes the literal, and a backslash at its end keeps it open. -/
theorem literal_cut_at_quote :
    let text := "Memory map:\n .te\"xt 1 2 3\n .data\\ 4 5 6\n"
    (∃ found notices, ofSections (.ofText text) (.empty none) =
        .ok found ⟨⟨(Text.unlines (lines found)).toUTF8, none⟩, notices⟩ ∧
      found.segments.statements = [.renameSeg ⟨"1"⟩ ".te\"xt", .renameSeg ⟨"4"⟩ ".data\\"] ∧
      lines found = [
        "static main()", "\x7b", "\thandleSegments();", "\thandleFunctions();", "\x7d",
        "static handleSegments()", "\x7b", "\tRenameSeg(0x1, \".te\"xt\");",
        "\tRenameSeg(0x4, \".data\\\");", "\x7d",
        "static handleFunctions()", "\x7b", "\x7d"]) ∧
    ∀ escaped : Char → Char,
      Literal.read? escaped (".te\"xt".toList ++ '"' :: ");".toList) =
        some (".te".toList, "xt\");".toList) ∧
      Literal.read? escaped (".data\\".toList ++ '"' :: ");".toList) = none := by
  intro text
  refine ⟨?_, fun escaped => ?_⟩
  · obtain ⟨notices, h⟩ := ofSections_unlimited (.ofText text)
    exact ⟨_, notices, h, by decide +kernel, by decide +kernel⟩
  · simp [Literal.read?]

end Script

end LinkerMap
