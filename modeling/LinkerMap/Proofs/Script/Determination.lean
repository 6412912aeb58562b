import LinkerMap.Proofs.Row.Fields
import LinkerMap.Proofs.Script.Rendering
import LinkerMap.Proofs.Sections.Splitting

/-! # What a script says of its map

Nothing is escaped in a script. Still its lines, and the arguments of its statements, can be told
apart: addresses are hexadecimal digits, and no name or module of a text holds a line feed.
-/

namespace LinkerMap

open Row

theorem map_eq_map_of {α β γ : Type} {f : α → β} {g : α → γ} {xs ys : List α}
    (h : ∀ x ∈ xs, ∀ y ∈ ys, f x = f y → g x = g y) (he : xs.map f = ys.map f) :
    xs.map g = ys.map g := by
  induction xs generalizing ys with
  | nil =>
    obtain rfl : ys = [] := List.map_eq_nil_iff.mp he.symm
    rfl
  | cons x xs ih =>
    obtain ⟨y, ys, rfl, hy, hys⟩ := List.map_eq_cons_iff.mp he.symm
    rw [List.map_cons, List.map_cons, h x List.mem_cons_self y List.mem_cons_self hy.symm,
      ih (fun x hx y hy => h x (List.mem_cons_of_mem _ hx) y (List.mem_cons_of_mem _ hy)) hys.symm]

namespace Statement

theorem toList_text_renameSeg (address : Hex) (name : String) :
    (renameSeg address name).text.toList = "\tRenameSeg(0x".toList ++
      (address.text.toList ++ ',' :: (" \"".toList ++ (name.toList ++ "\");".toList))) := by
  simp [text_renameSeg, Hex.literal, argument]

theorem toList_text_makeNameEx (address : Hex) (name : String) (flags : Nat) :
    (makeNameEx address name flags).text.toList = "\tMakeNameEx(0x".toList ++
      (address.text.toList ++ ',' :: (" \"".toList ++ (name.toList ++
        ("\", 0x".toList ++ (lowerDigits flags ++ ");".toList))))) := by
  simp [text_makeNameEx, Hex.literal, argument]

theorem toList_text_makeComm (address : Hex) (comment : String) :
    (makeComm address comment).text.toList = "\tMakeComm(0x".toList ++
      (address.text.toList ++ ',' :: (" \"".toList ++ (comment.toList ++ "\");".toList))) := by
  simp [text_makeComm, Hex.literal, argument]

theorem exists_toList_text (s : Statement) : ∃ cs, s.text.toList = '\t' :: cs := by
  cases s with
  | call routine => simp [text_call]
  | renameSeg address name => simp [toList_text_renameSeg]
  | makeNameEx address name flags => simp [toList_text_makeNameEx]
  | makeComm address comment => simp [toList_text_makeComm]

theorem text_makeNameEx_ne_makeComm (address address' : Hex) (name comment : String)
    (flags : Nat) : (makeNameEx address name flags).text ≠ (makeComm address' comment).text := by
  intro h
  have hl := congrArg String.toList h
  rw [toList_text_makeNameEx, toList_text_makeComm] at hl
  simp at hl

theorem comma_not_mem {address : Hex} (h : ∀ c ∈ address.text.toList, hex c = true) :
    ',' ∉ address.text.toList :=
  fun hm => absurd (h _ hm) (by decide)

theorem lf_not_mem {address : Hex} (h : ∀ c ∈ address.text.toList, hex c = true) :
    '\n' ∉ address.text.toList :=
  fun hm => absurd (h _ hm) (by decide)

theorem address_inj {head rest rest' : List Char} {address address' : Hex}
    (h : ∀ c ∈ address.text.toList, hex c = true)
    (h' : ∀ c ∈ address'.text.toList, hex c = true)
    (he : head ++ (address.text.toList ++ ',' :: rest) =
      head ++ (address'.text.toList ++ ',' :: rest')) :
    address.text = address'.text ∧ rest = rest' := by
  obtain ⟨ha, hr⟩ := append_cons_inj (comma_not_mem h) (comma_not_mem h')
    (List.append_cancel_left he)
  exact ⟨String.toList_inj.mp ha, hr⟩

end Statement

/-! ### Findings whose script can be read back -/

/-- The start is hexadecimal, and the name fits on a line. -/
structure Segment.IsLegible (segment : Segment) : Prop where
  start : ∀ c ∈ segment.start.text.toList, hex c = true
  name : '\n' ∉ segment.name.toList

/-- The address is hexadecimal, and the name and the module fit on a line. -/
structure Symbol.IsLegible (symbol : Symbol) : Prop where
  address : ∀ c ∈ symbol.address.text.toList, hex c = true
  name : '\n' ∉ symbol.name.toList
  origin : ∀ origin ∈ symbol.module?, '\n' ∉ origin.toList

structure Findings.IsLegible (found : Findings) : Prop where
  segments : ∀ segment ∈ found.segments.segments.toList, segment.IsLegible
  symbols : ∀ entry ∈ found.symbols.symbols.toList, entry.2.IsLegible

theorem Findings.IsLegible.map_snd {found : Findings} (h : found.IsLegible) :
    ∀ symbol ∈ found.symbols.symbols.toList.map Prod.snd, symbol.IsLegible := by
  intro symbol hs
  obtain ⟨entry, he, rfl⟩ := List.mem_map.mp hs
  exact h.symbols entry he

namespace Segment

variable {s t : Segment}

/-- What a script says of a segment. -/
def shown (segment : Segment) : String × String :=
  (segment.start.text, segment.name)

theorem shown_eq_of_text_eq (hs : s.IsLegible) (ht : t.IsLegible)
    (h : (Statement.renameSeg s.start s.name).text = (Statement.renameSeg t.start t.name).text) :
    s.shown = t.shown := by
  have hl := congrArg String.toList h
  rw [Statement.toList_text_renameSeg, Statement.toList_text_renameSeg] at hl
  obtain ⟨ha, hr⟩ := Statement.address_inj hs.start ht.start hl
  have hn := List.append_cancel_right (List.append_cancel_left hr)
  exact Prod.ext ha (String.toList_inj.mp hn)

end Segment

namespace Symbol

variable {s t : Symbol}

/-- What a script says of a symbol. -/
def shown (symbol : Symbol) : String × String × Option String :=
  (symbol.address.text, symbol.name, symbol.module?)

theorem lowerDigits_flags (symbol : Symbol) :
    lowerDigits symbol.flags = if symbol.isLocal then ['1', '2', '5'] else ['1', '4', '3'] := by
  unfold flags
  split <;> decide

theorem address_name_eq_of_text_eq (hs : s.IsLegible) (ht : t.IsLegible)
    (h : (Statement.makeNameEx s.address s.name s.flags).text =
      (Statement.makeNameEx t.address t.name t.flags).text) :
    s.address.text = t.address.text ∧ s.name = t.name := by
  have hl := congrArg String.toList h
  rw [Statement.toList_text_makeNameEx, Statement.toList_text_makeNameEx] at hl
  obtain ⟨ha, hr⟩ := Statement.address_inj hs.address ht.address hl
  -- Both flags have three digits, so the names end at the same distance from the end.
  have hd : ∀ u : Symbol, (lowerDigits u.flags).length = 3 := by
    intro u
    rw [lowerDigits_flags]
    split <;> rfl
  obtain ⟨hn, -⟩ := List.append_inj' (List.append_cancel_left hr) (by simp [hd])
  exact ⟨ha, String.toList_inj.mp hn⟩

theorem origin_eq_of_text_eq (hs : s.IsLegible) (ht : t.IsLegible) {origin origin' : String}
    (h : (Statement.makeComm s.address origin).text =
      (Statement.makeComm t.address origin').text) : origin = origin' := by
  have hl := congrArg String.toList h
  rw [Statement.toList_text_makeComm, Statement.toList_text_makeComm] at hl
  obtain ⟨-, hr⟩ := Statement.address_inj hs.address ht.address hl
  exact String.toList_inj.mp (List.append_cancel_right (List.append_cancel_left hr))

def lines (symbol : Symbol) : List String :=
  symbol.statements.map Statement.text

def commentLines (symbol : Symbol) : List String :=
  (symbol.module?.map fun origin => (Statement.makeComm symbol.address origin).text).toList

theorem lines_eq_cons (symbol : Symbol) :
    symbol.lines = (Statement.makeNameEx symbol.address symbol.name symbol.flags).text ::
      symbol.commentLines := by
  rw [lines, statements_eq, commentLines]
  cases symbol.module? <;> rfl

theorem lines_eq_of_shown_eq (h : s.shown = t.shown) : s.lines = t.lines := by
  obtain ⟨_, _, ⟨address⟩, _, name, module?⟩ := s
  obtain ⟨_, _, ⟨address'⟩, _, name', module?'⟩ := t
  simp only [shown, Prod.mk.injEq] at h
  obtain ⟨rfl, rfl, rfl⟩ := h
  rfl

theorem flatMap_lines_ne_makeComm_cons (symbols : List Symbol) (address : Hex) (origin : String)
    (rest : List String) :
    symbols.flatMap lines ≠ (Statement.makeComm address origin).text :: rest := by
  cases symbols with
  | nil => simp
  | cons s symbols =>
    rw [List.flatMap_cons, lines_eq_cons, List.cons_append]
    intro h
    exact Statement.text_makeNameEx_ne_makeComm _ _ _ _ _ (List.cons.inj h).1

/-- What follows the comment of a symbol does not start with another comment. -/
theorem module_eq_of_append_eq {symbols symbols' : List Symbol} (hs : s.IsLegible)
    (ht : t.IsLegible)
    (h : s.commentLines ++ symbols.flatMap lines = t.commentLines ++ symbols'.flatMap lines) :
    s.module? = t.module? ∧ symbols.flatMap lines = symbols'.flatMap lines := by
  unfold commentLines at h
  cases hms : s.module? with
  | none =>
    cases hmt : t.module? with
    | none => exact ⟨rfl, by simpa [hms, hmt] using h⟩
    | some origin =>
      rw [hms, hmt] at h
      exact absurd h (flatMap_lines_ne_makeComm_cons _ _ _ _)
  | some origin =>
    cases hmt : t.module? with
    | none =>
      rw [hms, hmt] at h
      exact absurd h.symm (flatMap_lines_ne_makeComm_cons _ _ _ _)
    | some origin' =>
      rw [hms, hmt] at h
      obtain ⟨ho, hr⟩ := List.cons.inj h
      rw [origin_eq_of_text_eq hs ht ho]
      exact ⟨rfl, hr⟩

/-- The lines for symbols say which symbols are named, and which of them come with a module. -/
theorem flatMap_lines_inj (symbols symbols' : List Symbol) (h : ∀ s ∈ symbols, s.IsLegible)
    (h' : ∀ s ∈ symbols', s.IsLegible) :
    symbols.flatMap lines = symbols'.flatMap lines ↔
      symbols.map shown = symbols'.map shown := by
  induction symbols generalizing symbols' with
  | nil => cases symbols' <;> simp [lines_eq_cons]
  | cons s symbols ih =>
    cases symbols' with
    | nil => simp [lines_eq_cons]
    | cons t symbols' =>
      rw [List.forall_mem_cons] at h h'
      rw [List.map_cons, List.map_cons, List.cons.injEq, ← ih _ h.2 h'.2, List.flatMap_cons,
        List.flatMap_cons]
      constructor
      · intro he
        rw [lines_eq_cons, lines_eq_cons, List.cons_append, List.cons_append,
          List.cons.injEq] at he
        obtain ⟨ha, hn⟩ := address_name_eq_of_text_eq h.1 h'.1 he.1
        obtain ⟨hm, hr⟩ := module_eq_of_append_eq h.1 h'.1 he.2
        exact ⟨by rw [shown, shown, ha, hn, hm], hr⟩
      · rintro ⟨hn, he⟩
        rw [lines_eq_of_shown_eq hn, he]

end Symbol

namespace Script

variable {found found' : Findings}

theorem close_not_mem (body : List Statement) : "\x7d" ∉ body.map Statement.text := by
  intro h
  obtain ⟨s, -, hs⟩ := List.mem_map.mp h
  obtain ⟨cs, hc⟩ := s.exists_toList_text
  simp [hs] at hc

theorem routineLines_append_inj {name : String} {body body' : List Statement}
    {rest rest' : List String}
    (h : routineLines name body ++ rest = routineLines name body' ++ rest') :
    body.map Statement.text = body'.map Statement.text ∧ rest = rest' := by
  simp only [routineLines_eq, List.append_assoc] at h
  exact append_cons_inj (close_not_mem body) (close_not_mem body') (List.append_cancel_left h)

theorem text_statements_symbols (found : SymbolFindings) :
    found.statements.map Statement.text =
      (found.symbols.toList.map Prod.snd).flatMap Symbol.lines := by
  simp [SymbolFindings.statements, List.map_flatMap, List.flatMap_map, Symbol.lines]

/-- Scripts are equal exactly when they say the same. -/
theorem lines_inj (h : found.IsLegible) (h' : found'.IsLegible) :
    lines found = lines found' ↔
      found.segments.segments.toList.map Segment.shown =
        found'.segments.segments.toList.map Segment.shown ∧
      found.symbols.symbols.toList.map (Symbol.shown ∘ Prod.snd) =
        found'.symbols.symbols.toList.map (Symbol.shown ∘ Prod.snd) := by
  have hsymbols := Symbol.flatMap_lines_inj _ _ h.map_snd h'.map_snd
  rw [List.map_map, List.map_map] at hsymbols
  rw [← hsymbols]
  constructor
  · intro he
    simp only [lines, List.append_assoc] at he
    obtain ⟨hs, he⟩ := routineLines_append_inj (List.append_cancel_left he)
    rw [← List.append_nil (routineLines _ found.symbols.statements),
      ← List.append_nil (routineLines _ found'.symbols.statements)] at he
    obtain ⟨hn, -⟩ := routineLines_append_inj he
    rw [text_statements_symbols, text_statements_symbols] at hn
    refine ⟨?_, hn⟩
    rw [SegmentFindings.statements, SegmentFindings.statements, List.map_map, List.map_map] at hs
    exact map_eq_map_of (fun s hs t ht => Segment.shown_eq_of_text_eq (h.segments s hs)
      (h'.segments t ht)) hs
  · rintro ⟨hs, hn⟩
    have hr : found.segments.statements = found'.segments.statements := by
      refine map_eq_map_of (fun s _ t _ hst => ?_) hs
      obtain ⟨_, ⟨start⟩, _, _⟩ := s
      obtain ⟨_, ⟨start'⟩, _, _⟩ := t
      obtain ⟨rfl, rfl⟩ := Prod.mk.inj hst
      rfl
    rw [← text_statements_symbols, ← text_statements_symbols] at hn
    simp only [lines, routineLines_eq, hr, hn]

theorem length_lines (found : Findings) : (lines found).length =
    11 + found.segments.segments.size + found.symbols.symbols.size + found.symbols.comments := by
  simp only [lines, routineLines, SegmentFindings.statements, List.length_append, List.length_map,
    SymbolFindings.length_statements, List.length_cons, List.length_nil, Array.length_toList]
  omega

theorem countP_routineLines (name : String) (body : List Statement) :
    (routineLines name body).countP (fun l => "static ".toList.isPrefixOf l.toList) = 1 := by
  have hb : (body.map Statement.text).countP
      (fun l => "static ".toList.isPrefixOf l.toList) = 0 := by
    rw [List.countP_eq_zero]
    intro l hl
    obtain ⟨s, -, rfl⟩ := List.mem_map.mp hl
    obtain ⟨cs, hc⟩ := s.exists_toList_text
    simp [hc]
  rw [routineLines_eq, List.countP_append, List.countP_append, hb]
  simp

theorem lf_not_mem_routineLines {name : String} {body : List Statement}
    (hn : '\n' ∉ name.toList) (hb : ∀ s ∈ body, '\n' ∉ s.text.toList) :
    ∀ l ∈ routineLines name body, '\n' ∉ l.toList := by
  simpa [routineLines_eq, or_imp, forall_and, hn] using hb

theorem lf_not_mem_lines (h : found.IsLegible) : ∀ l ∈ lines found, '\n' ∉ l.toList := by
  intro l hl
  simp only [lines, List.mem_append] at hl
  rcases hl with (hl | hl) | hl
  · refine lf_not_mem_routineLines (by decide) ?_ l hl
    decide
  · refine lf_not_mem_routineLines (by decide) ?_ l hl
    intro s hs
    obtain ⟨segment, hm, rfl⟩ := List.mem_map.mp hs
    have hsegment := h.segments segment hm
    simp [Statement.toList_text_renameSeg, Statement.lf_not_mem hsegment.start, hsegment.name]
  · refine lf_not_mem_routineLines (by decide) ?_ l hl
    intro s hs
    obtain ⟨⟨_, symbol⟩, hm, hs⟩ := List.mem_flatMap.mp hs
    have hsymbol := h.symbols _ hm
    rw [Symbol.statements_eq] at hs
    rcases List.mem_cons.mp hs with rfl | hs
    · have hd : '\n' ∉ lowerDigits symbol.flags := by
        rw [Symbol.lowerDigits_flags]
        split <;> decide
      simp [Statement.toList_text_makeNameEx, Statement.lf_not_mem hsymbol.address, hsymbol.name,
        hd]
    · obtain ⟨origin, ho, rfl⟩ := by simpa using hs
      simp [Statement.toList_text_makeComm, Statement.lf_not_mem hsymbol.address,
        hsymbol.origin origin ho]

/-! ### Maps given as text -/

theorem lf_not_mem_row {text title row : String} {rows : List String}
    (h : (Sections.ofText text).get? title = some rows) (hr : row ∈ rows) :
    '\n' ∉ row.toList :=
  Text.lf_not_mem_of_mem_lines (Sections.mem_of_get?_ofLines h hr).1

theorem isLegible_of_ofRow?_segment {row : String} {segment : Segment} (hr : '\n' ∉ row.toList)
    (h : Segment.ofRow? row = some segment) : segment.IsLegible :=
  ⟨(Segment.isRun_start h).2, fun hm => hr ((Segment.name_infix h).subset hm)⟩

theorem isLegible_of_ofRow?_symbol {row : String} {symbol : Symbol} (hr : '\n' ∉ row.toList)
    (h : Symbol.ofRow? row = some symbol) : symbol.IsLegible :=
  ⟨(Symbol.isRun_address h).2, fun hm => hr ((Symbol.name_infix h).subset hm),
    fun _ ho => Symbol.lf_not_mem_module h ho⟩

theorem isLegible_ofText (text : String) : (Findings.ofSections (.ofText text)).IsLegible := by
  constructor
  · intro segment hs
    rw [Findings.ofSections, SegmentFindings.toList_segments_ofRows] at hs
    obtain ⟨row, hrow, h⟩ := List.mem_filterMap.mp hs
    refine isLegible_of_ofRow?_segment ?_ h
    cases hg : (Sections.ofText text).get? "Memory map:" with
    | none => simp [Sections.mapRows, hg] at hrow
    | some rows => exact lf_not_mem_row hg (by simpa [Sections.mapRows, hg] using hrow)
  · intro entry he
    rw [Findings.ofSections, SymbolFindings.toList_symbols_ofLayouts] at he
    obtain ⟨segment, -, he⟩ := List.mem_flatMap.mp he
    obtain ⟨symbol, hs, rfl⟩ := List.mem_map.mp he
    obtain ⟨row, hrow, h⟩ := List.mem_filterMap.mp hs
    refine isLegible_of_ofRow?_symbol ?_ (Option.filter_eq_some_iff.mp h).1
    cases hg : (Sections.ofText text).get? (segment ++ " section layout") with
    | none => simp [Sections.layoutRows, hg] at hrow
    | some rows => exact lf_not_mem_row hg (by simpa [Sections.layoutRows, hg] using hrow)

/-- The script of a text has a line for everything that is renamed, named or commented, and three
routines. Two texts have one script exactly when the starts and names of their segments, and the
addresses, names and modules of their symbols, are the same. -/
theorem script_determines_findings (text : String) : ∃ found out, ∃ script : String,
    ofSections (.ofText text) (.empty none) = .ok found out ∧
    out.sink.written = script.toUTF8 ∧
    (∃ pieces, script.toList.splitOn '\n' = pieces ++ [[]] ∧
      pieces.length = 11 + found.segments.segments.size + found.symbols.symbols.size +
        found.symbols.comments ∧
      pieces.countP ("static ".toList.isPrefixOf ·) = 3) ∧
    ∀ text' : String, ∃ found' out',
      ofSections (.ofText text') (.empty none) = .ok found' out' ∧
      (out.sink.written = out'.sink.written ↔
        found.segments.segments.toList.map (fun s => (s.start.text, s.name)) =
          found'.segments.segments.toList.map (fun s => (s.start.text, s.name)) ∧
        found.symbols.symbols.toList.map (fun e => (e.2.address.text, e.2.name, e.2.module?)) =
          found'.symbols.symbols.toList.map
            (fun e => (e.2.address.text, e.2.name, e.2.module?))) := by
  obtain ⟨notices, hrun⟩ := ofSections_unlimited (.ofText text)
  have hlegible := isLegible_ofText text
  generalize Findings.ofSections (.ofText text) = found at hrun hlegible
  refine ⟨found, _, Text.unlines (lines found), hrun, rfl,
    ⟨_, Text.splitOn_unlines (lf_not_mem_lines hlegible), ?_, ?_⟩, fun text' => ?_⟩
  · rw [List.length_map, length_lines]
  · rw [List.countP_map, lines, List.countP_append, List.countP_append]
    exact congrArg₂ (· + ·) (congrArg₂ (· + ·) (countP_routineLines _ _) (countP_routineLines _ _))
      (countP_routineLines _ _)
  · obtain ⟨notices', hrun'⟩ := ofSections_unlimited (.ofText text')
    have hlegible' := isLegible_ofText text'
    generalize Findings.ofSections (.ofText text') = found' at hrun' hlegible'
    refine ⟨found', _, hrun', Iff.trans ?_ (lines_inj hlegible hlegible')⟩
    rw [String.toUTF8_eq_toByteArray, String.toUTF8_eq_toByteArray, String.toByteArray_inj]
    exact Text.unlines_inj (lf_not_mem_lines hlegible) (lf_not_mem_lines hlegible')

end Script

end LinkerMap
