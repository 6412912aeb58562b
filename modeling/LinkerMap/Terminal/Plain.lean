/-! # Plain text

A text without what a terminal does not show: control sequences are left out from their introducer
to their end, and of the single controls only the layout stays. A sequence that is never ended
takes the rest of the text with it.
-/

namespace LinkerMap.Terminal

def isLayout (c : Char) : Bool :=
  c == '\t' || c == '\n' || c == '\x0C' || c == '\r'

/-- The characters that text in no sequence keeps: all but the controls that lay out nothing. -/
def isShown (c : Char) : Bool :=
  isLayout c || (0x20 ≤ c.toNat && c.toNat != 0x7F)

def holdsTerminator (c : Char) : Bool :=
  (String.utf8EncodeChar c).any (· == 0x9C)

/-- What part of a sequence is being read, if any. -/
inductive Mode where
  | ground
  | escape
  | escapeIntermediate
  | parameters
  | command
  | privateString
  | deviceEntry
  | deviceParameters
  | deviceIntermediate
  | deviceString
  deriving DecidableEq, Repr

namespace Mode

/-- Whether single controls in the midst of a sequence are carried out at once. -/
def executes : Mode → Bool
  | ground | escape | escapeIntermediate | parameters => true
  | _ => false

def introduced (c : Char) : Mode :=
  if c == '[' then parameters
  else if c == ']' then command
  else if c == 'P' then deviceEntry
  else if c == 'X' || c == '^' || c == '_' then privateString
  else if ' ' ≤ c && c ≤ '/' then escapeIntermediate
  else if '0' ≤ c && c ≤ '~' then ground
  else escape

/-- The mode after a character that is not shown. An escape begins a sequence anew, a cancel or a
substitute drops it. -/
def next (mode : Mode) (c : Char) : Mode :=
  if c == '\x18' || c == '\x1A' then ground
  else if c == '\x1B' then escape
  else
    match mode with
    | ground => ground
    | escape => introduced c
    | escapeIntermediate => if '0' ≤ c && c ≤ '~' then ground else escapeIntermediate
    | parameters => if '@' ≤ c && c ≤ '~' then ground else parameters
    | command => if c == '\x07' then ground else command
    | privateString => if holdsTerminator c then ground else privateString
    | deviceEntry =>
      if ' ' ≤ c && c ≤ '/' then deviceIntermediate
      else if '0' ≤ c && c ≤ '?' then deviceParameters
      else if '@' ≤ c && c ≤ '~' then deviceString
      else deviceEntry
    | deviceParameters =>
      if ' ' ≤ c && c ≤ '/' then deviceIntermediate
      else if '<' ≤ c && c ≤ '~' then deviceString
      else deviceParameters
    | deviceIntermediate => if '0' ≤ c && c ≤ '~' then deviceString else deviceIntermediate
    | deviceString => if holdsTerminator c then ground else deviceString

end Mode

/-- Where a reader of text stands. Layout in the midst of a sequence holds the sequence up: text is
shown until a control, and then the sequence goes on. -/
structure Reader where
  mode : Mode := .ground
  showing : Bool := false
  deriving DecidableEq, Repr

def Reader.read (reader : Reader) (c : Char) : Reader × Bool :=
  if reader.showing || reader.mode == .ground then
    if isShown c then (⟨if c.toNat < 0x80 then reader.mode else .ground, true⟩, true)
    else (⟨reader.mode.next c, false⟩, false)
  else if reader.mode.executes && isLayout c then (⟨reader.mode, true⟩, true)
  else (⟨reader.mode.next c, false⟩, false)

def Reader.shown (reader : Reader) : List Char → List Char
  | [] => []
  | c :: cs =>
    let (after, kept) := reader.read c
    if kept then c :: after.shown cs else after.shown cs

/-- A text without controls and control sequences. -/
def plain (s : String) : String :=
  String.ofList (({} : Reader).shown s.toList)

theorem Reader.shown_of_all_isShown {cs : List Char} (h : ∀ c ∈ cs, isShown c = true) :
    ∀ showing : Bool, Reader.shown ⟨.ground, showing⟩ cs = cs := by
  induction cs with
  | nil => intro _; rfl
  | cons c cs ih =>
    intro showing
    have hc : isShown c = true := h c List.mem_cons_self
    simp [Reader.shown, Reader.read, hc, ih fun d hd => h d (List.mem_cons_of_mem c hd)]

theorem plain_of_all_isShown {s : String} (h : ∀ c ∈ s.toList, isShown c = true) :
    plain s = s := by
  rw [plain, Reader.shown_of_all_isShown h, String.ofList_toList]

end LinkerMap.Terminal
