import LinkerMap.Script.Statement

/-! # Effects of emissions

A computation that does not look at its output comes down to a result and a list of effects: texts
written and notices left. A sink takes the texts as if they were one text.
-/

namespace LinkerMap

/-- Something done to an output. -/
inductive Effect where
  | text (s : String)
  | notice (n : Notice)

namespace Effect

def written : List Effect → String
  | [] => ""
  | text s :: es => s ++ written es
  | notice _ :: es => written es

def noted : List Effect → List Notice
  | [] => []
  | text _ :: es => noted es
  | notice n :: es => n :: noted es

@[simp] theorem written_append (es fs : List Effect) :
    written (es ++ fs) = written es ++ written fs := by
  induction es with
  | nil => simp [written]
  | cons e es ih => cases e <;> simp [written, ih, String.append_assoc]

end Effect

open Effect

namespace Sink

variable {sink sink' : Sink} {a b : ByteArray}

/-- A sink does not show where a text was cut into two writes. -/
theorem accept_append (sink : Sink) (a b : ByteArray) :
    sink.accept (a ++ b) =
      if (sink.accept a).1 then (sink.accept a).2.accept b else sink.accept a := by
  obtain ⟨written, _ | limit⟩ := sink
  · simp [accept, ByteArray.append_assoc]
  · by_cases ha : a.size ≤ limit - written.size
    · have he : limit - (written ++ a).size = limit - written.size - a.size := by
        rw [ByteArray.size_append]; omega
      have hx : a.extract 0 (limit - written.size) = a := by
        have hm := ByteArray.extract_zero_max_size (a := a) (i := limit - written.size)
        rwa [Nat.max_eq_left ha] at hm
      by_cases hb : b.size ≤ limit - written.size - a.size
      · have hab : (a ++ b).size ≤ limit - written.size := by
          rw [ByteArray.size_append]; omega
        simp only [accept, he, if_pos ha, if_pos hb, if_pos hab, if_true, ByteArray.append_assoc]
      · have hab : ¬ (a ++ b).size ≤ limit - written.size := by
          rw [ByteArray.size_append]; omega
        simp only [accept, he, if_pos ha, if_neg hb, if_neg hab, if_true, ByteArray.append_assoc,
          ByteArray.extract_append, hx, Nat.zero_sub]
    · have hab : ¬ (a ++ b).size ≤ limit - written.size := by
        rw [ByteArray.size_append]; omega
      have hz : limit - written.size - a.size = 0 := by omega
      simp only [accept, if_neg ha, if_neg hab, ByteArray.extract_append, hz, Nat.zero_sub,
        ByteArray.extract_same, ByteArray.append_empty, Bool.false_eq_true, if_false]

theorem accept_append_of_true (h : sink.accept a = (true, sink')) :
    sink.accept (a ++ b) = sink'.accept b := by
  rw [accept_append, h, if_pos rfl]

theorem accept_append_of_false (h : sink.accept a = (false, sink')) :
    sink.accept (a ++ b) = (false, sink') := by
  rw [accept_append, h]; rfl

end Sink

namespace Emission

variable {α β γ : Type} {sink sink' : Sink} {notices : Array Notice} {es fs : List Effect}

theorem bind_apply (m : Emission α) (f : α → Emission β) (out : Output) :
    (m >>= f) out = match m out with
      | .ok a out => f a out
      | .error e out => .error e out := by
  simp only [bind, EStateM.bind]
  cases m out <;> rfl

theorem write_of_accept {s : String} (h : sink.accept s.toByteArray = (true, sink')) :
    write s ⟨sink, notices⟩ = .ok () ⟨sink', notices⟩ := by
  rw [write, String.toUTF8_eq_toByteArray, h]

theorem write_of_refuse {s : String} (h : sink.accept s.toByteArray = (false, sink')) :
    write s ⟨sink, notices⟩ = .error .full ⟨sink', notices⟩ := by
  rw [write, String.toUTF8_eq_toByteArray, h]

/-- Has effects one after the other. -/
def replay : List Effect → Emission Unit
  | [] => return
  | .text s :: es => do write s; replay es
  | .notice n :: es => do note n; replay es

theorem replay_append (es fs : List Effect) : replay (es ++ fs) =
    (do replay es; replay fs) := by
  induction es with
  | nil => simp [replay]
  | cons e es ih => cases e <;> simp [replay, ih]

theorem replay_of_accept (h : sink.accept (written es).toByteArray = (true, sink')) :
    replay es ⟨sink, notices⟩ = .ok () ⟨sink', notices ++ (noted es).toArray⟩ := by
  induction es generalizing sink notices with
  | nil =>
    have hs : sink = sink' := by
      obtain ⟨w, _ | l⟩ := sink <;> simpa [written, Sink.accept] using h
    simp [replay, noted, hs, pure, EStateM.pure]
  | cons e es ih =>
    cases e with
    | text s =>
      rw [written, String.toByteArray_append] at h
      cases hs : sink.accept s.toByteArray with
      | mk fits middle =>
        cases fits with
        | false => simp [Sink.accept_append_of_false hs] at h
        | true =>
          rw [Sink.accept_append_of_true hs] at h
          rw [replay, bind_apply, write_of_accept hs]
          exact ih h
    | notice n =>
      have hi : replay es ⟨sink, notices.push n⟩ = _ := ih h
      rw [replay, bind_apply, note]
      simpa [noted] using hi

/-- Effects that a sink has no room for stop where it is full. -/
theorem replay_of_refuse (notices : Array Notice)
    (h : sink.accept (written es).toByteArray = (false, sink')) :
    ∃ left, left <+: noted es ∧
      replay es ⟨sink, notices⟩ = .error .full ⟨sink', notices ++ left.toArray⟩ := by
  induction es generalizing sink notices with
  | nil => obtain ⟨w, _ | l⟩ := sink <;> simp [written, Sink.accept] at h
  | cons e es ih =>
    cases e with
    | text s =>
      rw [written, String.toByteArray_append] at h
      cases hs : sink.accept s.toByteArray with
      | mk fits middle =>
        cases fits with
        | false =>
          obtain rfl : middle = sink' := by simpa [Sink.accept_append_of_false hs] using h
          exact ⟨[], List.nil_prefix, by rw [replay, bind_apply, write_of_refuse hs]; simp⟩
        | true =>
          rw [Sink.accept_append_of_true hs] at h
          rw [replay, bind_apply, write_of_accept hs]
          exact ih notices h
    | notice n =>
      obtain ⟨left, hl, he⟩ : ∃ left, left <+: noted es ∧ replay es ⟨sink, notices.push n⟩ = _ :=
        ih _ h
      refine ⟨n :: left, List.cons_prefix_cons.mpr ⟨rfl, hl⟩, ?_⟩
      rw [replay, bind_apply, note]
      simpa using he

/-- A computation has these effects and this result, whatever its output is. -/
def Performs (m : Emission α) (es : List Effect) (a : α) : Prop :=
  m = (do replay es; return a)

theorem Performs.pure (a : α) : Performs (Pure.pure a) [] a := by
  simp [Performs, replay]

theorem performs_write (s : String) : Performs (write s) [.text s] () := by
  simp [Performs, replay]

theorem performs_note (n : Notice) : Performs (note n) [.notice n] () := by
  simp [Performs, replay]

theorem Performs.bind {m : Emission α} {f : α → Emission β} {a : α} {b : β}
    (hm : Performs m es a) (hf : Performs (f a) fs b) : Performs (m >>= f) (es ++ fs) b := by
  unfold Performs at hm hf ⊢
  rw [hm, replay_append]
  simp [hf]

theorem Performs.bind_pure {m : Emission α} {a : α} (hm : Performs m es a) (f : α → β) :
    Performs (m >>= fun a => Pure.pure (f a)) es (f a) := by
  have h : Performs (m >>= fun a => Pure.pure (f a)) (es ++ []) (f a) := hm.bind (.pure (f a))
  rwa [List.append_nil] at h

theorem Performs.foldlM {f : β → γ → Emission β} {effects : γ → List Effect} {next : β → γ → β}
    (h : ∀ b c, Performs (f b c) (effects c) (next b c)) (cs : List γ) (b : β) :
    Performs (cs.foldlM f b) (cs.flatMap effects) (cs.foldl next b) := by
  induction cs generalizing b with
  | nil => exact .pure b
  | cons c cs ih =>
    rw [List.foldlM_cons, List.flatMap_cons, List.foldl_cons]
    exact (h b c).bind (ih (next b c))

theorem Performs.forM {f : γ → Emission PUnit} {effects : γ → List Effect}
    (h : ∀ c, Performs (f c) (effects c) ⟨⟩) (cs : List γ) :
    Performs (cs.forM f) (cs.flatMap effects) ⟨⟩ := by
  induction cs with
  | nil => exact .pure _
  | cons c cs ih =>
    rw [List.flatMap_cons]
    exact (h c).bind ih

theorem Performs.of_accept {m : Emission α} {a : α} (hm : Performs m es a)
    (h : sink.accept (written es).toByteArray = (true, sink')) :
    m ⟨sink, notices⟩ = .ok a ⟨sink', notices ++ (noted es).toArray⟩ := by
  rw [hm, bind_apply, replay_of_accept h]
  rfl

theorem Performs.of_refuse {m : Emission α} {a : α} (hm : Performs m es a)
    (h : sink.accept (written es).toByteArray = (false, sink')) :
    ∃ left, left <+: noted es ∧
      m ⟨sink, notices⟩ = .error .full ⟨sink', notices ++ left.toArray⟩ := by
  obtain ⟨left, hl, he⟩ := replay_of_refuse notices h
  exact ⟨left, hl, by rw [hm, bind_apply, he]⟩

theorem Performs.eq_of_ok {m : Emission α} {a b : α} {out out' : Output} (hm : Performs m es a)
    (h : m out = .ok b out') : b = a := by
  rw [hm, bind_apply] at h
  split at h
  · cases h
    rfl
  · cases h

/-- What a computation comes to, and what the sink holds then: all but the notices. -/
def outcome : EStateM.Result SinkError Output α → Except SinkError α × Sink
  | .ok a out => (.ok a, out.sink)
  | .error e out => (.error e, out.sink)

/-- But for the notices, a computation depends on its text and its result. -/
theorem Performs.outcome_eq {m : Emission α} {a : α} (hm : Performs m es a) (sink : Sink)
    (notices : Array Notice) :
    outcome (m ⟨sink, notices⟩) = match sink.accept (written es).toByteArray with
      | (true, sink) => (.ok a, sink)
      | (false, sink) => (.error .full, sink) := by
  cases h : sink.accept (written es).toByteArray with
  | mk fits sink' =>
    cases fits with
    | true =>
      rw [hm.of_accept h]
      rfl
    | false =>
      obtain ⟨left, -, he⟩ := hm.of_refuse h
      rw [he]
      rfl

theorem Performs.unlimited {m : Emission α} {a : α} (hm : Performs m es a) :
    m (.empty none) =
      .ok a ⟨⟨(written es).toUTF8, none⟩, (noted es).toArray⟩ := by
  have h : (Sink.empty none).accept (written es).toByteArray =
      (true, ⟨(written es).toUTF8, none⟩) := by
    simp [Sink.empty, Sink.accept]
  rw [Output.empty, hm.of_accept h, Array.empty_append]

end Emission

end LinkerMap
