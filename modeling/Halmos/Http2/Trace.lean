import Halmos.Http2.RouterCalls

set_option autoImplicit false

/-! # Closed streams in a trace

A stream is closed for the server once it has sent END_STREAM on it or has received RST_STREAM for
it. `Orderly` says of a trace that the server answers on no stream that is closed.
-/

namespace Halmos.Http2

/-- A HEADERS or DATA frame with END_STREAM is sent on the stream, or RST_STREAM is received for
it. -/
def Traced.Closes (id : Nat) : Traced → Prop
  | .received f => f.streamId = id ∧ f.type = 0x03
  | .did (.router _ _ _) => False
  | .did (.sent c) =>
      c.streamId = id ∧ (c.type = 0x00 ∨ c.type = 0x01) ∧ c.flags &&& 0x01 ≠ 0

/-- A HEADERS or DATA frame is sent on the stream. -/
def Traced.Answers (id : Nat) : Traced → Prop
  | .received _ => False
  | .did (.router _ _ _) => False
  | .did (.sent c) => c.streamId = id ∧ (c.type = 0x00 ∨ c.type = 0x01)

instance (id : Nat) : (x : Traced) → Decidable (x.Closes id)
  | .received _ => inferInstanceAs (Decidable (_ ∧ _))
  | .did (.router _ _ _) => inferInstanceAs (Decidable False)
  | .did (.sent _) => inferInstanceAs (Decidable (_ ∧ (_ ∨ _) ∧ _))

instance (id : Nat) : (x : Traced) → Decidable (x.Answers id)
  | .received _ => inferInstanceAs (Decidable False)
  | .did (.router _ _ _) => inferInstanceAs (Decidable False)
  | .did (.sent _) => inferInstanceAs (Decidable (_ ∧ (_ ∨ _)))

/-- Nothing is sent on the stream behind what closes it. -/
def Orderly (id : Nat) (trace : List Traced) : Prop :=
  trace.Pairwise (fun a b => a.Closes id → ¬ b.Answers id)

instance (id : Nat) (trace : List Traced) : Decidable (Orderly id trace) :=
  inferInstanceAs (Decidable (List.Pairwise _ _))

/-- The stream is closed. -/
def Closed (id : Nat) (trace : List Traced) : Prop := ∃ x ∈ trace, x.Closes id

section Orderly

variable {id : Nat} {trace more : List Traced}

/-- What is added to a trace may answer only on a stream that is open. -/
theorem Orderly.append (h : Orderly id trace) (hmore : Orderly id more)
    (hopen : Closed id trace → ∀ x ∈ more, ¬ x.Answers id) : Orderly id (trace ++ more) := by
  unfold Orderly
  rw [List.pairwise_append]
  refine ⟨h, hmore, ?_⟩
  intro a ha b hb hclose
  exact hopen ⟨a, ha, hclose⟩ b hb

theorem orderly_nil : Orderly id [] := List.Pairwise.nil

/-- Nothing to answer. -/
theorem orderly_of_silent (h : ∀ x ∈ trace, ¬ x.Answers id) : Orderly id trace := by
  unfold Orderly
  rw [List.pairwise_iff_forall_sublist]
  intro a b hsub _
  exact h b (hsub.subset (List.mem_cons_of_mem a List.mem_cons_self))

/-- What does not close the stream may stand anywhere. -/
theorem orderly_cons {x : Traced} (hx : ¬ x.Closes id) (h : Orderly id trace) :
    Orderly id (x :: trace) := by
  unfold Orderly
  rw [List.pairwise_cons]
  exact ⟨fun _ _ hclose => absurd hclose hx, h⟩

/-- An open stream. -/
theorem orderly_of_not_closed (h : ¬ Closed id trace) : Orderly id trace := by
  unfold Orderly
  rw [List.pairwise_iff_forall_sublist]
  intro a b hsub hclose
  exact absurd ⟨a, hsub.subset List.mem_cons_self, hclose⟩ h

theorem closed_append : Closed id (trace ++ more) ↔ Closed id trace ∨ Closed id more := by
  unfold Closed
  constructor
  · rintro ⟨x, hx, hclose⟩
    rcases List.mem_append.mp hx with hx | hx
    · exact Or.inl ⟨x, hx, hclose⟩
    · exact Or.inr ⟨x, hx, hclose⟩
  · rintro (⟨x, hx, hclose⟩ | ⟨x, hx, hclose⟩)
    · exact ⟨x, List.mem_append_left _ hx, hclose⟩
    · exact ⟨x, List.mem_append_right _ hx, hclose⟩

theorem not_closed_nil : ¬ Closed id [] := by
  rintro ⟨x, hx, -⟩
  cases hx

/-- Every frame of an answer is one of its stream. -/
theorem not_answers_of_answer {k : Nat} {e : Event} (h : Answer k e) (hne : id ≠ k) :
    ¬ (Traced.did e).Answers id ∧ ¬ (Traced.did e).Closes id := by
  obtain ⟨c, rfl, hstream, -⟩ := h
  exact ⟨fun ha => hne (ha.1.symm.trans hstream), fun hc => hne (hc.1.symm.trans hstream)⟩

/-- What closes a stream is an answer on it, or is received. -/
theorem answers_of_closes {e : Event} (h : (Traced.did e).Closes id) :
    (Traced.did e).Answers id := by
  cases e with
  | router k body len => exact h
  | sent c => exact ⟨h.1, h.2.1⟩

theorem not_answers_windowUpdates {k n : Nat} :
    ∀ e ∈ windowUpdates k n, ¬ (Traced.did e).Answers id := by
  unfold windowUpdates
  rw [List.forall_mem_cons, List.forall_mem_singleton]
  constructor
  · rintro ⟨-, h | h⟩
    · exact absurd h (show (0x08 : UInt8) ≠ 0x00 by decide)
    · exact absurd h (show (0x08 : UInt8) ≠ 0x01 by decide)
  · rintro ⟨-, h | h⟩
    · exact absurd h (show (0x08 : UInt8) ≠ 0x00 by decide)
    · exact absurd h (show (0x08 : UInt8) ≠ 0x01 by decide)

/-- A frame is answered on its own stream, and only HEADERS and DATA are answered. -/
theorem not_answers_handleFrame {env : Environment} {s : Server} {f : Frame}
    (h : f.streamId = id → f.type ≠ 0x00 ∧ f.type ≠ 0x01) :
    ∀ e ∈ (handleFrame env s f).2, ¬ (Traced.did e).Answers id := by
  have hne : f.type = 0x00 ∨ f.type = 0x01 → id ≠ f.streamId := by
    rintro htype rfl
    rcases htype with htype | htype
    · exact (h rfl).1 htype
    · exact (h rfl).2 htype
  have hnil : ∀ e ∈ ([] : List Event), ¬ (Traced.did e).Answers id := by
    intro e he
    cases he
  unfold handleFrame
  split_ifs with h0 h1 h3 h4 hlen h6 hack h8
  · -- DATA: the credit for it, and with the end of the request the call of the router
    by_cases hstores : Stores env s f
    · rw [handleData_stores hstores]
      split
      · obtain ⟨-, -, answers, hevents, hanswer⟩ := handleStreamEnd_spec env
          (appendStreamBody s f.streamId f.payload) f.streamId
        rw [hevents]
        intro e he
        rcases List.mem_append.mp he with he | he
        · exact not_answers_windowUpdates e he
        rcases List.mem_cons.mp he with rfl | he
        · exact fun ha => ha
        · exact (not_answers_of_answer (hanswer e he) (hne (Or.inl h0))).1
      · exact not_answers_windowUpdates
    · exact fun e he => not_answers_windowUpdates e ((handleData_drops hstores).2 e he)
  · rcases handleHeaders_cases env s f.head f.payloadBuf with ⟨-, hh⟩ | ⟨-, s', -, hh⟩
    · rw [hh]
      exact hnil
    · rw [hh]
      intro e he
      rcases headersOn_events _ _ e he with ⟨body, len, rfl⟩ | hanswer | rfl
      · exact fun ha => ha
      · exact (not_answers_of_answer hanswer (hne (Or.inr h1))).1
      · rintro ⟨hstream, -⟩
        exact hne (Or.inr h1) hstream.symm
  · exact hnil
  · exact hnil
  · exact hnil
  · rw [List.forall_mem_singleton]
    rintro ⟨-, h | h⟩
    · exact absurd h (show (0x06 : UInt8) ≠ 0x00 by decide)
    · exact absurd h (show (0x06 : UInt8) ≠ 0x01 by decide)
  · exact hnil
  · exact hnil
  · exact hnil

end Orderly

end Halmos.Http2
