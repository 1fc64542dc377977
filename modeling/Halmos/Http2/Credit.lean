import Halmos.Basic.Runs
import Halmos.Http2.Steps

set_option autoImplicit false

/-! # Inbound credit

Each DATA frame uses up credit of the connection, and the server gives it back with a
WINDOW_UPDATE on stream 0. The frames for which it does not are those without a stream, those
whose body cannot be stored, and those that hold no WebSocket frame on a WebSocket stream
(`Returned`); what they used is lost for the rest of the session (`credit_eq_length_iff`).
-/

namespace Halmos.Http2

/-- The credit for the connection that an event gives. -/
def Event.credit : Event → Nat
  | .router _ _ _ => 0
  | .sent c => if c.type = 0x08 ∧ c.streamId = 0 then windowIncrement (some c.payload) else 0

def Traced.credit : Traced → Nat
  | .received _ => 0
  | .did e => e.credit

/-- The length of a DATA frame. -/
def Traced.dataLength : Traced → Nat
  | .received f => if f.type = 0x00 then f.payload.length else 0
  | .did _ => 0

/-- The credit given so far. -/
def Run.credit (r : Run) : Nat := (r.trace.map Traced.credit).sum

/-- The lengths of the DATA frames so far. -/
def Run.dataLength (r : Run) : Nat := (r.trace.map Traced.dataLength).sum

/-- The credit of a DATA frame is given back: its stream is there, and its body is stored, or a
WebSocket stream gets a WebSocket frame. -/
def Returned (env : Environment) (s : Server) (f : Frame) : Prop :=
  (http2StreamFind s f.streamId).isSome ∧
    if (s.rest.streams f.streamId).req.isUpgrade then
      websocketFits f.payload ∧ env.mallocOk
    else env.reallocOk

/-- The condition on a step. -/
def Run.Returns (r : Run) : Run.Input → Prop
  | .frame f env => f.type = 0x00 → f.payload ≠ [] → Returned env r.server f
  | .flush _ => True

/-! ## The credit of events -/

theorem credit_windowUpdate {n : Nat} (h : n < 2 ^ 31) :
    (Event.sent (http2FrameSendWindowUpdate 0 n)).credit = n := by
  have hmask : (byteAt n 24 &&& 0x7F).toNat &&& 0x7F = (byteAt n 24).toNat := by
    rw [UInt8.toNat_and, Nat.and_assoc]
    exact byteAt_24_and_127 n h
  show windowIncrement (some [byteAt n 24 &&& 0x7F, byteAt n 16, byteAt n 8, byteAt n 0]) = n
  unfold windowIncrement
  dsimp only
  rw [hmask]
  exact join32 n (by omega)

theorem credit_windowUpdate_stream {id : Nat} (hid : id ≠ 0) (n : Nat) :
    (Event.sent (http2FrameSendWindowUpdate id n)).credit = 0 := if_neg (fun h => hid h.2)

theorem credit_answer {id : Nat} {e : Event} (h : Answer id e) : e.credit = 0 := by
  obtain ⟨c, rfl, -, htype⟩ := h
  apply if_neg
  rintro ⟨h8, -⟩
  rw [h8] at htype
  exact absurd htype (by decide)

theorem sum_credit_eq_zero {es : List Event} (h : ∀ e ∈ es, e.credit = 0) :
    (es.map Event.credit).sum = 0 := by
  apply List.sum_eq_zero
  intro n hn
  obtain ⟨e, he, rfl⟩ := List.mem_map.mp hn
  exact h e he

theorem sum_credit_windowUpdates {id n : Nat} (hid : id ≠ 0) (hn : n < 2 ^ 31) :
    ((windowUpdates id n).map Event.credit).sum = n := by
  unfold windowUpdates
  rw [List.map_cons, List.map_cons, credit_windowUpdate_stream hid, credit_windowUpdate hn]
  simp

section Steps

variable {env : Environment} {s : Server} {f : Frame}

theorem sum_credit_handleHeaders (head : HTTP2FrameHeader) (payload : Option (List UInt8)) :
    ((http2ParserHandleHeaders env s head payload).2.map Event.credit).sum = 0 := by
  apply sum_credit_eq_zero
  rcases handleHeaders_cases env s head payload with ⟨-, h⟩ | ⟨-, s', -, h⟩
  · rw [h]
    intro e he
    cases he
  · rw [h]
    intro e he
    rcases headersOn_events head.flags (payload.getD []) e he with ⟨body, len, rfl⟩ | he | rfl
    · rfl
    · exact credit_answer he
    · rfl

theorem sum_credit_handleStreamEnd (id : Nat) :
    ((handleStreamEnd env s id).2.map Event.credit).sum = 0 := by
  obtain ⟨-, -, answers, hevents, hanswer⟩ := handleStreamEnd_spec env s id
  apply sum_credit_eq_zero
  rw [hevents, List.forall_mem_cons]
  exact ⟨rfl, fun e he => credit_answer (hanswer e he)⟩

open Classical in
theorem sum_credit_handleData (f : Frame) :
    ((http2ParserHandleData env s f.head f.payloadBuf).2.map Event.credit).sum
      = if Returned env s f then f.payload.length else 0 := by
  have hlen : f.payload.length < 2 ^ 31 := Nat.lt_trans f.length_lt (by decide)
  by_cases hnil : f.payload = []
  · rw [handleData_ignored (Or.inl hnil), hnil]
    exact (ite_self 0).symm
  by_cases hknown : (http2StreamFind s f.streamId).isSome = true
  · have hid : f.streamId ≠ 0 := by
      obtain ⟨st, hfind⟩ := Option.isSome_iff_exists.mp hknown
      exact (lookup_of_find hfind).1
    have hboth := sum_credit_windowUpdates hid hlen
    rw [handleData_known hnil hknown]
    unfold Returned
    by_cases hup : (s.rest.streams f.streamId).req.isUpgrade = true
    · simp only [if_pos hup, hknown, true_and]
      unfold handleWebsocketDataPayload
      by_cases hfits : websocketFits f.payload = true
      · by_cases hmalloc : env.mallocOk = true
        · simpa [hfits, hmalloc] using hboth
        · simp [hfits, hmalloc]
      · simp [hfits]
    · simp only [if_neg hup, hknown, true_and]
      by_cases hrealloc : env.reallocOk = true
      · rw [if_neg (by simp [hrealloc]), if_pos hrealloc]
        split
        · rw [List.map_append, List.sum_append, sum_credit_handleStreamEnd]
          exact hboth
        · exact hboth
      · rw [if_pos (by simpa using hrealloc), if_neg hrealloc]
        rfl
  · rw [handleData_ignored (Or.inr (by simpa using hknown)), if_neg (fun h => hknown h.1)]
    rfl

theorem credit_flushStream (id : Nat) (a : Activity) :
    ((flushStream env s id a).2.map Event.credit).sum = 0 := by
  apply sum_credit_eq_zero
  cases a with
  | fcgi =>
      intro e he
      exact credit_answer (answer_flushFcgiStream e he)
  | file =>
      show ∀ e ∈ (flushFileStream env s id).2, e.credit = 0
      rcases flushFileStream_cases env s id with h | ⟨st, data, -, ⟨-, h⟩ | ⟨-, h⟩⟩
      · rw [h]
        intro e he
        cases he
      · rw [h]
        intro e he
        cases he
      · rw [h, List.forall_mem_singleton]
        exact credit_answer ⟨_, rfl, rfl, Or.inl rfl⟩

end Steps

/-! ## Runs -/

theorem Run.credit_append (s s' : Server) (t : List Traced) (es : List Event) :
    Run.credit ⟨s', t ++ es.map .did⟩ = Run.credit ⟨s, t⟩ + (es.map Event.credit).sum := by
  unfold Run.credit
  rw [List.map_append, List.sum_append, List.map_map]
  rfl

theorem Run.dataLength_append (s s' : Server) (t : List Traced) (es : List Event) :
    Run.dataLength ⟨s', t ++ es.map .did⟩ = Run.dataLength ⟨s, t⟩ := by
  unfold Run.dataLength
  rw [List.map_append, List.sum_append, List.map_map]
  have hzero : (es.map (Traced.dataLength ∘ Traced.did)).sum = 0 := by
    apply List.sum_eq_zero
    intro n hn
    obtain ⟨e, -, rfl⟩ := List.mem_map.mp hn
    rfl
  rw [hzero, Nat.add_zero]

theorem Run.visit_credit (env : Environment) (r : Run) (target : Nat × Activity) :
    (r.visit env target).credit = r.credit ∧ (r.visit env target).dataLength = r.dataLength := by
  constructor
  · show Run.credit ⟨_, r.trace ++ _⟩ = _
    rw [Run.credit_append r.server, credit_flushStream]
    rfl
  · exact Run.dataLength_append r.server _ r.trace _

theorem Run.flush_credit (env : Environment) (r : Run) :
    (r.step (.flush env)).credit = r.credit ∧ (r.step (.flush env)).dataLength = r.dataLength := by
  apply Run.flush_induction (P := fun r' => r'.credit = r.credit ∧ r'.dataLength = r.dataLength)
  · exact ⟨rfl, rfl⟩
  · rintro target - r' ⟨hcredit, hlength⟩
    obtain ⟨hcredit', hlength'⟩ := Run.visit_credit env r' target
    exact ⟨hcredit'.trans hcredit, hlength'.trans hlength⟩

open Classical in
/-- A DATA frame adds its length to the one sum, and to the other if its credit is given back. -/
theorem Run.frame_credit (r : Run) (f : Frame) (env : Environment) :
    (r.step (.frame f env)).credit
        = r.credit + (if f.type = 0x00 ∧ Returned env r.server f then f.payload.length else 0)
      ∧ (r.step (.frame f env)).dataLength
        = r.dataLength + (if f.type = 0x00 then f.payload.length else 0) := by
  have hevents : ((handleFrame env r.server f).2.map Event.credit).sum
      = if f.type = 0x00 ∧ Returned env r.server f then f.payload.length else 0 := by
    unfold handleFrame
    by_cases h0 : f.type = 0x00
    · simp only [h0, true_and]
      exact sum_credit_handleData f
    · have hno : ¬ (f.type = 0x00 ∧ Returned env r.server f) := fun h => h0 h.1
      rw [if_neg h0, if_neg hno]
      split_ifs
      · exact sum_credit_handleHeaders f.head f.payloadBuf
      all_goals rfl
  rw [Run.step_frame, List.append_cons]
  constructor
  · rw [Run.credit_append r.server, hevents]
    show ((r.trace ++ [Traced.received f]).map Traced.credit).sum + _ = _
    rw [List.map_append, List.sum_append]
    rfl
  · rw [Run.dataLength_append r.server]
    show ((r.trace ++ [Traced.received f]).map Traced.dataLength).sum = _
    rw [List.map_append, List.sum_append]
    show _ + (Traced.dataLength (.received f) + 0) = _
    rfl

/-- The credit never runs ahead, and it keeps up in a step exactly if the step returns it. -/
theorem Run.step_credit (r : Run) (i : Run.Input) (hle : r.credit ≤ r.dataLength) :
    (r.step i).credit ≤ (r.step i).dataLength
      ∧ ((r.step i).credit = (r.step i).dataLength
        ↔ r.credit = r.dataLength ∧ r.Returns i) := by
  cases i with
  | flush env =>
      obtain ⟨hcredit, hlength⟩ := Run.flush_credit env r
      rw [hcredit, hlength]
      exact ⟨hle, ⟨fun h => ⟨h, trivial⟩, fun h => h.1⟩⟩
  | frame f env =>
      obtain ⟨hcredit, hlength⟩ := Run.frame_credit r f env
      rw [hcredit, hlength]
      unfold Run.Returns
      by_cases h0 : f.type = 0x00
      · by_cases hret : Returned env r.server f
        · rw [if_pos ⟨h0, hret⟩, if_pos h0]
          exact ⟨by omega, ⟨fun h => ⟨by omega, fun _ _ => hret⟩, fun h => by omega⟩⟩
        · rw [if_neg (fun h => hret h.2), if_pos h0]
          refine ⟨by omega, ?_, ?_⟩
          · intro h
            have hnil : f.payload = [] := List.length_eq_zero_iff.mp (by omega)
            exact ⟨by omega, fun _ hne => absurd hnil hne⟩
          · rintro ⟨heq, hreturns⟩
            have hnil : f.payload = [] := by
              by_contra hne
              exact hret (hreturns h0 hne)
            rw [hnil, List.length_nil]
            omega
      · rw [if_neg (fun h => h0 h.1), if_neg h0]
        exact ⟨hle, ⟨fun h => ⟨h, fun h0' => absurd h0' h0⟩, fun h => h.1⟩⟩

theorem Run.credit_run (r : Run) (is : List Run.Input) (hle : r.credit ≤ r.dataLength) :
    (runSteps Run.step r is).credit = (runSteps Run.step r is).dataLength
      ↔ r.credit = r.dataLength ∧ GuardedRun Run.Returns Run.step r is := by
  induction is generalizing r with
  | nil => exact ⟨fun h => ⟨h, guardedRun_nil r⟩, fun h => h.1⟩
  | cons i is ih =>
      obtain ⟨hle', hstep⟩ := Run.step_credit r i hle
      rw [runSteps_cons, ih (r.step i) hle', hstep, guardedRun_cons, and_assoc]

/-- **What becomes of the credit of a connection**: over any run, the increments for stream 0 add up
to the lengths of the DATA frames exactly if every DATA frame that is not empty finds its stream,
and its body is stored or is a WebSocket frame. -/
theorem credit_eq_length_iff (s : Server) (is : List Run.Input) :
    (runSteps Run.step ⟨s, []⟩ is).credit = (runSteps Run.step ⟨s, []⟩ is).dataLength
      ↔ GuardedRun Run.Returns Run.step ⟨s, []⟩ is := by
  rw [Run.credit_run ⟨s, []⟩ is (Nat.le_refl 0)]
  exact ⟨fun h => h.2, fun h => ⟨rfl, h⟩⟩

/-- DATA on a stream that was never opened: its five bytes of credit are lost. -/
theorem credit_lost :
    let r := runSteps Run.step (Run.fresh (fun _ => .new .plain))
      [.frame ⟨0x00, 0x00, 1, [1, 2, 3, 4, 5], by decide, by decide⟩ .plain]
    r.dataLength = 5 ∧ r.credit = 0 := by
  decide

end Halmos.Http2
