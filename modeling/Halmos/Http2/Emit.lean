import Halmos.Http2.Frame

set_option autoImplicit false

/-! # Frames on the wire

Everything one HTTP/2 session sends: frames through the write backlog (`http2_frame_send`),
the SETTINGS frames and their acknowledgement and the WebSocket text frames of
`ws_system_send_text_h2`, which go to the socket directly, and flushes of the backlog. The
property followed through a run is that the bytes that have reached the socket are a prefix of
the complete frames in the order they were emitted.

It fails in two ways. A direct write that does not take the whole frame loses the tail, and one
made while a backlog waits puts its frame inside the unsent tail of an earlier one
(`wire_prefix_fails`). An emission after `write_error` has been set follows a frame that was
lost. In runs that avoid both the property holds at every point (`wire_prefix`).
-/

namespace Halmos.Http2

/-- The WebSocket header in front of `len` payload bytes (`ws_system_send_text_h2`). -/
def wsTextHeader (len : Nat) : List UInt8 :=
  if len ≤ 125 then [0x81, UInt8.ofNat len]
  else if len ≤ 65535 then [0x81, 126, byteAt len 8, byteAt len 0]
  else
    [0x81, 127, byteAt len 56, byteAt len 48, byteAt len 40, byteAt len 32, byteAt len 24,
      byteAt len 16, byteAt len 8, byteAt len 0]

/-- `ws_system_send_text_h2`: one DATA frame built in a fresh allocation and written to the
socket directly. What the socket does not take is handed to the caller, which drops it. -/
def wsSystemSendTextH2 (mallocOk : Bool) (streamId : Nat) (text : List UInt8) :
    List Emission :=
  let ws := wsTextHeader text.length ++ text
  if mallocOk then [.direct (frameHeaderBytes 0x00 0x00 streamId ws.length ++ ws)] else []

/-- One call that may put bytes on the socket. -/
inductive EmitCall where
  | frameSend (type flags : UInt8) (streamId : Nat) (payload : List UInt8)
  | sendSettings
  | sendSettingsAck
  | sendTextH2 (streamId : Nat) (text : List UInt8)
  | flushPendingWrite
  deriving DecidableEq, Repr

/-- The frames a call emits. -/
def EmitCall.emissions (c : EmitCall) (o : WriteOutcome) : List Emission :=
  match c with
  | .frameSend type flags streamId payload => http2FrameSend type flags streamId payload
  | .sendSettings => http2FrameSendSettings
  | .sendSettingsAck => http2FrameSendSettingsAck
  | .sendTextH2 streamId text => wsSystemSendTextH2 o.mallocOk streamId text
  | .flushPendingWrite => []

/-- A session's write side and the complete frames emitted so far. -/
structure EmitState where
  side : WriteSide
  emitted : List (List UInt8)

def EmitState.fresh : EmitState := ⟨.fresh, []⟩

/-- One frame is emitted. -/
def EmitState.emit (o : WriteOutcome) (s : EmitState) (e : Emission) : EmitState :=
  ⟨s.side.emit e o, s.emitted ++ [e.bytes]⟩

/-- One call under one answer of the environment. -/
def EmitState.call (s : EmitState) (i : EmitCall × WriteOutcome) : EmitState :=
  match i.1 with
  | .flushPendingWrite => { s with side := s.side.call (.flushPendingWrite, i.2) }
  | c => (c.emissions i.2).foldl (EmitState.emit i.2) s

/-- The condition under which an emission keeps the wire in order: no write has failed before,
and a direct write finds no backlog and is taken in full. -/
def Emission.InOrder (s : EmitState) (o : WriteOutcome) (e : Emission) : Prop :=
  s.side.backlog.writeError = false ∧
  match e with
  | .buffered _ => True
  | .direct bytes => ¬ s.side.backlog.hasPending ∧ o.write.TakesAll bytes.length

/-- The same for a call. -/
def EmitCall.InOrder (s : EmitState) (i : EmitCall × WriteOutcome) : Prop :=
  ∀ e ∈ i.1.emissions i.2, e.InOrder s i.2

/-! ## What a failing write leaves behind -/

/-- Whatever the environment answers, a write either accounts for every byte or loses a tail
and raises `write_error`. -/
theorem http2SocketWriteOrBuffer_cases (o : WriteOutcome) {s : WriteBacklog} (h : s.Ok)
    (data : List UInt8) :
    let r := http2SocketWriteOrBuffer o s data
    (r.2 ++ r.1.unsent = s.unsent ++ data ∧ r.1.writeError = s.writeError) ∨
    (r.2 ++ r.1.unsent <+: s.unsent ++ data ∧ r.1.writeError = true) := by
  by_cases hsoft : o.Soft
  · exact Or.inl ⟨http2SocketWriteOrBuffer_bytes hsoft h data,
      http2SocketWriteOrBuffer_writeError hsoft s data⟩
  · -- a hard error, or no room for the backlog: the unsent part is what it was
    unfold http2SocketWriteOrBuffer
    by_cases hd : data.length = 0
    · rw [if_pos hd, List.length_eq_zero_iff.mp hd]
      exact Or.inl ⟨by simp, rfl⟩
    · rw [if_neg hd]
      by_cases hp : s.pendingWriteLen ≤ s.pendingWriteOffset
      · rw [if_pos hp]
        have hnil := WriteBacklog.unsent_eq_nil hp
        cases hw : o.write with
        | hardError =>
            refine Or.inr ⟨?_, rfl⟩
            exact List.prefix_append s.unsent data
        | wouldBlock =>
            have hm : o.mallocOk = false := by
              by_contra hne
              exact hsoft ⟨by simp [hw], by simpa using hne⟩
            rw [hm]
            exact Or.inr ⟨List.prefix_append s.unsent data, rfl⟩
        | accepted n =>
            have hm : o.mallocOk = false := by
              by_contra hne
              exact hsoft ⟨by simp [hw], by simpa using hne⟩
            simp only
            by_cases hall : min n data.length = data.length
            · rw [if_pos hall, hnil, List.append_nil, List.nil_append]
              exact Or.inl ⟨rfl, rfl⟩
            · rw [if_neg hall, hm]
              refine Or.inr ⟨?_, rfl⟩
              show data.take _ ++ s.unsent <+: s.unsent ++ data
              rw [hnil, List.append_nil, List.nil_append]
              exact List.take_prefix _ data
      · rw [if_neg hp]
        have hm : o.mallocOk = false ∨ o.mallocOk = true := by
          cases o.mallocOk <;> simp
        rcases hm with hm | hm
        · rw [hm]
          exact Or.inr ⟨List.prefix_append s.unsent data, rfl⟩
        · rw [hm]
          refine Or.inl ⟨?_, rfl⟩
          rw [bufferRest_unsent h, List.drop_zero, List.nil_append]

/-! ## The invariant -/

/-- The wire and the backlog together are a prefix of the emitted frames, and all of them as
long as no write has failed. -/
structure EmitState.InOrder (s : EmitState) : Prop where
  ok : s.side.backlog.Ok
  bytes_prefix : s.side.wire ++ s.side.backlog.unsent <+: s.emitted.flatten
  bytes_eq : s.side.backlog.writeError = false →
    s.side.wire ++ s.side.backlog.unsent = s.emitted.flatten

theorem EmitState.fresh_inOrder : EmitState.fresh.InOrder :=
  ⟨WriteBacklog.fresh_ok, List.prefix_rfl, fun _ => rfl⟩

theorem EmitState.emit_inOrder (o : WriteOutcome) {s : EmitState} {e : Emission}
    (h : s.InOrder) (he : e.InOrder s o) : (s.emit o e).InOrder := by
  have hflat : (s.emit o e).emitted.flatten = s.emitted.flatten ++ e.bytes := by
    simp [EmitState.emit]
  have hall := h.bytes_eq he.1
  cases e with
  | buffered bytes =>
      have hassoc : (s.emit o (.buffered bytes)).side.wire
          ++ (s.emit o (.buffered bytes)).side.backlog.unsent
          = s.side.wire ++ ((http2SocketWriteOrBuffer o s.side.backlog bytes).2
            ++ (http2SocketWriteOrBuffer o s.side.backlog bytes).1.unsent) := by
        simp [EmitState.emit, WriteSide.emit, List.append_assoc]
      have hgoal : (s.emit o (.buffered bytes)).emitted.flatten
          = s.side.wire ++ (s.side.backlog.unsent ++ bytes) := by
        rw [hflat, ← hall, List.append_assoc]
        rfl
      rcases http2SocketWriteOrBuffer_cases o h.ok bytes with ⟨heq, -⟩ | ⟨hpre, herr⟩
      · have hb : (s.emit o (.buffered bytes)).side.wire
            ++ (s.emit o (.buffered bytes)).side.backlog.unsent
            = (s.emit o (.buffered bytes)).emitted.flatten := by
          rw [hassoc, hgoal, heq]
        exact ⟨http2SocketWriteOrBuffer_ok o h.ok bytes, by rw [hb], fun _ => hb⟩
      · refine ⟨http2SocketWriteOrBuffer_ok o h.ok bytes, ?_, fun hf => ?_⟩
        · rw [hassoc, hgoal]
          exact (List.prefix_append_right_inj _).mpr hpre
        · have htrue : (s.emit o (.buffered bytes)).side.backlog.writeError = true := herr
          rw [htrue] at hf
          cases hf
  | direct bytes =>
      obtain ⟨-, hclear, hfull⟩ := he
      have hnil : s.side.backlog.unsent = [] := h.ok.unsent_eq_nil_iff.mpr hclear
      have heq : (s.emit o (.direct bytes)).side.wire
          ++ (s.emit o (.direct bytes)).side.backlog.unsent
          = (s.emit o (.direct bytes)).emitted.flatten := by
        rw [hflat, ← hall]
        simp only [EmitState.emit, WriteSide.emit, Emission.bytes]
        rw [http2SocketWrite_of_takesAll hfull, hnil, List.append_nil, List.append_nil]
      exact ⟨h.ok, by rw [heq], fun _ => heq⟩

/-- A flush keeps the frames in order, also after a failed write. -/
theorem EmitState.flush_inOrder (o : WriteOutcome) {s : EmitState} (h : s.InOrder) :
    (s.call (.flushPendingWrite, o)).InOrder := by
  have hbytes := http2SocketFlushPendingWrite_bytes o.write h.ok
  have hsame : (s.call (.flushPendingWrite, o)).side.wire
      ++ (s.call (.flushPendingWrite, o)).side.backlog.unsent
      = s.side.wire ++ s.side.backlog.unsent := by
    simp only [EmitState.call, WriteSide.call, List.append_assoc]
    rw [hbytes]
  refine ⟨http2SocketFlushPendingWrite_ok o.write h.ok, ?_, fun hf => ?_⟩
  · rw [hsame]
    exact h.bytes_prefix
  · rw [hsame]
    refine h.bytes_eq ?_
    simpa [EmitState.call, WriteSide.call] using hf

theorem EmitState.call_inOrder (s : EmitState) (i : EmitCall × WriteOutcome)
    (h : s.InOrder) (hi : EmitCall.InOrder s i) : (s.call i).InOrder := by
  obtain ⟨c, o⟩ := i
  -- every call other than a flush emits at most one frame
  have hone : ∀ l : List Emission, l.length ≤ 1 → (∀ e ∈ l, e.InOrder s o) →
      (l.foldl (EmitState.emit o) s).InOrder := by
    intro l hl hmem
    match l, hl with
    | [], _ => exact h
    | [e], _ => exact EmitState.emit_inOrder o h (hmem e (by simp))
  cases c with
  | frameSend type flags streamId payload =>
      refine hone _ ?_ hi
      show (http2FrameSend type flags streamId payload).length ≤ 1
      unfold http2FrameSend
      split <;> simp
  | sendSettings => exact hone _ (Nat.le_refl 1) hi
  | sendSettingsAck => exact hone _ (Nat.le_refl 1) hi
  | sendTextH2 streamId text =>
      refine hone _ ?_ hi
      show (wsSystemSendTextH2 o.mallocOk streamId text).length ≤ 1
      unfold wsSystemSendTextH2
      dsimp only
      split <;> simp
  | flushPendingWrite => exact EmitState.flush_inOrder o h

/-- **The wire is a prefix of the emitted frames**, at every point of every run in which no
frame is emitted once a write has failed, and a direct write is made only when nothing is
pending and is taken in full. -/
theorem wire_prefix (calls : List (EmitCall × WriteOutcome))
    (hrun : GuardedRun EmitCall.InOrder EmitState.call .fresh calls) :
    ∀ done, done <+: calls →
      (runSteps EmitState.call .fresh done).side.wire
        <+: (runSteps EmitState.call .fresh done).emitted.flatten := by
  intro done hdone
  obtain ⟨rest, rfl⟩ := hdone
  have hinv := GuardedRun.invariant EmitState.call_inOrder EmitState.fresh_inOrder
    hrun.of_append
  exact (List.prefix_append _ _).trans hinv.bytes_prefix

/-- A ping answer taken in two pieces around a flush, with an acknowledgement after it. -/
theorem wire_prefix_ping :
    let calls : List (EmitCall × WriteOutcome) :=
      [(.frameSend 0x06 0x01 0 [1, 2, 3, 4, 5, 6, 7, 8], ⟨.accepted 5, true⟩),
        (.flushPendingWrite, ⟨.accepted 12, true⟩), (.sendSettingsAck, ⟨.accepted 9, true⟩)]
    ∀ done, done <+: calls →
      (runSteps EmitState.call .fresh done).side.wire
        <+: (runSteps EmitState.call .fresh done).emitted.flatten := by
  refine wire_prefix _ ⟨?_, ?_, ?_, trivial⟩
  · intro e he
    have hsend : http2FrameSend 0x06 0x01 0 [1, 2, 3, 4, 5, 6, 7, 8]
        = [.buffered (frameHeaderBytes 0x06 0x01 0 8 ++ [1, 2, 3, 4, 5, 6, 7, 8])] := rfl
    simp only [EmitCall.emissions, hsend, List.mem_singleton] at he
    subst he
    exact ⟨rfl, trivial⟩
  · intro e he
    cases he
  · intro e he
    simp only [EmitCall.emissions, http2FrameSendSettingsAck, List.mem_singleton] at he
    subst he
    exact ⟨by decide, by decide, Nat.le_refl 9⟩

/-- The acknowledgement of SETTINGS, written while the tail of a ping answer is still pending,
lands inside that answer. -/
theorem wire_prefix_fails :
    ¬ ∀ calls : List (EmitCall × WriteOutcome),
      (runSteps EmitState.call .fresh calls).side.wire
        <+: (runSteps EmitState.call .fresh calls).emitted.flatten := by
  intro h
  have hping := h
    [(.frameSend 0x06 0x01 0 [1, 2, 3, 4, 5, 6, 7, 8], ⟨.accepted 5, true⟩),
      (.sendSettingsAck, ⟨.accepted 9, true⟩)]
  revert hping
  decide

end Halmos.Http2
