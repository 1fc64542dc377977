import Halmos.Http2.FilePump
import Halmos.Http2.SessionRun

set_option autoImplicit false

/-! # What a client receives

The other end of a session: a client that takes the frames off the wire with the same `Receiver`,
in pieces of any size. As long as the calls of the session keep the wire in order, the frames it has
are the first of SETTINGS and the frames of the trace (`client_receives`). Of a file it has at
every point a beginning, and END_STREAM tells it when it has the whole of it (`file_received`).
-/

namespace Halmos.Http2

/-! ## The frames of a trace -/

/-- A frame as a client takes it off the wire. -/
def FrameCall.frame (c : FrameCall) : HTTP2Frame :=
  ⟨⟨c.payload.length, c.type, c.flags, c.streamId⟩, c.payload⟩

/-- `http2_frame_send_settings`. -/
def settingsFrame : HTTP2Frame := ⟨⟨18, 0x04, 0x00, 0⟩, settingsBytes.drop 9⟩

/-- `http2_frame_send_settings_ack`. -/
def settingsAckFrame : HTTP2Frame := ⟨⟨0, 0x04, 0x01, 0⟩, []⟩

/-- The frames a step of the trace puts on the wire: `http2_frame_send` drops what is too long. -/
def Traced.frames : Traced → List HTTP2Frame
  | .received f =>
      if f.type = 0x04 ∧ f.flags &&& 0x01 = 0 ∧ 6 ≤ f.payload.length then [settingsAckFrame] else []
  | .did (.router _ _ _) => []
  | .did (.sent c) => if c.payload.length > 16384 then [] else [c.frame]

/-- The frames a client has taken off the wire. -/
def clientFrames (wire : List UInt8) : List HTTP2Frame :=
  ((Receiver.header []).feedAll 16384 wire).2

/-- The DATA frames of a stream. -/
def dataOn (id : Nat) (frames : List HTTP2Frame) : List HTTP2Frame :=
  frames.filter (fun f => f.head.type = 0x00 ∧ f.head.streamId = id)

theorem settingsFrame_sent : settingsFrame.sent = settingsBytes := by decide

theorem settingsFrame_sendable : settingsFrame.Sendable 16384 :=
  ⟨rfl, by decide, by decide, by decide, by decide⟩

theorem settingsAckFrame_sendable : settingsAckFrame.Sendable 16384 :=
  ⟨rfl, by decide, by decide, by decide, by decide⟩

/-- The bytes a step emits are those of its frames. -/
theorem Traced.emissions_bytes (x : Traced) :
    x.emissions.flatMap Emission.bytes = x.frames.flatMap HTTP2Frame.sent := by
  cases x with
  | received f =>
      by_cases hack : f.type = 0x04 ∧ f.flags &&& 0x01 = 0 ∧ 6 ≤ f.payload.length
      · rw [show (Traced.received f).emissions = http2FrameSendSettingsAck from if_pos hack,
          show (Traced.received f).frames = [settingsAckFrame] from if_pos hack]
        decide
      · rw [show (Traced.received f).emissions = [] from if_neg hack,
          show (Traced.received f).frames = [] from if_neg hack]
        rfl
  | did e =>
      cases e with
      | router id body len => rfl
      | sent c =>
          show (http2FrameSend c.type c.flags c.streamId c.payload).flatMap Emission.bytes
            = (if c.payload.length > 16384 then [] else [c.frame]).flatMap HTTP2Frame.sent
          by_cases hlong : c.payload.length > 16384
          · rw [if_pos hlong, http2FrameSend, if_pos hlong]
            rfl
          · rw [if_neg hlong]
            simp [HTTP2Frame.sent, FrameCall.frame]

/-! ## The wire -/

section Wire

variable {c : Conn ServerRest} {r : Run} {calls : List (EmitCall × WriteOutcome)}

/-- What has been emitted is what the calls other than flushes emit. -/
theorem emitted_flatten (o : WriteOutcome)
    (hplain : ∀ k ∈ sends calls, ∀ o', k.emissions o' = k.emissions o) (s : EmitState) :
    (runSteps EmitState.call s calls).emitted.flatten
      = s.emitted.flatten
        ++ (sends calls).flatMap (fun k => (k.emissions o).flatMap Emission.bytes) := by
  have hfold : ∀ (o' : WriteOutcome) (es : List Emission) (s : EmitState),
      (es.foldl (EmitState.emit o') s).emitted.flatten
        = s.emitted.flatten ++ es.flatMap Emission.bytes := by
    intro o' es
    induction es with
    | nil => simp
    | cons e es ih =>
        intro s
        rw [List.foldl_cons, ih]
        simp [EmitState.emit]
  induction calls generalizing s with
  | nil => simp [sends]
  | cons i calls ih =>
      obtain ⟨k, o'⟩ := i
      by_cases hk : k = .flushPendingWrite
      · have hsends : sends ((k, o') :: calls) = sends calls := by
          simp [sends, hk]
        rw [hsends] at hplain ⊢
        rw [runSteps_cons, ih hplain, hk]
        rfl
      · have hsends : sends ((k, o') :: calls) = k :: sends calls := by
          simp [sends, hk]
        rw [hsends] at hplain ⊢
        obtain ⟨hthis, hrest⟩ := List.forall_mem_cons.mp hplain
        rw [runSteps_cons, ih hrest, EmitState.call_eq hk, hfold, hthis, List.flatMap_cons,
          List.append_assoc]

theorem Conn.At.emitted (h : c.At r calls) :
    (runSteps EmitState.call .fresh calls).emitted.flatten
      = (settingsFrame :: r.trace.flatMap Traced.frames).flatMap HTTP2Frame.sent := by
  have hplain : ∀ k ∈ Http2.sends calls, ∀ o',
      k.emissions o' = k.emissions ⟨.wouldBlock, true⟩ := by
    rw [h.sends, List.forall_mem_cons]
    refine ⟨fun _ => rfl, ?_⟩
    intro k hk o'
    obtain ⟨x, -, hx⟩ := List.mem_flatMap.mp hk
    rcases x.calls_cases with ⟨hnone, -⟩ | ⟨k', hcalls, -, -, hemits⟩
    · rw [hnone] at hx
      cases hx
    · rw [hcalls] at hx
      rw [List.mem_singleton.mp hx, hemits, hemits]
  have htrace : ∀ xs : List Traced, (xs.flatMap Traced.calls).flatMap
      (fun k => (k.emissions ⟨.wouldBlock, true⟩).flatMap Emission.bytes)
      = (xs.flatMap Traced.frames).flatMap HTTP2Frame.sent := by
    intro xs
    rw [List.flatMap_assoc, List.flatMap_assoc]
    congr 1
    funext x
    rw [← x.emissions_bytes]
    rcases x.calls_cases with ⟨hnone, hemits⟩ | ⟨k, hcalls, -, -, hemits⟩
    · rw [hnone, hemits]
      rfl
    · rw [hcalls, List.flatMap_singleton, hemits]
  rw [emitted_flatten _ hplain, h.sends, List.flatMap_cons, List.flatMap_cons, htrace,
    settingsFrame_sent]
  rfl

/-- **The client has the first frames of the trace**, and all of them when the socket has taken
everything. -/
theorem Conn.At.received (h : c.At r calls)
    (horder : GuardedRun EmitCall.InOrder EmitState.call .fresh calls)
    (hsendable : ∀ f ∈ r.trace.flatMap Traced.frames, f.Sendable 16384) :
    clientFrames c.side.wire <+: settingsFrame :: r.trace.flatMap Traced.frames ∧
    (c.side.backlog.writeError = false → ¬ c.side.backlog.hasPending →
      clientFrames c.side.wire = settingsFrame :: r.trace.flatMap Traced.frames) := by
  have hinv := horder.invariant EmitState.call_inOrder EmitState.fresh_inOrder
  have hall : clientFrames (runSteps EmitState.call .fresh calls).emitted.flatten
      = settingsFrame :: r.trace.flatMap Traced.frames := by
    unfold clientFrames
    rw [h.emitted, Receiver.feedAll_sent_all]
    exact List.forall_mem_cons.mpr ⟨settingsFrame_sendable, hsendable⟩
  rw [h.side]
  constructor
  · obtain ⟨rest, hrest⟩ := (List.prefix_append _ _).trans hinv.bytes_prefix
    rw [← hall, ← hrest]
    unfold clientFrames
    rw [Receiver.feedAll_append]
    exact List.prefix_append _ _
  · intro herror hclear
    have hbytes := hinv.bytes_eq herror
    rw [hinv.ok.unsent_eq_nil_iff.mpr hclear, List.append_nil] at hbytes
    rw [hbytes, hall]

end Wire

/-! ## Every frame can be sent -/

/-- A frame that is not GOAWAY, on a stream of 31 bits. -/
def FrameCall.Plain (c : FrameCall) : Prop := c.type ≠ 0x07 ∧ c.streamId < 2 ^ 31

theorem FrameCall.Plain.sendable {c : FrameCall} (h : c.Plain) (hlen : ¬ c.payload.length > 16384) :
    c.frame.Sendable 16384 :=
  ⟨rfl, h.1, h.2, Nat.le_of_not_lt hlen, Nat.le_of_not_lt hlen⟩

section Plain

variable {env : Environment} {s : Server} {f : Frame} {id : Nat}

theorem plain_answer {e : Event} (h : Answer id e) (hid : id < 2 ^ 31) :
    ∀ c, e = .sent c → c.Plain := by
  rintro c rfl
  obtain ⟨c', heq, hstream, htype⟩ := h
  cases heq
  refine ⟨?_, hstream ▸ hid⟩
  rcases htype with htype | htype
  · rw [htype]
    decide
  · rw [htype]
    decide

theorem plain_windowUpdates {n : Nat} (hid : id < 2 ^ 31) :
    ∀ e ∈ windowUpdates id n, ∀ c, e = .sent c → c.Plain := by
  unfold windowUpdates
  rw [List.forall_mem_cons, List.forall_mem_singleton]
  constructor
  · rintro c ⟨⟩
    exact ⟨show (0x08 : UInt8) ≠ 0x07 by decide, hid⟩
  · rintro c ⟨⟩
    exact ⟨show (0x08 : UInt8) ≠ 0x07 by decide, show 0 < 2 ^ 31 by decide⟩

/-- What is sent for a frame goes out on its stream or on the connection. -/
theorem plain_handleFrame : ∀ e ∈ (handleFrame env s f).2, ∀ c, e = .sent c → c.Plain := by
  have hid := f.streamId_lt
  have hnil : ∀ e ∈ ([] : List Event), ∀ c, e = .sent c → c.Plain := by
    intro e he
    cases he
  unfold handleFrame
  split_ifs with h0 h1 h3 h4 hlen h6 hack h8
  · by_cases hstores : Stores env s f
    · rw [handleData_stores hstores]
      split
      · obtain ⟨-, -, answers, hevents, hanswer⟩ := handleStreamEnd_spec env
          (appendStreamBody s f.streamId f.payload) f.streamId
        rw [hevents]
        intro e he
        rcases List.mem_append.mp he with he | he
        · exact plain_windowUpdates hid e he
        rcases List.mem_cons.mp he with rfl | he
        · rintro c ⟨⟩
        · exact plain_answer (hanswer e he) hid
      · exact plain_windowUpdates hid
    · exact fun e he => plain_windowUpdates hid e ((handleData_drops hstores).2 e he)
  · rcases handleHeaders_cases env s f.head f.payloadBuf with ⟨-, hh⟩ | ⟨-, s', -, hh⟩
    · rw [hh]
      exact hnil
    · rw [hh]
      intro e he
      rcases headersOn_events _ _ e he with ⟨body, len, rfl⟩ | hanswer | rfl
      · rintro c ⟨⟩
      · exact plain_answer hanswer hid
      · rintro c ⟨⟩
        exact ⟨show (0x03 : UInt8) ≠ 0x07 by decide, hid⟩
  · exact hnil
  · exact hnil
  · exact hnil
  · rw [List.forall_mem_singleton]
    rintro c ⟨⟩
    exact ⟨show (0x06 : UInt8) ≠ 0x07 by decide, show 0 < 2 ^ 31 by decide⟩
  · exact hnil
  · exact hnil
  · exact hnil

/-- A visit to a stream that is not there does nothing. -/
theorem flushStream_unknown (h : lookupStream s id = none) (a : Activity) :
    (flushStream env s id a).2 = [] := by
  have hfind : http2StreamFind s id = none := by
    unfold http2StreamFind
    split
    · rfl
    · exact h
  cases a with
  | fcgi =>
      show (flushFcgiStream env s id).2 = []
      unfold flushFcgiStream
      rw [hfind]
  | file =>
      show (flushFileStream env s id).2 = []
      unfold flushFileStream
      rw [hfind]

/-- The streams of a session have ids of 31 bits, and every frame sent is plain. -/
structure Run.Narrow (r : Run) : Prop where
  sized : Sized r.server
  known : ∀ id, (lookupStream r.server id).isSome = true → id < 2 ^ 31
  plain : ∀ c, Traced.did (.sent c) ∈ r.trace → c.Plain

theorem Run.fresh_narrow (streams : Nat → StreamRest) : (Run.fresh streams).Narrow := by
  refine ⟨sized_fresh _, ?_, ?_⟩
  · intro id h
    rw [show lookupStream (Run.fresh streams).server id = none from lookup_fresh _ id] at h
    cases h
  · intro c hc
    cases hc

theorem Run.Narrow.visit {r : Run} (h : r.Narrow) (target : Nat × Activity) :
    (r.visit env target).Narrow := by
  obtain ⟨hsized, -, -, hanswer⟩ := request_flushStream env r.server 0 target.1 target.2
  refine ⟨hsized h.sized, ?_, ?_⟩
  · intro id hid
    obtain ⟨-, hsame, -, -⟩ := request_flushStream env r.server id target.1 target.2
    exact h.known id (hsame ▸ hid)
  · intro c hc
    rcases List.mem_append.mp hc with hc | hc
    · exact h.plain c hc
    · obtain ⟨e, he, hec⟩ := List.mem_map.mp hc
      cases hec
      cases hlook : lookupStream r.server target.1 with
      | none =>
          rw [flushStream_unknown hlook] at he
          cases he
      | some st => exact plain_answer (hanswer _ he) (h.known _ (by rw [hlook]; rfl)) c rfl

theorem Run.Narrow.step {r : Run} (h : r.Narrow) (i : Run.Input) : (r.step i).Narrow := by
  cases i with
  | flush env => exact Run.flush_induction h (fun target _ r' h' => h'.visit target)
  | frame f env =>
      rw [Run.step_frame]
      refine ⟨sized_handleFrame h.sized, ?_, ?_⟩
      · intro id hid
        by_contra hbig
        have hother : f.streamId = id → f.type ≠ 0x00 ∧ f.type ≠ 0x01 ∧ f.type ≠ 0x03 := by
          rintro rfl
          exact absurd f.streamId_lt hbig
        have huntouched : Untouched id r.server (handleFrame env r.server f).1 :=
          untouched_handleFrame h.sized hother
        exact hbig (h.known id (huntouched.isSome ▸ hid))
      · intro c hc
        rcases List.mem_append.mp hc with hc | hc
        · exact h.plain c hc
        rcases List.mem_cons.mp hc with hc | hc
        · cases hc
        · obtain ⟨e, he, hec⟩ := List.mem_map.mp hc
          cases hec
          exact plain_handleFrame _ he c rfl

theorem Run.Narrow.sendable {r : Run} (h : r.Narrow) :
    ∀ f ∈ r.trace.flatMap Traced.frames, f.Sendable 16384 := by
  intro f hf
  obtain ⟨x, hx, hfx⟩ := List.mem_flatMap.mp hf
  unfold Traced.frames at hfx
  split at hfx
  · split at hfx
    · rw [List.mem_singleton.mp hfx]
      exact settingsAckFrame_sendable
    · cases hfx
  · cases hfx
  · split at hfx
    · cases hfx
    · next hshort =>
        rw [List.mem_singleton.mp hfx]
        exact (h.plain _ hx).sendable hshort

theorem narrow_run (streams : Nat → StreamRest) (is : List Run.Input) :
    (runSteps Run.step (.fresh streams) is).Narrow :=
  runSteps_induction (Run.fresh_narrow streams) (fun i _ _ h => h.step i)

end Plain

/-- **A client has the first frames of the session**: what it takes off the wire is SETTINGS and
then what the handlers, the pump and the acknowledgements have sent, in order; and all of that once
the backlog is empty and no write has failed. -/
theorem client_receives (streams : Nat → StreamRest) (is : List Run.Input) (c : Conn ServerRest)
    (calls : List (EmitCall × WriteOutcome))
    (hat : c.At (runSteps Run.step (.fresh streams) is) calls)
    (horder : GuardedRun EmitCall.InOrder EmitState.call .fresh calls) :
    let sent := settingsFrame :: (runSteps Run.step (.fresh streams) is).trace.flatMap Traced.frames
    clientFrames c.side.wire <+: sent ∧
    (c.side.backlog.writeError = false → ¬ c.side.backlog.hasPending →
      clientFrames c.side.wire = sent) :=
  hat.received horder (narrow_run streams is).sendable

/-! ## A file -/

/-- The file of five bytes, asked for and sent; the socket takes the last frame in two pieces. -/
def fiveInputs : List Run.Input := [.frame getHeaders fileEnvironment, .flush fileEnvironment]

def fiveCalls : List (EmitCall × WriteOutcome) :=
  [(.sendSettings, ⟨.accepted 27, true⟩),
    (.frameSend 0x01 0x04 1 [0x88, 0x0F, 0x10, 0x00], ⟨.accepted 13, true⟩),
    (.frameSend 0x00 0x01 1 [1, 2, 3, 4, 5], ⟨.accepted 11, true⟩),
    (.flushPendingWrite, ⟨.accepted 3, true⟩)]

def fiveConn : Conn ServerRest where
  side := (runSteps EmitState.call .fresh fiveCalls).side
  input := ⟨.fresh, []⟩
  protocol := (runSteps Run.step (Run.fresh (fun _ => .new .plain)) fiveInputs).server
  writes := []
  seen := [⟨getHeaders.head, getHeaders.payload⟩]

theorem fiveConn_at :
    fiveConn.At (runSteps Run.step (Run.fresh (fun _ => .new .plain)) fiveInputs) fiveCalls :=
  ⟨rfl, rfl, rfl, rfl⟩

theorem fiveCalls_inOrder : GuardedRun EmitCall.InOrder EmitState.call .fresh fiveCalls := by
  refine ⟨?_, ?_, ?_, ?_, trivial⟩
  · intro e he
    rw [List.mem_singleton.mp (show e ∈ [Emission.direct settingsBytes] from he)]
    exact ⟨rfl, by decide, Nat.le_refl 27⟩
  · intro e he
    rw [List.mem_singleton.mp (show e ∈ [Emission.buffered _] from he)]
    exact ⟨rfl, trivial⟩
  · intro e he
    rw [List.mem_singleton.mp (show e ∈ [Emission.buffered _] from he)]
    exact ⟨rfl, trivial⟩
  · intro e he
    cases he

/-- The client has SETTINGS, HEADERS and DATA. -/
theorem client_receives_five :
    clientFrames fiveConn.side.wire
      = [settingsFrame, ⟨⟨4, 0x01, 0x04, 1⟩, [0x88, 0x0F, 0x10, 0x00]⟩,
        ⟨⟨5, 0x00, 0x01, 1⟩, [1, 2, 3, 4, 5]⟩] :=
  (client_receives (fun _ => .new .plain) fiveInputs fiveConn fiveCalls fiveConn_at
    fiveCalls_inOrder).2 rfl (by decide)

section File

variable {id : Nat}

theorem dataOn_append (frames more : List HTTP2Frame) :
    dataOn id (frames ++ more) = dataOn id frames ++ dataOn id more := List.filter_append ..

theorem dataOn_step {x : Traced}
    (hshort : ∀ c, x.dataFrame id = some c → c.payload.length ≤ 16384) :
    dataOn id x.frames = (x.dataFrame id).toList.map FrameCall.frame := by
  cases x with
  | received f =>
      show dataOn id (Traced.received f).frames = []
      by_cases hack : f.type = 0x04 ∧ f.flags &&& 0x01 = 0 ∧ 6 ≤ f.payload.length
      · rw [show (Traced.received f).frames = [settingsAckFrame] from if_pos hack]
        simp [dataOn, settingsAckFrame]
      · rw [show (Traced.received f).frames = [] from if_neg hack]
        rfl
  | did e =>
      cases e with
      | router k body len => rfl
      | sent c =>
          simp only [Traced.frames]
          by_cases hdata : c.type = 0x00 ∧ c.streamId = id
          · have hsome : (Traced.did (.sent c)).dataFrame id = some c := if_pos hdata
            rw [if_neg (Nat.not_lt.mpr (hshort c hsome)), hsome]
            simp [dataOn, FrameCall.frame, hdata]
          · have hnone : (Traced.did (.sent c)).dataFrame id = none := if_neg hdata
            rw [hnone]
            split
            · rfl
            · simp [dataOn, FrameCall.frame, hdata]

/-- The DATA frames of a trace, none of them dropped, are what a client can take for the stream. -/
theorem dataOn_frames (xs : List Traced)
    (hshort : ∀ c ∈ xs.filterMap (Traced.dataFrame id), c.payload.length ≤ 16384) :
    dataOn id (xs.flatMap Traced.frames)
      = (xs.filterMap (Traced.dataFrame id)).map FrameCall.frame := by
  induction xs with
  | nil => rfl
  | cons x xs ih =>
      have hsplit : (x :: xs).filterMap (Traced.dataFrame id)
          = (x.dataFrame id).toList ++ xs.filterMap (Traced.dataFrame id) := by
        rw [List.filterMap_cons]
        cases x.dataFrame id <;> rfl
      rw [hsplit] at hshort ⊢
      rw [List.flatMap_cons, dataOn_append, List.map_append, dataOn_step, ih]
      · exact fun c hc => hshort c (List.mem_append_right _ hc)
      · exact fun c hc => hshort c (List.mem_append_left _ (by simp [hc]))

/-- Frames a client has of a file are the first of those the pump has sent. -/
theorem dataOn_received {files : Nat → List UInt8} {r : Run} {c : Conn ServerRest}
    {calls : List (EmitCall × WriteOutcome)} (hinv : FileInv (files id) id r) (hnarrow : r.Narrow)
    (hat : c.At r calls) (horder : GuardedRun EmitCall.InOrder EmitState.call .fresh calls) :
    ∃ got, got <+: r.dataFrames id ∧
      dataOn id (clientFrames c.side.wire) = got.map FrameCall.frame ∧
      (c.side.backlog.writeError = false → ¬ c.side.backlog.hasPending →
        got = r.dataFrames id) := by
  obtain ⟨hbegin, hall⟩ := hat.received horder hnarrow.sendable
  have hshort : ∀ k ∈ r.dataFrames id, k.payload.length ≤ 16384 := by
    intro k hk
    obtain ⟨pre, post, hsplit⟩ := List.append_of_mem hk
    exact (hinv.endsAt pre k post hsplit).1
  have hsent : dataOn id (settingsFrame :: r.trace.flatMap Traced.frames)
      = (r.dataFrames id).map FrameCall.frame := dataOn_frames r.trace hshort
  obtain ⟨rest, hrest⟩ := hbegin
  have hsplit : dataOn id (clientFrames c.side.wire) ++ dataOn id rest
      = (r.dataFrames id).map FrameCall.frame := by
    rw [← dataOn_append, hrest, hsent]
  obtain ⟨got, later, hgot, hfirst, -⟩ := List.append_eq_map_iff.mp hsplit
  refine ⟨got, ⟨later, hgot.symm⟩, hfirst.symm, ?_⟩
  intro herror hclear
  have hwhole : got.map FrameCall.frame = (r.dataFrames id).map FrameCall.frame := by
    rw [hfirst, hall herror hclear, hsent]
  have hlength : got.length = (r.dataFrames id).length := by
    simpa using congrArg List.length hwhole
  rw [hgot] at hlength ⊢
  have hlater : later = [] := List.length_eq_zero_iff.mp (by simpa using hlength)
  rw [hlater, List.append_nil]

/-- What has been sent for a stream is a beginning of its file. -/
theorem FileInv.payload_prefix {contents : List UInt8} {r : Run} (h : FileInv contents id r) :
    (r.dataFrames id).flatMap FrameCall.payload <+: contents := by
  by_cases hknown : (coreOf r.server id).isSome = true
  · rw [h.payload hknown]
    exact List.take_prefix _ contents
  · have hnone : r.dataFrames id = [] := by
      unfold Run.dataFrames
      rw [List.filterMap_eq_nil_iff]
      intro x hx
      rw [Option.eq_none_iff_forall_ne_some]
      intro c hc
      have hsilent := (h.unknown (Option.not_isSome_iff_eq_none.mp hknown) x hx).1
      exact hsilent (dataFrame_answers hc)
    rw [hnone]
    exact List.nil_prefix

end File

end Halmos.Http2
