import Halmos.Http2.Emit
import Halmos.Http2.RoundTrip
import Halmos.Http2.Steps

set_option autoImplicit false

/-! # The session loop makes runs

`http2_manager_session` works on bytes: it reads what the socket offers, dispatches the frames it
completes with the handlers of this server, and writes what they emit. `Conn.At` says that a
connection is where a run of the server is: the streams are those of the run, the frames handed
to `dispatch_frame` are those of its trace, and what has been done to the write side are the calls
of its trace, with flushes of the backlog in between. Every pass of the loop keeps a connection at a
run (`session_isRun`), however the bytes are cut into reads and whatever the writes answer.
-/

namespace Halmos.Http2

/-! ## What a trace puts on the socket -/

/-- SETTINGS are acknowledged by a direct write, if there is a setting in them. -/
def Traced.calls : Traced → List EmitCall
  | .received f =>
      if f.type = 0x04 ∧ f.flags &&& 0x01 = 0 ∧ 6 ≤ f.payload.length then [.sendSettingsAck] else []
  | .did (.router _ _ _) => []
  | .did (.sent c) => [.frameSend c.type c.flags c.streamId c.payload]

/-- What these calls emit. -/
def Traced.emissions : Traced → List Emission
  | .received f =>
      if f.type = 0x04 ∧ f.flags &&& 0x01 = 0 ∧ 6 ≤ f.payload.length then http2FrameSendSettingsAck
      else []
  | .did e => e.emissions

/-- A frame handed to `dispatch_frame`. -/
def Traced.frame : Traced → Option HTTP2Frame
  | .received f => some ⟨f.head, f.payload⟩
  | .did _ => none

/-- The calls that emit something: all but the flushes. -/
def sends (calls : List (EmitCall × WriteOutcome)) : List EmitCall :=
  (calls.map Prod.fst).filter (fun c => c ≠ .flushPendingWrite)

/-- The environment a step of a run meets. -/
def Run.Input.environment : Run.Input → Environment
  | .frame _ env => env
  | .flush env => env

/-- The connection is where the run is, and `calls` have led to its write side. -/
structure Conn.At (c : Conn ServerRest) (r : Run) (calls : List (EmitCall × WriteOutcome)) :
    Prop where
  server : c.protocol = r.server
  seen : c.seen = r.trace.filterMap Traced.frame
  side : c.side = (runSteps EmitState.call .fresh calls).side
  sends : Http2.sends calls = .sendSettings :: r.trace.flatMap Traced.calls

/-- A session of this server, until a pass closes it. -/
structure Session where
  conn : Conn ServerRest
  closed : Bool

def Session.new (streams : Nat → StreamRest) (reads : List ReadEvent) (writes : List WriteOutcome) :
    Session :=
  ⟨sessionInit ⟨.empty, streams⟩ reads writes, false⟩

/-- One pass of `http2_manager_session`. What has returned `0` is destroyed and sees no other
pass. -/
def Session.pass (maxBodySize : Nat) (s : Session) (env : Environment) : Session :=
  if s.closed then s
  else
    let r := managerIteration (serverHandlers env) maxBodySize s.conn
    ⟨r.2, r.1 = some 0⟩

/-! ## Emissions are calls -/

section Calls

variable {c : Conn ServerRest} {r : Run} {calls : List (EmitCall × WriteOutcome)}

@[simp] theorem sends_append (calls more : List (EmitCall × WriteOutcome)) :
    sends (calls ++ more) = sends calls ++ sends more := by
  simp [sends]

/-- A step of the trace makes no call, or one that emits at most one frame. -/
theorem Traced.calls_cases (x : Traced) :
    (x.calls = [] ∧ x.emissions = []) ∨
    ∃ k, x.calls = [k] ∧ k ≠ .flushPendingWrite ∧ x.emissions.length ≤ 1 ∧
      ∀ o, k.emissions o = x.emissions := by
  cases x with
  | received f =>
      by_cases hack : f.type = 0x04 ∧ f.flags &&& 0x01 = 0 ∧ 6 ≤ f.payload.length
      · have hemits : (Traced.received f).emissions = http2FrameSendSettingsAck := if_pos hack
        rw [hemits]
        exact Or.inr ⟨.sendSettingsAck, if_pos hack, by simp, Nat.le_refl 1, fun _ => rfl⟩
      · exact Or.inl ⟨if_neg hack, if_neg hack⟩
  | did e =>
      cases e with
      | router id body len => exact Or.inl ⟨rfl, rfl⟩
      | sent k =>
          refine Or.inr ⟨.frameSend k.type k.flags k.streamId k.payload, rfl, by simp, ?_,
            fun _ => rfl⟩
          show (http2FrameSend k.type k.flags k.streamId k.payload).length ≤ 1
          unfold http2FrameSend
          split <;> simp

theorem Traced.calls_ne_flush (x : Traced) : ∀ k ∈ x.calls, k ≠ .flushPendingWrite := by
  rcases x.calls_cases with ⟨hnone, -⟩ | ⟨k, hcall, hk, -⟩
  · simp [hnone]
  · simpa [hcall] using hk

theorem EmitState.call_eq {k : EmitCall} (hk : k ≠ .flushPendingWrite) (s : EmitState)
    (o : WriteOutcome) : s.call (k, o) = (k.emissions o).foldl (EmitState.emit o) s := by
  cases k with
  | flushPendingWrite => exact absurd rfl hk
  | _ => rfl

/-- One step of the trace on a connection, as calls with the answers its script holds. -/
theorem Conn.emitAll_step (c : Conn ServerRest) (x : Traced) :
    ∃ ops : List (EmitCall × WriteOutcome), ops.map Prod.fst = x.calls ∧
      ∀ s : EmitState, s.side = c.side →
        (runSteps EmitState.call s ops).side = (c.emitAll x.emissions).side := by
  rcases x.calls_cases with ⟨hcalls, hnone⟩ | ⟨k, hcalls, hk, hone, hemits⟩
  · rw [hcalls, hnone]
    exact ⟨[], rfl, fun s hs => hs⟩
  · rw [hcalls]
    match hes : x.emissions, hone with
    | [], _ =>
        refine ⟨[(k, ⟨.wouldBlock, true⟩)], rfl, fun s hs => ?_⟩
        rw [runSteps_cons, runSteps_nil, EmitState.call_eq hk, hemits, hes]
        exact hs
    | [e], _ =>
        refine ⟨[(k, (nextWrite e.bytes.length c.writes).1)], rfl, fun s hs => ?_⟩
        rw [runSteps_cons, runSteps_nil, EmitState.call_eq hk, hemits, hes]
        show s.side.emit e _ = c.side.emit e _
        rw [hs]

theorem Conn.emitAll_append (c : Conn ServerRest) (es fs : List Emission) :
    c.emitAll (es ++ fs) = (c.emitAll es).emitAll fs := List.foldl_append

/-- A piece of a trace on a connection. -/
theorem Conn.emitAll_trace (xs : List Traced) (c : Conn ServerRest) :
    ∃ ops : List (EmitCall × WriteOutcome), ops.map Prod.fst = xs.flatMap Traced.calls ∧
      ∀ s : EmitState, s.side = c.side →
        (runSteps EmitState.call s ops).side
          = (c.emitAll (xs.flatMap Traced.emissions)).side := by
  induction xs generalizing c with
  | nil => exact ⟨[], rfl, fun s hs => hs⟩
  | cons x xs ih =>
      obtain ⟨ops, hops, hside⟩ := c.emitAll_step x
      obtain ⟨rest, hrest, hrestSide⟩ := ih (c.emitAll x.emissions)
      refine ⟨ops ++ rest, by rw [List.map_append, hops, hrest, List.flatMap_cons], ?_⟩
      intro s hs
      rw [runSteps_append, List.flatMap_cons, Conn.emitAll_append]
      exact hrestSide _ (hside s hs)

theorem sends_of_calls {ops : List (EmitCall × WriteOutcome)} {xs : List Traced}
    (h : ops.map Prod.fst = xs.flatMap Traced.calls) : sends ops = xs.flatMap Traced.calls := by
  unfold sends
  rw [h, List.filter_eq_self]
  intro k hk
  obtain ⟨x, -, hx⟩ := List.mem_flatMap.mp hk
  simpa using x.calls_ne_flush k hx

/-- The run goes on by `xs`, and the connection emits what `xs` emits. -/
theorem Conn.At.advance (h : c.At r calls) {r' : Run} {xs : List Traced}
    (htrace : r'.trace = r.trace ++ xs) :
    ∃ more, ({ c with
      protocol := r'.server
      seen := c.seen ++ xs.filterMap Traced.frame }.emitAll (xs.flatMap Traced.emissions)).At r'
        (calls ++ more) := by
  let c' : Conn ServerRest := { c with
    protocol := r'.server
    seen := c.seen ++ xs.filterMap Traced.frame }
  obtain ⟨more, hmore, hside⟩ := Conn.emitAll_trace xs c'
  obtain ⟨-, hprotocol, hseen⟩ := Conn.emitAll_frame c' (xs.flatMap Traced.emissions)
  refine ⟨more, hprotocol, ?_, ?_, ?_⟩
  · rw [hseen, htrace, List.filterMap_append, ← h.seen]
  · rw [runSteps_append]
    exact (hside _ h.side.symm).symm
  · rw [sends_append, sends_of_calls hmore, h.sends, htrace, List.flatMap_append, List.cons_append]

/-- What a session does not emit leaves it at its run. -/
theorem Conn.At.input (h : c.At r calls) (i : Input) :
    ({ c with input := i } : Conn ServerRest).At r calls :=
  ⟨h.server, h.seen, h.side, h.sends⟩

/-- The flush at the head of the loop. -/
theorem Conn.At.flushPendingWrite (h : c.At r calls) :
    ∃ o, c.flushPendingWrite.2.At r (calls ++ [(.flushPendingWrite, o)]) := by
  let o := (nextWrite (c.side.backlog.pendingWriteLen - c.side.backlog.pendingWriteOffset)
    c.writes).1
  refine ⟨o, h.server, h.seen, ?_, ?_⟩
  · rw [runSteps_append, runSteps_cons, runSteps_nil]
    show c.side.call (.flushPendingWrite, o) = _
    rw [h.side]
    rfl
  · rw [sends_append, h.sends]
    simp [Http2.sends]

/-! ## The handlers are steps -/

/-- A pass of the pump over some of the active streams. -/
theorem flushActive_visits (env : Environment) (targets : List (Nat × Activity)) (r : Run)
    (sent : List Emission) :
    ∃ es : List Event,
      targets.foldl (fun acc target =>
        let o := (serverHandlers env).flushStream acc.1 target.1 target.2
        (o.1, acc.2 ++ o.2)) (r.server, sent)
        = ((runSteps (Run.visit env) r targets).server, sent ++ es.flatMap Event.emissions) ∧
      (runSteps (Run.visit env) r targets).trace = r.trace ++ es.map .did := by
  induction targets generalizing r sent with
  | nil => exact ⟨[], by simp, by simp⟩
  | cons target targets ih =>
      let o := flushStream env r.server target.1 target.2
      obtain ⟨es, hfold, htrace⟩ := ih (r.visit env target) (sent ++ o.2.flatMap Event.emissions)
      refine ⟨o.2 ++ es, ?_, ?_⟩
      · rw [List.foldl_cons, runSteps_cons, List.flatMap_append, ← List.append_assoc]
        exact hfold
      · rw [runSteps_cons, htrace]
        show (r.trace ++ o.2.map .did) ++ es.map .did = _
        rw [List.append_assoc, List.map_append]

/-- The pump is a step of the run. -/
theorem Conn.At.flushActiveStreams (h : c.At r calls) (env : Environment) :
    ∃ more,
      (c.flushActiveStreams (serverHandlers env)).At (r.step (.flush env)) (calls ++ more) := by
  obtain ⟨es, hfold, htrace⟩ := flushActive_visits env (activeStreams r.server) r []
  have hframes : (es.map Traced.did).filterMap Traced.frame = [] := by
    simp [List.filterMap_eq_nil_iff, Traced.frame]
  have hemits : (es.map Traced.did).flatMap Traced.emissions = es.flatMap Event.emissions := by
    rw [List.flatMap_map]
    rfl
  obtain ⟨more, hat⟩ := h.advance htrace
  refine ⟨more, ?_⟩
  have hpump : http2ResponseFlushActiveStreams (serverHandlers env) c.protocol
      = ((r.step (.flush env)).server, es.flatMap Event.emissions) := by
    rw [h.server]
    exact hfold
  unfold Conn.flushActiveStreams
  rw [hpump]
  rw [hframes, hemits, List.append_nil] at hat
  exact hat

/-- What `dispatch_frame` emits. -/
theorem dispatchFrame_emissions (env : Environment) (s : Server) (f : Frame) :
    (dispatchFrame (serverHandlers env) s f.head f.payloadBuf).2.2
      = (Traced.received f :: (handleFrame env s f).2.map .did).flatMap Traced.emissions := by
  have htype : f.head.type = f.type := rfl
  have hlen : f.head.length = f.payload.length := rfl
  have hflags : f.head.flags = f.flags := rfl
  have hmap : ∀ es : List Event, (es.map Traced.did).flatMap Traced.emissions
      = es.flatMap Event.emissions := by
    intro es
    rw [List.flatMap_map]
    rfl
  have hquiet : f.type ≠ 0x04 → (Traced.received f).emissions = [] :=
    fun h => if_neg (fun hack => h hack.1)
  rw [List.flatMap_cons, hmap]
  unfold dispatchFrame handleFrame
  rw [htype, hlen, hflags, Frame.payloadBuf_getD]
  by_cases h0 : f.type = 0x00
  · rw [if_pos h0, if_pos h0, hquiet (by rw [h0]; decide)]
    rfl
  rw [if_neg h0, if_neg h0]
  by_cases h1 : f.type = 0x01
  · rw [if_pos h1, if_pos h1, hquiet (by rw [h1]; decide)]
    rfl
  rw [if_neg h1, if_neg h1]
  by_cases h3 : f.type = 0x03
  · rw [if_pos h3, if_pos h3, hquiet (by rw [h3]; decide)]
    rfl
  rw [if_neg h3, if_neg h3]
  by_cases h4 : f.type = 0x04
  · -- SETTINGS: the acknowledgement is in the frame that is received
    rw [if_pos h4, if_pos h4]
    by_cases hack : f.flags &&& 0x01 = 0 ∧ 6 ≤ f.payload.length
    · rw [if_pos hack, show (Traced.received f).emissions = _ from if_pos ⟨h4, hack⟩]
      rfl
    · rw [if_neg hack, show (Traced.received f).emissions = _ from if_neg (fun h => hack h.2)]
      rfl
  rw [if_neg h4, if_neg h4, hquiet h4]
  by_cases h6 : f.type = 0x06
  · rw [if_pos h6, if_pos h6]
    split
    · simp [Event.emissions, FrameCall.emissions]
    · rfl
  rw [if_neg h6, if_neg h6]
  by_cases h7 : f.type = 0x07
  · rw [if_pos h7]
    split <;> rfl
  rw [if_neg h7]
  split <;> rfl

/-- A frame whose bytes are complete is a step of the run. -/
theorem Conn.At.dispatchFrame (h : c.At r calls) (env : Environment) {f : Frame}
    (hhead : c.input.progress.currentFrameHead = f.head)
    (hpayload : c.input.progress.payloadBuf = f.payloadBuf) :
    ∃ more,
      (c.dispatchFrame (serverHandlers env)).2.At (r.step (.frame f env)) (calls ++ more) := by
  have hstep := Run.step_frame r f env
  have htrace : (r.step (.frame f env)).trace
      = r.trace ++ .received f :: (handleFrame env r.server f).2.map .did := by
    rw [hstep]
  have hframes : (Traced.received f :: (handleFrame env r.server f).2.map .did).filterMap
      Traced.frame = [c.input.progress.frame] := by
    have hnone : ((handleFrame env r.server f).2.map Traced.did).filterMap Traced.frame = [] := by
      simp [List.filterMap_eq_nil_iff, Traced.frame]
    have hframe : Traced.frame (.received f) = some c.input.progress.frame := by
      unfold ReadProgress.frame
      rw [hhead, hpayload, Frame.payloadBuf_getD]
      rfl
    rw [List.filterMap_cons_some hframe, hnone]
  obtain ⟨more, hat⟩ := h.advance htrace
  refine ⟨more, ?_⟩
  rw [hframes, ← dispatchFrame_emissions] at hat
  have hserver : (r.step (.frame f env)).server
      = (Http2.dispatchFrame (serverHandlers env) r.server f.head f.payloadBuf).2.1 := by
    rw [hstep, dispatchFrame_server]
  rw [hserver] at hat
  unfold Conn.dispatchFrame
  dsimp only
  rw [hhead, hpayload, h.server]
  split
  · exact hat
  · exact hat.input _

end Calls

/-! ## The frame the read side holds -/

theorem http2ParserFrameHeader_bounds {buf : List UInt8} {head : HTTP2FrameHeader}
    (h : http2ParserFrameHeader buf = some head) :
    head.length < 2 ^ 24 ∧ head.streamId < 2 ^ 31 := by
  unfold http2ParserFrameHeader at h
  split at h
  · next b0 b1 b2 b3 b4 b5 b6 b7 b8 =>
      injection h with h
      subst h
      have hbyte : ∀ b : UInt8, b.toNat < 2 ^ 8 := UInt8.toNat_lt
      have hshift : ∀ (b : UInt8) (k n : Nat), 8 + k ≤ n → b.toNat <<< k < 2 ^ n := by
        intro b k n hn
        rw [Nat.shiftLeft_eq]
        calc b.toNat * 2 ^ k < 2 ^ 8 * 2 ^ k :=
              Nat.mul_lt_mul_of_pos_right (hbyte b) (Nat.two_pow_pos k)
          _ = 2 ^ (8 + k) := (Nat.pow_add 2 8 k).symm
          _ ≤ 2 ^ n := Nat.pow_le_pow_right (by omega) hn
      have hlow : (b5.toNat &&& 0x7F) <<< 24 < 2 ^ 31 := by
        have hle : b5.toNat &&& 0x7F ≤ 0x7F := Nat.and_le_right
        rw [Nat.shiftLeft_eq]
        omega
      constructor
      · exact Nat.or_lt_two_pow (Nat.or_lt_two_pow (hshift b0 16 24 (by omega))
          (hshift b1 8 24 (by omega))) (by have := hbyte b2; omega)
      · exact Nat.or_lt_two_pow (Nat.or_lt_two_pow (Nat.or_lt_two_pow hlow
          (hshift b6 16 31 (by omega))) (hshift b7 8 31 (by omega)))
          (by have := hbyte b8; omega)
  · cases h

/-- The header is one that has been parsed, and a frame without payload has no buffer. -/
structure ReadProgress.Framed (p : ReadProgress) : Prop where
  length_lt : p.currentFrameHead.length < 2 ^ 24
  streamId_lt : p.currentFrameHead.streamId < 2 ^ 31
  no_buffer : p.readState = .payload → p.currentFrameHead.length = 0 → p.payloadBuf = none

section Framed

variable {p : ReadProgress} {i : Input} {maxBodySize : Nat} {needWrite : Bool}

theorem ReadProgress.fresh_framed : ReadProgress.fresh.Framed :=
  ⟨by decide, by decide, fun h => by cases h⟩

theorem ReadProgress.Framed.nextFrame (h : p.Framed) : p.nextFrame.Framed :=
  ⟨h.length_lt, h.streamId_lt, fun _ _ => rfl⟩

theorem ReadProgress.Framed.beginPayload (h : p.Framed) (hbuf : p.payloadBuf = none) :
    (beginPayload maxBodySize p).2.Framed := by
  unfold Http2.beginPayload
  split
  · exact h
  · next head hhead =>
      obtain ⟨hlength, hstream⟩ := http2ParserFrameHeader_bounds hhead
      dsimp only
      split
      · next hpos =>
          split
          · exact ⟨hlength, hstream, fun _ _ => hbuf⟩
          · refine ⟨hlength, hstream, fun _ hzero => ?_⟩
            exact absurd hzero (Nat.ne_of_gt hpos)
      · exact ⟨hlength, hstream, fun _ _ => hbuf⟩

theorem processPreface_framed (h : i.progress.Framed) :
    (processPreface needWrite i).2.progress.Framed := by
  have hadd : ∀ n, (i.progress.addPreface n).Framed :=
    fun _ => ⟨h.length_lt, h.streamId_lt, h.no_buffer⟩
  unfold processPreface
  dsimp only
  split
  · split
    · split
      · exact hadd _
      · exact h
    · exact h
    · exact h
  · exact h

theorem readFrameHeader_framed (hok : i.progress.Ok) (h : i.progress.Framed) :
    (readFrameHeader maxBodySize needWrite i).2.progress.Framed := by
  unfold readFrameHeader
  dsimp only
  split
  · next hs =>
      have hadd : ∀ bs, (i.progress.addHeader bs).Framed :=
        fun _ => ⟨h.length_lt, h.streamId_lt, h.no_buffer⟩
      have hbuf : ∀ bs, (i.progress.addHeader bs).payloadBuf = none :=
        fun _ => (hok.header hs).2.2
      split
      · split
        · split
          · exact (hadd _).beginPayload (hbuf _)
          · exact hadd _
        · exact h
      · exact h
      · exact h
  · exact h

theorem readFramePayload_framed (h : i.progress.Framed) :
    (readFramePayload needWrite i).2.progress.Framed := by
  unfold readFramePayload
  dsimp only
  split
  · split
    · next hpos =>
        have hadd : ∀ bs, (i.progress.addPayload bs).Framed := by
          intro bs
          exact ⟨h.length_lt, h.streamId_lt, fun _ hzero => absurd hzero (Nat.ne_of_gt hpos)⟩
        split
        · split
          · split
            · exact hadd _
            · exact hadd _
          · exact h
        · exact h
        · exact h
    · exact h
  · exact h

/-- A complete payload makes a frame. -/
theorem ReadProgress.Framed.frame (h : p.Framed) (hs : p.readState = .payload)
    (hlength : (p.payloadBuf.getD []).length = p.currentFrameHead.length)
    (hbuffer : 0 < p.currentFrameHead.length → p.payloadBuf ≠ none) :
    ∃ f : Frame, p.currentFrameHead = f.head ∧ p.payloadBuf = f.payloadBuf := by
  have hbuf : p.payloadBuf
      = if p.payloadBuf.getD [] = [] then none else some (p.payloadBuf.getD []) := by
    by_cases hzero : p.currentFrameHead.length = 0
    · rw [h.no_buffer hs hzero]
      rfl
    · have hpos := Nat.pos_of_ne_zero hzero
      rw [if_neg (List.ne_nil_of_length_pos (by omega))]
      cases hbytes : p.payloadBuf with
      | none => exact absurd hbytes (hbuffer hpos)
      | some bytes => rfl
  exact ⟨⟨p.currentFrameHead.type, p.currentFrameHead.flags, p.currentFrameHead.streamId,
    p.payloadBuf.getD [], hlength ▸ h.length_lt, h.streamId_lt⟩,
    congrArg (fun n => HTTP2FrameHeader.mk n _ _ _) hlength.symm, hbuf⟩

end Framed

/-! ## A pass -/

section Pass

variable {streams : Nat → StreamRest} {envs : List Environment} {env : Environment}
  {c : Conn ServerRest} {maxBodySize : Nat}

/-- The connection is at some run that meets the environments. -/
def Conn.IsRun (streams : Nat → StreamRest) (envs : List Environment) (c : Conn ServerRest) :
    Prop :=
  ∃ is calls, (∀ i : Run.Input, i ∈ is → i.environment ∈ envs) ∧
    c.At (runSteps Run.step (.fresh streams) is) calls

theorem Conn.IsRun.input (h : c.IsRun streams envs) (i : Input) :
    Conn.IsRun streams envs { c with input := i } := by
  obtain ⟨is, calls, henv, hat⟩ := h
  exact ⟨is, calls, henv, hat.input i⟩

/-- The run goes on by one step. -/
theorem Conn.IsRun.step {c' : Conn ServerRest} (h : c.IsRun streams envs) {i : Run.Input}
    (henv : i.environment ∈ envs)
    (hstep : ∀ r calls, c.At r calls → ∃ more, c'.At (r.step i) (calls ++ more)) :
    c'.IsRun streams envs := by
  obtain ⟨is, calls, hall, hat⟩ := h
  obtain ⟨more, hat'⟩ := hstep _ _ hat
  refine ⟨is ++ [i], calls ++ more, ?_, ?_⟩
  · intro j hj
    rcases List.mem_append.mp hj with hj | hj
    · exact hall j hj
    · exact List.mem_singleton.mp hj ▸ henv
  · rw [runSteps_append]
    exact hat'

/-- The connection is at a run, and its read side holds a frame that can be one of it. -/
structure Conn.Follows (streams : Nat → StreamRest) (envs : List Environment)
    (c : Conn ServerRest) : Prop where
  isRun : c.IsRun streams envs
  framed : c.input.progress.Framed

/-- The read stages leave the run alone. -/
theorem Conn.Follows.input (h : c.Follows streams envs) {i : Input} (hframed : i.progress.Framed) :
    Conn.Follows streams envs { c with input := i } :=
  ⟨h.isRun.input i, hframed⟩

/-- A complete frame is dispatched. -/
theorem Conn.Follows.dispatchFrame (h : c.Follows streams envs) (henv : env ∈ envs)
    (hok : c.input.progress.Ok) (hs : c.input.progress.readState = .payload)
    (hdone : c.input.progress.currentFrameHead.length
      ≤ (c.input.progress.payloadBuf.getD []).length) :
    (c.dispatchFrame (serverHandlers env)).2.Follows streams envs := by
  obtain ⟨hlength, hread, hbuffer⟩ := hok.payload hs
  obtain ⟨f, hhead, hpayload⟩ := h.framed.frame hs (by omega) hbuffer
  refine ⟨h.isRun.step (i := .frame f env) henv
    (fun r calls hat => hat.dispatchFrame env hhead hpayload), ?_⟩
  have hinput : (c.dispatchFrame (serverHandlers env)).2.input.progress = c.input.progress ∨
      (c.dispatchFrame (serverHandlers env)).2.input.progress = c.input.progress.nextFrame := by
    unfold Conn.dispatchFrame
    dsimp only
    split
    · exact Or.inl (congrArg Input.progress (Conn.emitAll_frame _ _).1)
    · exact Or.inr rfl
  rcases hinput with hinput | hinput <;> rw [hinput]
  · exact h.framed
  · exact h.framed.nextFrame

/-- `read_frame_payload` ends the pass, or answers `1` with a complete payload. -/
theorem readFramePayload_cases {i : Input} (needWrite : Bool) (hok : i.progress.Ok)
    (hpref : 24 ≤ i.progress.prefaceBytesRead) (hs : i.progress.readState = .payload)
    (hneed : 0 < i.progress.receiver.need ∨ i.progress.currentFrameHead.length = 0) :
    let r := readFramePayload needWrite i
    (r.1 = 0 ∨ r.1 = 2 ∨ r.1 = 4) ∨
    (r.2.progress.Ok ∧ r.2.progress.readState = .payload ∧
      r.2.progress.currentFrameHead.length ≤ (r.2.progress.payloadBuf.getD []).length) := by
  intro r
  rcases hneed with hneed | hzero
  · have hpay := ReadProgress.receiver_payload hpref hs
    have hin : i.progress.receiver.InPayload := by
      rw [hpay]
      trivial
    have hstage : Stage 0 needWrite i r := readFramePayload_stage 0 needWrite hok hpref hs hneed
    generalize r = r at hstage ⊢
    cases hstage with
    | took bs i' hne hle hatoms hok' hrx =>
        rw [hpay, Receiver.absorb] at hrx
        obtain ⟨hpref', hs'⟩ := ReadProgress.of_receiver_payload hrx
        by_cases hmore : 0 < i'.progress.receiver.need
        · exact Or.inl (Or.inr (Or.inl (if_pos ⟨hin, hmore⟩)))
        · refine Or.inr ⟨hok', hs', ?_⟩
          rw [ReadProgress.receiver_payload hpref' hs', Receiver.need] at hmore
          exact Nat.sub_eq_zero_iff_le.mp (Nat.eq_zero_of_not_pos hmore)
    | refused bs i' hne hle hatoms hclosed => exact Or.inl (Or.inl rfl)
    | blocked i' hblocks hprog =>
        cases needWrite with
        | false => exact Or.inl (Or.inr (Or.inl rfl))
        | true => exact Or.inl (Or.inr (Or.inr rfl))
    | lost as i' hatoms => exact Or.inl (Or.inl rfl)
  · have hskip : r = (1, i) := readFramePayload_skip needWrite hs hzero
    rw [hskip]
    refine Or.inr ⟨hok, hs, ?_⟩
    show i.progress.currentFrameHead.length ≤ _
    omega

theorem managerPayload_follows (h : c.Follows streams envs) (henv : env ∈ envs)
    (hok : c.input.progress.Ok) (hpref : 24 ≤ c.input.progress.prefaceBytesRead)
    (hs : c.input.progress.readState = .payload)
    (hneed : 0 < c.input.progress.receiver.need ∨ c.input.progress.currentFrameHead.length = 0) :
    (managerPayload (serverHandlers env) c).2.Follows streams envs := by
  have hinput : Conn.Follows streams envs
      { c with input := (readFramePayload c.needWrite c.input).2 } :=
    h.input (readFramePayload_framed h.framed)
  have hcases := readFramePayload_cases c.needWrite hok hpref hs hneed
  unfold managerPayload
  dsimp only at hcases ⊢
  generalize readFramePayload c.needWrite c.input = r at hcases hinput ⊢
  rcases hcases with (h0 | h2 | h4) | ⟨hok', hs', hdone⟩
  · rw [if_pos h0]
    exact hinput
  · rw [if_neg (by omega), if_pos h2]
    exact hinput
  · rw [if_neg (by omega), if_neg (by omega), if_pos h4]
    exact hinput
  · have hdispatch := hinput.dispatchFrame henv hok' hs' hdone
    split_ifs <;> first | exact hinput | exact hdispatch

/-- `read_frame_header` ends the pass, or leaves the read side in order. -/
theorem readFrameHeader_cases {i : Input} (maxBodySize : Nat) (needWrite : Bool)
    (hok : i.progress.Ok) (hpref : 24 ≤ i.progress.prefaceBytesRead)
    (hneed : 0 < i.progress.receiver.need) :
    let r := readFrameHeader maxBodySize needWrite i
    (r.1 = 0 ∨ r.1 = 2 ∨ r.1 = 4) ∨ r.2.progress.readState = .header ∨
    (r.2.progress.Ok ∧ 24 ≤ r.2.progress.prefaceBytesRead ∧
      r.2.progress.readState = .payload ∧
      (0 < r.2.progress.receiver.need ∨ r.2.progress.currentFrameHead.length = 0)) := by
  intro r
  cases hs : i.progress.readState with
  | payload =>
      have hskip : r = (1, i) := readFrameHeader_skip hs
      rw [hskip]
      exact Or.inr (Or.inr ⟨hok, hpref, hs, Or.inl hneed⟩)
  | header =>
      have hhead := ReadProgress.receiver_header hpref hs
      have hstage : Stage (maxAllowedPayload maxBodySize) needWrite i r :=
        readFrameHeader_stage maxBodySize needWrite hok hpref hs
      generalize r = r at hstage ⊢
      cases hstage with
      | took bs i' hne hle hatoms hok' hrx =>
          cases hs' : i'.progress.readState with
          | header => exact Or.inr (Or.inl rfl)
          | payload =>
              have hpref' := hok'.preface_of_payload hs'
              refine Or.inr (Or.inr ⟨hok', hpref', rfl, ?_⟩)
              by_cases hpos : 0 < i'.progress.receiver.need
              · exact Or.inl hpos
              · -- the payload begins empty
                have hpay := ReadProgress.receiver_payload hpref' hs'
                have hnil : i'.progress.payloadBuf.getD [] = [] :=
                  Receiver.absorb_header_payload (hhead ▸ hrx.symm.trans hpay)
                rw [hpay, Receiver.need, hnil] at hpos
                exact Or.inr (Nat.eq_zero_of_not_pos hpos)
      | refused bs i' hne hle hatoms hclosed => exact Or.inl (Or.inl rfl)
      | blocked i' hblocks hprog =>
          cases needWrite with
          | false => exact Or.inl (Or.inr (Or.inl rfl))
          | true => exact Or.inl (Or.inr (Or.inr rfl))
      | lost as i' hatoms => exact Or.inl (Or.inl rfl)

variable (maxBodySize) in
theorem managerHeader_follows (h : c.Follows streams envs) (henv : env ∈ envs)
    (hok : c.input.progress.Ok) (hpref : 24 ≤ c.input.progress.prefaceBytesRead)
    (hneed : 0 < c.input.progress.receiver.need) :
    (managerHeader (serverHandlers env) maxBodySize c).2.Follows streams envs := by
  have hread := Conn.flushActiveStreams_input (serverHandlers env) c
  have hpumped : (c.flushActiveStreams (serverHandlers env)).Follows streams envs := by
    refine ⟨h.isRun.step (i := .flush env) henv (fun r calls hat => hat.flushActiveStreams env), ?_⟩
    rw [hread]
    exact h.framed
  unfold managerHeader
  dsimp only
  rw [hread]
  generalize c.flushActiveStreams (serverHandlers env) = pumped at hread hpumped ⊢
  have hinput : Conn.Follows streams envs
      { pumped with input := (readFrameHeader maxBodySize pumped.needWrite c.input).2 } :=
    hpumped.input (readFrameHeader_framed hok h.framed)
  have hcases := readFrameHeader_cases maxBodySize pumped.needWrite hok hpref hneed
  dsimp only at hcases
  generalize readFrameHeader maxBodySize pumped.needWrite c.input = r at hcases hinput ⊢
  rcases hcases with hcode | hheader | ⟨hok', hpref', hs', hneed'⟩
  · split_ifs
    · exact hinput
    · exact hinput
    · exact hinput
    · omega
  · split_ifs <;> exact hinput
  · have hpayload := managerPayload_follows hinput henv hok' hpref' hs' hneed'
    split_ifs <;> first | exact hinput | exact hpayload

theorem managerPreface_follows (h : c.Follows streams envs) (henv : env ∈ envs)
    (hok : c.input.progress.Ok) (hneed : 0 < c.input.progress.receiver.need) :
    (managerPreface (serverHandlers env) maxBodySize c).2.Follows streams envs := by
  have hinput : Conn.Follows streams envs
      { c with input := (processPreface c.needWrite c.input).2 } :=
    h.input (processPreface_framed h.framed)
  -- the frame header is read only with the preface complete
  have hcases : let r := processPreface c.needWrite c.input
      (r.1 = 0 ∨ r.1 = 2 ∨ r.1 = 4) ∨ r.1 = 1 ∧ (r.2.progress.prefaceBytesRead < 24 ∨
        (r.2.progress.Ok ∧ 24 ≤ r.2.progress.prefaceBytesRead ∧
          0 < r.2.progress.receiver.need)) := by
    intro r
    by_cases hpref : c.input.progress.prefaceBytesRead < 24
    · have hrx := ReadProgress.receiver_preface hpref
      have hstage : Stage 0 c.needWrite c.input r := processPreface_stage 0 c.needWrite hok hpref
      generalize r = r at hstage ⊢
      cases hstage with
      | took bs i hne hle hatoms hok' hrx' =>
          have hout : ¬ c.input.progress.receiver.InPayload := by
            rw [hrx]
            exact id
          refine Or.inr ⟨if_neg (fun hin => hout hin.1), ?_⟩
          by_cases hmore : i.progress.prefaceBytesRead < 24
          · exact Or.inl hmore
          · refine Or.inr ⟨hok', Nat.le_of_not_lt hmore, ?_⟩
            have habs := hrx'
            rw [hrx, Receiver.absorb] at habs
            split at habs
            · exact absurd (ReadProgress.of_receiver_preface habs) hmore
            · rw [habs]
              decide
      | refused bs i hne hle hatoms hclosed => exact Or.inl (Or.inl rfl)
      | blocked i hblocks hprog =>
          left
          cases c.needWrite with
          | false => exact Or.inr (Or.inl rfl)
          | true => exact Or.inr (Or.inr rfl)
      | lost as i hatoms => exact Or.inl (Or.inl rfl)
    · have hge := Nat.le_of_not_lt hpref
      have hskip : r = (1, c.input) := processPreface_skip hge
      rw [hskip]
      exact Or.inr ⟨rfl, Or.inr ⟨hok, hge, hneed⟩⟩
  unfold managerPreface
  dsimp only at hcases ⊢
  generalize processPreface c.needWrite c.input = r at hcases hinput ⊢
  rcases hcases with hcode | ⟨hone, hmore | ⟨hok', hpref', hneed'⟩⟩
  · split_ifs
    · exact hinput
    · exact hinput
    · exact hinput
    · omega
  · split_ifs with h0 hwait hless
    · exact hinput
    · exact hinput
    · exact hinput
    · exact absurd ⟨hone, hmore⟩ hless
  · have hheader := managerHeader_follows maxBodySize hinput henv hok' hpref' hneed'
    split_ifs <;> first | exact hinput | exact hheader

/-- **A pass of the loop keeps the connection at a run.** -/
theorem managerIteration_follows (h : c.Follows streams envs) (henv : env ∈ envs)
    (hok : c.input.progress.Ok) (hneed : 0 < c.input.progress.receiver.need) :
    (managerIteration (serverHandlers env) maxBodySize c).2.Follows streams envs := by
  have hflushed : c.flushPendingWrite.2.Follows streams envs := by
    obtain ⟨is, calls, hall, hat⟩ := h.isRun
    obtain ⟨o, hat'⟩ := hat.flushPendingWrite
    exact ⟨⟨is, _, hall, hat'⟩, h.framed⟩
  unfold managerIteration
  dsimp only
  split_ifs
  · exact h
  · exact hflushed
  · exact hflushed
  · exact managerPreface_follows hflushed henv hok hneed
  · exact managerPreface_follows h henv hok hneed

/-- The bytes that have been read are the first of the script, and the frames handed on are the
ones they complete. -/
def Conn.HasRead (maxLen : Nat) (reads : List ReadEvent) (c : Conn ServerRest) : Prop :=
  ∃ as, atomsOf reads = as ++ c.input.atoms ∧
    (Receiver.preface 0).feedAll maxLen (bytesOf as) = (c.input.progress.receiver, c.seen)

/-- What a pass reads comes behind what has been read. -/
theorem Conn.HasRead.iterates {maxLen : Nat} {reads : List ReadEvent}
    {o : Option Nat × Conn ServerRest} (h : c.HasRead maxLen reads) (hiter : Iterates maxLen c o)
    (hopen : o.1 ≠ some 0) : o.2.HasRead maxLen reads := by
  obtain ⟨⟨bs, frames, m, hcons, hends, hseen⟩, -, -⟩ := hiter
  obtain ⟨as, hatoms, hfeed⟩ := h
  have hscript : atomsOf reads = (as ++ bs.map .byte) ++ m.atoms := by
    rw [hatoms, hcons.atoms, List.append_assoc]
  have hbytes : (Receiver.preface 0).feedAll maxLen (bytesOf (as ++ bs.map .byte))
      = (m.progress.receiver, o.2.seen) := by
    rw [bytesOf_append, bytesOf_map_byte, Receiver.feedAll_append, hfeed, hcons.feeds, hseen hopen]
  -- a would-block is no byte
  have hblocked : ∀ i' : Input, Blocks m.atoms i'.atoms → i'.progress = m.progress →
      o.2.input = i' → o.2.HasRead maxLen reads := by
    rintro i' (hblock | ⟨hm, hi⟩) hprog rfl
    · refine ⟨as ++ bs.map .byte ++ [.block], ?_, ?_⟩
      · rw [hscript, hblock, List.append_assoc _ [_]]
        rfl
      · rw [bytesOf_append, show bytesOf [.block] = [] from rfl, List.append_nil, hprog]
        exact hbytes
    · refine ⟨as ++ bs.map .byte, ?_, ?_⟩
      · rw [hscript, hm, hi]
      · rw [hprog]
        exact hbytes
  generalize hcode : o.1 = code at hends hopen
  generalize hinput : o.2.input = i' at hends
  cases hends with
  | goesOn hne =>
      refine ⟨as ++ bs.map .byte, ?_, ?_⟩
      · rw [hinput]
        exact hscript
      · rw [hinput]
        exact hbytes
  | waits code i' hblocks hprog _ _ => exact hblocked _ hblocks hprog hinput
  | spins i' hblocks hprog _ => exact hblocked _ hblocks hprog hinput
  | dies i' hdead => exact absurd rfl hopen

theorem managerIteration_hasRead {reads : List ReadEvent}
    (h : c.HasRead (maxAllowedPayload maxBodySize) reads) (hok : c.input.progress.Ok)
    (hneed : 0 < c.input.progress.receiver.need) :
    (managerIteration (serverHandlers env) maxBodySize c).1 ≠ some 0 →
    (managerIteration (serverHandlers env) maxBodySize c).2.HasRead (maxAllowedPayload maxBodySize)
      reads := by
  have hflushed : c.flushPendingWrite.2.HasRead (maxAllowedPayload maxBodySize) reads := h
  have hpreface : ∀ c' : Conn ServerRest, c'.HasRead (maxAllowedPayload maxBodySize) reads →
      c'.input = c.input → (managerPreface (serverHandlers env) maxBodySize c').1 ≠ some 0 →
      (managerPreface (serverHandlers env) maxBodySize c').2.HasRead
        (maxAllowedPayload maxBodySize) reads := by
    intro c' h' hinput hopen
    exact h'.iterates (managerPreface_iterates maxBodySize _ (hinput ▸ hok) (hinput ▸ hneed)) hopen
  unfold managerIteration
  dsimp only
  split_ifs
  · exact fun hopen => absurd rfl hopen
  · exact fun hopen => absurd rfl hopen
  · exact fun _ => hflushed
  · exact hpreface _ hflushed rfl
  · exact hpreface _ h rfl

end Pass

/-! ## Sessions -/

/-- What every pass of a session keeps. -/
structure Session.Tracks (maxBodySize : Nat) (streams : Nat → StreamRest) (reads : List ReadEvent)
    (envs : List Environment) (s : Session) : Prop where
  follows : s.conn.Follows streams envs
  progress : s.closed = false →
    s.conn.input.progress.Ok ∧ 0 < s.conn.input.progress.receiver.need ∧
    s.conn.HasRead (maxAllowedPayload maxBodySize) reads

section Tracks

variable {maxBodySize : Nat} {streams : Nat → StreamRest} {reads : List ReadEvent}
  {envs : List Environment}

theorem Session.tracks_new (writes : List WriteOutcome) :
    (Session.new streams reads writes).Tracks maxBodySize streams reads envs := by
  have hinput : (Session.new streams reads writes).conn.input = ⟨.fresh, reads⟩ :=
    sessionInit_input _ reads writes
  obtain ⟨-, hprotocol, hseen⟩ := Conn.emitAll_frame
    (⟨.fresh, ⟨.fresh, reads⟩, .fresh ⟨.empty, streams⟩, writes, []⟩ : Conn ServerRest)
    http2FrameSendSettings
  refine ⟨⟨⟨[], [(.sendSettings, (nextWrite settingsBytes.length writes).1)], by simp, ?_⟩, ?_⟩, ?_⟩
  · exact ⟨hprotocol, hseen, rfl, rfl⟩
  · rw [hinput]
    exact ReadProgress.fresh_framed
  · intro _
    have hneed : 0 < ReadProgress.fresh.receiver.need := by decide
    rw [hinput]
    refine ⟨ReadProgress.fresh_ok, hneed, [], ?_, ?_⟩
    · rw [hinput]
      rfl
    · rw [hinput]
      exact congrArg (Prod.mk _) hseen.symm

theorem Session.Tracks.pass {s : Session} {env : Environment} (henv : env ∈ envs)
    (h : s.Tracks maxBodySize streams reads envs) :
    (s.pass maxBodySize env).Tracks maxBodySize streams reads envs := by
  unfold Session.pass
  cases hclosed : s.closed with
  | true => exact h
  | false =>
      obtain ⟨hok, hneed, hread⟩ := h.progress hclosed
      refine ⟨managerIteration_follows h.follows henv hok hneed, ?_⟩
      intro hopen
      have hne : (managerIteration (serverHandlers env) maxBodySize s.conn).1 ≠ some 0 :=
        of_decide_eq_false hopen
      obtain ⟨hok', hneed'⟩ := managerIteration_progress_ok (serverHandlers env) hok hneed hne
      exact ⟨hok', hneed', managerIteration_hasRead hread hok hneed hne⟩

end Tracks

/-- **The session loop makes runs**: after any number of passes, under any reads and any answers to
its writes, the connection is at a run of the server, whose frames are, as long as the session is
open, the first frames of the bytes the client sent. -/
theorem session_isRun (maxBodySize : Nat) (streams : Nat → StreamRest) (reads : List ReadEvent)
    (writes : List WriteOutcome) (envs : List Environment) :
    let s := runSteps (Session.pass maxBodySize) (.new streams reads writes) envs
    ∃ (is : List Run.Input) (calls : List (EmitCall × WriteOutcome)),
      (∀ i ∈ is, i.environment ∈ envs) ∧
      s.conn.At (runSteps Run.step (.fresh streams) is) calls ∧
      (s.closed = false → s.conn.seen <+: ((Receiver.preface 0).feedAll
        (maxAllowedPayload maxBodySize) (bytesOf (atomsOf reads))).2) := by
  intro s
  have htracks : s.Tracks maxBodySize streams reads envs :=
    runSteps_induction (Session.tracks_new writes) (fun env henv s h => h.pass henv)
  obtain ⟨is, calls, henv, hat⟩ := htracks.follows.isRun
  refine ⟨is, calls, henv, hat, ?_⟩
  intro hopen
  obtain ⟨-, -, as, hatoms, hfeed⟩ := htracks.progress hopen
  rw [hatoms, bytesOf_append, Receiver.feedAll_append, hfeed]
  exact List.prefix_append _ _

end Halmos.Http2
