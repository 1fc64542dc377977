import Halmos.Http2.Input
import Halmos.Http2.Session

set_option autoImplicit false

/-! # The session loop

`http2_manager_session` of `halmos_http2_manager.c`. One pass of its loop flushes the write
backlog, then makes at most one read for each of the preface, the frame header and the payload,
and dispatches the frame if it is complete. `managerIteration` is one pass; it either returns
one of the codes `0` (close), `1`, `2` (wait for input), `4` (wait for input or output), or
goes on.

`managerIteration_iterates` says what a pass does in terms of the receiver: it consumes some
bytes and sees the frames they complete, and then goes on, waits, spins or dies (`Ends`).
-/

namespace Halmos.Http2

/-- A connection: the session, what its socket will answer, and the frames `dispatch_frame`
has been handed so far. A script of writes that has run out is a socket that takes everything
offered. -/
structure Conn (ρ : Type) where
  side : WriteSide
  input : Input
  protocol : ProtocolState ρ
  writes : List WriteOutcome
  seen : List HTTP2Frame

section Loop

variable {ρ : Type}

/-- The socket's answer to the next write, of `len` bytes, and the answers after it. -/
def nextWrite (len : Nat) : List WriteOutcome → WriteOutcome × List WriteOutcome
  | [] => (⟨.accepted len, true⟩, [])
  | o :: os => (o, os)

/-- One emission. -/
def Conn.emit (c : Conn ρ) (e : Emission) : Conn ρ :=
  let r := nextWrite e.bytes.length c.writes
  { c with side := c.side.emit e r.1, writes := r.2 }

/-- The emissions of a handler, in order. -/
def Conn.emitAll (c : Conn ρ) (es : List Emission) : Conn ρ := es.foldl Conn.emit c

/-- The flush at the head of the loop. -/
def Conn.flushPendingWrite (c : Conn ρ) : Int × Conn ρ :=
  let b := c.side.backlog
  let r := nextWrite (b.pendingWriteLen - b.pendingWriteOffset) c.writes
  ((http2SocketFlushPendingWrite r.1.write b).1,
    { c with side := c.side.call (.flushPendingWrite, r.1), writes := r.2 })

/-- A backlog or an active stream waits for the socket to become writable. -/
def Conn.needWrite (c : Conn ρ) : Bool :=
  decide c.side.backlog.hasPending || http2ResponseHasActiveStreams c.protocol

/-- `http2_response_flush_active_streams` on the connection. -/
def Conn.flushActiveStreams (H : StreamHandlers ρ) (c : Conn ρ) : Conn ρ :=
  let r := http2ResponseFlushActiveStreams H c.protocol
  { c with protocol := r.1 }.emitAll r.2

/-- `dispatch_frame` on the connection. -/
def Conn.dispatchFrame (H : StreamHandlers ρ) (c : Conn ρ) : Nat × Conn ρ :=
  let p := c.input.progress
  let r := Http2.dispatchFrame H c.protocol p.currentFrameHead p.payloadBuf
  let c := { c with protocol := r.2.1, seen := c.seen ++ [p.frame] }.emitAll r.2.2
  if r.1 = 0 then (0, c) else (1, { c with input := ⟨p.nextFrame, c.input.reads⟩ })

/-- The end of the loop's body: the payload is read, and a complete frame dispatched. -/
def managerPayload (H : StreamHandlers ρ) (c : Conn ρ) : Option Nat × Conn ρ :=
  let r := readFramePayload c.needWrite c.input
  let c := { c with input := r.2 }
  if r.1 = 0 then (some 0, c)
  else if r.1 = 2 then (none, c)
  else if r.1 = 4 then (some 4, c)
  else
    let d := c.dispatchFrame H
    if d.1 = 0 then (some 0, d.2) else (none, d.2)

/-- The middle of the loop's body: active streams are flushed, and the frame header is read. -/
def managerHeader (H : StreamHandlers ρ) (maxBodySize : Nat) (c : Conn ρ) :
    Option Nat × Conn ρ :=
  let c := c.flushActiveStreams H
  let r := readFrameHeader maxBodySize c.needWrite c.input
  let c := { c with input := r.2 }
  if r.1 = 0 then (some 0, c)
  else if r.1 = 2 ∨ r.1 = 4 then (some r.1, c)
  else if c.input.progress.readState = .header then (none, c)
  else managerPayload H c

/-- The loop's body from the preface on. -/
def managerPreface (H : StreamHandlers ρ) (maxBodySize : Nat) (c : Conn ρ) :
    Option Nat × Conn ρ :=
  let r := processPreface c.needWrite c.input
  let c := { c with input := r.2 }
  if r.1 = 0 then (some 0, c)
  else if r.1 = 2 ∨ r.1 = 4 then (some r.1, c)
  else if r.1 = 1 ∧ c.input.progress.prefaceBytesRead < 24 then (none, c)
  else managerHeader H maxBodySize c

/-- One pass of the loop of `http2_manager_session`: `some` code is a return. -/
def managerIteration (H : StreamHandlers ρ) (maxBodySize : Nat) (c : Conn ρ) :
    Option Nat × Conn ρ :=
  if c.side.backlog.writeError then (some 0, c)
  else if c.side.backlog.hasPending then
    let r := c.flushPendingWrite
    if r.1 < 0 then (some 0, r.2)
    else if r.1 > 0 then (some 4, r.2)
    else managerPreface H maxBodySize r.2
  else managerPreface H maxBodySize c

/-- `http2_manager_session` after `session_init`, for at most `fuel` passes; `none` means that
it has not returned yet. -/
def http2ManagerSession (H : StreamHandlers ρ) (maxBodySize : Nat) :
    Nat → Conn ρ → Option (Nat × Conn ρ)
  | 0, _ => none
  | fuel + 1, c =>
      match managerIteration H maxBodySize c with
      | (some code, c') => some (code, c')
      | (none, c') => http2ManagerSession H maxBodySize fuel c'

/-- `session_init`: a new session announces its settings. -/
def sessionInit (rest : ρ) (reads : List ReadEvent) (writes : List WriteOutcome) : Conn ρ :=
  (⟨.fresh, ⟨.fresh, reads⟩, .fresh rest, writes, []⟩ : Conn ρ).emitAll http2FrameSendSettings

/-- The connections a session can come to: a new one, one more pass that does not close it, and
any new scripts for its socket. -/
inductive Conn.Reachable (H : StreamHandlers ρ) (maxBodySize : Nat) : Conn ρ → Prop where
  | init (rest : ρ) (reads : List ReadEvent) (writes : List WriteOutcome) :
      Reachable H maxBodySize (sessionInit rest reads writes)
  | iterate (c : Conn ρ) : Reachable H maxBodySize c →
      (managerIteration H maxBodySize c).1 ≠ some 0 →
      Reachable H maxBodySize (managerIteration H maxBodySize c).2
  | socket (c : Conn ρ) (reads : List ReadEvent) (writes : List WriteOutcome) :
      Reachable H maxBodySize c →
      Reachable H maxBodySize { c with input := ⟨c.input.progress, reads⟩, writes := writes }

/-! ## Emissions leave the read side alone -/

@[simp] theorem Conn.emit_input (c : Conn ρ) (e : Emission) : (c.emit e).input = c.input := rfl

@[simp] theorem Conn.emit_protocol (c : Conn ρ) (e : Emission) :
    (c.emit e).protocol = c.protocol := rfl

@[simp] theorem Conn.emit_seen (c : Conn ρ) (e : Emission) : (c.emit e).seen = c.seen := rfl

theorem Conn.emitAll_frame (c : Conn ρ) (es : List Emission) :
    (c.emitAll es).input = c.input ∧ (c.emitAll es).protocol = c.protocol ∧
    (c.emitAll es).seen = c.seen := by
  induction es generalizing c with
  | nil => exact ⟨rfl, rfl, rfl⟩
  | cons e es ih => exact ih (c.emit e)

@[simp] theorem Conn.flushActiveStreams_input (H : StreamHandlers ρ) (c : Conn ρ) :
    (c.flushActiveStreams H).input = c.input := (Conn.emitAll_frame _ _).1

@[simp] theorem Conn.flushActiveStreams_seen (H : StreamHandlers ρ) (c : Conn ρ) :
    (c.flushActiveStreams H).seen = c.seen := (Conn.emitAll_frame _ _).2.2

theorem Conn.flushActiveStreams_of_inactive (H : StreamHandlers ρ) {c : Conn ρ}
    (h : http2ResponseHasActiveStreams c.protocol = false) : c.flushActiveStreams H = c := by
  unfold Conn.flushActiveStreams
  rw [http2ResponseFlushActiveStreams_of_inactive H h]
  rfl

/-! ## A socket that takes every write -/

/-- The socket takes every write, nothing is pending and no write has failed. -/
structure Conn.Settled (c : Conn ρ) : Prop where
  writes : c.writes = []
  not_pending : ¬ c.side.backlog.hasPending
  no_error : c.side.backlog.writeError = false

theorem Conn.Settled.emit {c : Conn ρ} (h : c.Settled) (e : Emission) : (c.emit e).Settled := by
  obtain ⟨hw, hp, he⟩ := h
  have hback : (c.emit e).side.backlog = c.side.backlog := by
    unfold Conn.emit
    rw [hw]
    cases e with
    | direct bytes => rfl
    | buffered bytes =>
        unfold WriteBacklog.hasPending at hp
        simp only [nextWrite, WriteSide.emit, Emission.bytes, http2SocketWriteOrBuffer]
        by_cases hlen : bytes.length = 0
        · rw [if_pos hlen]
        · rw [if_neg hlen, if_pos (by omega)]
          simp
  refine ⟨?_, by rwa [hback], by rwa [hback]⟩
  unfold Conn.emit
  rw [hw]
  rfl

theorem Conn.Settled.emitAll {c : Conn ρ} (h : c.Settled) (es : List Emission) :
    (c.emitAll es).Settled := by
  induction es generalizing c with
  | nil => exact h
  | cons e es ih => exact ih (h.emit e)

theorem Conn.Settled.flushActiveStreams {c : Conn ρ} (h : c.Settled) (H : StreamHandlers ρ) :
    (c.flushActiveStreams H).Settled := by
  refine Conn.Settled.emitAll ?_ _
  exact ⟨h.writes, h.not_pending, h.no_error⟩

theorem Conn.Settled.needWrite {c : Conn ρ} (h : c.Settled)
    (hq : http2ResponseHasActiveStreams c.protocol = false) : c.needWrite = false := by
  unfold Conn.needWrite
  rw [hq, decide_eq_false h.not_pending]
  rfl

/-- With every write accepted, the flush at the head of the loop empties the backlog. -/
theorem managerIteration_of_accepting (H : StreamHandlers ρ) (maxBodySize : Nat) {c : Conn ρ}
    (hw : c.writes = []) (he : c.side.backlog.writeError = false) :
    ∃ c' : Conn ρ, c'.Settled ∧ c'.input = c.input ∧ c'.protocol = c.protocol ∧
      c'.seen = c.seen ∧ managerIteration H maxBodySize c = managerPreface H maxBodySize c' := by
  unfold managerIteration
  rw [he]
  by_cases hp : c.side.backlog.hasPending
  · have hflush : http2SocketFlushPendingWrite
        (.accepted (c.side.backlog.pendingWriteLen - c.side.backlog.pendingWriteOffset))
        c.side.backlog
        = (0, { c.side.backlog with
            pendingWriteBuf := [], pendingWriteLen := 0, pendingWriteOffset := 0 },
          c.side.backlog.unsent.take
            (c.side.backlog.pendingWriteLen - c.side.backlog.pendingWriteOffset)) := by
      unfold WriteBacklog.hasPending at hp
      unfold http2SocketFlushPendingWrite
      simp only [Nat.min_self]
      rw [if_neg (by omega), if_neg (by omega), if_pos (by omega)]
    have hzero : c.flushPendingWrite.1 = 0 := by
      unfold Conn.flushPendingWrite
      rw [hw]
      simp only [nextWrite, hflush]
    have hside : c.flushPendingWrite.2.side.backlog = { c.side.backlog with
        pendingWriteBuf := [], pendingWriteLen := 0, pendingWriteOffset := 0 } := by
      unfold Conn.flushPendingWrite
      rw [hw]
      simp only [nextWrite, WriteSide.call, hflush]
    refine ⟨c.flushPendingWrite.2, ⟨?_, ?_, ?_⟩, rfl, rfl, rfl, ?_⟩
    · unfold Conn.flushPendingWrite
      rw [hw]
      rfl
    · rw [hside]
      exact Nat.lt_irrefl 0
    · rw [hside]
      exact he
    · simp [hp, hzero]
  · exact ⟨c, ⟨hw, hp, he⟩, rfl, rfl, rfl, by simp [hp]⟩

theorem sessionInit_settled (rest : ρ) (reads : List ReadEvent) :
    (sessionInit rest reads []).Settled := by
  refine Conn.Settled.emitAll ?_ _
  exact ⟨rfl, Nat.lt_irrefl 0, rfl⟩

/-! ## What a pass does to the read side -/

/-- Bytes `bs` are taken from the script, completing `frames`; the receiver is left waiting
for more. -/
structure Consumes (maxLen : Nat) (i : Input) (bs : List UInt8) (frames : List HTTP2Frame)
    (i' : Input) : Prop where
  atoms : i.atoms = bs.map .byte ++ i'.atoms
  feeds : i.progress.receiver.feedAll maxLen bs = (i'.progress.receiver, frames)
  ok : i'.progress.Ok
  need_pos : 0 < i'.progress.receiver.need

/-- The script holds bytes that close the connection, or the connection is lost after some
bytes. -/
def Input.Dead (maxLen : Nat) (i : Input) : Prop :=
  ∃ bs as, i.atoms = bs.map .byte ++ as ∧
    ((i.progress.receiver.feedAll maxLen bs).1 = .closed ∨ ∃ as', as = .closed :: as')

/-- How a pass ends that has consumed `bs` and come to `m`: it goes on, it returns to wait for
the socket, it goes on although there is nothing to read, or the connection is closed. -/
inductive Ends (maxLen : Nat) (bs : List UInt8) (m : Input) : Option Nat → Input → Prop where
  | goesOn : bs ≠ [] → Ends maxLen bs m none m
  | waits (code : Nat) (i' : Input) : Blocks m.atoms i'.atoms → i'.progress = m.progress →
      code ≠ 0 → (m.progress.receiver.InPayload → code = 4) → Ends maxLen bs m (some code) i'
  | spins (i' : Input) : Blocks m.atoms i'.atoms → i'.progress = m.progress →
      m.progress.receiver.InPayload → Ends maxLen bs m none i'
  | dies (i' : Input) : m.Dead maxLen → Ends maxLen bs m (some 0) i'

/-- What the rest `r` of a pass does from the connection `c` on. -/
structure Iterates (maxLen : Nat) (c : Conn ρ) (r : Option Nat × Conn ρ) : Prop where
  reads : ∃ bs frames m, Consumes maxLen c.input bs frames m ∧
    Ends maxLen bs m r.1 r.2.input ∧ (r.1 ≠ some 0 → r.2.seen = c.seen ++ frames)
  settled : c.Settled → r.1 ≠ some 0 → r.2.Settled
  inactive : c.Settled → http2ResponseHasActiveStreams c.protocol = false → r.1 ≠ some 4

variable {maxLen maxBodySize : Nat}

theorem Consumes.refl {i : Input} (hok : i.progress.Ok) (hneed : 0 < i.progress.receiver.need) :
    Consumes maxLen i [] [] i :=
  ⟨rfl, rfl, hok, hneed⟩

theorem Consumes.trans {i i' i'' : Input} {bs cs : List UInt8} {fs gs : List HTTP2Frame}
    (h : Consumes maxLen i bs fs i') (h' : Consumes maxLen i' cs gs i'') :
    Consumes maxLen i (bs ++ cs) (fs ++ gs) i'' := by
  refine ⟨?_, ?_, h'.ok, h'.need_pos⟩
  · rw [h.atoms, h'.atoms, List.map_append, List.append_assoc]
  · rw [Receiver.feedAll_append, h.feeds]
    simp only
    rw [h'.feeds]

theorem Ends.mono {bs cs : List UInt8} {m i' : Input} {code : Option Nat}
    (h : Ends maxLen cs m code i') : Ends maxLen (bs ++ cs) m code i' := by
  cases h with
  | goesOn hne => exact .goesOn (by simp [hne])
  | waits code _ hblocks hprog hcode hpay => exact .waits code _ hblocks hprog hcode hpay
  | spins _ hblocks hprog hpay => exact .spins _ hblocks hprog hpay
  | dies _ hdead => exact .dies _ hdead

/-- The rest of a pass, after a stage that has consumed bytes. -/
theorem Iterates.after {c c' : Conn ρ} {r : Option Nat × Conn ρ} {bs : List UInt8}
    {frames : List HTTP2Frame} (h : Iterates maxLen c' r)
    (hcons : Consumes maxLen c.input bs frames c'.input)
    (hseen : c'.seen = c.seen ++ frames) (hprot : c'.protocol = c.protocol)
    (hset : c.Settled → c'.Settled) : Iterates maxLen c r := by
  obtain ⟨⟨cs, gs, m, hcons', hends, hseen'⟩, hsettled, hinactive⟩ := h
  refine ⟨⟨bs ++ cs, frames ++ gs, m, hcons.trans hcons', hends.mono, fun hne => ?_⟩,
    fun hs => hsettled (hset hs), fun hs hq => hinactive (hset hs) (hprot ▸ hq)⟩
  rw [hseen' hne, hseen, List.append_assoc]

/-- A pass that ends here. -/
theorem Iterates.of_ends {c : Conn ρ} {r : Option Nat × Conn ρ} (hok : c.input.progress.Ok)
    (hneed : 0 < c.input.progress.receiver.need) (hends : Ends maxLen [] c.input r.1 r.2.input)
    (hseen : r.2.seen = c.seen) (hset : c.Settled → r.2.Settled)
    (hfour : c.Settled → http2ResponseHasActiveStreams c.protocol = false → r.1 ≠ some 4) :
    Iterates maxLen c r :=
  ⟨⟨[], [], c.input, Consumes.refl hok hneed, hends, fun _ => by simp [hseen]⟩,
    fun hs _ => hset hs, hfour⟩

/-! ## The pass, stage by stage -/

theorem handleSocketRetry_ne_zero (needWrite : Bool) : handleSocketRetry needWrite ≠ 0 := by
  cases needWrite <;> decide

/-- Any frame but GOAWAY is handed on, and the session reads the next one. -/
theorem Conn.dispatchFrame_spec (H : StreamHandlers ρ) (c : Conn ρ)
    (h : c.input.progress.currentFrameHead.type ≠ 0x07) :
    (c.dispatchFrame H).1 = 1 ∧
    (c.dispatchFrame H).2.input = ⟨c.input.progress.nextFrame, c.input.reads⟩ ∧
    (c.dispatchFrame H).2.seen = c.seen ++ [c.input.progress.frame] ∧
    (c.Settled → (c.dispatchFrame H).2.Settled) := by
  have hone : (Http2.dispatchFrame H c.protocol c.input.progress.currentFrameHead
      c.input.progress.payloadBuf).1 = 1 := by
    rw [dispatchFrame_fst, if_neg h]
  unfold Conn.dispatchFrame
  simp only
  rw [if_neg (by rw [hone]; decide)]
  refine ⟨rfl, ?_, ?_, fun hs => ?_⟩
  · exact congrArg (Input.mk _ ∘ Input.reads) (Conn.emitAll_frame _ _).1
  · exact (Conn.emitAll_frame _ _).2.2
  · have hall := Conn.Settled.emitAll
      (c := { c with
        protocol := (Http2.dispatchFrame H c.protocol c.input.progress.currentFrameHead
          c.input.progress.payloadBuf).2.1
        seen := c.seen ++ [c.input.progress.frame] })
      ⟨hs.writes, hs.not_pending, hs.no_error⟩
      (Http2.dispatchFrame H c.protocol c.input.progress.currentFrameHead
        c.input.progress.payloadBuf).2.2
    exact ⟨hall.writes, hall.not_pending, hall.no_error⟩

theorem Conn.dispatchFrame_goaway (H : StreamHandlers ρ) (c : Conn ρ)
    (h : c.input.progress.currentFrameHead.type = 0x07) : (c.dispatchFrame H).1 = 0 := by
  have hzero : (Http2.dispatchFrame H c.protocol c.input.progress.currentFrameHead
      c.input.progress.payloadBuf).1 = 0 := by
    rw [dispatchFrame_fst, if_pos h]
  unfold Conn.dispatchFrame
  simp only
  rw [if_pos hzero]

/-- A complete frame: the stage that completed it took `bs`, and it is dispatched. -/
theorem dispatchFrame_iterates (H : StreamHandlers ρ) {c : Conn ρ} {i : Input}
    {bs : List UInt8} (hok : c.input.progress.Ok) (hne : bs ≠ []) (hle : bs.length ≤ c.input.progress.receiver.need)
    (hatoms : c.input.atoms = bs.map .byte ++ i.atoms)
    (hpref : 24 ≤ i.progress.prefaceBytesRead) (hs : i.progress.readState = .payload)
    (hdone : i.progress.receiver.need = 0)
    (hrx : i.progress.receiver = c.input.progress.receiver.absorb maxLen bs) :
    let d := { c with input := i }.dispatchFrame H
    Iterates maxLen c (if d.1 = 0 then (some 0, d.2) else (none, d.2)) := by
  have hpay := ReadProgress.receiver_payload hpref hs
  have hlen : ¬ (i.progress.payloadBuf.getD []).length < i.progress.currentFrameHead.length := by
    rw [hpay, Receiver.need] at hdone
    omega
  have hfeed : c.input.progress.receiver.feedAll maxLen bs
      = (if i.progress.currentFrameHead.type = 0x07 then .closed else .header [],
        [i.progress.frame]) := by
    rw [Receiver.feedAll_of_le_need hne hle, ← hrx, hpay, Receiver.settle, if_neg hlen]
    rfl
  intro d
  by_cases htype : i.progress.currentFrameHead.type = 0x07
  · -- GOAWAY
    have hd : d.1 = 0 := Conn.dispatchFrame_goaway H { c with input := i } htype
    rw [if_pos hd]
    rw [if_pos htype] at hfeed
    have hpos := List.length_pos_iff.mpr hne
    refine ⟨⟨[], [], c.input, Consumes.refl hok (by omega), .dies _ ⟨bs, i.atoms, hatoms, ?_⟩,
      fun h0 => absurd rfl h0⟩, fun _ h0 => absurd rfl h0, fun _ _ => by simp⟩
    rw [hfeed]
    exact Or.inl rfl
  · obtain ⟨hd, hinput, hseen, hset⟩ :=
      Conn.dispatchFrame_spec H { c with input := i } htype
    rw [if_neg (show ¬ d.1 = 0 by rw [hd]; decide)]
    rw [if_neg htype] at hfeed
    obtain ⟨hok', hrx'⟩ := ReadProgress.nextFrame_spec hpref
    refine ⟨⟨bs, [i.progress.frame], d.2.input, ⟨?_, ?_, ?_, ?_⟩, .goesOn hne, fun _ => hseen⟩,
      fun hs _ => hset ⟨hs.writes, hs.not_pending, hs.no_error⟩, fun _ _ => by simp⟩
    · rw [hatoms, hinput]
      rfl
    · rw [hfeed, hinput, hrx']
    · rw [hinput]
      exact hok'
    · rw [hinput, hrx']
      decide

variable (maxLen) in
/-- A stage that would block, or finds the connection closed, ends the pass. -/
theorem Iterates.of_blocked {c : Conn ρ} {i : Input} (hok : c.input.progress.Ok)
    (hneed : 0 < c.input.progress.receiver.need) (hblocks : Blocks c.input.atoms i.atoms)
    (hprog : i.progress = c.input.progress) (hout : ¬ c.input.progress.receiver.InPayload) :
    Iterates maxLen c (some (handleSocketRetry c.needWrite), { c with input := i }) := by
  refine Iterates.of_ends hok hneed (.waits _ _ hblocks hprog (handleSocketRetry_ne_zero _)
    (fun hin => absurd hin hout)) rfl (fun hs => ⟨hs.writes, hs.not_pending, hs.no_error⟩)
    (fun hs hq => ?_)
  rw [hs.needWrite hq]
  simp [handleSocketRetry]

theorem Iterates.of_dead {c c' : Conn ρ} (hok : c.input.progress.Ok)
    (hneed : 0 < c.input.progress.receiver.need) (hdead : c.input.Dead maxLen) :
    Iterates maxLen c (some 0, c') :=
  ⟨⟨[], [], c.input, Consumes.refl hok hneed, .dies _ hdead, fun h0 => absurd rfl h0⟩,
    fun _ h0 => absurd rfl h0, fun _ _ => by simp⟩

theorem Input.Dead.of_lost {i : Input} {as : List Atom} (h : i.atoms = .closed :: as) :
    i.Dead maxLen :=
  ⟨[], .closed :: as, h, Or.inr ⟨as, rfl⟩⟩

theorem Input.Dead.of_refused {i i' : Input} {bs : List UInt8} (hne : bs ≠ [])
    (hle : bs.length ≤ i.progress.receiver.need) (hatoms : i.atoms = bs.map .byte ++ i'.atoms)
    (hclosed : i.progress.receiver.absorb maxLen bs = .closed) : i.Dead maxLen := by
  refine ⟨bs, i'.atoms, hatoms, Or.inl ?_⟩
  rw [Receiver.feedAll_of_le_need hne hle, hclosed]
  rfl

/-- Bytes that complete nothing. -/
theorem Consumes.of_took {i i' : Input} {bs : List UInt8} (hne : bs ≠ [])
    (hle : bs.length ≤ i.progress.receiver.need) (hatoms : i.atoms = bs.map .byte ++ i'.atoms)
    (hok : i'.progress.Ok) (hrx : i'.progress.receiver = i.progress.receiver.absorb maxLen bs)
    (hneed : 0 < i'.progress.receiver.need) : Consumes maxLen i bs [] i' := by
  refine ⟨hatoms, ?_, hok, hneed⟩
  rw [Receiver.feedAll_of_le_need hne hle, ← hrx, Receiver.settle_of_need_pos hneed]

theorem Iterates.of_consumed {c : Conn ρ} {i : Input} {bs : List UInt8} (hne : bs ≠ [])
    (hcons : Consumes maxLen c.input bs [] i) :
    Iterates maxLen c (none, { c with input := i }) :=
  ⟨⟨bs, [], i, hcons, .goesOn hne, fun _ => (List.append_nil _).symm⟩,
    fun hs _ => ⟨hs.writes, hs.not_pending, hs.no_error⟩, fun _ _ => by simp⟩

variable (maxLen) in
theorem managerPayload_iterates (H : StreamHandlers ρ) {c : Conn ρ}
    (hok : c.input.progress.Ok) (hpref : 24 ≤ c.input.progress.prefaceBytesRead)
    (hs : c.input.progress.readState = .payload)
    (hneed : 0 < c.input.progress.receiver.need) :
    Iterates maxLen c (managerPayload H c) := by
  have hpay := ReadProgress.receiver_payload hpref hs
  have hin : c.input.progress.receiver.InPayload := by
    rw [hpay]
    trivial
  have hstage := readFramePayload_stage maxLen c.needWrite
    hok hpref hs hneed
  unfold managerPayload
  generalize readFramePayload c.needWrite c.input = r at hstage ⊢
  cases hstage with
  | took bs i hne hle hatoms hok' hrx =>
      by_cases hmore : 0 < i.progress.receiver.need
      · simp only [hin, hmore, and_self, if_true]
        exact Iterates.of_consumed hne (Consumes.of_took hne hle hatoms hok' hrx hmore)
      · have hrx' := hrx
        rw [hpay, Receiver.absorb] at hrx'
        obtain ⟨hpref', hs'⟩ := ReadProgress.of_receiver_payload hrx'
        simp only [hmore, and_false, if_false]
        exact dispatchFrame_iterates H hok hne hle hatoms hpref' hs'
          (Nat.eq_zero_of_not_pos hmore) hrx
  | refused bs i hne hle hatoms hclosed =>
      exact Iterates.of_dead hok hneed (Input.Dead.of_refused hne hle hatoms hclosed)
  | blocked i hblocks hprog =>
      -- the driver goes on at the code 2, although nothing could be read
      cases hnw : c.needWrite with
      | false =>
          refine Iterates.of_ends hok hneed (.spins i hblocks hprog hin) rfl
            (fun hset => ⟨hset.writes, hset.not_pending, hset.no_error⟩) (fun _ _ => ?_)
          simp [handleSocketRetry]
      | true =>
          refine Iterates.of_ends hok hneed (.waits 4 i hblocks hprog (by decide) (fun _ => rfl))
            rfl (fun hset => ⟨hset.writes, hset.not_pending, hset.no_error⟩) (fun hset hq => ?_)
          rw [hset.needWrite hq] at hnw
          cases hnw
  | lost as i hatoms => exact Iterates.of_dead hok hneed (Input.Dead.of_lost hatoms)

variable (maxBodySize) in
/-- The pass after the flush of the active streams. -/
theorem managerHeader_iterates_of_flushed (H : StreamHandlers ρ) {c : Conn ρ}
    (hok : c.input.progress.Ok) (hpref : 24 ≤ c.input.progress.prefaceBytesRead)
    (hneed : 0 < c.input.progress.receiver.need) :
    let r := readFrameHeader maxBodySize c.needWrite c.input
    let c' := { c with input := r.2 }
    Iterates (maxAllowedPayload maxBodySize) c
      (if r.1 = 0 then (some 0, c')
      else if r.1 = 2 ∨ r.1 = 4 then (some r.1, c')
      else if c'.input.progress.readState = .header then (none, c')
      else managerPayload H c') := by
  dsimp only
  cases hs : c.input.progress.readState with
  | payload =>
      rw [readFrameHeader_skip hs]
      simpa [hs] using managerPayload_iterates _ H hok hpref hs hneed
  | header =>
      have hhead := ReadProgress.receiver_header hpref hs
      have hout : ¬ c.input.progress.receiver.InPayload := by
        rw [hhead]
        exact id
      have hstage := readFrameHeader_stage maxBodySize c.needWrite hok hpref hs
      generalize readFrameHeader maxBodySize c.needWrite c.input = r at hstage ⊢
      cases hstage with
      | took bs i hne hle hatoms hoki hrx =>
          simp only [hout, false_and, if_false]
          cases hsi : i.progress.readState with
          | header =>
              have hpos := hoki.need_pos_of_header hsi
              simpa [hsi] using
                Iterates.of_consumed hne (Consumes.of_took hne hle hatoms hoki hrx hpos)
          | payload =>
              have hprefi : 24 ≤ i.progress.prefaceBytesRead := hoki.preface_of_payload hsi
              simp only [Nat.one_ne_zero, if_false]
              by_cases hpos : 0 < i.progress.receiver.need
              · have hcons := Consumes.of_took hne hle hatoms hoki hrx hpos
                have hrest := managerPayload_iterates (maxAllowedPayload maxBodySize)
                  H (c := { c with input := i }) hoki hprefi hsi hpos
                simpa using hrest.after hcons (List.append_nil _).symm rfl
                  (fun hset => ⟨hset.writes, hset.not_pending, hset.no_error⟩)
              · -- a frame without payload is complete with its header
                have hpay := ReadProgress.receiver_payload hprefi hsi
                have hnil : i.progress.payloadBuf.getD [] = [] :=
                  Receiver.absorb_header_payload (hhead ▸ hrx.symm.trans hpay)
                have hlen : i.progress.currentFrameHead.length = 0 := by
                  rw [hpay, Receiver.need, hnil] at hpos
                  simpa using hpos
                have hskip := readFramePayload_skip c.needWrite hsi hlen
                have hdone := dispatchFrame_iterates H hok hne hle hatoms hprefi hsi
                  (Nat.eq_zero_of_not_pos hpos) hrx
                have heq : managerPayload H { c with input := i }
                    = if (Conn.dispatchFrame H { c with input := i }).1 = 0 then
                        (some 0, (Conn.dispatchFrame H { c with input := i }).2)
                      else (none, (Conn.dispatchFrame H { c with input := i }).2) := by
                  unfold managerPayload
                  rw [show Conn.needWrite { c with input := i } = c.needWrite from rfl, hskip]
                  rfl
                rw [heq]
                exact hdone
      | refused bs i hne hle hatoms hclosed =>
          exact Iterates.of_dead hok hneed (Input.Dead.of_refused hne hle hatoms hclosed)
      | blocked i hblocks hprog =>
          have hblocked := Iterates.of_blocked (maxAllowedPayload maxBodySize)
            hok hneed hblocks hprog hout
          cases hnw : c.needWrite <;> rw [hnw] at hblocked <;> exact hblocked
      | lost as i hatoms => exact Iterates.of_dead hok hneed (Input.Dead.of_lost hatoms)

variable (maxBodySize) in
theorem managerHeader_iterates (H : StreamHandlers ρ) {c : Conn ρ}
    (hok : c.input.progress.Ok) (hpref : 24 ≤ c.input.progress.prefaceBytesRead)
    (hneed : 0 < c.input.progress.receiver.need) :
    Iterates (maxAllowedPayload maxBodySize) c (managerHeader H maxBodySize c) := by
  have hinput : (c.flushActiveStreams H).input = c.input := Conn.flushActiveStreams_input H c
  have hrest := managerHeader_iterates_of_flushed maxBodySize H
    (c := c.flushActiveStreams H) (by rwa [hinput]) (by rwa [hinput]) (by rwa [hinput])
  obtain ⟨⟨bs, frames, m, hcons, hends, hseen⟩, hset, hfour⟩ := hrest
  refine ⟨⟨bs, frames, m, hinput ▸ hcons, hends, fun h0 => ?_⟩,
    fun hs => hset (hs.flushActiveStreams H), fun hs hq => ?_⟩
  · rw [← Conn.flushActiveStreams_seen H c]
    exact hseen h0
  · exact hfour (hs.flushActiveStreams H)
      (by rw [Conn.flushActiveStreams_of_inactive H hq]; exact hq)

variable (maxBodySize) in
theorem managerPreface_iterates (H : StreamHandlers ρ) {c : Conn ρ}
    (hok : c.input.progress.Ok) (hneed : 0 < c.input.progress.receiver.need) :
    Iterates (maxAllowedPayload maxBodySize) c (managerPreface H maxBodySize c) := by
  unfold managerPreface
  dsimp only
  by_cases hpref : c.input.progress.prefaceBytesRead < 24
  · have hrxc := ReadProgress.receiver_preface hpref
    have hout : ¬ c.input.progress.receiver.InPayload := by
      rw [hrxc]
      exact id
    have hstage := processPreface_stage (maxAllowedPayload maxBodySize) c.needWrite hok hpref
    generalize processPreface c.needWrite c.input = r at hstage ⊢
    cases hstage with
    | took bs i hne hle hatoms hoki hrx =>
        simp only [hout, false_and, if_false]
        by_cases hmore : i.progress.prefaceBytesRead < 24
        · have hpos : 0 < i.progress.receiver.need := by
            rw [ReadProgress.receiver_preface hmore, Receiver.need]
            omega
          simpa [hmore] using
            Iterates.of_consumed hne (Consumes.of_took hne hle hatoms hoki hrx hpos)
        · -- the last byte of the preface: the pass goes on with the frame header
          have hrxi : i.progress.receiver = .header [] := by
            have habs := hrx
            rw [hrxc, Receiver.absorb] at habs
            split at habs
            · next hlt =>
                have hcon := ReadProgress.of_receiver_preface habs
                exact absurd hcon hmore
            · exact habs
          have hpos : 0 < i.progress.receiver.need := by
            rw [hrxi]
            decide
          have hrest := managerHeader_iterates maxBodySize H
            (c := { c with input := i }) hoki (Nat.le_of_not_lt hmore) hpos
          simpa [hmore] using hrest.after (Consumes.of_took hne hle hatoms hoki hrx hpos)
            (List.append_nil _).symm rfl
            (fun hset => ⟨hset.writes, hset.not_pending, hset.no_error⟩)
    | refused bs i hne hle hatoms hclosed =>
        exact Iterates.of_dead hok hneed (Input.Dead.of_refused hne hle hatoms hclosed)
    | blocked i hblocks hprog =>
        have hblocked := Iterates.of_blocked (maxAllowedPayload maxBodySize)
          hok hneed hblocks hprog hout
        cases hnw : c.needWrite <;> rw [hnw] at hblocked <;> exact hblocked
    | lost as i hatoms => exact Iterates.of_dead hok hneed (Input.Dead.of_lost hatoms)
  · have hge := Nat.le_of_not_lt hpref
    rw [processPreface_skip hge]
    simpa [hpref] using managerHeader_iterates maxBodySize H hok hge hneed

/-! ## Reachable connections -/

theorem sessionInit_input (rest : ρ) (reads : List ReadEvent) (writes : List WriteOutcome) :
    (sessionInit rest reads writes).input = ⟨.fresh, reads⟩ := (Conn.emitAll_frame _ _).1

/-- A pass that does not close the connection keeps the read side in order. -/
theorem Iterates.progress_ok {c : Conn ρ} {r : Option Nat × Conn ρ}
    (h : Iterates maxLen c r) (hne : r.1 ≠ some 0) :
    r.2.input.progress.Ok ∧ 0 < r.2.input.progress.receiver.need := by
  obtain ⟨⟨bs, frames, m, hcons, hends, -⟩, -, -⟩ := h
  have hm := And.intro hcons.ok hcons.need_pos
  generalize hr : r.1 = code at hends hne
  cases hends with
  | goesOn => exact hm
  | waits code _ _ hprog _ _ => rwa [hprog]
  | spins _ _ hprog _ => rwa [hprog]
  | dies => exact absurd rfl hne

theorem managerIteration_progress_ok (H : StreamHandlers ρ) {c : Conn ρ}
    (hok : c.input.progress.Ok) (hneed : 0 < c.input.progress.receiver.need)
    (hne : (managerIteration H maxBodySize c).1 ≠ some 0) :
    (managerIteration H maxBodySize c).2.input.progress.Ok ∧
    0 < (managerIteration H maxBodySize c).2.input.progress.receiver.need := by
  unfold managerIteration at hne ⊢
  by_cases he : c.side.backlog.writeError
  · rw [if_pos he] at hne
    exact absurd rfl hne
  · rw [if_neg he] at hne ⊢
    by_cases hp : c.side.backlog.hasPending
    · rw [if_pos hp] at hne ⊢
      dsimp only at hne ⊢
      split at hne
      · exact absurd rfl hne
      · next hnonneg =>
          rw [if_neg hnonneg]
          split at hne
          · next hleft =>
              rw [if_pos hleft]
              exact ⟨hok, hneed⟩
          · next hdone =>
              rw [if_neg hdone]
              exact (managerPreface_iterates maxBodySize H (c := c.flushPendingWrite.2) hok hneed).progress_ok
                hne
    · rw [if_neg hp] at hne ⊢
      exact (managerPreface_iterates maxBodySize H hok hneed).progress_ok hne

/-- **The invariant of the read side**: in every reachable connection the counters agree with
the buffers, and the session waits for at least one more byte. -/
theorem Conn.Reachable.progress_ok {H : StreamHandlers ρ} {c : Conn ρ}
    (h : c.Reachable H maxBodySize) :
    c.input.progress.Ok ∧ 0 < c.input.progress.receiver.need := by
  induction h with
  | init rest reads writes =>
      rw [sessionInit_input]
      have hneed : 0 < ReadProgress.fresh.receiver.need := by decide
      exact ⟨ReadProgress.fresh_ok, hneed⟩
  | iterate c _ hne ih => exact managerIteration_progress_ok H ih.1 ih.2 hne
  | socket c reads writes _ ih => exact ih

end Loop

end Halmos.Http2
