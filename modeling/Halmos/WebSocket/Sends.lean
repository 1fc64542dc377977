import Halmos.Http2.Socket
import Halmos.WebSocket.Frame
import Halmos.WebSocket.Outgoing

set_option autoImplicit false

/-! # The frames on the way to a client

Five paths write to the socket of a client over HTTP/1.1: messages that are published, broadcast
or private, the pings of the heartbeat and the pongs of the dispatcher. Each of them gives its frame
to one write and forgets what the write has left, also the one that is handed a pending frame. So
the client has a prefix of complete frames at all times, none begun before the one in front of it
has been sent, if and only if no write takes anything after one that has taken part of a frame
(`sends_run`).
-/

namespace Halmos.WebSocket

open Http2 (WriteResult)

/-! ## What a client reads -/

/-- A frame as RFC 6455 lets a server send it: unfragmented and unmasked. -/
structure ServerFrame where
  opcode : Nat
  payload : List UInt8
  opcode_lt : opcode < 16
  payload_lt : payload.length < 2 ^ 63
  control_le : 8 ≤ opcode → payload.length ≤ 125

/-- The length of a payload, in the shortest form that holds it. -/
def lengthBytes (n : Nat) : List UInt8 :=
  if n ≤ 125 then [UInt8.ofNat n]
  else if n ≤ 65535 then [126, byteAt n 8, byteAt n 0]
  else [127, byteAt n 56, byteAt n 48, byteAt n 40, byteAt n 32, byteAt n 24, byteAt n 16,
    byteAt n 8, byteAt n 0]

/-- The frame on the wire. -/
def ServerFrame.encode (f : ServerFrame) : List UInt8 :=
  UInt8.ofNat (0x80 ||| f.opcode) :: (lengthBytes f.payload.length ++ f.payload)

/-- A text frame. -/
def textFrame (text : List UInt8) (h : text.length < 2 ^ 63) : ServerFrame where
  opcode := wsOpText
  payload := text
  opcode_lt := by decide
  payload_lt := h
  control_le := fun hno => absurd hno (by decide)

/-- A control frame without payload. -/
def controlFrame (opcode : Nat) (h : opcode < 16) : ServerFrame where
  opcode := opcode
  payload := []
  opcode_lt := h
  payload_lt := by decide
  control_le := fun _ => Nat.zero_le _

/-! ## The senders -/

/-- `send` or `SSL_write`: the bytes that reach the client. -/
def writeTo (bytes : List UInt8) : WriteResult → List UInt8
  | .accepted n => bytes.take n
  | .wouldBlock | .hardError => []

/-- `ws_send_status_t`. -/
inductive WsSendStatus where
  | ok
  | retry
  | fatal
  deriving DecidableEq, Repr

/-- `ws_outgoing_frame_t`; `length` is the length of `data`. -/
structure WsOutgoingFrame where
  data : List UInt8
  offset : Nat
  deriving DecidableEq, Repr

/-- `ws_low_level_send_frame(sock_client, ssl, frame)`: its status, the frame afterwards and the
bytes that reach the client. -/
def wsLowLevelSendFrame (frame : WsOutgoingFrame) (r : WriteResult) :
    WsSendStatus × WsOutgoingFrame × List UInt8 :=
  let sent := writeTo (frame.data.drop frame.offset) r
  if sent = [] then (if r = .wouldBlock then .retry else .fatal, frame, [])
  else
    let frame := { frame with offset := frame.offset + sent.length }
    (if frame.offset < frame.data.length then .retry else .ok, frame, sent)

/-- The header `ws_system_send_text` writes in front of a text. -/
def textHeader (len : Nat) : List UInt8 :=
  if len ≤ 125 then [0x81, UInt8.ofNat len]
  else if len ≤ 65535 then [0x81, 126, byteAt len 8, byteAt len 0]
  else [0x81, 127, byteAt len 56, byteAt len 48, byteAt len 40, byteAt len 32, byteAt len 24,
    byteAt len 16, byteAt len 8, byteAt len 0]

/-- `ws_system_send_text(sock_client, ssl, text, len, &pending)`: its status, the pending frame
and the bytes that reach the client. -/
def wsSystemSendText (text : List UInt8) (r : WriteResult) :
    WsSendStatus × Option WsOutgoingFrame × List UInt8 :=
  let (status, frame, sent) := wsLowLevelSendFrame ⟨textHeader text.length ++ text, 0⟩ r
  (status, if status = .retry then some frame else none, sent)

/-- What is sent to a client over HTTP/1.1, with what the array on the stack holds and what the
write meets. A private message is one the server has received. -/
inductive ClientSend where
  | publish (frame : Buffer 4096) (message : List UInt8) (r : WriteResult)
  | broadcast (frame : Buffer 65535) (message : List UInt8) (r : WriteResult)
  | privateText (text : List UInt8) (h : text.length ≤ maxWsPayload) (r : WriteResult)
  | ping (r : WriteResult)
  | pong (r : WriteResult)

namespace ClientSend

/-- What the write meets. -/
def result : ClientSend → WriteResult
  | publish _ _ r | broadcast _ _ r | privateText _ _ r | ping r | pong r => r

/-- The bytes given to the write, none if there is no frame for the message. -/
def frame : ClientSend → Option (List UInt8)
  | publish frame message _ => (wsRegistrySendText frame message).map fun sent => sent.getD []
  | broadcast frame message _ => wsRegistryBroadcast frame message
  | privateText text _ _ => some (textHeader text.length ++ text)
  | ping _ => some [0x89, 0x00]
  | pong _ => some [0x8A, 0x00]

/-- The bytes that reach the client. The frame `ws_system_send_text` hands back is dropped by
`ws_system_on_message`. -/
def sent (e : ClientSend) : Option (List UInt8) :=
  match e with
  | privateText text _ r => some (wsSystemSendText text r).2.2
  | _ => e.frame.map fun frame => writeTo frame e.result

end ClientSend

/-! ## The frames are frames -/

theorem take_two {l : List UInt8} (h : 1 < l.length) (x y : UInt8) :
    ((l.set 0 x).set 1 y).take 2 = [x, y] := by
  match l, h with
  | _ :: _ :: l, _ => simp

theorem take_four {l : List UInt8} (h : 3 < l.length) (x y z w : UInt8) :
    ((((l.set 0 x).set 1 y).set 2 z).set 3 w).take 4 = [x, y, z, w] := by
  match l, h with
  | _ :: _ :: _ :: _ :: l, _ => simp

/-- The frame in the array has the header `ws_system_send_text` would write. -/
theorem wsSystemBuildFrame_bytes {n : Nat} {outFrame built : Buffer n} {message : List UInt8}
    {len : Nat} (h : wsSystemBuildFrame outFrame message = some (built, len)) :
    built.bytes.take len
      = if message.length ≤ 65535 then textHeader message.length ++ message else [] := by
  unfold wsSystemBuildFrame at h
  obtain ⟨first, hfirst, h⟩ := Option.bind_eq_some_iff.mp h
  obtain ⟨-, hfirst⟩ := Buffer.of_write hfirst
  have hlen := outFrame.length_eq
  split at h
  · next h125 =>
      obtain ⟨second, hsecond, h⟩ := Option.bind_eq_some_iff.mp h
      obtain ⟨hn, hsecond⟩ := Buffer.of_write hsecond
      obtain ⟨all, hall, h⟩ := Option.bind_eq_some_iff.mp h
      obtain ⟨rfl, rfl⟩ : all = built ∧ 2 + message.length = len := by simpa using h
      rw [Buffer.of_copy hall, hsecond, hfirst, take_two (by omega), if_pos (by omega), textHeader,
        if_pos h125]
  · next h125 =>
      split at h
      · next h64k =>
          obtain ⟨second, hsecond, h⟩ := Option.bind_eq_some_iff.mp h
          obtain ⟨third, hthird, h⟩ := Option.bind_eq_some_iff.mp h
          obtain ⟨fourth, hfourth, h⟩ := Option.bind_eq_some_iff.mp h
          obtain ⟨-, hsecond⟩ := Buffer.of_write hsecond
          obtain ⟨-, hthird⟩ := Buffer.of_write hthird
          obtain ⟨hn, hfourth⟩ := Buffer.of_write hfourth
          obtain ⟨all, hall, h⟩ := Option.bind_eq_some_iff.mp h
          obtain ⟨rfl, rfl⟩ : all = built ∧ 4 + message.length = len := by simpa using h
          rw [Buffer.of_copy hall, hfourth, hthird, hsecond, hfirst, take_four (by omega),
            if_pos h64k, textHeader, if_neg h125, if_pos h64k]
      · next h64k =>
          obtain ⟨rfl, rfl⟩ : first = built ∧ 0 = len := by simpa using h
          rw [if_neg h64k, List.take_zero]

theorem textHeader_append (text : List UInt8) (h : text.length < 2 ^ 63) :
    textHeader text.length ++ text = (textFrame text h).encode := by
  have hhead : UInt8.ofNat (0x80 ||| wsOpText) = 0x81 := by decide
  have hframe : (textFrame text h).encode = 0x81 :: (lengthBytes text.length ++ text) :=
    congrArg (· :: (lengthBytes text.length ++ text)) hhead
  rw [hframe]
  by_cases h125 : text.length ≤ 125
  · simp [textHeader, lengthBytes, h125]
  · by_cases h64k : text.length ≤ 65535 <;> simp [textHeader, lengthBytes, h125, h64k]

namespace ClientSend

variable {e : ClientSend} {frame : List UInt8}

/-- The write takes something of the frame. -/
def Taken (e : ClientSend) : Prop :=
  ∃ frame n, e.frame = some frame ∧ frame ≠ [] ∧ e.result = .accepted n ∧ 0 < n

/-- The write takes something of the frame, and leaves something of it. -/
def Cut (e : ClientSend) : Prop :=
  ∃ frame n, e.frame = some frame ∧ e.result = .accepted n ∧ 0 < n ∧ n < frame.length

/-- **Every path** gives complete frames to its writes, or nothing. -/
theorem frame_complete (h : e.frame = some frame) :
    frame = [] ∨ ∃ f : ServerFrame, frame = f.encode := by
  have htext : ∀ {n : Nat} {outFrame built : Buffer n} {message : List UInt8} {len : Nat},
      wsSystemBuildFrame outFrame message = some (built, len) →
      built.bytes.take len = [] ∨ ∃ f : ServerFrame, built.bytes.take len = f.encode := by
    intro n outFrame built message len hbuilt
    rw [wsSystemBuildFrame_bytes hbuilt]
    split
    · next hle => exact .inr ⟨_, textHeader_append message (by omega)⟩
    · exact .inl rfl
  cases e with
  | publish outFrame message r =>
      obtain ⟨sent, hsent, rfl⟩ := Option.map_eq_some_iff.mp h
      rw [wsRegistrySendText_eq] at hsent
      obtain ⟨⟨built, len⟩, hbuilt, rfl⟩ := Option.map_eq_some_iff.mp hsent
      split
      · exact htext hbuilt
      · exact .inl rfl
  | broadcast outFrame message r =>
      obtain ⟨⟨built, len⟩, hbuilt, h⟩ := Option.bind_eq_some_iff.mp h
      obtain rfl := Option.some.inj h
      exact htext hbuilt
  | privateText text htext r =>
      obtain rfl := Option.some.inj h
      unfold maxWsPayload at htext
      exact .inr ⟨_, textHeader_append text (by omega)⟩
  | ping r =>
      obtain rfl := Option.some.inj h
      exact .inr ⟨controlFrame wsOpPing (by decide), rfl⟩
  | pong r =>
      obtain rfl := Option.some.inj h
      exact .inr ⟨controlFrame wsOpPong (by decide), rfl⟩

/-- Every path gives its frame to one write. -/
theorem sent_eq (e : ClientSend) : e.sent = e.frame.map fun frame => writeTo frame e.result := by
  cases e with
  | privateText text h r =>
      unfold sent wsSystemSendText wsLowLevelSendFrame
      dsimp only
      split
      · next hnone => exact congrArg some hnone.symm
      · rfl
  | publish frame message r => rfl
  | broadcast frame message r => rfl
  | ping r => rfl
  | pong r => rfl

end ClientSend

/-! ## Runs -/

/-- What has reached a client: the bytes, and the frames that have been begun, each with the number
of its bytes that have been sent. -/
structure WsOutput where
  wire : List UInt8
  begun : List (List UInt8 × Nat)
  deriving DecidableEq, Repr

namespace WsOutput

/-- Nothing has been sent. -/
def init : WsOutput := ⟨[], []⟩

/-- One message, up to the first that leaves the array for its frame. -/
def step (s : Option WsOutput) (e : ClientSend) : Option WsOutput := do
  let s ← s
  let frame ← e.frame
  let sent ← e.sent
  some {
    wire := s.wire ++ sent
    begun := if sent = [] then s.begun else s.begun ++ [(frame, sent.length)] }

/-- The client has a prefix of complete frames, and each frame was sent completely before the next
one was begun. -/
structure InFrames (s : WsOutput) : Prop where
  complete : ∃ frames : List ServerFrame, s.wire <+: frames.flatMap ServerFrame.encode
  in_turn : s.begun.Pairwise fun earlier _ => earlier.2 = earlier.1.length

variable {s s' : WsOutput} {events : List ClientSend}

/-- The frame of a message and what has been sent of it, if anything has. -/
def mark (e : ClientSend) : Option (List UInt8 × Nat) := do
  let frame ← e.frame
  let sent ← e.sent
  if sent = [] then none else some (frame, sent.length)

theorem step_eq_some_iff (s : WsOutput) (e : ClientSend) :
    step (some s) e = some s' ↔ ∃ frame, e.frame = some frame ∧
      s' = ⟨s.wire ++ writeTo frame e.result, s.begun ++ (mark e).toList⟩ := by
  simp only [step, mark, ClientSend.sent_eq, Option.bind_eq_bind, Option.bind_some]
  cases hframe : e.frame with
  | none => simp
  | some frame =>
      simp only [Option.bind_some, Option.map_some, Option.some.injEq, exists_eq_left']
      by_cases hsent : writeTo frame e.result = []
      · simp [hsent, eq_comm]
      · simp [hsent, eq_comm]

theorem runSteps_none (events : List ClientSend) : runSteps step none events = none := by
  induction events with
  | nil => rfl
  | cons e events ih => exact ih

/-- What a run has begun, and what its frames amount to. -/
theorem run_begun (h : runSteps step (some s) events = some s') :
    (∀ e ∈ events, e.frame.isSome) ∧ s'.begun = s.begun ++ events.filterMap mark := by
  induction events generalizing s with
  | nil =>
      obtain rfl := Option.some.inj h
      simp
  | cons e events ih =>
      rw [runSteps_cons] at h
      cases hstep : step (some s) e with
      | none =>
          rw [hstep, runSteps_none] at h
          cases h
      | some s₁ =>
          rw [hstep] at h
          obtain ⟨frame, hframe, rfl⟩ := (step_eq_some_iff s e).mp hstep
          obtain ⟨hall, hbegun⟩ := ih h
          refine ⟨List.forall_mem_cons.mpr ⟨by simp [hframe], hall⟩, ?_⟩
          rw [hbegun]
          cases hmark : mark e <;> simp [hmark]

/-- A run whose frames all stay in their arrays goes to its end. -/
theorem run_isSome (h : ∀ e ∈ events, e.frame.isSome) (s : WsOutput) :
    ∃ s', runSteps step (some s) events = some s' := by
  induction events generalizing s with
  | nil => exact ⟨s, rfl⟩
  | cons e events ih =>
      obtain ⟨he, hrest⟩ := List.forall_mem_cons.mp h
      obtain ⟨frame, hframe⟩ := Option.isSome_iff_exists.mp he
      rw [runSteps_cons, (step_eq_some_iff s e).mpr ⟨frame, hframe, rfl⟩]
      exact ih hrest _

/-- The bytes are those of the frames begun, and the frames are complete ones. -/
structure Traced (s : WsOutput) : Prop where
  wire : s.wire = s.begun.flatMap fun b => b.1.take b.2
  frames : ∀ b ∈ s.begun, ∃ f : ServerFrame, b.1 = f.encode

theorem init_traced : init.Traced := ⟨rfl, fun _ h => nomatch h⟩

theorem writeTo_eq_take (bytes : List UInt8) (r : WriteResult) :
    writeTo bytes r = bytes.take (writeTo bytes r).length := by
  cases r <;> simp [writeTo]

theorem Traced.step (h : s.Traced) {e : ClientSend} (hs' : WsOutput.step (some s) e = some s') :
    s'.Traced := by
  obtain ⟨frame, hframe, rfl⟩ := (step_eq_some_iff s e).mp hs'
  have hmark : mark e = if writeTo frame e.result = [] then none
      else some (frame, (writeTo frame e.result).length) := by
    simp [mark, ClientSend.sent_eq, hframe]
  by_cases hsent : writeTo frame e.result = []
  · rw [hmark, if_pos hsent]
    exact ⟨by simp [hsent, h.wire], by simpa using h.frames⟩
  · rw [hmark, if_neg hsent]
    refine ⟨?_, fun b hb => ?_⟩
    · simp [h.wire, ← writeTo_eq_take]
    · rw [Option.toList_some, List.mem_append, List.mem_singleton] at hb
      rcases hb with hb | rfl
      · exact h.frames b hb
      · rcases ClientSend.frame_complete hframe with rfl | hf
        · exact absurd (by cases e.result <;> simp [writeTo]) hsent
        · exact hf

theorem Traced.run (h : s.Traced) (hrun : runSteps WsOutput.step (some s) events = some s') :
    s'.Traced := by
  induction events generalizing s with
  | nil =>
      obtain rfl := Option.some.inj hrun
      exact h
  | cons e events ih =>
      rw [runSteps_cons] at hrun
      cases hstep : WsOutput.step (some s) e with
      | none =>
          rw [hstep, runSteps_none] at hrun
          cases hrun
      | some s₁ =>
          rw [hstep] at hrun
          exact ih (h.step hstep) hrun

/-- Frames sent in turn, the last of them in part. -/
theorem prefix_of_in_turn {begun : List (List UInt8 × Nat)}
    (hframes : ∀ b ∈ begun, ∃ f : ServerFrame, b.1 = f.encode)
    (hturn : begun.Pairwise fun earlier _ => earlier.2 = earlier.1.length) :
    ∃ frames : List ServerFrame,
      (begun.flatMap fun b => b.1.take b.2) <+: frames.flatMap ServerFrame.encode := by
  induction begun with
  | nil => exact ⟨[], List.prefix_refl _⟩
  | cons b rest ih =>
      obtain ⟨⟨f, hf⟩, hrest⟩ := List.forall_mem_cons.mp hframes
      obtain ⟨hlast, hturn⟩ := List.pairwise_cons.mp hturn
      cases rest with
      | nil =>
          refine ⟨[f], ?_⟩
          simp [hf, List.take_prefix]
      | cons next rest =>
          -- another frame follows, so this one has been sent completely
          have hall : b.1.take b.2 = f.encode := by
            rw [hlast next List.mem_cons_self, List.take_length, hf]
          obtain ⟨frames, hframes⟩ := ih hrest hturn
          refine ⟨f :: frames, ?_⟩
          rw [List.flatMap_cons, List.flatMap_cons, hall]
          exact (List.prefix_append_right_inj _).mpr hframes

theorem Traced.inFrames_iff (h : s.Traced) :
    s.InFrames ↔ s.begun.Pairwise fun earlier _ => earlier.2 = earlier.1.length := by
  refine ⟨fun hin => hin.in_turn, fun hturn => ⟨?_, hturn⟩⟩
  rw [h.wire]
  exact prefix_of_in_turn h.frames hturn

theorem mem_mark {e : ClientSend} {b : List UInt8 × Nat} :
    b ∈ mark e ↔ ∃ frame n, e.frame = some frame ∧ frame ≠ [] ∧ e.result = .accepted n ∧ 0 < n ∧
      b = (frame, min n frame.length) := by
  simp only [mark, ClientSend.sent_eq, Option.bind_eq_bind, Option.mem_def]
  cases hframe : e.frame with
  | none => simp
  | some frame =>
      cases hresult : e.result with
      | wouldBlock => simp [writeTo]
      | hardError => simp [writeTo]
      | accepted n =>
          simp only [Option.bind_some, Option.map_some, writeTo, List.take_eq_nil_iff,
            List.length_take]
          by_cases hnone : n = 0 ∨ frame = []
          · rw [if_pos hnone]
            simp only [reduceCtorEq, false_iff]
            rintro ⟨frame', n', hf, hne, hn, hpos, -⟩
            obtain rfl := Option.some.inj hf
            obtain rfl := WriteResult.accepted.inj hn
            rcases hnone with rfl | rfl
            · exact absurd hpos (lt_irrefl 0)
            · exact hne rfl
          · rw [if_neg hnone]
            obtain ⟨hn, hne⟩ := not_or.mp hnone
            constructor
            · intro hb
              exact ⟨frame, n, rfl, hne, rfl, Nat.pos_of_ne_zero hn, (Option.some.inj hb).symm⟩
            · rintro ⟨frame', n', hf, -, hn', -, rfl⟩
              obtain rfl := Option.some.inj hf
              obtain rfl := WriteResult.accepted.inj hn'
              rfl

/-- A frame is followed by another only if it has been sent completely. -/
theorem mark_in_turn (e later : ClientSend) :
    (∀ b ∈ mark e, ∀ b' ∈ mark later, b.2 = b.1.length) ↔ (e.Cut → ¬ later.Taken) := by
  constructor
  · rintro h ⟨frame, n, hframe, hresult, hpos, hlt⟩ ⟨frame', n', hframe', hne', hresult', hpos'⟩
    have hne : frame ≠ [] := List.ne_nil_of_length_pos (by omega)
    have hb := mem_mark.mpr ⟨frame, n, hframe, hne, hresult, hpos, rfl⟩
    have hb' := mem_mark.mpr ⟨frame', n', hframe', hne', hresult', hpos', rfl⟩
    have hall := h _ hb _ hb'
    dsimp only at hall
    omega
  · intro h b hb b' hb'
    obtain ⟨frame, n, hframe, hne, hresult, hpos, rfl⟩ := mem_mark.mp hb
    obtain ⟨frame', n', hframe', hne', hresult', hpos', rfl⟩ := mem_mark.mp hb'
    by_contra hpart
    dsimp only at hpart
    exact h ⟨frame, n, hframe, hresult, hpos, by omega⟩ ⟨frame', n', hframe', hne', hresult', hpos'⟩

end WsOutput

open WsOutput in
/-- **What reaches a client** is a prefix of complete frames, each begun when the one in front of
it has been sent, at every point of a run, if and only if no write takes anything after a write
that has taken part of its frame. The run ends with the first message that leaves its array. -/
theorem sends_run (events : List ClientSend) :
    (∀ done, done <+: events →
      ∀ s, runSteps step (some init) done = some s → s.InFrames) ↔
    (events.takeWhile fun e => e.frame.isSome).Pairwise fun e later => e.Cut → ¬ later.Taken := by
  have hcond : ∀ done s, runSteps step (some init) done = some s →
      (s.InFrames ↔ done.Pairwise fun e later => e.Cut → ¬ later.Taken) := by
    intro done s hs
    have hbegun : s.begun = done.filterMap mark := (run_begun hs).2
    rw [(init_traced.run hs).inFrames_iff, hbegun, List.pairwise_filterMap]
    simp only [← mark_in_turn, Option.mem_def]
  constructor
  · intro h
    obtain ⟨s, hs⟩ := run_isSome (List.all_eq_true.mp List.all_takeWhile) init
    exact (hcond _ s hs).mp (h _ (List.takeWhile_prefix _) s hs)
  · intro h done hdone s hs
    have hbuilt := (run_begun hs).1
    have hwithin : done <+: events.takeWhile fun e => e.frame.isSome := by
      obtain ⟨rest, rfl⟩ := hdone
      rw [List.takeWhile_append_of_pos (by simpa using hbuilt)]
      exact List.prefix_append _ _
    exact (hcond done s hs).mpr (h.sublist hwithin.sublist)

/-- A short length tells how long the frame is. -/
theorem ServerFrame.length_of_short {f : ServerFrame} {a : UInt8} {n : Nat} {rest more : List UInt8}
    (hn : n ≤ 125) (h : a :: UInt8.ofNat n :: rest <+: f.encode ++ more) :
    f.encode.length = n + 2 := by
  have hlen : ∀ m n, m < 256 → n < 256 → UInt8.ofNat n = UInt8.ofNat m → n = m := by
    intro m n hm hn heq
    have hnat := congrArg UInt8.toNat heq
    rwa [UInt8.toNat_ofNat_of_lt' hn, UInt8.toNat_ofNat_of_lt' hm] at hnat
  rw [ServerFrame.encode, List.cons_append, List.cons_prefix_cons] at h
  have hrest := h.2
  unfold lengthBytes at hrest
  by_cases h125 : f.payload.length ≤ 125
  · rw [if_pos h125, List.append_assoc, List.singleton_append, List.cons_prefix_cons] at hrest
    have hsize := hlen _ n (by omega) (by omega) hrest.1
    simp [ServerFrame.encode, lengthBytes, h125, hsize]
  · exfalso
    rw [if_neg h125] at hrest
    split at hrest
    · have hmark := hlen 126 n (by decide) (by omega) (List.cons_prefix_cons.mp hrest).1
      omega
    · have hmark := hlen 127 n (by decide) (by omega) (List.cons_prefix_cons.mp hrest).1
      omega

/-- Three bytes of a private message are sent, then all of the next: the client reads the start of
the second as the rest of the first, and what follows is no frame. -/
theorem message_inside_message :
    let events : List ClientSend :=
      [.privateText (ascii "hello") (by decide) (.accepted 3),
        .privateText (ascii "hello") (by decide) (.accepted 7)]
    ∃ s, runSteps WsOutput.step (some .init) events = some s ∧
      s.wire = [0x81, 5, 0x68, 0x81, 5, 0x68, 0x65, 0x6C, 0x6C, 0x6F] ∧
      ¬ (∃ frames : List ServerFrame, s.wire <+: frames.flatMap ServerFrame.encode) ∧
      ¬ s.InFrames := by
  have hbroken : ¬ ∃ frames : List ServerFrame,
      [0x81, 5, 0x68, 0x81, 5, 0x68, 0x65, 0x6C, 0x6C, 0x6F]
        <+: frames.flatMap ServerFrame.encode := by
    rintro ⟨frames, hframes⟩
    cases frames with
    | nil => simp at hframes
    | cons f frames =>
        have hlen : f.encode.length = 7 := ServerFrame.length_of_short (n := 5) (by decide) hframes
        have hrest := hframes.drop 7
        rw [List.flatMap_cons, ← hlen, List.drop_left, hlen] at hrest
        cases frames with
        | nil => simp at hrest
        | cons g frames =>
            -- the next frame would start without FIN
            have hhead : ∀ opcode < 16, (0x6C : UInt8) ≠ UInt8.ofNat (0x80 ||| opcode) := by decide
            exact hhead g.opcode g.opcode_lt (List.cons_prefix_cons.mp hrest).1
  refine ⟨⟨[0x81, 5, 0x68, 0x81, 5, 0x68, 0x65, 0x6C, 0x6C, 0x6F],
    [([0x81, 5, 0x68, 0x65, 0x6C, 0x6C, 0x6F], 3),
      ([0x81, 5, 0x68, 0x65, 0x6C, 0x6C, 0x6F], 7)]⟩, by decide, rfl, hbroken, ?_⟩
  exact fun h => hbroken h.complete

end Halmos.WebSocket
