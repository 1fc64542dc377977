import Halmos.Http2.Frame

set_option autoImplicit false

/-! # A receiver of HTTP/2 frames, one byte at a time

What the read side of a session is for: after the 24 bytes of the client preface, the incoming
bytes are frames, a nine-byte header followed by as many payload bytes as it announces. The
`Receiver` eats one byte at a time and hands out the frames it completes, so what it hands out
depends on the bytes only and not on how they are cut into reads (`feedAll_append`). The
session's own counters and buffers are related to it in `Input.lean`.
-/

namespace Halmos.Http2

/-- A frame: the header as parsed, and the payload. -/
structure HTTP2Frame where
  head : HTTP2FrameHeader
  payload : List UInt8
  deriving DecidableEq, Repr

/-- What has been received since the last complete frame. A connection is `closed` by a GOAWAY
frame or by a frame longer than the server allows. -/
inductive Receiver where
  | preface (got : Nat)
  | header (got : List UInt8)
  | payload (head : HTTP2FrameHeader) (got : List UInt8)
  | closed
  deriving DecidableEq, Repr

namespace Receiver

/-- The number of bytes up to the next boundary: the end of the preface, of a frame header or
of a payload. -/
def need : Receiver → Nat
  | preface got => 24 - got
  | header got => 9 - got.length
  | payload head got => head.length - got.length
  | closed => 0

/-- Some payload bytes are outstanding. -/
def InPayload : Receiver → Prop
  | payload _ _ => True
  | _ => False

instance (r : Receiver) : Decidable r.InPayload := by
  cases r <;> unfold InPayload <;> infer_instance

/-- Bytes that do not reach past the next boundary are taken in. -/
def absorb (maxLen : Nat) : Receiver → List UInt8 → Receiver
  | preface got, bs => if got + bs.length < 24 then preface (got + bs.length) else header []
  | header got, bs =>
      match http2ParserFrameHeader (got ++ bs) with
      | none => header (got ++ bs)
      | some head => if maxLen < head.length then closed else payload head []
  | payload head got, bs => payload head (got ++ bs)
  | closed, _ => closed

/-- A payload that is complete is handed out as a frame. -/
def settle : Receiver → Receiver × List HTTP2Frame
  | payload head got =>
      if got.length < head.length then (payload head got, [])
      else (if head.type = 0x07 then closed else header [], [⟨head, got⟩])
  | r => (r, [])

/-- One byte. -/
def feed (maxLen : Nat) (r : Receiver) (b : UInt8) : Receiver × List HTTP2Frame :=
  (r.absorb maxLen [b]).settle

/-- A list of bytes, and the frames completed on the way. -/
def feedAll (maxLen : Nat) : Receiver → List UInt8 → Receiver × List HTTP2Frame
  | r, [] => (r, [])
  | r, b :: bs =>
      let r' := r.feed maxLen b
      let r'' := feedAll maxLen r'.1 bs
      (r''.1, r'.2 ++ r''.2)

variable {maxLen : Nat}

@[simp] theorem feedAll_nil (r : Receiver) : feedAll maxLen r [] = (r, []) := rfl

theorem feedAll_cons (r : Receiver) (b : UInt8) (bs : List UInt8) :
    feedAll maxLen r (b :: bs)
      = ((feedAll maxLen (r.feed maxLen b).1 bs).1,
        (r.feed maxLen b).2 ++ (feedAll maxLen (r.feed maxLen b).1 bs).2) := rfl

/-- **The cuts between reads do not matter.** -/
theorem feedAll_append (r : Receiver) (bs cs : List UInt8) :
    feedAll maxLen r (bs ++ cs)
      = ((feedAll maxLen (feedAll maxLen r bs).1 cs).1,
        (feedAll maxLen r bs).2 ++ (feedAll maxLen (feedAll maxLen r bs).1 cs).2) := by
  induction bs generalizing r with
  | nil => rfl
  | cons b bs ih =>
      rw [List.cons_append, feedAll_cons, ih, feedAll_cons]
      simp [List.append_assoc]

@[simp] theorem feedAll_closed (bs : List UInt8) : feedAll maxLen closed bs = (closed, []) := by
  induction bs with
  | nil => rfl
  | cons b bs ih =>
      rw [feedAll_cons]
      show ((feedAll maxLen closed bs).1, [] ++ (feedAll maxLen closed bs).2) = _
      rw [ih]
      rfl

/-- A payload begins empty. -/
theorem absorb_header_payload {got bs buf : List UInt8} {head : HTTP2FrameHeader}
    (h : (header got).absorb maxLen bs = payload head buf) : buf = [] := by
  unfold absorb at h
  simp only at h
  split at h
  · cases h
  · split at h
    · cases h
    · injection h with _ hbuf
      exact hbuf.symm

/-- A receiver that waits for bytes has nothing to hand out. -/
theorem settle_of_need_pos {r : Receiver} (h : 0 < r.need) : r.settle = (r, []) := by
  cases r with
  | preface got => rfl
  | header got => rfl
  | payload head got =>
      simp only [need] at h
      exact if_pos (by omega)
  | closed => rfl

/-! ## A read that stays below the next boundary -/

theorem http2ParserFrameHeader_eq_none {bs : List UInt8} (h : bs.length ≠ 9) :
    http2ParserFrameHeader bs = none := by
  unfold http2ParserFrameHeader
  split
  · exact absurd rfl h
  · rfl

theorem http2ParserFrameHeader_isSome {bs : List UInt8} (h : bs.length = 9) :
    ∃ head, http2ParserFrameHeader bs = some head := by
  match bs, h with
  | [_, _, _, _, _, _, _, _, _], _ => exact ⟨_, rfl⟩

/-- A byte short of the next boundary completes nothing. -/
theorem feed_of_two_le_need {r : Receiver} (h : 2 ≤ r.need) (b : UInt8) :
    r.feed maxLen b = (r.absorb maxLen [b], []) ∧
    (r.absorb maxLen [b]).need = r.need - 1 ∧
    ∀ bs, (r.absorb maxLen [b]).absorb maxLen bs = r.absorb maxLen (b :: bs) := by
  cases r with
  | preface got =>
      simp only [need] at h
      have hone : (preface got).absorb maxLen [b] = preface (got + 1) :=
        if_pos (show got + 1 < 24 by omega)
      refine ⟨?_, ?_, fun bs => ?_⟩
      · simp only [feed, hone, settle]
      · rw [hone]
        simp only [need]
        omega
      · rw [hone]
        simp only [absorb, List.length_cons]
        rw [show got + 1 + bs.length = got + (bs.length + 1) by omega]
  | header got =>
      simp only [need] at h
      have hnone : http2ParserFrameHeader (got ++ [b]) = none :=
        http2ParserFrameHeader_eq_none (by simp; omega)
      have hone : (header got).absorb maxLen [b] = header (got ++ [b]) := by
        simp only [absorb, hnone]
      refine ⟨?_, ?_, fun bs => ?_⟩
      · simp only [feed, hone, settle]
      · rw [hone]
        simp only [need, List.length_append, List.length_singleton]
        omega
      · rw [hone]
        simp only [absorb, List.append_assoc, List.singleton_append]
  | payload head got =>
      simp only [need] at h
      have hlt : (got ++ [b]).length < head.length := by
        rw [List.length_append, List.length_singleton]
        omega
      refine ⟨?_, ?_, fun bs => ?_⟩
      · simp only [feed, absorb, settle, if_pos hlt]
      · simp only [absorb, need, List.length_append, List.length_singleton]
        omega
      · simp only [absorb, List.append_assoc, List.singleton_append]
  | closed =>
      simp only [need] at h
      omega

/-- A read that ends at or before the next boundary is absorbed in one piece. -/
theorem feedAll_of_le_need {r : Receiver} {bs : List UInt8} (hne : bs ≠ [])
    (h : bs.length ≤ r.need) : feedAll maxLen r bs = (r.absorb maxLen bs).settle := by
  induction bs generalizing r with
  | nil => exact absurd rfl hne
  | cons b bs ih =>
      rcases bs with _ | ⟨c, bs⟩
      · rw [feedAll_cons]
        simp [feed]
      · simp only [List.length_cons] at h
        obtain ⟨hfeed, hneed, habs⟩ := feed_of_two_le_need
          (r := r) (by omega) b
        rw [feedAll_cons, hfeed]
        have hrest := ih (r := r.absorb maxLen [b]) (by simp)
          (by rw [hneed, List.length_cons]; omega)
        rw [hrest, habs]
        simp

/-! ## The frames `http2_frame_send` writes -/

theorem feedAll_preface {bs : List UInt8} (h : bs.length = 24) :
    feedAll maxLen (preface 0) bs = (header [], []) := by
  have hne : bs ≠ [] := by
    rintro rfl
    simp at h
  have hneed : bs.length ≤ (preface 0).need := by
    simp [need, h]
  rw [feedAll_of_le_need hne hneed]
  simp [absorb, h, settle]

end Receiver

/-- The bytes `http2_frame_send` puts out for a frame. -/
def HTTP2Frame.sent (f : HTTP2Frame) : List UInt8 :=
  (http2FrameSend f.head.type f.head.flags f.head.streamId f.payload).flatMap Emission.bytes

/-- A frame `http2_frame_send` can send and a receiver allowing payloads of `maxLen` bytes
takes without closing: no GOAWAY, a stream id of 31 bits, at most 16384 bytes of payload. -/
structure HTTP2Frame.Sendable (maxLen : Nat) (f : HTTP2Frame) : Prop where
  length_eq : f.head.length = f.payload.length
  not_goaway : f.head.type ≠ 0x07
  streamId_lt : f.head.streamId < 2 ^ 31
  payload_le : f.payload.length ≤ 16384
  payload_le_max : f.payload.length ≤ maxLen

theorem HTTP2Frame.Sendable.sent_eq {maxLen : Nat} {f : HTTP2Frame} (h : f.Sendable maxLen) :
    f.sent = frameHeaderBytes f.head.type f.head.flags f.head.streamId f.payload.length
      ++ f.payload := by
  unfold HTTP2Frame.sent http2FrameSend
  rw [if_neg (by have := h.payload_le; omega)]
  simp [Emission.bytes]

namespace Receiver

variable {maxLen : Nat}

variable (maxLen) in
theorem feedAll_frameHeader {head : HTTP2FrameHeader} (hsid : head.streamId < 2 ^ 31)
    (hlen : head.length < 2 ^ 24) (hmax : head.length ≤ maxLen) :
    feedAll maxLen (header [])
        (frameHeaderBytes head.type head.flags head.streamId head.length)
      = (payload head []).settle := by
  have hne : frameHeaderBytes head.type head.flags head.streamId head.length ≠ [] :=
    List.cons_ne_nil _ _
  have hneed : (frameHeaderBytes head.type head.flags head.streamId head.length).length
      ≤ (header []).need := Nat.le_refl 9
  rw [feedAll_of_le_need hne hneed]
  simp only [absorb, List.nil_append, http2ParserFrameHeader_frameHeaderBytes _ _ hsid hlen]
  rw [if_neg (by omega)]

/-- A receiver between frames hands out the frame that was sent, and is between frames again. -/
theorem feedAll_sent {f : HTTP2Frame} (h : f.Sendable maxLen) :
    feedAll maxLen (header []) f.sent = (header [], [f]) := by
  have hhead := feedAll_frameHeader maxLen h.streamId_lt
    (by have := h.payload_le; rw [h.length_eq]; omega)
    (by rw [h.length_eq]; exact h.payload_le_max)
  rw [h.sent_eq, feedAll_append, ← h.length_eq, hhead]
  obtain ⟨head, bs⟩ := f
  have hlen : head.length = bs.length := h.length_eq
  have htype : head.type ≠ 0x07 := h.not_goaway
  by_cases hzero : bs = []
  · rw [hzero] at hlen ⊢
    simp only [List.length_nil] at hlen
    simp [settle, hlen, htype]
  · have hpos : 0 < bs.length := List.length_pos_iff.mpr hzero
    have hopen : (payload head []).settle = (payload head [], []) :=
      if_pos (show 0 < head.length by omega)
    have hneed : bs.length ≤ (payload head []).need := by
      simp [need, hlen]
    rw [hopen]
    simp only
    rw [feedAll_of_le_need hzero hneed]
    simp [absorb, settle, hlen, htype]

/-- **The frames that were sent are the frames handed out.** -/
theorem feedAll_sent_all {frames : List HTTP2Frame} (h : ∀ f ∈ frames, f.Sendable maxLen) :
    feedAll maxLen (header []) (frames.flatMap HTTP2Frame.sent) = (header [], frames) := by
  induction frames with
  | nil => rfl
  | cons f frames ih =>
      rw [List.flatMap_cons, feedAll_append, feedAll_sent (h f (by simp))]
      simp only
      rw [ih (fun g hg => h g (by simp [hg]))]
      rfl

end Receiver

end Halmos.Http2
