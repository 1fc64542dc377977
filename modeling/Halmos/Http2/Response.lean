import Halmos.Http2.Session

set_option autoImplicit false

/-! # `http2_response_send_data`

The sender of a response body (`halmos_http2_response.c`): DATA frames of at most 16384 bytes,
END_STREAM on the last one.
-/

namespace Halmos.Http2

/-- A call of `http2_frame_send`. -/
structure FrameCall where
  type : UInt8
  flags : UInt8
  streamId : Nat
  payload : List UInt8
  deriving DecidableEq, Repr

def FrameCall.emissions (c : FrameCall) : List Emission :=
  http2FrameSend c.type c.flags c.streamId c.payload

/-- The loop of `http2_response_send_data` over the bytes that remain. -/
def sendDataLoop (streamId : Nat) (isEnd : Bool) (remaining : List UInt8) : List FrameCall :=
  if remaining = [] then []
  else
    let chunk := remaining.take 16384
    let flags := if isEnd ∧ remaining.length = chunk.length then 0x01 else 0x00
    ⟨0x00, flags, streamId, chunk⟩ :: sendDataLoop streamId isEnd (remaining.drop 16384)
termination_by remaining.length
decreasing_by
  rw [List.length_drop]
  have hpos := List.length_pos_iff.mpr ‹_›
  omega

/-- `http2_response_send_data`: the frames it sends, and `stream->state`, which the end of the body
sets to 4. -/
def http2ResponseSendData (streamId : Nat) (state : HTTP2StreamState)
    (data : List UInt8) (isEnd : Bool) : List FrameCall × HTTP2StreamState :=
  (if data = [] then
      if isEnd then [⟨0x00, 0x01, streamId, []⟩] else []
    else
      let frames := sendDataLoop streamId isEnd data
      let endStreamSent := frames.any (fun c => c.flags = 0x01)
      frames ++ if isEnd ∧ endStreamSent = false then [⟨0x00, 0x01, streamId, []⟩] else [],
    if isEnd then .halfClosedLocal else state)

theorem sendDataLoop_nil (streamId : Nat) (isEnd : Bool) : sendDataLoop streamId isEnd [] = [] := by
  rw [sendDataLoop, if_pos rfl]

/-- The frames of the loop carry the body, in frames `http2_frame_send` lets through. -/
theorem sendDataLoop_spec (streamId : Nat) (isEnd : Bool) (data : List UInt8) :
    (sendDataLoop streamId isEnd data).flatMap FrameCall.payload = data
      ∧ ∀ c ∈ sendDataLoop streamId isEnd data,
        c.type = 0x00 ∧ c.streamId = streamId ∧ c.payload.length ≤ 16384 := by
  fun_induction sendDataLoop with
  | case1 => exact ⟨rfl, fun c hc => nomatch hc⟩
  | case2 data hne chunk flags ih =>
      obtain ⟨hpayload, hframes⟩ := ih
      constructor
      · rw [List.flatMap_cons, hpayload]
        exact List.take_append_drop 16384 data
      · rw [List.forall_mem_cons]
        exact ⟨⟨rfl, rfl, List.length_take_le 16384 data⟩, hframes⟩

/-- The last frame of the loop carries END_STREAM. -/
theorem sendDataLoop_endStream (streamId : Nat) {data : List UInt8} (hne : data ≠ []) :
    ∃ c ∈ sendDataLoop streamId true data, c.flags = 0x01 := by
  fun_induction sendDataLoop streamId true data with
  | case1 => exact absurd rfl hne
  | case2 data hdata chunk flags ih =>
      by_cases hlast : data.length ≤ 16384
      · refine ⟨_, List.mem_cons_self, ?_⟩
        have hwhole : data.length = (data.take 16384).length := by
          rw [List.take_of_length_le hlast]
        exact if_pos ⟨rfl, hwhole⟩
      · have hrest : data.drop 16384 ≠ [] := by
          rw [ne_eq, List.drop_eq_nil_iff]
          exact hlast
        obtain ⟨c, hc, hflags⟩ := ih hrest
        exact ⟨c, List.mem_cons_of_mem _ hc, hflags⟩

/-- **A body is sent whole**: the payloads make it up, and no frame of it is dropped. -/
theorem http2ResponseSendData_body (streamId : Nat) (state : HTTP2StreamState)
    (data : List UInt8) (isEnd : Bool) :
    (http2ResponseSendData streamId state data isEnd).1.flatMap FrameCall.payload = data
      ∧ ∀ c ∈ (http2ResponseSendData streamId state data isEnd).1,
        c.type = 0x00 ∧ c.streamId = streamId ∧ c.payload.length ≤ 16384 := by
  have hempty : ∀ p : Prop, [Decidable p] →
      ∀ c ∈ (if p then [(⟨0x00, 0x01, streamId, []⟩ : FrameCall)] else []),
        c = ⟨0x00, 0x01, streamId, []⟩ := by
    intro p _ c hc
    split at hc
    · exact List.mem_singleton.mp hc
    · cases hc
  unfold http2ResponseSendData
  dsimp only
  split
  · next hnil =>
      rw [hnil]
      refine ⟨List.flatMap_eq_nil_iff.mpr ?_, ?_⟩
      · intro c hc
        rw [hempty _ c hc]
      · intro c hc
        rw [hempty _ c hc]
        exact ⟨rfl, rfl, Nat.zero_le _⟩
  · next hne =>
      obtain ⟨hpayload, hframes⟩ := sendDataLoop_spec streamId isEnd data
      refine ⟨?_, ?_⟩
      · rw [List.flatMap_append, hpayload, List.flatMap_eq_nil_iff.mpr, List.append_nil]
        intro c hc
        rw [hempty _ c hc]
      · intro c hc
        rcases List.mem_append.mp hc with hc | hc
        · exact hframes c hc
        · rw [hempty _ c hc]
          exact ⟨rfl, rfl, Nat.zero_le _⟩

/-- The end of a body is marked. -/
theorem http2ResponseSendData_endStream (streamId : Nat) (state : HTTP2StreamState)
    (data : List UInt8) :
    ∃ c ∈ (http2ResponseSendData streamId state data true).1, c.flags = 0x01 := by
  unfold http2ResponseSendData
  dsimp only
  split
  · exact ⟨⟨0x00, 0x01, streamId, []⟩, List.mem_singleton.mpr rfl, rfl⟩
  · next hne =>
      obtain ⟨c, hc, hflags⟩ := sendDataLoop_endStream streamId hne
      exact ⟨c, List.mem_append_left _ hc, hflags⟩

/-- A body that fits a frame is one frame. -/
theorem http2ResponseSendData_short (streamId : Nat) (state : HTTP2StreamState)
    {data : List UInt8} (hne : data ≠ []) (hlen : data.length ≤ 16384) :
    http2ResponseSendData streamId state data true
      = ([⟨0x00, 0x01, streamId, data⟩], .halfClosedLocal) := by
  have hchunk : data.take 16384 = data := List.take_of_length_le hlen
  have hrest : data.drop 16384 = [] := List.drop_eq_nil_iff.mpr hlen
  have hloop : sendDataLoop streamId true data = [⟨0x00, 0x01, streamId, data⟩] := by
    rw [sendDataLoop, if_neg hne, hrest, sendDataLoop_nil, hchunk]
    dsimp only
    rw [if_pos ⟨rfl, rfl⟩]
  unfold http2ResponseSendData
  rw [if_neg hne, hloop]
  rfl

end Halmos.Http2
