import Halmos.Http2.Receiver

set_option autoImplicit false

/-! # Streams and the handling of one frame

The protocol side of a session: its windows, its table of streams, and `dispatch_frame` of
`halmos_http2_manager.c` with the frames it answers with. The handlers of DATA and HEADERS
frames and the pumps of active streams lead into the rest of the server; they are the
parameter `StreamHandlers`, and `ρ` is whatever else they keep. They do not read from the
client's socket and do not touch the read side of the session.
-/

namespace Halmos.Http2

inductive HTTP2StreamState where
  | idle
  | reservedLocal
  | reservedRemote
  | open
  | halfClosedLocal
  | halfClosedRemote
  | closed
  deriving DecidableEq, Repr

/-- The fields of `HTTP2Stream` the session itself looks at. -/
structure HTTP2Stream where
  streamId : Nat
  outWindowSize : Int32
  state : HTTP2StreamState
  fileFd : Int
  isSendingFile : Bool
  isFcgiActive : Bool
  deriving DecidableEq

/-- The protocol fields of `HTTP2Session`; `streamsHash` has `HTTP2_STREAM_BUCKETS` lists. -/
structure ProtocolState (ρ : Type) where
  outWindowSize : Int32
  peerInitialWindowSize : UInt32
  streamsHash : List (List HTTP2Stream)
  rest : ρ

/-- The protocol fields `session_init` sets. -/
def ProtocolState.fresh {ρ : Type} (rest : ρ) : ProtocolState ρ :=
  ⟨65535, 65535, List.replicate 32 [], rest⟩

/-- `http2_stream_get_bucket_fibonacci`. -/
def http2StreamGetBucketFibonacci (streamId : Nat) : Nat :=
  ((UInt32.ofNat streamId * 2654435769) >>> 27).toNat

/-- The first stream of a bucket with the given id is changed. -/
def updateFirst (id : Nat) (f : HTTP2Stream → HTTP2Stream) : List HTTP2Stream → List HTTP2Stream
  | [] => []
  | s :: ss => if s.streamId = id then f s :: ss else s :: updateFirst id f ss

/-- A stream waits for the socket: it has a file to send, or a FastCGI exchange is going on. -/
def HTTP2Stream.hasFile (s : HTTP2Stream) : Bool :=
  s.isSendingFile && decide (s.fileFd ≥ 0) && decide (s.state ≠ .closed)

/-- A stream as `flush_active_streams` and `has_active_streams` see it. -/
def HTTP2Stream.active (s : HTTP2Stream) : Bool := s.hasFile || s.isFcgiActive

/-- The two kinds of activity; `stream_types` in `http2_response_flush_active_streams`. -/
inductive Activity where
  | file
  | fcgi
  deriving DecidableEq, Repr

/-- The handlers of the frames that carry requests, and what one pass does to one active
stream. -/
structure StreamHandlers (ρ : Type) where
  handleData : ProtocolState ρ → HTTP2FrameHeader → Option (List UInt8) →
    ProtocolState ρ × List Emission
  handleHeaders : ProtocolState ρ → HTTP2FrameHeader → Option (List UInt8) →
    ProtocolState ρ × List Emission
  flushStream : ProtocolState ρ → Nat → Activity → ProtocolState ρ × List Emission

/-- A server that answers no request. -/
def StreamHandlers.silent : StreamHandlers Unit where
  handleData s _ _ := (s, [])
  handleHeaders s _ _ := (s, [])
  flushStream s _ _ := (s, [])

section Handling

variable {ρ : Type}

/-- `http2_response_has_active_streams`. -/
def http2ResponseHasActiveStreams (s : ProtocolState ρ) : Bool :=
  s.streamsHash.any (fun bucket => bucket.any HTTP2Stream.active)

/-- The first half of `http2_response_flush_active_streams`: at most 256 active streams. -/
def activeStreams (s : ProtocolState ρ) : List (Nat × Activity) :=
  ((s.streamsHash.flatten.filter HTTP2Stream.active).map
    (fun st => (st.streamId, if st.isFcgiActive then Activity.fcgi else Activity.file))).take 256

/-- `http2_response_flush_active_streams`. -/
def http2ResponseFlushActiveStreams (H : StreamHandlers ρ) (s : ProtocolState ρ) :
    ProtocolState ρ × List Emission :=
  (activeStreams s).foldl
    (fun acc target =>
      let r := H.flushStream acc.1 target.1 target.2
      (r.1, acc.2 ++ r.2))
    (s, [])

/-- RST_STREAM: in every bucket the first stream with that id drops its file and is closed. -/
def handleRstStream (s : ProtocolState ρ) (streamId : Nat) : ProtocolState ρ :=
  { s with
    streamsHash := s.streamsHash.map
      (updateFirst streamId (fun st =>
        { st with
          fileFd := if st.fileFd ≥ 0 then -1 else st.fileFd
          isSendingFile := false
          state := .closed })) }

/-- SETTINGS, six bytes at a time; only `SETTINGS_INITIAL_WINDOW_SIZE` is looked at. -/
def handleSettings : List UInt8 → ProtocolState ρ → ProtocolState ρ
  | i0 :: i1 :: v0 :: v1 :: v2 :: v3 :: payload, s =>
      let id := i0.toNat <<< 8 ||| i1.toNat
      let val : UInt32 := UInt32.ofNat
        (v0.toNat <<< 24 ||| v1.toNat <<< 16 ||| v2.toNat <<< 8 ||| v3.toNat)
      if id = 0x0004 then
        let delta := val.toInt32 - s.peerInitialWindowSize.toInt32
        handleSettings payload
          { s with
            peerInitialWindowSize := val
            streamsHash := s.streamsHash.map (List.map (fun st =>
              { st with outWindowSize := st.outWindowSize + delta })) }
      else handleSettings payload s
  | _, s => s

/-- `http2_frame_handle_window_update`. -/
def http2FrameHandleWindowUpdate (s : ProtocolState ρ) (head : HTTP2FrameHeader)
    (payload : Option (List UInt8)) : ProtocolState ρ :=
  match payload with
  | some (p0 :: p1 :: p2 :: p3 :: _) =>
      let increment :=
        (p0.toNat &&& 0x7F) <<< 24 ||| p1.toNat <<< 16 ||| p2.toNat <<< 8 ||| p3.toNat
      if increment = 0 then s
      else if head.streamId = 0 then
        { s with outWindowSize := s.outWindowSize + Int32.ofNat increment }
      else
        { s with
          streamsHash := s.streamsHash.modify (http2StreamGetBucketFibonacci head.streamId)
            (updateFirst head.streamId (fun st =>
              { st with outWindowSize := st.outWindowSize + Int32.ofNat increment })) }
  | _ => s

/-- The `switch` of `dispatch_frame`: its return value, the protocol state afterwards and the
frames it sends. -/
def dispatchFrame (H : StreamHandlers ρ) (s : ProtocolState ρ) (head : HTTP2FrameHeader)
    (payload : Option (List UInt8)) : Nat × ProtocolState ρ × List Emission :=
  if head.type = 0x00 then (1, H.handleData s head payload)
  else if head.type = 0x01 then (1, H.handleHeaders s head payload)
  else if head.type = 0x03 then (1, handleRstStream s head.streamId, [])
  else if head.type = 0x04 then
    if head.flags &&& 0x01 = 0 ∧ 6 ≤ head.length then
      (1, handleSettings (payload.getD []) s, http2FrameSendSettingsAck)
    else (1, s, [])
  else if head.type = 0x06 then
    if head.flags &&& 0x01 = 0 then (1, s, http2FrameSend 0x06 0x01 0 (payload.getD []))
    else (1, s, [])
  else if head.type = 0x07 then (0, s, [])
  else if head.type = 0x08 then (1, http2FrameHandleWindowUpdate s head payload, [])
  else (1, s, [])

/-- GOAWAY is the one frame that ends the session. -/
theorem dispatchFrame_fst (H : StreamHandlers ρ) (s : ProtocolState ρ)
    (head : HTTP2FrameHeader) (payload : Option (List UInt8)) :
    (dispatchFrame H s head payload).1 = if head.type = 0x07 then 0 else 1 := by
  unfold dispatchFrame
  by_cases h7 : head.type = 0x07
  · simp [h7]
  · rw [if_neg h7, if_neg h7]
    repeat' split
    all_goals rfl

theorem activeStreams_eq_nil {s : ProtocolState ρ}
    (h : http2ResponseHasActiveStreams s = false) : activeStreams s = [] := by
  have hnone : s.streamsHash.flatten.filter HTTP2Stream.active = [] := by
    rw [List.filter_eq_nil_iff]
    intro st hst
    obtain ⟨bucket, hbucket, hmem⟩ := List.mem_flatten.mp hst
    have hany := List.any_eq_false.mp h bucket hbucket
    have hbucketNone := List.any_eq_false.mp (Bool.not_eq_true _ ▸ hany)
    exact hbucketNone st hmem
  simp [activeStreams, hnone]

/-- With no stream active there is nothing to flush. -/
theorem http2ResponseFlushActiveStreams_of_inactive (H : StreamHandlers ρ)
    {s : ProtocolState ρ} (h : http2ResponseHasActiveStreams s = false) :
    http2ResponseFlushActiveStreams H s = (s, []) := by
  unfold http2ResponseFlushActiveStreams
  rw [activeStreams_eq_nil h]
  rfl

end Handling

end Halmos.Http2
