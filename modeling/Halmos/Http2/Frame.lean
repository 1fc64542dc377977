import Halmos.Basic.Bytes
import Halmos.Http2.Socket

set_option autoImplicit false

/-! # HTTP/2 frames

The nine header bytes as `http2_frame_send` writes them and `http2_parser_frame_header` reads
them, and the frames the server emits. A frame leaves the server either through
`http2_socket_write_or_buffer` or by a bare `http2_socket_write`; `Emission` keeps the two
apart.
-/

namespace Halmos.Http2

/-- `HTTP2FrameHeader`. -/
structure HTTP2FrameHeader where
  length : Nat
  type : UInt8
  flags : UInt8
  streamId : Nat
  deriving DecidableEq, Repr

/-- `http2_parser_frame_header`; `none` stands for the missing buffer. -/
def http2ParserFrameHeader (buf : List UInt8) : Option HTTP2FrameHeader :=
  match buf with
  | [b0, b1, b2, b3, b4, b5, b6, b7, b8] =>
      some
        { length := b0.toNat <<< 16 ||| b1.toNat <<< 8 ||| b2.toNat
          type := b3
          flags := b4
          streamId :=
            (b5.toNat &&& 0x7F) <<< 24 ||| b6.toNat <<< 16 ||| b7.toNat <<< 8 ||| b8.toNat }
  | _ => none

/-- The frame header `http2_frame_send` puts in front of `len` payload bytes. -/
def frameHeaderBytes (type flags : UInt8) (streamId len : Nat) : List UInt8 :=
  let sid := streamId &&& 0x7FFFFFFF
  [byteAt len 16, byteAt len 8, byteAt len 0, type, flags,
    byteAt sid 24, byteAt sid 16, byteAt sid 8, byteAt sid 0]

/-- A frame on its way out: through the write backlog, or straight to the socket. -/
inductive Emission where
  | buffered (bytes : List UInt8)
  | direct (bytes : List UInt8)
  deriving DecidableEq, Repr

/-- The bytes of an emission. -/
def Emission.bytes : Emission → List UInt8
  | .buffered bytes => bytes
  | .direct bytes => bytes

/-- `http2_frame_send`: a payload over 16384 bytes is dropped, any other frame goes through
the backlog as one block of bytes. -/
def http2FrameSend (type flags : UInt8) (streamId : Nat) (payload : List UInt8) :
    List Emission :=
  if payload.length > 16384 then []
  else [.buffered (frameHeaderBytes type flags streamId payload.length ++ payload)]

/-- The 27 bytes of `http2_frame_send_settings`. -/
def settingsBytes : List UInt8 :=
  [0x00, 0x00, 0x12, 0x04, 0x00, 0x00, 0x00, 0x00, 0x00,
    0x00, 0x01, 0x00, 0x00, 0x00, 0x00,
    0x00, 0x03, 0x00, 0x00, 0x00, 0x64,
    0x00, 0x04, 0x00, 0x10, 0x00, 0x00]

/-- `http2_frame_send_settings` writes to the socket itself. -/
def http2FrameSendSettings : List Emission := [.direct settingsBytes]

/-- `http2_frame_send_settings_ack` writes to the socket itself. -/
def http2FrameSendSettingsAck : List Emission := [.direct [0, 0, 0, 4, 1, 0, 0, 0, 0]]

@[simp] theorem frameHeaderBytes_length (type flags : UInt8) (streamId len : Nat) :
    (frameHeaderBytes type flags streamId len).length = 9 := rfl

/-- The header bytes are read back as the header they were written from. -/
theorem http2ParserFrameHeader_frameHeaderBytes (type flags : UInt8) {streamId len : Nat}
    (hsid : streamId < 2 ^ 31) (hlen : len < 2 ^ 24) :
    http2ParserFrameHeader (frameHeaderBytes type flags streamId len)
      = some ⟨len, type, flags, streamId⟩ := by
  have hmask : streamId &&& 0x7FFFFFFF = streamId := by
    rw [show (0x7FFFFFFF : Nat) = 2 ^ 31 - 1 from rfl, Nat.and_two_pow_sub_one_eq_mod]
    exact Nat.mod_eq_of_lt hsid
  simp only [http2ParserFrameHeader, frameHeaderBytes]
  rw [hmask, byteAt_24_and_127 streamId hsid, join32 streamId (by omega), join24 len hlen]

/-! ## Performing emissions -/

/-- `http2_socket_write`: the bytes the socket takes. -/
def http2SocketWrite (r : WriteResult) (data : List UInt8) : List UInt8 :=
  match r with
  | .accepted n => data.take n
  | .wouldBlock => []
  | .hardError => []

/-- The socket takes all of `len` bytes. -/
def WriteResult.TakesAll (r : WriteResult) (len : Nat) : Prop :=
  match r with
  | .accepted n => len ≤ n
  | .wouldBlock => False
  | .hardError => False

theorem http2SocketWrite_of_takesAll {r : WriteResult} {data : List UInt8}
    (h : r.TakesAll data.length) : http2SocketWrite r data = data := by
  cases r with
  | accepted n => exact List.take_of_length_le h
  | wouldBlock => cases h
  | hardError => cases h

/-- One emission under one answer of the environment. -/
def WriteSide.emit (s : WriteSide) (e : Emission) (o : WriteOutcome) : WriteSide :=
  match e with
  | .buffered bytes =>
      let r := http2SocketWriteOrBuffer o s.backlog bytes
      ⟨r.1, s.wire ++ r.2⟩
  | .direct bytes => { s with wire := s.wire ++ http2SocketWrite o.write bytes }

end Halmos.Http2
