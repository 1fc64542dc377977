import Halmos.Basic.Runs
import Halmos.WebSocket.Sends

set_option autoImplicit false

/-! # A text in pieces

`ws_system_send_text` makes one frame of a text and hands it back when the socket has not taken all
of it; `ws_system_send_retry` goes on at the offset kept in the frame. Whatever the socket takes at
each write, the pieces follow each other in the frame, and the frame is one a client reads the text
from (`sendText_pieces`).
-/

namespace Halmos.WebSocket

open Http2 (WriteResult)

/-! ## Reading a frame

The format of RFC 6455, with its rules for the length: in the fewest bytes that hold it, and its
first bit 0. -/

/-- What a frame says. -/
structure DecodedFrame where
  fin : Bool
  opcode : Nat
  masked : Bool
  payload : List UInt8
  deriving DecidableEq, Repr

/-- A length in `size` bytes, of at least `least`, and what follows. -/
def extendedLength (size least : Nat) (bytes : List UInt8) : Option (Nat × List UInt8) :=
  let len := bigEndian (bytes.take size)
  if size ≤ bytes.length ∧ least ≤ len ∧ len < 2 ^ 63 then some (len, bytes.drop size) else none

/-- The length of a payload whose seven-bit length is `code`, and what follows. -/
def decodeLength (code : Nat) (bytes : List UInt8) : Option (Nat × List UInt8) :=
  if code ≤ 125 then some (code, bytes)
  else if code = 126 then extendedLength 2 126 bytes
  else extendedLength 8 65536 bytes

/-- The first frame in the bytes, and what follows. -/
def decodeFrame : List UInt8 → Option (DecodedFrame × List UInt8)
  | first :: second :: bytes => do
      let opcode := first.toNat &&& 0x0F
      let fin := decide (first.toNat &&& 0x80 ≠ 0)
      let masked := decide (second.toNat &&& 0x80 ≠ 0)
      let (len, bytes) ← decodeLength (second.toNat &&& 0x7F) bytes
      let keySize := if masked then 4 else 0
      if first.toNat &&& 0x70 ≠ 0 then none
      else if 8 ≤ opcode ∧ (fin = false ∨ 125 < len) then none
      else if bytes.length < keySize + len then none
      else
        let data := (bytes.drop keySize).take len
        let payload := if masked then applyMask (bytes.take 4) data else data
        some (⟨fin, opcode, masked, payload⟩, bytes.drop (keySize + len))
  | _ => none

theorem unmasked_length : ∀ n < 128,
    (UInt8.ofNat n).toNat &&& 0x80 = 0 ∧ (UInt8.ofNat n).toNat &&& 0x7F = n := by decide

theorem server_head : ∀ op < 16,
    (UInt8.ofNat (0x80 ||| op)).toNat &&& 0x70 = 0 := by decide

theorem extendedLength_append {n least : Nat} {ext : List UInt8} (hread : bigEndian ext = n)
    (hleast : least ≤ n) (hn : n < 2 ^ 63) (bytes : List UInt8) :
    extendedLength ext.length least (ext ++ bytes) = some (n, bytes) := by
  rw [extendedLength, List.take_left, List.drop_left, hread]
  exact if_pos ⟨by simp, hleast, hn⟩

/-- The length fields of a payload, read back. -/
theorem decodeLength_lengthBytes {n : Nat} (hn : n < 2 ^ 63) (bytes : List UInt8) :
    ∃ code ext, lengthBytes n ++ bytes = UInt8.ofNat code :: (ext ++ bytes) ∧ code < 128 ∧
      decodeLength code (ext ++ bytes) = some (n, bytes) := by
  by_cases h125 : n ≤ 125
  · exact ⟨n, [], by simp [lengthBytes, h125], by omega, by simp [decodeLength, h125]⟩
  · by_cases h64k : n ≤ 65535
    · have hread := bigEndian_16 n (by omega)
      refine ⟨126, [byteAt n 8, byteAt n 0], by simp [lengthBytes, h125, h64k], by omega, ?_⟩
      exact extendedLength_append hread (by omega) hn bytes
    · have hread := bigEndian_64 n (by omega)
      refine ⟨127, [byteAt n 56, byteAt n 48, byteAt n 40, byteAt n 32, byteAt n 24, byteAt n 16,
        byteAt n 8, byteAt n 0], by simp [lengthBytes, h125, h64k], by omega, ?_⟩
      exact extendedLength_append hread (by omega) hn bytes

/-- **A client reads** what a server frame says. -/
theorem decodeFrame_encode (f : ServerFrame) (rest : List UInt8) :
    decodeFrame (f.encode ++ rest) = some (⟨true, f.opcode, false, f.payload⟩, rest) := by
  obtain ⟨code, ext, hbytes, hcode, hlen⟩ :=
    decodeLength_lengthBytes f.payload_lt (f.payload ++ rest)
  obtain ⟨hfin, hop⟩ := ClientFrame.finBit_and_opcode f.opcode f.opcode_lt
  obtain ⟨hmask, hseven⟩ := unmasked_length code hcode
  have hrsv := server_head f.opcode f.opcode_lt
  have hcontrol : ¬ (8 ≤ f.opcode ∧ 125 < f.payload.length) := by
    rintro ⟨h8, hlong⟩
    have hle := f.control_le h8
    omega
  rw [ServerFrame.encode, List.cons_append, List.append_assoc, hbytes]
  simp only [decodeFrame, hop, hmask, hseven, hrsv, hlen, Option.bind_eq_bind, Option.bind_some,
    decide_eq_true hfin]
  simp only [ne_eq, not_true_eq_false, decide_false, if_false, Bool.false_eq_true, reduceCtorEq,
    false_or, hcontrol]
  simp

/-! ## Sending in pieces -/

/-- `ws_system_send_retry(sock_client, ssl, frame)`: its status, the frame if it is not freed, and
the bytes that reach the client. -/
def wsSystemSendRetry (frame : Option WsOutgoingFrame) (r : WriteResult) :
    WsSendStatus × Option WsOutgoingFrame × List UInt8 :=
  match frame with
  | none => (.fatal, none, [])
  | some frame =>
      let (status, frame, sent) := wsLowLevelSendFrame frame r
      (status, if status = .retry then some frame else none, sent)

/-- The sending of a text: the last status, the frame to go on with, and the pieces that have
reached the client, each with the offset in the frame it was taken at. -/
structure TextSending where
  status : WsSendStatus
  pending : Option WsOutgoingFrame
  pieces : List (Nat × List UInt8)
  deriving DecidableEq, Repr

namespace TextSending

/-- `ws_system_send_retry` on the frame that has been handed back, as long as one has. -/
def retry (s : TextSending) (r : WriteResult) : TextSending :=
  match s.pending with
  | none => s
  | some frame =>
      let (status, pending, sent) := wsSystemSendRetry (some frame) r
      ⟨status, pending, s.pieces ++ [(frame.offset, sent)]⟩

/-- `ws_system_send_text(sock_client, ssl, text, len, &frame)` and the retries that follow.
`created` is whether there is memory for the frame. -/
def start (created : Bool) (text : List UInt8) (r : WriteResult) : TextSending :=
  if created then
    let (status, pending, sent) := wsSystemSendText text r
    ⟨status, pending, [(0, sent)]⟩
  else ⟨.fatal, none, []⟩

/-- The bytes on the socket. -/
def wire (s : TextSending) : List UInt8 := s.pieces.flatMap Prod.snd

/-- The indices in the frame of the bytes that have been sent, in the order they were sent in. -/
def indices (s : TextSending) : List Nat :=
  s.pieces.flatMap fun piece => List.range' piece.1 piece.2.length

/-- The first `n` bytes of the frame have been sent, each once. -/
structure SentUpTo (frame : List UInt8) (s : TextSending) (n : Nat) : Prop where
  le : n ≤ frame.length
  wire : s.wire = frame.take n
  indices : s.indices = List.range n
  pending : ∀ rest, s.pending = some rest → rest = ⟨frame, n⟩
  whole : s.status = .ok → n = frame.length

/-- The status goes with what has been sent. -/
def Faithful (frame : List UInt8) (s : TextSending) : Prop := ∃ n, SentUpTo frame s n

end TextSending

/-! ## One write -/

/-- A write takes the bytes at the offset of the frame and moves the offset behind them. -/
theorem wsLowLevelSendFrame_takes {data : List UInt8} {offset : Nat} (h : offset ≤ data.length)
    (r : WriteResult) : ∃ n, offset + n ≤ data.length ∧
      (wsLowLevelSendFrame ⟨data, offset⟩ r).2 = (⟨data, offset + n⟩, (data.drop offset).take n) ∧
      ((wsLowLevelSendFrame ⟨data, offset⟩ r).1 = .ok → offset + n = data.length) := by
  have htake := WsOutput.writeTo_eq_take (data.drop offset) r
  have hlen : (writeTo (data.drop offset) r).length ≤ data.length - offset := by
    rw [htake]
    simp
  unfold wsLowLevelSendFrame
  dsimp only
  by_cases hnone : writeTo (data.drop offset) r = []
  · rw [if_pos hnone]
    refine ⟨0, by omega, by simp, fun hok => ?_⟩
    dsimp only at hok
    split at hok <;> cases hok
  · rw [if_neg hnone]
    refine ⟨(writeTo (data.drop offset) r).length, by omega, by rw [← htake], fun hok => ?_⟩
    dsimp only at hok
    split at hok
    · cases hok
    · omega

namespace TextSending

variable {frame : List UInt8} {s : TextSending}

theorem SentUpTo.push {n : Nat} (h : SentUpTo frame s n) (r : WriteResult) :
    let (status, rest, sent) := wsLowLevelSendFrame ⟨frame, n⟩ r
    Faithful frame
      ⟨status, if status = .retry then some rest else none, s.pieces ++ [(n, sent)]⟩ := by
  obtain ⟨k, hk, hsent, hok⟩ := wsLowLevelSendFrame_takes h.le r
  have hwire : s.wire ++ (frame.drop n).take k = frame.take (n + k) := by
    rw [h.wire, ← List.take_add]
  have hindices : s.indices ++ List.range' n k = List.range (n + k) := by
    rw [h.indices, List.range_eq_range', List.range_eq_range', ← List.range'_append_1,
      Nat.zero_add]
  have hlen : ((frame.drop n).take k).length = k := by
    simp only [List.length_take, List.length_drop]
    omega
  generalize wsLowLevelSendFrame ⟨frame, n⟩ r = out at hsent hok ⊢
  obtain ⟨status, rest, sent⟩ := out
  obtain ⟨rfl, rfl⟩ : rest = ⟨frame, n + k⟩ ∧ sent = (frame.drop n).take k := by
    simpa using hsent
  refine ⟨n + k, hk, ?_, ?_, ?_, hok⟩
  · simp only [TextSending.wire, List.flatMap_append, List.flatMap_singleton]
    exact hwire
  · simp only [TextSending.indices, List.flatMap_append, List.flatMap_singleton, hlen]
    exact hindices
  · intro rest hrest
    dsimp only at hrest
    split at hrest
    · exact (Option.some.inj hrest).symm
    · cases hrest

theorem Faithful.retry (h : Faithful frame s) (r : WriteResult) : Faithful frame (s.retry r) := by
  obtain ⟨n, h⟩ := h
  unfold TextSending.retry
  split
  · exact ⟨n, h⟩
  · next rest hrest =>
      obtain rfl := h.pending rest hrest
      exact h.push r

theorem start_faithful (created : Bool) (text : List UInt8) (r : WriteResult) :
    Faithful (textHeader text.length ++ text) (start created text r) := by
  cases created with
  | false => exact ⟨0, Nat.zero_le _, rfl, rfl, nofun, nofun⟩
  | true =>
      have hnone : SentUpTo (textHeader text.length ++ text) ⟨.retry, none, []⟩ 0 :=
        ⟨Nat.zero_le _, rfl, rfl, nofun, nofun⟩
      exact hnone.push r

end TextSending

/-- **A text in pieces**: at all times the bytes on the socket begin one frame, unmasked and
complete, that a client reads the text from, each of its bytes has been sent at most once and in
its place, and all of them when the status is `WS_SEND_OK`. -/
theorem sendText_pieces (created : Bool) (text : List UInt8) (htext : text.length < 2 ^ 63)
    (r : WriteResult) (rs : List WriteResult) :
    let s := runSteps TextSending.retry (.start created text r) rs
    ∃ frame, decodeFrame frame = some (⟨true, wsOpText, false, text⟩, []) ∧
      s.wire <+: frame ∧ s.indices.Nodup ∧ s.indices.map (frame[·]?) = s.wire.map some ∧
      (s.status = .ok → s.wire = frame) := by
  have hframe : decodeFrame (textHeader text.length ++ text)
      = some (⟨true, wsOpText, false, text⟩, []) := by
    have hdecode := decodeFrame_encode (textFrame text htext) []
    rwa [List.append_nil, ← textHeader_append] at hdecode
  obtain ⟨n, h⟩ : TextSending.Faithful (textHeader text.length ++ text)
      (runSteps TextSending.retry (.start created text r) rs) :=
    runSteps_induction (TextSending.start_faithful created text r)
      fun r _ s hs => hs.retry r
  generalize textHeader text.length ++ text = frame at hframe h
  refine ⟨frame, hframe, ?_, ?_, ?_, fun hok => ?_⟩
  · rw [h.wire]
    exact List.take_prefix _ _
  · rw [h.indices]
    exact List.nodup_range
  · rw [h.indices, h.wire]
    apply List.ext_getElem
    · simp [h.le]
    · intro i hi _
      have hin : i < frame.length := lt_of_lt_of_le (by simpa using hi) h.le
      simp [hin]
  · rw [h.wire, h.whole hok, List.take_length]

/-- Seven bytes, in three pieces. -/
theorem sendText_hello :
    (ascii "hello").length < 2 ^ 63 ∧
      let s := runSteps TextSending.retry (.start true (ascii "hello") (.accepted 3))
        [.wouldBlock, .accepted 2, .accepted 9]
      ∃ frame, decodeFrame frame = some (⟨true, wsOpText, false, ascii "hello"⟩, []) ∧
        s.wire <+: frame ∧ s.indices.Nodup ∧ s.indices.map (frame[·]?) = s.wire.map some ∧
        (s.status = .ok → s.wire = frame) :=
  ⟨by decide, sendText_pieces true (ascii "hello") (by decide) _ _⟩

end Halmos.WebSocket
