import Halmos.WebSocket.Dispatch

set_option autoImplicit false

/-! # WebSocket frames inside HTTP/2 DATA frames

`handle_websocket_data_payload` of `halmos_http2_parser.c` takes the payload of one DATA frame
for one whole WebSocket frame: it keeps nothing between calls and does not look behind the frame
it has found. A cut of the frames' bytes into DATA frames is followed here with the bytes
`carried` over of a frame begun in an earlier DATA frame, so that each DATA frame comes with the
WebSocket frames that begin in it. The messages agree with those over HTTP/1.1 when every frame
with a message has a DATA frame to begin and end in that begins with it.
-/

namespace Halmos.WebSocket

/-- What one call does: the calls it makes, and the stream and increment of each WINDOW_UPDATE
frame it sends. -/
structure TunnelResult where
  calls : List WsCall
  windowUpdates : List (Nat × Nat)
  deriving DecidableEq, Repr

/-- A bare `return`. -/
def TunnelResult.nothing : TunnelResult := ⟨[], []⟩

/-- The payload length and the offset behind it; `some none` is an early return, `none` a read
outside the payload. -/
def tunnelLength (payload : List UInt8) (len7 : Nat) : Option (Option (Nat × Nat)) :=
  if len7 = 126 then
    if payload.length < 4 then some none
    else do
      let ext ← readBytes payload 2 2
      some (some (bigEndian ext, 4))
  else if len7 = 127 then
    if payload.length < 10 then some none
    else do
      let ext ← readBytes payload 2 8
      some (some (bigEndian ext, 10))
  else some (some (len7, 2))

/-- The masking key and the offset behind it. -/
def tunnelMask (payload : List UInt8) (masked : Bool) (offset : Nat) :
    Option (Option (List UInt8 × Nat)) :=
  if masked then
    if payload.length < offset + 4 then some none
    else do
      let mask ← readBytes payload offset 4
      some (some (mask, offset + 4))
  else some (some ([0, 0, 0, 0], offset))

/-- The part behind the checks. `malloc` gives no block of `2 ^ 63` bytes or more. -/
def tunnelDeliver (malloc : (n : Nat) → Buffer n) (streamId : Nat) (payload : List UInt8)
    (opcode : Nat) (masked : Bool) (mask : List UInt8) (offset len : Nat) :
    Option TunnelResult :=
  if 2 ^ 63 ≤ len + 1 then some .nothing
  else do
    let bytes ← readBytes payload offset len
    let block ← writeBytes (malloc (len + 1)).bytes 0 bytes
    let block ← store block len 0
    let block ← if masked then unmaskLoop mask len block else some block
    some ⟨if opcode = 0x01 then [.wsSystemOnMessage block len] else [],
      [(streamId, payload.length), (0, payload.length)]⟩

/-- The part behind the first two bytes. -/
def tunnelFrame (malloc : (n : Nat) → Buffer n) (streamId : Nat) (payload : List UInt8)
    (opcode : Nat) (masked : Bool) (len7 : Nat) : Option TunnelResult :=
  match tunnelLength payload len7 with
  | none => none
  | some none => some .nothing
  | some (some (len, offset)) =>
      match tunnelMask payload masked offset with
      | none => none
      | some none => some .nothing
      | some (some (mask, offset)) =>
          -- the sum is one of 64-bit numbers
          if payload.length < (offset + len) % 2 ^ 64 ∨ len = 2 ^ 64 - 1 then some .nothing
          else tunnelDeliver malloc streamId payload opcode masked mask offset len

/-- `handle_websocket_data_payload(session, head, payload)`. -/
def handleWebsocketDataPayload (malloc : (n : Nat) → Buffer n) (streamId : Nat) :
    List UInt8 → Option TunnelResult
  | b0 :: b1 :: rest =>
      tunnelFrame malloc streamId (b0 :: b1 :: rest) (b0.toNat &&& 0x0F)
        (b1.toNat &&& 0x80 != 0) (b1.toNat &&& 0x7F)
  | _ => some .nothing

/-- The DATA frames of an upgraded stream, in order. -/
def tunnelCalls (malloc : (n : Nat) → Buffer n) (streamId : Nat) :
    List (List UInt8) → Option (List WsCall)
  | [] => some []
  | data :: more => do
      let r ← handleWebsocketDataPayload malloc streamId data
      let calls ← tunnelCalls malloc streamId more
      some (r.calls ++ calls)

/-! ## One DATA frame -/

theorem readBytes_piece {pre piece post : List UInt8} {pos count : Nat} (hpos : pos = pre.length)
    (hcount : count = piece.length) :
    readBytes (pre ++ (piece ++ post)) pos count = some piece := by
  rw [readBytes, if_pos (by simp only [List.length_append]; omega), hpos, hcount, List.drop_left,
    List.take_left]

variable {f : ClientFrame}

/-- The length is read as soon as all its bytes are there. -/
theorem tunnelLength_ext (f : ClientFrame) (tail : List UInt8) :
    tunnelLength (f.head ++ (f.ext ++ tail)) f.lenCode
      = some (some (f.payload.length, 2 + f.ext.length)) := by
  have hlen : (f.head ++ (f.ext ++ tail)).length = 2 + (f.ext.length + tail.length) := by
    simp only [List.length_append, f.length_head]
  unfold tunnelLength
  rcases f.length_form with ⟨hle, hcode, hext⟩ | ⟨_, hcode, hext, hbig⟩ | ⟨_, hcode, hext, hbig⟩
  · rw [if_neg (by omega), if_neg (by omega), hcode, hext, List.length_nil]
  · have hread : readBytes (f.head ++ (f.ext ++ tail)) 2 2 = some f.ext :=
      readBytes_piece f.length_head.symm hext.symm
    rw [if_pos hcode, if_neg (by omega), hread, hext]
    simp only [Option.bind_eq_bind, Option.bind_some, hbig]
  · have hread : readBytes (f.head ++ (f.ext ++ tail)) 2 8 = some f.ext :=
      readBytes_piece f.length_head.symm hext.symm
    rw [if_neg (by omega), if_pos hcode, if_neg (by omega), hread, hext]
    simp only [Option.bind_eq_bind, Option.bind_some, hbig]

theorem tunnelMask_mask (f : ClientFrame) (tail : List UInt8) :
    tunnelMask (f.head ++ (f.ext ++ (f.mask ++ tail))) true (2 + f.ext.length)
      = some (some (f.mask, 6 + f.ext.length)) := by
  have hlen : (f.head ++ (f.ext ++ (f.mask ++ tail))).length
      = 2 + (f.ext.length + (4 + tail.length)) := by
    simp only [List.length_append, f.length_head, f.mask_length]
  have hread : readBytes (f.head ++ (f.ext ++ (f.mask ++ tail))) (2 + f.ext.length) 4
      = some f.mask := by
    rw [← List.append_assoc]
    refine readBytes_piece ?_ f.mask_length.symm
    rw [List.length_append, f.length_head]
  rw [tunnelMask, if_pos rfl, if_neg (by omega), hread]
  simp only [Option.bind_eq_bind, Option.bind_some, Option.some.injEq, Prod.mk.injEq, true_and]
  omega

/-- The first two bytes of a frame, as the handler takes them apart. -/
theorem handle_head (malloc : (n : Nat) → Buffer n) (streamId : Nat) (f : ClientFrame)
    (tail : List UInt8) :
    handleWebsocketDataPayload malloc streamId (f.head ++ tail)
      = tunnelFrame malloc streamId (f.head ++ tail) f.opcode true f.lenCode := by
  obtain ⟨_, hop⟩ := ClientFrame.finBit_and_opcode f.opcode f.opcode_lt
  obtain ⟨hmasked, hcode⟩ := ClientFrame.maskBit_and_length f.lenCode f.lenCode_lt
  simp only [ClientFrame.head, List.cons_append, List.nil_append, handleWebsocketDataPayload, hop,
    hcode, bne_iff_ne.mpr hmasked]

/-- A text frame that begins and ends in the DATA frame is passed on, and what is behind it is
not looked at. -/
theorem handle_whole (malloc : (n : Nat) → Buffer n) (streamId : Nat)
    (hf : f.opcode = wsOpText) (tail : List UInt8) :
    ∃ ups, handleWebsocketDataPayload malloc streamId (f.encode ++ tail)
      = some ⟨[f.message], ups⟩ := by
  have hle := f.payload_le
  unfold maxWsPayload at hle
  have happ : f.encode ++ tail = f.head ++ (f.ext ++ (f.mask ++ (f.body ++ tail))) := by
    simp only [ClientFrame.encode, List.append_assoc]
  have hext := f.length_ext_le
  have hlen : (f.encode ++ tail).length = f.ext.length + f.payload.length + 6 + tail.length := by
    rw [List.length_append, f.length_encode]
  have hread : readBytes (f.encode ++ tail) (6 + f.ext.length) f.payload.length = some f.body := by
    have hsplit : f.encode ++ tail = (f.head ++ (f.ext ++ f.mask)) ++ (f.body ++ tail) := by
      simp only [ClientFrame.encode, List.append_assoc]
    rw [hsplit]
    refine readBytes_piece ?_ f.length_body.symm
    simp only [List.length_append, f.length_head, f.mask_length]
    omega
  -- the block that is filled, closed with a NUL and unmasked
  have hmalloc : (malloc (f.payload.length + 1)).bytes.length = f.payload.length + 1 :=
    (malloc _).length_eq
  obtain ⟨block, hwrite, hblock, htake⟩ := writeBytes_eq
    (malloc (f.payload.length + 1)).bytes 0 f.body (by rw [f.length_body]; omega)
  rw [List.take_zero, List.nil_append, Nat.zero_add, f.length_body] at htake
  have hstore : store block f.payload.length 0 = some (f.body ++ [0]) := by
    rw [store_last (by omega), htake]
  rw [happ, handle_head, tunnelFrame, tunnelLength_ext]
  simp only [tunnelMask_mask]
  rw [← happ, if_neg (by omega), tunnelDeliver, if_neg (by omega)]
  simp only [hread, hwrite, hstore, f.unmaskLoop_body, Option.bind_eq_bind, Option.bind_some,
    if_true, hf, wsOpText]
  exact ⟨_, rfl⟩

/-- A frame that ends in a later DATA frame is not passed on. -/
theorem handle_begun (malloc : (n : Nat) → Buffer n) (streamId : Nat) {data left : List UInt8}
    (hsplit : f.encode = data ++ left) (hleft : left ≠ []) :
    handleWebsocketDataPayload malloc streamId data = some .nothing := by
  have hpos := List.length_pos_iff.mpr hleft
  have hle := f.payload_le
  unfold maxWsPayload at hle
  have hlen := congrArg List.length hsplit
  rw [f.length_encode, List.length_append] at hlen
  by_cases h2 : data.length < 2
  · match data with
    | [] => rfl
    | [_] => rfl
    | _ :: _ :: rest =>
        simp only [List.length_cons] at h2
        omega
  · obtain ⟨part, rfl, hbehind⟩ := split_piece hsplit.symm (by rw [f.length_head]; omega)
    rw [List.length_append, f.length_head] at hlen
    rw [handle_head, tunnelFrame]
    by_cases hext : part.length < f.ext.length
    · -- the length is cut off
      have hnone : tunnelLength (f.head ++ part) f.lenCode = some none := by
        have hdata : (f.head ++ part).length = 2 + part.length := by
          rw [List.length_append, f.length_head]
        unfold tunnelLength
        rcases f.length_form with ⟨_, _, h⟩ | ⟨_, hcode, h, _⟩ | ⟨_, hcode, h, _⟩
        · rw [h, List.length_nil] at hext
          omega
        · rw [if_pos hcode, if_pos (by omega)]
        · rw [if_neg (by omega), if_pos hcode, if_pos (by omega)]
      rw [hnone]
    · obtain ⟨part, rfl, hrest⟩ := split_piece hbehind.symm (by omega)
      rw [List.length_append] at hlen
      rw [tunnelLength_ext]
      by_cases hmask : part.length < 4
      · -- the masking key is cut off
        have hnone : tunnelMask (f.head ++ (f.ext ++ part)) true (2 + f.ext.length)
            = some none := by
          rw [tunnelMask, if_pos rfl, if_pos]
          simp only [List.length_append, f.length_head]
          omega
        simp only [hnone]
      · -- the payload is cut off
        obtain ⟨part, rfl, _⟩ := split_piece hrest.symm (by rw [f.mask_length]; omega)
        rw [List.length_append, f.mask_length] at hlen
        simp only [tunnelMask_mask]
        rw [if_pos]
        left
        simp only [List.length_append, f.length_head, f.mask_length]
        have hext8 := f.length_ext_le
        omega

theorem readBytes_eq (mem : List UInt8) (pos count : Nat) (h : pos + count ≤ mem.length) :
    ∃ bs, readBytes mem pos count = some bs ∧ bs.length = count := by
  refine ⟨_, if_pos h, ?_⟩
  rw [List.length_take, List.length_drop]
  omega

theorem tunnelLength_safe (payload : List UInt8) (len7 : Nat) :
    ∃ r, tunnelLength payload len7 = some r ∧ ∀ len offset, r = some (len, offset) → offset ≤ 10 := by
  unfold tunnelLength
  split
  · split
    · exact ⟨none, rfl, fun _ _ h => nomatch h⟩
    · obtain ⟨bs, hread, _⟩ := readBytes_eq payload 2 2 (by omega)
      simp only [hread, Option.bind_eq_bind, Option.bind_some]
      refine ⟨_, rfl, fun len offset h => ?_⟩
      simp only [Option.some.injEq, Prod.mk.injEq] at h
      omega
  · split
    · split
      · exact ⟨none, rfl, fun _ _ h => nomatch h⟩
      · obtain ⟨bs, hread, _⟩ := readBytes_eq payload 2 8 (by omega)
        simp only [hread, Option.bind_eq_bind, Option.bind_some]
        refine ⟨_, rfl, fun len offset h => ?_⟩
        simp only [Option.some.injEq, Prod.mk.injEq] at h
        omega
    · refine ⟨_, rfl, fun len offset h => ?_⟩
      simp only [Option.some.injEq, Prod.mk.injEq] at h
      omega

theorem tunnelMask_safe (payload : List UInt8) (masked : Bool) (offset : Nat) :
    ∃ r, tunnelMask payload masked offset = some r ∧
      ∀ mask offset', r = some (mask, offset') → mask.length = 4 ∧ offset' ≤ offset + 4 := by
  unfold tunnelMask
  split
  · split
    · exact ⟨none, rfl, fun _ _ h => nomatch h⟩
    · obtain ⟨bs, hread, hlen⟩ := readBytes_eq payload offset 4
        (by omega)
      simp only [hread, Option.bind_eq_bind, Option.bind_some]
      refine ⟨_, rfl, fun mask offset' h => ?_⟩
      simp only [Option.some.injEq, Prod.mk.injEq] at h
      rw [← h.1, ← h.2]
      exact ⟨hlen, le_rfl⟩
  · refine ⟨_, rfl, fun mask offset' h => ?_⟩
    simp only [Option.some.injEq, Prod.mk.injEq] at h
    rw [← h.1, ← h.2]
    exact ⟨rfl, Nat.le_add_right _ _⟩

/-- A block the allocator gives is as long as the length that has been checked. -/
theorem tunnelDeliver_safe (malloc : (n : Nat) → Buffer n) (streamId : Nat)
    (payload : List UInt8) {mask : List UInt8} (opcode : Nat) (masked : Bool) (offset len : Nat)
    (hmask : mask.length = 4) (hoffset : offset ≤ 14)
    (hlen : (offset + len) % 2 ^ 64 ≤ payload.length) :
    ∃ r, tunnelDeliver malloc streamId payload opcode masked mask offset len = some r ∧
      (opcode ≠ 1 → r.calls = []) := by
  unfold tunnelDeliver
  by_cases hbig : 2 ^ 63 ≤ len + 1
  · exact ⟨.nothing, if_pos hbig, fun _ => rfl⟩
  · obtain ⟨bytes, hread, hbytes⟩ := readBytes_eq payload offset len
      (by omega)
    have hmalloc : (malloc (len + 1)).bytes.length = len + 1 := (malloc _).length_eq
    obtain ⟨block, hwrite, hblock, _⟩ := writeBytes_eq
      (malloc (len + 1)).bytes 0 bytes (by omega)
    have hstore := store_last (hblock.trans hmalloc) 0
    have htake : (block.take len).length = len := by
      rw [List.length_take]
      omega
    have hloop : unmaskLoop mask len (block.take len ++ [0])
        = some (applyMask mask (block.take len) ++ [0]) := by
      have h := unmaskLoop_eq hmask (block.take len) [0]
      rwa [htake] at h
    rw [if_neg hbig]
    simp only [hread, hwrite, hstore, Option.bind_eq_bind, Option.bind_some]
    cases masked with
    | true =>
        simp only [if_true, hloop, Option.bind_some]
        exact ⟨_, rfl, fun hop => if_neg hop⟩
    | false =>
        simp only [Bool.false_eq_true, if_false]
        exact ⟨_, rfl, fun hop => if_neg hop⟩

/-- **No DATA frame is read outside its payload**, and one whose first byte does not look like
a text frame's passes no message on. -/
theorem handle_safe (malloc : (n : Nat) → Buffer n) (streamId : Nat) (data : List UInt8) :
    ∃ r, handleWebsocketDataPayload malloc streamId data = some r ∧
      ((∀ b ∈ data.head?, b.toNat &&& 0x0F ≠ 1) → r.calls = []) := by
  match data with
  | [] => exact ⟨.nothing, rfl, fun _ => rfl⟩
  | [_] => exact ⟨.nothing, rfl, fun _ => rfl⟩
  | b0 :: b1 :: rest =>
      simp only [handleWebsocketDataPayload, tunnelFrame]
      obtain ⟨r, hlength, hoffset⟩ := tunnelLength_safe (b0 :: b1 :: rest) (b1.toNat &&& 0x7F)
      rw [hlength]
      rcases r with _ | ⟨len, offset⟩
      · exact ⟨.nothing, rfl, fun _ => rfl⟩
      · obtain ⟨r, hmask, hkey⟩ :=
          tunnelMask_safe (b0 :: b1 :: rest) (b1.toNat &&& 0x80 != 0) offset
        simp only [hmask]
        rcases r with _ | ⟨mask, offset'⟩
        · exact ⟨.nothing, rfl, fun _ => rfl⟩
        · have hle := hoffset len offset rfl
          obtain ⟨hlen4, hle'⟩ := hkey mask offset' rfl
          simp only
          split
          · exact ⟨.nothing, rfl, fun _ => rfl⟩
          · obtain ⟨r, hdeliver, hcalls⟩ := tunnelDeliver_safe malloc streamId
              (b0 :: b1 :: rest) (b0.toNat &&& 0x0F) (b1.toNat &&& 0x80 != 0) offset' len hlen4
              (by omega) (by omega)
            exact ⟨r, hdeliver, fun hhead => hcalls (hhead b0 rfl)⟩

end Halmos.WebSocket
