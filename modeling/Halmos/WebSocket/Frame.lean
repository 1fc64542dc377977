import Halmos.Basic.Buffer

set_option autoImplicit false

/-! # WebSocket frames

The frame format both receivers of the server parse, with the names the source gives its
parts. A `ClientFrame` is a frame a client may send: unfragmented, masked, no longer than the
server accepts. `ClientFrame.encode` lays it out in four pieces, in the order in which the
receiver of `halmos_ws_system.c` reads them: two header bytes, an extended length of no, two
or eight bytes, the masking key and the masked payload.
-/

namespace Halmos.WebSocket

/-- `MAX_WS_PAYLOAD`. -/
def maxWsPayload : Nat := 10 * 1024 * 1024

/-- `ws_opcode_t`. -/
def wsOpText : Nat := 0x1
def wsOpBin : Nat := 0x2
def wsOpClose : Nat := 0x8
def wsOpPing : Nat := 0x9
def wsOpPong : Nat := 0xA

/-! ## Masking -/

/-- The payload bytes combined with the masking key, byte `i` with key byte `i % 4`. -/
def applyMask (key payload : List UInt8) : List UInt8 :=
  payload.mapIdx (fun i b => b ^^^ key.getD (i % 4) 0)

@[simp] theorem length_applyMask (key payload : List UInt8) :
    (applyMask key payload).length = payload.length := List.length_mapIdx

@[simp] theorem applyMask_nil (key : List UInt8) : applyMask key [] = [] := rfl

/-- Masking twice with one key is doing nothing. -/
@[simp] theorem applyMask_applyMask (key payload : List UInt8) :
    applyMask key (applyMask key payload) = payload := by
  apply List.ext_getElem
  · simp
  · intro i _ _
    simp only [applyMask, List.getElem_mapIdx, UInt8.xor_assoc, UInt8.xor_self, UInt8.xor_zero]

/-- `for (i = 0; i < n; i++) payload[i] ^= mask[i % 4];` -/
def unmaskLoop (mask : List UInt8) : Nat → List UInt8 → Option (List UInt8)
  | 0, payload => some payload
  | i + 1, payload => do
      let payload ← unmaskLoop mask i payload
      let b ← payload[i]?
      let k ← mask[i % 4]?
      store payload i (b ^^^ k)

theorem applyMask_concat (key payload : List UInt8) (b : UInt8) :
    applyMask key (payload ++ [b])
      = applyMask key payload ++ [b ^^^ key.getD (payload.length % 4) 0] := by
  simp only [applyMask, List.mapIdx_append, List.mapIdx_cons, List.mapIdx_nil, Nat.zero_add]

/-- The loop masks the bytes in front of the position it stops at, and no others. -/
theorem unmaskLoop_eq {mask : List UInt8} (hmask : mask.length = 4) (done rest : List UInt8) :
    unmaskLoop mask done.length (done ++ rest) = some (applyMask mask done ++ rest) := by
  induction done using List.reverseRecOn generalizing rest with
  | nil => rfl
  | append_singleton done b ih =>
      have hkey : done.length % 4 < mask.length := by omega
      have hlen := length_applyMask mask done
      have hget : (applyMask mask done ++ b :: rest)[done.length]? = some b := by
        rw [List.getElem?_append_right (by omega), hlen, Nat.sub_self, List.getElem?_cons_zero]
      have hset (c : UInt8) : store (applyMask mask done ++ b :: rest) done.length c
          = some (applyMask mask done ++ c :: rest) := by
        rw [store, if_pos (by simp), List.set_append_right _ _ (by omega), hlen, Nat.sub_self,
          List.set_cons_zero]
      rw [List.length_append, List.length_singleton, List.append_assoc, List.singleton_append,
        applyMask_concat, List.append_assoc, List.singleton_append]
      simp only [unmaskLoop, ih, Option.bind_eq_bind, Option.bind_some, hget,
        hset,
        List.getD_eq_getElem?_getD, List.getElem?_eq_getElem hkey, Option.getD_some]

/-! ## The frames of a client -/

/-- A frame as RFC 6455 lets a client send it, and no longer than the server allows. -/
structure ClientFrame where
  opcode : Nat
  mask : List UInt8
  payload : List UInt8
  opcode_lt : opcode < 16
  mask_length : mask.length = 4
  payload_le : payload.length ≤ maxWsPayload
  control_le : 8 ≤ opcode → opcode ≤ 10 → payload.length ≤ 125

namespace ClientFrame

/-- The seven-bit length, or the mark of an extended one. -/
def lenCode (f : ClientFrame) : Nat :=
  if f.payload.length ≤ 125 then f.payload.length
  else if f.payload.length ≤ 65535 then 126 else 127

/-- FIN and the opcode, the mask bit and the length. -/
def head (f : ClientFrame) : List UInt8 :=
  [UInt8.ofNat (0x80 ||| f.opcode), UInt8.ofNat (0x80 ||| f.lenCode)]

/-- The extended length, in the shortest form that holds it. -/
def ext (f : ClientFrame) : List UInt8 :=
  let n := f.payload.length
  if n ≤ 125 then []
  else if n ≤ 65535 then [byteAt n 8, byteAt n 0]
  else [byteAt n 56, byteAt n 48, byteAt n 40, byteAt n 32, byteAt n 24, byteAt n 16,
    byteAt n 8, byteAt n 0]

/-- The payload as it travels. -/
def body (f : ClientFrame) : List UInt8 := applyMask f.mask f.payload

/-- The frame on the wire. -/
def encode (f : ClientFrame) : List UInt8 := f.head ++ (f.ext ++ (f.mask ++ f.body))

@[simp] theorem length_head (f : ClientFrame) : f.head.length = 2 := rfl

@[simp] theorem length_body (f : ClientFrame) : f.body.length = f.payload.length :=
  length_applyMask _ _

theorem mask_ne_nil (f : ClientFrame) : f.mask ≠ [] :=
  List.ne_nil_of_length_pos (by rw [f.mask_length]; decide)

theorem length_encode (f : ClientFrame) :
    f.encode.length = f.ext.length + f.payload.length + 6 := by
  simp only [encode, List.length_append, length_head, length_body, f.mask_length]
  omega

/-- Unmasking the payload in its block, in front of the NUL. -/
theorem unmaskLoop_body (f : ClientFrame) :
    unmaskLoop f.mask f.payload.length (f.body ++ [0]) = some (f.payload ++ [0]) := by
  have hloop := unmaskLoop_eq f.mask_length f.body [0]
  rw [f.length_body] at hloop
  rw [hloop, body, applyMask_applyMask]

/-! ### Reading the header back -/

theorem lenCode_lt (f : ClientFrame) : f.lenCode < 128 := by
  unfold lenCode
  split <;> [omega; split <;> omega]

theorem finBit_and_opcode : ∀ op < 16,
    (UInt8.ofNat (0x80 ||| op)).toNat &&& 0x80 ≠ 0 ∧
    (UInt8.ofNat (0x80 ||| op)).toNat &&& 0x0F = op := by decide

theorem maskBit_and_length : ∀ n < 128,
    (UInt8.ofNat (0x80 ||| n)).toNat &&& 0x80 ≠ 0 ∧
    (UInt8.ofNat (0x80 ||| n)).toNat &&& 0x7F = n := by decide

/-- A control frame has a one-byte length of at most 125. -/
theorem control_lenCode (f : ClientFrame) (h8 : 8 ≤ f.opcode) (h10 : f.opcode ≤ 10) :
    f.lenCode ≤ 125 := by
  have hle := f.control_le h8 h10
  unfold lenCode
  rw [if_pos hle]
  exact hle

/-- The three forms of the length. -/
theorem length_form (f : ClientFrame) :
    (f.payload.length ≤ 125 ∧ f.lenCode = f.payload.length ∧ f.ext = []) ∨
    (125 < f.payload.length ∧ f.lenCode = 126 ∧ f.ext.length = 2 ∧
      bigEndian f.ext = f.payload.length) ∨
    (65535 < f.payload.length ∧ f.lenCode = 127 ∧ f.ext.length = 8 ∧
      bigEndian f.ext = f.payload.length) := by
  have hle := f.payload_le
  unfold maxWsPayload at hle
  by_cases h125 : f.payload.length ≤ 125
  · exact .inl ⟨h125, by rw [lenCode, if_pos h125], by simp only [ext, if_pos h125]⟩
  · by_cases h64k : f.payload.length ≤ 65535
    · refine .inr (.inl ⟨by omega, by rw [lenCode, if_neg h125, if_pos h64k], ?_, ?_⟩)
      · simp only [ext, if_neg h125, if_pos h64k, List.length_cons, List.length_nil]
      · simp only [ext, if_neg h125, if_pos h64k]
        exact bigEndian_16 _ (by omega)
    · refine .inr (.inr ⟨by omega, by rw [lenCode, if_neg h125, if_neg h64k], ?_, ?_⟩)
      · simp only [ext, if_neg h125, if_neg h64k, List.length_cons, List.length_nil]
      · simp only [ext, if_neg h125, if_neg h64k]
        exact bigEndian_64 _ (by omega)

theorem length_ext_le (f : ClientFrame) : f.ext.length ≤ 8 := by
  rcases f.length_form with ⟨_, _, h⟩ | ⟨_, _, h, _⟩ | ⟨_, _, h, _⟩
  · rw [h]
    decide
  · omega
  · omega

end ClientFrame

end Halmos.WebSocket
