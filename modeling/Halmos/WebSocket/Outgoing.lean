import Halmos.Basic.Buffer

set_option autoImplicit false

/-! # Frames built by the registry

`ws_system_build_frame` and `ws_registry_send_text` of `halmos_ws_registry.c` build a text frame
in an array of their caller's or their own: 65535 bytes for a broadcast, 4096 bytes for a
message to one client. A message is a C string, given by the bytes in front of its NUL. Every
write is checked; `none` is one outside the array. The arrays are not initialised: `frame` is
whatever is in them.
-/

namespace Halmos.WebSocket

/-- `ws_system_build_frame(out_frame, message, len)`. -/
def wsSystemBuildFrame {n : Nat} (outFrame : Buffer n) (message : List UInt8) :
    Option (Buffer n × Nat) := do
  let len := message.length
  let outFrame ← outFrame.write 0 0x81
  if len ≤ 125 then
    let outFrame ← outFrame.write 1 (UInt8.ofNat len)
    let outFrame ← outFrame.copy 2 message
    some (outFrame, 2 + len)
  else if len ≤ 65535 then
    let outFrame ← outFrame.write 1 126
    let outFrame ← outFrame.write 2 (byteAt len 8)
    let outFrame ← outFrame.write 3 (byteAt len 0)
    let outFrame ← outFrame.copy 4 message
    some (outFrame, 4 + len)
  else some (outFrame, 0)

/-- `ws_registry_broadcast(message)`, as far as a client over HTTP/1.1 is concerned: the bytes
each of them is sent. -/
def wsRegistryBroadcast (frame : Buffer 65535) (message : List UInt8) : Option (List UInt8) := do
  let (frame, frameLen) ← wsSystemBuildFrame frame message
  some (frame.bytes.take frameLen)

/-- `ws_registry_send_text(fd, ssl, message)`: the bytes sent, if any are. -/
def wsRegistrySendText (frame : Buffer 4096) (message : List UInt8) :
    Option (Option (List UInt8)) := do
  let len := message.length
  let frame ← frame.write 0 0x81
  if len ≤ 125 then
    let frame ← frame.write 1 (UInt8.ofNat len)
    let frame ← frame.copy 2 message
    some (some (frame.bytes.take (2 + len)))
  else if len ≤ 65535 then
    let frame ← frame.write 1 126
    let frame ← frame.write 2 (byteAt len 8)
    let frame ← frame.write 3 (byteAt len 0)
    let frame ← frame.copy 4 message
    some (some (frame.bytes.take (4 + len)))
  else some none

/-- The two functions build the same frame, in arrays of different sizes. -/
theorem wsRegistrySendText_eq (frame : Buffer 4096) (message : List UInt8) :
    wsRegistrySendText frame message = (wsSystemBuildFrame frame message).map (fun r =>
      if message.length ≤ 65535 then some (r.1.bytes.take r.2) else none) := by
  unfold wsRegistrySendText wsSystemBuildFrame
  by_cases h125 : message.length ≤ 125
  · have h64k : message.length ≤ 65535 := by omega
    simp only [if_pos h125, if_pos h64k, Option.bind_eq_bind, Option.map_bind,
      Function.comp_def, Option.map_some]
  · by_cases h64k : message.length ≤ 65535
    · simp only [if_neg h125, if_pos h64k, Option.bind_eq_bind, Option.map_bind,
        Function.comp_def, Option.map_some]
    · simp only [if_neg h125, if_neg h64k, Option.bind_eq_bind, Option.map_bind,
        Function.comp_def, Option.map_some]

/-! ## Inside the array -/

/-- In an array with room for the longest short frame, a frame is written without leaving the
array exactly if it has room for the longer header as well, or is not written at all. -/
theorem wsSystemBuildFrame_isSome_iff {n : Nat} (hn : 129 ≤ n) (outFrame : Buffer n)
    (message : List UInt8) :
    (wsSystemBuildFrame outFrame message).isSome ↔
      message.length ≤ n - 4 ∨ 65535 < message.length := by
  obtain ⟨first, hfirst, _⟩ := outFrame.write_eq (i := 0) 0x81 (by omega)
  simp only [wsSystemBuildFrame, hfirst, Option.bind_eq_bind, Option.bind_some]
  by_cases h125 : message.length ≤ 125
  · obtain ⟨second, hsecond, _⟩ := first.write_eq (i := 1) (UInt8.ofNat message.length) (by omega)
    obtain ⟨all, hall, _⟩ := second.copy_eq (i := 2) (s := message) (by omega)
    simp only [if_pos h125, hsecond, hall, Option.bind_some, Option.isSome_some, true_iff]
    omega
  · by_cases h64k : message.length ≤ 65535
    · obtain ⟨second, hsecond, _⟩ := first.write_eq (i := 1) 126 (by omega)
      obtain ⟨third, hthird, _⟩ := second.write_eq (i := 2) (byteAt message.length 8) (by omega)
      obtain ⟨fourth, hfourth, _⟩ := third.write_eq (i := 3) (byteAt message.length 0) (by omega)
      simp only [if_neg h125, if_pos h64k, hsecond, hthird, hfourth, Option.bind_some]
      by_cases hroom : 4 + message.length ≤ n
      · obtain ⟨all, hall, _⟩ := fourth.copy_eq hroom
        simp only [hall, Option.bind_some, Option.isSome_some, true_iff]
        omega
      · have hout : fourth.copy 4 message = none := dif_neg hroom
        simp only [hout, Option.bind_none, Option.isSome_none, Bool.false_eq_true, false_iff]
        omega
    · -- the frame is given up, with the first byte written
      simp only [if_neg h125, if_neg h64k, Option.isSome_some, true_iff]
      omega

theorem wsRegistrySendText_isSome_iff (frame : Buffer 4096) (message : List UInt8) :
    (wsRegistrySendText frame message).isSome ↔
      message.length ≤ 4092 ∨ 65535 < message.length := by
  rw [wsRegistrySendText_eq, Option.isSome_map]
  exact wsSystemBuildFrame_isSome_iff (by decide) frame message

theorem wsRegistryBroadcast_isSome_iff (frame : Buffer 65535) (message : List UInt8) :
    (wsRegistryBroadcast frame message).isSome ↔
      message.length ≤ 65531 ∨ 65535 < message.length := by
  rw [← wsSystemBuildFrame_isSome_iff (by decide) frame message, wsRegistryBroadcast]
  cases wsSystemBuildFrame frame message <;> rfl

/-- **When the frames of the registry stay in their arrays.** A published message must leave
four bytes of 4096 for the header, and a broadcast one four bytes of 65535, unless it is so long
that no frame is built. -/
theorem frames_inBounds_iff (message : List UInt8) (frame : Buffer 4096)
    (broadcastFrame : Buffer 65535) :
    ((wsRegistrySendText frame message).isSome ↔
      message.length ≤ 4092 ∨ 65535 < message.length) ∧
    ((wsRegistryBroadcast broadcastFrame message).isSome ↔
      message.length ≤ 65531 ∨ 65535 < message.length) :=
  ⟨wsRegistrySendText_isSome_iff frame message,
    wsRegistryBroadcast_isSome_iff broadcastFrame message⟩

/-- A message of type `action` to the topic `a`, with a payload of `n` letters. -/
def jsonMessage (action : String) (n : Nat) : List UInt8 :=
  ascii "\x7b\"header\":\x7b\"type\":\"" ++ ascii action
    ++ ascii "\",\"dst\":\"a\"\x7d,\"payload\":\"" ++ List.replicate n 0x61 ++ ascii "\"\x7d"

/-- The shortest message that does not fit its array: a published one of 4093 bytes, and a
broadcast one of 65532 bytes. -/
theorem frames_leave_arrays :
    (jsonMessage "PUB" 4045).length = 4093 ∧
    wsRegistrySendText (.zeros 4096) (jsonMessage "PUB" 4045) = none ∧
    (jsonMessage "BROADCAST" 65478).length = 65532 ∧
    wsRegistryBroadcast (.zeros 65535) (jsonMessage "BROADCAST" 65478) = none := by
  have hpub : (jsonMessage "PUB" 4045).length = 4093 := by
    simp only [jsonMessage, List.length_append, List.length_replicate]
    decide
  have hbroadcast : (jsonMessage "BROADCAST" 65478).length = 65532 := by
    simp only [jsonMessage, List.length_append, List.length_replicate]
    decide
  refine ⟨hpub, ?_, hbroadcast, ?_⟩
  · rw [← Option.not_isSome_iff_eq_none, wsRegistrySendText_isSome_iff]
    omega
  · rw [← Option.not_isSome_iff_eq_none, wsRegistryBroadcast_isSome_iff]
    omega

end Halmos.WebSocket
