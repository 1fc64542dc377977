import Halmos.Http2.HeaderLines
import Halmos.Http2.HpackSafe

set_option autoImplicit false

/-! # Integers of a header block in memory

`http2_hpack_decode_int` on the bytes of an integer anywhere in a payload, for the prefixes that
header blocks have, and on bytes of any kind. The loop of `http2_response_send_complex_header` that
writes the length of a value is the encoder of the RFC with a prefix of seven bits
(`decodeInt_inverts`).
-/

namespace Halmos.Http2.Memory

open Hpack

/-- A prefix of four to seven bits, and the other bits of its byte. -/
structure IntPrefix where
  width : Nat
  pattern : Nat
  four_le : 4 ≤ width
  le_seven : width ≤ 7
  pattern_dvd : 2 ^ width ∣ pattern
  pattern_lt : pattern < 256

namespace IntPrefix

variable (p : IntPrefix)

/-- The mask that the decoder is called with. -/
def mask : Nat := 2 ^ p.width - 1

/-- The bytes of a value after the RFC. -/
def encode (v : UInt32) : List UInt8 := encodeInt p.width p.pattern v.toNat

/-- The prefix is below the other bits of its byte. -/
theorem pattern_add_le : p.pattern + 2 ^ p.width ≤ 256 := by
  obtain ⟨q, hq⟩ := p.pattern_dvd
  have hsplit : 256 = 2 ^ p.width * 2 ^ (8 - p.width) := by
    have hle := p.le_seven
    rw [← Nat.pow_add, Nat.add_sub_cancel' (by omega)]
  have hlt := p.pattern_lt
  rw [hq, hsplit] at hlt
  have hstep : q + 1 ≤ 2 ^ (8 - p.width) := Nat.lt_of_mul_lt_mul_left hlt
  calc p.pattern + 2 ^ p.width = 2 ^ p.width * (q + 1) := by rw [hq, Nat.mul_add, Nat.mul_one]
    _ ≤ 2 ^ p.width * 2 ^ (8 - p.width) := Nat.mul_le_mul_left _ hstep
    _ = 256 := hsplit.symm

end IntPrefix

section Anywhere

variable (before bs after : List UInt8)

/-- A call for the bytes `bs` of a payload. -/
theorem http2HpackDecodeInt_anywhere (mask : Nat) :
    ∃ pos', http2HpackDecodeInt (before ++ (bs ++ after)) (before.length + bs.length) before.length
        mask = some ((Http2.http2HpackDecodeInt bs mask).1, pos') ∧
      before.length ≤ pos' ∧ pos' ≤ before.length + bs.length ∧ (bs ≠ [] → before.length < pos') ∧
      pos' + (Http2.http2HpackDecodeInt bs mask).2.length = before.length + bs.length := by
  have hstop : before.length + bs.length ≤ (before ++ (bs ++ after)).length := by
    simp only [List.length_append]
    omega
  have hview : view (before ++ (bs ++ after)) (before.length + bs.length) before.length = bs := by
    rw [view, ← List.append_assoc, ← List.length_append, List.take_left, List.drop_left]
  obtain ⟨pos', hrun, hmoved, hadv⟩ :=
    http2HpackDecodeInt_spec hstop (Nat.le_add_right before.length bs.length) mask
  rw [hview] at hrun hmoved
  have hlen : (Http2.http2HpackDecodeInt bs mask).2.length = before.length + bs.length - pos' := by
    rw [← hmoved.view_eq, view_length hstop]
  have hle := hmoved.le_stop
  refine ⟨pos', hrun, hmoved.le, hle, fun hne => hadv ?_, by omega⟩
  have hpos := List.length_pos_of_ne_nil hne
  omega

/-- An integer in front of any bytes is read, and nothing more. -/
theorem http2HpackDecodeInt_reads {mask n : Nat} {code : List UInt8}
    (h : Http2.http2HpackDecodeInt (code ++ bs) mask = (n, bs)) :
    http2HpackDecodeInt (before ++ (code ++ bs ++ after)) (before.length + (code ++ bs).length)
      before.length mask = some (n, before.length + code.length) := by
  obtain ⟨pos', hrun, -, -, -, hpos⟩ := http2HpackDecodeInt_anywhere before (code ++ bs) after mask
  rw [h] at hrun hpos
  have heq : pos' = before.length + code.length := by
    simp only [List.length_append] at hpos
    omega
  rw [hrun, heq]

end Anywhere

/-- The decoder inverts the encoding of every value of 32 bits with every prefix, in front of any
bytes, and stops behind it; it takes at least one of any bytes and none behind them; and it inverts
the loop that writes the length of a value. -/
theorem decodeInt_inverts :
    (∀ (p : IntPrefix) (v : UInt32) (before rest after : List UInt8),
      http2HpackDecodeInt (before ++ (p.encode v ++ rest ++ after))
        (before.length + (p.encode v ++ rest).length) before.length p.mask
          = some (v.toNat, before.length + (p.encode v).length)) ∧
    (∀ (before after : List UInt8) (b : UInt8) (bs : List UInt8) (mask : Nat), ∃ n pos',
      http2HpackDecodeInt (before ++ (b :: bs ++ after)) (before.length + (b :: bs).length)
        before.length mask = some (n, pos') ∧
        before.length + 1 ≤ pos' ∧ pos' ≤ before.length + (b :: bs).length) ∧
    ∀ (len : UInt32) (before rest after : List UInt8),
      http2HpackDecodeInt (before ++ (lengthBytes len.toNat ++ rest ++ after))
        (before.length + (lengthBytes len.toNat ++ rest).length) before.length 0x7F
          = some (len.toNat, before.length + (lengthBytes len.toNat).length) := by
  refine ⟨fun p v before rest after => ?_, fun before after b bs mask => ?_,
    fun len before rest after => ?_⟩
  · refine http2HpackDecodeInt_reads before rest after ?_
    exact http2HpackDecodeInt_encodeInt p.width p.pattern rest p.pattern_dvd p.pattern_add_le
      v.toNat_lt
  · obtain ⟨pos', hrun, -, hle, hadv, -⟩ := http2HpackDecodeInt_anywhere before (b :: bs) after mask
    exact ⟨_, pos', hrun, hadv (List.cons_ne_nil b bs), hle⟩
  · refine http2HpackDecodeInt_reads before rest after ?_
    rw [lengthBytes_eq]
    exact http2HpackDecodeInt_encodeInt 7 0x00 rest (Nat.dvd_zero _) (by decide) len.toNat_lt

/-- At the end of the bytes the position stays. -/
theorem decodeInt_end :
    ¬ ∃ n pos', http2HpackDecodeInt [] 0 0 0x7F = some (n, pos') ∧ 0 + 1 ≤ pos' := by
  rintro ⟨n, pos', hrun, hle⟩
  rw [http2HpackDecodeInt, if_pos (Nat.le_refl 0)] at hrun
  obtain ⟨-, rfl⟩ := Prod.mk.inj (Option.some.inj hrun)
  exact absurd hle (by decide)

end Halmos.Http2.Memory
