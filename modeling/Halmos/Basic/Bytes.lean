import Mathlib.Tactic

set_option autoImplicit false

/-! # Bytes

`byteAt n k` is the C expression `(n >> k) & 0xFF`. The recombination lemmas undo it for the
widths wire formats use: 16, 24 and 32 bits. `ascii` gives the bytes of a string literal, and
`cstr` the bytes of a buffer up to its first NUL, which is what C reads there.
-/

namespace Halmos

/-- The bytes of a string. -/
def ascii (s : String) : List UInt8 := s.toList.map (fun c => UInt8.ofNat c.toNat)

/-- The string at the head of a buffer. -/
def cstr (buf : List UInt8) : List UInt8 := buf.takeWhile (fun b => b ≠ 0)

@[simp] theorem cstr_nil : cstr [] = [] := rfl

theorem cstr_isPrefix (buf : List UInt8) : cstr buf <+: buf := List.takeWhile_prefix _

theorem cstr_cons (b : UInt8) (buf : List UInt8) :
    cstr (b :: buf) = if b = 0 then [] else b :: cstr buf := by
  by_cases hb : b = 0 <;> simp [cstr, hb]

theorem zero_notMem_cstr (buf : List UInt8) : 0 ∉ cstr buf := by
  induction buf with
  | nil => simp
  | cons b buf ih =>
      rw [cstr_cons]
      by_cases hb : b = 0
      · simp [hb]
      · simp [hb, ih, Ne.symm hb]

theorem cstr_of_notMem {buf : List UInt8} (h : 0 ∉ buf) : cstr buf = buf := by
  induction buf with
  | nil => rfl
  | cons b buf ih =>
      have hb : b ≠ 0 := fun h0 => h (by simp [h0])
      rw [cstr_cons, if_neg hb, ih (fun hmem => h (by simp [hmem]))]

theorem cstr_append_of_notMem {a : List UInt8} (h : 0 ∉ a) (b : List UInt8) :
    cstr (a ++ b) = a ++ cstr b := by
  induction a with
  | nil => rfl
  | cons c a ih =>
      rw [List.mem_cons, not_or] at h
      rw [List.cons_append, cstr_cons, if_neg (Ne.symm h.1), ih h.2, List.cons_append]

theorem cstr_append_of_mem {buf : List UInt8} (h : 0 ∈ buf) (s : List UInt8) :
    cstr (buf ++ s) = cstr buf := by
  induction buf with
  | nil => exact absurd h List.not_mem_nil
  | cons b buf ih =>
      rw [List.cons_append, cstr_cons, cstr_cons]
      by_cases hb : b = 0
      · rw [if_pos hb, if_pos hb]
      · have hmem : 0 ∈ buf := by
          rcases List.mem_cons.mp h with h | h
          · exact absurd h.symm hb
          · exact h
        rw [if_neg hb, if_neg hb, ih hmem]

/-- A buffer without NUL is a string as it stands, and no other buffer is. -/
theorem cstr_eq_self_iff (buf : List UInt8) : cstr buf = buf ↔ 0 ∉ buf := by
  constructor
  · intro h
    rw [← h]
    exact zero_notMem_cstr buf
  · exact cstr_of_notMem

/-- The byte `(n >> k) & 0xFF`. -/
def byteAt (n k : Nat) : UInt8 := UInt8.ofNat ((n >>> k) &&& 0xFF)

theorem and_255 (n : Nat) : n &&& 0xFF = n % 256 := Nat.and_two_pow_sub_one_eq_mod n 8

theorem byteAt_toNat (n k : Nat) : (byteAt n k).toNat = n / 2 ^ k % 256 := by
  show (UInt8.ofNat _).toNat = _
  rw [UInt8.toNat_ofNat', and_255, Nat.shiftRight_eq_div_pow]
  exact Nat.mod_mod _ _

/-- Bits put below a shifted number are added to it. -/
theorem shiftLeft_or {a b k : Nat} (h : b < 2 ^ k) : a <<< k ||| b = a * 2 ^ k + b := by
  rw [← Nat.shiftLeft_add_eq_or_of_lt h, Nat.shiftLeft_eq]

theorem join16 (n : Nat) (h : n < 2 ^ 16) :
    (byteAt n 8).toNat <<< 8 ||| (byteAt n 0).toNat = n := by
  simp only [byteAt_toNat]
  rw [shiftLeft_or (by omega)]
  omega

theorem join24 (n : Nat) (h : n < 2 ^ 24) :
    (byteAt n 16).toNat <<< 16 ||| (byteAt n 8).toNat <<< 8 ||| (byteAt n 0).toNat = n := by
  simp only [byteAt_toNat]
  rw [Nat.or_assoc, shiftLeft_or (a := n / 2 ^ 8 % 256) (by omega), shiftLeft_or (by omega)]
  omega

theorem join32 (n : Nat) (h : n < 2 ^ 32) :
    (byteAt n 24).toNat <<< 24 ||| (byteAt n 16).toNat <<< 16 ||| (byteAt n 8).toNat <<< 8
      ||| (byteAt n 0).toNat = n := by
  simp only [byteAt_toNat]
  rw [Nat.or_assoc, Nat.or_assoc, shiftLeft_or (a := n / 2 ^ 8 % 256) (by omega),
    shiftLeft_or (a := n / 2 ^ 16 % 256) (by omega), shiftLeft_or (by omega)]
  omega

/-- The number whose bytes, highest first, are `bs`: what `ntohs` and `be64toh` make of bytes in
network order. -/
def bigEndian (bs : List UInt8) : Nat := bs.foldl (fun n b => n * 256 + b.toNat) 0

/-- One more byte of the number behind the ones above it. -/
theorem div_byteAt (n k : Nat) : n / 2 ^ (k + 8) * 256 + (byteAt n k).toNat = n / 2 ^ k := by
  have hdiv : n / 2 ^ (k + 8) = n / 2 ^ k / 256 := by
    rw [Nat.pow_add, ← Nat.div_div_eq_div_mul]
  rw [hdiv, byteAt_toNat]
  omega

theorem bigEndian_16 (n : Nat) (h : n < 2 ^ 16) : bigEndian [byteAt n 8, byteAt n 0] = n := by
  simp only [bigEndian, List.foldl_cons, List.foldl_nil, byteAt_toNat]
  omega

theorem bigEndian_64 (n : Nat) (h : n < 2 ^ 64) :
    bigEndian [byteAt n 56, byteAt n 48, byteAt n 40, byteAt n 32, byteAt n 24, byteAt n 16,
      byteAt n 8, byteAt n 0] = n := by
  -- nothing is above the highest byte, and each byte takes the quotient one step down
  have hstart : bigEndian [byteAt n 56, byteAt n 48, byteAt n 40, byteAt n 32, byteAt n 24,
        byteAt n 16, byteAt n 8, byteAt n 0]
      = [byteAt n 56, byteAt n 48, byteAt n 40, byteAt n 32, byteAt n 24, byteAt n 16,
        byteAt n 8, byteAt n 0].foldl (fun m b => m * 256 + b.toNat) (n / 2 ^ 64) := by
    rw [Nat.div_eq_of_lt h]
    rfl
  rw [hstart]
  simp only [List.foldl_cons, List.foldl_nil]
  rw [div_byteAt n 56, div_byteAt n 48, div_byteAt n 40, div_byteAt n 32, div_byteAt n 24,
    div_byteAt n 16, div_byteAt n 8, div_byteAt n 0, Nat.pow_zero, Nat.div_one]

/-- A number below `2 ^ 31` leaves the top bit of its highest byte clear. -/
theorem byteAt_24_and_127 (n : Nat) (h : n < 2 ^ 31) :
    (byteAt n 24).toNat &&& 0x7F = (byteAt n 24).toNat := by
  rw [show (0x7F : Nat) = 2 ^ 7 - 1 from rfl, Nat.and_two_pow_sub_one_eq_mod, byteAt_toNat]
  omega

end Halmos
