import Halmos.Basic.PrefixCode

set_option autoImplicit false

/-! # The Huffman code of HPACK

The code of RFC 7541, Appendix B: 256 words for the bytes and one for the end of a string,
which is never sent. A text is sent as the words of its bytes, filled up with ones to a whole
number of bytes.
-/

namespace Halmos.Hpack

open PrefixCode

/-- The words and their lengths, in the order of the bytes; the last one is the end of a
string. -/
def huffmanCode : List (Nat × Nat) :=
  [(0x1ff8, 13), (0x7fffd8, 23), (0xfffffe2, 28), (0xfffffe3, 28), (0xfffffe4, 28),
    (0xfffffe5, 28), (0xfffffe6, 28), (0xfffffe7, 28), (0xfffffe8, 28), (0xffffea, 24),
    (0x3ffffffc, 30), (0xfffffe9, 28), (0xfffffea, 28), (0x3ffffffd, 30), (0xfffffeb, 28),
    (0xfffffec, 28), (0xfffffed, 28), (0xfffffee, 28), (0xfffffef, 28), (0xffffff0, 28),
    (0xffffff1, 28), (0xffffff2, 28), (0x3ffffffe, 30), (0xffffff3, 28), (0xffffff4, 28),
    (0xffffff5, 28), (0xffffff6, 28), (0xffffff7, 28), (0xffffff8, 28), (0xffffff9, 28),
    (0xffffffa, 28), (0xffffffb, 28), (0x14, 6), (0x3f8, 10), (0x3f9, 10), (0xffa, 12),
    (0x1ff9, 13), (0x15, 6), (0xf8, 8), (0x7fa, 11), (0x3fa, 10), (0x3fb, 10), (0xf9, 8),
    (0x7fb, 11), (0xfa, 8), (0x16, 6), (0x17, 6), (0x18, 6), (0x0, 5), (0x1, 5), (0x2, 5),
    (0x19, 6), (0x1a, 6), (0x1b, 6), (0x1c, 6), (0x1d, 6), (0x1e, 6), (0x1f, 6), (0x5c, 7),
    (0xfb, 8), (0x7ffc, 15), (0x20, 6), (0xffb, 12), (0x3fc, 10), (0x1ffa, 13), (0x21, 6),
    (0x5d, 7), (0x5e, 7), (0x5f, 7), (0x60, 7), (0x61, 7), (0x62, 7), (0x63, 7), (0x64, 7),
    (0x65, 7), (0x66, 7), (0x67, 7), (0x68, 7), (0x69, 7), (0x6a, 7), (0x6b, 7), (0x6c, 7),
    (0x6d, 7), (0x6e, 7), (0x6f, 7), (0x70, 7), (0x71, 7), (0x72, 7), (0xfc, 8), (0x73, 7),
    (0xfd, 8), (0x1ffb, 13), (0x7fff0, 19), (0x1ffc, 13), (0x3ffc, 14), (0x22, 6), (0x7ffd, 15),
    (0x3, 5), (0x23, 6), (0x4, 5), (0x24, 6), (0x5, 5), (0x25, 6), (0x26, 6), (0x27, 6), (0x6, 5),
    (0x74, 7), (0x75, 7), (0x28, 6), (0x29, 6), (0x2a, 6), (0x7, 5), (0x2b, 6), (0x76, 7),
    (0x2c, 6), (0x8, 5), (0x9, 5), (0x2d, 6), (0x77, 7), (0x78, 7), (0x79, 7), (0x7a, 7),
    (0x7b, 7), (0x7ffe, 15), (0x7fc, 11), (0x3ffd, 14), (0x1ffd, 13), (0xffffffc, 28),
    (0xfffe6, 20), (0x3fffd2, 22), (0xfffe7, 20), (0xfffe8, 20), (0x3fffd3, 22), (0x3fffd4, 22),
    (0x3fffd5, 22), (0x7fffd9, 23), (0x3fffd6, 22), (0x7fffda, 23), (0x7fffdb, 23),
    (0x7fffdc, 23), (0x7fffdd, 23), (0x7fffde, 23), (0xffffeb, 24), (0x7fffdf, 23),
    (0xffffec, 24), (0xffffed, 24), (0x3fffd7, 22), (0x7fffe0, 23), (0xffffee, 24),
    (0x7fffe1, 23), (0x7fffe2, 23), (0x7fffe3, 23), (0x7fffe4, 23), (0x1fffdc, 21),
    (0x3fffd8, 22), (0x7fffe5, 23), (0x3fffd9, 22), (0x7fffe6, 23), (0x7fffe7, 23),
    (0xffffef, 24), (0x3fffda, 22), (0x1fffdd, 21), (0xfffe9, 20), (0x3fffdb, 22), (0x3fffdc, 22),
    (0x7fffe8, 23), (0x7fffe9, 23), (0x1fffde, 21), (0x7fffea, 23), (0x3fffdd, 22),
    (0x3fffde, 22), (0xfffff0, 24), (0x1fffdf, 21), (0x3fffdf, 22), (0x7fffeb, 23),
    (0x7fffec, 23), (0x1fffe0, 21), (0x1fffe1, 21), (0x3fffe0, 22), (0x1fffe2, 21),
    (0x7fffed, 23), (0x3fffe1, 22), (0x7fffee, 23), (0x7fffef, 23), (0xfffea, 20), (0x3fffe2, 22),
    (0x3fffe3, 22), (0x3fffe4, 22), (0x7ffff0, 23), (0x3fffe5, 22), (0x3fffe6, 22),
    (0x7ffff1, 23), (0x3ffffe0, 26), (0x3ffffe1, 26), (0xfffeb, 20), (0x7fff1, 19),
    (0x3fffe7, 22), (0x7ffff2, 23), (0x3fffe8, 22), (0x1ffffec, 25), (0x3ffffe2, 26),
    (0x3ffffe3, 26), (0x3ffffe4, 26), (0x7ffffde, 27), (0x7ffffdf, 27), (0x3ffffe5, 26),
    (0xfffff1, 24), (0x1ffffed, 25), (0x7fff2, 19), (0x1fffe3, 21), (0x3ffffe6, 26),
    (0x7ffffe0, 27), (0x7ffffe1, 27), (0x3ffffe7, 26), (0x7ffffe2, 27), (0xfffff2, 24),
    (0x1fffe4, 21), (0x1fffe5, 21), (0x3ffffe8, 26), (0x3ffffe9, 26), (0xffffffd, 28),
    (0x7ffffe3, 27), (0x7ffffe4, 27), (0x7ffffe5, 27), (0xfffec, 20), (0xfffff3, 24),
    (0xfffed, 20), (0x1fffe6, 21), (0x3fffe9, 22), (0x1fffe7, 21), (0x1fffe8, 21), (0x7ffff3, 23),
    (0x3fffea, 22), (0x3fffeb, 22), (0x1ffffee, 25), (0x1ffffef, 25), (0xfffff4, 24),
    (0xfffff5, 24), (0x3ffffea, 26), (0x7ffff4, 23), (0x3ffffeb, 26), (0x7ffffe6, 27),
    (0x3ffffec, 26), (0x3ffffed, 26), (0x7ffffe7, 27), (0x7ffffe8, 27), (0x7ffffe9, 27),
    (0x7ffffea, 27), (0x7ffffeb, 27), (0xffffffe, 28), (0x7ffffec, 27), (0x7ffffed, 27),
    (0x7ffffee, 27), (0x7ffffef, 27), (0x7fffff0, 27), (0x3ffffee, 26), (0x3fffffff, 30)]

/-- The word of a byte, or of the end of a string. -/
def huffmanWord : Option UInt8 → List Bool
  | some b => bits (huffmanCode.getD b.toNat (0, 0)).2 (huffmanCode.getD b.toNat (0, 0)).1
  | none => bits (huffmanCode.getD 256 (0, 0)).2 (huffmanCode.getD 256 (0, 0)).1

/-- The words of a text. -/
def huffmanBits (text : List UInt8) : List Bool := encode huffmanWord (text.map some)

/-- Bits as bytes, the last byte filled up with ones. -/
def packBits : List Bool → List UInt8
  | b7 :: b6 :: b5 :: b4 :: b3 :: b2 :: b1 :: b0 :: rest =>
      UInt8.ofNat (ofBits [b7, b6, b5, b4, b3, b2, b1, b0]) :: packBits rest
  | [] => []
  | rest => [UInt8.ofNat (ofBits (rest ++ List.replicate (8 - rest.length) true))]

/-- The bits of bytes. -/
def unpackBits (bs : List UInt8) : List Bool := bs.flatMap (fun b => bits 8 b.toNat)

/-- A text as it is sent. -/
def huffmanEncode (text : List UInt8) : List UInt8 := packBits (huffmanBits text)

/-! ## The code is a prefix code -/

/-- Neither of two words begins with the other: cut to the shorter length they differ. -/
def apart (v w : Nat × Nat) : Bool :=
  !Nat.beq (v.1 >>> (v.2 - w.2)) (w.1 >>> (w.2 - v.2))

def allApart : List (Nat × Nat) → Bool
  | [] => true
  | w :: ws => ws.all (apart w) && allApart ws

theorem allApart_pairwise {ws : List (Nat × Nat)} (h : allApart ws = true) :
    ws.Pairwise (fun v w => apart v w = true) := by
  induction ws with
  | nil => exact List.Pairwise.nil
  | cons w ws ih =>
      rw [allApart, Bool.and_eq_true, List.all_eq_true] at h
      exact List.Pairwise.cons h.1 (ih h.2)

theorem apart_bits {v w : Nat × Nat} (hv : v.1 < 2 ^ v.2) (hw : w.1 < 2 ^ w.2)
    (h : apart v w = true) :
    ¬ bits v.2 v.1 <+: bits w.2 w.1 ∧ ¬ bits w.2 w.1 <+: bits v.2 v.1 := by
  have hne : v.1 >>> (v.2 - w.2) ≠ w.1 >>> (w.2 - v.2) := by
    intro heq
    simp [apart, heq] at h
  constructor
  · intro hpre
    obtain ⟨hle, heq⟩ := bits_prefix hv hw hpre
    rw [Nat.sub_eq_zero_of_le hle, heq] at hne
    exact hne rfl
  · intro hpre
    obtain ⟨hle, heq⟩ := bits_prefix hw hv hpre
    rw [Nat.sub_eq_zero_of_le hle, heq] at hne
    exact hne rfl

/-- No word begins with another, every word fits its length, and there are 257 of them. -/
theorem huffmanCode_ok : allApart huffmanCode = true ∧
    (huffmanCode.all fun w => decide (w.1 < 2 ^ w.2) && decide (w.2 ≤ 30)) = true ∧
    huffmanCode.length = 257 := by
  decide +kernel

/-- The place of a letter in the list of words. -/
def letterIndex : Option UInt8 → Nat
  | some b => b.toNat
  | none => 256

theorem letterIndex_lt (a : Option UInt8) : letterIndex a < huffmanCode.length := by
  rw [huffmanCode_ok.2.2]
  cases a with
  | none => exact Nat.lt_succ_self 256
  | some b =>
      have hb := b.toNat_lt
      show b.toNat < 257
      omega

theorem letterIndex_inj {a b : Option UInt8} (h : letterIndex a = letterIndex b) : a = b := by
  cases a with
  | none =>
      cases b with
      | none => rfl
      | some c =>
          have hc := c.toNat_lt
          have heq : 256 = c.toNat := h
          omega
  | some c =>
      cases b with
      | none =>
          have hc := c.toNat_lt
          have heq : c.toNat = 256 := h
          omega
      | some d => exact congrArg some (UInt8.toNat_inj.mp h)

/-- The entry of a letter. -/
def letterEntry (a : Option UInt8) : Nat × Nat :=
  huffmanCode.get ⟨letterIndex a, letterIndex_lt a⟩

theorem huffmanWord_eq (a : Option UInt8) :
    huffmanWord a = bits (letterEntry a).2 (letterEntry a).1 := by
  have hget : huffmanCode.getD (letterIndex a) (0, 0) = letterEntry a := by
    rw [List.getD_eq_getElem?_getD, List.getElem?_eq_getElem (letterIndex_lt a)]
    rfl
  rw [← hget]
  cases a <;> rfl

theorem letterEntry_wf (a : Option UInt8) :
    (letterEntry a).1 < 2 ^ (letterEntry a).2 ∧ (letterEntry a).2 ≤ 30 := by
  have hall := List.all_eq_true.mp huffmanCode_ok.2.1 (letterEntry a) (List.get_mem _ _)
  simpa using hall

theorem huffmanWord_length_le (a : Option UInt8) : (huffmanWord a).length ≤ 30 := by
  rw [huffmanWord_eq, bits_length]
  exact (letterEntry_wf a).2

/-- **The Huffman code is a prefix code**, the end of a string included. -/
theorem huffmanWord_prefixFree : PrefixFree huffmanWord := by
  intro a b hpre
  by_contra hne
  have hidx : letterIndex a ≠ letterIndex b := fun h => hne (letterIndex_inj h)
  have hpair := List.pairwise_iff_get.mp (allApart_pairwise huffmanCode_ok.1)
  rw [huffmanWord_eq a, huffmanWord_eq b] at hpre
  rcases Nat.lt_or_gt_of_ne hidx with hlt | hlt
  · have hap := hpair ⟨_, letterIndex_lt a⟩ ⟨_, letterIndex_lt b⟩ hlt
    exact (apart_bits (letterEntry_wf a).1 (letterEntry_wf b).1 hap).1 hpre
  · have hap := hpair ⟨_, letterIndex_lt b⟩ ⟨_, letterIndex_lt a⟩ hlt
    exact (apart_bits (letterEntry_wf b).1 (letterEntry_wf a).1 hap).2 hpre

/-- The word of a byte. -/
def byteWord (b : UInt8) : List Bool := huffmanWord (some b)

theorem huffmanBits_eq (text : List UInt8) : huffmanBits text = encode byteWord text := by
  unfold huffmanBits encode
  rw [List.flatMap_map]
  rfl

theorem byteWord_prefixFree : PrefixFree byteWord := fun a b h =>
  Option.some.inj (huffmanWord_prefixFree (some a) (some b) h)

theorem byteWord_ne_nil (b : UInt8) : byteWord b ≠ [] := by
  intro hnil
  have hword : huffmanWord (some b) = [] := hnil
  have hpre : huffmanWord (some b) <+: huffmanWord none := by
    rw [hword]
    exact List.nil_prefix
  cases huffmanWord_prefixFree (some b) none hpre

/-- What no word begins, no byte's word begins. -/
theorem internal_byteWord {w : List Bool} (h : Internal huffmanWord w) : Internal byteWord w :=
  fun b => h (some b)

/-- Every entry of the list belongs to a letter. -/
theorem exists_letterEntry {w : Nat × Nat} (h : w ∈ huffmanCode) : ∃ a, letterEntry a = w := by
  obtain ⟨⟨i, hi⟩, hw⟩ := List.mem_iff_get.mp h
  have hindex : ∃ a, letterIndex a = i := by
    rw [huffmanCode_ok.2.2] at hi
    by_cases hbyte : i < 256
    · refine ⟨some (UInt8.ofNat i), ?_⟩
      show (UInt8.ofNat i).toNat = i
      rw [UInt8.toNat_ofNat']
      exact Nat.mod_eq_of_lt hbyte
    · refine ⟨none, ?_⟩
      show 256 = i
      omega
  obtain ⟨a, rfl⟩ := hindex
  exact ⟨a, hw⟩

theorem huffmanWord_none : huffmanWord none = List.replicate 30 true := rfl

/-- Padding is an incomplete word. -/
theorem internal_replicate {k : Nat} (h : k < 30) :
    Internal huffmanWord (List.replicate k true) := by
  have hpre : List.replicate k true <+: huffmanWord none := by
    rw [huffmanWord_none]
    refine ⟨List.replicate (30 - k) true, ?_⟩
    rw [List.replicate_append_replicate, Nat.add_sub_cancel' (Nat.le_of_lt h)]
  refine internal_of_prefix huffmanWord_prefixFree hpre (fun heq => ?_)
  have hlen := congrArg List.length heq
  rw [huffmanWord_none, List.length_replicate, List.length_replicate] at hlen
  omega

/-! ## Packed bits -/

theorem unpackBits_cons (b : UInt8) (bs : List UInt8) :
    unpackBits (b :: bs) = bits 8 b.toNat ++ unpackBits bs := rfl

theorem bits_ofNat_ofBits {w : List Bool} (h : w.length = 8) :
    bits 8 (UInt8.ofNat (ofBits w)).toNat = w := by
  have hlt := ofBits_lt w
  rw [h] at hlt
  have hbits := bits_ofBits w
  rw [h] at hbits
  rwa [UInt8.toNat_ofNat', Nat.mod_eq_of_lt hlt]

/-- Packed bits are the bits followed by fewer than eight ones. -/
theorem unpackBits_packBits (w : List Bool) :
    ∃ k < 8, unpackBits (packBits w) = w ++ List.replicate k true := by
  induction w using packBits.induct with
  | case1 b7 b6 b5 b4 b3 b2 b1 b0 rest ih =>
      obtain ⟨k, hk, heq⟩ := ih
      refine ⟨k, hk, ?_⟩
      rw [packBits, unpackBits_cons, bits_ofNat_ofBits rfl, heq]
      rfl
  | case2 => exact ⟨0, by omega, rfl⟩
  | case3 rest hlong hnil =>
      have hlt : rest.length < 8 := by
        by_contra hle
        have hsplit : rest = rest.take 8 ++ rest.drop 8 := (List.take_append_drop 8 rest).symm
        have height : (rest.take 8).length = 8 := by
          rw [List.length_take]
          omega
        match rest.take 8, height, hsplit with
        | [b7, b6, b5, b4, b3, b2, b1, b0], _, hsplit => exact hlong _ _ _ _ _ _ _ _ _ hsplit
      have hpos : 0 < rest.length := List.length_pos_iff.mpr hnil
      refine ⟨8 - rest.length, by omega, ?_⟩
      rw [packBits, unpackBits_cons, bits_ofNat_ofBits]
      · exact List.append_nil _
      · rw [List.length_append, List.length_replicate]
        omega
      · exact hlong
      · exact hnil

theorem huffmanBits_length_le (text : List UInt8) :
    (huffmanBits text).length ≤ 30 * text.length := by
  induction text with
  | nil => exact Nat.le_refl 0
  | cons b text ih =>
      have hword := huffmanWord_length_le (some b)
      have hcons : huffmanBits (b :: text) = huffmanWord (some b) ++ huffmanBits text := rfl
      rw [hcons, List.length_append, List.length_cons]
      omega

theorem unpackBits_length (bs : List UInt8) : (unpackBits bs).length = 8 * bs.length := by
  induction bs with
  | nil => rfl
  | cons b bs ih =>
      rw [unpackBits_cons, List.length_append, bits_length, ih, List.length_cons]
      omega

/-- A text is sent in at most four times as many bytes. -/
theorem huffmanEncode_length_le (text : List UInt8) :
    (huffmanEncode text).length ≤ 4 * text.length := by
  obtain ⟨k, hk, heq⟩ := unpackBits_packBits (huffmanBits text)
  have hlen := congrArg List.length heq
  rw [unpackBits_length, List.length_append, List.length_replicate] at hlen
  have hbits := huffmanBits_length_le text
  show (packBits (huffmanBits text)).length ≤ _
  omega

end Halmos.Hpack
