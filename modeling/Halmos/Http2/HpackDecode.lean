import Halmos.Http2.Hpack

set_option autoImplicit false

/-! # Reading what an encoder wrote

Integers, strings and representations in the encoding of RFC 7541 are read back by the decoder,
with whatever follows them left over. `readField_encode` is the outcome: one pass of the loop
of `parse_header` reads exactly one representation.
-/

namespace Halmos.Http2

open Hpack

/-! ## Integers -/

theorem and_127 (n : Nat) : n &&& 127 = n % 128 := Nat.and_two_pow_sub_one_eq_mod n 7

theorem and_128_eq_zero_iff : ∀ n < 256, (n &&& 128 = 0 ↔ n < 128) := by
  decide +kernel

/-- The continuation bytes from the `k`-th group of seven bits on. -/
theorem decodeIntLoop_encodeIntRest (m : Nat) (k res : Nat) (rest : List UInt8)
    (h : res + m * 2 ^ (7 * k) < 2 ^ 32) :
    decodeIntLoop (7 * k) res (encodeIntRest m ++ rest) = (res + m * 2 ^ (7 * k), rest) := by
  induction m using Nat.strong_induction_on generalizing k res with
  | _ m ih =>
      rw [encodeIntRest]
      by_cases hm : m < 128
      · have hbyte : (UInt8.ofNat m).toNat = m := by
          rw [UInt8.toNat_ofNat']
          exact Nat.mod_eq_of_lt (by omega)
        rw [if_pos hm, List.singleton_append, decodeIntLoop, hbyte, and_127,
          Nat.mod_eq_of_lt hm, Nat.shiftLeft_eq]
        rw [if_pos ((and_128_eq_zero_iff m (by omega)).mpr hm),
          Nat.mod_eq_of_lt (a := m * 2 ^ (7 * k)) (by omega), Nat.mod_eq_of_lt h]
      · have hbyte : (UInt8.ofNat (m % 128 + 128)).toNat = m % 128 + 128 := by
          rw [UInt8.toNat_ofNat']
          exact Nat.mod_eq_of_lt (by omega)
        have hlow : (m % 128 + 128) % 128 = m % 128 := by omega
        have hflag : ¬ (m % 128 + 128) &&& 128 = 0 := by
          rw [and_128_eq_zero_iff _ (by omega)]
          omega
        -- a further group of seven bits still fits into 32 bits
        have hk : k ≤ 3 := by
          by_contra hk
          have hpow : 2 ^ 28 ≤ 2 ^ (7 * k) := Nat.pow_le_pow_right (by decide) (by omega)
          have hmul : 128 * 2 ^ 28 ≤ m * 2 ^ (7 * k) :=
            Nat.mul_le_mul (by omega) hpow
          omega
        have hsplit : m % 128 * 2 ^ (7 * k) + m / 128 * 2 ^ (7 * (k + 1)) = m * 2 ^ (7 * k) := by
          have hpow : 2 ^ (7 * (k + 1)) = 128 * 2 ^ (7 * k) := by
            rw [show 7 * (k + 1) = 7 + 7 * k by omega, Nat.pow_add]
          rw [hpow, ← Nat.mul_assoc, ← Nat.add_mul]
          congr 1
          omega
        rw [if_neg hm, List.cons_append, decodeIntLoop, hbyte, and_127, hlow, Nat.shiftLeft_eq]
        rw [if_neg hflag, if_neg (by omega),
          Nat.mod_eq_of_lt (a := m % 128 * 2 ^ (7 * k)) (by omega),
          Nat.mod_eq_of_lt (a := res + m % 128 * 2 ^ (7 * k)) (by omega),
          show 7 * k + 7 = 7 * (k + 1) by omega,
          ih (m / 128) (by omega) (k + 1) _ (by omega)]
        rw [Nat.add_assoc, hsplit]

/-- The first byte of an integer carries the pattern in its high bits. -/
theorem encodeInt_cons (width pattern n : Nat) (hpat : pattern + 2 ^ width ≤ 256) :
    ∃ b t, encodeInt width pattern n = b :: t ∧ pattern ≤ b.toNat ∧
      b.toNat < pattern + 2 ^ width := by
  have hpos : 0 < 2 ^ width := Nat.two_pow_pos width
  unfold encodeInt
  split
  · next hlt =>
      refine ⟨_, _, rfl, ?_⟩
      rw [UInt8.toNat_ofNat', Nat.mod_eq_of_lt (by omega)]
      omega
  · refine ⟨_, _, rfl, ?_⟩
    rw [UInt8.toNat_ofNat', Nat.mod_eq_of_lt (by omega)]
    omega

/-- **Integers are read back**, for every prefix width and every value of 32 bits. -/
theorem http2HpackDecodeInt_encodeInt (width pattern : Nat) {n : Nat} (rest : List UInt8)
    (hdvd : 2 ^ width ∣ pattern) (hpat : pattern + 2 ^ width ≤ 256) (hn : n < 2 ^ 32) :
    http2HpackDecodeInt (encodeInt width pattern n ++ rest) (2 ^ width - 1) = (n, rest) := by
  have hpos : 0 < 2 ^ width := Nat.two_pow_pos width
  have hlow : ∀ m < 2 ^ width, (pattern + m) &&& (2 ^ width - 1) = m := by
    intro m hm
    obtain ⟨q, rfl⟩ := hdvd
    rw [Nat.and_two_pow_sub_one_eq_mod, Nat.mul_add_mod, Nat.mod_eq_of_lt hm]
  unfold encodeInt
  by_cases hlt : n < 2 ^ width - 1
  · have hbyte : (UInt8.ofNat (pattern + n)).toNat = pattern + n := by
      rw [UInt8.toNat_ofNat', Nat.mod_eq_of_lt (by omega)]
    rw [if_pos hlt, List.singleton_append, http2HpackDecodeInt, hbyte, hlow n (by omega)]
    rw [if_pos hlt]
  · have hbyte : (UInt8.ofNat (pattern + (2 ^ width - 1))).toNat = pattern + (2 ^ width - 1) := by
      rw [UInt8.toNat_ofNat', Nat.mod_eq_of_lt (by omega)]
    have hloop := decodeIntLoop_encodeIntRest (n - (2 ^ width - 1)) 0 (2 ^ width - 1) rest
      (by omega)
    rw [Nat.mul_zero, Nat.pow_zero, Nat.mul_one, Nat.add_sub_cancel' (by omega)] at hloop
    rw [if_neg hlt, List.cons_append, http2HpackDecodeInt, hbyte,
      hlow (2 ^ width - 1) (by omega)]
    rw [if_neg (Nat.lt_irrefl _), hloop]

/-! ## Strings -/

theorem StringLit_coded_length_le (s : StringLit) : s.coded.length ≤ 4 * s.octets.length := by
  unfold StringLit.coded
  split
  · exact huffmanEncode_length_le s.octets
  · omega

/-- A string as it comes out of a buffer of `outMax` bytes. -/
theorem http2HpackDecodeStringBuf_coded (s : StringLit) (outMax : Nat) (rest : List UInt8)
    (hlen : s.coded.length < 2 ^ 32) :
    http2HpackDecodeStringBuf (s.encode ++ rest) outMax
      = if 10240 < s.coded.length then ([], [])
        else if s.huffman then ((http2HuffmanDecode s.coded outMax).getD [], rest)
        else (s.coded.take (outMax - 1), rest) := by
  set pattern := if s.huffman then 0x80 else 0x00 with hpattern
  have hdvd : 2 ^ 7 ∣ pattern := by
    rw [hpattern]
    split <;> decide
  have hpat : pattern + 2 ^ 7 ≤ 256 := by
    rw [hpattern]
    split <;> decide
  obtain ⟨b, t, hcons, hge, hlt⟩ := encodeInt_cons 7 _ s.coded.length hpat
  have hint := http2HpackDecodeInt_encodeInt 7 _ (s.coded ++ rest) hdvd hpat hlen
  -- the first byte tells whether the string is Huffman coded
  have hflag : b.toNat &&& 0x80 ≠ 0 ↔ s.huffman = true := by
    rw [ne_eq, and_128_eq_zero_iff _ b.toNat_lt]
    cases hh : s.huffman <;> rw [hh] at hpattern <;> simp at hpattern <;> simp <;> omega
  have hdef : s.encode = encodeInt 7 pattern s.coded.length ++ s.coded := rfl
  rw [hcons] at hint
  rw [hdef, hcons, List.append_assoc, List.cons_append]
  unfold http2HpackDecodeStringBuf
  rw [List.cons_append] at hint
  simp only [show (0x7F : Nat) = 2 ^ 7 - 1 from rfl, hint]
  rw [List.take_left, List.drop_left]
  by_cases hlong : 10240 < s.coded.length
  · rw [if_pos hlong, if_pos (Or.inl hlong)]
  · have hfits : ¬ (s.coded.length > 10240 ∨ s.coded.length > (s.coded ++ rest).length) := by
      rw [List.length_append]
      omega
    rw [if_neg hlong, if_neg hfits]
    by_cases hh : s.huffman = true
    · rw [if_pos (hflag.mpr hh), if_pos hh]
    · rw [if_neg (fun h => hh (hflag.mp h)), if_neg hh]

/-- **Strings are read back** when they fit the buffer. -/
theorem http2HpackDecodeStringBuf_encode {s : StringLit} {outMax : Nat} (rest : List UInt8)
    (hfit : s.octets.length < outMax) (hmax : outMax ≤ 512) :
    http2HpackDecodeStringBuf (s.encode ++ rest) outMax = (s.octets, rest) := by
  have hlen := StringLit_coded_length_le s
  rw [http2HpackDecodeStringBuf_coded s outMax rest (by omega), if_neg (by omega)]
  unfold StringLit.coded
  cases hh : s.huffman with
  | true =>
      simp only [if_true]
      by_cases hnil : s.octets = []
      · rw [hnil]
        rfl
      · rw [http2HuffmanDecode_huffmanEncode hnil hfit]
        rfl
  | false =>
      simp only [Bool.false_eq_true, if_false]
      rw [List.take_of_length_le (by omega)]

/-! ## Representations -/

/-- The representation keeps to what an encoder can send: indices from 1 on, names under 128
and values under 512 octets, integers of 32 bits. -/
def Sendable : Rep → Prop
  | .indexed i => 0 < i ∧ i < 2 ^ 32
  | .literal _ (.index i) value => (0 < i ∧ i < 2 ^ 32) ∧ value.octets.length < 512
  | .literal _ (.lit name) value => name.octets.length < 128 ∧ value.octets.length < 512
  | .sizeUpdate size => size < 2 ^ 32

/-- The name that lands in `name_buf`. -/
def nameBuf (table : HPACKDynamicTable) : NameRef → List UInt8
  | .index i =>
      match http2HpackGetHeader table i with
      | some f => f.name.take 127
      | none => []
  | .lit name => name.octets

/-- The field the loop hands over for a representation. -/
def repField (table : HPACKDynamicTable) : Rep → Option Field
  | .indexed i => http2HpackGetHeader table i
  | .literal _ name value => nonEmptyField (nameBuf table name) value.octets
  | .sizeUpdate _ => none

/-- Whether the loop puts that field into the table. -/
def repInserts : Rep → Bool
  | .literal .incremental _ _ => true
  | _ => false

theorem firstByte_and : ∀ b < 256,
    (b &&& 0x80 ≠ 0 ↔ 128 ≤ b) ∧ (b &&& 0xC0 = 0x40 ↔ 64 ≤ b ∧ b < 128) ∧
    (b &&& 0xE0 = 0x20 ↔ 32 ≤ b ∧ b < 64) := by decide +kernel

theorem Indexing_pattern_dvd (mode : Indexing) : 2 ^ mode.width ∣ mode.pattern := by
  cases mode <;> decide

theorem Indexing_pattern_le (mode : Indexing) : mode.pattern + 2 ^ mode.width ≤ 256 := by
  cases mode <;> decide

/-- The pass a literal takes, by its first byte. -/
theorem readField_literal {table : HPACKDynamicTable} {b : UInt8} {p : List UInt8}
    (mode : Indexing) (hge : mode.pattern ≤ b.toNat)
    (hlt : b.toNat < mode.pattern + 2 ^ mode.width) :
    readField table b p
      = readLiteral table (b :: p) (2 ^ mode.width - 1) (decide (mode = .incremental)) := by
  obtain ⟨h80, hC0, hE0⟩ := firstByte_and b.toNat b.toNat_lt
  unfold readField
  cases mode with
  | incremental =>
      simp only [Indexing.pattern, Indexing.width] at hge hlt
      rw [if_neg (by rw [h80]; omega), if_pos (by rw [hC0]; omega)]
      rfl
  | without =>
      simp only [Indexing.pattern, Indexing.width] at hge hlt
      rw [if_neg (by rw [h80]; omega), if_neg (by rw [hC0]; omega),
        if_neg (by rw [hE0]; omega)]
      rfl
  | never =>
      simp only [Indexing.pattern, Indexing.width] at hge hlt
      rw [if_neg (by rw [h80]; omega), if_neg (by rw [hC0]; omega),
        if_neg (by rw [hE0]; omega)]
      rfl

/-- An index or a string that an encoder can send for a name. -/
def NameRef.Sendable : NameRef → Prop
  | .index i => 0 < i ∧ i < 2 ^ 32
  | .lit name => name.octets.length < 128

/-- A literal is read up to its value. -/
theorem readLiteral_value (table : HPACKDynamicTable) (mode : Indexing) {name : NameRef}
    (value : StringLit) (inserts : Bool) (rest : List UInt8) (h : NameRef.Sendable name) :
    readLiteral table ((Rep.literal mode name value).encode ++ rest) (2 ^ mode.width - 1) inserts
      = ⟨(http2HpackDecodeStringBuf (value.encode ++ rest) 512).2,
        nonEmptyField (nameBuf table name)
          (http2HpackDecodeStringBuf (value.encode ++ rest) 512).1, inserts⟩ := by
  cases name with
  | index i =>
      obtain ⟨hpos, hi⟩ := h
      have hint := http2HpackDecodeInt_encodeInt _ _ (value.encode ++ rest)
        (Indexing_pattern_dvd mode) (Indexing_pattern_le mode) hi
      unfold readLiteral
      rw [Rep.encode, List.append_assoc, hint]
      simp only
      rw [if_neg (by omega)]
      cases hget : http2HpackGetHeader table i <;> simp only [nameBuf, hget]
  | lit name =>
      have hint := http2HpackDecodeInt_encodeInt _ _ (name.encode ++ (value.encode ++ rest))
        (Indexing_pattern_dvd mode) (Indexing_pattern_le mode) (n := 0) (by omega)
      unfold readLiteral
      rw [Rep.encode, List.append_assoc, List.append_assoc, hint]
      simp only [if_true]
      rw [http2HpackDecodeStringBuf_encode _ h (by omega)]
      rfl

theorem readLiteral_encode (table : HPACKDynamicTable) (mode : Indexing) {name : NameRef}
    {value : StringLit} (inserts : Bool) (rest : List UInt8)
    (h : Sendable (.literal mode name value)) :
    readLiteral table ((Rep.literal mode name value).encode ++ rest) (2 ^ mode.width - 1) inserts
      = ⟨rest, nonEmptyField (nameBuf table name) value.octets, inserts⟩ := by
  have hname : NameRef.Sendable name ∧ value.octets.length < 512 := by
    cases name with
    | index i => exact h
    | lit name => exact h
  rw [readLiteral_value table mode value inserts rest hname.1,
    http2HpackDecodeStringBuf_encode rest hname.2 (Nat.le_refl 512)]

/-- The first byte of a literal shows its mode. -/
theorem literal_encode_cons (mode : Indexing) (name : NameRef) (value : StringLit) :
    ∃ b t, (Rep.literal mode name value).encode = b :: t ∧ mode.pattern ≤ b.toNat ∧
      b.toNat < mode.pattern + 2 ^ mode.width := by
  cases name with
  | index i =>
      obtain ⟨b, t, hcons, hb⟩ := encodeInt_cons _ _ i (Indexing_pattern_le mode)
      exact ⟨b, t ++ value.encode, by rw [Rep.encode, hcons, List.cons_append], hb⟩
  | lit name =>
      obtain ⟨b, t, hcons, hb⟩ := encodeInt_cons _ _ 0 (Indexing_pattern_le mode)
      exact ⟨b, t ++ name.encode ++ value.encode, by
        rw [Rep.encode, hcons, List.cons_append, List.cons_append], hb⟩

/-- **One pass reads one representation.** -/
theorem readField_encode (table : HPACKDynamicTable) {rep : Rep} (rest : List UInt8)
    (h : Sendable rep) :
    ∃ b p, rep.encode ++ rest = b :: p ∧
      readField table b p = ⟨rest, repField table rep, repInserts rep⟩ := by
  cases rep with
  | indexed i =>
      obtain ⟨b, t, hcons, hge, hlt⟩ := encodeInt_cons 7 0x80 i (by decide)
      have hint := http2HpackDecodeInt_encodeInt 7 0x80 rest (by decide)
        (by decide) h.2
      rw [hcons] at hint
      refine ⟨b, t ++ rest, by rw [Rep.encode, hcons, List.cons_append], ?_⟩
      unfold readField
      rw [if_pos ((firstByte_and _ b.toNat_lt).1.mpr hge)]
      rw [List.cons_append] at hint
      simp only [show (0x7F : Nat) = 2 ^ 7 - 1 from rfl, hint]
      rfl
  | literal mode name value =>
      obtain ⟨b, t, hcons, hge, hlt⟩ := literal_encode_cons mode name value
      have hread := readLiteral_encode table mode (decide (mode = .incremental)) rest h
      refine ⟨b, t ++ rest, by rw [hcons, List.cons_append], ?_⟩
      rw [readField_literal mode hge hlt, ← List.cons_append, ← hcons, hread]
      cases mode <;> rfl
  | sizeUpdate size =>
      obtain ⟨b, t, hcons, hge, hlt⟩ :=
        encodeInt_cons 5 0x20 size (by decide)
      have hint := http2HpackDecodeInt_encodeInt 5 0x20 rest (by decide)
        (by decide) h
      rw [hcons] at hint
      obtain ⟨h80, hC0, hE0⟩ := firstByte_and b.toNat b.toNat_lt
      refine ⟨b, t ++ rest, by rw [Rep.encode, hcons, List.cons_append], ?_⟩
      unfold readField
      rw [if_neg (by rw [h80]; omega), if_neg (by rw [hC0]; omega), if_pos (by rw [hE0]; omega)]
      rw [List.cons_append] at hint
      simp only [show (0x1F : Nat) = 2 ^ 5 - 1 from rfl, hint]
      rfl

end Halmos.Http2
