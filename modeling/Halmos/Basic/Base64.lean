import Halmos.Basic.Bytes
import Halmos.Basic.PrefixCode

set_option autoImplicit false

/-! # Base64

The base 64 encoding of RFC 4648 (Section 4) over any alphabet. The bits of the octets are cut into
groups of six, the last one filled up with zeros; each group becomes a character, and pad characters
fill up the last four. The decoder takes nothing outside the alphabet, no wrong padding and no
fill bits other than zeros (Section 3.5), and gives back the octets (`decode_encode`).
-/

namespace Halmos.Base64

open PrefixCode

/-- The characters for the 64 groups, and the pad character. -/
structure Alphabet where
  chars : List UInt8
  pad : UInt8
  length_eq : chars.length = 64
  nodup : chars.Nodup
  pad_notMem : pad ∉ chars

/-- Table 1. -/
def standard : Alphabet where
  chars := ascii "ABCDEFGHIJKLMNOPQRSTUVWXYZabcdefghijklmnopqrstuvwxyz0123456789+/"
  pad := 0x3D
  length_eq := by decide
  nodup := by decide
  pad_notMem := by decide

def octetBits (s : List UInt8) : List Bool := encode (bits 8) (s.map UInt8.toNat)

def sextetBits (values : List Nat) : List Bool := encode (bits 6) values

namespace Alphabet

variable (A : Alphabet)

def char (value : Nat) : UInt8 := A.chars.getD value A.pad

/-- The group a character stands for. -/
def value (c : UInt8) : Option Nat := A.chars.idxOf? c

/-- The characters for some groups of six bits, with the padding behind them. -/
def text (values : List Nat) : List UInt8 :=
  values.map A.char ++ List.replicate ((4 - values.length % 4) % 4) A.pad

def encode (s : List UInt8) : List UInt8 :=
  let w := octetBits s
  let n := (w.length + 5) / 6
  A.text (words 6 n (w ++ List.replicate (n * 6 - w.length) false))

def decode (t : List UInt8) : Option (List UInt8) := do
  let body := t.takeWhile (fun c => c ≠ A.pad)
  if t.length % 4 = 0 ∧ t.length ≤ body.length + 2 ∧
      (t.drop body.length).all (fun c => c = A.pad) = true then do
    let values ← body.mapM A.value
    let w := sextetBits values
    let n := w.length / 8
    if (w.drop (n * 8)).all (fun b => !b) = true then some ((words 8 n w).map UInt8.ofNat) else none
  else none

end Alphabet

/-! ## Characters -/

variable {A : Alphabet} {s : List UInt8} {values : List Nat} {v z : Nat}

theorem getElem?_chars (hv : v < 64) : A.chars[v]? = some (A.char v) := by
  have hlt : v < A.chars.length := by rwa [A.length_eq]
  rw [Alphabet.char, List.getD_eq_getElem?_getD, List.getElem?_eq_getElem hlt, Option.getD_some]

theorem char_mem (hv : v < 64) : A.char v ∈ A.chars := List.mem_of_getElem? (getElem?_chars hv)

theorem value_char (hv : v < 64) : A.value (A.char v) = some v := by
  obtain ⟨hlt, hchar⟩ := List.getElem?_eq_some_iff.mp (getElem?_chars (A := A) hv)
  rw [Alphabet.value, List.idxOf?_eq_some_iff]
  refine ⟨hlt, hchar, fun j hj heq => ?_⟩
  rw [← hchar] at heq
  exact absurd (A.nodup.getElem_inj_iff.mp heq) (Nat.ne_of_lt hj)

theorem char_ne_pad (hv : v < 64) : A.char v ≠ A.pad := by
  intro heq
  exact A.pad_notMem (heq ▸ char_mem hv)

theorem mapM_value (h : ∀ v ∈ values, v < 64) : (values.map A.char).mapM A.value = some values := by
  induction values with
  | nil => rfl
  | cons v values ih =>
      obtain ⟨hv, hvalues⟩ := List.forall_mem_cons.mp h
      rw [List.map_cons, List.mapM_cons, value_char hv, ih hvalues]
      rfl

/-! ## Octets and groups -/

theorem octetBits_length (s : List UInt8) : (octetBits s).length = s.length * 8 := by
  rw [octetBits, encode_bits_length, List.length_map]

theorem words_octetBits (s : List UInt8) (rest : List Bool) :
    (words 8 s.length (octetBits s ++ rest)).map UInt8.ofNat = s := by
  have hlt : ∀ v ∈ s.map UInt8.toNat, v < 2 ^ 8 := by
    intro v hv
    obtain ⟨b, -, rfl⟩ := List.mem_map.mp hv
    exact b.toNat_lt
  have hwords := words_encode hlt rest
  rw [List.length_map] at hwords
  have hback : UInt8.ofNat ∘ UInt8.toNat = id := funext fun b => UInt8.ofNat_toNat
  rw [octetBits, hwords, List.map_map, hback, List.map_id]

/-- These groups are the octets, filled up with fewer than six zeros. -/
structure Groups (values : List Nat) (s : List UInt8) (z : Nat) : Prop where
  lt : ∀ v ∈ values, v < 64
  bits_eq : sextetBits values = octetBits s ++ List.replicate z false
  fill_lt : z < 6

theorem Groups.length (h : Groups values s z) : values.length * 6 = s.length * 8 + z := by
  have hlen := congrArg List.length h.bits_eq
  rwa [sextetBits, encode_bits_length, List.length_append, octetBits_length,
    List.length_replicate] at hlen

/-- The groups of some octets, however they are found, give the encoding. -/
theorem Groups.encode_eq (h : Groups values s z) : A.encode s = A.text values := by
  have hlen := h.length
  have hn : (s.length * 8 + 5) / 6 = values.length := by
    have := h.fill_lt
    omega
  have hfill : values.length * 6 - s.length * 8 = z := by omega
  unfold Alphabet.encode
  dsimp only
  rw [octetBits_length, hn, hfill, ← h.bits_eq, sextetBits]
  have hwords := words_encode (k := 6) h.lt []
  rw [List.append_nil] at hwords
  rw [hwords]

theorem exists_groups (s : List UInt8) : ∃ values z, Groups values s z := by
  generalize hn : (s.length * 8 + 5) / 6 = n
  generalize hw : octetBits s ++ List.replicate (n * 6 - s.length * 8) false = w
  have hlen : w.length = n * 6 := by
    rw [← hw, List.length_append, octetBits_length, List.length_replicate]
    omega
  exact ⟨words 6 n w, n * 6 - s.length * 8, fun v hv => words_lt hv,
    (encode_words hlen).trans hw.symm, by omega⟩

/-! ## Three octets, four groups -/

@[simp] theorem octetBits_cons (a : UInt8) (s : List UInt8) :
    octetBits (a :: s) = bits 8 a.toNat ++ octetBits s := rfl

@[simp] theorem sextetBits_cons (v : Nat) (values : List Nat) :
    sextetBits (v :: values) = bits 6 v ++ sextetBits values := rfl

theorem bits_six_two (a : Nat) : bits 8 a = bits 6 (a / 4) ++ bits 2 (a % 4) := bits_div_mod 6 2 a

theorem bits_four_four (b : Nat) : bits 8 b = bits 4 (b / 16) ++ bits 4 (b % 16) :=
  bits_div_mod 4 4 b

theorem bits_two_six (c : Nat) : bits 8 c = bits 2 (c / 64) ++ bits 6 (c % 64) := bits_div_mod 2 6 c

/-- The group between the first and the second octet. -/
theorem bits_first_second (a : Nat) {b : Nat} (hb : b < 256) :
    bits 6 (a % 4 * 16 + b / 16) = bits 2 (a % 4) ++ bits 4 (b / 16) :=
  bits_mul_add (a := 2) (b := 4) (by omega)

/-- The group between the second and the third octet. -/
theorem bits_second_third (b : Nat) {c : Nat} (hc : c < 256) :
    bits 6 (b % 16 * 4 + c / 64) = bits 4 (b % 16) ++ bits 2 (c / 64) :=
  bits_mul_add (a := 4) (b := 2) (by omega)

theorem Groups.nil : Groups [] [] 0 := ⟨by simp, rfl, by decide⟩

theorem Groups.one (a : UInt8) : Groups [a.toNat / 4, a.toNat % 4 * 16] [a] 4 := by
  have ha := a.toNat_lt
  have hlast := bits_first_second a.toNat (b := 0) (by decide)
  refine ⟨by simp; omega, ?_, by decide⟩
  simp only [sextetBits_cons, octetBits_cons, bits_six_two a.toNat, List.append_assoc]
  rw [Nat.zero_div, Nat.add_zero] at hlast
  rw [hlast]
  rfl

theorem Groups.two (a b : UInt8) :
    Groups [a.toNat / 4, a.toNat % 4 * 16 + b.toNat / 16, b.toNat % 16 * 4] [a, b] 2 := by
  have ha := a.toNat_lt
  have hb := b.toNat_lt
  have hlast := bits_second_third b.toNat (c := 0) (by decide)
  refine ⟨by simp; omega, ?_, by decide⟩
  simp only [sextetBits_cons, octetBits_cons, bits_six_two a.toNat, bits_four_four b.toNat,
    bits_first_second a.toNat hb, List.append_assoc]
  rw [Nat.zero_div, Nat.add_zero] at hlast
  rw [hlast]
  simp only [List.append_assoc]
  rfl

/-- Three more octets are four more groups. -/
theorem Groups.three (h : Groups values s z) (a b c : UInt8) :
    Groups (a.toNat / 4 :: (a.toNat % 4 * 16 + b.toNat / 16) :: (b.toNat % 16 * 4 + c.toNat / 64) ::
      c.toNat % 64 :: values) (a :: b :: c :: s) z := by
  have ha := a.toNat_lt
  have hb := b.toNat_lt
  have hc := c.toNat_lt
  refine ⟨?_, ?_, h.fill_lt⟩
  · simp only [List.forall_mem_cons]
    exact ⟨by omega, by omega, by omega, by omega, h.lt⟩
  · simp only [sextetBits_cons, octetBits_cons, h.bits_eq, bits_six_two a.toNat,
      bits_four_four b.toNat, bits_two_six c.toNat, bits_first_second a.toNat hb,
      bits_second_third b.toNat hc, List.append_assoc]

/-- The text of four more groups. -/
theorem Alphabet.text_four (A : Alphabet) (v₀ v₁ v₂ v₃ : Nat) (values : List Nat) :
    A.text (v₀ :: v₁ :: v₂ :: v₃ :: values)
      = A.char v₀ :: A.char v₁ :: A.char v₂ :: A.char v₃ :: A.text values := by
  have hmod : (values.length + 1 + 1 + 1 + 1) % 4 = values.length % 4 := by omega
  simp only [Alphabet.text, List.length_cons, hmod, List.map_cons, List.cons_append]

/-! ## Decoding -/

theorem takeWhile_text (h : ∀ v ∈ values, v < 64) :
    (A.text values).takeWhile (fun c => c ≠ A.pad) = values.map A.char := by
  have hchars : ∀ c ∈ values.map A.char, decide (c ≠ A.pad) = true := by
    intro c hc
    obtain ⟨v, hv, rfl⟩ := List.mem_map.mp hc
    exact decide_eq_true (char_ne_pad (h v hv))
  rw [Alphabet.text, List.takeWhile_append_of_pos hchars]
  simp

theorem Groups.decode_text (h : Groups values s z) : A.decode (A.text values) = some s := by
  have hlen := h.length
  have hfill := h.fill_lt
  have hbody : (values.map A.char).length = values.length := List.length_map _
  have htext : (A.text values).length = values.length + (4 - values.length % 4) % 4 := by
    rw [Alphabet.text, List.length_append, hbody, List.length_replicate]
  -- how long the text is, and that nothing but padding is behind its characters
  have hpadded : (A.text values).length % 4 = 0 ∧
      (A.text values).length ≤ (values.map A.char).length + 2 ∧
      ((A.text values).drop (values.map A.char).length).all (fun c => c = A.pad) = true := by
    rw [htext, hbody]
    refine ⟨by omega, by omega, List.all_eq_true.mpr fun c hc => decide_eq_true ?_⟩
    rw [Alphabet.text, ← hbody, List.drop_left] at hc
    exact List.eq_of_mem_replicate hc
  have hw : (sextetBits values).length / 8 = s.length := by
    rw [h.bits_eq, List.length_append, octetBits_length, List.length_replicate]
    omega
  have hzeros : ((sextetBits values).drop (s.length * 8)).all (fun b => !b) = true := by
    rw [h.bits_eq, ← octetBits_length, List.drop_left]
    exact List.all_eq_true.mpr fun b hb => by rw [List.eq_of_mem_replicate hb]; rfl
  unfold Alphabet.decode
  dsimp only
  rw [takeWhile_text h.lt, if_pos hpadded, mapM_value h.lt, Option.bind_eq_bind, Option.bind_some,
    hw, if_pos hzeros, h.bits_eq, words_octetBits]

/-- **Round trip**: decoding the encoding gives the octets back. -/
theorem decode_encode (A : Alphabet) (s : List UInt8) : A.decode (A.encode s) = some s := by
  obtain ⟨values, z, h⟩ := exists_groups s
  rw [h.encode_eq, h.decode_text]

/-- The encoding has no characters other than those of the alphabet and the pad character. -/
theorem mem_encode {c : UInt8} (hc : c ∈ A.encode s) : c ∈ A.chars ∨ c = A.pad := by
  obtain ⟨values, z, h⟩ := exists_groups s
  rw [h.encode_eq, Alphabet.text, List.mem_append] at hc
  rcases hc with hc | hc
  · obtain ⟨v, hv, rfl⟩ := List.mem_map.mp hc
    exact .inl (char_mem (h.lt v hv))
  · exact .inr (List.eq_of_mem_replicate hc)

example : standard.encode (ascii "foobar") = ascii "Zm9vYmFy" ∧
    standard.encode (ascii "fooba") = ascii "Zm9vYmE=" ∧
    standard.decode (ascii "Zm9vYmF=") = none := by decide +kernel

end Halmos.Base64
