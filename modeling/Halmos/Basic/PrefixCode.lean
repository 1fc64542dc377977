import Mathlib.Tactic

set_option autoImplicit false

/-! # Prefix codes

A code assigns a word of bits to every letter. In a prefix code no word is a prefix of
another letter's word, so an encoded text is a prefix of another only if the texts are
(`prefix_of_encode_prefix`), and a text can be read off a string of bits that ends in an
incomplete word (`encode_append_inj`). `bits` writes a number as a word of given length; `words`
reads the numbers off a string of such words (`words_encode`).
-/

namespace Halmos.PrefixCode

section Code

variable {α : Type} (code : α → List Bool)

/-- No word is a prefix of the word of another letter. -/
def PrefixFree : Prop := ∀ a b, code a <+: code b → a = b

/-- The words of a text, concatenated. -/
def encode (text : List α) : List Bool := text.flatMap code

/-- `p` is an incomplete word: it contains no word as a prefix. -/
def Internal (p : List Bool) : Prop := ∀ a, ¬ code a <+: p

variable {code}

@[simp] theorem encode_nil : encode code [] = [] := rfl

@[simp] theorem encode_cons (a : α) (text : List α) :
    encode code (a :: text) = code a ++ encode code text := rfl

theorem encode_append (s t : List α) : encode code (s ++ t) = encode code s ++ encode code t :=
  List.flatMap_append

/-- A proper prefix of a word is incomplete. -/
theorem internal_of_prefix (h : PrefixFree code) {p : List Bool} {a : α} (hp : p <+: code a)
    (hne : p ≠ code a) : Internal code p := by
  intro b hb
  have hab : b = a := h b a (hb.trans hp)
  subst hab
  exact hne (List.IsPrefix.eq_of_length_le hp hb.length_le)

/-- Two words at the head of one string of bits belong to the same letter. -/
theorem PrefixFree.eq_of_append_eq (h : PrefixFree code) {a b : α} {p q : List Bool}
    (heq : code a ++ p = code b ++ q) : a = b := by
  rcases List.append_eq_append_iff.mp heq with ⟨r, hb, -⟩ | ⟨r, ha, -⟩
  · exact h a b ⟨r, hb.symm⟩
  · exact (h b a ⟨r, ha.symm⟩).symm

/-- A text whose encoding begins another one is a beginning of that text. -/
theorem prefix_of_encode_prefix (h : PrefixFree code) {s t : List α} {p q : List Bool}
    (hq : Internal code q) (heq : encode code s ++ p = encode code t ++ q) : s <+: t := by
  induction s generalizing t with
  | nil => exact List.nil_prefix
  | cons a s ih =>
      cases t with
      | nil =>
          -- the first word would lie in the incomplete rest
          rw [encode_cons, List.append_assoc, encode_nil, List.nil_append] at heq
          exact absurd ⟨_, heq⟩ (hq a)
      | cons b t =>
          rw [encode_cons, encode_cons, List.append_assoc, List.append_assoc] at heq
          have hab : a = b := h.eq_of_append_eq heq
          subst hab
          have hrest := ih (List.append_cancel_left heq)
          exact (List.prefix_cons_inj a).mpr hrest

/-- **Unique decoding**: the text and the incomplete rest can be read off the bits. -/
theorem encode_append_inj (h : PrefixFree code) {s t : List α} {p q : List Bool}
    (hp : Internal code p) (hq : Internal code q)
    (heq : encode code s ++ p = encode code t ++ q) : s = t ∧ p = q := by
  have hst : s <+: t := prefix_of_encode_prefix h hq heq
  have hts : t <+: s := prefix_of_encode_prefix h hp heq.symm
  have hs : s = t := List.IsPrefix.eq_of_length_le hst hts.length_le
  subst hs
  exact ⟨rfl, List.append_cancel_left heq⟩

/-- Every string of bits is the words of a text and an incomplete rest. -/
theorem exists_encode_append (hne : ∀ a, code a ≠ []) (w : List Bool) :
    ∃ text rest, w = encode code text ++ rest ∧ Internal code rest := by
  induction hlen : w.length using Nat.strong_induction_on generalizing w with
  | _ len ih =>
    by_cases hword : ∃ a, code a <+: w
    · obtain ⟨a, tail, rfl⟩ := hword
      have hpos := List.length_pos_iff.mpr (hne a)
      rw [List.length_append] at hlen
      obtain ⟨text, rest, rfl, hrest⟩ := ih tail.length (by omega) tail rfl
      exact ⟨a :: text, rest, by rw [encode_cons, List.append_assoc], hrest⟩
    · exact ⟨[], w, rfl, not_exists.mp hword⟩

/-- A word is no beginning of what begins with another word. -/
theorem PrefixFree.not_prefix_append (h : PrefixFree code) {a b : α} (hne : a ≠ b) (w : List Bool) :
    ¬ code a <+: code b ++ w := by
  rintro ⟨v, hv⟩
  exact hne (h.eq_of_append_eq hv)

end Code

/-! ## Words of numbers -/

/-- The lowest `len` bits of `n`, highest first. -/
def bits : Nat → Nat → List Bool
  | 0, _ => []
  | len + 1, n => n.testBit len :: bits len n

@[simp] theorem bits_length (len n : Nat) : (bits len n).length = len := by
  induction len with
  | zero => rfl
  | succ len ih => rw [bits, List.length_cons, ih]

theorem bits_append (a b n : Nat) : bits (a + b) n = bits a (n >>> b) ++ bits b n := by
  induction a with
  | zero => simp [bits]
  | succ a ih =>
      rw [show a + 1 + b = (a + b) + 1 by omega, bits, ih, bits, List.cons_append,
        Nat.testBit_shiftRight, Nat.add_comm b a]

/-- Numbers with the same lowest `len` bits are congruent. -/
theorem bits_inj {len m n : Nat} (h : bits len m = bits len n) : m % 2 ^ len = n % 2 ^ len := by
  apply Nat.eq_of_testBit_eq
  intro i
  rw [Nat.testBit_mod_two_pow, Nat.testBit_mod_two_pow]
  by_cases hi : i < len
  · have hbit : ∀ len, i < len → bits len m = bits len n → m.testBit i = n.testBit i := by
      intro len hlt heq
      induction len with
      | zero => omega
      | succ len ih =>
          rw [bits, bits] at heq
          injection heq with hhead htail
          rcases Nat.lt_succ_iff_lt_or_eq.mp hlt with hlt | rfl
          · exact ih hlt htail
          · exact hhead
    rw [hbit len hi h]
  · simp [hi]

/-- Only the lowest `len` bits count. -/
theorem bits_congr {len m n : Nat} (h : m % 2 ^ len = n % 2 ^ len) : bits len m = bits len n := by
  have hbit : ∀ i, i < len → m.testBit i = n.testBit i := by
    intro i hi
    have heq := congrArg (fun k => k.testBit i) h
    simpa [Nat.testBit_mod_two_pow, hi] using heq
  clear h
  induction len with
  | zero => rfl
  | succ len ih =>
      rw [bits, bits, hbit len (Nat.lt_succ_self len),
        ih (fun i hi => hbit i (Nat.lt_succ_of_lt hi))]

/-- A number put together from two parts is the words of the parts. -/
theorem bits_mul_add {a b m n : Nat} (h : n < 2 ^ b) :
    bits (a + b) (m * 2 ^ b + n) = bits a m ++ bits b n := by
  have hdiv : (m * 2 ^ b + n) >>> b = m := by
    rw [Nat.shiftRight_eq_div_pow, Nat.add_comm, Nat.add_mul_div_right _ _ (Nat.two_pow_pos b),
      Nat.div_eq_of_lt h, Nat.zero_add]
  have hmod : (m * 2 ^ b + n) % 2 ^ b = n % 2 ^ b := by
    rw [Nat.add_comm, Nat.add_mul_mod_self_right]
  rw [bits_append, hdiv, bits_congr hmod]

/-- A word is cut in two. -/
theorem bits_div_mod (a b n : Nat) :
    bits (a + b) n = bits a (n / 2 ^ b) ++ bits b (n % 2 ^ b) := by
  rw [← bits_mul_add (Nat.mod_lt n (Nat.two_pow_pos b)), Nat.div_add_mod']

/-- A word begins with another one of at most its length exactly when shifting gives it. -/
theorem bits_prefix {a b m n : Nat} (hm : m < 2 ^ a) (hn : n < 2 ^ b)
    (h : bits a m <+: bits b n) : a ≤ b ∧ n >>> (b - a) = m := by
  have hle : a ≤ b := by
    have hlen := h.length_le
    rwa [bits_length, bits_length] at hlen
  refine ⟨hle, ?_⟩
  have hsplit : bits b n = bits a (n >>> (b - a)) ++ bits (b - a) n := by
    rw [← bits_append, Nat.add_sub_cancel' hle]
  rw [hsplit] at h
  have heq : bits a m = bits a (n >>> (b - a)) :=
    List.IsPrefix.eq_of_length
      (List.prefix_of_prefix_length_le h (List.prefix_append _ _) (by simp)) (by simp)
  have hmod := bits_inj heq
  have hlt : n >>> (b - a) < 2 ^ a := by
    rw [Nat.shiftRight_eq_div_pow]
    apply Nat.div_lt_of_lt_mul
    rw [← Nat.pow_add, Nat.sub_add_cancel hle]
    exact hn
  rw [Nat.mod_eq_of_lt hm, Nat.mod_eq_of_lt hlt] at hmod
  exact hmod.symm

/-- The number a word stands for. -/
def ofBits (w : List Bool) : Nat := w.foldl (fun n b => 2 * n + b.toNat) 0

theorem ofBits_concat (w : List Bool) (b : Bool) : ofBits (w ++ [b]) = 2 * ofBits w + b.toNat := by
  simp [ofBits]

theorem bits_succ (len n : Nat) : bits (len + 1) n = bits len (n / 2) ++ [n.testBit 0] := by
  rw [bits_append len 1 n, Nat.shiftRight_one]
  rfl

theorem bits_ofBits (w : List Bool) : bits w.length (ofBits w) = w := by
  induction w using List.reverseRecOn with
  | nil => rfl
  | append_singleton w b ih =>
      have hdiv : (2 * ofBits w + b.toNat) / 2 = ofBits w := by
        cases b
        · simp
        · show (2 * ofBits w + 1) / 2 = ofBits w
          omega
      have hbit : (2 * ofBits w + b.toNat).testBit 0 = b := by
        rw [Nat.testBit_zero]
        cases b
        · simp
        · show decide ((2 * ofBits w + 1) % 2 = 1) = true
          rw [decide_eq_true_eq]
          omega
      rw [ofBits_concat, List.length_append, List.length_singleton, bits_succ, hdiv, hbit, ih]

theorem ofBits_lt (w : List Bool) : ofBits w < 2 ^ w.length := by
  induction w using List.reverseRecOn with
  | nil => decide
  | append_singleton w b ih =>
      have hb : b.toNat ≤ 1 := Bool.toNat_le b
      rw [ofBits_concat, List.length_append, List.length_singleton, Nat.pow_succ]
      omega

theorem ofBits_bits (len n : Nat) : ofBits (bits len n) = n % 2 ^ len := by
  have hlt := ofBits_lt (bits len n)
  have hbits := bits_ofBits (bits len n)
  rw [bits_length] at hlt hbits
  rw [← Nat.mod_eq_of_lt hlt]
  exact bits_inj hbits

/-! ## Words of one length -/

/-- The first `n` words of `k` bits of a string of bits, as numbers. -/
def words (k : Nat) : Nat → List Bool → List Nat
  | 0, _ => []
  | n + 1, w => ofBits (w.take k) :: words k n (w.drop k)

@[simp] theorem words_length (k n : Nat) (w : List Bool) : (words k n w).length = n := by
  induction n generalizing w with
  | zero => rfl
  | succ n ih => rw [words, List.length_cons, ih]

theorem words_lt {k n : Nat} {w : List Bool} {v : Nat} (h : v ∈ words k n w) : v < 2 ^ k := by
  induction n generalizing w with
  | zero => exact absurd h List.not_mem_nil
  | succ n ih =>
      rcases List.mem_cons.mp h with rfl | h
      · calc ofBits (w.take k) < 2 ^ (w.take k).length := ofBits_lt _
          _ ≤ 2 ^ k := Nat.pow_le_pow_right (by decide) (List.length_take_le k w)
      · exact ih h

theorem encode_bits_length (k : Nat) (vs : List Nat) :
    (encode (bits k) vs).length = vs.length * k := by
  induction vs with
  | nil => simp
  | cons v vs ih =>
      rw [encode_cons, List.length_append, bits_length, ih, List.length_cons, Nat.succ_mul,
        Nat.add_comm]

/-- A string of bits is the words it is cut into. -/
theorem encode_words {k n : Nat} {w : List Bool} (h : w.length = n * k) :
    encode (bits k) (words k n w) = w := by
  induction n generalizing w with
  | zero =>
      rw [Nat.zero_mul] at h
      rw [List.length_eq_zero_iff.mp h]
      rfl
  | succ n ih =>
      rw [Nat.succ_mul] at h
      have htake : (w.take k).length = k := by
        rw [List.length_take]
        omega
      have hdrop : (w.drop k).length = n * k := by
        rw [List.length_drop]
        omega
      have hfirst := bits_ofBits (w.take k)
      rw [htake] at hfirst
      rw [words, encode_cons, hfirst, ih hdrop, List.take_append_drop]

/-- Numbers can be read off their words. -/
theorem words_encode {k : Nat} {vs : List Nat} (h : ∀ v ∈ vs, v < 2 ^ k) (rest : List Bool) :
    words k vs.length (encode (bits k) vs ++ rest) = vs := by
  induction vs with
  | nil => rfl
  | cons v vs ih =>
      obtain ⟨hv, hvs⟩ := List.forall_mem_cons.mp h
      have hlen := bits_length k v
      rw [List.length_cons, words, encode_cons, List.append_assoc, List.take_left' hlen,
        List.drop_left' hlen, ih hvs, ofBits_bits, Nat.mod_eq_of_lt hv]

end Halmos.PrefixCode
