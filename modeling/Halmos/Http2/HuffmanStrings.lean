import Halmos.Http2.HpackSafe

set_option autoImplicit false

/-! # The strings of the Huffman decoder

`http2_huffman_decode` in its buffers, on the encoding of a text (`huffmanDecode_inverts`) and on
any string. It reads the words at the head of a string and looks neither at the failure state nor
at `NGHTTP2_HUFF_ACCEPTED`, so that a string that is none of the RFC's is refused only if there is
no room for what it begins with (`huffmanDecode_valid_iff`).
-/

namespace Halmos.Http2

open PrefixCode Hpack

/-! ## Strings of the RFC -/

/-- The words of a text, and less than eight ones. -/
def ValidHuffman (src : List UInt8) : Prop :=
  ∃ text k, k < 8 ∧ unpackBits src = huffmanBits text ++ List.replicate k true

/-- The run of the automaton: it does not enter the failure state, and its last transition has the
flag `NGHTTP2_HUFF_ACCEPTED`. -/
def accepts : Nat → Bool → List Nat → Bool
  | _, accepted, [] => accepted
  | state, _, nibble :: nibbles =>
      let t := huffDecodeEntry state nibble
      if t.fstate = 0x100 then false else accepts t.fstate (t.flags &&& 1 != 0) nibbles

/-- The flag stands where the bits of the next state are less than eight ones. -/
def flagOk (e : HuffDecode) : Bool :=
  if Nat.blt e.fstate 256 then
    let t := entryAt statePath e.fstate
    Nat.blt t.1 (2 ^ t.2) &&
      ((e.flags &&& 1 != 0) == (Nat.blt t.2 8 && Nat.beq (t.1 + 1) (2 ^ t.2)))
  else true

theorem huffDecodeTable_flags : (huffDecodeTable.all fun row => row.all flagOk) = true := by
  decide +kernel

theorem bits_ones (len : Nat) : bits len (2 ^ len - 1) = List.replicate len true := by
  have hall : ∀ m ≤ len, bits m (2 ^ len - 1) = List.replicate m true := by
    intro m
    induction m with
    | zero => intro _; rfl
    | succ m ih =>
        intro hm
        rw [bits, ih (by omega), Nat.testBit_two_pow_sub_one, decide_eq_true (by omega : m < len)]
        rfl
  exact hall len (Nat.le_refl len)

theorem bits_eq_ones {len n : Nat} (hn : n < 2 ^ len) :
    bits len n = List.replicate len true ↔ n + 1 = 2 ^ len := by
  have hpos := Nat.two_pow_pos len
  constructor
  · intro h
    have heq := bits_inj (h.trans (bits_ones len).symm)
    rw [Nat.mod_eq_of_lt hn, Nat.mod_eq_of_lt (by omega)] at heq
    omega
  · intro h
    rw [← bits_ones, show n = 2 ^ len - 1 by omega]

/-- **The flag** says whether the string may end behind a transition. -/
theorem huffDecodeEntry_flag {state nibble : Nat} (hs : state < 256) (hn : nibble < 16)
    (hnext : (huffDecodeEntry state nibble).fstate < 256) :
    ((huffDecodeEntry state nibble).flags &&& 1 != 0) = true
      ↔ ∃ k < 8, pathBits (huffDecodeEntry state nibble).fstate = List.replicate k true := by
  obtain ⟨row, hrow, hentry, -⟩ := Memory.huffDecodeTable_entry (Nat.le_of_lt hs) hn
  have hok := List.all_eq_true.mp
    (List.all_eq_true.mp huffDecodeTable_flags _ (List.mem_of_getElem? hrow)) _
    (List.mem_of_getElem? hentry)
  generalize huffDecodeEntry state nibble = e at hok hnext ⊢
  unfold flagOk at hok
  rw [if_pos (by simpa [Nat.blt_eq] using hnext)] at hok
  simp only [Bool.and_eq_true, beq_iff_eq, Nat.blt_eq] at hok
  obtain ⟨hlt, hflag⟩ := hok
  rw [hflag, Bool.and_eq_true, Nat.blt_eq, Nat.beq_eq, ← bits_eq_ones hlt, entryAt_statePath]
  constructor
  · rintro ⟨hlen, hones⟩
    exact ⟨_, hlen, hones⟩
  · rintro ⟨k, hk, hones⟩
    have hlen := congrArg List.length hones
    rw [← entryAt_statePath, bits_length, List.length_replicate] at hlen
    rw [hlen]
    exact ⟨hk, hones⟩

/-- The run of the automaton from a proper state on. -/
theorem accepts_iff (nibbles : List Nat) (hn : ∀ n ∈ nibbles, n < 16) {state : Nat}
    (hs : state < 256) {accepted : Bool}
    (hacc : accepted = true ↔ ∃ k < 8, pathBits state = List.replicate k true)
    (dest : List UInt8) :
    accepts state accepted nibbles = true ↔ ∃ text k, k < 8 ∧
      huffmanBits dest ++ (pathBits state ++ nibbleBits nibbles)
        = huffmanBits text ++ List.replicate k true := by
  have hones : ∀ {k : Nat}, k < 8 → Internal byteWord (List.replicate k true) := fun hk =>
    internal_byteWord (internal_replicate (by omega))
  induction nibbles generalizing state accepted dest with
  | nil =>
      rw [accepts, hacc]
      constructor
      · rintro ⟨k, hk, hpath⟩
        exact ⟨dest, k, hk, by simp [hpath, nibbleBits]⟩
      · rintro ⟨text, k, hk, heq⟩
        have hcode : encode byteWord dest ++ pathBits state
            = encode byteWord text ++ List.replicate k true := by
          rw [← huffmanBits_eq, ← huffmanBits_eq, ← heq]
          simp [nibbleBits]
        exact ⟨k, hk, (encode_append_inj byteWord_prefixFree
          (internal_byteWord (pathBits_internal hs)) (hones hk) hcode).2⟩
  | cons n nibbles ih =>
      rw [List.forall_mem_cons] at hn
      have hcons : pathBits state ++ nibbleBits (n :: nibbles)
          = pathBits state ++ bits 4 n ++ nibbleBits nibbles := by
        rw [List.append_assoc]
        rfl
      rw [hcons, accepts]
      rcases huffDecodeEntry_spec hs hn.1 with
        ⟨hlt, hsym, hsymlt, hread⟩ | ⟨hlt, hsym, hread⟩ | ⟨hsym, hfail, hend⟩
      · have hword : huffmanBits (dest ++ [UInt8.ofNat (huffDecodeEntry state n).sym])
            = huffmanBits dest ++ symBits (huffDecodeEntry state n).sym := by
          rw [symBits_eq hsymlt]
          simp [huffmanBits, encode_append]
        have hnext := ih hn.2 hlt (huffDecodeEntry_flag hs hn.1 hlt)
          (dest ++ [UInt8.ofNat (huffDecodeEntry state n).sym])
        rw [if_neg (by omega)]
        refine hnext.trans ?_
        rw [hword, hread, List.append_assoc, List.append_assoc]
      · rw [if_neg (by omega), hread]
        exact ih hn.2 hlt (huffDecodeEntry_flag hs hn.1 hlt) dest
      · -- a string with the code for its end is none of the RFC's
        have hfailed : (huffDecodeEntry state n).fstate = 0x100 := by
          obtain ⟨-, -, -, hle⟩ := Memory.huffDecodeTable_entry (Nat.le_of_lt hs) hn.1
          exact Nat.le_antisymm hle hfail
        rw [if_pos hfailed]
        refine iff_of_false (by decide) ?_
        rintro ⟨text, k, hk, heq⟩
        obtain ⟨r, hr⟩ := hend
        have hcode : encode byteWord dest ++ (huffmanWord none ++ (r ++ nibbleBits nibbles))
            = encode byteWord text ++ List.replicate k true := by
          rw [← huffmanBits_eq, ← huffmanBits_eq, ← heq, ← hr, List.append_assoc]
          rfl
        have hstop : Internal byteWord (huffmanWord none ++ (r ++ nibbleBits nibbles)) := fun b =>
          huffmanWord_prefixFree.not_prefix_append (Option.some_ne_none b) _
        have hrest := (encode_append_inj byteWord_prefixFree hstop (hones hk) hcode).2
        have hlen := congrArg List.length hrest
        rw [huffmanWord_none] at hlen
        simp only [List.length_append, List.length_replicate] at hlen
        omega

/-- **The strings of the RFC** are those the automaton accepts. -/
theorem validHuffman_iff (src : List UInt8) :
    ValidHuffman src ↔ accepts 0 true (nibblesOf src) = true := by
  have hstart : pathBits 0 = [] := rfl
  have hiff := accepts_iff (nibblesOf src) (nibblesOf_lt src) (show 0 < 256 by decide)
    (show true = true ↔ ∃ k < 8, pathBits 0 = List.replicate k true from
      iff_of_true rfl ⟨0, by decide, rfl⟩) []
  rw [hiff, hstart, nibbleBits_nibblesOf]
  exact Iff.rfl

/-! ## What the decoder takes -/

/-- The string begins with the words of at least `n` bytes. -/
def HasWords (src : List UInt8) (n : Nat) : Prop :=
  ∃ text, huffmanBits text <+: unpackBits src ∧ n ≤ text.length

/-- **What is refused**: the empty string, and one that begins with too many words. -/
theorem http2HuffmanDecode_eq_none_iff (src : List UInt8) (destSize : Nat) :
    http2HuffmanDecode src destSize = none ↔ src = [] ∨ HasWords src destSize := by
  obtain ⟨text, rest, hsplit, hrest⟩ := exists_encode_append byteWord_ne_nil (unpackBits src)
  rw [← huffmanBits_eq] at hsplit
  constructor
  · intro hnone
    by_contra hno
    rw [not_or] at hno
    have hroom : text.length < destSize := by
      by_contra hlong
      exact hno.2 ⟨text, ⟨rest, hsplit.symm⟩, not_lt.mp hlong⟩
    rw [http2HuffmanDecode_words hno.1 hsplit hrest hroom] at hnone
    cases hnone
  · rintro (rfl | ⟨front, ⟨more, hmore⟩, hlong⟩)
    · rfl
    · -- the words in front are words of the text
      have hcode : encode byteWord front ++ more = encode byteWord text ++ rest := by
        rw [← huffmanBits_eq, ← huffmanBits_eq, hmore, hsplit]
      have hpre := prefix_of_encode_prefix byteWord_prefixFree hrest hcode
      exact http2HuffmanDecode_words_none hsplit hrest (hlong.trans hpre.length_le)

section Memory

variable {n : Nat} (before src after : List UInt8) (dest : Buffer n)

/-- The call in memory, with the string anywhere in it. -/
theorem huffmanDecode_memory :
    (∃ dest' out, Memory.http2HuffmanDecode (before ++ (src ++ after)) before.length src.length dest
        = some (true, dest') ∧ http2HuffmanDecode src n = some out ∧
        dest'.bytes = out ++ 0 :: dest.bytes.drop (out.length + 1)) ∨
    (∃ dest', Memory.http2HuffmanDecode (before ++ (src ++ after)) before.length src.length dest
        = some (false, dest') ∧ http2HuffmanDecode src n = none) := by
  have hstop : before.length + src.length ≤ (before ++ (src ++ after)).length := by
    simp only [List.length_append]
    omega
  have hview : (Memory.view (before ++ (src ++ after)) (before.length + src.length)
      before.length).take src.length = src := by
    unfold Memory.view
    rw [← List.append_assoc, ← List.length_append, List.take_left, List.drop_left,
      List.take_length]
  have hspec := Memory.http2HuffmanDecode_spec hstop (Nat.le_refl _) dest
  rw [hview] at hspec
  exact hspec

/-- **The decoder inverts the code**: a text that fits is written with a NUL behind it, and nothing
else is; a text that does not is refused, with no write outside the buffer. -/
theorem huffmanDecode_inverts (text : List UInt8) (hne : text ≠ []) :
    (text.length + 1 ≤ n → ∃ dest', Memory.http2HuffmanDecode
        (before ++ (huffmanEncode text ++ after)) before.length (huffmanEncode text).length dest
          = some (true, dest') ∧
        dest'.bytes = text ++ 0 :: dest.bytes.drop (text.length + 1)) ∧
    (n < text.length + 1 → ∃ dest', Memory.http2HuffmanDecode
        (before ++ (huffmanEncode text ++ after)) before.length (huffmanEncode text).length dest
          = some (false, dest')) := by
  have hmemory := huffmanDecode_memory before (huffmanEncode text) after dest
  constructor
  · intro hroom
    rw [http2HuffmanDecode_huffmanEncode hne hroom] at hmemory
    rcases hmemory with ⟨dest', out, hrun, hout, hbytes⟩ | ⟨dest', -, hnone⟩
    · obtain rfl := Option.some.inj hout
      exact ⟨dest', hrun, hbytes⟩
    · cases hnone
  · intro hlong
    rw [http2HuffmanDecode_huffmanEncode_eq_none (Nat.le_of_lt_succ hlong)] at hmemory
    rcases hmemory with ⟨dest', out, -, hout, -⟩ | ⟨dest', hrun, -⟩
    · cases hout
    · exact ⟨dest', hrun⟩

/-- **What is taken is a string of the RFC** exactly if the string is one, or begins with so many
words that the buffer has no room for them. -/
theorem huffmanDecode_valid_iff :
    ((∃ dest', Memory.http2HuffmanDecode (before ++ (src ++ after)) before.length src.length dest
        = some (true, dest')) → ValidHuffman src)
      ↔ ValidHuffman src ∨ HasWords src n := by
  have htaken : (∃ dest', Memory.http2HuffmanDecode (before ++ (src ++ after)) before.length
      src.length dest = some (true, dest')) ↔ ¬ (src = [] ∨ HasWords src n) := by
    rw [← http2HuffmanDecode_eq_none_iff]
    rcases huffmanDecode_memory before src after dest with
      ⟨dest', out, hrun, hout, -⟩ | ⟨dest', hrun, hnone⟩
    · exact iff_of_true ⟨dest', hrun⟩ (by simp [hout])
    · refine iff_of_false ?_ (fun h => h hnone)
      rintro ⟨other, hother⟩
      have htrue := congrArg (Option.map Prod.fst) (hrun.symm.trans hother)
      cases htrue
  have hempty : src = [] → ValidHuffman src := by
    rintro rfl
    exact ⟨[], 0, by decide, rfl⟩
  rw [htaken]
  constructor
  · intro h
    by_cases hwords : src = [] ∨ HasWords src n
    · exact hwords.imp hempty (fun hw => hw)
    · exact Or.inl (h hwords)
  · rintro (hvalid | hwords) htake
    · exact hvalid
    · exact absurd (Or.inr hwords) htake

end Memory

theorem huffmanDecode_inverts_hello :
    ∃ dest', Memory.http2HuffmanDecode (huffmanEncode (ascii "hello")) 0 4 (Buffer.zeros 6)
      = some (true, dest') ∧ dest'.bytes = ascii "hello" ++ [0] := by
  have hlength : (huffmanEncode (ascii "hello")).length = 4 := by decide
  have hcall := (huffmanDecode_inverts [] [] (Buffer.zeros 6) (ascii "hello") (by decide)).1
    (by decide)
  rw [List.append_nil, hlength] at hcall
  exact hcall

/-- The code for the end of a string, and padding that is not all ones. -/
theorem huffmanDecode_takes_invalid :
    (∃ dest', Memory.http2HuffmanDecode [0xFF, 0xFF, 0xFF, 0xFF] 0 4 (Buffer.zeros 8)
      = some (true, dest')) ∧ ¬ ValidHuffman [0xFF, 0xFF, 0xFF, 0xFF] ∧
    (∃ dest', Memory.http2HuffmanDecode [0x00] 0 1 (Buffer.zeros 8) = some (true, dest')) ∧
      ¬ ValidHuffman [0x00] := by
  have htake : ∀ src out, http2HuffmanDecode src 8 = some out →
      ∃ dest', Memory.http2HuffmanDecode src 0 src.length (Buffer.zeros 8) = some (true, dest') := by
    intro src out hout
    have hmemory := huffmanDecode_memory [] src [] (Buffer.zeros 8)
    rw [hout, List.append_nil] at hmemory
    rcases hmemory with ⟨dest', -, hrun, -⟩ | ⟨dest', -, hnone⟩
    · exact ⟨dest', hrun⟩
    · cases hnone
  refine ⟨htake [0xFF, 0xFF, 0xFF, 0xFF] [] (by decide +kernel), ?_,
    htake [0x00] [48] (by decide +kernel), ?_⟩
  · rw [validHuffman_iff]
    decide +kernel
  · rw [validHuffman_iff]
    decide +kernel

end Halmos.Http2
