import Halmos.Hpack.HuffmanCode
import Halmos.Http2.HuffmanTable

set_option autoImplicit false

/-! # Huffman decoding

`http2_huffman_decode` of `halmos_http2_hpack.c` runs an automaton over the nibbles of a
string. A state stands for the bits read since the last complete word (`statePath`), and one
check of the table (`huffDecodeTable_ok`) says that every transition keeps that reading. From
it the automaton reads back every text sent with the RFC's code.
-/

namespace Halmos.Http2

open PrefixCode Hpack

/-- The entry for a nibble in a state. -/
def huffDecodeEntry (state nibble : Nat) : HuffDecode :=
  (huffDecodeTable.getD state []).getD nibble ⟨0x100, 0, 0⟩

/-- The flag `NGHTTP2_HUFF_SYM`. -/
def HuffDecode.isSym (e : HuffDecode) : Bool := e.flags &&& 2 != 0

/-- The loop of `http2_huffman_decode` over the nibbles of the source; `none` is the overflow
check of the output buffer. -/
def huffmanLoop (destSize : Nat) : Nat → List UInt8 → List Nat → Option (List UInt8)
  | _, dest, [] => some dest
  | state, dest, nibble :: nibbles =>
      let t := huffDecodeEntry state nibble
      if t.isSym then
        if dest.length + 1 ≥ destSize then none
        else huffmanLoop destSize t.fstate (dest ++ [UInt8.ofNat t.sym]) nibbles
      else huffmanLoop destSize t.fstate dest nibbles

/-- The nibbles of a string, high one first. -/
def nibblesOf (src : List UInt8) : List Nat :=
  src.flatMap (fun b => [b.toNat >>> 4, b.toNat &&& 0x0F])

/-- `http2_huffman_decode`: the bytes put in front of the closing NUL. -/
def http2HuffmanDecode (src : List UInt8) (destSize : Nat) : Option (List UInt8) :=
  if src.length = 0 ∨ destSize = 0 then none else huffmanLoop destSize 0 [] (nibblesOf src)

/-! ## What the states stand for -/

/-- The bits a state has read since the last complete word: value and number. -/
def statePath : List (Nat × Nat) :=
  [(0, 0), (0x0, 1), (0x0, 2), (0x0, 3), (0x0, 4), (0x1, 4), (0x1, 3), (0x2, 4), (0x3, 4),
    (0x1, 2), (0x2, 3), (0x4, 4), (0x5, 4), (0xa, 5), (0xb, 5), (0x3, 3), (0x6, 4), (0xc, 5),
    (0xd, 5), (0x7, 4), (0xe, 5), (0xf, 5), (0x1, 1), (0x2, 2), (0x4, 3), (0x8, 4), (0x10, 5),
    (0x11, 5), (0x9, 4), (0x12, 5), (0x13, 5), (0x5, 3), (0xa, 4), (0x14, 5), (0x15, 5), (0xb, 4),
    (0x16, 5), (0x17, 5), (0x2e, 6), (0x2f, 6), (0x3, 2), (0x6, 3), (0xc, 4), (0x18, 5),
    (0x30, 6), (0x31, 6), (0x19, 5), (0x32, 6), (0x33, 6), (0xd, 4), (0x1a, 5), (0x34, 6),
    (0x35, 6), (0x1b, 5), (0x36, 6), (0x37, 6), (0x7, 3), (0xe, 4), (0x1c, 5), (0x38, 6),
    (0x39, 6), (0x1d, 5), (0x3a, 6), (0x3b, 6), (0xf, 4), (0x1e, 5), (0x3c, 6), (0x3d, 6),
    (0x1f, 5), (0x3e, 6), (0x7c, 7), (0x7d, 7), (0x3f, 6), (0x7e, 7), (0x7f, 7), (0xfe, 8),
    (0x1fc, 9), (0x1fd, 9), (0xff, 8), (0x1fe, 9), (0x3fd, 10), (0x1ff, 9), (0x3fe, 10),
    (0x7fd, 11), (0x3ff, 10), (0x7fe, 11), (0xffc, 12), (0xffd, 12), (0x7ff, 11), (0xffe, 12),
    (0xfff, 12), (0x1ffe, 13), (0x1fff, 13), (0x3ffe, 14), (0x3fff, 14), (0x7fff, 15),
    (0xfffe, 16), (0x1fffc, 17), (0x3fff8, 18), (0x3fff9, 18), (0x7fff3, 19), (0x1fffd, 17),
    (0x3fffa, 18), (0x7fff4, 19), (0x7fff5, 19), (0x3fffb, 18), (0x7fff6, 19), (0x7fff7, 19),
    (0xfffee, 20), (0xfffef, 20), (0xffff, 16), (0x1fffe, 17), (0x3fffc, 18), (0x7fff8, 19),
    (0xffff0, 20), (0xffff1, 20), (0x7fff9, 19), (0xffff2, 20), (0xffff3, 20), (0x3fffd, 18),
    (0x7fffa, 19), (0xffff4, 20), (0x1fffe9, 21), (0xffff5, 20), (0x1fffea, 21), (0x1fffeb, 21),
    (0x7fffb, 19), (0xffff6, 20), (0x1fffec, 21), (0x1fffed, 21), (0xffff7, 20), (0x1fffee, 21),
    (0x1fffef, 21), (0x1ffff, 17), (0x3fffe, 18), (0x7fffc, 19), (0xffff8, 20), (0x1ffff0, 21),
    (0x1ffff1, 21), (0xffff9, 20), (0x1ffff2, 21), (0x1ffff3, 21), (0x7fffd, 19), (0xffffa, 20),
    (0x1ffff4, 21), (0x1ffff5, 21), (0xffffb, 20), (0x1ffff6, 21), (0x3fffec, 22), (0x3fffed, 22),
    (0x1ffff7, 21), (0x3fffee, 22), (0x3fffef, 22), (0x3ffff, 18), (0x7fffe, 19), (0xffffc, 20),
    (0x1ffff8, 21), (0x3ffff0, 22), (0x3ffff1, 22), (0x1ffff9, 21), (0x3ffff2, 22),
    (0x3ffff3, 22), (0xffffd, 20), (0x1ffffa, 21), (0x3ffff4, 22), (0x3ffff5, 22), (0x1ffffb, 21),
    (0x3ffff6, 22), (0x3ffff7, 22), (0x7ffff, 19), (0xffffe, 20), (0x1ffffc, 21), (0x3ffff8, 22),
    (0x3ffff9, 22), (0x1ffffd, 21), (0x3ffffa, 22), (0x7ffff5, 23), (0x3ffffb, 22),
    (0x7ffff6, 23), (0x7ffff7, 23), (0xfffff, 20), (0x1ffffe, 21), (0x3ffffc, 22), (0x7ffff8, 23),
    (0x7ffff9, 23), (0x3ffffd, 22), (0x7ffffa, 23), (0x7ffffb, 23), (0xfffff6, 24),
    (0xfffff7, 24), (0x1fffff, 21), (0x3ffffe, 22), (0x7ffffc, 23), (0xfffff8, 24),
    (0x1fffff0, 25), (0x1fffff1, 25), (0xfffff9, 24), (0x1fffff2, 25), (0x1fffff3, 25),
    (0x7ffffd, 23), (0xfffffa, 24), (0x1fffff4, 25), (0x1fffff5, 25), (0xfffffb, 24),
    (0x1fffff6, 25), (0x1fffff7, 25), (0x3ffffef, 26), (0x3fffff, 22), (0x7ffffe, 23),
    (0xfffffc, 24), (0x1fffff8, 25), (0x3fffff0, 26), (0x3fffff1, 26), (0x1fffff9, 25),
    (0x3fffff2, 26), (0x3fffff3, 26), (0xfffffd, 24), (0x1fffffa, 25), (0x3fffff4, 26),
    (0x3fffff5, 26), (0x1fffffb, 25), (0x3fffff6, 26), (0x3fffff7, 26), (0x7fffff, 23),
    (0xfffffe, 24), (0x1fffffc, 25), (0x3fffff8, 26), (0x7fffff1, 27), (0x3fffff9, 26),
    (0x7fffff2, 27), (0x7fffff3, 27), (0x1fffffd, 25), (0x3fffffa, 26), (0x7fffff4, 27),
    (0x7fffff5, 27), (0x3fffffb, 26), (0x7fffff6, 27), (0x7fffff7, 27), (0xffffff, 24),
    (0x1fffffe, 25), (0x3fffffc, 26), (0x7fffff8, 27), (0x7fffff9, 27), (0x3fffffd, 26),
    (0x7fffffa, 27), (0x7fffffb, 27), (0x1ffffff, 25), (0x3fffffe, 26), (0x7fffffc, 27),
    (0x7fffffd, 27), (0x3ffffff, 26), (0x7fffffe, 27), (0x7ffffff, 27), (0xfffffff, 28),
    (0x1ffffffe, 29), (0x1fffffff, 29)]

/-- The bits as a list. -/
def pathBits (state : Nat) : List Bool :=
  bits (statePath.getD state (0, 0)).2 (statePath.getD state (0, 0)).1

/-- The word of a symbol of the table. -/
def symBits (sym : Nat) : List Bool :=
  bits (huffmanCode.getD sym (0, 0)).2 (huffmanCode.getD sym (0, 0)).1

/-- Plain lookup, quick to evaluate. -/
def entryAt : List (Nat × Nat) → Nat → Nat × Nat
  | [], _ => (0, 0)
  | w :: _, 0 => w
  | _ :: ws, n + 1 => entryAt ws n

/-- A transition reads on: the bits of the state and the nibble are the completed word, if
there is one, followed by the bits of the next state. Only the 30 ones of the end of a string
lead to the failure state. All of it is said about numbers and lengths. -/
def entryOk (path : Nat × Nat) (nibble : Nat) (e : HuffDecode) : Bool :=
  let n := path.1 * 16 + nibble
  let len := path.2 + 4
  if Nat.blt e.fstate 256 then
    let t := entryAt statePath e.fstate
    if e.isSym then
      let w := entryAt huffmanCode e.sym
      Nat.blt e.sym 256 && Nat.beq len (w.2 + t.2) && Nat.beq n (w.1 * 2 ^ t.2 + t.1) &&
        Nat.blt t.1 (2 ^ t.2)
    else Nat.beq len t.2 && Nat.beq n t.1
  else !e.isSym && Nat.ble 30 len && Nat.beq (n >>> (len - 30)) 0x3fffffff

/-- The transitions of one row, from the nibble `n` on. -/
def rowOk (path : Nat × Nat) : Nat → List HuffDecode → Bool
  | n, [] => Nat.beq n 16
  | n, e :: es => entryOk path n e && rowOk path (n + 1) es

def tableOk : List (List HuffDecode) → List (Nat × Nat) → Bool
  | row :: rows, path :: paths => rowOk path 0 row && tableOk rows paths
  | _, _ => true

/-- A state has read the beginning of some word, but not all of it. -/
def pathOk (path : Nat × Nat) : Bool :=
  huffmanCode.any fun w =>
    Nat.blt path.2 w.2 && Nat.beq (w.1 >>> (w.2 - path.2)) path.1

/-- Every transition reads on, there is a row for every state, and no state has read a whole
word. -/
theorem huffDecodeTable_ok : tableOk huffDecodeTable statePath = true ∧
    huffDecodeTable.length = 257 ∧ statePath.length = 256 ∧ statePath.all pathOk = true := by
  decide +kernel

theorem entryAt_eq (ws : List (Nat × Nat)) (n : Nat) : entryAt ws n = ws.getD n (0, 0) := by
  induction ws generalizing n with
  | nil => rfl
  | cons w ws ih =>
      cases n with
      | zero => rfl
      | succ n => exact ih n

theorem rowOk_getD {path : Nat × Nat} {row : List HuffDecode} {k n : Nat}
    (h : rowOk path k row = true) (hk : k ≤ n) (hn : n < 16) :
    entryOk path n (row.getD (n - k) ⟨0x100, 0, 0⟩) = true := by
  induction row generalizing k with
  | nil =>
      have h16 : k = 16 := Nat.eq_of_beq_eq_true h
      omega
  | cons e es ih =>
      rw [rowOk, Bool.and_eq_true] at h
      rcases Nat.eq_or_lt_of_le hk with rfl | hlt
      · rw [Nat.sub_self]
        exact h.1
      · have hrest := ih h.2 hlt
        rw [show n - k = (n - (k + 1)) + 1 by omega]
        exact hrest

theorem tableOk_getD (state : Nat) {rows : List (List HuffDecode)} {paths : List (Nat × Nat)}
    (h : tableOk rows paths = true) (hrows : state < rows.length) (hpaths : state < paths.length) :
    rowOk (paths.getD state (0, 0)) 0 (rows.getD state []) = true := by
  induction rows generalizing paths state with
  | nil =>
      simp at hrows
  | cons row rows ih =>
      cases paths with
      | nil => simp at hpaths
      | cons path paths =>
          rw [tableOk, Bool.and_eq_true] at h
          cases state with
          | zero => exact h.1
          | succ state => exact ih state h.2 (by simpa using hrows) (by simpa using hpaths)

/-! ## One transition -/

theorem entryAt_huffmanCode (sym : Nat) :
    bits (entryAt huffmanCode sym).2 (entryAt huffmanCode sym).1 = symBits sym := by
  rw [entryAt_eq]
  rfl

theorem entryAt_statePath (state : Nat) :
    bits (entryAt statePath state).2 (entryAt statePath state).1 = pathBits state := by
  rw [entryAt_eq]
  rfl

/-- What a transition out of a proper state does. -/
theorem huffDecodeEntry_spec {state nibble : Nat} (hs : state < 256) (hn : nibble < 16) :
    let e := huffDecodeEntry state nibble
    (e.fstate < 256 ∧ e.isSym = true ∧ e.sym < 256 ∧
      pathBits state ++ bits 4 nibble = symBits e.sym ++ pathBits e.fstate) ∨
    (e.fstate < 256 ∧ e.isSym = false ∧ pathBits state ++ bits 4 nibble = pathBits e.fstate) ∨
    (e.isSym = false ∧ 256 ≤ e.fstate ∧ symBits 256 <+: pathBits state ++ bits 4 nibble) := by
  have hrow := tableOk_getD state huffDecodeTable_ok.1
    (by rw [huffDecodeTable_ok.2.1]; omega) (by rw [huffDecodeTable_ok.2.2.1]; omega)
  have hok := rowOk_getD hrow (Nat.zero_le nibble) hn
  rw [Nat.sub_zero] at hok
  intro e
  change entryOk (statePath.getD state (0, 0)) nibble e = true at hok
  set p := statePath.getD state (0, 0) with hp
  have hread : bits (p.2 + 4) (p.1 * 16 + nibble) = pathBits state ++ bits 4 nibble :=
    bits_mul_add (b := 4) hn
  unfold entryOk at hok
  simp only at hok
  by_cases hlt : e.fstate < 256
  · have hblt : Nat.blt e.fstate 256 = true := by
      simpa [Nat.blt_eq] using hlt
    rw [if_pos hblt] at hok
    cases hsym : e.isSym with
    | true =>
        rw [hsym, if_pos rfl] at hok
        simp only [Bool.and_eq_true, Nat.blt_eq, Nat.beq_eq] at hok
        obtain ⟨⟨⟨hsymlt, hlen⟩, hval⟩, htlt⟩ := hok
        refine Or.inl ⟨hlt, rfl, hsymlt, ?_⟩
        rw [← hread, hlen, hval, bits_mul_add htlt, entryAt_huffmanCode, entryAt_statePath]
    | false =>
        rw [hsym, if_neg (by decide)] at hok
        simp only [Bool.and_eq_true, Nat.beq_eq] at hok
        obtain ⟨hlen, hval⟩ := hok
        refine Or.inr (Or.inl ⟨hlt, rfl, ?_⟩)
        rw [← hread, hlen, hval, entryAt_statePath]
  · have hblt : ¬ Nat.blt e.fstate 256 = true := by
      simpa [Nat.blt_eq] using hlt
    rw [if_neg hblt] at hok
    simp only [Bool.and_eq_true, Bool.not_eq_true', Nat.ble_eq, Nat.beq_eq] at hok
    obtain ⟨⟨hsym, hlen⟩, hval⟩ := hok
    refine Or.inr (Or.inr ⟨hsym, not_lt.mp hlt, ?_⟩)
    have hend : symBits 256 = bits 30 0x3fffffff := rfl
    rw [← hread, hend, ← hval]
    refine ⟨bits (p.2 + 4 - 30) (p.1 * 16 + nibble), ?_⟩
    rw [← bits_append, Nat.add_sub_cancel' hlen]

/-- A proper state has read an incomplete word. -/
theorem pathBits_internal {state : Nat} (h : state < 256) :
    Internal huffmanWord (pathBits state) := by
  have hlen : state < statePath.length := by
    rw [huffDecodeTable_ok.2.2.1]
    exact h
  have hget : statePath.getD state (0, 0) = statePath.get ⟨state, hlen⟩ := by
    rw [List.getD_eq_getElem?_getD, List.getElem?_eq_getElem hlen]
    rfl
  have hok := List.all_eq_true.mp huffDecodeTable_ok.2.2.2 _ (List.get_mem statePath ⟨state, hlen⟩)
  rw [← hget] at hok
  obtain ⟨w, hw, hword⟩ := List.any_eq_true.mp hok
  simp only [Bool.and_eq_true, Nat.blt_eq, Nat.beq_eq] at hword
  obtain ⟨hlt, heq⟩ := hword
  obtain ⟨a, rfl⟩ := exists_letterEntry hw
  set p := statePath.getD state (0, 0) with hp
  have hpath : pathBits state = bits p.2 p.1 := rfl
  have hsplit : huffmanWord a = pathBits state ++ bits ((letterEntry a).2 - p.2) (letterEntry a).1 := by
    rw [huffmanWord_eq, hpath, ← heq, ← bits_append, Nat.add_sub_cancel' (Nat.le_of_lt hlt)]
  refine internal_of_prefix huffmanWord_prefixFree (a := a) ⟨_, hsplit.symm⟩ (fun hcon => ?_)
  have hlength := congrArg List.length hcon
  rw [hpath, huffmanWord_eq, bits_length, bits_length] at hlength
  omega

theorem symBits_eq {sym : Nat} (h : sym < 256) :
    symBits sym = huffmanWord (some (UInt8.ofNat sym)) := by
  have hnat : (UInt8.ofNat sym).toNat = sym := by
    rw [UInt8.toNat_ofNat']
    exact Nat.mod_eq_of_lt h
  show _ = bits (huffmanCode.getD (UInt8.ofNat sym).toNat (0, 0)).2 _
  rw [hnat]
  rfl

/-! ## Decoding a text that was sent -/

/-- The bits of nibbles. -/
def nibbleBits (ns : List Nat) : List Bool := ns.flatMap (bits 4)

theorem nibblesOf_lt (src : List UInt8) : ∀ n ∈ nibblesOf src, n < 16 := by
  intro n hn
  obtain ⟨b, -, hmem⟩ := List.mem_flatMap.mp hn
  have hb := b.toNat_lt
  simp only [List.mem_cons, List.not_mem_nil, or_false] at hmem
  rcases hmem with rfl | rfl
  · rw [Nat.shiftRight_eq_div_pow]
    omega
  · exact Nat.lt_succ_of_le Nat.and_le_right

theorem nibbleBits_nibblesOf (src : List UInt8) :
    nibbleBits (nibblesOf src) = unpackBits src := by
  induction src with
  | nil => rfl
  | cons b src ih =>
      have hlow : bits 4 (b.toNat &&& 0x0F) = bits 4 b.toNat := by
        apply bits_congr
        rw [show (0x0F : Nat) = 2 ^ 4 - 1 from rfl, Nat.and_two_pow_sub_one_eq_mod, Nat.mod_mod]
      have hbyte : bits 8 b.toNat = bits 4 (b.toNat >>> 4) ++ bits 4 b.toNat := bits_append 4 4 _
      have hcons : nibbleBits (nibblesOf (b :: src))
          = bits 4 (b.toNat >>> 4) ++ (bits 4 (b.toNat &&& 0x0F) ++ nibbleBits (nibblesOf src)) := rfl
      rw [hcons, hlow, ih, unpackBits_cons, hbyte, List.append_assoc]

/-- The failure state is not left, and completes no symbol. -/
theorem huffDecodeEntry_failed {state : Nat} (hs : 256 ≤ state) {nibble : Nat} (hn : nibble < 16) :
    (huffDecodeEntry state nibble).isSym = false ∧ 256 ≤ (huffDecodeEntry state nibble).fstate := by
  have hdefault : (⟨0x100, 0, 0⟩ : HuffDecode).isSym = false ∧
      256 ≤ (⟨0x100, 0, 0⟩ : HuffDecode).fstate := by decide
  rcases Nat.eq_or_lt_of_le hs with rfl | hlt
  · interval_cases nibble <;> exact hdefault
  · have hout : huffDecodeTable.length ≤ state := by
      rw [huffDecodeTable_ok.2.1]
      exact hlt
    have hrow : huffDecodeTable.getD state [] = [] := by
      rw [List.getD_eq_getElem?_getD, List.getElem?_eq_none hout]
      rfl
    have hentry : huffDecodeEntry state nibble = ⟨0x100, 0, 0⟩ := by
      rw [huffDecodeEntry, hrow]
      rfl
    rw [hentry]
    exact hdefault

theorem huffmanLoop_failed (destSize : Nat) (nibbles : List Nat) (hn : ∀ n ∈ nibbles, n < 16)
    {state : Nat} (hs : 256 ≤ state) (dest : List UInt8) :
    huffmanLoop destSize state dest nibbles = some dest := by
  induction nibbles generalizing state with
  | nil => rfl
  | cons n nibbles ih =>
      rw [List.forall_mem_cons] at hn
      obtain ⟨hsym, hnext⟩ := huffDecodeEntry_failed hs hn.1
      rw [huffmanLoop]
      simp only [hsym, Bool.false_eq_true, if_false]
      exact ih hn.2 hnext

/-- **The automaton decodes.** In a state where the bits written so far, those of the state and
those still to come are the words of a text and a rest that begins with no byte's word, the loop
ends with the text, if the buffer has room for it. -/
theorem huffmanLoop_eq {destSize : Nat} {text : List UInt8} {rest : List Bool}
    (hroom : text.length < destSize) (hrest : Internal byteWord rest) (nibbles : List Nat)
    (hn : ∀ n ∈ nibbles, n < 16) {state : Nat} (hs : state < 256) {dest : List UInt8}
    (heq : huffmanBits dest ++ (pathBits state ++ nibbleBits nibbles)
      = huffmanBits text ++ rest) :
    huffmanLoop destSize state dest nibbles = some text := by
  induction nibbles generalizing state dest with
  | nil =>
      have hbits : encode byteWord dest ++ pathBits state = encode byteWord text ++ rest := by
        rw [← huffmanBits_eq, ← huffmanBits_eq, ← heq]
        simp [nibbleBits]
      obtain ⟨hdest, -⟩ := encode_append_inj byteWord_prefixFree
        (internal_byteWord (pathBits_internal hs)) hrest hbits
      rw [huffmanLoop, hdest]
  | cons n nibbles ih =>
      have hcons : pathBits state ++ nibbleBits (n :: nibbles)
          = pathBits state ++ bits 4 n ++ nibbleBits nibbles := by
        rw [List.append_assoc]
        rfl
      have hn' : ∀ m ∈ nibbles, m < 16 := fun m hm => hn m (List.mem_cons_of_mem n hm)
      rw [hcons] at heq
      rw [huffmanLoop]
      rcases huffDecodeEntry_spec hs (hn n (by simp)) with
        ⟨hlt, hsym, hsymlt, hread⟩ | ⟨hlt, hsym, hread⟩ | ⟨hsym, hfail, hend⟩
      · -- a symbol is complete; there is room for it because it belongs to the text
        have hword : huffmanBits (dest ++ [UInt8.ofNat (huffDecodeEntry state n).sym])
            = huffmanBits dest ++ symBits (huffDecodeEntry state n).sym := by
          rw [symBits_eq hsymlt]
          simp [huffmanBits, encode_append]
        have hnext : huffmanBits (dest ++ [UInt8.ofNat (huffDecodeEntry state n).sym])
            ++ (pathBits (huffDecodeEntry state n).fstate ++ nibbleBits nibbles)
            = huffmanBits text ++ rest := by
          rw [hword, ← heq, hread, List.append_assoc, List.append_assoc]
        have hcode := hnext
        rw [huffmanBits_eq, huffmanBits_eq] at hcode
        have hpre := prefix_of_encode_prefix byteWord_prefixFree hrest hcode
        have hlen := hpre.length_le
        rw [List.length_append, List.length_singleton] at hlen
        simp only [hsym, if_true]
        rw [if_neg (by omega)]
        exact ih hn' hlt hnext
      · simp only [hsym]
        rw [hread] at heq
        exact ih hn' hlt heq
      · -- the end of a string is no byte of the text, so that the text ends here
        obtain ⟨r, hr⟩ := hend
        have hcode : encode byteWord dest ++ (huffmanWord none ++ (r ++ nibbleBits nibbles))
            = encode byteWord text ++ rest := by
          rw [← huffmanBits_eq, ← huffmanBits_eq, ← heq, ← hr, List.append_assoc]
          rfl
        have hstop : Internal byteWord (huffmanWord none ++ (r ++ nibbleBits nibbles)) := fun b =>
          huffmanWord_prefixFree.not_prefix_append (Option.some_ne_none b) _
        obtain ⟨hdest, -⟩ := encode_append_inj byteWord_prefixFree hstop hrest hcode
        simp only [hsym, Bool.false_eq_true, if_false]
        rw [huffmanLoop_failed destSize nibbles hn' hfail, hdest]

theorem huffmanEncode_ne_nil {text : List UInt8} (h : text ≠ []) : huffmanEncode text ≠ [] := by
  intro hnil
  obtain ⟨k, -, heq⟩ := unpackBits_packBits (huffmanBits text)
  have hzero : (unpackBits (packBits (huffmanBits text))).length = 0 := by
    rw [unpackBits_length]
    show 8 * (huffmanEncode text).length = 0
    rw [hnil]
    rfl
  obtain ⟨b, t, rfl⟩ := List.exists_cons_of_ne_nil h
  rw [heq, List.length_append] at hzero
  have hword : huffmanBits (b :: t) = huffmanWord (some b) ++ huffmanBits t := rfl
  have hwlen : 0 < (huffmanWord (some b)).length := List.length_pos_iff.mpr (byteWord_ne_nil b)
  rw [hword, List.length_append] at hzero
  omega

/-- **What is read of a string**: the words at its head, if the text fits the buffer. -/
theorem http2HuffmanDecode_words {src text : List UInt8} {rest : List Bool} (hne : src ≠ [])
    (hsplit : unpackBits src = huffmanBits text ++ rest) (hrest : Internal byteWord rest)
    {destSize : Nat} (hroom : text.length < destSize) :
    http2HuffmanDecode src destSize = some text := by
  have hsrc := List.length_pos_iff.mpr hne
  unfold http2HuffmanDecode
  rw [if_neg (by omega)]
  refine huffmanLoop_eq hroom hrest _ (nibblesOf_lt _) (by decide) ?_
  have hstart : pathBits 0 = [] := rfl
  rw [hstart, nibbleBits_nibblesOf]
  exact hsplit

/-- **Huffman round trip**: a text that fits the buffer is read back from its encoding. -/
theorem http2HuffmanDecode_huffmanEncode {text : List UInt8} (hne : text ≠ []) {destSize : Nat}
    (hroom : text.length < destSize) :
    http2HuffmanDecode (huffmanEncode text) destSize = some text := by
  obtain ⟨k, hk, heq⟩ := unpackBits_packBits (huffmanBits text)
  have hrest := internal_byteWord (internal_replicate (k := k) (by omega))
  exact http2HuffmanDecode_words (huffmanEncode_ne_nil hne) heq hrest hroom

/-- A text that does not fit a smaller buffer runs into its overflow check. -/
theorem huffmanLoop_overflow {small big : Nat} (nibbles : List Nat) {state : Nat}
    {dest text : List UInt8} (h : huffmanLoop big state dest nibbles = some text)
    (hdest : dest.length < small) (htext : small ≤ text.length) (hle : small ≤ big) :
    huffmanLoop small state dest nibbles = none := by
  induction nibbles generalizing state dest with
  | nil =>
      rw [huffmanLoop] at h
      cases h
      omega
  | cons n nibbles ih =>
      rw [huffmanLoop] at h ⊢
      split
      · next hsym =>
          rw [if_pos hsym] at h
          split
          · rfl
          · next hroom =>
              rw [if_neg (by omega)] at h
              apply ih h
              rw [List.length_append, List.length_singleton]
              omega
      · next hsym =>
          rw [if_neg hsym] at h
          exact ih h hdest

/-- Words that do not fit the buffer are not read at all. -/
theorem http2HuffmanDecode_words_none {src text : List UInt8} {rest : List Bool}
    (hsplit : unpackBits src = huffmanBits text ++ rest) (hrest : Internal byteWord rest)
    {destSize : Nat} (hlong : destSize ≤ text.length) :
    http2HuffmanDecode src destSize = none := by
  unfold http2HuffmanDecode
  split
  · rfl
  · next hsrc =>
      rw [not_or] at hsrc
      have hne : src ≠ [] := by
        rintro rfl
        exact hsrc.1 rfl
      have hbig := http2HuffmanDecode_words hne hsplit hrest (Nat.lt_succ_self text.length)
      unfold http2HuffmanDecode at hbig
      rw [if_neg (by omega)] at hbig
      exact huffmanLoop_overflow _ hbig (Nat.pos_of_ne_zero hsrc.2) hlong (by omega)

/-- **Huffman overflow**: a text that does not fit the buffer is not read at all. -/
theorem http2HuffmanDecode_huffmanEncode_eq_none {text : List UInt8} {destSize : Nat}
    (hlong : destSize ≤ text.length) :
    http2HuffmanDecode (huffmanEncode text) destSize = none := by
  obtain ⟨k, hk, heq⟩ := unpackBits_packBits (huffmanBits text)
  have hrest := internal_byteWord (internal_replicate (k := k) (by omega))
  exact http2HuffmanDecode_words_none heq hrest hlong

theorem huffmanLoop_length {destSize : Nat} (nibbles : List Nat) {state : Nat}
    {dest out : List UInt8} (h : huffmanLoop destSize state dest nibbles = some out)
    (hdest : dest.length < destSize) : out.length < destSize := by
  induction nibbles generalizing state dest with
  | nil =>
      rw [huffmanLoop] at h
      cases h
      exact hdest
  | cons n nibbles ih =>
      rw [huffmanLoop] at h
      split at h
      · split at h
        · cases h
        · apply ih h
          rw [List.length_append, List.length_singleton]
          omega
      · exact ih h hdest

/-- What is decoded leaves room for the closing NUL. -/
theorem http2HuffmanDecode_length {src out : List UInt8} {destSize : Nat}
    (h : http2HuffmanDecode src destSize = some out) : out.length < destSize := by
  unfold http2HuffmanDecode at h
  split at h
  · cases h
  · exact huffmanLoop_length _ h (by simp; omega)

end Halmos.Http2
