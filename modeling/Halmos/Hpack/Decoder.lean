import Halmos.Hpack.Rfc7541

set_option autoImplicit false

/-! # Reading a header block

The decoder of RFC 7541, from the bytes of a header block to its header list. What an encoder
writes without the Huffman code is read back with whatever follows it left over
(`readBlock_encodeBlock`).
-/

namespace Halmos.Hpack

open PrefixCode

/-! ## Integers and strings -/

/-- The continuation bytes of an integer. -/
def readIntRest : List UInt8 → Option (Nat × List UInt8)
  | [] => none
  | b :: bs =>
      if b.toNat < 128 then some (b.toNat, bs)
      else (readIntRest bs).map (fun r => (b.toNat % 128 + 128 * r.1, r.2))

/-- An integer with a prefix of `width` bits (Section 5.1), and the bytes behind it. -/
def readInt (width : Nat) : List UInt8 → Option (Nat × List UInt8)
  | [] => none
  | b :: bs =>
      let low := b.toNat % 2 ^ width
      if low < 2 ^ width - 1 then some (low, bs)
      else (readIntRest bs).map (fun r => (2 ^ width - 1 + r.1, r.2))

/-- The byte whose word the bits begin with. -/
def readLetter (w : List Bool) : Option (UInt8 × List Bool) :=
  (List.range 256).findSome? (fun n =>
    let word := huffmanWord (some (UInt8.ofNat n))
    if word.isPrefixOf w then some (UInt8.ofNat n, w.drop word.length) else none)

/-- A text; its last byte is filled up with less than eight ones. -/
def readText : Nat → List Bool → Option (List UInt8)
  | 0, w => if w = [] then some [] else none
  | fuel + 1, w =>
      match readLetter w with
      | some (b, rest) => (readText fuel rest).map (fun text => b :: text)
      | none => if w.length < 8 ∧ w.all id then some [] else none

/-- The inverse of `huffmanEncode`. -/
def huffmanDecode (bs : List UInt8) : Option (List UInt8) :=
  readText (8 * bs.length) (unpackBits bs)

/-- A string literal (Section 5.2), and the bytes behind it. -/
def readString : List UInt8 → Option (StringLit × List UInt8)
  | [] => none
  | b :: bs =>
      (readInt 7 (b :: bs)).bind (fun r =>
        if r.2.length < r.1 then none
        else if b.toNat < 128 then some (⟨r.2.take r.1, false⟩, r.2.drop r.1)
        else (huffmanDecode (r.2.take r.1)).map (fun text => (⟨text, true⟩, r.2.drop r.1)))

/-! ## Representations -/

/-- A literal field (Section 6.2). -/
def readLiteral (mode : Indexing) (bs : List UInt8) : Option (Rep × List UInt8) :=
  (readInt mode.width bs).bind (fun r =>
    if r.1 = 0 then
      (readString r.2).bind (fun name =>
        (readString name.2).map (fun value => (.literal mode (.lit name.1) value.1, value.2)))
    else (readString r.2).map (fun value => (.literal mode (.index r.1) value.1, value.2)))

/-- A representation (Section 6), by the high bits of its first byte. -/
def readRep : List UInt8 → Option (Rep × List UInt8)
  | [] => none
  | b :: bs =>
      if 128 ≤ b.toNat then (readInt 7 (b :: bs)).map (fun r => (.indexed r.1, r.2))
      else if 64 ≤ b.toNat then readLiteral .incremental (b :: bs)
      else if 32 ≤ b.toNat then (readInt 5 (b :: bs)).map (fun r => (.sizeUpdate r.1, r.2))
      else if 16 ≤ b.toNat then readLiteral .never (b :: bs)
      else readLiteral .without (b :: bs)

/-- The representations of a block. -/
def readBlock : Nat → List UInt8 → Option (List Rep)
  | _, [] => some []
  | 0, _ :: _ => none
  | fuel + 1, b :: bs =>
      (readRep (b :: bs)).bind (fun r => (readBlock fuel r.2).map (fun reps => r.1 :: reps))

/-- A header block: the table afterwards and the header list. -/
def DynTable.decodeBytes (limit : Nat) (t : DynTable) (bs : List UInt8) :
    Option (DynTable × List Field) :=
  (readBlock bs.length bs).bind (t.decodeBlock limit)

/-! ## Reading what an encoder wrote -/

section Encoded

variable {rest : List UInt8}

theorem readIntRest_encodeIntRest (n : Nat) :
    readIntRest (encodeIntRest n ++ rest) = some (n, rest) := by
  induction n using Nat.strong_induction_on with
  | _ n ih =>
      rw [encodeIntRest]
      by_cases hn : n < 128
      · have hbyte : (UInt8.ofNat n).toNat = n := by
          rw [UInt8.toNat_ofNat']
          exact Nat.mod_eq_of_lt (by omega)
        rw [if_pos hn, List.singleton_append, readIntRest, hbyte, if_pos hn]
      · have hbyte : (UInt8.ofNat (n % 128 + 128)).toNat = n % 128 + 128 := by
          rw [UInt8.toNat_ofNat']
          exact Nat.mod_eq_of_lt (by omega)
        rw [if_neg hn, List.cons_append, readIntRest, hbyte, if_neg (by omega),
          ih (n / 128) (by omega), Option.map_some, Option.some.injEq, Prod.mk.injEq]
        constructor
        · show (n % 128 + 128) % 128 + 128 * (n / 128) = n
          omega
        · rfl

theorem readInt_encodeInt {width pattern : Nat} (hdvd : 2 ^ width ∣ pattern)
    (hle : pattern + 2 ^ width ≤ 256) (n : Nat) :
    readInt width (encodeInt width pattern n ++ rest) = some (n, rest) := by
  obtain ⟨k, rfl⟩ := hdvd
  have hpos : 0 < 2 ^ width := Nat.two_pow_pos width
  unfold encodeInt
  by_cases hn : n < 2 ^ width - 1
  · have hbyte : (UInt8.ofNat (2 ^ width * k + n)).toNat % 2 ^ width = n := by
      rw [UInt8.toNat_ofNat', Nat.mod_eq_of_lt (show 2 ^ width * k + n < 2 ^ 8 by omega),
        Nat.mul_add_mod]
      exact Nat.mod_eq_of_lt (by omega)
    rw [if_pos hn, List.singleton_append, readInt, hbyte, if_pos hn]
  · have hbyte : (UInt8.ofNat (2 ^ width * k + (2 ^ width - 1))).toNat % 2 ^ width
        = 2 ^ width - 1 := by
      rw [UInt8.toNat_ofNat', Nat.mod_eq_of_lt (show 2 ^ width * k + (2 ^ width - 1) < 2 ^ 8 by omega),
        Nat.mul_add_mod]
      exact Nat.mod_eq_of_lt (by omega)
    rw [if_neg hn, List.cons_append, readInt, hbyte, if_neg (Nat.lt_irrefl _),
      readIntRest_encodeIntRest, Option.map_some, Option.some.injEq, Prod.mk.injEq]
    exact ⟨by omega, rfl⟩

/-- A string that is sent as it is. -/
theorem readString_encode (octets : List UInt8) :
    readString ((⟨octets, false⟩ : StringLit).encode ++ rest) = some (⟨octets, false⟩, rest) := by
  have hread : readInt 7 (encodeInt 7 0x00 octets.length ++ (octets ++ rest))
      = some (octets.length, octets ++ rest) := readInt_encodeInt ⟨0, rfl⟩ (by decide) _
  have hfirst : ∃ b bs, encodeInt 7 0x00 octets.length = b :: bs ∧ b.toNat < 128 := by
    unfold encodeInt
    split
    · next hlt =>
        refine ⟨_, _, rfl, ?_⟩
        rw [UInt8.toNat_ofNat', Nat.mod_eq_of_lt (by omega)]
        omega
    · exact ⟨_, _, rfl, by decide⟩
  obtain ⟨b, bs, hcons, hb⟩ := hfirst
  show readString (encodeInt 7 0x00 octets.length ++ octets ++ rest) = _
  rw [hcons, List.cons_append] at hread
  rw [List.append_assoc, hcons, List.cons_append, readString, hread, Option.bind_some]
  dsimp only
  rw [if_neg (by rw [List.length_append]; omega), if_pos hb, List.take_left, List.drop_left]

/-- A literal without indexing whose strings are sent as they are. -/
def plainField (f : Field) : Rep := .literal .without (.lit ⟨f.name, false⟩) ⟨f.value, false⟩

theorem readRep_plainField (f : Field) :
    readRep ((plainField f).encode ++ rest) = some (plainField f, rest) := by
  have hbytes : (plainField f).encode ++ rest = 0x00 :: ((⟨f.name, false⟩ : StringLit).encode
      ++ ((⟨f.value, false⟩ : StringLit).encode ++ rest)) := by
    show ([0x00] ++ _ ++ _) ++ rest = _
    rw [List.append_assoc, List.append_assoc]
    rfl
  have hint : ∀ bs, readInt 4 ((0x00 : UInt8) :: bs) = some (0, bs) := by
    intro bs
    rfl
  rw [hbytes, readRep, if_neg (by decide), if_neg (by decide), if_neg (by decide),
    if_neg (by decide)]
  unfold readLiteral
  rw [show Indexing.width .without = 4 from rfl, hint, Option.bind_some]
  dsimp only
  rw [if_pos rfl, readString_encode, Option.bind_some, readString_encode]
  rfl

/-- The bytes of a block, one representation after the other. -/
theorem readBlock_of_readRep {bs : List UInt8} {rep : Rep} (hne : bs ≠ [])
    (h : readRep bs = some (rep, rest)) (fuel : Nat) :
    readBlock (fuel + 1) bs = (readBlock fuel rest).map (fun reps => rep :: reps) := by
  cases bs with
  | nil => exact absurd rfl hne
  | cons b bs => rw [readBlock, h, Option.bind_some]

/-- Plain fields are the header list, and leave the table alone. -/
theorem decodeBlock_plainFields (limit : Nat) (t : DynTable) (fs : List Field)
    (reps : List Rep) :
    t.decodeBlock limit (fs.map plainField ++ reps)
      = (t.decodeBlock limit reps).map (fun r => (r.1, fs ++ r.2)) := by
  induction fs with
  | nil =>
      show t.decodeBlock limit reps = (t.decodeBlock limit reps).map id
      rw [Option.map_id, id_eq]
  | cons f fs ih =>
      show (t.decodeBlock limit (fs.map plainField ++ reps)).map _ = _
      rw [ih, Option.map_map]
      rfl

end Encoded

end Halmos.Hpack
