import Halmos.Fcgi.Record

set_option autoImplicit false

/-! # The FastCGI grammar

What a FastCGI 1.0 application reads: records (section 3.3 of the specification), name-value pairs
(3.4), and the messages a web server sends to it (section 5). Records and pairs are read back with
whatever follows them left over (`parseRecord_encode`, `parsePairs_encodePairs`).
-/

namespace Halmos.Fcgi

/-! ## Records -/

/-- A record without its padding. -/
structure ParsedRecord where
  type : UInt8
  requestId : Nat
  content : List UInt8
  deriving DecidableEq, Repr

/-- The record at the head of `bs`, and the bytes behind its padding. -/
def parseRecord : List UInt8 → Option (ParsedRecord × List UInt8)
  | version :: type :: id1 :: id0 :: len1 :: len0 :: pad :: _ :: rest =>
      let len := len1.toNat * 256 + len0.toNat
      if version = 1 ∧ len + pad.toNat ≤ rest.length then
        some (⟨type, id1.toNat * 256 + id0.toNat, rest.take len⟩, rest.drop (len + pad.toNat))
      else none
  | _ => none

/-- Records up to the end. -/
def parseRecords : Nat → List UInt8 → Option (List ParsedRecord)
  | _, [] => some []
  | 0, _ :: _ => none
  | fuel + 1, b :: bs =>
      (parseRecord (b :: bs)).bind (fun r =>
        (parseRecords fuel r.2).map (fun records => r.1 :: records))

/-! ## Name-value pairs -/

abbrev Pair := List UInt8 × List UInt8

/-- A length: one byte, or four with the top bit set. -/
def parseLength : List UInt8 → Option (Nat × List UInt8)
  | [] => none
  | b3 :: rest =>
      if b3.toNat < 128 then some (b3.toNat, rest)
      else
        match rest with
        | b2 :: b1 :: b0 :: rest =>
            some ((b3.toNat % 128) * 2 ^ 24 + b2.toNat * 2 ^ 16 + b1.toNat * 2 ^ 8 + b0.toNat, rest)
        | _ => none

/-- A pair: both lengths, the name and the value. -/
def parsePair (bs : List UInt8) : Option (Pair × List UInt8) :=
  (parseLength bs).bind (fun name =>
    (parseLength name.2).bind (fun value =>
      if name.1 + value.1 ≤ value.2.length then
        some ((value.2.take name.1, (value.2.drop name.1).take value.1),
          value.2.drop (name.1 + value.1))
      else none))

/-- Pairs up to the end. -/
def parsePairs : Nat → List UInt8 → Option (List Pair)
  | _, [] => some []
  | 0, _ :: _ => none
  | fuel + 1, b :: bs =>
      (parsePair (b :: bs)).bind (fun p => (parsePairs fuel p.2).map (fun pairs => p.1 :: pairs))

/-! ## Messages -/

/-- What a record tells the application. -/
inductive Message where
  | beginRequest (role : Nat) (keepConn : Bool)
  | params (pairs : List Pair)
  | stdin (data : List UInt8)
  deriving DecidableEq, Repr

/-- The message of a record. The pairs of a PARAMS stream are in one record here. -/
def ParsedRecord.message (r : ParsedRecord) : Option Message :=
  if r.type = 1 then
    match r.content with
    | [role1, role0, flags, _, _, _, _, _] =>
        some (.beginRequest (role1.toNat * 256 + role0.toNat) (flags &&& 1 ≠ 0))
    | _ => none
  else if r.type = 4 then (parsePairs r.content.length r.content).map .params
  else if r.type = 5 then some (.stdin r.content)
  else none

/-- The messages in the bytes, each with its request id. -/
def decodeMessages (bs : List UInt8) : Option (List (Nat × Message)) :=
  (parseRecords bs.length bs).bind (fun records =>
    records.mapM (fun r => r.message.map (fun m => (r.requestId, m))))

/-! ## Reading them back -/

section Encoded

variable {rest : List UInt8}

/-- Two bytes of a number, the higher one first. -/
theorem byteAt_join (n : Nat) : (byteAt n 8).toNat * 256 + (byteAt n 0).toNat = n % 65536 := by
  have hhigh : (byteAt n 8).toNat = n / 256 % 256 := byteAt_toNat n 8
  have hlow : (byteAt n 0).toNat = n / 1 % 256 := byteAt_toNat n 0
  rw [hhigh, hlow]
  omega

/-- The record as the application reads it. -/
def Record.parsed (requestId : Nat) (r : Record) : ParsedRecord :=
  ⟨r.type, requestId % 65536, r.content⟩

theorem parseRecord_encode (requestId : Nat) (r : Record) :
    parseRecord (r.encode requestId ++ rest) = some (r.parsed requestId, rest) := by
  have hlen : (byteAt r.content.length 8).toNat * 256 + (byteAt r.content.length 0).toNat
      = r.content.length := by
    calc _ = r.content.length % 2 ^ 16 := byteAt_join _
      _ = r.content.length := Nat.mod_eq_of_lt r.content_lt
  have hpad : (byteAt r.padding.length 0).toNat = r.padding.length := by
    have hlt := r.padding_lt
    have hbyte : (byteAt r.padding.length 0).toNat = r.padding.length / 1 % 256 := byteAt_toNat _ 0
    rw [hbyte]
    omega
  have hid := byteAt_join requestId
  have hbytes : r.encode requestId ++ rest = [1, r.type, byteAt requestId 8, byteAt requestId 0,
      byteAt r.content.length 8, byteAt r.content.length 0, byteAt r.padding.length 0, 0]
      ++ ((r.content ++ r.padding) ++ rest) := by
    unfold Record.encode Record.header
    rw [List.append_assoc]
  rw [hbytes]
  simp only [List.cons_append, List.nil_append, parseRecord, hlen, hpad, hid]
  rw [if_pos ⟨trivial, by simp only [List.length_append]; omega⟩]
  unfold Record.parsed
  rw [List.append_assoc, List.take_left, ← List.append_assoc,
    List.drop_left' (by rw [List.length_append])]

/-- Records, one after the other. -/
theorem parseRecords_encode (requestId : Nat) (rs : List Record) {fuel : Nat}
    (hfuel : rs.length ≤ fuel) :
    parseRecords fuel (rs.flatMap (Record.encode requestId)) = some (rs.map (Record.parsed requestId)) := by
  induction rs generalizing fuel with
  | nil => cases fuel <;> rfl
  | cons r rs ih =>
      obtain ⟨fuel, rfl⟩ : ∃ k, fuel = k + 1 := ⟨fuel - 1, by rw [List.length_cons] at hfuel; omega⟩
      have hread : parseRecord (r.encode requestId ++ rs.flatMap (Record.encode requestId))
          = some (r.parsed requestId, rs.flatMap (Record.encode requestId)) :=
        parseRecord_encode requestId r
      rw [List.flatMap_cons, List.map_cons]
      cases hcons : r.encode requestId ++ rs.flatMap (Record.encode requestId) with
      | nil =>
          rw [hcons] at hread
          cases hread
      | cons b bs =>
          rw [hcons] at hread
          rw [parseRecords, hread, Option.bind_some, ih (by rw [List.length_cons] at hfuel; omega)]
          rfl

/-- A length as it is sent. -/
def encodeLength (n : Nat) : List UInt8 :=
  if n < 128 then [byteAt n 0]
  else [UInt8.ofNat (n / 2 ^ 24 % 128 + 128), byteAt n 16, byteAt n 8, byteAt n 0]

def encodePair (p : Pair) : List UInt8 :=
  encodeLength p.1.length ++ (encodeLength p.2.length ++ (p.1 ++ p.2))

theorem parseLength_encodeLength {n : Nat} (hn : n < 2 ^ 31) :
    parseLength (encodeLength n ++ rest) = some (n, rest) := by
  unfold encodeLength
  by_cases hshort : n < 128
  · have hbyte : (byteAt n 0).toNat = n / 1 % 256 := byteAt_toNat n 0
    have hself : (byteAt n 0).toNat = n := by omega
    rw [if_pos hshort]
    show (if (byteAt n 0).toNat < 128 then some ((byteAt n 0).toNat, rest) else _) = _
    rw [hself, if_pos hshort]
  · have hbyte : (UInt8.ofNat (n / 2 ^ 24 % 128 + 128)).toNat = n / 2 ^ 24 % 128 + 128 := by
      rw [UInt8.toNat_ofNat']
      omega
    rw [if_neg hshort]
    simp only [List.cons_append, List.nil_append, parseLength, hbyte, byteAt_toNat]
    rw [if_neg (by omega), Option.some.injEq, Prod.mk.injEq]
    exact ⟨by omega, rfl⟩

theorem parsePair_encodePair {p : Pair} (hname : p.1.length < 2 ^ 31) (hvalue : p.2.length < 2 ^ 31) :
    parsePair (encodePair p ++ rest) = some (p, rest) := by
  unfold parsePair encodePair
  rw [List.append_assoc, parseLength_encodeLength hname, Option.bind_some, List.append_assoc,
    parseLength_encodeLength hvalue, Option.bind_some]
  dsimp only
  rw [if_pos (by simp only [List.length_append]; omega), List.append_assoc, List.take_left,
    List.drop_left, List.take_left, ← List.append_assoc, List.drop_left' List.length_append]

theorem encodePair_ne_nil (p : Pair) : encodePair p ≠ [] := by
  unfold encodePair encodeLength
  split <;> exact List.cons_ne_nil _ _

/-- Pairs, one after the other. -/
theorem parsePairs_encodePairs {pairs : List Pair}
    (hpairs : ∀ p ∈ pairs, p.1.length < 2 ^ 31 ∧ p.2.length < 2 ^ 31) {fuel : Nat}
    (hfuel : pairs.length ≤ fuel) : parsePairs fuel (pairs.flatMap encodePair) = some pairs := by
  induction pairs generalizing fuel with
  | nil => cases fuel <;> rfl
  | cons p pairs ih =>
      obtain ⟨fuel, rfl⟩ : ∃ k, fuel = k + 1 := ⟨fuel - 1, by rw [List.length_cons] at hfuel; omega⟩
      obtain ⟨⟨hname, hvalue⟩, hrest⟩ := List.forall_mem_cons.mp hpairs
      have hread : parsePair (encodePair p ++ pairs.flatMap encodePair)
          = some (p, pairs.flatMap encodePair) := parsePair_encodePair hname hvalue
      rw [List.flatMap_cons]
      cases hcons : encodePair p ++ pairs.flatMap encodePair with
      | nil => exact absurd (List.append_eq_nil_iff.mp hcons).1 (encodePair_ne_nil p)
      | cons b bs =>
          rw [hcons] at hread
          rw [parsePairs, hread, Option.bind_some,
            ih hrest (by rw [List.length_cons] at hfuel; omega)]
          rfl

end Encoded

end Halmos.Fcgi
