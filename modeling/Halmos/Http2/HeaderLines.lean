import Halmos.Hpack.Decoder
import Halmos.Http2.ResponseHeader
import Mathlib.Data.Bool.AllAny

set_option autoImplicit false

/-! # The header lines of a backend

`http2_response_send_complex_header` puts the lines of a backend into an HPACK block. A decoder gets
`:status` and the lines back, if and only if no name is longer than 126 bytes
(`complexHeader_decodes_iff`): the length of a longer name goes out as the prefix `0x7F` without the
bytes that have to follow it, and the decoder takes the name itself for them.
-/

namespace Halmos.Http2

open Hpack

/-! ## Lines -/

/-- A line `Name: value`. A name is of visible ASCII characters. -/
structure HeaderLine where
  name : List UInt8
  value : List UInt8
  name_visible : ∀ c ∈ name, 33 ≤ c.toNat ∧ c.toNat ≤ 126 ∧ c ≠ 58
  value_inline : ∀ c ∈ value, c ≠ 0 ∧ c ≠ 10 ∧ c ≠ 13

namespace HeaderLine

def text (l : HeaderLine) : List UInt8 := l.name ++ 58 :: l.value

/-- A `Status` line, which is not sent as a field. -/
def isStatus (l : HeaderLine) : Bool := l.name.map toLower = ascii "status"

/-- The line as a header field: the name in lower case, the value without the blanks around it. -/
def field (l : HeaderLine) : Field :=
  ⟨l.name.map toLower, (trimEnd l.value).dropWhile isSpace⟩

end HeaderLine

/-- Lines with CR LF between them. -/
def joinLines : List (List UInt8) → List UInt8
  | [] => []
  | [line] => line
  | line :: next :: lines => line ++ 13 :: 10 :: joinLines (next :: lines)

/-- The header text of a backend. -/
def rawHeaders (lines : List HeaderLine) : List UInt8 := joinLines (lines.map HeaderLine.text)

section Lines

variable {l : HeaderLine}

theorem HeaderLine.text_inline (l : HeaderLine) : ∀ c ∈ l.text, c ≠ 13 ∧ c ≠ 10 := by
  unfold HeaderLine.text
  intro c hc
  rcases List.mem_append.mp hc with hc | hc
  · have hvisible := (l.name_visible c hc).1
    constructor
    · rintro rfl
      exact absurd hvisible (by decide)
    · rintro rfl
      exact absurd hvisible (by decide)
  · rcases List.mem_cons.mp hc with rfl | hc
    · decide
    · exact ⟨(l.value_inline c hc).2.2, (l.value_inline c hc).2.1⟩

theorem HeaderLine.text_ne_nil (l : HeaderLine) : l.text ≠ [] := by
  unfold HeaderLine.text
  exact List.append_ne_nil_of_right_ne_nil _ (List.cons_ne_nil _ _)

/-- The lines of the text. -/
theorem tokens_joinLines {lines : List (List UInt8)}
    (hinline : ∀ line ∈ lines, ∀ c ∈ line, c ≠ 13 ∧ c ≠ 10) (hne : ∀ line ∈ lines, line ≠ []) :
    tokens (fun c => c = 13 ∨ c = 10) (joinLines lines) = lines := by
  unfold tokens
  induction lines with
  | nil => rfl
  | cons line lines ih =>
      have hline : ∀ c ∈ line, decide (c = 13 ∨ c = 10) = false := by
        intro c hc
        obtain ⟨hcr, hlf⟩ := hinline line List.mem_cons_self c hc
        exact decide_eq_false (not_or.mpr ⟨hcr, hlf⟩)
      have hkeep : ∀ pieces, (line :: pieces).filter (fun piece => piece ≠ [])
          = line :: pieces.filter (fun piece => piece ≠ []) := fun pieces =>
        List.filter_cons_of_pos (decide_eq_true (hne line List.mem_cons_self))
      cases lines with
      | nil =>
          rw [joinLines, List.splitOnP_eq_singleton hline, hkeep]
          rfl
      | cons next lines =>
          rw [joinLines, List.splitOnP_append_cons_of_forall_mem hline 13 (by decide), hkeep]
          congr 1
          have hempty : (10 :: joinLines (next :: lines)).splitOnP (fun c => decide (c = 13 ∨ c = 10))
              = [] :: (joinLines (next :: lines)).splitOnP (fun c => decide (c = 13 ∨ c = 10)) := by
            rw [List.splitOnP_cons_eq_if_modifyHead]
            exact if_pos (by decide)
          rw [hempty, List.filter_cons_of_neg (by decide)]
          apply ih
          · exact fun line hmem => hinline line (List.mem_cons_of_mem _ hmem)
          · exact fun line hmem => hne line (List.mem_cons_of_mem _ hmem)

theorem tokens_rawHeaders (lines : List HeaderLine) :
    tokens (fun c => c = 13 ∨ c = 10) (rawHeaders lines) = lines.map HeaderLine.text := by
  apply tokens_joinLines
  · intro line hline
    obtain ⟨l, -, rfl⟩ := List.mem_map.mp hline
    exact l.text_inline
  · intro line hline
    obtain ⟨l, -, rfl⟩ := List.mem_map.mp hline
    exact l.text_ne_nil

end Lines

/-! ## One field -/

/-- The bytes of a field, its name cut to 127 bytes. -/
def wireField (f : Field) : List UInt8 :=
  [0x00, UInt8.ofNat (min f.name.length 127)] ++ f.name.take 127 ++ lengthBytes f.value.length
    ++ f.value

section Wire

theorem lineField_text (l : HeaderLine) :
    lineField l.text = if l.isStatus then [] else wireField l.field := by
  have hcolon : ∀ c ∈ l.name, decide (c ≠ 58) = true := by
    intro c hc
    exact decide_eq_true (l.name_visible c hc).2.2
  have htake : l.text.takeWhile (fun c => c ≠ 58) = l.name := by
    unfold HeaderLine.text
    rw [List.takeWhile_append_of_pos hcolon, List.takeWhile_cons_of_neg (by decide),
      List.append_nil]
  have hdrop : (l.text.dropWhile (fun c => c ≠ 58)).drop 1 = l.value := by
    unfold HeaderLine.text
    rw [List.dropWhile_append_of_pos hcolon, List.dropWhile_cons_of_neg (by decide)]
    rfl
  have hname : l.name.dropWhile isSpace = l.name := by
    cases hcases : l.name with
    | nil => rfl
    | cons c cs =>
        have hvisible := (l.name_visible c (by rw [hcases]; exact List.mem_cons_self)).1
        apply List.dropWhile_cons_of_neg
        unfold isSpace
        intro hspace
        rcases of_decide_eq_true hspace with rfl | ⟨-, hle⟩
        · exact absurd hvisible (by decide)
        · have hle' : c.toNat ≤ 13 := hle
          omega
  have hmem : (58 : UInt8) ∈ l.text := by
    unfold HeaderLine.text
    exact List.mem_append_right _ List.mem_cons_self
  unfold lineField
  dsimp only
  rw [if_neg (not_not_intro hmem), htake, hdrop, hname]
  unfold HeaderLine.isStatus wireField HeaderLine.field
  dsimp only
  rw [List.length_map]
  by_cases hstatus : l.name.map toLower = ascii "status"
  · rw [if_pos hstatus, if_pos (decide_eq_true hstatus)]
  · rw [if_neg hstatus, if_neg (by simpa using hstatus)]

theorem restBytes_eq (n : Nat) : restBytes n = encodeIntRest n := by
  induction n using Nat.strong_induction_on with
  | _ n ih =>
      rw [restBytes, encodeIntRest]
      by_cases hn : n < 128
      · rw [if_neg (by omega), if_pos hn]
      · have hlow : (n &&& 0x7F) ||| 0x80 = n % 128 + 128 := by
          have hmod : n &&& 0x7F = n % 128 := Nat.and_two_pow_sub_one_eq_mod n 7
          have hor := Nat.two_pow_add_eq_or_of_lt (show n % 128 < 2 ^ 7 by omega) 1
          rw [hmod, Nat.or_comm, show (0x80 : Nat) = 2 ^ 7 * 1 from rfl]
          exact hor.symm.trans (Nat.add_comm _ _)
        rw [if_pos (by omega), if_neg hn, hlow, Nat.shiftRight_eq_div_pow, ih (n / 2 ^ 7) (by omega)]

theorem lengthBytes_eq (n : Nat) : lengthBytes n = encodeInt 7 0x00 n := by
  unfold lengthBytes encodeInt
  rw [restBytes_eq]
  by_cases hn : n < 127
  · rw [if_pos hn, if_pos (by omega), Nat.zero_add]
  · rw [if_neg hn, if_neg (by omega)]
    rfl

/-- A name that fits its length byte. -/
theorem wireField_short {f : Field} (h : f.name.length ≤ 126) :
    wireField f = (plainField f).encode := by
  have hlen : encodeInt 7 0x00 f.name.length = [UInt8.ofNat f.name.length] := by
    unfold encodeInt
    rw [if_pos (by omega), Nat.zero_add]
  show _ = [0x00] ++ (encodeInt 7 0x00 f.name.length ++ f.name)
    ++ (encodeInt 7 0x00 f.value.length ++ f.value)
  unfold wireField
  rw [hlen, lengthBytes_eq, Nat.min_eq_left (by omega), List.take_of_length_le (by omega)]
  simp only [List.append_assoc, List.cons_append, List.nil_append]

/-- A row of bytes that is shifted by one into itself. -/
theorem eq_of_cons_eq_concat {b x : UInt8} {m : List UInt8} (h : b :: m = m ++ [x]) : x = b := by
  induction m with
  | nil => exact (List.cons.inj h).1.symm
  | cons y m ih =>
      obtain ⟨rfl, htail⟩ := List.cons.inj h
      exact ih htail

/-- What stands behind a name that is too long is not read as its value. -/
theorem readString_behind {fs : List Field} {value : StringLit} {rest : List UInt8}
    (h : readString (fs.flatMap wireField) = some (value, rest)) : value.octets = [] := by
  cases fs with
  | nil => cases h
  | cons f fs =>
      have hbytes : ∃ bs, (f :: fs).flatMap wireField = 0x00 :: bs := ⟨_, rfl⟩
      obtain ⟨bs, hbs⟩ := hbytes
      have hint : readInt 7 (0x00 :: bs) = some (0, bs) := rfl
      rw [hbs, readString, hint, Option.bind_some] at h
      dsimp only at h
      rw [if_neg (Nat.not_lt_zero _), if_pos (by decide)] at h
      cases h
      rfl

/-- A name that is too long, as a decoder reads it. -/
theorem readRep_wireField {f : Field} {b : UInt8} {m : List UInt8}
    (hname : f.name.take 127 = b :: m) (hlong : 127 ≤ f.name.length) (hb : b.toNat < 128)
    {tail : List UInt8} {rep : Rep} {rest : List UInt8}
    (h : readRep (wireField f ++ tail) = some (rep, rest)) :
    let behind := m ++ (lengthBytes f.value.length ++ (f.value ++ tail))
    ∃ value, 127 + b.toNat ≤ behind.length
      ∧ rep = .literal .without (.lit ⟨behind.take (127 + b.toNat), false⟩) value
      ∧ readString (behind.drop (127 + b.toNat)) = some (value, rest) := by
  intro behind
  have hbytes : wireField f ++ tail = 0x00 :: 0x7F :: b :: behind := by
    unfold wireField
    rw [hname, Nat.min_eq_right hlong]
    simp only [List.append_assoc, List.cons_append, List.nil_append]
    rfl
  have hint : readInt 7 (0x7F :: b :: behind) = some (127 + b.toNat, behind) := by
    have hrest : readIntRest (b :: behind) = some (b.toNat, behind) := if_pos hb
    show (readIntRest (b :: behind)).map _ = _
    rw [hrest]
    rfl
  have hzero : readInt 4 (0x00 :: 0x7F :: b :: behind) = some (0, 0x7F :: b :: behind) := rfl
  rw [hbytes, readRep, if_neg (by decide), if_neg (by decide), if_neg (by decide),
    if_neg (by decide)] at h
  unfold Hpack.readLiteral at h
  rw [show Indexing.width .without = 4 from rfl, hzero, Option.bind_some] at h
  dsimp only at h
  rw [if_pos rfl, readString, hint, Option.bind_some] at h
  dsimp only at h
  by_cases hshort : behind.length < 127 + b.toNat
  · rw [if_pos hshort] at h
    cases h
  · rw [if_neg hshort, if_pos (by decide), Option.bind_some] at h
    obtain ⟨⟨value, rest'⟩, hvalue, heq⟩ := Option.map_eq_some_iff.mp h
    cases heq
    exact ⟨value, by omega, rfl, hvalue⟩

/-- A name of visible ASCII characters. -/
def Visible (name : List UInt8) : Prop := ∀ c ∈ name, 33 ≤ c.toNat ∧ c.toNat ≤ 126

/-- **A name that is too long** is not read back together with its value. -/
theorem readRep_long {f : Field} (hvisible : Visible f.name) (hlong : 127 ≤ f.name.length)
    {fs : List Field} {rep : Rep} {rest : List UInt8}
    (h : readRep (wireField f ++ fs.flatMap wireField) = some (rep, rest)) :
    ∃ name value, rep = .literal .without (.lit name) value ∧
      ¬ (name.octets = f.name ∧ value.octets = f.value) := by
  obtain ⟨b, m, hname⟩ : ∃ b m, f.name.take 127 = b :: m := by
    apply List.exists_cons_of_ne_nil
    intro hnil
    have hlen := congrArg List.length hnil
    rw [List.length_take, List.length_nil] at hlen
    omega
  have hm : m.length = 126 := by
    have hlen := congrArg List.length hname
    rw [List.length_take, List.length_cons] at hlen
    omega
  obtain ⟨hlow, hhigh⟩ := hvisible b (List.mem_of_mem_take (by rw [hname]; exact List.mem_cons_self))
  obtain ⟨value, hle, rfl, hvalue⟩ := readRep_wireField hname hlong (by omega) h
  refine ⟨_, value, rfl, ?_⟩
  rintro ⟨hoctets, hvalueOctets⟩
  dsimp only at hoctets
  obtain ⟨x, xs, hx⟩ : ∃ x xs, lengthBytes f.value.length = x :: xs := by
    unfold lengthBytes
    split
    · exact ⟨_, _, rfl⟩
    · exact ⟨_, _, rfl⟩
  -- the name as it is read is the name shifted by one byte, so that all its bytes are equal
  have hshift : b :: m = m ++ [x] := by
    rw [← hname, ← hoctets, List.take_take, Nat.min_eq_left (by omega), List.take_append, hx, hm,
      List.take_of_length_le (by omega)]
    rfl
  have hxb : x = b := eq_of_cons_eq_concat hshift
  have hvlen : f.value.length = b.toNat ∧ lengthBytes f.value.length = [b] := by
    unfold lengthBytes at hx ⊢
    by_cases hv : f.value.length < 127
    · rw [if_pos hv] at hx ⊢
      have hhead := (List.cons.inj hx).1
      rw [hxb] at hhead
      refine ⟨?_, by rw [hhead]⟩
      rw [← hhead, UInt8.toNat_ofNat']
      exact (Nat.mod_eq_of_lt (by omega)).symm
    · rw [if_neg hv] at hx
      have hhead := (List.cons.inj hx).1
      rw [hxb] at hhead
      rw [← hhead] at hhigh
      exact absurd hhigh (by decide)
  -- the value is read from behind the field
  rw [hvlen.2, show m ++ ([b] ++ (f.value ++ fs.flatMap wireField))
      = (m ++ [b] ++ f.value) ++ fs.flatMap wireField by simp only [List.append_assoc],
    List.drop_left' (by simp only [List.length_append, List.length_singleton]; omega)] at hvalue
  have hempty := readString_behind hvalue
  rw [hvalueOctets, ← List.length_eq_zero_iff] at hempty
  omega

/-- The fields are read back until the first one with a name that is too long. -/
theorem decode_wireFields_iff (limit : Nat) (t : DynTable) {fs : List Field}
    (hvisible : ∀ f ∈ fs, Visible f.name) {fuel : Nat} (hfuel : fs.length ≤ fuel) :
    (readBlock fuel (fs.flatMap wireField)).bind (t.decodeBlock limit) = some (t, fs)
      ↔ ∀ f ∈ fs, f.name.length ≤ 126 := by
  induction fs generalizing fuel with
  | nil =>
      constructor
      · intro _ f hf
        cases hf
      · intro _
        cases fuel <;> rfl
  | cons f fs ih =>
      obtain ⟨fuel, rfl⟩ : ∃ k, fuel = k + 1 := ⟨fuel - 1, by rw [List.length_cons] at hfuel; omega⟩
      have hfuel' : fs.length ≤ fuel := by
        rw [List.length_cons] at hfuel
        omega
      have hne : wireField f ++ fs.flatMap wireField ≠ [] := List.cons_ne_nil _ _
      have htail := ih (fun g hg => hvisible g (List.mem_cons_of_mem f hg)) hfuel'
      rw [List.flatMap_cons, List.forall_mem_cons]
      by_cases hshort : f.name.length ≤ 126
      · have hread : readRep (wireField f ++ fs.flatMap wireField)
            = some (plainField f, fs.flatMap wireField) := by
          rw [wireField_short hshort]
          exact readRep_plainField f
        rw [readBlock_of_readRep hne hread, ← htail]
        cases hreps : readBlock fuel (fs.flatMap wireField) with
        | none =>
            constructor
            · intro h
              cases h
            · rintro ⟨-, h⟩
              cases h
        | some reps =>
            have hcons : t.decodeBlock limit (plainField f :: reps)
                = (t.decodeBlock limit reps).map (fun r => (r.1, f :: r.2)) :=
              decodeBlock_plainFields limit t [f] reps
            rw [Option.map_some, Option.bind_some, Option.bind_some, hcons]
            cases hfields : t.decodeBlock limit reps with
            | none =>
                constructor
                · intro h
                  cases h
                · rintro ⟨-, h⟩
                  cases h
            | some r =>
                constructor
                · intro h
                  cases h
                  exact ⟨hshort, rfl⟩
                · rintro ⟨-, h⟩
                  cases h
                  rfl
      · constructor
        · intro h
          -- the decoder does not get the field
          cases hread : readRep (wireField f ++ fs.flatMap wireField) with
          | none =>
              rw [show wireField f ++ fs.flatMap wireField = 0x00 :: _ from rfl] at h hread
              rw [readBlock, hread] at h
              cases h
          | some r =>
              obtain ⟨rep, rest⟩ := r
              obtain ⟨name, value, rfl, hwrong⟩ := readRep_long
                (hvisible f List.mem_cons_self) (by omega) hread
              rw [readBlock_of_readRep hne hread] at h
              cases hreps : readBlock fuel rest with
              | none =>
                  rw [hreps] at h
                  cases h
              | some reps =>
                  rw [hreps, Option.map_some, Option.bind_some] at h
                  have hdecode : (t.decodeBlock limit reps).map
                      (fun r => (r.1, (⟨name.octets, value.octets⟩ : Field) :: r.2))
                      = some (t, f :: fs) := h
                  obtain ⟨r, -, heq⟩ := Option.map_eq_some_iff.mp hdecode
                  have hfield := (List.cons.inj (Prod.mk.inj heq).2).1
                  rw [← hfield] at hwrong
                  exact absurd ⟨rfl, rfl⟩ hwrong
        · rintro ⟨h, -⟩
          exact absurd h hshort

end Wire

/-! ## The block -/

/-- The representation of `:status`. -/
def statusRep (status : Nat) : Rep :=
  if status = 200 then .indexed 8
  else if status = 204 then .indexed 9
  else if status = 304 then .indexed 11
  else if status = 400 then .indexed 12
  else if status = 404 then .indexed 13
  else if status = 500 then .indexed 14
  else .literal .without (.index 8) ⟨statusNumeral status, false⟩

/-- `:status` with its value. -/
def statusOf (status : Nat) : Field := ⟨ascii ":status", statusNumeral status⟩

section Block

variable {rest : List UInt8}

theorem statusNumeral_length_le (status : Nat) : (statusNumeral status).length ≤ 10 := by
  unfold statusNumeral
  dsimp only
  split
  · omega
  · rw [List.length_append, List.length_take, List.length_singleton]
    omega

theorem readRep_statusField (status : Nat) :
    readRep (statusField status ++ rest) = some (statusRep status, rest) := by
  unfold statusField statusRep
  split_ifs
  · rfl
  · rfl
  · rfl
  · rfl
  · rfl
  · rfl
  · have hlen := statusNumeral_length_le status
    have hint : encodeInt 7 0x00 (statusNumeral status).length
        = [UInt8.ofNat (statusNumeral status).length] := by
      unfold encodeInt
      rw [if_pos (by omega), Nat.zero_add]
    have hbytes : [0x08, UInt8.ofNat (statusNumeral status).length] ++ statusNumeral status ++ rest
        = 0x08 :: ((⟨statusNumeral status, false⟩ : StringLit).encode ++ rest) := by
      show _ = 0x08 :: (encodeInt 7 0x00 (statusNumeral status).length ++ statusNumeral status
        ++ rest)
      rw [hint]
      rfl
    have height : ∀ bs, readInt 4 ((0x08 : UInt8) :: bs) = some (8, bs) := fun _ => rfl
    rw [hbytes, readRep, if_neg (by decide), if_neg (by decide), if_neg (by decide),
      if_neg (by decide)]
    unfold Hpack.readLiteral
    rw [show Indexing.width .without = 4 from rfl, height, Option.bind_some]
    dsimp only
    rw [if_neg (by decide), readString_encode]
    rfl

theorem decode_statusRep (limit : Nat) (t : DynTable) (status : Nat) :
    t.decode limit (statusRep status) = some (t, some (statusOf status)) := by
  have hindexed : ∀ i f, 1 ≤ i → i ≤ 61 → staticTable[i - 1]? = some f →
      t.decode limit (.indexed i) = some (t, some f) := by
    intro i f hlow hhigh hget
    show (t.lookup i).map _ = _
    unfold DynTable.lookup
    rw [if_neg (by omega), if_pos hhigh, hget]
    rfl
  unfold statusRep
  split_ifs with h200 h204 h304 h400 h404 h500
  · rw [h200]
    exact hindexed 8 _ (by decide) (by decide) (by decide)
  · rw [h204]
    exact hindexed 9 _ (by decide) (by decide) (by decide)
  · rw [h304]
    exact hindexed 11 _ (by decide) (by decide) (by decide)
  · rw [h400]
    exact hindexed 12 _ (by decide) (by decide) (by decide)
  · rw [h404]
    exact hindexed 13 _ (by decide) (by decide) (by decide)
  · rw [h500]
    exact hindexed 14 _ (by decide) (by decide) (by decide)
  · rfl

/-- The block of a backend's lines: `:status`, and a field for every line but `Status`. -/
theorem complexHeaderBlock_rawHeaders (lines : List HeaderLine) :
    complexHeaderBlock (rawHeaders lines)
      = statusField (finalStatus (rawHeaders lines))
        ++ ((lines.filter (fun l => !l.isStatus)).map HeaderLine.field).flatMap wireField := by
  unfold complexHeaderBlock
  rw [tokens_rawHeaders]
  congr 1
  induction lines with
  | nil => rfl
  | cons l lines ih =>
      rw [List.map_cons, List.flatMap_cons, lineField_text]
      by_cases hstatus : l.isStatus = true
      · rw [if_pos hstatus, List.filter_cons_of_neg (by rw [hstatus]; decide), List.nil_append]
        exact ih
      · rw [if_neg hstatus, List.filter_cons_of_pos (by simpa using hstatus), List.map_cons,
          List.flatMap_cons]
        exact congrArg _ ih

/-- In lower case a name stays visible. -/
theorem HeaderLine.field_visible (l : HeaderLine) : Visible l.field.name := by
  intro c hc
  obtain ⟨d, hd, rfl⟩ := List.mem_map.mp hc
  obtain ⟨hlow, hhigh, -⟩ := l.name_visible d hd
  unfold toLower
  split
  · next hupper =>
      have hle : d.toNat ≤ 90 := hupper.2
      rw [UInt8.toNat_add, show (32 : UInt8).toNat = 32 from rfl, Nat.mod_eq_of_lt (by omega)]
      omega
  · exact ⟨hlow, hhigh⟩

theorem length_le_wireFields (fs : List Field) : fs.length ≤ (fs.flatMap wireField).length := by
  induction fs with
  | nil => exact Nat.le_refl 0
  | cons f fs ih =>
      have hfield : 1 ≤ (wireField f).length := Nat.le_add_left 1 _
      rw [List.flatMap_cons, List.length_append, List.length_cons]
      omega

/-- A `Status` line has a short name. -/
theorem HeaderLine.short_of_isStatus {l : HeaderLine} (h : l.isStatus = true) :
    l.name.length ≤ 126 := by
  have hlen := congrArg List.length (of_decide_eq_true h)
  rw [List.length_map] at hlen
  rw [hlen]
  decide

/-- **The header lines of a backend** come out of a decoder as they went in, behind `:status` and
without `Status`, if and only if no name is longer than 126 bytes. -/
theorem complexHeader_decodes_iff (limit : Nat) (t : DynTable) (streamId : Nat) (flags : UInt8)
    (lines : List HeaderLine) :
    t.decodeBytes limit (http2ResponseSendComplexHeader streamId (rawHeaders lines) flags).payload
      = some (t, statusOf (finalStatus (rawHeaders lines))
        :: (lines.filter (fun l => !l.isStatus)).map HeaderLine.field)
      ↔ ∀ l ∈ lines, l.name.length ≤ 126 := by
  show t.decodeBytes limit (complexHeaderBlock (rawHeaders lines)) = _ ↔ _
  rw [complexHeaderBlock_rawHeaders]
  generalize hstatus : finalStatus (rawHeaders lines) = status
  generalize hfs : (lines.filter (fun l => !l.isStatus)).map HeaderLine.field = fs
  -- the `Status` lines that the filter drops have a short name anyway
  have hshort : (∀ l ∈ lines, l.name.length ≤ 126) ↔ ∀ f ∈ fs, f.name.length ≤ 126 := by
    rw [← hfs]
    constructor
    · intro h f hf
      obtain ⟨l, hl, rfl⟩ := List.mem_map.mp hf
      show (l.name.map toLower).length ≤ 126
      rw [List.length_map]
      exact h l (List.mem_filter.mp hl).1
    · intro h l hl
      by_cases hstatus : l.isStatus = true
      · exact HeaderLine.short_of_isStatus hstatus
      · have hmem : l ∈ lines.filter (fun l => !l.isStatus) :=
          List.mem_filter.mpr ⟨hl, by simpa using hstatus⟩
        have hle := h l.field (List.mem_map_of_mem hmem)
        rw [show l.field.name.length = l.name.length from List.length_map _] at hle
        exact hle
  have hvisible : ∀ f ∈ fs, Visible f.name := by
    rw [← hfs]
    intro f hf
    obtain ⟨l, -, rfl⟩ := List.mem_map.mp hf
    exact l.field_visible
  have hne : statusField status ≠ [] := by
    unfold statusField
    split_ifs <;> exact List.cons_ne_nil _ _
  -- `decodeBytes` reads with the length of the block as fuel: one unit for `:status`, and every
  -- field behind it takes a byte or more
  obtain ⟨fuel, hlen, hfuel⟩ : ∃ fuel, (statusField status ++ fs.flatMap wireField).length = fuel + 1
      ∧ fs.length ≤ fuel := by
    have hpos := List.length_pos_of_ne_nil hne
    have hfields := length_le_wireFields fs
    refine ⟨(statusField status ++ fs.flatMap wireField).length - 1, ?_, ?_⟩
    · rw [List.length_append]
      omega
    · rw [List.length_append]
      omega
  unfold DynTable.decodeBytes
  rw [hlen, readBlock_of_readRep (List.append_ne_nil_of_left_ne_nil hne _)
    (readRep_statusField status), hshort, ← decode_wireFields_iff limit t hvisible hfuel]
  -- `:status` never touches the table, so both sides fail or succeed with the rest of the block
  cases hreps : readBlock fuel (fs.flatMap wireField) with
  | none =>
      constructor
      · intro h
        cases h
      · intro h
        cases h
  | some reps =>
      have hcons : t.decodeBlock limit (statusRep status :: reps)
          = (t.decodeBlock limit reps).map (fun r => (r.1, statusOf status :: r.2)) := by
        rw [DynTable.decodeBlock, decode_statusRep, Option.bind_some]
        rfl
      rw [Option.map_some, Option.bind_some, Option.bind_some, hcons]
      cases hfields : t.decodeBlock limit reps with
      | none =>
          constructor
          · intro h
            cases h
          · intro h
            cases h
      | some r =>
          constructor
          · intro h
            cases h
            rfl
          · intro h
            cases h
            rfl

/-- A name of 127 bytes. -/
def longLine : HeaderLine where
  name := List.replicate 127 97
  value := [98]
  name_visible c hc := by
    rw [List.eq_of_mem_replicate hc]
    decide
  value_inline := List.all_iff_forall_prop.mp (by decide)

/-- The block with it cannot be decoded. -/
theorem complexHeader_undecodable :
    (DynTable.empty 4096).decodeBytes 4096
      (http2ResponseSendComplexHeader 1 (rawHeaders [longLine]) 0x04).payload = none := by
  decide +kernel

end Block

end Halmos.Http2
