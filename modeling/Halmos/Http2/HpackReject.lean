import Halmos.Http2.HpackRefines

set_option autoImplicit false

/-! # What a rejected block does to the table

A field that does not fit its buffer ends the loop of `parse_header` at once, and the fields
behind it are not read. The table is the connection's, so it is then behind the peer's by the
entries those fields would have added (`parseHeader_rejected_iff`).
-/

namespace Halmos.Http2

open Hpack

/-! ## Every pass reads at least one byte -/

theorem decodeIntLoop_rest_length (shift res : Nat) (pos : List UInt8) :
    (decodeIntLoop shift res pos).2.length ≤ pos.length := by
  induction pos generalizing shift res with
  | nil => exact Nat.le_refl 0
  | cons b p ih =>
      rw [decodeIntLoop]
      split
      · exact Nat.le_succ _
      · split
        · exact Nat.le_succ _
        · exact (ih _ _).trans (Nat.le_succ _)

theorem http2HpackDecodeInt_rest_length (b : UInt8) (p : List UInt8) (prefixMask : Nat) :
    (http2HpackDecodeInt (b :: p) prefixMask).2.length ≤ p.length := by
  rw [http2HpackDecodeInt]
  split
  · exact Nat.le_refl _
  · exact decodeIntLoop_rest_length 0 _ p

theorem http2HpackDecodeStringBuf_rest_length (pos : List UInt8) (outMax : Nat) :
    (http2HpackDecodeStringBuf pos outMax).2.length ≤ pos.length := by
  cases pos with
  | nil => exact Nat.le_refl 0
  | cons b p =>
      have hint := http2HpackDecodeInt_rest_length b p 0x7F
      unfold http2HpackDecodeStringBuf
      simp only
      split
      · exact Nat.zero_le _
      · split
        · simp only [List.length_drop, List.length_cons]
          omega
        · simp only [List.length_drop, List.length_cons]
          omega

theorem readLiteral_rest_length (table : HPACKDynamicTable) (b : UInt8) (p : List UInt8)
    (prefixMask : Nat) (inserts : Bool) :
    (readLiteral table (b :: p) prefixMask inserts).rest.length ≤ p.length := by
  have hint := http2HpackDecodeInt_rest_length b p prefixMask
  unfold readLiteral
  simp only
  split
  · have hname := http2HpackDecodeStringBuf_rest_length
      (http2HpackDecodeInt (b :: p) prefixMask).2 128
    calc _ ≤ (http2HpackDecodeStringBuf (http2HpackDecodeInt (b :: p) prefixMask).2 128).2.length :=
          http2HpackDecodeStringBuf_rest_length _ 512
      _ ≤ (http2HpackDecodeInt (b :: p) prefixMask).2.length := hname
      _ ≤ p.length := hint
  · split
    · exact (http2HpackDecodeStringBuf_rest_length _ 512).trans hint
    · exact (http2HpackDecodeStringBuf_rest_length _ 512).trans hint

theorem readField_rest_length (table : HPACKDynamicTable) (b : UInt8) (p : List UInt8) :
    (readField table b p).rest.length ≤ p.length := by
  unfold readField
  simp only
  split
  · exact http2HpackDecodeInt_rest_length b p 0x7F
  · split
    · exact readLiteral_rest_length table b p 0x3F true
    · split
      · exact http2HpackDecodeInt_rest_length b p 0x1F
      · exact readLiteral_rest_length table b p 0x0F false

/-! ## Reading a block to its end -/

/-- The entries that reading `pos` to its end adds to the table, oldest first. -/
def insertions : Nat → HPACKDynamicTable → List UInt8 → List Field
  | 0, _, _ => []
  | _ + 1, _, [] => []
  | fuel + 1, table, b :: p =>
      let r := readField table b p
      let rest := insertions fuel (r.tableAfter table) r.rest
      match r.field with
      | some f => if r.inserts then ⟨f.name.take 127, f.value.take 511⟩ :: rest else rest
      | none => rest

/-- The table after all fields of `pos`, whether or not the request takes them. -/
def tableAfterAll : Nat → HPACKDynamicTable → List UInt8 → HPACKDynamicTable
  | 0, table, _ => table
  | _ + 1, table, [] => table
  | fuel + 1, table, b :: p =>
      let r := readField table b p
      tableAfterAll fuel (r.tableAfter table) r.rest

/-- `parse_header` without its early exit. -/
def decodeWholeBlock (table : HPACKDynamicTable) (payload : List UInt8) : HPACKDynamicTable :=
  tableAfterAll payload.length table payload

theorem insertions_fuel {fuel : Nat} {pos : List UInt8} (h : pos.length ≤ fuel)
    (table : HPACKDynamicTable) : insertions fuel table pos = insertions pos.length table pos := by
  induction fuel using Nat.strong_induction_on generalizing pos table with
  | _ fuel ih =>
      cases pos with
      | nil => cases fuel <;> rfl
      | cons b p =>
          cases fuel with
          | zero => exact absurd h (Nat.not_succ_le_zero _)
          | succ fuel =>
              have hrest := readField_rest_length table b p
              rw [List.length_cons] at h ⊢
              rw [insertions, insertions]
              rw [ih fuel (by omega) (by omega), ← ih p.length (by omega) hrest]

theorem take_append_take {α : Type} (n : Nat) (xs ys : List α) :
    (xs ++ ys.take n).take n = (xs ++ ys).take n := by
  rw [List.take_append, List.take_append, List.take_take, Nat.min_eq_left (Nat.sub_le _ _)]

/-- The table holds what was added last, and at most 128 entries of it. -/
theorem tableAfterAll_entries (fuel : Nat) (table : HPACKDynamicTable) (pos : List UInt8) :
    (tableAfterAll fuel table pos).entries
      = ((insertions fuel table pos).reverse ++ table.entries).take 128 := by
  induction fuel generalizing table pos with
  | zero => exact (List.take_of_length_le table.count_le).symm
  | succ fuel ih =>
      cases pos with
      | nil => exact (List.take_of_length_le table.count_le).symm
      | cons b p =>
          rw [tableAfterAll, insertions, ih]
          cases hfield : (readField table b p).field with
          | none => simp only [FieldRead.tableAfter, hfield]
          | some f =>
              cases hins : (readField table b p).inserts with
              | false =>
                  simp only [FieldRead.tableAfter, hfield, hins]
                  rfl
              | true =>
                  simp only [FieldRead.tableAfter, hfield, hins, if_true]
                  rw [List.reverse_cons, List.append_assoc, List.singleton_append]
                  exact take_append_take 128 _ (⟨f.name.take 127, f.value.take 511⟩ :: table.entries)

/-! ## The early exit -/

/-- The bytes `pos` leave the table as it is: none of their fields goes into it, or the table is
full and what they push in repeats what they push out. -/
def LeavesTable (table : HPACKDynamicTable) (pos : List UInt8) : Prop :=
  insertions pos.length table pos = [] ∨
    (table.entries.length = 128 ∧
      table.entries <+: (insertions pos.length table pos).reverse ++ table.entries)

theorem tableAfterAll_eq_iff {fuel : Nat} {pos : List UInt8} (h : pos.length ≤ fuel)
    (table : HPACKDynamicTable) : tableAfterAll fuel table pos = table ↔ LeavesTable table pos := by
  have hext : tableAfterAll fuel table pos = table
      ↔ (tableAfterAll fuel table pos).entries = table.entries := by
    constructor
    · exact congrArg HPACKDynamicTable.entries
    · intro heq
      cases htab : tableAfterAll fuel table pos with
      | mk entries count_le =>
          rw [htab] at heq
          cases table
          cases heq
          rfl
  rw [hext, tableAfterAll_entries, insertions_fuel h]
  unfold LeavesTable
  set added := insertions pos.length table pos with hadded
  have hcount := table.count_le
  constructor
  · intro heq
    by_cases hnil : added = []
    · exact Or.inl hnil
    · -- something was added and the table is no longer than before, so it was full
      have hlen := congrArg List.length heq
      have hpos := List.length_pos_iff.mpr hnil
      rw [List.length_take, List.length_append, List.length_reverse] at hlen
      have hpre := List.take_prefix 128 (added.reverse ++ table.entries)
      rw [heq] at hpre
      exact Or.inr ⟨by omega, hpre⟩
  · rintro (hnil | ⟨hfull, hpre⟩)
    · rw [hnil]
      exact List.take_of_length_le hcount
    · rw [← hfull]
      exact (List.prefix_iff_eq_take.mp hpre).symm

/-- Behind the field that the request has no room for, nothing changes the table. -/
def QuietAfterReject (trustProxy : Bool) :
    Nat → HPACKDynamicTable → RequestHeader → List UInt8 → Prop
  | 0, _, _, _ => True
  | _ + 1, _, _, [] => True
  | fuel + 1, table, req, b :: p =>
      let r := readField table b p
      match r.field with
      | none => QuietAfterReject trustProxy fuel (r.tableAfter table) req r.rest
      | some f =>
          let s := http2HpackLiteralHeaderWithName trustProxy f req
          if s.1 ≠ 0 then LeavesTable (r.tableAfter table) r.rest
          else QuietAfterReject trustProxy fuel (r.tableAfter table) s.2 r.rest

theorem parseHeaderLoop_table_iff (trustProxy : Bool) {fuel : Nat} {table : HPACKDynamicTable}
    {req : RequestHeader} {pos : List UInt8} (hfuel : pos.length ≤ fuel) :
    (parseHeaderLoop trustProxy fuel table req pos).table = tableAfterAll fuel table pos
      ↔ QuietAfterReject trustProxy fuel table req pos := by
  induction fuel generalizing table req pos with
  | zero => exact ⟨fun _ => trivial, fun _ => rfl⟩
  | succ fuel ih =>
      cases pos with
      | nil => exact ⟨fun _ => trivial, fun _ => rfl⟩
      | cons b p =>
          have hrest := readField_rest_length table b p
          rw [List.length_cons] at hfuel
          rw [parseHeaderLoop, tableAfterAll, QuietAfterReject]
          cases hfield : (readField table b p).field with
          | none => exact ih (by omega)
          | some f =>
              simp only
              by_cases hstatus : (http2HpackLiteralHeaderWithName trustProxy f req).1 ≠ 0
              · rw [if_pos hstatus, if_pos hstatus, eq_comm]
                exact tableAfterAll_eq_iff (by omega) _
              · rw [if_neg hstatus, if_neg hstatus]
                exact ih (by omega)

/-! ## Later blocks -/

/-- A block with one index hands over the entry there. -/
theorem parseHeader_indexed (trustProxy : Bool) (table : HPACKDynamicTable) (req : RequestHeader)
    {i : Nat} (hi : i < 128) :
    (parseHeader trustProxy table req (encodeBlock [.indexed (62 + i)])).handed
      = table.entries[i]?.toList := by
  have hsend : ∀ rep ∈ [Rep.indexed (62 + i)], Sendable rep := by
    intro rep hrep
    rw [List.mem_singleton.mp hrep]
    exact ⟨by omega, by omega⟩
  have hget : http2HpackGetHeader table (62 + i) = table.entries[i]? := by
    unfold http2HpackGetHeader
    rw [if_neg (by omega), if_pos (by omega), Nat.add_sub_cancel_left]
  unfold parseHeader
  rw [parseHeaderLoop_encodeBlock trustProxy hsend (Nat.le_refl _), repLoop]
  simp only [repField, hget]
  cases table.entries[i]? with
  | none => rfl
  | some f =>
      simp only
      split
      · rfl
      · rfl

/-- A table is known by the fields that blocks read with it hand over. -/
theorem eq_of_handed_eq {trustProxy : Bool} {table table' : HPACKDynamicTable}
    (h : ∀ req payload, (parseHeader trustProxy table req payload).handed
      = (parseHeader trustProxy table' req payload).handed) : table = table' := by
  have hentries : table.entries = table'.entries := by
    apply List.ext_getElem?
    intro i
    by_cases hi : i < 128
    · have hone := h newRequest (encodeBlock [.indexed (62 + i)])
      rw [parseHeader_indexed trustProxy table newRequest hi,
        parseHeader_indexed trustProxy table' newRequest hi] at hone
      have hhead := congrArg List.head? hone
      rw [Option.head?_toList, Option.head?_toList] at hhead
      exact hhead
    · have hlen := table.count_le
      have hlen' := table'.count_le
      rw [List.getElem?_eq_none (by omega), List.getElem?_eq_none (by omega)]
  cases table
  cases table'
  cases hentries
  rfl

/-- **A rejected block.** The table `parse_header` leaves is the table that decoding the whole
block gives exactly when nothing behind a rejecting field changes the table, and exactly then
every later block on the connection is decoded as it would be after the whole block. -/
theorem parseHeader_rejected_iff (trustProxy : Bool) (table : HPACKDynamicTable)
    (req : RequestHeader) (payload : List UInt8) :
    ((parseHeader trustProxy table req payload).table = decodeWholeBlock table payload
      ↔ QuietAfterReject trustProxy payload.length table req.reset payload) ∧
    ((∀ later block,
        (parseHeader trustProxy (parseHeader trustProxy table req payload).table later block).handed
          = (parseHeader trustProxy (decodeWholeBlock table payload) later block).handed)
      ↔ QuietAfterReject trustProxy payload.length table req.reset payload) := by
  have hiff : (parseHeader trustProxy table req payload).table = decodeWholeBlock table payload
      ↔ QuietAfterReject trustProxy payload.length table req.reset payload :=
    parseHeaderLoop_table_iff trustProxy (Nat.le_refl _)
  refine ⟨hiff, ?_⟩
  rw [← hiff]
  constructor
  · exact eq_of_handed_eq
  · intro heq later block
    rw [heq]

/-- `:method` with a value of 16 bytes, one too many for `method`. -/
def longMethod : Rep := .literal .without (.index 2) ⟨ascii "PROPPATCHPROPPAT", false⟩

/-- The field without room comes first, and a field for the table follows. -/
def rejectedFirst : List UInt8 :=
  encodeBlock [longMethod, .literal .incremental (.lit ⟨ascii "x-a", false⟩) ⟨ascii "1", false⟩]

/-- The peer's index 62 then denotes nothing. -/
theorem parseHeader_rejected_fails :
    (parseHeader false .empty newRequest rejectedFirst).status = 431 ∧
    (parseHeader false .empty newRequest rejectedFirst).table = .empty ∧
    (decodeWholeBlock .empty rejectedFirst).entries = [⟨ascii "x-a", ascii "1"⟩] ∧
    (parseHeader false (parseHeader false .empty newRequest rejectedFirst).table newRequest
      (encodeBlock [.indexed 62])).handed = [] := by
  refine ⟨?_, ?_, ?_, ?_⟩
  · decide +kernel
  · decide +kernel
  · decide +kernel
  · decide +kernel

end Halmos.Http2
