import Halmos.Http2.HpackRefines
import Halmos.Http2.HpackSafe

set_option autoImplicit false

/-! # The dynamic table over a run of insertions

`http2_hpack_dynamic_table_add`, call after call on the table of a new session, and what
`http2_hpack_get_header` finds in it then. The array holds the newest 128 additions. The table of the
RFC evicts by size, but an entry has at least 32 of its 4096 bytes, so that it never holds more than
these (`dynamicTable_run`).
-/

namespace Halmos.Http2.Memory

open Hpack

/-! ## Additions -/

/-- The strings of a call of `http2_hpack_dynamic_table_add`, which fit their arrays. -/
structure Addition where
  name : List UInt8
  value : List UInt8
  name_zero : 0 ∉ name
  value_zero : 0 ∉ value
  name_lt : name.length < 128
  value_lt : value.length < 512

/-- The pair of a call as an entry. -/
def Addition.field (a : Addition) : Field := ⟨a.name, a.value⟩

/-- One call after the other. -/
def addAll : List Addition → HPACKDynamicTable → Option HPACKDynamicTable
  | [], table => some table
  | a :: adds, table => do
      let table ← http2HpackDynamicTableAdd table a.name a.value
      addAll adds table

/-- The table of the RFC, of 4096 bytes, after the same additions. -/
def rfcTable (adds : List Addition) : DynTable :=
  adds.foldl (fun t a => t.insert a.field) (DynTable.empty 4096)

/-! ## The newest entries -/

/-- Taking some of a list at the end changes nothing for what is taken of the whole. -/
theorem take_append_take {α : Type} (n : Nat) (l m : List α) :
    (l ++ m.take n).take n = (l ++ m).take n := by
  rw [List.take_append, List.take_append, List.take_take, Nat.min_eq_left (Nat.sub_le n l.length)]

/-- A short entry is stored as it is. -/
theorem add_entries (t : Http2.HPACKDynamicTable) (a : Addition) :
    (Http2.http2HpackDynamicTableAdd t a.field).entries = (a.field :: t.entries).take 128 := by
  have hname : a.name.take 127 = a.name := List.take_of_length_le (Nat.le_of_lt_succ a.name_lt)
  have hvalue : a.value.take 511 = a.value := List.take_of_length_le (Nat.le_of_lt_succ a.value_lt)
  simp only [Http2.http2HpackDynamicTableAdd, Addition.field, hname, hvalue, List.take_succ_cons]

/-- Every call stays inside the array, which holds the newest entries afterwards. -/
theorem addAll_spec (adds : List Addition) {table : HPACKDynamicTable}
    {t : Http2.HPACKDynamicTable} (h : table.Holds t) (hsome : table.entries.isSome = true) :
    ∃ table' t', addAll adds table = some table' ∧ table'.Holds t' ∧
      t'.entries = (adds.reverse.map Addition.field ++ t.entries).take 128 := by
  induction adds generalizing table t with
  | nil => exact ⟨table, t, rfl, h, (List.take_of_length_le t.count_le).symm⟩
  | cons a adds ih =>
      obtain ⟨table₁, t₁, hadd, hholds, hentries, hnew⟩ :=
        http2HpackDynamicTableAdd_spec h a.name_zero a.value_zero
      obtain ⟨table', t', hrun, hholds', hlast⟩ := ih hholds (hentries.trans hsome)
      refine ⟨table', t', ?_, hholds', ?_⟩
      · rw [addAll, hadd]
        exact hrun
      · have hstep : t₁.entries = (a.field :: t.entries).take 128 := by
          rw [hnew hsome]
          exact add_entries t a
        calc t'.entries = (adds.reverse.map Addition.field ++ t₁.entries).take 128 := hlast
          _ = (adds.reverse.map Addition.field ++ a.field :: t.entries).take 128 := by
              rw [hstep, take_append_take]
          _ = ((a :: adds).reverse.map Addition.field ++ t.entries).take 128 := by
              rw [List.reverse_cons, List.map_append, List.append_assoc]
              rfl

/-- The table of the RFC holds some of the newest entries, 128 at most. -/
theorem rfcTable_newest (adds : List Addition) :
    (rfcTable adds).entries <+: adds.reverse.map Addition.field ∧
      (rfcTable adds).entries.length ≤ 128 := by
  have hrun : ∀ (adds : List Addition) (t : DynTable), Bounded t →
      (adds.foldl (fun t a => t.insert a.field) t).entries
          <+: adds.reverse.map Addition.field ++ t.entries ∧
        Bounded (adds.foldl (fun t a => t.insert a.field) t) := by
    intro adds
    induction adds with
    | nil => exact fun t hb => ⟨List.prefix_rfl, hb⟩
    | cons a adds ih =>
        intro t hb
        obtain ⟨hpre, hb'⟩ := ih (t.insert a.field) (hb.insert a.field)
        have hfit : (t.insert a.field).entries <+: a.field :: t.entries :=
          fit_isPrefix t.maxSize (a.field :: t.entries)
        refine ⟨?_, hb'⟩
        rw [List.reverse_cons, List.map_append, List.append_assoc]
        exact hpre.trans ((List.prefix_append_right_inj _).mpr hfit)
  obtain ⟨hpre, hb⟩ := hrun adds (DynTable.empty 4096) .empty
  have hsize := hb.size_le.trans hb.maxSize_le
  rw [show (DynTable.empty 4096).entries = [] from rfl, List.append_nil] at hpre
  exact ⟨hpre, by unfold rfcTable; omega⟩

/-! ## The indices -/

/-- The fields behind the static table are the entries in their order. -/
theorem getHeader_dynamic (t : Http2.HPACKDynamicTable) (k : Nat) :
    Http2.http2HpackGetHeader t (62 + k) = t.entries[k]? := by
  rw [Http2.http2HpackGetHeader, if_neg (by omega), if_pos (by omega), Nat.add_sub_cancel_left]

theorem holds_newTable : newTable.Holds .empty :=
  .array (t := .empty) (List.length_replicate) .nil

/-- After any additions of short strings to an empty table, none of which leaves the array, index
`62 + k` is the addition `k` places before the last one for the newest 128 of them, index 0 and the
larger indices are not there, and an index that is valid in the table of the RFC is the same pair
here. -/
theorem dynamicTable_run (adds : List Addition) :
    ∃ table, addAll adds newTable = some table ∧
      (∀ k a, k < 128 → adds.reverse[k]? = some a →
        http2HpackGetHeader table (62 + k) = some (some (a.name, a.value))) ∧
      (∀ index : UInt32, index = 0 ∨ 62 + min adds.length 128 ≤ index.toNat →
        http2HpackGetHeader table index.toNat = some none) ∧
      (∀ index f, (rfcTable adds).lookup index = some f →
        http2HpackGetHeader table index = some (some (f.name, f.value))) := by
  obtain ⟨table, t, hrun, hholds, hentries⟩ :=
    addAll_spec adds holds_newTable rfl
  rw [show Http2.HPACKDynamicTable.empty.entries = [] from rfl, List.append_nil] at hentries
  have hlen : t.entries.length = min adds.length 128 := by
    rw [hentries, List.length_take, List.length_map, List.length_reverse, Nat.min_comm]
  refine ⟨table, hrun, ?_, ?_, ?_⟩
  · intro k a hk ha
    have hget : t.entries[k]? = some a.field := by
      rw [hentries, List.getElem?_take_of_lt hk, List.getElem?_map, ha]
      rfl
    rw [http2HpackGetHeader_spec hholds (by omega), getHeader_dynamic, hget]
    rfl
  · intro index hindex
    rw [http2HpackGetHeader_spec hholds index.toNat_lt]
    rcases hindex with rfl | hlarge
    · rfl
    · obtain ⟨k, hk⟩ := Nat.exists_eq_add_of_le (show 62 ≤ index.toNat by omega)
      rw [hk, getHeader_dynamic, List.getElem?_eq_none (by omega)]
      rfl
  · intro index f hlookup
    obtain ⟨hpre, hrfc⟩ := rfcTable_newest adds
    have hnewest : (rfcTable adds).entries <+: t.entries := by
      rw [hentries]
      exact List.prefix_take_iff.mpr ⟨hpre, hrfc⟩
    have hindex : index < 2 ^ 32 := by
      by_contra hlarge
      unfold DynTable.lookup at hlookup
      rw [if_neg (by omega), if_neg (by omega), List.getElem?_eq_none (by omega)] at hlookup
      cases hlookup
    rw [http2HpackGetHeader_spec hholds hindex, getHeader_of_newest hnewest hlookup]
    rfl

end Halmos.Http2.Memory
