import Halmos.Http2.HpackDecode

set_option autoImplicit false

/-! # The fields handed over are the fields that were sent

The loop of `parse_header` against the RFC's decoder, over all header blocks of a connection.
The server's table has no limit in bytes, so the RFC's table is a prefix of it (`Mirrors`), and
as long as it is every index means the same to both. A literal with an empty string breaks
this: the loop neither hands it over nor puts it into the table, while an indexed field with an
empty value is handed over. A NUL octet cuts a string short. In every other block the two
decoders agree (`parseHeader_refines_iff`).
-/

namespace Halmos.Http2

open Hpack

/-! ## A block, representation by representation -/

/-- The loop over representations instead of bytes. -/
def repLoop (trustProxy : Bool) :
    HPACKDynamicTable → RequestHeader → List Rep → HeaderPass
  | table, req, [] => ⟨0, table, req, []⟩
  | table, req, rep :: reps =>
      let field := repField table rep
      let table := FieldRead.tableAfter ⟨[], field, repInserts rep⟩ table
      match field with
      | none => repLoop trustProxy table req reps
      | some f =>
          let s := http2HpackLiteralHeaderWithName trustProxy f req
          if s.1 ≠ 0 then ⟨s.1, table, s.2, [f]⟩
          else
            let pass := repLoop trustProxy table s.2 reps
            { pass with handed := f :: pass.handed }

theorem parseHeaderLoop_encodeBlock (trustProxy : Bool) {reps : List Rep}
    (h : ∀ rep ∈ reps, Sendable rep) {fuel : Nat} (hfuel : (encodeBlock reps).length ≤ fuel)
    (table : HPACKDynamicTable) (req : RequestHeader) :
    parseHeaderLoop trustProxy fuel table req (encodeBlock reps)
      = repLoop trustProxy table req reps := by
  induction reps generalizing fuel table req with
  | nil => cases fuel <;> rfl
  | cons rep reps ih =>
      obtain ⟨b, p, hcons, hread⟩ :=
        readField_encode table (encodeBlock reps) (h rep (by simp))
      have hblock : encodeBlock (rep :: reps) = b :: p := hcons
      have hlen := congrArg List.length hcons
      rw [List.length_append, List.length_cons] at hlen
      rw [hblock, List.length_cons] at hfuel
      cases fuel with
      | zero => omega
      | succ fuel =>
          have hrest : (encodeBlock reps).length ≤ fuel := by
            have hne : rep.encode ≠ [] := rep.encode_ne_nil
            have hpos := List.length_pos_iff.mpr hne
            omega
          have hreps : ∀ rep ∈ reps, Sendable rep := fun r hr => h r (by simp [hr])
          rw [hblock, parseHeaderLoop, hread, repLoop]
          simp only
          cases repField table rep with
          | none => exact ih hreps hrest _ _
          | some f =>
              simp only
              rw [ih hreps hrest]
              rfl

/-- All representations but a size update stand for a field. -/
def isField : Rep → Bool
  | .sizeUpdate _ => false
  | _ => true

theorem repLoop_handed_length_le (trustProxy : Bool) (table : HPACKDynamicTable)
    (req : RequestHeader) (reps : List Rep) :
    (repLoop trustProxy table req reps).handed.length
      ≤ (reps.filter isField).length := by
  induction reps generalizing table req with
  | nil => exact Nat.le_refl 0
  | cons rep reps ih =>
      have hfilter : (reps.filter isField).length
          ≤ ((rep :: reps).filter isField).length := by
        rw [List.filter_cons]
        split
        · exact Nat.le_succ _
        · exact Nat.le_refl _
      rw [repLoop]
      cases hfield : repField table rep with
      | none => exact (ih _ _).trans hfilter
      | some f =>
          -- only a representation of a field hands one over
          have hrep : isField rep = true := by
            cases rep with
            | indexed i => rfl
            | literal mode name value => rfl
            | sizeUpdate size => cases hfield
          rw [List.filter_cons, if_pos hrep, List.length_cons]
          simp only
          split
          · exact Nat.succ_le_succ (Nat.zero_le _)
          · exact Nat.succ_le_succ (ih _ _)

/-! ## The two tables -/

/-- A name the server can hold: not empty, without NUL, and short enough for `name_buf`. -/
def GoodName (name : List UInt8) : Prop := name ≠ [] ∧ 0 ∉ name ∧ name.length < 128

instance (name : List UInt8) : Decidable (GoodName name) :=
  inferInstanceAs (Decidable (_ ∧ _ ∧ _))

/-- The RFC's table `t` holds the newest entries of the server's table. -/
structure Mirrors (t : DynTable) (table : HPACKDynamicTable) : Prop where
  newest : t.entries <+: table.entries
  goodName : ∀ f ∈ t.entries, GoodName f.name

theorem Mirrors.empty (limit : Nat) : Mirrors (DynTable.empty limit) HPACKDynamicTable.empty where
  newest := List.prefix_rfl
  goodName := fun _ hf => absurd hf List.not_mem_nil

theorem staticTable_goodName : ∀ f ∈ staticTable, GoodName f.name := by
  decide +kernel

/-- An index of a table whose entries are the newest ones of the server's means the same to the
server. -/
theorem getHeader_of_newest {t : DynTable} {table : HPACKDynamicTable} {i : Nat} {f : Field}
    (hnewest : t.entries <+: table.entries) (h : t.lookup i = some f) :
    http2HpackGetHeader table i = some f := by
  unfold DynTable.lookup at h
  unfold http2HpackGetHeader
  by_cases hzero : i = 0
  · rw [if_pos hzero] at h
    cases h
  · rw [if_neg hzero] at h
    by_cases hstatic : i ≤ 61
    · rw [if_pos hstatic] at h
      rw [if_pos ⟨by omega, hstatic⟩, ← List.getElem?_map]
      exact h
    · rw [if_neg hstatic] at h
      rw [if_neg (by omega), if_pos (by omega)]
      obtain ⟨older, happ⟩ := hnewest
      obtain ⟨hlt, -⟩ := List.getElem?_eq_some_iff.mp h
      rw [← happ, List.getElem?_append_left hlt]
      exact h

/-- What an index names is in one of the two tables. -/
theorem lookup_mem {t : DynTable} {i : Nat} {f : Field} (h : t.lookup i = some f) :
    f ∈ staticTable ∨ f ∈ t.entries := by
  unfold DynTable.lookup at h
  split at h
  · cases h
  · split at h
    · exact Or.inl (List.mem_of_getElem? h)
    · exact Or.inr (List.mem_of_getElem? h)

/-- **An index of the RFC's table means the same to the server.** -/
theorem Mirrors.getHeader {t : DynTable} {table : HPACKDynamicTable} {i : Nat} {f : Field}
    (hm : Mirrors t table) (h : t.lookup i = some f) :
    http2HpackGetHeader table i = some f ∧ GoodName f.name := by
  refine ⟨getHeader_of_newest hm.newest h, ?_⟩
  rcases lookup_mem h with hstatic | hdynamic
  · exact staticTable_goodName f hstatic
  · exact hm.goodName f hdynamic

/-- The RFC's table within the limit of 4096 bytes: 128 entries at most. -/
structure Bounded (t : DynTable) : Prop where
  maxSize_le : t.maxSize ≤ 4096
  size_le : 32 * t.entries.length ≤ t.maxSize

theorem Bounded.empty : Bounded (DynTable.empty 4096) := ⟨Nat.le_refl _, Nat.zero_le _⟩

theorem Bounded.insert {t : DynTable} (hb : Bounded t) (f : Field) : Bounded (t.insert f) :=
  ⟨hb.maxSize_le, fit_length_le t.maxSize (f :: t.entries)⟩

theorem Bounded.resize {size : Nat} (t : DynTable) (h : size ≤ 4096) : Bounded (t.resize size) :=
  ⟨h, fit_length_le size t.entries⟩

/-- **Insertion keeps the tables in step**: what the server drops the RFC has evicted. -/
theorem Mirrors.insert {t : DynTable} {table : HPACKDynamicTable} {f : Field}
    (hm : Mirrors t table) (hb : Bounded t) (hname : GoodName f.name)
    (hvalue : f.value.length < 512) :
    Mirrors (t.insert f) (http2HpackDynamicTableAdd table f) where
  newest := by
    have hlen := (hb.insert f).size_le.trans hb.maxSize_le
    have hpre : (t.insert f).entries <+: f :: table.entries :=
      (fit_isPrefix t.maxSize (f :: t.entries)).trans ((List.prefix_cons_inj f).mpr hm.newest)
    have htake : (http2HpackDynamicTableAdd table f).entries = (f :: table.entries).take 128 := by
      have hn := hname.2.2
      simp only [http2HpackDynamicTableAdd]
      rw [List.take_of_length_le (by omega), List.take_of_length_le (l := f.value) (by omega)]
      rfl
    rw [htake]
    exact List.prefix_take_iff.mpr ⟨hpre, by omega⟩
  goodName := by
    intro g hg
    have hmem : g ∈ f :: t.entries := (fit_isPrefix t.maxSize (f :: t.entries)).subset hg
    rcases List.mem_cons.mp hmem with rfl | hold
    · exact hname
    · exact hm.goodName g hold

theorem Mirrors.resize {t : DynTable} {table : HPACKDynamicTable} (hm : Mirrors t table)
    (size : Nat) : Mirrors (t.resize size) table where
  newest := (fit_isPrefix size t.entries).trans hm.newest
  goodName := fun g hg => hm.goodName g ((fit_isPrefix size t.entries).subset hg)

/-! ## One representation -/

/-- Names under 128 and values under 512 octets. -/
def Short : Rep → Prop
  | .indexed _ => True
  | .literal _ (.index _) value => value.octets.length < 512
  | .literal _ (.lit name) value => name.octets.length < 128 ∧ value.octets.length < 512
  | .sizeUpdate _ => True

/-- An octet string that a C string of its own length can hold and that is not empty. -/
def CleanString (s : List UInt8) : Prop := s ≠ [] ∧ 0 ∉ s

/-- The strings a literal carries are not empty and have no NUL. -/
def Clean : Rep → Prop
  | .indexed _ => True
  | .literal _ (.index _) value => CleanString value.octets
  | .literal _ (.lit name) value => CleanString name.octets ∧ CleanString value.octets
  | .sizeUpdate _ => True

theorem nonEmptyField_eq_iff {name value : List UInt8} :
    nonEmptyField name value = some ⟨name, value⟩ ↔ CleanString name ∧ CleanString value := by
  unfold nonEmptyField CleanString
  constructor
  · intro h
    split at h
    · next hne =>
        simp only [Option.some.injEq, Field.mk.injEq, cstr_eq_self_iff] at h
        rw [cstr_of_notMem h.1, cstr_of_notMem h.2] at hne
        exact ⟨⟨hne.1, h.1⟩, hne.2, h.2⟩
    · cases h
  · rintro ⟨⟨hn, hn0⟩, hv, hv0⟩
    rw [cstr_of_notMem hn0, cstr_of_notMem hv0, if_pos ⟨hn, hv⟩]

/-- The name in `name_buf` is the name the RFC's decoder refers to. -/
theorem Mirrors.nameBuf {t : DynTable} {table : HPACKDynamicTable} {ref : NameRef}
    {name : List UInt8} (hm : Mirrors t table) (h : t.nameOf ref = some name) :
    Http2.nameBuf table ref = name := by
  cases ref with
  | lit s =>
      simp only [DynTable.nameOf, Option.some.injEq] at h
      exact h
  | index i =>
      obtain ⟨f, hf, rfl⟩ := Option.map_eq_some_iff.mp h
      obtain ⟨hget, hgood⟩ := hm.getHeader hf
      simp only [Http2.nameBuf, hget]
      exact List.take_of_length_le (by have := hgood.2.2; omega)

/-- A literal is clean exactly when both the name it refers to and its value are. -/
theorem Mirrors.clean_literal_iff {t : DynTable} {table : HPACKDynamicTable} {mode : Indexing}
    {ref : NameRef} {value : StringLit} {name : List UInt8} (hm : Mirrors t table)
    (h : t.nameOf ref = some name) :
    Clean (.literal mode ref value) ↔ CleanString name ∧ CleanString value.octets := by
  cases ref with
  | lit s =>
      simp only [DynTable.nameOf, Option.some.injEq] at h
      rw [← h]
      rfl
  | index i =>
      obtain ⟨f, hf, rfl⟩ := Option.map_eq_some_iff.mp h
      have hgood := (hm.getHeader hf).2
      exact ⟨fun hv => ⟨⟨hgood.1, hgood.2.1⟩, hv⟩, And.right⟩

/-- **One representation**: the loop hands over the RFC's field exactly when the representation
is clean. -/
theorem repField_eq_iff {t t' : DynTable} {table : HPACKDynamicTable} {rep : Rep}
    {field : Option Field} (hm : Mirrors t table)
    (hrfc : t.decode 4096 rep = some (t', field)) :
    repField table rep = field ↔ Clean rep := by
  cases rep with
  | indexed i =>
      obtain ⟨f, hf, heq⟩ := Option.map_eq_some_iff.mp hrfc
      cases heq
      exact ⟨fun _ => trivial, fun _ => (hm.getHeader hf).1⟩
  | literal mode ref value =>
      obtain ⟨name, hname, heq⟩ := Option.map_eq_some_iff.mp hrfc
      cases heq
      rw [hm.clean_literal_iff hname, ← nonEmptyField_eq_iff, repField, hm.nameBuf hname]
  | sizeUpdate size =>
      simp only [DynTable.decode] at hrfc
      split at hrfc
      · cases hrfc
        exact ⟨fun _ => trivial, fun _ => rfl⟩
      · cases hrfc

theorem goodName_of_nameOf {t : DynTable} {table : HPACKDynamicTable} {mode : Indexing}
    {ref : NameRef} {value : StringLit} {name : List UInt8} (hm : Mirrors t table)
    (h : t.nameOf ref = some name) (hshort : Short (.literal mode ref value))
    (hclean : Clean (.literal mode ref value)) :
    GoodName name ∧ value.octets.length < 512 := by
  cases ref with
  | lit s =>
      simp only [DynTable.nameOf, Option.some.injEq] at h
      rw [← h]
      exact ⟨⟨hclean.1.1, hclean.1.2, hshort.1⟩, hshort.2⟩
  | index i =>
      obtain ⟨f, hf, rfl⟩ := Option.map_eq_some_iff.mp h
      exact ⟨(hm.getHeader hf).2, hshort⟩

/-- A clean representation keeps the tables in step. -/
theorem Mirrors.step {t t' : DynTable} {table : HPACKDynamicTable} {rep : Rep}
    {field : Option Field} (hm : Mirrors t table) (hb : Bounded t)
    (hrfc : t.decode 4096 rep = some (t', field)) (hshort : Short rep) (hclean : Clean rep) :
    Mirrors t' (FieldRead.tableAfter ⟨[], repField table rep, repInserts rep⟩ table) := by
  rw [(repField_eq_iff hm hrfc).mpr hclean]
  cases rep with
  | indexed i =>
      obtain ⟨f, hf, heq⟩ := Option.map_eq_some_iff.mp hrfc
      cases heq
      exact hm
  | literal mode ref value =>
      obtain ⟨name, hname, heq⟩ := Option.map_eq_some_iff.mp hrfc
      cases heq
      obtain ⟨hgood, hvalue⟩ := goodName_of_nameOf hm hname hshort hclean
      cases mode with
      | incremental => exact hm.insert (f := ⟨name, value.octets⟩) hb hgood hvalue
      | without => exact hm
      | never => exact hm
  | sizeUpdate size =>
      simp only [DynTable.decode] at hrfc
      split at hrfc
      · cases hrfc
        exact hm.resize size
      · cases hrfc

theorem Bounded.step {t t' : DynTable} {rep : Rep} {field : Option Field} (hb : Bounded t)
    (hrfc : t.decode 4096 rep = some (t', field)) : Bounded t' := by
  cases rep with
  | indexed i =>
      obtain ⟨f, hf, heq⟩ := Option.map_eq_some_iff.mp hrfc
      cases heq
      exact hb
  | literal mode ref value =>
      obtain ⟨name, hname, heq⟩ := Option.map_eq_some_iff.mp hrfc
      cases heq
      cases mode with
      | incremental => exact hb.insert _
      | without => exact hb
      | never => exact hb
  | sizeUpdate size =>
      simp only [DynTable.decode] at hrfc
      split at hrfc
      · next hle =>
          cases hrfc
          exact Bounded.resize t hle
      · cases hrfc

/-! ## Blocks -/

/-- The RFC's decoder resolves only indices the server can read. -/
theorem sendable_of_decode {t t' : DynTable} {rep : Rep} {field : Option Field} (hb : Bounded t)
    (hrfc : t.decode 4096 rep = some (t', field)) (hshort : Short rep) : Sendable rep := by
  have hindex : ∀ i f, t.lookup i = some f → 0 < i ∧ i < 2 ^ 32 := by
    intro i f hf
    have hmax := hb.maxSize_le
    have hsize := hb.size_le
    unfold DynTable.lookup at hf
    split at hf
    · cases hf
    · split at hf
      · omega
      · obtain ⟨hlt, -⟩ := List.getElem?_eq_some_iff.mp hf
        omega
  cases rep with
  | indexed i =>
      obtain ⟨f, hf, -⟩ := Option.map_eq_some_iff.mp hrfc
      exact hindex i f hf
  | literal mode ref value =>
      obtain ⟨name, hname, -⟩ := Option.map_eq_some_iff.mp hrfc
      cases ref with
      | lit s => exact hshort
      | index i =>
          obtain ⟨f, hf, -⟩ := Option.map_eq_some_iff.mp hname
          exact ⟨hindex i f hf, hshort⟩
  | sizeUpdate size =>
      simp only [DynTable.decode] at hrfc
      split at hrfc
      · exact Nat.lt_of_le_of_lt ‹_› (by decide)
      · cases hrfc

/-- The parts of a block the RFC's decoder accepts. -/
theorem decodeBlock_cons {t t' : DynTable} {rep : Rep} {reps : List Rep} {fields : List Field}
    (h : t.decodeBlock 4096 (rep :: reps) = some (t', fields)) :
    ∃ t₁ field rest, t.decode 4096 rep = some (t₁, field) ∧
      t₁.decodeBlock 4096 reps = some (t', rest) ∧ fields = field.toList ++ rest := by
  obtain ⟨⟨t₁, field⟩, hstep, hrest⟩ := Option.bind_eq_some_iff.mp h
  obtain ⟨⟨t₂, rest⟩, hblock, heq⟩ := Option.map_eq_some_iff.mp hrest
  cases heq
  exact ⟨t₁, field, rest, hstep, hblock, rfl⟩

theorem decodeBlock_bounded {t t' : DynTable} {reps : List Rep} {fields : List Field}
    (hb : Bounded t) (h : t.decodeBlock 4096 reps = some (t', fields)) : Bounded t' := by
  induction reps generalizing t fields with
  | nil =>
      cases h
      exact hb
  | cons rep reps ih =>
      obtain ⟨t₁, field, rest, hstep, hblock, -⟩ := decodeBlock_cons h
      exact ih (hb.step hstep) hblock

theorem decodeBlock_sendable {t t' : DynTable} {reps : List Rep} {fields : List Field}
    (hb : Bounded t) (h : t.decodeBlock 4096 reps = some (t', fields))
    (hshort : ∀ rep ∈ reps, Short rep) : ∀ rep ∈ reps, Sendable rep := by
  induction reps generalizing t fields with
  | nil => exact fun rep hrep => absurd hrep List.not_mem_nil
  | cons rep reps ih =>
      obtain ⟨t₁, field, rest, hstep, hblock, -⟩ := decodeBlock_cons h
      rw [List.forall_mem_cons] at hshort ⊢
      exact ⟨sendable_of_decode hb hstep hshort.1, ih (hb.step hstep) hblock hshort.2⟩

/-- The RFC's decoder adds a field for every representation that stands for one. -/
theorem decode_isSome {t t' : DynTable} {rep : Rep} {field : Option Field}
    (h : t.decode 4096 rep = some (t', field)) : field.isSome = isField rep := by
  cases rep with
  | indexed i =>
      obtain ⟨f, -, heq⟩ := Option.map_eq_some_iff.mp h
      cases heq
      rfl
  | literal mode ref value =>
      obtain ⟨name, -, heq⟩ := Option.map_eq_some_iff.mp h
      cases heq
      rfl
  | sizeUpdate size =>
      simp only [DynTable.decode] at h
      split at h
      · cases h
        rfl
      · cases h

theorem decodeBlock_length {t t' : DynTable} {reps : List Rep} {fields : List Field}
    (h : t.decodeBlock 4096 reps = some (t', fields)) :
    fields.length = (reps.filter isField).length := by
  induction reps generalizing t fields with
  | nil =>
      cases h
      rfl
  | cons rep reps ih =>
      obtain ⟨t₁, field, rest, hstep, hblock, rfl⟩ := decodeBlock_cons h
      have hone := decode_isSome hstep
      rw [List.length_append, ih hblock, List.filter_cons]
      cases field with
      | none =>
          rw [← hone]
          exact Nat.zero_add _
      | some f =>
          rw [← hone]
          exact Nat.add_comm _ _

/-- **What is lost with a representation that is not clean**: the RFC has a field there, and the
loop hands over another one, or one less. -/
theorem repLoop_unclean (trustProxy : Bool) (req : RequestHeader) {t t' : DynTable}
    {table : HPACKDynamicTable} {rep : Rep} {reps : List Rep} {fields : List Field}
    (hm : Mirrors t table) (hrfc : t.decodeBlock 4096 (rep :: reps) = some (t', fields))
    (hclean : ¬ Clean rep) : (repLoop trustProxy table req (rep :: reps)).handed ≠ fields := by
  obtain ⟨t₁, field, rest, hstep, hblock, rfl⟩ := decodeBlock_cons hrfc
  have hne := mt (repField_eq_iff hm hstep).mp hclean
  obtain ⟨f, rfl⟩ : ∃ f, field = some f := by
    rw [← Option.isSome_iff_exists, decode_isSome hstep]
    cases rep with
    | indexed i => exact absurd trivial hclean
    | literal mode ref value => rfl
    | sizeUpdate size => exact absurd trivial hclean
  rw [Option.toList_some, List.singleton_append]
  intro heq
  rw [repLoop] at heq
  cases hrep : repField table rep with
  | none =>
      -- too few fields are left to make up for this one
      rw [hrep] at heq
      simp only at heq
      have hcount := repLoop_handed_length_le trustProxy
        (FieldRead.tableAfter ⟨[], none, repInserts rep⟩ table) req reps
      have hlength := congrArg List.length heq
      rw [List.length_cons, decodeBlock_length hblock] at hlength
      omega
  | some g =>
      rw [hrep] at heq hne
      simp only at heq
      split at heq
      · exact hne (congrArg some (List.cons.inj heq).1)
      · exact hne (congrArg some (List.cons.inj heq).1)

/-- **One block**, read from tables in step: the loop hands over the RFC's header list exactly
when every representation is clean, and then the tables stay in step. -/
theorem repLoop_refines_iff (trustProxy : Bool) {t t' : DynTable} {table : HPACKDynamicTable}
    {req : RequestHeader} {reps : List Rep} {fields : List Field} (hm : Mirrors t table)
    (hb : Bounded t) (hrfc : t.decodeBlock 4096 reps = some (t', fields))
    (hshort : ∀ rep ∈ reps, Short rep) (hacc : (repLoop trustProxy table req reps).status = 0) :
    ((repLoop trustProxy table req reps).handed = fields ↔ ∀ rep ∈ reps, Clean rep) ∧
    ((∀ rep ∈ reps, Clean rep) → Mirrors t' (repLoop trustProxy table req reps).table) := by
  induction reps generalizing t table req fields with
  | nil =>
      cases hrfc
      exact ⟨⟨fun _ rep hrep => absurd hrep List.not_mem_nil, fun _ => rfl⟩, fun _ => hm⟩
  | cons rep reps ih =>
      obtain ⟨t₁, field, rest, hstep, hblock, rfl⟩ := decodeBlock_cons hrfc
      rw [List.forall_mem_cons] at hshort
      rw [List.forall_mem_cons]
      have hfield := repField_eq_iff hm hstep
      by_cases hclean : Clean rep
      · -- the tables stay in step, and the rest of the block decides
        have hm₁ := hm.step hb hstep hshort.1 hclean
        rw [repLoop] at hacc ⊢
        rw [hfield.mpr hclean] at hacc hm₁ ⊢
        cases field with
        | none =>
            obtain ⟨hiff, hkeep⟩ := ih hm₁ (hb.step hstep) hblock hshort.2 hacc
            refine ⟨?_, fun h => hkeep h.2⟩
            rw [Option.toList_none, List.nil_append]
            exact hiff.trans (and_iff_right hclean).symm
        | some f =>
            simp only at hacc ⊢
            split at hacc
            · next hstatus => exact absurd hacc hstatus
            · next hstatus =>
                rw [if_neg hstatus]
                obtain ⟨hiff, hkeep⟩ := ih hm₁ (hb.step hstep) hblock hshort.2 hacc
                refine ⟨?_, fun h => hkeep h.2⟩
                rw [Option.toList_some, List.singleton_append, List.cons_inj_right]
                exact hiff.trans (and_iff_right hclean).symm
      · have hlost := repLoop_unclean trustProxy req hm hrfc hclean
        exact ⟨⟨fun heq => absurd heq hlost, fun h => absurd h.1 hclean⟩,
          fun h => absurd h.1 hclean⟩

/-! ## The blocks of a connection -/

/-- The header blocks of one session: each is read with the table the one before has left. -/
def parseHeaders (trustProxy : Bool) :
    HPACKDynamicTable → List (RequestHeader × List UInt8) → List HeaderPass
  | _, [] => []
  | table, (req, payload) :: blocks =>
      let pass := parseHeader trustProxy table req payload
      pass :: parseHeaders trustProxy pass.table blocks

/-- The payloads an encoder sends for the blocks. -/
def encodeBlocks (blocks : List (RequestHeader × List Rep)) : List (RequestHeader × List UInt8) :=
  blocks.map (fun b => (b.1, encodeBlock b.2))

theorem parseHeaders_refines (trustProxy : Bool) {t : DynTable} {table : HPACKDynamicTable}
    {blocks : List (RequestHeader × List Rep)} {fields : List (List Field)}
    (hm : Mirrors t table) (hb : Bounded t)
    (hrfc : t.decodeBlocks 4096 (blocks.map Prod.snd) = some fields)
    (hshort : ∀ b ∈ blocks, ∀ rep ∈ b.2, Short rep)
    (hacc : ∀ pass ∈ parseHeaders trustProxy table (encodeBlocks blocks), pass.status = 0) :
    (parseHeaders trustProxy table (encodeBlocks blocks)).map HeaderPass.handed = fields
      ↔ ∀ b ∈ blocks, ∀ rep ∈ b.2, Clean rep := by
  induction blocks generalizing t table fields with
  | nil =>
      cases hrfc
      exact ⟨fun _ b hb => absurd hb List.not_mem_nil, fun _ => rfl⟩
  | cons b blocks ih =>
      obtain ⟨⟨t₁, fs⟩, hblock, hrest⟩ := Option.bind_eq_some_iff.mp hrfc
      obtain ⟨fss, hblocks, rfl⟩ := Option.map_eq_some_iff.mp hrest
      rw [List.forall_mem_cons] at hshort
      rw [List.forall_mem_cons]
      have hloop : parseHeader trustProxy table b.1 (encodeBlock b.2)
          = repLoop trustProxy table b.1.reset b.2 :=
        parseHeaderLoop_encodeBlock trustProxy (decodeBlock_sendable hb hblock hshort.1)
          (Nat.le_refl _) table b.1.reset
      have hcons : parseHeaders trustProxy table (encodeBlocks (b :: blocks))
          = repLoop trustProxy table b.1.reset b.2 ::
            parseHeaders trustProxy (repLoop trustProxy table b.1.reset b.2).table
              (encodeBlocks blocks) := by
        rw [← hloop]
        rfl
      rw [hcons] at hacc ⊢
      rw [List.forall_mem_cons] at hacc
      obtain ⟨hiff, hkeep⟩ := repLoop_refines_iff trustProxy hm hb hblock hshort.1 hacc.1
      rw [List.map_cons, List.cons.injEq, hiff]
      constructor
      · rintro ⟨hclean, heq⟩
        exact ⟨hclean, (ih (hkeep hclean) (decodeBlock_bounded hb hblock) hblocks hshort.2
          hacc.2).mp heq⟩
      · rintro ⟨hclean, hall⟩
        exact ⟨hclean, (ih (hkeep hclean) (decodeBlock_bounded hb hblock) hblocks hshort.2
          hacc.2).mpr hall⟩

/-- **The header lists of a connection.** Let an encoder send any blocks, with names under 128
and values under 512 octets, which the RFC's decoder turns into the header lists `fields`, and
let the server accept every request. The fields handed over, block after block, are `fields`
exactly when no literal carries an empty string or a NUL. -/
theorem parseHeader_refines_iff (trustProxy : Bool) (blocks : List (RequestHeader × List Rep))
    (fields : List (List Field))
    (hrfc : (DynTable.empty 4096).decodeBlocks 4096 (blocks.map Prod.snd) = some fields)
    (hshort : ∀ b ∈ blocks, ∀ rep ∈ b.2, Short rep)
    (hacc : ∀ pass ∈ parseHeaders trustProxy HPACKDynamicTable.empty (encodeBlocks blocks),
      pass.status = 0) :
    (parseHeaders trustProxy HPACKDynamicTable.empty (encodeBlocks blocks)).map HeaderPass.handed
      = fields ↔ ∀ b ∈ blocks, ∀ rep ∈ b.2, Clean rep :=
  parseHeaders_refines trustProxy (Mirrors.empty 4096) Bounded.empty hrfc hshort hacc

/-- A request as `http2_stream_new` leaves it. -/
def newRequest : RequestHeader := ⟨[], [], none, none, none, none, 0, false, false⟩

/-- Two requests: the second refers to the entry the first has added. -/
def indexedRequests : List (RequestHeader × List Rep) :=
  [(newRequest, [.indexed 2, .literal .incremental (.lit ⟨ascii "x-a", false⟩) ⟨ascii "1", false⟩]),
    (newRequest, [.indexed 2, .indexed 62])]

theorem parseHeader_refines_indexed :
    (parseHeaders false HPACKDynamicTable.empty (encodeBlocks indexedRequests)).map
      HeaderPass.handed
      = [[⟨ascii ":method", ascii "GET"⟩, ⟨ascii "x-a", ascii "1"⟩],
        [⟨ascii ":method", ascii "GET"⟩, ⟨ascii "x-a", ascii "1"⟩]] := by
  refine (parseHeader_refines_iff false indexedRequests _ ?_ ?_ ?_).mpr ?_
  · decide +kernel
  · simp [indexedRequests, Short, ascii]
  · decide +kernel
  · simp [indexedRequests, Clean, CleanString, ascii]

/-- A first request adds an entry with an empty value and one with a value; the second refers to
the older of the two. -/
def emptyValueRequests : List (RequestHeader × List Rep) :=
  [(newRequest, [.literal .incremental (.lit ⟨ascii "x-a", false⟩) ⟨ascii "", false⟩,
      .literal .incremental (.lit ⟨ascii "x-b", false⟩) ⟨ascii "1", false⟩]),
    (newRequest, [.indexed 62, .indexed 63])]

/-- The empty value is skipped, and index 63 no longer denotes anything. -/
theorem parseHeader_refines_fails :
    (DynTable.empty 4096).decodeBlocks 4096 (emptyValueRequests.map Prod.snd)
      = some [[⟨ascii "x-a", ascii ""⟩, ⟨ascii "x-b", ascii "1"⟩],
        [⟨ascii "x-b", ascii "1"⟩, ⟨ascii "x-a", ascii ""⟩]] ∧
    (∀ pass ∈ parseHeaders false HPACKDynamicTable.empty (encodeBlocks emptyValueRequests),
      pass.status = 0) ∧
    (parseHeaders false HPACKDynamicTable.empty (encodeBlocks emptyValueRequests)).map
      HeaderPass.handed = [[⟨ascii "x-b", ascii "1"⟩], [⟨ascii "x-b", ascii "1"⟩]] := by
  refine ⟨?_, ?_, ?_⟩
  · decide +kernel
  · decide +kernel
  · decide +kernel

end Halmos.Http2
