import Halmos.Http2.HpackRefines

set_option autoImplicit false

/-! # What becomes of a text field

The fields `:path`, `:authority`, `content-type` and `cookie` end up in inline buffers of
`RequestHeader`, behind the 512 bytes that `parse_header` decodes a value into. A value that does
not fit those 512 bytes is cut when it is sent plain and lost when it is sent Huffman coded, and
the size checks behind them never see it (`textField_settled_iff`).
-/

namespace Halmos.Http2

open Hpack

/-- The header fields with an inline buffer. -/
inductive TextField where
  | path
  | authority
  | contentType
  | cookie
  deriving DecidableEq, Repr

namespace TextField

def name : TextField → List UInt8
  | path => ascii ":path"
  | authority => ascii ":authority"
  | contentType => ascii "content-type"
  | cookie => ascii "cookie"

/-- The size of the buffer. -/
def bufSize : TextField → Nat
  | path => 1024
  | authority => 256
  | contentType => 128
  | cookie => 1024

/-- The status for a value that does not fit. -/
def status : TextField → Nat
  | path => 414
  | _ => 431

/-- What the request holds. -/
def get : TextField → RequestHeader → Option (List UInt8)
  | path, req => req.uri
  | authority, req => req.host
  | contentType, req => req.contentType
  | cookie, req => req.cookieData

def set : TextField → List UInt8 → RequestHeader → RequestHeader
  | path, s, req => { req with uri := some s }
  | authority, s, req => { req with host := some s }
  | contentType, s, req => { req with contentType := some s }
  | cookie, s, req => { req with cookieData := some s }

/-- What the request is to hold: the value, and for cookies the values so far joined with it. -/
def held : TextField → RequestHeader → List UInt8 → List UInt8
  | cookie, req, value =>
      let buf := req.cookieData.getD []
      if buf = [] then value else buf ++ ascii "; " ++ value
  | _, _, value => value

theorem get_set (fld : TextField) (s : List UInt8) (req : RequestHeader) :
    fld.get (fld.set s req) = some s := by
  cases fld <;> rfl

theorem status_ne_zero (fld : TextField) : fld.status ≠ 0 := by
  cases fld <;> decide

theorem held_inj (fld : TextField) (req : RequestHeader) {value value' : List UInt8}
    (h : fld.held req value = fld.held req value') : value = value' := by
  cases fld with
  | cookie =>
      unfold held at h
      dsimp only at h
      split at h
      · exact h
      · exact List.append_cancel_left h
  | _ => exact h

/-- **The last layer**: the value is kept whole, or the field is rejected. -/
theorem literalHeader_eq (trustProxy : Bool) (fld : TextField) (value : List UInt8)
    (req : RequestHeader) :
    http2HpackLiteralHeaderWithName trustProxy ⟨fld.name, value⟩ req
      = if fld.bufSize ≤ (fld.held req value).length then (fld.status, req)
        else (0, fld.set (fld.held req value) req) := by
  unfold http2HpackLiteralHeaderWithName
  dsimp only
  cases fld with
  | path => exact if_pos rfl
  | authority =>
      have hpath : authority.name ≠ ascii ":path" := by decide
      rw [if_neg hpath]
      exact if_pos (Or.inl rfl)
  | contentType =>
      have hpath : contentType.name ≠ ascii ":path" := by decide
      have hhost : ¬ (contentType.name = ascii ":authority" ∨ contentType.name = ascii "host") := by
        decide
      rw [if_neg hpath, if_neg hhost]
      exact if_pos rfl
  | cookie =>
      have hpath : cookie.name ≠ ascii ":path" := by decide
      have hhost : ¬ (cookie.name = ascii ":authority" ∨ cookie.name = ascii "host") := by decide
      have htype : cookie.name ≠ ascii "content-type" := by decide
      rw [if_neg hpath, if_neg hhost, if_neg htype, if_pos (show cookie.name = ascii "cookie" from rfl)]
      by_cases hnil : req.cookieData.getD [] = []
      · have hheld : held cookie req value = value := if_pos hnil
        rw [if_pos (by rw [hnil]; rfl), hheld]
        rfl
      · have hheld : held cookie req value = req.cookieData.getD [] ++ ascii "; " ++ value :=
          if_neg hnil
        have hlen : (held cookie req value).length
            = (req.cookieData.getD []).length + 2 + value.length := by
          rw [hheld, List.length_append, List.length_append]
          rfl
        rw [if_neg (fun h => hnil (List.length_eq_zero_iff.mp h)), hlen, hheld]
        rfl

end TextField

/-! ## One literal -/

/-- One pass of the loop of `parse_header` over `bytes`: the status and the request. -/
def passOutcome (trustProxy : Bool) (table : HPACKDynamicTable) (req : RequestHeader) :
    List UInt8 → Nat × RequestHeader
  | [] => (0, req)
  | b :: p =>
      match (readField table b p).field with
      | none => (0, req)
      | some f => http2HpackLiteralHeaderWithName trustProxy f req

/-- What `val_buf` holds of a value. -/
def valueBuf (value : StringLit) : List UInt8 :=
  if value.octets.length < 512 then value.octets
  else if value.huffman ∨ 10240 < value.octets.length then [] else value.octets.take 511

theorem http2HpackDecodeStringBuf_value (value : StringLit) (rest : List UInt8)
    (hlen : value.octets.length < 2 ^ 24) :
    (http2HpackDecodeStringBuf (value.encode ++ rest) 512).1 = valueBuf value := by
  have hcoded := StringLit_coded_length_le value
  unfold valueBuf
  by_cases hfit : value.octets.length < 512
  · rw [if_pos hfit, http2HpackDecodeStringBuf_encode rest hfit (Nat.le_refl 512)]
  · rw [if_neg hfit, http2HpackDecodeStringBuf_coded value 512 rest (by omega)]
    by_cases hh : value.huffman = true
    · have hnone : http2HuffmanDecode value.coded 512 = none := by
        unfold StringLit.coded
        rw [if_pos hh]
        exact http2HuffmanDecode_huffmanEncode_eq_none (by omega)
      rw [if_pos (Or.inl hh), if_pos hh, hnone]
      split <;> rfl
    · have hplain : value.coded = value.octets := if_neg hh
      rw [hplain, if_neg hh]
      by_cases hlong : 10240 < value.octets.length
      · rw [if_pos hlong, if_pos (Or.inr hlong)]
      · rw [if_neg hlong, if_neg (not_or.mpr ⟨hh, hlong⟩)]

/-- The outcome of a literal of a text field. -/
theorem passOutcome_literal (trustProxy : Bool) (table : HPACKDynamicTable) (req : RequestHeader)
    (mode : Indexing) {name : NameRef} {fld : TextField} (hname : NameRef.Sendable name)
    (hfld : nameBuf table name = fld.name) (value : StringLit) (rest : List UInt8)
    (hlen : value.octets.length < 2 ^ 24) :
    passOutcome trustProxy table req ((Rep.literal mode name value).encode ++ rest)
      = if cstr (valueBuf value) = [] then (0, req)
        else http2HpackLiteralHeaderWithName trustProxy ⟨fld.name, cstr (valueBuf value)⟩ req := by
  obtain ⟨b, t, hcons, hge, hlt⟩ := literal_encode_cons mode name value
  have hread := readLiteral_value table mode value (decide (mode = .incremental)) rest hname
  rw [hcons, List.cons_append] at hread
  rw [hcons, List.cons_append, passOutcome, readField_literal mode hge hlt, hread,
    http2HpackDecodeStringBuf_value value rest hlen, hfld]
  have hnameOk : cstr fld.name ≠ [] ∧ cstr fld.name = fld.name := by
    cases fld <;> decide
  unfold nonEmptyField
  by_cases hnil : cstr (valueBuf value) = []
  · rw [if_neg (fun h => h.2 hnil), if_pos hnil]
  · rw [if_pos ⟨hnameOk.1, hnil⟩, if_neg hnil, hnameOk.2]

/-! ## What a request can hold -/

/-- The tables and requests that the loop of `parse_header` sees on a connection: a new table, a
request that is being cleared for the next block, and what a pass makes of them. -/
inductive LoopState (trustProxy : Bool) : HPACKDynamicTable → RequestHeader → Prop where
  | connect (req : RequestHeader) : LoopState trustProxy .empty req.reset
  | block {table : HPACKDynamicTable} {req : RequestHeader} (req' : RequestHeader) :
      LoopState trustProxy table req → LoopState trustProxy table req'.reset
  | pass {table : HPACKDynamicTable} {req : RequestHeader} (b : UInt8) (p : List UInt8) :
      LoopState trustProxy table req →
      LoopState trustProxy ((readField table b p).tableAfter table)
        (passOutcome trustProxy table req (b :: p)).2

/-- A string that came out of `val_buf`. -/
def ShortText (s : List UInt8) : Prop := s.length < 512 ∧ 0 ∉ s

/-- The strings of the table and of the request came out of `val_buf`; cookies may be joined from
several of them. -/
structure Stored (table : HPACKDynamicTable) (req : RequestHeader) : Prop where
  entries : ∀ f ∈ table.entries, ShortText f.value
  fields : ∀ fld : TextField, fld ≠ .cookie → ∀ s, fld.get req = some s → ShortText s

theorem stored_reset {table : HPACKDynamicTable} (h : ∀ f ∈ table.entries, ShortText f.value)
    (req : RequestHeader) : Stored table req.reset := by
  refine ⟨h, ?_⟩
  intro fld _ s hs
  cases fld <;> cases hs

theorem http2HpackDecodeStringBuf_length (pos : List UInt8) :
    (http2HpackDecodeStringBuf pos 512).1.length < 512 := by
  unfold http2HpackDecodeStringBuf
  split
  · decide
  · dsimp only
    split
    · decide
    · split
      · dsimp only
        cases hdecode : http2HuffmanDecode _ 512 with
        | none => decide
        | some out => exact http2HuffmanDecode_length hdecode
      · dsimp only
        rw [List.length_take]
        omega

theorem shortText_cstr {s : List UInt8} (h : s.length < 512) : ShortText (cstr s) :=
  ⟨Nat.lt_of_le_of_lt (cstr_isPrefix s).length_le h, zero_notMem_cstr s⟩

theorem staticEntries_shortText : ∀ e ∈ staticEntries, ShortText (ascii e.2) := by
  unfold ShortText
  decide +kernel

theorem http2HpackGetHeader_shortText {table : HPACKDynamicTable}
    (h : ∀ f ∈ table.entries, ShortText f.value) {index : Nat} {f : Field}
    (hf : http2HpackGetHeader table index = some f) : ShortText f.value := by
  unfold http2HpackGetHeader at hf
  split at hf
  · obtain ⟨e, he, rfl⟩ := Option.map_eq_some_iff.mp hf
    exact staticEntries_shortText e (List.mem_of_getElem? he)
  · split at hf
    · exact h f (List.mem_of_getElem? hf)
    · cases hf

theorem nonEmptyField_value {name value : List UInt8} {f : Field}
    (h : nonEmptyField name value = some f) : f.value = cstr value := by
  unfold nonEmptyField at h
  split at h
  · rw [← Option.some.inj h]
  · cases h

/-- The field of a pass carries a string out of `val_buf`. -/
theorem readField_shortText {table : HPACKDynamicTable}
    (h : ∀ f ∈ table.entries, ShortText f.value) (b : UInt8) (p : List UInt8) {f : Field}
    (hf : (readField table b p).field = some f) : ShortText f.value := by
  have hliteral : ∀ pos mask inserts,
      (readLiteral table pos mask inserts).field = some f → ShortText f.value := by
    intro pos mask inserts hlit
    rw [nonEmptyField_value hlit]
    exact shortText_cstr (http2HpackDecodeStringBuf_length _)
  unfold readField at hf
  dsimp only at hf
  split at hf
  · exact http2HpackGetHeader_shortText h hf
  · split at hf
    · exact hliteral _ _ _ hf
    · split at hf
      · cases hf
      · exact hliteral _ _ _ hf

/-- The last layer stores the value of the field it is given, or nothing. -/
theorem literalHeader_get (trustProxy : Bool) (f : Field) (req : RequestHeader) {fld : TextField}
    (hcookie : fld ≠ .cookie) {s : List UInt8}
    (h : fld.get (http2HpackLiteralHeaderWithName trustProxy f req).2 = some s) :
    s = f.value ∨ fld.get req = some s := by
  revert h
  have hkeep : ∀ {req' : RequestHeader}, fld.get req' = fld.get req ∨ fld.get req' = some f.value →
      fld.get req' = some s → s = f.value ∨ fld.get req = some s := by
    rintro req' (hsame | hnew) hget
    · exact Or.inr (hsame ▸ hget)
    · rw [hnew, Option.some.injEq] at hget
      exact Or.inl hget.symm
  unfold http2HpackLiteralHeaderWithName
  dsimp only
  -- every branch writes at most one field, and the value into it
  repeat' refine iteInduction (motive := fun o : Nat × RequestHeader =>
    fld.get o.2 = some s → s = f.value ∨ fld.get req = some s) (fun _ => ?_) (fun _ => ?_)
  all_goals
    refine hkeep ?_
    cases fld <;>
      first
        | exact absurd rfl hcookie
        | exact Or.inl rfl
        | exact Or.inr rfl

theorem loopState_stored {trustProxy : Bool} {table : HPACKDynamicTable} {req : RequestHeader}
    (h : LoopState trustProxy table req) : Stored table req := by
  induction h with
  | connect req => exact stored_reset (fun f hf => absurd hf List.not_mem_nil) req
  | block req' _ ih => exact stored_reset ih.entries req'
  | @pass table req b p _ ih =>
      have hshort : ∀ {f : Field}, (readField table b p).field = some f → ShortText f.value :=
        fun hf => readField_shortText ih.entries b p hf
      constructor
      · intro f hf
        unfold FieldRead.tableAfter at hf
        split at hf
        · next f' hfield =>
            split at hf
            · rcases List.mem_cons.mp hf with rfl | hold
              · have hnew := hshort hfield
                refine ⟨?_, fun hzero => hnew.2 (List.mem_of_mem_take hzero)⟩
                rw [List.length_take]
                omega
              · exact ih.entries f (List.mem_of_mem_take hold)
            · exact ih.entries f hf
        · exact ih.entries f hf
      · intro fld hcookie s hs
        rw [passOutcome] at hs
        cases hfield : (readField table b p).field with
        | none =>
            rw [hfield] at hs
            exact ih.fields fld hcookie s hs
        | some f =>
            rw [hfield] at hs
            rcases literalHeader_get trustProxy f req hcookie hs with rfl | hold
            · exact hshort hfield
            · exact ih.fields fld hcookie s hold

/-- A request that already holds what it is to hold got it from a string of `val_buf`. -/
theorem Stored.shortText {table : HPACKDynamicTable} {req : RequestHeader} (h : Stored table req)
    {fld : TextField} {value : List UInt8} (hget : fld.get req = some (fld.held req value)) :
    ShortText value := by
  by_cases hcookie : fld = .cookie
  · subst hcookie
    have hnil : value = [] := by
      unfold TextField.get TextField.held at hget
      dsimp only at hget
      cases hbuf : req.cookieData with
      | none =>
          rw [hbuf] at hget
          cases hget
      | some buf =>
          rw [hbuf, Option.getD_some, Option.some.injEq] at hget
          split at hget
          · next hnil => rw [← hget, hnil]
          · -- a joined cookie is longer than what was there
            have hlen := congrArg List.length hget
            rw [List.length_append, List.length_append] at hlen
            have hsep : (ascii "; ").length = 2 := rfl
            omega
    subst hnil
    exact ⟨by decide, List.not_mem_nil⟩
  · have hheld : fld.held req value = value := by
      cases fld <;> first | rfl | exact absurd rfl hcookie
    rw [hheld] at hget
    exact h.fields fld hcookie value hget

/-! ## Kept whole or rejected -/

/-- The field holds the complete value, or the request is rejected. -/
def Settled (fld : TextField) (req : RequestHeader) (value : List UInt8)
    (o : Nat × RequestHeader) : Prop :=
  (o.1 = 0 ∧ fld.get o.2 = some (fld.held req value)) ∨ o.1 = fld.status

/-- A literal of the field is settled, the same way with either coding of the value. -/
def LiteralSettled (trustProxy : Bool) (table : HPACKDynamicTable) (req : RequestHeader)
    (mode : Indexing) (name : NameRef) (fld : TextField) (value rest : List UInt8) : Prop :=
  let outcome := fun huffman => passOutcome trustProxy table req
    ((Rep.literal mode name ⟨value, huffman⟩).encode ++ rest)
  Settled fld req value (outcome false) ∧ Settled fld req value (outcome true) ∧
    outcome false = outcome true

/-- The value has 1 to 511 bytes without NUL; or it is empty like the field before it, or what is
in front of its NUL is rejected anyway. -/
def Deliverable (fld : TextField) (req : RequestHeader) (value : List UInt8) : Prop :=
  value.length ≤ 511 ∧
    if cstr value = [] then value = [] ∧ fld.get req = some (fld.held req [])
    else 0 ∉ value ∨ fld.bufSize ≤ (fld.held req (cstr value)).length

/-- **When a text field is settled.** -/
theorem textField_settled_iff {trustProxy : Bool} {table : HPACKDynamicTable} {req : RequestHeader}
    (hreach : LoopState trustProxy table req) (mode : Indexing) {name : NameRef}
    {fld : TextField} (hname : NameRef.Sendable name) (hfld : nameBuf table name = fld.name)
    {value : List UInt8} (hlen : value.length < 2 ^ 24) (rest : List UInt8) :
    LiteralSettled trustProxy table req mode name fld value rest ↔ Deliverable fld req value := by
  have hstored := loopState_stored hreach
  have hout : ∀ huffman, passOutcome trustProxy table req
      ((Rep.literal mode name ⟨value, huffman⟩).encode ++ rest)
      = if cstr (valueBuf ⟨value, huffman⟩) = [] then (0, req)
        else http2HpackLiteralHeaderWithName trustProxy
          ⟨fld.name, cstr (valueBuf ⟨value, huffman⟩)⟩ req :=
    fun huffman => passOutcome_literal trustProxy table req mode hname hfld ⟨value, huffman⟩ rest hlen
  unfold LiteralSettled Deliverable
  dsimp only
  by_cases hfit : value.length < 512
  · have hbuf : ∀ huffman, valueBuf ⟨value, huffman⟩ = value := fun huffman => if_pos hfit
    rw [hout, hout, hbuf, hbuf]
    have hboth : ∀ (o : Nat × RequestHeader) (q : Prop), (Settled fld req value o ↔ q) →
        (Settled fld req value o ∧ Settled fld req value o ∧ o = o ↔ value.length ≤ 511 ∧ q) := by
      intro o q hq
      constructor
      · rintro ⟨ho, -, -⟩
        exact ⟨by omega, hq.mp ho⟩
      · rintro ⟨-, ho⟩
        exact ⟨hq.mpr ho, hq.mpr ho, rfl⟩
    apply hboth
    by_cases hnil : cstr value = []
    · rw [if_pos hnil, if_pos hnil]
      constructor
      · rintro (⟨-, hget⟩ | hstatus)
        · have hval : value = [] := by
            rw [← cstr_of_notMem (hstored.shortText hget).2, hnil]
          exact ⟨hval, hval ▸ hget⟩
        · exact absurd hstatus.symm fld.status_ne_zero
      · rintro ⟨rfl, hget⟩
        exact Or.inl ⟨rfl, hget⟩
    · rw [if_neg hnil, if_neg hnil, TextField.literalHeader_eq]
      split
      · next hbig => exact ⟨fun _ => Or.inr hbig, fun _ => Or.inr rfl⟩
      · next hroom =>
          constructor
          · rintro (⟨-, hget⟩ | hstatus)
            · rw [TextField.get_set, Option.some.injEq] at hget
              exact Or.inl ((cstr_eq_self_iff value).mp (fld.held_inj req hget))
            · exact absurd hstatus.symm fld.status_ne_zero
          · rintro (hzero | hbig)
            · refine Or.inl ⟨rfl, ?_⟩
              rw [TextField.get_set, cstr_of_notMem hzero]
            · exact absurd hbig hroom
  · -- the Huffman coded value is lost
    have hlost : valueBuf ⟨value, true⟩ = [] := by
      unfold valueBuf
      rw [if_neg hfit, if_pos (Or.inl rfl)]
    constructor
    · rintro ⟨-, hsettled, -⟩
      rw [hout, hlost, if_pos cstr_nil] at hsettled
      rcases hsettled with ⟨-, hget⟩ | hstatus
      · exact absurd (hstored.shortText hget).1 hfit
      · exact absurd hstatus.symm fld.status_ne_zero
    · rintro ⟨hshort, -⟩
      omega

theorem pathName_sendable : NameRef.Sendable (.index 4) := ⟨by decide, by decide⟩

theorem nameBuf_path (table : HPACKDynamicTable) :
    nameBuf table (.index 4) = TextField.path.name := rfl

theorem textField_settled_iff_index :
    LiteralSettled false .empty newRequest.reset .without (.index 4) .path (ascii "/index") []
      ↔ Deliverable .path newRequest.reset (ascii "/index") :=
  textField_settled_iff (.connect newRequest) .without pathName_sendable (nameBuf_path .empty)
    (by decide) []

/-- A `:path` of 600 bytes is delivered with 511 of them when it is sent plain, and not at all
when it is sent Huffman coded. -/
theorem longPath_not_settled :
    let value : List UInt8 := List.replicate 600 47
    passOutcome false .empty newRequest.reset
        ((Rep.literal .without (.index 4) ⟨value, false⟩).encode ++ [])
      = (0, { newRequest.reset with uri := some (List.replicate 511 47) }) ∧
    passOutcome false .empty newRequest.reset
        ((Rep.literal .without (.index 4) ⟨value, true⟩).encode ++ []) = (0, newRequest.reset) ∧
    ¬ LiteralSettled false .empty newRequest.reset .without (.index 4) .path value [] := by
  intro value
  have hlen : value.length = 600 := List.length_replicate
  have hout : ∀ huffman, _ := fun huffman =>
    passOutcome_literal false .empty newRequest.reset .without pathName_sendable
      (nameBuf_path .empty) ⟨value, huffman⟩ [] (by rw [hlen]; decide)
  have hplain : valueBuf ⟨value, false⟩ = List.replicate 511 47 := by
    unfold valueBuf
    rw [hlen, if_neg (by decide), if_neg (by decide)]
    exact List.take_replicate
  have hcoded : valueBuf ⟨value, true⟩ = [] := by
    unfold valueBuf
    rw [hlen, if_neg (by decide), if_pos (Or.inl rfl)]
  have hcut : cstr (List.replicate 511 47) = List.replicate 511 47 := by
    refine cstr_of_notMem fun h => ?_
    exact absurd (List.eq_of_mem_replicate h) (by decide)
  have hheld : TextField.path.held newRequest.reset (List.replicate 511 47)
      = List.replicate 511 47 := rfl
  have hfalse := hout false
  have htrue := hout true
  rw [hplain, hcut, if_neg (by simp), TextField.literalHeader_eq,
    hheld, List.length_replicate, if_neg (by decide)] at hfalse
  rw [hcoded, if_pos cstr_nil] at htrue
  refine ⟨hfalse, htrue, fun h => ?_⟩
  -- the two encodings differ
  have hsame := h.2.2
  dsimp only at hsame
  rw [hfalse, htrue, Prod.mk.injEq] at hsame
  have huri : some (List.replicate 511 (47 : UInt8)) = none :=
    congrArg RequestHeader.uri hsame.2
  exact Option.some_ne_none _ huri

end Halmos.Http2
