import Mathlib.Data.List.AList
import Halmos.Basic.LinkedQueue
import Halmos.Http2.StreamTable

set_option autoImplicit false

/-! # The stream table in memory

`streams_hash` as `halmos_http2_stream.c` walks it: an array of 32 pointers to chains of records,
linked by `node_next`. The functions look nowhere outside the array or a chain, and together they
are a map from ids to records, with `active_stream_count` for its size (`streamTable_map`).
-/

namespace Halmos.Http2.Memory

/-! ## The functions -/

/-- What `http2_stream_get_or_create` puts into a record; `calloc` clears the rest of it. -/
structure StreamRecord where
  streamId : UInt32
  outWindowSize : Int32
  fileFd : Int
  isTls : Bool
  clientIp : List UInt8
  deriving DecidableEq, Repr

/-- `streams_hash` and `active_stream_count`, and the records in memory. -/
structure StreamHash where
  heap : Nat → Option (Node StreamRecord)
  streamsHash : List (Option Nat)
  activeStreamCount : UInt32

/-- A call of `http2_stream_get_or_create`: the id, what the session says of its windows and of
TLS, the address of the peer if `getpeername` finds one, and what `calloc` returns when it is
called. -/
structure CreateCall where
  streamId : UInt32
  peerInitialWindowSize : UInt32
  isTls : Bool
  peerIp : Option (List UInt8)
  calloc : Option Nat
  deriving DecidableEq, Repr

/-- The record that a call makes. -/
def CreateCall.record (c : CreateCall) : StreamRecord where
  streamId := c.streamId
  outWindowSize := c.peerInitialWindowSize.toInt32
  fileFd := -1
  isTls := c.isTls
  clientIp := c.peerIp.getD (ascii "0.0.0.0")

/-- `HTTP2_STREAM_BUCKETS`. -/
def streamBuckets : Nat := 1 <<< 5

/-- A session from `calloc`. -/
def StreamHash.fresh : StreamHash := ⟨fun _ => none, List.replicate streamBuckets none, 0⟩

/-- `http2_stream_get_bucket_fibonacci`. -/
def bucketOf (streamId : UInt32) : Nat := http2StreamGetBucketFibonacci streamId.toNat

/-- `http2_stream_find_unlocked`: the address of the record, `none` inside for `NULL`. There is no
result when a read leaves the array or the records. -/
def http2StreamFindUnlocked (fuel : Nat) (s : StreamHash) (id : UInt32) : Option (Option Nat) :=
  if id = 0 then some none
  else do
    let curr ← s.streamsHash[bucketOf id]?
    searchFrom s.heap (fun st => st.streamId = id) fuel curr

/-- `http2_stream_find`, which holds `streams_lock` meanwhile. -/
def http2StreamFind (fuel : Nat) (s : StreamHash) (id : UInt32) : Option (Option Nat) :=
  http2StreamFindUnlocked fuel s id

/-- `http2_stream_get_or_create`: the address it returns, and the table. -/
def http2StreamGetOrCreate (fuel : Nat) (s : StreamHash) (c : CreateCall) :
    Option (Option Nat × StreamHash) := do
  let bucket := bucketOf c.streamId
  let check ← s.streamsHash[bucket]?
  match ← searchFrom s.heap (fun st => st.streamId = c.streamId) fuel check with
  | some st => some (some st, s)
  | none =>
      match c.calloc with
      | none => some (none, s)
      | some st =>
          some (some st,
            { heap := Function.update s.heap st (some ⟨c.record, check⟩)
              streamsHash := s.streamsHash.set bucket (some st)
              activeStreamCount := s.activeStreamCount + 1 })

/-- A sequence of calls: what they return, and the table behind them. -/
def createAll (fuel : Nat) : StreamHash → List CreateCall → Option (List (Option Nat) × StreamHash)
  | s, [] => some ([], s)
  | s, c :: cs => do
      let (st, s) ← http2StreamGetOrCreate fuel s c
      let (rest, s) ← createAll fuel s cs
      some (st :: rest, s)

/-! ## The map -/

/-- From ids to records, each with its address. -/
abbrev StreamMap := AList (fun _ : UInt32 => Nat × StreamRecord)

namespace StreamMap

/-- A call: an id that has no record gets one, if there is memory. -/
def create (m : StreamMap) (c : CreateCall) : StreamMap :=
  if c.streamId ∈ m then m
  else
    match c.calloc with
    | none => m
    | some st => m.insert c.streamId (st, c.record)

/-- The address of the record of an id. -/
def address (m : StreamMap) (id : UInt32) : Option Nat := (m.lookup id).map Prod.fst

/-- The calls of a sequence, and what each returns. -/
def createAll : StreamMap → List CreateCall → List (Option Nat) × StreamMap
  | m, [] => ([], m)
  | m, c :: cs =>
      let r := createAll (m.create c) cs
      ((m.create c).address c.streamId :: r.1, r.2)

/-- The records of a bucket, the newest first. -/
def chain (m : StreamMap) (b : Nat) : List (Nat × StreamRecord) :=
  (m.entries.filter fun e => bucketOf e.1 = b).map fun e => e.2

variable {m : StreamMap} {c : CreateCall} {id : UInt32}

theorem create_of_mem (h : c.streamId ∈ m) : m.create c = m := if_pos h

theorem create_none (h : c.calloc = none) : m.create c = m := by
  unfold create
  rw [h]
  exact ite_self m

theorem create_some {st : Nat} (h : c.streamId ∉ m) (hst : c.calloc = some st) :
    m.create c = m.insert c.streamId (st, c.record) := by
  unfold create
  rw [if_neg h, hst]

/-- What has been created stays. -/
theorem lookup_create_of_mem (h : id ∈ m) : (m.create c).lookup id = m.lookup id := by
  unfold create
  split
  · rfl
  · next hnew =>
    cases c.calloc with
    | none => rfl
    | some st =>
        refine AList.lookup_insert_ne ?_
        rintro rfl
        exact hnew h

theorem mem_create : id ∈ m.create c ↔ id ∈ m ∨ c.streamId = id ∧ c.calloc.isSome = true := by
  unfold create
  split
  · next hmem =>
    refine ⟨Or.inl, fun h => h.elim (fun hold => hold) fun hid => ?_⟩
    rw [← hid.1]
    exact hmem
  · cases c.calloc with
    | none => simp
    | some st =>
        rw [AList.mem_insert]
        simp [or_comm, eq_comm]

/-- A record of the map is an older one, or the call has made it. -/
theorem mem_entries_create {e : (_ : UInt32) × (Nat × StreamRecord)}
    (h : e ∈ (m.create c).entries) : e ∈ m.entries ∨ c.calloc = some e.2.1 := by
  unfold create at h
  split at h
  · exact Or.inl h
  · next hnew =>
    cases hcalloc : c.calloc with
    | none =>
        rw [hcalloc] at h
        exact Or.inl h
    | some st =>
        rw [hcalloc, AList.entries_insert_of_notMem hnew] at h
        rcases List.mem_cons.mp h with rfl | h
        · exact Or.inr rfl
        · exact Or.inl h

theorem length_create_le (m : StreamMap) (c : CreateCall) :
    (m.create c).entries.length ≤ m.entries.length + 1 := by
  unfold create
  split
  · exact Nat.le_succ _
  · next hnew =>
    cases c.calloc with
    | none => exact Nat.le_succ _
    | some st =>
        rw [AList.entries_insert_of_notMem hnew]
        exact Nat.le_refl _

/-- An id has a record once a call for it has found memory. -/
theorem mem_createAll {calls : List CreateCall} : id ∈ (m.createAll calls).2
    ↔ id ∈ m ∨ ∃ c ∈ calls, c.streamId = id ∧ c.calloc.isSome = true := by
  induction calls generalizing m with
  | nil => simp [createAll]
  | cons c calls ih =>
      rw [createAll]
      dsimp only
      rw [ih, mem_create, List.exists_mem_cons_iff, or_assoc]

theorem length_createAll_le (m : StreamMap) (calls : List CreateCall) :
    (m.createAll calls).2.entries.length ≤ m.entries.length + calls.length := by
  induction calls generalizing m with
  | nil => exact Nat.le_refl _
  | cons c calls ih =>
      have hstep := m.length_create_le c
      have hrest := ih (m.create c)
      rw [createAll, List.length_cons]
      dsimp only
      omega

theorem length_chain_le (m : StreamMap) (b : Nat) : (m.chain b).length ≤ m.entries.length := by
  unfold chain
  rw [List.length_map]
  exact List.length_filter_le _ _

/-- The records are found in their bucket. -/
theorem find_chain (hkey : ∀ e ∈ m.entries, e.2.2.streamId = e.1) (id : UInt32) :
    (m.chain (bucketOf id)).find? (fun x => x.2.streamId = id) = m.lookup id := by
  have hall : ∀ l : List ((_ : UInt32) × (Nat × StreamRecord)),
      (∀ e ∈ l, e.2.2.streamId = e.1) →
      ((l.filter fun e => bucketOf e.1 = bucketOf id).map fun e => e.2).find?
          (fun x => x.2.streamId = id) = l.dlookup id := by
    intro l
    induction l with
    | nil => intro _; rfl
    | cons e l ih =>
        intro hl
        rw [List.forall_mem_cons] at hl
        by_cases hid : id = e.1
        · subst hid
          have hfound : decide (e.2.2.streamId = e.1) = true := decide_eq_true hl.1
          rw [List.filter_cons_of_pos (by simp), List.map_cons, List.find?_cons, hfound,
            List.dlookup_cons_eq]
        · rw [List.dlookup_cons_ne _ _ hid, ← ih hl.2, List.filter_cons]
          split
          · have hnot : decide (e.2.2.streamId = id) = false := by
              rw [hl.1]
              exact decide_eq_false (Ne.symm hid)
            rw [List.map_cons, List.find?_cons, hnot]
          · rfl
  exact hall m.entries hkey

/-- There are less than `2 ^ 32` ids but 0. -/
theorem length_keys_lt (h : (0 : UInt32) ∉ m) : m.keys.length < 2 ^ 32 := by
  have hnodup : (m.keys.map UInt32.toNat).Nodup :=
    m.keys_nodup.map fun a b hab => UInt32.toNat_inj.mp hab
  have hsub : (m.keys.map UInt32.toNat).toFinset ⊆ Finset.Ico 1 (2 ^ 32) := by
    intro n hn
    obtain ⟨key, hkey, rfl⟩ := List.mem_map.mp (List.mem_toFinset.mp hn)
    refine Finset.mem_Ico.mpr ⟨Nat.one_le_iff_ne_zero.mpr ?_, key.toNat_lt⟩
    intro hzero
    rw [UInt32.toNat_inj.mp (show key.toNat = (0 : UInt32).toNat from hzero)] at hkey
    exact h (AList.mem_keys.mpr hkey)
  have hcard := Finset.card_le_card hsub
  rw [List.toFinset_card_of_nodup hnodup, List.length_map, Nat.card_Ico] at hcard
  omega

end StreamMap

/-! ## The table is the map -/

/-- The table in memory holds the map: the chain of a bucket spells its records, and there are no
others. -/
structure Represents (s : StreamHash) (m : StreamMap) : Prop where
  buckets : s.streamsHash.length = streamBuckets
  chain : ∀ b p, s.streamsHash[b]? = some p → Linked s.heap p (m.chain b)
  key : ∀ e ∈ m.entries, e.2.2.streamId = e.1
  allocated : ∀ a, s.heap a ≠ none → ∃ e ∈ m.entries, e.2.1 = a
  nonzero : 0 ∉ m
  count : s.activeStreamCount.toNat = m.keys.length

theorem bucketOf_lt (id : UInt32) : bucketOf id < streamBuckets := bucket_lt id.toNat

theorem Represents.fresh : Represents .fresh ∅ where
  buckets := List.length_replicate
  chain b p h := by
    obtain rfl := List.eq_of_mem_replicate (List.mem_of_getElem? h)
    exact Linked.nil
  key e he := absurd he List.not_mem_nil
  allocated a h := absurd rfl h
  nonzero := AList.notMem_empty 0
  count := rfl

section Calls

variable {s : StreamHash} {m : StreamMap} {c : CreateCall} {fuel : Nat}

/-- The bucket of an id is in the array, and its chain is searched to the end. -/
theorem Represents.search (h : Represents s m) (id : UInt32) (hfuel : m.entries.length ≤ fuel) :
    ∃ p, s.streamsHash[bucketOf id]? = some p ∧
      searchFrom s.heap (fun st => st.streamId = id) fuel p = some (m.address id) := by
  have hlt : bucketOf id < s.streamsHash.length := h.buckets ▸ bucketOf_lt id
  refine ⟨_, List.getElem?_eq_getElem hlt, ?_⟩
  have hchain := h.chain _ _ (List.getElem?_eq_getElem hlt)
  rw [hchain.searchFrom_eq _ ((m.length_chain_le _).trans hfuel), StreamMap.find_chain h.key]
  rfl

/-- **`http2_stream_find`** is the map. -/
theorem Represents.find (h : Represents s m) (id : UInt32) (hfuel : m.entries.length ≤ fuel) :
    http2StreamFind fuel s id = some (m.address id) := by
  unfold http2StreamFind http2StreamFindUnlocked
  split
  · next hzero =>
    rw [hzero, StreamMap.address, AList.lookup_eq_none.mpr h.nonzero]
    rfl
  · obtain ⟨p, hp, hsearch⟩ := h.search id hfuel
    rw [hp]
    exact hsearch

/-- **A second creation** returns the record and changes nothing. -/
theorem Represents.getOrCreate_mem (h : Represents s m) (hmem : c.streamId ∈ m)
    (hfuel : m.entries.length ≤ fuel) :
    http2StreamGetOrCreate fuel s c = some (m.address c.streamId, s) := by
  obtain ⟨p, hp, hsearch⟩ := h.search c.streamId hfuel
  obtain ⟨x, hx⟩ := Option.isSome_iff_exists.mp (AList.lookup_isSome.mpr hmem)
  have haddress : m.address c.streamId = some x.1 := by
    rw [StreamMap.address, hx]
    rfl
  unfold http2StreamGetOrCreate
  dsimp only
  rw [hp, Option.bind_eq_bind, Option.bind_some, hsearch, haddress]
  rfl

/-- A new record at the head of its chain. -/
theorem Represents.insert (h : Represents s m) {st : Nat} (hnew : c.streamId ∉ m)
    (hid : c.streamId ≠ 0) (hfresh : s.heap st = none) {p : Option Nat}
    (hp : s.streamsHash[bucketOf c.streamId]? = some p) :
    Represents
      { heap := Function.update s.heap st (some ⟨c.record, p⟩)
        streamsHash := s.streamsHash.set (bucketOf c.streamId) (some st)
        activeStreamCount := s.activeStreamCount + 1 }
      (m.insert c.streamId (st, c.record)) := by
  have hentries : (m.insert c.streamId (st, c.record)).entries
      = ⟨c.streamId, (st, c.record)⟩ :: m.entries := AList.entries_insert_of_notMem hnew
  have hzero : 0 ∉ m.insert c.streamId (st, c.record) := by
    rw [AList.mem_insert, not_or]
    exact ⟨hid.symm, h.nonzero⟩
  have hkeys : (m.insert c.streamId (st, c.record)).keys.length = m.keys.length + 1 := by
    rw [AList.keys, hentries]
    rfl
  constructor
  · exact List.length_set.trans h.buckets
  · intro b q hq
    have hchain : StreamMap.chain (m.insert c.streamId (st, c.record)) b
        = if bucketOf c.streamId = b then (st, c.record) :: m.chain b else m.chain b := by
      rw [StreamMap.chain, hentries, List.filter_cons]
      simp only [decide_eq_true_eq]
      split <;> rfl
    rw [hchain]
    by_cases hb : bucketOf c.streamId = b
    · subst hb
      have hlt := (List.getElem?_eq_some_iff.mp hp).1
      rw [List.getElem?_set_self hlt, Option.some.injEq] at hq
      subst hq
      rw [if_pos rfl]
      exact (h.chain _ _ hp).push hfresh
    · rw [List.getElem?_set_ne hb] at hq
      rw [if_neg hb]
      exact (h.chain _ _ hq).update hfresh _
  · rw [hentries, List.forall_mem_cons]
    exact ⟨rfl, h.key⟩
  · intro a ha
    rw [hentries]
    by_cases hst : a = st
    · exact ⟨_, List.mem_cons_self, hst.symm⟩
    · have hheap : Function.update s.heap st (some ⟨c.record, p⟩) a = s.heap a :=
        Function.update_of_ne hst _ _
      obtain ⟨e, he, hea⟩ := h.allocated a (fun hnone => ha (hheap.trans hnone))
      exact ⟨e, List.mem_cons_of_mem _ he, hea⟩
  · exact hzero
  · -- the counter does not wrap, as there are less than `2 ^ 32` ids
    have hlt := StreamMap.length_keys_lt hzero
    rw [UInt32.toNat_add, h.count, hkeys]
    rw [hkeys] at hlt
    exact Nat.mod_eq_of_lt hlt

/-- **A call** does to the table what it does to the map. -/
theorem Represents.getOrCreate (h : Represents s m) (hid : c.streamId ≠ 0)
    (hfresh : ∀ st ∈ c.calloc, s.heap st = none) (hfuel : m.entries.length ≤ fuel) :
    ∃ s', http2StreamGetOrCreate fuel s c = some ((m.create c).address c.streamId, s') ∧
      Represents s' (m.create c) := by
  by_cases hmem : c.streamId ∈ m
  · rw [StreamMap.create_of_mem hmem]
    exact ⟨s, h.getOrCreate_mem hmem hfuel, h⟩
  · obtain ⟨p, hp, hsearch⟩ := h.search c.streamId hfuel
    have hnone : m.address c.streamId = none := by
      rw [StreamMap.address, AList.lookup_eq_none.mpr hmem]
      rfl
    have hcall : http2StreamGetOrCreate fuel s c = match c.calloc with
        | none => some (none, s)
        | some st => some (some st,
            { heap := Function.update s.heap st (some ⟨c.record, p⟩)
              streamsHash := s.streamsHash.set (bucketOf c.streamId) (some st)
              activeStreamCount := s.activeStreamCount + 1 }) := by
      unfold http2StreamGetOrCreate
      dsimp only
      rw [hp, Option.bind_eq_bind, Option.bind_some, hsearch, hnone]
      rfl
    rw [hcall]
    cases hcalloc : c.calloc with
    | none =>
        rw [StreamMap.create_none hcalloc, hnone]
        exact ⟨s, rfl, h⟩
    | some st =>
        have haddress : StreamMap.address (m.insert c.streamId (st, c.record)) c.streamId = some st := by
          rw [StreamMap.address, AList.lookup_insert]
          rfl
        rw [StreamMap.create_some hmem hcalloc, haddress]
        exact ⟨_, rfl, h.insert hmem hid (hfresh st hcalloc) hp⟩

/-- The calls of a sequence, with an allocator that gives no address twice. -/
theorem Represents.createAll (h : Represents s m) {calls : List CreateCall}
    (hid : ∀ c ∈ calls, c.streamId ≠ 0) (haddress : (calls.filterMap CreateCall.calloc).Nodup)
    (hfresh : ∀ e ∈ m.entries, e.2.1 ∉ calls.filterMap CreateCall.calloc)
    (hfuel : m.entries.length + calls.length ≤ fuel) :
    ∃ s', createAll fuel s calls = some ((m.createAll calls).1, s') ∧
      Represents s' (m.createAll calls).2 := by
  induction calls generalizing s m with
  | nil => exact ⟨s, rfl, h⟩
  | cons c calls ih =>
      rw [List.forall_mem_cons] at hid
      rw [List.length_cons] at hfuel
      have hlength := m.length_create_le c
      -- what `calloc` returns now it returns neither later nor before
      have hsplit : (∀ st ∈ c.calloc, st ∉ calls.filterMap CreateCall.calloc) ∧
          (calls.filterMap CreateCall.calloc).Nodup ∧
          ∀ e ∈ m.entries, c.calloc ≠ some e.2.1 ∧ e.2.1 ∉ calls.filterMap CreateCall.calloc := by
        cases hcalloc : c.calloc with
        | none =>
            rw [List.filterMap_cons_none hcalloc] at haddress hfresh
            exact ⟨nofun, haddress, fun e he => ⟨nofun, hfresh e he⟩⟩
        | some st =>
            rw [List.filterMap_cons_some hcalloc] at haddress hfresh
            rw [List.nodup_cons] at haddress
            refine ⟨?_, haddress.2, fun e he => ?_⟩
            · rintro _ ⟨⟩
              exact haddress.1
            · have hnot := hfresh e he
              rw [List.mem_cons, not_or] at hnot
              exact ⟨fun heq => hnot.1 (Option.some.inj heq).symm, hnot.2⟩
      obtain ⟨hlater, hnodup, hbefore⟩ := hsplit
      have hnow : ∀ st ∈ c.calloc, s.heap st = none := by
        intro st hst
        by_contra hused
        obtain ⟨e, he, rfl⟩ := h.allocated st hused
        exact (hbefore e he).1 hst
      have hsearch : m.entries.length ≤ fuel := by omega
      obtain ⟨s₁, hcall, h₁⟩ := h.getOrCreate hid.1 hnow hsearch
      have hnext : ∀ e ∈ (m.create c).entries, e.2.1 ∉ calls.filterMap CreateCall.calloc := by
        intro e he
        rcases StreamMap.mem_entries_create he with hold | hnew
        · exact (hbefore e hold).2
        · exact hlater _ hnew
      obtain ⟨s', hrun, h'⟩ := ih h₁ hid.2 hnodup hnext (by omega)
      refine ⟨s', ?_, h'⟩
      rw [Memory.createAll, hcall, Option.bind_eq_bind, Option.bind_some]
      dsimp only
      rw [hrun]
      rfl

end Calls

/-- **The stream table is a map**: whatever ids are asked for, in whatever order, each of them that
has found memory has one record, in its bucket; `http2_stream_find` returns it, and nothing for
every other id, another creation returns it and changes nothing, and `active_stream_count` is the
number of ids. -/
theorem streamTable_map (calls : List CreateCall) (hid : ∀ c ∈ calls, c.streamId ≠ 0)
    (haddress : (calls.filterMap CreateCall.calloc).Nodup) {fuel : Nat}
    (hfuel : calls.length ≤ fuel) :
    ∃ s, createAll fuel .fresh calls = some ((StreamMap.createAll ∅ calls).1, s) ∧
      let m := (StreamMap.createAll ∅ calls).2
      (∀ id, id ∈ m ↔ ∃ c ∈ calls, c.streamId = id ∧ c.calloc.isSome = true) ∧
      Represents s m ∧ (∀ id, bucketOf id < streamBuckets) ∧
      (∀ id, http2StreamFind fuel s id = some (m.address id)) ∧
      ∀ c, c.streamId ∈ m →
        http2StreamGetOrCreate fuel s c = some (m.address c.streamId, s) := by
  have hlength := StreamMap.length_createAll_le ∅ calls
  rw [AList.empty_entries, List.length_nil, Nat.zero_add] at hlength
  have hstart : (∅ : StreamMap).entries.length + calls.length ≤ fuel := by
    rw [AList.empty_entries, List.length_nil]
    omega
  obtain ⟨s, hrun, h⟩ := Represents.fresh.createAll hid haddress
    (fun e he => absurd he List.not_mem_nil) hstart
  refine ⟨s, hrun, fun id => ?_, h, bucketOf_lt, fun id => h.find id (hlength.trans hfuel),
    fun c hc => h.getOrCreate_mem hc (hlength.trans hfuel)⟩
  rw [StreamMap.mem_createAll]
  simp

/-- The streams 1 and 111, whose hash is the same, 1 again, and 3 when there is no memory. -/
def collidingCalls : List CreateCall :=
  [⟨1, 65535, true, none, some 10⟩, ⟨111, 65535, true, none, some 20⟩, ⟨1, 1000, true, none, none⟩,
    ⟨3, 65535, true, none, none⟩]

example : bucketOf 1 = 19 ∧ bucketOf 111 = 19 := by decide

theorem streamTable_colliding :
    ∃ s, createAll 4 .fresh collidingCalls = some ([some 10, some 20, some 10, none], s) ∧
      http2StreamFind 4 s 1 = some (some 10) ∧ http2StreamFind 4 s 3 = some none := by
  obtain ⟨s, hrun, -, -, -, hfind, -⟩ :=
    streamTable_map collidingCalls (by decide) (by decide) (show 4 ≤ 4 by decide)
  exact ⟨s, hrun, hfind 1, hfind 3⟩

end Halmos.Http2.Memory
