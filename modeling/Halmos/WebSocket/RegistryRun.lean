import Halmos.WebSocket.Registry
import Mathlib.Data.List.ReduceOption

set_option autoImplicit false

/-! # The subscribers are registered

`Coherent` is what the tables of the registry keep: the slots hold the addresses of the clients
on the heap, each once; a descriptor's entry is a client with that descriptor; and the node of a
client in a bucket belongs to a topic the client has recorded. The last is what removing a client
relies on, and what subscribing breaks when the client's array of topics is full. In the runs in
which that never happens no bucket refers to a freed client (`registry_run`).
-/

namespace Halmos.WebSocket

/-! ## The slots -/

/-- The first empty slot gets the new client. -/
theorem set_findIdx_perm {slots : List (Option Addr)} {i : Nat}
    (h : slots.findIdx? (fun c => c = none) = some i) (a : Addr) :
    (slots.set i (some a)).reduceOption.Perm (a :: slots.reduceOption) := by
  induction slots generalizing i with
  | nil => cases h
  | cons c slots ih =>
      rw [List.findIdx?_cons] at h
      cases c with
      | none =>
          obtain rfl : 0 = i := by simpa using h
          simp
      | some x =>
          simp only [reduceCtorEq, decide_false, Bool.false_eq_true, if_false] at h
          obtain ⟨j, hj, rfl⟩ := Option.map_eq_some_iff.mp h
          rw [List.set_cons_succ, List.reduceOption_cons_of_some, List.reduceOption_cons_of_some]
          exact ((ih hj).cons x).trans (List.Perm.swap a x _)

/-- The slot of the client is emptied. -/
theorem clearSlot_reduceOption (slots : List (Option Addr)) (a : Addr) :
    (HalmosWSRegistry.clearSlot slots a).reduceOption = slots.reduceOption.erase a := by
  unfold HalmosWSRegistry.clearSlot
  induction slots with
  | nil => rfl
  | cons c slots ih =>
      rw [List.findIdx?_cons]
      by_cases hc : c = some a
      · subst hc
        simp
      · simp only [hc, decide_false, Bool.false_eq_true, if_false]
        cases hfind : slots.findIdx? (fun c => c = some a) with
        | none =>
            rw [hfind] at ih
            cases c with
            | none => simpa using ih
            | some x =>
                have hne : x ≠ a := fun h => hc (by rw [h])
                simp only [Option.map_none]
                rw [List.reduceOption_cons_of_some, List.erase_cons_tail (by simpa using hne)]
                rw [← ih]
        | some i =>
            rw [hfind] at ih
            simp only [Option.map_some, List.set_cons_succ]
            cases c with
            | none => simpa using ih
            | some x =>
                have hne : x ≠ a := fun h => hc (by rw [h])
                rw [List.reduceOption_cons_of_some, List.reduceOption_cons_of_some,
                  List.erase_cons_tail (by simpa using hne)]
                rw [← ih]

/-- What is found at an address of a table behind one change. -/
theorem update_eq_some_iff {α β : Type} [DecidableEq α] {table : α → Option β} {a x : α}
    {v : Option β} {d : β} :
    Function.update table a v x = some d ↔ x = a ∧ v = some d ∨ x ≠ a ∧ table x = some d := by
  by_cases hx : x = a
  · subst hx
    simp
  · simp [hx]

theorem update_none_eq_some_iff {α β : Type} [DecidableEq α] {table : α → Option β} {a x : α}
    {d : β} : Function.update table a none x = some d ↔ x ≠ a ∧ table x = some d := by
  simp [update_eq_some_iff]

/-- The slots hold the addresses of the clients on the heap, each once, and the entry of a
descriptor is a client with that descriptor. -/
structure SlotTables (clients : List (Option Addr)) (heap : Addr → Option HalmosWSClient)
    (fdMap : Int → Option Addr) : Prop where
  slots_live : ∀ a, some a ∈ clients ↔ (heap a).isSome
  slots_nodup : clients.reduceOption.Nodup
  fdMap_fd : ∀ fd a, fdMap fd = some a → ∃ c, heap a = some c ∧ c.fd = fd

section SlotTables

variable {clients : List (Option Addr)} {heap : Addr → Option HalmosWSClient}
  {fdMap : Int → Option Addr} {fd : Int} {i : Nat} {a : Addr} {c : HalmosWSClient}

/-- A new client gets a slot, and the entry of its descriptor. -/
theorem SlotTables.register (h : SlotTables clients heap fdMap)
    (hslot : clients.findIdx? (fun c => c = none) = some i) (hfresh : heap a = none)
    (hfd : c.fd = fd) :
    SlotTables (clients.set i (some a)) (Function.update heap a (some c))
      (Function.update fdMap fd (some a)) := by
  have hperm := set_findIdx_perm hslot a
  refine ⟨fun x => ?_, ?_, fun fd' x hx => ?_⟩
  · rw [← List.reduceOption_mem_iff, hperm.mem_iff, List.mem_cons, List.reduceOption_mem_iff,
      h.slots_live]
    by_cases hx : x = a
    · subst hx
      simp
    · simp [hx]
  · refine hperm.nodup_iff.mpr (List.nodup_cons.mpr ⟨fun hmem => ?_, h.slots_nodup⟩)
    rw [List.reduceOption_mem_iff, h.slots_live, hfresh] at hmem
    cases hmem
  · rcases update_eq_some_iff.mp hx with ⟨rfl, hnew⟩ | ⟨-, hold⟩
    · obtain rfl := Option.some.inj hnew
      exact ⟨c, Function.update_self .., hfd⟩
    · obtain ⟨d, hd, hdfd⟩ := h.fdMap_fd fd' x hold
      refine ⟨d, update_eq_some_iff.mpr (.inr ⟨?_, hd⟩), hdfd⟩
      rintro rfl
      rw [hfresh] at hd
      cases hd

/-- A client is taken out of the tables. -/
theorem SlotTables.unregister (h : SlotTables clients heap fdMap) (hc : heap a = some c)
    (hfd : c.fd = fd) :
    SlotTables (HalmosWSRegistry.clearSlot clients a) (Function.update heap a none)
      (Function.update fdMap fd none) := by
  have hslots := clearSlot_reduceOption clients a
  refine ⟨fun x => ?_, ?_, fun fd' x hx => ?_⟩
  · -- the slot emptied is the only one with the client
    rw [← List.reduceOption_mem_iff, hslots, h.slots_nodup.mem_erase_iff,
      List.reduceOption_mem_iff, h.slots_live]
    by_cases hx : x = a
    · subst hx
      simp
    · simp [hx]
  · rw [hslots]
    exact h.slots_nodup.erase a
  · -- no other descriptor has the client for its entry
    obtain ⟨hne, hold⟩ := update_none_eq_some_iff.mp hx
    obtain ⟨d, hd, hdfd⟩ := h.fdMap_fd fd' x hold
    refine ⟨d, update_none_eq_some_iff.mpr ⟨?_, hd⟩, hdfd⟩
    rintro rfl
    obtain rfl : d = c := Option.some.inj (hd.symm.trans hc)
    exact hne (hdfd.symm.trans hfd)

end SlotTables

/-! ## The chains of a client's topics -/

namespace HalmosWSRegistry

/-- The clients in the chain of a bucket. -/
def chain (buckets : Nat → Option WsTopicBucket) (idx : Nat) : List Addr :=
  ((buckets idx).map WsTopicBucket.subscribers).getD []

@[simp] theorem chain_update (buckets : Nat → Option WsTopicBucket) (i : Nat) (b : WsTopicBucket)
    (idx : Nat) :
    chain (Function.update buckets i (some b)) idx
      = if idx = i then b.subscribers else chain buckets idx := by
  unfold chain
  by_cases hidx : idx = i
  · subst hidx
    simp
  · simp [hidx]

theorem chain_of_bucket {buckets : Nat → Option WsTopicBucket} {idx : Nat} {b : WsTopicBucket}
    (h : buckets idx = some b) : chain buckets idx = b.subscribers := by
  rw [chain, h, Option.map_some, Option.getD_some]

theorem exists_bucket_of_mem_chain {buckets : Nat → Option WsTopicBucket} {idx : Nat} {a : Addr}
    (h : a ∈ chain buckets idx) : ∃ b, buckets idx = some b ∧ a ∈ b.subscribers := by
  cases hb : buckets idx with
  | none =>
      rw [chain, hb] at h
      exact absurd h List.not_mem_nil
  | some b => exact ⟨b, rfl, chain_of_bucket hb ▸ h⟩

theorem unlinkTopic_chain (a : Addr) (buckets : Nat → Option WsTopicBucket) (topic : List UInt8)
    (idx : Nat) :
    chain (unlinkTopic a buckets topic) idx
      = if idx = hashTopic topic then (chain buckets idx).erase a else chain buckets idx := by
  unfold unlinkTopic
  by_cases hidx : idx = hashTopic topic
  · subst hidx
    rw [if_pos rfl]
    cases hb : buckets (hashTopic topic) with
    | none => simp [chain, hb]
    | some b => simp [chain, hb]
  · rw [if_neg hidx]
    cases hb : buckets (hashTopic topic) with
    | none => simp only [hb]
    | some b => simp only [hb, chain_update, if_neg hidx]

theorem foldl_unlinkTopic_sublist (a : Addr) (topics : List (List UInt8))
    (buckets : Nat → Option WsTopicBucket) (idx : Nat) :
    (chain (topics.foldl (unlinkTopic a) buckets) idx).Sublist (chain buckets idx) := by
  induction topics generalizing buckets with
  | nil => exact List.Sublist.refl _
  | cons t topics ih =>
      rw [List.foldl_cons]
      refine (ih _).trans ?_
      rw [unlinkTopic_chain]
      split
      · exact List.erase_sublist
      · exact List.Sublist.refl _

/-- Unlinking a client from its recorded topics takes it out of their chains. -/
theorem not_mem_foldl_unlinkTopic (a : Addr) {topics : List (List UInt8)}
    {buckets : Nat → Option WsTopicBucket} {idx : Nat} (hnodup : (chain buckets idx).Nodup)
    (h : ∃ t ∈ topics, hashTopic t = idx) :
    a ∉ chain (topics.foldl (unlinkTopic a) buckets) idx := by
  induction topics generalizing buckets with
  | nil =>
      obtain ⟨t, ht, -⟩ := h
      exact absurd ht List.not_mem_nil
  | cons t topics ih =>
      rw [List.foldl_cons]
      have hchain := unlinkTopic_chain a buckets t idx
      by_cases hidx : idx = hashTopic t
      · rw [if_pos hidx] at hchain
        intro hmem
        have hin := (foldl_unlinkTopic_sublist a topics _ idx).subset hmem
        rw [hchain] at hin
        exact hnodup.not_mem_erase hin
      · rw [if_neg hidx] at hchain
        refine ih (by rw [hchain]; exact hnodup) ?_
        obtain ⟨t', ht', heq⟩ := h
        rcases List.mem_cons.mp ht' with rfl | hmem
        · exact absurd heq.symm hidx
        · exact ⟨t', hmem, heq⟩

/-! ## What the tables keep -/

/-- The tables and the heap agree. -/
structure Coherent (s : HalmosWSRegistry) : Prop where
  slots_live : ∀ a, some a ∈ s.clients ↔ (s.heap a).isSome
  slots_nodup : s.clients.reduceOption.Nodup
  fdMap_fd : ∀ fd a, s.fdMap fd = some a → ∃ c, s.heap a = some c ∧ c.fd = fd
  recorded : ∀ idx b a, s.buckets idx = some b → a ∈ b.subscribers →
    ∃ c, s.heap a = some c ∧ ∃ t ∈ c.subscribedTopics, hashTopic t = idx
  chains_nodup : ∀ idx b, s.buckets idx = some b → b.subscribers.Nodup

/-- `calloc` returns no address that is in use. -/
def AllocFresh (s : HalmosWSRegistry) : RegistryOp → Prop
  | .add _ _ _ (some a) => s.heap a = none
  | .addH2 _ _ _ _ (some a) => s.heap a = none
  | _ => True

/-- A client that gets a new node has room to record its topic. -/
def TopicRoom (s : HalmosWSRegistry) : RegistryOp → Prop
  | .addToTopic fd appId topic =>
      ∀ a c, s.findByFd fd = some a → s.heap a = some c → c.isActive = true →
        a ∉ (s.bucketOf (subscribeKey appId topic)).subscribers →
        c.subscribedTopics.length < maxTopicsPerUser
  | _ => True

theorem init_coherent : wsRegistryInit.Coherent where
  slots_live := by
    intro a
    have hno : some a ∉ List.replicate maxWsClients none :=
      fun h => nomatch List.eq_of_mem_replicate h
    exact ⟨fun h => absurd h hno, fun h => nomatch h⟩
  slots_nodup := by
    show (List.replicate maxWsClients none).reduceOption.Nodup
    rw [List.reduceOption_replicate_none]
    exact List.nodup_nil
  fdMap_fd := fun _ _ h => nomatch h
  recorded := fun _ _ _ h => nomatch h
  chains_nodup := fun _ _ h => nomatch h

variable {s : HalmosWSRegistry}

theorem Coherent.slotTables (h : s.Coherent) : SlotTables s.clients s.heap s.fdMap :=
  ⟨h.slots_live, h.slots_nodup, h.fdMap_fd⟩

theorem Coherent.chain_nodup (h : s.Coherent) (idx : Nat) : (chain s.buckets idx).Nodup := by
  cases hb : s.buckets idx with
  | none =>
      rw [chain, hb]
      exact List.nodup_nil
  | some b =>
      rw [chain_of_bucket hb]
      exact h.chains_nodup idx b hb

theorem Coherent.findByFd (h : s.Coherent) {fd : Int} {a : Addr} (hfd : s.findByFd fd = some a) :
    ∃ c, s.heap a = some c ∧ c.fd = fd := by
  unfold HalmosWSRegistry.findByFd at hfd
  split at hfd
  · exact h.fdMap_fd fd a hfd
  · cases hfd

/-- The chains of names are no part of it. -/
theorem Coherent.of_userMap (h : s.Coherent) (userMap : Nat → List Addr) :
    Coherent { s with userMap := userMap } :=
  ⟨h.slots_live, h.slots_nodup, h.fdMap_fd, h.recorded, h.chains_nodup⟩

/-- A client may be changed, but for its descriptor, and may record more topics. -/
theorem Coherent.update_client (h : s.Coherent) {a : Addr} {c c' : HalmosWSClient}
    (hc : s.heap a = some c) (hfd : c'.fd = c.fd)
    (htopics : ∀ t ∈ c.subscribedTopics, t ∈ c'.subscribedTopics) :
    Coherent { s with heap := Function.update s.heap a (some c') } where
  slots_live := by
    intro x
    rw [h.slots_live]
    by_cases hx : x = a
    · subst hx
      simp [hc]
    · simp [Function.update_of_ne hx]
  slots_nodup := h.slots_nodup
  fdMap_fd := by
    intro fd x hx
    obtain ⟨d, hd, hdfd⟩ := h.fdMap_fd fd x hx
    by_cases hxa : x = a
    · subst hxa
      obtain rfl : d = c := Option.some.inj (hd.symm.trans hc)
      exact ⟨c', Function.update_self .., hfd.trans hdfd⟩
    · exact ⟨d, (Function.update_of_ne hxa _ _).trans hd, hdfd⟩
  recorded := by
    intro idx b x hb hx
    obtain ⟨d, hd, t, ht, hidx⟩ := h.recorded idx b x hb hx
    by_cases hxa : x = a
    · subst hxa
      obtain rfl : d = c := Option.some.inj (hd.symm.trans hc)
      exact ⟨c', Function.update_self .., t, htopics t ht, hidx⟩
    · exact ⟨d, (Function.update_of_ne hxa _ _).trans hd, t, ht, hidx⟩
  chains_nodup := h.chains_nodup

/-- A bucket may be replaced by one whose nodes belong to recorded topics. -/
theorem Coherent.update_bucket (h : s.Coherent) {idx : Nat} {b : WsTopicBucket}
    (hrec : ∀ a ∈ b.subscribers,
      ∃ c, s.heap a = some c ∧ ∃ t ∈ c.subscribedTopics, hashTopic t = idx)
    (hnodup : b.subscribers.Nodup) :
    Coherent { s with buckets := Function.update s.buckets idx (some b) } where
  slots_live := h.slots_live
  slots_nodup := h.slots_nodup
  fdMap_fd := h.fdMap_fd
  recorded := by
    intro i b' a hb' ha
    by_cases hi : i = idx
    · subst hi
      simp only [Function.update_self, Option.some.injEq] at hb'
      subst hb'
      exact hrec a ha
    · simp only [Function.update_of_ne hi] at hb'
      exact h.recorded i b' a hb' ha
  chains_nodup := by
    intro i b' hb'
    by_cases hi : i = idx
    · subst hi
      simp only [Function.update_self, Option.some.injEq] at hb'
      subst hb'
      exact hnodup
    · simp only [Function.update_of_ne hi] at hb'
      exact h.chains_nodup i b' hb'

/-- The nodes of the bucket a topic falls into, if it has been made yet, are recorded. -/
theorem Coherent.bucketOf (h : s.Coherent) (fullKey : List UInt8) :
    (∀ a ∈ (s.bucketOf fullKey).subscribers,
      ∃ c, s.heap a = some c ∧ ∃ t ∈ c.subscribedTopics, hashTopic t = hashTopic fullKey) ∧
    (s.bucketOf fullKey).subscribers.Nodup := by
  unfold HalmosWSRegistry.bucketOf
  cases hb : s.buckets (hashTopic fullKey) with
  | none => exact ⟨fun a ha => absurd ha List.not_mem_nil, List.nodup_nil⟩
  | some b => exact ⟨fun a ha => h.recorded _ b a hb ha, h.chains_nodup _ b hb⟩

/-! ## What the operations keep -/

theorem Coherent.addClient (h : s.Coherent) (fd : Int) (ssl isHttp2 : Bool) (streamId now : Nat)
    {calloc : Option Addr} (hfresh : ∀ a, calloc = some a → s.heap a = none) :
    (s.addClient fd ssl isHttp2 streamId now calloc).2.Coherent := by
  unfold HalmosWSRegistry.addClient
  by_cases hvalid : wsFdIsValid fd = false
  · rw [if_pos hvalid]
    exact h
  · rw [if_neg hvalid]
    cases hslot : s.clients.findIdx? (fun c => c = none) with
    | none => exact h
    | some i =>
        cases calloc with
        | none => exact h
        | some a =>
            have hnone := hfresh a rfl
            have htables := h.slotTables.register (c := ⟨fd, ssl, now, true, isHttp2, streamId,
              (now <<< 32) % 2 ^ 64 ||| s.globalSessionCounter, [], []⟩) hslot hnone rfl
            refine ⟨htables.slots_live, htables.slots_nodup, htables.fdMap_fd, ?_, h.chains_nodup⟩
            -- no chain has a node of the new address yet
            intro idx b x hb hx
            obtain ⟨c, hc, ht⟩ := h.recorded idx b x hb hx
            refine ⟨c, update_eq_some_iff.mpr (.inr ⟨?_, hc⟩), ht⟩
            rintro rfl
            rw [hnone] at hc
            cases hc

theorem unlinkUser_coherent (h : s.Coherent) (a : Addr) (userId : List UInt8) :
    (s.unlinkUser a userId).Coherent := by
  unfold unlinkUser
  split
  · exact h.of_userMap _
  · exact h

/-- Removing a client takes its nodes with it: they all belong to topics it has recorded. -/
theorem Coherent.remove (h : s.Coherent) (fd : Int) :
    ∃ s', s.wsRegistryRemove fd = some s' ∧ s'.Coherent := by
  unfold wsRegistryRemove
  cases hfind : s.findByFd fd with
  | none => exact ⟨s, rfl, h⟩
  | some a =>
      obtain ⟨c, hc, hcfd⟩ := h.findByFd hfind
      simp only [hc]
      refine ⟨_, rfl, ?_⟩
      have hu := unlinkUser_coherent h a c.userId
      have hheap : (s.unlinkUser a c.userId).heap = s.heap := by
        unfold unlinkUser
        split <;> rfl
      rw [← hheap] at hc
      generalize s.unlinkUser a c.userId = u at hu hc
      have htables := hu.slotTables.unregister hc hcfd
      refine ⟨htables.slots_live, htables.slots_nodup, htables.fdMap_fd, ?_, ?_⟩
      · -- a node that is left belongs to a topic of its client, which is then another one
        intro idx b' x hb' hx
        rw [← chain_of_bucket hb'] at hx
        obtain ⟨b, hb, hxb⟩ := exists_bucket_of_mem_chain
          ((foldl_unlinkTopic_sublist a c.subscribedTopics u.buckets idx).subset hx)
        obtain ⟨d, hd, t, ht, hidx⟩ := hu.recorded idx b x hb hxb
        refine ⟨d, update_none_eq_some_iff.mpr ⟨?_, hd⟩, t, ht, hidx⟩
        rintro rfl
        obtain rfl : d = c := Option.some.inj (hd.symm.trans hc)
        exact not_mem_foldl_unlinkTopic x (hu.chain_nodup idx) ⟨t, ht, hidx⟩ hx
      · intro idx b' hb'
        rw [← chain_of_bucket hb']
        exact (foldl_unlinkTopic_sublist a c.subscribedTopics u.buckets idx).nodup
          (hu.chain_nodup idx)

theorem Coherent.updateActivity (h : s.Coherent) (fd : Int) (now : Nat) :
    ∃ s', s.wsRegistryUpdateActivity fd now = some s' ∧ s'.Coherent := by
  unfold wsRegistryUpdateActivity
  cases hfind : s.findByFd fd with
  | none => exact ⟨s, rfl, h⟩
  | some a =>
      obtain ⟨c, hc, _⟩ := h.findByFd hfind
      simp only [hc]
      exact ⟨_, rfl, h.update_client hc rfl fun t ht => ht⟩

/-- The reaper's first loop meets clients on the heap only. -/
theorem deadFds_isSome {heap : Addr → Option HalmosWSClient} (now : Nat)
    {slots : List (Option Addr)} (h : ∀ a, some a ∈ slots → (heap a).isSome) :
    ∃ dead, deadFds heap now slots = some dead := by
  induction slots with
  | nil => exact ⟨[], rfl⟩
  | cons slot slots ih =>
      obtain ⟨dead, hdead⟩ := ih fun a ha => h a (List.mem_cons_of_mem slot ha)
      cases slot with
      | none => exact ⟨dead, hdead⟩
      | some a =>
          obtain ⟨c, hc⟩ := Option.isSome_iff_exists.mp (h a List.mem_cons_self)
          simp only [deadFds, hc, hdead, Option.bind_eq_bind, Option.bind_some]
          exact ⟨_, rfl⟩

theorem Coherent.removeAll (h : s.Coherent) (fds : List Int) :
    ∃ s', s.removeAll fds = some s' ∧ s'.Coherent := by
  induction fds generalizing s with
  | nil => exact ⟨s, rfl, h⟩
  | cons fd fds ih =>
      obtain ⟨s₁, hremove, h₁⟩ := h.remove fd
      obtain ⟨s', hrest, h'⟩ := ih h₁
      refine ⟨s', ?_, h'⟩
      simp only [HalmosWSRegistry.removeAll, hremove, hrest, Option.bind_eq_bind,
        Option.bind_some]

theorem Coherent.reaper (h : s.Coherent) (now : Nat) :
    ∃ s', s.wsRegistryReaper now = some s' ∧ s'.Coherent := by
  obtain ⟨dead, hdead⟩ := deadFds_isSome now fun a ha => (h.slots_live a).mp ha
  obtain ⟨s', hremove, h'⟩ := h.removeAll dead
  refine ⟨s', ?_, h'⟩
  simp only [wsRegistryReaper, hdead, hremove, Option.bind_eq_bind, Option.bind_some]

theorem record_subset (c : HalmosWSClient) (fullKey : List UInt8) :
    ∀ t ∈ c.subscribedTopics, t ∈ (c.record fullKey).subscribedTopics := by
  intro t ht
  unfold HalmosWSClient.record
  split
  · exact List.mem_append_left _ ht
  · exact ht

/-- A client with room records the topic its new node belongs to. -/
theorem mem_record {c : HalmosWSClient} (hroom : c.subscribedTopics.length < maxTopicsPerUser)
    (fullKey : List UInt8) : fullKey ∈ (c.record fullKey).subscribedTopics := by
  unfold HalmosWSClient.record
  rw [if_pos hroom]
  exact List.mem_append_right _ (List.mem_singleton_self _)

theorem record_fd (c : HalmosWSClient) (fullKey : List UInt8) : (c.record fullKey).fd = c.fd := by
  unfold HalmosWSClient.record
  split <;> rfl

/-- Subscribing keeps the tables coherent as long as the topic can be recorded. -/
theorem Coherent.addToTopic (h : s.Coherent) {fd : Int} {appId topic : List UInt8}
    (hroom : s.TopicRoom (.addToTopic fd appId topic)) :
    ∃ s', s.wsRegistryAddToTopic fd appId topic = some s' ∧ s'.Coherent := by
  unfold wsRegistryAddToTopic
  cases hfind : s.findByFd fd with
  | none => exact ⟨s, rfl, h⟩
  | some a =>
      obtain ⟨c, hc, _⟩ := h.findByFd hfind
      simp only [hc]
      by_cases hactive : c.isActive = false
      · rw [if_pos hactive]
        exact ⟨s, rfl, h⟩
      · rw [if_neg hactive]
        obtain ⟨hrec, hnodup⟩ := h.bucketOf (subscribeKey appId topic)
        by_cases hmem : a ∈ (s.bucketOf (subscribeKey appId topic)).subscribers
        · rw [if_pos hmem]
          exact ⟨_, rfl, h.update_bucket hrec hnodup⟩
        · rw [if_neg hmem]
          have hlt := hroom a c hfind hc (by simpa using hactive) hmem
          have hclient := h.update_client hc (record_fd c (subscribeKey appId topic))
            (record_subset c _)
          refine ⟨_, rfl, hclient.update_bucket ?_ (List.nodup_cons.mpr ⟨hmem, hnodup⟩)⟩
          have hself : ∃ c', (Function.update s.heap a
                (some (c.record (subscribeKey appId topic)))) a = some c' ∧
              ∃ t ∈ c'.subscribedTopics, hashTopic t = hashTopic (subscribeKey appId topic) :=
            ⟨_, Function.update_self .., _, mem_record hlt _, rfl⟩
          intro x hx
          rcases List.mem_cons.mp hx with rfl | hx
          · exact hself
          · -- the other nodes are those of other clients
            have hxa : x ≠ a := fun heq => hmem (heq ▸ hx)
            obtain ⟨d, hd, ht⟩ := hrec x hx
            exact ⟨d, (Function.update_of_ne hxa _ _).trans hd, ht⟩

theorem Coherent.setUserId (h : s.Coherent) (fd : Int) (userId : List UInt8) :
    ∃ s', s.wsRegistrySetUserId fd userId = some s' ∧ s'.Coherent := by
  unfold wsRegistrySetUserId
  by_cases hempty : userId.length = 0
  · rw [if_pos hempty]
    exact ⟨s, rfl, h⟩
  · rw [if_neg hempty]
    cases hfind : s.findByFd fd with
    | none => exact ⟨s, rfl, h⟩
    | some a =>
        obtain ⟨c, hc, _⟩ := h.findByFd hfind
        simp only [hc]
        by_cases hactive : c.isActive = false
        · rw [if_pos hactive]
          exact ⟨s, rfl, h⟩
        · rw [if_neg hactive]
          have hu := unlinkUser_coherent h a c.userId
          have hheap : (s.unlinkUser a c.userId).heap a = some c := by
            unfold unlinkUser
            split <;> exact hc
          have hclient : Coherent { s.unlinkUser a c.userId with
              heap := Function.update (s.unlinkUser a c.userId).heap a
                (some { c with userId := userId.take 63 }) } :=
            hu.update_client hheap rfl fun t ht => ht
          exact ⟨_, rfl, hclient.of_userMap _⟩

/-- **One operation** keeps the tables coherent and touches no freed client. -/
theorem Coherent.apply (h : s.Coherent) {op : RegistryOp} (hfresh : s.AllocFresh op)
    (hroom : s.TopicRoom op) : ∃ s', s.apply op = some s' ∧ s'.Coherent := by
  cases op with
  | add fd ssl now calloc =>
      refine ⟨_, rfl, h.addClient fd ssl false 0 now fun a ha => ?_⟩
      subst ha
      exact hfresh
  | addH2 fd ssl streamId now calloc =>
      refine ⟨_, rfl, h.addClient fd ssl true streamId now fun a ha => ?_⟩
      subst ha
      exact hfresh
  | remove fd => exact h.remove fd
  | updateActivity fd now => exact h.updateActivity fd now
  | reaper now => exact h.reaper now
  | addToTopic fd appId topic => exact h.addToTopic hroom
  | setUserId fd userId => exact h.setUserId fd userId

/-! ## Runs -/

/-- One operation, if no freed memory has been touched so far. -/
def applyTo (s : Option HalmosWSRegistry) (op : RegistryOp) : Option HalmosWSRegistry :=
  s.bind fun s => s.apply op

/-- No freed memory has been touched, and the tables agree. -/
def Sound (s : Option HalmosWSRegistry) : Prop := ∃ r, s = some r ∧ r.Coherent

/-- The addresses `calloc` returns are free, and a client that gets a node has room for the
topic. -/
def Recordable (s : Option HalmosWSRegistry) (op : RegistryOp) : Prop :=
  ∀ r, s = some r → r.AllocFresh op ∧ r.TopicRoom op

theorem sound_applyTo {s : Option HalmosWSRegistry} {op : RegistryOp} (h : Sound s)
    (hguard : Recordable s op) : Sound (applyTo s op) := by
  obtain ⟨r, rfl, hr⟩ := h
  obtain ⟨hfresh, hroom⟩ := hguard r rfl
  exact hr.apply hfresh hroom

/-- A chain of registered clients can be walked. -/
theorem publishTo_isSome {heap : Addr → Option HalmosWSClient} {subscribers : List Addr}
    (h : ∀ a ∈ subscribers, (heap a).isSome) : (publishTo heap subscribers).isSome := by
  induction subscribers with
  | nil => rfl
  | cons a subscribers ih =>
      obtain ⟨c, hc⟩ := Option.isSome_iff_exists.mp (h a List.mem_cons_self)
      obtain ⟨sent, hsent⟩ := Option.isSome_iff_exists.mp
        (ih fun x hx => h x (List.mem_cons_of_mem a hx))
      simp only [publishTo, hc, hsent, Option.bind_eq_bind, Option.bind_some, Option.isSome_some]

theorem Coherent.publish (h : s.Coherent) (appId topic : List UInt8) :
    (s.wsRegistryPublish appId topic).isSome := by
  unfold wsRegistryPublish
  cases hb : s.buckets (hashTopic (publishKey appId topic)) with
  | none => rfl
  | some b =>
      refine publishTo_isSome fun a ha => ?_
      obtain ⟨c, hc, _⟩ := h.recorded _ b a hb ha
      rw [hc]
      rfl

end HalmosWSRegistry

open HalmosWSRegistry in
/-- **Every subscriber is registered.** In a run in which no client gets a node in a bucket
while its array of topics is full, no operation touches a freed client, every node in a topic
bucket is one of a client in `clients[]`, and a message can be published to any topic. -/
theorem registry_run (ops : List RegistryOp)
    (h : GuardedRun Recordable applyTo (some wsRegistryInit) ops) :
    ∃ s, runSteps applyTo (some wsRegistryInit) ops = some s ∧
      (∀ idx b a, s.buckets idx = some b → a ∈ b.subscribers → some a ∈ s.clients) ∧
      ∀ appId topic, (s.wsRegistryPublish appId topic).isSome := by
  have hsound : Sound (runSteps applyTo (some wsRegistryInit) ops) :=
    GuardedRun.invariant (fun _ _ hs hguard => sound_applyTo hs hguard)
      ⟨_, rfl, init_coherent⟩ h
  obtain ⟨s, hrun, hs⟩ := hsound
  refine ⟨s, hrun, fun idx b a hb ha => ?_, hs.publish⟩
  obtain ⟨c, hc, _⟩ := hs.recorded idx b a hb ha
  rw [hs.slots_live, hc]
  rfl

open HalmosWSRegistry in
/-- A client that subscribes, is given a name and leaves. -/
theorem registry_run_one :
    let ops : List RegistryOp :=
      [.add 5 false 100 (some 0), .addToTopic 5 (ascii "GLOBAL") (ascii "chat"),
        .setUserId 5 (ascii "ann"), .remove 5]
    ∃ s, runSteps applyTo (some wsRegistryInit) ops = some s ∧
      (∀ idx b a, s.buckets idx = some b → a ∈ b.subscribers → some a ∈ s.clients) ∧
      ∀ appId topic, (s.wsRegistryPublish appId topic).isSome := by
  refine registry_run _ ⟨?_, ?_, fun _ _ => ⟨trivial, trivial⟩, fun _ _ => ⟨trivial, trivial⟩,
    trivial⟩
  · intro r hr
    obtain rfl := Option.some.inj hr
    exact ⟨rfl, trivial⟩
  · intro r hr
    obtain rfl := Option.some.inj hr
    refine ⟨trivial, fun a c ha hc _ _ => ?_⟩
    obtain rfl : 0 = a := Option.some.inj ha
    obtain rfl := Option.some.inj hc
    decide

open HalmosWSRegistry in
/-- With a seventeenth topic, the node in its bucket outlives the client, and publishing to it
touches freed memory. -/
theorem subscriber_outlives_client :
    let letters := (List.range 17).map (fun i => [UInt8.ofNat (0x61 + i)])
    let ops : List RegistryOp := .add 5 false 100 (some 0) ::
      letters.map (.addToTopic 5 (ascii "GLOBAL")) ++ [.remove 5]
    (runSteps applyTo (some wsRegistryInit) ops).map (fun s =>
        (s.clients.contains (some 0),
          (s.buckets (hashTopic (ascii "GLOBAL:q"))).map WsTopicBucket.subscribers,
          s.wsRegistryPublish (ascii "GLOBAL") (ascii "q")))
      = some (false, some [0], none) := by
  decide +kernel

end Halmos.WebSocket