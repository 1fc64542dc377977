import Halmos.WebSocket.RegistryRun

set_option autoImplicit false

/-! # The two indexes of the registry

`clients[]` and `fd_map[]` list the same clients, once by slot and once by descriptor, and
`current_count` counts the slots in use. `Indexed` is what the operations keep in every run; that
a client is also found through its descriptor (`Reachable`) holds exactly as long as no client is
registered on a descriptor that has one (`tables_run`).
-/

namespace Halmos.WebSocket

namespace HalmosWSRegistry

/-- The slots, the heap, the count and the descriptors agree, whatever the topics and names. -/
structure Tabled (s : HalmosWSRegistry) : Prop where
  slots_live : ∀ a, some a ∈ s.clients ↔ (s.heap a).isSome
  slots_nodup : s.clients.reduceOption.Nodup
  counted : s.currentCount = s.clients.reduceOption.length
  fdMap_fd : ∀ fd a, s.fdMap fd = some a → ∃ c, s.heap a = some c ∧ c.fd = fd

/-- And with no operation under way, every client is active. -/
structure Indexed (s : HalmosWSRegistry) : Prop extends Tabled s where
  valid : ∀ a c, s.heap a = some c → wsFdIsValid c.fd = true ∧ c.isActive = true

theorem init_indexed : wsRegistryInit.Indexed where
  slots_live := init_coherent.slots_live
  slots_nodup := init_coherent.slots_nodup
  counted := by
    show (0 : Int) = (List.replicate maxWsClients none).reduceOption.length
    rw [List.reduceOption_replicate_none]
    rfl
  fdMap_fd := init_coherent.fdMap_fd
  valid := fun _ _ h => nomatch h

variable {s : HalmosWSRegistry}

theorem Tabled.slotTables (h : s.Tabled) : SlotTables s.clients s.heap s.fdMap :=
  ⟨h.slots_live, h.slots_nodup, h.fdMap_fd⟩

theorem fdMap_of_findByFd {fd : Int} {a : Addr} (hfd : s.findByFd fd = some a) :
    s.fdMap fd = some a := by
  unfold HalmosWSRegistry.findByFd at hfd
  split at hfd
  · exact hfd
  · cases hfd

theorem Indexed.findByFd (h : s.Indexed) {fd : Int} {a : Addr} (hfd : s.findByFd fd = some a) :
    ∃ c, s.heap a = some c ∧ c.fd = fd ∧ c.isActive = true := by
  obtain ⟨c, hc, hcfd⟩ := h.fdMap_fd fd a (fdMap_of_findByFd hfd)
  exact ⟨c, hc, hcfd, (h.valid a c hc).2⟩

theorem Tabled.mem_clients (h : s.Tabled) {a : Addr} {c : HalmosWSClient}
    (hc : s.heap a = some c) : some a ∈ s.clients := by
  rw [h.slots_live, hc]
  rfl

/-! ## What the operations do -/

/-- A new client, as `ws_registry_add` and `ws_registry_add_h2` fill it in. -/
structure Registered (s : HalmosWSRegistry) (fd : Int) (i : Nat) (a : Addr) (c : HalmosWSClient) :
    Prop where
  valid : wsFdIsValid fd = true
  slot : s.clients.findIdx? (fun c => c = none) = some i
  fd_eq : c.fd = fd
  active : c.isActive = true
  nameless : c.userId = []
  topicless : c.subscribedTopics = []

/-- `ws_registry_add` and `ws_registry_add_h2` register a client and return its slot, or return
`-1` and do nothing. -/
theorem addClient_slot (s : HalmosWSRegistry) (fd : Int) (ssl isHttp2 : Bool) (streamId now : Nat)
    (calloc : Option Addr) :
    s.addClient fd ssl isHttp2 streamId now calloc = (-1, s) ∨
    ∃ i a c, calloc = some a ∧ s.Registered fd i a c ∧
      s.addClient fd ssl isHttp2 streamId now calloc = ((i : Int), { s with
        clients := s.clients.set i (some a)
        fdMap := Function.update s.fdMap fd (some a)
        currentCount := s.currentCount + 1
        globalSessionCounter := s.globalSessionCounter + 1
        heap := Function.update s.heap a (some c) }) := by
  unfold addClient
  by_cases hvalid : wsFdIsValid fd = false
  · rw [if_pos hvalid]
    exact .inl rfl
  · rw [if_neg hvalid]
    cases hslot : s.clients.findIdx? (fun c => c = none) with
    | none => exact .inl rfl
    | some i =>
        cases calloc with
        | none => exact .inl rfl
        | some a =>
            exact .inr ⟨i, a, _, rfl, ⟨by simpa using hvalid, hslot, rfl, rfl, rfl, rfl⟩, rfl⟩

/-- With a valid descriptor, an empty slot and memory, a client is registered. -/
theorem addClient_registers {s : HalmosWSRegistry} {fd : Int} (hvalid : wsFdIsValid fd = true)
    (hslot : none ∈ s.clients) (ssl isHttp2 : Bool) (streamId now : Nat) (a : Addr) :
    ∃ i c, s.Registered fd i a c ∧
      s.addClient fd ssl isHttp2 streamId now (some a) = ((i : Int), { s with
        clients := s.clients.set i (some a)
        fdMap := Function.update s.fdMap fd (some a)
        currentCount := s.currentCount + 1
        globalSessionCounter := s.globalSessionCounter + 1
        heap := Function.update s.heap a (some c) }) := by
  have hany : (s.clients.findIdx? (fun c => c = none)).isSome = true := by
    rw [List.findIdx?_isSome, List.any_eq_true]
    exact ⟨none, hslot, decide_eq_true rfl⟩
  obtain ⟨i, hi⟩ := Option.isSome_iff_exists.mp hany
  unfold addClient
  rw [if_neg (by simp [hvalid])]
  simp only [hi]
  exact ⟨i, _, ⟨hvalid, hi, rfl, rfl, rfl, rfl⟩, rfl⟩

theorem addClient_spec (s : HalmosWSRegistry) (fd : Int) (ssl isHttp2 : Bool) (streamId now : Nat)
    (calloc : Option Addr) :
    (s.addClient fd ssl isHttp2 streamId now calloc).2 = s ∨
    ∃ i a c, calloc = some a ∧ s.Registered fd i a c ∧
      (s.addClient fd ssl isHttp2 streamId now calloc).2 = { s with
        clients := s.clients.set i (some a)
        fdMap := Function.update s.fdMap fd (some a)
        currentCount := s.currentCount + 1
        globalSessionCounter := s.globalSessionCounter + 1
        heap := Function.update s.heap a (some c) } := by
  rcases s.addClient_slot fd ssl isHttp2 streamId now calloc with hsame | ⟨i, a, c, ha, hc, hnew⟩
  · exact .inl (congrArg Prod.snd hsame)
  · exact .inr ⟨i, a, c, ha, hc, congrArg Prod.snd hnew⟩

@[simp] theorem unlinkUser_heap (a : Addr) (userId : List UInt8) :
    (s.unlinkUser a userId).heap = s.heap := by
  unfold unlinkUser
  split <;> rfl

@[simp] theorem unlinkUser_clients (a : Addr) (userId : List UInt8) :
    (s.unlinkUser a userId).clients = s.clients := by
  unfold unlinkUser
  split <;> rfl

@[simp] theorem unlinkUser_fdMap (a : Addr) (userId : List UInt8) :
    (s.unlinkUser a userId).fdMap = s.fdMap := by
  unfold unlinkUser
  split <;> rfl

@[simp] theorem unlinkUser_buckets (a : Addr) (userId : List UInt8) :
    (s.unlinkUser a userId).buckets = s.buckets := by
  unfold unlinkUser
  split <;> rfl

@[simp] theorem unlinkUser_currentCount (a : Addr) (userId : List UInt8) :
    (s.unlinkUser a userId).currentCount = s.currentCount := by
  unfold unlinkUser
  split <;> rfl

/-- `ws_registry_remove` on a descriptor that has a client. -/
theorem remove_eq {fd : Int} {a : Addr} {c : HalmosWSClient} (hfind : s.findByFd fd = some a)
    (hc : s.heap a = some c) :
    s.wsRegistryRemove fd = some { s.unlinkUser a c.userId with
      buckets := c.subscribedTopics.foldl (unlinkTopic a) s.buckets
      clients := clearSlot s.clients a
      fdMap := Function.update s.fdMap fd none
      currentCount := s.currentCount - 1
      heap := Function.update s.heap a none } := by
  unfold wsRegistryRemove
  simp only [hfind, hc, unlinkUser_heap, unlinkUser_clients, unlinkUser_fdMap, unlinkUser_buckets,
    unlinkUser_currentCount]

theorem remove_none {fd : Int} (hfind : s.findByFd fd = none) :
    s.wsRegistryRemove fd = some s := by
  unfold wsRegistryRemove
  rw [hfind]

/-- What removing one client keeps, removing any of them keeps. -/
theorem removeAll_keeps {P : HalmosWSRegistry → Prop}
    (hremove : ∀ s, P s → ∀ fd, ∃ s', s.wsRegistryRemove fd = some s' ∧ P s') (hs : P s)
    (fds : List Int) : ∃ s', s.removeAll fds = some s' ∧ P s' := by
  induction fds generalizing s with
  | nil => exact ⟨s, rfl, hs⟩
  | cons fd fds ih =>
      obtain ⟨s₁, hone, h₁⟩ := hremove s hs fd
      obtain ⟨s', hrest, h'⟩ := ih h₁
      refine ⟨s', ?_, h'⟩
      simp only [removeAll, hone, hrest, Option.bind_eq_bind, Option.bind_some]

/-- The reaper removes clients and does nothing else. -/
theorem Indexed.reaper_keeps (h : s.Indexed) {P : HalmosWSRegistry → Prop}
    (hremove : ∀ s, P s → ∀ fd, ∃ s', s.wsRegistryRemove fd = some s' ∧ P s') (hs : P s)
    (now : Nat) : ∃ s', s.wsRegistryReaper now = some s' ∧ P s' := by
  obtain ⟨dead, hdead⟩ := deadFds_isSome now fun a ha => (h.slots_live a).mp ha
  obtain ⟨s', hall, h'⟩ := removeAll_keeps hremove hs dead
  refine ⟨s', ?_, h'⟩
  simp only [wsRegistryReaper, hdead, hall, Option.bind_eq_bind, Option.bind_some]

theorem updateActivity_spec (h : s.Indexed) (fd : Int) (now : Nat) :
    s.wsRegistryUpdateActivity fd now = some s ∨
    ∃ a c, s.heap a = some c ∧ s.wsRegistryUpdateActivity fd now
      = some { s with heap := Function.update s.heap a (some { c with lastSeen := now }) } := by
  unfold wsRegistryUpdateActivity
  cases hfind : s.findByFd fd with
  | none => exact .inl rfl
  | some a =>
      obtain ⟨c, hc, -⟩ := h.findByFd hfind
      simp only [hc]
      exact .inr ⟨a, c, hc, rfl⟩

theorem setUserId_spec (h : s.Indexed) (fd : Int) (userId : List UInt8) :
    (userId = [] ∨ s.findByFd fd = none) ∧ s.wsRegistrySetUserId fd userId = some s ∨
    ∃ a c, userId ≠ [] ∧ s.findByFd fd = some a ∧ s.heap a = some c ∧
      s.wsRegistrySetUserId fd userId = some { s.unlinkUser a c.userId with
        heap := Function.update s.heap a (some { c with userId := userId.take 63 })
        userMap := Function.update (s.unlinkUser a c.userId).userMap (hashTopic userId)
          (a :: (s.unlinkUser a c.userId).userMap (hashTopic userId)) } := by
  unfold wsRegistrySetUserId
  by_cases hempty : userId.length = 0
  · rw [if_pos hempty]
    exact .inl ⟨.inl (List.length_eq_zero_iff.mp hempty), rfl⟩
  · rw [if_neg hempty]
    cases hfind : s.findByFd fd with
    | none => exact .inl ⟨.inr rfl, rfl⟩
    | some a =>
        obtain ⟨c, hc, -, hactive⟩ := h.findByFd hfind
        have hne : ¬ c.isActive = false := by
          rw [hactive]
          decide
        simp only [hc, if_neg hne, unlinkUser_heap]
        exact .inr ⟨a, c, fun hnil => hempty (by rw [hnil]; rfl), rfl, hc, rfl⟩

theorem addToTopic_spec (h : s.Indexed) (fd : Int) (appId topic : List UInt8) :
    s.findByFd fd = none ∧ s.wsRegistryAddToTopic fd appId topic = some s ∨
    ∃ a c, s.findByFd fd = some a ∧ s.heap a = some c ∧
      s.wsRegistryAddToTopic fd appId topic = some (
        let key := subscribeKey appId topic
        let b := s.bucketOf key
        if a ∈ b.subscribers then
          { s with buckets := Function.update s.buckets (hashTopic key) (some b) }
        else { s with
          buckets := Function.update s.buckets (hashTopic key)
            (some { b with subscribers := a :: b.subscribers })
          heap := Function.update s.heap a (some (c.record key)) }) := by
  unfold wsRegistryAddToTopic
  cases hfind : s.findByFd fd with
  | none => exact .inl ⟨rfl, rfl⟩
  | some a =>
      obtain ⟨c, hc, -, hactive⟩ := h.findByFd hfind
      refine .inr ⟨a, c, rfl, hc, ?_⟩
      simp only [hc, hactive, Bool.true_eq_false, if_false]
      split <;> rfl

/-! ## What every operation keeps -/

/-- A client may be changed, but for its descriptor; the tables of topics and names may be
anything. -/
theorem Tabled.of_update (h : s.Tabled) {s' : HalmosWSRegistry} {a : Addr}
    {c c' : HalmosWSClient} (hc : s.heap a = some c) (hclients : s'.clients = s.clients)
    (hfdMap : s'.fdMap = s.fdMap) (hcount : s'.currentCount = s.currentCount)
    (hheap : s'.heap = Function.update s.heap a (some c')) (hfd : c'.fd = c.fd) : s'.Tabled where
  slots_live := by
    intro x
    rw [hclients, hheap, h.slots_live]
    by_cases hx : x = a
    · subst hx
      simp [hc]
    · simp [Function.update_of_ne hx]
  slots_nodup := by
    rw [hclients]
    exact h.slots_nodup
  counted := by
    rw [hclients, hcount]
    exact h.counted
  fdMap_fd := by
    intro fd x hx
    rw [hfdMap] at hx
    rw [hheap]
    obtain ⟨d, hd, hdfd⟩ := h.fdMap_fd fd x hx
    by_cases hxa : x = a
    · subst hxa
      obtain rfl : d = c := Option.some.inj (hd.symm.trans hc)
      exact ⟨c', Function.update_self .., hfd.trans hdfd⟩
    · exact ⟨d, (Function.update_of_ne hxa _ _).trans hd, hdfd⟩

/-- And if it stays active, all clients are. -/
theorem Indexed.of_update (h : s.Indexed) {s' : HalmosWSRegistry} {a : Addr}
    {c c' : HalmosWSClient} (hc : s.heap a = some c) (hclients : s'.clients = s.clients)
    (hfdMap : s'.fdMap = s.fdMap) (hcount : s'.currentCount = s.currentCount)
    (hheap : s'.heap = Function.update s.heap a (some c')) (hfd : c'.fd = c.fd)
    (hactive : c'.isActive = c.isActive) : s'.Indexed where
  toTabled := h.toTabled.of_update hc hclients hfdMap hcount hheap hfd
  valid := by
    intro x d hd
    rw [hheap] at hd
    by_cases hxa : x = a
    · subst hxa
      rw [Function.update_self] at hd
      obtain rfl := Option.some.inj hd
      rw [hfd, hactive]
      exact h.valid x c hc
    · rw [Function.update_of_ne hxa] at hd
      exact h.valid x d hd

theorem Tabled.register (h : s.Tabled) {fd : Int} {i : Nat} {a : Addr} {c : HalmosWSClient}
    (hc : s.Registered fd i a c) (hfresh : s.heap a = none) (counter : Nat) :
    Tabled { s with
      clients := s.clients.set i (some a)
      fdMap := Function.update s.fdMap fd (some a)
      currentCount := s.currentCount + 1
      globalSessionCounter := counter
      heap := Function.update s.heap a (some c) } := by
  have htables := h.slotTables.register hc.slot hfresh hc.fd_eq
  refine ⟨htables.slots_live, htables.slots_nodup, ?_, htables.fdMap_fd⟩
  have hlen := (set_findIdx_perm hc.slot a).length_eq
  have hcount := h.counted
  rw [List.length_cons] at hlen
  dsimp only
  omega

theorem Indexed.register (h : s.Indexed) {fd : Int} {i : Nat} {a : Addr} {c : HalmosWSClient}
    (hc : s.Registered fd i a c) (hfresh : s.heap a = none) (counter : Nat) :
    Indexed { s with
      clients := s.clients.set i (some a)
      fdMap := Function.update s.fdMap fd (some a)
      currentCount := s.currentCount + 1
      globalSessionCounter := counter
      heap := Function.update s.heap a (some c) } where
  toTabled := h.toTabled.register hc hfresh counter
  valid := by
    intro x d hd
    by_cases hx : x = a
    · subst hx
      simp only [Function.update_self, Option.some.injEq] at hd
      subst hd
      rw [hc.fd_eq]
      exact ⟨hc.valid, hc.active⟩
    · simp only [Function.update_of_ne hx] at hd
      exact h.valid x d hd

/-- The client of a descriptor is taken out of every table that lists it. -/
theorem Tabled.unregister (h : s.Tabled) {s' : HalmosWSRegistry} {fd : Int} {a : Addr}
    (hentry : s.fdMap fd = some a) (hclients : s'.clients = clearSlot s.clients a)
    (hfdMap : s'.fdMap = Function.update s.fdMap fd none)
    (hcount : s'.currentCount = s.currentCount - 1)
    (hheap : s'.heap = Function.update s.heap a none) : s'.Tabled := by
  obtain ⟨c, hc, hcfd⟩ := h.fdMap_fd fd a hentry
  have htables := h.slotTables.unregister hc hcfd
  rw [← hclients, ← hheap, ← hfdMap] at htables
  refine ⟨htables.slots_live, htables.slots_nodup, ?_, htables.fdMap_fd⟩
  have hmem : a ∈ s.clients.reduceOption := List.reduceOption_mem_iff.mpr (h.mem_clients hc)
  have hlen := List.length_erase_of_mem hmem
  have hpos := List.length_pos_of_mem hmem
  have hbefore := h.counted
  rw [hcount, hclients, clearSlot_reduceOption]
  omega

theorem Indexed.unregister (h : s.Indexed) {s' : HalmosWSRegistry} {fd : Int} {a : Addr}
    (hfind : s.findByFd fd = some a) (hclients : s'.clients = clearSlot s.clients a)
    (hfdMap : s'.fdMap = Function.update s.fdMap fd none)
    (hcount : s'.currentCount = s.currentCount - 1)
    (hheap : s'.heap = Function.update s.heap a none) : s'.Indexed where
  toTabled := h.toTabled.unregister (fdMap_of_findByFd hfind) hclients hfdMap hcount hheap
  valid := by
    intro x d hd
    rw [hheap, update_none_eq_some_iff] at hd
    exact h.valid x d hd.2

theorem Indexed.remove (h : s.Indexed) (fd : Int) :
    ∃ s', s.wsRegistryRemove fd = some s' ∧ s'.Indexed := by
  cases hfind : s.findByFd fd with
  | none => exact ⟨s, remove_none hfind, h⟩
  | some a =>
      obtain ⟨c, hc, -⟩ := h.findByFd hfind
      exact ⟨_, remove_eq hfind hc, h.unregister hfind rfl rfl rfl rfl⟩

theorem record_isActive (c : HalmosWSClient) (fullKey : List UInt8) :
    (c.record fullKey).isActive = c.isActive := by
  unfold HalmosWSClient.record
  split <;> rfl

/-- The tables of topics and names may be anything. -/
theorem Tabled.of_eq (h : s.Tabled) {s' : HalmosWSRegistry} (hclients : s'.clients = s.clients)
    (hfdMap : s'.fdMap = s.fdMap) (hcount : s'.currentCount = s.currentCount)
    (hheap : s'.heap = s.heap) : s'.Tabled := by
  refine ⟨?_, ?_, ?_, ?_⟩
  · rw [hclients, hheap]
    exact h.slots_live
  · rw [hclients]
    exact h.slots_nodup
  · rw [hclients, hcount]
    exact h.counted
  · rw [hfdMap, hheap]
    exact h.fdMap_fd

theorem Indexed.of_buckets (h : s.Indexed) (buckets : Nat → Option WsTopicBucket) :
    Indexed { s with buckets := buckets } :=
  ⟨h.toTabled.of_eq rfl rfl rfl rfl, h.valid⟩

theorem Indexed.addClient (h : s.Indexed) (fd : Int) (ssl isHttp2 : Bool) (streamId now : Nat)
    {calloc : Option Addr} (hfresh : ∀ a, calloc = some a → s.heap a = none) :
    (s.addClient fd ssl isHttp2 streamId now calloc).2.Indexed := by
  rcases s.addClient_spec fd ssl isHttp2 streamId now calloc with hsame | ⟨i, a, c, ha, hc, hnew⟩
  · rw [hsame]
    exact h
  · rw [hnew]
    exact h.register hc (hfresh a ha) _

/-- **One operation** keeps the indexes and touches no freed client. -/
theorem Indexed.apply (h : s.Indexed) {op : RegistryOp} (hfresh : s.AllocFresh op) :
    ∃ s', s.apply op = some s' ∧ s'.Indexed := by
  cases op with
  | add fd ssl now calloc =>
      refine ⟨_, rfl, h.addClient fd ssl false 0 now fun a ha => ?_⟩
      subst ha
      exact hfresh
  | addH2 fd ssl streamId now calloc =>
      refine ⟨_, rfl, h.addClient fd ssl true streamId now fun a ha => ?_⟩
      subst ha
      exact hfresh
  | remove fd => exact h.remove fd
  | updateActivity fd now =>
      rcases updateActivity_spec h fd now with hsame | ⟨a, c, hc, hnew⟩
      · exact ⟨s, hsame, h⟩
      · exact ⟨_, hnew, h.of_update hc rfl rfl rfl rfl rfl rfl⟩
  | reaper now => exact h.reaper_keeps (fun _ hs fd => hs.remove fd) h now
  | addToTopic fd appId topic =>
      rcases addToTopic_spec h fd appId topic with ⟨-, hsame⟩ | ⟨a, c, -, hc, hnew⟩
      · exact ⟨s, hsame, h⟩
      · refine ⟨_, hnew, ?_⟩
        dsimp only
        split
        · exact h.of_buckets _
        · exact h.of_update hc rfl rfl rfl rfl (record_fd c _) (record_isActive c _)
  | setUserId fd userId =>
      rcases setUserId_spec h fd userId with ⟨-, hsame⟩ | ⟨a, c, -, -, hc, hnew⟩
      · exact ⟨s, hsame, h⟩
      · exact ⟨_, hnew, h.of_update hc (unlinkUser_clients a _) (unlinkUser_fdMap a _)
          (unlinkUser_currentCount a _) rfl rfl rfl⟩

/-! ## Reached through the descriptor -/

/-- Every client is the one its descriptor leads to. -/
def Reachable (s : HalmosWSRegistry) : Prop :=
  ∀ a c, s.heap a = some c → s.findByFd c.fd = some a

/-- A client is registered on a descriptor that has none, if it is registered at all. -/
def FreeDescriptor (s : HalmosWSRegistry) : RegistryOp → Prop
  | .add fd _ _ (some _) => s.findByFd fd = none ∨ none ∉ s.clients
  | .addH2 fd _ _ _ (some _) => s.findByFd fd = none ∨ none ∉ s.clients
  | _ => True

/-- What the two indexes and the counter are to each other: `current_count` counts the slots in
use, an entry of `fd_map[]` is a client of that descriptor in `clients[]`, every client in
`clients[]` is found through its descriptor, and removing a descriptor leaves none of its clients
in a slot. -/
structure TablesAgree (s : HalmosWSRegistry) : Prop where
  count : s.currentCount = s.clients.countP (fun c => c.isSome)
  entry : ∀ fd a, s.fdMap fd = some a → some a ∈ s.clients ∧ ∃ c, s.heap a = some c ∧ c.fd = fd
  reached : ∀ a, some a ∈ s.clients → ∃ c, s.heap a = some c ∧ s.findByFd c.fd = some a
  removed : ∀ fd, ∃ s', s.wsRegistryRemove fd = some s' ∧
    ∀ a c, some a ∈ s'.clients → s'.heap a = some c → c.fd ≠ fd

theorem findByFd_eq {fd : Int} (h : wsFdIsValid fd = true) : s.findByFd fd = s.fdMap fd :=
  if_pos h

theorem reachable_of_update (hreach : s.Reachable) {s' : HalmosWSRegistry} {a : Addr}
    {c c' : HalmosWSClient} (hc : s.heap a = some c) (hfdMap : s'.fdMap = s.fdMap)
    (hheap : s'.heap = Function.update s.heap a (some c')) (hfd : c'.fd = c.fd) :
    s'.Reachable := by
  intro x d hd
  unfold findByFd
  rw [hfdMap]
  rw [hheap] at hd
  by_cases hx : x = a
  · subst hx
    rw [Function.update_self] at hd
    obtain rfl := Option.some.inj hd
    rw [hfd]
    exact hreach x c hc
  · rw [Function.update_of_ne hx] at hd
    exact hreach x d hd

theorem Indexed.reachable_register (h : s.Indexed) (hreach : s.Reachable) {fd : Int} {i : Nat}
    {a : Addr} {c : HalmosWSClient} (hc : s.Registered fd i a c) (hfresh : s.heap a = none)
    (hfree : s.findByFd fd = none) (counter : Nat) :
    Reachable { s with
      clients := s.clients.set i (some a)
      fdMap := Function.update s.fdMap fd (some a)
      currentCount := s.currentCount + 1
      globalSessionCounter := counter
      heap := Function.update s.heap a (some c) } := by
  intro x d hd
  by_cases hx : x = a
  · subst hx
    simp only [Function.update_self, Option.some.injEq] at hd
    subst hd
    rw [hc.fd_eq, findByFd_eq hc.valid]
    exact Function.update_self ..
  · simp only [Function.update_of_ne hx] at hd
    -- a client that was registered before is not on the descriptor
    have hfound := hreach x d hd
    have hne : d.fd ≠ fd := by
      intro heq
      rw [heq, hfree] at hfound
      cases hfound
    rw [findByFd_eq (h.valid x d hd).1] at hfound
    rw [findByFd_eq (h.valid x d hd).1]
    exact (Function.update_of_ne hne _ _).trans hfound

theorem Indexed.reachable_remove (h : s.Indexed) (hreach : s.Reachable) (fd : Int) :
    ∃ s', s.wsRegistryRemove fd = some s' ∧ s'.Indexed ∧ s'.Reachable ∧
      ∀ a c, s'.heap a = some c → c.fd ≠ fd := by
  cases hfind : s.findByFd fd with
  | none =>
      refine ⟨s, remove_none hfind, h, hreach, ?_⟩
      rintro a c hc rfl
      rw [hreach a c hc] at hfind
      cases hfind
  | some a =>
      obtain ⟨c, hc, hcfd, -⟩ := h.findByFd hfind
      have hother : ∀ x d, Function.update s.heap a none x = some d →
          s.heap x = some d ∧ d.fd ≠ fd := by
        intro x d hd
        obtain ⟨hx, hd⟩ := update_none_eq_some_iff.mp hd
        refine ⟨hd, ?_⟩
        rintro rfl
        rw [hreach x d hd] at hfind
        exact hx (Option.some.inj hfind)
      refine ⟨_, remove_eq hfind hc, h.unregister hfind rfl rfl rfl rfl, ?_, ?_⟩
      · intro x d hd
        obtain ⟨hd, hne⟩ := hother x d hd
        have hfound := hreach x d hd
        rw [findByFd_eq (h.valid x d hd).1] at hfound
        rw [findByFd_eq (h.valid x d hd).1]
        exact (Function.update_of_ne hne _ _).trans hfound
      · intro x d hd
        exact (hother x d hd).2

theorem Indexed.reachable_addClient (h : s.Indexed) (hreach : s.Reachable) (fd : Int)
    (ssl isHttp2 : Bool) (streamId now : Nat) {calloc : Option Addr}
    (hfresh : ∀ a, calloc = some a → s.heap a = none)
    (hfree : ∀ a, calloc = some a → s.findByFd fd = none ∨ none ∉ s.clients) :
    (s.addClient fd ssl isHttp2 streamId now calloc).2.Reachable := by
  rcases s.addClient_spec fd ssl isHttp2 streamId now calloc with hsame | ⟨i, a, c, ha, hc, hnew⟩
  · rw [hsame]
    exact hreach
  · rw [hnew]
    refine h.reachable_register hreach hc (hfresh a ha)
      ((hfree a ha).resolve_right fun hfull => ?_) _
    obtain ⟨hlt, hi, -⟩ := List.findIdx?_eq_some_iff_getElem.mp hc.slot
    have hempty : s.clients[i] = none := of_decide_eq_true hi
    exact hfull (hempty ▸ List.getElem_mem hlt)

/-- **One operation** on a free descriptor keeps every client within reach. -/
theorem Indexed.apply_reachable (h : s.Indexed) (hreach : s.Reachable) {op : RegistryOp}
    (hfresh : s.AllocFresh op) (hfree : s.FreeDescriptor op) :
    ∃ s', s.apply op = some s' ∧ s'.Indexed ∧ s'.Reachable := by
  obtain ⟨s', hs', hindexed⟩ := h.apply hfresh
  refine ⟨s', hs', hindexed, ?_⟩
  cases op with
  | add fd ssl now calloc =>
      obtain rfl := Option.some.inj hs'
      refine h.reachable_addClient hreach fd ssl false 0 now (fun a ha => ?_) fun a ha => ?_
      · subst ha
        exact hfresh
      · subst ha
        exact hfree
  | addH2 fd ssl streamId now calloc =>
      obtain rfl := Option.some.inj hs'
      refine h.reachable_addClient hreach fd ssl true streamId now (fun a ha => ?_) fun a ha => ?_
      · subst ha
        exact hfresh
      · subst ha
        exact hfree
  | remove fd =>
      obtain ⟨s₁, h₁, -, hreach₁, -⟩ := h.reachable_remove hreach fd
      obtain rfl := Option.some.inj (hs'.symm.trans h₁)
      exact hreach₁
  | updateActivity fd now =>
      rcases updateActivity_spec h fd now with hsame | ⟨a, c, hc, hnew⟩
      · obtain rfl := Option.some.inj (hs'.symm.trans hsame)
        exact hreach
      · obtain rfl := Option.some.inj (hs'.symm.trans hnew)
        exact reachable_of_update hreach hc rfl rfl rfl
  | reaper now =>
      obtain ⟨s₁, h₁, -, hreach₁⟩ := h.reaper_keeps (P := fun s => s.Indexed ∧ s.Reachable)
        (fun s hs fd => by
          obtain ⟨s', hone, hi, hr, -⟩ := hs.1.reachable_remove hs.2 fd
          exact ⟨s', hone, hi, hr⟩) ⟨h, hreach⟩ now
      obtain rfl := Option.some.inj (hs'.symm.trans h₁)
      exact hreach₁
  | addToTopic fd appId topic =>
      rcases addToTopic_spec h fd appId topic with ⟨-, hsame⟩ | ⟨a, c, -, hc, hnew⟩
      · obtain rfl := Option.some.inj (hs'.symm.trans hsame)
        exact hreach
      · obtain rfl := Option.some.inj (hs'.symm.trans hnew)
        dsimp only
        split
        · exact hreach
        · exact reachable_of_update hreach hc rfl rfl (record_fd c _)
  | setUserId fd userId =>
      rcases setUserId_spec h fd userId with ⟨-, hsame⟩ | ⟨a, c, -, -, hc, hnew⟩
      · obtain rfl := Option.some.inj (hs'.symm.trans hsame)
        exact hreach
      · obtain rfl := Option.some.inj (hs'.symm.trans hnew)
        exact reachable_of_update hreach hc (unlinkUser_fdMap a _) rfl rfl

theorem Indexed.tablesAgree (h : s.Indexed) (hreach : s.Reachable) : s.TablesAgree where
  count := by
    rw [h.counted, List.reduceOption_length_eq, List.countP_eq_length_filter]
  entry := by
    intro fd a ha
    obtain ⟨c, hc, hfd⟩ := h.fdMap_fd fd a ha
    exact ⟨h.mem_clients hc, c, hc, hfd⟩
  reached := by
    intro a ha
    obtain ⟨c, hc⟩ := Option.isSome_iff_exists.mp ((h.slots_live a).mp ha)
    exact ⟨c, hc, hreach a c hc⟩
  removed := by
    intro fd
    obtain ⟨s', hs', -, -, hnone⟩ := h.reachable_remove hreach fd
    exact ⟨s', hs', fun a c _ hc => hnone a c hc⟩

/-- A second client on a descriptor puts the first out of reach. -/
theorem Indexed.addClient_not_agree (h : s.Indexed) {fd : Int} (ssl isHttp2 : Bool)
    (streamId now : Nat) {a : Addr} (hnone : s.heap a = none)
    (htaken : ¬ (s.findByFd fd = none ∨ none ∉ s.clients)) :
    ¬ (s.addClient fd ssl isHttp2 streamId now (some a)).2.TablesAgree := by
  intro hagree
  rw [not_or, not_not] at htaken
  obtain ⟨hfind, hslot⟩ := htaken
  obtain ⟨x, hx⟩ := Option.ne_none_iff_exists'.mp hfind
  obtain ⟨d, hd, hdfd, -⟩ := h.findByFd hx
  have hvalid : wsFdIsValid fd = true := hdfd ▸ (h.valid x d hd).1
  obtain ⟨i, c, hc, hnew⟩ := addClient_registers hvalid hslot ssl isHttp2 streamId now a
  have hxa : x ≠ a := by
    rintro rfl
    rw [hnone] at hd
    cases hd
  rw [hnew] at hagree
  have hperm := set_findIdx_perm hc.slot a
  have hmem : some x ∈ s.clients.set i (some a) := by
    rw [← List.reduceOption_mem_iff, hperm.mem_iff]
    exact List.mem_cons_of_mem a (List.reduceOption_mem_iff.mpr (h.mem_clients hd))
  -- the descriptor of the first client leads to the second
  obtain ⟨e, he, hfound⟩ := hagree.reached x hmem
  simp only [Function.update_of_ne hxa] at he
  obtain rfl : d = e := Option.some.inj (hd.symm.trans he)
  rw [hdfd, findByFd_eq hvalid] at hfound
  simp only [Function.update_self, Option.some.injEq] at hfound
  exact hxa hfound.symm

theorem Indexed.not_agree (h : s.Indexed) {op : RegistryOp}
    (hfresh : s.AllocFresh op) (htaken : ¬ s.FreeDescriptor op) :
    ∀ s', s.apply op = some s' → ¬ s'.TablesAgree := by
  intro s' hs'
  cases op with
  | add fd ssl now calloc =>
      obtain rfl := Option.some.inj hs'
      cases calloc with
      | none => exact absurd trivial htaken
      | some a => exact h.addClient_not_agree ssl false 0 now hfresh htaken
  | addH2 fd ssl streamId now calloc =>
      obtain rfl := Option.some.inj hs'
      cases calloc with
      | none => exact absurd trivial htaken
      | some a => exact h.addClient_not_agree ssl true streamId now hfresh htaken
  | remove fd => exact absurd trivial htaken
  | updateActivity fd now => exact absurd trivial htaken
  | reaper now => exact absurd trivial htaken
  | addToTopic fd appId topic => exact absurd trivial htaken
  | setUserId fd userId => exact absurd trivial htaken

/-! ## What the operations leave alone -/

/-- Removing a descriptor takes away its client and leaves the others where they are. -/
theorem Indexed.remove_frame (h : s.Indexed) {s' : HalmosWSRegistry} {fd : Int}
    (hs' : s.wsRegistryRemove fd = some s') :
    s'.findByFd fd = none ∧ (∀ other, other ≠ fd → s'.findByFd other = s.findByFd other) ∧
      ∀ a c, s'.heap a = some c → s.heap a = some c := by
  cases hfind : s.findByFd fd with
  | none =>
      obtain rfl := Option.some.inj ((remove_none hfind).symm.trans hs')
      exact ⟨hfind, fun _ _ => rfl, fun _ _ hc => hc⟩
  | some a =>
      obtain ⟨c, hc, -⟩ := h.findByFd hfind
      obtain rfl := Option.some.inj ((remove_eq hfind hc).symm.trans hs')
      refine ⟨?_, fun other hother => ?_, fun x d hd => ?_⟩
      · simp [HalmosWSRegistry.findByFd]
      · simp [HalmosWSRegistry.findByFd, hother]
      · dsimp only at hd
        by_cases hx : x = a
        · subst hx
          simp at hd
        · rwa [Function.update_of_ne hx] at hd

/-- The operations on a registered client leave it, and every other client, on its descriptor. -/
def OnClient : RegistryOp → Prop
  | .updateActivity _ _ | .addToTopic _ _ _ | .setUserId _ _ => True
  | _ => False

theorem Indexed.onClient_frame (h : s.Indexed) {s' : HalmosWSRegistry} {op : RegistryOp}
    (hop : OnClient op) (hs' : s.apply op = some s') :
    s'.fdMap = s.fdMap ∧ ∀ a c', s'.heap a = some c' → ∃ c, s.heap a = some c ∧ c'.fd = c.fd := by
  have hsame : ∀ a c', s.heap a = some c' → ∃ c, s.heap a = some c ∧ c'.fd = c.fd :=
    fun a c' hc' => ⟨c', hc', rfl⟩
  have hupdate : ∀ (x : Addr) (d d' : HalmosWSClient), s.heap x = some d → d'.fd = d.fd →
      ∀ a c', Function.update s.heap x (some d') a = some c' →
        ∃ c, s.heap a = some c ∧ c'.fd = c.fd := by
    intro x d d' hd hfd a c' hc'
    rcases update_eq_some_iff.mp hc' with ⟨rfl, hnew⟩ | ⟨-, hc'⟩
    · obtain rfl := Option.some.inj hnew
      exact ⟨d, hd, hfd⟩
    · exact hsame a c' hc'
  cases op with
  | updateActivity fd now =>
      rcases updateActivity_spec h fd now with hno | ⟨a, c, hc, hnew⟩
      · obtain rfl := Option.some.inj (hno.symm.trans hs')
        exact ⟨rfl, hsame⟩
      · obtain rfl := Option.some.inj (hnew.symm.trans hs')
        exact ⟨rfl, hupdate a c _ hc rfl⟩
  | addToTopic fd appId topic =>
      rcases addToTopic_spec h fd appId topic with ⟨-, hno⟩ | ⟨a, c, -, hc, hnew⟩
      · obtain rfl := Option.some.inj (hno.symm.trans hs')
        exact ⟨rfl, hsame⟩
      · obtain rfl := Option.some.inj (hnew.symm.trans hs')
        dsimp only
        split
        · exact ⟨rfl, hsame⟩
        · exact ⟨rfl, hupdate a c _ hc (record_fd c _)⟩
  | setUserId fd userId =>
      rcases setUserId_spec h fd userId with ⟨-, hno⟩ | ⟨a, c, -, -, hc, hnew⟩
      · obtain rfl := Option.some.inj (hno.symm.trans hs')
        exact ⟨rfl, hsame⟩
      · obtain rfl := Option.some.inj (hnew.symm.trans hs')
        exact ⟨unlinkUser_fdMap a _, hupdate a c _ hc rfl⟩
  | add fd ssl now calloc => exact hop.elim
  | addH2 fd ssl streamId now calloc => exact hop.elim
  | remove fd => exact hop.elim
  | reaper now => exact hop.elim

/-- What such an operation keeps. -/
structure Kept (s s' : HalmosWSRegistry) : Prop where
  indexed : s'.Indexed
  reachable : s'.Reachable
  fdMap : s'.fdMap = s.fdMap
  heap : ∀ a c', s'.heap a = some c' → ∃ c, s.heap a = some c ∧ c'.fd = c.fd

theorem Indexed.kept (h : s.Indexed) (hreach : s.Reachable) : s.Kept s :=
  ⟨h, hreach, rfl, fun _ c hc => ⟨c, hc, rfl⟩⟩

theorem Kept.trans {s' s'' : HalmosWSRegistry} (h : s.Kept s') (h' : s'.Kept s'') :
    s.Kept s'' where
  indexed := h'.indexed
  reachable := h'.reachable
  fdMap := h'.fdMap.trans h.fdMap
  heap := by
    intro a c'' hc''
    obtain ⟨c', hc', hfd'⟩ := h'.heap a c'' hc''
    obtain ⟨c, hc, hfd⟩ := h.heap a c' hc'
    exact ⟨c, hc, hfd'.trans hfd⟩

theorem Kept.findByFd {s' : HalmosWSRegistry} (h : s.Kept s') (fd : Int) :
    s'.findByFd fd = s.findByFd fd := by
  simp [HalmosWSRegistry.findByFd, h.fdMap]

theorem Indexed.apply_kept (h : s.Indexed) (hreach : s.Reachable) {s' : HalmosWSRegistry}
    {op : RegistryOp} (hop : OnClient op) (hs' : s.apply op = some s') : s.Kept s' := by
  have hquiet : s.AllocFresh op ∧ s.FreeDescriptor op := by
    cases op with
    | updateActivity fd now => exact ⟨trivial, trivial⟩
    | addToTopic fd appId topic => exact ⟨trivial, trivial⟩
    | setUserId fd userId => exact ⟨trivial, trivial⟩
    | add fd ssl now calloc => exact hop.elim
    | addH2 fd ssl streamId now calloc => exact hop.elim
    | remove fd => exact hop.elim
    | reaper now => exact hop.elim
  obtain ⟨s'', hs'', hindexed, hreach'⟩ := h.apply_reachable hreach hquiet.1 hquiet.2
  obtain rfl := Option.some.inj (hs''.symm.trans hs')
  obtain ⟨hfdMap, hheap⟩ := h.onClient_frame hop hs'
  exact ⟨hindexed, hreach', hfdMap, hheap⟩

/-! ## Runs -/

/-- A property of the registry, if no freed memory has been touched. -/
def Holds (P : HalmosWSRegistry → Prop) (s : Option HalmosWSRegistry) : Prop :=
  ∃ r, s = some r ∧ P r

/-- `calloc` returns free addresses. -/
def Allocates (s : Option HalmosWSRegistry) (op : RegistryOp) : Prop :=
  ∀ r, s = some r → r.AllocFresh op

/-- Clients are registered on descriptors that have none. -/
def Separate (s : Option HalmosWSRegistry) (op : RegistryOp) : Prop :=
  ∀ r, s = some r → r.FreeDescriptor op

end HalmosWSRegistry

open HalmosWSRegistry in
/-- **The indexes of the registry** agree in every state of a run, and removing a descriptor
leaves none of its clients behind, if and only if no client is registered on a descriptor that
has one. -/
theorem tables_run (ops : List RegistryOp)
    (h : GuardedRun Allocates applyTo (some wsRegistryInit) ops) :
    (∀ done, done <+: ops → Holds TablesAgree (runSteps applyTo (some wsRegistryInit) done)) ↔
      GuardedRun Separate applyTo (some wsRegistryInit) ops := by
  refine GuardedRun.iff_forall_prefix (Holds fun s => s.Indexed ∧ s.Reachable)
    ?_ ?_ ?_ ⟨_, rfl, init_indexed, fun _ _ h => nomatch h⟩ h
  · rintro s ⟨r, rfl, hr, hreach⟩
    exact ⟨r, rfl, hr.tablesAgree hreach⟩
  · rintro s op ⟨r, rfl, hr, hreach⟩ hfresh hfree
    exact hr.apply_reachable hreach (hfresh r rfl) (hfree r rfl)
  · rintro s op ⟨r, rfl, hr, hreach⟩ hfresh htaken ⟨r', hr', hagree⟩
    refine hr.not_agree (hfresh r rfl) (fun hfree => htaken ?_) r' hr' hagree
    rintro _ ⟨⟩
    exact hfree

open HalmosWSRegistry in
/-- A client over HTTP/1.1 and two streams of another connection. -/
theorem tables_run_three :
    let ops : List RegistryOp :=
      [.add 5 false 100 (some 0), .addH2 6 true 1 100 (some 1), .remove 5, .add 5 false 101 (some 0)]
    ∀ done, done <+: ops → Holds TablesAgree (runSteps applyTo (some wsRegistryInit) done) := by
  intro ops
  refine (tables_run ops ?_).mpr ?_
  all_goals
    refine ⟨?_, ?_, ?_, ?_, trivial⟩
    all_goals
      intro r hr
      obtain rfl := Option.some.inj hr
      first
        | exact trivial
        | exact rfl
        | exact Or.inl rfl

open HalmosWSRegistry in
/-- Two streams on one descriptor: removing the descriptor leaves the first one's client in its
slot. -/
theorem stream_outlives_descriptor :
    let ops : List RegistryOp :=
      [.addH2 5 true 1 100 (some 0), .addH2 5 true 3 100 (some 1), .remove 5]
    (runSteps applyTo (some wsRegistryInit) ops).map (fun s =>
        (s.currentCount, s.clients.head?, (s.heap 0).map HalmosWSClient.fd, s.fdMap 5))
      = some (1, some (some 0), some 5, none) := by
  decide +kernel

end Halmos.WebSocket
