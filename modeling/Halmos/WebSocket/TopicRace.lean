import Halmos.WebSocket.Subscriptions

set_option autoImplicit false

/-! # Subscribing while clients leave

`ws_registry_add_to_topic` takes four locks, one after the other, and carries the client it has
looked up from section to section; `ws_registry_remove` holds `registry_lock` throughout and
takes the client out of its topics under `hash_lock`. Here any number of threads make such calls,
and one step is one critical section. A thread whose next lock is taken does not move.

As long as no call of `ws_registry_add_to_topic` still carries a client when its removal is done
with the topics, every node in a bucket is one of a registered client and no freed client is
touched (`race_run`). The sections of a call that runs alone are the call of the sequential model
(`addToTopic_alone`, `remove_alone`).
-/

namespace Halmos.WebSocket

/-- Where a thread is in a call: the section it enters next, with what it carries. `idle` is a
thread in none of them. -/
inductive CallPhase where
  | idle
  | bucket (a : Addr) (fullKey : List UInt8)
  | link (a : Addr) (fullKey : List UInt8)
  | record (a : Addr) (fullKey : List UInt8)
  | deactivate (fd : Int) (a : Addr)
  | unname (fd : Int) (a : Addr)
  | enterTopics (fd : Int) (a : Addr)
  | unlinkTopics (fd : Int) (a : Addr) (j : Nat)
  | release (fd : Int) (a : Addr)
  deriving DecidableEq, Repr

/-- The client a call of `ws_registry_add_to_topic` carries. -/
def CallPhase.carries : CallPhase → Option Addr
  | .bucket a _ | .link a _ | .record a _ => some a
  | _ => none

/-- The descriptor and the client a call of `ws_registry_remove` removes. -/
def CallPhase.removes : CallPhase → Option (Int × Addr)
  | .deactivate fd a | .unname fd a | .enterTopics fd a | .unlinkTopics fd a _ | .release fd a =>
      some (fd, a)
  | _ => none

/-- The registry, the holders of its two locks that are held from one section to another, and the
threads. -/
structure TopicRace where
  registry : HalmosWSRegistry
  registryLock : Option Nat
  hashLock : Option Nat
  phase : Nat → CallPhase

/-- A thread that is in no call begins one, or a thread in a call moves on. -/
inductive RaceEvent where
  | callAdd (tid : Nat) (fd : Int) (ssl : Bool) (now : Nat) (calloc : Option Addr)
  | callAddToTopic (tid : Nat) (fd : Int) (appId topic : List UInt8)
  | callRemove (tid : Nat) (fd : Int)
  | advance (tid : Nat)
  deriving DecidableEq, Repr

namespace TopicRace

def init : TopicRace := ⟨wsRegistryInit, none, none, fun _ => .idle⟩

/-- The thread is at another place of its call. -/
def goto (s : TopicRace) (tid : Nat) (p : CallPhase) : TopicRace :=
  { s with phase := Function.update s.phase tid p }

/-- The next section of a thread. `none` is an access to a freed client. -/
def advance (s : TopicRace) (tid : Nat) : Option TopicRace :=
  let r := s.registry
  match s.phase tid with
  | .idle => some s
  -- `ws_registry_add_to_topic`, behind the lookup
  | .bucket a fullKey =>
      if s.hashLock ≠ none then some s
      else
        let buckets := Function.update r.buckets (hashTopic fullKey) (some (r.bucketOf fullKey))
        some ({ s with registry := { r with buckets := buckets } }.goto tid (.link a fullKey))
  | .link a fullKey =>
      let b := r.bucketOf fullKey
      if a ∈ b.subscribers then some (s.goto tid .idle)
      else
        let buckets := Function.update r.buckets (hashTopic fullKey)
          (some { b with subscribers := a :: b.subscribers })
        some ({ s with registry := { r with buckets := buckets } }.goto tid (.record a fullKey))
  | .record a fullKey =>
      match r.heap a with
      | none => none
      | some c =>
          let heap := Function.update r.heap a (some (c.record fullKey))
          some ({ s with registry := { r with heap := heap } }.goto tid .idle)
  -- `ws_registry_remove`, behind the lookup
  | .deactivate fd a =>
      match r.heap a with
      | none => none
      | some c =>
          let heap := Function.update r.heap a (some { c with isActive := false })
          some ({ s with registry := { r with heap := heap } }.goto tid (.unname fd a))
  | .unname fd a =>
      match r.heap a with
      | none => none
      | some c =>
          some ({ s with registry := r.unlinkUser a c.userId }.goto tid (.enterTopics fd a))
  | .enterTopics fd a =>
      if s.hashLock ≠ none then some s
      else some ({ s with hashLock := some tid }.goto tid (.unlinkTopics fd a 0))
  | .unlinkTopics fd a j =>
      match r.heap a with
      | none => none
      | some c =>
          -- `topic_count` is read again in each round
          match c.subscribedTopics[j]? with
          | some topic =>
              let buckets := HalmosWSRegistry.unlinkTopic a r.buckets topic
              some ({ s with registry := { r with buckets := buckets } }.goto tid
                (.unlinkTopics fd a (j + 1)))
          | none => some ({ s with hashLock := none }.goto tid (.release fd a))
  | .release fd a =>
      match r.heap a with
      | none => none
      | some _ =>
          some ({ s with
            registryLock := none
            registry := { r with
              clients := HalmosWSRegistry.clearSlot r.clients a
              fdMap := Function.update r.fdMap fd none
              currentCount := r.currentCount - 1
              heap := Function.update r.heap a none } }.goto tid .idle)

/-- The first section of a call, under `registry_lock`. -/
def call (s : TopicRace) : RaceEvent → Option TopicRace
  | .callAdd _ fd ssl now calloc =>
      some { s with registry := (s.registry.wsRegistryAdd fd ssl now calloc).2 }
  | .callAddToTopic tid fd appId topic =>
      match s.registry.findByFd fd with
      | none => some s
      | some a =>
          match s.registry.heap a with
          | none => none
          | some c =>
              if c.isActive = false then some s
              else some (s.goto tid (.bucket a (subscribeKey appId topic)))
  | .callRemove tid fd =>
      match s.registry.findByFd fd with
      | none => some s
      | some a => some ({ s with registryLock := some tid }.goto tid (.deactivate fd a))
  | .advance _ => some s

/-- The thread of an event. -/
def tidOf : RaceEvent → Nat
  | .callAdd tid _ _ _ _ | .callAddToTopic tid _ _ _ | .callRemove tid _ | .advance tid => tid

/-- One event. A call begins if its thread is in no other and `registry_lock` is free. -/
def step (s : TopicRace) : RaceEvent → Option TopicRace
  | .advance tid => s.advance tid
  | e => if s.phase (tidOf e) = .idle ∧ s.registryLock = none then s.call e else some s

/-- No step is taken once freed memory has been touched. -/
def stepTo (s : Option TopicRace) (e : RaceEvent) : Option TopicRace := s.bind (step · e)

/-- What is asked of a step. `calloc` returns free addresses; a topic to be recorded finds room;
and when a removal is done with the topics, no call carries the client. -/
def Guarded (s : TopicRace) : RaceEvent → Prop
  | .callAdd _ _ _ _ calloc => ∀ a, calloc = some a → s.registry.heap a = none
  | .advance tid =>
      match s.phase tid with
      | .record a _ => ∀ c, s.registry.heap a = some c →
          c.subscribedTopics.length < maxTopicsPerUser
      | .unlinkTopics _ a j => ∀ c, s.registry.heap a = some c →
          c.subscribedTopics.length ≤ j → ∀ other, (s.phase other).carries ≠ some a
      | _ => True
  | _ => True

end TopicRace

/-- The client and the topic a call is about to record. -/
def CallPhase.records : CallPhase → Option (Addr × List UInt8)
  | .record a fullKey => some (a, fullKey)
  | _ => none

/-- The client a removal takes out of its topics, and how many are done. -/
def CallPhase.unlinks : CallPhase → Option (Addr × Nat)
  | .unlinkTopics _ a j => some (a, j)
  | _ => none

/-- The client a removal is about to free. -/
def CallPhase.releases : CallPhase → Option Addr
  | .release _ a => some a
  | _ => none

namespace TopicRace

open HalmosWSRegistry

/-! ## The nodes -/

/-- Every node is accounted for: its client has recorded a topic of the bucket that a removal has
not come to yet, or is about to. -/
def Accounted (s : TopicRace) (idx : Nat) (a : Addr) : Prop :=
  (∃ tid fullKey, (s.phase tid).records = some (a, fullKey) ∧ hashTopic fullKey = idx) ∨
    ∃ c i topic, s.registry.heap a = some c ∧ c.subscribedTopics[i]? = some topic ∧
      hashTopic topic = idx ∧ ∀ tid j, (s.phase tid).unlinks = some (a, j) → j ≤ i

/-- The nodes in the buckets, and what the calls under way know of them. -/
structure Nodes (s : TopicRace) : Prop where
  nodup : ∀ idx, (chain s.registry.buckets idx).Nodup
  accounted : ∀ idx a, a ∈ chain s.registry.buckets idx → s.Accounted idx a
  unlinked : ∀ tid a j, (s.phase tid).unlinks = some (a, j) →
    ∃ c, s.registry.heap a = some c ∧ j ≤ c.subscribedTopics.length
  released : ∀ tid a, (s.phase tid).releases = some a →
    (∀ other, (s.phase other).carries ≠ some a) ∧ ∀ idx, a ∉ chain s.registry.buckets idx

/-- The tables, the calls and the nodes agree. -/
structure Safe (s : TopicRace) : Prop where
  tabled : s.registry.Tabled
  locked : ∀ tid fd a, (s.phase tid).removes = some (fd, a) →
    s.registryLock = some tid ∧ s.registry.fdMap fd = some a
  carried : ∀ tid a, (s.phase tid).carries = some a → (s.registry.heap a).isSome
  nodes : s.Nodes

variable {s s' : TopicRace} {tid : Nat} {p : CallPhase}

theorem init_safe : init.Safe where
  tabled := init_indexed.toTabled
  locked := fun _ _ _ h => nomatch h
  carried := fun _ _ h => nomatch h
  nodes := {
    nodup := fun _ => List.nodup_nil
    accounted := fun _ _ h => absurd h List.not_mem_nil
    unlinked := fun _ _ _ h => nomatch h
    released := fun _ _ h => nomatch h }

/-- A node is one of a client that is there. -/
theorem Safe.node_live (h : s.Safe) {idx : Nat} {a : Addr}
    (ha : a ∈ chain s.registry.buckets idx) : (s.registry.heap a).isSome := by
  rcases h.nodes.accounted idx a ha with ⟨tid, fullKey, hrec, -⟩ | ⟨c, i, topic, hc, -⟩
  · refine h.carried tid a ?_
    cases hp : s.phase tid <;> simp_all [CallPhase.records, CallPhase.carries]
  · rw [hc]
    rfl

/-- A thread that moves on within its call changes what concerns its phase only. -/
theorem phase_of_update {α : Type} (f : CallPhase → α)
    (hphase : s'.phase = Function.update s.phase tid p) (hp : f p = f (s.phase tid)) (t : Nat) :
    f (s'.phase t) = f (s.phase t) := by
  rw [hphase]
  by_cases ht : t = tid
  · subst ht
    rw [Function.update_self, hp]
  · rw [Function.update_of_ne ht]

/-- What concerns some phase is of the new phase of the thread, or was there before. -/
theorem of_phase_update {α : Type} (f : CallPhase → Option α)
    (hphase : s'.phase = Function.update s.phase tid p) {t : Nat} {v : α}
    (ht : f (s'.phase t) = some v) : t = tid ∧ f p = some v ∨ t ≠ tid ∧ f (s.phase t) = some v := by
  rw [hphase] at ht
  by_cases htid : t = tid
  · subst htid
    rw [Function.update_self] at ht
    exact .inl ⟨rfl, ht⟩
  · rw [Function.update_of_ne htid] at ht
    exact .inr ⟨htid, ht⟩

theorem carries_of_update (hphase : s'.phase = Function.update s.phase tid p)
    (hcarries : ∀ a, p.carries = some a → (s.phase tid).carries = some a) (t : Nat) (a : Addr)
    (ht : (s'.phase t).carries = some a) : (s.phase t).carries = some a := by
  rcases of_phase_update CallPhase.carries hphase ht with ⟨rfl, ht⟩ | ⟨-, ht⟩
  · exact hcarries a ht
  · exact ht

/-- A node stays accounted for as long as topics are only added, none is recorded without being
added, and no more are unlinked. -/
theorem Accounted.mono {idx : Nat} {a : Addr} (h : s.Accounted idx a)
    (htopics : ∀ c, s.registry.heap a = some c →
      ∃ c', s'.registry.heap a = some c' ∧ c.subscribedTopics <+: c'.subscribedTopics)
    (hrecords : ∀ t fullKey, (s.phase t).records = some (a, fullKey) →
      s'.Accounted (hashTopic fullKey) a)
    (hunlinks : ∀ t j, (s'.phase t).unlinks = some (a, j) →
      j = 0 ∨ (s.phase t).unlinks = some (a, j)) : s'.Accounted idx a := by
  rcases h with ⟨t, fullKey, hrec, hidx⟩ | ⟨c, i, topic, hc, hi, hidx, hj⟩
  · exact hidx ▸ hrecords t fullKey hrec
  · obtain ⟨c', hc', hpre⟩ := htopics c hc
    obtain ⟨hlt, hget⟩ := List.getElem?_eq_some_iff.mp hi
    have hi' := (List.prefix_iff_getElem?.mp hpre i hlt).trans (congrArg some hget)
    refine .inr ⟨c', i, topic, hc', hi', hidx, fun t j ht => ?_⟩
    rcases hunlinks t j ht with rfl | hbefore
    · exact Nat.zero_le i
    · exact hj t j hbefore

/-- Steps that leave the chains and the recorded topics alone. -/
theorem Nodes.keep (h : s.Nodes)
    (hchain : ∀ idx, chain s'.registry.buckets idx = chain s.registry.buckets idx)
    (htopics : ∀ a c, s.registry.heap a = some c →
      ∃ c', s'.registry.heap a = some c' ∧ c'.subscribedTopics = c.subscribedTopics)
    (hrecords : ∀ t, (s'.phase t).records = (s.phase t).records)
    (hunlinks : ∀ t, (s'.phase t).unlinks = (s.phase t).unlinks)
    (hreleases : ∀ t, (s'.phase t).releases = (s.phase t).releases)
    (hcarries : ∀ t a, (s.phase t).releases = some a →
      ∀ other, (s'.phase other).carries ≠ some a) : s'.Nodes where
  nodup := fun idx => by
    rw [hchain]
    exact h.nodup idx
  accounted := by
    intro idx a ha
    rw [hchain] at ha
    refine (h.accounted idx a ha).mono (fun c hc => ?_) (fun t fullKey hrec => ?_)
      (fun t j ht => .inr (hunlinks t ▸ ht))
    · obtain ⟨c', hc', heq⟩ := htopics a c hc
      exact ⟨c', hc', heq ▸ List.prefix_rfl⟩
    · exact .inl ⟨t, fullKey, (hrecords t).trans hrec, rfl⟩
  unlinked := by
    intro t a j ht
    obtain ⟨c, hc, hle⟩ := h.unlinked t a j (hunlinks t ▸ ht)
    obtain ⟨c', hc', heq⟩ := htopics a c hc
    exact ⟨c', hc', heq ▸ hle⟩
  released := by
    intro t a ht
    rw [hreleases] at ht
    refine ⟨hcarries t a ht, fun idx => ?_⟩
    rw [hchain]
    exact (h.released t a ht).2 idx

/-- Steps within a call that leave the descriptors alone, and all clients where they are. -/
theorem Safe.keep (h : s.Safe) (hphase : s'.phase = Function.update s.phase tid p)
    (hlock : s'.registryLock = s.registryLock)
    (hfdMap : s'.registry.fdMap = s.registry.fdMap)
    (hlive : ∀ a, (s.registry.heap a).isSome → (s'.registry.heap a).isSome)
    (hremoves : p.removes = (s.phase tid).removes)
    (hcarries : ∀ a, p.carries = some a → (s.phase tid).carries = some a)
    (htabled : s'.registry.Tabled) (hnodes : s'.Nodes) : s'.Safe where
  tabled := htabled
  locked := by
    intro t fd a ht
    rw [phase_of_update CallPhase.removes hphase hremoves] at ht
    rw [hlock, hfdMap]
    exact h.locked t fd a ht
  carried := by
    intro t a ht
    exact hlive a (h.carried t a (carries_of_update hphase hcarries t a ht))
  nodes := hnodes

/-- A client that is about to be freed stays out of the chains, and no call starts to carry it. -/
theorem Nodes.released_keep (h : s.Nodes) (hphase : s'.phase = Function.update s.phase tid p)
    (hreleases : p.releases = (s.phase tid).releases)
    (hcarries : ∀ a, p.carries = some a → (s.phase tid).carries = some a)
    (hsub : ∀ idx, chain s'.registry.buckets idx ⊆ chain s.registry.buckets idx) (t : Nat) (a : Addr)
    (ht : (s'.phase t).releases = some a) :
    (∀ other, (s'.phase other).carries ≠ some a) ∧
      ∀ idx, a ∉ chain s'.registry.buckets idx := by
  rw [phase_of_update CallPhase.releases hphase hreleases] at ht
  obtain ⟨hnone, hout⟩ := h.released t a ht
  exact ⟨fun other hother => hnone other (carries_of_update hphase hcarries other a hother),
    fun idx hmem => hout idx (hsub idx hmem)⟩

/-- A step within a call that changes no chain and no recorded topic. -/
theorem Safe.pass (h : s.Safe) (hphase : s'.phase = Function.update s.phase tid p)
    (hlock : s'.registryLock = s.registryLock)
    (hfdMap : s'.registry.fdMap = s.registry.fdMap)
    (hchain : ∀ idx, chain s'.registry.buckets idx = chain s.registry.buckets idx)
    (htopics : ∀ a c, s.registry.heap a = some c →
      ∃ c', s'.registry.heap a = some c' ∧ c'.subscribedTopics = c.subscribedTopics)
    (hremoves : p.removes = (s.phase tid).removes)
    (hrecords : p.records = (s.phase tid).records)
    (hunlinks : p.unlinks = (s.phase tid).unlinks)
    (hreleases : p.releases = (s.phase tid).releases)
    (hcarries : ∀ a, p.carries = some a → (s.phase tid).carries = some a)
    (htabled : s'.registry.Tabled) : s'.Safe := by
  have hlive : ∀ a, (s.registry.heap a).isSome → (s'.registry.heap a).isSome := by
    intro a ha
    obtain ⟨c, hc⟩ := Option.isSome_iff_exists.mp ha
    obtain ⟨c', hc', -⟩ := htopics a c hc
    rw [hc']
    rfl
  refine h.keep hphase hlock hfdMap hlive hremoves hcarries htabled ?_
  refine h.nodes.keep hchain htopics (phase_of_update _ hphase hrecords)
    (phase_of_update _ hphase hunlinks) (phase_of_update _ hphase hreleases) ?_
  intro t a ht other hother
  exact (h.nodes.released t a ht).1 other (carries_of_update hphase hcarries other a hother)

/-! ## The sections of `ws_registry_add_to_topic` -/

variable {a : Addr} {fullKey : List UInt8} {fd : Int} {j : Nat}

theorem Safe.bucket (h : s.Safe) (hp : s.phase tid = .bucket a fullKey) :
    ∃ s', s.advance tid = some s' ∧ s'.Safe := by
  unfold TopicRace.advance
  simp only [hp]
  split
  · exact ⟨s, rfl, h⟩
  · refine ⟨_, rfl, h.pass rfl rfl rfl (chain_update_bucketOf fullKey)
      (fun _ c hc => ⟨c, hc, rfl⟩) ?_ ?_ ?_ ?_ ?_ (h.tabled.of_eq rfl rfl rfl rfl)⟩
    all_goals
      rw [hp]
    all_goals first
      | rfl
      | exact fun _ => id

/-- A call that finds the client in the bucket is done; one that does not adds a node, and has yet
to record the topic. -/
theorem Safe.link (h : s.Safe) (hp : s.phase tid = .link a fullKey) :
    ∃ s', s.advance tid = some s' ∧ s'.Safe := by
  unfold TopicRace.advance
  simp only [hp]
  split
  · refine ⟨_, rfl, h.pass rfl rfl rfl (fun _ => rfl) (fun _ c hc => ⟨c, hc, rfl⟩)
      ?_ ?_ ?_ ?_ ?_ h.tabled⟩
    all_goals
      rw [hp]
    all_goals first
      | rfl
      | exact fun _ hno => nomatch hno
  · next hnew =>
      rw [bucketOf_subscribers] at hnew
      set s' : TopicRace := TopicRace.goto _ tid (.record a fullKey) with hs'
      have hphase : s'.phase = Function.update s.phase tid (.record a fullKey) := rfl
      have hchain : ∀ idx, chain s'.registry.buckets idx
          = if idx = hashTopic fullKey then a :: chain s.registry.buckets idx
            else chain s.registry.buckets idx := by
        intro idx
        show chain (Function.update _ _ _) idx = _
        rw [chain_update, bucketOf_subscribers]
        split
        · next hidx => rw [hidx]
        · rfl
      have hunlinks := phase_of_update CallPhase.unlinks hphase (by rw [hp]; rfl)
      have hcarries : ∀ x, (CallPhase.record a fullKey).carries = some x →
          (s.phase tid).carries = some x := by
        rw [hp]
        exact fun _ => id
      refine ⟨s', rfl, h.keep hphase rfl rfl (fun _ => id) (by rw [hp]; rfl) hcarries
        (h.tabled.of_eq rfl rfl rfl rfl) ⟨?_, ?_, ?_, ?_⟩⟩
      · intro idx
        rw [hchain]
        split
        · next hidx => exact List.nodup_cons.mpr ⟨hidx ▸ hnew, h.nodes.nodup idx⟩
        · exact h.nodes.nodup idx
      · intro idx x hx
        have hold : x ∈ chain s.registry.buckets idx → s'.Accounted idx x := by
          intro hx
          refine (h.nodes.accounted idx x hx).mono (fun c hc => ⟨c, hc, List.prefix_rfl⟩)
            (fun t key hrec => ?_) (fun t j ht => .inr (hunlinks t ▸ ht))
          refine .inl ⟨t, key, ?_, rfl⟩
          have ht : t ≠ tid := by
            rintro rfl
            rw [hp] at hrec
            cases hrec
          rw [hphase, Function.update_of_ne ht, hrec]
        rw [hchain] at hx
        split at hx
        · next hidx =>
            rcases List.mem_cons.mp hx with rfl | hx
            · exact .inl ⟨tid, fullKey, by rw [hphase, Function.update_self]; rfl, hidx.symm⟩
            · exact hold hx
        · exact hold hx
      · intro t x j ht
        exact h.nodes.unlinked t x j (hunlinks t ▸ ht)
      · intro t x ht
        rw [phase_of_update CallPhase.releases hphase (by rw [hp]; rfl)] at ht
        obtain ⟨hnone, hout⟩ := h.nodes.released t x ht
        refine ⟨fun other hother => hnone other (carries_of_update hphase hcarries other x hother),
          fun idx hmem => ?_⟩
        rw [hchain] at hmem
        split at hmem
        · rcases List.mem_cons.mp hmem with rfl | hmem
          · exact hnone tid (by rw [hp]; rfl)
          · exact hout idx hmem
        · exact hout idx hmem

/-- What a client records is added to its topics, if there is room. -/
theorem record_subscribedTopics {c : HalmosWSClient} (fullKey : List UInt8)
    (hroom : c.subscribedTopics.length < maxTopicsPerUser) :
    (c.record fullKey).subscribedTopics = c.subscribedTopics ++ [fullKey] := by
  unfold HalmosWSClient.record
  rw [if_pos hroom]

/-- The node of a call that records its topic is accounted for by the topic. -/
theorem Safe.record (h : s.Safe) (hp : s.phase tid = .record a fullKey)
    (hroom : ∀ c, s.registry.heap a = some c → c.subscribedTopics.length < maxTopicsPerUser) :
    ∃ s', s.advance tid = some s' ∧ s'.Safe := by
  obtain ⟨c, hc⟩ := Option.isSome_iff_exists.mp (h.carried tid a (by rw [hp]; rfl))
  have htopics := record_subscribedTopics fullKey (hroom c hc)
  unfold TopicRace.advance
  simp only [hp, hc]
  set s' : TopicRace := TopicRace.goto _ tid .idle with hs'
  have hphase : s'.phase = Function.update s.phase tid .idle := rfl
  have hheap : s'.registry.heap = Function.update s.registry.heap a (some (c.record fullKey)) := rfl
  have hgrow : ∀ x d, s.registry.heap x = some d → ∃ d', s'.registry.heap x = some d' ∧
      d.subscribedTopics <+: d'.subscribedTopics := by
    intro x d hd
    rw [hheap]
    by_cases hx : x = a
    · subst hx
      obtain rfl : d = c := Option.some.inj (hd.symm.trans hc)
      exact ⟨_, Function.update_self .., htopics ▸ List.prefix_append _ _⟩
    · exact ⟨d, (Function.update_of_ne hx _ _).trans hd, List.prefix_rfl⟩
  have hunlinks := phase_of_update CallPhase.unlinks hphase (by rw [hp]; rfl)
  have hcarries : ∀ x, CallPhase.idle.carries = some x → (s.phase tid).carries = some x :=
    fun _ hno => nomatch hno
  refine ⟨s', rfl, h.keep hphase rfl rfl (fun x hx => ?_) (by rw [hp]; rfl) hcarries
    (h.tabled.of_update hc rfl rfl rfl hheap (record_fd c fullKey)) ⟨h.nodes.nodup, ?_, ?_, ?_⟩⟩
  · obtain ⟨d, hd⟩ := Option.isSome_iff_exists.mp hx
    obtain ⟨d', hd', -⟩ := hgrow x d hd
    rw [hd']
    rfl
  · intro idx x hx
    refine (h.nodes.accounted idx x hx).mono (hgrow x) (fun t key hrec => ?_)
      (fun t j ht => .inr (hunlinks t ▸ ht))
    by_cases ht : t = tid
    · subst ht
      rw [hp] at hrec
      obtain ⟨rfl, rfl⟩ : a = x ∧ fullKey = key := by simpa [CallPhase.records] using hrec
      refine .inr ⟨c.record fullKey, c.subscribedTopics.length, fullKey, ?_, ?_, rfl, ?_⟩
      · rw [hheap, Function.update_self]
      · rw [htopics, List.getElem?_concat_length]
      · intro t j ht
        obtain ⟨d, hd, hle⟩ := h.nodes.unlinked t a j (hunlinks t ▸ ht)
        obtain rfl : d = c := Option.some.inj (hd.symm.trans hc)
        exact hle
    · refine .inl ⟨t, key, ?_, rfl⟩
      rw [hphase, Function.update_of_ne ht, hrec]
  · intro t x j ht
    obtain ⟨d, hd, hle⟩ := h.nodes.unlinked t x j (hunlinks t ▸ ht)
    obtain ⟨d', hd', hpre⟩ := hgrow x d hd
    exact ⟨d', hd', hle.trans hpre.length_le⟩
  · exact h.nodes.released_keep hphase (by rw [hp]; rfl) hcarries fun _ => List.Subset.refl _

/-! ## The sections of `ws_registry_remove` -/

/-- The client a call removes is there, under its descriptor. -/
theorem Safe.removed_live (h : s.Safe) (hp : (s.phase tid).removes = some (fd, a)) :
    ∃ c, s.registry.heap a = some c ∧ c.fd = fd :=
  h.tabled.fdMap_fd fd a (h.locked tid fd a hp).2

/-- Only one thread is in a call that removes. -/
theorem Safe.removes_unique (h : s.Safe) {other : Nat} {fd' : Int} {a' : Addr}
    (hp : (s.phase tid).removes = some (fd, a)) (hother : (s.phase other).removes = some (fd', a')) :
    other = tid :=
  Option.some.inj ((h.locked other fd' a' hother).1.symm.trans (h.locked tid fd a hp).1)

theorem removes_of_unlinks (hp : p.unlinks = some (a, j)) : ∃ fd, p.removes = some (fd, a) := by
  cases p with
  | unlinkTopics fd x i =>
      obtain ⟨rfl, rfl⟩ : x = a ∧ i = j := by simpa [CallPhase.unlinks] using hp
      exact ⟨fd, rfl⟩
  | _ => cases hp

theorem removes_of_releases (hp : p.releases = some a) : ∃ fd, p.removes = some (fd, a) := by
  cases p with
  | release fd x =>
      obtain rfl : x = a := Option.some.inj hp
      exact ⟨fd, rfl⟩
  | _ => cases hp

theorem carries_of_records (hp : p.records = some (a, fullKey)) : p.carries = some a := by
  cases p with
  | record x key =>
      obtain ⟨rfl, rfl⟩ : x = a ∧ key = fullKey := by simpa [CallPhase.records] using hp
      rfl
  | _ => cases hp

theorem Safe.deactivate (h : s.Safe) (hp : s.phase tid = .deactivate fd a) :
    ∃ s', s.advance tid = some s' ∧ s'.Safe := by
  obtain ⟨c, hc, -⟩ := h.removed_live (by rw [hp]; rfl : (s.phase tid).removes = some (fd, a))
  unfold TopicRace.advance
  simp only [hp, hc]
  refine ⟨_, rfl, h.pass rfl rfl rfl (fun _ => rfl) (fun x d hd => ?_) ?_ ?_ ?_ ?_ ?_
    (h.tabled.of_update hc rfl rfl rfl rfl rfl)⟩
  · by_cases hx : x = a
    · subst hx
      obtain rfl : d = c := Option.some.inj (hd.symm.trans hc)
      exact ⟨_, Function.update_self .., rfl⟩
    · exact ⟨d, (Function.update_of_ne hx _ _).trans hd, rfl⟩
  all_goals
    rw [hp]
  all_goals first
    | rfl
    | exact fun _ => id

theorem Safe.unname (h : s.Safe) (hp : s.phase tid = .unname fd a) :
    ∃ s', s.advance tid = some s' ∧ s'.Safe := by
  obtain ⟨c, hc, -⟩ := h.removed_live (by rw [hp]; rfl : (s.phase tid).removes = some (fd, a))
  unfold TopicRace.advance
  simp only [hp, hc]
  refine ⟨_, rfl, h.pass rfl rfl (unlinkUser_fdMap a _)
    (fun idx => congrArg (chain · idx) (unlinkUser_buckets a _))
    (fun x d hd => ⟨d, (congrFun (unlinkUser_heap a _) x).trans hd, rfl⟩) ?_ ?_ ?_ ?_ ?_
    (h.tabled.of_eq (unlinkUser_clients a _) (unlinkUser_fdMap a _) (unlinkUser_currentCount a _)
      (unlinkUser_heap a _))⟩
  all_goals
    rw [hp]
  all_goals first
    | rfl
    | exact fun _ => id

/-- With none of its topics done, every node of the client may be accounted for by any of them. -/
theorem Safe.enterTopics (h : s.Safe) (hp : s.phase tid = .enterTopics fd a) :
    ∃ s', s.advance tid = some s' ∧ s'.Safe := by
  obtain ⟨c, hc, -⟩ := h.removed_live (by rw [hp]; rfl : (s.phase tid).removes = some (fd, a))
  unfold TopicRace.advance
  simp only [hp]
  split
  · exact ⟨s, rfl, h⟩
  · set s' : TopicRace := TopicRace.goto _ tid (.unlinkTopics fd a 0) with hs'
    have hphase : s'.phase = Function.update s.phase tid (.unlinkTopics fd a 0) := rfl
    have hcarries : ∀ x, (CallPhase.unlinkTopics fd a 0).carries = some x →
        (s.phase tid).carries = some x := fun _ hno => nomatch hno
    have hrecords := phase_of_update CallPhase.records hphase (by rw [hp]; rfl)
    have hunlinks : ∀ t x j, (s'.phase t).unlinks = some (x, j) →
        x = a ∧ j = 0 ∨ (s.phase t).unlinks = some (x, j) := by
      intro t x j ht
      rcases of_phase_update CallPhase.unlinks hphase ht with ⟨-, ht⟩ | ⟨-, ht⟩
      · obtain ⟨rfl, rfl⟩ : a = x ∧ 0 = j := by simpa [CallPhase.unlinks] using ht
        exact .inl ⟨rfl, rfl⟩
      · exact .inr ht
    refine ⟨s', rfl, h.keep hphase rfl rfl (fun _ => id) (by rw [hp]; rfl) hcarries
      h.tabled ⟨h.nodes.nodup, ?_, ?_, ?_⟩⟩
    · intro idx x hx
      refine (h.nodes.accounted idx x hx).mono (fun d hd => ⟨d, hd, List.prefix_rfl⟩)
        (fun t key hrec => .inl ⟨t, key, (hrecords t).trans hrec, rfl⟩) (fun t j ht => ?_)
      exact (hunlinks t x j ht).imp And.right id
    · intro t x j ht
      rcases hunlinks t x j ht with ⟨rfl, rfl⟩ | ht
      · exact ⟨c, hc, Nat.zero_le _⟩
      · exact h.nodes.unlinked t x j ht
    · exact h.nodes.released_keep hphase (by rw [hp]; rfl) hcarries fun _ => List.Subset.refl _

/-- One topic more is done: the client has no node left in its bucket. -/
theorem Safe.unlinkTopic (h : s.Safe) (hp : s.phase tid = .unlinkTopics fd a j)
    {c : HalmosWSClient} (hc : s.registry.heap a = some c) {topic : List UInt8}
    (htopic : c.subscribedTopics[j]? = some topic) :
    ∃ s', s.advance tid = some s' ∧ s'.Safe := by
  unfold TopicRace.advance
  simp only [hp, hc, htopic]
  set s' : TopicRace := TopicRace.goto _ tid (.unlinkTopics fd a (j + 1)) with hs'
  have hphase : s'.phase = Function.update s.phase tid (.unlinkTopics fd a (j + 1)) := rfl
  have hchain : ∀ idx, chain s'.registry.buckets idx
      = if idx = hashTopic topic then (chain s.registry.buckets idx).erase a
        else chain s.registry.buckets idx := fun idx => unlinkTopic_chain a _ topic idx
  have hsub : ∀ idx, (chain s'.registry.buckets idx).Sublist (chain s.registry.buckets idx) := by
    intro idx
    rw [hchain]
    split
    · exact List.erase_sublist
    · exact List.Sublist.refl _
  have hcarries : ∀ x, (CallPhase.unlinkTopics fd a (j + 1)).carries = some x →
      (s.phase tid).carries = some x := fun _ hno => nomatch hno
  have hrecords := phase_of_update CallPhase.records hphase (by rw [hp]; rfl)
  have hbefore : (s.phase tid).unlinks = some (a, j) := by
    rw [hp]
    rfl
  have hunlinks : ∀ t x k, (s'.phase t).unlinks = some (x, k) →
      x = a ∧ k = j + 1 ∨ (s.phase t).unlinks = some (x, k) := by
    intro t x k ht
    rcases of_phase_update CallPhase.unlinks hphase ht with ⟨-, ht⟩ | ⟨-, ht⟩
    · obtain ⟨rfl, rfl⟩ : a = x ∧ j + 1 = k := by simpa [CallPhase.unlinks] using ht
      exact .inl ⟨rfl, rfl⟩
    · exact .inr ht
  refine ⟨s', rfl, h.keep hphase rfl rfl (fun _ => id) (by rw [hp]; rfl) hcarries
    (h.tabled.of_eq rfl rfl rfl rfl) ⟨fun idx => (hsub idx).nodup (h.nodes.nodup idx), ?_, ?_, ?_⟩⟩
  · intro idx x hx
    rcases h.nodes.accounted idx x ((hsub idx).subset hx) with
      ⟨t, key, hrec, hidx⟩ | ⟨d, i, topic', hd, hi, hidx, hk⟩
    · exact .inl ⟨t, key, (hrecords t).trans hrec, hidx⟩
    · refine .inr ⟨d, i, topic', hd, hi, hidx, fun t k ht => ?_⟩
      rcases hunlinks t x k ht with ⟨rfl, rfl⟩ | ht
      · -- the topic that is done now accounts for no node any more
        refine Nat.succ_le_of_lt (lt_of_le_of_ne (hk tid j hbefore) ?_)
        rintro rfl
        obtain rfl : d = c := Option.some.inj (hd.symm.trans hc)
        obtain rfl : topic' = topic := Option.some.inj (hi.symm.trans htopic)
        rw [hchain, if_pos hidx.symm] at hx
        exact (h.nodes.nodup idx).not_mem_erase hx
      · exact hk t k ht
  · intro t x k ht
    rcases hunlinks t x k ht with ⟨rfl, rfl⟩ | ht
    · exact ⟨c, hc, (List.getElem?_eq_some_iff.mp htopic).1⟩
    · exact h.nodes.unlinked t x k ht
  · exact h.nodes.released_keep hphase (by rw [hp]; rfl) hcarries fun idx => (hsub idx).subset

/-- With all topics done, and no call carrying the client, it has no node left. -/
theorem Safe.leaveTopics (h : s.Safe) (hp : s.phase tid = .unlinkTopics fd a j)
    {c : HalmosWSClient} (hc : s.registry.heap a = some c) (hdone : c.subscribedTopics[j]? = none)
    (halone : ∀ other, (s.phase other).carries ≠ some a) :
    ∃ s', s.advance tid = some s' ∧ s'.Safe := by
  unfold TopicRace.advance
  simp only [hp, hc, hdone]
  set s' : TopicRace := TopicRace.goto _ tid (.release fd a) with hs'
  have hphase : s'.phase = Function.update s.phase tid (.release fd a) := rfl
  have hcarries : ∀ x, (CallPhase.release fd a).carries = some x →
      (s.phase tid).carries = some x := fun _ hno => nomatch hno
  have hrecords := phase_of_update CallPhase.records hphase (by rw [hp]; rfl)
  have hbefore : (s.phase tid).unlinks = some (a, j) := by
    rw [hp]
    rfl
  have hunlinks : ∀ t x k, (s'.phase t).unlinks = some (x, k) →
      (s.phase t).unlinks = some (x, k) := by
    intro t x k ht
    rcases of_phase_update CallPhase.unlinks hphase ht with ⟨-, hno⟩ | ⟨-, ht⟩
    · cases hno
    · exact ht
  refine ⟨s', rfl, h.keep hphase rfl rfl (fun _ => id) (by rw [hp]; rfl) hcarries h.tabled
    ⟨h.nodes.nodup, ?_, ?_, ?_⟩⟩
  · intro idx x hx
    exact (h.nodes.accounted idx x hx).mono (fun d hd => ⟨d, hd, List.prefix_rfl⟩)
      (fun t key hrec => .inl ⟨t, key, (hrecords t).trans hrec, rfl⟩)
      (fun t k ht => .inr (hunlinks t x k ht))
  · intro t x k ht
    exact h.nodes.unlinked t x k (hunlinks t x k ht)
  · intro t x ht
    have hother := fun other hother => carries_of_update hphase hcarries other x hother
    rcases of_phase_update CallPhase.releases hphase ht with ⟨rfl, hnew⟩ | ⟨-, ht⟩
    · obtain rfl : a = x := Option.some.inj hnew
      refine ⟨fun other hcar => halone other (hother other hcar), fun idx hmem => ?_⟩
      rcases h.nodes.accounted idx a hmem with ⟨t', key, hrec, -⟩ | ⟨d, i, topic, hd, hi, -, hk⟩
      · exact halone t' (carries_of_records hrec)
      · obtain rfl : d = c := Option.some.inj (hd.symm.trans hc)
        have hlt := (List.getElem?_eq_some_iff.mp hi).1
        have hle := List.getElem?_eq_none_iff.mp hdone
        have hji := hk t j hbefore
        omega
    · obtain ⟨hnone, hout⟩ := h.nodes.released t x ht
      exact ⟨fun other hcar => hnone other (hother other hcar), hout⟩

/-- The client is freed: no node and no call is left that knows it. -/
theorem Safe.release (h : s.Safe) (hp : s.phase tid = .release fd a) :
    ∃ s', s.advance tid = some s' ∧ s'.Safe := by
  have hremoves : (s.phase tid).removes = some (fd, a) := by
    rw [hp]
    rfl
  obtain ⟨c, hc, -⟩ := h.removed_live hremoves
  obtain ⟨hnone, hout⟩ := h.nodes.released tid a (by rw [hp]; rfl)
  unfold TopicRace.advance
  simp only [hp, hc]
  set s' : TopicRace := TopicRace.goto _ tid .idle with hs'
  have hphase : s'.phase = Function.update s.phase tid .idle := rfl
  have hheap : s'.registry.heap = Function.update s.registry.heap a none := rfl
  have hkept : ∀ x, x ≠ a → s'.registry.heap x = s.registry.heap x := fun x hx => by
    rw [hheap, Function.update_of_ne hx]
  -- no other thread is in a removal
  have hidle : ∀ t, (s'.phase t).removes = none := by
    intro t
    rw [hphase]
    by_cases htid : t = tid
    · subst htid
      rw [Function.update_self]
      rfl
    · rw [Function.update_of_ne htid, Option.eq_none_iff_forall_ne_some]
      rintro ⟨fd', a'⟩ ht
      exact htid (h.removes_unique hremoves ht)
  have hunlinks : ∀ t x k, (s'.phase t).unlinks ≠ some (x, k) := by
    intro t x k ht
    obtain ⟨fd', hrem⟩ := removes_of_unlinks ht
    rw [hidle] at hrem
    cases hrem
  refine ⟨s', rfl, ?_, ?_, ?_, h.nodes.nodup, ?_, ?_, ?_⟩
  · exact h.tabled.unregister (h.locked tid fd a hremoves).2 rfl rfl rfl rfl
  · intro t fd' x ht
    rw [hidle] at ht
    cases ht
  · intro t x ht
    have hbefore := carries_of_update hphase (fun _ hno => nomatch hno) t x ht
    rw [hkept x fun hx => hnone t (hx ▸ hbefore)]
    exact h.carried t x hbefore
  · intro idx x hx
    have hxa : x ≠ a := fun hxa => hout idx (hxa ▸ hx)
    refine (h.nodes.accounted idx x hx).mono
      (fun d hd => ⟨d, (hkept x hxa).trans hd, List.prefix_rfl⟩)
      (fun t key hrec => .inl ⟨t, key, ?_, rfl⟩) (fun t k ht => absurd ht (hunlinks t x k))
    exact (phase_of_update CallPhase.records hphase (by rw [hp]; rfl) t).trans hrec
  · intro t x k ht
    exact absurd ht (hunlinks t x k)
  · intro t x ht
    obtain ⟨fd', hrem⟩ := removes_of_releases ht
    rw [hidle] at hrem
    cases hrem

/-! ## Any step -/

theorem Safe.advance (h : s.Safe) (hguard : s.Guarded (.advance tid)) :
    ∃ s', s.advance tid = some s' ∧ s'.Safe := by
  unfold Guarded at hguard
  cases hp : s.phase tid with
  | idle =>
      refine ⟨s, ?_, h⟩
      unfold TopicRace.advance
      simp only [hp]
  | bucket a fullKey => exact h.bucket hp
  | link a fullKey => exact h.link hp
  | record a fullKey =>
      simp only [hp] at hguard
      exact h.record hp hguard
  | deactivate fd a => exact h.deactivate hp
  | unname fd a => exact h.unname hp
  | enterTopics fd a => exact h.enterTopics hp
  | unlinkTopics fd a j =>
      simp only [hp] at hguard
      obtain ⟨c, hc, -⟩ := h.removed_live (by rw [hp]; rfl : (s.phase tid).removes = some (fd, a))
      cases htopic : c.subscribedTopics[j]? with
      | some topic => exact h.unlinkTopic hp hc htopic
      | none =>
          exact h.leaveTopics hp hc htopic (hguard c hc (List.getElem?_eq_none_iff.mp htopic))
  | release fd a => exact h.release hp

/-- With `registry_lock` free no removal is under way. -/
theorem Safe.no_removal (h : s.Safe) (hfree : s.registryLock = none) (t : Nat) :
    (s.phase t).removes = none := by
  rw [Option.eq_none_iff_forall_ne_some]
  rintro ⟨fd, a⟩ ht
  have hheld := (h.locked t fd a ht).1
  rw [hfree] at hheld
  cases hheld

theorem Safe.no_release (h : s.Safe) (hfree : s.registryLock = none) (t : Nat) (a : Addr) :
    (s.phase t).releases ≠ some a := by
  intro ht
  obtain ⟨fd, hrem⟩ := removes_of_releases ht
  rw [h.no_removal hfree] at hrem
  cases hrem

/-- A new client is in no chain, and no call carries it. -/
theorem Safe.callAdd (h : s.Safe) (hfree : s.registryLock = none) (fd : Int) (ssl : Bool)
    (now : Nat) {calloc : Option Addr} (hfresh : ∀ a, calloc = some a → s.registry.heap a = none) :
    Safe { s with registry := (s.registry.wsRegistryAdd fd ssl now calloc).2 } := by
  unfold wsRegistryAdd
  rcases s.registry.addClient_spec fd ssl false 0 now calloc with hsame | ⟨i, a, c, ha, hc, hnew⟩
  · rw [hsame]
    exact h
  · have hkept : ∀ x d, s.registry.heap x = some d →
        Function.update s.registry.heap a (some c) x = some d := by
      intro x d hd
      refine update_eq_some_iff.mpr (.inr ⟨?_, hd⟩)
      rintro rfl
      rw [hfresh x ha] at hd
      cases hd
    rw [hnew]
    refine ⟨h.tabled.register hc (hfresh a ha) _, ?_, ?_, ?_⟩
    · intro t fd' x ht
      rw [h.no_removal hfree] at ht
      cases ht
    · intro t x ht
      obtain ⟨d, hd⟩ := Option.isSome_iff_exists.mp (h.carried t x ht)
      exact Option.isSome_of_eq_some (hkept x d hd)
    · refine h.nodes.keep (fun _ => rfl) (fun x d hd => ⟨d, hkept x d hd, rfl⟩) (fun _ => rfl)
        (fun _ => rfl) (fun _ => rfl) fun t x ht => ?_
      exact absurd ht (h.no_release hfree t x)

/-- A call that has looked a client up carries it while it is there. -/
theorem Safe.callAddToTopic (h : s.Safe) (hp : s.phase tid = .idle)
    (hfree : s.registryLock = none) (fd : Int) (appId topic : List UInt8) :
    ∃ s', s.call (.callAddToTopic tid fd appId topic) = some s' ∧ s'.Safe := by
  unfold call
  cases hfind : s.registry.findByFd fd with
  | none => exact ⟨s, by simp only [hfind], h⟩
  | some a =>
      obtain ⟨c, hc, -⟩ := h.tabled.fdMap_fd fd a (fdMap_of_findByFd hfind)
      simp only [hfind, hc]
      split
      · exact ⟨s, rfl, h⟩
      · set s' : TopicRace := s.goto tid (.bucket a (subscribeKey appId topic)) with hs'
        have hphase : s'.phase
          = Function.update s.phase tid (.bucket a (subscribeKey appId topic)) := rfl
        refine ⟨s', rfl, h.tabled, ?_, ?_, ?_⟩
        · intro t fd' x ht
          rw [phase_of_update CallPhase.removes hphase (by rw [hp]; rfl), h.no_removal hfree] at ht
          cases ht
        · intro t x ht
          rcases of_phase_update CallPhase.carries hphase ht with ⟨-, ht⟩ | ⟨-, ht⟩
          · obtain rfl : a = x := Option.some.inj ht
            exact Option.isSome_of_eq_some hc
          · exact h.carried t x ht
        · refine h.nodes.keep (fun _ => rfl) (fun x d hd => ⟨d, hd, rfl⟩)
            (phase_of_update _ hphase (by rw [hp]; rfl)) (phase_of_update _ hphase (by rw [hp]; rfl))
            (phase_of_update _ hphase (by rw [hp]; rfl)) fun t x ht => ?_
          exact absurd ht (h.no_release hfree t x)

theorem Safe.callRemove (h : s.Safe) (hp : s.phase tid = .idle) (hfree : s.registryLock = none)
    (fd : Int) : ∃ s', s.call (.callRemove tid fd) = some s' ∧ s'.Safe := by
  unfold call
  cases hfind : s.registry.findByFd fd with
  | none => exact ⟨s, by simp only [hfind], h⟩
  | some a =>
      simp only [hfind]
      set s' : TopicRace := TopicRace.goto _ tid (.deactivate fd a) with hs'
      have hphase : s'.phase = Function.update s.phase tid (.deactivate fd a) := rfl
      have hcarries : ∀ x, (CallPhase.deactivate fd a).carries = some x →
          (s.phase tid).carries = some x := fun _ hno => nomatch hno
      refine ⟨s', rfl, h.tabled, ?_, ?_, ?_⟩
      · intro t fd' x ht
        rcases of_phase_update CallPhase.removes hphase ht with ⟨rfl, hnew⟩ | ⟨-, ht⟩
        · obtain ⟨rfl, rfl⟩ : fd = fd' ∧ a = x := by simpa [CallPhase.removes] using hnew
          exact ⟨rfl, fdMap_of_findByFd hfind⟩
        · rw [h.no_removal hfree] at ht
          cases ht
      · intro t x ht
        exact h.carried t x (carries_of_update hphase hcarries t x ht)
      · refine h.nodes.keep (fun _ => rfl) (fun x d hd => ⟨d, hd, rfl⟩)
          (phase_of_update _ hphase (by rw [hp]; rfl)) (phase_of_update _ hphase (by rw [hp]; rfl))
          (phase_of_update _ hphase (by rw [hp]; rfl)) fun t x ht => ?_
        exact absurd ht (h.no_release hfree t x)

/-- **One step** of any thread touches no freed client. -/
theorem Safe.step (h : s.Safe) {e : RaceEvent} (hguard : s.Guarded e) :
    ∃ s', s.step e = some s' ∧ s'.Safe := by
  have hcall : ∀ e : RaceEvent, (s.phase (tidOf e) = .idle ∧ s.registryLock = none →
      ∃ s', s.call e = some s' ∧ s'.Safe) →
      ∃ s', (if s.phase (tidOf e) = .idle ∧ s.registryLock = none then s.call e else some s)
        = some s' ∧ s'.Safe := by
    intro e he
    split
    · next hfree => exact he hfree
    · exact ⟨s, rfl, h⟩
  cases e with
  | advance tid => exact h.advance hguard
  | callAdd tid fd ssl now calloc =>
      exact hcall (.callAdd tid fd ssl now calloc) fun hfree =>
        ⟨_, rfl, h.callAdd hfree.2 fd ssl now hguard⟩
  | callAddToTopic tid fd appId topic =>
      exact hcall (.callAddToTopic tid fd appId topic) fun hfree =>
        h.callAddToTopic hfree.1 hfree.2 fd appId topic
  | callRemove tid fd =>
      exact hcall (.callRemove tid fd) fun hfree => h.callRemove hfree.1 hfree.2 fd

/-! ## A call that runs alone -/

theorem goto_self (hp : s.phase tid = p) (registry : HalmosWSRegistry) :
    TopicRace.goto { s with registry := registry } tid p = { s with registry := registry } := by
  unfold goto
  rw [← hp, Function.update_eq_self]

/-- A thread that goes on from a place it has just come to. -/
theorem goto_goto (s : TopicRace) (tid : Nat) (p q : CallPhase) (registry : HalmosWSRegistry) :
    TopicRace.goto { s.goto tid p with registry := registry } tid q
      = TopicRace.goto { s with registry := registry } tid q := by
  unfold goto
  simp only [Function.update_idem]

theorem advance_idle (hp : s.phase tid = .idle) : s.advance tid = some s := by
  unfold TopicRace.advance
  simp only [hp]

theorem unlinkUser_with_heap {r : HalmosWSRegistry} (a : Addr) (userId : List UInt8)
    (heap : Addr → Option HalmosWSClient) :
    HalmosWSRegistry.unlinkUser { r with heap := heap } a userId
      = { r.unlinkUser a userId with heap := heap } := by
  unfold unlinkUser
  split <;> rfl

/-- What the sections of `ws_registry_add_to_topic` behind the lookup make of the registry. -/
def subscribed (r : HalmosWSRegistry) (a : Addr) (c : HalmosWSClient) (fullKey : List UInt8) :
    HalmosWSRegistry :=
  let b := r.bucketOf fullKey
  if a ∈ b.subscribers then
    { r with buckets := Function.update r.buckets (hashTopic fullKey) (some b) }
  else
    { r with
      buckets := Function.update r.buckets (hashTopic fullKey)
        (some { b with subscribers := a :: b.subscribers })
      heap := Function.update r.heap a (some (c.record fullKey)) }

theorem bucket_alone (hp : s.phase tid = .bucket a fullKey) (hhash : s.hashLock = none)
    {c : HalmosWSClient} (hc : s.registry.heap a = some c) :
    runSteps stepTo (some s) [.advance tid, .advance tid, .advance tid]
      = some (TopicRace.goto { s with registry := subscribed s.registry a c fullKey } tid .idle) := by
  have hbucket : s.advance tid = some (TopicRace.goto { s with registry := { s.registry with
      buckets := Function.update s.registry.buckets (hashTopic fullKey)
        (some (s.registry.bucketOf fullKey)) } } tid (.link a fullKey)) := by
    unfold TopicRace.advance
    simp only [hp, hhash, ne_eq, not_true_eq_false, if_false]
  have hsame : HalmosWSRegistry.bucketOf { s.registry with
      buckets := Function.update s.registry.buckets (hashTopic fullKey)
        (some (s.registry.bucketOf fullKey)) } fullKey = s.registry.bucketOf fullKey := by
    simp only [bucketOf, Function.update_self, Option.getD_some]
  simp only [runSteps_cons, runSteps_nil, stepTo, step, Option.bind_some, hbucket]
  unfold subscribed
  by_cases hmem : a ∈ (s.registry.bucketOf fullKey).subscribers
  · simp only [TopicRace.advance, goto, hsame, hmem, if_true, Function.update_self,
      Option.bind_some, Function.update_idem]
  · simp only [TopicRace.advance, goto, hsame, hmem, if_false, Function.update_self,
      Option.bind_some, hc, Function.update_idem]

/-- The sections of `ws_registry_add_to_topic`, one after the other, are the call. -/
theorem addToTopic_alone (hp : s.phase tid = .idle) (hregistry : s.registryLock = none)
    (hhash : s.hashLock = none) (fd : Int) (appId topic : List UInt8) :
    runSteps stepTo (some s)
        [.callAddToTopic tid fd appId topic, .advance tid, .advance tid, .advance tid]
      = (s.registry.wsRegistryAddToTopic fd appId topic).map fun r => { s with registry := r } := by
  have hbegin : stepTo (some s) (.callAddToTopic tid fd appId topic)
      = s.call (.callAddToTopic tid fd appId topic) := if_pos ⟨hp, hregistry⟩
  have hstay : runSteps stepTo (some s) [.advance tid, .advance tid, .advance tid] = some s := by
    simp only [runSteps_cons, runSteps_nil, stepTo, step, Option.bind_some, advance_idle hp]
  rw [runSteps_cons, hbegin]
  cases hfind : s.registry.findByFd fd with
  | none =>
      simp only [call, wsRegistryAddToTopic, hfind]
      exact hstay
  | some a =>
      cases hc : s.registry.heap a with
      | none =>
          simp only [call, wsRegistryAddToTopic, hfind, hc]
          rfl
      | some c =>
          by_cases hactive : c.isActive = false
          · simp only [call, wsRegistryAddToTopic, hfind, hc, if_pos hactive]
            exact hstay
          · simp only [call, wsRegistryAddToTopic, hfind, hc, if_neg hactive]
            refine (bucket_alone (s := s.goto tid (.bucket a (subscribeKey appId topic)))
              (Function.update_self ..) hhash hc).trans ?_
            rw [goto_goto, goto_self hp]
            by_cases hmem : a ∈ (s.registry.bucketOf (subscribeKey appId topic)).subscribers
            · simp only [subscribed, goto, hmem, if_true, Option.map_some]
            · simp only [subscribed, goto, hmem, if_false, Option.map_some]

/-- The rounds of the loop over the topics of a client. -/
theorem unlinkTopics_alone {rest done : List (List UInt8)} {c : HalmosWSClient}
    (hp : s.phase tid = .unlinkTopics fd a done.length) (hc : s.registry.heap a = some c)
    (htopics : c.subscribedTopics = done ++ rest) :
    runSteps stepTo (some s) (List.replicate rest.length (.advance tid))
      = some (TopicRace.goto { s with registry := { s.registry with
          buckets := rest.foldl (HalmosWSRegistry.unlinkTopic a) s.registry.buckets } } tid
          (.unlinkTopics fd a c.subscribedTopics.length)) := by
  induction rest generalizing s done with
  | nil =>
      have hlen : c.subscribedTopics.length = done.length := by rw [htopics, List.append_nil]
      rw [hlen]
      exact congrArg some (goto_self hp _).symm
  | cons topic rest ih =>
      have hround : s.advance tid = some (TopicRace.goto { s with registry := { s.registry with
          buckets := HalmosWSRegistry.unlinkTopic a s.registry.buckets topic } } tid
          (.unlinkTopics fd a (done ++ [topic]).length)) := by
        unfold TopicRace.advance
        have hget : c.subscribedTopics[done.length]? = some topic := by
          rw [htopics, List.getElem?_append_right le_rfl]
          simp
        simp only [hp, hc, hget, List.length_append, List.length_singleton]
      rw [List.length_cons, List.replicate_succ, runSteps_cons]
      have hgo : stepTo (some s) (.advance tid) = some (TopicRace.goto { s with registry :=
          { s.registry with
            buckets := HalmosWSRegistry.unlinkTopic a s.registry.buckets topic } } tid
          (.unlinkTopics fd a (done ++ [topic]).length)) := hround
      rw [hgo]
      refine Eq.trans (ih (Function.update_self ..) hc ?_) ?_
      · rw [htopics, List.append_assoc, List.singleton_append]
      · rw [List.foldl_cons]
        exact congrArg some (goto_goto _ tid _ _ _)

/-- The sections of `ws_registry_remove`, one after the other, are the call. -/
theorem remove_alone (hp : s.phase tid = .idle) (hregistry : s.registryLock = none)
    (hhash : s.hashLock = none) {fd : Int} {a : Addr} {c : HalmosWSClient}
    (hfind : s.registry.findByFd fd = some a) (hc : s.registry.heap a = some c) :
    runSteps stepTo (some s)
        (.callRemove tid fd :: List.replicate (3 + (c.subscribedTopics.length + 2)) (.advance tid))
      = (s.registry.wsRegistryRemove fd).map fun r => { s with registry := r } := by
  have hbegin : stepTo (some s) (.callRemove tid fd)
      = some (TopicRace.goto { s with registryLock := some tid } tid (.deactivate fd a)) := by
    refine (if_pos ⟨hp, hregistry⟩).trans ?_
    simp only [call, hfind]
  set s₃ : TopicRace := TopicRace.goto
    { s with
      registryLock := some tid
      hashLock := some tid
      registry := { s.registry.unlinkUser a c.userId with
        heap := Function.update s.registry.heap a (some { c with isActive := false }) } }
    tid (.unlinkTopics fd a 0) with hs₃
  have henter : runSteps stepTo (some s) [.callRemove tid fd, .advance tid, .advance tid,
      .advance tid] = some s₃ := by
    rw [runSteps_cons, hbegin]
    simp only [runSteps_cons, runSteps_nil, stepTo, step, Option.bind_some, TopicRace.advance,
      goto, Function.update_self, hc, hhash, ne_eq, not_true_eq_false, if_false,
      Function.update_idem]
    exact congrArg (fun r => some (TopicRace.mk r _ _ _)) (unlinkUser_with_heap a c.userId _)
  have hloop : runSteps stepTo (some s₃)
      (List.replicate c.subscribedTopics.length (.advance tid)) = some (TopicRace.goto
        { s₃ with registry := { s₃.registry with
          buckets := c.subscribedTopics.foldl (HalmosWSRegistry.unlinkTopic a) s.registry.buckets } }
        tid (.unlinkTopics fd a c.subscribedTopics.length)) := by
    have hbuckets : s₃.registry.buckets = s.registry.buckets := unlinkUser_buckets a c.userId
    rw [← hbuckets]
    have hinactive : s₃.registry.heap a = some { c with isActive := false } :=
      Function.update_self ..
    have hfirst : s₃.phase tid = .unlinkTopics fd a ([] : List (List UInt8)).length :=
      Function.update_self ..
    exact unlinkTopics_alone (c := { c with isActive := false }) hfirst hinactive
      (List.nil_append _).symm
  have hdone : c.subscribedTopics[c.subscribedTopics.length]? = none :=
    List.getElem?_eq_none le_rfl
  have hidle : Function.update s.phase tid .idle = s.phase := by
    rw [← hp, Function.update_eq_self]
  rw [List.replicate_add, List.replicate_add, ← List.cons_append, runSteps_append, runSteps_append]
  rw [show RaceEvent.callRemove tid fd :: List.replicate 3 (.advance tid)
    = [.callRemove tid fd, .advance tid, .advance tid, .advance tid] from rfl, henter, hloop,
    remove_eq hfind hc]
  simp only [List.replicate, runSteps_cons, runSteps_nil, stepTo, step, Option.bind_some,
    TopicRace.advance, goto, Function.update_self, hs₃, hdone, Function.update_idem, hidle, unlinkUser_clients,
    unlinkUser_fdMap, unlinkUser_currentCount, Option.map_some, hregistry, hhash]

/-! ## Runs -/

/-- A property of the threads and the registry, if no freed memory has been touched. -/
def RaceHolds (P : TopicRace → Prop) (s : Option TopicRace) : Prop := ∃ r, s = some r ∧ P r

/-- The steps of a run, as long as no freed memory has been touched. -/
def GuardedStep (s : Option TopicRace) (e : RaceEvent) : Prop := ∀ r, s = some r → r.Guarded e

/-- Every node in a bucket is one of a registered client, and so is every client a call of
`ws_registry_add_to_topic` carries. -/
structure NoneLeftBehind (s : TopicRace) : Prop where
  nodes : ∀ idx a, a ∈ chain s.registry.buckets idx → some a ∈ s.registry.clients
  calls : ∀ tid a, (s.phase tid).carries = some a → some a ∈ s.registry.clients

theorem Safe.noneLeftBehind (h : s.Safe) : s.NoneLeftBehind where
  nodes := fun _ a ha => (h.tabled.slots_live a).mpr (h.node_live ha)
  calls := fun tid a ha => (h.tabled.slots_live a).mpr (h.carried tid a ha)

end TopicRace

open TopicRace in
/-- **Subscriptions and removals in any order.** In a run in which no call of
`ws_registry_add_to_topic` carries a client when its removal is done with the topics, every topic
finds room in its client's record and `calloc` returns free addresses, no freed client is ever
touched, and every node in a bucket is one of a registered client. -/
theorem race_run (es : List RaceEvent) (h : GuardedRun GuardedStep stepTo (some init) es) :
    RaceHolds NoneLeftBehind (runSteps stepTo (some init) es) := by
  have hstep : ∀ s e, RaceHolds Safe s → GuardedStep s e → RaceHolds Safe (stepTo s e) := by
    rintro _ e ⟨s, rfl, hs⟩ hguard
    obtain ⟨s', hs', hsafe⟩ := hs.step (hguard s rfl)
    exact ⟨s', hs', hsafe⟩
  obtain ⟨s, hs, hsafe⟩ := GuardedRun.invariant hstep ⟨init, rfl, init_safe⟩ h
  exact ⟨s, hs, hsafe.noneLeftBehind⟩

namespace TopicRace

/-- A step moves its own thread only. -/
theorem step_phase_of_ne {s s' : TopicRace} {e : RaceEvent} {t : Nat} (ht : t ≠ tidOf e)
    (h : s.step e = some s') : s'.phase t = s.phase t := by
  have hgoto : ∀ (r : TopicRace) (tid : Nat) (p : CallPhase), t ≠ tid →
      (r.goto tid p).phase t = r.phase t := fun r tid p hne => Function.update_of_ne hne _ _
  cases e with
  | advance tid =>
      simp only [step, TopicRace.advance] at h
      repeat' split at h
      all_goals first
        | (obtain rfl := Option.some.inj h
           first
             | rfl
             | exact hgoto _ tid _ ht)
        | cases h
  | callAdd tid fd ssl now calloc =>
      simp only [step, call] at h
      split at h
      all_goals
        obtain rfl := Option.some.inj h
        rfl
  | callAddToTopic tid fd appId topic =>
      simp only [step, call] at h
      repeat' split at h
      all_goals first
        | (obtain rfl := Option.some.inj h
           first
             | rfl
             | exact hgoto _ tid _ ht)
        | cases h
  | callRemove tid fd =>
      simp only [step, call] at h
      repeat' split at h
      all_goals
        obtain rfl := Option.some.inj h
        first
          | rfl
          | exact hgoto _ tid _ ht

theorem runSteps_none (es : List RaceEvent) : runSteps stepTo none es = none := by
  induction es with
  | nil => rfl
  | cons e es ih => exact ih

/-- A thread that takes no part in a run stays where it is. -/
theorem runSteps_phase_of_ne {es : List RaceEvent} {s s' : TopicRace} {t : Nat}
    (ht : ∀ e ∈ es, t ≠ tidOf e) (h : runSteps stepTo (some s) es = some s') :
    s'.phase t = s.phase t := by
  induction es generalizing s with
  | nil =>
      obtain rfl := Option.some.inj h
      rfl
  | cons e es ih =>
      rw [runSteps_cons] at h
      have hrest : ∀ x ∈ es, t ≠ tidOf x := fun x hx => ht x (List.mem_cons_of_mem e hx)
      cases hs : s.step e with
      | none =>
          rw [show stepTo (some s) e = none from hs, runSteps_none] at h
          cases h
      | some s₁ =>
          rw [show stepTo (some s) e = some s₁ from hs] at h
          exact (ih hrest h).trans (step_phase_of_ne (ht e List.mem_cons_self) hs)

/-- A thread has room for the topic it is to record, or is not done with the topics of the client
it removes. -/
def midCall (s : TopicRace) (tid : Nat) : Bool :=
  match s.phase tid with
  | .record a _ => (s.registry.heap a).all fun c => c.subscribedTopics.length < maxTopicsPerUser
  | .unlinkTopics _ a j => (s.registry.heap a).all fun c => j < c.subscribedTopics.length
  | _ => true

theorem guardedStep_of_midCall {s : Option TopicRace} {tid : Nat}
    (h : s.all (midCall · tid) = true) : GuardedStep s (.advance tid) := by
  rintro r rfl
  rw [Option.all_some, midCall] at h
  unfold Guarded
  cases hp : r.phase tid with
  | record a fullKey =>
      simp only [hp] at h ⊢
      intro c hc
      simpa [hc] using h
  | unlinkTopics fd a j =>
      simp only [hp] at h ⊢
      intro c hc hle
      simp only [hc, Option.all_some, decide_eq_true_eq] at h
      omega
  | _ => simp only [hp]

end TopicRace

/-- A client subscribes in one thread, and while the topic is being recorded its removal begins in
another. -/
def subscribeAndRemove : List RaceEvent :=
  [.callAdd 1 5 false 100 (some 0), .callAddToTopic 1 5 (ascii "GLOBAL") (ascii "news"),
    .advance 1, .advance 1, .callRemove 2 5, .advance 2, .advance 2, .advance 1, .advance 2,
    .advance 2, .advance 2, .advance 2]

open TopicRace in
theorem race_run_recorded :
    RaceHolds NoneLeftBehind (runSteps stepTo (some init) subscribeAndRemove) := by
  refine race_run _ ⟨?_, ?_, ?_, ?_, ?_, ?_, ?_, ?_, ?_, ?_, ?_, ?_, trivial⟩
  case refine_1 =>
    rintro s hs a ⟨⟩
    obtain rfl := Option.some.inj hs
    rfl
  case refine_2 => exact fun _ _ => trivial
  case refine_5 => exact fun _ _ => trivial
  case refine_11 =>
    -- the removal is done with the topics, and no thread is in `ws_registry_add_to_topic`
    intro s hs
    have hrun : runSteps stepTo (some init) (subscribeAndRemove.take 10) = some s := hs
    have hnone : ∀ t ∈ [1, 2], (runSteps stepTo (some init) (subscribeAndRemove.take 10)).all
        (fun s => (s.phase t).carries = none) = true := by
      decide +kernel
    have hcarries : ∀ other, (s.phase other).carries = none := by
      intro other
      by_cases hother : other ∈ [1, 2]
      · have hthis := hnone other hother
        rw [hrun] at hthis
        simpa using hthis
      · have htids : ∀ e ∈ subscribeAndRemove.take 10, tidOf e ∈ [1, 2] := by decide
        have hne : ∀ e ∈ subscribeAndRemove.take 10, other ≠ tidOf e :=
          fun e he heq => hother (heq ▸ htids e he)
        rw [runSteps_phase_of_ne hne hrun]
        rfl
    unfold Guarded
    cases hp : s.phase 2 with
    | unlinkTopics fd a j =>
        simp only [hp]
        intro c hc hle other hother
        rw [hcarries] at hother
        cases hother
    | record a fullKey =>
        have hthis := hcarries 2
        rw [hp] at hthis
        cases hthis
    | _ => simp only [hp]
  all_goals exact guardedStep_of_midCall (by decide +kernel)

open TopicRace in
/-- The client is removed between its lookup and the making of its node: the node outlives it, and
the topic is recorded in a freed record. -/
theorem node_for_removed_client :
    let removed := runSteps stepTo (some init)
      [.callAdd 1 5 false 100 (some 0), .callAddToTopic 1 5 (ascii "GLOBAL") (ascii "news"),
        .callRemove 2 5, .advance 2, .advance 2, .advance 2, .advance 2, .advance 2]
    let linked := runSteps stepTo removed [.advance 1, .advance 1]
    removed.map (fun s => ((s.registry.heap 0).isSome, s.phase 2)) = some (false, .idle) ∧
      linked.map (fun s => HalmosWSRegistry.chain s.registry.buckets
        (hashTopic (subscribeKey (ascii "GLOBAL") (ascii "news")))) = some [0] ∧
      (stepTo linked (.advance 1)).isNone = true := by
  decide +kernel

end Halmos.WebSocket
