import Halmos.WebSocket.RegistryIndex
import Halmos.WebSocket.Outgoing

set_option autoImplicit false

/-! # Whom a published message reaches

A bucket holds the subscribers of every topic whose key has its hash, and `ws_registry_publish`
sends to all of them. `SubscribedRegistry` runs the registry beside the pairs of application and
topic each client has subscribed to. As long as a client leaves with all its nodes recorded, the
chain of a bucket holds exactly the registered clients with a subscription of its hash
(`Subscribed.nodes`), and a message is sent to subscribers of the published pair only if and only
if every client it is sent to for another pair has subscribed to this one as well
(`publish_isolated_iff`).
-/

namespace Halmos.WebSocket

/-- What one client is sent of a published message: whether anything is sent at all, `none` if the
frame leaves its array. Over HTTP/2 the frame is allocated. -/
def HalmosWSClient.publishedTo (c : HalmosWSClient) (frame : Buffer 4096) (message : List UInt8) :
    Option Bool :=
  if c.isHttp2 then some true else (wsRegistrySendText frame message).map Option.isSome

/-- A frame is built for the client: over HTTP/1.1 there is none for a message of more than 65535
bytes. -/
def HalmosWSClient.takes (c : HalmosWSClient) (message : List UInt8) : Bool :=
  c.isHttp2 || decide (message.length ≤ 65535)

/-- The frame for the client stays in its array. -/
def HalmosWSClient.FrameFits (c : HalmosWSClient) (message : List UInt8) : Prop :=
  c.isHttp2 = true ∨ message.length ≤ 4092 ∨ 65535 < message.length

instance (c : HalmosWSClient) (message : List UInt8) : Decidable (c.FrameFits message) :=
  inferInstanceAs (Decidable (_ ∨ _))

theorem wsRegistrySendText_map_isSome (frame : Buffer 4096) (message : List UInt8) :
    (wsRegistrySendText frame message).map Option.isSome
      = if message.length ≤ 4092 ∨ 65535 < message.length then
          some (decide (message.length ≤ 65535))
        else none := by
  have hsome := wsRegistrySendText_isSome_iff frame message
  cases hsend : wsRegistrySendText frame message with
  | none =>
      rw [hsend] at hsome
      rw [if_neg fun h => Bool.false_ne_true (hsome.mpr h)]
      rfl
  | some r =>
      rw [if_pos (hsome.mp (by rw [hsend]; rfl)), Option.map_some]
      rw [wsRegistrySendText_eq, Option.map_eq_some_iff] at hsend
      obtain ⟨f, -, rfl⟩ := hsend
      split
      · next hlen => simp [hlen]
      · next hlen => simp [hlen]

theorem HalmosWSClient.publishedTo_spec (c : HalmosWSClient) (frame : Buffer 4096)
    (message : List UInt8) :
    c.FrameFits message ∧ c.publishedTo frame message = some (c.takes message) ∨
      ¬ c.FrameFits message ∧ c.publishedTo frame message = none := by
  unfold publishedTo FrameFits takes
  cases hh2 : c.isHttp2 with
  | true => exact .inl ⟨.inl rfl, rfl⟩
  | false =>
      rw [wsRegistrySendText_map_isSome]
      by_cases hfits : message.length ≤ 4092 ∨ 65535 < message.length
      · exact .inl ⟨.inr hfits, by simp [hfits]⟩
      · exact .inr ⟨by simpa using hfits, by simp [hfits]⟩

namespace HalmosWSRegistry

/-- The walk of `ws_registry_publish` along a chain, with the message: the clients it is sent
to. -/
def publishMessage (heap : Addr → Option HalmosWSClient) (frame : Buffer 4096)
    (message : List UInt8) : List Addr → Option (List Addr)
  | [] => some []
  | a :: rest =>
      match heap a with
      | none => none
      | some c =>
          if c.isActive then do
            let sent ← c.publishedTo frame message
            let others ← publishMessage heap frame message rest
            some (if sent then a :: others else others)
          else publishMessage heap frame message rest

/-- `ws_registry_publish(app_id, topic, message)`, with the message: the clients it is sent to.
`frame` is what is on the stack of `ws_registry_send_text`. -/
def wsRegistryPublishMessage (s : HalmosWSRegistry) (frame : Buffer 4096)
    (appId topic message : List UInt8) : Option (List Addr) :=
  publishMessage s.heap frame message (chain s.buckets (hashTopic (publishKey appId topic)))

/-- Every node of the client belongs to a topic it has recorded. -/
def AllRecorded (s : HalmosWSRegistry) (a : Addr) : Prop :=
  ∀ c, s.heap a = some c → ∀ idx, a ∈ chain s.buckets idx →
    ∃ t ∈ c.subscribedTopics, hashTopic t = idx

/-- The clients that leave have all their nodes recorded. -/
def Leavable (s : HalmosWSRegistry) : RegistryOp → Prop
  | .remove fd => ∀ a, s.findByFd fd = some a → s.AllRecorded a
  | .reaper _ => ∀ a, some a ∈ s.clients → s.AllRecorded a
  | _ => True

/-- What the clients have subscribed to, behind an operation. -/
def subscribedAfter (s : HalmosWSRegistry) (pairs : Addr → List (List UInt8 × List UInt8)) :
    RegistryOp → Addr → List (List UInt8 × List UInt8)
  | .add _ _ _ (some a) => Function.update pairs a []
  | .addH2 _ _ _ _ (some a) => Function.update pairs a []
  | .addToTopic fd appId topic =>
      match (s.findByFd fd).filter (fun a => (s.heap a).any (fun c => c.isActive)) with
      | some a => Function.update pairs a ((appId, topic) :: pairs a)
      | none => pairs
  | _ => pairs

/-! ## The chains -/

/-- The bucket a pair is subscribed in. -/
def bucketIdx (pair : List UInt8 × List UInt8) : Nat := hashTopic (subscribeKey pair.1 pair.2)

/-- The chain of a bucket holds the clients with a subscription of its hash, each once. -/
structure Subscribed (s : HalmosWSRegistry) (pairs : Addr → List (List UInt8 × List UInt8)) :
    Prop where
  indexed : s.Indexed
  nodes : ∀ idx a, a ∈ chain s.buckets idx ↔
    ∃ c, s.heap a = some c ∧ ∃ pair ∈ pairs a, bucketIdx pair = idx
  nodup : ∀ idx, (chain s.buckets idx).Nodup

variable {s : HalmosWSRegistry} {pairs : Addr → List (List UInt8 × List UInt8)}

theorem init_subscribed : wsRegistryInit.Subscribed (fun _ => []) where
  indexed := init_indexed
  nodes := fun _ _ => ⟨fun h => absurd h List.not_mem_nil, fun ⟨_, h, _⟩ => nomatch h⟩
  nodup := fun _ => List.nodup_nil

/-- The chain of the bucket a key falls into. -/
theorem bucketOf_subscribers (fullKey : List UInt8) :
    (s.bucketOf fullKey).subscribers = chain s.buckets (hashTopic fullKey) := by
  unfold bucketOf chain
  cases s.buckets (hashTopic fullKey) <;> rfl

/-- Making the bucket of a key changes no chain. -/
theorem chain_update_bucketOf (fullKey : List UInt8) (idx : Nat) :
    chain (Function.update s.buckets (hashTopic fullKey) (some (s.bucketOf fullKey))) idx
      = chain s.buckets idx := by
  rw [chain_update, bucketOf_subscribers]
  split
  · next hidx => rw [hidx]
  · rfl

/-- Unlinking a client from topics leaves the others in their chains. -/
theorem mem_foldl_unlinkTopic {a x : Addr} (hx : x ≠ a) (topics : List (List UInt8))
    (buckets : Nat → Option WsTopicBucket) (idx : Nat) :
    x ∈ chain (topics.foldl (unlinkTopic a) buckets) idx ↔ x ∈ chain buckets idx := by
  induction topics generalizing buckets with
  | nil => rfl
  | cons t topics ih =>
      rw [List.foldl_cons, ih, unlinkTopic_chain]
      split
      · exact List.mem_erase_of_ne hx
      · rfl

/-! ## What the operations keep -/

/-- A client may be changed, but for its being there; the chains stay. -/
theorem Subscribed.of_update (h : s.Subscribed pairs) {s' : HalmosWSRegistry} (hs' : s'.Indexed)
    {a : Addr} {c c' : HalmosWSClient} (hc : s.heap a = some c) (hbuckets : s'.buckets = s.buckets)
    (hheap : s'.heap = Function.update s.heap a (some c')) : s'.Subscribed pairs := by
  refine ⟨hs', fun idx x => ?_, fun idx => ?_⟩
  · have hlive : (∃ d, s'.heap x = some d) ↔ ∃ d, s.heap x = some d := by
      rw [hheap]
      by_cases hx : x = a
      · subst hx
        simp [hc]
      · rw [Function.update_of_ne hx]
    rw [hbuckets, h.nodes, exists_and_right, exists_and_right, hlive]
  · rw [hbuckets]
    exact h.nodup idx

theorem Subscribed.register (h : s.Subscribed pairs) {s' : HalmosWSRegistry} (hs' : s'.Indexed)
    {a : Addr} {c : HalmosWSClient} (hfresh : s.heap a = none) (hbuckets : s'.buckets = s.buckets)
    (hheap : s'.heap = Function.update s.heap a (some c)) :
    s'.Subscribed (Function.update pairs a []) := by
  refine ⟨hs', fun idx x => ?_, fun idx => ?_⟩
  · rw [hbuckets, h.nodes, hheap]
    constructor
    · rintro ⟨d, hd, hpair⟩
      have hx : x ≠ a := by
        rintro rfl
        rw [hfresh] at hd
        cases hd
      refine ⟨d, update_eq_some_iff.mpr (.inr ⟨hx, hd⟩), ?_⟩
      rw [Function.update_of_ne hx]
      exact hpair
    · rintro ⟨d, hd, pair, hpair, hidx⟩
      rcases update_eq_some_iff.mp hd with ⟨rfl, -⟩ | ⟨hx, hd⟩
      · rw [Function.update_self] at hpair
        exact absurd hpair List.not_mem_nil
      · rw [Function.update_of_ne hx] at hpair
        exact ⟨d, hd, pair, hpair, hidx⟩
  · rw [hbuckets]
    exact h.nodup idx

/-- A client that leaves with all its nodes recorded takes them along. -/
theorem Subscribed.remove (h : s.Subscribed pairs) (fd : Int)
    (hrec : ∀ a, s.findByFd fd = some a → s.AllRecorded a) :
    ∃ s', s.wsRegistryRemove fd = some s' ∧ s'.Subscribed pairs ∧
      ∀ x c, s'.heap x = some c → s.heap x = some c ∧ (s.AllRecorded x → s'.AllRecorded x) := by
  cases hfind : s.findByFd fd with
  | none => exact ⟨s, remove_none hfind, h, fun _ _ hc => ⟨hc, id⟩⟩
  | some a =>
      obtain ⟨c, hc, -⟩ := h.indexed.findByFd hfind
      refine ⟨_, remove_eq hfind hc, ⟨h.indexed.unregister hfind rfl rfl rfl rfl, ?_, ?_⟩, ?_⟩
      · intro idx x
        dsimp only
        constructor
        · intro hx
          have hin := (foldl_unlinkTopic_sublist a c.subscribedTopics s.buckets idx).subset hx
          have hxa : x ≠ a := by
            rintro rfl
            exact not_mem_foldl_unlinkTopic x (h.nodup idx) (hrec x hfind c hc idx hin) hx
          obtain ⟨d, hd, hpair⟩ := (h.nodes idx x).mp hin
          exact ⟨d, update_none_eq_some_iff.mpr ⟨hxa, hd⟩, hpair⟩
        · rintro ⟨d, hd, hpair⟩
          obtain ⟨hxa, hd⟩ := update_none_eq_some_iff.mp hd
          exact (mem_foldl_unlinkTopic hxa _ _ idx).mpr ((h.nodes idx x).mpr ⟨d, hd, hpair⟩)
      · intro idx
        exact (foldl_unlinkTopic_sublist a c.subscribedTopics s.buckets idx).nodup (h.nodup idx)
      · intro x d hd
        obtain ⟨hxa, hd⟩ := update_none_eq_some_iff.mp hd
        refine ⟨hd, fun hx e he idx hmem => ?_⟩
        obtain ⟨-, he⟩ := update_none_eq_some_iff.mp he
        exact hx e he idx ((mem_foldl_unlinkTopic hxa _ _ idx).mp hmem)

theorem Subscribed.reaper (h : s.Subscribed pairs)
    (hrec : ∀ a, some a ∈ s.clients → s.AllRecorded a) (now : Nat) :
    ∃ s', s.wsRegistryReaper now = some s' ∧ s'.Subscribed pairs := by
  have hstep : ∀ s : HalmosWSRegistry,
      (s.Subscribed pairs ∧ ∀ a, some a ∈ s.clients → s.AllRecorded a) → ∀ fd,
      ∃ s', s.wsRegistryRemove fd = some s' ∧
        s'.Subscribed pairs ∧ ∀ a, some a ∈ s'.clients → s'.AllRecorded a := by
    rintro s ⟨hs, hall⟩ fd
    obtain ⟨s', hs', hkeep, hrest⟩ := hs.remove fd fun a ha => by
      obtain ⟨c, hc, -⟩ := hs.indexed.findByFd ha
      exact hall a (hs.indexed.mem_clients hc)
    refine ⟨s', hs', hkeep, fun a ha => ?_⟩
    obtain ⟨c, hc⟩ := Option.isSome_iff_exists.mp ((hkeep.indexed.slots_live a).mp ha)
    obtain ⟨hbefore, hrecorded⟩ := hrest a c hc
    exact hrecorded (hall a (hs.indexed.mem_clients hbefore))
  obtain ⟨s', hs', hkeep, -⟩ := h.indexed.reaper_keeps hstep ⟨h, hrec⟩ now
  exact ⟨s', hs', hkeep⟩

/-- A client that subscribes gets a node in the bucket of the pair, if it has none there. -/
theorem Subscribed.addToTopic (h : s.Subscribed pairs) (fd : Int) (appId topic : List UInt8) :
    ∃ s', s.wsRegistryAddToTopic fd appId topic = some s' ∧
      s'.Subscribed (s.subscribedAfter pairs (.addToTopic fd appId topic)) := by
  have hafter : s.subscribedAfter pairs (.addToTopic fd appId topic)
      = match (s.findByFd fd).filter (fun a => (s.heap a).any (fun c => c.isActive)) with
        | some a => Function.update pairs a ((appId, topic) :: pairs a)
        | none => pairs := rfl
  rw [hafter]
  rcases addToTopic_spec h.indexed fd appId topic with ⟨hnone, hsame⟩ | ⟨a, c, hfind, hc, hnew⟩
  · rw [hnone]
    exact ⟨s, hsame, h⟩
  · have hactive : (s.heap a).any (fun c => c.isActive) = true := by
      rw [hc]
      exact (h.indexed.valid a c hc).2
    rw [hfind, Option.filter_some, if_pos hactive]
    dsimp only at hnew ⊢
    set key := subscribeKey appId topic with hkey
    -- a node more in one chain, and a pair more for one client
    have hkeep : ∀ s' : HalmosWSRegistry, s'.Indexed →
        (∀ x, (∃ d, s'.heap x = some d) ↔ ∃ d, s.heap x = some d) →
        (∀ idx x, x ∈ chain s'.buckets idx ↔
          x ∈ chain s.buckets idx ∨ x = a ∧ hashTopic key = idx) →
        (∀ idx, (chain s'.buckets idx).Nodup) →
        s'.Subscribed (Function.update pairs a ((appId, topic) :: pairs a)) := by
      intro s' hs' hlive hchain hnodup
      refine ⟨hs', fun idx x => ?_, hnodup⟩
      rw [hchain, h.nodes, exists_and_right, exists_and_right, hlive]
      by_cases hx : x = a
      · subst hx
        have hidx : bucketIdx (appId, topic) = hashTopic key := rfl
        rw [Function.update_self, List.exists_mem_cons_iff, hidx]
        have hthere : ∃ d, s.heap x = some d := ⟨c, hc⟩
        constructor
        · rintro (⟨-, hpair⟩ | ⟨-, heq⟩)
          · exact ⟨hthere, .inr hpair⟩
          · exact ⟨hthere, .inl heq⟩
        · rintro ⟨-, heq | hpair⟩
          · exact .inr ⟨rfl, heq⟩
          · exact .inl ⟨hthere, hpair⟩
      · rw [Function.update_of_ne hx]
        simp [hx]
    by_cases hmem : a ∈ (s.bucketOf key).subscribers
    · rw [if_pos hmem] at hnew
      rw [bucketOf_subscribers] at hmem
      have hchain := chain_update_bucketOf (s := s) key
      refine ⟨_, hnew, hkeep _ (h.indexed.of_buckets _) (fun _ => Iff.rfl) ?_ ?_⟩
      · intro idx x
        dsimp only
        rw [hchain]
        refine ⟨.inl, ?_⟩
        rintro (hx | ⟨rfl, rfl⟩)
        · exact hx
        · exact hmem
      · intro idx
        dsimp only
        rw [hchain]
        exact h.nodup idx
    · rw [if_neg hmem] at hnew
      rw [bucketOf_subscribers] at hmem hnew
      refine ⟨_, hnew, hkeep _ ?_ ?_ ?_ ?_⟩
      · exact h.indexed.of_update hc rfl rfl rfl rfl (record_fd c _) (record_isActive c _)
      · intro x
        dsimp only
        by_cases hx : x = a
        · subst hx
          simp [hc]
        · rw [Function.update_of_ne hx]
      · intro idx x
        dsimp only
        rw [chain_update]
        split
        · next hidx =>
            subst hidx
            rw [List.mem_cons]
            exact ⟨fun hx => hx.symm.imp id fun heq => ⟨heq, rfl⟩,
              fun hx => hx.symm.imp And.left id⟩
        · next hidx =>
            exact ⟨.inl, fun hx => hx.resolve_right fun hno => hidx hno.2.symm⟩
      · intro idx
        dsimp only
        rw [chain_update]
        split
        · exact List.nodup_cons.mpr ⟨hmem, h.nodup _⟩
        · exact h.nodup idx

/-- A client that is added has subscribed to nothing yet. -/
theorem Subscribed.addClient (h : s.Subscribed pairs) (fd : Int) (ssl isHttp2 : Bool)
    (streamId now : Nat) {calloc : Option Addr}
    (hfresh : ∀ a, calloc = some a → s.heap a = none) :
    (s.addClient fd ssl isHttp2 streamId now calloc).2.Subscribed
      (calloc.elim pairs fun a => Function.update pairs a []) := by
  rcases s.addClient_spec fd ssl isHttp2 streamId now calloc with
    hsame | ⟨i, a, c, rfl, hc, hnew⟩
  · rw [hsame]
    cases calloc with
    | none => exact h
    | some a =>
        refine ⟨h.indexed, fun idx x => ?_, h.nodup⟩
        rw [h.nodes, Option.elim_some]
        by_cases hx : x = a
        · subst hx
          simp [hfresh x rfl]
        · rw [Function.update_of_ne hx]
  · have hnone := hfresh a rfl
    rw [hnew]
    exact h.register (h.indexed.register hc hnone _) hnone rfl rfl

/-- **One operation**: the chains hold the clients that have subscribed. -/
theorem Subscribed.apply (h : s.Subscribed pairs) {op : RegistryOp} (hfresh : s.AllocFresh op)
    (hleave : s.Leavable op) :
    ∃ s', s.apply op = some s' ∧ s'.Subscribed (s.subscribedAfter pairs op) := by
  cases op with
  | add fd ssl now calloc =>
      refine ⟨_, rfl, ?_⟩
      cases calloc with
      | none => exact h.addClient fd ssl false 0 now fun _ ha => nomatch ha
      | some a => exact h.addClient fd ssl false 0 now fun _ ha => Option.some.inj ha ▸ hfresh
  | addH2 fd ssl streamId now calloc =>
      refine ⟨_, rfl, ?_⟩
      cases calloc with
      | none => exact h.addClient fd ssl true streamId now fun _ ha => nomatch ha
      | some a =>
          exact h.addClient fd ssl true streamId now fun _ ha => Option.some.inj ha ▸ hfresh
  | remove fd =>
      obtain ⟨s', hs', hkeep, -⟩ := h.remove fd hleave
      exact ⟨s', hs', hkeep⟩
  | updateActivity fd now =>
      rcases updateActivity_spec h.indexed fd now with hsame | ⟨a, c, hc, hnew⟩
      · exact ⟨s, hsame, h⟩
      · exact ⟨_, hnew, h.of_update (h.indexed.of_update hc rfl rfl rfl rfl rfl rfl) hc rfl rfl⟩
  | reaper now => exact h.reaper hleave now
  | addToTopic fd appId topic => exact h.addToTopic fd appId topic
  | setUserId fd userId =>
      rcases setUserId_spec h.indexed fd userId with ⟨-, hsame⟩ | ⟨a, c, -, -, hc, hnew⟩
      · exact ⟨s, hsame, h⟩
      · exact ⟨_, hnew, h.of_update (h.indexed.of_update hc (unlinkUser_clients a _)
          (unlinkUser_fdMap a _) (unlinkUser_currentCount a _) rfl rfl rfl) hc
          (unlinkUser_buckets a _) rfl⟩

/-! ## The walk along a chain -/

variable {heap : Addr → Option HalmosWSClient} {frame : Buffer 4096} {message : List UInt8}
  {subscribers sent : List Addr}

/-- With all the clients of a chain there and active, the walk sends to those a frame is built
for. It leaves the array of a frame exactly if the frame of one of them does not fit. -/
theorem publishMessage_spec
    (hlive : ∀ a ∈ subscribers, ∃ c, heap a = some c ∧ c.isActive = true) :
    publishMessage heap frame message subscribers
      = if ∀ a ∈ subscribers, ∀ c, heap a = some c → c.FrameFits message then
          some (subscribers.filter fun a => (heap a).any fun c => c.takes message)
        else none := by
  induction subscribers with
  | nil => rfl
  | cons a rest ih =>
      obtain ⟨c, hc, hactive⟩ := hlive a List.mem_cons_self
      have hrest := ih fun x hx => hlive x (List.mem_cons_of_mem a hx)
      have hhead : (∀ x ∈ a :: rest, ∀ d, heap x = some d → d.FrameFits message) ↔
          c.FrameFits message ∧ ∀ x ∈ rest, ∀ d, heap x = some d → d.FrameFits message := by
        simp only [List.forall_mem_cons, hc, Option.some.injEq, forall_eq']
      have hwalk : publishMessage heap frame message (a :: rest) = (do
          let sent ← c.publishedTo frame message
          let others ← publishMessage heap frame message rest
          some (if sent then a :: others else others)) := by
        simp only [publishMessage, hc, if_pos hactive]
      rw [hwalk, hrest, List.filter_cons, hc]
      rcases c.publishedTo_spec frame message with ⟨hfits, hsent⟩ | ⟨hout, hsent⟩
      · rw [hsent]
        by_cases hall : ∀ x ∈ rest, ∀ d, heap x = some d → d.FrameFits message
        · rw [if_pos hall, if_pos (hhead.mpr ⟨hfits, hall⟩)]
          rfl
        · rw [if_neg hall, if_neg fun h => hall (hhead.mp h).2]
          rfl
      · rw [hsent, if_neg fun h => hout (hhead.mp h).1]
        rfl

/-- The walk with the message sends to clients of the walk without it. -/
theorem publishMessage_publishTo (h : publishMessage heap frame message subscribers = some sent) :
    ∃ clients, publishTo heap subscribers = some clients ∧
      sent.filterMap heap = clients.filter fun c => c.takes message := by
  induction subscribers generalizing sent with
  | nil =>
      obtain rfl := Option.some.inj h
      exact ⟨[], rfl, rfl⟩
  | cons a rest ih =>
      simp only [publishMessage] at h
      cases hc : heap a with
      | none =>
          rw [hc] at h
          cases h
      | some c =>
          simp only [hc] at h
          by_cases hactive : c.isActive = true
          · rw [if_pos hactive] at h
            obtain ⟨b, hb, h⟩ := Option.bind_eq_some_iff.mp h
            obtain ⟨others, hothers, h⟩ := Option.bind_eq_some_iff.mp h
            obtain ⟨clients, hclients, heq⟩ := ih hothers
            obtain rfl := Option.some.inj h
            refine ⟨c :: clients, by simp [publishTo, hc, hclients, hactive], ?_⟩
            have htakes : b = c.takes message := by
              rcases c.publishedTo_spec frame message with ⟨-, hsent⟩ | ⟨-, hsent⟩
              · exact Option.some.inj (hb.symm.trans hsent)
              · rw [hb] at hsent
                cases hsent
            rw [List.filter_cons, ← htakes, ← heq]
            cases b with
            | true => simp [hc]
            | false => rfl
          · rw [if_neg hactive] at h
            obtain ⟨clients, hclients, heq⟩ := ih h
            exact ⟨clients, by simp [publishTo, hc, hclients, hactive], heq⟩

/-- What a message is sent to: the registered clients with a subscription in the bucket of its
key, if a frame is built for them. -/
theorem Subscribed.publish_spec (h : s.Subscribed pairs) {appId topic : List UInt8} :
    s.wsRegistryPublishMessage frame appId topic message
      = if ∀ a ∈ chain s.buckets (hashTopic (publishKey appId topic)),
          ∀ c, s.heap a = some c → c.FrameFits message then
          some ((chain s.buckets (hashTopic (publishKey appId topic))).filter fun a =>
            (s.heap a).any fun c => c.takes message)
        else none := by
  refine publishMessage_spec fun x hx => ?_
  obtain ⟨c, hc, -⟩ := (h.nodes _ x).mp hx
  exact ⟨c, hc, (h.indexed.valid x c hc).2⟩

/-- A message stays in its array if the frames for all the clients in the bucket do. -/
theorem Subscribed.publish_isSome_iff (h : s.Subscribed pairs) {appId topic : List UInt8} :
    (s.wsRegistryPublishMessage frame appId topic message).isSome ↔
      ∀ a c, s.heap a = some c →
        (∃ pair ∈ pairs a, bucketIdx pair = hashTopic (publishKey appId topic)) →
        c.FrameFits message := by
  have hall : (∀ a ∈ chain s.buckets (hashTopic (publishKey appId topic)),
      ∀ c, s.heap a = some c → c.FrameFits message) ↔ ∀ a c, s.heap a = some c →
        (∃ pair ∈ pairs a, bucketIdx pair = hashTopic (publishKey appId topic)) →
        c.FrameFits message := by
    refine forall_congr' fun a => ⟨fun hfits c hc hpair => ?_, fun hfits hmem c hc => ?_⟩
    · exact hfits ((h.nodes _ a).mpr ⟨c, hc, hpair⟩) c hc
    · obtain ⟨-, -, hpair⟩ := (h.nodes _ a).mp hmem
      exact hfits c hc hpair
  rw [h.publish_spec, ← hall]
  split
  · next hfits => exact ⟨fun _ => hfits, fun _ => rfl⟩
  · next hfits => exact ⟨fun hno => absurd hno Bool.false_ne_true, fun hyes => absurd hyes hfits⟩

theorem Subscribed.mem_sent (h : s.Subscribed pairs) {appId topic : List UInt8}
    (hsent : s.wsRegistryPublishMessage frame appId topic message = some sent) (a : Addr) :
    a ∈ sent ↔ ∃ c, s.heap a = some c ∧ c.takes message = true ∧
      ∃ pair ∈ pairs a, bucketIdx pair = hashTopic (publishKey appId topic) := by
  rw [h.publish_spec] at hsent
  split at hsent
  · obtain rfl := Option.some.inj hsent
    rw [List.mem_filter, h.nodes]
    constructor
    · rintro ⟨⟨c, hc, hpair⟩, htakes⟩
      rw [hc] at htakes
      exact ⟨c, hc, htakes, hpair⟩
    · rintro ⟨c, hc, htakes, hpair⟩
      rw [hc]
      exact ⟨⟨c, rfl, hpair⟩, htakes⟩
  · cases hsent

/-- No client is sent a message twice. -/
theorem Subscribed.nodup_sent (h : s.Subscribed pairs) {appId topic : List UInt8}
    (hsent : s.wsRegistryPublishMessage frame appId topic message = some sent) : sent.Nodup := by
  rw [h.publish_spec] at hsent
  split at hsent
  · obtain rfl := Option.some.inj hsent
    exact (h.nodup _).filter _
  · cases hsent

end HalmosWSRegistry

/-! ## Runs -/

/-- The registry, `none` once freed memory is touched, and the pairs of application and topic
each client has subscribed to. -/
structure SubscribedRegistry where
  registry : Option HalmosWSRegistry
  pairs : Addr → List (List UInt8 × List UInt8)

namespace SubscribedRegistry

open HalmosWSRegistry

def init : SubscribedRegistry := ⟨some wsRegistryInit, fun _ => []⟩

/-- One operation. -/
def step (r : SubscribedRegistry) (op : RegistryOp) : SubscribedRegistry where
  registry := applyTo r.registry op
  pairs := r.registry.elim r.pairs (fun s => s.subscribedAfter r.pairs op)

/-- `calloc` returns free addresses, and clients leave with all their nodes recorded. -/
def Tidy (r : SubscribedRegistry) (op : RegistryOp) : Prop :=
  ∀ s, r.registry = some s → s.AllocFresh op ∧ s.Leavable op

/-- No freed memory has been touched, and the chains hold the clients that have subscribed. -/
def Right (r : SubscribedRegistry) : Prop :=
  Holds (fun s => s.Subscribed r.pairs) r.registry

theorem init_right : init.Right := ⟨_, rfl, init_subscribed⟩

theorem Right.step {r : SubscribedRegistry} {op : RegistryOp} (hr : r.Right)
    (htidy : r.Tidy op) : (r.step op).Right := by
  obtain ⟨registry, pairs⟩ := r
  obtain ⟨s, rfl, hs⟩ := hr
  obtain ⟨hfresh, hleave⟩ := htidy s rfl
  obtain ⟨s', hs', hkeep⟩ := hs.apply hfresh hleave
  exact ⟨s', hs', hkeep⟩

end SubscribedRegistry

open HalmosWSRegistry SubscribedRegistry in
/-- **Whom a message reaches.** After any run, a message published to an application and a topic
is sent to subscribers of the two only if and only if every client a frame is built for that has
a subscription in the same bucket has subscribed to these two. -/
theorem publish_isolated_iff (ops : List RegistryOp) (h : GuardedRun Tidy step .init ops)
    (frame : Buffer 4096) (appId topic message : List UInt8) (sent : List Addr)
    (s : HalmosWSRegistry) (hs : (runSteps step .init ops).registry = some s)
    (hsent : s.wsRegistryPublishMessage frame appId topic message = some sent) :
    let pairs := (runSteps step .init ops).pairs
    (∀ a ∈ sent, (appId, topic) ∈ pairs a) ↔
      ∀ a c, s.heap a = some c → c.takes message = true →
        (∃ pair ∈ pairs a, bucketIdx pair = hashTopic (publishKey appId topic)) →
        (appId, topic) ∈ pairs a := by
  intro pairs
  obtain ⟨r, hr, hsub⟩ := GuardedRun.invariant (fun _ _ => Right.step) init_right h
  obtain rfl := Option.some.inj (hs.symm.trans hr)
  simp only [hsub.mem_sent hsent]
  constructor
  · intro hall a c hc htakes hpair
    exact hall a ⟨c, hc, htakes, hpair⟩
  · rintro hall a ⟨c, hc, htakes, hpair⟩
    exact hall a c hc htakes hpair

/-- The client on descriptor 5 subscribes to two topics of `GLOBAL`, the one on descriptor 6 to
one of them. -/
def threeSubscriptions : List RegistryOp :=
  [.add 5 false 100 (some 0), .add 6 false 100 (some 1),
    .addToTopic 5 (ascii "GLOBAL") (ascii "news"), .addToTopic 6 (ascii "GLOBAL") (ascii "news"),
    .addToTopic 5 (ascii "GLOBAL") (ascii "bA")]

theorem threeSubscriptions_tidy :
    GuardedRun SubscribedRegistry.Tidy SubscribedRegistry.step .init threeSubscriptions := by
  refine ⟨?_, ?_, ?_, ?_, ?_, trivial⟩
  all_goals
    intro s hs
    obtain rfl := Option.some.inj hs
    first
      | exact ⟨rfl, trivial⟩
      | exact ⟨trivial, trivial⟩

open HalmosWSRegistry SubscribedRegistry in
/-- A message to the topic of both clients: they are the only ones with a subscription in its
bucket. -/
theorem publish_isolated_both :
    let after := runSteps step .init threeSubscriptions
    ∃ s, after.registry = some s ∧
      s.wsRegistryPublishMessage (.zeros 4096) (ascii "GLOBAL") (ascii "news") (ascii "hello")
        = some [1, 0] ∧
      ∀ a c, s.heap a = some c → c.takes (ascii "hello") = true →
        (∃ pair ∈ after.pairs a,
          bucketIdx pair = hashTopic (publishKey (ascii "GLOBAL") (ascii "news"))) →
        (ascii "GLOBAL", ascii "news") ∈ after.pairs a := by
  intro after
  have hboth : after.registry.map (fun s => s.wsRegistryPublishMessage (.zeros 4096)
      (ascii "GLOBAL") (ascii "news") (ascii "hello")) = some (some [1, 0]) := by
    decide +kernel
  obtain ⟨s, hs, hsent⟩ := Option.map_eq_some_iff.mp hboth
  refine ⟨s, hs, hsent, ?_⟩
  refine (publish_isolated_iff threeSubscriptions threeSubscriptions_tidy _ _ _ _ _ s hs
    hsent).mp ?_
  decide +kernel

open HalmosWSRegistry SubscribedRegistry in
/-- `GLOBAL:ab` has the hash of `GLOBAL:bA`: a message to the topic `ab` is sent to the client that
has subscribed to `bA`. -/
theorem publish_reaches_other_topic :
    let after := runSteps step .init threeSubscriptions
    after.registry.map (fun s => s.wsRegistryPublishMessage (.zeros 4096) (ascii "GLOBAL")
        (ascii "ab") (ascii "hello")) = some (some [0]) ∧
      (ascii "GLOBAL", ascii "ab") ∉ after.pairs 0 := by
  decide +kernel

end Halmos.WebSocket
