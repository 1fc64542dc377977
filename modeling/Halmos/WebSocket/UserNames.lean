import Halmos.WebSocket.RegistryIndex

set_option autoImplicit false

/-! # The names of the clients

`ws_registry_set_user_id` stores the first 63 bytes of a name in the client's record and puts the
client into the chain of the whole name; removing and renaming a client look for it in the chain
of what is stored. `NamedRegistry` runs the registry beside the names that were given, in full.
The chains and the lookup by name are right exactly as long as no client is given a name of more
than 63 bytes (`names_run`).
-/

namespace Halmos.WebSocket

namespace HalmosWSRegistry

/-- The walk of `ws_registry_get_session_info` along a chain: the first active client with the
name, whose descriptor, session and `SSL` are returned. -/
def sessionIn (heap : Addr → Option HalmosWSClient) (name : List UInt8) :
    List Addr → Option (Option HalmosWSClient)
  | [] => some none
  | a :: rest =>
      match heap a with
      | none => none
      | some c =>
          if c.isActive = true ∧ c.userId = name then some (some c) else sessionIn heap name rest

/-- `ws_registry_get_session_info(name, ..)`. -/
def wsRegistryGetSessionInfo (s : HalmosWSRegistry) (name : List UInt8) :
    Option (Option HalmosWSClient) :=
  sessionIn s.heap name (s.userMap (hashTopic name))

/-- The client a name is given to: an active one on the descriptor. -/
def namedBy (s : HalmosWSRegistry) (fd : Int) (userId : List UInt8) : Option Addr :=
  if userId = [] then none
  else (s.findByFd fd).filter (fun a => (s.heap a).any (fun c => c.isActive))

/-- The names the clients were last given, behind an operation. -/
def latestAfter (s : HalmosWSRegistry) (latest : Addr → Option (List UInt8)) :
    RegistryOp → Addr → Option (List UInt8)
  | .add _ _ _ (some a) => Function.update latest a none
  | .addH2 _ _ _ _ (some a) => Function.update latest a none
  | .setUserId fd userId =>
      match s.namedBy fd userId with
      | some a => Function.update latest a (some userId)
      | none => latest
  | _ => latest

/-- What the chains of names are for. Each client has at most one node, in the chain of its
stored name, and no node is one of a removed client; and the lookup of a name succeeds exactly if
it is the latest name of some registered client, and returns such a client. -/
structure NamesAgree (s : HalmosWSRegistry) (latest : Addr → Option (List UInt8)) : Prop where
  one_node : ∀ idx a, (s.userMap idx).count a ≤ 1
  bucket : ∀ idx a, a ∈ s.userMap idx →
    some a ∈ s.clients ∧ ∃ c, s.heap a = some c ∧ hashTopic c.userId = idx
  found : ∀ name, ∃ res, s.wsRegistryGetSessionInfo name = some res ∧
    (res.isSome ↔ ∃ a, some a ∈ s.clients ∧ latest a = some name) ∧
    ∀ c, res = some c → ∃ a, some a ∈ s.clients ∧ s.heap a = some c ∧ latest a = some name

/-! ## The chains -/

/-- The chains hold the named clients, each under the name it has stored, which is the one it
was given last. -/
structure Named (s : HalmosWSRegistry) (latest : Addr → Option (List UInt8)) : Prop where
  indexed : s.Indexed
  short : ∀ a c, s.heap a = some c → c.userId.length ≤ 63
  stored : ∀ a c, s.heap a = some c → latest a = if c.userId = [] then none else some c.userId
  nodes : ∀ idx a, a ∈ s.userMap idx ↔
    ∃ c, s.heap a = some c ∧ c.userId ≠ [] ∧ hashTopic c.userId = idx
  nodup : ∀ idx, (s.userMap idx).Nodup

variable {s : HalmosWSRegistry} {latest : Addr → Option (List UInt8)}

theorem init_named : wsRegistryInit.Named (fun _ => none) where
  indexed := init_indexed
  short := fun _ _ h => nomatch h
  stored := fun _ _ h => nomatch h
  nodes := fun _ _ => ⟨fun h => absurd h List.not_mem_nil, fun ⟨_, h, _⟩ => nomatch h⟩
  nodup := fun _ => List.nodup_nil

/-- Unlinking a client takes its node out, and no other. -/
theorem Named.mem_unlinkUser (h : s.Named latest) {a : Addr} {c : HalmosWSClient}
    (hc : s.heap a = some c) (idx : Nat) (x : Addr) :
    x ∈ (s.unlinkUser a c.userId).userMap idx ↔ x ≠ a ∧ x ∈ s.userMap idx := by
  have hself : ∀ idx, a ∈ s.userMap idx → c.userId ≠ [] ∧ hashTopic c.userId = idx := by
    intro idx ha
    obtain ⟨d, hd, hne, hidx⟩ := (h.nodes idx a).mp ha
    obtain rfl : d = c := Option.some.inj (hd.symm.trans hc)
    exact ⟨hne, hidx⟩
  unfold unlinkUser
  split
  · by_cases hidx : idx = hashTopic c.userId
    · subst hidx
      dsimp only
      rw [Function.update_self, (h.nodup _).mem_erase_iff]
    · dsimp only
      rw [Function.update_of_ne hidx]
      refine ⟨fun hx => ⟨?_, hx⟩, fun hx => hx.2⟩
      rintro rfl
      exact hidx (hself idx hx).2.symm
  · next hempty =>
      refine ⟨fun hx => ⟨?_, hx⟩, fun hx => hx.2⟩
      rintro rfl
      exact hempty (List.length_pos_iff.mpr (hself idx hx).1)

theorem Named.nodup_unlinkUser (h : s.Named latest) (a : Addr) (userId : List UInt8) (idx : Nat) :
    ((s.unlinkUser a userId).userMap idx).Nodup := by
  unfold unlinkUser
  split
  · by_cases hidx : idx = hashTopic userId
    · subst hidx
      dsimp only
      rw [Function.update_self]
      exact (h.nodup _).erase a
    · dsimp only
      rw [Function.update_of_ne hidx]
      exact h.nodup idx
  · exact h.nodup idx

/-! ## What the operations keep -/

/-- A client may be changed, but for its name. -/
theorem Named.of_update (h : s.Named latest) {s' : HalmosWSRegistry} (hs' : s'.Indexed) {a : Addr}
    {c c' : HalmosWSClient} (hc : s.heap a = some c) (huserMap : s'.userMap = s.userMap)
    (hheap : s'.heap = Function.update s.heap a (some c')) (hname : c'.userId = c.userId) :
    s'.Named latest := by
  -- the clients have the names they had
  have hnames : ∀ x d, s'.heap x = some d → ∃ e, s.heap x = some e ∧ d.userId = e.userId := by
    intro x d hd
    rw [hheap, update_eq_some_iff] at hd
    rcases hd with ⟨rfl, hd⟩ | ⟨-, hd⟩
    · obtain rfl := Option.some.inj hd
      exact ⟨c, hc, hname⟩
    · exact ⟨d, hd, rfl⟩
  have hback : ∀ x e, s.heap x = some e → ∃ d, s'.heap x = some d ∧ d.userId = e.userId := by
    intro x e he
    rw [hheap]
    by_cases hx : x = a
    · subst hx
      obtain rfl : e = c := Option.some.inj (he.symm.trans hc)
      exact ⟨c', Function.update_self .., hname⟩
    · exact ⟨e, (Function.update_of_ne hx _ _).trans he, rfl⟩
  refine ⟨hs', ?_, ?_, ?_, ?_⟩
  · intro x d hd
    obtain ⟨e, he, heq⟩ := hnames x d hd
    rw [heq]
    exact h.short x e he
  · intro x d hd
    obtain ⟨e, he, heq⟩ := hnames x d hd
    rw [heq]
    exact h.stored x e he
  · intro idx x
    rw [huserMap, h.nodes]
    constructor
    · rintro ⟨e, he, hne, hidx⟩
      obtain ⟨d, hd, heq⟩ := hback x e he
      exact ⟨d, hd, heq ▸ hne, heq ▸ hidx⟩
    · rintro ⟨d, hd, hne, hidx⟩
      obtain ⟨e, he, heq⟩ := hnames x d hd
      exact ⟨e, he, heq ▸ hne, heq ▸ hidx⟩
  · intro idx
    rw [huserMap]
    exact h.nodup idx

theorem Named.register (h : s.Named latest) {s' : HalmosWSRegistry} (hs' : s'.Indexed) {a : Addr}
    {c : HalmosWSClient} (hfresh : s.heap a = none) (hname : c.userId = [])
    (huserMap : s'.userMap = s.userMap)
    (hheap : s'.heap = Function.update s.heap a (some c)) :
    s'.Named (Function.update latest a none) := by
  have hcases : ∀ x d, s'.heap x = some d → x = a ∧ c = d ∨ x ≠ a ∧ s.heap x = some d := by
    intro x d hd
    rw [hheap, update_eq_some_iff, Option.some.injEq] at hd
    exact hd
  refine ⟨hs', ?_, ?_, ?_, ?_⟩
  · intro x d hd
    rcases hcases x d hd with ⟨rfl, rfl⟩ | ⟨-, hd⟩
    · rw [hname]
      exact Nat.zero_le 63
    · exact h.short x d hd
  · intro x d hd
    rcases hcases x d hd with ⟨rfl, rfl⟩ | ⟨hx, hd⟩
    · rw [Function.update_self, if_pos hname]
    · rw [Function.update_of_ne hx]
      exact h.stored x d hd
  · intro idx x
    rw [huserMap, h.nodes]
    constructor
    · rintro ⟨d, hd, hne, hidx⟩
      have hx : x ≠ a := by
        rintro rfl
        rw [hfresh] at hd
        cases hd
      refine ⟨d, ?_, hne, hidx⟩
      rw [hheap]
      exact (Function.update_of_ne hx _ _).trans hd
    · rintro ⟨d, hd, hne, hidx⟩
      rcases hcases x d hd with ⟨-, rfl⟩ | ⟨-, hd⟩
      · exact absurd hname hne
      · exact ⟨d, hd, hne, hidx⟩
  · intro idx
    rw [huserMap]
    exact h.nodup idx

theorem Named.remove (h : s.Named latest) (fd : Int) :
    ∃ s', s.wsRegistryRemove fd = some s' ∧ s'.Named latest := by
  cases hfind : s.findByFd fd with
  | none => exact ⟨s, remove_none hfind, h⟩
  | some a =>
      obtain ⟨c, hc, -⟩ := h.indexed.findByFd hfind
      refine ⟨_, remove_eq hfind hc, h.indexed.unregister hfind rfl rfl rfl rfl, ?_, ?_, ?_, ?_⟩
      · intro x d hd
        obtain ⟨-, hd⟩ := update_none_eq_some_iff.mp hd
        exact h.short x d hd
      · intro x d hd
        obtain ⟨-, hd⟩ := update_none_eq_some_iff.mp hd
        exact h.stored x d hd
      · intro idx x
        rw [h.mem_unlinkUser hc, h.nodes]
        constructor
        · rintro ⟨hx, d, hd, hnamed⟩
          exact ⟨d, update_none_eq_some_iff.mpr ⟨hx, hd⟩, hnamed⟩
        · rintro ⟨d, hd, hnamed⟩
          obtain ⟨hx, hd⟩ := update_none_eq_some_iff.mp hd
          exact ⟨hx, d, hd, hnamed⟩
      · exact h.nodup_unlinkUser a c.userId

theorem Named.namedBy (h : s.Named latest) (fd : Int) (userId : List UInt8) :
    s.namedBy fd userId = if userId = [] then none else s.findByFd fd := by
  unfold HalmosWSRegistry.namedBy
  by_cases hempty : userId = []
  · rw [if_pos hempty, if_pos hempty]
  · rw [if_neg hempty, if_neg hempty]
    cases hfind : s.findByFd fd with
    | none => rfl
    | some a =>
        obtain ⟨c, hc, -, hactive⟩ := h.indexed.findByFd hfind
        rw [Option.filter_some, if_pos]
        rw [hc]
        exact hactive

/-- A client that is given a short name sits in the chain of what it stores. -/
theorem Named.setUserId (h : s.Named latest) {fd : Int} {userId : List UInt8}
    (hshort : s.namedBy fd userId ≠ none → userId.length ≤ 63) :
    ∃ s', s.wsRegistrySetUserId fd userId = some s' ∧
      s'.Named (s.latestAfter latest (.setUserId fd userId)) := by
  have hlatest : s.latestAfter latest (.setUserId fd userId)
      = match s.namedBy fd userId with
        | some a => Function.update latest a (some userId)
        | none => latest := rfl
  rw [hlatest, h.namedBy]
  rw [h.namedBy] at hshort
  rcases setUserId_spec h.indexed fd userId with ⟨hno, hsame⟩ | ⟨a, c, hne, hfind, hc, hnew⟩
  · refine ⟨s, hsame, ?_⟩
    have hnone : (if userId = [] then none else s.findByFd fd) = none := by
      rcases hno with hempty | hnone
      · exact if_pos hempty
      · rw [hnone]
        exact ite_self none
    rw [hnone]
    exact h
  · rw [if_neg hne, hfind] at hshort ⊢
    have hstored : userId.take 63 = userId := List.take_of_length_le (hshort (by simp))
    refine ⟨_, hnew, ?_, ?_, ?_, ?_, ?_⟩
    · exact h.indexed.of_update hc (unlinkUser_clients a _) (unlinkUser_fdMap a _)
        (unlinkUser_currentCount a _) rfl rfl rfl
    · intro x d hd
      rcases update_eq_some_iff.mp hd with ⟨rfl, hnamed⟩ | ⟨-, hd⟩
      · obtain rfl := Option.some.inj hnamed
        exact List.length_take_le 63 userId
      · exact h.short x d hd
    · intro x d hd
      rcases update_eq_some_iff.mp hd with ⟨rfl, hnamed⟩ | ⟨hx, hd⟩
      · obtain rfl := Option.some.inj hnamed
        dsimp only
        rw [Function.update_self, hstored, if_neg hne]
      · dsimp only
        rw [Function.update_of_ne hx]
        exact h.stored x d hd
    · intro idx x
      have hmem : x ∈ Function.update (s.unlinkUser a c.userId).userMap (hashTopic userId)
            (a :: (s.unlinkUser a c.userId).userMap (hashTopic userId)) idx ↔
          x = a ∧ hashTopic userId = idx ∨ x ≠ a ∧ x ∈ s.userMap idx := by
        rw [← h.mem_unlinkUser hc]
        by_cases hidx : idx = hashTopic userId
        · subst hidx
          simp
        · simp [hidx, Ne.symm hidx]
      dsimp only
      rw [hmem, h.nodes]
      constructor
      · rintro (⟨rfl, hidx⟩ | ⟨hx, d, hd, hnamed⟩)
        · refine ⟨_, update_eq_some_iff.mpr (.inl ⟨rfl, rfl⟩), ?_⟩
          dsimp only
          rw [hstored]
          exact ⟨hne, hidx⟩
        · exact ⟨d, update_eq_some_iff.mpr (.inr ⟨hx, hd⟩), hnamed⟩
      · rintro ⟨d, hd, hnamed⟩
        rcases update_eq_some_iff.mp hd with ⟨rfl, heq⟩ | ⟨hx, hd⟩
        · obtain rfl := Option.some.inj heq
          dsimp only at hnamed
          rw [hstored] at hnamed
          exact .inl ⟨rfl, hnamed.2⟩
        · exact .inr ⟨hx, d, hd, hnamed⟩
    · intro idx
      by_cases hidx : idx = hashTopic userId
      · subst hidx
        dsimp only
        rw [Function.update_self]
        refine List.nodup_cons.mpr ⟨?_, h.nodup_unlinkUser a c.userId _⟩
        rw [h.mem_unlinkUser hc]
        exact fun hmem => hmem.1 rfl
      · dsimp only
        rw [Function.update_of_ne hidx]
        exact h.nodup_unlinkUser a c.userId idx

/-- A client is given a name of at most 63 bytes, if it is given one. -/
def ShortName (s : HalmosWSRegistry) : RegistryOp → Prop
  | .setUserId fd userId => s.namedBy fd userId ≠ none → userId.length ≤ 63
  | _ => True

/-- A client that is added has no name yet. -/
theorem Named.addClient (h : s.Named latest) (fd : Int) (ssl isHttp2 : Bool) (streamId now : Nat)
    {calloc : Option Addr} (hfresh : ∀ a, calloc = some a → s.heap a = none) :
    (s.addClient fd ssl isHttp2 streamId now calloc).2.Named
      (calloc.elim latest fun a => Function.update latest a none) := by
  rcases s.addClient_spec fd ssl isHttp2 streamId now calloc with
    hsame | ⟨i, a, c, rfl, hc, hnew⟩
  · rw [hsame]
    cases calloc with
    | none => exact h
    | some a =>
        refine ⟨h.indexed, h.short, fun x d hd => ?_, h.nodes, h.nodup⟩
        have hx : x ≠ a := by
          rintro rfl
          rw [hfresh x rfl] at hd
          cases hd
        rw [Option.elim_some, Function.update_of_ne hx]
        exact h.stored x d hd
  · have hnone := hfresh a rfl
    rw [hnew]
    exact h.register (h.indexed.register hc hnone _) hnone hc.nameless rfl rfl

/-- **One operation** that gives no long name keeps the chains. -/
theorem Named.apply (h : s.Named latest) {op : RegistryOp} (hfresh : s.AllocFresh op)
    (hshort : s.ShortName op) :
    ∃ s', s.apply op = some s' ∧ s'.Named (s.latestAfter latest op) := by
  cases op with
  | add fd ssl now calloc =>
      refine ⟨_, rfl, ?_⟩
      cases calloc with
      | none => exact h.addClient fd ssl false 0 now fun _ ha => nomatch ha
      | some a => exact h.addClient fd ssl false 0 now fun _ ha => Option.some.inj ha ▸ hfresh
  | addH2 fd ssl streamId now calloc =>
      refine ⟨_, rfl, ?_⟩
      cases calloc with
      | none => exact h.addClient fd ssl true streamId now fun _ ha => nomatch ha
      | some a =>
          exact h.addClient fd ssl true streamId now fun _ ha => Option.some.inj ha ▸ hfresh
  | remove fd => exact h.remove fd
  | updateActivity fd now =>
      rcases updateActivity_spec h.indexed fd now with hsame | ⟨a, c, hc, hnew⟩
      · exact ⟨s, hsame, h⟩
      · exact ⟨_, hnew, h.of_update (h.indexed.of_update hc rfl rfl rfl rfl rfl rfl) hc rfl rfl rfl⟩
  | reaper now => exact h.indexed.reaper_keeps (fun _ hs fd => hs.remove fd) h now
  | addToTopic fd appId topic =>
      rcases addToTopic_spec h.indexed fd appId topic with ⟨-, hsame⟩ | ⟨a, c, -, hc, hnew⟩
      · exact ⟨s, hsame, h⟩
      · refine ⟨_, hnew, ?_⟩
        dsimp only
        split
        · exact ⟨h.indexed.of_buckets _, h.short, h.stored, h.nodes, h.nodup⟩
        · refine h.of_update (h.indexed.of_update hc rfl rfl rfl rfl (record_fd c _)
            (record_isActive c _)) hc rfl rfl ?_
          unfold HalmosWSClient.record
          split <;> rfl
  | setUserId fd userId => exact h.setUserId hshort

/-- What the walk finds is a client of the chain with the name. -/
theorem sessionIn_some {heap : Addr → Option HalmosWSClient} {name : List UInt8}
    {chain : List Addr} {c : HalmosWSClient} (h : sessionIn heap name chain = some (some c)) :
    ∃ a ∈ chain, heap a = some c ∧ c.userId = name := by
  induction chain with
  | nil => cases h
  | cons a chain ih =>
      rw [sessionIn] at h
      split at h
      · cases h
      · next d hd =>
          split at h
          · next hboth =>
              obtain rfl := Option.some.inj (Option.some.inj h)
              exact ⟨a, List.mem_cons_self, hd, hboth.2⟩
          · obtain ⟨x, hx, hxc⟩ := ih h
            exact ⟨x, List.mem_cons_of_mem a hx, hxc⟩

/-- The walk finds a client, or no client of the chain has the name. -/
theorem sessionIn_total {heap : Addr → Option HalmosWSClient} (name : List UInt8)
    {chain : List Addr} (h : ∀ a ∈ chain, ∃ c, heap a = some c ∧ c.isActive = true) :
    ∃ res, sessionIn heap name chain = some res ∧
      (res = none → ∀ a ∈ chain, ∀ c, heap a = some c → c.userId ≠ name) := by
  induction chain with
  | nil => exact ⟨none, rfl, fun _ a ha => absurd ha List.not_mem_nil⟩
  | cons a chain ih =>
      obtain ⟨c, hc, hactive⟩ := h a List.mem_cons_self
      obtain ⟨res, hres, hnone⟩ := ih fun x hx => h x (List.mem_cons_of_mem a hx)
      by_cases hname : c.userId = name
      · refine ⟨some c, ?_, fun hno => nomatch hno⟩
        simp only [sessionIn, hc]
        exact if_pos ⟨hactive, hname⟩
      · refine ⟨res, ?_, ?_⟩
        · simp only [sessionIn, hc]
          rw [if_neg (fun hboth => hname hboth.2)]
          exact hres
        · intro hno x hx d hd
          rcases List.mem_cons.mp hx with rfl | hx
          · obtain rfl : c = d := Option.some.inj (hc.symm.trans hd)
            exact hname
          · exact hnone hno x hx d hd

theorem Named.namesAgree (h : s.Named latest) : s.NamesAgree latest where
  one_node := fun idx a => List.nodup_iff_count_le_one.mp (h.nodup idx) a
  bucket := by
    intro idx a ha
    obtain ⟨c, hc, -, hidx⟩ := (h.nodes idx a).mp ha
    exact ⟨h.indexed.mem_clients hc, c, hc, hidx⟩
  found := by
    intro name
    have hchain : ∀ a ∈ s.userMap (hashTopic name), ∃ c, s.heap a = some c ∧ c.isActive = true := by
      intro a ha
      obtain ⟨c, hc, -⟩ := (h.nodes _ a).mp ha
      exact ⟨c, hc, (h.indexed.valid a c hc).2⟩
    obtain ⟨res, hres, hnone⟩ := sessionIn_total name hchain
    have hnamed : ∀ c, res = some c →
        ∃ a, some a ∈ s.clients ∧ s.heap a = some c ∧ latest a = some name := by
      intro c hc
      obtain ⟨a, ha, hac, hname⟩ := sessionIn_some (hres.trans (congrArg some hc))
      obtain ⟨d, hd, hne, -⟩ := (h.nodes _ a).mp ha
      obtain rfl : c = d := Option.some.inj (hac.symm.trans hd)
      refine ⟨a, h.indexed.mem_clients hac, hac, ?_⟩
      rw [h.stored a c hac, if_neg hne, hname]
    refine ⟨res, hres, ?_, hnamed⟩
    constructor
    · intro hfound
      obtain ⟨c, hc⟩ := Option.isSome_iff_exists.mp hfound
      obtain ⟨a, ha, -, hlatest⟩ := hnamed c hc
      exact ⟨a, ha, hlatest⟩
    · rintro ⟨a, ha, hlatest⟩
      obtain ⟨c, hc⟩ := Option.isSome_iff_exists.mp ((h.indexed.slots_live a).mp ha)
      have hstored := h.stored a c hc
      rw [hlatest] at hstored
      by_cases hempty : c.userId = []
      · rw [if_pos hempty] at hstored
        cases hstored
      · rw [if_neg hempty] at hstored
        have hname := Option.some.inj hstored
        by_contra hno
        have hmem : a ∈ s.userMap (hashTopic name) :=
          (h.nodes _ a).mpr ⟨c, hc, hempty, by rw [hname]⟩
        exact hnone (Option.not_isSome_iff_eq_none.mp hno) a hmem c hc hname.symm

/-- A client with a long name is not found by it. -/
theorem Named.not_agree (h : s.Named latest) {fd : Int} {userId : List UInt8} {a : Addr}
    (hnamed : s.namedBy fd userId = some a) (hlong : 63 < userId.length) :
    ∀ s', s.wsRegistrySetUserId fd userId = some s' →
      ¬ s'.NamesAgree (s.latestAfter latest (.setUserId fd userId)) := by
  intro s' hs' hagree
  have hlatest : s.latestAfter latest (.setUserId fd userId)
      = match s.namedBy fd userId with
        | some a => Function.update latest a (some userId)
        | none => latest := rfl
  rw [hlatest, hnamed] at hagree
  rw [h.namedBy] at hnamed
  rcases setUserId_spec h.indexed fd userId with ⟨hno, -⟩ | ⟨x, c, hne, hfind, hc, hnew⟩
  · rcases hno with hempty | hnone
    · rw [hempty] at hlong
      exact absurd hlong (by decide)
    · rw [hnone, ite_self] at hnamed
      cases hnamed
  · rw [if_neg hne, hfind] at hnamed
    obtain rfl := Option.some.inj hnamed
    obtain rfl := Option.some.inj (hs'.symm.trans hnew)
    obtain ⟨res, hres, hiff, -⟩ := hagree.found userId
    have hmem : some x ∈ s.clients := h.indexed.mem_clients hc
    obtain ⟨d, rfl⟩ := Option.isSome_iff_exists.mp (hiff.mpr
      ⟨x, (unlinkUser_clients x c.userId).symm ▸ hmem, Function.update_self ..⟩)
    -- what is found has the whole name stored, and no client has stored so much
    obtain ⟨y, -, hy, hname⟩ := sessionIn_some hres
    have hle : d.userId.length ≤ 63 := by
      rcases update_eq_some_iff.mp hy with ⟨rfl, heq⟩ | ⟨-, hy⟩
      · obtain rfl := Option.some.inj heq
        exact List.length_take_le 63 userId
      · exact h.short y d hy
    rw [hname] at hle
    omega

end HalmosWSRegistry

/-! ## Runs -/

/-- The registry, `none` once freed memory is touched, and the name each client was last given,
as the caller gave it. -/
structure NamedRegistry where
  registry : Option HalmosWSRegistry
  latest : Addr → Option (List UInt8)

namespace NamedRegistry

open HalmosWSRegistry

def init : NamedRegistry := ⟨some wsRegistryInit, fun _ => none⟩

/-- One operation. -/
def step (r : NamedRegistry) (op : RegistryOp) : NamedRegistry where
  registry := applyTo r.registry op
  latest := r.registry.elim r.latest (fun s => s.latestAfter r.latest op)

/-- No freed memory has been touched, and the chains are right. -/
def NamesAgree (r : NamedRegistry) : Prop :=
  Holds (fun s => s.NamesAgree r.latest) r.registry

/-- `calloc` returns free addresses. -/
def Allocates (r : NamedRegistry) (op : RegistryOp) : Prop :=
  HalmosWSRegistry.Allocates r.registry op

/-- No client is given a name of more than 63 bytes. -/
def ShortName (r : NamedRegistry) (op : RegistryOp) : Prop :=
  ∀ s, r.registry = some s → s.ShortName op

end NamedRegistry

open HalmosWSRegistry in
/-- **The names of the clients** are right in every state of a run if and only if no client is
given a name of more than 63 bytes. -/
theorem names_run (ops : List RegistryOp)
    (h : GuardedRun NamedRegistry.Allocates NamedRegistry.step .init ops) :
    (∀ done, done <+: ops → (runSteps NamedRegistry.step .init done).NamesAgree) ↔
      GuardedRun NamedRegistry.ShortName NamedRegistry.step .init ops := by
  refine GuardedRun.iff_forall_prefix
    (fun r => Holds (fun s => s.Named r.latest) r.registry)
    ?_ ?_ ?_ ⟨_, rfl, init_named⟩ h
  · rintro ⟨registry, latest⟩ ⟨s, rfl, hs⟩
    exact ⟨s, rfl, hs.namesAgree⟩
  · rintro ⟨registry, latest⟩ op ⟨s, rfl, hs⟩ hfresh hshort
    obtain ⟨s', hs', hnamed⟩ := hs.apply (hfresh s rfl) (hshort s rfl)
    exact ⟨s', hs', hnamed⟩
  · rintro ⟨registry, latest⟩ op ⟨s, rfl, hs⟩ hfresh hlong ⟨s', hs', hagree⟩
    refine hlong ?_
    rintro _ ⟨⟩
    cases op with
    | setUserId fd userId =>
        intro hnamed
        obtain ⟨a, ha⟩ := Option.ne_none_iff_exists'.mp hnamed
        by_contra hgt
        exact hs.not_agree ha (not_le.mp hgt) s' hs' hagree
    | add fd ssl now calloc => trivial
    | addH2 fd ssl streamId now calloc => trivial
    | remove fd => trivial
    | updateActivity fd now => trivial
    | reaper now => trivial
    | addToTopic fd appId topic => trivial

open HalmosWSRegistry in
/-- Two clients of one name, one of which is renamed and leaves. -/
theorem names_run_two :
    let ops : List RegistryOp :=
      [.add 5 false 100 (some 0), .add 6 false 100 (some 1), .setUserId 5 (ascii "ann"),
        .setUserId 6 (ascii "ann"), .setUserId 5 (ascii "bob"), .remove 5]
    ∀ done, done <+: ops → (runSteps NamedRegistry.step .init done).NamesAgree := by
  intro ops
  refine (names_run ops ?_).mpr ?_
  all_goals
    refine ⟨?_, ?_, ?_, ?_, ?_, ?_, trivial⟩
    all_goals
      intro r hr
      obtain rfl := Option.some.inj hr
      first
        | exact trivial
        | exact rfl
        | exact fun _ => by decide

open HalmosWSRegistry in
/-- A client with a name of 64 letters is not found by it, and its node outlives it. -/
theorem node_outlives_client :
    let name := List.replicate 64 (0x61 : UInt8)
    let named : NamedRegistry := runSteps NamedRegistry.step .init
      [.add 5 false 100 (some 0), .setUserId 5 name]
    let left := named.step (.remove 5)
    named.latest 0 = some name ∧
      named.registry.map (fun s => s.wsRegistryGetSessionInfo name) = some (some none) ∧
      left.registry.map (fun s => (s.userMap (hashTopic name), s.wsRegistryGetSessionInfo name))
        = some ([0], none) := by
  decide +kernel

end Halmos.WebSocket
