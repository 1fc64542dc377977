import Halmos.Fcgi.Pool

set_option autoImplicit false

/-! # The choice of a backend node

`fcgi_session_http1_create` and `fcgi_session_http2_create` (`halmos_fcgi_session.c`) pick a node
of a `BackendGroup`: by the hash of the client's address, or in turn, with a counter that all
groups of one backend type share. The counter is an `atomic_int` that nothing ever resets, and
`%` takes the sign of its left side, so that a node is picked in the group exactly as long as the
counter is not negative, or is a multiple of the number of nodes (`chooseNode_configured_iff`).
-/

namespace Halmos.Fcgi

/-- `MAX_BACKEND_NODES`. -/
def maxBackendNodes : Nat := 8

/-- `BackendGroup`, with its arrays and the rule for its load. -/
structure BalancedGroup where
  ips : Vector (List UInt8) maxBackendNodes
  ports : Vector Int maxBackendNodes
  nodeCount : Int32
  lbStrategy : List UInt8

/-- The groups of `config`, and those of a `VHostEntry`. -/
structure BalancedGroups where
  php : BalancedGroup
  rust : BalancedGroup
  python : BalancedGroup

/-- The value of `backend_type`: what is neither PHP nor Rust is Python. -/
def Backend.ofType (backendType : Int) : Backend :=
  if backendType = 0 then .php else if backendType = 1 then .rust else .python

def BalancedGroups.group (g : BalancedGroups) : Backend → BalancedGroup
  | .php => g.php
  | .rust => g.rust
  | .python => g.python

/-- `next_idx` of `php_group`, `rust_group` and `python_group`. -/
abbrev NextIdx := Backend → Int32

/-- `fcgi_pool_init` leaves the counters at zero. -/
def NextIdx.init : NextIdx := fun _ => 0

/-- What a request brings to the choice. -/
structure NodeRequest where
  backendType : Int
  vhostContext : Option BalancedGroups
  clientIp : List UInt8

/-- `hash_ip`: DJB2 in an `unsigned int`, with the characters as signed numbers. -/
def hashIp (ip : List UInt8) : UInt32 :=
  ip.foldl (fun hash c => ((hash <<< 5) + hash) + c.toInt8.toInt32.toUInt32) 5381

/-- The group of the virtual host if it has nodes, else the global one. -/
def cfgGroup (config : BalancedGroups) (req : NodeRequest) : BalancedGroup :=
  match req.vhostContext with
  | some vh =>
      if 0 < (vh.group (.ofType req.backendType)).nodeCount then
        vh.group (.ofType req.backendType)
      else config.group (.ofType req.backendType)
  | none => config.group (.ofType req.backendType)

/-- The node that is chosen, if there is any, and the counters behind the choice. -/
def chooseNode (config : BalancedGroups) (req : NodeRequest) (next : NextIdx) :
    Option Int32 × NextIdx :=
  let backend := Backend.ofType req.backendType
  let g := cfgGroup config req
  if g.nodeCount ≤ 0 then (none, next)
  else if g.lbStrategy = ascii "ip_hash" then
    -- `unsigned int` by `int`: the division is unsigned
    (some (hashIp req.clientIp % g.nodeCount.toUInt32).toInt32, next)
  else
    -- `atomic_fetch_add`, then a remainder with the sign of the counter
    (some (next backend % g.nodeCount), Function.update next backend (next backend + 1))

/-- The choice of `fcgi_session_http1_create`. -/
def fcgiSessionHttp1CreateIdx := chooseNode

/-- The choice of `fcgi_session_http2_create`. -/
def fcgiSessionHttp2CreateIdx := chooseNode

/-- `ips[idx]` and `ports[idx]`, if the arrays have them. -/
def BalancedGroup.node (g : BalancedGroup) (idx : Int32) : Option (List UInt8 × Int) :=
  if 0 ≤ idx.toInt then
    (g.ips.toList[idx.toInt.toNat]?).bind fun ip =>
      (g.ports.toList[idx.toInt.toNat]?).map fun port => (ip, port)
  else none

/-- The first `node_count` addresses and ports. -/
def BalancedGroup.configured (g : BalancedGroup) : BackendGroup :=
  ⟨(g.ips.toList.zip g.ports.toList).take g.nodeCount.toInt.toNat⟩

/-! ## Requests one after the other -/

/-- A request, of an HTTP/1 connection or of an HTTP/2 stream. -/
inductive CreateCall where
  | http1 (req : NodeRequest)
  | http2 (req : NodeRequest)

def CreateCall.req : CreateCall → NodeRequest
  | .http1 req => req
  | .http2 req => req

/-- The index that a request gets, and the counters behind it. -/
def CreateCall.choose (config : BalancedGroups) (next : NextIdx) :
    CreateCall → Option Int32 × NextIdx
  | .http1 req => fcgiSessionHttp1CreateIdx config req next
  | .http2 req => fcgiSessionHttp2CreateIdx config req next

/-- The counters behind the requests served since the start. -/
def servedSince (config : BalancedGroups) (calls : List CreateCall) : NextIdx :=
  runSteps (fun next c => (c.choose config next).2) .init calls

/-- The request takes its node in turn. -/
def RoundRobin (config : BalancedGroups) (req : NodeRequest) : Prop :=
  0 < (cfgGroup config req).nodeCount ∧ (cfgGroup config req).lbStrategy ≠ ascii "ip_hash"

instance (config : BalancedGroups) (req : NodeRequest) : Decidable (RoundRobin config req) :=
  inferInstanceAs (Decidable (_ ∧ _))

/-- The number of requests that took their node in turn, for one type of backend. -/
def turns (config : BalancedGroups) (backend : Backend) (calls : List CreateCall) : Nat :=
  calls.countP fun c => RoundRobin config c.req ∧ Backend.ofType c.req.backendType = backend

/-- The index is one of a configured node. -/
def ConfiguredIdx (g : BalancedGroup) (idx : Int32) : Prop :=
  0 ≤ idx.toInt ∧ idx.toInt < g.nodeCount.toInt ∧ ∃ node ∈ g.configured.nodes, g.node idx = some node

/-- The counter, after so many requests, has not become negative, or it is a multiple of the
number of nodes. -/
def TurnInRange (turns : Nat) (nodeCount : Int32) : Prop :=
  turns % 2 ^ 32 < 2 ^ 31 ∨ nodeCount.toInt.toNat ∣ 2 ^ 32 - turns % 2 ^ 32

instance (turns : Nat) (nodeCount : Int32) : Decidable (TurnInRange turns nodeCount) :=
  inferInstanceAs (Decidable (_ ∨ _))

section Choice

variable {config : BalancedGroups} {req : NodeRequest} {next : NextIdx} {g : BalancedGroup}

/-- An index below the number of nodes is that of a configured node. -/
theorem configuredIdx_iff {idx : Int32} (hmax : g.nodeCount.toInt ≤ maxBackendNodes) :
    ConfiguredIdx g idx ↔ 0 ≤ idx.toInt ∧ idx.toInt < g.nodeCount.toInt := by
  constructor
  · intro h
    exact ⟨h.1, h.2.1⟩
  · rintro ⟨hpos, hlt⟩
    refine ⟨hpos, hlt, ?_⟩
    have hmax' : idx.toInt.toNat < maxBackendNodes := by omega
    have hips : idx.toInt.toNat < g.ips.toList.length := by simpa using hmax'
    have hports : idx.toInt.toNat < g.ports.toList.length := by simpa using hmax'
    refine ⟨(g.ips.toList[idx.toInt.toNat], g.ports.toList[idx.toInt.toNat]), ?_, ?_⟩
    · unfold BalancedGroup.configured
      rw [List.mem_take_iff_getElem]
      refine ⟨idx.toInt.toNat, ?_, ?_⟩
      · rw [List.length_zip]
        omega
      · rw [List.getElem_zip]
    · unfold BalancedGroup.node
      rw [if_pos hpos, List.getElem?_eq_getElem hips, List.getElem?_eq_getElem hports]
      rfl

theorem toNat_toUInt32 {n : Int32} (hpos : 0 ≤ n.toInt) : (n.toUInt32.toNat : Int) = n.toInt := by
  have hdef : n.toInt = n.toUInt32.toBitVec.toInt := rfl
  have hlt : n.toUInt32.toNat < 2 ^ 32 := n.toUInt32.toNat_lt
  have hnat : n.toUInt32.toBitVec.toNat = n.toUInt32.toNat := rfl
  rw [hdef, BitVec.toInt_eq_toNat_cond] at hpos ⊢
  split at hpos
  · next hlow => rw [if_pos hlow, hnat]
  · omega

theorem toInt_toInt32 {x : UInt32} (hlt : x.toNat < 2 ^ 31) : x.toInt32.toInt = x.toNat := by
  have hdef : x.toInt32.toInt = x.toBitVec.toInt := rfl
  have hnat : x.toBitVec.toNat = x.toNat := rfl
  rw [hdef, BitVec.toInt_eq_toNat_cond, if_pos (by omega), hnat]

/-- **By hash**: the remainder is unsigned, and always in range. -/
theorem hashIdx_inRange (hash : UInt32) (hpos : 0 < g.nodeCount.toInt)
    (hmax : g.nodeCount.toInt ≤ maxBackendNodes) :
    0 ≤ (hash % g.nodeCount.toUInt32).toInt32.toInt
      ∧ (hash % g.nodeCount.toUInt32).toInt32.toInt < g.nodeCount.toInt := by
  have hcount := toNat_toUInt32 (n := g.nodeCount) (by omega)
  have hnodes : maxBackendNodes = 8 := rfl
  have hlt : (hash % g.nodeCount.toUInt32).toNat < g.nodeCount.toUInt32.toNat := by
    rw [UInt32.toNat_mod]
    exact Nat.mod_lt _ (by omega)
  rw [toInt_toInt32 (by omega)]
  omega

/-- **In turn**: the remainder has the sign of the counter. -/
theorem turnIdx_inRange_iff (turns : Nat) (hpos : 0 < g.nodeCount.toInt) :
    (0 ≤ (Int32.ofNat turns % g.nodeCount).toInt
      ∧ (Int32.ofNat turns % g.nodeCount).toInt < g.nodeCount.toInt)
      ↔ TurnInRange turns g.nodeCount := by
  obtain ⟨n, hn⟩ := Int.eq_ofNat_of_zero_le (show 0 ≤ g.nodeCount.toInt by omega)
  unfold TurnInRange
  rw [Int32.toInt_mod, Int32.toInt_ofNat', hn, Int.toNat_natCast]
  have hsize : Int32.size = 2 ^ 32 := rfl
  by_cases hlow : turns % 2 ^ 32 < 2 ^ 31
  · have hcounter : (turns : Int).bmod Int32.size = (turns % 2 ^ 32 : Nat) := by
      rw [hsize, Int.bmod_def]
      split <;> omega
    rw [hcounter, Int.tmod_eq_emod_of_nonneg (by omega)]
    constructor
    · intro _
      exact Or.inl hlow
    · intro _
      exact ⟨Int.emod_nonneg _ (by omega), Int.emod_lt_of_pos _ (by omega)⟩
  · have hcounter : (turns : Int).bmod Int32.size = -((2 ^ 32 - turns % 2 ^ 32 : Nat) : Int) := by
      rw [hsize, Int.bmod_def]
      split <;> omega
    rw [hcounter, Int.neg_tmod, ← Int.ofNat_tmod]
    constructor
    · rintro ⟨hge, -⟩
      exact Or.inr (Nat.dvd_of_mod_eq_zero (by omega))
    · rintro (h | h)
      · exact absurd h hlow
      · rw [Nat.mod_eq_zero_of_dvd h]
        omega

end Choice

/-! ## Runs -/

section Runs

variable {config : BalancedGroups}

/-- A request counts for the type of its backend, if it takes its node in turn. -/
theorem choose_next (c : CreateCall) (next : NextIdx) (backend : Backend) :
    (c.choose config next).2 backend
      = if RoundRobin config c.req ∧ Backend.ofType c.req.backendType = backend then
          next backend + 1
        else next backend := by
  have hchoose : c.choose config next = chooseNode config c.req next := by cases c <;> rfl
  rw [hchoose]
  unfold chooseNode RoundRobin
  dsimp only
  by_cases hnone : (cfgGroup config c.req).nodeCount ≤ 0
  · rw [if_pos hnone, if_neg]
    rintro ⟨⟨hpos, -⟩, -⟩
    exact absurd hnone (Int32.not_le.mpr hpos)
  · rw [if_neg hnone]
    by_cases hhash : (cfgGroup config c.req).lbStrategy = ascii "ip_hash"
    · rw [if_pos hhash, if_neg]
      rintro ⟨⟨-, hne⟩, -⟩
      exact hne hhash
    · rw [if_neg hhash]
      dsimp only
      by_cases hbackend : Backend.ofType c.req.backendType = backend
      · rw [if_pos ⟨⟨Int32.not_le.mp hnone, hhash⟩, hbackend⟩, ← hbackend, Function.update_self]
      · rw [if_neg (fun h => hbackend h.2), Function.update_of_ne (Ne.symm hbackend)]

/-- **The counter of a backend type** is the number of turns, in 32 bits. -/
theorem servedSince_eq (backend : Backend) (calls : List CreateCall) :
    servedSince config calls backend = Int32.ofNat (turns config backend calls) := by
  induction calls using List.reverseRecOn with
  | nil => rfl
  | append_singleton calls c ih =>
      unfold servedSince turns at ih ⊢
      rw [runSteps_append, runSteps_cons, runSteps_nil, choose_next, ih, List.countP_append,
        List.countP_singleton]
      split
      · next h =>
          rw [if_pos (decide_eq_true h), Int32.ofNat_add]
          rfl
      · next h => rw [if_neg (by simpa using h), Nat.add_zero]

/-- **The node of a request**: after any requests, the index that `fcgi_session_http1_create` and
`fcgi_session_http2_create` compute is that of a configured node exactly if it is a hash, or the
counter of the backend type has not become negative, or is a multiple of the number of nodes. -/
theorem chooseNode_configured_iff (config : BalancedGroups) (calls : List CreateCall)
    (c : CreateCall) (hpos : 1 ≤ (cfgGroup config c.req).nodeCount.toInt)
    (hmax : (cfgGroup config c.req).nodeCount.toInt ≤ maxBackendNodes) :
    (∃ idx, (c.choose config (servedSince config calls)).1 = some idx
        ∧ ConfiguredIdx (cfgGroup config c.req) idx)
      ↔ (cfgGroup config c.req).lbStrategy = ascii "ip_hash"
        ∨ TurnInRange (turns config (.ofType c.req.backendType) calls)
          (cfgGroup config c.req).nodeCount := by
  have hchoose : c.choose config (servedSince config calls)
      = chooseNode config c.req (servedSince config calls) := by cases c <;> rfl
  have hsome : ¬ (cfgGroup config c.req).nodeCount ≤ 0 := by
    rw [Int32.le_iff_toInt_le]
    have hzero : (0 : Int32).toInt = 0 := rfl
    omega
  rw [hchoose]
  unfold chooseNode
  dsimp only
  rw [if_neg hsome]
  by_cases hhash : (cfgGroup config c.req).lbStrategy = ascii "ip_hash"
  · rw [if_pos hhash]
    constructor
    · intro _
      exact Or.inl hhash
    · intro _
      refine ⟨_, rfl, ?_⟩
      rw [configuredIdx_iff hmax]
      exact hashIdx_inRange _ (by omega) hmax
  · rw [if_neg hhash, servedSince_eq]
    rw [← turnIdx_inRange_iff _ (by omega), ← configuredIdx_iff hmax]
    constructor
    · rintro ⟨idx, hidx, hconf⟩
      obtain rfl := Option.some.inj hidx
      exact Or.inr hconf
    · rintro (h | h)
      · exact absurd h hhash
      · exact ⟨_, rfl, h⟩

end Runs

/-- Three PHP nodes, in turn. -/
def threeNodes : BalancedGroups where
  php := ⟨Vector.replicate 8 (ascii "127.0.0.1"), Vector.replicate 8 9000, 3, ascii "round_robin"⟩
  rust := ⟨Vector.replicate 8 [], Vector.replicate 8 0, 0, []⟩
  python := ⟨Vector.replicate 8 [], Vector.replicate 8 0, 0, []⟩

def phpRequest : NodeRequest := ⟨0, none, ascii "10.0.0.7"⟩

/-- The fifth request gets the second node. -/
theorem chooseNode_configured_fifth :
    (∃ idx, (CreateCall.choose threeNodes
        (servedSince threeNodes (List.replicate 4 (.http1 phpRequest))) (.http2 phpRequest)).1
          = some idx ∧ ConfiguredIdx (cfgGroup threeNodes phpRequest) idx)
      ↔ threeNodes.php.lbStrategy = ascii "ip_hash"
        ∨ TurnInRange (turns threeNodes .php (List.replicate 4 (.http1 phpRequest))) 3 :=
  chooseNode_configured_iff threeNodes (List.replicate 4 (.http1 phpRequest)) (.http2 phpRequest)
    (by decide) (by decide)

/-- Behind 2^31 requests, the index is -2. -/
theorem negative_node :
    ¬ ∀ (config : BalancedGroups) (calls : List CreateCall) (c : CreateCall),
      1 ≤ (cfgGroup config c.req).nodeCount.toInt →
        (cfgGroup config c.req).nodeCount.toInt ≤ maxBackendNodes →
        ∃ idx, (c.choose config (servedSince config calls)).1 = some idx
          ∧ ConfiguredIdx (cfgGroup config c.req) idx := by
  intro h
  obtain ⟨idx, hidx, hconf⟩ := h threeNodes (List.replicate (2 ^ 31) (.http1 phpRequest))
    (.http1 phpRequest) (by decide) (by decide)
  have hturns : servedSince threeNodes (List.replicate (2 ^ 31) (.http1 phpRequest)) .php
      = Int32.ofNat (2 ^ 31) := by
    rw [servedSince_eq]
    unfold turns
    rw [List.countP_replicate, if_pos (by decide)]
  have hchosen : (CreateCall.choose threeNodes
      (servedSince threeNodes (List.replicate (2 ^ 31) (.http1 phpRequest))) (.http1 phpRequest)).1
      = some (servedSince threeNodes (List.replicate (2 ^ 31) (.http1 phpRequest)) .php % 3) := rfl
  rw [hchosen, hturns] at hidx
  obtain rfl := Option.some.inj hidx
  exact absurd hconf.1 (by decide)

end Halmos.Fcgi
