import Halmos.Basic.CString
import Halmos.Basic.Runs

set_option autoImplicit false

/-! # The pool of backend sockets

`fcgi_pool_conn_acquire` and `fcgi_pool_conn_release` (`halmos_fcgi_pool.c`), as steps that any
number of threads take in any order: the load of a counter, the scan of the table under the lock,
the new socket with the second scan, and a release. A run keeps a record beside the pool that the
code does not have: which sockets are held, for which backend each was acquired, and what each was
connected to.
-/

namespace Halmos.Fcgi

/-! ## The table -/

/-- The backends, in the order of `active_counts`. -/
inductive Backend where
  | php
  | rust
  | python
  deriving DecidableEq, Repr

/-- `BackendGroup`: the addresses in `ips` with their `ports`. -/
structure BackendGroup where
  nodes : List (List UInt8 × Int)

/-- The nodes of the global configuration, and the quotas. -/
structure PoolConfig where
  php : BackendGroup
  rust : BackendGroup
  python : BackendGroup
  phpQuota : Nat
  rustQuota : Nat
  pythonQuota : Nat

/-- `HalmosFCGI_Conn`. -/
structure HalmosFCGIConn where
  sockfd : Int
  targetPort : Int
  targetPath : List UInt8
  isUnix : Bool
  inUse : Bool
  deriving DecidableEq, Repr

/-- `HalmosFCGI_Pool`. -/
structure Pool where
  connections : List HalmosFCGIConn
  activeCounts : Backend → Int

/-- `target_quota`. -/
def PoolConfig.quota (cfg : PoolConfig) : Backend → Nat
  | .php => cfg.phpQuota
  | .rust => cfg.rustQuota
  | .python => cfg.pythonQuota

/-- A node with the address, or without an address one with the port. -/
def BackendGroup.has (g : BackendGroup) (target : Option (List UInt8)) (port : Int) : Bool :=
  match target with
  | some t => g.nodes.any (fun n => n.1 = t)
  | none => g.nodes.any (fun n => n.2 = port)

/-- `get_backend_index`. -/
def getBackendIndex (cfg : PoolConfig) (target : Option (List UInt8)) (port : Int) : Backend :=
  if cfg.php.has target port then .php
  else if cfg.rust.has target port then .rust
  else if cfg.python.has target port then .python
  else .php

/-- `is_unix`. -/
def isUnixPort (port : Int) : Bool := port = 0 ∨ port = -1

/-- A slot with a socket that nobody uses. -/
def HalmosFCGIConn.Idle (c : HalmosFCGIConn) : Prop := c.sockfd ≠ -1 ∧ c.inUse = false

instance (c : HalmosFCGIConn) : Decidable c.Idle := inferInstanceAs (Decidable (_ ∧ _))

/-- `belongs`. -/
def HalmosFCGIConn.belongs (c : HalmosFCGIConn) (target : List UInt8) (port : Int) : Bool :=
  if isUnixPort port then c.isUnix ∧ c.targetPath = target
  else c.isUnix = false ∧ c.targetPort = port

/-- The scan for a socket to use again. `quiet` says for which sockets `poll` has no event; the
others are closed on the way. -/
def reuseLoop (target : List UInt8) (port : Int) (quiet : Int → Bool) :
    List HalmosFCGIConn → List HalmosFCGIConn × Option Int
  | [] => ([], none)
  | c :: cs =>
      if c.Idle ∧ c.belongs target port then
        -- a socket with an event is closed, and the scan goes on
        if quiet c.sockfd then ({ c with inUse := true } :: cs, some c.sockfd)
        else
          let r := reuseLoop target port quiet cs
          ({ c with sockfd := -1 } :: r.1, r.2)
      else
        let r := reuseLoop target port quiet cs
        (c :: r.1, r.2)

/-- The slot of a new socket. A path is cut off where `target_path` ends. -/
def HalmosFCGIConn.fill (c : HalmosFCGIConn) (fd : Int) (target : List UInt8) (port : Int) :
    HalmosFCGIConn where
  sockfd := fd
  inUse := true
  isUnix := isUnixPort port
  targetPort := port
  targetPath := if isUnixPort port then target.take 107 else c.targetPath

/-- The scan for an empty slot. -/
def storeLoop (fd : Int) (target : List UInt8) (port : Int) :
    List HalmosFCGIConn → Option (List HalmosFCGIConn)
  | [] => none
  | c :: cs =>
      if c.sockfd = -1 then some (c.fill fd target port :: cs)
      else (storeLoop fd target port cs).map (fun cs => c :: cs)

/-- The index that `fcgi_pool_conn_release` finds for a slot. -/
def HalmosFCGIConn.releaseIndex (cfg : PoolConfig) (c : HalmosFCGIConn) : Backend :=
  getBackendIndex cfg (if c.isUnix then some c.targetPath else none) c.targetPort

/-- The scan for the slot of a socket, which is kept when it is healthy. -/
def releaseLoop (cfg : PoolConfig) (fd : Int) (healthy : Bool) :
    List HalmosFCGIConn → Option (Backend × List HalmosFCGIConn)
  | [] => none
  | c :: cs =>
      if c.sockfd = fd then
        -- the first slot with the number, whoever stored it
        some (c.releaseIndex cfg,
          { c with sockfd := if healthy then c.sockfd else -1, inUse := false } :: cs)
      else (releaseLoop cfg fd healthy cs).map (fun r => (r.1, c :: r.2))

/-- An `atomic_fetch_add` of `n`. -/
def Pool.count (p : Pool) (i : Backend) (n : Int) : Backend → Int :=
  Function.update p.activeCounts i (p.activeCounts i + n)

/-- The first section of `fcgi_pool_conn_acquire` under the lock. -/
def Pool.reuse (p : Pool) (cfg : PoolConfig) (target : List UInt8) (port : Int)
    (quiet : Int → Bool) : Pool × Option Int :=
  let r := reuseLoop target port quiet p.connections
  match r.2 with
  | some fd => (⟨r.1, p.count (getBackendIndex cfg (some target) port) 1⟩, some fd)
  | none => (⟨r.1, p.activeCounts⟩, none)

/-- The second one: a new socket is stored if the quota allows and there is room. -/
def Pool.store (p : Pool) (cfg : PoolConfig) (target : List UInt8) (port : Int) (fd : Int) : Pool :=
  let idx := getBackendIndex cfg (some target) port
  if p.activeCounts idx < cfg.quota idx then
    -- without room the socket is used, but not counted
    match storeLoop fd target port p.connections with
    | some cs => ⟨cs, p.count idx 1⟩
    | none => p
  else p

/-- `fcgi_pool_conn_release`. A socket without a slot is closed. -/
def fcgiPoolConnRelease (cfg : PoolConfig) (fd : Int) (healthy : Bool) (p : Pool) : Pool :=
  if fd < 0 then p
  else
    match releaseLoop cfg fd healthy p.connections with
    | some (idx, cs) => ⟨cs, p.count idx (-1)⟩
    | none => p

/-- `fcgi_pool_init`. -/
def fcgiPoolInit (poolSize : Nat) : Pool where
  connections := List.replicate poolSize ⟨-1, 0, [], false, false⟩
  activeCounts _ := 0

/-! ## What the scans do -/

/-- Some idle sockets of a table are closed. -/
def Swept : List HalmosFCGIConn → List HalmosFCGIConn → Prop :=
  List.Forall₂ (fun c c' => c' = c ∨ (c.Idle ∧ c' = { c with sockfd := -1 }))

section Scans

variable {target : List UInt8} {port : Int} {quiet : Int → Bool} {cs cs' : List HalmosFCGIConn}

theorem Swept.refl (cs : List HalmosFCGIConn) : Swept cs cs := by
  induction cs with
  | nil => exact List.Forall₂.nil
  | cons c cs ih => exact List.Forall₂.cons (Or.inl rfl) ih

/-- The scan finds nothing, or takes the first quiet socket that belongs to the target; the sockets
it closes are idle ones. -/
theorem reuseLoop_cases (target : List UInt8) (port : Int) (quiet : Int → Bool)
    (cs : List HalmosFCGIConn) :
    ((reuseLoop target port quiet cs).2 = none ∧ Swept cs (reuseLoop target port quiet cs).1) ∨
    ∃ front c back front', cs = front ++ c :: back ∧ Swept front front' ∧ c.Idle ∧
      c.belongs target port = true ∧ quiet c.sockfd = true ∧
      reuseLoop target port quiet cs
        = (front' ++ { c with inUse := true } :: back, some c.sockfd) := by
  induction cs with
  | nil => exact Or.inl ⟨rfl, List.Forall₂.nil⟩
  | cons c cs ih =>
      rw [reuseLoop]
      by_cases hmatch : c.Idle ∧ c.belongs target port = true
      · rw [if_pos hmatch]
        by_cases hquiet : quiet c.sockfd = true
        · rw [if_pos hquiet]
          exact Or.inr ⟨[], c, cs, [], rfl, List.Forall₂.nil, hmatch.1, hmatch.2, hquiet, rfl⟩
        · rw [if_neg hquiet]
          rcases ih with ⟨hnone, hswept⟩ | ⟨front, d, back, front', hcs, hswept, hidle, hbelongs,
            hq, heq⟩
          · exact Or.inl ⟨hnone, List.Forall₂.cons (Or.inr ⟨hmatch.1, rfl⟩) hswept⟩
          · refine Or.inr ⟨c :: front, d, back, { c with sockfd := -1 } :: front', ?_,
              List.Forall₂.cons (Or.inr ⟨hmatch.1, rfl⟩) hswept, hidle, hbelongs, hq, ?_⟩
            · rw [hcs]
              rfl
            · rw [heq]
              rfl
      · rw [if_neg hmatch]
        rcases ih with ⟨hnone, hswept⟩ | ⟨front, d, back, front', hcs, hswept, hidle, hbelongs,
          hq, heq⟩
        · exact Or.inl ⟨hnone, List.Forall₂.cons (Or.inl rfl) hswept⟩
        · refine Or.inr ⟨c :: front, d, back, c :: front', ?_,
            List.Forall₂.cons (Or.inl rfl) hswept, hidle, hbelongs, hq, ?_⟩
          · rw [hcs]
            rfl
          · rw [heq]
            rfl

/-- The new socket goes into the first empty slot. -/
theorem storeLoop_eq_some {fd : Int} (h : storeLoop fd target port cs = some cs') :
    ∃ front c back, cs = front ++ c :: back ∧ c.sockfd = -1 ∧
      cs' = front ++ c.fill fd target port :: back := by
  induction cs generalizing cs' with
  | nil => cases h
  | cons c cs ih =>
      rw [storeLoop] at h
      by_cases hempty : c.sockfd = -1
      · rw [if_pos hempty] at h
        exact ⟨[], c, cs, rfl, hempty, (Option.some.inj h).symm⟩
      · rw [if_neg hempty] at h
        obtain ⟨more, hmore, hcs'⟩ := Option.map_eq_some_iff.mp h
        obtain ⟨front, d, back, hcs, hd, heq⟩ := ih hmore
        refine ⟨c :: front, d, back, ?_, hd, ?_⟩
        · rw [hcs]
          rfl
        · rw [← hcs', heq]
          rfl

theorem releaseLoop_eq_some {cfg : PoolConfig} {fd : Int} {healthy : Bool} {idx : Backend}
    (h : releaseLoop cfg fd healthy cs = some (idx, cs')) :
    ∃ front c back, cs = front ++ c :: back ∧ (∀ d ∈ front, d.sockfd ≠ fd) ∧ c.sockfd = fd ∧
      idx = c.releaseIndex cfg ∧
      cs' = front ++ { c with sockfd := if healthy then c.sockfd else -1, inUse := false } :: back
      := by
  induction cs generalizing cs' with
  | nil => cases h
  | cons c cs ih =>
      rw [releaseLoop] at h
      by_cases hfd : c.sockfd = fd
      · rw [if_pos hfd] at h
        cases h
        refine ⟨[], c, cs, rfl, ?_, hfd, rfl, rfl⟩
        intro d hd
        cases hd
      · rw [if_neg hfd] at h
        obtain ⟨⟨i, more⟩, hmore, heq⟩ := Option.map_eq_some_iff.mp h
        cases heq
        obtain ⟨front, d, back, hcs, hfront, hd, hidx, hmore'⟩ := ih hmore
        refine ⟨c :: front, d, back, ?_, ?_, hd, hidx, ?_⟩
        · rw [hcs]
          rfl
        · rw [List.forall_mem_cons]
          exact ⟨hfd, hfront⟩
        · rw [hmore']
          rfl

theorem releaseLoop_eq_none {cfg : PoolConfig} {fd : Int} {healthy : Bool}
    (h : releaseLoop cfg fd healthy cs = none) : ∀ c ∈ cs, c.sockfd ≠ fd := by
  induction cs with
  | nil =>
      intro c hc
      cases hc
  | cons c cs ih =>
      rw [releaseLoop] at h
      by_cases hfd : c.sockfd = fd
      · rw [if_pos hfd] at h
        cases h
      · rw [if_neg hfd, Option.map_eq_none_iff] at h
        rw [List.forall_mem_cons]
        exact ⟨hfd, ih h⟩

end Scans

/-! ## Sockets -/

/-- The address in a call of `connect`. -/
inductive SockAddr where
  | inet (address : List Nat) (port : Nat)
  | unix (path : List UInt8)
  deriving DecidableEq, Repr

/-- One of the numbers in a dotted address: no more than 255, and without leading zeros. -/
def parseOctet (s : List UInt8) : Option Nat :=
  let value := s.foldl (fun n b => n * 10 + (b.toNat - 48)) 0
  if s ≠ [] ∧ s.all (fun b => 48 ≤ b ∧ b ≤ 57) ∧ (s.length = 1 ∨ s.head? ≠ some 48) ∧ value ≤ 255 then
    some value
  else none

/-- `inet_pton` for `AF_INET`. -/
def inetPton (s : List UInt8) : Option (List Nat) :=
  let parts := s.splitOn 46
  if parts.length = 4 then parts.mapM parseOctet else none

/-- What `create_backend_socket` connects to: `sun_path` has room for 107 bytes, `htons` takes 16
bits of the port, and the address is 0.0.0.0 if `inet_pton` fails. -/
def createBackendSocket (target : List UInt8) (port : Int) : SockAddr :=
  if isUnixPort port then .unix (target.take 107)
  else .inet ((inetPton target).getD [0, 0, 0, 0]) (port % 65536).toNat

/-! ## Threads -/

/-- A call of `fcgi_pool_conn_acquire`, and the backend it is made for. -/
structure AcquireCall where
  target : List UInt8
  port : Int
  backend : Backend
  deriving DecidableEq, Repr

/-- Where a thread is: outside the pool, in front of the first section or in front of the second
one. -/
inductive Thread where
  | idle
  | reusing (a : AcquireCall)
  | creating (a : AcquireCall)
  deriving DecidableEq, Repr

/-- The pool in the middle of a run: where each thread is, the sockets that have been returned and
not released, for which backend a socket was acquired and what it is connected to, and what every
call has returned. -/
structure PoolRun where
  pool : Pool
  threads : Nat → Thread
  held : List Int
  owner : Int → Backend
  peer : Int → SockAddr
  returned : List (AcquireCall × SockAddr)

/-- A step of a thread, with what the system answers: for which sockets `poll` has no event, the
new socket, and whether the released one is healthy. -/
inductive PoolInput where
  | acquire (t : Nat) (a : AcquireCall)
  | reuse (t : Nat) (quiet : Int → Bool)
  | create (t : Nat) (sock : Option Int)
  | release (fd : Int) (healthy : Bool)

/-- The system may give the number to a new socket. -/
def PoolRun.Free (s : PoolRun) (fd : Int) : Prop :=
  0 ≤ fd ∧ fd ∉ s.held ∧ ∀ c ∈ s.pool.connections, c.sockfd ≠ fd

instance (s : PoolRun) (fd : Int) : Decidable (s.Free fd) :=
  inferInstanceAs (Decidable (_ ∧ _ ∧ _))

/-- The call of a thread returns a socket. -/
def PoolRun.giveTo (s : PoolRun) (t : Nat) (a : AcquireCall) (fd : Int) : PoolRun :=
  { s with
    threads := Function.update s.threads t .idle
    held := fd :: s.held
    owner := Function.update s.owner fd a.backend
    returned := (a, s.peer fd) :: s.returned }

/-- The load of the counter in front of the first section. -/
def PoolRun.loadCount (cfg : PoolConfig) (s : PoolRun) (t : Nat) (a : AcquireCall) : PoolRun :=
  let idx := getBackendIndex cfg (some a.target) a.port
  -- the counter may change before the section under the lock begins
  let next := if s.pool.activeCounts idx < cfg.quota idx then Thread.reusing a else .creating a
  { s with threads := Function.update s.threads t next }

/-- The first section. -/
def PoolRun.tryReuse (cfg : PoolConfig) (s : PoolRun) (t : Nat) (a : AcquireCall)
    (quiet : Int → Bool) : PoolRun :=
  let r := s.pool.reuse cfg a.target a.port quiet
  match r.2 with
  | some fd => PoolRun.giveTo { s with pool := r.1 } t a fd
  | none => { s with pool := r.1, threads := Function.update s.threads t (.creating a) }

/-- The new socket and the second section. -/
def PoolRun.createNew (cfg : PoolConfig) (s : PoolRun) (t : Nat) (a : AcquireCall) (fd : Int) :
    PoolRun :=
  PoolRun.giveTo { s with
    pool := s.pool.store cfg a.target a.port fd
    peer := Function.update s.peer fd (createBackendSocket a.target a.port) } t a fd

/-- One step of one thread. A step that the thread cannot take changes nothing. -/
def PoolRun.step (cfg : PoolConfig) (s : PoolRun) : PoolInput → PoolRun
  | .acquire t a =>
      match s.threads t with
      | .idle => s.loadCount cfg t a
      | _ => s
  | .reuse t quiet =>
      match s.threads t with
      | .reusing a => s.tryReuse cfg t a quiet
      | _ => s
  | .create t sock =>
      match s.threads t, sock with
      | .creating _, none => { s with threads := Function.update s.threads t .idle }
      | .creating a, some fd => if s.Free fd then s.createNew cfg t a fd else s
      | _, _ => s
  | .release fd healthy =>
      { s with
        pool := fcgiPoolConnRelease cfg fd healthy s.pool
        held := s.held.erase fd }

/-- The pool when the server starts. -/
def PoolRun.fresh (poolSize : Nat) : PoolRun where
  pool := fcgiPoolInit poolSize
  threads _ := .idle
  held := []
  owner _ := .php
  peer _ := .unix []
  returned := []

end Halmos.Fcgi
