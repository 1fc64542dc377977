import Halmos.Fcgi.PoolCounts

set_option autoImplicit false

/-! # Where the sockets of the pool lead

`fcgi_pool_conn_acquire` looks for an idle socket by the path if the target is a Unix socket, and by
the port alone if it is not. So a socket that is used again leads to the target of the call if every
idle TCP socket with its port does (`acquire_connected`).
-/

namespace Halmos.Fcgi

/-- The address is that of the target and the port. -/
def AcquireCall.Names (a : AcquireCall) (addr : SockAddr) : Prop :=
  if isUnixPort a.port then addr = .unix a.target
  else ∃ ip, inetPton a.target = some ip ∧ addr = .inet ip a.port.toNat ∧ 0 < a.port

/-- A path that fits into `sun_path`, or an address with a port of 16 bits. -/
def AcquireCall.WellFormed (a : AcquireCall) : Prop :=
  if isUnixPort a.port then a.target.length ≤ 107
  else (inetPton a.target).isSome = true ∧ 0 < a.port ∧ a.port < 65536

/-- The calls are well formed, and the idle TCP sockets with the port of a call are connected to its
address. -/
def PoolRun.OneAddress (s : PoolRun) : PoolInput → Prop
  | .acquire _ a => a.WellFormed
  | .reuse t quiet => ∀ a, s.threads t = .reusing a → isUnixPort a.port = false →
      ∀ c ∈ s.pool.connections, c.Idle → quiet c.sockfd = true → c.isUnix = false →
        c.targetPort = a.port →
        ∀ ip ∈ inetPton a.target, ∃ port, s.peer c.sockfd = .inet ip port
  | .create _ _ => True
  | .release _ _ => True

/-- The socket of a slot is connected to what the slot says. -/
def HalmosFCGIConn.Leads (peer : Int → SockAddr) (c : HalmosFCGIConn) : Prop :=
  c.sockfd ≠ -1 →
    if c.isUnix then peer c.sockfd = .unix c.targetPath
    else ∃ ip, peer c.sockfd = .inet ip (c.targetPort % 65536).toNat

/-- Every slot says where its socket leads, every call that is on its way is well formed, and every
call has returned a socket that leads to its target. -/
structure PoolRun.Linked (s : PoolRun) : Prop where
  slots : ∀ c ∈ s.pool.connections, c.Leads s.peer
  calls : ∀ t a, s.threads t = .reusing a ∨ s.threads t = .creating a → a.WellFormed
  returned : ∀ r ∈ s.returned, r.1.Names r.2

section Peers

variable {cfg : PoolConfig} {s : PoolRun} {a : AcquireCall} {c d : HalmosFCGIConn}
  {peer : Int → SockAddr} {t : Nat}

/-- Only the socket, the flag, the path and the port of a slot matter. -/
theorem Leads.of_eq (h : c.Leads peer) (hfd : d.sockfd = c.sockfd ∨ d.sockfd = -1)
    (hunix : d.isUnix = c.isUnix) (hpath : d.targetPath = c.targetPath)
    (hport : d.targetPort = c.targetPort) : d.Leads peer := by
  intro hopen
  have hsame := hfd.resolve_right hopen
  rw [hsame] at hopen ⊢
  rw [hunix, hpath, hport]
  exact h hopen

/-- A new socket leads to the target of a well formed call. -/
theorem names_createBackendSocket (h : a.WellFormed) :
    a.Names (createBackendSocket a.target a.port) := by
  unfold AcquireCall.WellFormed at h
  unfold AcquireCall.Names createBackendSocket
  by_cases hunix : isUnixPort a.port = true
  · rw [if_pos hunix] at h ⊢
    rw [if_pos hunix, List.take_of_length_le h]
  · rw [if_neg hunix] at h ⊢
    obtain ⟨haddr, hpos, hlt⟩ := h
    obtain ⟨ip, hip⟩ := Option.isSome_iff_exists.mp haddr
    rw [if_neg hunix, hip]
    refine ⟨ip, rfl, ?_, hpos⟩
    have hmod : a.port % 65536 = a.port := Int.emod_eq_of_lt hpos.le hlt
    rw [hmod]
    rfl

/-- The slot of a new socket says where it leads. -/
theorem leads_fill (c : HalmosFCGIConn) (fd : Int) (target : List UInt8) (port : Int) :
    (c.fill fd target port).Leads
      (Function.update peer fd (createBackendSocket target port)) := by
  intro _
  unfold HalmosFCGIConn.fill createBackendSocket
  dsimp only
  rw [Function.update_self]
  by_cases hunix : isUnixPort port = true
  · rw [if_pos hunix, if_pos hunix, if_pos hunix]
  · rw [if_neg hunix, if_neg hunix]
    exact ⟨_, rfl⟩

/-- The socket that a well formed call finds leads to its target. -/
theorem names_of_belongs (hwell : a.WellFormed) (hleads : c.Leads s.peer) (hidle : c.Idle)
    (hbelongs : c.belongs a.target a.port = true)
    (hone : isUnixPort a.port = false → c.isUnix = false → c.targetPort = a.port →
      ∀ ip ∈ inetPton a.target, ∃ port, s.peer c.sockfd = .inet ip port) :
    a.Names (s.peer c.sockfd) := by
  have hlead := hleads hidle.1
  unfold HalmosFCGIConn.belongs at hbelongs
  unfold AcquireCall.WellFormed at hwell
  unfold AcquireCall.Names
  by_cases hunix : isUnixPort a.port = true
  · rw [if_pos hunix, decide_eq_true_eq] at hbelongs
    rw [if_pos hbelongs.1, hbelongs.2] at hlead
    rw [if_pos hunix, hlead]
  · rw [if_neg hunix, decide_eq_true_eq] at hbelongs
    rw [if_neg hunix] at hwell
    obtain ⟨haddr, hpos, hlt⟩ := hwell
    obtain ⟨ip, hip⟩ := Option.isSome_iff_exists.mp haddr
    obtain ⟨port, hport⟩ := hone (by simpa using hunix) hbelongs.1 hbelongs.2 ip hip
    rw [hbelongs.1, hbelongs.2] at hlead
    obtain ⟨ip', hip'⟩ := hlead
    have hmod : a.port % 65536 = a.port := Int.emod_eq_of_lt hpos.le hlt
    rw [hport, hmod] at hip'
    cases hip'
    rw [if_neg hunix]
    exact ⟨ip, hip, hport, hpos⟩

/-- The thread goes on with a well formed call, or with none. -/
theorem wellFormed_update {threads : Nat → Thread} {next : Thread}
    (h : ∀ t a, threads t = .reusing a ∨ threads t = .creating a → a.WellFormed)
    (hnext : ∀ b, next = .reusing b ∨ next = .creating b → b.WellFormed) :
    ∀ k b, Function.update threads t next k = .reusing b ∨
      Function.update threads t next k = .creating b → b.WellFormed := by
  intro k b hk
  by_cases hkt : k = t
  · rw [hkt, Function.update_self] at hk
    exact hnext b hk
  · rw [Function.update_of_ne hkt] at hk
    exact h k b hk

theorem wellFormed_idle (b : AcquireCall) (h : Thread.idle = .reusing b ∨ Thread.idle = .creating b) :
    b.WellFormed := by
  rcases h with h | h <;> cases h

/-- A call returns. -/
theorem PoolRun.Linked.giveTo {fd : Int} (h : s.Linked) (hnames : a.Names (s.peer fd)) :
    (s.giveTo t a fd).Linked :=
  ⟨h.slots, wellFormed_update h.calls wellFormed_idle,
    List.forall_mem_cons.mpr ⟨hnames, h.returned⟩⟩

theorem linked_loadCount (h : s.Linked) (hwell : a.WellFormed) : (s.loadCount cfg t a).Linked := by
  refine ⟨h.slots, ?_, h.returned⟩
  apply wellFormed_update h.calls
  intro b hb
  split at hb
  · rcases hb with hb | hb
    · cases hb
      exact hwell
    · cases hb
  · rcases hb with hb | hb
    · cases hb
    · cases hb
      exact hwell

theorem leads_swept {cs cs' : List HalmosFCGIConn} (hswept : Swept cs cs')
    (h : ∀ c ∈ cs, c.Leads peer) : ∀ c ∈ cs', c.Leads peer := by
  intro c hc
  rcases hswept.mem hc with hmem | ⟨hempty, -⟩
  · exact h c hmem
  · intro hopen
    exact absurd hempty hopen

/-- The first section. -/
theorem linked_tryReuse {quiet : Int → Bool} (h : s.Linked) (hthread : s.threads t = .reusing a)
    (hone : isUnixPort a.port = false →
      ∀ c ∈ s.pool.connections, c.Idle → quiet c.sockfd = true → c.isUnix = false →
        c.targetPort = a.port →
        ∀ ip ∈ inetPton a.target, ∃ port, s.peer c.sockfd = .inet ip port) :
    (s.tryReuse cfg t a quiet).Linked := by
  have hwell := h.calls t a (Or.inl hthread)
  unfold PoolRun.tryReuse Pool.reuse
  rcases reuseLoop_cases a.target a.port quiet s.pool.connections with
    ⟨hnone, hswept⟩ | ⟨front, c, back, front', hcs, hswept, hidle, hbelongs, hquiet, heq⟩
  · dsimp only
    rw [hnone]
    refine ⟨leads_swept hswept h.slots, ?_, h.returned⟩
    apply wellFormed_update h.calls
    intro b hb
    rcases hb with hb | hb
    · cases hb
    · cases hb
      exact hwell
  · have hslot : c ∈ s.pool.connections := by
      rw [hcs]
      exact List.mem_append_right _ List.mem_cons_self
    have hnames : a.Names (s.peer c.sockfd) :=
      names_of_belongs hwell (h.slots c hslot) hidle hbelongs
        (fun hport => hone hport c hslot hidle hquiet)
    have hswept' : Swept s.pool.connections (front' ++ c :: back) := by
      rw [hcs]
      exact hswept.append (Swept.refl _)
    have hslots := leads_swept hswept' h.slots
    dsimp only
    rw [heq]
    refine PoolRun.Linked.giveTo ⟨?_, h.calls, h.returned⟩ hnames
    intro e he
    rcases List.mem_append.mp he with he | he
    · exact hslots e (List.mem_append_left _ he)
    · rcases List.mem_cons.mp he with rfl | he
      · have hslot' := hslots c (List.mem_append_right _ List.mem_cons_self)
        exact Leads.of_eq hslot' (Or.inl rfl) rfl rfl rfl
      · exact hslots e (List.mem_append_right _ (List.mem_cons_of_mem c he))

/-- The second section. -/
theorem linked_createNew {fd : Int} (h : s.Linked) (hthread : s.threads t = .creating a)
    (hfd : s.Free fd) : (s.createNew cfg t a fd).Linked := by
  have hwell := h.calls t a (Or.inr hthread)
  have hold : ∀ c ∈ s.pool.connections,
      c.Leads (Function.update s.peer fd (createBackendSocket a.target a.port)) := by
    intro c hc hopen
    rw [Function.update_of_ne (hfd.2.2 c hc)]
    exact h.slots c hc hopen
  have hnames : a.Names (Function.update s.peer fd (createBackendSocket a.target a.port) fd) := by
    rw [Function.update_self]
    exact names_createBackendSocket hwell
  unfold PoolRun.createNew
  apply PoolRun.Linked.giveTo _ hnames
  refine ⟨?_, h.calls, h.returned⟩
  show ∀ c ∈ (s.pool.store cfg a.target a.port fd).connections, _
  unfold Pool.store
  dsimp only
  split
  · cases hstore : storeLoop fd a.target a.port s.pool.connections with
    | none => exact hold
    | some cs' =>
        obtain ⟨front, c, back, hcs, -, hcs'⟩ := storeLoop_eq_some hstore
        rw [hcs] at hold
        dsimp only
        rw [hcs']
        intro e he
        rcases List.mem_append.mp he with he | he
        · exact hold e (List.mem_append_left _ he)
        · rcases List.mem_cons.mp he with rfl | he
          · exact leads_fill c fd a.target a.port
          · exact hold e (List.mem_append_right _ (List.mem_cons_of_mem c he))
  · exact hold

theorem linked_release (h : s.Linked) (fd : Int) (healthy : Bool) :
    (s.step cfg (.release fd healthy)).Linked := by
  refine ⟨?_, h.calls, h.returned⟩
  show ∀ c ∈ (fcgiPoolConnRelease cfg fd healthy s.pool).connections, c.Leads s.peer
  unfold fcgiPoolConnRelease
  split
  · exact h.slots
  · cases hloop : releaseLoop cfg fd healthy s.pool.connections with
    | none => exact h.slots
    | some r =>
        obtain ⟨idx, cs'⟩ := r
        obtain ⟨front, c, back, hcs, -, -, -, hcs'⟩ := releaseLoop_eq_some hloop
        have hslots := h.slots
        rw [hcs] at hslots
        dsimp only
        rw [hcs']
        intro e he
        rcases List.mem_append.mp he with he | he
        · exact hslots e (List.mem_append_left _ he)
        · rcases List.mem_cons.mp he with rfl | he
          · have hslot := hslots c (List.mem_append_right _ List.mem_cons_self)
            refine Leads.of_eq hslot ?_ rfl rfl rfl
            cases healthy
            · exact Or.inr rfl
            · exact Or.inl rfl
          · exact hslots e (List.mem_append_right _ (List.mem_cons_of_mem c he))

theorem linked_step {i : PoolInput} (h : s.Linked) (hone : s.OneAddress i) :
    (s.step cfg i).Linked := by
  cases i with
  | acquire t a =>
      unfold PoolRun.step
      dsimp only
      split
      · exact linked_loadCount h hone
      · exact h
  | reuse t quiet =>
      unfold PoolRun.step
      dsimp only
      split
      · next a hthread => exact linked_tryReuse h hthread (hone a hthread)
      · exact h
  | create t sock =>
      unfold PoolRun.step
      dsimp only
      split
      · exact ⟨h.slots, wellFormed_update h.calls wellFormed_idle, h.returned⟩
      · next a fd hthread =>
          split
          · next hfree => exact linked_createNew h hthread hfree
          · exact h
      · exact h
  | release fd healthy => exact linked_release h fd healthy

theorem linked_fresh (poolSize : Nat) : (PoolRun.fresh poolSize).Linked := by
  refine ⟨?_, ?_, ?_⟩
  · intro c hc hopen
    rw [List.eq_of_mem_replicate hc] at hopen
    exact absurd rfl hopen
  · intro t a ha
    rcases ha with ha | ha <;> cases ha
  · intro r hr
    cases hr

end Peers

/-- **The sockets lead where they should.** In every run of well formed calls in which no idle TCP
socket with the port of a call leads to another address, every call returns a socket that is
connected to its target. -/
theorem acquire_connected {cfg : PoolConfig} {poolSize : Nat} {is : List PoolInput}
    (hrun : GuardedRun PoolRun.OneAddress (PoolRun.step cfg) (PoolRun.fresh poolSize) is) :
    ∀ r ∈ (runSteps (PoolRun.step cfg) (PoolRun.fresh poolSize) is).returned, r.1.Names r.2 := by
  have h : (runSteps (PoolRun.step cfg) (PoolRun.fresh poolSize) is).Linked := by
    apply GuardedRun.invariant _ (linked_fresh poolSize) hrun
    intro s i h hone
    exact linked_step h hone
  exact h.returned

/-! ## Two machines with one port -/

/-- The cluster of the configuration file. -/
def twoMachines : PoolConfig where
  php := ⟨[(ascii "192.168.1.10", 9000), (ascii "192.168.1.11", 9000)]⟩
  rust := ⟨[]⟩
  python := ⟨[]⟩
  phpQuota := 2
  rustQuota := 0
  pythonQuota := 0

def firstCall : AcquireCall := ⟨ascii "192.168.1.10", 9000, .php⟩

def secondCall : AcquireCall := ⟨ascii "192.168.1.11", 9000, .php⟩

theorem acquire_connected_first : firstCall.Names (.inet [192, 168, 1, 10] 9000) := by
  have hreturned : (firstCall, SockAddr.inet [192, 168, 1, 10] 9000)
      ∈ (runSteps (PoolRun.step twoMachines) (PoolRun.fresh 2)
        [.acquire 0 firstCall, .reuse 0 (fun _ => true), .create 0 (some 5)]).returned := by
    decide
  refine acquire_connected ?_ _ hreturned
  refine ⟨?_, ?_, trivial, trivial⟩
  · show firstCall.WellFormed
    unfold AcquireCall.WellFormed
    rw [if_neg (by decide)]
    exact ⟨by decide, by decide, by decide⟩
  · rintro a - - c hc hidle
    rw [List.eq_of_mem_replicate hc] at hidle
    exact absurd rfl hidle.1

/-- The second machine is asked for, and a socket to the first one is returned. -/
theorem acquire_wrong :
    ∃ (cfg : PoolConfig) (poolSize : Nat) (is : List PoolInput),
      ∃ r ∈ (runSteps (PoolRun.step cfg) (PoolRun.fresh poolSize) is).returned, ¬ r.1.Names r.2 := by
  refine ⟨twoMachines, 2, [.acquire 0 firstCall, .reuse 0 (fun _ => true), .create 0 (some 5),
    .release 5 true, .acquire 0 secondCall, .reuse 0 (fun _ => true)],
    (secondCall, .inet [192, 168, 1, 10] 9000), by decide, ?_⟩
  intro h
  have hport : ¬ isUnixPort secondCall.port = true := by decide
  unfold AcquireCall.Names at h
  rw [if_neg hport] at h
  obtain ⟨ip, hip, heq, -⟩ := h
  have hparse : inetPton secondCall.target = some [192, 168, 1, 11] := by decide
  rw [hparse] at hip
  cases hip
  cases heq

end Halmos.Fcgi
