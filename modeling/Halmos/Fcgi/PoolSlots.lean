import Halmos.Fcgi.PoolCounts

set_option autoImplicit false

/-! # The slot of a socket

Whatever the other threads do, each socket of the table is in one slot (`distinct_run`), a socket
that `fcgi_pool_conn_acquire` returns has one slot in use or none (`acquires_inUse`), and nobody else
changes that slot while the socket is held (`inUse_step`).
-/

namespace Halmos.Fcgi

/-! ## The slots of a socket -/

/-- The slots that hold the socket. -/
def Pool.slotsOf (p : Pool) (fd : Int) : List HalmosFCGIConn :=
  p.connections.filter (fun c => c.sockfd = fd)

/-- A release of the socket. -/
def PoolInput.Releases (fd : Int) : PoolInput → Prop
  | .release n _ => n = fd
  | _ => False

instance (fd : Int) : (j : PoolInput) → Decidable (j.Releases fd)
  | .acquire _ _ => inferInstanceAs (Decidable False)
  | .reuse _ _ => inferInstanceAs (Decidable False)
  | .create _ _ => inferInstanceAs (Decidable False)
  | .release n _ => inferInstanceAs (Decidable (n = fd))

section Slots

variable {cfg : PoolConfig} {target : List UInt8} {port : Int} {quiet : Int → Bool}
  {cs cs' : List HalmosFCGIConn} {fd n : Int} {healthy : Bool}

/-- The scan for a socket to use again passes over slots in use. -/
theorem filter_reuseLoop (target : List UInt8) (port : Int) (quiet : Int → Bool) (hfd : fd ≠ -1)
    (huse : ∀ c ∈ cs, c.sockfd = fd → c.inUse = true) :
    (reuseLoop target port quiet cs).1.filter (fun c => c.sockfd = fd)
      = cs.filter (fun c => c.sockfd = fd) := by
  induction cs with
  | nil => rfl
  | cons c cs ih =>
      rw [List.forall_mem_cons] at huse
      have hmore := ih huse.2
      rw [reuseLoop]
      by_cases hmatch : c.Idle ∧ c.belongs target port = true
      · -- An idle slot holds another socket.
        have hc : c.sockfd ≠ fd := by
          intro heq
          have hin := huse.1 heq
          rw [hmatch.1.2] at hin
          cases hin
        rw [if_pos hmatch]
        by_cases hquiet : quiet c.sockfd = true
        · rw [if_pos hquiet]
          simp [hc]
        · rw [if_neg hquiet]
          simp [hc, Ne.symm hfd, hmore]
      · rw [if_neg hmatch]
        simp [List.filter_cons, hmore]

theorem filter_storeLoop (hfd : fd ≠ -1) (hn : n ≠ fd)
    (h : storeLoop n target port cs = some cs') :
    cs'.filter (fun c => c.sockfd = fd) = cs.filter (fun c => c.sockfd = fd) := by
  obtain ⟨front, c, back, hcs, hempty, hcs'⟩ := storeLoop_eq_some h
  have hfill : (c.fill n target port).sockfd ≠ fd := hn
  rw [hcs, hcs']
  simp [hempty, hfill, Ne.symm hfd]

theorem filter_releaseLoop {idx : Backend} (hfd : fd ≠ -1) (hn : n ≠ fd)
    (h : releaseLoop cfg n healthy cs = some (idx, cs')) :
    cs'.filter (fun c => c.sockfd = fd) = cs.filter (fun c => c.sockfd = fd) := by
  obtain ⟨front, c, back, hcs, -, hc, -, hcs'⟩ := releaseLoop_eq_some h
  have hold : c.sockfd ≠ fd := by rw [hc]; exact hn
  have hnew : (if healthy = true then c.sockfd else -1) ≠ fd := by
    split
    · exact hold
    · exact Ne.symm hfd
  rw [hcs, hcs']
  simp [hold, hnew]

end Slots

section Others

variable {cfg : PoolConfig} {s : PoolRun} {fd : Int} {j : PoolInput}

/-- The socket is held, and its slot is in use. -/
structure PoolRun.InUse (s : PoolRun) (fd : Int) (slots : List HalmosFCGIConn) : Prop where
  held : fd ∈ s.held
  slots_eq : s.pool.slotsOf fd = slots
  used : ∀ c ∈ slots, c.inUse = true

theorem PoolRun.InUse.of_connections {slots : List HalmosFCGIConn} (h : s.InUse fd slots)
    {c : HalmosFCGIConn} (hc : c ∈ s.pool.connections) (hfd : c.sockfd = fd) :
    c.inUse = true := by
  apply h.used
  rw [← h.slots_eq]
  exact List.mem_filter.mpr ⟨hc, decide_eq_true hfd⟩

/-- A socket stays held until it is released. -/
theorem mem_held_step (h : fd ∈ s.held) (hj : ¬ j.Releases fd) : fd ∈ (s.step cfg j).held := by
  cases j with
  | acquire t a =>
      unfold PoolRun.step
      dsimp only
      split <;> exact h
  | reuse t quiet =>
      unfold PoolRun.step PoolRun.tryReuse
      dsimp only
      split
      · split
        · exact List.mem_cons_of_mem _ h
        · exact h
      · exact h
  | create t sock =>
      unfold PoolRun.step
      dsimp only
      split
      · exact h
      · split
        · exact List.mem_cons_of_mem _ h
        · exact h
      · exact h
  | release n healthy =>
      have hn : fd ≠ n := fun heq => hj heq.symm
      exact (List.mem_erase_of_ne hn).mpr h

/-- No section of another call touches a slot in use. -/
theorem slotsOf_step {slots : List HalmosFCGIConn} (h : s.InUse fd slots) (hpos : 0 ≤ fd)
    (hj : ¬ j.Releases fd) : (s.step cfg j).pool.slotsOf fd = s.pool.slotsOf fd := by
  have hfd : fd ≠ -1 := by omega
  cases j with
  | acquire t a =>
      unfold PoolRun.step
      dsimp only
      split <;> rfl
  | reuse t quiet =>
      unfold PoolRun.step PoolRun.tryReuse
      dsimp only
      split
      · next a hthread =>
          -- the scan takes and closes idle sockets only
          have hloop := filter_reuseLoop a.target a.port quiet hfd
            (fun c hc heq => h.of_connections hc heq)
          unfold Pool.reuse
          dsimp only
          cases hr : (reuseLoop a.target a.port quiet s.pool.connections).2 with
          | none => exact hloop
          | some n => exact hloop
      · rfl
  | create t sock =>
      unfold PoolRun.step
      dsimp only
      split
      · rfl
      · next a n hthread =>
          split
          · next hfree =>
              -- a new socket has a number that nobody holds
              have hn : n ≠ fd := by
                intro heq
                rw [heq] at hfree
                exact hfree.2.1 h.held
              show (s.pool.store cfg a.target a.port n).slotsOf fd = s.pool.slotsOf fd
              unfold Pool.store
              dsimp only
              split
              · split
                · next cs' hstore => exact filter_storeLoop hfd hn hstore
                · rfl
              · rfl
          · rfl
      · rfl
  | release n healthy =>
      show (fcgiPoolConnRelease cfg n healthy s.pool).slotsOf fd = s.pool.slotsOf fd
      unfold fcgiPoolConnRelease
      split
      · rfl
      · split
        · next idx cs' hrelease => exact filter_releaseLoop hfd hj hrelease
        · rfl

/-- What other threads do leaves the slot of a held socket alone. -/
theorem inUse_step {slots : List HalmosFCGIConn} (h : s.InUse fd slots) (hpos : 0 ≤ fd)
    (hj : ¬ j.Releases fd) : (s.step cfg j).InUse fd slots := by
  refine ⟨mem_held_step h.held hj, ?_, h.used⟩
  rw [← h.slots_eq]
  exact slotsOf_step h hpos hj

end Others

/-! ## Acquiring a socket -/

/-- The sockets of the table are in one slot each. -/
structure Pool.Distinct (p : Pool) : Prop where
  nodup : (openFds p.connections).Nodup
  valid : ∀ c ∈ p.connections, c.sockfd = -1 ∨ 0 ≤ c.sockfd

/-- The step in which the call `a` of `fcgi_pool_conn_acquire` gets the socket `fd`: the scan that
finds it, or the one behind its creation. -/
def PoolRun.Acquires (cfg : PoolConfig) (s : PoolRun) (a : AcquireCall) (fd : Int) :
    PoolInput → Prop
  | .reuse t quiet => s.threads t = .reusing a ∧ (s.pool.reuse cfg a.target a.port quiet).2 = some fd
  | .create t sock => s.threads t = .creating a ∧ sock = some fd ∧ s.Free fd
  | _ => False

section Acquire

variable {cfg : PoolConfig} {s : PoolRun} {a : AcquireCall} {fd : Int} {j : PoolInput} {p : Pool}
  {target : List UInt8} {port : Int} {quiet : Int → Bool} {healthy : Bool}
  {front back : List HalmosFCGIConn} {c : HalmosFCGIConn}

/-- A slot with the only copy of its socket. -/
theorem filter_middle (hc : c.sockfd = fd) (hother : ∀ d ∈ front ++ back, d.sockfd ≠ fd) :
    (front ++ c :: back).filter (fun d => d.sockfd = fd) = [c] := by
  have hfront : front.filter (fun d => d.sockfd = fd) = [] := by
    rw [List.filter_eq_nil_iff]
    intro d hd
    simpa using hother d (List.mem_append_left back hd)
  have hback : back.filter (fun d => d.sockfd = fd) = [] := by
    rw [List.filter_eq_nil_iff]
    intro d hd
    simpa using hother d (List.mem_append_right front hd)
  rw [List.filter_append, List.filter_cons, hfront, hback]
  simp [hc]

theorem Pool.Distinct.reuse (h : p.Distinct) (cfg : PoolConfig) (target : List UInt8) (port : Int)
    (quiet : Int → Bool) : (p.reuse cfg target port quiet).1.Distinct := by
  unfold Pool.reuse
  rcases reuseLoop_cases target port quiet p.connections with
    ⟨hnone, hswept⟩ | ⟨front, c, back, front', hcs, hswept, hidle, -, -, heq⟩
  · dsimp only
    rw [hnone]
    refine ⟨h.nodup.sublist hswept.openFds, ?_⟩
    intro d hd
    rcases hswept.mem hd with hmem | ⟨hempty, -⟩
    · exact h.valid d hmem
    · exact Or.inl hempty
  · have hswept' : Swept p.connections (front' ++ c :: back) := by
      rw [hcs]
      exact hswept.append (Swept.refl _)
    -- The slot that is taken keeps its socket.
    have hopen : openFds (front' ++ { c with inUse := true } :: back) = openFds (front' ++ c :: back) :=
      by rw [openFds_open hidle.1, openFds_open (c := { c with inUse := true }) hidle.1]
    dsimp only
    rw [heq]
    refine ⟨?_, ?_⟩
    · show (openFds (front' ++ { c with inUse := true } :: back)).Nodup
      rw [hopen]
      exact h.nodup.sublist hswept'.openFds
    · intro d hd
      have hmem : d = { c with inUse := true } ∨ d ∈ front' ++ c :: back := by
        simp only [List.mem_append, List.mem_cons] at hd ⊢
        tauto
      rcases hmem with rfl | hmem
      · apply h.valid c
        rw [hcs]
        exact List.mem_append_right _ List.mem_cons_self
      · rcases hswept'.mem hmem with hmem | ⟨hempty, -⟩
        · exact h.valid d hmem
        · exact Or.inl hempty

theorem Pool.Distinct.store (h : p.Distinct) (hpos : 0 ≤ fd)
    (hother : ∀ d ∈ p.connections, d.sockfd ≠ fd) : (p.store cfg target port fd).Distinct := by
  unfold Pool.store
  dsimp only
  split
  · split
    · next cs' hstore =>
        obtain ⟨front, c, back, hcs, hempty, hcs'⟩ := storeLoop_eq_some hstore
        have hnodup := h.nodup
        rw [hcs, openFds_empty hempty] at hnodup
        refine ⟨?_, ?_⟩
        · show (openFds cs').Nodup
          rw [hcs', openFds_open (by show fd ≠ -1; omega), List.nodup_middle, List.nodup_cons,
            ← openFds_append]
          refine ⟨?_, hnodup⟩
          intro hin
          obtain ⟨d, hd, heq⟩ := List.mem_map.mp (List.mem_filter.mp hin).1
          apply hother d _ heq
          rw [hcs]
          simp only [List.mem_append, List.mem_cons] at hd ⊢
          tauto
        · intro d hd
          have hd' : d ∈ cs' := hd
          rw [hcs'] at hd'
          have hmem : d = c.fill fd target port ∨ d ∈ p.connections := by
            rw [hcs]
            simp only [List.mem_append, List.mem_cons] at hd' ⊢
            tauto
          rcases hmem with rfl | hmem
          · exact Or.inr hpos
          · exact h.valid d hmem
    · exact h
  · exact h

theorem Pool.Distinct.release (h : p.Distinct) :
    (fcgiPoolConnRelease cfg fd healthy p).Distinct := by
  unfold fcgiPoolConnRelease
  split
  · exact h
  · split
    · next idx cs' hrelease =>
        obtain ⟨front, c, back, hcs, -, hc, -, hcs'⟩ := releaseLoop_eq_some hrelease
        have hnodup := h.nodup
        have hvalid := h.valid
        rw [hcs] at hnodup hvalid
        refine ⟨?_, ?_⟩
        · show (openFds cs').Nodup
          rw [hcs', openFds_append, openFds_cons]
          rw [openFds_append, openFds_cons] at hnodup
          cases healthy
          · refine hnodup.sublist (List.Sublist.append (List.Sublist.refl _) ?_)
            simp
          · simpa using hnodup
        · intro d hd
          have hd' : d ∈ cs' := hd
          rw [hcs'] at hd'
          simp only [List.mem_append, List.mem_cons] at hd'
          rcases hd' with hd' | rfl | hd'
          · exact hvalid d (List.mem_append_left _ hd')
          · cases healthy
            · exact Or.inl rfl
            · exact hvalid c (List.mem_append_right _ List.mem_cons_self)
          · exact hvalid d (List.mem_append_right _ (List.mem_cons_of_mem c hd'))
    · exact h

theorem distinct_step (h : s.pool.Distinct) : (s.step cfg j).pool.Distinct := by
  cases j with
  | acquire t a =>
      unfold PoolRun.step
      dsimp only
      split <;> exact h
  | reuse t quiet =>
      unfold PoolRun.step
      dsimp only
      split
      · next a hthread =>
          have hreuse := h.reuse cfg a.target a.port quiet
          unfold PoolRun.tryReuse
          dsimp only
          split <;> exact hreuse
      · exact h
  | create t sock =>
      unfold PoolRun.step
      dsimp only
      split
      · exact h
      · split
        · next hfree => exact h.store hfree.1 hfree.2.2
        · exact h
      · exact h
  | release n healthy => exact h.release

/-- In every run each socket of the table is in one slot. -/
theorem distinct_run (cfg : PoolConfig) (poolSize : Nat) (js : List PoolInput) :
    (runSteps (PoolRun.step cfg) (PoolRun.fresh poolSize) js).pool.Distinct := by
  have hslot : ∀ c ∈ (fcgiPoolInit poolSize).connections, c.sockfd = -1 := by
    intro c hc
    rw [List.eq_of_mem_replicate hc]
  have hnone : openFds (fcgiPoolInit poolSize).connections = [] := by
    unfold openFds
    rw [List.filter_eq_nil_iff]
    intro fd hfd
    obtain ⟨c, hc, rfl⟩ := List.mem_map.mp hfd
    simp [hslot c hc]
  have hfresh : (PoolRun.fresh poolSize).pool.Distinct := by
    refine ⟨?_, fun c hc => Or.inl (hslot c hc)⟩
    show (openFds (fcgiPoolInit poolSize).connections).Nodup
    rw [hnone]
    exact List.nodup_nil
  exact @runSteps_induction _ _ (PoolRun.step cfg) (fun s => s.pool.Distinct) _ js hfresh
    (fun j _ s h => distinct_step h)

/-- What a request adds to the counters. -/
def countedFor (cfg : PoolConfig) (a : AcquireCall) (slots : List HalmosFCGIConn) (i : Backend) : Int :=
  if slots ≠ [] ∧ i = getBackendIndex cfg (some a.target) a.port then 1 else 0

theorem acquires_pos (h : s.pool.Distinct) (hacq : s.Acquires cfg a fd j) : 0 ≤ fd := by
  cases j with
  | acquire t b => cases hacq
  | release n healthy => cases hacq
  | create t sock => exact hacq.2.2.1
  | reuse t quiet =>
      have hfound := hacq.2
      unfold Pool.reuse at hfound
      rcases reuseLoop_cases a.target a.port quiet s.pool.connections with
        ⟨hnone, -⟩ | ⟨front, c, back, front', hcs, -, hidle, -, -, heq⟩
      · dsimp only at hfound
        rw [hnone] at hfound
        cases hfound
      · dsimp only at hfound
        rw [heq] at hfound
        cases hfound
        apply (h.valid c _).resolve_left hidle.1
        rw [hcs]
        exact List.mem_append_right _ List.mem_cons_self

/-- A slot with a socket of the target counts once, for the target. -/
theorem count_eq_add_countedFor (p : Pool) (c : HalmosFCGIConn) (i : Backend) :
    p.count (getBackendIndex cfg (some a.target) a.port) 1 i
      = p.activeCounts i + countedFor cfg a [c] i := by
  unfold Pool.count countedFor
  by_cases hi : i = getBackendIndex cfg (some a.target) a.port
  · rw [← hi, Function.update_self, if_pos ⟨by simp, rfl⟩]
  · rw [Function.update_of_ne hi, if_neg (fun hboth => hi hboth.2), add_zero]

/-- The socket that a call gets is held, in a slot in use that is counted for the target of the
call, or in none. -/
structure PoolRun.Gets (cfg : PoolConfig) (s s' : PoolRun) (a : AcquireCall) (fd : Int) : Prop where
  inUse : s'.InUse fd (s'.pool.slotsOf fd)
  single : (s'.pool.slotsOf fd).length ≤ 1
  counted : ∀ i, s'.pool.activeCounts i
    = s.pool.activeCounts i + countedFor cfg a (s'.pool.slotsOf fd) i

/-- The scan gives out the socket of an idle slot. -/
theorem gets_reuse {t : Nat} {quiet : Int → Bool} (h : s.pool.Distinct)
    (hfound : (s.pool.reuse cfg a.target a.port quiet).2 = some fd) :
    PoolRun.Gets cfg s
      (PoolRun.giveTo { s with pool := (s.pool.reuse cfg a.target a.port quiet).1 } t a fd)
      a fd := by
  have hdistinct := h.reuse cfg a.target a.port quiet
  unfold Pool.reuse at hfound hdistinct ⊢
  rcases reuseLoop_cases a.target a.port quiet s.pool.connections with
    ⟨hnone, -⟩ | ⟨front, c, back, front', hcs, -, hidle, -, -, heq⟩
  · dsimp only at hfound
    rw [hnone] at hfound
    cases hfound
  · dsimp only at hfound hdistinct ⊢
    rw [heq] at hfound hdistinct ⊢
    cases hfound
    -- the sockets of the table are distinct: its slot is the only one
    have hslots : (front' ++ { c with inUse := true } :: back).filter
        (fun d => d.sockfd = c.sockfd) = [{ c with inUse := true }] := by
      apply filter_middle (c := { c with inUse := true }) rfl
      intro d hd
      exact sockfd_ne_of_distinct (c := { c with inUse := true }) hdistinct.nodup hidle.1 hd
    unfold PoolRun.giveTo
    constructor
    · unfold Pool.slotsOf
      dsimp only
      rw [hslots]
      refine ⟨List.mem_cons_self, hslots, ?_⟩
      intro d hd
      rw [List.mem_singleton.mp hd]
    · unfold Pool.slotsOf
      dsimp only
      rw [hslots]
      exact le_rfl
    · unfold Pool.slotsOf
      dsimp only
      rw [hslots]
      exact count_eq_add_countedFor s.pool _

/-- A new socket beside the table: no room for it, or no slot. -/
theorem gets_bypass {t : Nat} (hfree : s.Free fd)
    (hstore : s.pool.store cfg a.target a.port fd = s.pool) :
    PoolRun.Gets cfg s (s.createNew cfg t a fd) a fd := by
  have hnone : s.pool.slotsOf fd = [] := by
    unfold Pool.slotsOf
    rw [List.filter_eq_nil_iff]
    intro d hd
    simpa using hfree.2.2 d hd
  unfold PoolRun.createNew PoolRun.giveTo
  rw [hstore]
  constructor
  · dsimp only
    rw [hnone]
    refine ⟨List.mem_cons_self, hnone, ?_⟩
    intro d hd
    cases hd
  · dsimp only
    rw [hnone]
    exact Nat.zero_le 1
  · intro i
    dsimp only
    unfold countedFor
    rw [hnone, if_neg (fun hboth => hboth.1 rfl), add_zero]

/-- A new socket in the first empty slot. -/
theorem gets_store {t : Nat} {cs' : List HalmosFCGIConn} (hfree : s.Free fd)
    (hroom : s.pool.activeCounts (getBackendIndex cfg (some a.target) a.port)
      < cfg.quota (getBackendIndex cfg (some a.target) a.port))
    (hstore : storeLoop fd a.target a.port s.pool.connections = some cs') :
    PoolRun.Gets cfg s (s.createNew cfg t a fd) a fd := by
  have heq : s.pool.store cfg a.target a.port fd
      = ⟨cs', s.pool.count (getBackendIndex cfg (some a.target) a.port) 1⟩ := by
    simp only [Pool.store, if_pos hroom, hstore]
  obtain ⟨front, c, back, hcs, -, hcs'⟩ := storeLoop_eq_some hstore
  have hslots : cs'.filter (fun d => d.sockfd = fd) = [c.fill fd a.target a.port] := by
    rw [hcs']
    apply filter_middle (c := c.fill fd a.target a.port) rfl
    intro d hd
    apply hfree.2.2 d
    rw [hcs]
    exact List.perm_middle.mem_iff.mpr (List.mem_cons_of_mem c hd)
  unfold PoolRun.createNew PoolRun.giveTo
  rw [heq]
  constructor
  · unfold Pool.slotsOf
    dsimp only
    rw [hslots]
    refine ⟨List.mem_cons_self, hslots, ?_⟩
    intro d hd
    rw [List.mem_singleton.mp hd]
    rfl
  · unfold Pool.slotsOf
    dsimp only
    rw [hslots]
    exact le_rfl
  · unfold Pool.slotsOf
    dsimp only
    rw [hslots]
    exact count_eq_add_countedFor s.pool _

/-- The step of an acquire gets the socket, from the scan or from the creation behind it. -/
theorem acquires_inUse (h : s.pool.Distinct) (hacq : s.Acquires cfg a fd j) :
    PoolRun.Gets cfg s (s.step cfg j) a fd := by
  cases j with
  | acquire t b => cases hacq
  | release n healthy => cases hacq
  | reuse t quiet =>
      obtain ⟨hthread, hfound⟩ := hacq
      have hstep : s.step cfg (.reuse t quiet)
          = PoolRun.giveTo { s with pool := (s.pool.reuse cfg a.target a.port quiet).1 } t a fd := by
        simp only [PoolRun.step, hthread, PoolRun.tryReuse, hfound]
      rw [hstep]
      exact gets_reuse h hfound
  | create t sock =>
      obtain ⟨hthread, rfl, hfree⟩ := hacq
      have hstep : s.step cfg (.create t (some fd)) = s.createNew cfg t a fd := by
        simp only [PoolRun.step, hthread, if_pos hfree]
      rw [hstep]
      by_cases hroom : s.pool.activeCounts (getBackendIndex cfg (some a.target) a.port)
          < cfg.quota (getBackendIndex cfg (some a.target) a.port)
      · cases hstore : storeLoop fd a.target a.port s.pool.connections with
        | none =>
            apply gets_bypass hfree
            simp only [Pool.store, if_pos hroom, hstore]
        | some cs' => exact gets_store hfree hroom hstore
      · apply gets_bypass hfree
        simp only [Pool.store, if_neg hroom]

end Acquire

end Halmos.Fcgi
