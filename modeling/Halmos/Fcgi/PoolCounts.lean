import Halmos.Fcgi.Pool

set_option autoImplicit false

/-! # The counters of the pool

`active_counts` is to say how many slots are in use for each backend. A slot is counted when it is
taken and again when it is released, each time under an index that is looked up anew: from the
address when it is taken, from the port (or the path) when it is released. As long as both give the
backend that the socket was acquired for, and the quota still has room when an idle socket is taken,
the counters are right (`counts_balanced`).
-/

namespace Halmos.Fcgi

/-! ## Counting slots -/

/-- The slot is in use for the backend. -/
def usedFor (owner : Int → Backend) (i : Backend) (c : HalmosFCGIConn) : Bool :=
  c.inUse ∧ owner c.sockfd = i

/-- The sockets in the table. -/
def openFds (cs : List HalmosFCGIConn) : List Int :=
  (cs.map HalmosFCGIConn.sockfd).filter (fun fd => fd ≠ -1)

/-- The table and the counters agree with what is held. -/
structure Balanced (cfg : PoolConfig) (p : Pool) (held : List Int) (owner : Int → Backend) :
    Prop where
  distinct : (openFds p.connections).Nodup
  nodup : held.Nodup
  nonneg : ∀ fd ∈ held, 0 ≤ fd
  valid : ∀ c ∈ p.connections, c.sockfd = -1 ∨ 0 ≤ c.sockfd
  used : ∀ c ∈ p.connections, c.inUse = true →
    c.sockfd ≠ -1 ∧ c.sockfd ∈ held ∧ c.releaseIndex cfg = owner c.sockfd
  idle : ∀ c ∈ p.connections, c.Idle → c.sockfd ∉ held
  counts : ∀ i, p.activeCounts i = p.connections.countP (usedFor owner i)
  quota : ∀ i, p.activeCounts i ≤ cfg.quota i

section Slots

variable {cs cs' front back : List HalmosFCGIConn} {c d : HalmosFCGIConn} {owner : Int → Backend}
  {i : Backend} {fd : Int}

theorem openFds_append : openFds (front ++ cs) = openFds front ++ openFds cs := by
  unfold openFds
  rw [List.map_append, List.filter_append]

theorem openFds_cons : openFds (c :: cs) = (if c.sockfd = -1 then [] else [c.sockfd]) ++ openFds cs := by
  unfold openFds
  rw [List.map_cons, List.filter_cons]
  by_cases hc : c.sockfd = -1 <;> simp [hc]

theorem mem_openFds (hc : c ∈ cs) (hopen : c.sockfd ≠ -1) : c.sockfd ∈ openFds cs := by
  unfold openFds
  rw [List.mem_filter]
  exact ⟨List.mem_map_of_mem hc, decide_eq_true hopen⟩

theorem openFds_open (h : c.sockfd ≠ -1) :
    openFds (front ++ c :: back) = openFds front ++ c.sockfd :: openFds back := by
  rw [openFds_append, openFds_cons, if_neg h, List.singleton_append]

theorem openFds_empty (h : c.sockfd = -1) :
    openFds (front ++ c :: back) = openFds (front ++ back) := by
  rw [openFds_append, openFds_cons, if_pos h, List.nil_append, openFds_append]

theorem openFds_sublist (c : HalmosFCGIConn) :
    (openFds (front ++ back)).Sublist (openFds (front ++ c :: back)) := by
  unfold openFds
  apply List.Sublist.filter
  apply List.Sublist.map
  exact List.Sublist.append (List.Sublist.refl _) (List.sublist_cons_self c back)

/-- A socket of the table is in one slot. -/
theorem sockfd_ne_of_distinct (h : (openFds (front ++ c :: back)).Nodup) (hopen : c.sockfd ≠ -1)
    (hd : d ∈ front ++ back) : d.sockfd ≠ c.sockfd := by
  intro heq
  have hd' : d.sockfd ∈ openFds (front ++ back) := mem_openFds hd (by rw [heq]; exact hopen)
  rw [openFds_open hopen, List.nodup_middle, List.nodup_cons, ← openFds_append] at h
  rw [heq] at hd'
  exact h.1 hd'

/-- Slots that are swept are as they were, or empty. -/
theorem Swept.mem (h : Swept cs cs') (hd : d ∈ cs') : d ∈ cs ∨ (d.sockfd = -1 ∧ d.inUse = false) := by
  induction h with
  | nil => cases hd
  | @cons a a' as as' hstep _ ih =>
      rcases List.mem_cons.mp hd with rfl | hd
      · rcases hstep with rfl | ⟨hidle, rfl⟩
        · exact Or.inl List.mem_cons_self
        · exact Or.inr ⟨rfl, hidle.2⟩
      · rcases ih hd with hmem | hempty
        · exact Or.inl (List.mem_cons_of_mem a hmem)
        · exact Or.inr hempty

theorem Swept.openFds (h : Swept cs cs') : (openFds cs').Sublist (openFds cs) := by
  induction h with
  | nil => exact List.Sublist.refl _
  | @cons a a' as as' hstep _ ih =>
      rw [openFds_cons, openFds_cons]
      rcases hstep with rfl | ⟨hidle, rfl⟩
      · exact List.Sublist.append (List.Sublist.refl _) ih
      · rw [if_pos rfl, List.nil_append]
        exact ih.trans (List.sublist_append_right _ _)

theorem Swept.countP (h : Swept cs cs') : cs'.countP (usedFor owner i) = cs.countP (usedFor owner i) := by
  induction h with
  | nil => rfl
  | @cons a a' as as' hstep _ ih =>
      rw [List.countP_cons, List.countP_cons, ih]
      congr 1
      rcases hstep with rfl | ⟨hidle, rfl⟩
      · rfl
      · have hold : usedFor owner i a = false := by simp [usedFor, hidle.2]
        have hnew : usedFor owner i { a with sockfd := -1 } = false := by simp [usedFor, hidle.2]
        rw [hold, hnew]

theorem Swept.append {more more' : List HalmosFCGIConn} (h : Swept cs cs') (hmore : Swept more more') :
    Swept (cs ++ more) (cs' ++ more') := List.rel_append h hmore

/-- A new owner of a socket that is in no slot does not matter. -/
theorem countP_update {b : Backend} (h : ∀ c ∈ cs, c.inUse = true → c.sockfd ≠ fd) :
    cs.countP (usedFor (Function.update owner fd b) i) = cs.countP (usedFor owner i) := by
  apply List.countP_congr
  intro c hc
  unfold usedFor
  by_cases huse : c.inUse = true
  · rw [Function.update_of_ne (h c hc huse)]
  · simp [huse]

end Slots

/-! ## What a section does -/

section Sections

variable {cfg : PoolConfig} {p : Pool} {held : List Int} {owner : Int → Backend}
  {front back cs : List HalmosFCGIConn} {c d : HalmosFCGIConn} {fd : Int} {b : Backend}

/-- Idle sockets may be closed. -/
theorem Balanced.sweep (h : Balanced cfg p held owner) (hswept : Swept p.connections cs) :
    Balanced cfg ⟨cs, p.activeCounts⟩ held owner where
  distinct := h.distinct.sublist hswept.openFds
  nodup := h.nodup
  nonneg := h.nonneg
  valid d hd := by
    rcases hswept.mem hd with hmem | ⟨hempty, -⟩
    · exact h.valid d hmem
    · exact Or.inl hempty
  used d hd huse := by
    rcases hswept.mem hd with hmem | ⟨-, hfree⟩
    · exact h.used d hmem huse
    · rw [hfree] at huse
      cases huse
  idle d hd hidle := by
    rcases hswept.mem hd with hmem | ⟨hempty, -⟩
    · exact h.idle d hmem hidle
    · exact absurd hempty hidle.1
  counts i := by
    rw [h.counts i]
    exact congrArg Nat.cast hswept.countP.symm
  quota := h.quota

/-- A slot that was not in use holds a socket that was not held. -/
theorem Balanced.take (h : Balanced cfg ⟨front ++ c :: back, p.activeCounts⟩ held owner)
    (hfree : c.inUse = false) (huse : d.inUse = true) (hfd : d.sockfd = fd) (hpos : 0 ≤ fd)
    (hheld : fd ∉ held) (hother : ∀ e ∈ front ++ back, e.sockfd ≠ fd)
    (hindex : d.releaseIndex cfg = b)
    (hquota : p.activeCounts b < cfg.quota b) :
    Balanced cfg ⟨front ++ d :: back, p.count b 1⟩ (fd :: held) (Function.update owner fd b) := by
  have hne : fd ≠ -1 := by omega
  -- The slots are the new one and those that were there beside the old one.
  have hmem : ∀ e ∈ front ++ d :: back, e = d ∨ e ∈ front ++ back :=
    fun e he => List.mem_cons.mp (List.perm_middle.mem_iff.mp he)
  have hold : ∀ e ∈ front ++ back, e ∈ front ++ c :: back :=
    fun e he => List.perm_middle.mem_iff.mpr (List.mem_cons_of_mem c he)
  constructor
  · have hdistinct := h.distinct
    dsimp only at hdistinct ⊢
    rw [openFds_open (by rw [hfd]; exact hne), hfd, List.nodup_middle, List.nodup_cons,
      ← openFds_append]
    refine ⟨?_, hdistinct.sublist (openFds_sublist c)⟩
    intro hin
    unfold openFds at hin
    rw [List.mem_filter, List.mem_map] at hin
    obtain ⟨⟨e, he, heq⟩, -⟩ := hin
    exact hother e he heq
  · exact List.nodup_cons.mpr ⟨hheld, h.nodup⟩
  · rw [List.forall_mem_cons]
    exact ⟨hpos, h.nonneg⟩
  · intro e he
    rcases hmem e he with rfl | he
    · exact Or.inr (by rw [hfd]; exact hpos)
    · exact h.valid e (hold e he)
  · intro e he huse'
    rcases hmem e he with rfl | he
    · refine ⟨by rw [hfd]; exact hne, by rw [hfd]; exact List.mem_cons_self, ?_⟩
      rw [hfd, Function.update_self]
      exact hindex
    · obtain ⟨hopen, hin, hidx⟩ := h.used e (hold e he) huse'
      refine ⟨hopen, List.mem_cons_of_mem fd hin, ?_⟩
      rw [Function.update_of_ne (hother e he)]
      exact hidx
  · intro e he hidle
    rcases hmem e he with rfl | he
    · rw [hidle.2] at huse
      cases huse
    · intro hin
      rcases List.mem_cons.mp hin with heq | hin
      · exact hother e he heq
      · exact h.idle e (hold e he) hidle hin
  · intro i
    have hcount := h.counts i
    dsimp only at hcount ⊢
    -- The new owner is one of the taken slot alone, since no other slot has its socket.
    have hfront : front.countP (usedFor (Function.update owner fd b) i)
        = front.countP (usedFor owner i) :=
      countP_update (fun e he _ => hother e (List.mem_append_left _ he))
    have hback : back.countP (usedFor (Function.update owner fd b) i)
        = back.countP (usedFor owner i) :=
      countP_update (fun e he _ => hother e (List.mem_append_right _ he))
    have hcfree : usedFor owner i c = false := by simp [usedFor, hfree]
    have hd : usedFor (Function.update owner fd b) i d = decide (b = i) := by
      simp [usedFor, huse, hfd]
    rw [List.countP_append, List.countP_cons, hcfree] at hcount
    rw [List.countP_append, List.countP_cons, hfront, hback, hd]
    unfold Pool.count
    -- The counter of `b` and the slots of `b` in use both go up by one.
    by_cases hi : i = b
    · rw [hi] at hcount ⊢
      rw [Function.update_self, hcount]
      simp
      omega
    · rw [Function.update_of_ne hi, hcount]
      simp [Ne.symm hi]
  · intro i
    unfold Pool.count
    dsimp only
    by_cases hi : i = b
    · rw [hi, Function.update_self]
      omega
    · rw [Function.update_of_ne hi]
      exact h.quota i

/-- A socket beside the table. -/
theorem Balanced.bypass (h : Balanced cfg p held owner) (hpos : 0 ≤ fd) (hheld : fd ∉ held)
    (hother : ∀ e ∈ p.connections, e.sockfd ≠ fd) (b : Backend) :
    Balanced cfg p (fd :: held) (Function.update owner fd b) where
  distinct := h.distinct
  nodup := List.nodup_cons.mpr ⟨hheld, h.nodup⟩
  nonneg := List.forall_mem_cons.mpr ⟨hpos, h.nonneg⟩
  valid := h.valid
  used e he huse := by
    obtain ⟨hopen, hin, hidx⟩ := h.used e he huse
    rw [Function.update_of_ne (hother e he)]
    exact ⟨hopen, List.mem_cons_of_mem fd hin, hidx⟩
  idle e he hidle := by
    intro hin
    rcases List.mem_cons.mp hin with heq | hin
    · exact hother e he heq
    · exact h.idle e he hidle hin
  counts i := by
    rw [countP_update (fun e he _ => hother e he)]
    exact h.counts i
  quota := h.quota

/-- A socket beside the table is given back. -/
theorem Balanced.leave (h : Balanced cfg p held owner)
    (hother : ∀ e ∈ p.connections, e.sockfd ≠ fd) : Balanced cfg p (held.erase fd) owner where
  distinct := h.distinct
  nodup := h.nodup.erase fd
  nonneg k hk := h.nonneg k (List.mem_of_mem_erase hk)
  valid := h.valid
  used e he huse := by
    obtain ⟨hopen, hin, hidx⟩ := h.used e he huse
    exact ⟨hopen, (List.mem_erase_of_ne (hother e he)).mpr hin, hidx⟩
  idle e he hidle hin := h.idle e he hidle (List.mem_of_mem_erase hin)
  counts := h.counts
  quota := h.quota

/-- A slot in use becomes idle or empty. -/
theorem Balanced.free (h : Balanced cfg ⟨front ++ c :: back, p.activeCounts⟩ held owner)
    (huse : c.inUse = true) (hc : c.sockfd = fd) (hfree : d.inUse = false)
    (hd : d.sockfd = fd ∨ d.sockfd = -1) :
    Balanced cfg ⟨front ++ d :: back, p.count (c.releaseIndex cfg) (-1)⟩ (held.erase fd) owner := by
  have hslot : c ∈ front ++ c :: back := List.mem_append_right _ List.mem_cons_self
  obtain ⟨hopen, -, hindex⟩ := h.used c hslot huse
  rw [hc] at hopen hindex
  have hnot : fd ∉ held.erase fd := by
    rw [h.nodup.mem_erase_iff]
    exact fun hin => hin.1 rfl
  -- The socket was in this slot alone, so giving it back touches no other slot.
  have hother : ∀ e ∈ front ++ back, e.sockfd ≠ fd := by
    intro e he
    rw [← hc]
    exact sockfd_ne_of_distinct h.distinct (by rw [hc]; exact hopen) he
  have hold : ∀ e ∈ front ++ back, e ∈ front ++ c :: back :=
    fun e he => List.perm_middle.mem_iff.mpr (List.mem_cons_of_mem c he)
  have hmem : ∀ e ∈ front ++ d :: back, e = d ∨ e ∈ front ++ back :=
    fun e he => List.mem_cons.mp (List.perm_middle.mem_iff.mp he)
  constructor
  · have hdistinct := h.distinct
    dsimp only at hdistinct ⊢
    rcases hd with hd | hd
    · rw [openFds_open (by rw [hc]; exact hopen), hc] at hdistinct
      rw [openFds_open (by rw [hd]; exact hopen), hd]
      exact hdistinct
    · rw [openFds_empty hd]
      exact hdistinct.sublist (openFds_sublist c)
  · exact h.nodup.erase fd
  · intro k hk
    exact h.nonneg k (List.mem_of_mem_erase hk)
  · intro e he
    rcases hmem e he with rfl | he
    · rcases hd with hd | hd
      · right
        rw [hd, ← hc]
        exact (h.valid c hslot).resolve_left (by rw [hc]; exact hopen)
      · exact Or.inl hd
    · exact h.valid e (hold e he)
  · intro e he huse'
    rcases hmem e he with rfl | he
    · rw [hfree] at huse'
      cases huse'
    · obtain ⟨hopen', hin, hidx⟩ := h.used e (hold e he) huse'
      exact ⟨hopen', (List.mem_erase_of_ne (hother e he)).mpr hin, hidx⟩
  · intro e he hidle hin
    rcases hmem e he with rfl | he
    · rcases hd with hd | hd
      · rw [hd] at hin
        exact hnot hin
      · exact hidle.1 hd
    · exact h.idle e (hold e he) hidle (List.mem_of_mem_erase hin)
  · intro i
    have hcount := h.counts i
    have hcuse : usedFor owner i c = decide (owner fd = i) := by simp [usedFor, huse, hc]
    have hdfree : usedFor owner i d = false := by simp [usedFor, hfree]
    dsimp only at hcount ⊢
    rw [List.countP_append, List.countP_cons, hcuse] at hcount
    rw [List.countP_append, List.countP_cons, hdfree]
    unfold Pool.count
    rw [hindex]
    -- The release counts down the counter that the acquire counted up.
    by_cases hi : i = owner fd
    · rw [← hi, Function.update_self, hcount]
      simp [← hi]
      omega
    · rw [Function.update_of_ne hi, hcount]
      simp [Ne.symm hi]
  · intro i
    have hquota := h.quota i
    unfold Pool.count
    dsimp only at hquota ⊢
    by_cases hi : i = c.releaseIndex cfg
    · rw [hi] at hquota ⊢
      rw [Function.update_self]
      omega
    · rw [Function.update_of_ne hi]
      exact hquota

/-- A socket that is held is released. -/
theorem Balanced.release (h : Balanced cfg p held owner) (hfd : fd ∈ held) (healthy : Bool) :
    Balanced cfg (fcgiPoolConnRelease cfg fd healthy p) (held.erase fd) owner := by
  have hpos := h.nonneg fd hfd
  unfold fcgiPoolConnRelease
  rw [if_neg (by omega)]
  cases hloop : releaseLoop cfg fd healthy p.connections with
  | none => exact h.leave (releaseLoop_eq_none hloop)
  | some r =>
      obtain ⟨idx, cs'⟩ := r
      obtain ⟨front, c, back, hcs, -, hc, hidx, hcs'⟩ := releaseLoop_eq_some hloop
      have hmem : c ∈ p.connections := by
        rw [hcs]
        exact List.mem_append_right _ List.mem_cons_self
      have huse : c.inUse = true := by
        rw [← Bool.not_eq_false]
        intro hfree
        have hidle : c.Idle := ⟨by rw [hc]; omega, hfree⟩
        rw [← hc] at hfd
        exact h.idle c hmem hidle hfd
      have h' : Balanced cfg ⟨front ++ c :: back, p.activeCounts⟩ held owner := by
        rw [← hcs]
        exact h
      rw [hidx, hcs']
      apply h'.free huse hc rfl
      cases healthy
      · exact Or.inr rfl
      · exact Or.inl hc

end Sections

/-! ## Runs -/

/-- Both ways to look up the index give the backend of the call: by the target, and by what
`fcgi_pool_conn_release` will find in the slot. -/
def AcquireCall.Settled (cfg : PoolConfig) (a : AcquireCall) : Prop :=
  getBackendIndex cfg (some a.target) a.port = a.backend ∧
    getBackendIndex cfg (if isUnixPort a.port then some (a.target.take 107) else none) a.port
      = a.backend

/-- A slot is taken for a settled call only, an idle one only while the quota has room, and only
sockets that are held are released. -/
def PoolRun.Fair (cfg : PoolConfig) (s : PoolRun) : PoolInput → Prop
  | .acquire _ _ => True
  | .reuse t quiet => ∀ a, s.threads t = .reusing a →
      (∃ c ∈ s.pool.connections, c.Idle ∧ c.belongs a.target a.port = true ∧
        quiet c.sockfd = true) →
      a.Settled cfg ∧ s.pool.activeCounts a.backend < cfg.quota a.backend
  | .create t sock => ∀ a, s.threads t = .creating a → sock.isSome = true →
      (∃ c ∈ s.pool.connections, c.sockfd = -1) →
      s.pool.activeCounts (getBackendIndex cfg (some a.target) a.port)
        < cfg.quota (getBackendIndex cfg (some a.target) a.port) →
      a.Settled cfg
  | .release fd _ => fd ∈ s.held

section Runs

variable {cfg : PoolConfig} {s : PoolRun} {a : AcquireCall}

/-- With an address the port does not matter. -/
theorem getBackendIndex_port (cfg : PoolConfig) (target : List UInt8) (port port' : Int) :
    getBackendIndex cfg (some target) port = getBackendIndex cfg (some target) port' := rfl

/-- The index of a slot that is used again. -/
theorem releaseIndex_of_belongs {c : HalmosFCGIConn} (hsettled : a.Settled cfg)
    (hbelongs : c.belongs a.target a.port = true) : c.releaseIndex cfg = a.backend := by
  unfold HalmosFCGIConn.belongs at hbelongs
  unfold HalmosFCGIConn.releaseIndex
  by_cases hunix : isUnixPort a.port = true
  · rw [if_pos hunix, decide_eq_true_eq] at hbelongs
    rw [if_pos hbelongs.1, hbelongs.2, getBackendIndex_port cfg a.target _ a.port]
    exact hsettled.1
  · rw [if_neg hunix, decide_eq_true_eq] at hbelongs
    have hindex := hsettled.2
    rw [if_neg hunix] at hindex
    rw [hbelongs.1, hbelongs.2]
    exact hindex

theorem releaseIndex_fill (c : HalmosFCGIConn) (fd : Int) (hsettled : a.Settled cfg) :
    (c.fill fd a.target a.port).releaseIndex cfg = a.backend := by
  have hindex := hsettled.2
  unfold HalmosFCGIConn.releaseIndex HalmosFCGIConn.fill
  dsimp only
  by_cases hunix : isUnixPort a.port = true
  · rw [if_pos hunix] at hindex
    rw [if_pos hunix, if_pos hunix]
    exact hindex
  · rw [if_neg hunix] at hindex
    rw [if_neg hunix]
    exact hindex

/-- The counters of a run are right. -/
def PoolRun.Right (cfg : PoolConfig) (s : PoolRun) : Prop := Balanced cfg s.pool s.held s.owner

/-- The first section. -/
theorem right_tryReuse {t : Nat} {quiet : Int → Bool} (h : s.Right cfg)
    (hfair : (∃ c ∈ s.pool.connections, c.Idle ∧ c.belongs a.target a.port = true ∧
        quiet c.sockfd = true) →
      a.Settled cfg ∧ s.pool.activeCounts a.backend < cfg.quota a.backend) :
    (s.tryReuse cfg t a quiet).Right cfg := by
  unfold PoolRun.tryReuse Pool.reuse
  rcases reuseLoop_cases a.target a.port quiet s.pool.connections with
    ⟨hnone, hswept⟩ | ⟨front, c, back, front', hcs, hswept, hidle, hbelongs, hquiet, heq⟩
  · dsimp only
    rw [hnone]
    exact h.sweep hswept
  · have hslot : c ∈ s.pool.connections := by
      rw [hcs]
      exact List.mem_append_right _ List.mem_cons_self
    obtain ⟨hsettled, hroom⟩ := hfair ⟨c, hslot, hidle, hbelongs, hquiet⟩
    have hswept' : Swept s.pool.connections (front' ++ c :: back) := by
      rw [hcs]
      exact hswept.append (Swept.refl _)
    have h' := h.sweep hswept'
    have hslot' : c ∈ front' ++ c :: back := List.mem_append_right _ List.mem_cons_self
    dsimp only
    rw [heq]
    dsimp only
    have hpos : 0 ≤ c.sockfd := (h.valid c hslot).resolve_left hidle.1
    have htake : Balanced cfg ⟨front' ++ { c with inUse := true } :: back,
        s.pool.count a.backend 1⟩ (c.sockfd :: s.held)
        (Function.update s.owner c.sockfd a.backend) := by
      apply h'.take (d := { c with inUse := true }) hidle.2 rfl rfl hpos (h.idle c hslot hidle) _ _
        hroom
      · intro e he
        exact sockfd_ne_of_distinct (c := c) h'.distinct hidle.1 he
      · exact releaseIndex_of_belongs hsettled hbelongs
    unfold PoolRun.giveTo PoolRun.Right
    dsimp only
    rw [hsettled.1]
    exact htake

/-- The second section. -/
theorem right_createNew {t : Nat} {fd : Int} (h : s.Right cfg) (hfd : s.Free fd)
    (hfair : (∃ c ∈ s.pool.connections, c.sockfd = -1) →
      s.pool.activeCounts (getBackendIndex cfg (some a.target) a.port)
        < cfg.quota (getBackendIndex cfg (some a.target) a.port) → a.Settled cfg) :
    (s.createNew cfg t a fd).Right cfg := by
  obtain ⟨hpos, hheld, hother⟩ := hfd
  have hbypass : Balanced cfg s.pool (fd :: s.held) (Function.update s.owner fd a.backend) :=
    h.bypass hpos hheld hother a.backend
  unfold PoolRun.createNew PoolRun.giveTo PoolRun.Right Pool.store
  dsimp only
  by_cases hroom : s.pool.activeCounts (getBackendIndex cfg (some a.target) a.port)
      < cfg.quota (getBackendIndex cfg (some a.target) a.port)
  · rw [if_pos hroom]
    cases hstore : storeLoop fd a.target a.port s.pool.connections with
    | none => exact hbypass
    | some cs' =>
        obtain ⟨front, c, back, hcs, hempty, hcs'⟩ := storeLoop_eq_some hstore
        have hslot : c ∈ s.pool.connections := by
          rw [hcs]
          exact List.mem_append_right _ List.mem_cons_self
        have hsettled := hfair ⟨c, hslot, hempty⟩ hroom
        have hfree : c.inUse = false := by
          rw [← Bool.not_eq_true]
          intro huse
          exact (h.used c hslot huse).1 hempty
        have h' : Balanced cfg ⟨front ++ c :: back, s.pool.activeCounts⟩ s.held s.owner := by
          rw [← hcs]
          exact h
        dsimp only
        rw [hsettled.1] at hroom ⊢
        rw [hcs']
        apply h'.take hfree rfl rfl hpos hheld _ (releaseIndex_fill c fd hsettled) hroom
        intro e he
        apply hother
        rw [hcs]
        rcases List.mem_append.mp he with he | he
        · exact List.mem_append_left _ he
        · exact List.mem_append_right _ (List.mem_cons_of_mem c he)
  · rw [if_neg hroom]
    exact hbypass

theorem right_step {i : PoolInput} (h : s.Right cfg) (hfair : s.Fair cfg i) :
    (s.step cfg i).Right cfg := by
  cases i with
  | acquire t a =>
      unfold PoolRun.step
      dsimp only
      split
      · exact h
      · exact h
  | reuse t quiet =>
      unfold PoolRun.step
      dsimp only
      split
      · next a hthread => exact right_tryReuse h (hfair a hthread)
      · exact h
  | create t sock =>
      unfold PoolRun.step
      dsimp only
      split
      · exact h
      · next a fd hthread =>
          split
          · next hfree => exact right_createNew h hfree (hfair a hthread rfl)
          · exact h
      · exact h
  | release fd healthy => exact h.release hfair healthy

theorem right_fresh (poolSize : Nat) : (PoolRun.fresh poolSize).Right cfg := by
  have hslot : ∀ c ∈ (fcgiPoolInit poolSize).connections,
      c = (⟨-1, 0, [], false, false⟩ : HalmosFCGIConn) :=
    fun c hc => List.eq_of_mem_replicate hc
  constructor
  · have hnil : openFds (fcgiPoolInit poolSize).connections = [] := by
      unfold openFds
      rw [List.filter_eq_nil_iff]
      intro fd hfd
      obtain ⟨c, hc, rfl⟩ := List.mem_map.mp hfd
      rw [hslot c hc]
      decide
    show (openFds (fcgiPoolInit poolSize).connections).Nodup
    rw [hnil]
    exact List.nodup_nil
  · exact List.nodup_nil
  · intro fd hfd
    cases hfd
  · intro c hc
    rw [hslot c hc]
    exact Or.inl rfl
  · intro c hc huse
    rw [hslot c hc] at huse
    cases huse
  · intro c hc hidle
    rw [hslot c hc] at hidle
    exact absurd rfl hidle.1
  · intro i
    have hnone : (fcgiPoolInit poolSize).connections.countP (usedFor (fun _ => .php) i) = 0 := by
      rw [List.countP_eq_zero]
      intro c hc
      rw [hslot c hc]
      simp [usedFor]
    exact congrArg Nat.cast hnone.symm
  · intro i
    exact Int.natCast_nonneg _

end Runs

/-- **The counters are right.** In every run whose steps are fair, each counter is the number of
slots in use for its backend, never negative and never above the quota, and it is 0 when everything
has been released. -/
theorem counts_balanced {cfg : PoolConfig} {poolSize : Nat} {is : List PoolInput}
    (hrun : GuardedRun (PoolRun.Fair cfg) (PoolRun.step cfg) (PoolRun.fresh poolSize) is) :
    let s := runSteps (PoolRun.step cfg) (PoolRun.fresh poolSize) is
    ∀ i, s.pool.activeCounts i = s.pool.connections.countP (usedFor s.owner i) ∧
      0 ≤ s.pool.activeCounts i ∧ s.pool.activeCounts i ≤ cfg.quota i ∧
      (s.held = [] → s.pool.activeCounts i = 0) := by
  intro s i
  have h : s.Right cfg := by
    apply GuardedRun.invariant _ (right_fresh poolSize) hrun
    intro s' i' h hfair
    exact right_step h hfair
  have hcounts := h.counts i
  refine ⟨hcounts, ?_, h.quota i, ?_⟩
  · rw [hcounts]
    exact Int.natCast_nonneg _
  · intro hnone
    have hfree : s.pool.connections.countP (usedFor s.owner i) = 0 := by
      rw [List.countP_eq_zero]
      intro c hc huse
      have huse' := of_decide_eq_true huse
      have hin := (h.used c hc huse'.1).2.1
      rw [hnone] at hin
      cases hin
    rw [hcounts, hfree]
    rfl

/-! ## Two backends on one machine -/

/-- PHP on port 9000 and Rust on port 9001 of 127.0.0.1. -/
def oneMachine : PoolConfig where
  php := ⟨[(ascii "127.0.0.1", 9000)]⟩
  rust := ⟨[(ascii "127.0.0.1", 9001)]⟩
  python := ⟨[]⟩
  phpQuota := 1
  rustQuota := 1
  pythonQuota := 0

def phpCall : AcquireCall := ⟨ascii "127.0.0.1", 9000, .php⟩

def rustCall : AcquireCall := ⟨ascii "127.0.0.1", 9001, .rust⟩

theorem counts_balanced_php :
    let s := runSteps (PoolRun.step oneMachine) (PoolRun.fresh 2)
      [.acquire 0 phpCall, .reuse 0 (fun _ => true), .create 0 (some 5), .release 5 true]
    ∀ i, s.pool.activeCounts i = s.pool.connections.countP (usedFor s.owner i) ∧
      0 ≤ s.pool.activeCounts i ∧ s.pool.activeCounts i ≤ oneMachine.quota i ∧
      (s.held = [] → s.pool.activeCounts i = 0) := by
  apply counts_balanced
  refine ⟨trivial, ?_, ?_, ?_, trivial⟩
  · rintro a - ⟨c, hc, hidle, -⟩
    rw [List.eq_of_mem_replicate hc] at hidle
    exact absurd rfl hidle.1
  · intro a ha _ _ _
    cases ha
    exact ⟨by decide, by decide⟩
  · exact List.mem_cons_self

/-- A socket for Rust is counted for PHP and given back for Rust. -/
theorem counts_negative :
    ∃ (cfg : PoolConfig) (poolSize : Nat) (is : List PoolInput),
      let s := runSteps (PoolRun.step cfg) (PoolRun.fresh poolSize) is
      s.held = [] ∧ s.pool.activeCounts .php = 1 ∧ s.pool.activeCounts .rust = -1 ∧
        s.pool.connections.countP (usedFor s.owner .php) = 0 :=
  ⟨oneMachine, 2, [.acquire 0 rustCall, .reuse 0 (fun _ => true), .create 0 (some 5),
    .release 5 true], by decide, by decide, by decide, by decide⟩

end Halmos.Fcgi
