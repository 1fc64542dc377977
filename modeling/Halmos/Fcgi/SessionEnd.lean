import Halmos.Fcgi.PoolSlots
import Halmos.Fcgi.Session

set_option autoImplicit false

/-! # The end of an HTTP/1 request

The socket of a session passes through three hands: the pool, `fcgi_io_splice_response`, which closes
it when the answer breaks off, and `fcgi_session_destroy`, which closes it in the error state and
gives it back otherwise. So an answer that breaks off closes it twice, and a failed `send` leaves its
slot in use; what is left is said by `givenBack_iff`.
-/

namespace Halmos.Fcgi

/-- A session on a socket of the pool: how often the socket has been closed or released for the
session, and what the counters would be without the request. -/
structure BackendUse where
  run : PoolRun
  session : HalmosFCGISession
  closes : Nat
  releases : Nat
  rest : Backend → Int

/-- A step of the session, or a step of another thread in the pool. -/
inductive UseInput where
  | session (i : SessionInput)
  | pool (j : PoolInput)

/-- `fcgi_io_splice_response` is called and fails. -/
def BackendUse.SpliceFails (u : BackendUse) : UseInput → Prop
  | .session i => u.session.state = .receiving ∧ i.pollIn = true ∧ i.spliced ≠ 0
  | .pool _ => False

/-- `send` is called and fails. -/
def BackendUse.SendFails (u : BackendUse) : UseInput → Prop
  | .session i => i.pollOut = true ∧ i.send = .failed ∧
      (u.session.state = .init ∨ u.session.state = .sendingParams ∨
        (u.session.state = .sendingStdin ∧ 0 < u.session.chunkSize))
  | .pool _ => False

instance (u : BackendUse) : (k : UseInput) → Decidable (u.SpliceFails k)
  | .session _ => inferInstanceAs (Decidable (_ ∧ _ ∧ _))
  | .pool _ => inferInstanceAs (Decidable False)

/-- A splice that fails has closed the socket. The other threads do not release what they do not
hold. -/
def BackendUse.step (cfg : PoolConfig) (u : BackendUse) (k : UseInput) : BackendUse :=
  match k with
  | .session i =>
      { u with
        session := (fcgiSessionHttp1Step u.session i).session
        closes := if u.SpliceFails k then u.closes + 1 else u.closes }
  | .pool j =>
      if j.Releases u.session.fpmSock then u
      else
        let run := u.run.step cfg j
        { u with
          run := run
          rest := fun b => u.rest b + (run.pool.activeCounts b - u.run.pool.activeCounts b) }

/-- `fcgi_session_destroy`. -/
def fcgiSessionDestroy (cfg : PoolConfig) (healthy : Bool) (u : BackendUse) : BackendUse :=
  if u.session.fpmSock ≠ -1 then
    if u.session.state = .error then
      { u with closes := u.closes + 1, session := { u.session with fpmSock := -1 } }
    else
      { u with
        run := u.run.step cfg (.release u.session.fpmSock healthy)
        releases := u.releases + 1
        session := { u.session with fpmSock := -1 } }
  else u

/-- The request behind the step `j` in which its call of `fcgi_pool_conn_acquire` gets the socket. -/
def BackendUse.start (cfg : PoolConfig) (s : PoolRun) (j : PoolInput) (session : HalmosFCGISession) :
    BackendUse :=
  ⟨s.step cfg j, session, 0, 0, s.pool.activeCounts⟩

/-- The socket has been released or closed once, no slot is in use for it, and no counter includes
it. -/
def BackendUse.GivenBack (u : BackendUse) (fd : Int) : Prop :=
  u.closes + u.releases = 1 ∧ (∀ c ∈ u.run.pool.slotsOf fd, c.inUse = false) ∧
    ∀ i, u.run.pool.activeCounts i = u.rest i

/-! ## The session -/

section Session

variable {s : HalmosFCGISession} {i : SessionInput}

theorem sendingStdinEnd_state (out : List UInt8) (hs : s.state ≠ .error) :
    (sendingStdinEnd i out s).session.state ≠ .error ∧
      (sendingStdinEnd i out s).session.fpmSock = s.fpmSock := by
  unfold sendingStdinEnd
  split
  · exact ⟨by simp, rfl⟩
  · exact ⟨hs, rfl⟩

theorem sendingParamsStep_state (hs : s.state ≠ .error) :
    ((sendingParamsStep i s).session.state = .error ↔ i.pollOut = true ∧ i.send = .failed) ∧
      (sendingParamsStep i s).session.fpmSock = s.fpmSock := by
  unfold sendingParamsStep
  by_cases hout : i.pollOut = true
  · rw [if_pos hout]
    cases hsend : i.send with
    | sent n =>
        refine ⟨?_, rfl⟩
        dsimp only
        split_ifs <;> simp [hs]
    | wouldBlock => exact ⟨by simp [hs], rfl⟩
    | failed => exact ⟨by simp [hout], rfl⟩
  · rw [if_neg hout]
    exact ⟨by simp [hs, hout], rfl⟩

theorem sendingStdinStep_state (hs : s.state ≠ .error) :
    ((sendingStdinStep i s).session.state = .error
        ↔ i.pollOut = true ∧ i.send = .failed ∧ 0 < s.chunkSize) ∧
      (sendingStdinStep i s).session.fpmSock = s.fpmSock := by
  unfold sendingStdinStep
  by_cases hout : i.pollOut = true
  · rw [if_pos hout]
    by_cases hsize : 0 < s.chunkSize
    · rw [if_pos hsize]
      cases hsend : i.send with
      | sent n =>
          have hend := sendingStdinEnd_state (i := i) (i.send.taken s.recordBuf)
            (s := { s with stdinSent := if 0 < n then s.stdinSent + s.chunkSize else s.stdinSent }) hs
          rw [hsend] at hend
          exact ⟨by simp [hend.1], hend.2⟩
      | wouldBlock =>
          have hend := sendingStdinEnd_state (i := i) (i.send.taken s.recordBuf) hs
          rw [hsend] at hend
          exact ⟨by simp [hend.1], hend.2⟩
      | failed => exact ⟨by simp [hout, hsize], rfl⟩
    · rw [if_neg hsize]
      have hend := sendingStdinEnd_state (i := i) [] hs
      exact ⟨by simp [hend.1, hsize], hend.2⟩
  · rw [if_neg hout]
    exact ⟨by simp [hs, hout], rfl⟩

theorem receivingStep_state (hs : s.state ≠ .error) :
    ((receivingStep i s).session.state = .error ↔ i.pollIn = true ∧ i.spliced ≠ 0) ∧
      (receivingStep i s).session.fpmSock = s.fpmSock := by
  unfold receivingStep
  by_cases hin : i.pollIn = true
  · rw [if_pos hin]
    by_cases hok : i.spliced = 0
    · rw [if_pos hok]
      exact ⟨by simp [hok], rfl⟩
    · rw [if_neg hok]
      exact ⟨by simp [hin, hok], rfl⟩
  · rw [if_neg hin]
    exact ⟨by simp [hs, hin], rfl⟩

/-- The socket stays, and an error is left alone. -/
theorem fcgiSessionHttp1Step_error (hs : s.state = .error) :
    (fcgiSessionHttp1Step s i).session = s := by
  unfold fcgiSessionHttp1Step
  rw [hs]

end Session

/-! ## The run of a session -/

/-- While the session goes on, its socket is held, in the slots `slots`, and the counters include
these. -/
structure BackendUse.Kept (cfg : PoolConfig) (a : AcquireCall) (fd : Int)
    (slots : List HalmosFCGIConn) (u : BackendUse) : Prop where
  sock : u.session.fpmSock = fd
  inUse : u.run.InUse fd slots
  counts : ∀ i, u.run.pool.activeCounts i = u.rest i + countedFor cfg a slots i
  releases : u.releases = 0

section Run

variable {cfg : PoolConfig} {a : AcquireCall} {fd : Int} {slots : List HalmosFCGIConn}
  {u : BackendUse} {k : UseInput} {ks : List UseInput}

/-- An error is left alone. -/
theorem step_error (cfg : PoolConfig) (k : UseInput) (hs : u.session.state = .error) :
    (u.step cfg k).session.state = .error ∧ (u.step cfg k).closes = u.closes := by
  unfold BackendUse.step
  cases k with
  | session i =>
      have hsplice : ¬ u.SpliceFails (.session i) := by
        rintro ⟨hreceiving, -⟩
        rw [hs] at hreceiving
        cases hreceiving
      dsimp only
      rw [fcgiSessionHttp1Step_error hs, if_neg hsplice]
      exact ⟨hs, rfl⟩
  | pool j =>
      dsimp only
      split <;> exact ⟨hs, rfl⟩

/-- A step is an error if a call of it fails. -/
theorem step_state (cfg : PoolConfig) (k : UseInput) (hs : u.session.state ≠ .error) :
    (u.step cfg k).session.state = .error ↔ u.SpliceFails k ∨ u.SendFails k := by
  unfold BackendUse.step BackendUse.SendFails
  cases k with
  | pool j =>
      dsimp only
      unfold BackendUse.SpliceFails
      split <;> simpa using hs
  | session i =>
      unfold BackendUse.SpliceFails
      dsimp only
      unfold fcgiSessionHttp1Step
      cases hstate : u.session.state with
      | init => simp [(sendingParamsStep_state (i := i) hs).1]
      | sendingParams => simp [(sendingParamsStep_state (i := i) hs).1]
      | sendingStdin => simp [(sendingStdinStep_state (i := i) hs).1]
      | receiving => simp [(receivingStep_state (i := i) hs).1]
      | finished => simp [hstate]
      | error => exact absurd hstate hs

theorem step_closes (cfg : PoolConfig) (u : BackendUse) (k : UseInput) :
    (u.step cfg k).closes = if u.SpliceFails k then u.closes + 1 else u.closes := by
  unfold BackendUse.step
  cases k with
  | session i => rfl
  | pool j =>
      dsimp only
      rw [if_neg (fun h : u.SpliceFails (.pool j) => h)]
      split <;> rfl

theorem step_sock : (u.step cfg k).session.fpmSock = u.session.fpmSock := by
  unfold BackendUse.step
  cases k with
  | pool j =>
      dsimp only
      split <;> rfl
  | session i =>
      dsimp only
      by_cases hs : u.session.state = .error
      · rw [fcgiSessionHttp1Step_error hs]
      · unfold fcgiSessionHttp1Step
        split
        · exact (sendingParamsStep_state hs).2
        · exact (sendingParamsStep_state hs).2
        · exact (sendingStdinStep_state hs).2
        · exact (receivingStep_state hs).2
        · rfl
        · rfl

theorem kept_step (hpos : 0 ≤ fd) (h : u.Kept cfg a fd slots) : (u.step cfg k).Kept cfg a fd slots := by
  refine ⟨step_sock.trans h.sock, ?_, ?_, ?_⟩
  · unfold BackendUse.step
    cases k with
    | session i => exact h.inUse
    | pool j =>
        dsimp only
        split
        · exact h.inUse
        · next hj =>
            rw [h.sock] at hj
            exact inUse_step h.inUse hpos hj
  · intro b
    have hcount := h.counts b
    unfold BackendUse.step
    cases k with
    | session i => exact hcount
    | pool j =>
        dsimp only
        split
        · exact hcount
        · dsimp only
          omega
  · unfold BackendUse.step
    cases k with
    | session i => exact h.releases
    | pool j =>
        dsimp only
        split <;> exact h.releases

theorem run_error (cfg : PoolConfig) (ks : List UseInput) (hs : u.session.state = .error) :
    let v := runSteps (BackendUse.step cfg) u ks
    v.session.state = .error ∧ v.closes = u.closes ∧
      GuardedRun (fun u k => ¬ BackendUse.SpliceFails u k) (BackendUse.step cfg) u ks ∧
      GuardedRun (fun u k => ¬ BackendUse.SendFails u k) (BackendUse.step cfg) u ks := by
  induction ks generalizing u with
  | nil => exact ⟨hs, rfl, trivial, trivial⟩
  | cons k ks ih =>
      obtain ⟨hstate, hcloses⟩ := step_error cfg k hs
      obtain ⟨hrun, hsame, hsplice, hsend⟩ := ih hstate
      refine ⟨hrun, hsame.trans hcloses, ⟨?_, hsplice⟩, ⟨?_, hsend⟩⟩
      · cases k with
        | session i =>
            rintro ⟨hreceiving, -⟩
            rw [hs] at hreceiving
            cases hreceiving
        | pool j => exact fun h => h
      · cases k with
        | session i =>
            rintro ⟨-, -, h | h | ⟨h, -⟩⟩ <;> rw [hs] at h <;> cases h
        | pool j => exact fun h => h

/-- A run goes well, ends with a `send` that failed, or with a splice that failed and closed the
socket. -/
theorem run_cases (cfg : PoolConfig) (ks : List UseInput) (hs : u.session.state ≠ .error) :
    let v := runSteps (BackendUse.step cfg) u ks
    let spliced := GuardedRun (fun u k => ¬ BackendUse.SpliceFails u k) (BackendUse.step cfg) u ks
    let sent := GuardedRun (fun u k => ¬ BackendUse.SendFails u k) (BackendUse.step cfg) u ks
    (v.session.state ≠ .error ∧ v.closes = u.closes ∧ spliced ∧ sent) ∨
      (v.session.state = .error ∧ v.closes = u.closes ∧ spliced ∧ ¬ sent) ∨
      (v.session.state = .error ∧ v.closes = u.closes + 1 ∧ ¬ spliced) := by
  induction ks generalizing u with
  | nil => exact Or.inl ⟨hs, rfl, trivial, trivial⟩
  | cons k ks ih =>
      have hstate := step_state cfg k hs
      have hcloses := step_closes cfg u k
      by_cases hsplice : u.SpliceFails k
      · -- Behind the error nothing more is closed.
        obtain ⟨herr, hsame, -, -⟩ := run_error cfg ks (hstate.mpr (Or.inl hsplice))
        rw [if_pos hsplice] at hcloses
        exact Or.inr (Or.inr ⟨herr, hsame.trans hcloses, fun h => h.1 hsplice⟩)
      · rw [if_neg hsplice] at hcloses
        by_cases hsend : u.SendFails k
        · obtain ⟨herr, hsame, hall, -⟩ := run_error cfg ks
            (hstate.mpr (Or.inr hsend))
          exact Or.inr (Or.inl ⟨herr, hsame.trans hcloses, ⟨hsplice, hall⟩, fun h => h.1 hsend⟩)
        · have hgoes : (u.step cfg k).session.state ≠ .error := by
            intro herr
            rcases hstate.mp herr with h | h
            · exact hsplice h
            · exact hsend h
          have hmore := ih hgoes
          simp only [runSteps_cons, guardedRun_cons, hsplice, hsend, not_false_eq_true, true_and]
          rw [hcloses] at hmore
          exact hmore

end Run

/-! ## `fcgi_session_destroy` -/

section Destroy

variable {cfg : PoolConfig} {a : AcquireCall} {fd : Int} {slots : List HalmosFCGIConn}
  {u : BackendUse} {healthy : Bool}

/-- A release of a socket without a slot. -/
theorem release_none {p : Pool} (h : p.slotsOf fd = []) : fcgiPoolConnRelease cfg fd healthy p = p := by
  unfold fcgiPoolConnRelease
  split
  · rfl
  · cases hloop : releaseLoop cfg fd healthy p.connections with
    | none => rfl
    | some r =>
        obtain ⟨idx, cs'⟩ := r
        obtain ⟨front, c, back, hcs, -, hc, -⟩ := releaseLoop_eq_some hloop
        unfold Pool.slotsOf at h
        rw [List.filter_eq_nil_iff] at h
        have hmem : c ∈ p.connections := by
          rw [hcs]
          exact List.mem_append_right _ List.mem_cons_self
        exact absurd (decide_eq_true hc) (h c hmem)

/-- A release of a socket with one slot. -/
theorem release_one (cfg : PoolConfig) (healthy : Bool) {p : Pool} {c : HalmosFCGIConn} (hpos : 0 ≤ fd) (h : p.slotsOf fd = [c]) :
    (∀ d ∈ (fcgiPoolConnRelease cfg fd healthy p).slotsOf fd, d.inUse = false) ∧
      (fcgiPoolConnRelease cfg fd healthy p).activeCounts = p.count (c.releaseIndex cfg) (-1) := by
  unfold Pool.slotsOf at h
  unfold fcgiPoolConnRelease
  rw [if_neg (by omega)]
  cases hloop : releaseLoop cfg fd healthy p.connections with
  | none =>
      have hc : c ∈ p.connections.filter (fun c => c.sockfd = fd) := by
        rw [h]
        exact List.mem_cons_self
      rw [List.mem_filter, decide_eq_true_eq] at hc
      exact absurd hc.2 (releaseLoop_eq_none hloop c hc.1)
  | some r =>
      obtain ⟨idx, cs'⟩ := r
      obtain ⟨front, d, back, hcs, hfront, hd, hidx, hcs'⟩ := releaseLoop_eq_some hloop
      have hnone : front.filter (fun c => c.sockfd = fd) = [] := by
        rw [List.filter_eq_nil_iff]
        intro e he
        simpa using hfront e he
      rw [hcs, List.filter_append, hnone, List.filter_cons, if_pos (decide_eq_true hd)] at h
      simp only [List.nil_append, List.cons.injEq] at h
      obtain ⟨rfl, hback⟩ := h
      rw [hcs', hidx]
      refine ⟨?_, rfl⟩
      intro e he
      obtain ⟨hmem, hfd⟩ := List.mem_filter.mp he
      have hmem' : e ∈ front ++ _ :: back := hmem
      rw [List.mem_append, List.mem_cons] at hmem'
      rcases hmem' with hin | rfl | hin
      · exact absurd (of_decide_eq_true hfd) (hfront e hin)
      · rfl
      · rw [List.filter_eq_nil_iff] at hback
        exact absurd hfd (hback e hin)

theorem destroy_error (cfg : PoolConfig) (healthy : Bool) (hsock : u.session.fpmSock = fd) (hfd : fd ≠ -1)
    (hs : u.session.state = .error) :
    (fcgiSessionDestroy cfg healthy u).run = u.run ∧
      (fcgiSessionDestroy cfg healthy u).rest = u.rest ∧
      (fcgiSessionDestroy cfg healthy u).closes = u.closes + 1 ∧
      (fcgiSessionDestroy cfg healthy u).releases = u.releases := by
  unfold fcgiSessionDestroy
  rw [hsock, if_pos hfd, if_pos hs]
  exact ⟨rfl, rfl, rfl, rfl⟩

theorem destroy_released (cfg : PoolConfig) (healthy : Bool) (hsock : u.session.fpmSock = fd) (hfd : fd ≠ -1)
    (hs : u.session.state ≠ .error) :
    (fcgiSessionDestroy cfg healthy u).run.pool = fcgiPoolConnRelease cfg fd healthy u.run.pool ∧
      (fcgiSessionDestroy cfg healthy u).rest = u.rest ∧
      (fcgiSessionDestroy cfg healthy u).closes = u.closes ∧
      (fcgiSessionDestroy cfg healthy u).releases = u.releases + 1 := by
  unfold fcgiSessionDestroy
  rw [hsock, if_pos hfd, if_neg hs]
  exact ⟨rfl, rfl, rfl, rfl⟩

/-- Without a slot the socket only has to be closed once. -/
theorem destroy_bypassed (hpos : 0 ≤ fd) (h : u.Kept cfg a fd []) :
    (fcgiSessionDestroy cfg healthy u).GivenBack fd ↔ u.closes = 0 := by
  have hnone : u.run.pool.slotsOf fd = [] := h.inUse.slots_eq
  have hcounts : ∀ i, u.run.pool.activeCounts i = u.rest i := by
    intro i
    rw [h.counts i]
    simp [countedFor]
  unfold BackendUse.GivenBack
  by_cases hs : u.session.state = .error
  · obtain ⟨hrun, hrest, hcloses, hreleases⟩ :=
      destroy_error cfg healthy h.sock (by omega) hs
    rw [hrun, hrest, hcloses, hreleases, h.releases, hnone]
    simp [hcounts]
  · obtain ⟨hrun, hrest, hcloses, hreleases⟩ :=
      destroy_released cfg healthy h.sock (by omega) hs
    rw [hrun, hrest, hcloses, hreleases, h.releases, release_none hnone, hnone]
    simp [hcounts]

/-- With a slot the socket has to go back to the pool, under the index it is counted for. -/
theorem destroy_pooled {c : HalmosFCGIConn} (hpos : 0 ≤ fd) (h : u.Kept cfg a fd [c]) :
    (fcgiSessionDestroy cfg healthy u).GivenBack fd ↔
      u.session.state ≠ .error ∧ u.closes = 0 ∧
        c.releaseIndex cfg = getBackendIndex cfg (some a.target) a.port := by
  have hslot : u.run.pool.slotsOf fd = [c] := h.inUse.slots_eq
  unfold BackendUse.GivenBack
  by_cases hs : u.session.state = .error
  · -- The slot stays in use.
    obtain ⟨hrun, -, -, -⟩ :=
      destroy_error cfg healthy h.sock (by omega) hs
    rw [hrun, hslot]
    have huse : c.inUse = true := h.inUse.used c List.mem_cons_self
    simp [hs, huse]
  · obtain ⟨hrun, hrest, hcloses, hreleases⟩ :=
      destroy_released cfg healthy h.sock (by omega) hs
    obtain ⟨hfree, hcounts⟩ := release_one cfg healthy hpos hslot
    have hindex : (∀ i, u.run.pool.count (c.releaseIndex cfg) (-1) i = u.rest i)
        ↔ c.releaseIndex cfg = getBackendIndex cfg (some a.target) a.port := by
      constructor
      · intro hall
        have hcount := h.counts (c.releaseIndex cfg)
        have hat := hall (c.releaseIndex cfg)
        unfold Pool.count at hat
        rw [Function.update_self] at hat
        unfold countedFor at hcount
        split_ifs at hcount with hboth
        · exact hboth.2
        · omega
      · intro heq i
        have hcount := h.counts i
        unfold countedFor at hcount
        unfold Pool.count
        rw [heq]
        by_cases hi : i = getBackendIndex cfg (some a.target) a.port
        · rw [if_pos ⟨by simp, hi⟩] at hcount
          rw [← hi, Function.update_self]
          omega
        · rw [if_neg (fun hboth => hi hboth.2)] at hcount
          rw [Function.update_of_ne hi]
          omega
    rw [hrun, hrest, hcloses, hreleases, h.releases, hcounts, hindex]
    constructor
    · rintro ⟨honce, -, heq⟩
      exact ⟨hs, by omega, heq⟩
    · rintro ⟨-, hzero, heq⟩
      exact ⟨by omega, hfree, heq⟩

end Destroy

/-- **The end of a request.** Whatever the other threads do, `fcgi_session_destroy` leaves the socket
of a session released or closed once, out of use and out of the counters, if and only if no splice
has failed and, if the socket has a slot in the table, no `send` has failed and the slot is counted
under the index that a release finds. -/
theorem givenBack_iff {cfg : PoolConfig} {poolSize : Nat} {js : List PoolInput} {a : AcquireCall}
    {fd : Int} {j : PoolInput}
    (hacq : (runSteps (PoolRun.step cfg) (PoolRun.fresh poolSize) js).Acquires cfg a fd j)
    (requestId : Nat) (params : List UInt8) (postData : Option (List UInt8)) (contentLength : Nat)
    (ks : List UseInput) (healthy : Bool) :
    let u := BackendUse.start cfg (runSteps (PoolRun.step cfg) (PoolRun.fresh poolSize) js) j
      (fcgiSessionHttp1Create fd requestId params postData contentLength)
    (fcgiSessionDestroy cfg healthy (runSteps (BackendUse.step cfg) u ks)).GivenBack fd ↔
      GuardedRun (fun u k => ¬ BackendUse.SpliceFails u k) (BackendUse.step cfg) u ks ∧
        ∀ c ∈ u.run.pool.slotsOf fd,
          GuardedRun (fun u k => ¬ BackendUse.SendFails u k) (BackendUse.step cfg) u ks ∧
          c.releaseIndex cfg = getBackendIndex cfg (some a.target) a.port := by
  intro u
  have hdistinct := distinct_run cfg poolSize js
  have hpos := acquires_pos hdistinct hacq
  obtain ⟨hinUse, hone, hcounts⟩ := acquires_inUse hdistinct hacq
  have hstart : u.Kept cfg a fd (u.run.pool.slotsOf fd) := ⟨rfl, hinUse, hcounts, rfl⟩
  have hkept : (runSteps (BackendUse.step cfg) u ks).Kept cfg a fd (u.run.pool.slotsOf fd) :=
    @runSteps_induction _ _ (BackendUse.step cfg) (BackendUse.Kept cfg a fd (u.run.pool.slotsOf fd))
      u ks hstart (fun k _ v hv => kept_step hpos hv)
  -- how a run leaves the session: still going, broken by `send`, or broken by a splice
  have hcases := run_cases cfg (u := u) ks (by intro h; cases h)
  have hzero : u.closes = 0 := rfl
  cases hslots : u.run.pool.slotsOf fd with
  | nil =>
      rw [hslots] at hkept
      rw [destroy_bypassed hpos hkept]
      rcases hcases with ⟨-, hcloses, hspliced, -⟩ | ⟨-, hcloses, hspliced, -⟩ |
        ⟨-, hcloses, hspliced⟩
      · simp [hcloses, hzero, hspliced]
      · simp [hcloses, hzero, hspliced]
      · simp [hcloses, hspliced]
  | cons c rest =>
      have hrest : rest = [] := by
        have hlen : (c :: rest).length ≤ 1 := by
          rw [← hslots]
          exact hone
        rw [List.length_cons] at hlen
        exact List.length_eq_zero_iff.mp (by omega)
      rw [hslots, hrest] at hkept
      rw [destroy_pooled hpos hkept, hrest]
      rcases hcases with ⟨hstate, hcloses, hspliced, hsent⟩ | ⟨hstate, hcloses, hspliced, hsent⟩ |
        ⟨hstate, hcloses, hspliced⟩
      · simp [hstate, hcloses, hzero, hspliced, hsent]
      · simp [hstate, hsent]
      · simp [hstate, hspliced]

/-! ## An answer that breaks off -/

/-- The steps up to the one that gets the socket 5. -/
def beforeSocket : List PoolInput := [.acquire 0 phpCall, .reuse 0 (fun _ => true)]

theorem acquires_beforeSocket :
    (runSteps (PoolRun.step oneMachine) (PoolRun.fresh 2) beforeSocket).Acquires oneMachine phpCall 5
      (.create 0 (some 5)) :=
  ⟨rfl, rfl, by decide⟩

/-- The request is sent at once, and then the answer is read, with this result. -/
def oneAnswer (spliced : Int) : List UseInput :=
  [.session ⟨true, false, .sent 16, .wouldBlock, 0⟩, .session ⟨false, true, .wouldBlock, .wouldBlock, spliced⟩]

theorem givenBack_iff_answered :
    (fcgiSessionDestroy oneMachine true (runSteps (BackendUse.step oneMachine)
      (BackendUse.start oneMachine
        (runSteps (PoolRun.step oneMachine) (PoolRun.fresh 2) beforeSocket) (.create 0 (some 5))
        (fcgiSessionHttp1Create 5 1 [] none 0)) (oneAnswer 0))).GivenBack 5 := by
  apply (givenBack_iff acquires_beforeSocket 1 [] none 0 (oneAnswer 0) true).mpr
  unfold oneAnswer
  refine ⟨⟨by decide, by decide, trivial⟩, ?_⟩
  intro c hc
  refine ⟨⟨?_, ?_, trivial⟩, ?_⟩
  · rintro ⟨-, h, -⟩
    cases h
  · rintro ⟨h, -⟩
    cases h
  rw [List.mem_singleton.mp hc]
  decide

/-- The answer breaks off: its socket is closed twice, and its slot stays in use and counted. -/
theorem givenBack_wrong :
    ∃ (cfg : PoolConfig) (s : PoolRun) (a : AcquireCall) (fd : Int) (j : PoolInput)
      (ks : List UseInput) (healthy : Bool),
      s = runSteps (PoolRun.step cfg) (PoolRun.fresh 2) beforeSocket ∧ s.Acquires cfg a fd j ∧
      let u := fcgiSessionDestroy cfg healthy (runSteps (BackendUse.step cfg)
        (BackendUse.start cfg s j (fcgiSessionHttp1Create fd 1 [] none 0)) ks)
      u.closes = 2 ∧ (∃ c ∈ u.run.pool.slotsOf fd, c.inUse = true) ∧
        u.run.pool.activeCounts .php = u.rest .php + 1 :=
  ⟨oneMachine, _, phpCall, 5, .create 0 (some 5), oneAnswer (-2), true, rfl, acquires_beforeSocket,
    by decide, by decide, by decide⟩

end Halmos.Fcgi
