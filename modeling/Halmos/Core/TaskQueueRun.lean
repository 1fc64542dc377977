import Halmos.Core.TaskQueue

set_option autoImplicit false

/-! # The queue in every interleaving

Whatever the order of the sections of pushes, pops and spawns, the events leave the queue in the
order in which they were accepted, its count and its pointers are those of the linked tasks, and
the counts of the threads keep their limits (`taskQueue_run`).
-/

namespace Halmos.Core

/-- No creation of a thread fails. -/
def WorkerPool.Creates (_ : WorkerPool) : PoolStep → Prop
  | .create _ ok => ok = true
  | _ => True

/-- 1 for a worker that popped an event and has not been marked idle. -/
def Worker.holds : Worker → Nat
  | .busy _ => 1
  | .deserted _ => 1
  | _ => 0

/-- The creations of a push that failed. -/
def Spawner.failed : Spawner → Nat
  | .push _ failed => failed
  | _ => 0

/-- The queue is the list of the parked tasks. -/
structure TaskQueue.Parks (q : TaskQueue) (l : List (Nat × Task)) : Prop where
  linked : q.WellLinked l
  count_eq : q.count = l.length
  count_le : q.count ≤ q.maxQueueLimit

/-- Every accepted event was handed out, is parked, or was dropped when the queue was stopped; and
the counts of the threads are within their limits. -/
structure WorkerPool.Consistent (s : WorkerPool) : Prop where
  parks : ∃ l dropped, s.queue.Parks l ∧
    s.accepted = s.handedOut ++ (dropped ++ l.map Prod.snd) ∧
    (s.queue.isRunning = true → dropped = [])
  limits : s.queue.isRunning = true → s.queue.minThreadsLimit ≤ s.queue.totalWorkers ∧
    s.queue.totalWorkers ≤ s.queue.maxThreadsLimit
  active : s.queue.activeWorkers = tally Worker.holds s.workers
  noFailure : ∀ k ∈ s.spawners, k.failed = 0
  halted : s.stopper ≠ .notCalled → s.queue.isRunning = false

section Sections

variable {s : WorkerPool} {q : TaskQueue} {l : List (Nat × Task)} {a w k : Nat} {task : Task}

theorem TaskQueue.Parks.of_eq {q' : TaskQueue} (h : q.Parks l)
    (htasks : q'.toLinkedQueue = q.toLinkedQueue) (hcount : q'.count = q.count)
    (hmax : q'.maxQueueLimit = q.maxQueueLimit) : q'.Parks l := by
  refine ⟨?_, ?_, ?_⟩
  · rw [htasks]
    exact h.linked
  · rw [hcount]
    exact h.count_eq
  · rw [hcount, hmax]
    exact h.count_le

theorem TaskQueue.Parks.push (h : q.Parks l) (ha : q.heap a = none)
    (hroom : q.count < q.maxQueueLimit) : (q.park a task).reserve.Parks (l ++ [(a, task)]) := by
  rw [reserve_eq]
  refine ⟨h.linked.enqueue ha, ?_, ?_⟩
  · show q.count + 1 = _
    rw [h.count_eq, List.length_append, List.length_singleton, Int.natCast_add]
    rfl
  · show q.count + 1 ≤ q.maxQueueLimit
    omega

theorem TaskQueue.Parks.take {tasks : LinkedQueue Task} (h : q.Parks l)
    (hq : q.toLinkedQueue.dequeue = some (task, tasks)) :
    ∃ a l', l = (a, task) :: l' ∧
      TaskQueue.Parks
        { q with
          toLinkedQueue := tasks
          count := q.count - 1
          activeWorkers := q.activeWorkers + 1 } l' := by
  obtain ⟨a, l', rfl, hlinked⟩ := h.linked.of_dequeue hq
  have hcount := h.count_eq
  have hle := h.count_le
  rw [List.length_cons, Int.natCast_add] at hcount
  refine ⟨a, l', rfl, hlinked, ?_, ?_⟩
  · show q.count - 1 = l'.length
    omega
  · show q.count - 1 ≤ q.maxQueueLimit
    omega

/-- A rejected push changes nothing. -/
theorem push_rejected (s : WorkerPool) {event : HalmosEvent} {now : Int} {malloc : Option Nat}
    (hret : (coreQueuePush s.queue event now malloc).ret ≠ 0) :
    (coreQueuePush s.queue event now malloc).queue = s.queue
      ∧ s.step (.push event now malloc) = s := by
  unfold WorkerPool.step
  dsimp only
  have hsection := coreQueuePush_section s.queue event now malloc
  generalize coreQueuePush s.queue event now malloc = r at hsection hret
  cases hsection with
  | rejected =>
      rw [if_neg hret, if_neg (Int.lt_irrefl 0), ite_self]
      exact ⟨rfl, rfl⟩
  | parked => exact absurd rfl hret

theorem consistent_push {event : HalmosEvent} {now : Int} {malloc : Option Nat}
    (h : s.Consistent) : (s.step (.push event now malloc)).Consistent := by
  unfold WorkerPool.step
  dsimp only
  split
  · next hfresh =>
      have hsection := coreQueuePush_section s.queue event now malloc
      generalize coreQueuePush s.queue event now malloc = r at hsection
      cases hsection with
      | rejected hret =>
          rw [if_neg hret, if_neg (Int.lt_irrefl 0)]
          exact h
      | @parked a hroom =>
          obtain ⟨l, dropped, hparks, haccepted, hdropped⟩ := h.parks
          -- the workers reserved for the task do not take the total beyond its limit
          have hspawn := spawnCount_bounds (s.queue.park a ⟨event, now⟩)
          have heq := reserve_eq (s.queue.park a ⟨event, now⟩)
          refine ⟨⟨l ++ [(a, ⟨event, now⟩)], dropped, ?_, ?_, ?_⟩, ?_, ?_, ?_, ?_⟩
          · exact hparks.push (hfresh a rfl) hroom
          · dsimp only
            rw [if_pos rfl, haccepted, List.map_append, List.append_assoc, List.append_assoc]
            rfl
          · rw [heq]
            exact hdropped
          · intro hrun
            dsimp only at hrun ⊢
            rw [heq] at hrun ⊢
            have hlimits := h.limits hrun
            dsimp only [TaskQueue.park] at hspawn hlimits ⊢
            omega
          · rw [heq]
            exact h.active
          · intro k hk
            dsimp only at hk
            split at hk
            -- the pusher's own spawner has nothing to give back yet
            · rcases List.mem_append.mp hk with hk | hk
              · exact h.noFailure k hk
              · rw [List.mem_singleton.mp hk]
                rfl
            · exact h.noFailure k hk
          · rw [heq]
            exact h.halted
  · exact h

/-- A worker holds what it was handed. -/
theorem holds_after (r : Popped) : (Worker.after r).holds = r.tasks.length := by
  cases r with
  | waits => rfl
  | exits => rfl
  | took task =>
      unfold Worker.after
      dsimp only
      split <;> rfl

theorem PopSection.active_eq {r : Popped × TaskQueue} (h : PopSection q r) :
    r.2.activeWorkers = q.activeWorkers + r.1.tasks.length := by
  cases h with
  | waits => exact (Int.add_zero _).symm
  | exits => exact (Int.add_zero _).symm
  | took => rfl

/-- What is handed out is the first of the parked tasks. -/
theorem PopSection.parks {r : Popped × TaskQueue} (h : PopSection q r) (hl : q.Parks l) :
    ∃ l', r.2.Parks l' ∧ l.map Prod.snd = r.1.tasks ++ l'.map Prod.snd := by
  cases h with
  | waits => exact ⟨l, hl, rfl⟩
  | exits => exact ⟨l, ⟨hl.linked, hl.count_eq, hl.count_le⟩, rfl⟩
  | took hrun hdequeue =>
      obtain ⟨a, l', rfl, hl'⟩ := hl.take hdequeue
      exact ⟨l', hl', rfl⟩

theorem PopSection.isRunning_eq {r : Popped × TaskQueue} (h : PopSection q r) :
    r.2.isRunning = q.isRunning := by
  cases h <;> rfl

/-- A stopped queue hands nothing out. -/
theorem PopSection.tasks_eq_nil {r : Popped × TaskQueue} (h : PopSection q r)
    (hhalted : q.isRunning = false) : r.1.tasks = [] := by
  cases h with
  | waits => rfl
  | exits => rfl
  | took hrun =>
      rw [hhalted] at hrun
      cases hrun

/-- A worker that leaves a running queue has timed out above the lower limit. -/
theorem PopSection.limits {r : Popped × TaskQueue} (h : PopSection q r)
    (hrun : q.isRunning = true)
    (hq : q.minThreadsLimit ≤ q.totalWorkers ∧ q.totalWorkers ≤ q.maxThreadsLimit) :
    r.2.minThreadsLimit ≤ r.2.totalWorkers ∧ r.2.totalWorkers ≤ r.2.maxThreadsLimit := by
  cases h with
  | waits => exact hq
  | exits hwhy =>
      rcases hwhy with hhalted | hmore
      · rw [hhalted] at hrun
        cases hrun
      · dsimp only [TaskQueue.leave]
        omega
  | took => exact hq

/-- A section of `core_queue_pop` by a worker that holds no event. -/
theorem consistent_popped {worker : Worker} {r : Popped × TaskQueue} (h : s.Consistent)
    (hw : s.workers[w]? = some worker) (hfree : worker.holds = 0)
    (hsection : PopSection s.queue r) : (s.popped w r).Consistent := by
  obtain ⟨l, dropped, hparks, haccepted, hdropped⟩ := h.parks
  obtain ⟨l', hparks', hl⟩ := hsection.parks hparks
  refine ⟨⟨l', dropped, hparks', ?_, ?_⟩, ?_, ?_, h.noFailure, ?_⟩
  · show s.accepted = s.handedOut ++ r.1.tasks ++ (dropped ++ l'.map Prod.snd)
    rw [haccepted, hl, List.append_assoc]
    cases hrun : s.queue.isRunning with
    | true => rw [hdropped hrun, List.nil_append, List.nil_append]
    | false => rw [hsection.tasks_eq_nil hrun, List.nil_append, List.nil_append]
  · intro hrun
    exact hdropped (hsection.isRunning_eq.symm.trans hrun)
  · intro hrun
    have hbefore : s.queue.isRunning = true := hsection.isRunning_eq.symm.trans hrun
    exact hsection.limits hbefore (h.limits hbefore)
  · show r.2.activeWorkers = tally Worker.holds (s.workers.set w (.after r.1))
    have htally := tally_set (f := Worker.holds) (b := .after r.1) hw
    rw [hfree, holds_after] at htally
    rw [hsection.active_eq, h.active]
    omega

  · intro hcalled
    apply (hsection.isRunning_eq).trans
    apply h.halted
    intro hnot
    apply hcalled
    show r.1.signal s.stopper = .notCalled
    rw [hnot]
    unfold Popped.signal
    split <;> rfl

/-- A spawner has no failure after a creation that went well. -/
theorem tried_failed {spawner : Spawner} (h : spawner.failed = 0) :
    (spawner.tried true).failed = 0 := by
  unfold Spawner.tried
  split
  · rfl
  · exact h
  · exact h

/-- One of the spawners goes on, without a failure. -/
theorem noFailure_set {b : Spawner} (h : ∀ k ∈ s.spawners, k.failed = 0) (hb : b.failed = 0) :
    ∀ j ∈ s.spawners.set k b, j.failed = 0 := by
  intro j hj
  rcases List.mem_or_eq_of_mem_set hj with hj | rfl
  · exact h j hj
  · exact hb

theorem consistent_testStop (h : s.Consistent) (hhalted : s.queue.isRunning = false) :
    s.testStop.Consistent :=
  ⟨h.parks, h.limits, h.active, h.noFailure, fun _ => hhalted⟩

theorem consistent_halt (h : s.Consistent) :
    ({ s with queue := s.queue.halt } : WorkerPool).Consistent := by
  obtain ⟨l, dropped, hparks, haccepted, -⟩ := h.parks
  have hstopped : s.queue.halt.isRunning = true → False := fun hrun => Bool.noConfusion hrun
  exact ⟨⟨l, dropped, hparks.of_eq rfl rfl rfl, haccepted, fun hrun => (hstopped hrun).elim⟩,
    fun hrun => (hstopped hrun).elim, h.active, h.noFailure, fun _ => rfl⟩

/-- What is drained counts as dropped. -/
theorem consistent_drain (h : s.Consistent) (hhalted : s.queue.isRunning = false) :
    ({ s with queue := s.queue.drain } : WorkerPool).Consistent := by
  obtain ⟨l, dropped, hparks, haccepted, hdropped⟩ := h.parks
  have hcount := hparks.count_eq
  have hle := hparks.count_le
  refine ⟨⟨[], dropped ++ l.map Prod.snd, ⟨LinkedQueue.wellLinked_nil _, rfl, ?_⟩, ?_, ?_⟩,
    h.limits, h.active, h.noFailure, h.halted⟩
  · show (0 : Int) ≤ s.queue.maxQueueLimit
    omega
  · rw [List.map_nil, List.append_nil]
    exact haccepted
  · intro hrun
    exact absurd (hhalted.symm.trans hrun) (by decide)

/-- **A step keeps the queue consistent**. -/
theorem consistent_step {i : PoolStep} (h : s.Consistent) (hi : s.Creates i) :
    (s.step i).Consistent := by
  obtain ⟨l, dropped, hparks, haccepted, hdropped⟩ := h.parks
  cases i with
  | push event now malloc => exact consistent_push h
  | create k ok =>
      -- the condition on the run: every thread that is reserved is created
      have hok : ok = true := hi
      subst hok
      unfold WorkerPool.step
      dsimp only
      split
      · next spawner hk =>
          split
          · refine ⟨h.parks, h.limits, ?_, ?_, h.halted⟩
            · show s.queue.activeWorkers = tally Worker.holds (s.workers ++ [.calling])
              rw [tally_append, tally_cons, tally_nil, h.active]
              rfl
            · exact noFailure_set h.noFailure
                (tried_failed (h.noFailure spawner (List.mem_of_getElem? hk)))
          · exact h
      · exact h
  | giveBack k =>
      unfold WorkerPool.step
      dsimp only
      split
      · next failed hk =>
          -- so no spawner has a failure to give back
          have hzero : failed = 0 := h.noFailure _ (List.mem_of_getElem? hk)
          rw [hzero, if_neg (Nat.lt_irrefl 0)]
          exact ⟨h.parks, h.limits, h.active, noFailure_set h.noFailure rfl, h.halted⟩
      · exact h
  | scaled k =>
      unfold WorkerPool.step
      dsimp only
      split
      · exact ⟨⟨l, dropped, hparks.of_eq rfl rfl rfl, haccepted, hdropped⟩, h.limits, h.active,
          noFailure_set h.noFailure rfl, h.halted⟩
      · exact h
  | pop w =>
      unfold WorkerPool.step
      dsimp only
      split
      · next hw => exact consistent_popped h hw rfl (popLoop_section s.queue)
      · exact h
  | wake w timedOut =>
      unfold WorkerPool.step
      dsimp only
      split
      · next hw => exact consistent_popped h hw rfl (popWake_section s.queue timedOut)
      · exact h
  | idle w =>
      unfold WorkerPool.step
      dsimp only
      split
      · next event hw =>
          -- the worker that goes idle held one task, and holds none
          have htally := tally_set (f := Worker.holds) (b := .calling) hw
          refine ⟨⟨l, dropped, hparks.of_eq rfl rfl rfl, haccepted, hdropped⟩, h.limits, ?_,
            h.noFailure, h.halted⟩
          have hbusy : (Worker.busy event).holds = 1 := rfl
          have hcalling : Worker.calling.holds = 0 := rfl
          show s.queue.activeWorkers - 1 = tally Worker.holds (s.workers.set w .calling)
          rw [h.active]
          omega
      · exact h
  | halt => exact consistent_halt h
  | stop =>
      unfold WorkerPool.step
      dsimp only
      split
      · exact consistent_testStop (consistent_halt h) rfl
      · exact h
  | wakeStop =>
      refine ⟨h.parks, h.limits, h.active, h.noFailure, ?_⟩
      intro hcalled
      apply h.halted
      intro hnot
      apply hcalled
      show s.stopper.signal = .notCalled
      rw [hnot]
      rfl
  | stopTest =>
      unfold WorkerPool.step
      dsimp only
      split
      · next hwoken =>
          apply consistent_testStop h
          apply h.halted
          rw [hwoken]
          decide
      · exact h
  | drain =>
      unfold WorkerPool.step
      dsimp only
      split
      · next hended =>
          apply consistent_drain h
          apply h.halted
          rw [hended]
          decide
      · exact h

end Sections

/-- The pool at its start, with any number of threads about to call `core_queue_pop`. -/
def WorkerPool.startWith (minLimit maxLimit maxQueueSize callers : Nat) : WorkerPool :=
  { WorkerPool.start minLimit maxLimit maxQueueSize with
    workers := List.replicate callers .calling }

theorem consistent_start {minLimit maxLimit : Nat} (h : minLimit ≤ maxLimit)
    (maxQueueSize callers : Nat) :
    (WorkerPool.startWith minLimit maxLimit maxQueueSize callers).Consistent := by
  refine ⟨⟨[], [], ⟨LinkedQueue.wellLinked_nil _, rfl, ?_⟩, rfl, fun _ => rfl⟩, ?_, ?_, ?_, ?_⟩
  · exact Int.natCast_nonneg maxQueueSize
  · intro _
    exact ⟨Int.le_refl _, Int.ofNat_le.mpr h⟩
  · show (0 : Int) = tally Worker.holds (List.replicate callers .calling)
    rw [tally_eq_zero]
    · rfl
    · intro worker hworker
      rw [List.eq_of_mem_replicate hworker]
      rfl
  · intro k hk
    rw [List.mem_singleton.mp hk]
    rfl
  · exact fun hcalled => absurd rfl hcalled

/-- **Every interleaving** of pushes, pops and spawns, by any number of threads: the events handed
out are a prefix of the accepted ones, all of which are handed out or parked while the queue runs;
`count`, `head` and `tail` are those of the linked tasks; a rejected push changes nothing; and the
counts of the threads are within their limits and exact. -/
theorem taskQueue_run {minLimit maxLimit : Nat} (hlimits : minLimit ≤ maxLimit)
    (maxQueueSize callers : Nat) {is : List PoolStep}
    (h : GuardedRun WorkerPool.Creates WorkerPool.step
      (WorkerPool.startWith minLimit maxLimit maxQueueSize callers) is) :
    let s := runSteps WorkerPool.step
      (WorkerPool.startWith minLimit maxLimit maxQueueSize callers) is
    s.handedOut <+: s.accepted
      ∧ (∃ l, Linked s.queue.heap s.queue.head l
          ∧ s.queue.count = l.length
          ∧ s.queue.tail = l.getLast?.map Prod.fst
          ∧ (s.queue.isRunning = true → s.accepted = s.handedOut ++ l.map Prod.snd))
      ∧ s.queue.count ≤ s.queue.maxQueueLimit
      ∧ (s.queue.tail = none ↔ s.queue.head = none)
      ∧ (∀ event now malloc, (coreQueuePush s.queue event now malloc).ret ≠ 0 →
          (coreQueuePush s.queue event now malloc).queue = s.queue
            ∧ s.step (.push event now malloc) = s)
      ∧ (s.queue.isRunning = true →
          s.queue.minThreadsLimit ≤ s.queue.totalWorkers
            ∧ s.queue.totalWorkers ≤ s.queue.maxThreadsLimit
            ∧ s.queue.activeWorkers = tally Worker.holds s.workers) := by
  intro s
  have hs : s.Consistent :=
    GuardedRun.invariant (fun _ _ hbefore hi => consistent_step hbefore hi)
      (consistent_start hlimits maxQueueSize callers) h
  obtain ⟨l, dropped, hparks, haccepted, hdropped⟩ := hs.parks
  refine ⟨?_, ⟨l, hparks.linked.linked, hparks.count_eq, hparks.linked.tail_eq, ?_⟩,
    hparks.count_le, hparks.linked.tail_eq_none, ?_, ?_⟩
  · rw [haccepted]
    exact List.prefix_append _ _
  · intro hrun
    rw [haccepted, hdropped hrun, List.nil_append]
  · exact fun event now malloc hret => push_rejected s hret
  · intro hrun
    exact ⟨(hs.limits hrun).1, (hs.limits hrun).2, hs.active⟩

/-- A worker and an event, which is handed out. -/
theorem taskQueue_run_one :
    let is := [PoolStep.create 0 true, .pop 0, .push ⟨7, 1, 1⟩ 0 (some 40), .wake 0 false, .idle 0]
    let s := runSteps WorkerPool.step (WorkerPool.startWith 1 4 256 0) is
    s.handedOut <+: s.accepted ∧ s.handedOut = [⟨⟨7, 1, 1⟩, 0⟩] := by
  intro is s
  have hrun : GuardedRun WorkerPool.Creates WorkerPool.step (WorkerPool.startWith 1 4 256 0) is :=
    ⟨rfl, trivial, trivial, trivial, trivial, trivial⟩
  exact ⟨(taskQueue_run (by decide) 256 0 hrun).1, by decide⟩

end Halmos.Core
