import Halmos.Core.TaskQueue

set_option autoImplicit false

/-! # The number of threads

`total_workers` is what `core_queue_thread_worker_stop` waits for. It counts the threads that exist
and those that are reserved, as long as the start creates all its threads (`totalWorkers_run`); a
creation that fails there is logged and stays counted, and the stop then waits for ever
(`stop_waits_forever`). The slots that a push gives back are not signalled either.
-/

namespace Halmos.Core

/-- 1 for a worker whose thread exists. -/
def Worker.exists : Worker → Nat
  | .calling => 1
  | .waiting => 1
  | .busy _ => 1
  | .left => 0
  | .deserted _ => 0

/-- The threads that are counted and that the spawner is yet to create or give back. -/
def Spawner.reserved : Spawner → Nat
  | .start left => left
  | .push left failed => left + failed
  | .scaled => 0
  | .done => 0

def WorkerPool.existing (s : WorkerPool) : Nat := tally Worker.exists s.workers

def WorkerPool.reserved (s : WorkerPool) : Nat := tally Spawner.reserved s.spawners

/-- The condition on a step: the start creates its threads, pushed events are those of descriptors,
and no push gives back the last slots under the sleep of the stop. -/
def WorkerPool.Careful (s : WorkerPool) : PoolStep → Prop
  | .push event _ _ => 0 ≤ event.fd
  | .create k ok => ok = true ∨ ∀ left, s.spawners[k]? ≠ some (.start left)
  | .giveBack k => s.stopper = .asleep → ∀ failed, s.spawners[k]? = some (.push 0 failed) →
      (failed : Int) < s.queue.totalWorkers
  | _ => True

/-- The count is that of the threads, and the stop sleeps for some of them. -/
structure WorkerPool.Counted (s : WorkerPool) : Prop where
  total : s.queue.totalWorkers = s.existing + s.reserved
  asleep : s.stopper = .asleep → 0 < s.queue.totalWorkers
  valid : ∀ a n, s.queue.heap a = some n → 0 ≤ n.item.event.fd

section Counted

variable {s : WorkerPool} {k w : Nat}

theorem counted_testStop (h : s.Counted) : s.testStop.Counted := by
  refine ⟨h.total, ?_, h.valid⟩
  intro hasleep
  by_contra hzero
  have hended : s.testStop.stopper = .ended := if_neg hzero
  rw [hended] at hasleep
  cases hasleep

theorem counted_push {event : HalmosEvent} {now : Int} {malloc : Option Nat} (h : s.Counted)
    (hfd : 0 ≤ event.fd) : (s.step (.push event now malloc)).Counted := by
  unfold WorkerPool.step
  dsimp only
  split
  · have hsection := coreQueuePush_section s.queue event now malloc
    generalize coreQueuePush s.queue event now malloc = r at hsection
    cases hsection with
    | rejected hret =>
        rw [if_neg hret, if_neg (Int.lt_irrefl 0)]
        exact h
    | @parked a hroom =>
        have hspawn := (spawnCount_bounds (s.queue.park a ⟨event, now⟩)).1
        have heq := reserve_eq (s.queue.park a ⟨event, now⟩)
        have htotal : (s.queue.park a ⟨event, now⟩).reserve.totalWorkers
            = s.queue.totalWorkers + (s.queue.park a ⟨event, now⟩).spawnCount := by
          rw [heq]
          rfl
        refine ⟨?_, ?_, ?_⟩
        · show (s.queue.park a ⟨event, now⟩).reserve.totalWorkers = _
          -- the reserved workers are those of the spawner the push leaves
          rw [htotal, h.total]
          unfold WorkerPool.existing WorkerPool.reserved
          dsimp only
          split
          · rw [tally_append, tally_cons, tally_nil]
            dsimp only [Spawner.reserved]
            omega
          · omega
        · intro hasleep
          have hpos := h.asleep hasleep
          show 0 < (s.queue.park a ⟨event, now⟩).reserve.totalWorkers
          omega
        · intro b n hn
          dsimp only at hn
          rw [heq] at hn
          -- a task is the new one or was in the queue before
          rcases LinkedQueue.mem_enqueue hn with hitem | ⟨m, hm, hitem⟩
          · rw [hitem]
            exact hfd
          · rw [← hitem]
            exact h.valid b m hm
  · exact h

/-- Whoever does not exist after a section has counted itself out. -/
theorem PopSection.total_eq {q : TaskQueue} {r : Popped × TaskQueue} (h : PopSection q r)
    (hvalid : ∀ a n, q.heap a = some n → 0 ≤ n.item.event.fd) :
    r.2.totalWorkers + 1 = q.totalWorkers + (Worker.after r.1).exists := by
  cases h with
  | waits => rfl
  | exits =>
      show q.totalWorkers - 1 + 1 = q.totalWorkers + 0
      omega
  | took hrun hdequeue =>
      obtain ⟨a, n, hn, rfl, -⟩ := LinkedQueue.dequeue_eq_some hdequeue
      unfold Worker.after
      dsimp only
      rw [if_neg (Int.not_lt.mpr (hvalid a n hn))]
      rfl

theorem PopSection.mem_heap {q : TaskQueue} {r : Popped × TaskQueue} (h : PopSection q r)
    {b : Nat} {n : Node Task} (hn : r.2.heap b = some n) : q.heap b = some n := by
  cases h with
  | waits => exact hn
  | exits => exact hn
  | took hrun hdequeue => exact LinkedQueue.mem_dequeue hdequeue hn

/-- Whoever leaves wakes the stop. -/
theorem PopSection.asleep {q : TaskQueue} {r : Popped × TaskQueue} (h : PopSection q r)
    {stopper : Stopper} (hasleep : r.1.signal stopper = .asleep) :
    stopper = .asleep ∧ r.2.totalWorkers = q.totalWorkers := by
  cases h with
  | waits => exact ⟨hasleep, rfl⟩
  | exits =>
      have hsignal : stopper.signal = .asleep := hasleep
      unfold Stopper.signal at hsignal
      split at hsignal
      · cases hsignal
      · next hnot => exact absurd hsignal hnot
  | took => exact ⟨hasleep, rfl⟩

/-- A section of `core_queue_pop` by a worker that exists. -/
theorem counted_popped {worker : Worker} {r : Popped × TaskQueue} (h : s.Counted)
    (hw : s.workers[w]? = some worker) (hexists : worker.exists = 1)
    (hsection : PopSection s.queue r) : (s.popped w r).Counted := by
  refine ⟨?_, ?_, ?_⟩
  · have htally := tally_set (f := Worker.exists) (b := .after r.1) hw
    have htotal := h.total
    have hafter := hsection.total_eq h.valid
    unfold WorkerPool.existing at htotal
    rw [hexists] at htally
    show r.2.totalWorkers
      = (tally Worker.exists (s.workers.set w (.after r.1)) : Nat) + s.reserved
    omega
  · intro hasleep
    obtain ⟨hbefore, htotal⟩ := hsection.asleep hasleep
    show 0 < r.2.totalWorkers
    rw [htotal]
    exact h.asleep hbefore
  · intro b n hn
    exact h.valid b n (hsection.mem_heap hn)

/-- A creation moves a thread from the reserved to the existing ones, or leaves it reserved. -/
theorem tried_reserved {spawner : Spawner} {ok : Bool} (h : spawner.creates = true)
    (hok : ok = true ∨ ∀ left, spawner ≠ .start left) :
    (spawner.tried ok).reserved + (if ok = true then 1 else 0) = spawner.reserved := by
  cases spawner with
  | start left =>
      have htrue : ok = true := hok.resolve_right (fun hnot => hnot left rfl)
      cases left with
      | zero => cases h
      | succ left =>
          rw [htrue]
          rfl
  | push left failed =>
      cases left with
      | zero => cases h
      | succ left =>
          show left + (if ok = true then failed else failed + 1) + _ = left + 1 + failed
          split <;> omega
  | scaled => cases h
  | done => cases h

theorem counted_create {ok : Bool} (h : s.Counted)
    (hok : ok = true ∨ ∀ left, s.spawners[k]? ≠ some (.start left)) :
    (s.step (.create k ok)).Counted := by
  unfold WorkerPool.step
  dsimp only
  split
  · next spawner hk =>
      split
      · next hcreates =>
          have hspawner : ok = true ∨ ∀ left, spawner ≠ .start left :=
            hok.imp_right (fun hnot left heq => hnot left (heq ▸ hk))
          have htried := tried_reserved hcreates hspawner
          have htally := tally_set (f := Spawner.reserved) (b := spawner.tried ok) hk
          refine ⟨?_, h.asleep, h.valid⟩
          have htotal := h.total
          unfold WorkerPool.existing WorkerPool.reserved at *
          dsimp only
          split
          · next htrue =>
              rw [if_pos htrue] at htried
              rw [tally_append, tally_cons, tally_nil]
              dsimp only [Worker.exists]
              omega
          · next hfalse =>
              rw [if_neg hfalse] at htried
              omega
      · exact h
  · exact h

theorem counted_giveBack (h : s.Counted) (hgive : s.Careful (.giveBack k)) :
    (s.step (.giveBack k)).Counted := by
  unfold WorkerPool.step
  dsimp only
  split
  · next failed hk =>
      have htally := tally_set (f := Spawner.reserved) (b := .scaled) hk
      have hbefore : (Spawner.push 0 failed).reserved = failed := Nat.zero_add failed
      have hafter : Spawner.scaled.reserved = 0 := rfl
      have hgiven : (if failed > 0 then s.queue.giveBack failed else s.queue)
          = s.queue.giveBack failed := by
        split
        · rfl
        · next hzero =>
            have hfailed : failed = 0 := Nat.eq_zero_of_not_pos hzero
            rw [hfailed]
            show s.queue = { s.queue with totalWorkers := s.queue.totalWorkers - 0 }
            rw [Int.sub_zero]
      rw [hgiven]
      refine ⟨?_, ?_, h.valid⟩
      · have htotal := h.total
        unfold WorkerPool.existing WorkerPool.reserved at *
        show s.queue.totalWorkers - failed = _
        dsimp only
        omega
      · intro hasleep
        have hless := hgive hasleep failed hk
        show 0 < s.queue.totalWorkers - failed
        omega
  · exact h

/-- **A careful step keeps the count**. -/
theorem counted_step {i : PoolStep} (h : s.Counted) (hi : s.Careful i) : (s.step i).Counted := by
  cases i with
  | push event now malloc => exact counted_push h hi
  | create k ok => exact counted_create h hi
  | giveBack k => exact counted_giveBack h hi
  | scaled k =>
      unfold WorkerPool.step
      dsimp only
      split
      · next hk =>
          -- a spawner that has finished reserves nothing any more, as before
          have htally := tally_set (f := Spawner.reserved) (b := .done) hk
          have hbefore : Spawner.scaled.reserved = 0 := rfl
          have hafter : Spawner.done.reserved = 0 := rfl
          refine ⟨?_, h.asleep, h.valid⟩
          have htotal := h.total
          unfold WorkerPool.existing WorkerPool.reserved at *
          show s.queue.totalWorkers = _
          dsimp only
          omega
      · exact h
  | pop w =>
      unfold WorkerPool.step
      dsimp only
      split
      · next hw => exact counted_popped h hw rfl (popLoop_section s.queue)
      · exact h
  | wake w timedOut =>
      unfold WorkerPool.step
      dsimp only
      split
      · next hw => exact counted_popped h hw rfl (popWake_section s.queue timedOut)
      · exact h
  | idle w =>
      unfold WorkerPool.step
      dsimp only
      split
      · next event hw =>
          -- a worker that goes idle goes on to exist
          have htally := tally_set (f := Worker.exists) (b := .calling) hw
          have hbusy : (Worker.busy event).exists = 1 := rfl
          have hcalling : Worker.calling.exists = 1 := rfl
          refine ⟨?_, h.asleep, h.valid⟩
          have htotal := h.total
          unfold WorkerPool.existing WorkerPool.reserved at *
          show s.queue.totalWorkers = _
          dsimp only
          omega
      · exact h
  | halt => exact ⟨h.total, h.asleep, h.valid⟩
  | stop =>
      unfold WorkerPool.step
      dsimp only
      split
      · exact counted_testStop ⟨h.total, h.asleep, h.valid⟩
      · exact h
  | wakeStop =>
      refine ⟨h.total, ?_, h.valid⟩
      intro hasleep
      have hsignal : s.stopper.signal = .asleep := hasleep
      unfold Stopper.signal at hsignal
      split at hsignal
      · cases hsignal
      · next hnot => exact absurd hsignal hnot
  | stopTest =>
      unfold WorkerPool.step
      dsimp only
      split
      · exact counted_testStop h
      · exact h
  | drain =>
      unfold WorkerPool.step
      dsimp only
      split
      · exact ⟨h.total, h.asleep, fun a n hn => nomatch hn⟩
      · exact h

end Counted

theorem counted_start (minLimit maxLimit maxQueueSize : Nat) :
    (WorkerPool.start minLimit maxLimit maxQueueSize).Counted := by
  refine ⟨?_, fun hasleep => Stopper.noConfusion hasleep, fun a n hn => nomatch hn⟩
  show (minLimit : Int) = (0 : Nat) + (minLimit + 0 : Nat)
  omega

/-- The loop of the stop is over, or its next test is the last one. -/
def WorkerPool.StopEnds (s : WorkerPool) : Prop :=
  match s.stopper with
  | .notCalled => (s.step .stop).stopper = .ended
  | .asleep => False
  | .woken => (s.step .stopTest).stopper = .ended
  | .ended => True

theorem stopEnds {s : WorkerPool} (h : s.Counted) (htotal : s.queue.totalWorkers = 0) :
    s.StopEnds := by
  unfold WorkerPool.StopEnds
  have hzero : ¬ s.queue.totalWorkers > 0 := by omega
  split
  · next hnot =>
      unfold WorkerPool.step
      dsimp only
      rw [if_pos hnot]
      exact if_neg hzero
  · next hasleep => exact absurd (h.asleep hasleep) (by omega)
  · next hwoken =>
      unfold WorkerPool.step
      dsimp only
      rw [if_pos hwoken]
      exact if_neg hzero
  · trivial

/-- **The count in every careful run**: `total_workers` is the number of threads that exist and of
those that a spawner is yet to create or give back, so without any the stop ends. -/
theorem totalWorkers_run (minLimit maxLimit maxQueueSize : Nat) {is : List PoolStep}
    (h : GuardedRun WorkerPool.Careful WorkerPool.step
      (WorkerPool.start minLimit maxLimit maxQueueSize) is) :
    let s := runSteps WorkerPool.step (WorkerPool.start minLimit maxLimit maxQueueSize) is
    s.queue.totalWorkers = s.existing + s.reserved
      ∧ (s.queue.isRunning = false → s.existing = 0 → s.reserved = 0 →
          s.queue.totalWorkers = 0 ∧ s.StopEnds) := by
  intro s
  have hs : s.Counted :=
    GuardedRun.invariant (fun _ _ hbefore hi => counted_step hbefore hi)
      (counted_start minLimit maxLimit maxQueueSize) h
  refine ⟨hs.total, ?_⟩
  intro _ hexisting hreserved
  have htotal : s.queue.totalWorkers = 0 := by
    rw [hs.total, hexisting, hreserved]
    rfl
  exact ⟨htotal, stopEnds hs htotal⟩

/-- Two workers are started and stopped. -/
theorem totalWorkers_run_two :
    let s := runSteps WorkerPool.step (WorkerPool.start 2 4 256)
      [.create 0 true, .create 0 true, .pop 0, .stop, .pop 1, .wake 0 false, .stopTest]
    s.stopper = .ended ∧ s.queue.totalWorkers = s.existing + s.reserved := by
  intro s
  refine ⟨by decide, (totalWorkers_run 2 4 256 ?_).1⟩
  exact ⟨Or.inl rfl, Or.inl rfl, trivial, trivial, trivial, trivial, trivial, trivial⟩

/-- The start's only creation fails: no thread exists, one is counted, and the stop sleeps, and
sleeps again whenever it is woken. -/
theorem stop_waits_forever :
    let s := runSteps WorkerPool.step (WorkerPool.start 1 4 256) [.create 0 false, .stop]
    s.queue.isRunning = false ∧ s.existing = 0 ∧ s.reserved = 0 ∧ s.queue.totalWorkers = 1
      ∧ s.stopper = .asleep ∧ (runSteps WorkerPool.step s [.wakeStop, .stopTest]).stopper = .asleep
      ∧ ¬ s.StopEnds := by
  refine ⟨by decide, by decide, by decide, by decide, by decide, by decide, ?_⟩
  exact fun hends => hends

end Halmos.Core
