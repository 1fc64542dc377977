import Halmos.Basic.LinkedQueue
import Halmos.Basic.Runs
import Halmos.Basic.Tally

set_option autoImplicit false

/-! # The task queue and the worker threads

The event loop parks the events of connections in a linked queue, and worker threads take them. One
lock guards the queue, its counters and the number of threads, so a call is a sequence of critical
sections, and what other threads do happens between two of them.
-/

namespace Halmos.Core

/-! ## The queue -/

/-- `halmos_event_t`: one event of one lifetime of a descriptor. -/
structure HalmosEvent where
  fd : Int
  generation : UInt32
  events : UInt32
  deriving DecidableEq

/-- `Task`, less its `next`: a parked event. -/
structure Task where
  event : HalmosEvent
  arrivalTime : Int
  deriving DecidableEq

/-- `TaskQueue`: `head` and `tail` are those of the linked queue. -/
structure TaskQueue extends LinkedQueue Task where
  count : Int
  maxQueueLimit : Int
  activeWorkers : Int
  totalWorkers : Int
  scalingInProgress : Bool
  isRunning : Bool
  minThreadsLimit : Int
  maxThreadsLimit : Int

/-- The configuration sets all three limits, and none of them is negative. -/
def initQueue (minLimit maxLimit maxQueueSize : Nat) : TaskQueue where
  heap _ := none
  head := none
  tail := none
  count := 0
  maxQueueLimit := maxQueueSize
  activeWorkers := 0
  totalWorkers := minLimit
  scalingInProgress := false
  isRunning := true
  minThreadsLimit := minLimit
  maxThreadsLimit := maxLimit

/-! ## `core_queue_push` -/

/-- The new task, at `a`, becomes the last one. -/
def TaskQueue.park (q : TaskQueue) (a : Nat) (task : Task) : TaskQueue :=
  { q with toLinkedQueue := q.toLinkedQueue.enqueue a task, count := q.count + 1 }

/-- `q->max_queue_limit * 0.5`, cut to an `int`. -/
def TaskQueue.queueThreshold (q : TaskQueue) : Int := q.maxQueueLimit.tdiv 2

/-- The number of threads that a push starts, which is 0 unless the queue is more than half full. -/
def TaskQueue.spawnCount (q : TaskQueue) : Int :=
  if q.count > q.queueThreshold ∧ q.totalWorkers < q.maxThreadsLimit ∧ q.scalingInProgress = false
  then
    let availableSlots := q.maxThreadsLimit - q.totalWorkers
    if availableSlots < 4 then availableSlots else 4
  else 0

/-- The threads are counted before they are created. -/
def TaskQueue.reserve (q : TaskQueue) : TaskQueue :=
  if q.count > q.queueThreshold ∧ q.totalWorkers < q.maxThreadsLimit ∧ q.scalingInProgress = false
  then { q with totalWorkers := q.totalWorkers + q.spawnCount, scalingInProgress := true }
  else q

/-- What the critical section of a push leaves behind. -/
structure Pushed where
  ret : Int
  queue : TaskQueue
  spawnCount : Int

/-- The critical section of `core_queue_push`. `malloc` gives the address of the new task, or
`none`. -/
def coreQueuePush (q : TaskQueue) (event : HalmosEvent) (now : Int) (malloc : Option Nat) :
    Pushed :=
  if q.count ≥ q.maxQueueLimit then ⟨-1, q, 0⟩
  else
    match malloc with
    | none => ⟨-2, q, 0⟩
    | some a =>
        let q := q.park a ⟨event, now⟩
        ⟨0, q.reserve, q.spawnCount⟩

/-- The slots of the threads that could not be created go back. -/
def TaskQueue.giveBack (q : TaskQueue) (failed : Nat) : TaskQueue :=
  { q with totalWorkers := q.totalWorkers - failed }

/-- `scaling_in_progress = 0`. -/
def TaskQueue.scaled (q : TaskQueue) : TaskQueue := { q with scalingInProgress := false }

/-! ## `core_queue_pop` -/

/-- How a section of `core_queue_pop` ends: in the wait, with -3, or with a task. -/
inductive Popped
  | waits
  | exits
  | took (task : Task)
  deriving DecidableEq

/-- `q->total_workers--`, and `exit_cond` is signalled. -/
def TaskQueue.leave (q : TaskQueue) : TaskQueue := { q with totalWorkers := q.totalWorkers - 1 }

/-- The part behind the loop. -/
def TaskQueue.popTake (q : TaskQueue) : Popped × TaskQueue :=
  if q.isRunning = false then (.exits, q.leave)
  else
    match q.toLinkedQueue.dequeue with
    | none => (.waits, q)
    | some (task, tasks) =>
        (.took task,
          { q with
            toLinkedQueue := tasks
            count := q.count - 1
            activeWorkers := q.activeWorkers + 1 })

/-- The test of the loop, up to the wait or out of the loop. -/
def TaskQueue.popLoop (q : TaskQueue) : Popped × TaskQueue :=
  if q.head = none then
    if q.isRunning = false then (.exits, q.leave) else (.waits, q)
  else q.popTake

/-- From the end of `pthread_cond_timedwait` on. -/
def TaskQueue.popWake (q : TaskQueue) (timedOut : Bool) : Popped × TaskQueue :=
  if q.isRunning = false then (.exits, q.leave)
  else if timedOut = true ∧ q.head = none ∧ q.totalWorkers > q.minThreadsLimit then
    (.exits, q.leave)
  else q.popLoop

/-- `mark_worker_idle`. -/
def markWorkerIdle (q : TaskQueue) : TaskQueue := { q with activeWorkers := q.activeWorkers - 1 }

/-! ## Stopping -/

/-- `is_running = 0`, here and in the event loop's own stop. -/
def TaskQueue.halt (q : TaskQueue) : TaskQueue := { q with isRunning := false }

/-- The tasks left in the queue are taken out, and freed one by one. -/
def TaskQueue.drain (q : TaskQueue) : TaskQueue :=
  { q with heap := fun _ => none, head := none, tail := none, count := 0 }

/-! ## What the sections do -/

/-- What a section of `core_queue_pop` can do. -/
inductive PopSection (q : TaskQueue) : Popped × TaskQueue → Prop
  | waits : PopSection q (.waits, q)
  | exits (h : q.isRunning = false ∨ q.minThreadsLimit < q.totalWorkers) :
      PopSection q (.exits, q.leave)
  | took {task : Task} {tasks : LinkedQueue Task} (hrun : q.isRunning = true)
      (h : q.toLinkedQueue.dequeue = some (task, tasks)) :
      PopSection q (.took task,
        { q with
          toLinkedQueue := tasks
          count := q.count - 1
          activeWorkers := q.activeWorkers + 1 })

section Sections

variable {q : TaskQueue}

theorem popTake_section (q : TaskQueue) : PopSection q q.popTake := by
  unfold TaskQueue.popTake
  split
  · next hhalted => exact PopSection.exits (Or.inl hhalted)
  · next hrun =>
      split
      · exact PopSection.waits
      · next h => exact PopSection.took (Bool.not_eq_false _ ▸ hrun) h

theorem popLoop_section (q : TaskQueue) : PopSection q q.popLoop := by
  unfold TaskQueue.popLoop
  split
  · split
    · next hhalted => exact PopSection.exits (Or.inl hhalted)
    · exact PopSection.waits
  · exact popTake_section q

theorem popWake_section (q : TaskQueue) (timedOut : Bool) : PopSection q (q.popWake timedOut) := by
  unfold TaskQueue.popWake
  split
  · next hhalted => exact PopSection.exits (Or.inl hhalted)
  · split
    · next htimeout => exact PopSection.exits (Or.inr htimeout.2.2)
    · exact popLoop_section q

/-- What the critical section of a push can do: nothing, or park the task and reserve. -/
inductive PushSection (q : TaskQueue) (task : Task) : Option Nat → Pushed → Prop
  | rejected {malloc : Option Nat} {ret : Int} (h : ret ≠ 0) :
      PushSection q task malloc ⟨ret, q, 0⟩
  | parked {a : Nat} (h : q.count < q.maxQueueLimit) :
      PushSection q task (some a) ⟨0, (q.park a task).reserve, (q.park a task).spawnCount⟩

theorem coreQueuePush_section (q : TaskQueue) (event : HalmosEvent) (now : Int)
    (malloc : Option Nat) :
    PushSection q ⟨event, now⟩ malloc (coreQueuePush q event now malloc) := by
  unfold coreQueuePush
  split
  · exact PushSection.rejected (by decide)
  · next hroom =>
      cases malloc with
      | none => exact PushSection.rejected (by decide)
      | some a => exact PushSection.parked (Int.not_le.mp hroom)

/-- The threads a push starts fit under the limit. -/
theorem spawnCount_bounds (q : TaskQueue) :
    0 ≤ q.spawnCount ∧ (0 < q.spawnCount → q.spawnCount ≤ q.maxThreadsLimit - q.totalWorkers) := by
  unfold TaskQueue.spawnCount
  split
  · dsimp only
    split <;> omega
  · omega

theorem reserve_eq (q : TaskQueue) :
    q.reserve = { q with
      totalWorkers := q.totalWorkers + q.spawnCount
      scalingInProgress := q.reserve.scalingInProgress } := by
  unfold TaskQueue.reserve
  split
  · rfl
  · next h =>
      have hzero : q.spawnCount = 0 := if_neg h
      rw [hzero, Int.add_zero]

end Sections

/-! ## The threads -/

/-- A thread that creates workers: the loop of the start, or that of a push, with the creations
`left` to try and those that `failed`; then the push has `scaling_in_progress` to reset. -/
inductive Spawner
  | start (left : Nat)
  | push (left failed : Nat)
  | scaled
  | done
  deriving DecidableEq

/-- A worker: about to call `core_queue_pop`, waiting in it, busy with an event it popped, or gone.
One that pops a negative descriptor takes it for the -3, and `deserted` with the event. -/
inductive Worker
  | calling
  | waiting
  | busy (event : HalmosEvent)
  | left
  | deserted (event : HalmosEvent)
  deriving DecidableEq

/-- The thread in `core_queue_thread_worker_stop`: in the wait of `exit_cond`, signalled there, or
past the loop. -/
inductive Stopper
  | notCalled
  | asleep
  | woken
  | ended
  deriving DecidableEq

/-- The queue and its threads, the events whose push returned 0 and those handed to workers. -/
structure WorkerPool where
  queue : TaskQueue
  spawners : List Spawner
  workers : List Worker
  stopper : Stopper
  accepted : List Task
  handedOut : List Task

/-- A critical section of one of the threads, or a `pthread_create`, with what the system
answers. -/
inductive PoolStep
  | push (event : HalmosEvent) (now : Int) (malloc : Option Nat)
  | create (k : Nat) (ok : Bool)
  | giveBack (k : Nat)
  | scaled (k : Nat)
  | pop (w : Nat)
  | wake (w : Nat) (timedOut : Bool)
  | idle (w : Nat)
  | halt
  | stop
  | wakeStop
  | stopTest
  | drain
  deriving DecidableEq

/-- `core_queue_thread_worker_start` has initialised the queue and is about to create its
workers. -/
def WorkerPool.start (minLimit maxLimit maxQueueSize : Nat) : WorkerPool where
  queue := initQueue minLimit maxLimit maxQueueSize
  spawners := [.start minLimit]
  workers := []
  stopper := .notCalled
  accepted := []
  handedOut := []

/-- What a worker is after a section of `core_queue_pop`. -/
def Worker.after : Popped → Worker
  | .waits => .waiting
  | .exits => .left
  | .took task => if task.event.fd < 0 then .deserted task.event else .busy task.event

/-- The events that a section of `core_queue_pop` hands out. -/
def Popped.tasks : Popped → List Task
  | .took task => [task]
  | _ => []

/-- A signal of `exit_cond`. -/
def Stopper.signal : Stopper → Stopper
  | .asleep => .woken
  | s => s

/-- A worker that exits signals `exit_cond`. -/
def Popped.signal (stopper : Stopper) : Popped → Stopper
  | .exits => stopper.signal
  | _ => stopper

/-- The worker `w` goes through a section of `core_queue_pop`. -/
def WorkerPool.popped (s : WorkerPool) (w : Nat) (r : Popped × TaskQueue) : WorkerPool :=
  { s with
    queue := r.2
    workers := s.workers.set w (.after r.1)
    stopper := r.1.signal s.stopper
    handedOut := s.handedOut ++ r.1.tasks }

/-- The spawner has tried one of its creations. -/
def Spawner.tried (ok : Bool) : Spawner → Spawner
  | .start (left + 1) => .start left
  | .push (left + 1) failed => .push left (if ok = true then failed else failed + 1)
  | k => k

/-- The spawner has a creation to try. -/
def Spawner.creates : Spawner → Bool
  | .start (_ + 1) => true
  | .push (_ + 1) _ => true
  | _ => false

/-- `while (global_queue.total_workers > 0)`: one more wait, or the end of the loop. -/
def WorkerPool.testStop (s : WorkerPool) : WorkerPool :=
  { s with stopper := if s.queue.totalWorkers > 0 then .asleep else .ended }

/-- What a thread cannot do where it is changes nothing; nor does an address that `malloc` would not
give. -/
def WorkerPool.step (s : WorkerPool) : PoolStep → WorkerPool
  | .push event now malloc =>
      if ∀ a ∈ malloc, s.queue.heap a = none then
        let r := coreQueuePush s.queue event now malloc
        { s with
          queue := r.queue
          spawners :=
            if r.spawnCount > 0 then s.spawners ++ [.push r.spawnCount.toNat 0] else s.spawners
          accepted := if r.ret = 0 then s.accepted ++ [⟨event, now⟩] else s.accepted }
      else s
  | .create k ok =>
      match s.spawners[k]? with
      | some spawner =>
          if spawner.creates = true then
            { s with
              spawners := s.spawners.set k (spawner.tried ok)
              workers := if ok = true then s.workers ++ [.calling] else s.workers }
          else s
      | none => s
  | .giveBack k =>
      match s.spawners[k]? with
      | some (.push 0 failed) =>
          { s with
            queue := if failed > 0 then s.queue.giveBack failed else s.queue
            spawners := s.spawners.set k .scaled }
      | _ => s
  | .scaled k =>
      match s.spawners[k]? with
      | some .scaled => { s with queue := s.queue.scaled, spawners := s.spawners.set k .done }
      | _ => s
  | .pop w =>
      match s.workers[w]? with
      | some .calling => s.popped w s.queue.popLoop
      | _ => s
  | .wake w timedOut =>
      match s.workers[w]? with
      | some .waiting => s.popped w (s.queue.popWake timedOut)
      | _ => s
  | .idle w =>
      match s.workers[w]? with
      | some (.busy _) =>
          { s with queue := markWorkerIdle s.queue, workers := s.workers.set w .calling }
      | _ => s
  | .halt => { s with queue := s.queue.halt }
  | .stop =>
      if s.stopper = .notCalled then ({ s with queue := s.queue.halt } : WorkerPool).testStop else s
  | .wakeStop => { s with stopper := s.stopper.signal }
  | .stopTest => if s.stopper = .woken then s.testStop else s
  | .drain => if s.stopper = .ended then { s with queue := s.queue.drain } else s

end Halmos.Core
