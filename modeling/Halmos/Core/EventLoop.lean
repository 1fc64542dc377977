import Halmos.Core.TaskQueue

set_option autoImplicit false

/-! # The event loop and the workers

One thread accepts connections and hands their events to worker threads through the queue. A
descriptor is registered one-shot, so whoever has its event is alone with it until it registers the
descriptor again or closes it; a slot of the table of connections, with a generation, an active flag
and a lock, guards against events of an earlier lifetime of the same number.

A step here is one system call, one operation on an atomic or one change under a lock, and the
threads take their steps in any order.
-/

namespace Halmos.Core

/-! ## Connections -/

/-- `halmos_conn_state_t`. -/
inductive ConnState
  | reading
  | processing
  | writing
  | closing
  | dead
  deriving DecidableEq

/-- `halmos_conn_t`: what says which lifetime of the descriptor it is, and the lock. -/
structure HalmosConn where
  generation : UInt32
  active : Bool
  state : ConnState
  ioLock : Bool
  deriving DecidableEq

def epollIn : UInt32 := 0x1
def epollOut : UInt32 := 0x4
def epollErr : UInt32 := 0x8
def epollHup : UInt32 := 0x10
def epollRdHup : UInt32 := 0x2000
def epollOneShot : UInt32 := 0x40000000
def epollEt : UInt32 := 0x80000000

/-- An armed registration of `epoll`, with the generation the slot had when it was armed. -/
structure Registration where
  fd : Int
  events : UInt32
  generation : UInt32
  deriving DecidableEq

/-- An event that `epoll_wait` delivered: that of a client keeps the generation it was armed for. -/
inductive Delivered
  | listener
  | client (fd : Int) (ev : UInt32) (generation : UInt32)
  deriving DecidableEq

/-! ## Where the threads are -/

/-- The steps of `core_event_loop_cleanup_connection` that are left to do, from the named one on;
`bareClose` closes a descriptor without a slot. -/
inductive CleanupStage
  | del
  | lock
  | inactive
  | dead
  | close
  | unlock
  | bareClose
  | done
  deriving DecidableEq

/-- Where the event loop is: what it does next. -/
inductive LoopPc
  | waiting
  | handling
  | acceptTest
  | accept
  | accepted (fd : Int)
  | counted (fd : Int)
  | activateLock (fd : Int)
  | activateGeneration (fd : Int)
  | activateState (fd : Int) (g : UInt32)
  | activateActive (fd : Int) (g : UInt32)
  | activateUnlock (fd : Int) (g : UInt32)
  | refused (fd : Int)
  | uncount
  | adding (fd : Int) (g : UInt32)
  | event (fd : Int) (ev : UInt32) (g : UInt32)
  | lookup (fd : Int) (ev : UInt32) (g : UInt32)
  | loaded (fd : Int) (ev : UInt32) (g : UInt32)
  | pushing (e : HalmosEvent)
  | uncounting (fd : Int) (g : UInt32) (inAccept : Bool)
  | cleaning (stage : CleanupStage) (fd : Int) (g : UInt32) (uncounted inAccept : Bool)
  | finished
  deriving DecidableEq

/-- The three loads of `core_conn_t_is_valid`. -/
inductive Check
  | active
  | generation
  | state
  deriving DecidableEq

/-- Where a worker is: what it does next. -/
inductive WorkerPc
  | idle
  | checking (locked : Bool) (check : Check) (e : HalmosEvent)
  | locking (e : HalmosEvent)
  | dispatching (e : HalmosEvent)
  | rearming (e : HalmosEvent) (mask : UInt32)
  | unlocking (fd : Int)
  | releasing (e : HalmosEvent)
  | uncounting (e : HalmosEvent)
  | cleaning (stage : CleanupStage) (e : HalmosEvent)
  deriving DecidableEq

/-- The server. `cleaned` is the history of the calls of `core_event_loop_cleanup_connection`: the
descriptor, and the generation that the caller means. -/
structure Server where
  maxFd : Nat
  conns : Int → HalmosConn
  isOpen : Int → Bool
  armed : List Registration
  batch : List Delivered
  loop : LoopPc
  queue : List HalmosEvent
  workers : List WorkerPc
  running : Bool
  activeConnections : Int
  cleaned : List (Int × UInt32)

/-- The table is initialised and the loop is about to wait for events. -/
def Server.start (maxFd : Nat) (workers : Nat) : Server where
  maxFd := maxFd
  conns _ := ⟨0, false, .dead, false⟩
  isOpen _ := false
  armed := []
  batch := []
  loop := .waiting
  queue := []
  workers := List.replicate workers .idle
  running := true
  activeConnections := 0
  cleaned := []

/-! ## What the threads share -/

/-- `core_conn_t_get` has a slot for the descriptor. -/
def Server.InRange (s : Server) (fd : Int) : Prop := 0 ≤ fd ∧ fd < s.maxFd

instance (s : Server) (fd : Int) : Decidable (s.InRange fd) :=
  inferInstanceAs (Decidable (0 ≤ fd ∧ fd < s.maxFd))

/-- A change of one slot. -/
def Server.setConn (s : Server) (fd : Int) (f : HalmosConn → HalmosConn) : Server :=
  { s with conns := Function.update s.conns fd (f (s.conns fd)) }

/-- The lock of the slot is taken, or given back. -/
def Server.setLock (s : Server) (fd : Int) (held : Bool) : Server :=
  s.setConn fd (fun c => { c with ioLock := held })

/-- `EPOLL_CTL_DEL`. -/
def Server.epollDel (s : Server) (fd : Int) : Server :=
  { s with armed := s.armed.filter (fun r => r.fd ≠ fd) }

/-- `EPOLL_CTL_ADD` and `EPOLL_CTL_MOD`: the open descriptor is armed, once. -/
def Server.arm (s : Server) (fd : Int) (mask : UInt32) : Server :=
  { s.epollDel fd with
    armed := (s.epollDel fd).armed
      ++ [⟨fd, mask ||| epollEt ||| epollOneShot, (s.conns fd).generation⟩] }

/-- `close`, which also takes the descriptor out of `epoll`. -/
def Server.close (s : Server) (fd : Int) : Server :=
  { s.epollDel fd with isOpen := Function.update s.isOpen fd false }

/-- A call of `core_event_loop_cleanup_connection` begins. -/
def Server.callCleanup (s : Server) (fd : Int) (g : UInt32) : Server :=
  { s with cleaned := s.cleaned ++ [(fd, g)] }

/-- `atomic_fetch_sub(&global_telemetry.active_connections, 1)`. -/
def Server.uncount (s : Server) : Server :=
  { s with activeConnections := s.activeConnections - 1 }

/-- One step of `core_event_loop_cleanup_connection`, and the next one. -/
def Server.cleanup (s : Server) (fd : Int) : CleanupStage → Server × CleanupStage
  | .del => (s.epollDel fd, if s.InRange fd then .lock else .bareClose)
  | .lock =>
      if (s.conns fd).ioLock = true then (s, .lock) else (s.setLock fd true, .inactive)
  | .inactive => (s.setConn fd (fun c => { c with active := false }), .dead)
  | .dead => (s.setConn fd (fun c => { c with state := .dead }), .close)
  | .close => (s.close fd, .unlock)
  | .unlock => (s.setLock fd false, .done)
  | .bareClose => (s.close fd, .done)
  | .done => (s, .done)

/-! ## The event loop -/

def Server.goto (s : Server) (pc : LoopPc) : Server := { s with loop := pc }

/-- Back to the accept loop, or to the batch. -/
def LoopPc.back (inAccept : Bool) : LoopPc := if inAccept = true then .acceptTest else .handling

/-- One step of `core_event_loop_run`. The system answers with the descriptor that `accept` returns,
and whether the call went well; an `accept` that fails is repeated for `EINTR`. -/
def Server.loopStep (s : Server) (accepts : Option Int) (ok : Bool) : Server :=
  match s.loop with
  | .waiting => s.goto .handling
  | .handling =>
      match s.batch with
      | [] => s.goto (if s.running = true then .waiting else .finished)
      | .listener :: rest => { s with batch := rest, loop := .acceptTest }
      | .client fd ev g :: rest => { s with batch := rest, loop := .event fd ev g }
  | .acceptTest => s.goto (if s.running = true then .accept else .handling)
  | .accept =>
      match accepts with
      | none => s.goto (if ok = true then .acceptTest else .handling)
      | some fd =>
          if 0 ≤ fd ∧ s.isOpen fd = false then
            { s with isOpen := Function.update s.isOpen fd true, loop := .accepted fd }
          else s
  | .accepted fd =>
      { s with activeConnections := s.activeConnections + 1, loop := .counted fd }
  | .counted fd => s.goto (if s.InRange fd then .activateLock fd else .refused fd)
  | .activateLock fd =>
      if (s.conns fd).ioLock = true then s
      else (s.setLock fd true).goto (.activateGeneration fd)
  | .activateGeneration fd =>
      (s.setConn fd (fun c => { c with generation := c.generation + 1 })).goto
        (.activateState fd ((s.conns fd).generation + 1))
  | .activateState fd g =>
      (s.setConn fd (fun c => { c with state := .reading })).goto (.activateActive fd g)
  | .activateActive fd g =>
      (s.setConn fd (fun c => { c with active := true })).goto (.activateUnlock fd g)
  | .activateUnlock fd g =>
      (s.setLock fd false).goto (if g = 0 then .refused fd else .adding fd g)
  | .refused fd => (s.close fd).goto .uncount
  | .uncount => s.uncount.goto .handling
  | .adding fd g =>
      if ok = true then (s.arm fd epollIn).goto .acceptTest else s.goto (.uncounting fd g true)
  | .event fd ev g =>
      if ev &&& (epollErr ||| epollHup ||| epollRdHup) ≠ 0 then s.goto (.uncounting fd g false)
      else if ev &&& (epollIn ||| epollOut) ≠ 0 then
        if s.running = true then s.goto (.lookup fd ev g)
        else (s.callCleanup fd g).goto (.cleaning .del fd g false false)
      else s.goto .handling
  | .lookup fd ev g =>
      s.goto (if s.InRange fd ∧ (s.conns fd).active = true then .loaded fd ev g else .handling)
  | .loaded fd ev _ => s.goto (.pushing ⟨fd, (s.conns fd).generation, ev⟩)
  | .pushing e =>
      if ok = true then { s with queue := s.queue ++ [e], loop := .handling }
      else s.goto (.uncounting e.fd e.generation false)
  | .uncounting fd g inAccept =>
      (s.uncount.callCleanup fd g).goto (.cleaning .del fd g true inAccept)
  | .cleaning stage fd g uncounted inAccept =>
      (s.cleanup fd stage).1.goto
        (if (s.cleanup fd stage).2 = .done then .back inAccept
        else .cleaning (s.cleanup fd stage).2 fd g uncounted inAccept)
  | .finished => s

/-! ## The workers -/

/-- One load of `core_conn_t_is_valid`, and what it asks for. -/
def Server.Passes (s : Server) (e : HalmosEvent) : Check → Prop
  | .active => s.InRange e.fd ∧ (s.conns e.fd).active = true
  | .generation => (s.conns e.fd).generation = e.generation
  | .state => (s.conns e.fd).state ≠ .closing ∧ (s.conns e.fd).state ≠ .dead

instance (s : Server) (e : HalmosEvent) : (check : Check) → Decidable (s.Passes e check)
  | .active => inferInstanceAs (Decidable (s.InRange e.fd ∧ (s.conns e.fd).active = true))
  | .generation => inferInstanceAs (Decidable ((s.conns e.fd).generation = e.generation))
  | .state => inferInstanceAs
      (Decidable ((s.conns e.fd).state ≠ .closing ∧ (s.conns e.fd).state ≠ .dead))

/-- Where a worker goes from a check that passed. -/
def WorkerPc.passed (locked : Bool) (e : HalmosEvent) : Check → WorkerPc
  | .active => .checking locked .generation e
  | .generation => .checking locked .state e
  | .state => if locked = true then .dispatching e else .locking e

/-- The mask that a status of the dispatch registers again; any other one ends the connection. -/
def rearmMask (status : Int) : Option UInt32 :=
  if status = 1 then some epollIn
  else if status = 2 then some epollIn
  else if status = 3 then some epollOut
  else if status = 4 then some (epollIn ||| epollOut)
  else none

def Server.setWorker (s : Server) (w : Nat) (pc : WorkerPc) : Server :=
  { s with workers := s.workers.set w pc }

/-- One step of `core_thread_pool_worker`, whose dispatch returns `status`; `ok` says whether the
registration goes well. -/
def Server.workerStep (s : Server) (w : Nat) (status : Int) (ok : Bool) : WorkerPc → Server
  | .idle =>
      match s.queue with
      | [] => s
      | e :: rest => { s with queue := rest }.setWorker w (.checking false .active e)
  | .checking locked check e =>
      s.setWorker w
        (if s.Passes e check then .passed locked e check
        else if locked = true then .unlocking e.fd else .idle)
  | .locking e =>
      if (s.conns e.fd).ioLock = true then s
      else (s.setLock e.fd true).setWorker w (.checking true .active e)
  | .dispatching e =>
      s.setWorker w
        (match rearmMask status with
        | some mask => .rearming e mask
        | none => .releasing e)
  | .rearming e mask =>
      (if ok = true ∧ s.isOpen e.fd = true then s.arm e.fd mask else s).setWorker w
        (.unlocking e.fd)
  | .unlocking fd => (s.setLock fd false).setWorker w .idle
  | .releasing e => (s.setLock e.fd false).setWorker w (.uncounting e)
  | .uncounting e =>
      (s.uncount.callCleanup e.fd e.generation).setWorker w (.cleaning .del e)
  | .cleaning stage e =>
      (s.cleanup e.fd stage).1.setWorker w
        (if (s.cleanup e.fd stage).2 = .done then .idle
        else .cleaning (s.cleanup e.fd stage).2 e)

/-! ## Steps -/

/-- A step of the system: `epoll_wait` takes up an armed registration or the listener, the loop or a
worker goes on, a worker is created, or the server is told to stop. -/
inductive ServerStep
  | deliver (k : Nat) (ev : UInt32)
  | deliverListener
  | loop (accepts : Option Int) (ok : Bool)
  | worker (w : Nat) (status : Int) (ok : Bool)
  | spawn
  | stop
  deriving DecidableEq

/-- A one-shot registration is disarmed when its event is delivered. -/
def Server.step (s : Server) : ServerStep → Server
  | .deliver k ev =>
      match s.armed[k]? with
      | some r =>
          if s.loop = .waiting then
            { s with
              armed := s.armed.eraseIdx k
              batch := s.batch ++ [.client r.fd ev r.generation] }
          else s
      | none => s
  | .deliverListener =>
      if s.loop = .waiting then { s with batch := s.batch ++ [.listener] } else s
  | .loop accepts ok => s.loopStep accepts ok
  | .worker w status ok =>
      match s.workers[w]? with
      | some pc => s.workerStep w status ok pc
      | none => s
  | .spawn => { s with workers := s.workers ++ [.idle] }
  | .stop => { s with running := false }

end Halmos.Core
