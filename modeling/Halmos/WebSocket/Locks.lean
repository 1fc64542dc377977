import Halmos.Basic.LockOrder
import Halmos.WebSocket.Registry

set_option autoImplicit false

/-! # The locks of the registry

What the functions of `halmos_ws_registry.c` lock and unlock, in the order of the source. What a
function finds in the tables under its locks (a client, a bucket, active subscribers) may have been
changed by any other thread, so it is an argument here and may be anything. The order in which the
locks are taken is the one the header file of the registry lays down, and it excludes deadlocks
(`registry_not_deadlocked`).
-/

namespace Halmos.WebSocket

/-- The mutexes: those of the registry, that of each topic bucket, and that of each client. -/
inductive WsMutex where
  | registryLock
  | hashLock
  | userMapLock
  | topicLock (idx : Nat)
  | clientLock (a : Addr)
  deriving DecidableEq, Repr

/-- A place in the lock hierarchy. A topic lock and the lock of the users are never held together,
and their order is free. -/
def WsMutex.rank : WsMutex → Nat
  | .registryLock => 0
  | .hashLock => 1
  | .userMapLock => 2
  | .topicLock _ => 3
  | .clientLock _ => 4

open WsMutex

/-! ## Connections -/

/-- A function that looks at the tables under `registry_lock` only, or returns at once if the
descriptor is out of range: `ws_registry_add`, `ws_registry_add_h2`, `ws_registry_get_h2_status`,
`ws_registry_update_activity`, `ws_registry_get_user_id` and `ws_registry_validate_session`. -/
def lookupLocks (fd : Int) : List (LockOp WsMutex) :=
  if wsFdIsValid fd then critical registryLock [] else []

/-- What `ws_registry_remove` finds: the client, whether it has a name, and for each of its topics
the bucket, if there is one. -/
structure RemovedClient where
  client : Addr
  named : Bool
  topics : List (Option Nat)

/-- `ws_registry_remove(fd)`. -/
def removeLocks (fd : Int) (found : Option RemovedClient) : List (LockOp WsMutex) :=
  if wsFdIsValid fd then
    critical registryLock (
      match found with
      | none => []
      | some c =>
          critical (clientLock c.client) []
            ++ (if c.named then critical userMapLock [] else [])
            ++ critical hashLock (c.topics.flatMap fun
              | none => []
              | some idx => critical (topicLock idx) []))
  else []

/-- `ws_registry_broadcast(message)`, with the active clients it comes to. -/
def broadcastLocks (active : List Addr) : List (LockOp WsMutex) :=
  critical registryLock (active.flatMap fun a => [.tryLock (clientLock a)])

/-! ## Maintenance -/

/-- `ws_registry_heartbeat()`, with the active clients it comes to. -/
def heartbeatLocks (active : List Addr) : List (LockOp WsMutex) :=
  critical registryLock (active.flatMap fun a => critical (clientLock a) [])

/-- `ws_registry_reaper()`, with the descriptors it removes. -/
def reaperLocks (dead : List (Int × Option RemovedClient)) : List (LockOp WsMutex) :=
  critical registryLock [] ++ dead.flatMap fun d => removeLocks d.1 d.2

/-! ## Topics and names -/

/-- What `ws_registry_add_to_topic` finds: an active client, and whether it is in the bucket
already. -/
structure SubscribingClient where
  client : Addr
  there : Bool

/-- `ws_registry_add_to_topic(fd, app_id, topic)`. -/
def addToTopicLocks (fd : Int) (appId topic : List UInt8) (found : Option SubscribingClient) :
    List (LockOp WsMutex) :=
  if wsFdIsValid fd then
    critical registryLock [] ++ (
      match found with
      | none => []
      | some c =>
          critical hashLock [] ++ critical (topicLock (hashTopic (subscribeKey appId topic))) []
            ++ if c.there then [] else critical (clientLock c.client) [])
  else []

/-- `ws_registry_publish(app_id, topic, message)`, with the active clients in the bucket, if there
is one. -/
def publishLocks (appId topic : List UInt8) (found : Option (List Addr)) : List (LockOp WsMutex) :=
  critical hashLock [] ++
    match found with
    | none => []
    | some active =>
        critical (topicLock (hashTopic (publishKey appId topic)))
          (active.flatMap fun a => critical (clientLock a) [])

/-- `ws_registry_set_user_id(fd, user_id)`, with whether there is an active client. -/
def setUserIdLocks (fd : Int) (userId : List UInt8) (found : Bool) : List (LockOp WsMutex) :=
  if wsFdIsValid fd = true ∧ userId ≠ [] then
    critical registryLock (if found then critical userMapLock [] else [])
  else []

/-- `ws_registry_get_session_info(name, ..)` and `ws_registry_get_fd_by_name(name)`; `none` is the
null pointer. -/
def sessionInfoLocks (name : Option (List UInt8)) : List (LockOp WsMutex) :=
  if name.isSome then critical userMapLock [] else []

/-! ## Calls -/

/-- The functions of the registry, with what they find. -/
inductive RegistryCall where
  | lookup (fd : Int)
  | remove (fd : Int) (found : Option RemovedClient)
  | broadcast (active : List Addr)
  | heartbeat (active : List Addr)
  | reaper (dead : List (Int × Option RemovedClient))
  | addToTopic (fd : Int) (appId topic : List UInt8) (found : Option SubscribingClient)
  | publish (appId topic : List UInt8) (found : Option (List Addr))
  | setUserId (fd : Int) (userId : List UInt8) (found : Bool)
  | getSessionInfo (name : Option (List UInt8))

/-- The locks of a call. -/
def RegistryCall.locks : RegistryCall → List (LockOp WsMutex)
  | .lookup fd => lookupLocks fd
  | .remove fd found => removeLocks fd found
  | .broadcast active => broadcastLocks active
  | .heartbeat active => heartbeatLocks active
  | .reaper dead => reaperLocks dead
  | .addToTopic fd appId topic found => addToTopicLocks fd appId topic found
  | .publish appId topic found => publishLocks appId topic found
  | .setUserId fd userId found => setUserIdLocks fd userId found
  | .getSessionInfo name => sessionInfoLocks name

/-! ## The order -/

theorem rank_lt (m : WsMutex) : m.rank < 5 := by
  cases m <;> simp [WsMutex.rank]

theorem none_held (m : WsMutex) : ∀ h ∈ ([] : List WsMutex), h.rank < m.rank :=
  fun _ hno => absurd hno List.not_mem_nil

/-- A lock taken with one other held. -/
theorem one_held {h m : WsMutex} (hlt : h.rank < m.rank) : ∀ x ∈ [h], x.rank < m.rank := by
  rintro x hx
  obtain rfl := List.mem_singleton.mp hx
  exact hlt

/-- A section with nothing inside, taken with no lock of its rank or above held. -/
theorem balanced_section {held : List WsMutex} {m : WsMutex} (hm : ∀ h ∈ held, h.rank < m.rank) :
    Balanced WsMutex.rank held (critical m []) := balanced_critical hm balanced_nil

theorem lookupLocks_balanced (fd : Int) : Balanced WsMutex.rank [] (lookupLocks fd) := by
  unfold lookupLocks
  split
  · exact balanced_section (none_held _)
  · exact balanced_nil

theorem removeLocks_balanced (fd : Int) (found : Option RemovedClient) :
    Balanced WsMutex.rank [] (removeLocks fd found) := by
  unfold removeLocks
  split
  · refine balanced_critical (none_held _) ?_
    cases found with
    | none => exact balanced_nil
    | some c =>
        refine (Balanced.append ?_ ?_).append (balanced_critical (one_held (by decide)) ?_)
        · exact balanced_section (one_held (Nat.succ_pos 3))
        · split
          · exact balanced_section (one_held (by decide))
          · exact balanced_nil
        · -- the topic locks are taken one after the other, under the two others
          refine balanced_flatMap fun topic _ => ?_
          cases topic with
          | none => exact balanced_nil
          | some idx =>
              refine balanced_section fun h hh => ?_
              rcases List.mem_cons.mp hh with rfl | hh
              · exact (by decide : (1 : Nat) < 3)
              · obtain rfl := List.mem_singleton.mp hh
                exact (by decide : (0 : Nat) < 3)
  · exact balanced_nil

theorem broadcastLocks_balanced (active : List Addr) :
    Balanced WsMutex.rank [] (broadcastLocks active) :=
  balanced_critical (none_held _) (balanced_flatMap fun a _ => balanced_tryLock (clientLock a))

/-- The clients' locks are taken one after the other, under one other lock. -/
theorem clients_balanced {m : WsMutex} (hm : m.rank < 4) (active : List Addr) :
    Balanced WsMutex.rank [m] (active.flatMap fun a => critical (clientLock a) []) :=
  balanced_flatMap fun _ _ => balanced_section (one_held hm)

theorem heartbeatLocks_balanced (active : List Addr) :
    Balanced WsMutex.rank [] (heartbeatLocks active) :=
  balanced_critical (none_held _) (clients_balanced (by decide) active)

theorem reaperLocks_balanced (dead : List (Int × Option RemovedClient)) :
    Balanced WsMutex.rank [] (reaperLocks dead) :=
  (balanced_section (none_held _)).append
    (balanced_flatMap fun d _ => removeLocks_balanced d.1 d.2)

/-- No lock is held when the next one is taken. -/
theorem addToTopicLocks_balanced (fd : Int) (appId topic : List UInt8)
    (found : Option SubscribingClient) :
    Balanced WsMutex.rank [] (addToTopicLocks fd appId topic found) := by
  unfold addToTopicLocks
  split
  · refine (balanced_section (none_held _)).append ?_
    cases found with
    | none => exact balanced_nil
    | some c =>
        refine ((balanced_section (none_held _)).append (balanced_section (none_held _))).append ?_
        split
        · exact balanced_nil
        · exact balanced_section (none_held _)
  · exact balanced_nil

theorem publishLocks_balanced (appId topic : List UInt8) (found : Option (List Addr)) :
    Balanced WsMutex.rank [] (publishLocks appId topic found) := by
  refine (balanced_section (none_held _)).append ?_
  cases found with
  | none => exact balanced_nil
  | some active =>
      refine balanced_critical (none_held _) (clients_balanced ?_ active)
      exact (by decide : 3 < 4)

theorem setUserIdLocks_balanced (fd : Int) (userId : List UInt8) (found : Bool) :
    Balanced WsMutex.rank [] (setUserIdLocks fd userId found) := by
  unfold setUserIdLocks
  split
  · refine balanced_critical (none_held _) ?_
    split
    · exact balanced_section (one_held (by decide))
    · exact balanced_nil
  · exact balanced_nil

theorem sessionInfoLocks_balanced (name : Option (List UInt8)) :
    Balanced WsMutex.rank [] (sessionInfoLocks name) := by
  unfold sessionInfoLocks
  split
  · exact balanced_section (none_held _)
  · exact balanced_nil

/-- Every function takes its locks in the order of the hierarchy. -/
theorem RegistryCall.locks_ordered (c : RegistryCall) : Ordered WsMutex.rank [] c.locks := by
  refine Balanced.ordered ?_
  cases c with
  | lookup fd => exact lookupLocks_balanced fd
  | remove fd found => exact removeLocks_balanced fd found
  | broadcast active => exact broadcastLocks_balanced active
  | heartbeat active => exact heartbeatLocks_balanced active
  | reaper dead => exact reaperLocks_balanced dead
  | addToTopic fd appId topic found => exact addToTopicLocks_balanced fd appId topic found
  | publish appId topic found => exact publishLocks_balanced appId topic found
  | setUserId fd userId found => exact setUserIdLocks_balanced fd userId found
  | getSessionInfo name => exact sessionInfoLocks_balanced name

/-! ## Threads -/

/-- A thread calls a function, if it is in none, or comes to its next lock operation. -/
inductive RegistryThreadEvent where
  | call (tid : Nat) (c : RegistryCall)
  | advance (tid : Nat)

/-- What the event is for the locks. -/
def RegistryThreadEvent.lockEvent : RegistryThreadEvent → LockEvent WsMutex Nat
  | .call tid c => .enter tid c.locks
  | .advance tid => .advance tid

/-- One event. -/
def lockStep (s : LockState WsMutex Nat) (e : RegistryThreadEvent) : LockState WsMutex Nat :=
  s.step e.lockEvent

theorem lockStep_ranked (events : List RegistryThreadEvent) :
    (runSteps lockStep .init events).Ranked WsMutex.rank := by
  refine runSteps_induction LockState.init_ranked fun e _ s hs => hs.step ?_
  cases e with
  | call tid c => exact c.locks_ordered
  | advance tid => trivial

/-- **No deadlock in the registry**: whatever any number of threads call, in any order of their
lock operations, no set of threads waits for locks held within the set. -/
theorem registry_not_deadlocked (events : List RegistryThreadEvent) (threads : Set Nat) :
    ¬ (runSteps lockStep .init events).Deadlocked threads :=
  (lockStep_ranked events).not_deadlocked rank_lt threads

/-- As long as a thread waits for a lock of the registry, another can go on. -/
theorem registry_thread_runs (events : List RegistryThreadEvent) {tid : Nat} {m : WsMutex}
    (hwaits : (runSteps lockStep .init events).Waits tid m) :
    ∃ other, (runSteps lockStep .init events).rest other ≠ [] ∧
      ∀ m, ¬ (runSteps lockStep .init events).Waits other m :=
  (lockStep_ranked events).exists_runs rank_lt hwaits

end Halmos.WebSocket
