import Halmos.Basic.Runs
import Halmos.WebSocket.Receive

set_option autoImplicit false

/-! # The registry of WebSocket clients

`halmos_ws_registry.c`: the slots `clients[]`, the index `fd_map[]` by descriptor, the chains of
subscribers in 256 topic buckets and the chains of named clients in 256 user buckets. Clients
are records on the heap, and the four tables hold their addresses. Reading or writing a record
that is not on the heap is an access to freed memory: the operation is then `none`. Strings are
C strings, given by the bytes in front of their NUL.

An operation runs to completion, under the locks it takes. What the environment decides (the
clock, the address `calloc` returns, which may be one freed earlier) is part of the operation.
-/

namespace Halmos.WebSocket

/-- `MAX_WS_CLIENTS`. -/
def maxWsClients : Nat := 1024

/-- `HASH_SIZE` and `USER_HASH_SIZE`. -/
def hashSize : Nat := 256

/-- `MAX_TOPICS_PER_USER`. -/
def maxTopicsPerUser : Nat := 16

/-- The address of a `HalmosWSClient`. -/
abbrev Addr := Nat

/-- `HalmosWSClient`. Of `ssl` it matters whether it is null; `topic_count` is the length of
`subscribedTopics`. -/
structure HalmosWSClient where
  fd : Int
  ssl : Bool
  lastSeen : Nat
  isActive : Bool
  isHttp2 : Bool
  streamId : Nat
  sessionId : Nat
  userId : List UInt8
  subscribedTopics : List (List UInt8)
  deriving DecidableEq, Repr

/-- `ws_topic_bucket_t`, with the clients of its chain of `ws_subscriber_t` from the head on. -/
structure WsTopicBucket where
  topicName : List UInt8
  subscribers : List Addr
  deriving DecidableEq, Repr

/-- `HalmosWSRegistry`, the session counter and the heap of clients. A node of a user chain is
given by its client: its `user_id` points into the client's record. -/
structure HalmosWSRegistry where
  clients : List (Option Addr)
  fdMap : Int → Option Addr
  currentCount : Int
  buckets : Nat → Option WsTopicBucket
  userMap : Nat → List Addr
  globalSessionCounter : Nat
  heap : Addr → Option HalmosWSClient

/-- `ws_registry_init()`. -/
def wsRegistryInit : HalmosWSRegistry where
  clients := List.replicate maxWsClients none
  fdMap := fun _ => none
  currentCount := 0
  buckets := fun _ => none
  userMap := fun _ => []
  globalSessionCounter := 1
  heap := fun _ => none

/-- A `char`, which is signed, added to an `unsigned long`. -/
def charValue (b : UInt8) : Nat := if b < 0x80 then b.toNat else 2 ^ 64 - 256 + b.toNat

/-- `hash_topic(str)`. -/
def hashTopic (str : List UInt8) : Nat :=
  str.foldl (fun hash c => (hash * 33 + charValue c) % 2 ^ 64) 5381 % hashSize

/-- `ws_fd_is_valid(fd)`. -/
def wsFdIsValid (fd : Int) : Bool := 0 ≤ fd ∧ fd < maxFds

/-- `snprintf(full_key, 64, "%.30s:%.32s", app_id, topic)`, the key a client subscribes to. -/
def subscribeKey (appId topic : List UInt8) : List UInt8 :=
  (appId.take 30 ++ ascii ":" ++ topic.take 32).take 63

/-- `snprintf(full_key, 128, "%s:%s", app_id, topic)`, the key a message is published to. -/
def publishKey (appId topic : List UInt8) : List UInt8 :=
  (appId ++ ascii ":" ++ topic).take 127

/-- `Catat Metadata di Client`: the topic is recorded if the client's array has room. -/
def HalmosWSClient.record (c : HalmosWSClient) (fullKey : List UInt8) : HalmosWSClient :=
  if c.subscribedTopics.length < maxTopicsPerUser then
    { c with subscribedTopics := c.subscribedTopics ++ [fullKey] }
  else c

namespace HalmosWSRegistry

/-! ## Connections -/

/-- What `ws_registry_add` and `ws_registry_add_h2` have in common: they differ in the protocol
the new client is marked with. They return its slot, or `-1`. -/
def addClient (s : HalmosWSRegistry) (fd : Int) (ssl isHttp2 : Bool) (streamId now : Nat)
    (calloc : Option Addr) : Int × HalmosWSRegistry :=
  if wsFdIsValid fd = false then (-1, s)
  else
    match s.clients.findIdx? (fun c => c = none), calloc with
    | some i, some a =>
        (i, { s with
          clients := s.clients.set i (some a)
          fdMap := Function.update s.fdMap fd (some a)
          currentCount := s.currentCount + 1
          globalSessionCounter := s.globalSessionCounter + 1
          heap := Function.update s.heap a (some {
            fd := fd
            ssl := ssl
            lastSeen := now
            isActive := true
            isHttp2 := isHttp2
            streamId := streamId
            sessionId := (now <<< 32) % 2 ^ 64 ||| s.globalSessionCounter
            userId := []
            subscribedTopics := [] }) })
    | _, _ => (-1, s)

/-- `ws_registry_add(fd, ssl)`. -/
def wsRegistryAdd (s : HalmosWSRegistry) (fd : Int) (ssl : Bool) (now : Nat)
    (calloc : Option Addr) : Int × HalmosWSRegistry :=
  s.addClient fd ssl false 0 now calloc

/-- `ws_registry_add_h2(fd, ssl, stream_id)`. -/
def wsRegistryAddH2 (s : HalmosWSRegistry) (fd : Int) (ssl : Bool) (streamId now : Nat)
    (calloc : Option Addr) : Int × HalmosWSRegistry :=
  s.addClient fd ssl true streamId now calloc

/-- `ws_registry_find_by_fd_unlocked(fd)`. -/
def findByFd (s : HalmosWSRegistry) (fd : Int) : Option Addr :=
  if wsFdIsValid fd then s.fdMap fd else none

/-- The first node of the client in its user chain is unlinked, if the client has a name. -/
def unlinkUser (s : HalmosWSRegistry) (a : Addr) (userId : List UInt8) : HalmosWSRegistry :=
  if 0 < userId.length then
    let idx := hashTopic userId
    { s with userMap := Function.update s.userMap idx ((s.userMap idx).erase a) }
  else s

/-- The first node of the client in the bucket of the topic is unlinked. -/
def unlinkTopic (a : Addr) (buckets : Nat → Option WsTopicBucket) (topic : List UInt8) :
    Nat → Option WsTopicBucket :=
  let idx := hashTopic topic
  match buckets idx with
  | none => buckets
  | some b =>
      Function.update buckets idx (some { b with subscribers := b.subscribers.erase a })

/-- The first slot with the client is emptied. -/
def clearSlot (clients : List (Option Addr)) (a : Addr) : List (Option Addr) :=
  match clients.findIdx? (fun c => c = some a) with
  | some i => clients.set i none
  | none => clients

/-- `ws_registry_remove(fd)`. -/
def wsRegistryRemove (s : HalmosWSRegistry) (fd : Int) : Option HalmosWSRegistry :=
  match s.findByFd fd with
  | none => some s
  | some a =>
      match s.heap a with
      | none => none
      | some c =>
          let s := s.unlinkUser a c.userId
          some { s with
            buckets := c.subscribedTopics.foldl (unlinkTopic a) s.buckets
            clients := clearSlot s.clients a
            fdMap := Function.update s.fdMap fd none
            currentCount := s.currentCount - 1
            heap := Function.update s.heap a none }

/-! ## Maintenance -/

/-- `ws_registry_update_activity(fd)`. -/
def wsRegistryUpdateActivity (s : HalmosWSRegistry) (fd : Int) (now : Nat) :
    Option HalmosWSRegistry :=
  match s.findByFd fd with
  | none => some s
  | some a =>
      match s.heap a with
      | none => none
      | some c => some { s with heap := Function.update s.heap a (some { c with lastSeen := now }) }

/-- The first loop of `ws_registry_reaper`: the descriptors of the clients not seen for more
than 90 seconds. -/
def deadFds (heap : Addr → Option HalmosWSClient) (now : Nat) :
    List (Option Addr) → Option (List Int)
  | [] => some []
  | none :: slots => deadFds heap now slots
  | some a :: slots =>
      match heap a with
      | none => none
      | some c => do
          let dead ← deadFds heap now slots
          some (if c.isActive ∧ c.lastSeen + 90 < now then c.fd :: dead else dead)

/-- The second loop: every one of them is removed. -/
def removeAll (s : HalmosWSRegistry) : List Int → Option HalmosWSRegistry
  | [] => some s
  | fd :: fds => do
      let s ← s.wsRegistryRemove fd
      removeAll s fds

/-- `ws_registry_reaper()`. -/
def wsRegistryReaper (s : HalmosWSRegistry) (now : Nat) : Option HalmosWSRegistry := do
  let dead ← deadFds s.heap now s.clients
  s.removeAll dead

/-! ## Topics and names -/

/-- The bucket of the key, made if there is none. -/
def bucketOf (s : HalmosWSRegistry) (fullKey : List UInt8) : WsTopicBucket :=
  (s.buckets (hashTopic fullKey)).getD ⟨fullKey, []⟩

/-- `ws_registry_add_to_topic(fd, app_id, topic)`. -/
def wsRegistryAddToTopic (s : HalmosWSRegistry) (fd : Int) (appId topic : List UInt8) :
    Option HalmosWSRegistry :=
  let fullKey := subscribeKey appId topic
  let idx := hashTopic fullKey
  match s.findByFd fd with
  | none => some s
  | some a =>
      match s.heap a with
      | none => none
      | some c =>
          if c.isActive = false then some s
          else
            let b := s.bucketOf fullKey
            if a ∈ b.subscribers then
              some { s with buckets := Function.update s.buckets idx (some b) }
            else
              some { s with
                buckets := Function.update s.buckets idx
                  (some { b with subscribers := a :: b.subscribers })
                heap := Function.update s.heap a (some (c.record fullKey)) }

/-- The walk of `ws_registry_publish` along a chain: the clients the message is sent to. -/
def publishTo (heap : Addr → Option HalmosWSClient) : List Addr → Option (List HalmosWSClient)
  | [] => some []
  | a :: rest =>
      match heap a with
      | none => none
      | some c => do
          let sent ← publishTo heap rest
          some (if c.isActive then c :: sent else sent)

/-- `ws_registry_publish(app_id, topic, message)`. -/
def wsRegistryPublish (s : HalmosWSRegistry) (appId topic : List UInt8) :
    Option (List HalmosWSClient) :=
  match s.buckets (hashTopic (publishKey appId topic)) with
  | none => some []
  | some b => publishTo s.heap b.subscribers

/-- `ws_registry_set_user_id(fd, user_id)`. -/
def wsRegistrySetUserId (s : HalmosWSRegistry) (fd : Int) (userId : List UInt8) :
    Option HalmosWSRegistry :=
  if userId.length = 0 then some s
  else
    match s.findByFd fd with
    | none => some s
    | some a =>
        match s.heap a with
        | none => none
        | some c =>
            if c.isActive = false then some s
            else
              let s := s.unlinkUser a c.userId
              let idx := hashTopic userId
              some { s with
                heap := Function.update s.heap a (some { c with userId := userId.take 63 })
                userMap := Function.update s.userMap idx (a :: s.userMap idx) }

end HalmosWSRegistry

/-! ## Runs -/

/-- The operations that change the registry. -/
inductive RegistryOp where
  | add (fd : Int) (ssl : Bool) (now : Nat) (calloc : Option Addr)
  | addH2 (fd : Int) (ssl : Bool) (streamId now : Nat) (calloc : Option Addr)
  | remove (fd : Int)
  | updateActivity (fd : Int) (now : Nat)
  | reaper (now : Nat)
  | addToTopic (fd : Int) (appId topic : List UInt8)
  | setUserId (fd : Int) (userId : List UInt8)
  deriving DecidableEq, Repr

namespace HalmosWSRegistry

/-- One operation. -/
def apply (s : HalmosWSRegistry) : RegistryOp → Option HalmosWSRegistry
  | .add fd ssl now calloc => some (s.wsRegistryAdd fd ssl now calloc).2
  | .addH2 fd ssl streamId now calloc => some (s.wsRegistryAddH2 fd ssl streamId now calloc).2
  | .remove fd => s.wsRegistryRemove fd
  | .updateActivity fd now => s.wsRegistryUpdateActivity fd now
  | .reaper now => s.wsRegistryReaper now
  | .addToTopic fd appId topic => s.wsRegistryAddToTopic fd appId topic
  | .setUserId fd userId => s.wsRegistrySetUserId fd userId

end HalmosWSRegistry

end Halmos.WebSocket
