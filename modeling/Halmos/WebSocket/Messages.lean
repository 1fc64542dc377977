import Halmos.WebSocket.Subscriptions
import Halmos.WebSocket.UserNames

set_option autoImplicit false

/-! # The messages of the clients

`ws_system_on_message` acts on a JSON message by the type in its header: it names a client,
passes a message on to another client or to all of them, publishes a message or subscribes its
sender. What `json-c` makes of the bytes is a parameter. A subscription is made for the application
of the message, and a message is published for the application `GLOBAL`, whatever the application
it carries. So a subscriber is sent a published message exactly once if and only if a subscription
of his is in the bucket of the topic under `GLOBAL`, and the frames for the clients in that bucket
stay in their arrays (`published_once_iff`).
-/

namespace Halmos.WebSocket

/-- What is looked up in the `header` of a message: its `type`, `dst` and `app_id`, as
`json_object_get_string` returns them. -/
structure WsHeader where
  action : Option (List UInt8)
  dst : Option (List UInt8)
  appId : Option (List UInt8)
  deriving DecidableEq, Repr

/-- What is looked up in a parsed message. -/
structure WsMessage where
  header : Option WsHeader
  payload : Option (List UInt8)
  deriving DecidableEq, Repr

/-- `ws_action_ipc_t`. -/
inductive WsActionIpc where
  | actUnknown
  | actAuth
  | actPrivate
  | actBroadcast
  | actGroup
  | actPub
  | actSub
  | actReq
  deriving DecidableEq, Repr

/-- `get_action_code(s)`. -/
def getActionCode (s : List UInt8) : WsActionIpc :=
  if s = ascii "AUTH" then .actAuth
  else if s = ascii "PRIVATE" then .actPrivate
  else if s = ascii "BROADCAST" then .actBroadcast
  else if s = ascii "GROUP" then .actGroup
  else if s = ascii "PUB" then .actPub
  else if s = ascii "SUB" then .actSub
  else if s = ascii "REQ" then .actReq
  else .actUnknown

/-- `app_id`, with its default. -/
def WsHeader.app (h : WsHeader) : List UInt8 := h.appId.getD (ascii "GLOBAL")

/-- What handling a message sends. -/
inductive WsSend where
  | text (fd : Int) (ssl : Bool) (text : List UInt8)
  | textH2 (fd : Int) (streamId : Nat) (text : List UInt8)
  | broadcast (clients : List Addr) (frame : List UInt8)
  | publish (clients : List Addr)
  deriving DecidableEq, Repr

/-- The clients a published message is sent to. -/
def WsSend.published : WsSend → List Addr
  | .publish clients => clients
  | _ => []

/-- The arrays on the stacks of `ws_registry_send_text` and `ws_registry_broadcast`. -/
structure WsStack where
  frame : Buffer 4096
  broadcastFrame : Buffer 65535

namespace HalmosWSRegistry

/-- `ws_registry_get_user_id(fd)`. -/
def wsRegistryGetUserId (s : HalmosWSRegistry) (fd : Int) : Option (Option (List UInt8)) :=
  match s.findByFd fd with
  | none => some none
  | some a => (s.heap a).map fun c => if c.isActive then some c.userId else none

/-- `ws_registry_get_h2_status(fd, ..)`. -/
def wsRegistryGetH2Status (s : HalmosWSRegistry) (fd : Int) : Option (Bool × Nat) :=
  match s.findByFd fd with
  | none => some (false, 0)
  | some a => (s.heap a).map fun c => if c.isActive then (c.isHttp2, c.streamId) else (false, 0)

/-- The loop of `ws_registry_broadcast`: the active clients. With no other thread at work each of
them is locked at the first attempt. -/
def activeIn (heap : Addr → Option HalmosWSClient) : List (Option Addr) → Option (List Addr)
  | [] => some []
  | none :: slots => activeIn heap slots
  | some a :: slots =>
      match heap a with
      | none => none
      | some c => do
          let rest ← activeIn heap slots
          some (if c.isActive then a :: rest else rest)

/-- The `switch` of `ws_system_on_message`. -/
def onAction (s : HalmosWSRegistry) (stack : WsStack) (sockClient : Int) (data : List UInt8)
    (m : WsMessage) (target appId : List UInt8) :
    WsActionIpc → Option (HalmosWSRegistry × List WsSend)
  | .actAuth =>
      match m.payload with
      | none => some (s, [])
      | some userId => do
          let s ← s.wsRegistrySetUserId sockClient userId
          some (s, [])
  | .actPrivate => do
      let _ ← s.wsRegistryGetUserId sockClient
      match ← s.wsRegistryGetSessionInfo target with
      | none => some (s, [])
      | some c => do
          let (isTargetH2, targetStreamId) ← s.wsRegistryGetH2Status c.fd
          if isTargetH2 then some (s, [.textH2 c.fd targetStreamId (cstr data)])
          else some (s, [.text c.fd c.ssl data])
  | .actBroadcast => do
      let frame ← wsRegistryBroadcast stack.broadcastFrame (cstr data)
      let clients ← activeIn s.heap s.clients
      some (s, [.broadcast clients frame])
  | .actPub => do
      let clients ← s.wsRegistryPublishMessage stack.frame (ascii "GLOBAL") target (cstr data)
      some (s, [.publish clients])
  | .actSub => do
      let s ← s.wsRegistryAddToTopic sockClient appId target
      some (s, [])
  | .actUnknown | .actGroup | .actReq => some (s, [])

/-- `ws_system_on_message(sock_client, stream_id, data, len)`, with `parse` for
`json_tokener_parse_ex` and the lookups in what it returns. -/
def wsSystemOnMessage (parse : List UInt8 → Option WsMessage) (s : HalmosWSRegistry)
    (stack : WsStack) (sockClient : Int) (data : List UInt8) :
    Option (HalmosWSRegistry × List WsSend) :=
  if data.length = 0 then some (s, [])
  else
    match parse data with
    | none => some (s, [])
    | some m =>
        match m.header with
        | none => some (s, [])
        | some h =>
            match h.action, h.dst with
            | some action, some target =>
                s.onAction stack sockClient data m target h.app (getActionCode action)
            | _, _ => some (s, [])

/-- The message, its type, `dst` and application, if the header has the first two. -/
def requestOf (parse : List UInt8 → Option WsMessage) (data : List UInt8) :
    Option (WsMessage × List UInt8 × List UInt8 × List UInt8) :=
  if data.length = 0 then none
  else do
    let m ← parse data
    let h ← m.header
    let action ← h.action
    let target ← h.dst
    some (m, action, target, h.app)

variable {parse : List UInt8 → Option WsMessage} {s : HalmosWSRegistry} {stack : WsStack}
  {sockClient : Int} {data : List UInt8}

theorem wsSystemOnMessage_none (h : requestOf parse data = none) :
    s.wsSystemOnMessage parse stack sockClient data = some (s, []) := by
  unfold wsSystemOnMessage
  unfold requestOf at h
  split
  · rfl
  · next hne =>
      rw [if_neg hne] at h
      split
      · rfl
      · next m hm =>
          rw [hm] at h
          split
          · rfl
          · next hd hhd =>
              simp only [Option.bind_eq_bind, Option.bind_some, hhd] at h
              split
              · next action target haction htarget =>
                  rw [haction, htarget] at h
                  cases h
              · rfl

theorem wsSystemOnMessage_some {m : WsMessage} {action target app : List UInt8}
    (h : requestOf parse data = some (m, action, target, app)) :
    s.wsSystemOnMessage parse stack sockClient data
      = s.onAction stack sockClient data m target app (getActionCode action) := by
  unfold requestOf at h
  split at h
  · cases h
  · next hne =>
      obtain ⟨m', hm, h⟩ := Option.bind_eq_some_iff.mp h
      obtain ⟨hd, hhd, h⟩ := Option.bind_eq_some_iff.mp h
      obtain ⟨action', haction, h⟩ := Option.bind_eq_some_iff.mp h
      obtain ⟨target', htarget, h⟩ := Option.bind_eq_some_iff.mp h
      obtain ⟨rfl, rfl, rfl, rfl⟩ : m' = m ∧ action' = action ∧ target' = target ∧ hd.app = app := by
        simpa using h
      simp only [wsSystemOnMessage, if_neg hne, hm, hhd, haction, htarget]

/-- The operation a message leads to, of those that change the registry. -/
def messageOp (parse : List UInt8 → Option WsMessage) (sockClient : Int) (data : List UInt8) :
    Option RegistryOp := do
  let (m, action, target, app) ← requestOf parse data
  match getActionCode action with
  | .actAuth => m.payload.map (RegistryOp.setUserId sockClient)
  | .actSub => some (.addToTopic sockClient app target)
  | _ => none

/-- Messages neither register clients nor remove any. -/
theorem messageOp_tidy {op : RegistryOp} (h : messageOp parse sockClient data = some op) :
    s.AllocFresh op ∧ s.Leavable op := by
  obtain ⟨⟨m, action, target, app⟩, -, h⟩ := Option.bind_eq_some_iff.mp h
  dsimp only at h
  split at h
  · obtain ⟨userId, -, rfl⟩ := Option.map_eq_some_iff.mp h
    exact ⟨trivial, trivial⟩
  · obtain rfl := Option.some.inj h
    exact ⟨trivial, trivial⟩
  · cases h

theorem messageOp_onClient {op : RegistryOp} (h : messageOp parse sockClient data = some op) :
    OnClient op := by
  obtain ⟨⟨m, action, target, app⟩, -, h⟩ := Option.bind_eq_some_iff.mp h
  dsimp only at h
  split at h
  · obtain ⟨userId, -, rfl⟩ := Option.map_eq_some_iff.mp h
    trivial
  · obtain rfl := Option.some.inj h
    trivial
  · cases h

/-- Handling a message does the operation it leads to, and nothing else to the registry. -/
theorem wsSystemOnMessage_registry {r : HalmosWSRegistry × List WsSend}
    (h : s.wsSystemOnMessage parse stack sockClient data = some r) :
    ((messageOp parse sockClient data).elim (some s) s.apply) = some r.1 := by
  unfold messageOp
  cases hreq : requestOf parse data with
  | none =>
      rw [wsSystemOnMessage_none hreq] at h
      obtain rfl := Option.some.inj h
      rfl
  | some req =>
      obtain ⟨m, action, target, app⟩ := req
      rw [wsSystemOnMessage_some hreq] at h
      simp only [Option.bind_eq_bind, Option.bind_some]
      cases hcode : getActionCode action with
      | actAuth =>
          simp only [hcode, onAction] at h ⊢
          cases hpayload : m.payload with
          | none =>
              rw [hpayload] at h
              obtain rfl := Option.some.inj h
              rfl
          | some userId =>
              rw [hpayload] at h
              obtain ⟨s', hs', h⟩ := Option.bind_eq_some_iff.mp h
              obtain rfl := Option.some.inj h
              exact hs'
      | actSub =>
          simp only [hcode, onAction] at h ⊢
          obtain ⟨s', hs', h⟩ := Option.bind_eq_some_iff.mp h
          obtain rfl := Option.some.inj h
          exact hs'
      | actPrivate =>
          simp only [hcode, onAction] at h ⊢
          obtain ⟨_, -, h⟩ := Option.bind_eq_some_iff.mp h
          obtain ⟨found, -, h⟩ := Option.bind_eq_some_iff.mp h
          cases found with
          | none =>
              obtain rfl := Option.some.inj h
              rfl
          | some c =>
              obtain ⟨⟨isTargetH2, streamId⟩, -, h⟩ := Option.bind_eq_some_iff.mp h
              dsimp only at h
              split at h
              · obtain rfl := Option.some.inj h
                rfl
              · obtain rfl := Option.some.inj h
                rfl
      | actBroadcast =>
          simp only [hcode, onAction] at h ⊢
          obtain ⟨_, -, h⟩ := Option.bind_eq_some_iff.mp h
          obtain ⟨_, -, h⟩ := Option.bind_eq_some_iff.mp h
          obtain rfl := Option.some.inj h
          rfl
      | actPub =>
          simp only [hcode, onAction] at h ⊢
          obtain ⟨_, -, h⟩ := Option.bind_eq_some_iff.mp h
          obtain rfl := Option.some.inj h
          rfl
      | actUnknown =>
          obtain rfl := Option.some.inj (hcode ▸ h)
          rfl
      | actGroup =>
          obtain rfl := Option.some.inj (hcode ▸ h)
          rfl
      | actReq =>
          obtain rfl := Option.some.inj (hcode ▸ h)
          rfl

end HalmosWSRegistry

/-! ## Runs -/

/-- An operation on the registry, or a message and what is on the stack. -/
inductive WsEvent where
  | op (op : RegistryOp)
  | message (sockClient : Int) (data : List UInt8) (stack : WsStack)

namespace SubscribedRegistry

open HalmosWSRegistry

/-- One event. -/
def onEvent (parse : List UInt8 → Option WsMessage) (r : SubscribedRegistry) :
    WsEvent → SubscribedRegistry
  | .op op => r.step op
  | .message sockClient data stack =>
      { registry := do
          let s ← r.registry
          let (s, _) ← s.wsSystemOnMessage parse stack sockClient data
          some s
        pairs := (messageOp parse sockClient data).elim r.pairs fun op => (r.step op).pairs }

/-- The operations on the registry are `Tidy`. -/
def TidyEvent (r : SubscribedRegistry) : WsEvent → Prop
  | .op op => r.Tidy op
  | .message _ _ _ => True

/-- As long as no freed memory is touched, the chains hold the clients that have subscribed. -/
def SubscribedIn (r : SubscribedRegistry) : Prop :=
  ∀ s, r.registry = some s → s.Subscribed r.pairs

theorem SubscribedIn.step {r : SubscribedRegistry} {op : RegistryOp} (hr : r.SubscribedIn)
    (htidy : r.Tidy op) : (r.step op).SubscribedIn := by
  obtain ⟨registry, pairs⟩ := r
  cases registry with
  | none => exact fun s hs => nomatch hs
  | some s =>
      obtain ⟨s', hs', hkeep⟩ := Right.step ⟨s, rfl, hr s rfl⟩ htidy
      intro s'' hs''
      obtain rfl := Option.some.inj (hs'.symm.trans hs'')
      exact hkeep

theorem SubscribedIn.onEvent {parse : List UInt8 → Option WsMessage} {r : SubscribedRegistry}
    {e : WsEvent} (hr : r.SubscribedIn) (htidy : r.TidyEvent e) :
    (r.onEvent parse e).SubscribedIn := by
  cases e with
  | op op => exact hr.step htidy
  | message sockClient data stack =>
      obtain ⟨registry, pairs⟩ := r
      intro s' hs'
      obtain ⟨s, rfl, hs'⟩ := Option.bind_eq_some_iff.mp hs'
      obtain ⟨⟨s₁, sends⟩, hmessage, hs'⟩ := Option.bind_eq_some_iff.mp hs'
      obtain rfl : s₁ = s' := Option.some.inj hs'
      have hregistry := wsSystemOnMessage_registry hmessage
      cases hop : messageOp parse sockClient data with
      | none =>
          rw [hop] at hregistry
          obtain rfl := Option.some.inj hregistry
          simp only [SubscribedRegistry.onEvent, hop]
          exact hr s rfl
      | some op =>
          rw [hop] at hregistry
          have htidyOp : Tidy ⟨some s, pairs⟩ op := by
            rintro s₂ ⟨⟩
            exact messageOp_tidy hop
          simp only [SubscribedRegistry.onEvent, hop]
          exact hr.step htidyOp s₁ hregistry

end SubscribedRegistry

open HalmosWSRegistry SubscribedRegistry in
/-- **Who is sent a published message exactly once.** After any run, a message of type `PUB` is
sent exactly once to each client that has sent `SUB` with its application and topic, if and only
if each of them has a subscription in the bucket of the topic under `GLOBAL`, a frame is built for
it, and the frames for all the clients in that bucket stay in their array. -/
theorem published_once_iff (parse : List UInt8 → Option WsMessage) (events : List WsEvent)
    (h : GuardedRun TidyEvent (onEvent parse) .init events) (s : HalmosWSRegistry)
    (hs : (runSteps (onEvent parse) .init events).registry = some s) (stack : WsStack)
    (sockClient : Int) (data : List UInt8) (m : WsMessage) (action dst app : List UInt8)
    (hreq : requestOf parse data = some (m, action, dst, app))
    (haction : getActionCode action = .actPub) :
    let pairs := (runSteps (onEvent parse) .init events).pairs
    let InBucket := fun a =>
      ∃ pair ∈ pairs a, bucketIdx pair = hashTopic (publishKey (ascii "GLOBAL") dst)
    (∀ a c, s.heap a = some c → (app, dst) ∈ pairs a →
      ∃ r, s.wsSystemOnMessage parse stack sockClient data = some r ∧
        (r.2.flatMap WsSend.published).count a = 1) ↔
    ∀ a c, s.heap a = some c → (app, dst) ∈ pairs a →
      InBucket a ∧ c.takes (cstr data) = true ∧
        ∀ b d, s.heap b = some d → InBucket b → d.FrameFits (cstr data) := by
  intro pairs InBucket
  have hsub : s.Subscribed pairs :=
    GuardedRun.invariant (fun _ _ => SubscribedIn.onEvent) (fun s hs => by
      obtain rfl := Option.some.inj hs
      exact init_subscribed) h s hs
  have hcall : s.wsSystemOnMessage parse stack sockClient data = (do
      let clients ← s.wsRegistryPublishMessage stack.frame (ascii "GLOBAL") dst (cstr data)
      some (s, [.publish clients])) := by
    rw [wsSystemOnMessage_some hreq, haction]
    rfl
  refine forall₂_congr fun a c => forall₂_congr fun hc hpair => ?_
  rw [hcall]
  constructor
  · rintro ⟨r, hr, hcount⟩
    obtain ⟨sent, hsent, hr⟩ := Option.bind_eq_some_iff.mp hr
    obtain rfl := Option.some.inj hr
    have hmem : a ∈ sent := by
      rw [← List.one_le_count_iff]
      simpa [WsSend.published] using hcount.ge
    obtain ⟨d, hd, htakes, hin⟩ := (hsub.mem_sent hsent a).mp hmem
    obtain rfl : d = c := Option.some.inj (hd.symm.trans hc)
    exact ⟨hin, htakes, hsub.publish_isSome_iff.mp (Option.isSome_of_eq_some hsent)⟩
  · rintro ⟨hin, htakes, hfits⟩
    obtain ⟨sent, hsent⟩ := Option.isSome_iff_exists.mp (hsub.publish_isSome_iff.mpr hfits)
    refine ⟨(s, [.publish sent]), by rw [hsent]; rfl, ?_⟩
    have hmem : a ∈ sent := (hsub.mem_sent hsent a).mpr ⟨c, hc, htakes, hin⟩
    simpa [WsSend.published] using List.count_eq_one_of_mem (hsub.nodup_sent hsent) hmem

/-- A message with a header only. -/
def headerJson (action appId dst : String) : List UInt8 :=
  ascii "\x7b\"header\":\x7b\"type\":\"" ++ ascii action ++ ascii "\",\"app_id\":\""
    ++ ascii appId ++ ascii "\",\"dst\":\"" ++ ascii dst ++ ascii "\"\x7d\x7d"

/-- The parser, on the messages `SUB` and `PUB` for the topic `room` of `chat` and of `GLOBAL`. -/
def parseRoom (data : List UInt8) : Option WsMessage :=
  [("SUB", "chat"), ("PUB", "chat"), ("SUB", "GLOBAL"), ("PUB", "GLOBAL")].findSome? fun m =>
    if data = headerJson m.1 m.2 "room" then
      some ⟨some ⟨some (ascii m.1), some (ascii "room"), some (ascii m.2)⟩, none⟩
    else none

/-- The client on descriptor 5 subscribes to the room of `chat`, and the one on descriptor 6 to
that of `GLOBAL`. -/
def roomEvents : List WsEvent :=
  let stack : WsStack := ⟨.zeros 4096, .zeros 65535⟩
  [.op (.add 5 false 100 (some 0)), .op (.add 6 false 100 (some 1)),
    .message 5 (headerJson "SUB" "chat" "room") stack,
    .message 6 (headerJson "SUB" "GLOBAL" "room") stack]

open HalmosWSRegistry SubscribedRegistry in
theorem roomEvents_tidy : GuardedRun TidyEvent (onEvent parseRoom) .init roomEvents := by
  refine ⟨?_, ?_, trivial, trivial, trivial⟩
  all_goals
    intro s hs
    obtain rfl := Option.some.inj hs
    exact ⟨rfl, trivial⟩

open HalmosWSRegistry SubscribedRegistry in
/-- A message to the room of `GLOBAL`, from another client. -/
theorem published_once_global :
    let stack : WsStack := ⟨.zeros 4096, .zeros 65535⟩
    let after := runSteps (onEvent parseRoom) .init roomEvents
    ∃ s, after.registry = some s ∧ ∀ a c, s.heap a = some c →
      (ascii "GLOBAL", ascii "room") ∈ after.pairs a →
      ∃ r, s.wsSystemOnMessage parseRoom stack 5 (headerJson "PUB" "GLOBAL" "room") = some r ∧
        (r.2.flatMap WsSend.published).count a = 1 := by
  intro stack after
  have hrun : after.registry.isSome = true := by decide +kernel
  obtain ⟨s, hs⟩ := Option.isSome_iff_exists.mp hrun
  have hreq : requestOf parseRoom (headerJson "PUB" "GLOBAL" "room") = some
      (⟨some ⟨some (ascii "PUB"), some (ascii "room"), some (ascii "GLOBAL")⟩, none⟩,
        ascii "PUB", ascii "room", ascii "GLOBAL") := by
    decide +kernel
  have hlen : (cstr (headerJson "PUB" "GLOBAL" "room")).length ≤ 4092 := by decide +kernel
  refine ⟨s, hs, (published_once_iff parseRoom roomEvents roomEvents_tidy s hs stack 5 _ _ _ _ _
    hreq (by decide)).mpr fun a c _ hpair => ⟨⟨_, hpair, by decide +kernel⟩, ?_, ?_⟩⟩
  · have hle : (cstr (headerJson "PUB" "GLOBAL" "room")).length ≤ 65535 := by omega
    simp [HalmosWSClient.takes, hle]
  · exact fun b d _ _ => .inr (.inl hlen)

open HalmosWSRegistry SubscribedRegistry in
/-- A message to the room of `chat` is not sent to the client that has subscribed to it. -/
theorem application_not_published :
    let after := runSteps (onEvent parseRoom) .init roomEvents
    (ascii "chat", ascii "room") ∈ after.pairs 0 ∧
      after.registry.map (fun s => ((s.heap 0).isSome,
        (s.wsSystemOnMessage parseRoom ⟨.zeros 4096, .zeros 65535⟩ 6
          (headerJson "PUB" "chat" "room")).map fun r => r.2.flatMap WsSend.published))
        = some (true, some [1]) := by
  decide +kernel

end Halmos.WebSocket
