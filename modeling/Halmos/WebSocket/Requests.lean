import Halmos.WebSocket.Ipc

set_option autoImplicit false

/-! # What the backends ask for

`ws_system_internal_dispatch` names the client of a descriptor, or, if the source of the text says
that it comes from inside, broadcasts the text or sends it to the client of a name. What `json-c`
makes of the text is a parameter. The client is looked up by its name and sent to by its descriptor;
in between its session is compared with that of the client its descriptor leads to, and sessions
are told apart by a counter.

In every run of the operations of the registry, the messages of the clients and the requests of the
backends, a text for a name reaches one client that was given that name last, or nobody if there is
none or if another client has been registered on its descriptor since (`requests_run`). The same
text from a client takes a path that skips the comparison and minds HTTP/2
(`requests_private_iff`).
-/

namespace Halmos.WebSocket

/-- What is looked up in the `header` of a request: its `type`, `target_fd`, `user_id`, `dst` and
`src`, as `json-c` returns them. -/
structure InternalHeader where
  action : Option (List UInt8)
  targetFd : Option Int
  userId : Option (List UInt8)
  dst : Option (List UInt8)
  src : Option (List UInt8)
  deriving DecidableEq, Repr

/-- `INTERNAL_PREFIX`. -/
def internalPrefix : List UInt8 := ascii "HALMOS_"

/-- The type of a request that names a client. -/
def InternalHeader.SetsIdentity (h : InternalHeader) : Prop :=
  h.action.getD [] = ascii "SET_IDENTITY"

instance (h : InternalHeader) : Decidable h.SetsIdentity :=
  inferInstanceAs (Decidable (h.action.getD [] = ascii "SET_IDENTITY"))

/-- The source says that the request comes from inside. -/
def InternalHeader.internal (h : InternalHeader) : Bool :=
  h.src.any (fun source => internalPrefix.isPrefixOf source)

namespace HalmosWSRegistry

/-- `ws_registry_validate_session(fd, session_id)`. -/
def wsRegistryValidateSession (s : HalmosWSRegistry) (fd : Int) (sessionId : Nat) : Option Bool :=
  match s.findByFd fd with
  | none => some false
  | some a => (s.heap a).map fun c => decide (c.sessionId = sessionId ∧ c.isActive = true)

/-- `ws_system_internal_dispatch(json_raw)`, with `parse` for `json_tokener_parse_ex` and the
lookups in what it returns: no object, or no header in it, or one. -/
def wsSystemInternalDispatch (parse : List UInt8 → Option (Option InternalHeader))
    (s : HalmosWSRegistry) (broadcastFrame : Buffer 65535) (jsonRaw : List UInt8) :
    Option (HalmosWSRegistry × List WsSend) :=
  match parse jsonRaw with
  | some (some h) =>
      if h.SetsIdentity then
        match h.targetFd, h.userId with
        | some targetFd, some userId => do
            let s ← s.wsRegistrySetUserId targetFd userId
            some (s, [])
        | _, _ => some (s, [])
      else
        match h.dst with
        | some target =>
            if h.internal = true then
              if target = ascii "BROADCAST" then do
                let frame ← wsRegistryBroadcast broadcastFrame jsonRaw
                let clients ← activeIn s.heap s.clients
                some (s, [.broadcast clients frame])
              else do
                match ← s.wsRegistryGetSessionInfo target with
                | none => some (s, [])
                | some c => do
                    let valid ← s.wsRegistryValidateSession c.fd c.sessionId
                    some (s, if valid = true then [.text c.fd c.ssl jsonRaw] else [])
            else some (s, [])
        | none => some (s, [])
  | _ => some (s, [])

/-- The operation a request leads to, if it changes the registry. -/
def requestOp (parse : List UInt8 → Option (Option InternalHeader)) (jsonRaw : List UInt8) :
    Option RegistryOp :=
  match parse jsonRaw with
  | some (some h) =>
      if h.SetsIdentity then
        match h.targetFd, h.userId with
        | some targetFd, some userId => some (.setUserId targetFd userId)
        | _, _ => none
      else none
  | _ => none

variable {parse : List UInt8 → Option (Option InternalHeader)} {s : HalmosWSRegistry}
  {broadcastFrame : Buffer 65535} {jsonRaw : List UInt8}

/-- A request does the operation it leads to, and nothing else to the registry. -/
theorem wsSystemInternalDispatch_registry {r : HalmosWSRegistry × List WsSend}
    (h : s.wsSystemInternalDispatch parse broadcastFrame jsonRaw = some r) :
    ((requestOp parse jsonRaw).elim (some s) s.apply) = some r.1 := by
  unfold requestOp
  unfold wsSystemInternalDispatch at h
  split at h
  · next hd _ =>
      split at h
      · next hid =>
          rw [if_pos hid]
          split at h
          · next targetFd userId _ _ =>
              obtain ⟨s', hs', h⟩ := Option.bind_eq_some_iff.mp h
              obtain rfl := Option.some.inj h
              exact hs'
          · obtain rfl := Option.some.inj h
            rfl
      · next hid =>
          rw [if_neg hid]
          split at h
          · split at h
            · split at h
              · obtain ⟨_, -, h⟩ := Option.bind_eq_some_iff.mp h
                obtain ⟨_, -, h⟩ := Option.bind_eq_some_iff.mp h
                obtain rfl := Option.some.inj h
                rfl
              · obtain ⟨found, -, h⟩ := Option.bind_eq_some_iff.mp h
                cases found with
                | none =>
                    obtain rfl := Option.some.inj h
                    rfl
                | some c =>
                    obtain ⟨_, -, h⟩ := Option.bind_eq_some_iff.mp h
                    obtain rfl := Option.some.inj h
                    rfl
            · obtain rfl := Option.some.inj h
              rfl
          · obtain rfl := Option.some.inj h
            rfl
  · obtain rfl := Option.some.inj h
    rfl

/-! ## Sessions -/

/-- The session of a new client, from the time and the counter. -/
theorem session_mod {n : Nat} (h : n < 2 ^ 32) (now : Nat) :
    ((now <<< 32) % 2 ^ 64 ||| n) % 2 ^ 32 = n := by
  have hhigh : (now <<< 32) % 2 ^ 64 % 2 ^ 32 = 0 := by
    rw [Nat.mod_mod_of_dvd _ (Nat.pow_dvd_pow 2 (by decide)), Nat.shiftLeft_eq, Nat.mul_mod_left]
  rw [Nat.or_mod_two_pow, hhigh, Nat.zero_or, Nat.mod_eq_of_lt h]

/-- No two clients have one session, as long as the counter stays within its 32 bits. -/
structure Sessions (s : HalmosWSRegistry) : Prop where
  counter : s.globalSessionCounter ≤ 2 ^ 32
  low : ∀ a c, s.heap a = some c → c.sessionId % 2 ^ 32 < s.globalSessionCounter
  distinct : ∀ a b c d, s.heap a = some c → s.heap b = some d → c.sessionId = d.sessionId → a = b

/-- A client is registered while the counter has a number for it. -/
def SessionRoom (s : HalmosWSRegistry) : RegistryOp → Prop
  | .add _ _ _ _ => s.globalSessionCounter < 2 ^ 32
  | .addH2 _ _ _ _ _ => s.globalSessionCounter < 2 ^ 32
  | _ => True

theorem init_sessions : wsRegistryInit.Sessions where
  counter := by decide
  low _ _ h := by cases h
  distinct _ _ _ _ h := by cases h

/-- What gives no client another session keeps the sessions apart. -/
theorem Sessions.of_frame (h : s.Sessions) {s' : HalmosWSRegistry}
    (hcounter : s'.globalSessionCounter = s.globalSessionCounter)
    (hheap : ∀ a c', s'.heap a = some c' →
      ∃ c, s.heap a = some c ∧ c'.sessionId = c.sessionId) : s'.Sessions where
  counter := by
    rw [hcounter]
    exact h.counter
  low a c' hc' := by
    obtain ⟨c, hc, hsame⟩ := hheap a c' hc'
    rw [hsame, hcounter]
    exact h.low a c hc
  distinct a b c' d' hc' hd' heq := by
    obtain ⟨c, hc, hsame⟩ := hheap a c' hc'
    obtain ⟨d, hd, hsame'⟩ := hheap b d' hd'
    exact h.distinct a b c d hc hd (by rw [← hsame, heq, hsame'])

theorem Sessions.of_update (h : s.Sessions) {s' : HalmosWSRegistry} {a : Addr}
    {c c' : HalmosWSClient} (hc : s.heap a = some c)
    (hheap : s'.heap = Function.update s.heap a (some c')) (hsame : c'.sessionId = c.sessionId)
    (hcounter : s'.globalSessionCounter = s.globalSessionCounter) : s'.Sessions := by
  refine h.of_frame hcounter fun b d hd => ?_
  rw [hheap] at hd
  rcases update_eq_some_iff.mp hd with ⟨rfl, hnew⟩ | ⟨-, hd⟩
  · obtain rfl := Option.some.inj hnew
    exact ⟨c, hc, hsame⟩
  · exact ⟨d, hd, rfl⟩

@[simp] theorem unlinkUser_globalSessionCounter (a : Addr) (userId : List UInt8) :
    (s.unlinkUser a userId).globalSessionCounter = s.globalSessionCounter := by
  unfold unlinkUser
  split <;> rfl

theorem Sessions.remove (h : s.Sessions) (hi : s.Indexed) (fd : Int) :
    ∃ s', s.wsRegistryRemove fd = some s' ∧ s'.Sessions ∧ s'.Indexed := by
  obtain ⟨s', hs', hi'⟩ := hi.remove fd
  refine ⟨s', hs', ?_, hi'⟩
  cases hfind : s.findByFd fd with
  | none =>
      obtain rfl := Option.some.inj ((remove_none hfind).symm.trans hs')
      exact h
  | some a =>
      obtain ⟨c, hc, -⟩ := hi.findByFd hfind
      obtain rfl := Option.some.inj ((remove_eq hfind hc).symm.trans hs')
      refine h.of_frame (unlinkUser_globalSessionCounter a _) fun b d hd => ?_
      exact ⟨d, (update_none_eq_some_iff.mp hd).2, rfl⟩

theorem Sessions.addClient (h : s.Sessions) (hroom : s.globalSessionCounter < 2 ^ 32) (fd : Int)
    (ssl isHttp2 : Bool) (streamId now : Nat) {calloc : Option Addr}
    (hfresh : ∀ a, calloc = some a → s.heap a = none) :
    (s.addClient fd ssl isHttp2 streamId now calloc).2.Sessions := by
  unfold HalmosWSRegistry.addClient
  split
  · exact h
  · split
    · next i a _ =>
        have hnew := session_mod hroom now
        have hfar {b : Addr} {d : HalmosWSClient} (hd : s.heap b = some d) :
            (now <<< 32) % 2 ^ 64 ||| s.globalSessionCounter ≠ d.sessionId := by
          intro heq
          have hlow := h.low b d hd
          rw [← heq, hnew] at hlow
          exact Nat.lt_irrefl _ hlow
        refine ⟨hroom, fun b d hd => ?_, fun b b' d d' hd hd' heq => ?_⟩
        · rcases update_eq_some_iff.mp hd with ⟨-, heq⟩ | ⟨-, hd⟩
          · obtain rfl := Option.some.inj heq
            show ((now <<< 32) % 2 ^ 64 ||| s.globalSessionCounter) % 2 ^ 32 < _
            rw [hnew]
            exact Nat.lt_succ_self _
          · exact Nat.lt_succ_of_lt (h.low b d hd)
        · rcases update_eq_some_iff.mp hd with ⟨hb, hdnew⟩ | ⟨hb, hd⟩
          · rcases update_eq_some_iff.mp hd' with ⟨hb', -⟩ | ⟨-, hd'⟩
            · exact hb.trans hb'.symm
            · obtain rfl := Option.some.inj hdnew
              exact absurd heq (hfar hd')
          · rcases update_eq_some_iff.mp hd' with ⟨-, hdnew⟩ | ⟨-, hd'⟩
            · obtain rfl := Option.some.inj hdnew
              exact absurd heq.symm (hfar hd)
            · exact h.distinct b b' d d' hd hd' heq
    · exact h

/-- **One operation** keeps the sessions apart. -/
theorem Sessions.apply (h : s.Sessions) (hi : s.Indexed) {op : RegistryOp}
    (hfresh : s.AllocFresh op) (hroom : s.SessionRoom op) {s' : HalmosWSRegistry}
    (hs' : s.apply op = some s') : s'.Sessions := by
  cases op with
  | add fd ssl now calloc =>
      obtain rfl := Option.some.inj hs'
      refine h.addClient hroom fd ssl false 0 now fun a ha => ?_
      subst ha
      exact hfresh
  | addH2 fd ssl streamId now calloc =>
      obtain rfl := Option.some.inj hs'
      refine h.addClient hroom fd ssl true streamId now fun a ha => ?_
      subst ha
      exact hfresh
  | remove fd =>
      obtain ⟨s'', hs'', hkept, -⟩ := h.remove hi fd
      obtain rfl := Option.some.inj (hs''.symm.trans hs')
      exact hkept
  | updateActivity fd now =>
      rcases updateActivity_spec hi fd now with hsame | ⟨a, c, hc, hnew⟩
      · obtain rfl := Option.some.inj (hsame.symm.trans hs')
        exact h
      · obtain rfl := Option.some.inj (hnew.symm.trans hs')
        exact h.of_update hc rfl rfl rfl
  | reaper now =>
      obtain ⟨s'', hs'', hkept, -⟩ := hi.reaper_keeps (P := fun s => s.Sessions ∧ s.Indexed)
        (fun _ hs fd => hs.1.remove hs.2 fd) ⟨h, hi⟩ now
      obtain rfl := Option.some.inj (hs''.symm.trans hs')
      exact hkept
  | addToTopic fd appId topic =>
      rcases addToTopic_spec hi fd appId topic with ⟨-, hsame⟩ | ⟨a, c, -, hc, hnew⟩
      · obtain rfl := Option.some.inj (hsame.symm.trans hs')
        exact h
      · obtain rfl := Option.some.inj (hnew.symm.trans hs')
        dsimp only
        split
        · exact h.of_frame rfl fun b d hd => ⟨d, hd, rfl⟩
        · refine h.of_update hc rfl ?_ rfl
          unfold HalmosWSClient.record
          split <;> rfl
  | setUserId fd userId =>
      rcases setUserId_spec hi fd userId with ⟨-, hsame⟩ | ⟨a, c, -, -, hc, hnew⟩
      · obtain rfl := Option.some.inj (hsame.symm.trans hs')
        exact h
      · obtain rfl := Option.some.inj (hnew.symm.trans hs')
        exact h.of_update hc rfl rfl (unlinkUser_globalSessionCounter a _)

/-! ## A text for a name -/

/-- The descriptor of a client leads to the session of that client exactly if it leads to it. -/
theorem validateSession_eq (h : s.Sessions) (hi : s.Indexed) {a : Addr} {c : HalmosWSClient}
    (hc : s.heap a = some c) :
    s.wsRegistryValidateSession c.fd c.sessionId
      = some (decide (s.fdMap c.fd = some a)) := by
  have hfind : s.findByFd c.fd = s.fdMap c.fd := findByFd_eq (hi.valid a c hc).1
  unfold wsRegistryValidateSession
  rw [hfind]
  cases hmap : s.fdMap c.fd with
  | none => rfl
  | some b =>
      obtain ⟨d, hd, -⟩ := hi.fdMap_fd c.fd b hmap
      have hactive := (hi.valid b d hd).2
      simp only [hd, Option.map_some, hactive, and_true, Option.some.injEq, decide_eq_decide]
      constructor
      · intro heq
        exact h.distinct b a d c hd hc heq
      · rintro rfl
        exact congrArg _ (Option.some.inj (hd.symm.trans hc))

/-- What a request for a name sends. -/
theorem dispatch_deliver (h : s.Sessions) (hi : s.Indexed) (broadcastFrame : Buffer 65535)
    {hd : InternalHeader}
    {name : List UInt8} (hparse : parse jsonRaw = some (some hd)) (hid : ¬ hd.SetsIdentity)
    (hinternal : hd.internal = true) (hdst : hd.dst = some name) (hname : name ≠ ascii "BROADCAST")
    {res : Option HalmosWSClient} (hres : s.wsRegistryGetSessionInfo name = some res) :
    (res = none → s.wsSystemInternalDispatch parse broadcastFrame jsonRaw = some (s, [])) ∧
    ∀ a c, res = some c → s.heap a = some c →
      s.wsSystemInternalDispatch parse broadcastFrame jsonRaw
        = some (s, if s.fdMap c.fd = some a then [.text c.fd c.ssl jsonRaw] else []) := by
  have hcall : s.wsSystemInternalDispatch parse broadcastFrame jsonRaw = (do
      match ← s.wsRegistryGetSessionInfo name with
      | none => some (s, [])
      | some c => do
          let valid ← s.wsRegistryValidateSession c.fd c.sessionId
          some (s, if valid = true then [.text c.fd c.ssl jsonRaw] else [])) := by
    simp only [wsSystemInternalDispatch, hparse, if_neg hid, hdst, hinternal, if_true,
      if_neg hname]
  rw [hcall, hres]
  constructor
  · rintro rfl
    rfl
  · rintro a c rfl hc
    simp only [Option.bind_eq_bind, Option.bind_some, validateSession_eq h hi hc,
      decide_eq_true_eq]

theorem getUserId_total (hi : s.Indexed) (fd : Int) :
    ∃ user, s.wsRegistryGetUserId fd = some user := by
  unfold wsRegistryGetUserId
  cases hfind : s.findByFd fd with
  | none => exact ⟨none, rfl⟩
  | some b =>
      obtain ⟨d, hd, -⟩ := hi.findByFd hfind
      simp only [hd, Option.map_some]
      exact ⟨_, rfl⟩

theorem getH2Status_total (hi : s.Indexed) (fd : Int) :
    ∃ isHttp2 streamId, s.wsRegistryGetH2Status fd = some (isHttp2, streamId) := by
  unfold wsRegistryGetH2Status
  cases hfind : s.findByFd fd with
  | none => exact ⟨false, 0, rfl⟩
  | some b =>
      obtain ⟨d, hd, -⟩ := hi.findByFd hfind
      simp only [hd, Option.map_some]
      split
      · exact ⟨_, _, rfl⟩
      · exact ⟨_, _, rfl⟩

theorem onAction_private_none (hi : s.Indexed) (stack : WsStack) (sockClient : Int)
    (jsonRaw : List UInt8) (m : WsMessage) {name : List UInt8} (app : List UInt8)
    (hres : s.wsRegistryGetSessionInfo name = some none) :
    s.onAction stack sockClient jsonRaw m name app .actPrivate = some (s, []) := by
  obtain ⟨user, huser⟩ := getUserId_total hi sockClient
  simp only [onAction, huser, hres, Option.bind_eq_bind, Option.bind_some]

/-- What the message of a client for a name sends: a text in the form of the connection that the
descriptor leads to. -/
theorem onAction_private (hi : s.Indexed) (stack : WsStack) (sockClient : Int)
    (jsonRaw : List UInt8) (m : WsMessage) {name : List UInt8} (app : List UInt8)
    {c : HalmosWSClient} (hres : s.wsRegistryGetSessionInfo name = some (some c)) :
    ∃ isHttp2 streamId, s.wsRegistryGetH2Status c.fd = some (isHttp2, streamId) ∧
      s.onAction stack sockClient jsonRaw m name app .actPrivate
        = some (s, [if isHttp2 = true then .textH2 c.fd streamId (cstr jsonRaw)
            else .text c.fd c.ssl jsonRaw]) := by
  obtain ⟨user, huser⟩ := getUserId_total hi sockClient
  obtain ⟨isHttp2, streamId, hstatus⟩ := getH2Status_total hi c.fd
  refine ⟨isHttp2, streamId, hstatus, ?_⟩
  simp only [onAction, huser, hres, hstatus, Option.bind_eq_bind, Option.bind_some]
  cases isHttp2 <;> rfl

theorem getH2Status_of_fdMap (hi : s.Indexed) {a : Addr} {c : HalmosWSClient}
    (hc : s.heap a = some c) (hmap : s.fdMap c.fd = some a) :
    s.wsRegistryGetH2Status c.fd = some (c.isHttp2, c.streamId) := by
  have hfind : s.findByFd c.fd = some a := (findByFd_eq (hi.valid a c hc).1).trans hmap
  simp only [wsRegistryGetH2Status, hfind, hc, Option.map_some, (hi.valid a c hc).2, if_true]

end HalmosWSRegistry

/-! ## Runs -/

/-- An operation on the registry, a message of a client and what is on the stack, or a connection
of a backend. -/
inductive BridgedEvent where
  | op (op : RegistryOp)
  | message (sockClient : Int) (data : List UInt8) (stack : WsStack)
  | request (reads : List IpcRead) (broadcastFrame : Buffer 65535)

namespace NamedRegistry

open HalmosWSRegistry

section Runs

variable (parseMessage : List UInt8 → Option WsMessage)
  (parse : List UInt8 → Option (Option InternalHeader))

/-- The operation an event leads to, of those that change the registry. -/
def eventOp : BridgedEvent → Option RegistryOp
  | .op op => some op
  | .message sockClient data _ => messageOp parseMessage sockClient data
  | .request reads _ => (ipcRequest reads).bind (requestOp parse)

/-- The registry behind an event. -/
def registryAfter (registry : Option HalmosWSRegistry) : BridgedEvent → Option HalmosWSRegistry
  | .op op => applyTo registry op
  | .message sockClient data stack => do
      let s ← registry
      let (s, _) ← s.wsSystemOnMessage parseMessage stack sockClient data
      some s
  | .request reads broadcastFrame =>
      match ipcRequest reads with
      | none => registry
      | some jsonRaw => do
          let s ← registry
          let (s, _) ← s.wsSystemInternalDispatch parse broadcastFrame jsonRaw
          some s

/-- One event. -/
def onBridged (r : NamedRegistry) (e : BridgedEvent) : NamedRegistry where
  registry := registryAfter parseMessage parse r.registry e
  latest := (eventOp parseMessage parse e).elim r.latest fun op => (r.step op).latest

/-- `calloc` returns free addresses, no client is given a name of more than 63 bytes, and there
have not been 2^32 clients yet. -/
def TidyBridged (r : NamedRegistry) (e : BridgedEvent) : Prop :=
  ∀ op s, eventOp parseMessage parse e = some op → r.registry = some s →
    s.AllocFresh op ∧ s.ShortName op ∧ s.SessionRoom op

/-- As long as no freed memory is touched, the names are right and the sessions are apart. -/
def NamedIn (r : NamedRegistry) : Prop :=
  ∀ s, r.registry = some s → s.Named r.latest ∧ s.Sessions

variable {parseMessage parse}

/-- An event does the operation it leads to, and nothing else to the registry. -/
theorem registryAfter_eq {registry : Option HalmosWSRegistry} {e : BridgedEvent}
    {s' : HalmosWSRegistry} (h : registryAfter parseMessage parse registry e = some s') :
    ∃ s, registry = some s
      ∧ (eventOp parseMessage parse e).elim (some s) s.apply = some s' := by
  cases e with
  | op op =>
      obtain ⟨s, hs, happly⟩ := Option.bind_eq_some_iff.mp h
      exact ⟨s, hs, happly⟩
  | message sockClient data stack =>
      obtain ⟨s, hs, h⟩ := Option.bind_eq_some_iff.mp h
      obtain ⟨⟨s₁, sends⟩, hmessage, h⟩ := Option.bind_eq_some_iff.mp h
      obtain rfl : s₁ = s' := Option.some.inj h
      exact ⟨s, hs, wsSystemOnMessage_registry hmessage⟩
  | request reads broadcastFrame =>
      simp only [registryAfter, eventOp] at h ⊢
      cases hreq : ipcRequest reads with
      | none =>
          rw [hreq] at h
          exact ⟨s', h, rfl⟩
      | some jsonRaw =>
          rw [hreq] at h
          obtain ⟨s, hs, h⟩ := Option.bind_eq_some_iff.mp h
          obtain ⟨⟨s₁, sends⟩, hdispatch, h⟩ := Option.bind_eq_some_iff.mp h
          obtain rfl : s₁ = s' := Option.some.inj h
          exact ⟨s, hs, wsSystemInternalDispatch_registry hdispatch⟩

/-- **One event** keeps the names right and the sessions apart. -/
theorem NamedIn.onBridged {r : NamedRegistry} {e : BridgedEvent} (hr : r.NamedIn)
    (htidy : r.TidyBridged parseMessage parse e) :
    (r.onBridged parseMessage parse e).NamedIn := by
  obtain ⟨registry, latest⟩ := r
  intro s' hs'
  obtain ⟨s, rfl, hop⟩ := registryAfter_eq hs'
  obtain ⟨hnamed, hsessions⟩ := hr s rfl
  cases hevent : eventOp parseMessage parse e with
  | none =>
      rw [hevent] at hop
      obtain rfl := Option.some.inj hop
      simp only [NamedRegistry.onBridged, hevent]
      exact ⟨hnamed, hsessions⟩
  | some op =>
      rw [hevent] at hop
      obtain ⟨hfresh, hshort, hroom⟩ := htidy op s hevent rfl
      obtain ⟨s'', hs'', hnamed'⟩ := hnamed.apply hfresh hshort
      obtain rfl := Option.some.inj (hs''.symm.trans hop)
      simp only [NamedRegistry.onBridged, hevent]
      exact ⟨hnamed', hsessions.apply hnamed.indexed hfresh hroom hs''⟩

theorem init_namedIn : init.NamedIn := by
  intro s hs
  obtain rfl := Option.some.inj hs
  exact ⟨init_named, init_sessions⟩

end Runs

end NamedRegistry

section Runs

open HalmosWSRegistry NamedRegistry

variable (parseMessage : List UInt8 → Option WsMessage)
  (parse : List UInt8 → Option (Option InternalHeader)) (events : List BridgedEvent)

/-- The registry and the names behind the events. -/
def bridgedAfter : NamedRegistry := runSteps (onBridged parseMessage parse) .init events

variable {events} {s : HalmosWSRegistry} {hd : InternalHeader} {name jsonRaw : List UInt8}

theorem namedIn_after
    (h : GuardedRun (TidyBridged parseMessage parse) (onBridged parseMessage parse) .init events) :
    (bridgedAfter parseMessage parse events).NamedIn :=
  GuardedRun.invariant (fun _ _ => NamedIn.onBridged) init_namedIn h

/-- **Where a text for a name goes.** After any run, a request from inside for a name is sent to one
client, which was given that name last, if the descriptor of this client leads to it; and if no
registered client has the name, or another client was registered on the descriptor, to nobody. -/
theorem requests_run
    (h : GuardedRun (TidyBridged parseMessage parse) (onBridged parseMessage parse) .init events)
    (hs : (bridgedAfter parseMessage parse events).registry = some s)
    (broadcastFrame : Buffer 65535) (hparse : parse jsonRaw = some (some hd))
    (hid : ¬ hd.SetsIdentity) (hinternal : hd.internal = true) (hdst : hd.dst = some name)
    (hname : name ≠ ascii "BROADCAST") :
    let latest := (bridgedAfter parseMessage parse events).latest
    (s.wsSystemInternalDispatch parse broadcastFrame jsonRaw = some (s, [])
        ∧ ∀ a, some a ∈ s.clients → latest a ≠ some name)
      ∨ ∃ a c, some a ∈ s.clients ∧ s.heap a = some c ∧ latest a = some name
          ∧ s.wsSystemInternalDispatch parse broadcastFrame jsonRaw
            = some (s, if s.fdMap c.fd = some a then [.text c.fd c.ssl jsonRaw] else []) := by
  intro latest
  obtain ⟨hnamed, hsessions⟩ := namedIn_after parseMessage parse h s hs
  obtain ⟨res, hres, hiff, hclient⟩ := hnamed.namesAgree.found name
  obtain ⟨hnone, hsome⟩ := dispatch_deliver hsessions hnamed.indexed broadcastFrame
    hparse hid hinternal hdst hname hres
  cases hcase : res with
  | none =>
      left
      refine ⟨hnone hcase, fun a ha hlatest => ?_⟩
      have hfound := hiff.mpr ⟨a, ha, hlatest⟩
      rw [hcase] at hfound
      cases hfound
  | some c =>
      right
      obtain ⟨a, ha, hc, hlatest⟩ := hclient c hcase
      exact ⟨a, c, ha, hc, hlatest, hsome a c hcase hc⟩

/-- **A backend and a client with the same text for a name** have it sent alike exactly if the name
is that of no client, or of one on an HTTP/1.1 connection that its descriptor leads to. -/
theorem requests_private_iff
    (h : GuardedRun (TidyBridged parseMessage parse) (onBridged parseMessage parse) .init events)
    (hs : (bridgedAfter parseMessage parse events).registry = some s)
    (broadcastFrame : Buffer 65535) (hparse : parse jsonRaw = some (some hd))
    (hid : ¬ hd.SetsIdentity) (hinternal : hd.internal = true) (hdst : hd.dst = some name)
    (hname : name ≠ ascii "BROADCAST") (stack : WsStack) (sockClient : Int) (m : WsMessage)
    (app : List UInt8) :
    s.wsSystemInternalDispatch parse broadcastFrame jsonRaw
        = s.onAction stack sockClient jsonRaw m name app .actPrivate ↔
      ∀ a c, s.wsRegistryGetSessionInfo name = some (some c) → s.heap a = some c →
        s.fdMap c.fd = some a ∧ c.isHttp2 = false := by
  obtain ⟨hnamed, hsessions⟩ := namedIn_after parseMessage parse h s hs
  have hi := hnamed.indexed
  obtain ⟨res, hres, hiff, hclient⟩ := hnamed.namesAgree.found name
  obtain ⟨hnone, hsome⟩ := dispatch_deliver hsessions hi broadcastFrame hparse
    hid hinternal hdst hname hres
  cases hcase : res with
  | none =>
      rw [hcase] at hres
      rw [hnone hcase, onAction_private_none hi stack sockClient jsonRaw m app hres, hres]
      exact ⟨fun _ _ _ hno => (by cases hno), fun _ => rfl⟩
  | some c =>
      rw [hcase] at hres
      obtain ⟨a, -, hc, -⟩ := hclient c hcase
      obtain ⟨isHttp2, streamId, hstatus, hprivate⟩ :=
        onAction_private hi stack sockClient jsonRaw m app hres
      rw [hsome a c hcase hc, hprivate, hres]
      -- the client of the lookup is at one address
      have honly : (∀ b d, some (some c) = some (some d) → s.heap b = some d →
          s.fdMap d.fd = some b ∧ d.isHttp2 = false) ↔ s.fdMap c.fd = some a ∧ c.isHttp2 = false := by
        constructor
        · exact fun hall => hall a c rfl hc
        · rintro hboth b d heq hb
          obtain rfl := Option.some.inj (Option.some.inj heq)
          rw [hsessions.distinct b a c c hb hc rfl]
          exact hboth
      rw [honly]
      by_cases hmap : s.fdMap c.fd = some a
      · rw [getH2Status_of_fdMap hi hc hmap] at hstatus
        obtain ⟨rfl, rfl⟩ := Prod.mk.inj (Option.some.inj hstatus)
        rw [if_pos hmap]
        cases hh2 : c.isHttp2 with
        | true => simp
        | false => simp [hmap]
      · rw [if_neg hmap]
        constructor
        · intro heq
          have hnil := congrArg Prod.snd (Option.some.inj heq)
          cases hnil
        · exact fun hboth => absurd hboth.1 hmap

end Runs

/-- A request that names the client of descriptor 5. -/
def identityJson : List UInt8 :=
  ascii "\x7b\"header\":\x7b\"type\":\"SET_IDENTITY\",\"target_fd\":5,\"user_id\":\"ann\"\x7d\x7d"

/-- A request for this name. -/
def deliveryJson : List UInt8 := ascii "\x7b\"header\":\x7b\"dst\":\"ann\",\"src\":\"HALMOS_PHP\"\x7d\x7d"

/-- What the header of the second one says. -/
def deliveryHeader : InternalHeader :=
  ⟨none, none, none, some (ascii "ann"), some (ascii "HALMOS_PHP")⟩

/-- The parser, on these two. -/
def parseInternal (data : List UInt8) : Option (Option InternalHeader) :=
  if data = identityJson then
    some (some ⟨some (ascii "SET_IDENTITY"), some 5, some (ascii "ann"), none, none⟩)
  else if data = deliveryJson then some (some deliveryHeader)
  else none

/-- A client, and the request that names it, in two reads. -/
def annEvents : List BridgedEvent :=
  [.op (.add 5 false 100 (some 0)),
    .request [.bytes (identityJson.take 20), .again true, .bytes (identityJson.drop 20 ++ [10])]
      (.zeros 65535)]

open HalmosWSRegistry NamedRegistry in
theorem annEvents_tidy :
    GuardedRun (TidyBridged (fun _ => none) parseInternal)
      (onBridged (fun _ => none) parseInternal) .init annEvents := by
  refine ⟨?_, ?_, trivial⟩
  · intro op s hop hs
    obtain rfl := Option.some.inj hop
    obtain rfl := Option.some.inj hs
    exact ⟨rfl, trivial, (by decide : (1 : Nat) < 2 ^ 32)⟩
  · intro op s hop hs
    have hname : eventOp (fun _ => none) parseInternal annEvents[1]
        = some (.setUserId 5 (ascii "ann")) := by
      decide +kernel
    obtain rfl := Option.some.inj (hname.symm.trans hop)
    exact ⟨trivial, fun _ => by decide, trivial⟩

open HalmosWSRegistry in
/-- A request for the named client reaches its descriptor. -/
theorem requests_run_ann :
    ∃ (s : HalmosWSRegistry) (a : Addr) (c : HalmosWSClient),
      (bridgedAfter (fun _ => none) parseInternal annEvents).registry = some s
      ∧ s.wsSystemInternalDispatch parseInternal (.zeros 65535) deliveryJson
        = some (s, if s.fdMap c.fd = some a then [.text c.fd c.ssl deliveryJson] else []) := by
  have hrun : (bridgedAfter (fun _ => none) parseInternal annEvents).registry.isSome = true := by
    decide +kernel
  obtain ⟨s, hs⟩ := Option.isSome_iff_exists.mp hrun
  have hnamed : (bridgedAfter (fun _ => none) parseInternal annEvents).registry.all (fun s =>
      decide (some 0 ∈ s.clients)
        && decide ((bridgedAfter (fun _ => none) parseInternal annEvents).latest 0
          = some (ascii "ann"))) = true := by
    decide +kernel
  rw [hs, Option.all_some, Bool.and_eq_true, decide_eq_true_eq, decide_eq_true_eq] at hnamed
  have hparse : parseInternal deliveryJson = some (some deliveryHeader) := by decide +kernel
  rcases requests_run (fun _ => none) parseInternal annEvents_tidy hs (.zeros 65535) hparse
    (by decide) (by decide) rfl (by decide) with
    ⟨-, hno⟩ | ⟨a, c, -, -, -, hsent⟩
  · exact absurd hnamed.2 (hno 0 hnamed.1)
  · exact ⟨s, a, c, hs, hsent⟩

open HalmosWSRegistry in
/-- The request, and the same text from the client itself. -/
theorem requests_private_ann :
    ∃ s : HalmosWSRegistry,
      (bridgedAfter (fun _ => none) parseInternal annEvents).registry = some s
      ∧ s.wsSystemInternalDispatch parseInternal (.zeros 65535) deliveryJson
        = s.onAction ⟨.zeros 4096, .zeros 65535⟩ 5 deliveryJson ⟨none, none⟩ (ascii "ann")
          (ascii "GLOBAL") .actPrivate := by
  have hrun : (bridgedAfter (fun _ => none) parseInternal annEvents).registry.isSome = true := by
    decide +kernel
  obtain ⟨s, hs⟩ := Option.isSome_iff_exists.mp hrun
  have hparse : parseInternal deliveryJson = some (some deliveryHeader) := by decide +kernel
  -- the only client is over HTTP/1.1, and its descriptor leads to it
  have hclient : (bridgedAfter (fun _ => none) parseInternal annEvents).registry.all (fun s =>
      decide (s.wsRegistryGetSessionInfo (ascii "ann") = some (s.heap 0)
        ∧ (s.heap 0).all (fun c => decide (s.fdMap c.fd = some 0) && decide (c.isHttp2 = false))))
      = true := by
    decide +kernel
  rw [hs, Option.all_some, decide_eq_true_eq] at hclient
  have hsessions := (namedIn_after (fun _ => none) parseInternal annEvents_tidy s hs).2
  refine ⟨s, hs, (requests_private_iff (fun _ => none) parseInternal annEvents_tidy hs
    (.zeros 65535) hparse (by decide) (by decide) rfl (by decide) ⟨.zeros 4096, .zeros 65535⟩ 5
    ⟨none, none⟩ (ascii "GLOBAL")).mpr ?_⟩
  intro a c hfound hc
  have hzero : s.heap 0 = some c := Option.some.inj (hclient.1.symm.trans hfound)
  have hboth := hclient.2
  rw [hzero, Option.all_some, Bool.and_eq_true, decide_eq_true_eq, decide_eq_true_eq] at hboth
  rw [hsessions.distinct a 0 c c hc hzero rfl]
  exact hboth

end Halmos.WebSocket
