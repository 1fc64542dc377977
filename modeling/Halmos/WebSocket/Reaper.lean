import Halmos.WebSocket.Sockets
import Halmos.WebSocket.Tunnel

set_option autoImplicit false

/-! # Whom the reaper removes

`ws_registry_reaper` looks at `last_seen`, which is set when a client is registered and by its
PONG frames over HTTP/1.1: the other frames leave it alone, and so does every frame over HTTP/2. It
collects descriptors and removes the client each of them leads to, which may be another one.
`WsActivity` runs the registry beside the times at which frames came from each client. The reaper
removes only clients that have been silent for 90 seconds if and only if, at each of its passes,
every client that has not been silent is refreshed, with all clients of its descriptor
(`reaper_run`).
-/

namespace Halmos.WebSocket

namespace HalmosWSRegistry

/-! ## The maintenance functions -/

/-- `ws_registry_heartbeat()`: the clients that are sent a PING. -/
def wsRegistryHeartbeat (s : HalmosWSRegistry) : Option (List Addr) := do
  let active ← activeIn s.heap s.clients
  some (active.filter fun a => (s.heap a).any fun c => c.isHttp2 = false)

variable {s : HalmosWSRegistry}

/-- The descriptors the reaper collects. -/
theorem mem_deadFds {heap : Addr → Option HalmosWSClient} {now : Nat}
    {slots : List (Option Addr)} {dead : List Int} (hdead : deadFds heap now slots = some dead)
    (fd : Int) : fd ∈ dead ↔ ∃ a c, some a ∈ slots ∧ heap a = some c ∧ c.isActive = true ∧
      c.lastSeen + 90 < now ∧ c.fd = fd := by
  induction slots generalizing dead with
  | nil =>
      obtain rfl := Option.some.inj hdead
      simp
  | cons slot slots ih =>
      cases slot with
      | none =>
          rw [ih hdead]
          simp
      | some x =>
          rw [deadFds] at hdead
          cases hx : heap x with
          | none =>
              rw [hx] at hdead
              cases hdead
          | some d =>
              rw [hx] at hdead
              obtain ⟨rest, hrest, hdead⟩ := Option.bind_eq_some_iff.mp hdead
              obtain rfl := Option.some.inj hdead
              have hhere : (∃ a c, some a ∈ some x :: slots ∧ heap a = some c ∧ c.isActive = true ∧
                  c.lastSeen + 90 < now ∧ c.fd = fd) ↔
                  (d.isActive = true ∧ d.lastSeen + 90 < now ∧ d.fd = fd) ∨ fd ∈ rest := by
                rw [ih hrest]
                constructor
                · rintro ⟨a, c, ha, hc, hdue⟩
                  rcases List.mem_cons.mp ha with hax | ha
                  · obtain rfl := Option.some.inj hax
                    obtain rfl := Option.some.inj (hx.symm.trans hc)
                    exact .inl hdue
                  · exact .inr ⟨a, c, ha, hc, hdue⟩
                · rintro (hdue | ⟨a, c, ha, hc, hdue⟩)
                  · exact ⟨x, d, List.mem_cons_self, hx, hdue⟩
                  · exact ⟨a, c, List.mem_cons_of_mem _ ha, hc, hdue⟩
              rw [hhere]
              by_cases hdue : d.isActive = true ∧ d.lastSeen + 90 < now
              · rw [if_pos hdue, List.mem_cons]
                simp [hdue.1, hdue.2, eq_comm]
              · rw [if_neg hdue]
                simp only [← and_assoc, hdue, false_and, false_or]

/-- Removing a descriptor, at an address. -/
theorem Indexed.remove_heap (h : s.Indexed) (fd : Int) : ∃ s', s.wsRegistryRemove fd = some s' ∧
    s'.Indexed ∧ (∀ other, s'.findByFd other = if other = fd then none else s.findByFd other) ∧
    ∀ a, s'.heap a = if s.findByFd fd = some a then none else s.heap a := by
  obtain ⟨s', hs', hindexed⟩ := h.remove fd
  obtain ⟨hnone, hothers, -⟩ := h.remove_frame hs'
  refine ⟨s', hs', hindexed, fun other => ?_, fun a => ?_⟩
  · by_cases hother : other = fd
    · rw [if_pos hother, hother, hnone]
    · rw [if_neg hother, hothers other hother]
  · cases hfind : s.findByFd fd with
    | none =>
        obtain rfl := Option.some.inj ((remove_none hfind).symm.trans hs')
        simp
    | some x =>
        obtain ⟨c, hc, -⟩ := h.findByFd hfind
        obtain rfl := Option.some.inj ((remove_eq hfind hc).symm.trans hs')
        by_cases hxa : x = a
        · simp [hxa]
        · simp [hxa, Ne.symm hxa]

open Classical in
/-- Removing descriptors takes away the clients they lead to. -/
theorem Indexed.removeAll_heap (h : s.Indexed) (fds : List Int) :
    ∃ s', s.removeAll fds = some s' ∧ s'.Indexed ∧
      ∀ a, s'.heap a = if ∃ fd ∈ fds, s.findByFd fd = some a then none else s.heap a := by
  induction fds generalizing s with
  | nil => exact ⟨s, rfl, h, fun a => by simp⟩
  | cons fd fds ih =>
      obtain ⟨s₁, hone, h₁, hfind₁, hheap₁⟩ := h.remove_heap fd
      obtain ⟨s', hrest, h', hheap'⟩ := ih h₁
      refine ⟨s', by simp [removeAll, hone, hrest], h', fun a => ?_⟩
      rw [hheap', hheap₁]
      simp only [hfind₁, List.exists_mem_cons_iff]
      by_cases hfd : s.findByFd fd = some a
      · simp [hfd]
      · simp only [hfd, false_or, if_false]
        have hsame : (∃ fd' ∈ fds, (if fd' = fd then none else s.findByFd fd') = some a) ↔
            ∃ fd' ∈ fds, s.findByFd fd' = some a := by
          constructor
          · rintro ⟨fd', hmem, hfound⟩
            split at hfound
            · cases hfound
            · exact ⟨fd', hmem, hfound⟩
          · rintro ⟨fd', hmem, hfound⟩
            have hne : fd' ≠ fd := fun heq => hfd (heq ▸ hfound)
            exact ⟨fd', hmem, by rwa [if_neg hne]⟩
        simp only [hsame]

/-- A client on the descriptor that leads to `a` has not been seen for more than 90 seconds. -/
def Overdue (s : HalmosWSRegistry) (now : Nat) (a : Addr) : Prop :=
  ∃ b c, s.heap b = some c ∧ c.lastSeen + 90 < now ∧ s.findByFd c.fd = some a

open Classical in
/-- **What a pass of the reaper removes.** -/
theorem Indexed.reaper_heap (h : s.Indexed) (now : Nat) :
    ∃ s', s.wsRegistryReaper now = some s' ∧ s'.Indexed ∧
      ∀ a, s'.heap a = if s.Overdue now a then none else s.heap a := by
  obtain ⟨dead, hdead⟩ := deadFds_isSome now fun a ha => (h.slots_live a).mp ha
  obtain ⟨s', hs', hindexed, hheap⟩ := h.removeAll_heap dead
  refine ⟨s', by simp [wsRegistryReaper, hdead, hs'], hindexed, fun a => ?_⟩
  have hdue : (∃ fd ∈ dead, s.findByFd fd = some a) ↔ s.Overdue now a := by
    constructor
    · rintro ⟨fd, hfd, hfound⟩
      obtain ⟨b, c, -, hc, -, hseen, rfl⟩ := (mem_deadFds hdead fd).mp hfd
      exact ⟨b, c, hc, hseen, hfound⟩
    · rintro ⟨b, c, hc, hseen, hfound⟩
      have hactive := (h.valid b c hc).2
      exact ⟨c.fd, (mem_deadFds hdead c.fd).mpr
        ⟨b, c, h.mem_clients hc, hc, hactive, hseen, rfl⟩, hfound⟩
  rw [hheap]
  simp only [hdue]

/-! ## When clients are seen -/

/-- No client is new, and each has been seen when it had been before. -/
structure Unseen (s s' : HalmosWSRegistry) : Prop where
  indexed : s'.Indexed
  findByFd : ∀ fd, s'.findByFd fd = s.findByFd fd
  lastSeen : ∀ a c', s'.heap a = some c' → ∃ c, s.heap a = some c ∧ c'.lastSeen = c.lastSeen

theorem Indexed.unseen (h : s.Indexed) : s.Unseen s :=
  ⟨h, fun _ => rfl, fun _ c hc => ⟨c, hc, rfl⟩⟩

theorem Unseen.trans {s' s'' : HalmosWSRegistry} (h : s.Unseen s') (h' : s'.Unseen s'') :
    s.Unseen s'' where
  indexed := h'.indexed
  findByFd := fun fd => (h'.findByFd fd).trans (h.findByFd fd)
  lastSeen := by
    intro a c'' hc''
    obtain ⟨c', hc', hseen'⟩ := h'.lastSeen a c'' hc''
    obtain ⟨c, hc, hseen⟩ := h.lastSeen a c' hc'
    exact ⟨c, hc, hseen'.trans hseen⟩

theorem record_lastSeen (c : HalmosWSClient) (fullKey : List UInt8) :
    (c.record fullKey).lastSeen = c.lastSeen := by
  unfold HalmosWSClient.record
  split <;> rfl

/-- Of a client, a message changes the name or the topics. -/
theorem messageOp_unseen {parse : List UInt8 → Option WsMessage} {fd : Int} {data : List UInt8}
    {op : RegistryOp} (hop : messageOp parse fd data = some op) (other : Int) (now : Nat) :
    op ≠ .updateActivity other now := by
  obtain ⟨⟨m, action, target, app⟩, -, hop⟩ := Option.bind_eq_some_iff.mp hop
  dsimp only at hop
  split at hop
  · obtain ⟨userId, -, rfl⟩ := Option.map_eq_some_iff.mp hop
    exact nofun
  · obtain rfl := Option.some.inj hop
    exact nofun
  · cases hop

/-- The other operations on a registered client do not set when it has been seen. -/
theorem Indexed.client_unseen (h : s.Indexed) (op : RegistryOp) (hclient : OnClient op)
    (hop : ∀ fd now, op ≠ .updateActivity fd now) {s' : HalmosWSRegistry}
    (hs' : s.apply op = some s') : s.Unseen s' := by
  have hfresh : s.AllocFresh op := by
    cases op with
    | add fd ssl now calloc => exact hclient.elim
    | addH2 fd ssl streamId now calloc => exact hclient.elim
    | _ => trivial
  obtain ⟨s'', hs'', hindexed⟩ := h.apply hfresh
  obtain rfl := Option.some.inj (hs''.symm.trans hs')
  have hfdMap := (h.onClient_frame hclient hs').1
  refine ⟨hindexed, fun other => by simp [HalmosWSRegistry.findByFd, hfdMap], ?_⟩
  have hupdate : ∀ (x : Addr) (d d' : HalmosWSClient), s.heap x = some d →
      d'.lastSeen = d.lastSeen → ∀ a c', Function.update s.heap x (some d') a = some c' →
        ∃ c, s.heap a = some c ∧ c'.lastSeen = c.lastSeen := by
    intro x d d' hd hseen a c' hc'
    rcases update_eq_some_iff.mp hc' with ⟨rfl, hnew⟩ | ⟨-, hc'⟩
    · obtain rfl := Option.some.inj hnew
      exact ⟨d, hd, hseen⟩
    · exact ⟨c', hc', rfl⟩
  cases op with
  | setUserId fd userId =>
      rcases setUserId_spec h fd userId with ⟨-, hno⟩ | ⟨a, c, -, -, hc, hnew⟩
      · obtain rfl := Option.some.inj (hno.symm.trans hs')
        exact h.unseen.lastSeen
      · obtain rfl := Option.some.inj (hnew.symm.trans hs')
        exact hupdate a c _ hc rfl
  | addToTopic fd appId topic =>
      rcases addToTopic_spec h fd appId topic with ⟨-, hno⟩ | ⟨a, c, -, hc, hnew⟩
      · obtain rfl := Option.some.inj (hno.symm.trans hs')
        exact h.unseen.lastSeen
      · obtain rfl := Option.some.inj (hnew.symm.trans hs')
        dsimp only
        split
        · exact h.unseen.lastSeen
        · exact hupdate a c _ hc (record_lastSeen c _)
  | updateActivity fd now => exact absurd rfl (hop fd now)
  | add fd ssl now calloc => exact hclient.elim
  | addH2 fd ssl streamId now calloc => exact hclient.elim
  | remove fd => exact hclient.elim
  | reaper now => exact hclient.elim

/-- A new client has been seen now. -/
theorem addClient_lastSeen {fd : Int} {ssl isHttp2 : Bool} {streamId now : Nat}
    {calloc : Option Addr} (hfresh : ∀ x, calloc = some x → s.heap x = none) {a : Addr}
    {c : HalmosWSClient}
    (hc : (s.addClient fd ssl isHttp2 streamId now calloc).2.heap a = some c) :
    calloc = some a ∧ c.lastSeen = now ∨ calloc ≠ some a ∧ s.heap a = some c := by
  have hold : s.heap a = some c → calloc ≠ some a ∧ s.heap a = some c := by
    refine fun hold => ⟨fun hnew => ?_, hold⟩
    rw [hfresh a hnew] at hold
    cases hold
  unfold addClient at hc
  split at hc
  · exact .inr (hold hc)
  · split at hc
    · next i x hslot =>
        rcases update_eq_some_iff.mp hc with ⟨rfl, hnew⟩ | ⟨-, hc⟩
        · obtain rfl := Option.some.inj hnew
          exact .inl ⟨rfl, rfl⟩
        · exact .inr (hold hc)
    · exact .inr (hold hc)

end HalmosWSRegistry

/-! ## The registry and the frames -/

/-- The registry, with the times at which frames came from a client since it was registered, the
time at which `last_seen` was set last, and for every client the reaper has removed, the time of the
pass and of the client's frames. -/
structure WsActivity where
  registry : HalmosWSRegistry
  heard : Addr → List Nat
  refreshed : Addr → Nat
  reaped : List (Nat × List Nat)

/-- What happens to the registered clients. `frame` is what `halmos_ws_recv_frame` has returned on a
descriptor, `data` the payload of a DATA frame on an upgraded stream. -/
inductive ActivityEvent where
  | add (fd : Int) (ssl : Bool) (now : Nat) (calloc : Option Addr)
  | addH2 (fd : Int) (ssl : Bool) (streamId now : Nat) (calloc : Option Addr)
  | frame (fd : Int) (now : Nat) (stack : WsStack) (r : RecvStatus)
  | data (fd : Int) (streamId now : Nat) (stack : WsStack) (payload : List UInt8)
  | heartbeat
  | reaper (now : Nat)
  | remove (fd : Int)
  | setUserId (fd : Int) (userId : List UInt8)

/-- A text, binary, ping or pong frame. -/
def isHeard (opcode : Nat) : Bool :=
  opcode = wsOpText ∨ opcode = wsOpBin ∨ opcode = wsOpPing ∨ opcode = wsOpPong

/-- The opcode of a received frame. -/
def RecvStatus.opcode? : RecvStatus → Option Nat
  | .ok opcode _ _ => some opcode
  | _ => none

namespace WsActivity

/-- Nobody is registered. -/
def init : WsActivity := ⟨wsRegistryInit, fun _ => [], fun _ => 0, []⟩

/-- A frame of the clients that satisfy `from`. -/
def hear (heard : Addr → List Nat) (now : Nat) (sender : Addr → Bool) : Addr → List Nat :=
  fun a => if sender a then now :: heard a else heard a

/-- A client is registered at an address that is not in use. -/
def register (s : WsActivity) (now : Nat) (calloc : Option Addr)
    (add : Option Addr → Int × HalmosWSRegistry) : WsActivity :=
  let calloc := calloc.filter fun a => (s.registry.heap a).isNone
  { s with
    registry := (add calloc).2
    heard := fun a => if calloc = some a then [] else s.heard a
    refreshed := fun a => if calloc = some a then now else s.refreshed a }

/-- One event. -/
def onEvent (malloc : (n : Nat) → Buffer n) (parse : List UInt8 → Option WsMessage)
    (s : WsActivity) : ActivityEvent → Option WsActivity
  | .add fd ssl now calloc => some (s.register now calloc (s.registry.wsRegistryAdd fd ssl now))
  | .addH2 fd ssl streamId now calloc =>
      some (s.register now calloc (s.registry.wsRegistryAddH2 fd ssl streamId now))
  | .frame fd now stack r => do
      let registry ← (dispatchFrame r).2.foldlM (WsSockets.onCall parse fd now stack) s.registry
      some { s with
        registry := registry
        heard := hear s.heard now fun a =>
          r.opcode?.any isHeard ∧ s.registry.findByFd fd = some a
        refreshed := fun a =>
          if r.opcode? = some wsOpPong ∧ s.registry.findByFd fd = some a then now
          else s.refreshed a }
  | .data fd streamId now stack payload => do
      let r ← handleWebsocketDataPayload malloc streamId payload
      let registry ← r.calls.foldlM (WsSockets.onCall parse fd now stack) s.registry
      some { s with
        registry := registry
        -- the window is updated behind a whole frame
        heard := hear s.heard now fun a =>
          r.windowUpdates ≠ [] ∧ payload.head?.any (fun b => isHeard (b.toNat &&& 0x0F)) ∧
            (s.registry.heap a).any fun c => c.fd = fd ∧ c.isHttp2 ∧ c.streamId = streamId }
  | .heartbeat => do
      let _ ← s.registry.wsRegistryHeartbeat
      some s
  | .reaper now => do
      let registry ← s.registry.wsRegistryReaper now
      let gone := s.registry.clients.reduceOption.filter fun a => (registry.heap a).isNone
      some { s with
        registry := registry
        reaped := s.reaped ++ gone.map fun a => (now, s.heard a) }
  | .remove fd => do
      let registry ← s.registry.wsRegistryRemove fd
      some { s with registry := registry }
  | .setUserId fd userId => do
      let registry ← s.registry.wsRegistrySetUserId fd userId
      some { s with registry := registry }

/-- One event of a run, which ends where memory is misused. -/
def step (malloc : (n : Nat) → Buffer n) (parse : List UInt8 → Option WsMessage)
    (s : Option WsActivity) (e : ActivityEvent) : Option WsActivity :=
  s.bind fun s => s.onEvent malloc parse e

/-- The reaper has only removed clients from which no frame had come for 90 seconds. -/
def Spared (s : WsActivity) : Prop :=
  ∀ r ∈ s.reaped, ∀ t ∈ r.2, ¬ (t ≤ r.1 ∧ r.1 ≤ t + 90)

/-- At a pass of the reaper, a client has been refreshed in the last 90 seconds if its descriptor
leads to one from which a frame has come in these 90 seconds. -/
def Refreshed (s : WsActivity) : ActivityEvent → Prop
  | .reaper now => ∀ b c a, s.registry.heap b = some c → s.registry.findByFd c.fd = some a →
      (∃ t ∈ s.heard a, t ≤ now ∧ now ≤ t + 90) → now ≤ s.refreshed b + 90
  | _ => True

/-- The invariant of the runs. -/
structure Tracked (s : WsActivity) : Prop where
  indexed : s.registry.Indexed
  refreshed : ∀ a c, s.registry.heap a = some c → c.lastSeen = s.refreshed a

variable {s s' : WsActivity} {malloc : (n : Nat) → Buffer n}
  {parse : List UInt8 → Option WsMessage}

open HalmosWSRegistry (init_indexed addClient_lastSeen)

theorem init_tracked : init.Tracked := ⟨init_indexed, fun _ _ h => nomatch h⟩

/-! ### The events that are not passes -/

theorem Tracked.register (h : s.Tracked) (now : Nat) (calloc : Option Addr) (fd : Int)
    (ssl isHttp2 : Bool) (streamId : Nat) : Tracked (WsActivity.register s now calloc
      (s.registry.addClient fd ssl isHttp2 streamId now)) := by
  have hfresh : ∀ x, calloc.filter (fun a => (s.registry.heap a).isNone) = some x →
      s.registry.heap x = none := by
    intro x hx
    simpa using (Option.filter_eq_some_iff.mp hx).2
  refine ⟨?_, fun a c hc => ?_⟩
  · exact h.indexed.addClient fd ssl isHttp2 streamId now hfresh
  · rcases addClient_lastSeen hfresh hc with ⟨hnew, hseen⟩ | ⟨hnew, hold⟩
    · rw [hseen]
      exact (if_pos hnew).symm
    · rw [h.refreshed a c hold]
      exact (if_neg hnew).symm

/-- An operation on the registry that sees no client. -/
theorem Tracked.unseen (h : s.Tracked) {registry : HalmosWSRegistry}
    (hunseen : s.registry.Unseen registry) (heard : Addr → List Nat) :
    Tracked { s with registry := registry, heard := heard } := by
  refine ⟨hunseen.indexed, fun a c' hc' => ?_⟩
  obtain ⟨c, hc, hseen⟩ := hunseen.lastSeen a c' hc'
  exact hseen.trans (h.refreshed a c hc)

/-- What the calls of the dispatcher do, but for those that refresh. -/
theorem onCalls_unseen {fd : Int} {now : Nat} {stack : WsStack} {calls : List WsCall}
    (hcalls : WsCall.wsRegistryUpdateActivity ∉ calls) {r r' : HalmosWSRegistry} (h : r.Indexed)
    (hr' : calls.foldlM (WsSockets.onCall parse fd now stack) r = some r') : r.Unseen r' := by
  induction calls generalizing r with
  | nil =>
      obtain rfl := Option.some.inj hr'
      exact h.unseen
  | cons call calls ih =>
      rw [List.mem_cons, not_or] at hcalls
      rw [List.foldlM_cons] at hr'
      obtain ⟨r₁, hcall, hrest⟩ := Option.bind_eq_some_iff.mp hr'
      have hone : r.Unseen r₁ := by
        cases call with
        | wsSystemSendPong =>
            obtain rfl := Option.some.inj hcall
            exact h.unseen
        | wsRegistryUpdateActivity => exact absurd rfl hcalls.1
        | wsSystemOnMessage data len =>
            obtain ⟨⟨r₂, sends⟩, hmessage, rfl⟩ := Option.map_eq_some_iff.mp hcall
            have hregistry := HalmosWSRegistry.wsSystemOnMessage_registry hmessage
            cases hop : HalmosWSRegistry.messageOp parse fd (data.take len) with
            | none =>
                rw [hop] at hregistry
                obtain rfl := Option.some.inj hregistry
                exact h.unseen
            | some op =>
                rw [hop] at hregistry
                exact h.client_unseen op (HalmosWSRegistry.messageOp_onClient hop)
                  (HalmosWSRegistry.messageOp_unseen hop) hregistry
      exact hone.trans (ih hcalls.2 hone.indexed hrest)

/-- Only a PONG refreshes over HTTP/1.1. -/
theorem dispatchFrame_refreshes (r : RecvStatus) :
    r.opcode? = some wsOpPong ∧ (dispatchFrame r).2 = [.wsRegistryUpdateActivity] ∨
      r.opcode? ≠ some wsOpPong ∧ WsCall.wsRegistryUpdateActivity ∉ (dispatchFrame r).2 := by
  cases r with
  | again => exact .inr ⟨nofun, List.not_mem_nil⟩
  | fatal => exact .inr ⟨nofun, List.not_mem_nil⟩
  | ok opcode payload len =>
      by_cases hpong : opcode = wsOpPong
      · subst hpong
        exact .inl ⟨rfl, rfl⟩
      · refine .inr ⟨by simpa [RecvStatus.opcode?] using hpong, ?_⟩
        cases payload <;> simp only [dispatchFrame] <;> split_ifs <;> simp

/-- Nothing refreshes over HTTP/2. -/
theorem data_refreshes_nothing {streamId : Nat} {payload : List UInt8} {r : TunnelResult}
    (hr : handleWebsocketDataPayload malloc streamId payload = some r) :
    WsCall.wsRegistryUpdateActivity ∉ r.calls := by
  have hdeliver : ∀ {opcode : Nat} {masked : Bool} {mask : List UInt8} {offset len : Nat},
      tunnelDeliver malloc streamId payload opcode masked mask offset len = some r →
      WsCall.wsRegistryUpdateActivity ∉ r.calls := by
    intro opcode masked mask offset len hr
    unfold tunnelDeliver at hr
    split at hr
    · obtain rfl := Option.some.inj hr
      exact List.not_mem_nil
    · obtain ⟨bytes, -, hr⟩ := Option.bind_eq_some_iff.mp hr
      obtain ⟨copied, -, hr⟩ := Option.bind_eq_some_iff.mp hr
      obtain ⟨ended, -, hr⟩ := Option.bind_eq_some_iff.mp hr
      have hlast : ∃ block, some (⟨if opcode = 0x01 then [.wsSystemOnMessage block len] else [],
          [(streamId, payload.length), (0, payload.length)]⟩ : TunnelResult) = some r := by
        dsimp only at hr
        split at hr
        · obtain ⟨block, -, hr⟩ := Option.bind_eq_some_iff.mp hr
          exact ⟨block, hr⟩
        · exact ⟨ended, hr⟩
      obtain ⟨block, hr⟩ := hlast
      obtain rfl := Option.some.inj hr
      dsimp only
      split <;> simp
  have hnothing : some TunnelResult.nothing = some r →
      WsCall.wsRegistryUpdateActivity ∉ r.calls := by
    rintro ⟨⟩
    exact List.not_mem_nil
  unfold handleWebsocketDataPayload at hr
  split at hr
  · unfold tunnelFrame at hr
    split at hr
    · cases hr
    · exact hnothing hr
    · split at hr
      · cases hr
      · exact hnothing hr
      · split at hr
        · exact hnothing hr
        · exact hdeliver hr
  · exact hnothing hr

/-- The client a descriptor leads to is refreshed. -/
theorem Tracked.pong (h : s.Tracked) {fd : Int} {now : Nat} {registry : HalmosWSRegistry}
    (hseen : s.registry.wsRegistryUpdateActivity fd now = some registry)
    (heard : Addr → List Nat) : Tracked { s with
      registry := registry
      heard := heard
      refreshed := fun a => if s.registry.findByFd fd = some a then now else s.refreshed a } := by
  unfold HalmosWSRegistry.wsRegistryUpdateActivity at hseen
  cases hfind : s.registry.findByFd fd with
  | none =>
      rw [hfind] at hseen
      obtain rfl := Option.some.inj hseen
      exact ⟨h.indexed, fun a c hc => by simpa using h.refreshed a c hc⟩
  | some x =>
      obtain ⟨d, hd, -⟩ := h.indexed.findByFd hfind
      simp only [hfind, hd] at hseen
      obtain rfl := Option.some.inj hseen
      refine ⟨h.indexed.of_update hd rfl rfl rfl rfl rfl rfl, fun a c hc => ?_⟩
      rcases update_eq_some_iff.mp hc with ⟨rfl, hnew⟩ | ⟨hne, hc⟩
      · obtain rfl := Option.some.inj hnew
        simp
      · simpa [Ne.symm hne] using h.refreshed a c hc

theorem Tracked.onEvent (h : s.Tracked) {e : ActivityEvent} (hpass : ∀ now, e ≠ .reaper now)
    (hs' : s.onEvent malloc parse e = some s') : s'.Tracked ∧ s'.reaped = s.reaped := by
  cases e with
  | add fd ssl now calloc =>
      obtain rfl := Option.some.inj hs'
      exact ⟨h.register now calloc fd ssl false 0, rfl⟩
  | addH2 fd ssl streamId now calloc =>
      obtain rfl := Option.some.inj hs'
      exact ⟨h.register now calloc fd ssl true streamId, rfl⟩
  | frame fd now stack r =>
      obtain ⟨registry, hcalls, hs'⟩ := Option.bind_eq_some_iff.mp hs'
      obtain rfl := Option.some.inj hs'
      refine ⟨?_, rfl⟩
      rcases dispatchFrame_refreshes r with ⟨hpong, hcall⟩ | ⟨hpong, hno⟩
      · rw [hcall, List.foldlM_cons] at hcalls
        obtain ⟨registry', hseen, hsame⟩ := Option.bind_eq_some_iff.mp hcalls
        obtain rfl := Option.some.inj hsame
        simp only [hpong, true_and]
        exact h.pong hseen _
      · have hunseen := onCalls_unseen hno h.indexed hcalls
        have htracked := h.unseen hunseen s.heard
        exact ⟨htracked.indexed, fun a c hc => by simpa [hpong] using htracked.refreshed a c hc⟩
  | data fd streamId now stack payload =>
      obtain ⟨r, hr, hs'⟩ := Option.bind_eq_some_iff.mp hs'
      obtain ⟨registry, hcalls, hs'⟩ := Option.bind_eq_some_iff.mp hs'
      obtain rfl := Option.some.inj hs'
      exact ⟨h.unseen (onCalls_unseen (data_refreshes_nothing hr) h.indexed hcalls) _, rfl⟩
  | heartbeat =>
      obtain ⟨pinged, -, hs'⟩ := Option.bind_eq_some_iff.mp hs'
      obtain rfl := Option.some.inj hs'
      exact ⟨h, rfl⟩
  | reaper now => exact absurd rfl (hpass now)
  | remove fd =>
      obtain ⟨registry, hremove, hs'⟩ := Option.bind_eq_some_iff.mp hs'
      obtain rfl := Option.some.inj hs'
      obtain ⟨registry', hremove', hindexed, -, hheap⟩ := h.indexed.remove_heap fd
      obtain rfl := Option.some.inj (hremove'.symm.trans hremove)
      refine ⟨⟨hindexed, fun a c hc => ?_⟩, rfl⟩
      rw [hheap] at hc
      split at hc
      · cases hc
      · exact h.refreshed a c hc
  | setUserId fd userId =>
      obtain ⟨registry, hset, hs'⟩ := Option.bind_eq_some_iff.mp hs'
      obtain rfl := Option.some.inj hs'
      have hunseen := h.indexed.client_unseen (.setUserId fd userId) trivial nofun hset
      exact ⟨h.unseen hunseen s.heard, rfl⟩

/-! ### The passes -/

/-- A pass, by whom it removes. -/
theorem Tracked.pass (h : s.Tracked) (malloc : (n : Nat) → Buffer n)
    (parse : List UInt8 → Option WsMessage) (now : Nat) :
    ∃ s', s.onEvent malloc parse (.reaper now) = some s' ∧ s'.Tracked ∧
      ∀ r, r ∈ s'.reaped ↔
        r ∈ s.reaped ∨ ∃ a, s.registry.Overdue now a ∧ r = (now, s.heard a) := by
  obtain ⟨registry, hreaper, hindexed, hheap⟩ := h.indexed.reaper_heap now
  have hpass : s.onEvent malloc parse (.reaper now) = some { s with
      registry := registry
      reaped := s.reaped ++ (s.registry.clients.reduceOption.filter fun a =>
        (registry.heap a).isNone).map fun a => (now, s.heard a) } := by
    simp only [WsActivity.onEvent, hreaper, Option.bind_eq_bind, Option.bind_some]
  refine ⟨_, hpass, ?_, ?_⟩
  · refine ⟨hindexed, fun a c hc => ?_⟩
    rw [hheap] at hc
    split at hc
    · cases hc
    · exact h.refreshed a c hc
  · intro r
    have hgone : ∀ a, (a ∈ s.registry.clients.reduceOption ∧ (registry.heap a).isNone = true) ↔
        s.registry.Overdue now a := by
      intro a
      rw [List.reduceOption_mem_iff, h.indexed.slots_live, hheap]
      constructor
      · rintro ⟨hlive, hnone⟩
        by_contra hdue
        rw [if_neg hdue, Option.isNone_iff_eq_none] at hnone
        simp [hnone] at hlive
      · rintro ⟨b, c, hc, hseen, hfind⟩
        obtain ⟨d, hd, -⟩ := h.indexed.findByFd hfind
        exact ⟨by simp [hd], by rw [if_pos ⟨b, c, hc, hseen, hfind⟩]; rfl⟩
    rw [List.mem_append, List.mem_map]
    simp only [List.mem_filter, hgone, @eq_comm _ _ r]

/-- A pass spares the clients that are not silent exactly if they are refreshed. -/
theorem Tracked.pass_spared (h : s.Tracked) {now : Nat}
    (hs' : s.onEvent malloc parse (.reaper now) = some s') (hspared : s.Spared) :
    s'.Spared ↔ s.Refreshed (.reaper now) := by
  obtain ⟨s'', hs'', -, hreaped⟩ := h.pass malloc parse now
  obtain rfl := Option.some.inj (hs''.symm.trans hs')
  constructor
  · rintro hgood b c a hc hfind ⟨t, ht, hrecent⟩
    by_contra hlate
    have hdue : s.registry.Overdue now a := by
      refine ⟨b, c, hc, ?_, hfind⟩
      rw [h.refreshed b c hc]
      omega
    exact hgood (now, s.heard a) ((hreaped _).mpr (.inr ⟨a, hdue, rfl⟩)) t ht hrecent
  · intro hrefreshed r hr t ht hrecent
    rcases (hreaped r).mp hr with hr | ⟨a, ⟨b, c, hc, hseen, hfind⟩, rfl⟩
    · exact hspared r hr t ht hrecent
    · have hin := hrefreshed b c a hc hfind ⟨t, ht, hrecent⟩
      rw [h.refreshed b c hc] at hseen
      omega

/-- A property of the clients, up to where memory is misused. -/
def SoFar (P : WsActivity → Prop) (s : Option WsActivity) : Prop := ∀ r, s = some r → P r

/-- Every pass is `Refreshed`. -/
def StaysRefreshed (s : Option WsActivity) (e : ActivityEvent) : Prop :=
  SoFar (fun r => r.Refreshed e) s

end WsActivity

open WsActivity in
/-- **Whom the reaper removes**: in every state of a run, the clients removed had been silent for
90 seconds, if and only if at each pass every client has been refreshed in the last 90 seconds whose
descriptor leads to one that has not been silent. -/
theorem reaper_run (malloc : (n : Nat) → Buffer n) (parse : List UInt8 → Option WsMessage)
    (events : List ActivityEvent) :
    (∀ done, done <+: events → SoFar Spared (runSteps (step malloc parse) (some .init) done)) ↔
      GuardedRun StaysRefreshed (step malloc parse) (some .init) events := by
  refine GuardedRun.iff_forall_prefix (SoFar fun r => r.Tracked ∧ r.Spared)
    (fun s hs r hr => (hs r hr).2) ?_ ?_ ?_ (guardedRun_true _ events)
  · rintro s e hs - hrefreshed s' hs'
    obtain ⟨r, rfl, hs'⟩ := Option.bind_eq_some_iff.mp hs'
    obtain ⟨htracked, hspared⟩ := hs r rfl
    by_cases hpass : ∃ now, e = .reaper now
    · obtain ⟨now, rfl⟩ := hpass
      obtain ⟨s'', hs'', htracked', -⟩ := htracked.pass malloc parse now
      obtain rfl := Option.some.inj (hs''.symm.trans hs')
      exact ⟨htracked', (htracked.pass_spared hs'' hspared).mpr (hrefreshed r rfl)⟩
    · obtain ⟨htracked', hreaped⟩ := htracked.onEvent (not_exists.mp hpass) hs'
      refine ⟨htracked', ?_⟩
      unfold Spared
      rw [hreaped]
      exact hspared
  · intro s e hs _ hlate hgood
    refine hlate fun r hr => ?_
    subst hr
    obtain ⟨htracked, hspared⟩ := hs r rfl
    cases e with
    | reaper now =>
        obtain ⟨s', hs', -⟩ := htracked.pass malloc parse now
        exact (htracked.pass_spared hs' hspared).mp (hgood s' hs')
    | _ => trivial
  · rintro _ ⟨⟩
    exact ⟨init_tracked, fun _ hr => nomatch hr⟩

open WsActivity in
/-- A text over HTTP/1.1 and a PONG over HTTP/2 come 31 seconds before the pass that removes both
clients. -/
theorem talking_clients_removed :
    let malloc : (n : Nat) → Buffer n := fun n => .zeros n
    let stack : WsStack := ⟨.zeros 4096, .zeros 65535⟩
    let events : List ActivityEvent :=
      [.add 5 false 100 (some 0), .addH2 6 true 1 100 (some 1), .heartbeat, .reaper 130,
        .frame 5 160 stack (.ok wsOpText (some (ascii "hello" ++ [0])) 5),
        .data 6 1 160 stack [0x8A, 0x80, 1, 2, 3, 4], .heartbeat, .reaper 160,
        .heartbeat, .reaper 191]
    ∃ s, runSteps (step malloc fun _ => none) (some .init) events = some s ∧
      s.reaped = [(191, [160]), (191, [160])] ∧ s.registry.findByFd 5 = none ∧
      s.registry.findByFd 6 = none ∧ ¬ s.Spared := by
  intro malloc stack events
  have hrun : (runSteps (step malloc fun _ => none) (some .init) events).map (fun s =>
      (s.reaped, s.registry.findByFd 5, s.registry.findByFd 6))
        = some ([(191, [160]), (191, [160])], none, none) := by decide +kernel
  obtain ⟨s, hs, hend⟩ := Option.map_eq_some_iff.mp hrun
  obtain ⟨hreaped, hfinds⟩ := Prod.mk.inj hend
  obtain ⟨hfirst, hsecond⟩ := Prod.mk.inj hfinds
  refine ⟨s, hs, hreaped, hfirst, hsecond, fun hspared => ?_⟩
  exact hspared (191, [160]) (by simp [hreaped]) 160 (by simp) (by decide)

end Halmos.WebSocket
