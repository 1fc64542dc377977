import Halmos.Basic.Bytes
import Halmos.Basic.Runs

set_option autoImplicit false

/-! # Protocol sessions of a connection slot

A slot of the table of connections keeps the session of the protocol that was detected, and the
function that destroys it. The managers of HTTP/1 and HTTP/2 install a session in an empty slot; the
next activation, the cleanup, the deactivation and the end of the table destroy it. The upgrade to
WebSocket empties the slot and destroys nothing, so a slot frees each session once as long as no
request is such an upgrade (`session_run`).
-/

namespace Halmos.Core

/-! ## The slot -/

/-- `http1_session_destroy` and `http2_session_destroy`, by which the protocol is recognised. -/
inductive SessionDestroy
  | http1
  | http2
  deriving DecidableEq

/-- `halmos_conn_t`, as far as its session goes, with the mark of its descriptor as a WebSocket. The
sessions of the slot are numbered as they are installed; `destroyed` is the history of the calls of
a destructor. -/
structure SessionSlot where
  fd : Int
  present : Bool
  isWebsocketFd : Bool
  protocolSession : Option Nat
  protocolSessionDestroy : Option SessionDestroy
  installed : Nat
  destroyed : List Nat
  deriving DecidableEq

/-- `core_conn_t_init`: `present` says that the table exists. -/
def SessionSlot.init (fd : Int) : SessionSlot where
  fd := fd
  present := true
  isWebsocketFd := false
  protocolSession := none
  protocolSessionDestroy := none
  installed := 0
  destroyed := []

/-- `if (conn->protocol_session && conn->protocol_session_destroy)`: the destructor is called. -/
def SessionSlot.callDestroy (c : SessionSlot) : SessionSlot :=
  match c.protocolSession, c.protocolSessionDestroy with
  | some session, some _ => { c with destroyed := c.destroyed ++ [session] }
  | _, _ => c

/-- `core_conn_t_destroy_protocol_session`. -/
def coreConnDestroyProtocolSession (c : SessionSlot) : SessionSlot :=
  { c.callDestroy with protocolSession := none, protocolSessionDestroy := none }

/-- `core_conn_t_activate`. -/
def coreConnActivate (c : SessionSlot) : SessionSlot :=
  if c.present = true then coreConnDestroyProtocolSession c else c

/-- `core_conn_t_deactivate`. -/
def coreConnDeactivate (c : SessionSlot) : SessionSlot :=
  if c.present = true then coreConnDestroyProtocolSession c else c

/-- `core_conn_t_destroy`, which leaves a slot without a session or a destructor as it is. -/
def coreConnDestroy (c : SessionSlot) : SessionSlot :=
  match c.protocolSession, c.protocolSessionDestroy with
  | some _, some _ => { coreConnDestroyProtocolSession c with present := false }
  | _, _ => { c with present := false }

/-- `MAX_FDS`. -/
def maxFds : Int := 65536

/-- `halmos_set_websocket_fd`. -/
def halmosSetWebsocketFd (c : SessionSlot) (status : Bool) : SessionSlot :=
  if 0 ≤ c.fd ∧ c.fd < maxFds then { c with isWebsocketFd := status } else c

/-- `core_event_loop_cleanup_connection`, as far as the session goes: a slot that has gone has none
to clean up. -/
def coreEventLoopCleanupConnection (c : SessionSlot) : SessionSlot :=
  if c.present = true then
    coreConnDestroyProtocolSession
      (if c.isWebsocketFd = true then halmosSetWebsocketFd c false else c)
  else c

/-! ## The managers -/

/-- What the routing of HTTP/1 asks of a request. -/
structure RoutedRequest where
  isUpgrade : Bool
  uri : List UInt8
  deriving DecidableEq

/-- `session->req.is_upgrade && strcmp(session->req.uri, "/ws") == 0`. -/
def RoutedRequest.TakesOver (req : RoutedRequest) : Prop :=
  req.isUpgrade = true ∧ req.uri = ascii "/ws"

instance (req : RoutedRequest) : Decidable req.TakesOver :=
  inferInstanceAs (Decidable (req.isUpgrade = true ∧ req.uri = ascii "/ws"))

/-- `http1_manager_routing_bridge`: an upgrade hands the descriptor over to the WebSocket module,
and the session is forgotten. -/
def http1ManagerRoutingBridge (c : SessionSlot) (req : RoutedRequest) : SessionSlot :=
  if req.TakesOver then { halmosSetWebsocketFd c true with protocolSession := none } else c

/-- A manager installs a session in an empty slot. -/
def SessionSlot.install (c : SessionSlot) (destroy : SessionDestroy) : SessionSlot :=
  match c.protocolSession with
  | some _ => c
  | none =>
      { c with
        protocolSession := some c.installed
        protocolSessionDestroy := some destroy
        installed := c.installed + 1 }

/-- `http1_manager_session`, with the request that it routes in this pass, if it has read one. -/
def http1ManagerSession (c : SessionSlot) (request : Option RoutedRequest) : SessionSlot :=
  match request with
  | some req => http1ManagerRoutingBridge (c.install .http1) req
  | none => c.install .http1

/-- `http2_manager_session`: an allocation that fails installs nothing. -/
def http2ManagerSession (c : SessionSlot) (calloc : Bool) : SessionSlot :=
  if calloc = true then c.install .http2 else c

/-- What the detection of the protocol comes to; `none` ends before it. -/
inductive Detected
  | none
  | retry
  | http1
  | http2
  | unknown
  deriving DecidableEq

/-- What a dispatch meets: the protocol it detects if it has to, the request that HTTP/1 routes, and
whether HTTP/2 finds memory. -/
structure Dispatch where
  detected : Detected
  request : Option RoutedRequest
  calloc : Bool
  deriving DecidableEq

/-- `http_bridge_dispatch`. -/
def httpBridgeDispatch (c : SessionSlot) (d : Dispatch) : SessionSlot :=
  if c.isWebsocketFd = true then c
  else if c.present = false then c
  else
    match c.protocolSession with
    | some _ =>
        match c.protocolSessionDestroy with
        | some .http1 => http1ManagerSession c d.request
        | some .http2 => http2ManagerSession c d.calloc
        | none => c
    | none =>
        match d.detected with
        | .http1 => http1ManagerSession c d.request
        | .http2 => http2ManagerSession c d.calloc
        | _ => c

/-! ## Runs -/

/-- What happens to a slot; each of these has the slot to itself. -/
inductive SlotStep
  | activate
  | dispatch (d : Dispatch)
  | cleanup
  | deactivate
  | destroy
  deriving DecidableEq

def SessionSlot.step (c : SessionSlot) : SlotStep → SessionSlot
  | .activate => coreConnActivate c
  | .dispatch d => httpBridgeDispatch c d
  | .cleanup => coreEventLoopCleanupConnection c
  | .deactivate => coreConnDeactivate c
  | .destroy => coreConnDestroy c

/-- The condition on a step: HTTP/1 routes no request that WebSocket takes over. -/
def SessionSlot.Keeps (_ : SessionSlot) : SlotStep → Prop
  | .dispatch d => ∀ req, d.request = some req → ¬ req.TakesOver
  | _ => True

/-- Every session is in the slot or was destroyed, once. -/
structure SessionSlot.Owned (c : SessionSlot) : Prop where
  once : c.destroyed.Nodup
  known : ∀ session ∈ c.destroyed, session < c.installed
  current : ∀ session, c.protocolSession = some session →
    session < c.installed ∧ session ∉ c.destroyed ∧ c.protocolSessionDestroy ≠ none
  all : ∀ session < c.installed, session ∈ c.destroyed ∨ c.protocolSession = some session

section Owned

variable {c : SessionSlot}

/-- A slot whose session was destroyed has destroyed them all. -/
theorem owned_clear (h : c.Owned) :
    (coreConnDestroyProtocolSession c).Owned
      ∧ ∀ session < c.installed, session ∈ (coreConnDestroyProtocolSession c).destroyed := by
  unfold coreConnDestroyProtocolSession SessionSlot.callDestroy
  cases hs : c.protocolSession with
  | none =>
      have hall : ∀ session < c.installed, session ∈ c.destroyed := by
        intro session hlt
        refine (h.all session hlt).resolve_right ?_
        rw [hs]
        exact (Option.some_ne_none session).symm
      exact ⟨⟨h.once, h.known, fun _ hnone => (nomatch hnone),
        fun session hlt => Or.inl (hall session hlt)⟩, hall⟩
  | some current =>
      obtain ⟨hlt, hnot, hdestroy⟩ := h.current current hs
      obtain ⟨destroy, hd⟩ := Option.ne_none_iff_exists'.mp hdestroy
      rw [hd]
      dsimp only
      have hall : ∀ session < c.installed, session ∈ c.destroyed ++ [current] := by
        intro session hbefore
        rw [List.mem_append, List.mem_singleton]
        refine (h.all session hbefore).imp_right ?_
        rw [hs]
        exact fun heq => (Option.some.inj heq).symm
      refine ⟨⟨?_, ?_, fun _ hnone => (nomatch hnone),
        fun session hbefore => Or.inl (hall session hbefore)⟩, hall⟩
      · rw [List.nodup_append]
        refine ⟨h.once, List.nodup_singleton current, ?_⟩
        rintro session hmem x hx rfl
        rw [List.mem_singleton] at hx
        exact hnot (hx ▸ hmem)
      · intro session hmem
        rw [List.mem_append, List.mem_singleton] at hmem
        rcases hmem with hmem | rfl
        · exact h.known session hmem
        · exact hlt

theorem owned_install (h : c.Owned) (destroy : SessionDestroy) : (c.install destroy).Owned := by
  unfold SessionSlot.install
  cases hs : c.protocolSession with
  | some current => exact h
  | none =>
      refine ⟨h.once, ?_, ?_, ?_⟩
      · exact fun session hmem => Nat.lt_succ_of_lt (h.known session hmem)
      · intro session hsession
        obtain rfl := Option.some.inj hsession
        refine ⟨Nat.lt_succ_self _, ?_, Option.some_ne_none _⟩
        exact fun hmem => absurd (h.known _ hmem) (Nat.lt_irrefl _)
      · intro session hlt
        rcases Nat.lt_succ_iff_lt_or_eq.mp hlt with hlt | rfl
        · refine Or.inl ((h.all session hlt).resolve_right ?_)
          rw [hs]
          exact (Option.some_ne_none session).symm
        · exact Or.inr rfl

theorem owned_http1 {request : Option RoutedRequest} (h : c.Owned)
    (hkeeps : ∀ req, request = some req → ¬ req.TakesOver) :
    (http1ManagerSession c request).Owned := by
  unfold http1ManagerSession
  cases request with
  | none => exact owned_install h .http1
  | some req =>
      unfold http1ManagerRoutingBridge
      dsimp only
      rw [if_neg (hkeeps req rfl)]
      exact owned_install h .http1

theorem owned_http2 (h : c.Owned) (calloc : Bool) : (http2ManagerSession c calloc).Owned := by
  unfold http2ManagerSession
  split
  · exact owned_install h .http2
  · exact h

theorem owned_dispatch {d : Dispatch} (h : c.Owned)
    (hkeeps : ∀ req, d.request = some req → ¬ req.TakesOver) : (httpBridgeDispatch c d).Owned := by
  unfold httpBridgeDispatch
  split
  · exact h
  · split
    · exact h
    · split
      · split
        · exact owned_http1 h hkeeps
        · exact owned_http2 h d.calloc
        · exact h
      · split
        · exact owned_http1 h hkeeps
        · exact owned_http2 h d.calloc
        · exact h

/-- The mark of the descriptor is not the session's. -/
theorem owned_setWebsocketFd (h : c.Owned) (status : Bool) :
    (halmosSetWebsocketFd c status).Owned := by
  unfold halmosSetWebsocketFd
  split
  · exact ⟨h.once, h.known, h.current, h.all⟩
  · exact h

theorem owned_destroy (h : c.Owned) :
    (coreConnDestroy c).Owned ∧ ∀ session < c.installed, session ∈ (coreConnDestroy c).destroyed := by
  obtain ⟨hclear, hall⟩ := owned_clear h
  unfold coreConnDestroy
  split
  · exact ⟨⟨hclear.once, hclear.known, hclear.current, hclear.all⟩, hall⟩
  · next hnone =>
      have hempty : c.protocolSession = none := by
        cases hs : c.protocolSession with
        | none => rfl
        | some current =>
            obtain ⟨-, -, hdestroy⟩ := h.current current hs
            obtain ⟨destroy, hd⟩ := Option.ne_none_iff_exists'.mp hdestroy
            exact absurd hd (hnone current destroy hs)
      refine ⟨⟨h.once, h.known, h.current, h.all⟩, fun session hlt => ?_⟩
      refine (h.all session hlt).resolve_right ?_
      rw [hempty]
      exact (Option.some_ne_none session).symm

/-- **A step that hands nothing over** keeps every session in the slot or destroyed once. -/
theorem owned_step {i : SlotStep} (h : c.Owned) (hi : c.Keeps i) : (c.step i).Owned := by
  cases i with
  | activate =>
      unfold SessionSlot.step coreConnActivate
      dsimp only
      split
      · exact (owned_clear h).1
      · exact h
  | dispatch d => exact owned_dispatch h hi
  | cleanup =>
      unfold SessionSlot.step coreEventLoopCleanupConnection
      dsimp only
      split
      · split
        · exact (owned_clear (owned_setWebsocketFd h false)).1
        · exact (owned_clear h).1
      · exact h
  | deactivate =>
      unfold SessionSlot.step coreConnDeactivate
      dsimp only
      split
      · exact (owned_clear h).1
      · exact h
  | destroy => exact (owned_destroy h).1

end Owned

theorem owned_init (fd : Int) : (SessionSlot.init fd).Owned :=
  ⟨List.nodup_nil, fun _ hmem => absurd hmem List.not_mem_nil, fun _ hnone => (nomatch hnone),
    fun session hlt => absurd hlt (Nat.not_lt_zero session)⟩

/-- **Every run that hands no session over**: each session is destroyed at most once, the current one
is not, and every session installed before an activation or before the end of the table is destroyed
by then, exactly once. -/
theorem session_run (fd : Int) {is : List SlotStep}
    (h : GuardedRun SessionSlot.Keeps SessionSlot.step (SessionSlot.init fd) is) :
    let c := runSteps SessionSlot.step (SessionSlot.init fd) is
    (∀ session, c.destroyed.count session ≤ 1)
      ∧ (∀ session, c.protocolSession = some session → c.destroyed.count session = 0)
      ∧ (c.present = true → ∀ session < c.installed,
          (c.step .activate).destroyed.count session = 1)
      ∧ ∀ session < c.installed, (c.step .destroy).destroyed.count session = 1 := by
  intro c
  have hc : c.Owned :=
    GuardedRun.invariant (fun _ _ hbefore hi => owned_step hbefore hi) (owned_init fd) h
  refine ⟨List.nodup_iff_count_le_one.mp hc.once, ?_, ?_, ?_⟩
  · intro session hsession
    exact List.count_eq_zero_of_not_mem (hc.current session hsession).2.1
  · intro hpresent session hlt
    obtain ⟨hclear, hall⟩ := owned_clear hc
    have hactivate : c.step .activate = coreConnDestroyProtocolSession c := if_pos hpresent
    rw [hactivate]
    exact List.count_eq_one_of_mem hclear.once (hall session hlt)
  · intro session hlt
    obtain ⟨hdestroy, hall⟩ := owned_destroy hc
    exact List.count_eq_one_of_mem hdestroy.once (hall session hlt)

/-- Two requests on one connection, and the next connection of the slot. -/
theorem session_run_two :
    let is := [SlotStep.activate, .dispatch ⟨.http1, none, true⟩,
      .dispatch ⟨.retry, some ⟨false, ascii "/"⟩, true⟩, .cleanup, .activate,
      .dispatch ⟨.http2, none, true⟩]
    let c := runSteps SessionSlot.step (SessionSlot.init 7) is
    c.destroyed = [0] ∧ c.protocolSession = some 1
      ∧ (c.step .destroy).destroyed.count 1 = 1 := by
  intro is c
  have hrun : GuardedRun SessionSlot.Keeps SessionSlot.step (SessionSlot.init 7) is := by
    refine ⟨trivial, ?_, ?_, trivial, trivial, ?_, trivial⟩
    · exact fun req hreq => nomatch hreq
    · rintro req hreq ⟨hup, -⟩
      cases hreq
      cases hup
    · exact fun req hreq => nomatch hreq
  exact ⟨by decide, by decide, (session_run 7 hrun).2.2.2 1 (by decide)⟩

/-- An upgrade to WebSocket on descriptor 7: its session is never destroyed, neither by the cleanup
nor by the next activation nor with the table. -/
theorem upgrade_leaks :
    let c := runSteps SessionSlot.step (SessionSlot.init 7)
      [.activate, .dispatch ⟨.http1, some ⟨true, ascii "/ws"⟩, true⟩, .cleanup, .activate, .destroy]
    c.installed = 1 ∧ c.destroyed = [] ∧ c.protocolSession = none := by
  decide

end Halmos.Core
