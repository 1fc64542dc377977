import Halmos.Http2.Socket
import Halmos.WebSocket.Dispatch
import Halmos.WebSocket.Messages
import Halmos.WebSocket.ReceiveSafe

set_option autoImplicit false

/-! # Descriptors marked as WebSockets

What the server keeps for a descriptor of a WebSocket: the mark in `ws_fd_map`, the state of the
receiver, the client in the registry and the descriptor itself. An upgrade sets the mark whatever
becomes of its handshake, and the maintenance thread closes descriptors and removes clients, but
leaves the mark and the receiver's state. So a marked descriptor belongs to a connection that has
completed its handshake and is registered, in every state of a run, if and only if every upgrade
writes its whole response and finds a slot, and the maintenance thread neither closes nor removes
a marked descriptor (`marked_run`).
-/

namespace Halmos.WebSocket

open Http2 (WriteResult)

/-! ## The handshake -/

/-- `WS_GUID`. -/
def wsGuid : List UInt8 := ascii "258EAFA5-E914-47DA-95CA-C5AB0DC85B11"

/-- `table[..]` of `ws_base64_encode`. -/
def base64Char (i : UInt8) : UInt8 :=
  (ascii "ABCDEFGHIJKLMNOPQRSTUVWXYZabcdefghijklmnopqrstuvwxyz0123456789+/").getD i.toNat 0

/-- `ws_base64_encode(input, length)`. -/
def wsBase64Encode : List UInt8 → List UInt8
  | a :: b :: c :: input =>
      base64Char ((a >>> 2) &&& 0x3F) :: base64Char (((a &&& 0x3) <<< 4) ||| (b >>> 4)) ::
        base64Char (((b &&& 0xF) <<< 2) ||| (c >>> 6)) :: base64Char (c &&& 0x3F) ::
        wsBase64Encode input
  | [a, b] =>
      [base64Char ((a >>> 2) &&& 0x3F), base64Char (((a &&& 0x3) <<< 4) ||| (b >>> 4)),
        base64Char ((b &&& 0xF) <<< 2), 0x3D]
  | [a] => [base64Char ((a >>> 2) &&& 0x3F), base64Char ((a &&& 0x3) <<< 4), 0x3D, 0x3D]
  | [] => []

/-- `ws_create_accept_key(client_key)`, with a parameter for `SHA1`. -/
def wsCreateAcceptKey (sha1 : List UInt8 → Buffer 20) (clientKey : List UInt8) : List UInt8 :=
  wsBase64Encode (sha1 ((clientKey ++ wsGuid).take 255)).bytes

/-- The response of `ws_upgrade_handshake`. -/
def handshakeResponse (acceptKey : List UInt8) : List UInt8 :=
  ascii "HTTP/1.1 101 Switching Protocols\r\nUpgrade: websocket\r\nConnection: Upgrade\r\n"
    ++ ascii "Sec-WebSocket-Accept: " ++ acceptKey ++ ascii "\r\nServer: Halmos-Savage/2.1\r\n\r\n"

theorem length_wsBase64Encode (input : List UInt8) :
    (wsBase64Encode input).length = 4 * ((input.length + 2) / 3) := by
  fun_induction wsBase64Encode input with
  | case1 a b c input ih =>
      simp only [List.length_cons, ih]
      omega
  | case2 a b => simp
  | case3 a => simp
  | case4 => simp

/-- The response fits the array `response[512]`. -/
theorem length_handshakeResponse (sha1 : List UInt8 → Buffer 20) (clientKey : List UInt8) :
    (handshakeResponse (wsCreateAcceptKey sha1 clientKey)).length < 512 := by
  have hlen : (wsCreateAcceptKey sha1 clientKey).length = 28 := by
    rw [wsCreateAcceptKey, length_wsBase64Encode, Buffer.length_eq]
  have hrest : (handshakeResponse []).length = 128 := by decide +kernel
  simp only [handshakeResponse, List.length_append, List.length_nil] at hrest ⊢
  omega

theorem length_handshakeResponse_pos (acceptKey : List UInt8) :
    0 < (handshakeResponse acceptKey).length := by
  have htail : (ascii "\r\nServer: Halmos-Savage/2.1\r\n\r\n").length = 31 := by decide +kernel
  simp only [handshakeResponse, List.length_append]
  omega

/-! ## The descriptors -/

/-- What there is for the descriptors. The kernel knows the connection that owns a descriptor; of
each connection it is recorded whether its `101` has been written as a whole, of each state of the
receiver whose frame it is in the middle of, and of each client who registered it. `deadFds` and
`closed` are where the maintenance thread is: the descriptors it has still to remove, and whether
the first of them has been closed. -/
structure WsSockets where
  owner : Int → Option Nat
  nextConn : Nat
  completed : Nat → Bool
  wsFdMap : Int → Bool
  recvStates : RecvStates
  begunBy : Int → Option Nat
  registry : HalmosWSRegistry
  registeredBy : Addr → Option Nat
  deadFds : List Int
  closed : Bool

/-- What happens on the descriptors. -/
inductive SocketEvent where
  | accept (fd : Int)
  | upgrade (fd : Int) (key : Option (List UInt8)) (ssl : Bool) (write : WriteResult)
      (now : Nat) (calloc : Option Addr)
  | dispatch (fd : Int) (now : Nat) (stack : WsStack) (side : RecvSide)
  | cleanup (fd : Int)
  | maintenance (now : Nat)

namespace WsSockets

/-- Nothing is open. -/
def init : WsSockets where
  owner := fun _ => none
  nextConn := 0
  completed := fun _ => false
  wsFdMap := fun _ => false
  recvStates := fun _ => none
  begunBy := fun _ => none
  registry := wsRegistryInit
  registeredBy := fun _ => none
  deadFds := []
  closed := false

/-- `halmos_is_websocket_fd(fd)`. -/
def isWebsocketFd (s : WsSockets) (fd : Int) : Bool := wsFdIsValid fd && s.wsFdMap fd

/-- `halmos_set_websocket_fd(fd, status)`. -/
def setWebsocketFd (s : WsSockets) (fd : Int) (status : Bool) : WsSockets :=
  if wsFdIsValid fd then { s with wsFdMap := Function.update s.wsFdMap fd status } else s

/-- `ws_upgrade_handshake(sock_client, req)`, without the announcement to the other clients, which
changes nothing here. -/
def wsUpgradeHandshake (sha1 : List UInt8 → Buffer 20) (s : WsSockets) (sockClient : Int)
    (key : Option (List UInt8)) (ssl : Bool) (write : WriteResult) (now : Nat)
    (calloc : Option Addr) : Int × WsSockets :=
  match key, write with
  | none, _ => (-1, s)
  | some _, .wouldBlock => (-2, s)
  | some _, .hardError => (-1, s)
  | some key, .accepted n =>
      if n = 0 then (-1, s)
      else
        let response := handshakeResponse (wsCreateAcceptKey sha1 key)
        let (slot, registry) := s.registry.wsRegistryAdd sockClient ssl now calloc
        let s := { s with
          registry := registry
          completed := fun conn =>
            s.completed conn || (s.owner sockClient = some conn && response.length ≤ n)
          registeredBy := fun a =>
            if slot ≠ -1 ∧ calloc = some a then s.owner sockClient else s.registeredBy a }
        (0, s.setWebsocketFd sockClient true)

/-- The branch of `http1_manager_routing_bridge` for upgrades to `/ws`. -/
def http1ManagerRoutingBridge (sha1 : List UInt8 → Buffer 20) (s : WsSockets) (sockClient : Int)
    (key : Option (List UInt8)) (ssl : Bool) (write : WriteResult) (now : Nat)
    (calloc : Option Addr) : WsSockets :=
  -- the result of the handshake is not looked at
  (s.wsUpgradeHandshake sha1 sockClient key ssl write now calloc).2.setWebsocketFd sockClient true

/-- The calls of `ws_system_dispatch` that change the registry. -/
def onCall (parse : List UInt8 → Option WsMessage) (fd : Int) (now : Nat) (stack : WsStack)
    (registry : HalmosWSRegistry) : WsCall → Option HalmosWSRegistry
  | .wsSystemOnMessage data len =>
      (registry.wsSystemOnMessage parse stack fd (data.take len)).map Prod.fst
  | .wsSystemSendPong => some registry
  | .wsRegistryUpdateActivity => registry.wsRegistryUpdateActivity fd now

/-- `ws_system_dispatch(sock_client)`. -/
def wsSystemDispatch (malloc : (n : Nat) → Buffer n) (parse : List UInt8 → Option WsMessage)
    (s : WsSockets) (fd : Int) (now : Nat) (stack : WsStack) (side : RecvSide) :
    Option WsSockets := do
  let (r, recvStates, _) ← halmosWsRecvFrame malloc fd s.recvStates side
  let registry ← (dispatchFrame r).2.foldlM (onCall parse fd now stack) s.registry
  some { s with
    recvStates := recvStates
    begunBy :=
      if (s.recvStates fd).getD .cleared = .cleared then
        Function.update s.begunBy fd (s.owner fd)
      else s.begunBy
    registry := registry }

/-- `ws_system_cleanup_fd(fd)`. -/
def wsSystemCleanupFd (s : WsSockets) (fd : Int) : Option WsSockets :=
  if s.isWebsocketFd fd then do
    let registry ← s.registry.wsRegistryRemove fd
    some (setWebsocketFd { s with
      recvStates := Function.update s.recvStates fd none
      registry := registry } fd false)
  else some s

/-- `close(fd)`. -/
def close (s : WsSockets) (fd : Int) : WsSockets :=
  { s with owner := Function.update s.owner fd none }

/-- The next step of `ws_registry_reaper` on the maintenance thread: the collection of the silent
clients, the `close` of the first of them or its removal. -/
def wsRegistryReaper (s : WsSockets) (now : Nat) : Option WsSockets :=
  match s.deadFds with
  | [] => do
      let dead ← HalmosWSRegistry.deadFds s.registry.heap now s.registry.clients
      some { s with deadFds := dead }
  | fd :: fds =>
      if s.closed then do
        let registry ← s.registry.wsRegistryRemove fd
        some { s with registry := registry, deadFds := fds, closed := false }
      else some { s.close fd with closed := true }

/-- One event. `http_bridge_dispatch` hands a marked descriptor to `ws_system_dispatch`, and an
upgrade is read on a descriptor that is not marked. -/
def onEvent (sha1 : List UInt8 → Buffer 20) (malloc : (n : Nat) → Buffer n)
    (parse : List UInt8 → Option WsMessage) (s : WsSockets) : SocketEvent → Option WsSockets
  | .accept fd =>
      some (if s.owner fd = none then
        { s with owner := Function.update s.owner fd (some s.nextConn), nextConn := s.nextConn + 1 }
      else s)
  | .upgrade fd key ssl write now calloc =>
      some (if s.owner fd ≠ none ∧ s.isWebsocketFd fd = false then
        s.http1ManagerRoutingBridge sha1 fd key ssl write now calloc
      else s)
  | .dispatch fd now stack side =>
      if s.owner fd ≠ none ∧ s.isWebsocketFd fd = true then
        s.wsSystemDispatch malloc parse fd now stack side
      else some s
  -- `core_event_loop_cleanup_connection`
  | .cleanup fd => (s.wsSystemCleanupFd fd).map fun s => s.close fd
  | .maintenance now => s.wsRegistryReaper now

/-- One event of a run, which ends where memory is misused. -/
def step (sha1 : List UInt8 → Buffer 20) (malloc : (n : Nat) → Buffer n)
    (parse : List UInt8 → Option WsMessage) (s : Option WsSockets) (e : SocketEvent) :
    Option WsSockets :=
  s.bind fun s => s.onEvent sha1 malloc parse e

/-- A marked descriptor belongs to a connection that has completed its `101` response and is
registered, and the receiver is in the middle of no one else's frame. -/
structure Owned (s : WsSockets) : Prop where
  completed : ∀ fd, s.isWebsocketFd fd = true → ∃ conn a, s.owner fd = some conn ∧
    s.completed conn = true ∧ s.registry.findByFd fd = some a ∧ s.registeredBy a = some conn
  own_frame : ∀ fd conn st, s.owner fd = some conn → s.recvStates fd = some st →
    st ≠ .cleared → s.begunBy fd = some conn

/-! ## The invariant -/

/-- Where nothing has gone wrong: the mark, the client and the handshake of a descriptor come and
go together, and only marked descriptors have a frame begun. -/
structure Linked (s : WsSockets) : Prop where
  owned : ∀ fd, s.isWebsocketFd fd = true → ∃ conn a, s.owner fd = some conn ∧
    s.completed conn = true ∧ s.registry.findByFd fd = some a ∧ s.registeredBy a = some conn
  indexed : s.registry.Indexed
  reachable : s.registry.Reachable
  client_marked : ∀ a c, s.registry.heap a = some c → s.isWebsocketFd c.fd = true
  completed_marked : ∀ fd conn, wsFdIsValid fd = true → s.owner fd = some conn →
    s.completed conn = true → s.isWebsocketFd fd = true
  sound : ∀ fd st, s.recvStates fd = some st → st.Sound
  frame_marked : ∀ fd st, s.recvStates fd = some st → st ≠ .cleared →
    s.isWebsocketFd fd = true ∧ s.begunBy fd = s.owner fd
  owner_lt : ∀ fd conn, s.owner fd = some conn → conn < s.nextConn
  completed_lt : ∀ conn, s.completed conn = true → conn < s.nextConn
  owner_inj : ∀ fd other conn, s.owner fd = some conn → s.owner other = some conn → fd = other

theorem init_linked : init.Linked where
  owned := by
    intro fd hfd
    simp [isWebsocketFd, init] at hfd
  indexed := HalmosWSRegistry.init_indexed
  reachable := fun _ _ h => nomatch h
  client_marked := fun _ _ h => nomatch h
  completed_marked := fun _ _ _ h => nomatch h
  sound := fun _ _ h => nomatch h
  frame_marked := fun _ _ h => nomatch h
  owner_lt := fun _ _ h => nomatch h
  completed_lt := fun _ h => nomatch h
  owner_inj := fun _ _ _ h => nomatch h

variable {s : WsSockets} {fd : Int}

theorem valid_of_isWebsocketFd (h : s.isWebsocketFd fd = true) : wsFdIsValid fd = true := by
  simp only [isWebsocketFd, Bool.and_eq_true] at h
  exact h.1

theorem Linked.good (h : s.Linked) : s.Owned where
  completed := h.owned
  own_frame := fun fd _ st hown hst hne => (h.frame_marked fd st hst hne).2.trans hown

/-- A descriptor without a mark has no client. -/
theorem Linked.findByFd_none (h : s.Linked) (hfd : s.isWebsocketFd fd = false) :
    s.registry.findByFd fd = none := by
  cases hfind : s.registry.findByFd fd with
  | none => rfl
  | some a =>
      obtain ⟨c, hc, rfl, -⟩ := h.indexed.findByFd hfind
      simp [h.client_marked a c hc] at hfd

/-! ## The steps -/

/-- An unmarked descriptor changes its owner, for no one or for a connection that is new. -/
theorem Linked.reown (h : s.Linked) (hfd : s.isWebsocketFd fd = false) {owner : Option Nat}
    {next : Nat} (hle : s.nextConn ≤ next)
    (hnew : ∀ conn ∈ owner, conn = s.nextConn ∧ s.nextConn < next) :
    Linked { s with owner := Function.update s.owner fd owner, nextConn := next } := by
  have hno : ∀ other, s.isWebsocketFd other = true → other ≠ fd := by
    rintro other hmark rfl
    simp [hfd] at hmark
  have howner : ∀ other conn, Function.update s.owner fd owner other = some conn →
      other = fd ∧ conn = s.nextConn ∧ s.nextConn < next ∨ other ≠ fd ∧ s.owner other = some conn := by
    intro other conn hown
    rcases update_eq_some_iff.mp hown with ⟨hother, hconn⟩ | hold
    · exact .inl ⟨hother, hnew conn hconn⟩
    · exact .inr hold
  refine ⟨?_, h.indexed, h.reachable, h.client_marked, ?_, h.sound, ?_, ?_, ?_, ?_⟩
  · intro other hmark
    obtain ⟨conn, a, hown, hrest⟩ := h.owned other hmark
    exact ⟨conn, a, (Function.update_of_ne (hno other hmark) _ _).trans hown, hrest⟩
  · intro other conn hvalid hown hdone
    rcases howner other conn hown with ⟨-, rfl, -⟩ | ⟨-, hold⟩
    · exact absurd (h.completed_lt _ hdone) (lt_irrefl _)
    · exact h.completed_marked other conn hvalid hold hdone
  · intro other st hst hne
    obtain ⟨hmark, hbegun⟩ := h.frame_marked other st hst hne
    exact ⟨hmark, hbegun.trans (Function.update_of_ne (hno other hmark) _ _).symm⟩
  · intro other conn hown
    rcases howner other conn hown with ⟨-, rfl, hlt⟩ | ⟨-, hold⟩
    · exact hlt
    · exact (h.owner_lt other conn hold).trans_le hle
  · exact fun conn hdone => (h.completed_lt conn hdone).trans_le hle
  · intro other other' conn hown hown'
    rcases howner other conn hown with ⟨rfl, rfl, -⟩ | ⟨-, hold⟩
    · rcases howner other' _ hown' with ⟨rfl, -⟩ | ⟨-, hold'⟩
      · rfl
      · exact absurd (h.owner_lt other' _ hold') (lt_irrefl _)
    · rcases howner other' conn hown' with ⟨-, rfl, -⟩ | ⟨-, hold'⟩
      · exact absurd (h.owner_lt other _ hold) (lt_irrefl _)
      · exact h.owner_inj other other' conn hold hold'

theorem Linked.accept (h : s.Linked) (hfd : s.owner fd = none) :
    Linked { s with
      owner := Function.update s.owner fd (some s.nextConn), nextConn := s.nextConn + 1 } := by
  -- no one has owned the descriptor so far, so it is not marked
  have hmark : s.isWebsocketFd fd = false := by
    by_contra hno
    obtain ⟨conn, a, hown, -⟩ := h.owned fd (by simpa using hno)
    simp [hfd] at hown
  refine h.reown hmark (Nat.le_succ _) ?_
  rintro conn hconn
  exact ⟨(Option.some.inj hconn).symm, Nat.lt_succ_self _⟩

/-- An unmarked descriptor may be closed. -/
theorem Linked.close (h : s.Linked) (hfd : s.isWebsocketFd fd = false) : (s.close fd).Linked :=
  h.reown hfd (le_refl _) (by simp)

@[simp] theorem isWebsocketFd_setWebsocketFd (status : Bool) (other : Int) :
    (s.setWebsocketFd fd status).isWebsocketFd other
      = if other = fd then wsFdIsValid fd && status else s.isWebsocketFd other := by
  unfold setWebsocketFd isWebsocketFd
  by_cases hother : other = fd
  · subst hother
    cases wsFdIsValid other <;> simp
  · cases hvalid : wsFdIsValid fd <;> simp [hother]

/-- Marking twice is marking once. -/
theorem setWebsocketFd_twice (status : Bool) :
    (s.setWebsocketFd fd status).setWebsocketFd fd status = s.setWebsocketFd fd status := by
  unfold setWebsocketFd
  cases hvalid : wsFdIsValid fd <;> simp

/-! ### Upgrades -/

/-- The response of a handshake is written as a whole. -/
def WritesAll (sha1 : List UInt8 → Buffer 20) (key : Option (List UInt8))
    (write : WriteResult) : Prop :=
  ∃ k n, key = some k ∧ write = .accepted n ∧
    (handshakeResponse (wsCreateAcceptKey sha1 k)).length ≤ n

/-- What the bridge makes of an upgrade: without a response, a mark; with one, a client too, if
there is room. -/
theorem bridge_cases (sha1 : List UInt8 → Buffer 20) (s : WsSockets) (fd : Int)
    (key : Option (List UInt8)) (ssl : Bool) (write : WriteResult) (now : Nat)
    (calloc : Option Addr) :
    ¬ WritesAll sha1 key write ∧
      s.http1ManagerRoutingBridge sha1 fd key ssl write now calloc = s.setWebsocketFd fd true ∨
    ∃ k n, key = some k ∧ write = .accepted n ∧
      s.http1ManagerRoutingBridge sha1 fd key ssl write now calloc = setWebsocketFd { s with
        registry := (s.registry.addClient fd ssl false 0 now calloc).2
        completed := fun conn => s.completed conn || (s.owner fd = some conn &&
          (handshakeResponse (wsCreateAcceptKey sha1 k)).length ≤ n)
        registeredBy := fun a =>
          if (s.registry.addClient fd ssl false 0 now calloc).1 ≠ -1 ∧ calloc = some a then
            s.owner fd
          else s.registeredBy a } fd true := by
  unfold http1ManagerRoutingBridge wsUpgradeHandshake WritesAll
  cases key with
  | none => exact .inl ⟨by simp, rfl⟩
  | some k =>
      cases write with
      | wouldBlock => exact .inl ⟨by simp, rfl⟩
      | hardError => exact .inl ⟨by simp, rfl⟩
      | accepted n =>
          dsimp only
          split
          · next hzero =>
              refine .inl ⟨?_, rfl⟩
              rintro ⟨k', n', -, hn, hle⟩
              obtain rfl := WriteResult.accepted.inj hn
              have hpos := length_handshakeResponse_pos (wsCreateAcceptKey sha1 k')
              omega
          · exact .inr ⟨k, n, rfl, rfl, setWebsocketFd_twice true⟩

/-- The connection of a descriptor completes its handshake and is registered. -/
theorem Linked.upgrade (h : s.Linked) {conn : Nat} (hown : s.owner fd = some conn)
    (hmark : s.isWebsocketFd fd = false) {i : Nat} {a : Addr} {c : HalmosWSClient}
    (hc : s.registry.Registered fd i a c) (hfresh : s.registry.heap a = none)
    {registry : HalmosWSRegistry} (hregistry : registry = { s.registry with
      clients := s.registry.clients.set i (some a)
      fdMap := Function.update s.registry.fdMap fd (some a)
      currentCount := s.registry.currentCount + 1
      globalSessionCounter := s.registry.globalSessionCounter + 1
      heap := Function.update s.registry.heap a (some c) })
    {completed : Nat → Bool}
    (hcompleted : ∀ conn', completed conn' = (s.completed conn' || conn' = conn))
    {registeredBy : Addr → Option Nat} (hby : registeredBy a = some conn)
    (hothers : ∀ x, x ≠ a → registeredBy x = s.registeredBy x) :
    Linked (setWebsocketFd { s with
      registry := registry, completed := completed, registeredBy := registeredBy } fd true) := by
  have hfind : ∀ other, registry.findByFd other
      = if other = fd then some a else s.registry.findByFd other := by
    intro other
    subst hregistry
    unfold HalmosWSRegistry.findByFd
    by_cases hother : other = fd
    · subst hother
      simp [hc.valid]
    · simp [hother]
  have hmarks : ∀ other, (setWebsocketFd { s with
      registry := registry, completed := completed, registeredBy := registeredBy } fd
        true).isWebsocketFd other = if other = fd then true else s.isWebsocketFd other := by
    intro other
    rw [isWebsocketFd_setWebsocketFd, hc.valid]
    rfl
  have hfields : setWebsocketFd { s with
      registry := registry, completed := completed, registeredBy := registeredBy } fd true
      = { s with
        registry := registry, completed := completed, registeredBy := registeredBy
        wsFdMap := Function.update s.wsFdMap fd true } := by
    unfold setWebsocketFd
    rw [if_pos hc.valid]
  rw [hfields] at hmarks ⊢
  refine ⟨?_, ?_, ?_, ?_, ?_, h.sound, ?_, h.owner_lt, ?_, h.owner_inj⟩
  · intro other hother
    rw [hmarks] at hother
    by_cases hfd : other = fd
    · subst hfd
      refine ⟨conn, a, hown, ?_, ?_, hby⟩
      · simp [hcompleted]
      · simp [hfind]
    · rw [if_neg hfd] at hother
      obtain ⟨conn', a', hown', hdone, hfound, hby'⟩ := h.owned other hother
      refine ⟨conn', a', hown', ?_, ?_, ?_⟩
      · simp [hcompleted, hdone]
      · simpa [hfind, hfd] using hfound
      · -- the address of a client is in use, and so is not the new one
        have hne : a' ≠ a := by
          rintro rfl
          obtain ⟨d, hd, -⟩ := h.indexed.findByFd hfound
          simp [hfresh] at hd
        exact (hothers a' hne).trans hby'
  · subst hregistry
    exact h.indexed.register hc hfresh _
  · subst hregistry
    exact h.indexed.reachable_register h.reachable hc hfresh (h.findByFd_none hmark) _
  · intro x d hd
    rw [hmarks]
    subst hregistry
    rcases update_eq_some_iff.mp hd with ⟨-, hnew⟩ | ⟨-, hold⟩
    · obtain rfl := Option.some.inj hnew
      rw [if_pos hc.fd_eq]
    · split
      · rfl
      · exact h.client_marked x d hold
  · intro other conn' hvalid hown' hdone
    rw [hmarks]
    by_cases hfd : other = fd
    · rw [if_pos hfd]
    · rw [if_neg hfd]
      simp only [hcompleted, Bool.or_eq_true, decide_eq_true_eq] at hdone
      rcases hdone with hdone | rfl
      · exact h.completed_marked other conn' hvalid hown' hdone
      · exact absurd (h.owner_inj other fd conn' hown' hown) hfd
  · intro other st hst hne
    obtain ⟨hother, hbegun⟩ := h.frame_marked other st hst hne
    refine ⟨?_, hbegun⟩
    rw [hmarks]
    split
    · rfl
    · exact hother
  · intro conn' hdone
    simp only [hcompleted, Bool.or_eq_true, decide_eq_true_eq] at hdone
    rcases hdone with hdone | rfl
    · exact h.completed_lt conn' hdone
    · exact h.owner_lt fd conn' hown

/-- On a descriptor the server has no room for there is no mark and no client. -/
theorem Linked.upgrade_invalid (h : s.Linked) (hvalid : wsFdIsValid fd = false)
    {completed : Nat → Bool}
    (hcompleted : ∀ conn, completed conn = true → s.completed conn = true ∨ s.owner fd = some conn)
    (hmono : ∀ conn, s.completed conn = true → completed conn = true) :
    Linked { s with completed := completed } := by
  refine ⟨?_, h.indexed, h.reachable, h.client_marked, ?_, h.sound, h.frame_marked, h.owner_lt, ?_,
    h.owner_inj⟩
  · intro other hmark
    obtain ⟨conn, a, hown, hdone, hrest⟩ := h.owned other hmark
    exact ⟨conn, a, hown, hmono conn hdone, hrest⟩
  · intro other conn hother hown hdone
    rcases hcompleted conn hdone with hdone | hfd
    · exact h.completed_marked other conn hother hown hdone
    · obtain rfl := h.owner_inj other fd conn hown hfd
      simp [hvalid] at hother
  · intro conn hdone
    rcases hcompleted conn hdone with hdone | hfd
    · exact h.completed_lt conn hdone
    · exact h.owner_lt fd conn hfd

/-! ### The other events -/

/-- What a call of the dispatcher keeps of the registry. -/
theorem onCall_kept {parse : List UInt8 → Option WsMessage} {now : Nat} {stack : WsStack}
    {r r' : HalmosWSRegistry} (h : r.Indexed) (hreach : r.Reachable) {call : WsCall}
    (hcall : onCall parse fd now stack r call = some r') : r.Kept r' := by
  cases call with
  | wsSystemSendPong =>
      obtain rfl := Option.some.inj hcall
      exact h.kept hreach
  | wsRegistryUpdateActivity =>
      have hop : HalmosWSRegistry.OnClient (.updateActivity fd now) := trivial
      exact h.apply_kept hreach hop hcall
  | wsSystemOnMessage data len =>
      obtain ⟨⟨r₁, sends⟩, hmessage, rfl⟩ := Option.map_eq_some_iff.mp hcall
      have hregistry := HalmosWSRegistry.wsSystemOnMessage_registry hmessage
      cases hop : HalmosWSRegistry.messageOp parse fd (data.take len) with
      | none =>
          rw [hop] at hregistry
          obtain rfl := Option.some.inj hregistry
          exact h.kept hreach
      | some op =>
          rw [hop] at hregistry
          exact h.apply_kept hreach (HalmosWSRegistry.messageOp_onClient hop) hregistry

theorem onCalls_kept {parse : List UInt8 → Option WsMessage} {now : Nat} {stack : WsStack}
    {calls : List WsCall} {r r' : HalmosWSRegistry} (h : r.Indexed) (hreach : r.Reachable)
    (hcalls : calls.foldlM (onCall parse fd now stack) r = some r') : r.Kept r' := by
  induction calls generalizing r with
  | nil =>
      obtain rfl := Option.some.inj hcalls
      exact h.kept hreach
  | cons call calls ih =>
      rw [List.foldlM_cons] at hcalls
      obtain ⟨r₁, hcall, hrest⟩ := Option.bind_eq_some_iff.mp hcalls
      have hone := onCall_kept h hreach hcall
      exact hone.trans (ih hone.indexed hone.reachable hrest)

theorem Linked.dispatch (h : s.Linked) {malloc : (n : Nat) → Buffer n}
    {parse : List UInt8 → Option WsMessage} {now : Nat} {stack : WsStack} {side : RecvSide}
    (hmark : s.isWebsocketFd fd = true) {s' : WsSockets}
    (hs' : s.wsSystemDispatch malloc parse fd now stack side = some s') : s'.Linked := by
  obtain ⟨r, states, side', hrecv, hsound, hothers⟩ := recvFrame_inBounds malloc fd h.sound side
  unfold wsSystemDispatch at hs'
  simp only [hrecv, Option.bind_eq_bind, Option.bind_some] at hs'
  obtain ⟨registry, hcalls, hs'⟩ := Option.bind_eq_some_iff.mp hs'
  obtain rfl := Option.some.inj hs'
  have hkept := onCalls_kept h.indexed h.reachable hcalls
  refine ⟨?_, hkept.indexed, hkept.reachable, ?_, h.completed_marked, hsound, ?_, h.owner_lt,
    h.completed_lt, h.owner_inj⟩
  · intro other hother
    obtain ⟨conn, a, hown, hdone, hfound, hby⟩ := h.owned other hother
    exact ⟨conn, a, hown, hdone, (hkept.findByFd other).trans hfound, hby⟩
  · intro a c' hc'
    obtain ⟨c, hc, hfd⟩ := hkept.heap a c' hc'
    rw [hfd]
    exact h.client_marked a c hc
  · intro other st hst hne
    dsimp only at hst ⊢
    by_cases hother : other = fd
    · subst hother
      refine ⟨hmark, ?_⟩
      split
      · exact Function.update_self ..
      · -- the rest of a frame that was begun before
        next hbegun =>
          cases hold : s.recvStates other with
          | none => simp [hold] at hbegun
          | some st₀ => exact (h.frame_marked other st₀ hold (by simpa [hold] using hbegun)).2
    · rw [hothers other hother] at hst
      obtain ⟨hmark', hbegun⟩ := h.frame_marked other st hst hne
      refine ⟨hmark', ?_⟩
      split
      · exact (Function.update_of_ne hother _ _).trans hbegun
      · exact hbegun

/-- Everything there is for a descriptor is given up with it. -/
theorem Linked.cleanup (h : s.Linked) (fd : Int) :
    ∃ s', s.wsSystemCleanupFd fd = some s' ∧ (s'.close fd).Linked := by
  unfold wsSystemCleanupFd
  split
  · next hmark =>
      obtain ⟨registry, hremove, hindexed, hreach, hgone⟩ :=
        h.indexed.reachable_remove h.reachable fd
      obtain ⟨-, hothers, hheap⟩ := h.indexed.remove_frame hremove
      have hvalid := valid_of_isWebsocketFd hmark
      simp only [hremove, Option.bind_eq_bind, Option.bind_some]
      refine ⟨_, rfl, ?_⟩
      simp only [setWebsocketFd, hvalid, if_true, WsSockets.close]
      have hmarks : ∀ other, (wsFdIsValid other && Function.update s.wsFdMap fd false other) = true →
          other ≠ fd ∧ s.isWebsocketFd other = true := by
        intro other hother
        by_cases hfd : other = fd
        · subst hfd
          simp at hother
        · exact ⟨hfd, by simpa [isWebsocketFd, hfd] using hother⟩
      have hmarked : ∀ other, other ≠ fd → s.isWebsocketFd other = true →
          (wsFdIsValid other && Function.update s.wsFdMap fd false other) = true := by
        intro other hfd hother
        simpa [isWebsocketFd, hfd] using hother
      have howner {other : Int} {conn : Nat}
          (hown : Function.update s.owner fd none other = some conn) :
          other ≠ fd ∧ s.owner other = some conn := update_none_eq_some_iff.mp hown
      refine ⟨?_, hindexed, hreach, ?_, ?_, ?_, ?_, ?_, h.completed_lt, ?_⟩
      · intro other hother
        obtain ⟨hne, hother⟩ := hmarks other hother
        obtain ⟨conn, a, hown, hdone, hfound, hby⟩ := h.owned other hother
        exact ⟨conn, a, (Function.update_of_ne hne _ _).trans hown, hdone,
          (hothers other hne).trans hfound, hby⟩
      · exact fun a c hc => hmarked c.fd (hgone a c hc) (h.client_marked a c (hheap a c hc))
      · intro other conn hvalid hown hdone
        obtain ⟨hne, hown⟩ := howner hown
        exact hmarked other hne (h.completed_marked other conn hvalid hown hdone)
      · intro other st hst
        exact h.sound other st (update_none_eq_some_iff.mp hst).2
      · intro other st hst hcleared
        obtain ⟨hne, hst⟩ := update_none_eq_some_iff.mp hst
        obtain ⟨hother, hbegun⟩ := h.frame_marked other st hst hcleared
        exact ⟨hmarked other hne hother, hbegun.trans (Function.update_of_ne hne _ _).symm⟩
      · exact fun other conn hown => h.owner_lt other conn (howner hown).2
      · exact fun other other' conn hown hown' =>
          h.owner_inj other other' conn (howner hown).2 (howner hown').2
  · next hmark => exact ⟨s, rfl, h.close (by simpa using hmark)⟩

/-- The maintenance thread may be anywhere. -/
theorem Linked.of_deadFds (h : s.Linked) (deadFds : List Int) (closed : Bool) :
    Linked { s with deadFds := deadFds, closed := closed } :=
  ⟨h.owned, h.indexed, h.reachable, h.client_marked, h.completed_marked, h.sound, h.frame_marked,
    h.owner_lt, h.completed_lt, h.owner_inj⟩

/-! ## Runs -/

/-- `calloc` returns free addresses. -/
def AllocFresh (s : WsSockets) : SocketEvent → Prop
  | .upgrade _ _ _ _ _ (some a) => s.registry.heap a = none
  | _ => True

/-- An upgrade writes its whole response and finds an empty slot and memory, and the maintenance
thread has no marked descriptor to close or to remove. -/
def Orderly (sha1 : List UInt8 → Buffer 20) (s : WsSockets) : SocketEvent → Prop
  | .upgrade fd key _ write _ calloc =>
      s.owner fd ≠ none ∧ s.isWebsocketFd fd = false ∧ wsFdIsValid fd = true →
        WritesAll sha1 key write ∧ none ∈ s.registry.clients ∧ calloc ≠ none
  | .maintenance _ => ∀ fd ∈ s.deadFds.head?, s.isWebsocketFd fd = false
  | _ => True

/-- **One event** that meets the condition keeps the invariant. -/
theorem Linked.onEvent (h : s.Linked) {sha1 : List UInt8 → Buffer 20}
    {malloc : (n : Nat) → Buffer n} {parse : List UInt8 → Option WsMessage} {e : SocketEvent}
    (hfresh : s.AllocFresh e) (horderly : s.Orderly sha1 e) {s' : WsSockets}
    (hs' : s.onEvent sha1 malloc parse e = some s') : s'.Linked := by
  cases e with
  | accept fd =>
      obtain rfl := Option.some.inj hs'
      split
      · next hown => exact h.accept hown
      · exact h
  | upgrade fd key ssl write now calloc =>
      obtain rfl := Option.some.inj hs'
      split
      · next hready =>
          obtain ⟨hown, hmark⟩ := hready
          obtain ⟨conn, hown⟩ := Option.ne_none_iff_exists'.mp hown
          cases hvalid : wsFdIsValid fd with
          | false =>
              rcases bridge_cases sha1 s fd key ssl write now calloc with
                ⟨-, hsame⟩ | ⟨k, n, -, -, hnew⟩
              · rw [hsame]
                simp [setWebsocketFd, hvalid, h]
              · have hno : s.registry.addClient fd ssl false 0 now calloc = (-1, s.registry) := by
                  simp [HalmosWSRegistry.addClient, hvalid]
                rw [hnew]
                simp only [setWebsocketFd, hvalid, hno, ne_eq, not_true_eq_false, false_and,
                  if_false, Bool.false_eq_true]
                refine h.upgrade_invalid hvalid (fun conn' hdone => ?_) (fun conn' hdone => ?_)
                · simp only [Bool.or_eq_true, Bool.and_eq_true, decide_eq_true_eq] at hdone
                  exact hdone.imp_right fun hnew => hnew.1
                · simp [hdone]
          | true =>
              obtain ⟨⟨k, n, rfl, rfl, hwhole⟩, hslot, hcalloc⟩ :=
                horderly ⟨by simp [hown], hmark, hvalid⟩
              obtain ⟨a, rfl⟩ := Option.ne_none_iff_exists'.mp hcalloc
              obtain ⟨i, c, hc, hadd⟩ :=
                HalmosWSRegistry.addClient_registers hvalid hslot ssl false 0 now a
              rcases bridge_cases sha1 s fd (some k) ssl (.accepted n) now (some a) with
                ⟨hno, -⟩ | ⟨k', n', hk, hn, hnew⟩
              · exact absurd ⟨k, n, rfl, rfl, hwhole⟩ hno
              · obtain rfl := Option.some.inj hk
                obtain rfl := WriteResult.accepted.inj hn
                rw [hnew, hadd]
                refine h.upgrade hown hmark hc hfresh rfl ?_ ?_ ?_
                · intro conn'
                  simp [hown, hwhole, eq_comm]
                · simp [hown]
                · intro x hx
                  simp [hx.symm]
      · exact h
  | dispatch fd now stack side =>
      simp only [WsSockets.onEvent] at hs'
      split at hs'
      · next hready => exact h.dispatch hready.2 hs'
      · obtain rfl := Option.some.inj hs'
        exact h
  | cleanup fd =>
      obtain ⟨s₁, hclean, hlinked⟩ := h.cleanup fd
      simp only [WsSockets.onEvent, hclean, Option.map_some] at hs'
      obtain rfl := Option.some.inj hs'
      exact hlinked
  | maintenance now =>
      simp only [WsSockets.onEvent, wsRegistryReaper] at hs'
      split at hs'
      · obtain ⟨dead, -, hs'⟩ := Option.bind_eq_some_iff.mp hs'
        obtain rfl := Option.some.inj hs'
        exact h.of_deadFds dead _
      · next fd fds hdead =>
          have hmark : s.isWebsocketFd fd = false := horderly fd (by simp [hdead])
          split at hs'
          · rw [HalmosWSRegistry.remove_none (h.findByFd_none hmark)] at hs'
            obtain rfl := Option.some.inj hs'
            exact h.of_deadFds fds false
          · obtain rfl := Option.some.inj hs'
            exact (h.close hmark).of_deadFds _ _

/-- **One event** that does not meet it leaves a marked descriptor with the wrong connection, or
with none. -/
theorem Linked.not_owned (h : s.Linked) {sha1 : List UInt8 → Buffer 20}
    {malloc : (n : Nat) → Buffer n} {parse : List UInt8 → Option WsMessage} {e : SocketEvent}
    (hno : ¬ s.Orderly sha1 e) : ∃ s', s.onEvent sha1 malloc parse e = some s' ∧ ¬ s'.Owned := by
  cases e with
  | accept fd => exact absurd trivial hno
  | dispatch fd now stack side => exact absurd trivial hno
  | cleanup fd => exact absurd trivial hno
  | upgrade fd key ssl write now calloc =>
      simp only [Orderly, Classical.not_imp] at hno
      obtain ⟨⟨hown, hmark, hvalid⟩, hno⟩ := hno
      refine ⟨_, rfl, ?_⟩
      rw [if_pos ⟨hown, hmark⟩]
      obtain ⟨conn, hown⟩ := Option.ne_none_iff_exists'.mp hown
      -- the connection has not completed a handshake before
      have hfresh : s.completed conn = false := by
        cases hdone : s.completed conn with
        | false => rfl
        | true =>
            rw [h.completed_marked fd conn hvalid hown hdone] at hmark
            cases hmark
      rcases bridge_cases sha1 s fd key ssl write now calloc with ⟨-, hnew⟩ | ⟨k, n, rfl, rfl, hnew⟩
      · rw [hnew]
        intro howned
        obtain ⟨conn', a, hown', hdone, -⟩ := howned.completed fd (by simp [hvalid])
        simp only [setWebsocketFd, hvalid, if_true] at hown' hdone
        obtain rfl : conn = conn' := Option.some.inj (hown.symm.trans hown')
        simp [hfresh] at hdone
      · rw [hnew]
        intro howned
        obtain ⟨conn', a, hown', hdone, hfound, -⟩ := howned.completed fd (by simp [hvalid])
        simp only [setWebsocketFd, hvalid, if_true] at hown' hdone hfound
        obtain rfl : conn = conn' := Option.some.inj (hown.symm.trans hown')
        have hwhole : WritesAll sha1 (some k) (.accepted n) :=
          ⟨k, n, rfl, rfl, by simpa [hfresh, hown] using hdone⟩
        rcases s.registry.addClient_slot fd ssl false 0 now calloc with
          hsame | ⟨i, x, c, rfl, hc, -⟩
        · rw [hsame] at hfound
          simp [h.findByFd_none hmark] at hfound
        · obtain ⟨hlt, hi, -⟩ := List.findIdx?_eq_some_iff_getElem.mp hc.slot
          have hempty : s.registry.clients[i] = none := of_decide_eq_true hi
          exact hno ⟨hwhole, hempty ▸ List.getElem_mem hlt, by simp⟩
  | maintenance now =>
      simp only [Orderly, not_forall] at hno
      obtain ⟨fd, hhead, hmark⟩ := hno
      rw [Bool.not_eq_false] at hmark
      obtain ⟨fds, hdead⟩ : ∃ fds, s.deadFds = fd :: fds := List.head?_eq_some_iff.mp hhead
      simp only [WsSockets.onEvent, wsRegistryReaper, hdead]
      split
      · obtain ⟨registry, hremove, -⟩ := h.indexed.remove fd
        obtain ⟨hgone, -⟩ := h.indexed.remove_frame hremove
        simp only [hremove, Option.bind_eq_bind, Option.bind_some]
        refine ⟨_, rfl, fun howned => ?_⟩
        obtain ⟨conn, a, -, -, hfound, -⟩ := howned.completed fd hmark
        simp [hgone] at hfound
      · refine ⟨_, rfl, fun howned => ?_⟩
        obtain ⟨conn, a, hown, -⟩ := howned.completed fd hmark
        simp [WsSockets.close] at hown

/-- A property of the descriptors, up to where memory is misused. -/
def Until (P : WsSockets → Prop) (s : Option WsSockets) : Prop := ∀ r, s = some r → P r

/-- `calloc` returns free addresses. -/
def Allocates (s : Option WsSockets) (e : SocketEvent) : Prop := Until (fun r => r.AllocFresh e) s

/-- Every upgrade and every step of the maintenance thread is `Orderly`. -/
def StaysOrderly (sha1 : List UInt8 → Buffer 20) (s : Option WsSockets) (e : SocketEvent) : Prop :=
  Until (fun r => r.Orderly sha1 e) s

end WsSockets

open WsSockets in
/-- **Marked descriptors** belong, in every state of a run, to connections that have completed
their handshake and are registered, and no frame of another connection is gone on with, if and only
if every upgrade writes its whole response and finds room, and the maintenance thread closes and
removes no marked descriptor. -/
theorem marked_run (sha1 : List UInt8 → Buffer 20) (malloc : (n : Nat) → Buffer n)
    (parse : List UInt8 → Option WsMessage) (events : List SocketEvent)
    (h : GuardedRun Allocates (step sha1 malloc parse) (some init) events) :
    (∀ done, done <+: events → Until Owned (runSteps (step sha1 malloc parse) (some init) done)) ↔
      GuardedRun (StaysOrderly sha1) (step sha1 malloc parse) (some init) events := by
  refine GuardedRun.iff_forall_prefix (Until WsSockets.Linked) ?_ ?_ ?_ ?_ h
  · exact fun s hs r hr => (hs r hr).good
  · intro s e hs hfresh horderly r' hr'
    obtain ⟨r, rfl, hr'⟩ := Option.bind_eq_some_iff.mp hr'
    exact (hs r rfl).onEvent (hfresh r rfl) (horderly r rfl) hr'
  · intro s e hs hfresh hno hgood
    refine hno fun r hr => ?_
    by_contra horderly
    obtain ⟨r', hr', hbad⟩ := (hs r hr).not_owned horderly
    subst hr
    exact hbad (hgood r' hr')
  · intro r hr
    obtain rfl := Option.some.inj hr
    exact init_linked

open WsSockets in
/-- A connection upgrades, sends the first byte of a frame and goes; its descriptor is used
again. -/
theorem marked_run_reused :
    let sha1 : List UInt8 → Buffer 20 := fun _ => .zeros 20
    let malloc : (n : Nat) → Buffer n := fun n => .zeros n
    let events : List SocketEvent :=
      [.accept 5, .upgrade 5 (some (ascii "dGhlIHNhbXBsZSBub25jZQ==")) false (.accepted 512) 100 (some 0),
        .cleanup 5, .accept 5]
    ∀ done, done <+: events →
      Until Owned (runSteps (step sha1 malloc fun _ => none) (some init) done) := by
  intro sha1 malloc events
  refine (marked_run sha1 malloc (fun _ => none) events ?_).mpr ?_
  · refine ⟨fun _ _ => trivial, fun r hr => ?_, fun _ _ => trivial, fun _ _ => trivial, trivial⟩
    obtain rfl := Option.some.inj hr
    exact rfl
  · refine ⟨fun _ _ => trivial, fun r hr => ?_, fun _ _ => trivial, fun _ _ => trivial, trivial⟩
    obtain rfl := Option.some.inj hr
    intro _
    refine ⟨⟨_, 512, rfl, rfl, (length_handshakeResponse sha1 _).le⟩, ?_, by simp⟩
    exact List.mem_replicate.mpr ⟨by decide, rfl⟩

open WsSockets in
/-- The maintenance thread closes the descriptor of a silent client in the middle of a frame. The
next connection on the descriptor is taken for a WebSocket in the middle of that frame. -/
theorem mark_outlives_connection :
    let sha1 : List UInt8 → Buffer 20 := fun _ => .zeros 20
    let malloc : (n : Nat) → Buffer n := fun n => .zeros n
    let events : List SocketEvent :=
      [.accept 5, .upgrade 5 (some (ascii "dGhlIHNhbXBsZSBub25jZQ==")) false (.accepted 512) 100 (some 0),
        .dispatch 5 100 ⟨.zeros 4096, .zeros 65535⟩ ⟨[0x81], [.ready 1]⟩,
        .maintenance 191, .maintenance 191, .maintenance 191, .accept 5]
    (runSteps (step sha1 malloc fun _ => none) (some init) events).map (fun s =>
        (s.isWebsocketFd 5, s.owner 5, s.completed 1, s.registry.findByFd 5))
      = some (true, some 1, false, none) ∧
    (runSteps (step sha1 malloc fun _ => none) (some init) events).map (fun s =>
        ((s.recvStates 5).map WsRecvState.headerBytesRead, s.begunBy 5))
      = some (some 1, some 0) := by
  decide +kernel

end Halmos.WebSocket
