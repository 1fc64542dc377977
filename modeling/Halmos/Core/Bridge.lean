import Halmos.Core.EventLoop
import Halmos.Core.ProtocolSession

set_option autoImplicit false

/-! # The detection of the protocol

`http_bridge_dispatch` and `bridge_detect` of `halmos_http_bridge.c` for a connection without a
session, and what `core_thread_pool_worker` makes of the answer. The detection peeks: it takes
nothing from the socket, and fewer than four bytes are an answer to wait, at the end of the input as
well. A plain-text connection is settled exactly if the client sends nothing, at least four bytes,
or a byte 0x16 first (`bridge_settles_iff`).
-/

namespace Halmos.Core

/-! ## The socket -/

/-- A stream socket: the bytes that were received and not read, and whether the peer has closed its
side or the connection is broken. -/
structure Inbox where
  pending : List UInt8
  ended : Bool
  failed : Bool
  deriving DecidableEq, Repr

/-- What `recv` returns; `again` is `EAGAIN`. -/
inductive Recv where
  | data (buf : List UInt8)
  | again
  | error
  deriving DecidableEq, Repr

/-- `recv(fd, buf, n, MSG_PEEK | MSG_DONTWAIT)`, which leaves the socket as it is. -/
def recvPeek (s : Inbox) (n : Nat) : Recv :=
  if s.pending ≠ [] then .data (s.pending.take n)
  else if s.failed then .error
  else if s.ended then .data []
  else .again

/-- What a call of OpenSSL comes to. -/
inductive SslCall where
  | done
  | wantRead
  | wantWrite
  | failed
  deriving DecidableEq, Repr

/-- The TLS side of a connection: whether it has an `SSL` already, and what the handshake, the
negotiation of the protocol and `SSL_peek` come to. -/
structure Ssl where
  attached : Bool
  handshake : SslCall
  alpnH2 : Bool
  peek : SslCall
  deriving DecidableEq, Repr

/-! ## The functions -/

/-- `bridge_detect(fd, ssl)`. -/
def bridgeDetect (ssl : Option Ssl) (s : Inbox) : Detected :=
  match ssl with
  | some ssl =>
      if ssl.alpnH2 then .http2
      else
        match ssl.peek with
        | .done => .http1
        | .wantRead => .retry
        | .wantWrite => .retry
        | .failed => .unknown
  | none =>
      match recvPeek s 4 with
      | .again => .retry
      | .error => .unknown
      | .data buf =>
          if buf.length < 4 then .retry
          else if buf = ascii "PRI " then .http2
          else if buf ∈ [ascii "GET ", ascii "POST", ascii "HTTP", ascii "PUT ", ascii "HEAD"] then
            .http1
          else .unknown

/-- What a dispatch comes to: a status, or the manager or the WebSocket module that it calls. -/
inductive Answer where
  | status (n : Int)
  | manager (protocol : SessionDestroy)
  | websocket
  deriving DecidableEq

/-- The end of `http_bridge_dispatch`, with the protocol. -/
def Detected.answer : Detected → Answer
  | .retry => .status 2
  | .http1 => .manager .http1
  | .http2 => .manager .http2
  | .unknown => .status 0
  | .none => .status 0

/-- The plain-text and the TLS path, once it is known which one it is. -/
def dispatchPath (tlsEnabled isActuallyTls : Bool) (ssl : Option Ssl) (s : Inbox) : Answer :=
  if isActuallyTls then
    if ¬ tlsEnabled then .status 0
    else
      match ssl with
      | none => .status 0
      | some ssl =>
          match ssl.handshake with
          | .wantRead => .status 2
          | .wantWrite => .status 3
          | .failed => .status 0
          | .done => (bridgeDetect (some ssl) s).answer
  else if tlsEnabled then .status 0
  else (bridgeDetect none s).answer

/-- `http_bridge_dispatch(sock_client, events)`: `first` is what the socket holds when the first
byte is looked at, and `second` when the protocol is detected. -/
def bridgeAnswer (tlsEnabled : Bool) (c : SessionSlot) (events : UInt32) (ssl : Ssl)
    (first second : Inbox) : Answer :=
  if c.isWebsocketFd then .websocket
  else if ¬ c.present then .status 0
  else
    match c.protocolSession with
    | some _ =>
        match c.protocolSessionDestroy with
        | some protocol => .manager protocol
        | none => .status 0
    | none =>
        if events &&& epollOut = 0 ∧ ¬ ssl.attached then
          match recvPeek first 1 with
          | .again => .status 2
          | .error => .status 0
          | .data [] => .status 0
          | .data (b :: _) =>
              if b = 0x16 then
                dispatchPath tlsEnabled true (if tlsEnabled then some ssl else none) second
              else dispatchPath tlsEnabled false none second
        else dispatchPath tlsEnabled ssl.attached (if ssl.attached then some ssl else none) second

/-- A connection as the workers see it: its slot and what it is armed for, or the answer that ends
the detection. -/
inductive BridgeState where
  | armed (c : SessionSlot) (events : UInt32)
  | settled (answer : Answer)
  deriving DecidableEq

/-- A round of `core_thread_pool_worker` for an event of the connection; a dispatch that ends with a
status 1 to 4 has detected nothing. -/
def workerRound (tlsEnabled : Bool) (ssl : Ssl) (s : BridgeState) (first second : Inbox) :
    BridgeState :=
  match s with
  | .settled answer => .settled answer
  | .armed c events =>
      match bridgeAnswer tlsEnabled c events ssl first second with
      | .status n =>
          let c := httpBridgeDispatch c ⟨.retry, none, false⟩
          if n = 1 then .armed c epollIn
          else if n = 2 then .armed c epollIn
          else if n = 3 then .armed c epollOut
          else if n = 4 then .armed c (epollIn ||| epollOut)
          else .settled (.status n)
      | .manager protocol => .settled (.manager protocol)
      | .websocket => .settled .websocket

/-! ## Clients -/

/-- A plain-text client that sends `stream` and closes its side, and what the socket holds in the
two looks of each call. The call is made when the socket is readable; the bytes arrive in any
pieces, nothing is taken from the socket, and the end arrives at last. -/
structure Client where
  stream : List UInt8
  first : Nat → Inbox
  second : Nat → Inbox
  arrived : ∀ n, (first n).pending <+: (second n).pending ∧ (second n).pending <+: stream
  kept : ∀ n, (second n).pending <+: (first (n + 1)).pending
  ended : ∀ n, ((first n).ended = true → (first n).pending = stream) ∧
    ((second n).ended = true → (second n).pending = stream)
  unbroken : ∀ n, (first n).failed = false ∧ (second n).failed = false
  readable : ∀ n, (first n).pending ≠ [] ∨ (first n).ended = true
  closes : ∃ n, (first n).ended = true

/-- A connection that has just been accepted, or whose protocol is still unknown. -/
structure SessionSlot.Waiting (c : SessionSlot) : Prop where
  present : c.present = true
  isWebsocketFd : c.isWebsocketFd = false
  protocolSession : c.protocolSession = none

/-- Without TLS no connection has an `SSL`. -/
def Ssl.absent : Ssl := ⟨false, .failed, false, .failed⟩

/-- The connection before the call number `n`, with TLS disabled. -/
def bridgeRun (client : Client) (c : SessionSlot) : Nat → BridgeState
  | 0 => .armed c epollIn
  | n + 1 => workerRound false .absent (bridgeRun client c n) (client.first n) (client.second n)

/-- The detection ends with a session or a close. -/
def Answer.Ends : Answer → Prop
  | .status n => n = 0
  | .manager _ => True
  | .websocket => False

/-- `core_conn_t_activate` leaves a connection that waits. -/
theorem waiting_activate {c : SessionSlot} (hpresent : c.present = true)
    (hws : c.isWebsocketFd = false) : (coreConnActivate c).Waiting := by
  unfold coreConnActivate coreConnDestroyProtocolSession SessionSlot.callDestroy
  rw [if_pos hpresent]
  split
  · exact ⟨hpresent, hws, rfl⟩
  · exact ⟨hpresent, hws, rfl⟩

/-- The slot of a connection that waits on is the same. -/
theorem httpBridgeDispatch_retry {c : SessionSlot} (h : c.Waiting) :
    httpBridgeDispatch c ⟨.retry, none, false⟩ = c := by
  simp [httpBridgeDispatch, h.present, h.isWebsocketFd, h.protocolSession]

/-! ## One call -/

section OneCall

variable {c : SessionSlot} {first second : Inbox}

theorem recvPeek_data {s : Inbox} {n : Nat} (h : s.pending ≠ []) :
    recvPeek s n = .data (s.pending.take n) := if_pos h

/-- Without TLS, an event to read looks at the first byte. -/
theorem bridgeAnswer_waiting (hc : c.Waiting) :
    bridgeAnswer false c epollIn .absent first second =
      match recvPeek first 1 with
      | .again => .status 2
      | .error => .status 0
      | .data [] => .status 0
      | .data (b :: _) => if b = 0x16 then .status 0 else (bridgeDetect none second).answer := by
  have hevents : epollIn &&& epollOut = 0 := by decide
  simp only [bridgeAnswer, hc.present, hc.isWebsocketFd, hc.protocolSession, Ssl.absent,
    hevents, dispatchPath, Bool.false_eq_true, not_true_eq_false, not_false_eq_true, and_self, if_true,
    if_false]

/-- A socket that has only ended is closed. -/
theorem bridgeAnswer_empty (hc : c.Waiting) (hnil : first.pending = [])
    (hended : first.ended = true) (hfailed : first.failed = false) :
    bridgeAnswer false c epollIn .absent first second = .status 0 := by
  have hpeek : recvPeek first 1 = .data [] := by simp [recvPeek, hnil, hended, hfailed]
  rw [bridgeAnswer_waiting hc, hpeek]

/-- The byte that TLS begins with is refused. -/
theorem bridgeAnswer_tls (hc : c.Waiting) {rest : List UInt8}
    (hfirst : first.pending = 0x16 :: rest) :
    bridgeAnswer false c epollIn .absent first second = .status 0 := by
  have hpeek : recvPeek first 1 = .data [0x16] := by simp [recvPeek, hfirst]
  rw [bridgeAnswer_waiting hc, hpeek]
  rfl

/-- Any other byte leads to the detection. -/
theorem bridgeAnswer_plain (hc : c.Waiting) {b : UInt8}
    {rest : List UInt8} (hfirst : first.pending = b :: rest) (hb : b ≠ 0x16) :
    bridgeAnswer false c epollIn .absent first second = (bridgeDetect none second).answer := by
  have hpeek : recvPeek first 1 = .data [b] := by simp [recvPeek, hfirst]
  rw [bridgeAnswer_waiting hc, hpeek]
  exact if_neg hb

/-- Fewer than four bytes are an answer to wait, whether or not more can come. -/
theorem bridgeDetect_short (hne : second.pending ≠ []) (hshort : second.pending.length < 4) :
    bridgeDetect none second = .retry := by
  have hlen : (second.pending.take 4).length < 4 := by
    rw [List.length_take]
    omega
  simp only [bridgeDetect, recvPeek_data hne, if_pos hlen]

/-- Four bytes are enough. -/
theorem bridgeDetect_long (hlong : 4 ≤ second.pending.length) :
    bridgeDetect none second ≠ .retry ∧ bridgeDetect none second ≠ .none := by
  have hne : second.pending ≠ [] := by
    rintro hnil
    simp [hnil] at hlong
  have hlen : ¬ (second.pending.take 4).length < 4 := by
    rw [List.length_take]
    omega
  simp only [bridgeDetect, recvPeek_data hne, if_neg hlen]
  split
  · exact ⟨by decide, by decide⟩
  · split
    · exact ⟨by decide, by decide⟩
    · exact ⟨by decide, by decide⟩

/-- A readable socket leads to a status 2, to a status 0 or to a manager. -/
theorem bridgeAnswer_cases (second : Inbox) (hc : c.Waiting) (hreadable : first.pending ≠ [] ∨ first.ended = true)
    (hfailed : first.failed = false) :
    bridgeAnswer false c epollIn .absent first second = .status 2 ∨
      (bridgeAnswer false c epollIn .absent first second).Ends := by
  cases hfirst : first.pending with
  | nil =>
      have hended := hreadable.resolve_left (not_not.mpr hfirst)
      rw [bridgeAnswer_empty hc hfirst hended hfailed]
      exact Or.inr rfl
  | cons b rest =>
      by_cases hb : b = 0x16
      · rw [bridgeAnswer_tls hc (hb ▸ hfirst)]
        exact Or.inr rfl
      · rw [bridgeAnswer_plain hc hfirst hb]
        cases bridgeDetect none second with
        | retry => exact Or.inl rfl
        | http1 => exact Or.inr trivial
        | http2 => exact Or.inr trivial
        | unknown => exact Or.inr rfl
        | none => exact Or.inr rfl

/-- A status 2 arms the connection for reading again. -/
theorem workerRound_retry (hc : c.Waiting)
    (h : bridgeAnswer false c epollIn .absent first second = .status 2) :
    workerRound false .absent (.armed c epollIn) first second = .armed c epollIn := by
  simp [workerRound, h, httpBridgeDispatch_retry hc]

/-- A status 0 and a manager settle the connection. -/
theorem workerRound_ends {answer : Answer} (hends : answer.Ends)
    (h : bridgeAnswer false c epollIn .absent first second = answer) :
    workerRound false .absent (.armed c epollIn) first second = .settled answer := by
  cases answer with
  | status n =>
      obtain rfl : n = 0 := hends
      simp [workerRound, h]
  | manager protocol => simp [workerRound, h]
  | websocket => exact absurd hends id

end OneCall

/-! ## Runs -/

section Run

variable (client : Client) {c : SessionSlot}

/-- Before every call the connection is armed for reading, or has a session or is closed. -/
theorem bridgeRun_cases (hc : c.Waiting) (n : Nat) :
    bridgeRun client c n = .armed c epollIn ∨
      ∃ answer, bridgeRun client c n = .settled answer ∧ answer.Ends := by
  induction n with
  | zero => exact Or.inl rfl
  | succ n ih =>
      rcases ih with harmed | ⟨answer, hsettled, hends⟩
      · rw [bridgeRun, harmed]
        rcases bridgeAnswer_cases (client.second n) hc (client.readable n)
          (client.unbroken n).1 with hretry | hends
        · exact Or.inl (workerRound_retry hc hretry)
        · exact Or.inr ⟨_, workerRound_ends hends rfl, hends⟩
      · rw [bridgeRun, hsettled]
        exact Or.inr ⟨answer, rfl, hends⟩

/-- One to three bytes, the first of them not that of TLS, are looked at for ever. -/
theorem bridgeRun_short (hc : c.Waiting) (hne : client.stream ≠ [])
    (hshort : client.stream.length < 4) (htls : client.stream.head? ≠ some 0x16) (n : Nat) :
    bridgeRun client c n = .armed c epollIn := by
  induction n with
  | zero => rfl
  | succ n ih =>
      obtain ⟨hsecond, hstream⟩ := client.arrived n
      -- the end of the input is no reason to be called: there are bytes then, too
      have hfirst : (client.first n).pending ≠ [] := by
        rcases client.readable n with hbytes | hended
        · exact hbytes
        · rw [(client.ended n).1 hended]
          exact hne
      obtain ⟨b, rest, hcons⟩ := List.exists_cons_of_ne_nil hfirst
      have hb : b ≠ 0x16 := by
        rintro rfl
        obtain ⟨more, hmore⟩ := hsecond.trans hstream
        rw [hcons] at hmore
        exact htls (by rw [← hmore]; rfl)
      have hbytes : (client.second n).pending ≠ [] := by
        intro hnil
        rw [hnil, List.prefix_nil] at hsecond
        exact hfirst hsecond
      have hlen := hstream.length_le
      rw [bridgeRun, ih]
      refine workerRound_retry hc ?_
      rw [bridgeAnswer_plain hc hcons hb, bridgeDetect_short hbytes (by omega)]
      rfl

/-- When the input has ended, any other stream settles the connection. -/
theorem bridgeRun_settles (hc : c.Waiting) (h : client.stream = [] ∨ 4 ≤ client.stream.length ∨
    client.stream.head? = some 0x16) :
    ∃ n answer, bridgeRun client c n = .settled answer ∧ answer.Ends := by
  obtain ⟨n, hended⟩ := client.closes
  have hpending := (client.ended n).1 hended
  have hlen := (client.arrived n).1.length_le
  rcases bridgeRun_cases client hc n with harmed | hsettled
  · have hends : (bridgeAnswer false c epollIn .absent (client.first n) (client.second n)).Ends := by
      rw [← hpending] at h
      cases hfirst : (client.first n).pending with
      | nil =>
          rw [bridgeAnswer_empty hc hfirst hended (client.unbroken n).1]
          rfl
      | cons b rest =>
          by_cases hb : b = 0x16
          · rw [bridgeAnswer_tls hc (hb ▸ hfirst)]
            rfl
          · have hlong : 4 ≤ (client.second n).pending.length := by
              rw [hfirst] at h hlen
              simp only [reduceCtorEq, List.head?_cons, Option.some.injEq, hb, or_false,
                false_or] at h
              omega
            obtain ⟨hretry, hnone⟩ := bridgeDetect_long hlong
            rw [bridgeAnswer_plain hc hfirst hb]
            cases hdetect : bridgeDetect none (client.second n) with
            | retry => exact absurd hdetect hretry
            | none => exact absurd hdetect hnone
            | http1 => trivial
            | http2 => trivial
            | unknown => rfl
    exact ⟨n + 1, _, by rw [bridgeRun, harmed]; exact workerRound_ends hends rfl, hends⟩
  · exact ⟨n, hsettled⟩

/-- A plain-text connection gets a session or is closed after finitely many calls exactly if the
client sends nothing, at least four bytes, or the byte that TLS begins with first. -/
theorem bridge_settles_iff (hc : c.Waiting) :
    (∃ n answer, bridgeRun client c n = .settled answer ∧ answer.Ends) ↔
      client.stream = [] ∨ 4 ≤ client.stream.length ∨ client.stream.head? = some 0x16 := by
  refine ⟨?_, bridgeRun_settles client hc⟩
  rintro ⟨n, answer, hsettled, -⟩
  by_contra hno
  rw [not_or, not_or, not_le] at hno
  rw [bridgeRun_short client hc hno.1 hno.2.1 hno.2.2 n] at hsettled
  cases hsettled

end Run

/-- A client that sends all of the stream at once and closes its side. -/
def Client.atOnce (stream : List UInt8) : Client where
  stream := stream
  first := fun _ => ⟨stream, true, false⟩
  second := fun _ => ⟨stream, true, false⟩
  arrived := fun _ => ⟨List.prefix_rfl, List.prefix_rfl⟩
  kept := fun _ => List.prefix_rfl
  ended := fun _ => ⟨fun _ => rfl, fun _ => rfl⟩
  unbroken := fun _ => ⟨rfl, rfl⟩
  readable := fun _ => Or.inr rfl
  closes := ⟨0, rfl⟩

theorem bridge_settles_get :
    ∃ n answer, bridgeRun (.atOnce (ascii "GET / HTTP/1.1")) (coreConnActivate (.init 7)) n
      = .settled answer ∧ answer.Ends :=
  (bridge_settles_iff (.atOnce (ascii "GET / HTTP/1.1")) (waiting_activate rfl rfl)).mpr
    (Or.inr (Or.inl (by decide)))

/-- Two bytes and the end of the input. -/
theorem bridge_waits_two :
    ¬ ∃ n answer, bridgeRun (.atOnce (ascii "GE")) (coreConnActivate (.init 7)) n
      = .settled answer ∧ answer.Ends := by
  rintro ⟨n, answer, hsettled, -⟩
  have hc : (coreConnActivate (.init 7)).Waiting := waiting_activate rfl rfl
  rw [bridgeRun_short (.atOnce (ascii "GE")) hc (by decide) (by decide) (by decide) n] at hsettled
  cases hsettled

end Halmos.Core
