import Halmos.Http1.Backend

set_option autoImplicit false

/-! # What a connection is answered

The calls of `http1_manager_session` on one connection with what they send: a file, in as many calls
as the client needs to take it, or the answer of a backend, in one call. When the exchange with a
backend fails, the client is told or not by a flag that says whether the header of a file has been
sent. The flag is set by the last file the connection has been sent and stays set for the requests
behind it; of the answer of a backend it knows nothing.
-/

namespace Halmos.Http1

open Fcgi (ClientSock BackendSock HalmosFCGISession Status)
open Fcgi.Delivery (Link)

/-! ## Files -/

/-- What a call of `send`, `sendfile` or `SSL_write` for a file returns. -/
inductive FileWrite where
  | took (n : Nat)
  | wantWrite
  | wantRead
  | failed
  deriving DecidableEq, Repr

/-- A connection: its session, how much of the header and of the file has not been sent, and the
session with a backend. -/
structure Connection where
  session : HTTP1Session
  isHeaderSent : Bool
  headerRest : Nat
  fileRemaining : Nat
  fcgiSess : Option HalmosFCGISession

/-- The loops that send what is left. A call that takes nothing of the header is a failure, and so is
one that finds nothing in the file, but for a TLS client. When the list is used up, everything is
taken. -/
def sendLoop (endsEarly : Bool) : List FileWrite → Nat → SendResult × Nat × List FileWrite
  | [], _ => (.done, 0, [])
  | w :: writes, rest =>
      if rest = 0 then (.done, 0, w :: writes)
      else
        match w with
        | .took n =>
            if n = 0 then (if endsEarly then .done else .failed, rest, writes)
            else sendLoop endsEarly writes (rest - n)
        | .wantWrite => (.wantWrite, rest, writes)
        | .wantRead => (.wantRead, rest, writes)
        | .failed => (.failed, rest, writes)

/-- The second half of `http1_response_plain` and `http1_response_ssl`: the file. -/
def sendFile (isTls : Bool) (writes : List FileWrite) (c : Connection) : SendResult × Connection :=
  let (sent, rest, _) := sendLoop isTls writes c.fileRemaining
  (sent, { c with fileRemaining := rest })

/-- `http1_response_plain` and `http1_response_ssl`. -/
def http1Response (isTls : Bool) (writes : List FileWrite) (c : Connection) :
    SendResult × Connection :=
  if c.isHeaderSent then sendFile isTls writes c
  else
    match sendLoop false writes c.headerRest with
    | (.done, _, writes) => sendFile isTls writes { c with isHeaderSent := true, headerRest := 0 }
    | (sent, rest, _) => (sent, { c with headerRest := rest })

/-! ## Calls -/

/-- What a call finds: what `recv` returns, the header and the size of a file and the session with a
backend that are made for a request, and what happens while either is answered. -/
structure CallInput where
  script : List RecvResult
  headerLen : Nat
  fileSize : Nat
  backend : HalmosFCGISession
  fileWrites : List FileWrite
  writes : List Fcgi.SendResult
  attempts : List Attempt
  answer : BackendSock
  pipe : Bool
  closes : Bool

/-- A call: the connection in front of it, what it returns, the connection behind it, and how the
exchange with a backend has ended. -/
structure ConnectionCall where
  before : Connection
  ret : Int
  after : Connection
  processed : Option Processed

/-- What is made ready for a request that has been routed. -/
def Connection.prepare (c : Connection) (i : CallInput) (s : HTTP1Session) : Connection :=
  match s.state with
  | .sendStaticFile =>
      { c with
        session := s
        isHeaderSent := false
        headerRest := i.headerLen
        fileRemaining := i.fileSize }
  | .fcgiProcessing => { c with session := s, fcgiSess := some i.backend }
  | _ => { c with session := s }

/-- The URI names a file that a backend is asked for. -/
def asksBackend (config : Config) (s : HTTP1Session) : Bool :=
  match s.req.uri.bind (fun p => p.str s.buffer s.req.routeResult) with
  | none => false
  | some uri =>
      let pathOff := pathOffset s.req.uri s.req.pathInfo
      hasExtension uri pathOff (ascii ".php") || hasExtension uri pathOff config.rustExt ||
        hasExtension uri pathOff config.pythonExt

/-- `http1_manager_session`. -/
def Connection.call (server : Server) (isTls : Bool) (c : Connection) (i : CallInput) :
    Option ConnectionCall :=
  match c.session.state with
  | .readHeaders | .readBody | .handleRequest => do
      let r ← http1ManagerSession server .done c.session i.script
      -- there is no session with a backend, and the client is told at once
      let x : Exchange := ⟨i.backend, ⟨[], i.writes⟩, i.answer⟩
      let refused := r.handled.isSome ∧ r.ret = 0 ∧ asksBackend server.config r.session = true
      some ⟨c, r.ret, c.prepare i r.session,
        if refused then some ⟨.error, x, sendBadGateway isTls x.client⟩ else none⟩
  | .fcgiProcessing =>
      match c.fcgiSess with
      | none => some ⟨c, -1, c, none⟩
      | some sess => do
          let link : Link := ⟨isTls, i.pipe, c.session.req.isKeepAlive, i.closes⟩
          let p ← fcgiProcessing link c.isHeaderSent i.attempts ⟨sess, ⟨[], i.writes⟩, i.answer⟩
          let r ← http1ManagerSession server .done c.session i.script
          some ⟨c, r.ret, { c with session := r.session, fcgiSess := none }, some p⟩
  | .sendStaticFile => do
      let (sent, c') := http1Response isTls i.fileWrites c
      let r ← http1ManagerSession server sent c.session i.script
      some ⟨c, r.ret, { c' with session := r.session }, none⟩
  | .done => some ⟨c, 2, c, none⟩

/-- The calls on a connection, as long as it is kept. -/
def Connection.calls (server : Server) (isTls : Bool) :
    List CallInput → Connection → Option (List ConnectionCall)
  | [], _ => some []
  | i :: inputs, c => do
      let r ← c.call server isTls i
      if r.ret = 2 ∨ r.ret = 3 then do
        let more ← r.after.calls server isTls inputs
        some (r :: more)
      else some [r]

/-- A connection that has been accepted. -/
def Connection.new (config : Config) : Connection := ⟨.new config, false, 0, 0, none⟩

/-! ## Failures -/

/-- The complete response `502 Bad Gateway`. -/
def badGateway : List UInt8 :=
  responseHeaders 502 (ascii "Bad Gateway") (ascii "text/html") 15 false ++ ascii "502 Bad Gateway"

/-- The exchange has failed; the client had been sent these bytes of the answer. -/
def ConnectionCall.FailedWith (r : ConnectionCall) (p : Processed) : Prop :=
  r.processed = some p ∧ p.status ≠ .completed

/-- A client that has been sent nothing gets the complete response, and any other one nothing more,
and its connection is closed. -/
def ConnectionCall.FailsWell (r : ConnectionCall) : Prop :=
  ∀ p, r.FailedWith p →
    (p.exchange.client.out = [] → p.client.out = badGateway) ∧
    (p.exchange.client.out ≠ [] → p.client.out = p.exchange.client.out ∧ r.ret = 0)

/-- The writes take the whole response. -/
def TellsAll (writes : List Fcgi.SendResult) : Prop :=
  (∀ r ∈ writes[0]?, ∃ n, r = .sent n ∧ 119 ≤ n) ∧ ∀ r ∈ writes[1]?, ∃ n, r = .sent n ∧ 15 ≤ n

/-- The writes take nothing of the response. -/
def TellsNothing (writes : List Fcgi.SendResult) : Prop :=
  (∃ r ∈ writes[0]?, ∀ n, r = .sent n → n = 0) ∧ ∃ r ∈ writes[1]?, ∀ n, r = .sent n → n = 0

/-- What a call has to find for a failure to end well: no file has been sent on the connection and
the client takes the response; or, when a part of the answer is out, a file has been sent or the
client takes no more, and the connection is not to be kept. -/
def ConnectionCall.Guarded (r : ConnectionCall) : Prop :=
  ∀ p, r.FailedWith p →
    if p.exchange.client.out = [] then
      (r.before.session.state = .fcgiProcessing → r.before.isHeaderSent = false) ∧
        TellsAll p.exchange.client.writes
    else
      r.before.session.req.isKeepAlive = false ∧
        (r.before.isHeaderSent = true ∨ TellsNothing p.exchange.client.writes)

variable {server : Server} {isTls : Bool} {c : Connection} {i : CallInput} {r : ConnectionCall}

/-! ## The response 502 -/

/-- What the next write takes. -/
def took (buf : List UInt8) : List Fcgi.SendResult → List UInt8
  | [] => buf
  | r :: _ => r.taken buf

theorem halmosSendMem_eq (isTls : Bool) {buf : List UInt8} (hlen : buf.length ≤ 32768) (c : ClientSock) :
    halmosSendMem isTls buf c = ⟨c.out ++ took buf c.writes, c.writes.tail⟩ := by
  have htake : buf.take (if isTls then 32768 else buf.length) = buf := by
    apply List.take_of_length_le
    split
    · exact hlen
    · exact le_rfl
  unfold halmosSendMem ClientSock.send
  rw [htake]
  cases hwrites : c.writes with
  | nil => rfl
  | cons r writes => rfl

theorem took_isPrefix (buf : List UInt8) (writes : List Fcgi.SendResult) :
    took buf writes <+: buf := by
  cases writes with
  | nil => exact List.prefix_rfl
  | cons r writes =>
      cases r with
      | sent n => exact List.take_prefix n buf
      | wouldBlock => exact List.nil_prefix
      | failed => exact List.nil_prefix

theorem took_all_iff {buf : List UInt8} (hne : buf ≠ []) (writes : List Fcgi.SendResult) :
    took buf writes = buf ↔ ∀ r ∈ writes[0]?, ∃ n, r = .sent n ∧ buf.length ≤ n := by
  cases writes with
  | nil => simp [took]
  | cons r writes =>
      cases r with
      | sent n => simp [took, Fcgi.SendResult.taken, List.take_eq_self_iff]
      | wouldBlock => simpa [took, Fcgi.SendResult.taken] using hne.symm
      | failed => simpa [took, Fcgi.SendResult.taken] using hne.symm

theorem took_nothing_iff {buf : List UInt8} (hne : buf ≠ []) (writes : List Fcgi.SendResult) :
    took buf writes = [] ↔ ∃ r ∈ writes[0]?, ∀ n, r = .sent n → n = 0 := by
  cases writes with
  | nil => simpa [took] using hne
  | cons r writes =>
      cases r with
      | sent n => simp [took, Fcgi.SendResult.taken, hne]
      | wouldBlock => simp [took, Fcgi.SendResult.taken]
      | failed => simp [took, Fcgi.SendResult.taken]

/-- The header of the response. -/
def badGatewayHeader : List UInt8 :=
  responseHeaders 502 (ascii "Bad Gateway") (ascii "text/html") 15 false

theorem length_badGatewayHeader : badGatewayHeader.length = 119 := by decide +kernel

theorem badGatewayHeader_ne_nil : badGatewayHeader ≠ [] :=
  List.ne_nil_of_length_pos (by rw [length_badGatewayHeader]; omega)

theorem sendBadGateway_out (c : ClientSock) :
    (sendBadGateway isTls c).out
      = c.out ++ (took badGatewayHeader c.writes ++ took (ascii "502 Bad Gateway") c.writes.tail) := by
  have hlen := length_badGatewayHeader
  have hheader := halmosSendMem_eq isTls (show badGatewayHeader.length ≤ 32768 by omega) c
  have hbody := halmosSendMem_eq isTls (show (ascii "502 Bad Gateway").length ≤ 32768 by decide)
  have hne : ascii "502 Bad Gateway" ≠ [] := by decide
  have hcontent : (ascii "502 Bad Gateway").length = 15 := by decide
  unfold sendBadGateway http1ResponseSendMem
  rw [if_neg hne, hcontent]
  show (halmosSendMem isTls _ (halmosSendMem isTls badGatewayHeader c)).out = _
  rw [hheader, hbody, List.append_assoc]

/-- Two writes take the whole of two texts only one by one. -/
theorem append_took_iff (a b : List UInt8) (ws ws' : List Fcgi.SendResult) :
    took a ws ++ took b ws' = a ++ b ↔ took a ws = a ∧ took b ws' = b := by
  constructor
  · intro h
    have ha := (took_isPrefix a ws).length_le
    have hb := (took_isPrefix b ws').length_le
    have hlen := congrArg List.length h
    simp only [List.length_append] at hlen
    exact ⟨(took_isPrefix a ws).eq_of_length (by omega), (took_isPrefix b ws').eq_of_length (by omega)⟩
  · rintro ⟨ha, hb⟩
    rw [ha, hb]

theorem sendBadGateway_all_iff (isTls : Bool) (c : ClientSock) :
    (sendBadGateway isTls c).out = c.out ++ badGateway ↔ TellsAll c.writes := by
  have hheader := took_all_iff badGatewayHeader_ne_nil c.writes
  have hbody := took_all_iff (show ascii "502 Bad Gateway" ≠ [] by decide) c.writes.tail
  have hcontent : (ascii "502 Bad Gateway").length = 15 := by decide
  have hbad : badGateway = badGatewayHeader ++ ascii "502 Bad Gateway" := rfl
  rw [length_badGatewayHeader] at hheader
  rw [hcontent] at hbody
  rw [sendBadGateway_out, hbad, List.append_cancel_left_eq, append_took_iff, hheader, hbody]
  simp [TellsAll]

theorem sendBadGateway_nothing_iff (isTls : Bool) (c : ClientSock) :
    (sendBadGateway isTls c).out = c.out ↔ TellsNothing c.writes := by
  have hheader := took_nothing_iff badGatewayHeader_ne_nil c.writes
  have hbody := took_nothing_iff (show ascii "502 Bad Gateway" ≠ [] by decide) c.writes.tail
  have hself : ∀ s : List UInt8, c.out ++ s = c.out ↔ s = [] := by simp
  rw [sendBadGateway_out, hself, List.append_eq_nil_iff, hheader, hbody]
  simp [TellsNothing]

/-! ## The calls -/

/-- How an exchange ends that has failed: the client is told if the flag is not set. -/
theorem fcgiProcessing_failed {l : Link} {flag : Bool} {attempts : List Attempt} {x : Exchange}
    {p : Processed} (h : fcgiProcessing l flag attempts x = some p) (hfailed : p.status ≠ .completed) :
    p.client = if flag = true then p.exchange.client else sendBadGateway l.isTls p.exchange.client := by
  unfold fcgiProcessing at h
  obtain ⟨⟨status, x'⟩, -, h⟩ := Option.bind_eq_some_iff.mp h
  obtain rfl := Option.some.inj h
  have hfailed : status ≠ .completed := hfailed
  simp [hfailed]

/-- A failed exchange is one that has not begun, or one that the state `FCGI_PROCESSING` has given
up. -/
theorem call_failed {p : Processed} (h : c.call server isTls i = some r) (hp : r.FailedWith p) :
    r.before = c ∧
      ((c.session.state ≠ .fcgiProcessing ∧ p.exchange.client.out = [] ∧
          p.client = sendBadGateway isTls p.exchange.client) ∨
        (c.session.state = .fcgiProcessing ∧
          r.ret = (if c.session.req.isKeepAlive then 2 else 0) ∧
          p.client = if c.isHeaderSent = true then p.exchange.client
            else sendBadGateway isTls p.exchange.client)) := by
  obtain ⟨hprocessed, hfailed⟩ := hp
  unfold Connection.call at h
  split at h
  -- a request is read
  iterate 3
    next hstate =>
      obtain ⟨call, -, h⟩ := Option.bind_eq_some_iff.mp h
      obtain rfl := Option.some.inj h
      dsimp only at hprocessed
      split at hprocessed
      · obtain rfl := Option.some.inj hprocessed
        exact ⟨rfl, .inl ⟨by simp [hstate], rfl, rfl⟩⟩
      · cases hprocessed
  · next hstate =>
    split at h
    · obtain rfl := Option.some.inj h
      cases hprocessed
    · obtain ⟨p', hrun, h⟩ := Option.bind_eq_some_iff.mp h
      obtain ⟨call, hcall, h⟩ := Option.bind_eq_some_iff.mp h
      obtain rfl := Option.some.inj h
      obtain rfl : p' = p := Option.some.inj hprocessed
      have hret : call.ret = (if c.session.req.isKeepAlive then 2 else 0) := by
        unfold http1ManagerSession at hcall
        simp only [hstate, Option.some.injEq] at hcall
        rw [← hcall]
      have hclient := fcgiProcessing_failed hrun hfailed
      dsimp only at hclient
      exact ⟨rfl, .inr ⟨hstate, hret, hclient⟩⟩
  -- a file is sent, or the connection is done
  · obtain ⟨call, -, h⟩ := Option.bind_eq_some_iff.mp h
    obtain rfl := Option.some.inj h
    cases hprocessed
  · obtain rfl := Option.some.inj h
    cases hprocessed

theorem call_failsWell_iff (h : c.call server isTls i = some r) : r.FailsWell ↔ r.Guarded := by
  refine forall₂_congr fun p hp => ?_
  obtain ⟨rfl, ⟨hstate, hnil, hclient⟩ | ⟨hstate, hret, hclient⟩⟩ := call_failed h hp
  · have hall := sendBadGateway_all_iff isTls p.exchange.client
    rw [hnil, List.nil_append] at hall
    simp [hnil, hclient, hall, hstate]
  · have hall := sendBadGateway_all_iff isTls p.exchange.client
    have hnothing := sendBadGateway_nothing_iff isTls p.exchange.client
    have hbad : badGateway ≠ [] := List.append_ne_nil_of_left_ne_nil badGatewayHeader_ne_nil _
    have hkept : r.ret = 0 ↔ r.before.session.req.isKeepAlive = false := by
      rw [hret]
      cases r.before.session.req.isKeepAlive <;> simp
    rw [hkept, hclient]
    by_cases hout : p.exchange.client.out = []
    · rw [hout, List.nil_append] at hall
      cases r.before.isHeaderSent <;> simp [hout, hstate, hall, hbad.symm]
    · cases r.before.isHeaderSent <;> simp [hout, hnothing, and_comm]

theorem mem_calls {inputs : List CallInput} {rs : List ConnectionCall}
    (h : c.calls server isTls inputs = some rs) (hr : r ∈ rs) :
    ∃ c' i, Connection.call server isTls c' i = some r := by
  induction inputs generalizing c rs with
  | nil =>
      obtain rfl : rs = [] := (Option.some.inj h).symm
      cases hr
  | cons i inputs ih =>
      obtain ⟨r', hcall, h⟩ := Option.bind_eq_some_iff.mp h
      split at h
      · obtain ⟨more, hmore, h⟩ := Option.bind_eq_some_iff.mp h
        obtain rfl := Option.some.inj h
        rcases List.mem_cons.mp hr with rfl | hr
        · exact ⟨c, i, hcall⟩
        · exact ih hmore hr
      · obtain rfl := Option.some.inj h
        obtain rfl := List.mem_singleton.mp hr
        exact ⟨c, i, hcall⟩

theorem prepare_isHeaderSent (s : HTTP1Session) (h : (c.prepare i s).isHeaderSent = true) :
    c.isHeaderSent = true := by
  unfold Connection.prepare at h
  split at h
  · cases h
  · exact h
  · exact h

/-- Only a call that sends a file sets the flag. -/
theorem call_isHeaderSent (h : c.call server isTls i = some r) :
    r.before = c ∧ (c.session.state ≠ .sendStaticFile → r.after.isHeaderSent = true →
      c.isHeaderSent = true) := by
  unfold Connection.call at h
  split at h
  iterate 3
    obtain ⟨call, -, h⟩ := Option.bind_eq_some_iff.mp h
    obtain rfl := Option.some.inj h
    exact ⟨rfl, fun _ => prepare_isHeaderSent call.session⟩
  · split at h
    · obtain rfl := Option.some.inj h
      exact ⟨rfl, fun _ hflag => hflag⟩
    · obtain ⟨p, -, h⟩ := Option.bind_eq_some_iff.mp h
      obtain ⟨call, -, h⟩ := Option.bind_eq_some_iff.mp h
      obtain rfl := Option.some.inj h
      exact ⟨rfl, fun _ hflag => hflag⟩
  · next hstate =>
    obtain ⟨call, -, h⟩ := Option.bind_eq_some_iff.mp h
    obtain rfl := Option.some.inj h
    exact ⟨rfl, fun hno => absurd hstate hno⟩
  · obtain rfl := Option.some.inj h
    exact ⟨rfl, fun _ hflag => hflag⟩

/-- The flag that is looked at belongs to a file the connection has been sent, in front of the
request that fails or long before. -/
theorem calls_isHeaderSent {inputs : List CallInput} {rs : List ConnectionCall}
    (h : c.calls server isTls inputs = some rs) (hr : r ∈ rs)
    (hflag : r.before.isHeaderSent = true) :
    c.isHeaderSent = true ∨ ∃ r' ∈ rs, r'.before.session.state = .sendStaticFile := by
  induction inputs generalizing c rs with
  | nil =>
      obtain rfl : rs = [] := (Option.some.inj h).symm
      cases hr
  | cons i inputs ih =>
      obtain ⟨r', hcall, hrest⟩ := Option.bind_eq_some_iff.mp h
      obtain ⟨rfl, hkeeps⟩ := call_isHeaderSent hcall
      split at hrest
      · obtain ⟨more, hmore, hrs⟩ := Option.bind_eq_some_iff.mp hrest
        obtain rfl := Option.some.inj hrs
        rcases List.mem_cons.mp hr with rfl | hr
        · exact .inl hflag
        · by_cases hfile : r'.before.session.state = .sendStaticFile
          · exact .inr ⟨r', List.mem_cons_self, hfile⟩
          · rcases ih hmore hr with hafter | ⟨r'', hr'', hstate⟩
            · exact .inl (hkeeps hfile hafter)
            · exact .inr ⟨r'', List.mem_cons_of_mem r' hr'', hstate⟩
      · obtain rfl := Option.some.inj hrest
        obtain rfl := List.mem_singleton.mp hr
        exact .inl hflag

/-- **When a failure ends well.** In every run of calls on a connection, every exchange that fails
ends with the one response or with the end of the connection exactly when every one of them finds
what it has to. -/
theorem failsWell_iff (server : Server) (isTls : Bool) (c : Connection) (inputs : List CallInput)
    (rs : List ConnectionCall) (h : c.calls server isTls inputs = some rs) :
    (∀ r ∈ rs, r.FailsWell) ↔ ∀ r ∈ rs, r.Guarded := by
  refine forall₂_congr fun r hr => ?_
  obtain ⟨c', i, hcall⟩ := mem_calls h hr
  exact call_failsWell_iff hcall

/-- A server with a backend for its scripts. -/
def scriptServer : Server where
  config := ⟨ascii "/srv", [], [], [], 128, []⟩
  fs := ⟨fun _ => none, nofun, fun _ => none, fun _ => false⟩
  fcgiSessionCreates _ := true
  moved _ := 0

/-- What a call finds, when nothing is read and the backend says nothing. -/
def quietInput : CallInput where
  script := []
  headerLen := 0
  fileSize := 0
  backend := Fcgi.fcgiSessionHttp1Create 5 1 [] (some []) 0
  fileWrites := []
  writes := []
  attempts := []
  answer := ⟨[], [], []⟩
  pipe := true
  closes := true

/-- A connection on which a script has been asked for. -/
def askedConnection : Connection where
  session := { HTTP1Session.new scriptServer.config with state := .fcgiProcessing }
  isHeaderSent := false
  headerRest := 0
  fileRemaining := 0
  fcgiSess := some quietInput.backend

/-- The backend is gone in front of its answer. -/
def goneInput : CallInput :=
  { quietInput with attempts := [⟨.ready false true, .wouldBlock, .wouldBlock⟩] }

theorem failsWell_gone :
    ∃ rs, askedConnection.calls scriptServer false [goneInput] = some rs ∧ rs ≠ [] ∧
      ∀ r ∈ rs, r.FailsWell := by
  have hrun : askedConnection.calls scriptServer false [goneInput]
      = some [⟨askedConnection, 0,
          { askedConnection with session := askedConnection.session.reset, fcgiSess := none },
          some ⟨.error, ⟨quietInput.backend, ⟨[], []⟩, ⟨[], [], []⟩⟩, sendBadGateway false ⟨[], []⟩⟩⟩] :=
    rfl
  refine ⟨_, hrun, List.cons_ne_nil _ _,
    (failsWell_iff scriptServer false askedConnection [goneInput] _ hrun).mpr ?_⟩
  rintro r hr p ⟨hp, -⟩
  obtain rfl := List.mem_singleton.mp hr
  obtain rfl := Option.some.inj hp
  rw [if_pos rfl]
  exact ⟨fun _ => rfl, nofun, nofun⟩

/-- A script is asked for, and the backend closes its end behind one record of the answer. -/
def brokenAnswer : List CallInput :=
  [{ quietInput with script := [.data (ascii "GET /a.php HTTP/1.1\r\n\r\n")] },
    { quietInput with
      attempts := List.replicate 2 ⟨.ready true false, .sent 32784, .sent 8⟩
      answer := ⟨[], Fcgi.helloRecord.encode 1, []⟩ }]

/-- The answer breaks off behind its first record: the client is sent a second status line, and its
connection is kept. -/
theorem second_status_line :
    ¬ ∀ (server : Server) (isTls : Bool) (inputs : List CallInput) (rs : List ConnectionCall),
      (Connection.new server.config).calls server isTls inputs = some rs →
      ∀ r ∈ rs, r.FailsWell := by
  intro h
  have hrun : ((Connection.new scriptServer.config).calls scriptServer false brokenAnswer).map
      (fun rs => rs.map fun r => (r.ret, r.processed.map fun p => (p.status,
        p.exchange.client.out.isEmpty, p.client.out.length - p.exchange.client.out.length)))
        = some [(3, none), (2, some (.error, false, 134))] := by decide +kernel
  obtain ⟨rs, hcalls, hrs⟩ := Option.map_eq_some_iff.mp hrun
  obtain ⟨r, hr, hdata⟩ : ∃ r ∈ rs, (r.ret, r.processed.map fun p => (p.status,
      p.exchange.client.out.isEmpty, p.client.out.length - p.exchange.client.out.length))
      = (2, some (.error, false, 134)) := by
    apply List.mem_map.mp
    rw [hrs]
    simp
  obtain ⟨hret, hprocessed⟩ := Prod.mk.inj hdata
  obtain ⟨p, hp, hpdata⟩ := Option.map_eq_some_iff.mp hprocessed
  simp only [Prod.mk.injEq, List.isEmpty_eq_false_iff] at hpdata
  have hfailed : p.status ≠ .completed := by simp [hpdata.1]
  have hwell := (h scriptServer false brokenAnswer rs hcalls r hr p ⟨hp, hfailed⟩).2 hpdata.2.1
  rw [hret] at hwell
  exact absurd hwell.2 (by decide)

end Halmos.Http1
