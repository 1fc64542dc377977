import Halmos.Fcgi.PoolSlots
import Halmos.Fcgi.Session
import Halmos.Fcgi.SpliceServes
import Halmos.Fcgi.StreamEnd

set_option autoImplicit false

/-! # Requests on the sockets of the pool

Requests of both paths on sockets of one pool, with the answers of the backends on their way. A
request gets a socket from `fcgi_pool_conn_acquire`, its session reads from it, and
`fcgi_session_destroy` or `http2_response_flush_active_streams` gives it back. A run keeps beside
the code's state what each request has read and what has become of its socket.
-/

namespace Halmos.Fcgi

open Http2

/-! ## Requests -/

/-- The session of a request, on an HTTP/1 connection or on a stream. -/
inductive BackendSession where
  | http1 (s : HalmosFCGISession)
  | http2 (s : FcgiStream)

/-- The session has the socket, or `fcgi_io_splice_response` has closed it, or the session has given
it back, and it has been left idle in the pool or not. -/
inductive Stage where
  | active
  | closed
  | ended (idle : Bool)
  deriving DecidableEq, Repr

/-- A request: the number of its socket, the answer of the backend, and what it has read of it. -/
structure Request where
  fd : Int
  response : Response
  session : BackendSession
  read : List UInt8
  stage : Stage

/-- How the session begins, on either path. -/
inductive SessionStart where
  | http1 (requestId : Nat) (params : List UInt8) (postData : Option (List UInt8))
      (contentLength : Nat)
  | http2 (s : FcgiStream)

def SessionStart.session (fd : Int) : SessionStart → BackendSession
  | .http1 requestId params postData contentLength =>
      .http1 (fcgiSessionHttp1Create fd requestId params postData contentLength)
  | .http2 s => .http2 (routeFastcgiBackend s)

/-- What comes with a socket: the beginning of the session, the answer, and when it arrives. -/
structure Start where
  session : SessionStart
  response : Response
  schedule : List Nat

/-- The pool, which numbers are open sockets to backends, what is on its way on each of them, and
the requests, counted from 0. -/
structure Requests where
  run : PoolRun
  opened : Int → Bool
  sock : Int → BackendSock
  count : Nat
  request : Nat → Option Request

/-- A step of a thread in the pool, or one of a request: a step of its session, or the end of its
session. `healthy` is what `fcgi_pool_conn_release` finds, if it is called. -/
inductive ReuseInput where
  | acquire (t : Nat) (a : AcquireCall)
  | reuse (t : Nat) (quiet : Int → Bool) (start : Start)
  | create (t : Nat) (sock : Option Int) (start : Start)
  | http1 (q : Nat) (useSplice keepAlive : Bool) (i : SessionInput)
  | destroy (q : Nat) (healthy : Bool)
  | http2 (q : Nat) (i : StepInput) (healthy : Bool)

/-! ## A socket and its request -/

/-- What has been read off a socket that is `after` now. -/
def BackendSock.consumed (before after : BackendSock) : List UInt8 :=
  before.stream.take (before.stream.length - after.stream.length)

/-- The sockets that a scan has closed. -/
def sweptFds : List HalmosFCGIConn → List HalmosFCGIConn → List Int
  | c :: cs, c' :: cs' =>
      if c'.sockfd = c.sockfd then sweptFds cs cs' else c.sockfd :: sweptFds cs cs'
  | _, _ => []

/-- A release leaves the socket idle: there is a slot for it, and it is healthy. -/
def Pool.leavesIdle (p : Pool) (fd : Int) (healthy : Bool) : Bool :=
  healthy && p.connections.any (fun c => c.sockfd = fd)

/-- `recv` with a buffer of 8192 bytes, with the answer of the system if there is nothing to be had. -/
def BackendSock.recv (sock : BackendSock) (answer : RecvResult) : RecvResult × BackendSock :=
  match answer with
  | .data _ =>
      let r := sock.recvWaitAll 8192
      (if r.1 = [] then .wouldBlock else .data r.1, r.2)
  | .wouldBlock => (.wouldBlock, sock)
  | .failed => (.failed, sock)
  | .eof => (.eof, sock)

def RecvResult.bytes : RecvResult → List UInt8
  | .data bytes => bytes
  | .wouldBlock => []
  | .failed => []
  | .eof => []

/-- The backend has got a request, and its answer is on its way. -/
def Requests.begin (x : Requests) (fd : Int) (start : Start) : Requests :=
  let sock := x.sock fd
  { x with
    opened := Function.update x.opened fd true
    -- what is still unread on the socket stands in front of the answer
    sock := Function.update x.sock fd
      ⟨sock.ready, sock.coming ++ start.response.bytes, start.schedule⟩
    count := x.count + 1
    request := Function.update x.request x.count
      (some ⟨fd, start.response, start.session.session fd, [], .active⟩) }

/-- The first section of `fcgi_pool_conn_acquire`. Nothing has arrived on a quiet socket. -/
def Requests.tryReuse (cfg : PoolConfig) (x : Requests) (t : Nat) (a : AcquireCall)
    (quiet : Int → Bool) (start : Start) : Requests :=
  -- bytes that have arrived are an event for `poll`
  let quiet := fun fd => quiet fd && (x.sock fd).ready = []
  let r := x.run.pool.reuse cfg a.target a.port quiet
  let swept := sweptFds x.run.pool.connections r.1.connections
  let x' := { x with
    run := x.run.tryReuse cfg t a quiet
    opened := fun fd => x.opened fd && fd ∉ swept }
  match r.2 with
  | some fd => x'.begin fd start
  | none => x'

/-- The new socket and the second section. The system may give any number that is not open. -/
def Requests.createNew (cfg : PoolConfig) (x : Requests) (t : Nat) (a : AcquireCall) (fd : Int)
    (start : Start) : Requests :=
  if 0 ≤ fd ∧ x.opened fd = false then
    Requests.begin { x with
      run := x.run.createNew cfg t a fd
      sock := Function.update x.sock fd ⟨[], [], []⟩ } fd start
  else x

/-- A step of the session of the request `q` that has read `got`. -/
def Requests.advance (x : Requests) (q : Nat) (u : Request) (session : BackendSession)
    (got : List UInt8) (sock : BackendSock) : Requests :=
  { x with
    sock := Function.update x.sock u.fd sock
    request := Function.update x.request q
      (some { u with session := session, read := u.read ++ got }) }

/-- `close` on the number of the request. -/
def Requests.close (x : Requests) (q : Nat) (u : Request) (stage : Stage) : Requests :=
  { x with
    opened := Function.update x.opened u.fd false
    request := Function.update x.request q (some { u with stage := stage }) }

/-- `fcgi_pool_conn_release`. -/
def Requests.giveBack (cfg : PoolConfig) (x : Requests) (q : Nat) (u : Request) (healthy : Bool) :
    Requests :=
  let idle := x.run.pool.leavesIdle u.fd healthy
  { x with
    run := x.run.step cfg (.release u.fd healthy)
    opened := Function.update x.opened u.fd (x.opened u.fd && idle)
    request := Function.update x.request q (some { u with stage := .ended idle }) }

/-! ## The steps -/

/-- `fcgi_session_http1_step`. A failed `fcgi_io_splice_response` has closed the socket; one that
does not return changes nothing. -/
def Requests.http1Step (x : Requests) (q : Nat) (u : Request) (s : HalmosFCGISession)
    (useSplice keepAlive : Bool) (i : SessionInput) : Requests :=
  if s.state = .receiving ∧ i.pollIn = true then
    match fcgiIoSpliceResponse useSplice keepAlive (x.sock u.fd) with
    | none => x
    | some (code, st) =>
        let session := BackendSession.http1 (fcgiSessionHttp1Step s { i with spliced := code }).session
        let got := (x.sock u.fd).consumed st.sock
        let x' := x.advance q u session got st.sock
        -- the socket is closed here, and `fcgi_session_destroy` closes the number again
        if code = 0 then x'
        else x'.close q { u with session := session, read := u.read ++ got } .closed
  else x.advance q u (.http1 (fcgiSessionHttp1Step s i).session) [] (x.sock u.fd)

/-- `fcgi_session_destroy`. -/
def Requests.destroy (cfg : PoolConfig) (x : Requests) (q : Nat) (u : Request)
    (s : HalmosFCGISession) (healthy : Bool) : Requests :=
  -- without a look at whether the answer has been read
  if s.state = .error then x.close q u (.ended false) else x.giveBack cfg q u healthy

/-- The step receives something. -/
def FcgiStream.receives (s : FcgiStream) (i : StepInput) : Bool := s.fcgiState = 3 ∧ i.pollIn

/-- The FastCGI half of `http2_response_flush_active_streams`. -/
def Requests.http2Step (cfg : PoolConfig) (x : Requests) (q : Nat) (u : Request) (s : FcgiStream)
    (i : StepInput) (healthy : Bool) : Requests :=
  if s.isFcgiActive then
    let r := if s.receives i then (x.sock u.fd).recv i.recv else (.wouldBlock, x.sock u.fd)
    let i := { i with recv := r.1 }
    let session := BackendSession.http2 (flushFcgi s i).2
    let x' := x.advance q u session r.1.bytes r.2
    -- COMPLETED and ERROR are treated alike
    if (fcgiSessionHttp2Step s i).status = .continue then x'
    else x'.giveBack cfg q { u with session := session, read := u.read ++ r.1.bytes } healthy
  else x

/-- One step. A step that cannot be taken changes nothing. -/
def Requests.step (cfg : PoolConfig) (x : Requests) : ReuseInput → Requests
  | .acquire t a => { x with run := x.run.step cfg (.acquire t a) }
  | .reuse t quiet start =>
      match x.run.threads t with
      | .reusing a => x.tryReuse cfg t a quiet start
      | _ => x
  | .create t sock start =>
      match x.run.threads t, sock with
      | .creating a, some fd => x.createNew cfg t a fd start
      | .creating _, none => { x with run := x.run.step cfg (.create t none) }
      | _, _ => x
  | .http1 q useSplice keepAlive i =>
      match x.request q with
      | some u =>
          match u.stage, u.session with
          | .active, .http1 s => x.http1Step q u s useSplice keepAlive i
          | _, _ => x
      | none => x
  | .destroy q healthy =>
      match x.request q with
      | some u =>
          match u.stage, u.session with
          | .ended _, _ => x
          | _, .http1 s => x.destroy cfg q u s healthy
          | _, .http2 _ => x
      | none => x
  | .http2 q i healthy =>
      match x.request q with
      | some u =>
          match u.stage, u.session with
          | .active, .http2 s => x.http2Step cfg q u s i healthy
          | _, _ => x
      | none => x

/-- The server when it starts. -/
def Requests.fresh (poolSize : Nat) : Requests where
  run := PoolRun.fresh poolSize
  opened _ := false
  sock _ := ⟨[], [], []⟩
  count := 0
  request _ := none

/-! ## What is to be shown -/

/-- A request reads nothing but its own answer: what it has read and what is still unread on its
socket make up the answer, and a socket is left idle behind the whole of it. -/
structure Requests.OwnAnswers (x : Requests) : Prop where
  prefixes : ∀ q u, x.request q = some u → u.read <+: u.response.bytes
  unread : ∀ q u, x.request q = some u → u.stage = .active →
    u.read ++ (x.sock u.fd).stream = u.response.bytes
  whole : ∀ q u, x.request q = some u → u.stage = .ended true → u.read = u.response.bytes
  idle : ∀ c ∈ x.run.pool.connections, c.Idle → (x.sock c.sockfd).stream = []

/-- No redirect, and nothing behind the content of END_REQUEST. -/
def Response.ReadToEnd (r : Response) : Prop :=
  r.last.padding = [] ∧
    ∀ text, headerText [] r.outputs = some text → isRedirect (cstr text) = false

/-- A call of the step fails. -/
def FcgiStream.Fails (s : FcgiStream) (i : StepInput) : Prop :=
  match s.fcgiState with
  | 0 => i.pollOut = true ∧ i.send = .failed
  | 1 => i.pollOut = true ∧ i.send = .failed
  | 2 => i.pollOut = true ∧ s.stdinSent < s.contentLength.toNat ∧
      (i.send = .failed ∨ i.sendBody = .failed)
  | 3 => i.pollIn = true ∧ (i.recv = .failed ∨ i.recv = .eof)
  | _ => False

/-- With `chunk` the blank line has arrived. -/
def FcgiStream.HeaderArrives (s : FcgiStream) (chunk : List UInt8) : Prop :=
  (strstr blankLine
    (FcgiStream.headerBuffer { s with headerText := recordLoop chunk s.headerText })).isSome = true

/-- The condition on a step. A splice is for an answer with a header block that fits its buffer, and
if all of it is in time, for one that is read to its end; a session is not destroyed before that
with its socket left idle, and not with its number given to another socket. On a stream, the bytes
that bring the blank line are all that is left, and no failure leaves the socket idle. -/
def ReuseInput.Careful (x : Requests) : ReuseInput → Prop
  | .http1 q useSplice _ i => ∀ u s, x.request q = some u → u.stage = .active →
      u.session = .http1 s → s.state = .receiving → i.pollIn = true →
        Fits u.response.stdout ∧
          (BackendSock.InTime (headerReads useSplice [] u.response.outputs) (x.sock u.fd) →
            u.response.ReadToEnd)
  | .destroy q healthy => ∀ u s, x.request q = some u → u.session = .http1 s →
      (u.stage = .active → s.state ≠ .error → s.state ≠ .finished →
        x.run.pool.leavesIdle u.fd healthy = false) ∧
      (u.stage = .closed → x.opened u.fd = false)
  | .http2 q i healthy => ∀ u s, x.request q = some u → u.stage = .active →
      u.session = .http2 s →
        (s.Fails i → x.run.pool.leavesIdle u.fd healthy = false) ∧
        (s.receives i = true → ∀ chunk, ((x.sock u.fd).recv i.recv).1 = .data chunk →
          s.HeaderArrives chunk → chunk = (x.sock u.fd).stream)
  | _ => True

end Halmos.Fcgi
