import Halmos.Fcgi.Delivery
import Halmos.Fcgi.Session
import Halmos.Http1.Session

set_option autoImplicit false

/-! # The exchange with a backend

The state `FCGI_PROCESSING` of `http1_manager_session` (`halmos_http1_manager.c`): at most 100 times
the socket of the backend is waited for and the session takes a step; then the client is told when
that has not been enough.
-/

namespace Halmos.Http1

open Fcgi (ClientSock BackendSock HalmosFCGISession Status fcgiSessionHttp1Step)
open Fcgi.Delivery (Link)

/-! ## Short responses -/

/-- The header of `http1_response_send_headers`. -/
def responseHeaders (status : Nat) (msg mime : List UInt8) (len : Nat) (ka : Bool) : List UInt8 :=
  ascii "HTTP/1.1 " ++ numeral 10 status ++ ascii " " ++ msg ++ ascii "\r\nContent-Type: " ++ mime
    ++ ascii "\r\nContent-Length: " ++ numeral 10 len ++ ascii "\r\nConnection: "
    ++ ascii (if ka then "keep-alive" else "close") ++ ascii "\r\nServer: Halmos-Savage/2.1\r\n\r\n"

/-- `halmos_send_mem`; nobody looks at what it returns. -/
def halmosSendMem (isTls : Bool) (buf : List UInt8) (c : ClientSock) : ClientSock :=
  (c.send (if isTls then 32768 else buf.length) buf).2

/-- `http1_response_send_mem`. -/
def http1ResponseSendMem (isTls : Bool) (status : Nat) (msg content : List UInt8) (ka : Bool)
    (c : ClientSock) : ClientSock :=
  let c := halmosSendMem isTls (responseHeaders status msg (ascii "text/html") content.length ka) c
  if content = [] then c else halmosSendMem isTls content c

/-- The response when the exchange fails. -/
def sendBadGateway (isTls : Bool) (c : ClientSock) : ClientSock :=
  http1ResponseSendMem isTls 502 (ascii "Bad Gateway") (ascii "502 Bad Gateway") false c

/-! ## The loop -/

/-- What `poll` on the socket of the backend returns. It waits for one event, and tells an error or
a hang-up besides. -/
inductive PollResult where
  | interrupted
  | failed
  | timeout
  | ready (event hangup : Bool)
  deriving DecidableEq, Repr

/-- One turn of the loop: what `poll` returns, and what the calls of `send` in the step do. -/
structure Attempt where
  poll : PollResult
  send : Fcgi.SendResult
  sendEof : Fcgi.SendResult
  deriving DecidableEq, Repr

/-- The session with the backend, the client, and the answer of the backend. -/
structure Exchange where
  session : HalmosFCGISession
  client : ClientSock
  answer : BackendSock

/-- The step: the event waited for is `POLLIN` in the state `RECEIVING`, and `POLLOUT` in the
others. `none` is a step that does not return. -/
def Exchange.step (l : Link) (a : Attempt) (event : Bool) (x : Exchange) :
    Option (Status × Exchange) :=
  if x.session.state = .receiving ∧ event = true then do
    let (spliced, st) ← Fcgi.Delivery.fcgiIoSpliceResponse l x.client x.answer
    let r := fcgiSessionHttp1Step x.session ⟨false, true, a.send, a.sendEof, spliced⟩
    some (r.status, ⟨r.session, st.client, st.sock⟩)
  else
    let r := fcgiSessionHttp1Step x.session ⟨event, false, a.send, a.sendEof, 0⟩
    some (r.status, { x with session := r.session })

/-- The loop over the attempts that are left. -/
def fcgiLoop (l : Link) : List Attempt → Status → Exchange → Option (Status × Exchange)
  | [], status, x => some (status, x)
  | a :: attempts, status, x =>
      match a.poll with
      | .interrupted => fcgiLoop l attempts status x
      | .failed => some (.error, x)
      | .timeout => fcgiLoop l attempts status x
      | .ready event hangup =>
          if hangup then some (.error, x)
          else do
            let (status, x) ← x.step l a event
            if status = .completed ∨ status = .error then some (status, x)
            else if x.session.state = .finished then some (.completed, x)
            else fcgiLoop l attempts status x

/-- `max_attempts`. -/
def maxAttempts : Nat := 100

/-- How the exchange has ended: the status behind the loop, what is left of the exchange, and the
client when it has been told. -/
structure Processed where
  status : Status
  exchange : Exchange
  client : ClientSock

/-- `STATE_FCGI_PROCESSING`, up to the cleaning up. -/
def fcgiProcessing (l : Link) (isHeaderSent : Bool) (attempts : List Attempt) (x : Exchange) :
    Option Processed := do
  let (status, x) ← fcgiLoop l (attempts.take maxAttempts) .continue x
  let client :=
    if status = .completed ∨ isHeaderSent = true then x.client else sendBadGateway l.isTls x.client
  some ⟨status, x, client⟩

end Halmos.Http1
