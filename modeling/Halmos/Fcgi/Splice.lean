import Halmos.Fcgi.Record
import Halmos.Fcgi.Socket
import Halmos.Http.Chunked

set_option autoImplicit false

/-! # `fcgi_io_splice_response`

The reader of a backend's answer on the HTTP/1 path (`halmos_fcgi_proto.c`): record by record from
the backend socket, the header block collected in an 8192-byte buffer, the body passed on in the
chunked coding. The client takes every write.
-/

namespace Halmos.Fcgi

open Http

/-! ## The head of the answer -/

/-- `get_status_text`. -/
def getStatusText (code : Int) : String :=
  if code = 100 then "Continue"
  else if code = 101 then "Switching Protocols"
  else if code = 200 then "OK"
  else if code = 201 then "Created"
  else if code = 202 then "Accepted"
  else if code = 204 then "No Content"
  else if code = 206 then "Partial Content"
  else if code = 301 then "Moved Permanently"
  else if code = 302 then "Found"
  else if code = 303 then "See Other"
  else if code = 304 then "Not Modified"
  else if code = 400 then "Bad Request"
  else if code = 401 then "Unauthorized"
  else if code = 403 then "Forbidden"
  else if code = 404 then "Not Found"
  else if code = 405 then "Method Not Allowed"
  else if code = 413 then "Payload Too Large"
  else if code = 500 then "Internal Server Error"
  else if code = 501 then "Not Implemented"
  else if code = 502 then "Bad Gateway"
  else if code = 503 then "Service Unavailable"
  else if code = 504 then "Gateway Timeout"
  else "Unknown Status"

/-- The status code read off the text in `header_buffer`. The number is looked for one byte
behind `Status:`. -/
def statusCode (text : List UInt8) : Int :=
  match strcasestr (ascii "Status:") text with
  | some s => atoi (s.drop 8)
  | none => if (strcasestr (ascii "Location:") text).isSome then 302 else 200

/-- `is_redirect`. -/
def isRedirect (text : List UInt8) : Bool := 300 ≤ statusCode text ∧ statusCode text < 400

/-- `has_content_length`. -/
def hasContentLength (text : List UInt8) : Bool :=
  (strcasestr (ascii "Content-Length:") text).isSome

/-- `res_start`: the status line and the header lines the server adds. -/
def responseStart (keepAlive : Bool) (text : List UInt8) : List UInt8 :=
  ascii "HTTP/1.1 " ++ signedNumeral (statusCode text) ++ ascii " "
    ++ ascii (getStatusText (statusCode text)) ++ ascii "\r\nServer: Halmos\r\n"
    ++ (if isRedirect text then
          if hasContentLength text then [] else ascii "Content-Length: 0\r\n"
        else ascii "Transfer-Encoding: chunked\r\n")
    ++ ascii "Connection: " ++ ascii (if keepAlive then "keep-alive" else "close") ++ crlf

/-! ## The loop over records -/

/-- The locals of the function: `header_buffer` up to `header_pos`, `header_sent`, what the client
has been sent, and the backend socket. A redirect leaves the loop at once, so `is_redirect` is
false wherever the loop tests it later. -/
structure SpliceState where
  headerBuffer : List UInt8
  headerSent : Bool
  out : List UInt8
  sock : BackendSock

/-- How one pass of the loop ends: with the next pass, with `break` (`final_status` is 0 or not),
or not at all. -/
inductive Pass where
  | next (st : SpliceState)
  | stop (ok : Bool) (st : SpliceState)
  | hang

/-- The loops that read `remain` bytes through `body_temp`; `put` is what the client is sent of
each piece. They fail at the first short read. -/
def pullLoop (put : List UInt8 → List UInt8) (remain : Nat) (out : List UInt8)
    (sock : BackendSock) : Bool × List UInt8 × BackendSock :=
  if remain = 0 then (true, out, sock)
  else
    let pull := min remain 16384
    let (got, sock) := sock.recvWaitAll pull
    if got.length ≠ pull then (false, out, sock)
    else pullLoop put (remain - pull) (out ++ put got) sock
termination_by remain

/-- The header block `head` at the front of `buf` is complete. A redirect is answered without a
body, and the rest of the record is read away. -/
def headerComplete (keepAlive : Bool) (clen toRead : Nat) (buf head out : List UInt8)
    (sock : BackendSock) : Pass :=
  -- the searches see the buffer up to its first NUL, so also the body behind the blank line
  let text := cstr buf
  let out := out ++ responseStart keepAlive text ++ head
  if isRedirect text then
    -- a short read only ends the reading away, and END_REQUEST is not looked at
    let (_, _, sock) := pullLoop (fun _ => []) (clen - buf.length) [] sock
    .stop true ⟨buf, true, out, sock⟩
  else
    let bodyInBuf := buf.drop head.length
    let out := if bodyInBuf = [] then out else out ++ chunk bodyInBuf
    let (ok, out, sock) := pullLoop chunk (clen - toRead) out sock
    if ok then .next ⟨buf, true, out, sock⟩ else .stop false ⟨buf, true, out, sock⟩

/-- A STDOUT record of `clen` bytes while the header block is not complete. -/
def headerRecord (keepAlive : Bool) (clen : Nat) (st : SpliceState) : Pass :=
  -- room for the NUL stays
  let space := 8192 - st.headerBuffer.length - 1
  let toRead := if clen < space then clen else space
  let (got, sock) := st.sock.recvWaitAll toRead
  if got.length ≠ toRead then .stop false { st with sock := sock }
  else
    let buf := st.headerBuffer ++ got
    match splitAfter blankLine (cstr buf) with
    -- what did not fit the buffer is not read away
    | none => .next { st with headerBuffer := buf, sock := sock }
    | some (head, _) => headerComplete keepAlive clen toRead buf head st.out sock

/-- A STDOUT record of `clen` bytes behind the header block: spliced, or copied for a TLS client
or without a pipe. -/
def bodyRecord (useSplice : Bool) (clen : Nat) (st : SpliceState) : Pass :=
  let out := st.out ++ (numeral 16 clen ++ crlf)
  if useSplice then
    match st.sock.spliceAll clen with
    | some (got, sock) => .next { st with out := out ++ got ++ crlf, sock := sock }
    -- `EAGAIN` in the splice loop is tried again at once
    | none => .hang
  else
    let (ok, out, sock) := pullLoop (fun got => got) clen out st.sock
    if ok then .next { st with out := out ++ crlf, sock := sock }
    else .stop false { st with out := out, sock := sock }

/-- Reads `n` bytes that the client is not sent. -/
def skip (n : Nat) (st : SpliceState) : Pass :=
  let (got, sock) := st.sock.recvWaitAll n
  if got.length ≠ n then .stop false { st with sock := sock } else .next { st with sock := sock }

/-- What follows the eight bytes of a record header, up to the padding. -/
def recordBody (useSplice keepAlive : Bool) (h : HeaderFields) (st : SpliceState) : Pass :=
  let clen := h.contentLength
  if h.type = fcgiStdout then
    if clen = 0 then .next st
    else if st.headerSent then bodyRecord useSplice clen st
    else headerRecord keepAlive clen st
  else if h.type = fcgiStderr ∧ 0 < clen then skip clen st
  else if h.type = fcgiEndRequest then
    match skip 8 st with
    -- the padding of the record is left on the socket
    | .next st => .stop true (if st.headerSent then { st with out := st.out ++ lastChunk } else st)
    | other => other
  else .next st

/-- One pass of the loop. -/
def readRecord (useSplice keepAlive : Bool) (st : SpliceState) : Pass :=
  let (hBuf, sock) := st.sock.recvWaitAll 8
  if hBuf.length ≠ 8 then .stop false { st with sock := sock }
  else
    let h := headerFields hBuf
    match recordBody useSplice keepAlive h { st with sock := sock } with
    | .next st => if h.paddingLength = 0 then .next st else skip h.paddingLength st
    | other => other

/-- The loop, for at most `fuel` passes, with the value the function returns. -/
def spliceLoop (useSplice keepAlive : Bool) : Nat → SpliceState → Option (Int × SpliceState)
  | 0, _ => none
  | fuel + 1, st =>
      match readRecord useSplice keepAlive st with
      | .next st => spliceLoop useSplice keepAlive fuel st
      | .stop ok st => some (if ok then 0 else -2, st)
      | .hang => none

/-- `fcgi_io_splice_response`. Every pass reads a record header, so the bytes of the socket are
passes enough. -/
def fcgiIoSpliceResponse (useSplice keepAlive : Bool) (sock : BackendSock) :
    Option (Int × SpliceState) :=
  spliceLoop useSplice keepAlive (sock.stream.length + 1) ⟨[], false, [], sock⟩

end Halmos.Fcgi
