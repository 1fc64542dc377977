import Halmos.Fcgi.Record
import Halmos.Http2.Response

set_option autoImplicit false

/-! # `fcgi_session_http2_step`

The state machine that takes a request of an HTTP/2 stream to a FastCGI backend and the answer
back (`halmos_fcgi_session.c`): the request is sent in states 0 to 2, the answer is received in
state 3. What the operating system answers is an input of the step, and so are the bytes that
`fcgi_proto_build_params` makes.
-/

namespace Halmos.Fcgi

open Http2

/-- `FCGISessionStatus`. -/
inductive Status where
  | continue
  | completed
  | error
  deriving DecidableEq, Repr

/-- What `send` returns. -/
inductive SendResult where
  | sent (n : Nat)
  | wouldBlock
  | failed
  deriving DecidableEq, Repr

/-- The bytes of `data` that go out. -/
def SendResult.taken (r : SendResult) (data : List UInt8) : List UInt8 :=
  match r with
  | .sent n => data.take n
  | .wouldBlock => []
  | .failed => []

/-- What `recv` returns: some bytes, or the reason why there are none. -/
inductive RecvResult where
  | data (bytes : List UInt8)
  | wouldBlock
  | failed
  | eof
  deriving DecidableEq, Repr

/-- What the client is sent on the stream: a call of `http2_response_send_complex_header`, or a
frame. -/
inductive Sent where
  | headers (rawHeaders : List UInt8) (flags : UInt8)
  | frame (c : FrameCall)
  deriving DecidableEq, Repr

/-- The FastCGI side of `HTTP2Stream`, with the fields of its request that the step reads.
`gatherBuf` is what state 0 has put into `fcgi_gather_buf`; `fcgi_header_buffer` is the same
memory, and `headerText` is what state 3 has written over it. -/
structure FcgiStream where
  streamId : Nat
  state : HTTP2StreamState
  contentLength : Int
  bodyData : Option (List UInt8)
  isFcgiActive : Bool
  fcgiState : Nat
  gatherBuf : List UInt8
  gSent : Nat
  stdinSent : Nat
  headerText : List UInt8
  headerSent : Bool

/-- The input of a step: `revents`, the parameters, and the answers to its system calls. -/
structure StepInput where
  pollOut : Bool
  pollIn : Bool
  params : List UInt8
  send : SendResult
  sendBody : SendResult
  sendEof : SendResult
  recv : RecvResult

/-- The result of a step: its value, what the client and the backend are sent, and the stream. -/
structure StepResult where
  status : Status
  sent : List Sent
  toBackend : List UInt8
  stream : FcgiStream

/-- The BEGIN_REQUEST record at the head of `fcgi_gather_buf`. -/
def beginRequest (requestId : Nat) : List UInt8 :=
  [1, 1, byteAt requestId 8, byteAt requestId 0, 0, 8, 0, 0, 0, 1, 1, 0, 0, 0, 0, 0]

/-- An empty STDIN record. -/
def stdinEof (requestId : Nat) : List UInt8 :=
  [1, 5, byteAt requestId 8, byteAt requestId 0, 0, 0, 0, 0]

/-! ## Sending the request -/

/-- `case 0`. -/
def initStep (params : List UInt8) (s : FcgiStream) : FcgiStream :=
  { s with gatherBuf := beginRequest s.streamId ++ params, gSent := 0, fcgiState := 1 }

/-- `case 1`. -/
def paramsStep (i : StepInput) (s : FcgiStream) : StepResult :=
  if i.pollOut then
    let out := i.send.taken (s.gatherBuf.drop s.gSent)
    match i.send with
    | .sent _ =>
        let gSent := s.gSent + out.length
        -- a send of 0 bytes does not end the state
        let done := 0 < out.length ∧ s.gatherBuf.length ≤ gSent
        let next := if 0 < s.contentLength ∧ s.bodyData.isSome then 2 else 3
        ⟨.continue, [], out, { s with gSent := gSent, fcgiState := if done then next else 1 }⟩
    | .wouldBlock => ⟨.continue, [], [], s⟩
    | .failed => ⟨.error, [], [], { s with fcgiState := 5 }⟩
  else ⟨.continue, [], [], s⟩

/-- The end of `case 2`: an empty STDIN record when the whole body is out. -/
def stdinEnd (i : StepInput) (out : List UInt8) (s : FcgiStream) : StepResult :=
  if s.contentLength.toNat ≤ s.stdinSent then
    ⟨.continue, [], out ++ i.sendEof.taken (stdinEof s.streamId), { s with fcgiState := 3 }⟩
  else ⟨.continue, [], out, s⟩

/-- `case 2`. The piece of the body counts as sent when both `send` calls took something; `errno`
is that of the last call that failed. -/
def stdinStep (i : StepInput) (s : FcgiStream) : StepResult :=
  if i.pollOut then
    if s.stdinSent < s.contentLength.toNat then
      let chunkSize := min (s.contentLength.toNat - s.stdinSent) 8192
      let header := [1, 5, byteAt s.streamId 8, byteAt s.streamId 0,
        byteAt chunkSize 8, byteAt chunkSize 0, 0, 0]
      -- `send` is given `chunkSize` bytes of memory, whatever the body holds
      let piece := ((s.bodyData.getD []).drop s.stdinSent).take chunkSize
      let out := i.send.taken header ++ i.sendBody.taken piece
      match i.send, i.sendBody with
      | .sent n, .sent m =>
          -- what `send` has not taken of the record is not sent again
          let sent := if 0 < n ∧ 0 < m then s.stdinSent + chunkSize else s.stdinSent
          stdinEnd i out { s with stdinSent := sent }
      | _, .failed => ⟨.error, [], out, { s with fcgiState := 5 }⟩
      | _, .wouldBlock => ⟨.continue, [], out, s⟩
      | .failed, .sent _ => ⟨.error, [], out, { s with fcgiState := 5 }⟩
      | .wouldBlock, .sent _ => ⟨.continue, [], out, s⟩
    else stdinEnd i [] s
  else ⟨.continue, [], [], s⟩

/-! ## Receiving the answer -/

/-- The loop over the records in the bytes of one `recv`. `text` is `fcgi_header_buffer` up to
`fcgi_header_bytes_read`. -/
def recordLoop (chunk text : List UInt8) : List UInt8 :=
  -- a header that is cut off by the end of the chunk is dropped
  if chunk.length < 8 then text
  else
    let h := headerFields chunk
    let rest := chunk.drop 8
    let next := rest.drop (h.contentLength + h.paddingLength)
    if h.type = fcgiStdout then
      -- a record may reach beyond the chunk; its rest is not waited for
      let bytesToCopy := min h.contentLength rest.length
      let spaceLeft := 65536 - text.length - 1
      recordLoop next (text ++ rest.take (min bytesToCopy spaceLeft))
    else if h.type = fcgiEndRequest then text
    else recordLoop next text
termination_by chunk.length
decreasing_by all_goals simp only [List.length_drop]; omega

/-- The string at `fcgi_header_buffer`: the request, until something is written over it. -/
def FcgiStream.headerBuffer (s : FcgiStream) : List UInt8 :=
  if s.headerText = [] then cstr s.gatherBuf else cstr s.headerText

/-- The end of `case 3`: when the header block is complete, the answer goes out. -/
def delimStep (s : FcgiStream) : StepResult :=
  match strstr blankLine s.headerBuffer with
  | some (rawHeaders, _) =>
      -- whatever has arrived behind the blank line is the whole body
      let body := s.headerText.drop (rawHeaders.length + 4)
      let headers := if s.headerSent then [] else [.headers rawHeaders 0x04]
      let (frames, state) := http2ResponseSendData s.streamId s.state body true
      let text := s.headerText.set rawHeaders.length 0
      ⟨.completed, headers ++ frames.map .frame, [],
        { s with headerText := text, headerSent := true, state := state, fcgiState := 4 }⟩
  | none => ⟨.continue, [], [], s⟩

/-- `case 3`. -/
def receiveStep (i : StepInput) (s : FcgiStream) : StepResult :=
  if i.pollIn then
    match i.recv with
    | .data chunk => delimStep { s with headerText := recordLoop chunk s.headerText }
    -- only a failure ends the exchange here
    | .wouldBlock => ⟨.continue, [], [], s⟩
    | .failed => ⟨.error, [], [], s⟩
    | .eof => ⟨.error, [], [], s⟩
  else ⟨.continue, [], [], s⟩

/-- `fcgi_session_http2_step`. State 0 goes on with state 1. -/
def fcgiSessionHttp2Step (s : FcgiStream) (i : StepInput) : StepResult :=
  if s.isFcgiActive = false then ⟨.error, [], [], s⟩
  else
    match s.fcgiState with
    | 0 => paramsStep i (initStep i.params s)
    | 1 => paramsStep i s
    | 2 => stdinStep i s
    | 3 => receiveStep i s
    | _ => ⟨.continue, [], [], s⟩

end Halmos.Fcgi
