import Halmos.Basic.ChainTable
import Halmos.Basic.Runs
import Halmos.Fcgi.StreamEnd
import Halmos.Http2.HpackMemory

set_option autoImplicit false

/-! # The server behind a session

The handlers of DATA and HEADERS frames (`halmos_http2_parser.c`), the router
(`halmos_http2_router.c`) and the pump of active streams (`halmos_http2_response.c`), and with them
the runs of a session: frames from the client and passes of the pump in any order. What the
operating system, the rate limiter, the route tables and the backends answer is part of the input.

A run keeps a trace: the frames received, the calls of the router and the calls of
`http2_frame_send`. The handlers send no frame for a WebSocket message: `ws_registry_add_h2` is
never called, so no client in the registry is an HTTP/2 stream.
-/

namespace Halmos.Http2

open Fcgi

/-! ## The state -/

/-- The fields of `HTTP2Stream` behind those of the session: the request with its body, the file
and the FastCGI exchange. `body_length` is the length of `body_data`. -/
structure StreamRest where
  req : RequestHeader
  bodyData : Option (List UInt8)
  fileOffset : Nat
  fileSize : Nat
  fcgiState : Nat
  gatherBuf : List UInt8
  gSent : Nat
  stdinSent : Nat
  headerText : List UInt8
  headerSent : Bool

/-- The HPACK table of a session, and the further fields of its streams. -/
structure ServerRest where
  table : HPACKDynamicTable
  streams : Nat → StreamRest

abbrev Server := ProtocolState ServerRest

/-- What the router finds for a request: a backend with or without a socket for it, or what
`stat` and `open` say about the file. -/
inductive Route where
  | badGateway
  | fcgi
  | notFound
  | forbidden
  | file (fd size : Nat)
  deriving DecidableEq, Repr

/-- The answers of the environment: the peer's address, the configuration, allocations, the length
of a rewritten URI, the rate limiter, the router, and for each stream what `pread` reads and what
happens on the backend's socket. -/
structure Environment where
  peerIp : List UInt8
  isTls : Bool
  trustProxy : Bool
  callocOk : Bool
  reallocOk : Bool
  mallocOk : Bool
  uriTooLong : Bool
  allowed : Bool
  mime : List UInt8
  route : Route
  pread : Nat → List UInt8
  fcgi : Nat → Option StepInput

/-- An environment in which everything succeeds and the file asked for is not there. -/
def Environment.plain : Environment where
  peerIp := []
  isTls := false
  trustProxy := false
  callocOk := true
  reallocOk := true
  mallocOk := true
  uriTooLong := false
  allowed := true
  mime := []
  route := .notFound
  pread _ := []
  fcgi _ := none

/-- A call of `http2_router_bridge`, with the body of the request and its `content_length`, or a
call of `http2_frame_send`. -/
inductive Event where
  | router (streamId : Nat) (body : List UInt8) (contentLength : Int32)
  | sent (c : FrameCall)
  deriving DecidableEq, Repr

def Event.emissions : Event → List Emission
  | .router _ _ _ => []
  | .sent c => c.emissions

def StreamRest.new (env : Environment) : StreamRest where
  req := ⟨env.peerIp, [], none, none, none, none, 0, env.isTls, false⟩
  bodyData := none
  fileOffset := 0
  fileSize := 0
  fcgiState := 0
  gatherBuf := []
  gSent := 0
  stdinSent := 0
  headerText := []
  headerSent := false

/-! ## Streams -/

/-- The stream of the hash table with the id. -/
def lookupStream (s : Server) (id : Nat) : Option HTTP2Stream :=
  ChainTable.lookup HTTP2Stream.streamId http2StreamGetBucketFibonacci id s.streamsHash

/-- `http2_stream_find`. -/
def http2StreamFind (s : Server) (id : Nat) : Option HTTP2Stream :=
  if id = 0 then none else lookupStream s id

/-- A write to fields of a stream. -/
def setStream (s : Server) (id : Nat) (f : HTTP2Stream → HTTP2Stream) : Server :=
  { s with
    streamsHash := s.streamsHash.modify (http2StreamGetBucketFibonacci id) (updateFirst id f) }

/-- A new stream at the head of its chain. -/
def pushStream (s : Server) (st : HTTP2Stream) : Server :=
  { s with
    streamsHash := s.streamsHash.modify (http2StreamGetBucketFibonacci st.streamId)
      (fun chain => st :: chain) }

def setRest (s : Server) (id : Nat) (f : StreamRest → StreamRest) : Server :=
  { s with
    rest := { s.rest with
      streams := Function.update s.rest.streams id (f (s.rest.streams id)) } }

/-- `http2_stream_get_or_create`. -/
def http2StreamGetOrCreate (env : Environment) (s : Server) (id : Nat) : Option Server :=
  match lookupStream s id with
  | some _ => some s
  | none =>
      if env.callocOk then
        let st : HTTP2Stream := ⟨id, s.peerInitialWindowSize.toInt32, .idle, -1, false, false⟩
        some (setRest (pushStream s st) id (fun _ => .new env))
      else none

/-! ## The router -/

/-- The two calls that send an error page, and the state behind them. `is_end` is true, so the
state the stream had does not matter. -/
def sendErrorPage (env : Environment) (s : Server) (id status : Nat) (text : String) :
    Server × List Event :=
  let (frames, state) := http2ResponseSendData id .idle (ascii text) true
  (setStream s id (fun st => { st with state := state }),
    .sent (http2ResponseSendHeader id status env.mime) :: frames.map .sent)

/-- `route_fastcgi_backend` with a socket. -/
def startFcgi (s : Server) (id : Nat) : Server :=
  setRest (setStream s id (fun st => { st with isFcgiActive := true })) id
    (fun r => { r with
      fcgiState := 0
      gatherBuf := []
      stdinSent := 0
      headerText := []
      headerSent := false })

/-- The last part of `route_static_file`, when the file is open. -/
def startFile (env : Environment) (s : Server) (id fd size : Nat) : Server × List Event :=
  let header := Event.sent (http2ResponseSendHeader id 200 env.mime)
  if size = 0 then
    let (frames, state) := http2ResponseSendData id .idle [] true
    (setStream s id (fun st => { st with state := state }), header :: frames.map .sent)
  else
    (setRest (setStream s id (fun st => { st with fileFd := fd, isSendingFile := true })) id
      (fun r => { r with fileSize := size, fileOffset := 0 }), [header])

/-- `http2_router_bridge`: WebSocket, FastCGI or a file. -/
def http2RouterBridge (env : Environment) (s : Server) (id : Nat) : Server × List Event :=
  let r := s.rest.streams id
  let call := Event.router id (r.bodyData.getD []) r.req.contentLength
  if r.req.isUpgrade then (s, [call, .sent ⟨0x01, 0x04, id, [0x88]⟩])
  else
    let answer :=
      match env.route with
      | .badGateway => sendErrorPage env s id 502 "Bad Gateway"
      | .fcgi => (startFcgi s id, [])
      | .notFound => sendErrorPage env s id 404 "Not Found"
      | .forbidden => sendErrorPage env s id 403 "Forbidden"
      | .file fd size => startFile env s id fd size
    (answer.1, call :: answer.2)

/-! ## HEADERS -/

/-- The header block of a HEADERS payload, behind `strip_headers_padding`. -/
def headersBlock (flags : UInt8) (payload : List UInt8) : List UInt8 :=
  match Memory.stripHeadersPadding flags payload with
  | some (pos, len) => (payload.drop pos).take len
  | none => []

/-- `parse_header`: its value, and what it leaves behind. The routing at its end rewrites the URI,
and fails if that does not fit its buffer. -/
def parseHeaderFull (env : Environment) (s : Server) (id : Nat) (block : List UInt8) :
    Bool × Server :=
  if block = [] then (false, s)
  else
    let pass := parseHeader env.trustProxy s.rest.table (s.rest.streams id).req block
    let valid := pass.status = 0 ∧ pass.req.method ≠ [] ∧ pass.req.uri.isSome ∧ env.uriTooLong = false
    (valid, setRest { s with rest := { s.rest with table := pass.table } } id
      (fun r => { r with req := pass.req }))

/-- `http2_parser_handle_headers`. -/
def http2ParserHandleHeaders (env : Environment) (s : Server) (head : HTTP2FrameHeader)
    (payload : Option (List UInt8)) : Server × List Event :=
  let id := head.streamId
  if id = 0 then (s, [])
  else
    match http2StreamGetOrCreate env s id with
    | none => (s, [])
    | some s =>
        let (valid, s) := parseHeaderFull env s id (headersBlock head.flags (payload.getD []))
        if valid then
          if env.allowed then
            if (s.rest.streams id).req.isUpgrade then http2RouterBridge env s id
            else if head.flags &&& 0x01 ≠ 0 then
              http2RouterBridge env (setStream s id (fun st => { st with state := .reservedRemote })) id
            else (s, [])
          else (s, [.sent ⟨0x03, 0x00, id, [0x00, 0x00, 0x00, 0x07]⟩])
        else (s, [])

/-! ## DATA -/

/-- `http2_frame_send_window_update`. -/
def http2FrameSendWindowUpdate (id increment : Nat) : FrameCall :=
  ⟨0x08, 0x00, id, [byteAt increment 24 &&& 0x7F, byteAt increment 16, byteAt increment 8,
    byteAt increment 0]⟩

/-- The number in the bytes, highest first. -/
def bigEndian (bytes : List UInt8) : Nat := bytes.foldl (fun n b => n * 256 + b.toNat) 0

/-- The checks of `handle_websocket_data_payload` in front of `malloc`: the WebSocket frame fits
the payload. The sum is one of `size_t`. -/
def websocketFits (payload : List UInt8) : Bool :=
  let length := payload.length
  if length < 2 then false
  else
    let b := (payload.getD 1 0).toNat
    let short := b &&& 0x7F
    let (payloadLen, headerOffset) :=
      if short = 126 then (bigEndian ((payload.drop 2).take 2), 4)
      else if short = 127 then (bigEndian ((payload.drop 2).take 8), 10)
      else (short, 2)
    if length < headerOffset then false
    else
      let masked := b &&& 0x80 ≠ 0
      let headerOffset := if masked then headerOffset + 4 else headerOffset
      if length < headerOffset then false
      else !((headerOffset + payloadLen) % 2 ^ 64 > length ∨ payloadLen = 2 ^ 64 - 1)

/-- The two credits for a DATA frame. -/
def windowUpdates (id length : Nat) : List Event :=
  [.sent (http2FrameSendWindowUpdate id length), .sent (http2FrameSendWindowUpdate 0 length)]

/-- `handle_websocket_data_payload`. -/
def handleWebsocketDataPayload (env : Environment) (id : Nat) (payload : List UInt8) :
    List Event :=
  if websocketFits payload = false then []
  else if env.mallocOk = false then []
  else windowUpdates id payload.length

/-- `append_stream_body`, when `realloc` succeeds. -/
def appendStreamBody (s : Server) (id : Nat) (payload : List UInt8) : Server :=
  setRest s id (fun r => { r with bodyData := some (r.bodyData.getD [] ++ payload) })

/-- `handle_stream_end`. -/
def handleStreamEnd (env : Environment) (s : Server) (id : Nat) : Server × List Event :=
  let s := setRest s id (fun r => { r with
    req := { r.req with contentLength := Int32.ofNat (r.bodyData.getD []).length } })
  let r := http2RouterBridge env s id
  (setStream r.1 id (fun st => { st with state := .halfClosedLocal }), r.2)

/-- `http2_parser_handle_data`. -/
def http2ParserHandleData (env : Environment) (s : Server) (head : HTTP2FrameHeader)
    (payload : Option (List UInt8)) : Server × List Event :=
  let id := head.streamId
  match http2StreamFind s id, payload with
  | none, _ => (s, [])
  | some _, none => (s, [])
  | some _, some payload =>
      if head.length = 0 then (s, [])
      else if (s.rest.streams id).req.isUpgrade then (s, handleWebsocketDataPayload env id payload)
      else if env.reallocOk = false then (s, [])
      else
        let s := appendStreamBody s id payload
        if head.flags &&& 0x01 ≠ 0 then
          let r := handleStreamEnd env s id
          (r.1, windowUpdates id head.length ++ r.2)
        else (s, windowUpdates id head.length)

/-! ## The pump -/

/-- The stream as `fcgi_session_http2_step` sees it. -/
def fcgiView (st : HTTP2Stream) (r : StreamRest) : FcgiStream :=
  ⟨st.streamId, st.state, r.req.contentLength.toInt, r.bodyData, st.isFcgiActive, r.fcgiState,
    r.gatherBuf, r.gSent, r.stdinSent, r.headerText, r.headerSent⟩

/-- The FastCGI half of a visit by `http2_response_flush_active_streams`. -/
def flushFcgiStream (env : Environment) (s : Server) (id : Nat) : Server × List Event :=
  match http2StreamFind s id, env.fcgi id with
  | some st, some i =>
      let r := flushFcgi (fcgiView st (s.rest.streams id)) i
      (setRest
        (setStream s id (fun st => { st with
          state := r.2.state
          isFcgiActive := r.2.isFcgiActive }))
        id (fun rest => { rest with
          fcgiState := r.2.fcgiState
          gatherBuf := r.2.gatherBuf
          gSent := r.2.gSent
          stdinSent := r.2.stdinSent
          headerText := r.2.headerText
          headerSent := r.2.headerSent }),
        r.1.map (fun sent => .sent (sent.frameCall id)))
  | _, _ => (s, [])

/-- A file is closed, and its stream with it. -/
def closeFile (s : Server) (id : Nat) : Server :=
  setStream s id (fun st => { st with
    fileFd := -1
    isSendingFile := false
    state := .closed })

/-- `max_allowed`: the least of the frame size, both windows and what is left of the file. -/
def maxAllowed (connWin streamWin : Int32) (remaining : Nat) : Nat :=
  min (min (min 16384 connWin.toInt.toNat) streamWin.toInt.toNat) remaining

/-- The file half of a visit. `pread` returns at most what it is asked for. -/
def flushFileStream (env : Environment) (s : Server) (id : Nat) : Server × List Event :=
  match http2StreamFind s id with
  | none => (s, [])
  | some st =>
      let r := s.rest.streams id
      if st.hasFile = false ∨ r.fileSize ≤ r.fileOffset then (s, [])
      else if s.outWindowSize ≤ 0 ∨ st.outWindowSize ≤ 0 then (s, [])
      else
        let data := (env.pread id).take
          (maxAllowed s.outWindowSize st.outWindowSize (r.fileSize - r.fileOffset))
        if data = [] then (closeFile s id, [])
        else
          let n := data.length
          let last := r.fileSize ≤ r.fileOffset + n
          let s := setRest
            (setStream { s with outWindowSize := s.outWindowSize - Int32.ofNat n } id
              (fun st => { st with outWindowSize := st.outWindowSize - Int32.ofNat n }))
            id (fun r => { r with fileOffset := r.fileOffset + n })
          (if last then closeFile s id else s,
            [.sent ⟨0x00, if last then 0x01 else 0x00, id, data⟩])

/-- A visit to an active stream. -/
def flushStream (env : Environment) (s : Server) (id : Nat) :
    Activity → Server × List Event
  | .fcgi => flushFcgiStream env s id
  | .file => flushFileStream env s id

/-! ## Runs -/

/-- The handlers of this server. -/
def serverHandlers (env : Environment) : StreamHandlers ServerRest where
  handleData s head payload :=
    let r := http2ParserHandleData env s head payload
    (r.1, r.2.flatMap Event.emissions)
  handleHeaders s head payload :=
    let r := http2ParserHandleHeaders env s head payload
    (r.1, r.2.flatMap Event.emissions)
  flushStream s id activity :=
    let r := flushStream env s id activity
    (r.1, r.2.flatMap Event.emissions)

/-- A frame as the read side hands it over. -/
structure Frame where
  type : UInt8
  flags : UInt8
  streamId : Nat
  payload : List UInt8
  length_lt : payload.length < 2 ^ 24
  streamId_lt : streamId < 2 ^ 31
  deriving DecidableEq

theorem Frame.streamId_one : 1 < 2 ^ 31 := by decide

/-- `:method: GET` and `:path: /`, as indices of the static table. -/
theorem Frame.length_getRoot : ([0x82, 0x84] : List UInt8).length < 2 ^ 24 := by decide

/-- `:method: POST` and `:path: /`. -/
theorem Frame.length_postRoot : ([0x83, 0x84] : List UInt8).length < 2 ^ 24 := by decide

def Frame.head (f : Frame) : HTTP2FrameHeader := ⟨f.payload.length, f.type, f.flags, f.streamId⟩

/-- `payload_buf`, null when there is no payload. -/
def Frame.payloadBuf (f : Frame) : Option (List UInt8) :=
  if f.payload = [] then none else some f.payload

/-- The events of `dispatch_frame`. -/
def dispatchEvents (env : Environment) (s : Server) (f : Frame) : List Event :=
  if f.type = 0x00 then (http2ParserHandleData env s f.head f.payloadBuf).2
  else if f.type = 0x01 then (http2ParserHandleHeaders env s f.head f.payloadBuf).2
  else if f.type = 0x06 ∧ f.flags &&& 0x01 = 0 then [.sent ⟨0x06, 0x01, 0, f.payload⟩]
  else []

/-- The trace of a run. -/
inductive Traced where
  | received (f : Frame)
  | did (e : Event)
  deriving DecidableEq

/-- A session in the middle of a run. -/
structure Run where
  server : Server
  trace : List Traced

/-- The events of a step, at the end of the trace. -/
def Run.extend (r : Run) (o : Server × List Event) : Run := ⟨o.1, r.trace ++ o.2.map .did⟩

/-- A visit to one active stream. -/
def Run.visit (env : Environment) (r : Run) (target : Nat × Activity) : Run :=
  r.extend (flushStream env r.server target.1 target.2)

/-- A frame from the client, or a pass of the pump. -/
inductive Run.Input where
  | frame (f : Frame) (env : Environment)
  | flush (env : Environment)

/-- One step of a session: `dispatch_frame`, or `http2_response_flush_active_streams`. -/
def Run.step (r : Run) : Run.Input → Run
  | .frame f env =>
      let s := (dispatchFrame (serverHandlers env) r.server f.head f.payloadBuf).2.1
      Run.extend ⟨r.server, r.trace ++ [.received f]⟩ (s, dispatchEvents env r.server f)
  | .flush env => runSteps (Run.visit env) r (activeStreams r.server)

/-- A new session. -/
def Run.fresh (streams : Nat → StreamRest) : Run := ⟨.fresh ⟨.empty, streams⟩, []⟩

end Halmos.Http2
