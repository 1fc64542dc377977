import Halmos.Http.StaticFile
import Halmos.Http1.Multipart

set_option autoImplicit false

/-! # Sessions over HTTP/1.1

`http1_manager_session` of `halmos_http1_manager.c`: the states in which a request is read, handled
and answered. The environment is a script of what `recv` returns, the addresses `realloc` returns
and what becomes of sending a response. Memory is taken to be there. A read puts no more into the
buffer than it asked for; `none` is a read that would, or an access to memory that is not the
program's.
-/

namespace Halmos.Http1

open Http (FileSystem)

/-- What `recv` or `SSL_read` returns. -/
inductive RecvResult where
  | data (bs : List UInt8)
  | wouldBlock
  | closed
  | failed
  deriving DecidableEq, Repr

/-- What `http1_response_plain` or `http1_response_ssl` returns: `1`, `3` or `2`, or nothing
positive. -/
inductive SendResult where
  | done
  | wantWrite
  | wantRead
  | failed
  deriving DecidableEq, Repr

/-- `HTTP1State`. -/
inductive HTTP1State where
  | readHeaders
  | readBody
  | handleRequest
  | sendStaticFile
  | fcgiProcessing
  | done
  deriving DecidableEq, Repr

/-- `HTTP1Session`. `buffer` is the bytes in front of the NUL at `buf_len`, and `file` the file
`file_fd` has been opened on. -/
structure HTTP1Session where
  buffer : List UInt8
  bufCapacity : Nat
  req : RequestHeader
  state : HTTP1State
  file : Option PosixPath.Path
  deriving DecidableEq

/-- What the server has besides its sessions: the configuration, the files, whether a session with
a backend can be made for a request, and how far a block moves when `realloc` makes it as long as
the argument. -/
structure Server where
  config : Config
  fs : FileSystem
  fcgiSessionCreates : RequestHeader → Bool
  moved : Nat → Int

/-- A new session, with the buffer `request_buffer_size` asks for. -/
def HTTP1Session.new (config : Config) : HTTP1Session where
  buffer := []
  bufCapacity := if 0 < config.requestBufferSize then config.requestBufferSize.toNat else 8192
  req := .zero
  state := .readHeaders
  file := none

/-! ## The buffer -/

/-- A pointer that `update_header_pointers` adds `diff` to. The buffer has moved by as much, the
request has not. -/
def Ptr.add (diff : Int) : Ptr → Ptr
  | .buffer off => .buffer off
  | .route off => .route (off + diff)
  | .freed => .freed

/-- A pointer that is left as it is when the buffer moves. -/
def Ptr.leave : Ptr → Ptr
  | .buffer _ => .freed
  | .route off => .route off
  | .freed => .freed

/-- `update_header_pointers(req, diff)`, when the buffer has moved by `diff`. -/
def updateHeaderPointers (req : RequestHeader) (diff : Int) : RequestHeader :=
  { req with
    uri := req.uri.map (Ptr.add diff)
    directory := req.directory.map (Ptr.add diff)
    queryString := req.queryString.map (Ptr.add diff)
    host := req.host.map (Ptr.add diff)
    contentType := req.contentType.map (Ptr.add diff)
    cookieData := req.cookieData.map (Ptr.add diff)
    bodyData := req.bodyData.map (Ptr.add diff)
    pathInfo := req.pathInfo.map (Ptr.add diff)
    wsKey := req.wsKey.map Ptr.leave
    parts := req.parts.map fun part => { part with data := part.data.leave } }

namespace HTTP1Session

/-- `if (session->buf_len >= session->buf_capacity - 1)`: the buffer is doubled. -/
def grow (moved : Nat → Int) (s : HTTP1Session) : HTTP1Session :=
  if s.bufCapacity - 1 ≤ s.buffer.length then
    let newCap := s.bufCapacity * 2
    { s with
      bufCapacity := newCap
      req := if moved newCap ≠ 0 then updateHeaderPointers s.req (moved newCap) else s.req }
  else s

/-- A read, behind what is in the buffer and in front of the last byte of it. -/
def recvData (s : HTTP1Session) (bs : List UInt8) : Option HTTP1Session :=
  if bs = [] ∨ s.bufCapacity - s.buffer.length - 1 < bs.length then none
  else some { s with buffer := s.buffer ++ bs }

/-- `strstr(session->buffer, "\r\n\r\n") != NULL`. -/
def headerComplete (s : HTTP1Session) : Bool := (strstr blankLine (cstr s.buffer)).isSome

/-- `keep_alive`: the session is made ready for the next request. -/
def reset (s : HTTP1Session) : HTTP1Session :=
  { s with buffer := [], req := .zero, state := .readHeaders, file := none }

end HTTP1Session

/-- How the reading of a call ends: there is something to go on with, or the call returns. -/
inductive ReadEnd where
  | complete
  | returns (ret : Int)
  deriving DecidableEq, Repr

/-- `BACA HEADER`, the loop: when the script is used up, a read would block. -/
def readHeaders (moved : Nat → Int) :
    List RecvResult → HTTP1Session → Option (ReadEnd × HTTP1Session × List RecvResult)
  | [], s => some (.returns 2, s.grow moved, [])
  | .data bs :: script, s => do
      let s ← (s.grow moved).recvData bs
      if s.headerComplete then some (.complete, s, script) else readHeaders moved script s
  | .wouldBlock :: script, s => some (.returns 2, s.grow moved, script)
  | .closed :: script, s => some (.returns 0, s.grow moved, script)
  | .failed :: script, s => some (.returns (-1), s.grow moved, script)

/-- `BACA BODY REQUEST`, with the header block `headerLen` bytes long. -/
def readBody (moved : Nat → Int) (headerLen : Nat) :
    List RecvResult → HTTP1Session → Option (ReadEnd × HTTP1Session × List RecvResult)
  | script, s =>
      let s := { s with req.bodyLength := s.buffer.length - headerLen }
      if s.req.contentLength ≤ s.req.bodyLength then
        some (.complete, { s with state := .handleRequest }, script)
      else
        match script with
        | [] => some (.returns 2, s.grow moved, [])
        | .data bs :: script => do
            let s ← (s.grow moved).recvData bs
            readBody moved headerLen script s
        | .wouldBlock :: script => some (.returns 2, s.grow moved, script)
        | .closed :: script => some (.returns 0, s.grow moved, script)
        | .failed :: script => some (.returns (-1), s.grow moved, script)

/-- The states in which a request is read, of one call: it ends with the state `HANDLE_REQUEST`, or
returns. -/
def readRequest (server : Server) (s : HTTP1Session) (script : List RecvResult) :
    Option (ReadEnd × HTTP1Session × List RecvResult) := do
  let (e, s, script) ←
    if s.state = .readHeaders then readHeaders server.moved script s
    else some (.complete, s, script)
  match e with
  | .returns ret => some (.returns ret, s, script)
  | .complete => do
      let (ok, s) ←
        if s.state = .readHeaders then do
          let (valid, req, buffer) ← http1ParserParseHeader server.config s.buffer s.req
          some (valid, { s with
            req := req
            buffer := buffer
            state := if 0 < req.contentLength then .readBody else .handleRequest })
        else some (true, s)
      -- the response is `400 Bad Request`
      if ok = false then some (.returns 0, s, script)
      else if s.state = .readBody then
        match s.req.bodyData with
        | some (.buffer headerLen) => readBody server.moved headerLen script s
        | _ => none
      else some (.complete, s, script)

/-! ## Handling and answering -/

/-- `path_info - uri`, when `path_info` is in or behind the URI. -/
def pathOffset (uri pathInfo : Option Ptr) : Option Nat :=
  match uri, pathInfo with
  | some (.buffer a), some (.buffer b) => if a ≤ b then some (b - a) else none
  | some (.route a), some (.route b) => if a ≤ b then some (b - a).toNat else none
  | _, _ => none

/-- `has_extension(uri, path_info, ext)`; `temp_path` has 1024 bytes. -/
def hasExtension (uri : List UInt8) (pathOff : Option Nat) (ext : List UInt8) : Bool :=
  let len := min (pathOff.getD uri.length) 1023
  let tempPath := (uri ++ List.replicate 1023 0).take len
  ext ≠ [] && ext.length ≤ len && strcasecmpEq (cstr (tempPath.drop (len - ext.length))) ext

/-- `http1_manager_routing_bridge(conn, session)`: what it returns, and the session behind it. -/
def http1ManagerRoutingBridge (server : Server) (s : HTTP1Session) :
    Option (Int × HTTP1Session) := do
  let uri ← (← s.req.uri).str s.buffer s.req.routeResult
  if s.req.isUpgrade ∧ uri = ascii "/ws" then some (1, { s with state := .done })
  else
    let pathOff := pathOffset s.req.uri s.req.pathInfo
    if hasExtension uri pathOff (ascii ".php") ∨ hasExtension uri pathOff server.config.rustExt ∨
        hasExtension uri pathOff server.config.pythonExt then
      if server.fcgiSessionCreates s.req then some (3, { s with state := .fcgiProcessing })
      else some (0, s)
    else
      let vhRoot := s.req.vhostContext.map VHostEntry.root
      match Http.http1ManagerRoutingBridge server.fs vhRoot server.config.documentRoot uri with
      | none => some (0, s)
      | some path => some (3, { s with state := .sendStaticFile, file := some path })

/-- One call: what it returns, the session and the script behind it, and the request it has
handled. -/
structure SessionCall where
  ret : Int
  session : HTTP1Session
  script : List RecvResult
  handled : Option RequestHeader

/-- `http1_manager_session(conn)` on a session, with what becomes of sending a response. A backend
ends a request in any case: of its answer it only matters here that the session goes on behind
it. -/
def http1ManagerSession (server : Server) (sent : SendResult) (s : HTTP1Session)
    (script : List RecvResult) : Option SessionCall :=
  let again : Int := if s.req.isKeepAlive then 2 else 0
  match s.state with
  | .readHeaders | .readBody | .handleRequest => do
      let (e, s, script) ← readRequest server s script
      match e with
      | .returns ret => some ⟨ret, s, script, none⟩
      | .complete => do
          let (ret, next) ← http1ManagerRoutingBridge server s
          some ⟨ret, next, script, some s.req⟩
  | .fcgiProcessing => some ⟨again, s.reset, script, none⟩
  | .sendStaticFile =>
      match sent with
      | .done => some ⟨again, s.reset, script, none⟩
      | .wantWrite => some ⟨3, s, script, none⟩
      | .wantRead => some ⟨2, s, script, none⟩
      | .failed => some ⟨0, s, script, none⟩
  | .done => some ⟨2, s, script, none⟩

/-- At most `n` calls on a connection whose client accepts every write, as long as the session is
to be called again: the requests handled. -/
def serve (server : Server) : Nat → HTTP1Session → List RecvResult → Option (List RequestHeader)
  | 0, _, _ => some []
  | n + 1, s, script => do
      let call ← http1ManagerSession server .done s script
      if call.ret = 2 ∨ call.ret = 3 then do
        let more ← serve server n call.session call.script
        some (call.handled.toList ++ more)
      else some call.handled.toList

end Halmos.Http1
