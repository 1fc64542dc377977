import Mathlib.Data.List.DropRight
import Halmos.Basic.Buffer
import Halmos.Http1.Routes

set_option autoImplicit false

/-! # The parser of HTTP/1.1 requests

`http1_parser_parse_header` of `halmos_http1_parser.c`. The parser works in place: it puts NULs
into the header block and lets the fields of the request point into it, or into the array
`route_result` of the request where the URI is rewritten. A pointer is an object and an offset.
Every search of the parser ends in the line it looks at, so the parser is given the header block,
through the blank line, and changes nothing behind it. The address of the client is left out.
-/

namespace Halmos.Http1

/-- A pointer of a request: into the buffer of the session, into `route_result`, or into memory
that has been given back. -/
inductive Ptr where
  | buffer (off : Nat)
  | route (off : Int)
  | freed
  deriving DecidableEq, Repr

/-- `MultipartPart`; the names are copies. -/
structure MultipartPart where
  name : Option (List UInt8)
  filename : Option (List UInt8)
  data : Ptr
  dataLen : Nat
  deriving DecidableEq, Repr

/-- `RequestHeader`. The arrays `method` and `http_version` are given by the strings in them, and
`parts_count` is the number of parts. -/
structure RequestHeader where
  method : List UInt8
  httpVersion : List UInt8
  uri : Option Ptr
  host : Option Ptr
  directory : Option Ptr
  queryString : Option Ptr
  pathInfo : Option Ptr
  contentType : Option Ptr
  cookieData : Option Ptr
  vhostContext : Option VHostEntry
  backendType : FcgiBackend
  routeResult : Buffer 512
  bodyData : Option Ptr
  bodyLength : Nat
  contentLength : Int
  isKeepAlive : Bool
  isUpgrade : Bool
  isValid : Bool
  wsKey : Option Ptr
  parts : List MultipartPart
  deriving DecidableEq

/-- The request of a session made with `calloc`, and behind `memset(&session->req, 0, ..)`. -/
def RequestHeader.zero : RequestHeader where
  method := []
  httpVersion := []
  uri := none
  host := none
  directory := none
  queryString := none
  pathInfo := none
  contentType := none
  cookieData := none
  vhostContext := none
  backendType := .php
  routeResult := .zeros 512
  bodyData := none
  bodyLength := 0
  contentLength := 0
  isKeepAlive := false
  isUpgrade := false
  isValid := false
  wsKey := none
  parts := []

/-- The string at an offset of a buffer with a NUL behind it. -/
def strAt (buffer : List UInt8) (off : Nat) : List UInt8 := cstr (buffer.drop off)

/-- The string a pointer of a request points to; `none` if it points to none. -/
def Ptr.str (buffer : List UInt8) (routeResult : Buffer 512) : Ptr → Option (List UInt8)
  | .buffer off => if off ≤ buffer.length then some (strAt buffer off) else none
  | .route off =>
      if 0 ≤ off ∧ 0 ∈ routeResult.bytes.drop off.toNat then
        some (strAt routeResult.bytes off.toNat)
      else none
  | .freed => none

def crlf : List UInt8 := [0x0D, 0x0A]

/-- The blank line at the end of a header block, with the end of the line in front of it. -/
def blankLine : List UInt8 := [0x0D, 0x0A, 0x0D, 0x0A]

/-- `strrchr(s, c)`: the last position of a character. -/
def strrchr (s : List UInt8) (c : UInt8) : Option Nat :=
  (s.reverse.idxOf? c).map (fun i => s.length - 1 - i)

/-! ## The request line -/

/-- `snprintf(req->route_result, .., "/%s", def_page)` for the URI `/`. -/
def defaultPage (config : Config) (req : RequestHeader) : Option RequestHeader := do
  let defPage := if config.defaultPage = [] then ascii "index.html" else config.defaultPage
  let page := ascii "/" ++ defPage
  let routeResult ← req.routeResult.snprintf page
  let req := { req with routeResult := routeResult }
  if page.length < 512 then
    some { req with uri := some (.route 0), directory := some (.route 0) }
  else some req

/-- `Analisis titik`: where the path behind the file begins, from the last dot on. -/
def pathInfoOf (uStart : Nat) (path : List UInt8) : Option Ptr := do
  let lastDot ← strrchr path 0x2E
  let slash ← (path.drop lastDot).idxOf? 0x2F
  some (.buffer (uStart + lastDot + slash))

/-- The request line, which ends at `lineEnd`: the request and the block behind it. -/
def parseRequestLine (config : Config) (head : List UInt8) (lineEnd : Nat) (req : RequestHeader) :
    Option (RequestHeader × List UInt8) :=
  let line := head.take lineEnd
  match line.idxOf? 0x20 with
  | none => some (req, head)
  | some mEnd =>
      let req := if mEnd < 16 then { req with method := line.take mEnd } else req
      let uStart := mEnd + 1
      match (line.drop uStart).idxOf? 0x20 with
      | none => some (req, head)
      | some uLen => do
          let version := line.drop (uStart + uLen + 1)
          let req := if version.length < 16 then { req with httpVersion := version } else req
          let head := head.set (uStart + uLen) 0
          let target := strAt head uStart
          let (req, head) := match target.idxOf? 0x3F with
            | some q =>
                ({ req with queryString := some (.buffer (uStart + q + 1)) },
                  head.set (uStart + q) 0)
            | none => ({ req with queryString := none }, head)
          let path := strAt head uStart
          let req := { req with
            directory := some (.buffer uStart), uri := some (.buffer uStart), pathInfo := none }
          let req ← if path = ascii "/" then defaultPage config req else some req
          let req := match pathInfoOf uStart path with
            | some p => { req with pathInfo := some p }
            | none => req
          some ({ req with isValid := true }, head)

/-! ## The header fields -/

/-- `fast_trim(s)`: the string behind its leading blanks, with a NUL behind its last other
character. -/
def fastTrim (head : List UInt8) (s : Nat) : Nat × List UInt8 :=
  let blanks := ((strAt head s).takeWhile (fun c => c = 0x20)).length
  let text := (strAt head s).drop blanks
  if text = [] then (s + blanks, head)
  else (s + blanks, head.set (s + blanks + (text.rdropWhile (fun c => c = 0x20)).length) 0)

/-- The chain of comparisons with the names of the fields, for a value at `val`. -/
def parseField (config : Config) (key : List UInt8) (head : List UInt8) (val : Nat)
    (req : RequestHeader) : RequestHeader :=
  let value := strAt head val
  if strcasecmpEq key (ascii "Host") then
    { req with host := some (.buffer val), vhostContext := httpVhostGetContext config value }
  else if strcasecmpEq key (ascii "Content-Type") then
    { req with contentType := some (.buffer val) }
  else if strcasecmpEq key (ascii "Content-Length") then
    { req with contentLength := max (Int32.ofInt (strtol value)).toInt 0 }
  else if strcasecmpEq key (ascii "Cookie") then { req with cookieData := some (.buffer val) }
  else if strcasecmpEq key (ascii "Upgrade") then
    if (strcasestr (ascii "websocket") value).isSome then { req with isUpgrade := true } else req
  else if strcasecmpEq key (ascii "Sec-WebSocket-Key") then { req with wsKey := some (.buffer val) }
  else if strcasecmpEq key (ascii "Connection") then
    let req :=
      if (strcasestr (ascii "Upgrade") value).isSome then { req with isUpgrade := true } else req
    if (strcasestr (ascii "close") value).isSome then { req with isKeepAlive := false } else req
  else req

/-- What a field can do to the request, for a property of the request afterwards. -/
theorem parseField_induction (config : Config) (key head : List UInt8) (val : Nat)
    (req : RequestHeader) {P : RequestHeader → Prop}
    (hhost : strcasecmpEq key (ascii "Host") = true → P { req with
      host := some (.buffer val), vhostContext := httpVhostGetContext config (strAt head val) })
    (htype : strcasecmpEq key (ascii "Content-Type") = true →
      P { req with contentType := some (.buffer val) })
    (hlength : strcasecmpEq key (ascii "Content-Length") = true →
      P { req with contentLength := max (Int32.ofInt (strtol (strAt head val))).toInt 0 })
    (hcookie : strcasecmpEq key (ascii "Cookie") = true →
      P { req with cookieData := some (.buffer val) })
    (hupgrade : strcasecmpEq key (ascii "Upgrade") = true →
      ∀ isUpgrade, P { req with isUpgrade := isUpgrade })
    (hwsKey : strcasecmpEq key (ascii "Sec-WebSocket-Key") = true →
      P { req with wsKey := some (.buffer val) })
    (hconnection : strcasecmpEq key (ascii "Connection") = true → ∀ isUpgrade, P { req with
      isUpgrade := isUpgrade
      isKeepAlive := if (strcasestr (ascii "close") (strAt head val)).isSome = true then false
        else req.isKeepAlive })
    (hother : ¬ strcasecmpEq key (ascii "Host") = true →
      ¬ strcasecmpEq key (ascii "Content-Type") = true →
      ¬ strcasecmpEq key (ascii "Content-Length") = true →
      ¬ strcasecmpEq key (ascii "Cookie") = true →
      ¬ strcasecmpEq key (ascii "Connection") = true → P req) :
    P (parseField config key head val req) := by
  unfold parseField
  by_cases h1 : strcasecmpEq key (ascii "Host") = true
  · rw [if_pos h1]
    exact hhost h1
  rw [if_neg h1]
  by_cases h2 : strcasecmpEq key (ascii "Content-Type") = true
  · rw [if_pos h2]
    exact htype h2
  rw [if_neg h2]
  by_cases h3 : strcasecmpEq key (ascii "Content-Length") = true
  · rw [if_pos h3]
    exact hlength h3
  rw [if_neg h3]
  by_cases h4 : strcasecmpEq key (ascii "Cookie") = true
  · rw [if_pos h4]
    exact hcookie h4
  rw [if_neg h4]
  by_cases h5 : strcasecmpEq key (ascii "Upgrade") = true
  · rw [if_pos h5]
    split
    · exact hupgrade h5 true
    · exact hupgrade h5 req.isUpgrade
  rw [if_neg h5]
  by_cases h6 : strcasecmpEq key (ascii "Sec-WebSocket-Key") = true
  · rw [if_pos h6]
    exact hwsKey h6
  rw [if_neg h6]
  by_cases h7 : strcasecmpEq key (ascii "Connection") = true
  · rw [if_pos h7]
    by_cases hup : (strcasestr (ascii "Upgrade") (strAt head val)).isSome = true
    · have hset := hconnection h7 true
      by_cases hclose : (strcasestr (ascii "close") (strAt head val)).isSome = true
      · simpa only [if_pos hup, if_pos hclose] using hset
      · simpa only [if_pos hup, if_neg hclose] using hset
    · have hset := hconnection h7 req.isUpgrade
      by_cases hclose : (strcasestr (ascii "close") (strAt head val)).isSome = true
      · simpa only [if_neg hup, if_pos hclose] using hset
      · simpa only [if_neg hup, if_neg hclose] using hset
  rw [if_neg h7]
  exact hother h1 h2 h3 h4 h7

/-- `Looping semua baris header`, from `p` on, with `headerEnd` where the blank line is found. -/
def parseLines (config : Config) (headerEnd : Nat) :
    Nat → Nat → RequestHeader → List UInt8 → RequestHeader × List UInt8
  | 0, _, req, head => (req, head)
  | fuel + 1, p, req, head =>
      if headerEnd ≤ p then (req, head)
      else
        match strstr crlf (head.drop p) with
        | none => (req, head)
        | some (line, _) =>
            let nextLine := p + line.length
            if headerEnd < nextLine then (req, head)
            else
              let head := head.set nextLine 0
              let (req, head) := match line.idxOf? 0x3A with
                | none => (req, head)
                | some colon =>
                    let head := head.set (p + colon) 0
                    let (val, head) := fastTrim head (p + colon + 1)
                    (parseField config (line.take colon) head val req, head)
              parseLines config headerEnd fuel (nextLine + 2) req head

/-! ## The route -/

/-- `INJECT TABLE ROUTER`: the URI is rewritten in `route_result`, if a route matches it. -/
def injectRoute (head : List UInt8) (req : RequestHeader) : Option RequestHeader := do
  let uri ← (← req.uri).str head req.routeResult
  match httpRouteMatch req.vhostContext uri with
  | none => some { req with backendType := .php }
  | some route => do
      let (tUri, tQuery, tPath) ← httpRouteApplyLogic route uri
      let query ← match req.queryString with
        | some p => p.str head req.routeResult
        | none => some []
      let sep := if query ≠ [] ∧ tQuery ≠ [] then ascii "&" else []
      let tQuery ← strcat 256 tQuery (sep ++ query)
      let routeResult ← req.routeResult.copy 0 (tUri ++ [0])
      let routeResult ← routeResult.copy (tUri.length + 1) (tQuery ++ [0])
      let req := { req with
        uri := some (.route 0)
        directory := some (.route 0)
        queryString := some (.route (tUri.length + 1))
        backendType := route.fcgiType }
      if tPath = [] then some { req with pathInfo := none, routeResult := routeResult }
      else do
        -- behind the URI, and over the query
        let routeResult ← routeResult.copy tUri.length (tPath ++ [0])
        some { req with pathInfo := some (.route tUri.length), routeResult := routeResult }

/-- `http1_parser_parse_header` up to `SET BODY DATA`, on the header block: the request, and the
block with the NULs in it. -/
def parseHead (config : Config) (head : List UInt8) (req : RequestHeader) :
    Option (RequestHeader × List UInt8) := do
  let headerEnd := head.length - 4
  let req := { req with vhostContext := none, isKeepAlive := true }
  let (line, _) ← strstr crlf head
  let (req, head) ← parseRequestLine config head line.length req
  let (req, head) := parseLines config headerEnd head.length (line.length + 2) req head
  let req ← if req.isValid then injectRoute head req else some req
  some (req, head)

end Halmos.Http1
