import Halmos.Basic.CString

set_option autoImplicit false

/-! # Virtual hosts and their routes

`halmos_http_vhost.c` and `halmos_http_route.c`, as far as a request over HTTP/1.1 is concerned: the
virtual host of a `Host` field, the route with the longest source that begins the URI, and what the
route makes of it. The strings are C strings, given by the bytes in front of their NUL, and the
arrays they are copied to have the sizes of the source: `none` is a write behind one of them.
-/

namespace Halmos.Http1

/-- `RouteType`. -/
inductive RouteType where
  | none
  | query
  | path
  deriving DecidableEq, Repr

/-- `FcgiBackend`. -/
inductive FcgiBackend where
  | php
  | py
  | rs
  deriving DecidableEq, Repr

/-- `RouteTable`; `var_count` is the number of names. -/
structure RouteTable where
  type : RouteType
  source : List UInt8
  target : List UInt8
  fcgiType : FcgiBackend
  varNames : List (List UInt8)
  deriving DecidableEq, Repr

/-- `VHostEntry`; `total_routes` is the number of routes. -/
structure VHostEntry where
  host : List UInt8
  root : List UInt8
  routes : List RouteTable
  deriving DecidableEq, Repr

/-- The part of the configuration that is looked at for a request. -/
structure Config where
  documentRoot : List UInt8
  defaultPage : List UInt8
  rustExt : List UInt8
  pythonExt : List UInt8
  requestBufferSize : Int
  vhosts : List VHostEntry
  deriving DecidableEq, Repr

/-- `strcasecmp(a, b) == 0`. -/
def strcasecmpEq (a b : List UInt8) : Bool := a.map toLower = b.map toLower

/-- `http_vhost_get_context(incoming_host)`. -/
def httpVhostGetContext (config : Config) (incomingHost : List UInt8) : Option VHostEntry :=
  let cleanHost := (incomingHost.take 127).takeWhile (fun c => c ≠ 0x3A)
  let pHost :=
    if strcasecmpEq (cleanHost.take 4) (ascii "www.") then cleanHost.drop 4 else cleanHost
  config.vhosts.find? (fun vh => strcasecmpEq vh.host cleanHost || strcasecmpEq vh.host pHost)

/-- `http_route_match(vh, uri)`: the first of the routes with the longest source that is there. -/
def httpRouteMatch (vh : Option VHostEntry) (uri : List UInt8) : Option RouteTable :=
  match vh with
  | .none => .none
  | some vh =>
      (vh.routes.foldl (fun best route =>
        if route.source <+: uri ∧ best.2 < route.source.length then
          (some route, route.source.length)
        else best) (.none, 0)).1

/-- `strcat(dst, src)` in an array of `cap` bytes. -/
def strcat (cap : Nat) (dst src : List UInt8) : Option (List UInt8) :=
  if dst.length + src.length < cap then some (dst ++ src) else none

/-- `strtok(s, "/")`, call after call. -/
def strtokSlash (s : List UInt8) : List (List UInt8) :=
  (s.splitOn 0x2F).filter (fun token => token ≠ [])

/-- The tokens of a string that have a slash behind them. -/
def completeTokens (s : List UInt8) : List (List UInt8) :=
  (s.splitOn 0x2F).dropLast.filter (fun token => token ≠ [])

/-- The loop over the tokens: `pair` is an array of 128 bytes, `out_query` one of 256. -/
def queryPairs : List (List UInt8 × List UInt8) → List UInt8 → Option (List UInt8)
  | [], outQuery => some outQuery
  | (name, token) :: rest, outQuery => do
      let sep := if outQuery = [] then [] else ascii "&"
      let outQuery ← strcat 256 outQuery ((sep ++ name ++ ascii "=" ++ token).take 127)
      queryPairs rest outQuery

/-- `http_route_apply_logic(match, uri, t_uri, t_query, t_path)`. -/
def httpRouteApplyLogic (route : RouteTable) (originalUri : List UInt8) :
    Option (List UInt8 × List UInt8 × List UInt8) := do
  let outTarget ← strcat 128 [] route.target
  let remainder := originalUri.drop route.source.length
  match route.type with
  | .none => some (outTarget, [], [])
  | .path => do
      let outPathInfo ← strcat 128 [] remainder
      some (outTarget, [], outPathInfo)
  | .query =>
      let temp := remainder.take 255
      -- `strncpy` puts no NUL behind the 255 bytes of a longer rest, and `strtok` gets to their end
      -- unless there are more tokens than names in front of it
      if 255 ≤ remainder.length ∧ (completeTokens temp).length ≤ route.varNames.length then none
      else do
        let p := if temp.head? = some 0x2F then temp.drop 1 else temp
        let outQuery ← queryPairs (route.varNames.zip (strtokSlash p)) []
        some (outTarget, outQuery, [])

end Halmos.Http1
