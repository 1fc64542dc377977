import Halmos.Http.Destination
import Halmos.Http.RouteFile
import Halmos.Http2.HpackMemory

set_option autoImplicit false

/-! # The routing of a request over HTTP/2

`parse_header` behind the loop over the header block. The URI stays in `h2_uri_buf`, and every
rewriting goes there: the default page, the target of a route, and the NUL in front of a query. The
query and the path info that were found in the path point into the same array, and read what has
been written over them.
-/

namespace Halmos.Http2.Memory

open Http (Destination Parts httpRouteApplyLogicIn httpRouteApplyLogicIn_eq_some_iff
  generatedQuery generatedQuery_no_nul)
open Http.RouteFile (strFrom)
open Http1 (FcgiBackend RouteTable VHostEntry targetText httpRouteMatch httpVhostGetContext)

/-- Where the query is: in `h2_uri_buf`, or in `query_string_buffer`. -/
inductive QueryPtr where
  | uriBuf (off : Nat)
  | queryBuf
  deriving DecidableEq, Repr

/-- The fields of `RequestHeader` that the routing writes. `path_info` is an offset in the buffer of
the URI. -/
structure Routing where
  h2UriBuf : Buffer 1024
  queryStringBuffer : Buffer 512
  queryString : Option QueryPtr
  pathInfo : Option Nat
  vhostContext : Option VHostEntry
  backendType : FcgiBackend
  errorCode : Nat
  isValid : Bool

/-- The fields of a stream's request that no block has filled in. -/
def Routing.zero : Routing where
  h2UriBuf := .zeros 1024
  queryStringBuffer := .zeros 512
  queryString := none
  pathInfo := none
  vhostContext := none
  backendType := .php
  errorCode := 0
  isValid := false

/-- A request with this target and this host, as a header block has filled it in. -/
structure RequestHeader.Names (req : RequestHeader) (target host : List UInt8) : Prop where
  uri_set : req.uri = true
  uri_str : req.h2UriBuf.str = some target
  host_set : req.host = true
  host_str : req.h2HostBuf.str = some host
  method : ∃ method, req.method.str = some method

/-- A cleared array with a text in it. -/
def holding (n : Nat) (s : List UInt8) : Buffer n := ⟨(s ++ List.replicate n 0).take n, by simp⟩

theorem holding_str {n : Nat} {s : List UInt8} (h : s.length < n) (hs : 0 ∉ s) :
    (holding n s).str = some s := by
  obtain ⟨m, rfl⟩ := Nat.exists_eq_add_of_lt h
  have hbytes : (holding (s.length + m + 1) s).bytes = s ++ 0 :: List.replicate m 0 := by
    unfold holding
    dsimp only
    rw [List.take_append, List.take_of_length_le h.le, List.take_replicate,
      show min (s.length + m + 1 - s.length) (s.length + m + 1) = m + 1 by omega,
      List.replicate_succ]
  rw [Buffer.str_eq_of_append hbytes, cstr_of_notMem hs]

/-- A request with the method `GET`, and without a body. -/
def getRequest (target host : List UInt8) : RequestHeader where
  clientIp := .zeros 45
  method := holding 16 (ascii "GET")
  h2UriBuf := holding 1024 target
  h2HostBuf := holding 256 host
  h2ContentTypeBuf := .zeros 128
  h2CookieBuf := .zeros 1024
  uri := true
  host := true
  contentType := false
  cookieData := false
  contentLength := 0
  isTls := true
  isUpgrade := false

theorem getRequest_names {target host : List UInt8} (htarget : target.length < 1024)
    (htargetNul : 0 ∉ target) (hhost : host.length < 256) (hhostNul : 0 ∉ host) :
    (getRequest target host).Names target host where
  uri_set := rfl
  uri_str := holding_str htarget htargetNul
  host_set := rfl
  host_str := holding_str hhost hhostNul
  method := ⟨ascii "GET", holding_str (by decide) (by decide)⟩

/-- The query is cut off. -/
def Routing.cutQuery (r : Routing) : Option Routing := do
  let uri ← r.h2UriBuf.str
  match uri.idxOf? 0x3F with
  | none => some r
  | some qs => do
      let buf ← r.h2UriBuf.write qs 0
      some { r with h2UriBuf := buf, queryString := some (.uriBuf (qs + 1)) }

/-- `exts_list`. -/
def extsList : List (List UInt8) := [ascii ".php", ascii ".rs", ascii ".py", ascii ".sh"]

/-- The loop over the extensions: where the path info begins. -/
def extPathInfo : List (List UInt8) → List UInt8 → Option Nat
  | [], _ => none
  | ext :: exts, uri =>
      match strcasestr ext uri with
      | none => extPathInfo exts uri
      | some ptrExt =>
          let after := uri.length - ptrExt.length + ext.length
          if uri[after]? = some 0x2F then some after else none

/-- `/index.html` for an empty path and for the path `/`. -/
def Routing.defaultPage (r : Routing) : Option Routing := do
  let uri ← r.h2UriBuf.str
  if uri = [] ∨ uri = ascii "/" then do
    let buf ← r.h2UriBuf.snprintf (ascii "/index.html")
    some { r with h2UriBuf := buf, pathInfo := none }
  else some r

/-- What is done for a route that matches; `false` if the parser gives up. -/
def Routing.apply (r : Routing) (route : RouteTable) : Option (Bool × Routing) := do
  let uri ← r.h2UriBuf.str
  let (routeBuf, tQuery, _) ← httpRouteApplyLogicIn 1024 256 route uri
  if routeBuf.length ≥ 1024 then some (false, { r with errorCode := 414, isValid := false })
  else do
    let buf ← r.h2UriBuf.snprintf routeBuf
    let r := { r with h2UriBuf := buf, backendType := route.fcgiType }
    if tQuery = [] then some (true, r)
    else do
      let uri ← r.h2UriBuf.str
      match uri.idxOf? 0x3F with
      | some newQs => do
          let buf ← r.h2UriBuf.write newQs 0
          some (true, { r with h2UriBuf := buf, queryString := some (.uriBuf (newQs + 1)) })
      | none => do
          let buf ← r.queryStringBuffer.snprintf tQuery
          some (true, { r with queryStringBuffer := buf, queryString := some .queryBuf })

/-- The routing for a request with a host. -/
def Routing.atHost (config : Http1.Config) (host : List UInt8) (r : Routing) :
    Option (Bool × Routing) := do
  let vh := httpVhostGetContext config host
  let r ← { r with vhostContext := vh }.defaultPage
  let uri ← r.h2UriBuf.str
  match httpRouteMatch vh uri with
  | some route => r.apply route
  | none => some (true, { r with backendType := .php })

/-- `LOGIKA ROUTING ZERO-ALLOCATION` of `parse_header`, for the request that the block has filled in
and the rest of its fields. -/
def routing (config : Http1.Config) (req : RequestHeader) (r : Routing) : Option Routing := do
  let r := { r with
    h2UriBuf := req.h2UriBuf
    vhostContext := none
    pathInfo := none
    errorCode := 0 }
  let method ← req.method.str
  if req.uri then do
    let r ← r.cutQuery
    let uri ← r.h2UriBuf.str
    let r := { r with pathInfo := extPathInfo extsList uri }
    let (ok, r) ←
      if req.host then do
        let host ← req.h2HostBuf.str
        r.atHost config host
      else some (true, r)
    if ok then some { r with isValid := method ≠ [] } else some r
  else some { r with isValid := false }

/-! ## What is read -/

/-- The query that is read. -/
def Routing.query (r : Routing) : Option (List UInt8) :=
  match r.queryString with
  | none => some []
  | some (.uriBuf off) => strFrom r.h2UriBuf off
  | some .queryBuf => r.queryStringBuffer.str

/-- The path info that is read. -/
def Routing.info (r : Routing) : Option (List UInt8) :=
  match r.pathInfo with
  | none => some []
  | some off => strFrom r.h2UriBuf off

/-- The strings that are read from a routed request. -/
def Routing.destination (r : Routing) : Option Destination := do
  let uri ← r.h2UriBuf.str
  let query ← r.query
  let info ← r.info
  some ⟨uri, query, info, r.backendType⟩

/-! ## The strings -/

/-- What is read at an offset of an array, `old` before a text is written to the start of it. -/
def overlay (off : Nat) (old text : List UInt8) : List UInt8 :=
  if off ≤ text.length then text.drop off else old

/-- The path that is routed. -/
def indexPath (path : List UInt8) : List UInt8 :=
  if path = [] ∨ path = ascii "/" then ascii "/index.html" else path

/-- The query of the client, when these texts have been written to `h2_uri_buf`. -/
def staleQuery (path : List UInt8) (query : Option (List UInt8)) (texts : List (List UInt8)) :
    List UInt8 :=
  match query with
  | none => []
  | some q => texts.foldl (overlay (path.length + 1)) q

/-- The path info that was found in the path, when these texts have been written. -/
def staleInfo (path : List UInt8) (texts : List (List UInt8)) : List UInt8 :=
  match extPathInfo extsList path with
  | none => []
  | some off => texts.foldl (overlay off) (path.drop off)

/-- What a route makes of a path and a query, `uri` being the path that is routed. -/
def appliedDestination (path : List UInt8) (query : Option (List UInt8)) (uri : List UInt8)
    (route : RouteTable) : Option Destination := do
  let (target, generated, _) ← httpRouteApplyLogicIn 1024 256 route uri
  let texts := [uri, target]
  if generated = [] then
    some ⟨target, staleQuery path query texts, staleInfo path texts, route.fcgiType⟩
  else
    match target.idxOf? 0x3F with
    | none => some ⟨target, generated, staleInfo path texts, route.fcgiType⟩
    | some q =>
        some ⟨target.take q, target.drop (q + 1), staleInfo path (texts ++ [target.take q]),
          route.fcgiType⟩

/-- What `parse_header` makes of a path and a query for a virtual host. -/
def routedDestination (vh : Option VHostEntry) (path : List UInt8) (query : Option (List UInt8)) :
    Option Destination :=
  let uri := indexPath path
  match httpRouteMatch vh uri with
  | none => some ⟨uri, staleQuery path query [uri], staleInfo path [uri], .php⟩
  | some route => appliedDestination path query uri route

/-! ## Writing over what is pointed to -/

section Overwriting

variable {n : Nat} {buf buf' : Buffer n} {s rest : List UInt8} {k : Nat}

theorem strFrom_of_drop (h : buf.bytes.drop k = s ++ 0 :: rest) (hs : 0 ∉ s) :
    strFrom buf k = some s := by
  rw [strFrom, h, if_pos (by simp), cstr_append_cons hs]

/-- A text is written to the start of the array: in front of its end it is read, behind its end what
was there is. -/
theorem strFrom_snprintf (buf : Buffer n) (hlen : s.length < n) (hs : 0 ∉ s) :
    ∃ buf', buf.snprintf s = some buf' ∧ buf'.str = some s ∧
      ∀ k old, strFrom buf k = some old → strFrom buf' k = some (overlay k old s) := by
  have htake : s.take (n - 1) = s := List.take_of_length_le (by omega)
  have hroom : 0 + (s ++ [0]).length ≤ n := by simp; omega
  obtain ⟨buf', hcopy, hbytes⟩ := buf.copy_eq hroom
  have hsplit : buf'.bytes = s ++ 0 :: buf.bytes.drop (s.length + 1) := by
    rw [hbytes]
    simp
  have hinside : ∀ k, k ≤ s.length → strFrom buf' k = some (s.drop k) := by
    intro k hk
    have hdrop : buf'.bytes.drop k = s.drop k ++ 0 :: buf.bytes.drop (s.length + 1) := by
      rw [hsplit, List.drop_append_of_le_length hk]
    exact strFrom_of_drop hdrop fun hmem => hs (List.mem_of_mem_drop hmem)
  refine ⟨buf', by rw [Buffer.snprintf, htake, hcopy], hinside 0 (Nat.zero_le _), ?_⟩
  intro k old hold
  unfold overlay
  split
  · next hk => exact hinside k hk
  · next hk =>
    have hdrop : buf'.bytes.drop k = buf.bytes.drop k := by
      obtain ⟨j, rfl⟩ : ∃ j, k = s.length + 1 + j := ⟨k - (s.length + 1), by omega⟩
      rw [← List.drop_drop, hsplit, drop_append_cons rfl, List.drop_drop]
    rw [← hold, strFrom, strFrom, hdrop]

/-- A NUL is written over a byte of the array. -/
theorem strFrom_write_zero {a : List UInt8} {c : UInt8} (h : buf.bytes = a ++ c :: rest)
    (ha : 0 ∉ a) :
    ∃ buf', buf.write a.length 0 = some buf' ∧ buf'.bytes = a ++ 0 :: rest ∧
      buf'.str = some a ∧
      ∀ k old, strFrom buf k = some old → strFrom buf' k = some (overlay k old a) := by
  have hlen : a.length < n := by
    rw [← buf.length_eq, h]
    simp
  obtain ⟨buf', hwrite, hbytes⟩ := buf.write_eq 0 hlen
  rw [h, set_append_cons rfl] at hbytes
  have hinside : ∀ k, k ≤ a.length → strFrom buf' k = some (a.drop k) := by
    intro k hk
    have hdrop : buf'.bytes.drop k = a.drop k ++ 0 :: rest := by
      rw [hbytes, List.drop_append_of_le_length hk]
    exact strFrom_of_drop hdrop fun hmem => ha (List.mem_of_mem_drop hmem)
  refine ⟨buf', hwrite, hbytes, hinside 0 (Nat.zero_le _), ?_⟩
  intro k old hold
  unfold overlay
  split
  · next hk => exact hinside k hk
  · next hk =>
    have hdrop : buf'.bytes.drop k = buf.bytes.drop k := by
      obtain ⟨j, rfl⟩ : ∃ j, k = a.length + 1 + j := ⟨k - (a.length + 1), by omega⟩
      have hbehind : ∀ b, (a ++ b :: rest).drop (a.length + 1 + j) = rest.drop j := by
        intro b
        rw [← List.drop_drop, drop_append_cons rfl]
      rw [hbytes, h, hbehind, hbehind]
    rw [← hold, strFrom, strFrom, hdrop]

end Overwriting

/-! ## The run -/

/-- A pointer into the array, null or to where a string was before these texts were written. -/
def Under {n : Nat} (buf : Buffer n) (texts : List (List UInt8)) (p : Option (Nat × List UInt8)) :
    Prop :=
  ∀ o ∈ p, strFrom buf o.1 = some (texts.foldl (overlay o.1) o.2)

theorem Under.next {n : Nat} {buf buf' : Buffer n} {texts : List (List UInt8)}
    {p : Option (Nat × List UInt8)} {s : List UInt8} (h : Under buf texts p)
    (hwrite : ∀ k old, strFrom buf k = some old → strFrom buf' k = some (overlay k old s)) :
    Under buf' (texts ++ [s]) p := by
  intro o ho
  rw [List.foldl_append]
  exact hwrite o.1 _ (h o ho)

/-- The fields of a request with this path and this query, when these texts have been written. -/
structure Routing.Holds (r : Routing) (path : List UInt8) (query : Option (List UInt8))
    (texts : List (List UInt8)) : Prop where
  queryString : r.queryString = query.map fun _ => .uriBuf (path.length + 1)
  pathInfo : r.pathInfo = extPathInfo extsList path
  query_under : Under r.h2UriBuf texts (query.map fun q => (path.length + 1, q))
  info_under : Under r.h2UriBuf texts
    ((extPathInfo extsList path).map fun off => (off, path.drop off))

variable {r : Routing} {path uri : List UInt8} {query : Option (List UInt8)}
  {texts : List (List UInt8)}

theorem Routing.Holds.query_eq (h : r.Holds path query texts) :
    r.query = some (staleQuery path query texts) := by
  unfold Routing.query staleQuery
  rw [h.queryString]
  cases query with
  | none => rfl
  | some q => exact h.query_under _ rfl

theorem Routing.Holds.info_eq (h : r.Holds path query texts) :
    r.info = some (staleInfo path texts) := by
  have hunder := h.info_under
  unfold Routing.info staleInfo
  rw [h.pathInfo]
  cases hoff : extPathInfo extsList path with
  | none => rfl
  | some off =>
      rw [hoff] at hunder
      exact hunder _ rfl

/-- A text is written over the URI. -/
theorem Routing.Holds.print (h : r.Holds path query texts) {s : List UInt8} (hlen : s.length < 1024)
    (hs : 0 ∉ s) :
    ∃ buf, r.h2UriBuf.snprintf s = some buf ∧ buf.str = some s ∧
      { r with h2UriBuf := buf }.Holds path query (texts ++ [s]) := by
  obtain ⟨buf, hprint, hstr, hread⟩ := strFrom_snprintf r.h2UriBuf hlen hs
  exact ⟨buf, hprint, hstr, h.queryString, h.pathInfo, h.query_under.next hread,
    h.info_under.next hread⟩

theorem Routing.Holds.destination_eq (h : r.Holds path query texts)
    (huri : r.h2UriBuf.str = some uri) :
    r.destination
      = some ⟨uri, staleQuery path query texts, staleInfo path texts, r.backendType⟩ := by
  unfold Routing.destination
  rw [huri, h.query_eq, h.info_eq]
  rfl

theorem extPathInfo_slash {exts : List (List UInt8)} {off : Nat}
    (h : extPathInfo exts path = some off) : path[off]? = some 0x2F := by
  induction exts with
  | nil => cases h
  | cons ext exts ih =>
      rw [extPathInfo] at h
      cases hfound : strcasestr ext path with
      | none =>
          rw [hfound] at h
          exact ih h
      | some ptrExt =>
          rw [hfound] at h
          dsimp only at h
          split at h
          · next hslash =>
            obtain rfl := Option.some.inj h
            exact hslash
          · cases h

theorem Routing.cutQuery_holds {rest : List UInt8} (hparts : Parts path query)
    (hbuf : r.h2UriBuf.bytes = targetText path query ++ 0 :: rest) (hnull : r.queryString = none) :
    ∃ r', r.cutQuery = some r' ∧ r'.h2UriBuf.str = some path ∧
      { r' with pathInfo := extPathInfo extsList path }.Holds path query [] := by
  have hinfo : ∀ buf : Buffer 1024, (∃ behind, buf.bytes = path ++ 0 :: behind) → Under buf []
      ((extPathInfo extsList path).map fun off => (off, path.drop off)) := by
    rintro buf ⟨behind, hbytes⟩ o ho
    obtain ⟨off, hoff, rfl⟩ := Option.map_eq_some_iff.mp ho
    have hle : off ≤ path.length :=
      (List.getElem?_eq_some_iff.mp (extPathInfo_slash hoff)).1.le
    have hdrop : buf.bytes.drop off = path.drop off ++ 0 :: behind := by
      rw [hbytes, List.drop_append_of_le_length hle]
    exact strFrom_of_drop hdrop fun hmem => hparts.path_no_nul (List.mem_of_mem_drop hmem)
  cases query with
  | none =>
      have hbytes : r.h2UriBuf.bytes = path ++ 0 :: rest := by simpa [targetText] using hbuf
      have hstr : r.h2UriBuf.str = some path := by
        rw [Buffer.str_eq_of_append hbytes, cstr_of_notMem hparts.path_no_nul]
      have hcut : r.cutQuery = some r := by
        unfold Routing.cutQuery
        rw [hstr, Option.bind_eq_bind, Option.bind_some,
          List.idxOf?_eq_none_iff.mpr hparts.path_no_mark]
      exact ⟨r, hcut, hstr, hnull, rfl, fun o ho => (by cases ho), hinfo _ ⟨rest, hbytes⟩⟩
  | some q =>
      have hq : 0 ∉ q := hparts.query_no_nul q rfl
      have hbytes : r.h2UriBuf.bytes = path ++ 0x3F :: (q ++ 0 :: rest) := by
        simpa [targetText] using hbuf
      have hno : 0 ∉ path ++ 0x3F :: q := by simp [hparts.path_no_nul, hq]
      have hstr : r.h2UriBuf.str = some (path ++ 0x3F :: q) := by
        have hwhole : r.h2UriBuf.bytes = (path ++ 0x3F :: q) ++ 0 :: rest := by simpa using hbytes
        rw [Buffer.str_eq_of_append hwhole, cstr_of_notMem hno]
      obtain ⟨buf, hwrite, hafter, hbufstr, -⟩ := strFrom_write_zero hbytes hparts.path_no_nul
      refine ⟨{ r with h2UriBuf := buf, queryString := some (.uriBuf (path.length + 1)) }, ?_,
        hbufstr, rfl, rfl, ?_, hinfo _ ⟨_, hafter⟩⟩
      · unfold Routing.cutQuery
        rw [hstr, Option.bind_eq_bind, Option.bind_some, idxOf?_append hparts.path_no_mark]
        dsimp only
        rw [hwrite]
        rfl
      · intro o ho
        obtain rfl := Option.some.inj ho
        have hdrop : buf.bytes.drop (path.length + 1) = q ++ 0 :: rest := by
          rw [hafter, drop_append_cons rfl]
        exact strFrom_of_drop hdrop hq

theorem Under.self {n : Nat} {buf : Buffer n} {p : Option (Nat × List UInt8)} (h : Under buf [] p)
    (hp : ∀ o ∈ p, o.1 ≤ path.length → o.2 = path.drop o.1) : Under buf [path] p := by
  intro o ho
  rw [h o ho]
  show some o.2 = some (overlay o.1 o.2 path)
  unfold overlay
  split
  · next hle => rw [hp o ho hle]
  · rfl

theorem Routing.Holds.defaultPage_holds (h : r.Holds path query [])
    (hstr : r.h2UriBuf.str = some path) :
    ∃ r', r.defaultPage = some r' ∧ r'.h2UriBuf.str = some (indexPath path) ∧
      r'.Holds path query [indexPath path] := by
  unfold Routing.defaultPage indexPath
  rw [hstr, Option.bind_eq_bind, Option.bind_some]
  by_cases hindex : path = [] ∨ path = ascii "/"
  · obtain ⟨buf, hprint, hbuf, hholds⟩ := h.print (s := ascii "/index.html") (by decide) (by decide)
    have hno : extPathInfo extsList path = none := by
      rcases hindex with rfl | rfl <;> decide
    rw [if_pos hindex, if_pos hindex, hprint]
    exact ⟨_, rfl, hbuf, hholds.queryString, hno.symm, hholds.query_under, hholds.info_under⟩
  · rw [if_neg hindex, if_neg hindex]
    refine ⟨r, rfl, hstr, h.queryString, h.pathInfo, h.query_under.self ?_, h.info_under.self ?_⟩
    · rintro o ho hle
      obtain ⟨q, -, rfl⟩ := Option.map_eq_some_iff.mp ho
      exact absurd hle (Nat.not_succ_le_self _)
    · rintro o ho -
      obtain ⟨off, -, rfl⟩ := Option.map_eq_some_iff.mp ho
      rfl

theorem Routing.apply_destination {route : RouteTable} (h : r.Holds path query [uri])
    (hstr : r.h2UriBuf.str = some uri) (htarget : 0 ∉ route.target)
    (hgenerated : 0 ∉ generatedQuery route uri) :
    (r.apply route).bind (fun p => p.2.destination) = appliedDestination path query uri route := by
  unfold appliedDestination
  unfold Routing.apply
  rw [hstr, Option.bind_eq_bind, Option.bind_some]
  cases hcall : httpRouteApplyLogicIn 1024 256 route uri with
  | none => rfl
  | some strings =>
      obtain ⟨hfits, rfl⟩ := (httpRouteApplyLogicIn_eq_some_iff (by decide) route uri _).mp hcall
      obtain ⟨buf, hprint, hbuf, hholds⟩ := h.print hfits.target htarget
      simp only [Option.bind_eq_bind, Option.bind_some, if_neg (not_le.mpr hfits.target), hprint]
      by_cases hnil : generatedQuery route uri = []
      · rw [if_pos hnil, if_pos hnil, Option.bind_some]
        have hkept : { r with h2UriBuf := buf, backendType := route.fcgiType }.Holds path query
            ([uri] ++ [route.target]) :=
          ⟨hholds.queryString, hholds.pathInfo, hholds.query_under, hholds.info_under⟩
        exact hkept.destination_eq hbuf
      rw [if_neg hnil, if_neg hnil]
      simp only [hbuf, Option.bind_some]
      cases hmark : route.target.idxOf? 0x3F with
      | none =>
          have hshort : generatedQuery route uri = (generatedQuery route uri).take 511 :=
            (List.take_of_length_le (by have := hfits.query; omega)).symm
          obtain ⟨query', hcopy, hquery⟩ :=
            r.queryStringBuffer.snprintf_str (generatedQuery route uri) (by decide)
          rw [← hshort, cstr_of_notMem hgenerated] at hquery
          simp only [hcopy, Option.bind_some]
          have hinfo := hholds.info_eq
          unfold Routing.info at hinfo
          unfold Routing.destination Routing.query Routing.info
          simp only [hbuf, hquery, hinfo, Option.bind_eq_bind, Option.bind_some]
          rfl
      | some q =>
          obtain ⟨hq, hmark, -⟩ := List.idxOf?_eq_some_iff.mp hmark
          obtain ⟨rest, hrest⟩ := Buffer.bytes_of_str hbuf
          have hsplit : route.target
              = route.target.take q ++ 0x3F :: route.target.drop (q + 1) := by
            rw [← hmark, List.getElem_cons_drop, List.take_append_drop]
          have hlen : (route.target.take q).length = q := List.length_take_of_le hq.le
          have hbytes : buf.bytes
              = route.target.take q ++ 0x3F :: (route.target.drop (q + 1) ++ 0 :: rest) := by
            rw [hrest]
            nth_rewrite 1 [hsplit]
            simp
          have hno : 0 ∉ route.target.take q := fun hmem => htarget (List.mem_of_mem_take hmem)
          obtain ⟨buf', hwrite, hafter, hstr', hread⟩ := strFrom_write_zero hbytes hno
          rw [hlen] at hwrite
          simp only [hwrite, Option.bind_some]
          have hquery : strFrom buf' (q + 1) = some (route.target.drop (q + 1)) := by
            have hdrop : buf'.bytes.drop (q + 1) = route.target.drop (q + 1) ++ 0 :: rest := by
              rw [hafter, drop_append_cons hlen]
            exact strFrom_of_drop hdrop fun hmem => htarget (List.mem_of_mem_drop hmem)
          have hkept : { r with h2UriBuf := buf' }.Holds path query
              ([uri] ++ [route.target] ++ [route.target.take q]) :=
            ⟨hholds.queryString, hholds.pathInfo, hholds.query_under.next hread,
              hholds.info_under.next hread⟩
          have hinfo := hkept.info_eq
          unfold Routing.info at hinfo
          unfold Routing.destination Routing.query Routing.info
          simp only [hstr', hquery, hinfo, Option.bind_eq_bind, Option.bind_some]
          rfl

/-- **The routing**: what is read of a routed request is what the strings of the target, the host
and the route say. -/
theorem routing_destination {config : Http1.Config} {req : RequestHeader} {host method : List UInt8}
    (hconfig : config.NoNul) (hparts : Parts path query) (huri : req.uri = true)
    (hbuf : req.h2UriBuf.str = some (targetText path query)) (hhost : req.host = true)
    (hhostBuf : req.h2HostBuf.str = some host) (hmethod : req.method.str = some method)
    (hnull : r.queryString = none) :
    (routing config req r).bind Routing.destination
      = routedDestination (httpVhostGetContext config host) path query := by
  obtain ⟨rest, hbytes⟩ := Buffer.bytes_of_str hbuf
  obtain ⟨r₁, hcut, hstr₁, hholds₁⟩ := Routing.cutQuery_holds (r := { r with
    h2UriBuf := req.h2UriBuf, vhostContext := none, pathInfo := none, errorCode := 0 })
    hparts hbytes hnull
  have hstart : ({ r₁ with
      pathInfo := extPathInfo extsList path
      vhostContext := httpVhostGetContext config host } : Routing).Holds path query [] :=
    ⟨hholds₁.queryString, hholds₁.pathInfo, hholds₁.query_under, hholds₁.info_under⟩
  obtain ⟨r₂, hpage, hstr₂, hholds₂⟩ := hstart.defaultPage_holds hstr₁
  have hno : 0 ∉ indexPath path := by
    unfold indexPath
    split
    · decide
    · exact hparts.path_no_nul
  unfold routing routedDestination
  simp only [hmethod, huri, hcut, hstr₁, hhost, hhostBuf, Option.bind_eq_bind, Option.bind_some,
    if_true]
  unfold Routing.atHost
  simp only [hpage, hstr₂, Option.bind_eq_bind, Option.bind_some]
  cases hroute : httpRouteMatch (httpVhostGetContext config host) (indexPath path) with
  | none =>
      simp only [Option.bind_some, if_true]
      have hkept : ({ r₂ with backendType := .php, isValid := method ≠ [] } : Routing).Holds
          path query [indexPath path] :=
        ⟨hholds₂.queryString, hholds₂.pathInfo, hholds₂.query_under, hholds₂.info_under⟩
      exact hkept.destination_eq hstr₂
  | some route =>
      have hnames := hconfig.of_match hroute
      dsimp only
      rw [← Routing.apply_destination hholds₂ hstr₂ hnames.target
        (generatedQuery_no_nul hnames hno)]
      cases r₂.apply route with
      | none => rfl
      | some p =>
          obtain ⟨ok, r₃⟩ := p
          cases ok <;> rfl

end Halmos.Http2.Memory
