import Halmos.Basic.Search
import Halmos.Http1.Pointers

set_option autoImplicit false

/-! # What a route leaves in `route_result`

The parser writes the target of the route, the joined query and the path info into one array. The
path info comes last and is put behind the target, where the query is already: what is read as the
query then is the path info without its first byte (`routeArea_iff`).
-/

namespace Halmos.Http1

variable {route : RouteTable} {uri query : List UInt8}

/-! ## What a route is for -/

/-- What the source of a route leaves of a URI. -/
def remainderOf (route : RouteTable) (uri : List UInt8) : List UInt8 :=
  uri.drop route.source.length

/-- The pairs of a QUERY route: its names, with the segments of the remainder. -/
def routePairs (route : RouteTable) (uri : List UInt8) : List (List UInt8) :=
  if route.type = .query then
    (route.varNames.zip (strtokSlash (remainderOf route uri))).map fun p =>
      p.1 ++ ascii "=" ++ p.2
  else []

/-- The pairs, joined. -/
def routeQuery (route : RouteTable) (uri : List UInt8) : List UInt8 :=
  (ascii "&").intercalate (routePairs route uri)

/-- The query of a route and the one of the client, joined if there are both. -/
def joinQuery (generated client : List UInt8) : List UInt8 :=
  generated ++ ((if client ≠ [] ∧ generated ≠ [] then ascii "&" else []) ++ client)

/-- Every string but the first one with the separator in front of it. -/
def separated : List (List UInt8) → List (List UInt8)
  | [] => []
  | s :: rest => s :: rest.map (ascii "&" ++ ·)

/-- All that is made of a route fits the array it is put into. -/
structure RouteFits (route : RouteTable) (uri query : List UInt8) : Prop where
  target : route.target.length < 128
  pathInfo : route.type = .path → (remainderOf route uri).length < 128
  temp : route.type = .query → (remainderOf route uri).length < 255
  pair : ∀ pair ∈ separated (routePairs route uri), pair.length < 128
  query : (joinQuery (routeQuery route uri) query).length < 256

/-- The strings of a route have no NUL in them. -/
structure RouteTable.NoNul (route : RouteTable) : Prop where
  target : 0 ∉ route.target
  varNames : ∀ name ∈ route.varNames, 0 ∉ name

/-! ## The query of a route -/

theorem intercalate_eq (pairs : List (List UInt8)) :
    (ascii "&").intercalate pairs = (separated pairs).flatten := by
  have hrest : ∀ (s : List UInt8) (rest : List (List UInt8)),
      (ascii "&").intercalate (s :: rest) = s ++ (rest.map (ascii "&" ++ ·)).flatten := by
    intro s rest
    induction rest generalizing s with
    | nil => simp [List.intercalate]
    | cons s' rest ih =>
        have hstep : (ascii "&").intercalate (s :: s' :: rest)
            = s ++ (ascii "&" ++ (ascii "&").intercalate (s' :: rest)) := by
          simp [List.intercalate]
        rw [hstep, ih, List.map_cons, List.flatten_cons, List.append_assoc]
  cases pairs with
  | nil => rfl
  | cons s rest => exact hrest s rest

/-- `strtok` goes over a slash at the start. -/
theorem strtokSlash_drop (s : List UInt8) :
    strtokSlash (if s.head? = some 0x2F then s.drop 1 else s) = strtokSlash s := by
  cases s with
  | nil => rfl
  | cons c s =>
      by_cases hc : c = 0x2F
      · subst hc
        simp [strtokSlash, List.splitOn, List.splitOnP_cons_eq_if_modifyHead]
      · simp [hc]

theorem queryPairs_rest (pairs : List (List UInt8 × List UInt8)) {acc : List UInt8}
    (hacc : acc ≠ [])
    (hpair : ∀ p ∈ pairs, (ascii "&" ++ (p.1 ++ ascii "=" ++ p.2)).length < 128)
    (hlen : (acc ++ (pairs.map fun p => ascii "&" ++ (p.1 ++ ascii "=" ++ p.2)).flatten).length
      < 256) :
    queryPairs pairs acc
      = some (acc ++ (pairs.map fun p => ascii "&" ++ (p.1 ++ ascii "=" ++ p.2)).flatten) := by
  induction pairs generalizing acc with
  | nil => simp [queryPairs]
  | cons p pairs ih =>
      obtain ⟨name, token⟩ := p
      have hfirst := hpair (name, token) List.mem_cons_self
      rw [List.map_cons, List.flatten_cons, ← List.append_assoc] at hlen ⊢
      dsimp only at hfirst hlen ⊢
      have htake : (ascii "&" ++ name ++ ascii "=" ++ token).take 127
          = ascii "&" ++ (name ++ ascii "=" ++ token) := by
        rw [List.take_of_length_le]
        · simp only [List.append_assoc]
        · simp only [List.append_assoc] at hfirst ⊢
          omega
      have hroom : acc.length + (ascii "&" ++ (name ++ ascii "=" ++ token)).length < 256 := by
        rw [← List.length_append]
        rw [List.length_append] at hlen
        omega
      rw [queryPairs, if_neg hacc, htake, strcat, if_pos hroom]
      exact ih (by simp [hacc]) (fun p hp => hpair p (List.mem_cons_of_mem _ hp)) hlen

/-- The loop over the tokens puts the pairs together. -/
theorem queryPairs_eq (pairs : List (List UInt8 × List UInt8))
    (hpair : ∀ pair ∈ separated (pairs.map fun p => p.1 ++ ascii "=" ++ p.2), pair.length < 128)
    (hlen : (separated (pairs.map fun p => p.1 ++ ascii "=" ++ p.2)).flatten.length < 256) :
    queryPairs pairs [] = some (separated (pairs.map fun p => p.1 ++ ascii "=" ++ p.2)).flatten := by
  cases pairs with
  | nil => rfl
  | cons p pairs =>
      obtain ⟨name, token⟩ := p
      rw [List.map_cons, separated, List.flatten_cons, List.map_map] at hlen ⊢
      rw [List.map_cons, separated] at hpair
      have hfirst := hpair _ List.mem_cons_self
      dsimp only at hfirst hlen ⊢
      have htake : ([] ++ name ++ ascii "=" ++ token).take 127 = name ++ ascii "=" ++ token := by
        rw [List.nil_append, List.take_of_length_le (by omega)]
      have hroom : ([] : List UInt8).length + (name ++ ascii "=" ++ token).length < 256 := by
        rw [List.length_append] at hlen
        simp only [List.length_nil, Nat.zero_add]
        omega
      rw [queryPairs, if_pos rfl, htake, strcat, if_pos hroom]
      refine queryPairs_rest pairs (by simp [ascii]) (fun p hp => ?_) hlen
      refine hpair _ (List.mem_cons_of_mem _ ?_)
      exact List.mem_map.mpr ⟨_, List.mem_map.mpr ⟨p, hp, rfl⟩, rfl⟩

/-- What the route makes of a URI, where it fits. -/
theorem httpRouteApplyLogic_routeFits (h : RouteFits route uri query) :
    httpRouteApplyLogic route uri = some (route.target, routeQuery route uri,
      if route.type = .path then remainderOf route uri else []) := by
  have hempty : ∀ s : List UInt8, s.length < 128 → strcat 128 [] s = some s := by
    intro s hs
    rw [strcat, if_pos (by simpa using hs), List.nil_append]
  have hquery : (routeQuery route uri).length < 256 := by
    have hlen := h.query
    rw [joinQuery, List.length_append] at hlen
    omega
  unfold httpRouteApplyLogic
  rw [hempty _ h.target]
  cases htype : route.type with
  | none => simp [routeQuery, routePairs, htype, List.intercalate]
  | path =>
      have hinfo := hempty _ (h.pathInfo htype)
      rw [remainderOf] at hinfo
      simp [hinfo, routeQuery, routePairs, htype, List.intercalate, remainderOf]
  | query =>
      have htemp := h.temp htype
      rw [remainderOf] at htemp
      have hpairs := h.pair
      rw [routeQuery, intercalate_eq] at hquery
      unfold routePairs at hpairs hquery
      simp only [if_pos htype] at hpairs hquery
      have hloop := queryPairs_eq _ hpairs hquery
      unfold remainderOf at hloop
      have hfits : ¬ (255 ≤ (uri.drop route.source.length).length ∧
          (completeTokens (uri.drop route.source.length)).length ≤ route.varNames.length) :=
        fun h => absurd h.1 (not_le.mpr htemp)
      simp only [Option.bind_eq_bind, Option.bind_some, List.take_of_length_le (Nat.le_of_lt htemp),
        if_neg hfits, strtokSlash_drop, hloop, routeQuery, intercalate_eq, routePairs, if_pos htype, remainderOf, reduceCtorEq,
        if_false]

/-! ## The array -/

/-- The request line and the fields are read: the request behind them, and the block. -/
def readHead (config : Config) (head : List UInt8) (req : RequestHeader) :
    Option (RequestHeader × List UInt8) := do
  let headerEnd := head.length - 4
  let req := { req with vhostContext := none, isKeepAlive := true }
  let (line, _) ← strstr crlf head
  let (req, head) ← parseRequestLine config head line.length req
  some (parseLines config headerEnd head.length (line.length + 2) req head)

/-- A request for a URI with a query, as it is when a route is looked for, and the route. -/
structure ReachesRoute (config : Config) (head : List UInt8) (req req' : RequestHeader)
    (block uri query : List UInt8) (route : RouteTable) : Prop where
  read : readHead config head req = some (req', block)
  valid : req'.isValid = true
  uri_eq : req'.uri.bind (Ptr.str block req'.routeResult) = some uri
  query_eq : clientQuery block req' = some query
  route_eq : httpRouteMatch req'.vhostContext uri = some route

/-- The bytes from `uri` up to `path_info`, or all of `uri` if there is no path info. -/
def upToPathInfo (buffer : List UInt8) (req : RequestHeader) : Option (List UInt8) :=
  match req.uri, req.pathInfo with
  | some u, none => u.str buffer req.routeResult
  | some (.route u), some (.route p) =>
      if 0 ≤ u ∧ u ≤ p then readBytes req.routeResult.bytes u.toNat (p - u).toNat else none
  | _, _ => none

/-- The strings of a routed request: the target, the remainder as the path info of a PATH route
that leaves one, and the query of the route with the one of the client. -/
structure Consistent (route : RouteTable) (uri query buffer : List UInt8) (req : RequestHeader) :
    Prop where
  target : upToPathInfo buffer req = some route.target
  pathInfo : req.pathInfo.map (Ptr.str buffer req.routeResult)
    = if route.type = .path ∧ remainderOf route uri ≠ [] then some (some (remainderOf route uri))
      else none
  query : req.queryString.bind (Ptr.str buffer req.routeResult)
    = some (joinQuery (routeQuery route uri) query)

theorem route_str {routeResult : Buffer 512} {k : Nat} {s rest : List UInt8}
    (h : routeResult.bytes.drop k = s ++ 0 :: rest) (hs : 0 ∉ s) (buffer : List UInt8) :
    Ptr.str buffer routeResult (.route k) = some s := by
  have hmem : 0 ≤ (k : Int) ∧ 0 ∈ routeResult.bytes.drop (k : Int).toNat := by
    rw [Int.toNat_natCast, h]
    simp
  show (if _ then some (strAt routeResult.bytes (k : Int).toNat) else none) = some s
  rw [if_pos hmem, Int.toNat_natCast, strAt, h, cstr_append_zero, cstr_of_notMem hs]

theorem Ptr.str_no_nul {buffer s : List UInt8} {routeResult : Buffer 512} {p : Ptr}
    (h : p.str buffer routeResult = some s) : 0 ∉ s := by
  unfold Ptr.str at h
  split at h
  · split at h
    · rw [← Option.some.inj h]
      exact zero_notMem_cstr _
    · cases h
  · split at h
    · rw [← Option.some.inj h]
      exact zero_notMem_cstr _
    · cases h
  · cases h

theorem clientQuery_no_nul {block : List UInt8} {req : RequestHeader}
    (h : clientQuery block req = some query) : 0 ∉ query := by
  unfold clientQuery at h
  split at h
  · exact Ptr.str_no_nul h
  · rw [← Option.some.inj h]
    exact List.not_mem_nil

/-- The route is looked for when the head has been read. -/
theorem parseHead_eq_readHead (config : Config) (head : List UInt8) (req : RequestHeader) :
    parseHead config head req = (readHead config head req).bind fun r =>
      if r.1.isValid then (injectRoute r.2 r.1).map (·, r.2) else some r := by
  unfold parseHead readHead
  simp only [Option.bind_eq_bind, Option.bind_assoc]
  congr 1
  funext r
  congr 1
  funext r
  simp only [Option.bind_some]
  split
  · cases injectRoute _ _ <;> rfl
  · rfl

/-- The body and its parts leave the routing alone. -/
theorem http1ParserParseHeader_routed {config : Config} {buffer head rest block buffer' : List UInt8}
    {req routed parsed : RequestHeader} {ok : Bool}
    (hsplit : splitAfter blankLine (cstr buffer) = some (head, rest))
    (hparse : parseHead config head req = some (routed, block))
    (h : http1ParserParseHeader config buffer req = some (ok, parsed, buffer')) :
    ok = routed.isValid ∧ parsed.uri = routed.uri ∧ parsed.queryString = routed.queryString ∧
      parsed.pathInfo = routed.pathInfo ∧ parsed.backendType = routed.backendType ∧
      parsed.routeResult = routed.routeResult ∧ buffer' = block ++ buffer.drop head.length := by
  rw [http1ParserParseHeader_eq hsplit, hparse, Option.bind_eq_bind, Option.bind_some] at h
  obtain ⟨parts, -, h⟩ := Option.bind_eq_some_iff.mp h
  cases h
  exact ⟨rfl, rfl, rfl, rfl, rfl, rfl, rfl⟩

theorem strcat_eq_some_iff {cap : Nat} {dst src s : List UInt8} :
    strcat cap dst src = some s ↔ dst.length + src.length < cap ∧ s = dst ++ src := by
  unfold strcat
  split
  · next h => simp [h, eq_comm]
  · next h => simp [h]

/-- What is put into the array: the target and the query, and a path info over the query. -/
theorem injectRoute_written {head generated info joined : List UInt8} {req : RequestHeader}
    (huri : req.uri.bind (Ptr.str head req.routeResult) = some uri)
    (hquery : clientQuery head req = some query)
    (hroute : httpRouteMatch req.vhostContext uri = some route)
    (hcall : httpRouteApplyLogic route uri = some (route.target, generated, info))
    (hcat : strcat 256 generated ((if query ≠ [] ∧ generated ≠ [] then ascii "&" else []) ++ query)
      = some joined)
    (htarget : route.target.length < 128) (hjoined : joined.length < 256)
    (hroom : info.length < 128) :
    ∃ area rest, area.bytes = route.target ++ 0 :: joined ++ 0 :: rest ∧
      ∃ area' pathInfo, injectRoute head req = some { req with
          uri := some (.route 0)
          directory := some (.route 0)
          queryString := some (.route (route.target.length + 1))
          backendType := route.fcgiType
          pathInfo := pathInfo
          routeResult := area' } ∧
        if info = [] then pathInfo = none ∧ area' = area
        else pathInfo = some (.route route.target.length) ∧
          ∃ rest', area'.bytes = route.target ++ info ++ 0 :: rest' := by
  obtain ⟨p, hp, hstr⟩ := Option.bind_eq_some_iff.mp huri
  have hone : (route.target ++ [0]).length = route.target.length + 1 := by simp
  obtain ⟨r₁, rest₁, hcopy₁, hbytes₁⟩ := Buffer.copy_behind [] (route.target ++ [0])
    (List.nil_append req.routeResult.bytes).symm (by rw [hone, List.length_nil]; omega)
  obtain ⟨r₂, rest₂, hcopy₂, hbytes₂⟩ := Buffer.copy_behind _ (joined ++ [0]) hbytes₁ (by simp; omega)
  rw [List.nil_append, hone] at hcopy₂
  rw [List.length_nil] at hcopy₁
  have harea : r₂.bytes = route.target ++ 0 :: joined ++ 0 :: rest₂ := by simp [hbytes₂]
  refine ⟨r₂, rest₂, harea, ?_⟩
  by_cases hnil : info = []
  · refine ⟨r₂, none, ?_, ?_⟩
    · unfold injectRoute
      unfold clientQuery at hquery
      cases hq : req.queryString <;> rw [hq] at hquery <;>
        simp only [Option.bind_eq_bind, hp, Option.bind_some, hstr, hroute, hcall, hquery, hcat,
          hcopy₁, hcopy₂, if_pos hnil]
    · rw [if_pos hnil]
      exact ⟨rfl, rfl⟩
  · -- behind the target, where its NUL is
    obtain ⟨r₃, rest₃, hcopy₃, hbytes₃⟩ := Buffer.copy_behind _ (info ++ [0])
      (harea.trans (List.append_assoc _ _ _)) (by simp; omega)
    refine ⟨r₃, some (.route route.target.length), ?_, ?_⟩
    · unfold injectRoute
      unfold clientQuery at hquery
      cases hq : req.queryString <;> rw [hq] at hquery <;>
        simp only [Option.bind_eq_bind, hp, Option.bind_some, hstr, hroute, hcall, hquery, hcat,
          hcopy₁, hcopy₂, hcopy₃, if_neg hnil]
    · rw [if_neg hnil]
      exact ⟨rfl, rest₃, by simp [hbytes₃]⟩

/-- What is put into the array where all of it fits. -/
theorem injectRoute_routeFits {head : List UInt8} {req : RequestHeader} (hfits : RouteFits route uri query)
    (huri : req.uri.bind (Ptr.str head req.routeResult) = some uri)
    (hquery : clientQuery head req = some query)
    (hroute : httpRouteMatch req.vhostContext uri = some route) :
    ∃ area rest, area.bytes = route.target ++ 0 :: joinQuery (routeQuery route uri) query
        ++ 0 :: rest ∧
      ∃ area' pathInfo, injectRoute head req = some { req with
          uri := some (.route 0)
          directory := some (.route 0)
          queryString := some (.route (route.target.length + 1))
          backendType := route.fcgiType
          pathInfo := pathInfo
          routeResult := area' } ∧
        if route.type = .path ∧ remainderOf route uri ≠ [] then
          pathInfo = some (.route route.target.length) ∧
            ∃ rest', area'.bytes = route.target ++ remainderOf route uri ++ 0 :: rest'
        else pathInfo = none ∧ area' = area := by
  have hcat : strcat 256 (routeQuery route uri)
      ((if query ≠ [] ∧ routeQuery route uri ≠ [] then ascii "&" else []) ++ query)
      = some (joinQuery (routeQuery route uri) query) := by
    have hjoined := hfits.query
    rw [joinQuery, List.length_append] at hjoined
    exact strcat_eq_some_iff.mpr ⟨hjoined, rfl⟩
  have hroom : (if route.type = .path then remainderOf route uri else []).length < 128 := by
    split
    · next hpath => exact hfits.pathInfo hpath
    · decide
  obtain ⟨area, rest, harea, area', pathInfo, hrun, hlast⟩ := injectRoute_written huri hquery hroute
    (httpRouteApplyLogic_routeFits hfits) hcat hfits.target hfits.query hroom
  refine ⟨area, rest, harea, area', pathInfo, hrun, ?_⟩
  by_cases hpath : route.type = .path
  · rw [if_pos hpath] at hlast
    by_cases hnil : remainderOf route uri = []
    · rw [if_pos hnil] at hlast
      rwa [if_neg (fun h => h.2 hnil)]
    · rw [if_neg hnil] at hlast
      rwa [if_pos ⟨hpath, hnil⟩]
  · rw [if_neg hpath, if_pos rfl] at hlast
    rwa [if_neg (fun h => hpath h.1)]

theorem mem_of_mem_strtokSlash {s token : List UInt8} (h : token ∈ strtokSlash s) {b : UInt8}
    (hb : b ∈ token) : b ∈ s := by
  have hsplit := (List.mem_filter.mp h).1
  clear h
  induction s generalizing token with
  | nil =>
      obtain rfl : token = [] := by simpa using hsplit
      exact hb
  | cons c s ih =>
      rw [List.splitOn, List.splitOnP_cons_eq_if_modifyHead] at hsplit
      split at hsplit
      · rcases List.mem_cons.mp hsplit with rfl | hrest
        · exact absurd hb List.not_mem_nil
        · exact List.mem_cons_of_mem c (ih hb hrest)
      · rw [← List.splitOn] at hsplit
        cases htokens : s.splitOn 0x2F with
        | nil => simp [htokens] at hsplit
        | cons first tokens =>
            rw [htokens] at hsplit ih
            rw [List.modifyHead_cons] at hsplit
            rcases List.mem_cons.mp hsplit with rfl | hrest
            · rcases List.mem_cons.mp hb with rfl | hb
              · exact List.mem_cons_self
              · exact List.mem_cons_of_mem c (ih hb List.mem_cons_self)
            · exact List.mem_cons_of_mem c (ih hb (List.mem_cons_of_mem first hrest))

/-- The query of a route has no NUL in it. -/
theorem joinQuery_no_nul (hroute : route.NoNul) (huri : 0 ∉ uri) (hquery : 0 ∉ query) :
    0 ∉ joinQuery (routeQuery route uri) query := by
  have hpair : ∀ pair ∈ routePairs route uri, 0 ∉ pair := by
    intro pair hmem
    unfold routePairs at hmem
    split at hmem
    · obtain ⟨⟨name, token⟩, hzip, rfl⟩ := List.mem_map.mp hmem
      obtain ⟨hname, htoken⟩ := List.of_mem_zip hzip
      have hfree : 0 ∉ token := fun hzero =>
        huri (List.mem_of_mem_drop (mem_of_mem_strtokSlash htoken hzero))
      simp [hroute.varNames name hname, hfree, ascii]
    · exact absurd hmem List.not_mem_nil
  have hgenerated : 0 ∉ routeQuery route uri := by
    rw [routeQuery, intercalate_eq]
    intro hzero
    obtain ⟨pair, hmem, hzero⟩ := List.mem_flatten.mp hzero
    cases hpairs : routePairs route uri with
    | nil =>
        rw [hpairs] at hmem
        exact absurd hmem List.not_mem_nil
    | cons first pairs =>
        rw [hpairs] at hmem hpair
        rcases List.mem_cons.mp hmem with rfl | hmem
        · exact hpair _ List.mem_cons_self hzero
        · obtain ⟨s, hs, rfl⟩ := List.mem_map.mp hmem
          rcases List.mem_append.mp hzero with hsep | hzero
          · exact absurd hsep (by decide)
          · exact hpair s (List.mem_cons_of_mem _ hs) hzero
  have hamp : (0 : UInt8) ∉ ascii "&" := by decide
  unfold joinQuery
  split <;> simp [hgenerated, hquery, hamp]

/-- The query of a PATH route is the one of the client. -/
theorem joinQuery_path (h : route.type = .path) (uri query : List UInt8) :
    joinQuery (routeQuery route uri) query = query := by
  simp [joinQuery, routeQuery, routePairs, h, List.intercalate]

/-- **What the strings of a routed request are**: those of its route and its client, if and only if
no path info is put behind the target, or what is put over the query is the query. -/
theorem routeArea_iff {config : Config} {buffer head rest block : List UInt8}
    {req req' : RequestHeader} (hsplit : splitAfter blankLine (cstr buffer) = some (head, rest))
    (hreach : ReachesRoute config head req req' block uri query route) (hstrings : route.NoNul)
    (hfits : RouteFits route uri query) :
    (∃ routed, parseHead config head req = some (routed, block)) ∧
    ∀ ok parsed buffer', http1ParserParseHeader config buffer req = some (ok, parsed, buffer') →
      ok = true ∧
      (Consistent route uri query buffer' parsed ↔
        (route.type = .path → remainderOf route uri = [] ∨
          (remainderOf route uri).drop 1 = query)) := by
  have huri : 0 ∉ uri := by
    obtain ⟨p, -, hstr⟩ := Option.bind_eq_some_iff.mp hreach.uri_eq
    exact Ptr.str_no_nul hstr
  have hquery : 0 ∉ query := clientQuery_no_nul hreach.query_eq
  obtain ⟨area, more, harea, area', pathInfo, hinject, hlast⟩ :=
    injectRoute_routeFits hfits hreach.uri_eq hreach.query_eq hreach.route_eq
  have hparse : parseHead config head req = _ := parseHead_eq_readHead config head req
  simp only [hreach.read, Option.bind_some, hreach.valid, if_true, hinject, Option.map_some] at hparse
  refine ⟨⟨_, hparse⟩, fun ok parsed buffer' h => ?_⟩
  obtain ⟨rfl, hu, hq, hp, -, hr, -⟩ := http1ParserParseHeader_routed hsplit hparse h
  refine ⟨rfl, ?_⟩
  dsimp only at hu hq hp hr
  have hjoined := joinQuery_no_nul hstrings huri hquery
  have hremainder : 0 ∉ remainderOf route uri := fun hzero => huri (List.mem_of_mem_drop hzero)
  by_cases hinfo : route.type = .path ∧ remainderOf route uri ≠ []
  · rw [if_pos hinfo] at hlast
    obtain ⟨rfl, rest', hbytes⟩ := hlast
    have hbehind : area'.bytes.drop (route.target.length + 1)
        = (remainderOf route uri).drop 1 ++ 0 :: rest' := by
      obtain ⟨c, r, hcons⟩ := List.exists_cons_of_ne_nil hinfo.2
      rw [hbytes, hcons, List.append_assoc, List.cons_append, drop_append_cons rfl]
      rfl
    have hread : parsed.queryString.bind (Ptr.str buffer' parsed.routeResult)
        = some ((remainderOf route uri).drop 1) := by
      rw [hq, hr]
      exact route_str hbehind (fun hzero => hremainder (List.mem_of_mem_drop hzero)) buffer'
    constructor
    · intro hconsistent _
      have hsame := hconsistent.query
      rw [hread, joinQuery_path hinfo.1] at hsame
      exact .inr (Option.some.inj hsame)
    · intro hcond
      have hsame := (hcond hinfo.1).resolve_left hinfo.2
      constructor
      · unfold upToPathInfo
        rw [hu, hp, hr]
        have hroom : 0 + route.target.length ≤ area'.bytes.length := by
          rw [hbytes, List.length_append, List.length_append]
          omega
        have hread : readBytes area'.bytes 0 route.target.length = some route.target := by
          rw [readBytes, if_pos hroom, hbytes, List.drop_zero, List.append_assoc, List.take_left]
        have hnonneg : (0 : Int) ≤ 0 ∧ (0 : Int) ≤ route.target.length := by omega
        simpa [if_pos hnonneg] using hread
      · have hthere : area'.bytes.drop route.target.length = remainderOf route uri ++ 0 :: rest' := by
          rw [hbytes, List.append_assoc, List.drop_left]
        rw [hp, hr, if_pos hinfo, Option.map_some, route_str hthere hremainder]
      · rw [hread, joinQuery_path hinfo.1, hsame]
  · rw [if_neg hinfo] at hlast
    obtain ⟨rfl, rfl⟩ := hlast
    refine iff_of_true ?_ fun hpath => .inl (not_not.mp fun hne => hinfo ⟨hpath, hne⟩)
    constructor
    · unfold upToPathInfo
      rw [hu, hp, hr]
      exact route_str (k := 0) (by rw [List.drop_zero, harea, List.append_assoc]; rfl) hstrings.target _
    · rw [hp, if_neg hinfo]
      rfl
    · rw [hq, hr]
      have hbehind : area'.bytes.drop (route.target.length + 1)
          = joinQuery (routeQuery route uri) query ++ 0 :: more := by
        rw [harea, List.append_assoc, List.cons_append, drop_append_cons rfl]
      exact route_str hbehind hjoined buffer'

/-- A route is found for what has been read. -/
theorem ReachesRoute.of_map (config : Config) (head : List UInt8) (req : RequestHeader)
    (uri query : List UInt8) (route : RouteTable)
    (h : (readHead config head req).map (fun r => (r.1.isValid,
        r.1.uri.bind (Ptr.str r.2 r.1.routeResult), clientQuery r.2 r.1,
        httpRouteMatch r.1.vhostContext uri)) = some (true, some uri, some query, some route)) :
    ∃ req' block, ReachesRoute config head req req' block uri query route := by
  obtain ⟨⟨req', block⟩, hread, hfields⟩ := Option.map_eq_some_iff.mp h
  obtain ⟨hvalid, huri, hquery, hroute⟩ : _ ∧ _ ∧ _ ∧ _ := by simpa using hfields
  exact ⟨req', block, hread, hvalid, huri, hquery, hroute⟩

def productRoute : RouteTable := ⟨.query, ascii "/p", ascii "/product.php", .php, [ascii "id"]⟩

def infoRoute : RouteTable := ⟨.path, ascii "/info", ascii "/info.php", .py, []⟩

def shopConfig : Config := ⟨[], [], [], [], 8192, [⟨ascii "shop", [], [productRoute, infoRoute]⟩]⟩

/-- A request for a target at the shop. -/
def shopRequest (target : String) : List UInt8 :=
  ascii "GET " ++ ascii target ++ ascii " HTTP/1.1" ++ crlf ++ ascii "Host: shop" ++ blankLine

/-- A product and a query of the client: `/product.php` with `id=7&x=1`. -/
theorem routeArea_product :
    ∃ req' block, ReachesRoute shopConfig (shopRequest "/p/7?x=1") .zero req' block (ascii "/p/7")
        (ascii "x=1") productRoute ∧
      ∀ ok parsed buffer', http1ParserParseHeader shopConfig (shopRequest "/p/7?x=1") .zero
          = some (ok, parsed, buffer') →
        Consistent productRoute (ascii "/p/7") (ascii "x=1") buffer' parsed := by
  have hsplit : splitAfter blankLine (cstr (shopRequest "/p/7?x=1"))
      = some (shopRequest "/p/7?x=1", []) := by decide +kernel
  have hnames : productRoute.NoNul := ⟨by decide, by decide⟩
  have hfits : RouteFits productRoute (ascii "/p/7") (ascii "x=1") := by
    constructor <;> decide
  obtain ⟨req', block, hreach⟩ := ReachesRoute.of_map shopConfig (shopRequest "/p/7?x=1") .zero
    (ascii "/p/7") (ascii "x=1") productRoute (by decide +kernel)
  obtain ⟨-, harea⟩ := routeArea_iff hsplit hreach hnames hfits
  refine ⟨req', block, hreach, fun ok parsed buffer' h => ?_⟩
  exact (harea ok parsed buffer' h).2.mpr (fun hpath => by cases hpath)

/-- A PATH route and a query of the client, `x=1`: the query that is passed on is `user/1`. -/
theorem query_overwritten :
    ∃ req' block parsed buffer', ReachesRoute shopConfig (shopRequest "/info/user/1?x=1") .zero req'
        block (ascii "/info/user/1") (ascii "x=1") infoRoute ∧
      RouteFits infoRoute (ascii "/info/user/1") (ascii "x=1") ∧
      http1ParserParseHeader shopConfig (shopRequest "/info/user/1?x=1") .zero
        = some (true, parsed, buffer') ∧
      parsed.queryString.bind (Ptr.str buffer' parsed.routeResult) = some (ascii "user/1") ∧
      ¬ Consistent infoRoute (ascii "/info/user/1") (ascii "x=1") buffer' parsed := by
  have hfits : RouteFits infoRoute (ascii "/info/user/1") (ascii "x=1") := by
    constructor <;> decide
  obtain ⟨req', block, hreach⟩ := ReachesRoute.of_map shopConfig (shopRequest "/info/user/1?x=1")
    .zero (ascii "/info/user/1") (ascii "x=1") infoRoute (by decide +kernel)
  have hrun : (http1ParserParseHeader shopConfig (shopRequest "/info/user/1?x=1") .zero).map
      (fun r => (r.1, r.2.1.queryString.bind (Ptr.str r.2.2 r.2.1.routeResult)))
        = some (true, some (ascii "user/1")) := by decide +kernel
  obtain ⟨⟨ok, parsed, buffer'⟩, hparse, hfields⟩ := Option.map_eq_some_iff.mp hrun
  obtain ⟨rfl, hquery⟩ : ok = true ∧ _ := by simpa using hfields
  refine ⟨req', block, parsed, buffer', hreach, hfits, hparse, hquery, fun hconsistent => ?_⟩
  have hclient := hconsistent.query
  rw [hquery] at hclient
  exact absurd hclient (by decide)

end Halmos.Http1
