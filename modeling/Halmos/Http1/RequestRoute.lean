import Halmos.Http.ContentLength
import Halmos.Http.Destination

set_option autoImplicit false

/-! # The route of a request over HTTP/1.1

What `http1_parser_parse_header` makes of a request with any target and any lines behind its request
line: the default page for the path `/`, the virtual host of the last `Host` line, and the strings
that the route leaves in `route_result`.
-/

namespace Halmos.Http1

open Http (Destination Parts httpRouteApplyLogicIn httpRouteApplyLogicIn_eq_some_iff
  generatedQuery generatedInfo generatedQuery_no_nul)
open RequestText (fieldLines)

/-! ## The texts -/

namespace RoutedText

variable (t : RoutedText)

theorem parts : Parts t.path t.query where
  path_no_nul := t.path_word.1.zero_notMem
  path_no_mark := t.path_no_query
  query_no_nul q hq := (t.query_word q hq).1.zero_notMem

/-- The request line and the lines behind it. -/
def toRequestLines : RequestLines where
  requestLine := t.requestLine
  lines := t.lines
  requestLine_line := t.method_word.1.append
    (.cons (by decide) (t.target_word.1.append (.cons (by decide) t.version_word.1)))
  requestLine_ne := by simp [requestLine]

def head : List UInt8 := t.toRequestLines.head

end RoutedText

/-- The path info that is read. -/
def RequestHeader.info (block : List UInt8) (req : RequestHeader) : Option (List UInt8) :=
  match req.pathInfo with
  | none => some []
  | some p => p.str block req.routeResult

/-- The strings that are read from a routed request. -/
def RequestHeader.destination (block : List UInt8) (req : RequestHeader) : Option Destination := do
  let uri ← req.uri.bind (Ptr.str block req.routeResult)
  let query ← clientQuery block req
  let info ← req.info block
  some ⟨uri, query, info, req.backendType⟩

/-! ## The strings -/

/-- The default page, which is routed in place of `/` if it fits `route_result`. -/
def defaultUri (config : Config) : List UInt8 :=
  let page := ascii "/" ++ if config.defaultPage = [] then ascii "index.html" else config.defaultPage
  if page.length < 512 then page else ascii "/"

/-- The path that is routed. -/
def indexPath (config : Config) (path : List UInt8) : List UInt8 :=
  if path = ascii "/" then defaultUri config else path

/-- Where the path info begins: at the first slash behind the last dot. -/
def dotPathInfo (path : List UInt8) : Option Nat := do
  let lastDot ← strrchr path 0x2E
  let slash ← (path.drop lastDot).idxOf? 0x2F
  some (lastDot + slash)

/-- The path info of a path that no route matches. -/
def pathInfoText (path : List UInt8) : List UInt8 :=
  match dotPathInfo path with
  | none => []
  | some off => path.drop off

/-- What a route makes of a URI and a query: a path info stands behind the target, over the query. -/
def appliedDestination (uri query : List UInt8) (route : RouteTable) : Option Destination := do
  let (target, generated, info) ← httpRouteApplyLogicIn 128 128 route uri
  let sep := if query ≠ [] ∧ generated ≠ [] then ascii "&" else []
  let joined ← strcat 256 generated (sep ++ query)
  if info = [] then some ⟨target, joined, [], route.fcgiType⟩
  else some ⟨target ++ info, info.drop 1, info, route.fcgiType⟩

/-- What `http1_parser_parse_header` makes of a path and a query for a virtual host. -/
def routedDestination (config : Config) (vh : Option VHostEntry) (path : List UInt8)
    (query : Option (List UInt8)) : Option Destination :=
  let uri := indexPath config path
  match httpRouteMatch vh uri with
  | none => some ⟨uri, query.getD [], pathInfoText path, .php⟩
  | some route => appliedDestination uri (query.getD []) route

/-! ## The request line -/

namespace RoutedText

variable (t : RoutedText)

/-- What is read of a request whose line has been read, and whatever is behind the line. -/
structure Read (config : Config) (block : List UInt8) (req : RequestHeader) : Prop where
  uri : ∀ rest, req.uri.bind (Ptr.str (block ++ rest) req.routeResult)
    = some (indexPath config t.path)
  query : ∀ rest, clientQuery (block ++ rest) req = some (t.query.getD [])
  info : ∀ rest, req.info (block ++ rest) = some (pathInfoText t.path)
  valid : req.isValid = true

theorem str_of_points {block s : List UInt8} {off : Nat} (h : Points block off s)
    (routeResult : Buffer 512) : Ptr.str block routeResult (.buffer off) = some s := by
  rw [Ptr.str, if_pos h.le_length, h.strAt]

theorem points_path (rest : List UInt8) :
    Points (t.cutLine ++ rest) (t.method.length + 1) t.path :=
  ⟨t.method ++ [0x20], t.cutQuery ++ t.version ++ rest, by simp [cutLine], by simp,
    t.path_word.1.zero_notMem⟩

theorem points_query {q : List UInt8} (hq : t.query = some q) (rest : List UInt8) :
    Points (t.cutLine ++ rest) (t.method.length + 1 + t.path.length + 1) q := by
  refine ⟨t.method ++ 0x20 :: (t.path ++ [0]), t.version ++ rest, ?_, ?_,
    (t.query_word q hq).1.zero_notMem⟩
  · simp [cutLine, cutQuery, hq]
  · simp
    omega

theorem pathInfoOf_eq (uStart : Nat) (path : List UInt8) :
    pathInfoOf uStart path = (dotPathInfo path).map fun off => .buffer (uStart + off) := by
  unfold pathInfoOf dotPathInfo
  cases strrchr path 0x2E with
  | none => rfl
  | some lastDot =>
      simp only [Option.bind_eq_bind, Option.bind_some]
      cases (path.drop lastDot).idxOf? 0x2F with
      | none => rfl
      | some slash => simp [Nat.add_assoc]

theorem dotPathInfo_le {path : List UInt8} {off : Nat} (h : dotPathInfo path = some off) :
    off < path.length := by
  obtain ⟨lastDot, -, h⟩ := Option.bind_eq_some_iff.mp h
  obtain ⟨slash, hslash, h⟩ := Option.bind_eq_some_iff.mp h
  obtain rfl := Option.some.inj h
  have hlt := (List.idxOf?_eq_some_iff.mp hslash).1
  rw [List.length_drop] at hlt
  omega

theorem points_info {off : Nat} (h : dotPathInfo t.path = some off) (rest : List UInt8) :
    Points (t.cutLine ++ rest) (t.method.length + 1 + off) (t.path.drop off) := by
  have hle := (dotPathInfo_le h).le
  refine ⟨t.method ++ 0x20 :: t.path.take off, t.cutQuery ++ t.version ++ rest, ?_, ?_,
    fun hmem => t.path_word.1.zero_notMem (List.mem_of_mem_drop hmem)⟩
  · have hsplit : t.path.take off ++ (t.path.drop off ++ 0 :: (t.cutQuery ++ t.version ++ rest))
        = t.path ++ 0 :: (t.cutQuery ++ t.version ++ rest) := by
      rw [← List.append_assoc, List.take_append_drop]
    simpa [cutLine] using hsplit.symm
  · simp
    omega

/-- The default page is in `route_result`, or the URI is left alone. -/
theorem defaultPage_eq {config : Config} (hconfig : 0 ∉ config.defaultPage) (req : RequestHeader) :
    ∃ routeResult uri directory, defaultPage config req = some { req with
        routeResult := routeResult, uri := uri, directory := directory } ∧
      (uri = req.uri ∧ defaultUri config = ascii "/" ∨
        ∀ block, uri.bind (Ptr.str block routeResult) = some (defaultUri config)) := by
  have hno : 0 ∉ ascii "/" ++
      if config.defaultPage = [] then ascii "index.html" else config.defaultPage := by
    split
    · decide
    · simp [hconfig, ascii]
  unfold defaultPage defaultUri
  dsimp only
  generalize ascii "/" ++ (if config.defaultPage = [] then ascii "index.html" else config.defaultPage)
    = page at hno ⊢
  obtain ⟨routeResult, hprint, hstr⟩ := req.routeResult.snprintf_str page (by decide)
  rw [hprint, Option.bind_eq_bind, Option.bind_some]
  by_cases hroom : page.length < 512
  · rw [if_pos hroom, if_pos hroom]
    refine ⟨routeResult, _, _, rfl, .inr fun block => ?_⟩
    rw [List.take_of_length_le (by omega), cstr_of_notMem hno] at hstr
    obtain ⟨rest, hbytes⟩ := Buffer.bytes_of_str hstr
    exact route_str (k := 0) hbytes hno block
  · rw [if_neg hroom, if_neg hroom]
    exact ⟨routeResult, _, _, rfl, .inl ⟨rfl, rfl⟩⟩

theorem clientQuery_lineFields (req : RequestHeader) {req' : RequestHeader}
    (h : req'.queryString = (t.lineFields req).queryString) (rest : List UInt8) :
    clientQuery (t.cutLine ++ rest) req' = some (t.query.getD []) := by
  unfold clientQuery
  rw [h]
  cases hq : t.query with
  | none => simp [lineFields, hq]
  | some q => simp [lineFields, hq, str_of_points (t.points_query hq rest)]

theorem info_lineFields {req : RequestHeader}
    (h : req.pathInfo = pathInfoOf (t.method.length + 1) t.path) (rest : List UInt8) :
    req.info (t.cutLine ++ rest) = some (pathInfoText t.path) := by
  unfold RequestHeader.info pathInfoText
  rw [h, pathInfoOf_eq]
  cases hoff : dotPathInfo t.path with
  | none => rfl
  | some off => exact str_of_points (t.points_info hoff rest) req.routeResult

/-- The request line is read. -/
theorem parseRequestLine_read {config : Config} (hconfig : 0 ∉ config.defaultPage)
    (req : RequestHeader) (rest : List UInt8) :
    ∃ req', parseRequestLine config (t.requestLine ++ rest) t.requestLine.length req
        = some (req', t.cutLine ++ rest) ∧ t.Read config t.cutLine req' ∧
      req'.vhostContext = req.vhostContext := by
  rw [t.parseRequestLine_routed config req rest]
  by_cases hroot : t.path = ascii "/"
  · obtain ⟨routeResult, uri, directory, hpage, huri⟩ := defaultPage_eq hconfig (t.lineFields req)
    have hno : pathInfoOf (t.method.length + 1) t.path = none := by
      rw [pathInfoOf_eq, hroot]
      rfl
    rw [if_pos hroot, hpage, Option.map_some, hno]
    refine ⟨_, rfl, ⟨fun rest => ?_, ?_, ?_, rfl⟩, rfl⟩
    · rw [indexPath, if_pos hroot]
      rcases huri with ⟨rfl, hlong⟩ | hstr
      · rw [hlong, ← hroot]
        exact str_of_points (t.points_path rest) routeResult
      · exact hstr _
    · exact t.clientQuery_lineFields req rfl
    · exact t.info_lineFields hno.symm
  · rw [if_neg hroot, Option.map_some]
    have huri : ∀ rest, (some (Ptr.buffer (t.method.length + 1))).bind
        (Ptr.str (t.cutLine ++ rest) req.routeResult) = some (indexPath config t.path) := by
      intro rest
      rw [indexPath, if_neg hroot]
      exact str_of_points (t.points_path rest) req.routeResult
    cases hinfo : pathInfoOf (t.method.length + 1) t.path with
    | none =>
        exact ⟨_, rfl, ⟨huri, t.clientQuery_lineFields req rfl, t.info_lineFields hinfo.symm, rfl⟩,
          rfl⟩
    | some p =>
        exact ⟨_, rfl, ⟨huri, t.clientQuery_lineFields req rfl, t.info_lineFields hinfo.symm, rfl⟩,
          rfl⟩

/-! ## The lines -/

/-- The virtual host after a line. -/
theorem parseField_vhost (config : Config) (key head : List UInt8) (val : Nat)
    (req : RequestHeader) : (parseField config key head val req).vhostContext
      = if strcasecmpEq key (ascii "Host") then httpVhostGetContext config (strAt head val)
        else req.vhostContext := by
  apply parseField_induction (P := fun r => r.vhostContext
    = if strcasecmpEq key (ascii "Host") then httpVhostGetContext config (strAt head val)
      else req.vhostContext)
  case hhost => exact fun h => (if_pos h).symm
  case hother => exact fun h _ _ _ _ => (if_neg h).symm
  case hupgrade => exact fun h _ => (if_neg (not_strcasecmpEq h (by decide))).symm
  case hconnection => exact fun h _ => (if_neg (not_strcasecmpEq h (by decide))).symm
  all_goals exact fun h => (if_neg (not_strcasecmpEq h (by decide))).symm

/-- The fields of the route are left alone by the lines. -/
theorem parseField_route (config : Config) (key head : List UInt8) (val : Nat)
    (req : RequestHeader) :
    (parseField config key head val req).uri = req.uri ∧
    (parseField config key head val req).queryString = req.queryString ∧
    (parseField config key head val req).pathInfo = req.pathInfo ∧
    (parseField config key head val req).routeResult = req.routeResult ∧
    (parseField config key head val req).isValid = req.isValid := by
  apply parseField_induction (P := fun r => r.uri = req.uri ∧ r.queryString = req.queryString ∧
    r.pathInfo = req.pathInfo ∧ r.routeResult = req.routeResult ∧ r.isValid = req.isValid)
  case hother => exact fun _ _ _ _ _ => ⟨rfl, rfl, rfl, rfl, rfl⟩
  case hupgrade => exact fun _ _ => ⟨rfl, rfl, rfl, rfl, rfl⟩
  case hconnection => exact fun _ _ => ⟨rfl, rfl, rfl, rfl, rfl⟩
  all_goals exact fun _ => ⟨rfl, rfl, rfl, rfl, rfl⟩

theorem Read.next {t : RoutedText} {config : Config} {block : List UInt8} {req : RequestHeader}
    (h : t.Read config block req) (more : List UInt8) (key head : List UInt8) (val : Nat) :
    t.Read config (block ++ more) (parseField config key head val req) := by
  obtain ⟨huri, hquery, hinfo, hresult, hvalid⟩ := parseField_route config key head val req
  constructor
  · intro rest
    rw [huri, hresult, List.append_assoc]
    exact h.uri _
  · intro rest
    rw [clientQuery, hquery, hresult, List.append_assoc]
    exact h.query _
  · intro rest
    rw [RequestHeader.info, hinfo, hresult, List.append_assoc]
    exact h.info _
  · rw [hvalid, h.valid]

/-- All the lines are read, and the last `Host` line counts. -/
theorem parseLines_read {config : Config} (lines : List HeaderLine) {headerEnd : Nat}
    {block : List UInt8} {req : RequestHeader} (h : t.Read config block req)
    (hend : block.length + (fieldLines lines).length = headerEnd + 2) (fuel : Nat)
    (hfuel : (fieldLines lines).length ≤ fuel) :
    ∃ req' block', parseLines config headerEnd fuel block.length req
        (block ++ (fieldLines lines ++ crlf)) = (req', block') ∧ t.Read config block' req' ∧
      req'.vhostContext = ((lastValue (ascii "Host") lines).map (httpVhostGetContext config)).getD
        req.vhostContext := by
  induction lines generalizing block fuel req with
  | nil =>
      have hread : t.Read config (block ++ crlf) req :=
        ⟨fun rest => by rw [List.append_assoc]; exact h.uri _,
          fun rest => by rw [List.append_assoc]; exact h.query _,
          fun rest => by rw [List.append_assoc]; exact h.info _, h.valid⟩
      cases fuel with
      | zero => exact ⟨req, block ++ crlf, rfl, hread, rfl⟩
      | succ fuel =>
          have hle : headerEnd ≤ block.length := by
            simp [fieldLines] at hend
            omega
          exact ⟨req, block ++ crlf, by rw [parseLines, if_pos hle]; rfl, hread, rfl⟩
  | cons l lines ih =>
      have hlines := congrArg List.length (fieldLines_cons l lines [])
      have hcrlf : crlf.length = 2 := rfl
      simp only [List.append_nil, List.length_append] at hlines
      have hpos : 0 < l.text.length := List.length_pos_iff.mpr l.text_ne_nil
      obtain ⟨cut, val, hlen, hpoints, hround⟩ := parseLines_round config req
        (show block.length + l.text.length ≤ headerEnd by omega)
        (show 0 < fuel by omega) (fieldLines lines ++ crlf)
      have hend' : (block ++ cut).length + (fieldLines lines).length = headerEnd + 2 := by
        rw [List.length_append]
        omega
      obtain ⟨req', block', hrun, hread, hvhost⟩ :=
        ih (h.next cut l.name (block ++ cut ++ (fieldLines lines ++ crlf)) val) hend' (fuel - 1)
          (by omega)
      refine ⟨req', block', by rw [fieldLines_cons, hround, hrun], hread, ?_⟩
      rw [hvhost, parseField_vhost, (hpoints.append _).strAt, lastValue_cons]
      cases lastValue (ascii "Host") lines with
      | some value => rfl
      | none =>
          rw [Option.none_or]
          split <;> rfl

end RoutedText

/-! ## The route -/

section Inject

variable {block uri query : List UInt8} {req : RequestHeader} {route : RouteTable}

/-- No route matches. -/
theorem injectRoute_unrouted (huri : req.uri.bind (Ptr.str block req.routeResult) = some uri)
    (hroute : httpRouteMatch req.vhostContext uri = none) :
    injectRoute block req = some { req with backendType := .php } := by
  obtain ⟨p, hp, hstr⟩ := Option.bind_eq_some_iff.mp huri
  unfold injectRoute
  simp only [hp, hstr, hroute, Option.bind_eq_bind, Option.bind_some]

/-- A route that does not fit one of the arrays. -/
theorem injectRoute_overflow (huri : req.uri.bind (Ptr.str block req.routeResult) = some uri)
    (hquery : clientQuery block req = some query)
    (hroute : httpRouteMatch req.vhostContext uri = some route)
    (h : appliedDestination uri query route = none) : injectRoute block req = none := by
  by_contra hne
  obtain ⟨req', hrun⟩ := Option.ne_none_iff_exists'.mp hne
  obtain ⟨p, uri', hp, hstr, ⟨hno, -⟩ | ⟨route', hroute', hrouted⟩⟩ := injectRoute_eq_some hrun
  · rw [hp, Option.bind_some, hstr] at huri
    obtain rfl := Option.some.inj huri
    rw [hroute] at hno
    cases hno
  · rw [hp, Option.bind_some, hstr] at huri
    obtain rfl := Option.some.inj huri
    obtain rfl := Option.some.inj (hroute.symm.trans hroute')
    obtain ⟨tUri, tQuery, tPath, query', tQuery', r₁, r₂, hcall, hclient, hcat, -⟩ := hrouted
    obtain rfl := Option.some.inj (hquery.symm.trans hclient)
    rw [Http.httpRouteApplyLogic_eq] at hcall
    unfold appliedDestination at h
    simp only [hcall, hcat, Option.bind_eq_bind, Option.bind_some] at h
    split at h <;> cases h

/-- A route that fits leaves its strings. -/
theorem injectRoute_destination (huri : req.uri.bind (Ptr.str block req.routeResult) = some uri)
    (hquery : clientQuery block req = some query)
    (hroute : httpRouteMatch req.vhostContext uri = some route) (hnames : route.NoNul) :
    (injectRoute block req).bind (RequestHeader.destination block)
      = appliedDestination uri query route := by
  have hno : 0 ∉ uri := by
    obtain ⟨p, -, hstr⟩ := Option.bind_eq_some_iff.mp huri
    exact Ptr.str_no_nul hstr
  have hquery_no := clientQuery_no_nul hquery
  cases happly : appliedDestination uri query route with
  | none => rw [injectRoute_overflow huri hquery hroute happly, Option.bind_none]
  | some d =>
      unfold appliedDestination at happly
      obtain ⟨strings, hcall, happly⟩ := Option.bind_eq_some_iff.mp happly
      obtain ⟨hfits, rfl⟩ := (httpRouteApplyLogicIn_eq_some_iff (by decide) route uri _).mp hcall
      obtain ⟨joined, hcat, happly⟩ := Option.bind_eq_some_iff.mp happly
      have hjoined : joined.length < 256 ∧ 0 ∉ joined := by
        obtain ⟨hroom, rfl⟩ := strcat_eq_some_iff.mp hcat
        have hgen := generatedQuery_no_nul hnames hno
        have hamp : (0 : UInt8) ∉ ascii "&" := by decide
        refine ⟨by rwa [List.length_append], ?_⟩
        split <;> simp [hgen, hquery_no, hamp]
      rw [← Http.httpRouteApplyLogic_eq] at hcall
      obtain ⟨area, rest, harea, area', pathInfo, hrun, hlast⟩ := injectRoute_written huri hquery hroute
        hcall hcat hfits.target hjoined.1 hfits.pathInfo
      rw [hrun, Option.bind_some]
      by_cases hnil : generatedInfo route uri = []
      · rw [if_pos hnil] at hlast happly
        obtain ⟨rfl, rfl⟩ := hlast
        rw [List.append_assoc, List.cons_append] at harea
        have hfirst : Ptr.str block area' (.route 0) = some route.target :=
          route_str (k := 0) harea hnames.target block
        have hsecond : Ptr.str block area' (.route (route.target.length + 1)) = some joined := by
          have hdrop : area'.bytes.drop (route.target.length + 1) = joined ++ 0 :: rest := by
            rw [harea, drop_append_cons rfl]
          exact route_str hdrop hjoined.2 block
        rw [← happly]
        simp [RequestHeader.destination, clientQuery, RequestHeader.info, hfirst, hsecond]
      · -- the path info is in the place of the query
        rw [if_neg hnil] at hlast happly
        obtain ⟨rfl, rest', hbytes⟩ := hlast
        have hfree : 0 ∉ generatedInfo route uri := by
          unfold generatedInfo
          split
          · exact fun hmem => hno (List.mem_of_mem_drop hmem)
          · exact List.not_mem_nil
        have hfirst : Ptr.str block area' (.route 0)
            = some (route.target ++ generatedInfo route uri) :=
          route_str (k := 0) hbytes (by simp [hnames.target, hfree]) block
        have hthird : Ptr.str block area' (.route route.target.length)
            = some (generatedInfo route uri) := by
          have hdrop : area'.bytes.drop route.target.length
              = generatedInfo route uri ++ 0 :: rest' := by
            rw [hbytes, List.append_assoc, List.drop_left]
          exact route_str hdrop hfree block
        have hsecond : Ptr.str block area' (.route (route.target.length + 1))
            = some ((generatedInfo route uri).drop 1) := by
          obtain ⟨c, info, hcons⟩ := List.exists_cons_of_ne_nil hnil
          have hdrop : area'.bytes.drop (route.target.length + 1)
              = (generatedInfo route uri).drop 1 ++ 0 :: rest' := by
            rw [hbytes, hcons, List.append_assoc, List.cons_append, drop_append_cons rfl]
            rfl
          exact route_str hdrop (fun hmem => hfree (List.mem_of_mem_drop hmem)) block
        rw [← happly]
        simp [RequestHeader.destination, clientQuery, RequestHeader.info, hfirst, hsecond, hthird]

end Inject

/-- **The routing**: what is read of a parsed request is what the strings of the target, the last host
and the route say. -/
theorem RoutedText.parseHead_destination {config : Config} (hconfig : config.NoNul)
    (t : RoutedText) :
    (parseHead config t.head .zero).bind (fun r => r.1.destination r.2)
      = routedDestination config ((lastValue (ascii "Host") t.lines).bind (httpVhostGetContext config))
        t.path t.query := by
  obtain ⟨req₁, hline, hread₁, hvhost₁⟩ := t.parseRequestLine_read hconfig.defaultPage
    { RequestHeader.zero with vhostContext := none, isKeepAlive := true }
    (crlf ++ (fieldLines t.lines ++ crlf))
  have hcrlf : crlf.length = 2 := rfl
  have hread : t.Read config (t.cutLine ++ crlf) req₁ :=
    ⟨fun rest => by rw [List.append_assoc]; exact hread₁.uri _,
      fun rest => by rw [List.append_assoc]; exact hread₁.query _,
      fun rest => by rw [List.append_assoc]; exact hread₁.info _, hread₁.valid⟩
  have hhead : t.head = t.requestLine ++ (crlf ++ (fieldLines t.lines ++ crlf)) := rfl
  have hlen : t.head.length = t.cutLine.length + 2 + (fieldLines t.lines).length + 2 := by
    rw [hhead, t.length_cutLine]
    simp [hcrlf]
    omega
  have hend : (t.cutLine ++ crlf).length + (fieldLines t.lines).length = t.head.length - 4 + 2 := by
    rw [List.length_append]
    omega
  obtain ⟨req₂, block, hlines, hread₂, hvhost₂⟩ :=
    t.parseLines_read t.lines hread hend t.head.length (by omega)
  have hfound : strstr crlf (t.requestLine ++ (crlf ++ (fieldLines t.lines ++ crlf)))
      = some (t.requestLine, crlf ++ (fieldLines t.lines ++ crlf)) :=
    strstr_crlf t.toRequestLines.requestLine_line (fieldLines t.lines ++ crlf)
  have hnext : (t.cutLine ++ crlf).length = t.requestLine.length + 2 := by
    rw [List.length_append, t.length_cutLine, hcrlf]
  have hcut : (t.cutLine ++ (crlf ++ (fieldLines t.lines ++ crlf))).length = t.head.length := by
    rw [hlen]
    simp [hcrlf]
    omega
  have hvhost : req₂.vhostContext
      = (lastValue (ascii "Host") t.lines).bind (httpVhostGetContext config) := by
    rw [hvhost₂, hvhost₁]
    cases lastValue (ascii "Host") t.lines <;> rfl
  have huri := hread₂.uri []
  have hquery := hread₂.query []
  have hinfo := hread₂.info []
  rw [List.append_nil] at huri hquery hinfo
  rw [← hvhost]
  rw [List.append_assoc, hnext] at hlines
  have hall : readHead config t.head .zero = some (req₂, block) := by
    unfold readHead
    rw [hhead] at hlines ⊢
    rw [hfound, Option.bind_eq_bind, Option.bind_some]
    dsimp only
    rw [hline, Option.bind_eq_bind, Option.bind_some]
    dsimp only
    rw [hcut, hhead]
    exact congrArg some hlines
  rw [parseHead_eq_readHead, hall, Option.bind_some, if_pos hread₂.valid]
  unfold routedDestination
  dsimp only
  cases hroute : httpRouteMatch req₂.vhostContext (indexPath config t.path) with
  | none =>
      rw [injectRoute_unrouted huri hroute]
      unfold clientQuery at hquery
      unfold RequestHeader.info at hinfo
      simp [RequestHeader.destination, clientQuery, RequestHeader.info, huri, hquery, hinfo]
  | some route =>
      have hnames : route.NoNul := by
        rw [hvhost] at hroute
        cases hhost : lastValue (ascii "Host") t.lines with
        | none =>
            rw [hhost] at hroute
            cases hroute
        | some host =>
            rw [hhost] at hroute
            exact hconfig.of_match hroute
      dsimp only
      rw [← injectRoute_destination huri hquery hroute hnames]
      cases injectRoute block req₂ <;> rfl

end Halmos.Http1
