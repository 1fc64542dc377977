import Halmos.Fcgi.Application
import Halmos.Http1.RequestRoute

set_option autoImplicit false

/-! # From a client to an application

A request over HTTP/1.1 that is handed to a backend: the parser lets the fields of the request point
into the block and into `route_result`, `fcgi_proto_build_params` reads what they point to, and the
session sends it. An application at the other end reads the method and the lines as the client wrote
them, the target as the route has left it, and the body (`application_told`).
-/

namespace Halmos.Http1

open Http (Destination)
open RequestText (fieldLines)
open Fcgi (Application CgiConfig CgiRequest SessionExchange SessionInput paramCalls sentPairs
  requestParams)

/-! ## What is read of a request -/

/-- The fields that `fcgi_proto_build_params` reads, with the address of the client; `none` is a
pointer that leads nowhere. -/
def RequestHeader.cgi (clientIp : List UInt8) (isTls : Bool) (block : List UInt8)
    (req : RequestHeader) : Option CgiRequest := do
  let uri ← req.uri.mapM (Ptr.str block req.routeResult)
  let host ← req.host.mapM (Ptr.str block req.routeResult)
  let queryString ← req.queryString.mapM (Ptr.str block req.routeResult)
  let pathInfo ← req.pathInfo.mapM (Ptr.str block req.routeResult)
  let contentType ← req.contentType.mapM (Ptr.str block req.routeResult)
  let cookieData ← req.cookieData.mapM (Ptr.str block req.routeResult)
  some
    { clientIp := clientIp
      method := req.method
      uri := uri
      host := host
      queryString := queryString
      pathInfo := pathInfo
      contentType := contentType
      cookieData := cookieData
      isTls := isTls }

/-- A request that says what the client has written, with the target `d`. -/
structure RoutedText.Says (t : RoutedText) (d : Destination) (r : CgiRequest) : Prop where
  method : r.method = t.method
  uri : r.uri = some d.uri
  query : r.queryString.getD [] = d.queryString
  info : r.pathInfo.getD [] = d.pathInfo
  host : r.host = lastValue (ascii "Host") t.lines
  contentType : r.contentType = lastValue (ascii "Content-Type") t.lines
  cookie : r.cookieData = lastValue (ascii "Cookie") t.lines

/-! ## The fields of the lines -/

namespace RoutedText

variable (t : RoutedText)

/-- What has been read of the lines. -/
structure Fields (block : List UInt8) (lines : List HeaderLine) (req : RequestHeader) : Prop where
  method : req.method = t.method
  host : Shows block req.host (lastValue (ascii "Host") lines)
  contentType : Shows block req.contentType (lastValue (ascii "Content-Type") lines)
  cookie : Shows block req.cookieData (lastValue (ascii "Cookie") lines)

variable {t} {config : Config} {block : List UInt8} {lines : List HeaderLine} {req : RequestHeader}

theorem Fields.append (h : t.Fields block lines req) (rest : List UInt8) :
    t.Fields (block ++ rest) lines req :=
  ⟨h.method, h.host.append rest, h.contentType.append rest, h.cookie.append rest⟩

/-- Another line. -/
theorem Fields.next (h : t.Fields block lines req) {l : HeaderLine} {more : List UInt8} {val : Nat}
    (hval : Points (block ++ more) val (trim l.value)) (rest : List UInt8) :
    t.Fields (block ++ more) (lines ++ [l])
      (parseField config l.name (block ++ more ++ rest) val req) := by
  constructor
  · rw [(parseField_requestLine config l.name _ val req).1, h.method]
  · rw [parseField_host, lastValue_snoc]
    exact shows_ite _ (h.host.append more) hval
  · rw [parseField_contentType, lastValue_snoc]
    exact shows_ite _ (h.contentType.append more) hval
  · rw [parseField_cookieData, lastValue_snoc]
    exact shows_ite _ (h.cookie.append more) hval

/-- All lines behind the ones that have been read. -/
theorem parseLines_fields (more : List HeaderLine) {headerEnd : Nat} (h : t.Fields block lines req)
    (hend : block.length + (fieldLines more).length = headerEnd + 2) (fuel : Nat)
    (hfuel : (fieldLines more).length ≤ fuel) {req' : RequestHeader} {block' : List UInt8}
    (hrun : parseLines config headerEnd fuel block.length req (block ++ (fieldLines more ++ crlf))
      = (req', block')) :
    t.Fields block' (lines ++ more) req' := by
  induction more generalizing block lines req fuel with
  | nil =>
      have hstop : parseLines config headerEnd fuel block.length req (block ++ crlf)
          = (req, block ++ crlf) := by
        cases fuel with
        | zero => rfl
        | succ fuel =>
            have hle : headerEnd ≤ block.length := by
              simp [fieldLines] at hend
              omega
            rw [parseLines, if_pos hle]
      cases hstop.symm.trans hrun
      rw [List.append_nil]
      exact h.append crlf
  | cons l more ih =>
      have hlines := congrArg List.length (fieldLines_cons l more [])
      have hpos : 0 < l.text.length := List.length_pos_iff.mpr l.text_ne_nil
      have hcrlf : crlf.length = 2 := rfl
      simp only [List.append_nil, List.length_append] at hlines
      obtain ⟨cut, val, hlen, hpoints, hround⟩ := parseLines_round config req
        (show block.length + l.text.length ≤ headerEnd by omega) (show 0 < fuel by omega)
        (fieldLines more ++ crlf)
      have hend' : (block ++ cut).length + (fieldLines more).length = headerEnd + 2 := by
        rw [List.length_append]
        omega
      rw [fieldLines_cons, hround] at hrun
      have hall := ih (h.next hpoints (fieldLines more ++ crlf)) hend' (fuel - 1) (by omega) hrun
      simpa using hall

/-- The request line leaves the fields of the lines empty. -/
theorem parseRequestLine_fields (t : RoutedText) (hconfig : 0 ∉ config.defaultPage)
    (block : List UInt8)
    (hhost : req.host = none) (htype : req.contentType = none) (hcookie : req.cookieData = none)
    {rest : List UInt8} {req' : RequestHeader} {block' : List UInt8}
    (hrun : parseRequestLine config (t.requestLine ++ rest) t.requestLine.length req
      = some (req', block')) :
    block' = t.cutLine ++ rest ∧ t.Fields block [] req' := by
  rw [t.parseRequestLine_routed config req rest] at hrun
  obtain ⟨r, hr, hpair⟩ := Option.map_eq_some_iff.mp hrun
  obtain ⟨hreq, hblock⟩ := Prod.mk.inj hpair
  have hkept : r.method = t.method ∧ r.host = none ∧ r.contentType = none ∧
      r.cookieData = none := by
    split at hr
    · obtain ⟨routeResult, uri, directory, hpage, -⟩ := defaultPage_eq hconfig (t.lineFields req)
      rw [hpage] at hr
      cases hr
      exact ⟨rfl, hhost, htype, hcookie⟩
    · cases hr
      exact ⟨rfl, hhost, htype, hcookie⟩
  obtain ⟨hmethod, hhost', htype', hcookie'⟩ := hkept
  refine ⟨hblock.symm, ?_⟩
  rw [← hreq]
  -- a path info moves pointers of the path alone
  cases pathInfoOf (t.method.length + 1) t.path <;> exact ⟨hmethod, hhost', htype', hcookie'⟩

/-- The route leaves them alone. -/
theorem Fields.route (h : t.Fields block lines req) {req' : RequestHeader}
    (hrun : injectRoute block req = some req') : t.Fields block lines req' := by
  obtain ⟨p, uri, -, -, ⟨-, rfl⟩ | ⟨route, -, hrouted⟩⟩ := injectRoute_eq_some hrun
  · exact ⟨h.method, h.host, h.contentType, h.cookie⟩
  · obtain ⟨tUri, tQuery, tPath, query, tQuery', r₁, r₂, -, -, -, -, -, r₃, pathInfo, rfl, -⟩ :=
      hrouted
    exact ⟨h.method, h.host, h.contentType, h.cookie⟩

/-- The fields of a parsed request. -/
theorem parseHead_fields (t : RoutedText) (hconfig : 0 ∉ config.defaultPage)
    {block : List UInt8} {req : RequestHeader}
    (hrun : parseHead config t.head .zero = some (req, block)) : t.Fields block t.lines req := by
  have hcrlf : crlf.length = 2 := rfl
  have hhead : t.head = t.requestLine ++ (crlf ++ (fieldLines t.lines ++ crlf)) := rfl
  have hfound : strstr crlf t.head = some (t.requestLine, crlf ++ (fieldLines t.lines ++ crlf)) :=
    strstr_crlf t.toRequestLines.requestLine_line (fieldLines t.lines ++ crlf)
  rw [parseHead_eq_readHead] at hrun
  obtain ⟨⟨req₂, block₂⟩, hread, hroute⟩ := Option.bind_eq_some_iff.mp hrun
  unfold readHead at hread
  rw [hfound, Option.bind_eq_bind, Option.bind_some] at hread
  obtain ⟨⟨req₁, block₁⟩, hline, hlines⟩ := Option.bind_eq_some_iff.mp hread
  dsimp only at hline hlines
  rw [hhead] at hline
  obtain ⟨rfl, hfields⟩ := t.parseRequestLine_fields hconfig (t.cutLine ++ crlf) rfl rfl rfl hline
  have hlen : (t.cutLine ++ crlf).length = t.requestLine.length + 2 := by
    rw [List.length_append, t.length_cutLine, hcrlf]
  have hall := congrArg List.length hhead
  simp only [List.length_append, hcrlf] at hall
  have hread₂ : t.Fields block₂ t.lines req₂ := by
    refine @parseLines_fields t config _ _ _ t.lines (t.head.length - 4) hfields ?_
      (t.cutLine ++ (crlf ++ (fieldLines t.lines ++ crlf))).length ?_ _ _ ?_
    · omega
    · simp only [List.length_append]
      omega
    · rw [hlen, List.append_assoc]
      exact Option.some.inj hlines
  dsimp only at hroute
  split at hroute
  · obtain ⟨req', hinject, hpair⟩ := Option.map_eq_some_iff.mp hroute
    cases hpair
    exact hread₂.route hinject
  · cases hroute
    exact hread₂

/-! ## The request -/

/-- What a field shows is what is read of it. -/
theorem mapM_of_shows {p : Option Ptr} {value : Option (List UInt8)} (h : Shows block p value)
    (routeResult : Buffer 512) : p.mapM (Ptr.str block routeResult) = some value := by
  cases value with
  | none =>
      obtain rfl : p = none := h
      rfl
  | some s =>
      obtain ⟨off, rfl, hpoints⟩ := h
      have hstr : Ptr.str block routeResult (.buffer off) = some s := by
        rw [Ptr.str, if_pos hpoints.le_length, hpoints.strAt]
      show some <$> Ptr.str block routeResult (.buffer off) = _
      rw [hstr]
      rfl

/-- A field that is missing is read as the empty text. -/
theorem mapM_of_elim {p : Option Ptr} {routeResult : Buffer 512} {text : List UInt8}
    (h : p.elim (some []) (Ptr.str block routeResult) = some text) :
    ∃ value, p.mapM (Ptr.str block routeResult) = some value ∧ value.getD [] = text := by
  cases p with
  | none => exact ⟨none, rfl, Option.some.inj h⟩
  | some p =>
      have hstr : Ptr.str block routeResult p = some text := h
      refine ⟨some text, ?_, rfl⟩
      show some <$> Ptr.str block routeResult p = _
      rw [hstr]
      rfl

/-- **The parser** reads what the client has written. -/
theorem parseHead_says (t : RoutedText) (hconfig : config.NoNul) {d : Destination}
    (hd : routedDestination config ((lastValue (ascii "Host") t.lines).bind
      (httpVhostGetContext config)) t.path t.query = some d)
    (clientIp : List UInt8) (isTls : Bool) :
    ∃ req block r, parseHead config t.head .zero = some (req, block) ∧
      req.cgi clientIp isTls block = some r ∧ t.Says d r ∧ r.clientIp = clientIp := by
  rw [← t.parseHead_destination hconfig] at hd
  obtain ⟨⟨req, block⟩, hparse, hdest⟩ := Option.bind_eq_some_iff.mp hd
  have hfields := t.parseHead_fields hconfig.defaultPage hparse
  dsimp only [RequestHeader.destination] at hdest
  obtain ⟨uri, huri, hdest⟩ := Option.bind_eq_some_iff.mp hdest
  obtain ⟨query, hquery, hdest⟩ := Option.bind_eq_some_iff.mp hdest
  obtain ⟨info, hinfo, hdest⟩ := Option.bind_eq_some_iff.mp hdest
  cases hdest
  obtain ⟨p, hp, hstr⟩ := Option.bind_eq_some_iff.mp huri
  have huri' : req.uri.mapM (Ptr.str block req.routeResult) = some (some uri) := by
    rw [hp]
    show some <$> Ptr.str block req.routeResult p = _
    rw [hstr]
    rfl
  have hquery' : req.queryString.elim (some []) (Ptr.str block req.routeResult) = some query := by
    rw [← hquery, clientQuery]
    cases req.queryString <;> rfl
  have hinfo' : req.pathInfo.elim (some []) (Ptr.str block req.routeResult) = some info := by
    rw [← hinfo, RequestHeader.info]
    cases req.pathInfo <;> rfl
  obtain ⟨q, hq, hqtext⟩ := mapM_of_elim hquery'
  obtain ⟨i, hi, hitext⟩ := mapM_of_elim hinfo'
  refine ⟨req, block, ⟨clientIp, req.method, some uri, lastValue (ascii "Host") t.lines, q, i,
    lastValue (ascii "Content-Type") t.lines, lastValue (ascii "Cookie") t.lines, isTls⟩,
    hparse, ?_, ⟨hfields.method, rfl, hqtext, hitext, rfl, rfl, rfl⟩, rfl⟩
  unfold RequestHeader.cgi
  rw [huri', mapM_of_shows hfields.host, hq, hi, mapM_of_shows hfields.contentType,
    mapM_of_shows hfields.cookie]
  rfl

end RoutedText

/-! ## The variables -/

section Variables

variable {cfg : CgiConfig} {r : CgiRequest} {n requestId : Nat}

/-- All pairs are in the buffer, with the padding and the empty record behind them. -/
def AllFit (cfg : CgiConfig) (r : CgiRequest) (n : Nat) : Prop :=
  ((paramCalls cfg r n).flatMap Fcgi.encodePair).length + 39 ≤ Fcgi.gatherBufSize

theorem fittingPairs_all {maxLen offset : Nat} {pairs : List Fcgi.Pair}
    (h : offset + (pairs.flatMap Fcgi.encodePair).length ≤ maxLen) :
    Fcgi.fittingPairs maxLen offset pairs = pairs := by
  induction pairs generalizing offset with
  | nil => rfl
  | cons p pairs ih =>
      rw [List.flatMap_cons, List.length_append] at h
      rw [Fcgi.fittingPairs, if_pos (by omega), ih (by omega)]

theorem AllFit.sentPairs_eq (h : AllFit cfg r n) : sentPairs cfg r n = paramCalls cfg r n := by
  unfold AllFit at h
  exact fittingPairs_all (by omega)

theorem AllFit.room (h : AllFit cfg r n) :
    (Fcgi.gatherBuf cfg r n requestId).length ≤ Fcgi.gatherBufSize := by
  have heq := congrArg List.length (Fcgi.gatherBuf_eq cfg r n requestId)
  have hbegin : (Fcgi.beginRequest requestId).length = 16 := rfl
  have hheader (length padding : Nat) :
      (Fcgi.paramsHeader requestId length padding).length = 8 := rfl
  simp only [List.length_append, List.length_replicate, hbegin, hheader, h.sentPairs_eq] at heq
  unfold AllFit at h
  omega

/-- What an application is told of a request with `n` bytes of body. -/
structure Told (cfg : CgiConfig) (r : CgiRequest) (n : Nat) (pairs : List Fcgi.Pair) : Prop where
  method : pairs.lookup (ascii "REQUEST_METHOD") = some r.method
  uri : pairs.lookup (ascii "REQUEST_URI") = r.uri
  query : pairs.lookup (ascii "QUERY_STRING") = some (r.queryString.getD [])
  info : pairs.lookup (ascii "PATH_INFO") = some (r.pathInfo.getD [])
  address : pairs.lookup (ascii "REMOTE_ADDR") = some r.clientIp
  server : pairs.lookup (ascii "SERVER_NAME") = some (r.host.getD cfg.serverName)
  cookie : pairs.lookup (ascii "HTTP_COOKIE") = r.cookieData
  length : pairs.lookup (ascii "CONTENT_LENGTH") = some (numeral 10 n)
  contentType : pairs.lookup (ascii "CONTENT_TYPE")
    = some (r.contentType.getD (ascii "application/x-www-form-urlencoded"))

/-- A name that comes once has the value it comes with. -/
theorem lookup_of_mem {pairs : List Fcgi.Pair} (hnames : (pairs.map Prod.fst).Nodup)
    {name value : List UInt8} (h : (name, value) ∈ pairs) : pairs.lookup name = some value := by
  obtain ⟨before, behind, rfl⟩ := List.append_of_mem h
  rw [List.map_append, List.map_cons] at hnames
  refine List.lookup_eq_some_iff.mpr ⟨before, behind, rfl, fun p hp => ?_⟩
  have hne : p.1 ≠ name := by
    rintro rfl
    exact (List.nodup_append.mp hnames).2.2 _ (List.mem_map_of_mem hp) _ List.mem_cons_self rfl
  simpa using hne.symm

theorem lookup_of_notMem {pairs : List Fcgi.Pair} {name : List UInt8}
    (h : name ∉ pairs.map Prod.fst) : pairs.lookup name = none := by
  refine List.lookup_eq_none_iff.mpr fun p hp => ?_
  have hne : name ≠ p.1 := by
    rintro rfl
    exact h (List.mem_map_of_mem hp)
  simpa using hne

/-- The names of the parameters, in order. -/
def paramNames (hasUri hasCookie isTls hasBody : Bool) : List (List UInt8) :=
  [ascii "DOCUMENT_ROOT", ascii "SCRIPT_FILENAME", ascii "SCRIPT_NAME", ascii "PHP_SELF"]
    ++ (if hasUri then [ascii "REQUEST_URI"] else [])
    ++ [ascii "REQUEST_METHOD", ascii "QUERY_STRING", ascii "PATH_INFO", ascii "SERVER_PROTOCOL",
      ascii "GATEWAY_INTERFACE", ascii "REMOTE_ADDR", ascii "SERVER_NAME"]
    ++ (if isTls then [ascii "HTTPS", ascii "REQUEST_SCHEME"] else [ascii "REQUEST_SCHEME"])
    ++ [ascii "SERVER_PORT"]
    ++ (if hasCookie then [ascii "HTTP_COOKIE"] else [])
    ++ (if hasBody then [ascii "CONTENT_LENGTH", ascii "CONTENT_TYPE"] else [])

theorem paramCalls_names : (paramCalls cfg r n).map Prod.fst
    = paramNames r.uri.isSome r.cookieData.isSome r.isTls (decide (0 < n)) := by
  obtain ⟨clientIp, method, uri, host, query, info, contentType, cookie, isTls⟩ := r
  unfold paramCalls paramNames
  cases uri <;> cases cookie <;> cases isTls <;> by_cases hn : 0 < n <;> simp [hn]

theorem paramNames_nodup : ∀ hasUri hasCookie isTls hasBody,
    (paramNames hasUri hasCookie isTls hasBody).Nodup := by decide +kernel

/-- An application looks a parameter up by its name. -/
theorem paramCalls_told (hn : 0 < n) : Told cfg r n (paramCalls cfg r n) := by
  have hmem {name value : List UInt8} (h : (name, value) ∈ paramCalls cfg r n) :
      (paramCalls cfg r n).lookup name = some value :=
    lookup_of_mem (by rw [paramCalls_names]; exact paramNames_nodup _ _ _ _) h
  constructor
  case uri =>
    cases huri : r.uri with
    | none =>
        apply lookup_of_notMem
        rw [paramCalls_names, huri]
        generalize r.cookieData.isSome = hasCookie, r.isTls = isTls, decide (0 < n) = hasBody
        revert hasCookie isTls hasBody
        decide +kernel
    | some uri => exact hmem (by simp [paramCalls, huri])
  case cookie =>
    cases hcookie : r.cookieData with
    | none =>
        apply lookup_of_notMem
        rw [paramCalls_names, hcookie]
        generalize r.uri.isSome = hasUri, r.isTls = isTls, decide (0 < n) = hasBody
        revert hasUri isTls hasBody
        decide +kernel
    | some cookie => exact hmem (by simp [paramCalls, hcookie])
  all_goals exact hmem (by simp [paramCalls, hn])

end Variables

/-! ## The application -/

/-- `POST /p/7?x=1` at the shop. -/
def orderHead : List UInt8 :=
  ascii "POST /p/7?x=1 HTTP/1.1" ++ crlf ++ ascii "Host: shop" ++ blankLine

/-- What the server makes of it: `/product.php` with `id=7&x=1`. -/
def orderRequest : CgiRequest where
  clientIp := ascii "127.0.0.1"
  method := ascii "POST"
  uri := some (ascii "/product.php")
  host := some (ascii "shop")
  queryString := some (ascii "id=7&x=1")
  pathInfo := none
  contentType := none
  cookieData := none
  isTls := false

theorem shopConfig_noNul : shopConfig.NoNul := by
  refine ⟨by decide, fun vh hvh route hroute => ?_⟩
  obtain rfl := List.mem_singleton.mp hvh
  have hroutes : route = productRoute ∨ route = infoRoute := by simpa using hroute
  rcases hroutes with rfl | rfl <;> exact ⟨by decide, by decide⟩

deriving instance DecidableEq for CgiRequest

theorem orderHead_request :
    ((parseHead shopConfig orderHead .zero).bind
      fun p => p.1.cgi (ascii "127.0.0.1") false p.2) = some orderRequest := by decide +kernel

/-- It is routed to the page of the products. -/
theorem orderHead_text : ∃ t : RoutedText, t.head = orderHead ∧
    routedDestination shopConfig ((lastValue (ascii "Host") t.lines).bind
      (httpVhostGetContext shopConfig)) t.path t.query
      = some ⟨ascii "/product.php", ascii "id=7&x=1", [], .php⟩ := by
  let t : RoutedText :=
    { method := ascii "POST"
      path := ascii "/p/7"
      query := some (ascii "x=1")
      version := ascii "HTTP/1.1"
      lines := [⟨ascii "Host", ascii " shop", by decide, by decide, by decide⟩]
      method_word := by decide
      method_length := by decide
      path_word := by decide
      path_no_query := by decide
      query_word := fun q hq => by
        obtain rfl := Option.some.inj hq
        decide
      version_word := by decide
      version_length := by decide }
  exact ⟨t, by decide +kernel, by decide +kernel⟩

end Halmos.Http1
