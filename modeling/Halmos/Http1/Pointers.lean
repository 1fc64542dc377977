import Halmos.Http1.Reading

set_option autoImplicit false

/-! # Where the fields of a request point

The fields of a parsed request point into the buffer, but for the URI, the query and the path info
of a request whose URI has been rewritten: these point into `route_result`, which is part of the
request and does not move with the buffer.
-/

namespace Halmos.Http1

/-- A pointer into `route_result`. -/
def InRoute (p : Option Ptr) : Prop := ∃ off, p = some (.route off)

@[simp] theorem not_inRoute_none : ¬ InRoute none := nofun

@[simp] theorem not_inRoute_buffer (off : Nat) : ¬ InRoute (some (.buffer off)) := nofun

/-- Where the fields of a request point that has no parts yet. -/
structure Pointed (req : RequestHeader) : Prop where
  no_parts : req.parts = []
  fields : ¬ InRoute req.host ∧ ¬ InRoute req.contentType ∧ ¬ InRoute req.cookieData
  with_uri : ¬ InRoute req.uri → ¬ InRoute req.queryString ∧ ¬ InRoute req.pathInfo
  uri : ∀ off, req.uri = some (.route off) → off = 0 ∧ 0 ∈ req.routeResult.bytes

theorem mem_of_copy {n i : Nat} {buf buf' : Buffer n} {s : List UInt8} {b : UInt8}
    (h : buf.copy i s = some buf') (hb : b ∈ s) : b ∈ buf'.bytes := by
  have htake := Buffer.of_copy h
  refine List.mem_of_mem_take (i := i + s.length) ?_
  rw [htake]
  exact List.mem_append_right _ hb

variable {config : Config}

theorem defaultPage_pointed {req req' : RequestHeader} (hreq : Pointed req)
    (huri : ¬ InRoute req.uri) (h : defaultPage config req = some req') : Pointed req' := by
  unfold defaultPage at h
  extract_lets defPage page at h
  obtain ⟨routeResult, hprint, h⟩ := Option.bind_eq_some_iff.mp h
  have hzero : 0 ∈ routeResult.bytes := mem_of_copy hprint (List.mem_append_right _ (by simp))
  obtain ⟨hquery, hpath⟩ := hreq.with_uri huri
  extract_lets req₁ at h
  split at h
  · obtain rfl := Option.some.inj h
    refine ⟨hreq.no_parts, hreq.fields, fun _ => ⟨hquery, hpath⟩, ?_⟩
    rintro off ⟨⟩
    exact ⟨rfl, hzero⟩
  · obtain rfl := Option.some.inj h
    exact ⟨hreq.no_parts, hreq.fields, hreq.with_uri, fun off hoff => absurd ⟨off, hoff⟩ huri⟩

theorem parseRequestLine_pointed {head head' : List UInt8} {lineEnd : Nat}
    {req req' : RequestHeader} (hreq : Pointed req)
    (h : parseRequestLine config head lineEnd req = some (req', head')) : Pointed req' := by
  unfold parseRequestLine at h
  extract_lets line at h
  split at h
  · rw [← (Prod.mk.inj (Option.some.inj h)).1]
    exact hreq
  · next mEnd hm =>
    extract_lets req₀ uStart at h
    have hreq₀ : Pointed req₀ := by
      unfold req₀
      split
      · exact ⟨hreq.no_parts, hreq.fields, hreq.with_uri, hreq.uri⟩
      · exact hreq
    split at h
    · rw [← (Prod.mk.inj (Option.some.inj h)).1]
      exact hreq₀
    · next uLen hu =>
      extract_lets version req₁ head₁ target at h
      have hreq₁ : Pointed req₁ := by
        unfold req₁
        split
        · exact ⟨hreq₀.no_parts, hreq₀.fields, hreq₀.with_uri, hreq₀.uri⟩
        · exact hreq₀
      split at h
      next req₂ head₂ hq =>
      have hreq₂ : req₂.parts = [] ∧ (¬ InRoute req₂.host ∧ ¬ InRoute req₂.contentType ∧
          ¬ InRoute req₂.cookieData) ∧ ¬ InRoute req₂.queryString := by
        split at hq
        · rw [← (Prod.mk.inj hq).1]
          exact ⟨hreq₁.no_parts, hreq₁.fields, by simp⟩
        · rw [← (Prod.mk.inj hq).1]
          exact ⟨hreq₁.no_parts, hreq₁.fields, by simp⟩
      extract_lets path req₃ jp at h
      have hreq₃ : Pointed req₃ :=
        ⟨hreq₂.1, hreq₂.2.1, fun _ => ⟨hreq₂.2.2, not_inRoute_none⟩, nofun⟩
      have hjp : ∀ req, Pointed req → jp req = some (req', head') → Pointed req' := by
        intro req hreq h
        rw [← (Prod.mk.inj (Option.some.inj h)).1]
        cases hpath : pathInfoOf uStart path with
        | none => exact ⟨hreq.no_parts, hreq.fields, hreq.with_uri, hreq.uri⟩
        | some p =>
            obtain ⟨dot, -, hp⟩ := Option.bind_eq_some_iff.mp hpath
            obtain ⟨sep, -, hp⟩ := Option.bind_eq_some_iff.mp hp
            obtain rfl := Option.some.inj hp
            exact ⟨hreq.no_parts, hreq.fields,
              fun huri => ⟨(hreq.with_uri huri).1, not_inRoute_buffer _⟩, hreq.uri⟩
      split at h
      · obtain ⟨req₄, hpage, h⟩ := Option.bind_eq_some_iff.mp h
        exact hjp req₄ (defaultPage_pointed hreq₃ (not_inRoute_buffer _) hpage) h
      · exact hjp req₃ hreq₃ h

theorem parseField_pointed {req : RequestHeader} (hreq : Pointed req) (key head : List UInt8)
    (val : Nat) : Pointed (parseField config key head val req) := by
  obtain ⟨hhost, htype, hcookie⟩ := hreq.fields
  apply parseField_induction (P := Pointed)
  case hhost =>
    exact fun _ =>
      ⟨hreq.no_parts, ⟨not_inRoute_buffer _, htype, hcookie⟩, hreq.with_uri, hreq.uri⟩
  case htype =>
    exact fun _ =>
      ⟨hreq.no_parts, ⟨hhost, not_inRoute_buffer _, hcookie⟩, hreq.with_uri, hreq.uri⟩
  case hcookie =>
    exact fun _ => ⟨hreq.no_parts, ⟨hhost, htype, not_inRoute_buffer _⟩, hreq.with_uri, hreq.uri⟩
  case hlength => exact fun _ => ⟨hreq.no_parts, hreq.fields, hreq.with_uri, hreq.uri⟩
  case hwsKey => exact fun _ => ⟨hreq.no_parts, hreq.fields, hreq.with_uri, hreq.uri⟩
  case hupgrade => exact fun _ _ => ⟨hreq.no_parts, hreq.fields, hreq.with_uri, hreq.uri⟩
  case hconnection => exact fun _ _ => ⟨hreq.no_parts, hreq.fields, hreq.with_uri, hreq.uri⟩
  case hother => exact fun _ _ _ _ _ => hreq

theorem parseLines_pointed (headerEnd fuel p : Nat) {req : RequestHeader} (hreq : Pointed req)
    (head : List UInt8) : Pointed (parseLines config headerEnd fuel p req head).1 := by
  induction fuel generalizing p req head with
  | zero => exact hreq
  | succ fuel ih =>
      rw [parseLines]
      split
      · exact hreq
      · split
        · exact hreq
        · dsimp only
          split
          · exact hreq
          · split
            · exact ih _ hreq _
            · exact ih _ (parseField_pointed hreq _ _ _) _

/-- The query behind the URI of a request, as the parser has split it off. -/
def clientQuery (head : List UInt8) (req : RequestHeader) : Option (List UInt8) :=
  match req.queryString with
  | some p => p.str head req.routeResult
  | none => some []

/-- What a matching route does to a request. -/
def Routed (head : List UInt8) (req req' : RequestHeader) (uri : List UInt8) (route : RouteTable) :
    Prop :=
  ∃ tUri tQuery tPath query tQuery' r₁ r₂, httpRouteApplyLogic route uri
      = some (tUri, tQuery, tPath) ∧
    clientQuery head req = some query ∧
    strcat 256 tQuery ((if query ≠ [] ∧ tQuery ≠ [] then ascii "&" else []) ++ query)
      = some tQuery' ∧
    req.routeResult.copy 0 (tUri ++ [0]) = some r₁ ∧
    r₁.copy (tUri.length + 1) (tQuery' ++ [0]) = some r₂ ∧
    ∃ r₃ pathInfo, req' = { req with
        uri := some (.route 0)
        directory := some (.route 0)
        queryString := some (.route (tUri.length + 1))
        backendType := route.fcgiType
        pathInfo := pathInfo
        routeResult := r₃ } ∧
      (tPath = [] ∧ pathInfo = none ∧ r₃ = r₂ ∨
        tPath ≠ [] ∧ pathInfo = some (.route tUri.length) ∧
          r₂.copy tUri.length (tPath ++ [0]) = some r₃)

theorem injectRoute_eq_some {head : List UInt8} {req req' : RequestHeader}
    (h : injectRoute head req = some req') :
    ∃ p uri, req.uri = some p ∧ p.str head req.routeResult = some uri ∧
      (httpRouteMatch req.vhostContext uri = none ∧ req' = { req with backendType := .php } ∨
        ∃ route, httpRouteMatch req.vhostContext uri = some route ∧
          Routed head req req' uri route) := by
  unfold injectRoute at h
  obtain ⟨p, hp, h⟩ := Option.bind_eq_some_iff.mp h
  obtain ⟨uri, huri, h⟩ := Option.bind_eq_some_iff.mp h
  refine ⟨p, uri, hp, huri, ?_⟩
  split at h
  · next hroute => exact .inl ⟨hroute, (Option.some.inj h).symm⟩
  · next route hroute =>
    refine .inr ⟨route, hroute, ?_⟩
    obtain ⟨r, happly, h⟩ := Option.bind_eq_some_iff.mp h
    split at h
    next tUri tQuery tPath =>
    extract_lets req₁ jp at h
    have hjp : ∀ query, clientQuery head req = some query → jp query = some req' →
        Routed head req req' uri route := by
      intro query hquery h
      obtain ⟨tQuery', hcat, h⟩ := Option.bind_eq_some_iff.mp h
      obtain ⟨r₁, hcopy₁, h⟩ := Option.bind_eq_some_iff.mp h
      obtain ⟨r₂, hcopy₂, h⟩ := Option.bind_eq_some_iff.mp h
      refine ⟨tUri, tQuery, tPath, query, tQuery', r₁, r₂, happly, hquery, hcat, hcopy₁, hcopy₂, ?_⟩
      split at h
      · next hnil => exact ⟨r₂, none, (Option.some.inj h).symm, .inl ⟨hnil, rfl, rfl⟩⟩
      · next hne =>
        obtain ⟨r₃, hcopy₃, h⟩ := Option.bind_eq_some_iff.mp h
        exact ⟨r₃, _, (Option.some.inj h).symm, .inr ⟨hne, rfl, hcopy₃⟩⟩
    cases hquery : req.queryString with
    | none =>
        rw [hquery] at h
        exact hjp [] (by rw [clientQuery, hquery]) h
    | some q =>
        rw [hquery] at h
        obtain ⟨query, hstr, h⟩ := Option.bind_eq_some_iff.mp h
        refine hjp query ?_ h
        rw [clientQuery, hquery]
        exact hstr

theorem injectRoute_pointed {head : List UInt8} {req req' : RequestHeader} (hreq : Pointed req)
    (h : injectRoute head req = some req') : Pointed req' := by
  obtain ⟨p, uri, hp, huri, ⟨hno, rfl⟩ | ⟨route, hroute, hrouted⟩⟩ := injectRoute_eq_some h
  · exact ⟨hreq.no_parts, hreq.fields, hreq.with_uri, hreq.uri⟩
  · obtain ⟨tUri, tQuery, tPath, query, tQuery', r₁, r₂, -, -, -, -, hcopy, r₃, pathInfo, rfl,
      hlast⟩ := hrouted
    have hzero : 0 ∈ r₃.bytes := by
      rcases hlast with ⟨-, -, rfl⟩ | ⟨-, -, hcopy'⟩
      · exact mem_of_copy hcopy (List.mem_append_right _ (by simp))
      · exact mem_of_copy hcopy' (List.mem_append_right _ (by simp))
    refine ⟨hreq.no_parts, hreq.fields, fun huri => absurd ⟨0, rfl⟩ huri, ?_⟩
    rintro off ⟨⟩
    exact ⟨rfl, hzero⟩

theorem zero_pointed : Pointed .zero :=
  ⟨rfl, ⟨not_inRoute_none, not_inRoute_none, not_inRoute_none⟩,
    fun _ => ⟨not_inRoute_none, not_inRoute_none⟩, nofun⟩

theorem parseHead_pointed {head head' : List UInt8} {req req' : RequestHeader}
    (hreq : Pointed req) (h : parseHead config head req = some (req', head')) : Pointed req' := by
  obtain ⟨line, rest, req₁, head₁, req₂, -, hline, hlines, hroute⟩ := parseHead_eq_some h
  have hreq₀ : Pointed { req with vhostContext := none, isKeepAlive := true } :=
    ⟨hreq.no_parts, hreq.fields, hreq.with_uri, hreq.uri⟩
  have hreq₂ : Pointed (parseLines config (head.length - 4) head₁.length (line.length + 2)
      req₁ head₁).1 := parseLines_pointed _ _ _ (parseRequestLine_pointed hreq₀ hline) _
  rw [hlines] at hreq₂
  split at hroute
  · exact injectRoute_pointed hreq₂ hroute
  · obtain rfl := Option.some.inj hroute
    exact hreq₂

end Halmos.Http1
