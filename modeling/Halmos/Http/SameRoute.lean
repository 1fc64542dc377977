import Halmos.Http1.RequestRoute
import Halmos.Http2.Routing

set_option autoImplicit false

/-! # The same request over HTTP/1.1 and over HTTP/2

The two parsers route a request each on its own. What they arrive at is the same for some requests
only: they take different default pages, look for the path info in different places, and join the
query of a route with the one of the client, or put it in its place. `Alike` says for which requests
they arrive at the same place.
-/

namespace Halmos.Http

open Http1 (Config FcgiBackend RouteTable VHostEntry httpRouteMatch dotPathInfo pathInfoText
  joinQuery remainderOf strcat)
open Http2.Memory (extsList extPathInfo extPathInfo_slash staleQuery staleInfo overlay)

/-! ## Where the path info begins -/

section Marks

/-- The first slash behind the last dot is at `k`. -/
def DotMark (path : List UInt8) (k : Nat) : Prop :=
  ∃ a b c, path = a ++ 0x2E :: (b ++ 0x2F :: c) ∧ 0x2E ∉ b ∧ 0x2F ∉ b ∧ 0x2E ∉ c ∧
    k = a.length + 1 + b.length

/-- The first of these extensions that is in the path has a slash behind it, at `k`. -/
def ExtMark (exts : List (List UInt8)) (path : List UInt8) (k : Nat) : Prop :=
  ∃ earlier ext later found, exts = earlier ++ ext :: later ∧
    (∀ e ∈ earlier, strcasestr e path = none) ∧ strcasestr ext path = some found ∧
    k = path.length - found.length + ext.length ∧ path[k]? = some 0x2F

variable {path : List UInt8} {k : Nat}

theorem dotPathInfo_eq_some_iff : dotPathInfo path = some k ↔ DotMark path k := by
  unfold dotPathInfo
  constructor
  · intro h
    obtain ⟨lastDot, hdot, h⟩ := Option.bind_eq_some_iff.mp h
    obtain ⟨slash, hslash, h⟩ := Option.bind_eq_some_iff.mp h
    obtain rfl := Option.some.inj h
    obtain ⟨a, tail, rfl, htail, rfl⟩ := Fcgi.strrchr_eq_some_iff.mp hdot
    rw [List.drop_left] at hslash
    obtain ⟨b, c, hsplit, hb, rfl⟩ := idxOf?_iff_append.mp hslash
    cases b with
    | nil => cases hsplit
    | cons dot b =>
        rw [List.cons_append] at hsplit
        obtain ⟨rfl, rfl⟩ := List.cons.inj hsplit
        rw [List.mem_append, List.mem_cons] at htail
        refine ⟨a, b, c, rfl, fun h => htail (.inl h), fun h => hb (.tail _ h),
          fun h => htail (.inr (.inr h)), ?_⟩
        rw [List.length_cons]
        omega
  · rintro ⟨a, b, c, rfl, hdot, hslash, hbehind, rfl⟩
    have hlast : Http1.strrchr (a ++ 0x2E :: (b ++ 0x2F :: c)) 0x2E = some a.length :=
      Fcgi.strrchr_eq_some_iff.mpr ⟨a, b ++ 0x2F :: c, rfl, by simp [hdot, hbehind], rfl⟩
    have hfirst : (0x2E :: (b ++ 0x2F :: c)).idxOf? 0x2F = some (b.length + 1) := by
      simpa using idxOf?_append (a := 0x2E :: b) (c := 0x2F) (by simp [hslash]) c
    simp only [hlast, Option.bind_eq_bind, Option.bind_some, List.drop_left, hfirst]
    congr 1
    omega

theorem extPathInfo_eq_some_iff {exts : List (List UInt8)} :
    extPathInfo exts path = some k ↔ ExtMark exts path k := by
  induction exts with
  | nil =>
      refine ⟨fun h => (by cases h), ?_⟩
      rintro ⟨earlier, ext, later, found, hexts, -⟩
      exact absurd hexts.symm (by simp)
  | cons ext exts ih =>
      rw [extPathInfo]
      cases hfound : strcasestr ext path with
      | none =>
          dsimp only
          rw [ih]
          constructor
          · rintro ⟨earlier, e, later, found, rfl, hearlier, hrest⟩
            exact ⟨ext :: earlier, e, later, found, rfl,
              List.forall_mem_cons.mpr ⟨hfound, hearlier⟩, hrest⟩
          · rintro ⟨earlier, e, later, found, hexts, hearlier, hthere, hrest⟩
            cases earlier with
            | nil =>
                obtain ⟨rfl, rfl⟩ := List.cons.inj hexts
                rw [hfound] at hthere
                cases hthere
            | cons first earlier =>
                rw [List.cons_append] at hexts
                obtain ⟨rfl, rfl⟩ := List.cons.inj hexts
                exact ⟨earlier, e, later, found, rfl, (List.forall_mem_cons.mp hearlier).2, hthere,
                  hrest⟩
      | some found =>
          dsimp only
          constructor
          · intro h
            split at h
            · next hslash =>
              obtain rfl := Option.some.inj h
              exact ⟨[], ext, exts, found, rfl, by simp, hfound, rfl, hslash⟩
            · cases h
          · rintro ⟨earlier, e, later, found', hexts, hearlier, hthere, rfl, hslash⟩
            cases earlier with
            | nil =>
                obtain ⟨rfl, rfl⟩ := List.cons.inj hexts
                obtain rfl := Option.some.inj (hfound.symm.trans hthere)
                exact if_pos hslash
            | cons first earlier =>
                rw [List.cons_append] at hexts
                obtain ⟨rfl, rfl⟩ := List.cons.inj hexts
                have hno := hearlier ext List.mem_cons_self
                rw [hfound] at hno
                cases hno

/-- The text from a mark on. -/
def textFrom (path : List UInt8) (mark : Option Nat) : List UInt8 :=
  match mark with
  | none => []
  | some k => path.drop k

theorem textFrom_inj {first second : Option Nat} (hfirst : ∀ k ∈ first, k < path.length)
    (hsecond : ∀ k ∈ second, k < path.length) :
    textFrom path first = textFrom path second ↔ first = second := by
  refine ⟨fun h => ?_, congrArg _⟩
  have hlen := congrArg List.length h
  cases first with
  | none =>
      cases second with
      | none => rfl
      | some k =>
          have := hsecond k rfl
          simp [textFrom] at hlen
          omega
  | some j =>
      have := hfirst j rfl
      cases second with
      | none =>
          simp [textFrom] at hlen
          omega
      | some k =>
          have := hsecond k rfl
          simp only [textFrom, List.length_drop] at hlen
          congr 1
          omega

theorem ExtMark.lt {exts : List (List UInt8)} (h : ExtMark exts path k) : k < path.length := by
  obtain ⟨-, -, -, -, -, -, -, -, hslash⟩ := h
  exact (List.getElem?_eq_some_iff.mp hslash).1

theorem DotMark.lt (h : DotMark path k) : k < path.length := by
  obtain ⟨a, b, c, rfl, -, -, -, rfl⟩ := h
  simp
  omega

/-- **The path info of a path that no route matches**: both parsers find the same. -/
theorem pathInfoText_eq_iff :
    pathInfoText path = staleInfo path [path]
      ↔ ∀ k, DotMark path k ↔ ExtMark extsList path k := by
  have hsecond : staleInfo path [path] = textFrom path (extPathInfo extsList path) := by
    unfold staleInfo textFrom
    cases h : extPathInfo extsList path with
    | none => rfl
    | some k => exact if_pos (extPathInfo_eq_some_iff.mp h).lt.le
  have hfirst : pathInfoText path = textFrom path (dotPathInfo path) := rfl
  rw [hsecond, hfirst, textFrom_inj (fun k hk => (dotPathInfo_eq_some_iff.mp hk).lt)
    (fun k hk => (extPathInfo_eq_some_iff.mp hk).lt), Option.ext_iff]
  simp only [dotPathInfo_eq_some_iff, extPathInfo_eq_some_iff]

/-- The path info that was found in the path is read as empty if the target ends where it begins. -/
theorem staleInfo_eq_nil_iff (target : List UInt8) :
    staleInfo path [path, target] = []
      ↔ ∀ k, ExtMark extsList path k → k = target.length := by
  unfold staleInfo
  cases h : extPathInfo extsList path with
  | none =>
      refine iff_of_true rfl fun k hk => ?_
      rw [extPathInfo_eq_some_iff.mpr hk] at h
      cases h
  | some off =>
      have hlt := (extPathInfo_eq_some_iff.mp h).lt
      have hone : (∀ k, ExtMark extsList path k → k = target.length) ↔ off = target.length := by
        constructor
        · exact fun hall => hall off (extPathInfo_eq_some_iff.mp h)
        · rintro rfl k hk
          exact Option.some.inj ((extPathInfo_eq_some_iff.mpr hk).symm.trans h)
      rw [hone]
      simp only [List.foldl_cons, List.foldl_nil, overlay]
      rw [if_pos hlt.le]
      split <;> simp <;> omega

theorem staleInfo_of_none {texts : List (List UInt8)} (h : extPathInfo extsList path = none) :
    staleInfo path texts = [] := by
  rw [staleInfo, h]

end Marks

/-! ## What decides -/

/-- The text a URI is replaced by. -/
def routedText (uri : List UInt8) : Option RouteTable → List UInt8
  | none => uri
  | some route => route.target

/-- The query that comes with it. -/
def routedQuery (uri : List UInt8) : Option RouteTable → List UInt8
  | none => []
  | some route => generatedQuery route uri

def routedBackend : Option RouteTable → FcgiBackend
  | none => .php
  | some route => route.fcgiType

/-- What is left of the client's query, which begins one byte behind the path, when the URI that is
routed and the text it is replaced by have been written over the path. -/
def leftQuery (path : List UInt8) (query : Option (List UInt8)) (uri text : List UInt8) :
    List UInt8 :=
  match query with
  | none => []
  | some q =>
      if path.length < text.length then text.drop (path.length + 1)
      else if path.length < uri.length then uri.drop (path.length + 1)
      else q

/-- Over HTTP/2 this target and this query come out: the query that is left, the one of the route,
or what is behind a question mark in the text of the route. -/
def TextsOver (path : List UInt8) (query : Option (List UInt8)) (uri text generated : List UInt8)
    (target targetQuery : List UInt8) : Prop :=
  if generated = [] then target = text ∧ targetQuery = leftQuery path query uri text
  else 0x3F ∉ text ∧ target = text ∧ targetQuery = generated ∨
    0x3F ∉ target ∧ text = target ++ 0x3F :: targetQuery

instance (path : List UInt8) (query : Option (List UInt8)) (uri text generated target
    targetQuery : List UInt8) :
    Decidable (TextsOver path query uri text generated target targetQuery) :=
  inferInstanceAs (Decidable (if generated = [] then target = text ∧
      targetQuery = leftQuery path query uri text
    else 0x3F ∉ text ∧ target = text ∧ targetQuery = generated ∨
      0x3F ∉ target ∧ text = target ++ 0x3F :: targetQuery))

/-- A request that arrives at the same place over both protocols. HTTP/1.1 routes `uri₁` and HTTP/2
routes `uri₂`, each with the route that matches. -/
structure Alike (path : List UInt8) (query : Option (List UInt8)) (uri₁ uri₂ : List UInt8)
    (route₁ route₂ : Option RouteTable) : Prop where
  fits₁ : ∀ route ∈ route₁, CallFits 128 128 route uri₁ ∧
    (joinQuery (generatedQuery route uri₁) (query.getD [])).length < 256
  fits₂ : ∀ route ∈ route₂, CallFits 1024 256 route uri₂
  backend : routedBackend route₁ = routedBackend route₂
  texts : TextsOver path query uri₂ (routedText uri₂ route₂) (routedQuery uri₂ route₂)
    (routedText uri₁ route₁) (joinQuery (routedQuery uri₁ route₁) (query.getD []))
  unrouted : route₁ = none → ∀ k, DotMark path k ↔ ExtMark extsList path k
  no_remainder : ∀ route ∈ route₁, route.type = .path → uri₁.length ≤ route.source.length
  no_mark : ∀ route ∈ route₁, ∀ k, ExtMark extsList path k → k = route.target.length

/-- Both parsers arrive, and at the same place. -/
def Agree (first second : Option Destination) : Prop := ∃ d, first = some d ∧ second = some d

/-! ## What comes out -/

section Strings

variable {config : Config} {path uri : List UInt8} {query : Option (List UInt8)}
  {route : RouteTable} {d : Destination}

theorem generatedInfo_eq_nil_iff :
    generatedInfo route uri = [] ↔ (route.type = .path → uri.length ≤ route.source.length) := by
  unfold generatedInfo
  split
  · next h => simp [h, remainderOf]
  · next h => simp [h]

theorem first_eq_some_iff {q : List UInt8} :
    Http1.appliedDestination uri q route = some d ↔
      (CallFits 128 128 route uri ∧ (joinQuery (generatedQuery route uri) q).length < 256) ∧
        d = if generatedInfo route uri = [] then
            ⟨route.target, joinQuery (generatedQuery route uri) q, [], route.fcgiType⟩
          else ⟨route.target ++ generatedInfo route uri, (generatedInfo route uri).drop 1,
            generatedInfo route uri, route.fcgiType⟩ := by
  unfold Http1.appliedDestination
  cases hcall : httpRouteApplyLogicIn 128 128 route uri with
  | none =>
      refine ⟨nofun, ?_⟩
      rintro ⟨⟨hfits, -⟩, -⟩
      rw [(httpRouteApplyLogicIn_eq_some_iff (by decide) route uri _).mpr ⟨hfits, rfl⟩] at hcall
      cases hcall
  | some strings =>
      obtain ⟨hfits, rfl⟩ := (httpRouteApplyLogicIn_eq_some_iff (by decide) route uri _).mp hcall
      simp only [Option.bind_eq_bind, Option.bind_some]
      cases hcat : strcat 256 (generatedQuery route uri)
          ((if q ≠ [] ∧ generatedQuery route uri ≠ [] then ascii "&" else []) ++ q) with
      | none =>
          refine ⟨nofun, ?_⟩
          rintro ⟨⟨-, hroom⟩, -⟩
          rw [joinQuery, List.length_append] at hroom
          rw [Http1.strcat_eq_some_iff.mpr ⟨hroom, rfl⟩] at hcat
          cases hcat
      | some joined =>
          obtain ⟨hroom, rfl⟩ := Http1.strcat_eq_some_iff.mp hcat
          have hall : CallFits 128 128 route uri ∧
              (joinQuery (generatedQuery route uri) q).length < 256 := by
            refine ⟨hfits, ?_⟩
            rwa [joinQuery, List.length_append]
          rw [Option.bind_some, and_iff_right hall]
          split
          · rw [Option.some_inj, eq_comm, joinQuery]
          · rw [Option.some_inj, eq_comm]

/-- The texts that have been written by the time the path info is read. -/
def infoTexts (uri target : List UInt8) : Option RouteTable → List (List UInt8)
  | none => [uri]
  | some route => [uri, route.target] ++
      if generatedQuery route uri ≠ [] ∧ 0x3F ∈ route.target then [target] else []

theorem staleQuery_pair (text : List UInt8) :
    staleQuery path query [uri, text] = leftQuery path query uri text := by
  cases query <;> rfl

theorem second_eq_some_iff :
    Http2.Memory.appliedDestination path query uri route = some d ↔
      CallFits 1024 256 route uri ∧ d.backendType = route.fcgiType ∧
        TextsOver path query uri route.target (generatedQuery route uri) d.uri d.queryString ∧
        d.pathInfo = staleInfo path (infoTexts uri d.uri (some route)) := by
  obtain ⟨dUri, dQuery, dInfo, dBackend⟩ := d
  unfold Http2.Memory.appliedDestination
  cases hcall : httpRouteApplyLogicIn 1024 256 route uri with
  | none =>
      refine ⟨nofun, ?_⟩
      rintro ⟨hfits, -⟩
      rw [(httpRouteApplyLogicIn_eq_some_iff (by decide) route uri _).mpr ⟨hfits, rfl⟩] at hcall
      cases hcall
  | some strings =>
      obtain ⟨hfits, rfl⟩ := (httpRouteApplyLogicIn_eq_some_iff (by decide) route uri _).mp hcall
      simp only [Option.bind_eq_bind, Option.bind_some, and_iff_right hfits, TextsOver, infoTexts,
        staleQuery_pair]
      by_cases hnil : generatedQuery route uri = []
      · rw [if_pos hnil, if_pos hnil, if_neg (fun h => h.1 hnil), List.append_nil, Option.some_inj,
          Destination.mk.injEq]
        grind
      rw [if_neg hnil, if_neg hnil]
      cases hmark : route.target.idxOf? 0x3F with
      | none =>
          have hno := List.idxOf?_eq_none_iff.mp hmark
          have hsplit : ∀ q, route.target ≠ dUri ++ 0x3F :: q := by
            intro q h
            exact hno (by simp [h])
          simp only [Option.some_inj, Destination.mk.injEq]
          rw [if_neg (fun h => hno h.2), List.append_nil]
          grind
      | some i =>
          obtain ⟨a, b, hsplit, ha, rfl⟩ := idxOf?_iff_append.mp hmark
          have hthere : 0x3F ∈ route.target := by simp [hsplit]
          have htake : route.target.take a.length = a := by rw [hsplit, List.take_left]
          have hdrop : route.target.drop (a.length + 1) = b := by rw [hsplit, drop_append_cons rfl]
          have hcut : ∀ target q, 0x3F ∉ target ∧ route.target = target ++ 0x3F :: q
              ↔ a = target ∧ b = q := by
            intro target q
            constructor
            · rintro ⟨hno, h⟩
              have hlen := (idxOf?_append hno q).symm.trans (h ▸ hmark)
              obtain hlen := Option.some.inj hlen
              obtain ⟨rfl, htail⟩ := List.append_inj (h.symm.trans hsplit) hlen
              exact ⟨rfl, (List.cons.inj htail).2.symm⟩
            · rintro ⟨rfl, rfl⟩
              exact ⟨ha, hsplit⟩
          simp only [Option.some_inj, Destination.mk.injEq, htake, hdrop]
          rw [if_pos ⟨hnil, hthere⟩, hcut]
          grind

theorem agree_some_iff {second : Option Destination} : Agree (some d) second ↔ second = some d := by
  constructor
  · rintro ⟨d', hfirst, hsecond⟩
    rwa [Option.some.inj hfirst]
  · exact fun h => ⟨d, rfl, h⟩

theorem second_routed_iff (vh : Option VHostEntry) :
    Http2.Memory.routedDestination vh path query = some d ↔
      (∀ route ∈ httpRouteMatch vh (Http2.Memory.indexPath path),
        CallFits 1024 256 route (Http2.Memory.indexPath path)) ∧
      d.backendType = routedBackend (httpRouteMatch vh (Http2.Memory.indexPath path)) ∧
      TextsOver path query (Http2.Memory.indexPath path)
        (routedText (Http2.Memory.indexPath path) (httpRouteMatch vh (Http2.Memory.indexPath path)))
        (routedQuery (Http2.Memory.indexPath path) (httpRouteMatch vh (Http2.Memory.indexPath path)))
        d.uri d.queryString ∧
      d.pathInfo = staleInfo path (infoTexts (Http2.Memory.indexPath path) d.uri
        (httpRouteMatch vh (Http2.Memory.indexPath path))) := by
  unfold Http2.Memory.routedDestination
  dsimp only
  generalize Http2.Memory.indexPath path = uri
  cases httpRouteMatch vh uri with
  | some route =>
      dsimp only [routedBackend, routedText, routedQuery]
      rw [second_eq_some_iff]
      simp only [Option.mem_some_iff, forall_eq']
  | none =>
      obtain ⟨dUri, dQuery, dInfo, dBackend⟩ := d
      have hone : staleQuery path query [uri] = leftQuery path query uri uri := by
        rw [← staleQuery_pair]
        unfold staleQuery
        cases query with
        | none => rfl
        | some q =>
            simp only [List.foldl_cons, List.foldl_nil, overlay]
            split <;> rfl
      simp only [Option.some_inj, Destination.mk.injEq, routedBackend, routedText, routedQuery,
        TextsOver, if_true, infoTexts, hone]
      grind

end Strings

/-! ## Agreement -/

section Agreement

variable {vh : Option VHostEntry} {path : List UInt8} {query : Option (List UInt8)}

/-- The two parsers route the same path, or there is no path info in the path. -/
theorem indexPath_cases (config : Config) (path : List UInt8) :
    Http1.indexPath config path = path ∧ Http2.Memory.indexPath path = path ∨
      dotPathInfo path = none ∧ extPathInfo extsList path = none := by
  unfold Http1.indexPath Http2.Memory.indexPath
  by_cases hindex : path = [] ∨ path = ascii "/"
  · right
    rcases hindex with rfl | rfl <;> exact ⟨by decide, by decide⟩
  · rw [not_or] at hindex
    rw [if_neg hindex.2, if_neg (not_or.mpr hindex)]
    exact .inl ⟨rfl, rfl⟩

theorem no_extMark (h : extPathInfo extsList path = none) (k : Nat) :
    ¬ ExtMark extsList path k := by
  intro hk
  rw [extPathInfo_eq_some_iff.mpr hk] at h
  cases h

/-- Without a route over HTTP/1.1, the path info is what was found in the path. -/
theorem unrouted_info_iff (config : Config) (target : List UInt8)
    (hroute : httpRouteMatch vh (Http1.indexPath config path) = none) :
    pathInfoText path = staleInfo path (infoTexts (Http2.Memory.indexPath path) target
        (httpRouteMatch vh (Http2.Memory.indexPath path)))
      ↔ ∀ k, DotMark path k ↔ ExtMark extsList path k := by
  rcases indexPath_cases config path with ⟨hfirst, hsecond⟩ | ⟨hdot, hext⟩
  · rw [hfirst] at hroute
    rw [hsecond, hroute]
    exact pathInfoText_eq_iff
  · rw [staleInfo_of_none hext, pathInfoText, hdot]
    refine iff_of_true rfl fun k => iff_of_false ?_ (no_extMark hext k)
    intro hk
    rw [dotPathInfo_eq_some_iff.mpr hk] at hdot
    cases hdot

/-- With a route that leaves no path info over HTTP/1.1, there is none over HTTP/2 either. -/
theorem routed_info_iff (config : Config) {route : RouteTable} {targetQuery : List UInt8}
    (hroute : httpRouteMatch vh (Http1.indexPath config path) = some route)
    (htexts : TextsOver path query (Http2.Memory.indexPath path)
      (routedText (Http2.Memory.indexPath path) (httpRouteMatch vh (Http2.Memory.indexPath path)))
      (routedQuery (Http2.Memory.indexPath path) (httpRouteMatch vh (Http2.Memory.indexPath path)))
      route.target targetQuery) :
    [] = staleInfo path (infoTexts (Http2.Memory.indexPath path) route.target
        (httpRouteMatch vh (Http2.Memory.indexPath path)))
      ↔ ∀ k, ExtMark extsList path k → k = route.target.length := by
  rcases indexPath_cases config path with ⟨hfirst, hsecond⟩ | ⟨-, hext⟩
  · rw [hfirst] at hroute
    rw [hsecond, hroute] at htexts
    rw [hsecond, hroute, eq_comm, ← staleInfo_eq_nil_iff]
    have hkept : ¬ (generatedQuery route path ≠ [] ∧ 0x3F ∈ route.target) := by
      rintro ⟨hne, hmark⟩
      rw [TextsOver, if_neg (show routedQuery path (some route) ≠ [] from hne)] at htexts
      rcases htexts with ⟨hno, -⟩ | ⟨hno, -⟩
      · exact hno hmark
      · exact hno hmark
    rw [infoTexts, if_neg hkept, List.append_nil]
  · rw [staleInfo_of_none hext]
    exact iff_of_true rfl fun k hk => absurd hk (no_extMark hext k)

/-- A path info that HTTP/1.1 puts behind the target is not there over HTTP/2. -/
theorem remainder_lost (config : Config) {route : RouteTable}
    (hroute : httpRouteMatch vh (Http1.indexPath config path) = some route)
    (hinfo : generatedInfo route (Http1.indexPath config path) ≠ []) {d : Destination}
    (huri : d.uri = route.target ++ generatedInfo route (Http1.indexPath config path))
    (hpathInfo : d.pathInfo = generatedInfo route (Http1.indexPath config path)) :
    Http2.Memory.routedDestination vh path query ≠ some d := by
  intro h
  obtain ⟨-, -, htexts, hsecondInfo⟩ := (second_routed_iff vh).mp h
  rcases indexPath_cases config path with ⟨hfirst, hsecond⟩ | ⟨-, hext⟩
  · have htype : route.type = .path := by
      by_contra hno
      exact hinfo (if_neg hno)
    have hnone : routedQuery path (some route) = [] :=
      generatedQuery_other (by rw [htype]; nofun)
    rw [hfirst] at hroute huri hinfo
    rw [hsecond, hroute, TextsOver, if_pos hnone, huri] at htexts
    exact hinfo (List.append_right_eq_self.mp htexts.1)
  · rw [staleInfo_of_none hext] at hsecondInfo
    exact hinfo (hpathInfo.symm.trans hsecondInfo)

/-- **Agreement**: the two parsers arrive at the same place for exactly these requests. -/
theorem agree_iff_alike (config : Config) (vh : Option VHostEntry) (path : List UInt8)
    (query : Option (List UInt8)) :
    Agree (Http1.routedDestination config vh path query)
        (Http2.Memory.routedDestination vh path query)
      ↔ Alike path query (Http1.indexPath config path) (Http2.Memory.indexPath path)
          (httpRouteMatch vh (Http1.indexPath config path))
          (httpRouteMatch vh (Http2.Memory.indexPath path)) := by
  unfold Http1.routedDestination
  dsimp only
  cases hroute : httpRouteMatch vh (Http1.indexPath config path) with
  | none =>
      dsimp only
      rw [agree_some_iff, second_routed_iff, unrouted_info_iff config _ hroute]
      have hjoin : joinQuery [] (query.getD []) = query.getD [] := by simp [joinQuery]
      constructor
      · rintro ⟨hfits, hbackend, htexts, hmarks⟩
        exact ⟨by simp, hfits, hbackend, by simpa only [routedText, routedQuery, hjoin] using htexts,
          fun _ => hmarks, by simp, by simp⟩
      · intro h
        exact ⟨h.fits₂, h.backend, by simpa only [routedText, routedQuery, hjoin] using h.texts,
          h.unrouted rfl⟩
  | some route =>
      dsimp only
      by_cases hinfo : generatedInfo route (Http1.indexPath config path) = []
      · constructor
        · rintro ⟨d, hfirst, hsecond⟩
          obtain ⟨hfits, rfl⟩ := first_eq_some_iff.mp hfirst
          rw [if_pos hinfo] at hsecond
          obtain ⟨hfits₂, hbackend, htexts, hmarks⟩ := (second_routed_iff vh).mp hsecond
          refine ⟨?_, hfits₂, hbackend, htexts, by simp, ?_, ?_⟩
          · rintro _ ⟨⟩
            exact hfits
          · rintro _ ⟨⟩
            exact generatedInfo_eq_nil_iff.mp hinfo
          · rintro _ ⟨⟩
            exact (routed_info_iff config hroute htexts).mp hmarks
        · intro h
          refine ⟨_, first_eq_some_iff.mpr ⟨h.fits₁ route rfl, rfl⟩, ?_⟩
          rw [if_pos hinfo]
          exact (second_routed_iff vh).mpr ⟨h.fits₂, h.backend, h.texts,
            (routed_info_iff config hroute h.texts).mpr (h.no_mark route rfl)⟩
      · refine iff_of_false ?_ fun h =>
          hinfo (generatedInfo_eq_nil_iff.mpr (h.no_remainder route rfl))
        rintro ⟨d, hfirst, hsecond⟩
        obtain ⟨-, rfl⟩ := first_eq_some_iff.mp hfirst
        rw [if_neg hinfo] at hsecond
        exact remainder_lost config hroute hinfo rfl rfl hsecond

end Agreement

/-! ## The parsers -/

/-- A request for this host and this target, which is a path and a query, is routed alike. -/
def RoutesAlike (config : Config) (host path : List UInt8) (query : Option (List UInt8)) : Prop :=
  let vh := Http1.httpVhostGetContext config host
  let uri₁ := Http1.indexPath config path
  let uri₂ := Http2.Memory.indexPath path
  Alike path query uri₁ uri₂ (httpRouteMatch vh uri₁) (httpRouteMatch vh uri₂)

/-- The configuration without a virtual host, with the default page of the code. -/
def plainConfig : Config := ⟨[], [], [], [], 8192, []⟩

theorem plainConfig_noNul : plainConfig.NoNul := ⟨by decide, nofun⟩

/-- `GET /a.php/7?x=1` for the host `one`. -/
def scriptText : Http1.RoutedText where
  method := ascii "GET"
  path := ascii "/a.php/7"
  query := some (ascii "x=1")
  version := ascii "HTTP/1.0"
  lines := [⟨ascii "HOST", ascii " one", by decide, by decide, by decide⟩]
  method_word := by decide
  method_length := by decide
  path_word := by decide
  path_no_query := by decide
  query_word q hq := by
    obtain rfl := Option.some.inj hq
    decide
  version_word := by decide
  version_length := by decide

/-- `GET /?page=2` for the host `one`. -/
def pageText : Http1.RoutedText :=
  { scriptText with
    path := ascii "/"
    query := some (ascii "page=2")
    path_word := by decide
    path_no_query := by decide
    query_word := fun q hq => by
      obtain rfl := Option.some.inj hq
      decide }

end Halmos.Http
