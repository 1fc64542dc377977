import Halmos.Http.RouteWrites
import Halmos.Http1.RequestText

set_option autoImplicit false

/-! # Where a request arrives

What the two parsers make of a target and a host: the URI, the query, the path info and the backend.
Both call `http_route_apply_logic`, with arrays of different sizes, and both look for a path info in
the path of a request: HTTP/1.1 behind the last dot, HTTP/2 behind the first extension of a list.
-/

namespace Halmos.Http

open Http1

/-- The strings of a request that has been routed, and its backend. A null pointer is read as the
empty string. -/
structure Destination where
  uri : List UInt8
  queryString : List UInt8
  pathInfo : List UInt8
  backendType : FcgiBackend
  deriving DecidableEq, Repr

/-- A path and a query, as they are cut out of a target. -/
structure Parts (path : List UInt8) (query : Option (List UInt8)) : Prop where
  path_no_nul : 0 ∉ path
  path_no_mark : 0x3F ∉ path
  query_no_nul : ∀ q ∈ query, 0 ∉ q

/-! ## The strings of a route -/

/-- `http_route_apply_logic` with arrays of these sizes for the target and the path info. -/
def httpRouteApplyLogicIn (targetSize pathSize : Nat) (route : RouteTable)
    (originalUri : List UInt8) : Option (List UInt8 × List UInt8 × List UInt8) := do
  let outTarget ← strcat targetSize [] route.target
  let remainder := originalUri.drop route.source.length
  match route.type with
  | .none => some (outTarget, [], [])
  | .path => do
      let outPathInfo ← strcat pathSize [] remainder
      some (outTarget, [], outPathInfo)
  | .query =>
      let temp := remainder.take 255
      if 255 ≤ remainder.length ∧ (completeTokens temp).length ≤ route.varNames.length then none
      else do
        let p := if temp.head? = some 0x2F then temp.drop 1 else temp
        let outQuery ← queryPairs (route.varNames.zip (strtokSlash p)) []
        some (outTarget, outQuery, [])

theorem httpRouteApplyLogic_eq : httpRouteApplyLogic = httpRouteApplyLogicIn 128 128 := rfl

/-- The query a route makes of a URI. -/
def generatedQuery (route : RouteTable) (uri : List UInt8) : List UInt8 :=
  (applyLogic route uri []).query

/-- The path info a route makes of a URI. -/
def generatedInfo (route : RouteTable) (uri : List UInt8) : List UInt8 :=
  if route.type = .path then remainderOf route uri else []

/-- What has to fit for the call. -/
structure CallFits (targetSize pathSize : Nat) (route : RouteTable) (uri : List UInt8) : Prop where
  target : route.target.length < targetSize
  pathInfo : (generatedInfo route uri).length < pathSize
  temp : TempFits route uri
  query : (generatedQuery route uri).length < 256

variable {route : RouteTable} {uri : List UInt8}

theorem generatedQuery_query (htype : route.type = .query) (htemp : TempFits route uri) :
    generatedQuery route uri = (tempLoop route.varNames ((remainderOf route uri).take 255)).2 := by
  unfold generatedQuery applyLogic
  rw [htype]
  dsimp only
  rw [tempLoop_behind (htemp htype)]

theorem generatedQuery_other (htype : route.type ≠ .query) : generatedQuery route uri = [] := by
  unfold generatedQuery applyLogic
  cases h : route.type with
  | none => rfl
  | path => rfl
  | query => exact absurd h htype

theorem length_generatedQuery (htemp : TempFits route uri) :
    (generatedQuery route uri).length = routeQueryLength route uri :=
  (applyLogic_strings htemp []).2.1

/-- A call gives its strings exactly if they fit. -/
theorem httpRouteApplyLogicIn_eq_some_iff {targetSize pathSize : Nat} (hpath : 0 < pathSize)
    (route : RouteTable) (uri : List UInt8) (r : List UInt8 × List UInt8 × List UInt8) :
    httpRouteApplyLogicIn targetSize pathSize route uri = some r ↔
      CallFits targetSize pathSize route uri ∧
        r = (route.target, generatedQuery route uri, generatedInfo route uri) := by
  have hrem : uri.drop route.source.length = remainderOf route uri := rfl
  have hcat : ∀ (cap : Nat) (t : List UInt8),
      strcat cap [] t = if t.length < cap then some t else none := by
    intro cap t
    simp [strcat]
  have hfits : CallFits targetSize pathSize route uri ↔ route.target.length < targetSize ∧
      (generatedInfo route uri).length < pathSize ∧ TempFits route uri ∧
      (generatedQuery route uri).length < 256 :=
    ⟨fun h => ⟨h.1, h.2, h.3, h.4⟩, fun h => ⟨h.1, h.2.1, h.2.2.1, h.2.2.2⟩⟩
  rw [hfits]
  unfold httpRouteApplyLogicIn
  rw [hcat]
  cases htype : route.type with
  | none =>
      have hne : route.type ≠ .query := by simp [htype]
      have hquery : generatedQuery route uri = [] := generatedQuery_other hne
      have hinfo : generatedInfo route uri = [] := if_neg (by simp [htype])
      have htemp : TempFits route uri := fun h => absurd h hne
      by_cases htarget : route.target.length < targetSize <;>
        simp [htarget, hquery, hinfo, htemp, hpath, eq_comm]
  | path =>
      have hne : route.type ≠ .query := by simp [htype]
      have hquery : generatedQuery route uri = [] := generatedQuery_other hne
      have hinfo : generatedInfo route uri = remainderOf route uri := if_pos htype
      have htemp : TempFits route uri := fun h => absurd h hne
      dsimp only
      rw [hcat, hrem, hquery, hinfo]
      by_cases htarget : route.target.length < targetSize <;>
        by_cases hroom : (remainderOf route uri).length < pathSize <;>
        simp [htarget, hroom, htemp, eq_comm]
  | query =>
      have hinfo : generatedInfo route uri = [] := if_neg (by simp [htype])
      dsimp only
      rw [hrem, hinfo]
      by_cases hlong : 255 ≤ (remainderOf route uri).length ∧
          (completeTokens ((remainderOf route uri).take 255)).length ≤ route.varNames.length
      · have htemp : ¬ TempFits route uri := fun h => by
          rcases h htype with h | h <;> omega
        by_cases htarget : route.target.length < targetSize <;> simp [htarget, htemp, hlong]
      · have htemp : TempFits route uri := fun _ => by
          by_contra hno
          exact hlong (by omega)
        have hlen := length_generatedQuery htemp
        rw [routeQueryLength, if_pos htype] at hlen
        simp only [if_neg hlong, strtokSlash_drop, queryPairs_eq_tempLoop, ← hlen,
          ← generatedQuery_query htype htemp]
        by_cases htarget : route.target.length < targetSize <;>
          by_cases hroom : (generatedQuery route uri).length < 256 <;>
          simp [htarget, hroom, htemp, hpath, eq_comm]

/-! ## Strings without NUL -/

theorem pairText_no_nul {varIdx : Nat} {name token : List UInt8} (hname : 0 ∉ name)
    (htoken : 0 ∉ token) : 0 ∉ pairText varIdx name token := by
  have hsep : (0 : UInt8) ∉ (if 0 < varIdx then ascii "&" else []) := by split <;> decide
  have heq : (0 : UInt8) ∉ ascii "=" := by decide
  intro hmem
  have hmem := List.mem_of_mem_take hmem
  simp [hsep, hname, heq, htoken] at hmem

theorem tokenWrites_no_nul {names : List (List UInt8)} {s outQuery : List UInt8} {pos varIdx : Nat}
    (hnames : ∀ name ∈ names, 0 ∉ name) (htokens : ∀ token ∈ strtokSlash s, 0 ∉ token)
    (hout : 0 ∉ outQuery) : 0 ∉ (tokenWrites names s pos varIdx outQuery).2 := by
  induction names generalizing s pos varIdx outQuery with
  | nil =>
      cases hr : strtok s pos with
      | none => rwa [tokenWrites_none pos varIdx outQuery [] hr]
      | some r => rwa [tokenWrites_nil pos varIdx outQuery hr]
  | cons name names ih =>
      cases hr : strtok s pos with
      | none => rwa [tokenWrites_none pos varIdx outQuery _ hr]
      | some r =>
          have hsplit := (strtok_some pos hr).1
          rw [hsplit] at htokens
          rw [tokenWrites_cons pos varIdx outQuery name names hr]
          refine ih (fun n hn => hnames n (List.mem_cons_of_mem _ hn))
            (fun t ht => htokens t (List.mem_cons_of_mem _ ht)) ?_
          have hpair : 0 ∉ pairText varIdx name r.token :=
            pairText_no_nul (hnames name List.mem_cons_self) (htokens r.token List.mem_cons_self)
          simp [hout, hpair]

theorem generatedQuery_no_nul (hroute : route.NoNul) (huri : 0 ∉ uri) :
    0 ∉ generatedQuery route uri := by
  unfold generatedQuery applyLogic
  cases htype : route.type with
  | none => exact List.not_mem_nil
  | path => exact List.not_mem_nil
  | query =>
      dsimp only
      have htext : 0 ∉ tempText (remainderOf route uri) [] := by
        have hrem : 0 ∉ remainderOf route uri := fun hmem => huri (List.mem_of_mem_drop hmem)
        unfold tempText
        split
        · exact hrem
        · rw [cstr_nil, List.append_nil]
          exact fun hmem => hrem (List.mem_of_mem_take hmem)
      have htokens : ∀ s : List UInt8, 0 ∉ s → ∀ token ∈ strtokSlash s, 0 ∉ token :=
        fun s hs token htoken hmem => hs (mem_of_mem_strtokSlash htoken hmem)
      unfold tempLoop
      split
      · exact tokenWrites_no_nul hroute.varNames
          (htokens _ fun hmem => htext (List.mem_of_mem_drop hmem)) List.not_mem_nil
      · exact tokenWrites_no_nul hroute.varNames (htokens _ htext) List.not_mem_nil

/-- A route that matches is one of the virtual host, and its source begins the URI. -/
theorem httpRouteMatch_mem {vh : VHostEntry} (h : httpRouteMatch (some vh) uri = some route) :
    route ∈ vh.routes ∧ route.source <+: uri := by
  have hfold : ∀ (routes : List RouteTable) (best : Option RouteTable × Nat),
      (routes.foldl (fun best route =>
        if route.source <+: uri ∧ best.2 < route.source.length then
          (some route, route.source.length)
        else best) best).1 = some route →
      best.1 = some route ∨ route ∈ routes ∧ route.source <+: uri := by
    intro routes
    induction routes with
    | nil => exact fun best h => .inl h
    | cons first routes ih =>
        intro best h
        rw [List.foldl_cons] at h
        rcases ih _ h with hbest | ⟨hmem, hsource⟩
        · split at hbest
          · next hthere =>
            obtain rfl := Option.some.inj hbest
            exact .inr ⟨List.mem_cons_self, hthere.1⟩
          · exact .inl hbest
        · exact .inr ⟨List.mem_cons_of_mem _ hmem, hsource⟩
  exact (hfold vh.routes (none, 0) h).resolve_left nofun

end Halmos.Http

namespace Halmos.Http1

/-- The strings of a configuration have no NUL in them. -/
structure Config.NoNul (config : Config) : Prop where
  defaultPage : 0 ∉ config.defaultPage
  routes : ∀ vh ∈ config.vhosts, ∀ route ∈ vh.routes, route.NoNul

theorem Config.NoNul.of_match {config : Config} (h : config.NoNul) {host uri : List UInt8}
    {route : RouteTable}
    (hmatch : httpRouteMatch (httpVhostGetContext config host) uri = some route) : route.NoNul := by
  cases hvh : httpVhostGetContext config host with
  | none =>
      rw [hvh] at hmatch
      cases hmatch
  | some vh =>
      rw [hvh] at hmatch
      exact h.routes vh (List.mem_of_find?_eq_some hvh) route (Http.httpRouteMatch_mem hmatch).1

end Halmos.Http1
