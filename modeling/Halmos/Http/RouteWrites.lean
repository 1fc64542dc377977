import Halmos.Http1.RouteArea

set_option autoImplicit false

/-! # The writes of a route

Every write of `http_route_apply_logic` and of its two callers while a route is applied: the array,
where the write begins and how long it is. The copies are unbounded, so the writes stay in the
arrays exactly for paths, queries and targets of a bounded length (`routeWrites_inside_iff`).
-/

namespace Halmos.Http

open Http1

/-- The arrays that are written to. -/
inductive Dest where
  | tUri
  | tQuery
  | tPath
  | temp
  | pair
  | routeResult
  | h2UriBuf
  | queryStringBuffer
  deriving DecidableEq, Repr

/-- The two parsers that apply a route. -/
inductive Caller where
  | http1
  | http2
  deriving DecidableEq, Repr

/-- The sizes of the arrays, which the callers choose for the targets of the copies. -/
def Caller.size : Caller → Dest → Nat
  | .http1, .tUri => 128
  | .http2, .tUri => 1024
  | _, .tQuery => 256
  | .http1, .tPath => 128
  | .http2, .tPath => 256
  | _, .temp => 256
  | _, .pair => 128
  | _, .routeResult => 512
  | _, .h2UriBuf => 1024
  | _, .queryStringBuffer => 512

structure Write where
  dest : Dest
  off : Nat
  len : Nat
  deriving DecidableEq, Repr

def Write.Inside (caller : Caller) (w : Write) : Prop := w.off + w.len ≤ caller.size w.dest

instance (caller : Caller) (w : Write) : Decidable (w.Inside caller) :=
  inferInstanceAs (Decidable (_ ≤ _))

/-- All the writes of a list stay in their arrays. -/
def AllInside (caller : Caller) (ws : List Write) : Prop := ∀ w ∈ ws, w.Inside caller

instance (caller : Caller) (ws : List Write) : Decidable (AllInside caller ws) :=
  inferInstanceAs (Decidable (∀ w ∈ ws, _))

@[simp] theorem allInside_nil (caller : Caller) : AllInside caller [] := List.forall_mem_nil _

@[simp] theorem allInside_cons (caller : Caller) (w : Write) (ws : List Write) :
    AllInside caller (w :: ws) ↔ w.Inside caller ∧ AllInside caller ws := List.forall_mem_cons

@[simp] theorem allInside_append (caller : Caller) (ws ws' : List Write) :
    AllInside caller (ws ++ ws') ↔ AllInside caller ws ∧ AllInside caller ws' :=
  List.forall_mem_append

/-! ## `strtok` -/

/-- What a call of `strtok` returns, what is left of the string and where that is, and where a NUL
is put behind the token. -/
structure StrtokResult where
  token : List UInt8
  rest : List UInt8
  restPos : Nat
  cut : Option Nat
  deriving DecidableEq, Repr

/-- `strtok(.., "/")` on what is left of the string, from `pos` on. -/
def strtok (s : List UInt8) (pos : Nat) : Option StrtokResult :=
  let skipped := (s.takeWhile (fun c => c = 0x2F)).length
  let s := s.drop skipped
  if s = [] then none
  else
    let token := s.takeWhile (fun c => c ≠ 0x2F)
    let stop := pos + skipped + token.length
    match s.drop token.length with
    | [] => some ⟨token, [], stop, none⟩
    | _ :: rest => some ⟨token, rest, stop + 1, some stop⟩

/-- What `snprintf` leaves in `pair`. -/
def pairText (varIdx : Nat) (name token : List UInt8) : List UInt8 :=
  ((if 0 < varIdx then ascii "&" else []) ++ name ++ ascii "=" ++ token).take 127

/-- The loop over the tokens of a QUERY route from the call of `strtok` on: its writes, and
`out_query` at the end. -/
def tokenWrites : List (List UInt8) → List UInt8 → Nat → Nat → List UInt8 → List Write × List UInt8
  | names, s, pos, varIdx, outQuery =>
      match strtok s pos with
      | none => ([], outQuery)
      | some r =>
          let cut := r.cut.toList.map fun i => ⟨.temp, i, 1⟩
          match names with
          | [] => (cut, outQuery)
          | name :: names =>
              let pair := pairText varIdx name r.token
              let later := tokenWrites names r.rest r.restPos (varIdx + 1) (outQuery ++ pair)
              (cut ++ ⟨.pair, 0, pair.length + 1⟩ :: ⟨.tQuery, outQuery.length, pair.length + 1⟩ ::
                later.1, later.2)

/-! ## The function and its callers -/

/-- What `http_route_apply_logic` has written, and the strings it leaves. -/
structure Applied where
  writes : List Write
  target : List UInt8
  query : List UInt8
  pathInfo : List UInt8
  deriving DecidableEq, Repr

/-- The string in `temp`, with the memory from its last byte on: `strncpy` puts no NUL behind 255
bytes. -/
def tempText (remainder behind : List UInt8) : List UInt8 :=
  if remainder.length < 255 then remainder else remainder.take 255 ++ cstr behind

/-- The loop from `p` on, which is behind a slash at the start. -/
def tempLoop (names : List (List UInt8)) (temp : List UInt8) : List Write × List UInt8 :=
  if temp.head? = some 0x2F then tokenWrites names (temp.drop 1) 1 0 []
  else tokenWrites names temp 0 0 []

/-- `http_route_apply_logic(match, uri, out_target, out_query, out_path_info)`. -/
def applyLogic (route : RouteTable) (uri behind : List UInt8) : Applied :=
  let remainder := remainderOf route uri
  let target : Write := ⟨.tUri, 0, route.target.length + 1⟩
  match route.type with
  | .none => ⟨[target, ⟨.tQuery, 0, 1⟩, ⟨.tPath, 0, 1⟩], route.target, [], []⟩
  | .path =>
      ⟨[target, ⟨.tPath, 0, remainder.length + 1⟩, ⟨.tQuery, 0, 1⟩], route.target, [], remainder⟩
  | .query =>
      let loop := tempLoop route.varNames (tempText remainder behind)
      ⟨target :: ⟨.tPath, 0, 1⟩ :: ⟨.tQuery, 0, 1⟩ :: ⟨.temp, 0, 255⟩ :: loop.1, route.target, loop.2,
        []⟩

/-- The writes of `http1_parser_parse_header` behind the call, for a query of the client. -/
def http1Writes (a : Applied) (query : List UInt8) : List Write :=
  let sep := if query ≠ [] ∧ a.query ≠ [] then ascii "&" else []
  (if sep = [] then [] else [⟨.tQuery, a.query.length, sep.length + 1⟩]) ++
    (if query = [] then [] else [⟨.tQuery, a.query.length + sep.length, query.length + 1⟩]) ++
    ⟨.routeResult, 0, a.target.length + 1⟩ ::
    ⟨.routeResult, a.target.length + 1, (joinQuery a.query query).length + 1⟩ ::
    if a.pathInfo = [] then [] else [⟨.routeResult, a.target.length, a.pathInfo.length + 1⟩]

/-- The writes of `parse_header` of HTTP/2 behind the call. -/
def http2Writes (a : Applied) : List Write :=
  if 1024 ≤ a.target.length then []
  else
    ⟨.h2UriBuf, 0, min (a.target.length + 1) 1024⟩ ::
      if a.query = [] then []
      else
        match a.target.idxOf? 0x3F with
        | some q => [⟨.h2UriBuf, q, 1⟩]
        | none => [⟨.queryStringBuffer, 0, min (a.query.length + 1) 512⟩]

/-- All the writes for a route, with the memory behind `temp` as it happens to be. -/
def routeWrites (caller : Caller) (route : RouteTable) (uri query behind : List UInt8) :
    List Write :=
  let a := applyLogic route uri behind
  a.writes ++ match caller with
    | .http1 => http1Writes a query
    | .http2 => http2Writes a

/-! ## What fits -/

/-- The length of the pairs of names and tokens, from the pair `varIdx` on. -/
def pairsLength : Nat → List (List UInt8 × List UInt8) → Nat
  | _, [] => 0
  | varIdx, (name, token) :: rest =>
      min 127 (name.length + token.length + if varIdx = 0 then 1 else 2) +
        pairsLength (varIdx + 1) rest

/-- The length of the query of a route. -/
def routeQueryLength (route : RouteTable) (uri : List UInt8) : Nat :=
  if route.type = .query then
    pairsLength 0 (route.varNames.zip (strtokSlash ((remainderOf route uri).take 255)))
  else 0

/-- The length of the query in `t_query`, with the one of the client over HTTP/1.1. -/
def Caller.queryLength (caller : Caller) (generated : Nat) (query : List UInt8) : Nat :=
  match caller with
  | .http1 => generated + (if query ≠ [] ∧ generated ≠ 0 then 1 else 0) + query.length
  | .http2 => generated

/-- The remainder fits `temp`, or `strtok` does not get to its end. -/
def TempFits (route : RouteTable) (uri : List UInt8) : Prop :=
  route.type = .query → (remainderOf route uri).length < 255 ∨
    route.varNames.length < (completeTokens ((remainderOf route uri).take 255)).length

/-- What has to fit: the target and the path info of a PATH route; for a QUERY route the remainder,
unless more tokens than names end in its first 255 bytes; and the query. -/
structure WritesFit (caller : Caller) (route : RouteTable) (uri query : List UInt8) : Prop where
  target : route.target.length < caller.size .tUri
  pathInfo : route.type = .path → (remainderOf route uri).length < caller.size .tPath
  temp : TempFits route uri
  query : caller.queryLength (routeQueryLength route uri) query < 256

/-! ## Tokens -/

/-- A token is not empty and has no slash in it. -/
structure IsToken (token : List UInt8) : Prop where
  ne_nil : token ≠ []
  no_slash : 0x2F ∉ token

/-- A string is nothing but slashes, or has a token behind them: the last one, or one with a slash
behind it. -/
@[elab_as_elim]
theorem token_cases {motive : List UInt8 → Prop}
    (slashes : ∀ k, motive (List.replicate k 0x2F))
    (last : ∀ k token, IsToken token → motive (List.replicate k 0x2F ++ token))
    (cut : ∀ k token rest, IsToken token →
      motive (List.replicate k 0x2F ++ (token ++ 0x2F :: rest)))
    (s : List UInt8) : motive s := by
  have hsplit : (∃ k, s = List.replicate k 0x2F) ∨ ∃ k token tail, IsToken token ∧
      (∀ c ∈ tail.head?, c = 0x2F) ∧ s = List.replicate k 0x2F ++ (token ++ tail) := by
    induction s with
    | nil => exact .inl ⟨0, rfl⟩
    | cons c s ih =>
        by_cases hc : c = 0x2F
        · subst hc
          rcases ih with ⟨k, rfl⟩ | ⟨k, token, tail, htoken, htail, rfl⟩
          · exact .inl ⟨k + 1, rfl⟩
          · exact .inr ⟨k + 1, token, tail, htoken, htail, rfl⟩
        · have hno : 0x2F ∉ c :: s.takeWhile (fun c => c ≠ 0x2F) := by
            intro hmem
            rcases List.mem_cons.mp hmem with heq | hmem
            · exact hc heq.symm
            · simpa using List.mem_takeWhile_imp hmem
          refine .inr ⟨0, c :: s.takeWhile (fun c => c ≠ 0x2F), s.dropWhile (fun c => c ≠ 0x2F),
            ⟨by simp, hno⟩, fun d hd => ?_, by simp [List.takeWhile_append_dropWhile]⟩
          have hhead := List.head?_dropWhile_not (fun c : UInt8 => c ≠ 0x2F) s
          rw [Option.mem_def.mp hd] at hhead
          simpa using hhead
  rcases hsplit with ⟨k, rfl⟩ | ⟨k, token, tail, htoken, htail, rfl⟩
  · exact slashes k
  · cases tail with
    | nil =>
        rw [List.append_nil]
        exact last k token htoken
    | cons c tail =>
        obtain rfl := htail c rfl
        exact cut k token tail htoken

section Tokens

variable {token : List UInt8} (k pos : Nat)

theorem strtok_slashes : strtok (List.replicate k 0x2F) pos = none := by
  simp [strtok]

theorem takeWhile_token (htoken : IsToken token) (tail : List UInt8)
    (htail : ∀ c ∈ tail.head?, c = 0x2F) :
    ((List.replicate k 0x2F ++ (token ++ tail)).takeWhile (fun c => c = 0x2F)).length = k ∧
      (token ++ tail).takeWhile (fun c => c ≠ 0x2F) = token := by
  obtain ⟨c, cs, rfl⟩ := List.exists_cons_of_ne_nil htoken.ne_nil
  have hc : c ≠ 0x2F := fun heq => htoken.no_slash (heq ▸ List.mem_cons_self)
  constructor
  · rw [List.takeWhile_append_of_pos (by simp), List.cons_append,
      List.takeWhile_cons_of_neg (by simpa)]
    simp
  · rw [List.takeWhile_append_of_pos]
    · cases tail with
      | nil => simp
      | cons d tail =>
          obtain rfl := htail d rfl
          simp
    · intro d hd
      simpa using fun heq : d = 0x2F => htoken.no_slash (heq ▸ hd)

theorem strtok_last (htoken : IsToken token) :
    strtok (List.replicate k 0x2F ++ token) pos
      = some ⟨token, [], pos + k + token.length, none⟩ := by
  obtain ⟨hskip, hword⟩ := takeWhile_token k htoken [] nofun
  rw [List.append_nil] at hskip hword
  have hdrop : (List.replicate k 0x2F ++ token).drop k = token := List.drop_left' (by simp)
  unfold strtok
  simp only [hskip, hdrop, if_neg htoken.ne_nil, hword, List.drop_length]

theorem strtok_cut (htoken : IsToken token) (rest : List UInt8) :
    strtok (List.replicate k 0x2F ++ (token ++ 0x2F :: rest)) pos
      = some ⟨token, rest, pos + k + token.length + 1, some (pos + k + token.length)⟩ := by
  obtain ⟨hskip, hword⟩ := takeWhile_token k htoken (0x2F :: rest) (by simp)
  have hdrop : (List.replicate k 0x2F ++ (token ++ 0x2F :: rest)).drop k = token ++ 0x2F :: rest :=
    List.drop_left' (by simp)
  have hne : token ++ 0x2F :: rest ≠ [] := by simp
  unfold strtok
  simp only [hskip, hdrop, if_neg hne, hword, List.drop_left]

theorem splitOn_slashes (s : List UInt8) :
    (List.replicate k 0x2F ++ s).splitOn 0x2F = List.replicate k [] ++ s.splitOn 0x2F := by
  induction k with
  | zero => rfl
  | succ k ih =>
      rw [List.replicate_succ, List.cons_append, List.splitOn_cons_eq_if_modifyHead, if_pos (by simp),
        ih, List.replicate_succ, List.cons_append]

/-- The tokens of a string are those that `strtok` gives. -/
theorem strtokSlash_slashes : strtokSlash (List.replicate k 0x2F) = [] := by
  have hsplit := splitOn_slashes k []
  rw [List.append_nil] at hsplit
  rw [strtokSlash, hsplit]
  simp

theorem completeTokens_slashes : completeTokens (List.replicate k 0x2F) = [] := by
  have hsplit := splitOn_slashes k []
  rw [List.append_nil] at hsplit
  rw [completeTokens, hsplit]
  simp

theorem strtokSlash_last (htoken : IsToken token) :
    strtokSlash (List.replicate k 0x2F ++ token) = [token] := by
  rw [strtokSlash, splitOn_slashes, List.splitOn_eq_singleton htoken.no_slash]
  simp [htoken.ne_nil]

theorem completeTokens_last (htoken : IsToken token) :
    completeTokens (List.replicate k 0x2F ++ token) = [] := by
  rw [completeTokens, splitOn_slashes, List.splitOn_eq_singleton htoken.no_slash]
  simp

theorem strtokSlash_cut (htoken : IsToken token) (rest : List UInt8) :
    strtokSlash (List.replicate k 0x2F ++ (token ++ 0x2F :: rest)) = token :: strtokSlash rest := by
  rw [strtokSlash, splitOn_slashes, List.splitOn_append_cons_self_of_not_mem htoken.no_slash]
  simp [htoken.ne_nil, strtokSlash]

theorem completeTokens_cut (htoken : IsToken token) (rest : List UInt8) :
    completeTokens (List.replicate k 0x2F ++ (token ++ 0x2F :: rest))
      = token :: completeTokens rest := by
  rw [completeTokens, splitOn_slashes, List.splitOn_append_cons_self_of_not_mem htoken.no_slash,
    List.dropLast_append_of_ne_nil (by simp), List.dropLast_cons_of_ne_nil (List.splitOn_ne_nil _ _)]
  simp [htoken.ne_nil, completeTokens]

end Tokens

/-! ## The loop over the tokens -/

section Loop

variable {s : List UInt8} {r : StrtokResult} {names : List (List UInt8)} (pos varIdx : Nat)
  (outQuery : List UInt8)

theorem tokenWrites_none (names : List (List UInt8)) (h : strtok s pos = none) :
    tokenWrites names s pos varIdx outQuery = ([], outQuery) := by
  unfold tokenWrites
  rw [h]

theorem tokenWrites_nil (h : strtok s pos = some r) :
    tokenWrites [] s pos varIdx outQuery
      = (r.cut.toList.map fun i => ⟨.temp, i, 1⟩, outQuery) := by
  unfold tokenWrites
  rw [h]

theorem tokenWrites_cons (name : List UInt8) (names : List (List UInt8))
    (h : strtok s pos = some r) :
    tokenWrites (name :: names) s pos varIdx outQuery
      = ((r.cut.toList.map fun i => ⟨.temp, i, 1⟩) ++
          ⟨.pair, 0, (pairText varIdx name r.token).length + 1⟩ ::
          ⟨.tQuery, outQuery.length, (pairText varIdx name r.token).length + 1⟩ ::
          (tokenWrites names r.rest r.restPos (varIdx + 1)
            (outQuery ++ pairText varIdx name r.token)).1,
        (tokenWrites names r.rest r.restPos (varIdx + 1)
          (outQuery ++ pairText varIdx name r.token)).2) := by
  rw [tokenWrites, h]

/-- With more tokens than names in front of it, `strtok` does not get to what is behind. -/
theorem tokenWrites_behind (h : names.length < (completeTokens s).length) (behind : List UInt8) :
    tokenWrites names (s ++ behind) pos varIdx outQuery
      = tokenWrites names s pos varIdx outQuery := by
  induction names generalizing s pos varIdx outQuery with
  | nil =>
      induction s using token_cases with
      | slashes k => simp [completeTokens_slashes] at h
      | last k token htoken => simp [completeTokens_last k htoken] at h
      | cut k token rest htoken =>
          rw [List.append_assoc, List.append_assoc, List.cons_append,
            tokenWrites_nil pos varIdx outQuery (strtok_cut k pos htoken (rest ++ behind)),
            tokenWrites_nil pos varIdx outQuery (strtok_cut k pos htoken rest)]
  | cons name names ih =>
      induction s using token_cases with
      | slashes k => simp [completeTokens_slashes] at h
      | last k token htoken => simp [completeTokens_last k htoken] at h
      | cut k token rest htoken =>
          rw [completeTokens_cut k htoken, List.length_cons, List.length_cons] at h
          rw [List.append_assoc, List.append_assoc, List.cons_append,
            tokenWrites_cons pos varIdx outQuery name names
              (strtok_cut k pos htoken (rest ++ behind)),
            tokenWrites_cons pos varIdx outQuery name names (strtok_cut k pos htoken rest)]
          dsimp only
          rw [ih _ _ _ (Nat.lt_of_succ_lt_succ h)]

/-- A string without a complete token is gone through to its end. -/
theorem strtok_reaches (h : completeTokens s = []) {c : UInt8} (hc : c ≠ 0x2F) :
    ∃ r, strtok (s ++ [c, 0x2F]) pos = some r ∧ r.cut = some (pos + s.length + 1) := by
  have hone : IsToken [c] := ⟨by simp, by simpa using Ne.symm hc⟩
  induction s using token_cases with
  | slashes k =>
      refine ⟨_, strtok_cut k pos hone [], ?_⟩
      simp
  | last k token htoken =>
      have hmore : IsToken (token ++ [c]) := ⟨by simp, by simp [htoken.no_slash, Ne.symm hc]⟩
      have hsplit : List.replicate k 0x2F ++ token ++ [c, 0x2F]
          = List.replicate k 0x2F ++ ((token ++ [c]) ++ 0x2F :: []) := by simp
      refine ⟨_, hsplit ▸ strtok_cut k pos hmore [], ?_⟩
      simp
      omega
  | cut k token rest htoken => simp [completeTokens_cut k htoken] at h

theorem tokenWrites_cut (names : List (List UInt8)) {i : Nat} (hr : strtok s pos = some r)
    (hcut : r.cut = some i) : ⟨.temp, i, 1⟩ ∈ (tokenWrites names s pos varIdx outQuery).1 := by
  cases names with
  | nil =>
      rw [tokenWrites_nil pos varIdx outQuery hr, hcut]
      exact List.mem_singleton_self _
  | cons name names =>
      rw [tokenWrites_cons pos varIdx outQuery name names hr, hcut]
      exact List.mem_append_left _ (List.mem_singleton_self _)

/-- With no more tokens than names in front of it, a slash behind the string is overwritten. -/
theorem tokenWrites_reaches (h : (completeTokens s).length ≤ names.length) {c : UInt8}
    (hc : c ≠ 0x2F) :
    ⟨.temp, pos + s.length + 1, 1⟩ ∈ (tokenWrites names (s ++ [c, 0x2F]) pos varIdx outQuery).1 := by
  induction names generalizing s pos varIdx outQuery with
  | nil =>
      obtain ⟨r, hr, hcut⟩ := strtok_reaches pos (List.length_eq_zero_iff.mp (Nat.le_zero.mp h)) hc
      exact tokenWrites_cut pos varIdx outQuery [] hr hcut
  | cons name names ih =>
      by_cases hnone : completeTokens s = []
      · obtain ⟨r, hr, hcut⟩ := strtok_reaches pos hnone hc
        exact tokenWrites_cut pos varIdx outQuery (name :: names) hr hcut
      induction s using token_cases with
      | slashes k => exact absurd (completeTokens_slashes k) hnone
      | last k token htoken => exact absurd (completeTokens_last k htoken) hnone
      | cut k token rest htoken =>
          rw [completeTokens_cut k htoken, List.length_cons, List.length_cons] at h
          have hlater := ih (pos + k + token.length + 1) (varIdx + 1)
            (outQuery ++ pairText varIdx name token) (Nat.le_of_succ_le_succ h)
          have hpos : pos + (List.replicate k 0x2F ++ (token ++ 0x2F :: rest)).length
              = pos + k + token.length + 1 + rest.length := by
            simp
            omega
          rw [hpos, List.append_assoc, List.append_assoc, List.cons_append,
            tokenWrites_cons pos varIdx outQuery name names
              (strtok_cut k pos htoken (rest ++ [c, 0x2F]))]
          exact List.mem_append_right _ (List.mem_cons_of_mem _ (List.mem_cons_of_mem _ hlater))

theorem length_pairText (varIdx : Nat) (name token : List UInt8) :
    (pairText varIdx name token).length
      = min 127 (name.length + token.length + if varIdx = 0 then 1 else 2) := by
  unfold pairText
  rw [List.length_take]
  cases varIdx with
  | zero => simp [ascii]; omega
  | succ i => simp [ascii]; omega

theorem strtokSlash_of_none (h : strtok s pos = none) : strtokSlash s = [] := by
  induction s using token_cases with
  | slashes k => exact strtokSlash_slashes k
  | last k token htoken => simp [strtok_last k pos htoken] at h
  | cut k token rest htoken => simp [strtok_cut k pos htoken] at h

/-- What a call of `strtok` takes from a string. -/
theorem strtok_some (h : strtok s pos = some r) :
    strtokSlash s = r.token :: strtokSlash r.rest ∧ r.restPos + r.rest.length ≤ pos + s.length ∧
      ∀ i ∈ r.cut, i < pos + s.length := by
  induction s using token_cases with
  | slashes k => simp [strtok_slashes k pos] at h
  | last k token htoken =>
      obtain rfl := Option.some.inj ((strtok_last k pos htoken).symm.trans h)
      refine ⟨strtokSlash_last k htoken, ?_, nofun⟩
      simp
      omega
  | cut k token rest htoken =>
      obtain rfl := Option.some.inj ((strtok_cut k pos htoken rest).symm.trans h)
      refine ⟨strtokSlash_cut k htoken rest, ?_, fun i hi => ?_⟩
      · simp
        omega
      · obtain rfl := Option.some.inj hi
        simp
        omega

/-- The query at the end of the loop. -/
theorem tokenWrites_query (names : List (List UInt8)) (s : List UInt8) :
    (tokenWrites names s pos varIdx outQuery).2.length
      = outQuery.length + pairsLength varIdx (names.zip (strtokSlash s)) := by
  induction names generalizing s pos varIdx outQuery with
  | nil =>
      cases hr : strtok s pos with
      | none => rw [tokenWrites_none pos varIdx outQuery [] hr]; rfl
      | some r => rw [tokenWrites_nil pos varIdx outQuery hr]; rfl
  | cons name names ih =>
      cases hr : strtok s pos with
      | none =>
          rw [tokenWrites_none pos varIdx outQuery _ hr, strtokSlash_of_none pos hr]
          rfl
      | some r =>
          rw [tokenWrites_cons pos varIdx outQuery name names hr, (strtok_some pos hr).1]
          dsimp only
          rw [ih, List.length_append, length_pairText, List.zip_cons_cons, pairsLength,
            Nat.add_assoc]

/-- The loop stays in its arrays, in every round, if and only if the query does. -/
theorem tokenWrites_inside_iff (caller : Caller) (names : List (List UInt8)) (s : List UInt8)
    (hpos : pos + s.length ≤ 256) (hout : outQuery.length < 256) :
    AllInside caller (tokenWrites names s pos varIdx outQuery).1 ↔
      outQuery.length + pairsLength varIdx (names.zip (strtokSlash s)) < 256 := by
  have hcut : ∀ {s : List UInt8} {r : StrtokResult} {pos : Nat}, pos + s.length ≤ 256 →
      strtok s pos = some r → AllInside caller (r.cut.toList.map fun i => ⟨.temp, i, 1⟩) := by
    intro s r pos hpos hr w hw
    obtain ⟨i, hi, rfl⟩ := List.mem_map.mp hw
    have hlt := (strtok_some pos hr).2.2 i (Option.mem_toList.mp hi)
    show i + 1 ≤ caller.size .temp
    have hsize : caller.size .temp = 256 := by cases caller <;> rfl
    omega
  induction names generalizing s pos varIdx outQuery with
  | nil =>
      rw [List.zip_nil_left, pairsLength, Nat.add_zero]
      refine iff_of_true ?_ hout
      cases hr : strtok s pos with
      | none =>
          rw [tokenWrites_none pos varIdx outQuery [] hr]
          exact allInside_nil caller
      | some r =>
          rw [tokenWrites_nil pos varIdx outQuery hr]
          exact hcut hpos hr
  | cons name names ih =>
      cases hr : strtok s pos with
      | none =>
          rw [tokenWrites_none pos varIdx outQuery _ hr, strtokSlash_of_none pos hr]
          exact iff_of_true (allInside_nil caller) hout
      | some r =>
          obtain ⟨htokens, hrest, -⟩ := strtok_some pos hr
          rw [tokenWrites_cons pos varIdx outQuery name names hr, htokens, List.zip_cons_cons,
            pairsLength, ← length_pairText, ← Nat.add_assoc]
          have hlen := length_pairText varIdx name r.token
          generalize pairText varIdx name r.token = pair at hlen ⊢
          have hpair : (⟨.pair, 0, pair.length + 1⟩ : Write).Inside caller := by
            show 0 + (pair.length + 1) ≤ caller.size .pair
            have hsize : caller.size .pair = 128 := by cases caller <;> rfl
            omega
          have hquery : (⟨.tQuery, outQuery.length, pair.length + 1⟩ : Write).Inside caller ↔
              outQuery.length + pair.length < 256 := by
            show outQuery.length + (pair.length + 1) ≤ caller.size .tQuery ↔ _
            have hsize : caller.size .tQuery = 256 := by cases caller <;> rfl
            omega
          rw [allInside_append, and_iff_right (hcut hpos hr), allInside_cons, and_iff_right hpair,
            allInside_cons, hquery]
          by_cases hroom : outQuery.length + pair.length < 256
          · have hlater := ih r.restPos (varIdx + 1) (outQuery ++ pair) r.rest (by omega)
              (by rwa [List.length_append])
            rw [List.length_append] at hlater
            rw [and_iff_right hroom]
            exact hlater
          · exact iff_of_false (fun h => hroom h.1) (by omega)

end Loop

/-! ## The writes of a whole call -/

/-- The slash in front of the tokens does not matter. -/
theorem completeTokens_drop (s : List UInt8) :
    completeTokens (if s.head? = some 0x2F then s.drop 1 else s) = completeTokens s := by
  cases s with
  | nil => rfl
  | cons c s =>
      by_cases hc : c = 0x2F
      · subst hc
        simp [completeTokens, List.splitOn_cons_eq_if_modifyHead,
          List.dropLast_cons_of_ne_nil (List.splitOn_ne_nil _ _)]
      · simp [hc]

section Call

variable {names : List (List UInt8)} {remainder : List UInt8}

theorem tempLoop_inside_iff (caller : Caller) (names : List (List UInt8)) {s : List UInt8}
    (hs : s.length ≤ 255) : AllInside caller (tempLoop names s).1 ↔
      pairsLength 0 (names.zip (strtokSlash s)) < 256 := by
  have hdrop := strtokSlash_drop s
  unfold tempLoop
  split at hdrop
  · next hslash =>
    rw [if_pos hslash, tokenWrites_inside_iff 1 0 [] caller names _ (by simp; omega) (by simp), hdrop,
      List.length_nil, Nat.zero_add]
  · next hslash =>
    rw [if_neg hslash, tokenWrites_inside_iff 0 0 [] caller names _ (by omega) (by simp),
      List.length_nil, Nat.zero_add]

theorem tempLoop_query (names : List (List UInt8)) (s : List UInt8) :
    (tempLoop names s).2.length = pairsLength 0 (names.zip (strtokSlash s)) := by
  have hdrop := strtokSlash_drop s
  unfold tempLoop
  split at hdrop
  · next hslash =>
    rw [if_pos hslash, tokenWrites_query, hdrop, List.length_nil, Nat.zero_add]
  · next hslash => rw [if_neg hslash, tokenWrites_query, List.length_nil, Nat.zero_add]

/-- The memory behind `temp` does not matter if `strtok` does not get there. -/
theorem tempLoop_behind (h : remainder.length < 255 ∨
      names.length < (completeTokens (remainder.take 255)).length) (behind : List UInt8) :
    tempLoop names (tempText remainder behind) = tempLoop names (remainder.take 255) := by
  unfold tempText
  by_cases hshort : remainder.length < 255
  · rw [if_pos hshort, List.take_of_length_le (Nat.le_of_lt hshort)]
  rw [if_neg hshort]
  have hmore := h.resolve_left hshort
  have hfirst := completeTokens_drop (remainder.take 255)
  generalize remainder.take 255 = s at hmore hfirst
  cases s with
  | nil => simp [completeTokens] at hmore
  | cons c s =>
      unfold tempLoop
      by_cases hc : c = 0x2F
      · subst hc
        rw [List.head?_cons, if_pos rfl, List.drop_one, List.tail_cons] at hfirst
        rw [← hfirst] at hmore
        simp only [List.cons_append, List.head?_cons, if_true, List.drop_one, List.tail_cons]
        exact tokenWrites_behind 1 0 [] hmore _
      · have hne : ¬ (some c = some (0x2F : UInt8)) := fun h => hc (Option.some.inj h)
        rw [List.cons_append, List.head?_cons, if_neg hne, List.head?_cons, if_neg hne,
          ← List.cons_append]
        exact tokenWrites_behind 0 0 [] hmore _

/-- If it gets there, it may find a slash there. -/
theorem tempLoop_reaches (h : 255 ≤ remainder.length)
    (hmore : (completeTokens (remainder.take 255)).length ≤ names.length) :
    ⟨.temp, 256, 1⟩ ∈ (tempLoop names (tempText remainder [0x78, 0x2F])).1 := by
  have hlen : (remainder.take 255).length = 255 := by
    rw [List.length_take]
    omega
  have hfirst := completeTokens_drop (remainder.take 255)
  have hbehind : cstr [0x78, 0x2F] = [0x78, 0x2F] := by decide
  unfold tempText
  rw [if_neg (not_lt.mpr h), hbehind]
  generalize remainder.take 255 = s at hlen hmore hfirst
  cases s with
  | nil => simp at hlen
  | cons c s =>
      rw [List.length_cons] at hlen
      unfold tempLoop
      by_cases hc : c = 0x2F
      · subst hc
        rw [List.head?_cons, if_pos rfl, List.drop_one, List.tail_cons] at hfirst
        rw [← hfirst] at hmore
        simp only [List.cons_append, List.head?_cons, if_true, List.drop_one, List.tail_cons]
        have hcut := tokenWrites_reaches 1 0 [] hmore (show (0x78 : UInt8) ≠ 0x2F by decide)
        rwa [show 1 + s.length + 1 = 256 by omega] at hcut
      · have hne : ¬ (some c = some (0x2F : UInt8)) := fun h => hc (Option.some.inj h)
        rw [List.cons_append, List.head?_cons, if_neg hne, ← List.cons_append]
        have hcut := tokenWrites_reaches 0 0 [] hmore (show (0x78 : UInt8) ≠ 0x2F by decide)
        rwa [show 0 + (c :: s).length + 1 = 256 by simp; omega] at hcut

end Call

variable {route : RouteTable} {uri : List UInt8}

/-- A copy of `n` bytes with a NUL behind them. -/
theorem copy_inside_iff (caller : Caller) (dest : Dest) (off n : Nat) :
    (⟨dest, off, n + 1⟩ : Write).Inside caller ↔ off + n < caller.size dest := by
  show off + (n + 1) ≤ caller.size dest ↔ off + n < caller.size dest
  omega

/-- What the function leaves for its callers. -/
theorem applyLogic_strings (h : TempFits route uri) (behind : List UInt8) :
    (applyLogic route uri behind).target = route.target ∧
      (applyLogic route uri behind).query.length = routeQueryLength route uri ∧
      (applyLogic route uri behind).pathInfo
        = if route.type = .path then remainderOf route uri else [] := by
  unfold applyLogic routeQueryLength
  cases htype : route.type with
  | none => simp
  | path => simp
  | query =>
      dsimp only
      rw [tempLoop_behind (h htype), tempLoop_query, if_pos rfl, if_neg nofun]
      exact ⟨rfl, rfl, rfl⟩

theorem applyLogic_inside_iff (caller : Caller) (h : TempFits route uri) (behind : List UInt8) :
    AllInside caller (applyLogic route uri behind).writes ↔
      route.target.length < caller.size .tUri ∧
      (route.type = .path → (remainderOf route uri).length < caller.size .tPath) ∧
      routeQueryLength route uri < 256 := by
  have hpath : 0 < caller.size .tPath := by cases caller <;> decide
  have hquery : 0 < caller.size .tQuery := by cases caller <;> decide
  have htemp : (⟨.temp, 0, 255⟩ : Write).Inside caller := by cases caller <;> decide
  have hone : ∀ dest, (⟨dest, 0, 1⟩ : Write).Inside caller ↔ 0 < caller.size dest :=
    fun dest => copy_inside_iff caller dest 0 0
  unfold applyLogic routeQueryLength
  cases htype : route.type with
  | none => simp [copy_inside_iff, hone, hpath, hquery]
  | path => simp [copy_inside_iff, hone, hquery]
  | query =>
      dsimp only
      rw [tempLoop_behind (h htype), if_pos rfl, allInside_cons, allInside_cons, allInside_cons,
        allInside_cons, and_iff_right htemp, tempLoop_inside_iff caller _ (List.length_take_le _ _)]
      simp [copy_inside_iff, hone, hpath, hquery]

/-- If nothing behind `temp` is overwritten, the remainder fits. -/
theorem tempFits_of_inside {caller : Caller}
    (h : ∀ behind, AllInside caller (applyLogic route uri behind).writes) : TempFits route uri := by
  by_contra htemp
  simp only [TempFits, not_forall, not_or, not_lt, exists_prop] at htemp
  obtain ⟨htype, hlong, hmore⟩ := htemp
  have hcut : ⟨.temp, 256, 1⟩ ∈ (applyLogic route uri [0x78, 0x2F]).writes := by
    unfold applyLogic
    rw [htype]
    simp only [List.mem_cons]
    exact .inr (.inr (.inr (.inr (tempLoop_reaches hlong hmore))))
  have hinside : 256 + 1 ≤ caller.size .temp := h _ _ hcut
  cases caller <;> exact absurd hinside (by decide)

/-! ## The callers -/

theorem http1Writes_inside_iff {a : Applied} (query : List UInt8) (htarget : a.target.length < 128)
    (hinfo : a.pathInfo.length < 128) (hquery : a.query.length < 256) :
    AllInside .http1 (http1Writes a query) ↔
      Caller.http1.queryLength a.query.length query < 256 := by
  have hsize : Caller.http1.size .tQuery = 256 ∧ Caller.http1.size .routeResult = 512 := ⟨rfl, rfl⟩
  have hjoin : (joinQuery a.query query).length
      = Caller.http1.queryLength a.query.length query := by
    unfold joinQuery Caller.queryLength
    by_cases hboth : query ≠ [] ∧ a.query ≠ []
    · rw [if_pos hboth, if_pos (by simpa using hboth)]
      simp [ascii]
      omega
    · rw [if_neg hboth, if_neg (by simpa using hboth)]
      simp
  have hinfo' : AllInside .http1
      (if a.pathInfo = [] then [] else [⟨.routeResult, a.target.length, a.pathInfo.length + 1⟩]) := by
    split
    · exact allInside_nil _
    · refine List.forall_mem_singleton.mpr ((copy_inside_iff _ _ _ _).mpr ?_)
      omega
  have hamp : ascii "&" ≠ [] ∧ (ascii "&").length = 1 := by decide
  unfold http1Writes
  dsimp only
  rw [allInside_append, allInside_append, allInside_cons, allInside_cons, and_iff_left hinfo',
    copy_inside_iff, copy_inside_iff, hjoin, hsize.2]
  by_cases hq : query = []
  · subst hq
    simp [Caller.queryLength]
    omega
  · by_cases ha : a.query = []
    · simp [hq, ha, Caller.queryLength, copy_inside_iff, hsize.1]
      omega
    · simp [hq, ha, hamp, Caller.queryLength, copy_inside_iff, hsize.1]
      omega

theorem http2Writes_inside (a : Applied) : AllInside .http2 (http2Writes a) := by
  unfold http2Writes
  split
  · exact allInside_nil _
  · next hshort =>
    have hbuf : (⟨.h2UriBuf, 0, min (a.target.length + 1) 1024⟩ : Write).Inside .http2 := by
      show 0 + min (a.target.length + 1) 1024 ≤ 1024
      omega
    rw [allInside_cons, and_iff_right hbuf]
    split
    · exact allInside_nil _
    · cases hmark : a.target.idxOf? 0x3F with
      | none =>
          refine List.forall_mem_singleton.mpr ?_
          show 0 + min (a.query.length + 1) 512 ≤ 512
          omega
      | some q =>
          have hlt := (List.idxOf?_eq_some_iff.mp hmark).1
          refine List.forall_mem_singleton.mpr ?_
          show q + 1 ≤ 1024
          omega

/-- **The writes of a route** stay in their arrays, whatever the memory behind `temp`, if and only if
all that is copied fits. -/
theorem routeWrites_inside_iff (caller : Caller) (route : RouteTable) (uri query : List UInt8) :
    (∀ behind, AllInside caller (routeWrites caller route uri query behind)) ↔
      WritesFit caller route uri query := by
  by_cases htemp : TempFits route uri
  · have hcall : ∀ behind, AllInside caller (routeWrites caller route uri query behind) ↔
        WritesFit caller route uri query := by
      intro behind
      obtain ⟨htarget, hquery, hinfo⟩ := applyLogic_strings htemp behind
      have happly := applyLogic_inside_iff caller htemp behind
      unfold routeWrites
      dsimp only
      rw [allInside_append, happly]
      cases caller with
      | http2 =>
          rw [and_iff_left (http2Writes_inside _)]
          exact ⟨fun h => ⟨h.1, h.2.1, htemp, h.2.2⟩, fun h => ⟨h.target, h.pathInfo, h.query⟩⟩
      | http1 =>
          have hpath : route.target.length < 128 ∧ (route.type = .path →
              (remainderOf route uri).length < 128) ∧ routeQueryLength route uri < 256 →
              (AllInside .http1 (http1Writes (applyLogic route uri behind) query) ↔
                Caller.http1.queryLength (routeQueryLength route uri) query < 256) := by
            rintro ⟨ht, hp, hq⟩
            rw [← hquery]
            refine http1Writes_inside_iff query (by rwa [htarget]) ?_ (by rwa [hquery])
            rw [hinfo]
            split
            · next hpath => exact hp hpath
            · simp
          constructor
          · rintro ⟨hfit, hwrites⟩
            exact ⟨hfit.1, hfit.2.1, htemp, (hpath hfit).mp hwrites⟩
          · intro h
            have hquery' := h.query
            have hfit : route.target.length < 128 ∧ (route.type = .path →
                (remainderOf route uri).length < 128) ∧ routeQueryLength route uri < 256 := by
              refine ⟨h.target, h.pathInfo, ?_⟩
              unfold Caller.queryLength at hquery'
              dsimp only at hquery'
              omega
            exact ⟨hfit, (hpath hfit).mpr h.query⟩
    exact ⟨fun h => (hcall []).mp (h []), fun h behind => (hcall behind).mpr h⟩
  · refine iff_of_false (fun h => htemp ?_) fun h => htemp h.temp
    have hwrites : ∀ behind, AllInside caller (applyLogic route uri behind).writes :=
      fun behind => ((allInside_append _ _ _).mp (h behind)).1
    exact tempFits_of_inside hwrites

/-- A PATH route and a path of 128 bytes behind it, or of 256 over HTTP/2: the copy of the path is
longer than `t_path`. -/
theorem path_overflows :
    httpRouteMatch (some ⟨ascii "shop", [], [productRoute, infoRoute]⟩)
        (ascii "/info" ++ List.replicate 256 0x61) = some infoRoute ∧
      ¬ AllInside .http1
        (routeWrites .http1 infoRoute (ascii "/info" ++ List.replicate 128 0x61) [] []) ∧
      ¬ AllInside .http2
        (routeWrites .http2 infoRoute (ascii "/info" ++ List.replicate 256 0x61) [] []) := by
  decide +kernel

/-! ## The strings and the writes -/

theorem pairText_eq (varIdx : Nat) (outQuery name token : List UInt8)
    (hfirst : outQuery = [] ↔ varIdx = 0) :
    ((if outQuery = [] then [] else ascii "&") ++ name ++ ascii "=" ++ token).take 127
      = pairText varIdx name token := by
  unfold pairText
  by_cases h : outQuery = []
  · rw [if_pos h, if_neg (by have := hfirst.mp h; omega)]
  · have hpos : 0 < varIdx := Nat.pos_of_ne_zero fun heq => h (hfirst.mpr heq)
    rw [if_neg h, if_pos hpos]

theorem queryPairs_eq_tokenWrites (names : List (List UInt8)) (s : List UInt8) (pos varIdx : Nat)
    (outQuery : List UInt8) (hfirst : outQuery = [] ↔ varIdx = 0) (hout : outQuery.length < 256) :
    queryPairs (names.zip (strtokSlash s)) outQuery
      = if outQuery.length + pairsLength varIdx (names.zip (strtokSlash s)) < 256 then
          some (tokenWrites names s pos varIdx outQuery).2
        else none := by
  induction names generalizing s pos varIdx outQuery with
  | nil =>
      rw [List.zip_nil_left, pairsLength, Nat.add_zero, if_pos hout, queryPairs]
      cases hr : strtok s pos with
      | none => rw [tokenWrites_none pos varIdx outQuery [] hr]
      | some r => rw [tokenWrites_nil pos varIdx outQuery hr]
  | cons name names ih =>
      cases hr : strtok s pos with
      | none =>
          rw [strtokSlash_of_none pos hr, List.zip_nil_right, pairsLength, Nat.add_zero, if_pos hout,
            queryPairs, tokenWrites_none pos varIdx outQuery _ hr]
      | some r =>
          have hlen := length_pairText varIdx name r.token
          rw [(strtok_some pos hr).1, List.zip_cons_cons, queryPairs, pairText_eq varIdx _ _ _ hfirst,
            tokenWrites_cons pos varIdx outQuery name names hr, pairsLength, ← length_pairText,
            ← Nat.add_assoc, strcat]
          generalize pairText varIdx name r.token = pair at hlen ⊢
          by_cases hroom : outQuery.length + pair.length < 256
          · have hne : outQuery ++ pair = [] ↔ varIdx + 1 = 0 := by
              refine iff_of_false (fun hnil => ?_) (Nat.succ_ne_zero _)
              obtain ⟨-, rfl⟩ := List.append_eq_nil_iff.mp hnil
              rw [List.length_nil] at hlen
              split at hlen <;> omega
            have hlater := ih r.rest r.restPos (varIdx + 1) (outQuery ++ pair) hne
              (by rwa [List.length_append])
            rw [List.length_append] at hlater
            rw [if_pos hroom]
            exact hlater
          · rw [if_neg hroom, if_neg (by omega)]
            rfl

theorem queryPairs_eq_tempLoop (names : List (List UInt8)) (s : List UInt8) :
    queryPairs (names.zip (strtokSlash s)) []
      = if pairsLength 0 (names.zip (strtokSlash s)) < 256 then some (tempLoop names s).2
        else none := by
  have hdrop := strtokSlash_drop s
  have hloop : ∀ s pos, queryPairs (names.zip (strtokSlash s)) []
      = if pairsLength 0 (names.zip (strtokSlash s)) < 256 then
          some (tokenWrites names s pos 0 []).2 else none := by
    intro s pos
    have heq := queryPairs_eq_tokenWrites names s pos 0 [] (iff_of_true rfl rfl) (by simp)
    rwa [List.length_nil, Nat.zero_add] at heq
  unfold tempLoop
  split at hdrop
  · next hslash =>
    rw [if_pos hslash, ← hdrop]
    exact hloop _ 1
  · next hslash =>
    rw [if_neg hslash]
    exact hloop _ 0

/-- The strings of a route are there exactly if the writes stay in the arrays of the caller of
HTTP/1.1, and they are what the writes leave. -/
theorem httpRouteApplyLogic_eq_some_iff (route : RouteTable) (uri : List UInt8)
    (r : List UInt8 × List UInt8 × List UInt8) :
    httpRouteApplyLogic route uri = some r ↔ ∀ behind,
      AllInside .http1 (applyLogic route uri behind).writes ∧
        r = ((applyLogic route uri behind).target, (applyLogic route uri behind).query,
          (applyLogic route uri behind).pathInfo) := by
  have hrem : uri.drop route.source.length = remainderOf route uri := rfl
  by_cases htemp : TempFits route uri
  · have hiff : ∀ behind, httpRouteApplyLogic route uri = some r ↔
        AllInside .http1 (applyLogic route uri behind).writes ∧
          r = ((applyLogic route uri behind).target, (applyLogic route uri behind).query,
            (applyLogic route uri behind).pathInfo) := by
      intro behind
      rw [applyLogic_inside_iff .http1 htemp]
      have hcat : ∀ t : List UInt8, strcat 128 [] t = if t.length < 128 then some t else none := by
        intro t
        simp [strcat]
      have hsize : Caller.http1.size .tUri = 128 ∧ Caller.http1.size .tPath = 128 := ⟨rfl, rfl⟩
      unfold httpRouteApplyLogic applyLogic routeQueryLength
      rw [hcat, hsize.1, hsize.2]
      cases htype : route.type with
      | none =>
          by_cases htarget : route.target.length < 128 <;> simp [htarget, eq_comm]
      | path =>
          dsimp only
          rw [hcat, hrem]
          by_cases htarget : route.target.length < 128 <;>
            by_cases hinfo : (remainderOf route uri).length < 128 <;>
            simp [htarget, hinfo, eq_comm]
      | query =>
          have hshort : ¬ (255 ≤ (remainderOf route uri).length ∧
              (completeTokens ((remainderOf route uri).take 255)).length
                ≤ route.varNames.length) := by
            rintro ⟨hlong, hmore⟩
            rcases htemp htype with h | h <;> omega
          dsimp only
          simp only [hrem, if_neg hshort, strtokSlash_drop, queryPairs_eq_tempLoop,
            tempLoop_behind (htemp htype)]
          by_cases htarget : route.target.length < 128 <;>
            by_cases hquery : pairsLength 0 (route.varNames.zip
              (strtokSlash ((remainderOf route uri).take 255))) < 256 <;>
            simp [htarget, hquery, eq_comm]
    exact ⟨fun h behind => (hiff behind).mp h, fun h => (hiff []).mpr (h [])⟩
  · refine iff_of_false (fun h => ?_) fun h => htemp (tempFits_of_inside fun behind => (h behind).1)
    simp only [TempFits, not_forall, not_or, not_lt, exists_prop] at htemp
    obtain ⟨htype, hlong⟩ := htemp
    unfold httpRouteApplyLogic at h
    simp only [htype, hrem, if_pos hlong] at h
    obtain ⟨target, -, hnone⟩ := Option.bind_eq_some_iff.mp h
    cases hnone

end Halmos.Http
