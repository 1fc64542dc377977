import Halmos.Http1.Session

set_option autoImplicit false

/-! # What reading a request does

The parser writes into the header block and leaves the rest of the buffer alone. A read takes bytes
from the script into the buffer, and so the two of them keep their length together, whatever the
capacity of the buffer and wherever it is.
-/

namespace Halmos.Http1

variable {moved : Nat → Int} {config : Config} {s s' : HTTP1Session}
  {script script' : List RecvResult}

/-! ## The parser -/

theorem length_fastTrim (head : List UInt8) (p : Nat) :
    (fastTrim head p).2.length = head.length := by
  unfold fastTrim
  dsimp only
  split <;> simp

theorem length_parseRequestLine {head head' : List UInt8} {lineEnd : Nat} {req req' : RequestHeader}
    (h : parseRequestLine config head lineEnd req = some (req', head')) :
    head'.length = head.length := by
  unfold parseRequestLine at h
  extract_lets line at h
  split at h
  · rw [(Prod.mk.inj (Option.some.inj h)).2]
  · next mEnd hm =>
    extract_lets _ uStart at h
    split at h
    · rw [(Prod.mk.inj (Option.some.inj h)).2]
    · next uLen hu =>
      extract_lets version req₁ head₁ target at h
      split at h
      next req₂ head₂ hq =>
      have hlen : head₂.length = head.length := by
        split at hq
        · rw [← (Prod.mk.inj hq).2, List.length_set, List.length_set]
        · rw [← (Prod.mk.inj hq).2, List.length_set]
      extract_lets path req₃ jp at h
      have hjp : ∀ req, jp req = some (req', head') → head'.length = head.length := by
        intro req hreq
        rw [← (Prod.mk.inj (Option.some.inj hreq)).2, hlen]
      split at h
      · obtain ⟨req₄, -, h⟩ := Option.bind_eq_some_iff.mp h
        exact hjp req₄ h
      · exact hjp req₃ h

theorem length_parseLines (headerEnd fuel p : Nat) (req : RequestHeader) (head : List UInt8) :
    (parseLines config headerEnd fuel p req head).2.length = head.length := by
  induction fuel generalizing p req head with
  | zero => rfl
  | succ fuel ih =>
      rw [parseLines]
      split
      · rfl
      · split
        · rfl
        · dsimp only
          split
          · rfl
          · split
            · simp [ih]
            · simp [ih, length_fastTrim]

/-- What a header block is parsed to: the request line, the lines behind it, the route. -/
theorem parseHead_eq_some {head head' : List UInt8} {req req' : RequestHeader}
    (h : parseHead config head req = some (req', head')) :
    ∃ line rest req₁ head₁ req₂, strstr crlf head = some (line, rest) ∧
      parseRequestLine config head line.length
        { req with vhostContext := none, isKeepAlive := true } = some (req₁, head₁) ∧
      parseLines config (head.length - 4) head₁.length (line.length + 2) req₁ head₁
        = (req₂, head') ∧
      (if req₂.isValid then injectRoute head' req₂ else some req₂) = some req' := by
  unfold parseHead at h
  extract_lets headerEnd req₀ at h
  obtain ⟨⟨line, rest⟩, hfound, h⟩ := Option.bind_eq_some_iff.mp h
  obtain ⟨⟨req₁, head₁⟩, hline, h⟩ := Option.bind_eq_some_iff.mp h
  cases hlines : parseLines config headerEnd head₁.length (line.length + 2) req₁ head₁ with
  | mk req₂ head₂ =>
      dsimp only at h
      rw [hlines] at h
      dsimp only at h
      split at h
      · next hvalid =>
        obtain ⟨req₃, hroute, h⟩ := Option.bind_eq_some_iff.mp h
        obtain ⟨rfl, rfl⟩ := Prod.mk.inj (Option.some.inj h)
        exact ⟨line, rest, req₁, head₁, req₂, hfound, hline, hlines, by rw [if_pos hvalid, hroute]⟩
      · next hvalid =>
        obtain ⟨rfl, rfl⟩ := Prod.mk.inj (Option.some.inj h)
        exact ⟨line, rest, req₁, head₁, req₂, hfound, hline, hlines, by rw [if_neg hvalid]⟩

/-- The parser writes into the header block. -/
theorem length_parseHead {head head' : List UInt8} {req req' : RequestHeader}
    (h : parseHead config head req = some (req', head')) : head'.length = head.length := by
  obtain ⟨line, rest, req₁, head₁, req₂, -, hline, hlines, -⟩ := parseHead_eq_some h
  have hsnd : (parseLines config (head.length - 4) head₁.length (line.length + 2) req₁ head₁).2
      = head' := by rw [hlines]
  rw [← hsnd, length_parseLines, length_parseRequestLine hline]

/-- The parts that are found in a body, for the header block as it has been parsed. -/
def partsIn (parsed : RequestHeader) (block body : List UInt8) : Option (List MultipartPart) :=
  match parsed.contentType with
  | none => some parsed.parts
  | some p => do
      let contentType ← p.str block parsed.routeResult
      if (strstr (ascii "multipart/form-data") contentType).isSome then
        httpMultipartParseBody contentType block.length body
      else some parsed.parts

/-- What the parser makes of a header block at the start of the buffer: but for the parts, it does
not depend on the body. -/
theorem http1ParserParseHeader_eq {buffer head rest : List UInt8}
    (hsplit : splitAfter blankLine (cstr buffer) = some (head, rest)) (req : RequestHeader) :
    http1ParserParseHeader config buffer req = (do
      let (parsed, block) ← parseHead config head req
      let parts ← partsIn parsed block (buffer.drop head.length)
      some (parsed.isValid, { parsed with
        bodyData := some (.buffer head.length)
        bodyLength := (buffer.drop head.length).length
        parts := parts }, block ++ buffer.drop head.length)) := by
  unfold http1ParserParseHeader
  rw [hsplit]
  dsimp only
  cases hparse : parseHead config head req with
  | none => rfl
  | some r =>
      obtain ⟨parsed, block⟩ := r
      unfold partsIn
      simp only [Option.bind_eq_bind, Option.bind_some, length_parseHead hparse]
      cases parsed.contentType with
      | none => rfl
      | some p =>
          dsimp only
          cases p.str block parsed.routeResult with
          | none => rfl
          | some contentType =>
              simp only [Option.bind_some]
              split <;> rfl

theorem http1ParserParseHeader_valid {buffer buffer' : List UInt8} {req req' : RequestHeader}
    (h : http1ParserParseHeader config buffer req = some (true, req', buffer')) :
    ∃ head rest, splitAfter blankLine (cstr buffer) = some (head, rest) := by
  unfold http1ParserParseHeader at h
  split at h
  · cases h
  · next head rest hsplit => exact ⟨head, rest, hsplit⟩

theorem http1ParserParseHeader_eq_some {buffer buffer' head rest : List UInt8}
    {req req' : RequestHeader} {valid : Bool}
    (hsplit : splitAfter blankLine (cstr buffer) = some (head, rest))
    (h : http1ParserParseHeader config buffer req = some (valid, req', buffer')) :
    ∃ parsed block parts, parseHead config head req = some (parsed, block) ∧
      partsIn parsed block (buffer.drop head.length) = some parts ∧ valid = parsed.isValid ∧
      req' = { parsed with
        bodyData := some (.buffer head.length)
        bodyLength := (buffer.drop head.length).length
        parts := parts } ∧ buffer' = block ++ buffer.drop head.length := by
  rw [http1ParserParseHeader_eq hsplit] at h
  obtain ⟨⟨parsed, block⟩, hparse, h⟩ := Option.bind_eq_some_iff.mp h
  dsimp only at h
  obtain ⟨parts, hparts, h⟩ := Option.bind_eq_some_iff.mp h
  simp only [Option.some.injEq, Prod.mk.injEq] at h
  obtain ⟨rfl, rfl, rfl⟩ := h
  exact ⟨parsed, block, parts, hparse, hparts, rfl, rfl, rfl⟩

/-! ## Header blocks -/

/-- A header block: its first blank line is at its end. -/
structure HeaderBlock (block : List UInt8) : Prop where
  block_end : splitAfter blankLine block = some (block, [])
  no_nul : 0 ∉ block

theorem strstr_isSome_iff_splitAfter {needle s : List UInt8} :
    (strstr needle s).isSome = (splitAfter needle s).isSome := by
  unfold splitAfter
  rw [Option.isSome_map]

namespace HeaderBlock

variable {block : List UInt8}

theorem ne_nil (h : HeaderBlock block) : block ≠ [] := by
  rintro rfl
  have hend := h.block_end
  simp [splitAfter, strstr, blankLine] at hend

/-- The block is found at the start of whatever begins with it. -/
theorem found (h : HeaderBlock block) (rest : List UInt8) :
    splitAfter blankLine (cstr (block ++ rest)) = some (block, cstr rest) := by
  rw [cstr_append_of_notMem h.no_nul]
  exact splitAfter_append h.block_end _

/-- And in nothing shorter than it. -/
theorem not_found (h : HeaderBlock block) {part : List UInt8} (hpart : part <+: block)
    (hlt : part.length < block.length) : (strstr blankLine (cstr part)).isSome = false := by
  obtain ⟨rest, hrest⟩ := hpart
  have hno : 0 ∉ part := fun hmem => h.no_nul (hrest ▸ List.mem_append_left rest hmem)
  rw [(cstr_eq_self_iff part).mpr hno, strstr_isSome_iff_splitAfter]
  cases hsplit : splitAfter blankLine part with
  | none => rfl
  | some r =>
      -- the block would end in the part
      obtain ⟨head, tail⟩ := r
      have hlong := splitAfter_append hsplit rest
      rw [hrest, h.block_end] at hlong
      have hhead : block = head := congrArg Prod.fst (Option.some.inj hlong)
      have hle : head.length ≤ part.length := by
        rw [splitAfter_sound hsplit, List.length_append]
        omega
      rw [← hhead] at hle
      omega

/-- The header is complete as soon as the block is there. -/
theorem headerComplete_iff (h : HeaderBlock block) {rest tail : List UInt8}
    (hstream : s.buffer ++ rest = block ++ tail) :
    s.headerComplete = true ↔ block.length ≤ s.buffer.length := by
  unfold HTTP1Session.headerComplete
  constructor
  · intro hcomplete
    by_contra hlt
    have hpart : s.buffer <+: block :=
      List.prefix_of_prefix_length_le (hstream ▸ List.prefix_append _ _)
        (List.prefix_append _ _) (not_le.mp hlt).le
    rw [h.not_found hpart (not_le.mp hlt)] at hcomplete
    cases hcomplete
  · intro hle
    obtain ⟨extra, hextra⟩ : block <+: s.buffer :=
      List.prefix_of_prefix_length_le (List.prefix_append _ _)
        (hstream ▸ List.prefix_append _ _) hle
    rw [← hextra, strstr_isSome_iff_splitAfter, h.found extra]
    rfl

end HeaderBlock

/-! ## The script -/

/-- The bytes the reads bring, read by read. -/
def chunks (script : List RecvResult) : List (List UInt8) :=
  script.filterMap fun e => match e with
    | .data bs => some bs
    | _ => none

/-- The client keeps the connection open. -/
def Open (script : List RecvResult) : Prop := ∀ e ∈ script, e ≠ .closed ∧ e ≠ .failed

instance (script : List RecvResult) : Decidable (Open script) :=
  inferInstanceAs (Decidable (∀ e ∈ script, e ≠ .closed ∧ e ≠ .failed))

/-- The number of bytes the reads bring. -/
def size (script : List RecvResult) : Nat := (chunks script).flatten.length

theorem size_data (bs : List UInt8) (script : List RecvResult) :
    size (.data bs :: script) = bs.length + size script := by
  simp [size, chunks]

/-! ## One read -/

/-- `session->req.body_length = session->buf_len - header_len`. -/
def HTTP1Session.measured (headerLen : Nat) (s : HTTP1Session) : HTTP1Session :=
  { s with req.bodyLength := s.buffer.length - headerLen }

theorem grow_buffer (moved : Nat → Int) (s : HTTP1Session) :
    (s.grow moved).buffer = s.buffer := by
  unfold HTTP1Session.grow
  split <;> rfl

theorem grow_state (moved : Nat → Int) (s : HTTP1Session) :
    (s.grow moved).state = s.state := by
  unfold HTTP1Session.grow
  split <;> rfl

/-- What holds of a request wherever the buffer is, still holds when the buffer has been doubled. -/
theorem grow_req {P : RequestHeader → Prop} (h : P s.req)
    (hmove : ∀ diff, P (updateHeaderPointers s.req diff)) : P (s.grow moved).req := by
  unfold HTTP1Session.grow
  split
  · dsimp only
    split
    · exact hmove _
    · exact h
  · exact h

theorem recvData_eq_some {bs : List UInt8} (h : s.recvData bs = some s') :
    bs ≠ [] ∧ s' = { s with buffer := s.buffer ++ bs } := by
  unfold HTTP1Session.recvData at h
  split at h
  · cases h
  · next hno => exact ⟨fun hnil => hno (.inl hnil), (Option.some.inj h).symm⟩

/-- Nothing comes, and the call returns: it asks to be called again, unless the client has gone. -/
def Returned (e : ReadEnd) (script script' : List RecvResult) : Prop :=
  ∃ ret, e = .returns ret ∧ script' = script.tail ∧ chunks script' = chunks script ∧
    (Open script → ret = 2)

theorem Returned.nothing : Returned (.returns 2) [] [] := ⟨2, rfl, rfl, rfl, fun _ => rfl⟩

theorem Returned.wouldBlock (script : List RecvResult) :
    Returned (.returns 2) (.wouldBlock :: script) script := ⟨2, rfl, rfl, rfl, fun _ => rfl⟩

theorem Returned.closed (script : List RecvResult) :
    Returned (.returns 0) (.closed :: script) script :=
  ⟨0, rfl, rfl, rfl, fun ho => absurd rfl (ho .closed List.mem_cons_self).1⟩

theorem Returned.failed (script : List RecvResult) :
    Returned (.returns (-1)) (.failed :: script) script :=
  ⟨-1, rfl, rfl, rfl, fun ho => absurd rfl (ho .failed List.mem_cons_self).2⟩

/-- What the loop over the header does with the next read. -/
theorem readHeaders_cases {e : ReadEnd} (h : readHeaders moved script s = some (e, s', script')) :
    (∃ bs, script = .data bs :: script' ∧ (s.grow moved).recvData bs = some s' ∧
      s'.headerComplete = true ∧ e = .complete) ∨
    (∃ bs rest t, script = .data bs :: rest ∧ (s.grow moved).recvData bs = some t ∧
      t.headerComplete = false ∧ readHeaders moved rest t = some (e, s', script')) ∨
    (Returned e script script' ∧ s' = s.grow moved) := by
  cases script with
  | nil =>
      obtain ⟨rfl, rfl, rfl⟩ : _ ∧ _ ∧ _ := by simpa [readHeaders] using h
      exact .inr (.inr ⟨.nothing, rfl⟩)
  | cons r script =>
      cases r with
      | data bs =>
          rw [readHeaders] at h
          obtain ⟨t, hread, h⟩ := Option.bind_eq_some_iff.mp h
          split at h
          · next hcomplete =>
            obtain ⟨rfl, rfl, rfl⟩ : _ ∧ _ ∧ _ := by simpa using h
            exact .inl ⟨bs, rfl, hread, hcomplete, rfl⟩
          · next hno =>
            exact .inr (.inl ⟨bs, script, t, rfl, hread, Bool.eq_false_iff.mpr hno, h⟩)
      | wouldBlock =>
          obtain ⟨rfl, rfl, rfl⟩ : _ ∧ _ ∧ _ := by simpa [readHeaders] using h
          exact .inr (.inr ⟨.wouldBlock script, rfl⟩)
      | closed =>
          obtain ⟨rfl, rfl, rfl⟩ : _ ∧ _ ∧ _ := by simpa [readHeaders] using h
          exact .inr (.inr ⟨.closed script, rfl⟩)
      | failed =>
          obtain ⟨rfl, rfl, rfl⟩ : _ ∧ _ ∧ _ := by simpa [readHeaders] using h
          exact .inr (.inr ⟨.failed script, rfl⟩)

/-- The induction over the loop of the header: what holds where it ends, and in front of a read
when it holds behind it. -/
theorem readHeaders_induction {P : List RecvResult → HTTP1Session → Prop} {e : ReadEnd}
    (last : ∀ bs s, (s.grow moved).recvData bs = some s' → s'.headerComplete = true →
      e = .complete → P (.data bs :: script') s)
    (more : ∀ bs rest s t, (s.grow moved).recvData bs = some t → t.headerComplete = false →
      P rest t → P (.data bs :: rest) s)
    (back : ∀ script s, Returned e script script' → s' = s.grow moved → P script s)
    (h : readHeaders moved script s = some (e, s', script')) : P script s := by
  induction script generalizing s with
  | nil =>
      rcases readHeaders_cases h with ⟨_, hnil, -⟩ | ⟨_, _, _, hnil, -⟩ | ⟨hret, hs⟩
      · cases hnil
      · cases hnil
      · exact back _ _ hret hs
  | cons r script ih =>
      rcases readHeaders_cases h with ⟨bs, hr, hread, hcomplete, he⟩ |
        ⟨bs, rest, t, hr, hread, hno, hrest⟩ | ⟨hret, hs⟩
      · rw [hr]
        exact last bs s hread hcomplete he
      · obtain ⟨rfl, rfl⟩ := List.cons.inj hr
        exact more bs script s t hread hno (ih hrest)
      · exact back _ _ hret hs

/-- What the loop over the body does with the next read. -/
theorem readBody_cases {headerLen : Nat} {e : ReadEnd}
    (h : readBody moved headerLen script s = some (e, s', script')) :
    (s.req.contentLength ≤ (s.buffer.length - headerLen : Nat) ∧ e = .complete ∧
      s' = { s.measured headerLen with state := .handleRequest } ∧ script' = script) ∨
    ((s.buffer.length - headerLen : Nat) < s.req.contentLength ∧
      ((∃ bs rest t, script = .data bs :: rest ∧
          ((s.measured headerLen).grow moved).recvData bs = some t ∧
          readBody moved headerLen rest t = some (e, s', script')) ∨
        (Returned e script script' ∧ s' = (s.measured headerLen).grow moved))) := by
  rw [readBody.eq_def] at h
  dsimp only at h
  split at h
  · next hle =>
    obtain ⟨rfl, rfl, rfl⟩ : _ ∧ _ ∧ _ := by simpa using h
    exact .inl ⟨hle, rfl, rfl, rfl⟩
  · next hlt =>
    refine .inr ⟨not_le.mp hlt, ?_⟩
    cases script with
    | nil =>
        obtain ⟨rfl, rfl, rfl⟩ : _ ∧ _ ∧ _ := by simpa using h
        exact .inr ⟨.nothing, rfl⟩
    | cons r script =>
        cases r with
        | data bs =>
            obtain ⟨t, hread, h⟩ := Option.bind_eq_some_iff.mp h
            exact .inl ⟨bs, script, t, rfl, hread, h⟩
        | wouldBlock =>
            obtain ⟨rfl, rfl, rfl⟩ : _ ∧ _ ∧ _ := by simpa using h
            exact .inr ⟨.wouldBlock script, rfl⟩
        | closed =>
            obtain ⟨rfl, rfl, rfl⟩ : _ ∧ _ ∧ _ := by simpa using h
            exact .inr ⟨.closed script, rfl⟩
        | failed =>
            obtain ⟨rfl, rfl, rfl⟩ : _ ∧ _ ∧ _ := by simpa using h
            exact .inr ⟨.failed script, rfl⟩

/-- The induction over the loop of the body. -/
theorem readBody_induction {P : List RecvResult → HTTP1Session → Prop} {headerLen : Nat}
    {e : ReadEnd}
    (last : ∀ s : HTTP1Session, s.req.contentLength ≤ (s.buffer.length - headerLen : Nat) →
      e = .complete → s' = { s.measured headerLen with state := .handleRequest } → P script' s)
    (more : ∀ bs rest (s t : HTTP1Session),
      (s.buffer.length - headerLen : Nat) < s.req.contentLength →
      ((s.measured headerLen).grow moved).recvData bs = some t → P rest t → P (.data bs :: rest) s)
    (back : ∀ script (s : HTTP1Session), (s.buffer.length - headerLen : Nat) < s.req.contentLength →
      Returned e script script' → s' = (s.measured headerLen).grow moved → P script s)
    (h : readBody moved headerLen script s = some (e, s', script')) : P script s := by
  induction script generalizing s with
  | nil =>
      rcases readBody_cases h with ⟨hle, he, hs, rfl⟩ |
        ⟨hlt, ⟨_, _, _, hnil, -⟩ | ⟨hret, hs⟩⟩
      · exact last s hle he hs
      · cases hnil
      · exact back _ _ hlt hret hs
  | cons r script ih =>
      rcases readBody_cases h with ⟨hle, he, hs, rfl⟩ |
        ⟨hlt, ⟨bs, rest, t, hr, hread, hrest⟩ | ⟨hret, hs⟩⟩
      · exact last s hle he hs
      · obtain ⟨rfl, rfl⟩ := List.cons.inj hr
        exact more bs script s t hlt hread (ih hrest)
      · exact back _ _ hlt hret hs

theorem readHeaders_state {e : ReadEnd}
    (h : readHeaders moved script s = some (e, s', script')) : s'.state = s.state := by
  refine readHeaders_induction (P := fun _ s => s'.state = s.state) ?_ ?_ ?_ h
  · rintro bs s hread - -
    obtain ⟨-, rfl⟩ := recvData_eq_some hread
    exact grow_state moved s
  · rintro bs rest s t hread - ih
    obtain ⟨-, rfl⟩ := recvData_eq_some hread
    exact ih.trans (grow_state moved s)
  · rintro script s - rfl
    exact grow_state moved s

/-! ## The states in which a request is read -/

/-- The session behind the parser. -/
def HTTP1Session.parsed (s : HTTP1Session) (req : RequestHeader) (buffer : List UInt8) :
    HTTP1Session :=
  { s with
    req := req
    buffer := buffer
    state := if 0 < req.contentLength then .readBody else .handleRequest }

variable {server : Server}

/-- What becomes of a header block behind the parser: a refusal, a request without a body, or the
reading of the body. -/
def Handed (server : Server) (valid : Bool) (u : HTTP1Session) (rest : List RecvResult)
    (e : ReadEnd) (s' : HTTP1Session) (script' : List RecvResult) : Prop :=
  (valid = false ∧ e = .returns 0 ∧ s' = u ∧ script' = rest) ∨
  (valid = true ∧ u.req.contentLength ≤ 0 ∧ e = .complete ∧ s' = u ∧ script' = rest) ∨
  (valid = true ∧ 0 < u.req.contentLength ∧ ∃ headerLen, u.req.bodyData = some (.buffer headerLen) ∧
    readBody server.moved headerLen rest u = some (e, s', script'))

theorem readRequest_body (hst : s.state = .readBody) {e : ReadEnd}
    (h : readRequest server s script = some (e, s', script')) :
    ∃ headerLen, s.req.bodyData = some (.buffer headerLen) ∧
      readBody server.moved headerLen script s = some (e, s', script') := by
  simp only [readRequest, hst, reduceCtorEq, if_false, if_true, Option.bind_eq_bind,
    Option.bind_some] at h
  split at h
  · next headerLen hbody => exact ⟨headerLen, hbody, h⟩
  · cases h

theorem readRequest_headers (hst : s.state = .readHeaders) {e : ReadEnd}
    (h : readRequest server s script = some (e, s', script')) :
    (∃ ret, e = .returns ret ∧ readHeaders server.moved script s = some (e, s', script')) ∨
    (∃ t rest valid req buffer, readHeaders server.moved script s = some (.complete, t, rest) ∧
      http1ParserParseHeader server.config t.buffer t.req = some (valid, req, buffer) ∧
      Handed server valid (t.parsed req buffer) rest e s' script') := by
  unfold readRequest at h
  rw [if_pos hst] at h
  obtain ⟨⟨e₁, t, rest⟩, hhead, h⟩ := Option.bind_eq_some_iff.mp h
  have htst := (readHeaders_state hhead).trans hst
  cases e₁ with
  | returns ret =>
      obtain ⟨rfl, rfl, rfl⟩ : _ ∧ _ ∧ _ := by simpa using h
      exact .inl ⟨ret, rfl, hhead⟩
  | complete =>
      dsimp only at h
      rw [if_pos htst] at h
      obtain ⟨⟨valid, req, buffer⟩, hparse, h⟩ := Option.bind_eq_some_iff.mp h
      refine .inr ⟨t, rest, valid, req, buffer, hhead, hparse, ?_⟩
      dsimp only at h
      cases valid with
      | false =>
          obtain ⟨rfl, rfl, rfl⟩ : _ ∧ _ ∧ _ := by simpa using h
          exact .inl ⟨rfl, rfl, rfl, rfl⟩
      | true =>
          by_cases hlength : 0 < req.contentLength
          · simp only [if_pos hlength, Option.bind_eq_bind, Option.bind_some, reduceCtorEq, if_false,
              if_true] at h
            split at h
            · next headerLen hbody =>
              refine .inr (.inr ⟨rfl, hlength, headerLen, hbody, ?_⟩)
              rw [HTTP1Session.parsed, if_pos hlength]
              exact h
            · cases h
          · simp only [if_neg hlength, Option.bind_eq_bind, Option.bind_some, reduceCtorEq,
              if_false] at h
            obtain ⟨rfl, rfl, rfl⟩ : _ ∧ _ ∧ _ := by simpa using h
            refine .inr (.inl ⟨rfl, not_lt.mp hlength, rfl, ?_, rfl⟩)
            rw [HTTP1Session.parsed, if_neg hlength]

end Halmos.Http1
