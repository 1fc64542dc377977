import Halmos.Http1.Reading

set_option autoImplicit false

/-! # Requests one behind the other

A client sends requests for static files on one connection. The session takes all bytes of a read
into its buffer, handles the request at the start of it and clears the buffer when the answer has
been sent, with whatever else the read has brought. So all the requests are handled, in order, if
and only if every one of them ends where a read ends (`handled_all_iff`).
-/

namespace Halmos.Http1

open Http (FileSystem)

/-! ## The stream and its cuts -/

/-- Where the pieces of a stream end that goes on from `start`. -/
def ends : Nat → List (List UInt8) → List Nat
  | _, [] => []
  | start, piece :: pieces => (start + piece.length) :: ends (start + piece.length) pieces

/-- The request that a header block is parsed to. -/
def requestOf (config : Config) (block : List UInt8) : RequestHeader :=
  ((http1ParserParseHeader config block .zero).map fun r => r.2.1).getD .zero

/-- A header block without a body, asking for a static file that is there, on a connection to be
kept. -/
structure StaticRequest (server : Server) (block : List UInt8) : Prop extends
    HeaderBlock block where
  served : ∃ buffer path,
    http1ParserParseHeader server.config block .zero
      = some (true, requestOf server.config block, buffer) ∧
    ∀ capacity, http1ManagerRoutingBridge server
        ⟨buffer, capacity, requestOf server.config block, .handleRequest, none⟩
      = some (3, ⟨buffer, capacity, requestOf server.config block, .sendStaticFile, some path⟩)
  no_body : (requestOf server.config block).contentLength = 0
  keep_alive : (requestOf server.config block).isKeepAlive = true

theorem lt_of_mem_ends {start e : Nat} {pieces : List (List UInt8)}
    (hne : ∀ piece ∈ pieces, piece ≠ []) (h : e ∈ ends start pieces) : start < e := by
  induction pieces generalizing start with
  | nil => cases h
  | cons piece pieces ih =>
      obtain ⟨hpiece, hrest⟩ := List.forall_mem_cons.mp hne
      have hpos := List.length_pos_iff.mpr hpiece
      rcases List.mem_cons.mp h with rfl | h
      · omega
      · have hlt := ih hrest h
        omega

theorem le_of_mem_ends {start e : Nat} {pieces : List (List UInt8)} (h : e ∈ ends start pieces) :
    start ≤ e := by
  induction pieces generalizing start with
  | nil => cases h
  | cons piece pieces ih =>
      rcases List.mem_cons.mp h with rfl | h
      · omega
      · have hle := ih h
        omega

variable {server : Server} {block : List UInt8}

/-! ## Reading -/

section Reading

variable {moved : Nat → Int} {s s' : HTTP1Session} {script script' : List RecvResult}

theorem updateHeaderPointers_zero (diff : Int) :
    updateHeaderPointers RequestHeader.zero diff = .zero := rfl

/-- Doubling the buffer leaves a session alone that has no request yet. -/
theorem grow_zero (moved : Nat → Int) (h : s.req = .zero) :
    ∃ capacity, s.grow moved = { s with bufCapacity := capacity } := by
  unfold HTTP1Session.grow
  split
  · refine ⟨s.bufCapacity * 2, ?_⟩
    simp only [h, updateHeaderPointers_zero, ite_self]
  · exact ⟨s.bufCapacity, rfl⟩

/-- A session about to read the blocks, with the first of them begun. -/
structure Ahead (blocks : List (List UInt8)) (s : HTTP1Session) (script : List RecvResult) :
    Prop where
  reading : s.state = .readHeaders
  no_request : s.req = .zero
  no_file : s.file = none
  opened : Open script
  stream : s.buffer ++ (chunks script).flatten = blocks.flatten
  within : ∀ block ∈ blocks.head?, s.buffer <+: block ∧ s.buffer.length < block.length

/-- No cut from `bound` on is lost or made. -/
def SameEnds (bound : Nat) (a b : List Nat) : Prop := ∀ x, bound ≤ x → (x ∈ a ↔ x ∈ b)

theorem SameEnds.trans {bound : Nat} {a b c : List Nat} (h : SameEnds bound a b)
    (h' : SameEnds bound b c) : SameEnds bound a c := fun x hx => (h x hx).trans (h' x hx)

/-- A read that ends in front of the bound. -/
theorem sameEnds_cons {bound start : Nat} {piece : List UInt8} {pieces : List (List UInt8)}
    (h : start + piece.length < bound) :
    SameEnds bound (ends start (piece :: pieces)) (ends (start + piece.length) pieces) := by
  intro x hx
  rw [ends, List.mem_cons]
  constructor
  · rintro (rfl | hmem)
    · omega
    · exact hmem
  · exact .inr

/-- A call that returns has only looked for bytes. -/
theorem Ahead.returned {blocks : List (List UInt8)} (h : Ahead blocks s script)
    (moved : Nat → Int) {e : ReadEnd} (hret : Returned e script script') : Ahead blocks (s.grow moved) script' := by
  obtain ⟨ret, -, htail, hchunks, -⟩ := hret
  obtain ⟨capacity, hgrow⟩ := grow_zero moved h.no_request
  rw [hgrow]
  exact ⟨h.reading, h.no_request, h.no_file,
    fun r hr => h.opened r (List.mem_of_mem_tail (htail ▸ hr)), hchunks ▸ h.stream, h.within⟩

/-- The rest of a block is still to come. -/
theorem Ahead.ne_nil {later : List (List UInt8)} (h : Ahead (block :: later) s script) :
    script ≠ [] := by
  rintro rfl
  have hlen := congrArg List.length h.stream
  have hshort := (h.within block rfl).2
  simp only [chunks, List.filterMap_nil, List.flatten_nil, List.append_nil,
    List.flatten_cons, List.length_append] at hlen
  omega

/-- With nothing more to come, nothing is read. -/
theorem readHeaders_idle (h : Ahead [] s script) {e : ReadEnd}
    (hrun : readHeaders moved script s = some (e, s', script')) :
    e = .returns 2 ∧ Ahead [] s' script' ∧ script' = script.tail := by
  have hnil : (chunks script).flatten = [] := (List.append_eq_nil_iff.mp h.stream).2
  -- a read brings a byte at least
  have hno : ∀ bs rest t, script = .data bs :: rest → (s.grow moved).recvData bs = some t →
      False := by
    rintro bs rest t rfl hread
    exact (recvData_eq_some hread).1 (List.append_eq_nil_iff.mp hnil).1
  rcases readHeaders_cases hrun with ⟨bs, hs, hread, -⟩ | ⟨bs, rest, t, hs, hread, -⟩ | ⟨hret, rfl⟩
  · exact (hno bs _ _ hs hread).elim
  · exact (hno bs _ _ hs hread).elim
  · have hahead := h.returned moved hret
    obtain ⟨ret, rfl, htail, -, hopen⟩ := hret
    exact ⟨congrArg ReadEnd.returns (hopen h.opened), hahead, htail⟩

/-- The session behind a read, and the stream. -/
theorem Ahead.read {blocks : List (List UInt8)} {bs : List UInt8} {t : HTTP1Session}
    (h : Ahead blocks s (.data bs :: script)) (hread : (s.grow moved).recvData bs = some t) :
    t.buffer = s.buffer ++ bs ∧ t.state = .readHeaders ∧ t.req = .zero ∧ t.file = none ∧
      Open script ∧ t.buffer ++ (chunks script).flatten = blocks.flatten := by
  obtain ⟨capacity, hgrow⟩ := grow_zero moved h.no_request
  obtain ⟨-, rfl⟩ := recvData_eq_some hread
  rw [hgrow]
  refine ⟨rfl, h.reading, h.no_request, h.no_file, (List.forall_mem_cons.mp h.opened).2, ?_⟩
  rw [List.append_assoc]
  exact h.stream

/-- Where a run of `readHeaders` on a session ahead of a block ends: in the middle of the block, or
with the block and what the last read has brought behind it. -/
def BlockRead (block : List UInt8) (later : List (List UInt8)) (e : ReadEnd) (s' : HTTP1Session)
    (script' script : List RecvResult) (s : HTTP1Session) : Prop :=
  script'.length < script.length ∧
    (e = .returns 2 ∧ Ahead (block :: later) s' script' ∧ (∀ start, SameEnds (start + block.length)
        (ends (start + s.buffer.length) (chunks script))
        (ends (start + s'.buffer.length) (chunks script'))) ∨
      e = .complete ∧ ∃ extra, Open script' ∧ extra ++ (chunks script').flatten = later.flatten ∧
        s'.buffer = block ++ extra ∧ s'.state = .readHeaders ∧ s'.req = .zero ∧ s'.file = none ∧
        ∀ start, SameEnds (start + block.length)
          (ends (start + s.buffer.length) (chunks script))
          ((start + block.length + extra.length) ::
            ends (start + block.length + extra.length) (chunks script')))

theorem readHeaders_block {later : List (List UInt8)} (hblock : HeaderBlock block)
    (h : Ahead (block :: later) s script) {e : ReadEnd}
    (hrun : readHeaders moved script s = some (e, s', script')) :
    BlockRead block later e s' script' script s := by
  refine readHeaders_induction
    (P := fun script s => Ahead (block :: later) s script →
      BlockRead block later e s' script' script s) ?_ ?_ ?_ hrun h
  · -- the header is complete
    intro bs s hread hcomplete he hs
    obtain ⟨hbuffer, hst, hreq, hfile, hopen, hstream⟩ := hs.read hread
    have hle := (hblock.headerComplete_iff hstream).mp hcomplete
    obtain ⟨extra, hextra⟩ : block <+: s'.buffer :=
      List.prefix_of_prefix_length_le (List.prefix_append _ _)
        (hstream ▸ List.prefix_append _ _) hle
    refine ⟨by simp, .inr ⟨he, extra, hopen, ?_, hextra.symm, hst, hreq, hfile,
      fun start x hx => ?_⟩⟩
    · rw [← hextra, List.append_assoc] at hstream
      exact List.append_cancel_left hstream
    · have hlen : s.buffer.length + bs.length = block.length + extra.length := by
        rw [← List.length_append, ← hbuffer, ← hextra, List.length_append]
      have hcut : start + s.buffer.length + bs.length
          = start + block.length + extra.length := by omega
      show x ∈ ends _ (bs :: chunks script') ↔ _
      rw [ends, hcut]
  · -- the read ends in the middle of the block
    intro bs rest s t hread hno ih hs
    obtain ⟨hbuffer, hst, hreq, hfile, hopen, hstream⟩ := hs.read hread
    have hlt : t.buffer.length < block.length := by
      by_contra hle
      rw [(hblock.headerComplete_iff hstream).mpr (not_lt.mp hle)] at hno
      cases hno
    have hpart : t.buffer <+: block :=
      List.prefix_of_prefix_length_le (hstream ▸ List.prefix_append _ _)
        (List.prefix_append _ _) hlt.le
    obtain ⟨hless, hcases⟩ := ih ⟨hst, hreq, hfile, hopen, hstream, by
      rintro _ ⟨⟩
      exact ⟨hpart, hlt⟩⟩
    refine ⟨Nat.lt_succ_of_lt hless, ?_⟩
    have hcut : ∀ start, SameEnds (start + block.length)
        (ends (start + s.buffer.length) (chunks (.data bs :: rest)))
        (ends (start + t.buffer.length) (chunks rest)) := by
      intro start
      rw [hbuffer, List.length_append] at hlt ⊢
      rw [← Nat.add_assoc]
      exact sameEnds_cons (by omega)
    rcases hcases with ⟨he, hahead', hsame⟩ | ⟨he, extra, ho, hst, hb, h1, h2, h3, hsame⟩
    · exact .inl ⟨he, hahead', fun start => (hcut start).trans (hsame start)⟩
    · exact .inr ⟨he, extra, ho, hst, hb, h1, h2, h3,
        fun start => (hcut start).trans (hsame start)⟩
  · -- nothing more comes
    rintro script s hret rfl hs
    have hahead := hs.returned moved hret
    obtain ⟨ret, rfl, rfl, hchunks, hopen⟩ := hret
    refine ⟨?_, .inl ⟨congrArg ReadEnd.returns (hopen hs.opened), hahead, fun start x hx => ?_⟩⟩
    · have hpos := List.length_pos_iff.mpr hs.ne_nil
      rw [List.length_tail]
      omega
    · rw [hchunks, grow_buffer]

end Reading

/-! ## Every request takes its bytes -/

section Bytes

variable {moved : Nat → Int} {config : Config} {s s' : HTTP1Session}
  {script script' : List RecvResult}

/-- The bytes of the header block of a request. -/
def headLen (req : RequestHeader) : Nat :=
  match req.bodyData with
  | some (.buffer n) => n
  | _ => 0

/-- What is in the buffer for requests that are not handled yet. -/
def held (s : HTTP1Session) : Nat :=
  match s.state with
  | .readHeaders | .readBody => s.buffer.length
  | _ => 0

/-- Between two calls. -/
structure Kept (s : HTTP1Session) : Prop where
  in_body : s.state = .readBody → headLen s.req ≤ s.buffer.length
  not_handling : s.state ≠ .handleRequest

theorem headLen_grow (moved : Nat → Int) (s : HTTP1Session) :
    headLen (s.grow moved).req = headLen s.req := by
  refine grow_req (P := fun req => headLen req = headLen s.req) rfl fun diff => ?_
  unfold headLen updateHeaderPointers
  cases s.req.bodyData with
  | none => rfl
  | some p => cases p <;> rfl

theorem size_returned {e : ReadEnd} (h : Returned e script script') : size script' = size script := by
  obtain ⟨ret, -, -, hchunks, -⟩ := h
  rw [size, size, hchunks]

theorem readHeaders_bytes {e : ReadEnd}
    (hrun : readHeaders moved script s = some (e, s', script')) :
    s'.state = s.state ∧ s'.buffer.length + size script' = s.buffer.length + size script := by
  refine readHeaders_induction (P := fun script s =>
    s'.state = s.state ∧ s'.buffer.length + size script' = s.buffer.length + size script)
    ?_ ?_ ?_ hrun
  · rintro bs s hread - -
    obtain ⟨-, rfl⟩ := recvData_eq_some hread
    rw [size_data, List.length_append, grow_buffer]
    exact ⟨grow_state moved s, by omega⟩
  · rintro bs rest s t hread - ih
    obtain ⟨-, rfl⟩ := recvData_eq_some hread
    rw [List.length_append, grow_buffer] at ih
    rw [size_data]
    exact ⟨ih.1.trans (grow_state moved s), by omega⟩
  · rintro script s hret rfl
    rw [grow_buffer, grow_state, size_returned hret]
    exact ⟨rfl, rfl⟩

/-- What a run of `readBody` leaves alone. -/
structure BodyRead (e : ReadEnd) (s' : HTTP1Session) (script' script : List RecvResult)
    (s : HTTP1Session) : Prop where
  head : headLen s'.req = headLen s.req
  bytes : s'.buffer.length + size script' = s.buffer.length + size script
  longer : s.buffer.length ≤ s'.buffer.length
  state : s'.state = s.state ∨ e = .complete

theorem readBody_bytes {headerLen : Nat} {e : ReadEnd}
    (hrun : readBody moved headerLen script s = some (e, s', script')) :
    BodyRead e s' script' script s := by
  refine readBody_induction (P := BodyRead e s' script') ?_ ?_ ?_ hrun
  · rintro s - he rfl
    exact ⟨rfl, rfl, le_rfl, .inr he⟩
  · rintro bs rest s t - hread ih
    obtain ⟨-, rfl⟩ := recvData_eq_some hread
    have hbuffer : (s.measured headerLen).buffer = s.buffer := rfl
    have hlonger := ih.longer
    have hbytes := ih.bytes
    simp only [List.length_append, grow_buffer, hbuffer] at hlonger hbytes
    refine ⟨ih.head.trans (headLen_grow moved _), ?_, by omega, ?_⟩
    · rw [size_data]
      omega
    · exact ih.state.imp_left fun hst => hst.trans (grow_state moved _)
  · rintro script s - hret rfl
    refine ⟨headLen_grow moved _, ?_, ?_, .inl (grow_state moved _)⟩
    · rw [grow_buffer, size_returned hret]
      rfl
    · rw [grow_buffer]
      exact le_rfl

theorem http1ParserParseHeader_bytes {buffer buffer' head rest : List UInt8}
    {req req' : RequestHeader} {valid : Bool}
    (hsplit : splitAfter blankLine (cstr buffer) = some (head, rest))
    (h : http1ParserParseHeader config buffer req = some (valid, req', buffer')) :
    headLen req' = head.length ∧ head.length ≤ buffer.length ∧ buffer'.length = buffer.length := by
  obtain ⟨parsed, block, parts, hparse, -, -, rfl, rfl⟩ := http1ParserParseHeader_eq_some hsplit h
  have hle : head.length ≤ buffer.length := by
    have hpre : head <+: buffer :=
      (splitAfter_sound hsplit ▸ List.prefix_append head rest).trans (cstr_isPrefix buffer)
    exact hpre.length_le
  refine ⟨rfl, hle, ?_⟩
  rw [List.length_append, List.length_drop, length_parseHead hparse]
  omega

/-- What becomes of the bytes of a call that reads a request. -/
theorem readRequest_bytes (hst : s.state = .readHeaders ∨ s.state = .readBody) (hkept : Kept s)
    {e : ReadEnd} (h : readRequest server s script = some (e, s', script')) :
    (e = .complete → headLen s'.req + size script' ≤ held s + size script) ∧
    (∀ ret, e = .returns ret → 0 < ret →
      Kept s' ∧ held s' + size script' ≤ held s + size script) := by
  have hbody : ∀ {u : HTTP1Session} {rest : List RecvResult}, BodyRead e s' script' rest u →
      u.state = .readBody → headLen u.req ≤ u.buffer.length →
      u.buffer.length + size rest = held s + size script →
      (e = .complete → headLen s'.req + size script' ≤ held s + size script) ∧
      (∀ ret, e = .returns ret → 0 < ret →
        Kept s' ∧ held s' + size script' ≤ held s + size script) := by
    intro u rest hread hu hhead hsum
    have hbytes := hread.bytes
    have hlonger := hread.longer
    constructor
    · intro _
      rw [hread.head]
      omega
    · rintro ret rfl -
      have hstate : s'.state = .readBody := (hread.state.resolve_right (by simp)).trans hu
      refine ⟨⟨fun _ => ?_, ?_⟩, ?_⟩
      · rw [hread.head]
        omega
      · rw [hstate]
        simp
      · rw [held, hstate]
        dsimp only
        omega
  rcases hst with hst | hst
  · have hheld : held s = s.buffer.length := by rw [held, hst]
    rcases readRequest_headers hst h with ⟨ret, rfl, hrun⟩ |
      ⟨t, rest, valid, req, buffer, hrun, hparse, hhanded⟩
    · obtain ⟨hstate, hsum⟩ := readHeaders_bytes hrun
      rw [hst] at hstate
      refine ⟨by simp, fun _ _ _ => ⟨⟨?_, ?_⟩, ?_⟩⟩
      · simp [hstate]
      · simp [hstate]
      · rw [held, hstate]
        dsimp only
        omega
    · obtain ⟨-, hsum⟩ := readHeaders_bytes hrun
      rcases hhanded with ⟨-, rfl, -, -⟩ | ⟨rfl, -, rfl, rfl, rfl⟩ |
        ⟨rfl, hlen, headerLen, -, hbodyrun⟩
      · refine ⟨by simp, ?_⟩
        rintro _ ⟨⟩ hpos
        omega
      · obtain ⟨head, tail, hsplit⟩ := http1ParserParseHeader_valid hparse
        obtain ⟨hhead, hle, hlen⟩ := http1ParserParseHeader_bytes hsplit hparse
        refine ⟨fun _ => ?_, by simp⟩
        show headLen req + _ ≤ _
        omega
      · obtain ⟨head, tail, hsplit⟩ := http1ParserParseHeader_valid hparse
        obtain ⟨hhead, hle, hlen'⟩ := http1ParserParseHeader_bytes hsplit hparse
        have hu : (t.parsed req buffer).buffer = buffer := rfl
        refine hbody (readBody_bytes hbodyrun) (if_pos hlen) ?_ ?_
        · show headLen req ≤ buffer.length
          omega
        · rw [hu]
          omega
  · obtain ⟨headerLen, -, hrun⟩ := readRequest_body hst h
    exact hbody (readBody_bytes hrun) hst (hkept.in_body hst) (by rw [held, hst])

/-! ## Calls -/

theorem routingBridge_next {next : HTTP1Session} {ret : Int}
    (h : http1ManagerRoutingBridge server s = some (ret, next)) (hret : ret = 2 ∨ ret = 3) :
    next.state = .fcgiProcessing ∨ next.state = .sendStaticFile := by
  unfold http1ManagerRoutingBridge at h
  obtain ⟨p, -, h⟩ := Option.bind_eq_some_iff.mp h
  obtain ⟨uri, -, h⟩ := Option.bind_eq_some_iff.mp h
  split at h
  · obtain ⟨rfl, -⟩ : _ ∧ _ := by simpa using h
    omega
  · extract_lets pathOff vhRoot at h
    split at h
    · split at h
      · obtain ⟨-, rfl⟩ : _ ∧ _ := by simpa using h
        exact .inl rfl
      · obtain ⟨rfl, -⟩ : _ ∧ _ := by simpa using h
        omega
    · split at h
      · obtain ⟨rfl, -⟩ : _ ∧ _ := by simpa using h
        omega
      · obtain ⟨-, rfl⟩ : _ ∧ _ := by simpa using h
        exact .inr rfl

/-- What a call does: it reads a request, and maybe hands it on, or it is about an answer. -/
theorem session_cases {call : SessionCall}
    (h : http1ManagerSession server .done s script = some call) :
    ((s.state = .readHeaders ∨ s.state = .readBody ∨ s.state = .handleRequest) ∧
      ((∃ ret, readRequest server s script = some (.returns ret, call.session, call.script) ∧
          call.ret = ret ∧ call.handled = none) ∨
        ∃ t, readRequest server s script = some (.complete, t, call.script) ∧
          call.handled = some t.req ∧
          http1ManagerRoutingBridge server t = some (call.ret, call.session))) ∨
    ((s.state = .fcgiProcessing ∨ s.state = .sendStaticFile) ∧
      call = ⟨if s.req.isKeepAlive then 2 else 0, s.reset, script, none⟩) ∨
    (s.state = .done ∧ call = ⟨2, s, script, none⟩) := by
  have hread : ∀ {next : ReadEnd × HTTP1Session × List RecvResult → Option SessionCall},
      (∀ ret t rest, next (.returns ret, t, rest) = some ⟨ret, t, rest, none⟩) →
      (∀ t rest, next (.complete, t, rest) = (http1ManagerRoutingBridge server t).bind
        fun r => some ⟨r.1, r.2, rest, some t.req⟩) →
      (readRequest server s script).bind next = some call →
      (∃ ret, readRequest server s script = some (.returns ret, call.session, call.script) ∧
          call.ret = ret ∧ call.handled = none) ∨
        ∃ t, readRequest server s script = some (.complete, t, call.script) ∧
          call.handled = some t.req ∧
          http1ManagerRoutingBridge server t = some (call.ret, call.session) := by
    intro next hreturns hcomplete h
    obtain ⟨⟨e, t, rest⟩, hrun, h⟩ := Option.bind_eq_some_iff.mp h
    cases e with
    | returns ret =>
        rw [hreturns] at h
        cases h
        exact .inl ⟨ret, hrun, rfl, rfl⟩
    | complete =>
        rw [hcomplete] at h
        obtain ⟨⟨ret, next⟩, hbridge, h⟩ := Option.bind_eq_some_iff.mp h
        cases h
        exact .inr ⟨t, hrun, rfl, hbridge⟩
  unfold http1ManagerSession at h
  cases hst : s.state <;> simp only [hst] at h
  case readHeaders => exact .inl ⟨.inl rfl, hread (fun _ _ _ => rfl) (fun _ _ => rfl) h⟩
  case readBody => exact .inl ⟨.inr (.inl rfl), hread (fun _ _ _ => rfl) (fun _ _ => rfl) h⟩
  case handleRequest => exact .inl ⟨.inr (.inr rfl), hread (fun _ _ _ => rfl) (fun _ _ => rfl) h⟩
  case sendStaticFile => exact .inr (.inl ⟨.inr rfl, (Option.some.inj h).symm⟩)
  case fcgiProcessing => exact .inr (.inl ⟨.inl rfl, (Option.some.inj h).symm⟩)
  case done => exact .inr (.inr ⟨rfl, (Option.some.inj h).symm⟩)

theorem held_handed (h : s.state = .fcgiProcessing ∨ s.state = .sendStaticFile) :
    held s = 0 ∧ Kept s := by
  rcases h with h | h <;> exact ⟨by rw [held, h], by simp [h], by simp [h]⟩

/-- A call takes the bytes of the header block it hands on from the stream at least. -/
theorem session_bytes (hkept : Kept s) {call : SessionCall}
    (h : http1ManagerSession server .done s script = some call) :
    (call.handled.toList.map headLen).sum ≤ held s + size script ∧
    (call.ret = 2 ∨ call.ret = 3 → Kept call.session ∧
      (call.handled.toList.map headLen).sum + held call.session + size call.script
        ≤ held s + size script) := by
  rcases session_cases h with ⟨hst, hread⟩ | ⟨hst, rfl⟩ | ⟨hst, rfl⟩
  · have hst' : s.state = .readHeaders ∨ s.state = .readBody := by
      rcases hst with hst | hst | hst
      · exact .inl hst
      · exact .inr hst
      · exact absurd hst hkept.not_handling
    rcases hread with ⟨ret, hrun, hret, hhandled⟩ | ⟨t, hrun, hhandled, hbridge⟩
    · rw [hhandled]
      refine ⟨by simp, fun hpos => ?_⟩
      obtain ⟨hkept', hle⟩ := (readRequest_bytes hst' hkept hrun).2 ret rfl (by omega)
      exact ⟨hkept', by simpa using hle⟩
    · rw [hhandled]
      have hle := (readRequest_bytes hst' hkept hrun).1 rfl
      have hsum : ((some t.req).toList.map headLen).sum = headLen t.req := by simp
      rw [hsum]
      refine ⟨by omega, fun hpos => ?_⟩
      obtain ⟨hzero, hkept'⟩ := held_handed (routingBridge_next hbridge hpos)
      exact ⟨hkept', by omega⟩
  · have hzero : held s.reset = 0 := rfl
    refine ⟨by simp, fun _ => ⟨⟨fun _ => ?_, ?_⟩, ?_⟩⟩
    · exact Nat.le_refl 0
    · exact nofun
    · simp only [Option.toList_none, List.map_nil, List.sum_nil, hzero]
      omega
  · exact ⟨by simp, fun _ => ⟨hkept, by simp⟩⟩

/-- **The bytes of a run**: the header blocks of the requests that are handled are bytes of the
stream, no two of them the same. -/
theorem serve_bytes {n : Nat} {handled : List RequestHeader} (hkept : Kept s)
    (h : serve server n s script = some handled) :
    (handled.map headLen).sum ≤ held s + size script := by
  induction n generalizing s script handled with
  | zero =>
      obtain rfl : [] = handled := Option.some.inj h
      simp
  | succ n ih =>
      rw [serve] at h
      obtain ⟨call, hcall, h⟩ := Option.bind_eq_some_iff.mp h
      obtain ⟨hsum, hmore⟩ := session_bytes hkept hcall
      split at h
      · next hret =>
        obtain ⟨more, hserve, h⟩ := Option.bind_eq_some_iff.mp h
        obtain rfl := Option.some.inj h
        obtain ⟨hkept', hle⟩ := hmore hret
        have hrest := ih hkept' hserve
        rw [List.map_append, List.sum_append]
        omega
      · obtain rfl := Option.some.inj h
        exact hsum

end Bytes

/-! ## Blocks of static requests -/

section Blocks

variable {s s' t : HTTP1Session} {script script' rest : List RecvResult} {n : Nat}
  {later : List (List UInt8)} {extra : List UInt8}

theorem StaticRequest.headLen_requestOf (h : StaticRequest server block) :
    headLen (requestOf server.config block) = block.length := by
  obtain ⟨buffer, path, hparse, -⟩ := h.served
  have hsplit := h.found []
  rw [List.append_nil] at hsplit
  exact (http1ParserParseHeader_bytes hsplit hparse).1

theorem sum_headLen {blocks : List (List UInt8)} (h : ∀ b ∈ blocks, StaticRequest server b) :
    ((blocks.map (requestOf server.config)).map headLen).sum = blocks.flatten.length := by
  rw [List.map_map, List.length_flatten]
  refine congrArg List.sum (List.map_congr_left fun b hb => ?_)
  exact (h b hb).headLen_requestOf

/-- What the parser makes of a block, whatever is behind it. -/
theorem StaticRequest.parsed (h : StaticRequest server block) {valid : Bool} {req : RequestHeader}
    {buffer : List UInt8}
    (hparse : http1ParserParseHeader server.config (block ++ extra) .zero
      = some (valid, req, buffer)) :
    valid = true ∧ req.contentLength = 0 ∧ headLen req = block.length := by
  obtain ⟨buffer₀, path, hserved, -⟩ := h.served
  have halone := h.found []
  rw [List.append_nil] at halone
  obtain ⟨parsed, _, _, hhead, -, hvalid, hreq, -⟩ := http1ParserParseHeader_eq_some halone hserved
  obtain ⟨parsed', _, _, hhead', -, rfl, rfl, -⟩ :=
    http1ParserParseHeader_eq_some (h.found extra) hparse
  rw [hhead] at hhead'
  obtain ⟨rfl, -⟩ := Prod.mk.inj (Option.some.inj hhead')
  refine ⟨hvalid.symm, ?_, rfl⟩
  rw [← h.no_body, hreq]

/-- Behind the parser a block without a body is handed on at once. -/
theorem StaticRequest.handed (h : StaticRequest server block) (ht : t.buffer = block ++ extra)
    (hreq : t.req = .zero) {valid : Bool} {req : RequestHeader} {buffer : List UInt8} {e : ReadEnd}
    (hparse : http1ParserParseHeader server.config t.buffer t.req = some (valid, req, buffer))
    (hhanded : Handed server valid (t.parsed req buffer) rest e s' script') :
    e = .complete ∧ script' = rest ∧ headLen s'.req = block.length ∧
      s' = ⟨buffer, t.bufCapacity, req, .handleRequest, t.file⟩ := by
  rw [ht, hreq] at hparse
  obtain ⟨hvalid, hzero, hhead⟩ := h.parsed hparse
  have hu : t.parsed req buffer = ⟨buffer, t.bufCapacity, req, .handleRequest, t.file⟩ := by
    rw [HTTP1Session.parsed, hzero, if_neg (lt_irrefl 0)]
  rcases hhanded with ⟨hno, -⟩ | ⟨-, -, rfl, rfl, rfl⟩ | ⟨-, hpos, -⟩
  · rw [hvalid] at hno
    cases hno
  · exact ⟨rfl, rfl, hhead, hu⟩
  · have hpos' : 0 < req.contentLength := hpos
    omega

theorem readRequest_block (h : StaticRequest server block) (hs : s.state = .readHeaders)
    (hread : readHeaders server.moved script s = some (.complete, t, rest))
    (ht : t.buffer = block ++ extra) (hreq : t.req = .zero) {e : ReadEnd}
    (hrun : readRequest server s script = some (e, s', script')) :
    e = .complete ∧ script' = rest ∧ headLen s'.req = block.length ∧
      ∃ valid req buffer, http1ParserParseHeader server.config t.buffer t.req
          = some (valid, req, buffer) ∧
        s' = ⟨buffer, t.bufCapacity, req, .handleRequest, t.file⟩ := by
  rcases readRequest_headers hs hrun with ⟨ret, rfl, hret⟩ |
    ⟨t', rest', valid, req, buffer, hread', hparse, hhanded⟩
  · rw [hread] at hret
    cases hret
  · rw [hread] at hread'
    obtain ⟨rfl, rfl⟩ : t = t' ∧ rest = rest' := by simpa using hread'
    obtain ⟨he, hscript, hhead, hs'⟩ := h.handed ht hreq hparse hhanded
    exact ⟨he, hscript, hhead, valid, req, buffer, hparse, hs'⟩

/-- A block at the end of what has been read: it is answered, and the session is as new. -/
theorem serve_block (h : StaticRequest server block) (hs : s.state = .readHeaders)
    (hread : readHeaders server.moved script s = some (.complete, t, rest))
    (ht : t.buffer = block) (hreq : t.req = .zero) (hfile : t.file = none)
    {handled : List RequestHeader} (hserve : serve server (n + 2) s script = some handled) :
    ∃ more capacity, handled = requestOf server.config block :: more ∧
      serve server n ⟨[], capacity, .zero, .readHeaders, none⟩ rest = some more := by
  rw [serve] at hserve
  obtain ⟨call, hcall, hserve⟩ := Option.bind_eq_some_iff.mp hserve
  obtain ⟨buffer, path, hserved, hbridge⟩ := h.served
  -- the first call hands the request on, the second one answers it
  have hfirst : call = ⟨3, ⟨buffer, t.bufCapacity, requestOf server.config block, .sendStaticFile,
      some path⟩, rest, some (requestOf server.config block)⟩ := by
    have ht' : t.buffer = block ++ [] := by rw [ht, List.append_nil]
    rcases session_cases hcall with ⟨-, ⟨ret, hrun, -⟩ | ⟨u, hrun, hhandled, hnext⟩⟩ |
      ⟨hst, -⟩ | ⟨hst, -⟩
    · obtain ⟨he, -⟩ := readRequest_block h hs hread ht' hreq hrun
      cases he
    · obtain ⟨-, hrest, -, valid, req, buffer', hparse, rfl⟩ :=
        readRequest_block h hs hread ht' hreq hrun
      rw [ht, hreq, hserved] at hparse
      obtain ⟨-, rfl, rfl⟩ : _ ∧ _ ∧ _ := by simpa using hparse
      rw [hfile, hbridge] at hnext
      obtain ⟨hret, hsession⟩ := Prod.mk.inj (Option.some.inj hnext)
      obtain ⟨ret, session, callScript, callHandled⟩ := call
      simp only at hret hsession hrest hhandled
      rw [← hret, ← hsession, hrest, hhandled]
    · rw [hs] at hst
      rcases hst with hst | hst <;> cases hst
    · rw [hs] at hst
      cases hst
  subst hfirst
  rw [if_pos (.inr rfl)] at hserve
  obtain ⟨more, hmore, hcons⟩ := Option.bind_eq_some_iff.mp hserve
  obtain rfl := Option.some.inj hcons
  rw [serve] at hmore
  obtain ⟨call, hcall, hmore⟩ := Option.bind_eq_some_iff.mp hmore
  have hkeep := h.keep_alive
  obtain rfl : (⟨2, ⟨[], t.bufCapacity, .zero, .readHeaders, none⟩, rest, none⟩ : SessionCall)
      = call := by
    simpa [http1ManagerSession, HTTP1Session.reset, hkeep] using hcall
  rw [if_pos (.inl rfl)] at hmore
  obtain ⟨more', hrest, hnil⟩ := Option.bind_eq_some_iff.mp hmore
  obtain rfl := Option.some.inj hnil
  exact ⟨more', t.bufCapacity, rfl, hrest⟩

/-- A block with bytes of the next one behind it: they are cleared with it. -/
theorem serve_block_lost (h : StaticRequest server block) (hs : s.state = .readHeaders)
    (hread : readHeaders server.moved script s = some (.complete, t, rest))
    (ht : t.buffer = block ++ extra) (hreq : t.req = .zero) {handled : List RequestHeader}
    (hserve : serve server (n + 1) s script = some handled) :
    (handled.map headLen).sum ≤ block.length + size rest := by
  rw [serve] at hserve
  obtain ⟨call, hcall, hserve⟩ := Option.bind_eq_some_iff.mp hserve
  rcases session_cases hcall with ⟨-, ⟨ret, hrun, -⟩ | ⟨u, hrun, hhandled, hnext⟩⟩ |
    ⟨hst, -⟩ | ⟨hst, -⟩
  · obtain ⟨he, -⟩ := readRequest_block h hs hread ht hreq hrun
    cases he
  · obtain ⟨-, hrest, hhead, -⟩ := readRequest_block h hs hread ht hreq hrun
    rw [hhandled] at hserve
    split at hserve
    · next hret =>
      obtain ⟨more, hnextCalls, hcons⟩ := Option.bind_eq_some_iff.mp hserve
      obtain rfl := Option.some.inj hcons
      obtain ⟨hzero, hkept⟩ := held_handed (routingBridge_next hnext hret)
      have hmore := serve_bytes hkept hnextCalls
      rw [hrest] at hmore
      simp only [Option.toList_some, List.singleton_append, List.map_cons, List.sum_cons]
      omega
    · obtain rfl := Option.some.inj hserve
      simp only [Option.toList_some, List.map_cons, List.map_nil, List.sum_cons, List.sum_nil]
      omega
  · rw [hs] at hst
    rcases hst with hst | hst <;> cases hst
  · rw [hs] at hst
    cases hst

/-- A call on a session about to read. -/
theorem serve_reads (hs : s.state = .readHeaders) {handled : List RequestHeader}
    (hserve : serve server (n + 1) s script = some handled) :
    ∃ e t rest, readHeaders server.moved script s = some (e, t, rest) ∧
      (e = .returns 2 → serve server n t rest = some handled) := by
  rw [serve] at hserve
  obtain ⟨call, hcall, hserve⟩ := Option.bind_eq_some_iff.mp hserve
  simp only [http1ManagerSession, hs] at hcall
  obtain ⟨⟨e, u, behind⟩, hrun, hcall⟩ := Option.bind_eq_some_iff.mp hcall
  rcases readRequest_headers hs hrun with ⟨ret, rfl, hread⟩ | ⟨t, rest, _, _, _, hread, -⟩
  · refine ⟨.returns ret, u, behind, hread, ?_⟩
    rintro ⟨⟩
    obtain rfl := Option.some.inj hcall
    rw [if_pos (.inl rfl)] at hserve
    obtain ⟨more, hmore, hnil⟩ := Option.bind_eq_some_iff.mp hserve
    rw [hmore, ← hnil]
    rfl
  · exact ⟨.complete, t, rest, hread, nofun⟩

/-- With nothing more to come, nothing is handled. -/
theorem serve_idle (h : Ahead [] s script) {handled : List RequestHeader}
    (hserve : serve server n s script = some handled) : handled = [] := by
  induction n generalizing s script with
  | zero => exact (Option.some.inj hserve).symm
  | succ n ih =>
      obtain ⟨e, t, rest, hread, hret⟩ := serve_reads h.reading hserve
      obtain ⟨rfl, hahead, -⟩ := readHeaders_idle h hread
      exact ih hahead (hret rfl)

/-- **A run over blocks** handles all of them if and only if each ends where a read ends. -/
theorem serve_ahead {blocks : List (List UInt8)} (hblocks : ∀ b ∈ blocks, StaticRequest server b)
    (h : Ahead blocks s script) (hn : 2 * script.length ≤ n) {handled : List RequestHeader}
    (hserve : serve server n s script = some handled) (start : Nat) :
    handled = blocks.map (requestOf server.config) ↔
      ∀ x ∈ ends start blocks, x ∈ ends (start + s.buffer.length) (chunks script) := by
  induction hlen : script.length using Nat.strong_induction_on
    generalizing n blocks s script handled start with
  | _ len ih =>
  cases blocks with
  | nil =>
      rw [serve_idle h hserve]
      simp [ends]
  | cons block later =>
      obtain ⟨hblock, hlater⟩ := List.forall_mem_cons.mp hblocks
      have hpos := List.length_pos_iff.mpr h.ne_nil
      obtain ⟨n, rfl⟩ : ∃ m, n = m + 2 := ⟨n - 2, by omega⟩
      obtain ⟨e, t, rest, hread, hret⟩ := serve_reads h.reading hserve
      obtain ⟨hless, ⟨rfl, hahead, hsame⟩ |
        ⟨rfl, extra, hopen, hstream, ht, hst, hreq, hfile, hsame⟩⟩ :=
        readHeaders_block hblock.toHeaderBlock h hread
      · -- the call returns in the middle of the block
        rw [ih rest.length (by omega) hblocks hahead (by omega) (hret rfl) start rfl]
        refine forall₂_congr fun x hx => (hsame start x ?_).symm
        rcases List.mem_cons.mp hx with rfl | hx
        · exact le_rfl
        · exact le_of_mem_ends hx
      · have hcut : ∀ x, start + block.length ≤ x →
            (x ∈ ends (start + s.buffer.length) (chunks script) ↔
              x = start + block.length + extra.length ∨
                x ∈ ends (start + block.length + extra.length) (chunks rest)) := by
          intro x hx
          rw [hsame start x hx, List.mem_cons]
        by_cases hextra : extra = []
        · -- the block ends where the read does
          subst hextra
          rw [List.append_nil] at ht
          rw [List.length_nil, Nat.add_zero] at hcut
          obtain ⟨more, capacity, rfl, hmore⟩ :=
            serve_block hblock h.reading hread ht hreq hfile hserve
          have hahead : Ahead later ⟨[], capacity, .zero, .readHeaders, none⟩ rest :=
            ⟨rfl, rfl, rfl, hopen, hstream, fun b hb =>
              ⟨List.nil_prefix, List.length_pos_iff.mpr
                (hlater b (List.mem_of_mem_head? hb)).ne_nil⟩⟩
          rw [List.map_cons, List.cons.injEq, and_iff_right rfl,
            ih rest.length (by omega) hlater hahead (by omega) hmore (start + block.length) rfl]
          rw [List.length_nil, Nat.add_zero]
          constructor
          · intro hrest x hx
            rcases List.mem_cons.mp hx with rfl | hx
            · exact (hcut _ le_rfl).mpr (.inl rfl)
            · exact (hcut x (le_of_mem_ends hx)).mpr (.inr (hrest x hx))
          · intro hall x hx
            have hlt := lt_of_mem_ends (fun b hb => (hlater b hb).ne_nil) hx
            exact ((hcut x hlt.le).mp (hall x (List.mem_cons_of_mem _ hx))).resolve_left hlt.ne'
        · -- the next block begins in the same read
          have hlong := List.length_pos_iff.mpr hextra
          constructor
          · rintro rfl
            have hlost := serve_block_lost hblock h.reading hread ht hreq hserve
            have hsum := congrArg List.length hstream
            rw [sum_headLen hblocks, List.flatten_cons, List.length_append, ← hsum,
              List.length_append, size] at hlost
            omega
          · intro hall
            rcases (hcut _ le_rfl).mp (hall (start + block.length) List.mem_cons_self) with hx | hx
            · omega
            · have hle := le_of_mem_ends hx
              omega

end Blocks

/-- **Requests one behind the other**: in every run over valid requests for static files, with calls
until the script is used up, the requests handled are the requests sent, in order, if and only if
every request ends where a read ends. -/
theorem handled_all_iff {blocks : List (List UInt8)}
    (hblocks : ∀ block ∈ blocks, StaticRequest server block) {script : List RecvResult}
    (hopen : Open script) (hstream : (chunks script).flatten = blocks.flatten) {n : Nat}
    (hn : 2 * script.length ≤ n) {handled : List RequestHeader}
    (hrun : serve server n (.new server.config) script = some handled) :
    handled = blocks.map (requestOf server.config) ↔
      ∀ x ∈ ends 0 blocks, x ∈ ends 0 (chunks script) := by
  have hahead : Ahead blocks (.new server.config) script :=
    ⟨rfl, rfl, rfl, hopen, hstream, fun block hblock =>
      ⟨List.nil_prefix, List.length_pos_iff.mpr
        (hblocks block (List.mem_of_mem_head? hblock)).ne_nil⟩⟩
  exact serve_ahead hblocks hahead hn hrun 0

/-! ## A server with one page -/

/-- `/srv/a`. -/
def pageFiles : FileSystem where
  realpath := PosixPath.resolve [[ascii "srv"], [ascii "srv", ascii "a"]]
  realpath_canonical := PosixPath.resolve_canonical
  stat p := if p = ascii "/srv/a" then some .regular else some .directory
  canOpen _ := true

def pageServer : Server where
  config := ⟨ascii "/srv", [], [], [], 128, []⟩
  fs := pageFiles
  fcgiSessionCreates _ := false
  moved _ := 0

def pageRequest : List UInt8 := ascii "GET /a HTTP/1.1\r\nHost: halmos\r\n\r\n"

theorem pageRequest_static : StaticRequest pageServer pageRequest where
  block_end := by decide +kernel
  no_nul := by decide +kernel
  served := ⟨ascii "GET /a\x00HTTP/1.1\r\nHost\x00 halmos\x00\n\r\n", ascii "/srv/a",
    by decide +kernel, fun _ => rfl⟩
  no_body := by decide +kernel
  keep_alive := by decide +kernel

/-- The first request in two reads, the second one in a read of its own. -/
def pageReads : List RecvResult :=
  [.data (pageRequest.take 9), .wouldBlock, .data (pageRequest.drop 9), .data pageRequest]

theorem handled_all_pages :
    serve pageServer 8 (.new pageServer.config) pageReads
        = some (List.replicate 2 (requestOf pageServer.config pageRequest)) ∧
      ((List.replicate 2 (requestOf pageServer.config pageRequest)
          = [pageRequest, pageRequest].map (requestOf pageServer.config)) ↔
        ∀ x ∈ ends 0 [pageRequest, pageRequest], x ∈ ends 0 (chunks pageReads)) := by
  have hrun : serve pageServer 8 (.new pageServer.config) pageReads
      = some (List.replicate 2 (requestOf pageServer.config pageRequest)) := by decide +kernel
  refine ⟨hrun, handled_all_iff ?_ ?_ ?_ (n := 8) (by decide) hrun⟩
  · intro block hblock
    obtain rfl : block = pageRequest := by simpa using hblock
    exact pageRequest_static
  · decide +kernel
  · decide +kernel

/-- Two requests that come in one read: the second one is lost. -/
theorem second_request_lost :
    ¬ ∀ (server : Server) (blocks : List (List UInt8)) (script : List RecvResult) (n : Nat)
      (handled : List RequestHeader), (∀ block ∈ blocks, StaticRequest server block) →
      Open script → (chunks script).flatten = blocks.flatten → 2 * script.length ≤ n →
      serve server n (.new server.config) script = some handled →
      handled = blocks.map (requestOf server.config) := by
  intro h
  have hone : (serve pageServer 2 (.new pageServer.config)
      [.data (pageRequest ++ pageRequest)]).map List.length = some 1 := by decide +kernel
  obtain ⟨handled, hrun, hlen⟩ := Option.map_eq_some_iff.mp hone
  have hall := h pageServer [pageRequest, pageRequest] [.data (pageRequest ++ pageRequest)] 2
    handled (by simp [pageRequest_static]) (by decide) (by decide +kernel) (by decide) hrun
  rw [hall] at hlen
  cases hlen

end Halmos.Http1
