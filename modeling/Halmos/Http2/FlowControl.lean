import Halmos.Http2.RouterCalls
import Halmos.Http2.Windows

set_option autoImplicit false

/-! # Outbound flow control

The pump of files takes what it sends from both windows and never sends more than they hold. The
other sender, `http2_response_send_data`, looks at no window and takes nothing: its error pages and
the answers of backends go out without credit. In a run in which it sends no body, and no initial
window is beyond `2 ^ 31 - 1`, the DATA sent stays within the credit received (`sent_le_granted`).
-/

namespace Halmos.Http2

open Fcgi

/-! ## What is sent, and what may be -/

/-- The bytes of DATA in an event. -/
def Event.sentLength : Event → Nat
  | .router _ _ _ => 0
  | .sent c => if c.type = 0x00 then c.payload.length else 0

/-- The bytes of DATA on a stream. -/
def Event.sentLengthOn (id : Nat) : Event → Nat
  | .router _ _ _ => 0
  | .sent c => if c.type = 0x00 ∧ c.streamId = id then c.payload.length else 0

/-- The DATA sent so far. -/
def Run.sent (r : Run) : Nat :=
  (r.trace.map (fun t => match t with
    | .received _ => 0
    | .did e => e.sentLength)).sum

/-- The DATA sent on a stream so far. -/
def Run.sentOn (r : Run) (id : Nat) : Nat :=
  (r.trace.map (fun t => match t with
    | .received _ => 0
    | .did e => e.sentLengthOn id)).sum

/-- What an input does to the credit. -/
def Run.Input.ledgerOps : Run.Input → List LedgerOp
  | .frame f env => f.ledgerOps env
  | .flush _ => []

/-- The credit the peer has given: for the session 65535 and its increments, for each stream the
initial window in force and its increments. -/
def granted (is : List Run.Input) : Ledger Int :=
  exactFresh.applyAll id (is.flatMap Run.Input.ledgerOps)

/-! ## The condition -/

/-- The router answers with an error page. -/
def Route.IsError (route : Route) : Prop :=
  route = .badGateway ∨ route = .notFound ∨ route = .forbidden

/-- The frame calls the router for a request that is no WebSocket. -/
def Routes (env : Environment) (s : Server) (f : Frame) : Prop :=
  f.flags &&& 0x01 ≠ 0 ∧
    ((f.type = 0x00 ∧ Stores env s f) ∨
      (f.type = 0x01 ∧ Accepts env s f ∧ (headerPass env s f).req.isUpgrade = false))

/-- The answer of a backend that the visit completes has no body. -/
def Bodiless (env : Environment) (r : Run) (target : Nat × Activity) : Prop :=
  target.2 = .fcgi → ∀ st i, http2StreamFind r.server target.1 = some st →
    env.fcgi target.1 = some i →
    answerBody (fcgiView st (r.server.rest.streams target.1)) i = []

/-- A step in which `http2_response_send_data` sends no body, and no initial window is too large. -/
def Run.Accounted (r : Run) : Run.Input → Prop
  | .frame f env =>
      (Routes env r.server f → ¬ env.route.IsError) ∧
        (f.type = 0x04 → f.flags &&& 0x01 = 0 →
          ∀ val ∈ initialWindows f.payload, val.toNat ≤ 2 ^ 31 - 1)
  | .flush env => GuardedRun (Bodiless env) (Run.visit env) r (activeStreams r.server)

/-! ## Frames send no DATA -/

section Frames

variable {env : Environment} {s : Server} {id : Nat} {f : Frame}

theorem sentLengthOn_le (e : Event) (id : Nat) : e.sentLengthOn id ≤ e.sentLength := by
  cases e with
  | router => exact Nat.le_refl 0
  | sent c =>
      show (if c.type = 0x00 ∧ c.streamId = id then c.payload.length else 0)
        ≤ if c.type = 0x00 then c.payload.length else 0
      split_ifs with h h'
      · exact Nat.le_refl _
      · exact absurd h.1 h'
      · exact Nat.zero_le _
      · exact Nat.le_refl 0

theorem sentLength_sendData_nil (state : HTTP2StreamState) :
    ∀ c ∈ (http2ResponseSendData id state [] true).1, (Event.sent c).sentLength = 0 := by
  intro c hc
  rw [List.mem_singleton.mp (show c ∈ [(⟨0x00, 0x01, id, []⟩ : FrameCall)] from hc)]
  rfl

theorem sentLength_router (h : (s.rest.streams id).req.isUpgrade = true ∨ ¬ env.route.IsError) :
    ∀ e ∈ (http2RouterBridge env s id).2, e.sentLength = 0 := by
  unfold http2RouterBridge
  dsimp only
  split
  · rw [List.forall_mem_cons, List.forall_mem_singleton]
    exact ⟨rfl, rfl⟩
  · next hplain =>
      have hroute := h.resolve_left hplain
      rw [List.forall_mem_cons]
      refine ⟨rfl, ?_⟩
      cases hr : env.route with
      | badGateway => exact absurd (Or.inl hr) hroute
      | notFound => exact absurd (Or.inr (Or.inl hr)) hroute
      | forbidden => exact absurd (Or.inr (Or.inr hr)) hroute
      | fcgi =>
          intro e he
          cases he
      | file fd size =>
          show ∀ e ∈ (startFile env s id fd size).2, e.sentLength = 0
          unfold startFile
          dsimp only
          split
          · rw [List.forall_mem_cons]
            refine ⟨rfl, fun e he => ?_⟩
            obtain ⟨c, hc, rfl⟩ := List.mem_map.mp he
            exact sentLength_sendData_nil .idle c hc
          · rw [List.forall_mem_singleton]
            rfl

theorem sentLength_windowUpdates (k n : Nat) : ∀ e ∈ windowUpdates k n, e.sentLength = 0 := by
  unfold windowUpdates
  rw [List.forall_mem_cons, List.forall_mem_singleton]
  exact ⟨rfl, rfl⟩

theorem sentLength_handleData (h0 : f.type = 0x00)
    (h : Routes env s f → ¬ env.route.IsError) :
    ∀ e ∈ (http2ParserHandleData env s f.head f.payloadBuf).2, e.sentLength = 0 := by
  by_cases hstores : Stores env s f
  · rw [handleData_stores hstores]
    split
    · next hend =>
        have hroute := h ⟨hend, Or.inl ⟨h0, hstores⟩⟩
        rw [handleStreamEnd_eq]
        intro e he
        rcases List.mem_append.mp he with hmem | hmem
        · exact sentLength_windowUpdates _ _ e hmem
        · exact sentLength_router (Or.inr hroute) e hmem
    · exact sentLength_windowUpdates _ _
  · intro e he
    exact sentLength_windowUpdates _ _ e ((handleData_drops hstores).2 e he)

theorem sentLength_handleHeaders (hsized : Sized s) (h1 : f.type = 0x01)
    (h : Routes env s f → ¬ env.route.IsError) :
    ∀ e ∈ (http2ParserHandleHeaders env s f.head f.payloadBuf).2, e.sentLength = 0 := by
  rcases handleHeaders_cases env s f.head f.payloadBuf with ⟨-, hh⟩ | ⟨hid, s', hcreate, hh⟩
  · rw [hh]
    intro e he
    cases he
  · obtain ⟨-, hreq, htable⟩ := getOrCreate_spec hsized hcreate
    obtain ⟨hvalid, hleft⟩ := parseHeaderFull_spec hreq htable
    have hstream : (lookupStream s f.streamId).isSome = true ∨ env.callocOk = true :=
      getOrCreate_isSome_iff.mp (Option.isSome_iff_exists.mpr ⟨s', hcreate⟩)
    rw [hh, Frame.payloadBuf_getD]
    show ∀ e ∈ (headersOn env s' f.streamId f.flags f.payload).2, e.sentLength = 0
    unfold headersOn
    dsimp only
    split
    · next hv =>
        have hv' := hvalid.mp hv
        split
        · next hallowed =>
            split
            · next hup => exact sentLength_router (Or.inl hup)
            · next hplain =>
                rw [hleft hv'.block, Bool.not_eq_true] at hplain
                split
                · next hend =>
                    have hroute := h ⟨hend, Or.inr ⟨h1, ⟨hid, hstream, hv', hallowed⟩, hplain⟩⟩
                    exact sentLength_router (Or.inr hroute)
                · intro e he
                  cases he
        · rw [List.forall_mem_singleton]
          rfl
    · intro e he
      cases he

theorem sentLength_handleFrame (hsized : Sized s) (h : Routes env s f → ¬ env.route.IsError) :
    ∀ e ∈ (handleFrame env s f).2, e.sentLength = 0 := by
  unfold handleFrame
  split_ifs with h0 h1
  · exact sentLength_handleData h0 h
  · exact sentLength_handleHeaders hsized h1 h
  · intro e he
    cases he
  · intro e he
    cases he
  · intro e he
    cases he
  · rw [List.forall_mem_singleton]
    rfl
  · intro e he
    cases he
  · intro e he
    cases he
  · intro e he
    cases he

end Frames

/-! ## The invariant -/

/-- The windows are what is left of the credit, modulo `2 ^ 32`, and the credit covers what has
been sent. -/
structure InCredit (g : Ledger Int) (r : Run) : Prop where
  sized : Sized r.server
  windows : windows r.server = (g.spend r.sent (fun id => r.sentOn id)).map Int32.ofInt
  covers : g.Covers (2 ^ 31 - 1) r.sent (fun id => r.sentOn id)

section Invariant

variable {g : Ledger Int} {r : Run} {env : Environment}

theorem Run.sent_extend (s s' : Server) (t : List Traced) (es : List Event) :
    Run.sent ⟨s', t ++ es.map .did⟩ = Run.sent ⟨s, t⟩ + (es.map Event.sentLength).sum := by
  unfold Run.sent
  rw [List.map_append, List.sum_append, List.map_map]
  rfl

theorem Run.sentOn_extend (s s' : Server) (t : List Traced) (es : List Event) (id : Nat) :
    Run.sentOn ⟨s', t ++ es.map .did⟩ id
      = Run.sentOn ⟨s, t⟩ id + (es.map (Event.sentLengthOn id)).sum := by
  unfold Run.sentOn
  rw [List.map_append, List.sum_append, List.map_map]
  rfl

/-- Events without DATA change no sum. -/
theorem Run.sent_quiet (s s' : Server) (t : List Traced) {es : List Event}
    (h : ∀ e ∈ es, e.sentLength = 0) :
    Run.sent ⟨s', t ++ es.map .did⟩ = Run.sent ⟨s, t⟩
      ∧ ∀ id, Run.sentOn ⟨s', t ++ es.map .did⟩ id = Run.sentOn ⟨s, t⟩ id := by
  have hall : (es.map Event.sentLength).sum = 0 := by
    apply List.sum_eq_zero
    intro n hn
    obtain ⟨e, he, rfl⟩ := List.mem_map.mp hn
    exact h e he
  have hone : ∀ id, (es.map (Event.sentLengthOn id)).sum = 0 := by
    intro id
    apply List.sum_eq_zero
    intro n hn
    obtain ⟨e, he, rfl⟩ := List.mem_map.mp hn
    have hle := sentLengthOn_le e id
    rw [h e he] at hle
    exact Nat.le_zero.mp hle
  constructor
  · rw [Run.sent_extend s, hall, Nat.add_zero]
  · intro id
    rw [Run.sentOn_extend s, hone, Nat.add_zero]

theorem toInt_ofInt_le {x : Int} (h : -2 ^ 31 ≤ x) : (Int32.ofInt x).toInt ≤ x := by
  by_cases hx : x ≤ 2 ^ 31 - 1
  · exact Int.le_of_eq (Int32.toInt_ofInt_of_le h (by omega))
  · have hlt := Int32.toInt_lt (Int32.ofInt x)
    omega

/-- The operations of a frame stay within bounds. -/
theorem ledgerOps_within (env : Environment) {f : Frame}
    (hsettings : f.type = 0x04 → f.flags &&& 0x01 = 0 →
      ∀ val ∈ initialWindows f.payload, val.toNat ≤ 2 ^ 31 - 1) :
    ∀ op ∈ f.ledgerOps env, op.Within (2 ^ 31 - 1) := by
  intro op hop
  refine ⟨ledgerOps_grant f env op hop, ?_⟩
  rintro v rfl
  unfold Frame.ledgerOps at hop
  split_ifs at hop with h1 hopen h4 hack h8 hzero
  · cases List.mem_singleton.mp hop
  · cases hop
  · obtain ⟨val, hval, heq⟩ := List.mem_map.mp hop
    have hle := hsettings h4 hack val hval
    cases heq
    omega
  · cases hop
  · cases List.mem_singleton.mp hop
  · cases List.mem_singleton.mp hop
  · cases hop

/-- **Frames** move the windows and the credit alike. -/
theorem InCredit.frame (h : InCredit g r) {f : Frame}
    (hroute : Routes env r.server f → ¬ env.route.IsError)
    (hsettings : f.type = 0x04 → f.flags &&& 0x01 = 0 →
      ∀ val ∈ initialWindows f.payload, val.toNat ≤ 2 ^ 31 - 1) :
    InCredit (g.applyAll id (f.ledgerOps env)) (r.step (.frame f env))
      ∧ ∀ k, (r.step (.frame f env)).sentOn k = r.sentOn k := by
  obtain ⟨hsized, hwindows, hcovers⟩ := h
  obtain ⟨hcovers', hspend⟩ := hcovers.applyAll (ledgerOps_within env hsettings)
  obtain ⟨hsent, hsentOn⟩ : (r.step (.frame f env)).sent = r.sent
      ∧ ∀ k, (r.step (.frame f env)).sentOn k = r.sentOn k := by
    obtain ⟨hsent, hsentOn⟩ := Run.sent_quiet r.server (handleFrame env r.server f).1
      (r.trace ++ [.received f]) (sentLength_handleFrame hsized hroute)
    rw [Run.step_frame, List.append_cons]
    constructor
    · rw [hsent]
      unfold Run.sent
      rw [List.map_append, List.sum_append]
      rfl
    · intro k
      rw [hsentOn]
      unfold Run.sentOn
      rw [List.map_append, List.sum_append]
      rfl
  have hframe : (r.step (.frame f env)).server = (handleFrame env r.server f).1 := by
    rw [Run.step_frame]
  refine ⟨⟨?_, ?_, ?_⟩, hsentOn⟩
  · rw [hframe]
    exact sized_handleFrame hsized
  · rw [hframe, windows_handleFrame hsized, hwindows, hsent]
    simp only [hsentOn]
    rw [← hspend, Ledger.applyAll_map Int32.ofInt_add Int32.ofInt_sub]
  · rw [hsent]
    simp only [hsentOn]
    exact hcovers'

/-- A visit without DATA that leaves the windows alone. -/
theorem InCredit.visit_quiet (h : InCredit g r) (target : Nat × Activity)
    (hsized : Sized (flushStream env r.server target.1 target.2).1)
    (hwindows : Http2.windows (flushStream env r.server target.1 target.2).1
      = Http2.windows r.server)
    (hevents : ∀ e ∈ (flushStream env r.server target.1 target.2).2, e.sentLength = 0) :
    InCredit g (r.visit env target) ∧ ∀ k, (r.visit env target).sentOn k = r.sentOn k := by
  obtain ⟨hsent, hsentOn⟩ := Run.sent_quiet r.server
    (flushStream env r.server target.1 target.2).1 r.trace hevents
  refine ⟨⟨hsized, ?_, ?_⟩, hsentOn⟩
  · show Http2.windows (flushStream env r.server target.1 target.2).1
      = (g.spend (Run.sent ⟨_, _⟩) (fun id => Run.sentOn ⟨_, _⟩ id)).map Int32.ofInt
    rw [hwindows, h.windows]
    simp only [hsent, hsentOn]
  · show g.Covers _ (Run.sent ⟨_, _⟩) (fun id => Run.sentOn ⟨_, _⟩ id)
    simp only [hsent, hsentOn]
    exact h.covers

/-- A piece of a file fits what is left of the credit for the session and for the stream. -/
theorem FilePiece.fits {id : Nat} {st : HTTP2Stream} {data : List UInt8} (h : InCredit g r)
    (hpiece : FilePiece env r.server id st data) :
    ∃ w, g.streams id = some w ∧ (r.sent + data.length : Int) ≤ g.session
      ∧ (r.sentOn id + data.length : Int) ≤ w := by
  obtain ⟨hsession, hnonneg, hle, hstreams, -⟩ := h.covers
  have hwin : r.server.outWindowSize = Int32.ofInt (g.session - r.sent) :=
    congrArg Ledger.session h.windows
  have hstream : some st.outWindowSize
      = (g.streams id).map (fun w => Int32.ofInt (w - r.sentOn id)) := by
    have hid := congrArg (fun l => l.streams id) h.windows
    simp only [windows, hpiece.lookup, Option.map_some, Ledger.map, Ledger.spend,
      Option.map_map] at hid
    exact hid
  cases hopen : g.streams id with
  | none =>
      rw [hopen] at hstream
      cases hstream
  | some w =>
      rw [hopen, Option.map_some, Option.some.injEq] at hstream
      have hdebt := hstreams id w hopen
      have hroom := toInt_ofInt_le (x := g.session - r.sent) (by omega)
      have hroom' := toInt_ofInt_le (x := w - r.sentOn id) (by omega)
      rw [← hwin] at hroom
      rw [← hstream] at hroom'
      have hpos : 0 < r.server.outWindowSize.toInt := by
        have := Int32.lt_iff_toInt_lt.mp hpiece.session_pos
        simpa using this
      have hpos' : 0 < st.outWindowSize.toInt := by
        have := Int32.lt_iff_toInt_lt.mp hpiece.stream_pos
        simpa using this
      have hlen : data.length ≤ maxAllowed r.server.outWindowSize st.outWindowSize
          ((r.server.rest.streams id).fileSize - (r.server.rest.streams id).fileOffset) := by
        rw [hpiece.read]
        exact List.length_take_le _ _
      unfold maxAllowed at hlen
      refine ⟨w, rfl, ?_, ?_⟩
      · omega
      · omega

/-- A piece of a file keeps within the credit it has been found to fit. -/
theorem InCredit.visit_piece (h : InCredit g r) {id : Nat} {st : HTTP2Stream} {data : List UInt8}
    (hpiece : FilePiece env r.server id st data)
    (hsend : flushFileStream env r.server id
      = (if (r.server.rest.streams id).fileSize
            ≤ (r.server.rest.streams id).fileOffset + data.length then
          closeFile (advance r.server id data.length) id else advance r.server id data.length,
        [.sent ⟨0x00,
          if (r.server.rest.streams id).fileSize
              ≤ (r.server.rest.streams id).fileOffset + data.length then
            0x01 else 0x00, id, data⟩])) :
    InCredit g (r.visit env (id, .file)) ∧ ∀ k, (r.visit env (id, .file)).sentOn k = r.sentOn k ∨
      ∃ w, g.streams k = some w ∧ ((r.visit env (id, .file)).sentOn k : Int) ≤ w := by
  have hvisit : r.visit env (id, .file) = r.extend (flushFileStream env r.server id) := rfl
  obtain ⟨w, hopen, hsession, hstream⟩ := FilePiece.fits h hpiece
  have hsent : (r.visit env (id, .file)).sent = r.sent + data.length := by
    rw [hvisit, hsend]
    exact Run.sent_extend r.server _ r.trace _
  have hsentOn : ∀ k, ((r.visit env (id, .file)).sentOn k : Int)
      = Ledger.sentMore (fun k => (r.sentOn k : Int)) id data.length k := by
    intro k
    rw [hvisit, hsend]
    show (Run.sentOn ⟨_, r.trace ++ _⟩ k : Int) = _
    rw [Run.sentOn_extend r.server]
    unfold Ledger.sentMore
    by_cases hk : k = id
    · rw [if_pos hk, hk]
      show ((r.sentOn id + ((if (0x00 : UInt8) = 0x00 ∧ id = id then data.length else 0) + 0)
        : Nat) : Int) = _
      rw [if_pos ⟨rfl, rfl⟩]
      push_cast
      omega
    · rw [if_neg hk]
      show ((r.sentOn k + ((if (0x00 : UInt8) = 0x00 ∧ id = k then data.length else 0) + 0)
        : Nat) : Int) = _
      rw [if_neg (fun h => hk h.2.symm)]
      rfl
  -- the last piece closes the file, which leaves the windows as they are
  have hserver : Sized (r.visit env (id, .file)).server
      ∧ Http2.windows (r.visit env (id, .file)).server
        = Http2.windows (advance r.server id data.length) := by
    have hadvance : Sized (advance r.server id data.length) :=
      sized_advance h.sized data.length
    have hinside : Inside id (advance r.server id data.length)
        (closeFile (advance r.server id data.length) id) := inside_closeFile
    rw [hvisit, hsend]
    show Sized (if _ then _ else _) ∧ Http2.windows (if _ then _ else _) = _
    split
    · exact ⟨hinside.sized hadvance, hinside.windows⟩
    · exact ⟨hadvance, rfl⟩
  have hcovers := h.covers.debit hopen hsession hstream
  have hmore : (fun k => ((r.visit env (id, .file)).sentOn k : Int))
      = Ledger.sentMore (fun k => (r.sentOn k : Int)) id data.length := funext hsentOn
  refine ⟨⟨hserver.1, ?_, ?_⟩, ?_⟩
  -- both windows have lost what both counts have gained
  · rw [hserver.2, windows_advance, h.windows, hsent, hmore, ← Ledger.apply_map
      Int32.ofInt_add Int32.ofInt_sub, Ledger.spend_debit]
    rfl
  · rw [hsent, hmore]
    exact hcovers
  · intro k
    by_cases hk : k = id
    -- the stream of the file
    · refine Or.inr ⟨w, by rw [hk]; exact hopen, ?_⟩
      rw [hsentOn, hk]
      unfold Ledger.sentMore
      rw [if_pos rfl]
      exact hstream
    · left
      have hkeep : ((r.visit env (id, .file)).sentOn k : Int) = r.sentOn k :=
        (hsentOn k).trans (if_neg hk)
      exact_mod_cast hkeep

/-- **A visit** keeps within the credit, and what it sends on a stream is within that of the
stream. -/
theorem InCredit.visit (h : InCredit g r) {target : Nat × Activity}
    (hbody : Bodiless env r target) :
    InCredit g (r.visit env target) ∧ ∀ k, (r.visit env target).sentOn k = r.sentOn k ∨
      ∃ w, g.streams k = some w ∧ ((r.visit env target).sentOn k : Int) ≤ w := by
  obtain ⟨id, act⟩ := target
  cases act with
  | fcgi =>
      have hinside : Inside id r.server (flushFcgiStream env r.server id).1 := inside_flushFcgiStream
      have hevents : ∀ e ∈ (flushFcgiStream env r.server id).2, e.sentLength = 0 := by
        intro e he
        obtain ⟨st, i, hfind, hstep, ⟨raw, rfl⟩ | ⟨c, hc, rfl⟩⟩ :=
          flushFcgiStream_events env r.server id e he
        · rfl
        · rw [hbody rfl st i hfind hstep] at hc
          exact sentLength_sendData_nil st.state c hc
      obtain ⟨hinv, hsame⟩ := h.visit_quiet (id, .fcgi)
        (hinside.sized h.sized) hinside.windows hevents
      exact ⟨hinv, fun k => Or.inl (hsame k)⟩
  | file =>
      rcases flushFileStream_cases env r.server id with hnop | ⟨st, data, hpiece, ⟨-, hclose⟩ |
        ⟨hne, hsend⟩⟩
      -- there is nothing to send, or no window to send it in
      · have heq : flushStream env r.server id .file = (r.server, []) := hnop
        obtain ⟨hinv, hsame⟩ := h.visit_quiet (id, .file) (by rw [heq]; exact h.sized)
          (by rw [heq]) (by rw [heq]; exact fun e he => nomatch he)
        exact ⟨hinv, fun k => Or.inl (hsame k)⟩
      -- the file cannot be read
      · have heq : flushStream env r.server id .file = (closeFile r.server id, []) := hclose
        have hinside : Inside id r.server (closeFile r.server id) := inside_closeFile
        obtain ⟨hinv, hsame⟩ := h.visit_quiet (id, .file)
          (by rw [heq]; exact hinside.sized h.sized) (by rw [heq]; exact hinside.windows)
          (by rw [heq]; exact fun e he => nomatch he)
        exact ⟨hinv, fun k => Or.inl (hsame k)⟩
      · exact h.visit_piece hpiece hsend

end Invariant

/-! ## Runs -/

theorem inCredit_fresh (streams : Nat → StreamRest) :
    InCredit (granted []) (Run.fresh streams) := by
  refine ⟨sized_fresh _, ?_, ?_⟩
  · show windows (.fresh ⟨.empty, streams⟩) = _
    rw [windows_fresh]
    rfl
  · refine ⟨show (0 : Int) ≤ 65535 by decide, show (0 : Int) ≤ 65535 by decide,
      show (65535 : Int) ≤ 2 ^ 31 - 1 by decide, ?_, ?_⟩
    · intro id w hw
      cases hw
    · intro id _
      rfl

theorem granted_append (is : List Run.Input) (i : Run.Input) :
    granted (is ++ [i]) = (granted is).applyAll id i.ledgerOps := by
  unfold granted
  rw [List.flatMap_append, Ledger.applyAll_append, List.flatMap_singleton]

/-- A step within bounds keeps within the credit, and so does what it sends on each stream. -/
theorem InCredit.step {g : Ledger Int} {r : Run} (h : InCredit g r) {i : Run.Input}
    (hguard : r.Accounted i) :
    InCredit (g.applyAll id i.ledgerOps) (r.step i)
      ∧ ∀ k, (r.step i).sentOn k = r.sentOn k ∨
        ∃ w, (g.applyAll id i.ledgerOps).streams k = some w ∧ ((r.step i).sentOn k : Int) ≤ w := by
  cases i with
  | frame f env =>
      obtain ⟨hinv, hsame⟩ := h.frame hguard.1 hguard.2
      exact ⟨hinv, fun k => Or.inl (hsame k)⟩
  | flush env =>
      have hvisits : ∀ (r' : Run) (target : Nat × Activity),
          (InCredit g r' ∧ ∀ k, r'.sentOn k = r.sentOn k ∨
            ∃ w, g.streams k = some w ∧ (r'.sentOn k : Int) ≤ w) →
          Bodiless env r' target →
          InCredit g (r'.visit env target) ∧ ∀ k, (r'.visit env target).sentOn k = r.sentOn k ∨
            ∃ w, g.streams k = some w ∧ ((r'.visit env target).sentOn k : Int) ≤ w := by
        rintro r' target ⟨hinv, hsent⟩ hbody
        obtain ⟨hinv', hsent'⟩ := hinv.visit hbody
        refine ⟨hinv', fun k => ?_⟩
        rcases hsent' k with hsame | hwithin
        · rw [hsame]
          exact hsent k
        · exact Or.inr hwithin
      exact GuardedRun.invariant hvisits ⟨h, fun k => Or.inl rfl⟩ hguard

theorem inCredit_run (streams : Nat → StreamRest) (is : List Run.Input)
    (h : GuardedRun Run.Accounted Run.step (Run.fresh streams) is) :
    InCredit (granted is) (runSteps Run.step (Run.fresh streams) is) := by
  induction is using List.reverseRecOn with
  | nil => exact inCredit_fresh streams
  | append_singleton is i ih =>
      obtain ⟨hrun, hlast, -⟩ := guardedRun_append.mp h
      rw [runSteps_append, granted_append]
      exact ((ih hrun).step hlast).1

/-- HEADERS that ask for a file. -/
def getHeaders : Frame := ⟨0x01, 0x05, 1, [0x82, 0x84], Frame.length_getRoot, Frame.streamId_one⟩

/-- An environment with a file of five bytes. -/
def fileEnvironment : Environment :=
  { Environment.plain with route := .file 3 5, pread := fun _ => [1, 2, 3, 4, 5] }

theorem accounted_file :
    GuardedRun Run.Accounted Run.step (Run.fresh (fun _ => .new .plain))
      [.frame getHeaders fileEnvironment, .flush fileEnvironment] := by
  refine ⟨⟨?_, ?_⟩, ?_, trivial⟩
  · rintro - (h | h | h)
    · cases h
    · cases h
    · cases h
  · intro h
    cases h
  · show GuardedRun (Bodiless fileEnvironment) _ _ [(1, Activity.file)]
    refine ⟨?_, trivial⟩
    intro h
    cases h

/-- The peer sets its initial window to 0. -/
def noWindow : Run.Input :=
  .frame ⟨0x04, 0x00, 0, [0x00, 0x04, 0x00, 0x00, 0x00, 0x00], by decide, by decide⟩ .plain

end Halmos.Http2
