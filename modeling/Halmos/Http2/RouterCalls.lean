import Halmos.Basic.Runs
import Halmos.Http2.Steps

set_option autoImplicit false

/-! # Calls of the router

Which frames call the router for a stream: a DATA frame that is stored and carries END_STREAM
(`calls_data`), and a HEADERS frame that is accepted and carries END_STREAM or asks for a WebSocket
(`calls_headers`). Frames of other streams and passes of the pump change neither the request of the
stream nor its body (`calm_offStream`).
-/

namespace Halmos.Http2

/-! ## Frames elsewhere -/

/-- An input without a HEADERS or DATA frame of the stream. -/
def Run.Input.OffStream (id : Nat) : Run.Input → Prop
  | .frame f _ => f.streamId = id → f.type ≠ 0x00 ∧ f.type ≠ 0x01
  | .flush _ => True

/-- A DATA frame of the stream without END_STREAM. -/
def Run.Input.MoreData (id : Nat) : Run.Input → Prop
  | .frame f _ => f.streamId = id ∧ f.type = 0x00 ∧ f.flags &&& 0x01 = 0
  | .flush _ => False

/-- A call of the router for the stream. -/
def Event.isCall (id : Nat) : Event → Bool
  | .router k _ _ => k = id
  | .sent _ => false

def Traced.isCall (id : Nat) : Traced → Bool
  | .received _ => false
  | .did e => e.isCall id

/-- END_STREAM on the stream. -/
def Traced.isEnd (id : Nat) : Traced → Bool
  | .received f =>
      f.streamId = id ∧ (f.type = 0x00 ∨ f.type = 0x01) ∧ f.flags &&& 0x01 ≠ 0
  | .did _ => false

/-- The calls of the router for the stream so far. -/
def Run.calls (id : Nat) (r : Run) : Nat := r.trace.countP (Traced.isCall id)

/-- The frames with END_STREAM on the stream so far. -/
def Run.ends (id : Nat) (r : Run) : Nat := r.trace.countP (Traced.isEnd id)

/-- Nothing has happened to the request of the stream. -/
structure Calm (id : Nat) (r r' : Run) : Prop where
  sized : Sized r.server → Sized r'.server
  known : (lookupStream r'.server id).isSome = (lookupStream r.server id).isSome
  req : (r'.server.rest.streams id).req = (r.server.rest.streams id).req
  calls : r'.calls id = r.calls id
  ends : r'.ends id = r.ends id

section Calm

variable {r r' r'' : Run} {id : Nat} {env : Environment}

theorem Calm.refl : Calm id r r := ⟨fun h => h, rfl, rfl, rfl, rfl⟩

theorem Calm.trans (h : Calm id r r') (h' : Calm id r' r'') : Calm id r r'' :=
  ⟨fun hs => h'.sized (h.sized hs), h'.known.trans h.known, h'.req.trans h.req,
    h'.calls.trans h.calls, h'.ends.trans h.ends⟩

theorem not_isCall_answer {k : Nat} {e : Event} (h : Answer k e) : e.isCall id = false := by
  obtain ⟨c, rfl, -⟩ := h
  rfl

theorem Run.calls_extend (s s' : Server) (t : List Traced) (es : List Event) :
    Run.calls id ⟨s', t ++ es.map .did⟩
      = Run.calls id ⟨s, t⟩ + es.countP (Event.isCall id) := by
  unfold Run.calls
  rw [List.countP_append, List.countP_map]
  rfl

theorem Run.ends_extend (s s' : Server) (t : List Traced) (es : List Event) :
    Run.ends id ⟨s', t ++ es.map .did⟩ = Run.ends id ⟨s, t⟩ := by
  unfold Run.ends
  rw [List.countP_append, List.countP_map]
  have hnone : es.countP (Traced.isEnd id ∘ Traced.did) = 0 := by
    rw [List.countP_eq_zero]
    intro e _
    exact Bool.false_ne_true
  rw [hnone, Nat.add_zero]

theorem Run.calls_frame (r : Run) (f : Frame) (env : Environment) :
    (r.step (.frame f env)).calls id
      = r.calls id + (handleFrame env r.server f).2.countP (Event.isCall id) := by
  rw [Run.step_frame, List.append_cons, Run.calls_extend r.server]
  congr 1
  show (r.trace ++ [Traced.received f]).countP _ = _
  rw [List.countP_append]
  rfl

theorem Run.ends_frame (r : Run) (f : Frame) (env : Environment) :
    (r.step (.frame f env)).ends id
      = r.ends id + if Traced.isEnd id (.received f) then 1 else 0 := by
  rw [Run.step_frame, List.append_cons, Run.ends_extend r.server]
  show (r.trace ++ [Traced.received f]).countP _ = _
  rw [List.countP_append, List.countP_singleton]
  rfl

/-- The calls of the router that a frame makes are for its own stream. -/
theorem isCall_handleFrame {f : Frame} {s : Server}
    (hother : f.streamId = id → f.type ≠ 0x00 ∧ f.type ≠ 0x01) :
    (handleFrame env s f).2.countP (Event.isCall id) = 0 := by
  have hcredit : ∀ n, ∀ e ∈ windowUpdates f.streamId n, e.isCall id = false := by
    intro n e he
    rcases List.mem_cons.mp he with rfl | he
    · rfl
    · rw [List.mem_singleton.mp he]
      rfl
  have hcall : f.streamId ≠ id → ∀ body len, (Event.router f.streamId body len).isCall id = false :=
    fun hne body len => decide_eq_false hne
  rw [List.countP_eq_zero]
  intro e he
  rw [Bool.not_eq_true]
  unfold handleFrame at he
  split_ifs at he with h0 h1
  · -- DATA
    have hne : f.streamId ≠ id := fun h => (hother h).1 h0
    by_cases hignored : f.payload = [] ∨ http2StreamFind s f.streamId = none
    · rw [handleData_ignored hignored] at he
      cases he
    · push Not at hignored
      rw [handleData_known hignored.1 (Option.isSome_iff_ne_none.mpr hignored.2)] at he
      split_ifs at he
      · unfold handleWebsocketDataPayload at he
        split_ifs at he
        · cases he
        · cases he
        · exact hcredit _ e he
      · cases he
      · rcases List.mem_append.mp he with he | he
        · exact hcredit _ e he
        · obtain ⟨-, -, answers, hevents, hanswer⟩ :=
            handleStreamEnd_spec env (appendStreamBody s f.streamId f.payload) f.streamId
          rw [hevents] at he
          rcases List.mem_cons.mp he with rfl | he
          · exact hcall hne _ _
          · exact not_isCall_answer (hanswer e he)
      · exact hcredit _ e he
  · -- HEADERS
    have hne : f.streamId ≠ id := fun h => (hother h).2 h1
    rcases handleHeaders_cases env s f.head f.payloadBuf with ⟨-, h⟩ | ⟨-, s', -, h⟩
    · rw [h] at he
      cases he
    · rw [h] at he
      rcases headersOn_events f.head.flags (f.payloadBuf.getD []) e he with
        ⟨body, len, rfl⟩ | he | rfl
      · exact hcall hne _ _
      · exact not_isCall_answer he
      · rfl
  · cases he
  · cases he
  · cases he
  · rw [List.mem_singleton.mp he]
    rfl
  · cases he
  · cases he
  · cases he

/-- A frame elsewhere leaves the request alone; RST_STREAM on the stream itself does too. -/
theorem request_handleFrame (env : Environment) {f : Frame} {s : Server} (hsized : Sized s)
    (hother : f.streamId = id → f.type ≠ 0x00 ∧ f.type ≠ 0x01) :
    (lookupStream (handleFrame env s f).1 id).isSome = (lookupStream s id).isSome
      ∧ requestOf (handleFrame env s f).1 id = requestOf s id := by
  by_cases hreset : f.streamId = id ∧ f.type = 0x03
  · obtain ⟨rfl, h3⟩ := hreset
    have hstep : handleFrame env s f = (handleRstStream s f.streamId, []) := by
      unfold handleFrame
      rw [if_neg (hother rfl).1, if_neg (hother rfl).2, if_pos h3]
    rw [hstep]
    exact ⟨isSome_of_windows windows_handleRstStream f.streamId, rfl⟩
  · have huntouched : Untouched id s (handleFrame env s f).1 := by
      apply untouched_handleFrame hsized
      intro hid
      exact ⟨(hother hid).1, (hother hid).2, fun h3 => hreset ⟨hid, h3⟩⟩
    refine ⟨huntouched.isSome, ?_⟩
    unfold requestOf
    rw [huntouched.rest]

theorem request_advance (s : Server) (id k n : Nat) :
    (Sized s → Sized (advance s k n))
      ∧ (lookupStream (advance s k n) id).isSome = (lookupStream s id).isSome
      ∧ requestOf (advance s k n) id = requestOf s id := by
  refine ⟨fun hs => sized_advance hs n, ?_, ?_⟩
  · rw [lookup_advance]
    split
    · next hid => rw [hid, Option.isSome_map]
    · rfl
  · by_cases hk : id = k
    · rw [hk]
      exact requestOf_advance n
    · unfold requestOf
      rw [(untouched_advance n hk).rest]

/-- A visit of the pump leaves every request alone. -/
theorem request_flushStream (env : Environment) (s : Server) (id k : Nat) (a : Activity) :
    (Sized s → Sized (flushStream env s k a).1)
      ∧ (lookupStream (flushStream env s k a).1 id).isSome = (lookupStream s id).isSome
      ∧ requestOf (flushStream env s k a).1 id = requestOf s id
      ∧ ∀ e ∈ (flushStream env s k a).2, Answer k e := by
  refine ⟨fun h => sized_flushStream h a, ?_⟩
  by_cases hk : id = k
  · rw [hk]
    cases a with
    | fcgi =>
        have hinside : Inside k s (flushFcgiStream env s k).1 := inside_flushFcgiStream
        exact ⟨isSome_of_windows hinside.windows k, requestOf_flushFcgiStream,
          answer_flushStream .fcgi⟩
    | file =>
        have hclose : ∀ s, (lookupStream (closeFile s k) k).isSome = (lookupStream s k).isSome
            ∧ requestOf (closeFile s k) k = requestOf s k := by
          intro s
          have hinside : Inside k s (closeFile s k) := inside_closeFile
          exact ⟨isSome_of_windows hinside.windows k, requestOf_setStream _ k⟩
        have hkept : (lookupStream (flushFileStream env s k).1 k).isSome = (lookupStream s k).isSome
            ∧ requestOf (flushFileStream env s k).1 k = requestOf s k := by
          rcases flushFileStream_cases env s k with h | ⟨st, data, -, ⟨-, h⟩ | ⟨-, h⟩⟩
          · rw [h]
            exact ⟨rfl, rfl⟩
          · rw [h]
            exact hclose s
          · obtain ⟨-, hknown, hreq⟩ := request_advance s k k data.length
            rw [h]
            dsimp only
            split
            · exact ⟨(hclose _).1.trans hknown, (hclose _).2.trans hreq⟩
            · exact ⟨hknown, hreq⟩
        exact ⟨hkept.1, hkept.2, answer_flushStream .file⟩
  · have huntouched : Untouched id s (flushStream env s k a).1 := untouched_flushStream a hk
    refine ⟨huntouched.isSome, ?_, answer_flushStream a⟩
    unfold requestOf
    rw [huntouched.rest]

theorem calm_visit (r : Run) (target : Nat × Activity) : Calm id r (r.visit env target) := by
  obtain ⟨hsized, hknown, hreq, hanswer⟩ :=
    request_flushStream env r.server id target.1 target.2
  refine ⟨hsized, hknown, congrArg Prod.fst hreq, ?_, Run.ends_extend _ _ _ _⟩
  show Run.calls id ⟨_, _ ++ _⟩ = _
  rw [Run.calls_extend r.server]
  have hnone : (flushStream env r.server target.1 target.2).2.countP (Event.isCall id) = 0 := by
    rw [List.countP_eq_zero]
    intro e he
    rw [not_isCall_answer (hanswer e he)]
    exact Bool.false_ne_true
  rw [hnone]
  rfl

/-- **What happens elsewhere** leaves a request alone. -/
theorem calm_offStream {r : Run} {i : Run.Input} (hsized : Sized r.server) (h : i.OffStream id) :
    Calm id r (r.step i) := by
  cases i with
  | flush env => exact Run.flush_induction Calm.refl (fun target _ r' h => h.trans (calm_visit r' target))
  | frame f env =>
      have hframe : (r.step (.frame f env)).server = (handleFrame env r.server f).1 := by
        rw [Run.step_frame]
      obtain ⟨hknown, hreq⟩ := request_handleFrame env hsized h
      have hend : Traced.isEnd id (.received f) = false := by
        apply decide_eq_false
        rintro ⟨hid, htype, -⟩
        obtain ⟨h0, h1⟩ := h hid
        rcases htype with h' | h'
        · exact h0 h'
        · exact h1 h'
      constructor
      · intro hs
        rw [hframe]
        exact sized_handleFrame hs
      · rw [hframe]
        exact hknown
      · rw [hframe]
        exact congrArg Prod.fst hreq
      · rw [Run.calls_frame, isCall_handleFrame h]
        rfl
      · rw [Run.ends_frame, hend]
        rfl

theorem body_offStream {r : Run} {i : Run.Input} (hsized : Sized r.server) (h : i.OffStream id) :
    ((r.step i).server.rest.streams id).bodyData = (r.server.rest.streams id).bodyData := by
  cases i with
  | flush env =>
      apply Run.flush_induction (P := fun r' =>
        (r'.server.rest.streams id).bodyData = (r.server.rest.streams id).bodyData) rfl
      intro target _ r' h
      obtain ⟨-, -, hreq, -⟩ :=
        request_flushStream env r'.server id target.1 target.2
      exact (congrArg Prod.snd hreq).trans h
  | frame f env =>
      rw [Run.step_frame]
      exact congrArg Prod.snd (request_handleFrame env hsized h).2

theorem sized_step {r : Run} (hsized : Sized r.server) (i : Run.Input) :
    Sized (r.step i).server := by
  cases i with
  | flush env =>
      apply Run.flush_induction (P := fun r' => Sized r'.server) hsized
      intro target _ r' h
      exact (request_flushStream env r'.server 0 target.1 target.2).1 h
  | frame f env =>
      rw [Run.step_frame]
      exact sized_handleFrame hsized

theorem sized_run {r : Run} (hsized : Sized r.server) (is : List Run.Input) :
    Sized (runSteps Run.step r is).server := by
  induction is generalizing r with
  | nil => exact hsized
  | cons i is ih => exact ih (sized_step hsized i)

end Calm

/-! ## The frames of a stream -/

section OnStream

variable {r : Run} {env : Environment} {s : Server} {f : Frame}

theorem handleFrame_data (h0 : f.type = 0x00) :
    handleFrame env s f = http2ParserHandleData env s f.head f.payloadBuf := if_pos h0

theorem handleFrame_headers (h1 : f.type = 0x01) :
    handleFrame env s f = http2ParserHandleHeaders env s f.head f.payloadBuf := by
  unfold handleFrame
  rw [if_neg (by rw [h1]; decide), if_pos h1]

theorem find_isSome_iff : (http2StreamFind s f.streamId).isSome = true
    ↔ f.streamId ≠ 0 ∧ (lookupStream s f.streamId).isSome = true := by
  unfold http2StreamFind
  by_cases hid : f.streamId = 0
  · rw [if_pos hid]
    exact ⟨fun h => (nomatch h), fun h => absurd hid h.1⟩
  · rw [if_neg hid]
    exact ⟨fun h => ⟨hid, h⟩, fun h => h.2⟩

/-- A DATA frame that is stored: the stream is known and ordinary, and there is something to
store and memory for it. -/
def Stores (env : Environment) (s : Server) (f : Frame) : Prop :=
  f.payload ≠ [] ∧ (http2StreamFind s f.streamId).isSome = true ∧
    (s.rest.streams f.streamId).req.isUpgrade = false ∧ env.reallocOk = true

theorem handleData_stores (h : Stores env s f) :
    http2ParserHandleData env s f.head f.payloadBuf
      = if f.flags &&& 0x01 ≠ 0 then
          ((handleStreamEnd env (appendStreamBody s f.streamId f.payload) f.streamId).1,
            windowUpdates f.streamId f.payload.length
              ++ (handleStreamEnd env (appendStreamBody s f.streamId f.payload) f.streamId).2)
        else
          (appendStreamBody s f.streamId f.payload,
            windowUpdates f.streamId f.payload.length) := by
  obtain ⟨hne, hknown, hplain, hrealloc⟩ := h
  rw [handleData_known hne hknown, if_neg (by rw [hplain]; decide),
    if_neg (by rw [hrealloc]; decide)]

/-- Any other DATA frame changes nothing, and sends at most WINDOW_UPDATE frames. -/
theorem handleData_drops (h : ¬ Stores env s f) :
    (http2ParserHandleData env s f.head f.payloadBuf).1 = s ∧
      ∀ e ∈ (http2ParserHandleData env s f.head f.payloadBuf).2,
        e ∈ windowUpdates f.streamId f.payload.length := by
  by_cases hignored : f.payload = [] ∨ http2StreamFind s f.streamId = none
  · rw [handleData_ignored hignored]
    exact ⟨rfl, fun e he => nomatch he⟩
  · push Not at hignored
    have hknown := Option.isSome_iff_ne_none.mpr hignored.2
    rw [handleData_known hignored.1 hknown]
    by_cases hup : (s.rest.streams f.streamId).req.isUpgrade = true
    · rw [if_pos hup]
      refine ⟨rfl, fun e he => ?_⟩
      unfold handleWebsocketDataPayload at he
      split_ifs at he
      · cases he
      · cases he
      · exact he
    · have hrealloc : env.reallocOk = false := by
        rw [← Bool.not_eq_true]
        intro hok
        exact h ⟨hignored.1, hknown, by simpa using hup, hok⟩
      rw [if_neg hup, if_pos hrealloc]
      exact ⟨rfl, fun e he => nomatch he⟩

theorem isCall_windowUpdates (id k n : Nat) :
    (windowUpdates k n).countP (Event.isCall id) = 0 := rfl

theorem isCall_dropped {es : List Event} {id k n : Nat} (h : ∀ e ∈ es, e ∈ windowUpdates k n) :
    es.countP (Event.isCall id) = 0 := by
  rw [List.countP_eq_zero] at *
  intro e he
  rcases List.mem_cons.mp (h e he) with rfl | hmem
  · exact Bool.false_ne_true
  · rw [List.mem_singleton.mp hmem]
    exact Bool.false_ne_true

/-- One call of the router and its answer. -/
theorem isCall_call {id : Nat} {es answers : List Event} {body : List UInt8} {len : Int32}
    (hevents : es = .router id body len :: answers) (hanswer : ∀ e ∈ answers, Answer id e) :
    es.countP (Event.isCall id) = 1 := by
  have hnone : answers.countP (Event.isCall id) = 0 := by
    rw [List.countP_eq_zero]
    intro e he
    rw [not_isCall_answer (hanswer e he)]
    exact Bool.false_ne_true
  have hcall : (Event.router id body len).isCall id = true := decide_eq_true rfl
  rw [hevents, List.countP_cons_of_pos hcall, hnone]

theorem isCall_router (env : Environment) (s : Server) (id : Nat) :
    (http2RouterBridge env s id).2.countP (Event.isCall id) = 1 := by
  obtain ⟨-, -, answers, hevents, hanswer⟩ := http2RouterBridge_spec env s id
  exact isCall_call hevents hanswer

theorem isCall_handleStreamEnd (id : Nat) :
    (handleStreamEnd env s id).2.countP (Event.isCall id) = 1 := by
  obtain ⟨-, -, answers, hevents, hanswer⟩ := handleStreamEnd_spec env s id
  exact isCall_call hevents hanswer

/-- **A DATA frame** calls the router if it is stored and carries END_STREAM. -/
theorem calls_data (env : Environment) (h0 : f.type = 0x00) [Decidable (Stores env r.server f)] :
    (r.step (.frame f env)).calls f.streamId
      = r.calls f.streamId
        + if Stores env r.server f ∧ f.flags &&& 0x01 ≠ 0 then 1 else 0 := by
  rw [Run.calls_frame, handleFrame_data h0]
  by_cases hstores : Stores env r.server f
  · rw [handleData_stores hstores]
    by_cases hend : f.flags &&& 0x01 = 0
    · rw [if_neg (not_not.mpr hend), if_neg (fun h => h.2 hend)]
      rfl
    · rw [if_pos hend, if_pos ⟨hstores, hend⟩, List.countP_append, isCall_handleStreamEnd,
        isCall_windowUpdates, Nat.zero_add]
  · rw [isCall_dropped (handleData_drops hstores).2, if_neg (fun h => hstores h.1)]

/-- A DATA frame without END_STREAM leaves everything but the body alone. -/
theorem calm_moreData {id : Nat} {i : Run.Input} (h : i.MoreData id) : Calm id r (r.step i) := by
  classical
  cases i with
  | flush env => exact absurd h (fun h => h)
  | frame f env =>
      obtain ⟨rfl, h0, hmore⟩ := h
      have hframe : (r.step (.frame f env)).server
          = (http2ParserHandleData env r.server f.head f.payloadBuf).1 := by
        rw [Run.step_frame, handleFrame_data h0]
      have hinside : Inside f.streamId r.server
          (http2ParserHandleData env r.server f.head f.payloadBuf).1 :=
        inside_handleData f.head f.payloadBuf
      have hend : Traced.isEnd f.streamId (.received f) = false :=
        decide_eq_false (fun h => h.2.2 hmore)
      constructor
      · rw [hframe]
        exact hinside.sized
      · rw [hframe]
        exact isSome_of_windows hinside.windows f.streamId
      · rw [hframe]
        by_cases hstores : Stores env r.server f
        · rw [handleData_stores hstores, if_neg (not_not.mpr hmore)]
          show ((appendStreamBody r.server f.streamId f.payload).rest.streams f.streamId).req = _
          unfold appendStreamBody
          rw [setRest_streams_self]
        · rw [(handleData_drops hstores).1]
      · rw [calls_data env h0, if_neg (fun h => h.2 hmore)]
        rfl
      · rw [Run.ends_frame, hend]
        rfl

/-! ## HEADERS -/

/-- The request that a HEADERS frame finds on its stream. -/
def requestBefore (env : Environment) (s : Server) (id : Nat) : RequestHeader :=
  if (lookupStream s id).isSome then (s.rest.streams id).req else (StreamRest.new env).req

/-- What `parse_header` makes of the frame. -/
def headerPass (env : Environment) (s : Server) (f : Frame) : HeaderPass :=
  parseHeader env.trustProxy s.rest.table (requestBefore env s f.streamId)
    (headersBlock f.flags f.payload)

/-- The header block of the frame is that of a request. -/
structure ValidHeaders (env : Environment) (s : Server) (f : Frame) : Prop where
  block : headersBlock f.flags f.payload ≠ []
  status : (headerPass env s f).status = 0
  method : (headerPass env s f).req.method ≠ []
  uri : (headerPass env s f).req.uri.isSome = true
  fits : env.uriTooLong = false

/-- The request is valid, there is a stream for it, and the rate limiter lets it through. -/
structure Accepts (env : Environment) (s : Server) (f : Frame) : Prop where
  id_ne : f.streamId ≠ 0
  stream : (lookupStream s f.streamId).isSome = true ∨ env.callocOk = true
  valid : ValidHeaders env s f
  allowed : env.allowed = true

theorem getOrCreate_isSome_iff {id : Nat} : (http2StreamGetOrCreate env s id).isSome = true
    ↔ (lookupStream s id).isSome = true ∨ env.callocOk = true := by
  unfold http2StreamGetOrCreate
  cases hlook : lookupStream s id with
  | some st => simp
  | none => by_cases hcalloc : env.callocOk = true <;> simp [hcalloc]

theorem getOrCreate_spec {s' : Server} {id : Nat} (hsized : Sized s)
    (h : http2StreamGetOrCreate env s id = some s') :
    (lookupStream s' id).isSome = true ∧ (s'.rest.streams id).req = requestBefore env s id
      ∧ s'.rest.table = s.rest.table := by
  unfold requestBefore
  rcases getOrCreate_cases h with ⟨hknown, rfl⟩ | ⟨hnone, -, rfl⟩
  · rw [if_pos hknown]
    exact ⟨hknown, rfl, rfl⟩
  · rw [hnone, lookup_setRest, lookup_pushStream hsized]
    refine ⟨?_, ?_, ?_⟩
    · show (if id = id then some (newStream s id) else _).isSome = true
      rw [if_pos rfl]
      rfl
    · rw [setRest_streams_self]
      rfl
    · rw [setRest_table, pushStream_rest]

/-- The value of `parse_header`, and the request it leaves. -/
theorem parseHeaderFull_spec {s' : Server} (hreq : (s'.rest.streams f.streamId).req
      = requestBefore env s f.streamId) (htable : s'.rest.table = s.rest.table) :
    ((parseHeaderFull env s' f.streamId (headersBlock f.flags f.payload)).1 = true
        ↔ ValidHeaders env s f)
      ∧ (headersBlock f.flags f.payload ≠ [] →
        ((parseHeaderFull env s' f.streamId (headersBlock f.flags f.payload)).2.rest.streams
          f.streamId).req = (headerPass env s f).req) := by
  unfold parseHeaderFull
  by_cases hblock : headersBlock f.flags f.payload = []
  · rw [if_pos hblock]
    exact ⟨⟨fun h => (nomatch h), fun h => absurd hblock h.block⟩, fun h => absurd hblock h⟩
  · rw [if_neg hblock]
    dsimp only
    rw [hreq, htable]
    refine ⟨?_, fun _ => ?_⟩
    · constructor
      · intro h
        obtain ⟨hstatus, hmethod, huri, hfits⟩ := of_decide_eq_true h
        exact ⟨hblock, hstatus, hmethod, huri, hfits⟩
      · rintro ⟨-, hstatus, hmethod, huri, hfits⟩
        exact decide_eq_true ⟨hstatus, hmethod, huri, hfits⟩
    · rw [setRest_streams_self]
      rfl

/-- **A HEADERS frame** calls the router if it is accepted and asks for a WebSocket or carries
END_STREAM. -/
theorem calls_headers (env : Environment) (h1 : f.type = 0x01) (hsized : Sized r.server)
    [Decidable (Accepts env r.server f)] :
    (r.step (.frame f env)).calls f.streamId
      = r.calls f.streamId
        + if Accepts env r.server f ∧
            ((headerPass env r.server f).req.isUpgrade = true ∨ f.flags &&& 0x01 ≠ 0)
          then 1 else 0 := by
  rw [Run.calls_frame, handleFrame_headers h1]
  congr 1
  -- `Accepts` has one field for each test of `handleHeaders`, and the cases take them in turn
  rcases handleHeaders_cases env r.server f.head f.payloadBuf with
    ⟨hnone, h⟩ | ⟨hid, s', hcreate, h⟩
  · have hno : ¬ Accepts env r.server f := by
      intro hacc
      rcases hnone with hzero | hnone
      · exact hacc.id_ne hzero
      · have hsome := getOrCreate_isSome_iff.mpr hacc.stream
        rw [show http2StreamGetOrCreate env r.server f.streamId = none from hnone] at hsome
        cases hsome
    rw [h, if_neg (fun h => hno h.1)]
    rfl
  · obtain ⟨-, hreq, htable⟩ := getOrCreate_spec hsized hcreate
    obtain ⟨hvalid, hleft⟩ := parseHeaderFull_spec hreq htable
    have hstream : (lookupStream r.server f.streamId).isSome = true ∨ env.callocOk = true :=
      getOrCreate_isSome_iff.mp (Option.isSome_iff_exists.mpr ⟨s', hcreate⟩)
    rw [h, Frame.payloadBuf_getD]
    show (headersOn env s' f.streamId f.flags f.payload).2.countP _ = _
    unfold headersOn
    dsimp only
    by_cases hv : ValidHeaders env r.server f
    · rw [if_pos (hvalid.mpr hv), hleft hv.block]
      by_cases hallowed : env.allowed = true
      · have hacc : Accepts env r.server f := ⟨hid, hstream, hv, hallowed⟩
        rw [if_pos hallowed]
        by_cases hup : (headerPass env r.server f).req.isUpgrade = true
        · rw [if_pos hup, if_pos ⟨hacc, Or.inl hup⟩, isCall_router]
        · rw [if_neg hup]
          by_cases hend : f.flags &&& 0x01 = 0
          · rw [if_neg (not_not.mpr hend), if_neg]
            · rfl
            · rintro ⟨-, h | h⟩
              · exact hup h
              · exact h hend
          · rw [if_pos hend, if_pos ⟨hacc, Or.inr hend⟩, isCall_router]
      · rw [if_neg hallowed, if_neg (fun h => hallowed h.1.allowed)]
        rfl
    · rw [if_neg (fun h => hv (hvalid.mp h)), if_neg (fun h => hv h.1.valid)]
      rfl

/-- Behind a HEADERS frame its stream is there, unless it could not be created, and its request is
the one that was parsed. -/
theorem headers_after (env : Environment) (h1 : f.type = 0x01) (hid : f.streamId ≠ 0) (hsized : Sized r.server) :
    ((lookupStream (r.step (.frame f env)).server f.streamId).isSome = true
        ↔ (lookupStream r.server f.streamId).isSome = true ∨ env.callocOk = true)
      ∧ ((lookupStream (r.step (.frame f env)).server f.streamId).isSome = true →
        headersBlock f.flags f.payload ≠ [] →
        ((r.step (.frame f env)).server.rest.streams f.streamId).req.isUpgrade
          = (headerPass env r.server f).req.isUpgrade) := by
  have hframe : (r.step (.frame f env)).server
      = (http2ParserHandleHeaders env r.server f.head f.payloadBuf).1 := by
    rw [Run.step_frame, handleFrame_headers h1]
  rw [hframe, ← getOrCreate_isSome_iff]
  rcases handleHeaders_cases env r.server f.head f.payloadBuf with
    ⟨hnone, h⟩ | ⟨-, s', hcreate, h⟩
  · have hnone' : http2StreamGetOrCreate env r.server f.streamId = none := by
      rcases hnone with hzero | hnone
      · exact absurd hzero hid
      · exact hnone
    have hunknown : ¬ (lookupStream r.server f.streamId).isSome = true := by
      intro hknown
      have hsome : (http2StreamGetOrCreate env r.server f.streamId).isSome = true :=
        getOrCreate_isSome_iff.mpr (Or.inl hknown)
      rw [hnone'] at hsome
      cases hsome
    rw [h, hnone']
    exact ⟨⟨fun hknown => absurd hknown hunknown, fun h => (nomatch h)⟩,
      fun hknown => absurd hknown hunknown⟩
  · obtain ⟨hknown, hreq, htable⟩ := getOrCreate_spec hsized hcreate
    obtain ⟨-, hleft⟩ := parseHeaderFull_spec hreq htable
    have hinside : Inside f.streamId s' (headersOn env s' f.streamId f.flags f.payload).1 :=
      inside_headersOn f.flags f.payload
    have hcreated : (http2StreamGetOrCreate env r.server f.streamId).isSome = true :=
      Option.isSome_iff_exists.mpr ⟨s', hcreate⟩
    rw [h, Frame.payloadBuf_getD]
    show ((lookupStream (headersOn env s' f.streamId f.flags f.payload).1 f.streamId).isSome = true
      ↔ _) ∧ (_ → _ → ((headersOn env s' f.streamId f.flags f.payload).1.rest.streams
        f.streamId).req.isUpgrade = _)
    rw [isSome_of_windows hinside.windows]
    refine ⟨⟨fun _ => hcreated, fun _ => hknown⟩, fun _ hblock => ?_⟩
    rw [← hleft hblock]
    -- the router and the state do not change the request
    have hrouter : ∀ s : Server, ((http2RouterBridge env s f.streamId).1.rest.streams
        f.streamId).req = (s.rest.streams f.streamId).req := fun s =>
      congrArg Prod.fst (http2RouterBridge_spec env s f.streamId).2.1
    unfold headersOn
    dsimp only
    split_ifs
    · rw [hrouter]
    · rw [hrouter, setStream_rest]
    · rfl
    · rfl
    · rfl

end OnStream

end Halmos.Http2
