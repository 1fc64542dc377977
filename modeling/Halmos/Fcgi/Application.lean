import Halmos.Fcgi.Params
import Halmos.Fcgi.Session

set_option autoImplicit false

/-! # The application behind the server

A FastCGI application reads the messages of a request in their order: its beginning, the parameters
up to an empty record, and the body up to an empty record. What is out of turn is an error.

Both protocols send a request in pieces, as the socket takes them. As long as `send` takes the
records of a body as a whole or not at all, what the application has read at any moment goes on to
the whole request, with the parameters of the request and its body, and it has the whole request
when the server goes on to receive the answer (`request_heard`).
-/

namespace Halmos.Fcgi

/-! ## An application -/

/-- How far an application is with a request. -/
inductive Application where
  | waiting
  | params (keepConn : Bool) (pairs : List Pair)
  | stdin (keepConn : Bool) (pairs : List Pair) (body : List UInt8)
  | ready (keepConn : Bool) (pairs : List Pair) (body : List UInt8)
  deriving DecidableEq, Repr

/-- The next message. -/
def Application.hear : Application → Message → Option Application
  | .waiting, .beginRequest 1 keepConn => some (.params keepConn [])
  | .params keepConn pairs, .params more =>
      -- an empty record ends the stream
      if more = [] then some (.stdin keepConn pairs []) else some (.params keepConn (pairs ++ more))
  | .stdin keepConn pairs body, .stdin data =>
      if data = [] then some (.ready keepConn pairs body)
      else some (.stdin keepConn pairs (body ++ data))
  | _, _ => none

/-- An application that has read these bytes of one request. -/
def Application.read (requestId : Nat) (bytes : List UInt8) : Option Application :=
  (decodeMessages bytes).bind fun messages =>
    messages.foldlM (fun a m => if m.1 = requestId then a.hear m.2 else none) .waiting

section Reads

variable {requestId : Nat} {keepConn : Bool} {pairs : List Pair} {body : List UInt8}

theorem length_le_encode (requestId : Nat) (rs : List Record) :
    rs.length ≤ (rs.flatMap (Record.encode requestId)).length := by
  induction rs with
  | nil => exact Nat.le_refl 0
  | cons r rs ih =>
      have hlen := encode_length requestId r
      simp only [List.flatMap_cons, List.length_append, List.length_cons]
      omega

/-- Messages of one request, one after the other. -/
theorem read_encode {rs : List Record} {messages : List Message}
    (h : rs.mapM (fun r => (r.parsed requestId).message) = some messages) :
    Application.read (requestId % 65536) (rs.flatMap (Record.encode requestId))
      = messages.foldlM Application.hear .waiting := by
  have hmessages : (rs.map (Record.parsed requestId)).mapM
      (fun r => r.message.map fun m => (r.requestId, m))
      = some (messages.map fun m => (requestId % 65536, m)) := by
    induction rs generalizing messages with
    | nil =>
        cases h
        rfl
    | cons r rs ih =>
        simp only [List.mapM_cons, Option.bind_eq_bind, Option.bind_eq_some_iff] at h
        obtain ⟨m, hm, rest, hrest, hall⟩ := h
        cases hall
        simp only [List.map_cons, List.mapM_cons, hm, ih hrest, Option.map_some,
          Option.bind_eq_bind, Option.bind_some]
        rfl
  unfold Application.read decodeMessages
  rw [parseRecords_encode requestId rs (length_le_encode requestId rs), Option.bind_some, hmessages,
    Option.bind_some, List.foldlM_map]
  simp

/-- The pieces of a body, none of them empty. -/
theorem hear_pieces {pieces : List (List UInt8)} (h : ∀ piece ∈ pieces, piece ≠ []) :
    (pieces.map Message.stdin).foldlM Application.hear (.stdin keepConn pairs body)
      = some (.stdin keepConn pairs (body ++ pieces.flatten)) := by
  induction pieces generalizing body with
  | nil => simp
  | cons piece pieces ih =>
      rw [List.forall_mem_cons] at h
      simp only [List.map_cons, List.foldlM_cons, Application.hear, if_neg h.1, Option.bind_eq_bind,
        Option.bind_some, ih h.2]
      simp

/-- Records of a body, and the empty one behind them. -/
theorem IsStdin.records {bytes : List UInt8} (h : IsStdin requestId body bytes) :
    ∃ pieces : List (List UInt8), ∃ rs : List Record, (∀ piece ∈ pieces, piece ≠ []) ∧
      pieces.flatten = body ∧ bytes = rs.flatMap (Record.encode requestId) ∧
      rs.mapM (fun r => (r.parsed requestId).message)
        = some (pieces.map Message.stdin ++ [.stdin []]) := by
  obtain ⟨sent, ⟨rs, hrs, rfl, rfl⟩, rfl⟩ := h
  have hdata {r : Record} (htype : r.type = 5) :
      (r.parsed requestId).message = some (.stdin r.content) := by
    simp [ParsedRecord.message, Record.parsed, htype]
  have hmessages : rs.mapM (fun r => (r.parsed requestId).message)
      = some ((rs.map Record.content).map Message.stdin) := by
    induction rs with
    | nil => rfl
    | cons r rs ih =>
        rw [List.forall_mem_cons] at hrs
        simp [hdata hrs.1.1, ih hrs.2]
  refine ⟨rs.map Record.content, rs ++ [stdinRecord [] [] (by decide) (by decide)], ?_, ?_, ?_, ?_⟩
  · intro piece hpiece
    obtain ⟨r, hr, rfl⟩ := List.mem_map.mp hpiece
    exact (hrs r hr).2
  · rw [List.flatMap_def]
  · rw [List.flatMap_append, List.flatMap_singleton]
    rfl
  · have heof : ((stdinRecord [] [] (by decide) (by decide)).parsed requestId).message
        = some (.stdin []) := rfl
    rw [List.mapM_append, hmessages]
    simp only [List.mapM_cons, List.mapM_nil, heof]
    rfl

/-- **A request as the server sends it** is one that an application reads. -/
theorem read_request {cfg : CgiConfig} {req : CgiRequest} {contentLength : Nat}
    (hroom : (gatherBuf cfg req contentLength requestId).length ≤ gatherBufSize)
    (hpairs : sentPairs cfg req contentLength ≠ []) {stdin : List UInt8}
    (hstdin : IsStdin requestId body stdin) :
    Application.read (requestId % 65536) (gatherBuf cfg req contentLength requestId ++ stdin)
      = some (.ready true (sentPairs cfg req contentLength) body) := by
  have hlen := sentPairs_length hroom
  obtain ⟨pieces, rs, hne, rfl, rfl, hrs⟩ := hstdin.records
  have hbegin : (beginRecord.parsed requestId).message = some (.beginRequest 1 true) := rfl
  have hparams := message_sentPairs requestId hlen
  have hempty : ((paramsRecord [] (by decide)).parsed requestId).message = some (.params []) := rfl
  have hall : ([beginRecord, paramsRecord _ hlen, paramsRecord [] (by decide)] ++ rs).mapM
      (fun r => (r.parsed requestId).message)
      = some ([.beginRequest 1 true, .params (sentPairs cfg req contentLength), .params []]
        ++ (pieces.map Message.stdin ++ [.stdin []])) := by
    rw [List.mapM_append, hrs]
    simp only [List.mapM_cons, List.mapM_nil, hbegin, hparams, hempty]
    rfl
  rw [gatherBuf_records hlen, ← List.flatMap_append, read_encode hall]
  simp [Application.hear, hpairs, hear_pieces hne]

/-- Every body can be sent. -/
theorem exists_carries (requestId : Nat) (data : List UInt8) :
    ∃ bytes, Carries requestId data bytes := by
  induction data using List.reverseRecOn with
  | nil => exact ⟨[], carries_nil⟩
  | append_singleton data c ih =>
      -- one record for each byte
      obtain ⟨bytes, hbytes⟩ := ih
      have hone : [c].length < 2 ^ 16 := by simp
      exact ⟨_, @Carries.snoc requestId data bytes hbytes (stdinRecord [c] [] hone (by decide)) rfl
        (List.cons_ne_nil c [])⟩

theorem Carries.append {data more bytes rest : List UInt8} (h : Carries requestId data bytes)
    (hmore : Carries requestId more rest) : Carries requestId (data ++ more) (bytes ++ rest) := by
  obtain ⟨rs, hrs, rfl, rfl⟩ := h
  obtain ⟨qs, hqs, rfl, rfl⟩ := hmore
  refine ⟨rs ++ qs, List.forall_mem_append.mpr ⟨hrs, hqs⟩, ?_, ?_⟩
  · rw [List.flatMap_append]
  · rw [List.flatMap_append]

/-- The beginning of a body goes on to the whole of it. -/
theorem Carries.goesOn {n : Nat} {bytes : List UInt8} (h : Carries requestId (body.take n) bytes) :
    ∃ rest, IsStdin requestId body (bytes ++ rest) := by
  obtain ⟨rest, hrest⟩ := exists_carries requestId (body.drop n)
  have hall : Carries requestId body (bytes ++ rest) := by
    simpa using h.append hrest
  exact ⟨rest ++ stdinEof requestId, bytes ++ rest, hall, by rw [List.append_assoc]⟩

end Reads

/-! ## Sessions of HTTP/1.1 -/

section Sessions

variable {requestId : Nat} {request body : List UInt8} {e : SessionExchange} {i : SessionInput}

theorem sendingStdinEnd_request (i : SessionInput) (out : List UInt8) (s : HalmosFCGISession) :
    (sendingStdinEnd i out s).session.gatherBuf = s.gatherBuf ∧
      (sendingStdinEnd i out s).session.requestId = s.requestId := by
  unfold sendingStdinEnd
  split <;> exact ⟨rfl, rfl⟩

/-- The step leaves the request alone. -/
theorem fcgiSessionHttp1Step_request (s : HalmosFCGISession) (i : SessionInput) :
    (fcgiSessionHttp1Step s i).session.gatherBuf = s.gatherBuf ∧
      (fcgiSessionHttp1Step s i).session.requestId = s.requestId := by
  have hparams : (sendingParamsStep i s).session.gatherBuf = s.gatherBuf ∧
      (sendingParamsStep i s).session.requestId = s.requestId := by
    unfold sendingParamsStep
    cases i.send <;> split <;> exact ⟨rfl, rfl⟩
  unfold fcgiSessionHttp1Step
  cases s.state with
  | init => exact hparams
  | sendingParams => exact hparams
  | sendingStdin =>
      dsimp only
      unfold sendingStdinStep
      cases i.send <;> dsimp only <;> split_ifs <;>
        first | exact ⟨rfl, rfl⟩ | exact sendingStdinEnd_request _ _ _
  | receiving =>
      dsimp only
      unfold receivingStep
      split_ifs <;> exact ⟨rfl, rfl⟩
  | finished => exact ⟨rfl, rfl⟩
  | error => exact ⟨rfl, rfl⟩

/-- What the application has read of the request, in the records of the session. -/
structure SessionExchange.Heard (requestId : Nat) (request body : List UInt8)
    (e : SessionExchange) : Prop where
  sending : e.Sending body
  gatherBuf : e.session.gatherBuf = request
  requestId : e.session.requestId = requestId
  finished : e.session.state = .receiving ∨ e.session.state = .finished → e.Finished body

/-- Behind the request, the backend is sent nothing. -/
theorem heard_receiving (h : e.Heard requestId request body)
    (hstate : e.session.state = .receiving ∨ e.session.state = .finished) :
    (e.step i).Finished body := by
  obtain ⟨stdin, hstdin, hreceived⟩ := h.finished hstate
  obtain ⟨hgather, hid⟩ := fcgiSessionHttp1Step_request e.session i
  have hquiet : (fcgiSessionHttp1Step e.session i).toBackend = [] := by
    unfold fcgiSessionHttp1Step
    rcases hstate with hstate | hstate
    · rw [hstate]
      dsimp only
      unfold receivingStep
      split_ifs <;> rfl
    · rw [hstate]
  refine ⟨stdin, ?_, ?_⟩
  · show IsStdin (fcgiSessionHttp1Step e.session i).session.requestId body stdin
    rw [hid]
    exact hstdin
  · show e.received ++ (fcgiSessionHttp1Step e.session i).toBackend
      = (fcgiSessionHttp1Step e.session i).session.gatherBuf ++ stdin
    rw [hquiet, hgather, List.append_nil, hreceived]

/-- A request is not finished while it is being sent. -/
theorem sends_not_finished (hsends : e.session.Sends) :
    (e.step i).session.state ≠ .finished := by
  have hparams (s : HalmosFCGISession) (hs : s.state ≠ .finished) :
      (sendingParamsStep i s).session.state ≠ .finished := by
    unfold sendingParamsStep
    cases i.send <;> dsimp only <;> split_ifs <;> simp [hs]
  have hend (out : List UInt8) (s : HalmosFCGISession) (hs : s.state ≠ .finished) :
      (sendingStdinEnd i out s).session.state ≠ .finished := by
    unfold sendingStdinEnd
    split <;> simp [hs]
  show (fcgiSessionHttp1Step e.session i).session.state ≠ .finished
  unfold fcgiSessionHttp1Step
  rcases hsends with hstate | hstate | hstate
  · rw [hstate]
    exact hparams _ (by simp [hstate])
  · rw [hstate]
    exact hparams _ (by simp [hstate])
  · rw [hstate]
    dsimp only
    unfold sendingStdinStep
    cases i.send <;> dsimp only <;> split_ifs <;>
      first | exact hend _ _ (by simp [hstate]) | simp [hstate]

theorem heard_step (h : e.Heard requestId request body) (hne : body ≠ []) (hwhole : e.Whole i) :
    (e.step i).Heard requestId request body := by
  obtain ⟨hsending, hreceiving⟩ := session_step h.sending hne hwhole
  obtain ⟨hgather, hid⟩ := fcgiSessionHttp1Step_request e.session i
  refine ⟨hsending, hgather.trans h.gatherBuf, hid.trans h.requestId, fun hstate => ?_⟩
  -- the step that ends the sending, or one behind it
  by_cases hsends : e.session.Sends
  · rcases hstate with hstate | hstate
    · exact hreceiving hsends hstate
    · exact absurd hstate (sends_not_finished hsends)
  · cases hbefore : e.session.state with
    | init => exact absurd (Or.inl hbefore) hsends
    | sendingParams => exact absurd (Or.inr (Or.inl hbefore)) hsends
    | sendingStdin => exact absurd (Or.inr (Or.inr hbefore)) hsends
    | receiving => exact heard_receiving h (Or.inl hbefore)
    | finished => exact heard_receiving h (Or.inr hbefore)
    | error =>
        have hafter : (e.step i).session.state = .error := by
          show (fcgiSessionHttp1Step e.session i).session.state = .error
          simp [fcgiSessionHttp1Step, hbefore]
        rcases hstate with hstate | hstate <;> exact absurd (hafter.symm.trans hstate) (by decide)

/-- Before an error, what has been received goes on to the request. -/
theorem SessionExchange.Heard.goesOn (h : e.Heard requestId request body)
    (hstate : e.session.state ≠ .error) :
    ∃ rest stdin, IsStdin requestId body stdin ∧ e.received ++ rest = request ++ stdin := by
  have hgather := h.gatherBuf
  have hid := h.requestId
  have hparams (hstate : e.session.state = .init ∨ e.session.state = .sendingParams) :
      ∃ rest stdin, IsStdin requestId body stdin ∧ e.received ++ rest = request ++ stdin := by
    obtain ⟨-, -, hreceived⟩ := h.sending.params hstate
    obtain ⟨stdin, hstdin⟩ := @Carries.goesOn requestId body 0 [] (by simpa using carries_nil)
    refine ⟨request.drop e.session.gSent ++ stdin, stdin, hstdin, ?_⟩
    rw [hreceived, hgather, ← List.append_assoc, List.take_append_drop]
  have hfinished (hstate : e.session.state = .receiving ∨ e.session.state = .finished) :
      ∃ rest stdin, IsStdin requestId body stdin ∧ e.received ++ rest = request ++ stdin := by
    obtain ⟨stdin, hstdin, hreceived⟩ := h.finished hstate
    rw [hid] at hstdin
    exact ⟨[], stdin, hstdin, by rw [List.append_nil, hreceived, hgather]⟩
  cases hbefore : e.session.state with
  | init => exact hparams (Or.inl hbefore)
  | sendingParams => exact hparams (Or.inr hbefore)
  | sendingStdin =>
      obtain ⟨-, sent, hsent, hreceived⟩ := h.sending.stdin hbefore
      rw [hid] at hsent
      obtain ⟨rest, hrest⟩ := hsent.goesOn
      exact ⟨rest, sent ++ rest, hrest, by rw [hreceived, hgather, List.append_assoc]⟩
  | receiving => exact hfinished (Or.inl hbefore)
  | finished => exact hfinished (Or.inr hbefore)
  | error => exact absurd hbefore hstate

end Sessions

/-! ## Streams of HTTP/2 -/

section Streams

variable {requestId : Nat} {params body : List UInt8} {e : Exchange} {i : StepInput}

/-- What the application has read of the request, in the states of the stream. The request is there
from state 1 on. -/
structure Exchange.Heard (requestId : Nat) (params body : List UInt8) (e : Exchange) : Prop where
  sending : e.Sending body
  gatherBuf : e.stream.fcgiState ≠ 0 → e.stream.gatherBuf = beginRequest requestId ++ params
  streamId : e.stream.streamId = requestId
  finished : e.stream.fcgiState = 3 ∨ e.stream.fcgiState = 4 → e.Finished body

/-- The parameters go out, and the request stays as it is. -/
theorem paramsStep_request (i : StepInput) {s : FcgiStream} (hstate : s.fcgiState = 1)
    (hbody : s.bodyData = some body) (hlen : s.contentLength = body.length) (hne : body ≠ []) :
    (paramsStep i s).stream.gatherBuf = s.gatherBuf ∧
      (paramsStep i s).stream.streamId = s.streamId ∧
      ((paramsStep i s).stream.fcgiState = 1 ∨ (paramsStep i s).stream.fcgiState = 2 ∨
        (paramsStep i s).stream.fcgiState = 5) := by
  have hpos : 0 < s.contentLength ∧ s.bodyData.isSome = true := by
    have hlength := List.length_pos_iff.mpr hne
    rw [hlen, hbody]
    exact ⟨by omega, rfl⟩
  unfold paramsStep
  split
  · cases i.send with
    | sent n =>
        refine ⟨rfl, rfl, ?_⟩
        dsimp only
        rw [if_pos hpos]
        split
        · exact Or.inr (Or.inl rfl)
        · exact Or.inl rfl
    | wouldBlock => exact ⟨rfl, rfl, Or.inl hstate⟩
    | failed => exact ⟨rfl, rfl, Or.inr (Or.inr rfl)⟩
  · exact ⟨rfl, rfl, Or.inl hstate⟩

theorem stdinEnd_request (i : StepInput) (out : List UInt8) {s : FcgiStream}
    (hstate : s.fcgiState = 2) :
    (stdinEnd i out s).stream.gatherBuf = s.gatherBuf ∧
      (stdinEnd i out s).stream.streamId = s.streamId ∧
      ((stdinEnd i out s).stream.fcgiState = 2 ∨ (stdinEnd i out s).stream.fcgiState = 3) := by
  unfold stdinEnd
  split
  · exact ⟨rfl, rfl, Or.inr rfl⟩
  · exact ⟨rfl, rfl, Or.inl hstate⟩

theorem stdinStep_request (i : StepInput) {s : FcgiStream} (hstate : s.fcgiState = 2) :
    (stdinStep i s).stream.gatherBuf = s.gatherBuf ∧
      (stdinStep i s).stream.streamId = s.streamId ∧
      ((stdinStep i s).stream.fcgiState = 2 ∨ (stdinStep i s).stream.fcgiState = 3 ∨
        (stdinStep i s).stream.fcgiState = 5) := by
  have hend (out : List UInt8) {s' : FcgiStream} (hstate' : s'.fcgiState = 2)
      (hgather : s'.gatherBuf = s.gatherBuf) (hid : s'.streamId = s.streamId) :
      (stdinEnd i out s').stream.gatherBuf = s.gatherBuf ∧
        (stdinEnd i out s').stream.streamId = s.streamId ∧
        ((stdinEnd i out s').stream.fcgiState = 2 ∨ (stdinEnd i out s').stream.fcgiState = 3 ∨
          (stdinEnd i out s').stream.fcgiState = 5) := by
    obtain ⟨hg, hs, hnext⟩ := stdinEnd_request i out hstate'
    refine ⟨hg.trans hgather, hs.trans hid, ?_⟩
    rcases hnext with h | h
    · exact Or.inl h
    · exact Or.inr (Or.inl h)
  unfold stdinStep
  split
  · split
    · cases i.send <;> cases i.sendBody <;> dsimp only <;>
        first
          | exact hend _ hstate rfl rfl
          | exact ⟨rfl, rfl, Or.inl hstate⟩
          | exact ⟨rfl, rfl, Or.inr (Or.inr rfl)⟩
    · exact hend _ hstate rfl rfl
  · exact ⟨rfl, rfl, Or.inl hstate⟩

/-- While it receives the answer, the server sends the backend nothing. -/
theorem receiveStep_silent (i : StepInput) (s : FcgiStream) :
    (receiveStep i s).stream.gatherBuf = s.gatherBuf ∧
      (receiveStep i s).stream.streamId = s.streamId ∧ (receiveStep i s).toBackend = [] := by
  unfold receiveStep
  split
  · cases i.recv with
    | data chunk =>
        dsimp only
        unfold delimStep
        split <;> exact ⟨rfl, rfl, rfl⟩
    | wouldBlock => exact ⟨rfl, rfl, rfl⟩
    | failed => exact ⟨rfl, rfl, rfl⟩
    | eof => exact ⟨rfl, rfl, rfl⟩
  · exact ⟨rfl, rfl, rfl⟩

/-- A step from state 1 on that leaves the request alone. -/
theorem Exchange.Heard.kept (h : e.Heard requestId params body) (hstate : e.stream.fcgiState ≠ 0)
    (hsending : (e.step i).Sending body) {r : StepResult} (hstep : fcgiSessionHttp2Step e.stream i = r)
    (hgather : r.stream.gatherBuf = e.stream.gatherBuf)
    (hid : r.stream.streamId = e.stream.streamId)
    (hfinished : r.stream.fcgiState = 3 ∨ r.stream.fcgiState = 4 → (e.step i).Finished body) :
    (e.step i).Heard requestId params body := by
  subst hstep
  exact ⟨hsending, fun _ => hgather.trans (h.gatherBuf hstate), hid.trans h.streamId, hfinished⟩

theorem stream_heard_step (h : e.Heard requestId params body) (hne : body ≠ [])
    (hparams : i.params = params) (hwhole : e.Whole i) :
    (e.step i).Heard requestId params body := by
  obtain ⟨hsending, hfinished⟩ := sending_step h.sending hwhole
  obtain ⟨s, received⟩ := e
  have hbody : s.bodyData = some body := h.sending.body_eq
  have hlen : s.contentLength = body.length := h.sending.length_eq
  have hid : s.streamId = requestId := h.streamId
  -- a step that leaves the stream and the backend alone
  have hstay (hstream : (Exchange.step ⟨s, received⟩ i) = ⟨s, received⟩) :
      (Exchange.step ⟨s, received⟩ i).Heard requestId params body := by
    rw [hstream]
    exact h
  by_cases hactive : s.isFcgiActive = false
  · refine hstay ?_
    simp [Exchange.step, fcgiSessionHttp2Step, hactive]
  · match hstate : s.fcgiState with
    | 0 =>
        -- `case 0` puts the request together and falls through to `case 1`
        have hstep : fcgiSessionHttp2Step s i = paramsStep i (initStep i.params s) := by
          simp [fcgiSessionHttp2Step, hactive, hstate]
        obtain ⟨hgather, hsame, hnext⟩ :=
          @paramsStep_request body i (initStep i.params s) rfl hbody hlen hne
        refine ⟨hsending, fun _ => ?_, ?_, fun hdone => ?_⟩
        · show (fcgiSessionHttp2Step s i).stream.gatherBuf = _
          rw [hstep, hgather, hparams, ← hid]
          rfl
        · show (fcgiSessionHttp2Step s i).stream.streamId = _
          rw [hstep, hsame]
          exact hid
        · have hdone' : (fcgiSessionHttp2Step s i).stream.fcgiState = 3
              ∨ (fcgiSessionHttp2Step s i).stream.fcgiState = 4 := hdone
          rw [hstep] at hdone'
          omega
    | 1 =>
        have hstep : fcgiSessionHttp2Step s i = paramsStep i s := by
          simp [fcgiSessionHttp2Step, hactive, hstate]
        obtain ⟨hgather, hsame, hnext⟩ := paramsStep_request i hstate hbody hlen hne
        refine h.kept (by simp [hstate]) hsending hstep hgather hsame fun hdone => ?_
        omega
    | 2 =>
        have hstep : fcgiSessionHttp2Step s i = stdinStep i s := by
          simp [fcgiSessionHttp2Step, hactive, hstate]
        obtain ⟨hgather, hsame, hnext⟩ := stdinStep_request i hstate
        refine h.kept (by simp [hstate]) hsending hstep hgather hsame fun hdone => ?_
        refine hfinished hstate ?_
        show (fcgiSessionHttp2Step s i).stream.fcgiState = 3
        rw [hstep]
        omega
    | 3 =>
        have hstep : fcgiSessionHttp2Step s i = receiveStep i s := by
          simp [fcgiSessionHttp2Step, hactive, hstate]
        obtain ⟨hgather, hsame, hquiet⟩ := receiveStep_silent i s
        refine h.kept (by simp [hstate]) hsending hstep hgather hsame fun _ => ?_
        obtain ⟨stdin, hstdin, hreceived⟩ := h.finished (Or.inl hstate)
        refine ⟨stdin, ?_, ?_⟩
        · show IsStdin (fcgiSessionHttp2Step s i).stream.streamId body stdin
          rw [hstep, hsame]
          exact hstdin
        · show received ++ (fcgiSessionHttp2Step s i).toBackend
            = (fcgiSessionHttp2Step s i).stream.gatherBuf ++ stdin
          rw [hstep, hquiet, hgather, List.append_nil]
          exact hreceived
    | n + 4 =>
        refine hstay ?_
        simp [Exchange.step, fcgiSessionHttp2Step, hactive, hstate]

theorem stream_heard_run {is : List StepInput} (h : e.Heard requestId params body) (hne : body ≠ [])
    (hparams : ∀ i ∈ is, i.params = params) (hrun : GuardedRun Exchange.Whole Exchange.step e is) :
    (runSteps Exchange.step e is).Heard requestId params body := by
  induction is generalizing e with
  | nil => exact h
  | cons i is ih =>
      rw [List.forall_mem_cons] at hparams
      exact ih (stream_heard_step h hne hparams.1 hrun.1) hparams.2 hrun.2

/-- Before an error, what has been received goes on to the request. -/
theorem Exchange.Heard.goesOn (h : e.Heard requestId params body)
    (hstate : e.stream.fcgiState ≤ 4) :
    ∃ rest stdin, IsStdin requestId body stdin ∧
      e.received ++ rest = beginRequest requestId ++ params ++ stdin := by
  have hid := h.streamId
  obtain ⟨stdin, hstdin⟩ := @Carries.goesOn requestId body 0 [] (by simpa using carries_nil)
  match hbefore : e.stream.fcgiState with
  | 0 =>
      have hreceived := (h.sending.first hbefore).2
      exact ⟨_, stdin, hstdin, by rw [hreceived, List.nil_append]⟩
  | 1 =>
      obtain ⟨-, -, hreceived⟩ := h.sending.params hbefore
      rw [h.gatherBuf (by simp [hbefore])] at hreceived
      refine ⟨(beginRequest requestId ++ params).drop e.stream.gSent ++ stdin, stdin, hstdin, ?_⟩
      rw [hreceived, ← List.append_assoc, List.take_append_drop]
  | 2 =>
      obtain ⟨-, sent, hsent, hreceived⟩ := h.sending.stdin hbefore
      rw [hid] at hsent
      rw [h.gatherBuf (by simp [hbefore])] at hreceived
      obtain ⟨rest, hrest⟩ := hsent.goesOn
      exact ⟨rest, sent ++ rest, hrest, by rw [hreceived, List.append_assoc]⟩
  | 3 =>
      obtain ⟨stdin, hstdin, hreceived⟩ := h.finished (Or.inl hbefore)
      rw [hid] at hstdin
      rw [h.gatherBuf (by simp [hbefore])] at hreceived
      exact ⟨[], stdin, hstdin, by rw [List.append_nil, hreceived]⟩
  | 4 =>
      obtain ⟨stdin, hstdin, hreceived⟩ := h.finished (Or.inr hbefore)
      rw [hid] at hstdin
      rw [h.gatherBuf (by simp [hbefore])] at hreceived
      exact ⟨[], stdin, hstdin, by rw [List.append_nil, hreceived]⟩
  | n + 5 => omega

end Streams

/-! ## Both of them -/

/-- The parameters behind BEGIN_REQUEST, as `fcgi_proto_build_params` makes them. -/
def requestParams (cfg : CgiConfig) (req : CgiRequest) (contentLength requestId : Nat) :
    List UInt8 :=
  (gatherBuf cfg req contentLength requestId).drop 16

theorem beginRequest_params (cfg : CgiConfig) (req : CgiRequest) (contentLength requestId : Nat) :
    beginRequest requestId ++ requestParams cfg req contentLength requestId
      = gatherBuf cfg req contentLength requestId := by
  have hbegin : (beginRequest requestId).length = 16 := rfl
  have hprefix : ∃ rest,
      gatherBuf cfg req contentLength requestId = beginRequest requestId ++ rest := by
    rw [gatherBuf_eq]
    simp only [List.append_assoc]
    exact ⟨_, rfl⟩
  obtain ⟨rest, hrest⟩ := hprefix
  rw [requestParams, hrest, List.drop_left' hbegin]

section Requests

variable {cfg : CgiConfig} {req : CgiRequest} {requestId : Nat} {body : List UInt8}

/-- A run of a session from its beginning. -/
theorem session_heard_run {is : List SessionInput} (hne : body ≠ [])
    (hrun : GuardedRun SessionExchange.Whole SessionExchange.step (SessionExchange.start requestId
      (requestParams cfg req body.length requestId) (some body) body.length) is) :
    (runSteps SessionExchange.step (SessionExchange.start requestId
      (requestParams cfg req body.length requestId) (some body) body.length) is).Heard requestId
        (gatherBuf cfg req body.length requestId) body := by
  refine GuardedRun.invariant (fun e i h hwhole => heard_step h hne hwhole) ?_ hrun
  refine ⟨⟨rfl, rfl, fun _ => ⟨rfl, Nat.zero_le _, rfl⟩, fun h => by cases h⟩,
    beginRequest_params cfg req body.length requestId, rfl, ?_⟩
  rintro (h | h) <;> cases h

/-- The whole request. -/
theorem heard_read {e : SessionExchange}
    (h : e.Heard requestId (gatherBuf cfg req body.length requestId) body)
    (hroom : (gatherBuf cfg req body.length requestId).length ≤ gatherBufSize)
    (hpairs : sentPairs cfg req body.length ≠ [])
    (hstate : e.session.state = .receiving ∨ e.session.state = .finished) :
    Application.read (requestId % 65536) e.received
      = some (.ready true (sentPairs cfg req body.length) body) := by
  obtain ⟨stdin, hstdin, hbytes⟩ := h.finished hstate
  rw [h.requestId] at hstdin
  rw [hbytes, h.gatherBuf, read_request hroom hpairs hstdin]

end Requests

/-- What the backend has received goes on to this request. -/
def GoesOnTo (requestId : Nat) (request : Application) (received : List UInt8) : Prop :=
  ∃ rest, Application.read (requestId % 65536) (received ++ rest) = some request

/-- **The application hears the request**, over both protocols: in every run in which the records of
the body are taken as a whole or not at all, what the backend has received goes on to the whole
request, with the parameters that fit and the body, as long as there is no error; and it is the
whole request from where the server receives the answer. -/
theorem request_heard (cfg : CgiConfig) (req : CgiRequest) (requestId : Nat) {body : List UInt8}
    (hne : body ≠ [])
    (hroom : (gatherBuf cfg req body.length requestId).length ≤ gatherBufSize)
    (hpairs : sentPairs cfg req body.length ≠ []) :
    let request := Application.ready true (sentPairs cfg req body.length) body
    (∀ is : List SessionInput,
      let start := SessionExchange.start requestId (requestParams cfg req body.length requestId)
        (some body) body.length
      GuardedRun SessionExchange.Whole SessionExchange.step start is →
        let e := runSteps SessionExchange.step start is
        (e.session.state ≠ .error → GoesOnTo requestId request e.received) ∧
        (e.session.state = .receiving ∨ e.session.state = .finished →
          Application.read (requestId % 65536) e.received = some request)) ∧
    ∀ (s : FcgiStream) (is : List StepInput), s.streamId = requestId → s.bodyData = some body →
      s.contentLength = body.length →
      (∀ i ∈ is, i.params = requestParams cfg req body.length requestId) →
      GuardedRun Exchange.Whole Exchange.step ⟨routeFastcgiBackend s, []⟩ is →
        let e := runSteps Exchange.step ⟨routeFastcgiBackend s, []⟩ is
        (e.stream.fcgiState ≤ 4 → GoesOnTo requestId request e.received) ∧
        (e.stream.fcgiState = 3 ∨ e.stream.fcgiState = 4 →
          Application.read (requestId % 65536) e.received = some request) := by
  intro request
  have hgather := beginRequest_params cfg req body.length requestId
  have hread {stdin : List UInt8} (hstdin : IsStdin requestId body stdin) :
      Application.read (requestId % 65536) (gatherBuf cfg req body.length requestId ++ stdin)
        = some request := read_request hroom hpairs hstdin
  constructor
  · intro is start hrun e
    have hheard : e.Heard requestId (gatherBuf cfg req body.length requestId) body :=
      session_heard_run hne hrun
    refine ⟨fun hstate => ?_, heard_read hheard hroom hpairs⟩
    obtain ⟨rest, stdin, hstdin, hbytes⟩ := hheard.goesOn hstate
    exact ⟨rest, by rw [hbytes, hread hstdin]⟩
  · intro s is hid hbody hlen hparams hrun e
    have hstart : Exchange.Heard requestId (requestParams cfg req body.length requestId) body
        ⟨routeFastcgiBackend s, []⟩ := by
      have hsending : Exchange.Sending body ⟨routeFastcgiBackend s, []⟩ :=
        ⟨hbody, hlen, fun _ => ⟨rfl, rfl⟩, fun h => (by cases h), fun h => (by cases h)⟩
      refine ⟨hsending, fun h => absurd rfl h, hid, ?_⟩
      rintro (h | h) <;> cases h
    have hheard : e.Heard requestId (requestParams cfg req body.length requestId) body :=
      stream_heard_run hstart hne hparams hrun
    refine ⟨fun hstate => ?_, fun hstate => ?_⟩
    · obtain ⟨rest, stdin, hstdin, hbytes⟩ := hheard.goesOn hstate
      rw [hgather] at hbytes
      exact ⟨rest, by rw [hbytes, hread hstdin]⟩
    · obtain ⟨stdin, hstdin, hbytes⟩ := hheard.finished hstate
      rw [hheard.streamId] at hstdin
      rw [hbytes, hheard.gatherBuf (by omega), hgather, hread hstdin]

/-- A POST with one byte: the application has it after two steps of the session. -/
theorem request_heard_oneByte :
    Application.read 1 (runSteps SessionExchange.step
        (SessionExchange.start 65537 (requestParams plainConfig plainRequest 1 65537) (some [7]) 1)
        [freeSessionInput, freeSessionInput]).received
      = some (.ready true (sentPairs plainConfig plainRequest 1) [7]) := by
  have hheard := (request_heard plainConfig plainRequest 65537 (List.cons_ne_nil 7 [])
    (by decide +kernel) (by decide +kernel)).1 [freeSessionInput, freeSessionInput] ?_
  · exact hheard.2 (Or.inl (by decide +kernel))
  · exact ⟨fun h => (by cases h), fun _ _ => Or.inl ⟨by decide +kernel, fun _ => rfl⟩, trivial⟩

end Halmos.Fcgi
