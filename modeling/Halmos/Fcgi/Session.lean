import Halmos.Fcgi.Stdin

set_option autoImplicit false

/-! # `fcgi_session_http1_step`

The state machine that takes a request of an HTTP/1 connection to a FastCGI backend
(`halmos_fcgi_session.c`). Each STDIN record goes out with one call of `send`, padded to a multiple
of eight bytes, and the state machine does not go on behind what the call took. If every call takes
everything or nothing, and the body is not empty, the backend gets exactly the body
(`session_stdin_received`); an empty body has no STDIN record at all (`session_stdin_missing`).
-/

namespace Halmos.Fcgi

/-- `FCGISessionState`. -/
inductive SessionState where
  | init
  | sendingParams
  | sendingStdin
  | receiving
  | finished
  | error
  deriving DecidableEq, Repr

/-- `HalmosFCGISession`. `gatherBuf` is `gather_buf` up to `g_ptr`. -/
structure HalmosFCGISession where
  fpmSock : Int
  requestId : Nat
  state : SessionState
  gatherBuf : List UInt8
  gSent : Nat
  postData : Option (List UInt8)
  contentLength : Nat
  stdinSent : Nat
  deriving DecidableEq, Repr

/-- The input of a step: `revents`, what its calls of `send` return, and what
`fcgi_io_splice_response` returns. -/
structure SessionInput where
  pollOut : Bool
  pollIn : Bool
  send : SendResult
  sendEof : SendResult
  spliced : Int

/-- The result of a step: its value, what the backend is sent, and the session. -/
structure SessionResult where
  status : Status
  toBackend : List UInt8
  session : HalmosFCGISession

/-- `fcgi_session_http1_create`, with the socket the pool gives it and the bytes that
`fcgi_proto_build_params` makes. -/
def fcgiSessionHttp1Create (fpmSock : Int) (requestId : Nat) (params : List UInt8)
    (postData : Option (List UInt8)) (contentLength : Nat) : HalmosFCGISession where
  fpmSock := fpmSock
  requestId := requestId
  state := .init
  gatherBuf := beginRequest requestId ++ params
  gSent := 0
  postData := postData
  contentLength := contentLength
  stdinSent := 0

/-- `FCGI_SES_STATE_INIT` and `FCGI_SES_STATE_SENDING_PARAMS`. -/
def sendingParamsStep (i : SessionInput) (s : HalmosFCGISession) : SessionResult :=
  if i.pollOut then
    let out := i.send.taken (s.gatherBuf.drop s.gSent)
    match i.send with
    | .sent _ =>
        let gSent := s.gSent + out.length
        let done := 0 < out.length ∧ s.gatherBuf.length ≤ gSent
        let next := if 0 < s.contentLength ∧ s.postData.isSome then SessionState.sendingStdin
          else SessionState.receiving
        ⟨.continue, out, { s with gSent := gSent, state := if done then next else s.state }⟩
    | .wouldBlock => ⟨.continue, [], s⟩
    | .failed => ⟨.error, [], { s with state := .error }⟩
  else ⟨.continue, [], s⟩

/-- The size of the next STDIN record. -/
def HalmosFCGISession.chunkSize (s : HalmosFCGISession) : Nat :=
  if 32768 < s.contentLength - s.stdinSent then 32768 else s.contentLength - s.stdinSent

/-- `record_buf`: a header, the next bytes of the body, and zeros up to a multiple of eight. -/
def HalmosFCGISession.recordBuf (s : HalmosFCGISession) : List UInt8 :=
  let pad := (8 - s.chunkSize % 8) % 8
  [1, 5, byteAt s.requestId 8, byteAt s.requestId 0, byteAt s.chunkSize 8, byteAt s.chunkSize 0,
      byteAt pad 0, 0]
    ++ (((s.postData.getD []).drop s.stdinSent).take s.chunkSize ++ List.replicate pad 0)

/-- The end of `FCGI_SES_STATE_SENDING_STDIN`: an empty record when the whole body is out. -/
def sendingStdinEnd (i : SessionInput) (out : List UInt8) (s : HalmosFCGISession) : SessionResult :=
  -- the return value of this `send` is not looked at
  if s.contentLength ≤ s.stdinSent then
    ⟨.continue, out ++ i.sendEof.taken (stdinEof s.requestId), { s with state := .receiving }⟩
  else ⟨.continue, out, s⟩

/-- `FCGI_SES_STATE_SENDING_STDIN`. A record counts as sent when `send` took something of it. -/
def sendingStdinStep (i : SessionInput) (s : HalmosFCGISession) : SessionResult :=
  if i.pollOut then
    if 0 < s.chunkSize then
      let out := i.send.taken s.recordBuf
      match i.send with
      | .sent n =>
          sendingStdinEnd i out
            -- the rest of a record that `send` took in part is lost
            { s with stdinSent := if 0 < n then s.stdinSent + s.chunkSize else s.stdinSent }
      | .wouldBlock => sendingStdinEnd i out s
      | .failed => ⟨.error, out, { s with state := .error }⟩
    else sendingStdinEnd i [] s
  else ⟨.continue, [], s⟩

/-- `FCGI_SES_STATE_RECEIVING`. -/
def receivingStep (i : SessionInput) (s : HalmosFCGISession) : SessionResult :=
  if i.pollIn then
    if i.spliced = 0 then ⟨.completed, [], { s with state := .finished }⟩
    else ⟨.error, [], { s with state := .error }⟩
  else ⟨.continue, [], s⟩

/-- `fcgi_session_http1_step`. -/
def fcgiSessionHttp1Step (s : HalmosFCGISession) (i : SessionInput) : SessionResult :=
  match s.state with
  | .init => sendingParamsStep i s
  | .sendingParams => sendingParamsStep i s
  | .sendingStdin => sendingStdinStep i s
  | .receiving => receivingStep i s
  | .finished => ⟨.completed, [], s⟩
  | .error => ⟨.error, [], s⟩

/-! ## The exchange of a session -/

/-- A session and what its backend has received. -/
structure SessionExchange where
  session : HalmosFCGISession
  received : List UInt8
  deriving DecidableEq, Repr

def SessionExchange.step (e : SessionExchange) (i : SessionInput) : SessionExchange :=
  let r := fcgiSessionHttp1Step e.session i
  ⟨r.session, e.received ++ r.toBackend⟩

/-- The exchange is at its beginning. -/
def SessionExchange.start (requestId : Nat) (params : List UInt8) (postData : Option (List UInt8))
    (contentLength : Nat) : SessionExchange :=
  ⟨fcgiSessionHttp1Create 0 requestId params postData contentLength, []⟩

/-- The request is being sent. -/
def HalmosFCGISession.Sends (s : HalmosFCGISession) : Prop :=
  s.state = .init ∨ s.state = .sendingParams ∨ s.state = .sendingStdin

/-- The call takes the whole record, and the one behind the last record all of it. -/
def HalmosFCGISession.TakesAll (s : HalmosFCGISession) (i : SessionInput) : Prop :=
  i.send.taken s.recordBuf = s.recordBuf ∧
    (s.contentLength ≤ s.stdinSent + 32768 →
      i.sendEof.taken (stdinEof s.requestId) = stdinEof s.requestId)

/-- While the body is sent, `send` takes a record as a whole or nothing of it. -/
def SessionExchange.Whole (e : SessionExchange) (i : SessionInput) : Prop :=
  e.session.state = .sendingStdin → i.pollOut = true →
    e.session.TakesAll i ∨ i.send.taken e.session.recordBuf = []

/-- The backend has received the whole request. -/
def SessionExchange.Finished (body : List UInt8) (e : SessionExchange) : Prop :=
  ∃ stdin, IsStdin e.session.requestId body stdin ∧ e.received = e.session.gatherBuf ++ stdin

/-- What the backend has received of the request, with the body `body`. -/
structure SessionExchange.Sending (body : List UInt8) (e : SessionExchange) : Prop where
  body_eq : e.session.postData.getD [] = body
  length_eq : e.session.contentLength = body.length
  params : e.session.state = .init ∨ e.session.state = .sendingParams →
    e.session.stdinSent = 0 ∧ e.session.gSent ≤ e.session.gatherBuf.length ∧
      e.received = e.session.gatherBuf.take e.session.gSent
  stdin : e.session.state = .sendingStdin → e.session.stdinSent < body.length ∧
    ∃ sent, Carries e.session.requestId (body.take e.session.stdinSent) sent ∧
      e.received = e.session.gatherBuf ++ sent

section Exchange

variable {body : List UInt8} {e : SessionExchange} {i : SessionInput}

/-- The next record. -/
theorem SessionExchange.Sending.record {s : HalmosFCGISession} {received : List UInt8}
    (h : SessionExchange.Sending body ⟨s, received⟩) (hstate : s.state = .sendingStdin) :
    ∃ r : Record, r.type = 5 ∧ r.content ≠ [] ∧ s.recordBuf = r.encode s.requestId ∧
      0 < s.chunkSize ∧
      body.take (s.stdinSent + s.chunkSize) = body.take s.stdinSent ++ r.content := by
  have hbody : s.postData.getD [] = body := h.body_eq
  have hlen : s.contentLength = body.length := h.length_eq
  have hlt : s.stdinSent < body.length := (h.stdin hstate).1
  have hsize : s.chunkSize = min (body.length - s.stdinSent) 32768 := by
    unfold HalmosFCGISession.chunkSize
    rw [hlen]
    split <;> omega
  have hdata : ((body.drop s.stdinSent).take s.chunkSize).length = s.chunkSize := by
    rw [List.length_take, List.length_drop]
    omega
  have hpad : (List.replicate ((8 - s.chunkSize % 8) % 8) (0 : UInt8)).length < 2 ^ 8 := by
    rw [List.length_replicate]
    omega
  refine ⟨stdinRecord ((body.drop s.stdinSent).take s.chunkSize)
    (List.replicate ((8 - s.chunkSize % 8) % 8) 0) (by omega) hpad, rfl, ?_, ?_, ?_, ?_⟩
  · show (body.drop s.stdinSent).take s.chunkSize ≠ []
    rw [← List.length_pos_iff, hdata]
    omega
  · unfold HalmosFCGISession.recordBuf Record.encode
    rw [hbody]
    dsimp only
    congr 1
    show _ = [1, 5, byteAt s.requestId 8, byteAt s.requestId 0,
      byteAt ((body.drop s.stdinSent).take s.chunkSize).length 8,
      byteAt ((body.drop s.stdinSent).take s.chunkSize).length 0,
      byteAt (List.replicate ((8 - s.chunkSize % 8) % 8) (0 : UInt8)).length 0, 0]
    rw [hdata, List.length_replicate]
  · omega
  · show _ = _ ++ (body.drop s.stdinSent).take s.chunkSize
    rw [List.take_add]

/-- The parameters go on behind what `send` took, and the body behind the last of them. -/
theorem session_advance {s : HalmosFCGISession} {received out : List UInt8}
    (hbody : s.postData.getD [] = body) (hlen : s.contentLength = body.length) (hne : body ≠ [])
    (hsends : s.state = .init ∨ s.state = .sendingParams) (hzero : s.stdinSent = 0)
    (hle : s.gSent + out.length ≤ s.gatherBuf.length)
    (htake : received ++ out = s.gatherBuf.take (s.gSent + out.length)) :
    SessionExchange.Sending body
        ⟨{ s with
            gSent := s.gSent + out.length
            state := if 0 < out.length ∧ s.gatherBuf.length ≤ s.gSent + out.length then
              (if 0 < s.contentLength ∧ s.postData.isSome then .sendingStdin else .receiving)
              else s.state },
          received ++ out⟩ ∧
      (if 0 < out.length ∧ s.gatherBuf.length ≤ s.gSent + out.length then
        (if 0 < s.contentLength ∧ s.postData.isSome then SessionState.sendingStdin
          else SessionState.receiving)
        else s.state) ≠ .receiving := by
  -- there is a body, so the state behind the parameters is `sendingStdin`
  have hpos : 0 < s.contentLength ∧ s.postData.isSome = true := by
    constructor
    · rw [hlen, List.length_pos_iff]
      exact hne
    · rw [Option.isSome_iff_ne_none]
      intro hnone
      rw [hnone, Option.getD_none] at hbody
      exact hne hbody.symm
  by_cases hdone : 0 < out.length ∧ s.gatherBuf.length ≤ s.gSent + out.length
  · have hall : received ++ out = s.gatherBuf := by
      rw [htake, List.take_of_length_le hdone.2]
    rw [if_pos hdone, if_pos hpos]
    refine ⟨⟨hbody, hlen, ?_, ?_⟩, ?_⟩
    · rintro (h | h) <;> cases h
    · intro _
      refine ⟨?_, [], ?_, ?_⟩
      · show s.stdinSent < body.length
        rw [hzero, List.length_pos_iff]
        exact hne
      · show Carries s.requestId (body.take s.stdinSent) []
        rw [hzero, List.take_zero]
        exact carries_nil
      · show received ++ out = s.gatherBuf ++ []
        rw [hall, List.append_nil]
    · intro h
      cases h
  · rw [if_neg hdone]
    refine ⟨⟨hbody, hlen, fun _ => ⟨hzero, hle, htake⟩, ?_⟩, ?_⟩
    · intro h
      rcases hsends with hs | hs <;> exact absurd (hs.symm.trans h) (by decide)
    · intro h
      rcases hsends with hs | hs <;> exact absurd (hs.symm.trans h) (by decide)

/-- A step that leaves the session and the backend alone. -/
theorem session_stay {s : HalmosFCGISession} {received : List UInt8}
    (h : SessionExchange.Sending body ⟨s, received⟩) :
    SessionExchange.Sending body ⟨s, received ++ []⟩ := by
  rw [List.append_nil]
  exact h

/-- Nothing is sent behind an error. -/
theorem session_error {s : HalmosFCGISession} {received : List UInt8} {state : SessionState}
    (hbody : s.postData.getD [] = body) (hlen : s.contentLength = body.length)
    (hstate : ¬ HalmosFCGISession.Sends { s with state := state }) :
    SessionExchange.Sending body ⟨{ s with state := state }, received⟩ := by
  refine ⟨hbody, hlen, ?_, ?_⟩
  · rintro (h | h)
    · exact absurd (Or.inl h) hstate
    · exact absurd (Or.inr (Or.inl h)) hstate
  · intro h
    exact absurd (Or.inr (Or.inr h)) hstate

/-- The parameters. -/
theorem session_paramsStep {s : HalmosFCGISession} {received : List UInt8}
    (h : SessionExchange.Sending body ⟨s, received⟩) (hne : body ≠ [])
    (hsends : s.state = .init ∨ s.state = .sendingParams) :
    SessionExchange.Sending body
        ⟨(sendingParamsStep i s).session, received ++ (sendingParamsStep i s).toBackend⟩ ∧
      (sendingParamsStep i s).session.state ≠ .receiving := by
  obtain ⟨hzero, hle, hreceived⟩ := h.params hsends
  have hsends' : s.state ≠ .receiving := by
    intro heq
    rcases hsends with hs | hs <;> exact absurd (hs.symm.trans heq) (by decide)
  unfold sendingParamsStep
  by_cases hout : i.pollOut = true
  · rw [if_pos hout]
    dsimp only
    cases hsend : i.send with
    | wouldBlock => exact ⟨session_stay h, hsends'⟩
    | failed =>
        refine ⟨session_error h.body_eq h.length_eq ?_, by intro heq; cases heq⟩
        rintro (heq | heq | heq) <;> cases heq
    | sent n =>
        have hpart : (SendResult.sent n).taken (s.gatherBuf.drop s.gSent)
            <+: s.gatherBuf.drop s.gSent := List.take_prefix _ _
        have hshort := hpart.length_le
        rw [List.length_drop] at hshort
        have hle' : s.gSent ≤ s.gatherBuf.length := hle
        apply session_advance h.body_eq h.length_eq hne hsends hzero
        · show s.gSent + ((SendResult.sent n).taken (s.gatherBuf.drop s.gSent)).length
            ≤ s.gatherBuf.length
          omega
        · rw [show received = s.gatherBuf.take s.gSent from hreceived, List.take_add]
          congr 1
          exact List.prefix_iff_eq_take.mp hpart
  · rw [if_neg hout]
    exact ⟨session_stay h, hsends'⟩

/-- A record is out. -/
theorem session_record {s : HalmosFCGISession} {received : List UInt8}
    (h : SessionExchange.Sending body ⟨s, received⟩) (hstate : s.state = .sendingStdin)
    (hout : i.pollOut = true) (hall : s.TakesAll i) :
    SessionExchange.Sending body
        ⟨(sendingStdinStep i s).session, received ++ (sendingStdinStep i s).toBackend⟩ ∧
      ((sendingStdinStep i s).session.state = .receiving →
        SessionExchange.Finished body
          ⟨(sendingStdinStep i s).session, received ++ (sendingStdinStep i s).toBackend⟩) := by
  have hbody : s.postData.getD [] = body := h.body_eq
  have hlen : s.contentLength = body.length := h.length_eq
  obtain ⟨r, htype, hne, hencode, hpos, htake⟩ := h.record hstate
  obtain ⟨hlt, sent, hsent, hreceived⟩ := h.stdin hstate
  have hlt' : s.stdinSent < body.length := hlt
  have hreceived' : received = s.gatherBuf ++ sent := hreceived
  have hcarries : Carries s.requestId (body.take (s.stdinSent + s.chunkSize))
      (sent ++ r.encode s.requestId) := by
    rw [htake]
    exact Carries.snoc hsent htype hne
  obtain ⟨hall₁, hall₂⟩ := hall
  rw [hencode] at hall₁
  obtain ⟨n, hsend, hn⟩ := sent_of_taken hall₁ (by intro heq; cases heq)
  rw [hsend] at hall₁
  unfold sendingStdinStep
  rw [if_pos hout, if_pos hpos, hencode, hsend]
  dsimp only
  rw [hall₁, if_pos hn]
  unfold sendingStdinEnd
  by_cases hend : s.contentLength ≤ s.stdinSent + s.chunkSize
  · -- The body is out: the empty record follows.
    have heof := hall₂ (by
      have hsize : s.chunkSize ≤ 32768 := by
        unfold HalmosFCGISession.chunkSize
        split <;> omega
      omega)
    rw [if_pos hend]
    refine ⟨session_error hbody hlen ?_, ?_⟩
    · rintro (heq | heq | heq) <;> cases heq
    · intro _
      refine ⟨sent ++ r.encode s.requestId ++ stdinEof s.requestId, ⟨_, ?_, rfl⟩, ?_⟩
      · rw [List.take_of_length_le (by omega)] at hcarries
        exact hcarries
      · show received ++ (r.encode s.requestId ++ i.sendEof.taken (stdinEof s.requestId))
          = s.gatherBuf ++ (sent ++ r.encode s.requestId ++ stdinEof s.requestId)
        rw [heof, hreceived']
        simp only [List.append_assoc]
  · rw [if_neg hend]
    refine ⟨⟨hbody, hlen, ?_, ?_⟩, ?_⟩
    · rintro (heq | heq) <;> exact absurd (hstate.symm.trans heq) (by decide)
    · intro _
      refine ⟨?_, sent ++ r.encode s.requestId, hcarries, ?_⟩
      · show s.stdinSent + s.chunkSize < body.length
        omega
      · show received ++ r.encode s.requestId = s.gatherBuf ++ (sent ++ r.encode s.requestId)
        rw [hreceived', List.append_assoc]
    · intro heq
      exact absurd (hstate.symm.trans heq) (by decide)

/-- A call that takes nothing leaves the session as it is, or is an error. -/
theorem sendingStdinStep_none {s : HalmosFCGISession} (hlt : s.stdinSent < s.contentLength)
    (hpos : 0 < s.chunkSize) (hout : i.pollOut = true) (hne : s.recordBuf ≠ [])
    (hnone : i.send.taken s.recordBuf = []) :
    (sendingStdinStep i s).toBackend = [] ∧
      ((sendingStdinStep i s).session = s ∨
        (sendingStdinStep i s).session = { s with state := .error }) := by
  have hmore : ¬ s.contentLength ≤ s.stdinSent := by omega
  unfold sendingStdinStep
  rw [if_pos hout, if_pos hpos, hnone]
  dsimp only
  cases hsend : i.send with
  | sent n =>
      have hzero : ¬ 0 < n := by
        intro hn
        rw [hsend, SendResult.taken, List.take_eq_nil_iff] at hnone
        rcases hnone with rfl | hnil
        · exact absurd hn (Nat.lt_irrefl 0)
        · exact hne hnil
      dsimp only
      rw [if_neg hzero]
      unfold sendingStdinEnd
      rw [if_neg hmore]
      exact ⟨rfl, Or.inl rfl⟩
  | wouldBlock =>
      dsimp only
      unfold sendingStdinEnd
      rw [if_neg hmore]
      exact ⟨rfl, Or.inl rfl⟩
  | failed => exact ⟨rfl, Or.inr rfl⟩

/-- The body. -/
theorem session_stdinStep {s : HalmosFCGISession} {received : List UInt8}
    (h : SessionExchange.Sending body ⟨s, received⟩) (hstate : s.state = .sendingStdin)
    (hwhole : SessionExchange.Whole ⟨s, received⟩ i) :
    SessionExchange.Sending body
        ⟨(sendingStdinStep i s).session, received ++ (sendingStdinStep i s).toBackend⟩ ∧
      ((sendingStdinStep i s).session.state = .receiving →
        SessionExchange.Finished body
          ⟨(sendingStdinStep i s).session, received ++ (sendingStdinStep i s).toBackend⟩) := by
  have hstay : SessionExchange.Sending body ⟨s, received ++ []⟩ ∧
      (s.state = .receiving → SessionExchange.Finished body ⟨s, received ++ []⟩) := by
    refine ⟨session_stay h, ?_⟩
    intro heq
    exact absurd (hstate.symm.trans heq) (by decide)
  by_cases hout : i.pollOut = true
  · rcases hwhole hstate hout with hall | hnone
    · exact session_record h hstate hout hall
    · obtain ⟨r, -, -, hencode, hpos, -⟩ := h.record hstate
      have hlt : s.stdinSent < s.contentLength := by
        rw [show s.contentLength = body.length from h.length_eq]
        exact (h.stdin hstate).1
      have hne : s.recordBuf ≠ [] := by
        rw [hencode]
        intro heq
        cases heq
      obtain ⟨hback, hs | hs⟩ := sendingStdinStep_none hlt hpos hout hne hnone
      · rw [hback, hs]
        exact hstay
      · rw [hback, hs]
        refine ⟨session_error h.body_eq h.length_eq ?_, ?_⟩
        · rintro (heq | heq | heq) <;> cases heq
        · intro heq
          cases heq
  · have hoff : sendingStdinStep i s = ⟨.continue, [], s⟩ := by
      unfold sendingStdinStep
      rw [if_neg hout]
    rw [hoff]
    exact hstay

theorem session_receivingStep {s : HalmosFCGISession} {received : List UInt8}
    (h : SessionExchange.Sending body ⟨s, received⟩) :
    SessionExchange.Sending body
      ⟨(receivingStep i s).session, received ++ (receivingStep i s).toBackend⟩ := by
  unfold receivingStep
  split
  · split
    · apply session_error h.body_eq h.length_eq
      rintro (heq | heq | heq) <;> cases heq
    · apply session_error h.body_eq h.length_eq
      rintro (heq | heq | heq) <;> cases heq
  · exact session_stay h

/-- A step of the exchange. -/
theorem session_step (h : e.Sending body) (hne : body ≠ []) (hwhole : e.Whole i) :
    (e.step i).Sending body ∧
      (e.session.Sends → (e.step i).session.state = .receiving → (e.step i).Finished body) := by
  obtain ⟨s, received⟩ := e
  unfold SessionExchange.step fcgiSessionHttp1Step
  dsimp only
  cases hstate : s.state with
  | init =>
      obtain ⟨hsending, hnot⟩ := session_paramsStep (i := i) h hne (Or.inl hstate)
      exact ⟨hsending, fun _ heq => absurd heq hnot⟩
  | sendingParams =>
      obtain ⟨hsending, hnot⟩ := session_paramsStep (i := i) h hne (Or.inr hstate)
      exact ⟨hsending, fun _ heq => absurd heq hnot⟩
  | sendingStdin =>
      obtain ⟨hsending, hfinished⟩ := session_stdinStep h hstate hwhole
      exact ⟨hsending, fun _ => hfinished⟩
  | receiving =>
      refine ⟨session_receivingStep h, ?_⟩
      rintro (heq | heq | heq) <;> exact absurd (hstate.symm.trans heq) (by decide)
  | finished =>
      refine ⟨session_stay h, ?_⟩
      rintro (heq | heq | heq) <;> exact absurd (hstate.symm.trans heq) (by decide)
  | error =>
      refine ⟨session_stay h, ?_⟩
      rintro (heq | heq | heq) <;> exact absurd (hstate.symm.trans heq) (by decide)

end Exchange

/-- **The body arrives.** If it is not empty and the calls take every record as a whole or not at
all, the backend has received the parameters and the body, and nothing else, when the session goes
on to receive. -/
theorem session_stdin_received {requestId : Nat} {params body : List UInt8}
    {postData : Option (List UInt8)} {is : List SessionInput} {i : SessionInput}
    (hbody : postData.getD [] = body) (hne : body ≠ [])
    (hrun : GuardedRun SessionExchange.Whole SessionExchange.step
      (SessionExchange.start requestId params postData body.length) (is ++ [i]))
    (hbefore : (runSteps SessionExchange.step
      (SessionExchange.start requestId params postData body.length) is).session.Sends)
    (hafter : (runSteps SessionExchange.step
      (SessionExchange.start requestId params postData body.length) (is ++ [i])).session.state
        = .receiving) :
    (runSteps SessionExchange.step
      (SessionExchange.start requestId params postData body.length) (is ++ [i])).Finished body := by
  have hstart : (SessionExchange.start requestId params postData body.length).Sending body := by
    refine ⟨hbody, rfl, fun _ => ⟨rfl, Nat.zero_le _, rfl⟩, ?_⟩
    intro heq
    cases heq
  rw [guardedRun_append] at hrun
  rw [runSteps_append] at hafter ⊢
  have hsending : (runSteps SessionExchange.step
      (SessionExchange.start requestId params postData body.length) is).Sending body := by
    apply GuardedRun.invariant _ hstart hrun.1
    intro e j h hwhole
    exact (session_step h hne hwhole).1
  exact (session_step hsending hne hrun.2.1).2 hbefore hafter

/-! ## Empty bodies -/

/-- A visit on which `send` takes everything. -/
def freeSessionInput : SessionInput where
  pollOut := true
  pollIn := false
  send := .sent 100000
  sendEof := .sent 8
  spliced := 0

theorem session_stdin_received_oneByte :
    (runSteps SessionExchange.step (SessionExchange.start 1 [] (some [7]) 1)
      ([freeSessionInput] ++ [freeSessionInput])).Finished [7] := by
  apply session_stdin_received rfl (by decide) _ _ rfl
  · refine ⟨?_, ?_, trivial⟩
    · intro h
      cases h
    · intro _ _
      exact Or.inl ⟨rfl, fun _ => rfl⟩
  · exact Or.inr (Or.inr rfl)

/-- A request without a body goes out without an STDIN record. -/
theorem session_stdin_missing :
    ∃ (body : List UInt8) (is : List SessionInput) (i : SessionInput),
      (runSteps SessionExchange.step (SessionExchange.start 1 [] (some body) body.length)
        is).session.Sends ∧
      (runSteps SessionExchange.step (SessionExchange.start 1 [] (some body) body.length)
        (is ++ [i])).session.state = .receiving ∧
      ¬ (runSteps SessionExchange.step (SessionExchange.start 1 [] (some body) body.length)
        (is ++ [i])).Finished body := by
  refine ⟨[], [], freeSessionInput, Or.inl rfl, rfl, ?_⟩
  rintro ⟨stdin, hstdin, hreceived⟩
  have hlen := hstdin.length_le.1
  have hreceived' : beginRequest 1 ++ [] = beginRequest 1 ++ stdin := hreceived
  have hnil : stdin = [] := (List.append_cancel_left hreceived').symm
  rw [hnil] at hlen
  exact absurd hlen (by decide)

end Halmos.Fcgi
