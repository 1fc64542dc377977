import Halmos.Fcgi.StreamAnswer
import Halmos.Http2.ResponseHeader

set_option autoImplicit false

/-! # The end of a FastCGI exchange on a stream

The FastCGI half of `http2_response_flush_active_streams`: it steps the exchange until the step
returns COMPLETED or ERROR, and then the stream is not active any more. Only a step that receives
the rest of the header block sends anything to the client (`flushFcgi_of_answers`), so every other
way to end leaves the client without an answer (`flushAll_terminated_iff`).
-/

namespace Halmos.Fcgi

open Http2

/-- What `route_fastcgi_backend` sets up when it has got a backend socket. -/
def routeFastcgiBackend (s : FcgiStream) : FcgiStream :=
  { s with
    isFcgiActive := true
    fcgiState := 0
    gatherBuf := []
    stdinSent := 0
    headerText := []
    headerSent := false }

/-- The visit of `http2_response_flush_active_streams` to a stream whose backend socket has an
event. -/
def flushFcgi (s : FcgiStream) (i : StepInput) : List Sent × FcgiStream :=
  if s.isFcgiActive then
    let r := fcgiSessionHttp2Step s i
    (r.sent, if r.status = .continue then r.stream else { r.stream with isFcgiActive := false })
  else ([], s)

/-- Visits, one after the other: what the client is sent, and the stream. -/
def flushAll : List StepInput → FcgiStream → List Sent × FcgiStream
  | [], s => ([], s)
  | i :: is, s =>
      let r := flushFcgi s i
      (r.1 ++ (flushAll is r.2).1, (flushAll is r.2).2)

/-! ## Frames -/

/-- The frame an event stands for. -/
def Sent.frameCall (streamId : Nat) : Sent → FrameCall
  | .headers raw flags => http2ResponseSendComplexHeader streamId raw flags
  | .frame c => c

/-- The frames that are sent; `http2_frame_send` drops those that are too long. -/
def framesOf (streamId : Nat) (sent : List Sent) : List FrameCall :=
  (sent.map (Sent.frameCall streamId)).filter (fun c => c.payload.length ≤ 16384)

/-- END_STREAM, on HEADERS or DATA. -/
def EndStream (c : FrameCall) : Prop := (c.type = 0x00 ∨ c.type = 0x01) ∧ c.flags &&& 0x01 = 0x01

/-- The client knows the end of the answer: END_STREAM behind HEADERS, or RST_STREAM. -/
def Terminated (frames : List FrameCall) : Prop :=
  (∃ pre e post, frames = pre ++ e :: post ∧ EndStream e ∧ ∃ h ∈ pre ++ [e], h.type = 0x01) ∨
    ∃ c ∈ frames, c.type = 0x03

theorem not_terminated_nil : ¬ Terminated [] := by
  rintro (⟨pre, e, post, heq, -⟩ | ⟨c, hc, -⟩)
  · exact absurd (congrArg List.length heq) (by simp)
  · cases hc

/-- An answer is terminated exactly if its header block fits into a frame. -/
theorem terminated_answerOf (streamId : Nat) (s : FcgiStream) (head body : List UInt8) :
    Terminated (framesOf streamId (answerOf s head body))
      ↔ (complexHeaderBlock head).length ≤ 16384 := by
  obtain ⟨-, hdata⟩ := http2ResponseSendData_body s.streamId s.state body true
  obtain ⟨e, he, hflags⟩ := http2ResponseSendData_endStream s.streamId s.state body
  -- a DATA frame always fits, so the only frame that may be dropped is HEADERS
  have hframes : framesOf streamId (answerOf s head body)
      = (if (complexHeaderBlock head).length ≤ 16384 then
          [http2ResponseSendComplexHeader streamId head 0x04] else [])
        ++ (http2ResponseSendData s.streamId s.state body true).1 := by
    have hkeep : (http2ResponseSendData s.streamId s.state body true).1.filter
        (fun c => c.payload.length ≤ 16384)
        = (http2ResponseSendData s.streamId s.state body true).1 := by
      rw [List.filter_eq_self]
      intro c hc
      exact decide_eq_true (hdata c hc).2.2
    have hid : (http2ResponseSendData s.streamId s.state body true).1.map
        (Sent.frameCall streamId ∘ Sent.frame)
        = (http2ResponseSendData s.streamId s.state body true).1 := List.map_id _
    unfold framesOf answerOf
    rw [List.map_cons, List.filter_cons, List.map_map, hid, hkeep]
    by_cases hfit : (complexHeaderBlock head).length ≤ 16384
    · rw [if_pos hfit]
      exact if_pos (decide_eq_true hfit)
    · rw [if_neg hfit]
      exact if_neg (fun h => hfit (of_decide_eq_true h))
  rw [hframes]
  constructor
  · intro hterm
    by_contra hbig
    rw [if_neg hbig, List.nil_append] at hterm
    rcases hterm with ⟨pre, c, post, heq, -, h, hmem, htype⟩ | ⟨c, hmem, htype⟩
    · have hin : h ∈ (http2ResponseSendData s.streamId s.state body true).1 := by
        rw [heq, List.append_cons]
        exact List.mem_append_left post hmem
      rw [(hdata h hin).1] at htype
      exact absurd htype (by decide)
    · rw [(hdata c hmem).1] at htype
      exact absurd htype (by decide)
  · intro hfit
    rw [if_pos hfit]
    obtain ⟨pre, post, heq⟩ := List.append_of_mem he
    refine Or.inl ⟨http2ResponseSendComplexHeader streamId head 0x04 :: pre, e, post, ?_, ?_, ?_⟩
    · rw [heq]
      rfl
    · refine ⟨Or.inl (hdata e he).1, ?_⟩
      rw [hflags]
      rfl
    · exact ⟨_, List.mem_append_left _ List.mem_cons_self, rfl⟩

/-! ## One visit -/

/-- The exchange is on, and the header block is not complete. -/
structure Waiting (s : FcgiStream) : Prop where
  active : s.isFcgiActive = true
  headerSent : s.headerSent = false
  headless : Headless s.headerText
  length_le : s.headerText.length ≤ 65535
  requested : s.fcgiState = 0 ∨
    (s.fcgiState ≤ 3 ∧ ∃ params, s.gatherBuf = beginRequest s.streamId ++ params)

/-- The visit receives the rest of the header block, whose text is `head`. -/
def Answers (s : FcgiStream) (i : StepInput) (head body : List UInt8) : Prop :=
  s.fcgiState = 3 ∧ i.pollIn = true ∧ ∃ chunk, i.recv = .data chunk ∧
    splitAfter blankLine ((s.headerText ++ pieceText chunk).take 65535)
      = some (head ++ blankLine, body) ∧ 0 ∉ head ++ blankLine

theorem waiting_routed (s : FcgiStream) : Waiting (routeFastcgiBackend s) :=
  ⟨rfl, rfl, rfl, Nat.zero_le _, Or.inl rfl⟩

/-- A request in the buffer: states 1 to 3. -/
def Requested (s : FcgiStream) : Prop := ∃ params, s.gatherBuf = beginRequest s.streamId ++ params

theorem Waiting.sending {s : FcgiStream} (h : Waiting s) (hreq : Requested s) {state : Nat}
    (hstate : state ≤ 3) (gSent stdinSent : Nat) :
    Waiting { s with fcgiState := state, gSent := gSent, stdinSent := stdinSent } :=
  ⟨h.active, h.headerSent, h.headless, h.length_le, Or.inr ⟨hstate, hreq⟩⟩

/-- A step that sends nothing, and ends the exchange or leaves it waiting. -/
def Quiet (r : StepResult) : Prop := r.sent = [] ∧ (r.status = .continue → Waiting r.stream)

theorem Quiet.error {out : List UInt8} {s : FcgiStream} : Quiet ⟨.error, [], out, s⟩ :=
  ⟨rfl, fun h => by cases h⟩

theorem paramsStep_quiet (i : StepInput) {s : FcgiStream} (h : Waiting s) (hreq : Requested s) :
    Quiet (paramsStep i s) := by
  unfold paramsStep
  dsimp only
  split
  · split
    · refine ⟨rfl, fun _ => h.sending hreq ?_ _ s.stdinSent⟩
      split_ifs <;> decide
    · exact ⟨rfl, fun _ => h⟩
    · exact Quiet.error
  · exact ⟨rfl, fun _ => h⟩

theorem stdinEnd_quiet (i : StepInput) (out : List UInt8) {s : FcgiStream} (h : Waiting s)
    (hreq : Requested s) : Quiet (stdinEnd i out s) := by
  unfold stdinEnd
  split
  · exact ⟨rfl, fun _ => h.sending hreq (Nat.le_refl 3) s.gSent s.stdinSent⟩
  · exact ⟨rfl, fun _ => h⟩

theorem stdinStep_quiet (i : StepInput) {s : FcgiStream} (h : Waiting s) (hreq : Requested s)
    (hstate : s.fcgiState ≤ 3) : Quiet (stdinStep i s) := by
  unfold stdinStep
  dsimp only
  split
  · split
    · split
      · exact stdinEnd_quiet i _ (h.sending hreq hstate s.gSent _) hreq
      · exact Quiet.error
      · exact ⟨rfl, fun _ => h⟩
      · exact Quiet.error
      · exact ⟨rfl, fun _ => h⟩
    · exact stdinEnd_quiet i [] h hreq
  · exact ⟨rfl, fun _ => h⟩

/-- A stream that waits for the rest of the header block is one that has read a part of it. -/
theorem Waiting.eq_reading {s : FcgiStream} (h : Waiting s) (hstate : s.fcgiState = 3) :
    ∃ params, s = s.reading params s.headerText := by
  rcases h.requested with h0 | ⟨-, params, hbuf⟩
  · omega
  · refine ⟨params, ?_⟩
    show s = ⟨s.streamId, s.state, s.contentLength, s.bodyData, true, 3,
      beginRequest s.streamId ++ params, s.gSent, s.stdinSent, s.headerText, false⟩
    rw [← hbuf, ← h.active, ← hstate, ← h.headerSent]

theorem step_receives {s : FcgiStream} (i : StepInput) (hactive : s.isFcgiActive = true)
    (hstate : s.fcgiState = 3) : fcgiSessionHttp2Step s i = receiveStep i s := by
  unfold fcgiSessionHttp2Step
  rw [if_neg (by rw [hactive]; decide), hstate]
  rfl

theorem step_received {s : FcgiStream} {i : StepInput} {chunk : List UInt8}
    (hactive : s.isFcgiActive = true) (hstate : s.fcgiState = 3) (hin : i.pollIn = true)
    (hrecv : i.recv = .data chunk) :
    fcgiSessionHttp2Step s i = fcgiSessionHttp2Step s (received chunk) := by
  rw [step_receives i hactive hstate, step_receives _ hactive hstate]
  unfold receiveStep
  rw [hin, hrecv]
  rfl

/-- **The answer** goes out in the visit that receives the rest of the header block. -/
theorem flushFcgi_of_answers {s : FcgiStream} {i : StepInput} {head body : List UInt8}
    (h : Waiting s) (ha : Answers s i head body) :
    (flushFcgi s i).1 = answerOf s head body ∧ (flushFcgi s i).2.isFcgiActive = false := by
  obtain ⟨hstate, hin, chunk, hrecv, hsplit, hzero⟩ := ha
  obtain ⟨params, heq⟩ := h.eq_reading hstate
  have hstep := step_found s params chunk h.length_le hsplit hzero
  rw [← heq, ← step_received h.active hstate hin hrecv] at hstep
  obtain ⟨hsent, hdone, hstatus⟩ := hstep
  unfold flushFcgi
  rw [if_pos h.active]
  refine ⟨hsent, ?_⟩
  dsimp only
  rw [if_neg (by rw [hstatus]; decide)]

theorem receiveStep_quiet {s : FcgiStream} {i : StepInput} (h : Waiting s)
    (hstate : s.fcgiState = 3) (hno : ∀ head body, ¬ Answers s i head body) :
    Quiet (fcgiSessionHttp2Step s i) := by
  by_cases hdata : i.pollIn = true ∧ ∃ chunk, i.recv = .data chunk
  · obtain ⟨hin, chunk, hrecv⟩ := hdata
    have hnext : Headless ((s.headerText ++ pieceText chunk).take 65535) := by
      by_contra hfound
      obtain ⟨head, body, hsplit, hzero⟩ := not_headless_iff.mp hfound
      obtain ⟨before, rfl, -⟩ := splitAfter_eq_some hsplit
      exact hno before body ⟨hstate, hin, chunk, hrecv, hsplit, hzero⟩
    obtain ⟨params, heq⟩ := h.eq_reading hstate
    have hstep := step_headless s params chunk h.length_le hnext
    rw [← heq, ← step_received h.active hstate hin hrecv] at hstep
    rw [hstep]
    exact ⟨rfl, fun _ => ⟨rfl, rfl, hnext, List.length_take_le _ _,
      Or.inr ⟨Nat.le_refl 3, params, rfl⟩⟩⟩
  · rw [step_receives i h.active hstate]
    unfold receiveStep
    split
    · next hin =>
        split
        · next chunk hrecv => exact absurd ⟨hin, chunk, hrecv⟩ hdata
        · exact ⟨rfl, fun _ => h⟩
        · exact Quiet.error
        · exact Quiet.error
    · exact ⟨rfl, fun _ => h⟩

/-- Every other visit sends nothing. -/
theorem flushFcgi_quiet {s : FcgiStream} {i : StepInput} (h : Waiting s)
    (hno : ∀ head body, ¬ Answers s i head body) :
    (flushFcgi s i).1 = []
      ∧ (Waiting (flushFcgi s i).2 ∨ (flushFcgi s i).2.isFcgiActive = false) := by
  have hinit : Waiting (initStep i.params s) :=
    ⟨h.active, h.headerSent, h.headless, h.length_le,
      Or.inr ⟨show 1 ≤ 3 by decide, i.params, rfl⟩⟩
  have hquiet : Quiet (fcgiSessionHttp2Step s i) := by
    by_cases hstate : s.fcgiState = 3
    · exact receiveStep_quiet h hstate hno
    · unfold fcgiSessionHttp2Step
      rw [if_neg (by rw [h.active]; decide)]
      rcases h.requested with h0 | ⟨hle, hreq⟩
      · rw [h0]
        exact paramsStep_quiet i hinit ⟨i.params, rfl⟩
      · split
        · exact paramsStep_quiet i hinit ⟨i.params, rfl⟩
        · exact paramsStep_quiet i h hreq
        · exact stdinStep_quiet i h hreq hle
        · next h3 => exact absurd h3 hstate
        · exact ⟨rfl, fun _ => h⟩
  obtain ⟨hsent, hwait⟩ := hquiet
  unfold flushFcgi
  rw [if_pos h.active]
  refine ⟨hsent, ?_⟩
  dsimp only
  split
  · next hcont => exact Or.inl (hwait hcont)
  · exact Or.inr rfl

/-! ## All visits -/

theorem flushAll_append (is js : List StepInput) (s : FcgiStream) :
    flushAll (is ++ js) s
      = ((flushAll is s).1 ++ (flushAll js (flushAll is s).2).1,
        (flushAll js (flushAll is s).2).2) := by
  induction is generalizing s with
  | nil => rfl
  | cons i is ih => rw [List.cons_append, flushAll, flushAll, ih, List.append_assoc]

/-- A stream that is not active is not visited. -/
theorem flushAll_inactive (is : List StepInput) {s : FcgiStream} (h : s.isFcgiActive = false) :
    flushAll is s = ([], s) := by
  have hvisit : ∀ i, flushFcgi s i = ([], s) := by
    intro i
    unfold flushFcgi
    rw [if_neg (by rw [h]; decide)]
  induction is with
  | nil => rfl
  | cons i is ih => rw [flushAll, hvisit, ih, List.append_nil]

/-- As long as the exchange goes on, nothing has been sent. -/
theorem flushAll_active {is : List StepInput} {s : FcgiStream} (h : Waiting s)
    (hactive : (flushAll is s).2.isFcgiActive = true) :
    (flushAll is s).1 = [] ∧ Waiting (flushAll is s).2 := by
  induction is using List.reverseRecOn with
  | nil => exact ⟨rfl, h⟩
  | append_singleton is i ih =>
      rw [flushAll_append] at hactive ⊢
      have hbefore : (flushAll is s).2.isFcgiActive = true := by
        by_contra hno
        rw [flushAll_inactive [i] (Bool.eq_false_iff.mpr hno)] at hactive
        exact hno hactive
      obtain ⟨hsent, hwait⟩ := ih hbefore
      have hno : ∀ head body, ¬ Answers (flushAll is s).2 i head body := by
        intro head body ha
        have hend := (flushFcgi_of_answers hwait ha).2
        have hsame : (flushAll [i] (flushAll is s).2).2 = (flushFcgi (flushAll is s).2 i).2 := rfl
        rw [hsame, hend] at hactive
        cases hactive
      obtain ⟨hquiet, hnext⟩ := flushFcgi_quiet hwait hno
      have hone : flushAll [i] (flushAll is s).2 = flushFcgi (flushAll is s).2 i :=
        Prod.ext (List.append_nil _) rfl
      rw [hone] at hactive ⊢
      refine ⟨by rw [hsent, hquiet]; rfl, ?_⟩
      rcases hnext with hwait | hoff
      · exact hwait
      · rw [hoff] at hactive
        cases hactive

/-- The visit in which the exchange ends. -/
theorem exists_ending {is : List StepInput} {s : FcgiStream} (h : s.isFcgiActive = true)
    (hend : (flushAll is s).2.isFcgiActive = false) :
    ∃ pre i post, is = pre ++ i :: post ∧ (flushAll pre s).2.isFcgiActive = true ∧
      (flushFcgi (flushAll pre s).2 i).2.isFcgiActive = false := by
  induction is using List.reverseRecOn with
  | nil =>
      rw [show (flushAll [] s).2 = s from rfl, h] at hend
      cases hend
  | append_singleton is i ih =>
      by_cases hbefore : (flushAll is s).2.isFcgiActive = true
      · rw [flushAll_append] at hend
        exact ⟨is, i, [], rfl, hbefore, hend⟩
      · obtain ⟨pre, j, post, rfl, hpre, hj⟩ := ih (Bool.eq_false_iff.mpr hbefore)
        exact ⟨pre, j, post ++ [i], by rw [List.append_assoc]; rfl, hpre, hj⟩

/-- The exchange ends with the bytes that complete the header block, and that block fits into a
frame. -/
def AnswerArrives (s : FcgiStream) (is : List StepInput) : Prop :=
  ∃ pre i post head body, is = pre ++ i :: post ∧ (flushAll pre s).2.isFcgiActive = true ∧
    Answers (flushAll pre s).2 i head body ∧ (complexHeaderBlock head).length ≤ 16384

/-- **How an exchange ends for the client.** When the exchange is over, the client has been sent a
terminated answer exactly if it ended with a header block that fits into a frame. -/
theorem flushAll_terminated_iff (s : FcgiStream) (is : List StepInput)
    (hend : (flushAll is (routeFastcgiBackend s)).2.isFcgiActive = false) :
    Terminated (framesOf s.streamId (flushAll is (routeFastcgiBackend s)).1)
      ↔ AnswerArrives (routeFastcgiBackend s) is := by
  have hwait := waiting_routed s
  -- what the client is sent is what the visit sends in which the exchange ends
  have hsent : ∀ {pre : List StepInput} {i : StepInput} {post : List StepInput},
      is = pre ++ i :: post → (flushAll pre (routeFastcgiBackend s)).2.isFcgiActive = true →
      (flushFcgi (flushAll pre (routeFastcgiBackend s)).2 i).2.isFcgiActive = false →
      (flushAll is (routeFastcgiBackend s)).1
        = (flushFcgi (flushAll pre (routeFastcgiBackend s)).2 i).1 := by
    intro pre i post his hpre hoff
    rw [his, flushAll_append, (flushAll_active hwait hpre).1, flushAll,
      flushAll_inactive post hoff]
    exact List.append_nil _
  constructor
  · intro hterm
    obtain ⟨pre, i, post, his, hpre, hoff⟩ := exists_ending hwait.active hend
    obtain ⟨-, hbefore⟩ := flushAll_active hwait hpre
    rw [hsent his hpre hoff] at hterm
    by_cases hno : ∀ head body, ¬ Answers (flushAll pre (routeFastcgiBackend s)).2 i head body
    · rw [(flushFcgi_quiet hbefore hno).1] at hterm
      exact absurd hterm not_terminated_nil
    · push Not at hno
      obtain ⟨head, body, ha⟩ := hno
      rw [(flushFcgi_of_answers hbefore ha).1, terminated_answerOf] at hterm
      exact ⟨pre, i, post, head, body, his, hpre, ha, hterm⟩
  · rintro ⟨pre, i, post, head, body, his, hpre, ha, hfit⟩
    obtain ⟨-, hbefore⟩ := flushAll_active hwait hpre
    obtain ⟨hanswer, hoff⟩ := flushFcgi_of_answers hbefore ha
    rw [hsent his hpre hoff, hanswer, terminated_answerOf]
    exact hfit

/-- The whole request goes out. -/
def sendAll : StepInput := ⟨true, false, [], .sent 16, .wouldBlock, .wouldBlock, .wouldBlock⟩

/-- The inputs of an exchange without parameters and body whose one `recv` returns `r`. -/
def oneRead (r : RecvResult) : List StepInput :=
  [sendAll, { sendAll with pollOut := false, pollIn := true, recv := r }]

theorem pieceText_hello : pieceText helloResponse.bytes = ascii "A: b\r\n\r\nhello" := by
  have hend : pieceText (endRecord.encode 1) = [] := by
    rw [pieceText, if_neg (by decide)]
    rfl
  rw [pieceText, if_neg (by decide)]
  show (helloResponse.bytes.drop 8).take 13 ++ pieceText (endRecord.encode 1) = _
  rw [hend]
  decide

/-- The whole answer at once. -/
theorem flushAll_terminated_hello :
    Terminated (framesOf 1 (flushAll (oneRead (.data helloResponse.bytes))
        (routeFastcgiBackend (bareStream 1))).1)
      ↔ AnswerArrives (routeFastcgiBackend (bareStream 1)) (oneRead (.data helloResponse.bytes)) :=
  flushAll_terminated_iff (bareStream 1) (oneRead (.data helloResponse.bytes)) (by
    have hwait : Waiting (flushAll [sendAll] (routeFastcgiBackend (bareStream 1))).2 :=
      (flushAll_active (waiting_routed _) rfl).2
    have hsplit : splitAfter blankLine (([] ++ pieceText helloResponse.bytes).take 65535)
        = some (ascii "A: b" ++ blankLine, ascii "hello") := by
      rw [pieceText_hello]
      decide
    have ha : Answers (flushAll [sendAll] (routeFastcgiBackend (bareStream 1))).2
        { sendAll with pollOut := false, pollIn := true, recv := .data helloResponse.bytes }
        (ascii "A: b") (ascii "hello") := ⟨rfl, rfl, _, rfl, hsplit, by decide⟩
    exact (flushFcgi_of_answers hwait ha).2)

/-- The backend closes the connection: the client is sent nothing. -/
theorem flushAll_terminated_fails :
    (flushAll (oneRead .eof) (routeFastcgiBackend (bareStream 1))).2.isFcgiActive = false ∧
      ¬ Terminated (framesOf 1 (flushAll (oneRead .eof) (routeFastcgiBackend (bareStream 1))).1) := by
  have hrun : flushAll (oneRead .eof) (routeFastcgiBackend (bareStream 1))
      = ([], (flushAll (oneRead .eof) (routeFastcgiBackend (bareStream 1))).2) := rfl
  refine ⟨rfl, ?_⟩
  rw [hrun]
  exact not_terminated_nil

end Halmos.Fcgi
