import Halmos.Http1.Backend

set_option autoImplicit false

/-! # How many attempts an exchange takes

A backend that is always ready and takes everything needs one attempt for the parameters, one for
each STDIN record of at most 32768 bytes and one for the answer. The loop makes 100, so a body of
more than 98 records is never answered (`fcgiProcessing_completed_iff`).
-/

namespace Halmos.Http1

open Fcgi (ClientSock HalmosFCGISession Status fcgiSessionHttp1Step fcgiSessionHttp1Create)
open Fcgi.Delivery (Link)

/-- The backend is ready at once, and takes everything it is sent. -/
def Attempt.Accepts (s : HalmosFCGISession) (a : Attempt) : Prop :=
  a.poll = .ready true false ∧ ∃ n, a.send = .sent n ∧ s.gatherBuf.length ≤ n ∧ 32784 ≤ n

/-- The number of STDIN records that `n` bytes make. -/
def records (n : Nat) : Nat := (n + 32767) / 32768

/-- The backend has an answer, and the client gets it. -/
def Exchange.Answers (l : Link) (x : Exchange) : Prop :=
  ∃ st, Fcgi.Delivery.fcgiIoSpliceResponse l x.client x.answer = some (0, st)

variable {l : Link} {attempts : List Attempt} {x : Exchange} {a : Attempt}

/-! ## One attempt -/

/-- The loop goes on behind a step that has not been the last. -/
theorem fcgiLoop_continue {x' : Exchange} (hpoll : a.poll = .ready true false)
    (hstep : x.step l a true = some (.continue, x')) (hstate : x'.session.state ≠ .finished)
    (status : Status) :
    fcgiLoop l (a :: attempts) status x = fcgiLoop l attempts .continue x' := by
  rw [fcgiLoop, hpoll]
  simp [hstep, hstate]

theorem step_params (ha : a.Accepts x.session) (hstate : x.session.state = .init)
    (hzero : x.session.gSent = 0) (hpos : 0 < x.session.gatherBuf.length) :
    x.step l a true = some (.continue, { x with session := { x.session with
      gSent := x.session.gatherBuf.length
      state := if 0 < x.session.contentLength ∧ x.session.postData.isSome then .sendingStdin
        else .receiving } }) := by
  obtain ⟨-, n, hsend, hlen, -⟩ := ha
  have htaken : (Fcgi.SendResult.sent n).taken (x.session.gatherBuf.drop 0)
      = x.session.gatherBuf := by
    rw [List.drop_zero]
    exact List.take_of_length_le hlen
  unfold Exchange.step
  rw [if_neg (by simp [hstate])]
  simp only [fcgiSessionHttp1Step, hstate, Fcgi.sendingParamsStep, hsend, hzero, htaken, if_true]
  simp [hpos]

theorem step_stdin (ha : a.Accepts x.session) (hstate : x.session.state = .sendingStdin)
    (hlt : x.session.stdinSent < x.session.contentLength) :
    x.step l a true = some (.continue, { x with session := { x.session with
      stdinSent := x.session.stdinSent + x.session.chunkSize
      state := if x.session.contentLength ≤ x.session.stdinSent + x.session.chunkSize
        then .receiving else .sendingStdin } }) := by
  obtain ⟨-, n, hsend, -, hlen⟩ := ha
  have hchunk : 0 < x.session.chunkSize := by
    unfold HalmosFCGISession.chunkSize
    split <;> omega
  have hn : 0 < n := by omega
  unfold Exchange.step
  rw [if_neg (by simp [hstate])]
  simp only [fcgiSessionHttp1Step, hstate, Fcgi.sendingStdinStep, hsend, hchunk, hn, if_true,
    Fcgi.sendingStdinEnd]
  split <;> simp

/-- The answer is the end. -/
theorem fcgiLoop_answer (ha : a.Accepts x.session) (hstate : x.session.state = .receiving)
    (hanswer : x.Answers l) (attempts : List Attempt) (status : Status) :
    ∃ x', fcgiLoop l (a :: attempts) status x = some (.completed, x') := by
  obtain ⟨st, hsplice⟩ := hanswer
  have hstep : x.step l a true = some (.completed,
      ⟨{ x.session with state := .finished }, st.client, st.sock⟩) := by
    unfold Exchange.step
    rw [if_pos ⟨hstate, rfl⟩, hsplice]
    simp [fcgiSessionHttp1Step, hstate, Fcgi.receivingStep]
  rw [fcgiLoop, ha.1]
  simp [hstep]

/-! ## The loop -/

/-- Behind the parameters: one attempt for each record that is left, and one for the answer. -/
theorem fcgiLoop_records (hall : ∀ a ∈ attempts, a.Accepts x.session) (hanswer : x.Answers l)
    (hstate : x.session.state = (if x.session.contentLength ≤ x.session.stdinSent then .receiving
      else .sendingStdin)) :
    ∃ status x', fcgiLoop l attempts .continue x = some (status, x') ∧
      (status = .completed ↔
        records (x.session.contentLength - x.session.stdinSent) < attempts.length) := by
  induction attempts generalizing x with
  | nil => exact ⟨.continue, x, rfl, by simp⟩
  | cons a attempts ih =>
      have ha := hall a List.mem_cons_self
      by_cases hle : x.session.contentLength ≤ x.session.stdinSent
      · rw [if_pos hle] at hstate
        obtain ⟨x', hrun⟩ := fcgiLoop_answer ha hstate hanswer attempts .continue
        have hzero : records (x.session.contentLength - x.session.stdinSent) = 0 := by
          rw [records, Nat.sub_eq_zero_of_le hle]
        exact ⟨.completed, x', hrun, by simp [hzero]⟩
      · rw [if_neg hle] at hstate
        have hlt := not_le.mp hle
        obtain ⟨x', hx', hstep⟩ : ∃ x', _ = x' ∧ x.step l a true = some (.continue, x') :=
          ⟨_, rfl, step_stdin ha hstate hlt⟩
        have hchunk : x.session.chunkSize
            = min (x.session.contentLength - x.session.stdinSent) 32768 := by
          unfold HalmosFCGISession.chunkSize
          split <;> omega
        have hnext : x'.session.state = (if x'.session.contentLength ≤ x'.session.stdinSent then
            .receiving else .sendingStdin) := by
          rw [← hx']
        have hnot : x'.session.state ≠ .finished := by
          rw [hnext]
          split <;> simp
        have hall' : ∀ b ∈ attempts, b.Accepts x'.session := by
          intro b hb
          rw [← hx']
          exact hall b (List.mem_cons_of_mem a hb)
        have hanswer' : x'.Answers l := by
          rw [← hx']
          exact hanswer
        obtain ⟨status, x'', hrun, hiff⟩ := ih hall' hanswer' hnext
        refine ⟨status, x'', ?_, ?_⟩
        · rw [fcgiLoop_continue ha.1 hstep hnot, hrun]
        · have hsent : x'.session.contentLength = x.session.contentLength ∧
              x'.session.stdinSent = x.session.stdinSent + x.session.chunkSize := by
            rw [← hx']
            exact ⟨rfl, rfl⟩
          -- one record less is left
          have hrecords : records (x.session.contentLength - x.session.stdinSent)
              = records (x'.session.contentLength - x'.session.stdinSent) + 1 := by
            rw [hsent.1, hsent.2, records, records]
            omega
          rw [hiff, hrecords, List.length_cons]
          omega

/-- From the start: one attempt more, for the parameters. -/
theorem fcgiLoop_start (attempts : List Attempt) (fd : Int) (requestId : Nat)
    (params body : List UInt8) (contentLength : Nat) (client : ClientSock) (answer : Fcgi.BackendSock)
    (hx : x = ⟨fcgiSessionHttp1Create fd requestId params (some body) contentLength, client, answer⟩)
    (hall : ∀ a ∈ attempts, a.Accepts x.session) (hanswer : x.Answers l) :
    ∃ status x', fcgiLoop l attempts .continue x = some (status, x') ∧
      (status = .completed ↔ records contentLength + 1 < attempts.length) := by
  cases attempts with
  | nil => exact ⟨.continue, x, rfl, by simp⟩
  | cons a attempts =>
      have ha := hall a List.mem_cons_self
      have hpos : 0 < x.session.gatherBuf.length := by
        rw [hx]
        simp [fcgiSessionHttp1Create, Fcgi.beginRequest]
      obtain ⟨x', hx', hstep⟩ : ∃ x', _ = x' ∧ x.step l a true = some (.continue, x') :=
        ⟨_, rfl, step_params ha (by rw [hx]; rfl) (by rw [hx]; rfl) hpos⟩
      have hlength : x'.session.contentLength = contentLength ∧ x'.session.stdinSent = 0 := by
        rw [← hx', hx]
        exact ⟨rfl, rfl⟩
      have hnext : x'.session.state = (if x'.session.contentLength ≤ x'.session.stdinSent then
          .receiving else .sendingStdin) := by
        rw [hlength.1, hlength.2, ← hx', hx]
        by_cases hzero : contentLength = 0 <;>
          simp [fcgiSessionHttp1Create, hzero, Nat.pos_iff_ne_zero]
      have hnot : x'.session.state ≠ .finished := by
        rw [hnext]
        split <;> simp
      have hall' : ∀ b ∈ attempts, b.Accepts x'.session := by
        intro b hb
        rw [← hx']
        exact hall b (List.mem_cons_of_mem a hb)
      have hanswer' : x'.Answers l := by
        rw [← hx']
        exact hanswer
      obtain ⟨status, x'', hrun, hiff⟩ := fcgiLoop_records hall' hanswer' hnext
      refine ⟨status, x'', ?_, ?_⟩
      · rw [fcgiLoop_continue ha.1 hstep hnot, hrun]
      · rw [hiff, hlength.1, hlength.2, List.length_cons, Nat.sub_zero]
        omega

/-- **A request is answered in 100 attempts** exactly when its body is at most 98 STDIN records
long. -/
theorem fcgiProcessing_completed_iff (l : Link) (isHeaderSent : Bool) (fd : Int) (requestId : Nat)
    (params body : List UInt8) (contentLength : Nat) (client : ClientSock)
    (answer : Fcgi.BackendSock) (attempts : List Attempt) (x : Exchange)
    (hx : x = ⟨fcgiSessionHttp1Create fd requestId params (some body) contentLength, client, answer⟩)
    (hmany : maxAttempts ≤ attempts.length) (hall : ∀ a ∈ attempts, a.Accepts x.session)
    (hanswer : x.Answers l) :
    ∃ p, fcgiProcessing l isHeaderSent attempts x = some p ∧
      (p.status = .completed ↔ contentLength ≤ 98 * 32768) := by
  have hlen : (attempts.take maxAttempts).length = 100 := List.length_take_of_le hmany
  obtain ⟨status, x', hrun, hiff⟩ := fcgiLoop_start (attempts.take maxAttempts) fd requestId params
    body contentLength client answer hx (fun a ha => hall a (List.mem_of_mem_take ha)) hanswer
  unfold fcgiProcessing
  rw [hrun]
  refine ⟨_, rfl, ?_⟩
  rw [hiff, hlen, records]
  omega

/-- A plain client and a backend that answers with a few bytes. -/
def plainLink : Link := ⟨false, true, true, false⟩

/-- A request with a body of `n` bytes. -/
def upload (n : Nat) : Exchange where
  session := fcgiSessionHttp1Create 5 1 [] (some (List.replicate n 0)) n
  client := ⟨[], []⟩
  answer := ⟨[], Fcgi.helloResponse.bytes, []⟩

/-- A backend that is always ready. -/
def readyAttempts : List Attempt := List.replicate 100 ⟨.ready true false, .sent 32784, .sent 8⟩

theorem readyAttempts_accept (n : Nat) : ∀ a ∈ readyAttempts, a.Accepts (upload n).session := by
  intro a ha
  rw [readyAttempts, List.mem_replicate] at ha
  rw [ha.2]
  refine ⟨rfl, 32784, rfl, ?_, le_rfl⟩
  have hlen : (upload n).session.gatherBuf.length = 16 := rfl
  omega

theorem upload_answers (n : Nat) : (upload n).Answers plainLink := by
  have hsplice : (Fcgi.fcgiIoSpliceResponse true true ⟨[], Fcgi.helloResponse.bytes, []⟩).map
      Prod.fst = some 0 := by decide +kernel
  obtain ⟨⟨ret, st⟩, hrun, rfl⟩ := Option.map_eq_some_iff.mp hsplice
  refine ⟨.of st, ?_⟩
  show Fcgi.Delivery.fcgiIoSpliceResponse plainLink ⟨[], []⟩ ⟨[], Fcgi.helloResponse.bytes, []⟩ = _
  rw [Fcgi.Delivery.fcgiIoSpliceResponse_eq rfl]
  show (Fcgi.fcgiIoSpliceResponse true true ⟨[], Fcgi.helloResponse.bytes, []⟩).map _ = _
  rw [hrun]
  rfl

theorem fcgiProcessing_completed_megabyte :
    ∃ p, fcgiProcessing plainLink false readyAttempts (upload 1000000) = some p ∧
      p.status = .completed := by
  obtain ⟨p, hp, hiff⟩ := fcgiProcessing_completed_iff plainLink false 5 1 []
    (List.replicate 1000000 0) 1000000 ⟨[], []⟩ ⟨[], Fcgi.helloResponse.bytes, []⟩ readyAttempts
    (upload 1000000) rfl (by simp [readyAttempts, maxAttempts]) (readyAttempts_accept _)
    (upload_answers _)
  exact ⟨p, hp, hiff.mpr (by norm_num)⟩

/-- Four megabytes are far below the ten that are accepted by default, and are given up with 502. -/
theorem long_body_given_up :
    ∃ p, fcgiProcessing plainLink false readyAttempts (upload 4000000) = some p ∧
      p.status ≠ .completed ∧ p.client = sendBadGateway false p.exchange.client := by
  obtain ⟨status, x', hrun, hiff⟩ := fcgiLoop_start readyAttempts 5 1 []
    (List.replicate 4000000 0) 4000000 ⟨[], []⟩ ⟨[], Fcgi.helloResponse.bytes, []⟩ rfl
    (readyAttempts_accept 4000000) (upload_answers 4000000)
  have hnot : status ≠ .completed := by
    rw [ne_eq, hiff, readyAttempts, List.length_replicate, records]
    norm_num
  have htake : readyAttempts.take maxAttempts = readyAttempts := List.take_of_length_le le_rfl
  unfold fcgiProcessing upload
  rw [htake, hrun]
  exact ⟨_, rfl, hnot, by simp [hnot, plainLink]⟩

end Halmos.Http1
