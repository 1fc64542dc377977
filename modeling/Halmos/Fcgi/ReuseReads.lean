import Halmos.Fcgi.Reuse

set_option autoImplicit false

/-! # What a session reads

`fcgi_io_splice_response` reads off the front of its socket (`spliceLoop_isSuffix`), and a careful
answer to its end unless it fails (`splice_careful`); a step on a stream ends the exchange because a
call fails or because the blank line has arrived (`http2Step_ends`).
-/

namespace Halmos.Fcgi

open Http2

/-! ## The front of a socket -/

/-- The pass has read off the front of the socket. -/
def Pass.OffFront (sock : BackendSock) : Pass → Prop
  | .next st => st.sock.stream <:+ sock.stream
  | .stop _ st => st.sock.stream <:+ sock.stream
  | .hang => True

section Front

variable {useSplice keepAlive : Bool} {sock sock' : BackendSock} {st : SpliceState}

theorem Pass.OffFront.trans {p : Pass} (h : p.OffFront sock')
    (hsock : sock'.stream <:+ sock.stream) : p.OffFront sock := by
  cases p with
  | next st => exact List.IsSuffix.trans h hsock
  | stop ok st => exact List.IsSuffix.trans h hsock
  | hang => trivial

theorem recvWaitAll_isSuffix (sock : BackendSock) (n : Nat) :
    (sock.recvWaitAll n).2.stream <:+ sock.stream := ⟨_, sock.recvWaitAll_append n⟩

theorem pullLoop_isSuffix (put : List UInt8 → List UInt8) (n : Nat) (out : List UInt8)
    (sock : BackendSock) : (pullLoop put n out sock).2.2.stream <:+ sock.stream := by
  induction n using Nat.strong_induction_on generalizing out sock with
  | _ n ih =>
      rw [pullLoop]
      split
      · exact List.suffix_refl _
      · next hn =>
          dsimp only
          split
          · exact recvWaitAll_isSuffix _ _
          · exact (ih _ (by omega) _ _).trans (recvWaitAll_isSuffix _ _)

theorem skip_offFront (n : Nat) (st : SpliceState) : (skip n st).OffFront st.sock := by
  unfold skip
  dsimp only
  split
  · exact recvWaitAll_isSuffix _ _
  · exact recvWaitAll_isSuffix _ _

theorem headerRecord_offFront (clen : Nat) (st : SpliceState) :
    (headerRecord keepAlive clen st).OffFront st.sock := by
  unfold headerRecord
  dsimp only
  generalize (if clen < 8192 - st.headerBuffer.length - 1 then clen
    else 8192 - st.headerBuffer.length - 1) = toRead
  have hrecv := recvWaitAll_isSuffix st.sock toRead
  split
  · exact hrecv
  · split
    · exact hrecv
    · apply Pass.OffFront.trans _ hrecv
      unfold headerComplete
      dsimp only
      split
      · exact pullLoop_isSuffix _ _ _ _
      · -- with a body in the buffer or without
        split
        all_goals
          split
          · exact pullLoop_isSuffix _ _ _ _
          · exact pullLoop_isSuffix _ _ _ _

theorem bodyRecord_offFront (clen : Nat) (st : SpliceState) :
    (bodyRecord useSplice clen st).OffFront st.sock := by
  unfold bodyRecord
  dsimp only
  split
  · split
    · next got sock hsplice => exact ⟨got, (BackendSock.spliceLoop_eq_some hsplice).2⟩
    · trivial
  · split
    · exact pullLoop_isSuffix _ _ _ _
    · exact pullLoop_isSuffix _ _ _ _

variable (useSplice keepAlive) in
theorem recordBody_offFront (h : HeaderFields) (st : SpliceState) :
    (recordBody useSplice keepAlive h st).OffFront st.sock := by
  have hskip := skip_offFront 8 st
  unfold recordBody
  dsimp only
  split
  · split
    · exact List.suffix_refl _
    · split
      · exact bodyRecord_offFront _ _
      · exact headerRecord_offFront _ _
  · split
    · exact skip_offFront _ _
    · split
      · split
        · next st' hnext =>
            rw [hnext] at hskip
            by_cases hsent : st'.headerSent = true
            · rw [if_pos hsent]
              exact hskip
            · rw [if_neg hsent]
              exact hskip
        · exact hskip
      · exact List.suffix_refl _

variable (useSplice keepAlive) in
theorem readRecord_offFront (st : SpliceState) :
    (readRecord useSplice keepAlive st).OffFront st.sock := by
  unfold readRecord
  dsimp only
  have hrecv := recvWaitAll_isSuffix st.sock 8
  split
  · exact hrecv
  · have hbody := recordBody_offFront useSplice keepAlive
      (headerFields (st.sock.recvWaitAll 8).1) { st with sock := (st.sock.recvWaitAll 8).2 }
    have hfront := Pass.OffFront.trans hbody hrecv
    split
    · next st' hnext =>
        rw [hnext] at hfront
        split
        · exact hfront
        · exact (skip_offFront _ _).trans hfront
    · exact hfront

/-- The function reads off the front of its socket. -/
theorem spliceLoop_isSuffix {fuel : Nat} {code : Int} {st' : SpliceState}
    (h : spliceLoop useSplice keepAlive fuel st = some (code, st')) :
    st'.sock.stream <:+ st.sock.stream := by
  induction fuel generalizing st with
  | zero => cases h
  | succ fuel ih =>
      have hpass := readRecord_offFront useSplice keepAlive st
      rw [spliceLoop] at h
      split at h
      · next st₁ hnext =>
          rw [hnext] at hpass
          exact (ih h).trans hpass
      · next ok st₁ hstop =>
          rw [hstop] at hpass
          cases h
          exact hpass
      · cases h

end Front

/-! ## What a step does -/

section Sessions

variable {useSplice keepAlive : Bool} {r : Response} {sock sock' : BackendSock}

variable (useSplice keepAlive) in
/-- A splice reads a careful answer to its end, or fails. -/
theorem splice_careful (hfits : Fits r.stdout)
    (htime : BackendSock.InTime (headerReads useSplice [] r.outputs) sock → r.ReadToEnd)
    (hs : sock.stream = r.bytes) :
    ∃ code st, fcgiIoSpliceResponse useSplice keepAlive sock = some (code, st) ∧
      (code = 0 → st.sock.stream = []) := by
  have hfuel : r.outputs.length < sock.stream.length + 1 := by
    rw [hs]
    exact Nat.lt_succ_of_le (outputs_length_le r)
  have hout : Outcome (fcgiIoSpliceResponse useSplice keepAlive sock)
      (headerReads useSplice [] r.outputs) sock (Answered keepAlive [] [] r.outputs r.last) :=
    spliceLoop_answered ⟨[], false, [], sock⟩ r.outputs_type r.last_type r.last_length rfl hfuel
      hfits hs
  unfold Outcome at hout
  unfold BackendSock.InTime at htime
  cases hreads : BackendSock.readAll (headerReads useSplice [] r.outputs) sock with
  | none =>
      rw [hreads] at hout
      obtain ⟨st, hst⟩ := hout
      refine ⟨-2, st, hst, ?_⟩
      intro h
      exact absurd h (by decide)
  | some sock' =>
      rw [hreads] at hout htime
      obtain ⟨st, hst, hanswered⟩ := hout
      obtain ⟨hpad, hredirect⟩ := htime rfl
      refine ⟨0, st, hst, fun _ => ?_⟩
      unfold Answered at hanswered
      cases htext : headerText [] r.outputs with
      | none =>
          rw [htext] at hanswered
          rw [hanswered.2, hpad]
      | some text =>
          rw [htext] at hanswered
          obtain ⟨head, body, -, hanswered⟩ := hanswered
          rw [if_neg (by rw [hredirect text htext]; decide)] at hanswered
          rw [hanswered.1, hpad]

/-- What is read and what is left make up what was there. -/
theorem consumed_append (h : sock'.stream <:+ sock.stream) :
    sock.consumed sock' ++ sock'.stream = sock.stream := by
  obtain ⟨front, hfront⟩ := h
  unfold BackendSock.consumed
  rw [← hfront, List.length_append, Nat.add_sub_cancel, List.take_left]

/-- `recv` takes what it returns off the front. -/
theorem recv_append (sock : BackendSock) (answer : RecvResult) :
    (sock.recv answer).1.bytes ++ (sock.recv answer).2.stream = sock.stream := by
  cases answer with
  | data bytes =>
      have happ := BackendSock.recvWaitAll_append sock 8192
      show (if (sock.recvWaitAll 8192).1 = [] then RecvResult.wouldBlock
        else .data (sock.recvWaitAll 8192).1).bytes ++ (sock.recvWaitAll 8192).2.stream = _
      split
      · next hnil =>
          rw [hnil] at happ
          exact happ
      · exact happ
  | wouldBlock => rfl
  | failed => rfl
  | eof => rfl

/-- It only fails when the system says so. -/
theorem recv_failed {answer : RecvResult}
    (h : (sock.recv answer).1 = .failed ∨ (sock.recv answer).1 = .eof) :
    answer = .failed ∨ answer = .eof := by
  cases answer with
  | data bytes =>
      have hdata : (sock.recv (.data bytes)).1 = if (sock.recvWaitAll 8192).1 = [] then .wouldBlock
        else .data (sock.recvWaitAll 8192).1 := rfl
      rw [hdata] at h
      split at h
      · rcases h with h | h <;> cases h
      · rcases h with h | h <;> cases h
  | wouldBlock => rcases h with h | h <;> cases h
  | failed => exact Or.inl rfl
  | eof => exact Or.inr rfl

/-- A failure of the call in the step is one of the system. -/
theorem fails_of_recv {s : FcgiStream} {i : StepInput}
    (h : s.Fails { i with
      recv := (if s.receives i then sock.recv i.recv else (.wouldBlock, sock)).1 }) :
    s.Fails i := by
  unfold FcgiStream.Fails at h ⊢
  split at h
  · exact h
  · exact h
  · exact h
  · next hstate =>
      obtain ⟨hin, hrecv⟩ := h
      have hin' : i.pollIn = true := hin
      have hreceives : s.receives i = true := decide_eq_true ⟨hstate, hin'⟩
      dsimp only at hrecv
      rw [if_pos hreceives] at hrecv
      exact ⟨hin', recv_failed hrecv⟩
  · exact h

theorem paramsStep_stops {s : FcgiStream} {i : StepInput}
    (h : (paramsStep i s).status ≠ .continue) : i.pollOut = true ∧ i.send = .failed := by
  unfold paramsStep at h
  by_cases hout : i.pollOut = true
  · rw [if_pos hout] at h
    cases hsend : i.send with
    | failed => exact ⟨hout, rfl⟩
    | sent n =>
        rw [hsend] at h
        exact absurd rfl h
    | wouldBlock =>
        rw [hsend] at h
        exact absurd rfl h
  · rw [if_neg hout] at h
    exact absurd rfl h

theorem stdinEnd_continue (i : StepInput) (out : List UInt8) (s : FcgiStream) :
    (stdinEnd i out s).status = .continue := by
  unfold stdinEnd
  split <;> rfl

/-- The body stops only at a record that cannot be sent. -/
theorem stdinStep_stops {s : FcgiStream} {i : StepInput}
    (h : (stdinStep i s).status ≠ .continue) :
    i.pollOut = true ∧ s.stdinSent < s.contentLength.toNat ∧
      (i.send = .failed ∨ i.sendBody = .failed) := by
  unfold stdinStep at h
  by_cases hout : i.pollOut = true
  · rw [if_pos hout] at h
    by_cases hmore : s.stdinSent < s.contentLength.toNat
    · rw [if_pos hmore] at h
      dsimp only at h
      refine ⟨hout, hmore, ?_⟩
      cases hsend : i.send with
      | failed => exact Or.inl rfl
      | sent n =>
          cases hbody : i.sendBody with
          | failed => exact Or.inr rfl
          | sent m =>
              rw [hsend, hbody] at h
              exact absurd (stdinEnd_continue _ _ _) h
          | wouldBlock =>
              rw [hsend, hbody] at h
              exact absurd rfl h
      | wouldBlock =>
          -- The content is sent even where the record header would block.
          cases hbody : i.sendBody with
          | failed => exact Or.inr rfl
          | sent m =>
              rw [hsend, hbody] at h
              exact absurd rfl h
          | wouldBlock =>
              rw [hsend, hbody] at h
              exact absurd rfl h
    · rw [if_neg hmore] at h
      exact absurd (stdinEnd_continue _ _ _) h
  · rw [if_neg hout] at h
    exact absurd rfl h

/-- The answer stops at a failure of `recv` or at the chunk that brings the blank line. -/
theorem receiveStep_stops {s : FcgiStream} {i : StepInput}
    (h : (receiveStep i s).status ≠ .continue) :
    i.pollIn = true ∧ (i.recv = .failed ∨ i.recv = .eof ∨
      ∃ chunk, i.recv = .data chunk ∧ s.HeaderArrives chunk) := by
  unfold receiveStep at h
  by_cases hin : i.pollIn = true
  · rw [if_pos hin] at h
    refine ⟨hin, ?_⟩
    cases hrecv : i.recv with
    | failed => exact Or.inl rfl
    | eof => exact Or.inr (Or.inl rfl)
    | wouldBlock =>
        rw [hrecv] at h
        exact absurd rfl h
    | data chunk =>
        rw [hrecv] at h
        refine Or.inr (Or.inr ⟨chunk, rfl, ?_⟩)
        unfold FcgiStream.HeaderArrives
        dsimp only at h
        unfold delimStep at h
        split at h
        · next found hfound =>
            rw [hfound]
            rfl
        · exact absurd rfl h
  · rw [if_neg hin] at h
    exact absurd rfl h

/-- A step ends the exchange because a call fails or because the blank line has arrived. -/
theorem http2Step_ends {s : FcgiStream} {i : StepInput} (hactive : s.isFcgiActive = true)
    (h : (fcgiSessionHttp2Step s i).status ≠ .continue) :
    s.Fails i ∨ (s.receives i = true ∧ ∃ chunk, i.recv = .data chunk ∧ s.HeaderArrives chunk) := by
  unfold fcgiSessionHttp2Step at h
  rw [if_neg (by rw [hactive]; decide)] at h
  unfold FcgiStream.Fails FcgiStream.receives
  split at h
  · next hstate =>
      rw [hstate]
      exact Or.inl (paramsStep_stops h)
  · next hstate =>
      rw [hstate]
      exact Or.inl (paramsStep_stops h)
  · next hstate =>
      rw [hstate]
      exact Or.inl (stdinStep_stops h)
  · next hstate =>
      rw [hstate]
      obtain ⟨hin, hfailed | heof | hchunk⟩ := receiveStep_stops h
      · exact Or.inl ⟨hin, Or.inl hfailed⟩
      · exact Or.inl ⟨hin, Or.inr heof⟩
      · exact Or.inr ⟨by simp [hin], hchunk⟩
  · exact absurd rfl h

theorem sendingParamsStep_finished {s : HalmosFCGISession} {i : SessionInput}
    (h : (sendingParamsStep i s).session.state = .finished) : s.state = .finished := by
  revert h
  unfold sendingParamsStep
  dsimp only
  split
  · split
    · dsimp only
      split_ifs <;> simp
    · exact id
    · simp
  · exact id

theorem sendingStdinStep_finished {s : HalmosFCGISession} {i : SessionInput}
    (h : (sendingStdinStep i s).session.state = .finished) : s.state = .finished := by
  have hend : ∀ out (s' : HalmosFCGISession), s'.state = s.state →
      (sendingStdinEnd i out s').session.state = .finished → s.state = .finished := by
    intro out s' hs'
    unfold sendingStdinEnd
    split
    · simp
    · rw [← hs']
      exact id
  revert h
  unfold sendingStdinStep
  dsimp only
  split
  · split
    · split
      · exact hend _ _ rfl
      · exact hend _ _ rfl
      · simp
    · exact hend _ _ rfl
  · exact id

/-- A step that does not read leaves FINISHED and the error state alone, and does not get to
FINISHED. -/
theorem http1Step_state {s : HalmosFCGISession} {i : SessionInput}
    (hread : ¬ (s.state = .receiving ∧ i.pollIn = true)) :
    ((fcgiSessionHttp1Step s i).session.state = .finished → s.state = .finished) ∧
      (s.state = .finished ∨ s.state = .error → (fcgiSessionHttp1Step s i).session = s) := by
  unfold fcgiSessionHttp1Step
  cases hstate : s.state with
  | init =>
      refine ⟨fun h => ?_, by simp⟩
      rw [← hstate]
      exact sendingParamsStep_finished h
  | sendingParams =>
      refine ⟨fun h => ?_, by simp⟩
      rw [← hstate]
      exact sendingParamsStep_finished h
  | sendingStdin =>
      refine ⟨fun h => ?_, by simp⟩
      rw [← hstate]
      exact sendingStdinStep_finished h
  | receiving =>
      refine ⟨?_, by simp⟩
      have hin : ¬ i.pollIn = true := fun h => hread ⟨hstate, h⟩
      unfold receivingStep
      dsimp only
      rw [if_neg hin]
      dsimp only
      rw [hstate]
      exact id
  | finished => exact ⟨fun _ => rfl, fun _ => rfl⟩
  | error =>
      refine ⟨?_, fun _ => rfl⟩
      dsimp only
      rw [hstate]
      exact id

end Sessions

end Halmos.Fcgi
