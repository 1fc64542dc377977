import Halmos.Fcgi.SpliceRun

set_option autoImplicit false

/-! # When the client is served

The loop of `fcgi_io_splice_response` gets out of step with the record stream when the header
block does not fit its buffer, and a NUL in front of the blank line hides it; the client is then
sent nothing. Together with `spliceLoop_answered` this gives the exact condition for a client to
get the whole answer (`fcgiIoSpliceResponse_serves_iff`).
-/

namespace Halmos.Fcgi

open Http BackendSock

/-! ## A header block that is not found -/

/-- The pass sends the client nothing, and leaves a buffer with `P` to the next one. -/
def Silent (p : Pass) (P : List UInt8 → Prop) (out : List UInt8) : Prop :=
  match p with
  | .next st => st.headerSent = false ∧ P st.headerBuffer ∧ st.out = out
  | .stop _ st => st.out = out
  | .hang => True

theorem skip_silent {P : List UInt8 → Prop} (st : SpliceState) (hsent : st.headerSent = false)
    (hP : P st.headerBuffer) (n : Nat) : Silent (skip n st) P st.out := by
  unfold skip
  simp only
  split
  · rfl
  · exact ⟨hsent, hP, rfl⟩

/-- The blank line is not in the buffer and never will be: a NUL stands in front of it, or there
is no room left. -/
def Dead (buf : List UInt8) : Prop :=
  splitAfter blankLine (cstr buf) = none ∧ (0 ∈ buf ∨ 8191 ≤ buf.length)

theorem headerRecord_dead (keepAlive : Bool) (clen : Nat) {st : SpliceState}
    (hsent : st.headerSent = false) (hdead : Dead st.headerBuffer) :
    Silent (headerRecord keepAlive clen st) Dead st.out := by
  unfold headerRecord
  simp only
  set toRead := if clen < 8192 - st.headerBuffer.length - 1 then clen
    else 8192 - st.headerBuffer.length - 1 with hroom
  by_cases hlen : (st.sock.recvWaitAll toRead).1.length = toRead
  · -- the text in the buffer stays the same
    have hdead' : Dead (st.headerBuffer ++ (st.sock.recvWaitAll toRead).1) := by
      obtain ⟨hnone, hwhy⟩ := hdead
      rcases hwhy with hzero | hfull
      · refine ⟨?_, Or.inl (List.mem_append_left _ hzero)⟩
        rw [cstr_append_of_mem hzero]
        exact hnone
      · have hnil : (st.sock.recvWaitAll toRead).1 = [] := by
          rw [← List.length_eq_zero_iff, hlen, hroom, if_neg (by omega)]
          omega
        rw [hnil, List.append_nil]
        exact ⟨hnone, Or.inr hfull⟩
    rw [if_neg (not_not.mpr hlen), hdead'.1]
    exact ⟨hsent, hdead', rfl⟩
  · rw [if_pos hlen]
    rfl

theorem recordBody_dead (useSplice keepAlive : Bool) (h : HeaderFields) (st : SpliceState)
    (hsent : st.headerSent = false) (hdead : Dead st.headerBuffer) :
    Silent (recordBody useSplice keepAlive h st) Dead st.out := by
  unfold recordBody
  simp only
  split
  · split
    · exact ⟨hsent, hdead, rfl⟩
    · rw [hsent]
      exact headerRecord_dead keepAlive _ hsent hdead
  · split
    · exact skip_silent st hsent hdead _
    · split
      · have hskip := skip_silent st hsent hdead 8
        cases hpass : skip 8 st with
        | next st' =>
            rw [hpass] at hskip
            obtain ⟨hsent', -, hout⟩ := hskip
            simp only [hsent', Bool.false_eq_true, if_false]
            exact hout
        | stop ok st' =>
            rw [hpass] at hskip
            exact hskip
        | hang => trivial
      · exact ⟨hsent, hdead, rfl⟩

/-- Whatever the backend sends, nothing reaches the client once the buffer is dead. -/
theorem spliceLoop_dead {useSplice keepAlive : Bool} {fuel : Nat} {st st' : SpliceState} {c : Int}
    (hsent : st.headerSent = false) (hdead : Dead st.headerBuffer)
    (h : spliceLoop useSplice keepAlive fuel st = some (c, st')) : st'.out = st.out := by
  induction fuel generalizing st with
  | zero => cases h
  | succ fuel ih =>
      have hpass : Silent (readRecord useSplice keepAlive st) Dead st.out := by
        unfold readRecord
        simp only
        split
        · rfl
        · have hbody := recordBody_dead useSplice keepAlive
            (headerFields (st.sock.recvWaitAll 8).1)
            { st with sock := (st.sock.recvWaitAll 8).2 } hsent hdead
          cases hrec : recordBody useSplice keepAlive (headerFields (st.sock.recvWaitAll 8).1)
              { st with sock := (st.sock.recvWaitAll 8).2 } with
          | next st₁ =>
              rw [hrec] at hbody
              obtain ⟨hsent₁, hdead₁, hout₁⟩ := hbody
              simp only
              split
              · exact ⟨hsent₁, hdead₁, hout₁⟩
              · rw [← show st₁.out = st.out from hout₁]
                exact skip_silent st₁ hsent₁ hdead₁ _
          | stop ok st₁ =>
              rw [hrec] at hbody
              exact hbody
          | hang => trivial
      rw [spliceLoop] at h
      cases hread : readRecord useSplice keepAlive st with
      | next st₁ =>
          rw [hread] at h hpass
          obtain ⟨hsent₁, hdead₁, hout₁⟩ := hpass
          rw [← hout₁]
          exact ih hsent₁ hdead₁ h
      | stop ok st₁ =>
          rw [hread] at h hpass
          cases h
          exact hpass
      | hang =>
          rw [hread] at h
          cases h

/-- What the buffer can hold of an answer that is not readable has no blank line in it. -/
theorem splitAfter_of_not_readable {stdout : List UInt8} (h : ¬ Readable stdout) :
    splitAfter blankLine (cstr (stdout.take 8191)) = none := by
  rw [← Option.not_isSome_iff_eq_none]
  intro hsome
  obtain ⟨head, rest, hsplit, hzero⟩ := splitAfter_cstr_isSome_iff.mp hsome
  have hlen : head.length ≤ 8191 := by
    have hsound := congrArg List.length (splitAfter_sound hsplit)
    rw [List.length_take, List.length_append] at hsound
    omega
  have hall := splitAfter_append hsplit (stdout.drop 8191)
  rw [List.take_append_drop] at hall
  exact h ⟨head, _, hall, hlen, hzero⟩

/-- A record that overflows the buffer leaves it dead. -/
theorem readRecord_overflow {useSplice keepAlive : Bool} {requestId : Nat} {r : Record}
    {rest : List UInt8} {st : SpliceState} (htype : r.type = fcgiStdout) (hne : r.content ≠ [])
    (hsent : st.headerSent = false) (hbuf : st.headerBuffer.length ≤ 8191)
    (hover : 8191 - st.headerBuffer.length < r.content.length)
    (hnone : splitAfter blankLine (cstr (bufferAfter st.headerBuffer r)) = none)
    (hs : st.sock.stream = r.encode requestId ++ rest) :
    Silent (readRecord useSplice keepAlive st) Dead st.out := by
  have hlen : ¬ r.content.length = 0 := fun h => hne (List.length_eq_zero_iff.mp h)
  have hnot : ¬ st.headerSent = true := by
    rw [hsent]
    exact Bool.false_ne_true
  -- the buffer is full up to its last byte
  have hdead : Dead (bufferAfter st.headerBuffer r) := by
    refine ⟨hnone, Or.inr ?_⟩
    unfold bufferAfter bufferRoom
    rw [List.length_append, List.length_take]
    omega
  cases hread : st.sock.readOne (.recv 8) with
  | none =>
      unfold readRecord
      simp only
      rw [if_pos (recvWaitAll_short hread)]
      rfl
  | some x =>
      obtain ⟨got, sock₁⟩ := x
      obtain ⟨hs₁, hpass⟩ := readRecord_header useSplice keepAlive hread hs
      rw [hpass]
      unfold recordBody
      rw [if_pos htype, if_neg hlen, if_neg hnot]
      cases hread₂ : sock₁.readOne (.recv (bufferRoom st.headerBuffer r)) with
      | none =>
          unfold headerRecord
          simp only [toRead_eq]
          rw [if_pos (recvWaitAll_short hread₂)]
          rfl
      | some y =>
          obtain ⟨got₂, sock₂⟩ := y
          obtain ⟨-, hcollect⟩ := headerRecord_got keepAlive { st with sock := sock₁ } hread₂ hs₁
          simp only [hnone] at hcollect
          rw [hcollect, afterBody]
          split
          · exact ⟨hsent, hdead, rfl⟩
          · exact skip_silent
              { st with headerBuffer := bufferAfter st.headerBuffer r, sock := sock₂ } hsent hdead _

/-- **An answer whose header block is not found**: a client whose request ends with 0 has been sent
nothing. -/
theorem spliceLoop_unreadable {useSplice keepAlive : Bool} {requestId fuel : Nat}
    {rs : List Record} {last : Record} (st : SpliceState) {st' : SpliceState}
    (htypes : ∀ r ∈ rs, r.type = fcgiStdout ∨ r.type = fcgiStderr)
    (htype : last.type = fcgiEndRequest) (hlen : last.content.length = 8)
    (hsent : st.headerSent = false) (hbuf : st.headerBuffer.length ≤ 8191)
    (hnone : splitAfter blankLine
      (cstr ((st.headerBuffer ++ rs.flatMap Record.stdout).take 8191)) = none)
    (hs : st.sock.stream = rs.flatMap (Record.encode requestId) ++ last.encode requestId)
    (h : spliceLoop useSplice keepAlive fuel st = some (0, st')) : st'.out = st.out := by
  induction rs generalizing st fuel with
  | nil =>
      cases fuel with
      | zero => cases h
      | succ fuel =>
          have hlast : Outcome (spliceLoop useSplice keepAlive (fuel + 1) st) _ _ _ :=
            spliceLoop_last htype hlen hs
          unfold Outcome at hlast
          rw [h] at hlast
          split at hlast
          · obtain ⟨st₁, hst₁⟩ := hlast
            cases hst₁
          · obtain ⟨st₁, hst₁, -, hout⟩ := hlast
            cases hst₁
            rw [hout, hsent]
            rfl
  | cons r rs ih =>
      cases fuel with
      | zero => cases h
      | succ fuel =>
          rw [List.forall_mem_cons] at htypes
          rw [List.flatMap_cons, List.append_assoc] at hs
          rw [List.flatMap_cons] at hnone
          rw [spliceLoop] at h
          by_cases hsilent : r.stdout = []
          · have hpass : PassReads (readRecord useSplice keepAlive st) _ _ _ :=
              readRecord_silent htypes.1 hsilent hs
            unfold PassReads at hpass
            split at hpass
            · obtain ⟨st₁, hst₁⟩ := hpass
              rw [hst₁] at h
              cases h
            · obtain ⟨st₁, hst₁, -, ⟨hbuf₁, hsent₁, hout₁⟩, hstream₁⟩ := hpass
              rw [hst₁] at h
              rw [hsilent, List.nil_append, ← hbuf₁] at hnone
              rw [← hout₁]
              exact ih st₁ htypes.2 (by rw [hsent₁, hsent]) (by rw [hbuf₁]; exact hbuf) hnone hstream₁ h
          · obtain ⟨hout, hne, hcontent⟩ := stdout_ne_nil hsilent
            rw [hcontent] at hnone
            -- the buffer only ever holds a beginning of the answer
            have hpre : bufferAfter st.headerBuffer r
                <+: (st.headerBuffer ++ (r.content ++ rs.flatMap Record.stdout)).take 8191 := by
              rw [List.prefix_take_iff]
              constructor
              · exact (List.prefix_append_right_inj _).mpr
                  ((List.take_prefix _ _).trans (List.prefix_append _ _))
              · unfold bufferAfter bufferRoom
                rw [List.length_append, List.length_take]
                omega
            have hnone₁ := splitAfter_cstr_of_isPrefix hpre hnone
            by_cases hroom : r.content.length ≤ 8191 - st.headerBuffer.length
            · have hafter : bufferAfter st.headerBuffer r = st.headerBuffer ++ r.content := by
                unfold bufferAfter bufferRoom
                rw [Nat.min_eq_left hroom, List.take_length]
              have hpass : PassReads (readRecord useSplice keepAlive st) _ _ _ :=
                readRecord_collect hout hne hsent hroom hnone₁ hs
              unfold PassReads at hpass
              split at hpass
              · obtain ⟨st₁, hst₁⟩ := hpass
                rw [hst₁] at h
                cases h
              · obtain ⟨st₁, hst₁, -, ⟨hbuf₁, hsent₁, hout₁⟩, hstream₁⟩ := hpass
                rw [hst₁] at h
                rw [← List.append_assoc, ← hafter, ← hbuf₁] at hnone
                have hle : st₁.headerBuffer.length ≤ 8191 := by
                  rw [hbuf₁, hafter, List.length_append]
                  omega
                rw [← hout₁]
                exact ih st₁ htypes.2 (by rw [hsent₁, hsent]) hle hnone hstream₁ h
            · have hpass : Silent (readRecord useSplice keepAlive st) Dead st.out :=
                readRecord_overflow hout hne hsent hbuf (by omega) hnone₁ hs
              cases hread : readRecord useSplice keepAlive st with
              | next st₁ =>
                  rw [hread] at h hpass
                  obtain ⟨hsent₁, hdead₁, hout₁⟩ := hpass
                  rw [← hout₁]
                  exact spliceLoop_dead hsent₁ hdead₁ h
              | stop ok st₁ =>
                  rw [hread] at h hpass
                  rw [← (Prod.mk.inj (Option.some.inj h)).2]
                  exact hpass
              | hang =>
                  rw [hread] at h
                  cases h

/-! ## The head the client is sent -/

/-- Two texts give the client the same head. -/
def SameStart (text text' : List UInt8) : Prop :=
  statusCode text = statusCode text' ∧
    (isRedirect text' = true → hasContentLength text = hasContentLength text')

theorem isRedirect_congr {text text' : List UInt8} (h : statusCode text = statusCode text') :
    isRedirect text = isRedirect text' := by
  unfold isRedirect
  rw [h]

theorem responseStart_congr {keepAlive : Bool} {text text' : List UInt8}
    (h : SameStart text text') : responseStart keepAlive text = responseStart keepAlive text' := by
  unfold responseStart
  rw [h.1, isRedirect_congr h.1]
  cases hredirect : isRedirect text' with
  | true => rw [h.2 hredirect]
  | false => rfl

theorem noDigit_space (s : List UInt8) : NoDigit (ascii " " ++ s) := by
  intro c hc
  cases hc
  decide

/-- The head tells the status code and, for a redirect, whether the length was added. -/
theorem responseStart_append_inj {keepAlive : Bool} {text text' s s' : List UInt8}
    (h : responseStart keepAlive text ++ s = responseStart keepAlive text' ++ s') :
    SameStart text text' := by
  have hcode : statusCode text = statusCode text' := by
    unfold responseStart at h
    simp only [List.append_assoc] at h
    exact signedNumeral_append_inj (noDigit_space _) (noDigit_space _)
      (List.append_cancel_left h)
  refine ⟨hcode, ?_⟩
  intro hredirect
  unfold responseStart at h
  rw [hcode, isRedirect_congr hcode, hredirect] at h
  simp only [List.append_assoc, if_true] at h
  have hlines := List.append_cancel_left (List.append_cancel_left (List.append_cancel_left
    (List.append_cancel_left (List.append_cancel_left h))))
  -- the next line begins with "Conn" or with "Cont"
  cases hlen : hasContentLength text with
  | true =>
      cases hlen' : hasContentLength text' with
      | true => rfl
      | false =>
          rw [hlen, hlen', if_pos rfl, if_neg Bool.false_ne_true, List.nil_append] at hlines
          have hfour := congrArg (List.take 4) hlines
          exact absurd hfour (by show ¬ ascii "Conn" = ascii "Cont"; decide)
  | false =>
      cases hlen' : hasContentLength text' with
      | true =>
          rw [hlen, hlen', if_pos rfl, if_neg Bool.false_ne_true, List.nil_append] at hlines
          have hfour := congrArg (List.take 4) hlines
          exact absurd hfour (by show ¬ ascii "Cont" = ascii "Conn"; decide)
      | false => rfl

/-! ## The exact condition -/

/-- A readable answer's header block gets completed in the buffer. -/
theorem headerText_isSome (buf : List UInt8) {rs : List Record}
    (hread : Readable (buf ++ rs.flatMap Record.stdout))
    (hnone : splitAfter blankLine (cstr buf) = none) : (headerText buf rs).isSome := by
  induction rs generalizing buf with
  | nil =>
      obtain ⟨head, body, hsplit, -, hzero⟩ := hread
      rw [List.flatMap_nil, List.append_nil] at hsplit
      have hsome := splitAfter_cstr_isSome_iff.mpr ⟨head, body, hsplit, hzero⟩
      rw [hnone] at hsome
      cases hsome
  | cons r rs ih =>
      rw [List.flatMap_cons] at hread
      rw [headerText]
      by_cases hsilent : r.stdout = []
      · rw [if_pos hsilent]
        rw [hsilent, List.nil_append] at hread
        exact ih buf hread hnone
      · obtain ⟨-, -, hcontent⟩ := stdout_ne_nil hsilent
        rw [if_neg hsilent]
        by_cases hcomplete : Completes buf r
        · rw [if_pos hcomplete]
          rfl
        · rw [hcontent] at hread
          obtain ⟨-, hbuf⟩ := bufferAfter_of_not_completes (Or.inl hread) hcomplete
          rw [if_neg hcomplete]
          apply ih
          · rw [hbuf, List.append_assoc]
            exact hread
          · exact Option.not_isSome_iff_eq_none.mp hcomplete

/-- The client is served: the function returns 0, and the client has been sent the head for the
answer's header block, the header block, and, but for a redirect, a chunked coding of the STDOUT
bytes behind it. -/
def Serves (useSplice keepAlive : Bool) (r : Response) (schedule : List Nat) : Prop :=
  ∃ st head body coding,
    fcgiIoSpliceResponse useSplice keepAlive ⟨[], r.bytes, schedule⟩ = some (0, st) ∧
    splitAfter blankLine r.stdout = some (head, body) ∧
    st.out = responseStart keepAlive head ++ (head ++ coding) ∧
    if isRedirect head then coding = [] else unchunk coding = some body

/-- The status and the length are the same in the text behind which the blank line was found as in
the header block alone. -/
def HeadFromHeader (r : Response) : Prop :=
  ∀ text head body, headerText [] r.outputs = some text →
    splitAfter blankLine r.stdout = some (head, body) → SameStart (cstr text) head

theorem outputs_length_le (r : Response) : r.outputs.length ≤ r.bytes.length := by
  unfold Response.bytes
  rw [List.length_append]
  apply Nat.le_add_right_of_le
  generalize r.outputs = rs
  induction rs with
  | nil => exact Nat.le_refl 0
  | cons x rs ih =>
      rw [List.flatMap_cons, List.length_append, encode_length, List.length_cons]
      omega

/-- **When the client is served.** For every well-formed answer and every schedule of its bytes,
spliced or copied: exactly when the header block is text of at most 8191 bytes, the head is that of
the header block alone, and no `recv` asks for bytes that have not arrived. -/
theorem fcgiIoSpliceResponse_serves_iff (useSplice keepAlive : Bool) (r : Response)
    (schedule : List Nat) :
    Serves useSplice keepAlive r schedule ↔
      Readable r.stdout ∧ HeadFromHeader r ∧
        InTime (headerReads useSplice [] r.outputs) ⟨[], r.bytes, schedule⟩ := by
  set st₀ : SpliceState := ⟨[], false, [], ⟨[], r.bytes, schedule⟩⟩ with hst₀
  have hfuel : r.outputs.length < st₀.sock.stream.length + 1 :=
    Nat.lt_succ_of_le (outputs_length_le r)
  have hstream : st₀.sock.stream
      = r.outputs.flatMap (Record.encode r.requestId) ++ r.last.encode r.requestId := rfl
  have hanswered : Readable r.stdout →
      Outcome (fcgiIoSpliceResponse useSplice keepAlive st₀.sock)
        (headerReads useSplice [] r.outputs) st₀.sock
        (Answered keepAlive [] [] r.outputs r.last) :=
    fun hread => spliceLoop_answered st₀ r.outputs_type r.last_type r.last_length rfl hfuel
      (Or.inl hread) hstream
  constructor
  · rintro ⟨st, head, body, coding, hres, hsplit, hout, -⟩
    -- a client that is served has been sent a head, so the header block was found
    have hread : Readable r.stdout := by
      by_contra hnot
      have hnil : st.out = [] := spliceLoop_unreadable st₀ r.outputs_type r.last_type
        r.last_length rfl (Nat.zero_le _) (splitAfter_of_not_readable hnot) hstream hres
      rw [hnil] at hout
      cases hout
    have hans := hanswered hread
    unfold Outcome at hans
    cases hreads : readAll (headerReads useSplice [] r.outputs) st₀.sock with
    | none =>
        rw [hreads] at hans
        obtain ⟨st', hst'⟩ := hans
        rw [hst₀, hres] at hst'
        cases hst'
    | some sock' =>
        rw [hreads] at hans
        obtain ⟨st', hst', hans⟩ := hans
        rw [hst₀, hres] at hst'
        cases hst'
        refine ⟨hread, ?_, ?_⟩
        · intro text head' body' htext hsplit'
          rw [hsplit] at hsplit'
          cases hsplit'
          unfold Answered at hans
          -- the head sent is the one made of what the buffer held
          rw [htext] at hans
          obtain ⟨head', body', hsplit', hsent⟩ := hans
          rw [List.nil_append, show r.outputs.flatMap Record.stdout = r.stdout from rfl, hsplit]
            at hsplit'
          cases hsplit'
          split at hsent
          · rw [hout, List.nil_append] at hsent
            exact responseStart_append_inj hsent.symm
          · obtain ⟨-, chunks, -, -, hsent⟩ := hsent
            rw [hout, List.nil_append, List.append_assoc] at hsent
            exact responseStart_append_inj hsent.symm
        · unfold InTime
          rw [hreads]
          rfl
  · rintro ⟨hread, hhead, htime⟩
    have hans := hanswered hread
    obtain ⟨sock', hreads⟩ := Option.isSome_iff_exists.mp htime
    unfold Outcome at hans
    rw [hreads] at hans
    obtain ⟨st, hres, hans⟩ := hans
    obtain ⟨text, htext⟩ := Option.isSome_iff_exists.mp
      (headerText_isSome [] hread (by decide))
    unfold Answered at hans
    rw [htext] at hans
    obtain ⟨head, body, hsplit, hsent⟩ := hans
    rw [List.nil_append] at hsplit
    -- the condition says that the buffer held the head of the header block
    have hsame := hhead text head body htext hsplit
    rw [isRedirect_congr hsame.1, responseStart_congr hsame, List.nil_append] at hsent
    cases hredirect : isRedirect head with
    | true =>
        rw [hredirect, if_pos rfl] at hsent
        refine ⟨st, head, body, [], hres, hsplit, ?_, ?_⟩
        · rw [hsent, List.append_nil]
        · rw [hredirect]
          rfl
    | false =>
        rw [hredirect, if_neg Bool.false_ne_true] at hsent
        obtain ⟨-, chunks, hchunks, hflat, hsent⟩ := hsent
        refine ⟨st, head, body, chunks.flatMap chunk ++ lastChunk, hres, hsplit, ?_, ?_⟩
        · rw [hsent, List.append_assoc]
        · rw [hredirect, if_neg Bool.false_ne_true, unchunk_chunks hchunks, hflat]

/-- The first `recv` finds four of the eight bytes of the first record header. -/
theorem fcgiIoSpliceResponse_serves_fails : ¬ Serves true true helloResponse [4] := by
  have hres : (fcgiIoSpliceResponse true true ⟨[], helloResponse.bytes, [4]⟩).map Prod.fst
      = some (-2) := by decide +kernel
  rintro ⟨st, head, body, coding, hzero, -⟩
  rw [hzero] at hres
  cases hres

end Halmos.Fcgi
