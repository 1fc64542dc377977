import Halmos.Fcgi.SplicePass

set_option autoImplicit false

/-! # A whole answer

`fcgi_io_splice_response` over all records of an answer. As long as no record overflows
`header_buffer`, the loop stays in step with the record stream: it returns -2 when a `recv` of
`headerReads` comes too early, and else 0 with the head and, behind it, the body in the chunked
coding (`spliceLoop_answered`).
-/

namespace Halmos.Fcgi

open Http BackendSock

/-! ## Results and their reads -/

/-- The function returns -2 when one of the reads is short, and else 0 in a state that has `R`. -/
def Outcome (result : Option (Int × SpliceState)) (reads : List Read) (sock : BackendSock)
    (R : SpliceState → Prop) : Prop :=
  match readAll reads sock with
  | none => ∃ st, result = some (-2, st)
  | some _ => ∃ st, result = some (0, st) ∧ R st

theorem Outcome.mono {result : Option (Int × SpliceState)} {reads : List Read}
    {sock : BackendSock} {R R' : SpliceState → Prop} (h : Outcome result reads sock R)
    (hR : ∀ st, R st → R' st) : Outcome result reads sock R' := by
  unfold Outcome at h ⊢
  cases hreads : readAll reads sock with
  | none =>
      rw [hreads] at h
      exact h
  | some sock' =>
      rw [hreads] at h
      obtain ⟨st, hst, hr⟩ := h
      exact ⟨st, hst, hR st hr⟩

section Runs

variable {useSplice keepAlive : Bool} {requestId fuel : Nat} {st : SpliceState}

/-- A pass with its reads, and the rest of the loop with the reads after them. -/
theorem Outcome.step {reads more : List Read} {Q R : SpliceState → Prop}
    (hpass : PassReads (readRecord useSplice keepAlive st) reads st.sock Q)
    (hnext : ∀ st', Q st' →
      Outcome (spliceLoop useSplice keepAlive fuel st') more st'.sock R) :
    Outcome (spliceLoop useSplice keepAlive (fuel + 1) st) (reads ++ more) st.sock R := by
  unfold Outcome
  unfold PassReads at hpass
  rw [readAll_append, spliceLoop]
  cases hreads : readAll reads st.sock with
  | none =>
      rw [hreads] at hpass
      obtain ⟨st', hst'⟩ := hpass
      rw [hst']
      exact ⟨st', rfl⟩
  | some sock' =>
      rw [hreads] at hpass
      obtain ⟨st', hst', hsock, hQ⟩ := hpass
      have hrest := hnext st' hQ
      rw [hst', Option.bind_some, ← hsock]
      exact hrest

/-- The pass at the END_REQUEST record. -/
theorem spliceLoop_last {last : Record} (htype : last.type = fcgiEndRequest)
    (hlen : last.content.length = 8) (hs : st.sock.stream = last.encode requestId) :
    Outcome (spliceLoop useSplice keepAlive (fuel + 1) st) [.recv 8, .recv 8] st.sock
      (fun st' => st'.sock.stream = last.padding ∧
        st'.out = if st.headerSent then st.out ++ lastChunk else st.out) := by
  rw [← List.append_nil (last.encode requestId)] at hs
  have hpass := readRecord_last useSplice keepAlive htype hlen hs
  unfold Outcome
  rw [spliceLoop]
  cases hreads : readAll [.recv 8, .recv 8] st.sock with
  | none =>
      rw [hreads] at hpass
      obtain ⟨st', hst'⟩ := hpass
      rw [hst']
      exact ⟨st', rfl⟩
  | some sock' =>
      rw [hreads] at hpass
      obtain ⟨st', hst', -, hstream, hout⟩ := hpass
      rw [List.append_nil] at hstream
      rw [hst']
      exact ⟨st', rfl, hstream, hout⟩

/-! ## Behind the header block -/

/-- The reads behind the header block. -/
def bodyReads (useSplice : Bool) (rs : List Record) : List Read :=
  rs.flatMap (recordReads useSplice [] true) ++ [.recv 8, .recv 8]

/-- A record behind the header block. -/
theorem readRecord_sent {r : Record} {rest : List UInt8}
    (htype : r.type = fcgiStdout ∨ r.type = fcgiStderr) (hsent : st.headerSent = true)
    (hs : st.sock.stream = r.encode requestId ++ rest) :
    PassReads (readRecord useSplice keepAlive st) (recordReads useSplice [] true r) st.sock
      (fun st' => st'.headerSent = true ∧ st'.sock.stream = rest ∧
        ∃ chunks : List (List UInt8), (∀ c ∈ chunks, c ≠ []) ∧ chunks.flatten = r.stdout ∧
          st'.out = st.out ++ chunks.flatMap chunk) := by
  have hreads : recordReads useSplice [] true r
      = recordReads useSplice st.headerBuffer st.headerSent r := by
    rw [hsent]
    rfl
  rw [hreads]
  by_cases hsilent : r.stdout = []
  · refine (readRecord_silent htype hsilent hs).mono ?_
    rintro st' ⟨⟨-, hsent', hout⟩, hrest⟩
    refine ⟨by rw [hsent', hsent], hrest, [], ?_, hsilent.symm, ?_⟩
    · exact fun c hc => absurd hc List.not_mem_nil
    · rw [hout, List.flatMap_nil, List.append_nil]
  · have hstdout : r.type = fcgiStdout := by
      by_contra hno
      exact hsilent (if_neg hno)
    have hcontent : r.stdout = r.content := if_pos hstdout
    rw [hcontent] at hsilent
    refine (readRecord_body hstdout hsilent hsent hs).mono ?_
    rintro st' ⟨⟨-, hsent', hout⟩, hrest⟩
    refine ⟨by rw [hsent', hsent], hrest, [r.content], ?_, ?_, ?_⟩
    · intro c hc
      rw [List.mem_singleton.mp hc]
      exact hsilent
    · rw [List.flatten_singleton, hcontent]
    · rw [hout, List.flatMap_singleton]

/-- **The body**: all STDOUT bytes in chunks, and the last chunk. -/
theorem spliceLoop_body {rs : List Record} {last : Record}
    (htypes : ∀ r ∈ rs, r.type = fcgiStdout ∨ r.type = fcgiStderr)
    (htype : last.type = fcgiEndRequest) (hlen : last.content.length = 8)
    (hsent : st.headerSent = true) (hfuel : rs.length < fuel)
    (hs : st.sock.stream
      = rs.flatMap (Record.encode requestId) ++ last.encode requestId) :
    Outcome (spliceLoop useSplice keepAlive fuel st) (bodyReads useSplice rs) st.sock
      (fun st' => st'.sock.stream = last.padding ∧
        ∃ chunks : List (List UInt8), (∀ c ∈ chunks, c ≠ []) ∧
          chunks.flatten = rs.flatMap Record.stdout ∧
          st'.out = st.out ++ (chunks.flatMap chunk ++ lastChunk)) := by
  induction rs generalizing st fuel with
  | nil =>
      obtain ⟨fuel, rfl⟩ := Nat.exists_eq_add_one_of_ne_zero (Nat.ne_of_gt hfuel)
      refine (spliceLoop_last htype hlen hs).mono ?_
      rintro st' ⟨hstream, hout⟩
      rw [if_pos hsent] at hout
      exact ⟨hstream, [], fun c hc => absurd hc List.not_mem_nil, rfl, hout⟩
  | cons r rs ih =>
      obtain ⟨fuel, rfl⟩ := Nat.exists_eq_add_one_of_ne_zero (Nat.ne_of_gt (Nat.zero_lt_of_lt hfuel))
      rw [List.forall_mem_cons] at htypes
      rw [List.flatMap_cons, List.append_assoc] at hs
      have hreads : bodyReads useSplice (r :: rs)
          = recordReads useSplice [] true r ++ bodyReads useSplice rs := by
        unfold bodyReads
        rw [List.flatMap_cons, List.append_assoc]
      rw [hreads]
      apply Outcome.step (readRecord_sent htypes.1 hsent hs)
      rintro st' ⟨hsent', hstream, parts, hparts, hflat, hout⟩
      refine (ih htypes.2 hsent' (Nat.lt_of_succ_lt_succ hfuel) hstream).mono ?_
      rintro st'' ⟨hpad, chunks, hchunks, hbody, hout'⟩
      refine ⟨hpad, parts ++ chunks, ?_, ?_, ?_⟩
      · intro c hc
        rcases List.mem_append.mp hc with hc | hc
        · exact hparts c hc
        · exact hchunks c hc
      · rw [List.flatten_append, hflat, hbody, List.flatMap_cons]
      · rw [hout', hout, List.flatMap_append]
        simp only [List.append_assoc]

/-! ## Up to the blank line -/

/-- The STDOUT record `r` completes the header block when `header_buffer` holds `buf`. -/
def Completes (buf : List UInt8) (r : Record) : Prop :=
  (splitAfter blankLine (cstr (bufferAfter buf r))).isSome

instance (buf : List UInt8) (r : Record) : Decidable (Completes buf r) :=
  inferInstanceAs (Decidable (_ = true))

/-- The reads from the first record on while `header_buffer` holds `buf`. -/
def headerReads (useSplice : Bool) : List UInt8 → List Record → List Read
  | _, [] => [.recv 8, .recv 8]
  | buf, r :: rs =>
      if r.stdout = [] then recordReads useSplice buf false r ++ headerReads useSplice buf rs
      else if Completes buf r then
        if isRedirect (cstr (bufferAfter buf r)) then [.recv 8, .recv (bufferRoom buf r)]
        else recordReads useSplice buf false r ++ bodyReads useSplice rs
      else
        recordReads useSplice buf false r ++ headerReads useSplice (bufferAfter buf r) rs

/-- What `header_buffer` holds when the header block is complete. -/
def headerText : List UInt8 → List Record → Option (List UInt8)
  | _, [] => none
  | buf, r :: rs =>
      if r.stdout = [] then headerText buf rs
      else if Completes buf r then some (bufferAfter buf r)
      else headerText (bufferAfter buf r) rs

/-- The header block, through the blank line, is text that fits `header_buffer`. -/
def Readable (stdout : List UInt8) : Prop :=
  ∃ head body, splitAfter blankLine stdout = some (head, body) ∧ head.length ≤ 8191 ∧ 0 ∉ head

/-- No record overflows `header_buffer` before the header block is complete. -/
def Fits (stdout : List UInt8) : Prop := Readable stdout ∨ stdout.length ≤ 8191

theorem stdout_ne_nil {r : Record} (h : r.stdout ≠ []) :
    r.type = fcgiStdout ∧ r.content ≠ [] ∧ r.stdout = r.content := by
  have htype : r.type = fcgiStdout := by
    by_contra hno
    exact h (if_neg hno)
  have hcontent : r.stdout = r.content := if_pos htype
  exact ⟨htype, hcontent ▸ h, hcontent⟩

/-- A complete header block in the buffer is the one of the whole answer. -/
theorem splitAfter_of_bufferAfter {buf head tail : List UInt8} {r : Record}
    (h : splitAfter blankLine (cstr (bufferAfter buf r)) = some (head, tail))
    (more : List UInt8) :
    ∃ body, splitAfter blankLine (buf ++ (r.content ++ more)) = some (head, body) := by
  obtain ⟨hidden, hcstr⟩ := cstr_isPrefix (bufferAfter buf r)
  have hbuf := splitAfter_append h hidden
  rw [hcstr] at hbuf
  have htotal : buf ++ (r.content ++ more)
      = bufferAfter buf r ++ (r.content.drop (bufferRoom buf r) ++ more) := by
    unfold bufferAfter
    rw [List.append_assoc, ← List.append_assoc (r.content.take _), List.take_append_drop]
  rw [htotal]
  exact ⟨_, splitAfter_append hbuf _⟩

/-- A record that does not complete the header block leaves room, and goes to the buffer whole. -/
theorem bufferAfter_of_not_completes {buf : List UInt8} {r : Record} {more : List UInt8}
    (hfits : Fits (buf ++ (r.content ++ more))) (hnot : ¬ Completes buf r) :
    r.content.length ≤ 8191 - buf.length ∧ bufferAfter buf r = buf ++ r.content := by
  have hroom : r.content.length ≤ 8191 - buf.length := by
    rcases hfits with ⟨head, body, hsplit, hlen, hzero⟩ | hshort
    · have htotal : buf ++ (r.content ++ more)
          = bufferAfter buf r ++ (r.content.drop (bufferRoom buf r) ++ more) := by
        unfold bufferAfter
        rw [List.append_assoc, ← List.append_assoc (r.content.take _), List.take_append_drop]
      -- otherwise the buffer is full, and holds the whole header block
      by_contra hover
      have hfull : head.length ≤ (bufferAfter buf r).length := by
        unfold bufferAfter bufferRoom
        rw [List.length_append, List.length_take]
        omega
      rw [htotal] at hsplit
      obtain ⟨body', hbuf, -⟩ := splitAfter_of_append hsplit hfull
      exact hnot (splitAfter_cstr_isSome_iff.mpr ⟨head, body', hbuf, hzero⟩)
    · rw [List.length_append, List.length_append] at hshort
      omega
  refine ⟨hroom, ?_⟩
  unfold bufferAfter bufferRoom
  rw [Nat.min_eq_left hroom, List.take_length]

/-- What the loop has done with the records `rs` and the last record, when `header_buffer` held
`buf` and the client had been sent `out` before them. -/
def Answered (keepAlive : Bool) (out buf : List UInt8) (rs : List Record) (last : Record)
    (st : SpliceState) : Prop :=
  match headerText buf rs with
  | none => st.out = out ∧ st.sock.stream = last.padding
  | some text =>
      ∃ head body, splitAfter blankLine (buf ++ rs.flatMap Record.stdout) = some (head, body) ∧
        if isRedirect (cstr text) then
          st.out = out ++ responseStart keepAlive (cstr text) ++ head
        else
          st.sock.stream = last.padding ∧
          ∃ chunks : List (List UInt8), (∀ c ∈ chunks, c ≠ []) ∧ chunks.flatten = body ∧
            st.out = out ++ responseStart keepAlive (cstr text) ++ head
              ++ (chunks.flatMap chunk ++ lastChunk)

variable (st) in
/-- **The whole answer**, from a loop that has not seen the blank line yet. -/
theorem spliceLoop_answered {rs : List Record} {last : Record}
    (htypes : ∀ r ∈ rs, r.type = fcgiStdout ∨ r.type = fcgiStderr)
    (htype : last.type = fcgiEndRequest) (hlen : last.content.length = 8)
    (hsent : st.headerSent = false) (hfuel : rs.length < fuel)
    (hfits : Fits (st.headerBuffer ++ rs.flatMap Record.stdout))
    (hs : st.sock.stream = rs.flatMap (Record.encode requestId) ++ last.encode requestId) :
    Outcome (spliceLoop useSplice keepAlive fuel st) (headerReads useSplice st.headerBuffer rs)
      st.sock (Answered keepAlive st.out st.headerBuffer rs last) := by
  induction rs generalizing st fuel with
  | nil =>
      obtain ⟨fuel, rfl⟩ := Nat.exists_eq_add_one_of_ne_zero (Nat.ne_of_gt hfuel)
      refine (spliceLoop_last htype hlen hs).mono ?_
      rintro st' ⟨hstream, hout⟩
      rw [hsent] at hout
      exact ⟨hout, hstream⟩
  | cons r rs ih =>
      obtain ⟨fuel, rfl⟩ := Nat.exists_eq_add_one_of_ne_zero (Nat.ne_of_gt (Nat.zero_lt_of_lt hfuel))
      have hlt : rs.length < fuel := Nat.lt_of_succ_lt_succ hfuel
      rw [List.forall_mem_cons] at htypes
      rw [List.flatMap_cons, List.append_assoc] at hs
      rw [List.flatMap_cons] at hfits
      have hsame : recordReads useSplice st.headerBuffer false r
          = recordReads useSplice st.headerBuffer st.headerSent r := by
        rw [hsent]
      rw [headerReads, hsame]
      by_cases hsilent : r.stdout = []
      · -- STDERR, or an empty record
        rw [if_pos hsilent]
        apply Outcome.step (readRecord_silent htypes.1 hsilent hs)
        rintro st' ⟨⟨hbuf, hsent', hout⟩, hstream⟩
        rw [hsilent, List.nil_append, ← hbuf] at hfits
        have hrest := ih st' htypes.2 (by rw [hsent', hsent]) hlt hfits hstream
        rw [hbuf, hout] at hrest
        refine hrest.mono ?_
        intro st'' h
        unfold Answered at h ⊢
        rw [headerText, if_pos hsilent, List.flatMap_cons, hsilent, List.nil_append]
        exact h
      · rw [if_neg hsilent]
        obtain ⟨hout, hne, hcontent⟩ := stdout_ne_nil hsilent
        rw [hcontent] at hfits
        by_cases hcomplete : Completes st.headerBuffer r
        · rw [if_pos hcomplete]
          have htext : headerText st.headerBuffer (r :: rs)
              = some (bufferAfter st.headerBuffer r) := by
            rw [headerText, if_neg hsilent, if_pos hcomplete]
          obtain ⟨⟨head, tail⟩, hhead⟩ := Option.isSome_iff_exists.mp hcomplete
          obtain ⟨body, hsplit⟩ := splitAfter_of_bufferAfter hhead (rs.flatMap Record.stdout)
          have htotal : st.headerBuffer ++ (r :: rs).flatMap Record.stdout
              = st.headerBuffer ++ (r.content ++ rs.flatMap Record.stdout) := by
            rw [List.flatMap_cons, hcontent]
          cases hredirect : isRedirect (cstr (bufferAfter st.headerBuffer r)) with
          | true =>
              have hpass := readRecord_redirect useSplice keepAlive hout hne hsent hhead hredirect hs
              unfold Outcome
              rw [if_pos rfl, spliceLoop]
              cases hreads : readAll [.recv 8, .recv (bufferRoom st.headerBuffer r)] st.sock with
              | none =>
                  rw [hreads] at hpass
                  obtain ⟨st', hst'⟩ := hpass
                  rw [hst']
                  exact ⟨st', rfl⟩
              | some sock' =>
                  rw [hreads] at hpass
                  obtain ⟨st', hst', hsent'⟩ := hpass
                  rw [hst']
                  refine ⟨st', rfl, ?_⟩
                  unfold Answered
                  rw [htext, htotal]
                  refine ⟨head, body, hsplit, ?_⟩
                  rw [if_pos hredirect]
                  exact hsent'
          | false =>
              rw [if_neg Bool.false_ne_true]
              apply Outcome.step (readRecord_complete hout hne hsent hhead hredirect hs)
              rintro st' ⟨⟨hsent', parts, hparts, hflat, hst'⟩, hstream⟩
              refine (spliceLoop_body htypes.2 htype hlen hsent' hlt hstream).mono ?_
              rintro st'' ⟨hpad, chunks, hchunks, hbody, hst''⟩
              unfold Answered
              rw [htext, htotal]
              refine ⟨head, body, hsplit, ?_⟩
              rw [hredirect, if_neg Bool.false_ne_true]
              refine ⟨hpad, parts ++ chunks, ?_, ?_, ?_⟩
              · intro c hc
                rcases List.mem_append.mp hc with hc | hc
                · exact hparts c hc
                · exact hchunks c hc
              · have hsound := splitAfter_sound hsplit
                rw [← List.append_assoc, ← hflat, List.append_assoc, ← hbody] at hsound
                rw [List.flatten_append]
                exact List.append_cancel_left hsound
              · rw [hst'', hst', List.flatMap_append]
                simp only [List.append_assoc]
        · rw [if_neg hcomplete]
          obtain ⟨hroom, hbuf⟩ := bufferAfter_of_not_completes hfits hcomplete
          have hnone : splitAfter blankLine (cstr (bufferAfter st.headerBuffer r)) = none :=
            Option.not_isSome_iff_eq_none.mp hcomplete
          apply Outcome.step (readRecord_collect hout hne hsent hroom hnone hs)
          rintro st' ⟨⟨hbuf', hsent', hout'⟩, hstream⟩
          rw [← List.append_assoc, ← hbuf, ← hbuf'] at hfits
          have hrest := ih st' htypes.2 (by rw [hsent', hsent]) hlt hfits hstream
          rw [hbuf', hout'] at hrest
          refine hrest.mono ?_
          intro st'' h
          unfold Answered at h ⊢
          rw [headerText, if_neg hsilent, if_neg hcomplete, List.flatMap_cons, hcontent,
            ← List.append_assoc, ← hbuf]
          exact h

end Runs

end Halmos.Fcgi
