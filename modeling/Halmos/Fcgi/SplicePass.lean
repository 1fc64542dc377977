import Halmos.Fcgi.Splice

set_option autoImplicit false

/-! # One record at a time

What a pass of the loop of `fcgi_io_splice_response` does with a record of a well-formed answer
at the front of the socket: the reads it makes (`recordReads`), and what it has sent the client
when none of them is short.
-/

namespace Halmos.Fcgi

open Http BackendSock

/-! ## Reading in pieces -/

/-- The sizes in which `n` bytes pass through `body_temp`. -/
def pieces (n : Nat) : List Nat := if n = 0 then [] else min n 16384 :: pieces (n - min n 16384)
termination_by n

def pieceReads (n : Nat) : List Read := (pieces n).map Read.recv

theorem pieceReads_zero : pieceReads 0 = [] := by
  unfold pieceReads
  rw [pieces, if_pos rfl]
  rfl

theorem pieceReads_pos {n : Nat} (h : n ≠ 0) :
    pieceReads n = .recv (min n 16384) :: pieceReads (n - min n 16384) := by
  unfold pieceReads
  rw [pieces, if_neg h]
  rfl

theorem pullLoop_none {n : Nat} {sock : BackendSock} (h : readAll (pieceReads n) sock = none)
    (put : List UInt8 → List UInt8) (out : List UInt8) : (pullLoop put n out sock).1 = false := by
  induction n using Nat.strong_induction_on generalizing sock out with
  | _ n ih =>
      by_cases hn : n = 0
      · rw [hn, pieceReads_zero] at h
        cases h
      · rw [pieceReads_pos hn, readAll] at h
        rw [pullLoop, if_neg hn]
        cases hread : sock.readOne (.recv (min n 16384)) with
        | none => simp only [if_pos (recvWaitAll_short hread)]
        | some x =>
            obtain ⟨got, sock₁⟩ := x
            obtain ⟨hrecv, hlen⟩ := recvWaitAll_of_readOne hread
            rw [hread] at h
            simp only [hrecv, hlen, ne_eq, not_true_eq_false, if_false]
            exact ih _ (by omega) h _

/-- **Pieces in time** pass on all of the content, cut into non-empty parts. -/
theorem pullLoop_some {n : Nat} {sock sock' : BackendSock} {content rest : List UInt8}
    (h : readAll (pieceReads n) sock = some sock') (hs : sock.stream = content ++ rest)
    (hn : content.length = n) (put : List UInt8 → List UInt8) (out : List UInt8) :
    sock'.stream = rest ∧ ∃ parts : List (List UInt8), parts.flatten = content ∧ (∀ p ∈ parts, p ≠ []) ∧
      pullLoop put n out sock = (true, out ++ parts.flatMap put, sock') := by
  induction n using Nat.strong_induction_on generalizing sock content out with
  | _ n ih =>
      by_cases hzero : n = 0
      · subst hzero
        rw [pieceReads_zero] at h
        cases h
        have hnil := List.length_eq_zero_iff.mp hn
        rw [hnil] at hs
        refine ⟨hs, [], hnil.symm, fun p hp => absurd hp List.not_mem_nil, ?_⟩
        rw [pullLoop, if_pos rfl, List.flatMap_nil, List.append_nil]
      · rw [pieceReads_pos hzero, readAll] at h
        obtain ⟨⟨got, sock₁⟩, hread, hrest⟩ := Option.bind_eq_some_iff.mp h
        have hsplit : sock.stream
            = content.take (min n 16384) ++ (content.drop (min n 16384) ++ rest) := by
          rw [hs, ← List.append_assoc, List.take_append_drop]
        have htake : (content.take (min n 16384)).length = min n 16384 := by
          rw [List.length_take]
          omega
        obtain ⟨hgot, hs₁⟩ := readOne_front hread hsplit htake
        have hdrop : (content.drop (min n 16384)).length = n - min n 16384 := by
          rw [List.length_drop, hn]
        obtain ⟨hstream, parts, hflat, hne, hpull⟩ :=
          ih (n - min n 16384) (by omega) hrest hs₁ hdrop (out ++ put got)
        refine ⟨hstream, got :: parts, ?_, ?_, ?_⟩
        · rw [List.flatten_cons, hflat, hgot, List.take_append_drop]
        · rw [List.forall_mem_cons]
          refine ⟨?_, hne⟩
          rw [← List.length_pos_iff, hgot, htake]
          omega
        · obtain ⟨hrecv, hlen⟩ := recvWaitAll_of_readOne hread
          rw [pullLoop, if_neg hzero]
          simp only [hrecv, hlen, ne_eq, not_true_eq_false, if_false]
          rw [hpull, List.flatMap_cons, List.append_assoc]

/-! ## Passes and their reads -/

/-- The pass fails when one of the reads is short; else it goes on with the socket they leave, in
a state that has `Q`. -/
def PassReads (p : Pass) (reads : List Read) (sock : BackendSock) (Q : SpliceState → Prop) : Prop :=
  match readAll reads sock with
  | none => ∃ st, p = .stop false st
  | some sock' => ∃ st, p = .next st ∧ st.sock = sock' ∧ Q st

theorem PassReads.mono {p : Pass} {reads : List Read} {sock : BackendSock}
    {Q Q' : SpliceState → Prop} (h : PassReads p reads sock Q) (hQ : ∀ st, Q st → Q' st) :
    PassReads p reads sock Q' := by
  unfold PassReads at h ⊢
  cases hreads : readAll reads sock with
  | none =>
      rw [hreads] at h
      exact h
  | some sock' =>
      rw [hreads] at h
      obtain ⟨st, hst, hsock, hq⟩ := h
      exact ⟨st, hst, hsock, hQ st hq⟩

theorem skip_passReads {n : Nat} (st : SpliceState) {front rest : List UInt8}
    (hs : st.sock.stream = front ++ rest) (hn : front.length = n) :
    PassReads (skip n st) [.recv n] st.sock
      (fun st' => st' = { st with sock := st'.sock } ∧ st'.sock.stream = rest) := by
  unfold PassReads skip
  rw [readAll]
  cases hread : st.sock.readOne (.recv n) with
  | none => exact ⟨_, if_pos (recvWaitAll_short hread)⟩
  | some x =>
      obtain ⟨got, sock₁⟩ := x
      obtain ⟨hrecv, hlen⟩ := recvWaitAll_of_readOne hread
      obtain ⟨-, hrest⟩ := readOne_front hread hs hn
      rw [hrecv]
      exact ⟨{ st with sock := sock₁ }, if_neg (not_not.mpr hlen), rfl, rfl, hrest⟩

/-- The reads of a record's padding. -/
def paddingReads (r : Record) : List Read :=
  if r.padding = [] then [] else [.recv r.padding.length]

/-- What follows `recordBody` in a pass at the record `r`. -/
def afterBody (r : Record) : Pass → Pass
  | .next st => if r.padding.length = 0 then .next st else skip r.padding.length st
  | other => other

section Header

variable {useSplice keepAlive : Bool} {requestId : Nat} {r : Record} {rest : List UInt8}
  {st : SpliceState}

theorem readRecord_short (h : st.sock.readOne (.recv 8) = none) :
    ∃ st', readRecord useSplice keepAlive st = .stop false st' := by
  unfold readRecord
  exact ⟨_, if_pos (recvWaitAll_short h)⟩

variable (useSplice keepAlive) in
/-- The pass reads the header of the record at the front of the socket. -/
theorem readRecord_header {got : List UInt8} {sock : BackendSock}
    (h : st.sock.readOne (.recv 8) = some (got, sock))
    (hs : st.sock.stream = r.encode requestId ++ rest) :
    sock.stream = r.content ++ (r.padding ++ rest) ∧
    readRecord useSplice keepAlive st
      = afterBody r (recordBody useSplice keepAlive ⟨r.type, r.content.length, r.padding.length⟩
          { st with sock := sock }) := by
  have hsplit : st.sock.stream = r.header requestId ++ (r.content ++ (r.padding ++ rest)) := by
    rw [hs]
    unfold Record.encode
    rw [List.append_assoc, List.append_assoc]
  obtain ⟨hrecv, -⟩ := recvWaitAll_of_readOne h
  obtain ⟨hgot, hs₁⟩ := readOne_front h hsplit (header_length requestId r)
  have hfields := headerFields_header requestId r []
  rw [List.append_nil] at hfields
  refine ⟨hs₁, ?_⟩
  unfold readRecord
  rw [hrecv]
  simp only [hgot, hfields, header_length, ne_eq, not_true_eq_false, if_false]
  unfold afterBody
  cases recordBody useSplice keepAlive ⟨r.type, r.content.length, r.padding.length⟩
    { st with sock := sock } <;> rfl

/-- A pass at a record that leads to the next one: its header, its content and its padding. -/
theorem readRecord_passReads {reads : List Read} {Q : List UInt8 → Bool → List UInt8 → Prop}
    (hs : st.sock.stream = r.encode requestId ++ rest)
    (hbody : ∀ sock, sock.stream = r.content ++ (r.padding ++ rest) →
      PassReads (recordBody useSplice keepAlive ⟨r.type, r.content.length, r.padding.length⟩
          { st with sock := sock }) reads sock
        (fun st' => Q st'.headerBuffer st'.headerSent st'.out ∧
          st'.sock.stream = r.padding ++ rest)) :
    PassReads (readRecord useSplice keepAlive st) (.recv 8 :: (reads ++ paddingReads r)) st.sock
      (fun st' => Q st'.headerBuffer st'.headerSent st'.out ∧ st'.sock.stream = rest) := by
  unfold PassReads
  rw [readAll]
  -- three reads in a row, and behind each the pass ends if the read fails
  cases hread : st.sock.readOne (.recv 8) with
  | none => exact readRecord_short hread
  | some x =>
      obtain ⟨got, sock₁⟩ := x
      obtain ⟨hs₁, hpass⟩ := readRecord_header useSplice keepAlive hread hs
      have hcontent := hbody sock₁ hs₁
      rw [Option.bind_some, readAll_append, hpass]
      unfold PassReads at hcontent
      cases hreads : readAll reads sock₁ with
      | none =>
          rw [hreads] at hcontent
          obtain ⟨st', hst'⟩ := hcontent
          rw [hst']
          exact ⟨st', rfl⟩
      | some sock₂ =>
          rw [hreads] at hcontent
          obtain ⟨st', hst', hsock, hQ, hstream⟩ := hcontent
          rw [hst', Option.bind_some, afterBody]
          unfold paddingReads
          by_cases hpad : r.padding = []
          · rw [hpad, List.nil_append] at hstream
            rw [if_pos hpad, hpad]
            exact ⟨st', rfl, hsock, hQ, hstream⟩
          · have hskip := skip_passReads st' hstream rfl
            rw [if_neg hpad, if_neg (fun h => hpad (List.length_eq_zero_iff.mp h)), ← hsock]
            unfold PassReads at hskip
            cases hpadreads : readAll [.recv r.padding.length] st'.sock with
            | none =>
                rw [hpadreads] at hskip
                exact hskip
            | some sock₃ =>
                rw [hpadreads] at hskip
                obtain ⟨st'', hnext, hsock'', heq, hrest⟩ := hskip
                refine ⟨st'', hnext, hsock'', ?_, hrest⟩
                rw [heq]
                exact hQ

end Header

/-! ## Records behind the header block -/

/-- How much of a STDOUT record goes to `header_buffer`. -/
def bufferRoom (buf : List UInt8) (r : Record) : Nat := min r.content.length (8191 - buf.length)

/-- What `header_buffer` holds after a STDOUT record. -/
def bufferAfter (buf : List UInt8) (r : Record) : List UInt8 :=
  buf ++ r.content.take (bufferRoom buf r)

/-- The reads of a record's content while `header_buffer` holds `buf` and the header block has
been sent or not. -/
def contentReads (useSplice : Bool) (buf : List UInt8) (sent : Bool) (r : Record) : List Read :=
  let n := r.content.length
  if r.content = [] then []
  else if r.type = fcgiStderr then [.recv n]
  else if sent then if useSplice then [.splice n] else pieceReads n
  else .recv (bufferRoom buf r) :: pieceReads (n - bufferRoom buf r)

def recordReads (useSplice : Bool) (buf : List UInt8) (sent : Bool) (r : Record) : List Read :=
  .recv 8 :: (contentReads useSplice buf sent r ++ paddingReads r)

section Records

variable {useSplice keepAlive : Bool} {requestId : Nat} {r : Record} {rest : List UInt8}
  {st : SpliceState}

/-- STDERR records and empty ones change nothing. -/
theorem readRecord_silent (htype : r.type = fcgiStdout ∨ r.type = fcgiStderr)
    (hsilent : r.stdout = []) (hs : st.sock.stream = r.encode requestId ++ rest) :
    PassReads (readRecord useSplice keepAlive st)
      (recordReads useSplice st.headerBuffer st.headerSent r) st.sock
      (fun st' => (st'.headerBuffer = st.headerBuffer ∧ st'.headerSent = st.headerSent ∧
        st'.out = st.out) ∧ st'.sock.stream = rest) := by
  refine readRecord_passReads (Q := fun buf sent out =>
    buf = st.headerBuffer ∧ sent = st.headerSent ∧ out = st.out) hs ?_
  intro sock hsock
  unfold contentReads recordBody
  by_cases hnil : r.content = []
  · -- nothing is read
    rw [hnil, List.nil_append] at hsock
    rw [if_pos hnil, hnil]
    rcases htype with htype | htype
    · rw [htype]
      exact ⟨_, rfl, rfl, ⟨rfl, rfl, rfl⟩, hsock⟩
    · rw [htype]
      exact ⟨_, rfl, rfl, ⟨rfl, rfl, rfl⟩, hsock⟩
  · have herr : r.type = fcgiStderr := by
      rcases htype with hout | herr
      · unfold Record.stdout at hsilent
        rw [if_pos hout] at hsilent
        exact absurd hsilent hnil
      · exact herr
    have hpos := List.length_pos_iff.mpr hnil
    have hskip := skip_passReads { st with sock := sock } hsock rfl
    rw [if_neg hnil, if_pos herr, herr]
    simp only
    rw [if_neg (by decide), if_pos ⟨trivial, hpos⟩]
    refine hskip.mono ?_
    rintro st' ⟨heq, hrest⟩
    refine ⟨?_, hrest⟩
    rw [heq]
    exact ⟨rfl, rfl, rfl⟩

/-- A STDOUT record behind the header block is sent as one chunk. -/
theorem readRecord_body (htype : r.type = fcgiStdout) (hne : r.content ≠ [])
    (hsent : st.headerSent = true) (hs : st.sock.stream = r.encode requestId ++ rest) :
    PassReads (readRecord useSplice keepAlive st)
      (recordReads useSplice st.headerBuffer st.headerSent r) st.sock
      (fun st' => (st'.headerBuffer = st.headerBuffer ∧ st'.headerSent = st.headerSent ∧
        st'.out = st.out ++ chunk r.content) ∧ st'.sock.stream = rest) := by
  refine readRecord_passReads (Q := fun buf sent out =>
    buf = st.headerBuffer ∧ sent = st.headerSent ∧ out = st.out ++ chunk r.content) hs ?_
  intro sock hsock
  have hlen : ¬ r.content.length = 0 := fun h => hne (List.length_eq_zero_iff.mp h)
  have herr : ¬ r.type = fcgiStderr := by
    rw [htype]
    decide
  unfold contentReads recordBody
  rw [if_neg hne, if_neg herr, if_pos hsent, if_pos htype, if_neg hlen, if_pos hsent]
  unfold PassReads bodyRecord
  -- `splice` takes the content in one read, `recv` in pieces of the size of the buffer
  cases useSplice with
  | true =>
      have hsome : (sock.spliceAll r.content.length).isSome := by
        apply spliceLoop_isSome
        show _ ≤ sock.stream.length
        rw [hsock, List.length_append]
        exact Nat.le_add_right _ _
      obtain ⟨⟨got, sock'⟩, hsplice⟩ := Option.isSome_iff_exists.mp hsome
      have hread : sock.readOne (.splice r.content.length) = some (got, sock') := hsplice
      obtain ⟨hgot, hrest⟩ := readOne_front hread hsock rfl
      rw [if_pos rfl, if_pos rfl, readAll, hread]
      simp only [hsplice]
      refine ⟨_, rfl, rfl, ⟨rfl, rfl, ?_⟩, hrest⟩
      rw [hgot]
      unfold chunk
      simp only [List.append_assoc]
  | false =>
      rw [if_neg Bool.false_ne_true, if_neg Bool.false_ne_true]
      cases hreads : readAll (pieceReads r.content.length) sock with
      | none =>
          have hfail := pullLoop_none hreads (fun got => got)
            (st.out ++ (numeral 16 r.content.length ++ crlf))
          simp only [hfail]
          exact ⟨_, rfl⟩
      | some sock' =>
          obtain ⟨hrest, parts, hflat, -, hpull⟩ := pullLoop_some hreads hsock rfl
            (fun got => got) (st.out ++ (numeral 16 r.content.length ++ crlf))
          simp only [hpull]
          refine ⟨_, rfl, rfl, ⟨rfl, rfl, ?_⟩, hrest⟩
          rw [List.flatMap_id', hflat]
          unfold chunk
          simp only [List.append_assoc]

/-! ## Records up to the blank line -/

theorem toRead_eq (buf : List UInt8) (r : Record) :
    (if r.content.length < 8192 - buf.length - 1 then r.content.length
      else 8192 - buf.length - 1) = bufferRoom buf r := by
  unfold bufferRoom
  split
  · omega
  · omega

variable (keepAlive st) in
theorem headerRecord_short (h : st.sock.readOne (.recv (bufferRoom st.headerBuffer r)) = none) :
    ∃ st', headerRecord keepAlive r.content.length st = .stop false st' := by
  unfold headerRecord
  simp only [toRead_eq]
  exact ⟨_, if_pos (recvWaitAll_short h)⟩

variable (keepAlive st) in
theorem headerRecord_got {got tail : List UInt8} {sock : BackendSock}
    (h : st.sock.readOne (.recv (bufferRoom st.headerBuffer r)) = some (got, sock))
    (hs : st.sock.stream = r.content ++ tail) :
    sock.stream = r.content.drop (bufferRoom st.headerBuffer r) ++ tail ∧
    headerRecord keepAlive r.content.length st
      = match splitAfter blankLine (cstr (bufferAfter st.headerBuffer r)) with
        | none => .next { st with headerBuffer := bufferAfter st.headerBuffer r, sock := sock }
        | some (head, _) =>
            headerComplete keepAlive r.content.length (bufferRoom st.headerBuffer r)
              (bufferAfter st.headerBuffer r) head st.out sock := by
  have hle : bufferRoom st.headerBuffer r ≤ r.content.length := Nat.min_le_left _ _
  have hsplit : st.sock.stream = r.content.take (bufferRoom st.headerBuffer r)
      ++ (r.content.drop (bufferRoom st.headerBuffer r) ++ tail) := by
    rw [hs, ← List.append_assoc, List.take_append_drop]
  obtain ⟨hrecv, hlen⟩ := recvWaitAll_of_readOne h
  obtain ⟨hgot, hrest⟩ := readOne_front h hsplit (List.length_take_of_le hle)
  refine ⟨hrest, ?_⟩
  unfold headerRecord
  simp only [toRead_eq, hrecv]
  rw [if_neg (not_not.mpr hlen), hgot]
  rfl

/-- The content of a STDOUT record that does not complete the header block goes to the buffer,
when there is room for all of it. -/
theorem readRecord_collect (htype : r.type = fcgiStdout) (hne : r.content ≠ [])
    (hsent : st.headerSent = false) (hroom : r.content.length ≤ 8191 - st.headerBuffer.length)
    (hnone : splitAfter blankLine (cstr (bufferAfter st.headerBuffer r)) = none)
    (hs : st.sock.stream = r.encode requestId ++ rest) :
    PassReads (readRecord useSplice keepAlive st)
      (recordReads useSplice st.headerBuffer st.headerSent r) st.sock
      (fun st' => (st'.headerBuffer = bufferAfter st.headerBuffer r ∧
        st'.headerSent = st.headerSent ∧ st'.out = st.out) ∧ st'.sock.stream = rest) := by
  refine readRecord_passReads (Q := fun buf sent out =>
    buf = bufferAfter st.headerBuffer r ∧ sent = st.headerSent ∧ out = st.out) hs ?_
  intro sock hsock
  have hlen : ¬ r.content.length = 0 := fun h => hne (List.length_eq_zero_iff.mp h)
  have herr : ¬ r.type = fcgiStderr := by
    rw [htype]
    decide
  have hall : bufferRoom st.headerBuffer r = r.content.length := Nat.min_eq_left hroom
  have hnot : ¬ st.headerSent = true := by
    rw [hsent]
    exact Bool.false_ne_true
  unfold contentReads recordBody
  rw [if_neg hne, if_neg herr, if_neg hnot, if_pos htype, if_neg hlen, if_neg hnot]
  rw [hall, Nat.sub_self, pieceReads_zero]
  unfold PassReads
  rw [readAll]
  cases hread : sock.readOne (.recv r.content.length) with
  | none =>
      rw [← hall] at hread
      exact headerRecord_short keepAlive { st with sock := sock } hread
  | some x =>
      obtain ⟨got, sock₁⟩ := x
      rw [← hall] at hread
      obtain ⟨hrest, hpass⟩ := headerRecord_got keepAlive { st with sock := sock } hread hsock
      simp only [hnone] at hpass
      refine ⟨_, hpass, rfl, ⟨rfl, rfl, rfl⟩, ?_⟩
      show sock₁.stream = _
      rw [hrest]
      simp only [hall, List.drop_length, List.nil_append]

/-- The record that completes the header block of an answer that is no redirect: the head, and
the content behind the blank line in chunks. -/
theorem readRecord_complete {head tail : List UInt8} (htype : r.type = fcgiStdout)
    (hne : r.content ≠ []) (hsent : st.headerSent = false)
    (hhead : splitAfter blankLine (cstr (bufferAfter st.headerBuffer r)) = some (head, tail))
    (hredirect : isRedirect (cstr (bufferAfter st.headerBuffer r)) = false)
    (hs : st.sock.stream = r.encode requestId ++ rest) :
    PassReads (readRecord useSplice keepAlive st)
      (recordReads useSplice st.headerBuffer st.headerSent r) st.sock
      (fun st' => (st'.headerSent = true ∧ ∃ chunks : List (List UInt8), (∀ c ∈ chunks, c ≠ []) ∧
        head ++ chunks.flatten = st.headerBuffer ++ r.content ∧
        st'.out = st.out ++ responseStart keepAlive (cstr (bufferAfter st.headerBuffer r)) ++ head
          ++ chunks.flatMap chunk) ∧ st'.sock.stream = rest) := by
  set buf := bufferAfter st.headerBuffer r with hbuf
  set k := bufferRoom st.headerBuffer r with hk
  refine readRecord_passReads (Q := fun _ sent out =>
    sent = true ∧ ∃ chunks : List (List UInt8), (∀ c ∈ chunks, c ≠ []) ∧
      head ++ chunks.flatten = st.headerBuffer ++ r.content ∧
      out = st.out ++ responseStart keepAlive (cstr buf) ++ head ++ chunks.flatMap chunk) hs ?_
  intro sock hsock
  have hlen : ¬ r.content.length = 0 := fun h => hne (List.length_eq_zero_iff.mp h)
  have herr : ¬ r.type = fcgiStderr := by
    rw [htype]
    decide
  have hnot : ¬ st.headerSent = true := by
    rw [hsent]
    exact Bool.false_ne_true
  -- the part of the buffer behind the head and the rest of the record are the body so far
  have hprefix : head <+: buf := by
    have hcstr := splitAfter_sound hhead
    exact List.IsPrefix.trans ⟨tail, hcstr.symm⟩ (cstr_isPrefix buf)
  have hcontent : head ++ (buf.drop head.length ++ r.content.drop k) = st.headerBuffer ++ r.content := by
    rw [← List.append_assoc, List.prefix_iff_eq_append.mp hprefix, hbuf, bufferAfter,
      List.append_assoc, List.take_append_drop]
  unfold contentReads recordBody
  rw [if_neg hne, if_neg herr, if_neg hnot, if_pos htype, if_neg hlen, if_neg hnot, ← hk]
  unfold PassReads
  rw [readAll]
  cases hread : sock.readOne (.recv k) with
  | none => exact headerRecord_short keepAlive { st with sock := sock } hread
  | some x =>
      obtain ⟨got, sock₁⟩ := x
      obtain ⟨hs₁, hpass⟩ := headerRecord_got keepAlive { st with sock := sock } hread hsock
      simp only [← hbuf, ← hk, hhead] at hpass hs₁
      have hdrop : (r.content.drop k).length = r.content.length - k := List.length_drop
      rw [hpass, Option.bind_some]
      unfold headerComplete
      simp only [hredirect, Bool.false_eq_true, if_false]
      cases hreads : readAll (pieceReads (r.content.length - k)) sock₁ with
      | none =>
          simp only [pullLoop_none hreads]
          exact ⟨_, rfl⟩
      | some sock₂ =>
          obtain ⟨hrest, parts, hflat, hparts, hpull⟩ := pullLoop_some hreads hs₁ hdrop chunk
            (if buf.drop head.length = [] then st.out ++ responseStart keepAlive (cstr buf) ++ head
              else st.out ++ responseStart keepAlive (cstr buf) ++ head
                ++ chunk (buf.drop head.length))
          simp only [hpull, if_true]
          by_cases hnil : buf.drop head.length = []
          · refine ⟨_, rfl, rfl, ⟨rfl, parts, hparts, ?_, ?_⟩, hrest⟩
            · rw [hflat, ← hcontent, hnil, List.nil_append]
            · rw [if_pos hnil]
          · refine ⟨_, rfl, rfl, ⟨rfl, buf.drop head.length :: parts, ?_, ?_, ?_⟩, hrest⟩
            · rw [List.forall_mem_cons]
              exact ⟨hnil, hparts⟩
            · rw [List.flatten_cons, hflat, hcontent]
            · rw [if_neg hnil, List.flatMap_cons, List.append_assoc _ (chunk _)]

variable (useSplice keepAlive) in
/-- The record that completes the header block of a redirect ends the loop. -/
theorem readRecord_redirect {head tail : List UInt8} (htype : r.type = fcgiStdout)
    (hne : r.content ≠ []) (hsent : st.headerSent = false)
    (hhead : splitAfter blankLine (cstr (bufferAfter st.headerBuffer r)) = some (head, tail))
    (hredirect : isRedirect (cstr (bufferAfter st.headerBuffer r)) = true)
    (hs : st.sock.stream = r.encode requestId ++ rest) :
    match readAll [.recv 8, .recv (bufferRoom st.headerBuffer r)] st.sock with
    | none => ∃ st', readRecord useSplice keepAlive st = .stop false st'
    | some _ => ∃ st', readRecord useSplice keepAlive st = .stop true st' ∧
        st'.out
          = st.out ++ responseStart keepAlive (cstr (bufferAfter st.headerBuffer r)) ++ head := by
  have hlen : ¬ r.content.length = 0 := fun h => hne (List.length_eq_zero_iff.mp h)
  have hnot : ¬ st.headerSent = true := by
    rw [hsent]
    exact Bool.false_ne_true
  rw [readAll]
  cases hread : st.sock.readOne (.recv 8) with
  | none => exact readRecord_short hread
  | some x =>
      obtain ⟨got, sock₁⟩ := x
      obtain ⟨hs₁, hpass⟩ := readRecord_header useSplice keepAlive hread hs
      rw [Option.bind_some, hpass, readAll]
      unfold recordBody
      rw [if_pos htype, if_neg hlen, if_neg hnot]
      cases hread₂ : sock₁.readOne (.recv (bufferRoom st.headerBuffer r)) with
      | none =>
          obtain ⟨st', hst'⟩ := headerRecord_short keepAlive { st with sock := sock₁ } hread₂
          rw [hst']
          exact ⟨st', rfl⟩
      | some y =>
          obtain ⟨got₂, sock₂⟩ := y
          obtain ⟨-, hcomplete⟩ := headerRecord_got keepAlive { st with sock := sock₁ } hread₂ hs₁
          simp only [hhead] at hcomplete
          rw [hcomplete]
          unfold headerComplete
          simp only [hredirect, if_true]
          exact ⟨_, rfl, rfl⟩

/-! ## The last record -/

variable (useSplice keepAlive) in
/-- The END_REQUEST record ends the loop; its padding is not read. -/
theorem readRecord_last (htype : r.type = fcgiEndRequest) (hlen : r.content.length = 8)
    (hs : st.sock.stream = r.encode requestId ++ rest) :
    match readAll [.recv 8, .recv 8] st.sock with
    | none => ∃ st', readRecord useSplice keepAlive st = .stop false st'
    | some sock' => ∃ st', readRecord useSplice keepAlive st = .stop true st' ∧
        st'.sock = sock' ∧ st'.sock.stream = r.padding ++ rest ∧
        st'.out = if st.headerSent then st.out ++ lastChunk else st.out := by
  have hout : ¬ r.type = fcgiStdout := by
    rw [htype]
    decide
  have herr : ¬ (r.type = fcgiStderr ∧ 0 < r.content.length) := by
    rintro ⟨herr, -⟩
    rw [htype] at herr
    exact absurd herr (by decide)
  rw [readAll]
  cases hread : st.sock.readOne (.recv 8) with
  | none => exact readRecord_short hread
  | some x =>
      obtain ⟨got, sock₁⟩ := x
      obtain ⟨hs₁, hpass⟩ := readRecord_header useSplice keepAlive hread hs
      have hskip := skip_passReads { st with sock := sock₁ } hs₁ hlen
      rw [Option.bind_some, hpass]
      unfold recordBody
      rw [if_neg hout, if_neg herr, if_pos htype]
      unfold PassReads at hskip
      cases hreads : readAll [.recv 8] sock₁ with
      | none =>
          simp only [hreads] at hskip
          obtain ⟨st', hst'⟩ := hskip
          rw [hst']
          exact ⟨st', rfl⟩
      | some sock₂ =>
          simp only [hreads] at hskip
          obtain ⟨st', hst', hsock, heq, hstream⟩ := hskip
          have hsame : st'.headerSent = st.headerSent ∧ st'.out = st.out := by
            rw [heq]
            exact ⟨rfl, rfl⟩
          rw [hst']
          refine ⟨_, rfl, ?_⟩
          rw [hsame.1, ← hsame.2]
          cases st.headerSent with
          | true => exact ⟨hsock, hstream, rfl⟩
          | false => exact ⟨hsock, hstream, rfl⟩

end Records

end Halmos.Fcgi
