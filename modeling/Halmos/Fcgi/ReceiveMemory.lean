import Halmos.Basic.Search
import Halmos.Fcgi.Params
import Halmos.Fcgi.StreamAnswer

set_option autoImplicit false

/-! # State 3 in memory

The receive state of `fcgi_session_http2_step`, with the reads of `fpm_chunk`, the writes to
`fcgi_header_buffer` and the arithmetic of `size_t` that the records of the backend decide on.
Whatever the backend sends, every access stays inside, and what is left of the answer is that of
`recordLoop` (`receive_refines`).
-/

namespace Halmos.Fcgi.Memory

/-! ## The functions -/

/-- `fcgi_gather_buf`, which `fcgi_header_buffer` points to, and `fcgi_header_bytes_read`. -/
structure HeaderBuffer where
  buf : Buffer 65536
  bytesRead : Nat

/-- `a - b` in `size_t`. -/
def sizeSub (a b : Nat) : Nat := (((a : Int) - b) % 2 ^ 64).toNat

/-- The content of a STDOUT record at `offset`: what the chunk and the buffer leave of it is copied,
with a NUL behind it. -/
def copyContent (chunk : List UInt8) (offset contentLength : Nat) (b : HeaderBuffer) :
    Option HeaderBuffer :=
  let availableInChunk : Int := max ((chunk.length : Int) - offset) 0
  let bytesToCopy :=
    if availableInChunk < contentLength then availableInChunk.toNat else contentLength
  let spaceLeft := sizeSub (sizeSub gatherBufSize b.bytesRead) 1
  let bytesToCopy := if spaceLeft < bytesToCopy then spaceLeft else bytesToCopy
  if 0 < bytesToCopy then do
    let bytes ← readBytes chunk offset bytesToCopy
    let buf ← b.buf.copy b.bytesRead bytes
    let buf ← buf.write (b.bytesRead + bytesToCopy) 0
    some ⟨buf, b.bytesRead + bytesToCopy⟩
  else some b

/-- The loop over the records, at `offset`. Every round is at least eight bytes further on. -/
def recordLoop (chunk : List UInt8) (offset : Nat) (b : HeaderBuffer) : Option HeaderBuffer :=
  if offset + 8 ≤ chunk.length then do
    let headerPtr ← readBytes chunk offset 8
    let h := headerFields headerPtr
    let next := offset + 8 + h.contentLength + h.paddingLength
    if h.type = fcgiStdout then do
      let b ← copyContent chunk (offset + 8) h.contentLength b
      recordLoop chunk next b
    else if h.type = fcgiEndRequest then some b
    else recordLoop chunk next b
  else some b
termination_by chunk.length - offset

/-- The search for the delimiter: where the body begins and how long it is, if there is one. -/
def findDelim (b : HeaderBuffer) : Option (HeaderBuffer × Option (Nat × Nat)) := do
  let text ← b.buf.str
  match strstr blankLine text with
  | some (rawHeaders, _) => do
      let buf ← b.buf.write rawHeaders.length 0
      let bodyData := rawHeaders.length + 4
      some (⟨buf, b.bytesRead⟩, some (bodyData, sizeSub b.bytesRead bodyData))
  | none => some (b, none)

/-- `case 3`, when `recv` has brought a chunk. -/
def receive (chunk : List UInt8) (b : HeaderBuffer) :
    Option (HeaderBuffer × Option (Nat × Nat)) := do
  let b ← recordLoop chunk 0 b
  findDelim b

/-- The calls of the step, until one of them finds the delimiter and leaves the state. -/
def receiveAll : List (List UInt8) → HeaderBuffer → Option (HeaderBuffer × Option (Nat × Nat))
  | [], b => some (b, none)
  | chunk :: chunks, b => do
      let (b, body) ← receive chunk b
      match body with
      | some body => some (b, some body)
      | none => receiveAll chunks b

/-- The buffer when state 3 is entered: BEGIN_REQUEST, and behind it whatever the parameters have
left there. -/
def requestBuffer (requestId : Nat) (params : Buffer 65520) : HeaderBuffer where
  buf := ⟨beginRequest requestId ++ params.bytes, by
    have hbegin : (beginRequest requestId).length = 16 := rfl
    rw [List.length_append, params.length_eq, hbegin]⟩
  bytesRead := 0

/-! ## What the buffer holds -/

/-- The text that has been received is in the buffer, with a NUL behind it. As long as there is
none, the buffer begins with the version and the type of BEGIN_REQUEST, and a NUL is behind the
request id. -/
structure Holds (b : HeaderBuffer) (text : List UInt8) : Prop where
  bytesRead : b.bytesRead = text.length
  length_le : text.length ≤ 65535
  ended : text ≠ [] → ∃ rest, b.buf.bytes = text ++ 0 :: rest
  request : text = [] → ∃ hi lo rest, b.buf.bytes = 1 :: 1 :: hi :: lo :: 0 :: rest

theorem requestBuffer_holds (requestId : Nat) (params : Buffer 65520) :
    Holds (requestBuffer requestId params) [] where
  bytesRead := rfl
  length_le := Nat.zero_le _
  ended h := absurd rfl h
  request _ := ⟨_, _, _, rfl⟩

theorem sizeSub_eq {a b : Nat} (hle : b ≤ a) (hlt : a < 2 ^ 64) : sizeSub a b = a - b := by
  unfold sizeSub
  omega

section Steps

variable {b : HeaderBuffer} {text chunk : List UInt8}

/-- **The copy**: it reads in the chunk and writes in the buffer, and the loop over lists adds the
same bytes. -/
theorem Holds.copyContent (h : Holds b text) (chunk : List UInt8) (offset contentLength : Nat) :
    ∃ b', Memory.copyContent chunk offset contentLength b = some b' ∧
      Holds b' (text ++ (chunk.drop offset).take
        (min (min contentLength (chunk.drop offset).length) (65536 - text.length - 1))) := by
  have hle := h.length_le
  have hspace : sizeSub (sizeSub gatherBufSize b.bytesRead) 1 = 65536 - text.length - 1 := by
    have hsize : gatherBufSize = 65536 := rfl
    have hinner : sizeSub 65536 text.length = 65536 - text.length :=
      sizeSub_eq (by omega) (by omega)
    rw [h.bytesRead, hsize, hinner, sizeSub_eq (by omega) (by omega)]
  -- the number of bytes, as a number without signs
  obtain ⟨n, hn, hcopy⟩ : ∃ n,
      n = min (min contentLength (chunk.drop offset).length) (65536 - text.length - 1) ∧
      Memory.copyContent chunk offset contentLength b = if 0 < n then do
          let bytes ← readBytes chunk offset n
          let buf ← b.buf.copy b.bytesRead bytes
          let buf ← buf.write (b.bytesRead + n) 0
          some ⟨buf, b.bytesRead + n⟩
        else some b := by
    refine ⟨_, rfl, ?_⟩
    have hlength := chunk.length_drop (i := offset)
    unfold Memory.copyContent
    rw [hspace]
    extract_lets available toCopy spaceLeft clipped
    have hclipped : clipped
        = min (min contentLength (chunk.drop offset).length) (65536 - text.length - 1) := by
      simp only [clipped, toCopy, available, spaceLeft]
      split_ifs <;> omega
    rw [hclipped]
  rw [hcopy, ← hn]
  by_cases hpos : 0 < n
  · have hlength : ((chunk.drop offset).take n).length = n := by
      rw [List.length_take]
      omega
    have hread : readBytes chunk offset n = some ((chunk.drop offset).take n) := by
      rw [readBytes, if_pos]
      rw [List.length_drop] at hn
      omega
    have hroom : b.bytesRead + ((chunk.drop offset).take n).length ≤ 65536 := by
      rw [h.bytesRead, hlength]
      omega
    obtain ⟨buf, hbuf, htake⟩ := b.buf.copy_take hroom
    have hfront : b.buf.bytes.take b.bytesRead = text := by
      rw [h.bytesRead]
      by_cases hnil : text = []
      · rw [hnil]
        rfl
      · obtain ⟨rest, hbytes⟩ := h.ended hnil
        rw [hbytes, List.take_left]
    rw [hlength, hfront] at htake
    have hin : b.bytesRead + n < 65536 := by
      rw [h.bytesRead]
      omega
    obtain ⟨buf', hwrite, hbytes⟩ := buf.write_eq 0 hin
    rw [if_pos hpos, hread]
    simp only [Option.bind_eq_bind, Option.bind_some, hbuf, hwrite]
    refine ⟨_, rfl, ?_, ?_, fun _ => ?_, fun hnil => ?_⟩
    · rw [List.length_append, hlength, h.bytesRead]
    · rw [List.length_append, hlength]
      omega
    · have hlt : b.bytesRead + n < buf.bytes.length := by
        rw [buf.length_eq]
        exact hin
      refine ⟨buf.bytes.drop (b.bytesRead + n + 1), ?_⟩
      rw [hbytes, List.set_eq_take_append_cons_drop, if_pos hlt, htake]
    · have hzero := congrArg List.length hnil
      rw [List.length_append, hlength, List.length_nil] at hzero
      omega
  · have hzero : n = 0 := by omega
    rw [if_neg hpos, hzero, List.take_zero, List.append_nil]
    exact ⟨b, rfl, h⟩

/-- **The loop** is the loop over lists, from the offset on. -/
theorem Holds.recordLoop (chunk : List UInt8) (offset : Nat) (h : Holds b text) :
    ∃ b', Memory.recordLoop chunk offset b = some b' ∧
      Holds b' (Fcgi.recordLoop (chunk.drop offset) text) := by
  induction hleft : chunk.length - offset using Nat.strong_induction_on
    generalizing offset b text with
  | _ left ih =>
    rw [Memory.recordLoop.eq_def, Fcgi.recordLoop.eq_def]
    by_cases hlong : offset + 8 ≤ chunk.length
    · have hshort : ¬ (chunk.drop offset).length < 8 := by
        rw [List.length_drop]
        omega
      have hfields : headerFields ((chunk.drop offset).take 8) = headerFields (chunk.drop offset) := by
        unfold headerFields
        simp
      rw [if_pos hlong, if_neg hshort, readBytes, if_pos hlong]
      simp only [Option.bind_eq_bind, Option.bind_some, hfields, List.drop_drop]
      generalize headerFields (chunk.drop offset) = f
      have hnext : offset + 8 + (f.contentLength + f.paddingLength)
          = offset + 8 + f.contentLength + f.paddingLength := by omega
      rw [hnext]
      split
      · obtain ⟨b₁, hcopy, h₁⟩ := h.copyContent chunk (offset + 8) f.contentLength
        rw [hcopy, Option.bind_some]
        exact ih _ (by omega) _ h₁ rfl
      · split
        · exact ⟨b, rfl, h⟩
        · exact ih _ (by omega) _ h rfl
    · have hshort : (chunk.drop offset).length < 8 := by
        rw [List.length_drop]
        omega
      rw [if_neg hlong, if_pos hshort]
      exact ⟨b, rfl, h⟩

/-- Two bytes that no delimiter has, and the request id. -/
theorem strstr_requestId (hi lo : UInt8) : strstr blankLine (cstr [1, 1, hi, lo]) = none := by
  cases hfound : strstr blankLine (cstr [1, 1, hi, lo]) with
  | none => rfl
  | some r =>
      obtain ⟨before, found⟩ := r
      obtain ⟨hcut, tail, rfl⟩ := strstr_sound hfound
      -- the four bytes would be the delimiter
      have hpre := cstr_isPrefix [1, 1, hi, lo]
      have hlen := hpre.length_le
      have hblank : blankLine.length = 4 := rfl
      rw [hcut] at hlen
      simp only [List.length_append, List.length_cons, List.length_nil] at hlen
      have hbefore : before = [] := List.length_eq_zero_iff.mp (by omega)
      rw [hcut, hbefore, List.nil_append] at hpre
      obtain ⟨more, hmore⟩ := hpre
      have hfirst : some (0x0D : UInt8) = some 1 := congrArg List.head? hmore
      exact absurd hfirst (by decide)

/-- `strstr` searches a string that ends in the buffer, and finds what it would find in the text. -/
theorem Holds.str (h : Holds b text) :
    ∃ s, b.buf.str = some s ∧ strstr blankLine s = strstr blankLine (cstr text) := by
  by_cases hnil : text = []
  · obtain ⟨hi, lo, rest, hbytes⟩ := h.request hnil
    have hsplit : b.buf.bytes = [1, 1, hi, lo] ++ 0 :: rest := hbytes
    refine ⟨_, Buffer.str_eq_of_append hsplit, ?_⟩
    rw [hnil, strstr_requestId]
    rfl
  · obtain ⟨rest, hbytes⟩ := h.ended hnil
    exact ⟨_, Buffer.str_eq_of_append hbytes, rfl⟩

theorem Holds.findDelim_none (h : Holds b text) (hno : strstr blankLine (cstr text) = none) :
    findDelim b = some (b, none) := by
  obtain ⟨s, hstr, hfound⟩ := h.str
  unfold findDelim
  rw [hstr, Option.bind_eq_bind, Option.bind_some, hfound, hno]

/-- **The delimiter**: the body is what has been received behind it. -/
theorem Holds.findDelim_some (h : Holds b text) {rawHeaders found : List UInt8}
    (hdelim : strstr blankLine (cstr text) = some (rawHeaders, found)) :
    rawHeaders.length + 4 ≤ text.length ∧ ∃ b', findDelim b
      = some (b', some (rawHeaders.length + 4, (text.drop (rawHeaders.length + 4)).length)) ∧
      b'.bytesRead = text.length := by
  obtain ⟨s, hstr, hfound⟩ := h.str
  obtain ⟨hcut, hpre⟩ := strstr_sound hdelim
  have hle := h.length_le
  have hinside : rawHeaders.length + 4 ≤ text.length := by
    have hsum := congrArg List.length hcut
    have hfour : 4 ≤ found.length := hpre.length_le
    have hprefix := (cstr_isPrefix text).length_le
    rw [List.length_append] at hsum
    omega
  have hroom : rawHeaders.length < 65536 := by omega
  obtain ⟨buf, hwrite, -⟩ := b.buf.write_eq 0 hroom
  refine ⟨hinside, ⟨buf, b.bytesRead⟩, ?_, h.bytesRead⟩
  unfold findDelim
  rw [hstr, Option.bind_eq_bind, Option.bind_some, hfound, hdelim]
  simp only [Option.bind_eq_bind, Option.bind_some, hwrite]
  rw [h.bytesRead, sizeSub_eq hinside (by omega), List.length_drop]

/-- The step on lists searches the same string. -/
theorem strstr_headerBuffer {s : FcgiStream} (hgather : beginRequest s.streamId <+: s.gatherBuf) :
    strstr blankLine s.headerBuffer = strstr blankLine (cstr s.headerText) := by
  unfold FcgiStream.headerBuffer
  split
  · next hnil =>
    obtain ⟨params, hparams⟩ := hgather
    have hsplit : s.gatherBuf = [1, 1, byteAt s.streamId 8, byteAt s.streamId 0]
        ++ 0 :: ((beginRequest s.streamId).drop 5 ++ params) := hparams.symm
    rw [hsplit, cstr_append_zero, strstr_requestId, hnil]
    rfl
  · rfl

/-- **The call in memory is the step**: what it leaves is the text of the step, and it finds the
delimiter when the step is done. -/
theorem receive_refines {s : FcgiStream} {i : StepInput}
    (hgather : beginRequest s.streamId <+: s.gatherBuf) (hin : i.pollIn = true)
    (hrecv : i.recv = .data chunk) (h : Holds b s.headerText) :
    ∃ b' body, receive chunk b = some (b', body) ∧
      (body.isSome = true ↔ (receiveStep i s).status = .completed) ∧
      (body = none → Holds b' (receiveStep i s).stream.headerText) := by
  obtain ⟨b₁, hloop, h₁⟩ := h.recordLoop chunk 0
  rw [List.drop_zero] at h₁
  have hstep : receiveStep i s
      = delimStep { s with headerText := Fcgi.recordLoop chunk s.headerText } := by
    rw [receiveStep, if_pos hin, hrecv]
  have hsearch := strstr_headerBuffer
    (s := { s with headerText := Fcgi.recordLoop chunk s.headerText }) hgather
  rw [receive, hloop, Option.bind_eq_bind, Option.bind_some, hstep, delimStep, hsearch]
  cases hdelim : strstr blankLine (cstr (Fcgi.recordLoop chunk s.headerText)) with
  | none => exact ⟨b₁, none, h₁.findDelim_none hdelim, by simp, fun _ => h₁⟩
  | some r =>
      obtain ⟨-, b₂, hfind, -⟩ := h₁.findDelim_some hdelim
      exact ⟨b₂, _, hfind, by simp, nofun⟩

end Steps

/-! ## The chunks of an answer -/

/-- **The receive state**: whatever `recv` brings, chunk by chunk, each call of the step comes to its
end with all reads in the chunk and all writes in the buffer, the buffer holds no more than 65535
bytes, and the body that is handed on is a part of them. -/
theorem receiveAll_safe (requestId : Nat) (params : Buffer 65520) (chunks : List (List UInt8)) :
    ∃ b body, receiveAll chunks (requestBuffer requestId params) = some (b, body) ∧
      b.bytesRead ≤ 65535 ∧ ∀ r ∈ body, r.1 + r.2 = b.bytesRead := by
  suffices hall : ∀ (b : HeaderBuffer) (text : List UInt8), Holds b text →
      ∃ b' body, receiveAll chunks b = some (b', body) ∧
        b'.bytesRead ≤ 65535 ∧ ∀ r ∈ body, r.1 + r.2 = b'.bytesRead from
    hall _ _ (requestBuffer_holds requestId params)
  intro b text h
  induction chunks generalizing b text with
  | nil =>
      refine ⟨b, none, rfl, ?_, nofun⟩
      rw [h.bytesRead]
      exact h.length_le
  | cons chunk chunks ih =>
      obtain ⟨b₁, hloop, h₁⟩ := h.recordLoop chunk 0
      rw [receiveAll, receive, hloop]
      simp only [Option.bind_eq_bind, Option.bind_some]
      cases hdelim : strstr blankLine (cstr (Fcgi.recordLoop (chunk.drop 0) text)) with
      | none =>
          rw [h₁.findDelim_none hdelim]
          exact ih b₁ _ h₁
      | some r =>
          obtain ⟨hinside, b₂, hfind, hread⟩ := h₁.findDelim_some hdelim
          rw [hfind]
          refine ⟨b₂, _, rfl, hread.trans_le h₁.length_le, ?_⟩
          rintro _ ⟨⟩
          rw [hread, List.length_drop]
          omega

end Halmos.Fcgi.Memory
