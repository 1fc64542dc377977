import Halmos.Basic.Search
import Halmos.Fcgi.StreamEnd
import Halmos.Http2.HpackBuf

set_option autoImplicit false

/-! # HEADERS in front of DATA

`fcgi_session_http2_step` sends the header block of a backend and then the body. It does not learn
whether the block has gone out: `http2_response_send_complex_header` returns without a frame when
there is no memory, and `http2_frame_send` drops a block of more than 16384 bytes. Then the DATA
frames are the first of the stream (`headersFirst_iff`).
-/

namespace Halmos.Fcgi

open Http2

/-! ## The size of a block -/

/-- The bytes the lines have taken when the loop over them ends, in a buffer with `size` bytes in
it. -/
def sizeWritten : List Bool → Nat → Nat → List (List UInt8 × List UInt8) → Nat
  | _, size, _, [] => size
  | reallocs, size, capacity, entry :: entries =>
      if capacity < size + entry.1.length + entry.2.length + 16 then
        if reallocs.headD false then
          sizeWritten reallocs.tail (size + entrySize entry) (capacity * 2) entries
        else size
      else sizeWritten reallocs (size + entrySize entry) capacity entries

theorem entryLoop_length (reallocs : List Bool) (entries : List (List UInt8 × List UInt8))
    (b : HpackBuf) : (entryLoop reallocs entries b).bytes.length
      = sizeWritten reallocs b.bytes.length b.capacity entries := by
  have hput : ∀ (b : HpackBuf) (entry : List UInt8 × List UInt8),
      (b.putEntry entry).bytes.length = b.bytes.length + entrySize entry := by
    intro b entry
    rw [HpackBuf.putEntry_bytes, List.length_append, entryBytes_length]
  induction entries generalizing reallocs b with
  | nil => rfl
  | cons entry entries ih =>
      rw [entryLoop, sizeWritten]
      split
      · split
        · rw [ih, hput]
          rfl
        · rfl
      · rw [ih, hput]
        rfl

/-- With memory for every line the block has the size of the status and all the lines. -/
theorem sizeWritten_granted {reallocs : List Bool} {size capacity : Nat}
    {entries : List (List UInt8 × List UInt8)} (hall : ∀ r ∈ reallocs, r = true)
    (hlen : entries.length ≤ reallocs.length) :
    sizeWritten reallocs size capacity entries = size + (entries.map entrySize).sum := by
  induction entries generalizing reallocs size capacity with
  | nil => rfl
  | cons entry entries ih =>
      rw [List.length_cons] at hlen
      rw [sizeWritten, List.map_cons, List.sum_cons, ← Nat.add_assoc]
      split
      · cases reallocs with
        | nil => simp at hlen
        | cons r reallocs =>
            obtain rfl := hall r List.mem_cons_self
            have hrest : ∀ r ∈ reallocs, r = true := fun r hr => hall r (List.mem_cons_of_mem _ hr)
            rw [List.headD_cons, if_pos rfl, List.tail_cons]
            exact ih hrest (Nat.le_of_succ_le_succ hlen)
      · exact ih hall (by omega)

/-- There is memory for the block of a header text, and it fits into a frame. -/
def HeaderFits (a : Allocs) (head : List UInt8) : Prop :=
  a.malloc = true ∧ a.strdup = true ∧
    sizeWritten a.realloc (statusField (finalStatus head)).length 16384 (headerEntries head) ≤ 16384

instance (a : Allocs) (head : List UInt8) : Decidable (HeaderFits a head) :=
  inferInstanceAs (Decidable (_ ∧ _ ∧ _))

/-! ## What is emitted -/

/-- The frame an event hands to `http2_frame_send`, if any. -/
def Sent.frame? (a : Allocs) (streamId : Nat) : Sent → Option FrameCall
  | .headers raw flags => complexHeaderFrame a streamId raw flags
  | .frame c => some c

/-- The frames that are emitted: those `http2_frame_send` does not drop. -/
def emittedFrames (a : Allocs) (streamId : Nat) (sent : List Sent) : List FrameCall :=
  (sent.filterMap (Sent.frame? a streamId)).filter (fun c => c.payload.length ≤ 16384)

/-- HEADERS with END_HEADERS. -/
def FrameCall.CompleteHeaders (c : FrameCall) : Prop := c.type = 0x01 ∧ c.flags &&& 0x04 = 0x04

/-- In front of every DATA frame there are complete HEADERS. -/
def HeadersFirst (frames : List FrameCall) : Prop :=
  ∀ pre c post, frames = pre ++ c :: post → c.type = 0x00 →
    ∃ h ∈ pre, FrameCall.CompleteHeaders h

theorem headersFirst_nil : HeadersFirst [] := by
  intro pre c post h
  simp at h

/-- The frame of a header block, if it is emitted. -/
theorem complexHeaderFrame_emitted (a : Allocs) (streamId : Nat) (head : List UInt8) :
    ∃ block, (complexHeaderFrame a streamId head 0x04).toList.filter
        (fun c => c.payload.length ≤ 16384)
      = if HeaderFits a head then [⟨0x01, 0x04, streamId, block⟩] else [] := by
  have hlen := entryLoop_length a.realloc (headerEntries head)
    (HpackBuf.fresh.put (statusField (finalStatus head)))
  rw [show (HpackBuf.fresh.put (statusField (finalStatus head))).bytes
      = statusField (finalStatus head) from rfl] at hlen
  unfold complexHeaderFrame complexHeaderBuf HeaderFits
  by_cases hmalloc : a.malloc = true
  · by_cases hstrdup : a.strdup = true
    · refine ⟨(entryLoop a.realloc (headerEntries head)
        (HpackBuf.fresh.put (statusField (finalStatus head)))).bytes, ?_⟩
      simp only [hmalloc, hstrdup, if_true, Option.map_some, Option.toList_some, true_and]
      rw [List.filter_cons, List.filter_nil]
      simp only [hlen, decide_eq_true_eq]
      rfl
    · exact ⟨[], by simp [hstrdup]⟩
  · exact ⟨[], by simp [hmalloc]⟩

/-- The frames of an answer: the header block if it fits, and the body. -/
theorem emittedFrames_answerOf (a : Allocs) (streamId : Nat) (s : FcgiStream)
    (head body : List UInt8) :
    ∃ block, emittedFrames a streamId (answerOf s head body)
      = (if HeaderFits a head then [⟨0x01, 0x04, streamId, block⟩] else [])
        ++ (http2ResponseSendData s.streamId s.state body true).1 := by
  obtain ⟨-, hdata⟩ := http2ResponseSendData_body s.streamId s.state body true
  obtain ⟨block, hblock⟩ := complexHeaderFrame_emitted a streamId head
  have hframes : ∀ frames : List FrameCall, (∀ c ∈ frames, c.payload.length ≤ 16384) →
      emittedFrames a streamId (frames.map .frame) = frames := by
    intro frames hshort
    unfold emittedFrames
    rw [List.filterMap_map]
    have hid : frames.filterMap (Sent.frame? a streamId ∘ Sent.frame) = frames :=
      List.filterMap_some
    rw [hid, List.filter_eq_self]
    exact fun c hc => decide_eq_true (hshort c hc)
  have hbody := hframes _ (fun c hc => (hdata c hc).2.2)
  have hhead : emittedFrames a streamId [.headers head 0x04]
      = (complexHeaderFrame a streamId head 0x04).toList.filter
        (fun c => c.payload.length ≤ 16384) := by
    have hone : [Sent.headers head 0x04].filterMap (Sent.frame? a streamId)
        = (complexHeaderFrame a streamId head 0x04).toList := by
      cases hframe : complexHeaderFrame a streamId head 0x04 <;> simp [Sent.frame?, hframe]
    rw [emittedFrames, hone]
  refine ⟨block, ?_⟩
  rw [← hblock, ← hhead, ← hbody]
  unfold emittedFrames
  rw [answerOf, ← List.filter_append, ← List.filterMap_append]
  rfl

/-- An answer begins with its headers exactly if they fit. -/
theorem headersFirst_answerOf (a : Allocs) (streamId : Nat) (s : FcgiStream)
    (head body : List UInt8) :
    HeadersFirst (emittedFrames a streamId (answerOf s head body)) ↔ HeaderFits a head := by
  obtain ⟨block, hframes⟩ := emittedFrames_answerOf a streamId s head body
  obtain ⟨-, hdata⟩ := http2ResponseSendData_body s.streamId s.state body true
  obtain ⟨e, he, -⟩ := http2ResponseSendData_endStream s.streamId s.state body
  rw [hframes]
  constructor
  · intro h
    by_contra hno
    rw [if_neg hno, List.nil_append] at h
    -- no frame of the body is HEADERS
    obtain ⟨pre, post, heq⟩ := List.append_of_mem he
    obtain ⟨c, hc, hheaders⟩ := h pre e post heq (hdata e he).1
    have htype := (hdata c (heq ▸ List.mem_append_left _ hc)).1
    rw [hheaders.1] at htype
    exact absurd htype (by decide)
  · intro hfit pre c post heq htype
    rw [if_pos hfit, List.singleton_append] at heq
    cases pre with
    | nil =>
        obtain ⟨rfl, -⟩ := List.cons.inj heq
        exact absurd htype (show (0x01 : UInt8) ≠ 0x00 by decide)
    | cons first pre =>
        obtain ⟨rfl, -⟩ := List.cons.inj heq
        exact ⟨_, List.mem_cons_self, rfl, show (0x04 : UInt8) &&& 0x04 = 0x04 by decide⟩

/-! ## Exchanges -/

/-- The header block of every answer that arrives fits. -/
def AnswersFit (a : Allocs) (s : FcgiStream) (is : List StepInput) : Prop :=
  ∀ pre i post head body, is = pre ++ i :: post → (flushAll pre s).2.isFcgiActive = true →
    Answers (flushAll pre s).2 i head body → HeaderFits a head

/-- What is sent up to the answer, and behind it, is the answer. -/
theorem flushAll_of_answers {s : FcgiStream} {pre : List StepInput} {i : StepInput}
    {head body : List UInt8} (post : List StepInput) (h : Waiting s)
    (hactive : (flushAll pre s).2.isFcgiActive = true)
    (ha : Answers (flushAll pre s).2 i head body) :
    (flushAll (pre ++ i :: post) s).1 = answerOf (flushAll pre s).2 head body := by
  obtain ⟨hsent, hwait⟩ := flushAll_active h hactive
  obtain ⟨hanswer, hoff⟩ := flushFcgi_of_answers hwait ha
  rw [flushAll_append, hsent, flushAll, flushAll_inactive post hoff, hanswer]
  exact List.append_nil _

/-- Without an answer nothing is sent. -/
theorem flushAll_unanswered {s : FcgiStream} (is : List StepInput) (h : Waiting s)
    (hno : ∀ pre i post head body, is = pre ++ i :: post →
      (flushAll pre s).2.isFcgiActive = true → ¬ Answers (flushAll pre s).2 i head body) :
    (flushAll is s).1 = [] := by
  by_cases hactive : (flushAll is s).2.isFcgiActive = true
  · exact (flushAll_active h hactive).1
  · obtain ⟨pre, i, post, his, hpre, hoff⟩ := exists_ending h.active (Bool.eq_false_iff.mpr hactive)
    obtain ⟨hsent, hwait⟩ := flushAll_active h hpre
    have hquiet := (flushFcgi_quiet hwait (fun head body => hno pre i post head body his hpre)).1
    rw [his, flushAll_append, hsent, flushAll, flushAll_inactive post hoff, hquiet]
    rfl

/-- **When DATA follows HEADERS**: in every exchange with a backend, the frames emitted on the
stream begin with complete HEADERS exactly if the header block of the answer fits. -/
theorem headersFirst_iff (a : Allocs) (s : FcgiStream) (is : List StepInput) :
    HeadersFirst (emittedFrames a s.streamId (flushAll is (routeFastcgiBackend s)).1) ↔
      AnswersFit a (routeFastcgiBackend s) is := by
  have hwait := waiting_routed s
  constructor
  · intro h pre i post head body his hactive ha
    rw [his, flushAll_of_answers post hwait hactive ha, headersFirst_answerOf] at h
    exact h
  · intro h
    by_cases hanswer : ∃ pre i post head body, is = pre ++ i :: post ∧
        (flushAll pre (routeFastcgiBackend s)).2.isFcgiActive = true ∧
        Answers (flushAll pre (routeFastcgiBackend s)).2 i head body
    · obtain ⟨pre, i, post, head, body, his, hactive, ha⟩ := hanswer
      have hfit := h pre i post head body his hactive ha
      rw [his, flushAll_of_answers post hwait hactive ha, headersFirst_answerOf]
      exact hfit
    · have hno := flushAll_unanswered is hwait (fun pre i post head body his hactive ha =>
        hanswer ⟨pre, i, post, head, body, his, hactive, ha⟩)
      rw [hno]
      exact headersFirst_nil

/-! ## A cookie that does not fit -/

/-- A STDOUT record without padding. -/
def stdoutBytes (content : List UInt8) : List UInt8 :=
  [1, fcgiStdout, byteAt 1 8, byteAt 1 0, byteAt content.length 8, byteAt content.length 0,
    byteAt 0 0, 0] ++ content

theorem pieceText_stdoutBytes {content : List UInt8} (h : content.length < 2 ^ 16) :
    pieceText (stdoutBytes content) = content := by
  have hfields : headerFields (stdoutBytes content) = ⟨fcgiStdout, content.length, 0⟩ := by
    have hrecord : stdoutBytes content
        = Record.header 1 ⟨fcgiStdout, content, [], h, by decide⟩ ++ content := rfl
    rw [hrecord, headerFields_header]
    rfl
  have hlen : ¬ (stdoutBytes content).length < 8 := by
    rw [stdoutBytes, List.length_append]
    exact Nat.not_lt.mpr (Nat.le_add_right _ _)
  have hrest : (stdoutBytes content).drop 8 = content := rfl
  have hnil : pieceText [] = [] := by
    rw [pieceText, if_pos (by decide)]
  rw [pieceText, if_neg hlen, hfields, hrest]
  dsimp only
  rw [if_pos rfl, List.take_length, Nat.add_zero, List.drop_length, hnil, List.append_nil]

/-- The visit that receives a piece without the end of the header block. -/
theorem flushFcgi_headless {s : FcgiStream} {params text piece : List UInt8}
    (htext : text.length ≤ 65535) (h : Headless ((text ++ pieceText piece).take 65535)) :
    flushFcgi (s.reading params text) (received piece)
      = ([], s.reading params ((text ++ pieceText piece).take 65535)) := by
  have hactive : (s.reading params text).isFcgiActive = true := rfl
  unfold flushFcgi
  rw [if_pos hactive, step_headless s params piece htext h]
  rfl

theorem cookie_plain (n : Nat) : ∀ c ∈ cookie n, c ≠ 0x0D ∧ c ≠ 0 := by
  have hkey : ∀ c ∈ ascii "Set-Cookie:", c ≠ 0x0D ∧ c ≠ 0 := by decide +kernel
  intro c hc
  rcases List.mem_append.mp hc with hc | hc
  · exact hkey c hc
  · rw [List.eq_of_mem_replicate hc]
    decide

theorem headless_cookie (n : Nat) : Headless (cookie n) := by
  have hnone : strstr blankLine (cookie n) = none := by
    rw [← Option.not_isSome_iff_eq_none, strstr_isSome_iff]
    intro hin
    exact (cookie_plain n 0x0D (hin.subset (by decide))).1 rfl
  unfold Headless splitAfter
  rw [cstr_of_notMem fun hzero => (cookie_plain n 0 hzero).2 rfl, hnone]
  rfl

/-- The blank line behind the cookie is found. -/
theorem splitAfter_cookie (n : Nat) (rest : List UInt8) :
    splitAfter blankLine (cookie n ++ (blankLine ++ rest))
      = some (cookie n ++ blankLine, rest) := by
  have hcr : 0x0D ∉ cookie n := fun hmem => (cookie_plain n 0x0D hmem).1 rfl
  have hblank : blankLine = 0x0D :: [0x0A, 0x0D, 0x0A] := by decide
  have hfound : strstr blankLine (cookie n ++ (blankLine ++ rest))
      = some (cookie n, blankLine ++ rest) := by
    rw [hblank, strstr_skip hcr, ← hblank, strstr_here]
    simp
  rw [splitAfter, hfound, Option.map_some, List.drop_left]

theorem cookie_append (n m : Nat) : cookie n ++ List.replicate m 0x61 = cookie (n + m) := by
  rw [cookie, List.append_assoc, List.replicate_append_replicate]
  rfl

/-- A cookie of `3 * m` bytes, in three records. -/
def cookieReads (m : Nat) : List StepInput :=
  [sendAll, received (stdoutBytes (cookie m)), received (stdoutBytes (List.replicate m 0x61)),
    received (stdoutBytes (List.replicate m 0x61 ++ (blankLine ++ ascii "hi")))]

/-- The stream that has sent its request, which is 16 bytes long. -/
def askedStream : FcgiStream := { bareStream 1 with gSent := 16 }

theorem cookie_length (n : Nat) : (cookie n).length = n + 11 := by
  rw [cookie, List.length_append, List.length_replicate, Nat.add_comm]
  rfl

/-- The stream when two thirds of the cookie have arrived. -/
theorem cookie_reading {m : Nat} (hm : m < 10000) :
    flushAll ((cookieReads m).take 3) (routeFastcgiBackend (bareStream 1))
      = ([], askedStream.reading [] (cookie (m + m))) := by
  have hplain : (List.replicate m (0x61 : UInt8)).length = m := List.length_replicate
  have hstart : flushFcgi (routeFastcgiBackend (bareStream 1)) sendAll
      = ([], askedStream.reading [] []) := rfl
  -- the text after each of the two records
  have htext : ([] ++ pieceText (stdoutBytes (cookie m))).take 65535 = cookie m := by
    rw [pieceText_stdoutBytes (by rw [cookie_length]; omega), List.nil_append,
      List.take_of_length_le (by rw [cookie_length]; omega)]
  have htext' : (cookie m ++ pieceText (stdoutBytes (List.replicate m 0x61))).take 65535
      = cookie (m + m) := by
    rw [pieceText_stdoutBytes (by omega), cookie_append,
      List.take_of_length_le (by rw [cookie_length]; omega)]
  have hfirst : flushFcgi (askedStream.reading [] [])
      (received (stdoutBytes (cookie m)))
      = ([], askedStream.reading [] (cookie m)) := by
    rw [flushFcgi_headless (Nat.zero_le _) (by rw [htext]; exact headless_cookie m), htext]
  have hsecond : flushFcgi (askedStream.reading [] (cookie m))
      (received (stdoutBytes (List.replicate m 0x61)))
      = ([], askedStream.reading [] (cookie (m + m))) := by
    rw [flushFcgi_headless (by rw [cookie_length]; omega)
      (by rw [htext']; exact headless_cookie _), htext']
  show flushAll [sendAll, received (stdoutBytes (cookie m)),
    received (stdoutBytes (List.replicate m 0x61))] _ = _
  rw [flushAll, hstart, flushAll, hfirst, flushAll, hsecond]
  rfl

/-- The rest of the cookie arrives with the third record. -/
theorem cookie_answers {m : Nat} (hm : m < 10000) :
    Answers (askedStream.reading [] (cookie (m + m)))
      (received (stdoutBytes (List.replicate m 0x61 ++ (blankLine ++ ascii "hi"))))
      (cookie (m + m + m)) (ascii "hi") := by
  have hplain : (List.replicate m (0x61 : UInt8)).length = m := List.length_replicate
  have hrest : (blankLine ++ ascii "hi").length = 6 := by decide
  have hlast : (List.replicate m (0x61 : UInt8) ++ (blankLine ++ ascii "hi")).length < 2 ^ 16 := by
    rw [List.length_append]
    omega
  have htext : (cookie (m + m) ++ pieceText (stdoutBytes (List.replicate m 0x61 ++
      (blankLine ++ ascii "hi")))).take 65535 = cookie (m + m + m) ++ (blankLine ++ ascii "hi") := by
    rw [pieceText_stdoutBytes hlast, ← List.append_assoc, cookie_append]
    apply List.take_of_length_le
    rw [List.length_append, cookie_length]
    omega
  refine ⟨rfl, rfl, _, rfl, ?_, ?_⟩
  · show splitAfter blankLine ((cookie (m + m) ++ pieceText _).take 65535) = _
    rw [htext, splitAfter_cookie]
  · intro hzero
    rcases List.mem_append.mp hzero with hzero | hzero
    · exact (cookie_plain _ 0 hzero).2 rfl
    · revert hzero
      decide

/-- A cookie that is longer than a frame does not fit. -/
theorem cookie_fits {n : Nat} (h : HeaderFits ⟨true, true, [true]⟩ (cookie n)) : n < 16384 := by
  have hvalue : (List.replicate n (0x61 : UInt8)).length = n := List.length_replicate
  by_contra hlong
  obtain ⟨-, -, hsize⟩ := h
  rw [headerEntries_cookie, sizeWritten, if_pos (by dsimp only; omega), List.headD_cons,
    if_pos rfl, sizeWritten] at hsize
  unfold entrySize at hsize
  dsimp only at hsize
  omega

theorem cookie_headersFirst {m : Nat} (hm : m < 10000)
    (h : HeadersFirst (emittedFrames ⟨true, true, [true]⟩ 1
      (flushAll (cookieReads m) (routeFastcgiBackend (bareStream 1))).1)) :
    m + m + m < 16384 := by
  have hwait := waiting_routed (bareStream 1)
  have hreading := cookie_reading hm
  have hactive : (flushAll ((cookieReads m).take 3)
      (routeFastcgiBackend (bareStream 1))).2.isFcgiActive = true := by
    rw [hreading]
    rfl
  have ha := cookie_answers hm
  have hstate : (flushAll ((cookieReads m).take 3) (routeFastcgiBackend (bareStream 1))).2
      = askedStream.reading [] (cookie (m + m)) := congrArg Prod.snd hreading
  rw [← hstate] at ha
  have hsent := flushAll_of_answers [] hwait hactive ha
  rw [show (cookieReads m).take 3 ++ [_] = cookieReads m from rfl] at hsent
  rw [hsent, headersFirst_answerOf] at h
  exact cookie_fits h

/-- With 24000 bytes there are DATA frames and no HEADERS. -/
theorem data_without_headers :
    ¬ HeadersFirst (emittedFrames ⟨true, true, [true]⟩ 1
      (flushAll (cookieReads 8000) (routeFastcgiBackend (bareStream 1))).1) := by
  intro h
  have hshort := cookie_headersFirst (by omega) h
  omega

end Halmos.Fcgi
