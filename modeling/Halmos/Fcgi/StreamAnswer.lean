import Halmos.Fcgi.StreamStep

set_option autoImplicit false

/-! # The answer on an HTTP/2 stream

What state 3 of `fcgi_session_http2_step` makes of an answer that arrives in pieces. Every piece
is read from its first byte as a record header, and the step that completes the header block is the
last one that sends anything (`receiveAll_found`). So the client is sent the whole answer exactly if
that step has it all (`fcgiSessionHttp2Step_delivers_iff`).
-/

namespace Halmos.Fcgi

open Http2

/-! ## One piece -/

/-- The STDOUT bytes of a piece, when records begin at its first byte. -/
def pieceText (piece : List UInt8) : List UInt8 :=
  if piece.length < 8 then []
  else
    let h := headerFields piece
    let rest := piece.drop 8
    let next := rest.drop (h.contentLength + h.paddingLength)
    if h.type = fcgiStdout then rest.take h.contentLength ++ pieceText next
    else if h.type = fcgiEndRequest then []
    else pieceText next
termination_by piece.length
decreasing_by all_goals simp only [List.length_drop]; omega

/-- Bytes put in place as far as there is room, and then more of them, are all of them as far as
there is room. -/
theorem take_append_take {α : Type} (text front rest : List α) (n : Nat) :
    (text ++ front.take (n - text.length) ++ rest).take n = (text ++ (front ++ rest)).take n := by
  by_cases hroom : front.length ≤ n - text.length
  · rw [List.take_of_length_le hroom, List.append_assoc]
  · have hfull : n ≤ (text ++ front).length := by
      rw [List.length_append]
      omega
    by_cases htext : n ≤ text.length
    · rw [List.append_assoc, List.take_append_of_le_length htext,
        List.take_append_of_le_length htext]
    · have hlen : n ≤ (text ++ front.take (n - text.length)).length := by
        rw [List.length_append, List.length_take]
        omega
      rw [List.take_append_of_le_length hlen, ← List.append_assoc,
        List.take_append_of_le_length hfull, List.take_append, List.take_append, List.take_take,
        Nat.min_self]

/-- The loop adds the text of the piece, as far as the buffer has room for it. -/
theorem recordLoop_eq (chunk : List UInt8) {text : List UInt8} (htext : text.length ≤ 65535) :
    recordLoop chunk text = (text ++ pieceText chunk).take 65535 := by
  fun_induction recordLoop chunk text with
  | case1 chunk text hshort =>
      rw [pieceText, if_pos hshort, List.append_nil, List.take_of_length_le htext]
  | case2 chunk text hshort h rest next htype bytesToCopy spaceLeft ih =>
      have hcopy : rest.take (min bytesToCopy spaceLeft)
          = (rest.take h.contentLength).take (65535 - text.length) := by
        rw [List.take_take]
        show rest.take (min (min h.contentLength rest.length) (65536 - text.length - 1)) = _
        rw [show 65536 - text.length - 1 = 65535 - text.length by omega,
          Nat.min_right_comm, ← List.take_eq_take_min, Nat.min_comm]
      have hlen : (text ++ rest.take (min bytesToCopy spaceLeft)).length ≤ 65535 := by
        rw [hcopy, List.length_append, List.length_take]
        omega
      rw [ih hlen, hcopy, take_append_take]
      conv => rhs; rw [pieceText, if_neg hshort]
      exact congrArg (fun t => (text ++ t).take 65535) (if_pos htype).symm
  | case3 chunk text hshort h htype hend =>
      conv => rhs; rw [pieceText, if_neg hshort]
      have hnone : ∀ a b : List UInt8, (if h.type = fcgiStdout then a
          else if h.type = fcgiEndRequest then [] else b) = [] := by
        intro a b
        rw [if_neg htype, if_pos hend]
      show text = (text ++ _).take 65535
      rw [hnone, List.append_nil, List.take_of_length_le htext]
  | case4 chunk text hshort h rest next htype hend ih =>
      rw [ih htext]
      conv => rhs; rw [pieceText, if_neg hshort]
      have hskip : (if h.type = fcgiStdout then rest.take h.contentLength ++ pieceText next
          else if h.type = fcgiEndRequest then [] else pieceText next) = pieceText next := by
        rw [if_neg htype, if_neg hend]
      exact congrArg (fun t => (text ++ t).take 65535) hskip.symm

/-! ## One step -/

/-- The stream as states 0 to 2 leave it: the request is sent, nothing of the answer is read. -/
def FcgiStream.requested (s : FcgiStream) (params : List UInt8) : FcgiStream :=
  { s with
    isFcgiActive := true
    fcgiState := 3
    gatherBuf := beginRequest s.streamId ++ params
    headerText := []
    headerSent := false }

/-- The call that receives `piece`. -/
def received (piece : List UInt8) : StepInput where
  pollOut := false
  pollIn := true
  params := []
  send := .wouldBlock
  sendBody := .wouldBlock
  sendEof := .wouldBlock
  recv := .data piece

/-- The header block is not complete in `text`, as `strstr` sees it. -/
def Headless (text : List UInt8) : Prop := splitAfter blankLine (cstr text) = none

theorem Headless.of_isPrefix {p q : List UInt8} (hpq : p <+: q) (h : Headless q) : Headless p :=
  splitAfter_cstr_of_isPrefix hpq h

theorem not_headless_iff {text : List UInt8} :
    ¬ Headless text ↔ ∃ head body, splitAfter blankLine text = some (head, body) ∧ 0 ∉ head := by
  rw [← splitAfter_cstr_isSome_iff, Option.isSome_iff_ne_none]
  exact Iff.rfl

/-- What the step sends that completes the header block. -/
def answerOf (s : FcgiStream) (head body : List UInt8) : List Sent :=
  .headers head 0x04 :: (http2ResponseSendData s.streamId s.state body true).1.map .frame

/-- The request at the head of `fcgi_gather_buf` does not look like a header block. -/
theorem strstr_headerBuffer {s : FcgiStream} (params : List UInt8)
    (hbuf : s.gatherBuf = beginRequest s.streamId ++ params) :
    strstr blankLine s.headerBuffer = strstr blankLine (cstr s.headerText) := by
  unfold FcgiStream.headerBuffer
  split
  · next hnil =>
      have hstart : s.gatherBuf = 1 :: 1 :: byteAt s.streamId 8 :: byteAt s.streamId 0 :: 0
          :: (s.gatherBuf.drop 5) := by
        rw [hbuf]
        rfl
      have hnone : strstr blankLine (cstr s.gatherBuf) = none := by
        rw [← Option.not_isSome_iff_eq_none]
        intro hsome
        obtain ⟨⟨before, found⟩, hstr⟩ := Option.isSome_iff_exists.mp hsome
        obtain ⟨hsplit, hpre⟩ := strstr_sound hstr
        -- at most four bytes, and the first of them is 1
        have hlen : (cstr s.gatherBuf).length ≤ 4 := by
          rw [hstart]
          iterate 4 rw [cstr_cons]; split <;> simp only [List.length_nil, List.length_cons] <;>
            try omega
          rw [cstr_cons, if_pos rfl]
          simp
        have hhead : cstr s.gatherBuf = 1 :: cstr (s.gatherBuf.drop 1) := by
          conv => lhs; rw [hstart]
          rw [cstr_cons, if_neg (by decide), hbuf]
          rfl
        have hfound := hpre.length_le
        have hnil : before = [] := by
          rw [hsplit, List.length_append] at hlen
          rw [show blankLine.length = 4 from rfl] at hfound
          exact List.length_eq_zero_iff.mp (by omega)
        obtain ⟨tail, htail⟩ := hpre
        rw [hnil, List.nil_append, ← htail, hhead] at hsplit
        exact absurd (List.cons.inj hsplit).1 (by decide)
      rw [hnone, hnil]
      rfl
  · rfl

variable {s : FcgiStream} {params : List UInt8}

/-- A stream that has sent its request and read `text` of the answer. -/
def FcgiStream.reading (s : FcgiStream) (params text : List UInt8) : FcgiStream :=
  { s.requested params with headerText := text }

variable (s params) in
theorem step_headless (piece : List UInt8) {text : List UInt8} (htext : text.length ≤ 65535)
    (h : Headless ((text ++ pieceText piece).take 65535)) :
    fcgiSessionHttp2Step (s.reading params text) (received piece)
      = ⟨.continue, [], [], s.reading params ((text ++ pieceText piece).take 65535)⟩ := by
  have hloop := recordLoop_eq piece htext
  have hstr : strstr blankLine (s.reading params (recordLoop piece text)).headerBuffer = none := by
    rw [strstr_headerBuffer params rfl]
    show strstr blankLine (cstr (recordLoop piece text)) = none
    rw [hloop]
    exact Option.map_eq_none_iff.mp h
  show delimStep (s.reading params (recordLoop piece text)) = _
  unfold delimStep
  rw [hstr, ← hloop]

variable (s params) in
theorem step_found (piece : List UInt8) {text before body : List UInt8}
    (htext : text.length ≤ 65535)
    (h : splitAfter blankLine ((text ++ pieceText piece).take 65535)
      = some (before ++ blankLine, body)) (hzero : 0 ∉ before ++ blankLine) :
    let r := fcgiSessionHttp2Step (s.reading params text) (received piece)
    r.sent = answerOf s before body ∧ r.stream.fcgiState = 4 ∧ r.status = .completed := by
  have hloop := recordLoop_eq piece htext
  have hstr : ∃ found, strstr blankLine
      (s.reading params (recordLoop piece text)).headerBuffer = some (before, found) := by
    rw [strstr_headerBuffer params rfl]
    show ∃ found, strstr blankLine (cstr (recordLoop piece text)) = some (before, found)
    rw [hloop]
    obtain ⟨⟨head, rest⟩, hsplit⟩ := Option.isSome_iff_exists.mp
      (splitAfter_cstr_isSome_iff.mpr ⟨_, _, h, hzero⟩)
    obtain ⟨hidden, hcstr⟩ := cstr_isPrefix ((text ++ pieceText piece).take 65535)
    have happ := splitAfter_append hsplit hidden
    rw [hcstr, h] at happ
    obtain ⟨before', rfl, hfound⟩ := splitAfter_eq_some hsplit
    cases List.append_cancel_right (Prod.mk.inj (Option.some.inj happ)).1
    exact ⟨_, hfound⟩
  obtain ⟨found, hstr⟩ := hstr
  have hbody : (recordLoop piece text).drop (before.length + 4) = body := by
    rw [hloop, splitAfter_sound h]
    exact List.drop_left' (List.length_append ..)
  have hstep : delimStep (s.reading params (recordLoop piece text))
      = ⟨.completed, answerOf s before body, [],
        { s.reading params ((recordLoop piece text).set before.length 0) with
          headerSent := true
          state := (http2ResponseSendData s.streamId s.state body true).2
          fcgiState := 4 }⟩ := by
    unfold delimStep
    rw [hstr, ← hbody]
    rfl
  show (delimStep (s.reading params (recordLoop piece text))).sent = _
    ∧ (delimStep (s.reading params (recordLoop piece text))).stream.fcgiState = 4
    ∧ (delimStep (s.reading params (recordLoop piece text))).status = .completed
  rw [hstep]
  exact ⟨rfl, rfl, rfl⟩

/-! ## All pieces -/

/-- The calls that receive `pieces`, one after the other: what the client is sent, and the
stream. -/
def receiveAll : List (List UInt8) → FcgiStream → List Sent × FcgiStream
  | [], s => ([], s)
  | piece :: pieces, s =>
      let r := fcgiSessionHttp2Step s (received piece)
      ((r.sent ++ (receiveAll pieces r.stream).1), (receiveAll pieces r.stream).2)

/-- The text that has been read when `pieces` have been received. -/
def textOf (pieces : List (List UInt8)) : List UInt8 := (pieces.flatMap pieceText).take 65535

theorem receiveAll_append (ps qs : List (List UInt8)) (s : FcgiStream) :
    receiveAll (ps ++ qs) s
      = ((receiveAll ps s).1 ++ (receiveAll qs (receiveAll ps s).2).1,
        (receiveAll qs (receiveAll ps s).2).2) := by
  induction ps generalizing s with
  | nil => rfl
  | cons p ps ih =>
      rw [List.cons_append, receiveAll, receiveAll, ih, List.append_assoc]

/-- After the answer nothing more is sent. -/
theorem receiveAll_done (pieces : List (List UInt8)) {s : FcgiStream} (h : s.fcgiState = 4) :
    (receiveAll pieces s).1 = [] := by
  have hstep : ∀ i, (fcgiSessionHttp2Step s i).sent = []
      ∧ (fcgiSessionHttp2Step s i).stream = s := by
    intro i
    unfold fcgiSessionHttp2Step
    rw [h]
    split
    · exact ⟨rfl, rfl⟩
    · exact ⟨rfl, rfl⟩
  induction pieces with
  | nil => rfl
  | cons piece pieces ih =>
      rw [receiveAll, (hstep _).1, (hstep _).2, ih, List.append_nil]

theorem textOf_concat (pieces : List (List UInt8)) (piece : List UInt8) :
    (textOf pieces ++ pieceText piece).take 65535 = textOf (pieces ++ [piece]) := by
  unfold textOf
  rw [List.flatMap_append, List.flatMap_singleton]
  have h := take_append_take [] (pieces.flatMap pieceText) (pieceText piece) 65535
  exact h

theorem textOf_isPrefix (ps qs : List (List UInt8)) : textOf ps <+: textOf (ps ++ qs) := by
  unfold textOf
  rw [List.flatMap_append, List.take_append]
  exact List.prefix_append _ _

theorem textOf_length (pieces : List (List UInt8)) : (textOf pieces).length ≤ 65535 :=
  List.length_take_le _ _

/-- As long as the header block is not complete, nothing is sent. -/
theorem receiveAll_headless {pieces : List (List UInt8)} (h : Headless (textOf pieces)) :
    receiveAll pieces (s.requested params) = ([], s.reading params (textOf pieces)) := by
  induction pieces using List.reverseRecOn with
  | nil => rfl
  | append_singleton pieces piece ih =>
      have hpre := ih (h.of_isPrefix (textOf_isPrefix pieces [piece]))
      rw [receiveAll_append, hpre, receiveAll,
        step_headless s params piece (textOf_length pieces) (by rwa [textOf_concat]), textOf_concat]
      rfl

/-- **The piece that completes the header block** ends the answer: what has been read by then is
sent, and nothing else. -/
theorem receiveAll_found {pre post : List (List UInt8)} {piece before body : List UInt8}
    (hpre : Headless (textOf pre))
    (h : splitAfter blankLine (textOf (pre ++ [piece])) = some (before ++ blankLine, body))
    (hzero : 0 ∉ before ++ blankLine) :
    (receiveAll (pre ++ piece :: post) (s.requested params)).1 = answerOf s before body := by
  rw [← textOf_concat] at h
  obtain ⟨hsent, hdone, -⟩ := step_found s params piece (textOf_length pre) h hzero
  rw [receiveAll_append, receiveAll_headless hpre, receiveAll, hsent, receiveAll_done post hdone]
  exact List.append_nil _

/-- A text that has the header block got it with one of the pieces. -/
theorem exists_completing {pieces : List (List UInt8)} (h : ¬ Headless (textOf pieces)) :
    ∃ pre piece post, pieces = pre ++ piece :: post ∧ Headless (textOf pre)
      ∧ ¬ Headless (textOf (pre ++ [piece])) := by
  induction pieces using List.reverseRecOn with
  | nil => exact absurd (show Headless [] from rfl) h
  | append_singleton pieces piece ih =>
      by_cases hpre : Headless (textOf pieces)
      · exact ⟨pieces, piece, [], rfl, hpre, h⟩
      · obtain ⟨pre, p, post, rfl, hhead, hfound⟩ := ih hpre
        exact ⟨pre, p, post ++ [piece], by rw [List.append_assoc]; rfl, hhead, hfound⟩

/-! ## What the client gets -/

/-- The texts of the header blocks sent. -/
def headerBlocks (sent : List Sent) : List (List UInt8) :=
  sent.filterMap fun
    | .headers raw _ => some raw
    | .frame _ => none

/-- The DATA bytes sent. -/
def dataBytes (sent : List Sent) : List UInt8 :=
  sent.flatMap fun
    | .headers _ _ => []
    | .frame c => if c.type = 0x00 then c.payload else []

/-- A DATA frame with END_STREAM is among them. -/
def EndsStream (sent : List Sent) : Prop :=
  ∃ c, .frame c ∈ sent ∧ c.type = 0x00 ∧ c.flags = 0x01

theorem headerBlocks_answerOf (head body : List UInt8) :
    headerBlocks (answerOf s head body) = [head] := by
  have hframes : ∀ cs : List FrameCall, headerBlocks (cs.map .frame) = [] := by
    intro cs
    induction cs with
    | nil => rfl
    | cons c cs ih => exact ih
  exact congrArg (fun l => head :: l) (hframes _)

theorem dataBytes_answerOf (head body : List UInt8) :
    dataBytes (answerOf s head body) = body := by
  obtain ⟨hpayload, hframes⟩ := http2ResponseSendData_body s.streamId s.state body true
  have hdata : ∀ cs : List FrameCall, (∀ c ∈ cs, c.type = 0x00) →
      dataBytes (cs.map .frame) = cs.flatMap FrameCall.payload := by
    intro cs hcs
    induction cs with
    | nil => rfl
    | cons c cs ih =>
        rw [List.forall_mem_cons] at hcs
        rw [List.flatMap_cons, ← ih hcs.2]
        exact congrArg (fun p => p ++ dataBytes (cs.map .frame)) (if_pos hcs.1)
  have hsent := hdata _ (fun c hc => (hframes c hc).1)
  rw [hpayload] at hsent
  exact hsent

theorem endsStream_answerOf (head body : List UInt8) : EndsStream (answerOf s head body) := by
  obtain ⟨c, hc, hflags⟩ := http2ResponseSendData_endStream s.streamId s.state body
  have htype := ((http2ResponseSendData_body s.streamId s.state body true).2 c hc).1
  exact ⟨c, List.mem_cons_of_mem _ (List.mem_map_of_mem hc), htype, hflags⟩

theorem not_endsStream_nil : ¬ EndsStream [] := by
  rintro ⟨c, hc, -⟩
  cases hc

/-- An answer cut into the results of `recv` calls. -/
structure Segmentation (r : Response) where
  pieces : List (List UInt8)
  flatten_eq : pieces.flatten = r.bytes
  length_pos : ∀ p ∈ pieces, p ≠ []
  length_le : ∀ p ∈ pieces, p.length ≤ 8192

/-- The END_REQUEST record has been received, its padding apart. -/
def EndRequestReceived (r : Response) (pieces : List (List UInt8)) : Prop :=
  r.bytes.length ≤ pieces.flatten.length + r.last.padding.length

/-- The client is sent the answer `r`: one header block, all of the body, and END_STREAM not before
END_REQUEST has been received. -/
def Delivers (s : FcgiStream) (r : Response) (pieces : List (List UInt8)) : Prop :=
  (∃ head body, splitAfter blankLine r.stdout = some (head ++ blankLine, body) ∧
    headerBlocks (receiveAll pieces s).1 = [head] ∧ dataBytes (receiveAll pieces s).1 = body) ∧
  EndsStream (receiveAll pieces s).1 ∧
  ∀ pre post, pieces = pre ++ post → EndsStream (receiveAll pre s).1 → EndRequestReceived r pre

/-- One of the pieces completes the header block and the answer: the pieces up to it, each read
from its first byte as a record header, show the text of the answer, those before it show less than
the header block, and it reaches the end of END_REQUEST. No NUL is in the header block. -/
def CompletesAtOnce (r : Response) (pieces : List (List UInt8)) : Prop :=
  ∃ pre piece post, pieces = pre ++ piece :: post ∧ EndRequestReceived r (pre ++ [piece]) ∧
    textOf (pre ++ [piece]) = r.stdout ∧
    ∃ head body, splitAfter blankLine r.stdout = some (head, body) ∧ 0 ∉ head ∧
      (textOf pre).length < head.length

theorem not_headless_of_endsStream {pieces : List (List UInt8)}
    (h : EndsStream (receiveAll pieces (s.requested params)).1) : ¬ Headless (textOf pieces) := by
  intro hhead
  rw [receiveAll_headless hhead] at h
  exact not_endsStream_nil h

variable (s params) in
/-- **When an answer gets through.** The client is sent the whole answer, and its end only after
END_REQUEST, exactly if one piece completes the header block and the answer at once. -/
theorem fcgiSessionHttp2Step_delivers_iff (r : Response) (seg : Segmentation r) :
    Delivers (s.requested params) r seg.pieces ↔ CompletesAtOnce r seg.pieces := by
  constructor
  · rintro ⟨⟨head, body, hsplit, hblocks, hdata⟩, hends, htime⟩
    obtain ⟨pre, piece, post, hpieces, hpre, hfound⟩ :=
      exists_completing (not_headless_of_endsStream hends)
    obtain ⟨head', body', hsplit', hzero⟩ := not_headless_iff.mp hfound
    obtain ⟨before, rfl, -⟩ := splitAfter_eq_some hsplit'
    have hsent : ∀ post,
        (receiveAll (pre ++ piece :: post) (s.requested params)).1 = answerOf s before body' :=
      fun post => receiveAll_found hpre hsplit' hzero
    -- what the client got is the text read so far
    rw [hpieces, hsent] at hblocks hdata
    rw [headerBlocks_answerOf] at hblocks
    rw [dataBytes_answerOf] at hdata
    cases hblocks
    subst hdata
    have htext : textOf (pre ++ [piece]) = r.stdout := by
      rw [splitAfter_sound hsplit, splitAfter_sound hsplit']
    refine ⟨pre, piece, post, hpieces, ?_, htext, _, _, hsplit, hzero, ?_⟩
    · apply htime (pre ++ [piece]) post
      · rw [hpieces, List.append_assoc]
        rfl
      · rw [hsent []]
        exact endsStream_answerOf _ _
    · by_contra hlong
      obtain ⟨more, hmore⟩ := textOf_isPrefix pre [piece]
      rw [← hmore] at hsplit'
      obtain ⟨rest, hshort, -⟩ := splitAfter_of_append hsplit' (Nat.not_lt.mp hlong)
      exact not_headless_iff.mpr ⟨_, rest, hshort, hzero⟩ hpre
  · rintro ⟨pre, piece, post, hpieces, hreceived, htext, head, body, hsplit, hzero, hlen⟩
    have hpre : Headless (textOf pre) := by
      by_contra hno
      obtain ⟨head', body', hsplit', -⟩ := not_headless_iff.mp hno
      obtain ⟨more, hmore⟩ := textOf_isPrefix pre [piece]
      have hlonger := splitAfter_append hsplit' more
      rw [hmore, htext, hsplit] at hlonger
      have hle := congrArg List.length (splitAfter_sound hsplit')
      rw [List.length_append, ← (Prod.mk.inj (Option.some.inj hlonger)).1] at hle
      omega
    obtain ⟨before, rfl, -⟩ := splitAfter_eq_some hsplit
    have hsent : (receiveAll seg.pieces (s.requested params)).1 = answerOf s before body := by
      rw [hpieces]
      exact receiveAll_found hpre (by rw [htext, hsplit]) hzero
    refine ⟨⟨before, body, hsplit, ?_, ?_⟩, ?_, ?_⟩
    · rw [hsent, headerBlocks_answerOf]
    · rw [hsent, dataBytes_answerOf]
    · rw [hsent]
      exact endsStream_answerOf _ _
    · intro pre' post' heq hends
      have hnot := not_headless_of_endsStream hends
      rw [hpieces] at heq
      rcases List.append_eq_append_iff.mp heq with ⟨more, rfl, hmore⟩ | ⟨more, rfl, -⟩
      · -- the end was sent in a call after the pieces `pre`
        cases more with
        | nil => exact absurd (by rwa [List.append_nil]) hnot
        | cons p more =>
            rw [List.cons_append] at hmore
            cases (List.cons.inj hmore).1
            unfold EndRequestReceived at hreceived ⊢
            rw [List.flatten_append, List.length_append, List.flatten_cons, List.length_append]
            rw [List.flatten_append, List.length_append, List.flatten_singleton] at hreceived
            omega
      · exact absurd (hpre.of_isPrefix (textOf_isPrefix pre' more)) hnot

/-- The answer in two pieces, the first of which ends behind the blank line. -/
def helloCut : Segmentation helloResponse where
  pieces := [helloResponse.bytes.take 16, helloResponse.bytes.drop 16]
  flatten_eq := by decide
  length_pos := by decide
  length_le := by decide

/-- A stream that has nothing but its id. -/
def bareStream (streamId : Nat) : FcgiStream where
  streamId := streamId
  state := .open
  contentLength := 0
  bodyData := none
  isFcgiActive := false
  fcgiState := 0
  gatherBuf := []
  gSent := 0
  stdinSent := 0
  headerText := []
  headerSent := false

/-- The header block goes out with an empty body, and the body is never sent. -/
theorem fcgiSessionHttp2Step_delivers_fails :
    ¬ Delivers ((bareStream 1).requested []) helloResponse helloCut.pieces := by
  have htext : textOf [helloResponse.bytes.take 16] = ascii "A: b\r\n\r\n" := by
    unfold textOf
    rw [List.flatMap_singleton, pieceText, if_neg (by decide)]
    show List.take 65535 ((helloResponse.bytes.take 16).drop 8 ++ pieceText []) = _
    rw [pieceText]
    decide
  have hsent : (receiveAll helloCut.pieces ((bareStream 1).requested [])).1
      = answerOf (bareStream 1) (ascii "A: b") [] := by
    have hsplit : splitAfter blankLine (textOf [helloResponse.bytes.take 16])
        = some (ascii "A: b" ++ blankLine, []) := by
      rw [htext]
      decide
    have hfound : (receiveAll ([] ++ helloResponse.bytes.take 16 :: [helloResponse.bytes.drop 16])
        ((bareStream 1).requested [])).1 = answerOf (bareStream 1) (ascii "A: b") [] :=
      receiveAll_found rfl hsplit (by decide)
    exact hfound
  rintro ⟨⟨head, body, hsplit, -, hdata⟩, -, -⟩
  rw [hsent, dataBytes_answerOf] at hdata
  have hwhole : splitAfter blankLine helloResponse.stdout
      = some (ascii "A: b" ++ blankLine, ascii "hello") := by decide
  rw [hwhole] at hsplit
  rw [← hdata] at hsplit
  have hbody := (Prod.mk.inj (Option.some.inj hsplit)).2
  exact absurd hbody (by decide)

end Halmos.Fcgi
