import Halmos.Http2.StreamTable

set_option autoImplicit false

/-! # What one step does

The handlers and the pump, by their effect: a step that works on a stream changes that stream only
(`Inside`), a frame moves the windows as the operations of a ledger do (`windows_handleFrame`), and
every frame that is sent on the way to an answer is a HEADERS or DATA frame of its stream
(`Answer`).
-/

namespace Halmos.Http2

open Fcgi

/-! ## Changes inside one stream -/

/-- Only the stream of the id is changed, and no window. -/
structure Inside (id : Nat) (s s' : Server) : Prop where
  sized : Sized s → Sized s'
  windows : windows s' = windows s
  others : ∀ k, k ≠ id → Untouched k s s'

section Inside

variable {s s' s'' : Server} {id : Nat}

theorem Inside.refl : Inside id s s := ⟨fun h => h, rfl, fun _ _ => Untouched.refl⟩

theorem Inside.trans (h : Inside id s s') (h' : Inside id s' s'') : Inside id s s'' :=
  ⟨fun hs => h'.sized (h.sized hs), h'.windows.trans h.windows,
    fun k hk => (h.others k hk).trans (h'.others k hk)⟩

/-- No stream is opened. -/
theorem isSome_of_windows (h : windows s' = windows s) (k : Nat) :
    (lookupStream s' k).isSome = (lookupStream s k).isSome := by
  have hk := congrArg (fun l : Ledger Int32 => (l.streams k).isSome) h
  simpa only [windows, Option.isSome_map] using hk

theorem inside_setStream {f : HTTP2Stream → HTTP2Stream}
    (hid : ∀ st, (f st).streamId = st.streamId)
    (hwin : ∀ st, (f st).outWindowSize = st.outWindowSize) : Inside id s (setStream s id f) :=
  ⟨sized_setStream, windows_setStream hid hwin, fun _ hk => untouched_setStream hid hk⟩

theorem inside_setRest (g : StreamRest → StreamRest) : Inside id s (setRest s id g) :=
  ⟨fun h => sized_setRest h g, rfl, fun _ hk => untouched_setRest g hk⟩

theorem Inside.setRest (h : Inside id s s') (g : StreamRest → StreamRest) :
    Inside id s (setRest s' id g) := h.trans (inside_setRest g)

theorem inside_setState (state : HTTP2StreamState) :
    Inside id s (setStream s id (fun st => { st with state := state })) :=
  inside_setStream (fun _ => rfl) (fun _ => rfl)

end Inside

/-! ## The router -/

/-- A HEADERS or DATA frame of the stream. -/
def Answer (id : Nat) (e : Event) : Prop :=
  ∃ c : FrameCall, e = .sent c ∧ c.streamId = id ∧ (c.type = 0x00 ∨ c.type = 0x01)

section Router

variable {env : Environment} {s : Server} {id : Nat}

theorem answer_sendData (state : HTTP2StreamState) (text : List UInt8) (isEnd : Bool) :
    ∀ e ∈ (http2ResponseSendData id state text isEnd).1.map Event.sent, Answer id e := by
  intro e he
  obtain ⟨c, hc, rfl⟩ := List.mem_map.mp he
  obtain ⟨htype, hstream, -⟩ := (http2ResponseSendData_body id state text isEnd).2 c hc
  exact ⟨c, rfl, hstream, Or.inl htype⟩

theorem answer_header (status : Nat) (mime : List UInt8) :
    Answer id (.sent (http2ResponseSendHeader id status mime)) := ⟨_, rfl, rfl, Or.inr rfl⟩

theorem answer_sendErrorPage (status : Nat) (text : String) :
    ∀ e ∈ (sendErrorPage env s id status text).2, Answer id e := by
  unfold sendErrorPage
  dsimp only
  rw [List.forall_mem_cons]
  exact ⟨answer_header status env.mime, answer_sendData _ _ _⟩

theorem answer_startFile (fd size : Nat) : ∀ e ∈ (startFile env s id fd size).2, Answer id e := by
  unfold startFile
  dsimp only
  split
  · rw [List.forall_mem_cons]
    exact ⟨answer_header 200 env.mime, answer_sendData _ _ _⟩
  · rw [List.forall_mem_singleton]
    exact answer_header 200 env.mime

theorem inside_sendErrorPage (status : Nat) (text : String) :
    Inside id s (sendErrorPage env s id status text).1 := inside_setState _

theorem inside_startFcgi : Inside id s (startFcgi s id) := by
  apply Inside.setRest
  apply inside_setStream
  · intro st
    rfl
  · intro st
    rfl

theorem inside_startFile (fd size : Nat) : Inside id s (startFile env s id fd size).1 := by
  unfold startFile
  dsimp only
  split
  · exact inside_setState _
  · dsimp only
    apply Inside.setRest
    apply inside_setStream
    · intro st
      rfl
    · intro st
      rfl

/-- The request of the stream and its body. -/
def requestOf (s : Server) (id : Nat) : RequestHeader × Option (List UInt8) :=
  ((s.rest.streams id).req, (s.rest.streams id).bodyData)

theorem requestOf_setRest {g : StreamRest → StreamRest}
    (hg : ∀ r, ((g r).req, (g r).bodyData) = (r.req, r.bodyData)) :
    requestOf (setRest s id g) id = requestOf s id := by
  unfold requestOf
  rw [setRest_streams_self]
  exact hg _

@[simp] theorem requestOf_setStream (f : HTTP2Stream → HTTP2Stream) (k : Nat) :
    requestOf (setStream s id f) k = requestOf s k := by
  unfold requestOf
  rw [setStream_rest]

theorem requestOf_sendErrorPage (status : Nat) (text : String) :
    requestOf (sendErrorPage env s id status text).1 id = requestOf s id := requestOf_setStream _ id

theorem requestOf_startFcgi : requestOf (startFcgi s id) id = requestOf s id := by
  unfold startFcgi
  rw [requestOf_setRest, requestOf_setStream]
  intro r
  rfl

theorem requestOf_startFile (fd size : Nat) :
    requestOf (startFile env s id fd size).1 id = requestOf s id := by
  unfold startFile
  dsimp only
  split
  · exact requestOf_setStream _ id
  · rw [requestOf_setRest, requestOf_setStream]
    intro r
    rfl

/-- A call of the router, and an answer. -/
theorem http2RouterBridge_spec (env : Environment) (s : Server) (id : Nat) :
    Inside id s (http2RouterBridge env s id).1
      ∧ requestOf (http2RouterBridge env s id).1 id = requestOf s id
      ∧ ∃ answers, (http2RouterBridge env s id).2
          = .router id ((s.rest.streams id).bodyData.getD []) (s.rest.streams id).req.contentLength
            :: answers
        ∧ ∀ e ∈ answers, Answer id e := by
  have herror : ∀ status text, Inside id s (sendErrorPage env s id status text).1
      ∧ requestOf (sendErrorPage env s id status text).1 id = requestOf s id
      ∧ ∀ e ∈ (sendErrorPage env s id status text).2, Answer id e := fun status text =>
    ⟨inside_sendErrorPage status text, requestOf_sendErrorPage status text,
      answer_sendErrorPage status text⟩
  unfold http2RouterBridge
  dsimp only
  split
  · refine ⟨Inside.refl, rfl, _, rfl, ?_⟩
    rw [List.forall_mem_singleton]
    exact ⟨_, rfl, rfl, Or.inr rfl⟩
  · cases env.route with
    | badGateway =>
        obtain ⟨hinside, hreq, hanswer⟩ := herror 502 "Bad Gateway"
        exact ⟨hinside, hreq, _, rfl, hanswer⟩
    | notFound =>
        obtain ⟨hinside, hreq, hanswer⟩ := herror 404 "Not Found"
        exact ⟨hinside, hreq, _, rfl, hanswer⟩
    | forbidden =>
        obtain ⟨hinside, hreq, hanswer⟩ := herror 403 "Forbidden"
        exact ⟨hinside, hreq, _, rfl, hanswer⟩
    | fcgi => exact ⟨inside_startFcgi, requestOf_startFcgi, [], rfl, fun e he => nomatch he⟩
    | file fd size =>
        exact ⟨inside_startFile fd size, requestOf_startFile fd size, _, rfl,
          answer_startFile fd size⟩

end Router

/-! ## DATA -/

section Data

variable {env : Environment} {s : Server} {id : Nat}

theorem inside_appendStreamBody (payload : List UInt8) :
    Inside id s (appendStreamBody s id payload) := inside_setRest _

/-- The request with the length of its body. -/
def measured (s : Server) (id : Nat) : Server :=
  setRest s id (fun r => { r with
    req := { r.req with contentLength := Int32.ofNat (r.bodyData.getD []).length } })

theorem handleStreamEnd_eq (env : Environment) (s : Server) (id : Nat) :
    handleStreamEnd env s id
      = (setStream (http2RouterBridge env (measured s id) id).1 id
          (fun st => { st with state := .halfClosedLocal }),
        (http2RouterBridge env (measured s id) id).2) := rfl

@[simp] theorem measured_streams (s : Server) (id : Nat) :
    (measured s id).rest.streams id = { s.rest.streams id with
      req := { (s.rest.streams id).req with
        contentLength := Int32.ofNat ((s.rest.streams id).bodyData.getD []).length } } :=
  setRest_streams_self _

theorem handleStreamEnd_spec (env : Environment) (s : Server) (id : Nat) :
    Inside id s (handleStreamEnd env s id).1
      ∧ requestOf (handleStreamEnd env s id).1 id = requestOf (measured s id) id
      ∧ ∃ answers, (handleStreamEnd env s id).2
          = .router id ((s.rest.streams id).bodyData.getD [])
              (Int32.ofNat ((s.rest.streams id).bodyData.getD []).length) :: answers
        ∧ ∀ e ∈ answers, Answer id e := by
  obtain ⟨hinside, hreq, answers, hevents, hanswer⟩ :=
    http2RouterBridge_spec env (measured s id) id
  have hmeasured : Inside id s (measured s id) := inside_setRest _
  rw [handleStreamEnd_eq]
  refine ⟨?_, ?_, answers, ?_, hanswer⟩
  · exact (hmeasured.trans hinside).trans (inside_setState _)
  · exact (requestOf_setStream _ id).trans hreq
  · rw [measured_streams] at hevents
    exact hevents

theorem inside_handleData (head : HTTP2FrameHeader) (payload : Option (List UInt8)) :
    Inside head.streamId s (http2ParserHandleData env s head payload).1 := by
  unfold http2ParserHandleData
  dsimp only
  split
  · exact Inside.refl
  · exact Inside.refl
  · next st payload hfind =>
      have hend := (handleStreamEnd_spec env (appendStreamBody s head.streamId payload)
        head.streamId).1
      have happend : Inside head.streamId s (appendStreamBody s head.streamId payload) :=
        inside_appendStreamBody payload
      split_ifs
      · exact Inside.refl
      · exact Inside.refl
      · exact Inside.refl
      · exact happend.trans hend
      · exact happend

end Data

/-! ## HEADERS -/

section Headers

variable {env : Environment} {s : Server} {id : Nat}

theorem inside_parseHeaderFull (block : List UInt8) :
    Inside id s (parseHeaderFull env s id block).2 := by
  unfold parseHeaderFull
  split
  · exact Inside.refl
  · dsimp only
    apply Inside.setRest
    exact ⟨fun h => h, rfl, fun k hk => ⟨rfl, rfl⟩⟩

/-- HEADERS on a stream that exists. -/
def headersOn (env : Environment) (s : Server) (id : Nat) (flags : UInt8)
    (payload : List UInt8) : Server × List Event :=
  let (valid, s) := parseHeaderFull env s id (headersBlock flags payload)
  if valid then
    if env.allowed then
      if (s.rest.streams id).req.isUpgrade then http2RouterBridge env s id
      else if flags &&& 0x01 ≠ 0 then
        http2RouterBridge env (setStream s id (fun st => { st with state := .reservedRemote })) id
      else (s, [])
    else (s, [.sent ⟨0x03, 0x00, id, [0x00, 0x00, 0x00, 0x07]⟩])
  else (s, [])

/-- HEADERS without a stream, or on a stream that exists or is created. -/
theorem handleHeaders_cases (env : Environment) (s : Server) (head : HTTP2FrameHeader)
    (payload : Option (List UInt8)) :
    ((head.streamId = 0 ∨ http2StreamGetOrCreate env s head.streamId = none) ∧
      http2ParserHandleHeaders env s head payload = (s, [])) ∨
    (head.streamId ≠ 0 ∧ ∃ s', http2StreamGetOrCreate env s head.streamId = some s' ∧
      http2ParserHandleHeaders env s head payload
        = headersOn env s' head.streamId head.flags (payload.getD [])) := by
  unfold http2ParserHandleHeaders
  by_cases hid : head.streamId = 0
  · exact Or.inl ⟨Or.inl hid, if_pos hid⟩
  · dsimp only
    rw [if_neg hid]
    cases hcreate : http2StreamGetOrCreate env s head.streamId with
    | none => exact Or.inl ⟨Or.inr rfl, rfl⟩
    | some s' => exact Or.inr ⟨hid, s', rfl, rfl⟩

theorem inside_headersOn (flags : UInt8) (payload : List UInt8) :
    Inside id s (headersOn env s id flags payload).1 := by
  have hparse : Inside id s (parseHeaderFull env s id (headersBlock flags payload)).2 :=
    inside_parseHeaderFull _
  unfold headersOn
  dsimp only
  split_ifs
  · exact hparse.trans (http2RouterBridge_spec _ _ _).1
  · exact (hparse.trans (inside_setState _)).trans (http2RouterBridge_spec _ _ _).1
  · exact hparse
  · exact hparse
  · exact hparse

/-- The events of HEADERS: a call of the router with its answer, or RST_STREAM. -/
theorem headersOn_events (flags : UInt8) (payload : List UInt8) :
    ∀ e ∈ (headersOn env s id flags payload).2, (∃ body len, e = .router id body len) ∨
      Answer id e ∨ e = .sent ⟨0x03, 0x00, id, [0x00, 0x00, 0x00, 0x07]⟩ := by
  have hrouter : ∀ s', ∀ e ∈ (http2RouterBridge env s' id).2,
      (∃ body len, e = .router id body len) ∨
        Answer id e ∨ e = .sent ⟨0x03, 0x00, id, [0x00, 0x00, 0x00, 0x07]⟩ := by
    intro s' e he
    obtain ⟨-, -, answers, hevents, hanswer⟩ := http2RouterBridge_spec env s' id
    rw [hevents] at he
    rcases List.mem_cons.mp he with rfl | he
    · exact Or.inl ⟨_, _, rfl⟩
    · exact Or.inr (Or.inl (hanswer e he))
  unfold headersOn
  dsimp only
  split_ifs
  · exact hrouter _
  · exact hrouter _
  · intro e he
    cases he
  · intro e he
    exact Or.inr (Or.inr (List.mem_singleton.mp he))
  · intro e he
    cases he

end Headers

/-! ## One frame -/

section Frames

variable {env : Environment} {s : Server} {id : Nat} {f : Frame}

@[simp] theorem Frame.payloadBuf_getD (f : Frame) : f.payloadBuf.getD [] = f.payload := by
  unfold Frame.payloadBuf
  split
  · next hnil => exact hnil.symm
  · rfl

/-- A DATA frame without a payload or without a stream is ignored. -/
theorem handleData_ignored (h : f.payload = [] ∨ http2StreamFind s f.streamId = none) :
    http2ParserHandleData env s f.head f.payloadBuf = (s, []) := by
  have hid : f.head.streamId = f.streamId := rfl
  unfold http2ParserHandleData
  dsimp only
  rw [hid]
  rcases h with h | h
  · have hbuf : f.payloadBuf = none := if_pos h
    rw [hbuf]
    cases hfind : http2StreamFind s f.streamId <;> rfl
  · rw [h]

theorem handleData_known (hne : f.payload ≠ [])
    (hknown : (http2StreamFind s f.streamId).isSome = true) :
    http2ParserHandleData env s f.head f.payloadBuf
      = if (s.rest.streams f.streamId).req.isUpgrade then
          (s, handleWebsocketDataPayload env f.streamId f.payload)
        else if env.reallocOk = false then (s, [])
        else if f.flags &&& 0x01 ≠ 0 then
          ((handleStreamEnd env (appendStreamBody s f.streamId f.payload) f.streamId).1,
            windowUpdates f.streamId f.payload.length
              ++ (handleStreamEnd env (appendStreamBody s f.streamId f.payload) f.streamId).2)
        else
          (appendStreamBody s f.streamId f.payload,
            windowUpdates f.streamId f.payload.length) := by
  obtain ⟨st, hfind⟩ := Option.isSome_iff_exists.mp hknown
  have hbuf : f.payloadBuf = some f.payload := if_neg hne
  have hid : f.head.streamId = f.streamId := rfl
  have hpos : f.head.length ≠ 0 := fun h => hne (List.length_eq_zero_iff.mp h)
  unfold http2ParserHandleData
  dsimp only
  rw [hid, hfind, hbuf]
  dsimp only
  rw [if_neg hpos]
  rfl

/-- `dispatch_frame`, with its events. -/
def handleFrame (env : Environment) (s : Server) (f : Frame) : Server × List Event :=
  if f.type = 0x00 then http2ParserHandleData env s f.head f.payloadBuf
  else if f.type = 0x01 then http2ParserHandleHeaders env s f.head f.payloadBuf
  else if f.type = 0x03 then (handleRstStream s f.streamId, [])
  else if f.type = 0x04 then
    (if f.flags &&& 0x01 = 0 ∧ 6 ≤ f.payload.length then handleSettings f.payload s else s, [])
  else if f.type = 0x06 then
    (s, if f.flags &&& 0x01 = 0 then [.sent ⟨0x06, 0x01, 0, f.payload⟩] else [])
  else if f.type = 0x08 then (http2FrameHandleWindowUpdate s f.head f.payloadBuf, [])
  else (s, [])

theorem dispatchFrame_server (env : Environment) (s : Server) (f : Frame) :
    (dispatchFrame (serverHandlers env) s f.head f.payloadBuf).2.1 = (handleFrame env s f).1 := by
  have htype : f.head.type = f.type := rfl
  unfold dispatchFrame handleFrame
  rw [htype, Frame.payloadBuf_getD]
  by_cases h0 : f.type = 0x00
  · rw [if_pos h0, if_pos h0]
    rfl
  rw [if_neg h0, if_neg h0]
  by_cases h1 : f.type = 0x01
  · rw [if_pos h1, if_pos h1]
    rfl
  rw [if_neg h1, if_neg h1]
  by_cases h3 : f.type = 0x03
  · rw [if_pos h3, if_pos h3]
    rfl
  rw [if_neg h3, if_neg h3]
  by_cases h4 : f.type = 0x04
  · rw [if_pos h4, if_pos h4]
    show (if f.flags &&& 0x01 = 0 ∧ 6 ≤ f.payload.length then _ else _ : Nat × Server × _).2.1 = _
    split <;> rfl
  rw [if_neg h4, if_neg h4]
  by_cases h6 : f.type = 0x06
  · rw [if_pos h6, if_pos h6]
    split <;> rfl
  rw [if_neg h6, if_neg h6]
  by_cases h7 : f.type = 0x07
  · have h8 : f.type ≠ 0x08 := by
      rw [h7]
      decide
    rw [if_pos h7, if_neg h8]
  rw [if_neg h7]
  split <;> rfl

theorem dispatchEvents_eq (env : Environment) (s : Server) (f : Frame) :
    dispatchEvents env s f = (handleFrame env s f).2 := by
  unfold dispatchEvents handleFrame
  by_cases h0 : f.type = 0x00
  · rw [if_pos h0, if_pos h0]
  rw [if_neg h0, if_neg h0]
  by_cases h1 : f.type = 0x01
  · rw [if_pos h1, if_pos h1]
  rw [if_neg h1, if_neg h1]
  by_cases h6 : f.type = 0x06
  · have h3 : f.type ≠ 0x03 := by
      rw [h6]
      decide
    have h4 : f.type ≠ 0x04 := by
      rw [h6]
      decide
    rw [if_neg h3, if_neg h4, if_pos h6]
    by_cases hack : f.flags &&& 0x01 = 0
    · exact (if_pos ⟨h6, hack⟩).trans (if_pos hack).symm
    · exact (if_neg (fun h => hack h.2)).trans (if_neg hack).symm
  rw [if_neg (fun h => h6 h.1), if_neg h6]
  split_ifs <;> rfl

theorem Run.step_frame (r : Run) (f : Frame) (env : Environment) :
    r.step (.frame f env)
      = ⟨(handleFrame env r.server f).1,
        r.trace ++ .received f :: (handleFrame env r.server f).2.map .did⟩ := by
  unfold Run.step Run.extend
  dsimp only
  rw [dispatchFrame_server, dispatchEvents_eq, List.append_assoc, List.singleton_append]

/-- What a frame does to the ledger of the windows. -/
def Frame.ledgerOps (f : Frame) (env : Environment) : List LedgerOp :=
  if f.type = 0x01 then
    if f.streamId ≠ 0 ∧ env.callocOk then [.openStream f.streamId] else []
  else if f.type = 0x04 then
    if f.flags &&& 0x01 = 0 then (initialWindows f.payload).map (fun val => .setInitial val.toNat)
    else []
  else if f.type = 0x08 then
    [if f.streamId = 0 then .credit (windowIncrement f.payloadBuf)
      else .creditStream f.streamId (windowIncrement f.payloadBuf)]
  else []

theorem handleSettings_short {payload : List UInt8} (h : payload.length < 6) :
    initialWindows payload = [] := by
  unfold initialWindows
  split
  · exact absurd h (by simp only [List.length_cons]; omega)
  · rfl

theorem sized_getOrCreate {s' : Server} (hsized : Sized s)
    (h : http2StreamGetOrCreate env s id = some s') : Sized s' := by
  rcases getOrCreate_cases h with ⟨-, rfl⟩ | ⟨-, -, rfl⟩
  · exact hsized
  · exact sized_setRest (sized_pushStream hsized _) _

theorem sized_handleHeaders (hsized : Sized s) (head : HTTP2FrameHeader)
    (payload : Option (List UInt8)) : Sized (http2ParserHandleHeaders env s head payload).1 := by
  rcases handleHeaders_cases env s head payload with ⟨-, h⟩ | ⟨-, s', hcreate, h⟩
  · rw [h]
    exact hsized
  · rw [h]
    exact (inside_headersOn _ _).sized (sized_getOrCreate hsized hcreate)

theorem sized_windowUpdate (hsized : Sized s) (head : HTTP2FrameHeader)
    (payload : Option (List UInt8)) : Sized (http2FrameHandleWindowUpdate s head payload) := by
  rw [http2FrameHandleWindowUpdate_eq]
  split_ifs
  · exact hsized
  · exact hsized
  · exact sized_setStream hsized

theorem sized_handleSettings (hsized : Sized s) (payload : List UInt8) :
    Sized (handleSettings payload s) := by
  apply handleSettings_induction payload hsized
  intro s' val h
  show (s'.streamsHash.map _).length = 32
  rw [List.length_map]
  exact h

theorem sized_handleFrame (hsized : Sized s) : Sized (handleFrame env s f).1 := by
  unfold handleFrame
  split_ifs
  · exact (inside_handleData f.head f.payloadBuf).sized hsized
  · exact sized_handleHeaders hsized f.head f.payloadBuf
  · show (s.streamsHash.map _).length = 32
    rw [List.length_map]
    exact hsized
  · exact sized_handleSettings hsized f.payload
  · exact hsized
  · exact hsized
  · exact hsized
  · exact sized_windowUpdate hsized f.head f.payloadBuf
  · exact hsized

theorem windows_handleHeaders (hsized : Sized s) (head : HTTP2FrameHeader)
    (payload : Option (List UInt8)) :
    windows (http2ParserHandleHeaders env s head payload).1
      = (windows s).applyAll Int32.ofInt
        (if head.streamId ≠ 0 ∧ env.callocOk then [.openStream head.streamId] else []) := by
  rcases handleHeaders_cases env s head payload with ⟨hnone, h⟩ | ⟨hid, s', hcreate, h⟩
  · have hclosed : ¬ (head.streamId ≠ 0 ∧ env.callocOk = true) := by
      rintro ⟨hid, hcalloc⟩
      rcases hnone with hzero | hnone
      · exact hid hzero
      · unfold http2StreamGetOrCreate at hnone
        split at hnone
        · cases hnone
        · rw [if_pos hcalloc] at hnone
          cases hnone
    rw [h, if_neg hclosed]
    rfl
  · rw [h, (inside_headersOn _ _).windows, windows_getOrCreate hsized hcreate]
    by_cases hcalloc : env.callocOk = true
    · rw [if_pos ⟨hid, hcalloc⟩]
      rfl
    · -- the stream was there, so that nothing is opened
      rw [if_neg (fun h => hcalloc h.2), ← windows_getOrCreate hsized hcreate]
      rcases getOrCreate_cases hcreate with ⟨-, rfl⟩ | ⟨-, hok, -⟩
      · rfl
      · exact absurd hok hcalloc

/-- **A frame moves the windows as the operations move a ledger.** -/
theorem windows_handleFrame (hsized : Sized s) :
    windows (handleFrame env s f).1 = (windows s).applyAll Int32.ofInt (f.ledgerOps env) := by
  unfold handleFrame Frame.ledgerOps
  by_cases h0 : f.type = 0x00
  · rw [if_pos h0, h0]
    exact (inside_handleData f.head f.payloadBuf).windows
  rw [if_neg h0]
  by_cases h1 : f.type = 0x01
  · rw [if_pos h1, if_pos h1]
    exact windows_handleHeaders hsized f.head f.payloadBuf
  rw [if_neg h1, if_neg h1]
  by_cases h3 : f.type = 0x03
  · rw [if_pos h3, h3]
    exact windows_handleRstStream
  rw [if_neg h3]
  by_cases h4 : f.type = 0x04
  · rw [if_pos h4, if_pos h4]
    by_cases hack : f.flags &&& 0x01 = 0
    · rw [if_pos hack, ← windows_handleSettings]
      by_cases hlen : 6 ≤ f.payload.length
      · rw [if_pos ⟨hack, hlen⟩]
      · rw [if_neg (fun h => hlen h.2), handleSettings_eq, handleSettings_short (by omega)]
        rfl
    · rw [if_neg hack, if_neg (fun h => hack h.1)]
      rfl
  rw [if_neg h4, if_neg h4]
  by_cases h6 : f.type = 0x06
  · rw [if_pos h6, h6]
    rfl
  rw [if_neg h6]
  by_cases h8 : f.type = 0x08
  · rw [if_pos h8, if_pos h8]
    exact windows_windowUpdate f.head f.payloadBuf
  · rw [if_neg h8, if_neg h8]
    rfl

/-- A frame that is not a HEADERS, DATA or RST_STREAM frame of the stream leaves it alone. -/
theorem untouched_handleFrame (hsized : Sized s)
    (hother : f.streamId = id → f.type ≠ 0x00 ∧ f.type ≠ 0x01 ∧ f.type ≠ 0x03) :
    Untouched id s (handleFrame env s f).1 := by
  have hne : f.type = 0x00 ∨ f.type = 0x01 ∨ f.type = 0x03 → id ≠ f.streamId := by
    rintro htype rfl
    obtain ⟨h0, h1, h3⟩ := hother rfl
    rcases htype with h | h | h
    · exact h0 h
    · exact h1 h
    · exact h3 h
  unfold handleFrame
  split_ifs with h0 h1 h3 h4 hack h6 hack h8
  · exact (inside_handleData f.head f.payloadBuf).others id (hne (Or.inl h0))
  · have hid := hne (Or.inr (Or.inl h1))
    rcases handleHeaders_cases env s f.head f.payloadBuf with ⟨-, h⟩ | ⟨-, s', hcreate, h⟩
    · rw [h]
      exact Untouched.refl
    · rw [h]
      exact (untouched_getOrCreate hsized hid hcreate).trans
        ((inside_headersOn _ _).others id hid)
  · exact untouched_handleRstStream (hne (Or.inr (Or.inr h3)))
  · exact untouched_handleSettings f.payload
  · exact Untouched.refl
  · exact Untouched.refl
  · exact Untouched.refl
  · exact untouched_windowUpdate f.head f.payloadBuf
  · exact Untouched.refl

end Frames

/-! ## One visit of the pump -/

section Visits

variable {env : Environment} {s : Server} {id : Nat}

theorem inside_flushFcgiStream : Inside id s (flushFcgiStream env s id).1 := by
  unfold flushFcgiStream
  split
  · dsimp only
    apply Inside.setRest
    apply inside_setStream
    · intro st
      rfl
    · intro st
      rfl
  · exact Inside.refl

theorem requestOf_flushFcgiStream : requestOf (flushFcgiStream env s id).1 id = requestOf s id := by
  unfold flushFcgiStream
  split
  · dsimp only
    rw [requestOf_setRest, requestOf_setStream]
    intro r
    rfl
  · rfl

/-- The body of the answer whose header block a FastCGI step completes. -/
def answerBody (st : FcgiStream) (i : StepInput) : List UInt8 :=
  if st.isFcgiActive ∧ st.fcgiState = 3 ∧ i.pollIn then
    match i.recv with
    | .data chunk =>
        let text := recordLoop chunk st.headerText
        match strstr blankLine ({ st with headerText := text }).headerBuffer with
        | some (rawHeaders, _) => text.drop (rawHeaders.length + 4)
        | none => []
    | _ => []
  else []

/-- Nothing is sent to the client while the request is sent. -/
theorem paramsStep_sent (i : StepInput) (st : FcgiStream) : (paramsStep i st).sent = [] := by
  unfold paramsStep
  dsimp only
  repeat' split
  all_goals rfl

theorem stdinEnd_sent (i : StepInput) (out : List UInt8) (st : FcgiStream) :
    (stdinEnd i out st).sent = [] := by
  unfold stdinEnd
  split <;> rfl

theorem stdinStep_sent (i : StepInput) (st : FcgiStream) : (stdinStep i st).sent = [] := by
  unfold stdinStep
  dsimp only
  split
  · split
    · split
      · exact stdinEnd_sent _ _ _
      · rfl
      · rfl
      · rfl
      · rfl
    · exact stdinEnd_sent _ _ _
  · rfl

/-- A FastCGI exchange sends the headers of its answer and the body. -/
theorem fcgiStep_sent (st : FcgiStream) (i : StepInput) :
    ∀ sent ∈ (fcgiSessionHttp2Step st i).sent, (∃ raw, sent = .headers raw 0x04) ∨
      ∃ c ∈ (http2ResponseSendData st.streamId st.state (answerBody st i) true).1,
        sent = .frame c := by
  -- only `case 3` sends to the client, and only behind the blank line of the answer
  have hreceive : st.isFcgiActive = true → st.fcgiState = 3 →
      ∀ sent ∈ (receiveStep i st).sent, (∃ raw, sent = .headers raw 0x04) ∨
        ∃ c ∈ (http2ResponseSendData st.streamId st.state (answerBody st i) true).1,
          sent = .frame c := by
    intro hactive hstate sent hsent
    unfold receiveStep at hsent
    split at hsent
    · next hin =>
        split at hsent
        · next chunk hrecv =>
            unfold delimStep at hsent
            dsimp only at hsent
            split at hsent
            · next rawHeaders tail hfound =>
                have hbody : answerBody st i
                    = (recordLoop chunk st.headerText).drop (rawHeaders.length + 4) := by
                  unfold answerBody
                  rw [if_pos ⟨hactive, hstate, hin⟩, hrecv]
                  dsimp only
                  rw [hfound]
                rw [hbody]
                rcases List.mem_append.mp hsent with hmem | hmem
                · split at hmem
                  · cases hmem
                  · exact Or.inl ⟨rawHeaders, List.mem_singleton.mp hmem⟩
                · obtain ⟨c, hc, rfl⟩ := List.mem_map.mp hmem
                  exact Or.inr ⟨c, hc, rfl⟩
            · cases hsent
        · cases hsent
        · cases hsent
        · cases hsent
    · cases hsent
  intro sent hsent
  unfold fcgiSessionHttp2Step at hsent
  split at hsent
  · cases hsent
  · next hactive =>
      split at hsent
      · rw [paramsStep_sent] at hsent
        cases hsent
      · rw [paramsStep_sent] at hsent
        cases hsent
      · rw [stdinStep_sent] at hsent
        cases hsent
      · next hstate => exact hreceive (by simpa using hactive) hstate sent hsent
      · cases hsent

/-- The events of a FastCGI visit. -/
theorem flushFcgiStream_events (env : Environment) (s : Server) (id : Nat) :
    ∀ e ∈ (flushFcgiStream env s id).2, ∃ st i, http2StreamFind s id = some st ∧
      env.fcgi id = some i ∧ ((∃ raw, e = .sent (http2ResponseSendComplexHeader id raw 0x04)) ∨
        ∃ c ∈ (http2ResponseSendData id st.state
          (answerBody (fcgiView st (s.rest.streams id)) i) true).1, e = .sent c) := by
  intro e he
  unfold flushFcgiStream at he
  split at he
  · next st i hfind hstep =>
      obtain ⟨sent, hsent, rfl⟩ := List.mem_map.mp he
      refine ⟨st, i, hfind, hstep, ?_⟩
      unfold flushFcgi at hsent
      split at hsent
      · have hid : (fcgiView st (s.rest.streams id)).streamId = id :=
          streamId_of_lookup (lookup_of_find hfind).2
        rcases fcgiStep_sent _ i sent hsent with ⟨raw, rfl⟩ | ⟨c, hc, rfl⟩
        · exact Or.inl ⟨raw, rfl⟩
        · rw [hid] at hc
          exact Or.inr ⟨c, hc, rfl⟩
      · cases hsent
  · cases he

theorem answer_flushFcgiStream : ∀ e ∈ (flushFcgiStream env s id).2, Answer id e := by
  intro e he
  obtain ⟨st, i, -, -, ⟨raw, rfl⟩ | ⟨c, hc, rfl⟩⟩ := flushFcgiStream_events env s id e he
  · exact ⟨_, rfl, rfl, Or.inr rfl⟩
  · obtain ⟨htype, hstream, -⟩ := (http2ResponseSendData_body _ _ _ _).2 c hc
    exact ⟨c, rfl, hstream, Or.inl htype⟩

/-- The windows and the offset behind `n` bytes of the file. -/
def advance (s : Server) (id n : Nat) : Server :=
  setRest
    (setStream { s with outWindowSize := s.outWindowSize - Int32.ofNat n } id
      (fun st => { st with outWindowSize := st.outWindowSize - Int32.ofNat n }))
    id (fun r => { r with fileOffset := r.fileOffset + n })

/-- A visit that reads: the piece `data` of the file is sent, or the read has failed. -/
structure FilePiece (env : Environment) (s : Server) (id : Nat) (st : HTTP2Stream)
    (data : List UInt8) : Prop where
  id_ne : id ≠ 0
  lookup : lookupStream s id = some st
  hasFile : st.hasFile = true
  unread : (s.rest.streams id).fileOffset < (s.rest.streams id).fileSize
  session_pos : 0 < s.outWindowSize
  stream_pos : 0 < st.outWindowSize
  read : data = (env.pread id).take (maxAllowed s.outWindowSize st.outWindowSize
    ((s.rest.streams id).fileSize - (s.rest.streams id).fileOffset))

/-- A visit does nothing, closes a file it cannot read, or sends a piece of it. -/
theorem flushFileStream_cases (env : Environment) (s : Server) (id : Nat) :
    flushFileStream env s id = (s, []) ∨
    ∃ st data, FilePiece env s id st data ∧
      ((data = [] ∧ flushFileStream env s id = (closeFile s id, [])) ∨
        (data ≠ [] ∧ flushFileStream env s id
          = (if (s.rest.streams id).fileSize ≤ (s.rest.streams id).fileOffset + data.length then
              closeFile (advance s id data.length) id else advance s id data.length,
            [.sent ⟨0x00,
              if (s.rest.streams id).fileSize ≤ (s.rest.streams id).fileOffset + data.length then
                0x01 else 0x00, id, data⟩]))) := by
  unfold flushFileStream
  cases hfind : http2StreamFind s id with
  | none => exact Or.inl rfl
  | some st =>
      dsimp only
      split
      · exact Or.inl rfl
      · next hopen =>
          split
          · exact Or.inl rfl
          · next hwindows =>
              obtain ⟨hid, hlook⟩ := lookup_of_find hfind
              push Not at hopen hwindows
              refine Or.inr ⟨st, _, ⟨hid, hlook, by simpa using hopen.1, by simpa using hopen.2,
                Int32.not_le.mp hwindows.1, Int32.not_le.mp hwindows.2, rfl⟩, ?_⟩
              split
              · next hnil => exact Or.inl ⟨hnil, rfl⟩
              · next hne => exact Or.inr ⟨hne, rfl⟩

/-- What every visit preserves, a pass of the pump preserves. -/
theorem Run.flush_induction {P : Run → Prop} {r : Run} (hr : P r)
    (hvisit : ∀ target ∈ activeStreams r.server, ∀ r', P r' → P (r'.visit env target)) :
    P (r.step (.flush env)) := runSteps_induction hr hvisit

theorem windows_advance (n : Nat) :
    windows (advance s id n) = (windows s).apply Int32.ofInt (.debit id n) := by
  have hkeep : ∀ st : HTTP2Stream, ({ st with
      outWindowSize := st.outWindowSize - Int32.ofNat n } : HTTP2Stream).streamId
      = st.streamId := fun _ => rfl
  unfold advance
  rw [windows_setRest]
  apply Ledger.ext
  · simp only [windows, setStream_outWindowSize, Ledger.apply, ofNat_eq_ofInt]
  · exact congrArg UInt32.toInt32 setStream_peer
  · intro k
    simp only [windows, Ledger.apply, lookup_setStream hkeep, ← ofNat_eq_ofInt]
    split
    · next hk =>
        rw [hk, Option.map_map]
        show _ = ((lookupStream s id).map HTTP2Stream.outWindowSize).map _
        rw [Option.map_map]
        rfl
    · rfl

theorem lookup_advance (n k : Nat) :
    lookupStream (advance s id n) k
      = if k = id then
          (lookupStream s id).map
            (fun st => { st with outWindowSize := st.outWindowSize - Int32.ofNat n })
        else lookupStream s k := by
  have hkeep : ∀ st : HTTP2Stream, ({ st with
      outWindowSize := st.outWindowSize - Int32.ofNat n } : HTTP2Stream).streamId
      = st.streamId := fun _ => rfl
  unfold advance
  rw [lookup_setRest, lookup_setStream hkeep]
  rfl

theorem sized_advance (hsized : Sized s) (n : Nat) : Sized (advance s id n) :=
  sized_setRest (sized_setStream (show Sized { s with
    outWindowSize := s.outWindowSize - Int32.ofNat n } from hsized)) _

theorem requestOf_advance (n : Nat) : requestOf (advance s id n) id = requestOf s id := by
  unfold advance
  rw [requestOf_setRest, requestOf_setStream]
  · rfl
  · intro r
    rfl

theorem inside_closeFile : Inside id s (closeFile s id) := by
  apply inside_setStream
  · intro st
    rfl
  · intro st
    rfl

theorem untouched_advance (n : Nat) {k : Nat} (hk : k ≠ id) : Untouched k s (advance s id n) := by
  have hwin : Untouched k s { s with outWindowSize := s.outWindowSize - Int32.ofNat n } := ⟨rfl, rfl⟩
  exact (hwin.trans (untouched_setWindow _)).trans (untouched_setRest _ hk)

/-- A visit to a stream changes and answers that stream only. -/
theorem untouched_flushStream (a : Activity) {k : Nat} (hk : k ≠ id) :
    Untouched k s (flushStream env s id a).1 := by
  cases a with
  | fcgi =>
      have hinside : Inside id s (flushFcgiStream env s id).1 := inside_flushFcgiStream
      exact hinside.others k hk
  | file =>
      show Untouched k s (flushFileStream env s id).1
      rcases flushFileStream_cases env s id with hnop | ⟨st, data, -, ⟨-, hclose⟩ | ⟨-, hsend⟩⟩
      · rw [hnop]
        exact Untouched.refl
      · rw [hclose]
        have hinside : Inside id s (closeFile s id) := inside_closeFile
        exact hinside.others k hk
      · rw [hsend]
        have hadvance : Untouched k s (advance s id data.length) := untouched_advance _ hk
        have hinside : Inside id (advance s id data.length)
            (closeFile (advance s id data.length) id) := inside_closeFile
        dsimp only
        split
        · exact hadvance.trans (hinside.others k hk)
        · exact hadvance

theorem answer_flushStream (a : Activity) : ∀ e ∈ (flushStream env s id a).2, Answer id e := by
  cases a with
  | fcgi => exact answer_flushFcgiStream
  | file =>
      show ∀ e ∈ (flushFileStream env s id).2, Answer id e
      rcases flushFileStream_cases env s id with hnop | ⟨st, data, -, ⟨-, hclose⟩ | ⟨-, hsend⟩⟩
      · rw [hnop]
        intro e he
        cases he
      · rw [hclose]
        intro e he
        cases he
      · rw [hsend, List.forall_mem_singleton]
        exact ⟨_, rfl, rfl, Or.inl rfl⟩

theorem sized_flushStream (hsized : Sized s) (a : Activity) :
    Sized (flushStream env s id a).1 := by
  cases a with
  | fcgi =>
      have hinside : Inside id s (flushFcgiStream env s id).1 := inside_flushFcgiStream
      exact hinside.sized hsized
  | file =>
      show Sized (flushFileStream env s id).1
      have hclose : ∀ s', Sized s' → Sized (closeFile s' id) := by
        intro s' h
        have hinside : Inside id s' (closeFile s' id) := inside_closeFile
        exact hinside.sized h
      rcases flushFileStream_cases env s id with hnop | ⟨st, data, -, ⟨-, heq⟩ | ⟨-, hsend⟩⟩
      · rw [hnop]
        exact hsized
      · rw [heq]
        exact hclose s hsized
      · rw [hsend]
        dsimp only
        split
        · exact hclose _ (sized_advance hsized _)
        · exact sized_advance hsized _

/-- A FastCGI visit to a stream that has no exchange in progress. -/
theorem flushFcgiStream_inactive
    (hidle : ∀ st, lookupStream s id = some st → st.isFcgiActive = false) :
    Untouched id s (flushFcgiStream env s id).1 ∧ (flushFcgiStream env s id).2 = [] := by
  unfold flushFcgiStream
  split
  · next st i hfind hstep =>
      have hlook := (lookup_of_find hfind).2
      have hsame : flushFcgi (fcgiView st (s.rest.streams id)) i
          = ([], fcgiView st (s.rest.streams id)) := by
        unfold flushFcgi
        rw [if_neg]
        rw [show (fcgiView st (s.rest.streams id)).isFcgiActive = st.isFcgiActive from rfl,
          hidle st hlook]
        decide
      have hkeep : ∀ st' : HTTP2Stream, ({ st' with
          state := (fcgiView st (s.rest.streams id)).state
          isFcgiActive := (fcgiView st (s.rest.streams id)).isFcgiActive } : HTTP2Stream).streamId
          = st'.streamId := fun _ => rfl
      rw [hsame]
      refine ⟨Untouched.of_lookup ?_ ?_, rfl⟩
      · rw [lookup_setRest, lookup_setStream hkeep, if_pos rfl, hlook]
        rfl
      · rw [setRest_streams_self, setStream_rest]
        rfl
  · exact ⟨Untouched.refl, rfl⟩

/-- The least of the limits. -/
theorem FilePiece.length_le {st : HTTP2Stream} {data : List UInt8}
    (h : FilePiece env s id st data) :
    data.length ≤ 16384 ∧ (data.length : Int) ≤ s.outWindowSize.toInt
      ∧ (data.length : Int) ≤ st.outWindowSize.toInt
      ∧ data.length ≤ (s.rest.streams id).fileSize - (s.rest.streams id).fileOffset := by
  have hlen : data.length ≤ maxAllowed s.outWindowSize st.outWindowSize
      ((s.rest.streams id).fileSize - (s.rest.streams id).fileOffset) := by
    rw [h.read]
    exact List.length_take_le _ _
  have hsession : 0 < s.outWindowSize.toInt := by
    have := Int32.lt_iff_toInt_lt.mp h.session_pos
    simpa using this
  have hstream : 0 < st.outWindowSize.toInt := by
    have := Int32.lt_iff_toInt_lt.mp h.stream_pos
    simpa using this
  unfold maxAllowed at hlen
  omega

/-- A piece that is read from a file that gives bytes is not empty. -/
theorem FilePiece.ne_nil {st : HTTP2Stream} {data : List UInt8}
    (h : FilePiece env s id st data) (hread : env.pread id ≠ []) :
    data ≠ [] := by
  have hpos : 0 < maxAllowed s.outWindowSize st.outWindowSize
      ((s.rest.streams id).fileSize - (s.rest.streams id).fileOffset) := by
    have hsession := Int32.lt_iff_toInt_lt.mp h.session_pos
    have hstream := Int32.lt_iff_toInt_lt.mp h.stream_pos
    have hunread := h.unread
    rw [Int32.toInt_zero] at hsession hstream
    unfold maxAllowed
    omega
  rw [h.read]
  intro hnil
  rcases List.take_eq_nil_iff.mp hnil with hzero | hzero
  · omega
  · exact hread hzero

end Visits

end Halmos.Http2
