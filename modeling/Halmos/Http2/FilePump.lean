import Halmos.Http2.FlowControl
import Halmos.Http2.Trace

set_option autoImplicit false

/-! # The pump of files

Streams that answer with a file share the window of the connection; each pass of the pump sends a
piece of every file that has window. What has been sent of a file is at every point its beginning up
to `file_offset`, and END_STREAM is on the frame that reaches its end (`filePump_serves`).
-/

namespace Halmos.Http2

open Fcgi

/-! ## A stream is set up -/

/-- A HEADERS frame that opens its stream and asks for a file with the given contents. -/
structure StartsFile (contents : Nat → List UInt8) (env : Environment) (s : Server)
    (f : Frame) : Prop where
  stream : lookupStream s f.streamId = none
  accepts : Accepts env s f
  plain : (headerPass env s f).req.isUpgrade = false
  ending : f.flags &&& 0x01 ≠ 0
  route : ∃ fd, env.route = .file fd (contents f.streamId).length

/-- What `route_static_file` leaves behind and sends. -/
structure FileStarted (s : Server) (id size : Nat) (events : List Event) (st : HTTP2Stream) :
    Prop where
  lookup : lookupStream s id = some st
  noFcgi : st.isFcgiActive = false
  offset : (s.rest.streams id).fileOffset = 0
  sending : size ≠ 0 → st.isSendingFile = true ∧ 0 ≤ st.fileFd ∧ st.state ≠ .closed ∧
    (s.rest.streams id).fileSize = size ∧
    ∃ body len block, events = [.router id body len, .sent ⟨0x01, 0x04, id, block⟩]
  empty : size = 0 → st.isSendingFile = false ∧
    ∃ body len block, events
      = [.router id body len, .sent ⟨0x01, 0x04, id, block⟩, .sent ⟨0x00, 0x01, id, []⟩]

section Start

variable {contents : Nat → List UInt8} {env : Environment} {s : Server} {f : Frame} {id : Nat}

theorem lookup_parseHeaderFull (block : List UInt8) (k : Nat) :
    lookupStream (parseHeaderFull env s id block).2 k = lookupStream s k := by
  unfold parseHeaderFull
  split <;> rfl

theorem streams_parseHeaderFull {block : List UInt8} (hblock : block ≠ []) :
    (parseHeaderFull env s id block).2.rest.streams id
      = { s.rest.streams id with
          req := (parseHeader env.trustProxy s.rest.table (s.rest.streams id).req block).req } := by
  unfold parseHeaderFull
  rw [if_neg hblock]
  dsimp only
  rw [setRest_streams_self]

/-- `route_static_file` on a stream that has not answered yet. -/
theorem startFile_spec {st : HTTP2Stream} (hlook : lookupStream s id = some st)
    (hnoFcgi : st.isFcgiActive = false) (hnoFile : st.isSendingFile = false)
    (hstate : st.state ≠ .closed) (hoffset : (s.rest.streams id).fileOffset = 0)
    (body : List UInt8) (len : Int32) (fd size : Nat) :
    ∃ st', FileStarted (startFile env s id fd size).1 id size
      (.router id body len :: (startFile env s id fd size).2) st' := by
  unfold startFile
  dsimp only
  by_cases hsize : size = 0
  · rw [if_pos hsize]
    have hkeep : ∀ st : HTTP2Stream,
        ({ st with state := (http2ResponseSendData id .idle [] true).2 } : HTTP2Stream).streamId
          = st.streamId := fun _ => rfl
    refine ⟨{ st with state := .halfClosedLocal }, ?_, hnoFcgi, ?_, fun h => absurd hsize h,
      fun _ => ⟨hnoFile, body, len, headerBlock 200 env.mime, rfl⟩⟩
    · rw [lookup_setStream hkeep, if_pos rfl, hlook]
      rfl
    · rw [setStream_rest]
      exact hoffset
  · rw [if_neg hsize]
    have hkeep : ∀ st : HTTP2Stream,
        ({ st with fileFd := fd, isSendingFile := true } : HTTP2Stream).streamId
          = st.streamId := fun _ => rfl
    refine ⟨{ st with fileFd := fd, isSendingFile := true }, ?_, hnoFcgi, ?_,
      fun _ => ⟨rfl, Int.natCast_nonneg fd, hstate, ?_, body, len, headerBlock 200 env.mime, rfl⟩,
      fun h => absurd h hsize⟩
    · rw [lookup_setRest, lookup_setStream hkeep, if_pos rfl, hlook]
      rfl
    · rw [setRest_streams_self]
    · rw [setRest_streams_self]

/-- **HEADERS set a file up.** -/
theorem startsFile_spec (hsized : Sized s) (h1 : f.type = 0x01)
    (h : StartsFile contents env s f) :
    ∃ st, FileStarted (handleFrame env s f).1 f.streamId (contents f.streamId).length
      (handleFrame env s f).2 st := by
  obtain ⟨hnone, haccepts, hplain, hend, fd, hroute⟩ := h
  obtain ⟨hid, hstream, hvalid, hallowed⟩ := haccepts
  rw [handleFrame_headers h1]
  rcases handleHeaders_cases env s f.head f.payloadBuf with ⟨hno, -⟩ | ⟨-, s', hcreate, hh⟩
  · rcases hno with hzero | hno
    · exact absurd hzero hid
    · have hsome : (http2StreamGetOrCreate env s f.streamId).isSome = true :=
        getOrCreate_isSome_iff.mpr hstream
      rw [show http2StreamGetOrCreate env s f.streamId = none from hno] at hsome
      cases hsome
  · obtain ⟨-, hreq, htable⟩ := getOrCreate_spec hsized hcreate
    obtain ⟨hvalidIff, hleft⟩ := parseHeaderFull_spec hreq htable
    have hnew : lookupStream s' f.streamId = some (newStream s f.streamId)
        ∧ (s'.rest.streams f.streamId).fileOffset = 0 := by
      rcases getOrCreate_cases hcreate with ⟨hknown, -⟩ | ⟨-, -, rfl⟩
      · rw [show lookupStream s f.head.streamId = none from hnone] at hknown
        cases hknown
      · constructor
        · rw [lookup_setRest, lookup_pushStream hsized]
          exact if_pos rfl
        · rw [show f.head.streamId = f.streamId from rfl, setRest_streams_self]
          rfl
    rw [hh, Frame.payloadBuf_getD]
    show ∃ st, FileStarted (headersOn env s' f.streamId f.flags f.payload).1 f.streamId _
      (headersOn env s' f.streamId f.flags f.payload).2 st
    unfold headersOn
    dsimp only
    rw [if_pos (hvalidIff.mpr hvalid), if_pos hallowed, hleft hvalid.block,
      if_neg (by rw [hplain]; decide), if_pos hend]
    -- the stream as the router finds it
    have hreserved : ∀ st : HTTP2Stream,
        ({ st with state := .reservedRemote } : HTTP2Stream).streamId = st.streamId := fun _ => rfl
    generalize hparsed : (parseHeaderFull env s' f.streamId
      (headersBlock f.flags f.payload)).2 = parsed
    have hlook : lookupStream (setStream parsed f.streamId
        (fun st => { st with state := .reservedRemote })) f.streamId
        = some { newStream s f.streamId with state := .reservedRemote } := by
      rw [lookup_setStream hreserved, if_pos rfl, ← hparsed, lookup_parseHeaderFull, hnew.1]
      rfl
    have hrest : ((setStream parsed f.streamId
        (fun st => { st with state := .reservedRemote })).rest.streams f.streamId).fileOffset = 0 := by
      rw [setStream_rest, ← hparsed, streams_parseHeaderFull hvalid.block]
      exact hnew.2
    have hup : ((setStream parsed f.streamId
        (fun st => { st with state := .reservedRemote })).rest.streams f.streamId).req.isUpgrade
          = false := by
      rw [setStream_rest, ← hparsed, hleft hvalid.block]
      exact hplain
    generalize setStream parsed f.streamId (fun st => { st with state := .reservedRemote }) = s₀
      at hlook hrest hup ⊢
    unfold http2RouterBridge
    dsimp only
    rw [if_neg (by rw [hup]; decide), hroute]
    exact startFile_spec hlook rfl rfl (show HTTP2StreamState.reservedRemote ≠ .closed by decide)
      hrest _ _ fd _

end Start

/-! ## One file -/

/-- The DATA frames of a stream. -/
def Traced.dataFrame (id : Nat) : Traced → Option FrameCall
  | .did (.sent c) => if c.type = 0x00 ∧ c.streamId = id then some c else none
  | _ => none

def Run.dataFrames (r : Run) (id : Nat) : List FrameCall := r.trace.filterMap (Traced.dataFrame id)

/-- The frames are short, and END_STREAM is on exactly the one that reaches the end. -/
def EndsAt (size : Nat) (frames : List FrameCall) : Prop :=
  ∀ pre c post, frames = pre ++ c :: post → c.payload.length ≤ 16384 ∧
    (c.flags &&& 0x01 ≠ 0 ↔ ((pre ++ [c]).flatMap FrameCall.payload).length = size)

/-- A stream that answers with a file, or has not been opened. -/
structure FileInv (contents : List UInt8) (id : Nat) (r : Run) : Prop where
  unknown : coreOf r.server id = none → ∀ x ∈ r.trace, ¬ x.Answers id ∧ ¬ x.Closes id
  noFcgi : ∀ st, coreOf r.server id = some st → st.isFcgiActive = false
  sending : ∀ st, coreOf r.server id = some st → st.isSendingFile = true →
    0 ≤ st.fileFd ∧ st.state ≠ .closed ∧
    (r.server.rest.streams id).fileSize = contents.length ∧
    (r.server.rest.streams id).fileOffset < contents.length ∧ ¬ Closed id r.trace
  offset_le : (coreOf r.server id).isSome = true →
    (r.server.rest.streams id).fileOffset ≤ contents.length
  payload : (coreOf r.server id).isSome = true →
    (r.dataFrames id).flatMap FrameCall.payload
      = contents.take (r.server.rest.streams id).fileOffset
  endsAt : EndsAt contents.length (r.dataFrames id)
  orderly : Orderly id r.trace

section Invariant

variable {contents : List UInt8} {id : Nat} {r r' : Run} {more : List Traced}

theorem dataFrame_eq_some {x : Traced} {c : FrameCall} (h : x.dataFrame id = some c) :
    x = .did (.sent c) ∧ c.type = 0x00 ∧ c.streamId = id := by
  unfold Traced.dataFrame at h
  split at h
  · split at h
    · next hc =>
        cases h
        exact ⟨rfl, hc⟩
    · cases h
  · cases h

theorem dataFrame_answers {x : Traced} {c : FrameCall} (h : x.dataFrame id = some c) :
    x.Answers id := by
  obtain ⟨rfl, htype, hstream⟩ := dataFrame_eq_some h
  exact ⟨hstream, Or.inl htype⟩

theorem dataFrame_header {flags : UInt8} {k : Nat} {block : List UInt8} :
    (Traced.did (.sent ⟨0x01, flags, k, block⟩)).dataFrame id = none := by
  rw [Option.eq_none_iff_forall_ne_some]
  intro c h
  obtain ⟨heq, htype, -⟩ := dataFrame_eq_some h
  cases heq
  exact absurd htype (show (0x01 : UInt8) ≠ 0x00 by decide)

theorem dataFrame_data (flags : UInt8) (data : List UInt8) :
    (Traced.did (.sent ⟨0x00, flags, id, data⟩)).dataFrame id = some ⟨0x00, flags, id, data⟩ :=
  if_pos ⟨rfl, rfl⟩

theorem dataFrames_silent (htrace : r'.trace = r.trace ++ more)
    (hmore : ∀ x ∈ more, ¬ x.Answers id) : r'.dataFrames id = r.dataFrames id := by
  unfold Run.dataFrames
  have hnone : more.filterMap (Traced.dataFrame id) = [] := by
    rw [List.filterMap_eq_nil_iff]
    intro x hx
    by_contra hsome
    obtain ⟨c, hc⟩ := Option.ne_none_iff_exists'.mp hsome
    exact hmore x hx (dataFrame_answers hc)
  rw [htrace, List.filterMap_append, hnone, List.append_nil]

theorem endsAt_nil (size : Nat) : EndsAt size [] := by
  intro pre c post h
  have hlen := congrArg List.length h
  rw [List.length_append, List.length_cons] at hlen
  exact absurd hlen (by simp)

theorem EndsAt.snoc {size : Nat} {frames : List FrameCall} {c : FrameCall}
    (h : EndsAt size frames) (hlen : c.payload.length ≤ 16384)
    (hend : c.flags &&& 0x01 ≠ 0
      ↔ ((frames ++ [c]).flatMap FrameCall.payload).length = size) :
    EndsAt size (frames ++ [c]) := by
  intro pre c' post heq
  rcases List.eq_nil_or_concat post with rfl | ⟨post', last, rfl⟩
  · obtain ⟨rfl, hlast⟩ := List.append_inj' heq rfl
    cases List.singleton_inj.mp hlast
    exact ⟨hlen, hend⟩
  · have heq' : frames ++ [c] = (pre ++ c' :: post') ++ [last] := by
      rw [heq, List.append_assoc, List.concat_eq_append]
      rfl
    exact h pre c' post' (List.append_inj' heq' rfl).1

/-- What happens to other streams does not matter. -/
theorem FileInv.bystander (h : FileInv contents id r) (huntouched : Untouched id r.server r'.server)
    (htrace : r'.trace = r.trace ++ more)
    (hmore : ∀ x ∈ more, ¬ x.Answers id ∧ ¬ x.Closes id) : FileInv contents id r' := by
  obtain ⟨hcore, hrest⟩ := huntouched
  have hsilent : ∀ x ∈ more, ¬ x.Answers id := fun x hx => (hmore x hx).1
  have hframes := dataFrames_silent htrace hsilent
  obtain ⟨hunknown, hnoFcgi, hsending, hoffset, hpayload, hends, horderly⟩ := h
  have hclosed : ¬ Closed id r.trace → ¬ Closed id r'.trace := by
    intro hopen hclose
    rw [htrace, closed_append] at hclose
    rcases hclose with hclose | ⟨x, hx, hclose⟩
    · exact hopen hclose
    · exact (hmore x hx).2 hclose
  constructor
  · rw [hcore, htrace]
    intro hnone x hx
    rcases List.mem_append.mp hx with hx | hx
    · exact hunknown hnone x hx
    · exact hmore x hx
  · rw [hcore]
    exact hnoFcgi
  · rw [hcore, hrest]
    intro st hst hsend
    obtain ⟨hfd, hstate, hsize, hlt, hopen⟩ := hsending st hst hsend
    exact ⟨hfd, hstate, hsize, hlt, hclosed hopen⟩
  · rw [hcore, hrest]
    exact hoffset
  · rw [hcore, hrest, hframes]
    exact hpayload
  · rw [hframes]
    exact hends
  · rw [htrace]
    exact horderly.append (orderly_of_silent hsilent) (fun _ => hsilent)

theorem FileInv.elsewhere (h : FileInv contents id r) (hsized : Sized r.server) {f : Frame}
    {env : Environment}
    (hother : f.streamId = id → f.type ≠ 0x00 ∧ f.type ≠ 0x01 ∧ f.type ≠ 0x03) :
    FileInv contents id (r.step (.frame f env)) := by
  have huntouched : Untouched id r.server (r.step (.frame f env)).server := by
    rw [Run.step_frame]
    exact untouched_handleFrame hsized hother
  have htrace : (r.step (.frame f env)).trace
      = r.trace ++ .received f :: (handleFrame env r.server f).2.map .did := by
    rw [Run.step_frame]
  apply h.bystander huntouched htrace
  intro x hx
  rcases List.mem_cons.mp hx with rfl | hx
  · constructor
    · exact fun ha => ha
    · rintro ⟨hid, h3⟩
      exact (hother hid).2.2 h3
  · obtain ⟨e, he, rfl⟩ := List.mem_map.mp hx
    have hsilent := not_answers_handleFrame (fun hid => ⟨(hother hid).1, (hother hid).2.1⟩) e he
    exact ⟨hsilent, fun hclose => hsilent (answers_of_closes hclose)⟩

/-- RST_STREAM closes the file. -/
theorem FileInv.reset (h : FileInv contents id r) {f : Frame} (h3 : f.type = 0x03)
    (hid : f.streamId = id) (hknown : (lookupStream r.server id).isSome = true)
    (env : Environment) : FileInv contents id (r.step (.frame f env)) := by
  have hstep : handleFrame env r.server f = (handleRstStream r.server id, []) := by
    unfold handleFrame
    rw [if_neg (by rw [h3]; decide), if_neg (by rw [h3]; decide), if_pos h3, hid]
  have htrace : (r.step (.frame f env)).trace = r.trace ++ [.received f] := by
    rw [Run.step_frame, hstep]
    rfl
  -- the stream is reset, and nothing is sent for it
  have hcore : coreOf (r.step (.frame f env)).server id
      = (coreOf r.server id).map resetStream := by
    rw [Run.step_frame, hstep]
    show coreOf (handleRstStream r.server id) id = _
    unfold coreOf
    rw [lookup_handleRstStream, if_pos rfl, Option.map_map, Option.map_map]
    rfl
  have hrest : (r.step (.frame f env)).server.rest.streams id = r.server.rest.streams id := by
    rw [Run.step_frame, hstep]
    rfl
  have hsilent : ∀ x ∈ [Traced.received f], ¬ x.Answers id := by
    rw [List.forall_mem_singleton]
    exact fun h => h
  have hframes := dataFrames_silent htrace hsilent
  have hsome : (coreOf r.server id).isSome = true := by
    unfold coreOf
    rw [Option.isSome_map]
    exact hknown
  obtain ⟨-, hnoFcgi, -, hoffset, hpayload, hends, horderly⟩ := h
  constructor
  · rw [hcore, Option.map_eq_none_iff]
    intro hnone
    rw [hnone] at hsome
    cases hsome
  · rw [hcore]
    intro st hst
    obtain ⟨st', hst', rfl⟩ := Option.map_eq_some_iff.mp hst
    exact hnoFcgi st' hst'
  · rw [hcore]
    intro st hst hsend
    obtain ⟨st', -, rfl⟩ := Option.map_eq_some_iff.mp hst
    cases hsend
  · rw [hrest]
    exact fun _ => hoffset hsome
  · rw [hrest, hframes]
    exact fun _ => hpayload hsome
  · rw [hframes]
    exact hends
  · rw [htrace]
    exact horderly.append (orderly_of_silent hsilent) (fun _ => hsilent)

/-- HEADERS open the stream. -/
theorem FileInv.start {files : Nat → List UInt8} {env : Environment} {f : Frame}
    (h : FileInv (files f.streamId) f.streamId r) (hsized : Sized r.server) (h1 : f.type = 0x01)
    (hstart : StartsFile files env r.server f) :
    FileInv (files f.streamId) f.streamId (r.step (.frame f env)) := by
  obtain ⟨st, hlook, hnoFcgi, hoffset, hsending, hempty⟩ := startsFile_spec hsized h1 hstart
  have hnone : coreOf r.server f.streamId = none := by
    rw [coreOf, hstart.stream]
    rfl
  have hbefore := h.unknown hnone
  have hopen : ¬ Closed f.streamId r.trace := by
    rintro ⟨x, hx, hclose⟩
    exact (hbefore x hx).2 hclose
  have hnoFrames : r.dataFrames f.streamId = [] := by
    unfold Run.dataFrames
    rw [List.filterMap_eq_nil_iff]
    intro x hx
    by_contra hsome
    obtain ⟨c, hc⟩ := Option.ne_none_iff_exists'.mp hsome
    exact (hbefore x hx).1 (dataFrame_answers hc)
  have hserver : (r.step (.frame f env)).server = (handleFrame env r.server f).1 := by
    rw [Run.step_frame]
  have hcore : coreOf (r.step (.frame f env)).server f.streamId
      = some { st with outWindowSize := 0 } := by
    rw [coreOf, hserver, hlook]
    rfl
  have hrest : ((r.step (.frame f env)).server.rest.streams f.streamId).fileOffset = 0 := by
    rw [hserver, hoffset]
  have htrace : (r.step (.frame f env)).trace
      = r.trace ++ .received f :: (handleFrame env r.server f).2.map .did := by
    rw [Run.step_frame]
  have hframes : (r.step (.frame f env)).dataFrames f.streamId
      = ((handleFrame env r.server f).2.map Traced.did).filterMap
        (Traced.dataFrame f.streamId) := by
    show (r.step (.frame f env)).trace.filterMap _ = _
    rw [htrace, List.filterMap_append, show r.trace.filterMap _ = [] from hnoFrames]
    rfl
  have hreceived : ¬ (Traced.received f).Closes f.streamId := by
    rintro ⟨-, h3⟩
    rw [h1] at h3
    exact absurd h3 (by decide)
  have hheader : ∀ block, ¬ (Traced.did (.sent ⟨0x01, 0x04, f.streamId, block⟩)).Closes
      f.streamId := by
    intro block hclose
    exact hclose.2.2 (show (0x04 : UInt8) &&& 0x01 = 0 by decide)
  by_cases hsize : (files f.streamId).length = 0
  · -- an empty file is answered at once
    obtain ⟨hnoFile, body, len, block, hevents⟩ := hempty hsize
    have hdata : (r.step (.frame f env)).dataFrames f.streamId
        = [] ++ [⟨0x00, 0x01, f.streamId, []⟩] := by
      rw [hframes, hevents]
      show List.filterMap (Traced.dataFrame f.streamId)
        [.did (.router f.streamId body len), .did (.sent ⟨0x01, 0x04, f.streamId, block⟩),
          .did (.sent ⟨0x00, 0x01, f.streamId, []⟩)] = _
      rw [List.filterMap_cons_none rfl, List.filterMap_cons_none dataFrame_header,
        List.filterMap_cons_some (dataFrame_data _ _), List.filterMap_nil, List.nil_append]
    constructor
    · rw [hcore]
      intro h
      cases h
    · rw [hcore]
      rintro st' ⟨⟩
      exact hnoFcgi
    · rw [hcore]
      rintro st' ⟨⟩ hsend
      exact absurd hsend (by rw [hnoFile]; decide)
    · rw [hrest]
      exact fun _ => Nat.zero_le _
    · rw [hrest, hdata]
      exact fun _ => List.take_zero.symm
    · rw [hdata]
      apply (endsAt_nil _).snoc (Nat.zero_le _)
      constructor
      · exact fun _ => hsize.symm
      · exact fun _ => (show (0x01 : UInt8) &&& 0x01 ≠ 0 by decide)
    · rw [htrace, hevents]
      apply h.orderly.append
      · apply orderly_cons hreceived
        apply orderly_cons
          (show ¬ (Traced.did (.router f.streamId body len)).Closes f.streamId from id)
        apply orderly_cons (hheader block)
        exact List.pairwise_singleton _ _
      · exact fun hclose => absurd hclose hopen
  · obtain ⟨hfile, hfd, hstate, hfileSize, body, len, block, hevents⟩ := hsending hsize
    have hdata : (r.step (.frame f env)).dataFrames f.streamId = [] := by
      rw [hframes, hevents]
      show List.filterMap (Traced.dataFrame f.streamId)
        [.did (.router f.streamId body len), .did (.sent ⟨0x01, 0x04, f.streamId, block⟩)] = _
      rw [List.filterMap_cons_none rfl, List.filterMap_cons_none dataFrame_header,
        List.filterMap_nil]
    have hquiet : ¬ Closed f.streamId (r.step (.frame f env)).trace := by
      rw [htrace, hevents, closed_append]
      rintro (hclose | ⟨x, hx, hclose⟩)
      · exact hopen hclose
      · rcases List.mem_cons.mp hx with rfl | hx
        · exact hreceived hclose
        rcases List.mem_cons.mp hx with rfl | hx
        · exact hclose
        · cases List.mem_singleton.mp hx
          exact hheader block hclose
    constructor
    · rw [hcore]
      intro h
      cases h
    · rw [hcore]
      rintro st' ⟨⟩
      exact hnoFcgi
    · rw [hcore, hrest]
      rintro st' ⟨⟩ -
      refine ⟨hfd, hstate, ?_, Nat.pos_of_ne_zero hsize, hquiet⟩
      rw [hserver]
      exact hfileSize
    · rw [hrest]
      exact fun _ => Nat.zero_le _
    · rw [hrest, hdata]
      exact fun _ => List.take_zero.symm
    · rw [hdata]
      exact endsAt_nil _
    · exact orderly_of_not_closed hquiet

/-! ## The pump -/

/-- `pread` returns a part of the file from the offset on, and not nothing. -/
def ReadsFile (files : Nat → List UInt8) (env : Environment) (r : Run)
    (target : Nat × Activity) : Prop :=
  target.2 = .file →
    (r.server.rest.streams target.1).fileOffset < (files target.1).length →
    env.pread target.1 ≠ [] ∧
    env.pread target.1 <+: (files target.1).drop (r.server.rest.streams target.1).fileOffset

/-- The sessions the pump of files is for: HEADERS only ask for files, each on a stream of its own,
there is no DATA, RST_STREAM is for a stream that is known, and the files can be read. -/
def Run.Serves (files : Nat → List UInt8) (r : Run) : Run.Input → Prop
  | .frame f env => f.type ≠ 0x00 ∧ (f.type = 0x01 → StartsFile files env r.server f) ∧
      (f.type = 0x03 → (lookupStream r.server f.streamId).isSome = true)
  | .flush env => GuardedRun (ReadsFile files env) (Run.visit env) r (activeStreams r.server)

theorem core_advance (s : Server) (n : Nat) : coreOf (advance s id n) id = coreOf s id := by
  rw [coreOf, lookup_advance, if_pos rfl, Option.map_map]
  rfl

theorem rest_advance (s : Server) (n : Nat) :
    (advance s id n).rest.streams id
      = { s.rest.streams id with fileOffset := (s.rest.streams id).fileOffset + n } := by
  unfold advance
  rw [setRest_streams_self, setStream_rest]

theorem core_closeFile (s : Server) :
    coreOf (closeFile s id) id
      = (coreOf s id).map (fun st => { st with
          fileFd := -1
          isSendingFile := false
          state := .closed }) := by
  have hkeep : ∀ st : HTTP2Stream, ({ st with
      fileFd := -1
      isSendingFile := false
      state := .closed } : HTTP2Stream).streamId = st.streamId := fun _ => rfl
  unfold coreOf closeFile
  rw [lookup_setStream hkeep, if_pos rfl, Option.map_map, Option.map_map]
  rfl

/-- The next piece continues what has been sent of the file. -/
theorem FileInv.continue (h : FileInv contents id r) {offset : Nat} {flags : UInt8}
    {data : List UInt8}
    (hpayload : (r.dataFrames id).flatMap FrameCall.payload = contents.take offset)
    (hle : offset ≤ contents.length) (hopen : ¬ Closed id r.trace)
    (htrace : r'.trace = r.trace ++ [.did (.sent ⟨0x00, flags, id, data⟩)])
    (hpart : data <+: contents.drop offset) (hshort : data.length ≤ 16384)
    (hend : flags &&& 0x01 ≠ 0 ↔ offset + data.length = contents.length) :
    (r'.dataFrames id).flatMap FrameCall.payload = contents.take (offset + data.length)
      ∧ EndsAt contents.length (r'.dataFrames id) ∧ Orderly id r'.trace := by
  have hframes : r'.dataFrames id = r.dataFrames id ++ [⟨0x00, flags, id, data⟩] := by
    unfold Run.dataFrames
    rw [htrace, List.filterMap_append, List.filterMap_cons_some (dataFrame_data flags data)]
    rfl
  have hconcat : (r.dataFrames id ++ [(⟨0x00, flags, id, data⟩ : FrameCall)]).flatMap
        FrameCall.payload
      = contents.take (offset + data.length) := by
    rw [List.flatMap_append, hpayload, List.take_add, ← List.prefix_iff_eq_take.mp hpart]
    exact congrArg _ (List.append_nil data)
  have hroom := hpart.length_le
  rw [List.length_drop] at hroom
  rw [hframes]
  refine ⟨hconcat, ?_, ?_⟩
  · apply h.endsAt.snoc hshort
    rw [hconcat, List.length_take]
    show flags &&& 0x01 ≠ 0 ↔ _
    rw [hend]
    omega
  · rw [htrace]
    apply h.orderly.append (List.pairwise_singleton _ _)
    exact fun hclosed => absurd hclosed hopen

/-- A visit that reads finds a file in the middle. -/
theorem FileInv.of_piece (h : FileInv contents id r) {env : Environment} {st : HTTP2Stream}
    {data : List UInt8} (hpiece : FilePiece env r.server id st data) :
    coreOf r.server id = some { st with outWindowSize := 0 } ∧ 0 ≤ st.fileFd ∧ st.state ≠ .closed
      ∧ (r.server.rest.streams id).fileSize = contents.length ∧ ¬ Closed id r.trace := by
  have hcore : coreOf r.server id = some { st with outWindowSize := 0 } := by
    rw [coreOf, hpiece.lookup]
    rfl
  obtain ⟨hsending, hfd, hstate⟩ : st.isSendingFile = true ∧ 0 ≤ st.fileFd ∧ st.state ≠ .closed := by
    simpa [HTTP2Stream.hasFile, and_assoc] using hpiece.hasFile
  obtain ⟨-, -, hsize, -, hopen⟩ := h.sending _ hcore hsending
  exact ⟨hcore, hfd, hstate, hsize, hopen⟩

/-- **A piece of the file** is sent. -/
theorem FileInv.send (h : FileInv contents id r) {env : Environment} {st : HTTP2Stream}
    {data : List UInt8} (hpiece : FilePiece env r.server id st data)
    (hpart : data <+: contents.drop (r.server.rest.streams id).fileOffset)
    (heq : flushFileStream env r.server id
      = (if (r.server.rest.streams id).fileSize
            ≤ (r.server.rest.streams id).fileOffset + data.length then
          closeFile (advance r.server id data.length) id else advance r.server id data.length,
        [.sent ⟨0x00,
          if (r.server.rest.streams id).fileSize
              ≤ (r.server.rest.streams id).fileOffset + data.length then
            0x01 else 0x00, id, data⟩])) :
    FileInv contents id (r.visit env (id, .file)) := by
  obtain ⟨hcore, hfd, hopenState, hsize, hopen⟩ := h.of_piece hpiece
  have hnoFcgi := h.noFcgi _ hcore
  have hsome : (coreOf r.server id).isSome = true := by
    rw [hcore]
    rfl
  have hpayload := h.payload hsome
  obtain ⟨hshort, -, -, hroom⟩ := hpiece.length_le
  have hunread := hpiece.unread
  have hvisit : r.visit env (id, .file) = r.extend (flushFileStream env r.server id) := rfl
  rw [hsize] at heq hroom hunread
  generalize hoffset : (r.server.rest.streams id).fileOffset = offset at *
  have hrest : (advance r.server id data.length).rest.streams id
      = { r.server.rest.streams id with fileOffset := offset + data.length } := by
    rw [rest_advance, hoffset]
  rw [hvisit, heq]
  by_cases hlast : contents.length ≤ offset + data.length
  -- the last piece ends the stream and closes the file
  · rw [if_pos hlast, if_pos hlast]
    have htrace : (r.extend (closeFile (advance r.server id data.length) id,
        [.sent ⟨0x00, 0x01, id, data⟩])).trace
        = r.trace ++ [.did (.sent ⟨0x00, 0x01, id, data⟩)] := rfl
    obtain ⟨hmore, hends, horderly⟩ := h.continue hpayload hunread.le hopen htrace hpart
      hshort ⟨fun _ => by omega, fun _ => (show (0x01 : UInt8) &&& 0x01 ≠ 0 by decide)⟩
    have hcore' : coreOf (closeFile (advance r.server id data.length) id) id
        = some { st with
            outWindowSize := 0
            fileFd := -1
            isSendingFile := false
            state := .closed } := by
      rw [core_closeFile, core_advance, hcore]
      rfl
    have hrest' : ((closeFile (advance r.server id data.length) id).rest.streams id).fileOffset
        = offset + data.length := by
      unfold closeFile
      rw [setStream_rest, hrest]
    refine ⟨?_, ?_, ?_, ?_, ?_, hends, horderly⟩
    · intro hnone
      exact absurd (hcore'.symm.trans hnone) (by simp)
    · intro st' hst'
      cases hcore'.symm.trans hst'
      exact hnoFcgi
    · intro st' hst' hsend
      cases hcore'.symm.trans hst'
      cases hsend
    · intro _
      exact hrest'.le.trans (by omega)
    · intro _
      exact hmore.trans (congrArg contents.take hrest'.symm)
  -- another piece is left, and the stream stays open
  · rw [if_neg hlast, if_neg hlast]
    have htrace : (r.extend (advance r.server id data.length,
        [.sent ⟨0x00, 0x00, id, data⟩])).trace
        = r.trace ++ [.did (.sent ⟨0x00, 0x00, id, data⟩)] := rfl
    obtain ⟨hmore, hends, horderly⟩ := h.continue hpayload hunread.le hopen htrace hpart
      hshort ⟨fun hend => absurd (show (0x00 : UInt8) &&& 0x01 = 0 by decide) hend,
        fun _ => by omega⟩
    have hcore' : coreOf (advance r.server id data.length) id
        = some { st with outWindowSize := 0 } := by
      rw [core_advance, hcore]
    refine ⟨?_, ?_, ?_, ?_, ?_, hends, horderly⟩
    · intro hnone
      exact absurd (hcore'.symm.trans hnone) (by simp)
    · intro st' hst'
      cases hcore'.symm.trans hst'
      exact hnoFcgi
    · intro st' hst' _
      cases hcore'.symm.trans hst'
      refine ⟨hfd, hopenState, ?_, ?_, ?_⟩
      · show ((advance r.server id data.length).rest.streams id).fileSize = _
        rw [hrest]
        exact hsize
      · show ((advance r.server id data.length).rest.streams id).fileOffset < _
        rw [hrest]
        exact Nat.not_le.mp hlast
      · show ¬ Closed id (r.trace ++ [.did (.sent ⟨0x00, 0x00, id, data⟩)])
        rw [closed_append]
        rintro (hclosed | ⟨x, hx, hclosed⟩)
        · exact hopen hclosed
        · cases List.mem_singleton.mp hx
          exact hclosed.2.2 (show (0x00 : UInt8) &&& 0x01 = 0 by decide)
    · intro _
      show ((advance r.server id data.length).rest.streams id).fileOffset ≤ _
      rw [hrest]
      show offset + data.length ≤ _
      omega
    · intro _
      refine hmore.trans (congrArg contents.take ?_)
      show _ = ((advance r.server id data.length).rest.streams id).fileOffset
      rw [hrest]

section Pump

variable {files : Nat → List UInt8} {env : Environment}

/-- **A visit** to this stream or to another. -/
theorem FileInv.visit (h : FileInv (files id) id r) {target : Nat × Activity}
    (hreads : ReadsFile files env r target) :
    FileInv (files id) id (r.visit env target) := by
  obtain ⟨k, a⟩ := target
  have hnil : ∀ x ∈ ([] : List Traced), ¬ x.Answers id ∧ ¬ x.Closes id := by
    intro x hx
    cases hx
  by_cases hk : id = k
  · subst hk
    cases a with
    | fcgi =>
        -- the stream has no backend, so there is nothing to pass on
        have hidle : ∀ st, lookupStream r.server id = some st → st.isFcgiActive = false := by
          intro st hlook
          apply h.noFcgi { st with outWindowSize := 0 }
          rw [coreOf, hlook]
          rfl
        obtain ⟨huntouched, hevents⟩ : Untouched id r.server (flushFcgiStream env r.server id).1
            ∧ (flushFcgiStream env r.server id).2 = [] := flushFcgiStream_inactive hidle
        apply h.bystander huntouched _ hnil
        show r.trace ++ (flushFcgiStream env r.server id).2.map .did = _
        rw [hevents]
        rfl
    | file =>
        rcases flushFileStream_cases env r.server id with
          hnop | ⟨st, data, hpiece, ⟨hdata, -⟩ | ⟨-, hsend⟩⟩
        · have hvisit : r.visit env (id, .file) = r.extend (r.server, []) :=
            congrArg r.extend hnop
          rw [hvisit]
          exact h.bystander Untouched.refl rfl hnil
        all_goals
          -- the pump is in the middle of the file, so the read brings some of it
          have hunread := hpiece.unread
          rw [(h.of_piece hpiece).2.2.2.1] at hunread
          obtain ⟨hread, hpart⟩ := hreads rfl hunread
        · exact absurd hdata (hpiece.ne_nil hread)
        · apply h.send hpiece _ hsend
          rw [hpiece.read]
          exact (List.take_prefix _ _).trans hpart
  · apply h.bystander (untouched_flushStream a hk) rfl
    intro x hx
    obtain ⟨e, he, rfl⟩ := List.mem_map.mp hx
    exact not_answers_of_answer (answer_flushStream a e he) hk

/-- **A frame** that opens this stream, resets it, or is about something else. -/
theorem FileInv.frame (h : FileInv (files id) id r) (hsized : Sized r.server) {f : Frame}
    (hserves : r.Serves files (.frame f env)) :
    FileInv (files id) id (r.step (.frame f env)) := by
  obtain ⟨h0, hheaders, hreset⟩ := hserves
  by_cases hid : f.streamId = id
  · subst hid
    by_cases h1 : f.type = 0x01
    · exact h.start hsized h1 (hheaders h1)
    by_cases h3 : f.type = 0x03
    · exact h.reset h3 rfl (hreset h3) env
    · exact h.elsewhere hsized (fun _ => ⟨h0, h1, h3⟩)
  · exact h.elsewhere hsized (fun h => absurd h hid)

end Pump

end Invariant

/-! ## The windows -/

/-- No window that holds credit is overdrawn. -/
structure KeepsCredit (l l' : Ledger Int32) : Prop where
  session : 0 ≤ l.session → 0 ≤ l'.session
  streams : ∀ id, (∀ w, l.streams id = some w → 0 ≤ w) → ∀ w, l'.streams id = some w → 0 ≤ w

section Windows

variable {env : Environment} {s : Server} {id : Nat}

theorem KeepsCredit.refl (l : Ledger Int32) : KeepsCredit l l := ⟨fun h => h, fun _ h => h⟩

theorem KeepsCredit.trans {l l' l'' : Ledger Int32} (h : KeepsCredit l l')
    (h' : KeepsCredit l' l'') : KeepsCredit l l'' :=
  ⟨fun hs => h'.session (h.session hs), fun id hs => h'.streams id (h.streams id hs)⟩

/-- A piece fits the window it is taken from. -/
theorem window_debit {w : Int32} {n : Nat} (hn : n ≤ 16384) (hle : (n : Int) ≤ w.toInt) :
    0 ≤ w - Int32.ofInt n := by
  have htoInt : (Int32.ofInt n).toInt = n := Int32.toInt_ofInt_of_le (by omega) (by omega)
  apply Int32.sub_nonneg_of_le
  · rw [Int32.le_iff_toInt_le, htoInt, Int32.toInt_zero]
    omega
  · rw [Int32.le_iff_toInt_le, htoInt]
    exact hle

theorem FilePiece.keepsCredit {st : HTTP2Stream} {data : List UInt8}
    (h : FilePiece env s id st data) :
    KeepsCredit (windows s) (windows (advance s id data.length)) := by
  obtain ⟨hshort, hsession, hstream, -⟩ := h.length_le
  rw [windows_advance]
  constructor
  · intro _
    exact window_debit hshort hsession
  · intro k hk w hw
    simp only [Ledger.apply] at hw
    split at hw
    · next heq =>
        have hlook : (windows s).streams id = some st.outWindowSize := by
          show (lookupStream s id).map _ = _
          rw [h.lookup]
          rfl
        rw [heq, hlook] at hw
        cases hw
        exact window_debit hshort hstream
    · exact hk w hw

theorem keepsCredit_flushStream (a : Activity) :
    KeepsCredit (windows s) (windows (flushStream env s id a).1) := by
  cases a with
  | fcgi =>
      have hinside : Inside id s (flushFcgiStream env s id).1 := inside_flushFcgiStream
      show KeepsCredit _ (windows (flushFcgiStream env s id).1)
      rw [hinside.windows]
      exact KeepsCredit.refl _
  | file =>
      have hclose : ∀ s, windows (closeFile s id) = windows s := by
        intro s
        have hinside : Inside id s (closeFile s id) := inside_closeFile
        exact hinside.windows
      show KeepsCredit _ (windows (flushFileStream env s id).1)
      rcases flushFileStream_cases env s id with
        hnop | ⟨st, data, hpiece, ⟨-, heq⟩ | ⟨-, hsend⟩⟩
      · rw [hnop]
        exact KeepsCredit.refl _
      · rw [heq, hclose]
        exact KeepsCredit.refl _
      · rw [hsend]
        dsimp only
        split
        · rw [hclose]
          exact hpiece.keepsCredit
        · exact hpiece.keepsCredit

/-- A pass of the pump overdraws no window. -/
theorem keepsCredit_flush (r : Run) (env : Environment) :
    KeepsCredit (windows r.server) (windows (r.step (.flush env)).server) := by
  apply Run.flush_induction (P := fun r' => KeepsCredit (windows r.server) (windows r'.server))
    (KeepsCredit.refl _)
  intro target _ r' h
  exact h.trans (keepsCredit_flushStream target.2)

end Windows

/-! ## Runs -/

theorem fileInv_fresh (contents : List UInt8) (id : Nat) (streams : Nat → StreamRest) :
    FileInv contents id (Run.fresh streams) := by
  have hcore : coreOf (Run.fresh streams).server id = none := by
    rw [coreOf, show lookupStream (Run.fresh streams).server id = none from lookup_fresh _ id]
    rfl
  constructor
  · intro _ x hx
    cases hx
  · intro st hst
    cases hcore.symm.trans hst
  · intro st hst
    cases hcore.symm.trans hst
  · intro hsome
    rw [hcore] at hsome
    cases hsome
  · intro hsome
    rw [hcore] at hsome
    cases hsome
  · exact endsAt_nil _
  · exact orderly_nil

/-- Every stream of a session that serves files. -/
def FilesInv (files : Nat → List UInt8) (r : Run) : Prop :=
  Sized r.server ∧ ∀ id, FileInv (files id) id r

theorem filesInv_step {files : Nat → List UInt8} (r : Run) (i : Run.Input)
    (h : FilesInv files r) (hserves : r.Serves files i) : FilesInv files (r.step i) := by
  obtain ⟨hsized, hinv⟩ := h
  refine ⟨sized_step hsized i, ?_⟩
  intro id
  cases i with
  | frame f env => exact (hinv id).frame hsized hserves
  | flush env =>
      -- the invariant goes from visit to visit
      have hvisits : GuardedRun (ReadsFile files env) (Run.visit env) r
        (activeStreams r.server) := hserves
      exact hvisits.invariant (fun r target h hreads => h.visit hreads) (hinv id)

/-- **The pump of files**: whatever frames arrive between its passes, the DATA of a stream is the
file up to `file_offset`, in frames of at most 16384 bytes, END_STREAM is on exactly the frame that
reaches the end, nothing follows it or RST_STREAM, and no pass overdraws a window. -/
theorem filePump_serves (files : Nat → List UInt8) (streams : Nat → StreamRest)
    (is : List Run.Input)
    (h : GuardedRun (Run.Serves files) Run.step (Run.fresh streams) is) :
    let r := runSteps Run.step (Run.fresh streams) is
    (∀ id, (lookupStream r.server id).isSome = true →
      (r.server.rest.streams id).fileOffset ≤ (files id).length ∧
      (r.dataFrames id).flatMap FrameCall.payload
        = (files id).take (r.server.rest.streams id).fileOffset) ∧
    (∀ id, EndsAt (files id).length (r.dataFrames id) ∧ Orderly id r.trace) ∧
    ∀ env, KeepsCredit (windows r.server) (windows (r.step (.flush env)).server) := by
  intro r
  have hfresh : FilesInv files (Run.fresh streams) :=
    ⟨sized_fresh _, fun id => fileInv_fresh (files id) id streams⟩
  have hinv : FilesInv files r := h.invariant filesInv_step hfresh
  refine ⟨?_, ?_, keepsCredit_flush r⟩
  · intro id hknown
    have hsome : (coreOf r.server id).isSome = true := by
      rw [coreOf, Option.isSome_map]
      exact hknown
    exact ⟨(hinv.2 id).offset_le hsome, (hinv.2 id).payload hsome⟩
  · intro id
    exact ⟨(hinv.2 id).endsAt, (hinv.2 id).orderly⟩

/-- The file of five bytes, opened and sent. -/
theorem filePump_serves_file :
    Orderly 1 (runSteps Run.step (Run.fresh (fun _ => .new .plain))
      [.frame getHeaders fileEnvironment, .flush fileEnvironment]).trace := by
  refine ((filePump_serves (fun _ => [1, 2, 3, 4, 5]) (fun _ => .new .plain)
    [.frame getHeaders fileEnvironment, .flush fileEnvironment] ⟨⟨?_, ?_, ?_⟩, ?_, trivial⟩).2.1 1).2
  · exact show (0x01 : UInt8) ≠ 0x00 by decide
  · intro _
    exact ⟨lookup_fresh _ 1, ⟨by decide, Or.inr rfl, ⟨by decide, by decide, by decide, by decide, rfl⟩,
      rfl⟩, by decide, show (0x05 : UInt8) &&& 0x01 ≠ 0 by decide, 3, rfl⟩
  · intro h3
    cases h3
  · show GuardedRun (ReadsFile _ fileEnvironment) _ _ [(1, Activity.file)]
    refine ⟨?_, trivial⟩
    intro _ _
    exact ⟨List.cons_ne_nil _ _, List.prefix_rfl⟩

end Halmos.Http2
