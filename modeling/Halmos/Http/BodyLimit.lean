import Halmos.Http1.Pipelining
import Halmos.Http2.Bodies
import Halmos.Http2.BodyRange
import Halmos.Http2.Input

set_option autoImplicit false

/-! # The limit for bodies

`max_body_size` of the configuration is looked at in one place, `read_frame_header`, and for one
frame at a time. `http1_manager_session` doubles its buffer until the whole declared body is in it,
and `append_stream_body` takes what a stream sends. What is buffered of a body stays below the
limit exactly if the client declares, or sends, no more (`body_within_iff`).
-/

namespace Halmos.Http1

/-- The bytes of the request's body in the buffer. -/
def bodyBuffered (s : HTTP1Session) : Nat :=
  min (s.buffer.length - headLen s.req) s.req.contentLength.toNat

/-- A session that waits for a header block: it has begun with an empty buffer, and each call has
read something. -/
inductive ReadingHeaders (server : Server) : HTTP1Session → Prop where
  | ready (s : HTTP1Session) (h : 0 < s.bufCapacity) : ReadingHeaders server s.reset
  | call {s s' : HTTP1Session} {script script' : List RecvResult} {e : ReadEnd}
      (hs : ReadingHeaders server s)
      (h : readHeaders server.moved script s = some (e, s', script')) : ReadingHeaders server s'

/-- The sessions that the calls of `http1_manager_session` reach while the body is read. -/
inductive BodyCalls (server : Server) (s : HTTP1Session) : HTTP1Session → Prop where
  | start : BodyCalls server s s
  | call {t t' : HTTP1Session} {script script' : List RecvResult} {e : ReadEnd}
      (ht : BodyCalls server s t) (hstate : t.state = .readBody)
      (h : readRequest server t script = some (e, t', script')) : BodyCalls server s t'

section Reading

variable {server : Server} {s s' t : HTTP1Session} {script script' : List RecvResult}
  {moved : Nat → Int} {e : ReadEnd} {headerLen : Nat}

/-- There is room for the NUL behind the bytes. -/
def Roomy (s : HTTP1Session) : Prop := s.buffer.length < s.bufCapacity

theorem Roomy.grow (moved : Nat → Int) (h : Roomy s) :
    s.buffer.length + 2 ≤ (s.grow moved).bufCapacity := by
  unfold Roomy at h
  unfold HTTP1Session.grow
  split
  · dsimp only
    omega
  · omega

theorem recvData_roomy {bs : List UInt8} (h : s.recvData bs = some s') : Roomy s' := by
  unfold HTTP1Session.recvData at h
  split at h
  · cases h
  · next hroom =>
      obtain rfl := Option.some.inj h
      rw [not_or, not_lt] at hroom
      have hpos := List.length_pos_iff.mpr hroom.1
      show (s.buffer ++ bs).length < s.bufCapacity
      rw [List.length_append]
      omega

theorem readHeaders_roomy (h : readHeaders moved script s = some (e, s', script'))
    (hroom : Roomy s) : Roomy s' := by
  refine readHeaders_induction (P := fun _ s => Roomy s → Roomy s') ?_ ?_ ?_ h hroom
  · intro bs s hread _ _ _
    exact recvData_roomy hread
  · intro bs rest s t hread _ ih _
    exact ih (recvData_roomy hread)
  · rintro script s - rfl hs
    have hgrow := hs.grow moved
    unfold Roomy
    rw [grow_buffer]
    omega

theorem ReadingHeaders.roomy (h : ReadingHeaders server s) : Roomy s := by
  induction h with
  | ready s h => exact h
  | call _ h ih => exact readHeaders_roomy h ih

theorem contentLength_grow (moved : Nat → Int) (s : HTTP1Session) :
    (s.grow moved).req.contentLength = s.req.contentLength :=
  grow_req (P := fun req => req.contentLength = s.req.contentLength) rfl fun _ => rfl

theorem readBody_contentLength (h : readBody moved headerLen script s = some (e, s', script')) :
    s'.req.contentLength = s.req.contentLength := by
  refine readBody_induction (P := fun _ s => s'.req.contentLength = s.req.contentLength) ?_ ?_ ?_ h
  · rintro s - - rfl
    rfl
  · rintro bs rest s t - hread ih
    obtain ⟨-, rfl⟩ := recvData_eq_some hread
    exact ih.trans (contentLength_grow moved _)
  · rintro script s - - rfl
    exact contentLength_grow moved _

/-- **No check on the way**: a client that goes on sending is read to the end of its body. -/
theorem readBody_completes (moved : Nat → Int) (hroom : Roomy s)
    (hhead : headerLen ≤ s.buffer.length) :
    ∃ script s', readBody moved headerLen script s = some (.complete, s', [])
      ∧ s'.req.contentLength ≤ (s'.buffer.length - headerLen : Nat) := by
  induction hmissing : s.req.contentLength.toNat - (s.buffer.length - headerLen)
    generalizing s with
  | zero =>
      refine ⟨[], { s.measured headerLen with state := .handleRequest }, ?_, ?_⟩
      · rw [readBody.eq_def]
        exact if_pos (show s.req.contentLength ≤ (s.buffer.length - headerLen : Nat) by omega)
      · show s.req.contentLength ≤ (s.buffer.length - headerLen : Nat)
        omega
  | succ missing ih =>
      have hgrow : (s.measured headerLen).buffer.length + 2
          ≤ ((s.measured headerLen).grow moved).bufCapacity := Roomy.grow moved hroom
      have hread : ((s.measured headerLen).grow moved).recvData [0]
          = some { (s.measured headerLen).grow moved with
              buffer := ((s.measured headerLen).grow moved).buffer ++ [0] } := by
        unfold HTTP1Session.recvData
        rw [if_neg]
        rintro (hnil | hfull)
        · cases hnil
        · rw [grow_buffer, List.length_singleton] at hfull
          omega
      have hbuffer : ((s.measured headerLen).grow moved).buffer = s.buffer := grow_buffer moved _
      have hlength : ((s.measured headerLen).grow moved).req.contentLength = s.req.contentLength :=
        contentLength_grow moved _
      obtain ⟨script, s', hrest, hdone⟩ := ih (recvData_roomy hread)
        (by simp only [hbuffer, List.length_append]; omega)
        (by simp only [hbuffer, hlength, List.length_append, List.length_singleton]; omega)
      refine ⟨.data [0] :: script, s', ?_, hdone⟩
      rw [readBody.eq_def]
      dsimp only
      rw [if_neg (show ¬ s.req.contentLength ≤ (s.buffer.length - headerLen : Nat) by omega)]
      exact Option.bind_eq_some_iff.mpr ⟨_, hread, hrest⟩

/-- What the calls leave alone while the body is read. -/
theorem BodyCalls.kept (h : BodyCalls server s t) :
    t.req.contentLength = s.req.contentLength := by
  induction h with
  | start => rfl
  | call _ hstate h ih =>
      obtain ⟨headerLen, -, hbody⟩ := readRequest_body hstate h
      exact (readBody_contentLength hbody).trans ih

/-- **HTTP/1**: the body of a request stays below the limit in every state that is reached exactly
if its declared length is below the limit. -/
theorem bodyBuffered_le_iff {req : RequestHeader} {buffer : List UInt8} (max : Nat)
    (hs : ReadingHeaders server s)
    (hparse : http1ParserParseHeader server.config s.buffer s.req = some (true, req, buffer)) :
    (∀ t, BodyCalls server (s.parsed req buffer) t → bodyBuffered t ≤ max)
      ↔ req.contentLength ≤ max := by
  constructor
  · intro h
    by_contra hlong
    obtain ⟨head, rest, hsplit⟩ := http1ParserParseHeader_valid hparse
    obtain ⟨hhead, hle, hlen⟩ := http1ParserParseHeader_bytes hsplit hparse
    have hdata : req.bodyData = some (.buffer head.length) := by
      obtain ⟨parsed, block, parts, -, -, -, rfl, -⟩ := http1ParserParseHeader_eq_some hsplit hparse
      rfl
    have hstate : (s.parsed req buffer).state = .readBody :=
      if_pos (show 0 < req.contentLength by omega)
    have hroom : Roomy (s.parsed req buffer) := by
      have hroom := hs.roomy
      unfold Roomy at hroom ⊢
      show buffer.length < s.bufCapacity
      omega
    obtain ⟨script, t, hbody, hdone⟩ := readBody_completes server.moved hroom
      (show head.length ≤ buffer.length by omega)
    have hkept := readBody_bytes hbody
    have hlength : t.req.contentLength = req.contentLength := readBody_contentLength hbody
    have hcall : readRequest server (s.parsed req buffer) script = some (.complete, t, []) := by
      unfold readRequest
      simp only [hstate, reduceCtorEq, Bool.true_eq_false, if_false, if_true, Option.bind_eq_bind,
        Option.bind_some]
      rw [show (s.parsed req buffer).req.bodyData = some (.buffer head.length) from hdata]
      exact hbody
    have hmax := h t (.call .start hstate hcall)
    have hheadT : headLen t.req = head.length := hkept.head.trans hhead
    unfold bodyBuffered at hmax
    rw [hheadT] at hmax
    omega
  · intro h t ht
    have hlength : t.req.contentLength = req.contentLength := ht.kept
    unfold bodyBuffered
    omega

end Reading

end Halmos.Http1

namespace Halmos.Http2

/-- The bytes stored of the body of a stream. -/
def Run.bodyBuffered (r : Run) (id : Nat) : Nat :=
  if (lookupStream r.server id).isSome then (r.body id).length else 0

/-- A DATA frame that is stored leaves the body of its stream below the limit. -/
def Run.Input.RoomFor (max : Nat) (r : Run) : Run.Input → Prop
  | .frame f env => f.type = 0x00 → Stores env r.server f →
      r.bodyBuffered f.streamId + f.payload.length ≤ max
  | .flush _ => True

section Bodies

variable {r : Run} {env : Environment} {f : Frame} {id : Nat}

theorem bodyBuffered_congr {r' : Run}
    (hknown : (lookupStream r'.server id).isSome = (lookupStream r.server id).isSome)
    (hbody : (r'.server.rest.streams id).bodyData = (r.server.rest.streams id).bodyData) :
    r'.bodyBuffered id = r.bodyBuffered id := by
  unfold Run.bodyBuffered Run.body
  rw [hknown, hbody]

theorem bodyBuffered_offStream {i : Run.Input} (hsized : Sized r.server) (h : i.OffStream id) :
    (r.step i).bodyBuffered id = r.bodyBuffered id :=
  bodyBuffered_congr (calm_offStream hsized h).known (body_offStream hsized h)

/-- A DATA frame that is not stored. -/
theorem bodyBuffered_drops (h0 : f.type = 0x00) (h : ¬ Stores env r.server f) :
    (r.step (.frame f env)).bodyBuffered id = r.bodyBuffered id := by
  have hserver : (r.step (.frame f env)).server = r.server := by
    rw [Run.step_frame, handleFrame_data h0]
    exact (handleData_drops h).1
  unfold Run.bodyBuffered Run.body
  rw [hserver]

theorem bodyData_handleStreamEnd (env : Environment) (s : Server) (id : Nat) :
    ((handleStreamEnd env s id).1.rest.streams id).bodyData = (s.rest.streams id).bodyData := by
  have hreq := congrArg Prod.snd (handleStreamEnd_spec env s id).2.1
  have hmeasured : ((measured s id).rest.streams id).bodyData = (s.rest.streams id).bodyData := by
    rw [measured_streams]
  exact hreq.trans hmeasured

/-- A DATA frame that is stored. -/
theorem bodyBuffered_stores (h0 : f.type = 0x00) (h : Stores env r.server f) :
    (r.step (.frame f env)).bodyBuffered f.streamId
      = r.bodyBuffered f.streamId + f.payload.length := by
  have hknown : (lookupStream r.server f.streamId).isSome = true := (find_isSome_iff.mp h.2.1).2
  have hinside : Inside f.streamId r.server
      (http2ParserHandleData env r.server f.head f.payloadBuf).1 :=
    inside_handleData f.head f.payloadBuf
  have happend : ((appendStreamBody r.server f.streamId f.payload).rest.streams
      f.streamId).bodyData = some (r.body f.streamId ++ f.payload) := by
    unfold appendStreamBody
    rw [setRest_streams_self]
    rfl
  have hbody : ((http2ParserHandleData env r.server f.head f.payloadBuf).1.rest.streams
      f.streamId).bodyData = some (r.body f.streamId ++ f.payload) := by
    rw [handleData_stores h]
    split
    · exact (bodyData_handleStreamEnd env _ _).trans happend
    · exact happend
  unfold Run.bodyBuffered
  rw [Run.step_frame, handleFrame_data h0, if_pos hknown,
    if_pos ((isSome_of_windows hinside.windows f.streamId).trans hknown)]
  unfold Run.body at hbody ⊢
  rw [hbody, Option.getD_some, List.length_append]

theorem bodyData_headersOn (s : Server) (flags : UInt8) (payload : List UInt8) :
    ((headersOn env s id flags payload).1.rest.streams id).bodyData
      = (s.rest.streams id).bodyData := by
  have hparse : ∀ block, ((parseHeaderFull env s id block).2.rest.streams id).bodyData
      = (s.rest.streams id).bodyData := by
    intro block
    unfold parseHeaderFull
    split
    · rfl
    · dsimp only
      rw [setRest_streams_self]
  have hrouter : ∀ s : Server, ((http2RouterBridge env s id).1.rest.streams id).bodyData
      = (s.rest.streams id).bodyData := fun s =>
    congrArg Prod.snd (http2RouterBridge_spec env s id).2.1
  unfold headersOn
  dsimp only
  split_ifs
  · rw [hrouter, hparse]
  · rw [hrouter, setStream_rest, hparse]
  · exact hparse _
  · exact hparse _
  · exact hparse _

/-- HEADERS adds nothing to a body, and a new stream has none. -/
theorem bodyBuffered_headers (h1 : f.type = 0x01) :
    (r.step (.frame f env)).bodyBuffered f.streamId = r.bodyBuffered f.streamId := by
  unfold Run.bodyBuffered Run.body
  rw [Run.step_frame, handleFrame_headers h1]
  dsimp only
  rcases handleHeaders_cases env r.server f.head f.payloadBuf with ⟨-, h⟩ | ⟨-, s', hcreate, h⟩
  · rw [h]
  · have hinside : Inside f.streamId s' (headersOn env s' f.streamId f.flags
        (f.payloadBuf.getD [])).1 := inside_headersOn _ _
    rw [h]
    show (if (lookupStream (headersOn env s' f.streamId f.flags _).1 f.streamId).isSome = true then
      (((headersOn env s' f.streamId f.flags _).1.rest.streams f.streamId).bodyData.getD []).length
        else 0) = _
    rw [isSome_of_windows hinside.windows, bodyData_headersOn]
    have hcreate' : http2StreamGetOrCreate env r.server f.streamId = some s' := hcreate
    rcases getOrCreate_cases hcreate' with ⟨-, rfl⟩ | ⟨hnone, -, rfl⟩
    · rfl
    · rw [hnone, setRest_streams_self]
      split <;> rfl

/-- **What a step adds to a body**: the payload of a DATA frame that is stored. -/
theorem bodyBuffered_step (hsized : Sized r.server) (i : Run.Input) :
    (∀ id, (r.step i).bodyBuffered id = r.bodyBuffered id) ∨
      ∃ f env, i = .frame f env ∧ f.type = 0x00 ∧ Stores env r.server f
        ∧ (r.step i).bodyBuffered f.streamId = r.bodyBuffered f.streamId + f.payload.length
        ∧ ∀ id, id ≠ f.streamId → (r.step i).bodyBuffered id = r.bodyBuffered id := by
  cases i with
  | flush env => exact Or.inl fun id => bodyBuffered_offStream hsized trivial
  | frame f env =>
      have hother : ∀ id, id ≠ f.streamId →
          (r.step (.frame f env)).bodyBuffered id = r.bodyBuffered id := fun id hid =>
        bodyBuffered_offStream hsized fun heq => absurd heq.symm hid
      by_cases h0 : f.type = 0x00
      · by_cases hstores : Stores env r.server f
        · exact Or.inr ⟨f, env, rfl, h0, hstores, bodyBuffered_stores h0 hstores, hother⟩
        · exact Or.inl fun id => bodyBuffered_drops h0 hstores
      · refine Or.inl fun id => ?_
        by_cases hid : id = f.streamId
        · by_cases h1 : f.type = 0x01
          · rw [hid]
            exact bodyBuffered_headers h1
          · exact bodyBuffered_offStream hsized fun _ => ⟨h0, h1⟩
        · exact hother id hid

/-- **HTTP/2**: the bodies stay below the limit in every state of a run exactly if each DATA frame
that is stored leaves them there. -/
theorem bodyBuffered_le_iff (max : Nat) (streams : Nat → StreamRest) (is : List Run.Input) :
    (∀ js, js <+: is → ∀ id, (runSteps Run.step (Run.fresh streams) js).bodyBuffered id ≤ max)
      ↔ GuardedRun (Run.Input.RoomFor max) Run.step (Run.fresh streams) is := by
  refine GuardedRun.iff_forall_prefix
    (fun r : Run => Sized r.server ∧ ∀ id, r.bodyBuffered id ≤ max)
    (fun r h => h.2) ?_ ?_ ?_ (guardedRun_true _ is)
  · rintro r i ⟨hsized, hle⟩ - hguard
    refine ⟨sized_step hsized i, fun id => ?_⟩
    rcases bodyBuffered_step hsized i with hsame | ⟨f, env, rfl, h0, hstores, hself, hother⟩
    · rw [hsame]
      exact hle id
    · by_cases hid : id = f.streamId
      · rw [hid, hself]
        exact hguard h0 hstores
      · rw [hother id hid]
        exact hle id
  · rintro r i ⟨hsized, hle⟩ - hno hgood
    cases i with
    | flush env => exact hno trivial
    | frame f env =>
        refine hno fun h0 hstores => ?_
        rw [← bodyBuffered_stores h0 hstores]
        exact hgood f.streamId
  · refine ⟨sized_fresh _, fun id => ?_⟩
    unfold Run.bodyBuffered
    rw [show lookupStream (Run.fresh streams).server id = none from lookup_fresh _ id]
    exact Nat.zero_le max

end Bodies

end Halmos.Http2

namespace Halmos.Http

/-- **The limit for bodies**: over HTTP/1 it is kept, in every state that the reads of a body reach,
exactly if the request declares no longer body; over HTTP/2, in every state of a run, exactly if no
DATA frame that is stored goes beyond it. -/
theorem body_within_iff (max : Nat) :
    (∀ (server : Http1.Server) (s : Http1.HTTP1Session) (req : Http1.RequestHeader)
      (buffer : List UInt8), Http1.ReadingHeaders server s →
      Http1.http1ParserParseHeader server.config s.buffer s.req = some (true, req, buffer) →
      ((∀ t, Http1.BodyCalls server (s.parsed req buffer) t → Http1.bodyBuffered t ≤ max)
        ↔ req.contentLength ≤ max))
    ∧ ∀ (streams : Nat → Http2.StreamRest) (is : List Http2.Run.Input),
      (∀ js, js <+: is → ∀ id,
        (runSteps Http2.Run.step (Http2.Run.fresh streams) js).bodyBuffered id ≤ max)
        ↔ GuardedRun (Http2.Run.Input.RoomFor max) Http2.Run.step (Http2.Run.fresh streams) is :=
  ⟨fun _ _ _ _ hs hparse => Http1.bodyBuffered_le_iff max hs hparse,
    Http2.bodyBuffered_le_iff max⟩

/-- The header block of an upload. -/
def uploadHead : List UInt8 := ascii "POST / HTTP/1.1\r\nContent-Length: 3\r\n\r\n"

/-- A session that has read it. -/
def uploadSession : Http1.HTTP1Session :=
  { Http1.HTTP1Session.new Http1.pageServer.config with buffer := uploadHead }

theorem body_within_upload :
    ∃ req buffer, Http1.http1ParserParseHeader Http1.pageServer.config uploadHead .zero
        = some (true, req, buffer) ∧
      ((∀ t, Http1.BodyCalls Http1.pageServer (uploadSession.parsed req buffer) t →
        Http1.bodyBuffered t ≤ 10) ↔ req.contentLength ≤ 10) := by
  have hvalid : (Http1.http1ParserParseHeader Http1.pageServer.config uploadHead .zero).map Prod.fst
      = some true := by decide +kernel
  obtain ⟨⟨valid, req, buffer⟩, hparse, rfl⟩ := Option.map_eq_some_iff.mp hvalid
  have hread : Http1.readHeaders Http1.pageServer.moved [.data uploadHead]
      (Http1.HTTP1Session.new Http1.pageServer.config) = some (.complete, uploadSession, []) := by
    decide +kernel
  have hs : Http1.ReadingHeaders Http1.pageServer uploadSession :=
    .call (.ready (Http1.HTTP1Session.new Http1.pageServer.config) (by decide)) hread
  exact ⟨req, buffer, hparse, (body_within_iff 10).1 _ _ _ _ hs hparse⟩

/-- Six bytes of a body on stream 1. -/
def sixBytes : Http2.Frame := ⟨0x00, 0x00, 1, [1, 2, 3, 4, 5, 6], by decide, Http2.Frame.streamId_one⟩

/-- A POST with twice six bytes; each frame is below the limit of ten. -/
def twoFrames : List Http2.Run.Input :=
  [.frame Http2.openPost .plain, .frame sixBytes .plain, .frame sixBytes .plain]

/-- Twelve bytes are stored. -/
theorem body_beyond_limit :
    ¬ ∀ (max : Nat) (streams : Nat → Http2.StreamRest) (is : List Http2.Run.Input), 0 < max →
      (∀ f env, .frame f env ∈ is → f.payload.length ≤ Http2.maxAllowedPayload max) →
      ∀ js, js <+: is → ∀ id,
        (runSteps Http2.Run.step (Http2.Run.fresh streams) js).bodyBuffered id ≤ max := by
  intro h
  have hle := h 10 (fun _ => .new .plain) twoFrames (by decide) (by
    intro f env hf
    simp only [twoFrames, List.mem_cons, List.not_mem_nil, or_false, Http2.Run.Input.frame.injEq]
      at hf
    rcases hf with ⟨rfl, -⟩ | ⟨rfl, -⟩ | ⟨rfl, -⟩ <;> decide) twoFrames List.prefix_rfl 1
  exact absurd hle (by decide +kernel)

end Halmos.Http
