import Halmos.Fcgi.Stdin
import Halmos.Http2.RouterCalls

set_option autoImplicit false

/-! # Reading a stored body

`fcgi_session_http2_step` sends the body of a request in STDIN records and takes its length from
`content_length`, which header blocks write at any time. The records lie inside the stored body as
long as no header block leaves a length behind that is longer than what is stored
(`stdin_inside`).
-/

namespace Halmos.Http2

open Fcgi

/-! ## The request in an exchange -/

/-- The FastCGI exchange of a stream and the request it sends. -/
structure BodyView where
  active : Bool
  fcgiState : Nat
  body : Option (List UInt8)
  contentLength : Int32

def bodyView (s : Server) (id : Nat) : BodyView where
  active := ((lookupStream s id).map HTTP2Stream.isFcgiActive).getD false
  fcgiState := (s.rest.streams id).fcgiState
  body := (s.rest.streams id).bodyData
  contentLength := (s.rest.streams id).req.contentLength

/-- The exchange still has the body to send. -/
def BodyView.Ongoing (v : BodyView) : Prop := v.active = true ∧ v.fcgiState ≤ 2

/-- What is stored of the body is as long as the request says. -/
def BodyView.Fits (v : BodyView) : Prop := ∀ b ∈ v.body, v.contentLength.toInt ≤ b.length

/-- While the exchange has the body to send, what is stored is long enough, and in the STDIN state
something is stored. -/
def BodyView.Fed (v : BodyView) : Prop :=
  v.Ongoing → v.Fits ∧ (v.fcgiState = 2 → v.body.isSome = true)

section BodyView

variable {env : Environment} {s s' : Server} {id : Nat}

theorem bodyView_untouched (h : Untouched id s s') : bodyView s' id = bodyView s id := by
  have hactive : (lookupStream s' id).map HTTP2Stream.isFcgiActive
      = (lookupStream s id).map HTTP2Stream.isFcgiActive := by
    have hcore := congrArg (Option.map HTTP2Stream.isFcgiActive) h.core
    unfold coreOf at hcore
    rw [Option.map_map, Option.map_map] at hcore
    exact hcore
  unfold bodyView
  rw [hactive, h.rest]

/-- A write to the stream that does not start or end the exchange. -/
theorem bodyView_setStream {f : HTTP2Stream → HTTP2Stream}
    (hid : ∀ st, (f st).streamId = st.streamId)
    (hactive : ∀ st, (f st).isFcgiActive = st.isFcgiActive) :
    bodyView (setStream s id f) id = bodyView s id := by
  unfold bodyView
  rw [setStream_rest, lookup_setStream hid, if_pos rfl, Option.map_map]
  congr 3
  exact funext hactive

theorem bodyView_setState (state : HTTP2StreamState) :
    bodyView (setStream s id (fun st => { st with state := state })) id = bodyView s id := by
  apply bodyView_setStream
  · intro st
    rfl
  · intro st
    rfl

theorem bodyView_setRest (g : StreamRest → StreamRest) :
    bodyView (setRest s id g) id
      = { bodyView s id with
          fcgiState := (g (s.rest.streams id)).fcgiState
          body := (g (s.rest.streams id)).bodyData
          contentLength := (g (s.rest.streams id)).req.contentLength } := by
  unfold bodyView
  rw [setRest_streams_self]
  rfl

/-- A new exchange. -/
theorem bodyView_startFcgi :
    (bodyView (startFcgi s id) id).fcgiState = 0
      ∧ (bodyView (startFcgi s id) id).body = (bodyView s id).body
      ∧ (bodyView (startFcgi s id) id).contentLength = (bodyView s id).contentLength := by
  unfold startFcgi
  rw [bodyView_setRest, setStream_rest]
  exact ⟨rfl, rfl, rfl⟩

/-- The router starts an exchange, or leaves the one of the stream alone. -/
theorem bodyView_router (env : Environment) (s : Server) (id : Nat) :
    bodyView (http2RouterBridge env s id).1 id = bodyView s id ∨
      ((s.rest.streams id).req.isUpgrade = false ∧ env.route = .fcgi ∧
        (http2RouterBridge env s id).1 = startFcgi s id) := by
  unfold http2RouterBridge
  dsimp only
  by_cases hup : (s.rest.streams id).req.isUpgrade = true
  · rw [if_pos hup]
    exact Or.inl rfl
  · rw [if_neg hup]
    cases hroute : env.route with
    | fcgi => exact Or.inr ⟨by simpa using hup, rfl, rfl⟩
    | badGateway => exact Or.inl (bodyView_setState _)
    | notFound => exact Or.inl (bodyView_setState _)
    | forbidden => exact Or.inl (bodyView_setState _)
    | file fd size =>
        left
        dsimp only
        unfold startFile
        dsimp only
        split
        · exact bodyView_setState _
        · dsimp only
          rw [bodyView_setRest, setStream_rest, bodyView_setStream]
          · rfl
          · intro st
            rfl
          · intro st
            rfl

/-- With a body that fits, the router may do what it likes. -/
theorem fed_router (hfed : (bodyView s id).Fed)
    (hfits : (s.rest.streams id).req.isUpgrade = false → env.route = .fcgi → (bodyView s id).Fits) :
    (bodyView (http2RouterBridge env s id).1 id).Fed := by
  rcases bodyView_router env s id with h | ⟨hup, hroute, h⟩
  · rw [h]
    exact hfed
  · obtain ⟨hstate, hbody, hlen⟩ : (bodyView (startFcgi s id) id).fcgiState = 0
        ∧ (bodyView (startFcgi s id) id).body = (bodyView s id).body
        ∧ (bodyView (startFcgi s id) id).contentLength = (bodyView s id).contentLength :=
      bodyView_startFcgi
    rw [h]
    intro _
    refine ⟨?_, ?_⟩
    · unfold BodyView.Fits
      rw [hbody, hlen]
      exact hfits hup hroute
    · rw [hstate]
      intro h2
      cases h2

end BodyView

/-! ## Frames -/

/-- A HEADERS frame whose request goes to a backend. -/
def StartsFcgi (env : Environment) (s : Server) (f : Frame) : Prop :=
  Accepts env s f ∧ (headerPass env s f).req.isUpgrade = false ∧ f.flags &&& 0x01 ≠ 0 ∧
    env.route = .fcgi

/-- A frame leaves no length behind that is longer than the stored body: a HEADERS frame on a stream
whose body is being sent, or will be because of it, and the first DATA frame on a stream whose
exchange has begun without a body. -/
def Run.Input.LengthFits (r : Run) : Run.Input → Prop
  | .frame f env =>
      (f.type = 0x01 → headersBlock f.flags f.payload ≠ [] →
        (lookupStream r.server f.streamId).isSome = true →
        (bodyView r.server f.streamId).Ongoing ∨ StartsFcgi env r.server f →
        ∀ b ∈ (bodyView r.server f.streamId).body,
          (headerPass env r.server f).req.contentLength.toInt ≤ b.length) ∧
      (f.type = 0x00 → f.flags &&& 0x01 = 0 → (bodyView r.server f.streamId).Ongoing →
        (bodyView r.server f.streamId).body = none →
        (bodyView r.server f.streamId).contentLength.toInt ≤ f.payload.length)
  | .flush _ => True

section Frames

variable {env : Environment} {s : Server} {f : Frame}

/-- The length of a body is not cut up but down. -/
theorem toInt_ofNat_le (n : Nat) : (Int32.ofNat n).toInt ≤ n := by
  rw [Int32.toInt_ofNat', Int.bmod, show Int32.size = 4294967296 from rfl]
  split <;> omega

theorem bodyView_append (payload : List UInt8) (id : Nat) :
    bodyView (appendStreamBody s id payload) id
      = { bodyView s id with body := some ((bodyView s id).body.getD [] ++ payload) } :=
  bodyView_setRest _

/-- A body that has been measured fits. -/
theorem fits_measured (id : Nat) : (bodyView (measured s id) id).Fits := by
  unfold measured
  rw [bodyView_setRest]
  intro b hb
  have hbody : (s.rest.streams id).bodyData = some b := hb
  show (Int32.ofNat ((s.rest.streams id).bodyData.getD []).length).toInt ≤ b.length
  rw [hbody]
  exact toInt_ofNat_le b.length

theorem fed_handleStreamEnd {id : Nat} (hbody : (bodyView s id).body.isSome = true) :
    (bodyView (handleStreamEnd env s id).1 id).Fed := by
  rw [handleStreamEnd_eq]
  dsimp only
  rw [bodyView_setState]
  apply fed_router
  · intro _
    refine ⟨fits_measured id, fun _ => ?_⟩
    unfold measured
    rw [bodyView_setRest]
    exact hbody
  · intro _ _
    exact fits_measured id

theorem fed_handleData (hfed : (bodyView s f.streamId).Fed)
    (hfits : f.flags &&& 0x01 = 0 → (bodyView s f.streamId).Ongoing →
      (bodyView s f.streamId).body = none →
      (bodyView s f.streamId).contentLength.toInt ≤ f.payload.length) :
    (bodyView (http2ParserHandleData env s f.head f.payloadBuf).1 f.streamId).Fed := by
  by_cases hstores : Stores env s f
  · rw [handleData_stores hstores]
    by_cases hend : f.flags &&& 0x01 = 0
    · rw [if_neg (not_not.mpr hend)]
      dsimp only
      rw [bodyView_append]
      intro hongoing
      refine ⟨?_, fun _ => rfl⟩
      intro b hb
      have hb' : (bodyView s f.streamId).body.getD [] ++ f.payload = b := Option.some.inj hb
      show (bodyView s f.streamId).contentLength.toInt ≤ b.length
      rw [← hb', List.length_append]
      cases hbody : (bodyView s f.streamId).body with
      | none =>
          have hle := hfits hend hongoing hbody
          rw [Option.getD_none, List.length_nil]
          omega
      | some b₀ =>
          have hle := (hfed hongoing).1 b₀ hbody
          rw [Option.getD_some]
          omega
    · rw [if_pos hend]
      apply fed_handleStreamEnd
      rw [bodyView_append]
      rfl
  · rw [(handleData_drops hstores).1]
    exact hfed

/-- What `parse_header` leaves behind. -/
theorem bodyView_parseHeader {s' : Server}
    (hreq : (s'.rest.streams f.streamId).req = requestBefore env s f.streamId)
    (htable : s'.rest.table = s.rest.table) (hblock : headersBlock f.flags f.payload ≠ []) :
    bodyView (parseHeaderFull env s' f.streamId (headersBlock f.flags f.payload)).2 f.streamId
      = { bodyView s' f.streamId with
          contentLength := (headerPass env s f).req.contentLength } := by
  have hleft := (parseHeaderFull_spec hreq htable).2 hblock
  unfold parseHeaderFull at hleft ⊢
  rw [if_neg hblock] at hleft ⊢
  dsimp only at hleft ⊢
  rw [setRest_streams_self] at hleft
  rw [bodyView_setRest, hleft]
  rfl

/-- HEADERS on a stream that is there now. -/
theorem fed_headersOn {s' : Server} (hid : f.streamId ≠ 0)
    (hstream : (lookupStream s f.streamId).isSome = true ∨ env.callocOk = true)
    (hreq : (s'.rest.streams f.streamId).req = requestBefore env s f.streamId)
    (htable : s'.rest.table = s.rest.table) (hfed : (bodyView s' f.streamId).Fed)
    (hfits : headersBlock f.flags f.payload ≠ [] →
      (bodyView s' f.streamId).Ongoing ∨ StartsFcgi env s f →
      ∀ b ∈ (bodyView s' f.streamId).body,
        (headerPass env s f).req.contentLength.toInt ≤ b.length) :
    (bodyView (headersOn env s' f.streamId f.flags f.payload).1 f.streamId).Fed := by
  by_cases hblock : headersBlock f.flags f.payload = []
  · have hnop : headersOn env s' f.streamId f.flags f.payload = (s', []) := by
      unfold headersOn parseHeaderFull
      rw [if_pos hblock]
      rfl
    rw [hnop]
    exact hfed
  · obtain ⟨hvalid, hleft⟩ := parseHeaderFull_spec hreq htable
    -- parsing leaves the body alone and may only change the content length it is measured by
    have hview := bodyView_parseHeader hreq htable hblock
    have hfed' : (bodyView (parseHeaderFull env s' f.streamId
        (headersBlock f.flags f.payload)).2 f.streamId).Fed := by
      rw [hview]
      intro hongoing
      exact ⟨hfits hblock (Or.inl hongoing), (hfed hongoing).2⟩
    unfold headersOn
    dsimp only
    by_cases hv : (parseHeaderFull env s' f.streamId (headersBlock f.flags f.payload)).1 = true
    · rw [if_pos hv]
      by_cases hallowed : env.allowed = true
      · rw [if_pos hallowed, hleft hblock]
        by_cases hup : (headerPass env s f).req.isUpgrade = true
        · rw [if_pos hup]
          apply fed_router hfed'
          intro hplain
          rw [hleft hblock, hup] at hplain
          cases hplain
        · rw [if_neg hup]
          by_cases hend : f.flags &&& 0x01 = 0
          · rw [if_neg (not_not.mpr hend)]
            exact hfed'
          · rw [if_pos hend]
            apply fed_router
            · rw [bodyView_setState]
              exact hfed'
            · intro _ hroute
              rw [bodyView_setState, hview]
              exact hfits hblock (Or.inr ⟨⟨hid, hstream, hvalid.mp hv, hallowed⟩,
                by simpa using hup, hend, hroute⟩)
      · rw [if_neg hallowed]
        exact hfed'
    · rw [if_neg hv]
      exact hfed'

theorem fed_handleHeaders (hsized : Sized s) (hfed : (bodyView s f.streamId).Fed)
    (hfits : headersBlock f.flags f.payload ≠ [] →
      (lookupStream s f.streamId).isSome = true →
      (bodyView s f.streamId).Ongoing ∨ StartsFcgi env s f →
      ∀ b ∈ (bodyView s f.streamId).body,
        (headerPass env s f).req.contentLength.toInt ≤ b.length) :
    (bodyView (http2ParserHandleHeaders env s f.head f.payloadBuf).1 f.streamId).Fed := by
  rcases handleHeaders_cases env s f.head f.payloadBuf with ⟨-, h⟩ | ⟨hid, s', hcreate, h⟩
  · rw [h]
    exact hfed
  · obtain ⟨hknown, hreq, htable⟩ := getOrCreate_spec hsized hcreate
    have hstream : (lookupStream s f.streamId).isSome = true ∨ env.callocOk = true :=
      getOrCreate_isSome_iff.mp (Option.isSome_iff_exists.mpr ⟨s', hcreate⟩)
    rw [h, Frame.payloadBuf_getD]
    rcases getOrCreate_cases hcreate with ⟨hold, heq⟩ | ⟨hnone, -, heq⟩
    · rw [heq] at hreq htable ⊢
      exact fed_headersOn hid hstream hreq htable hfed (fun hblock => hfits hblock hold)
    · -- A new stream has no body and no exchange.
      have hbody : (bodyView s' f.streamId).body = none := by
        rw [heq]
        show ((setRest _ f.streamId _).rest.streams f.streamId).bodyData = none
        rw [setRest_streams_self]
        rfl
      have hactive : (bodyView s' f.streamId).active = false := by
        rw [heq]
        unfold bodyView
        dsimp only
        rw [lookup_setRest, lookup_pushStream hsized]
        show ((if f.streamId = f.streamId then some (newStream s f.streamId) else _).map _).getD
          false = false
        rw [if_pos rfl]
        rfl
      apply fed_headersOn hid hstream hreq htable
      · rintro ⟨hon, -⟩
        rw [hactive] at hon
        cases hon
      · intro _ _ b hb
        rw [hbody] at hb
        cases hb

theorem bodyView_handleRstStream (id k : Nat) :
    bodyView (handleRstStream s k) id = bodyView s id := by
  have hrest : (handleRstStream s k).rest = s.rest := rfl
  unfold bodyView
  rw [lookup_handleRstStream, hrest]
  split
  · next hid =>
      rw [hid, Option.map_map]
      rfl
  · rfl

/-- A frame that leaves no length too long keeps every exchange fed. -/
theorem fed_handleFrame {r : Run} (hsized : Sized r.server)
    (hfed : ∀ id, (bodyView r.server id).Fed) (hfits : Run.Input.LengthFits r (.frame f env)) :
    ∀ id, (bodyView (handleFrame env r.server f).1 id).Fed := by
  intro id
  by_cases hother : f.streamId = id → f.type ≠ 0x00 ∧ f.type ≠ 0x01 ∧ f.type ≠ 0x03
  · rw [bodyView_untouched (untouched_handleFrame hsized hother)]
    exact hfed id
  · push Not at hother
    obtain ⟨rfl, htype⟩ := hother
    by_cases h0 : f.type = 0x00
    · rw [handleFrame_data h0]
      exact fed_handleData (hfed f.streamId) (hfits.2 h0)
    · by_cases h1 : f.type = 0x01
      · rw [handleFrame_headers h1]
        exact fed_handleHeaders hsized (hfed f.streamId) (hfits.1 h1)
      · have h3 : f.type = 0x03 := htype h0 h1
        have hrst : handleFrame env r.server f = (handleRstStream r.server f.streamId, []) := by
          unfold handleFrame
          rw [if_neg h0, if_neg h1, if_pos h3]
        rw [hrst]
        dsimp only
        rw [bodyView_handleRstStream]
        exact hfed f.streamId

end Frames

/-! ## The pump -/

section Pump

variable {env : Environment} {s : Server} {id : Nat}

theorem isSome_of_paramsStep {i : StepInput} {st : FcgiStream} (hstate : st.fcgiState = 1)
    (h : (paramsStep i st).stream.fcgiState = 2) : st.bodyData.isSome = true := by
  by_contra hbody
  have hno : ¬ (0 < st.contentLength ∧ st.bodyData.isSome = true) := fun hh => hbody hh.2
  unfold paramsStep at h
  by_cases hout : i.pollOut = true
  · rw [if_pos hout] at h
    dsimp only at h
    cases hsend : i.send with
    | sent n =>
        rw [hsend] at h
        dsimp only at h
        rw [if_neg hno] at h
        split at h
        · exact absurd h (by decide)
        · exact absurd h (by decide)
    | wouldBlock =>
        rw [hsend] at h
        exact absurd (hstate.symm.trans h) (by decide)
    | failed =>
        rw [hsend] at h
        exact absurd h (show (5 : Nat) ≠ 2 by decide)
  · rw [if_neg hout] at h
    exact absurd (hstate.symm.trans h) (by decide)

theorem isSome_of_initStep {i : StepInput} {st : FcgiStream}
    (h : (paramsStep i (initStep i.params st)).stream.fcgiState = 2) :
    st.bodyData.isSome = true := by
  have hinit : (initStep i.params st).fcgiState = 1 := rfl
  have hbody := isSome_of_paramsStep hinit h
  exact hbody

/-- The STDIN state is entered with a stored body only, and the states before it are left for
good. -/
theorem fcgiStep_state (st : FcgiStream) (i : StepInput)
    (h : (fcgiSessionHttp2Step st i).stream.fcgiState ≤ 2) :
    st.fcgiState ≤ 2 ∧ ((fcgiSessionHttp2Step st i).stream.fcgiState = 2 →
      st.fcgiState = 2 ∨ st.bodyData.isSome = true) := by
  unfold fcgiSessionHttp2Step at h ⊢
  by_cases hactive : st.isFcgiActive = false
  · rw [if_pos hactive] at h ⊢
    exact ⟨h, Or.inl⟩
  · rw [if_neg hactive] at h ⊢
    match hstate : st.fcgiState with
    | 0 => exact ⟨by decide, fun h2 => Or.inr (isSome_of_initStep h2)⟩
    | 1 => exact ⟨by decide, fun h2 => Or.inr (isSome_of_paramsStep hstate h2)⟩
    | 2 => exact ⟨by decide, fun _ => Or.inl rfl⟩
    | 3 =>
        rw [hstate] at h
        obtain ⟨-, -, h3⟩ := receiveStep_request st i
        have h' : (receiveStep i st).stream.fcgiState ≤ 2 := h
        rw [hstate] at h3
        omega
    | n + 4 =>
        rw [hstate] at h
        have h' : st.fcgiState ≤ 2 := h
        omega

/-- A FastCGI visit. -/
theorem fed_flushFcgiStream (hfed : (bodyView s id).Fed) :
    (bodyView (flushFcgiStream env s id).1 id).Fed := by
  unfold flushFcgiStream
  split
  · next st i hfind hinput =>
      have hlook := (lookup_of_find hfind).2
      have hkeep : ∀ (state : HTTP2StreamState) (active : Bool) (st' : HTTP2Stream),
          ({ st' with state := state, isFcgiActive := active } : HTTP2Stream).streamId
            = st'.streamId := fun _ _ _ => rfl
      have hactive : (bodyView s id).active = st.isFcgiActive := by
        unfold bodyView
        rw [hlook]
        rfl
      dsimp only
      rw [bodyView_setRest, setStream_rest]
      unfold bodyView
      rw [setStream_rest, lookup_setStream (hkeep _ _), if_pos rfl, hlook]
      unfold flushFcgi
      by_cases hon : (fcgiView st (s.rest.streams id)).isFcgiActive = true
      · rw [if_pos hon]
        dsimp only
        rintro ⟨hnext, hstate⟩
        have hstep := fcgiStep_state (fcgiView st (s.rest.streams id)) i
        have hstate' : (fcgiSessionHttp2Step (fcgiView st (s.rest.streams id)) i).stream.fcgiState
            ≤ 2 := by
          revert hstate
          dsimp only
          split <;> exact fun h => h
        obtain ⟨hbefore, hstdin⟩ := hstep hstate'
        obtain ⟨hfits, hbody⟩ := hfed ⟨hactive.trans hon, hbefore⟩
        refine ⟨hfits, ?_⟩
        intro h2
        have h2' : (fcgiSessionHttp2Step (fcgiView st (s.rest.streams id)) i).stream.fcgiState
            = 2 := by
          revert h2
          dsimp only
          split <;> exact fun h => h
        rcases hstdin h2' with h | h
        · exact hbody h
        · exact h
      · rw [if_neg hon]
        rintro ⟨hnext, -⟩
        exact absurd hnext hon
  · exact hfed

/-- A visit of the pump. -/
theorem fed_flushStream (a : Activity) (k : Nat) (hfed : (bodyView s id).Fed) :
    (bodyView (flushStream env s k a).1 id).Fed := by
  by_cases hk : id = k
  · rw [hk] at hfed ⊢
    cases a with
    | fcgi => exact fed_flushFcgiStream hfed
    | file =>
        have hclose : ∀ s' : Server, bodyView (closeFile s' k) k = bodyView s' k := by
          intro s'
          unfold closeFile
          rw [bodyView_setStream]
          · intro st
            rfl
          · intro st
            rfl
        have hadvance : ∀ n, bodyView (advance s k n) k = bodyView s k := by
          intro n
          unfold bodyView
          rw [lookup_advance, if_pos rfl, Option.map_map, (show (advance s k n).rest.streams k
            = { s.rest.streams k with fileOffset := (s.rest.streams k).fileOffset + n } from ?_)]
          · rfl
          · unfold advance
            rw [setRest_streams_self, setStream_rest]
        show (bodyView (flushFileStream env s k).1 k).Fed
        rcases flushFileStream_cases env s k with hnop | ⟨st, data, -, ⟨-, heq⟩ | ⟨-, hsend⟩⟩
        · rw [hnop]
          exact hfed
        · rw [heq]
          dsimp only
          rw [hclose]
          exact hfed
        · rw [hsend]
          dsimp only
          split
          · rw [hclose, hadvance]
            exact hfed
          · rw [hadvance]
            exact hfed
  · rw [bodyView_untouched (untouched_flushStream a hk)]
    exact hfed

end Pump

/-! ## Runs -/

/-- The STDIN record that a visit to the stream would send lies inside the stored body. -/
def ReadsInside (s : Server) (id : Nat) : Prop :=
  ∀ st, http2StreamFind s id = some st →
    (fcgiView st (s.rest.streams id)).isFcgiActive = true →
    (fcgiView st (s.rest.streams id)).fcgiState = 2 →
    (fcgiView st (s.rest.streams id)).stdinSent
      < (fcgiView st (s.rest.streams id)).contentLength.toNat →
    (fcgiView st (s.rest.streams id)).stdinSent
        + min ((fcgiView st (s.rest.streams id)).contentLength.toNat
            - (fcgiView st (s.rest.streams id)).stdinSent) 8192
      ≤ ((fcgiView st (s.rest.streams id)).bodyData.getD []).length

theorem readsInside_of_fed {s : Server} {id : Nat} (hfed : (bodyView s id).Fed) :
    ReadsInside s id := by
  intro st hfind hactive hstate hmore
  have hlook := (lookup_of_find hfind).2
  have hon : (bodyView s id).active = true := by
    unfold bodyView
    rw [hlook]
    exact hactive
  have hstate' : (bodyView s id).fcgiState = 2 := hstate
  obtain ⟨hfits, hbody⟩ := hfed ⟨hon, hstate'.le⟩
  obtain ⟨b, hb⟩ := Option.isSome_iff_exists.mp (hbody hstate')
  have hle : (s.rest.streams id).req.contentLength.toInt ≤ b.length := hfits b hb
  have hb' : (fcgiView st (s.rest.streams id)).bodyData = some b := hb
  have hlen : (fcgiView st (s.rest.streams id)).contentLength
      = (s.rest.streams id).req.contentLength.toInt := rfl
  rw [hb', Option.getD_some]
  omega

/-- The server behind the first `n` visits of a pass of the pump. -/
def Run.visited (env : Environment) (r : Run) (n : Nat) : Run :=
  runSteps (Run.visit env) r ((activeStreams r.server).take n)

theorem Run.visited_zero (env : Environment) (r : Run) : r.visited env 0 = r := rfl

/-- Every exchange of the session is fed. -/
def Run.Fed (r : Run) : Prop := Sized r.server ∧ ∀ id, (bodyView r.server id).Fed

/-- What holds of every run whose frames leave no length too long. -/
theorem fed_run {r : Run} {is : List Run.Input}
    (hrun : GuardedRun Run.Input.LengthFits Run.step r is) (hsized : Sized r.server)
    (hfed : ∀ id, (bodyView r.server id).Fed) :
    ∀ id, (bodyView (runSteps Run.step r is).server id).Fed := by
  have hinv : Run.Fed (runSteps Run.step r is) := by
    apply GuardedRun.invariant _ ⟨hsized, hfed⟩ hrun
    rintro r' i ⟨hsized', hfed'⟩ hfits
    refine ⟨sized_step hsized' i, ?_⟩
    cases i with
    | frame f env =>
        rw [Run.step_frame]
        exact fed_handleFrame hsized' hfed' hfits
    | flush env =>
        intro id
        apply Run.flush_induction (P := fun r => (bodyView r.server id).Fed) (hfed' id)
        intro target _ r'' h
        exact fed_flushStream target.2 target.1 h
  exact hinv.2

/-- **The body is read where it is stored.** In every run whose frames leave no length too long,
every visit of the pump that sends an STDIN record takes it from the stored body. -/
theorem stdin_inside {streams : Nat → StreamRest} {is : List Run.Input} (env : Environment) (n : Nat)
    (hrun : GuardedRun Run.Input.LengthFits Run.step (Run.fresh streams) is) :
    ∀ id, ReadsInside (Run.visited env (runSteps Run.step (Run.fresh streams) is) n).server id := by
  intro id
  have hfresh : ∀ id, (bodyView (Run.fresh streams).server id).Fed := by
    rintro k ⟨hon, -⟩
    unfold bodyView at hon
    rw [show (Run.fresh streams).server = .fresh ⟨.empty, streams⟩ from rfl, lookup_fresh] at hon
    cases hon
  have hfed := fed_run hrun (sized_fresh _) hfresh id
  have hvisited : (bodyView (Run.visited env (runSteps Run.step (Run.fresh streams) is) n).server
      id).Fed := by
    unfold Run.visited
    apply @runSteps_induction Run (Nat × Activity) (Run.visit env)
      (fun r : Run => (bodyView r.server id).Fed) _ _ hfed
    intro target _ r' h
    exact fed_flushStream target.2 target.1 h
  exact readsInside_of_fed hvisited

/-! ## A length that is too long -/

/-- The HEADERS of a POST of `/` on stream 1. -/
def openPost : Frame := ⟨0x01, 0x04, 1, [0x83, 0x84], Frame.length_postRoot, Frame.streamId_one⟩

/-- A byte of its body. -/
def oneByte (flags : UInt8) : Frame := ⟨0x00, flags, 1, [7], by decide, Frame.streamId_one⟩

/-- A second HEADERS frame with END_STREAM and `content-length: 100`. -/
def longTrailers : Frame :=
  ⟨0x01, 0x05, 1, [0x83, 0x84, 0x0F, 0x0D, 0x03, 0x31, 0x30, 0x30], by decide, Frame.streamId_one⟩

/-- A backend that takes everything. -/
def backendEnv : Environment :=
  { Environment.plain with
    route := .fcgi
    fcgi := fun _ => some
      ⟨true, false, [], .sent 100000, .wouldBlock, .wouldBlock, .wouldBlock⟩ }

theorem stdin_inside_oneByte :
    ReadsInside (Run.visited backendEnv (runSteps Run.step (Run.fresh (fun _ => .new .plain))
      [.frame openPost .plain, .frame (oneByte 0x01) backendEnv, .flush backendEnv]) 0).server 1 := by
  apply stdin_inside
  refine ⟨⟨?_, ?_⟩, ⟨?_, ?_⟩, trivial, trivial⟩
  · intro _ _ hknown
    exact absurd hknown (show ¬ (lookupStream (.fresh _) 1).isSome = true by
      rw [lookup_fresh]
      decide)
  · intro h0
    exact absurd h0 (show (0x01 : UInt8) ≠ 0x00 by decide)
  · intro h1
    exact absurd h1 (show (0x00 : UInt8) ≠ 0x01 by decide)
  · intro _ hmore
    exact absurd hmore (show (0x01 : UInt8) &&& 0x01 ≠ 0 by decide)

/-- A session in which the trailers say more than the body holds. -/
def overrun : Run :=
  runSteps Run.step (Run.fresh (fun _ => .new .plain)) [.frame openPost .plain,
    .frame (oneByte 0x00) .plain, .frame longTrailers backendEnv, .flush backendEnv]

theorem overrun_stream :
    (http2StreamFind overrun.server 1).map HTTP2Stream.isFcgiActive = some true
      ∧ (overrun.server.rest.streams 1).fcgiState = 2
      ∧ (overrun.server.rest.streams 1).stdinSent = 0
      ∧ (overrun.server.rest.streams 1).req.contentLength = 100
      ∧ (overrun.server.rest.streams 1).bodyData = some [7] := by
  refine ⟨?_, ?_, ?_, ?_, ?_⟩ <;> decide

/-- The record reads behind the body. -/
theorem stdin_outside :
    ∃ (streams : Nat → StreamRest) (is : List Run.Input) (env : Environment) (n id : Nat),
      ¬ ReadsInside (Run.visited env (runSteps Run.step (Run.fresh streams) is) n).server id := by
  refine ⟨fun _ => .new .plain, [.frame openPost .plain, .frame (oneByte 0x00) .plain,
    .frame longTrailers backendEnv, .flush backendEnv], backendEnv, 0, 1, ?_⟩
  obtain ⟨hfind, hstate, hsent, hlen, hbody⟩ := overrun_stream
  obtain ⟨st, hst, hactive⟩ := Option.map_eq_some_iff.mp hfind
  rw [Run.visited_zero]
  intro h
  have hinside : ReadsInside overrun.server 1 := h
  have hlen' : (fcgiView st (overrun.server.rest.streams 1)).contentLength = 100 := by
    show (overrun.server.rest.streams 1).req.contentLength.toInt = 100
    rw [hlen]
    rfl
  have hsent' : (fcgiView st (overrun.server.rest.streams 1)).stdinSent = 0 := hsent
  have hview : ∀ x : StreamRest, (fcgiView st x).bodyData = x.bodyData := fun _ => rfl
  have hbody' : (fcgiView st (overrun.server.rest.streams 1)).bodyData = some [7] := by
    rw [hview]
    exact hbody
  have hle := hinside st hst hactive hstate (by rw [hsent', hlen']; decide)
  rw [hsent', hlen', hbody'] at hle
  exact absurd hle (by decide)

end Halmos.Http2
