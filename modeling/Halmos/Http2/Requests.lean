import Halmos.Http2.RouterCalls

set_option autoImplicit false

/-! # Whole requests

A request is a HEADERS frame, any number of DATA frames and perhaps a second HEADERS frame with
trailers; the frame with END_STREAM is the one that is to call the router. It does not when it is an
empty DATA frame, which is dropped before its flags are read, or a block of trailers, which has no
method and is no valid request (`routedOnce_iff`).
-/

namespace Halmos.Http2

/-- At every point, the calls of the router for the stream are as many as the frames with
END_STREAM. -/
def Balanced (id : Nat) (r : Run) (is : List Run.Input) : Prop :=
  ∀ n, (runSteps Run.step r (is.take n)).calls id = (runSteps Run.step r (is.take n)).ends id

section Balanced

variable {id : Nat} {r : Run} {is js : List Run.Input}

theorem balanced_nil : Balanced id r [] ↔ r.calls id = r.ends id := by
  constructor
  · intro h
    exact h 0
  · intro h n
    rw [List.take_nil]
    exact h

theorem balanced_cons {i : Run.Input} :
    Balanced id r (i :: is) ↔ r.calls id = r.ends id ∧ Balanced id (r.step i) is := by
  constructor
  · intro h
    exact ⟨h 0, fun n => h (n + 1)⟩
  · rintro ⟨hnow, hrest⟩ n
    cases n with
    | zero => exact hnow
    | succ n => exact hrest n

theorem balanced_append :
    Balanced id r (is ++ js) ↔ Balanced id r is ∧ Balanced id (runSteps Run.step r is) js := by
  induction is generalizing r with
  | nil =>
      rw [balanced_nil]
      refine ⟨fun h => ⟨h 0, h⟩, fun h => h.2⟩
  | cons i is ih =>
      rw [List.cons_append, balanced_cons, balanced_cons, ih, runSteps_cons, and_assoc]

/-- Between the frames that matter nothing gets out of balance. -/
theorem calm_run (hsized : Sized r.server) (h : ∀ i ∈ is, i.OffStream id ∨ i.MoreData id) :
    Calm id r (runSteps Run.step r is)
      ∧ (Balanced id r is ↔ r.calls id = r.ends id) := by
  induction is generalizing r with
  | nil => exact ⟨Calm.refl, balanced_nil⟩
  | cons i is ih =>
      rw [List.forall_mem_cons] at h
      have hstep : Calm id r (r.step i) := by
        rcases h.1 with hoff | hmore
        · exact calm_offStream hsized hoff
        · exact calm_moreData hmore
      obtain ⟨hcalm, hbalanced⟩ := ih (hstep.sized hsized) h.2
      refine ⟨hstep.trans hcalm, ?_⟩
      rw [balanced_cons, hbalanced, hstep.calls, hstep.ends, and_self]

end Balanced

/-- The frames of one request in a run: a HEADERS frame, DATA frames, and perhaps a second HEADERS
frame; the last of them carries END_STREAM. -/
structure RequestFrames (id : Nat) where
  before : List Run.Input
  headers : Frame
  headersEnv : Environment
  middle : List Run.Input
  ending : Option (Frame × Environment)
  after : List Run.Input
  id_ne : id ≠ 0
  before_off : ∀ i ∈ before, i.OffStream id
  headers_type : headers.type = 0x01
  headers_id : headers.streamId = id
  headers_end : headers.flags &&& 0x01 ≠ 0 ↔ ending = none
  middle_frames : ∀ i ∈ middle, i.OffStream id ∨ (i.MoreData id ∧ ending.isSome = true)
  ending_frame : ∀ e ∈ ending, e.1.streamId = id ∧ (e.1.type = 0x00 ∨ e.1.type = 0x01) ∧
    e.1.flags &&& 0x01 ≠ 0
  after_off : ∀ i ∈ after, i.OffStream id

namespace RequestFrames

variable {id : Nat}

/-- The run, as one list of inputs. -/
def inputs (q : RequestFrames id) : List Run.Input :=
  q.before ++ .frame q.headers q.headersEnv ::
    (q.middle ++ (q.ending.toList.map (fun e => .frame e.1 e.2) ++ q.after))

/-- The session when the HEADERS frame arrives. -/
def atHeaders (q : RequestFrames id) (streams : Nat → StreamRest) : Run :=
  runSteps Run.step (Run.fresh streams) q.before

/-- The session when the last frame arrives. -/
def atEnding (q : RequestFrames id) (streams : Nat → StreamRest) : Run :=
  runSteps Run.step ((q.atHeaders streams).step (.frame q.headers q.headersEnv)) q.middle

/-- The request asks for a WebSocket. -/
def asksUpgrade (q : RequestFrames id) (streams : Nat → StreamRest) : Prop :=
  (headerPass q.headersEnv (q.atHeaders streams).server q.headers).req.isUpgrade = true

/-- The router is called exactly once, at the frame that carries END_STREAM. -/
def RoutedOnce (q : RequestFrames id) (streams : Nat → StreamRest) : Prop :=
  Balanced id (Run.fresh streams) q.inputs

/-- The condition on a request, by the frame that ends it: HEADERS, DATA or trailers. -/
def Routable (q : RequestFrames id) (streams : Nat → StreamRest) : Prop :=
  match q.ending with
  | none => q.headersEnv.callocOk = true ∧ q.headersEnv.allowed = true
  | some (e, env) =>
      if e.type = 0x00 then
        q.headersEnv.callocOk = true ∧ ¬ q.asksUpgrade streams ∧ e.payload ≠ [] ∧
          env.reallocOk = true
      else
        ¬ (q.headersEnv.callocOk = true ∧ q.headersEnv.allowed = true ∧ q.asksUpgrade streams) ∧
          Accepts env (q.atEnding streams).server e

/-! ## Up to the last frame -/

section Stages

variable (q : RequestFrames id) (streams : Nat → StreamRest)

theorem atHeaders_spec :
    Sized (q.atHeaders streams).server
      ∧ lookupStream (q.atHeaders streams).server id = none
      ∧ (q.atHeaders streams).calls id = 0 ∧ (q.atHeaders streams).ends id = 0
      ∧ Balanced id (Run.fresh streams) q.before := by
  obtain ⟨hcalm, hbalanced⟩ := calm_run (r := Run.fresh streams) (sized_fresh _)
    (fun i hi => Or.inl (q.before_off i hi))
  refine ⟨hcalm.sized (sized_fresh _), ?_, hcalm.calls, hcalm.ends, hbalanced.mpr rfl⟩
  have hknown : (lookupStream (q.atHeaders streams).server id).isSome
      = (lookupStream (.fresh ⟨.empty, streams⟩) id).isSome := hcalm.known
  rw [lookup_fresh] at hknown
  exact Option.not_isSome_iff_eq_none.mp (by rw [hknown]; decide)

theorem accepts_headers (hvalid : ValidHeaders q.headersEnv (q.atHeaders streams).server q.headers) :
    Accepts q.headersEnv (q.atHeaders streams).server q.headers
      ↔ q.headersEnv.callocOk = true ∧ q.headersEnv.allowed = true := by
  obtain ⟨-, hnone, -⟩ := q.atHeaders_spec streams
  constructor
  · rintro ⟨-, hstream, -, hallowed⟩
    rw [q.headers_id, hnone] at hstream
    rcases hstream with h | h
    · cases h
    · exact ⟨h, hallowed⟩
  · rintro ⟨hcalloc, hallowed⟩
    exact ⟨by rw [q.headers_id]; exact q.id_ne, Or.inr hcalloc, hvalid, hallowed⟩

/-- The session behind the HEADERS frame. -/
def behindHeaders : Run := (q.atHeaders streams).step (.frame q.headers q.headersEnv)

open Classical in
theorem behindHeaders_spec
    (hvalid : ValidHeaders q.headersEnv (q.atHeaders streams).server q.headers) :
    Sized (q.behindHeaders streams).server
      ∧ (q.behindHeaders streams).calls id
        = (if (q.headersEnv.callocOk = true ∧ q.headersEnv.allowed = true) ∧
            (q.asksUpgrade streams ∨ q.ending = none) then 1 else 0)
      ∧ (q.behindHeaders streams).ends id = (if q.ending = none then 1 else 0)
      ∧ ((lookupStream (q.behindHeaders streams).server id).isSome = true
        ↔ q.headersEnv.callocOk = true)
      ∧ (q.headersEnv.callocOk = true →
        (((q.behindHeaders streams).server.rest.streams id).req.isUpgrade = true
          ↔ q.asksUpgrade streams)) := by
  obtain ⟨hsized, hnone, hcalls, hends, -⟩ := q.atHeaders_spec streams
  have hid : q.headers.streamId ≠ 0 := by
    rw [q.headers_id]
    exact q.id_ne
  obtain ⟨hknown, hupgrade⟩ := headers_after q.headersEnv q.headers_type hid hsized
  have hstep := calls_headers q.headersEnv q.headers_type hsized
  rw [q.headers_id, hnone] at hknown
  rw [q.headers_id] at hupgrade hstep
  -- the stream was not there before, so it is there now exactly if `calloc` gave it
  have hknown' : (lookupStream (q.behindHeaders streams).server id).isSome = true
      ↔ q.headersEnv.callocOk = true := by
    rw [behindHeaders, hknown]
    exact ⟨fun h => h.resolve_left (by decide), Or.inr⟩
  refine ⟨?_, ?_, ?_, hknown', ?_⟩
  · unfold behindHeaders
    rw [Run.step_frame]
    exact sized_handleFrame hsized
  · unfold behindHeaders
    rw [hstep, hcalls, Nat.zero_add]
    exact if_congr (and_congr (q.accepts_headers streams hvalid)
      (or_congr Iff.rfl q.headers_end)) rfl rfl
  · unfold behindHeaders
    rw [Run.ends_frame, hends, Nat.zero_add]
    have hend : Traced.isEnd id (.received q.headers) = true ↔ q.ending = none := by
      rw [← q.headers_end]
      constructor
      · intro h
        exact (of_decide_eq_true h).2.2
      · intro h
        exact decide_eq_true ⟨q.headers_id, Or.inr q.headers_type, h⟩
    rw [if_congr hend rfl rfl]
  · intro hcalloc
    have h := hupgrade (hknown'.mpr hcalloc) hvalid.block
    unfold behindHeaders asksUpgrade
    rw [h]

theorem calm_middle (hsized : Sized (q.behindHeaders streams).server) :
    Calm id (q.behindHeaders streams) (q.atEnding streams)
      ∧ (Balanced id (q.behindHeaders streams) q.middle
        ↔ (q.behindHeaders streams).calls id = (q.behindHeaders streams).ends id) := by
  apply calm_run hsized
  intro i hi
  rcases q.middle_frames i hi with hoff | hmore
  · exact Or.inl hoff
  · exact Or.inr hmore.1

open Classical in
/-- A last frame of DATA. -/
theorem calls_ending_data
    (hvalid : ValidHeaders q.headersEnv (q.atHeaders streams).server q.headers)
    {e : Frame × Environment} (he : q.ending = some e) (h0 : e.1.type = 0x00) :
    ((q.atEnding streams).step (.frame e.1 e.2)).calls id
      = (q.atEnding streams).calls id
        + if q.headersEnv.callocOk = true ∧ ¬ q.asksUpgrade streams ∧ e.1.payload ≠ [] ∧
            e.2.reallocOk = true then 1 else 0 := by
  obtain ⟨hid, -, hend⟩ := q.ending_frame e he
  obtain ⟨hsized, -, -, hknown, hupgrade⟩ := q.behindHeaders_spec streams hvalid
  obtain ⟨hcalm, -⟩ := q.calm_middle streams hsized
  have hstores : (Stores e.2 (q.atEnding streams).server e.1 ∧ e.1.flags &&& 0x01 ≠ 0)
      ↔ q.headersEnv.callocOk = true ∧ ¬ q.asksUpgrade streams ∧ e.1.payload ≠ [] ∧
        e.2.reallocOk = true := by
    unfold Stores
    rw [find_isSome_iff, hid, hcalm.known, hknown, hcalm.req]
    constructor
    · rintro ⟨⟨hne, ⟨-, hcalloc⟩, hplain, hrealloc⟩, -⟩
      refine ⟨hcalloc, ?_, hne, hrealloc⟩
      rw [← hupgrade hcalloc, hplain]
      decide
    · rintro ⟨hcalloc, hplain, hne, hrealloc⟩
      rw [← hupgrade hcalloc, Bool.not_eq_true] at hplain
      exact ⟨⟨hne, ⟨q.id_ne, hcalloc⟩, hplain, hrealloc⟩, hend⟩
  have hstep := calls_data (r := q.atEnding streams) e.2 h0
  rw [hid] at hstep
  rw [hstep]
  congr 1
  exact if_congr hstores rfl rfl

open Classical in
/-- A last frame of trailers. -/
theorem calls_ending_trailers
    (hvalid : ValidHeaders q.headersEnv (q.atHeaders streams).server q.headers)
    {e : Frame × Environment} (he : q.ending = some e) (h0 : e.1.type ≠ 0x00) :
    ((q.atEnding streams).step (.frame e.1 e.2)).calls id
      = (q.atEnding streams).calls id
        + if Accepts e.2 (q.atEnding streams).server e.1 then 1 else 0 := by
  obtain ⟨hid, htype, hend⟩ := q.ending_frame e he
  obtain ⟨hsized, -⟩ := q.behindHeaders_spec streams hvalid
  obtain ⟨hcalm, -⟩ := q.calm_middle streams hsized
  have hstep := calls_headers (r := q.atEnding streams) e.2 (htype.resolve_left h0)
    (hcalm.sized hsized)
  rw [hid] at hstep
  rw [hstep]
  congr 1
  exact if_congr ⟨fun h => h.1, fun h => ⟨h, Or.inr hend⟩⟩ rfl rfl

/-- The last frame is the one that matters. -/
theorem routedOnce_iff_ending
    (hvalid : ValidHeaders q.headersEnv (q.atHeaders streams).server q.headers) :
    q.RoutedOnce streams ↔ (q.behindHeaders streams).calls id = (q.behindHeaders streams).ends id
      ∧ ∀ e ∈ q.ending, ((q.atEnding streams).step (.frame e.1 e.2)).calls id
        = ((q.atEnding streams).step (.frame e.1 e.2)).ends id := by
  obtain ⟨-, -, hcalls, hends, hbefore⟩ := q.atHeaders_spec streams
  obtain ⟨hsized, -⟩ := q.behindHeaders_spec streams hvalid
  obtain ⟨hcalm, hmiddle⟩ := q.calm_middle streams hsized
  have hafter : ∀ r : Run, Sized r.server → (Balanced id r q.after ↔ r.calls id = r.ends id) :=
    fun r hr => (calm_run hr (fun i hi => Or.inl (q.after_off i hi))).2
  have hstart : q.RoutedOnce streams ↔
      (q.behindHeaders streams).calls id = (q.behindHeaders streams).ends id ∧
        Balanced id (q.atEnding streams)
          (q.ending.toList.map (fun e => .frame e.1 e.2) ++ q.after) := by
    unfold RoutedOnce inputs
    rw [balanced_append, balanced_cons, balanced_append]
    constructor
    · rintro ⟨-, -, hmid, hrest⟩
      exact ⟨hmiddle.mp hmid, hrest⟩
    · rintro ⟨hmid, hrest⟩
      exact ⟨hbefore, hcalls.trans hends.symm, hmiddle.mpr hmid, hrest⟩
  rw [hstart]
  apply and_congr_right
  intro hmid
  cases hending : q.ending with
  | none =>
      show Balanced id (q.atEnding streams) q.after ↔ _
      rw [hafter _ (hcalm.sized hsized), hcalm.calls, hcalm.ends]
      exact ⟨fun _ e he => (nomatch he), fun _ => hmid⟩
  | some e =>
      have hsized' : Sized ((q.atEnding streams).step (.frame e.1 e.2)).server := by
        rw [Run.step_frame]
        exact sized_handleFrame (hcalm.sized hsized)
      show Balanced id (q.atEnding streams) (.frame e.1 e.2 :: q.after) ↔ _
      rw [balanced_cons, hafter _ hsized', hcalm.calls, hcalm.ends]
      constructor
      · rintro ⟨-, h⟩ e' he'
        rw [Option.mem_some_iff.mp he'] at h
        exact h
      · intro h
        exact ⟨hmid, h e rfl⟩

end Stages

/-- **When a request reaches the router**: it is called exactly once, at the frame with END_STREAM,
if and only if that frame is a HEADERS frame which the server accepts, or a DATA frame which it
stores, or a block of trailers that reads as a request of its own. -/
theorem routedOnce_iff (q : RequestFrames id) (streams : Nat → StreamRest)
    (hvalid : ValidHeaders q.headersEnv (q.atHeaders streams).server q.headers) :
    q.RoutedOnce streams ↔ q.Routable streams := by
  classical
  obtain ⟨hsized, hcalls, hends, hknown, hupgrade⟩ := q.behindHeaders_spec streams hvalid
  obtain ⟨hcalm, -⟩ := q.calm_middle streams hsized
  rw [routedOnce_iff_ending q streams hvalid, hcalls, hends]
  unfold Routable
  cases hending : q.ending with
  | none =>
      -- END_STREAM on the HEADERS frame
      rw [if_pos rfl]
      constructor
      · rintro ⟨h, -⟩
        by_contra hrefused
        rw [if_neg (fun h => hrefused h.1)] at h
        exact absurd h (by decide)
      · intro haccepted
        exact ⟨if_pos ⟨haccepted, Or.inr rfl⟩, fun e he => (nomatch he)⟩
  | some e =>
      obtain ⟨hid, htype, hend⟩ := q.ending_frame e hending
      dsimp only
      have hone : ∀ (p : Prop) [Decidable p], (if p then 1 else 0 : Nat) = 1 ↔ p := by
        intro p _
        by_cases hp : p <;> simp [hp]
      have hnotEarly : (if (q.headersEnv.callocOk = true ∧ q.headersEnv.allowed = true) ∧
          (q.asksUpgrade streams ∨ some e = none) then 1 else 0)
            = (if some e = none then 1 else 0)
          ↔ ¬ (q.headersEnv.callocOk = true ∧ q.headersEnv.allowed = true ∧
            q.asksUpgrade streams) := by
        rw [if_neg (fun h : some e = none => nomatch h)]
        constructor
        · rintro h ⟨hcalloc, hallowed, hup⟩
          rw [if_pos ⟨⟨hcalloc, hallowed⟩, Or.inl hup⟩] at h
          exact absurd h (by decide)
        · intro h
          apply if_neg
          rintro ⟨⟨hcalloc, hallowed⟩, hup | hnone⟩
          · exact h ⟨hcalloc, hallowed, hup⟩
          · cases hnone
      rw [hnotEarly]
      by_cases hquiet : q.headersEnv.callocOk = true ∧ q.headersEnv.allowed = true ∧
          q.asksUpgrade streams
      · -- a WebSocket: the router is called before END_STREAM
        refine ⟨fun h => absurd hquiet h.1, fun h => ?_⟩
        by_cases h0 : e.1.type = 0x00
        · rw [if_pos h0] at h
          exact absurd hquiet.2.2 h.2.1
        · rw [if_neg h0] at h
          exact absurd hquiet h.1
      · have hcalls' : (q.atEnding streams).calls id = 0 := by
          rw [hcalm.calls, hcalls, hending]
          exact hnotEarly.mpr hquiet
        have hends' : ((q.atEnding streams).step (.frame e.1 e.2)).ends id = 1 := by
          have hendStep : Traced.isEnd id (.received e.1) = true :=
            decide_eq_true ⟨hid, htype, hend⟩
          rw [Run.ends_frame, hendStep, hcalm.ends, hends, hending]
          rfl
        have hbalance : (∀ e' ∈ some e, ((q.atEnding streams).step (.frame e'.1 e'.2)).calls id
              = ((q.atEnding streams).step (.frame e'.1 e'.2)).ends id)
            ↔ ((q.atEnding streams).step (.frame e.1 e.2)).calls id = 1 := by
          constructor
          · intro h
            exact (h e rfl).trans hends'
          · intro h e' he'
            rw [← Option.mem_some_iff.mp he', h, hends']
        rw [hbalance]
        by_cases h0 : e.1.type = 0x00
        · rw [calls_ending_data q streams hvalid hending h0, hcalls', if_pos h0, Nat.zero_add, hone]
          exact ⟨fun h => h.2, fun h => ⟨hquiet, h⟩⟩
        · rw [calls_ending_trailers q streams hvalid hending h0, hcalls', if_neg h0, Nat.zero_add,
            hone]

def postHeaders : Frame := ⟨0x01, 0x04, 1, [0x83, 0x84], Frame.length_postRoot, Frame.streamId_one⟩

theorem valid_postHeaders : ValidHeaders .plain (Run.fresh (fun _ => .new .plain)).server postHeaders :=
  ⟨by decide, by decide, by decide, by decide, rfl⟩

/-- A POST of `/` on stream 1, with one DATA frame that carries the given body. -/
def post (body : List UInt8) (h : body.length < 2 ^ 24) : RequestFrames 1 where
  before := []
  headers := postHeaders
  headersEnv := .plain
  middle := []
  ending := some (⟨0x00, 0x01, 1, body, h, Frame.streamId_one⟩, .plain)
  after := []
  id_ne := by decide
  before_off i hi := nomatch hi
  headers_type := rfl
  headers_id := rfl
  headers_end := ⟨fun h => absurd rfl h, fun h => nomatch h⟩
  middle_frames i hi := nomatch hi
  ending_frame e he := by
    cases he
    exact ⟨rfl, Or.inl rfl, show (0x01 : UInt8) &&& 0x01 ≠ 0 by decide⟩
  after_off i hi := nomatch hi

theorem routedOnce_post : (post [0x61] (by decide)).RoutedOnce (fun _ => .new .plain) :=
  (routedOnce_iff (post [0x61] (by decide)) (fun _ => .new .plain)
    valid_postHeaders).mpr
    ⟨rfl, show ¬ _ = true by decide, by decide, rfl⟩

/-- The same request with END_STREAM on an empty DATA frame never reaches the router. -/
theorem emptyPost_not_routed :
    ValidHeaders (post [] (by decide)).headersEnv
        ((post [] (by decide)).atHeaders (fun _ => .new .plain)).server
        (post [] (by decide)).headers ∧
      let r := runSteps Run.step (Run.fresh (fun _ => .new .plain)) (post [] (by decide)).inputs
      r.ends 1 = 1 ∧ r.calls 1 = 0 :=
  ⟨valid_postHeaders, by decide, by decide⟩

end RequestFrames

end Halmos.Http2
