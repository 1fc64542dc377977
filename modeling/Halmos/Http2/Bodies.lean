import Halmos.Http2.RouterCalls

set_option autoImplicit false

/-! # The body of a request

`append_stream_body` takes the whole payload of a DATA frame, with the length of its padding and the
padding. What the router gets is therefore the concatenation of the data only for frames without
padding (`handsOver_iff`).
-/

namespace Halmos.Http2

/-- The data of a DATA frame: its payload without the padding. -/
def Frame.unpadded (f : Frame) : List UInt8 :=
  if f.flags &&& 0x08 ≠ 0 then
    match f.payload with
    | [] => []
    | padLength :: rest => rest.take (rest.length - padLength.toNat)
  else f.payload

/-- Padding takes at least the byte with its length. -/
theorem Frame.unpadded_length (f : Frame) :
    f.unpadded.length ≤ f.payload.length ∧
      (f.unpadded.length = f.payload.length → f.payload ≠ [] → f.flags &&& 0x08 = 0) := by
  unfold Frame.unpadded
  by_cases hpad : f.flags &&& 0x08 = 0
  · rw [if_neg (not_not.mpr hpad)]
    exact ⟨Nat.le_refl _, fun _ _ => hpad⟩
  · rw [if_pos hpad]
    cases hpayload : f.payload with
    | nil => exact ⟨Nat.le_refl _, fun _ hne => absurd rfl hne⟩
    | cons padLength rest =>
        dsimp only
        rw [List.length_cons]
        have hle := List.length_take_le (rest.length - padLength.toNat) rest
        have hle' := List.length_take_le' (rest.length - padLength.toNat) rest
        exact ⟨by omega, fun h => by omega⟩

/-- A DATA frame of the stream. -/
def Run.Input.dataOn (id : Nat) : Run.Input → Option (Frame × Environment)
  | .frame f env => if f.streamId = id ∧ f.type = 0x00 then some (f, env) else none
  | .flush _ => none

/-- What is stored of a DATA frame on a stream that stores bodies. -/
def stored (p : Frame × Environment) : List UInt8 :=
  if p.2.reallocOk then p.1.payload else []

/-- The body of the stream. -/
def Run.body (id : Nat) (r : Run) : List UInt8 := (r.server.rest.streams id).bodyData.getD []

/-- The stream stores bodies. -/
structure Ordinary (id : Nat) (r : Run) : Prop where
  sized : Sized r.server
  known : (http2StreamFind r.server id).isSome = true
  plain : (r.server.rest.streams id).req.isUpgrade = false

section Bodies

variable {id : Nat} {r r' : Run} {f : Frame} {env : Environment}

theorem Ordinary.calm (h : Ordinary id r) (hcalm : Calm id r r') : Ordinary id r' := by
  obtain ⟨hsized, hknown, hplain⟩ := h
  refine ⟨hcalm.sized hsized, ?_, by rw [hcalm.req, hplain]⟩
  unfold http2StreamFind at hknown ⊢
  split
  · next hid =>
      rw [if_pos hid] at hknown
      cases hknown
  · next hid =>
      rw [if_neg hid] at hknown
      rw [hcalm.known]
      exact hknown

theorem stores_iff (h : Ordinary f.streamId r) :
    Stores env r.server f ↔ f.payload ≠ [] ∧ env.reallocOk = true :=
  ⟨fun hs => ⟨hs.1, hs.2.2.2⟩, fun hs => ⟨hs.1, h.known, h.plain, hs.2⟩⟩

/-- A DATA frame without END_STREAM adds to the body. -/
theorem body_moreData (h : Ordinary f.streamId r) (h0 : f.type = 0x00)
    (hmore : f.flags &&& 0x01 = 0) :
    (r.step (.frame f env)).body f.streamId = r.body f.streamId ++ stored (f, env) := by
  unfold Run.body stored
  rw [Run.step_frame, handleFrame_data h0]
  dsimp only
  by_cases hstores : Stores env r.server f
  · rw [handleData_stores hstores, if_neg (not_not.mpr hmore), if_pos hstores.2.2.2]
    unfold appendStreamBody
    rw [setRest_streams_self]
    rfl
  · rw [(handleData_drops hstores).1]
    rw [stores_iff h] at hstores
    by_cases hrealloc : env.reallocOk = true
    · have hnil : f.payload = [] := by
        by_contra hne
        exact hstores ⟨hne, hrealloc⟩
      rw [if_pos hrealloc, hnil, List.append_nil]
    · rw [if_neg hrealloc, List.append_nil]

theorem body_run {is : List Run.Input} (h : Ordinary id r)
    (his : ∀ i ∈ is, i.OffStream id ∨ i.MoreData id) :
    Ordinary id (runSteps Run.step r is)
      ∧ (runSteps Run.step r is).body id
        = r.body id ++ (is.filterMap (Run.Input.dataOn id)).flatMap stored := by
  induction is generalizing r with
  | nil => exact ⟨h, (List.append_nil _).symm⟩
  | cons i is ih =>
      rw [List.forall_mem_cons] at his
      rcases his.1 with hoff | hmore
      · have hnone : i.dataOn id = none := by
          cases i with
          | flush env => rfl
          | frame f env => exact if_neg (fun hdata => (hoff hdata.1).1 hdata.2)
        obtain ⟨hord, hbody⟩ := ih (h.calm (calm_offStream h.sized hoff)) his.2
        refine ⟨hord, ?_⟩
        rw [runSteps_cons, hbody, List.filterMap_cons_none hnone]
        unfold Run.body
        rw [body_offStream h.sized hoff]
      · cases i with
        | flush env => exact absurd hmore (fun h => h)
        | frame f env =>
            obtain ⟨hord, hbody⟩ := ih (h.calm (calm_moreData hmore)) his.2
            obtain ⟨rfl, h0, hend⟩ := hmore
            have hsome : Run.Input.dataOn f.streamId (.frame f env) = some (f, env) :=
              if_pos ⟨rfl, h0⟩
            refine ⟨hord, ?_⟩
            rw [runSteps_cons, hbody, body_moreData h h0 hend, List.filterMap_cons_some hsome,
              List.flatMap_cons, List.append_assoc]

/-- What the last frame hands over. -/
theorem router_mem_lastData (env : Environment) (h : Ordinary f.streamId r) (h0 : f.type = 0x00)
    (hend : f.flags &&& 0x01 ≠ 0) (body : List UInt8) (len : Int32) :
    .router f.streamId body len ∈ dispatchEvents env r.server f
      ↔ (f.payload ≠ [] ∧ env.reallocOk = true) ∧ body = r.body f.streamId ++ f.payload ∧
        len = Int32.ofNat body.length := by
  have hcredit : ∀ n, Event.router f.streamId body len ∉ windowUpdates f.streamId n := by
    intro n hmem
    rcases List.mem_cons.mp hmem with h | h
    · cases h
    · cases List.mem_singleton.mp h
  rw [dispatchEvents_eq, handleFrame_data h0, ← stores_iff h]
  by_cases hstores : Stores env r.server f
  · obtain ⟨-, -, answers, hevents, hanswer⟩ :=
      handleStreamEnd_spec env (appendStreamBody r.server f.streamId f.payload) f.streamId
    have happend : ((appendStreamBody r.server f.streamId f.payload).rest.streams
        f.streamId).bodyData.getD [] = r.body f.streamId ++ f.payload := by
      unfold appendStreamBody
      rw [setRest_streams_self]
      rfl
    have hno : Event.router f.streamId body len ∉ answers := by
      intro hmem
      obtain ⟨c, hc, -⟩ := hanswer _ hmem
      cases hc
    rw [handleData_stores hstores, if_pos hend, List.mem_append, hevents, happend,
      List.mem_cons]
    constructor
    · rintro (hmem | heq | hmem)
      · exact absurd hmem (hcredit _)
      · obtain ⟨-, hbody, hlen⟩ := Event.router.inj heq
        exact ⟨hstores, hbody, by rw [hlen, hbody]⟩
      · exact absurd hmem hno
    · rintro ⟨-, hbody, hlen⟩
      rw [hbody] at hlen
      exact Or.inr (Or.inl (by rw [hbody, hlen]))
  · constructor
    · intro hmem
      exact absurd ((handleData_drops hstores).2 _ hmem) (hcredit _)
    · intro hmem
      exact absurd hmem.1 hstores

end Bodies

/-- The DATA frames of a request, between frames of other streams and passes of the pump. -/
structure UploadFrames (id : Nat) where
  inputs : List Run.Input
  last : Frame
  lastEnv : Environment
  inputs_frames : ∀ i ∈ inputs, i.OffStream id ∨ i.MoreData id
  last_id : last.streamId = id
  last_type : last.type = 0x00
  last_end : last.flags &&& 0x01 ≠ 0

namespace UploadFrames

variable {id : Nat}

/-- The DATA frames in order. -/
def frames (u : UploadFrames id) : List (Frame × Environment) :=
  u.inputs.filterMap (Run.Input.dataOn id) ++ [(u.last, u.lastEnv)]

/-- What they carry. -/
def data (u : UploadFrames id) : List UInt8 := u.frames.flatMap (fun p => p.1.unpadded)

/-- At END_STREAM the router gets the data of the frames as the body, and its length. -/
def HandsOver (u : UploadFrames id) (r : Run) : Prop :=
  ∃ len : Int32, .router id u.data len
      ∈ dispatchEvents u.lastEnv (runSteps Run.step r u.inputs).server u.last ∧
    len.toInt = u.data.length

/-- The condition: no frame is padded, each can be stored, the last one is not empty, and the length
is an `int`. -/
structure Intact (u : UploadFrames id) : Prop where
  frames : ∀ p ∈ u.frames, p.1.payload ≠ [] → p.1.flags &&& 0x08 = 0 ∧ p.2.reallocOk = true
  last : u.last.payload ≠ []
  length : (u.frames.flatMap (fun p => p.1.payload)).length ≤ 2 ^ 31 - 1

theorem ofNat_toInt_eq_iff (n : Nat) : (Int32.ofNat n).toInt = n ↔ n ≤ 2 ^ 31 - 1 := by
  rw [ofNat_eq_ofInt]
  constructor
  · intro h
    have hlt := Int32.toInt_lt (Int32.ofInt n)
    omega
  · intro h
    exact Int32.toInt_ofInt_of_le (by omega) (by omega)

/-- What the last frame hands over is what has been stored. -/
theorem handsOver_iff_stored (u : UploadFrames id) {r : Run} (h : Ordinary id r)
    (hempty : r.body id = []) :
    u.HandsOver r ↔ (u.last.payload ≠ [] ∧ u.lastEnv.reallocOk = true) ∧
      u.data = u.frames.flatMap stored ∧ u.data.length ≤ 2 ^ 31 - 1 := by
  obtain ⟨hord, hbody⟩ := body_run h u.inputs_frames
  have hmem : ∀ body len, .router id body len
        ∈ dispatchEvents u.lastEnv (runSteps Run.step r u.inputs).server u.last
      ↔ (u.last.payload ≠ [] ∧ u.lastEnv.reallocOk = true) ∧
        body = (runSteps Run.step r u.inputs).body id ++ u.last.payload ∧
        len = Int32.ofNat body.length := by
    intro body len
    have hord' : Ordinary u.last.streamId (runSteps Run.step r u.inputs) := by
      rw [u.last_id]
      exact hord
    have hlast := router_mem_lastData u.lastEnv hord' u.last_type u.last_end body len
    rwa [u.last_id] at hlast
  have hstored : u.lastEnv.reallocOk = true →
      (runSteps Run.step r u.inputs).body id ++ u.last.payload = u.frames.flatMap stored := by
    intro hrealloc
    unfold frames
    rw [hbody, hempty, List.nil_append, List.flatMap_append, List.flatMap_singleton]
    unfold stored
    rw [if_pos hrealloc]
  unfold HandsOver
  constructor
  · rintro ⟨len, hin, hlen⟩
    obtain ⟨hlast, hdata, rfl⟩ := (hmem _ _).mp hin
    exact ⟨hlast, hdata.trans (hstored hlast.2), (ofNat_toInt_eq_iff _).mp hlen⟩
  · rintro ⟨hlast, hdata, hlen⟩
    exact ⟨Int32.ofNat u.data.length, (hmem _ _).mpr ⟨hlast, hdata.trans (hstored hlast.2).symm, rfl⟩,
      (ofNat_toInt_eq_iff _).mpr hlen⟩

/-- Parts that are no longer than others, and make up the same whole, are as long. -/
theorem length_eq_of_flatMap_eq {α : Type} {g g' : α → List UInt8} {l : List α}
    (hle : ∀ a ∈ l, (g a).length ≤ (g' a).length) (heq : l.flatMap g = l.flatMap g') :
    ∀ a ∈ l, (g a).length = (g' a).length := by
  have hsum : ∀ l : List α, (∀ a ∈ l, (g a).length ≤ (g' a).length) →
      (l.flatMap g).length ≤ (l.flatMap g').length ∧
        ((l.flatMap g).length = (l.flatMap g').length →
          ∀ a ∈ l, (g a).length = (g' a).length) := by
    intro l
    induction l with
    | nil => exact fun _ => ⟨Nat.le_refl 0, fun _ a ha => nomatch ha⟩
    | cons a l ih =>
        intro hle
        rw [List.forall_mem_cons] at hle
        obtain ⟨hrest, hrestEq⟩ := ih hle.2
        rw [List.flatMap_cons, List.flatMap_cons, List.length_append, List.length_append]
        have hhead := hle.1
        refine ⟨by omega, fun h => ?_⟩
        rw [List.forall_mem_cons]
        exact ⟨by omega, hrestEq (by omega)⟩
  exact (hsum l hle).2 (congrArg List.length heq)

/-- **What body the router gets**: at END_STREAM it is called with the data of all DATA frames in
order, and with their length, if no frame is padded, each frame is stored, the last one is not
empty and the length is an `int`; and as long as no `realloc` fails, only then. -/
theorem handsOver_iff (u : UploadFrames id) (streams : Nat → StreamRest)
    (setup : List Run.Input)
    (hknown : (http2StreamFind (runSteps Run.step (Run.fresh streams) setup).server id).isSome)
    (hplain : ((runSteps Run.step (Run.fresh streams) setup).server.rest.streams id).req.isUpgrade
      = false)
    (hempty : ((runSteps Run.step (Run.fresh streams) setup).server.rest.streams id).bodyData
      = none) :
    (u.Intact → u.HandsOver (runSteps Run.step (Run.fresh streams) setup)) ∧
      ((∀ p ∈ u.frames, p.1.payload ≠ [] → p.2.reallocOk = true) →
        u.HandsOver (runSteps Run.step (Run.fresh streams) setup) → u.Intact) := by
  have hord : Ordinary id (runSteps Run.step (Run.fresh streams) setup) :=
    ⟨sized_run (sized_fresh _) setup, hknown, hplain⟩
  have hbody : (runSteps Run.step (Run.fresh streams) setup).body id = [] := by
    unfold Run.body
    rw [hempty]
    rfl
  rw [u.handsOver_iff_stored hord hbody]
  -- what is stored is each payload as it arrives, padding and all; it is the data of the frames
  -- exactly if no frame is padded, which the lengths show
  have hstoredAll : (∀ p ∈ u.frames, p.1.payload ≠ [] → p.2.reallocOk = true) →
      u.frames.flatMap stored = u.frames.flatMap (fun p => p.1.payload) := by
    intro hrealloc
    apply List.flatMap_congr
    intro p hp
    unfold stored
    by_cases hne : p.1.payload = []
    · rw [hne]
      exact ite_self _
    · rw [if_pos (hrealloc p hp hne)]
  have hlast : (u.last, u.lastEnv) ∈ u.frames := List.mem_append_right _ List.mem_cons_self
  constructor
  · rintro ⟨hframes, hne, hlen⟩
    have hdata : u.data = u.frames.flatMap (fun p => p.1.payload) := by
      apply List.flatMap_congr
      intro p hp
      unfold Frame.unpadded
      by_cases hnil : p.1.payload = []
      · rw [hnil]
        exact ite_self _
      · rw [if_neg (not_not.mpr (hframes p hp hnil).1)]
    refine ⟨⟨hne, (hframes _ hlast hne).2⟩, ?_, ?_⟩
    · rw [hdata, hstoredAll (fun p hp hnil => (hframes p hp hnil).2)]
    · rw [hdata]
      exact hlen
  · rintro hrealloc ⟨⟨hne, -⟩, hdata, hlen⟩
    rw [hstoredAll hrealloc] at hdata
    have hlengths := length_eq_of_flatMap_eq (fun p _ => p.1.unpadded_length.1) hdata
    refine ⟨fun p hp hnil => ⟨?_, hrealloc p hp hnil⟩, hne, ?_⟩
    · exact p.1.unpadded_length.2 (hlengths p hp) hnil
    · rw [← hdata]
      exact hlen

/-- A request on stream 1 whose backend is free, up to its body. -/
def uploadHeaders : List Run.Input :=
  [.frame ⟨0x01, 0x04, 1, [0x83, 0x84], Frame.length_postRoot, Frame.streamId_one⟩ .plain]

/-- An upload with one frame, the last. -/
def upload (flags : UInt8) (payload : List UInt8) (h : payload.length < 2 ^ 24)
    (hend : flags &&& 0x01 ≠ 0) : UploadFrames 1 where
  inputs := []
  last := ⟨0x00, flags, 1, payload, h, Frame.streamId_one⟩
  lastEnv := { Environment.plain with route := .fcgi }
  inputs_frames _ hi := nomatch hi
  last_id := rfl
  last_type := rfl
  last_end := hend

theorem handsOver_upload :
    (upload 0x01 [0x61] (by decide) (by decide)).HandsOver
      (runSteps Run.step (Run.fresh (fun _ => .new .plain)) uploadHeaders) :=
  (handsOver_iff (upload 0x01 [0x61] (by decide) (by decide)) (fun _ => .new .plain) uploadHeaders
    (by decide) (by decide) (by decide)).1
    ⟨by decide, by decide, by decide⟩

/-- One padded frame, with the data `a`. -/
def paddedUpload : UploadFrames 1 := upload 0x09 [0x01, 0x61, 0x00] (by decide) (by decide)

/-- The router gets the length of the padding and the padding with the data. -/
theorem padding_handed_over :
    let r := runSteps Run.step (Run.fresh (fun _ => .new .plain)) uploadHeaders
    paddedUpload.data = [0x61] ∧ ¬ paddedUpload.HandsOver r ∧
      .router 1 [0x01, 0x61, 0x00] 3
        ∈ dispatchEvents paddedUpload.lastEnv r.server paddedUpload.last := by
  intro r
  have hevents : dispatchEvents paddedUpload.lastEnv r.server paddedUpload.last
      = windowUpdates 1 3 ++ [.router 1 [0x01, 0x61, 0x00] 3] := by decide
  have hdata : paddedUpload.data = [0x61] := by decide
  refine ⟨hdata, ?_, ?_⟩
  · rintro ⟨len, hhanded, -⟩
    have hmem : .router 1 paddedUpload.data len
        ∈ dispatchEvents paddedUpload.lastEnv r.server paddedUpload.last := hhanded
    rw [hevents, hdata] at hmem
    rcases List.mem_append.mp hmem with h | h
    · rcases List.mem_cons.mp h with h | h
      · cases h
      · cases List.mem_singleton.mp h
    · cases List.mem_singleton.mp h
  · rw [hevents]
    exact List.mem_append_right _ List.mem_cons_self

end UploadFrames

end Halmos.Http2
