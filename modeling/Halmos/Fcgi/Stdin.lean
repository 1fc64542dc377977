import Halmos.Basic.Runs
import Halmos.Fcgi.Grammar
import Halmos.Fcgi.StreamEnd

set_option autoImplicit false

/-! # STDIN

A request body goes to the backend as a sequence of STDIN records and an empty one at its end
(`IsStdin`). `fcgi_session_http2_step` sends the header of a record and its content with two calls of
`send` and does not go on behind what a call took. If every call takes everything or nothing, the
backend gets exactly the body (`stdin_received`).
-/

namespace Halmos.Fcgi

open Http2

/-! ## A stream of records -/

/-- A STDIN record. -/
def stdinRecord (content padding : List UInt8) (hcontent : content.length < 2 ^ 16)
    (hpadding : padding.length < 2 ^ 8) : Record where
  type := 5
  content := content
  padding := padding
  content_lt := hcontent
  padding_lt := hpadding

/-- The bytes are STDIN records that are not empty and carry the data. -/
def Carries (requestId : Nat) (data bytes : List UInt8) : Prop :=
  ∃ rs : List Record, (∀ r ∈ rs, r.type = 5 ∧ r.content ≠ []) ∧ rs.flatMap Record.content = data ∧
    bytes = rs.flatMap (Record.encode requestId)

/-- The bytes are STDIN records that carry the body, and an empty STDIN record. -/
def IsStdin (requestId : Nat) (body bytes : List UInt8) : Prop :=
  ∃ sent, Carries requestId body sent ∧ bytes = sent ++ stdinEof requestId

section Carries

variable {requestId : Nat} {data bytes : List UInt8}

theorem carries_nil : Carries requestId [] [] := by
  refine ⟨[], ?_, rfl, rfl⟩
  intro r hr
  cases hr

/-- One more record. -/
theorem Carries.snoc (h : Carries requestId data bytes) {r : Record} (htype : r.type = 5)
    (hne : r.content ≠ []) :
    Carries requestId (data ++ r.content) (bytes ++ r.encode requestId) := by
  obtain ⟨rs, hrs, rfl, rfl⟩ := h
  refine ⟨rs ++ [r], ?_, ?_, ?_⟩
  · intro q hq
    rcases List.mem_append.mp hq with hq | hq
    · exact hrs q hq
    · rw [List.mem_singleton.mp hq]
      exact ⟨htype, hne⟩
  · rw [List.flatMap_append, List.flatMap_singleton]
  · rw [List.flatMap_append, List.flatMap_singleton]

/-- An application reads the body in pieces, and its end. -/
theorem IsStdin.decodes (h : IsStdin requestId data bytes) :
    ∃ pieces : List (List UInt8), pieces.flatten = data ∧
      parseRecords bytes.length bytes
        = some ((pieces ++ [[]]).map (fun piece => ⟨5, requestId % 65536, piece⟩)) := by
  obtain ⟨sent, ⟨rs, hrs, rfl, rfl⟩, rfl⟩ := h
  have heof : stdinEof requestId = (stdinRecord [] [] (by decide) (by decide)).encode requestId := rfl
  have hbytes : rs.flatMap (Record.encode requestId) ++ stdinEof requestId
      = (rs ++ [stdinRecord [] [] (by decide) (by decide)]).flatMap (Record.encode requestId) := by
    rw [List.flatMap_append, List.flatMap_singleton, heof]
  refine ⟨rs.map Record.content, ?_, ?_⟩
  · rw [List.flatMap_def]
  · rw [hbytes, parseRecords_encode, List.map_append, List.map_append, List.map_map]
    · congr 2
      apply List.map_congr_left
      intro r hr
      show Record.parsed requestId r = ⟨5, requestId % 65536, r.content⟩
      rw [Record.parsed, (hrs r hr).1]
    · generalize rs ++ [stdinRecord [] [] (by decide) (by decide)] = all
      induction all with
      | nil => exact Nat.le_refl 0
      | cons r all ih =>
          have hlen := encode_length requestId r
          rw [List.flatMap_cons, List.length_append, List.length_cons]
          omega

/-- The body and its end take at least eight bytes for each of both. -/
theorem IsStdin.length_le (h : IsStdin requestId data bytes) :
    data.length + 8 ≤ bytes.length ∧ (data ≠ [] → data.length + 16 ≤ bytes.length) := by
  obtain ⟨sent, ⟨rs, -, rfl, rfl⟩, rfl⟩ := h
  have hle : (rs.flatMap Record.content).length + 8 * rs.length
      ≤ (rs.flatMap (Record.encode requestId)).length := by
    induction rs with
    | nil => exact Nat.le_refl 0
    | cons r rs ih =>
        have hlen := encode_length requestId r
        rw [List.flatMap_cons, List.flatMap_cons, List.length_append, List.length_append,
          List.length_cons]
        omega
  have heof : (stdinEof requestId).length = 8 := rfl
  rw [List.length_append, heof]
  refine ⟨by omega, ?_⟩
  intro hne
  have hpos : 0 < rs.length := by
    rw [List.length_pos_iff]
    rintro rfl
    exact hne rfl
  omega

end Carries

/-! ## The exchange of a stream -/

/-- A stream and what its backend has received. -/
structure Exchange where
  stream : FcgiStream
  received : List UInt8

/-- One step of the exchange. -/
def Exchange.step (e : Exchange) (i : StepInput) : Exchange :=
  let r := fcgiSessionHttp2Step e.stream i
  ⟨r.stream, e.received ++ r.toBackend⟩

/-- The header of the next STDIN record. -/
def chunkHeader (s : FcgiStream) : List UInt8 :=
  let chunkSize := min (s.contentLength.toNat - s.stdinSent) 8192
  [1, 5, byteAt s.streamId 8, byteAt s.streamId 0, byteAt chunkSize 8, byteAt chunkSize 0, 0, 0]

/-- Its content. -/
def chunkData (s : FcgiStream) : List UInt8 :=
  ((s.bodyData.getD []).drop s.stdinSent).take (min (s.contentLength.toNat - s.stdinSent) 8192)

/-- The calls take the whole record, and the empty record behind the last one. -/
def TakesAll (s : FcgiStream) (i : StepInput) : Prop :=
  i.send.taken (chunkHeader s) = chunkHeader s ∧ i.sendBody.taken (chunkData s) = chunkData s ∧
    (s.contentLength.toNat ≤ s.stdinSent + 8192 →
      i.sendEof.taken (stdinEof s.streamId) = stdinEof s.streamId)

/-- The calls take nothing. -/
def TakesNone (s : FcgiStream) (i : StepInput) : Prop :=
  i.send.taken (chunkHeader s) = [] ∧ i.sendBody.taken (chunkData s) = []

/-- The connection is lost. -/
def SendFails (i : StepInput) : Prop :=
  i.sendBody = .failed ∨ (i.send = .failed ∧ i.sendBody ≠ .wouldBlock)

/-- In `case 2`, the calls take a record as a whole or not at all, or the exchange fails. -/
def Exchange.Whole (e : Exchange) (i : StepInput) : Prop :=
  e.stream.fcgiState = 2 → i.pollOut = true →
    TakesAll e.stream i ∨ TakesNone e.stream i ∨ SendFails i

/-- What the backend has received of the request, with the body `body`. -/
structure Exchange.Sending (body : List UInt8) (e : Exchange) : Prop where
  body_eq : e.stream.bodyData = some body
  length_eq : e.stream.contentLength = body.length
  first : e.stream.fcgiState = 0 → e.stream.stdinSent = 0 ∧ e.received = []
  params : e.stream.fcgiState = 1 → e.stream.stdinSent = 0 ∧
    e.stream.gSent ≤ e.stream.gatherBuf.length ∧
    e.received = e.stream.gatherBuf.take e.stream.gSent
  stdin : e.stream.fcgiState = 2 → e.stream.stdinSent < body.length ∧
    ∃ sent, Carries e.stream.streamId (body.take e.stream.stdinSent) sent ∧
      e.received = e.stream.gatherBuf ++ sent

section Exchange

variable {body : List UInt8} {e : Exchange} {i : StepInput}

/-- `case 1` goes on behind what `send` took, to `case 2` behind the last of it. -/
theorem sending_advance {s : FcgiStream} {received out : List UInt8} (hbody : s.bodyData = some body)
    (hlen : s.contentLength = body.length) (hzero : s.stdinSent = 0)
    (hle : s.gSent + out.length ≤ s.gatherBuf.length)
    (htake : received ++ out = s.gatherBuf.take (s.gSent + out.length)) :
    Exchange.Sending body
      ⟨{ s with
          gSent := s.gSent + out.length
          fcgiState := if 0 < out.length ∧ s.gatherBuf.length ≤ s.gSent + out.length then
            (if 0 < s.contentLength ∧ s.bodyData.isSome then 2 else 3) else 1 },
        received ++ out⟩ := by
  -- `case 2` starts with nothing of the body sent, so `Carries` starts from the empty list
  by_cases hdone : 0 < out.length ∧ s.gatherBuf.length ≤ s.gSent + out.length
  · have hall : received ++ out = s.gatherBuf := by
      rw [htake, List.take_of_length_le hdone.2]
    rw [if_pos hdone]
    by_cases hnext : 0 < s.contentLength ∧ s.bodyData.isSome = true
    · rw [if_pos hnext]
      refine ⟨hbody, hlen, ?_, ?_, ?_⟩
      · intro h
        cases h
      · intro h
        cases h
      · intro _
        refine ⟨?_, [], ?_, ?_⟩
        · show s.stdinSent < body.length
          have hpos := hnext.1
          rw [hlen] at hpos
          omega
        · show Carries s.streamId (body.take s.stdinSent) []
          rw [hzero, List.take_zero]
          exact carries_nil
        · show received ++ out = s.gatherBuf ++ []
          rw [hall, List.append_nil]
    · rw [if_neg hnext]
      refine ⟨hbody, hlen, ?_, ?_, ?_⟩
      · intro h
        cases h
      · intro h
        cases h
      · intro h
        cases h
  · rw [if_neg hdone]
    refine ⟨hbody, hlen, ?_, ?_, ?_⟩
    · intro h
      cases h
    · exact fun _ => ⟨hzero, hle, htake⟩
    · intro h
      cases h

theorem sending_paramsStep {s : FcgiStream} {received : List UInt8} (hbody : s.bodyData = some body)
    (hlen : s.contentLength = body.length) (hstate : s.fcgiState = 1) (hzero : s.stdinSent = 0)
    (hle : s.gSent ≤ s.gatherBuf.length) (hreceived : received = s.gatherBuf.take s.gSent) :
    Exchange.Sending body ⟨(paramsStep i s).stream, received ++ (paramsStep i s).toBackend⟩ := by
  have hstay : Exchange.Sending body ⟨s, received ++ []⟩ := by
    rw [List.append_nil]
    refine ⟨hbody, hlen, ?_, fun _ => ⟨hzero, hle, hreceived⟩, ?_⟩
    · intro h
      rw [hstate] at h
      cases h
    · intro h
      rw [hstate] at h
      cases h
  unfold paramsStep
  by_cases hout : i.pollOut = true
  · rw [if_pos hout]
    dsimp only
    cases hsend : i.send with
    | wouldBlock => exact hstay
    | failed =>
        refine ⟨hbody, hlen, ?_, ?_, ?_⟩
        · intro h
          cases h
        · intro h
          cases h
        · intro h
          cases h
    | sent n =>
        have hpart : (SendResult.sent n).taken (s.gatherBuf.drop s.gSent)
            <+: s.gatherBuf.drop s.gSent := List.take_prefix _ _
        have hshort := hpart.length_le
        rw [List.length_drop] at hshort
        apply sending_advance hbody hlen hzero
        · omega
        · rw [hreceived, List.take_add]
          congr 1
          exact List.prefix_iff_eq_take.mp hpart
  · rw [if_neg hout]
    exact hstay

/-- A stream with a record to send, and the bytes it has sent. -/
theorem Exchange.Sending.chunk {s : FcgiStream} {received : List UInt8}
    (h : Exchange.Sending body ⟨s, received⟩) (hstate : s.fcgiState = 2) :
    ∃ r : Record, r.type = 5 ∧ r.content = chunkData s ∧ r.content ≠ [] ∧
      chunkHeader s ++ chunkData s = r.encode s.streamId ∧
      body.take (s.stdinSent + min (s.contentLength.toNat - s.stdinSent) 8192)
        = body.take s.stdinSent ++ r.content := by
  have hbody : s.bodyData = some body := h.body_eq
  have hcontent : s.contentLength.toNat = body.length := by
    rw [show s.contentLength = body.length from h.length_eq, Int.toNat_natCast]
  have hlt := (h.stdin hstate).1
  have hchunk : chunkData s
      = (body.drop s.stdinSent).take (min (s.contentLength.toNat - s.stdinSent) 8192) := by
    rw [chunkData, hbody, Option.getD_some]
  have hsize : (chunkData s).length = min (s.contentLength.toNat - s.stdinSent) 8192 := by
    rw [hchunk, hcontent, List.length_take, List.length_drop]
    omega
  have hlt' : s.stdinSent < body.length := hlt
  refine ⟨stdinRecord (chunkData s) [] (by omega) (by decide), rfl, rfl, ?_, ?_, ?_⟩
  · show chunkData s ≠ []
    rw [← List.length_pos_iff, hsize]
    omega
  · show _ = _ ++ (chunkData s ++ [])
    rw [List.append_nil]
    congr 1
    have hpad : byteAt 0 0 = 0 := by decide
    show _ = [1, 5, byteAt s.streamId 8, byteAt s.streamId 0, byteAt (chunkData s).length 8,
      byteAt (chunkData s).length 0, byteAt 0 0, 0]
    rw [hsize, hpad]
    rfl
  · show _ = _ ++ chunkData s
    rw [hchunk, List.take_add]

/-- The stream stays as it is, and so does what the backend has. -/
theorem sending_stdinStep_none {s : FcgiStream} {received : List UInt8}
    (h : Exchange.Sending body ⟨s, received⟩) (hstate : s.fcgiState = 2) (hout : i.pollOut = true)
    (hnone : TakesNone s i) (hfails : ¬ SendFails i) :
    (stdinStep i s).stream = s ∧ (stdinStep i s).toBackend = [] := by
  obtain ⟨r, -, hr, hne, -, -⟩ := h.chunk hstate
  obtain ⟨hnone₁, hnone₂⟩ := hnone
  have hlt : s.stdinSent < s.contentLength.toNat := by
    have hlt := (h.stdin hstate).1
    rw [show s.contentLength = body.length from h.length_eq]
    exact hlt
  have hout₂ : i.send.taken (chunkHeader s) ++ i.sendBody.taken (chunkData s) = [] := by
    rw [hnone₁, hnone₂]
    rfl
  unfold stdinStep
  rw [if_pos hout, if_pos hlt]
  dsimp only
  -- the source goes on after a failed `send` of the header only where the second `send` would
  -- block; `SendFails` names the other failures
  cases hsend : i.send with
  | sent n =>
      rw [hsend] at hnone₁ hout₂
      cases hsendBody : i.sendBody with
      | sent m =>
          have hzero : ¬ (0 < n ∧ 0 < m) := by
            rintro ⟨hn, -⟩
            have hlen := congrArg List.length hnone₁
            rw [SendResult.taken, List.length_take] at hlen
            have h8 : (chunkHeader s).length = 8 := rfl
            rw [h8, List.length_nil] at hlen
            omega
          rw [hsendBody] at hout₂
          dsimp only
          rw [if_neg hzero]
          unfold stdinEnd
          rw [if_neg (by show ¬ s.contentLength.toNat ≤ s.stdinSent; omega)]
          exact ⟨rfl, hout₂⟩
      | wouldBlock =>
          rw [hsendBody] at hout₂
          exact ⟨rfl, hout₂⟩
      | failed => exact absurd (Or.inl hsendBody) hfails
  | wouldBlock =>
      rw [hsend] at hout₂
      cases hsendBody : i.sendBody with
      | sent m =>
          rw [hsendBody] at hout₂
          exact ⟨rfl, hout₂⟩
      | wouldBlock => exact ⟨rfl, rfl⟩
      | failed => exact absurd (Or.inl hsendBody) hfails
  | failed =>
      cases hsendBody : i.sendBody with
      | sent m =>
          have hblock : i.sendBody ≠ .wouldBlock := by
            rw [hsendBody]
            intro heq
            cases heq
          exact absurd (Or.inr ⟨hsend, hblock⟩) hfails
      | wouldBlock => exact ⟨rfl, rfl⟩
      | failed => exact absurd (Or.inl hsendBody) hfails

/-- A call that takes something returns how much. -/
theorem sent_of_taken {r : SendResult} {data : List UInt8} (h : r.taken data = data)
    (hne : data ≠ []) : ∃ n, r = .sent n ∧ 0 < n := by
  cases r with
  | sent n =>
      refine ⟨n, rfl, ?_⟩
      rw [Nat.pos_iff_ne_zero]
      rintro rfl
      exact hne h.symm
  | wouldBlock => exact absurd h.symm hne
  | failed => exact absurd h.symm hne

/-- The record is out, and the next one begins behind it. -/
theorem sending_stdinStep_all {s : FcgiStream} {received : List UInt8}
    (h : Exchange.Sending body ⟨s, received⟩) (hstate : s.fcgiState = 2) (hout : i.pollOut = true)
    (hall : TakesAll s i) :
    stdinStep i s = stdinEnd i (chunkHeader s ++ chunkData s)
      { s with stdinSent := s.stdinSent + min (s.contentLength.toNat - s.stdinSent) 8192 } := by
  obtain ⟨r, -, hr, hne, -, -⟩ := h.chunk hstate
  rw [hr] at hne
  obtain ⟨hall₁, hall₂, -⟩ := hall
  obtain ⟨n, hsend, hn⟩ := sent_of_taken hall₁ (by intro heq; cases heq)
  obtain ⟨m, hsendBody, hm⟩ := sent_of_taken hall₂ hne
  have hlt : s.stdinSent < s.contentLength.toNat := by
    have hlt := (h.stdin hstate).1
    rw [show s.contentLength = body.length from h.length_eq]
    exact hlt
  have hout₂ : i.send.taken (chunkHeader s) ++ i.sendBody.taken (chunkData s)
      = chunkHeader s ++ chunkData s := by
    rw [hall₁, hall₂]
  rw [hsend, hsendBody] at hout₂
  unfold stdinStep
  rw [if_pos hout, if_pos hlt, hsend, hsendBody]
  dsimp only
  rw [if_pos ⟨hn, hm⟩]
  congr 1

/-- The last record is out, and the empty one behind it. -/
def Exchange.Finished (body : List UInt8) (e : Exchange) : Prop :=
  ∃ stdin, IsStdin e.stream.streamId body stdin ∧ e.received = e.stream.gatherBuf ++ stdin

theorem sending_record {s : FcgiStream} {received : List UInt8}
    (h : Exchange.Sending body ⟨s, received⟩) (hstate : s.fcgiState = 2) (hout : i.pollOut = true)
    (hall : TakesAll s i) :
    Exchange.Sending body ⟨(stdinStep i s).stream, received ++ (stdinStep i s).toBackend⟩ ∧
      ((stdinStep i s).stream.fcgiState = 3 →
        Exchange.Finished body ⟨(stdinStep i s).stream, received ++ (stdinStep i s).toBackend⟩) := by
  have hbody : s.bodyData = some body := h.body_eq
  have hlen : s.contentLength = body.length := h.length_eq
  have hcontent : s.contentLength.toNat = body.length := by
    rw [hlen, Int.toNat_natCast]
  obtain ⟨r, htype, hr, hne, hencode, htake⟩ := h.chunk hstate
  obtain ⟨hlt, sent, hsent, hreceived⟩ := h.stdin hstate
  have hlt' : s.stdinSent < body.length := hlt
  have hreceived' : received = s.gatherBuf ++ sent := hreceived
  have hcarries : Carries s.streamId
      (body.take (s.stdinSent + min (s.contentLength.toNat - s.stdinSent) 8192))
      (sent ++ r.encode s.streamId) := by
    rw [htake]
    exact Carries.snoc hsent htype hne
  rw [sending_stdinStep_all h hstate hout hall, hencode]
  unfold stdinEnd
  by_cases hend : s.contentLength.toNat
      ≤ s.stdinSent + min (s.contentLength.toNat - s.stdinSent) 8192
  · -- The body is out: the empty record follows.
    have heof := hall.2.2 (by omega)
    rw [if_pos hend]
    refine ⟨⟨hbody, hlen, ?_, ?_, ?_⟩, ?_⟩
    · intro h0
      cases h0
    · intro h1
      cases h1
    · intro h2
      cases h2
    · intro _
      refine ⟨sent ++ r.encode s.streamId ++ stdinEof s.streamId, ⟨_, ?_, rfl⟩, ?_⟩
      · rw [List.take_of_length_le (by omega)] at hcarries
        exact hcarries
      · show received ++ (r.encode s.streamId ++ i.sendEof.taken (stdinEof s.streamId))
          = s.gatherBuf ++ (sent ++ r.encode s.streamId ++ stdinEof s.streamId)
        rw [heof, hreceived']
        simp only [List.append_assoc]
  · rw [if_neg hend]
    refine ⟨⟨hbody, hlen, ?_, ?_, ?_⟩, ?_⟩
    · intro h0
      exact absurd (hstate.symm.trans h0) (by decide)
    · intro h1
      exact absurd (hstate.symm.trans h1) (by decide)
    · intro _
      refine ⟨?_, sent ++ r.encode s.streamId, hcarries, ?_⟩
      · show s.stdinSent + min (s.contentLength.toNat - s.stdinSent) 8192 < body.length
        omega
      · show received ++ r.encode s.streamId = s.gatherBuf ++ (sent ++ r.encode s.streamId)
        rw [hreceived', List.append_assoc]
    · intro h3
      exact absurd (hstate.symm.trans h3) (by decide)

/-- The exchange ends with an error. -/
theorem stdinStep_of_fails {s : FcgiStream} (hstate : s.stdinSent < s.contentLength.toNat)
    (hout : i.pollOut = true) (hfails : SendFails i) :
    (stdinStep i s).stream = { s with fcgiState := 5 } := by
  unfold stdinStep
  rw [if_pos hout, if_pos hstate]
  dsimp only
  rcases hfails with hfails | ⟨hfails, hblock⟩
  · rw [hfails]
    cases i.send <;> rfl
  · rw [hfails]
    cases hsendBody : i.sendBody with
    | sent m => rfl
    | wouldBlock => exact absurd hsendBody hblock
    | failed => rfl

/-- `case 2` sends the next record, or all of it is sent. -/
theorem sending_stdinStep {s : FcgiStream} {received : List UInt8}
    (h : Exchange.Sending body ⟨s, received⟩) (hstate : s.fcgiState = 2)
    (hwhole : Exchange.Whole ⟨s, received⟩ i) :
    Exchange.Sending body ⟨(stdinStep i s).stream, received ++ (stdinStep i s).toBackend⟩ ∧
      ((stdinStep i s).stream.fcgiState = 3 →
        Exchange.Finished body ⟨(stdinStep i s).stream, received ++ (stdinStep i s).toBackend⟩) := by
  have hstay : Exchange.Sending body ⟨s, received ++ []⟩ ∧
      (s.fcgiState = 3 → Exchange.Finished body ⟨s, received ++ []⟩) := by
    rw [List.append_nil]
    refine ⟨h, ?_⟩
    intro h3
    exact absurd (hstate.symm.trans h3) (by decide)
  by_cases hout : i.pollOut = true
  · by_cases hfails : SendFails i
    · have hlt : s.stdinSent < s.contentLength.toNat := by
        have hlt := (h.stdin hstate).1
        rw [show s.contentLength = body.length from h.length_eq]
        exact hlt
      rw [stdinStep_of_fails hlt hout hfails]
      refine ⟨⟨h.body_eq, h.length_eq, ?_, ?_, ?_⟩, ?_⟩
      · intro h0
        cases h0
      · intro h1
        cases h1
      · intro h2
        cases h2
      · intro h3
        cases h3
    · rcases hwhole hstate hout with hall | hnone | hfails'
      · exact sending_record h hstate hout hall
      · obtain ⟨hstream, hback⟩ := sending_stdinStep_none h hstate hout hnone hfails
        rw [hstream, hback]
        exact hstay
      · exact absurd hfails' hfails
  · have hoff : stdinStep i s = ⟨.continue, [], [], s⟩ := by
      unfold stdinStep
      rw [if_neg hout]
    rw [hoff]
    exact hstay

/-- `case 3` leaves the request alone. -/
theorem receiveStep_request (s : FcgiStream) (i : StepInput) :
    (receiveStep i s).stream.bodyData = s.bodyData ∧
      (receiveStep i s).stream.contentLength = s.contentLength ∧
      ((receiveStep i s).stream.fcgiState = s.fcgiState ∨
        (receiveStep i s).stream.fcgiState = 4) := by
  have hstay : s.bodyData = s.bodyData ∧ s.contentLength = s.contentLength ∧
      (s.fcgiState = s.fcgiState ∨ s.fcgiState = 4) := ⟨rfl, rfl, Or.inl rfl⟩
  unfold receiveStep
  split
  · cases i.recv with
    | data chunk =>
        dsimp only
        unfold delimStep
        split
        · exact ⟨rfl, rfl, Or.inr rfl⟩
        · exact hstay
    | wouldBlock => exact hstay
    | failed => exact hstay
    | eof => exact hstay
  · exact hstay

/-- A step of the exchange. -/
theorem sending_step (h : e.Sending body) (hwhole : e.Whole i) :
    (e.step i).Sending body ∧
      (e.stream.fcgiState = 2 → (e.step i).stream.fcgiState = 3 → (e.step i).Finished body) := by
  obtain ⟨s, received⟩ := e
  have hstay : Exchange.Sending body ⟨s, received ++ []⟩ := by
    rw [List.append_nil]
    exact h
  unfold Exchange.step fcgiSessionHttp2Step
  dsimp only
  by_cases hactive : s.isFcgiActive = false
  · rw [if_pos hactive]
    refine ⟨hstay, ?_⟩
    intro h2 h3
    exact absurd (h2.symm.trans h3) (by decide)
  · rw [if_neg hactive]
    match hstate : s.fcgiState with
    | 0 =>
        obtain ⟨hzero, hreceived⟩ := h.first hstate
        refine ⟨?_, fun h2 => by cases h2⟩
        apply sending_paramsStep (s := initStep i.params s) h.body_eq h.length_eq rfl hzero
        · exact Nat.zero_le _
        · exact hreceived
    | 1 =>
        obtain ⟨hzero, hle, hreceived⟩ := h.params hstate
        exact ⟨sending_paramsStep h.body_eq h.length_eq hstate hzero hle hreceived,
          fun h2 => by cases h2⟩
    | 2 =>
        obtain ⟨hsending, hfinished⟩ := sending_stdinStep h hstate hwhole
        exact ⟨hsending, fun _ => hfinished⟩
    | 3 =>
        obtain ⟨hbody, hlen, h3⟩ := receiveStep_request s i
        refine ⟨?_, fun h2 => by cases h2⟩
        rw [hstate] at h3
        refine ⟨hbody.trans h.body_eq, hlen.trans h.length_eq, ?_, ?_, ?_⟩
        · intro h0
          exact absurd (h0 ▸ h3) (by decide)
        · intro h1
          exact absurd (h1 ▸ h3) (by decide)
        · intro h2
          exact absurd (h2 ▸ h3) (by decide)
    | n + 4 =>
        refine ⟨hstay, fun h2 => by cases h2⟩

theorem sending_run {is : List StepInput} (h : e.Sending body)
    (hrun : GuardedRun Exchange.Whole Exchange.step e is) :
    (runSteps Exchange.step e is).Sending body := by
  apply GuardedRun.invariant _ h hrun
  intro e i h hwhole
  exact (sending_step h hwhole).1

end Exchange

/-- **The body arrives.** If the calls take every record as a whole or not at all, the backend has
received the parameters and the body, and nothing else, when the exchange goes on to receive. -/
theorem stdin_received {s : FcgiStream} {body : List UInt8} {is : List StepInput} {i : StepInput}
    (hbody : s.bodyData = some body) (hlen : s.contentLength = body.length)
    (hrun : GuardedRun Exchange.Whole Exchange.step ⟨routeFastcgiBackend s, []⟩ (is ++ [i]))
    (hbefore : (runSteps Exchange.step ⟨routeFastcgiBackend s, []⟩ is).stream.fcgiState = 2)
    (hafter : (runSteps Exchange.step ⟨routeFastcgiBackend s, []⟩ (is ++ [i])).stream.fcgiState = 3) :
    (runSteps Exchange.step ⟨routeFastcgiBackend s, []⟩ (is ++ [i])).Finished body := by
  have hstart : Exchange.Sending body ⟨routeFastcgiBackend s, []⟩ := by
    refine ⟨hbody, hlen, fun _ => ⟨rfl, rfl⟩, ?_, ?_⟩
    · intro h1
      cases h1
    · intro h2
      cases h2
  rw [guardedRun_append] at hrun
  rw [runSteps_append] at hafter ⊢
  exact (sending_step (sending_run hstart hrun.1) hrun.2.1).2 hbefore hafter

/-! ## Congested backends -/

/-- A stream with a body of one byte. -/
def oneByteStream : FcgiStream where
  streamId := 1
  state := .halfClosedRemote
  contentLength := 1
  bodyData := some [7]
  isFcgiActive := false
  fcgiState := 0
  gatherBuf := []
  gSent := 0
  stdinSent := 0
  headerText := []
  headerSent := false

/-- A visit on which `send` takes everything. -/
def freeInput : StepInput where
  pollOut := true
  pollIn := false
  params := []
  send := .sent 100000
  sendBody := .sent 100000
  sendEof := .sent 8
  recv := .wouldBlock

/-- A visit on which the buffer of the socket has room for the header of a record. -/
def fullInput : StepInput := { freeInput with send := .sent 8, sendBody := .wouldBlock }

theorem stdin_received_oneByte :
    ∃ e : Exchange, e.stream.fcgiState = 3 ∧ Exchange.Finished [7] e := by
  refine ⟨runSteps Exchange.step ⟨routeFastcgiBackend oneByteStream, []⟩ ([freeInput] ++ [freeInput]),
    rfl, ?_⟩
  apply stdin_received rfl rfl _ rfl rfl
  refine ⟨?_, ?_, trivial⟩
  · intro h2
    cases h2
  · intro _ _
    refine Or.inl ⟨rfl, rfl, fun _ => rfl⟩

/-- The header of a record goes out twice when its content does not fit behind it. -/
theorem stdin_repeated :
    ∃ (s : FcgiStream) (body : List UInt8) (is : List StepInput) (i : StepInput),
      s.bodyData = some body ∧ s.contentLength = body.length ∧
      (runSteps Exchange.step ⟨routeFastcgiBackend s, []⟩ is).stream.fcgiState = 2 ∧
      (runSteps Exchange.step ⟨routeFastcgiBackend s, []⟩ (is ++ [i])).stream.fcgiState = 3 ∧
      ¬ (runSteps Exchange.step ⟨routeFastcgiBackend s, []⟩ (is ++ [i])).Finished body := by
  refine ⟨oneByteStream, [7], [freeInput, fullInput], freeInput, rfl, rfl, rfl, rfl, ?_⟩
  rintro ⟨stdin, hstdin, hreceived⟩
  -- The second header reads as the content of the first one.
  have hreceived' : beginRequest 1
      ++ [1, 5, 0, 1, 0, 1, 0, 0, 1, 5, 0, 1, 0, 1, 0, 0, 7, 1, 5, 0, 1, 0, 0, 0, 0]
      = beginRequest 1 ++ stdin := hreceived
  have hbytes := (List.append_cancel_left hreceived').symm
  obtain ⟨pieces, -, hparse⟩ := hstdin.decodes
  rw [hbytes] at hparse
  have hnone : parseRecords 25
      [1, 5, 0, 1, 0, 1, 0, 0, 1, 5, 0, 1, 0, 1, 0, 0, 7, 1, 5, 0, 1, 0, 0, 0, 0] = none := by decide
  exact absurd (hnone.symm.trans hparse) (by simp)

end Halmos.Fcgi
