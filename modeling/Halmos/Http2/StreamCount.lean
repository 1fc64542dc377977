import Halmos.Http2.RouterCalls

set_option autoImplicit false

/-! # The number of streams

`http2_stream_get_or_create` puts a record for each new stream into the table of the session and
counts it in `active_stream_count`. No other function touches the counter, and no record leaves the
table before the session ends, however its stream has ended. The session therefore keeps what its
SETTINGS promise only as long as no stream ends and no more than a hundred are opened
(`census_bounded_iff`).
-/

namespace Halmos.Http2

/-! ## The records -/

/-- The stream records of the session. -/
def records (s : Server) : List HTTP2Stream := s.streamsHash.flatten

/-- The value of `MAX_CONCURRENT_STREAMS` in the SETTINGS of the server. -/
def maxConcurrentStreams : Nat := 100

/-- `active_stream_count` behind `http2_stream_get_or_create`. -/
def countBehindGetOrCreate (env : Environment) (s : Server) (id : Nat) (count : UInt32) : UInt32 :=
  match lookupStream s id with
  | some _ => count
  | none => if env.callocOk then count + 1 else count

/-- `active_stream_count` behind a step; only HEADERS calls `http2_stream_get_or_create`. -/
def Run.Input.countBehind (s : Server) (count : UInt32) : Run.Input → UInt32
  | .frame f env =>
      if f.type = 0x01 ∧ f.streamId ≠ 0 then countBehindGetOrCreate env s f.streamId count else count
  | .flush _ => count

/-- The stream ends: RST_STREAM comes for it, or RST_STREAM or END_STREAM is sent on it. -/
def Traced.Ends (id : Nat) : Traced → Prop
  | .received f => f.streamId = id ∧ f.type = 0x03
  | .did (.router _ _ _) => False
  | .did (.sent c) =>
      c.streamId = id ∧ (c.type = 0x03 ∨ (c.type = 0x00 ∨ c.type = 0x01) ∧ c.flags &&& 0x01 ≠ 0)

instance (id : Nat) : (x : Traced) → Decidable (x.Ends id)
  | .received _ => inferInstanceAs (Decidable (_ ∧ _))
  | .did (.router _ _ _) => inferInstanceAs (Decidable False)
  | .did (.sent _) => inferInstanceAs (Decidable (_ ∧ (_ ∨ _)))

/-- A session with its counter, and the streams that have ended while they had a record. -/
structure Census where
  run : Run
  activeStreamCount : UInt32
  ended : List Nat

/-- What a step adds to the trace. -/
def Run.added (r : Run) (i : Run.Input) : List Traced := (r.step i).trace.drop r.trace.length

/-- The streams with a record that end in a step. -/
def Run.endings (r : Run) (i : Run.Input) : List Nat :=
  ((records (r.step i).server).map HTTP2Stream.streamId).filter
    (fun id => ∃ x ∈ r.added i, x.Ends id)

def Census.step (c : Census) (i : Run.Input) : Census where
  run := c.run.step i
  activeStreamCount := i.countBehind c.run.server c.activeStreamCount
  ended := c.ended ++ c.run.endings i

/-- A new session; `calloc` has set the counter to zero. -/
def Census.fresh (streams : Nat → StreamRest) : Census := ⟨.fresh streams, 0, []⟩

/-- The records of the streams that have not ended. -/
def Census.unfinished (c : Census) : List HTTP2Stream :=
  (records c.run.server).filter (fun st => st.streamId ∉ c.ended)

/-- The promise of the session: no more than a hundred streams that have not ended, the counter is
their number, and the others are gone. -/
structure Census.Bounded (c : Census) : Prop where
  unfinished_le : c.unfinished.length ≤ maxConcurrentStreams
  count_eq : c.activeStreamCount.toNat = c.unfinished.length
  released : ∀ st ∈ records c.run.server, st.streamId ∉ c.ended

/-- The frame opens a stream. -/
def Run.Input.Opens (s : Server) : Run.Input → Prop
  | .frame f env => f.type = 0x01 ∧ f.streamId ≠ 0 ∧ lookupStream s f.streamId = none
      ∧ env.callocOk = true
  | .flush _ => False

instance (s : Server) : (i : Run.Input) → Decidable (i.Opens s)
  | .frame f env => inferInstanceAs (Decidable
      (f.type = 0x01 ∧ f.streamId ≠ 0 ∧ lookupStream s f.streamId = none ∧ env.callocOk = true))
  | .flush _ => inferInstanceAs (Decidable False)

/-- A step that opens a stream finds less than a hundred records, and no stream ends in it. -/
structure Census.Lasting (c : Census) (i : Run.Input) : Prop where
  room : i.Opens c.run.server → (records c.run.server).length < maxConcurrentStreams
  goes_on : ∀ st ∈ records (c.run.step i).server, ∀ x ∈ c.run.added i, ¬ x.Ends st.streamId

/-! ## What the handlers do to the number of records -/

section Records

variable {env : Environment} {s : Server} {id : Nat} {f : Frame}

theorem length_updateFirst (id : Nat) (f : HTTP2Stream → HTTP2Stream) (chain : List HTTP2Stream) :
    (updateFirst id f chain).length = chain.length := by
  induction chain with
  | nil => rfl
  | cons st chain ih =>
      rw [updateFirst]
      split
      · rfl
      · rw [List.length_cons, ih, List.length_cons]

@[simp] theorem length_records_setStream (f : HTTP2Stream → HTTP2Stream) :
    (records (setStream s id f)).length = (records s).length :=
  ChainTable.length_flatten_modify (length_updateFirst id f) _ _

@[simp] theorem length_records_setRest (g : StreamRest → StreamRest) :
    (records (setRest s id g)).length = (records s).length := by
  have htable : (setRest s id g).streamsHash = s.streamsHash := rfl
  unfold records
  rw [htable]

theorem length_records_pushStream (hsized : Sized s) (st : HTTP2Stream) :
    (records (pushStream s st)).length = (records s).length + 1 := by
  apply ChainTable.length_flatten_push
  rw [hsized]
  exact bucket_lt st.streamId

@[simp] theorem length_records_startFcgi :
    (records (startFcgi s id)).length = (records s).length := by
  unfold startFcgi
  rw [length_records_setRest, length_records_setStream]

@[simp] theorem length_records_sendErrorPage (status : Nat) (text : String) :
    (records (sendErrorPage env s id status text).1).length = (records s).length := by
  unfold sendErrorPage
  dsimp only
  rw [length_records_setStream]

@[simp] theorem length_records_startFile (fd size : Nat) :
    (records (startFile env s id fd size).1).length = (records s).length := by
  unfold startFile
  dsimp only
  split <;> simp

@[simp] theorem length_records_router :
    (records (http2RouterBridge env s id).1).length = (records s).length := by
  unfold http2RouterBridge
  dsimp only
  split
  · rfl
  · cases env.route <;> simp

theorem length_records_handleData (head : HTTP2FrameHeader) (payload : Option (List UInt8)) :
    (records (http2ParserHandleData env s head payload).1).length = (records s).length := by
  have happend : ∀ (s : Server) payload, (records (appendStreamBody s head.streamId payload)).length
      = (records s).length := fun _ _ => length_records_setRest _
  have hend : ∀ s : Server, (records (handleStreamEnd env s head.streamId).1).length
      = (records s).length := by
    intro s
    rw [handleStreamEnd_eq]
    dsimp only
    rw [length_records_setStream, length_records_router]
    exact length_records_setRest _
  unfold http2ParserHandleData
  dsimp only
  split
  · rfl
  · rfl
  · split_ifs <;> simp [happend, hend]

theorem length_records_headersOn (flags : UInt8) (payload : List UInt8) :
    (records (headersOn env s id flags payload).1).length = (records s).length := by
  have hparse : ∀ block, (records (parseHeaderFull env s id block).2).length
      = (records s).length := by
    intro block
    unfold parseHeaderFull
    split
    · rfl
    · exact length_records_setRest _
  unfold headersOn
  dsimp only
  split_ifs <;> simp [hparse]

/-- HEADERS adds a record exactly if it opens a stream. -/
theorem length_records_handleHeaders (hsized : Sized s) (h1 : f.type = 0x01) :
    (records (http2ParserHandleHeaders env s f.head f.payloadBuf).1).length
      = (records s).length + if (Run.Input.frame f env).Opens s then 1 else 0 := by
  rcases handleHeaders_cases env s f.head f.payloadBuf with ⟨hnone, h⟩ | ⟨hid, s', hcreate, h⟩
  · rw [h, if_neg, Nat.add_zero]
    rintro ⟨-, hid, hnew, hcalloc⟩
    rcases hnone with hzero | hnone
    · exact hid hzero
    · have hsome : (http2StreamGetOrCreate env s f.streamId).isSome = true :=
        getOrCreate_isSome_iff.mpr (Or.inr hcalloc)
      rw [show http2StreamGetOrCreate env s f.streamId = none from hnone] at hsome
      cases hsome
  · have hcreate' : http2StreamGetOrCreate env s f.streamId = some s' := hcreate
    rw [h, length_records_headersOn]
    rcases getOrCreate_cases hcreate' with ⟨hknown, rfl⟩ | ⟨hnew, hcalloc, rfl⟩
    · rw [if_neg]
      · rfl
      · rintro ⟨-, -, hnew, -⟩
        rw [hnew] at hknown
        cases hknown
    · rw [if_pos ⟨h1, hid, hnew, hcalloc⟩, length_records_setRest, length_records_pushStream hsized]

theorem length_records_handleRstStream (id : Nat) :
    (records (handleRstStream s id)).length = (records s).length :=
  ChainTable.length_flatten_map (length_updateFirst id _) _

theorem length_records_handleSettings (payload : List UInt8) :
    (records (handleSettings payload s)).length = (records s).length := by
  refine handleSettings_induction (P := fun s' => (records s').length = (records s).length)
    payload rfl fun s' val h => ?_
  rw [← h]
  exact ChainTable.length_flatten_map (fun chain => List.length_map _) _

theorem length_records_windowUpdate (head : HTTP2FrameHeader) (payload : Option (List UInt8)) :
    (records (http2FrameHandleWindowUpdate s head payload)).length = (records s).length := by
  rw [http2FrameHandleWindowUpdate_eq]
  split_ifs
  · rfl
  · rfl
  · exact length_records_setStream _

theorem length_records_handleFrame (hsized : Sized s) :
    (records (handleFrame env s f).1).length
      = (records s).length + if (Run.Input.frame f env).Opens s then 1 else 0 := by
  by_cases h1 : f.type = 0x01
  · rw [handleFrame_headers h1, length_records_handleHeaders hsized h1]
  · rw [if_neg (fun h => h1 h.1), Nat.add_zero]
    unfold handleFrame
    rw [if_neg h1]
    split_ifs
    · exact length_records_handleData _ _
    · exact length_records_handleRstStream _
    · exact length_records_handleSettings _
    · rfl
    · rfl
    · rfl
    · exact length_records_windowUpdate _ _
    · rfl

theorem length_records_closeFile : (records (closeFile s id)).length = (records s).length :=
  length_records_setStream _

theorem length_records_advance (n : Nat) :
    (records (advance s id n)).length = (records s).length := by
  unfold advance
  rw [length_records_setRest, length_records_setStream]
  rfl

theorem length_records_flushStream (a : Activity) :
    (records (flushStream env s id a).1).length = (records s).length := by
  cases a with
  | fcgi =>
      show (records (flushFcgiStream env s id).1).length = _
      unfold flushFcgiStream
      split
      · simp
      · rfl
  | file =>
      rcases flushFileStream_cases env s id with h | ⟨st, data, -, ⟨-, h⟩ | ⟨-, h⟩⟩
      all_goals
        show (records (flushFileStream env s id).1).length = _
        rw [h]
      · exact length_records_closeFile
      · dsimp only
        split
        · rw [length_records_closeFile, length_records_advance]
        · exact length_records_advance _

end Records

/-- **The table only grows**, by one record for each stream that is opened. -/
theorem length_records_step {r : Run} (hsized : Sized r.server) (i : Run.Input) :
    (records (r.step i).server).length
      = (records r.server).length + if i.Opens r.server then 1 else 0 := by
  cases i with
  | flush env =>
      refine Run.flush_induction (P := fun r' => (records r'.server).length
        = (records r.server).length) rfl fun target _ r' h => ?_
      exact (length_records_flushStream target.2).trans h
  | frame f env =>
      rw [Run.step_frame]
      exact length_records_handleFrame hsized

/-! ## The promise -/

section Promise

variable {c : Census} {i : Run.Input}

theorem countBehindGetOrCreate_eq (env : Environment) (s : Server) (id : Nat) (count : UInt32) :
    countBehindGetOrCreate env s id count
      = if lookupStream s id = none ∧ env.callocOk = true then count + 1 else count := by
  unfold countBehindGetOrCreate
  cases lookupStream s id <;> simp

/-- The counter goes up where a record is added. -/
theorem countBehind_eq (s : Server) (count : UInt32) (i : Run.Input) :
    i.countBehind s count = if i.Opens s then count + 1 else count := by
  cases i with
  | flush env => rfl
  | frame f env =>
      show (if f.type = 0x01 ∧ f.streamId ≠ 0 then _ else count) = _
      rw [countBehindGetOrCreate_eq]
      by_cases hopens : (Run.Input.frame f env).Opens s
      · rw [if_pos hopens, if_pos ⟨hopens.1, hopens.2.1⟩, if_pos hopens.2.2]
      · rw [if_neg hopens]
        split
        · next h => exact if_neg (fun hnew => hopens ⟨h.1, h.2, hnew⟩)
        · rfl

/-- No stream has ended, and at most a hundred have been opened. -/
structure Census.Young (c : Census) : Prop where
  sized : Sized c.run.server
  count_eq : c.activeStreamCount.toNat = (records c.run.server).length
  length_le : (records c.run.server).length ≤ maxConcurrentStreams
  ended : c.ended = []

theorem Census.Young.bounded (h : c.Young) : c.Bounded := by
  have hall : c.unfinished = records c.run.server := by
    unfold Census.unfinished
    rw [h.ended]
    simp
  refine ⟨?_, ?_, ?_⟩
  · rw [hall]
    exact h.length_le
  · rw [hall]
    exact h.count_eq
  · rw [h.ended]
    simp

theorem mem_endings {id : Nat} : id ∈ c.run.endings i
    ↔ (∃ st ∈ records (c.run.step i).server, st.streamId = id) ∧ ∃ x ∈ c.run.added i, x.Ends id := by
  unfold Run.endings
  rw [List.mem_filter, List.mem_map, decide_eq_true_iff]

theorem Census.Young.step_count (h : c.Young) (i : Run.Input) :
    (c.step i).activeStreamCount.toNat = (records (c.step i).run.server).length := by
  have hcount := h.count_eq
  have hle := h.length_le
  have hmax : maxConcurrentStreams = 100 := rfl
  show (i.countBehind c.run.server c.activeStreamCount).toNat
    = (records (c.run.step i).server).length
  rw [countBehind_eq, length_records_step h.sized, ← hcount]
  split
  · rw [UInt32.toNat_add]
    exact Nat.mod_eq_of_lt (by simp; omega)
  · rfl

theorem Census.Young.step (h : c.Young) (hlasting : c.Lasting i) : (c.step i).Young := by
  refine ⟨sized_step h.sized i, h.step_count i, ?_, ?_⟩
  · show (records (c.run.step i).server).length ≤ _
    have hle := h.length_le
    rw [length_records_step h.sized]
    split
    · next hopens => exact hlasting.room hopens
    · exact hle
  · show c.ended ++ c.run.endings i = []
    rw [h.ended, List.nil_append, List.eq_nil_iff_forall_not_mem]
    intro id hid
    obtain ⟨⟨st, hst, rfl⟩, x, hx, hends⟩ := mem_endings.mp hid
    exact hlasting.goes_on st hst x hx hends

/-- A stream too many, or one that ends, breaks the promise. -/
theorem Census.Young.not_bounded (h : c.Young) (hno : ¬ c.Lasting i) : ¬ (c.step i).Bounded := by
  intro hbounded
  refine hno ⟨fun hopens => ?_, fun st hst x hx hends => ?_⟩
  · have hlength := length_records_step h.sized i
    have hcount := h.step_count i
    have heq := hbounded.count_eq
    have hle := hbounded.unfinished_le
    rw [if_pos hopens] at hlength
    have hrun : (c.step i).run = c.run.step i := rfl
    rw [hrun] at hcount
    omega
  · refine hbounded.released st hst ?_
    show st.streamId ∈ c.ended ++ c.run.endings i
    rw [List.mem_append, mem_endings]
    exact Or.inr ⟨⟨st, hst, rfl⟩, x, hx, hends⟩

/-- **The number of streams**: the session keeps its promise in every state of a run exactly if in
each step no stream ends, and none is opened beside a hundred others. -/
theorem census_bounded_iff (streams : Nat → StreamRest) (is : List Run.Input) :
    (∀ js, js <+: is → (runSteps Census.step (.fresh streams) js).Bounded)
      ↔ GuardedRun Census.Lasting Census.step (.fresh streams) is := by
  refine GuardedRun.iff_forall_prefix Census.Young (fun c h => h.bounded)
    (fun c i h _ hlasting => h.step hlasting) (fun c i h _ hno => h.not_bounded hno) ?_
    (guardedRun_true _ is)
  exact ⟨sized_fresh _, rfl, Nat.zero_le _, rfl⟩

end Promise

/-- A GET of `/` that is answered with an error page. -/
def answeredGet : Frame := ⟨0x01, 0x05, 1, [0x82, 0x84], Frame.length_getRoot, Frame.streamId_one⟩

/-- The stream has ended, and its record is still there and counted. -/
theorem ended_stream_kept :
    ¬ ∀ (streams : Nat → StreamRest) (is js : List Run.Input), js <+: is →
      (runSteps Census.step (.fresh streams) js).Bounded := by
  intro h
  have hbounded := h (fun _ => .new .plain) [.frame answeredGet .plain] _ List.prefix_rfl
  exact absurd hbounded.count_eq (by decide +kernel)

end Halmos.Http2
