import Halmos.Basic.Ledger
import Halmos.Http2.Server

set_option autoImplicit false

/-! # The streams of a session

What the operations of the server do to the stream of an id, read through `lookupStream`. Behind
this file the hash table is not looked at any more.
-/

namespace Halmos.Http2

theorem updateFirst_eq (id : Nat) (f : HTTP2Stream → HTTP2Stream) (chain : List HTTP2Stream) :
    updateFirst id f chain = ChainTable.modifyFirst HTTP2Stream.streamId id f chain := by
  induction chain with
  | nil => rfl
  | cons st chain ih => rw [updateFirst, ChainTable.modifyFirst, ih]

theorem updateFirst_funext (id : Nat) (f : HTTP2Stream → HTTP2Stream) :
    updateFirst id f = ChainTable.modifyFirst HTTP2Stream.streamId id f :=
  funext (updateFirst_eq id f)

theorem bucket_lt (id : Nat) : http2StreamGetBucketFibonacci id < 32 := by
  unfold http2StreamGetBucketFibonacci
  generalize UInt32.ofNat id * 2654435769 = hash
  have hlt := hash.toNat_lt
  rw [UInt32.toNat_shiftRight, show (27 : UInt32).toNat % 32 = 27 from rfl,
    Nat.shiftRight_eq_div_pow]
  omega

section Lookup

variable {s : Server} {id id' : Nat} {f : HTTP2Stream → HTTP2Stream}

theorem streamId_of_lookup {st : HTTP2Stream} (h : lookupStream s id = some st) :
    st.streamId = id := ChainTable.key_of_lookup h

theorem lookup_of_find {st : HTTP2Stream} (h : http2StreamFind s id = some st) :
    id ≠ 0 ∧ lookupStream s id = some st := by
  unfold http2StreamFind at h
  split at h
  · cases h
  · next hid => exact ⟨hid, h⟩

theorem lookup_setStream (hf : ∀ st, (f st).streamId = st.streamId) :
    lookupStream (setStream s id f) id'
      = if id' = id then (lookupStream s id).map f else lookupStream s id' := by
  unfold lookupStream setStream
  rw [updateFirst_funext]
  dsimp only
  rw [ChainTable.lookup_modify hf]

@[simp] theorem lookup_setRest (g : StreamRest → StreamRest) :
    lookupStream (setRest s id g) id' = lookupStream s id' := rfl

-- `rfl` on the whole state would compare the tables, and so compute the hash of an id
@[simp] theorem setStream_rest : (setStream s id f).rest = s.rest := by
  obtain ⟨win, peer, table, rest⟩ := s
  exact (rfl : rest = rest)

@[simp] theorem setStream_outWindowSize : (setStream s id f).outWindowSize = s.outWindowSize := by
  obtain ⟨win, peer, table, rest⟩ := s
  exact (rfl : win = win)

@[simp] theorem setStream_peer :
    (setStream s id f).peerInitialWindowSize = s.peerInitialWindowSize := by
  obtain ⟨win, peer, table, rest⟩ := s
  exact (rfl : peer = peer)

@[simp] theorem pushStream_rest (st : HTTP2Stream) : (pushStream s st).rest = s.rest := by
  obtain ⟨win, peer, table, rest⟩ := s
  exact (rfl : rest = rest)

@[simp] theorem pushStream_outWindowSize (st : HTTP2Stream) :
    (pushStream s st).outWindowSize = s.outWindowSize := by
  obtain ⟨win, peer, table, rest⟩ := s
  exact (rfl : win = win)

@[simp] theorem pushStream_peer (st : HTTP2Stream) :
    (pushStream s st).peerInitialWindowSize = s.peerInitialWindowSize := by
  obtain ⟨win, peer, table, rest⟩ := s
  exact (rfl : peer = peer)

@[simp] theorem setRest_outWindowSize (g : StreamRest → StreamRest) :
    (setRest s id g).outWindowSize = s.outWindowSize := rfl

@[simp] theorem setRest_peer (g : StreamRest → StreamRest) :
    (setRest s id g).peerInitialWindowSize = s.peerInitialWindowSize := rfl

@[simp] theorem setRest_table (g : StreamRest → StreamRest) :
    (setRest s id g).rest.table = s.rest.table := rfl

theorem setRest_streams (g : StreamRest → StreamRest) :
    (setRest s id g).rest.streams id'
      = if id' = id then g (s.rest.streams id) else s.rest.streams id' := by
  unfold setRest
  by_cases hid : id' = id
  · rw [if_pos hid, hid]
    exact Function.update_self id _ _
  · rw [if_neg hid]
    exact Function.update_of_ne hid _ _

@[simp] theorem setRest_streams_self (g : StreamRest → StreamRest) :
    (setRest s id g).rest.streams id = g (s.rest.streams id) := by
  rw [setRest_streams, if_pos rfl]

theorem setRest_streams_ne (g : StreamRest → StreamRest) (h : id' ≠ id) :
    (setRest s id g).rest.streams id' = s.rest.streams id' := by
  rw [setRest_streams, if_neg h]

/-- The stream that `http2_stream_get_or_create` allocates. -/
def newStream (s : Server) (id : Nat) : HTTP2Stream :=
  ⟨id, s.peerInitialWindowSize.toInt32, .idle, -1, false, false⟩

/-- The table has its 32 chains. -/
def Sized (s : Server) : Prop := s.streamsHash.length = 32

theorem sized_setStream (h : Sized s) : Sized (setStream s id f) := by
  unfold Sized setStream
  rw [List.length_modify]
  exact h

theorem lookup_pushStream {st : HTTP2Stream} (h : Sized s) :
    lookupStream (pushStream s st) id = if id = st.streamId then some st else lookupStream s id := by
  have hroom : http2StreamGetBucketFibonacci st.streamId < s.streamsHash.length := by
    rw [h]
    exact bucket_lt st.streamId
  unfold lookupStream pushStream
  dsimp only
  rw [ChainTable.lookup_push hroom]

theorem sized_pushStream (h : Sized s) (st : HTTP2Stream) : Sized (pushStream s st) := by
  unfold Sized pushStream
  rw [List.length_modify]
  exact h

theorem sized_setRest (h : Sized s) (g : StreamRest → StreamRest) : Sized (setRest s id g) := h

end Lookup

theorem sized_fresh (rest : ServerRest) : Sized (.fresh rest) := rfl

theorem lookup_fresh (rest : ServerRest) (id : Nat) : lookupStream (.fresh rest) id = none := by
  unfold lookupStream ChainTable.lookup
  show ChainTable.findKey _ id ((List.replicate 32 []).getD (http2StreamGetBucketFibonacci id) [])
    = none
  rw [List.getD_eq_getElem?_getD, List.getElem?_replicate, if_pos (bucket_lt id)]
  rfl

section Create

variable {env : Environment} {s s' : Server} {id id' : Nat}

/-- A stream that exists is left alone; otherwise a new one is there. -/
theorem getOrCreate_cases (h : http2StreamGetOrCreate env s id = some s') :
    ((lookupStream s id).isSome = true ∧ s' = s) ∨
    (lookupStream s id = none ∧ env.callocOk = true ∧
      s' = setRest (pushStream s (newStream s id)) id (fun _ => .new env)) := by
  unfold http2StreamGetOrCreate at h
  split at h
  · next st hlook =>
      rw [Option.some.injEq] at h
      exact Or.inl ⟨by rw [hlook]; rfl, h.symm⟩
  · next hlook =>
      split at h
      · next hcalloc =>
          rw [Option.some.injEq] at h
          exact Or.inr ⟨hlook, hcalloc, h.symm⟩
      · cases h

end Create

/-! ## The frames that change every stream -/

/-- RST_STREAM on the stream itself. -/
def resetStream (st : HTTP2Stream) : HTTP2Stream :=
  { st with
    fileFd := if st.fileFd ≥ 0 then -1 else st.fileFd
    isSendingFile := false
    state := .closed }

theorem lookup_handleRstStream (s : Server) (id id' : Nat) :
    lookupStream (handleRstStream s id) id'
      = if id' = id then (lookupStream s id).map resetStream else lookupStream s id' := by
  unfold lookupStream handleRstStream
  rw [updateFirst_funext]
  have hkeep : ∀ st, (resetStream st).streamId = st.streamId := fun _ => rfl
  exact ChainTable.lookup_map_modifyFirst hkeep

/-- One `SETTINGS_INITIAL_WINDOW_SIZE` of value `val`. -/
def applyInitialWindow (s : Server) (val : UInt32) : Server :=
  { s with
    peerInitialWindowSize := val
    streamsHash := s.streamsHash.map (List.map (fun st =>
      { st with
        outWindowSize := st.outWindowSize + (val.toInt32 - s.peerInitialWindowSize.toInt32) })) }

theorem lookup_applyInitialWindow (s : Server) (val : UInt32) (id : Nat) :
    lookupStream (applyInitialWindow s val) id
      = (lookupStream s id).map (fun st =>
          { st with
            outWindowSize :=
              st.outWindowSize + (val.toInt32 - s.peerInitialWindowSize.toInt32) }) := by
  have hkeep : ∀ st : HTTP2Stream, ({ st with
      outWindowSize :=
        st.outWindowSize + (val.toInt32 - s.peerInitialWindowSize.toInt32) } : HTTP2Stream).streamId
      = st.streamId := fun _ => rfl
  unfold lookupStream applyInitialWindow
  exact ChainTable.lookup_map_map hkeep

/-- The values a SETTINGS payload has for `SETTINGS_INITIAL_WINDOW_SIZE`. -/
def initialWindows : List UInt8 → List UInt32
  | i0 :: i1 :: v0 :: v1 :: v2 :: v3 :: payload =>
      let id := i0.toNat <<< 8 ||| i1.toNat
      let val : UInt32 := UInt32.ofNat
        (v0.toNat <<< 24 ||| v1.toNat <<< 16 ||| v2.toNat <<< 8 ||| v3.toNat)
      if id = 0x0004 then val :: initialWindows payload else initialWindows payload
  | _ => []

/-- SETTINGS applies them one after the other. -/
theorem handleSettings_eq (payload : List UInt8) (s : Server) :
    handleSettings payload s = (initialWindows payload).foldl applyInitialWindow s := by
  fun_induction initialWindows payload generalizing s with
  | case1 i0 i1 v0 v1 v2 v3 payload id val hid ih =>
      rw [handleSettings, List.foldl_cons, ← ih]
      exact if_pos hid
  | case2 i0 i1 v0 v1 v2 v3 payload id hid ih =>
      rw [handleSettings, ← ih]
      exact if_neg hid
  | case3 payload hshort =>
      unfold handleSettings
      split
      · next i0 i1 v0 v1 v2 v3 payload' => exact absurd rfl (hshort i0 i1 v0 v1 v2 v3 payload')
      · rfl

/-- What SETTINGS keeps, when each value keeps it. -/
theorem handleSettings_induction {P : Server → Prop} {s : Server} (payload : List UInt8)
    (hs : P s) (hstep : ∀ s val, P s → P (applyInitialWindow s val)) :
    P (handleSettings payload s) := by
  rw [handleSettings_eq]
  generalize initialWindows payload = vals
  induction vals generalizing s with
  | nil => exact hs
  | cons val vals ih => exact ih (hstep s val hs)

/-- The increment of a WINDOW_UPDATE payload, if it has one. -/
def windowIncrement : Option (List UInt8) → Nat
  | some (p0 :: p1 :: p2 :: p3 :: _) =>
      (p0.toNat &&& 0x7F) <<< 24 ||| p1.toNat <<< 16 ||| p2.toNat <<< 8 ||| p3.toNat
  | _ => 0

/-- `http2_frame_handle_window_update`, by its increment. -/
theorem http2FrameHandleWindowUpdate_eq (s : Server) (head : HTTP2FrameHeader)
    (payload : Option (List UInt8)) :
    http2FrameHandleWindowUpdate s head payload
      = if windowIncrement payload = 0 then s
        else if head.streamId = 0 then
          { s with outWindowSize := s.outWindowSize + Int32.ofNat (windowIncrement payload) }
        else
          setStream s head.streamId (fun st =>
            { st with
              outWindowSize := st.outWindowSize + Int32.ofNat (windowIncrement payload) }) := by
  unfold http2FrameHandleWindowUpdate
  split
  · rfl
  · next hshort =>
      have hzero : windowIncrement payload = 0 := by
        unfold windowIncrement
        split
        · next p0 p1 p2 p3 rest => exact absurd rfl (hshort p0 p1 p2 p3 rest)
        · rfl
      rw [if_pos hzero]

/-! ## The windows -/

/-- The windows of a session. -/
def windows (s : Server) : Ledger Int32 where
  session := s.outWindowSize
  initial := s.peerInitialWindowSize.toInt32
  streams id := (lookupStream s id).map HTTP2Stream.outWindowSize

section Windows

variable {s : Server} {id : Nat}

theorem windows_setRest (g : StreamRest → StreamRest) : windows (setRest s id g) = windows s := rfl

theorem windows_setStream {f : HTTP2Stream → HTTP2Stream}
    (hid : ∀ st, (f st).streamId = st.streamId)
    (hwin : ∀ st, (f st).outWindowSize = st.outWindowSize) :
    windows (setStream s id f) = windows s := by
  apply Ledger.ext
  · show (setStream s id f).outWindowSize = s.outWindowSize
    exact setStream_outWindowSize
  · exact congrArg UInt32.toInt32 setStream_peer
  · intro k
    simp only [windows, lookup_setStream hid]
    split
    · next hk =>
        rw [hk, Option.map_map]
        congr 1
        exact funext hwin
    · rfl

theorem windows_getOrCreate {env : Environment} {s' : Server} (hsized : Sized s)
    (h : http2StreamGetOrCreate env s id = some s') :
    windows s' = (windows s).apply Int32.ofInt (.openStream id) := by
  rcases getOrCreate_cases h with ⟨hknown, rfl⟩ | ⟨hnone, -, rfl⟩
  · obtain ⟨st, hlook⟩ := Option.isSome_iff_exists.mp hknown
    apply Ledger.ext
    · rfl
    · rfl
    · intro k
      simp only [windows, Ledger.apply]
      split
      · next hk =>
          rw [hk, hlook]
          rfl
      · rfl
  · rw [windows_setRest]
    apply Ledger.ext
    · simp only [windows, pushStream_outWindowSize, Ledger.apply]
    · exact congrArg UInt32.toInt32 (pushStream_peer (newStream s id))
    · intro k
      simp only [windows, Ledger.apply, lookup_pushStream hsized]
      show (if k = id then some (newStream s id) else lookupStream s k).map _ = _
      split
      · next hk =>
          rw [hk, hnone]
          rfl
      · rfl

theorem windows_handleRstStream : windows (handleRstStream s id) = windows s := by
  apply Ledger.ext
  · rfl
  · rfl
  · intro k
    simp only [windows, lookup_handleRstStream]
    split
    · next hk =>
        rw [hk, Option.map_map]
        rfl
    · rfl

theorem toInt32_eq_ofInt (val : UInt32) : val.toInt32 = Int32.ofInt val.toNat := by
  rw [← Int32.toBitVec_inj, Int32.toBitVec_ofInt, BitVec.ofInt_natCast]
  show val.toBitVec = BitVec.ofNat 32 val.toBitVec.toNat
  rw [BitVec.ofNat_toNat, BitVec.setWidth_eq]

theorem windows_applyInitialWindow (val : UInt32) :
    windows (applyInitialWindow s val) = (windows s).apply Int32.ofInt (.setInitial val.toNat) := by
  apply Ledger.ext
  · rfl
  · exact toInt32_eq_ofInt val
  · intro k
    simp only [windows, lookup_applyInitialWindow, Ledger.apply, Option.map_map,
      ← toInt32_eq_ofInt]
    rfl

theorem windows_handleSettings (payload : List UInt8) :
    windows (handleSettings payload s)
      = (windows s).applyAll Int32.ofInt
        ((initialWindows payload).map (fun val => .setInitial val.toNat)) := by
  rw [handleSettings_eq]
  generalize initialWindows payload = vals
  induction vals generalizing s with
  | nil => rfl
  | cons val vals ih =>
      rw [List.foldl_cons, ih, windows_applyInitialWindow]
      rfl

theorem ofNat_eq_ofInt (n : Nat) : Int32.ofNat n = Int32.ofInt n := Int32.ofInt_eq_ofNat.symm

theorem windows_windowUpdate (head : HTTP2FrameHeader) (payload : Option (List UInt8)) :
    windows (http2FrameHandleWindowUpdate s head payload)
      = (windows s).apply Int32.ofInt
        (if head.streamId = 0 then .credit (windowIncrement payload)
          else .creditStream head.streamId (windowIncrement payload)) := by
  rw [http2FrameHandleWindowUpdate_eq]
  by_cases hzero : windowIncrement payload = 0
  · -- no increment: the operation adds zero
    rw [if_pos hzero, hzero]
    have hadd : ∀ w : Int32, w + Int32.ofInt ((0 : Nat) : Int) = w := fun w => Int32.add_zero w
    split
    · apply Ledger.ext
      · exact (hadd _).symm
      · rfl
      · intro k
        rfl
    · apply Ledger.ext
      · rfl
      · rfl
      · intro k
        simp only [Ledger.apply, hadd, Option.map_id']
        exact (ite_self _).symm
  · rw [if_neg hzero]
    split
    · apply Ledger.ext
      · exact congrArg (s.outWindowSize + ·) (ofNat_eq_ofInt _)
      · rfl
      · intro k
        rfl
    · have hkeep : ∀ st : HTTP2Stream, ({ st with
          outWindowSize :=
            st.outWindowSize + Int32.ofNat (windowIncrement payload) } : HTTP2Stream).streamId
          = st.streamId := fun _ => rfl
      apply Ledger.ext
      · simp only [windows, setStream_outWindowSize, Ledger.apply]
      · exact congrArg UInt32.toInt32 setStream_peer
      · intro k
        simp only [windows, Ledger.apply, lookup_setStream hkeep, ← ofNat_eq_ofInt]
        split
        · next hk =>
            rw [hk, Option.map_map, Option.map_map]
            rfl
        · rfl

end Windows

/-! ## The streams a step leaves alone -/

/-- What the stream of an id is, apart from its window. -/
def coreOf (s : Server) (id : Nat) : Option HTTP2Stream :=
  (lookupStream s id).map (fun st => { st with outWindowSize := 0 })

/-- The stream of the id is as before, apart from its window. -/
structure Untouched (id : Nat) (s s' : Server) : Prop where
  core : coreOf s' id = coreOf s id
  rest : s'.rest.streams id = s.rest.streams id

section Untouched

variable {s s' s'' : Server} {id id' : Nat}

theorem Untouched.refl : Untouched id s s := ⟨rfl, rfl⟩

theorem Untouched.trans (h : Untouched id s s') (h' : Untouched id s' s'') : Untouched id s s'' :=
  ⟨h'.core.trans h.core, h'.rest.trans h.rest⟩

theorem Untouched.of_lookup (hlook : lookupStream s' id = lookupStream s id)
    (hrest : s'.rest.streams id = s.rest.streams id) : Untouched id s s' :=
  ⟨by rw [coreOf, hlook, coreOf], hrest⟩

theorem Untouched.isSome (h : Untouched id s s') :
    (lookupStream s' id).isSome = (lookupStream s id).isSome := by
  have hcore := congrArg Option.isSome h.core
  simpa only [coreOf, Option.isSome_map] using hcore

theorem untouched_setStream {f : HTTP2Stream → HTTP2Stream}
    (hid : ∀ st, (f st).streamId = st.streamId) (hne : id ≠ id') :
    Untouched id s (setStream s id' f) := by
  apply Untouched.of_lookup
  · rw [lookup_setStream hid, if_neg hne]
  · rw [setStream_rest]

/-- A write to the window only. -/
theorem untouched_setWindow (w : HTTP2Stream → Int32) :
    Untouched id s (setStream s id' (fun st => { st with outWindowSize := w st })) := by
  constructor
  · have hkeep : ∀ st : HTTP2Stream, ({ st with outWindowSize := w st } : HTTP2Stream).streamId
        = st.streamId := fun _ => rfl
    rw [coreOf, lookup_setStream hkeep]
    split
    · next hk =>
        rw [← hk, Option.map_map]
        rfl
    · rfl
  · rw [setStream_rest]

theorem untouched_setRest (g : StreamRest → StreamRest) (hne : id ≠ id') :
    Untouched id s (setRest s id' g) :=
  Untouched.of_lookup rfl (setRest_streams_ne g hne)

theorem untouched_getOrCreate {env : Environment} (hsized : Sized s) (hne : id ≠ id')
    (h : http2StreamGetOrCreate env s id' = some s') : Untouched id s s' := by
  rcases getOrCreate_cases h with ⟨-, rfl⟩ | ⟨-, -, rfl⟩
  · exact Untouched.refl
  · apply Untouched.of_lookup
    · rw [lookup_setRest, lookup_pushStream hsized]
      exact if_neg hne
    · rw [setRest_streams_ne _ hne, pushStream_rest]

theorem untouched_handleRstStream (hne : id ≠ id') : Untouched id s (handleRstStream s id') := by
  apply Untouched.of_lookup
  · rw [lookup_handleRstStream, if_neg hne]
  · rfl

theorem untouched_handleSettings (payload : List UInt8) :
    Untouched id s (handleSettings payload s) := by
  apply handleSettings_induction (P := fun s' => Untouched id s s') payload Untouched.refl
  intro s' val h
  refine h.trans ⟨?_, rfl⟩
  rw [coreOf, lookup_applyInitialWindow, Option.map_map]
  rfl

theorem untouched_windowUpdate (head : HTTP2FrameHeader) (payload : Option (List UInt8)) :
    Untouched id s (http2FrameHandleWindowUpdate s head payload) := by
  rw [http2FrameHandleWindowUpdate_eq]
  split
  · exact Untouched.refl
  · split
    · exact ⟨rfl, rfl⟩
    · exact untouched_setWindow _

end Untouched

end Halmos.Http2
