import Halmos.WebSocket.Receive

set_option autoImplicit false

/-! # The receiver stays in its buffers

Whatever bytes a client sends, well formed or not, and however the reads cut them, every write of
`halmos_ws_recv_frame` is inside the buffer it is meant for (`recvFrame_inBounds`): a read asks for
no more than the piece it is in the middle of has room for.
-/

namespace Halmos.WebSocket

/-- The counters are inside their buffers, and the block of the payload has the payload's size,
with a NUL. -/
structure WsRecvState.Sound (st : WsRecvState) : Prop where
  header_le : st.headerBytesRead ≤ 2
  ext_le : st.extLenBytesRead ≤ st.extLenExpected
  expected_le : st.extLenExpected ≤ 8
  mask_le : st.maskBytesRead ≤ 4
  ext_zero : st.state = .header → st.extLenBytesRead = 0
  no_payload : st.state = .header ∨ st.state = .extLen ∨ st.state = .mask →
    st.payload = none ∧ st.payloadBytesRead = 0
  block : ∀ block, st.payload = some block → block.length = st.payloadLen + 1
  payload_le : st.state = .payload → st.payload ≠ none ∧ st.payloadBytesRead ≤ st.payloadLen

theorem cleared_sound : WsRecvState.cleared.Sound where
  header_le := Nat.zero_le _
  ext_le := Nat.le_refl _
  expected_le := Nat.zero_le _
  mask_le := Nat.zero_le _
  ext_zero := fun _ => rfl
  no_payload := fun _ => ⟨rfl, rfl⟩
  block := fun _ h => nomatch h
  payload_le := fun h => nomatch h

namespace WsRecvState

variable {st : WsRecvState} {bs : List UInt8}

theorem Sound.readHeader (h : st.Sound) (hst : st.state = .header)
    (hle : bs.length ≤ 2 - st.headerBytesRead) :
    ∃ st' t, st.readHeader bs = some (st', t) ∧ st'.Sound := by
  have hread := h.header_le
  obtain ⟨header, hcopy, -⟩ := st.header.copy_eq
    (by omega : st.headerBytesRead + bs.length ≤ 2)
  obtain ⟨hpayload, hzero⟩ := h.no_payload (.inl hst)
  -- the fields set here are counters, flags and lengths; the payload is not there yet
  have hsound : ∀ st' : WsRecvState, st'.headerBytesRead = st.headerBytesRead + bs.length →
      st'.extLenBytesRead = 0 → st'.extLenExpected ≤ 8 → st'.maskBytesRead ≤ 4 →
      st'.payload = none → st'.payloadBytesRead = 0 → st'.state ≠ .payload → st'.Sound := by
    intro st' h1 h2 h3 h4 h5 h6 h7
    refine ⟨by omega, by omega, h3, h4, fun _ => h2, fun _ => ⟨h5, h6⟩, ?_, fun hno => absurd hno h7⟩
    intro block hblock
    rw [h5] at hblock
    cases hblock
  have hext := h.ext_zero hst
  have hexp := h.expected_le
  have hmask := h.mask_le
  unfold WsRecvState.readHeader
  simp only [hcopy, Option.bind_eq_bind, Option.bind_some]
  repeat' split
  all_goals
    refine ⟨_, _, rfl, hsound _ rfl hext ?_ hmask hpayload hzero ?_⟩
  all_goals first
    | exact hexp
    | simp [hst]

theorem Sound.readExtLen (h : st.Sound) (hst : st.state = .extLen)
    (hle : bs.length ≤ st.extLenExpected - st.extLenBytesRead) :
    ∃ st' t, st.readExtLen bs = some (st', t) ∧ st'.Sound := by
  have hread := h.ext_le
  have hexp := h.expected_le
  obtain ⟨buf, hcopy, -⟩ := st.extLenBuf.copy_eq
    (by omega : st.extLenBytesRead + bs.length ≤ 8)
  obtain ⟨hpayload, hzero⟩ := h.no_payload (.inr (.inl hst))
  have hsound : ∀ st' : WsRecvState, st'.headerBytesRead = st.headerBytesRead →
      st'.extLenBytesRead = st.extLenBytesRead + bs.length →
      st'.extLenExpected = st.extLenExpected → st'.maskBytesRead = st.maskBytesRead →
      st'.payload = none → st'.payloadBytesRead = 0 →
      st'.state = .extLen ∨ st'.state = .mask → st'.Sound := by
    intro st' h1 h2 h3 h4 h5 h6 h7
    have h8 := h.header_le
    have h9 := h.mask_le
    refine ⟨by omega, by omega, by omega, by omega, ?_, fun _ => ⟨h5, h6⟩, ?_, ?_⟩
    · intro hno
      rw [hno] at h7
      exact absurd h7 (by decide)
    · intro block hblock
      rw [h5] at hblock
      cases hblock
    · intro hno
      rw [hno] at h7
      exact absurd h7 (by decide)
  unfold WsRecvState.readExtLen
  simp only [hcopy, Option.bind_eq_bind, Option.bind_some]
  repeat' split
  all_goals
    refine ⟨_, _, rfl, hsound _ rfl rfl rfl rfl hpayload hzero ?_⟩
    simp [hst]

theorem Sound.readMask (h : st.Sound) (malloc : (n : Nat) → Buffer n) (hst : st.state = .mask)
    (hle : bs.length ≤ 4 - st.maskBytesRead) :
    ∃ st' t, st.readMask malloc bs = some (st', t) ∧ st'.Sound := by
  have hread := h.mask_le
  obtain ⟨mask, hcopy, -⟩ := st.mask.copy_eq (by omega : st.maskBytesRead + bs.length ≤ 4)
  obtain ⟨hpayload, hzero⟩ := h.no_payload (.inr (.inr hst))
  have hblock : ∀ block, st.payload = some block → block.length = st.payloadLen + 1 := h.block
  unfold WsRecvState.readMask
  simp only [hcopy, Option.bind_eq_bind, Option.bind_some]
  split
  · refine ⟨_, _, rfl, h.header_le, h.ext_le, h.expected_le, ?_, ?_, fun _ => ⟨hpayload, hzero⟩,
      hblock, ?_⟩
    · dsimp only
      omega
    · exact fun hno => absurd (hst.symm.trans hno) (by decide)
    · exact fun hno => absurd (hst.symm.trans hno) (by decide)
  · split
    · refine ⟨_, _, rfl, h.header_le, h.ext_le, h.expected_le, ?_, fun hno => (nomatch hno), ?_, ?_,
        fun _ => ⟨fun hno => (nomatch hno), ?_⟩⟩
      · dsimp only
        omega
      · exact fun hno => absurd hno (by simp)
      · intro block hblock
        obtain rfl := Option.some.inj hblock
        exact (malloc _).length_eq
      · dsimp only
        omega
    · refine ⟨_, _, rfl, h.header_le, h.ext_le, h.expected_le, ?_, fun hno => (nomatch hno), ?_, hblock,
        fun hno => (nomatch hno)⟩
      · dsimp only
        omega
      · exact fun hno => absurd hno (by simp)

theorem Sound.readPayload (h : st.Sound) (hst : st.state = .payload)
    (hle : bs.length ≤ st.payloadLen - st.payloadBytesRead) :
    ∃ st' t, st.readPayload bs = some (st', t) ∧ st'.Sound := by
  obtain ⟨hne, hread⟩ := h.payload_le hst
  obtain ⟨block, hblock⟩ := Option.ne_none_iff_exists'.mp hne
  have hlen := h.block block hblock
  obtain ⟨block', hwrite, hlen', -⟩ := writeBytes_eq block st.payloadBytesRead bs (by omega)
  have hnew : ∀ b, some block' = some b → b.length = st.payloadLen + 1 := by
    rintro b ⟨⟩
    exact hlen'.trans hlen
  unfold WsRecvState.readPayload
  simp only [hblock, hwrite, Option.bind_eq_bind, Option.bind_some]
  split
  · refine ⟨_, _, rfl, h.header_le, h.ext_le, h.expected_le, h.mask_le, ?_, ?_, hnew,
      fun _ => ⟨fun hno => (nomatch hno), ?_⟩⟩
    · exact fun hno => absurd (hst.symm.trans hno) (by decide)
    · intro hno
      dsimp only at hno
      rw [hst] at hno
      exact absurd hno (by decide)
    · dsimp only
      omega
  · refine ⟨_, _, rfl, h.header_le, h.ext_le, h.expected_le, h.mask_le, fun hno => (nomatch hno), ?_,
      hnew, fun hno => (nomatch hno)⟩
    exact fun hno => absurd hno (by simp)

/-- **One turn**: with no more bytes than asked for, every write is inside its buffer. -/
theorem Sound.turn (h : st.Sound) (malloc : (n : Nat) → Buffer n)
    (hle : bs.length ≤ st.needed) : ∃ st' t, st.turn malloc bs = some (st', t) ∧ st'.Sound := by
  unfold WsRecvState.turn
  unfold needed at hle
  cases hst : st.state with
  | header =>
      rw [hst] at hle
      exact h.readHeader hst hle
  | extLen =>
      rw [hst] at hle
      exact h.readExtLen hst hle
  | mask =>
      rw [hst] at hle
      exact h.readMask malloc hst hle
  | payload =>
      rw [hst] at hle
      exact h.readPayload hst hle
  | complete => exact ⟨st, .next, rfl, h⟩

theorem Sound.unmaskPayload (h : st.Sound) : ∃ payload, st.unmaskPayload = some payload := by
  unfold WsRecvState.unmaskPayload
  cases hpayload : st.payload with
  | none => exact ⟨_, rfl⟩
  | some block =>
      have hlen := h.block block hpayload
      dsimp only
      split
      · have hstore := store_last hlen 0
        have htake : (block.take st.payloadLen).length = st.payloadLen := by
          rw [List.length_take]
          omega
        have hloop := unmaskLoop_eq st.mask.length_eq (block.take st.payloadLen) [0]
        rw [htake] at hloop
        simp only [hstore, hloop, Option.bind_eq_bind, Option.bind_some]
        exact ⟨_, rfl⟩
      · exact ⟨_, rfl⟩

end WsRecvState

/-- A read brings no more than it asks for. -/
theorem length_wsLowLevelRecv {incoming bs : List UInt8} {len : Nat} {e : ReadEvent}
    (h : wsLowLevelRecv incoming len e = .bytes bs) : bs.length ≤ len := by
  unfold wsLowLevelRecv at h
  split at h
  · dsimp only at h
    split at h
    · cases h
    · obtain rfl := ReadResult.bytes.inj h
      exact (List.length_take_le _ _).trans (Nat.min_le_right _ _)
  · cases h
  · cases h

/-- The loop, by induction on what the reads meet. -/
theorem recvLoop_sound (malloc : (n : Nat) → Buffer n) {script : List ReadEvent}
    {st : WsRecvState} (h : st.Sound) (incoming : List UInt8) :
    ∃ t st' side, recvLoop malloc script st incoming = some (t, st', side) ∧ st'.Sound := by
  induction script generalizing st incoming with
  | nil => exact ⟨_, st, _, rfl, h⟩
  | cons e script ih =>
      rw [recvLoop]
      split
      · exact ⟨_, st, _, rfl, h⟩
      · cases hrecv : wsLowLevelRecv incoming st.needed e with
        | again => exact ⟨_, st, _, rfl, h⟩
        | fatal => exact ⟨_, st, _, rfl, h⟩
        | bytes bs =>
            obtain ⟨st', t, hturn, hst'⟩ := h.turn malloc (length_wsLowLevelRecv hrecv)
            simp only [hturn]
            cases t with
            | next => exact ih hst' _
            | again => exact ⟨_, st', _, rfl, hst'⟩
            | fatal => exact ⟨_, st', _, rfl, hst'⟩

/-- **The receiver stays in its buffers**: from states it has left behind, whatever the reads
bring, and it changes the state of its own descriptor only. -/
theorem recvFrame_inBounds (malloc : (n : Nat) → Buffer n) (fd : Int) {states : RecvStates}
    (h : ∀ fd st, states fd = some st → st.Sound) (side : RecvSide) :
    ∃ r states' side', halmosWsRecvFrame malloc fd states side = some (r, states', side') ∧
      (∀ fd st, states' fd = some st → st.Sound) ∧ ∀ other, other ≠ fd → states' other = states other := by
  have hset : ∀ st : WsRecvState, st.Sound →
      (∀ other st', (states.set fd st) other = some st' → st'.Sound) ∧
      ∀ other, other ≠ fd → (states.set fd st) other = states other := by
    intro st hst
    refine ⟨fun other st' hst' => ?_, fun other hne => Function.update_of_ne hne _ _⟩
    unfold RecvStates.set at hst'
    by_cases hother : other = fd
    · subst hother
      rw [Function.update_self] at hst'
      obtain rfl := Option.some.inj hst'
      exact hst
    · rw [Function.update_of_ne hother] at hst'
      exact h other st' hst'
  unfold halmosWsRecvFrame wsGetOrCreateRecvState
  split
  · exact ⟨_, states, side, rfl, h, fun _ _ => rfl⟩
  · next st hst =>
      have hsound : st.Sound := by
        split at hst
        · cases hst
        · obtain rfl := Option.some.inj hst
          cases hfd : states fd with
          | none => exact cleared_sound
          | some st => exact h fd st hfd
      obtain ⟨t, st', side', hloop, hst'⟩ := recvLoop_sound malloc hsound side.incoming
      rw [hloop]
      cases t with
      | again => exact ⟨_, _, _, rfl, hset st' hst'⟩
      | fatal => exact ⟨_, _, _, rfl, hset st' hst'⟩
      | next =>
          obtain ⟨payload, hpayload⟩ := hst'.unmaskPayload
          simp only [hpayload, Option.bind_eq_bind, Option.bind_some]
          exact ⟨_, _, _, rfl, hset _ cleared_sound⟩

end Halmos.WebSocket
