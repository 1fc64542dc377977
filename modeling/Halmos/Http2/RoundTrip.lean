import Halmos.Http2.Manager

set_option autoImplicit false

/-! # Frames arrive as they were sent

The bytes of the preface and of frames sent with `http2_frame_send`, cut into reads in any way
with would-blocks in between, make the session hand exactly these frames to `dispatch_frame`.
The invariant (`Conn.Tracks`) says that what has been handed on, followed by what a receiver in
the session's position would make of the bytes still in the script, is the list that was sent.
-/

namespace Halmos.Http2

/-- The bytes among the atoms of a script. -/
def bytesOf (as : List Atom) : List UInt8 :=
  as.filterMap (fun a => match a with
    | .byte b => some b
    | .block => none
    | .closed => none)

/-- A script that delivers `bytes` in non-empty reads, with would-blocks in between. -/
structure Delivers (bytes : List UInt8) (script : List ReadEvent) : Prop where
  not_closed : ∀ e ∈ script, e ≠ .error ∧ e ≠ .bytes []
  bytes_eq : bytesOf (atomsOf script) = bytes

theorem bytesOf_append (as bs : List Atom) : bytesOf (as ++ bs) = bytesOf as ++ bytesOf bs :=
  List.filterMap_append

@[simp] theorem bytesOf_map_byte (bs : List UInt8) : bytesOf (bs.map .byte) = bs := by
  induction bs with
  | nil => rfl
  | cons b bs ih =>
      show b :: bytesOf (bs.map .byte) = b :: bs
      rw [ih]

theorem bytesOf_blocks {as as' : List Atom} (h : Blocks as as') : bytesOf as = bytesOf as' := by
  rcases h with rfl | ⟨rfl, rfl⟩
  · rfl
  · rfl

theorem Delivers.no_closed {bytes : List UInt8} {script : List ReadEvent}
    (h : Delivers bytes script) : Atom.closed ∉ atomsOf script := by
  intro hmem
  obtain ⟨e, he, ha⟩ := List.mem_flatMap.mp hmem
  obtain ⟨herror, hempty⟩ := h.not_closed e he
  cases e with
  | wouldBlock => simp [ReadEvent.atoms] at ha
  | error => exact herror rfl
  | bytes bs =>
      cases bs with
      | nil => exact hempty rfl
      | cons b bs => simp [ReadEvent.atoms] at ha

section Serve

variable {ρ : Type} {H : StreamHandlers ρ} {maxBodySize : Nat}

/-- The session is served for `n` passes of its loop, over as many calls as it takes: a call
that returns anything but `0` is followed by another one. The flag says that a call returned
`0` and the connection is closed. -/
def serve (H : StreamHandlers ρ) (maxBodySize : Nat) : Nat → Conn ρ → Bool × Conn ρ
  | 0, c => (false, c)
  | n + 1, c =>
      match managerIteration H maxBodySize c with
      | (some 0, c') => (true, c')
      | (_, c') => serve H maxBodySize n c'

/-- The connection will have seen `frames` when its script has been used up. -/
structure Conn.Tracks (maxBodySize : Nat) (frames : List HTTP2Frame) (c : Conn ρ) : Prop where
  settled : c.Settled
  ok : c.input.progress.Ok
  need_pos : 0 < c.input.progress.receiver.need
  not_closed : Atom.closed ∉ c.input.atoms
  frames_eq : ∃ rest, c.seen ++ rest = frames ∧
    c.input.progress.receiver.feedAll (maxAllowedPayload maxBodySize) (bytesOf c.input.atoms)
      = (.header [], rest)

/-- One pass keeps the connection on track and uses up some of its script. -/
theorem Conn.Tracks.iterate {frames : List HTTP2Frame} {c : Conn ρ}
    (h : c.Tracks maxBodySize frames) (H : StreamHandlers ρ) :
    (managerIteration H maxBodySize c).1 ≠ some 0 ∧
    (managerIteration H maxBodySize c).2.Tracks maxBodySize frames ∧
    ((managerIteration H maxBodySize c).2.input.atoms.length < c.input.atoms.length ∨
      (managerIteration H maxBodySize c).2.input.atoms = []) := by
  have heq : managerIteration H maxBodySize c = managerPreface H maxBodySize c := by
    unfold managerIteration
    simp [h.settled.no_error, h.settled.not_pending]
  have hiter := managerPreface_iterates maxBodySize H h.ok h.need_pos
  rw [← heq] at hiter
  obtain ⟨⟨bs, fs, m, hcons, hends, hseen⟩, hsettled, -⟩ := hiter
  obtain ⟨rest, hrest, hfeed⟩ := h.frames_eq
  -- the receiver at `m`, and what the rest of the script still holds for it
  rw [hcons.atoms, bytesOf_append, bytesOf_map_byte, Receiver.feedAll_append, hcons.feeds]
    at hfeed
  simp only [Prod.mk.injEq] at hfeed
  obtain ⟨hend, hsplit⟩ := hfeed
  have hmclosed : Atom.closed ∉ m.atoms := by
    intro hmem
    exact h.not_closed (by rw [hcons.atoms]; exact List.mem_append_right _ hmem)
  have halive : ¬ m.Dead (maxAllowedPayload maxBodySize) := by
    rintro ⟨cs, as, hatoms, hclosed | ⟨as', rfl⟩⟩
    · rw [hatoms, bytesOf_append, bytesOf_map_byte, Receiver.feedAll_append, hclosed,
        Receiver.feedAll_closed] at hend
      cases hend
    · exact hmclosed (by rw [hatoms]; simp)
  have hlen : c.input.atoms.length = bs.length + m.atoms.length := by
    rw [hcons.atoms, List.length_append, List.length_map]
  generalize managerIteration H maxBodySize c = r at hends hseen hsettled ⊢
  -- every way to go on leaves a connection on track
  have hkeep : r.1 ≠ some 0 → r.2.input.progress = m.progress →
      bytesOf r.2.input.atoms = bytesOf m.atoms → Atom.closed ∉ r.2.input.atoms →
      r.2.Tracks maxBodySize frames := by
    intro hne hprog hbytes hclosed
    refine ⟨hsettled h.settled hne, hprog ▸ hcons.ok, hprog ▸ hcons.need_pos, hclosed,
      (m.progress.receiver.feedAll (maxAllowedPayload maxBodySize) (bytesOf m.atoms)).2, ?_, ?_⟩
    · rw [hseen hne, List.append_assoc, hsplit]
      exact hrest
    · rw [hprog, hbytes, ← hend]
  have hblocked : ∀ i', Blocks m.atoms i' → Atom.closed ∉ i' ∧
      (i'.length < c.input.atoms.length ∨ i' = []) := by
    intro i' hblocks
    rcases hblocks with hb | ⟨-, rfl⟩
    · refine ⟨fun hmem => hmclosed (by rw [hb]; simp [hmem]), Or.inl ?_⟩
      rw [hlen, hb, List.length_cons]
      omega
    · exact ⟨by simp, Or.inr rfl⟩
  obtain ⟨code, c'⟩ := r
  cases hends with
  | goesOn hne =>
      refine ⟨by simp, hkeep (by simp) rfl rfl hmclosed, Or.inl ?_⟩
      have hpos := List.length_pos_iff.mpr hne
      rw [hlen]
      show c'.input.atoms.length < bs.length + c'.input.atoms.length
      omega
  | waits code _ hblocks hprog hcode hpay =>
      obtain ⟨hclosed, hless⟩ := hblocked _ hblocks
      have hne : some code ≠ some 0 := by
        simpa using hcode
      exact ⟨hne, hkeep hne hprog (bytesOf_blocks hblocks).symm hclosed, hless⟩
  | spins _ hblocks hprog hpay =>
      obtain ⟨hclosed, hless⟩ := hblocked _ hblocks
      exact ⟨by simp, hkeep (by simp) hprog (bytesOf_blocks hblocks).symm hclosed, hless⟩
  | dies _ hdead => exact absurd hdead halive

/-- Enough passes use up the script, and all the frames have been seen. -/
theorem Conn.Tracks.serve {frames : List HTTP2Frame} (n : Nat) {c : Conn ρ}
    (h : c.Tracks maxBodySize frames) (hn : c.input.atoms.length ≤ n) (H : StreamHandlers ρ) :
    (Http2.serve H maxBodySize n c).1 = false ∧
    (Http2.serve H maxBodySize n c).2.seen = frames ∧
    (Http2.serve H maxBodySize n c).2.input.reads = [] := by
  induction n generalizing c with
  | zero =>
      have hnil : c.input.atoms = [] := List.length_eq_zero_iff.mp (Nat.le_zero.mp hn)
      obtain ⟨rest, hrest, hfeed⟩ := h.frames_eq
      rw [hnil] at hfeed
      have hr : [] = rest := congrArg Prod.snd hfeed
      rw [← hr, List.append_nil] at hrest
      exact ⟨rfl, hrest, atomsOf_eq_nil hnil⟩
  | succ n ih =>
      obtain ⟨hne, htracks, hless⟩ := h.iterate H
      have hle : (managerIteration H maxBodySize c).2.input.atoms.length ≤ n := by
        rcases hless with hlt | hnil
        · omega
        · rw [hnil]
          exact Nat.zero_le n
      have hnext := ih htracks hle
      rcases hr : managerIteration H maxBodySize c with ⟨code, c'⟩
      rw [hr] at hne hnext
      unfold Http2.serve
      rw [hr]
      match code, hne with
      | none, _ => exact hnext
      | some (k + 1), _ => exact hnext

/-- **Frames arrive as they were sent.** Whatever the reads the bytes are cut into and however
many calls it takes, `dispatch_frame` is handed the frames that were sent, in order. -/
theorem serve_roundTrip (H : StreamHandlers ρ) (maxBodySize : Nat) (rest : ρ)
    (preface : List UInt8) (hpreface : preface.length = 24) (frames : List HTTP2Frame)
    (hframes : ∀ f ∈ frames, f.Sendable (maxAllowedPayload maxBodySize))
    (script : List ReadEvent)
    (hscript : Delivers (preface ++ frames.flatMap HTTP2Frame.sent) script) :
    ∃ n, ∀ m, n ≤ m →
      (serve H maxBodySize m (sessionInit rest script [])).1 = false ∧
      (serve H maxBodySize m (sessionInit rest script [])).2.seen = frames ∧
      (serve H maxBodySize m (sessionInit rest script [])).2.input.reads = [] := by
  have hinput := sessionInit_input rest script []
  have htracks : (sessionInit rest script []).Tracks maxBodySize frames := by
    refine ⟨sessionInit_settled rest script, ?_, ?_, ?_, frames, ?_, ?_⟩
    · rw [hinput]
      exact ReadProgress.fresh_ok
    · have hpos : 0 < ReadProgress.fresh.receiver.need := by decide
      rw [hinput]
      exact hpos
    · rw [hinput]
      exact hscript.no_closed
    · have hseen : (sessionInit rest script []).seen = [] := (Conn.emitAll_frame _ _).2.2
      rw [hseen]
      rfl
    · have hbytes : bytesOf (sessionInit rest script []).input.atoms
          = preface ++ frames.flatMap HTTP2Frame.sent := by
        rw [hinput]
        exact hscript.bytes_eq
      have hfresh : ReadProgress.fresh.receiver = .preface 0 := rfl
      rw [hbytes, hinput]
      simp only [hfresh]
      rw [Receiver.feedAll_append, Receiver.feedAll_preface hpreface]
      simp only
      rw [Receiver.feedAll_sent_all hframes]
      rfl
  refine ⟨(sessionInit rest script []).input.atoms.length, fun m hm => ?_⟩
  exact htracks.serve m hm H

end Serve

/-- A PING frame and an empty DATA frame, cut inside the preface, a header and the payload. -/
theorem serve_roundTrip_ping :
    let frames : List HTTP2Frame := [⟨⟨2, 0x06, 0x00, 0⟩, [7, 9]⟩, ⟨⟨0, 0x00, 0x01, 3⟩, []⟩]
    let script : List ReadEvent :=
      [.bytes (List.replicate 23 0), .wouldBlock, .bytes [0, 0, 0, 2, 6], .bytes [0, 0, 0, 0, 0, 7],
        .wouldBlock, .bytes [9, 0, 0, 0, 0, 1, 0, 0, 0], .bytes [3]]
    ∃ n, ∀ m, n ≤ m →
      (serve .silent 0 m (sessionInit () script [])).1 = false ∧
      (serve .silent 0 m (sessionInit () script [])).2.seen = frames ∧
      (serve .silent 0 m (sessionInit () script [])).2.input.reads = [] := by
  refine serve_roundTrip .silent 0 () (List.replicate 24 0) rfl _ (fun f hf => ?_) _
    ⟨by decide, by decide⟩
  simp only [List.mem_cons, List.not_mem_nil, or_false] at hf
  rcases hf with rfl | rfl <;>
    exact ⟨rfl, by decide, by decide, by decide, by decide⟩

end Halmos.Http2
