import Halmos.Http2.Manager

set_option autoImplicit false

/-! # When the session loop returns

One call of `http2_manager_session` with every write accepted and no stream active returns
unless its input runs dry inside the payload of a frame (`runsDry`). There
`read_frame_payload` hands on the `2` of `handle_socket_retry`, which the loop takes for
progress, and the call spins; the same code from the preface and the frame header is a return.
-/

namespace Halmos.Http2

/-! ## Scripts that run dry -/

/-- Whether a script ends while a receiver at `r` waits for payload bytes. A would-block or the
end of the script outside a payload, and a closed connection anywhere, end the call first. -/
def runsDry (maxLen : Nat) : Receiver → List Atom → Prop
  | r, [] => r.InPayload
  | r, .byte b :: as => runsDry maxLen (r.feed maxLen b).1 as
  | r, .block :: as => r.InPayload ∧ runsDry maxLen r as
  | _, .closed :: _ => False

instance decidableRunsDry (maxLen : Nat) : ∀ (r : Receiver) (as : List Atom),
    Decidable (runsDry maxLen r as)
  | r, [] => inferInstanceAs (Decidable r.InPayload)
  | r, .byte b :: as => decidableRunsDry maxLen (r.feed maxLen b).1 as
  | r, .block :: as =>
      have := decidableRunsDry maxLen r as
      inferInstanceAs (Decidable (r.InPayload ∧ runsDry maxLen r as))
  | _, .closed :: _ => inferInstanceAs (Decidable False)

section Dry

variable {maxLen : Nat}

theorem runsDry_bytes (r : Receiver) (bs : List UInt8) (as : List Atom) :
    runsDry maxLen r (bs.map .byte ++ as) ↔ runsDry maxLen (r.feedAll maxLen bs).1 as := by
  induction bs generalizing r with
  | nil => rfl
  | cons b bs ih => exact ih (r.feed maxLen b).1

theorem not_runsDry_closed (as : List Atom) : ¬ runsDry maxLen .closed as := by
  induction as with
  | nil => exact id
  | cons a as ih =>
      cases a with
      | byte b => exact ih
      | block =>
          rintro ⟨hin, -⟩
          exact hin
      | closed => exact id

theorem Input.Dead.not_runsDry {i : Input} (h : i.Dead maxLen) :
    ¬ runsDry maxLen i.progress.receiver i.atoms := by
  obtain ⟨bs, as, hatoms, hend⟩ := h
  rw [hatoms, runsDry_bytes]
  rcases hend with hclosed | ⟨as', rfl⟩
  · rw [hclosed]
    exact not_runsDry_closed as
  · exact id

/-- Where the call returns at a would-block, the script does not run dry. -/
theorem not_runsDry_of_blocks {r : Receiver} {as as' : List Atom} (h : Blocks as as')
    (hout : ¬ r.InPayload) : ¬ runsDry maxLen r as := by
  rcases h with rfl | ⟨rfl, -⟩
  · rintro ⟨hin, -⟩
    exact hout hin
  · exact hout

theorem runsDry_of_blocks {r : Receiver} {as as' : List Atom} (h : Blocks as as')
    (hin : r.InPayload) : runsDry maxLen r as ↔ runsDry maxLen r as' := by
  rcases h with rfl | ⟨rfl, rfl⟩
  · exact ⟨fun hdry => hdry.2, fun hdry => ⟨hin, hdry⟩⟩
  · exact Iff.rfl

end Dry

section Returns

variable {ρ : Type} {H : StreamHandlers ρ} {maxBodySize : Nat}

/-- The connection at the head of the loop after `n` passes that have not returned. -/
def managerPasses (H : StreamHandlers ρ) (maxBodySize : Nat) : Nat → Conn ρ → Option (Conn ρ)
  | 0, c => some c
  | n + 1, c =>
      match managerIteration H maxBodySize c with
      | (none, c') => managerPasses H maxBodySize n c'
      | (some _, _) => none

/-- No stream is active at the head of any pass of the call. -/
def Conn.Quiet (H : StreamHandlers ρ) (maxBodySize : Nat) (c : Conn ρ) : Prop :=
  ∀ n c', managerPasses H maxBodySize n c = some c' →
    http2ResponseHasActiveStreams c'.protocol = false

theorem Conn.Quiet.now {c : Conn ρ} (h : c.Quiet H maxBodySize) :
    http2ResponseHasActiveStreams c.protocol = false := h 0 c rfl

theorem Conn.Quiet.next {c c' : Conn ρ} (h : c.Quiet H maxBodySize)
    (hstep : managerIteration H maxBodySize c = (none, c')) : c'.Quiet H maxBodySize := by
  intro n c'' hpasses
  refine h (n + 1) c'' ?_
  simp only [managerPasses, hstep]
  exact hpasses

/-- What the loop keeps from pass to pass while every write is accepted. -/
structure Conn.Live (H : StreamHandlers ρ) (maxBodySize : Nat) (c : Conn ρ) : Prop where
  ok : c.input.progress.Ok
  need_pos : 0 < c.input.progress.receiver.need
  writes : c.writes = []
  no_error : c.side.backlog.writeError = false
  quiet : c.Quiet H maxBodySize

/-- The script of the connection runs dry. -/
def Conn.RunsDry (maxBodySize : Nat) (c : Conn ρ) : Prop :=
  runsDry (maxAllowedPayload maxBodySize) c.input.progress.receiver c.input.atoms

/-- One pass either returns, and then the script does not run dry, or goes on with a script
that runs dry as well; and if nothing has been taken from the script, it has run dry. -/
theorem managerIteration_live {c : Conn ρ} (h : c.Live H maxBodySize) :
    (∃ code c', managerIteration H maxBodySize c = (some code, c') ∧ ¬ c.RunsDry maxBodySize) ∨
    (∃ c', managerIteration H maxBodySize c = (none, c') ∧ c'.Live H maxBodySize ∧
      (c'.RunsDry maxBodySize ↔ c.RunsDry maxBodySize) ∧
      (c'.input.atoms.length < c.input.atoms.length ∨ c.RunsDry maxBodySize)) := by
  obtain ⟨c₀, hset, hinput, hprot, hseen, heq⟩ :=
    managerIteration_of_accepting H maxBodySize h.writes h.no_error
  have hq₀ : http2ResponseHasActiveStreams c₀.protocol = false := hprot ▸ h.quiet.now
  have hiter := managerPreface_iterates maxBodySize H (c := c₀)
    (hinput ▸ h.ok) (hinput ▸ h.need_pos)
  rw [← heq] at hiter
  obtain ⟨⟨bs, frames, m, hcons, hends, -⟩, hsettled, hinactive⟩ := hiter
  rw [hinput] at hcons
  have hdry : c.RunsDry maxBodySize
      ↔ runsDry (maxAllowedPayload maxBodySize) m.progress.receiver m.atoms := by
    unfold Conn.RunsDry
    rw [hcons.atoms, runsDry_bytes, hcons.feeds]
  have hlen : c.input.atoms.length = bs.length + m.atoms.length := by
    rw [hcons.atoms, List.length_append, List.length_map]
  rcases hr : managerIteration H maxBodySize c with ⟨code, c'⟩
  rw [hr] at hends hsettled hinactive
  have hfour := hinactive hset hq₀
  simp only at hends hfour
  -- a pass that goes on leaves everything in order
  have hlive : code = none → c'.input.progress = m.progress → c'.Live H maxBodySize := by
    rintro rfl hprog
    have hs := hsettled hset (by simp)
    exact ⟨hprog ▸ hcons.ok, hprog ▸ hcons.need_pos, hs.writes, hs.no_error, h.quiet.next hr⟩
  cases hends with
  | goesOn hne =>
      have hpos := List.length_pos_iff.mpr hne
      exact Or.inr ⟨c', rfl, hlive rfl rfl, hdry.symm, Or.inl (by omega)⟩
  | waits code _ hblocks hprog hcode hpay =>
      refine Or.inl ⟨code, c', rfl, fun hd => ?_⟩
      have hout : ¬ m.progress.receiver.InPayload := by
        intro hin
        exact hfour (congrArg some (hpay hin))
      exact not_runsDry_of_blocks hblocks hout (hdry.mp hd)
  | spins _ hblocks hprog hin =>
      have hdry' : c'.RunsDry maxBodySize ↔ c.RunsDry maxBodySize := by
        rw [hdry, runsDry_of_blocks hblocks hin]
        unfold Conn.RunsDry
        rw [hprog]
      refine Or.inr ⟨c', rfl, hlive rfl hprog, hdry', ?_⟩
      rcases hblocks with hblock | ⟨hnil, -⟩
      · left
        rw [hlen, hblock, List.length_cons]
        omega
      · right
        rw [hdry, hnil]
        exact hin
  | dies _ hdead => exact Or.inl ⟨0, c', rfl, fun hd => hdead.not_runsDry (hdry.mp hd)⟩

/-- A call whose script does not run dry returns. The measure is the length of the script. -/
theorem returns_of_not_runsDry {c : Conn ρ} (h : c.Live H maxBodySize)
    (hdry : ¬ c.RunsDry maxBodySize) :
    ∃ fuel r, http2ManagerSession H maxBodySize fuel c = some r := by
  induction hn : c.input.atoms.length using Nat.strong_induction_on generalizing c with
  | _ n ih =>
      rcases managerIteration_live h with ⟨code, c', hstep, -⟩ | ⟨c', hstep, hlive, hiff, hless⟩
      · refine ⟨1, (code, c'), ?_⟩
        simp only [http2ManagerSession, hstep]
      · rcases hless with hlt | hcon
        · obtain ⟨fuel, r, hret⟩ := ih _ (hn ▸ hlt) hlive (fun hd => hdry (hiff.mp hd)) rfl
          refine ⟨fuel + 1, r, ?_⟩
          simp only [http2ManagerSession, hstep]
          exact hret
        · exact absurd hcon hdry

/-- A call whose script runs dry spins. -/
theorem spins_of_runsDry (fuel : Nat) {c : Conn ρ} (h : c.Live H maxBodySize)
    (hdry : c.RunsDry maxBodySize) : http2ManagerSession H maxBodySize fuel c = none := by
  induction fuel generalizing c with
  | zero => rfl
  | succ fuel ih =>
      rcases managerIteration_live h with ⟨code, c', -, hnot⟩ | ⟨c', hstep, hlive, hiff, -⟩
      · exact absurd hdry hnot
      · simp only [http2ManagerSession, hstep]
        exact ih hlive (hiff.mpr hdry)

/-- **When a call returns.** In every reachable state, with every write accepted and no stream
active, one call of `http2_manager_session` returns if and only if a write has failed before
or its script does not run dry inside a payload. -/
theorem http2ManagerSession_returns_iff (H : StreamHandlers ρ) (maxBodySize : Nat) (c : Conn ρ)
    (hreach : c.Reachable H maxBodySize) (hwrites : c.writes = [])
    (hquiet : c.Quiet H maxBodySize) :
    (∃ fuel r, http2ManagerSession H maxBodySize fuel c = some r) ↔
      c.side.backlog.writeError = true ∨
      ¬ runsDry (maxAllowedPayload maxBodySize) c.input.progress.receiver c.input.atoms := by
  obtain ⟨hok, hneed⟩ := hreach.progress_ok
  cases he : c.side.backlog.writeError with
  | true =>
      refine ⟨fun _ => Or.inl rfl, fun _ => ⟨1, (0, c), ?_⟩⟩
      simp [http2ManagerSession, managerIteration, he]
  | false =>
      have hlive : c.Live H maxBodySize := ⟨hok, hneed, hwrites, he, hquiet⟩
      constructor
      · rintro ⟨fuel, r, hret⟩
        refine Or.inr (fun hdry => ?_)
        rw [spins_of_runsDry fuel hlive hdry] at hret
        cases hret
      · rintro (hcon | hdry)
        · cases hcon
        · exact returns_of_not_runsDry hlive hdry

end Returns

/-- The preface in two pieces with a would-block between, then nothing: the call returns. -/
theorem http2ManagerSession_returns_preface :
    let c := sessionInit () [.bytes (List.replicate 20 0), .wouldBlock] []
    (∃ fuel r, http2ManagerSession .silent 0 fuel c = some r) ↔
      c.side.backlog.writeError = true ∨
      ¬ runsDry (maxAllowedPayload 0) c.input.progress.receiver c.input.atoms := by
  refine http2ManagerSession_returns_iff .silent 0 _ (.init () _ []) rfl ?_
  intro n c' hpasses
  match n with
  | 0 =>
      cases hpasses
      decide
  | 1 =>
      cases hpasses
      decide
  | n + 2 => cases hpasses

/-- The bytes of a client that sends the preface and the header of a PING frame and then falls
silent. -/
def pingWithoutPayload : List UInt8 := List.replicate 24 0 ++ frameHeaderBytes 0x06 0x00 0 8

/-- The connection in the middle of that frame. -/
def stuckConn : Conn Unit where
  side := ⟨.fresh, settingsBytes⟩
  input :=
    ⟨⟨frameHeaderBytes 0x06 0x00 0 8, 9, 24, .payload, ⟨8, 0x06, 0x00, 0⟩, some [], 0⟩, []⟩
  protocol := .fresh ()
  writes := []
  seen := []

/-- On these bytes the loop goes on for ever: its second pass changes nothing. -/
theorem http2ManagerSession_spins :
    ¬ ∀ (H : StreamHandlers Unit) (maxBodySize : Nat) (c : Conn Unit),
      c.Reachable H maxBodySize → c.writes = [] → c.Quiet H maxBodySize →
      ∃ fuel r, http2ManagerSession H maxBodySize fuel c = some r := by
  intro h
  have hfirst : managerIteration .silent 0 (sessionInit () [.bytes pingWithoutPayload] [])
      = (none, stuckConn) := by rfl
  have hagain : managerIteration .silent 0 stuckConn = (none, stuckConn) := by rfl
  have hloop : ∀ n, managerPasses .silent 0 n stuckConn = some stuckConn := by
    intro n
    induction n with
    | zero => rfl
    | succ n ih =>
        simp only [managerPasses, hagain]
        exact ih
  have hquiet : (sessionInit () [.bytes pingWithoutPayload] []).Quiet .silent 0 := by
    intro n c hpasses
    cases n with
    | zero =>
        injection hpasses with hc
        rw [← hc]
        rfl
    | succ n =>
        simp only [managerPasses, hfirst] at hpasses
        rw [hloop n] at hpasses
        injection hpasses with hc
        rw [← hc]
        rfl
  obtain ⟨fuel, r, hret⟩ := h .silent 0 _ (.init () [.bytes pingWithoutPayload] []) rfl hquiet
  have hnone : ∀ fuel, http2ManagerSession .silent 0 fuel stuckConn = none := by
    intro fuel
    induction fuel with
    | zero => rfl
    | succ fuel ih =>
        simp only [http2ManagerSession, hagain]
        exact ih
  cases fuel with
  | zero => cases hret
  | succ fuel =>
      simp only [http2ManagerSession, hfirst] at hret
      rw [hnone fuel] at hret
      cases hret

end Halmos.Http2
