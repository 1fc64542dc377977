import Halmos.Basic.Runs
import Halmos.Http2.Steps

set_option autoImplicit false

/-! # The windows as numbers

The outbound windows are 32-bit machine integers, and none of the frames that move them checks for
an overflow. Run next to the same operations on exact integers, a window is its exact sum modulo
`2 ^ 32` (`windows_run`), so that it is the sum itself exactly as long as the sum fits
(`windows_exact_iff`).
-/

namespace Halmos.Http2

/-- The windows of a new session, as exact integers. -/
def exactFresh : Ledger Int := ⟨65535, 65535, fun _ => none⟩

/-- A session after some frames. -/
def Run.afterFrames (streams : Nat → StreamRest) (frames : List (Frame × Environment)) : Run :=
  runSteps Run.step (Run.fresh streams) (frames.map (fun p => .frame p.1 p.2))

/-- The exact sums after some frames: initial values, increments and changes of the initial
window. -/
def exactLedger (frames : List (Frame × Environment)) : Ledger Int :=
  exactFresh.applyAll id (frames.flatMap (fun p => p.1.ledgerOps p.2))

/-- The windows of the session and of all its streams are the exact sums. -/
structure WindowsExact (s : Server) (l : Ledger Int) : Prop where
  session : s.outWindowSize.toInt = l.session
  streams : ∀ id, (lookupStream s id).map (fun st => st.outWindowSize.toInt) = l.streams id

/-- No sum exceeds the largest window. -/
structure LedgerFits (l : Ledger Int) : Prop where
  session : l.session ≤ 2 ^ 31 - 1
  streams : ∀ id w, l.streams id = some w → w ≤ 2 ^ 31 - 1

/-! ## The windows modulo `2 ^ 32` -/

theorem windows_fresh (rest : ServerRest) : windows (.fresh rest) = exactFresh.map Int32.ofInt := by
  apply Ledger.ext
  · rfl
  · rfl
  · intro id
    show (lookupStream (.fresh rest) id).map _ = none
    rw [lookup_fresh]
    rfl

theorem windows_run (streams : Nat → StreamRest) (frames : List (Frame × Environment)) :
    windows (Run.afterFrames streams frames).server = (exactLedger frames).map Int32.ofInt := by
  have hrun : ∀ (frames : List (Frame × Environment)) (r : Run), Sized r.server →
      windows (runSteps Run.step r (frames.map (fun p => .frame p.1 p.2))).server
        = (windows r.server).applyAll Int32.ofInt
          (frames.flatMap (fun p => p.1.ledgerOps p.2)) := by
    intro frames
    induction frames with
    | nil =>
        intro r _
        rfl
    | cons p frames ih =>
        intro r hsized
        have hstep : (r.step (.frame p.1 p.2)).server = (handleFrame p.2 r.server p.1).1 := by
          rw [Run.step_frame]
        have hsized' : Sized (r.step (.frame p.1 p.2)).server := by
          rw [hstep]
          exact sized_handleFrame hsized
        rw [List.map_cons, runSteps_cons, ih _ hsized', hstep, windows_handleFrame hsized,
          List.flatMap_cons, Ledger.applyAll_append]
  calc windows (Run.afterFrames streams frames).server
      = (windows (Run.fresh streams).server).applyAll Int32.ofInt
          (frames.flatMap (fun p => p.1.ledgerOps p.2)) := hrun frames _ (sized_fresh _)
    _ = (exactFresh.map Int32.ofInt).applyAll Int32.ofInt
          (frames.flatMap (fun p => p.1.ledgerOps p.2)) := by
        rw [show (Run.fresh streams).server = .fresh ⟨.empty, streams⟩ from rfl, windows_fresh]
    _ = (exactLedger frames).map Int32.ofInt :=
        (Ledger.applyAll_map Int32.ofInt_add Int32.ofInt_sub _ _).symm

/-! ## The exact sums -/

theorem ledgerOps_grant (f : Frame) (env : Environment) : ∀ op ∈ f.ledgerOps env, op.Grants := by
  unfold Frame.ledgerOps
  split_ifs
  · rw [List.forall_mem_singleton]
    trivial
  · intro op hop
    cases hop
  · intro op hop
    obtain ⟨val, -, rfl⟩ := List.mem_map.mp hop
    exact Int.natCast_nonneg _
  · intro op hop
    cases hop
  · rw [List.forall_mem_singleton]
    exact Int.natCast_nonneg _
  · rw [List.forall_mem_singleton]
    exact Int.natCast_nonneg _
  · intro op hop
    cases hop

theorem exactLedger_sound (frames : List (Frame × Environment)) :
    (exactLedger frames).Sound := by
  apply Ledger.Sound.applyAll
  · exact ⟨by decide, by decide, fun id w h => nomatch h⟩
  · intro op hop
    obtain ⟨p, -, hmem⟩ := List.mem_flatMap.mp hop
    exact ledgerOps_grant p.1 p.2 op hmem

/-! ## When they agree -/

theorem toInt_ofInt_eq_iff {x : Int} (h : 0 ≤ x) :
    (Int32.ofInt x).toInt = x ↔ x ≤ 2 ^ 31 - 1 := by
  constructor
  · intro heq
    have hlt := Int32.toInt_lt (Int32.ofInt x)
    omega
  · intro hle
    exact Int32.toInt_ofInt_of_le (by omega) (by omega)

/-- **When the windows are right**: after any frames the windows of the session and of all its
streams are the exact sums, if and only if no sum exceeds `2 ^ 31 - 1`. -/
theorem windows_exact_iff (streams : Nat → StreamRest) (frames : List (Frame × Environment)) :
    WindowsExact (Run.afterFrames streams frames).server (exactLedger frames)
      ↔ LedgerFits (exactLedger frames) := by
  have hrun := windows_run streams frames
  obtain ⟨hsession, hinitial, hstreams⟩ := exactLedger_sound frames
  generalize (Run.afterFrames streams frames).server = s at hrun ⊢
  generalize exactLedger frames = l at hrun hsession hinitial hstreams ⊢
  have hwin : s.outWindowSize = Int32.ofInt l.session := congrArg Ledger.session hrun
  have hlook : ∀ id, (lookupStream s id).map (fun st => st.outWindowSize.toInt)
      = (l.streams id).map (fun w => (Int32.ofInt w).toInt) := by
    intro id
    have hid : (lookupStream s id).map HTTP2Stream.outWindowSize
        = (l.streams id).map Int32.ofInt := congrArg (fun l => l.streams id) hrun
    have hboth := congrArg (Option.map Int32.toInt) hid
    rwa [Option.map_map, Option.map_map] at hboth
  constructor
  · rintro ⟨hexact, hexacts⟩
    constructor
    · rw [hwin] at hexact
      exact (toInt_ofInt_eq_iff hsession).mp hexact
    · intro id w hw
      have hid := (hlook id).symm.trans (hexacts id)
      rw [hw, Option.map_some, Option.some.injEq] at hid
      exact (toInt_ofInt_eq_iff (Int.le_trans hinitial (hstreams id w hw))).mp hid
  · rintro ⟨hfits, hfit⟩
    constructor
    · rw [hwin]
      exact (toInt_ofInt_eq_iff hsession).mpr hfits
    · intro id
      rw [hlook]
      cases hw : l.streams id with
      | none => rfl
      | some w =>
          rw [Option.map_some, (toInt_ofInt_eq_iff (Int.le_trans hinitial (hstreams id w hw))).mpr
            (hfit id w hw)]

/-- A WINDOW_UPDATE of `2 ^ 31 - 1` for a new session turns its window negative. -/
theorem windows_wrap :
    let frames : List (Frame × Environment) :=
      [(⟨0x08, 0x00, 0, [0x7F, 0xFF, 0xFF, 0xFF], by decide, by decide⟩, .plain)]
    (Run.afterFrames (fun _ => .new .plain) frames).server.outWindowSize.toInt = -2147418114 ∧
      (exactLedger frames).session = 2147549182 := by
  decide

end Halmos.Http2
