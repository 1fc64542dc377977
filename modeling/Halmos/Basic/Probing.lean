import Mathlib.Tactic

set_option autoImplicit false

/-! # Linear probing

The scan of a hash table with open addressing: from the slot the key hashes to onwards, round the
end, to the first slot at which it stops. What it finds is said by distances from that slot, so a
user of this file never looks at the loop.
-/

namespace Halmos

section Probing

variable {α : Type} {size start : Nat} {table : Nat → α} {stop : α → Bool}

/-- The slot at a distance from the start. -/
def slotAt (size start d : Nat) : Nat := (start + d) % size

/-- The loop over the distances from `d` on, `left` of them. -/
def probeLoop (size start : Nat) (table : Nat → α) (stop : α → Bool) : Nat → Nat → Option Nat
  | 0, _ => none
  | left + 1, d =>
      if stop (table (slotAt size start d)) then some (slotAt size start d)
      else probeLoop size start table stop left (d + 1)

/-- The first slot at which the scan stops. -/
def probe (size start : Nat) (table : Nat → α) (stop : α → Bool) : Option Nat :=
  probeLoop size start table stop size 0

/-- The slot at the distance `d` is the first one at which the scan stops. -/
structure FirstStop (size start : Nat) (table : Nat → α) (stop : α → Bool) (d : Nat) : Prop where
  lt : d < size
  stops : stop (table (slotAt size start d)) = true
  before : ∀ d' < d, stop (table (slotAt size start d')) = false

theorem FirstStop.unique {d d' : Nat} (h : FirstStop size start table stop d)
    (h' : FirstStop size start table stop d') : d = d' := by
  rcases Nat.lt_trichotomy d d' with hlt | heq | hlt
  · have hnot := h'.before d hlt
    rw [h.stops] at hnot
    cases hnot
  · exact heq
  · have hnot := h.before d' hlt
    rw [h'.stops] at hnot
    cases hnot

/-- What the loop finds from the distance `d` on, when it has not stopped before. -/
theorem probeLoop_spec {left d : Nat} (hd : d + left = size)
    (hbefore : ∀ d' < d, stop (table (slotAt size start d')) = false) :
    match probeLoop size start table stop left d with
    | some j => ∃ e, FirstStop size start table stop e ∧ j = slotAt size start e
    | none => ∀ e < size, stop (table (slotAt size start e)) = false := by
  induction left generalizing d with
  | zero =>
      intro e he
      apply hbefore
      omega
  | succ left ih =>
      rw [probeLoop]
      by_cases hstop : stop (table (slotAt size start d)) = true
      · rw [if_pos hstop]
        exact ⟨d, ⟨by omega, hstop, hbefore⟩, rfl⟩
      · rw [if_neg hstop]
        apply ih (by omega)
        intro d' hd'
        rcases Nat.lt_succ_iff_lt_or_eq.mp hd' with hlt | rfl
        · exact hbefore d' hlt
        · exact Bool.not_eq_true _ ▸ hstop

theorem probe_spec :
    match probe size start table stop with
    | some j => ∃ d, FirstStop size start table stop d ∧ j = slotAt size start d
    | none => ∀ d < size, stop (table (slotAt size start d)) = false :=
  probeLoop_spec (Nat.zero_add size) (fun d' hd' => absurd hd' (Nat.not_lt_zero d'))

theorem probe_some {j : Nat} (h : probe size start table stop = some j) :
    ∃ d, FirstStop size start table stop d ∧ j = slotAt size start d := by
  have hspec := @probe_spec α size start table stop
  rw [h] at hspec
  exact hspec

/-- Every slot is at some distance from the start. -/
theorem exists_slotAt {j : Nat} (hj : j < size) (start : Nat) :
    ∃ d < size, slotAt size start d = j := by
  have hpos : 0 < size := Nat.zero_lt_of_lt hj
  refine ⟨(j + (size - start % size)) % size, Nat.mod_lt _ hpos, ?_⟩
  have hstart : start % size < size := Nat.mod_lt _ hpos
  have hsum : start % size + (j + (size - start % size)) = j + size := by omega
  unfold slotAt
  calc (start + (j + (size - start % size)) % size) % size
      = (start % size + (j + (size - start % size))) % size := by
        rw [Nat.add_mod, Nat.mod_mod, ← Nat.add_mod, Nat.mod_add_mod]
    _ = (j + size) % size := by rw [hsum]
    _ = j % size := Nat.add_mod_right j size
    _ = j := Nat.mod_eq_of_lt hj

/-- The scan that finds nothing has passed every slot. -/
theorem probe_none (h : probe size start table stop = none) {j : Nat} (hj : j < size) :
    stop (table j) = false := by
  have hspec := @probe_spec α size start table stop
  rw [h] at hspec
  obtain ⟨d, hd, rfl⟩ := exists_slotAt hj start
  exact hspec d hd

end Probing

end Halmos
