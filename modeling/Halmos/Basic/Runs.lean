import Mathlib.Tactic

set_option autoImplicit false

/-! # Runs of a step function, free and guarded

A component is a total step function `step : σ → ι → σ`; an input `i : ι` carries what the
caller asks for together with what the environment answers. `runSteps` is the state after a
list of inputs. `GuardedRun guard step s is` says that every input of `is` meets the guard in
the state it is applied to: the form of the statements "in every run whose steps all meet the
condition". An invariant is proved once per step and lifted to runs here.
-/

namespace Halmos

section Runs

variable {σ ι : Type} {step : σ → ι → σ} {guard : σ → ι → Prop} {Inv : σ → Prop}

/-- The state reached from `s` by the inputs `is`, in order. -/
def runSteps (step : σ → ι → σ) (s : σ) (is : List ι) : σ := is.foldl step s

@[simp] theorem runSteps_nil (s : σ) : runSteps step s [] = s := rfl

@[simp] theorem runSteps_cons (s : σ) (i : ι) (is : List ι) :
    runSteps step s (i :: is) = runSteps step (step s i) is := rfl

theorem runSteps_append (s : σ) (is js : List ι) :
    runSteps step s (is ++ js) = runSteps step (runSteps step s is) js :=
  List.foldl_append

/-- What every input of a list preserves, the whole list preserves. -/
theorem runSteps_induction {s : σ} {is : List ι} (hs : Inv s)
    (hstep : ∀ i ∈ is, ∀ s, Inv s → Inv (step s i)) : Inv (runSteps step s is) := by
  induction is generalizing s with
  | nil => exact hs
  | cons i is ih =>
      apply ih
      · exact hstep i List.mem_cons_self s hs
      · intro j hj
        exact hstep j (List.mem_cons_of_mem i hj)

/-- Every input meets the guard in the state it is applied to. -/
def GuardedRun (guard : σ → ι → Prop) (step : σ → ι → σ) : σ → List ι → Prop
  | _, [] => True
  | s, i :: is => guard s i ∧ GuardedRun guard step (step s i) is

@[simp] theorem guardedRun_nil (s : σ) : GuardedRun guard step s [] := trivial

@[simp] theorem guardedRun_cons (s : σ) (i : ι) (is : List ι) :
    GuardedRun guard step s (i :: is) ↔ guard s i ∧ GuardedRun guard step (step s i) is :=
  Iff.rfl

theorem guardedRun_true (s : σ) (is : List ι) : GuardedRun (fun _ _ => True) step s is := by
  induction is generalizing s with
  | nil => trivial
  | cons i is ih => exact ⟨trivial, ih (step s i)⟩

theorem guardedRun_append {s : σ} {is js : List ι} :
    GuardedRun guard step s (is ++ js)
      ↔ GuardedRun guard step s is ∧ GuardedRun guard step (runSteps step s is) js := by
  induction is generalizing s with
  | nil => exact ⟨fun h => ⟨guardedRun_nil s, h⟩, fun h => h.2⟩
  | cons i is ih =>
      rw [List.cons_append, guardedRun_cons, guardedRun_cons, ih, runSteps_cons, and_assoc]

/-- A guarded run is guarded up to each of its inputs. -/
theorem GuardedRun.of_append {s : σ} {is js : List ι}
    (h : GuardedRun guard step s (is ++ js)) : GuardedRun guard step s is :=
  (guardedRun_append.mp h).1

/-- **Invariants of guarded runs**: what a guarded step preserves, a guarded run preserves. -/
theorem GuardedRun.invariant
    (hstep : ∀ s i, Inv s → guard s i → Inv (step s i))
    {s : σ} {is : List ι} (hs : Inv s) (h : GuardedRun guard step s is) :
    Inv (runSteps step s is) := by
  induction is generalizing s with
  | nil => exact hs
  | cons i is ih => exact ih (hstep s i hs h.1) h.2

/-- **Exact guards**: if a step that meets the guard leads from good states to good ones, and one
that does not leads to a bad one, the states of a run are all good exactly if it is guarded. What
is assumed of every step, and neither causes nor prevents a bad state, is `free`. -/
theorem GuardedRun.iff_forall_prefix (Inv : σ → Prop) {free : σ → ι → Prop} {Good : σ → Prop}
    (hgood : ∀ s, Inv s → Good s)
    (hstep : ∀ s i, Inv s → free s i → guard s i → Inv (step s i))
    (hbad : ∀ s i, Inv s → free s i → ¬ guard s i → ¬ Good (step s i))
    {s : σ} {is : List ι} (hs : Inv s) (hfree : GuardedRun free step s is) :
    (∀ js, js <+: is → Good (runSteps step s js)) ↔ GuardedRun guard step s is := by
  induction is generalizing s with
  | nil =>
      refine ⟨fun _ => trivial, fun _ js hjs => ?_⟩
      rw [List.prefix_nil.mp hjs]
      exact hgood s hs
  | cons i is ih =>
      obtain ⟨hi, hrest⟩ := hfree
      constructor
      · intro h
        have hguard : guard s i := by
          by_contra hno
          exact hbad s i hs hi hno (h [i] (List.prefix_append [i] is))
        refine ⟨hguard, (ih (hstep s i hs hi hguard) hrest).mp fun js hjs => ?_⟩
        exact h (i :: js) ((List.prefix_cons_inj i).mpr hjs)
      · rintro ⟨hguard, h⟩ js hjs
        cases js with
        | nil => exact hgood s hs
        | cons j js =>
            obtain ⟨rfl, htail⟩ := List.cons_prefix_cons.mp hjs
            exact (ih (hstep s j hs hi hguard) hrest).mpr h js htail

end Runs

end Halmos
