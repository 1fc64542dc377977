import Mathlib.Tactic

set_option autoImplicit false

/-! # Tallies

Threads, and whatever else comes in any number, are a list of states, and what they hold together is
a tally: the sum of what each of them holds. A step of one of them replaces its state, and the tally
changes by what that one holds. Numbers are tallied, and so are multisets of things held.
-/

namespace Halmos

section Tally

variable {α M N : Type} [AddCommMonoid M] [AddCommMonoid N] {f g : α → M} {l l' : List α} {i : Nat}
  {a b : α}

/-- What the elements of a list hold together. -/
def tally (f : α → M) (l : List α) : M := (l.map f).sum

@[simp] theorem tally_nil : tally f [] = 0 := rfl

@[simp] theorem tally_cons : tally f (a :: l) = f a + tally f l := by
  unfold tally
  rw [List.map_cons, List.sum_cons]

@[simp] theorem tally_append : tally f (l ++ l') = tally f l + tally f l' := by
  unfold tally
  rw [List.map_append, List.sum_append]

/-- What one element holds, and the rest: a step of that element leaves the rest alone. -/
theorem tally_split (h : l[i]? = some a) :
    ∃ rest, tally f l = f a + rest ∧ tally f (l.eraseIdx i) = rest
      ∧ ∀ b, tally f (l.set i b) = f b + rest := by
  induction l generalizing i with
  | nil => simp at h
  | cons c l ih =>
      cases i with
      | zero =>
          simp only [List.getElem?_cons_zero, Option.some.injEq] at h
          refine ⟨tally f l, ?_, rfl, fun b => ?_⟩
          · rw [tally_cons, h]
          · rw [List.set_cons_zero, tally_cons]
      | succ i =>
          rw [List.getElem?_cons_succ] at h
          obtain ⟨rest, hl, herase, hset⟩ := ih h
          refine ⟨f c + rest, ?_, ?_, fun b => ?_⟩
          · rw [tally_cons, hl, add_left_comm]
          · rw [List.eraseIdx_cons_succ, tally_cons, herase]
          · rw [List.set_cons_succ, tally_cons, hset, add_left_comm]

/-- A step of one element. -/
theorem tally_set (h : l[i]? = some a) : tally f (l.set i b) + f a = tally f l + f b := by
  obtain ⟨rest, hl, -, hset⟩ := tally_split (f := f) h
  rw [hl, hset, add_right_comm, add_comm (f b), add_right_comm]

theorem tally_eq_zero (h : ∀ a ∈ l, f a = 0) : tally f l = 0 := by
  induction l with
  | nil => rfl
  | cons c l ih =>
      rw [tally_cons, h c List.mem_cons_self, zero_add]
      exact ih (fun a ha => h a (List.mem_cons_of_mem c ha))

end Tally

section Multisets

variable {α β : Type} {f : α → Multiset β} {l : List α} {a : α} {b : β}

/-- What one element holds, all hold together. -/
theorem mem_tally (h : a ∈ l) (hb : b ∈ f a) : b ∈ tally f l := by
  induction l with
  | nil => cases h
  | cons c l ih =>
      rw [tally_cons, Multiset.mem_add]
      rcases List.mem_cons.mp h with rfl | h
      · exact Or.inl hb
      · exact Or.inr (ih h)

/-- What all hold together, one of them holds. -/
theorem exists_of_mem_tally (h : b ∈ tally f l) : ∃ a ∈ l, b ∈ f a := by
  induction l with
  | nil => exact absurd h (Multiset.notMem_zero b)
  | cons c l ih =>
      rw [tally_cons, Multiset.mem_add] at h
      rcases h with h | h
      · exact ⟨c, List.mem_cons_self, h⟩
      · obtain ⟨a, ha, hb⟩ := ih h
        exact ⟨a, List.mem_cons_of_mem c ha, hb⟩

/-- Whoever holds something is counted in what all hold. -/
theorem countP_le_countP_tally {q : α → Bool} {p : β → Prop} [DecidablePred p]
    (h : ∀ a ∈ l, q a = true → ∃ b ∈ f a, p b) : l.countP q ≤ (tally f l).countP p := by
  induction l with
  | nil => exact Nat.zero_le _
  | cons c l ih =>
      have hrest := ih (fun a ha => h a (List.mem_cons_of_mem c ha))
      rw [tally_cons, Multiset.countP_add]
      by_cases hc : q c = true
      · have hone : 0 < (f c).countP p :=
          Multiset.countP_pos.mpr (h c List.mem_cons_self hc)
        rw [List.countP_cons_of_pos hc]
        omega
      · rw [List.countP_cons_of_neg hc]
        omega

end Multisets

end Halmos
