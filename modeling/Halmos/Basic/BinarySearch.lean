import Mathlib.Tactic

set_option autoImplicit false

/-! # Binary search

The search with the bounds `low` and `high`, both of them inside. What it finds is the key that it
searches for, in any table (`binarySearch_some`); that it finds every key needs a table in strict
order (`binarySearch_sorted`).
-/

namespace Halmos

section Search

variable {α : Type} {cmp : α → α → Ordering} {keys : List α} {k : α}

/-- `while (low <= high)`, for so many rounds. -/
def searchLoop (cmp : α → α → Ordering) (keys : List α) (k : α) :
    (rounds : Nat) → (low high : Int) → Option Nat
  | 0, _, _ => none
  | rounds + 1, low, high =>
      if low ≤ high then
        let mid := (low + high) / 2
        match keys[mid.toNat]? with
        | some key =>
            match cmp k key with
            | .eq => some mid.toNat
            | .lt => searchLoop cmp keys k rounds low (mid - 1)
            | .gt => searchLoop cmp keys k rounds (mid + 1) high
        | none => none
      else none

/-- The position of a key, which takes no more rounds than there are keys (`searchLoop_rounds`). -/
def binarySearch (cmp : α → α → Ordering) (keys : List α) (k : α) : Option Nat :=
  searchLoop cmp keys k keys.length 0 (keys.length - 1)

/-- More rounds than there are keys between the bounds change nothing. -/
theorem searchLoop_rounds {rounds : Nat} {low high : Int} (hrounds : high - low < rounds) (more : Nat) :
    searchLoop cmp keys k (rounds + more) low high = searchLoop cmp keys k rounds low high := by
  induction rounds generalizing low high with
  | zero =>
      have hle : ¬ low ≤ high := by omega
      cases more with
      | zero => rfl
      | succ more => simp [searchLoop, hle]
  | succ rounds ih =>
      rw [Nat.succ_add, searchLoop, searchLoop]
      have hleft : (low + high) / 2 - 1 - low < rounds ∨ ¬ low ≤ high := by omega
      have hright : high - ((low + high) / 2 + 1) < rounds ∨ ¬ low ≤ high := by omega
      by_cases hle : low ≤ high
      · simp only [if_pos hle, ih (hleft.resolve_right (not_not.mpr hle)),
          ih (hright.resolve_right (not_not.mpr hle))]
      · simp only [if_neg hle]

theorem searchLoop_some {rounds i : Nat} {low high : Int}
    (h : searchLoop cmp keys k rounds low high = some i) :
    ∃ key, keys[i]? = some key ∧ cmp k key = .eq := by
  induction rounds generalizing low high with
  | zero => cases h
  | succ rounds ih =>
      rw [searchLoop] at h
      split at h
      · cases hkey : keys[((low + high) / 2).toNat]? with
        | none => simp [hkey] at h
        | some key =>
            cases hcmp : cmp k key with
            | eq =>
                simp only [hkey, hcmp, Option.some.injEq] at h
                exact ⟨key, h ▸ hkey, hcmp⟩
            | lt =>
                simp only [hkey, hcmp] at h
                exact ih h
            | gt =>
                simp only [hkey, hcmp] at h
                exact ih h
      · cases h

/-- **What is found** is the key, whatever the order of the table. -/
theorem binarySearch_some {i : Nat} (h : binarySearch cmp keys k = some i) :
    ∃ key, keys[i]? = some key ∧ cmp k key = .eq :=
  searchLoop_some h

/-- The search in a table in strict order, between bounds that have the key between them. -/
theorem searchLoop_sorted [Std.TransCmp cmp] (hsorted : keys.Pairwise fun a b => cmp a b = .lt)
    {rounds i : Nat} {low high : Int} (hkey : keys[i]? = some k) (hlow : 0 ≤ low ∧ low ≤ i)
    (hhigh : i ≤ high ∧ high < keys.length) (hrounds : high - low < rounds) :
    searchLoop cmp keys k rounds low high = some i := by
  obtain ⟨hi, hki⟩ := List.getElem?_eq_some_iff.mp hkey
  induction rounds generalizing low high with
  | zero => omega
  | succ rounds ih =>
      have hmid : ((low + high) / 2).toNat < keys.length := by omega
      have hle : low ≤ high := by omega
      rw [searchLoop, if_pos hle]
      simp only [List.getElem?_eq_getElem hmid]
      rw [← hki]
      rcases lt_trichotomy i ((low + high) / 2).toNat with hlt | heq | hgt
      · have hcmp : cmp keys[i] keys[((low + high) / 2).toNat] = .lt :=
          List.pairwise_iff_getElem.mp hsorted i _ hi hmid hlt
        simp only [hcmp]
        rw [hki]
        exact ih hlow ⟨by omega, by omega⟩ (by omega)
      · have hcmp : cmp keys[i] keys[i] = .eq := Std.ReflCmp.compare_self
        simp only [← heq, hcmp]
      · have hcmp : cmp keys[i] keys[((low + high) / 2).toNat] = .gt :=
          Std.OrientedCmp.gt_of_lt (List.pairwise_iff_getElem.mp hsorted _ i hmid hi hgt)
        simp only [hcmp]
        rw [hki]
        exact ih ⟨by omega, by omega⟩ hhigh (by omega)

/-- **A table in strict order**: every key is found at its place. -/
theorem binarySearch_sorted [Std.TransCmp cmp] (hsorted : keys.Pairwise fun a b => cmp a b = .lt)
    {i : Nat} (hkey : keys[i]? = some k) : binarySearch cmp keys k = some i := by
  obtain ⟨hi, -⟩ := List.getElem?_eq_some_iff.mp hkey
  exact searchLoop_sorted hsorted hkey ⟨le_rfl, by omega⟩ ⟨by omega, by omega⟩ (by omega)

end Search

end Halmos
