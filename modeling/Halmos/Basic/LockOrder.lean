import Halmos.Basic.Runs

set_option autoImplicit false

/-! # Lock orders

Threads run programs that lock and unlock mutexes. If every program takes a mutex only while all
the mutexes it holds have a smaller rank, no set of threads waits for mutexes held within the set,
in any state any interleaving leads to. A mutex that is only tried is waited for by no one and may
have any rank.
-/

namespace Halmos

/-- What a program does with its mutexes. `tryLock` stands for `pthread_mutex_trylock` and, if that
succeeds, a section that takes no other mutex and the unlocking. -/
inductive LockOp (M : Type) where
  | lock (m : M)
  | unlock (m : M)
  | tryLock (m : M)
  deriving DecidableEq, Repr

/-- Who holds the mutexes, and what the threads have yet to do. -/
structure LockState (M T : Type) where
  holder : M → Option T
  rest : T → List (LockOp M)

/-- A thread with nothing to do begins a program, or a thread goes on with its program. -/
inductive LockEvent (M T : Type) where
  | enter (t : T) (program : List (LockOp M))
  | advance (t : T)

section LockOrder

variable {M T : Type}

/-- No mutex is held, and no thread has anything to do. -/
def LockState.init : LockState M T := ⟨fun _ => none, fun _ => []⟩

/-- The thread waits for the mutex. -/
def LockState.Waits (s : LockState M T) (t : T) (m : M) : Prop :=
  (∃ ops, s.rest t = .lock m :: ops) ∧ s.holder m ≠ none

/-- The threads of the set all wait for mutexes held within the set. -/
def LockState.Deadlocked (s : LockState M T) (S : Set T) : Prop :=
  S.Nonempty ∧ ∀ t ∈ S, ∃ m, s.Waits t m ∧ ∃ u ∈ S, s.holder m = some u

theorem LockState.Waits.unique {s : LockState M T} {t : T} {m m' : M} (h : s.Waits t m) (h' : s.Waits t m') :
    m = m' := by
  obtain ⟨⟨ops, hops⟩, -⟩ := h
  obtain ⟨⟨ops', hops'⟩, -⟩ := h'
  rw [hops] at hops'
  cases hops'
  rfl

/-! ## Programs -/

variable [DecidableEq M]

/-- Holding `held`, the program locks in the order of the ranks, unlocks what it holds, and ends
with nothing held. -/
def Ordered (rank : M → Nat) : List M → List (LockOp M) → Prop
  | held, [] => held = []
  | held, .lock m :: ops => (∀ h ∈ held, rank h < rank m) ∧ Ordered rank (m :: held) ops
  | held, .unlock m :: ops => m ∈ held ∧ Ordered rank (held.erase m) ops
  | held, .tryLock _ :: ops => Ordered rank held ops

/-- A part of a program that may be run with `held` and holds the same behind it. -/
def Balanced (rank : M → Nat) (held : List M) (ops : List (LockOp M)) : Prop :=
  ∀ rest, Ordered rank held rest → Ordered rank held (ops ++ rest)

/-- A section under a mutex. -/
def critical (m : M) (body : List (LockOp M)) : List (LockOp M) :=
  .lock m :: body ++ [.unlock m]

variable {rank : M → Nat} {held : List M} {ops ops' : List (LockOp M)}

theorem balanced_nil : Balanced rank held [] := fun _ h => h

theorem Balanced.append (h : Balanced rank held ops) (h' : Balanced rank held ops') :
    Balanced rank held (ops ++ ops') := by
  intro rest hrest
  rw [List.append_assoc]
  exact h _ (h' _ hrest)

theorem balanced_critical {m : M} (hm : ∀ h ∈ held, rank h < rank m)
    (hbody : Balanced rank (m :: held) ops) : Balanced rank held (critical m ops) := by
  intro rest hrest
  unfold critical
  rw [List.append_assoc, List.cons_append]
  refine ⟨hm, hbody _ ⟨List.mem_cons_self, ?_⟩⟩
  rw [List.erase_cons_head]
  exact hrest

theorem balanced_tryLock (m : M) : Balanced rank held [.tryLock m] := fun _ h => h

theorem balanced_flatMap {α : Type} {f : α → List (LockOp M)} {l : List α}
    (h : ∀ x ∈ l, Balanced rank held (f x)) : Balanced rank held (l.flatMap f) := by
  induction l with
  | nil => exact balanced_nil
  | cons x l ih =>
      rw [List.flatMap_cons]
      exact (h x List.mem_cons_self).append (ih fun y hy => h y (List.mem_cons_of_mem x hy))

theorem Balanced.ordered (h : Balanced rank [] ops) : Ordered rank [] ops := by
  have hall := h [] rfl
  rwa [List.append_nil] at hall

/-! ## States -/

/-- Every thread goes on in the order of the ranks from what it holds. -/
def LockState.Ranked (rank : M → Nat) (s : LockState M T) : Prop :=
  ∀ t, ∃ held : List M, held.Nodup ∧ (∀ m, m ∈ held ↔ s.holder m = some t) ∧
    Ordered rank held (s.rest t)

variable {s : LockState M T}

theorem LockState.init_ranked : (LockState.init : LockState M T).Ranked rank := by
  intro t
  exact ⟨[], List.nodup_nil, fun m => ⟨fun h => absurd h List.not_mem_nil, fun h => nomatch h⟩, rfl⟩

/-- A thread waits for mutexes of a greater rank than those it holds. -/
theorem LockState.Ranked.rank_lt (h : s.Ranked rank) {t : T} {m m' : M}
    (hwaits : s.Waits t m) (hheld : s.holder m' = some t) : rank m' < rank m := by
  obtain ⟨held, -, hmem, hordered⟩ := h t
  obtain ⟨⟨ops, hops⟩, -⟩ := hwaits
  rw [hops] at hordered
  exact hordered.1 m' ((hmem m').mpr hheld)

/-- **No deadlock**: with finitely many ranks, the thread that waits for the mutex of the greatest
rank waits for a thread that waits for none in the set. -/
theorem LockState.Ranked.not_deadlocked (h : s.Ranked rank) {bound : Nat}
    (hbound : ∀ m, rank m < bound) (S : Set T) : ¬ s.Deadlocked S := by
  rintro ⟨⟨t, ht⟩, hall⟩
  have hnone : ∀ n m t, t ∈ S → s.Waits t m → bound - rank m = n → False := by
    intro n
    induction n using Nat.strong_induction_on with
    | _ n ih =>
        intro m t ht hwaits hn
        obtain ⟨m', hwaits', u, hu, hheld⟩ := hall t ht
        obtain rfl := hwaits.unique hwaits'
        obtain ⟨mu, hwaitsu, -⟩ := hall u hu
        have hlt := h.rank_lt hwaitsu hheld
        have hm := hbound mu
        exact ih (bound - rank mu) (by omega) mu u hu hwaitsu rfl
  obtain ⟨m, hwaits, -⟩ := hall t ht
  exact hnone _ m t ht hwaits rfl

/-- As long as a thread waits, some thread can go on. -/
theorem LockState.Ranked.exists_runs (h : s.Ranked rank) {bound : Nat}
    (hbound : ∀ m, rank m < bound) {t : T} {m : M} (hwaits : s.Waits t m) :
    ∃ u, s.rest u ≠ [] ∧ ∀ m, ¬ s.Waits u m := by
  by_contra hno
  push Not at hno
  refine h.not_deadlocked hbound {u | ∃ m, s.Waits u m} ⟨⟨t, m, hwaits⟩, ?_⟩
  rintro u ⟨mu, hu⟩
  obtain ⟨v, hv⟩ := Option.ne_none_iff_exists'.mp hu.2
  refine ⟨mu, hu, v, hno v fun hnil => ?_, hv⟩
  -- a thread with nothing left to do holds nothing
  obtain ⟨held, -, hmem, hordered⟩ := h v
  rw [hnil] at hordered
  obtain rfl : held = [] := hordered
  exact absurd ((hmem mu).mpr hv) List.not_mem_nil

/-! ## Steps -/

/-- What a thread holds once it has taken a free mutex. -/
theorem mem_take_iff {holder : M → Option T} {t : T} {m : M} (hfree : holder m = none)
    (hheld : ∀ x, x ∈ held ↔ holder x = some t) (x : M) :
    x ∈ m :: held ↔ Function.update holder m (some t) x = some t := by
  rw [List.mem_cons, hheld]
  by_cases hx : x = m
  · subst hx
    simp
  · simp [hx]

variable [DecidableEq T]

/-- One event. A thread whose next mutex is taken stays where it is. -/
def LockState.step (s : LockState M T) : LockEvent M T → LockState M T
  | .enter t program =>
      if s.rest t = [] then { s with rest := Function.update s.rest t program } else s
  | .advance t =>
      match s.rest t with
      | [] => s
      | .lock m :: ops =>
          if s.holder m = none then
            ⟨Function.update s.holder m (some t), Function.update s.rest t ops⟩
          else s
      | .unlock m :: ops => ⟨Function.update s.holder m none, Function.update s.rest t ops⟩
      | .tryLock m :: ops =>
          if s.holder m = none then
            ⟨Function.update s.holder m (some t), Function.update s.rest t (.unlock m :: ops)⟩
          else { s with rest := Function.update s.rest t ops }

/-- The programs begun keep to the order. -/
def LockEvent.Keeps (rank : M → Nat) : LockEvent M T → Prop
  | .enter _ program => Ordered rank [] program
  | .advance _ => True

/-- A thread that moves leaves the others with what they hold, if it takes a free mutex or unlocks
one of its own. -/
theorem LockState.Ranked.move (h : s.Ranked rank) {s' : LockState M T} {t : T}
    {ops : List (LockOp M)} (hrest : s'.rest = Function.update s.rest t ops)
    (hothers : ∀ u, u ≠ t → ∀ m, s'.holder m = some u ↔ s.holder m = some u)
    (hown : ∃ held : List M, held.Nodup ∧ (∀ m, m ∈ held ↔ s'.holder m = some t) ∧
      Ordered rank held ops) : s'.Ranked rank := by
  intro u
  rw [hrest]
  by_cases hu : u = t
  · subst hu
    rw [Function.update_self]
    exact hown
  · rw [Function.update_of_ne hu]
    obtain ⟨held, hnodup, hheld, hordered⟩ := h u
    exact ⟨held, hnodup, fun m => (hheld m).trans (hothers u hu m).symm, hordered⟩

/-- **One event** keeps the order. -/
theorem LockState.Ranked.step (h : s.Ranked rank) {e : LockEvent M T} (he : e.Keeps rank) :
    (s.step e).Ranked rank := by
  cases e with
  | enter t program =>
      unfold LockState.step
      dsimp only
      split
      · next hidle =>
          refine h.move rfl (fun _ _ _ => Iff.rfl) ?_
          obtain ⟨held, hnodup, hheld, hordered⟩ := h t
          rw [hidle] at hordered
          obtain rfl : held = [] := hordered
          exact ⟨[], hnodup, hheld, he⟩
      · exact h
  | advance t =>
      obtain ⟨held, hnodup, hheld, hordered⟩ := h t
      have hfresh : ∀ m, s.holder m = none → m ∉ held := by
        intro m hm hmem
        rw [(hheld m).mp hmem] at hm
        cases hm
      have htake : ∀ m, s.holder m = none → ∀ u, u ≠ t → ∀ x,
          Function.update s.holder m (some t) x = some u ↔ s.holder x = some u := by
        intro m hm u hu x
        by_cases hx : x = m
        · subst hx
          simp [hm, Ne.symm hu]
        · rw [Function.update_of_ne hx]
      unfold LockState.step
      dsimp only
      split
      · exact h
      · next m ops hops =>
          rw [hops] at hordered
          obtain ⟨hrank, hrest⟩ := hordered
          split
          · next hfree =>
              exact h.move rfl (htake m hfree) ⟨m :: held,
                List.nodup_cons.mpr ⟨hfresh m hfree, hnodup⟩, mem_take_iff hfree hheld, hrest⟩
          · exact h
      · next m ops hops =>
          rw [hops] at hordered
          obtain ⟨hmem, hrest⟩ := hordered
          refine h.move rfl (fun u hu x => ?_) ⟨held.erase m, hnodup.erase m, fun x => ?_, hrest⟩
          · by_cases hx : x = m
            · subst hx
              simp [(hheld x).mp hmem, Ne.symm hu]
            · exact iff_of_eq (congrArg (· = some u) (Function.update_of_ne hx none s.holder))
          · rw [hnodup.mem_erase_iff, hheld]
            by_cases hx : x = m
            · subst hx
              simp
            · simp [hx]
      · next m ops hops =>
          rw [hops] at hordered
          split
          · next hfree =>
              refine h.move rfl (htake m hfree) ⟨m :: held,
                List.nodup_cons.mpr ⟨hfresh m hfree, hnodup⟩, mem_take_iff hfree hheld,
                List.mem_cons_self, ?_⟩
              rw [List.erase_cons_head]
              exact hordered
          · exact h.move rfl (fun _ _ _ => Iff.rfl) ⟨held, hnodup, hheld, hordered⟩

end LockOrder

end Halmos
