import Mathlib.Tactic

set_option autoImplicit false

/-! # Credit ledgers

The credit a receiver grants a sender: one account for the session and one for each stream, where
every stream starts with the same initial credit, and a change of that initial credit is applied
to the open accounts too. The amounts of the operations are integers; the accounts are kept in any
type with addition and subtraction, through a conversion `κ`, so that the same operations run on
exact integers and on machine integers. A conversion that respects `+` and `-` takes the one run
to the other (`Ledger.applyAll_map`).
-/

namespace Halmos

structure Ledger (α : Type) where
  session : α
  initial : α
  streams : Nat → Option α

/-- The operations on a ledger. -/
inductive LedgerOp where
  | credit (n : Int)
  | creditStream (id : Nat) (n : Int)
  | openStream (id : Nat)
  | setInitial (v : Int)
  | debit (id : Nat) (n : Int)
  deriving DecidableEq

/-- An operation without a debit or a negative amount. -/
def LedgerOp.Grants : LedgerOp → Prop
  | .credit n => 0 ≤ n
  | .creditStream _ n => 0 ≤ n
  | .openStream _ => True
  | .setInitial v => 0 ≤ v
  | .debit _ _ => False

/-- Such an operation that sets no initial credit above `max`. -/
def LedgerOp.Within (max : Int) (op : LedgerOp) : Prop :=
  op.Grants ∧ ∀ v, op = .setInitial v → v ≤ max

namespace Ledger

variable {α β : Type}

@[ext] theorem ext {l l' : Ledger α} (hsession : l.session = l'.session)
    (hinitial : l.initial = l'.initial) (hstreams : ∀ id, l.streams id = l'.streams id) :
    l = l' := by
  obtain ⟨session, initial, streams⟩ := l
  obtain ⟨session', initial', streams'⟩ := l'
  rw [mk.injEq]
  exact ⟨hsession, hinitial, funext hstreams⟩

def map (f : α → β) (l : Ledger α) : Ledger β :=
  ⟨f l.session, f l.initial, fun id => (l.streams id).map f⟩

section Operations

variable [Add α] [Sub α]

/-- One operation. An open stream stays as it is when it is opened again, and there is nothing to
credit or debit on a stream that is not open. -/
def apply (κ : Int → α) (l : Ledger α) : LedgerOp → Ledger α
  | .credit n => { l with session := l.session + κ n }
  | .creditStream id n =>
      { l with
        streams := fun k => if k = id then (l.streams k).map (fun w => w + κ n) else l.streams k }
  | .openStream id =>
      { l with
        streams := fun k => if k = id then some ((l.streams k).getD l.initial) else l.streams k }
  | .setInitial v =>
      { l with
        initial := κ v
        streams := fun k => (l.streams k).map (fun w => w + (κ v - l.initial)) }
  | .debit id n =>
      { l with
        session := l.session - κ n
        streams := fun k => if k = id then (l.streams k).map (fun w => w - κ n) else l.streams k }

def applyAll (κ : Int → α) (l : Ledger α) (ops : List LedgerOp) : Ledger α :=
  ops.foldl (apply κ) l

@[simp] theorem applyAll_nil (κ : Int → α) (l : Ledger α) : l.applyAll κ [] = l := rfl

@[simp] theorem applyAll_cons (κ : Int → α) (l : Ledger α) (op : LedgerOp) (ops : List LedgerOp) :
    l.applyAll κ (op :: ops) = (l.apply κ op).applyAll κ ops := rfl

theorem applyAll_append (κ : Int → α) (l : Ledger α) (ops ops' : List LedgerOp) :
    l.applyAll κ (ops ++ ops') = (l.applyAll κ ops).applyAll κ ops' := List.foldl_append

end Operations

/-- A conversion takes the exact ledger to the one in its own numbers. -/
theorem apply_map [Add α] [Sub α] {κ : Int → α} (hadd : ∀ a b, κ (a + b) = κ a + κ b)
    (hsub : ∀ a b, κ (a - b) = κ a - κ b) (l : Ledger Int) (op : LedgerOp) :
    (l.apply id op).map κ = (l.map κ).apply κ op := by
  -- the conversion keeps `+` and `-`, and an operation does nothing else with the numbers
  cases op with
  | credit n =>
      apply Ledger.ext
      · exact hadd l.session n
      · rfl
      · intro k
        rfl
  | creditStream id n =>
      apply Ledger.ext
      · rfl
      · rfl
      · intro k
        simp only [map, apply]
        by_cases hk : k = id
        · rw [if_pos hk, if_pos hk, Option.map_map, Option.map_map]
          congr 1
          funext w
          exact hadd w n
        · rw [if_neg hk, if_neg hk]
  | openStream id =>
      apply Ledger.ext
      · rfl
      · rfl
      · intro k
        simp only [map, apply]
        by_cases hk : k = id
        · rw [if_pos hk, if_pos hk]
          cases l.streams k <;> rfl
        · rw [if_neg hk, if_neg hk]
  | setInitial v =>
      apply Ledger.ext
      · rfl
      · rfl
      · intro k
        simp only [map, apply, Option.map_map]
        congr 1
        funext w
        calc κ (w + (v - l.initial)) = κ w + κ (v - l.initial) := hadd _ _
          _ = κ w + (κ v - κ l.initial) := by rw [hsub]
  | debit id n =>
      apply Ledger.ext
      · exact hsub l.session n
      · rfl
      · intro k
        simp only [map, apply]
        by_cases hk : k = id
        · rw [if_pos hk, if_pos hk, Option.map_map, Option.map_map]
          congr 1
          funext w
          exact hsub w n
        · rw [if_neg hk, if_neg hk]

theorem applyAll_map [Add α] [Sub α] {κ : Int → α} (hadd : ∀ a b, κ (a + b) = κ a + κ b)
    (hsub : ∀ a b, κ (a - b) = κ a - κ b) (l : Ledger Int) (ops : List LedgerOp) :
    (l.applyAll id ops).map κ = (l.map κ).applyAll κ ops := by
  induction ops generalizing l with
  | nil => rfl
  | cons op ops ih =>
      rw [applyAll_cons, applyAll_cons, ih, apply_map hadd hsub]

/-! ## Ledgers without debits -/

/-- No account is overdrawn, and a stream never has less than the initial window. -/
structure Sound (l : Ledger Int) : Prop where
  session : 0 ≤ l.session
  initial : 0 ≤ l.initial
  streams : ∀ id w, l.streams id = some w → l.initial ≤ w

theorem Sound.apply {l : Ledger Int} (h : Sound l) {op : LedgerOp} (hop : op.Grants) :
    Sound (l.apply id op) := by
  obtain ⟨hsession, hinitial, hstreams⟩ := h
  cases op with
  | credit n => exact ⟨Int.add_nonneg hsession hop, hinitial, hstreams⟩
  | creditStream id n =>
      refine ⟨hsession, hinitial, ?_⟩
      intro k w hw
      simp only [Ledger.apply] at hw ⊢
      split at hw
      · obtain ⟨w', hw', rfl⟩ := Option.map_eq_some_iff.mp hw
        exact Int.le_trans (hstreams k w' hw') (Int.le_add_of_nonneg_right hop)
      · exact hstreams k w hw
  | openStream id =>
      refine ⟨hsession, hinitial, ?_⟩
      intro k w hw
      simp only [Ledger.apply] at hw ⊢
      split at hw
      · cases hk : l.streams k with
        | none =>
            rw [hk] at hw
            exact Int.le_of_eq (Option.some.inj hw)
        | some w' =>
            rw [hk] at hw
            exact hstreams k w (hk.trans hw)
      · exact hstreams k w hw
  | setInitial v =>
      refine ⟨hsession, hop, ?_⟩
      intro k w hw
      obtain ⟨w', hw', rfl⟩ := Option.map_eq_some_iff.mp hw
      have hle := hstreams k w' hw'
      show v ≤ w' + (v - l.initial)
      omega
  | debit id n => exact absurd hop (fun h => h)

theorem Sound.applyAll {l : Ledger Int} (h : Sound l) {ops : List LedgerOp}
    (hops : ∀ op ∈ ops, op.Grants) : Sound (l.applyAll id ops) := by
  induction ops generalizing l with
  | nil => exact h
  | cons op ops ih =>
      rw [List.forall_mem_cons] at hops
      exact ih (h.apply hops.1) hops.2

/-! ## Spending -/

/-- What is left of the credit when `sent` has been spent of the session's and `sentOn` of each
stream's. -/
def spend (g : Ledger Int) (sent : Int) (sentOn : Nat → Int) : Ledger Int where
  session := g.session - sent
  initial := g.initial
  streams id := (g.streams id).map (fun w => w - sentOn id)

/-- The credit covers what has been spent. A smaller initial credit can leave a stream in debt,
but never with more than the largest initial credit `max`. -/
structure Covers (max : Int) (g : Ledger Int) (sent : Int) (sentOn : Nat → Int) : Prop where
  session : sent ≤ g.session
  initial_nonneg : 0 ≤ g.initial
  initial_le : g.initial ≤ max
  streams : ∀ id w, g.streams id = some w → sentOn id - w ≤ max - g.initial
  unopened : ∀ id, g.streams id = none → sentOn id = 0

section Spending

variable {max sent : Int} {g : Ledger Int} {sentOn : Nat → Int}

theorem spend_apply (hunopened : ∀ id, g.streams id = none → sentOn id = 0) {op : LedgerOp}
    (hop : op.Grants) : (g.spend sent sentOn).apply id op = (g.apply id op).spend sent sentOn := by
  -- a stream that opens has spent nothing before, which `hunopened` says; the other grants add
  -- where `spend` subtracts
  cases op with
  | credit n =>
      apply Ledger.ext
      · show g.session - sent + n = g.session + n - sent
        omega
      · rfl
      · intro k
        rfl
  | creditStream id n =>
      apply Ledger.ext
      · rfl
      · rfl
      · intro k
        show (if k = id then ((g.streams k).map (fun w => w - sentOn k)).map (fun w => w + n)
            else (g.streams k).map (fun w => w - sentOn k))
          = (if k = id then (g.streams k).map (fun w => w + n) else g.streams k).map
            (fun w => w - sentOn k)
        split
        · rw [Option.map_map, Option.map_map]
          congr 1
          funext w
          show w - sentOn k + n = w + n - sentOn k
          omega
        · rfl
  | openStream id =>
      apply Ledger.ext
      · rfl
      · rfl
      · intro k
        show (if k = id then some (((g.streams k).map (fun w => w - sentOn k)).getD g.initial)
            else (g.streams k).map (fun w => w - sentOn k))
          = (if k = id then some ((g.streams k).getD g.initial) else g.streams k).map
            (fun w => w - sentOn k)
        split
        · cases hk : g.streams k with
          | none =>
              show some g.initial = some (g.initial - sentOn k)
              rw [hunopened k hk, Int.sub_zero]
          | some w => rfl
        · rfl
  | setInitial v =>
      apply Ledger.ext
      · rfl
      · rfl
      · intro k
        show ((g.streams k).map (fun w => w - sentOn k)).map (fun w => w + (v - g.initial))
          = ((g.streams k).map (fun w => w + (v - g.initial))).map (fun w => w - sentOn k)
        rw [Option.map_map, Option.map_map]
        congr 1
        funext w
        show w - sentOn k + (v - g.initial) = w + (v - g.initial) - sentOn k
        omega
  | debit id n => exact absurd hop (fun h => h)

theorem Covers.apply (h : Covers max g sent sentOn) {op : LedgerOp} (hop : op.Within max) :
    Covers max (g.apply id op) sent sentOn := by
  obtain ⟨hsession, hnonneg, hle, hstreams, hunopened⟩ := h
  obtain ⟨hgrants, hmax⟩ := hop
  -- the bound on a stream is relative to the initial window, so `setInitial` moves both sides
  cases op with
  | credit n =>
      refine ⟨?_, hnonneg, hle, hstreams, hunopened⟩
      exact Int.le_trans hsession (Int.le_add_of_nonneg_right hgrants)
  | creditStream id n =>
      refine ⟨hsession, hnonneg, hle, ?_, ?_⟩
      · intro k w hw
        simp only [Ledger.apply] at hw
        split at hw
        · obtain ⟨w', hw', rfl⟩ := Option.map_eq_some_iff.mp hw
          have hk := hstreams k w' hw'
          have hn : 0 ≤ n := hgrants
          show sentOn k - (w' + n) ≤ max - g.initial
          omega
        · exact hstreams k w hw
      · intro k hk
        simp only [Ledger.apply] at hk
        split at hk
        · exact hunopened k (Option.map_eq_none_iff.mp hk)
        · exact hunopened k hk
  | openStream id =>
      refine ⟨hsession, hnonneg, hle, ?_, ?_⟩
      · intro k w hw
        simp only [Ledger.apply] at hw
        split at hw
        · cases hk : g.streams k with
          | none =>
              rw [hk] at hw
              have hw' : g.initial = w := Option.some.inj hw
              have hsent := hunopened k hk
              show sentOn k - w ≤ max - g.initial
              omega
          | some w' =>
              rw [hk] at hw
              exact hstreams k w (hk.trans hw)
        · exact hstreams k w hw
      · intro k hk
        simp only [Ledger.apply] at hk
        split at hk
        · cases hk
        · exact hunopened k hk
  | setInitial v =>
      refine ⟨hsession, hgrants, hmax v rfl, ?_, ?_⟩
      · intro k w hw
        obtain ⟨w', hw', rfl⟩ := Option.map_eq_some_iff.mp hw
        have hk := hstreams k w' hw'
        show sentOn k - (w' + (v - g.initial)) ≤ max - v
        omega
      · intro k hk
        exact hunopened k (Option.map_eq_none_iff.mp hk)
  | debit id n => exact absurd hgrants (fun h => h)

theorem Covers.applyAll (h : Covers max g sent sentOn) {ops : List LedgerOp}
    (hops : ∀ op ∈ ops, op.Within max) :
    Covers max (g.applyAll id ops) sent sentOn
      ∧ (g.spend sent sentOn).applyAll id ops = (g.applyAll id ops).spend sent sentOn := by
  induction ops generalizing g with
  | nil => exact ⟨h, rfl⟩
  | cons op ops ih =>
      rw [List.forall_mem_cons] at hops
      rw [applyAll_cons, applyAll_cons, spend_apply h.unopened hops.1.1]
      exact ih (h.apply hops.1) hops.2

/-- `n` more are spent on a stream. -/
def sentMore (sentOn : Nat → Int) (id : Nat) (n : Int) : Nat → Int :=
  fun k => if k = id then sentOn k + n else sentOn k

theorem spend_debit (g : Ledger Int) (sent : Int) (sentOn : Nat → Int) (k₀ : Nat) (n : Int) :
    (g.spend sent sentOn).apply id (.debit k₀ n)
      = g.spend (sent + n) (sentMore sentOn k₀ n) := by
  apply Ledger.ext
  · show g.session - sent - n = g.session - (sent + n)
    omega
  · rfl
  · intro k
    show (if k = k₀ then ((g.streams k).map (fun w => w - sentOn k)).map (fun w => w - n)
        else (g.streams k).map (fun w => w - sentOn k))
      = (g.streams k).map (fun w => w - sentMore sentOn k₀ n k)
    unfold sentMore
    split
    · rw [Option.map_map]
      congr 1
      funext w
      show w - sentOn k - n = w - (sentOn k + n)
      omega
    · rfl

/-- A debit that both accounts can pay. -/
theorem Covers.debit (h : Covers max g sent sentOn) {id : Nat} {n w : Int}
    (hopen : g.streams id = some w) (hsession : sent + n ≤ g.session) (hstream : sentOn id + n ≤ w) :
    Covers max g (sent + n) (sentMore sentOn id n) := by
  obtain ⟨-, hnonneg, hle, hstreams, hunopened⟩ := h
  refine ⟨hsession, hnonneg, hle, ?_, ?_⟩
  · intro k w' hw'
    unfold sentMore
    split
    · next hk =>
        rw [hk, hopen, Option.some.injEq] at hw'
        rw [hk]
        omega
    · exact hstreams k w' hw'
  · intro k hk
    unfold sentMore
    split
    · next hid =>
        rw [hid, hopen] at hk
        cases hk
    · exact hunopened k hk

end Spending

end Ledger

end Halmos
