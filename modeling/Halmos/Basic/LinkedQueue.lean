import Mathlib.Tactic

set_option autoImplicit false

/-! # Queues of linked nodes

A queue as C programs keep it: nodes in memory, each with the address of the next one, a pointer to
the first and a pointer to the last. A user of this file reads the list that the pointers spell
(`WellLinked`), and what the two operations do to it (`WellLinked.enqueue`, `WellLinked.dequeue`).
-/

namespace Halmos

/-- A node: its item and the address of the next node, `none` for `NULL`. -/
structure Node (α : Type) where
  item : α
  next : Option Nat
  deriving DecidableEq

/-- The nodes in memory, and the pointers to the first and the last of the queue. -/
structure LinkedQueue (α : Type) where
  heap : Nat → Option (Node α)
  head : Option Nat
  tail : Option Nat

/-- The nodes from a pointer on, each with its address. -/
inductive Linked {α : Type} (heap : Nat → Option (Node α)) : Option Nat → List (Nat × α) → Prop
  | nil : Linked heap none []
  | cons {a : Nat} {n : Node α} {l : List (Nat × α)} (ha : heap a = some n)
      (hl : Linked heap n.next l) : Linked heap (some a) ((a, n.item) :: l)

section Linked

variable {α : Type} {heap heap' : Nat → Option (Node α)} {p : Option Nat} {l l' : List (Nat × α)}
  {a : Nat} {x : α}

theorem Linked.eq_nil (h : Linked heap none l) : l = [] := by
  cases h
  rfl

theorem Linked.unique (h : Linked heap p l) (h' : Linked heap p l') : l = l' := by
  induction h generalizing l' with
  | nil => exact h'.eq_nil.symm
  | cons ha _ ih =>
      cases h' with
      | cons ha' hl' =>
          rw [ha] at ha'
          cases ha'
          rw [ih hl']

/-- The list is reached from each of its nodes. -/
theorem Linked.from_mem (h : Linked heap p l) (hx : (a, x) ∈ l) :
    ∃ front back, l = front ++ (a, x) :: back ∧ Linked heap (some a) ((a, x) :: back) := by
  induction h with
  | nil => cases hx
  | @cons b n l hb hl ih =>
      rcases List.mem_cons.mp hx with heq | hx
      · cases heq
        exact ⟨[], l, rfl, Linked.cons hb hl⟩
      · obtain ⟨front, back, heq, hfrom⟩ := ih hx
        exact ⟨(b, n.item) :: front, back, by rw [heq, List.cons_append], hfrom⟩

/-- A list that ends does not come back to a node. -/
theorem Linked.nodup (h : Linked heap p l) : (l.map Prod.fst).Nodup := by
  induction h with
  | nil => exact List.nodup_nil
  | @cons a n l ha hl ih =>
      rw [List.map_cons, List.nodup_cons]
      refine ⟨?_, ih⟩
      intro hmem
      obtain ⟨⟨b, x⟩, hb, rfl⟩ := List.mem_map.mp hmem
      obtain ⟨front, back, heq, hfrom⟩ := hl.from_mem hb
      -- from the node again, the list would be as long as its own tail
      have hsame := hfrom.unique (Linked.cons ha hl)
      have hlen := congrArg List.length hsame
      rw [heq] at hlen
      simp only [List.length_cons, List.length_append] at hlen
      omega

theorem Linked.congr (h : Linked heap p l) (hsame : ∀ a ∈ l.map Prod.fst, heap' a = heap a) :
    Linked heap' p l := by
  induction h with
  | nil => exact Linked.nil
  | @cons a n l ha hl ih =>
      rw [List.map_cons, List.forall_mem_cons] at hsame
      exact Linked.cons (hsame.1.trans ha) (ih hsame.2)

theorem Linked.heap_ne_none (h : Linked heap p l) (ha : a ∈ l.map Prod.fst) : heap a ≠ none := by
  obtain ⟨⟨b, x⟩, hb, rfl⟩ := List.mem_map.mp ha
  obtain ⟨front, back, -, hfrom⟩ := h.from_mem hb
  cases hfrom with
  | cons hn _ =>
      rw [hn]
      exact Option.some_ne_none _

theorem Linked.update (h : Linked heap p l) (hfresh : heap a = none) (n : Option (Node α)) :
    Linked (Function.update heap a n) p l := by
  refine h.congr fun b hb => Function.update_of_ne ?_ _ _
  rintro rfl
  exact h.heap_ne_none hb hfresh

/-- A fresh node behind the last one, which is made to point to it. -/
theorem Linked.snoc {t : Nat} {y : α} (h : Linked heap p (l ++ [(t, y)]))
    (hfresh : heap a = none)
    (hother : ∀ b, b ≠ t → b ≠ a → heap' b = heap b)
    (ht : heap' t = (heap t).map (fun n => { n with next := some a }))
    (ha : heap' a = some ⟨x, none⟩) :
    Linked heap' p (l ++ [(t, y)] ++ [(a, x)]) := by
  induction l generalizing p with
  | nil =>
      cases h with
      | @cons _ n _ hn hl =>
          cases hnext : n.next with
          | some b =>
              rw [hnext] at hl
              cases hl
          | none =>
              have hnode : heap' t = some { n with next := some a } := by rw [ht, hn]; rfl
              exact @Linked.cons α heap' t { n with next := some a } _ hnode
                (Linked.cons ha Linked.nil)
  | cons b l ih =>
      have hnodup := h.nodup
      cases h with
      | @cons b n _ hn hl =>
          have hbt : b ≠ t := by
            rintro rfl
            simp at hnodup
          have hba : b ≠ a := by
            rintro rfl
            rw [hfresh] at hn
            cases hn
          exact Linked.cons ((hother b hbt hba).trans hn) (ih hl)

/-- A fresh node in front of the first one. -/
theorem Linked.push (h : Linked heap p l) (hfresh : heap a = none) :
    Linked (Function.update heap a (some ⟨x, p⟩)) (some a) ((a, x) :: l) := by
  have hkept : Linked (Function.update heap a (some ⟨x, p⟩)) p l := h.update hfresh _
  exact Linked.cons (n := ⟨x, p⟩) (Function.update_self _ _ _) hkept

/-! ## Searching -/

/-- The loop that follows the pointers from `curr` to the first item with the property. A dangling
pointer has no result, nor has a list that is not at its end when the fuel is. -/
def searchFrom (heap : Nat → Option (Node α)) (found : α → Bool) :
    Nat → Option Nat → Option (Option Nat)
  | _, none => some none
  | 0, some _ => none
  | fuel + 1, some curr =>
      match heap curr with
      | none => none
      | some n => if found n.item then some (some curr) else searchFrom heap found fuel n.next

theorem Linked.searchFrom_eq (h : Linked heap p l) (found : α → Bool) {fuel : Nat}
    (hfuel : l.length ≤ fuel) :
    searchFrom heap found fuel p = some ((l.find? fun x => found x.2).map Prod.fst) := by
  induction h generalizing fuel with
  | nil => cases fuel <;> rfl
  | @cons a n l ha hl ih =>
      cases fuel with
      | zero => cases hfuel
      | succ fuel =>
          rw [searchFrom, ha, List.find?_cons]
          dsimp only
          cases hitem : found n.item with
          | true => rfl
          | false => exact ih (Nat.le_of_succ_le_succ hfuel)

end Linked

namespace LinkedQueue

variable {α : Type} {q : LinkedQueue α} {l : List (Nat × α)} {a : Nat} {x : α}

/-- A new node, which the allocator placed at `a`, goes behind the last one. -/
def enqueue (q : LinkedQueue α) (a : Nat) (x : α) : LinkedQueue α :=
  let heap := Function.update q.heap a (some ⟨x, none⟩)
  match q.tail with
  | none => { heap := heap, head := some a, tail := some a }
  | some t =>
      { heap := Function.update heap t ((heap t).map (fun n => { n with next := some a }))
        head := q.head
        tail := some a }

/-- The first node leaves the queue and is freed. -/
def dequeue (q : LinkedQueue α) : Option (α × LinkedQueue α) :=
  match q.head with
  | none => none
  | some a =>
      (q.heap a).map fun n =>
        (n.item,
          { heap := Function.update q.heap a none
            head := n.next
            tail := if n.next = none then none else q.tail })

/-- The pointers spell the list. -/
structure WellLinked (q : LinkedQueue α) (l : List (Nat × α)) : Prop where
  linked : Linked q.heap q.head l
  tail_eq : q.tail = l.getLast?.map Prod.fst

theorem WellLinked.tail_eq_none (h : q.WellLinked l) : q.tail = none ↔ q.head = none := by
  rw [h.tail_eq, Option.map_eq_none_iff, List.getLast?_eq_none_iff]
  constructor
  · rintro rfl
    generalize hp : q.head = p
    have hl := h.linked
    rw [hp] at hl
    cases hl
    rfl
  · intro hhead
    have hl := h.linked
    rw [hhead] at hl
    exact hl.eq_nil

/-- **Enqueueing appends**. -/
theorem WellLinked.enqueue (h : q.WellLinked l) (ha : q.heap a = none) :
    (q.enqueue a x).WellLinked (l ++ [(a, x)]) := by
  rcases List.eq_nil_or_concat' l with rfl | ⟨front, ⟨t, y⟩, rfl⟩
  · have htail : q.tail = none := h.tail_eq
    unfold LinkedQueue.enqueue
    rw [htail]
    exact ⟨Linked.cons (Function.update_self _ _ _) Linked.nil, rfl⟩
  · have htail : q.tail = some t := by simpa using h.tail_eq
    have hta : t ≠ a := by
      rintro rfl
      exact h.linked.heap_ne_none (by simp) ha
    unfold LinkedQueue.enqueue
    rw [htail]
    refine ⟨?_, by simp⟩
    dsimp only
    apply h.linked.snoc ha
    · intro b hbt hba
      rw [Function.update_of_ne hbt, Function.update_of_ne hba]
    · rw [Function.update_self, Function.update_of_ne hta]
    · rw [Function.update_of_ne hta.symm, Function.update_self]

/-- **Dequeueing takes the first item**. -/
theorem WellLinked.dequeue (h : q.WellLinked ((a, x) :: l)) :
    ∃ q', q.dequeue = some (x, q') ∧ q'.WellLinked l := by
  have hnodup := h.linked.nodup
  rw [List.map_cons, List.nodup_cons] at hnodup
  have hlinked := h.linked
  generalize hhead : q.head = p at hlinked
  cases hlinked with
  | @cons _ n _ hn hl =>
      have hnext : n.next = none ↔ l = [] := by
        constructor
        · intro hnone
          rw [hnone] at hl
          exact hl.eq_nil
        · rintro rfl
          cases hnone : n.next with
          | none => rfl
          | some b =>
              rw [hnone] at hl
              cases hl
      have hdequeue : q.dequeue = some (n.item, ⟨Function.update q.heap a none, n.next,
          if n.next = none then none else q.tail⟩) := by
        unfold LinkedQueue.dequeue
        rw [hhead]
        simp only [hn, Option.map_some]
      refine ⟨_, hdequeue, ?_, ?_⟩
      · apply hl.congr
        intro b hb
        have hba : b ≠ a := by
          rintro rfl
          exact hnodup.1 hb
        exact Function.update_of_ne hba _ _
      · dsimp only
        by_cases hnil : l = []
        · rw [if_pos (hnext.mpr hnil), hnil]
          rfl
        · rw [if_neg (fun hnone => hnil (hnext.mp hnone)), h.tail_eq]
          congr 1
          exact List.getLast?_cons_of_ne_nil hnil

/-- What a queue gives is its first item. -/
theorem WellLinked.of_dequeue {q' : LinkedQueue α} (h : q.WellLinked l)
    (hq : q.dequeue = some (x, q')) : ∃ a l', l = (a, x) :: l' ∧ q'.WellLinked l' := by
  cases l with
  | nil =>
      have hhead : q.head = none := h.tail_eq_none.mp h.tail_eq
      unfold LinkedQueue.dequeue at hq
      rw [hhead] at hq
      cases hq
  | cons b l =>
      obtain ⟨q'', hq'', hl⟩ := WellLinked.dequeue h
      rw [hq] at hq''
      cases hq''
      exact ⟨b.1, l, rfl, hl⟩

/-- The items of a queue after `enqueue` are its old ones and the new one. -/
theorem mem_enqueue {b : Nat} {n : Node α} (h : (q.enqueue a x).heap b = some n) :
    n.item = x ∨ ∃ n', q.heap b = some n' ∧ n'.item = n.item := by
  have hnew : ∀ m, Function.update q.heap a (some ⟨x, none⟩) b = some m →
      m.item = x ∨ ∃ n', q.heap b = some n' ∧ n'.item = m.item := by
    intro m hm
    by_cases hb : b = a
    · rw [hb, Function.update_self] at hm
      cases hm
      exact Or.inl rfl
    · rw [Function.update_of_ne hb] at hm
      exact Or.inr ⟨m, hm, rfl⟩
  unfold LinkedQueue.enqueue at h
  cases ht : q.tail with
  | none =>
      rw [ht] at h
      exact hnew n h
  | some t =>
      rw [ht] at h
      dsimp only at h
      by_cases hb : b = t
      · subst hb
        rw [Function.update_self] at h
        obtain ⟨m, hm, rfl⟩ := Option.map_eq_some_iff.mp h
        exact hnew m hm
      · rw [Function.update_of_ne hb] at h
        exact hnew n h

theorem dequeue_eq_some {q' : LinkedQueue α} (h : q.dequeue = some (x, q')) :
    ∃ a n, q.heap a = some n ∧ n.item = x ∧ q'.heap = Function.update q.heap a none := by
  unfold LinkedQueue.dequeue at h
  split at h
  · cases h
  · next a hhead =>
      obtain ⟨n, hn, hpair⟩ := Option.map_eq_some_iff.mp h
      cases hpair
      exact ⟨a, n, hn, rfl, rfl⟩

theorem mem_dequeue {q' : LinkedQueue α} (h : q.dequeue = some (x, q')) {b : Nat} {n : Node α}
    (hn : q'.heap b = some n) : q.heap b = some n := by
  obtain ⟨a, m, -, -, hheap⟩ := dequeue_eq_some h
  rw [hheap] at hn
  by_cases hb : b = a
  · rw [hb, Function.update_self] at hn
    cases hn
  · rwa [Function.update_of_ne hb] at hn

theorem wellLinked_nil (heap : Nat → Option (Node α)) :
    WellLinked ⟨heap, none, none⟩ ([] : List (Nat × α)) :=
  ⟨Linked.nil, rfl⟩

end LinkedQueue

end Halmos
