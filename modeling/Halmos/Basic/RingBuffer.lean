import Mathlib.Tactic

set_option autoImplicit false

/-! # Ring buffers

A queue as C programs keep it in an array: the index of the first item, the index behind the last
one, and the number of items, both indices going round at the end of the array. A ring that exists
is a good one: the fields carry what the three numbers have to do with each other. `toList` is the
queue that the ring stands for.
-/

namespace Halmos

/-- A ring of `cap` places. -/
structure RingBuffer (α : Type) (cap : Nat) where
  entries : Vector α cap
  head : Nat
  tail : Nat
  count : Nat
  head_lt : head < cap
  tail_eq : tail = (head + count) % cap
  count_le : count ≤ cap

namespace RingBuffer

section Ring

variable {α : Type} {cap : Nat}

theorem cap_pos (q : RingBuffer α cap) : 0 < cap := Nat.zero_lt_of_lt q.head_lt

/-- The place of an item, counted from the head. -/
def place (q : RingBuffer α cap) (i : Nat) : Fin cap :=
  ⟨(q.head + i) % cap, Nat.mod_lt _ q.cap_pos⟩

/-- The items, first to last. -/
def toList (q : RingBuffer α cap) : List α :=
  (List.range q.count).map (fun i => q.entries.get (q.place i))

theorem tail_lt (q : RingBuffer α cap) : q.tail < cap := by
  rw [q.tail_eq]
  exact Nat.mod_lt _ q.cap_pos

/-- The ring with nothing in it. -/
def empty (hcap : 0 < cap) (x : α) : RingBuffer α cap where
  entries := Vector.replicate cap x
  head := 0
  tail := 0
  count := 0
  head_lt := hcap
  tail_eq := (Nat.zero_mod cap).symm
  count_le := Nat.zero_le cap

/-- The place behind the last item. -/
def last (q : RingBuffer α cap) : Fin cap := ⟨q.tail, q.tail_lt⟩

/-- A new last item, made from what its place held before. -/
def put (q : RingBuffer α cap) (f : α → α) (hroom : q.count < cap) : RingBuffer α cap where
  entries := q.entries.set q.tail (f (q.entries.get q.last)) q.tail_lt
  head := q.head
  tail := (q.tail + 1) % cap
  count := q.count + 1
  head_lt := q.head_lt
  tail_eq := by rw [q.tail_eq, Nat.mod_add_mod, Nat.add_assoc]
  count_le := hroom

/-- The first item. -/
def first (q : RingBuffer α cap) : α := q.entries.get ⟨q.head, q.head_lt⟩

/-- The ring without its first item, which stays in its place. -/
def drop (q : RingBuffer α cap) (hsome : 0 < q.count) : RingBuffer α cap where
  entries := q.entries
  head := (q.head + 1) % cap
  tail := q.tail
  count := q.count - 1
  head_lt := Nat.mod_lt _ q.cap_pos
  tail_eq := by
    have hsum : q.head + 1 + (q.count - 1) = q.head + q.count := by omega
    rw [q.tail_eq, Nat.mod_add_mod, hsum]
  count_le := (Nat.sub_le _ _).trans q.count_le

/-! ## The places -/

theorem place_zero (q : RingBuffer α cap) : q.place 0 = ⟨q.head, q.head_lt⟩ :=
  Fin.ext (Nat.mod_eq_of_lt q.head_lt)

theorem last_eq_place (q : RingBuffer α cap) : q.last = q.place q.count := Fin.ext q.tail_eq

/-- Places less than a round apart are different. -/
theorem place_ne (q : RingBuffer α cap) {i j : Nat} (hij : i < j) (hj : j < i + cap) :
    q.place i ≠ q.place j := by
  intro h
  have hmod : (q.head + i) % cap = (q.head + j) % cap := congrArg Fin.val h
  have hdvd : cap ∣ (q.head + j) - (q.head + i) := (Nat.modEq_iff_dvd' (by omega)).mp hmod
  have hle : cap ≤ (q.head + j) - (q.head + i) := Nat.le_of_dvd (by omega) hdvd
  omega

theorem place_drop (q : RingBuffer α cap) (hsome : 0 < q.count) (i : Nat) :
    (q.drop hsome).place i = q.place (i + 1) := by
  apply Fin.ext
  show ((q.head + 1) % cap + i) % cap = (q.head + (i + 1)) % cap
  rw [Nat.mod_add_mod, Nat.add_right_comm, Nat.add_assoc]

/-! ## The queue of a ring -/

@[simp] theorem length_toList (q : RingBuffer α cap) : q.toList.length = q.count := by
  rw [toList, List.length_map, List.length_range]

@[simp] theorem toList_empty (hcap : 0 < cap) (x : α) : (empty hcap x).toList = [] := rfl

theorem toList_eq_nil (q : RingBuffer α cap) : q.toList = [] ↔ q.count = 0 := by
  rw [← List.length_eq_zero_iff, length_toList]

/-- The new item is in its place. -/
theorem get_put_last (q : RingBuffer α cap) (f : α → α) (hroom : q.count < cap) :
    (q.put f hroom).entries.get (q.place q.count) = f (q.entries.get q.last) := by
  rw [← q.last_eq_place]
  exact Vector.getElem_set_self _

/-- The other items stay in theirs. -/
theorem get_put_of_lt (q : RingBuffer α cap) (f : α → α) (hroom : q.count < cap) {i : Nat}
    (hi : i < q.count) :
    (q.put f hroom).entries.get (q.place i) = q.entries.get (q.place i) := by
  have hne : q.tail ≠ (q.place i).val := by
    intro heq
    have hsame : q.place i = q.place q.count := by
      rw [← q.last_eq_place]
      exact Fin.ext heq.symm
    exact q.place_ne hi (by omega) hsame
  exact Vector.getElem_set_ne q.tail_lt _ hne

/-- **A new item is the last one**, and the others are where they were. -/
theorem toList_put (q : RingBuffer α cap) (f : α → α) (hroom : q.count < cap) :
    (q.put f hroom).toList = q.toList ++ [f (q.entries.get q.last)] := by
  show (List.range (q.count + 1)).map (fun i => (q.put f hroom).entries.get (q.place i)) = _
  rw [List.range_succ, List.map_append, List.map_singleton, q.get_put_last f hroom, toList]
  congr 1
  apply List.map_congr_left
  intro i hi
  exact q.get_put_of_lt f hroom (List.mem_range.mp hi)

/-- **What is taken is the first item**, and the rest stays. -/
theorem toList_eq_cons (q : RingBuffer α cap) (hsome : 0 < q.count) :
    q.toList = q.first :: (q.drop hsome).toList := by
  have hcount : q.count = (q.drop hsome).count + 1 := (Nat.sub_add_cancel hsome).symm
  rw [toList, hcount, List.range_succ_eq_map, List.map_cons, List.map_map, q.place_zero]
  refine congrArg (q.first :: ·) (List.map_congr_left fun i _ => ?_)
  exact congrArg q.entries.get (q.place_drop hsome i).symm

end Ring

end RingBuffer

end Halmos
