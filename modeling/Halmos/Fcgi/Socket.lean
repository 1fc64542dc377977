import Mathlib.Tactic

set_option autoImplicit false

/-! # A backend socket

The receiving side of a non-blocking stream socket. Which of the bytes on their way have arrived
is up to a schedule: before every call some more arrive, and when the schedule is used up all of
them are there. `recv` with `MSG_WAITALL` takes what has arrived and does not wait for more; a
`splice` loop comes back until it has moved everything. A list of reads is in time when no `recv`
of it finds fewer bytes than it asks for.
-/

namespace Halmos.Fcgi

/-- The bytes that have arrived, those on their way, and how many of these arrive before each of
the next calls. -/
structure BackendSock where
  ready : List UInt8
  coming : List UInt8
  schedule : List Nat
  deriving DecidableEq, Repr

namespace BackendSock

/-- All bytes not yet read. -/
def stream (s : BackendSock) : List UInt8 := s.ready ++ s.coming

/-- What arrives before a call. -/
def tick (s : BackendSock) : BackendSock :=
  match s.schedule with
  | [] => ⟨s.ready ++ s.coming, [], []⟩
  | n :: rest => ⟨s.ready ++ s.coming.take n, s.coming.drop n, rest⟩

theorem tick_stream (s : BackendSock) : s.tick.stream = s.stream := by
  unfold tick stream
  split
  · exact List.append_nil _
  · rw [List.append_assoc, List.take_append_drop]

/-- `recv(fd, buf, n, MSG_WAITALL)`: the bytes received. Would-block is the empty list, which
counts as short like a partial result. -/
def recvWaitAll (s : BackendSock) (n : Nat) : List UInt8 × BackendSock :=
  (s.tick.ready.take n, { s.tick with ready := s.tick.ready.drop n })

/-- What is received comes off the front of the stream. -/
theorem recvWaitAll_append (s : BackendSock) (n : Nat) :
    (s.recvWaitAll n).1 ++ (s.recvWaitAll n).2.stream = s.stream := by
  rw [← tick_stream s]
  show s.tick.ready.take n ++ (s.tick.ready.drop n ++ s.tick.coming) = _
  rw [← List.append_assoc, List.take_append_drop]
  rfl

/-- The loop of `splice` calls that moves `n` bytes: the bytes moved, or `none` when it waits for
bytes that never come. A call that finds nothing is repeated. -/
def spliceLoop : List Nat → List UInt8 → List UInt8 → Nat → Option (List UInt8 × BackendSock)
  | [], ready, coming, n =>
      let ready := ready ++ coming
      if n ≤ ready.length then some (ready.take n, ⟨ready.drop n, [], []⟩) else none
  | k :: schedule, ready, coming, n =>
      let ready := ready ++ coming.take k
      let coming := coming.drop k
      if n ≤ ready.length then some (ready.take n, ⟨ready.drop n, coming, schedule⟩)
      else
        (spliceLoop schedule [] coming (n - ready.length)).map (fun r => (ready ++ r.1, r.2))

/-- A body of `n` bytes is moved from the socket to the client. -/
def spliceAll (s : BackendSock) (n : Nat) : Option (List UInt8 × BackendSock) :=
  spliceLoop s.schedule s.ready s.coming n

theorem spliceLoop_eq_some {schedule : List Nat} {ready coming got : List UInt8} {n : Nat}
    {s : BackendSock} (h : spliceLoop schedule ready coming n = some (got, s)) :
    got.length = n ∧ got ++ s.stream = ready ++ coming := by
  induction schedule generalizing ready coming got n with
  | nil =>
      rw [spliceLoop] at h
      split at h
      · next hle =>
          cases h
          refine ⟨List.length_take_of_le hle, ?_⟩
          show (ready ++ coming).take n ++ ((ready ++ coming).drop n ++ []) = _
          rw [List.append_nil, List.take_append_drop]
      · cases h
  | cons k schedule ih =>
      have hsplit : (ready ++ coming.take k) ++ coming.drop k = ready ++ coming := by
        rw [List.append_assoc, List.take_append_drop]
      rw [spliceLoop] at h
      split at h
      · next hle =>
          cases h
          refine ⟨List.length_take_of_le hle, ?_⟩
          show (ready ++ coming.take k).take n ++ ((ready ++ coming.take k).drop n ++ coming.drop k)
            = _
          rw [← List.append_assoc, List.take_append_drop, hsplit]
      · next hle =>
          obtain ⟨⟨more, s'⟩, hrec, heq⟩ := Option.map_eq_some_iff.mp h
          cases heq
          obtain ⟨hlen, happ⟩ := ih hrec
          rw [List.nil_append] at happ
          refine ⟨?_, ?_⟩
          · rw [List.length_append, hlen]
            omega
          · rw [List.append_assoc, happ, hsplit]

theorem spliceLoop_isSome {schedule : List Nat} {ready coming : List UInt8} {n : Nat}
    (h : n ≤ (ready ++ coming).length) : (spliceLoop schedule ready coming n).isSome := by
  induction schedule generalizing ready coming n with
  | nil =>
      rw [spliceLoop, if_pos h]
      rfl
  | cons k schedule ih =>
      rw [spliceLoop]
      split
      · rfl
      · rw [Option.isSome_map]
        apply ih
        rw [List.length_append] at h
        rw [List.nil_append, List.length_drop, List.length_append, List.length_take]
        omega

/-! ## Lists of reads -/

/-- One read of a list: a `recv` with `MSG_WAITALL`, or a `splice` loop. -/
inductive Read where
  | recv (n : Nat)
  | splice (n : Nat)
  deriving DecidableEq, Repr

def Read.size : Read → Nat
  | .recv n => n
  | .splice n => n

/-- A read that gets all it asks for. -/
def readOne (s : BackendSock) : Read → Option (List UInt8 × BackendSock)
  | .recv n => if (s.recvWaitAll n).1.length = n then some (s.recvWaitAll n) else none
  | .splice n => s.spliceAll n

/-- The socket after a list of reads, each of which gets all it asks for. -/
def readAll : List Read → BackendSock → Option BackendSock
  | [], s => some s
  | r :: rs, s => (s.readOne r).bind (fun x => readAll rs x.2)

/-- No read of the list comes too early. -/
def InTime (rs : List Read) (s : BackendSock) : Prop := (readAll rs s).isSome

instance (rs : List Read) (s : BackendSock) : Decidable (InTime rs s) :=
  inferInstanceAs (Decidable (_ = true))

theorem recvWaitAll_of_readOne {s s' : BackendSock} {n : Nat} {got : List UInt8}
    (h : s.readOne (.recv n) = some (got, s')) :
    s.recvWaitAll n = (got, s') ∧ got.length = n := by
  rw [readOne] at h
  split at h
  · next hlen =>
      rw [Option.some.inj h] at hlen
      exact ⟨Option.some.inj h, hlen⟩
  · cases h

theorem recvWaitAll_short {s : BackendSock} {n : Nat} (h : s.readOne (.recv n) = none) :
    (s.recvWaitAll n).1.length ≠ n := by
  intro hlen
  rw [readOne, if_pos hlen] at h
  cases h

theorem readOne_eq_some {s s' : BackendSock} {r : Read} {got : List UInt8}
    (h : s.readOne r = some (got, s')) : got.length = r.size ∧ got ++ s'.stream = s.stream := by
  cases r with
  | recv n =>
      obtain ⟨hrecv, hlen⟩ := recvWaitAll_of_readOne h
      have happ := recvWaitAll_append s n
      rw [hrecv] at happ
      exact ⟨hlen, happ⟩
  | splice n => exact spliceLoop_eq_some h

/-- A read that gets all it asks for takes what stands at the front of the stream. -/
theorem readOne_front {s s' : BackendSock} {r : Read} {got front rest : List UInt8}
    (h : s.readOne r = some (got, s')) (hs : s.stream = front ++ rest)
    (hlen : front.length = r.size) : got = front ∧ s'.stream = rest := by
  obtain ⟨hgot, happ⟩ := readOne_eq_some h
  rw [hs] at happ
  exact List.append_inj happ (by rw [hgot, hlen])

theorem readAll_append (rs rs' : List Read) (s : BackendSock) :
    readAll (rs ++ rs') s = (readAll rs s).bind (readAll rs') := by
  induction rs generalizing s with
  | nil => rfl
  | cons r rs ih =>
      rw [List.cons_append, readAll, readAll]
      cases s.readOne r with
      | none => rfl
      | some x => exact ih x.2

end BackendSock

end Halmos.Fcgi
