import Halmos.Basic.Runs

set_option autoImplicit false

/-! # The write side of an HTTP/2 session

`http2SocketWriteOrBuffer` and `http2SocketFlushPendingWrite` of `halmos_http2_socket.c`.
Bytes a write does not take are kept in `pending_write_buf` and sent by a later flush. The
environment's answer to one call is a `WriteOutcome`: what `write` or `SSL_write` does, should
the call get as far as writing, and whether `malloc` gives room for the backlog.
-/

namespace Halmos.Http2

/-- What the socket does with one write: it takes `n` bytes (all of them if fewer are offered),
it would block (`EAGAIN`, or the sentinels of `ssl_send`), or it fails for good. -/
inductive WriteResult where
  | accepted (n : Nat)
  | wouldBlock
  | hardError
  deriving DecidableEq, Repr

/-- The environment's part in one call. -/
structure WriteOutcome where
  write : WriteResult
  mallocOk : Bool
  deriving DecidableEq, Repr

/-- The write fields of `HTTP2Session`. -/
structure WriteBacklog where
  pendingWriteBuf : List UInt8
  pendingWriteLen : Nat
  pendingWriteOffset : Nat
  writeError : Bool
  deriving DecidableEq, Repr

/-- The write fields `calloc` leaves in a new session. -/
def WriteBacklog.fresh : WriteBacklog := ⟨[], 0, 0, false⟩

/-- The part of `pending_write_buf` that is still to be sent. -/
def WriteBacklog.unsent (s : WriteBacklog) : List UInt8 :=
  (s.pendingWriteBuf.drop s.pendingWriteOffset).take (s.pendingWriteLen - s.pendingWriteOffset)

/-- There is unsent backlog: `pending_write_len > pending_write_offset`. -/
def WriteBacklog.hasPending (s : WriteBacklog) : Prop :=
  s.pendingWriteOffset < s.pendingWriteLen

instance (s : WriteBacklog) : Decidable s.hasPending :=
  inferInstanceAs (Decidable (_ < _))

/-- The second half of `http2_socket_write_or_buffer`: the backlog is rebuilt from its unsent
part and the part of `data` the socket has not taken. -/
def bufferRest (mallocOk : Bool) (s : WriteBacklog) (data : List UInt8) (alreadySent : Nat) :
    WriteBacklog :=
  let remaining := data.length - alreadySent
  let oldUnsent := s.pendingWriteLen - s.pendingWriteOffset
  if mallocOk then
    { s with
      pendingWriteBuf := s.unsent ++ data.drop alreadySent
      pendingWriteLen := oldUnsent + remaining
      pendingWriteOffset := 0 }
  else { s with writeError := true }

/-- `http2_socket_write_or_buffer`; the second component is what the socket has taken. -/
def http2SocketWriteOrBuffer (o : WriteOutcome) (s : WriteBacklog) (data : List UInt8) :
    WriteBacklog × List UInt8 :=
  if data.length = 0 then (s, [])
  else if s.pendingWriteLen ≤ s.pendingWriteOffset then
    match o.write with
    | .hardError => ({ s with writeError := true }, [])
    | .wouldBlock => (bufferRest o.mallocOk s data 0, [])
    | .accepted n =>
        let alreadySent := min n data.length
        if alreadySent = data.length then (s, data)
        else (bufferRest o.mallocOk s data alreadySent, data.take alreadySent)
  else (bufferRest o.mallocOk s data 0, [])

/-- `http2_socket_flush_pending_write`: its return value (`0` done, `1` something left, `-1`
hard error), the session's write fields afterwards, and what the socket has taken. -/
def http2SocketFlushPendingWrite (r : WriteResult) (s : WriteBacklog) :
    Int × WriteBacklog × List UInt8 :=
  if s.pendingWriteLen ≤ s.pendingWriteOffset then (0, s, [])
  else
    match r with
    | .accepted n =>
        let n := min n (s.pendingWriteLen - s.pendingWriteOffset)
        if n = 0 then (1, s, [])
        else if s.pendingWriteLen ≤ s.pendingWriteOffset + n then
          (0, { s with pendingWriteBuf := [], pendingWriteLen := 0, pendingWriteOffset := 0 },
            s.unsent.take n)
        else
          (1, { s with pendingWriteOffset := s.pendingWriteOffset + n }, s.unsent.take n)
    | .wouldBlock => (1, s, [])
    | .hardError => (-1, s, [])

/-! ## The invariant of the backlog -/

/-- The buffer is as long as its length field says and the offset lies inside it. -/
structure WriteBacklog.Ok (s : WriteBacklog) : Prop where
  buf_length : s.pendingWriteBuf.length = s.pendingWriteLen
  offset_le : s.pendingWriteOffset ≤ s.pendingWriteLen

theorem WriteBacklog.fresh_ok : WriteBacklog.fresh.Ok := ⟨rfl, Nat.le_refl 0⟩

theorem WriteBacklog.Ok.unsent_eq {s : WriteBacklog} (h : s.Ok) :
    s.unsent = s.pendingWriteBuf.drop s.pendingWriteOffset := by
  unfold WriteBacklog.unsent
  exact List.take_of_length_le (by rw [List.length_drop, h.buf_length])

theorem WriteBacklog.Ok.unsent_length {s : WriteBacklog} (h : s.Ok) :
    s.unsent.length = s.pendingWriteLen - s.pendingWriteOffset := by
  rw [h.unsent_eq, List.length_drop, h.buf_length]

theorem WriteBacklog.unsent_eq_nil {s : WriteBacklog}
    (h : s.pendingWriteLen ≤ s.pendingWriteOffset) : s.unsent = [] := by
  unfold WriteBacklog.unsent
  rw [Nat.sub_eq_zero_of_le h, List.take_zero]

theorem WriteBacklog.Ok.unsent_eq_nil_iff {s : WriteBacklog} (h : s.Ok) :
    s.unsent = [] ↔ ¬ s.hasPending := by
  rw [← List.length_eq_zero_iff, h.unsent_length]
  unfold WriteBacklog.hasPending
  omega

/-! ## What a call leaves behind -/

theorem bufferRest_ok {s : WriteBacklog} (h : s.Ok) (data : List UInt8) (k : Nat) :
    ∀ mallocOk, (bufferRest mallocOk s data k).Ok
  | true => by
      refine ⟨?_, Nat.zero_le _⟩
      show (s.unsent ++ data.drop k).length = _
      rw [List.length_append, h.unsent_length, List.length_drop]
      rfl
  | false => ⟨h.buf_length, h.offset_le⟩

theorem bufferRest_unsent {s : WriteBacklog} (h : s.Ok) (data : List UInt8) (k : Nat) :
    (bufferRest true s data k).unsent = s.unsent ++ data.drop k :=
  (bufferRest_ok h data k true).unsent_eq

@[simp] theorem bufferRest_writeError (s : WriteBacklog) (data : List UInt8) (k : Nat) :
    (bufferRest true s data k).writeError = s.writeError := rfl

@[simp] theorem bufferRest_false (s : WriteBacklog) (data : List UInt8) (k : Nat) :
    bufferRest false s data k = { s with writeError := true } := rfl

theorem http2SocketWriteOrBuffer_ok (o : WriteOutcome) {s : WriteBacklog} (h : s.Ok)
    (data : List UInt8) : (http2SocketWriteOrBuffer o s data).1.Ok := by
  unfold http2SocketWriteOrBuffer
  split
  · exact h
  · split
    · split
      · exact ⟨h.buf_length, h.offset_le⟩
      · exact bufferRest_ok h data 0 _
      · dsimp only
        split
        · exact h
        · exact bufferRest_ok h data _ _
    · exact bufferRest_ok h data 0 _

theorem http2SocketFlushPendingWrite_ok (r : WriteResult) {s : WriteBacklog} (h : s.Ok) :
    (http2SocketFlushPendingWrite r s).2.1.Ok := by
  unfold http2SocketFlushPendingWrite
  split
  · exact h
  · split
    · dsimp only
      split
      · exact h
      · split
        · exact ⟨rfl, Nat.le_refl 0⟩
        · exact ⟨h.buf_length, by dsimp only; omega⟩
    · exact h
    · exact h

/-- The calls the socket layer cannot answer by retrying: no hard error, no failed `malloc`. -/
structure WriteOutcome.Soft (o : WriteOutcome) : Prop where
  not_hardError : o.write ≠ .hardError
  mallocOk : o.mallocOk = true

/-- A write that does not fail delivers or keeps every byte, in order. -/
theorem http2SocketWriteOrBuffer_bytes {o : WriteOutcome} (ho : o.Soft) {s : WriteBacklog}
    (h : s.Ok) (data : List UInt8) :
    (http2SocketWriteOrBuffer o s data).2 ++ (http2SocketWriteOrBuffer o s data).1.unsent
      = s.unsent ++ data := by
  unfold http2SocketWriteOrBuffer
  rw [ho.mallocOk]
  by_cases hd : data.length = 0
  · rw [if_pos hd, List.length_eq_zero_iff.mp hd, List.append_nil, List.nil_append]
  · rw [if_neg hd]
    by_cases hp : s.pendingWriteLen ≤ s.pendingWriteOffset
    · rw [if_pos hp, WriteBacklog.unsent_eq_nil hp]
      cases hw : o.write with
      | hardError => exact absurd hw ho.not_hardError
      | wouldBlock =>
          simp only [List.nil_append]
          rw [bufferRest_unsent h, WriteBacklog.unsent_eq_nil hp, List.drop_zero,
            List.nil_append]
      | accepted n =>
          simp only [List.nil_append]
          by_cases hn : min n data.length = data.length
          · rw [if_pos hn, WriteBacklog.unsent_eq_nil hp, List.append_nil]
          · rw [if_neg hn]
            simp only
            rw [bufferRest_unsent h, WriteBacklog.unsent_eq_nil hp, List.nil_append,
              List.take_append_drop]
    · rw [if_neg hp]
      simp only [List.nil_append]
      rw [bufferRest_unsent h, List.drop_zero]

theorem http2SocketWriteOrBuffer_writeError {o : WriteOutcome} (ho : o.Soft)
    (s : WriteBacklog) (data : List UInt8) :
    (http2SocketWriteOrBuffer o s data).1.writeError = s.writeError := by
  unfold http2SocketWriteOrBuffer
  rw [ho.mallocOk]
  split
  · rfl
  · split
    · split
      · next hw => exact absurd hw ho.not_hardError
      · rfl
      · dsimp only
        split <;> rfl
    · rfl

/-- A flush moves a prefix of the unsent bytes to the socket, whatever the socket answers. -/
theorem http2SocketFlushPendingWrite_bytes (r : WriteResult) {s : WriteBacklog} (h : s.Ok) :
    (http2SocketFlushPendingWrite r s).2.2 ++ (http2SocketFlushPendingWrite r s).2.1.unsent
      = s.unsent := by
  unfold http2SocketFlushPendingWrite
  by_cases hp : s.pendingWriteLen ≤ s.pendingWriteOffset
  · rw [if_pos hp, List.nil_append]
  · rw [if_neg hp]
    cases r with
    | wouldBlock => exact List.nil_append _
    | hardError => exact List.nil_append _
    | accepted n =>
        simp only
        set m := min n (s.pendingWriteLen - s.pendingWriteOffset) with hm
        by_cases h0 : m = 0
        · rw [if_pos h0, List.nil_append]
        · rw [if_neg h0]
          by_cases hall : s.pendingWriteLen ≤ s.pendingWriteOffset + m
          · rw [if_pos hall]
            have hlen := h.unsent_length
            rw [List.take_of_length_le (by omega)]
            exact List.append_nil _
          · rw [if_neg hall]
            have hok : WriteBacklog.Ok { s with pendingWriteOffset := s.pendingWriteOffset + m } :=
              ⟨h.buf_length, by dsimp only; omega⟩
            simp only
            rw [hok.unsent_eq, h.unsent_eq]
            simp only [← List.drop_drop]
            exact List.take_append_drop m _

@[simp] theorem http2SocketFlushPendingWrite_writeError (r : WriteResult) (s : WriteBacklog) :
    (http2SocketFlushPendingWrite r s).2.1.writeError = s.writeError := by
  unfold http2SocketFlushPendingWrite
  split
  · rfl
  · split
    · dsimp only
      split
      · rfl
      · split <;> rfl
    · rfl
    · rfl

/-- A flush that is not refused for good returns `0` exactly when nothing is left. -/
theorem http2SocketFlushPendingWrite_eq_zero_iff (r : WriteResult) {s : WriteBacklog}
    (h : s.Ok) :
    (http2SocketFlushPendingWrite r s).1 = 0
      ↔ (http2SocketFlushPendingWrite r s).2.1.unsent = [] := by
  rw [(http2SocketFlushPendingWrite_ok r h).unsent_eq_nil_iff]
  unfold http2SocketFlushPendingWrite WriteBacklog.hasPending
  split
  · next hp => simpa using hp
  · next hp =>
      split
      · dsimp only
        split
        · simpa using hp
        · split
          · simp
          · next hrest => simpa using hrest
      · simpa using hp
      · simpa using hp

/-! ## Runs of writes and flushes on one session -/

/-- One call on the write side. -/
inductive SocketCall where
  | writeOrBuffer (data : List UInt8)
  | flushPendingWrite
  deriving DecidableEq, Repr

/-- The bytes a call passes in. -/
def SocketCall.data : SocketCall → List UInt8
  | .writeOrBuffer data => data
  | .flushPendingWrite => []

/-- A session's write side together with all the bytes its socket has taken so far. -/
structure WriteSide where
  backlog : WriteBacklog
  wire : List UInt8

def WriteSide.fresh : WriteSide := ⟨.fresh, []⟩

/-- One call under one answer of the environment. -/
def WriteSide.call (s : WriteSide) (i : SocketCall × WriteOutcome) : WriteSide :=
  match i.1 with
  | .writeOrBuffer data =>
      let r := http2SocketWriteOrBuffer i.2 s.backlog data
      ⟨r.1, s.wire ++ r.2⟩
  | .flushPendingWrite =>
      let r := http2SocketFlushPendingWrite i.2.write s.backlog
      ⟨r.2.1, s.wire ++ r.2.2⟩

/-- All data passed in by a list of calls. -/
def passedIn (calls : List (SocketCall × WriteOutcome)) : List UInt8 :=
  calls.flatMap (fun i => i.1.data)

theorem WriteSide.call_ok (s : WriteSide) (i : SocketCall × WriteOutcome)
    (h : s.backlog.Ok) : (s.call i).backlog.Ok := by
  obtain ⟨c, o⟩ := i
  cases c with
  | writeOrBuffer data => exact http2SocketWriteOrBuffer_ok o h data
  | flushPendingWrite => exact http2SocketFlushPendingWrite_ok o.write h

theorem WriteSide.call_bytes (s : WriteSide) (i : SocketCall × WriteOutcome)
    (h : s.backlog.Ok) (ho : i.2.Soft) :
    (s.call i).wire ++ (s.call i).backlog.unsent
      = s.wire ++ s.backlog.unsent ++ i.1.data := by
  obtain ⟨c, o⟩ := i
  cases c with
  | writeOrBuffer data =>
      have hbytes := http2SocketWriteOrBuffer_bytes ho h data
      simp only [WriteSide.call, SocketCall.data, List.append_assoc] at hbytes ⊢
      rw [hbytes]
  | flushPendingWrite =>
      have hbytes := http2SocketFlushPendingWrite_bytes o.write h
      simp only [WriteSide.call, SocketCall.data, List.append_assoc, List.append_nil]
      rw [hbytes]

theorem WriteSide.run_ok (calls : List (SocketCall × WriteOutcome)) {s : WriteSide}
    (h : s.backlog.Ok) : (runSteps WriteSide.call s calls).backlog.Ok := by
  induction calls generalizing s with
  | nil => exact h
  | cons i calls ih => exact ih (s.call_ok i h)

/-- Bytes on the wire and bytes in the backlog, put together, are what was passed in. -/
theorem WriteSide.run_bytes (calls : List (SocketCall × WriteOutcome))
    (hsoft : ∀ i ∈ calls, i.2.Soft) {s : WriteSide} (h : s.backlog.Ok) :
    (runSteps WriteSide.call s calls).wire ++ (runSteps WriteSide.call s calls).backlog.unsent
      = s.wire ++ s.backlog.unsent ++ passedIn calls := by
  induction calls generalizing s with
  | nil => exact (List.append_nil _).symm
  | cons i calls ih =>
      rw [runSteps_cons, ih (fun j hj => hsoft j (by simp [hj])) (s.call_ok i h),
        s.call_bytes i h (hsoft i (by simp))]
      simp [passedIn, List.append_assoc]

/-- **No byte is lost, repeated or reordered on the write side.** After any calls the
environment does not refuse for good, the bytes the socket has taken followed by the unsent
part of the backlog are all the data passed in, the offset lies inside the buffer, and a flush
returns `0` exactly when it leaves nothing pending. -/
theorem writeSide_conserves (calls : List (SocketCall × WriteOutcome))
    (hsoft : ∀ i ∈ calls, i.2.Soft) :
    let s := runSteps WriteSide.call .fresh calls
    s.wire ++ s.backlog.unsent = passedIn calls ∧
    s.backlog.pendingWriteOffset ≤ s.backlog.pendingWriteLen ∧
    ∀ r, (http2SocketFlushPendingWrite r s.backlog).1 = 0
      ↔ (http2SocketFlushPendingWrite r s.backlog).2.1.unsent = [] := by
  have hok := WriteSide.run_ok calls (s := .fresh) WriteBacklog.fresh_ok
  exact ⟨WriteSide.run_bytes calls hsoft WriteBacklog.fresh_ok, hok.offset_le,
    fun r => http2SocketFlushPendingWrite_eq_zero_iff r hok⟩

/-- A partial write, an append to the backlog and a flush that takes one byte. -/
theorem writeSide_conserves_partial :
    let calls : List (SocketCall × WriteOutcome) :=
      [(.writeOrBuffer [1, 2, 3], ⟨.accepted 1, true⟩), (.writeOrBuffer [4], ⟨.wouldBlock, true⟩),
        (.flushPendingWrite, ⟨.accepted 1, true⟩)]
    let s := runSteps WriteSide.call .fresh calls
    s.wire ++ s.backlog.unsent = passedIn calls ∧
    s.backlog.pendingWriteOffset ≤ s.backlog.pendingWriteLen ∧
    ∀ r, (http2SocketFlushPendingWrite r s.backlog).1 = 0
      ↔ (http2SocketFlushPendingWrite r s.backlog).2.1.unsent = [] := by
  refine writeSide_conserves _ (fun i hi => ?_)
  simp only [List.mem_cons, List.not_mem_nil, or_false] at hi
  rcases hi with rfl | rfl | rfl <;> exact ⟨by decide, rfl⟩

end Halmos.Http2
