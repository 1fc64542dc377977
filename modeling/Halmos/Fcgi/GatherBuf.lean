import Halmos.Fcgi.Params

set_option autoImplicit false

/-! # The writes into the gather buffer

`fcgi_session_http1_create` and state 0 of `fcgi_session_http2_step` write a BEGIN_REQUEST record
into a buffer of 65536 bytes, and `fcgi_proto_build_params` the parameters behind it. A pair is
only written if it fits, but what comes behind the last pair, the padding and the empty record, is
written in any case. All writes stay inside exactly if the pairs leave room for these eight bytes
(`gatherWrites_inside_iff`).
-/

namespace Halmos.Fcgi

/-- A write of so many bytes at an offset of the buffer. -/
structure Write where
  offset : Nat
  size : Nat
  deriving DecidableEq, Repr

/-- The write stays inside the buffer. -/
def Write.Inside (w : Write) : Prop := w.offset + w.size ≤ gatherBufSize

instance (w : Write) : Decidable w.Inside := inferInstanceAs (Decidable (_ ≤ _))

/-! ## The code -/

/-- The bytes that the length of a text takes. -/
def lengthBytes (n : Nat) : Nat := if 127 < n then 4 else 1

/-- `offset + h_name + h_val + (int)name_len + (int)value_len`, as an `int`. -/
def pairEnd (offset : Nat) (p : Pair) : Int :=
  ((offset + (lengthBytes p.1.length + lengthBytes p.2.length + p.1.length + p.2.length) : Nat)
    : Int).bmod (2 ^ 32)

/-- The length of the name, the length of the value, the name and the value. -/
def fieldSizes (p : Pair) : List Nat :=
  [lengthBytes p.1.length, lengthBytes p.2.length, p.1.length, p.2.length]

/-- Writes one behind the other, and the offset behind the last. -/
def consecutive : Nat → List Nat → List Write × Nat
  | offset, [] => ([], offset)
  | offset, size :: sizes =>
      (⟨offset, size⟩ :: (consecutive (offset + size) sizes).1, (consecutive (offset + size) sizes).2)

/-- The writes of `fcgi_proto_add_pair`, and the offset it returns. -/
def addPairWrites (offset : Nat) (p : Pair) : List Write × Nat :=
  if gatherBufSize < pairEnd offset p then ([], offset) else consecutive offset (fieldSizes p)

/-- The writes of the pairs, one behind the other. -/
def pairWrites : Nat → List Pair → List Write × Nat
  | offset, [] => ([], offset)
  | offset, p :: pairs =>
      let rest := pairWrites (addPairWrites offset p).2 pairs
      ((addPairWrites offset p).1 ++ rest.1, rest.2)

/-- The writes of `fcgi_proto_build_params` behind `g_ptr`. -/
def buildParamsWrites (cfg : CgiConfig) (req : CgiRequest) (contentLength gPtr : Nat) :
    List Write :=
  let pairs := pairWrites (gPtr + 8) (paramCalls cfg req contentLength)
  let pOffset := pairs.2
  let pad := (8 - (pOffset - (gPtr + 8)) % 8) % 8
  pairs.1 ++ [⟨gPtr, 8⟩] ++ (List.range pad).map (fun i => ⟨pOffset + i, 1⟩)
    ++ [⟨pOffset + pad, 8⟩]

/-- The header and the body of BEGIN_REQUEST. -/
def beginWrites : List Write := [⟨0, 8⟩, ⟨8, 1⟩, ⟨9, 1⟩, ⟨10, 1⟩, ⟨11, 5⟩]

/-- The writes of `fcgi_session_http1_create`. -/
def http1CreateWrites (cfg : CgiConfig) (req : CgiRequest) (contentLength : Nat) : List Write :=
  beginWrites ++ buildParamsWrites cfg req contentLength 16

/-- The writes of state 0 of `fcgi_session_http2_step`. -/
def http2InitWrites (cfg : CgiConfig) (req : CgiRequest) (contentLength : Nat) : List Write :=
  beginWrites ++ buildParamsWrites cfg req contentLength 16

/-! ## The room that pairs take -/

/-- The bytes of a pair. -/
def pairSize (p : Pair) : Nat :=
  lengthBytes p.1.length + lengthBytes p.2.length + p.1.length + p.2.length

/-- Behind `used` bytes, a pair of this size passes for one that fits, with the sum of an `int`. -/
def PassesAt (used size : Nat) : Prop := ((used + size : Nat) : Int).bmod (2 ^ 32) ≤ gatherBufSize

instance (used size : Nat) : Decidable (PassesAt used size) := inferInstanceAs (Decidable (_ ≤ _))

/-- The bytes in use when pairs of these sizes are put in, one behind the other, and those are
left out that do not pass. -/
def filled : Nat → List Nat → Nat
  | used, [] => used
  | used, size :: sizes =>
      if PassesAt used size then filled (used + size) sizes else filled used sizes

theorem le_filled (used : Nat) (sizes : List Nat) : used ≤ filled used sizes := by
  induction sizes generalizing used with
  | nil => exact Nat.le_refl used
  | cons size sizes ih =>
      rw [filled]
      split
      · exact (Nat.le_add_right used size).trans (ih (used + size))
      · exact ih used

theorem filled_append (used : Nat) (sizes more : List Nat) :
    filled used (sizes ++ more) = filled (filled used sizes) more := by
  induction sizes generalizing used with
  | nil => rfl
  | cons size sizes ih =>
      rw [List.cons_append, filled, filled]
      split <;> exact ih _

section Pairs

variable {offset : Nat} {p : Pair} {pairs : List Pair}

theorem consecutive_snd (offset : Nat) (sizes : List Nat) :
    (consecutive offset sizes).2 = offset + sizes.sum := by
  induction sizes generalizing offset with
  | nil => rfl
  | cons size sizes ih => rw [consecutive, ih, List.sum_cons, Nat.add_assoc]

/-- Consecutive writes end where the last one ends. -/
theorem consecutive_le {sizes : List Nat} : ∀ w ∈ (consecutive offset sizes).1,
    w.offset + w.size ≤ (consecutive offset sizes).2 := by
  induction sizes generalizing offset with
  | nil => simp [consecutive]
  | cons size sizes ih =>
      rw [consecutive, List.forall_mem_cons]
      refine ⟨?_, ih⟩
      rw [consecutive_snd]
      exact Nat.le_add_right _ _

theorem fieldSizes_sum (p : Pair) : (fieldSizes p).sum = pairSize p := by
  simp [fieldSizes, pairSize, Nat.add_assoc]

theorem addPairWrites_snd (offset : Nat) (p : Pair) :
    (addPairWrites offset p).2
      = if PassesAt offset (pairSize p) then offset + pairSize p else offset := by
  have hpasses : PassesAt offset (pairSize p) ↔ ¬ (gatherBufSize : Int) < pairEnd offset p := by
    unfold PassesAt pairEnd pairSize
    exact not_lt.symm
  unfold addPairWrites
  by_cases h : PassesAt offset (pairSize p)
  · rw [if_pos h, if_neg (hpasses.mp h), consecutive_snd, fieldSizes_sum]
  · rw [if_neg h, if_pos (not_not.mp (fun hno => h (hpasses.mpr hno)))]

/-- The writes of a pair end where the next pair begins. -/
theorem addPairWrites_le : ∀ w ∈ (addPairWrites offset p).1,
    w.offset + w.size ≤ (addPairWrites offset p).2 := by
  unfold addPairWrites
  split
  · simp
  · exact consecutive_le

theorem pairWrites_snd (offset : Nat) (pairs : List Pair) :
    (pairWrites offset pairs).2 = filled offset (pairs.map pairSize) := by
  induction pairs generalizing offset with
  | nil => rfl
  | cons p pairs ih =>
      rw [pairWrites, List.map_cons, filled]
      dsimp only
      rw [ih, addPairWrites_snd]
      split <;> rfl

/-- No write of a pair goes beyond the end of the last pair. -/
theorem pairWrites_le : ∀ w ∈ (pairWrites offset pairs).1,
    w.offset + w.size ≤ (pairWrites offset pairs).2 := by
  induction pairs generalizing offset with
  | nil => simp [pairWrites]
  | cons p pairs ih =>
      intro w hw
      rw [pairWrites] at hw ⊢
      dsimp only at hw ⊢
      rcases List.mem_append.mp hw with h | h
      · have hnext := le_filled (addPairWrites offset p).2 (pairs.map pairSize)
        rw [← pairWrites_snd] at hnext
        exact (addPairWrites_le w h).trans hnext
      · exact ih w h

end Pairs

/-! ## The buffer -/

section Buffer

variable {cfg : CgiConfig} {req : CgiRequest} {contentLength : Nat}

/-- The end of the pairs of a request, behind BEGIN_REQUEST and the header of PARAMS. -/
def pairsEnd (cfg : CgiConfig) (req : CgiRequest) (contentLength : Nat) : Nat :=
  filled 24 ((paramCalls cfg req contentLength).map pairSize)

/-- **The writes of `fcgi_proto_build_params`**: the last one is the empty record, and it is inside
exactly if the pairs end in front of the last eight bytes. -/
theorem buildParamsWrites_inside_iff :
    (∀ w ∈ buildParamsWrites cfg req contentLength 16, w.Inside)
      ↔ pairsEnd cfg req contentLength ≤ gatherBufSize - 8 := by
  have hend : (pairWrites 24 (paramCalls cfg req contentLength)).2
      = pairsEnd cfg req contentLength := pairWrites_snd 24 _
  have hstart : 24 ≤ pairsEnd cfg req contentLength := le_filled 24 _
  have hsize : gatherBufSize = 65536 := rfl
  unfold buildParamsWrites Write.Inside
  dsimp only
  rw [hend]
  simp only [List.mem_append, List.mem_map, List.mem_range, List.mem_singleton]
  constructor
  · intro h
    have hlast := h _ (Or.inr rfl)
    dsimp only at hlast
    omega
  · rintro h w (((hw | rfl) | ⟨i, hi, rfl⟩) | rfl)
    · have hle := (pairWrites_le w hw).trans_eq hend
      omega
    all_goals
      dsimp only
      omega

/-- **The gather buffer**: every write of `fcgi_session_http1_create` and of state 0 of
`fcgi_session_http2_step` stays inside it exactly if the pairs of the request, put in one behind
the other from byte 24 on, end in front of its last eight bytes. -/
theorem gatherWrites_inside_iff (cfg : CgiConfig) (req : CgiRequest) (contentLength : Nat) :
    ((∀ w ∈ http1CreateWrites cfg req contentLength, w.Inside)
        ∧ ∀ w ∈ http2InitWrites cfg req contentLength, w.Inside)
      ↔ filled 24 ((paramCalls cfg req contentLength).map pairSize) ≤ gatherBufSize - 8 := by
  have hbegin : ∀ w ∈ beginWrites, w.Inside := by decide
  have hall : (∀ w ∈ beginWrites ++ buildParamsWrites cfg req contentLength 16, w.Inside)
      ↔ pairsEnd cfg req contentLength ≤ gatherBufSize - 8 := by
    rw [List.forall_mem_append, ← buildParamsWrites_inside_iff]
    exact and_iff_right hbegin
  constructor
  · intro h
    exact hall.mp h.1
  · intro h
    exact ⟨hall.mpr h, hall.mpr h⟩

theorem encodePair_size (p : Pair) : (encodePair p).length = pairSize p := encodePair_length p

/-- Far from the bounds of an `int`, a pair passes exactly if it fits. -/
theorem passesAt_iff {used size : Nat} (hused : used ≤ gatherBufSize)
    (hsize : size < 2 ^ 31 - 2 ^ 17) : PassesAt used size ↔ used + size ≤ gatherBufSize := by
  have hcap : gatherBufSize = 65536 := rfl
  have hsum : ((used + size : Nat) : Int).bmod (2 ^ 32) = (used + size : Nat) := by
    rw [Int.bmod_def]
    split <;> omega
  unfold PassesAt
  rw [hsum]
  exact Int.ofNat_le

theorem filled_fittingPairs {offset : Nat} {pairs : List Pair} (hoffset : offset ≤ gatherBufSize)
    (h : ∀ p ∈ pairs, pairSize p < 2 ^ 31 - 2 ^ 17) :
    filled offset (pairs.map pairSize)
      = offset + ((fittingPairs gatherBufSize offset pairs).flatMap encodePair).length := by
  induction pairs generalizing offset with
  | nil => rfl
  | cons p pairs ih =>
      rw [List.forall_mem_cons] at h
      rw [List.map_cons, filled, fittingPairs, encodePair_size]
      by_cases hfits : offset + pairSize p ≤ gatherBufSize
      · rw [if_pos ((passesAt_iff hoffset h.1).mpr hfits), if_pos hfits, ih hfits h.2,
          List.flatMap_cons, List.length_append, encodePair_size, Nat.add_assoc]
      · rw [if_neg (fun hpass => hfits ((passesAt_iff hoffset h.1).mp hpass)), if_neg hfits,
          ih hoffset h.2]

/-- Where no sum of lengths comes near the bounds of an `int`, the writes fill the bytes that are
sent. -/
theorem gatherBuf_length (requestId : Nat)
    (h : ∀ p ∈ paramCalls cfg req contentLength, pairSize p < 2 ^ 31 - 2 ^ 17) :
    (gatherBuf cfg req contentLength requestId).length
      = (pairsEnd cfg req contentLength + 7) / 8 * 8 + 8 := by
  have hfilled : pairsEnd cfg req contentLength
      = 24 + ((sentPairs cfg req contentLength).flatMap encodePair).length :=
    filled_fittingPairs (by decide) h
  have hheader : ∀ length padding, (paramsHeader requestId length padding).length = 8 :=
    fun _ _ => rfl
  have hbegin : (beginRequest requestId).length = 16 := rfl
  rw [gatherBuf_eq]
  simp only [List.length_append, List.length_replicate, hheader, hbegin]
  omega

end Buffer

/-- A request with a cookie of `n` bytes. -/
def cookieRequest (n : Nat) : CgiRequest :=
  { plainRequest with cookieData := some (List.replicate n 97) }

theorem pairsEnd_cookie (n : Nat) :
    pairsEnd plainConfig (cookieRequest n) 0
      = filled (pairsEnd plainConfig plainRequest 0) [1 + lengthBytes n + 11 + n] := by
  have hcalls : paramCalls plainConfig (cookieRequest n) 0
      = paramCalls plainConfig plainRequest 0 ++ [(ascii "HTTP_COOKIE", List.replicate n 97)] := rfl
  have hsize : pairSize (ascii "HTTP_COOKIE", List.replicate n 97) = 1 + lengthBytes n + 11 + n := by
    unfold pairSize
    dsimp only
    rw [List.length_replicate]
    rfl
  unfold pairsEnd
  rw [hcalls, List.map_append, filled_append, List.map_cons, List.map_nil, hsize]

/-- A cookie of 65201 bytes: its pair ends the buffer, and the empty record is behind it. -/
theorem empty_record_outside :
    ¬ ∀ (cfg : CgiConfig) (req : CgiRequest) (contentLength : Nat),
      (∀ w ∈ http1CreateWrites cfg req contentLength, w.Inside)
        ∧ ∀ w ∈ http2InitWrites cfg req contentLength, w.Inside := by
  intro h
  have hall := (List.forall_mem_append.mp (h plainConfig (cookieRequest 65201) 0).1).2
  rw [buildParamsWrites_inside_iff, pairsEnd_cookie] at hall
  exact absurd hall (by decide +kernel)

end Halmos.Fcgi
