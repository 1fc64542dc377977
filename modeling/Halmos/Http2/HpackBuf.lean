import Halmos.Http2.ResponseHeader

set_option autoImplicit false

/-! # The buffer of `http2_response_send_complex_header`

`hpack_buf` has 16384 bytes and is doubled in front of a header line that might not fit, once. Each
write is recorded with its index and the capacity at that moment. They stay inside exactly if no
line needs more than the doubled buffer (`complexHeaderBuf_inside_iff`), and no line does whose name
and value have 16378 bytes or less (`linesFit_of_short`).
-/

namespace Halmos.Http2

/-! ## The writes -/

/-- `hpack_buf`: what has been written (`pos` bytes), `buf_capacity`, and the index of each byte
written with the capacity it met. -/
structure HpackBuf where
  bytes : List UInt8
  capacity : Nat
  writes : List (Nat × Nat)
  deriving DecidableEq, Repr

/-- `malloc(buf_capacity)`. -/
def HpackBuf.fresh : HpackBuf := ⟨[], 16384, []⟩

/-- Bytes are written at `pos`. -/
def HpackBuf.put (b : HpackBuf) (data : List UInt8) : HpackBuf where
  bytes := b.bytes ++ data
  capacity := b.capacity
  writes := b.writes ++ (List.range' b.bytes.length data.length).map (fun i => (i, b.capacity))

/-- The name and the value a header line is encoded with, unless there is no colon in it or its name
is `status`. -/
def headerEntry (line : List UInt8) : Option (List UInt8 × List UInt8) :=
  if 58 ∉ line then none
  else
    let key := ((line.takeWhile (fun c => c ≠ 58)).dropWhile isSpace).map toLower
    let value := (trimEnd ((line.dropWhile (fun c => c ≠ 58)).drop 1)).dropWhile isSpace
    if key = ascii "status" then none else some (key, value)

def headerEntries (raw : List UInt8) : List (List UInt8 × List UInt8) :=
  (tokens (fun c => c = 13 ∨ c = 10) raw).filterMap headerEntry

/-- `Literal without Indexing`: the five writes of a line. -/
def HpackBuf.putEntry (b : HpackBuf) (entry : List UInt8 × List UInt8) : HpackBuf :=
  ((((b.put [0x00]).put [UInt8.ofNat (min entry.1.length 127)]).put (entry.1.take 127)).put
    (lengthBytes entry.2.length)).put entry.2

/-- The loop over the lines. `reallocs` are the answers of `realloc`; the loop ends when there is
no memory. -/
def entryLoop : List Bool → List (List UInt8 × List UInt8) → HpackBuf → HpackBuf
  | _, [], b => b
  | reallocs, entry :: entries, b =>
      if b.capacity < b.bytes.length + entry.1.length + entry.2.length + 16 then
        if reallocs.headD false then
          entryLoop reallocs.tail entries ({ b with capacity := b.capacity * 2 }.putEntry entry)
        else b
      else entryLoop reallocs entries (b.putEntry entry)

/-- What `malloc`, `strdup` and each `realloc` answer. -/
structure Allocs where
  malloc : Bool
  strdup : Bool
  realloc : List Bool

/-- `hpack_buf` at the end of `http2_response_send_complex_header(.., raw_headers, ..)`. -/
def complexHeaderBuf (a : Allocs) (raw : List UInt8) : Option HpackBuf :=
  if a.malloc then
    let b := HpackBuf.fresh.put (statusField (finalStatus raw))
    some (if a.strdup then entryLoop a.realloc (headerEntries raw) b else b)
  else none

/-- The frame it hands to `http2_frame_send`. -/
def complexHeaderFrame (a : Allocs) (streamId : Nat) (raw : List UInt8) (flags : UInt8) :
    Option FrameCall :=
  if a.strdup then
    (complexHeaderBuf a raw).map (fun b => ⟨0x01, flags, streamId, b.bytes⟩)
  else none

/-! ## What the buffer holds -/

/-- A line in the block. -/
def entryBytes (entry : List UInt8 × List UInt8) : List UInt8 :=
  [0x00, UInt8.ofNat (min entry.1.length 127)] ++ entry.1.take 127
    ++ lengthBytes entry.2.length ++ entry.2

theorem lineField_eq (line : List UInt8) :
    lineField line = ((headerEntry line).map entryBytes).getD [] := by
  unfold lineField headerEntry
  split
  · rfl
  · dsimp only
    split <;> rfl

theorem flatMap_lineField (lines : List (List UInt8)) :
    lines.flatMap lineField = (lines.filterMap headerEntry).flatMap entryBytes := by
  induction lines with
  | nil => rfl
  | cons line lines ih =>
      rw [List.flatMap_cons, ih, lineField_eq]
      cases hentry : headerEntry line with
      | none => simp [hentry]
      | some entry => simp [hentry]

theorem complexHeaderBlock_eq (raw : List UInt8) :
    complexHeaderBlock raw
      = statusField (finalStatus raw) ++ (headerEntries raw).flatMap entryBytes := by
  rw [complexHeaderBlock, flatMap_lineField]
  rfl

@[simp] theorem HpackBuf.put_bytes (b : HpackBuf) (data : List UInt8) :
    (b.put data).bytes = b.bytes ++ data := rfl

@[simp] theorem HpackBuf.put_capacity (b : HpackBuf) (data : List UInt8) :
    (b.put data).capacity = b.capacity := rfl

theorem HpackBuf.put_put (b : HpackBuf) (first second : List UInt8) :
    (b.put first).put second = b.put (first ++ second) := by
  simp [put, ← List.map_append]

theorem HpackBuf.putEntry_eq (b : HpackBuf) (entry : List UInt8 × List UInt8) :
    b.putEntry entry = b.put (entryBytes entry) := by
  simp [putEntry, entryBytes, put_put]

theorem HpackBuf.putEntry_bytes (b : HpackBuf) (entry : List UInt8 × List UInt8) :
    (b.putEntry entry).bytes = b.bytes ++ entryBytes entry := by
  rw [putEntry_eq, put_bytes]

@[simp] theorem HpackBuf.putEntry_capacity (b : HpackBuf) (entry : List UInt8 × List UInt8) :
    (b.putEntry entry).capacity = b.capacity := rfl

/-- The block is what is in the buffer if no allocation fails. -/
theorem entryLoop_bytes {reallocs : List Bool} (entries : List (List UInt8 × List UInt8))
    (b : HpackBuf) (hall : ∀ r ∈ reallocs, r = true) (hlen : entries.length ≤ reallocs.length) :
    (entryLoop reallocs entries b).bytes = b.bytes ++ entries.flatMap entryBytes := by
  induction entries generalizing reallocs b with
  | nil => simp [entryLoop]
  | cons entry entries ih =>
      rw [List.length_cons] at hlen
      rw [entryLoop]
      split
      · cases reallocs with
        | nil => simp at hlen
        | cons r reallocs =>
            obtain rfl := hall r List.mem_cons_self
            have hrest : ∀ r ∈ reallocs, r = true := fun r hr => hall r (List.mem_cons_of_mem _ hr)
            rw [List.headD_cons, if_pos rfl, List.tail_cons,
              ih _ hrest (Nat.le_of_succ_le_succ hlen), HpackBuf.putEntry_bytes]
            simp
      · rw [ih _ hall (by omega), HpackBuf.putEntry_bytes]
        simp

/-! ## The indices -/

/-- Every write so far was inside. -/
def HpackBuf.Inside (b : HpackBuf) : Prop := ∀ w ∈ b.writes, w.1 < w.2

theorem HpackBuf.put_inside_iff {b : HpackBuf} (data : List UInt8)
    (hpos : b.bytes.length ≤ b.capacity) :
    (b.put data).Inside ↔ b.Inside ∧ b.bytes.length + data.length ≤ b.capacity := by
  unfold Inside put
  simp only [List.forall_mem_append, List.forall_mem_map, List.mem_range'_1]
  refine and_congr_right fun _ => ?_
  constructor
  · intro h
    by_cases hdata : data.length = 0
    · omega
    · have hlast := h (b.bytes.length + data.length - 1) (by omega)
      omega
  · intro h i hi
    omega

/-- The bytes a line takes. -/
def entrySize (entry : List UInt8 × List UInt8) : Nat :=
  2 + min entry.1.length 127 + (lengthBytes entry.2.length).length + entry.2.length

theorem entryBytes_length (entry : List UInt8 × List UInt8) :
    (entryBytes entry).length = entrySize entry := by
  simp only [entryBytes, entrySize, List.length_append, List.length_cons, List.length_nil,
    List.length_take]
  omega

theorem HpackBuf.putEntry_inside_iff {b : HpackBuf} (entry : List UInt8 × List UInt8)
    (hpos : b.bytes.length ≤ b.capacity) :
    (b.putEntry entry).Inside ↔ b.Inside ∧ b.bytes.length + entrySize entry ≤ b.capacity := by
  rw [putEntry_eq, put_inside_iff _ hpos, entryBytes_length]

theorem restBytes_length {n k : Nat} (hk : 0 < k) (hn : n < 128 ^ k) :
    (restBytes n).length ≤ k := by
  induction k generalizing n with
  | zero => omega
  | succ k ih =>
      rw [restBytes]
      split
      · have hdiv : n >>> 7 < 128 ^ k := by
          rw [Nat.shiftRight_eq_div_pow, Nat.div_lt_iff_lt_mul (by decide)]
          exact hn
        have hpos : 0 < k := by
          by_contra hzero
          obtain rfl : k = 0 := by omega
          rw [Nat.shiftRight_eq_div_pow] at hdiv
          omega
        rw [List.length_cons]
        exact Nat.succ_le_succ (ih hpos hdiv)
      · simp

theorem lengthBytes_length {n : Nat} (hn : n < 65536) : (lengthBytes n).length ≤ 4 := by
  unfold lengthBytes
  split
  · simp
  · have hrest := restBytes_length (n := n - 127) (k := 3) (by decide) (by omega)
    rw [List.length_cons]
    omega

/-- `pos + klen + vlen + 16` is enough for a line. -/
theorem entrySize_le {entry : List UInt8 × List UInt8} (h : entry.2.length < 65536) :
    entrySize entry ≤ entry.1.length + entry.2.length + 6 := by
  have hlen := lengthBytes_length h
  have hmin := Nat.min_le_left entry.1.length 127
  unfold entrySize
  omega

/-- Each line fits: the ones for which the buffer, with `size` bytes in it, is doubled fit into the
doubled one. -/
def LinesFit : List Bool → Nat → Nat → List (List UInt8 × List UInt8) → Prop
  | _, _, _, [] => True
  | reallocs, size, capacity, entry :: entries =>
      if capacity < size + entry.1.length + entry.2.length + 16 then
        reallocs.headD false = true →
          size + entrySize entry ≤ capacity * 2 ∧
            LinesFit reallocs.tail (size + entrySize entry) (capacity * 2) entries
      else LinesFit reallocs (size + entrySize entry) capacity entries

theorem LinesFit.doubled {reallocs : List Bool} {size capacity : Nat}
    {entry : List UInt8 × List UInt8} {entries : List (List UInt8 × List UInt8)}
    (h : LinesFit reallocs size capacity (entry :: entries))
    (hfull : capacity < size + entry.1.length + entry.2.length + 16)
    (hgranted : reallocs.headD false = true) : size + entrySize entry ≤ capacity * 2 := by
  rw [LinesFit, if_pos hfull] at h
  exact (h hgranted).1

/-- What has been written stays written. -/
theorem entryLoop_inside {reallocs : List Bool} (entries : List (List UInt8 × List UInt8))
    (b : HpackBuf) (h : (entryLoop reallocs entries b).Inside) : b.Inside := by
  have hput : ∀ (b : HpackBuf) (entry : List UInt8 × List UInt8),
      (b.putEntry entry).Inside → b.Inside := by
    intro b entry hin w hw
    rw [HpackBuf.putEntry_eq] at hin
    exact hin w (List.mem_append_left _ hw)
  induction entries generalizing reallocs b with
  | nil => exact h
  | cons entry entries ih =>
      rw [entryLoop] at h
      split at h
      · split at h
        · exact hput { b with capacity := b.capacity * 2 } entry (ih _ h)
        · exact h
      · exact hput b entry (ih (b.putEntry entry) h)

theorem entryLoop_inside_iff (reallocs : List Bool)
    {entries : List (List UInt8 × List UInt8)} {b : HpackBuf} (hpos : b.bytes.length ≤ b.capacity) (hin : b.Inside)
    (hshort : ∀ entry ∈ entries, entry.2.length < 65536) :
    (entryLoop reallocs entries b).Inside
      ↔ LinesFit reallocs b.bytes.length b.capacity entries := by
  induction entries generalizing reallocs b with
  | nil => exact iff_of_true hin trivial
  | cons entry entries ih =>
      have hentry := entrySize_le (hshort entry List.mem_cons_self)
      have hrest : ∀ e ∈ entries, e.2.length < 65536 :=
        fun e he => hshort e (List.mem_cons_of_mem entry he)
      have hbytes : ∀ b : HpackBuf,
          (b.putEntry entry).bytes.length = b.bytes.length + entrySize entry := by
        intro b
        rw [HpackBuf.putEntry_bytes, List.length_append, entryBytes_length]
      rw [entryLoop, LinesFit]
      split
      · next hfull =>
        by_cases hgranted : reallocs.headD false = true
        · -- the line is written into the doubled buffer
          have hdouble : ({ b with capacity := b.capacity * 2 } : HpackBuf).bytes.length
              ≤ b.capacity * 2 := by
            dsimp only
            omega
          have hsame : ({ b with capacity := b.capacity * 2 } : HpackBuf).Inside := hin
          have hput := HpackBuf.putEntry_inside_iff entry hdouble
          simp only [hgranted, if_true, true_imp_iff]
          constructor
          · intro h
            have hfit := (hput.mp (entryLoop_inside entries _ h)).2
            have hwritten := (ih _ ((hbytes _).trans_le hfit) (hput.mpr ⟨hsame, hfit⟩) hrest).mp h
            rw [hbytes] at hwritten
            exact ⟨hfit, hwritten⟩
          · rintro ⟨hfit, hlater⟩
            apply (ih _ ((hbytes _).trans_le hfit) (hput.mpr ⟨hsame, hfit⟩) hrest).mpr
            rw [hbytes]
            exact hlater
        · simp only [hgranted, Bool.false_eq_true, if_false, false_imp_iff]
          exact iff_of_true hin trivial
      · next hroom =>
        have hfit : b.bytes.length + entrySize entry ≤ b.capacity := by omega
        have hput := (HpackBuf.putEntry_inside_iff entry hpos).mpr ⟨hin, hfit⟩
        rw [ih _ ((hbytes b).trans_le hfit) hput hrest, hbytes]
        rfl

/-- A line that is not longer than the buffer was at first fits into the doubled buffer. -/
theorem linesFit_of_short {reallocs : List Bool} {size capacity : Nat}
    {entries : List (List UInt8 × List UInt8)} (hsize : size ≤ capacity)
    (hcapacity : 16384 ≤ capacity)
    (hshort : ∀ entry ∈ entries, entry.1.length + entry.2.length ≤ 16378) :
    LinesFit reallocs size capacity entries := by
  induction entries generalizing reallocs size capacity with
  | nil => exact trivial
  | cons entry entries ih =>
      have hentry := hshort entry List.mem_cons_self
      have hlater : ∀ e ∈ entries, e.1.length + e.2.length ≤ 16378 :=
        fun e he => hshort e (List.mem_cons_of_mem entry he)
      have hle := entrySize_le (show entry.2.length < 65536 by omega)
      rw [LinesFit]
      split
      · intro _
        have hfit : size + entrySize entry ≤ capacity * 2 := by omega
        exact ⟨hfit, ih hfit (by omega) hlater⟩
      · exact ih (by omega) hcapacity hlater

/-! ## The header text -/

theorem length_le_of_mem_splitOnP {sep : UInt8 → Bool} {text piece : List UInt8}
    (h : piece ∈ text.splitOnP sep) : piece.length ≤ text.length := by
  induction text generalizing piece with
  | nil =>
      rw [List.splitOnP_nil, List.mem_singleton] at h
      rw [h]
  | cons c text ih =>
      rw [List.splitOnP_cons_eq_if_modifyHead] at h
      split at h
      · rcases List.mem_cons.mp h with rfl | h
        · exact Nat.zero_le _
        · exact (ih h).trans (Nat.le_succ _)
      · cases hsplit : text.splitOnP sep with
        | nil => exact absurd hsplit (List.splitOnP_ne_nil _ _)
        | cons first rest =>
            rw [hsplit, List.modifyHead_cons] at h
            rw [hsplit] at ih
            rcases List.mem_cons.mp h with rfl | h
            · exact Nat.succ_le_succ (ih List.mem_cons_self)
            · exact (ih (List.mem_cons_of_mem _ h)).trans (Nat.le_succ _)

theorem trimEnd_length (text : List UInt8) : (trimEnd text).length ≤ text.length := by
  have hdrop := (List.dropWhile_suffix (l := text.reverse) isSpace).length_le
  simpa [trimEnd] using hdrop

theorem value_length {raw : List UInt8} {entry : List UInt8 × List UInt8}
    (h : entry ∈ headerEntries raw) : entry.2.length ≤ raw.length := by
  obtain ⟨line, hline, hentry⟩ := List.mem_filterMap.mp h
  have hraw := length_le_of_mem_splitOnP (List.mem_filter.mp hline).1
  unfold headerEntry at hentry
  split at hentry
  · cases hentry
  · dsimp only at hentry
    split at hentry
    · cases hentry
    · obtain rfl := Option.some.inj hentry
      have hlead := (List.dropWhile_suffix
        (l := trimEnd ((line.dropWhile (fun c => c ≠ 58)).drop 1)) isSpace).length_le
      have htrim := trimEnd_length ((line.dropWhile (fun c => c ≠ 58)).drop 1)
      have hcolon := (List.dropWhile_suffix (l := line) (fun c => decide (c ≠ 58))).length_le
      rw [List.length_drop] at htrim
      dsimp only
      omega

theorem statusNumeral_length (status : Nat) : (statusNumeral status).length ≤ 10 := by
  unfold statusNumeral
  dsimp only
  split
  · omega
  · rw [List.length_append, List.length_take]
    simp

theorem statusField_length (status : Nat) : (statusField status).length ≤ 12 := by
  have hnumeral := statusNumeral_length status
  unfold statusField
  repeat' split
  all_goals simp
  omega

/-- What is in the buffer in front of the lines. -/
theorem fresh_status (raw : List UInt8) :
    (HpackBuf.fresh.put (statusField (finalStatus raw))).Inside ∧
      (HpackBuf.fresh.put (statusField (finalStatus raw))).bytes.length
        = (statusField (finalStatus raw)).length ∧
      (statusField (finalStatus raw)).length ≤ 16384 := by
  have hlen := statusField_length (finalStatus raw)
  have hfresh : HpackBuf.fresh.Inside := fun w hw => nomatch hw
  refine ⟨(HpackBuf.put_inside_iff _ (Nat.zero_le _)).mpr ⟨hfresh, ?_⟩, rfl, by omega⟩
  show 0 + (statusField (finalStatus raw)).length ≤ 16384
  omega

/-- **When `hpack_buf` is large enough**: every byte is written below the capacity exactly if no
line needs more than the buffer doubled for it. -/
theorem complexHeaderBuf_inside_iff (a : Allocs) (raw : List UInt8) (hraw : raw.length < 65536) :
    (∀ b, complexHeaderBuf a raw = some b → ∀ w ∈ b.writes, w.1 < w.2) ↔
      (a.malloc = true → a.strdup = true →
        LinesFit a.realloc (statusField (finalStatus raw)).length 16384 (headerEntries raw)) := by
  obtain ⟨hin, hlen, hpos⟩ := fresh_status raw
  have hshort : ∀ entry ∈ headerEntries raw, entry.2.length < 65536 :=
    fun entry hentry => (value_length hentry).trans_lt hraw
  have hloop := entryLoop_inside_iff a.realloc hpos hin hshort
  unfold complexHeaderBuf
  cases a.malloc with
  | false => simp
  | true =>
      cases a.strdup with
      | false =>
          simp only [if_true, Option.some.injEq, forall_eq', Bool.false_eq_true, if_false,
            false_imp_iff, imp_true_iff, iff_true]
          exact hin
      | true =>
          rw [hlen] at hloop
          simp only [if_true, Option.some.injEq, forall_eq', true_imp_iff]
          exact hloop

/-- A header with a short line. -/
theorem complexHeaderBuf_inside_html :
    (ascii "Content-type: text/html").length < 65536 ∧
      ((∀ b, complexHeaderBuf ⟨true, true, []⟩ (ascii "Content-type: text/html") = some b →
          ∀ w ∈ b.writes, w.1 < w.2) ↔
        (true = true → true = true →
          LinesFit [] (statusField (finalStatus (ascii "Content-type: text/html"))).length 16384
            (headerEntries (ascii "Content-type: text/html")))) :=
  ⟨by decide, complexHeaderBuf_inside_iff ⟨true, true, []⟩ _ (by decide)⟩

/-- A cookie of `n` bytes. -/
def cookie (n : Nat) : List UInt8 := ascii "Set-Cookie:" ++ List.replicate n 0x61

theorem headerEntries_cookie (n : Nat) :
    headerEntries (cookie n) = [(ascii "set-cookie", List.replicate n 0x61)] := by
  have hsplit : cookie n = ascii "Set-Cookie" ++ 58 :: List.replicate n 0x61 := by
    have hkey : ascii "Set-Cookie:" = ascii "Set-Cookie" ++ [58] := by decide
    rw [cookie, hkey, List.append_assoc]
    rfl
  have hplain : ∀ c ∈ cookie n, decide (c = 13 ∨ c = 10) = false := by
    intro c hc
    have hname : ∀ c ∈ ascii "Set-Cookie:", decide (c = 13 ∨ c = 10) = false := by
      decide +kernel
    rcases List.mem_append.mp hc with hc | hc
    · exact hname c hc
    · rw [List.eq_of_mem_replicate hc]
      decide
  have hne : cookie n ≠ [] := by
    rw [hsplit]
    simp
  have htokens : tokens (fun c => c = 13 ∨ c = 10) (cookie n) = [(cookie n)] := by
    unfold tokens
    rw [List.splitOnP_eq_singleton hplain]
    simp [hne]
  have hname : ∀ c ∈ ascii "Set-Cookie", decide (c ≠ 58) = true := by decide +kernel
  have hvalue : ∀ n, (List.replicate n (0x61 : UInt8)).dropWhile isSpace
      = List.replicate n 0x61 := by
    intro n
    cases n with
    | zero => rfl
    | succ n =>
        rw [List.replicate_succ, List.dropWhile_cons_of_neg (by decide)]
  have htrim : trimEnd (List.replicate n 0x61) = List.replicate n 0x61 := by
    rw [trimEnd, List.reverse_replicate, hvalue, List.reverse_replicate]
  have hkey : ((ascii "Set-Cookie").dropWhile isSpace).map toLower = ascii "set-cookie" := by
    decide
  have hentry : headerEntry (cookie n)
      = some (ascii "set-cookie", List.replicate n 0x61) := by
    unfold headerEntry
    rw [hsplit, if_neg (by simp), List.takeWhile_append_of_pos hname,
      List.dropWhile_append_of_pos hname, List.takeWhile_cons_of_neg (by decide),
      List.dropWhile_cons_of_neg (by decide), List.append_nil, List.drop_succ_cons,
      List.drop_zero, htrim, hvalue, hkey]
    exact if_neg (by decide)
  rw [headerEntries, htokens, List.filterMap_cons, hentry]
  rfl

/-- A cookie longer than the buffer at first must fit into the doubled one. -/
theorem cookie_le {n size : Nat} (hn : 16384 ≤ n)
    (h : LinesFit [true, true, true] size 16384 (headerEntries (cookie n))) : size + n ≤ 32768 := by
  have hvalue : (List.replicate n (0x61 : UInt8)).length = n := List.length_replicate
  rw [headerEntries_cookie] at h
  have hroom := h.doubled (by dsimp only; omega) rfl
  unfold entrySize at hroom
  dsimp only at hroom
  omega

theorem cookie_inside {n : Nat} (hn : 16384 ≤ n) (hlen : (cookie n).length < 65536)
    (h : ∀ b, complexHeaderBuf ⟨true, true, [true, true, true]⟩ (cookie n) = some b →
      ∀ w ∈ b.writes, w.1 < w.2) : n ≤ 32768 := by
  obtain ⟨hin, hbytes, hpos⟩ := fresh_status (cookie n)
  have hshort : ∀ entry ∈ headerEntries (cookie n), entry.2.length < 65536 :=
    fun entry hentry => (value_length hentry).trans_lt hlen
  have hfit := cookie_le hn ((entryLoop_inside_iff _ hpos hin hshort).mp (h _ rfl))
  omega

/-- A cookie of 40000 bytes is written behind the end of the buffer. -/
theorem cookie_beyond_buffer : (cookie 40000).length < 65536 ∧
    ¬ ∀ b, complexHeaderBuf ⟨true, true, [true, true, true]⟩ (cookie 40000) = some b →
      ∀ w ∈ b.writes, w.1 < w.2 := by
  have hlen : (cookie 40000).length = 11 + 40000 := by
    rw [cookie, List.length_append, List.length_replicate]
    rfl
  have hshort : (cookie 40000).length < 65536 := by omega
  refine ⟨hshort, fun h => ?_⟩
  have hle := cookie_inside (by omega) hshort h
  omega

end Halmos.Http2
