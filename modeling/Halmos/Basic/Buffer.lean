import Halmos.Basic.Bytes

set_option autoImplicit false

/-! # Buffers

A C array is a list of bytes of a fixed length. Every access is checked: `none` is an access
outside the array. A string in an array is what is in front of its first NUL, and reading it
stays inside the array only if there is one.
-/

namespace Halmos

/-- The bytes `mem[pos]` to `mem[pos + count - 1]`. -/
def readBytes (mem : List UInt8) (pos count : Nat) : Option (List UInt8) :=
  if pos + count ≤ mem.length then some ((mem.drop pos).take count) else none

/-- `arr[i] = x`. -/
def store {α : Type} (arr : List α) (i : Nat) (x : α) : Option (List α) :=
  if i < arr.length then some (arr.set i x) else none

/-- The last element of an array is overwritten. -/
theorem store_last {α : Type} {arr : List α} {n : Nat} (h : arr.length = n + 1) (x : α) :
    store arr n x = some (arr.take n ++ [x]) := by
  have hdrop : arr.drop (n + 1) = [] := List.drop_eq_nil_of_le (by omega)
  rw [store, if_pos (by omega), List.set_eq_take_append_cons_drop, if_pos (by omega), hdrop]

/-- The bytes from `mem[pos]` on are overwritten with those of `bs`. -/
def writeBytes (mem : List UInt8) (pos : Nat) (bs : List UInt8) : Option (List UInt8) :=
  if pos + bs.length ≤ mem.length then
    some (mem.take pos ++ bs ++ mem.drop (pos + bs.length))
  else none

/-- What has been written up to the end of `bs`. -/
theorem take_overwrite {mem : List UInt8} {pos : Nat} (bs : List UInt8) (h : pos ≤ mem.length) :
    (mem.take pos ++ bs ++ mem.drop (pos + bs.length)).take (pos + bs.length)
      = mem.take pos ++ bs := by
  have hlen : (mem.take pos ++ bs).length = pos + bs.length := by
    rw [List.length_append, List.length_take, Nat.min_eq_left h]
  rw [← hlen, List.take_left]

theorem writeBytes_eq (mem : List UInt8) (pos : Nat) (bs : List UInt8)
    (h : pos + bs.length ≤ mem.length) :
    ∃ mem', writeBytes mem pos bs = some mem' ∧ mem'.length = mem.length ∧
      mem'.take (pos + bs.length) = mem.take pos ++ bs := by
  refine ⟨_, if_pos h, ?_, take_overwrite bs (by omega)⟩
  simp only [List.length_append, List.length_take, List.length_drop]
  omega

theorem cstr_append_zero (s rest : List UInt8) : cstr (s ++ 0 :: rest) = cstr s := by
  induction s with
  | nil => rfl
  | cons b s ih => rw [List.cons_append, cstr_cons, cstr_cons, ih]

/-- An array of `n` bytes. -/
structure Buffer (n : Nat) where
  bytes : List UInt8
  length_eq : bytes.length = n
  deriving DecidableEq

namespace Buffer

variable {n : Nat}

/-- An array cleared with `memset`, or declared with `= {0}`. -/
def zeros (n : Nat) : Buffer n := ⟨List.replicate n 0, List.length_replicate⟩

/-- `buf[i] = b`. -/
def write (buf : Buffer n) (i : Nat) (b : UInt8) : Option (Buffer n) :=
  if i < n then some ⟨buf.bytes.set i b, by rw [List.length_set, buf.length_eq]⟩ else none

/-- `memcpy(buf + i, s, ..)` of all the bytes of `s`. -/
def copy (buf : Buffer n) (i : Nat) (s : List UInt8) : Option (Buffer n) :=
  if h : i + s.length ≤ n then
    some ⟨buf.bytes.take i ++ s ++ buf.bytes.drop (i + s.length), by
      have hlen := buf.length_eq
      simp only [List.length_append, List.length_take, List.length_drop]
      omega⟩
  else none

/-- `snprintf(buf, sizeof(buf), "%s", s)`. -/
def snprintf (buf : Buffer n) (s : List UInt8) : Option (Buffer n) :=
  buf.copy 0 (s.take (n - 1) ++ [0])

/-- The string a pointer to the buffer denotes. -/
def str (buf : Buffer n) : Option (List UInt8) :=
  if 0 ∈ buf.bytes then some (cstr buf.bytes) else none

theorem str_eq_of_append {buf : Buffer n} {s rest : List UInt8} (h : buf.bytes = s ++ 0 :: rest) :
    buf.str = some (cstr s) := by
  unfold str
  rw [h, if_pos (by simp), cstr_append_zero]

theorem cstr_of_str {buf : Buffer n} {s : List UInt8} (h : buf.str = some s) :
    cstr buf.bytes = s := by
  unfold str at h
  split at h
  · exact Option.some.inj h
  · cases h

theorem zero_notMem_of_str {buf : Buffer n} {s : List UInt8} (h : buf.str = some s) : 0 ∉ s :=
  cstr_of_str h ▸ zero_notMem_cstr buf.bytes

/-- A string has room for its NUL behind it. -/
theorem str_length_lt {buf : Buffer n} {s : List UInt8} (h : buf.str = some s) : s.length < n := by
  have hmem : 0 ∈ buf.bytes := by
    by_contra hno
    rw [str, if_neg hno] at h
    cases h
  have hle := (cstr_isPrefix buf.bytes).length_le
  have hne : (cstr buf.bytes).length ≠ buf.bytes.length := by
    intro heq
    have hself := (cstr_isPrefix buf.bytes).eq_of_length heq
    exact (cstr_eq_self_iff buf.bytes).mp hself hmem
  have hlen := buf.length_eq
  rw [← cstr_of_str h]
  omega

theorem zeros_str (hn : 0 < n) : (zeros n).str = some [] := by
  obtain ⟨m, rfl⟩ := Nat.exists_eq_add_of_lt hn
  exact str_eq_of_append (s := []) List.replicate_succ

/-- The array is its string, a NUL and something behind it. -/
theorem bytes_of_str {n : Nat} {buf : Buffer n} {s : List UInt8} (h : buf.str = some s) :
    ∃ rest, buf.bytes = s ++ 0 :: rest := by
  have hmem : 0 ∈ buf.bytes := by
    by_contra hno
    rw [str, if_neg hno] at h
    cases h
  obtain rfl := cstr_of_str h
  generalize buf.bytes = bytes at hmem
  induction bytes with
  | nil => exact absurd hmem List.not_mem_nil
  | cons b bytes ih =>
      by_cases hb : b = 0
      · exact ⟨bytes, by rw [cstr_cons, if_pos hb, hb, List.nil_append]⟩
      · obtain ⟨rest, hrest⟩ := ih ((List.mem_cons.mp hmem).resolve_left (Ne.symm hb))
        exact ⟨rest, by rw [cstr_cons, if_neg hb, List.cons_append, ← hrest]⟩

/-- The first byte tells whether the string is empty. -/
theorem getElem?_zero_of_str {buf : Buffer n} {s : List UInt8} (h : buf.str = some s) :
    ∃ b, buf.bytes[0]? = some b ∧ (b ≠ 0 ↔ s ≠ []) := by
  have hlen := str_length_lt h
  have hs := cstr_of_str h
  cases hbytes : buf.bytes with
  | nil =>
      have hn := buf.length_eq
      rw [hbytes, List.length_nil] at hn
      omega
  | cons b rest =>
      refine ⟨b, rfl, ?_⟩
      rw [hbytes, cstr_cons] at hs
      by_cases hb : b = 0
      · rw [if_pos hb] at hs
        simp [hb, ← hs]
      · rw [if_neg hb] at hs
        simp [hb, ← hs]

/-! ## Writing -/

theorem write_eq (buf : Buffer n) {i : Nat} (b : UInt8) (h : i < n) :
    ∃ buf', buf.write i b = some buf' ∧ buf'.bytes = buf.bytes.set i b :=
  ⟨_, if_pos h, rfl⟩

theorem copy_eq (buf : Buffer n) {i : Nat} {s : List UInt8} (h : i + s.length ≤ n) :
    ∃ buf', buf.copy i s = some buf' ∧
      buf'.bytes = buf.bytes.take i ++ s ++ buf.bytes.drop (i + s.length) :=
  ⟨_, dif_pos h, rfl⟩

theorem copy_take (buf : Buffer n) {i : Nat} {s : List UInt8} (h : i + s.length ≤ n) :
    ∃ buf', buf.copy i s = some buf' ∧
      buf'.bytes.take (i + s.length) = buf.bytes.take i ++ s := by
  obtain ⟨buf', hcopy, hbytes⟩ := copy_eq buf h
  have hi : i ≤ buf.bytes.length := by
    rw [buf.length_eq]
    omega
  exact ⟨buf', hcopy, by rw [hbytes, take_overwrite s hi]⟩

/-- What a write that stayed in the array has done. -/
theorem of_write {buf buf' : Buffer n} {i : Nat} {b : UInt8} (h : buf.write i b = some buf') :
    i < n ∧ buf'.bytes = buf.bytes.set i b := by
  unfold write at h
  split at h
  · next hi =>
      obtain rfl := Option.some.inj h
      exact ⟨hi, rfl⟩
  · cases h

/-- What is written behind the first bytes of an array leaves them. -/
theorem copy_behind {buf : Buffer n} (before s : List UInt8) {rest : List UInt8}
    (h : buf.bytes = before ++ rest) (hroom : before.length + s.length ≤ n) :
    ∃ buf' rest', buf.copy before.length s = some buf' ∧ buf'.bytes = before ++ s ++ rest' := by
  obtain ⟨buf', hcopy, hbytes⟩ := copy_eq buf hroom
  rw [h, List.take_left] at hbytes
  exact ⟨buf', _, hcopy, hbytes⟩

theorem of_copy {buf buf' : Buffer n} {i : Nat} {s : List UInt8} (h : buf.copy i s = some buf') :
    buf'.bytes.take (i + s.length) = buf.bytes.take i ++ s := by
  have hroom : i + s.length ≤ n := by
    unfold copy at h
    split at h
    · next hroom => exact hroom
    · cases h
  obtain ⟨copied, hcopy, htake⟩ := copy_take buf hroom
  obtain rfl := Option.some.inj (hcopy.symm.trans h)
  exact htake

/-- Putting the NUL behind the first `i` bytes. -/
theorem write_zero (buf : Buffer n) {i : Nat} (h : i < n) :
    ∃ buf', buf.write i 0 = some buf' ∧ buf'.str = some (cstr (buf.bytes.take i)) := by
  obtain ⟨buf', hwrite, hbytes⟩ := write_eq buf 0 h
  have hi : i < buf.bytes.length := by rw [buf.length_eq]; exact h
  rw [List.set_eq_take_append_cons_drop, if_pos hi] at hbytes
  exact ⟨buf', hwrite, str_eq_of_append hbytes⟩

/-- Copying a string with its NUL to the position `i` of a string of that length. -/
theorem copy_zero (buf : Buffer n) {i : Nat} {s : List UInt8} (h : i + s.length < n) :
    ∃ buf', buf.copy i (s ++ [0]) = some buf' ∧
      buf'.str = some (cstr (buf.bytes.take i ++ s)) := by
  have hroom : i + (s ++ [0]).length ≤ n := by
    rw [List.length_append, List.length_singleton]
    omega
  obtain ⟨buf', hcopy, hbytes⟩ := copy_eq buf hroom
  have hsplit : buf'.bytes
      = buf.bytes.take i ++ s ++ 0 :: buf.bytes.drop (i + (s ++ [0]).length) := by
    rw [hbytes]
    simp only [List.append_assoc, List.singleton_append]
  exact ⟨buf', hcopy, str_eq_of_append hsplit⟩

theorem snprintf_str (buf : Buffer n) (s : List UInt8) (hn : 0 < n) :
    ∃ buf', buf.snprintf s = some buf' ∧ buf'.str = some (cstr (s.take (n - 1))) := by
  have hlen : 0 + (s.take (n - 1)).length < n := by
    rw [List.length_take]
    omega
  exact copy_zero buf hlen

end Buffer

end Halmos
