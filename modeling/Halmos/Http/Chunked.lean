import Halmos.Basic.CString

set_option autoImplicit false

/-! # The chunked transfer coding

A body as a sequence of chunks, each with its size in front as a hexadecimal number, closed by a
chunk of size zero. `unchunk` is a receiver without chunk extensions and trailers; what a sender
writes chunk by chunk comes back as the concatenated body (`unchunk_chunks`).
-/

namespace Halmos.Http

def crlf : List UInt8 := [13, 10]

/-- A chunk with its size line. -/
def chunk (data : List UInt8) : List UInt8 := numeral 16 data.length ++ crlf ++ data ++ crlf

/-- The last chunk and the empty trailer. -/
def lastChunk : List UInt8 := ascii "0\r\n\r\n"

/-- Reads chunks until the last one, at most `fuel` of them. -/
def unchunkLoop : Nat → List UInt8 → Option (List UInt8)
  | 0, _ => none
  | fuel + 1, s =>
      let (size, rest) := readNumeral 16 0 s
      if rest.length = s.length ∨ rest.take 2 ≠ crlf then none
      else if size = 0 then
        if rest.drop 2 = crlf then some [] else none
      else
        let data := (rest.drop 2).take size
        let rest := (rest.drop 2).drop size
        if data.length = size ∧ rest.take 2 = crlf then
          (unchunkLoop fuel (rest.drop 2)).map (fun more => data ++ more)
        else none

/-- The body a chunked coding stands for. -/
def unchunk (s : List UInt8) : Option (List UInt8) := unchunkLoop s.length s

theorem noDigit_crlf (s : List UInt8) : NoDigit (crlf ++ s) := by
  intro c hc
  cases hc
  decide

/-- The size line of a chunk. -/
theorem readNumeral_size (n : Nat) (s : List UInt8) :
    readNumeral 16 0 (numeral 16 n ++ crlf ++ s) = (n, crlf ++ s) := by
  rw [List.append_assoc]
  exact readNumeral_numeral (by decide) (by decide) n (noDigit_crlf s)

theorem unchunkLoop_lastChunk (fuel : Nat) : unchunkLoop (fuel + 1) lastChunk = some [] := rfl

/-- One chunk off the front. -/
theorem unchunkLoop_chunk (fuel : Nat) {data : List UInt8} (hdata : data ≠ []) (s : List UInt8) :
    unchunkLoop (fuel + 1) (chunk data ++ s)
      = (unchunkLoop fuel s).map (fun more => data ++ more) := by
  have hform : chunk data ++ s = numeral 16 data.length ++ crlf ++ (data ++ (crlf ++ s)) := by
    unfold chunk
    rw [List.append_assoc, List.append_assoc]
  have hlen : (crlf ++ (data ++ (crlf ++ s))).length ≠ (chunk data ++ s).length := by
    have hpos := List.length_pos_iff.mpr (numeral_ne_nil 16 data.length)
    have htotal : (chunk data ++ s).length
        = (numeral 16 data.length).length + (crlf ++ (data ++ (crlf ++ s))).length := by
      rw [hform, List.append_assoc, List.length_append]
    omega
  have hsize : data.length ≠ 0 := by
    rw [ne_eq, List.length_eq_zero_iff]
    exact hdata
  have htake : ∀ t : List UInt8, (crlf ++ t).take 2 = crlf := fun t => rfl
  have hdrop : ∀ t : List UInt8, (crlf ++ t).drop 2 = t := fun t => rfl
  rw [unchunkLoop, hform, readNumeral_size]
  simp only
  rw [← hform, if_neg (not_or.mpr ⟨hlen, not_not.mpr (htake _)⟩), if_neg hsize, hdrop, List.take_left,
    List.drop_left, if_pos ⟨rfl, htake s⟩, hdrop]

/-- **Chunks are read back** as the body they were cut from. -/
theorem unchunkLoop_chunks {chunks : List (List UInt8)} (h : ∀ c ∈ chunks, c ≠ []) {fuel : Nat}
    (hfuel : chunks.length < fuel) :
    unchunkLoop fuel (chunks.flatMap chunk ++ lastChunk) = some chunks.flatten := by
  induction chunks generalizing fuel with
  | nil =>
      cases fuel with
      | zero => exact absurd hfuel (Nat.not_lt_zero _)
      | succ fuel => exact unchunkLoop_lastChunk fuel
  | cons c chunks ih =>
      cases fuel with
      | zero => exact absurd hfuel (Nat.not_lt_zero _)
      | succ fuel =>
          rw [List.forall_mem_cons] at h
          rw [List.length_cons] at hfuel
          rw [List.flatMap_cons, List.append_assoc, unchunkLoop_chunk fuel h.1,
            ih h.2 (by omega)]
          rfl

theorem length_le_flatMap_chunk (chunks : List (List UInt8)) :
    chunks.length ≤ (chunks.flatMap chunk).length := by
  induction chunks with
  | nil => exact Nat.le_refl 0
  | cons c chunks ih =>
      have hone : 1 ≤ (chunk c).length := by
        unfold chunk
        rw [List.length_append]
        exact Nat.le_trans (by decide) (Nat.le_add_left _ _)
      rw [List.flatMap_cons, List.length_append, List.length_cons]
      omega

theorem unchunk_chunks {chunks : List (List UInt8)} (h : ∀ c ∈ chunks, c ≠ []) :
    unchunk (chunks.flatMap chunk ++ lastChunk) = some chunks.flatten := by
  have hlen := length_le_flatMap_chunk chunks
  apply unchunkLoop_chunks h
  rw [List.length_append]
  exact Nat.lt_of_le_of_lt hlen (Nat.lt_add_of_pos_right (by decide))

end Halmos.Http
