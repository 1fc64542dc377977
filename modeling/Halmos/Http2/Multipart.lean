import Halmos.Http1.PatchedBody

set_option autoImplicit false

/-! # The multipart parser of HTTP/2

`http2_multipart_parse` of `halmos_http_multipart.c`. The body of a stream has memory of its own,
with a NUL behind the `bodyLength` bytes of the body. The parser only reads there; the texts of a
header are read up to that NUL, and the first boundary may be shorter than the one of the content
type. It returns on every body, with parts that lie in the body (`http2MultipartParse_data`).
-/

namespace Halmos.Http2

open Http1

/-- `boundary`: two dashes and the text behind `boundary=` up to a blank, a semicolon or a carriage
return, 248 bytes of it at most. -/
def multipartBoundary (src : List UInt8) : List UInt8 :=
  ascii "--" ++ (src.takeWhile (fun c => c ≠ 0x20 ∧ c ≠ 0x3B ∧ c ≠ 0x0D)).take 248

/-- Where `header_start` is behind the line ends at `pos`. -/
def skipLineEnds (memory : List UInt8) (bodyLength pos : Nat) : Nat :=
  pos + (((memory.drop pos).take (bodyLength - pos)).takeWhile
    (fun c => c = 0x0D ∨ c = 0x0A)).length

/-- The text behind `key` up to the next quotation mark, for a key in the first `headerLen` bytes of
the text at `header_start`. -/
def quotedIn (key : List UInt8) (headerLen : Nat) (text : List UInt8) : Option (List UInt8) :=
  match strstr key text with
  | none => none
  | some (before, found) =>
      if before.length < headerLen then
        let val := found.drop key.length
        match val.idxOf? 0x22 with
        | none => none
        | some stop => some (val.take stop)
      else none

/-- The loop of `http2_multipart_parse` from `currentPos` on. -/
def http2MultipartLoop (boundary memory : List UInt8) (bodyLength : Nat) :
    Nat → Nat → Nat → PartArray → Option PartArray
  | 0, _, _, array => some array
  | fuel + 1, currentPos, remainingLen, array =>
      if remainingLen ≤ boundary.length then some array
      else
        match memmem memory currentPos remainingLen boundary with
        | none => some array
        | some partStart =>
            let array := array.grow
            let headerStart := skipLineEnds memory bodyLength (partStart + boundary.length)
            match memmem memory headerStart (bodyLength - headerStart) blankLine with
            | none => some array
            | some headerEnd =>
                -- `&req->parts[req->parts_count]` behind the array
                if array.capacity ≤ array.parts.length then none
                else
                  let text := cstr (memory.drop headerStart)
                  let data := headerEnd + 4
                  match memmem memory data (bodyLength - data) boundary with
                  | none => some array
                  | some nextBoundary =>
                      let part : MultipartPart := {
                        name := quotedIn (ascii "name=\"") (headerEnd - headerStart) text
                        filename := quotedIn (ascii "filename=\"") (headerEnd - headerStart) text
                        data := .buffer data
                        dataLen :=
                          if data + 2 ≤ nextBoundary ∧ memory.getD (nextBoundary - 2) 0 = 0x0D then
                            nextBoundary - 2 - data
                          else nextBoundary - data }
                      http2MultipartLoop boundary memory bodyLength fuel nextBoundary
                        (bodyLength - nextBoundary) (array.push part)

/-- `http2_multipart_parse(req)`: `req->parts`, for a body at the head of `memory`. -/
def http2MultipartParse (contentType memory : List UInt8) (bodyLength : Nat) :
    Option (List MultipartPart) :=
  if bodyLength = 0 then some []
  else
    match strstr (ascii "boundary=") contentType with
    | none => some []
    | some (_, found) =>
        (http2MultipartLoop (multipartBoundary (found.drop 9)) memory bodyLength (bodyLength + 1) 0
          bodyLength .fresh).map (·.parts)

/-! ## The parts lie in the body -/

variable {boundary memory needle : List UInt8} {bodyLength pos q : Nat}

/-- What is found in the body lies in it. -/
theorem memmem_memory_bounds (h : memmem memory pos (bodyLength - pos) needle = some q)
    (hpos : pos ≤ bodyLength) : pos ≤ q ∧ q + needle.length ≤ bodyLength := by
  rw [memmem] at h
  obtain ⟨⟨before, found⟩, hfound, rfl⟩ := Option.map_eq_some_iff.mp h
  obtain ⟨hsplit, hpre⟩ := strstr_sound hfound
  have hlen := congrArg List.length hsplit
  have hle := hpre.length_le
  have htake := List.length_take_le (bodyLength - pos) (memory.drop pos)
  rw [List.length_append] at hlen
  dsimp only
  omega

theorem skipLineEnds_bounds (memory : List UInt8) (hpos : pos ≤ bodyLength) :
    pos ≤ skipLineEnds memory bodyLength pos ∧
      skipLineEnds memory bodyLength pos ≤ bodyLength := by
  have hskip := (List.takeWhile_prefix (fun c => decide (c = 0x0D ∨ c = 0x0A))
    (l := (memory.drop pos).take (bodyLength - pos))).length_le
  have htake := List.length_take_le (bodyLength - pos) (memory.drop pos)
  unfold skipLineEnds
  constructor
  · exact Nat.le_add_right _ _
  · omega

/-- The loop always has room for a part, and each part lies in the body. -/
theorem http2MultipartLoop_data (boundary memory : List UInt8) (fuel : Nat) {array : PartArray}
    (hroomy : array.Roomy) (hpos : pos ≤ bodyLength)
    (hparts : ∀ part ∈ array.parts, DataIn bodyLength part) :
    ∃ array', http2MultipartLoop boundary memory bodyLength fuel pos (bodyLength - pos) array
        = some array' ∧ ∀ part ∈ array'.parts, DataIn bodyLength part := by
  induction fuel generalizing pos array with
  | zero => exact ⟨array, rfl, hparts⟩
  | succ fuel ih =>
      rw [http2MultipartLoop]
      by_cases hlong : bodyLength - pos ≤ boundary.length
      · exact ⟨array, if_pos hlong, hparts⟩
      rw [if_neg hlong]
      have hgrown : ∀ part ∈ array.grow.parts, DataIn bodyLength part := by
        rw [PartArray.grow_parts]
        exact hparts
      cases hstart : memmem memory pos (bodyLength - pos) boundary with
      | none => exact ⟨array, rfl, hparts⟩
      | some start =>
        have h1 := memmem_memory_bounds hstart hpos
        have h2 := skipLineEnds_bounds memory h1.2
        dsimp only
        cases hend : memmem memory (skipLineEnds memory bodyLength (start + boundary.length))
            (bodyLength - skipLineEnds memory bodyLength (start + boundary.length)) blankLine with
        | none => exact ⟨array.grow, rfl, hgrown⟩
        | some headerEnd =>
          have h3 := memmem_memory_bounds hend h2.2
          have hblank : blankLine.length = 4 := rfl
          dsimp only
          rw [if_neg (not_le.mpr hroomy.grow_lt)]
          cases hnext : memmem memory (headerEnd + 4) (bodyLength - (headerEnd + 4)) boundary with
          | none => exact ⟨array.grow, rfl, hgrown⟩
          | some next =>
            have h4 := memmem_memory_bounds hnext (by omega)
            apply ih (hroomy.push _) (by omega)
            intro part hpart
            rcases List.mem_append.mp hpart with hpart | hpart
            · exact hgrown part hpart
            · obtain rfl := List.mem_singleton.mp hpart
              refine ⟨headerEnd + 4, rfl, ?_⟩
              dsimp only
              split <;> omega

/-- **`http2_multipart_parse` returns**, and each part lies in the body. -/
theorem http2MultipartParse_data (contentType memory : List UInt8) (bodyLength : Nat) :
    ∃ parts, http2MultipartParse contentType memory bodyLength = some parts ∧
      ∀ part ∈ parts, DataIn bodyLength part := by
  unfold http2MultipartParse
  by_cases hbody : bodyLength = 0
  · exact ⟨[], if_pos hbody, List.forall_mem_nil _⟩
  rw [if_neg hbody]
  cases strstr (ascii "boundary=") contentType with
  | none => exact ⟨[], rfl, List.forall_mem_nil _⟩
  | some r =>
      have hloop := http2MultipartLoop_data (multipartBoundary (r.2.drop 9)) memory
        (bodyLength + 1) PartArray.Roomy.fresh (Nat.zero_le bodyLength) (List.forall_mem_nil _)
      obtain ⟨array, harray, hdata⟩ := hloop
      rw [Nat.sub_zero] at harray
      refine ⟨array.parts, ?_, hdata⟩
      dsimp only
      rw [harray]
      rfl

end Halmos.Http2
