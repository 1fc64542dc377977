import Halmos.Basic.Search
import Halmos.Http1.Parts

set_option autoImplicit false

/-! # The writes of the multipart parser

`http_multipart_parse_body` of `halmos_http_multipart.c` with what it writes: the array of parts,
which it makes longer every ten parts, and the body, in which it puts a NUL behind the header and
behind each name while it copies the names. The array always has room and the body is as it was
(`patchedLoop_eq`), so that the parts are those of `httpMultipartParseBody`.
-/

namespace Halmos.Http1

/-! ## The array of parts -/

/-- `parts` and `parts_count` of `RequestHeader`, with the number of parts there is memory for. -/
structure PartArray where
  parts : List MultipartPart
  capacity : Nat
  deriving DecidableEq, Repr

/-- `malloc(sizeof(MultipartPart) * 10)`, `parts_count = 0`. -/
def PartArray.fresh : PartArray := ⟨[], 10⟩

/-- The `realloc` of the array when `parts_count % 10 == 0`. -/
def PartArray.grow (a : PartArray) : PartArray :=
  if 0 < a.parts.length ∧ a.parts.length % 10 = 0 then
    { a with capacity := a.parts.length + 10 }
  else a

/-- `parts[parts_count++] = p`. -/
def PartArray.push (a : PartArray) (p : MultipartPart) : PartArray :=
  { a with parts := a.parts ++ [p] }

/-- The memory is a number of whole tens, and not too little. -/
structure PartArray.Roomy (a : PartArray) : Prop where
  pos : 0 < a.capacity
  tens : a.capacity % 10 = 0
  count_le : a.parts.length ≤ a.capacity

namespace PartArray

variable {a : PartArray}

theorem Roomy.fresh : PartArray.fresh.Roomy := ⟨by decide, by decide, by decide⟩

@[simp] theorem grow_parts (a : PartArray) : a.grow.parts = a.parts := by
  rw [grow]
  split <;> rfl

@[simp] theorem push_parts (a : PartArray) (p : MultipartPart) :
    (a.push p).parts = a.parts ++ [p] := rfl

theorem Roomy.grow_lt (h : a.Roomy) : a.grow.parts.length < a.grow.capacity := by
  have hpos := h.pos
  have htens := h.tens
  have hle := h.count_le
  rw [grow]
  split
  · simp
  · omega

theorem Roomy.grow (h : a.Roomy) : a.grow.Roomy := by
  have hlt := h.grow_lt
  constructor
  · omega
  · have htens := h.tens
    rw [PartArray.grow]
    split
    · simp
      omega
    · exact htens
  · omega

/-- There is room for the next part once the array has grown. -/
theorem Roomy.push (h : a.Roomy) (p : MultipartPart) : (a.grow.push p).Roomy := by
  constructor
  · exact h.grow.pos
  · exact h.grow.tens
  · have hlt := h.grow_lt
    have hlen : (a.grow.push p).parts.length = a.grow.parts.length + 1 := by simp
    have hcap : (a.grow.push p).capacity = a.grow.capacity := rfl
    omega

end PartArray

/-! ## The body while a part is read -/

/-- `Parsing Name` and `Parsing Filename`: what is copied of the header at `headerStart`, and the
body behind it. The quotation mark is a NUL while the text is copied. -/
def copyQuoted (key : List UInt8) (headerStart : Nat) (body : List UInt8) :
    Option (List UInt8) × List UInt8 :=
  match strstr key (cstr (body.drop headerStart)) with
  | none => (none, body)
  | some (before, _) =>
      let valStart := headerStart + before.length + key.length
      match (cstr (body.drop valStart)).idxOf? 0x22 with
      | none => (none, body)
      | some n =>
          let origN := body.getD (valStart + n) 0
          let patched := body.set (valStart + n) 0
          (some (cstr (patched.drop valStart)), patched.set (valStart + n) origN)

/-! ### What is patched is put back -/

theorem set_set_getD (s : List UInt8) (n : Nat) : (s.set n 0).set n (s.getD n 0) = s := by
  rw [List.set_set]
  by_cases h : n < s.length
  · rw [List.getD_eq_getElem?_getD, List.getElem?_eq_getElem h, Option.getD_some,
      List.set_getElem_self]
  · exact List.set_eq_of_length_le (not_lt.mp h)

/-- The names are copied as they are in the header, and the body is as it was. -/
theorem copyQuoted_eq (key : List UInt8) (headerStart : Nat) (body : List UInt8) :
    copyQuoted key headerStart body
      = (quoted key (cstr (body.drop headerStart)), body) := by
  unfold copyQuoted quoted
  cases hfound : strstr key (cstr (body.drop headerStart)) with
  | none => rfl
  | some r =>
      obtain ⟨before, found⟩ := r
      obtain ⟨hsplit, hpre⟩ := strstr_sound hfound
      have hlen := congrArg List.length hsplit
      have hkey := hpre.length_le
      rw [List.length_append] at hlen
      -- the text behind the key
      have hval : cstr (body.drop (headerStart + before.length + key.length))
          = found.drop key.length := by
        rw [Nat.add_assoc, ← List.drop_drop, cstr_drop (by omega), hsplit, ← List.drop_drop,
          List.drop_left]
      dsimp only [bind, Option.bind]
      rw [hval]
      cases hquote : (found.drop key.length).idxOf? 0x22 with
      | none => rfl
      | some n =>
          have hn : n < (body.drop (headerStart + before.length + key.length)).length := by
            have hlt := (List.idxOf?_eq_some_iff.mp hquote).1
            rw [← hval] at hlt
            exact lt_of_lt_of_le hlt (cstr_isPrefix _).length_le
          dsimp only
          rw [List.drop_set, if_neg (by omega), Nat.add_sub_cancel_left, cstr_set_zero hn, hval,
            set_set_getD]

/-- The loop of `http_multipart_parse_body` from `currentPos` on, with the array and the body: what
they are at its end. -/
def patchedLoop (boundary : List UInt8) (bodyStart : Nat) :
    Nat → Nat → Nat → PartArray → List UInt8 → Option (PartArray × List UInt8)
  | 0, _, _, array, body => some (array, body)
  | fuel + 1, currentPos, remainingLen, array, body =>
      if remainingLen ≤ boundary.length then some (array, body)
      else
        match memmem body currentPos remainingLen boundary with
        | none => some (array, body)
        | some partStart =>
            let array := array.grow
            let headerStart := partStart + boundary.length + 2
            -- the length of the rest is negative
            if currentPos + remainingLen < headerStart then none
            else
              match memmem body headerStart (currentPos + remainingLen - headerStart) blankLine with
              | none => some (array, body)
              | some headerEnd =>
                  -- `&req->parts[req->parts_count]` behind the array
                  if array.capacity ≤ array.parts.length then none
                  else
                    let origHeaderEnd := body.getD headerEnd 0
                    let patched := body.set headerEnd 0
                    let (name, patched) := copyQuoted (ascii "name=\"") headerStart patched
                    let (filename, patched) := copyQuoted (ascii "filename=\"") headerStart patched
                    let body := patched.set headerEnd origHeaderEnd
                    let data := headerEnd + 4
                    match memmem body data (body.length - data) boundary with
                    | none => some (array, body)
                    | some nextBoundary =>
                        let part : MultipartPart := {
                          name := name
                          filename := filename
                          data := .buffer (bodyStart + data)
                          dataLen := if data + 2 ≤ nextBoundary then nextBoundary - 2 - data
                            else nextBoundary - data }
                        patchedLoop boundary bodyStart fuel nextBoundary
                          (remainingLen - (nextBoundary - currentPos)) (array.push part) body

/-- Both names of a part, from a body with a NUL at `headerEnd`. -/
theorem copyQuoted_patched (body : List UInt8) {headerStart headerEnd : Nat}
    (hle : headerStart ≤ headerEnd) (hlt : headerEnd < body.length) (key : List UInt8) :
    copyQuoted key headerStart (body.set headerEnd 0)
      = (quoted key (cstr ((body.drop headerStart).take (headerEnd - headerStart))),
          body.set headerEnd 0) := by
  have hin : headerEnd - headerStart < (body.drop headerStart).length := by
    rw [List.length_drop]
    omega
  rw [copyQuoted_eq, List.drop_set, if_neg (not_lt.mpr hle), cstr_set_zero hin, cstr_take]

/-- **The loop puts back what it patches**, and has room for every part: it is the loop that only
reads. -/
theorem patchedLoop_eq {boundary body : List UInt8} {bodyStart fuel pos : Nat} {array : PartArray}
    (hroomy : array.Roomy) (hpos : pos ≤ body.length) :
    (patchedLoop boundary bodyStart fuel pos (body.length - pos) array body).map
        (fun r => (r.1.parts, r.2))
      = (multipartLoop boundary bodyStart body fuel pos (body.length - pos) array.parts).map
        (fun parts => (parts, body)) := by
  induction fuel generalizing pos array with
  | zero => rfl
  | succ fuel ih =>
      have hsum : pos + (body.length - pos) = body.length := by omega
      have hblank : blankLine.length = 4 := rfl
      rw [patchedLoop, multipartLoop, hsum]
      by_cases hlong : body.length - pos ≤ boundary.length
      · simp only [if_pos hlong, Option.map_some]
      simp only [if_neg hlong]
      cases hstart : memmem body pos (body.length - pos) boundary with
      | none => rfl
      | some start =>
        dsimp only
        by_cases houtside : body.length < start + boundary.length + 2
        · simp only [if_pos houtside, Option.map_none]
        simp only [if_neg houtside]
        have hinside := not_lt.mp houtside
        cases hend : memmem body (start + boundary.length + 2)
            (body.length - (start + boundary.length + 2)) blankLine with
        | none => simp
        | some headerEnd =>
          have h1 := memmem_bounds hstart hpos
          have h2 := memmem_bounds hend hinside
          have hroom := hroomy.grow_lt
          -- the names, and the body put back
          have hcopy := copyQuoted_patched body h2.1 (by omega)
          simp only [if_neg (not_le.mpr hroom), hcopy, set_set_getD]
          cases hnext : memmem body (headerEnd + 4) (body.length - (headerEnd + 4)) boundary with
          | none => simp
          | some next =>
            have h3 := memmem_bounds hnext (by omega)
            have hrest : body.length - pos - (next - pos) = body.length - next := by omega
            dsimp only
            rw [hrest, ih (hroomy.push _) (by omega), PartArray.push_parts, PartArray.grow_parts]

/-- `http_multipart_parse_body(req)` on a body at `bodyStart` of the buffer: `req->parts` and the
body when it returns. -/
def patchedParseBody (contentType : List UInt8) (bodyStart : Nat) (body : List UInt8) :
    Option (List MultipartPart × List UInt8) :=
  if body = [] then some ([], body)
  else
    match strstr (ascii "boundary=") contentType with
    | none => some ([], body)
    | some (_, found) =>
        let boundary := boundaryOf found
        if 256 < boundary.length ∧ boundary.length < body.length then none
        else
          (patchedLoop boundary bodyStart (body.length + 1) 0 body.length .fresh body).map
            (fun r => (r.1.parts, r.2))

/-- **The multipart parser leaves the body as it was.** -/
theorem patchedParseBody_eq (contentType : List UInt8) (bodyStart : Nat) (body : List UInt8) :
    patchedParseBody contentType bodyStart body
      = (httpMultipartParseBody contentType bodyStart body).map (fun parts => (parts, body)) := by
  have hloop : ∀ boundary,
      (patchedLoop boundary bodyStart (body.length + 1) 0 body.length .fresh body).map
          (fun r => (r.1.parts, r.2))
        = (multipartLoop boundary bodyStart body (body.length + 1) 0 body.length []).map
          (fun parts => (parts, body)) :=
    fun _ => patchedLoop_eq PartArray.Roomy.fresh (Nat.zero_le _)
  unfold patchedParseBody httpMultipartParseBody
  by_cases hbody : body = []
  · rw [if_pos hbody, if_pos hbody]
    rfl
  · rw [if_neg hbody, if_neg hbody]
    cases strstr (ascii "boundary=") contentType with
    | none => rfl
    | some r =>
        dsimp only
        by_cases hlong : 256 < (boundaryOf r.2).length ∧ (boundaryOf r.2).length < body.length
        · rw [if_pos hlong, if_pos hlong]
          rfl
        · rw [if_neg hlong, if_neg hlong]
          exact hloop _

end Halmos.Http1
