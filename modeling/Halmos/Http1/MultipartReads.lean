import Halmos.Basic.Search
import Halmos.Http1.Parts

set_option autoImplicit false

/-! # Where the multipart parser looks

Every search and every read of `http_multipart_parse_body`, with its length as a `size_t`. The
parser goes on two bytes behind a boundary without looking whether they are there. Where the body
ends in front of them, the length of the next search is negative (`multipartAccesses_inside_iff`).
-/

namespace Halmos.Http1

/-- What is looked at: `len` bytes of the body in a search, the bytes `boundary[0]` to
`boundary[count - 1]`, or `len` bytes of the body that are read or overwritten. -/
inductive Access where
  | search (pos len : Nat)
  | boundary (count : Nat)
  | bytes (pos len : Nat)
  deriving DecidableEq, Repr

/-- An access stays in the body, or in the array. -/
def Access.Inside (bodyLength : Nat) : Access → Prop
  | .search pos len => pos + len ≤ bodyLength
  | .boundary count => count ≤ 256
  | .bytes pos len => pos + len ≤ bodyLength

instance (bodyLength : Nat) (a : Access) : Decidable (a.Inside bodyLength) := by
  cases a <;> exact inferInstanceAs (Decidable (_ ≤ _))

/-- `a - b` of two `size_t`. -/
def sizeSub (a b : Nat) : Nat := if b ≤ a then a - b else 2 ^ 64 + a - b

/-- `Parsing Name` and `Parsing Filename`, with the header and its NUL from `pos` on: the search for
the key, and the text behind it that is looked through and copied. -/
def quotedAccesses (key header : List UInt8) (pos : Nat) : List Access :=
  .bytes pos (header.length + 1) ::
    match strstr key header with
    | none => []
    | some (before, found) =>
        let val := found.drop key.length
        match val.idxOf? 0x22 with
        | none => [.bytes (pos + before.length + key.length) (val.length + 1)]
        | some stop => [.bytes (pos + before.length + key.length) (stop + 1)]

/-- The accesses of the loop from `currentPos` on, up to the first search that leaves the body. -/
def loopAccesses (boundary body : List UInt8) : Nat → Nat → Nat → List Access
  | 0, _, _ => []
  | fuel + 1, currentPos, remainingLen =>
      if remainingLen ≤ boundary.length then []
      else
        .boundary boundary.length :: .search currentPos remainingLen ::
          match memmem body currentPos remainingLen boundary with
          | none => []
          | some partStart =>
              let headerStart := partStart + boundary.length + 2
              let len := sizeSub remainingLen (headerStart - currentPos)
              .search headerStart len ::
                if body.length < headerStart + len then []
                else
                  match memmem body headerStart len blankLine with
                  | none => []
                  | some headerEnd =>
                      let header := cstr ((body.drop headerStart).take (headerEnd - headerStart))
                      let data := headerEnd + 4
                      .bytes headerEnd 1 :: quotedAccesses (ascii "name=\"") header headerStart ++
                        quotedAccesses (ascii "filename=\"") header headerStart ++
                        .boundary boundary.length :: .search data (sizeSub body.length data) ::
                          match memmem body data (sizeSub body.length data) boundary with
                          | none => []
                          | some nextBoundary =>
                              loopAccesses boundary body fuel nextBoundary
                                (sizeSub remainingLen (nextBoundary - currentPos))

/-- The accesses of `http_multipart_parse_body(req)`. The text of the boundary is printed into the
array as far as it goes. -/
def multipartAccesses (contentType body : List UInt8) : List Access :=
  if body = [] then []
  else
    match strstr (ascii "boundary=") contentType with
    | none => []
    | some (_, found) =>
        .boundary (min ((boundaryOf found).length + 1) 256) ::
          loopAccesses (boundaryOf found) body (body.length + 1) 0 body.length

/-! ## The boundaries the loop goes on from -/

/-- The boundaries the loop goes on from: the first one from `pos` on, and the first one behind the
blank line behind another. -/
inductive GoesOn (boundary body : List UInt8) (pos : Nat) : Nat → Prop where
  | first {s : Nat} (h : FirstAt boundary body pos s) : GoesOn boundary body pos s
  | next {s headerEnd s' : Nat} (h : GoesOn boundary body pos s)
      (hblank : FirstAt blankLine body (s + boundary.length + 2) headerEnd)
      (hnext : FirstAt boundary body (headerEnd + 4) s') : GoesOn boundary body pos s'

/-- One byte of the body is left behind a boundary, or none is left behind the first one. -/
def Dangling (boundary body : List UInt8) (pos s : Nat) : Prop :=
  s + boundary.length + 1 = body.length ∨
    s + boundary.length = body.length ∧ pos < s ∧ FirstAt boundary body pos s

/-- No boundary the loop goes on from dangles. -/
def NoneDangles (boundary body : List UInt8) (pos : Nat) : Prop :=
  ∀ s, GoesOn boundary body pos s → ¬ Dangling boundary body pos s

/-- The boundary fits the array or the body is no longer than it, and no boundary dangles. -/
def BoundariesComplete (contentType body : List UInt8) : Prop :=
  match strstr (ascii "boundary=") contentType with
  | none => True
  | some (_, found) =>
      (256 < (boundaryOf found).length → body.length ≤ (boundaryOf found).length) ∧
        NoneDangles (boundaryOf found) body 0

variable {boundary body : List UInt8} {pos : Nat}

theorem memmem_eq_some_iff {needle : List UInt8} {i : Nat} :
    memmem body pos (body.length - pos) needle = some i ↔ FirstAt needle body pos i := by
  rw [memmem_rest, Option.map_eq_some_iff]
  constructor
  · rintro ⟨⟨before, found⟩, hfound, rfl⟩
    exact .of_strstr hfound
  · intro h
    obtain ⟨⟨before, found⟩, hfound⟩ := Option.isSome_iff_exists.mp h.strstr_isSome
    exact ⟨(before, found), hfound, (FirstAt.of_strstr hfound).unique h⟩

theorem not_firstAt_of_memmem {needle : List UInt8}
    (h : memmem body pos (body.length - pos) needle = none) (i : Nat) :
    ¬ FirstAt needle body pos i := by
  intro hfirst
  rw [memmem_eq_some_iff.mpr hfirst] at h
  cases h

theorem GoesOn.bounds (hne : boundary ≠ []) {s : Nat} (h : GoesOn boundary body pos s) :
    pos ≤ s ∧ s + boundary.length ≤ body.length := by
  induction h with
  | first h => exact ⟨h.le, h.bound hne⟩
  | next h hblank hnext ih =>
      have h1 := hblank.le
      have h2 := hnext.le
      exact ⟨by omega, hnext.bound hne⟩

/-- The boundaries behind the first one are those from the next one on. -/
theorem goesOn_iff {start : Nat} (hstart : FirstAt boundary body pos start) {s : Nat} :
    GoesOn boundary body pos s ↔ s = start ∨ ∃ headerEnd next,
      FirstAt blankLine body (start + boundary.length + 2) headerEnd ∧
      FirstAt boundary body (headerEnd + 4) next ∧ GoesOn boundary body next s := by
  constructor
  · intro h
    induction h with
    | first h => exact .inl (h.unique hstart)
    | next h hblank hnext ih =>
        have hself := hnext.there
        rcases ih with rfl | ⟨headerEnd, next, hb, hn, hs⟩
        · exact .inr ⟨_, _, hblank, hnext, .first ⟨le_rfl, hself, fun j hj hlt => by omega⟩⟩
        · exact .inr ⟨headerEnd, next, hb, hn, .next hs hblank hnext⟩
  · rintro (rfl | ⟨headerEnd, next, hb, hn, hs⟩)
    · exact .first hstart
    · induction hs with
      | first h =>
          have hnext : FirstAt boundary body next next :=
            ⟨le_rfl, hn.there, fun j hj hlt => by omega⟩
          rw [h.unique hnext]
          exact .next (.first hstart) hb hn
      | next h hblank hnext ih => exact .next ih hblank hnext

theorem noneDangles_of_short (hne : boundary ≠ [])
    (hshort : body.length - pos ≤ boundary.length) : NoneDangles boundary body pos := by
  intro s hs hdangle
  have hbounds := hs.bounds hne
  rcases hdangle with hone | ⟨hnone, hlt, -⟩ <;> omega

/-- One round of the loop, as far as it goes. -/
theorem noneDangles_iff (hne : boundary ≠ []) {start : Nat}
    (hstart : FirstAt boundary body pos start) (hlong : boundary.length < body.length - pos) :
    NoneDangles boundary body pos ↔ start + boundary.length + 2 ≤ body.length ∧
      ∀ headerEnd next, FirstAt blankLine body (start + boundary.length + 2) headerEnd →
        FirstAt boundary body (headerEnd + 4) next → NoneDangles boundary body next := by
  have hroom := hstart.bound hne
  have hle := hstart.le
  constructor
  · intro h
    have hfirst := h start (.first hstart)
    unfold Dangling at hfirst
    refine ⟨?_, fun headerEnd next hb hn s hs => ?_⟩
    · by_contra hcut
      refine hfirst ?_
      by_cases hone : start + boundary.length + 1 = body.length
      · exact .inl hone
      · exact .inr ⟨by omega, by omega, hstart⟩
    · have hdangle := h s ((goesOn_iff hstart).mpr (.inr ⟨headerEnd, next, hb, hn, hs⟩))
      rintro (hone | ⟨-, hlt, hfirst⟩)
      · exact hdangle (.inl hone)
      · have heq := hfirst.unique (FirstAt.self hn.there)
        omega
  · rintro ⟨hinside, hrest⟩ s hs hdangle
    rcases (goesOn_iff hstart).mp hs with rfl | ⟨headerEnd, next, hb, hn, hs⟩
    · rcases hdangle with hone | ⟨hnone, -, -⟩ <;> omega
    · rcases hdangle with hone | ⟨hnone, hlt, hfirst⟩
      · exact hrest headerEnd next hb hn s hs (.inl hone)
      · have heq := hfirst.unique hstart
        have h1 := hb.le
        have h2 := hn.le
        have h3 := (hs.bounds hne).1
        omega

/-! ## The accesses of a round -/

theorem quotedAccesses_inside {key header : List UInt8} {stop : Nat}
    (hheader : pos + header.length + 1 ≤ stop) :
    ∀ a ∈ quotedAccesses key header pos, a.Inside stop := by
  intro a ha
  unfold quotedAccesses at ha
  rcases List.mem_cons.mp ha with rfl | ha
  · exact hheader
  · split at ha
    · cases ha
    · next before found hfound =>
      obtain ⟨hsplit, hpre⟩ := strstr_sound hfound
      have hkey := hpre.length_le
      have hlen := congrArg List.length hsplit
      rw [List.length_append] at hlen
      dsimp only at ha
      split at ha
      · obtain rfl := List.mem_singleton.mp ha
        show pos + before.length + key.length + ((found.drop key.length).length + 1) ≤ stop
        rw [List.length_drop]
        omega
      · next quote hquote =>
        obtain rfl := List.mem_singleton.mp ha
        have hlt : quote < (found.drop key.length).length :=
          (List.idxOf?_eq_some_iff.mp hquote).1
        rw [List.length_drop] at hlt
        show pos + before.length + key.length + (quote + 1) ≤ stop
        omega

/-- The text of a header ends in front of its blank line. -/
theorem headerAccesses_inside {headerStart headerEnd : Nat} (hle : headerStart ≤ headerEnd)
    (hbound : headerEnd + 4 ≤ body.length) (key : List UInt8) :
    ∀ a ∈ quotedAccesses key (cstr ((body.drop headerStart).take (headerEnd - headerStart)))
      headerStart, a.Inside body.length := by
  have hlen := (cstr_isPrefix ((body.drop headerStart).take (headerEnd - headerStart))).length_le
  have htake : ((body.drop headerStart).take (headerEnd - headerStart)).length
      ≤ headerEnd - headerStart := List.length_take_le _ _
  exact quotedAccesses_inside (by omega)

theorem sizeSub_of_le {a b : Nat} (h : b ≤ a) : sizeSub a b = a - b := if_pos h

/-- A search from behind the rest of the body leaves it. -/
theorem search_inside_iff {rest : Nat} (skip : Nat) (hpos : pos + rest = body.length) :
    (Access.search (pos + skip) (sizeSub rest skip)).Inside body.length ↔ skip ≤ rest := by
  show pos + skip + sizeSub rest skip ≤ body.length ↔ skip ≤ rest
  unfold sizeSub
  split <;> omega

theorem GoesOn.exists_first {s : Nat} (h : GoesOn boundary body pos s) :
    ∃ start, FirstAt boundary body pos start := by
  induction h with
  | first h => exact ⟨_, h⟩
  | next _ _ _ ih => exact ih

/-- The loop stays in the body, in every round from `pos` on, if and only if no boundary dangles. -/
theorem loopAccesses_inside (hne : boundary ≠ []) (hfit : boundary.length ≤ 256) {fuel : Nat}
    (hpos : pos ≤ body.length) (hfuel : body.length - pos < fuel) :
    (∀ a ∈ loopAccesses boundary body fuel pos (body.length - pos), a.Inside body.length) ↔
      NoneDangles boundary body pos := by
  induction fuel generalizing pos with
  | zero => omega
  | succ fuel ih =>
      rw [loopAccesses]
      by_cases hshort : body.length - pos ≤ boundary.length
      · rw [if_pos hshort]
        exact iff_of_true (List.forall_mem_nil _) (noneDangles_of_short hne hshort)
      rw [if_neg hshort]
      have hfit' : (Access.boundary boundary.length).Inside body.length := hfit
      have hsearch : (Access.search pos (body.length - pos)).Inside body.length := by
        show pos + (body.length - pos) ≤ body.length
        omega
      rw [List.forall_mem_cons, and_iff_right hfit', List.forall_mem_cons, and_iff_right hsearch]
      cases hfound : memmem body pos (body.length - pos) boundary with
      | none =>
          refine iff_of_true (List.forall_mem_nil _) fun s hs => ?_
          obtain ⟨start, hstart⟩ := hs.exists_first
          exact absurd hstart (not_firstAt_of_memmem hfound start)
      | some start =>
          have hstart := memmem_eq_some_iff.mp hfound
          have hroom := hstart.bound hne
          have hle := hstart.le
          have hskip : pos + (start + boundary.length + 2 - pos) = start + boundary.length + 2 := by
            omega
          have hheader := search_inside_iff (start + boundary.length + 2 - pos)
            (show pos + (body.length - pos) = body.length by omega)
          rw [hskip] at hheader
          rw [noneDangles_iff hne hstart (not_le.mp hshort)]
          dsimp only
          rw [List.forall_mem_cons, hheader]
          have hiff : start + boundary.length + 2 - pos ≤ body.length - pos ↔
              start + boundary.length + 2 ≤ body.length := by omega
          rw [hiff]
          refine and_congr_right fun hinside => ?_
          have hrest : sizeSub (body.length - pos) (start + boundary.length + 2 - pos)
              = body.length - (start + boundary.length + 2) := by
            rw [sizeSub_of_le (by omega)]
            omega
          rw [hrest, if_neg (by omega)]
          cases hend : memmem body (start + boundary.length + 2)
              (body.length - (start + boundary.length + 2)) blankLine with
          | none =>
              refine iff_of_true (List.forall_mem_nil _) fun headerEnd next hb => ?_
              exact absurd hb (not_firstAt_of_memmem hend headerEnd)
          | some headerEnd =>
              have hblank := memmem_eq_some_iff.mp hend
              have hbound : headerEnd + 4 ≤ body.length := hblank.bound (by decide)
              have hbehind := hblank.le
              have hnames := headerAccesses_inside hbehind hbound
              have hnul : (Access.bytes headerEnd 1).Inside body.length := by
                show headerEnd + 1 ≤ body.length
                omega
              have hdata : (Access.search (headerEnd + 4) (body.length - (headerEnd + 4))).Inside
                  body.length := by
                show headerEnd + 4 + (body.length - (headerEnd + 4)) ≤ body.length
                omega
              dsimp only
              rw [List.forall_mem_append, List.forall_mem_append, List.forall_mem_cons,
                and_iff_right hnul, and_iff_right (hnames _), and_iff_right (hnames _),
                List.forall_mem_cons, and_iff_right hfit', List.forall_mem_cons,
                sizeSub_of_le hbound, and_iff_right hdata]
              cases hnext : memmem body (headerEnd + 4) (body.length - (headerEnd + 4)) boundary with
              | none =>
                  refine iff_of_true (List.forall_mem_nil _) fun headerEnd' next hb hn => ?_
                  obtain rfl := hb.unique hblank
                  exact absurd hn (not_firstAt_of_memmem hnext next)
              | some next =>
                  have hfirst := memmem_eq_some_iff.mp hnext
                  have hroom' := hfirst.bound hne
                  have hle' := hfirst.le
                  have hrest' : sizeSub (body.length - pos) (next - pos) = body.length - next := by
                    rw [sizeSub_of_le (by omega)]
                    omega
                  dsimp only
                  rw [hrest', ih (by omega) (by omega)]
                  constructor
                  · intro h headerEnd' next' hb hn
                    obtain rfl := hb.unique hblank
                    rwa [hn.unique hfirst]
                  · intro h
                    exact h headerEnd next hblank hfirst

theorem boundaryOf_ne_nil (found : List UInt8) : boundaryOf found ≠ [] := by
  unfold boundaryOf
  dsimp only
  split <;> simp [ascii]

/-- **Where the multipart parser looks**: every search and every read is inside the body, and in the
array of the boundary, if and only if the boundary fits the array and none that the parser goes on
from dangles at the end of the body. -/
theorem multipartAccesses_inside_iff (contentType body : List UInt8) :
    (∀ a ∈ multipartAccesses contentType body, a.Inside body.length) ↔
      BoundariesComplete contentType body := by
  unfold multipartAccesses BoundariesComplete
  cases hfound : strstr (ascii "boundary=") contentType with
  | none => simp
  | some r =>
      obtain ⟨before, found⟩ := r
      have hne := boundaryOf_ne_nil found
      dsimp only
      generalize boundaryOf found = boundary at hne
      by_cases hshort : body.length ≤ boundary.length
      · -- the loop is not entered
        have hnone : NoneDangles boundary body 0 := noneDangles_of_short hne (by omega)
        have hloop : loopAccesses boundary body (body.length + 1) 0 body.length = [] := by
          rw [loopAccesses, if_pos hshort]
        rw [hloop]
        refine iff_of_true ?_ ⟨fun _ => hshort, hnone⟩
        split
        · exact List.forall_mem_nil _
        · exact List.forall_mem_singleton.mpr (Nat.min_le_right _ _)
      · have hbody : body ≠ [] := by
          rintro rfl
          exact hshort (Nat.zero_le _)
        have hprint : (Access.boundary (min (boundary.length + 1) 256)).Inside body.length :=
          Nat.min_le_right _ _
        rw [if_neg hbody, List.forall_mem_cons, and_iff_right hprint]
        by_cases hfit : boundary.length ≤ 256
        · rw [and_iff_right (fun hlong => absurd hlong (not_lt.mpr hfit))]
          exact loopAccesses_inside hne hfit (Nat.zero_le _) (Nat.lt_succ_self _)
        · refine iff_of_false (fun h => ?_) fun h => hshort (h.1 (not_le.mp hfit))
          have hmem : Access.boundary boundary.length
              ∈ loopAccesses boundary body (body.length + 1) 0 body.length := by
            rw [loopAccesses, if_neg hshort]
            exact List.mem_cons_self
          exact hfit (h _ hmem)

/-- The body ends right behind the boundary: the next search has `2 ^ 64 - 2` bytes to go. -/
theorem search_wraps :
    Access.search 7 (2 ^ 64 - 2)
        ∈ multipartAccesses (ascii "multipart/form-data; boundary=b") (ascii "xy--b") ∧
      ¬ ∀ a ∈ multipartAccesses (ascii "multipart/form-data; boundary=b") (ascii "xy--b"),
        a.Inside (ascii "xy--b").length := by
  decide

/-! ## What the parser returns -/

theorem noneDangles_of_stop (hne : boundary ≠ []) (h : round boundary body pos = .stop) :
    NoneDangles boundary body pos := by
  by_cases hshort : body.length - pos ≤ boundary.length
  · exact noneDangles_of_short hne hshort
  have hlong := not_le.mp hshort
  intro s hs
  obtain ⟨start, hstart⟩ := hs.exists_first
  have hfound := memmem_eq_some_iff.mpr hstart
  have hinside : start + boundary.length + 2 ≤ body.length := by
    by_contra hcut
    have hround := round_eq_outside.mpr ⟨hlong, start, hfound, not_le.mp hcut⟩
    rw [h] at hround
    cases hround
  refine (noneDangles_iff hne hstart hlong).mpr ⟨hinside, fun headerEnd next hb hn => ?_⟩ s hs
  have hround := round_eq_part.mpr ⟨hlong, start, headerEnd, hfound, hinside,
    memmem_eq_some_iff.mpr hb, rfl, memmem_eq_some_iff.mpr hn, rfl⟩
  rw [h] at hround
  cases hround

theorem multipartLoop_isSome_iff (hne : boundary ≠ []) (bodyStart : Nat) {fuel : Nat}
    (parts : List MultipartPart) (hpos : pos ≤ body.length) (hfuel : body.length - pos < fuel) :
    (multipartLoop boundary bodyStart body fuel pos (body.length - pos) parts).isSome = true ↔
      NoneDangles boundary body pos := by
  induction fuel generalizing pos parts with
  | zero => omega
  | succ fuel ih =>
      rw [multipartLoop_round boundary bodyStart hpos]
      cases hround : round boundary body pos with
      | stop => exact iff_of_true rfl (noneDangles_of_stop hne hround)
      | outside =>
          obtain ⟨hlong, start, hfound, hcut⟩ := round_eq_outside.mp hround
          refine iff_of_false Bool.false_ne_true fun h => ?_
          have hinside := ((noneDangles_iff hne (memmem_eq_some_iff.mp hfound) hlong).mp h).1
          omega
      | part header data next =>
          have hbounds := round_bounds hpos hround
          obtain ⟨hlong, start, headerEnd, hfound, hinside, hend, rfl, hnext, -⟩ :=
            round_eq_part.mp hround
          have hblank := memmem_eq_some_iff.mp hend
          have hfirst := memmem_eq_some_iff.mp hnext
          dsimp only
          rw [ih _ (by omega) (by omega), noneDangles_iff hne (memmem_eq_some_iff.mp hfound) hlong,
            and_iff_right hinside]
          constructor
          · intro h headerEnd' next' hb hn
            obtain rfl := hb.unique hblank
            rwa [hn.unique hfirst]
          · intro h
            exact h headerEnd next hblank hfirst

/-- The parser has a result exactly if it looks at nothing outside. -/
theorem httpMultipartParseBody_isSome_iff (contentType : List UInt8) (bodyStart : Nat)
    (body : List UInt8) : (httpMultipartParseBody contentType bodyStart body).isSome = true ↔
      BoundariesComplete contentType body := by
  unfold BoundariesComplete
  cases hfound : strstr (ascii "boundary=") contentType with
  | none =>
      rw [httpMultipartParseBody, hfound, ite_self]
      exact iff_of_true rfl trivial
  | some r =>
      obtain ⟨before, found⟩ := r
      have hloop := multipartLoop_isSome_iff (boundaryOf_ne_nil found) bodyStart []
        (Nat.zero_le body.length) (Nat.lt_succ_self _)
      rw [Nat.sub_zero] at hloop
      rw [httpMultipartParseBody_eq hfound]
      dsimp only
      split
      · next hlong =>
        refine iff_of_false Bool.false_ne_true fun h => ?_
        have hle := h.1 hlong.1
        omega
      · next hlong =>
        rw [hloop, and_iff_right]
        intro h
        by_contra hbody
        exact hlong ⟨h, not_le.mp hbody⟩

end Halmos.Http1
