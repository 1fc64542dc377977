import Halmos.Http1.Multipart

set_option autoImplicit false

/-! # Multipart bodies, round by round

Each round of the loop of `http_multipart_parse_body` goes from one boundary to the next. On the
beginning of a body the rounds are the same up to the first one that would look behind it
(`multipartLoop_take`): so the parts that are found in a beginning are parts of the body, and all of
them if the boundary behind each lies in the beginning (`httpMultipartParseBody_take`).
-/

namespace Halmos.Http1

/-! ## Searching in the beginning of a body -/

theorem memmem_rest (mem : List UInt8) (pos : Nat) (needle : List UInt8) :
    memmem mem pos (mem.length - pos) needle
      = (strstr needle (mem.drop pos)).map (fun r => pos + r.1.length) := by
  rw [memmem, List.take_of_length_le (List.length_drop ▸ le_rfl)]

theorem memmem_bounds {mem needle : List UInt8} {pos q : Nat}
    (h : memmem mem pos (mem.length - pos) needle = some q) (hpos : pos ≤ mem.length) :
    pos ≤ q ∧ q + needle.length ≤ mem.length := by
  rw [memmem_rest] at h
  obtain ⟨⟨before, found⟩, hfound, rfl⟩ := Option.map_eq_some_iff.mp h
  obtain ⟨hsplit, hpre⟩ := strstr_sound hfound
  have hlen := congrArg List.length hsplit
  have hle := hpre.length_le
  rw [List.length_drop, List.length_append] at hlen
  dsimp only
  omega

/-- What is found in the beginning is what is found in the whole, if it lies in the beginning. -/
theorem memmem_take {mem needle : List UInt8} {k pos q : Nat} (hk : k ≤ mem.length)
    (hpos : pos ≤ k) :
    memmem (mem.take k) pos ((mem.take k).length - pos) needle = some q ↔
      memmem mem pos (mem.length - pos) needle = some q ∧ q + needle.length ≤ k := by
  have hsplit : mem.drop pos = (mem.take k).drop pos ++ mem.drop k := by
    rw [← List.drop_append_of_le_length (by rw [List.length_take]; omega), List.take_append_drop]
  have hlen : ((mem.take k).drop pos).length = k - pos := by
    rw [List.length_drop, List.length_take]
    omega
  rw [memmem_rest, memmem_rest, Option.map_eq_some_iff, Option.map_eq_some_iff]
  constructor
  · rintro ⟨⟨before, found⟩, hfound, rfl⟩
    obtain ⟨happ, hpre⟩ := strstr_sound hfound
    have hsum := congrArg List.length happ
    have hle := hpre.length_le
    rw [hlen, List.length_append] at hsum
    refine ⟨⟨(before, found ++ mem.drop k), ?_, rfl⟩, ?_⟩
    · rw [hsplit]
      exact strstr_append hfound _
    · dsimp only
      omega
  · rintro ⟨⟨⟨before, found⟩, hfound, rfl⟩, hle⟩
    dsimp only at hle
    rw [hsplit] at hfound
    obtain ⟨found', hshort, -⟩ := strstr_of_append hfound (by rw [hlen]; omega)
    exact ⟨(before, found'), hshort, rfl⟩

/-! ## Rounds -/

/-- What a round of the loop comes to: the loop ends, a length is negative, or there is a part with
its header and data and the boundary behind it. -/
inductive Round where
  | stop
  | outside
  | part (header : List UInt8) (data next : Nat)

/-- The round of the loop that begins at `pos`. -/
def round (boundary body : List UInt8) (pos : Nat) : Round :=
  if body.length - pos ≤ boundary.length then .stop
  else
    match memmem body pos (body.length - pos) boundary with
    | none => .stop
    | some start =>
        let headerStart := start + boundary.length + 2
        if body.length < headerStart then .outside
        else
          match memmem body headerStart (body.length - headerStart) blankLine with
          | none => .stop
          | some headerEnd =>
              match memmem body (headerEnd + 4) (body.length - (headerEnd + 4)) boundary with
              | none => .stop
              | some next =>
                  .part (cstr ((body.drop headerStart).take (headerEnd - headerStart)))
                    (headerEnd + 4) next

/-- The part a round finds in a body at `bodyStart` of the buffer. -/
def partOf (bodyStart : Nat) (header : List UInt8) (data next : Nat) : MultipartPart where
  name := quoted (ascii "name=\"") header
  filename := quoted (ascii "filename=\"") header
  data := .buffer (bodyStart + data)
  dataLen := if data + 2 ≤ next then next - 2 - data else next - data

variable {boundary body header : List UInt8} {bodyStart pos data next k : Nat}

theorem round_eq_part :
    round boundary body pos = .part header data next ↔
      boundary.length < body.length - pos ∧
      ∃ start headerEnd, memmem body pos (body.length - pos) boundary = some start ∧
        start + boundary.length + 2 ≤ body.length ∧
        memmem body (start + boundary.length + 2)
          (body.length - (start + boundary.length + 2)) blankLine = some headerEnd ∧
        data = headerEnd + 4 ∧ memmem body data (body.length - data) boundary = some next ∧
        header = cstr ((body.drop (start + boundary.length + 2)).take
          (headerEnd - (start + boundary.length + 2))) := by
  unfold round
  constructor
  · intro h
    split at h
    · cases h
    · next hlong =>
      split at h
      · cases h
      · next start hstart =>
        dsimp only at h
        split at h
        · cases h
        · next hinside =>
          split at h
          · cases h
          · next headerEnd hend =>
            split at h
            · cases h
            · next next' hnext =>
              cases h
              exact ⟨not_le.mp hlong, start, headerEnd, hstart, not_lt.mp hinside, hend, rfl, hnext,
                rfl⟩
  · rintro ⟨hlong, start, headerEnd, hstart, hinside, hend, rfl, hnext, rfl⟩
    simp only [if_neg (not_le.mpr hlong), hstart, if_neg (not_lt.mpr hinside), hend, hnext]

theorem round_eq_outside :
    round boundary body pos = .outside ↔ boundary.length < body.length - pos ∧
      ∃ start, memmem body pos (body.length - pos) boundary = some start ∧
        body.length < start + boundary.length + 2 := by
  unfold round
  constructor
  · intro h
    split at h
    · cases h
    · next hlong =>
      split at h
      · cases h
      · next start hstart =>
        dsimp only at h
        split at h
        · next houtside => exact ⟨not_le.mp hlong, start, hstart, houtside⟩
        · split at h
          · cases h
          · split at h <;> cases h
  · rintro ⟨hlong, start, hstart, houtside⟩
    simp only [if_neg (not_le.mpr hlong), hstart, if_pos houtside]

/-- The round goes on, and stays in the body. -/
theorem round_bounds (hpos : pos ≤ body.length) (h : round boundary body pos = .part header data next) :
    pos < data ∧ data ≤ next ∧ next + boundary.length ≤ body.length := by
  obtain ⟨-, start, headerEnd, hstart, hinside, hend, rfl, hnext, -⟩ := round_eq_part.mp h
  have h1 := memmem_bounds hstart hpos
  have h2 := memmem_bounds hend hinside
  have hblank : blankLine.length = 4 := rfl
  have h3 := memmem_bounds hnext (by omega)
  omega

theorem multipartLoop_round (boundary : List UInt8) (bodyStart : Nat) (hpos : pos ≤ body.length)
    (fuel : Nat) (parts : List MultipartPart) :
    multipartLoop boundary bodyStart body (fuel + 1) pos (body.length - pos) parts
      = match round boundary body pos with
        | .stop => some parts
        | .outside => none
        | .part header data next =>
            multipartLoop boundary bodyStart body fuel next (body.length - next)
              (parts ++ [partOf bodyStart header data next]) := by
  have hsum : pos + (body.length - pos) = body.length := by omega
  rw [multipartLoop, hsum]
  unfold round
  by_cases hlong : body.length - pos ≤ boundary.length
  · simp only [if_pos hlong]
  · simp only [if_neg hlong]
    cases hstart : memmem body pos (body.length - pos) boundary with
    | none => rfl
    | some start =>
        dsimp only
        by_cases houtside : body.length < start + boundary.length + 2
        · simp only [if_pos houtside]
        · simp only [if_neg houtside]
          have hinside := not_lt.mp houtside
          cases hend : memmem body (start + boundary.length + 2)
              (body.length - (start + boundary.length + 2)) blankLine with
          | none => rfl
          | some headerEnd =>
              dsimp only
              cases hnext : memmem body (headerEnd + 4) (body.length - (headerEnd + 4)) boundary with
              | none => rfl
              | some next =>
                  have hblank : blankLine.length = 4 := rfl
                  have h1 := memmem_bounds hstart hpos
                  have h2 := memmem_bounds hend hinside
                  have h3 := memmem_bounds hnext (by omega)
                  have hrest : body.length - pos - (next - pos) = body.length - next := by omega
                  dsimp only
                  rw [hrest]
                  rfl

/-- A round on the beginning of a body finds a part if the round on the body does and the boundary
behind the part lies in the beginning. -/
theorem round_take (hk : k ≤ body.length) (hpos : pos ≤ k) :
    round boundary (body.take k) pos = .part header data next ↔
      round boundary body pos = .part header data next ∧ next + boundary.length ≤ k := by
  have hlen : (body.take k).length = k := by
    rw [List.length_take]
    omega
  have hblank : blankLine.length = 4 := rfl
  -- the text between two positions of the beginning
  have htext : ∀ i j, j ≤ k → ((body.take k).drop i).take (j - i) = (body.drop i).take (j - i) := by
    intro i j hj
    rw [List.drop_take, List.take_take]
    congr 1
    omega
  rw [round_eq_part, round_eq_part]
  constructor
  · rintro ⟨hlong, start, headerEnd, hstart, hinside, hend, rfl, hnext, rfl⟩
    rw [hlen] at hlong hinside
    obtain ⟨hstart, -⟩ := (memmem_take hk hpos).mp hstart
    obtain ⟨hend, hle⟩ := (memmem_take hk hinside).mp hend
    obtain ⟨hnext, hlast⟩ := (memmem_take hk (by omega)).mp hnext
    refine ⟨⟨by omega, start, headerEnd, hstart, by omega, hend, rfl, hnext, ?_⟩, hlast⟩
    rw [htext _ _ (by omega)]
  · rintro ⟨⟨hlong, start, headerEnd, hstart, hinside, hend, rfl, hnext, rfl⟩, hlast⟩
    have h1 := memmem_bounds hstart (by omega)
    have h2 := memmem_bounds hend hinside
    have h3 := memmem_bounds hnext (by omega)
    refine ⟨by omega, start, headerEnd, (memmem_take hk hpos).mpr ⟨hstart, by omega⟩, by omega,
      (memmem_take hk (by omega)).mpr ⟨hend, by omega⟩, rfl,
      (memmem_take hk (by omega)).mpr ⟨hnext, hlast⟩, ?_⟩
    rw [htext _ _ (by omega)]

/-! ## The loop on the beginning of a body -/

/-- The boundary the loop looks for from `pos` on is not the end of the beginning, nor the text a
byte in front of it. -/
def LineComplete (boundary body : List UInt8) (k pos : Nat) : Prop :=
  ∀ start, memmem body pos (body.length - pos) boundary = some start →
    boundary.length < k - pos → k < start + boundary.length ∨ start + boundary.length + 2 ≤ k

/-- The boundary behind each part lies in the first `k` bytes, and the one the loop goes on from is
complete. -/
def Within (boundary body : List UInt8) (k : Nat) : Nat → Nat → Prop
  | 0, _ => True
  | fuel + 1, pos =>
      match round boundary body pos with
      | .part _ _ next => next + boundary.length ≤ k ∧ Within boundary body k fuel next
      | _ => LineComplete boundary body k pos

theorem round_take_outside (hk : k ≤ body.length) (hpos : pos ≤ k) :
    round boundary (body.take k) pos ≠ .outside ↔ LineComplete boundary body k pos := by
  have hlen : (body.take k).length = k := by
    rw [List.length_take]
    omega
  rw [Ne, round_eq_outside, hlen]
  constructor
  · intro h start hstart hlong
    by_contra hcut
    have hpair : start + boundary.length ≤ k ∧ k < start + boundary.length + 2 := by omega
    refine h ⟨hlong, start, ?_, hpair.2⟩
    have hshort := (memmem_take hk hpos).mpr ⟨hstart, hpair.1⟩
    rwa [hlen] at hshort
  · rintro h ⟨hlong, start, hstart, houtside⟩
    have hshort : memmem (body.take k) pos ((body.take k).length - pos) boundary = some start := by
      rw [hlen]
      exact hstart
    obtain ⟨hfound, hle⟩ := (memmem_take hk hpos).mp hshort
    have hcut := h start hfound hlong
    omega

/-- A round that finds no part is the last one. -/
theorem multipartLoop_last (boundary : List UInt8) (bodyStart : Nat) (hpos : pos ≤ body.length)
    (fuel : Nat) (parts found : List MultipartPart)
    (hno : ∀ header data next, round boundary body pos ≠ .part header data next) :
    multipartLoop boundary bodyStart body (fuel + 1) pos (body.length - pos) parts = some found ↔
      found = parts ∧ round boundary body pos ≠ .outside := by
  rw [multipartLoop_round boundary bodyStart hpos]
  cases hround : round boundary body pos with
  | stop => simp [eq_comm]
  | outside => simp
  | part header data next => exact absurd hround (hno header data next)

/-- The parts found so far stay the first ones. -/
theorem multipartLoop_prefix {fuel : Nat} {parts all : List MultipartPart} (hpos : pos ≤ body.length)
    (h : multipartLoop boundary bodyStart body fuel pos (body.length - pos) parts = some all) :
    parts <+: all := by
  induction fuel generalizing pos parts with
  | zero =>
      obtain rfl : parts = all := Option.some.inj h
      exact List.prefix_rfl
  | succ fuel ih =>
      rw [multipartLoop_round boundary bodyStart hpos] at h
      split at h
      · obtain rfl := Option.some.inj h
        exact List.prefix_rfl
      · cases h
      · next header data next hround =>
        have hbounds := round_bounds hpos hround
        exact (List.prefix_append _ _).trans (ih (by omega) h)

/-- **The loop on the beginning of a body**: it finds first parts of the body, and all of them if and
only if the boundaries it needs lie in the beginning. -/
theorem multipartLoop_take {fuel fuel' : Nat} {parts all : List MultipartPart}
    (hk : k ≤ body.length) (hpos : pos ≤ k) (hfuel : body.length - pos < fuel)
    (hfuel' : k - pos < fuel')
    (hall : multipartLoop boundary bodyStart body fuel pos (body.length - pos) parts = some all) :
    (multipartLoop boundary bodyStart (body.take k) fuel' pos (k - pos) parts = some all ↔
      Within boundary body k fuel pos) ∧
    ∀ found, multipartLoop boundary bodyStart (body.take k) fuel' pos (k - pos) parts = some found →
      found <+: all := by
  have hlen : (body.take k).length = k := by
    rw [List.length_take]
    omega
  induction fuel generalizing fuel' pos parts with
  | zero => omega
  | succ fuel ih =>
      obtain ⟨fuel', rfl⟩ : ∃ n, fuel' = n + 1 := ⟨fuel' - 1, by omega⟩
      have hpos' : pos ≤ (body.take k).length := by omega
      rw [← hlen] at hfuel'
      have hlast := multipartLoop_last boundary bodyStart hpos' fuel' parts
      have hfirst := multipartLoop_round boundary bodyStart hpos' fuel' parts
      rw [hlen] at hlast hfirst
      rw [multipartLoop_round boundary bodyStart (by omega)] at hall
      rw [Within]
      split at hall
      · next hround =>
        -- no more parts in the body
        obtain rfl := Option.some.inj hall
        have hno : ∀ header data next, round boundary (body.take k) pos ≠ .part header data next := by
          intro header data next h
          rw [((round_take hk hpos).mp h).1] at hround
          cases hround
        rw [hround]
        refine ⟨?_, fun found h => ?_⟩
        · rw [hlast _ hno, and_iff_right rfl, round_take_outside hk hpos]
        · rw [((hlast _ hno).mp h).1]
      · cases hall
      · next header data next hround =>
        have hbounds := round_bounds (by omega) hround
        rw [hround]
        by_cases hwithin : next + boundary.length ≤ k
        · rw [hfirst, (round_take hk hpos).mpr ⟨hround, hwithin⟩]
          obtain ⟨hiff, hpre⟩ :=
            ih (by omega) (by omega) (show k - next < fuel' by omega) hall
          exact ⟨hiff.trans (and_iff_right hwithin).symm, hpre⟩
        · -- the boundary behind the part is cut
          have hno : ∀ header data next,
              round boundary (body.take k) pos ≠ .part header data next := by
            intro header' data' next' h
            obtain ⟨hround', hle⟩ := (round_take hk hpos).mp h
            rw [hround] at hround'
            cases hround'
            exact hwithin hle
          have hmore := multipartLoop_prefix (by omega) hall
          refine ⟨⟨fun h => ?_, fun h => absurd h.1 hwithin⟩, fun found h => ?_⟩
          · rw [((hlast _ hno).mp h).1] at hmore
            have hle := hmore.length_le
            simp at hle
          · rw [((hlast _ hno).mp h).1]
            exact (List.prefix_append _ _).trans hmore

/-- The boundaries of a body lie in its first `k` bytes, for a content type that names a
boundary. -/
def PartsWithin (contentType body : List UInt8) (k : Nat) : Prop :=
  ∀ before found, strstr (ascii "boundary=") contentType = some (before, found) →
    Within (boundaryOf found) body k (body.length + 1) 0

theorem httpMultipartParseBody_eq {contentType before found : List UInt8}
    (hfound : strstr (ascii "boundary=") contentType = some (before, found)) (bodyStart : Nat)
    (body : List UInt8) :
    httpMultipartParseBody contentType bodyStart body =
      if 256 < (boundaryOf found).length ∧ (boundaryOf found).length < body.length then none
      else multipartLoop (boundaryOf found) bodyStart body (body.length + 1) 0 body.length [] := by
  unfold httpMultipartParseBody
  rw [hfound]
  by_cases hbody : body = []
  · subst hbody
    simp [multipartLoop]
  · rw [if_neg hbody]

/-- **The parts of the beginning of a body** are the parts of the body if and only if its boundaries
lie in the beginning. -/
theorem httpMultipartParseBody_take {contentType : List UInt8} {all : List MultipartPart}
    (hk : k ≤ body.length) (hall : httpMultipartParseBody contentType bodyStart body = some all) :
    (httpMultipartParseBody contentType bodyStart (body.take k) = some all ↔
      PartsWithin contentType body k) ∧
    ∀ found, httpMultipartParseBody contentType bodyStart (body.take k) = some found →
      found <+: all := by
  have hlen : (body.take k).length = k := by
    rw [List.length_take]
    omega
  cases hfound : strstr (ascii "boundary=") contentType with
  | none =>
      have hnil : ∀ body, httpMultipartParseBody contentType bodyStart body = some [] := by
        intro body
        rw [httpMultipartParseBody, hfound]
        exact ite_self _
      rw [hnil] at hall ⊢
      obtain rfl := Option.some.inj hall
      refine ⟨⟨fun _ before found h => ?_, fun _ => rfl⟩, fun found h => ?_⟩
      · rw [hfound] at h
        cases h
      · rw [← Option.some.inj h]
  | some r =>
      obtain ⟨before, found⟩ := r
      have hwithin : PartsWithin contentType body k ↔
          Within (boundaryOf found) body k (body.length + 1) 0 := by
        unfold PartsWithin
        rw [hfound]
        simp
      rw [httpMultipartParseBody_eq hfound] at hall ⊢
      split at hall
      · cases hall
      · next hshort =>
        rw [if_neg (by rw [hlen]; omega), hwithin, hlen]
        exact multipartLoop_take hk (Nat.zero_le k) (Nat.lt_succ_self _) (Nat.lt_succ_self _) hall

/-! ## Where the data of a part is -/

/-- The data of a part lies in a buffer of `n` bytes. -/
def DataIn (n : Nat) (part : MultipartPart) : Prop :=
  ∃ off, part.data = .buffer off ∧ off + part.dataLen ≤ n

theorem multipartLoop_data {fuel : Nat} {parts all : List MultipartPart} (hpos : pos ≤ body.length)
    (hparts : ∀ part ∈ parts, DataIn (bodyStart + body.length) part)
    (h : multipartLoop boundary bodyStart body fuel pos (body.length - pos) parts = some all) :
    ∀ part ∈ all, DataIn (bodyStart + body.length) part := by
  induction fuel generalizing pos parts with
  | zero =>
      obtain rfl : parts = all := Option.some.inj h
      exact hparts
  | succ fuel ih =>
      rw [multipartLoop_round boundary bodyStart hpos] at h
      split at h
      · obtain rfl := Option.some.inj h
        exact hparts
      · cases h
      · next header data next hround =>
        have hbounds := round_bounds hpos hround
        refine ih (by omega) ?_ h
        intro part hpart
        rcases List.mem_append.mp hpart with hpart | hpart
        · exact hparts part hpart
        · obtain rfl := List.mem_singleton.mp hpart
          refine ⟨bodyStart + data, rfl, ?_⟩
          unfold partOf
          dsimp only
          split <;> omega

theorem httpMultipartParseBody_data {contentType : List UInt8} {all : List MultipartPart}
    (h : httpMultipartParseBody contentType bodyStart body = some all) :
    ∀ part ∈ all, DataIn (bodyStart + body.length) part := by
  cases hfound : strstr (ascii "boundary=") contentType with
  | none =>
      rw [httpMultipartParseBody, hfound, ite_self] at h
      obtain rfl := Option.some.inj h
      exact List.forall_mem_nil _
  | some r =>
      obtain ⟨before, found⟩ := r
      rw [httpMultipartParseBody_eq hfound] at h
      split at h
      · cases h
      · exact multipartLoop_data (Nat.zero_le _) (List.forall_mem_nil _) h

end Halmos.Http1
