import Halmos.Basic.Search
import Halmos.Fcgi.Splice
import Halmos.Http2.HeaderLines

set_option autoImplicit false

/-! # The status of a backend's answer

The HTTP/1 and the HTTP/2 path look for `Status:` and `Location:` anywhere in the header text, and
HTTP/1 also in the part of the body that it has in its buffer. HTTP/1 reads the number one byte
behind `Status:`, and only HTTP/2 puts 302 for 200 and 304 where there is a `Location:`. The two
derive what the lines say if they find the fields themselves, with a blank in front of the number
(`status_agree`).
-/

namespace Halmos.Http2

open Fcgi

/-! ## Searching line by line -/

section Search

variable {needle a b : List UInt8} {sep : UInt8}

theorem strcasestr_eq_none_iff :
    strcasestr needle a = none ↔ strstr (needle.map toLower) (a.map toLower) = none := by
  unfold strcasestr
  rw [Option.map_eq_none_iff]

theorem strcasestr_skip (hne : needle ≠ []) (hlow : toLower sep = sep)
    (hsep : sep ∉ needle.map toLower) (h : strcasestr needle a = none) :
    strcasestr needle (a ++ sep :: b) = strcasestr needle b := by
  have hskip := strstr_past (b := b.map toLower) (by simpa using hne) hsep
    (strcasestr_eq_none_iff.mp h)
  unfold strcasestr
  rw [List.map_append, List.map_cons, hlow, hskip, Option.map_map]
  congr 1
  funext r
  show (a ++ sep :: b).drop (a.map toLower ++ sep :: r.1).length = b.drop r.1.length
  have hlen : (a.map toLower ++ sep :: r.1).length = a.length + (r.1.length + 1) := by
    rw [List.length_append, List.length_map, List.length_cons]
  rw [hlen, List.drop_length_add_append, List.drop_succ_cons]

/-- What stands at the head of a text is found there. -/
theorem strcasestr_head (hne : needle ≠ []) (h : needle.map toLower <+: a.map toLower) :
    strcasestr needle a = some a := by
  have hfound : strstr (needle.map toLower) (a.map toLower) = some ([], a.map toLower) := by
    cases a with
    | nil =>
        have hnil := List.prefix_nil.mp h
        rw [List.map_eq_nil_iff] at hnil
        exact absurd hnil hne
    | cons c a =>
        rw [List.map_cons, strstr]
        exact if_pos h
  unfold strcasestr
  rw [hfound]
  rfl

/-- What is found in the beginning of a text is found in the text. -/
theorem strcasestr_isSome_append (h : (strcasestr needle a).isSome = true) :
    (strcasestr needle (a ++ b)).isSome = true := by
  unfold strcasestr at h ⊢
  rw [Option.isSome_map] at h ⊢
  rw [List.map_append]
  obtain ⟨⟨before, found⟩, hfound⟩ := Option.isSome_iff_exists.mp h
  rw [strstr_append hfound]
  rfl

/-- The line end is none of what the code looks for. -/
structure Searchable (needle : List UInt8) : Prop where
  ne_nil : needle ≠ []
  no_cr : 13 ∉ needle.map toLower
  no_lf : 10 ∉ needle.map toLower

theorem searchable_status : Searchable (ascii "Status:") := by
  constructor <;> decide

theorem searchable_location : Searchable (ascii "Location:") := by
  constructor <;> decide

theorem strcasestr_nil (h : Searchable needle) : strcasestr needle [] = none := by
  unfold strcasestr
  rw [List.map_nil, strstr, if_neg (by simpa using h.ne_nil)]
  rfl

/-- A line in which nothing is found. -/
theorem strcasestr_line (h : Searchable needle) (hnone : strcasestr needle a = none) :
    strcasestr needle (a ++ 13 :: 10 :: b) = strcasestr needle b := by
  have hlf : strcasestr needle ([] ++ 10 :: b) = strcasestr needle b :=
    strcasestr_skip h.ne_nil (by decide) h.no_lf (strcasestr_nil h)
  rw [strcasestr_skip h.ne_nil (by decide) h.no_cr hnone]
  exact hlf

end Search

/-! ## Lines -/

section Lines

variable {needle l : List UInt8} {front back lines : List (List UInt8)}

/-- The line, and what follows it. -/
theorem joinLines_cons (l : List UInt8) (back : List (List UInt8)) :
    ∃ more, joinLines (l :: back) = l ++ more ∧ ∀ c ∈ more.head?, c = 13 := by
  cases back with
  | nil => exact ⟨[], (List.append_nil l).symm, fun _ h => by cases h⟩
  | cons next back =>
      refine ⟨13 :: 10 :: joinLines (next :: back), rfl, ?_⟩
      intro c hc
      exact (Option.some.inj hc).symm

theorem joinLines_append {lines back : List (List UInt8)} (hlines : lines ≠ []) (hback : back ≠ []) :
    joinLines (lines ++ back) = joinLines lines ++ 13 :: 10 :: joinLines back := by
  induction lines with
  | nil => exact absurd rfl hlines
  | cons l lines ih =>
      cases lines with
      | nil =>
          cases back with
          | nil => exact absurd rfl hback
          | cons next back => rfl
      | cons next lines =>
          show l ++ 13 :: 10 :: joinLines (next :: lines ++ back) = _
          rw [ih (List.cons_ne_nil _ _), joinLines]
          simp only [List.append_assoc, List.cons_append]

/-- Lines in which nothing is found are passed over. -/
theorem strcasestr_joinLines (h : Searchable needle)
    (hfront : ∀ m ∈ front, strcasestr needle m = none) :
    strcasestr needle (joinLines (front ++ l :: back)) = strcasestr needle (joinLines (l :: back)) := by
  induction front with
  | nil => rfl
  | cons m front ih =>
      have hrest := ih (fun m' hm' => hfront m' (List.mem_cons_of_mem m hm'))
      rw [← hrest, show joinLines (m :: front ++ l :: back)
        = m ++ 13 :: 10 :: joinLines (front ++ l :: back) from
          joinLines_append (List.cons_ne_nil m []) (by simp)]
      exact strcasestr_line h (hfront m List.mem_cons_self)

/-- What is looked for is found in the text if and only if it is found in a line. -/
theorem strcasestr_joinLines_isSome (h : Searchable needle) :
    (strcasestr needle (joinLines lines)).isSome ↔ ∃ m ∈ lines, (strcasestr needle m).isSome := by
  induction lines with
  | nil =>
      rw [joinLines, strcasestr_nil h]
      simp
  | cons l lines ih =>
      rw [List.exists_mem_cons_iff]
      by_cases hl : strcasestr needle l = none
      · rw [hl]
        have hskip : (strcasestr needle (joinLines (l :: lines))).isSome
            ↔ (strcasestr needle (joinLines lines)).isSome := by
          cases lines with
          | nil => rw [joinLines, joinLines, hl, strcasestr_nil h]
          | cons next lines =>
              rw [joinLines, strcasestr_line h hl]
        rw [hskip, ih]
        simp
      · have hsome : (strcasestr needle l).isSome := Option.isSome_iff_ne_none.mpr hl
        obtain ⟨more, hmore, -⟩ := joinLines_cons l lines
        have htext : (strcasestr needle (joinLines (l :: lines))).isSome := by
          rw [hmore]
          exact strcasestr_isSome_append hsome
        exact iff_of_true htext (Or.inl hsome)

end Lines

/-! ## Numbers -/

/-- The number at the head of a text, behind white space: the digits up to the first other byte. -/
def number (value : List UInt8) : Nat := digitsValue 0 (value.dropWhile isSpace)

section Number

variable {value rest : List UInt8}

theorem number_cons_space {c : UInt8} (hc : isSpace c = true) (value : List UInt8) :
    number (c :: value) = number value := by
  unfold number
  rw [List.dropWhile_cons_of_pos hc]

/-- A number ends where no digit follows. -/
theorem number_append (h : 0 < number value)
    (hrest : ∀ c ∈ rest.head?, ¬ (48 ≤ c.toNat ∧ c.toNat ≤ 57)) :
    number (value ++ rest) = number value := by
  have hne : (value.dropWhile isSpace) ≠ [] := by
    intro hnil
    unfold number at h
    rw [hnil, digitsValue] at h
    omega
  unfold number
  have hdrop : (value ++ rest).dropWhile isSpace = value.dropWhile isSpace ++ rest := by
    rw [List.dropWhile_append, if_neg (by simpa using hne)]
  rw [hdrop]
  exact digitsValue_append 0 _ hrest

/-- Passing over blanks before does not change the number. -/
theorem number_dropWhile {p : UInt8 → Bool} (hp : ∀ c, p c = true → isSpace c = true)
    (value : List UInt8) : number (value.dropWhile p) = number value := by
  induction value with
  | nil => rfl
  | cons c value ih =>
      by_cases hc : p c = true
      · rw [List.dropWhile_cons_of_pos hc, ih, number_cons_space (hp c hc)]
      · rw [List.dropWhile_cons_of_neg hc]

/-- White space in front of a number is passed over. -/
theorem atoi_dropWhile (value : List UInt8) : atoi (value.dropWhile isSpace) = atoi value := by
  have htext : (value.dropWhile isSpace).dropWhile (fun b => decide (b = 32 ∨ 9 ≤ b ∧ b ≤ 13))
      = value.dropWhile (fun b => decide (b = 32 ∨ 9 ≤ b ∧ b ≤ 13)) :=
    List.dropWhile_idempotent (p := isSpace) value
  unfold atoi strtol
  rw [htext]

theorem isSpace_of_digit {c : UInt8} (hc : 48 ≤ c.toNat ∧ c.toNat ≤ 57) : isSpace c = false := by
  apply decide_eq_false
  rintro (rfl | ⟨-, hle⟩)
  · exact absurd hc.1 (by decide)
  · have hle' : c.toNat ≤ 13 := hle
    omega

/-- `atoi` reads digits that an `int` holds. -/
theorem atoi_digits {c : UInt8} {ds : List UInt8} (hc : 48 ≤ c.toNat ∧ c.toNat ≤ 57)
    (hint : digitsValue 0 (c :: ds) < 2 ^ 31) : atoi (c :: ds) = digitsValue 0 (c :: ds) := by
  have hspace := isSpace_of_digit hc
  have hminus : c ≠ 45 := by
    rintro rfl
    exact absurd hc.1 (by decide)
  have hplus : c ≠ 43 := by
    rintro rfl
    exact absurd hc.1 (by decide)
  have hdrop : (c :: ds).dropWhile (fun b => decide (b = 32 ∨ (9 ≤ b ∧ b ≤ 13))) = c :: ds :=
    List.dropWhile_cons_of_neg (by rw [← Bool.not_eq_true] at hspace; exact hspace)
  have hnum : strtol (c :: ds) = digitsValue 0 (c :: ds) := by
    unfold strtol
    rw [hdrop]
    dsimp only
    rw [if_neg hminus, if_neg hplus]
    omega
  unfold atoi
  rw [hnum, Int32.toInt_ofInt_of_le]
  · omega
  · omega

/-- `atoi` reads a number that an `int` holds. -/
theorem atoi_of_number (hpos : 0 < number value) (hint : number value < 2 ^ 31) :
    atoi value = number value := by
  unfold number at hpos hint ⊢
  rw [← atoi_dropWhile]
  cases hcases : value.dropWhile isSpace with
  | nil =>
      rw [hcases, digitsValue] at hpos
      omega
  | cons c ds =>
      rw [hcases] at hpos hint
      apply atoi_digits
      · by_contra hno
        rw [digitsValue, if_neg hno] at hpos
        omega
      · exact hint

end Number

/-! ## The status of the lines -/

/-- A `Location` line. -/
def HeaderLine.isLocation (l : HeaderLine) : Bool := l.name.map toLower = ascii "location"

/-- The status the lines give: the number of the `Status` line, else 302 with a `Location` line and
200 without. -/
def declaredStatus (lines : List HeaderLine) : Nat :=
  match lines.find? HeaderLine.isStatus with
  | some l => number l.value
  | none => if lines.any HeaderLine.isLocation then 302 else 200

/-- `needle` is found in the text. -/
def Mentions (needle text : List UInt8) : Prop := (strcasestr needle text).isSome = true

instance (needle text : List UInt8) : Decidable (Mentions needle text) :=
  inferInstanceAs (Decidable (_ = true))

/-- The lines `lines` in front of a blank line and `behind`, with a `Status` line that the paths
find: no earlier line reads like one, its number is no other one without the first byte of the
value, and it is not one that a `Location` in the text replaces. -/
def StatusFound (lines : List HeaderLine) : Prop :=
  ∃ front l back, lines = front ++ l :: back ∧ l.isStatus = true
    ∧ (∀ m ∈ front, ¬ Mentions (ascii "Status:") m.text)
    ∧ number (l.value.drop 1) = number l.value ∧ 0 < number l.value ∧ number l.value < 2 ^ 31
    ∧ (number l.value = 200 ∨ number l.value = 304 →
        ∀ m ∈ lines, ¬ Mentions (ascii "Location:") m.text)

/-- No `Status` line and nothing that reads like one, and a `Location` line or nothing that reads
like one. -/
def StatusAbsent (lines : List HeaderLine) (behind : List UInt8) : Prop :=
  (∀ m ∈ lines, ¬ Mentions (ascii "Status:") m.text) ∧ ¬ Mentions (ascii "Status:") behind
    ∧ ((∃ m ∈ lines, m.isLocation = true)
      ∨ (∀ m ∈ lines, ¬ Mentions (ascii "Location:") m.text)
        ∧ ¬ Mentions (ascii "Location:") behind)

/-- What the paths need to find. -/
def StatusClear (lines : List HeaderLine) (behind : List UInt8) : Prop :=
  StatusFound lines ∨ StatusAbsent lines (cstr behind)

/-- The HTTP/1 path, with the lines, a blank line and `behind` in its buffer, and the HTTP/2 path
derive the status that the lines give. -/
def StatusAgree (lines : List HeaderLine) (behind : List UInt8) : Prop :=
  statusCode (cstr (rawHeaders lines ++ blankLine ++ behind)) = declaredStatus lines
    ∧ finalStatus (rawHeaders lines) = declaredStatus lines

section Agree

variable {lines : List HeaderLine} {behind : List UInt8}

theorem HeaderLine.text_mentions {l : HeaderLine} {word : List UInt8}
    (h : l.name.map toLower ++ [58] = word.map toLower) : word.map toLower <+: l.text.map toLower := by
  unfold HeaderLine.text
  rw [List.map_append, List.map_cons, show toLower 58 = 58 from rfl, ← h]
  exact ⟨l.value.map toLower, by simp⟩

theorem HeaderLine.status_prefix {l : HeaderLine} (h : l.isStatus = true) :
    (ascii "Status:").map toLower <+: l.text.map toLower :=
  HeaderLine.text_mentions (by rw [of_decide_eq_true h]; decide)

theorem HeaderLine.location_mentioned {l : HeaderLine} (h : l.isLocation = true) :
    Mentions (ascii "Location:") l.text := by
  have hpre : (ascii "Location:").map toLower <+: l.text.map toLower :=
    HeaderLine.text_mentions (by rw [of_decide_eq_true h]; decide)
  unfold Mentions
  rw [strcasestr_head searchable_location.ne_nil hpre]
  rfl

theorem HeaderLine.status_mentioned {l : HeaderLine} (h : l.isStatus = true) :
    Mentions (ascii "Status:") l.text := by
  unfold Mentions
  rw [strcasestr_head searchable_status.ne_nil (HeaderLine.status_prefix h)]
  rfl

/-- The buffer on the HTTP/1 path up to its first NUL, line by line. -/
def bufferLines (lines : List HeaderLine) (behind : List UInt8) : List (List UInt8) :=
  (if lines = [] then [[]] else lines.map HeaderLine.text) ++ [[], behind]

theorem buffer_eq (lines : List HeaderLine) (behind : List UInt8) :
    rawHeaders lines ++ blankLine ++ behind = joinLines (bufferLines lines behind) := by
  unfold bufferLines
  by_cases hnil : lines = []
  · rw [hnil]
    rfl
  · have hmap : lines.map HeaderLine.text ≠ [] := by simpa using hnil
    rw [if_neg hnil, joinLines_append hmap (by simp), List.append_assoc]
    rfl

theorem mem_joinLines {c : UInt8} {texts : List (List UInt8)} (h : c ∈ joinLines texts) :
    c = 13 ∨ c = 10 ∨ ∃ t ∈ texts, c ∈ t := by
  induction texts with
  | nil => exact absurd h (List.not_mem_nil)
  | cons t texts ih =>
      have hmore : c ∈ t ∨ c = 13 ∨ c = 10 ∨ c ∈ joinLines texts := by
        cases texts with
        | nil => exact Or.inl h
        | cons next texts =>
            rw [joinLines] at h
            simpa using h
      rcases hmore with ht | hcr | hlf | hrest
      · exact Or.inr (Or.inr ⟨t, List.mem_cons_self, ht⟩)
      · exact Or.inl hcr
      · exact Or.inr (Or.inl hlf)
      · rcases ih hrest with hcr | hlf | ⟨t', ht', hc⟩
        · exact Or.inl hcr
        · exact Or.inr (Or.inl hlf)
        · exact Or.inr (Or.inr ⟨t', List.mem_cons_of_mem t ht', hc⟩)

/-- No NUL is in the lines. -/
theorem zero_notMem_rawHeaders (lines : List HeaderLine) : 0 ∉ rawHeaders lines := by
  intro hmem
  rcases mem_joinLines hmem with h | h | ⟨t, ht, hzero⟩
  · exact absurd h (by decide)
  · exact absurd h (by decide)
  · obtain ⟨l, -, rfl⟩ := List.mem_map.mp ht
    unfold HeaderLine.text at hzero
    rcases List.mem_append.mp hzero with hname | hvalue
    · exact absurd (l.name_visible 0 hname).1 (by decide)
    · rcases List.mem_cons.mp hvalue with hcolon | hvalue
      · exact absurd hcolon (by decide)
      · exact (l.value_inline 0 hvalue).1 rfl

/-- The text in front of a NUL. -/
theorem cstr_buffer (lines : List HeaderLine) (behind : List UInt8) :
    cstr (rawHeaders lines ++ blankLine ++ behind) = rawHeaders lines ++ blankLine ++ cstr behind := by
  unfold cstr
  apply List.takeWhile_append_of_pos
  intro c hc
  apply decide_eq_true
  rintro rfl
  rcases List.mem_append.mp hc with hlines | hblank
  · exact zero_notMem_rawHeaders lines hlines
  · exact absurd hblank (by decide)

theorem mentions_rawHeaders {word : List UInt8} (h : Searchable word) :
    Mentions word (rawHeaders lines) ↔ ∃ m ∈ lines, Mentions word m.text := by
  unfold rawHeaders Mentions
  rw [strcasestr_joinLines_isSome h]
  simp

theorem mentions_buffer {word : List UInt8} (h : Searchable word) :
    Mentions word (rawHeaders lines ++ blankLine ++ behind)
      ↔ (∃ m ∈ lines, Mentions word m.text) ∨ Mentions word behind := by
  have hempty : strcasestr word [] = none := strcasestr_nil h
  rw [buffer_eq]
  unfold Mentions
  rw [strcasestr_joinLines_isSome h]
  unfold bufferLines
  by_cases hnil : lines = []
  · rw [if_pos hnil, hnil]
    simp [hempty]
  · rw [if_neg hnil]
    simp [hempty, or_and_right, exists_or]

/-- The `Status` line is where the search ends, on both paths. -/
theorem strcasestr_status {front : List (List UInt8)} {l : HeaderLine} (hl : l.isStatus = true)
    (hfront : ∀ m ∈ front, ¬ Mentions (ascii "Status:") m) (back : List (List UInt8)) :
    ∃ more, strcasestr (ascii "Status:") (joinLines (front ++ l.text :: back)) = some (l.text ++ more)
      ∧ ∀ c ∈ more.head?, c = 13 := by
  obtain ⟨more, htext, hmore⟩ := joinLines_cons l.text back
  refine ⟨more, ?_, hmore⟩
  have hpass : ∀ m ∈ front, strcasestr (ascii "Status:") m = none :=
    fun m hm => Option.not_isSome_iff_eq_none.mp (hfront m hm)
  rw [strcasestr_joinLines searchable_status hpass, htext]
  apply strcasestr_head searchable_status.ne_nil
  rw [List.map_append]
  exact (HeaderLine.status_prefix hl).trans (List.prefix_append _ _)

/-- What stands behind the name and the colon. -/
theorem HeaderLine.status_drop {l : HeaderLine} (hl : l.isStatus = true) (more : List UInt8) :
    (l.text ++ more).drop 7 = l.value ++ more := by
  have hlen : l.name.length = 6 := by
    have hname := congrArg List.length (of_decide_eq_true hl)
    rw [List.length_map] at hname
    exact hname
  unfold HeaderLine.text
  rw [show l.name ++ 58 :: l.value ++ more = (l.name ++ [58]) ++ (l.value ++ more) by simp]
  apply List.drop_left'
  rw [List.length_append, hlen]
  rfl

theorem not_digit_of_cr {more : List UInt8} (h : ∀ c ∈ more.head?, c = 13) :
    ∀ c ∈ more.head?, ¬ (48 ≤ c.toNat ∧ c.toNat ≤ 57) := by
  intro c hc
  rw [h c hc]
  decide

/-- HTTP/1 reads the number from the second byte of the value on. -/
theorem statusCode_of_status {front : List HeaderLine} {l : HeaderLine} (hl : l.isStatus = true)
    (hfront : ∀ m ∈ front, ¬ Mentions (ascii "Status:") m.text) (hvalue : l.value ≠ [])
    (back : List HeaderLine) (behind : List UInt8) :
    ∃ more, statusCode (rawHeaders (front ++ l :: back) ++ blankLine ++ behind)
        = atoi (l.value.drop 1 ++ more) ∧ ∀ c ∈ more.head?, c = 13 := by
  have hlines : bufferLines (front ++ l :: back) behind
      = front.map HeaderLine.text ++ l.text :: (back.map HeaderLine.text ++ [[], behind]) := by
    unfold bufferLines
    rw [if_neg (by simp), List.map_append, List.map_cons, List.append_assoc, List.cons_append]
  have hfront' : ∀ m ∈ front.map HeaderLine.text, ¬ Mentions (ascii "Status:") m :=
    List.forall_mem_map.mpr hfront
  obtain ⟨more, hfound, hmore⟩ :=
    strcasestr_status hl hfront' (back.map HeaderLine.text ++ [[], behind])
  refine ⟨more, ?_, hmore⟩
  rw [buffer_eq, hlines]
  unfold statusCode
  rw [hfound]
  show atoi ((l.text ++ more).drop (7 + 1)) = _
  rw [← List.drop_drop, HeaderLine.status_drop hl]
  obtain ⟨c, value, hcons⟩ := List.exists_cons_of_ne_nil hvalue
  rw [hcons]
  rfl

/-- HTTP/2 reads it from the first one on, behind blanks. -/
theorem finalStatus_of_status {front back : List HeaderLine} {l : HeaderLine}
    (hl : l.isStatus = true) (hfront : ∀ m ∈ front, ¬ Mentions (ascii "Status:") m.text)
    (hpos : 0 < number l.value) (hint : number l.value < 2 ^ 31) :
    finalStatus (rawHeaders (front ++ l :: back))
      = if Mentions (ascii "Location:") (rawHeaders (front ++ l :: back))
          ∧ (number l.value = 200 ∨ number l.value = 304) then 302 else number l.value := by
  have hfront' : ∀ m ∈ front.map HeaderLine.text, ¬ Mentions (ascii "Status:") m :=
    List.forall_mem_map.mpr hfront
  obtain ⟨more, hfound, hmore⟩ := strcasestr_status hl hfront' (back.map HeaderLine.text)
  have hraw : rawHeaders (front ++ l :: back)
      = joinLines (front.map HeaderLine.text ++ l.text :: back.map HeaderLine.text) := by
    unfold rawHeaders
    rw [List.map_append, List.map_cons]
  have hnumber : number ((l.value ++ more).dropWhile (fun c => c = 32 ∨ c = 9)) = number l.value := by
    rw [number_dropWhile, number_append hpos (not_digit_of_cr hmore)]
    intro c hc
    rcases of_decide_eq_true hc with rfl | rfl
    · decide
    · decide
  have hatoi : atoi ((l.value ++ more).dropWhile (fun c => c = 32 ∨ c = 9)) = number l.value := by
    rw [← hnumber] at hpos hint ⊢
    exact atoi_of_number hpos hint
  unfold finalStatus
  rw [← hraw] at hfound
  rw [hfound]
  have hparsed : (0 : Int) < number l.value := by omega
  simp only [HeaderLine.status_drop hl, hatoi, if_pos hparsed, Int.toNat_natCast]
  rfl

theorem statusCode_of_absent
    (h : ¬ Mentions (ascii "Status:") (rawHeaders lines ++ blankLine ++ behind)) :
    statusCode (rawHeaders lines ++ blankLine ++ behind)
      = if Mentions (ascii "Location:") (rawHeaders lines ++ blankLine ++ behind)
        then 302 else 200 := by
  unfold statusCode
  rw [Option.not_isSome_iff_eq_none.mp h]
  rfl

theorem finalStatus_of_absent (h : ¬ Mentions (ascii "Status:") (rawHeaders lines)) :
    finalStatus (rawHeaders lines)
      = if Mentions (ascii "Location:") (rawHeaders lines) then 302 else 200 := by
  unfold finalStatus
  rw [Option.not_isSome_iff_eq_none.mp h]
  exact if_congr (and_iff_left (Or.inl rfl)) rfl rfl

theorem declaredStatus_of_status {front back : List HeaderLine} {l : HeaderLine}
    (hl : l.isStatus = true) (hfront : ∀ m ∈ front, ¬ Mentions (ascii "Status:") m.text) :
    declaredStatus (front ++ l :: back) = number l.value := by
  have hfind : (front ++ l :: back).find? HeaderLine.isStatus = some l := by
    rw [List.find?_append, List.find?_eq_none.mpr, Option.none_or, List.find?_cons_of_pos hl]
    intro m hm hstatus
    exact hfront m hm (HeaderLine.status_mentioned hstatus)
  unfold declaredStatus
  rw [hfind]

theorem declaredStatus_of_absent (h : ∀ m ∈ lines, ¬ Mentions (ascii "Status:") m.text) :
    declaredStatus lines = if ∃ m ∈ lines, m.isLocation = true then 302 else 200 := by
  have hfind : lines.find? HeaderLine.isStatus = none := by
    rw [List.find?_eq_none]
    intro m hm hstatus
    exact h m hm (HeaderLine.status_mentioned hstatus)
  unfold declaredStatus
  rw [hfind]
  dsimp only
  congr 1
  rw [List.any_eq_true]

/-- Both paths derive the status that the lines give. -/
theorem agree_of_clear (h : StatusClear lines behind) : StatusAgree lines behind := by
  unfold StatusAgree
  rw [cstr_buffer]
  -- a first `Status` line gives both paths their number; without one both fall back on `Location`
  rcases h with ⟨front, l, back, rfl, hl, hfront, hdrop, hpos, hint, hlocation⟩
    | ⟨hstatus, hbehind, hlocation⟩
  · rw [declaredStatus_of_status hl hfront]
    have hvalue : l.value ≠ [] := by
      intro hnil
      rw [hnil] at hpos
      exact absurd hpos (by decide)
    constructor
    · obtain ⟨more, hcode, hmore⟩ := statusCode_of_status hl hfront hvalue back (cstr behind)
      have hnumber : number (l.value.drop 1 ++ more) = number l.value := by
        rw [← hdrop] at hpos ⊢
        exact number_append hpos (not_digit_of_cr hmore)
      rw [hcode, ← hnumber]
      apply atoi_of_number
      · omega
      · omega
    · rw [finalStatus_of_status hl hfront hpos hint, if_neg]
      rintro ⟨hmentions, hnumber⟩
      obtain ⟨m, hm, hword⟩ := (mentions_rawHeaders searchable_location).mp hmentions
      exact hlocation hnumber m hm hword
  · have hraw : ¬ Mentions (ascii "Status:") (rawHeaders lines) := by
      rw [mentions_rawHeaders searchable_status]
      rintro ⟨m, hm, hword⟩
      exact hstatus m hm hword
    have hbuffer : ¬ Mentions (ascii "Status:") (rawHeaders lines ++ blankLine ++ cstr behind) := by
      rw [mentions_buffer searchable_status]
      rintro (⟨m, hm, hword⟩ | hword)
      · exact hstatus m hm hword
      · exact hbehind hword
    rw [statusCode_of_absent hbuffer, finalStatus_of_absent hraw, declaredStatus_of_absent hstatus]
    rcases hlocation with hfield | ⟨hlines, htail⟩
    · have hmention : ∃ m ∈ lines, Mentions (ascii "Location:") m.text := by
        obtain ⟨m, hm, hl⟩ := hfield
        exact ⟨m, hm, HeaderLine.location_mentioned hl⟩
      rw [if_pos ((mentions_buffer searchable_location).mpr (Or.inl hmention)),
        if_pos ((mentions_rawHeaders searchable_location).mpr hmention), if_pos hfield]
      exact ⟨rfl, rfl⟩
    · have hfield : ¬ ∃ m ∈ lines, m.isLocation = true := by
        rintro ⟨m, hm, hl⟩
        exact hlines m hm (HeaderLine.location_mentioned hl)
      have hnone : ¬ ∃ m ∈ lines, Mentions (ascii "Location:") m.text := by
        rintro ⟨m, hm, hword⟩
        exact hlines m hm hword
      have hnone' : ¬ ((∃ m ∈ lines, Mentions (ascii "Location:") m.text)
          ∨ Mentions (ascii "Location:") (cstr behind)) := not_or.mpr ⟨hnone, htail⟩
      rw [if_neg (mt (mentions_buffer searchable_location).mp hnone'),
        if_neg (mt (mentions_rawHeaders searchable_location).mp hnone), if_neg hfield]
      exact ⟨rfl, rfl⟩

end Agree

/-! ## Where it goes wrong -/

/-- Nothing reads like a `Status` line in front of the first one, and its number has more than one
digit. -/
structure StatusOwn (lines : List HeaderLine) (behind : List UInt8) : Prop where
  line : ∀ front m back, lines = front ++ m :: back →
    (∀ l ∈ front, ¬ Mentions (ascii "Status:") l.text) → Mentions (ascii "Status:") m.text →
    m.isStatus = true
  behind : (∀ m ∈ lines, ¬ Mentions (ascii "Status:") m.text) → ¬ Mentions (ascii "Status:") behind
  digits : ∀ l ∈ lines, l.isStatus = true → number l.value = 0 ∨ 10 ≤ number l.value

section Converse

variable {lines : List HeaderLine} {behind : List UInt8}

/-- The status on the HTTP/2 path is a positive `int`. -/
theorem finalStatus_bounds (raw : List UInt8) : 0 < finalStatus raw ∧ finalStatus raw < 2 ^ 31 := by
  have hparsed : ∀ text, 0 < (if 0 < atoi text then (atoi text).toNat else 200)
      ∧ (if 0 < atoi text then (atoi text).toNat else 200) < 2 ^ 31 := by
    intro text
    have hatoi : atoi text < 2 ^ 31 := Int32.toInt_lt _
    split <;> omega
  have hnone : ∀ b : Prop, [Decidable b] → ∀ n : Nat, 0 < n ∧ n < 2 ^ 31 →
      0 < (if b then 302 else n) ∧ (if b then 302 else n) < 2 ^ 31 := by
    intro b _ n hn
    split
    · decide
    · exact hn
  unfold finalStatus
  dsimp only
  cases strcasestr (ascii "Status:") raw with
  | none => exact hnone _ _ (by decide)
  | some s => exact hnone _ _ (hparsed _)

/-- A larger number in front of the digits gives a larger one. -/
theorem digitsValue_add_le (m n : Nat) (ds : List UInt8) :
    digitsValue m ds + n ≤ digitsValue (m + n) ds := by
  induction ds generalizing m n with
  | nil => exact Nat.le_refl _
  | cons d ds ih =>
      rw [digitsValue, digitsValue]
      split
      · have hstep := ih (10 * m + (d.toNat - 48)) (10 * n)
        rw [show 10 * (m + n) + (d.toNat - 48) = 10 * m + (d.toNat - 48) + 10 * n by ring]
        omega
      · exact Nat.le_refl _

/-- The number without its first digit, unless that is a zero. -/
theorem atoi_unspaced {c : UInt8} {value more : List UInt8} (hc : 49 ≤ c.toNat ∧ c.toNat ≤ 57)
    (hten : 10 ≤ digitsValue 0 (c :: value)) (hint : digitsValue 0 (c :: value) < 2 ^ 31)
    (hmore : ∀ c ∈ more.head?, c = 13) :
    atoi (value ++ more) < digitsValue 0 (c :: value) := by
  rw [digitsValue, if_pos ⟨by omega, hc.2⟩, Nat.mul_zero, Nat.zero_add] at hten hint ⊢
  cases value with
  | nil =>
      rw [digitsValue] at hten
      omega
  | cons d ds =>
      have hd : 48 ≤ d.toNat ∧ d.toNat ≤ 57 := by
        by_contra hno
        rw [digitsValue, if_neg hno] at hten
        omega
      have hvalue : digitsValue 0 (d :: ds ++ more) = digitsValue 0 (d :: ds) :=
        digitsValue_append 0 _ (not_digit_of_cr hmore)
      have hle := digitsValue_add_le 0 (c.toNat - 48) (d :: ds)
      rw [Nat.zero_add] at hle
      have hatoi : atoi (d :: ds ++ more) = digitsValue 0 (d :: ds ++ more) :=
        atoi_digits hd (lt_of_eq_of_lt hvalue (by omega))
      rw [hatoi, hvalue]
      omega

/-- The first byte of the value can be left out, or the number is another one without it. -/
theorem number_drop_of_atoi {value more : List UInt8} (hpos : 0 < number value)
    (hten : 10 ≤ number value) (hint : number value < 2 ^ 31) (hmore : ∀ c ∈ more.head?, c = 13)
    (h : atoi (value.drop 1 ++ more) = number value) : number (value.drop 1) = number value := by
  cases value with
  | nil => rfl
  | cons c value =>
      rw [List.drop_succ_cons, List.drop_zero] at h ⊢
      by_cases hspace : isSpace c = true
      · exact (number_cons_space hspace value).symm
      · have hnumber : number (c :: value) = digitsValue 0 (c :: value) := by
          unfold number
          rw [List.dropWhile_cons_of_neg hspace]
        rw [hnumber] at hpos hten hint h ⊢
        have hdigit : 48 ≤ c.toNat ∧ c.toNat ≤ 57 := by
          by_contra hno
          rw [digitsValue, if_neg hno] at hpos
          omega
        by_cases hzero : c.toNat = 48
        · -- behind a zero stands a digit, or the number would be zero
          rw [digitsValue, if_pos hdigit, hzero] at hpos ⊢
          cases value with
          | nil => exact absurd hpos (by decide)
          | cons d ds =>
              have hd : 48 ≤ d.toNat ∧ d.toNat ≤ 57 := by
                by_contra hno
                rw [digitsValue, if_neg hno] at hpos
                omega
              unfold number
              rw [List.dropWhile_cons_of_neg (by rw [isSpace_of_digit hd]; decide)]
        · have hlt := atoi_unspaced ⟨by omega, hdigit.2⟩ hten hint hmore
          omega

/-- The first line for which a predicate holds. -/
theorem exists_first {p : HeaderLine → Prop} [DecidablePred p] (h : ∃ m ∈ lines, p m) :
    ∃ front l back, lines = front ++ l :: back ∧ (∀ m ∈ front, ¬ p m) ∧ p l := by
  have hfind : (lines.find? (fun m => decide (p m))).isSome = true := by
    rw [List.find?_isSome]
    simpa using h
  obtain ⟨l, hl⟩ := Option.isSome_iff_exists.mp hfind
  obtain ⟨hp, front, back, hlines, hfront⟩ := List.find?_eq_some_iff_append.mp hl
  exact ⟨front, l, back, hlines, by simpa using hfront, of_decide_eq_true hp⟩

/-- With nothing else that reads like the fields, the paths go wrong otherwise. -/
theorem clear_of_agree (hown : StatusOwn lines (cstr behind)) (h : StatusAgree lines behind) :
    StatusClear lines behind := by
  obtain ⟨hcode, hfinal⟩ := h
  rw [cstr_buffer] at hcode
  -- with a line that reads like `Status:` the agreement fixes its number, and without one both
  -- paths depend on `Location` alone
  by_cases hmention : ∃ m ∈ lines, Mentions (ascii "Status:") m.text
  · left
    obtain ⟨front, l, back, hlines, hfront, hl⟩ := exists_first hmention
    have hstatus := hown.line front l back hlines hfront hl
    subst hlines
    rw [declaredStatus_of_status hstatus hfront] at hcode hfinal
    have hbounds := finalStatus_bounds (rawHeaders (front ++ l :: back))
    rw [hfinal] at hbounds
    obtain ⟨hpos, hint⟩ := hbounds
    have hten : 10 ≤ number l.value := by
      have hdigits := hown.digits l (by simp) hstatus
      omega
    have hvalue : l.value ≠ [] := by
      intro hnil
      rw [hnil] at hpos
      exact absurd hpos (by decide)
    obtain ⟨more, hread, hmore⟩ := statusCode_of_status hstatus hfront hvalue back (cstr behind)
    rw [hread] at hcode
    refine ⟨front, l, back, rfl, hstatus, hfront,
      number_drop_of_atoi hpos hten hint hmore hcode, hpos, hint, ?_⟩
    intro hnumber m hm hword
    have hmentions := (mentions_rawHeaders searchable_location).mpr ⟨m, hm, hword⟩
    rw [finalStatus_of_status hstatus hfront hpos hint, if_pos ⟨hmentions, hnumber⟩] at hfinal
    omega
  · right
    have hnone : ∀ m ∈ lines, ¬ Mentions (ascii "Status:") m.text := by
      intro m hm hword
      exact hmention ⟨m, hm, hword⟩
    have hbehind := hown.behind hnone
    refine ⟨hnone, hbehind, ?_⟩
    have hbuffer : ¬ Mentions (ascii "Status:") (rawHeaders lines ++ blankLine ++ cstr behind) := by
      rw [mentions_buffer searchable_status]
      exact not_or.mpr ⟨hmention, hbehind⟩
    by_cases hfield : ∃ m ∈ lines, m.isLocation = true
    · exact Or.inl hfield
    · right
      rw [statusCode_of_absent hbuffer, declaredStatus_of_absent hnone, if_neg hfield] at hcode
      have hlocation :
          ¬ Mentions (ascii "Location:") (rawHeaders lines ++ blankLine ++ cstr behind) := by
        intro hword
        rw [if_pos hword] at hcode
        exact absurd hcode (by decide)
      rw [mentions_buffer searchable_location, not_or] at hlocation
      refine ⟨?_, hlocation.2⟩
      intro m hm hword
      exact hlocation.1 ⟨m, hm, hword⟩

/-- **The status of an answer.** With a `Status` line that is found, or without anything that reads
like one, both paths derive the status that the lines give. With nothing that reads like a `Status`
line in front of the first one, they do it in no other case. -/
theorem status_agree (lines : List HeaderLine) (behind : List UInt8) :
    (StatusClear lines behind → StatusAgree lines behind)
      ∧ (StatusOwn lines (cstr behind) → StatusAgree lines behind → StatusClear lines behind) :=
  ⟨agree_of_clear, clear_of_agree⟩

/-- `Status: 404`. -/
def spacedLine : HeaderLine where
  name := ascii "Status"
  value := ascii " 404"
  name_visible := List.all_iff_forall_prop.mp (by decide)
  value_inline := List.all_iff_forall_prop.mp (by decide)

theorem status_agree_spaced : StatusAgree [spacedLine] [] ∧ StatusClear [spacedLine] [] := by
  have hclear : StatusClear [spacedLine] [] := by
    refine Or.inl ⟨[], spacedLine, [], rfl, by decide, by simp, by decide, by decide, by decide, ?_⟩
    decide
  have hagree := (status_agree [spacedLine] []).1 hclear
  have hown : StatusOwn [spacedLine] (cstr []) := by
    constructor
    · rintro front m back hlines - -
      have hmem : m ∈ [spacedLine] := by
        rw [hlines]
        simp
      rw [List.mem_singleton.mp hmem]
      decide
    · intro h
      exact absurd (h spacedLine List.mem_cons_self) (by decide)
    · decide
  exact ⟨hagree, (status_agree [spacedLine] []).2 hown hagree⟩

/-- `Status:404`. -/
def unspacedLine : HeaderLine where
  name := ascii "Status"
  value := ascii "404"
  name_visible := List.all_iff_forall_prop.mp (by decide)
  value_inline := List.all_iff_forall_prop.mp (by decide)

/-- Without a blank the number loses its first digit on the HTTP/1 path. -/
theorem status_disagree :
    declaredStatus [unspacedLine] = 404 ∧ finalStatus (rawHeaders [unspacedLine]) = 404
      ∧ statusCode (cstr (rawHeaders [unspacedLine] ++ blankLine)) = 4 := by
  decide

end Converse

end Halmos.Http2
