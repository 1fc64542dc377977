import Halmos.Basic.Bytes

set_option autoImplicit false

/-! # Text in buffers

The C functions that search and read text: `strstr`, `strcasestr`, `strtol`, `atoi`, and the
numerals `snprintf` writes for `%d` and `%X`. A pointer into a text is the pair of what is in
front of it and what it points to.
-/

namespace Halmos

/-! ## Searching -/

/-- `strstr(s, needle)`: the text before the first occurrence and the text from there on. -/
def strstr (needle : List UInt8) : List UInt8 → Option (List UInt8 × List UInt8)
  | [] => if needle = [] then some ([], []) else none
  | c :: s =>
      if needle <+: c :: s then some ([], c :: s)
      else (strstr needle s).map (fun r => (c :: r.1, r.2))

theorem strstr_sound {needle s before found : List UInt8}
    (h : strstr needle s = some (before, found)) : s = before ++ found ∧ needle <+: found := by
  induction s generalizing before with
  | nil =>
      rw [strstr] at h
      split at h
      · next hnil =>
          cases h
          exact ⟨rfl, hnil ▸ List.prefix_rfl⟩
      · cases h
  | cons c s ih =>
      rw [strstr] at h
      split at h
      · next hpre =>
          cases h
          exact ⟨rfl, hpre⟩
      · obtain ⟨⟨before', found'⟩, hrec, heq⟩ := Option.map_eq_some_iff.mp h
        cases heq
        obtain ⟨hs, hpre⟩ := ih hrec
        exact ⟨by rw [hs, List.cons_append], hpre⟩

/-- A prefix of a longer text that is no longer than the shorter one is a prefix of it. -/
theorem prefix_of_prefix_append {a s t : List UInt8} (h : a <+: s ++ t)
    (hlen : a.length ≤ s.length) : a <+: s :=
  List.prefix_of_prefix_length_le h (List.prefix_append s t) hlen

/-- What is found stays found when text is added behind it. -/
theorem strstr_append {needle s before found : List UInt8}
    (h : strstr needle s = some (before, found)) (t : List UInt8) :
    strstr needle (s ++ t) = some (before, found ++ t) := by
  induction s generalizing before with
  | nil =>
      obtain ⟨hs, hpre⟩ := strstr_sound h
      obtain ⟨rfl, rfl⟩ := List.append_eq_nil_iff.mp hs.symm
      have hnil := List.prefix_nil.mp hpre
      rw [hnil]
      cases t with
      | nil => rfl
      | cons c t => exact if_pos List.nil_prefix
  | cons c s ih =>
      obtain ⟨hs, hfound⟩ := strstr_sound h
      rw [strstr] at h
      rw [List.cons_append, strstr]
      split at h
      · next hpre =>
          cases h
          exact if_pos (hpre.trans (List.prefix_append (c :: s) t))
      · next hpre =>
          obtain ⟨⟨before', found'⟩, hrec, heq⟩ := Option.map_eq_some_iff.mp h
          cases heq
          have hlen : needle.length ≤ (c :: s).length := by
            rw [hs, List.length_append]
            exact hfound.length_le.trans (Nat.le_add_left _ _)
          have hpre' : ¬ needle <+: c :: (s ++ t) :=
            fun hp => hpre (prefix_of_prefix_append (s := c :: s) hp hlen)
          rw [if_neg hpre', ih hrec]
          rfl

/-- What is found in a longer text is found in every beginning of it that holds the occurrence. -/
theorem strstr_of_append {needle s t before found : List UInt8}
    (h : strstr needle (s ++ t) = some (before, found))
    (hlen : before.length + needle.length ≤ s.length) :
    ∃ found', strstr needle s = some (before, found') ∧ found = found' ++ t := by
  induction s generalizing before with
  | nil =>
      obtain ⟨hs, -⟩ := strstr_sound h
      rw [List.length_nil] at hlen
      have hneedle : needle = [] := List.length_eq_zero_iff.mp (by omega)
      have hbefore : before = [] := List.length_eq_zero_iff.mp (by omega)
      rw [hbefore, List.nil_append, List.nil_append] at hs
      rw [hneedle, hbefore]
      exact ⟨[], rfl, hs.symm⟩
  | cons c s ih =>
      rw [List.cons_append, strstr] at h
      rw [strstr]
      split at h
      · next hpre =>
          cases h
          rw [List.length_nil, Nat.zero_add] at hlen
          rw [if_pos (prefix_of_prefix_append (s := c :: s) hpre hlen)]
          exact ⟨c :: s, rfl, rfl⟩
      · next hpre =>
          obtain ⟨⟨before', found'⟩, hrec, heq⟩ := Option.map_eq_some_iff.mp h
          cases heq
          simp only [List.length_cons] at hlen
          obtain ⟨found'', hshort, happ⟩ := ih hrec (by omega)
          have hpre' : ¬ needle <+: c :: s :=
            fun hp => hpre (hp.trans (List.prefix_append (c :: s) t))
          rw [if_neg hpre', hshort]
          exact ⟨found'', rfl, happ⟩

/-- The text through the first occurrence of `needle`, and the text behind it. -/
def splitAfter (needle s : List UInt8) : Option (List UInt8 × List UInt8) :=
  (strstr needle s).map (fun r => (r.1 ++ needle, r.2.drop needle.length))

theorem splitAfter_eq_some {needle s head rest : List UInt8}
    (h : splitAfter needle s = some (head, rest)) :
    ∃ before, head = before ++ needle ∧ strstr needle s = some (before, needle ++ rest) := by
  obtain ⟨⟨before, found⟩, hstr, heq⟩ := Option.map_eq_some_iff.mp h
  cases heq
  obtain ⟨-, tail, rfl⟩ := strstr_sound hstr
  exact ⟨before, rfl, by rw [hstr, List.drop_left]⟩

theorem splitAfter_sound {needle s head rest : List UInt8}
    (h : splitAfter needle s = some (head, rest)) : s = head ++ rest := by
  obtain ⟨before, rfl, hstr⟩ := splitAfter_eq_some h
  rw [List.append_assoc]
  exact (strstr_sound hstr).1

theorem splitAfter_append {needle s head rest : List UInt8}
    (h : splitAfter needle s = some (head, rest)) (t : List UInt8) :
    splitAfter needle (s ++ t) = some (head, rest ++ t) := by
  obtain ⟨before, rfl, hstr⟩ := splitAfter_eq_some h
  unfold splitAfter
  rw [strstr_append hstr, Option.map_some, List.append_assoc, List.drop_left]

theorem splitAfter_of_append {needle s t head rest : List UInt8}
    (h : splitAfter needle (s ++ t) = some (head, rest)) (hlen : head.length ≤ s.length) :
    ∃ rest', splitAfter needle s = some (head, rest') ∧ rest = rest' ++ t := by
  obtain ⟨before, rfl, hstr⟩ := splitAfter_eq_some h
  rw [List.length_append] at hlen
  obtain ⟨found, hshort, happ⟩ := strstr_of_append hstr hlen
  obtain ⟨-, tail, rfl⟩ := strstr_sound hshort
  rw [List.append_assoc] at happ
  refine ⟨tail, ?_, List.append_cancel_left happ⟩
  unfold splitAfter
  rw [hshort, Option.map_some, List.drop_left]

/-- **Searching a buffer** only sees the text in front of the first NUL. -/
theorem splitAfter_cstr_isSome_iff {needle buf : List UInt8} :
    (splitAfter needle (cstr buf)).isSome
      ↔ ∃ head rest, splitAfter needle buf = some (head, rest) ∧ 0 ∉ head := by
  obtain ⟨tail, htail⟩ := cstr_isPrefix buf
  constructor
  · intro h
    obtain ⟨⟨head, rest⟩, hsplit⟩ := Option.isSome_iff_exists.mp h
    have happ := splitAfter_append hsplit tail
    rw [htail] at happ
    refine ⟨head, rest ++ tail, happ, ?_⟩
    intro hmem
    have hzero := zero_notMem_cstr buf
    rw [splitAfter_sound hsplit] at hzero
    exact hzero (List.mem_append_left rest hmem)
  · rintro ⟨head, rest, hsplit, hzero⟩
    have hbuf := splitAfter_sound hsplit
    have hle : head.length ≤ (cstr buf).length := by
      rw [hbuf]
      clear htail hsplit hbuf
      induction head with
      | nil => exact Nat.zero_le _
      | cons c head ih =>
          rw [List.mem_cons, not_or] at hzero
          rw [List.cons_append, cstr_cons, if_neg (Ne.symm hzero.1)]
          exact Nat.succ_le_succ (ih hzero.2)
    rw [← htail] at hsplit
    obtain ⟨rest', hshort, -⟩ := splitAfter_of_append hsplit hle
    rw [hshort]
    rfl

/-- What is not there in a text is not there in the beginning of it. -/
theorem splitAfter_cstr_of_isPrefix {needle p q : List UInt8} (hpq : p <+: q)
    (h : splitAfter needle (cstr q) = none) : splitAfter needle (cstr p) = none := by
  obtain ⟨s, rfl⟩ := hpq
  rw [← Option.not_isSome_iff_eq_none] at h ⊢
  intro hsome
  obtain ⟨head, rest, hsplit, hzero⟩ := splitAfter_cstr_isSome_iff.mp hsome
  exact h (splitAfter_cstr_isSome_iff.mpr ⟨head, rest ++ s, splitAfter_append hsplit s, hzero⟩)

/-- `tolower` on ASCII. -/
def toLower (c : UInt8) : UInt8 := if 65 ≤ c ∧ c ≤ 90 then c + 32 else c

/-- `strcasestr(s, needle)`: the text from the first occurrence on. -/
def strcasestr (needle s : List UInt8) : Option (List UInt8) :=
  (strstr (needle.map toLower) (s.map toLower)).map (fun r => s.drop r.1.length)

/-! ## Lines -/

/-- What call after call of `fgets(line, room + 1, fp)` reads of a file: it goes on to a newline, but
no further than `room` bytes. `read` is what the call has read so far. -/
def fgetsLines (room : Nat) : List UInt8 → List UInt8 → List (List UInt8)
  | read, [] => if read = [] then [] else [read]
  | read, c :: rest =>
      if c = 0x0A ∨ read.length + 1 = room then (read ++ [c]) :: fgetsLines room [] rest
      else fgetsLines room (read ++ [c]) rest

/-- A line of `fgets` has a byte, and room in its array. -/
theorem fgetsLines_length {room : Nat} (read content : List UInt8) (hread : read.length < room) :
    ∀ line ∈ fgetsLines room read content, line ≠ [] ∧ line.length ≤ room := by
  induction content generalizing read with
  | nil =>
      rw [fgetsLines]
      split
      · exact fun line hline => nomatch hline
      · next hne =>
          intro line hline
          obtain rfl := List.mem_singleton.mp hline
          exact ⟨hne, hread.le⟩
  | cons c content ih =>
      rw [fgetsLines]
      have hlen : (read ++ [c]).length = read.length + 1 := by simp
      split
      · intro line hline
        rcases List.mem_cons.mp hline with rfl | hrest
        · exact ⟨by simp, by omega⟩
        · exact ih [] (by simp only [List.length_nil]; omega) line hrest
      · next hgo => exact ih (read ++ [c]) (by omega)

/-! ## Numbers -/

/-- The number the digits at the head of a text denote. -/
def digitsValue : Nat → List UInt8 → Nat
  | n, [] => n
  | n, b :: bs =>
      if 48 ≤ b.toNat ∧ b.toNat ≤ 57 then digitsValue (10 * n + (b.toNat - 48)) bs else n

/-- The digits of a text end where no digit follows. -/
theorem digitsValue_append (n : Nat) (ds : List UInt8) {rest : List UInt8}
    (hrest : ∀ c ∈ rest.head?, ¬ (48 ≤ c.toNat ∧ c.toNat ≤ 57)) :
    digitsValue n (ds ++ rest) = digitsValue n ds := by
  induction ds generalizing n with
  | nil =>
      cases rest with
      | nil => rfl
      | cons c rest =>
          show digitsValue n (c :: rest) = n
          rw [digitsValue, if_neg (hrest c rfl)]
  | cons d ds ih =>
      rw [List.cons_append, digitsValue, digitsValue]
      split
      · exact ih _
      · rfl

/-- `strtol(value, NULL, 10)`: white space, a sign and digits, clamped to a 64-bit `long`. -/
def strtol (value : List UInt8) : Int :=
  let s := value.dropWhile (fun b => b = 32 ∨ (9 ≤ b ∧ b ≤ 13))
  match s with
  | [] => 0
  | b :: bs =>
      if b = 45 then max (-(digitsValue 0 bs : Int)) (-2 ^ 63)
      else if b = 43 then min (digitsValue 0 bs : Int) (2 ^ 63 - 1)
      else min (digitsValue 0 (b :: bs) : Int) (2 ^ 63 - 1)

/-- White space and digits are a number, if no digit follows. -/
theorem strtol_digits {front digits back : List UInt8}
    (hfront : ∀ c ∈ front, c = 32 ∨ (9 ≤ c ∧ c ≤ 13)) (hne : digits ≠ [])
    (hdigits : ∀ c ∈ digits, 48 ≤ c.toNat ∧ c.toNat ≤ 57)
    (hback : ∀ c ∈ back.head?, ¬ (48 ≤ c.toNat ∧ c.toNat ≤ 57)) :
    strtol (front ++ (digits ++ back)) = min (digitsValue 0 digits : Int) (2 ^ 63 - 1) := by
  obtain ⟨d, ds, rfl⟩ := List.exists_cons_of_ne_nil hne
  have hd := hdigits d List.mem_cons_self
  have hspace : ¬ (d = 32 ∨ (9 ≤ d ∧ d ≤ 13)) := by
    rintro (rfl | ⟨-, hle⟩)
    · exact absurd hd.1 (by decide)
    · have hle' : d.toNat ≤ 13 := hle
      omega
  have hdrop : (front ++ (d :: ds ++ back)).dropWhile (fun b => b = 32 ∨ (9 ≤ b ∧ b ≤ 13))
      = d :: (ds ++ back) := by
    have hpos : ∀ rest : List UInt8,
        (front ++ rest).dropWhile (fun b => b = 32 ∨ (9 ≤ b ∧ b ≤ 13))
          = rest.dropWhile (fun b => b = 32 ∨ (9 ≤ b ∧ b ≤ 13)) := fun _ =>
      List.dropWhile_append_of_pos (fun c hc => decide_eq_true (hfront c hc))
    rw [List.cons_append, hpos, List.dropWhile_cons_of_neg]
    exact decide_eq_true_iff.not.mpr hspace
  have hsign : ∀ s : UInt8, s.toNat < 48 → d ≠ s := by
    rintro s hs rfl
    omega
  unfold strtol
  rw [hdrop]
  simp only
  rw [if_neg (hsign 45 (by decide)), if_neg (hsign 43 (by decide)), ← List.cons_append,
    digitsValue_append 0 _ hback]

/-- `atoi(value)`, which is `strtol` cut to an `int`. -/
def atoi (value : List UInt8) : Int := (Int32.ofInt (strtol value)).toInt

/-- A digit of a base up to 16, as `%X` writes it. -/
def digitChar (d : Nat) : UInt8 := UInt8.ofNat (if d < 10 then 48 + d else 55 + d)

/-- The digit a character stands for. -/
def charDigit (c : UInt8) : Option Nat :=
  if 48 ≤ c ∧ c ≤ 57 then some (c.toNat - 48)
  else if 65 ≤ c ∧ c ≤ 70 then some (c.toNat - 55)
  else if 97 ≤ c ∧ c ≤ 102 then some (c.toNat - 87)
  else none

theorem charDigit_digitChar : ∀ d < 16, charDigit (digitChar d) = some d := by decide

/-- The numeral of `n` in a base: `%X` for 16, `%d` for 10. -/
def numeral (base n : Nat) : List UInt8 :=
  if n = 0 then [48] else ((Nat.digits base n).reverse).map digitChar

/-- The number at the head of a text, and the text behind its digits. -/
def readNumeral (base : Nat) : Nat → List UInt8 → Nat × List UInt8
  | n, [] => (n, [])
  | n, c :: s =>
      match charDigit c with
      | some d => if d < base then readNumeral base (base * n + d) s else (n, c :: s)
      | none => (n, c :: s)

/-- The text ends, or goes on with something other than a digit. -/
def NoDigit (s : List UInt8) : Prop := ∀ c ∈ s.head?, charDigit c = none

theorem readNumeral_digits {base : Nat} (hbase : base ≤ 16) {ds : List Nat}
    (hds : ∀ d ∈ ds, d < base) {rest : List UInt8} (hrest : NoDigit rest) (n : Nat) :
    readNumeral base n (ds.map digitChar ++ rest)
      = (ds.foldl (fun m d => base * m + d) n, rest) := by
  induction ds generalizing n with
  | nil =>
      cases rest with
      | nil => rfl
      | cons c rest =>
          have hc : charDigit c = none := hrest c rfl
          show readNumeral base n (c :: rest) = _
          rw [readNumeral, hc]
          rfl
  | cons d ds ih =>
      have hd : d < base := hds d (by simp)
      rw [List.map_cons, List.cons_append, readNumeral, charDigit_digitChar d (by omega)]
      simp only
      rw [if_pos hd, ih (fun e he => hds e (by simp [he]))]
      rfl

/-- **A numeral is read back**, whatever text follows that does not begin with a digit. -/
theorem readNumeral_numeral {base : Nat} (hlow : 2 ≤ base) (hbase : base ≤ 16) (n : Nat)
    {rest : List UInt8} (hrest : NoDigit rest) :
    readNumeral base 0 (numeral base n ++ rest) = (n, rest) := by
  unfold numeral
  split
  · next hzero =>
      have hdigit : ∀ d ∈ [0], d < base := by
        intro d hd
        rw [List.mem_singleton.mp hd]
        omega
      have hone := readNumeral_digits hbase hdigit hrest 0
      rw [hzero]
      exact hone
  · have hds : ∀ d ∈ (Nat.digits base n).reverse, d < base := by
      intro d hd
      exact Nat.digits_lt_base (by omega) (List.mem_reverse.mp hd)
    rw [readNumeral_digits hbase hds hrest, List.foldl_reverse]
    congr 1
    calc ((Nat.digits base n).foldr (fun d m => base * m + d) 0)
        = (Nat.digits base n).foldr (fun d m => d + base * m) 0 := by
          congr 1
          funext d m
          exact Nat.add_comm _ _
      _ = Nat.ofDigits base (Nat.digits base n) := (Nat.ofDigits_eq_foldr base _).symm
      _ = n := Nat.ofDigits_digits base n

theorem numeral_ne_nil (base n : Nat) : numeral base n ≠ [] := by
  unfold numeral
  split
  · exact List.cons_ne_nil _ _
  · next hzero =>
      intro h
      rw [List.map_eq_nil_iff, List.reverse_eq_nil_iff] at h
      exact Nat.digits_ne_nil_iff_ne_zero.mpr hzero h

theorem charDigit_of_mem_numeral {base n : Nat} (hlow : 2 ≤ base) (hbase : base ≤ 16) {c : UInt8}
    (h : c ∈ numeral base n) : (charDigit c).isSome := by
  unfold numeral at h
  split at h
  · rw [List.mem_singleton.mp h]
    rfl
  · obtain ⟨d, hd, rfl⟩ := List.mem_map.mp h
    have hlt := Nat.digits_lt_base (by omega) (List.mem_reverse.mp hd)
    rw [charDigit_digitChar d (by omega)]
    rfl

theorem toNat_digitChar : ∀ d < 10, (digitChar d).toNat = 48 + d := by decide

/-- Decimal digits are read as `strtol` reads them. -/
theorem digitsValue_digits {ds : List Nat} (hds : ∀ d ∈ ds, d < 10) (n : Nat) :
    digitsValue n (ds.map digitChar) = ds.foldl (fun m d => 10 * m + d) n := by
  induction ds generalizing n with
  | nil => rfl
  | cons d ds ih =>
      rw [List.forall_mem_cons] at hds
      have hd := toNat_digitChar d hds.1
      rw [List.map_cons, digitsValue, if_pos (by omega), hd, ih hds.2, List.foldl_cons]
      congr 1
      omega

/-- A decimal numeral has its value. -/
theorem digitsValue_numeral (n : Nat) : digitsValue 0 (numeral 10 n) = n := by
  unfold numeral
  split
  · next hzero =>
      rw [hzero]
      rfl
  · have hds : ∀ d ∈ (Nat.digits 10 n).reverse, d < 10 := by
      intro d hd
      exact Nat.digits_lt_base (by omega) (List.mem_reverse.mp hd)
    rw [digitsValue_digits hds, List.foldl_reverse]
    calc ((Nat.digits 10 n).foldr (fun d m => 10 * m + d) 0)
        = (Nat.digits 10 n).foldr (fun d m => d + 10 * m) 0 := by
          congr 1
          funext d m
          exact Nat.add_comm _ _
      _ = Nat.ofDigits 10 (Nat.digits 10 n) := (Nat.ofDigits_eq_foldr 10 _).symm
      _ = n := Nat.ofDigits_digits 10 n

theorem digit_of_mem_numeral {n : Nat} {c : UInt8} (h : c ∈ numeral 10 n) :
    48 ≤ c.toNat ∧ c.toNat ≤ 57 := by
  unfold numeral at h
  split at h
  · rw [List.mem_singleton.mp h]
    decide
  · obtain ⟨d, hd, rfl⟩ := List.mem_map.mp h
    have hlt := Nat.digits_lt_base (show 1 < 10 by omega) (List.mem_reverse.mp hd)
    rw [toNat_digitChar d hlt]
    omega

/-- `atoi` reads a numeral that an `int` holds. -/
theorem atoi_numeral {n : Nat} (hn : n < 2 ^ 31) : atoi (numeral 10 n) = n := by
  have hread := @strtol_digits [] (numeral 10 n) [] (fun c hc => by cases hc)
    (numeral_ne_nil 10 n) (fun c hc => digit_of_mem_numeral hc) (fun c hc => by cases hc)
  rw [List.nil_append, List.append_nil, digitsValue_numeral] at hread
  rw [atoi, hread, Int32.toInt_ofInt_of_le]
  · omega
  · omega
  · omega

/-- The numeral of a signed number: `%d`. -/
def signedNumeral (n : Int) : List UInt8 :=
  if n < 0 then 45 :: numeral 10 n.natAbs else numeral 10 n.natAbs

/-- The signed number at the head of a text. -/
def readSigned : List UInt8 → Int
  | 45 :: s => -((readNumeral 10 0 s).1 : Int)
  | s => (readNumeral 10 0 s).1

theorem readSigned_signedNumeral (n : Int) {rest : List UInt8} (hrest : NoDigit rest) :
    readSigned (signedNumeral n ++ rest) = n := by
  have hread := readNumeral_numeral (show 2 ≤ 10 by decide) (by decide) n.natAbs hrest
  unfold signedNumeral
  by_cases hneg : n < 0
  · rw [if_pos hneg, List.cons_append, readSigned, hread]
    omega
  · rw [if_neg hneg]
    -- a numeral does not begin with a sign
    obtain ⟨c, s, hcons⟩ := List.exists_cons_of_ne_nil (numeral_ne_nil 10 n.natAbs)
    have hdigit : (charDigit c).isSome := by
      have hmem : c ∈ numeral 10 n.natAbs := by
        rw [hcons]
        exact List.mem_cons_self
      exact charDigit_of_mem_numeral (by decide) (by decide) hmem
    have hsign : c ≠ 45 := by
      rintro rfl
      exact absurd hdigit (by decide)
    rw [hcons] at hread ⊢
    rw [List.cons_append] at hread ⊢
    rw [readSigned, hread]
    · omega
    · intro t ht
      exact hsign (List.cons.inj ht).1

/-- Numerals in front of something that is not a digit tell their numbers apart. -/
theorem signedNumeral_append_inj {m n : Int} {s t : List UInt8} (hs : NoDigit s) (ht : NoDigit t)
    (h : signedNumeral m ++ s = signedNumeral n ++ t) : m = n := by
  calc m = readSigned (signedNumeral m ++ s) := (readSigned_signedNumeral m hs).symm
    _ = readSigned (signedNumeral n ++ t) := by rw [h]
    _ = n := readSigned_signedNumeral n ht

end Halmos
