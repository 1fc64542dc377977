import Mathlib.Data.List.DropRight
import Halmos.Basic.Buffer
import Halmos.Basic.CString

set_option autoImplicit false

/-! # Searching texts that are put together

What `strstr`, `strchr` and the trimming of blanks find in a text of known pieces: a search for a
text that begins with `c` skips every piece without `c`.
-/

namespace Halmos

variable {a s t w : List UInt8} {c : UInt8}

theorem strstr_isSome_iff {needle s : List UInt8} :
    (strstr needle s).isSome = true ↔ needle <:+: s := by
  induction s with
  | nil =>
      rw [strstr, List.infix_nil]
      split <;> simp [*]
  | cons c s ih =>
      rw [strstr, List.infix_cons_iff]
      split
      · next h => simp [h]
      · next h => simp [h, ih]

theorem strcasestr_isSome_iff {needle s : List UInt8} :
    (strcasestr needle s).isSome = true ↔ needle.map toLower <:+: s.map toLower := by
  rw [strcasestr, Option.isSome_map, strstr_isSome_iff]

/-- `strstr` gives the first occurrence. -/
theorem strstr_first {needle s before found b after : List UInt8}
    (h : strstr needle s = some (before, found)) (hs : s = b ++ (needle ++ after)) :
    before.length ≤ b.length := by
  induction s generalizing before b with
  | nil =>
      obtain ⟨hsplit, -⟩ := strstr_sound h
      obtain ⟨rfl, -⟩ := List.append_eq_nil_iff.mp hsplit.symm
      exact Nat.zero_le _
  | cons c s ih =>
      rw [strstr] at h
      split at h
      · cases h
        exact Nat.zero_le _
      · next hno =>
          obtain ⟨⟨before', found'⟩, hrec, heq⟩ := Option.map_eq_some_iff.mp h
          cases heq
          cases b with
          | nil => exact absurd (hs ▸ List.prefix_append needle after) hno
          | cons c' b =>
              have hs' : s = b ++ (needle ++ after) := (List.cons.inj hs).2
              simpa using ih hrec hs'

/-- The first place of a text in another, from a position on. -/
structure FirstAt (needle s : List UInt8) (pos i : Nat) : Prop where
  le : pos ≤ i
  there : needle <+: s.drop i
  first : ∀ j, pos ≤ j → j < i → ¬ needle <+: s.drop j

theorem FirstAt.self {needle s : List UInt8} {i : Nat} (h : needle <+: s.drop i) :
    FirstAt needle s i i :=
  ⟨le_rfl, h, fun _ hj hlt => absurd hlt (not_lt.mpr hj)⟩

theorem FirstAt.unique {needle s : List UInt8} {pos i j : Nat} (hi : FirstAt needle s pos i)
    (hj : FirstAt needle s pos j) : i = j := by
  by_contra hne
  rcases Nat.lt_or_gt_of_ne hne with hlt | hlt
  · exact hj.first i hi.le hlt hi.there
  · exact hi.first j hj.le hlt hj.there

/-- What is found from a position on is at the first place from there. -/
theorem FirstAt.of_strstr {needle s before found : List UInt8} {pos : Nat}
    (h : strstr needle (s.drop pos) = some (before, found)) :
    FirstAt needle s pos (pos + before.length) := by
  obtain ⟨hsplit, hpre⟩ := strstr_sound h
  refine ⟨Nat.le_add_right _ _, ?_, fun j hle hlt hthere => ?_⟩
  · rw [← List.drop_drop, hsplit, List.drop_left]
    exact hpre
  · obtain ⟨after, hafter⟩ := hthere
    have hdrop : s.drop pos = (s.drop pos).take (j - pos) ++ (needle ++ after) := by
      rw [hafter, show s.drop j = (s.drop pos).drop (j - pos) by
        rw [List.drop_drop, Nat.add_sub_cancel' hle], List.take_append_drop]
    have hmin := strstr_first h hdrop
    have hlen : ((s.drop pos).take (j - pos)).length ≤ j - pos := List.length_take_le _ _
    omega

/-- A text that is there is found. -/
theorem FirstAt.strstr_isSome {needle s : List UInt8} {pos i : Nat} (h : FirstAt needle s pos i) :
    (strstr needle (s.drop pos)).isSome = true := by
  rw [strstr_isSome_iff]
  have hdrop : s.drop i = (s.drop pos).drop (i - pos) := by
    rw [List.drop_drop, Nat.add_sub_cancel' h.le]
  exact (hdrop ▸ h.there).isInfix.trans (List.drop_suffix _ _).isInfix

/-- Where a text that is not empty is, there is room for it. -/
theorem FirstAt.bound {needle s : List UInt8} {pos i : Nat} (h : FirstAt needle s pos i)
    (hne : needle ≠ []) : i + needle.length ≤ s.length := by
  have hle := h.there.length_le
  have hpos := List.length_pos_iff.mpr hne
  rw [List.length_drop] at hle
  omega

/-- A piece without the first character of what is searched for is skipped. -/
theorem strstr_skip (h : c ∉ a) (needle s : List UInt8) :
    strstr (c :: needle) (a ++ s)
      = (strstr (c :: needle) s).map (fun r => (a ++ r.1, r.2)) := by
  induction a with
  | nil => simp
  | cons b a ih =>
      rw [List.mem_cons, not_or] at h
      have hno : ¬ c :: needle <+: b :: (a ++ s) := fun hpre =>
        h.1 (List.cons_prefix_cons.mp hpre).1
      rw [List.cons_append, strstr, if_neg hno, ih h.2, Option.map_map]
      rfl

/-- A text in which nothing is found, up to a byte that is not in what is looked for. -/
theorem strstr_past {needle a b : List UInt8} {sep : UInt8} (hne : needle ≠ [])
    (hsep : sep ∉ needle) (h : strstr needle a = none) :
    strstr needle (a ++ sep :: b) = (strstr needle b).map (fun r => (a ++ sep :: r.1, r.2)) := by
  induction a with
  | nil =>
      have hno : ¬ needle <+: sep :: b := by
        rintro ⟨t, ht⟩
        cases needle with
        | nil => exact hne rfl
        | cons c needle =>
            have hc : c = sep := (List.cons.inj ht).1
            exact hsep (by rw [hc]; exact List.mem_cons_self)
      rw [List.nil_append, strstr, if_neg hno]
      rfl
  | cons c a ih =>
      rw [strstr] at h
      split at h
      · cases h
      · next hno =>
          have hrest : strstr needle a = none := Option.map_eq_none_iff.mp h
          have hno' : ¬ needle <+: c :: (a ++ sep :: b) := by
            intro hpre
            by_cases hlen : needle.length ≤ (c :: a).length
            · exact hno (prefix_of_prefix_append (s := c :: a) hpre hlen)
            · -- A longer one would have the byte in it.
              have hshort : (c :: a) ++ [sep] <+: needle := by
                apply List.prefix_of_prefix_length_le _ hpre
                · rw [List.length_append, List.length_singleton]
                  omega
                · exact ⟨b, by simp⟩
              apply hsep
              exact hshort.subset (List.mem_append_right _ List.mem_cons_self)
          rw [List.cons_append, strstr, if_neg hno', ih hrest, Option.map_map]
          rfl

theorem strstr_here {needle s : List UInt8} : strstr needle (needle ++ s) = some ([], needle ++ s) := by
  cases hcase : needle ++ s with
  | nil =>
      obtain ⟨rfl, -⟩ := List.append_eq_nil_iff.mp hcase
      rfl
  | cons b rest => exact if_pos (hcase ▸ List.prefix_append needle s)

theorem idxOf?_append (h : c ∉ a) (s : List UInt8) : (a ++ c :: s).idxOf? c = some a.length := by
  induction a with
  | nil => simp [List.idxOf?_cons]
  | cons b a ih =>
      rw [List.mem_cons, not_or] at h
      rw [List.cons_append, List.idxOf?_cons, if_neg (by simpa using Ne.symm h.1), ih h.2]
      rfl

theorem idxOf?_iff_append {i : Nat} :
    s.idxOf? c = some i ↔ ∃ a b, s = a ++ c :: b ∧ c ∉ a ∧ i = a.length := by
  constructor
  · intro h
    have hmem : c ∈ s := List.isSome_idxOf?.mp (by rw [h]; rfl)
    obtain ⟨a, b, rfl, ha⟩ := List.eq_append_cons_of_mem hmem
    exact ⟨a, b, rfl, ha, Option.some.inj (h.symm.trans (idxOf?_append ha b))⟩
  · rintro ⟨a, b, rfl, ha, rfl⟩
    exact idxOf?_append ha b

/-- A text that ends with the one `q` in it is found in front of the first `q`, or behind it. -/
theorem strstr_quote {k a s : List UInt8} {q : UInt8} (hk : q ∉ k) (ha : q ∉ a) :
    strstr (k ++ [q]) (a ++ q :: s) =
      if k <:+ a then some (a.take (a.length - k.length), k ++ q :: s)
      else (strstr (k ++ [q]) s).map (fun r => (a ++ q :: r.1, r.2)) := by
  induction a with
  | nil =>
      cases k with
      | nil =>
          have hhere : strstr [q] (q :: s) = some ([], q :: s) := strstr_here
          exact hhere.trans (if_pos List.suffix_rfl).symm
      | cons c k =>
          have hno : ¬ c :: k ++ [q] <+: q :: s := fun h =>
            hk ((List.cons_prefix_cons.mp h).1 ▸ List.mem_cons_self)
          rw [List.nil_append, strstr, if_neg hno, if_neg (by simp)]
          rfl
  | cons c a ih =>
      rw [List.mem_cons, not_or] at ha
      rw [List.cons_append, strstr]
      by_cases hall : k = c :: a
      · subst hall
        have hpre : c :: a ++ [q] <+: c :: (a ++ q :: s) := ⟨s, by simp⟩
        rw [if_pos hpre, if_pos List.suffix_rfl]
        simp
      · have hno : ¬ k ++ [q] <+: c :: (a ++ q :: s) := by
          rintro ⟨t, ht⟩
          rw [List.append_assoc, List.singleton_append, ← List.cons_append] at ht
          have hc : q ∉ c :: a := by simp [ha.1, ha.2]
          have hidx : some k.length = some (c :: a).length := by
            rw [← idxOf?_append hk t, ht, idxOf?_append hc s]
          exact hall (List.append_inj_left ht (Option.some.inj hidx))
        have hsuffix : k <:+ c :: a ↔ k <:+ a := by
          rw [List.suffix_cons_iff]
          simp [hall]
        rw [if_neg hno, ih ha.2]
        simp only [hsuffix]
        split
        · next hin =>
          have hlen := hin.length_le
          have hsub : (c :: a).length - k.length = a.length - k.length + 1 := by
            rw [List.length_cons]
            omega
          rw [Option.map_some, hsub, List.take_succ_cons]
        · rw [Option.map_map]
          rfl

theorem set_append_cons {n : Nat} (hn : a.length = n) (b x : UInt8) (s : List UInt8) :
    (a ++ b :: s).set n x = a ++ x :: s := by
  rw [← hn, List.set_append_right _ _ le_rfl, Nat.sub_self]
  rfl

theorem drop_append_cons {n : Nat} (hn : a.length = n) (b : UInt8) (s : List UInt8) :
    (a ++ b :: s).drop (n + 1) = s := by
  simp [← hn]

theorem cstr_append_cons (h : 0 ∉ w) (rest : List UInt8) : cstr (w ++ 0 :: rest) = w := by
  rw [cstr_append_zero, cstr_of_notMem h]

/-! ## Parts of a text -/

theorem cstr_drop {s : List UInt8} {n : Nat} (h : n ≤ (cstr s).length) :
    cstr (s.drop n) = (cstr s).drop n := by
  induction n generalizing s with
  | zero => rfl
  | succ n ih =>
      cases s with
      | nil => simp
      | cons b s =>
          rw [cstr_cons] at h ⊢
          split at h
          · simp at h
          · next hb =>
            rw [if_neg hb, List.drop_succ_cons, List.drop_succ_cons]
            exact ih (by simpa using h)

theorem cstr_take (s : List UInt8) (n : Nat) : cstr (s.take n) = (cstr s).take n := by
  induction n generalizing s with
  | zero => simp
  | succ n ih =>
      cases s with
      | nil => simp
      | cons b s =>
          rw [List.take_succ_cons, cstr_cons, cstr_cons, ih]
          split <;> simp

/-- With a NUL put into it, a text ends there. -/
theorem cstr_set_zero {s : List UInt8} {n : Nat} (h : n < s.length) :
    cstr (s.set n 0) = (cstr s).take n := by
  rw [List.set_eq_take_append_cons_drop, if_pos h, cstr_append_zero, cstr_take]

/-! ## Blanks -/

/-- A text without the blanks in front of it and behind it. -/
def trim (s : List UInt8) : List UInt8 :=
  (s.dropWhile (fun c => c = 0x20)).rdropWhile (fun c => c = 0x20)

theorem infix_dropWhile (hw : ∀ b ∈ w.head?, b ≠ c) (hne : w ≠ []) :
    w <:+: s.dropWhile (fun b => b = c) ↔ w <:+: s := by
  induction s with
  | nil => rfl
  | cons b s ih =>
      rw [List.dropWhile_cons]
      split
      · next hb =>
        rw [ih, List.infix_cons_iff]
        refine ⟨.inr, fun h => h.resolve_left fun hpre => ?_⟩
        cases w with
        | nil => exact hne rfl
        | cons d w =>
            have hd : d = b := (List.cons_prefix_cons.mp hpre).1
            have hbc : b = c := by simpa using hb
            exact hw d rfl (hd.trans hbc)
      · rfl

theorem infix_rdropWhile (hw : c ∉ w) (hne : w ≠ []) :
    w <:+: s.rdropWhile (fun b => b = c) ↔ w <:+: s := by
  have hrev : ∀ b ∈ w.reverse.head?, b ≠ c := by
    intro b hb
    have hmem : b ∈ w := List.mem_reverse.mp (List.mem_of_mem_head? hb)
    rintro rfl
    exact hw hmem
  rw [List.rdropWhile, ← List.reverse_infix, List.reverse_reverse,
    infix_dropWhile hrev (by simpa using hne), List.reverse_infix]

/-- What has no blanks is in a text if it is in the trimmed one. -/
theorem infix_trim (hw : 0x20 ∉ w) (hne : w ≠ []) : w <:+: trim s ↔ w <:+: s := by
  have hhead : ∀ b ∈ w.head?, b ≠ 0x20 := by
    intro b hb
    rintro rfl
    exact hw (List.mem_of_mem_head? hb)
  rw [trim, infix_rdropWhile hw hne, infix_dropWhile hhead hne]

/-- Leaving out stops at the latest in front of an element that stays. -/
theorem dropWhile_append_cons {α : Type} {p : α → Bool} {x : α} (hx : ¬ p x = true)
    (front rest : List α) :
    (front ++ x :: rest).dropWhile p = front.dropWhile p ++ x :: rest := by
  induction front with
  | nil => exact List.dropWhile_cons_of_neg hx
  | cons y front ih =>
      rw [List.cons_append, List.dropWhile_cons, List.dropWhile_cons, ih]
      split <;> rfl

/-- Blanks around a text without blanks. -/
theorem trim_append {front text back : List UInt8} (hne : text ≠ []) (h : ∀ b ∈ text, ¬ b = 0x20) :
    trim (front ++ (text ++ back)) = front.dropWhile (fun b => b = 0x20)
      ++ (text ++ back.rdropWhile (fun b => b = 0x20)) := by
  have hstays : ∀ b ∈ text, ¬ decide (b = 0x20) = true := fun b hb => by simpa using h b hb
  obtain ⟨first, more, hfirst⟩ := List.exists_cons_of_ne_nil hne
  obtain ⟨init, last, hlast⟩ := List.exists_cons_of_ne_nil (List.reverse_ne_nil_iff.mpr hne)
  have hdrop := dropWhile_append_cons (p := fun b => b = 0x20) (hstays first (by simp [hfirst])) front (more ++ back)
  have hmem : init ∈ text := List.mem_reverse.mp (hlast ▸ List.mem_cons_self)
  have hrdrop := dropWhile_append_cons (p := fun b => b = 0x20) (hstays init hmem)
    back.reverse (last ++ (front.dropWhile (fun b => b = 0x20)).reverse)
  rw [← List.cons_append, ← hlast] at hrdrop
  rw [trim, hfirst, List.cons_append, hdrop, ← List.cons_append, ← hfirst, List.rdropWhile,
    List.reverse_append, List.reverse_append, List.append_assoc, hrdrop]
  simp [List.rdropWhile]

end Halmos
