import Halmos.Basic.CString
import Mathlib.Data.List.TakeWhile

set_option autoImplicit false

/-! # Tokens and lines

What `strtok` finds in a string, call after call: the parts between separators, of which none is
empty. A call skips the separators in front, and the rest of the string is that behind the separator
that ends the token (`tokens_eq`). A list of parts without separators is read back from the string
that joins them (`tokens_intercalate`), and so are the lines of a file that have room in the array
of `fgets` (`fgetsLines_lines`).
-/

namespace Halmos

variable {α : Type} [DecidableEq α] {sep : α} {token : List α}

/-- The parts of a list between separators, without the empty ones. -/
def tokens (sep : α) (s : List α) : List (List α) :=
  (s.splitOn sep).filter (fun token => token ≠ [])

@[simp] theorem tokens_nil : tokens sep [] = [] := by simp [tokens]

@[simp] theorem tokens_cons_sep (s : List α) : tokens sep (sep :: s) = tokens sep s := by
  simp [tokens, List.splitOn_cons_eq_if_modifyHead]

/-- A token at the end. -/
theorem tokens_self (hne : token ≠ []) (h : sep ∉ token) : tokens sep token = [token] := by
  simp [tokens, List.splitOn_eq_singleton h, hne]

/-- A token with a separator behind it. -/
theorem tokens_append_sep (hne : token ≠ []) (h : sep ∉ token) (s : List α) :
    tokens sep (token ++ sep :: s) = token :: tokens sep s := by
  simp [tokens, List.splitOn_append_cons_self_of_not_mem h, hne]

/-- What is in front of the first separator. -/
theorem takeWhile_cons_of_notMem (h : sep ∉ token) (s : List α) :
    (token ++ sep :: s).takeWhile (fun c => c ≠ sep) = token := by
  have hall : ∀ c ∈ token, decide (c ≠ sep) = true := by
    intro c hc
    have hne : c ≠ sep := by
      rintro rfl
      exact h hc
    simp [hne]
  rw [List.takeWhile_append_of_pos hall]
  simp

theorem idxOf?_cons_of_notMem (h : sep ∉ token) (s : List α) :
    (token ++ sep :: s).idxOf? sep = some token.length := by
  induction token with
  | nil => simp [List.idxOf?_cons]
  | cons c token ih =>
      rw [List.mem_cons, not_or] at h
      simp [List.idxOf?_cons, Ne.symm h.1, ih h.2]

theorem takeWhile_of_notMem (h : sep ∉ token) : token.takeWhile (fun c => c ≠ sep) = token := by
  rw [List.takeWhile_eq_self_iff]
  intro c hc
  have hne : c ≠ sep := by
    rintro rfl
    exact h hc
  simp [hne]

theorem notMem_takeWhile_ne (s : List α) : sep ∉ s.takeWhile (fun c => c ≠ sep) := by
  intro hmem
  have hne := List.mem_takeWhile_imp hmem
  simp at hne

/-- A call of `strtok`. -/
theorem tokens_eq (sep : α) (s : List α) :
    tokens sep s =
      let left := s.dropWhile (fun c => c = sep)
      if left = [] then []
      else
        let token := left.takeWhile (fun c => c ≠ sep)
        token :: tokens sep (left.drop (token.length + 1)) := by
  induction s with
  | nil => simp
  | cons c s ih =>
      by_cases hc : c = sep
      · rw [hc, tokens_cons_sep, ih]
        simp
      · have hleft : (c :: s).dropWhile (fun c => c = sep) = c :: s := by simp [hc]
        simp only [hleft, reduceCtorEq, if_false]
        have hsplit : (c :: s).takeWhile (fun c => c ≠ sep) ++ (c :: s).dropWhile (fun c => c ≠ sep)
            = c :: s := List.takeWhile_append_dropWhile
        have hne : (c :: s).takeWhile (fun c => c ≠ sep) ≠ [] := by simp [hc]
        have hno : sep ∉ (c :: s).takeWhile (fun c => c ≠ sep) := notMem_takeWhile_ne _
        have hfirst : ∀ b ∈ ((c :: s).dropWhile (fun c => c ≠ sep)).head?, b = sep := by
          intro b hb
          have hstop := List.head?_dropWhile_not (fun c => c ≠ sep) (c :: s)
          rw [Option.mem_def.mp hb] at hstop
          simpa using hstop
        generalize (c :: s).takeWhile (fun c => c ≠ sep) = token at hsplit hne hno
        generalize (c :: s).dropWhile (fun c => c ≠ sep) = rest at hsplit hfirst
        rw [← hsplit]
        cases rest with
        | nil =>
            have hend : token.drop (token.length + 1) = [] := List.drop_eq_nil_of_le (Nat.le_succ _)
            rw [List.append_nil, hend, tokens_self hne hno, tokens_nil]
        | cons b rest =>
            obtain rfl := hfirst b rfl
            have hrest : (token ++ b :: rest).drop (token.length + 1) = rest := by
              rw [List.drop_length_add_append]
              rfl
            rw [tokens_append_sep hne hno, hrest]

omit [DecidableEq α] in
theorem notMem_intercalate {b : α} (hb : b ≠ sep) {parts : List (List α)}
    (h : ∀ part ∈ parts, b ∉ part) : b ∉ List.intercalate [sep] parts := by
  induction parts with
  | nil => simp
  | cons part parts ih =>
      rw [List.forall_mem_cons] at h
      cases parts with
      | nil => simpa using h.1
      | cons next parts =>
          simp only [List.intercalate_cons_cons, List.mem_append, List.mem_singleton, not_or]
          exact ⟨⟨h.1, hb⟩, ih h.2⟩

/-- What joins parts without separators is read back. -/
theorem tokens_intercalate {parts : List (List α)} (h : ∀ part ∈ parts, part ≠ [] ∧ sep ∉ part) :
    tokens sep (List.intercalate [sep] parts) = parts := by
  induction parts with
  | nil => simp
  | cons part parts ih =>
      rw [List.forall_mem_cons] at h
      cases parts with
      | nil => simpa using tokens_self h.1.1 h.1.2
      | cons next parts =>
          rw [List.intercalate_cons_cons, List.append_assoc, List.singleton_append,
            tokens_append_sep h.1.1 h.1.2, ih h.2]

/-- The lines of a file, if each of them and its end have room. -/
theorem fgetsLines_lines {room : Nat} {lines : List (List UInt8)}
    (h : ∀ line ∈ lines, 0x0A ∉ line ∧ line.length < room) :
    fgetsLines room [] (lines.flatMap fun line => line ++ [0x0A])
      = lines.map fun line => line ++ [0x0A] := by
  have hline {read line : List UInt8} (hno : 0x0A ∉ line) (hlen : read.length + line.length < room)
      (rest : List UInt8) : fgetsLines room read (line ++ 0x0A :: rest)
        = (read ++ line ++ [0x0A]) :: fgetsLines room [] rest := by
    induction line generalizing read with
    | nil => simp [fgetsLines]
    | cons c line ih =>
        rw [List.mem_cons, not_or] at hno
        rw [List.length_cons] at hlen
        have hgo : ¬ (c = 0x0A ∨ read.length + 1 = room) := by
          rintro (rfl | hfull)
          · exact hno.1 rfl
          · omega
        rw [List.cons_append, fgetsLines, if_neg hgo, ih hno.2]
        · simp
        · simp only [List.length_append, List.length_cons, List.length_nil]
          omega
  induction lines with
  | nil => rfl
  | cons line lines ih =>
      rw [List.forall_mem_cons] at h
      rw [List.flatMap_cons, List.append_assoc, List.singleton_append,
        hline h.1.1 (by simpa using h.1.2), ih h.2, List.map_cons, List.nil_append]

end Halmos
