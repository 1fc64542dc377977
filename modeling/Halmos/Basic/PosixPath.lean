import Mathlib.Tactic

set_option autoImplicit false

/-! # Canonical absolute paths

A path is a list of bytes. A canonical path is `/`, or the concatenation of `/name` for names
that are not empty, not `.` or `..`, and contain no slash. `InSubtree root p` says that the
canonical path `p` is `root` or lies below it. `resolve` resolves a path in a file system
without symbolic links, given by the list of its entries; what it returns is canonical.
-/

namespace Halmos.PosixPath

abbrev Path := List UInt8

def slash : UInt8 := 47
def dot : UInt8 := 46

/-- A name of a directory entry. -/
structure IsName (c : Path) : Prop where
  ne_nil : c ≠ []
  no_slash : slash ∉ c
  ne_dot : c ≠ [dot]
  ne_dotdot : c ≠ [dot, dot]

/-- The path with the given components. -/
def render : List Path → Path
  | [] => [slash]
  | c :: cs => (c :: cs).flatMap (fun c => slash :: c)

/-- No `.`, no `..`, no doubled and no trailing slash, and absolute. -/
def Canonical (p : Path) : Prop := ∃ cs, (∀ c ∈ cs, IsName c) ∧ p = render cs

/-- `p` is `root` or has it as an ancestor. Everything is below `/`. -/
def InSubtree (root p : Path) : Prop :=
  p = root ∨ (if root = [slash] then [slash] else root ++ [slash]) <+: p

theorem Canonical.eq_cons {p : Path} (h : Canonical p) : ∃ t, p = slash :: t := by
  obtain ⟨cs, -, rfl⟩ := h
  cases cs with
  | nil => exact ⟨[], rfl⟩
  | cons c cs => exact ⟨c ++ cs.flatMap (fun c => slash :: c), rfl⟩

/-- Only `/` itself ends with a slash. -/
theorem Canonical.getLast?_ne {p : Path} (h : Canonical p) (hp : p ≠ [slash]) :
    p.getLast? ≠ some slash := by
  obtain ⟨cs, hcs, rfl⟩ := h
  cases hsplit : cs.reverse with
  | nil =>
      rw [List.reverse_eq_nil_iff] at hsplit
      subst hsplit
      exact absurd rfl hp
  | cons last rest =>
      -- the last byte of the path is the last byte of its last component
      have heq : cs = rest.reverse ++ [last] := by
        rw [← List.reverse_reverse cs, hsplit, List.reverse_cons]
      have hname : IsName last := hcs last (by rw [heq]; simp)
      have hrender : render cs = rest.reverse.flatMap (fun c => slash :: c) ++ slash :: last := by
        cases cs with
        | nil => simp at heq
        | cons c cs =>
            show (c :: cs).flatMap _ = _
            rw [heq]
            simp
      rw [hrender, List.getLast?_append, List.getLast?_cons]
      obtain ⟨b, hb⟩ := List.getLast?_isSome.mpr hname.ne_nil |> Option.isSome_iff_exists.mp
      rw [hb]
      intro hcon
      have hbs : b = slash := by simpa using hcon
      exact hname.no_slash (hbs ▸ List.mem_of_getLast? hb)

/-! ## File systems without symbolic links -/

/-- The pieces between slashes, `acc` being the piece begun so far. -/
def pieces : Path → Path → List Path
  | acc, [] => [acc]
  | acc, b :: bs => if b = slash then acc :: pieces [] bs else pieces (acc ++ [b]) bs

/-- The directory `dir` is left along the pieces of a path: empty pieces and `.` stay, `..`
goes up, and a name must be an entry. -/
def walk (entries : List (List Path)) : List Path → List Path → Option (List Path)
  | dir, [] => some dir
  | dir, c :: cs =>
      if c = [] ∨ c = [dot] then walk entries dir cs
      else if c = [dot, dot] then walk entries dir.dropLast cs
      else if dir ++ [c] ∈ entries then walk entries (dir ++ [c]) cs
      else none

/-- The canonical path of an existing entry. -/
def resolve (entries : List (List Path)) (p : Path) : Option Path :=
  (walk entries [] (pieces [] p)).map render

theorem pieces_no_slash {acc p : Path} (hacc : slash ∉ acc) :
    ∀ c ∈ pieces acc p, slash ∉ c := by
  induction p generalizing acc with
  | nil =>
      intro c hc
      rw [pieces, List.mem_singleton] at hc
      rwa [hc]
  | cons b bs ih =>
      intro c hc
      rw [pieces] at hc
      by_cases hb : b = slash
      · rw [if_pos hb] at hc
        rcases List.mem_cons.mp hc with rfl | hc
        · exact hacc
        · exact ih (by simp) c hc
      · rw [if_neg hb] at hc
        refine ih ?_ c hc
        intro hmem
        rcases List.mem_append.mp hmem with hmem | hmem
        · exact hacc hmem
        · exact hb (List.mem_singleton.mp hmem).symm

theorem walk_names {entries : List (List Path)} {dir cs dir' : List Path}
    (hdir : ∀ c ∈ dir, IsName c) (hcs : ∀ c ∈ cs, slash ∉ c)
    (h : walk entries dir cs = some dir') : ∀ c ∈ dir', IsName c := by
  induction cs generalizing dir with
  | nil =>
      injection h with h
      rwa [← h]
  | cons c cs ih =>
      have hrest : ∀ c ∈ cs, slash ∉ c := fun c hc => hcs c (by simp [hc])
      rw [walk] at h
      by_cases hstay : c = [] ∨ c = [dot]
      · rw [if_pos hstay] at h
        exact ih hdir hrest h
      · rw [if_neg hstay] at h
        by_cases hup : c = [dot, dot]
        · rw [if_pos hup] at h
          exact ih (fun d hd => hdir d (List.mem_of_mem_dropLast hd)) hrest h
        · rw [if_neg hup] at h
          by_cases hent : dir ++ [c] ∈ entries
          · rw [if_pos hent] at h
            refine ih (fun d hd => ?_) hrest h
            rcases List.mem_append.mp hd with hd | hd
            · exact hdir d hd
            · rw [List.mem_singleton.mp hd]
              exact ⟨fun h0 => hstay (Or.inl h0), hcs c (by simp),
                fun h1 => hstay (Or.inr h1), hup⟩
          · rw [if_neg hent] at h
            cases h

theorem resolve_canonical {entries : List (List Path)} {p r : Path}
    (h : resolve entries p = some r) : Canonical r := by
  obtain ⟨cs, hwalk, hr⟩ := Option.map_eq_some_iff.mp h
  exact ⟨cs, walk_names (by simp) (pieces_no_slash (by simp)) hwalk, hr.symm⟩

end Halmos.PosixPath
