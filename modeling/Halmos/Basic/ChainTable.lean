import Mathlib.Tactic

set_option autoImplicit false

/-! # Hash tables with chains

A table is a list of chains, and an entry is looked up in the chain its key hashes to: the first
one with that key. What the operations do is said by `lookup` alone, key by key, so that nothing
behind this file has to look at a chain.
-/

namespace Halmos.ChainTable

variable {κ α : Type} [DecidableEq κ]

/-- The first entry with the key is changed. -/
def modifyFirst (key : α → κ) (k : κ) (f : α → α) : List α → List α
  | [] => []
  | a :: as => if key a = k then f a :: as else a :: modifyFirst key k f as

/-- The entry of a chain with the key. -/
def findKey (key : α → κ) (k : κ) (chain : List α) : Option α :=
  chain.find? (fun a => decide (key a = k))

/-- The entry of the table with the key. -/
def lookup (key : α → κ) (bucket : κ → Nat) (k : κ) (t : List (List α)) : Option α :=
  findKey key k (t.getD (bucket k) [])

section Chains

variable {key : α → κ} {k k' : κ} {f : α → α}

theorem findKey_cons (a : α) (as : List α) :
    findKey key k (a :: as) = if key a = k then some a else findKey key k as := by
  unfold findKey
  rw [List.find?_cons]
  by_cases ha : key a = k
  · rw [if_pos ha, decide_eq_true ha]
  · rw [if_neg ha, decide_eq_false ha]

theorem key_of_findKey {chain : List α} {a : α} (h : findKey key k chain = some a) : key a = k := by
  have hfound := List.find?_some h
  exact of_decide_eq_true hfound

theorem findKey_modifyFirst (hf : ∀ a, key (f a) = key a) (chain : List α) :
    findKey key k' (modifyFirst key k f chain)
      = if k' = k then (findKey key k chain).map f else findKey key k' chain := by
  induction chain with
  | nil => split <;> rfl
  | cons a as ih =>
      rw [modifyFirst, findKey_cons, findKey_cons]
      by_cases ha : key a = k
      · rw [if_pos ha, if_pos ha, findKey_cons, hf, ha]
        by_cases hk : k' = k
        · rw [if_pos hk, if_pos hk.symm, Option.map_some]
        · rw [if_neg hk, if_neg (Ne.symm hk), if_neg (Ne.symm hk)]
      · rw [if_neg ha, if_neg ha, findKey_cons, ih]
        by_cases hk : k' = k
        · rw [if_pos hk, if_pos hk, hk, if_neg ha]
        · rw [if_neg hk, if_neg hk]

theorem findKey_map (hf : ∀ a, key (f a) = key a) (chain : List α) :
    findKey key k (chain.map f) = (findKey key k chain).map f := by
  induction chain with
  | nil => rfl
  | cons a as ih =>
      rw [List.map_cons, findKey_cons, findKey_cons, hf, ih]
      split <;> rfl

end Chains

section Tables

variable {key : α → κ} {bucket : κ → Nat} {k k' : κ} {f : α → α} {t : List (List α)}

theorem key_of_lookup {a : α} (h : lookup key bucket k t = some a) : key a = k := key_of_findKey h

theorem getD_modify (i j : Nat) (g : List α → List α) (h : g [] = [] ∨ i < t.length) :
    (t.modify i g).getD j [] = if j = i then g (t.getD i []) else t.getD j [] := by
  rw [List.getD_eq_getElem?_getD, List.getD_eq_getElem?_getD, List.getD_eq_getElem?_getD,
    List.getElem?_modify]
  by_cases hj : j = i
  · subst hj
    rw [if_pos rfl]
    cases hget : t[j]? with
    | none =>
        rcases h with hnil | hlt
        · exact hnil.symm
        · rw [List.getElem?_eq_getElem hlt] at hget
          cases hget
    | some chain => exact if_pos rfl
  · rw [if_neg hj]
    cases t[j]? with
    | none => rfl
    | some chain => exact if_neg (Ne.symm hj)

/-- A change in the chain of the key. -/
theorem lookup_modify (hf : ∀ a, key (f a) = key a) :
    lookup key bucket k' (t.modify (bucket k) (modifyFirst key k f))
      = if k' = k then (lookup key bucket k t).map f else lookup key bucket k' t := by
  unfold lookup
  rw [getD_modify _ _ _ (Or.inl rfl)]
  by_cases hk : k' = k
  · rw [if_pos (congrArg bucket hk), if_pos hk, findKey_modifyFirst hf, if_pos hk]
  · rw [if_neg hk]
    split
    · next hb => rw [findKey_modifyFirst hf, if_neg hk, hb]
    · rfl

theorem getD_map (g : List α → List α) (hnil : g [] = []) (j : Nat) :
    (t.map g).getD j [] = g (t.getD j []) := by
  rw [List.getD_eq_getElem?_getD, List.getD_eq_getElem?_getD, List.getElem?_map]
  cases t[j]? with
  | none => exact hnil.symm
  | some chain => rfl

/-- The same change in every chain. -/
theorem lookup_map_modifyFirst (hf : ∀ a, key (f a) = key a) :
    lookup key bucket k' (t.map (modifyFirst key k f))
      = if k' = k then (lookup key bucket k t).map f else lookup key bucket k' t := by
  unfold lookup
  rw [getD_map _ rfl, findKey_modifyFirst hf]
  by_cases hk : k' = k
  · rw [if_pos hk, if_pos hk, hk]
  · rw [if_neg hk, if_neg hk]

/-- A change of every entry. -/
theorem lookup_map_map (hf : ∀ a, key (f a) = key a) :
    lookup key bucket k (t.map (List.map f)) = (lookup key bucket k t).map f := by
  unfold lookup
  rw [getD_map _ rfl, findKey_map hf]

/-- A new entry at the head of its chain. -/
theorem lookup_push {a : α} (hroom : bucket (key a) < t.length) :
    lookup key bucket k (t.modify (bucket (key a)) (fun chain => a :: chain))
      = if k = key a then some a else lookup key bucket k t := by
  unfold lookup
  rw [getD_modify _ _ _ (Or.inr hroom)]
  by_cases hk : k = key a
  · rw [if_pos (congrArg bucket hk), if_pos hk, findKey_cons, if_pos hk.symm]
  · rw [if_neg hk]
    split
    · next hb => rw [findKey_cons, if_neg (Ne.symm hk), hb]
    · rfl

end Tables

/-! ## The number of entries -/

section Sizes

variable {g : List α → List α}

theorem length_flatten_map (hg : ∀ chain, (g chain).length = chain.length) (t : List (List α)) :
    (t.map g).flatten.length = t.flatten.length := by
  induction t with
  | nil => rfl
  | cons chain t ih =>
      simp only [List.map_cons, List.flatten_cons, List.length_append, hg, ih]

theorem length_flatten_modify (hg : ∀ chain, (g chain).length = chain.length) (i : Nat)
    (t : List (List α)) : (t.modify i g).flatten.length = t.flatten.length := by
  induction t generalizing i with
  | nil => simp
  | cons chain t ih =>
      cases i with
      | zero => simp [hg]
      | succ i => simp [ih]

/-- A new entry at the head of a chain. -/
theorem length_flatten_push (a : α) {i : Nat} {t : List (List α)} (h : i < t.length) :
    (t.modify i (fun chain => a :: chain)).flatten.length = t.flatten.length + 1 := by
  induction t generalizing i with
  | nil => cases h
  | cons chain t ih =>
      cases i with
      | zero => simp
      | succ i =>
          have hrest := ih (Nat.lt_of_succ_lt_succ h)
          simp only [List.modify_succ_cons, List.flatten_cons, List.length_append, hrest]
          omega

end Sizes

end Halmos.ChainTable
