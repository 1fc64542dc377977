import Mathlib.Tactic

set_option autoImplicit false

/-! # Values that are read again when their source is newer

A reader keeps a value with the time stamp of the source it comes from, and reads the source again
only if it has a later stamp. When the source is gone, the value becomes the empty one and any stamp
is later; but a reader whose value is empty already does not notice.

After every look at the source the reader has its value exactly if each source that is found has a
later stamp than the one that was read last, or the same value (`refreshes_iff`).
-/

namespace Halmos

/-- A value and the stamp of its source. -/
structure Stamped (β : Type) where
  value : β
  stamp : Int

section Refresh

variable {β : Type} [DecidableEq β] {empty : β}

/-- A look at the source, which is gone or has a stamp and a value. -/
def Stamped.refresh (empty : β) (k : Stamped β) : Option (Int × β) → Stamped β
  | some (stamp, value) => if k.stamp < stamp then ⟨value, stamp⟩ else k
  | none => if k.value = empty then k else ⟨empty, 0⟩

/-- What the reader has after each of the looks. -/
def Stamped.refreshes (empty : β) (k : Stamped β) : List (Option (Int × β)) → List (Stamped β)
  | [] => []
  | source :: sources =>
      k.refresh empty source :: (k.refresh empty source).refreshes empty sources

/-- The value of a source. -/
def sourceValue (empty : β) (source : Option (Int × β)) : β := source.elim empty Prod.snd

/-- Each source that is found has a later stamp than the one that was read last, if there is one, or
the same value. A source is forgotten when it is gone, unless its value was the empty one. -/
def Discerned (empty : β) : Option (Int × β) → List (Option (Int × β)) → Prop
  | _, [] => True
  | none, none :: sources => Discerned empty none sources
  | some read, none :: sources =>
      Discerned empty (if read.2 = empty then some read else none) sources
  | none, some source :: sources => Discerned empty (some source) sources
  | some read, some source :: sources => (read.1 < source.1 ∨ read.2 = source.2) ∧
      Discerned empty (some (if read.1 < source.1 then source else read)) sources

/-- The reader has the value and the stamp of the source that it read last. -/
structure Stamped.Of (empty : β) (k : Stamped β) (read : Option (Int × β)) : Prop where
  value : k.value = sourceValue empty read
  stamp : k.stamp = read.elim 0 Prod.fst

/-- **Freshness**: the reader has the value of the source after every look at it exactly if changes
of the source can be discerned by its stamps. -/
theorem Stamped.refreshes_iff {k : Stamped β} {read : Option (Int × β)} (hk : k.Of empty read)
    {sources : List (Option (Int × β))} (hpos : ∀ s ∈ sources, ∀ p ∈ s, 0 < p.1) :
    (∀ p ∈ sources.zip (k.refreshes empty sources), p.2.value = sourceValue empty p.1)
      ↔ Discerned empty read sources := by
  induction sources generalizing k read with
  | nil => simp [Discerned]
  | cons source sources ih =>
      rw [List.forall_mem_cons] at hpos
      rw [Stamped.refreshes, List.zip_cons_cons, List.forall_mem_cons]
      obtain ⟨hpos, hrest⟩ := hpos
      cases source with
      | none =>
          have hgone : (k.refresh empty none).value = sourceValue empty none := by
            simp only [refresh]
            split
            · next hempty => exact hempty
            · rfl
          rw [and_iff_right hgone]
          cases read with
          | none =>
              have hsame : k.refresh empty none = k := if_pos hk.value
              rw [hsame, ih hk hrest, Discerned]
          | some r =>
              have hvalue : k.value = r.2 := hk.value
              rw [Discerned]
              by_cases hempty : r.2 = empty
              · have hsame : k.refresh empty none = k := if_pos (hvalue.trans hempty)
                rw [hsame, ih hk hrest, if_pos hempty]
              · have hnew : k.refresh empty none = ⟨empty, 0⟩ := if_neg (hvalue ▸ hempty)
                rw [hnew, if_neg hempty]
                exact ih ⟨rfl, rfl⟩ hrest
      | some source =>
          have hstamp : 0 < source.1 := hpos source rfl
          cases read with
          | none =>
              have hlater : k.stamp < source.1 := lt_of_eq_of_lt hk.stamp hstamp
              have hnew : k.refresh empty (some source) = ⟨source.2, source.1⟩ := if_pos hlater
              rw [hnew, Discerned]
              exact (and_iff_right rfl).trans (ih ⟨rfl, rfl⟩ hrest)
          | some r =>
              have hr : k.stamp = r.1 := hk.stamp
              have hvalue : k.value = r.2 := hk.value
              rw [Discerned]
              by_cases hlater : r.1 < source.1
              · have hnew : k.refresh empty (some source) = ⟨source.2, source.1⟩ :=
                  if_pos (lt_of_eq_of_lt hr hlater)
                rw [hnew, and_iff_right (Or.inl hlater), if_pos hlater]
                exact (and_iff_right rfl).trans (ih ⟨rfl, rfl⟩ hrest)
              · -- the source is not read
                have hsame : k.refresh empty (some source) = k := if_neg (hr ▸ hlater)
                rw [hsame, if_neg hlater, ih hk hrest, hvalue]
                exact and_congr_left fun _ => (or_iff_right hlater).symm

end Refresh

end Halmos
