import Halmos.Security.Traffic

set_option autoImplicit false

/-! # The bound on a second

A client is allowed `limit_per_sec` requests in a second as long as its scan finds the slot that has
counted it in this second. The janitor breaks that: it empties a slot in front of the one of the
client, and the next request is counted in the empty slot, from one on. A full table counts nothing
at all.
-/

namespace Halmos.Security

/-- No slot in front of the one that has counted the client in this second stops the scan. -/
def RateTable.Intact (table : RateTable) (ip : List UInt8) (now : Int) : Prop :=
  ∀ d < hashTableSize, (table (slotAt hashTableSize (hashIp ip) d)).ip = ip →
    (table (slotAt hashTableSize (hashIp ip) d)).windowStart = now →
    ∀ d' < d, RateEntry.stops ip (table (slotAt hashTableSize (hashIp ip) d')) = false

/-- The table has room for the client, or its slot. -/
def RateTable.Room (table : RateTable) (ip : List UInt8) : Prop :=
  ∃ j < hashTableSize, RateEntry.stops ip (table j) = true

/-- The counter of the client can go beyond the limit. -/
def RateTable.Counts (limit : Int32) (table : RateTable) (ip : List UInt8) (now : Int) : Prop :=
  ∀ j < hashTableSize, (table j).ip = ip → (table j).windowStart = now → (table j).count = limit →
    limit.toInt < 2147483647

/-- The condition on a request: it has an address, its scan finds the slot that has counted it in
this second or some slot, and the counter does not overflow. -/
structure RateTable.Clear (limit : Int32) (table : RateTable) (ip : List UInt8) (now : Int) :
    Prop where
  ne_nil : ip ≠ []
  room : table.Room ip
  intact : table.Intact ip now
  counts : table.Counts limit ip now

def Event.Careful (limit : Int32) (s : Limiter) (e : Event) : Prop :=
  e.Timely s ∧
    match e with
    | .request ip now => s.table.Clear limit ip.text now
    | .sweep _ => True

/-- The history is within the limit, and the table knows it: a slot counts no fewer requests than
were allowed, and who was allowed one in this second has a slot. -/
structure Limiter.Exact (limit : Int32) (s : Limiter) : Prop where
  covers : ∀ j < hashTableSize, (s.table j).ip ≠ [] →
    (allowedIn s.history (s.table j).ip (s.table j).windowStart : Int) ≤ (s.table j).count.toInt
  present : ∀ ip, ip ≠ [] → 0 < allowedIn s.history ip s.clock →
    ∃ j < hashTableSize, (s.table j).ip = ip ∧ (s.table j).windowStart = s.clock
  future : ∀ ip second, s.clock < second → allowedIn s.history ip second = 0
  within : ∀ ip second, (allowedIn s.history ip second : Int) ≤ limit.toInt

section Exact

variable {limit : Int32} {s : Limiter} {ip : Ip} {now : Int} {d : Nat}

/-- With its slot intact, the scan that stops at `d` meets no other slot of this second. -/
theorem RateTable.Intact.eq {table : RateTable} (h : table.Intact ip.text now)
    (hd : FirstStop hashTableSize (hashIp ip.text) table (RateEntry.stops ip.text) d) {j : Nat}
    (hj : j < hashTableSize) (hip : (table j).ip = ip.text) (hnow : (table j).windowStart = now) :
    j = slotAt hashTableSize (hashIp ip.text) d := by
  obtain ⟨d', hd', rfl⟩ := exists_slotAt hj (hashIp ip.text)
  have hfirst : FirstStop hashTableSize (hashIp ip.text) table (RateEntry.stops ip.text) d' := by
    refine ⟨hd', ?_, h d' hd' hip hnow⟩
    unfold RateEntry.stops
    simp [hip]
  rw [hfirst.unique hd]

/-- Nobody without a slot of this second was allowed a request in it. -/
theorem Limiter.Exact.allowedIn_eq_zero (h : s.Exact limit) (hclock : s.clock ≤ now)
    (hip : ip.text ≠ [])
    (hnone : ∀ j < hashTableSize, (s.table j).ip = ip.text → (s.table j).windowStart ≠ now) :
    allowedIn s.history ip.text now = 0 := by
  rcases Int.lt_or_eq_of_le hclock with hlt | heq
  · exact h.future ip.text now hlt
  · by_contra hne
    rw [← heq] at hne
    obtain ⟨j, hj, hslot, hwindow⟩ := h.present ip.text hip (Nat.pos_of_ne_zero hne)
    exact hnone j hj hslot (hwindow.trans heq)

/-- A decision on a client changes the counts of its own second only. -/
theorem allowedIn_other {history : List Decision} {allowed : Bool} {other : List UInt8}
    {second : Int} (h : ¬ (ip.text = other ∧ now = second)) :
    allowedIn (history ++ [⟨ip, now, allowed⟩]) other second = allowedIn history other second := by
  rw [allowedIn_snoc, if_neg (fun hall => h hall.2), Nat.add_zero]

/-- The slot of the client, or an empty one, counts the client in this second. -/
theorem Limiter.Exact.update (h : s.Exact limit) (hclock : s.clock ≤ now) {allowed : Bool}
    {j : Nat} {e : RateEntry} (hj : j < hashTableSize)
    (hold : (s.table j).ip = [] ∨ (s.table j).ip = ip.text) (heip : e.ip = ip.text)
    (hnow : e.windowStart = now)
    (hcount : (allowedIn (s.history ++ [⟨ip, now, allowed⟩]) ip.text now : Int) ≤ e.count.toInt)
    (hother : ∀ k < hashTableSize, k ≠ j → (s.table k).ip = ip.text →
      (s.table k).windowStart ≠ now)
    (hwithin : (allowedIn (s.history ++ [⟨ip, now, allowed⟩]) ip.text now : Int) ≤ limit.toInt) :
    Limiter.Exact limit
      ⟨Function.update s.table j e, now, s.history ++ [⟨ip, now, allowed⟩]⟩ where
  covers k hk hne := by
    dsimp only at hne ⊢
    by_cases hkj : k = j
    · rw [hkj, Function.update_self, heip, hnow]
      exact hcount
    · rw [Function.update_of_ne hkj] at hne ⊢
      rw [allowedIn_other]
      · exact h.covers k hk hne
      · rintro ⟨hsame, hsecond⟩
        exact hother k hk hkj hsame.symm hsecond.symm
  present other hne hpos := by
    dsimp only at hpos ⊢
    by_cases hsame : ip.text = other
    · refine ⟨j, hj, ?_⟩
      rw [Function.update_self]
      exact ⟨heip.trans hsame, hnow⟩
    · -- another client has the slot it had, and that is not this one
      rw [allowedIn_other (fun hboth => hsame hboth.1)] at hpos
      have heq : s.clock = now := by
        by_contra hlt
        rw [h.future other now (by omega)] at hpos
        exact absurd hpos (Nat.lt_irrefl 0)
      rw [← heq] at hpos
      obtain ⟨k, hk, hslot, hwindow⟩ := h.present other hne hpos
      have hkj : k ≠ j := by
        rintro rfl
        rcases hold with hempty | hown
        · exact hne (hslot.symm.trans hempty)
        · exact hsame (hown.symm.trans hslot)
      refine ⟨k, hk, ?_⟩
      rw [Function.update_of_ne hkj]
      exact ⟨hslot, hwindow.trans heq⟩
  future other second hlt := by
    dsimp only at hlt ⊢
    rw [allowedIn_other (fun hboth => absurd hboth.2 (by omega))]
    exact h.future other second (by omega)
  within other second := by
    dsimp only
    by_cases hboth : ip.text = other ∧ now = second
    · rw [← hboth.1, ← hboth.2]
      exact hwithin
    · rw [allowedIn_other hboth]
      exact h.within other second

/-- A slot of the client that is not of an earlier second is of this one, and covers it. -/
theorem Limiter.Exact.own_slot (h : s.Exact limit) (hrec : s.Recorded limit)
    (hclock : s.clock ≤ now) (hip : ip.text ≠ []) {j : Nat} {e : RateEntry}
    (hj : j < hashTableSize) (he : s.table j = e) (heip : e.ip = ip.text)
    (hsame : now ≤ e.windowStart) :
    (s.table j).ip = ip.text ∧ e.windowStart = now ∧
      (allowedIn s.history ip.text now : Int) ≤ e.count.toInt := by
  have hold : (s.table j).ip = ip.text := by rw [he, heip]
  have hne : (s.table j).ip ≠ [] := by
    rw [hold]
    exact hip
  have hearly := hrec.early j hne
  have hcovers := h.covers j hj hne
  rw [he] at hearly hcovers
  have hnow : e.windowStart = now := by omega
  rw [heip, hnow] at hcovers
  exact ⟨hold, hnow, hcovers⟩

theorem exact_request (h : s.Exact limit) (hrec : s.Recorded limit) (hlimit : 1 ≤ limit.toInt)
    (hclock : s.clock ≤ now) (hclear : s.table.Clear limit ip.text now) :
    (s.step limit (.request ip now)).Exact limit := by
  unfold Limiter.step
  dsimp only
  have hip := hclear.ne_nil
  have hdecides : Decides limit ip.text now s.table
      (secTrafficIsRequestAllowed limit ip.text now s.table).1
      (secTrafficIsRequestAllowed limit ip.text now s.table).2 := decides hip ip.length_le
  generalize secTrafficIsRequestAllowed limit ip.text now s.table = r at hdecides
  obtain ⟨allowed, table⟩ := r
  have hone : (1 : Int32).toInt = 1 := rfl
  have hslot : ∀ {d}, slotAt hashTableSize (hashIp ip.text) d < hashTableSize :=
    Nat.mod_lt _ (by decide)
  cases hdecides with
  | full hfull =>
      -- the condition rules a full table out
      obtain ⟨j, hj, hstops⟩ := hclear.room
      obtain ⟨hne, hother⟩ := hfull j hj
      simp [RateEntry.stops, hne, hother] at hstops
  | @enter d hd hempty =>
      -- a client with a slot of this second would have been found before the empty one
      have hnone : ∀ k < hashTableSize, (s.table k).ip = ip.text →
          (s.table k).windowStart ≠ now := by
        intro k hk hslot hwindow
        rw [hclear.intact.eq hd hk hslot hwindow, hempty] at hslot
        exact hip hslot.symm
      have hzero := h.allowedIn_eq_zero hclock hip hnone
      apply h.update hclock hslot (Or.inl hempty) rfl rfl
      · rw [allowedIn_allowed, hzero]
        exact le_rfl
      · exact fun k hk _ => hnone k hk
      · rw [allowedIn_allowed, hzero]
        exact hlimit
  | @restart d e hd he heip hnew =>
      have hnone : ∀ k < hashTableSize, (s.table k).ip = ip.text →
          (s.table k).windowStart ≠ now := by
        intro k hk hslot hwindow
        rw [hclear.intact.eq hd hk hslot hwindow, he] at hwindow
        omega
      have hzero := h.allowedIn_eq_zero hclock hip hnone
      have hold : (s.table (slotAt hashTableSize (hashIp ip.text) d)).ip = ip.text := by
        rw [he, heip]
      apply h.update hclock hslot (Or.inr hold)
      · exact heip
      · rfl
      · rw [allowedIn_allowed, hzero]
        exact le_rfl
      · exact fun k hk _ => hnone k hk
      · rw [allowedIn_allowed, hzero]
        exact hlimit
  | @more d e hd he heip hsame hlt =>
      obtain ⟨hold, hnow, hcovers⟩ := h.own_slot hrec hclock hip hslot he heip hsame
      have hltInt : e.count.toInt < limit.toInt := Int32.lt_iff_toInt_lt.mp hlt
      apply h.update hclock hslot (Or.inr hold)
      · exact heip
      · exact hnow
      · rw [allowedIn_allowed, toInt_count_succ hlt]
        push_cast
        omega
      · intro k hk hkj hslot hwindow
        exact hkj (hclear.intact.eq hd hk hslot hwindow)
      · rw [allowedIn_allowed]
        push_cast
        omega
  | @refuse d e hd he heip hsame hge =>
      obtain ⟨hold, hnow, hcovers⟩ := h.own_slot hrec hclock hip hslot he heip hsame
      have hkeep : allowedIn (s.history ++ [⟨ip, now, false⟩]) ip.text now
          = allowedIn s.history ip.text now := by
        rw [allowedIn_snoc, if_neg (by rintro ⟨hallowed, -⟩; cases hallowed), Nat.add_zero]
      have hother : ∀ k < hashTableSize, k ≠ slotAt hashTableSize (hashIp ip.text) d →
          (s.table k).ip = ip.text → (s.table k).windowStart ≠ now := by
        intro k hk hkj hslot hwindow
        exact hkj (hclear.intact.eq hd hk hslot hwindow)
      have hwithin : (allowedIn (s.history ++ [⟨ip, now, false⟩]) ip.text now : Int)
          ≤ limit.toInt := by
        rw [hkeep]
        exact h.within ip.text now
      dsimp only
      by_cases hcount : e.count = limit
      · -- the first request refused is counted as well
        have hroom := hclear.counts _ hslot hold (by rw [he, hnow])
          (by rw [he, hcount])
        have hsucc : (e.count + 1).toInt = e.count.toInt + 1 := by
          have hlt : e.count < 2147483647 := by
            rw [Int32.lt_iff_toInt_lt, hcount]
            exact hroom
          exact toInt_count_succ hlt
        rw [if_pos hcount]
        refine h.update hclock hslot (Or.inr hold) ?_ ?_ ?_ hother hwithin
        · exact heip
        · exact hnow
        · rw [hkeep, hsucc]
          omega
      · rw [if_neg hcount]
        apply h.update hclock hslot (Or.inr hold) heip hnow _ hother hwithin
        rw [hkeep]
        exact hcovers

/-- A sweep empties no slot of this second. -/
theorem Limiter.Exact.sweep (h : s.Exact limit) (hclock : s.clock ≤ now) :
    Limiter.Exact limit ⟨cleanOldRateLimits now s.table, now, s.history⟩ where
  covers j hj hne := by
    dsimp only at hne ⊢
    unfold cleanOldRateLimits at hne ⊢
    split
    · next hold =>
        rw [if_pos hold] at hne
        exact absurd rfl hne
    · next hkeep =>
        rw [if_neg hkeep] at hne
        exact h.covers j hj hne
  present other hne hpos := by
    dsimp only at hpos ⊢
    have heq : s.clock = now := by
      by_contra hlt
      rw [h.future other now (by omega)] at hpos
      exact absurd hpos (Nat.lt_irrefl 0)
    rw [← heq] at hpos
    obtain ⟨j, hj, hslot, hwindow⟩ := h.present other hne hpos
    refine ⟨j, hj, ?_⟩
    unfold cleanOldRateLimits
    rw [if_neg (fun hold => absurd hold.2 (by omega))]
    exact ⟨hslot, hwindow.trans heq⟩
  future other second hlt := h.future other second (hclock.trans_lt hlt)
  within := h.within

/-- The table agrees with the history, and the history is within the limit. -/
structure Limiter.Limited (limit : Int32) (s : Limiter) : Prop where
  recorded : s.Recorded limit
  exact : s.Exact limit

theorem limited_step (hlimit : 1 ≤ limit.toInt) (h : s.Limited limit) {e : Event}
    (hcareful : e.Careful limit s) : (s.step limit e).Limited limit := by
  obtain ⟨htimely, hclear⟩ := hcareful
  cases e with
  | request ip now =>
      exact ⟨recorded_request h.recorded ip htimely,
        exact_request h.exact h.recorded hlimit htimely hclear⟩
  | sweep now => exact ⟨h.recorded.sweep htimely, h.exact.sweep htimely⟩

theorem limited_fresh (hlimit : 1 ≤ limit.toInt) (clock : Int) :
    (Limiter.fresh clock).Limited limit := by
  refine ⟨recorded_fresh limit clock, ?_⟩
  constructor
  case covers => exact fun j _ hne => absurd rfl hne
  case present => exact fun ip _ hpos => absurd hpos (Nat.lt_irrefl 0)
  case future => exact fun _ _ _ => rfl
  case within =>
    intro ip second
    show ((0 : Nat) : Int) ≤ _
    omega

end Exact

/-- **The limit.** In a run of careful steps no client is allowed more than `limit` requests in a
second. -/
theorem allowed_le_limit {limit : Int32} (hlimit : 1 ≤ limit) {clock : Int} {es : List Event}
    (h : GuardedRun (Event.Careful limit) (Limiter.step limit) (Limiter.fresh clock) es) (ip : Ip)
    (second : Int) :
    (allowedIn (runSteps (Limiter.step limit) (Limiter.fresh clock) es).history ip.text second : Int)
      ≤ limit.toInt := by
  have hlimit' : 1 ≤ limit.toInt := Int32.le_iff_toInt_le.mp hlimit
  have hlimited : (runSteps (Limiter.step limit) (Limiter.fresh clock) es).Limited limit := by
    apply GuardedRun.invariant _ (limited_fresh hlimit' clock) h
    intro s e hs hcareful
    exact limited_step hlimit' hs hcareful
  exact hlimited.exact.within ip.text second

theorem allowed_le_limit_once :
    (allowedIn (runSteps (Limiter.step 1) (Limiter.fresh 0)
      [.request firstIp 11, .sweep 30]).history firstIp.text 11 : Int) ≤ (1 : Int32).toInt := by
  apply allowed_le_limit (by decide)
  refine ⟨⟨by decide, ?_⟩, ⟨by decide, trivial⟩, trivial⟩
  refine ⟨by decide, ⟨0, by decide, rfl⟩, ?_, ?_⟩
  · intro d _ hslot
    have hempty : ([] : List UInt8) = firstIp.text := hslot
    exact absurd hempty (by decide)
  · intro j _ hslot
    have hempty : ([] : List UInt8) = firstIp.text := hslot
    exact absurd hempty (by decide)

/-- The first client has been silent, and its slot is in front of the one of the second client. The
sweep empties it, and the second client starts again from one in the same second. -/
def lostSlot : List Event :=
  [.request firstIp 0, .request secondIp 11, .sweep 11, .request secondIp 11]

theorem allowed_exceeds :
    GuardedRun Event.Timely (Limiter.step 1) (Limiter.fresh 0) lostSlot ∧
      allowedIn (runSteps (Limiter.step 1) (Limiter.fresh 0) lostSlot).history secondIp.text 11
        = 2 := by
  refine ⟨⟨?_, ?_, ?_, ?_, trivial⟩, ?_⟩ <;> decide +kernel

end Halmos.Security
