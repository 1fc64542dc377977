import Halmos.Basic.Bytes
import Halmos.Basic.Probing
import Halmos.Basic.Runs

set_option autoImplicit false

/-! # The rate limiter

`sec_traffic_is_request_allowed` and `clean_old_rate_limits` (`halmos_sec_traffic.c`): a table of
clients with open addressing, a counter for each client and second, and a janitor that empties the
slots of clients that have been silent. A run keeps the history of the calls beside the table.
-/

namespace Halmos.Security

/-! ## The table -/

/-- `HASH_TABLE_SIZE`. -/
def hashTableSize : Nat := 10007

/-- `RateEntry`. A slot is empty when its `ip` is the empty string. -/
structure RateEntry where
  ip : List UInt8
  count : Int32
  windowStart : Int
  deriving DecidableEq, Repr

def RateEntry.empty : RateEntry := ⟨[], 0, 0⟩

/-- `hash_table`. -/
abbrev RateTable := Nat → RateEntry

/-- `reset_rate_limits`. -/
def resetRateLimits : RateTable := fun _ => .empty

/-- `hash_ip`: DJB2 in an `unsigned long`, with the characters as signed numbers. -/
def hashIp (str : List UInt8) : Nat :=
  (str.foldl (fun (hash : UInt64) c =>
    ((hash <<< 5) + hash) + c.toInt8.toInt64.toUInt64) 5381).toNat
    % hashTableSize

/-- The scan stops at an empty slot and at the slot of the client. -/
def RateEntry.stops (clientIp : List UInt8) (e : RateEntry) : Bool := e.ip = [] ∨ e.ip = clientIp

/-- `sec_traffic_is_request_allowed` at the second `now`: the answer and the table behind it. -/
def secTrafficIsRequestAllowed (limitPerSec : Int32) (clientIp : List UInt8) (now : Int)
    (table : RateTable) : Bool × RateTable :=
  if clientIp = [] then (true, table)
  else
    match probe hashTableSize (hashIp clientIp) table (RateEntry.stops clientIp) with
    | some i =>
        let e := table i
        if e.ip = [] then
          -- `strncpy(ip, client_ip, 45)` into a slot that is all zeros
          (true, Function.update table i ⟨clientIp.take 45, 1, now⟩)
        else if e.windowStart < now then
          (true, Function.update table i { e with count := 1, windowStart := now })
        else if e.count < limitPerSec then
          (true, Function.update table i { e with count := e.count + 1 })
        else
          -- counted once more, so that the refusal is logged only once
          (false, Function.update table i
            (if e.count = limitPerSec then { e with count := e.count + 1 } else e))
    | none => (true, table)

/-- `clean_old_rate_limits` at the second `now`. -/
def cleanOldRateLimits (now : Int) (table : RateTable) : RateTable := fun i =>
  if (table i).ip ≠ [] ∧ 10 < now - (table i).windowStart then .empty else table i

/-! ## Runs -/

/-- The address of a client, as a C string of at most 44 characters. -/
structure Ip where
  text : List UInt8
  length_le : text.length ≤ 44
  zero_notMem : 0 ∉ text
  deriving DecidableEq

/-- A request that was decided. -/
structure Decision where
  ip : Ip
  second : Int
  allowed : Bool
  deriving DecidableEq

/-- The table, the second of the clock, and the decisions so far. -/
structure Limiter where
  table : RateTable
  clock : Int
  history : List Decision

/-- A request, or a sweep of the janitor. -/
inductive Event where
  | request (ip : Ip) (now : Int)
  | sweep (now : Int)

def Event.now : Event → Int
  | .request _ now => now
  | .sweep now => now

def Limiter.step (limit : Int32) (s : Limiter) : Event → Limiter
  | .request ip now =>
      let r := secTrafficIsRequestAllowed limit ip.text now s.table
      ⟨r.2, now, s.history ++ [⟨ip, now, r.1⟩]⟩
  | .sweep now => ⟨cleanOldRateLimits now s.table, now, s.history⟩

def Limiter.fresh (clock : Int) : Limiter := ⟨resetRateLimits, clock, []⟩

/-- The clock does not go back. -/
def Event.Timely (s : Limiter) (e : Event) : Prop := s.clock ≤ e.now

instance (s : Limiter) (e : Event) : Decidable (e.Timely s) := inferInstanceAs (Decidable (_ ≤ _))

/-- The requests of a client that were allowed in a second. -/
def allowedIn (history : List Decision) (ip : List UInt8) (second : Int) : Nat :=
  history.countP (fun d => d.allowed ∧ d.ip.text = ip ∧ d.second = second)

section Table

variable {limit : Int32} {ip : List UInt8} {now second : Int} {table : RateTable}

@[simp] theorem allowedIn_nil : allowedIn [] ip second = 0 := rfl

theorem allowedIn_snoc (history : List Decision) (d : Decision) :
    allowedIn (history ++ [d]) ip second = allowedIn history ip second
      + if d.allowed = true ∧ d.ip.text = ip ∧ d.second = second then 1 else 0 := by
  unfold allowedIn
  rw [List.countP_append, List.countP_singleton]
  simp

/-- One more request counts for its own client and second. -/
theorem le_allowedIn_snoc (history : List Decision) (d : Decision) :
    allowedIn history ip second ≤ allowedIn (history ++ [d]) ip second := by
  rw [allowedIn_snoc]
  omega

/-- What a call with an address may do. -/
inductive Decides (limit : Int32) (ip : List UInt8) (now : Int) (table : RateTable) :
    Bool → RateTable → Prop
  /-- No slot is empty or the client's. -/
  | full (hfull : ∀ j < hashTableSize, (table j).ip ≠ [] ∧ (table j).ip ≠ ip) :
      Decides limit ip now table true table
  /-- The client gets the first empty slot. -/
  | enter {d : Nat}
      (hd : FirstStop hashTableSize (hashIp ip) table (RateEntry.stops ip) d)
      (hempty : (table (slotAt hashTableSize (hashIp ip) d)).ip = []) :
      Decides limit ip now table true
        (Function.update table (slotAt hashTableSize (hashIp ip) d) ⟨ip, 1, now⟩)
  /-- The second is a new one. -/
  | restart {d : Nat} {e : RateEntry}
      (hd : FirstStop hashTableSize (hashIp ip) table (RateEntry.stops ip) d)
      (he : table (slotAt hashTableSize (hashIp ip) d) = e) (hip : e.ip = ip)
      (hnew : e.windowStart < now) :
      Decides limit ip now table true (Function.update table
        (slotAt hashTableSize (hashIp ip) d) { e with count := 1, windowStart := now })
  /-- One more request in the same second. -/
  | more {d : Nat} {e : RateEntry}
      (hd : FirstStop hashTableSize (hashIp ip) table (RateEntry.stops ip) d)
      (he : table (slotAt hashTableSize (hashIp ip) d) = e) (hip : e.ip = ip)
      (hsame : now ≤ e.windowStart) (hlt : e.count < limit) :
      Decides limit ip now table true (Function.update table
        (slotAt hashTableSize (hashIp ip) d) { e with count := e.count + 1 })
  /-- One request too many. -/
  | refuse {d : Nat} {e : RateEntry}
      (hd : FirstStop hashTableSize (hashIp ip) table (RateEntry.stops ip) d)
      (he : table (slotAt hashTableSize (hashIp ip) d) = e) (hip : e.ip = ip)
      (hsame : now ≤ e.windowStart) (hge : ¬ e.count < limit) :
      Decides limit ip now table false (Function.update table
        (slotAt hashTableSize (hashIp ip) d)
        (if e.count = limit then { e with count := e.count + 1 } else e))

/-- **What a call does.** -/
theorem decides (hip : ip ≠ []) (hlen : ip.length ≤ 44) :
    Decides limit ip now table (secTrafficIsRequestAllowed limit ip now table).1
      (secTrafficIsRequestAllowed limit ip now table).2 := by
  have htake : ip.take 45 = ip := List.take_of_length_le (by omega)
  unfold secTrafficIsRequestAllowed
  rw [if_neg hip]
  split
  · next j hprobe =>
      obtain ⟨d, hd, rfl⟩ := probe_some hprobe
      have hstop : (table (slotAt hashTableSize (hashIp ip) d)).ip = [] ∨
          (table (slotAt hashTableSize (hashIp ip) d)).ip = ip := by
        simpa [RateEntry.stops] using hd.stops
      dsimp only
      by_cases hempty : (table (slotAt hashTableSize (hashIp ip) d)).ip = []
      · rw [if_pos hempty, htake]
        exact .enter hd hempty
      · have hfound := hstop.resolve_left hempty
        rw [if_neg hempty]
        by_cases hnew : (table (slotAt hashTableSize (hashIp ip) d)).windowStart < now
        · rw [if_pos hnew]
          exact .restart hd rfl hfound hnew
        · rw [if_neg hnew]
          by_cases hlt : (table (slotAt hashTableSize (hashIp ip) d)).count < limit
          · rw [if_pos hlt]
            exact .more hd rfl hfound (Int.not_lt.mp hnew) hlt
          · rw [if_neg hlt]
            exact .refuse hd rfl hfound (Int.not_lt.mp hnew) hlt
  · next hprobe =>
      apply Decides.full
      intro j hj
      have hnot := probe_none hprobe hj
      simpa [RateEntry.stops, not_or] using hnot

/-- Below the limit the counter does not overflow. -/
theorem toInt_count_succ {count : Int32} (h : count < limit) :
    (count + 1).toInt = count.toInt + 1 := by
  have hlt : count.toInt < limit.toInt := Int32.lt_iff_toInt_lt.mp h
  have hmax := limit.toInt_lt
  have hmin := count.le_toInt
  rw [Int32.toInt_add]
  apply Int.bmod_eq_of_le
  · rw [show (1 : Int32).toInt = 1 from rfl]
    omega
  · rw [show (1 : Int32).toInt = 1 from rfl]
    omega

end Table

/-! ## Refusals -/

/-- What is in the table has been recorded: a slot counts requests that were allowed, and none of
them in a second to come. -/
structure Limiter.Recorded (limit : Int32) (s : Limiter) : Prop where
  early : ∀ j, (s.table j).ip ≠ [] → (s.table j).windowStart ≤ s.clock
  counted : ∀ j, (s.table j).ip ≠ [] → min (s.table j).count.toInt limit.toInt
    ≤ allowedIn s.history (s.table j).ip (s.table j).windowStart

section Recorded

variable {limit : Int32} {s : Limiter} {now : Int} {d : Decision}

/-- A new record in one slot, with one more decision. -/
theorem Limiter.Recorded.update (h : s.Recorded limit) {j : Nat} {e : RateEntry}
    (hclock : s.clock ≤ now) (hearly : e.windowStart ≤ now)
    (hcount : min e.count.toInt limit.toInt
      ≤ allowedIn (s.history ++ [d]) e.ip e.windowStart) :
    Limiter.Recorded limit ⟨Function.update s.table j e, now, s.history ++ [d]⟩ where
  early k hk := by
    dsimp only at hk ⊢
    by_cases hkj : k = j
    · rw [hkj, Function.update_self]
      exact hearly
    · rw [Function.update_of_ne hkj] at hk ⊢
      exact (h.early k hk).trans hclock
  counted k hk := by
    dsimp only at hk ⊢
    by_cases hkj : k = j
    · rw [hkj, Function.update_self]
      exact hcount
    · rw [Function.update_of_ne hkj] at hk ⊢
      have hmore : allowedIn s.history (s.table k).ip (s.table k).windowStart
          ≤ allowedIn (s.history ++ [d]) (s.table k).ip (s.table k).windowStart :=
        le_allowedIn_snoc s.history d
      have hold := h.counted k hk
      omega

/-- The table stays, with one more decision. -/
theorem Limiter.Recorded.snoc (h : s.Recorded limit) (hclock : s.clock ≤ now) :
    Limiter.Recorded limit ⟨s.table, now, s.history ++ [d]⟩ where
  early k hk := (h.early k hk).trans hclock
  counted k hk := by
    have hmore : allowedIn s.history (s.table k).ip (s.table k).windowStart
        ≤ allowedIn (s.history ++ [d]) (s.table k).ip (s.table k).windowStart :=
      le_allowedIn_snoc s.history d
    have hold := h.counted k hk
    dsimp only
    omega

theorem Limiter.Recorded.sweep (h : s.Recorded limit) (hclock : s.clock ≤ now) :
    Limiter.Recorded limit ⟨cleanOldRateLimits now s.table, now, s.history⟩ := by
  have hkeep : ∀ j, (cleanOldRateLimits now s.table j).ip ≠ [] →
      cleanOldRateLimits now s.table j = s.table j := by
    intro j hj
    unfold cleanOldRateLimits at hj ⊢
    split
    · next hold =>
        rw [if_pos hold] at hj
        exact absurd rfl hj
    · rfl
  constructor
  · intro j hj
    have hsame := hkeep j hj
    dsimp only at hj ⊢
    rw [hsame] at hj ⊢
    exact (h.early j hj).trans hclock
  · intro j hj
    have hsame := hkeep j hj
    dsimp only at hj ⊢
    rw [hsame] at hj ⊢
    exact h.counted j hj

/-- A request of a client that is allowed now. -/
theorem allowedIn_allowed (history : List Decision) (ip : Ip) (now : Int) :
    allowedIn (history ++ [⟨ip, now, true⟩]) ip.text now = allowedIn history ip.text now + 1 := by
  rw [allowedIn_snoc, if_pos ⟨rfl, rfl, rfl⟩]

theorem recorded_request (h : s.Recorded limit) (ip : Ip) (hclock : s.clock ≤ now) :
    (s.step limit (.request ip now)).Recorded limit := by
  unfold Limiter.step
  dsimp only
  by_cases hip : ip.text = []
  · unfold secTrafficIsRequestAllowed
    rw [if_pos hip]
    exact h.snoc hclock
  · have hdecides : Decides limit ip.text now s.table
        (secTrafficIsRequestAllowed limit ip.text now s.table).1
        (secTrafficIsRequestAllowed limit ip.text now s.table).2 := decides hip ip.length_le
    generalize secTrafficIsRequestAllowed limit ip.text now s.table = r at hdecides
    obtain ⟨allowed, table⟩ := r
    cases hdecides with
    | full hfull => exact h.snoc hclock
    | enter hd hempty =>
        apply h.update hclock le_rfl
        rw [allowedIn_allowed]
        have hone : (1 : Int32).toInt = 1 := rfl
        dsimp only
        omega
    | @restart d e hd he heip hnew =>
        apply h.update hclock le_rfl
        dsimp only
        rw [heip, allowedIn_allowed]
        have hone : (1 : Int32).toInt = 1 := rfl
        omega
    | @more d e hd he heip hsame hlt =>
        have hne : (s.table (slotAt hashTableSize (hashIp ip.text) d)).ip ≠ [] := by
          rw [he, heip]
          exact hip
        have hearly := h.early _ hne
        have hcount := h.counted _ hne
        rw [he] at hearly hcount
        -- the slot is one of this second: the clock is not behind it
        have hnow : e.windowStart = now := by omega
        apply h.update hclock
        · exact hnow.le
        · dsimp only
          rw [heip, hnow] at hcount ⊢
          rw [allowedIn_allowed, toInt_count_succ hlt]
          omega
    | @refuse d e hd he heip hsame hge =>
        have hne : (s.table (slotAt hashTableSize (hashIp ip.text) d)).ip ≠ [] := by
          rw [he, heip]
          exact hip
        have hearly := h.early _ hne
        have hcount := h.counted _ hne
        rw [he] at hearly hcount
        have hlimit : limit.toInt ≤ e.count.toInt := by
          rw [Int32.lt_iff_toInt_lt] at hge
          omega
        have hmore : allowedIn s.history e.ip e.windowStart
            ≤ allowedIn (s.history ++ [⟨ip, now, false⟩]) e.ip e.windowStart :=
          le_allowedIn_snoc s.history _
        have hnow : e.windowStart ≤ now := by omega
        dsimp only
        split
        · apply h.update hclock
          · exact hnow
          · dsimp only
            omega
        · apply h.update hclock
          · exact hnow
          · omega

/-- A refusal follows `limit` requests of the same client that were allowed in the same second. -/
theorem refused_request (h : s.Recorded limit) (ip : Ip) (hclock : s.clock ≤ now)
    (hrefused : (secTrafficIsRequestAllowed limit ip.text now s.table).1 = false) :
    limit.toInt ≤ allowedIn s.history ip.text now := by
  by_cases hip : ip.text = []
  · rw [secTrafficIsRequestAllowed, if_pos hip] at hrefused
    cases hrefused
  · have hdecides : Decides limit ip.text now s.table
        (secTrafficIsRequestAllowed limit ip.text now s.table).1
        (secTrafficIsRequestAllowed limit ip.text now s.table).2 := decides hip ip.length_le
    generalize secTrafficIsRequestAllowed limit ip.text now s.table = r at hdecides hrefused
    obtain ⟨allowed, table⟩ := r
    cases hdecides with
    | full hfull => cases hrefused
    | enter hd hempty => cases hrefused
    | restart hd he heip hnew => cases hrefused
    | more hd he heip hsame hlt => cases hrefused
    | @refuse d e hd he heip hsame hge =>
        have hne : (s.table (slotAt hashTableSize (hashIp ip.text) d)).ip ≠ [] := by
          rw [he, heip]
          exact hip
        have hearly := h.early _ hne
        have hcount := h.counted _ hne
        rw [he] at hearly hcount
        have hnow : e.windowStart = now := by omega
        rw [heip, hnow] at hcount
        rw [Int32.lt_iff_toInt_lt] at hge
        omega

/-- Every refusal follows `limit` requests of exactly that client that were allowed in exactly that
second. -/
def Justified (limit : Int32) (history : List Decision) : Prop :=
  ∀ before c after, history = before ++ c :: after → c.allowed = false →
    limit.toInt ≤ allowedIn before c.ip.text c.second

theorem Justified.snoc {history : List Decision} (h : Justified limit history)
    (hd : d.allowed = false → limit.toInt ≤ allowedIn history d.ip.text d.second) :
    Justified limit (history ++ [d]) := by
  intro before c after heq hrefused
  rcases List.eq_nil_or_concat after with rfl | ⟨after', last, rfl⟩
  · obtain ⟨rfl, hlast⟩ := List.append_inj' heq rfl
    cases List.singleton_inj.mp hlast
    exact hd hrefused
  · -- the decision is one of those before
    have hsplit : history ++ [d] = (before ++ c :: after') ++ [last] := by
      rw [heq, List.append_assoc, List.concat_eq_append]
      rfl
    exact h before c after' (List.append_inj' hsplit rfl).1 hrefused

/-- The table and the history agree, and the history is as it should be. -/
structure Limiter.Sound (limit : Int32) (s : Limiter) : Prop where
  recorded : s.Recorded limit
  justified : Justified limit s.history

theorem sound_step (h : s.Sound limit) {e : Event} (htimely : e.Timely s) :
    (s.step limit e).Sound limit := by
  cases e with
  | request ip now =>
      refine ⟨recorded_request h.recorded ip htimely, ?_⟩
      exact h.justified.snoc (fun hrefused => refused_request h.recorded ip htimely hrefused)
  | sweep now => exact ⟨h.recorded.sweep htimely, h.justified⟩

end Recorded

theorem recorded_fresh (limit : Int32) (clock : Int) : (Limiter.fresh clock).Recorded limit where
  early _ hj := absurd rfl hj
  counted _ hj := absurd rfl hj

theorem sound_fresh (limit : Int32) (clock : Int) : (Limiter.fresh clock).Sound limit := by
  refine ⟨recorded_fresh limit clock, ?_⟩
  intro before c after heq
  have hlen := congrArg List.length heq
  rw [List.length_append, List.length_cons] at hlen
  exact absurd hlen (by simp [Limiter.fresh])

/-- **Refusals.** Whatever the other clients do and whenever the janitor sweeps, a request is
refused only behind `limit` requests of exactly that client, allowed in the same second. -/
theorem refused_justified {limit : Int32} {clock : Int} {es : List Event}
    (h : GuardedRun Event.Timely (Limiter.step limit) (Limiter.fresh clock) es) :
    Justified limit (runSteps (Limiter.step limit) (Limiter.fresh clock) es).history := by
  have hsound : (runSteps (Limiter.step limit) (Limiter.fresh clock) es).Sound limit := by
    apply GuardedRun.invariant _ (sound_fresh limit clock) h
    intro s e hs htimely
    exact sound_step hs htimely
  exact hsound.justified

/-- Two clients whose addresses have the same hash. -/
def firstIp : Ip := ⟨ascii "10.0.1.1", by decide, by decide⟩

def secondIp : Ip := ⟨ascii "10.0.22.212", by decide, by decide⟩

theorem refused_justified_flood :
    Justified 1 (runSteps (Limiter.step 1) (Limiter.fresh 0)
      [.request firstIp 7, .request secondIp 7, .sweep 7, .request firstIp 7]).history := by
  apply refused_justified
  refine ⟨?_, ?_, ?_, ?_, trivial⟩ <;> decide +kernel

end Halmos.Security
