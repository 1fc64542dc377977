import Halmos.Core.EventLoop

set_option autoImplicit false

/-! # Lifetimes of descriptors

A lifetime of a descriptor, from `accept` to `close`, is in one place at a time: armed, in the batch,
with the event loop, in the queue or with a worker. What is there is a token, and a step moves a
token, changes its phase together with its slot, makes one or removes one.
-/

namespace Halmos.Core

/-! ## Tokens -/

/-- How far a lifetime is: accepted, perhaps counted and perhaps known to have a slot; given its
generation and perhaps its state; active; being cleaned up, after it was counted out or not; and
inactive, but still open. -/
inductive Phase
  | fresh (counted ranged : Bool)
  | born (g : UInt32) (ready : Bool)
  | live (g : UInt32)
  | dying (g : UInt32) (uncounted : Bool)
  | gone (g : UInt32)
  deriving DecidableEq

/-- A lifetime, where it is. -/
structure Token where
  fd : Int
  phase : Phase
  deriving DecidableEq

/-- How much `active_connections` is above the number of active slots for this lifetime. -/
def Phase.weight : Phase → Int
  | .fresh counted _ => if counted = true then 1 else 0
  | .born _ _ => 1
  | .live _ => 0
  | .dying _ uncounted => if uncounted = true then -1 else 0
  | .gone _ => 0

def Registration.tokens (r : Registration) : Multiset Token := {⟨r.fd, .live r.generation⟩}

def Delivered.tokens : Delivered → Multiset Token
  | .listener => 0
  | .client fd _ g => {⟨fd, .live g⟩}

def HalmosEvent.tokens (e : HalmosEvent) : Multiset Token := {⟨e.fd, .live e.generation⟩}

/-- The lifetime in a cleanup: the last step is behind its `close`. -/
def CleanupStage.tokens (fd : Int) (g : UInt32) (uncounted : Bool) :
    CleanupStage → Multiset Token
  | .del => {⟨fd, .dying g uncounted⟩}
  | .lock => {⟨fd, .dying g uncounted⟩}
  | .inactive => {⟨fd, .dying g uncounted⟩}
  | .dead => {⟨fd, .gone g⟩}
  | .close => {⟨fd, .gone g⟩}
  | .unlock => 0
  | .bareClose => {⟨fd, .fresh false false⟩}
  | .done => 0

def LoopPc.tokens : LoopPc → Multiset Token
  | .waiting => 0
  | .handling => 0
  | .acceptTest => 0
  | .accept => 0
  | .accepted fd => {⟨fd, .fresh false false⟩}
  | .counted fd => {⟨fd, .fresh true false⟩}
  | .activateLock fd => {⟨fd, .fresh true true⟩}
  | .activateGeneration fd => {⟨fd, .fresh true true⟩}
  | .activateState fd g => {⟨fd, .born g false⟩}
  | .activateActive fd g => {⟨fd, .born g true⟩}
  | .activateUnlock fd g => {⟨fd, .live g⟩}
  | .refused fd => {⟨fd, .fresh true false⟩}
  | .uncount => 0
  | .adding fd g => {⟨fd, .live g⟩}
  | .event fd _ g => {⟨fd, .live g⟩}
  | .lookup fd _ g => {⟨fd, .live g⟩}
  | .loaded fd _ g => {⟨fd, .live g⟩}
  | .pushing e => e.tokens
  | .uncounting fd g _ => {⟨fd, .live g⟩}
  | .cleaning stage fd g uncounted _ => stage.tokens fd g uncounted
  | .finished => 0

def WorkerPc.tokens : WorkerPc → Multiset Token
  | .idle => 0
  | .checking _ _ e => e.tokens
  | .locking e => e.tokens
  | .dispatching e => e.tokens
  | .rearming e _ => e.tokens
  | .unlocking _ => 0
  | .releasing e => e.tokens
  | .uncounting e => e.tokens
  | .cleaning stage e => stage.tokens e.fd e.generation true

/-- The tokens that are with nobody. -/
def Server.parked (s : Server) : Multiset Token :=
  tally Registration.tokens s.armed + tally Delivered.tokens s.batch
    + tally HalmosEvent.tokens s.queue

/-- The tokens of the server. -/
def Server.tokens (s : Server) : Multiset Token :=
  s.loop.tokens + (s.parked + tally WorkerPc.tokens s.workers)

/-- The weight of some tokens together. -/
def weigh (m : Multiset Token) : Int := (m.map (fun t => t.phase.weight)).sum

@[simp] theorem weigh_add (m n : Multiset Token) : weigh (m + n) = weigh m + weigh n := by
  unfold weigh
  rw [Multiset.map_add, Multiset.sum_add]

@[simp] theorem weigh_zero : weigh 0 = 0 := rfl

@[simp] theorem weigh_singleton (t : Token) : weigh {t} = t.phase.weight := by
  unfold weigh
  rw [Multiset.map_singleton, Multiset.sum_singleton]

/-! ## What a token says about its slot -/

/-- What the phase of a lifetime says about its slot. -/
def Phase.Good (s : Server) (fd : Int) : Phase → Prop
  | .fresh _ ranged => (s.conns fd).active = false ∧ (ranged = true → s.InRange fd)
  | .born g ready => s.InRange fd ∧ (s.conns fd).generation = g ∧ g ≠ 0 ∧ (fd, g) ∉ s.cleaned ∧
      (s.conns fd).active = false ∧ (ready = true → (s.conns fd).state = .reading)
  | .live g => s.InRange fd ∧ (s.conns fd).generation = g ∧ g ≠ 0 ∧ (fd, g) ∉ s.cleaned ∧
      (s.conns fd).active = true ∧
      (s.conns fd).state ≠ .closing ∧ (s.conns fd).state ≠ .dead
  | .dying g uncounted => s.InRange fd ∧ (s.conns fd).generation = g ∧
      (s.conns fd).active = true ∧ (uncounted = false → s.running = false)
  | .gone g => s.InRange fd ∧ (s.conns fd).generation = g ∧ (s.conns fd).active = false

/-- The lifetime is open, and its slot is as its phase says. -/
def Token.Good (s : Server) (t : Token) : Prop := s.isOpen t.fd = true ∧ t.phase.Good s t.fd

/-- 1 for the refused connection that is closed and still counted. -/
def LoopPc.pending : LoopPc → Int
  | .uncount => 1
  | _ => 0

/-- 1 for a slot that is active. -/
def HalmosConn.counts (c : HalmosConn) : Int := if c.active = true then 1 else 0

/-- The number of active slots. -/
def Server.live (s : Server) : Int := ∑ fd ∈ Finset.range s.maxFd, (s.conns fd).counts

/-- Every lifetime is in one place, as its slot says, or open with nobody to come back to it; the
lifetimes cleaned up are over; and `active_connections` is the number of active slots but for the lifetimes that are halfway. -/
structure Server.Safe (s : Server) : Prop where
  one : ∀ fd, s.tokens.countP (fun t => t.fd = fd) ≤ 1
  good : ∀ t ∈ s.tokens, t.Good s
  closed : ∀ fd, s.isOpen fd = false → (s.conns fd).active = false
  kept : ∀ fd, s.isOpen fd = true → (∀ t ∈ s.tokens, t.fd ≠ fd) →
    s.InRange fd ∧ (s.conns fd).active = true
  past : ∀ fd g, (fd, g) ∈ s.cleaned → g ≤ (s.conns fd).generation
  once : s.cleaned.Nodup
  count : s.running = true → s.activeConnections = s.live + weigh s.tokens + s.loop.pending

/-! ## Changes at one descriptor -/

/-- Another descriptor is as it was. -/
structure Server.Same (s s' : Server) (fd : Int) : Prop where
  maxFd : s'.maxFd = s.maxFd
  isOpen : s'.isOpen fd = s.isOpen fd
  generation : (s'.conns fd).generation = (s.conns fd).generation
  active : (s'.conns fd).active = (s.conns fd).active
  state : (s'.conns fd).state = (s.conns fd).state
  cleaned : ∀ g, (fd, g) ∈ s'.cleaned ↔ (fd, g) ∈ s.cleaned
  running : s'.running = true → s.running = true

section Same

variable {s s' : Server} {t : Token} {fd : Int}

theorem Token.Good.same (h : t.Good s) (hsame : s.Same s' t.fd) : t.Good s' := by
  obtain ⟨hopen, hphase⟩ := h
  refine ⟨hsame.isOpen.trans hopen, ?_⟩
  have hrange : s'.InRange t.fd ↔ s.InRange t.fd := by
    unfold Server.InRange
    rw [hsame.maxFd]
  have hrunning : s.running = false → s'.running = false := by
    intro hfalse
    by_contra htrue
    rw [hsame.running (Bool.not_eq_false _ ▸ htrue)] at hfalse
    cases hfalse
  cases hp : t.phase with
  | fresh counted ranged =>
      rw [hp] at hphase
      exact ⟨hsame.active.trans hphase.1, fun hr => hrange.mpr (hphase.2 hr)⟩
  | born g ready =>
      rw [hp] at hphase
      obtain ⟨hin, hg, hne, hnot, hactive, hstate⟩ := hphase
      exact ⟨hrange.mpr hin, hsame.generation.trans hg, hne, fun hc => hnot ((hsame.cleaned g).mp hc),
        hsame.active.trans hactive, fun hr => hsame.state.trans (hstate hr)⟩
  | live g =>
      rw [hp] at hphase
      obtain ⟨hin, hg, hne, hnot, hactive, hclosing, hdead⟩ := hphase
      refine ⟨hrange.mpr hin, hsame.generation.trans hg, hne,
        fun hc => hnot ((hsame.cleaned g).mp hc), hsame.active.trans hactive, ?_, ?_⟩
      · rw [hsame.state]
        exact hclosing
      · rw [hsame.state]
        exact hdead
  | dying g uncounted =>
      rw [hp] at hphase
      obtain ⟨hin, hg, hactive, hun⟩ := hphase
      exact ⟨hrange.mpr hin, hsame.generation.trans hg, hsame.active.trans hactive,
        fun hu => hrunning (hun hu)⟩
  | gone g =>
      rw [hp] at hphase
      obtain ⟨hin, hg, hactive⟩ := hphase
      exact ⟨hrange.mpr hin, hsame.generation.trans hg, hsame.active.trans hactive⟩

theorem Server.Same.refl (s : Server) (fd : Int) : s.Same s fd :=
  ⟨rfl, rfl, rfl, rfl, rfl, fun _ => Iff.rfl, id⟩

/-- A step that touches the lifetime of one descriptor: its token, if it has one, becomes another
one or goes, and the others stay where they are. -/
structure Server.Touches (s s' : Server) (fd : Int) (old new rest : Multiset Token) : Prop where
  before : s.tokens = old + rest
  after : s'.tokens = new + rest
  others : ∀ t ∈ rest, t.fd ≠ fd
  was : ∀ t ∈ old, t.fd = fd
  small : new.card ≤ 1
  own : ∀ t ∈ new, t.fd = fd ∧ t.Good s'
  same : ∀ fd' ≠ fd, s.Same s' fd'

/-- **Touching one descriptor** keeps the server safe when the descriptor itself is left safe. -/
theorem Server.Safe.touch {old new rest : Multiset Token} (h : s.Safe)
    (ht : s.Touches s' fd old new rest)
    (hclosed : s'.isOpen fd = false → (s'.conns fd).active = false)
    (hkept : new = 0 → s'.isOpen fd = true → s.InRange fd ∧ (s'.conns fd).active = true)
    (hpast : ∀ g, (fd, g) ∈ s'.cleaned → g ≤ (s'.conns fd).generation)
    (honce : s'.cleaned.Nodup)
    (hcount : s'.running = true → s.activeConnections = s.live + weigh s.tokens + s.loop.pending →
      s'.activeConnections = s'.live + weigh s'.tokens + s'.loop.pending) : s'.Safe := by
  refine ⟨?_, ?_, ?_, ?_, ?_, honce, ?_⟩
  · intro fd'
    -- one token for each descriptor: the new one, or one of the others
    rw [ht.after, Multiset.countP_add]
    by_cases hfd : fd' = fd
    · have hrest : rest.countP (fun t => t.fd = fd') = 0 := by
        rw [Multiset.countP_eq_zero]
        intro t hmem heq
        exact ht.others t hmem (heq.trans hfd)
      rw [hrest]
      exact (Multiset.countP_le_card _ _).trans ht.small
    · have hnew : new.countP (fun t => t.fd = fd') = 0 := by
        rw [Multiset.countP_eq_zero]
        intro t hmem heq
        exact hfd (heq.symm.trans (ht.own t hmem).1)
      have hbefore := h.one fd'
      rw [ht.before, Multiset.countP_add] at hbefore
      omega
  · intro t hmem
    rw [ht.after] at hmem
    -- the others are as good as they were
    rcases Multiset.mem_add.mp hmem with hmem | hmem
    · exact (ht.own t hmem).2
    · have hold : t ∈ s.tokens := by
        rw [ht.before]
        exact Multiset.mem_add.mpr (Or.inr hmem)
      exact (h.good t hold).same (ht.same t.fd (ht.others t hmem))
  · intro fd' hopen
    by_cases hfd : fd' = fd
    · subst hfd
      exact hclosed hopen
    · have hsame := ht.same fd' hfd
      rw [hsame.active]
      exact h.closed fd' (hsame.isOpen.symm.trans hopen)
  · intro fd' hopen hnone
    rw [ht.after] at hnone
    by_cases hfd : fd' = fd
    · subst hfd
      have hnew : new = 0 := by
        rw [Multiset.eq_zero_iff_forall_notMem]
        exact fun t hmem => hnone t (Multiset.mem_add.mpr (Or.inl hmem)) (ht.own t hmem).1
      -- an open descriptor nobody has a token for is kept open
      have hkeep := hkept hnew hopen
      refine ⟨?_, hkeep.2⟩
      unfold Server.InRange
      rw [(ht.same (fd' + 1) (by omega)).maxFd]
      exact hkeep.1
    · have hsame := ht.same fd' hfd
      have hbefore : ∀ t ∈ s.tokens, t.fd ≠ fd' := by
        intro t hmem
        rw [ht.before] at hmem
        rcases Multiset.mem_add.mp hmem with hmem | hmem
        · rw [ht.was t hmem]
          exact Ne.symm hfd
        · exact hnone t (Multiset.mem_add.mpr (Or.inr hmem))
      have hkeep := h.kept fd' (hsame.isOpen.symm.trans hopen) hbefore
      rw [hsame.active]
      refine ⟨?_, hkeep.2⟩
      unfold Server.InRange
      rw [hsame.maxFd]
      exact hkeep.1
  · intro fd' g hmem
    by_cases hfd : fd' = fd
    · subst hfd
      exact hpast g hmem
    · have hsame := ht.same fd' hfd
      rw [hsame.generation]
      exact h.past fd' g ((hsame.cleaned g).mp hmem)
  · intro hrun
    -- whether the server runs is seen at any other descriptor
    by_cases hany : ∃ fd', fd' ≠ fd
    · obtain ⟨fd', hfd⟩ := hany
      exact hcount hrun (h.count ((ht.same fd' hfd).running hrun))
    · exact absurd ⟨fd + 1, by omega⟩ hany

end Same

end Halmos.Core
