import Halmos.Core.Lifetimes

set_option autoImplicit false

/-! # What a step does to the lifetimes

The thread that goes on holds some tokens (`held`), and the others hold the rest (`others`) but for
those that are parked. One lemma for each kind of step: tokens that only move, a cleanup, an
activation.
-/

namespace Halmos.Core

/-- The state `s'` is `s''`, but for the thread that has gone on and now holds `held`. -/
structure Server.Follows (s'' s' : Server) (held others : Multiset Token) : Prop where
  maxFd : s'.maxFd = s''.maxFd
  conns : s'.conns = s''.conns
  isOpen : s'.isOpen = s''.isOpen
  cleaned : s'.cleaned = s''.cleaned
  running : s'.running = s''.running
  activeConnections : s'.activeConnections = s''.activeConnections
  tokens : s'.tokens = held + (s''.parked + others)

section Follows

variable {s s' s'' : Server} {held others new : Multiset Token} {fd : Int} {g : UInt32} {w : Nat}
  {pc : WorkerPc}

theorem follows_goto (s'' : Server) (pc : LoopPc) :
    s''.Follows (s''.goto pc) pc.tokens (tally WorkerPc.tokens s''.workers) :=
  ⟨rfl, rfl, rfl, rfl, rfl, rfl, rfl⟩

/-- A worker holds its tokens, and after its step those of where it is then. -/
theorem worker_tokens (hw : s.workers[w]? = some pc) :
    ∃ others, s.tokens = pc.tokens + (s.parked + others)
      ∧ ∀ (s'' : Server) (b : WorkerPc), s''.workers = s.workers → s''.loop = s.loop →
        s''.Follows (s''.setWorker w b) b.tokens others := by
  obtain ⟨rest, hall, -, hset⟩ := tally_split (f := WorkerPc.tokens) hw
  refine ⟨s.loop.tokens + rest, ?_, ?_⟩
  · unfold Server.tokens
    rw [hall]
    ac_rfl
  · intro s'' b hworkers hloop
    refine ⟨rfl, rfl, rfl, rfl, rfl, rfl, ?_⟩
    show s''.loop.tokens + (s''.parked + tally WorkerPc.tokens (s''.workers.set w b)) = _
    rw [hworkers, hloop, hset]
    ac_rfl

theorem Server.Follows.same (hf : s''.Follows s' held others) (h : s.Same s'' fd) :
    s.Same s' fd := by
  refine ⟨hf.maxFd.trans h.maxFd, ?_, ?_, ?_, ?_, ?_, ?_⟩
  · rw [hf.isOpen]
    exact h.isOpen
  · rw [hf.conns]
    exact h.generation
  · rw [hf.conns]
    exact h.active
  · rw [hf.conns]
    exact h.state
  · rw [hf.cleaned]
    exact h.cleaned
  · rw [hf.running]
    exact h.running

theorem live_congr (hmax : s'.maxFd = s.maxFd)
    (hactive : ∀ fd, (s'.conns fd).active = (s.conns fd).active) : s'.live = s.live := by
  unfold Server.live
  rw [hmax]
  apply Finset.sum_congr rfl
  intro fd _
  unfold HalmosConn.counts
  rw [hactive]

/-- A change of one slot changes the number of active slots by what that one counts. -/
theorem live_setConn (s : Server) (hin : s.InRange fd) (f : HalmosConn → HalmosConn) :
    (s.setConn fd f).live + (s.conns fd).counts = s.live + (f (s.conns fd)).counts := by
  obtain ⟨n, rfl⟩ := Int.eq_ofNat_of_zero_le hin.1
  have hmem : n ∈ Finset.range s.maxFd := Finset.mem_range.mpr (Int.ofNat_lt.mp hin.2)
  have hafter := Finset.add_sum_erase _ (fun i : Nat => ((s.setConn n f).conns i).counts) hmem
  have hbefore := Finset.add_sum_erase _ (fun i : Nat => (s.conns i).counts) hmem
  have hrest : ∑ i ∈ (Finset.range s.maxFd).erase n, ((s.setConn n f).conns i).counts
      = ∑ i ∈ (Finset.range s.maxFd).erase n, (s.conns i).counts := by
    apply Finset.sum_congr rfl
    intro i hi
    have hne : (i : Int) ≠ n := fun heq => Finset.ne_of_mem_erase hi (Int.ofNat_inj.mp heq)
    show (Function.update s.conns (n : Int) (f (s.conns n)) i).counts = _
    rw [Function.update_of_ne hne]
  have hself : ((s.setConn n f).conns n).counts = (f (s.conns n)).counts := by
    show (Function.update s.conns (n : Int) (f (s.conns n)) n).counts = _
    rw [Function.update_self]
  unfold Server.live
  show (∑ i ∈ Finset.range s.maxFd, ((s.setConn n f).conns i).counts) + _ = _
  rw [← hafter, ← hbefore, hrest, hself]
  omega

/-- The thread of a token is alone with its descriptor. -/
theorem Server.Safe.alone {rest : Multiset Token} {phase : Phase} (h : s.Safe)
    (hs : s.tokens = {⟨fd, phase⟩} + rest) : ∀ t ∈ rest, t.fd ≠ fd := by
  have hone := h.one fd
  rw [hs, Multiset.singleton_add,
    Multiset.countP_cons_of_pos (p := fun t : Token => t.fd = fd) rest rfl] at hone
  have hrest : rest.countP (fun t => t.fd = fd) = 0 := by omega
  rw [Multiset.countP_eq_zero] at hrest
  exact hrest

theorem Server.Safe.own_good {rest : Multiset Token} {t : Token} (h : s.Safe)
    (hs : s.tokens = {t} + rest) : t.Good s := by
  apply h.good t
  rw [hs]
  exact Multiset.mem_add.mpr (Or.inl (Multiset.mem_singleton_self t))

/-- Tokens that only move, while the count settles with what is pending. -/
theorem Server.Safe.settle (h : s.Safe) (hs : s.tokens = held + (s.parked + others))
    (hf : s''.Follows s' new others) (hsame : ∀ fd, s.Same s'' fd)
    (hcleaned : s''.cleaned = s.cleaned) (hnew : new + s''.parked = held + s.parked)
    (hactive : s''.activeConnections + s.loop.pending
      = s.activeConnections + s'.loop.pending) : s'.Safe := by
  have htokens : s'.tokens = s.tokens := by
    rw [hf.tokens, hs, ← add_assoc, hnew, add_assoc]
  have hsame' : ∀ fd, s.Same s' fd := fun fd => hf.same (hsame fd)
  refine ⟨?_, ?_, ?_, ?_, ?_, ?_, ?_⟩
  · rw [htokens]
    exact h.one
  · intro t ht
    rw [htokens] at ht
    exact (h.good t ht).same (hsame' t.fd)
  · intro fd hopen
    rw [(hsame' fd).active]
    exact h.closed fd ((hsame' fd).isOpen.symm.trans hopen)
  · intro fd hopen hnone
    rw [htokens] at hnone
    have hkeep := h.kept fd ((hsame' fd).isOpen.symm.trans hopen) hnone
    rw [(hsame' fd).active]
    refine ⟨?_, hkeep.2⟩
    unfold Server.InRange
    rw [(hsame' fd).maxFd]
    exact hkeep.1
  · intro fd g hmem
    rw [(hsame' fd).generation]
    exact h.past fd g (((hsame' fd).cleaned g).mp hmem)
  · rw [hf.cleaned, hcleaned]
    exact h.once
  · intro hrun
    have hlive : s'.live = s.live :=
      live_congr (hsame' 0).maxFd (fun fd => (hsame' fd).active)
    have hcount := h.count ((hsame' 0).running hrun)
    rw [hf.activeConnections, htokens, hlive]
    omega

/-- **Tokens that only move**: the slots, the descriptors and the counts stay. -/
theorem Server.Safe.still (h : s.Safe) (hs : s.tokens = held + (s.parked + others))
    (hf : s''.Follows s' new others) (hsame : ∀ fd, s.Same s'' fd)
    (hcleaned : s''.cleaned = s.cleaned) (hactive : s''.activeConnections = s.activeConnections)
    (hnew : new + s''.parked = held + s.parked) (hpending : s'.loop.pending = s.loop.pending) :
    s'.Safe := by
  apply h.settle hs hf hsame hcleaned hnew
  rw [hactive, hpending]

/-- **A token of no weight is dropped**: its descriptor stays open, and nobody is to come back to
it. -/
theorem Server.Safe.drop (h : s.Safe) (hs : s.tokens = {⟨fd, .live g⟩} + (s.parked + others))
    (hf : s.Follows s' 0 others) (hpending : s'.loop.pending = s.loop.pending) : s'.Safe := by
  have hsame : ∀ fd, s.Same s' fd := fun fd => hf.same (Server.Same.refl s fd)
  apply h.touch ⟨hs, hf.tokens, h.alone hs, by simp, by simp, by simp, fun fd' _ => hsame fd'⟩
  · intro hopen
    rw [(hsame fd).active]
    exact h.closed fd ((hsame fd).isOpen.symm.trans hopen)
  · intro _ _
    obtain ⟨-, hin, -, -, -, hactive, -⟩ := h.own_good hs
    rw [(hsame fd).active]
    exact ⟨hin, hactive⟩
  · intro g hmem
    rw [(hsame fd).generation]
    exact h.past fd g (((hsame fd).cleaned g).mp hmem)
  · rw [hf.cleaned]
    exact h.once
  · intro _ hcount
    rw [hf.activeConnections, hcount, hf.tokens, hs, hpending,
      live_congr (hsame fd).maxFd (fun fd => (hsame fd).active)]
    simp only [weigh_add, weigh_zero, weigh_singleton, Phase.weight]

/-- **The count of a lifetime** changes, and its phase with it. -/
theorem Server.Safe.recount {p : Phase} (h : s.Safe) (s' : Server) (p' : Phase) (d : Int)
    (hs : s.tokens = {⟨fd, p⟩} + (s.parked + others))
    (hf : s.Follows { s' with activeConnections := s.activeConnections } {⟨fd, p'⟩} others)
    (hactive : s'.activeConnections = s.activeConnections + d) (hgood : p'.Good s fd)
    (hweight : p'.weight + s'.loop.pending = p.weight + s.loop.pending + d) : s'.Safe := by
  have htokens : s'.tokens = {⟨fd, p'⟩} + (s.parked + others) := hf.tokens
  have hsame : ∀ fd, s.Same s' fd := by
    intro fd'
    obtain ⟨hmax, hopen, hgen, hact, hstate, hcleaned, hrun⟩ :=
      hf.same (Server.Same.refl s fd')
    exact ⟨hmax, hopen, hgen, hact, hstate, hcleaned, hrun⟩
  have hopen := (h.own_good hs).1
  have hown : ∀ t ∈ ({⟨fd, p'⟩} : Multiset Token), t.fd = fd ∧ t.Good s' := by
    intro t ht
    rw [Multiset.mem_singleton.mp ht]
    have hbefore : (⟨fd, p'⟩ : Token).Good s := ⟨hopen, hgood⟩
    exact ⟨rfl, hbefore.same (hsame fd)⟩
  apply h.touch ⟨hs, htokens, h.alone hs, by simp, by simp, hown, fun fd' _ => hsame fd'⟩
  · intro hclosed
    rw [(hsame fd).active]
    exact h.closed fd ((hsame fd).isOpen.symm.trans hclosed)
  · exact fun hzero => absurd hzero (Multiset.singleton_ne_zero _)
  · intro g hmem
    rw [(hsame fd).generation]
    exact h.past fd g (((hsame fd).cleaned g).mp hmem)
  · have hcleaned : s'.cleaned = s.cleaned := hf.cleaned
    rw [hcleaned]
    exact h.once
  · intro _ hcount
    rw [hactive, hcount, htokens, hs, live_congr (hsame fd).maxFd (fun fd => (hsame fd).active)]
    simp only [weigh_add, weigh_singleton]
    omega

@[simp] theorem setConn_conns_self (s : Server) (fd : Int) (f : HalmosConn → HalmosConn) :
    (s.setConn fd f).conns fd = f (s.conns fd) :=
  Function.update_self fd _ s.conns

theorem setConn_conns_of_ne (s : Server) (f : HalmosConn → HalmosConn) {fd' : Int}
    (h : fd' ≠ fd) : (s.setConn fd f).conns fd' = s.conns fd' :=
  Function.update_of_ne h _ s.conns

theorem setConn_same (s : Server) (f : HalmosConn → HalmosConn) {fd' : Int} (h : fd' ≠ fd) :
    s.Same (s.setConn fd f) fd' := by
  refine ⟨rfl, rfl, ?_, ?_, ?_, fun _ => Iff.rfl, id⟩ <;> rw [setConn_conns_of_ne s f h]

/-- The lock says nothing about the lifetime. -/
theorem setLock_same (s : Server) (fd : Int) (held : Bool) (fd' : Int) :
    s.Same (s.setLock fd held) fd' := by
  by_cases h : fd' = fd
  · subst h
    have hself : (s.setLock fd' held).conns fd' = { s.conns fd' with ioLock := held } :=
      setConn_conns_self s fd' _
    exact ⟨rfl, rfl, by rw [hself], by rw [hself], by rw [hself], fun _ => Iff.rfl, id⟩
  · exact setConn_same s _ h

/-- The lock of a slot is taken or given back. -/
theorem Server.Safe.lock {held : Bool} (h : s.Safe) (hs : s.tokens = new + (s.parked + others))
    (hf : (s.setLock fd held).Follows s' new others)
    (hpending : s'.loop.pending = s.loop.pending) : s'.Safe :=
  h.still hs hf (setLock_same s fd held) rfl rfl rfl hpending

/-- **A change of the slot** by the thread of its token, whose phase goes on with it. -/
theorem Server.Safe.change {p p' : Phase} {f : HalmosConn → HalmosConn} (h : s.Safe)
    (hs : s.tokens = {⟨fd, p⟩} + (s.parked + others))
    (hf : (s.setConn fd f).Follows s' {⟨fd, p'⟩} others) (hin : s.InRange fd)
    (hgood : p'.Good (s.setConn fd f) fd)
    (hgen : (s.conns fd).generation ≤ (f (s.conns fd)).generation)
    (hweight : s.running = true → (f (s.conns fd)).counts + p'.weight
      = (s.conns fd).counts + p.weight)
    (hpending : s'.loop.pending = s.loop.pending) : s'.Safe := by
  have hopen := (h.own_good hs).1
  have hself : (s.setConn fd f).Same s' fd := hf.same (Server.Same.refl _ fd)
  have hothers : ∀ fd' ≠ fd, s.Same s' fd' := fun fd' hfd => hf.same (setConn_same s f hfd)
  apply h.touch ⟨hs, hf.tokens, h.alone hs, by simp, by simp, ?_, hothers⟩
  · intro hclosed
    rw [hself.isOpen] at hclosed
    exact absurd (hclosed.symm.trans hopen) (by decide)
  · exact fun hzero => absurd hzero (Multiset.singleton_ne_zero _)
  · intro g hmem
    rw [hself.generation, setConn_conns_self]
    exact UInt32.le_trans (h.past fd g ((hself.cleaned g).mp hmem)) hgen
  · rw [hf.cleaned]
    exact h.once
  · intro hrun hcount
    have hlive := live_setConn s hin f
    have hsame : s'.live = (s.setConn fd f).live :=
      live_congr hf.maxFd (fun fd' => by rw [hf.conns])
    have hw := hweight (hself.running hrun)
    have hactive : s'.activeConnections = s.activeConnections := hf.activeConnections
    have hparked : (s.setConn fd f).parked = s.parked := rfl
    rw [hactive, hcount, hsame, hf.tokens, hs, hpending, hparked]
    simp only [weigh_add, weigh_singleton]
    omega
  · intro t ht
    rw [Multiset.mem_singleton.mp ht]
    have hbefore : (⟨fd, p'⟩ : Token).Good (s.setConn fd f) := ⟨hopen, hgood⟩
    exact ⟨rfl, hbefore.same hself⟩

/-- No registration of a descriptor whose token is elsewhere. -/
theorem Server.Safe.epollDel_eq {p : Phase} (h : s.Safe)
    (hs : s.tokens = {⟨fd, p⟩} + (s.parked + others)) : s.epollDel fd = s := by
  have hall : s.armed.filter (fun r => r.fd ≠ fd) = s.armed := by
    rw [List.filter_eq_self]
    intro r hr
    have hmem : (⟨r.fd, .live r.generation⟩ : Token) ∈ s.parked + others := by
      unfold Server.parked
      rw [Multiset.mem_add, Multiset.mem_add, Multiset.mem_add]
      exact Or.inl (Or.inl (Or.inl (mem_tally hr (Multiset.mem_singleton_self _))))
    exact decide_eq_true (h.alone hs _ hmem)
  unfold Server.epollDel
  rw [hall]

/-- **The last step of a lifetime**: its descriptor is closed. -/
theorem Server.Safe.closes {p : Phase} (h : s.Safe)
    (hs : s.tokens = {⟨fd, p⟩} + (s.parked + others)) (hf : (s.close fd).Follows s' 0 others)
    (hinactive : (s.conns fd).active = false)
    (hpending : s'.loop.pending = s.loop.pending + p.weight) : s'.Safe := by
  have hclose : s.close fd = { s with isOpen := Function.update s.isOpen fd false } := by
    unfold Server.close
    rw [h.epollDel_eq hs]
  rw [hclose] at hf
  have hsame : ∀ fd' ≠ fd, s.Same s' fd' := by
    intro fd' hfd
    refine hf.same ⟨rfl, ?_, rfl, rfl, rfl, fun _ => Iff.rfl, id⟩
    exact Function.update_of_ne hfd _ _
  apply h.touch ⟨hs, hf.tokens, h.alone hs, by simp, by simp, by simp, hsame⟩
  · intro _
    rw [hf.conns]
    exact hinactive
  · intro _ hopen
    rw [hf.isOpen] at hopen
    exact absurd (hopen.symm.trans (Function.update_self fd false s.isOpen)) (by decide)
  · intro g hmem
    rw [hf.conns]
    rw [hf.cleaned] at hmem
    exact h.past fd g hmem
  · rw [hf.cleaned]
    exact h.once
  · intro _ hcount
    have hlive : s'.live = s.live := live_congr hf.maxFd (fun fd' => by rw [hf.conns])
    have hactive : s'.activeConnections = s.activeConnections := hf.activeConnections
    rw [hactive, hcount, hf.tokens, hs, hpending, hlive]
    show _ = s.live + weigh (0 + (s.parked + others)) + _
    simp only [weigh_add, weigh_zero, weigh_singleton]
    omega

/-- **A cleanup is called** for a lifetime that nobody has cleaned up, which is counted out before,
unless the server has stopped. -/
theorem Server.Safe.called (h : s.Safe) (uncounted : Bool)
    (hs : s.tokens = {⟨fd, .live g⟩} + (s.parked + others))
    (hf : ((if uncounted = true then s.uncount else s).callCleanup fd g).Follows s'
      {⟨fd, .dying g uncounted⟩} others)
    (hrun : uncounted = false → s.running = false)
    (hpending : s'.loop.pending = s.loop.pending) : s'.Safe := by
  obtain ⟨hopen, hin, hg, hne, hnot, hactive, hstate⟩ := h.own_good hs
  -- the step may count the connection out; it writes down the cleanup either way, and nothing
  -- else changes
  have hcleaned : s'.cleaned = s.cleaned ++ [(fd, g)] := by
    rw [hf.cleaned]
    cases uncounted <;> rfl
  have hconns : s'.conns = s.conns := by
    rw [hf.conns]
    cases uncounted <;> rfl
  have hisOpen : s'.isOpen = s.isOpen := by
    rw [hf.isOpen]
    cases uncounted <;> rfl
  have hmax : s'.maxFd = s.maxFd := by
    rw [hf.maxFd]
    cases uncounted <;> rfl
  have hrunning : s'.running = s.running := by
    rw [hf.running]
    cases uncounted <;> rfl
  have htokens : s'.tokens = {⟨fd, .dying g uncounted⟩} + (s.parked + others) := by
    rw [hf.tokens]
    cases uncounted <;> rfl
  have hsame : ∀ fd' ≠ fd, s.Same s' fd' := by
    intro fd' hfd
    refine ⟨hmax, by rw [hisOpen], by rw [hconns], by rw [hconns], by rw [hconns], ?_, ?_⟩
    · intro g'
      rw [hcleaned, List.mem_append, List.mem_singleton, Prod.mk.injEq]
      exact ⟨fun hor => hor.resolve_right (fun heq => hfd heq.1), Or.inl⟩
    · rw [hrunning]
      exact id
  apply h.touch ⟨hs, htokens, h.alone hs, by simp, by simp, ?_, hsame⟩
  · intro hclosed
    rw [hisOpen] at hclosed
    exact absurd (hclosed.symm.trans hopen) (by decide)
  · exact fun hzero => absurd hzero (Multiset.singleton_ne_zero _)
  · intro g' hmem
    rw [hcleaned, List.mem_append, List.mem_singleton, Prod.mk.injEq] at hmem
    rw [hconns]
    -- the lifetime cleaned up last is the one of the descriptor now
    rcases hmem with hmem | ⟨-, rfl⟩
    · exact h.past fd g' hmem
    · exact UInt32.le_of_eq hg.symm
  · rw [hcleaned, List.nodup_append]
    refine ⟨h.once, List.nodup_singleton _, ?_⟩
    intro x hx y hy heq
    -- it has not been cleaned up before
    rw [List.mem_singleton.mp hy] at heq
    exact hnot (heq ▸ hx)
  · intro hr hcount
    have hlive : s'.live = s.live := live_congr hmax (fun fd' => by rw [hconns])
    cases uncounted with
    | true =>
        have hdown : s'.activeConnections = s.activeConnections - 1 := hf.activeConnections
        rw [hdown, hcount, htokens, hs, hpending, hlive]
        simp only [weigh_add, weigh_singleton, Phase.weight, if_true]
        omega
    | false =>
        rw [hrunning, hrun rfl] at hr
        cases hr
  · intro t ht
    rw [Multiset.mem_singleton.mp ht]
    refine ⟨rfl, by rw [hisOpen]; exact hopen, ?_⟩
    refine ⟨?_, by rw [hconns]; exact hg, by rw [hconns]; exact hactive, ?_⟩
    · unfold Server.InRange
      rw [hmax]
      exact hin
    · intro hu
      rw [hrunning]
      exact hrun hu

/-- **The thread arms the descriptor** and has its token no longer. -/
theorem Server.Safe.arms {mask : UInt32} (h : s.Safe)
    (hs : s.tokens = {⟨fd, .live g⟩} + (s.parked + others))
    (hf : (s.arm fd mask).Follows s' 0 others)
    (hpending : s'.loop.pending = s.loop.pending) : s'.Safe := by
  obtain ⟨-, -, hg, -⟩ := h.own_good hs
  have harm : s.arm fd mask = { s with
      armed := s.armed ++ [⟨fd, mask ||| epollEt ||| epollOneShot, g⟩] } := by
    unfold Server.arm
    rw [h.epollDel_eq hs, hg]
  rw [harm] at hf
  apply h.still hs hf
  · exact fun fd' => ⟨rfl, rfl, rfl, rfl, rfl, fun _ => Iff.rfl, id⟩
  · rfl
  · rfl
  · unfold Server.parked
    dsimp only
    rw [tally_append, tally_cons, tally_nil]
    unfold Registration.tokens
    rw [zero_add, add_zero]
    ac_rfl
  · exact hpending

end Follows

end Halmos.Core
