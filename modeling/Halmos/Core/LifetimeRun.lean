import Halmos.Core.LifetimeSteps

set_option autoImplicit false

/-! # Lifetimes in every interleaving

Each step of the event loop, of a worker or of the system keeps the lifetimes safe
(`safe_step`), so every interleaving does (`lifetimes_run`).
-/

namespace Halmos.Core

section Cleanup

variable {s s' : Server} {others : Multiset Token} {fd : Int} {g : UInt32} {uncounted : Bool}

/-- A step of `core_event_loop_cleanup_connection`, in whatever thread. -/
theorem safe_cleanup {stage : CleanupStage} (h : s.Safe)
    (hs : s.tokens = stage.tokens fd g uncounted + (s.parked + others))
    (hf : (s.cleanup fd stage).1.Follows s' ((s.cleanup fd stage).2.tokens fd g uncounted) others)
    (hpending : s'.loop.pending = s.loop.pending) : s'.Safe := by
  have hrefl : ∀ fd', s.Same s fd' := fun fd' => Server.Same.refl s fd'
  cases stage with
  | del =>
      have hin : s.InRange fd := (h.own_good hs).2.1
      unfold Server.cleanup at hf
      rw [h.epollDel_eq hs, if_pos hin] at hf
      exact h.still hs hf hrefl rfl rfl rfl hpending
  | lock =>
      unfold Server.cleanup at hf
      by_cases hlock : (s.conns fd).ioLock = true
      · rw [if_pos hlock] at hf
        exact h.still hs hf hrefl rfl rfl rfl hpending
      · rw [if_neg hlock] at hf
        exact h.lock hs hf hpending
  | inactive =>
      obtain ⟨-, hin, hg, hactive, hrun⟩ := h.own_good hs
      have hnext : (s.setConn fd (fun c => { c with active := false })).Follows s'
          {⟨fd, .gone g⟩} others := hf
      apply h.change hs hnext hin
      · exact ⟨hin, (congrArg _ (setConn_conns_self s fd _)).trans hg,
          congrArg _ (setConn_conns_self s fd _)⟩
      · exact UInt32.le_refl _
      · intro hr
        cases uncounted with
        | true =>
            -- an active connection was counted, and the caller has counted it out
            have hcounts : (s.conns fd).counts = 1 := if_pos hactive
            rw [hcounts]
            rfl
        | false =>
            rw [hrun rfl] at hr
            cases hr
      · exact hpending
  | dead =>
      obtain ⟨-, hin, hg, hactive⟩ := h.own_good hs
      have hnext : (s.setConn fd (fun c => { c with state := .dead })).Follows s'
          {⟨fd, .gone g⟩} others := hf
      apply h.change hs hnext hin
      · exact ⟨hin, (congrArg _ (setConn_conns_self s fd _)).trans hg,
          (congrArg _ (setConn_conns_self s fd _)).trans hactive⟩
      · exact UInt32.le_refl _
      · exact fun _ => rfl
      · exact hpending
  | close =>
      obtain ⟨-, hin, hg, hactive⟩ := h.own_good hs
      exact h.closes hs hf hactive (hpending.trans (Int.add_zero _).symm)
  | unlock => exact h.lock hs hf hpending
  | bareClose =>
      exact h.closes hs hf (h.own_good hs).2.1 (hpending.trans (Int.add_zero _).symm)
  | done => exact h.still hs hf hrefl rfl rfl rfl hpending

/-- A cleanup leaves the other threads alone. -/
theorem cleanup_workers (s : Server) (fd : Int) (stage : CleanupStage) :
    (s.cleanup fd stage).1.workers = s.workers := by
  unfold Server.cleanup
  split
  case h_2 => split <;> rfl
  all_goals rfl

theorem cleanup_loop (s : Server) (fd : Int) (stage : CleanupStage) :
    (s.cleanup fd stage).1.loop = s.loop := by
  unfold Server.cleanup
  split
  case h_2 => split <;> rfl
  all_goals rfl

end Cleanup

section Loop

variable {s : Server}

theorem Server.loop_tokens (s : Server) :
    s.tokens = s.loop.tokens + (s.parked + tally WorkerPc.tokens s.workers) := rfl

/-- The loop goes somewhere else with what it holds. -/
theorem Server.Safe.goto {pc : LoopPc} (h : s.Safe) (htokens : pc.tokens = s.loop.tokens)
    (hpending : pc.pending = s.loop.pending) : (s.goto pc).Safe := by
  apply h.still s.loop_tokens (follows_goto s pc) (fun fd => Server.Same.refl s fd) rfl rfl
  · rw [htokens]
  · exact hpending

theorem back_tokens (inAccept : Bool) : (LoopPc.back inAccept).tokens = 0 := by
  cases inAccept <;> rfl

theorem back_pending (inAccept : Bool) : (LoopPc.back inAccept).pending = 0 := by
  cases inAccept <;> rfl

theorem loop_tokens_of {pc : LoopPc} (hpc : s.loop = pc) :
    s.tokens = pc.tokens + (s.parked + tally WorkerPc.tokens s.workers) := by
  rw [← hpc]
  rfl

/-- The generation of a slot is never used up: the condition of fewer than `2 ^ 32` activations, as
the generation counts them. -/
def Server.Fresh (s : Server) : ServerStep → Prop
  | .loop _ _ =>
      match s.loop with
      | .activateGeneration fd => (s.conns fd).generation ≠ 0xFFFFFFFF
      | _ => True
  | _ => True

theorem Server.Fresh.generation_ne {accepts : Option Int} {ok : Bool} {fd : Int}
    (h : s.Fresh (.loop accepts ok)) (hpc : s.loop = .activateGeneration fd) :
    (s.conns fd).generation ≠ 0xFFFFFFFF := by
  unfold Server.Fresh at h
  rw [hpc] at h
  exact h

/-- A new generation is above the old one. -/
theorem lt_add_one {g : UInt32} (hg : g ≠ 0xFFFFFFFF) : g < g + 1 ∧ g + 1 ≠ 0 := by
  have hlt : g.toNat < 4294967295 := by
    have hbound := UInt32.toNat_lt g
    have hne : g.toNat ≠ 4294967295 := fun heq => hg (UInt32.toNat_inj.mp heq)
    omega
  have hnext : (g + 1).toNat = g.toNat + 1 := by
    rw [UInt32.toNat_add]
    exact Nat.mod_eq_of_lt (by show g.toNat + 1 < 4294967296; omega)
  refine ⟨?_, ?_⟩
  · rw [UInt32.lt_iff_toNat_lt, hnext]
    exact Nat.lt_succ_self _
  · intro hzero
    rw [hzero] at hnext
    exact absurd hnext (Nat.succ_ne_zero _).symm

/-- The accepted connections, up to their registration. -/
theorem safe_accept {accepts : Option Int} {ok : Bool} (h : s.Safe) (hpc : s.loop = .accept) :
    (s.loopStep accepts ok).Safe := by
  unfold Server.loopStep
  rw [hpc]
  dsimp only
  cases accepts with
  | none =>
      dsimp only
      split <;> exact h.goto (by rw [hpc]; rfl) (by rw [hpc]; rfl)
  | some fd =>
      dsimp only
      split
      · next hfresh =>
          -- a closed descriptor has no token, so the new one is its only one
          have hnone : ∀ t ∈ s.tokens, t.fd ≠ fd := by
            rintro t ht rfl
            have hopen := (h.good t ht).1
            rw [hfresh.2] at hopen
            cases hopen
          have htokens := loop_tokens_of hpc
          have htouch : s.Touches
              { s with isOpen := Function.update s.isOpen fd true, loop := .accepted fd } fd 0
              {⟨fd, .fresh false false⟩} s.tokens := by
            refine ⟨(zero_add _).symm, ?_, hnone, by simp, by simp, ?_, ?_⟩
            · rw [htokens]
              show _ = _ + (0 + _)
              rw [zero_add]
              rfl
            · intro t ht
              rw [Multiset.mem_singleton.mp ht]
              exact ⟨rfl, Function.update_self fd true s.isOpen, h.closed fd hfresh.2,
                fun hr => Bool.noConfusion hr⟩
            · intro fd' hfd
              exact ⟨rfl, Function.update_of_ne hfd _ _, rfl, rfl, rfl, fun _ => Iff.rfl, id⟩
          apply h.touch htouch
          · intro _
            exact h.closed fd hfresh.2
          · exact fun hzero => absurd hzero (Multiset.singleton_ne_zero _)
          · exact h.past fd
          · exact h.once
          · intro _ hcount
            show s.activeConnections = s.live
              + weigh ({⟨fd, .fresh false false⟩} + (s.parked + tally WorkerPc.tokens s.workers)) + 0
            have hweight : (Phase.fresh false false).weight = 0 := rfl
            rw [hcount, htokens, hpc]
            simp only [LoopPc.tokens, LoopPc.pending, weigh_add, weigh_zero, weigh_singleton, hweight]
      · exact h

theorem safe_loop {accepts : Option Int} {ok : Bool} (h : s.Safe)
    (hfresh : s.Fresh (.loop accepts ok)) : (s.loopStep accepts ok).Safe := by
  cases hpc : s.loop with
  | accept => exact safe_accept h hpc
  | waiting =>
      unfold Server.loopStep
      rw [hpc]
      exact h.goto (by rw [hpc]; rfl) (by rw [hpc]; rfl)
  | handling =>
      have hs := loop_tokens_of hpc
      have hzero : s.loop.pending = 0 := by rw [hpc]; rfl
      unfold Server.loopStep
      rw [hpc]
      dsimp only
      split
      · split <;> exact h.goto (by rw [hpc]; rfl) hzero.symm
      · next rest hbatch =>
          have hparked : s.parked = ({ s with batch := rest } : Server).parked := by
            unfold Server.parked
            rw [hbatch, tally_cons]
            exact congrArg (fun m => _ + m + _) (zero_add _)
          apply h.still hs (follows_goto { s with batch := rest } .acceptTest)
            (fun fd => ⟨rfl, rfl, rfl, rfl, rfl, fun _ => Iff.rfl, id⟩) rfl rfl
          · rw [hparked]
            rfl
          · exact hzero.symm
      · next fd ev g rest hbatch =>
          apply h.still hs (follows_goto { s with batch := rest } (.event fd ev g))
            (fun fd => ⟨rfl, rfl, rfl, rfl, rfl, fun _ => Iff.rfl, id⟩) rfl rfl
          · unfold Server.parked
            dsimp only [LoopPc.tokens]
            rw [hbatch, tally_cons]
            show ({⟨fd, .live g⟩} : Multiset Token) + _ = 0 + (_ + ({⟨fd, .live g⟩} + _) + _)
            rw [zero_add]
            ac_rfl
          · exact hzero.symm
  | acceptTest =>
      unfold Server.loopStep
      rw [hpc]
      dsimp only
      split <;> exact h.goto (by rw [hpc]; rfl) (by rw [hpc]; rfl)
  | accepted fd =>
      have hs := loop_tokens_of hpc
      unfold Server.loopStep
      rw [hpc]
      apply h.recount { s with activeConnections := s.activeConnections + 1, loop := .counted fd }
        (.fresh true false) 1 hs
      · exact ⟨rfl, rfl, rfl, rfl, rfl, rfl, rfl⟩
      · rfl
      · exact (h.own_good hs).2
      · rw [hpc]
        rfl
  | counted fd =>
      have hs := loop_tokens_of hpc
      have hgood := (h.own_good hs).2
      unfold Server.loopStep
      rw [hpc]
      dsimp only
      split
      · next hin =>
          apply h.recount (s.goto (.activateLock fd)) (.fresh true true) 0 hs
          · exact ⟨rfl, rfl, rfl, rfl, rfl, rfl, rfl⟩
          · exact (Int.add_zero _).symm
          · exact ⟨hgood.1, fun _ => hin⟩
          · rw [hpc]
            rfl
      · exact h.goto (by rw [hpc]; rfl) (by rw [hpc]; rfl)
  | activateLock fd =>
      have hs := loop_tokens_of hpc
      unfold Server.loopStep
      rw [hpc]
      dsimp only
      split
      · exact h
      · exact h.lock hs (follows_goto (s.setLock fd true) (.activateGeneration fd))
          (by rw [hpc]; rfl)
  | activateGeneration fd =>
      have hs := loop_tokens_of hpc
      obtain ⟨-, hactive, hranged⟩ := h.own_good hs
      obtain ⟨hlt, hne⟩ := lt_add_one (hfresh.generation_ne hpc)
      unfold Server.loopStep
      rw [hpc]
      have hself := setConn_conns_self s fd (fun c => { c with generation := c.generation + 1 })
      apply h.change hs (follows_goto _ _) (hranged rfl)
      · refine ⟨hranged rfl, congrArg _ hself, hne, ?_, (congrArg _ hself).trans hactive,
          fun hr => Bool.noConfusion hr⟩
        -- the generations cleaned up are below the new one
        intro hmem
        exact absurd hlt (UInt32.not_lt.mpr (h.past fd _ hmem))
      · exact UInt32.le_of_lt hlt
      · exact fun _ => rfl
      · rw [hpc]
        rfl
  | activateState fd g =>
      have hs := loop_tokens_of hpc
      obtain ⟨-, hin, hg, hne, hnot, hactive, -⟩ := h.own_good hs
      unfold Server.loopStep
      rw [hpc]
      have hself := setConn_conns_self s fd (fun c => { c with state := .reading })
      apply h.change hs (follows_goto _ _) hin
      · exact ⟨hin, (congrArg _ hself).trans hg, hne, hnot, (congrArg _ hself).trans hactive,
          fun _ => congrArg _ hself⟩
      · exact UInt32.le_refl _
      · exact fun _ => rfl
      · rw [hpc]
        rfl
  | activateActive fd g =>
      have hs := loop_tokens_of hpc
      obtain ⟨-, hin, hg, hne, hnot, hactive, hstate⟩ := h.own_good hs
      unfold Server.loopStep
      rw [hpc]
      have hself := setConn_conns_self s fd (fun c => { c with active := true })
      have hreading : ((s.setConn fd (fun c => { c with active := true })).conns fd).state
          = .reading := (congrArg _ hself).trans (hstate rfl)
      apply h.change hs (follows_goto _ _) hin
      · refine ⟨hin, (congrArg _ hself).trans hg, hne, hnot, congrArg _ hself, ?_, ?_⟩
        · rw [hreading]
          decide
        · rw [hreading]
          decide
      · exact UInt32.le_refl _
      · intro _
        have hcounts : (s.conns fd).counts = 0 := if_neg (by rw [hactive]; decide)
        rw [hcounts]
        rfl
      · rw [hpc]
        rfl
  | activateUnlock fd g =>
      have hs := loop_tokens_of hpc
      have hne := (h.own_good hs).2.2.2.1
      unfold Server.loopStep
      rw [hpc]
      dsimp only
      rw [if_neg hne]
      exact h.lock hs (follows_goto (s.setLock fd false) (.adding fd g)) (by rw [hpc]; rfl)
  | refused fd =>
      have hs := loop_tokens_of hpc
      unfold Server.loopStep
      rw [hpc]
      exact h.closes hs (follows_goto (s.close fd) .uncount) (h.own_good hs).2.1 (by rw [hpc]; rfl)
  | uncount =>
      unfold Server.loopStep
      rw [hpc]
      apply h.settle (loop_tokens_of hpc) (follows_goto s.uncount .handling)
        (fun fd => ⟨rfl, rfl, rfl, rfl, rfl, fun _ => Iff.rfl, id⟩) rfl rfl
      rw [hpc]
      exact (Int.sub_add_cancel s.activeConnections 1).trans (Int.add_zero _).symm
  | adding fd g =>
      have hs := loop_tokens_of hpc
      unfold Server.loopStep
      rw [hpc]
      dsimp only
      split
      · exact h.arms hs (follows_goto _ _) (by rw [hpc]; rfl)
      · exact h.goto (by rw [hpc]; rfl) (by rw [hpc]; rfl)
  | event fd ev g =>
      have hs := loop_tokens_of hpc
      unfold Server.loopStep
      rw [hpc]
      dsimp only
      split
      · exact h.goto (by rw [hpc]; rfl) (by rw [hpc]; rfl)
      · split
        · split
          · exact h.goto (by rw [hpc]; rfl) (by rw [hpc]; rfl)
          · next hstopped =>
              apply h.called false hs (follows_goto _ _)
              · exact fun _ => Bool.not_eq_true _ ▸ hstopped
              · rw [hpc]
                rfl
        · exact h.drop hs (follows_goto s .handling) (by rw [hpc]; rfl)
  | lookup fd ev g =>
      unfold Server.loopStep
      rw [hpc]
      dsimp only
      split
      · exact h.goto (by rw [hpc]; rfl) (by rw [hpc]; rfl)
      · exact h.drop (loop_tokens_of hpc) (follows_goto s .handling) (by rw [hpc]; rfl)
  | loaded fd ev g =>
      have hg := (h.own_good (loop_tokens_of hpc)).2.2.1
      unfold Server.loopStep
      rw [hpc]
      apply h.goto
      · rw [hpc]
        show ({⟨fd, .live (s.conns fd).generation⟩} : Multiset Token) = {⟨fd, .live g⟩}
        rw [hg]
      · rw [hpc]
        rfl
  | pushing e =>
      unfold Server.loopStep
      rw [hpc]
      dsimp only
      split
      · apply h.still (loop_tokens_of hpc)
          (follows_goto { s with queue := s.queue ++ [e] } .handling)
          (fun fd => ⟨rfl, rfl, rfl, rfl, rfl, fun _ => Iff.rfl, id⟩) rfl rfl
        · unfold Server.parked
          dsimp only [LoopPc.tokens]
          rw [tally_append, tally_cons, tally_nil, zero_add, add_zero]
          ac_rfl
        · rw [hpc]
          rfl
      · exact h.goto (by rw [hpc]; rfl) (by rw [hpc]; rfl)
  | uncounting fd g inAccept =>
      unfold Server.loopStep
      rw [hpc]
      apply h.called true (loop_tokens_of hpc) (follows_goto _ _)
      · exact fun hfalse => Bool.noConfusion hfalse
      · rw [hpc]
        rfl
  | cleaning stage fd g uncounted inAccept =>
      have hs := loop_tokens_of hpc
      unfold Server.loopStep
      rw [hpc]
      dsimp only
      have hf := follows_goto (s.cleanup fd stage).1
      rw [cleanup_workers] at hf
      split
      · next hdone =>
          apply safe_cleanup h hs
          · rw [hdone]
            have hback := hf (.back inAccept)
            rw [back_tokens] at hback
            exact hback
          · rw [hpc]
            exact back_pending inAccept
      · apply safe_cleanup h hs (hf _)
        rw [hpc]
        rfl
  | finished =>
      unfold Server.loopStep
      rw [hpc]
      exact h

end Loop

section Worker

variable {s : Server} {w : Nat} {status : Int} {ok : Bool}

theorem safe_worker {pc : WorkerPc} (h : s.Safe) (hw : s.workers[w]? = some pc) :
    (s.workerStep w status ok pc).Safe := by
  obtain ⟨others, hs, hgo⟩ := worker_tokens hw
  cases pc with
  | idle =>
      unfold Server.workerStep
      dsimp only
      split
      · exact h
      · next e rest hqueue =>
          apply h.still hs (hgo { s with queue := rest } (.checking false .active e) rfl rfl)
            (fun fd => ⟨rfl, rfl, rfl, rfl, rfl, fun _ => Iff.rfl, id⟩) rfl rfl
          · unfold Server.parked
            dsimp only [WorkerPc.tokens]
            rw [hqueue, tally_cons, zero_add]
            ac_rfl
          · rfl
  | checking locked check e =>
      unfold Server.workerStep
      dsimp only
      split
      -- a check that is passed keeps the token
      · have htokens : (WorkerPc.passed locked e check).tokens = e.tokens := by
          cases check <;> cases locked <;> rfl
        have hf := hgo s (.passed locked e check) rfl rfl
        rw [htokens] at hf
        exact h.still hs hf (fun fd => Server.Same.refl s fd) rfl rfl rfl rfl
      · split
        · exact h.drop hs (hgo s _ rfl rfl) rfl
        · exact h.drop hs (hgo s _ rfl rfl) rfl
  | locking e =>
      unfold Server.workerStep
      dsimp only
      split
      · exact h
      · exact h.lock hs (hgo (s.setLock e.fd true) _ rfl rfl) rfl
  | dispatching e =>
      unfold Server.workerStep
      dsimp only
      split
      · exact h.still hs (hgo s _ rfl rfl) (fun fd => Server.Same.refl s fd) rfl rfl rfl rfl
      · exact h.still hs (hgo s _ rfl rfl) (fun fd => Server.Same.refl s fd) rfl rfl rfl rfl
  | rearming e mask =>
      unfold Server.workerStep
      dsimp only
      split
      · exact h.arms hs (hgo (s.arm e.fd mask) (.unlocking e.fd) rfl rfl) rfl
      · exact h.drop hs (hgo s (.unlocking e.fd) rfl rfl) rfl
  | unlocking fd => exact h.lock hs (hgo (s.setLock fd false) .idle rfl rfl) rfl
  | releasing e => exact h.lock hs (hgo (s.setLock e.fd false) (.uncounting e) rfl rfl) rfl
  | uncounting e =>
      have hf := hgo (s.uncount.callCleanup e.fd e.generation) (.cleaning .del e) rfl rfl
      apply h.called true hs hf
      · exact fun hfalse => Bool.noConfusion hfalse
      · rfl
  | cleaning stage e =>
      unfold Server.workerStep
      dsimp only
      have hf := fun b => hgo (s.cleanup e.fd stage).1 b (cleanup_workers s e.fd stage)
        (cleanup_loop s e.fd stage)
      split
      · next hdone =>
          apply safe_cleanup h hs
          · rw [hdone]
            exact hf .idle
          · exact congrArg LoopPc.pending (cleanup_loop s e.fd stage)
      · apply safe_cleanup h hs (hf _)
        exact congrArg LoopPc.pending (cleanup_loop s e.fd stage)

end Worker

/-- **A step keeps the lifetimes safe**. -/
theorem safe_step {s : Server} {i : ServerStep} (h : s.Safe) (hi : s.Fresh i) : (s.step i).Safe := by
  cases i with
  | deliver k ev =>
      unfold Server.step
      dsimp only
      split
      · next r hr =>
          split
          · next hwaiting =>
              -- the registration's token goes over to the batch
              obtain ⟨rest, hall, herase, -⟩ := tally_split (f := Registration.tokens) hr
              have hf : Server.Follows
                  { s with
                    armed := s.armed.eraseIdx k
                    batch := s.batch ++ [.client r.fd ev r.generation] }
                  { s with
                    armed := s.armed.eraseIdx k
                    batch := s.batch ++ [.client r.fd ev r.generation] }
                  s.loop.tokens (tally WorkerPc.tokens s.workers) :=
                ⟨rfl, rfl, rfl, rfl, rfl, rfl, rfl⟩
              apply h.still s.loop_tokens hf
                (fun fd => ⟨rfl, rfl, rfl, rfl, rfl, fun _ => Iff.rfl, id⟩) rfl rfl
              · unfold Server.parked
                dsimp only
                rw [herase, hall, tally_append, tally_cons, tally_nil, add_zero]
                unfold Registration.tokens Delivered.tokens
                ac_rfl
              · rfl
          · exact h
      · exact h
  | deliverListener =>
      unfold Server.step
      dsimp only
      split
      · have hf : Server.Follows { s with batch := s.batch ++ [.listener] }
            { s with batch := s.batch ++ [.listener] }
            s.loop.tokens (tally WorkerPc.tokens s.workers) := ⟨rfl, rfl, rfl, rfl, rfl, rfl, rfl⟩
        apply h.still s.loop_tokens hf
          (fun fd => ⟨rfl, rfl, rfl, rfl, rfl, fun _ => Iff.rfl, id⟩) rfl rfl
        · unfold Server.parked
          dsimp only
          rw [tally_append, tally_cons, tally_nil, add_zero]
          exact congrArg (fun m => _ + (_ + m + _)) (add_zero _)
        · rfl
      · exact h
  | loop accepts ok => exact safe_loop h hi
  | worker w status ok =>
      unfold Server.step
      dsimp only
      split
      · next hw => exact safe_worker h hw
      · exact h
  | spawn =>
      have htokens : tally WorkerPc.tokens (s.workers ++ [.idle])
          = tally WorkerPc.tokens s.workers := by
        rw [tally_append, tally_cons, tally_nil, add_zero]
        exact add_zero _
      have hf : Server.Follows s { s with workers := s.workers ++ [.idle] }
          s.loop.tokens (tally WorkerPc.tokens s.workers) := by
        refine ⟨rfl, rfl, rfl, rfl, rfl, rfl, ?_⟩
        rw [← htokens]
        rfl
      exact h.still s.loop_tokens hf (fun fd => Server.Same.refl s fd) rfl rfl rfl rfl
  | stop =>
      have hf : Server.Follows { s with running := false } { s with running := false }
          s.loop.tokens (tally WorkerPc.tokens s.workers) := ⟨rfl, rfl, rfl, rfl, rfl, rfl, rfl⟩
      exact h.still s.loop_tokens hf
        (fun fd => ⟨rfl, rfl, rfl, rfl, rfl, fun _ => Iff.rfl, fun hr => Bool.noConfusion hr⟩)
        rfl rfl rfl rfl

/-! ## What holds in every interleaving -/

/-- The event a worker dispatches, from the pop to the registration or the cleanup. -/
def WorkerPc.event : WorkerPc → Option HalmosEvent
  | .idle => none
  | .checking _ _ e => some e
  | .locking e => some e
  | .dispatching e => some e
  | .rearming e _ => some e
  | .unlocking _ => none
  | .releasing e => some e
  | .uncounting e => some e
  | .cleaning _ _ => none

/-- The cleanup is not past the `close`. -/
def CleanupStage.pending : CleanupStage → Bool
  | .unlock => false
  | .bareClose => false
  | .done => false
  | _ => true

/-- The descriptor and the generation that a thread cleans up. -/
def WorkerPc.cleans : WorkerPc → Option (Int × UInt32)
  | .cleaning stage e => if stage.pending = true then some (e.fd, e.generation) else none
  | _ => none

def LoopPc.cleans : LoopPc → Option (Int × UInt32)
  | .cleaning stage fd g _ _ => if stage.pending = true then some (fd, g) else none
  | _ => none

/-- An accept or a cleanup is halfway. -/
def LoopPc.halfway : LoopPc → Bool
  | .waiting => false
  | .handling => false
  | .acceptTest => false
  | .accept => false
  | .event _ _ _ => false
  | .lookup _ _ _ => false
  | .loaded _ _ _ => false
  | .pushing _ => false
  | .finished => false
  | _ => true

def WorkerPc.halfway : WorkerPc → Bool
  | .uncounting _ => true
  | .cleaning _ _ => true
  | _ => false

/-- The descriptor is open, in the lifetime of the generation. -/
def Server.Current (s : Server) (fd : Int) (g : UInt32) : Prop :=
  s.isOpen fd = true ∧ (s.conns fd).generation = g

section Safe

variable {s : Server} {fd : Int} {g : UInt32} {t : Token}

theorem mem_tokens_of_worker {pc : WorkerPc} (hpc : pc ∈ s.workers) (ht : t ∈ pc.tokens) :
    t ∈ s.tokens := by
  unfold Server.tokens
  rw [Multiset.mem_add, Multiset.mem_add]
  exact Or.inr (Or.inr (mem_tally hpc ht))

theorem mem_tokens_of_queue {e : HalmosEvent} (he : e ∈ s.queue) :
    (⟨e.fd, .live e.generation⟩ : Token) ∈ s.tokens := by
  unfold Server.tokens Server.parked
  rw [Multiset.mem_add, Multiset.mem_add, Multiset.mem_add]
  exact Or.inr (Or.inl (Or.inr (mem_tally he (Multiset.mem_singleton_self _))))

theorem mem_tokens_of_event {pc : WorkerPc} {e : HalmosEvent} (he : pc.event = some e) :
    (⟨e.fd, .live e.generation⟩ : Token) ∈ pc.tokens := by
  cases pc with
  | idle => cases he
  | unlocking fd => cases he
  | cleaning stage e' => cases he
  | checking locked check e' =>
      cases he
      exact Multiset.mem_singleton_self _
  | locking e' =>
      cases he
      exact Multiset.mem_singleton_self _
  | dispatching e' =>
      cases he
      exact Multiset.mem_singleton_self _
  | rearming e' mask =>
      cases he
      exact Multiset.mem_singleton_self _
  | releasing e' =>
      cases he
      exact Multiset.mem_singleton_self _
  | uncounting e' =>
      cases he
      exact Multiset.mem_singleton_self _

/-- A cleanup that is not past the `close` holds the lifetime. -/
theorem current_of_stage {stage : CleanupStage} {uncounted : Bool} (h : s.Safe)
    (hpending : stage.pending = true)
    (hsub : ∀ t ∈ stage.tokens fd g uncounted, t ∈ s.tokens) : s.Current fd g := by
  have hdying : ∀ t : Token, t = ⟨fd, .dying g uncounted⟩ → t.Good s → s.Current fd g := by
    rintro t rfl hgood
    exact ⟨hgood.1, hgood.2.2.1⟩
  have hgone : ∀ t : Token, t = ⟨fd, .gone g⟩ → t.Good s → s.Current fd g := by
    rintro t rfl hgood
    exact ⟨hgood.1, hgood.2.2.1⟩
  cases stage with
  | del => exact hdying _ rfl (h.good _ (hsub _ (Multiset.mem_singleton_self _)))
  | lock => exact hdying _ rfl (h.good _ (hsub _ (Multiset.mem_singleton_self _)))
  | inactive => exact hdying _ rfl (h.good _ (hsub _ (Multiset.mem_singleton_self _)))
  | dead => exact hgone _ rfl (h.good _ (hsub _ (Multiset.mem_singleton_self _)))
  | close => exact hgone _ rfl (h.good _ (hsub _ (Multiset.mem_singleton_self _)))
  | unlock => cases hpending
  | bareClose => cases hpending
  | done => cases hpending

theorem current_of_worker {pc : WorkerPc} (h : s.Safe) (hpc : pc ∈ s.workers)
    (hcleans : pc.cleans = some (fd, g)) : s.Current fd g := by
  unfold WorkerPc.cleans at hcleans
  split at hcleans
  · next stage e =>
      split at hcleans
      · next hpending =>
          cases hcleans
          apply current_of_stage h hpending
          exact fun t ht => mem_tokens_of_worker hpc ht
      · cases hcleans
  · cases hcleans

theorem current_of_loop (h : s.Safe) (hcleans : s.loop.cleans = some (fd, g)) :
    s.Current fd g := by
  unfold LoopPc.cleans at hcleans
  split at hcleans
  · next stage fd' g' uncounted inAccept hpc =>
      split at hcleans
      · next hpending =>
          cases hcleans
          apply current_of_stage h hpending
          intro t ht
          rw [loop_tokens_of hpc]
          exact Multiset.mem_add.mpr (Or.inl ht)
      · cases hcleans
  · cases hcleans

/-- The places of the claim are among those of the tokens. -/
theorem places_le_one (h : s.Safe) (fd : Int) :
    s.armed.countP (fun r => r.fd = fd) + s.queue.countP (fun e => e.fd = fd)
      + s.workers.countP (fun pc => pc.event.any (fun e => e.fd = fd)) ≤ 1 := by
  have hone := h.one fd
  unfold Server.tokens Server.parked at hone
  rw [Multiset.countP_add, Multiset.countP_add, Multiset.countP_add, Multiset.countP_add] at hone
  have harmed : s.armed.countP (fun r => r.fd = fd)
      ≤ (tally Registration.tokens s.armed).countP (fun t => t.fd = fd) :=
    countP_le_countP_tally (fun r _ hr =>
      ⟨_, Multiset.mem_singleton_self _, of_decide_eq_true hr⟩)
  have hqueue : s.queue.countP (fun e => e.fd = fd)
      ≤ (tally HalmosEvent.tokens s.queue).countP (fun t => t.fd = fd) :=
    countP_le_countP_tally (fun e _ he =>
      ⟨_, Multiset.mem_singleton_self _, of_decide_eq_true he⟩)
  have hworkers : s.workers.countP (fun pc => pc.event.any (fun e => e.fd = fd))
      ≤ (tally WorkerPc.tokens s.workers).countP (fun t => t.fd = fd) := by
    apply countP_le_countP_tally
    intro pc _ hany
    cases he : pc.event with
    | none =>
        rw [he] at hany
        cases hany
    | some e =>
        rw [he] at hany
        exact ⟨_, mem_tokens_of_event he, of_decide_eq_true hany⟩
  omega

/-- A thread that is not halfway through an accept or a cleanup has lifetimes that are live. -/
theorem live_of_not_halfway (hloop : s.loop.halfway = false)
    (hworkers : ∀ pc ∈ s.workers, pc.halfway = false) :
    s.loop.pending = 0 ∧ ∀ t ∈ s.tokens, ∃ g, t.phase = .live g := by
  have hsingle : ∀ fd g, ∀ t ∈ ({⟨fd, .live g⟩} : Multiset Token), ∃ g, t.phase = .live g := by
    intro fd g t ht
    rw [Multiset.mem_singleton.mp ht]
    exact ⟨g, rfl⟩
  have hnothing : ∀ t ∈ (0 : Multiset Token), ∃ g, t.phase = .live g :=
    fun t ht => absurd ht (Multiset.notMem_zero t)
  have hlist : ∀ {α : Type} (f : α → Multiset Token) (l : List α),
      (∀ a ∈ l, ∀ t ∈ f a, ∃ g, t.phase = .live g) →
      ∀ t ∈ tally f l, ∃ g, t.phase = .live g := by
    intro α f l hl t ht
    obtain ⟨a, ha, hmem⟩ := exists_of_mem_tally ht
    exact hl a ha t hmem
  refine ⟨?_, ?_⟩
  · cases hpc : s.loop <;> rw [hpc] at hloop <;> first | rfl | cases hloop
  · intro t ht
    unfold Server.tokens Server.parked at ht
    rw [Multiset.mem_add, Multiset.mem_add, Multiset.mem_add, Multiset.mem_add] at ht
    -- a token is the loop's, a registration's, of the batch, of the queue or a worker's
    rcases ht with ht | ((ht | ht) | ht) | ht
    · cases hpc : s.loop <;> rw [hpc] at hloop ht <;>
        first | exact hnothing t ht | exact hsingle _ _ t ht | cases hloop
    · exact hlist _ _ (fun r _ => hsingle _ _) t ht
    · apply hlist _ _ _ t ht
      intro d _
      cases d with
      | listener => exact hnothing
      | client fd ev g => exact hsingle fd g
    · exact hlist _ _ (fun e _ => hsingle _ _) t ht
    · apply hlist _ _ _ t ht
      intro pc hpc
      have hnot := hworkers pc hpc
      cases pc <;> first | exact hnothing | exact hsingle _ _ | cases hnot

theorem weigh_eq_zero {m : Multiset Token} (h : ∀ t ∈ m, ∃ g, t.phase = .live g) :
    weigh m = 0 := by
  unfold weigh
  rw [Multiset.sum_eq_zero]
  intro x hx
  obtain ⟨t, ht, rfl⟩ := Multiset.mem_map.mp hx
  obtain ⟨g, hg⟩ := h t ht
  rw [hg]
  rfl

/-- Between accepts and cleanups, the open descriptors are those of the active slots. -/
theorem isOpen_iff (h : s.Safe) (hlive : ∀ t ∈ s.tokens, ∃ g, t.phase = .live g) (fd : Int) :
    s.isOpen fd = true ↔ s.InRange fd ∧ (s.conns fd).active = true := by
  constructor
  · intro hopen
    by_cases hany : ∃ t ∈ s.tokens, t.fd = fd
    · obtain ⟨⟨fd', phase⟩, ht, rfl⟩ := hany
      obtain ⟨g, rfl⟩ := hlive _ ht
      obtain ⟨-, hin, -, -, -, hactive, -⟩ := h.good _ ht
      exact ⟨hin, hactive⟩
    · exact h.kept fd hopen (fun t ht heq => hany ⟨t, ht, heq⟩)
  · rintro ⟨-, hactive⟩
    by_contra hclosed
    rw [h.closed fd (Bool.not_eq_true _ ▸ hclosed)] at hactive
    cases hactive

end Safe

theorem safe_start (maxFd workers : Nat) : (Server.start maxFd workers).Safe := by
  have htokens : (Server.start maxFd workers).tokens = 0 := by
    unfold Server.tokens
    rw [show tally WorkerPc.tokens (Server.start maxFd workers).workers = 0 from
      tally_eq_zero (fun pc hpc => by rw [List.eq_of_mem_replicate hpc]; rfl)]
    rfl
  refine ⟨?_, ?_, fun _ _ => rfl, ?_, ?_, List.nodup_nil, ?_⟩
  · intro fd
    rw [htokens]
    exact Nat.zero_le 1
  · intro t ht
    rw [htokens] at ht
    exact absurd ht (Multiset.notMem_zero t)
  · exact fun fd hopen => Bool.noConfusion hopen
  · exact fun fd g hmem => absurd hmem List.not_mem_nil
  · intro _
    rw [htokens]
    show (0 : Int) = (∑ fd ∈ Finset.range maxFd, (0 : Int)) + 0 + 0
    rw [Finset.sum_const_zero]
    rfl

/-- **Every interleaving** of the event loop with any number of workers: a lifetime is armed, queued
or dispatched, never two of these; every queued event, every dispatch and every cleanup is of the
current lifetime of its slot; no lifetime is cleaned up twice; and while the server runs and no
accept or cleanup is halfway, `active_connections` is the number of active slots, which are those of
the open descriptors. -/
theorem lifetimes_run (maxFd workers : Nat) {is : List ServerStep}
    (hrun : GuardedRun Server.Fresh Server.step (Server.start maxFd workers) is) :
    let s := runSteps Server.step (Server.start maxFd workers) is
    (∀ fd, s.armed.countP (fun r => r.fd = fd) + s.queue.countP (fun e => e.fd = fd)
        + s.workers.countP (fun pc => pc.event.any (fun e => e.fd = fd)) ≤ 1)
      ∧ (∀ e ∈ s.queue, s.Current e.fd e.generation)
      ∧ (∀ pc ∈ s.workers, ∀ e, pc.event = some e → s.Current e.fd e.generation)
      ∧ (∀ pc ∈ s.workers, ∀ fd g, pc.cleans = some (fd, g) → s.Current fd g)
      ∧ (∀ fd g, s.loop.cleans = some (fd, g) → s.Current fd g)
      ∧ s.cleaned.Nodup
      ∧ (s.running = true → s.loop.halfway = false → (∀ pc ∈ s.workers, pc.halfway = false) →
          s.activeConnections = s.live
            ∧ ∀ fd, s.isOpen fd = true ↔ s.InRange fd ∧ (s.conns fd).active = true) := by
  intro s
  have h : s.Safe :=
    GuardedRun.invariant (fun _ _ hbefore hi => safe_step hbefore hi) (safe_start maxFd workers) hrun
  refine ⟨places_le_one h, ?_, ?_, fun pc hpc fd g => current_of_worker h hpc,
    fun fd g => current_of_loop h, h.once, ?_⟩
  · intro e he
    have hgood := h.good _ (mem_tokens_of_queue he)
    exact ⟨hgood.1, hgood.2.2.1⟩
  · intro pc hpc e he
    have hgood := h.good _ (mem_tokens_of_worker hpc (mem_tokens_of_event he))
    exact ⟨hgood.1, hgood.2.2.1⟩
  · intro hrunning hloop hworkers
    obtain ⟨hpending, hlive⟩ := live_of_not_halfway hloop hworkers
    refine ⟨?_, isOpen_iff h hlive⟩
    rw [h.count hrunning, weigh_eq_zero hlive, hpending, Int.add_zero, Int.add_zero]

/-- A connection is accepted on descriptor 5, and the batch goes on. -/
theorem lifetimes_run_accept :
    let is := ServerStep.deliverListener :: List.replicate 13 (.loop (some 5) true)
      ++ [.loop none false]
    let s := runSteps Server.step (Server.start 16 2) is
    s.loop = .handling ∧ s.armed.length = 1 ∧ s.activeConnections = s.live := by
  intro is s
  have hrun : GuardedRun Server.Fresh Server.step (Server.start 16 2) is := by
    refine ⟨trivial, trivial, trivial, trivial, trivial, trivial, trivial, trivial, ?_, trivial,
      trivial, trivial, trivial, trivial, trivial, trivial⟩
    show (0 : UInt32) ≠ 0xFFFFFFFF
    decide
  obtain ⟨-, -, -, -, -, -, hcount⟩ := lifetimes_run 16 2 hrun
  refine ⟨by decide, by decide, (hcount (by decide) (by decide) ?_).1⟩
  decide

end Halmos.Core
