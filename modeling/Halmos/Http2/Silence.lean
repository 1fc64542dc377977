import Halmos.Http2.Work

set_option autoImplicit false

/-! # Silence on closed streams

A request that comes on a stream that is closed is answered all the same, and RST_STREAM stops a file
but no FastCGI exchange. In a run without these, and without two answers in progress on one stream,
the server sends nothing behind END_STREAM or RST_STREAM (`orderly_run`).
-/

namespace Halmos.Http2

open Fcgi

/-- The reply can go out next to the work on its stream. -/
def Reply.Fits (w : Work) : Reply → Prop
  | .upgraded => True
  | .forwarded => w.file = false
  | .ended => w = ⟨false, false⟩
  | .file => w.fcgi = false

/-- A frame with this reply: a request comes on a stream that is open and has no other answer in
progress, and RST_STREAM finds no FastCGI exchange. -/
def Frame.OnOpen (f : Frame) (w : Work) (trace : List Traced) : Option Reply → Prop
  | some reply => ¬ Closed f.streamId trace ∧ reply.Fits w
  | none => f.type = 0x03 → w.fcgi = false

def Run.Input.OnOpen (r : Run) : Run.Input → Prop
  | .frame f env => f.OnOpen (workOf r.server f.streamId) r.trace (frameReply env r.server f)
  | .flush _ => True

/-- Nothing has been sent on a closed stream, and nothing will be. -/
structure Silent (id : Nat) (w : Work) (trace : List Traced) : Prop where
  orderly : Orderly id trace
  closed : Closed id trace → w = ⟨false, false⟩
  single : w.fcgi = true → w.file = false

/-- Every stream is silent when it is closed. -/
def Run.Silent (r : Run) : Prop :=
  Sized r.server ∧ ∀ id, Http2.Silent id (workOf r.server id) r.trace

section Silence

variable {id : Nat} {w w' : Work} {trace : List Traced} {es : List Event} {f : Frame}

/-- What happens on other streams. -/
theorem Silent.append (h : Silent id w trace) {more : List Traced}
    (hanswers : ∀ x ∈ more, ¬ x.Answers id) (hcloses : ∀ x ∈ more, ¬ x.Closes id) :
    Silent id w (trace ++ more) := by
  refine ⟨?_, ?_, h.single⟩
  · apply h.orderly.append (orderly_of_silent hanswers)
    intro _
    exact hanswers
  · intro hclosed
    rcases closed_append.mp hclosed with hclosed | ⟨x, hx, hclose⟩
    · exact h.closed hclosed
    · exact absurd hclose (hcloses x hx)

theorem forall_did {P : Traced → Prop} (h : ∀ e ∈ es, P (.did e)) : ∀ x ∈ es.map Traced.did, P x := by
  intro x hx
  obtain ⟨e, he, rfl⟩ := List.mem_map.mp hx
  exact h e he

/-- Frames that are no answers do not close a stream either. -/
theorem Silent.quiet (h : Silent id w trace) (hsilent : ∀ e ∈ es, ¬ (Traced.did e).Answers id) :
    Silent id w (trace ++ es.map .did) :=
  h.append (forall_did hsilent)
    (forall_did (fun e he hclose => hsilent e he (answers_of_closes hclose)))

/-- On an open stream the frames of an answer without END_STREAM may go out. -/
theorem Silent.unclosed (h : Silent id w trace) (hopen : ¬ Closed id trace)
    (hcloses : ∀ e ∈ es, ¬ (Traced.did e).Closes id) (hsingle : w'.fcgi = true → w'.file = false) :
    Silent id w' (trace ++ es.map .did) := by
  have hmore : ¬ Closed id (es.map Traced.did) := by
    rintro ⟨x, hx, hclose⟩
    obtain ⟨e, he, rfl⟩ := List.mem_map.mp hx
    exact hcloses e he hclose
  refine ⟨?_, ?_, hsingle⟩
  · apply h.orderly.append (orderly_of_not_closed hmore)
    intro hclosed
    exact absurd hclosed hopen
  · intro hclosed
    rcases closed_append.mp hclosed with hclosed | hclosed
    · exact absurd hclosed hopen
    · exact absurd hclosed hmore

/-- A reply on an open stream. -/
theorem Silent.reply {r : Reply} (h : Silent id w trace) (hopen : ¬ Closed id trace)
    (hfits : r.Fits w) (hdoes : r.Does id w w' es) : Silent id w' (trace ++ es.map .did) := by
  cases r with
  | upgraded =>
      obtain ⟨hwork, hcloses⟩ := hdoes
      rw [hwork]
      exact h.unclosed hopen hcloses h.single
  | forwarded =>
      obtain ⟨hwork, hsilent⟩ := hdoes
      apply h.unclosed hopen (fun e he hclose => hsilent e he (answers_of_closes hclose))
      intro _
      rw [hwork]
      exact hfits
  | file =>
      obtain ⟨hwork, hcloses⟩ := hdoes
      apply h.unclosed hopen hcloses
      intro hfcgi
      rw [hwork] at hfcgi
      have hnone : w.fcgi = false := hfits
      rw [hnone] at hfcgi
      cases hfcgi
  | ended =>
      -- Nothing else is in progress, so nothing follows END_STREAM.
      obtain ⟨hwork, horderly⟩ := hdoes
      have hidle : w = ⟨false, false⟩ := hfits
      refine ⟨?_, fun _ => hwork.trans hidle, ?_⟩
      · apply h.orderly.append horderly
        intro hclosed
        exact absurd hclosed hopen
      · intro hfcgi
        rw [hwork, hidle] at hfcgi
        cases hfcgi

/-- A visit of the pump. -/
theorem Silent.visit {a : Activity} (h : Silent id w trace) (hdoes : VisitDoes id w w' a es) :
    Silent id w' (trace ++ es.map .did) := by
  have hidle : w = ⟨false, false⟩ → w' = ⟨false, false⟩ := by
    intro hw
    have hfcgi : w'.fcgi = false := by
      rw [← Bool.not_eq_true]
      intro hon
      have hbefore := hdoes.fcgi hon
      rw [hw] at hbefore
      cases hbefore
    have hfile : w'.file = false := by
      rw [← Bool.not_eq_true]
      intro hon
      have hbefore := hdoes.file hon
      rw [hw] at hbefore
      cases hbefore
    cases w'
    simp_all
  refine ⟨?_, ?_, ?_⟩
  · apply h.orderly.append hdoes.orderly
    intro hclosed
    rw [hdoes.idle (h.closed hclosed)]
    intro x hx
    cases hx
  · intro hclosed
    rcases closed_append.mp hclosed with hclosed | hclosed
    · exact hidle (h.closed hclosed)
    · -- END_STREAM is sent: the work that sent it was the only one, and it is done.
      cases a with
      | fcgi =>
          have hne : es ≠ [] := by
            intro hnil
            rw [hnil] at hclosed
            exact not_closed_nil hclosed
          obtain ⟨hbefore, hafter⟩ := hdoes.exchange rfl hne
          have hfile : w'.file = false := by
            rw [← Bool.not_eq_true]
            intro hon
            have hon' := hdoes.file hon
            rw [h.single hbefore] at hon'
            cases hon'
          cases w'
          simp_all
      | file =>
          obtain ⟨hbefore, hafter⟩ := hdoes.last rfl hclosed
          have hfcgi : w'.fcgi = false := by
            rw [← Bool.not_eq_true]
            intro hon
            rw [h.single (hdoes.fcgi hon)] at hbefore
            cases hbefore
          cases w'
          simp_all
  · intro hfcgi
    rw [← Bool.not_eq_true]
    intro hfile
    have hnone := h.single (hdoes.fcgi hfcgi)
    rw [hdoes.file hfile] at hnone
    cases hnone

end Silence

section Runs

variable {r : Run}

/-- A frame. -/
theorem silent_frame {f : Frame} {env : Environment} (h : r.Silent)
    (hopen : Run.Input.OnOpen r (.frame f env)) : (r.step (.frame f env)).Silent := by
  obtain ⟨hsized, hsilent⟩ := h
  rw [Run.step_frame]
  refine ⟨sized_handleFrame hsized, ?_⟩
  intro id
  have hid := hsilent id
  dsimp only
  rw [List.append_cons]
  by_cases hother : f.streamId = id
  · subst hother
    have hdoes := handleFrame_does env hsized f
    have hopen' : f.OnOpen (workOf r.server f.streamId) r.trace (frameReply env r.server f) := hopen
    have hreceived : ∀ x ∈ [Traced.received f], ¬ x.Answers f.streamId := by
      rw [List.forall_mem_singleton]
      exact fun h => h
    cases hreply : frameReply env r.server f with
    | none =>
        rw [hreply] at hdoes hopen'
        obtain ⟨hwork, hquiet⟩ := hdoes
        apply Silent.quiet _ hquiet
        rw [hwork]
        unfold Work.after
        by_cases h3 : f.type = 0x03
        · -- RST_STREAM ends the file, and there is no exchange.
          have hnone : (workOf r.server f.streamId).fcgi = false := hopen' h3
          rw [if_pos h3]
          refine ⟨?_, ?_, fun _ => rfl⟩
          · apply hid.orderly.append (orderly_of_silent hreceived)
            intro _
            exact hreceived
          · intro _
            rw [hnone]
        · rw [if_neg h3]
          apply hid.append hreceived
          rw [List.forall_mem_singleton]
          exact fun hclose => h3 hclose.2
    | some reply =>
        rw [hreply] at hdoes hopen'
        have h3 : f.type ≠ 0x03 := by
          intro h3
          rw [frameReply_of_rst h3] at hreply
          cases hreply
        have hcloses : ∀ x ∈ [Traced.received f], ¬ x.Closes f.streamId := by
          rw [List.forall_mem_singleton]
          exact fun hclose => h3 hclose.2
        have hstill : ¬ Closed f.streamId (r.trace ++ [Traced.received f]) := by
          intro hclosed
          rcases closed_append.mp hclosed with hclosed | ⟨x, hx, hclose⟩
          · exact hopen'.1 hclosed
          · exact hcloses x hx hclose
        exact (hid.append hreceived hcloses).reply hstill hopen'.2 hdoes
  · rw [workOf_handleFrame env hsized hother]
    have hreceived : Silent id (workOf r.server id) (r.trace ++ [Traced.received f]) := by
      apply hid.append
      · rw [List.forall_mem_singleton]
        exact fun h => h
      · rw [List.forall_mem_singleton]
        exact fun hclose => hother hclose.1
    exact hreceived.quiet (not_answers_handleFrame (fun h => absurd h hother))

theorem silent_visit (env : Environment) (target : Nat × Activity) (h : r.Silent) :
    (r.visit env target).Silent := by
  obtain ⟨hsized, hsilent⟩ := h
  refine ⟨sized_flushStream hsized _, ?_⟩
  intro id
  show Http2.Silent id (workOf (flushStream env r.server target.1 target.2).1 id)
    (r.trace ++ (flushStream env r.server target.1 target.2).2.map .did)
  by_cases hid : id = target.1
  · subst hid
    exact (hsilent target.1).visit (flushStream_does env r.server target.1 target.2)
  · rw [workOf_untouched (untouched_flushStream target.2 hid)]
    apply (hsilent id).quiet
    intro e he
    exact (not_answers_of_answer (answer_flushStream target.2 e he) hid).1

theorem silent_step {i : Run.Input} (h : r.Silent) (hopen : i.OnOpen r) : (r.step i).Silent := by
  cases i with
  | frame f env => exact silent_frame h hopen
  | flush env =>
      apply Run.flush_induction h
      intro target _ r' h'
      exact silent_visit env target h'

theorem silent_fresh (streams : Nat → StreamRest) : (Run.fresh streams).Silent := by
  refine ⟨sized_fresh _, ?_⟩
  intro id
  have hnone : workOf (Run.fresh streams).server id = ⟨false, false⟩ :=
    workOf_of_none (lookup_fresh _ id)
  rw [hnone]
  exact ⟨orderly_nil, fun h => absurd h not_closed_nil, fun h => (nomatch h)⟩

end Runs

/-- **Silence on closed streams.** In every run whose requests come on open streams without another
answer in progress, and whose RST_STREAM frames find no FastCGI exchange, the server sends no HEADERS
or DATA on a stream behind END_STREAM or RST_STREAM. -/
theorem orderly_run {streams : Nat → StreamRest} {is : List Run.Input}
    (hrun : GuardedRun Run.Input.OnOpen Run.step (Run.fresh streams) is) (id : Nat) :
    Orderly id (runSteps Run.step (Run.fresh streams) is).trace := by
  have hsilent : (runSteps Run.step (Run.fresh streams) is).Silent := by
    apply GuardedRun.invariant _ (silent_fresh streams) hrun
    intro r i h hopen
    exact silent_step h hopen
  exact (hsilent.2 id).orderly

/-! ## Two requests on a stream -/

/-- A GET of `/` on stream 1. -/
def getRoot : Frame := ⟨0x01, 0x05, 1, [0x82, 0x84], Frame.length_getRoot, Frame.streamId_one⟩

/-- The file asked for is empty. -/
def emptyFile : Environment := { Environment.plain with route := .file 3 0 }

theorem orderly_run_getRoot :
    Orderly 1 (runSteps Run.step (Run.fresh (fun _ => .new .plain))
      [.frame getRoot emptyFile]).trace := by
  apply orderly_run
  refine ⟨?_, trivial⟩
  have hwork : workOf (Run.fresh (fun _ => .new .plain)).server getRoot.streamId = ⟨false, false⟩ :=
    workOf_of_none (lookup_fresh _ _)
  have hreply : frameReply emptyFile (Run.fresh (fun _ => .new .plain)).server getRoot
      = some .ended := by decide
  show getRoot.OnOpen _ _ (frameReply emptyFile (Run.fresh (fun _ => .new .plain)).server getRoot)
  rw [hreply]
  exact ⟨not_closed_nil, hwork⟩

/-- The second request is answered behind END_STREAM. -/
theorem not_orderly_twice :
    ∃ (streams : Nat → StreamRest) (is : List Run.Input) (id : Nat),
      ¬ Orderly id (runSteps Run.step (Run.fresh streams) is).trace :=
  ⟨fun _ => .new .plain, [.frame getRoot emptyFile, .frame getRoot emptyFile], 1, by decide⟩

end Halmos.Http2
