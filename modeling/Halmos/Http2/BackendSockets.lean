import Halmos.Fcgi.Stdin
import Halmos.Http2.Silence

set_option autoImplicit false

/-! # The backend sockets of a session

A stream gets a backend socket when the router forwards its request, and the pump gives it back when
the exchange is over. A second request writes over the number of the first socket, and
`http2_session_destroy` does not look at it; and the pump gives a socket back in the same way after
an error. A run without these gives every socket back once (`sockets_released`).
-/

namespace Halmos.Http2

open Fcgi

/-! ## Sockets -/

/-- The sockets of a session, counted in the order of `fcgi_session_http2_create`: how many it has
got, the one in `fpm_fd` of each stream, those on which a call failed or a record was cut off, and
the calls of `fcgi_pool_conn_release` with whether they leave the socket idle. -/
structure Sockets where
  got : Nat
  fpmFd : Nat → Option Nat
  spoilt : List Nat
  released : List (Nat × Bool)

/-- What `fcgi_pool_conn_release` finds: a slot for the socket, `SO_ERROR`, and the end of the
connection. -/
structure Probe where
  pooled : Bool
  soError : Bool
  peekEof : Bool

/-- The socket is left idle. -/
def Probe.idle (p : Probe) : Bool := p.pooled && !p.soError && !p.peekEof

/-- Some bytes go out, but not all. -/
def CutOff (whole out : List UInt8) : Prop := out ≠ [] ∧ out ≠ whole

instance (whole out : List UInt8) : Decidable (CutOff whole out) :=
  inferInstanceAs (Decidable (_ ∧ _))

/-- A call of the step fails, or a STDIN record goes out in part. What is left of the parameters is
sent later. -/
def spoils (s : FcgiStream) (i : StepInput) : Bool :=
  match s.fcgiState with
  | 0 => i.pollOut ∧ i.send = .failed
  | 1 => i.pollOut ∧ i.send = .failed
  | 2 => i.pollOut ∧
      ((s.stdinSent < s.contentLength.toNat ∧ (i.send = .failed ∨ i.sendBody = .failed ∨
        CutOff (chunkHeader s ++ chunkData s)
          (i.send.taken (chunkHeader s) ++ i.sendBody.taken (chunkData s)))) ∨
      ((stdinStep i s).stream.fcgiState = 3 ∧ (i.sendEof = .failed ∨
        CutOff (stdinEof s.streamId) (i.sendEof.taken (stdinEof s.streamId)))))
  | 3 => i.pollIn ∧ (i.recv = .failed ∨ i.recv = .eof)
  | _ => false

/-- The visit to the exchange spoils its socket. -/
def spoilsSocket (env : Environment) (s : Server) (id : Nat) : Bool :=
  match http2StreamFind s id, env.fcgi id with
  | some st, some i => st.isFcgiActive ∧ spoils (fcgiView st (s.rest.streams id)) i
  | _, _ => false

/-- The visit to the exchange ends it. -/
def endsExchange (env : Environment) (s : Server) (id : Nat) : Bool :=
  match http2StreamFind s id, env.fcgi id with
  | some st, some i =>
      st.isFcgiActive ∧ (fcgiSessionHttp2Step (fcgiView st (s.rest.streams id)) i).status ≠ .continue
  | _, _ => false

/-- `route_fastcgi_backend` has got a socket for the stream. -/
def Sockets.acquire (x : Sockets) (id : Nat) : Sockets :=
  { x with got := x.got + 1, fpmFd := Function.update x.fpmFd id (some x.got) }

/-- The FastCGI half of a visit. -/
def Sockets.visit (x : Sockets) (env : Environment) (probe : Nat → Probe) (s : Server) (id : Nat) :
    Sockets :=
  match x.fpmFd id with
  | none => x
  | some n =>
      let x := if spoilsSocket env s id then { x with spoilt := n :: x.spoilt } else x
      if endsExchange env s id then
        { x with
          fpmFd := Function.update x.fpmFd id none
          released := (n, (probe id).idle) :: x.released }
      else x

/-- A session and its sockets. -/
structure SocketRun where
  run : Run
  sockets : Sockets

/-- A frame, or a pass of the pump with what the releases in it find. -/
inductive SocketRun.Input where
  | frame (f : Frame) (env : Environment)
  | flush (env : Environment) (probe : Nat → Probe)

def SocketRun.visit (env : Environment) (probe : Nat → Probe) (r : SocketRun)
    (target : Nat × Activity) : SocketRun where
  run := r.run.visit env target
  sockets :=
    match target.2 with
    | .fcgi => r.sockets.visit env probe r.run.server target.1
    | .file => r.sockets

def SocketRun.step (r : SocketRun) : SocketRun.Input → SocketRun
  | .frame f env =>
      ⟨r.run.step (.frame f env),
        if frameReply env r.run.server f = some .forwarded then r.sockets.acquire f.streamId
        else r.sockets⟩
  | .flush env probe => runSteps (SocketRun.visit env probe) r (activeStreams r.run.server)

/-- `http2_session_destroy` frees the streams. -/
def SocketRun.destroy (r : SocketRun) : Sockets := { r.sockets with fpmFd := fun _ => none }

def SocketRun.fresh (streams : Nat → StreamRest) : SocketRun :=
  ⟨Run.fresh streams, ⟨0, fun _ => none, [], []⟩⟩

/-! ## What is to be shown -/

/-- The visit releases a spoilt socket only if the release finds something wrong with it. -/
def SocketRun.Probed (env : Environment) (probe : Nat → Probe) (r : SocketRun)
    (target : Nat × Activity) : Prop :=
  target.2 = .fcgi → ∀ n, r.sockets.fpmFd target.1 = some n →
    endsExchange env r.run.server target.1 = true →
    n ∈ r.sockets.spoilt ∨ spoilsSocket env r.run.server target.1 = true →
    (probe target.1).idle = false

/-- No request is forwarded on a stream whose exchange is in progress, and every release of a spoilt
socket finds something wrong with it. -/
def SocketRun.Input.Careful (r : SocketRun) : SocketRun.Input → Prop
  | .frame f env => frameReply env r.run.server f = some .forwarded →
      (workOf r.run.server f.streamId).fcgi = false
  | .flush env probe => GuardedRun (SocketRun.Probed env probe) (SocketRun.visit env probe) r
      (activeStreams r.run.server)

/-- Every socket is in one stream or has been released once, and no spoilt one has been left idle. -/
structure SocketRun.Accounted (r : SocketRun) : Prop where
  sized : Sized r.run.server
  active : ∀ id, (workOf r.run.server id).fcgi = (r.sockets.fpmFd id).isSome
  held : ∀ id n, r.sockets.fpmFd id = some n →
    n < r.sockets.got ∧ n ∉ r.sockets.released.map Prod.fst
  single : ∀ id k n, r.sockets.fpmFd id = some n → r.sockets.fpmFd k = some n → id = k
  once : (r.sockets.released.map Prod.fst).Nodup
  bound : ∀ n ∈ r.sockets.released.map Prod.fst, n < r.sockets.got
  all : ∀ n < r.sockets.got,
    n ∈ r.sockets.released.map Prod.fst ∨ ∃ id, r.sockets.fpmFd id = some n
  spoilt : ∀ e ∈ r.sockets.released, e.1 ∈ r.sockets.spoilt → e.2 = false

/-! ## Frames and visits -/

section Steps

variable {env : Environment} {s : Server} {id : Nat} {f : Frame}

/-- A step leaves the end of the exchange to its caller. -/
theorem fcgiStep_isFcgiActive (st : FcgiStream) (i : StepInput) :
    (fcgiSessionHttp2Step st i).stream.isFcgiActive = st.isFcgiActive := by
  have hparams : ∀ st : FcgiStream, (paramsStep i st).stream.isFcgiActive = st.isFcgiActive := by
    intro st
    unfold paramsStep
    dsimp only
    repeat' split
    all_goals rfl
  have hend : ∀ (out : List UInt8) (st : FcgiStream),
      (stdinEnd i out st).stream.isFcgiActive = st.isFcgiActive := by
    intro out st
    unfold stdinEnd
    split <;> rfl
  unfold fcgiSessionHttp2Step
  split
  · rfl
  · split
    · exact hparams _
    · exact hparams _
    · unfold stdinStep
      dsimp only
      repeat' split
      all_goals first | rfl | exact hend _ _
    · unfold receiveStep delimStep
      repeat' split
      all_goals rfl
    · rfl

/-- A visit to an exchange goes on with it or ends it. -/
theorem fcgi_flushFcgiStream :
    (workOf (flushFcgiStream env s id).1 id).fcgi
      = ((workOf s id).fcgi && !endsExchange env s id) := by
  unfold flushFcgiStream
  split
  · next st i hfind hinput =>
      have hends : endsExchange env s id = decide (st.isFcgiActive ∧
          (fcgiSessionHttp2Step (fcgiView st (s.rest.streams id)) i).status ≠ .continue) := by
        unfold endsExchange
        rw [hfind, hinput]
      have hlook := (lookup_of_find hfind).2
      dsimp only
      rw [workOf_putBack hlook, workOf_of_lookup hlook, hends]
      dsimp only
      unfold flushFcgi
      have hstep := fcgiStep_isFcgiActive (fcgiView st (s.rest.streams id)) i
      have hview : (fcgiView st (s.rest.streams id)).isFcgiActive = st.isFcgiActive := rfl
      by_cases hactive : st.isFcgiActive = true
      · rw [if_pos (show (fcgiView st (s.rest.streams id)).isFcgiActive = true from hactive)]
        dsimp only
        by_cases hcont : (fcgiSessionHttp2Step (fcgiView st (s.rest.streams id)) i).status = .continue
        · rw [if_pos hcont, hstep.trans hview]
          simp [hactive, hcont]
        · rw [if_neg hcont]
          simp [hactive, hcont]
      · rw [if_neg (show ¬ (fcgiView st (s.rest.streams id)).isFcgiActive = true from hactive)]
        rw [hview]
        simp [hactive]
  · next hnot =>
      have hgoes : endsExchange env s id = false := by
        unfold endsExchange
        split
        · next st i hfind hinput => exact absurd hinput (hnot st i hfind)
        · rfl
      rw [hgoes]
      simp

theorem fcgi_flushFileStream :
    (workOf (flushFileStream env s id).1 id).fcgi = (workOf s id).fcgi := by
  rcases flushFileStream_cases env s id with hnop | ⟨st, data, -, ⟨-, hclose⟩ | ⟨-, hsend⟩⟩
  · rw [hnop]
  · rw [hclose]
    dsimp only
    rw [workOf_closeFile]
  · rw [hsend]
    dsimp only
    split
    · rw [workOf_closeFile, workOf_advance]
    · rw [workOf_advance]

/-- A frame begins an exchange when its request is forwarded. -/
theorem fcgi_handleFrame (env : Environment) (hsized : Sized s) (f : Frame) :
    (workOf (handleFrame env s f).1 f.streamId).fcgi
      = if frameReply env s f = some .forwarded then true else (workOf s f.streamId).fcgi := by
  have hdoes := handleFrame_does env hsized f
  cases hreply : frameReply env s f with
  | none =>
      rw [hreply] at hdoes
      rw [hdoes.1, if_neg (by simp)]
      unfold Work.after
      split <;> rfl
  | some reply =>
      rw [hreply] at hdoes
      cases reply with
      | forwarded =>
          have hwork : workOf (handleFrame env s f).1 f.streamId
              = { workOf s f.streamId with fcgi := true } := hdoes.1
          rw [hwork, if_pos rfl]
      | upgraded =>
          have hwork : workOf (handleFrame env s f).1 f.streamId = workOf s f.streamId := hdoes.1
          rw [hwork, if_neg (by simp)]
      | ended =>
          have hwork : workOf (handleFrame env s f).1 f.streamId = workOf s f.streamId := hdoes.1
          rw [hwork, if_neg (by simp)]
      | file =>
          have hwork : workOf (handleFrame env s f).1 f.streamId
              = { workOf s f.streamId with file := true } := hdoes.1
          rw [hwork, if_neg (by simp)]

end Steps

/-! ## Sockets in a run -/

section Accounted

variable {r : SocketRun} {env : Environment} {probe : Nat → Probe}

/-- A new socket on a stream that has none. -/
theorem SocketRun.Accounted.acquire {run : Run} {id : Nat} (h : r.Accounted)
    (hnone : r.sockets.fpmFd id = none) (hsized : Sized run.server)
    (hwork : ∀ k, (workOf run.server k).fcgi
      = if k = id then true else (workOf r.run.server k).fcgi) :
    SocketRun.Accounted ⟨run, r.sockets.acquire id⟩ := by
  unfold Sockets.acquire
  have hnew : ∀ k n, Function.update r.sockets.fpmFd id (some r.sockets.got) k = some n →
      (k = id ∧ n = r.sockets.got) ∨ (k ≠ id ∧ r.sockets.fpmFd k = some n) := by
    intro k n hfd
    by_cases hid : k = id
    · rw [hid, Function.update_self] at hfd
      exact Or.inl ⟨hid, (Option.some.inj hfd).symm⟩
    · rw [Function.update_of_ne hid] at hfd
      exact Or.inr ⟨hid, hfd⟩
  constructor
  case sized => exact hsized
  case active =>
    intro k
    dsimp only
    rw [hwork]
    by_cases hid : k = id
    · rw [if_pos hid, hid, Function.update_self]
      rfl
    · rw [if_neg hid, Function.update_of_ne hid]
      exact h.active k
  case held =>
    intro k n hfd
    rcases hnew k n hfd with ⟨-, rfl⟩ | ⟨-, hold⟩
    · -- every released socket has a number below the new one's
      refine ⟨Nat.lt_succ_self _, ?_⟩
      intro hin
      exact absurd (h.bound _ hin) (Nat.lt_irrefl _)
    · obtain ⟨hlt, hnot⟩ := h.held k n hold
      exact ⟨Nat.lt_succ_of_lt hlt, hnot⟩
  case single =>
    intro j k n hj hk
    rcases hnew j n hj with ⟨hj', hn⟩ | ⟨-, hold⟩
    · rcases hnew k n hk with ⟨hk', -⟩ | ⟨-, hold⟩
      · exact hj'.trans hk'.symm
      · have hlt := (h.held k n hold).1
        omega
    · rcases hnew k n hk with ⟨-, hn⟩ | ⟨-, hold'⟩
      · have hlt := (h.held j n hold).1
        omega
      · exact h.single j k n hold hold'
  case once => exact h.once
  case bound =>
    intro n hn
    exact Nat.lt_succ_of_lt (h.bound n hn)
  case all =>
    intro n hn
    dsimp only at hn ⊢
    by_cases hlast : n = r.sockets.got
    · right
      exact ⟨id, by rw [Function.update_self, hlast]⟩
    · rcases h.all n (by omega) with hin | ⟨k, hk⟩
      · exact Or.inl hin
      · -- the stream had no socket, so the one that has `n` is another
        have hid : k ≠ id := by
          rintro rfl
          rw [hnone] at hk
          cases hk
        right
        exact ⟨k, (Function.update_of_ne hid _ _).trans hk⟩
  case spoilt => exact h.spoilt

/-- A visit that spoils a socket that is held. -/
theorem SocketRun.Accounted.spoil {id n : Nat} (h : r.Accounted) (hfd : r.sockets.fpmFd id = some n) :
    SocketRun.Accounted ⟨r.run, { r.sockets with spoilt := n :: r.sockets.spoilt }⟩ := by
  refine ⟨h.sized, h.active, h.held, h.single, h.once, h.bound, h.all, ?_⟩
  intro e he hspoilt
  rcases List.mem_cons.mp hspoilt with heq | hspoilt
  · -- It has not been released.
    exact absurd (List.mem_map.mpr ⟨e, he, heq⟩) (h.held id n hfd).2
  · exact h.spoilt e he hspoilt

/-- A visit that goes on. -/
theorem SocketRun.Accounted.go {run : Run} (h : r.Accounted) (hsized : Sized run.server)
    (hwork : ∀ id, (workOf run.server id).fcgi = (workOf r.run.server id).fcgi) :
    SocketRun.Accounted ⟨run, r.sockets⟩ :=
  ⟨hsized, fun id => (hwork id).trans (h.active id), h.held, h.single, h.once, h.bound, h.all,
    h.spoilt⟩

/-- A frame gives a socket to its stream or leaves the sockets alone. -/
theorem accounted_frame {f : Frame} (h : r.Accounted)
    (hcareful : SocketRun.Input.Careful r (.frame f env)) : (r.step (.frame f env)).Accounted := by
  have hserver : (r.run.step (.frame f env)).server = (handleFrame env r.run.server f).1 := by
    rw [Run.step_frame]
  have hsized : Sized (r.run.step (.frame f env)).server := by
    rw [hserver]
    exact sized_handleFrame h.sized
  have hwork : ∀ id, (workOf (r.run.step (.frame f env)).server id).fcgi
      = if id = f.streamId ∧ frameReply env r.run.server f = some .forwarded then true
        else (workOf r.run.server id).fcgi := by
    intro id
    rw [hserver]
    by_cases hid : id = f.streamId
    · subst hid
      rw [fcgi_handleFrame env h.sized f]
      simp
    · rw [workOf_handleFrame env h.sized (Ne.symm hid), if_neg (fun hboth => hid hboth.1)]
  unfold SocketRun.step
  dsimp only
  by_cases hforward : frameReply env r.run.server f = some .forwarded
  · have hnone : r.sockets.fpmFd f.streamId = none := by
      have hidle := hcareful hforward
      rw [h.active f.streamId, Option.isSome_eq_false_iff, Option.isNone_iff_eq_none] at hidle
      exact hidle
    rw [if_pos hforward]
    apply h.acquire hnone hsized
    intro id
    rw [hwork]
    simp [hforward]
  · rw [if_neg hforward]
    apply h.go hsized
    intro id
    rw [hwork, if_neg (fun hboth => hforward hboth.2)]

/-- A visit that releases the socket of an exchange. -/
theorem SocketRun.Accounted.release {run : Run} {id n : Nat} {idle : Bool} (h : r.Accounted)
    (hfd : r.sockets.fpmFd id = some n) (hsized : Sized run.server)
    (hwork : ∀ k, (workOf run.server k).fcgi
      = if k = id then false else (workOf r.run.server k).fcgi)
    (hidle : n ∈ r.sockets.spoilt → idle = false) :
    SocketRun.Accounted ⟨run, { r.sockets with
      fpmFd := Function.update r.sockets.fpmFd id none
      released := (n, idle) :: r.sockets.released }⟩ := by
  obtain ⟨hlt, hnot⟩ := h.held id n hfd
  -- the streams that still hold a socket are the ones that held it before, less `id`
  have hold : ∀ k m, Function.update r.sockets.fpmFd id none k = some m →
      k ≠ id ∧ r.sockets.fpmFd k = some m := by
    intro k m hk
    by_cases hid : k = id
    · rw [hid, Function.update_self] at hk
      cases hk
    · rw [Function.update_of_ne hid] at hk
      exact ⟨hid, hk⟩
  constructor
  · exact hsized
  · intro k
    dsimp only
    rw [hwork]
    by_cases hid : k = id
    · rw [if_pos hid, hid, Function.update_self]
      rfl
    · rw [if_neg hid, Function.update_of_ne hid]
      exact h.active k
  · intro k m hk
    obtain ⟨hid, hk⟩ := hold k m hk
    obtain ⟨hlt', hnot'⟩ := h.held k m hk
    refine ⟨hlt', ?_⟩
    intro hin
    rcases List.mem_cons.mp hin with heq | hin
    · have hm : m = n := heq
      rw [hm] at hk
      exact hid (h.single k id n hk hfd)
    · exact hnot' hin
  · intro j k m hj hk
    exact h.single j k m (hold j m hj).2 (hold k m hk).2
  · exact List.nodup_cons.mpr ⟨hnot, h.once⟩
  · exact List.forall_mem_cons.mpr ⟨hlt, h.bound⟩
  · intro m hm
    dsimp only
    -- the released socket is now in the list, and every other one stays where it was
    by_cases heq : m = n
    · left
      rw [heq]
      exact List.mem_cons_self
    · rcases h.all m hm with hin | ⟨k, hk⟩
      · exact Or.inl (List.mem_cons_of_mem n hin)
      · right
        refine ⟨k, ?_⟩
        rw [Function.update_of_ne _]
        · exact hk
        · intro hid
          rw [hid, hfd] at hk
          exact heq (Option.some.inj hk).symm
  · exact List.forall_mem_cons.mpr ⟨hidle, h.spoilt⟩

theorem accounted_visit {target : Nat × Activity} (h : r.Accounted)
    (hprobed : SocketRun.Probed env probe r target) : (r.visit env probe target).Accounted := by
  obtain ⟨id, a⟩ := target
  have hsized : Sized (flushStream env r.run.server id a).1 := sized_flushStream h.sized a
  have hother : ∀ k, k ≠ id →
      (workOf (flushStream env r.run.server id a).1 k).fcgi = (workOf r.run.server k).fcgi := by
    intro k hk
    rw [workOf_untouched (untouched_flushStream a hk)]
  unfold SocketRun.visit
  dsimp only
  cases a with
  | file =>
      apply h.go hsized
      intro k
      by_cases hk : k = id
      · rw [hk]
        exact fcgi_flushFileStream
      · exact hother k hk
  | fcgi =>
      have hself : (workOf (flushStream env r.run.server id .fcgi).1 id).fcgi
          = ((workOf r.run.server id).fcgi && !endsExchange env r.run.server id) :=
        fcgi_flushFcgiStream
      dsimp only
      unfold Sockets.visit
      cases hfd : r.sockets.fpmFd id with
      | none =>
          -- Nothing is in progress.
          have hidle : (workOf r.run.server id).fcgi = false := by
            rw [h.active, hfd]
            rfl
          apply h.go hsized
          intro k
          by_cases hk : k = id
          · show (workOf (flushStream env r.run.server id .fcgi).1 k).fcgi = _
            rw [hk, hself, hidle, Bool.false_and]
          · exact hother k hk
      | some n =>
          have hspoil : ∀ x, x = (if spoilsSocket env r.run.server id = true then
                { r.sockets with spoilt := n :: r.sockets.spoilt } else r.sockets) →
              SocketRun.Accounted ⟨r.run, x⟩ ∧ x.fpmFd id = some n ∧
                (n ∈ x.spoilt → n ∈ r.sockets.spoilt ∨ spoilsSocket env r.run.server id = true) := by
            rintro x rfl
            by_cases hbad : spoilsSocket env r.run.server id = true
            · rw [if_pos hbad]
              exact ⟨h.spoil hfd, hfd, fun _ => Or.inr hbad⟩
            · rw [if_neg hbad]
              exact ⟨h, hfd, Or.inl⟩
          dsimp only
          obtain ⟨hacc, hfd', hspoilt⟩ := hspoil _ rfl
          by_cases hends : endsExchange env r.run.server id = true
          · rw [if_pos hends]
            apply SocketRun.Accounted.release hacc hfd' hsized
            · intro k
              dsimp only
              by_cases hk : k = id
              · rw [if_pos hk]
                show (workOf (flushStream env r.run.server id .fcgi).1 k).fcgi = false
                rw [hk, hself, hends, Bool.not_true, Bool.and_false]
              · rw [if_neg hk]
                exact hother k hk
            · intro hin
              exact hprobed rfl n hfd hends (hspoilt hin)
          · have hgoes : endsExchange env r.run.server id = false := by simpa using hends
            rw [if_neg hends]
            apply SocketRun.Accounted.go hacc hsized
            intro k
            dsimp only
            by_cases hk : k = id
            · show (workOf (flushStream env r.run.server id .fcgi).1 k).fcgi = _
              rw [hk, hself, hgoes, Bool.not_false, Bool.and_true]
            · exact hother k hk

theorem accounted_step {i : SocketRun.Input} (h : r.Accounted) (hcareful : i.Careful r) :
    (r.step i).Accounted := by
  cases i with
  | frame f env => exact accounted_frame h hcareful
  | flush env probe =>
      have hrun : GuardedRun (SocketRun.Probed env probe) (SocketRun.visit env probe) r
          (activeStreams r.run.server) := hcareful
      show (runSteps (SocketRun.visit env probe) r (activeStreams r.run.server)).Accounted
      apply GuardedRun.invariant _ h hrun
      intro r' target h' hprobed
      exact accounted_visit h' hprobed

theorem accounted_fresh (streams : Nat → StreamRest) : (SocketRun.fresh streams).Accounted := by
  constructor
  · exact sized_fresh _
  · intro id
    have hnone : workOf (Run.fresh streams).server id = ⟨false, false⟩ :=
      workOf_of_none (lookup_fresh _ id)
    show (workOf (Run.fresh streams).server id).fcgi = _
    rw [hnone]
    rfl
  · intro id n h
    cases h
  · intro id k n h
    cases h
  · exact List.nodup_nil
  · intro n hn
    cases hn
  · intro n hn
    exact absurd hn (Nat.not_lt_zero n)
  · intro e he
    cases he

end Accounted

/-- **The sockets of a session.** In every run in which no request is forwarded on a stream whose
exchange is in progress, and every release of a spoilt socket finds something wrong with it, no
spoilt socket is left idle, and if no exchange is in progress when the session is destroyed, every
socket has been released exactly once by then. -/
theorem sockets_released {streams : Nat → StreamRest} {is : List SocketRun.Input}
    (hrun : GuardedRun SocketRun.Input.Careful SocketRun.step (SocketRun.fresh streams) is) :
    let r := runSteps SocketRun.step (SocketRun.fresh streams) is
    (∀ e ∈ r.destroy.released, e.1 ∈ r.destroy.spoilt → e.2 = false) ∧
      (∀ n, (r.destroy.released.map Prod.fst).count n ≤ 1) ∧
      ((∀ id, (workOf r.run.server id).fcgi = false) →
        ∀ n < r.destroy.got, (r.destroy.released.map Prod.fst).count n = 1) := by
  intro r
  have h : r.Accounted := by
    apply GuardedRun.invariant _ (accounted_fresh streams) hrun
    intro r' i h hcareful
    exact accounted_step h hcareful
  refine ⟨h.spoilt, fun n => List.nodup_iff_count_le_one.mp h.once n, ?_⟩
  intro hidle n hn
  rcases h.all n hn with hin | ⟨id, hid⟩
  · exact List.count_eq_one_of_mem h.once hin
  · have hactive := h.active id
    rw [hidle id, hid] at hactive
    cases hactive

/-! ## A session that is cut off -/

/-- A backend whose socket takes nothing. -/
def lostBackend : Environment :=
  { Environment.plain with
    route := .fcgi
    fcgi := fun _ => some ⟨true, false, [], .failed, .wouldBlock, .wouldBlock, .wouldBlock⟩ }

/-- The socket is pooled, and `SO_ERROR` is set. -/
def brokenSocket : Nat → Probe := fun _ => ⟨true, true, false⟩

theorem sockets_released_lost :
    let r := runSteps SocketRun.step (SocketRun.fresh (fun _ => .new .plain))
      [.frame getRoot lostBackend, .flush lostBackend brokenSocket]
    (∀ e ∈ r.destroy.released, e.1 ∈ r.destroy.spoilt → e.2 = false) ∧
      (∀ n, (r.destroy.released.map Prod.fst).count n ≤ 1) ∧
      ((∀ id, (workOf r.run.server id).fcgi = false) →
        ∀ n < r.destroy.got, (r.destroy.released.map Prod.fst).count n = 1) := by
  have hprobed : ∀ (targets : List (Nat × Activity)) (r : SocketRun),
      GuardedRun (SocketRun.Probed lostBackend brokenSocket)
        (SocketRun.visit lostBackend brokenSocket) r targets := by
    intro targets
    induction targets with
    | nil => exact fun r => guardedRun_nil r
    | cons target targets ih => exact fun r => ⟨fun _ _ _ _ _ => rfl, ih _⟩
  apply sockets_released
  refine ⟨?_, hprobed _ _, trivial⟩
  intro _
  have hnone : workOf (Run.fresh (fun _ => .new .plain)).server getRoot.streamId = ⟨false, false⟩ :=
    workOf_of_none (lookup_fresh _ _)
  exact congrArg Work.fcgi hnone

/-- The client leaves while a request is with a backend: its socket is not released. -/
theorem socket_leaked :
    ∃ (streams : Nat → StreamRest) (is : List SocketRun.Input),
      let x := (runSteps SocketRun.step (SocketRun.fresh streams) is).destroy
      x.got = 1 ∧ x.released = [] :=
  ⟨fun _ => .new .plain, [.frame getRoot lostBackend], by decide, by decide⟩

/-- A pass in which the socket has failed and nothing is wrong with it any more: it is left idle. -/
theorem socket_spoilt_idle :
    ∃ (streams : Nat → StreamRest) (is : List SocketRun.Input),
      let x := (runSteps SocketRun.step (SocketRun.fresh streams) is).destroy
      x.spoilt = [0] ∧ x.released = [(0, true)] :=
  ⟨fun _ => .new .plain,
    [.frame getRoot lostBackend, .flush lostBackend (fun _ => ⟨true, false, false⟩)],
    by decide, by decide⟩

end Halmos.Http2
