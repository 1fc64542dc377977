import Halmos.Http2.Trace

set_option autoImplicit false

/-! # The work on a stream

What the pump has to do for a stream: a FastCGI exchange, a file, or both. A frame gives a stream new
work only through the router, and what the router does depends on the request and the route
(`Reply`).
-/

namespace Halmos.Http2

open Fcgi

/-! ## Work -/

/-- `is_fcgi_active` and `is_sending_file`. -/
structure Work where
  fcgi : Bool
  file : Bool
  deriving DecidableEq, Repr

def workOf (s : Server) (id : Nat) : Work :=
  match lookupStream s id with
  | some st => ⟨st.isFcgiActive, st.isSendingFile⟩
  | none => ⟨false, false⟩

section Work

variable {env : Environment} {s s' : Server} {id : Nat}

theorem workOf_eq : workOf s id
    = ((lookupStream s id).map (fun st => (⟨st.isFcgiActive, st.isSendingFile⟩ : Work))).getD
      ⟨false, false⟩ := by
  unfold workOf
  cases lookupStream s id <;> rfl

theorem workOf_of_lookup {st : HTTP2Stream} (h : lookupStream s id = some st) :
    workOf s id = ⟨st.isFcgiActive, st.isSendingFile⟩ := by
  unfold workOf
  rw [h]

theorem workOf_of_none (h : lookupStream s id = none) : workOf s id = ⟨false, false⟩ := by
  unfold workOf
  rw [h]

theorem workOf_untouched (h : Untouched id s s') : workOf s' id = workOf s id := by
  have hcore := congrArg
    (Option.map (fun st : HTTP2Stream => (⟨st.isFcgiActive, st.isSendingFile⟩ : Work))) h.core
  unfold coreOf at hcore
  rw [Option.map_map, Option.map_map] at hcore
  rw [workOf_eq, workOf_eq]
  exact congrArg (fun o => Option.getD o ⟨false, false⟩) hcore

theorem workOf_setStream {f : HTTP2Stream → HTTP2Stream} (hid : ∀ st, (f st).streamId = st.streamId)
    {g : Work → Work} (hwork : ∀ st, (⟨(f st).isFcgiActive, (f st).isSendingFile⟩ : Work)
      = g ⟨st.isFcgiActive, st.isSendingFile⟩) (hknown : (lookupStream s id).isSome = true) :
    workOf (setStream s id f) id = g (workOf s id) := by
  obtain ⟨st, hlook⟩ := Option.isSome_iff_exists.mp hknown
  have hnew : lookupStream (setStream s id f) id = some (f st) := by
    rw [lookup_setStream hid, if_pos rfl, hlook]
    rfl
  rw [workOf_of_lookup hnew, workOf_of_lookup hlook, hwork]

/-- A write of the state. -/
theorem workOf_setState (state : HTTP2StreamState) :
    workOf (setStream s id (fun st => { st with state := state })) id = workOf s id := by
  cases hlook : lookupStream s id with
  | some st =>
      apply workOf_setStream (g := fun w => w)
      · intro st
        rfl
      · intro st
        rfl
      · rw [hlook]
        rfl
  | none =>
      rw [workOf_of_none hlook, workOf_of_none]
      have hkeep : ∀ st : HTTP2Stream, ({ st with state := state } : HTTP2Stream).streamId
          = st.streamId := fun _ => rfl
      rw [lookup_setStream hkeep, if_pos rfl, hlook]
      rfl

@[simp] theorem workOf_setRest (g : StreamRest → StreamRest) (k : Nat) :
    workOf (setRest s k g) id = workOf s id := by
  unfold workOf
  rw [lookup_setRest]

theorem workOf_startFcgi (hknown : (lookupStream s id).isSome = true) :
    workOf (startFcgi s id) id = { workOf s id with fcgi := true } := by
  unfold startFcgi
  rw [workOf_setRest]
  apply workOf_setStream (g := fun w => { w with fcgi := true })
  · intro st
    rfl
  · intro st
    rfl
  · exact hknown

end Work

/-! ## What the router does -/

/-- How the router answers a request: with the reply to a WebSocket handshake, not yet but through a
backend, at once, or with a file that is to follow. -/
inductive Reply where
  | upgraded
  | forwarded
  | ended
  | file
  deriving DecidableEq, Repr

def reply (env : Environment) (s : Server) (id : Nat) : Reply :=
  if (s.rest.streams id).req.isUpgrade then .upgraded
  else
    match env.route with
    | .fcgi => .forwarded
    | .file _ size => if size = 0 then .ended else .file
    | .badGateway => .ended
    | .notFound => .ended
    | .forbidden => .ended

/-- What a reply does to the work on its stream, and which frames it sends there. -/
def Reply.Does (id : Nat) (w w' : Work) (es : List Event) : Reply → Prop
  | .upgraded => w' = w ∧ ∀ e ∈ es, ¬ (Traced.did e).Closes id
  | .forwarded => w' = { w with fcgi := true } ∧ ∀ e ∈ es, ¬ (Traced.did e).Answers id
  | .ended => w' = w ∧ Orderly id (es.map .did)
  | .file => w' = { w with file := true } ∧ ∀ e ∈ es, ¬ (Traced.did e).Closes id

section Reply

variable {env : Environment} {s : Server} {id : Nat}

/-- Frames without END_STREAM, and then one that may have it. -/
theorem orderly_sendDataLoop (data : List UInt8) (isEnd : Bool) :
    Orderly id ((sendDataLoop id isEnd data).map (fun c => Traced.did (.sent c))) := by
  fun_induction sendDataLoop id isEnd data with
  | case1 => exact orderly_nil
  | case2 data hne chunk flags ih =>
      by_cases hlast : data.length ≤ 16384
      · -- The last frame.
        have hnil : data.drop 16384 = [] := List.drop_eq_nil_iff.mpr hlast
        rw [hnil, sendDataLoop_nil]
        exact List.pairwise_singleton _ _
      · apply orderly_cons _ ih
        rintro ⟨-, -, hflags⟩
        apply hflags
        have hmore : ¬ data.length = chunk.length := by
          show ¬ data.length = (data.take 16384).length
          rw [List.length_take]
          omega
        show flags &&& 0x01 = 0
        have hzero : flags = 0x00 := if_neg (fun h => hmore h.2)
        rw [hzero]
        rfl

/-- A body is sent with END_STREAM at its end. -/
theorem orderly_sendData (state : HTTP2StreamState) (data : List UInt8) :
    Orderly id ((http2ResponseSendData id state data true).1.map
      (fun c => Traced.did (.sent c))) := by
  unfold http2ResponseSendData
  dsimp only
  split
  · exact List.pairwise_singleton _ _
  · next hne =>
      obtain ⟨c, hc, hflags⟩ := sendDataLoop_endStream id hne
      have hany : (sendDataLoop id true data).any (fun c => decide (c.flags = 0x01)) = true := by
        rw [List.any_eq_true]
        exact ⟨c, hc, decide_eq_true hflags⟩
      rw [if_neg (by rw [hany]; simp), List.append_nil]
      exact orderly_sendDataLoop data true

theorem not_closes_router (body : List UInt8) (len : Int32) :
    ¬ (Traced.did (.router id body len)).Closes id := fun h => h

theorem not_closes_sendHeader (status : Nat) (mime : List UInt8) :
    ¬ (Traced.did (.sent (http2ResponseSendHeader id status mime))).Closes id := by
  rintro ⟨-, -, hflags⟩
  exact hflags (show (0x04 : UInt8) &&& 0x01 = 0 by decide)

/-- **The router** does what its reply says. -/
theorem http2RouterBridge_does (hknown : (lookupStream s id).isSome = true) :
    (reply env s id).Does id (workOf s id) (workOf (http2RouterBridge env s id).1 id)
      (http2RouterBridge env s id).2 := by
  -- the three error pages differ in nothing but their texts
  have herror : ∀ status text body len, Reply.ended.Does id (workOf s id)
      (workOf (sendErrorPage env s id status text).1 id)
      (.router id body len :: (sendErrorPage env s id status text).2) := by
    intro status text body len
    refine ⟨workOf_setState _, orderly_cons (not_closes_router _ _) ?_⟩
    unfold sendErrorPage
    dsimp only
    rw [List.map_cons]
    apply orderly_cons (not_closes_sendHeader _ _)
    rw [List.map_map]
    exact orderly_sendData _ _
  -- `reply` takes the same branches as the router
  unfold reply http2RouterBridge
  dsimp only
  by_cases hup : (s.rest.streams id).req.isUpgrade = true
  · rw [if_pos hup, if_pos hup]
    refine ⟨rfl, ?_⟩
    rw [List.forall_mem_cons, List.forall_mem_singleton]
    refine ⟨not_closes_router _ _, ?_⟩
    rintro ⟨-, -, hflags⟩
    exact hflags (show (0x04 : UInt8) &&& 0x01 = 0 by decide)
  · rw [if_neg hup, if_neg hup]
    cases env.route with
    | badGateway => exact herror 502 "Bad Gateway" _ _
    | notFound => exact herror 404 "Not Found" _ _
    | forbidden => exact herror 403 "Forbidden" _ _
    | fcgi =>
        refine ⟨workOf_startFcgi hknown, ?_⟩
        rw [List.forall_mem_singleton]
        exact fun h => h
    | file fd size =>
        dsimp only
        unfold startFile
        dsimp only
        by_cases hsize : size = 0
        · rw [if_pos hsize, if_pos hsize]
          refine ⟨workOf_setState _, orderly_cons (not_closes_router _ _) ?_⟩
          rw [List.map_cons]
          apply orderly_cons (not_closes_sendHeader _ _)
          rw [List.map_map]
          exact orderly_sendData _ _
        · rw [if_neg hsize, if_neg hsize]
          refine ⟨?_, ?_⟩
          · dsimp only
            rw [workOf_setRest]
            apply workOf_setStream (g := fun w => { w with file := true })
            · intro st
              rfl
            · intro st
              rfl
            · exact hknown
          · rw [List.forall_mem_cons, List.forall_mem_singleton]
            exact ⟨not_closes_router _ _, not_closes_sendHeader _ _⟩

end Reply

/-! ## Frames -/

/-- The reply behind a handler, if the handler has called the router. -/
def replied (env : Environment) (id : Nat) (o : Server × List Event) : Option Reply :=
  if 0 < o.2.countP (Event.isCall id) then some (reply env o.1 id) else none

/-- The reply that a frame asks for. -/
def frameReply (env : Environment) (s : Server) (f : Frame) : Option Reply :=
  replied env f.streamId (handleFrame env s f)

/-- The work on a stream behind a frame that is not answered. -/
def Work.after (w : Work) (f : Frame) : Work := if f.type = 0x03 then { w with file := false } else w

/-- What a frame does to its stream: what the reply says, or no more than RST_STREAM does. -/
def FrameDoes (id : Nat) (f : Frame) (w w' : Work) (es : List Event) : Option Reply → Prop
  | some r => r.Does id w w' es
  | none => w' = w.after f ∧ ∀ e ∈ es, ¬ (Traced.did e).Answers id

section Frames

variable {env : Environment} {s s' : Server} {id : Nat} {f : Frame} {w w' : Work} {es : List Event}

/-- Frames of other kinds in front. -/
theorem Reply.Does.prepend {r : Reply} {front : List Event} (h : r.Does id w w' es)
    (hsilent : ∀ e ∈ front, ¬ (Traced.did e).Answers id) : r.Does id w w' (front ++ es) := by
  have hcloses : ∀ e ∈ front, ¬ (Traced.did e).Closes id :=
    fun e he hclose => hsilent e he (answers_of_closes hclose)
  have hforall : ∀ {P : Event → Prop}, (∀ e ∈ front, P e) → (∀ e ∈ es, P e) →
      ∀ e ∈ front ++ es, P e := by
    intro P hfront hes e he
    rcases List.mem_append.mp he with he | he
    · exact hfront e he
    · exact hes e he
  cases r with
  | upgraded => exact ⟨h.1, hforall hcloses h.2⟩
  | forwarded => exact ⟨h.1, hforall hsilent h.2⟩
  | file => exact ⟨h.1, hforall hcloses h.2⟩
  | ended =>
      refine ⟨h.1, ?_⟩
      rw [List.map_append]
      apply Orderly.append _ h.2
      · rintro ⟨x, hx, hclose⟩
        obtain ⟨e, he, rfl⟩ := List.mem_map.mp hx
        exact absurd hclose (hcloses e he)
      · apply orderly_of_silent
        intro x hx
        obtain ⟨e, he, rfl⟩ := List.mem_map.mp hx
        exact hsilent e he

theorem reply_of_requestOf (h : requestOf s' id = requestOf s id) : reply env s' id = reply env s id := by
  have hreq : (s'.rest.streams id).req = (s.rest.streams id).req := congrArg Prod.fst h
  unfold reply
  rw [hreq]

/-- The end of a request that is stored. -/
theorem handleStreamEnd_does (hknown : (lookupStream s id).isSome = true) :
    (reply env (handleStreamEnd env s id).1 id).Does id (workOf s id)
      (workOf (handleStreamEnd env s id).1 id) (handleStreamEnd env s id).2 := by
  have hmeasured : (lookupStream (measured s id) id).isSome = true := by
    unfold measured
    rw [lookup_setRest]
    exact hknown
  have hreply : reply env (handleStreamEnd env s id).1 id = reply env (measured s id) id :=
    reply_of_requestOf (handleStreamEnd_spec env s id).2.1
  have hdoes : (reply env (measured s id) id).Does id (workOf (measured s id) id)
      (workOf (http2RouterBridge env (measured s id) id).1 id)
      (http2RouterBridge env (measured s id) id).2 := http2RouterBridge_does hmeasured
  have hwork : workOf (measured s id) id = workOf s id := workOf_setRest _ id
  rw [hreply, handleStreamEnd_eq]
  dsimp only
  rw [workOf_setState, ← hwork]
  exact hdoes

theorem handleData_does (h0 : f.type = 0x00) :
    FrameDoes f.streamId f (workOf s f.streamId) (workOf (handleFrame env s f).1 f.streamId)
      (handleFrame env s f).2 (frameReply env s f) := by
  have hafter : ∀ w : Work, w.after f = w := by
    intro w
    exact if_neg (by rw [h0]; decide)
  unfold frameReply replied
  rw [handleFrame_data h0]
  by_cases hstores : Stores env s f
  · rw [handleData_stores hstores]
    by_cases hend : f.flags &&& 0x01 = 0
    · rw [if_neg (not_not.mpr hend)]
      dsimp only
      rw [isCall_windowUpdates, if_neg (Nat.lt_irrefl 0)]
      refine ⟨?_, not_answers_windowUpdates⟩
      rw [hafter]
      exact workOf_setRest _ _
    · rw [if_pos hend]
      dsimp only
      have hcalls : 0 < (windowUpdates f.streamId f.payload.length
          ++ (handleStreamEnd env (appendStreamBody s f.streamId f.payload) f.streamId).2).countP
            (Event.isCall f.streamId) := by
        rw [List.countP_append, isCall_handleStreamEnd]
        omega
      rw [if_pos hcalls]
      have hknown := (find_isSome_iff.mp hstores.2.1).2
      have hstored : (lookupStream (appendStreamBody s f.streamId f.payload) f.streamId).isSome
          = true := by
        unfold appendStreamBody
        rw [lookup_setRest]
        exact hknown
      have hdoes : (reply env (handleStreamEnd env (appendStreamBody s f.streamId f.payload)
          f.streamId).1 f.streamId).Does f.streamId _ _ _ := handleStreamEnd_does hstored
      rw [show workOf (appendStreamBody s f.streamId f.payload) f.streamId = workOf s f.streamId
        from workOf_setRest _ _] at hdoes
      exact hdoes.prepend not_answers_windowUpdates
  · obtain ⟨hsame, hsent⟩ := handleData_drops hstores
    rw [isCall_dropped hsent, if_neg (Nat.lt_irrefl 0), hsame]
    exact ⟨(hafter _).symm, fun e he => not_answers_windowUpdates e (hsent e he)⟩

theorem workOf_parseHeaderFull (block : List UInt8) :
    workOf (parseHeaderFull env s id block).2 id = workOf s id := by
  unfold parseHeaderFull
  split
  · rfl
  · exact workOf_setRest _ _

/-- The call of the router at the end of a header block. -/
theorem router_does (hknown : (lookupStream s f.streamId).isSome = true) :
    FrameDoes f.streamId f (workOf s f.streamId)
      (workOf (http2RouterBridge env s f.streamId).1 f.streamId)
      (http2RouterBridge env s f.streamId).2
      (replied env f.streamId (http2RouterBridge env s f.streamId)) := by
  have hreply : reply env (http2RouterBridge env s f.streamId).1 f.streamId
      = reply env s f.streamId := reply_of_requestOf (http2RouterBridge_spec env s f.streamId).2.1
  unfold replied
  rw [isCall_router, if_pos Nat.one_pos, hreply]
  exact http2RouterBridge_does hknown

theorem headersOn_does (h1 : f.type = 0x01) (hknown : (lookupStream s f.streamId).isSome = true) :
    FrameDoes f.streamId f (workOf s f.streamId)
      (workOf (headersOn env s f.streamId f.flags f.payload).1 f.streamId)
      (headersOn env s f.streamId f.flags f.payload).2
      (replied env f.streamId (headersOn env s f.streamId f.flags f.payload)) := by
  have hafter : ∀ w : Work, w.after f = w := by
    intro w
    exact if_neg (by rw [h1]; decide)
  have hparse : workOf (parseHeaderFull env s f.streamId (headersBlock f.flags f.payload)).2
      f.streamId = workOf s f.streamId := workOf_parseHeaderFull _
  have hinside : Inside f.streamId s
      (parseHeaderFull env s f.streamId (headersBlock f.flags f.payload)).2 :=
    inside_parseHeaderFull _
  have hknown' : (lookupStream (parseHeaderFull env s f.streamId
      (headersBlock f.flags f.payload)).2 f.streamId).isSome = true := by
    rw [isSome_of_windows hinside.windows]
    exact hknown
  have hnone : FrameDoes f.streamId f (workOf s f.streamId) (workOf (parseHeaderFull env s
      f.streamId (headersBlock f.flags f.payload)).2 f.streamId) [] none := by
    refine ⟨?_, fun e he => nomatch he⟩
    rw [hafter, hparse]
  unfold headersOn
  dsimp only
  split_ifs with hvalid hallowed hup hend
  · rw [← hparse]
    exact router_does hknown'
  · have hstate : (lookupStream (setStream (parseHeaderFull env s f.streamId
        (headersBlock f.flags f.payload)).2 f.streamId
        (fun st => { st with state := .reservedRemote })) f.streamId).isSome = true := by
      have hset : Inside f.streamId (parseHeaderFull env s f.streamId
          (headersBlock f.flags f.payload)).2 (setStream (parseHeaderFull env s f.streamId
          (headersBlock f.flags f.payload)).2 f.streamId
          (fun st => { st with state := .reservedRemote })) := inside_setState _
      rw [isSome_of_windows hset.windows]
      exact hknown'
    rw [← hparse, ← workOf_setState .reservedRemote]
    exact router_does hstate
  · exact hnone
  · -- The rate limiter sends RST_STREAM.
    unfold replied
    have hcount : ([.sent ⟨0x03, 0x00, f.streamId, [0x00, 0x00, 0x00, 0x07]⟩] : List Event).countP
        (Event.isCall f.streamId) = 0 := rfl
    rw [hcount, if_neg (Nat.lt_irrefl 0)]
    refine ⟨hnone.1, ?_⟩
    rw [List.forall_mem_singleton]
    rintro ⟨-, h | h⟩
    · exact absurd h (show (0x03 : UInt8) ≠ 0x00 by decide)
    · exact absurd h (show (0x03 : UInt8) ≠ 0x01 by decide)
  · exact hnone

theorem handleHeaders_does (hsized : Sized s) (h1 : f.type = 0x01) :
    FrameDoes f.streamId f (workOf s f.streamId) (workOf (handleFrame env s f).1 f.streamId)
      (handleFrame env s f).2 (frameReply env s f) := by
  have hafter : ∀ w : Work, w.after f = w := by
    intro w
    exact if_neg (by rw [h1]; decide)
  unfold frameReply
  rw [handleFrame_headers h1]
  rcases handleHeaders_cases env s f.head f.payloadBuf with ⟨-, h⟩ | ⟨hid, s', hcreate, h⟩
  · rw [h]
    exact ⟨(hafter _).symm, fun e he => nomatch he⟩
  · have hknown := (getOrCreate_spec hsized hcreate).1
    have hwork : workOf s' f.streamId = workOf s f.streamId := by
      rcases getOrCreate_cases hcreate with ⟨-, rfl⟩ | ⟨hnone, -, heq⟩
      · rfl
      · -- A new stream has nothing to do.
        have hnew : lookupStream s' f.streamId = some (newStream s f.streamId) := by
          rw [heq, lookup_setRest, lookup_pushStream hsized]
          exact if_pos rfl
        have hold : workOf s f.streamId = ⟨false, false⟩ := workOf_of_none hnone
        rw [workOf_of_lookup hnew, hold]
        rfl
    rw [h, Frame.payloadBuf_getD, ← hwork]
    exact headersOn_does h1 hknown

/-- **A frame** gives its stream the work that its reply says. -/
theorem handleFrame_does (env : Environment) (hsized : Sized s) (f : Frame) :
    FrameDoes f.streamId f (workOf s f.streamId) (workOf (handleFrame env s f).1 f.streamId)
      (handleFrame env s f).2 (frameReply env s f) := by
  by_cases h0 : f.type = 0x00
  · exact handleData_does h0
  · by_cases h1 : f.type = 0x01
    · exact handleHeaders_does hsized h1
    · have hnone : frameReply env s f = none := by
        unfold frameReply replied
        rw [isCall_handleFrame (fun _ => ⟨h0, h1⟩)]
        exact if_neg (Nat.lt_irrefl 0)
      rw [hnone]
      refine ⟨?_, not_answers_handleFrame (fun _ => ⟨h0, h1⟩)⟩
      unfold Work.after
      by_cases h3 : f.type = 0x03
      · have hrst : handleFrame env s f = (handleRstStream s f.streamId, []) := by
          unfold handleFrame
          rw [if_neg h0, if_neg h1, if_pos h3]
        rw [hrst, if_pos h3]
        unfold workOf
        rw [lookup_handleRstStream, if_pos rfl]
        cases lookupStream s f.streamId <;> rfl
      · rw [if_neg h3]
        exact workOf_untouched (untouched_handleFrame hsized (fun _ => ⟨h0, h1, h3⟩))

/-- Other streams keep their work. -/
theorem workOf_handleFrame (env : Environment) (hsized : Sized s) (hid : f.streamId ≠ id) :
    workOf (handleFrame env s f).1 id = workOf s id :=
  workOf_untouched (untouched_handleFrame hsized (fun h => absurd h hid))

/-- RST_STREAM is not answered. -/
theorem frameReply_of_rst (h3 : f.type = 0x03) : frameReply env s f = none := by
  unfold frameReply replied
  rw [isCall_handleFrame (fun _ => by rw [h3]; decide)]
  exact if_neg (Nat.lt_irrefl 0)

end Frames

/-! ## Visits of the pump -/

/-- What a visit does to its stream: nothing without work; and what it sends ends with the work. -/
structure VisitDoes (id : Nat) (w w' : Work) (a : Activity) (es : List Event) : Prop where
  idle : w = ⟨false, false⟩ → es = []
  fcgi : w'.fcgi = true → w.fcgi = true
  file : w'.file = true → w.file = true
  orderly : Orderly id (es.map .did)
  exchange : a = .fcgi → es ≠ [] → w.fcgi = true ∧ w'.fcgi = false
  last : a = .file → Closed id (es.map .did) → w.file = true ∧ w'.file = false

section Visits

variable {env : Environment} {s : Server} {id : Nat}

/-- A step of an exchange sends nothing, or the whole answer, and then the exchange is over. -/
theorem fcgiStep_answers (st : FcgiStream) (i : StepInput) :
    (fcgiSessionHttp2Step st i).sent = [] ∨
      ((fcgiSessionHttp2Step st i).status = .completed ∧ ∃ heads body,
        (heads = [] ∨ ∃ raw, heads = [Sent.headers raw 0x04]) ∧
        (fcgiSessionHttp2Step st i).sent
          = heads ++ (http2ResponseSendData st.streamId st.state body true).1.map Sent.frame) := by
  have hdelim : ∀ st : FcgiStream, (delimStep st).sent = [] ∨
      ((delimStep st).status = .completed ∧ ∃ heads body,
        (heads = [] ∨ ∃ raw, heads = [Sent.headers raw 0x04]) ∧ (delimStep st).sent
          = heads ++ (http2ResponseSendData st.streamId st.state body true).1.map Sent.frame) := by
    intro st
    unfold delimStep
    split
    · next rawHeaders tail hfound =>
        refine Or.inr ⟨rfl, if st.headerSent then [] else [.headers rawHeaders 0x04], _, ?_, rfl⟩
        split
        · exact Or.inl rfl
        · exact Or.inr ⟨_, rfl⟩
    · exact Or.inl rfl
  unfold fcgiSessionHttp2Step
  split
  · exact Or.inl rfl
  · split
    · exact Or.inl (paramsStep_sent _ _)
    · exact Or.inl (paramsStep_sent _ _)
    · exact Or.inl (stdinStep_sent _ _)
    · unfold receiveStep
      split
      · split
        · exact hdelim _
        · exact Or.inl rfl
        · exact Or.inl rfl
        · exact Or.inl rfl
      · exact Or.inl rfl
    · exact Or.inl rfl

/-- What a step of an exchange sends: the header block, and behind it the body. -/
theorem orderly_fcgiStep {st : FcgiStream} (i : StepInput) (hid : st.streamId = id) :
    Orderly id (((fcgiSessionHttp2Step st i).sent.map
      (fun sent => Event.sent (sent.frameCall id))).map .did) := by
  rcases fcgiStep_answers st i with hnone | ⟨-, heads, body, hheads, hsent⟩
  · rw [hnone]
    exact orderly_nil
  · have hbody : Orderly id ((((http2ResponseSendData st.streamId st.state body true).1.map
        Sent.frame).map (fun sent => Event.sent (sent.frameCall id))).map .did) := by
      rw [hid, List.map_map, List.map_map]
      exact orderly_sendData _ _
    rw [hsent, List.map_append, List.map_append]
    rcases hheads with rfl | ⟨raw, rfl⟩
    · exact hbody
    · -- the header block goes out without END_STREAM
      apply orderly_cons _ hbody
      rintro ⟨-, -, hflags⟩
      exact hflags (show (0x04 : UInt8) &&& 0x01 = 0 by decide)

/-- The work of a stream behind a step of its exchange. -/
theorem workOf_putBack {st : HTTP2Stream} (hlook : lookupStream s id = some st)
    (state : HTTP2StreamState) (active : Bool) (g : StreamRest → StreamRest) :
    workOf (setRest (setStream s id
      (fun st => { st with state := state, isFcgiActive := active })) id g) id
      = ⟨active, st.isSendingFile⟩ := by
  have hkeep : ∀ st : HTTP2Stream, ({ st with
      state := state, isFcgiActive := active } : HTTP2Stream).streamId = st.streamId :=
    fun _ => rfl
  have hlook' : lookupStream (setStream s id
      (fun st => { st with state := state, isFcgiActive := active })) id
      = some { st with state := state, isFcgiActive := active } := by
    rw [lookup_setStream hkeep, if_pos rfl, hlook]
    rfl
  rw [workOf_setRest]
  exact workOf_of_lookup hlook'

/-- A visit that does nothing. -/
theorem VisitDoes.nop (w : Work) (a : Activity) : VisitDoes id w w a [] where
  idle _ := rfl
  fcgi h := h
  file h := h
  orderly := orderly_nil
  exchange _ h := absurd rfl h
  last _ h := nomatch h

/-- A visit to an exchange that is in progress. -/
theorem flushFcgiStream_active {st : HTTP2Stream} {i : StepInput}
    (hfind : http2StreamFind s id = some st) (hinput : env.fcgi id = some i)
    (hactive : st.isFcgiActive = true) :
    VisitDoes id (workOf s id) (workOf (flushFcgiStream env s id).1 id) .fcgi
      (flushFcgiStream env s id).2 := by
  have hlook := (lookup_of_find hfind).2
  have hid : (fcgiView st (s.rest.streams id)).streamId = id := streamId_of_lookup hlook
  have hview : (fcgiView st (s.rest.streams id)).isFcgiActive = true := hactive
  have hflush : flushFcgi (fcgiView st (s.rest.streams id)) i
      = ((fcgiSessionHttp2Step (fcgiView st (s.rest.streams id)) i).sent,
        if (fcgiSessionHttp2Step (fcgiView st (s.rest.streams id)) i).status = .continue then
          (fcgiSessionHttp2Step (fcgiView st (s.rest.streams id)) i).stream
        else { (fcgiSessionHttp2Step (fcgiView st (s.rest.streams id)) i).stream with
          isFcgiActive := false }) := if_pos hview
  have hwork : workOf s id = ⟨true, st.isSendingFile⟩ := by
    rw [workOf_of_lookup hlook, hactive]
  unfold flushFcgiStream
  rw [hfind, hinput]
  dsimp only
  rw [hflush]
  dsimp only
  rw [workOf_putBack hlook, hwork]
  constructor
  case idle => exact fun h => (nomatch h)
  case fcgi => exact fun _ => rfl
  case file => exact fun h => h
  case orderly => exact orderly_fcgiStep i hid
  case exchange =>
    intro _ hne
    refine ⟨rfl, ?_⟩
    -- what is sent is the whole answer, and with it the step is COMPLETED
    rcases fcgiStep_answers (fcgiView st (s.rest.streams id)) i with hnone | ⟨hstatus, -⟩
    · rw [hnone] at hne
      exact absurd rfl hne
    · rw [if_neg (by rw [hstatus]; decide)]
  case last => exact fun h => (nomatch h)

/-- A visit to an exchange. -/
theorem flushFcgiStream_does :
    VisitDoes id (workOf s id) (workOf (flushFcgiStream env s id).1 id) .fcgi
      (flushFcgiStream env s id).2 := by
  by_cases hactive : ∀ st', lookupStream s id = some st' → st'.isFcgiActive = false
  · obtain ⟨huntouched, hevents⟩ : Untouched id s (flushFcgiStream env s id).1
        ∧ (flushFcgiStream env s id).2 = [] := flushFcgiStream_inactive hactive
    rw [hevents, workOf_untouched huntouched]
    exact VisitDoes.nop _ _
  · rcases hfind : http2StreamFind s id with - | st
    · unfold flushFcgiStream
      rw [hfind]
      exact VisitDoes.nop _ _
    · rcases hinput : env.fcgi id with - | i
      · unfold flushFcgiStream
        rw [hfind, hinput]
        exact VisitDoes.nop _ _
      · apply flushFcgiStream_active hfind hinput
        by_contra hidle
        apply hactive
        intro st' hst'
        rw [(lookup_of_find hfind).2, Option.some.injEq] at hst'
        rw [← hst']
        simpa using hidle

theorem workOf_closeFile : workOf (closeFile s id) id = { workOf s id with file := false } := by
  unfold closeFile
  cases hlook : lookupStream s id with
  | some st =>
      apply workOf_setStream (g := fun w => { w with file := false })
      · intro st
        rfl
      · intro st
        rfl
      · rw [hlook]
        rfl
  | none =>
      have hkeep : ∀ st : HTTP2Stream, ({ st with
          fileFd := -1, isSendingFile := false, state := .closed } : HTTP2Stream).streamId
          = st.streamId := fun _ => rfl
      rw [workOf_of_none hlook, workOf_of_none]
      rw [lookup_setStream hkeep, if_pos rfl, hlook]
      rfl

theorem workOf_advance (n : Nat) : workOf (advance s id n) id = workOf s id := by
  rw [workOf_eq, workOf_eq, lookup_advance, if_pos rfl, Option.map_map]
  rfl

/-- A visit to a file. -/
theorem flushFileStream_does :
    VisitDoes id (workOf s id) (workOf (flushFileStream env s id).1 id) .file
      (flushFileStream env s id).2 := by
  rcases flushFileStream_cases env s id with hnop | ⟨st, data, hpiece, ⟨-, hclose⟩ | ⟨-, hsend⟩⟩
  · rw [hnop]
    exact ⟨fun _ => rfl, fun h => h, fun h => h, orderly_nil, fun h => (nomatch h),
      fun _ h => absurd h not_closed_nil⟩
  · rw [hclose]
    dsimp only
    rw [workOf_closeFile]
    exact ⟨fun _ => rfl, fun h => h, fun h => (nomatch h), orderly_nil, fun h => (nomatch h),
      fun _ h => absurd h not_closed_nil⟩
  · have hfile : (workOf s id).file = true := by
      have hhas := hpiece.hasFile
      unfold HTTP2Stream.hasFile at hhas
      rw [Bool.and_eq_true, Bool.and_eq_true] at hhas
      rw [workOf_of_lookup hpiece.lookup]
      exact hhas.1.1
    have hidle : workOf s id ≠ ⟨false, false⟩ := by
      intro h
      rw [h] at hfile
      cases hfile
    rw [hsend]
    by_cases hlast : (s.rest.streams id).fileSize ≤ (s.rest.streams id).fileOffset + data.length
    · rw [if_pos hlast, if_pos hlast]
      dsimp only
      rw [workOf_closeFile, workOf_advance]
      exact ⟨fun h => absurd h hidle, fun h => h, fun h => (nomatch h), List.pairwise_singleton _ _,
        fun h => (nomatch h), fun _ _ => ⟨hfile, rfl⟩⟩
    · rw [if_neg hlast, if_neg hlast]
      dsimp only
      rw [workOf_advance]
      refine ⟨fun h => absurd h hidle, fun h => h, fun h => h, List.pairwise_singleton _ _,
        fun h => (nomatch h), ?_⟩
      rintro - ⟨x, hx, hcloses⟩
      rw [List.map_singleton, List.mem_singleton] at hx
      rw [hx] at hcloses
      exact absurd (show (0x00 : UInt8) &&& 0x01 = 0 by decide) hcloses.2.2

/-- **A visit** sends nothing without work, and END_STREAM only when the work is done. -/
theorem flushStream_does (env : Environment) (s : Server) (id : Nat) (a : Activity) :
    VisitDoes id (workOf s id) (workOf (flushStream env s id a).1 id) a (flushStream env s id a).2 := by
  cases a with
  | fcgi => exact flushFcgiStream_does
  | file => exact flushFileStream_does

end Visits

end Halmos.Http2
