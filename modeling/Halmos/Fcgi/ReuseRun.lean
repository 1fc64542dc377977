import Halmos.Fcgi.ReuseReads

set_option autoImplicit false

/-! # A socket that is used again

In a run whose steps are careful, a socket is left idle only behind the whole answer, so that the
next request on it reads its own answer and nothing else (`reuse_ownAnswers`). A session that ends in
front of END_REQUEST or its padding leaves bytes behind: on the HTTP/2 path one for which the blank
line arrives first (`reuse_stale`), on the HTTP/1 path one with a redirect.
-/

namespace Halmos.Fcgi

open Http2

/-! ## The idle sockets of the table -/

/-- The sockets of the idle slots. -/
def idleFds (cs : List HalmosFCGIConn) : List Int :=
  (cs.filter (fun c => c.Idle)).map HalmosFCGIConn.sockfd

section Idle

variable {c : HalmosFCGIConn} {cs cs' : List HalmosFCGIConn} {fd : Int}

theorem idleFds_cons_idle (h : c.Idle) : idleFds (c :: cs) = c.sockfd :: idleFds cs := by
  unfold idleFds
  rw [List.filter_cons_of_pos (by simpa using h), List.map_cons]

theorem idleFds_cons_busy (h : ¬ c.Idle) : idleFds (c :: cs) = idleFds cs := by
  unfold idleFds
  rw [List.filter_cons_of_neg (by simpa using h)]

theorem idleFds_append (cs cs' : List HalmosFCGIConn) :
    idleFds (cs ++ cs') = idleFds cs ++ idleFds cs' := by
  unfold idleFds
  rw [List.filter_append, List.map_append]

theorem mem_idleFds (hc : c ∈ cs) (h : c.Idle) : c.sockfd ∈ idleFds cs :=
  List.mem_map_of_mem (List.mem_filter.mpr ⟨hc, decide_eq_true h⟩)

theorem sweptFds_self (cs : List HalmosFCGIConn) : sweptFds cs cs = [] := by
  induction cs with
  | nil => rfl
  | cons c cs ih =>
      rw [sweptFds, if_pos rfl]
      exact ih

/-- The scan takes one of the idle sockets, closes some of them and leaves the others. -/
theorem reuseLoop_idleFds (target : List UInt8) (port : Int) (quiet : Int → Bool)
    (cs : List HalmosFCGIConn) :
    (idleFds cs).Perm ((reuseLoop target port quiet cs).2.toList
      ++ (sweptFds cs (reuseLoop target port quiet cs).1
        ++ idleFds (reuseLoop target port quiet cs).1)) := by
  induction cs with
  | nil => exact List.Perm.refl _
  | cons c cs ih =>
      rw [reuseLoop]
      by_cases hmatch : c.Idle ∧ c.belongs target port = true
      · have hfd : (-1 : Int) ≠ c.sockfd := hmatch.1.1.symm
        rw [if_pos hmatch, idleFds_cons_idle hmatch.1]
        by_cases hquiet : quiet c.sockfd = true
        · have hbusy : ¬ HalmosFCGIConn.Idle { c with inUse := true } := by
            rintro ⟨-, h⟩
            cases h
          rw [if_pos hquiet]
          dsimp only
          rw [idleFds_cons_busy hbusy, sweptFds, if_pos rfl, sweptFds_self]
          exact List.Perm.refl _
        · have hbusy : ¬ HalmosFCGIConn.Idle { c with sockfd := -1 } := by
            rintro ⟨h, -⟩
            exact h rfl
          rw [if_neg hquiet]
          dsimp only
          rw [idleFds_cons_busy hbusy, sweptFds, if_neg hfd, List.cons_append]
          exact (ih.cons c.sockfd).trans List.perm_middle.symm
      · rw [if_neg hmatch]
        dsimp only
        rw [sweptFds, if_pos rfl]
        by_cases hidle : c.Idle
        · rw [idleFds_cons_idle hidle, idleFds_cons_idle hidle, ← List.append_assoc]
          rw [← List.append_assoc] at ih
          exact (ih.cons c.sockfd).trans List.perm_middle.symm
        · rw [idleFds_cons_busy hidle, idleFds_cons_busy hidle]
          exact ih

/-- A new socket is not idle. -/
theorem storeLoop_idleFds {target : List UInt8} {port : Int}
    (h : storeLoop fd target port cs = some cs') : idleFds cs' = idleFds cs := by
  obtain ⟨front, c, back, rfl, hempty, rfl⟩ := storeLoop_eq_some h
  have hold : ¬ c.Idle := fun hidle => hidle.1 hempty
  have hnew : ¬ (c.fill fd target port).Idle := by
    rintro ⟨-, h⟩
    cases h
  rw [idleFds_append, idleFds_append, idleFds_cons_busy hold, idleFds_cons_busy hnew]

/-- A release leaves its socket idle, or not. -/
theorem release_idleFds (cfg : PoolConfig) (healthy : Bool) {p : Pool} (hpos : 0 ≤ fd)
    (hbusy : fd ∉ idleFds p.connections) :
    (idleFds (fcgiPoolConnRelease cfg fd healthy p).connections).Perm
      (if p.leavesIdle fd healthy = true then fd :: idleFds p.connections
        else idleFds p.connections) := by
  unfold fcgiPoolConnRelease
  rw [if_neg (by omega)]
  -- one slot changes, the first one with the socket, and before the release it was not idle
  cases hloop : releaseLoop cfg fd healthy p.connections with
  | none =>
      have hnone : p.leavesIdle fd healthy = false := by
        have hany : p.connections.any (fun c => c.sockfd = fd) = false := by
          rw [List.any_eq_false]
          intro c hc
          simpa using releaseLoop_eq_none hloop c hc
        unfold Pool.leavesIdle
        rw [hany, Bool.and_false]
      rw [hnone, if_neg (by decide)]
  | some r =>
      obtain ⟨idx, cs'⟩ := r
      obtain ⟨front, c, back, hcs, -, hc, -, hcs'⟩ := releaseLoop_eq_some hloop
      dsimp only
      have hany : p.connections.any (fun c => c.sockfd = fd) = true := by
        rw [List.any_eq_true]
        refine ⟨c, ?_, decide_eq_true hc⟩
        rw [hcs]
        exact List.mem_append_right _ List.mem_cons_self
      have hold : ¬ c.Idle := by
        intro hidle
        apply hbusy
        rw [← hc]
        refine mem_idleFds ?_ hidle
        rw [hcs]
        exact List.mem_append_right _ List.mem_cons_self
      unfold Pool.leavesIdle
      rw [hany, Bool.and_true, hcs, hcs', idleFds_append, idleFds_append, idleFds_cons_busy hold]
      cases healthy with
      | true =>
          have hnew : HalmosFCGIConn.Idle { c with inUse := false } := by
            refine ⟨?_, rfl⟩
            show c.sockfd ≠ -1
            omega
          rw [if_pos rfl, if_pos rfl, idleFds_cons_idle hnew]
          show (idleFds front ++ c.sockfd :: idleFds back).Perm _
          rw [hc]
          exact List.perm_middle
      | false =>
          have hnew : ¬ HalmosFCGIConn.Idle { c with sockfd := -1, inUse := false } := by
            rintro ⟨h, -⟩
            exact h rfl
          rw [if_neg (by decide), if_neg (by decide), idleFds_cons_busy hnew]

end Idle

/-! ## Sockets and requests -/

/-- What a session has read, and what it has left: nothing before its splice, and everything with
the state FINISHED. -/
def BackendSession.Sound (read unread : List UInt8) : BackendSession → Prop
  | .http1 s => (s.state = .finished → unread = []) ∧
      (s.state ≠ .finished → s.state ≠ .error → read = [])
  | .http2 _ => True

/-- The request is there, and its session has its socket. -/
def Requests.Holds (x : Requests) (q : Nat) (u : Request) : Prop :=
  x.request q = some u ∧ u.stage = .active

/-- Each open socket is idle, with nothing on its way, or one request has it, whose answer is on its
way. -/
structure Requests.Clean (x : Requests) : Prop where
  pos : ∀ q u, x.Holds q u → 0 ≤ u.fd
  live : ∀ q u, x.Holds q u → x.opened u.fd = true
  unread : ∀ q u, x.Holds q u → u.read ++ (x.sock u.fd).stream = u.response.bytes
  sound : ∀ q u, x.Holds q u → u.session.Sound u.read (x.sock u.fd).stream
  single : ∀ q k u v, x.Holds q u → x.Holds k v → u.fd = v.fd → q = k
  quiet : ∀ n ∈ idleFds x.run.pool.connections,
    0 ≤ n ∧ x.opened n = true ∧ (x.sock n).stream = []
  apart : ∀ q u, x.Holds q u → u.fd ∉ idleFds x.run.pool.connections
  distinct : (idleFds x.run.pool.connections).Nodup
  numbered : ∀ q u, x.request q = some u → q < x.count
  prefixes : ∀ q u, x.request q = some u → u.read <+: u.response.bytes
  whole : ∀ q u, x.request q = some u → u.stage = .ended true → u.read = u.response.bytes
  failed : ∀ q u s, x.request q = some u → u.stage = .closed → u.session = .http1 s →
    s.state = .error

section Clean

variable {cfg : PoolConfig} {x : Requests} {q k : Nat} {u v w : Request}

/-- One request is another one now. -/
theorem update_request (h : Function.update x.request q (some w) k = some v) :
    (k = q ∧ v = w) ∨ (k ≠ q ∧ x.request k = some v) := by
  by_cases hk : k = q
  · rw [hk, Function.update_self] at h
    exact Or.inl ⟨hk, (Option.some.inj h).symm⟩
  · rw [Function.update_of_ne hk] at h
    exact Or.inr ⟨hk, h⟩

/-- The other requests have other sockets. -/
theorem Requests.Clean.other (h : x.Clean) (hq : x.Holds q u) (hk : x.Holds k v) (hne : k ≠ q) :
    v.fd ≠ u.fd := fun heq => hne (h.single k q v u hk hq heq)

/-- A step of a session that takes what it reads off the front of its socket. -/
theorem clean_advance (h : x.Clean) (hq : x.Holds q u) {session : BackendSession}
    {got : List UInt8} {sock : BackendSock} (hgot : got ++ sock.stream = (x.sock u.fd).stream)
    (hsound : session.Sound (u.read ++ got) sock.stream) :
    (x.advance q u session got sock).Clean := by
  have hunread : u.read ++ got ++ sock.stream = u.response.bytes := by
    rw [List.append_assoc, hgot]
    exact h.unread q u hq
  have hcases : ∀ {k v}, (x.advance q u session got sock).Holds k v →
      (k = q ∧ v = { u with session := session, read := u.read ++ got }) ∨
        (k ≠ q ∧ x.Holds k v) := by
    rintro k v ⟨hv, hactive⟩
    rcases update_request hv with ⟨hk, rfl⟩ | ⟨hk, hv⟩
    · exact Or.inl ⟨hk, rfl⟩
    · exact Or.inr ⟨hk, hv, hactive⟩
  have hother : ∀ {n : Int}, n ≠ u.fd →
      (x.advance q u session got sock).sock n = x.sock n := fun hn => Function.update_of_ne hn _ _
  have hown : (x.advance q u session got sock).sock u.fd = sock := Function.update_self _ _ _
  -- Each field splits on whether it speaks of the request that reads or of another one.
  constructor
  case pos =>
    intro k v hk
    rcases hcases hk with ⟨-, rfl⟩ | ⟨-, hk⟩
    · exact h.pos q u hq
    · exact h.pos k v hk
  case live =>
    intro k v hk
    rcases hcases hk with ⟨-, rfl⟩ | ⟨-, hk⟩
    · exact h.live q u hq
    · exact h.live k v hk
  case unread =>
    intro k v hk
    rcases hcases hk with ⟨-, rfl⟩ | ⟨hne, hk⟩
    · show u.read ++ got ++ ((x.advance q u session got sock).sock u.fd).stream = _
      rw [hown]
      exact hunread
    · rw [hother (h.other hq hk hne)]
      exact h.unread k v hk
  case sound =>
    intro k v hk
    rcases hcases hk with ⟨-, rfl⟩ | ⟨hne, hk⟩
    · show session.Sound (u.read ++ got) ((x.advance q u session got sock).sock u.fd).stream
      rw [hown]
      exact hsound
    · rw [hother (h.other hq hk hne)]
      exact h.sound k v hk
  case single =>
    intro k l v w hk hl heq
    rcases hcases hk with ⟨hkq, rfl⟩ | ⟨hkq, hk⟩ <;> rcases hcases hl with ⟨hlq, rfl⟩ | ⟨hlq, hl⟩
    · exact hkq.trans hlq.symm
    · have hfd : w.fd ≠ u.fd := h.other hq hl hlq
      exact absurd heq.symm hfd
    · have hfd : v.fd ≠ u.fd := h.other hq hk hkq
      exact absurd heq hfd
    · exact h.single k l v w hk hl heq
  case quiet =>
    intro n hn
    -- An idle socket is not the one being read: its bytes stay as they are.
    have hne : n ≠ u.fd := by
      rintro rfl
      exact h.apart q u hq hn
    rw [hother hne]
    exact h.quiet n hn
  case apart =>
    intro k v hk
    rcases hcases hk with ⟨-, rfl⟩ | ⟨-, hk⟩
    · exact h.apart q u hq
    · exact h.apart k v hk
  case distinct => exact h.distinct
  case numbered =>
    intro k v hv
    rcases update_request hv with ⟨rfl, -⟩ | ⟨-, hv⟩
    · exact h.numbered k u hq.1
    · exact h.numbered k v hv
  case prefixes =>
    intro k v hv
    rcases update_request hv with ⟨-, rfl⟩ | ⟨-, hv⟩
    · exact ⟨sock.stream, hunread⟩
    · exact h.prefixes k v hv
  case whole =>
    intro k v hv hended
    rcases update_request hv with ⟨-, rfl⟩ | ⟨-, hv⟩
    · have hstage : u.stage = .ended true := hended
      rw [hq.2] at hstage
      cases hstage
    · exact h.whole k v hv hended
  case failed =>
    intro k v s hv hclosed
    rcases update_request hv with ⟨-, rfl⟩ | ⟨-, hv⟩
    · have hstage : u.stage = .closed := hclosed
      rw [hq.2] at hstage
      cases hstage
    · exact h.failed k v s hv hclosed

/-- The session of a request gives up its socket. -/
theorem clean_leave (h : x.Clean) (hrec : x.request q = some u) {stage : Stage} {run : PoolRun}
    {opened : Int → Bool} (hstage : stage ≠ .active)
    (hopened : ∀ n, n ≠ u.fd → opened n = x.opened n)
    (hother : ∀ k v, x.Holds k v → k ≠ q → v.fd ≠ u.fd)
    (hfree : u.fd ∉ idleFds x.run.pool.connections)
    (hpool : (idleFds run.pool.connections).Perm
      (if stage = .ended true then u.fd :: idleFds x.run.pool.connections
        else idleFds x.run.pool.connections))
    (hidle : stage = .ended true → 0 ≤ u.fd ∧ opened u.fd = true ∧ (x.sock u.fd).stream = [] ∧
      u.read = u.response.bytes)
    (hfailed : stage = .closed → ∀ s, u.session = .http1 s → s.state = .error) :
    Requests.Clean { x with
      run := run
      opened := opened
      request := Function.update x.request q (some { u with stage := stage }) } := by
  have hcases : ∀ {k v}, Requests.Holds { x with
      run := run
      opened := opened
      request := Function.update x.request q (some { u with stage := stage }) } k v →
      k ≠ q ∧ x.Holds k v := by
    rintro k v ⟨hv, hactive⟩
    rcases update_request hv with ⟨-, rfl⟩ | ⟨hk, hv⟩
    · exact absurd hactive hstage
    · exact ⟨hk, hv, hactive⟩
  -- The only socket that can become idle here is the one being left.
  have hmem : ∀ {n}, n ∈ idleFds run.pool.connections →
      (stage = .ended true ∧ n = u.fd) ∨ n ∈ idleFds x.run.pool.connections := by
    intro n hn
    have hn' := hpool.mem_iff.mp hn
    split at hn'
    · next hended =>
        rcases List.mem_cons.mp hn' with rfl | hn'
        · exact Or.inl ⟨hended, rfl⟩
        · exact Or.inr hn'
    · exact Or.inr hn'
  -- No active request is the one that leaves, so the sockets of the others are untouched.
  constructor
  case pos =>
    intro k v hk
    exact h.pos k v (hcases hk).2
  case live =>
    intro k v hk
    obtain ⟨hne, hk⟩ := hcases hk
    show opened v.fd = true
    rw [hopened v.fd (hother k v hk hne)]
    exact h.live k v hk
  case unread =>
    intro k v hk
    exact h.unread k v (hcases hk).2
  case sound =>
    intro k v hk
    exact h.sound k v (hcases hk).2
  case single =>
    intro k l v w hk hl heq
    exact h.single k l v w (hcases hk).2 (hcases hl).2 heq
  case quiet =>
    intro n hn
    rcases hmem hn with ⟨hended, rfl⟩ | hn
    · exact ⟨(hidle hended).1, (hidle hended).2.1, (hidle hended).2.2.1⟩
    · have hne : n ≠ u.fd := by
        rintro rfl
        exact hfree hn
      show 0 ≤ n ∧ opened n = true ∧ _
      rw [hopened n hne]
      exact h.quiet n hn
  case apart =>
    intro k v hk hn
    obtain ⟨hne, hk⟩ := hcases hk
    rcases hmem hn with ⟨-, heq⟩ | hn
    · exact hother k v hk hne heq
    · exact h.apart k v hk hn
  case distinct =>
    apply hpool.nodup_iff.mpr
    split
    · exact List.nodup_cons.mpr ⟨hfree, h.distinct⟩
    · exact h.distinct
  case numbered =>
    intro k v hv
    rcases update_request hv with ⟨rfl, -⟩ | ⟨-, hv⟩
    · exact h.numbered k u hrec
    · exact h.numbered k v hv
  case prefixes =>
    intro k v hv
    rcases update_request hv with ⟨-, rfl⟩ | ⟨-, hv⟩
    · exact h.prefixes q u hrec
    · exact h.prefixes k v hv
  case whole =>
    intro k v hv hended
    rcases update_request hv with ⟨-, rfl⟩ | ⟨-, hv⟩
    · exact (hidle hended).2.2.2
    · exact h.whole k v hv hended
  case failed =>
    intro k v s hv hclosed hsession
    rcases update_request hv with ⟨-, rfl⟩ | ⟨-, hv⟩
    · exact hfailed hclosed s hsession
    · exact h.failed k v s hv hclosed hsession

/-- `close` on a socket that the request has. -/
theorem clean_close (h : x.Clean) (hq : x.Holds q u) {stage : Stage} (hstage : stage ≠ .active)
    (hidle : stage ≠ .ended true)
    (hfailed : stage = .closed → ∀ s, u.session = .http1 s → s.state = .error) :
    (x.close q u stage).Clean := by
  apply clean_leave h hq.1 hstage
  · exact fun n hn => Function.update_of_ne hn _ _
  · exact fun k v hk hne => h.other hq hk hne
  · exact h.apart q u hq
  · rw [if_neg hidle]
  · exact fun hended => absurd hended hidle
  · exact hfailed

/-- A second `close` on a number that is not open. -/
theorem clean_closeAgain (h : x.Clean) (hrec : x.request q = some u)
    (hclosed : x.opened u.fd = false) : (x.close q u (.ended false)).Clean := by
  apply clean_leave h hrec (by decide)
  · exact fun n hn => Function.update_of_ne hn _ _
  -- The number is closed, and each active request has an open one.
  · intro k v hk _ heq
    have hopen := h.live k v hk
    rw [heq, hclosed] at hopen
    cases hopen
  · intro hn
    have hopen := (h.quiet u.fd hn).2.1
    rw [hclosed] at hopen
    cases hopen
  · rw [if_neg (by decide)]
  · exact fun hended => absurd hended (by decide)
  · exact fun heq => by cases heq

/-- A release leaves a socket idle behind the whole answer. -/
theorem clean_giveBack (h : x.Clean) (hq : x.Holds q u) {healthy : Bool}
    (hread : x.run.pool.leavesIdle u.fd healthy = true → (x.sock u.fd).stream = []) :
    (x.giveBack cfg q u healthy).Clean := by
  have hpool := release_idleFds cfg healthy (h.pos q u hq) (h.apart q u hq)
  have hstage : ∀ b, Stage.ended b = .ended true ↔ b = true := by decide
  apply clean_leave h hq.1
  · exact fun heq => by cases heq
  · exact fun n hn => Function.update_of_ne hn _ _
  · exact fun k v hk hne => h.other hq hk hne
  · exact h.apart q u hq
  · simp only [hstage]
    exact hpool
  · intro hended
    have hidle := (hstage _).mp hended
    -- Idle behind nothing unread: what was read is the whole answer.
    have hstream := hread hidle
    have hall := h.unread q u hq
    rw [hstream, List.append_nil] at hall
    refine ⟨h.pos q u hq, ?_, hstream, hall⟩
    rw [Function.update_self, h.live q u hq, Bool.true_and]
    exact hidle
  · exact fun heq => by cases heq

/-- A request gets a socket on which nothing is unread and that no other request has. -/
theorem clean_begin (h : x.Clean) {fd : Int} (start : Start) (hpos : 0 ≤ fd)
    (hfree : fd ∉ idleFds x.run.pool.connections) (hother : ∀ q u, x.Holds q u → u.fd ≠ fd)
    (hstream : (x.sock fd).stream = []) : (x.begin fd start).Clean := by
  have hcases : ∀ {k v}, (x.begin fd start).Holds k v →
      (k = x.count ∧ v = ⟨fd, start.response, start.session.session fd, [], .active⟩) ∨
        (k ≠ x.count ∧ x.Holds k v) := by
    rintro k v ⟨hv, hactive⟩
    rcases update_request hv with ⟨hk, rfl⟩ | ⟨hk, hv⟩
    · exact Or.inl ⟨hk, rfl⟩
    · exact Or.inr ⟨hk, hv, hactive⟩
  have hsock : ∀ {n : Int}, n ≠ fd → (x.begin fd start).sock n = x.sock n :=
    fun hn => Function.update_of_ne hn _ _
  have hopened : ∀ {n : Int}, n ≠ fd → (x.begin fd start).opened n = x.opened n :=
    fun hn => Function.update_of_ne hn _ _
  -- Nothing was on the socket, so all that comes on it is the new answer.
  have hown : ((x.begin fd start).sock fd).stream = start.response.bytes := by
    have hempty := List.append_eq_nil_iff.mp hstream
    show (Function.update x.sock fd _ fd).stream = _
    rw [Function.update_self]
    show (x.sock fd).ready ++ ((x.sock fd).coming ++ start.response.bytes) = _
    rw [hempty.1, hempty.2]
    rfl
  constructor
  case pos =>
    intro k v hk
    rcases hcases hk with ⟨-, rfl⟩ | ⟨-, hk⟩
    · exact hpos
    · exact h.pos k v hk
  case live =>
    intro k v hk
    rcases hcases hk with ⟨-, rfl⟩ | ⟨-, hk⟩
    · exact Function.update_self _ _ _
    · rw [hopened (hother k v hk)]
      exact h.live k v hk
  case unread =>
    intro k v hk
    rcases hcases hk with ⟨-, rfl⟩ | ⟨-, hk⟩
    · exact hown
    · rw [hsock (hother k v hk)]
      exact h.unread k v hk
  -- A new session is CONNECTED: it is neither FINISHED nor has it read anything.
  case sound =>
    intro k v hk
    rcases hcases hk with ⟨-, rfl⟩ | ⟨-, hk⟩
    · cases hsession : start.session with
      | http1 requestId params postData contentLength =>
          refine ⟨?_, fun _ _ => rfl⟩
          intro hstate
          cases hstate
      | http2 s => trivial
    · rw [hsock (hother k v hk)]
      exact h.sound k v hk
  case single =>
    intro k l v w hk hl heq
    rcases hcases hk with ⟨hkq, rfl⟩ | ⟨hkq, hk⟩ <;> rcases hcases hl with ⟨hlq, rfl⟩ | ⟨hlq, hl⟩
    · exact hkq.trans hlq.symm
    · exact absurd heq.symm (hother l w hl)
    · exact absurd heq (hother k v hk)
    · exact h.single k l v w hk hl heq
  case quiet =>
    intro n hn
    have hne : n ≠ fd := by
      rintro rfl
      exact hfree hn
    rw [hsock hne, hopened hne]
    exact h.quiet n hn
  case apart =>
    intro k v hk
    rcases hcases hk with ⟨-, rfl⟩ | ⟨-, hk⟩
    · exact hfree
    · exact h.apart k v hk
  case distinct => exact h.distinct
  case numbered =>
    intro k v hv
    show k < x.count + 1
    rcases update_request hv with ⟨rfl, -⟩ | ⟨-, hv⟩
    · exact Nat.lt_succ_self _
    · exact Nat.lt_succ_of_lt (h.numbered k v hv)
  case prefixes =>
    intro k v hv
    rcases update_request hv with ⟨-, rfl⟩ | ⟨-, hv⟩
    · exact List.nil_prefix
    · exact h.prefixes k v hv
  case whole =>
    intro k v hv hended
    rcases update_request hv with ⟨-, rfl⟩ | ⟨-, hv⟩
    · cases hended
    · exact h.whole k v hv hended
  case failed =>
    intro k v s hv hclosed
    rcases update_request hv with ⟨-, rfl⟩ | ⟨-, hv⟩
    · cases hclosed
    · exact h.failed k v s hv hclosed

/-- A change of the pool that leaves the idle slots alone. -/
theorem clean_run (h : x.Clean) {run : PoolRun}
    (hpool : idleFds run.pool.connections = idleFds x.run.pool.connections) :
    Requests.Clean { x with run := run } := by
  constructor
  case pos => exact h.pos
  case live => exact h.live
  case unread => exact h.unread
  case sound => exact h.sound
  case single => exact h.single
  case quiet =>
    intro n hn
    have hn' : n ∈ idleFds run.pool.connections := hn
    rw [hpool] at hn'
    exact h.quiet n hn'
  case apart =>
    intro q u hq hn
    have hn' : u.fd ∈ idleFds run.pool.connections := hn
    rw [hpool] at hn'
    exact h.apart q u hq hn'
  case distinct =>
    show (idleFds run.pool.connections).Nodup
    rw [hpool]
    exact h.distinct
  case numbered => exact h.numbered
  case prefixes => exact h.prefixes
  case whole => exact h.whole
  case failed => exact h.failed

/-- A scan that takes idle sockets out of the table and closes some of them. -/
theorem clean_scan (h : x.Clean) {run : PoolRun} {taken swept : List Int}
    (hpool : (idleFds x.run.pool.connections).Perm
      (taken ++ (swept ++ idleFds run.pool.connections))) :
    Requests.Clean { x with run := run, opened := fun n => x.opened n && n ∉ swept } := by
  -- The idle sockets are distinct, so the ones closed are none of those that stay.
  have hnodup := hpool.nodup_iff.mp h.distinct
  rw [List.nodup_append, List.nodup_append] at hnodup
  obtain ⟨-, ⟨-, hdistinct, hswept⟩, -⟩ := hnodup
  have hold : ∀ {n}, n ∈ idleFds run.pool.connections → n ∈ idleFds x.run.pool.connections := by
    intro n hn
    exact hpool.mem_iff.mpr (List.mem_append_right _ (List.mem_append_right _ hn))
  constructor
  case pos => exact h.pos
  case live =>
    intro q u hq
    have hnot : u.fd ∉ swept := by
      intro hn
      apply h.apart q u hq
      exact hpool.mem_iff.mpr (List.mem_append_right _ (List.mem_append_left _ hn))
    show (x.opened u.fd && decide (u.fd ∉ swept)) = true
    rw [h.live q u hq, decide_eq_true hnot]
    rfl
  case unread => exact h.unread
  case sound => exact h.sound
  case single => exact h.single
  case quiet =>
    intro n hn
    obtain ⟨hpos, hopen, hstream⟩ := h.quiet n (hold hn)
    have hnot : n ∉ swept := fun hn' => hswept n hn' n hn rfl
    refine ⟨hpos, ?_, hstream⟩
    show (x.opened n && decide (n ∉ swept)) = true
    rw [hopen, decide_eq_true hnot]
    rfl
  case apart =>
    intro q u hq hn
    exact h.apart q u hq (hold hn)
  case distinct => exact hdistinct
  case numbered => exact h.numbered
  case prefixes => exact h.prefixes
  case whole => exact h.whole
  case failed => exact h.failed

theorem clean_tryReuse (h : x.Clean) (t : Nat) (a : AcquireCall) (quiet : Int → Bool)
    (start : Start) :
    (x.tryReuse cfg t a quiet start).Clean := by
  unfold Requests.tryReuse
  dsimp only
  generalize hq : (fun fd => quiet fd && decide ((x.sock fd).ready = [])) = quiet'
  have hperm := reuseLoop_idleFds a.target a.port quiet' x.run.pool.connections
  have hreuse : (x.run.pool.reuse cfg a.target a.port quiet').1.connections
      = (reuseLoop a.target a.port quiet' x.run.pool.connections).1 ∧
      (x.run.pool.reuse cfg a.target a.port quiet').2
      = (reuseLoop a.target a.port quiet' x.run.pool.connections).2 := by
    unfold Pool.reuse
    dsimp only
    split
    · next hr => exact ⟨rfl, hr.symm⟩
    · next hr => exact ⟨rfl, hr.symm⟩
  have hrun : (x.run.tryReuse cfg t a quiet').pool.connections
      = (reuseLoop a.target a.port quiet' x.run.pool.connections).1 := by
    rw [← hreuse.1]
    unfold PoolRun.tryReuse
    dsimp only
    split <;> rfl
  rw [hreuse.1, hreuse.2]
  rw [← hrun] at hperm
  have hscan := clean_scan h hperm
  rw [hrun] at hscan
  -- A socket that the scan takes was idle, and leaves the idle ones with the scan.
  cases hr : (reuseLoop a.target a.port quiet' x.run.pool.connections).2 with
  | none => exact hscan
  | some fd =>
      have hmem : fd ∈ idleFds x.run.pool.connections := by
        apply hperm.mem_iff.mpr
        rw [hr]
        exact List.mem_append_left _ List.mem_cons_self
      apply clean_begin hscan start (h.quiet fd hmem).1
      · intro hn
        have hnodup := hperm.nodup_iff.mp h.distinct
        rw [hr, List.nodup_append] at hnodup
        exact hnodup.2.2 fd List.mem_cons_self fd (List.mem_append_right _ hn) rfl
      · intro q u hq heq
        apply h.apart q u hq
        rw [heq]
        exact hmem
      · exact (h.quiet fd hmem).2.2

theorem clean_createNew (h : x.Clean) (t : Nat) (a : AcquireCall) (fd : Int) (start : Start) :
    (x.createNew cfg t a fd start).Clean := by
  unfold Requests.createNew
  split
  · next hfd =>
      obtain ⟨hpos, hclosed⟩ := hfd
      -- The system gives a number that is not open: no request has it, and no slot holds it idle.
      have hother : ∀ q u, x.Holds q u → u.fd ≠ fd := by
        intro q u hq heq
        have hopen := h.live q u hq
        rw [heq, hclosed] at hopen
        cases hopen
      have hfree : fd ∉ idleFds x.run.pool.connections := by
        intro hn
        have hopen := (h.quiet fd hn).2.1
        rw [hclosed] at hopen
        cases hopen
      -- Stored or not, the new socket is busy: the idle ones are those before.
      have hpool : idleFds (x.run.createNew cfg t a fd).pool.connections
          = idleFds x.run.pool.connections := by
        show idleFds (x.run.pool.store cfg a.target a.port fd).connections = _
        unfold Pool.store
        dsimp only
        split
        · split
          · next hstore => exact storeLoop_idleFds hstore
          · rfl
        · rfl
      have hrun := clean_run h hpool
      have hsock : ∀ n, n ≠ fd →
          Function.update x.sock fd (⟨[], [], []⟩ : BackendSock) n = x.sock n :=
        fun n hn => Function.update_of_ne hn _ _
      apply clean_begin _ start hpos
      · show fd ∉ idleFds (x.run.createNew cfg t a fd).pool.connections
        rw [hpool]
        exact hfree
      · exact hother
      · show (Function.update x.sock fd (⟨[], [], []⟩ : BackendSock) fd).stream = []
        rw [Function.update_self]
        rfl
      · constructor
        case pos => exact h.pos
        case live => exact h.live
        case unread =>
          intro q u hq
          show u.read ++ (Function.update x.sock fd (⟨[], [], []⟩ : BackendSock) u.fd).stream = _
          rw [hsock _ (hother q u hq)]
          exact h.unread q u hq
        case sound =>
          intro q u hq
          show u.session.Sound u.read
            (Function.update x.sock fd (⟨[], [], []⟩ : BackendSock) u.fd).stream
          rw [hsock _ (hother q u hq)]
          exact h.sound q u hq
        case single => exact h.single
        case quiet =>
          intro n hn
          have hn' := hn
          rw [show idleFds (Requests.run { x with
            run := x.run.createNew cfg t a fd
            sock := Function.update x.sock fd ⟨[], [], []⟩ }).pool.connections
              = idleFds x.run.pool.connections from hpool] at hn'
          have hne : n ≠ fd := by
            rintro rfl
            exact hfree hn'
          show 0 ≤ n ∧ x.opened n = true ∧
            (Function.update x.sock fd (⟨[], [], []⟩ : BackendSock) n).stream = []
          rw [hsock n hne]
          exact h.quiet n hn'
        case apart => exact hrun.apart
        case distinct => exact hrun.distinct
        case numbered => exact h.numbered
        case prefixes => exact h.prefixes
        case whole => exact h.whole
        case failed => exact h.failed
  · exact h

/-! ## The steps of a session -/

theorem clean_http1Step (h : x.Clean) (hq : x.Holds q u) {s : HalmosFCGISession}
    (hsession : u.session = .http1 s) {useSplice keepAlive : Bool} {i : SessionInput}
    (hcareful : s.state = .receiving → i.pollIn = true →
      Fits u.response.stdout ∧
        (BackendSock.InTime (headerReads useSplice [] u.response.outputs) (x.sock u.fd) →
          u.response.ReadToEnd)) :
    (x.http1Step q u s useSplice keepAlive i).Clean := by
  have hsound := h.sound q u hq
  rw [hsession] at hsound
  unfold Requests.http1Step
  by_cases hread : s.state = .receiving ∧ i.pollIn = true
  · rw [if_pos hread]
    obtain ⟨hfits, htime⟩ := hcareful hread.1 hread.2
    -- The splice of an HTTP/1 session starts on an answer of which nothing is read.
    have hnothing : u.read = [] := by
      apply hsound.2
      · rw [hread.1]
        decide
      · rw [hread.1]
        decide
    have hstream := h.unread q u hq
    rw [hnothing, List.nil_append] at hstream
    obtain ⟨code, st, hsplice, hend⟩ := splice_careful useSplice keepAlive hfits htime hstream
    have hgot := consumed_append (spliceLoop_isSuffix hsplice)
    have hstep : (fcgiSessionHttp1Step s { i with spliced := code }).session
        = { s with state := if code = 0 then .finished else .error } := by
      unfold fcgiSessionHttp1Step receivingStep
      rw [hread.1]
      dsimp only
      rw [if_pos hread.2]
      -- The state is FINISHED or ERROR as the splice says.
      by_cases hcode : code = 0
      · rw [if_pos hcode, if_pos hcode]
      · rw [if_neg hcode, if_neg hcode]
    rw [hsplice]
    dsimp only
    rw [hstep]
    by_cases hcode : code = 0
    · rw [if_pos hcode, if_pos hcode]
      apply clean_advance h hq hgot
      exact ⟨fun _ => hend hcode, fun hnot => absurd rfl hnot⟩
    · rw [if_neg hcode, if_neg hcode]
      -- After an error the connection is closed at once: the session keeps the number only.
      have hnext : (x.advance q u (.http1 { s with state := .error })
          ((x.sock u.fd).consumed st.sock) st.sock).Clean := by
        apply clean_advance h hq hgot
        refine ⟨?_, fun _ hnot => absurd rfl hnot⟩
        intro hstate
        cases hstate
      apply clean_close hnext ⟨Function.update_self _ _ _, hq.2⟩ (by decide) (by decide)
      intro _ s' hs'
      cases hs'
      rfl
  · rw [if_neg hread]
    -- No splice in this step: nothing is read, and the state FINISHED is never entered.
    obtain ⟨hfinished, hsame⟩ := http1Step_state hread
    apply clean_advance h hq (List.nil_append _)
    rw [List.append_nil]
    refine ⟨fun hstate => hsound.1 (hfinished hstate), ?_⟩
    intro hnot herr
    apply hsound.2
    · intro hstate
      rw [hsame (Or.inl hstate)] at hnot
      exact hnot hstate
    · intro hstate
      rw [hsame (Or.inr hstate)] at herr
      exact herr hstate

theorem clean_destroy (h : x.Clean) (hrec : x.request q = some u) (hstage : ∀ b, u.stage ≠ .ended b)
    {s : HalmosFCGISession} (hsession : u.session = .http1 s) {healthy : Bool}
    (hactive : u.stage = .active → s.state ≠ .error → s.state ≠ .finished →
      x.run.pool.leavesIdle u.fd healthy = false)
    (hclosed : u.stage = .closed → x.opened u.fd = false) :
    (x.destroy cfg q u s healthy).Clean := by
  unfold Requests.destroy
  cases hcase : u.stage with
  | active =>
      have hq : x.Holds q u := ⟨hrec, hcase⟩
      split
      · exact clean_close h hq (by decide) (by decide) (fun heq => by cases heq)
      · next herr =>
          apply clean_giveBack h hq
          intro hidle
          -- FINISHED left nothing unread; in the other states the pool does not keep the socket.
          by_cases hfinished : s.state = .finished
          · have hsound := h.sound q u hq
            rw [hsession] at hsound
            exact hsound.1 hfinished
          · rw [hactive hcase herr hfinished] at hidle
            cases hidle
  | closed =>
      rw [if_pos (h.failed q u s hrec hcase hsession)]
      exact clean_closeAgain h hrec (hclosed hcase)
  | ended b => exact absurd hcase (hstage b)

theorem clean_http2Step (h : x.Clean) (hq : x.Holds q u) {s : FcgiStream} {i : StepInput}
    {healthy : Bool} (hfails : s.Fails i → x.run.pool.leavesIdle u.fd healthy = false)
    (harrives : s.receives i = true → ∀ chunk, ((x.sock u.fd).recv i.recv).1 = .data chunk →
      s.HeaderArrives chunk → chunk = (x.sock u.fd).stream) :
    (x.http2Step cfg q u s i healthy).Clean := by
  unfold Requests.http2Step
  by_cases hactive : s.isFcgiActive = true
  · rw [if_pos hactive]
    dsimp only
    generalize hr : (if s.receives i = true then (x.sock u.fd).recv i.recv
      else (RecvResult.wouldBlock, x.sock u.fd)) = r
    have hgot : r.1.bytes ++ r.2.stream = (x.sock u.fd).stream := by
      rw [← hr]
      split
      · exact recv_append _ _
      · rfl
    have hnext : (x.advance q u (.http2 (flushFcgi s { i with recv := r.1 }).2) r.1.bytes
      r.2).Clean := clean_advance h hq hgot trivial
    by_cases hcontinue : (fcgiSessionHttp2Step s { i with recv := r.1 }).status = .continue
    · rw [if_pos hcontinue]
      exact hnext
    · rw [if_neg hcontinue]
      apply clean_giveBack hnext ⟨Function.update_self _ _ _, hq.2⟩
      intro hidle
      show (Function.update x.sock u.fd r.2 u.fd).stream = []
      rw [Function.update_self]
      -- The session ends with a failure, or with the chunk that brings the blank line.
      rcases http2Step_ends hactive hcontinue with hfail | ⟨hreceives, chunk, hchunk, hheader⟩
      · rw [← hr] at hfail
        have hnot := hfails (fails_of_recv hfail)
        exact absurd (hidle.symm.trans hnot) (by decide)
      · have hreceives' : s.receives i = true := hreceives
        rw [if_pos hreceives'] at hr
        have hbytes : ((x.sock u.fd).recv i.recv).1 = .data chunk := by
          rw [hr]
          exact hchunk
        -- That chunk was everything that was on its way, so nothing stays behind it.
        have hall := harrives hreceives' chunk hbytes hheader
        have hlen := congrArg List.length hgot
        rw [show r.1 = .data chunk from hchunk, ← hall, List.length_append] at hlen
        rw [← List.length_eq_zero_iff]
        have hsame : (RecvResult.data chunk).bytes.length = chunk.length := rfl
        omega
  · rw [if_neg hactive]
    exact h

/-- **A careful step** keeps the sockets clean. -/
theorem clean_step (h : x.Clean) {i : ReuseInput} (hcareful : i.Careful x) :
    (x.step cfg i).Clean := by
  -- the steps of the pool need no care, as none of them reads from a socket; those of a request
  -- take what `Careful` says of the request they move
  cases i with
  | acquire t a =>
      apply clean_run h
      unfold PoolRun.step
      dsimp only
      split <;> rfl
  | reuse t quiet start =>
      unfold Requests.step
      dsimp only
      split
      · exact clean_tryReuse h t _ quiet start
      · exact h
  | create t sock start =>
      unfold Requests.step
      dsimp only
      split
      · exact clean_createNew h t _ _ start
      · apply clean_run h
        unfold PoolRun.step
        dsimp only
        split
        · rfl
        · next hnone =>
            cases hnone
        · rfl
      · exact h
  | http1 q useSplice keepAlive i =>
      unfold Requests.step
      dsimp only
      split
      · next u hrec =>
          split
          · next s hstage hsession =>
              exact clean_http1Step h ⟨hrec, hstage⟩ hsession (hcareful u s hrec hstage hsession)
          · exact h
      · exact h
  | destroy q healthy =>
      unfold Requests.step
      dsimp only
      split
      · next u hrec =>
          split
          · exact h
          · next s hsession hstage =>
              obtain ⟨hactive, hclosed⟩ := hcareful u s hrec hsession
              exact clean_destroy h hrec hstage hsession hactive hclosed
          · exact h
      · exact h
  | http2 q i healthy =>
      unfold Requests.step
      dsimp only
      split
      · next u hrec =>
          split
          · next s hstage hsession =>
              obtain ⟨hfails, harrives⟩ := hcareful u s hrec hstage hsession
              exact clean_http2Step h ⟨hrec, hstage⟩ hfails harrives
          · exact h
      · exact h

theorem clean_fresh (poolSize : Nat) : (Requests.fresh poolSize).Clean := by
  have hnone : ∀ q u, ¬ (Requests.fresh poolSize).Holds q u := by
    rintro q u ⟨hrec, -⟩
    cases hrec
  have hidle : idleFds (Requests.fresh poolSize).run.pool.connections = [] := by
    unfold idleFds
    rw [List.map_eq_nil_iff, List.filter_eq_nil_iff]
    intro c hc hidle
    rw [List.eq_of_mem_replicate hc] at hidle
    exact absurd hidle (by decide)
  constructor
  case pos => exact fun q u hq => absurd hq (hnone q u)
  case live => exact fun q u hq => absurd hq (hnone q u)
  case unread => exact fun q u hq => absurd hq (hnone q u)
  case sound => exact fun q u hq => absurd hq (hnone q u)
  case single => exact fun q k u v hq => absurd hq (hnone q u)
  case quiet =>
    intro n hn
    rw [hidle] at hn
    cases hn
  case apart => exact fun q u hq => absurd hq (hnone q u)
  case distinct =>
    rw [hidle]
    exact List.nodup_nil
  case numbered => exact fun q u hrec => by cases hrec
  case prefixes => exact fun q u hrec => by cases hrec
  case whole => exact fun q u hrec => by cases hrec
  case failed => exact fun q u s hrec => by cases hrec

end Clean

/-- **The sockets of the pool.** In a run of careful steps over any requests of either path, whatever
the other threads do and however the answers arrive, a socket is left idle only behind the whole
answer of the request that had it, and every request reads its own answer and nothing else. -/
theorem reuse_ownAnswers {cfg : PoolConfig} {poolSize : Nat} {is : List ReuseInput}
    (hrun : GuardedRun ReuseInput.Careful (Requests.step cfg) (Requests.fresh poolSize) is) :
    (runSteps (Requests.step cfg) (Requests.fresh poolSize) is).OwnAnswers := by
  have h : (runSteps (Requests.step cfg) (Requests.fresh poolSize) is).Clean := by
    apply GuardedRun.invariant _ (clean_fresh poolSize) hrun
    intro x i hx hcareful
    exact clean_step hx hcareful
  constructor
  · exact h.prefixes
  · exact fun q u hrec hactive => h.unread q u ⟨hrec, hactive⟩
  · exact h.whole
  · intro c hc hidle
    exact (h.quiet c.sockfd (mem_idleFds hc hidle)).2.2

/-! ## Two requests on one socket -/

/-- A request on a stream, and one on an HTTP/1 connection, with the same answer. -/
def streamStart (schedule : List Nat) : Start := ⟨.http2 (bareStream 1), helloResponse, schedule⟩

def connectionStart (schedule : List Nat) : Start := ⟨.http1 2 [] none 0, helloResponse, schedule⟩

/-- The thread 0 asks for a socket, and gets an idle one or the new socket 5. -/
def askFor (start : Start) : List ReuseInput :=
  [.acquire 0 phpCall, .reuse 0 (fun _ => true) start, .create 0 (some 5) start]

/-- The request is sent at once, and the answer is received. -/
def exchangeHttp1 (q : Nat) : List ReuseInput :=
  [.http1 q true true ⟨true, false, .sent 16, .wouldBlock, 0⟩,
    .http1 q true true ⟨false, true, .wouldBlock, .wouldBlock, 0⟩]

def exchangeHttp2 (q : Nat) : List ReuseInput :=
  [.http2 q sendAll true,
    .http2 q { sendAll with pollOut := false, pollIn := true, recv := .data [] } true]

/-- The state of a session on an HTTP/1 connection. -/
def BackendSession.http1State : BackendSession → Option SessionState
  | .http1 s => some s.state
  | .http2 _ => none

theorem reuse_ownAnswers_hello :
    (runSteps (Requests.step oneMachine) (Requests.fresh 2)
      (askFor (connectionStart []) ++ exchangeHttp1 0 ++ [.destroy 0 true])).OwnAnswers := by
  apply reuse_ownAnswers
  refine ⟨trivial, trivial, trivial, ?_, ?_, ?_, trivial⟩
  · rintro u s hrec - hsession hstate
    cases hrec
    cases hsession
    cases hstate
  · rintro u s hrec - hsession - -
    cases hrec
    refine ⟨Or.inr (by decide), fun _ => ⟨rfl, ?_⟩⟩
    intro text htext
    cases htext
    decide +kernel
  · rintro u s hrec hsession
    have hstage : (Requests.request (runSteps (Requests.step oneMachine) (Requests.fresh 2)
        (askFor (connectionStart []) ++ exchangeHttp1 0)) 0).map
          (fun u => (u.stage, u.session.http1State)) = some (.active, some .finished) := by
      decide +kernel
    have hrec' : Requests.request (runSteps (Requests.step oneMachine) (Requests.fresh 2)
        (askFor (connectionStart []) ++ exchangeHttp1 0)) 0 = some u := hrec
    rw [hrec', Option.map_some, hsession] at hstage
    obtain ⟨hactive, hfinished⟩ := Prod.mk.inj (Option.some.inj hstage)
    refine ⟨fun _ _ hnot => absurd (Option.some.inj hfinished) hnot, ?_⟩
    intro hclosed
    rw [hactive] at hclosed
    cases hclosed

/-- The answer to a request on a stream arrives up to its END_REQUEST record. Its socket is left
idle, and the next request on it reads that record. -/
theorem reuse_stale :
    let x := runSteps (Requests.step oneMachine) (Requests.fresh 2)
      (askFor (streamStart [21, 0, 0]) ++ exchangeHttp2 0 ++ askFor (connectionStart [])
        ++ exchangeHttp1 1)
    (x.request 0).map (fun u => (u.stage, decide (u.read = u.response.bytes)))
        = some (.ended true, false) ∧
      (x.request 1).map (fun u => (u.read, decide (u.read <+: u.response.bytes)))
        = some (endRecord.encode 1, false) := by
  decide +kernel

end Halmos.Fcgi
