import Halmos.Fcgi.Splice
import Halmos.Fcgi.StreamStep

set_option autoImplicit false

/-! # A client that does not take everything

`fcgi_io_splice_response` once more, with the client's socket: a write may take a part of what it is
given, or fail, and the backend may close its end behind the bytes it has sent. With a client that
takes every write and a backend that stays, this is the function of `Halmos.Fcgi.Splice`
(`fcgiIoSpliceResponse_eq`).
-/

namespace Halmos.Fcgi

/-- The socket of a client: what it has been sent, and what the next writes return. When the list is
used up, a write takes everything. -/
structure ClientSock where
  out : List UInt8
  writes : List SendResult
  deriving DecidableEq, Repr

namespace ClientSock

/-- One call of `send`, or of `ssl_send`, which looks at 32768 bytes at most. -/
def send (c : ClientSock) (limit : Nat) (buf : List UInt8) : SendResult × ClientSock :=
  match c.writes with
  | [] => (.sent (min buf.length limit), ⟨c.out ++ buf.take limit, []⟩)
  | r :: writes => (r, ⟨c.out ++ r.taken (buf.take limit), writes⟩)

/-- The loop of `ssl_send` in `fcgi_smart_response`, which gives up at a negative value. -/
def sslLoop : List SendResult → List UInt8 → List UInt8 → Bool × ClientSock
  | [], out, buf => (true, ⟨out ++ buf, []⟩)
  | r :: writes, out, buf =>
      if buf = [] then (true, ⟨out, r :: writes⟩)
      else
        match r with
        | .sent n => sslLoop writes (out ++ buf.take (min n 32768)) (buf.drop (min n 32768))
        | .wouldBlock => (false, ⟨out, writes⟩)
        | .failed => (false, ⟨out, writes⟩)

/-- `fcgi_smart_response`, and whether it returns something that is not negative. -/
def fcgiSmartResponse (isTls : Bool) (buf : List UInt8) (c : ClientSock) : Bool × ClientSock :=
  if isTls then sslLoop c.writes c.out buf
  else
    match c.send buf.length buf with
    | (.sent _, c) => (true, c)
    | (.wouldBlock, c) => (false, c)
    | (.failed, c) => (false, c)

/-- The loop of `splice` calls that empties the pipe to the client. -/
def pipeLoop : List SendResult → List UInt8 → List UInt8 → Bool × ClientSock
  | [], out, buf => (true, ⟨out ++ buf, []⟩)
  | r :: writes, out, buf =>
      if buf = [] then (true, ⟨out, r :: writes⟩)
      else
        match r with
        | .sent n =>
            if n = 0 then (false, ⟨out, writes⟩)
            else pipeLoop writes (out ++ buf.take n) (buf.drop n)
        | .wouldBlock => pipeLoop writes out buf
        | .failed => (false, ⟨out, writes⟩)

end ClientSock

namespace Delivery

open Http

/-- How an answer is passed on: to a TLS client, through a pipe, on a connection that is kept, from a
backend that closes its end behind the bytes it has sent. -/
structure Link where
  isTls : Bool
  pipe : Bool
  keepAlive : Bool
  closes : Bool
  deriving DecidableEq, Repr

/-- `use_splice`. -/
def Link.useSplice (l : Link) : Bool := !l.isTls && l.pipe

/-- The locals of the function, as in `Fcgi.SpliceState`. -/
structure SpliceState where
  headerBuffer : List UInt8
  headerSent : Bool
  client : ClientSock
  sock : BackendSock

inductive Pass where
  | next (st : SpliceState)
  | stop (ok : Bool) (st : SpliceState)
  | hang

variable (l : Link)

/-- A write whose return value is not looked at. -/
def put (buf : List UInt8) (c : ClientSock) : ClientSock := (c.fcgiSmartResponse l.isTls buf).2

/-- A chunk, with three such writes. -/
def putChunk (data : List UInt8) (c : ClientSock) : ClientSock :=
  put l crlf (put l data (put l (numeral 16 data.length ++ crlf) c))

/-- The loops that read `remain` bytes through `body_temp`; `pass` is what is done with each
piece. -/
def pullLoop (pass : List UInt8 → ClientSock → Bool × ClientSock) (remain : Nat) (c : ClientSock)
    (sock : BackendSock) : Bool × ClientSock × BackendSock :=
  if remain = 0 then (true, c, sock)
  else
    let pull := min remain 16384
    let (got, sock) := sock.recvWaitAll pull
    if got.length ≠ pull then (false, c, sock)
    else
      match pass got c with
      | (false, c) => (false, c, sock)
      | (true, c) => pullLoop pass (remain - pull) c sock
termination_by remain

def headerComplete (clen toRead : Nat) (buf head : List UInt8) (c : ClientSock)
    (sock : BackendSock) : Pass :=
  let text := cstr buf
  match c.fcgiSmartResponse l.isTls (responseStart l.keepAlive text) with
  | (false, c) => .stop false ⟨buf, false, c, sock⟩
  | (true, c) =>
      match c.fcgiSmartResponse l.isTls head with
      | (false, c) => .stop false ⟨buf, false, c, sock⟩
      | (true, c) =>
          if isRedirect text then
            let (_, c, sock) := pullLoop (fun _ c => (true, c)) (clen - buf.length) c sock
            .stop true ⟨buf, true, c, sock⟩
          else
            let bodyInBuf := buf.drop head.length
            let c := if bodyInBuf = [] then c else putChunk l bodyInBuf c
            let (ok, c, sock) :=
              pullLoop (fun got c => (true, putChunk l got c)) (clen - toRead) c sock
            if ok then .next ⟨buf, true, c, sock⟩ else .stop false ⟨buf, true, c, sock⟩

def headerRecord (clen : Nat) (st : SpliceState) : Pass :=
  let space := 8192 - st.headerBuffer.length - 1
  let toRead := if clen < space then clen else space
  let (got, sock) := st.sock.recvWaitAll toRead
  if got.length ≠ toRead then .stop false { st with sock := sock }
  else
    let buf := st.headerBuffer ++ got
    match splitAfter blankLine (cstr buf) with
    | none => .next { st with headerBuffer := buf, sock := sock }
    | some (head, _) => headerComplete l clen toRead buf head st.client sock

/-- The body of a record through the pipe: as much of it as comes, and the end of the function if
that is not all. -/
def spliceBody (clen : Nat) (st : SpliceState) : Pass :=
  let body := st.sock.stream.take clen
  match ClientSock.pipeLoop st.client.writes st.client.out body with
  | (false, c) => .stop false { st with client := c }
  | (true, c) =>
      match st.sock.spliceAll clen with
      | some (_, sock) => .next { st with client := put l crlf c, sock := sock }
      | none => if l.closes then .stop false { st with client := c } else .hang

def bodyRecord (clen : Nat) (st : SpliceState) : Pass :=
  match st.client.fcgiSmartResponse l.isTls (numeral 16 clen ++ crlf) with
  | (false, c) => .stop false { st with client := c }
  | (true, c) =>
      if l.useSplice then spliceBody l clen { st with client := c }
      else
        let (ok, c, sock) :=
          pullLoop (fun got c => c.fcgiSmartResponse l.isTls got) clen c st.sock
        if ok then .next { st with client := put l crlf c, sock := sock }
        else .stop false { st with client := c, sock := sock }

def skip (n : Nat) (st : SpliceState) : Pass :=
  let (got, sock) := st.sock.recvWaitAll n
  if got.length ≠ n then .stop false { st with sock := sock } else .next { st with sock := sock }

def recordBody (h : HeaderFields) (st : SpliceState) : Pass :=
  let clen := h.contentLength
  if h.type = fcgiStdout then
    if clen = 0 then .next st
    else if st.headerSent then bodyRecord l clen st
    else headerRecord l clen st
  else if h.type = fcgiStderr ∧ 0 < clen then skip clen st
  else if h.type = fcgiEndRequest then
    match skip 8 st with
    | .next st =>
        .stop true (if st.headerSent then { st with client := put l lastChunk st.client } else st)
    | other => other
  else .next st

def readRecord (st : SpliceState) : Pass :=
  let (hBuf, sock) := st.sock.recvWaitAll 8
  if hBuf.length ≠ 8 then .stop false { st with sock := sock }
  else
    let h := headerFields hBuf
    match recordBody l h { st with sock := sock } with
    | .next st => if h.paddingLength = 0 then .next st else skip h.paddingLength st
    | other => other

def spliceLoop : Nat → SpliceState → Option (Int × SpliceState)
  | 0, _ => none
  | fuel + 1, st =>
      match readRecord l st with
      | .next st => spliceLoop fuel st
      | .stop ok st => some (if ok then 0 else -2, st)
      | .hang => none

/-- `fcgi_io_splice_response`; `none` is a loop over a pipe that does not end. -/
def fcgiIoSpliceResponse (c : ClientSock) (sock : BackendSock) : Option (Int × SpliceState) :=
  spliceLoop l (sock.stream.length + 1) ⟨[], false, c, sock⟩

/-! ## A client that takes everything -/

/-- What the other functions make of a state, when the client takes every write. -/
def SpliceState.of (st : Fcgi.SpliceState) : SpliceState :=
  ⟨st.headerBuffer, st.headerSent, ⟨st.out, []⟩, st.sock⟩

def Pass.of : Fcgi.Pass → Pass
  | .next st => .next (.of st)
  | .stop ok st => .stop ok (.of st)
  | .hang => .hang

variable {l}

theorem fcgiSmartResponse_all (isTls : Bool) (buf out : List UInt8) :
    ClientSock.fcgiSmartResponse isTls buf ⟨out, []⟩ = (true, ⟨out ++ buf, []⟩) := by
  unfold ClientSock.fcgiSmartResponse
  cases isTls with
  | true => rfl
  | false => simp [ClientSock.send]

theorem put_all (buf out : List UInt8) : put l buf ⟨out, []⟩ = ⟨out ++ buf, []⟩ := by
  rw [put, fcgiSmartResponse_all]

theorem putChunk_all (data out : List UInt8) :
    putChunk l data ⟨out, []⟩ = ⟨out ++ chunk data, []⟩ := by
  simp only [putChunk, put_all, chunk, List.append_assoc]

theorem pullLoop_all {pass : List UInt8 → ClientSock → Bool × ClientSock}
    {passed : List UInt8 → List UInt8}
    (hpass : ∀ got out, pass got ⟨out, []⟩ = (true, ⟨out ++ passed got, []⟩)) (remain : Nat)
    (out : List UInt8) (sock : BackendSock) :
    pullLoop pass remain ⟨out, []⟩ sock
      = ((Fcgi.pullLoop passed remain out sock).1, ⟨(Fcgi.pullLoop passed remain out sock).2.1, []⟩,
        (Fcgi.pullLoop passed remain out sock).2.2) := by
  induction remain using Nat.strong_induction_on generalizing out sock with
  | _ remain ih =>
      rw [pullLoop, Fcgi.pullLoop]
      by_cases hzero : remain = 0
      · simp [hzero]
      · simp only [if_neg hzero, hpass]
        split
        · rfl
        · exact ih _ (by omega) _ _

/-- Reading away, whatever the client has been sent. -/
theorem pullLoop_drain (remain : Nat) (out : List UInt8) (sock : BackendSock) :
    pullLoop (fun _ c => (true, c)) remain ⟨out, []⟩ sock
      = ((Fcgi.pullLoop (fun _ => []) remain [] sock).1, ⟨out, []⟩,
        (Fcgi.pullLoop (fun _ => []) remain [] sock).2.2) := by
  induction remain using Nat.strong_induction_on generalizing sock with
  | _ remain ih =>
      rw [pullLoop, Fcgi.pullLoop]
      by_cases hzero : remain = 0
      · simp [hzero]
      · simp only [if_neg hzero]
        split
        · rfl
        · exact ih _ (by omega) _

theorem headerComplete_all (clen toRead : Nat) (buf head out : List UInt8) (sock : BackendSock) :
    headerComplete l clen toRead buf head ⟨out, []⟩ sock
      = .of (Fcgi.headerComplete l.keepAlive clen toRead buf head out sock) := by
  have hchunks := @pullLoop_all (fun got c => (true, putChunk l got c)) chunk
    (fun got out => by rw [putChunk_all])
  unfold headerComplete Fcgi.headerComplete
  simp only [fcgiSmartResponse_all, pullLoop_drain]
  split
  · rfl
  · by_cases hnil : buf.drop head.length = []
    · simp only [if_pos hnil, hchunks]
      split <;> rfl
    · simp only [if_neg hnil, putChunk_all, hchunks]
      split <;> rfl

theorem headerRecord_all (clen : Nat) (st : Fcgi.SpliceState) :
    headerRecord l clen (.of st) = .of (Fcgi.headerRecord l.keepAlive clen st) := by
  obtain ⟨buf, sent, out, sock⟩ := st
  show headerRecord l clen ⟨buf, sent, ⟨out, []⟩, sock⟩ = _
  unfold headerRecord Fcgi.headerRecord
  dsimp only
  generalize (if clen < 8192 - buf.length - 1 then clen else 8192 - buf.length - 1) = toRead
  split
  · rfl
  · cases splitAfter blankLine (cstr (buf ++ (sock.recvWaitAll toRead).1)) with
    | none => rfl
    | some r => exact headerComplete_all ..

theorem pipeLoop_all (out buf : List UInt8) :
    ClientSock.pipeLoop [] out buf = (true, ⟨out ++ buf, []⟩) := rfl

/-- What comes through the pipe is the front of the stream. -/
theorem spliceAll_eq_some {sock sock' : BackendSock} {n : Nat} {got : List UInt8}
    (h : sock.spliceAll n = some (got, sock')) : sock.stream.take n = got := by
  obtain ⟨hlen, happ⟩ := BackendSock.spliceLoop_eq_some h
  show (sock.ready ++ sock.coming).take n = got
  rw [← happ, ← hlen, List.take_left]

theorem bodyRecord_all (hcloses : l.closes = false) (clen : Nat) (st : Fcgi.SpliceState) :
    bodyRecord l clen (.of st) = .of (Fcgi.bodyRecord l.useSplice clen st) := by
  obtain ⟨buf, sent, out, sock⟩ := st
  show bodyRecord l clen ⟨buf, sent, ⟨out, []⟩, sock⟩ = _
  have hpull := @pullLoop_all (fun got c => c.fcgiSmartResponse l.isTls got) (fun got => got)
    (fun got out => fcgiSmartResponse_all l.isTls got out)
  unfold bodyRecord Fcgi.bodyRecord
  simp only [fcgiSmartResponse_all, hpull]
  split
  · unfold spliceBody
    simp only [pipeLoop_all, hcloses, Bool.false_eq_true, if_false]
    cases hsplice : sock.spliceAll clen with
    | none => rfl
    | some r =>
        obtain ⟨got, sock'⟩ := r
        simp only [put_all, spliceAll_eq_some hsplice]
        rfl
  · simp only [put_all]
    split <;> rfl

theorem skip_all (n : Nat) (st : Fcgi.SpliceState) : skip n (.of st) = .of (Fcgi.skip n st) := by
  obtain ⟨buf, sent, out, sock⟩ := st
  show skip n ⟨buf, sent, ⟨out, []⟩, sock⟩ = _
  unfold skip Fcgi.skip
  dsimp only
  split <;> rfl

theorem recordBody_all (hcloses : l.closes = false) (h : HeaderFields) (st : Fcgi.SpliceState) :
    recordBody l h (.of st) = .of (Fcgi.recordBody l.useSplice l.keepAlive h st) := by
  unfold recordBody Fcgi.recordBody
  simp only [skip_all, bodyRecord_all hcloses, headerRecord_all]
  split
  · split
    · rfl
    · show (if st.headerSent = true then _ else _) = _
      split <;> rfl
  · split
    · rfl
    · split
      · cases hskip : Fcgi.skip 8 st with
        | next st' =>
            obtain ⟨buf, sent, out, sock⟩ := st'
            simp only [Pass.of, SpliceState.of, put_all]
            cases sent <;> rfl
        | stop ok st' => rfl
        | hang => rfl
      · rfl

theorem readRecord_all (hcloses : l.closes = false) (st : Fcgi.SpliceState) :
    readRecord l (.of st) = .of (Fcgi.readRecord l.useSplice l.keepAlive st) := by
  obtain ⟨buf, sent, out, sock⟩ := st
  have hbody := recordBody_all hcloses (headerFields (sock.recvWaitAll 8).1)
    ⟨buf, sent, out, (sock.recvWaitAll 8).2⟩
  show readRecord l ⟨buf, sent, ⟨out, []⟩, sock⟩ = _
  unfold readRecord Fcgi.readRecord
  dsimp only
  split
  · rfl
  · simp only [SpliceState.of] at hbody
    rw [hbody]
    cases Fcgi.recordBody l.useSplice l.keepAlive (headerFields (sock.recvWaitAll 8).1)
        ⟨buf, sent, out, (sock.recvWaitAll 8).2⟩ with
    | next st' =>
        show (if _ then _ else _) = Pass.of (if _ then _ else _)
        split
        · rfl
        · exact skip_all _ _
    | stop ok st' => rfl
    | hang => rfl

/-- With a client that takes everything and a backend that stays, the function is the other one. -/
theorem fcgiIoSpliceResponse_eq (hcloses : l.closes = false) (sock : BackendSock) :
    fcgiIoSpliceResponse l ⟨[], []⟩ sock
      = (Fcgi.fcgiIoSpliceResponse l.useSplice l.keepAlive sock).map fun r => (r.1, .of r.2) := by
  have hloop : ∀ (fuel : Nat) (st : Fcgi.SpliceState), spliceLoop l fuel (.of st)
      = (Fcgi.spliceLoop l.useSplice l.keepAlive fuel st).map fun r => (r.1, .of r.2) := by
    intro fuel
    induction fuel with
    | zero => exact fun _ => rfl
    | succ fuel ih =>
        intro st
        rw [spliceLoop, Fcgi.spliceLoop, readRecord_all hcloses]
        cases Fcgi.readRecord l.useSplice l.keepAlive st with
        | next st' => exact ih st'
        | stop ok st' => rfl
        | hang => rfl
  exact hloop _ ⟨[], false, [], sock⟩

end Delivery

end Halmos.Fcgi
