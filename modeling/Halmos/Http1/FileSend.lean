import Halmos.Basic.Bytes
import Halmos.Basic.Runs

set_option autoImplicit false

/-! # Sending a static file

`http1_response_plain` and `http1_response_ssl` send the header in `header_buf` and then the file,
over as many calls as the socket makes of it. The first leaves the file to `sendfile`, the second
reads a chunk at `file_offset` and writes it, and reads again what has not been taken. Both send
the header and the file as they are (`fileSend_prefix`), if the file is as long as its `stat` said.
If it has become shorter, `sendfile` takes nothing and the first gives up; the second takes the end
of the file for the end of its work (`completed_iff`).
-/

namespace Halmos.Http1

/-! ## What the calls meet -/

/-- One call of `send`, `sendfile` or `SSL_write`: it takes `n` bytes (all of them if fewer are
offered), would block (`EAGAIN`, `SSL_ERROR_WANT_WRITE`), waits for the client
(`SSL_ERROR_WANT_READ`), or fails. -/
inductive WriteResult where
  | accepted (n : Nat)
  | again
  | wantRead
  | failed
  deriving DecidableEq, Repr

/-- The bytes that are taken. -/
def WriteResult.taken (bytes : List UInt8) : WriteResult → List UInt8
  | .accepted n => bytes.take n
  | .again | .wantRead | .failed => []

/-- One call of `read`: up to `n + 1` bytes of what is asked for, none only at the end of the file,
or an error. -/
inductive FileRead where
  | bytes (n : Nat)
  | again
  | failed
  deriving DecidableEq, Repr

/-- What one round of a loop meets: the content of the file at that moment, whether `lseek`
succeeds, and what `read` and the write make of it. -/
structure SendEvent where
  content : List UInt8
  seeks : Bool
  read : FileRead
  write : WriteResult
  deriving DecidableEq, Repr

/-- What `http1_response_plain` returns when a call has taken nothing. -/
def plainFailure : WriteResult → Int
  | .again => 3
  | .accepted _ | .wantRead | .failed => 0

/-- What `http1_response_ssl` returns. -/
def sslFailure : WriteResult → Int
  | .again => 3
  | .wantRead => 2
  | .accepted _ | .failed => 0

/-! ## The senders -/

/-- The fields of `HTTP1Session` a static file is sent with; `headerBuf` is `header_buf` up to
`header_len`. -/
structure StaticResponse where
  headerBuf : List UInt8
  headerSentOffset : Nat
  isHeaderSent : Bool
  fileFd : Int
  fileOffset : Nat
  fileRemaining : Nat
  deriving DecidableEq, Repr

/-- The fields as `http1_manager_routing_bridge` leaves them for a file of `size` bytes. -/
def StaticResponse.start (header : List UInt8) (fd size : Nat) : StaticResponse where
  headerBuf := header
  headerSentOffset := 0
  isHeaderSent := false
  fileFd := fd
  fileOffset := 0
  fileRemaining := size

/-- One round of a loop, or a loop: the value it returns from the function with, if it does, the
fields, the bytes that reach the client, and what later rounds meet. -/
structure Progress where
  value : Option Int
  session : StaticResponse
  sent : List UInt8
  rest : List SendEvent
  deriving DecidableEq, Repr

namespace StaticResponse

/-- Bytes of the header have been sent. -/
def headerTaken (s : StaticResponse) (n : Nat) : StaticResponse :=
  { s with headerSentOffset := s.headerSentOffset + n }

/-- Bytes of the file have been sent. -/
def fileTaken (s : StaticResponse) (n : Nat) : StaticResponse :=
  { s with fileOffset := s.fileOffset + n, fileRemaining := s.fileRemaining - n }

/-- A round of the loop over the header. -/
def headerRound (failure : WriteResult → Int) (s : StaticResponse) (e : SendEvent) :
    Option Int × StaticResponse × List UInt8 :=
  let sent := e.write.taken (s.headerBuf.drop s.headerSentOffset)
  if sent = [] then (some (failure e.write), s, []) else (none, s.headerTaken sent.length, sent)

/-- A round of the loop over the file in `http1_response_plain`. -/
def plainRound (s : StaticResponse) (e : SendEvent) : Option Int × StaticResponse × List UInt8 :=
  let sent := e.write.taken ((e.content.drop s.fileOffset).take s.fileRemaining)
  if sent = [] then (some (plainFailure e.write), s, []) else (none, s.fileTaken sent.length, sent)

/-- A round of the loop over the file in `http1_response_ssl`. -/
def sslRound (s : StaticResponse) (e : SendEvent) : Option Int × StaticResponse × List UInt8 :=
  if e.seeks = false then (some 0, s, [])
  else
    match e.read with
    | .again => (some 3, s, [])
    | .failed => (some 0, s, [])
    | .bytes n =>
        let toRead := min s.fileRemaining 16384
        let chunk := (e.content.drop s.fileOffset).take (min (n + 1) toRead)
        -- `break`, and then `return 1`
        if chunk = [] then (some 1, s, [])
        else
          let sent := e.write.taken chunk
          if sent = [] then (some (sslFailure e.write), s, [])
          else (none, s.fileTaken sent.length, sent)

/-- A `while` loop. A script that has run out would block. -/
def sendLoop (goesOn : StaticResponse → Bool)
    (round : StaticResponse → SendEvent → Option Int × StaticResponse × List UInt8) :
    StaticResponse → List SendEvent → Progress
  | s, [] => ⟨if goesOn s then some 3 else none, s, [], []⟩
  | s, e :: events =>
      if goesOn s then
        match round s e with
        | (some v, s, sent) => ⟨some v, s, sent, events⟩
        | (none, s, sent) =>
            let later := sendLoop goesOn round s events
            { later with sent := sent ++ later.sent }
      else ⟨none, s, [], e :: events⟩

/-- `header_sent_offset < header_len` -/
def headerLeft (s : StaticResponse) : Bool := s.headerSentOffset < s.headerBuf.length

/-- `file_remaining > 0` -/
def fileLeft (s : StaticResponse) : Bool := 0 < s.fileRemaining

/-- The first part of both functions. -/
def sendHeader (failure : WriteResult → Int) (s : StaticResponse) (events : List SendEvent) :
    Progress :=
  if s.isHeaderSent then ⟨none, s, [], events⟩
  else
    let p := sendLoop headerLeft (headerRound failure) s events
    if p.value = none then { p with session := { p.session with isHeaderSent := true } } else p

/-- What the two functions have in common. -/
def sendResponse (failure : WriteResult → Int)
    (round : StaticResponse → SendEvent → Option Int × StaticResponse × List UInt8)
    (s : StaticResponse) (events : List SendEvent) : Int × StaticResponse × List UInt8 :=
  let header := sendHeader failure s events
  match header.value with
  | some v => (v, header.session, header.sent)
  | none =>
      if 0 ≤ header.session.fileFd ∧ header.session.fileLeft then
        let body := sendLoop fileLeft round header.session header.rest
        (body.value.getD 1, body.session, header.sent ++ body.sent)
      else (1, header.session, header.sent)

/-- `http1_response_plain(sock_client, session)`: its value, the fields and the bytes that reach
the client. -/
def http1ResponsePlain : StaticResponse → List SendEvent → Int × StaticResponse × List UInt8 :=
  sendResponse plainFailure plainRound

/-- `http1_response_ssl(conn, session)` on a connection with TLS. -/
def http1ResponseSsl : StaticResponse → List SendEvent → Int × StaticResponse × List UInt8 :=
  sendResponse sslFailure sslRound

end StaticResponse

/-- A response on its way: the fields, the last value of the function and all that has reached the
client. -/
structure FileSending where
  session : StaticResponse
  result : Int
  delivered : List UInt8
  deriving DecidableEq, Repr

namespace FileSending

/-- `http1_manager_routing_bridge` has returned `3`. -/
def start (header : List UInt8) (fd size : Nat) : FileSending := ⟨.start header fd size, 3, []⟩

/-- `http1_manager_session` in `STATE_SEND_STATIC_FILE`: the function is called as long as it has
returned `2` or `3`. -/
def step (isTls : Bool) (s : FileSending) (events : List SendEvent) : FileSending :=
  if s.result = 2 ∨ s.result = 3 then
    let (result, session, sent) :=
      if isTls then s.session.http1ResponseSsl events else s.session.http1ResponsePlain events
    ⟨session, result, s.delivered ++ sent⟩
  else s

end FileSending

/-! ## What has been sent -/

theorem WriteResult.taken_prefix (bytes : List UInt8) (r : WriteResult) : r.taken bytes <+: bytes := by
  cases r with
  | accepted n => exact List.take_prefix n bytes
  | again => exact List.nil_prefix
  | wantRead => exact List.nil_prefix
  | failed => exact List.nil_prefix

/-- What has been delivered of a response with a file of `size` bytes: the header up to its offset,
and as many bytes of the file as the other offset says; they are those of `file`, if that is what
the file contains. -/
structure Sent (header : List UInt8) (size : Nat) (file : Option (List UInt8)) (s : StaticResponse)
    (delivered : List UInt8) : Prop where
  headerBuf : s.headerBuf = header
  fileFd : 0 ≤ s.fileFd
  header_le : s.headerSentOffset ≤ header.length
  header_first : s.fileOffset = 0 ∨ s.headerSentOffset = header.length
  header_sent : s.isHeaderSent = true → s.headerSentOffset = header.length
  total : s.fileOffset + s.fileRemaining = size
  delivered_eq : ∃ body, delivered = header.take s.headerSentOffset ++ body ∧
    body.length = s.fileOffset ∧ ∀ f ∈ file, body = f.take s.fileOffset

theorem sent_start (header : List UInt8) (fd size : Nat) (file : Option (List UInt8)) :
    Sent header size file (.start header fd size) [] where
  headerBuf := rfl
  fileFd := Int.natCast_nonneg fd
  header_le := Nat.zero_le _
  header_first := .inl rfl
  header_sent := nofun
  total := Nat.zero_add size
  delivered_eq := ⟨[], rfl, rfl, fun _ _ => rfl⟩

/-- The event shows the file as it is. -/
def ShowsFile (file : Option (List UInt8)) (e : SendEvent) : Prop := ∀ f ∈ file, e.content = f

/-- A round of a loop over the file sends what comes next, and no more than is left. -/
def Forwards (round : StaticResponse → SendEvent → Option Int × StaticResponse × List UInt8) :
    Prop :=
  ∀ s e, (round s e).2.2 <+: (e.content.drop s.fileOffset).take s.fileRemaining ∧
    (round s e).2.1 = s.fileTaken (round s e).2.2.length

section Sending

open StaticResponse

variable {s : StaticResponse} {e : SendEvent} {header delivered : List UInt8} {size : Nat}
  {file : Option (List UInt8)} {failure : WriteResult → Int} {events : List SendEvent}
  {round : StaticResponse → SendEvent → Option Int × StaticResponse × List UInt8}

theorem plainRound_forwards : Forwards plainRound := by
  intro s e
  have htaken := e.write.taken_prefix ((e.content.drop s.fileOffset).take s.fileRemaining)
  unfold plainRound
  dsimp only
  split
  · exact ⟨List.nil_prefix, rfl⟩
  · exact ⟨htaken, rfl⟩

theorem sslRound_forwards : Forwards sslRound := by
  intro s e
  have hnothing : [] <+: (e.content.drop s.fileOffset).take s.fileRemaining ∧
      s = s.fileTaken ([] : List UInt8).length := ⟨List.nil_prefix, rfl⟩
  unfold sslRound
  split
  · exact hnothing
  · split
    · exact hnothing
    · exact hnothing
    · next n _ =>
        have htaken := e.write.taken_prefix
          ((e.content.drop s.fileOffset).take (min (n + 1) (min s.fileRemaining 16384)))
        have hle : min (n + 1) (min s.fileRemaining 16384) ≤ s.fileRemaining := by omega
        dsimp only
        split
        · exact hnothing
        · split
          · exact hnothing
          · exact ⟨htaken.trans (List.take_prefix_take_left hle), rfl⟩

/-- Bytes that follow in a text make a longer beginning of it. -/
theorem take_append_prefix {text sent : List UInt8} {n : Nat} (h : sent <+: text.drop n) :
    text.take n ++ sent = text.take (n + sent.length) := by
  rw [List.take_add, ← List.prefix_iff_eq_take.mp h]

/-- A round over the header. -/
theorem Sent.headerRound (h : Sent header size file s delivered) (hleft : s.headerLeft = true) :
    Sent header size file (s.headerRound failure e).2.1
      (delivered ++ (s.headerRound failure e).2.2) := by
  have hlt : s.headerSentOffset < header.length := by simpa [headerLeft, h.headerBuf] using hleft
  have hnone : s.fileOffset = 0 := h.header_first.resolve_right (by omega)
  have htaken := e.write.taken_prefix (s.headerBuf.drop s.headerSentOffset)
  obtain ⟨body, hdelivered, hbody, hfile⟩ := h.delivered_eq
  obtain rfl : body = [] := List.length_eq_zero_iff.mp (hbody.trans hnone)
  unfold StaticResponse.headerRound
  rw [h.headerBuf] at htaken ⊢
  generalize e.write.taken (header.drop s.headerSentOffset) = sent at htaken ⊢
  dsimp only
  split
  · rw [List.append_nil]
    exact h
  · have hlen := htaken.length_le
    rw [List.length_drop] at hlen
    refine ⟨h.headerBuf, h.fileFd, ?_, .inl hnone, ?_, h.total, [], ?_, hbody, hfile⟩
    · show s.headerSentOffset + sent.length ≤ header.length
      omega
    · intro hsent
      have hall := h.header_sent hsent
      omega
    · rw [hdelivered, List.append_nil, List.append_nil]
      exact take_append_prefix htaken

/-- A round over the file. -/
theorem Sent.fileRound (h : Sent header size file s delivered)
    (hheader : s.headerSentOffset = header.length) (hround : Forwards round)
    (hshows : ShowsFile file e) :
    Sent header size file (round s e).2.1 (delivered ++ (round s e).2.2) ∧
      (round s e).2.1.headerSentOffset = header.length := by
  obtain ⟨hsent, hsession⟩ := hround s e
  generalize round s e = r at hsent hsession ⊢
  obtain ⟨value, session, sent⟩ := r
  obtain rfl : session = s.fileTaken sent.length := hsession
  dsimp only at hsent ⊢
  have hlen := hsent.length_le
  rw [List.length_take] at hlen
  have htotal := h.total
  obtain ⟨body, hdelivered, hbody, hfile⟩ := h.delivered_eq
  refine ⟨⟨h.headerBuf, h.fileFd, h.header_le, .inr hheader, h.header_sent, ?_, body ++ sent, ?_,
    ?_, fun f hf => ?_⟩, hheader⟩
  · show s.fileOffset + sent.length + (s.fileRemaining - sent.length) = size
    omega
  · rw [hdelivered, List.append_assoc]
    rfl
  · rw [List.length_append, hbody]
    rfl
  · have hnext : sent <+: f.drop s.fileOffset :=
      hshows f hf ▸ hsent.trans (List.take_prefix _ _)
    rw [hfile f hf]
    exact take_append_prefix hnext

/-! ### The loops -/

variable {goesOn : StaticResponse → Bool} {P : StaticResponse → List UInt8 → Prop}

/-- What every round keeps, a loop keeps. -/
theorem sendLoop_keeps (delivered : List UInt8) (goesOn : StaticResponse → Bool)
    (round : StaticResponse → SendEvent → Option Int × StaticResponse × List UInt8)
    (events : List SendEvent) (hround : ∀ s delivered, ∀ e ∈ events, goesOn s = true → P s delivered →
      P (round s e).2.1 (delivered ++ (round s e).2.2)) (hs : P s delivered) :
    let p := sendLoop goesOn round s events
    P p.session (delivered ++ p.sent) ∧ (p.value = none → goesOn p.session = false) ∧
      p.rest <:+ events := by
  induction events generalizing s delivered with
  | nil =>
      exact ⟨by simpa [sendLoop] using hs, by simp [sendLoop], List.suffix_refl _⟩
  | cons e events ih =>
      simp only [sendLoop]
      by_cases hgo : goesOn s = true
      · rw [if_pos hgo]
        have hone := hround s delivered e List.mem_cons_self hgo hs
        rcases hstep : round s e with ⟨_ | v, session, sent⟩
        · rw [hstep] at hone
          obtain ⟨hkept, hend, hrest⟩ := ih _
            (fun s delivered e' he' => hround s delivered e' (List.mem_cons_of_mem e he')) hone
          refine ⟨?_, hend, hrest.trans (List.suffix_cons e events)⟩
          rw [List.append_assoc] at hkept
          exact hkept
        · rw [hstep] at hone
          exact ⟨hone, nofun, List.suffix_cons e events⟩
      · rw [if_neg hgo]
        exact ⟨by simpa using hs, fun _ => by simpa using hgo, List.suffix_refl _⟩

/-- A loop that returns does so at the end of the script, or with the value of a round. -/
theorem sendLoop_value (delivered : List UInt8) (goesOn : StaticResponse → Bool)
    (round : StaticResponse → SendEvent → Option Int × StaticResponse × List UInt8)
    (events : List SendEvent) (hround : ∀ s delivered, ∀ e ∈ events, goesOn s = true →
      P s delivered → P (round s e).2.1 (delivered ++ (round s e).2.2)) (hs : P s delivered)
    {v : Int} (hv : (sendLoop goesOn round s events).value = some v) :
    v = 3 ∨ ∃ t delivered, ∃ e ∈ events, goesOn t = true ∧ P t delivered ∧
      (round t e).1 = some v := by
  induction events generalizing s delivered with
  | nil =>
      by_cases hgo : goesOn s = true
      · exact .inl (by simpa [sendLoop, hgo] using hv.symm)
      · simp [sendLoop, hgo] at hv
  | cons e events ih =>
      simp only [sendLoop] at hv
      by_cases hgo : goesOn s = true
      · rw [if_pos hgo] at hv
        have hone := hround s delivered e List.mem_cons_self hgo hs
        rcases hstep : round s e with ⟨_ | w, session, sent⟩
        · rw [hstep] at hv hone
          have hlater := fun s delivered e' he' =>
            hround s delivered e' (List.mem_cons_of_mem e he')
          rcases ih _ hlater hone hv with hend | ⟨t, before, e', he', ht⟩
          · exact .inl hend
          · exact .inr ⟨t, before, e', List.mem_cons_of_mem e he', ht⟩
        · rw [hstep] at hv
          exact .inr ⟨s, delivered, e, List.mem_cons_self, hgo, hs, by rw [hstep]; exact hv⟩
      · simp [hgo] at hv

/-- A round returns a value. -/
theorem sendLoop_value_round {v : Int} (hv : (sendLoop goesOn round s events).value = some v) :
    v = 3 ∨ ∃ t, ∃ e ∈ events, goesOn t = true ∧ (round t e).1 = some v := by
  rcases sendLoop_value (P := fun _ _ => True) [] goesOn round events
    (fun _ _ _ _ _ _ => trivial) trivial hv with hend | ⟨t, -, e, he, hgo, -, hround⟩
  · exact .inl hend
  · exact .inr ⟨t, e, he, hgo, hround⟩

theorem sendLoop_end (hvalue : (sendLoop goesOn round s events).value = none) :
    goesOn (sendLoop goesOn round s events).session = false :=
  (sendLoop_keeps (P := fun _ _ => True) [] goesOn round events
    (fun _ _ _ _ _ _ => trivial) trivial).2.1 hvalue

theorem plainFailure_ne (r : WriteResult) : plainFailure r ≠ 1 := by cases r <;> simp [plainFailure]

theorem sslFailure_ne (r : WriteResult) : sslFailure r ≠ 1 := by cases r <;> simp [sslFailure]

theorem headerRound_value (hfailure : ∀ r, failure r ≠ 1) :
    (s.headerRound failure e).1 ≠ some 1 := by
  unfold headerRound
  dsimp only
  split
  · simpa using hfailure e.write
  · exact nofun

theorem plainRound_value : (s.plainRound e).1 ≠ some 1 := by
  unfold plainRound
  dsimp only
  split
  · simpa using plainFailure_ne e.write
  · exact nofun

/-- `read` finds the end of the file. -/
def StaticResponse.atEnd (s : StaticResponse) (e : SendEvent) : Bool :=
  match e.read with
  | .bytes _ => e.seeks && decide (e.content.length ≤ s.fileOffset)
  | .again | .failed => false

theorem sslRound_value (hleft : s.fileLeft = true) :
    (s.sslRound e).1 = some 1 ↔ s.atEnd e = true := by
  have hpos : s.fileRemaining ≠ 0 := by simpa [fileLeft, Nat.pos_iff_ne_zero] using hleft
  unfold sslRound atEnd
  cases hseeks : e.seeks with
  | false => cases e.read <;> simp
  | true =>
      cases hread : e.read with
      | again => simp
      | failed => simp
      | bytes n =>
          have hchunk : (e.content.drop s.fileOffset).take (min (n + 1) (min s.fileRemaining 16384))
              = [] ↔ e.content.length ≤ s.fileOffset := by
            rw [List.take_eq_nil_iff, List.drop_eq_nil_iff]
            omega
          simp only [Bool.true_eq_false, if_false, Bool.true_and, decide_eq_true_eq]
          rw [← hchunk]
          generalize (e.content.drop s.fileOffset).take (min (n + 1) (min s.fileRemaining 16384))
            = chunk
          by_cases hend : chunk = []
          · rw [if_pos hend]
            simp [hend]
          · rw [if_neg hend]
            simp only [hend, iff_false]
            split
            · simpa using sslFailure_ne e.write
            · exact nofun

/-! ### The functions -/

/-- The header, with what is left for the file. -/
theorem Sent.sendHeader (h : Sent header size file s delivered) (failure : WriteResult → Int)
    (events : List SendEvent) :
    let p := StaticResponse.sendHeader failure s events
    Sent header size file p.session (delivered ++ p.sent) ∧
      (p.value = none → p.session.headerSentOffset = header.length) ∧ p.rest <:+ events := by
  unfold StaticResponse.sendHeader
  by_cases hsent : s.isHeaderSent = true
  · rw [if_pos hsent]
    exact ⟨by simpa using h, fun _ => h.header_sent hsent, List.suffix_refl _⟩
  · rw [if_neg hsent]
    obtain ⟨hkept, hend, hrest⟩ := sendLoop_keeps _ headerLeft (StaticResponse.headerRound failure)
      events (fun _ _ _ _ hleft ht => Sent.headerRound ht hleft) h
    generalize sendLoop headerLeft (StaticResponse.headerRound failure) s events = p
      at hkept hend hrest
    dsimp only
    by_cases hnone : p.value = none
    · rw [if_pos hnone]
      have hall : p.session.headerSentOffset = header.length := by
        have hdone := hend hnone
        have hle := hkept.header_le
        simp only [headerLeft, hkept.headerBuf, decide_eq_false_iff_not] at hdone
        omega
      refine ⟨⟨hkept.headerBuf, hkept.fileFd, hkept.header_le, hkept.header_first, fun _ => hall,
        hkept.total, hkept.delivered_eq⟩, fun _ => hall, hrest⟩
    · rw [if_neg hnone]
      exact ⟨hkept, fun hno => absurd hno hnone, hrest⟩

/-- What a function sends. -/
theorem Sent.sendResponse (h : Sent header size file s delivered) (failure : WriteResult → Int)
    (hround : Forwards round) (hshows : ∀ e ∈ events, ShowsFile file e) :
    let r := StaticResponse.sendResponse failure round s events
    Sent header size file r.2.1 (delivered ++ r.2.2) ∧
      ((StaticResponse.sendHeader failure s events).value = none →
        r.2.1.headerSentOffset = header.length) := by
  obtain ⟨hkept, hall, hrest⟩ := h.sendHeader failure events
  unfold StaticResponse.sendResponse
  generalize StaticResponse.sendHeader failure s events = p at hkept hall hrest
  dsimp only
  cases hvalue : p.value with
  | some v => exact ⟨hkept, nofun⟩
  | none =>
      dsimp only
      split
      · have hfile := sendLoop_keeps _ fileLeft round p.rest
          (P := fun t delivered =>
            Sent header size file t delivered ∧ t.headerSentOffset = header.length)
          (fun _ _ e he _ ht => ht.1.fileRound ht.2 hround (hshows e (hrest.subset he)))
          ⟨hkept, hall hvalue⟩
        rw [← List.append_assoc]
        exact ⟨hfile.1.1, fun _ => hfile.1.2⟩
      · exact ⟨hkept, fun _ => hall hvalue⟩

theorem sendHeader_value (hfailure : ∀ r, failure r ≠ 1) (s : StaticResponse)
    (events : List SendEvent) :
    (sendHeader failure s events).value ≠ some 1 := by
  unfold sendHeader
  split
  · exact nofun
  · dsimp only
    split
    · next hnone => simp [hnone]
    · intro hone
      rcases sendLoop_value_round hone with hend | ⟨t, e, -, -, hround⟩
      · exact absurd hend (by decide)
      · exact headerRound_value hfailure hround

theorem sendLoop_done (h : goesOn s = false) (events : List SendEvent) :
    sendLoop goesOn round s events = ⟨none, s, [], events⟩ := by
  cases events <;> simp [sendLoop, h]

/-- A function that returns `1` has sent the header, and then its loop over the file has ended, or
returned `1`. -/
theorem sendResponse_one (hfailure : ∀ r, failure r ≠ 1) (h : Sent header size file s delivered) :
    let p := sendHeader failure s events
    let body := sendLoop fileLeft round p.session p.rest
    (sendResponse failure round s events).1 = 1 ↔
      p.value = none ∧ (body.value = none ∨ body.value = some 1) := by
  obtain ⟨hkept, -, -⟩ := h.sendHeader failure events
  have hno := sendHeader_value hfailure s events
  unfold sendResponse
  generalize sendHeader failure s events = p at hkept hno
  dsimp only
  cases hvalue : p.value with
  | some v =>
      have hne : v ≠ 1 := fun hone => hno (by rw [hvalue, hone])
      simp [hne]
  | none =>
      have hfd := hkept.fileFd
      by_cases hleft : p.session.fileLeft = true
      · rw [if_pos ⟨hfd, hleft⟩]
        cases hbody : (sendLoop fileLeft round p.session p.rest).value <;> simp
      · rw [if_neg (by simp [hleft]), sendLoop_done (by simpa using hleft)]
        simp

/-- And then the fields are those the loop has left. -/
theorem sendResponse_session (h : Sent header size file s delivered)
    (hvalue : (sendHeader failure s events).value = none) :
    let p := sendHeader failure s events
    (sendResponse failure round s events).2.1
      = (sendLoop fileLeft round p.session p.rest).session := by
  obtain ⟨hkept, -, -⟩ := h.sendHeader failure events
  unfold sendResponse
  generalize sendHeader failure s events = p at hkept hvalue
  have hfd := hkept.fileFd
  dsimp only
  rw [hvalue]
  dsimp only
  by_cases hleft : p.session.fileLeft = true
  · rw [if_pos ⟨hfd, hleft⟩]
  · rw [if_neg (by simp [hleft]), sendLoop_done (by simpa using hleft)]

/-- A loop over the file with TLS meets the end of the file before it has sent all that is left. -/
def loopMeetsEnd : StaticResponse → List SendEvent → Bool
  | _, [] => false
  | s, e :: events =>
      s.fileLeft && (s.atEnd e || ((s.sslRound e).1 = none && loopMeetsEnd (s.sslRound e).2.1 events))

/-- A call of `http1_response_ssl` meets it. -/
def meetsEnd (s : StaticResponse) (events : List SendEvent) : Bool :=
  let p := sendHeader sslFailure s events
  p.value = none && loopMeetsEnd p.session p.rest

theorem sslLoop_one : (sendLoop fileLeft sslRound s events).value = some 1 ↔
    loopMeetsEnd s events = true := by
  induction events generalizing s with
  | nil =>
      by_cases hleft : s.fileLeft = true <;> simp [sendLoop, loopMeetsEnd, hleft]
  | cons e events ih =>
      by_cases hleft : s.fileLeft = true
      · have hend := sslRound_value (e := e) hleft
        simp only [sendLoop, loopMeetsEnd, hleft, if_true, Bool.true_and, Bool.or_eq_true, ← hend]
        rcases s.sslRound e with ⟨_ | v, session, sent⟩
        · simpa using ih
        · simp
      · simp [sendLoop, loopMeetsEnd, hleft]

theorem sslRound_atEnd (hleft : s.fileLeft = true) (hend : s.atEnd e = true) :
    (s.sslRound e).2.1 = s := by
  have hone := (sslRound_value hleft).mpr hend
  unfold sslRound at hone ⊢
  split
  · rfl
  · next hseeks =>
      rw [if_neg hseeks] at hone
      split at hone
      · rfl
      · rfl
      · dsimp only at hone ⊢
        split
        · rfl
        · next hchunk =>
            rw [if_neg hchunk] at hone
            split
            · rfl
            · next hsent => simp [hsent] at hone

/-- Where the loop has met the end of the file, something is left. -/
theorem sslLoop_left (h : loopMeetsEnd s events = true) :
    (sendLoop fileLeft sslRound s events).session.fileLeft = true := by
  induction events generalizing s with
  | nil => simp [loopMeetsEnd] at h
  | cons e events ih =>
      rw [loopMeetsEnd, Bool.and_eq_true, Bool.or_eq_true] at h
      obtain ⟨hleft, h⟩ := h
      simp only [sendLoop, hleft, if_true]
      rcases hstep : s.sslRound e with ⟨_ | v, session, sent⟩
      · have hlater : loopMeetsEnd session events = true := by
          rcases h with hend | hlater
          · have hone := (sslRound_value hleft).mpr hend
            simp [hstep] at hone
          · simpa [hstep] using hlater
        exact ih hlater
      · have hend : s.atEnd e = true := by
          rcases h with hend | hlater
          · exact hend
          · simp [hstep] at hlater
        have hsame := sslRound_atEnd hleft hend
        rw [hstep] at hsame
        dsimp only at hsame ⊢
        rwa [hsame]

/-! ### Completion -/

/-- All has been sent when nothing is left. -/
theorem Sent.complete_iff (h : Sent header size file s delivered)
    (hheader : s.headerSentOffset = header.length) :
    delivered.length = header.length + size ↔ s.fileLeft = false := by
  obtain ⟨body, rfl, hbody, -⟩ := h.delivered_eq
  have htotal := h.total
  simp only [hheader, List.take_length, List.length_append, fileLeft, decide_eq_false_iff_not]
  omega

/-- And then it is the header and the file. -/
theorem Sent.complete {f : List UInt8} (h : Sent header f.length (some f) s delivered)
    (hheader : s.headerSentOffset = header.length) (hleft : s.fileLeft = false) :
    delivered = header ++ f := by
  obtain ⟨body, rfl, -, hfile⟩ := h.delivered_eq
  have htotal := h.total
  simp only [fileLeft, decide_eq_false_iff_not] at hleft
  rw [hfile f rfl, hheader, List.take_length, List.take_of_length_le (by omega)]

/-- What has been delivered begins the header and the file. -/
theorem Sent.of_file {f : List UInt8} (h : Sent header size (some f) s delivered) :
    delivered <+: header ++ f ∧ s.headerSentOffset + s.fileOffset = delivered.length := by
  obtain ⟨body, rfl, hbody, hfile⟩ := h.delivered_eq
  have hle := h.header_le
  refine ⟨?_, by simp [hbody, hle]⟩
  rcases h.header_first with hnone | hall
  · rw [hfile f rfl, hnone, List.take_zero, List.append_nil]
    exact (List.take_prefix _ _).trans (List.prefix_append _ _)
  · rw [hfile f rfl, hall, List.take_length]
    exact (List.prefix_append_right_inj _).mpr (List.take_prefix _ _)

/-- `http1_response_plain` returns `1` only when nothing is left. -/
theorem plain_one (h : Sent header size file s delivered)
    (hone : (s.http1ResponsePlain events).1 = 1) :
    (sendHeader plainFailure s events).value = none ∧
      (s.http1ResponsePlain events).2.1.fileLeft = false := by
  obtain ⟨hheader, hbody⟩ := (sendResponse_one plainFailure_ne h).mp hone
  refine ⟨hheader, ?_⟩
  unfold http1ResponsePlain
  rw [sendResponse_session h hheader]
  rcases hbody with hend | hend
  · exact sendLoop_end hend
  · rcases sendLoop_value_round hend with h3 | ⟨t, e, -, -, hround⟩
    · exact absurd h3 (by decide)
    · exact absurd hround plainRound_value

theorem ssl_left_of_meetsEnd (h : Sent header size file s delivered)
    (hend : meetsEnd s events = true) : (s.http1ResponseSsl events).1 = 1 ∧
      (s.http1ResponseSsl events).2.1.fileLeft = true := by
  rw [meetsEnd, Bool.and_eq_true, decide_eq_true_eq] at hend
  obtain ⟨hheader, hloop⟩ := hend
  refine ⟨(sendResponse_one sslFailure_ne h).mpr ⟨hheader, .inr (sslLoop_one.mpr hloop)⟩, ?_⟩
  unfold http1ResponseSsl
  rw [sendResponse_session h hheader]
  exact sslLoop_left hloop

/-- A call of `http1_response_ssl` that returns `1` and has not met the end of the file. -/
theorem ssl_one (h : Sent header size file s delivered)
    (hone : (s.http1ResponseSsl events).1 = 1) (hend : meetsEnd s events = false) :
    (sendHeader sslFailure s events).value = none ∧
      (s.http1ResponseSsl events).2.1.fileLeft = false := by
  obtain ⟨hheader, hbody⟩ := (sendResponse_one sslFailure_ne h).mp hone
  refine ⟨hheader, ?_⟩
  unfold http1ResponseSsl
  rw [sendResponse_session h hheader]
  rcases hbody with hdone | hone
  · exact sendLoop_end hdone
  · simp [meetsEnd, hheader, sslLoop_one.mp hone] at hend

/-- A file that is as long as it was announced does not end before all has been sent. -/
theorem not_meetsEnd {f : List UInt8} (h : Sent header f.length (some f) s delivered)
    (hshows : ∀ e ∈ events, ShowsFile (some f) e) : meetsEnd s events = false := by
  obtain ⟨hkept, hall, hrest⟩ := h.sendHeader sslFailure events
  rw [meetsEnd]
  generalize sendHeader sslFailure s events = p at hkept hall hrest
  by_contra hend
  simp only [Bool.not_eq_false, Bool.and_eq_true, decide_eq_true_eq] at hend
  obtain ⟨hheader, hloop⟩ := hend
  rcases sendLoop_value (P := fun t delivered =>
      Sent header f.length (some f) t delivered ∧ t.headerSentOffset = header.length)
    _ fileLeft sslRound p.rest
    (fun _ _ e he _ ht => ht.1.fileRound ht.2 sslRound_forwards (hshows e (hrest.subset he)))
    ⟨hkept, hall hheader⟩ (sslLoop_one.mpr hloop) with h3 | ⟨t, before, e, he, hleft, ht, hround⟩
  · exact absurd h3 (by decide)
  · have hatEnd := (sslRound_value hleft).mp hround
    have htotal := ht.1.total
    have hcontent := hshows e (hrest.subset he) f rfl
    unfold atEnd at hatEnd
    split at hatEnd
    · simp only [hcontent, Bool.and_eq_true, decide_eq_true_eq] at hatEnd
      simp only [fileLeft, decide_eq_true_eq] at hleft
      omega
    · cases hatEnd
    · cases hatEnd

end Sending

namespace FileSending

variable {isTls : Bool} {s : FileSending} {header : List UInt8} {size fd : Nat}
  {file : Option (List UInt8)} {events : List SendEvent} {calls : List (List SendEvent)}

/-- A call, if there is another one. -/
theorem step_eq (isTls : Bool) (s : FileSending) (events : List SendEvent) :
    s.step isTls events = s ∨ (s.result = 2 ∨ s.result = 3) ∧
      let r := if isTls then s.session.http1ResponseSsl events
        else s.session.http1ResponsePlain events
      s.step isTls events = ⟨r.2.1, r.1, s.delivered ++ r.2.2⟩ := by
  unfold step
  split
  · next hgo => exact .inr ⟨hgo, rfl⟩
  · exact .inl rfl

/-- A call, whatever the function. -/
theorem sent_call (isTls : Bool) {s : StaticResponse} {delivered : List UInt8}
    (h : Sent header size file s delivered) (hshows : ∀ e ∈ events, ShowsFile file e) :
    let r := if isTls then s.http1ResponseSsl events else s.http1ResponsePlain events
    Sent header size file r.2.1 (delivered ++ r.2.2) ∧
      (r.1 = 1 → r.2.1.headerSentOffset = header.length ∧
        (r.2.1.fileLeft = false ↔ ¬ (isTls = true ∧ meetsEnd s events = true))) := by
  cases isTls with
  | false =>
      obtain ⟨hkept, hheader⟩ := h.sendResponse plainFailure plainRound_forwards hshows
      refine ⟨hkept, fun hone => ?_⟩
      obtain ⟨hnone, hleft⟩ := plain_one h hone
      exact ⟨hheader hnone, by simpa using hleft⟩
  | true =>
      obtain ⟨hkept, hheader⟩ := h.sendResponse sslFailure sslRound_forwards hshows
      refine ⟨hkept, fun hone => ?_⟩
      obtain ⟨hnone, -⟩ := (sendResponse_one sslFailure_ne h).mp hone
      refine ⟨hheader hnone, ?_⟩
      cases hend : meetsEnd s events with
      | false => simpa using (ssl_one h hone hend).2
      | true => simpa using (ssl_left_of_meetsEnd h hend).2

/-- The invariant for a file that stays as it is. -/
structure Whole (header file : List UInt8) (s : FileSending) : Prop where
  sent : Sent header file.length (some file) s.session s.delivered
  complete : s.result = 1 → s.delivered = header ++ file

theorem Whole.step {f : List UInt8} (h : Whole header f s) (hshows : ∀ e ∈ events, e.content = f) :
    Whole header f (s.step isTls events) := by
  have hsome : ∀ e ∈ events, ShowsFile (some f) e := by
    rintro e he _ ⟨⟩
    exact hshows e he
  rcases s.step_eq isTls events with hsame | ⟨-, hcall⟩
  · rw [hsame]
    exact h
  · obtain ⟨hkept, hend⟩ := sent_call isTls h.sent hsome
    rw [hcall]
    refine ⟨hkept, fun hone => ?_⟩
    obtain ⟨hheader, hleft⟩ := hend hone
    exact hkept.complete hheader (hleft.mpr (by simp [not_meetsEnd h.sent hsome]))

/-- A call with TLS does not meet the end of the file before all of it has been sent. -/
def ReachesSize (isTls : Bool) (s : FileSending) (events : List SendEvent) : Prop :=
  isTls = true → s.result = 2 ∨ s.result = 3 → meetsEnd s.session events = false

/-- `1` has been returned behind as many bytes as were announced. -/
def Completed (header : List UInt8) (size : Nat) (s : FileSending) : Prop :=
  s.result = 1 → s.delivered.length = header.length + size

instance (header : List UInt8) (size : Nat) (s : FileSending) : Decidable (Completed header size s) :=
  inferInstanceAs (Decidable (_ → _))

theorem Completed.step (hsent : Sent header size file s.session s.delivered)
    (hshows : ∀ e ∈ events, ShowsFile file e) (h : Completed header size s)
    (hreach : ReachesSize isTls s events) : Completed header size (s.step isTls events) := by
  rcases s.step_eq isTls events with hsame | ⟨hgo, hcall⟩
  · rw [hsame]
    exact h
  · obtain ⟨hkept, hend⟩ := sent_call isTls hsent hshows
    rw [hcall]
    intro hone
    obtain ⟨hheader, hleft⟩ := hend hone
    refine (hkept.complete_iff hheader).mpr (hleft.mpr fun ⟨htls, hmeets⟩ => ?_)
    rw [hreach htls hgo] at hmeets
    cases hmeets

theorem not_completed (hsent : Sent header size file s.session s.delivered)
    (hshows : ∀ e ∈ events, ShowsFile file e) (hno : ¬ ReachesSize isTls s events) :
    ¬ Completed header size (s.step isTls events) := by
  intro hgood
  refine hno fun htls hgo => ?_
  by_contra hmeets
  rw [Bool.not_eq_false] at hmeets
  subst htls
  obtain ⟨hone, hleft⟩ := ssl_left_of_meetsEnd hsent hmeets
  obtain ⟨hkept, hend⟩ := sent_call true hsent hshows
  have hcall : s.step true events = ⟨(s.session.http1ResponseSsl events).2.1,
      (s.session.http1ResponseSsl events).1,
      s.delivered ++ (s.session.http1ResponseSsl events).2.2⟩ := by
    rw [FileSending.step, if_pos hgo]
    rfl
  rw [hcall] at hgood
  have hall := (hkept.complete_iff (hend hone).1).mp (hgood hone)
  simp [hleft] at hall

end FileSending

open FileSending

/-- **A static file**: at all times the bytes delivered begin the header and the file, with none
sent twice and none left out, and `1` is returned only when they are all of them. -/
theorem fileSend_prefix (isTls : Bool) (header file : List UInt8) (fd : Nat)
    (calls : List (List SendEvent)) (hfile : ∀ call ∈ calls, ∀ e ∈ call, e.content = file) :
    let s := runSteps (step isTls) (start header fd file.length) calls
    s.delivered <+: header ++ file ∧
      s.session.headerSentOffset + s.session.fileOffset = s.delivered.length ∧
      (s.result = 1 → s.delivered = header ++ file) := by
  have hstart : Whole header file (start header fd file.length) :=
    ⟨sent_start header fd file.length (some file), nofun⟩
  have hwhole : Whole header file (runSteps (step isTls) (start header fd file.length) calls) :=
    runSteps_induction hstart fun events hevents _ hs => hs.step (hfile events hevents)
  exact ⟨hwhole.sent.of_file.1, hwhole.sent.of_file.2, hwhole.complete⟩

/-- Four bytes of header and three of file, in three calls. -/
theorem fileSend_abc :
    let calls : List (List SendEvent) :=
      [[⟨ascii "abc", true, .bytes 2, .accepted 3⟩, ⟨ascii "abc", true, .bytes 2, .again⟩],
        [⟨ascii "abc", true, .bytes 2, .accepted 3⟩, ⟨ascii "abc", true, .bytes 2, .accepted 2⟩,
          ⟨ascii "abc", true, .bytes 0, .wantRead⟩],
        [⟨ascii "abc", true, .bytes 0, .accepted 1⟩]]
    let s := runSteps (step true) (start (ascii "200 ") 7 (ascii "abc").length) calls
    s.result = 1 ∧ s.delivered <+: ascii "200 " ++ ascii "abc" ∧
      s.session.headerSentOffset + s.session.fileOffset = s.delivered.length ∧
      (s.result = 1 → s.delivered = ascii "200 " ++ ascii "abc") :=
  ⟨by decide +kernel, fileSend_prefix true (ascii "200 ") (ascii "abc") 7 _ (by decide +kernel)⟩

/-- **A file that becomes shorter**: `1` is returned only behind as many bytes as the header has
announced if and only if no call with TLS meets the end of the file before. -/
theorem completed_iff (isTls : Bool) (header : List UInt8) (size fd : Nat)
    (calls : List (List SendEvent)) :
    (∀ done, done <+: calls →
        Completed header size (runSteps (step isTls) (start header fd size) done)) ↔
      GuardedRun (ReachesSize isTls) (step isTls) (start header fd size) calls := by
  refine GuardedRun.iff_forall_prefix
    (fun s => Sent header size none s.session s.delivered ∧ Completed header size s)
    (fun s h => h.2) ?_ ?_ ⟨sent_start header fd size none, nofun⟩ (guardedRun_true _ calls)
  · rintro s events ⟨hsent, hcompleted⟩ - hreach
    have hshows : ∀ e ∈ events, ShowsFile none e := fun e _ f hf => nomatch hf
    refine ⟨?_, hcompleted.step hsent hshows hreach⟩
    rcases s.step_eq isTls events with hsame | ⟨-, hcall⟩
    · rw [hsame]
      exact hsent
    · rw [hcall]
      exact (sent_call isTls hsent hshows).1
  · rintro s events ⟨hsent, -⟩ - hno
    exact not_completed hsent (fun e _ f hf => nomatch hf) hno

/-- The file has lost its last byte. -/
theorem shorter_file_completed :
    let calls : List (List SendEvent) :=
      [[⟨ascii "ab", true, .bytes 0, .accepted 4⟩, ⟨ascii "ab", true, .bytes 2, .accepted 2⟩,
        ⟨ascii "ab", true, .bytes 2, .accepted 2⟩]]
    let s := runSteps (step true) (start (ascii "200 ") 7 3) calls
    s.result = 1 ∧ s.delivered = ascii "200 ab" ∧ s.session.fileRemaining = 1 ∧
      ¬ Completed (ascii "200 ") 3 s := by
  decide +kernel

end Halmos.Http1
