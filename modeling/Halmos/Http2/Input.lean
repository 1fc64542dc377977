import Halmos.Http2.Receiver

set_option autoImplicit false

/-! # The read side of an HTTP/2 session

The three resumable stages of `halmos_http2_manager.c`: `process_preface`, `read_frame_header`
and `read_frame_payload`. Each makes at most one read and keeps its progress in the session.
What the socket has to offer is a script of `ReadEvent`s; a script that has run out is a socket
that would block for ever.

Every stage is shown to do one thing (`Stage`): take bytes that a `Receiver` in the same
position would absorb, or find that it would block, or find the connection closed.
-/

namespace Halmos.Http2

/-- What a read meets: bytes, of which it takes at most what it asks for and leaves the rest
(no bytes at all is the end of the stream), a would-block, or an error. -/
inductive ReadEvent where
  | bytes (bs : List UInt8)
  | wouldBlock
  | error
  deriving DecidableEq, Repr

/-- `http2_socket_read` for `toRead` bytes: what it meets, and what is left for later. -/
def http2SocketRead (toRead : Nat) : List ReadEvent → ReadEvent × List ReadEvent
  | [] => (.wouldBlock, [])
  | .wouldBlock :: es => (.wouldBlock, es)
  | .error :: es => (.error, es)
  | .bytes bs :: es =>
      if bs.length ≤ toRead then (.bytes bs, es)
      else (.bytes (bs.take toRead), .bytes (bs.drop toRead) :: es)

/-- `read_state`: `0` reads a frame header, `1` its payload. -/
inductive ReadState where
  | header
  | payload
  deriving DecidableEq, Repr

/-- The read fields of `HTTP2Session`. The buffers hold what has been put in them, not the
bytes behind it. -/
structure ReadProgress where
  headerBufPartial : List UInt8
  headerBytesRead : Nat
  prefaceBytesRead : Nat
  readState : ReadState
  currentFrameHead : HTTP2FrameHeader
  payloadBuf : Option (List UInt8)
  payloadBytesRead : Nat
  deriving DecidableEq, Repr

/-- The read fields `calloc` leaves in a new session. -/
def ReadProgress.fresh : ReadProgress :=
  ⟨[], 0, 0, .header, ⟨0, 0, 0, 0⟩, none, 0⟩

/-- The read side: the session's progress and what the socket still has to offer. -/
structure Input where
  progress : ReadProgress
  reads : List ReadEvent
  deriving DecidableEq, Repr

/-- The largest payload `read_frame_header` accepts under `config.max_body_size`. -/
def maxAllowedPayload (maxBodySize : Nat) : Nat :=
  if maxBodySize > 0 then maxBodySize else 1048576

/-- `handle_socket_retry` after a read that would block; `needWrite` says that a backlog or a
stream waits for the socket to become writable. -/
def handleSocketRetry (needWrite : Bool) : Nat := if needWrite then 4 else 2

/-- `n` bytes of the preface have been read and dropped. -/
def ReadProgress.addPreface (p : ReadProgress) (n : Nat) : ReadProgress :=
  { p with prefaceBytesRead := p.prefaceBytesRead + n }

/-- `bs` has been read behind the header bytes already there. -/
def ReadProgress.addHeader (p : ReadProgress) (bs : List UInt8) : ReadProgress :=
  { p with
    headerBufPartial := p.headerBufPartial.take p.headerBytesRead ++ bs
    headerBytesRead := p.headerBytesRead + bs.length }

/-- `bs` has been read behind the payload bytes already there. -/
def ReadProgress.addPayload (p : ReadProgress) (bs : List UInt8) : ReadProgress :=
  { p with
    payloadBuf := p.payloadBuf.map (fun buf => buf.take p.payloadBytesRead ++ bs)
    payloadBytesRead := p.payloadBytesRead + bs.length }

/-- `process_preface`. -/
def processPreface (needWrite : Bool) (i : Input) : Nat × Input :=
  let p := i.progress
  if p.prefaceBytesRead < 24 then
    let (event, reads) := http2SocketRead (24 - p.prefaceBytesRead) i.reads
    match event with
    | .bytes bs =>
        if 0 < bs.length then (1, ⟨p.addPreface bs.length, reads⟩) else (0, ⟨p, reads⟩)
    | .wouldBlock => (handleSocketRetry needWrite, ⟨p, reads⟩)
    | .error => (0, ⟨p, reads⟩)
  else (1, i)

/-- The part of `read_frame_header` that follows the ninth byte. -/
def beginPayload (maxBodySize : Nat) (p : ReadProgress) : Nat × ReadProgress :=
  match http2ParserFrameHeader p.headerBufPartial with
  | none => (0, p)
  | some head =>
      let p := { p with currentFrameHead := head, readState := .payload, payloadBytesRead := 0 }
      if head.length > 0 then
        if head.length > maxAllowedPayload maxBodySize then (0, p)
        else (1, { p with payloadBuf := some [] })
      else (1, p)

/-- `read_frame_header`. -/
def readFrameHeader (maxBodySize : Nat) (needWrite : Bool) (i : Input) : Nat × Input :=
  let p := i.progress
  match p.readState with
  | .header =>
      let (event, reads) := http2SocketRead (9 - p.headerBytesRead) i.reads
      match event with
      | .bytes bs =>
          if 0 < bs.length then
            let p := p.addHeader bs
            if p.headerBytesRead = 9 then
              let r := beginPayload maxBodySize p
              (r.1, ⟨r.2, reads⟩)
            else (1, ⟨p, reads⟩)
          else (0, ⟨p, reads⟩)
      | .wouldBlock => (handleSocketRetry needWrite, ⟨p, reads⟩)
      | .error => (0, ⟨p, reads⟩)
  | .payload => (1, i)

/-- `read_frame_payload`. -/
def readFramePayload (needWrite : Bool) (i : Input) : Nat × Input :=
  let p := i.progress
  match p.readState with
  | .payload =>
      if p.currentFrameHead.length > 0 then
        let (event, reads) :=
          http2SocketRead (p.currentFrameHead.length - p.payloadBytesRead) i.reads
        match event with
        | .bytes bs =>
            if 0 < bs.length then
              let p := p.addPayload bs
              if p.payloadBytesRead < p.currentFrameHead.length then (2, ⟨p, reads⟩)
              else (1, ⟨p, reads⟩)
            else (0, ⟨p, reads⟩)
        | .wouldBlock => (handleSocketRetry needWrite, ⟨p, reads⟩)
        | .error => (0, ⟨p, reads⟩)
      else (1, i)
  | .header => (1, i)

/-- What `dispatch_frame` does to the read fields once a frame has been handled. -/
def ReadProgress.nextFrame (p : ReadProgress) : ReadProgress :=
  { p with payloadBuf := none, readState := .header, headerBytesRead := 0 }

/-- The frame `dispatch_frame` is handed. -/
def ReadProgress.frame (p : ReadProgress) : HTTP2Frame :=
  ⟨p.currentFrameHead, p.payloadBuf.getD []⟩

/-! ## A script, one byte at a time -/

/-- A script cut down to single bytes, would-blocks and the end of the connection. -/
inductive Atom where
  | byte (b : UInt8)
  | block
  | closed
  deriving DecidableEq, Repr

def ReadEvent.atoms : ReadEvent → List Atom
  | .bytes [] => [.closed]
  | .bytes (b :: bs) => (b :: bs).map .byte
  | .wouldBlock => [.block]
  | .error => [.closed]

/-- The atoms of a script. -/
def atomsOf (es : List ReadEvent) : List Atom := es.flatMap ReadEvent.atoms

@[simp] theorem atomsOf_nil : atomsOf [] = [] := rfl

@[simp] theorem atomsOf_cons (e : ReadEvent) (es : List ReadEvent) :
    atomsOf (e :: es) = e.atoms ++ atomsOf es := rfl

theorem ReadEvent.atoms_bytes {bs : List UInt8} (h : bs ≠ []) :
    (ReadEvent.bytes bs).atoms = bs.map .byte := by
  cases bs with
  | nil => exact absurd rfl h
  | cons b bs => rfl

theorem ReadEvent.atoms_ne_nil (e : ReadEvent) : e.atoms ≠ [] := by
  rcases e with (_ | ⟨b, bs⟩) | _ | _ <;> simp [ReadEvent.atoms]

theorem atomsOf_eq_nil {es : List ReadEvent} (h : atomsOf es = []) : es = [] := by
  cases es with
  | nil => rfl
  | cons e es =>
      rw [atomsOf_cons, List.append_eq_nil_iff] at h
      exact absurd h.1 e.atoms_ne_nil

/-- The atoms the read side has still to offer. -/
def Input.atoms (i : Input) : List Atom := atomsOf i.reads

/-- The next atom is a would-block, or nothing is left: the read would block. -/
def Blocks (as as' : List Atom) : Prop := as = .block :: as' ∨ (as = [] ∧ as' = [])

/-- A read of at least one byte, in terms of atoms. -/
inductive ReadOf (toRead : Nat) (es : List ReadEvent) : ReadEvent → List ReadEvent → Prop where
  | bytes (bs : List UInt8) (es' : List ReadEvent) : bs ≠ [] → bs.length ≤ toRead →
      atomsOf es = bs.map .byte ++ atomsOf es' → ReadOf toRead es (.bytes bs) es'
  | eof (as : List Atom) (es' : List ReadEvent) :
      atomsOf es = .closed :: as → ReadOf toRead es (.bytes []) es'
  | wouldBlock (es' : List ReadEvent) :
      Blocks (atomsOf es) (atomsOf es') → ReadOf toRead es .wouldBlock es'
  | error (as : List Atom) (es' : List ReadEvent) :
      atomsOf es = .closed :: as → ReadOf toRead es .error es'

theorem http2SocketRead_readOf (toRead : Nat) (h : 0 < toRead) (es : List ReadEvent) :
    ReadOf toRead es (http2SocketRead toRead es).1 (http2SocketRead toRead es).2 := by
  rcases es with _ | ⟨e, es⟩
  · exact .wouldBlock [] (Or.inr ⟨rfl, rfl⟩)
  · cases e with
    | wouldBlock => exact .wouldBlock es (Or.inl rfl)
    | error => exact .error _ es rfl
    | bytes bs =>
        by_cases hle : bs.length ≤ toRead
        · have hread : http2SocketRead toRead (.bytes bs :: es) = (.bytes bs, es) := if_pos hle
          rw [hread]
          by_cases hne : bs = []
          · subst hne
            exact .eof (atomsOf es) es rfl
          · refine .bytes bs es hne hle ?_
            rw [atomsOf_cons, ReadEvent.atoms_bytes hne]
        · have hread : http2SocketRead toRead (.bytes bs :: es)
              = (.bytes (bs.take toRead), .bytes (bs.drop toRead) :: es) := if_neg hle
          rw [hread]
          have hlen : (bs.take toRead).length = toRead := by
            rw [List.length_take]
            omega
          have htake : bs.take toRead ≠ [] := by
            intro hnil
            rw [hnil] at hlen
            simp at hlen
            omega
          have hdrop : bs.drop toRead ≠ [] := by
            intro hnil
            have := congrArg List.length hnil
            rw [List.length_drop] at this
            simp at this
            omega
          have hbs : bs ≠ [] := by
            rintro rfl
            simp at hle
          refine .bytes _ _ htake (Nat.le_of_eq hlen) ?_
          rw [atomsOf_cons, atomsOf_cons, ReadEvent.atoms_bytes hbs,
            ReadEvent.atoms_bytes hdrop, ← List.append_assoc, ← List.map_append,
            List.take_append_drop]

/-! ## The stages and the receiver -/

/-- The receiver the read fields stand for. -/
def ReadProgress.receiver (p : ReadProgress) : Receiver :=
  if p.prefaceBytesRead < 24 then .preface p.prefaceBytesRead
  else
    match p.readState with
    | .header => .header (p.headerBufPartial.take p.headerBytesRead)
    | .payload => .payload p.currentFrameHead (p.payloadBuf.getD [])

/-- The counters agree with the buffers. -/
structure ReadProgress.Ok (p : ReadProgress) : Prop where
  preface : p.prefaceBytesRead < 24 → p.readState = .header ∧ p.headerBytesRead = 0
  header : p.readState = .header →
    p.headerBytesRead < 9 ∧ p.headerBytesRead ≤ p.headerBufPartial.length ∧
    p.payloadBuf = none
  payload : p.readState = .payload →
    (p.payloadBuf.getD []).length = p.payloadBytesRead ∧
    p.payloadBytesRead ≤ p.currentFrameHead.length ∧
    (0 < p.currentFrameHead.length → p.payloadBuf ≠ none)

theorem ReadProgress.fresh_ok : ReadProgress.fresh.Ok :=
  ⟨fun _ => ⟨rfl, rfl⟩, fun _ => ⟨by decide, by decide, rfl⟩, fun h => by cases h⟩

section Updates

variable {p : ReadProgress} {maxLen maxBodySize : Nat}

theorem ReadProgress.receiver_preface (h : p.prefaceBytesRead < 24) :
    p.receiver = .preface p.prefaceBytesRead := if_pos h

theorem ReadProgress.receiver_header (h : 24 ≤ p.prefaceBytesRead)
    (hs : p.readState = .header) :
    p.receiver = .header (p.headerBufPartial.take p.headerBytesRead) := by
  unfold ReadProgress.receiver
  rw [if_neg (by omega), hs]

theorem ReadProgress.receiver_payload (h : 24 ≤ p.prefaceBytesRead)
    (hs : p.readState = .payload) :
    p.receiver = .payload p.currentFrameHead (p.payloadBuf.getD []) := by
  unfold ReadProgress.receiver
  rw [if_neg (by omega), hs]

theorem ReadProgress.of_receiver_payload {head : HTTP2FrameHeader} {got : List UInt8}
    (h : p.receiver = .payload head got) :
    24 ≤ p.prefaceBytesRead ∧ p.readState = .payload := by
  unfold ReadProgress.receiver at h
  split at h
  · cases h
  · next hpref =>
      refine ⟨Nat.le_of_not_lt hpref, ?_⟩
      cases hs : p.readState with
      | header =>
          rw [hs] at h
          cases h
      | payload => rfl

theorem ReadProgress.of_receiver_preface {got : Nat} (h : p.receiver = .preface got) :
    p.prefaceBytesRead < 24 := by
  by_contra hpref
  unfold ReadProgress.receiver at h
  rw [if_neg hpref] at h
  cases hs : p.readState <;> rw [hs] at h <;> cases h

theorem ReadProgress.addPreface_spec (hok : p.Ok) (h : p.prefaceBytesRead < 24)
    (bs : List UInt8) :
    (p.addPreface bs.length).Ok ∧
    (p.addPreface bs.length).receiver = p.receiver.absorb maxLen bs := by
  obtain ⟨hs, hb⟩ := hok.preface h
  refine ⟨⟨fun _ => ⟨hs, hb⟩, hok.header, hok.payload⟩, ?_⟩
  rw [ReadProgress.receiver_preface h, Receiver.absorb]
  by_cases hlt : p.prefaceBytesRead + bs.length < 24
  · rw [if_pos hlt]
    exact ReadProgress.receiver_preface hlt
  · rw [if_neg hlt,
      ReadProgress.receiver_header (p := p.addPreface bs.length) (Nat.le_of_not_lt hlt) hs]
    simp [ReadProgress.addPreface, hb]

theorem ReadProgress.Ok.header_length (hok : p.Ok) (hs : p.readState = .header) :
    (p.headerBufPartial.take p.headerBytesRead).length = p.headerBytesRead := by
  have hle := (hok.header hs).2.1
  rw [List.length_take]
  omega

/-- Header bytes that leave the header incomplete. -/
theorem ReadProgress.addHeader_spec (hok : p.Ok) (h : 24 ≤ p.prefaceBytesRead)
    (hs : p.readState = .header) (bs : List UInt8) (hlt : p.headerBytesRead + bs.length < 9) :
    (p.addHeader bs).Ok ∧ (p.addHeader bs).receiver = p.receiver.absorb maxLen bs := by
  have hlen : (p.headerBufPartial.take p.headerBytesRead ++ bs).length
      = p.headerBytesRead + bs.length := by
    rw [List.length_append, hok.header_length hs]
  refine ⟨⟨fun hp => absurd h (Nat.not_le.mpr hp), fun _ => ⟨hlt, Nat.le_of_eq hlen.symm, (hok.header hs).2.2⟩,
    fun hp => ?_⟩, ?_⟩
  · have hcon : ReadState.header = .payload := hs.symm.trans hp
    cases hcon
  · rw [ReadProgress.receiver_header h hs, Receiver.absorb,
      Receiver.http2ParserFrameHeader_eq_none (by omega),
      ReadProgress.receiver_header (p := p.addHeader bs) h hs]
    simp only [ReadProgress.addHeader]
    rw [List.take_of_length_le (Nat.le_of_eq hlen)]

theorem ReadProgress.Ok.need_pos_of_header (hok : p.Ok) (hs : p.readState = .header) :
    0 < p.receiver.need := by
  by_cases hpref : p.prefaceBytesRead < 24
  · rw [ReadProgress.receiver_preface hpref, Receiver.need]
    omega
  · have hlt := (hok.header hs).1
    rw [ReadProgress.receiver_header (Nat.le_of_not_lt hpref) hs, Receiver.need,
      hok.header_length hs]
    omega

theorem ReadProgress.Ok.preface_of_payload (hok : p.Ok) (hs : p.readState = .payload) :
    24 ≤ p.prefaceBytesRead := by
  by_contra hlt
  have hcon : ReadState.header = .payload :=
    ((hok.preface (Nat.lt_of_not_le hlt)).1).symm.trans hs
  cases hcon

/-- The ninth header byte: a frame that is too long is refused, any other begins its payload. -/
theorem beginPayload_spec (hok : p.Ok) (h : 24 ≤ p.prefaceBytesRead)
    (hs : p.readState = .header) {bs : List UInt8} (hnine : p.headerBytesRead + bs.length = 9) :
    let r := beginPayload maxBodySize (p.addHeader bs)
    (r.1 = 0 ∧ p.receiver.absorb (maxAllowedPayload maxBodySize) bs = .closed) ∨
    (r.1 = 1 ∧ r.2.Ok ∧
      r.2.receiver = p.receiver.absorb (maxAllowedPayload maxBodySize) bs) := by
  have hlen : (p.headerBufPartial.take p.headerBytesRead ++ bs).length = 9 := by
    rw [List.length_append, hok.header_length hs, hnine]
  have hnone : p.payloadBuf = none := (hok.header hs).2.2
  obtain ⟨head, hhead⟩ := Receiver.http2ParserFrameHeader_isSome hlen
  rw [ReadProgress.receiver_header h hs]
  simp only [beginPayload, ReadProgress.addHeader, Receiver.absorb, hhead]
  -- in every branch that goes on, nothing of the payload has been read yet
  have hpref : ¬ p.prefaceBytesRead < 24 := Nat.not_lt.mpr h
  by_cases hpos : head.length > 0
  · rw [if_pos hpos]
    by_cases hbig : head.length > maxAllowedPayload maxBodySize
    · rw [if_pos hbig, if_pos hbig]
      exact Or.inl ⟨rfl, rfl⟩
    · rw [if_neg hbig, if_neg hbig]
      refine Or.inr ⟨rfl, ⟨fun hp => absurd hp hpref, fun hp => ?_, fun _ => ?_⟩, ?_⟩
      · cases hp
      · exact ⟨rfl, Nat.zero_le _, fun _ => by simp⟩
      · exact ReadProgress.receiver_payload h rfl
  · have hsmall : ¬ head.length > maxAllowedPayload maxBodySize := by omega
    rw [if_neg hpos, if_neg hsmall]
    refine Or.inr ⟨rfl, ⟨fun hp => absurd hp hpref, fun hp => ?_, fun _ => ?_⟩, ?_⟩
    · cases hp
    · exact ⟨by simp [hnone], Nat.zero_le _, fun hp => absurd hp hpos⟩
    · simp [ReadProgress.receiver, hpref, hnone]

theorem ReadProgress.addPayload_spec (hok : p.Ok) (h : 24 ≤ p.prefaceBytesRead)
    (hs : p.readState = .payload) {bs : List UInt8} (hpos : 0 < bs.length)
    (hle : bs.length ≤ p.currentFrameHead.length - p.payloadBytesRead) :
    (p.addPayload bs).Ok ∧ (p.addPayload bs).receiver = p.receiver.absorb maxLen bs := by
  obtain ⟨hlen, hread, hbuf⟩ := hok.payload hs
  obtain ⟨buf, hsome⟩ := Option.ne_none_iff_exists'.mp (hbuf (by omega))
  simp only [hsome, Option.getD_some] at hlen
  have hnew : (p.addPayload bs).payloadBuf = some (buf ++ bs) := by
    simp only [ReadProgress.addPayload, hsome, Option.map_some]
    rw [List.take_of_length_le (Nat.le_of_eq hlen)]
  refine ⟨⟨fun hp => absurd h (Nat.not_le.mpr hp), fun hp => ?_, fun _ => ⟨?_, ?_, ?_⟩⟩, ?_⟩
  · have hcon : ReadState.payload = .header := hs.symm.trans hp
    cases hcon
  · rw [hnew, Option.getD_some, List.length_append, hlen]
    rfl
  · show p.payloadBytesRead + bs.length ≤ p.currentFrameHead.length
    omega
  · intro _
    simp [hnew]
  · rw [ReadProgress.receiver_payload h hs, Receiver.absorb, hsome,
      ReadProgress.receiver_payload (p := p.addPayload bs) h hs, hnew]
    rfl

end Updates

/-! ## What a stage does -/

/-- What a stage does to the read side: its return code and the read side afterwards. -/
inductive Stage (maxLen : Nat) (needWrite : Bool) (i : Input) : Nat × Input → Prop where
  | took (bs : List UInt8) (i' : Input) : bs ≠ [] →
      bs.length ≤ i.progress.receiver.need → i.atoms = bs.map .byte ++ i'.atoms →
      i'.progress.Ok → i'.progress.receiver = i.progress.receiver.absorb maxLen bs →
      Stage maxLen needWrite i
        (if i.progress.receiver.InPayload ∧ 0 < i'.progress.receiver.need then 2 else 1, i')
  | refused (bs : List UInt8) (i' : Input) : bs ≠ [] →
      bs.length ≤ i.progress.receiver.need → i.atoms = bs.map .byte ++ i'.atoms →
      i.progress.receiver.absorb maxLen bs = .closed → Stage maxLen needWrite i (0, i')
  | blocked (i' : Input) : Blocks i.atoms i'.atoms → i'.progress = i.progress →
      Stage maxLen needWrite i (handleSocketRetry needWrite, i')
  | lost (as : List Atom) (i' : Input) : i.atoms = .closed :: as →
      Stage maxLen needWrite i (0, i')

section Stages

variable {i : Input} {maxLen maxBodySize : Nat} {needWrite : Bool}

/-- Outside a payload, taking bytes is answered with `1`. -/
theorem Stage.took_outside {bs : List UInt8} {i' : Input}
    (hout : ¬ i.progress.receiver.InPayload) (hne : bs ≠ [])
    (hle : bs.length ≤ i.progress.receiver.need) (hatoms : i.atoms = bs.map .byte ++ i'.atoms)
    (hok : i'.progress.Ok)
    (hrx : i'.progress.receiver = i.progress.receiver.absorb maxLen bs) :
    Stage maxLen needWrite i (1, i') := by
  have htook : Stage maxLen needWrite i
      (if i.progress.receiver.InPayload ∧ 0 < i'.progress.receiver.need then 2 else 1, i') :=
    Stage.took bs i' hne hle hatoms hok hrx
  rwa [if_neg (fun hin => hout hin.1)] at htook

variable (maxLen needWrite) in
theorem processPreface_stage (hok : i.progress.Ok) (h : i.progress.prefaceBytesRead < 24) :
    Stage maxLen needWrite i (processPreface needWrite i) := by
  have hrx := ReadProgress.receiver_preface h
  unfold processPreface
  simp only
  rw [if_pos h]
  have hread := http2SocketRead_readOf (24 - i.progress.prefaceBytesRead) (by omega) i.reads
  generalize http2SocketRead (24 - i.progress.prefaceBytesRead) i.reads = r at hread ⊢
  obtain ⟨event, reads⟩ := r
  cases hread with
  | bytes bs _ hne hle hatoms =>
      obtain ⟨hok', hrx'⟩ := ReadProgress.addPreface_spec hok h bs
      simp only [if_pos (List.length_pos_iff.mpr hne)]
      exact Stage.took_outside (by rw [hrx]; exact id) hne (by rw [hrx]; exact hle) hatoms
        hok' hrx'
  | eof as _ hatoms => exact .lost as _ hatoms
  | wouldBlock _ hblocks => exact .blocked _ hblocks rfl
  | error as _ hatoms => exact .lost as _ hatoms

theorem processPreface_skip (h : 24 ≤ i.progress.prefaceBytesRead) :
    processPreface needWrite i = (1, i) := by
  unfold processPreface
  simp only
  rw [if_neg (by omega)]

variable (maxBodySize needWrite) in
theorem readFrameHeader_stage (hok : i.progress.Ok) (h : 24 ≤ i.progress.prefaceBytesRead)
    (hs : i.progress.readState = .header) :
    Stage (maxAllowedPayload maxBodySize) needWrite i
      (readFrameHeader maxBodySize needWrite i) := by
  have hrx := ReadProgress.receiver_header h hs
  have hlt := (hok.header hs).1
  unfold readFrameHeader
  simp only [hs]
  have hread := http2SocketRead_readOf (9 - i.progress.headerBytesRead) (by omega) i.reads
  generalize http2SocketRead (9 - i.progress.headerBytesRead) i.reads = r at hread ⊢
  obtain ⟨event, reads⟩ := r
  cases hread with
  | bytes bs _ hne hle hatoms =>
      have hneed : bs.length ≤ i.progress.receiver.need := by
        rw [hrx, Receiver.need, hok.header_length hs]
        exact hle
      have hout : ¬ i.progress.receiver.InPayload := by
        rw [hrx]
        exact id
      simp only [if_pos (List.length_pos_iff.mpr hne)]
      by_cases hnine : i.progress.headerBytesRead + bs.length = 9
      · rw [if_pos (show (i.progress.addHeader bs).headerBytesRead = 9 from hnine)]
        rcases beginPayload_spec hok h hs hnine with
          ⟨hcode, hclosed⟩ | ⟨hcode, hok', hrx'⟩
        · rw [hcode]
          exact .refused bs _ hne hneed hatoms hclosed
        · rw [hcode]
          exact Stage.took_outside hout hne hneed hatoms hok' hrx'
      · rw [if_neg (show ¬ (i.progress.addHeader bs).headerBytesRead = 9 from hnine)]
        obtain ⟨hok', hrx'⟩ := ReadProgress.addHeader_spec hok h hs bs (by omega)
        exact Stage.took_outside hout hne hneed hatoms hok' hrx'
  | eof as _ hatoms => exact .lost as _ hatoms
  | wouldBlock _ hblocks => exact .blocked _ hblocks rfl
  | error as _ hatoms => exact .lost as _ hatoms

theorem readFrameHeader_skip (hs : i.progress.readState = .payload) :
    readFrameHeader maxBodySize needWrite i = (1, i) := by
  unfold readFrameHeader
  simp only [hs]

variable (maxLen needWrite) in
theorem readFramePayload_stage (hok : i.progress.Ok) (h : 24 ≤ i.progress.prefaceBytesRead)
    (hs : i.progress.readState = .payload) (hneed : 0 < i.progress.receiver.need) :
    Stage maxLen needWrite i (readFramePayload needWrite i) := by
  have hrx := ReadProgress.receiver_payload h hs
  obtain ⟨hlen, hread, -⟩ := hok.payload hs
  have hneed' : i.progress.receiver.need
      = i.progress.currentFrameHead.length - i.progress.payloadBytesRead := by
    rw [hrx, Receiver.need, hlen]
  rw [hneed'] at hneed
  unfold readFramePayload
  simp only [hs]
  rw [if_pos (by omega)]
  have hread := http2SocketRead_readOf _ hneed i.reads
  generalize http2SocketRead (i.progress.currentFrameHead.length
    - i.progress.payloadBytesRead) i.reads = r at hread ⊢
  obtain ⟨event, reads⟩ := r
  cases hread with
  | bytes bs _ hne hle hatoms =>
      have hpos := List.length_pos_iff.mpr hne
      obtain ⟨hok', hrx'⟩ := ReadProgress.addPayload_spec hok h hs hpos hle
      have hin : i.progress.receiver.InPayload := by
        rw [hrx]
        trivial
      have hleft : (i.progress.addPayload bs).receiver.need
          = i.progress.currentFrameHead.length - (i.progress.addPayload bs).payloadBytesRead := by
        rw [ReadProgress.receiver_payload (p := i.progress.addPayload bs) h hs, Receiver.need,
          (hok'.payload hs).1]
        rfl
      -- one stage has read `bs`; whether it goes on is the same test on the receiver and on the
      -- counters of the source
      have htook : Stage maxLen needWrite i
          (if i.progress.receiver.InPayload ∧ 0 < (i.progress.addPayload bs).receiver.need then 2
            else 1, ⟨i.progress.addPayload bs, reads⟩) :=
        Stage.took bs ⟨i.progress.addPayload bs, reads⟩ hne (by rw [hneed']; exact hle) hatoms hok'
          hrx'
      simp only [if_pos hpos]
      by_cases hmore : (i.progress.addPayload bs).payloadBytesRead
          < i.progress.currentFrameHead.length
      · rw [if_pos ⟨hin, by rw [hleft]; omega⟩] at htook
        rw [if_pos (show (i.progress.addPayload bs).payloadBytesRead
          < (i.progress.addPayload bs).currentFrameHead.length from hmore)]
        exact htook
      · rw [if_neg (by rw [hleft]; rintro ⟨-, hlt⟩; omega)] at htook
        rw [if_neg (show ¬ (i.progress.addPayload bs).payloadBytesRead
          < (i.progress.addPayload bs).currentFrameHead.length from hmore)]
        exact htook
  | eof as _ hatoms => exact .lost as _ hatoms
  | wouldBlock _ hblocks => exact .blocked _ hblocks rfl
  | error as _ hatoms => exact .lost as _ hatoms

variable (needWrite) in
theorem readFramePayload_skip (hs : i.progress.readState = .payload)
    (hlen : i.progress.currentFrameHead.length = 0) :
    readFramePayload needWrite i = (1, i) := by
  unfold readFramePayload
  simp only [hs]
  rw [if_neg (by omega)]

end Stages

/-! ## The next frame -/

/-- `dispatch_frame` leaves a receiver between frames behind. -/
theorem ReadProgress.nextFrame_spec {p : ReadProgress}
    (h : 24 ≤ p.prefaceBytesRead) :
    p.nextFrame.Ok ∧ p.nextFrame.receiver = .header [] := by
  refine ⟨⟨fun hp => absurd h (Nat.not_le.mpr hp), fun _ => ⟨?_, ?_, rfl⟩,
    fun hp => ?_⟩, ?_⟩
  · show 0 < 9
    omega
  · exact Nat.zero_le _
  · cases hp
  · exact ReadProgress.receiver_header (p := p.nextFrame) h rfl

end Halmos.Http2
