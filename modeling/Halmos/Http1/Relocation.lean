import Halmos.Http1.Parts
import Halmos.Http1.Pipelining
import Halmos.Http1.Pointers

set_option autoImplicit false

/-! # A request in pieces

A request comes in any number of reads, into a buffer that `realloc` makes longer on the way. What is
seen of it when it is handled is compared with the same request in one read into a buffer that is
long enough.

The parser has run when the header block is complete, on the part of the body that had come with it.
When the buffer moves after that, `update_header_pointers` moves the pointers into `route_result` with
the others, and leaves those of the parts behind. So the two are the same if and only if the parts
have been complete and no such pointer is there when the buffer is reallocated
(`request_pieces_iff`).
-/

namespace Halmos.Http1

/-! ## The capacity of the buffer -/

/-- The capacity behind the check in front of a read. -/
def room (capacity length : Nat) : Nat := if capacity - 1 ≤ length then capacity * 2 else capacity

/-- Each read brings something, and no more than it asks for. -/
def Fits : Nat → Nat → List RecvResult → Prop
  | _, _, [] => True
  | capacity, length, .data bs :: script =>
      bs ≠ [] ∧ bs.length ≤ room capacity length - length - 1 ∧
        Fits (room capacity length) (length + bs.length) script
  | capacity, length, _ :: script => Fits (room capacity length) length script

instance Fits.decidable : (capacity length : Nat) → (script : List RecvResult) →
    Decidable (Fits capacity length script)
  | _, _, [] => isTrue trivial
  | capacity, length, .data bs :: script =>
      have := Fits.decidable (room capacity length) (length + bs.length) script
      inferInstanceAs (Decidable (_ ∧ _ ∧ _))
  | capacity, length, .wouldBlock :: script => Fits.decidable (room capacity length) length script
  | capacity, length, .closed :: script => Fits.decidable (room capacity length) length script
  | capacity, length, .failed :: script => Fits.decidable (room capacity length) length script

/-- The capacity of the buffer and the bytes in it when there are `n` of them or more. -/
def whenRead (n : Nat) : Nat → Nat → List RecvResult → Nat × Nat
  | capacity, length, [] => (capacity, length)
  | capacity, length, .data bs :: script =>
      if n ≤ length + bs.length then (room capacity length, length + bs.length)
      else whenRead n (room capacity length) (length + bs.length) script
  | capacity, length, _ :: script => whenRead n (room capacity length) length script

variable {s s' t : HTTP1Session} {script script' rest : List RecvResult} {bs : List UInt8}
  {server : Server} {moved : Nat → Int}

theorem grow_capacity (moved : Nat → Int) (s : HTTP1Session) :
    (s.grow moved).bufCapacity = room s.bufCapacity s.buffer.length := by
  unfold HTTP1Session.grow room
  split <;> rfl

theorem grow_of_lt (h : s.buffer.length < s.bufCapacity - 1) : s.grow moved = s :=
  if_neg (not_le.mpr h)

/-- The read, when it fits. -/
theorem recvData_grow (hne : bs ≠ [])
    (hlen : bs.length ≤ room s.bufCapacity s.buffer.length - s.buffer.length - 1) :
    (s.grow moved).recvData bs = some { s.grow moved with buffer := s.buffer ++ bs } := by
  unfold HTTP1Session.recvData
  rw [if_neg, grow_buffer]
  rw [grow_capacity, grow_buffer]
  rintro (h | h)
  · exact hne h
  · omega

/-! ## Runs until a request is handled -/

/-- Calls on a session until a request is to be handled. -/
inductive Reaches (server : Server) : HTTP1Session → List RecvResult → HTTP1Session → Prop
  | handle {s s' : HTTP1Session} {script rest : List RecvResult}
      (h : readRequest server s script = some (.complete, s', rest)) : Reaches server s script s'
  | again {s t s' : HTTP1Session} {script rest : List RecvResult}
      (h : readRequest server s script = some (.returns 2, t, rest)) (hnext : Reaches server t rest s') :
      Reaches server s script s'

theorem Reaches.unique (h : Reaches server s script s') (h' : Reaches server s script t) :
    s' = t := by
  induction h with
  | handle hrun =>
      cases h' with
      | handle hrun' =>
          rw [hrun] at hrun'
          exact (Prod.mk.inj (Prod.mk.inj (Option.some.inj hrun')).2).1
      | again hrun' hnext =>
          rw [hrun] at hrun'
          cases hrun'
  | again hrun hnext ih =>
      cases h' with
      | handle hrun' =>
          rw [hrun] at hrun'
          cases hrun'
      | again hrun' hnext' =>
          rw [hrun] at hrun'
          cases hrun'
          exact ih hnext'

/-- Runs that go on in the same way. -/
theorem reaches_congr (h : readRequest server s script = readRequest server t rest) :
    Reaches server s script s' ↔ Reaches server t rest s' := by
  constructor
  · rintro (hrun | ⟨hrun, hnext⟩)
    · exact .handle (h ▸ hrun)
    · exact .again (h ▸ hrun) hnext
  · rintro (hrun | ⟨hrun, hnext⟩)
    · exact .handle (h.symm ▸ hrun)
    · exact .again (h.symm ▸ hrun) hnext

theorem reaches_returned (h : readRequest server s script = some (.returns 2, t, rest)) :
    Reaches server s script s' ↔ Reaches server t rest s' := by
  constructor
  · rintro (hrun | ⟨hrun, hnext⟩)
    · rw [h] at hrun
      cases hrun
    · rw [h] at hrun
      cases hrun
      exact hnext
  · exact .again h

/-! ## What a call does with the next read -/

theorem readRequest_more (hst : s.state = .readHeaders)
    (hread : (s.grow server.moved).recvData bs = some t) (hno : t.headerComplete = false) :
    readRequest server s (.data bs :: script) = readRequest server t script := by
  have ht : t.state = .readHeaders := by
    obtain ⟨-, rfl⟩ := recvData_eq_some hread
    exact (grow_state _ _).trans hst
  unfold readRequest
  rw [if_pos hst, if_pos ht, readHeaders, hread]
  simp only [Option.bind_eq_bind, Option.bind_some, hno, Bool.false_eq_true, if_false]

theorem readRequest_wait (hst : s.state = .readHeaders) :
    readRequest server s (.wouldBlock :: script)
      = some (.returns 2, s.grow server.moved, script) := by
  unfold readRequest
  rw [if_pos hst, readHeaders]
  rfl

theorem readRequest_parsed {req : RequestHeader} {buffer : List UInt8}
    (hst : s.state = .readHeaders) (hread : (s.grow server.moved).recvData bs = some t)
    (hcomplete : t.headerComplete = true)
    (hparse : http1ParserParseHeader server.config t.buffer t.req = some (true, req, buffer)) :
    readRequest server s (.data bs :: script) = readRequest server (t.parsed req buffer) script := by
  have ht : t.state = .readHeaders := by
    obtain ⟨-, rfl⟩ := recvData_eq_some hread
    exact (grow_state _ _).trans hst
  unfold readRequest
  rw [if_pos hst, readHeaders, hread]
  simp only [Option.bind_eq_bind, Option.bind_some, hcomplete, if_true, ht, hparse]
  by_cases hlength : 0 < req.contentLength
  · simp only [HTTP1Session.parsed, if_pos hlength, reduceCtorEq, if_false, if_true]
  · simp only [HTTP1Session.parsed, if_neg hlength, reduceCtorEq, if_false]

theorem readRequest_unparsed (hst : s.state = .readHeaders)
    (hread : (s.grow server.moved).recvData bs = some t) (hcomplete : t.headerComplete = true)
    (hparse : http1ParserParseHeader server.config t.buffer t.req = none) :
    readRequest server s (.data bs :: script) = none := by
  have ht : t.state = .readHeaders := by
    obtain ⟨-, rfl⟩ := recvData_eq_some hread
    exact (grow_state _ _).trans hst
  unfold readRequest
  rw [if_pos hst, readHeaders, hread]
  simp only [Option.bind_eq_bind, Option.bind_some, hcomplete, if_true, ht, hparse, Option.bind_none]

/-! ## Up to the end of the header block -/

/-- A request: its header block, what that is parsed to, and a body of `Content-Length` bytes. -/
structure Request (config : Config) (head body : List UInt8) (parsed : RequestHeader)
    (block : List UInt8) : Prop where
  header : HeaderBlock head
  parse : parseHead config head .zero = some (parsed, block)
  valid : parsed.isValid = true
  content_length : parsed.contentLength = body.length

/-- The session behind the parser, when the first `k` bytes of the body have come. -/
def parsedSession (head body : List UInt8) (parsed : RequestHeader) (block : List UInt8)
    (capacity k : Nat) (parts : List MultipartPart) : HTTP1Session where
  buffer := block ++ body.take k
  bufCapacity := capacity
  req := { parsed with bodyData := some (.buffer head.length), bodyLength := k, parts := parts }
  state := if 0 < parsed.contentLength then .readBody else .handleRequest
  file := none

/-- A session in the middle of a header block. -/
structure InHeader (head body : List UInt8) (s : HTTP1Session) (script : List RecvResult) :
    Prop where
  reading : s.state = .readHeaders
  no_request : s.req = .zero
  no_file : s.file = none
  opened : Open script
  fits : Fits s.bufCapacity s.buffer.length script
  stream : s.buffer ++ (chunks script).flatten = head ++ body
  short : s.buffer.length < head.length

/-- What is still to come, and how much of the buffer is filled, when the header block is
complete. -/
structure HeaderDone (head body : List UInt8) (capacity length : Nat) (rest : List RecvResult) :
    Prop where
  complete : head.length ≤ length
  filled : length < capacity
  sent : length ≤ head.length + body.length
  opened : Open rest
  fits : Fits capacity length rest
  stream : (chunks rest).flatten = body.drop (length - head.length)

variable {config : Config} {head body block : List UInt8} {parsed : RequestHeader}

theorem InHeader.wait (h : InHeader head body s (.wouldBlock :: script)) (moved : Nat → Int) :
    InHeader head body (s.grow moved) script := by
  obtain ⟨capacity, hgrow⟩ := grow_zero moved h.no_request
  have hcap := grow_capacity moved s
  have hfits : Fits (room s.bufCapacity s.buffer.length) s.buffer.length script := h.fits
  rw [hgrow] at hcap ⊢
  dsimp only at hcap
  exact ⟨h.reading, h.no_request, h.no_file, (List.forall_mem_cons.mp h.opened).2,
    hcap ▸ hfits, h.stream, h.short⟩

/-- The session behind a read. -/
theorem InHeader.read (h : InHeader head body s (.data bs :: script)) (moved : Nat → Int) :
    ∃ t, (s.grow moved).recvData bs = some t ∧
      t = ⟨s.buffer ++ bs, room s.bufCapacity s.buffer.length, .zero, .readHeaders, none⟩ := by
  obtain ⟨hne, hlen, -⟩ := h.fits
  refine ⟨_, recvData_grow hne hlen, ?_⟩
  obtain ⟨capacity, hgrow⟩ := grow_zero moved h.no_request
  have hcap := grow_capacity moved s
  rw [hgrow] at hcap ⊢
  dsimp only at hcap
  rw [hcap, h.reading, h.no_request, h.no_file]

/-- What the parser makes of a header block and the first bytes of the body. -/
theorem Request.parsed_eq (hreq : Request config head body parsed block) (k : Nat) :
    http1ParserParseHeader config (head ++ body.take k) .zero
      = (partsIn parsed block (body.take k)).map fun parts =>
          (true, { parsed with
            bodyData := some (.buffer head.length)
            bodyLength := (body.take k).length
            parts := parts }, block ++ body.take k) := by
  rw [http1ParserParseHeader_eq (hreq.header.found (body.take k)), hreq.parse, List.drop_left,
    ← hreq.valid]
  simp only [Option.bind_eq_bind, Option.bind_some]
  cases partsIn parsed block (body.take k) <;> rfl

/-- The reads begin with the header block. -/
theorem stream_split {buffer rest : List UInt8} (h : buffer ++ rest = head ++ body)
    (hle : head.length ≤ buffer.length) :
    buffer = head ++ body.take (buffer.length - head.length) ∧
      rest = body.drop (buffer.length - head.length) := by
  obtain ⟨arrived, rfl⟩ : head <+: buffer :=
    List.prefix_of_prefix_length_le (List.prefix_append _ _) (h ▸ List.prefix_append _ _) hle
  rw [List.append_assoc] at h
  have hbody := List.append_cancel_left h
  have hlen : (head ++ arrived).length - head.length = arrived.length := by
    rw [List.length_append]
    omega
  rw [hlen, ← hbody, List.take_left, List.drop_left]
  exact ⟨rfl, rfl⟩

/-- **The header block** is complete behind some read; the run goes on behind the parser, if the
parts of what has come of the body can be told. -/
theorem header_run (hreq : Request server.config head body parsed block)
    (h : InHeader head body s script) :
    ∃ rest, HeaderDone head body (whenRead head.length s.bufCapacity s.buffer.length script).1
        (whenRead head.length s.bufCapacity s.buffer.length script).2 rest ∧
      ∀ s', Reaches server s script s' ↔
        ∃ parts, partsIn parsed block (body.take
            ((whenRead head.length s.bufCapacity s.buffer.length script).2 - head.length))
          = some parts ∧
          Reaches server (parsedSession head body parsed block
            (whenRead head.length s.bufCapacity s.buffer.length script).1
            ((whenRead head.length s.bufCapacity s.buffer.length script).2 - head.length) parts)
            rest s' := by
  induction script generalizing s with
  | nil =>
      -- the rest of the block is still to come
      have hlen := congrArg List.length h.stream
      have hshort := h.short
      simp only [chunks, List.filterMap_nil, List.flatten_nil, List.append_nil,
        List.length_append] at hlen
      omega
  | cons r script ih =>
      obtain ⟨hr, hopen⟩ := List.forall_mem_cons.mp h.opened
      cases r with
      | closed => exact absurd rfl hr.1
      | failed => exact absurd rfl hr.2
      | wouldBlock =>
          have hwait := ih (h.wait server.moved)
          rw [grow_capacity, grow_buffer] at hwait
          obtain ⟨rest, hdone, hiff⟩ := hwait
          exact ⟨rest, hdone, fun s' =>
            (reaches_returned (readRequest_wait h.reading)).trans (hiff s')⟩
      | data bs =>
          obtain ⟨hne, hlen, hfits⟩ := h.fits
          obtain ⟨t, hread, ht⟩ := h.read server.moved
          have hstream : t.buffer ++ (chunks script).flatten = head ++ body := by
            rw [ht, List.append_assoc]
            exact h.stream
          have htlen : t.buffer.length = s.buffer.length + bs.length := by
            rw [ht, List.length_append]
          have hpos := List.length_pos_iff.mpr hne
          rw [whenRead]
          split
          · next hle =>
            dsimp only
            rw [← htlen] at hle ⊢
            obtain ⟨hbuffer, hrest⟩ := stream_split hstream hle
            have hsum := congrArg List.length hstream
            simp only [List.length_append] at hsum
            refine ⟨script, ⟨hle, by omega, by omega, hopen, ?_, hrest⟩, fun s' => ?_⟩
            · rw [htlen]
              exact hfits
            · have hcomplete := (hreq.header.headerComplete_iff hstream).mpr hle
              have hparse := hreq.parsed_eq (t.buffer.length - head.length)
              have hk : (body.take (t.buffer.length - head.length)).length
                  = t.buffer.length - head.length := by
                rw [List.length_take]
                omega
              rw [← hbuffer, hk] at hparse
              have hzero : t.req = .zero := by rw [ht]
              cases hparts : partsIn parsed block (body.take (t.buffer.length - head.length)) with
              | none =>
                  rw [hparts, Option.map_none, ← hzero] at hparse
                  have hnone : readRequest server s (.data bs :: script) = none :=
                    readRequest_unparsed h.reading hread hcomplete hparse
                  constructor
                  · rintro (hrun | ⟨hrun, -⟩)
                    · rw [hnone] at hrun
                      cases hrun
                    · rw [hnone] at hrun
                      cases hrun
                  · rintro ⟨parts, hsome, -⟩
                    cases hsome
              | some parts =>
                  rw [hparts, Option.map_some, ← hzero] at hparse
                  rw [reaches_congr (readRequest_parsed h.reading hread hcomplete hparse)]
                  have hsession : t.parsed { parsed with
                        bodyData := some (.buffer head.length)
                        bodyLength := t.buffer.length - head.length
                        parts := parts } (block ++ body.take (t.buffer.length - head.length))
                      = parsedSession head body parsed block (room s.bufCapacity s.buffer.length)
                        (t.buffer.length - head.length) parts := by
                    rw [ht]
                    rfl
                  rw [hsession]
                  simp
          · next hlt =>
            have hno : t.headerComplete = false := by
              rw [Bool.eq_false_iff, Ne, hreq.header.headerComplete_iff hstream]
              omega
            have hnext : InHeader head body t script := by
              subst ht
              exact ⟨rfl, rfl, rfl, hopen, by
                rw [List.length_append]
                exact hfits, hstream, by omega⟩
            have hmore := ih hnext
            rw [htlen] at hmore
            subst ht
            obtain ⟨rest, hdone, hiff⟩ := hmore
            exact ⟨rest, hdone, fun s' =>
              (reaches_congr (readRequest_more h.reading hread hno)).trans (hiff s')⟩

/-! ## The body -/

variable {n : Nat}

theorem readRequest_readBody (hst : s.state = .readBody)
    (hdata : s.req.bodyData = some (.buffer n)) :
    readRequest server s script = readBody server.moved n script s := by
  simp only [readRequest, hst, reduceCtorEq, if_false, if_true, Option.bind_eq_bind,
    Option.bind_some, hdata]

theorem readBody_complete (h : s.req.contentLength ≤ (s.buffer.length - n : Nat)) :
    readBody moved n script s
      = some (.complete, { s.measured n with state := .handleRequest }, script) := by
  rw [readBody.eq_def]
  exact if_pos h

theorem readBody_more (h : (s.buffer.length - n : Nat) < s.req.contentLength)
    (hread : ((s.measured n).grow moved).recvData bs = some t) :
    readBody moved n (.data bs :: script) s = readBody moved n script t := by
  rw [readBody.eq_def]
  dsimp only
  rw [if_neg (not_le.mpr h)]
  exact congrArg (fun r => Option.bind r (readBody moved n script)) hread

theorem readBody_wait (h : (s.buffer.length - n : Nat) < s.req.contentLength) :
    readBody moved n (.wouldBlock :: script) s
      = some (.returns 2, (s.measured n).grow moved, script) := by
  rw [readBody.eq_def]
  exact if_neg (not_le.mpr h)

theorem grow_bodyData (h : s.req.bodyData = some (.buffer n)) :
    (s.grow moved).req.bodyData = some (.buffer n) :=
  grow_req (P := fun req => req.bodyData = some (.buffer n)) h fun diff => by
    rw [updateHeaderPointers, h]
    rfl

theorem grow_contentLength (moved : Nat → Int) (s : HTTP1Session) :
    (s.grow moved).req.contentLength = s.req.contentLength :=
  grow_req (P := fun req => req.contentLength = s.req.contentLength) rfl fun _ => rfl

/-- A session in the middle of a body that ends with `total` bytes in the buffer. -/
structure InBody (n total : Nat) (s : HTTP1Session) (script : List RecvResult) : Prop where
  reading : s.state = .readBody
  data : s.req.bodyData = some (.buffer n)
  content_length : s.req.contentLength = (total - n : Nat)
  behind_head : n ≤ s.buffer.length
  opened : Open script
  fits : Fits s.bufCapacity s.buffer.length script
  stream : s.buffer.length + size script = total

theorem reaches_complete (hst : s.state = .readBody) (hdata : s.req.bodyData = some (.buffer n))
    (h : s.req.contentLength ≤ (s.buffer.length - n : Nat)) :
    Reaches server s script { s.measured n with state := .handleRequest } := by
  have hrun : readRequest server s script
      = some (.complete, { s.measured n with state := .handleRequest }, script) := by
    rw [readRequest_readBody hst hdata]
    exact readBody_complete h
  exact .handle hrun

/-- **The body** is complete behind some read, whatever happens to the buffer: what a read, the
doubling of the buffer and the measuring of the body keep holds of the session then. -/
theorem body_run {P : HTTP1Session → Prop} {total : Nat} (hmeasure : ∀ s, P s → P (s.measured n))
    (hgrow : ∀ s, P s → s.buffer.length < total → P (s.grow server.moved))
    (hread : ∀ s bs, P s → s.buffer.length + bs.length < s.bufCapacity →
      P { s with buffer := s.buffer ++ bs })
    (h : InBody n total s script) (hs : P s) :
    ∃ t, P t ∧ t.buffer = s.buffer ++ (chunks script).flatten ∧ t.req.bodyLength = total - n ∧
      Reaches server s script { t with state := .handleRequest } := by
  induction script generalizing s with
  | nil =>
      have hlen : s.buffer.length = total := h.stream
      have hle : s.req.contentLength ≤ (s.buffer.length - n : Nat) := by
        rw [h.content_length, hlen]
      refine ⟨s.measured n, hmeasure s hs, (List.append_nil _).symm, ?_,
        reaches_complete h.reading h.data hle⟩
      show s.buffer.length - n = total - n
      rw [hlen]
  | cons r script ih =>
      have hstream := h.stream
      have hbehind := h.behind_head
      obtain ⟨hr, hopen⟩ := List.forall_mem_cons.mp h.opened
      by_cases hdone : s.buffer.length = total
      · -- nothing is missing
        have hle : s.req.contentLength ≤ (s.buffer.length - n : Nat) := by
          rw [h.content_length, hdone]
        have hnil : (chunks (r :: script)).flatten = [] :=
          List.length_eq_zero_iff.mp (show size (r :: script) = 0 by omega)
        refine ⟨s.measured n, hmeasure s hs, ?_, ?_, reaches_complete h.reading h.data hle⟩
        · rw [hnil, List.append_nil]
          rfl
        · show s.buffer.length - n = total - n
          rw [hdone]
      · have hlt : (s.buffer.length - n : Nat) < s.req.contentLength := by
          rw [h.content_length]
          omega
        have hgrown := hgrow (s.measured n) (hmeasure s hs) (show s.buffer.length < total by omega)
        have hbuffer : ((s.measured n).grow server.moved).buffer = s.buffer := grow_buffer _ _
        have hcap : ((s.measured n).grow server.moved).bufCapacity
            = room s.bufCapacity s.buffer.length := grow_capacity _ _
        have hreading : ((s.measured n).grow server.moved).state = .readBody :=
          (grow_state _ _).trans h.reading
        have hdata : ((s.measured n).grow server.moved).req.bodyData = some (.buffer n) :=
          grow_bodyData h.data
        have hlength : ((s.measured n).grow server.moved).req.contentLength = (total - n : Nat) :=
          (grow_contentLength _ _).trans h.content_length
        cases r with
        | closed => exact absurd rfl hr.1
        | failed => exact absurd rfl hr.2
        | wouldBlock =>
            have hfits : Fits (room s.bufCapacity s.buffer.length) s.buffer.length script := h.fits
            have hbody : InBody n total ((s.measured n).grow server.moved) script := by
              refine ⟨hreading, hdata, hlength, ?_, hopen, ?_, ?_⟩
              · rw [hbuffer]
                exact hbehind
              · rw [hbuffer, hcap]
                exact hfits
              · rw [hbuffer]
                exact hstream
            obtain ⟨t, ht, hbuf, hlen, hrun⟩ := ih hbody hgrown
            rw [hbuffer] at hbuf
            refine ⟨t, ht, hbuf, hlen, .again ?_ hrun⟩
            rw [readRequest_readBody h.reading h.data]
            exact readBody_wait hlt
        | data bs =>
            obtain ⟨hne, hroom, hfits⟩ := h.fits
            have hpos := List.length_pos_iff.mpr hne
            have hnext := hread _ bs hgrown (by rw [hbuffer, hcap]; omega)
            rw [hbuffer] at hnext
            rw [size_data] at hstream
            have hrecv : ((s.measured n).grow server.moved).recvData bs
                = some { (s.measured n).grow server.moved with buffer := s.buffer ++ bs } :=
              recvData_grow hne hroom
            have hbody : InBody n total
                { (s.measured n).grow server.moved with buffer := s.buffer ++ bs } script := by
              refine ⟨hreading, hdata, hlength, ?_, hopen, ?_, ?_⟩
              · rw [List.length_append]
                omega
              · rw [List.length_append, hcap]
                exact hfits
              · rw [List.length_append]
                omega
            obtain ⟨t, ht, hbuf, hlen, hrun⟩ := ih hbody hnext
            refine ⟨t, ht, ?_, hlen, ?_⟩
            · rw [hbuf, List.append_assoc]
              rfl
            · refine (reaches_congr ?_).mpr hrun
              rw [readRequest_readBody h.reading h.data, readBody_more hlt hrecv]
              exact (readRequest_readBody hbody.reading hbody.data).symm

/-! ## What is seen of a request -/

/-- The bytes of a buffer that a pointer points to. -/
def Ptr.bytes (buffer : List UInt8) (len : Nat) : Ptr → Option (List UInt8)
  | .buffer off => if off + len ≤ buffer.length then some ((buffer.drop off).take len) else none
  | .route _ => none
  | .freed => none

/-- What is seen of a request when it is handled: its strings, its body and its parts. A field that
is not there is `none`, and `some none` is a pointer that points to nothing. -/
structure Seen where
  uri : Option (Option (List UInt8))
  queryString : Option (Option (List UInt8))
  pathInfo : Option (Option (List UInt8))
  host : Option (Option (List UInt8))
  contentType : Option (Option (List UInt8))
  cookieData : Option (Option (List UInt8))
  body : Option (Option (List UInt8))
  parts : List (Option (List UInt8) × Option (List UInt8) × Option (List UInt8))
  deriving DecidableEq

def HTTP1Session.seen (s : HTTP1Session) : Seen where
  uri := s.req.uri.map (Ptr.str s.buffer s.req.routeResult)
  queryString := s.req.queryString.map (Ptr.str s.buffer s.req.routeResult)
  pathInfo := s.req.pathInfo.map (Ptr.str s.buffer s.req.routeResult)
  host := s.req.host.map (Ptr.str s.buffer s.req.routeResult)
  contentType := s.req.contentType.map (Ptr.str s.buffer s.req.routeResult)
  cookieData := s.req.cookieData.map (Ptr.str s.buffer s.req.routeResult)
  body := s.req.bodyData.map (Ptr.bytes s.buffer s.req.bodyLength)
  parts := s.req.parts.map fun part =>
    (part.name, part.filename, part.data.bytes s.buffer part.dataLen)

/-- The request is the same but for what is not seen of it. -/
def SameFields (req req' : RequestHeader) : Prop :=
  ∃ bodyLength directory wsKey, req' = { req with
    bodyLength := bodyLength, directory := directory, wsKey := wsKey }

theorem seen_congr (hbuffer : s'.buffer = s.buffer) (hlen : s'.req.bodyLength = s.req.bodyLength)
    (hreq : SameFields s.req s'.req) : s'.seen = s.seen := by
  obtain ⟨bodyLength, directory, wsKey, hreq⟩ := hreq
  unfold HTTP1Session.seen
  rw [hbuffer, hlen, hreq]

theorem map_add_of_not_inRoute {p : Option Ptr} (h : ¬ InRoute p) (diff : Int) :
    p.map (Ptr.add diff) = p := by
  cases p with
  | none => rfl
  | some p =>
      cases p with
      | buffer off => rfl
      | route off => exact absurd ⟨off, rfl⟩ h
      | freed => rfl

/-- A request that has no pointer into `route_result` and no parts may be moved. -/
theorem updateHeaderPointers_same {req : RequestHeader} (hreq : Pointed req)
    (huri : ¬ InRoute req.uri) (hbody : ¬ InRoute req.bodyData) (diff : Int) :
    SameFields req (updateHeaderPointers req diff) := by
  obtain ⟨hhost, htype, hcookie⟩ := hreq.fields
  obtain ⟨hquery, hpath⟩ := hreq.with_uri huri
  refine ⟨req.bodyLength, req.directory.map (Ptr.add diff), req.wsKey.map Ptr.leave, ?_⟩
  unfold updateHeaderPointers
  rw [map_add_of_not_inRoute huri, map_add_of_not_inRoute hquery, map_add_of_not_inRoute hpath,
    map_add_of_not_inRoute hhost, map_add_of_not_inRoute htype, map_add_of_not_inRoute hcookie,
    map_add_of_not_inRoute hbody, hreq.no_parts]
  rfl

theorem SameFields.refl (req : RequestHeader) : SameFields req req :=
  ⟨req.bodyLength, req.directory, req.wsKey, rfl⟩

theorem SameFields.trans {a b c : RequestHeader} (h : SameFields a b) (h' : SameFields b c) :
    SameFields a c := by
  obtain ⟨_, _, _, rfl⟩ := h
  obtain ⟨n, d, w, rfl⟩ := h'
  exact ⟨n, d, w, rfl⟩

theorem SameFields.measured {req : RequestHeader} (h : SameFields req s.req) (n : Nat) :
    SameFields req (s.measured n).req :=
  h.trans ⟨s.buffer.length - n, s.req.directory, s.req.wsKey, rfl⟩

theorem Pointed.congr {req req' : RequestHeader} (h : Pointed req) (hsame : SameFields req req') :
    Pointed req' := by
  obtain ⟨_, _, _, rfl⟩ := hsame
  exact ⟨h.no_parts, h.fields, h.with_uri, h.uri⟩

/-! ## The parts -/

/-- The boundaries of a multipart body lie in its first `k` bytes. -/
def PartsArrive (parsed : RequestHeader) (block body : List UInt8) (k : Nat) : Prop :=
  ∀ p, parsed.contentType = some p → ∀ contentType,
    p.str block parsed.routeResult = some contentType →
    (strstr (ascii "multipart/form-data") contentType).isSome = true →
    PartsWithin contentType body k

variable {parts all : List MultipartPart} {k : Nat}

theorem partsIn_take (hk : k ≤ body.length) (hall : partsIn parsed block body = some all) :
    (partsIn parsed block (body.take k) = some all ↔ PartsArrive parsed block body k) ∧
    ∀ found, partsIn parsed block (body.take k) = some found → found <+: all := by
  have hconst : (∀ body, partsIn parsed block body = some all) → PartsArrive parsed block body k →
      (partsIn parsed block (body.take k) = some all ↔ PartsArrive parsed block body k) ∧
      ∀ found, partsIn parsed block (body.take k) = some found → found <+: all := by
    intro hsame harrive
    rw [hsame]
    refine ⟨⟨fun _ => harrive, fun _ => rfl⟩, fun found h => ?_⟩
    rw [Option.some.inj h]
  unfold PartsArrive at hconst ⊢
  unfold partsIn at hall hconst ⊢
  cases htype : parsed.contentType with
  | none =>
      rw [htype] at hall hconst
      exact hconst (fun _ => hall) nofun
  | some p =>
      rw [htype] at hall hconst
      obtain ⟨contentType, hstr, hall⟩ := Option.bind_eq_some_iff.mp hall
      simp only [hstr, Option.bind_eq_bind, Option.bind_some] at hconst ⊢
      by_cases hmulti : (strstr (ascii "multipart/form-data") contentType).isSome = true
      · rw [if_pos hmulti] at hall ⊢
        obtain ⟨hiff, hpre⟩ := httpMultipartParseBody_take hk hall
        refine ⟨hiff.trans ⟨?_, fun h => h p rfl contentType hstr hmulti⟩, hpre⟩
        rintro h _ ⟨⟩ contentType' hstr' -
        rw [hstr] at hstr'
        cases hstr'
        exact h
      · simp only [if_neg hmulti] at hall hconst ⊢
        refine hconst (fun _ => hall) ?_
        rintro _ ⟨⟩ contentType' hstr' hmulti'
        rw [hstr] at hstr'
        cases hstr'
        exact absurd hmulti' hmulti

/-- Nothing of a body has no parts. -/
theorem partsIn_nil (hparsed : parsed.parts = []) (hall : partsIn parsed block body = some all) :
    partsIn parsed block [] = some [] := by
  unfold partsIn at hall ⊢
  cases htype : parsed.contentType with
  | none => exact congrArg some hparsed
  | some p =>
      rw [htype] at hall
      obtain ⟨contentType, hstr, -⟩ := Option.bind_eq_some_iff.mp hall
      simp only [hstr, Option.bind_eq_bind, Option.bind_some, hparsed]
      exact ite_self _

theorem partsIn_data (hparsed : parsed.parts = []) (hall : partsIn parsed block body = some all) :
    ∀ part ∈ all, DataIn (block.length + body.length) part := by
  unfold partsIn at hall
  cases htype : parsed.contentType with
  | none =>
      rw [htype, hparsed] at hall
      obtain rfl := Option.some.inj hall
      exact List.forall_mem_nil _
  | some p =>
      rw [htype] at hall
      obtain ⟨contentType, -, hall⟩ := Option.bind_eq_some_iff.mp hall
      split at hall
      · exact httpMultipartParseBody_data hall
      · rw [hparsed] at hall
        obtain rfl := Option.some.inj hall
        exact List.forall_mem_nil _

/-! ## Three runs over the body -/

/-- From behind the parser to the handling of the request. -/
theorem parsed_run (server : Server) {P : HTTP1Session → Prop} {capacity length : Nat}
    (hreq : Request config head body parsed block)
    (hdone : HeaderDone head body capacity length rest)
    (hmeasure : ∀ s, P s → P (s.measured head.length))
    (hgrow : ∀ s, P s → s.buffer.length < head.length + body.length → P (s.grow server.moved))
    (hread : ∀ s bs, P s → s.buffer.length + bs.length < s.bufCapacity →
      P { s with buffer := s.buffer ++ bs })
    (hP : P (parsedSession head body parsed block capacity (length - head.length) parts)) :
    ∃ t, P t ∧ t.buffer = block ++ body ∧ t.req.bodyLength = body.length ∧
      Reaches server (parsedSession head body parsed block capacity (length - head.length) parts)
        rest { t with state := .handleRequest } := by
  have hcomplete := hdone.complete
  have hsent := hdone.sent
  have hblock := length_parseHead hreq.parse
  have hlen : (parsedSession head body parsed block capacity (length - head.length) parts
      ).buffer.length = length := by
    unfold parsedSession
    rw [List.length_append, List.length_take, hblock]
    omega
  by_cases hbody : body = []
  · -- a request without a body is handled at once
    have hzero : ¬ 0 < parsed.contentLength := by
      rw [hreq.content_length, hbody]
      decide
    subst hbody
    have hrun : readRequest server
        (parsedSession head [] parsed block capacity (length - head.length) parts) rest
        = some (.complete, { parsedSession head [] parsed block capacity (length - head.length) parts
            with state := .handleRequest }, rest) := by
      unfold readRequest parsedSession
      simp only [if_neg hzero, reduceCtorEq, if_false, Option.bind_eq_bind, Option.bind_some]
    refine ⟨_, hP, ?_, ?_, .handle hrun⟩
    · unfold parsedSession
      rw [List.take_nil]
    · show length - head.length = 0
      rw [List.length_nil] at hsent
      omega
  · have hpos : 0 < parsed.contentLength := by
      have hpos := List.length_pos_iff.mpr hbody
      rw [hreq.content_length]
      omega
    have hin : InBody head.length (head.length + body.length)
        (parsedSession head body parsed block capacity (length - head.length) parts) rest := by
      refine ⟨if_pos hpos, rfl, ?_, ?_, hdone.opened, ?_, ?_⟩
      · show parsed.contentLength = _
        rw [hreq.content_length]
        omega
      · rw [hlen]
        exact hcomplete
      · rw [hlen]
        exact hdone.fits
      · rw [hlen, size, hdone.stream, List.length_drop]
        omega
    obtain ⟨t, ht, hbuffer, hlength, hrun⟩ := body_run hmeasure hgrow hread hin hP
    refine ⟨t, ht, ?_, by omega, hrun⟩
    rw [hbuffer, hdone.stream]
    unfold parsedSession
    rw [List.append_assoc, List.take_append_drop]

/-- A buffer that is long enough for the whole request is not moved behind the parser. -/
theorem run_fixed (server : Server) (parts : List MultipartPart) {capacity length : Nat}
    (hreq : Request config head body parsed block)
    (hdone : HeaderDone head body capacity length rest)
    (hroom : head.length + body.length < capacity) :
    ∃ t : HTTP1Session, t.buffer = block ++ body ∧ t.req.bodyLength = body.length ∧
      SameFields (parsedSession head body parsed block capacity (length - head.length) parts).req
        t.req ∧
      Reaches server (parsedSession head body parsed block capacity (length - head.length) parts)
        rest { t with state := .handleRequest } := by
  have hstart : (parsedSession head body parsed block capacity (length - head.length) parts
      ).bufCapacity = capacity := rfl
  have hgrow : ∀ s : HTTP1Session, (s.bufCapacity = capacity ∧ SameFields
      (parsedSession head body parsed block capacity (length - head.length) parts).req s.req) →
      s.buffer.length < head.length + body.length →
      ((s.grow server.moved).bufCapacity = capacity ∧ SameFields
        (parsedSession head body parsed block capacity (length - head.length) parts).req
        (s.grow server.moved).req) := by
    rintro s ⟨hcap, hsame⟩ hlt
    rw [grow_of_lt (by omega)]
    exact ⟨hcap, hsame⟩
  obtain ⟨t, ⟨-, hsame⟩, hbuffer, hlength, hrun⟩ := parsed_run server
    (P := fun s => s.bufCapacity = capacity ∧ SameFields
      (parsedSession head body parsed block capacity (length - head.length) parts).req s.req)
    hreq hdone (fun s hs => ⟨hs.1, hs.2.measured _⟩) hgrow (fun s bs hs _ => hs) ⟨hstart, .refl _⟩
  exact ⟨t, hbuffer, hlength, hsame, hrun⟩

/-- Where there are neither parts nor pointers into `route_result`, the buffer may be moved. -/
theorem run_harmless (server : Server) {capacity length : Nat}
    (hreq : Request config head body parsed block)
    (hdone : HeaderDone head body capacity length rest) (huri : ¬ InRoute parsed.uri) :
    ∃ t : HTTP1Session, t.buffer = block ++ body ∧ t.req.bodyLength = body.length ∧
      SameFields (parsedSession head body parsed block capacity (length - head.length) []).req
        t.req ∧
      Reaches server (parsedSession head body parsed block capacity (length - head.length) [])
        rest { t with state := .handleRequest } := by
  have hparsed := parseHead_pointed zero_pointed hreq.parse
  have hpointed : Pointed
      (parsedSession head body parsed block capacity (length - head.length) []).req :=
    ⟨rfl, hparsed.fields, hparsed.with_uri, hparsed.uri⟩
  have hgrow : ∀ s : HTTP1Session, SameFields
      (parsedSession head body parsed block capacity (length - head.length) []).req s.req →
      s.buffer.length < head.length + body.length → SameFields
        (parsedSession head body parsed block capacity (length - head.length) []).req
        (s.grow server.moved).req := by
    intro s hsame _
    refine grow_req (P := SameFields _) hsame fun diff => hsame.trans ?_
    obtain ⟨_, _, _, hreq'⟩ := id hsame
    refine updateHeaderPointers_same (hpointed.congr hsame) ?_ ?_ diff
    · rw [hreq']
      exact huri
    · rw [hreq']
      exact not_inRoute_buffer _
  obtain ⟨t, hsame, hbuffer, hlength, hrun⟩ := parsed_run server
    (P := fun s => SameFields
      (parsedSession head body parsed block capacity (length - head.length) []).req s.req)
    hreq hdone (fun s hs => hs.measured _) hgrow (fun s bs hs _ => hs) (.refl _)
  exact ⟨t, hbuffer, hlength, hsame, hrun⟩

/-- What is left of the pointers of a request that has moved by 65536 bytes, or further. -/
structure Displaced (req₀ req : RequestHeader) : Prop where
  uri : ∀ off, req₀.uri = some (.route off) → ∃ off', req.uri = some (.route off') ∧
    off + 65536 ≤ off'
  parts_length : req.parts.length = req₀.parts.length
  parts_freed : ∀ part ∈ req.parts, part.data = .freed

theorem displaced_of_same {req₀ req : RequestHeader} (h : SameFields req₀ req) {m : Nat}
    (hdata : ∀ part ∈ req₀.parts, DataIn m part) :
    Displaced req₀ (updateHeaderPointers req 65536) := by
  obtain ⟨_, _, _, rfl⟩ := h
  unfold updateHeaderPointers
  refine ⟨fun off hoff => ⟨off + 65536, ?_, le_rfl⟩, List.length_map _, ?_⟩
  · dsimp only
    rw [hoff]
    rfl
  · intro part hpart
    obtain ⟨part₀, hmem, rfl⟩ := List.mem_map.mp hpart
    obtain ⟨off, hoff, -⟩ := hdata part₀ hmem
    show part₀.data.leave = .freed
    rw [hoff]
    rfl

theorem Displaced.move {req₀ req : RequestHeader} (h : Displaced req₀ req) :
    Displaced req₀ (updateHeaderPointers req 65536) := by
  unfold updateHeaderPointers
  refine ⟨fun off hoff => ?_, (List.length_map _).trans h.parts_length, ?_⟩
  · obtain ⟨off', huri, hle⟩ := h.uri off hoff
    refine ⟨off' + 65536, ?_, by omega⟩
    dsimp only
    rw [huri]
    rfl
  · intro part hpart
    obtain ⟨part₀, hmem, rfl⟩ := List.mem_map.mp hpart
    show part₀.data.leave = .freed
    rw [h.parts_freed part₀ hmem]
    rfl

/-- A session whose buffer has the capacity it had behind the parser, or has moved since. -/
structure Moving (req₀ : RequestHeader) (capacity : Nat) (s : HTTP1Session) : Prop where
  filled : s.buffer.length < s.bufCapacity
  moved : s.bufCapacity = capacity ∧ SameFields req₀ s.req ∨ Displaced req₀ s.req

theorem Moving.measured {req₀ : RequestHeader} {capacity : Nat} (h : Moving req₀ capacity s)
    (n : Nat) : Moving req₀ capacity (s.measured n) :=
  ⟨h.filled, h.moved.imp (fun h => ⟨h.1, h.2.measured n⟩)
    fun h => ⟨h.uri, h.parts_length, h.parts_freed⟩⟩

theorem Moving.grow {req₀ : RequestHeader} {capacity m : Nat} (h : Moving req₀ capacity s)
    (hmoved : ∀ n, moved n = 65536) (hdata : ∀ part ∈ req₀.parts, DataIn m part) :
    Moving req₀ capacity (s.grow moved) := by
  have hfilled := h.filled
  unfold HTTP1Session.grow
  split
  · extract_lets newCap
    rw [hmoved, if_pos (by decide)]
    refine ⟨show s.buffer.length < s.bufCapacity * 2 by omega, .inr ?_⟩
    rcases h.moved with ⟨-, hsame⟩ | hdisplaced
    · exact displaced_of_same hsame hdata
    · exact hdisplaced.move
  · exact h

/-- A buffer that is too short for the request moves behind the parser. -/
theorem run_displaced {capacity length m : Nat} (hreq : Request config head body parsed block)
    (hdone : HeaderDone head body capacity length rest)
    (hshort : capacity ≤ head.length + body.length) (hmoved : ∀ n, server.moved n = 65536)
    (hdata : ∀ part ∈ parts, DataIn m part) :
    ∃ t : HTTP1Session, t.buffer = block ++ body ∧
      Displaced (parsedSession head body parsed block capacity (length - head.length) parts).req
        t.req ∧
      Reaches server (parsedSession head body parsed block capacity (length - head.length) parts)
        rest { t with state := .handleRequest } := by
  have hblock := length_parseHead hreq.parse
  have hstart : Moving
      (parsedSession head body parsed block capacity (length - head.length) parts).req capacity
      (parsedSession head body parsed block capacity (length - head.length) parts) := by
    refine ⟨?_, .inl ⟨rfl, .refl _⟩⟩
    have hcomplete := hdone.complete
    have hsent := hdone.sent
    have hfilled := hdone.filled
    unfold parsedSession
    rw [List.length_append, List.length_take, hblock]
    dsimp only
    omega
  obtain ⟨t, ht, hbuffer, -, hrun⟩ := parsed_run server (P := Moving _ capacity) hreq hdone
    (fun s hs => hs.measured _) (fun s hs _ => hs.grow hmoved hdata)
    (fun s bs hs hlt => ⟨by rw [List.length_append]; exact hlt, hs.moved⟩) hstart
  refine ⟨t, hbuffer, ht.moved.resolve_left ?_, hrun⟩
  -- the whole request would not fit
  rintro ⟨hcap, -⟩
  have hfilled := ht.filled
  rw [hcap, hbuffer, List.length_append, hblock] at hfilled
  omega

/-! ## In one read and in pieces -/

/-- What a request needs of its reads, when the header block is complete with `length` bytes in a
buffer of `capacity`: the boundaries of its parts have come, and if the buffer is too short for the
request, it has neither parts nor a URI that has been rewritten. -/
structure Unharmed (head body : List UInt8) (parsed : RequestHeader) (block : List UInt8)
    (capacity length : Nat) : Prop where
  parts_arrive : PartsArrive parsed block body (length - head.length)
  no_parts : capacity ≤ head.length + body.length → PartsArrive parsed block body 0
  not_rewritten : capacity ≤ head.length + body.length → ¬ InRoute parsed.uri

/-- A new session with a buffer of some capacity. -/
def HTTP1Session.newWith (config : Config) (capacity : Nat) : HTTP1Session :=
  { HTTP1Session.new config with bufCapacity := capacity }

theorem new_run (hreq : Request server.config head body parsed block) {capacity : Nat}
    (hopen : Open script) (hstream : (chunks script).flatten = head ++ body)
    (hfits : Fits capacity 0 script) :
    ∃ rest, HeaderDone head body (whenRead head.length capacity 0 script).1
        (whenRead head.length capacity 0 script).2 rest ∧
      ∀ s', Reaches server (.newWith server.config capacity) script s' ↔
        ∃ parts, partsIn parsed block (body.take
            ((whenRead head.length capacity 0 script).2 - head.length)) = some parts ∧
          Reaches server (parsedSession head body parsed block
            (whenRead head.length capacity 0 script).1
            ((whenRead head.length capacity 0 script).2 - head.length) parts) rest s' :=
  header_run (s := .newWith server.config capacity) hreq ⟨rfl, rfl, rfl, hopen, hfits, hstream,
    List.length_pos_iff.mpr hreq.header.ne_nil⟩

theorem parsedSession_seen {t : HTTP1Session} {capacity : Nat} (capacity' : Nat)
    (hbuffer : t.buffer = block ++ body) (hlength : t.req.bodyLength = body.length)
    (hsame : SameFields (parsedSession head body parsed block capacity k parts).req t.req) :
    t.seen = (parsedSession head body parsed block capacity' body.length parts).seen := by
  refine seen_congr ?_ hlength ?_
  · rw [hbuffer, parsedSession, List.take_length]
  · exact SameFields.trans ⟨k, parsed.directory, parsed.wsKey, rfl⟩ hsame

/-- The request when it has come in one read. -/
theorem whole_run (hreq : Request server.config head body parsed block) {capacity : Nat}
    (hroom : head.length + body.length < capacity)
    (h : Reaches server (.newWith server.config capacity) [.data (head ++ body)] s) :
    ∃ all, partsIn parsed block body = some all ∧
      s.seen = (parsedSession head body parsed block capacity body.length all).seen := by
  have hne := hreq.header.ne_nil
  have hpos := List.length_pos_iff.mpr hne
  have hkeep : room capacity 0 = capacity := if_neg (by omega)
  have hlen : (head ++ body).length = head.length + body.length := List.length_append
  have hfits : Fits capacity 0 [.data (head ++ body)] := by
    refine ⟨by simp [hne], ?_, trivial⟩
    rw [hkeep, hlen]
    omega
  have hread : whenRead head.length capacity 0 [.data (head ++ body)]
      = (capacity, head.length + body.length) := by
    rw [whenRead, if_pos (by omega), hkeep, hlen, Nat.zero_add]
  have hrest : head.length + body.length - head.length = body.length := by omega
  obtain ⟨rest, hdone, hiff⟩ := new_run hreq (by simp [Open]) (by simp [chunks]) hfits
  obtain ⟨all, hall, hrun⟩ := (hiff s).mp h
  rw [hread, hrest, List.take_length] at hall
  rw [hread] at hdone hrun
  obtain ⟨t, hbuffer, hlength, hsame, hrun'⟩ := run_fixed server all hreq hdone hroom
  obtain rfl := hrun.unique hrun'
  exact ⟨all, hall, parsedSession_seen capacity hbuffer hlength hsame⟩

/-- Reads that leave a request unharmed do not show. -/
theorem pieces_seen (hreq : Request server.config head body parsed block)
    (hall : partsIn parsed block body = some all) {capacity : Nat} (hopen : Open script)
    (hstream : (chunks script).flatten = head ++ body) (hfits : Fits capacity 0 script)
    (h : Unharmed head body parsed block (whenRead head.length capacity 0 script).1
      (whenRead head.length capacity 0 script).2) (capacity₀ : Nat) :
    ∃ s, Reaches server (.newWith server.config capacity) script s ∧
      s.seen = (parsedSession head body parsed block capacity₀ body.length all).seen := by
  obtain ⟨rest, hdone, hiff⟩ := new_run hreq hopen hstream hfits
  have hk : (whenRead head.length capacity 0 script).2 - head.length ≤ body.length := by
    have hsent := hdone.sent
    omega
  have harrived := (partsIn_take hk hall).1.mpr h.parts_arrive
  rcases Nat.lt_or_ge (head.length + body.length) (whenRead head.length capacity 0 script).1
    with hroom | hshort
  · obtain ⟨t, hbuffer, hlength, hsame, hrun⟩ := run_fixed server all hreq hdone hroom
    exact ⟨_, (hiff _).mpr ⟨all, harrived, hrun⟩,
      parsedSession_seen capacity₀ hbuffer hlength hsame⟩
  · -- the buffer moves, with nothing in it that is left behind
    obtain ⟨t, hbuffer, hlength, hsame, hrun⟩ :=
      run_harmless server hreq hdone (h.not_rewritten hshort)
    have hnil := (partsIn_take (Nat.zero_le _) hall).1.mpr (h.no_parts hshort)
    rw [List.take_zero, partsIn_nil (parseHead_pointed zero_pointed hreq.parse).no_parts hall]
      at hnil
    obtain rfl := Option.some.inj hnil
    exact ⟨_, (hiff _).mpr ⟨[], harrived, hrun⟩,
      parsedSession_seen capacity₀ hbuffer hlength hsame⟩

/-- Where the two are seen the same, so are their parts. -/
theorem parts_of_seen {buffer buffer' : List UInt8} {found : List MultipartPart}
    (h : found.map (fun part => (part.name, part.filename, part.data.bytes buffer part.dataLen))
      = all.map fun part => (part.name, part.filename, part.data.bytes buffer' part.dataLen))
    (hpre : found <+: all) : found = all := by
  refine hpre.eq_of_length ?_
  have hlen := congrArg List.length h
  rwa [List.length_map, List.length_map] at hlen

theorem bytes_of_dataIn {buffer : List UInt8} {m : Nat} {part : MultipartPart}
    (h : DataIn m part) (hm : m ≤ buffer.length) :
    part.data.bytes buffer part.dataLen ≠ none := by
  obtain ⟨off, hdata, hle⟩ := h
  rw [hdata, Ptr.bytes, if_pos (by omega)]
  exact Option.some_ne_none _

/-- Behind the end of `route_result` there is no string. -/
theorem str_route_outside {buffer : List UInt8} {routeResult : Buffer 512} {off : Int}
    (h : 512 ≤ off) : Ptr.str buffer routeResult (.route off) = none := by
  have hnil : routeResult.bytes.drop off.toNat = [] := by
    rw [List.drop_eq_nil_iff, routeResult.length_eq]
    omega
  rw [Ptr.str, hnil]
  exact if_neg (by simp)

/-- Reads that do not show leave a request unharmed, if the buffer may move. -/
theorem unharmed_of_seen (hreq : Request server.config head body parsed block)
    (hall : partsIn parsed block body = some all) {capacity : Nat} (hopen : Open script)
    (hstream : (chunks script).flatten = head ++ body) (hfits : Fits capacity 0 script)
    (hmoved : ∀ n, server.moved n = 65536) {capacity₀ : Nat}
    (hrun : Reaches server (.newWith server.config capacity) script s)
    (hseen : s.seen = (parsedSession head body parsed block capacity₀ body.length all).seen) :
    Unharmed head body parsed block (whenRead head.length capacity 0 script).1
      (whenRead head.length capacity 0 script).2 := by
  obtain ⟨rest, hdone, hiff⟩ := new_run hreq hopen hstream hfits
  have hpointed := parseHead_pointed zero_pointed hreq.parse
  have hk : (whenRead head.length capacity 0 script).2 - head.length ≤ body.length := by
    have hsent := hdone.sent
    omega
  obtain ⟨parts, hparts, hbehind⟩ := (hiff s).mp hrun
  have hpre := (partsIn_take hk hall).2 parts hparts
  rcases Nat.lt_or_ge (head.length + body.length) (whenRead head.length capacity 0 script).1
    with hroom | hshort
  · obtain ⟨t, hbuffer, hlength, hsame, hrun'⟩ := run_fixed server parts hreq hdone hroom
    obtain rfl := hbehind.unique hrun'
    have hview : ({ t with state := .handleRequest } : HTTP1Session).seen
        = (parsedSession head body parsed block capacity₀ body.length parts).seen :=
      parsedSession_seen capacity₀ hbuffer hlength hsame
    rw [hview] at hseen
    obtain rfl := parts_of_seen (congrArg Seen.parts hseen) hpre
    exact ⟨(partsIn_take hk hall).1.mp hparts, fun hle => absurd hroom (not_lt.mpr hle),
      fun hle => absurd hroom (not_lt.mpr hle)⟩
  · have hdata : ∀ part ∈ parts, DataIn (block.length + body.length) part := fun part hpart =>
      partsIn_data hpointed.no_parts hall part (hpre.subset hpart)
    obtain ⟨t, hbuffer, hdisplaced, hrun'⟩ := run_displaced hreq hdone hshort hmoved hdata
    obtain rfl := hbehind.unique hrun'
    have hfound : t.req.parts.map (fun part =>
          (part.name, part.filename, part.data.bytes t.buffer part.dataLen))
        = all.map fun part => (part.name, part.filename,
            part.data.bytes (block ++ body.take body.length) part.dataLen) :=
      congrArg Seen.parts hseen
    -- the data of a part would be gone
    have hnil : all = [] := by
      have hwhole := partsIn_data hpointed.no_parts hall
      cases all with
      | nil => rfl
      | cons part all =>
          cases hparts' : t.req.parts with
          | nil =>
              rw [hparts'] at hfound
              cases hfound
          | cons part' found =>
              rw [hparts', List.map_cons, List.map_cons] at hfound
              have hbytes := congrArg (fun p => p.2.2) (List.cons.inj hfound).1
              dsimp only at hbytes
              rw [hdisplaced.parts_freed part' (by rw [hparts']; exact List.mem_cons_self)] at hbytes
              refine absurd hbytes.symm (bytes_of_dataIn (hwhole part List.mem_cons_self) ?_)
              rw [List.take_length, List.length_append]
    subst hnil
    obtain rfl := List.prefix_nil.mp hpre
    refine ⟨(partsIn_take hk hall).1.mp hparts, fun _ => ?_, fun _ => ?_⟩
    · refine (partsIn_take (Nat.zero_le _) hall).1.mp ?_
      rw [List.take_zero]
      exact partsIn_nil hpointed.no_parts hall
    · rintro ⟨off, huri⟩
      obtain ⟨rfl, hzero⟩ := hpointed.uri off huri
      obtain ⟨off', huri', hfar⟩ := hdisplaced.uri 0 huri
      have hstr : t.req.uri.map (Ptr.str t.buffer t.req.routeResult)
          = parsed.uri.map (Ptr.str (block ++ body.take body.length) parsed.routeResult) :=
        congrArg Seen.uri hseen
      rw [huri, huri', Option.map_some, Option.map_some, str_route_outside (by omega), Ptr.str,
        if_pos ⟨le_rfl, hzero⟩] at hstr
      cases hstr

/-- **A request in pieces**: wherever `realloc` puts the buffer, it is seen as it is seen in one read
if and only if the reads leave it unharmed. -/
theorem request_pieces_iff {config : Config} {fs : Http.FileSystem}
    {fcgiSessionCreates : RequestHeader → Bool} (hreq : Request config head body parsed block)
    {whole : HTTP1Session} {capacity₀ : Nat} {moved₀ : Nat → Int}
    (hroom : head.length + body.length < capacity₀)
    (hwhole : Reaches ⟨config, fs, fcgiSessionCreates, moved₀⟩ (.newWith config capacity₀)
      [.data (head ++ body)] whole)
    {capacity : Nat} (hopen : Open script) (hstream : (chunks script).flatten = head ++ body)
    (hfits : Fits capacity 0 script) :
    (∀ moved, ∃ s, Reaches ⟨config, fs, fcgiSessionCreates, moved⟩ (.newWith config capacity)
        script s ∧ s.seen = whole.seen) ↔
      Unharmed head body parsed block (whenRead head.length capacity 0 script).1
        (whenRead head.length capacity 0 script).2 := by
  obtain ⟨all, hall, hseen⟩ := whole_run hreq hroom hwhole
  rw [hseen]
  constructor
  · intro hagree
    obtain ⟨s, hrun, hsame⟩ := hagree fun _ => 65536
    exact unharmed_of_seen hreq hall hopen hstream hfits (fun _ => rfl) hrun hsame
  · intro h moved
    exact pieces_seen hreq hall hopen hstream hfits h capacity₀

/-! ## Two requests -/

theorem reaches_of_run {r : ReadEnd × HTTP1Session × List RecvResult}
    (h : readRequest server s script = some r) (he : r.1 = .complete) :
    Reaches server s script r.2.1 := by
  obtain ⟨e, t, rest⟩ := r
  obtain rfl : e = .complete := he
  exact .handle h

def uploadHead : List UInt8 := ascii "POST /a HTTP/1.1\r\nContent-Length: 4\r\n\r\n"

/-- The body comes in two reads behind the header block, and the second one needs a longer buffer. -/
def uploadReads (head : List UInt8) : List RecvResult :=
  [.data head, .data (ascii "a"), .wouldBlock, .data (ascii "bcd")]

theorem request_pieces_upload :
    ∃ parsed block whole, Request pageServer.config uploadHead (ascii "abcd") parsed block ∧
      Reaches pageServer (.newWith pageServer.config 64) [.data (uploadHead ++ ascii "abcd")]
        whole ∧
      ((∀ moved, ∃ s, Reaches { pageServer with moved := moved } (.newWith pageServer.config 41)
          (uploadReads uploadHead) s ∧ s.seen = whole.seen) ↔
        Unharmed uploadHead (ascii "abcd") parsed block 41 39) ∧
      Unharmed uploadHead (ascii "abcd") parsed block 41 39 := by
  have hparse : (parseHead pageServer.config uploadHead .zero).map (fun r =>
      (r.1.isValid, r.1.contentLength, r.1.uri, r.1.contentType))
        = some (true, 4, some (.buffer 5), none) := by decide +kernel
  have hone : (readRequest pageServer (.newWith pageServer.config 64)
      [.data (uploadHead ++ ascii "abcd")]).map Prod.fst = some .complete := by decide +kernel
  have hread : whenRead uploadHead.length 41 0 (uploadReads uploadHead) = (41, 39) := by
    decide +kernel
  obtain ⟨⟨parsed, block⟩, hhead, hfields⟩ := Option.map_eq_some_iff.mp hparse
  obtain ⟨hvalid, hlength, huri, htype⟩ : _ ∧ _ ∧ _ ∧ _ := by simpa using hfields
  obtain ⟨r, hrun, hcomplete⟩ := Option.map_eq_some_iff.mp hone
  have hreq : Request pageServer.config uploadHead (ascii "abcd") parsed block :=
    ⟨⟨by decide +kernel, by decide +kernel⟩, hhead, hvalid, hlength⟩
  have hwhole := reaches_of_run hrun hcomplete
  have hfits : Fits 41 0 (uploadReads uploadHead) := by decide +kernel
  have hiff := request_pieces_iff hreq (by decide) hwhole (by decide) (by decide +kernel) hfits
  rw [hread] at hiff
  refine ⟨parsed, block, r.2.1, hreq, hwhole, hiff, ?_, fun _ => ?_, fun _ => ?_⟩
  · intro p hp
    rw [htype] at hp
    cases hp
  · intro p hp
    rw [htype] at hp
    cases hp
  · rw [huri]
    exact not_inRoute_buffer 5

/-- A request for `/`: the URI is in `route_result` when the buffer moves. -/
def rootHead : List UInt8 := ascii "POST / HTTP/1.1\r\nContent-Length: 4\r\n\r\n"

theorem uri_lost_when_moved :
    ¬ ∀ (server : Server) (moved : Nat → Int) (head body block : List UInt8)
      (parsed : RequestHeader) (whole s : HTTP1Session) (capacity₀ capacity : Nat)
      (script : List RecvResult), Request server.config head body parsed block →
      head.length + body.length < capacity₀ →
      Reaches server (.newWith server.config capacity₀) [.data (head ++ body)] whole →
      1 ≤ capacity → Open script → (chunks script).flatten = head ++ body →
      Reaches { server with moved := moved } (.newWith server.config capacity) script s →
      s.seen = whole.seen := by
  intro h
  have hparse : (parseHead pageServer.config rootHead .zero).map (fun r =>
      (r.1.isValid, r.1.contentLength)) = some (true, 4) := by decide +kernel
  have hone : (readRequest pageServer (.newWith pageServer.config 64)
      [.data (rootHead ++ ascii "abcd")]).map (fun r => (r.1, r.2.1.seen.uri))
        = some (.complete, some (some (ascii "/index.html"))) := by decide +kernel
  have hpieces : (readRequest { pageServer with moved := fun _ => 65536 }
      (.newWith pageServer.config 40)
      [.data rootHead, .data (ascii "a"), .data (ascii "bcd")]).map
        (fun r => (r.1, r.2.1.seen.uri)) = some (.complete, some none) := by decide +kernel
  obtain ⟨⟨parsed, block⟩, hhead, hfields⟩ := Option.map_eq_some_iff.mp hparse
  obtain ⟨hvalid, hlength⟩ : _ ∧ _ := by simpa using hfields
  obtain ⟨r, hrun, hr⟩ := Option.map_eq_some_iff.mp hone
  obtain ⟨r', hrun', hr'⟩ := Option.map_eq_some_iff.mp hpieces
  have hreq : Request pageServer.config rootHead (ascii "abcd") parsed block :=
    ⟨⟨by decide +kernel, by decide +kernel⟩, hhead, hvalid, hlength⟩
  have hsame := h pageServer (fun _ => 65536) rootHead (ascii "abcd") block parsed r.2.1 r'.2.1 64 40
    [.data rootHead, .data (ascii "a"), .data (ascii "bcd")] hreq (by decide)
    (reaches_of_run hrun (congrArg Prod.fst hr)) (by decide) (by decide) (by decide +kernel)
    (reaches_of_run hrun' (congrArg Prod.fst hr'))
  have huri : r.2.1.seen.uri = some (some (ascii "/index.html")) := congrArg Prod.snd hr
  have huri' : r'.2.1.seen.uri = some none := congrArg Prod.snd hr'
  rw [hsame, huri] at huri'
  cases huri'

end Halmos.Http1
