import Halmos.WebSocket.Messages
import Mathlib.Data.List.DropRight

set_option autoImplicit false

/-! # The bridge to the backends

A backend hands the server a JSON text over a local socket, one text a connection, closed by a line
end. `handle_bridge_request` takes a read that ends in a line end for the end of the text, whatever
the text is. So a text goes through in one piece, however it is cut into reads, if and only if it
fits the buffer and no read but the last one ends right behind a line end (`request_intact_iff`).
-/

namespace Halmos.WebSocket

/-! ## Reading a request -/

/-- What `read` answers: the bytes that can be read, none at the end of the stream; `EAGAIN`, with
whether `poll` found the socket ready within its 10 ms; `EINTR`; or another error. -/
inductive IpcRead where
  | bytes (available : List UInt8)
  | again (ready : Bool)
  | interrupted
  | failed
  deriving DecidableEq, Repr

/-- `sizeof(local_ipc_buffer) - 1`. -/
def ipcRoom : Nat := 65535

/-- `max_retries`. -/
def maxRetries : Nat := 5

/-- The loop of `handle_bridge_request` over the answers of `read`: the bytes in the buffer when it
is left, or `none` if it goes on reading. -/
def readRequest (received : List UInt8) (retryCount : Nat) :
    List IpcRead → Option (List UInt8)
  | [] => if received.length < ipcRoom then none else some received
  | .bytes available :: reads =>
      if received.length < ipcRoom ∧ available ≠ [] then
        let received := received ++ available.take (ipcRoom - received.length)
        if received.getLast? = some 10 then some received else readRequest received 0 reads
      else some received
  | .again ready :: reads =>
      if received.length < ipcRoom ∧ (ready = true ∨ retryCount < maxRetries) then
        readRequest received (if ready = true then retryCount else retryCount + 1) reads
      else some received
  | .interrupted :: reads =>
      if received.length < ipcRoom then readRequest received retryCount reads else some received
  | .failed :: _ => some received

def isLineEnd (b : UInt8) : Bool := b = 10 ∨ b = 13

/-- The text in the buffer, without the line ends behind it; an empty one is not handed on. -/
def requestText (received : List UInt8) : Option (List UInt8) :=
  let text := cstr (received.rdropWhile isLineEnd)
  if text = [] then none else some text

/-- The text that a connection hands on. -/
def ipcRequest (reads : List IpcRead) : Option (List UInt8) := do
  let received ← readRequest [] 0 reads
  requestText received

/-! ## Texts in pieces -/

/-- The wait for a read, and what it returns. -/
structure IpcPiece where
  pause : List IpcRead
  bytes : List UInt8

/-- The wait does not end the loop. -/
structure IpcPiece.Patient (p : IpcPiece) : Prop where
  waits : ∀ r ∈ p.pause, r = .interrupted ∨ ∃ ready, r = .again ready
  retries : p.pause.countP (fun r => r = .again false) ≤ maxRetries
  nonempty : p.bytes ≠ []

/-- What `read` answers when the pieces arrive. -/
def readsOf (pieces : List IpcPiece) : List IpcRead :=
  pieces.flatMap (fun p => p.pause ++ [.bytes p.bytes])

/-- What the backend has sent. -/
def sentBy (pieces : List IpcPiece) : List UInt8 := pieces.flatMap IpcPiece.bytes

section Reading

variable {received : List UInt8} {reads : List IpcRead} {pieces : List IpcPiece} {p : IpcPiece}

theorem readRequest_full (h : ¬ received.length < ipcRoom) (k : Nat) (reads : List IpcRead) :
    readRequest received k reads = some received := by
  cases reads with
  | nil => exact if_neg h
  | cons answer reads =>
      cases answer with
      | bytes available => exact if_neg fun hboth => h hboth.1
      | again ready => exact if_neg fun hboth => h hboth.1
      | interrupted => exact if_neg h
      | failed => rfl

/-- Waiting takes retries and nothing else. -/
theorem readRequest_pause (hroom : received.length < ipcRoom) {pause : List IpcRead}
    (hwaits : ∀ r ∈ pause, r = .interrupted ∨ ∃ ready, r = .again ready) {k : Nat}
    (hretries : k + pause.countP (fun r => r = .again false) ≤ maxRetries) :
    readRequest received k (pause ++ reads)
      = readRequest received (k + pause.countP (fun r => r = .again false)) reads := by
  induction pause generalizing k with
  | nil => rfl
  | cons r pause ih =>
      rw [List.forall_mem_cons] at hwaits
      rw [List.countP_cons] at hretries ⊢
      rcases hwaits.1 with rfl | ⟨ready, rfl⟩
      · rw [List.cons_append, readRequest, if_pos hroom]
        exact ih hwaits.2 hretries
      · rw [List.cons_append, readRequest]
        cases ready with
        | true =>
            rw [if_pos ⟨hroom, Or.inl rfl⟩]
            exact ih hwaits.2 hretries
        | false =>
            have hone : (if decide (IpcRead.again false = .again false) = true then 1 else 0) = 1 :=
              rfl
            rw [hone] at hretries ⊢
            have hk : k < maxRetries := by omega
            rw [if_pos ⟨hroom, Or.inr hk⟩, if_neg Bool.false_ne_true, ih hwaits.2 (by omega),
              Nat.add_assoc, Nat.add_comm 1]

theorem readRequest_bytes (hroom : received.length < ipcRoom) {bytes : List UInt8}
    (hbytes : bytes ≠ []) (k : Nat) :
    readRequest received k (.bytes bytes :: reads)
      = if (received ++ bytes.take (ipcRoom - received.length)).getLast? = some 10
        then some (received ++ bytes.take (ipcRoom - received.length))
        else readRequest (received ++ bytes.take (ipcRoom - received.length)) 0 reads := by
  rw [readRequest, if_pos ⟨hroom, hbytes⟩]

/-- One piece: its bytes, as far as there is room. -/
theorem readRequest_piece (hroom : received.length < ipcRoom) (hp : p.Patient)
    (pieces : List IpcPiece) :
    readRequest received 0 (readsOf (p :: pieces))
      = if (received ++ p.bytes.take (ipcRoom - received.length)).getLast? = some 10
        then some (received ++ p.bytes.take (ipcRoom - received.length))
        else readRequest (received ++ p.bytes.take (ipcRoom - received.length)) 0
          (readsOf pieces) := by
  have hreads : readsOf (p :: pieces) = p.pause ++ .bytes p.bytes :: readsOf pieces := by
    rw [readsOf, List.flatMap_cons, List.append_assoc]
    rfl
  rw [hreads, readRequest_pause hroom hp.waits (by rw [Nat.zero_add]; exact hp.retries),
    readRequest_bytes hroom hp.nonempty]

theorem getLast?_append_take {bytes : List UInt8} (hbytes : bytes ≠ [])
    (hfits : bytes.length ≤ ipcRoom - received.length) :
    (received ++ bytes.take (ipcRoom - received.length)).getLast? = bytes.getLast? := by
  rw [List.take_of_length_le hfits, List.getLast?_append_of_ne_nil _ hbytes]

/-- **A text that is not cut behind a line end** is read to its end, or to that of the buffer. -/
theorem readRequest_whole (hpatient : ∀ p ∈ pieces, p.Patient) {text : List UInt8}
    (hsent : received ++ sentBy pieces = text ++ [10]) (hfits : text.length ≤ ipcRoom)
    (hroom : received.length < ipcRoom) (hpieces : pieces ≠ [])
    (hcut : ∀ p ∈ pieces.dropLast, p.bytes.getLast? ≠ some 10) :
    readRequest received 0 (readsOf pieces) = some ((text ++ [10]).take ipcRoom) := by
  induction pieces generalizing received with
  | nil => exact absurd rfl hpieces
  | cons p pieces ih =>
      rw [List.forall_mem_cons] at hpatient
      have hcons : sentBy (p :: pieces) = p.bytes ++ sentBy pieces := List.flatMap_cons
      rw [hcons] at hsent
      rw [readRequest_piece hroom hpatient.1]
      cases hlast : pieces with
      | nil =>
          rw [hlast] at hsent
          have hwhole : received ++ p.bytes = text ++ [10] := by
            rw [← hsent]
            exact congrArg _ (List.append_nil _).symm
          have htake : received ++ p.bytes.take (ipcRoom - received.length)
              = (text ++ [10]).take ipcRoom := by
            rw [← hwhole, List.take_append, List.take_of_length_le (Nat.le_of_lt hroom)]
          rw [htake]
          split
          · rfl
          · next hopen =>
              apply readRequest_full
              intro hlt
              -- with room left, the line end is in the buffer
              apply hopen
              have hshort : (text ++ [10]).length ≤ ipcRoom := by
                rw [List.length_take] at hlt
                omega
              rw [List.take_of_length_le hshort]
              exact List.getLast?_concat
      | cons q rest =>
          have hpieces' : pieces ≠ [] := by rw [hlast]; exact List.cons_ne_nil q rest
          rw [List.dropLast_cons_of_ne_nil hpieces', List.forall_mem_cons] at hcut
          -- the piece fits, for there is one behind it
          have hrest : 0 < (sentBy pieces).length := by
            rw [hlast, sentBy, List.flatMap_cons, List.length_append]
            have hq := List.length_pos_of_ne_nil (hpatient.2 q (hlast ▸ List.mem_cons_self)).nonempty
            omega
          have hlen := congrArg List.length hsent
          simp only [List.length_append, List.length_singleton] at hlen
          have hpfits : p.bytes.length ≤ ipcRoom - received.length := by omega
          rw [getLast?_append_take hpatient.1.nonempty hpfits, if_neg hcut.1,
            List.take_of_length_le hpfits, ← hlast]
          by_cases hroom' : (received ++ p.bytes).length < ipcRoom
          · exact ih hpatient.2 (by rw [List.append_assoc]; exact hsent) hroom' hpieces' hcut.2
          · rw [readRequest_full hroom']
            have hfull : (received ++ p.bytes).length = ipcRoom := by
              rw [List.length_append] at hroom' ⊢
              omega
            rw [← hsent, ← List.append_assoc, List.take_append, ← hfull, Nat.sub_self,
              List.take_of_length_le (Nat.le_refl _), List.take_zero, List.append_nil]

/-- The bytes in the buffer are the first ones that were sent, and they fit. -/
theorem readRequest_isPrefix (hpatient : ∀ p ∈ pieces, p.Patient) {buffer : List UInt8}
    (hroom : received.length ≤ ipcRoom)
    (h : readRequest received 0 (readsOf pieces) = some buffer) :
    buffer <+: received ++ sentBy pieces ∧ buffer.length ≤ ipcRoom := by
  induction pieces generalizing received with
  | nil =>
      have hreads : readRequest received 0 (readsOf [])
          = if received.length < ipcRoom then none else some received := rfl
      rw [hreads] at h
      split at h
      · cases h
      · obtain rfl := Option.some.inj h
        exact ⟨List.prefix_append _ _, hroom⟩
  | cons p pieces ih =>
      rw [List.forall_mem_cons] at hpatient
      by_cases hlt : received.length < ipcRoom
      · have hpre : received ++ p.bytes.take (ipcRoom - received.length) ++ sentBy pieces
            <+: received ++ sentBy (p :: pieces)
            ∨ received ++ p.bytes.take (ipcRoom - received.length)
              <+: received ++ sentBy (p :: pieces)
              ∧ ¬ (received ++ p.bytes.take (ipcRoom - received.length)).length < ipcRoom := by
          have hcons : sentBy (p :: pieces) = p.bytes ++ sentBy pieces := List.flatMap_cons
          rw [hcons]
          by_cases hfits : p.bytes.length ≤ ipcRoom - received.length
          · left
            rw [List.take_of_length_le hfits, List.append_assoc]
          · right
            refine ⟨?_, ?_⟩
            · rw [List.prefix_append_right_inj]
              exact (List.take_prefix _ _).trans (List.prefix_append _ _)
            · rw [List.length_append, List.length_take]
              omega
        have hle : (received ++ p.bytes.take (ipcRoom - received.length)).length ≤ ipcRoom := by
          rw [List.length_append, List.length_take]
          omega
        rw [readRequest_piece hlt hpatient.1] at h
        split at h
        · obtain rfl := Option.some.inj h
          rcases hpre with hpre | ⟨hpre, -⟩
          · exact ⟨(List.prefix_append _ _).trans hpre, hle⟩
          · exact ⟨hpre, hle⟩
        · rcases hpre with hpre | ⟨hpre, hfull⟩
          · obtain ⟨hbuffer, hlen⟩ := ih hpatient.2 hle h
            exact ⟨hbuffer.trans hpre, hlen⟩
          · rw [readRequest_full hfull] at h
            obtain rfl := Option.some.inj h
            exact ⟨hpre, hle⟩
      · rw [readRequest_full hlt] at h
        obtain rfl := Option.some.inj h
        exact ⟨List.prefix_append _ _, hroom⟩

theorem sentBy_pos (hpatient : ∀ p ∈ pieces, p.Patient) (hpieces : pieces ≠ []) :
    0 < (sentBy pieces).length := by
  obtain ⟨p, rest, rfl⟩ := List.exists_cons_of_ne_nil hpieces
  rw [sentBy, List.flatMap_cons, List.length_append]
  have hp := List.length_pos_of_ne_nil (hpatient p List.mem_cons_self).nonempty
  omega

/-- **A cut behind a line end** stops the loop too early: there, or at the end of the buffer. -/
theorem readRequest_cut (hpatient : ∀ p ∈ pieces, p.Patient) {buffer : List UInt8}
    (hroom : received.length < ipcRoom)
    (hcut : ∃ p ∈ pieces.dropLast, p.bytes.getLast? = some 10)
    (h : readRequest received 0 (readsOf pieces) = some buffer) :
    buffer.length < (received ++ sentBy pieces).length
      ∧ (buffer.getLast? = some 10 ∨ buffer.length + 1 < (received ++ sentBy pieces).length) := by
  induction pieces generalizing received with
  | nil =>
      obtain ⟨q, hq, -⟩ := hcut
      cases hq
  | cons p pieces ih =>
      rw [List.forall_mem_cons] at hpatient
      obtain ⟨q, hq, hend⟩ := hcut
      have hpieces : pieces ≠ [] := by
        rintro rfl
        cases hq
      have hcons : received ++ sentBy (p :: pieces) = received ++ p.bytes ++ sentBy pieces := by
        rw [List.append_assoc]
        exact congrArg _ List.flatMap_cons
      have hrest := sentBy_pos hpatient.2 hpieces
      rw [hcons]
      rw [readRequest_piece hroom hpatient.1] at h
      by_cases hfits : p.bytes.length ≤ ipcRoom - received.length
      · rw [List.take_of_length_le hfits] at h
        split at h
        · next hline =>
            obtain rfl := Option.some.inj h
            refine ⟨?_, Or.inl hline⟩
            simp only [List.length_append] at hrest ⊢
            omega
        · next hopen =>
            rw [List.dropLast_cons_of_ne_nil hpieces, List.mem_cons] at hq
            have hlast : (received ++ p.bytes).getLast? = p.bytes.getLast? :=
              List.getLast?_append_of_ne_nil _ hpatient.1.nonempty
            have hqmem : q ∈ pieces.dropLast := by
              rcases hq with rfl | hq
              · exact absurd (hlast.trans hend) hopen
              · exact hq
            by_cases hroom' : (received ++ p.bytes).length < ipcRoom
            · exact ih hpatient.2 hroom' ⟨q, hqmem, hend⟩ h
            · rw [readRequest_full hroom'] at h
              obtain rfl := Option.some.inj h
              -- the cut is one piece on, and behind it there is another one
              have hmore : 1 < (sentBy pieces).length := by
                obtain ⟨r, rest, rfl⟩ := List.exists_cons_of_ne_nil hpieces
                have hrest' : rest ≠ [] := by
                  rintro rfl
                  cases hqmem
                rw [List.forall_mem_cons] at hpatient
                have hr := List.length_pos_of_ne_nil hpatient.2.1.nonempty
                have hpos := sentBy_pos hpatient.2.2 hrest'
                rw [sentBy, List.flatMap_cons, List.length_append]
                rw [sentBy] at hpos
                omega
              simp only [List.length_append]
              exact ⟨by omega, Or.inr (by omega)⟩
      · have hfull : ¬ (received ++ p.bytes.take (ipcRoom - received.length)).length < ipcRoom := by
          rw [List.length_append, List.length_take]
          omega
        have hbuffer : received ++ p.bytes.take (ipcRoom - received.length) = buffer := by
          split at h
          · exact Option.some.inj h
          · rw [readRequest_full hfull] at h
            exact Option.some.inj h
        subst hbuffer
        simp only [List.length_append, List.length_take]
        exact ⟨by omega, Or.inr (by omega)⟩

/-! ## The text -/

theorem length_cstr_le (buf : List UInt8) : (cstr buf).length ≤ buf.length :=
  (cstr_isPrefix buf).length_le

theorem requestText_length {buffer text : List UInt8} (h : requestText buffer = some text) :
    text.length ≤ buffer.length
      ∧ (buffer.getLast? = some 10 → text.length < buffer.length) := by
  unfold requestText at h
  dsimp only at h
  split at h
  · cases h
  · obtain rfl := Option.some.inj h
    have hcstr := length_cstr_le (buffer.rdropWhile isLineEnd)
    have hdrop := (List.rdropWhile_prefix isLineEnd (l := buffer)).length_le
    refine ⟨by omega, fun hline => ?_⟩
    obtain ⟨front, rfl⟩ := List.getLast?_eq_some_iff.mp hline
    rw [List.rdropWhile_concat_pos isLineEnd front 10 (by decide)] at hcstr ⊢
    have hfront := (List.rdropWhile_prefix isLineEnd (l := front)).length_le
    rw [List.length_append, List.length_singleton]
    omega

/-- A text as a backend encodes it: without a NUL, and without a line end behind it. -/
structure OneText (text : List UInt8) : Prop where
  nonempty : text ≠ []
  no_nul : 0 ∉ text
  last : ∀ b, text.getLast? = some b → isLineEnd b = false

theorem OneText.requestText_eq {text : List UInt8} (h : OneText text)
    {buffer : List UInt8} (hbuffer : buffer = text ∨ buffer = text ++ [10]) :
    requestText buffer = some text := by
  have hstrip : buffer.rdropWhile isLineEnd = text := by
    have hkeep : text.rdropWhile isLineEnd = text := by
      rw [List.rdropWhile_eq_self_iff]
      intro hne
      rw [h.last _ (List.getLast?_eq_some_getLast hne)]
      exact Bool.false_ne_true
    rcases hbuffer with rfl | rfl
    · exact hkeep
    · rw [List.rdropWhile_concat_pos isLineEnd text 10 (by decide), hkeep]
  unfold requestText
  rw [hstrip, cstr_of_notMem h.no_nul]
  exact if_neg h.nonempty

/-- **When a request goes through in one piece**: exactly if it fits the buffer and no read but the
last one ends behind a line end of the text. -/
theorem request_intact_iff {text : List UInt8} (htext : OneText text)
    (hpatient : ∀ p ∈ pieces, p.Patient) (hsent : sentBy pieces = text ++ [10]) :
    ipcRequest (readsOf pieces) = some text ↔
      text.length ≤ ipcRoom ∧ ∀ p ∈ pieces.dropLast, p.bytes.getLast? ≠ some 10 := by
  have hpieces : pieces ≠ [] := by
    rintro rfl
    exact List.append_ne_nil_of_right_ne_nil text (List.cons_ne_nil 10 []) hsent.symm
  have hempty : ([] : List UInt8).length < ipcRoom := by decide
  constructor
  · intro h
    obtain ⟨buffer, hbuffer, htxt⟩ := Option.bind_eq_some_iff.mp h
    obtain ⟨hle, hlt⟩ := requestText_length htxt
    refine ⟨hle.trans (readRequest_isPrefix hpatient (Nat.zero_le _) hbuffer).2, ?_⟩
    by_contra hno
    have hcut : ∃ p ∈ pieces.dropLast, p.bytes.getLast? = some 10 := by
      simpa only [not_forall, not_not, exists_prop] using hno
    obtain ⟨hshort, hearly⟩ := readRequest_cut hpatient hempty hcut hbuffer
    rw [List.nil_append, hsent, List.length_append, List.length_singleton] at hshort hearly
    rcases hearly with hline | hearly
    · have := hlt hline
      omega
    · omega
  · rintro ⟨hfits, hcut⟩
    have hsent' : [] ++ sentBy pieces = text ++ [10] := hsent
    have hread := readRequest_whole hpatient hsent' hfits hempty hpieces hcut
    rw [ipcRequest, hread]
    apply htext.requestText_eq
    rcases hfits.lt_or_eq with hlt | heq
    · right
      apply List.take_of_length_le
      rw [List.length_append]
      exact hlt
    · left
      rw [← heq, List.take_left]

end Reading

/-- A text in two pieces, the second of which the server has to wait for. -/
theorem request_intact_two :
    let pieces : List IpcPiece :=
      [⟨[], ascii "\x7b\"a\":"⟩, ⟨[.again false, .again true], ascii "1\x7d\n"⟩]
    ipcRequest (readsOf pieces) = some (ascii "\x7b\"a\":1\x7d") := by
  intro pieces
  have htext : OneText (ascii "\x7b\"a\":1\x7d") :=
    ⟨by decide, by decide, fun b hb => by rw [← Option.some.inj hb]; decide⟩
  have hpatient : ∀ p ∈ pieces, p.Patient := by
    intro p hp
    rcases List.mem_pair.mp hp with rfl | rfl
    · exact ⟨fun r hr => absurd hr List.not_mem_nil, by decide, by decide⟩
    · refine ⟨fun r hr => ?_, by decide, by decide⟩
      rcases List.mem_pair.mp hr with rfl | rfl
      · exact Or.inr ⟨false, rfl⟩
      · exact Or.inr ⟨true, rfl⟩
  refine (request_intact_iff htext hpatient (by decide)).mpr ⟨by decide, fun p hp => ?_⟩
  rw [List.mem_singleton.mp hp]
  decide

end Halmos.WebSocket
