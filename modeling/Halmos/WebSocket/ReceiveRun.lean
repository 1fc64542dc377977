import Halmos.WebSocket.Receive

set_option autoImplicit false

/-! # Every frame a client sends is received

`Awaits f st rest` relates the receiver's state to the frame it is in the middle of: `st` has
taken in `f` up to the bytes `rest`. A read that gives it the next of these bytes, never more
than it asked for, keeps the relation (`turn_spec`), so a call hands out the frame once its
last byte has come and otherwise leaves the state for the next call to go on from
(`recvFrame_spec`). The cuts between the reads and the calls do not matter.
-/

namespace Halmos.WebSocket

/-! ## The state in the middle of a frame -/

/-- The bytes of `f` still to come are `rest`. The counters of the pieces not yet begun are
zero, and the piece being read is in its buffer up to its counter. -/
inductive Awaits (f : ClientFrame) : WsRecvState → List UInt8 → Prop where
  | header {st : WsRecvState} (got : List UInt8) {rest : List UInt8} (state_eq : st.state = .header)
      (read_eq : st.headerBytesRead = got.length)
      (buf_eq : st.header.bytes.take got.length = got)
      (piece_eq : f.head = got ++ rest) (rest_ne : rest ≠ [])
      (extLenBytesRead_eq : st.extLenBytesRead = 0) (maskBytesRead_eq : st.maskBytesRead = 0)
      (payloadBytesRead_eq : st.payloadBytesRead = 0) (payload_eq : st.payload = none) :
      Awaits f st (rest ++ (f.ext ++ (f.mask ++ f.body)))
  | extLen {st : WsRecvState} (got : List UInt8) {rest : List UInt8} (state_eq : st.state = .extLen)
      (read_eq : st.extLenBytesRead = got.length)
      (buf_eq : st.extLenBuf.bytes.take got.length = got)
      (piece_eq : f.ext = got ++ rest) (rest_ne : rest ≠ [])
      (opcode_eq : st.opcode = f.opcode) (extLenExpected_eq : st.extLenExpected = f.ext.length)
      (maskBytesRead_eq : st.maskBytesRead = 0)
      (payloadBytesRead_eq : st.payloadBytesRead = 0) (payload_eq : st.payload = none) :
      Awaits f st (rest ++ (f.mask ++ f.body))
  | mask {st : WsRecvState} (got : List UInt8) {rest : List UInt8} (state_eq : st.state = .mask)
      (read_eq : st.maskBytesRead = got.length)
      (buf_eq : st.mask.bytes.take got.length = got)
      (piece_eq : f.mask = got ++ rest) (rest_ne : rest ≠ [])
      (opcode_eq : st.opcode = f.opcode) (payloadLen_eq : st.payloadLen = f.payload.length)
      (payloadBytesRead_eq : st.payloadBytesRead = 0) (payload_eq : st.payload = none) :
      Awaits f st (rest ++ f.body)
  | payload {st : WsRecvState} (got : List UInt8) {rest block : List UInt8} (state_eq : st.state = .payload)
      (read_eq : st.payloadBytesRead = got.length) (buf_eq : block.take got.length = got)
      (piece_eq : f.body = got ++ rest) (rest_ne : rest ≠ [])
      (opcode_eq : st.opcode = f.opcode) (payloadLen_eq : st.payloadLen = f.payload.length)
      (mask_eq : st.mask.bytes = f.mask) (payload_eq : st.payload = some block)
      (block_length : block.length = f.payload.length + 1) :
      Awaits f st rest
  | empty {st : WsRecvState} (state_eq : st.state = .complete)
      (opcode_eq : st.opcode = f.opcode) (payloadLen_eq : st.payloadLen = f.payload.length)
      (nil : f.payload = []) (payload_eq : st.payload = none) : Awaits f st []
  | filled {st : WsRecvState} {block : List UInt8} (state_eq : st.state = .complete)
      (opcode_eq : st.opcode = f.opcode) (payloadLen_eq : st.payloadLen = f.payload.length)
      (ne_nil : f.payload ≠ []) (mask_eq : st.mask.bytes = f.mask)
      (payload_eq : st.payload = some block)
      (block_length : block.length = f.payload.length + 1)
      (block_take : block.take f.payload.length = f.body) : Awaits f st []

/-- A cleared state awaits a whole frame, whichever it is. -/
theorem awaits_cleared (f : ClientFrame) : Awaits f .cleared f.encode :=
  .header [] rfl rfl rfl rfl (List.cons_ne_nil _ _) rfl rfl rfl rfl

/-- A read of bytes of one piece of the frame stops at or before the end of the piece. -/
theorem split_piece {piece tail bs rest : List UInt8} (h : piece ++ tail = bs ++ rest)
    (hle : bs.length ≤ piece.length) : ∃ left, piece = bs ++ left ∧ rest = left ++ tail := by
  rw [List.append_eq_append_iff] at h
  rcases h with ⟨left, hbs, htail⟩ | ⟨left, hpiece, hrest⟩
  · -- then the read is all of the piece
    have hlen : left.length = 0 := by
      rw [hbs, List.length_append] at hle
      omega
    rw [List.length_eq_zero_iff] at hlen
    subst hlen
    exact ⟨[], by simpa using hbs.symm, by simpa using htail.symm⟩
  · exact ⟨left, hpiece, hrest⟩

variable {f : ClientFrame} {st : WsRecvState} {rest : List UInt8}

/-- While the frame is not complete the receiver asks for bytes, and for bytes of the frame
only. -/
theorem Awaits.needed (h : Awaits f st rest) (hst : st.state ≠ .complete) :
    0 < st.needed ∧ st.needed ≤ rest.length := by
  cases h with
  | header got state_eq read_eq _ piece_eq rest_ne =>
      have hlen := congrArg List.length piece_eq
      have hpos := List.length_pos_iff.mpr rest_ne
      simp only [f.length_head, List.length_append] at hlen ⊢
      simp only [WsRecvState.needed, state_eq, read_eq]
      omega
  | extLen got state_eq read_eq _ piece_eq rest_ne _ extLenExpected_eq =>
      have hlen := congrArg List.length piece_eq
      have hpos := List.length_pos_iff.mpr rest_ne
      simp only [List.length_append] at hlen ⊢
      simp only [WsRecvState.needed, state_eq, read_eq, extLenExpected_eq]
      omega
  | mask got state_eq read_eq _ piece_eq rest_ne =>
      have hlen := congrArg List.length piece_eq
      have hpos := List.length_pos_iff.mpr rest_ne
      simp only [f.mask_length, List.length_append] at hlen ⊢
      simp only [WsRecvState.needed, state_eq, read_eq]
      omega
  | payload got state_eq read_eq _ piece_eq rest_ne _ payloadLen_eq =>
      have hlen := congrArg List.length piece_eq
      have hpos := List.length_pos_iff.mpr rest_ne
      simp only [f.length_body, List.length_append] at hlen
      simp only [WsRecvState.needed, state_eq, read_eq, payloadLen_eq]
      omega
  | empty state_eq => exact absurd state_eq hst
  | filled state_eq => exact absurd state_eq hst

theorem Awaits.length_le (h : Awaits f st rest) : rest.length ≤ f.encode.length := by
  cases h with
  | header _ _ _ _ piece_eq =>
      simp only [ClientFrame.encode, piece_eq, List.length_append]
      omega
  | extLen _ _ _ _ piece_eq =>
      simp only [ClientFrame.encode, piece_eq, List.length_append]
      omega
  | mask _ _ _ _ piece_eq =>
      simp only [ClientFrame.encode, piece_eq, List.length_append]
      omega
  | payload _ _ _ _ piece_eq =>
      simp only [ClientFrame.encode, piece_eq, List.length_append]
      omega
  | empty => exact Nat.zero_le _
  | filled => exact Nat.zero_le _

/-! ## One turn of the loop -/

/-- After the turn the receiver awaits `rest`, and it returns only to wait for more of the
frame. -/
def Keeps (f : ClientFrame) (rest : List UInt8) (r : Option (WsRecvState × Turn)) : Prop :=
  ∃ st t, r = some (st, t) ∧ Awaits f st rest ∧
    (t = .next ∨ t = .again ∧ st.state ≠ .complete)

/-- A buffer that has been filled holds the piece. -/
theorem bytes_of_full {n : Nat} {buf : Buffer n} {piece : List UInt8}
    (h : buf.bytes.take piece.length = piece) (hn : n ≤ piece.length) : buf.bytes = piece := by
  rw [← h]
  exact (List.take_of_length_le (by rw [buf.length_eq]; exact hn)).symm

/-- A read goes behind what has been read of the piece. -/
theorem copy_piece {n : Nat} {buf : Buffer n} {got : List UInt8}
    (hgot : buf.bytes.take got.length = got) (bs : List UInt8) (hroom : got.length + bs.length ≤ n) :
    ∃ buf', buf.copy got.length bs = some buf' ∧
      buf'.bytes.take (got ++ bs).length = got ++ bs := by
  obtain ⟨buf', hcopy, htake⟩ := buf.copy_take hroom
  rw [hgot] at htake
  exact ⟨buf', hcopy, by rw [List.length_append, htake]⟩

/-- Behind the two header bytes comes the extended length, or the mask right away. -/
theorem readHeader_keeps {got bs left : List UInt8} (state_eq : st.state = .header)
    (read_eq : st.headerBytesRead = got.length) (buf_eq : st.header.bytes.take got.length = got)
    (piece_eq : f.head = got ++ (bs ++ left)) (extLenBytesRead_eq : st.extLenBytesRead = 0)
    (maskBytesRead_eq : st.maskBytesRead = 0) (payloadBytesRead_eq : st.payloadBytesRead = 0)
    (payload_eq : st.payload = none) :
    Keeps f (left ++ (f.ext ++ (f.mask ++ f.body))) (st.readHeader bs) := by
  have hlen := congrArg List.length piece_eq
  simp only [f.length_head, List.length_append] at hlen
  obtain ⟨header, hcopy, htake⟩ := copy_piece buf_eq bs (by omega)
  unfold WsRecvState.readHeader
  rw [read_eq, hcopy]
  simp only [Option.bind_eq_bind, Option.bind_some]
  rcases left with _ | ⟨c, left⟩
  · -- the piece is complete
    rw [List.append_nil] at piece_eq
    rw [← piece_eq] at htake
    have hbytes : header.bytes = f.head := bytes_of_full htake (by rw [f.length_head])
    obtain ⟨hfin, hop⟩ := ClientFrame.finBit_and_opcode f.opcode f.opcode_lt
    obtain ⟨hmasked, hcode⟩ := ClientFrame.maskBit_and_length f.lenCode f.lenCode_lt
    have hshort : ¬ got.length + bs.length < 2 := by
      simp only [List.length_nil] at hlen
      omega
    have hcontrol : ¬ (0x08 ≤ f.opcode ∧ f.opcode ≤ 0x0A ∧ 125 < f.lenCode) :=
      fun ⟨h8, h10, h⟩ => absurd (f.control_lenCode h8 h10) (by omega)
    -- none of the three validations refuses the header
    simp only [if_neg hshort, hbytes, ClientFrame.head, List.getD_cons_zero, List.getD_cons_succ,
      hop, hcode, bne_iff_ne.mpr hfin, bne_iff_ne.mpr hmasked, if_neg hcontrol, reduceCtorEq,
      if_false, List.nil_append]
    -- the three forms of the length
    rcases f.length_form with ⟨hle, hlc, hext⟩ | ⟨_, hlc, hext, _⟩ | ⟨_, hlc, hext, _⟩
    · rw [if_neg (by omega), if_neg (by omega)]
      refine ⟨_, _, rfl, ?_, .inl rfl⟩
      rw [hext, List.nil_append]
      exact .mask [] rfl maskBytesRead_eq rfl rfl f.mask_ne_nil rfl hlc payloadBytesRead_eq
        payload_eq
    · have hne : f.ext ≠ [] := List.ne_nil_of_length_pos (by omega)
      rw [if_pos hlc]
      exact ⟨_, _, rfl, .extLen [] rfl extLenBytesRead_eq rfl rfl hne rfl hext.symm
        maskBytesRead_eq payloadBytesRead_eq payload_eq, .inl rfl⟩
    · have hne : f.ext ≠ [] := List.ne_nil_of_length_pos (by omega)
      rw [if_neg (by omega), if_pos hlc]
      exact ⟨_, _, rfl, .extLen [] rfl extLenBytesRead_eq rfl rfl hne rfl hext.symm
        maskBytesRead_eq payloadBytesRead_eq payload_eq, .inl rfl⟩
  · -- the read ends inside the piece
    have hshort : got.length + bs.length < 2 := by
      simp only [List.length_cons] at hlen
      omega
    simp only [if_pos hshort]
    refine ⟨_, _, rfl, .header (got ++ bs) state_eq List.length_append.symm htake ?_
      (List.cons_ne_nil _ _) extLenBytesRead_eq maskBytesRead_eq payloadBytesRead_eq payload_eq,
      .inr ⟨rfl, ?_⟩⟩
    · rw [piece_eq, List.append_assoc]
    · rw [state_eq]
      decide

theorem readExtLen_keeps {got bs left : List UInt8} (state_eq : st.state = .extLen)
    (read_eq : st.extLenBytesRead = got.length)
    (buf_eq : st.extLenBuf.bytes.take got.length = got)
    (piece_eq : f.ext = got ++ (bs ++ left)) (hne : f.ext ≠ []) (opcode_eq : st.opcode = f.opcode)
    (extLenExpected_eq : st.extLenExpected = f.ext.length)
    (maskBytesRead_eq : st.maskBytesRead = 0) (payloadBytesRead_eq : st.payloadBytesRead = 0)
    (payload_eq : st.payload = none) :
    Keeps f (left ++ (f.mask ++ f.body)) (st.readExtLen bs) := by
  have hlen := congrArg List.length piece_eq
  simp only [List.length_append] at hlen
  have hform : (f.ext.length = 2 ∨ f.ext.length = 8) ∧ bigEndian f.ext = f.payload.length := by
    rcases f.length_form with ⟨_, _, hext⟩ | ⟨_, _, hext, hbig⟩ | ⟨_, _, hext, hbig⟩
    · exact absurd hext hne
    · exact ⟨.inl hext, hbig⟩
    · exact ⟨.inr hext, hbig⟩
  obtain ⟨buf, hcopy, htake⟩ := copy_piece buf_eq bs (by omega)
  unfold WsRecvState.readExtLen
  rw [read_eq, hcopy]
  simp only [Option.bind_eq_bind, Option.bind_some, extLenExpected_eq]
  rcases left with _ | ⟨c, left⟩
  · -- the piece is complete
    rw [List.append_nil] at piece_eq
    rw [← piece_eq] at htake
    simp only [List.length_nil] at hlen
    have hread : (if f.ext.length = 2 then bigEndian (buf.bytes.take 2)
        else bigEndian (buf.bytes.take 8)) = f.payload.length := by
      rcases hform.1 with h2 | h8
      · rw [h2] at htake
        rw [if_pos h2, htake]
        exact hform.2
      · rw [h8] at htake
        rw [if_neg (by omega), htake]
        exact hform.2
    have hle := f.payload_le
    rw [if_neg (show ¬ got.length + bs.length < f.ext.length by omega)]
    simp only [hread]
    rw [if_neg (show ¬ maxWsPayload < f.payload.length by omega)]
    exact ⟨_, _, rfl, .mask [] rfl maskBytesRead_eq rfl rfl f.mask_ne_nil opcode_eq rfl
      payloadBytesRead_eq payload_eq, .inl rfl⟩
  · -- the read ends inside the piece
    simp only [List.length_cons] at hlen
    rw [if_pos (show got.length + bs.length < f.ext.length by omega)]
    refine ⟨_, _, rfl, .extLen (got ++ bs) state_eq List.length_append.symm htake ?_
      (List.cons_ne_nil _ _) opcode_eq rfl maskBytesRead_eq payloadBytesRead_eq payload_eq,
      .inr ⟨rfl, ?_⟩⟩
    · rw [piece_eq, List.append_assoc]
    · rw [state_eq]
      decide

/-- Behind the mask comes the payload, in a block of its own, if there is one. -/
theorem readMask_keeps (malloc : (n : Nat) → Buffer n) {got bs left : List UInt8}
    (state_eq : st.state = .mask) (read_eq : st.maskBytesRead = got.length)
    (buf_eq : st.mask.bytes.take got.length = got) (piece_eq : f.mask = got ++ (bs ++ left))
    (opcode_eq : st.opcode = f.opcode) (payloadLen_eq : st.payloadLen = f.payload.length)
    (payloadBytesRead_eq : st.payloadBytesRead = 0) (payload_eq : st.payload = none) :
    Keeps f (left ++ f.body) (st.readMask malloc bs) := by
  have hlen := congrArg List.length piece_eq
  simp only [f.mask_length, List.length_append] at hlen
  obtain ⟨mask, hcopy, htake⟩ := copy_piece buf_eq bs (by omega)
  unfold WsRecvState.readMask
  rw [read_eq, hcopy]
  simp only [Option.bind_eq_bind, Option.bind_some, payloadLen_eq]
  rcases left with _ | ⟨c, left⟩
  · -- the piece is complete
    rw [List.append_nil] at piece_eq
    rw [← piece_eq] at htake
    have hbytes : mask.bytes = f.mask := bytes_of_full htake (by rw [f.mask_length])
    simp only [List.length_nil] at hlen
    rw [if_neg (show ¬ got.length + bs.length < 4 by omega)]
    by_cases hpos : 0 < f.payload.length
    · have hbody : f.body ≠ [] := List.ne_nil_of_length_pos (by rw [f.length_body]; exact hpos)
      have hblock : (malloc (st.payloadLen + 1)).bytes.length = f.payload.length + 1 := by
        rw [(malloc _).length_eq, payloadLen_eq]
      rw [if_pos hpos]
      exact ⟨_, _, rfl, .payload [] rfl payloadBytesRead_eq rfl rfl hbody opcode_eq rfl
        hbytes rfl hblock, .inl rfl⟩
    · have hnil : f.payload = [] := List.length_eq_zero_iff.mp (by omega)
      have hbody : f.body = [] := by rw [ClientFrame.body, hnil, applyMask_nil]
      rw [if_neg hpos]
      refine ⟨_, _, rfl, ?_, .inl rfl⟩
      rw [hbody]
      exact .empty rfl opcode_eq rfl hnil payload_eq
  · -- the read ends inside the piece
    simp only [List.length_cons] at hlen
    rw [if_pos (show got.length + bs.length < 4 by omega)]
    refine ⟨_, _, rfl, .mask (got ++ bs) state_eq List.length_append.symm htake ?_
      (List.cons_ne_nil _ _) opcode_eq rfl payloadBytesRead_eq payload_eq, .inr ⟨rfl, ?_⟩⟩
    · rw [piece_eq, List.append_assoc]
    · rw [state_eq]
      decide

theorem readPayload_keeps {got bs left block : List UInt8} (state_eq : st.state = .payload)
    (read_eq : st.payloadBytesRead = got.length) (buf_eq : block.take got.length = got)
    (piece_eq : f.body = got ++ (bs ++ left)) (hne : f.body ≠ []) (opcode_eq : st.opcode = f.opcode)
    (payloadLen_eq : st.payloadLen = f.payload.length) (mask_eq : st.mask.bytes = f.mask)
    (payload_eq : st.payload = some block) (block_length : block.length = f.payload.length + 1) :
    Keeps f left (st.readPayload bs) := by
  have hlen := congrArg List.length piece_eq
  simp only [f.length_body, List.length_append] at hlen
  obtain ⟨block', hwrite, hlength, htake⟩ :=
    writeBytes_eq block got.length bs (by omega)
  rw [buf_eq, ← List.length_append] at htake
  rw [block_length] at hlength
  unfold WsRecvState.readPayload
  rw [read_eq, payload_eq]
  simp only [Option.bind_eq_bind, Option.bind_some, hwrite, payloadLen_eq]
  rcases left with _ | ⟨c, left⟩
  · -- the piece is complete
    rw [List.append_nil] at piece_eq
    rw [← piece_eq, f.length_body] at htake
    simp only [List.length_nil] at hlen
    have hnil : f.payload ≠ [] := fun h => hne (by rw [ClientFrame.body, h, applyMask_nil])
    rw [if_neg (show ¬ got.length + bs.length < f.payload.length by omega)]
    exact ⟨_, _, rfl, .filled rfl opcode_eq rfl hnil mask_eq rfl hlength htake, .inl rfl⟩
  · -- the read ends inside the piece
    simp only [List.length_cons] at hlen
    rw [if_pos (show got.length + bs.length < f.payload.length by omega)]
    refine ⟨_, _, rfl, .payload (got ++ bs) state_eq List.length_append.symm htake ?_
      (List.cons_ne_nil _ _) opcode_eq rfl mask_eq rfl hlength, .inr ⟨rfl, ?_⟩⟩
    · rw [piece_eq, List.append_assoc]
    · rw [state_eq]
      decide

/-- **One read.** Bytes of the frame, no more than were asked for, take the receiver forward. -/
theorem turn_keeps (malloc : (n : Nat) → Buffer n) {bs : List UInt8}
    (h : Awaits f st (bs ++ rest)) (hst : st.state ≠ .complete) (hle : bs.length ≤ st.needed) :
    Keeps f rest (st.turn malloc bs) := by
  -- one case for each state of the receiver; `split_piece` cuts what is read off the piece that
  -- the state still waits for
  generalize hall : bs ++ rest = all at h
  cases h with
  | header got state_eq read_eq buf_eq piece_eq rest_ne hext hmask hpayload hblock =>
      have hpiece := congrArg List.length piece_eq
      simp only [f.length_head, List.length_append] at hpiece
      simp only [WsRecvState.needed, state_eq, read_eq] at hle
      obtain ⟨left, rfl, rfl⟩ := split_piece hall.symm (by omega)
      unfold WsRecvState.turn
      rw [state_eq]
      exact readHeader_keeps state_eq read_eq buf_eq piece_eq hext hmask hpayload hblock
  | extLen got state_eq read_eq buf_eq piece_eq rest_ne hop hexp hmask hpayload hblock =>
      have hpiece := congrArg List.length piece_eq
      simp only [List.length_append] at hpiece
      simp only [WsRecvState.needed, state_eq, read_eq, hexp] at hle
      have hne : f.ext ≠ [] := by
        rw [piece_eq]
        exact List.append_ne_nil_of_right_ne_nil _ rest_ne
      obtain ⟨left, rfl, rfl⟩ := split_piece hall.symm (by omega)
      unfold WsRecvState.turn
      rw [state_eq]
      exact readExtLen_keeps state_eq read_eq buf_eq piece_eq hne hop hexp hmask hpayload hblock
  | mask got state_eq read_eq buf_eq piece_eq rest_ne hop hlen hpayload hblock =>
      have hpiece := congrArg List.length piece_eq
      simp only [f.mask_length, List.length_append] at hpiece
      simp only [WsRecvState.needed, state_eq, read_eq] at hle
      obtain ⟨left, rfl, rfl⟩ := split_piece hall.symm (by omega)
      unfold WsRecvState.turn
      rw [state_eq]
      exact readMask_keeps malloc state_eq read_eq buf_eq piece_eq hop hlen hpayload hblock
  | payload got state_eq read_eq buf_eq piece_eq rest_ne hop hlen hmask hblock hlength =>
      have hne : f.body ≠ [] := by
        rw [piece_eq]
        exact List.append_ne_nil_of_right_ne_nil _ rest_ne
      subst hall
      unfold WsRecvState.turn
      rw [state_eq]
      exact readPayload_keeps state_eq read_eq buf_eq piece_eq hne hop hlen hmask hblock hlength
  | empty state_eq => exact absurd state_eq hst
  | filled state_eq => exact absurd state_eq hst

/-! ## What a call uses up -/

/-- The reads of a script that find bytes, if any are left. -/
def readyCount (script : List ReadEvent) : Nat :=
  script.countP (fun e => match e with
    | .ready n => 0 < n
    | _ => false)

/-- No read finds the descriptor closed or broken. -/
def Open (script : List ReadEvent) : Prop := ∀ e ∈ script, e ≠ .gone

/-- From `side` to `side'` every read that could bring bytes has brought at least one, until
none were left. -/
structure Progress (side side' : RecvSide) : Prop where
  script_suffix : side'.script <:+ side.script
  incoming_le : side'.incoming.length ≤ side.incoming.length
  bytes_read : side'.incoming = [] ∨
    side'.incoming.length + readyCount side.script
      ≤ side.incoming.length + readyCount side'.script

theorem Progress.refl (side : RecvSide) : Progress side side :=
  ⟨List.suffix_refl _, Nat.le_refl _, .inr (Nat.le_refl _)⟩

theorem Progress.trans {a b c : RecvSide} (hab : Progress a b) (hbc : Progress b c) :
    Progress a c := by
  have hle := hbc.incoming_le
  refine ⟨hbc.script_suffix.trans hab.script_suffix, hle.trans hab.incoming_le, ?_⟩
  rcases hbc.bytes_read with hnil | hread
  · exact .inl hnil
  · rcases hab.bytes_read with hnil | hread'
    · rw [hnil, List.length_nil] at hle
      exact .inl (List.length_eq_zero_iff.mp (by omega))
    · exact .inr (by omega)

/-- Reads enough for all the bytes have brought them all. -/
theorem Progress.exhausted {incoming : List UInt8} {script : List ReadEvent} {side' : RecvSide}
    (h : Progress ⟨incoming, script⟩ side') (hscript : side'.script = [])
    (hready : incoming.length ≤ readyCount script) : side'.incoming = [] := by
  rcases h.bytes_read with hnil | hread
  · exact hnil
  · have hzero : readyCount [] = 0 := rfl
    rw [hscript] at hread
    dsimp only at hread
    exact List.length_eq_zero_iff.mp (by omega)

theorem Open.of_suffix {script script' : List ReadEvent} (h : Open script)
    (hs : script' <:+ script) : Open script' := fun e he => h e (hs.subset he)

theorem readyCount_cons (e : ReadEvent) (script : List ReadEvent) :
    readyCount (e :: script) = readyCount script + (match e with
      | .ready n => if 0 < n then 1 else 0
      | _ => 0) := by
  cases e with
  | ready n => simp [readyCount, List.countP_cons]
  | wouldBlock => simp [readyCount]
  | gone => simp [readyCount]

/-- A read on an open descriptor brings some of the next bytes, or there is nothing to bring. -/
theorem wsLowLevelRecv_cases {e : ReadEvent} (he : e ≠ .gone) (incoming : List UInt8)
    (len : Nat) (hlen : 0 < len) (script : List ReadEvent) :
    (wsLowLevelRecv incoming len e = .again ∧ Progress ⟨incoming, e :: script⟩ ⟨incoming, script⟩) ∨
    (∃ bs rest, wsLowLevelRecv incoming len e = .bytes bs ∧ incoming = bs ++ rest ∧
      bs.length ≤ len ∧ Progress ⟨incoming, e :: script⟩ ⟨rest, script⟩) := by
  have hsuffix : script <:+ e :: script := List.suffix_cons e script
  have hcount := readyCount_cons e script
  cases e with
  | gone => exact absurd rfl he
  | wouldBlock =>
      exact .inl ⟨rfl, hsuffix, Nat.le_refl _, .inr (by dsimp only at hcount ⊢; omega)⟩
  | ready n =>
      dsimp only at hcount
      by_cases hnil : incoming.take (min n len) = []
      · refine .inl ⟨if_pos hnil, hsuffix, Nat.le_refl _, ?_⟩
        rcases List.take_eq_nil_iff.mp hnil with hmin | hin
        · refine .inr ?_
          rw [if_neg (by omega)] at hcount
          dsimp only
          omega
        · exact .inl hin
      · have hpos := List.length_pos_iff.mpr hnil
        have hle := List.length_take_le (min n len) incoming
        have hlendrop : (incoming.drop (min n len)).length = incoming.length - min n len :=
          List.length_drop
        have hlentake : (incoming.take (min n len)).length = min (min n len) incoming.length :=
          List.length_take
        refine .inr ⟨_, _, if_neg hnil, (List.take_append_drop _ _).symm, by omega, hsuffix, ?_,
          .inr ?_⟩
        · dsimp only
          omega
        · rw [if_pos (by omega)] at hcount
          dsimp only
          omega

/-! ## One call -/

/-- What the caller is given for the frame: the payload pointer is null if the payload is
empty, and otherwise points at it and a NUL. -/
def ClientFrame.handedOut (f : ClientFrame) : RecvStatus :=
  .ok f.opcode (if f.payload = [] then none else some (f.payload ++ [0])) f.payload.length

theorem unmaskPayload_spec (h : Awaits f st rest) (hst : st.state = .complete) :
    rest = [] ∧ st.opcode = f.opcode ∧ st.payloadLen = f.payload.length ∧
      st.unmaskPayload = some (if f.payload = [] then none else some (f.payload ++ [0])) := by
  cases h with
  | header got state_eq => exact absurd (state_eq.symm.trans hst) (by decide)
  | extLen got state_eq => exact absurd (state_eq.symm.trans hst) (by decide)
  | mask got state_eq => exact absurd (state_eq.symm.trans hst) (by decide)
  | payload got state_eq => exact absurd (state_eq.symm.trans hst) (by decide)
  | empty _ opcode_eq payloadLen_eq nil payload_eq =>
      refine ⟨rfl, opcode_eq, payloadLen_eq, ?_⟩
      rw [WsRecvState.unmaskPayload, payload_eq, if_pos nil]
  | @filled block _ opcode_eq payloadLen_eq ne_nil mask_eq payload_eq block_length block_take =>
      refine ⟨rfl, opcode_eq, payloadLen_eq, ?_⟩
      have hpos := List.length_pos_iff.mpr ne_nil
      have hstore : store block f.payload.length 0 = some (f.body ++ [0]) := by
        rw [store_last block_length, block_take]
      rw [WsRecvState.unmaskPayload, payload_eq, if_neg ne_nil]
      simp only [payloadLen_eq, if_pos hpos, hstore, mask_eq, Option.bind_eq_bind,
        Option.bind_some, f.unmaskLoop_body]

/-- **One call's loop.** In the middle of the frame `f`, with the bytes `more` behind it, the
loop stops when the descriptor has nothing, or with the frame complete. The induction is on the
script: every turn uses up one of its events. -/
theorem recvLoop_spec (malloc : (n : Nat) → Buffer n) {script : List ReadEvent}
    (hopen : Open script) (more : List UInt8) (h : Awaits f st rest) :
    ∃ t st' rest' script',
      recvLoop malloc script st (rest ++ more) = some (t, st', ⟨rest' ++ more, script'⟩) ∧
      Awaits f st' rest' ∧ Progress ⟨rest ++ more, script⟩ ⟨rest' ++ more, script'⟩ ∧
      (t = .again ∧ st'.state ≠ .complete ∨ t = .next ∧ st'.state = .complete) ∧
      (st.state ≠ .complete → script ≠ [] → script'.length < script.length) := by
  induction script generalizing st rest with
  | nil =>
      refine ⟨_, st, rest, [], rfl, h, .refl _, ?_, fun _ hne => absurd rfl hne⟩
      by_cases hst : st.state = .complete
      · exact .inr ⟨if_pos hst, hst⟩
      · exact .inl ⟨if_neg hst, hst⟩
  | cons e script ih =>
      by_cases hst : st.state = .complete
      · exact ⟨.next, st, rest, e :: script, by rw [recvLoop, if_pos hst], h, .refl _,
          .inr ⟨rfl, hst⟩, fun hne _ => absurd hst hne⟩
      · obtain ⟨hneed, hle⟩ := h.needed hst
        have hlt : script.length < (e :: script).length := by
          rw [List.length_cons]
          omega
        rcases wsLowLevelRecv_cases (hopen e List.mem_cons_self) (rest ++ more) st.needed hneed
          script with ⟨hrecv, hprog⟩ | ⟨bs, left, hrecv, happ, hbs, hprog⟩
        · exact ⟨.again, st, rest, script, by rw [recvLoop, if_neg hst, hrecv], h, hprog,
            .inl ⟨rfl, hst⟩, fun _ _ => hlt⟩
        · -- the bytes read are bytes of the frame
          obtain ⟨rest', rfl, rfl⟩ := split_piece happ (by omega)
          obtain ⟨st', t, hturn, hawaits, ht⟩ := turn_keeps malloc h hst hbs
          have hdrop : (bs ++ rest' ++ more).drop bs.length = rest' ++ more := by
            rw [List.append_assoc, List.drop_left]
          rcases ht with rfl | ⟨rfl, hst'⟩
          · obtain ⟨t, st'', rest'', script'', hloop, hawaits', hprog', ht', _⟩ :=
              ih (hopen.of_suffix (List.suffix_cons e script)) hawaits
            have hshort := hprog'.script_suffix.length_le
            dsimp only at hshort
            refine ⟨t, st'', rest'', script'', ?_, hawaits', hprog.trans hprog', ht',
              fun _ _ => by omega⟩
            simp only [recvLoop, if_neg hst, hrecv, hturn, hdrop, hloop]
          · refine ⟨.again, st', rest', script, ?_, hawaits, hprog, .inl ⟨rfl, hst'⟩,
              fun _ _ => hlt⟩
            simp only [recvLoop, if_neg hst, hrecv, hturn, hdrop]

/-- The bytes of a list of frames. -/
def encodeAll (frames : List ClientFrame) : List UInt8 := frames.flatMap ClientFrame.encode

/-- The frames `todo` are still to be handed out: the stream is at its end, or in the middle of
the first of them. -/
inductive Behind : List ClientFrame → WsRecvState → List UInt8 → Prop where
  | done : Behind [] .cleared []
  | inside {f : ClientFrame} {fs : List ClientFrame} {st : WsRecvState} {rest : List UInt8}
      (awaits : Awaits f st rest) (incomplete : st.state ≠ .complete) :
      Behind (f :: fs) st (rest ++ encodeAll fs)

theorem behind_cleared (frames : List ClientFrame) :
    Behind frames .cleared (encodeAll frames) := by
  cases frames with
  | nil => exact .done
  | cons f fs => exact .inside (awaits_cleared f) (by decide)

/-- Behind the last frame every read would block. -/
theorem recvLoop_done (malloc : (n : Nat) → Buffer n) {script : List ReadEvent}
    (hopen : Open script) :
    ∃ script', recvLoop malloc script .cleared [] = some (.again, .cleared, ⟨[], script'⟩) ∧
      script' <:+ script ∧ (script ≠ [] → script'.length < script.length) := by
  cases script with
  | nil => exact ⟨[], rfl, List.suffix_refl _, fun h => absurd rfl h⟩
  | cons e script =>
      refine ⟨script, ?_, List.suffix_cons e script, fun _ => by rw [List.length_cons]; omega⟩
      cases e with
      | gone => exact absurd rfl (hopen _ List.mem_cons_self)
      | wouldBlock => rfl
      | ready n =>
          have hrecv : wsLowLevelRecv [] WsRecvState.cleared.needed (.ready n) = .again :=
            if_pos List.take_nil
          rw [recvLoop, if_neg (by decide), hrecv]

/-- **One call** hands out the frame the receiver is in the middle of, or keeps what it has got
of it for the next call. -/
theorem recvFrame_spec (malloc : (n : Nat) → Buffer n) {fd : Int} (hfd : 0 ≤ fd ∧ fd < maxFds)
    {states : RecvStates} {side : RecvSide} {todo : List ClientFrame} (hopen : Open side.script)
    (h : Behind todo ((states fd).getD .cleared) side.incoming) :
    ∃ r states' side' todo',
      halmosWsRecvFrame malloc fd states side = some (r, states', side') ∧
      Behind todo' ((states' fd).getD .cleared) side'.incoming ∧ Progress side side' ∧
      (side.script ≠ [] → side'.script.length < side.script.length) ∧
      (r = .again ∧ todo' = todo ∨ ∃ f, todo = f :: todo' ∧ r = f.handedOut) := by
  have hget : wsGetOrCreateRecvState states fd = some ((states fd).getD .cleared) :=
    if_neg (by omega)
  have hset (st : WsRecvState) : ((states.set fd st) fd).getD .cleared = st := by
    rw [RecvStates.set, Function.update_self, Option.getD_some]
  obtain ⟨incoming, script⟩ := side
  dsimp only at hopen h ⊢
  unfold halmosWsRecvFrame
  rw [hget]
  generalize (states fd).getD .cleared = st at h
  cases h with
  | done =>
      obtain ⟨script', hloop, hsuffix, hshort⟩ := recvLoop_done malloc hopen
      simp only [hloop]
      refine ⟨_, _, _, [], rfl, ?_, ⟨hsuffix, Nat.le_refl _, .inl rfl⟩, hshort,
        .inl ⟨rfl, rfl⟩⟩
      rw [hset]
      exact .done
  | @inside f fs _ rest awaits incomplete =>
      obtain ⟨t, st', rest', script', hloop, hawaits, hprog, ht, hshort⟩ :=
        recvLoop_spec malloc hopen (encodeAll fs) awaits
      simp only [hloop]
      rcases ht with ⟨rfl, hst⟩ | ⟨rfl, hst⟩
      · refine ⟨_, _, _, f :: fs, rfl, ?_, hprog, hshort incomplete, .inl ⟨rfl, rfl⟩⟩
        rw [hset]
        exact .inside hawaits hst
      · obtain ⟨rfl, hop, hlen, hunmask⟩ := unmaskPayload_spec hawaits hst
        simp only [hunmask, Option.bind_eq_bind, Option.bind_some]
        refine ⟨_, _, _, fs, rfl, ?_, hprog, hshort incomplete, .inr ⟨f, rfl, ?_⟩⟩
        · rw [hset]
          exact behind_cleared fs
        · rw [hop, hlen]
          rfl

/-! ## Any number of calls -/

/-- The frames whose last byte is among the first `n` bytes of the stream. -/
def framesWithin : List ClientFrame → Nat → List ClientFrame
  | [], _ => []
  | f :: fs, n =>
      if f.encode.length ≤ n then f :: framesWithin fs (n - f.encode.length) else []

theorem encodeAll_append (fs gs : List ClientFrame) :
    encodeAll (fs ++ gs) = encodeAll fs ++ encodeAll gs := List.flatMap_append

theorem encodeAll_cons (f : ClientFrame) (fs : List ClientFrame) :
    encodeAll (f :: fs) = f.encode ++ encodeAll fs := List.flatMap_cons

theorem framesWithin_append (done todo : List ClientFrame) (n : Nat) :
    framesWithin (done ++ todo) ((encodeAll done).length + n) = done ++ framesWithin todo n := by
  induction done with
  | nil => simp [encodeAll]
  | cons f done ih =>
      rw [List.cons_append, encodeAll_cons, List.length_append, framesWithin, if_pos (by omega),
        show f.encode.length + (encodeAll done).length + n - f.encode.length
          = (encodeAll done).length + n by omega, ih, List.cons_append]

theorem framesWithin_isPrefix (frames : List ClientFrame) (n : Nat) :
    framesWithin frames n <+: frames := by
  induction frames generalizing n with
  | nil => exact List.prefix_refl _
  | cons f frames ih =>
      unfold framesWithin
      split
      · exact List.prefix_cons_inj f |>.mpr (ih _)
      · exact List.nil_prefix

/-- What the position in the stream says about the frames handed out. -/
theorem Behind.framesWithin {done todo : List ClientFrame} {st : WsRecvState}
    {incoming : List UInt8} (h : Behind todo st incoming) :
    framesWithin (done ++ todo) ((encodeAll (done ++ todo)).length - incoming.length) = done := by
  rw [encodeAll_append, List.length_append]
  cases h with
  | done =>
      have hall := framesWithin_append done [] 0
      simpa [encodeAll, WebSocket.framesWithin] using hall
  | @inside f fs _ rest awaits incomplete =>
      have hle := awaits.length_le
      have hneed := awaits.needed incomplete
      rw [encodeAll_cons, List.length_append, List.length_append,
        show (encodeAll done).length + (f.encode.length + (encodeAll fs).length)
            - (rest.length + (encodeAll fs).length)
          = (encodeAll done).length + (f.encode.length - rest.length) by omega,
        framesWithin_append, WebSocket.framesWithin, if_neg (by omega), List.append_nil]

theorem Behind.incoming_nil {todo : List ClientFrame} {st : WsRecvState}
    (h : Behind todo st []) : todo = [] := by
  generalize hin : ([] : List UInt8) = incoming at h
  cases h with
  | done => rfl
  | inside awaits incomplete =>
      have hneed := awaits.needed incomplete
      have hlen := congrArg List.length hin
      rw [List.length_append, List.length_nil] at hlen
      omega

/-- **Any number of calls.** They hand out the next frames, in order, and end behind them. -/
theorem recvCalls_spec (malloc : (n : Nat) → Buffer n) {fd : Int} (hfd : 0 ≤ fd ∧ fd < maxFds)
    (calls : Nat) {states : RecvStates} (side : RecvSide) {todo : List ClientFrame}
    (hopen : Open side.script) (h : Behind todo ((states fd).getD .cleared) side.incoming) :
    ∃ results states' side' done todo',
      recvCalls malloc fd calls states side = some (results, states', side') ∧
      todo = done ++ todo' ∧ received results = done.map ClientFrame.handedOut ∧
      .fatal ∉ results ∧ Behind todo' ((states' fd).getD .cleared) side'.incoming ∧
      Progress side side' ∧ (side.script.length ≤ calls → side'.script = []) := by
  induction calls generalizing states side todo with
  | zero =>
      exact ⟨[], states, side, [], todo, rfl, rfl, rfl, List.not_mem_nil, h, .refl _,
        fun hle => List.length_eq_zero_iff.mp (Nat.le_zero.mp hle)⟩
  | succ calls ih =>
      obtain ⟨r, states₁, side₁, todo₁, hcall, hbehind, hprog, hshort, hr⟩ :=
        recvFrame_spec malloc hfd hopen h
      obtain ⟨results, states', side', done, todo', hcalls, htodo, hrec, hfatal, hbehind',
        hprog', hempty⟩ := ih side₁ (hopen.of_suffix hprog.script_suffix) hbehind
      have hrun : recvCalls malloc fd (calls + 1) states side
          = some (r :: results, states', side') := by
        simp only [recvCalls, hcall, hcalls, Option.bind_eq_bind, Option.bind_some]
      have hended : side.script.length ≤ calls + 1 → side'.script = [] := by
        intro hle
        by_cases hnil : side.script = []
        · have hsuffix := (hprog.trans hprog').script_suffix
          rw [hnil] at hsuffix
          exact List.suffix_nil.mp hsuffix
        · have hlt := hshort hnil
          exact hempty (by omega)
      rcases hr with ⟨rfl, rfl⟩ | ⟨f, rfl, rfl⟩
      · refine ⟨_, _, _, done, todo', hrun, htodo, hrec, ?_, hbehind', hprog.trans hprog', hended⟩
        exact List.not_mem_cons_of_ne_of_not_mem (by decide) hfatal
      · refine ⟨_, _, _, f :: done, todo', hrun, by rw [htodo, List.cons_append], ?_, ?_,
          hbehind', hprog.trans hprog', hended⟩
        · rw [List.map_cons, ← hrec]
          rfl
        · exact List.not_mem_cons_of_ne_of_not_mem (by simp [ClientFrame.handedOut]) hfatal

/-- **Every frame a client sends is received as it was sent.** On a descriptor without a frame
begun, whatever the cuts between reads and the reads that would block, no call returns
`WS_RECV_FATAL` and none writes outside a buffer; the frames handed out are those whose last
byte has been read, with their opcodes and their payloads, in order; and they are all the
frames once the reads have brought the whole stream. -/
theorem recvCalls_frames (malloc : (n : Nat) → Buffer n) (fd : Int) (hfd : 0 ≤ fd ∧ fd < maxFds)
    (states : RecvStates) (hidle : (states fd).getD .cleared = .cleared)
    (frames : List ClientFrame) (script : List ReadEvent) (hopen : Open script) (calls : Nat) :
    ∃ results states' side',
      recvCalls malloc fd calls states ⟨encodeAll frames, script⟩
        = some (results, states', side') ∧
      .fatal ∉ results ∧
      received results
        = (framesWithin frames ((encodeAll frames).length - side'.incoming.length)).map
            ClientFrame.handedOut ∧
      (script.length ≤ calls → (encodeAll frames).length ≤ readyCount script →
        received results = frames.map ClientFrame.handedOut) := by
  have hstart : Behind frames ((states fd).getD .cleared) (encodeAll frames) := by
    rw [hidle]
    exact behind_cleared frames
  obtain ⟨results, states', side', done, todo', hrun, rfl, hrec, hfatal, hbehind, hprog, hended⟩ :=
    recvCalls_spec malloc hfd calls ⟨encodeAll frames, script⟩ hopen hstart
  refine ⟨results, states', side', hrun, hfatal, ?_, ?_⟩
  · rw [hbehind.framesWithin]
    exact hrec
  · intro hcalls hready
    rw [hprog.exhausted (hended hcalls) hready] at hbehind
    rw [hbehind.incoming_nil, List.append_nil]
    exact hrec

/-- A ping and a text frame, delivered a few bytes at a time with a read that blocks. -/
theorem recvCalls_frames_two :
    let ping : ClientFrame := ⟨wsOpPing, [9, 9, 9, 9], [], by decide, rfl, by decide, by decide⟩
    let text : ClientFrame :=
      ⟨wsOpText, [1, 2, 3, 4], ascii "hello", by decide, by decide, by decide, by decide⟩
    let script := [.ready 7, .ready 1, .wouldBlock, .ready 1, .ready 3, .ready 3, .ready 2,
      .ready 9]
    ∃ results states' side',
      recvCalls .zeros 7 9 (fun _ => none) ⟨encodeAll [ping, text], script⟩
        = some (results, states', side') ∧
      .fatal ∉ results ∧
      received results
        = (framesWithin [ping, text]
            ((encodeAll [ping, text]).length - side'.incoming.length)).map
            ClientFrame.handedOut ∧
      (script.length ≤ 9 → (encodeAll [ping, text]).length ≤ readyCount script →
        received results = [ping, text].map ClientFrame.handedOut) :=
  recvCalls_frames .zeros 7 (by decide) (fun _ => none) rfl _ _
    (by unfold Open; simp) 9

/-- The results of these calls. -/
example :
    let stream := [0x89, 0x80, 9, 9, 9, 9, 0x81, 0x85, 1, 2, 3, 4, 0x69, 0x67, 0x6F, 0x68, 0x6E]
    let script := [.ready 7, .ready 4, .ready 1, .wouldBlock, .ready 1, .ready 3, .ready 3,
      .ready 2, .ready 9]
    ((recvCalls .zeros 7 7 (fun _ => none) ⟨stream, script⟩).map Prod.fst)
      = some [.ok 9 none 0, .again, .again, .again, .again,
          .ok 1 (some (ascii "hello" ++ [0])) 5, .again] := by
  decide

end Halmos.WebSocket
