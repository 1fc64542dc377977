import Halmos.WebSocket.Frame

set_option autoImplicit false

/-! # The WebSocket receiver

`halmos_ws_recv_frame` of `halmos_ws_system.c` with the `ws_recv_state_t` it keeps for every
descriptor. A call reads as far as the descriptor has bytes and leaves the rest of the frame to
the next call. The environment is the bytes that are still to come and a script of what the
descriptor does with each read. The four buffers are checked arrays: `none` is a write outside
one of them. `malloc` gives a block of the size asked for with whatever bytes are in it, and
`calloc` a cleared one; both are taken to succeed.
-/

namespace Halmos.WebSocket

/-- `MAX_FDS`. -/
def maxFds : Int := 65536

/-- What the descriptor does with one read: it has up to `n` bytes, it would block, or it
is closed or broken. -/
inductive ReadEvent where
  | ready (n : Nat)
  | wouldBlock
  | gone
  deriving DecidableEq, Repr

/-- What `ws_low_level_recv` returns: bytes, `-1` with `EAGAIN`, or anything else that is not
positive. -/
inductive ReadResult where
  | bytes (bs : List UInt8)
  | again
  | fatal
  deriving DecidableEq, Repr

/-- `ws_low_level_recv(fd, buf, len)` on a descriptor with the bytes `incoming` still to come. -/
def wsLowLevelRecv (incoming : List UInt8) (len : Nat) : ReadEvent → ReadResult
  | .ready n =>
      let bs := incoming.take (min n len)
      if bs = [] then .again else .bytes bs
  | .wouldBlock => .again
  | .gone => .fatal

/-- `ws_state_t`. -/
inductive WsState where
  | header
  | extLen
  | mask
  | payload
  | complete
  deriving DecidableEq, Repr

/-- `ws_recv_state_t`. -/
structure WsRecvState where
  state : WsState
  header : Buffer 2
  headerBytesRead : Nat
  extLenBuf : Buffer 8
  extLenExpected : Nat
  extLenBytesRead : Nat
  mask : Buffer 4
  maskBytesRead : Nat
  fin : Bool
  opcode : Nat
  masked : Bool
  payloadLen : Nat
  payload : Option (List UInt8)
  payloadBytesRead : Nat
  deriving DecidableEq

/-- A state cleared by `calloc` or `memset`, with `state = WS_STATE_HEADER`. -/
def WsRecvState.cleared : WsRecvState where
  state := .header
  header := .zeros 2
  headerBytesRead := 0
  extLenBuf := .zeros 8
  extLenExpected := 0
  extLenBytesRead := 0
  mask := .zeros 4
  maskBytesRead := 0
  fin := false
  opcode := 0
  masked := false
  payloadLen := 0
  payload := none
  payloadBytesRead := 0

/-- `ws_recv_status_t`, with what the output parameters get. -/
inductive RecvStatus where
  | ok (opcode : Nat) (payload : Option (List UInt8)) (len : Nat)
  | again
  | fatal
  deriving DecidableEq, Repr

/-- How one turn of the loop ends: it returns, or the loop goes on. -/
inductive Turn where
  | again
  | fatal
  | next
  deriving DecidableEq, Repr

namespace WsRecvState

/-- The number of bytes the next read asks for. -/
def needed (st : WsRecvState) : Nat :=
  match st.state with
  | .header => 2 - st.headerBytesRead
  | .extLen => st.extLenExpected - st.extLenBytesRead
  | .mask => 4 - st.maskBytesRead
  | .payload => st.payloadLen - st.payloadBytesRead
  | .complete => 0

/-- `STEP 1`, after a read of `bs`. -/
def readHeader (st : WsRecvState) (bs : List UInt8) : Option (WsRecvState × Turn) := do
  let header ← st.header.copy st.headerBytesRead bs
  let st := { st with header := header, headerBytesRead := st.headerBytesRead + bs.length }
  if st.headerBytesRead < 2 then some (st, .again)
  else
    let b0 := (header.bytes.getD 0 0).toNat
    let b1 := (header.bytes.getD 1 0).toNat
    let st := { st with
      fin := b0 &&& 0x80 != 0
      opcode := b0 &&& 0x0F
      masked := b1 &&& 0x80 != 0
      payloadLen := b1 &&& 0x7F }
    if st.fin = false then some (st, .fatal)
    else if 0x08 ≤ st.opcode ∧ st.opcode ≤ 0x0A ∧ 125 < st.payloadLen then some (st, .fatal)
    else if st.masked = false then some (st, .fatal)
    else if st.payloadLen = 126 then
      some ({ st with extLenExpected := 2, state := .extLen }, .next)
    else if st.payloadLen = 127 then
      some ({ st with extLenExpected := 8, state := .extLen }, .next)
    else some ({ st with state := .mask }, .next)

/-- `STEP 2`, after a read of `bs`. -/
def readExtLen (st : WsRecvState) (bs : List UInt8) : Option (WsRecvState × Turn) := do
  let buf ← st.extLenBuf.copy st.extLenBytesRead bs
  let st := { st with extLenBuf := buf, extLenBytesRead := st.extLenBytesRead + bs.length }
  if st.extLenBytesRead < st.extLenExpected then some (st, .again)
  else
    let st := { st with
      payloadLen := if st.extLenExpected = 2 then bigEndian (buf.bytes.take 2)
        else bigEndian (buf.bytes.take 8) }
    if maxWsPayload < st.payloadLen then some (st, .fatal)
    else some ({ st with state := .mask }, .next)

/-- `STEP 3`, after a read of `bs`. -/
def readMask (malloc : (n : Nat) → Buffer n) (st : WsRecvState) (bs : List UInt8) :
    Option (WsRecvState × Turn) := do
  let mask ← st.mask.copy st.maskBytesRead bs
  let st := { st with mask := mask, maskBytesRead := st.maskBytesRead + bs.length }
  if st.maskBytesRead < 4 then some (st, .again)
  else if 0 < st.payloadLen then
    some ({ st with payload := some (malloc (st.payloadLen + 1)).bytes, state := .payload }, .next)
  else some ({ st with state := .complete }, .next)

/-- `STEP 4`, after a read of `bs`. -/
def readPayload (st : WsRecvState) (bs : List UInt8) : Option (WsRecvState × Turn) := do
  let block ← st.payload
  let block ← writeBytes block st.payloadBytesRead bs
  let st := { st with
    payload := some block, payloadBytesRead := st.payloadBytesRead + bs.length }
  if st.payloadBytesRead < st.payloadLen then some (st, .again)
  else some ({ st with state := .complete }, .next)

/-- The `switch` of the loop, after a read of `bs`. -/
def turn (malloc : (n : Nat) → Buffer n) (st : WsRecvState) (bs : List UInt8) :
    Option (WsRecvState × Turn) :=
  match st.state with
  | .header => st.readHeader bs
  | .extLen => st.readExtLen bs
  | .mask => st.readMask malloc bs
  | .payload => st.readPayload bs
  | .complete => some (st, .next)

/-- `Unmask Payload`: the NUL behind the payload, then the loop over its bytes. -/
def unmaskPayload (st : WsRecvState) : Option (Option (List UInt8)) :=
  match st.payload with
  | none => some none
  | some block =>
      if 0 < st.payloadLen then do
        let block ← store block st.payloadLen 0
        let block ← unmaskLoop st.mask.bytes st.payloadLen block
        some (some block)
      else some (some block)

end WsRecvState

/-- The read side of a descriptor: the bytes still to come, and what the reads will meet. When
the script is used up nothing is there any more, and a read would block. -/
structure RecvSide where
  incoming : List UInt8
  script : List ReadEvent
  deriving DecidableEq, Repr

/-- `while (st->state != WS_STATE_COMPLETE)`; `.next` says that the loop has been left. -/
def recvLoop (malloc : (n : Nat) → Buffer n) :
    List ReadEvent → WsRecvState → List UInt8 → Option (Turn × WsRecvState × RecvSide)
  | [], st, incoming =>
      some (if st.state = .complete then .next else .again, st, ⟨incoming, []⟩)
  | e :: script, st, incoming =>
      if st.state = .complete then some (.next, st, ⟨incoming, e :: script⟩)
      else
        match wsLowLevelRecv incoming st.needed e with
        | .again => some (.again, st, ⟨incoming, script⟩)
        | .fatal => some (.fatal, st, ⟨incoming, script⟩)
        | .bytes bs =>
            match st.turn malloc bs with
            | none => none
            | some (st', .next) => recvLoop malloc script st' (incoming.drop bs.length)
            | some (st', t) => some (t, st', ⟨incoming.drop bs.length, script⟩)

/-- `g_recv_states`. -/
abbrev RecvStates : Type := Int → Option WsRecvState

/-- `ws_get_or_create_recv_state(fd)`. -/
def wsGetOrCreateRecvState (states : RecvStates) (fd : Int) : Option WsRecvState :=
  if fd < 0 ∨ maxFds ≤ fd then none else some ((states fd).getD .cleared)

/-- `g_recv_states[fd]` afterwards. -/
def RecvStates.set (states : RecvStates) (fd : Int) (st : WsRecvState) : RecvStates :=
  Function.update states fd (some st)

/-- `halmos_ws_recv_frame(fd, &opcode, &payload, &len)`. -/
def halmosWsRecvFrame (malloc : (n : Nat) → Buffer n) (fd : Int) (states : RecvStates)
    (side : RecvSide) : Option (RecvStatus × RecvStates × RecvSide) :=
  match wsGetOrCreateRecvState states fd with
  | none => some (.fatal, states, side)
  | some st =>
      match recvLoop malloc side.script st side.incoming with
      | none => none
      | some (.again, st, side) => some (.again, states.set fd st, side)
      | some (.fatal, st, side) => some (.fatal, states.set fd st, side)
      | some (.next, st, side) => do
          let payload ← st.unmaskPayload
          some (.ok st.opcode payload st.payloadLen, states.set fd .cleared, side)

/-- As many calls as the event loop makes, and the results in order. -/
def recvCalls (malloc : (n : Nat) → Buffer n) (fd : Int) :
    Nat → RecvStates → RecvSide → Option (List RecvStatus × RecvStates × RecvSide)
  | 0, states, side => some ([], states, side)
  | n + 1, states, side => do
      let (r, states, side) ← halmosWsRecvFrame malloc fd states side
      let (rs, states, side) ← recvCalls malloc fd n states side
      some (r :: rs, states, side)

/-- The results that hand out a frame. -/
def received (results : List RecvStatus) : List RecvStatus :=
  results.filter (fun r => match r with
    | .ok .. => true
    | _ => false)

end Halmos.WebSocket
