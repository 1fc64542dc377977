import Halmos.WebSocket.ReceiveRun

set_option autoImplicit false

/-! # Dispatching what has been received

`ws_system_dispatch`, the caller of the receiver over HTTP/1.1: one frame a call, handed on by
its opcode. A run of calls on the frames of a client hands on its text messages in order.
-/

namespace Halmos.WebSocket

/-- The calls a received frame leads to. A message is a block with its length. -/
inductive WsCall where
  | wsSystemOnMessage (data : List UInt8) (len : Nat)
  | wsSystemSendPong
  | wsRegistryUpdateActivity
  deriving DecidableEq, Repr

/-- `ws_system_dispatch` after `halmos_ws_recv_frame` has returned: its return value and the
calls it makes. -/
def dispatchFrame : RecvStatus → Int × List WsCall
  | .again => (1, [])
  | .fatal => (0, [])
  | .ok opcode payload len =>
      if opcode = wsOpText then
        match payload with
        | some data => (1, [.wsSystemOnMessage data len])
        | none => (1, [])
      else if opcode = wsOpBin then (1, [])
      else if opcode = wsOpPing then (1, [.wsSystemSendPong])
      else if opcode = wsOpPong then (1, [.wsRegistryUpdateActivity])
      else if opcode = wsOpClose then (0, [])
      else (1, [])

/-- At most `n` calls of `ws_system_dispatch` on a descriptor: the caller gives the connection
up when one returns `0`. -/
def dispatchCalls (malloc : (n : Nat) → Buffer n) (fd : Int) :
    Nat → RecvStates → RecvSide → Option (List WsCall)
  | 0, _, _ => some []
  | n + 1, states, side => do
      let (r, states, side) ← halmosWsRecvFrame malloc fd states side
      let (ret, calls) := dispatchFrame r
      if ret = 0 then some calls
      else
        let more ← dispatchCalls malloc fd n states side
        some (calls ++ more)

/-- As long as no result gives the connection up, dispatching is receiving and handing on. -/
theorem dispatchCalls_eq (malloc : (n : Nat) → Buffer n) (fd : Int) {n : Nat}
    {states states' : RecvStates} {side side' : RecvSide} {results : List RecvStatus}
    (hrun : recvCalls malloc fd n states side = some (results, states', side'))
    (hkeep : ∀ r ∈ results, (dispatchFrame r).1 ≠ 0) :
    dispatchCalls malloc fd n states side
      = some (results.flatMap (fun r => (dispatchFrame r).2)) := by
  induction n generalizing states side results with
  | zero =>
      simp only [recvCalls, Option.some.injEq, Prod.mk.injEq] at hrun
      rw [← hrun.1]
      rfl
  | succ n ih =>
      rw [recvCalls] at hrun
      obtain ⟨⟨r, states₁, side₁⟩, hcall, hrun⟩ := Option.bind_eq_some_iff.mp hrun
      obtain ⟨⟨rs, states₂, side₂⟩, hcalls, hrun⟩ := Option.bind_eq_some_iff.mp hrun
      simp only [Option.some.injEq, Prod.mk.injEq] at hrun
      obtain ⟨rfl, rfl, rfl⟩ := hrun
      have hrest := ih hcalls (fun r' hr' => hkeep r' (List.mem_cons_of_mem r hr'))
      have hne := hkeep r List.mem_cons_self
      simp only [dispatchCalls, hcall, hrest, Option.bind_eq_bind, Option.bind_some, if_neg hne,
        List.flatMap_cons]

/-- The message of a text frame, as the handler of messages is given it. -/
def ClientFrame.message (f : ClientFrame) : WsCall :=
  .wsSystemOnMessage (f.payload ++ [0]) f.payload.length

/-- What receiving the text frames hands on: the messages, less the empty ones, for which the
receiver has no block. -/
def http1Messages (frames : List ClientFrame) : List WsCall :=
  (frames.filter (fun f => f.payload ≠ [])).map ClientFrame.message

theorem dispatchFrame_handedOut {f : ClientFrame} (hf : f.opcode = wsOpText) :
    dispatchFrame f.handedOut = (1, if f.payload = [] then [] else [f.message]) := by
  unfold ClientFrame.handedOut dispatchFrame
  simp only [if_pos hf]
  by_cases hnil : f.payload = []
  · simp only [if_pos hnil]
  · simp only [if_neg hnil]
    rfl

theorem flatMap_dispatch_handedOut {frames : List ClientFrame}
    (htext : ∀ f ∈ frames, f.opcode = wsOpText) :
    (frames.map ClientFrame.handedOut).flatMap (fun r => (dispatchFrame r).2)
      = http1Messages frames := by
  induction frames with
  | nil => rfl
  | cons f frames ih =>
      have hrest := ih (fun g hg => htext g (List.mem_cons_of_mem f hg))
      rw [List.map_cons, List.flatMap_cons, hrest,
        dispatchFrame_handedOut (htext f List.mem_cons_self)]
      by_cases hnil : f.payload = [] <;> simp [http1Messages, hnil]

/-- Only the results with a frame lead to calls. -/
theorem flatMap_dispatch_received (results : List RecvStatus) :
    results.flatMap (fun r => (dispatchFrame r).2)
      = (received results).flatMap (fun r => (dispatchFrame r).2) := by
  induction results with
  | nil => rfl
  | cons r results ih =>
      rw [List.flatMap_cons, ih]
      cases r <;> rfl

/-- **The messages over HTTP/1.1.** Reads that bring the whole stream of a client's text frames,
cut anyhow, hand on its messages, in order. -/
theorem dispatchCalls_text (malloc : (n : Nat) → Buffer n) {fd : Int}
    (hfd : 0 ≤ fd ∧ fd < maxFds) {states : RecvStates}
    (hidle : (states fd).getD .cleared = .cleared) {frames : List ClientFrame}
    (htext : ∀ f ∈ frames, f.opcode = wsOpText) {script : List ReadEvent} (hopen : Open script)
    {calls : Nat} (hcalls : script.length ≤ calls)
    (hready : (encodeAll frames).length ≤ readyCount script) :
    dispatchCalls malloc fd calls states ⟨encodeAll frames, script⟩
      = some (http1Messages frames) := by
  have hstart : Behind frames ((states fd).getD .cleared) (encodeAll frames) := by
    rw [hidle]
    exact behind_cleared frames
  obtain ⟨results, states', side', done, todo', hrun, rfl, hrec, hfatal, hbehind, hprog, hended⟩ :=
    recvCalls_spec malloc hfd calls ⟨encodeAll frames, script⟩ hopen hstart
  rw [hprog.exhausted (hended hcalls) hready] at hbehind
  obtain rfl := hbehind.incoming_nil
  rw [List.append_nil] at htext hrun ⊢
  have hkeep : ∀ r ∈ results, (dispatchFrame r).1 ≠ 0 := by
    intro r hr
    cases r with
    | again => decide
    | fatal => exact absurd hr hfatal
    | ok opcode payload len =>
        have hmem : .ok opcode payload len ∈ received results :=
          List.mem_filter.mpr ⟨hr, rfl⟩
        rw [hrec] at hmem
        obtain ⟨f, hf, hout⟩ := List.mem_map.mp hmem
        rw [← hout, dispatchFrame_handedOut (htext f hf)]
        exact one_ne_zero
  rw [dispatchCalls_eq malloc fd hrun hkeep, flatMap_dispatch_received, hrec,
    flatMap_dispatch_handedOut htext]

end Halmos.WebSocket
