import Halmos.WebSocket.Tunnel

set_option autoImplicit false

/-! # When the two transports agree

A client's frames are cut into DATA frames. `dataSteps` lists the DATA frames, each with the
bytes carried over of a frame begun before it and the WebSocket frames that begin in it. The
tunnel passes on at most the first of these (`tunnelCalls_eq`), and the receiver of HTTP/1.1
passes on all that are not empty, so the messages agree exactly when no other frame has one.
-/

namespace Halmos.WebSocket

/-- A DATA frame, the bytes at its head that belong to a WebSocket frame begun earlier, as far
as they are still to come, and the WebSocket frames that begin in it. -/
structure DataStep where
  data : List UInt8
  carried : List UInt8
  begun : List ClientFrame

/-- The frames that begin in the next `n` bytes, what is then to come of the last of them, and
the frames behind it. -/
def cutFrames : Nat → List UInt8 → List ClientFrame →
    List ClientFrame × List UInt8 × List ClientFrame
  | n, carried, [] => ([], carried.drop n, [])
  | n, carried, f :: fs =>
      if n ≤ carried.length then ([], carried.drop n, f :: fs)
      else
        let r := cutFrames (n - carried.length) f.encode fs
        (f :: r.1, r.2)

/-- The DATA frames of a cut, from the cursor `carried` and `todo` on. -/
def dataSteps : List (List UInt8) → List UInt8 → List ClientFrame → List DataStep
  | [], _, _ => []
  | data :: more, carried, todo =>
      let r := cutFrames data.length carried todo
      ⟨data, carried, r.1⟩ :: dataSteps more r.2.1 r.2.2

/-- The frame the DATA frame begins with, if it is there as a whole. -/
def DataStep.passed (s : DataStep) : List ClientFrame :=
  match s.carried, s.begun with
  | [], f :: _ => if f.encode.length ≤ s.data.length then [f] else []
  | _, _ => []

/-- If the DATA frame begins inside a WebSocket frame, its first byte does not look like the
first byte of a text frame. -/
def DataStep.NoTextFragment (s : DataStep) : Prop :=
  s.carried ≠ [] → ∀ b ∈ s.data.head?, b.toNat &&& 0x0F ≠ 1

/-- Of the frames that begin in the DATA frame only the one it begins with, and holds as a
whole, has a message. -/
def DataStep.OneMessage (s : DataStep) : Prop :=
  (∀ f ∈ s.passed, f.payload ≠ []) ∧ ∀ f ∈ s.begun.drop s.passed.length, f.payload = []

theorem DataStep.passed_append (s : DataStep) :
    s.passed ++ s.begun.drop s.passed.length = s.begun := by
  unfold DataStep.passed
  split
  · next f more _ hbegun =>
      split
      · rw [hbegun]
        rfl
      · rfl
  · rfl

/-! ## Following the cut -/

/-- The cursor moves over the bytes, and every frame it passes is counted once. -/
theorem cutFrames_split (n : Nat) (carried : List UInt8) (todo : List ClientFrame) :
    (cutFrames n carried todo).1 ++ (cutFrames n carried todo).2.2 = todo ∧
    (cutFrames n carried todo).2.1 ++ encodeAll (cutFrames n carried todo).2.2
      = (carried ++ encodeAll todo).drop n := by
  induction todo generalizing n carried with
  | nil => simp [cutFrames, encodeAll]
  | cons f fs ih =>
      unfold cutFrames
      by_cases hn : n ≤ carried.length
      · rw [if_pos hn, List.drop_append_of_le_length hn]
        exact ⟨rfl, rfl⟩
      · obtain ⟨hframes, hbytes⟩ := ih (n - carried.length) f.encode
        rw [if_neg hn]
        refine ⟨by rw [List.cons_append, hframes], ?_⟩
        have hcarried : carried.drop n = [] := List.drop_eq_nil_of_le (by omega)
        rw [hbytes, ← encodeAll_cons, List.drop_append, hcarried, List.nil_append]

theorem encode_ne_nil (f : ClientFrame) : f.encode ≠ [] := List.cons_ne_nil _ _

/-- At the end of the cut no frame is left. -/
theorem encodeAll_eq_nil {frames : List ClientFrame} (h : encodeAll frames = []) :
    frames = [] := by
  cases frames with
  | nil => rfl
  | cons f fs =>
      rw [encodeAll_cons] at h
      exact absurd (List.append_eq_nil_iff.mp h).1 (encode_ne_nil f)

/-- **One DATA frame** passes on the frame it begins with, if it holds it as a whole. -/
theorem dataStep_calls (malloc : (n : Nat) → Buffer n) (streamId : Nat)
    {data more carried : List UInt8} {todo : List ClientFrame}
    (hbytes : data ++ more = carried ++ encodeAll todo) (htext : ∀ f ∈ todo, f.opcode = wsOpText)
    (hfrag : DataStep.NoTextFragment ⟨data, carried, (cutFrames data.length carried todo).1⟩) :
    ∃ r, handleWebsocketDataPayload malloc streamId data = some r ∧
      r.calls = (DataStep.passed ⟨data, carried, (cutFrames data.length carried todo).1⟩).map
        ClientFrame.message := by
  cases carried with
  | cons c carried =>
      -- the DATA frame begins inside a frame
      obtain ⟨r, hr, hcalls⟩ := handle_safe malloc streamId data
      exact ⟨r, hr, hcalls (hfrag (List.cons_ne_nil _ _))⟩
  | nil =>
      rw [List.nil_append] at hbytes
      cases todo with
      | nil =>
          have hdata : data = [] := (List.append_eq_nil_iff.mp hbytes).1
          subst hdata
          exact ⟨.nothing, rfl, rfl⟩
      | cons f fs =>
          rw [encodeAll_cons] at hbytes
          by_cases hdata : data = []
          · subst hdata
            exact ⟨.nothing, rfl, rfl⟩
          · have hpos := List.length_pos_iff.mpr hdata
            have hpassed : DataStep.passed ⟨data, [], (cutFrames data.length [] (f :: fs)).1⟩
                = if f.encode.length ≤ data.length then [f] else [] := by
              rw [cutFrames, if_neg (by rw [List.length_nil]; omega)]
              rfl
            rw [hpassed]
            by_cases hwhole : f.encode.length ≤ data.length
            · obtain ⟨tail, rfl, _⟩ := split_piece hbytes hwhole
              obtain ⟨ups, hr⟩ :=
                handle_whole malloc streamId (htext f List.mem_cons_self) tail
              rw [if_pos hwhole]
              exact ⟨_, hr, rfl⟩
            · obtain ⟨left, hleft, _⟩ := split_piece hbytes.symm (by omega)
              have hne : left ≠ [] := by
                rintro rfl
                rw [List.append_nil] at hleft
                rw [hleft] at hwhole
                exact hwhole le_rfl
              rw [if_neg hwhole]
              exact ⟨.nothing, handle_begun malloc streamId hleft hne, rfl⟩

/-- What the tunnel passes on, DATA frame by DATA frame. -/
theorem tunnelCalls_eq (malloc : (n : Nat) → Buffer n) (streamId : Nat)
    {data : List (List UInt8)} {carried : List UInt8} {todo : List ClientFrame}
    (hcut : data.flatten = carried ++ encodeAll todo) (htext : ∀ f ∈ todo, f.opcode = wsOpText)
    (hfrag : ∀ s ∈ dataSteps data carried todo, s.NoTextFragment) :
    tunnelCalls malloc streamId data
      = some ((dataSteps data carried todo).flatMap
          (fun s => s.passed.map ClientFrame.message)) := by
  induction data generalizing carried todo with
  | nil => rfl
  | cons d data ih =>
      rw [List.flatten_cons] at hcut
      obtain ⟨hframes, hbytes⟩ := cutFrames_split d.length carried todo
      obtain ⟨r, hr, hcalls⟩ := dataStep_calls malloc streamId hcut htext
        (hfrag _ List.mem_cons_self)
      have hrest : data.flatten = (cutFrames d.length carried todo).2.1
          ++ encodeAll (cutFrames d.length carried todo).2.2 := by
        rw [hbytes, ← hcut, List.drop_left]
      have htext' : ∀ f ∈ (cutFrames d.length carried todo).2.2, f.opcode = wsOpText := by
        intro f hf
        refine htext f ?_
        rw [← hframes]
        exact List.mem_append_right _ hf
      have hmore := ih hrest htext' (fun s hs => hfrag s (List.mem_cons_of_mem _ hs))
      simp only [tunnelCalls, hr, hmore, hcalls, dataSteps, Option.bind_eq_bind, Option.bind_some,
        List.flatMap_cons]

/-- Every frame begins in one of the DATA frames. -/
theorem dataSteps_begun {data : List (List UInt8)} {carried : List UInt8}
    {todo : List ClientFrame} (hcut : data.flatten = carried ++ encodeAll todo) :
    (dataSteps data carried todo).flatMap DataStep.begun = todo := by
  induction data generalizing carried todo with
  | nil =>
      rw [List.flatten_nil] at hcut
      have hnil := encodeAll_eq_nil (List.append_eq_nil_iff.mp hcut.symm).2
      rw [hnil]
      rfl
  | cons d data ih =>
      rw [List.flatten_cons] at hcut
      obtain ⟨hframes, hbytes⟩ := cutFrames_split d.length carried todo
      have hrest : data.flatten = (cutFrames d.length carried todo).2.1
          ++ encodeAll (cutFrames d.length carried todo).2.2 := by
        rw [hbytes, ← hcut, List.drop_left]
      rw [dataSteps, List.flatMap_cons, ih hrest]
      exact hframes

/-! ## Comparing the messages -/

theorem http1Messages_append (fs gs : List ClientFrame) :
    http1Messages (fs ++ gs) = http1Messages fs ++ http1Messages gs := by
  simp only [http1Messages, List.filter_append, List.map_append]

theorem http1Messages_flatMap (steps : List DataStep) :
    http1Messages (steps.flatMap DataStep.begun)
      = steps.flatMap (fun s => http1Messages s.begun) := by
  induction steps with
  | nil => rfl
  | cons s steps ih => rw [List.flatMap_cons, http1Messages_append, ih, List.flatMap_cons]

theorem http1Messages_of_ne_nil {frames : List ClientFrame} (h : ∀ f ∈ frames, f.payload ≠ []) :
    http1Messages frames = frames.map ClientFrame.message := by
  rw [http1Messages, List.filter_eq_self.mpr (fun f hf => decide_eq_true (h f hf))]

theorem http1Messages_eq_nil_iff {frames : List ClientFrame} :
    http1Messages frames = [] ↔ ∀ f ∈ frames, f.payload = [] := by
  rw [http1Messages, List.map_eq_nil_iff, List.filter_eq_nil_iff]
  simp only [ne_eq, decide_not, Bool.not_eq_true', decide_eq_false_iff_not, not_not]

/-- No empty message is passed on over HTTP/1.1. -/
theorem payload_ne_nil_of_mem {f : ClientFrame} {frames : List ClientFrame}
    (h : f.message ∈ http1Messages frames) : f.payload ≠ [] := by
  obtain ⟨g, hg, heq⟩ := List.mem_map.mp h
  have hne : g.payload ≠ [] := of_decide_eq_true (List.mem_filter.mp hg).2
  injection heq with _ hlen
  intro hnil
  rw [hnil, List.length_nil, List.length_eq_zero_iff] at hlen
  exact hne hlen

/-- Leaving out the second parts of the pieces keeps the length only if they are all empty. -/
theorem flatMap_append_length {α β : Type} (l : List α) (a b : α → List β) :
    (l.flatMap (fun x => a x ++ b x)).length = (l.flatMap a).length + (l.flatMap b).length := by
  induction l with
  | nil => rfl
  | cons x l ih =>
      simp only [List.flatMap_cons, List.length_append, ih]
      omega

/-- The tunnel's messages are those over HTTP/1.1 exactly when no frame with a message is
left out and no empty one is passed on. -/
theorem passed_eq_iff (steps : List DataStep) :
    steps.flatMap (fun s => s.passed.map ClientFrame.message)
        = http1Messages (steps.flatMap DataStep.begun)
      ↔ ∀ s ∈ steps, s.OneMessage := by
  have hsplit (s : DataStep) : http1Messages s.begun
      = http1Messages s.passed ++ http1Messages (s.begun.drop s.passed.length) := by
    rw [← http1Messages_append, s.passed_append]
  constructor
  · intro heq
    have hne : ∀ s ∈ steps, ∀ f ∈ s.passed, f.payload ≠ [] := by
      intro s hs f hf
      have hmem : f.message ∈ steps.flatMap (fun s => s.passed.map ClientFrame.message) :=
        List.mem_flatMap.mpr ⟨s, hs, List.mem_map_of_mem hf⟩
      rw [heq] at hmem
      exact payload_ne_nil_of_mem hmem
    have hpassed : steps.flatMap (fun s => s.passed.map ClientFrame.message)
        = steps.flatMap (fun s => http1Messages s.passed) := by
      refine List.flatMap_congr fun s hs => ?_
      exact (http1Messages_of_ne_nil (hne s hs)).symm
    -- so the frames left out are counted by the difference of the lengths
    have hlen := flatMap_append_length steps (fun s => http1Messages s.passed)
      (fun s => http1Messages (s.begun.drop s.passed.length))
    rw [List.flatMap_congr (fun s _ => (hsplit s).symm), ← http1Messages_flatMap, ← heq,
      hpassed] at hlen
    have hnil : steps.flatMap (fun s => http1Messages (s.begun.drop s.passed.length)) = [] :=
      List.length_eq_zero_iff.mp (by omega)
    exact fun s hs => ⟨hne s hs,
      http1Messages_eq_nil_iff.mp (List.flatMap_eq_nil_iff.mp hnil s hs)⟩
  · intro hone
    rw [http1Messages_flatMap]
    refine List.flatMap_congr fun s hs => ?_
    rw [hsplit, http1Messages_of_ne_nil (hone s hs).1, http1Messages_eq_nil_iff.mpr (hone s hs).2,
      List.append_nil]

/-- A fragment that looks like a text frame can have the lost message by accident: here byte 1
of the masking key is the message. -/
example :
    let x : ClientFrame :=
      ⟨wsOpText, [1, 0x78, 0, 0], ascii "x", by decide, by decide, by decide, by decide⟩
    tunnelCalls .zeros 1 [x.encode.take 1, x.encode.drop 1] = some [x.message] := by
  decide

end Halmos.WebSocket
