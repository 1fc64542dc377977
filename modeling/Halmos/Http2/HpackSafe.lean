import Halmos.Basic.Search
import Halmos.Http2.HpackFields
import Halmos.Http2.HpackMemory

set_option autoImplicit false

/-! # Reading header blocks stays inside the arrays

Each function of `HpackMemory` is followed by the function of `Hpack` of the same name: on well
formed arrays no access fails, the position moves on and stays in front of the end, and the
arrays afterwards hold what the function of `Hpack` computes.
-/

namespace Halmos.Http2.Memory

open Hpack

/-! ## Positions -/

/-- The bytes from the position up to `stop`. -/
def view (mem : List UInt8) (stop pos : Nat) : List UInt8 := (mem.take stop).drop pos

/-- The position has moved to `pos'`, with `rest` still to be read. -/
structure Moved (mem : List UInt8) (stop pos pos' : Nat) (rest : List UInt8) : Prop where
  le : pos ≤ pos'
  le_stop : pos' ≤ stop
  view_eq : view mem stop pos' = rest

section Positions

variable {mem : List UInt8} {stop pos : Nat}

theorem view_of_le (h : stop ≤ pos) : view mem stop pos = [] :=
  List.drop_eq_nil_of_le (by rw [List.length_take]; omega)

theorem view_cons (hstop : stop ≤ mem.length) (hpos : pos < stop) :
    ∃ b, mem[pos]? = some b ∧ view mem stop pos = b :: view mem stop (pos + 1) := by
  have hmem : pos < mem.length := by omega
  have htake : pos < (mem.take stop).length := by
    rw [List.length_take]
    omega
  refine ⟨mem[pos], List.getElem?_eq_getElem hmem, ?_⟩
  unfold view
  rw [List.drop_eq_getElem_cons htake, List.getElem_take]

theorem view_length (hstop : stop ≤ mem.length) : (view mem stop pos).length = stop - pos := by
  unfold view
  rw [List.length_drop, List.length_take]
  omega

theorem view_drop (count : Nat) :
    (view mem stop pos).drop count = view mem stop (pos + count) := by
  unfold view
  rw [List.drop_drop]

theorem readBytes_view (hstop : stop ≤ mem.length) {count : Nat} (h : pos + count ≤ stop) :
    readBytes mem pos count = some ((view mem stop pos).take count) := by
  unfold readBytes view
  rw [if_pos (by omega), List.drop_take, List.take_take, Nat.min_eq_left (by omega)]

theorem Moved.refl (hpos : pos ≤ stop) : Moved mem stop pos pos (view mem stop pos) :=
  ⟨Nat.le_refl pos, hpos, rfl⟩

theorem Moved.trans {pos' pos'' : Nat} {rest rest' : List UInt8}
    (h : Moved mem stop pos pos' rest) (h' : Moved mem stop pos' pos'' rest') :
    Moved mem stop pos pos'' rest' :=
  ⟨Nat.le_trans h.le h'.le, h'.le_stop, h'.view_eq⟩

/-- The next byte is read. -/
theorem Moved.next {rest : List UInt8} {pos' : Nat} (h : Moved mem stop (pos + 1) pos' rest) :
    Moved mem stop pos pos' rest :=
  ⟨Nat.le_trans (Nat.le_add_right pos 1) h.le, h.le_stop, h.view_eq⟩

/-! ## Integers -/

theorem decodeIntLoop_spec (hstop : stop ≤ mem.length) (hpos : pos ≤ stop) (shift res : Nat) :
    ∃ pos', decodeIntLoop mem stop shift res pos
        = some ((Http2.decodeIntLoop shift res (view mem stop pos)).1, pos') ∧
      Moved mem stop pos pos' (Http2.decodeIntLoop shift res (view mem stop pos)).2 := by
  induction hn : stop - pos generalizing pos shift res with
  | zero =>
      have hend : stop ≤ pos := by omega
      refine ⟨pos, ?_, ?_⟩
      · rw [decodeIntLoop, if_neg (by omega), view_of_le hend]
        rfl
      · rw [view_of_le hend]
        exact ⟨Nat.le_refl pos, hpos, view_of_le hend⟩
  | succ n ih =>
      have hlt : pos < stop := by omega
      obtain ⟨b, hb, hview⟩ := view_cons hstop hlt
      have hstep : Moved mem stop pos (pos + 1) (view mem stop (pos + 1)) :=
        (Moved.refl (by omega)).next
      rw [decodeIntLoop, if_pos hlt, hb, hview, Http2.decodeIntLoop]
      dsimp only
      split
      · exact ⟨pos + 1, rfl, hstep⟩
      · split
        · exact ⟨pos + 1, rfl, hstep⟩
        · -- one more byte of the integer
          obtain ⟨pos', hloop, hmoved⟩ := ih (by omega : pos + 1 ≤ stop) (shift + 7)
            ((res + ((b.toNat &&& 127) <<< shift) % 2 ^ 32) % 2 ^ 32) (by omega)
          exact ⟨pos', hloop, hmoved.next⟩

theorem http2HpackDecodeInt_spec (hstop : stop ≤ mem.length) (hpos : pos ≤ stop) (mask : Nat) :
    ∃ pos', http2HpackDecodeInt mem stop pos mask
        = some ((Http2.http2HpackDecodeInt (view mem stop pos) mask).1, pos') ∧
      Moved mem stop pos pos' (Http2.http2HpackDecodeInt (view mem stop pos) mask).2 ∧
      (pos < stop → pos < pos') := by
  unfold http2HpackDecodeInt
  by_cases hlt : pos < stop
  · obtain ⟨b, hb, hview⟩ := view_cons hstop hlt
    have hstep : Moved mem stop pos (pos + 1) (view mem stop (pos + 1)) :=
      (Moved.refl (by omega)).next
    rw [if_neg (by omega), hb, hview]
    simp only [Option.bind_eq_bind, Option.bind_some, Http2.http2HpackDecodeInt]
    split
    · exact ⟨pos + 1, rfl, hstep, fun _ => Nat.lt_succ_self pos⟩
    · obtain ⟨pos', hloop, hmoved⟩ := decodeIntLoop_spec hstop (by omega : pos + 1 ≤ stop) 0
        (b.toNat &&& mask)
      exact ⟨pos', hloop, hmoved.next, fun _ => hmoved.le⟩
  · have hend : stop ≤ pos := by omega
    rw [if_pos hend, view_of_le hend]
    exact ⟨pos, rfl, ⟨Nat.le_refl pos, hpos, view_of_le hend⟩, fun h => absurd h hlt⟩

theorem decodeIntLoop_lt {shift res : Nat} {p : List UInt8} (h : res < 2 ^ 32) :
    (Http2.decodeIntLoop shift res p).1 < 2 ^ 32 := by
  induction p generalizing shift res with
  | nil => exact h
  | cons b p ih =>
      rw [Http2.decodeIntLoop]
      have hmod : (res + ((b.toNat &&& 127) <<< shift) % 2 ^ 32) % 2 ^ 32 < 2 ^ 32 :=
        Nat.mod_lt _ (by decide)
      split
      · exact hmod
      · split
        · exact hmod
        · exact ih hmod

theorem http2HpackDecodeInt_lt (p : List UInt8) {mask : Nat} (h : mask < 2 ^ 32) :
    (Http2.http2HpackDecodeInt p mask).1 < 2 ^ 32 := by
  unfold Http2.http2HpackDecodeInt
  split
  · decide
  · next b p =>
      have hres : b.toNat &&& mask < 2 ^ 32 := Nat.lt_of_le_of_lt Nat.and_le_right h
      dsimp only
      split
      · exact hres
      · exact decodeIntLoop_lt hres

end Positions

/-! ## Huffman decoding -/

/-- Every row has an entry for each nibble, and every next state has a row. -/
theorem huffDecodeTable_closed :
    huffDecodeTable.all (fun row => row.length == 16 && row.all (fun e => Nat.ble e.fstate 256))
      = true := by decide +kernel

theorem huffDecodeTable_entry {state nibble : Nat} (hstate : state ≤ 256) (hnibble : nibble < 16) :
    ∃ row, huffDecodeTable[state]? = some row ∧
      row[nibble]? = some (huffDecodeEntry state nibble) ∧
      (huffDecodeEntry state nibble).fstate ≤ 256 := by
  have hrow : state < huffDecodeTable.length := by
    rw [huffDecodeTable_ok.2.1]
    omega
  have hclosed := List.all_eq_true.mp huffDecodeTable_closed _ (List.getElem_mem hrow)
  rw [Bool.and_eq_true, beq_iff_eq] at hclosed
  have hlen : nibble < huffDecodeTable[state].length := by omega
  have hentry : huffDecodeEntry state nibble = huffDecodeTable[state][nibble] := by
    unfold huffDecodeEntry
    rw [List.getD_eq_getElem?_getD, List.getD_eq_getElem?_getD, List.getElem?_eq_getElem hrow,
      Option.getD_some, List.getElem?_eq_getElem hlen, Option.getD_some]
  refine ⟨huffDecodeTable[state], List.getElem?_eq_getElem hrow, ?_, ?_⟩
  · rw [hentry]
    exact List.getElem?_eq_getElem hlen
  · rw [hentry]
    exact Nat.le_of_ble_eq_true (List.all_eq_true.mp hclosed.2 _ (List.getElem_mem hlen))

section Strings

variable {n : Nat}

/-- The automaton is in the state of the loop, `out` is in front of the position, and behind it the
buffer is what it was. -/
structure Decodes (init : Buffer n) (s : HuffmanState n) (out : List UInt8) : Prop where
  state_le : s.state ≤ 256
  outPos : s.outPos = out.length
  room : out.length < n
  bytes : s.dest.bytes = out ++ init.bytes.drop out.length

/-- A byte at the position. -/
theorem Decodes.set {init : Buffer n} {s : HuffmanState n} {out : List UInt8}
    (hs : Decodes init s out) (b : UInt8) :
    s.dest.bytes.set s.outPos b = out ++ b :: init.bytes.drop (out.length + 1) := by
  have hlt : out.length < init.bytes.length := by
    rw [init.length_eq]
    exact hs.room
  rw [hs.bytes, hs.outPos, List.drop_eq_getElem_cons hlt, set_append_cons rfl]

theorem huffmanNibble_spec {init : Buffer n} {s : HuffmanState n} {out : List UInt8}
    (hs : Decodes init s out) {nibble : Nat} (hnibble : nibble < 16) :
    (∃ s' out', huffmanNibble nibble s = some (true, s') ∧ Decodes init s' out' ∧
      ∀ nibbles, Http2.huffmanLoop n s.state out (nibble :: nibbles)
        = Http2.huffmanLoop n s'.state out' nibbles) ∨
    (∃ s', huffmanNibble nibble s = some (false, s') ∧
      ∀ nibbles, Http2.huffmanLoop n s.state out (nibble :: nibbles) = none) := by
  obtain ⟨row, hrow, hentry, hnext⟩ := huffDecodeTable_entry hs.state_le hnibble
  unfold huffmanNibble
  rw [hrow]
  simp only [Option.bind_eq_bind, Option.bind_some, hentry]
  by_cases hsym : (huffDecodeEntry s.state nibble).isSym = true
  · rw [if_pos hsym]
    by_cases hfull : s.outPos + 1 ≥ n
    · right
      refine ⟨s, if_pos hfull, fun nibbles => ?_⟩
      rw [Http2.huffmanLoop]
      rw [if_pos hsym, if_pos (by rw [← hs.outPos]; exact hfull)]
    · left
      obtain ⟨dest, hwrite, hbytes⟩ := s.dest.write_eq
        (UInt8.ofNat (huffDecodeEntry s.state nibble).sym) (i := s.outPos) (by omega)
      have hpos := hs.outPos
      rw [if_neg hfull, hwrite, Option.bind_some]
      refine ⟨_, out ++ [UInt8.ofNat (huffDecodeEntry s.state nibble).sym], rfl, ⟨hnext, ?_, ?_, ?_⟩,
        fun nibbles => ?_⟩
      · rw [List.length_append, List.length_singleton, hpos]
      · rw [List.length_append, List.length_singleton]
        omega
      · -- the new byte is behind what was there
        rw [hbytes, hs.set, List.length_append, List.length_singleton, List.append_assoc]
        rfl
      · rw [Http2.huffmanLoop]
        dsimp only
        rw [if_pos hsym, if_neg (by rw [← hpos]; exact hfull)]
  · left
    rw [if_neg hsym]
    refine ⟨_, out, rfl, ⟨hnext, hs.outPos, hs.room, hs.bytes⟩, fun nibbles => ?_⟩
    rw [Http2.huffmanLoop]
    dsimp only
    rw [if_neg hsym]

theorem nibblesOf_cons (b : UInt8) (src : List UInt8) :
    nibblesOf (b :: src) = b.toNat >>> 4 :: (b.toNat &&& 0x0F) :: nibblesOf src := rfl

theorem huffmanLoop_spec {mem : List UInt8} {stop src len : Nat} (hstop : stop ≤ mem.length)
    (hlen : src + len ≤ stop) {init : Buffer n} {s : HuffmanState n} {out : List UInt8}
    (hs : Decodes init s out) :
    (∃ s' out', huffmanLoop mem src len s = some (true, s') ∧ Decodes init s' out' ∧
      Http2.huffmanLoop n s.state out (nibblesOf ((view mem stop src).take len)) = some out') ∨
    (∃ s', huffmanLoop mem src len s = some (false, s') ∧
      Http2.huffmanLoop n s.state out (nibblesOf ((view mem stop src).take len)) = none) := by
  induction len generalizing src s out with
  | zero => exact Or.inl ⟨s, out, rfl, hs, rfl⟩
  | succ len ih =>
      obtain ⟨b, hb, hview⟩ := view_cons hstop (by omega : src < stop)
      have hbyte := b.toNat_lt
      have hhigh : b.toNat >>> 4 < 16 := by
        rw [Nat.shiftRight_eq_div_pow]
        omega
      have hlow : b.toNat &&& 0x0F < 16 := Nat.lt_of_le_of_lt Nat.and_le_right (by decide)
      rw [huffmanLoop, hb, hview, List.take_succ_cons, nibblesOf_cons]
      simp only [Option.bind_eq_bind, Option.bind_some]
      rcases huffmanNibble_spec hs hhigh with ⟨s₁, out₁, hrun₁, hs₁, hloop₁⟩ | ⟨s₁, hrun₁, hloop₁⟩
      · rw [hrun₁, hloop₁]
        simp only [Option.bind_some, if_true]
        rcases huffmanNibble_spec hs₁ hlow with ⟨s₂, out₂, hrun₂, hs₂, hloop₂⟩ | ⟨s₂, hrun₂, hloop₂⟩
        · rw [hrun₂, hloop₂]
          exact ih (by omega) hs₂
        · rw [hrun₂, hloop₂]
          exact Or.inr ⟨s₂, rfl, rfl⟩
      · rw [hrun₁, hloop₁]
        exact Or.inr ⟨s₁, rfl, rfl⟩

/-- The bytes are read in their place, and what is decoded stands in front of a NUL in the buffer,
which is otherwise as it was. -/
theorem http2HuffmanDecode_spec {mem : List UInt8} {stop src len : Nat}
    (hstop : stop ≤ mem.length) (hlen : src + len ≤ stop) (dest : Buffer n) :
    (∃ dest' out, http2HuffmanDecode mem src len dest = some (true, dest') ∧
      Http2.http2HuffmanDecode ((view mem stop src).take len) n = some out ∧
      dest'.bytes = out ++ 0 :: dest.bytes.drop (out.length + 1)) ∨
    (∃ dest', http2HuffmanDecode mem src len dest = some (false, dest') ∧
      Http2.http2HuffmanDecode ((view mem stop src).take len) n = none) := by
  have htake : ((view mem stop src).take len).length = len := by
    rw [List.length_take, view_length hstop]
    omega
  unfold http2HuffmanDecode Http2.http2HuffmanDecode
  rw [htake]
  by_cases hzero : len = 0 ∨ n = 0
  · rw [if_pos hzero, if_pos hzero]
    exact Or.inr ⟨dest, rfl, rfl⟩
  · rw [if_neg hzero, if_neg hzero]
    have hstart : Decodes dest (⟨dest, 0, 0⟩ : HuffmanState n) [] :=
      ⟨Nat.zero_le 256, rfl, by rw [List.length_nil]; omega, rfl⟩
    simp only [Option.bind_eq_bind]
    rcases huffmanLoop_spec hstop hlen hstart with ⟨s, out, hrun, hs, hloop⟩ | ⟨s, hrun, hloop⟩
    · obtain ⟨dest', hwrite, hbytes⟩ := s.dest.write_eq 0 (i := s.outPos)
        (by rw [hs.outPos]; exact hs.room)
      rw [hs.set] at hbytes
      left
      refine ⟨dest', out, ?_, hloop, hbytes⟩
      rw [hrun]
      simp only [Option.bind_some, if_true, hwrite]
    · right
      refine ⟨s.dest, ?_, hloop⟩
      rw [hrun]
      rfl

/-! ## Strings -/

theorem http2HpackDecodeStringBuf_spec {mem : List UInt8} {stop pos : Nat}
    (hstop : stop ≤ mem.length) (hpos : pos ≤ stop) (hn : 0 < n) {outBuf : Buffer n}
    (hclear : outBuf.str = some []) :
    ∃ ok outBuf' pos', http2HpackDecodeStringBuf mem stop pos outBuf = some (ok, outBuf', pos') ∧
      outBuf'.str = some (cstr (Http2.http2HpackDecodeStringBuf (view mem stop pos) n).1) ∧
      Moved mem stop pos pos' (Http2.http2HpackDecodeStringBuf (view mem stop pos) n).2 := by
  unfold http2HpackDecodeStringBuf
  by_cases hlt : pos < stop
  · obtain ⟨b, hb, hview⟩ := view_cons hstop hlt
    obtain ⟨pos', hint, hmoved, -⟩ := http2HpackDecodeInt_spec hstop hpos 0x7F
    have hle := hmoved.le_stop
    have hrest : (Http2.http2HpackDecodeInt (view mem stop pos) 0x7F).2.length = stop - pos' := by
      rw [← hmoved.view_eq, view_length hstop]
    have hlist : Http2.http2HpackDecodeStringBuf (view mem stop pos) n
        = if (Http2.http2HpackDecodeInt (view mem stop pos) 0x7F).1 > 10240 ∨
            (Http2.http2HpackDecodeInt (view mem stop pos) 0x7F).1 > stop - pos' then ([], [])
          else if b.toNat &&& 0x80 ≠ 0 then
            ((Http2.http2HuffmanDecode ((view mem stop pos').take
                (Http2.http2HpackDecodeInt (view mem stop pos) 0x7F).1) n).getD [],
              (view mem stop pos').drop (Http2.http2HpackDecodeInt (view mem stop pos) 0x7F).1)
          else (((view mem stop pos').take
              (Http2.http2HpackDecodeInt (view mem stop pos) 0x7F).1).take (n - 1),
            (view mem stop pos').drop (Http2.http2HpackDecodeInt (view mem stop pos) 0x7F).1) := by
      rw [← hrest, hmoved.view_eq, hview]
      rfl
    rw [hlist, if_neg (by omega), hb]
    simp only [Option.bind_eq_bind, Option.bind_some, hint]
    generalize (Http2.http2HpackDecodeInt (view mem stop pos) 0x7F).1 = len
    by_cases hlong : len > 10240 ∨ pos' + len > stop
    · have hlong' : len > 10240 ∨ len > stop - pos' := by omega
      rw [if_pos hlong, if_pos hlong']
      exact ⟨false, outBuf, stop, rfl, hclear, ⟨hpos, Nat.le_refl stop, view_of_le (Nat.le_refl _)⟩⟩
    · have hfits : pos' + len ≤ stop := by omega
      have hend : Moved mem stop pos (pos' + len) ((view mem stop pos').drop len) :=
        ⟨Nat.le_trans hmoved.le (Nat.le_add_right _ _), hfits, (view_drop len).symm⟩
      have hlong' : ¬ (len > 10240 ∨ len > stop - pos') := by omega
      rw [if_neg hlong, if_neg hlong']
      by_cases hhuff : b.toNat &&& 0x80 ≠ 0
      · rw [if_pos hhuff, if_pos hhuff]
        rcases http2HuffmanDecode_spec hstop hfits outBuf with ⟨dest, out, hrun, hdec, hbytes⟩ |
          ⟨dest, hrun, hdec⟩
        · rw [hrun, hdec]
          exact ⟨true, dest, pos' + len, rfl, Buffer.str_eq_of_append hbytes, hend⟩
        · -- a failed string is cut to the empty one
          obtain ⟨dest', hwrite, hstr⟩ := dest.write_zero hn
          rw [hrun, hdec]
          simp only [Option.bind_some, Bool.false_eq_true, if_false, hwrite]
          exact ⟨true, dest', pos' + len, rfl, hstr, hend⟩
      · rw [if_neg hhuff, if_neg hhuff]
        set copyLen := if len < n - 1 then len else n - 1 with hcopyLen
        have hcopyLe : copyLen ≤ len ∧ copyLen = min (n - 1) len := by
          rw [hcopyLen]
          split <;> omega
        have htake : ((view mem stop pos').take copyLen).length = copyLen := by
          rw [List.length_take, view_length hstop]
          omega
        obtain ⟨buf, hcopy, hbytes⟩ := outBuf.copy_eq (i := 0) (s := (view mem stop pos').take copyLen)
          (by omega)
        obtain ⟨buf', hwrite, hstr⟩ := buf.write_zero (i := copyLen) (by omega)
        rw [readBytes_view hstop (by omega)]
        simp only [Option.bind_some, hcopy, hwrite]
        refine ⟨true, buf', pos' + len, rfl, ?_, hend⟩
        rw [hstr, hbytes, List.take_zero, List.nil_append, List.take_left' htake, List.take_take,
          hcopyLe.2]
  · have hend : stop ≤ pos := by omega
    rw [if_pos (Or.inl hend), view_of_le hend]
    exact ⟨false, outBuf, pos, rfl, hclear, ⟨Nat.le_refl pos, hpos, view_of_le hend⟩⟩

end Strings

/-! ## The table -/

/-- A slot holds a field. -/
def HPACKEntry.Holds (e : HPACKEntry) (f : Field) : Prop :=
  e.name.str = some f.name ∧ e.value.str = some f.value

/-- The array holds the entries of the table, newest first; a null pointer holds none. -/
inductive HPACKDynamicTable.Holds : HPACKDynamicTable → Http2.HPACKDynamicTable → Prop where
  | null : HPACKDynamicTable.Holds ⟨none, 0⟩ .empty
  | array {entries : List HPACKEntry} {t : Http2.HPACKDynamicTable}
      (hlen : entries.length = 128)
      (hentries : List.Forall₂ HPACKEntry.Holds (entries.take t.entries.length) t.entries) :
      HPACKDynamicTable.Holds ⟨some entries, t.entries.length⟩ t

theorem http2HpackGetHeader_spec {table : HPACKDynamicTable} {t : Http2.HPACKDynamicTable}
    (h : table.Holds t) {index : Nat} (hindex : index < 2 ^ 32) :
    http2HpackGetHeader table index
      = some ((Http2.http2HpackGetHeader t index).map (fun f => (f.name, f.value))) := by
  unfold http2HpackGetHeader Http2.http2HpackGetHeader
  by_cases hstatic : 1 ≤ index ∧ index ≤ 61
  · have hlen : index - 1 < staticEntries.length := by
      rw [show staticEntries.length = 61 from rfl]
      omega
    rw [if_pos hstatic, if_pos hstatic, List.getElem?_eq_getElem hlen]
    rfl
  · rw [if_neg hstatic, if_neg hstatic]
    cases h with
    | null =>
        rw [if_neg (Nat.lt_irrefl 0)]
        split <;> rfl
    | @array entries t hlen hentries =>
        have hcount := t.count_le
        dsimp only
        by_cases hlow : 62 ≤ index
        · have hwrap : (index + 2 ^ 32 - 62) % 2 ^ 32 = index - 62 := by omega
          rw [if_pos hlow, hwrap]
          by_cases hin : index - 62 < t.entries.length
          · have hslot : index - 62 < entries.length := by omega
            have htake : index - 62 < (entries.take t.entries.length).length := by
              rw [List.length_take]
              omega
            obtain ⟨hname, hvalue⟩ := hentries.get htake hin
            rw [List.get_eq_getElem, List.getElem_take] at hname hvalue
            rw [if_pos (by omega), if_pos hin, List.getElem?_eq_getElem hin]
            simp only [Option.bind_eq_bind, Option.bind_some, List.getElem?_eq_getElem hslot,
              hname, hvalue, List.get_eq_getElem, Option.map_some]
          · rw [List.getElem?_eq_none (by omega), if_neg hin]
            split <;> rfl
        · -- below 62 the difference wraps around and is too large
          have hwrap : ¬ (index + 2 ^ 32 - 62) % 2 ^ 32 < t.entries.length := by omega
          rw [if_neg hlow, if_neg hwrap, ite_self]
          rfl

theorem store_eq {α : Type} {arr : List α} {i : Nat} (x : α) (h : i < arr.length) :
    store arr i x = some (arr.set i x) := if_pos h

theorem shiftEntries_spec {entries : List HPACKEntry} {count : Nat} (h : count < entries.length) :
    shiftEntries entries count
      = some (entries.take 1 ++ entries.take count ++ entries.drop (count + 1)) := by
  induction count generalizing entries with
  | zero =>
      rw [shiftEntries, List.take_zero, List.append_nil, List.take_append_drop]
  | succ i ih =>
      have hi : i < entries.length := by omega
      have hset : i < (entries.set (i + 1) entries[i]).length := by
        rw [List.length_set]
        exact hi
      have hone : (entries.set (i + 1) entries[i]).take 1 = entries.take 1 :=
        List.take_set_of_le (by omega)
      have hlow : (entries.set (i + 1) entries[i]).take i = entries.take i :=
        List.take_set_of_le (by omega)
      have hhigh : (entries.set (i + 1) entries[i]).drop (i + 1)
          = entries[i] :: entries.drop (i + 2) := by
        rw [List.set_eq_take_append_cons_drop, if_pos h, List.drop_left' (by
          rw [List.length_take]
          omega)]
      rw [shiftEntries, List.getElem?_eq_getElem hi]
      simp only [Option.bind_eq_bind, Option.bind_some, store_eq _ h]
      rw [ih hset, hone, hlow, hhigh, List.take_succ_eq_append_getElem hi]
      simp only [List.append_assoc, List.singleton_append]

/-- The new entry is in front, and every other entry has moved up by one. -/
theorem http2HpackDynamicTableAdd_spec {table : HPACKDynamicTable} {t : Http2.HPACKDynamicTable}
    (h : table.Holds t) {name value : List UInt8} (hname : 0 ∉ name) (hvalue : 0 ∉ value) :
    ∃ table' t', http2HpackDynamicTableAdd table name value = some table' ∧ table'.Holds t' ∧
      table'.entries.isSome = table.entries.isSome ∧
      (table.entries.isSome = true → t' = Http2.http2HpackDynamicTableAdd t ⟨name, value⟩) := by
  cases h with
  | null => exact ⟨_, _, rfl, .null, rfl, fun h => absurd h Bool.false_ne_true⟩
  | @array entries t hlen hentries =>
      have hle := t.count_le
      set count := if t.entries.length ≥ 128 then 127 else t.entries.length with hcount
      have hcount' : count = (t.entries.take 127).length := by
        rw [List.length_take, hcount]
        split <;> omega
      have hlt : count ≤ 127 ∧ count ≤ t.entries.length := by
        rw [hcount]
        split <;> omega
      obtain ⟨e, rest, hcons⟩ := List.exists_cons_of_length_pos (l := entries) (by omega)
      have hshift := shiftEntries_spec (show count < entries.length by omega)
      rw [hcons, List.take_succ_cons, List.take_zero, ← hcons, List.singleton_append] at hshift
      obtain ⟨nameBuf, hnameRun, hnameStr⟩ := e.name.snprintf_str name (by decide)
      obtain ⟨valueBuf, hvalueRun, hvalueStr⟩ := e.value.snprintf_str value (by decide)
      have hnew : HPACKEntry.Holds ⟨nameBuf, valueBuf⟩ ⟨name.take 127, value.take 511⟩ := by
        constructor
        · rw [hnameStr, cstr_of_notMem (fun h0 => hname (List.mem_of_mem_take h0))]
        · rw [hvalueStr, cstr_of_notMem (fun h0 => hvalue (List.mem_of_mem_take h0))]
      -- the entries that stay are the first `count` ones
      have hold : List.Forall₂ HPACKEntry.Holds (entries.take count) (t.entries.take 127) := by
        have htake := List.forall₂_take count hentries
        rw [List.take_take, Nat.min_eq_left hlt.2] at htake
        have hsame : t.entries.take count = t.entries.take 127 := by
          rw [List.take_eq_take_iff]
          rw [List.length_take] at hcount'
          omega
        rw [hsame] at htake
        exact htake
      have hafter : (⟨nameBuf, valueBuf⟩ :: (entries.take count ++ entries.drop (count + 1))).take
          (count + 1) = ⟨nameBuf, valueBuf⟩ :: entries.take count := by
        rw [List.take_succ_cons, List.take_left' (by rw [List.length_take]; omega)]
      refine ⟨⟨some (⟨nameBuf, valueBuf⟩ :: (entries.take count ++ entries.drop (count + 1))),
        count + 1⟩, Http2.http2HpackDynamicTableAdd t ⟨name, value⟩, ?_, ?_, rfl, fun _ => rfl⟩
      · unfold http2HpackDynamicTableAdd
        dsimp only
        rw [hshift]
        simp only [Option.bind_eq_bind, Option.bind_some, List.cons_append, List.getElem?_cons_zero,
          hnameRun, hvalueRun]
        rw [store_eq _ (by rw [List.length_cons]; omega)]
        rfl
      · have hnewLen : (Http2.http2HpackDynamicTableAdd t ⟨name, value⟩).entries.length
            = count + 1 := by
          rw [hcount']
          rfl
        rw [← hnewLen]
        refine .array ?_ ?_
        · simp only [List.length_cons, List.length_append, List.length_take, List.length_drop]
          omega
        · rw [hnewLen, hafter]
          exact .cons hnew hold

/-! ## The request a field fills in -/

/-- What the buffers say. -/
def RequestHeader.denote (req : RequestHeader) : Http2.RequestHeader where
  clientIp := cstr req.clientIp.bytes
  method := cstr req.method.bytes
  uri := if req.uri then some (cstr req.h2UriBuf.bytes) else none
  host := if req.host then some (cstr req.h2HostBuf.bytes) else none
  contentType := if req.contentType then some (cstr req.h2ContentTypeBuf.bytes) else none
  cookieData := if req.cookieData then some (cstr req.h2CookieBuf.bytes) else none
  contentLength := req.contentLength
  isTls := req.isTls
  isUpgrade := req.isUpgrade

/-- The cookie buffer holds a string, the empty one as long as there is no cookie. -/
def RequestHeader.CookieOk (req : RequestHeader) : Prop :=
  req.h2CookieBuf.str = some (req.denote.cookieData.getD [])

theorem denote_reset (req : RequestHeader) : req.reset.denote = req.denote.reset := by
  unfold RequestHeader.denote RequestHeader.reset Http2.RequestHeader.reset
  rw [Buffer.cstr_of_str (Buffer.zeros_str (by decide : 0 < 16))]
  rfl

theorem cookieOk_reset (req : RequestHeader) : req.reset.CookieOk :=
  Buffer.zeros_str (by decide)

/-- What the fields of a request come to, with the cookie buffer still in order. -/
def Fills (run : Option (Nat × RequestHeader)) (o : Nat × Http2.RequestHeader) : Prop :=
  ∃ req', run = some (o.1, req') ∧ req'.denote = o.2 ∧ req'.CookieOk

theorem fills_same {req : RequestHeader} (h : req.CookieOk) (status : Nat) :
    Fills (some (status, req)) (status, req.denote) :=
  ⟨req, rfl, rfl, h⟩

/-- A field with a bound is stored whole in its buffer, or refused. -/
theorem fills_bounded {n : Nat} {req : RequestHeader} (hcookie : req.CookieOk) (buf : Buffer n)
    (status : Nat) {value : List UInt8} (hzero : 0 ∉ value) {put : Buffer n → RequestHeader}
    {r : Http2.RequestHeader}
    (hput : ∀ buf', buf'.str = some value → (put buf').denote = r ∧ (put buf').CookieOk) :
    Fills (if value.length ≥ n then some (status, req)
        else (buf.snprintf value).bind fun buf' => some (0, put buf'))
      (if value.length ≥ n then (status, req.denote) else (0, r)) := by
  by_cases hlong : value.length ≥ n
  · rw [if_pos hlong, if_pos hlong]
    exact fills_same hcookie status
  · obtain ⟨buf', hrun, hstr⟩ := buf.snprintf_str value (by omega)
    rw [List.take_of_length_le (by omega), cstr_of_notMem hzero] at hstr
    rw [if_neg hlong, if_neg hlong, hrun]
    exact ⟨put buf', rfl, hput buf' hstr⟩

theorem take_set_set {l : List UInt8} {i : Nat} (h : i + 1 < l.length) (a b : UInt8) :
    ((l.set i a).set (i + 1) b).take (i + 2) = l.take i ++ [a, b] := by
  induction l generalizing i with
  | nil =>
      rw [List.length_nil] at h
      omega
  | cons c l ih =>
      cases i with
      | zero =>
          rw [List.length_cons] at h
          obtain ⟨d, l', rfl⟩ := List.exists_cons_of_length_pos (l := l) (by omega)
          rfl
      | succ i =>
          rw [List.length_cons] at h
          rw [List.set_cons_succ, List.set_cons_succ, List.take_succ_cons, List.take_succ_cons,
            ih (by omega), List.cons_append]

theorem cookie_spec {req : RequestHeader} (hcookie : req.CookieOk) {value : List UInt8}
    (hzero : 0 ∉ value) (trustProxy : Bool) :
    Fills (http2HpackLiteralHeaderWithName trustProxy (ascii "cookie") value req)
      (Http2.http2HpackLiteralHeaderWithName trustProxy ⟨ascii "cookie", value⟩ req.denote) := by
  have hname : ascii "cookie" ≠ ascii ":path" ∧
      ¬ (ascii "cookie" = ascii ":authority" ∨ ascii "cookie" = ascii "host") ∧
      ascii "cookie" ≠ ascii "content-type" := by decide
  unfold http2HpackLiteralHeaderWithName Http2.http2HpackLiteralHeaderWithName
  dsimp only
  rw [if_neg hname.1, if_neg hname.2.1, if_neg hname.2.2, if_pos rfl, if_neg hname.1,
    if_neg hname.2.1, if_neg hname.2.2, if_pos rfl, hcookie]
  simp only [Option.bind_eq_bind, Option.bind_some]
  have hroom := Buffer.str_length_lt hcookie
  have hbytes := Buffer.cstr_of_str hcookie
  have hzero' := Buffer.zero_notMem_of_str hcookie
  generalize req.denote.cookieData.getD [] = current at hroom hbytes hzero'
  by_cases hempty : current.length = 0
  · rw [if_pos hempty, if_pos hempty]
    by_cases hlong : value.length ≥ 1024
    · rw [if_pos hlong, if_pos hlong]
      exact fills_same hcookie 431
    · obtain ⟨buf, hrun, hstr⟩ := req.h2CookieBuf.copy_zero (i := 0) (s := value) (by omega)
      rw [List.take_zero, List.nil_append, cstr_of_notMem hzero] at hstr
      rw [if_neg hlong, if_neg hlong, hrun]
      refine ⟨_, rfl, ?_, ?_⟩
      · simp only [RequestHeader.denote, if_true, Buffer.cstr_of_str hstr]
      · simp only [RequestHeader.CookieOk, RequestHeader.denote, if_true, Option.getD_some, hstr,
          Buffer.cstr_of_str hstr]
  · rw [if_neg hempty, if_neg hempty]
    by_cases hlong : current.length + 2 + value.length ≥ 1024
    · rw [if_pos hlong, if_pos hlong]
      exact fills_same hcookie 431
    · rw [if_neg hlong, if_neg hlong]
      obtain ⟨buf₁, hwrite₁, hbytes₁⟩ := req.h2CookieBuf.write_eq (i := current.length) 59 (by omega)
      obtain ⟨buf₂, hwrite₂, hbytes₂⟩ := buf₁.write_eq (i := current.length + 1) 32 (by omega)
      obtain ⟨buf₃, hcopy, hstr⟩ := buf₂.copy_zero (i := current.length + 2) (s := value) (by omega)
      have hcurrent : req.h2CookieBuf.bytes.take current.length = current := by
        rw [← hbytes]
        exact (List.prefix_iff_eq_take.mp (cstr_isPrefix _)).symm
      have hlen := req.h2CookieBuf.length_eq
      -- the separator goes over the NUL of the cookies so far
      rw [hbytes₂, hbytes₁, take_set_set (by omega), hcurrent,
        show ([59, 32] : List UInt8) = ascii "; " from rfl, cstr_of_notMem (by
          have hsep : (0 : UInt8) ∉ ascii "; " := by decide
          simp only [List.mem_append, not_or]
          exact ⟨⟨hzero', hsep⟩, hzero⟩)] at hstr
      rw [hwrite₁, Option.bind_some, hwrite₂, Option.bind_some, hcopy]
      refine ⟨_, rfl, ?_, ?_⟩
      · simp only [RequestHeader.denote, if_true, Buffer.cstr_of_str hstr]
      · simp only [RequestHeader.CookieOk, RequestHeader.denote, if_true, Option.getD_some, hstr,
          Buffer.cstr_of_str hstr]

theorem http2HpackLiteralHeaderWithName_spec {req : RequestHeader} (hcookie : req.CookieOk)
    (trustProxy : Bool) (name : List UInt8) {value : List UInt8} (hzero : 0 ∉ value) :
    Fills (http2HpackLiteralHeaderWithName trustProxy name value req)
      (Http2.http2HpackLiteralHeaderWithName trustProxy ⟨name, value⟩ req.denote) := by
  -- the source tests the names one after the other; the cookie is the one field with an
  -- invariant, as its values are joined in place
  by_cases hname : name = ascii "cookie"
  · rw [hname]
    exact cookie_spec hcookie hzero trustProxy
  · unfold http2HpackLiteralHeaderWithName Http2.http2HpackLiteralHeaderWithName
    dsimp only
    by_cases hpath : name = ascii ":path"
    · rw [if_pos hpath, if_pos hpath]
      refine fills_bounded hcookie req.h2UriBuf 414 hzero fun buf' hstr => ⟨?_, hcookie⟩
      simp only [RequestHeader.denote, if_true, Buffer.cstr_of_str hstr]
    rw [if_neg hpath, if_neg hpath]
    by_cases hhost : name = ascii ":authority" ∨ name = ascii "host"
    · rw [if_pos hhost, if_pos hhost]
      refine fills_bounded hcookie req.h2HostBuf 431 hzero fun buf' hstr => ⟨?_, hcookie⟩
      simp only [RequestHeader.denote, if_true, Buffer.cstr_of_str hstr]
    rw [if_neg hhost, if_neg hhost]
    by_cases htype : name = ascii "content-type"
    · rw [if_pos htype, if_pos htype]
      refine fills_bounded hcookie req.h2ContentTypeBuf 431 hzero fun buf' hstr => ⟨?_, hcookie⟩
      simp only [RequestHeader.denote, if_true, Buffer.cstr_of_str hstr]
    rw [if_neg htype, if_neg htype, if_neg hname, if_neg hname]
    by_cases hlength : name = ascii "content-length"
    · rw [if_pos hlength, if_pos hlength]
      exact ⟨_, rfl, rfl, hcookie⟩
    rw [if_neg hlength, if_neg hlength]
    by_cases hmethod : name = ascii ":method"
    · rw [if_pos hmethod, if_pos hmethod]
      refine fills_bounded hcookie req.method 431 hzero fun buf' hstr => ⟨?_, hcookie⟩
      simp only [RequestHeader.denote, Buffer.cstr_of_str hstr]
    rw [if_neg hmethod, if_neg hmethod]
    by_cases hscheme : name = ascii ":scheme"
    · rw [if_pos hscheme, if_pos hscheme]
      exact ⟨_, rfl, rfl, hcookie⟩
    rw [if_neg hscheme, if_neg hscheme]
    by_cases hforwarded : name = ascii "x-forwarded-for" ∧ trustProxy = true
    · rw [if_pos hforwarded, if_pos hforwarded]
      by_cases hcomma : 44 ∈ value
      · rw [if_pos hcomma, if_pos hcomma]
        -- the first address of a list is copied only where it fits the buffer
        set ip := value.takeWhile (fun b => b ≠ 44) with hip
        by_cases hfits : ip.length < 45
        · have hzeroIp : 0 ∉ ip := fun h0 => hzero ((List.takeWhile_prefix _).mem h0)
          obtain ⟨buf, hcopy, hbytes⟩ := req.clientIp.copy_eq (i := 0) (s := ip) (by omega)
          obtain ⟨buf', hwrite, hstr⟩ := buf.write_zero hfits
          rw [hbytes, List.take_zero, List.nil_append, List.take_left, cstr_of_notMem hzeroIp]
            at hstr
          rw [if_pos hfits, if_pos hfits, hcopy]
          simp only [Option.bind_eq_bind, Option.bind_some, hwrite]
          exact ⟨_, rfl, by simp only [RequestHeader.denote, Buffer.cstr_of_str hstr], hcookie⟩
        · rw [if_neg hfits, if_neg hfits]
          exact fills_same hcookie 0
      · rw [if_neg hcomma, if_neg hcomma]
        refine fills_bounded hcookie req.clientIp 431 hzero fun buf' hstr => ⟨?_, hcookie⟩
        simp only [RequestHeader.denote, Buffer.cstr_of_str hstr]
    rw [if_neg hforwarded, if_neg hforwarded]
    by_cases hprotocol : name = ascii ":protocol"
    · rw [if_pos hprotocol, if_pos hprotocol]
      by_cases hws : value = ascii "websocket"
      · rw [if_pos hws, if_pos hws]
        exact ⟨_, rfl, rfl, hcookie⟩
      · rw [if_neg hws, if_neg hws]
        exact fills_same hcookie 0
    rw [if_neg hprotocol, if_neg hprotocol]
    exact fills_same hcookie 0

/-! ## One pass -/

theorem HPACKDynamicTable.Holds.zero_notMem {table : HPACKDynamicTable}
    {t : Http2.HPACKDynamicTable} (h : table.Holds t) {f : Field} (hf : f ∈ t.entries) :
    0 ∉ f.value := by
  cases h with
  | null => exact absurd hf List.not_mem_nil
  | @array entries t hlen hentries =>
      have hcount := t.count_le
      obtain ⟨i, hi, rfl⟩ := List.mem_iff_getElem.mp hf
      have htake : i < (entries.take t.entries.length).length := by
        rw [List.length_take]
        omega
      exact Buffer.zero_notMem_of_str (hentries.get htake hi).2

theorem getHeader_zero_notMem {table : HPACKDynamicTable} {t : Http2.HPACKDynamicTable}
    (h : table.Holds t) {index : Nat} {f : Field}
    (hf : Http2.http2HpackGetHeader t index = some f) : 0 ∉ f.value := by
  unfold Http2.http2HpackGetHeader at hf
  split at hf
  · obtain ⟨e, he, rfl⟩ := Option.map_eq_some_iff.mp hf
    exact (staticEntries_shortText e (List.mem_of_getElem? he)).2
  · split at hf
    · exact h.zero_notMem (List.mem_of_getElem? hf)
    · cases hf

/-- What a pass makes of the field it has read. -/
def fieldOutcome (trustProxy : Bool) (req : Http2.RequestHeader) :
    Option Field → Nat × Http2.RequestHeader
  | none => (0, req)
  | some f => Http2.http2HpackLiteralHeaderWithName trustProxy f req

theorem http2HpackIndexedHeader_spec {table : HPACKDynamicTable} {t : Http2.HPACKDynamicTable}
    (h : table.Holds t) {req : RequestHeader} (hcookie : req.CookieOk) (trustProxy : Bool)
    {index : Nat} (hindex : index < 2 ^ 32) :
    Fills (http2HpackIndexedHeader trustProxy table index req)
      (fieldOutcome trustProxy req.denote (Http2.http2HpackGetHeader t index)) := by
  unfold http2HpackIndexedHeader
  by_cases hzero : index = 0
  · rw [if_pos hzero, hzero]
    exact fills_same hcookie 0
  · rw [if_neg hzero, http2HpackGetHeader_spec h hindex]
    simp only [Option.bind_eq_bind, Option.bind_some]
    cases hget : Http2.http2HpackGetHeader t index with
    | none => exact fills_same hcookie 0
    | some f =>
        exact http2HpackLiteralHeaderWithName_spec hcookie trustProxy f.name
          (getHeader_zero_notMem h hget)

/-- What a pass leaves behind that has read `r`. -/
structure Passes (trustProxy : Bool) (mem : List UInt8) (stop : Nat) (s : LoopState)
    (t : Http2.HPACKDynamicTable) (r : FieldRead) (s' : LoopState) (t' : Http2.HPACKDynamicTable) :
    Prop where
  lt : s.pos < s'.pos
  moved : Moved mem stop s.pos s'.pos r.rest
  holds : s'.table.Holds t'
  cookie : s'.req.CookieOk
  outcome : (s'.status, s'.req.denote) = fieldOutcome trustProxy s.req.denote r.field
  isSome_eq : s'.table.entries.isSome = s.table.entries.isSome
  table_eq : s.table.entries.isSome = true → t' = r.tableAfter t

/-- The name part of `readLiteral`. -/
def readName (table : Http2.HPACKDynamicTable) (index : Nat) (p : List UInt8) :
    List UInt8 × List UInt8 :=
  if index = 0 then Http2.http2HpackDecodeStringBuf p 128
  else
    match Http2.http2HpackGetHeader table index with
    | some f => (f.name.take 127, p)
    | none => ([], p)

theorem readLiteral_eq (table : Http2.HPACKDynamicTable) (pos : List UInt8) (mask : Nat)
    (inserts : Bool) :
    let name := readName table (Http2.http2HpackDecodeInt pos mask).1
      (Http2.http2HpackDecodeInt pos mask).2
    readLiteral table pos mask inserts
      = ⟨(Http2.http2HpackDecodeStringBuf name.2 512).2,
        nonEmptyField name.1 (Http2.http2HpackDecodeStringBuf name.2 512).1, inserts⟩ := rfl

section Pass

variable {mem : List UInt8} {stop : Nat} {s : LoopState} {t : Http2.HPACKDynamicTable}

theorem literalName_spec (hstop : stop ≤ mem.length) {pos : Nat} (hpos : pos ≤ stop)
    (h : s.table.Holds t) {index : Nat} (hindex : index < 2 ^ 32) :
    ∃ nameBuf pos', literalName mem stop pos s.table index = some (nameBuf, pos') ∧
      nameBuf.str = some (cstr (readName t index (view mem stop pos)).1) ∧
      Moved mem stop pos pos' (readName t index (view mem stop pos)).2 := by
  have hclear : (Buffer.zeros 128).str = some [] := Buffer.zeros_str (by decide)
  unfold literalName
  dsimp only
  by_cases hzero : index = 0
  · have hname : readName t index (view mem stop pos)
        = Http2.http2HpackDecodeStringBuf (view mem stop pos) 128 := if_pos hzero
    obtain ⟨ok, nameBuf, pos', hrun, hstr, hmoved⟩ :=
      http2HpackDecodeStringBuf_spec hstop hpos (by decide) hclear
    rw [if_pos hzero, hrun, hname]
    exact ⟨nameBuf, pos', rfl, hstr, hmoved⟩
  · rw [if_neg hzero, http2HpackGetHeader_spec h hindex]
    simp only [Option.bind_eq_bind, Option.bind_some]
    cases hget : Http2.http2HpackGetHeader t index with
    | none =>
        have hname : readName t index (view mem stop pos) = ([], view mem stop pos) := by
          simp only [readName, if_neg hzero, hget]
        rw [hname]
        exact ⟨_, pos, rfl, hclear, Moved.refl hpos⟩
    | some f =>
        have hname : readName t index (view mem stop pos)
            = (f.name.take 127, view mem stop pos) := by
          simp only [readName, if_neg hzero, hget]
        obtain ⟨nameBuf, hrun, hstr⟩ := (Buffer.zeros 128).snprintf_str f.name (by decide)
        rw [hname]
        simp only [Option.map_some, hrun, Option.bind_some]
        exact ⟨nameBuf, pos, rfl, hstr, Moved.refl hpos⟩

theorem literalPass_spec (hstop : stop ≤ mem.length) (hlt : s.pos < stop) (h : s.table.Holds t)
    (hcookie : s.req.CookieOk) (trustProxy : Bool) {mask : Nat} (hmask : mask < 2 ^ 32)
    (inserts : Bool) :
    ∃ s' t', literalPass trustProxy mem stop mask inserts s = some s' ∧
      Passes trustProxy mem stop s t (readLiteral t (view mem stop s.pos) mask inserts) s' t' := by
  obtain ⟨pos₁, hint, hmoved₁, hlt₁⟩ :=
    http2HpackDecodeInt_spec hstop (Nat.le_of_lt hlt) mask
  have hindex := http2HpackDecodeInt_lt (view mem stop s.pos) hmask
  obtain ⟨nameBuf, pos₂, hname, hnameStr, hmoved₂⟩ :=
    literalName_spec hstop hmoved₁.le_stop h hindex
  obtain ⟨ok, valBuf, pos₃, hval, hvalStr, hmoved₃⟩ :=
    http2HpackDecodeStringBuf_spec hstop hmoved₂.le_stop (by decide)
      (Buffer.zeros_str (by decide : 0 < 512))
  have hpos : s.pos < pos₃ :=
    calc s.pos < pos₁ := hlt₁ hlt
      _ ≤ pos₂ := hmoved₂.le
      _ ≤ pos₃ := hmoved₃.le
  obtain ⟨nameFirst, hnameFirst, hnameNil⟩ := Buffer.getElem?_zero_of_str hnameStr
  obtain ⟨valFirst, hvalFirst, hvalNil⟩ := Buffer.getElem?_zero_of_str hvalStr
  have hread := readLiteral_eq t (view mem stop s.pos) mask inserts
  dsimp only at hread
  rw [← hmoved₁.view_eq, ← hmoved₂.view_eq] at hread
  generalize (readName t _ (view mem stop pos₁)).1 = nameText at hread hnameStr hnameNil
  have hmoved := (hmoved₁.trans hmoved₂).trans hmoved₃
  rw [hread]
  unfold literalPass
  rw [hint]
  simp only [Option.bind_eq_bind, Option.bind_some, hname, hval, hnameFirst, hvalFirst]
  -- an empty name or value is skipped without a word: nothing is stored and nothing inserted
  by_cases hboth : nameFirst ≠ 0 ∧ valFirst ≠ 0
  · obtain ⟨req', hlit, hreq, hcookie'⟩ := http2HpackLiteralHeaderWithName_spec hcookie trustProxy
      (cstr nameText) (Buffer.zero_notMem_of_str hvalStr)
    obtain ⟨table', t', hadd, hholds, hsome, htable⟩ := http2HpackDynamicTableAdd_spec h
      (Buffer.zero_notMem_of_str hnameStr) (Buffer.zero_notMem_of_str hvalStr)
    have hfield : nonEmptyField nameText
        (Http2.http2HpackDecodeStringBuf (view mem stop pos₂) 512).1
        = some ⟨cstr nameText, cstr (Http2.http2HpackDecodeStringBuf (view mem stop pos₂) 512).1⟩ :=
      if_pos ⟨hnameNil.mp hboth.1, hvalNil.mp hboth.2⟩
    rw [if_pos hboth, hnameStr, hvalStr, hfield]
    simp only [Option.bind_some, hlit, hadd]
    cases inserts with
    | true => exact ⟨_, t', rfl, hpos, hmoved, hholds, hcookie', by rw [hreq]; rfl, hsome, htable⟩
    | false => exact ⟨_, t, rfl, hpos, hmoved, h, hcookie', by rw [hreq]; rfl, rfl, fun _ => rfl⟩
  · have hfield : nonEmptyField nameText
        (Http2.http2HpackDecodeStringBuf (view mem stop pos₂) 512).1 = none :=
      if_neg (fun hne => hboth ⟨hnameNil.mpr hne.1, hvalNil.mpr hne.2⟩)
    rw [if_neg hboth, hfield]
    exact ⟨_, t, rfl, hpos, hmoved, h, hcookie, rfl, rfl, fun _ => rfl⟩

theorem pass_spec (hstop : stop ≤ mem.length) (hlt : s.pos < stop) (h : s.table.Holds t)
    (hcookie : s.req.CookieOk) (trustProxy : Bool) :
    ∃ b p s' t', view mem stop s.pos = b :: p ∧ pass trustProxy mem stop s = some s' ∧
      Passes trustProxy mem stop s t (readField t b p) s' t' := by
  obtain ⟨b, hb, hview⟩ := view_cons hstop hlt
  obtain ⟨h80, hC0, hE0⟩ := firstByte_and b.toNat b.toNat_lt
  refine ⟨b, view mem stop (s.pos + 1), ?_⟩
  unfold pass readField
  rw [hb, ← hview]
  simp only [Option.bind_eq_bind, Option.bind_some, true_and]
  by_cases hindexed : b.toNat &&& 0x80 ≠ 0
  · obtain ⟨pos, hint, hmoved, hpos⟩ := http2HpackDecodeInt_spec hstop (Nat.le_of_lt hlt) 0x7F
    have hindex := http2HpackDecodeInt_lt (view mem stop s.pos)
      (show 0x7F < 2 ^ 32 by decide)
    obtain ⟨req', hrun, hreq, hcookie'⟩ := http2HpackIndexedHeader_spec h hcookie trustProxy hindex
    rw [if_pos hindexed, if_pos hindexed, hint]
    simp only [Option.bind_some, hrun]
    refine ⟨_, t, rfl, hpos hlt, hmoved, h, hcookie', by rw [hreq], rfl, fun _ => ?_⟩
    rw [FieldRead.tableAfter]
    split <;> rfl
  rw [if_neg hindexed, if_neg hindexed]
  by_cases hincremental : b.toNat &&& 0xC0 = 0x40
  · rw [if_pos hincremental, if_pos hincremental]
    obtain ⟨s', t', hrun⟩ := literalPass_spec hstop hlt h hcookie trustProxy
      (show 0x3F < 2 ^ 32 by decide) true
    exact ⟨s', t', hrun⟩
  rw [if_neg hincremental, if_neg hincremental]
  by_cases hsize : b.toNat &&& 0xE0 = 0x20
  · obtain ⟨pos, hint, hmoved, hpos⟩ := http2HpackDecodeInt_spec hstop (Nat.le_of_lt hlt) 0x1F
    rw [if_pos hsize, if_pos hsize, hint]
    exact ⟨_, t, rfl, hpos hlt, hmoved, h, hcookie, rfl, rfl, fun _ => rfl⟩
  -- the last branch of the source is never taken: what is left is below 32
  have hlast : b.toNat &&& 0xF0 = 0x00 ∨ b.toNat &&& 0xF0 = 0x10 := by
    have hlow : b.toNat < 32 := by omega
    revert hlow
    generalize b.toNat = m
    revert m
    decide
  rw [if_neg hsize, if_neg hsize, if_pos hlast]
  obtain ⟨s', t', hrun⟩ := literalPass_spec hstop hlt h hcookie trustProxy
    (show 0x0F < 2 ^ 32 by decide) false
  exact ⟨s', t', hrun⟩

end Pass

/-! ## The loop -/

/-- At most 128 entries are in use, each with a NUL in both its buffers; `calloc` may have
failed. -/
structure HPACKDynamicTable.WellFormed (table : HPACKDynamicTable) : Prop where
  count_le : table.count ≤ 128
  count_null : table.entries = none → table.count = 0
  slots : ∀ entries, table.entries = some entries → entries.length = 128 ∧
    ∀ e ∈ entries.take table.count, e.name.str.isSome ∧ e.value.str.isSome

theorem forall₂_strings (entries : List HPACKEntry)
    (h : ∀ e ∈ entries, e.name.str.isSome ∧ e.value.str.isSome) :
    ∃ fields : List Field, List.Forall₂ HPACKEntry.Holds entries fields := by
  induction entries with
  | nil => exact ⟨[], .nil⟩
  | cons e entries ih =>
      rw [List.forall_mem_cons] at h
      obtain ⟨fields, hfields⟩ := ih h.2
      obtain ⟨name, hname⟩ := Option.isSome_iff_exists.mp h.1.1
      obtain ⟨value, hvalue⟩ := Option.isSome_iff_exists.mp h.1.2
      exact ⟨⟨name, value⟩ :: fields, .cons ⟨hname, hvalue⟩ hfields⟩

/-- The well formed tables are the ones that hold a table of `Hpack`. -/
theorem wellFormed_iff (table : HPACKDynamicTable) : table.WellFormed ↔ ∃ t, table.Holds t := by
  constructor
  · rintro ⟨hcount, hnull, hslots⟩
    obtain ⟨_ | entries, count⟩ := table
    · have hzero : count = 0 := hnull rfl
      rw [hzero]
      exact ⟨.empty, .null⟩
    · obtain ⟨hlen, hstr⟩ := hslots entries rfl
      obtain ⟨fields, hfields⟩ := forall₂_strings (entries.take count) hstr
      dsimp only at hcount
      have hfieldsLen : count = fields.length := by
        have heq := hfields.length_eq
        rw [List.length_take] at heq
        omega
      subst hfieldsLen
      have hholds := HPACKDynamicTable.Holds.array (t := ⟨fields, hcount⟩) hlen hfields
      exact ⟨⟨fields, hcount⟩, hholds⟩
  · rintro ⟨t, hholds⟩
    cases hholds with
    | null => exact ⟨Nat.zero_le 128, fun _ => rfl, fun _ h => (nomatch h)⟩
    | @array entries t hlen hentries =>
        refine ⟨t.count_le, fun h => (nomatch h), ?_⟩
        rintro _ ⟨⟩
        refine ⟨hlen, fun e he => ?_⟩
        obtain ⟨i, hi, rfl⟩ := List.mem_iff_getElem.mp he
        have hfield : i < t.entries.length := hentries.length_eq ▸ hi
        obtain ⟨hname, hvalue⟩ := hentries.get hi hfield
        rw [List.get_eq_getElem] at hname hvalue
        rw [hname, hvalue]
        exact ⟨rfl, rfl⟩

section Loop

variable {mem : List UInt8} {stop : Nat}

/-- **The loop follows the loop of `Hpack`**: with fuel for every byte it reads the block to its
end or to a status, and no access fails. -/
theorem parseHeaderLoop_spec (hstop : stop ≤ mem.length) (trustProxy : Bool) {fuel : Nat}
    {s : LoopState} {t : Http2.HPACKDynamicTable} (hpos : s.pos ≤ stop)
    (hfuel : stop - s.pos ≤ fuel) (hstatus : s.status = 0) (h : s.table.Holds t)
    (hcookie : s.req.CookieOk) :
    ∃ s' t', parseHeaderLoop trustProxy mem stop fuel s = some s' ∧
      (s'.pos = stop ∨ s'.status ≠ 0) ∧ s'.table.Holds t' ∧
      (s.table.entries.isSome = true →
        let block := Http2.parseHeaderLoop trustProxy fuel t s.req.denote (view mem stop s.pos)
        s'.status = block.status ∧ s'.req.denote = block.req ∧ t' = block.table) := by
  induction fuel generalizing s t with
  | zero =>
      have hend : s.pos = stop := by omega
      refine ⟨s, t, rfl, Or.inl hend, h, fun _ => ?_⟩
      exact ⟨hstatus, rfl, rfl⟩
  | succ fuel ih =>
      by_cases hlt : s.pos < stop
      · obtain ⟨b, p, s₁, t₁, hview, hpass, hread⟩ := pass_spec hstop hlt h hcookie trustProxy
        have hadv := hread.lt
        have hle := hread.moved.le_stop
        have hout := hread.outcome
        rw [parseHeaderLoop, if_pos ⟨hlt, hstatus⟩, hpass, hview, Http2.parseHeaderLoop]
        simp only [Option.bind_eq_bind, Option.bind_some]
        by_cases hgo : s₁.status = 0
        · obtain ⟨s₂, t₂, hloop, hdone, hholds, hblock⟩ :=
            ih hle (by omega) hgo hread.holds hread.cookie
          refine ⟨s₂, t₂, hloop, hdone, hholds, fun hsome => ?_⟩
          have hnext := hblock (hread.isSome_eq ▸ hsome)
          rw [hread.table_eq hsome, hread.moved.view_eq] at hnext
          cases hfield : (readField t b p).field with
          | none =>
              rw [hfield, fieldOutcome, Prod.mk.injEq] at hout
              rw [hout.2] at hnext
              exact hnext
          | some f =>
              rw [hfield, fieldOutcome] at hout
              dsimp only
              rw [← hout, if_neg (not_not.mpr hgo)]
              exact hnext
        · -- the status ends the loop
          refine ⟨s₁, t₁, ?_, Or.inr hgo, hread.holds, fun hsome => ?_⟩
          · cases fuel with
            | zero => rfl
            | succ fuel => rw [parseHeaderLoop, if_neg (fun hand => hgo hand.2)]
          · rw [hread.table_eq hsome]
            cases hfield : (readField t b p).field with
            | none =>
                rw [hfield, fieldOutcome, Prod.mk.injEq] at hout
                exact absurd hout.1 hgo
            | some f =>
                rw [hfield, fieldOutcome] at hout
                dsimp only
                rw [← hout, if_pos hgo]
                exact ⟨rfl, rfl, rfl⟩
      · have hend : s.pos = stop := by omega
        refine ⟨s, t, ?_, Or.inl hend, h, fun _ => ?_⟩
        · rw [parseHeaderLoop, if_neg (fun hand => hlt hand.1)]
        · rw [view_of_le (by omega)]
          exact ⟨hstatus, rfl, rfl⟩

/-- One pass of the loop, taken as long as there is something to read and no status. -/
def PassStep (trustProxy : Bool) (mem : List UInt8) (stop : Nat) (s s' : LoopState) : Prop :=
  s.pos < stop ∧ s.status = 0 ∧ pass trustProxy mem stop s = some s'

/-- What holds in front of every pass. -/
structure LoopOk (stop : Nat) (s : LoopState) : Prop where
  pos_le : s.pos ≤ stop
  table : s.table.WellFormed
  cookie : s.req.CookieOk

theorem pass_advances (hstop : stop ≤ mem.length) (trustProxy : Bool) {s : LoopState}
    (hok : LoopOk stop s) (hlt : s.pos < stop) :
    ∃ s', pass trustProxy mem stop s = some s' ∧ s.pos < s'.pos ∧ LoopOk stop s' := by
  obtain ⟨t, hholds⟩ := (wellFormed_iff s.table).mp hok.table
  obtain ⟨b, p, s', t', -, hpass, hread⟩ := pass_spec hstop hlt hholds hok.cookie trustProxy
  exact ⟨s', hpass, hread.lt, hread.moved.le_stop, (wellFormed_iff s'.table).mpr ⟨t', hread.holds⟩,
    hread.cookie⟩

theorem loopOk_of_steps (hstop : stop ≤ mem.length) (trustProxy : Bool) {s s' : LoopState}
    (hok : LoopOk stop s) (h : Relation.ReflTransGen (PassStep trustProxy mem stop) s s') :
    LoopOk stop s' := by
  induction h with
  | refl => exact hok
  | tail _ hstep ih =>
      obtain ⟨hlt, -, hpass⟩ := hstep
      obtain ⟨s'', hrun, -, hok'⟩ := pass_advances hstop trustProxy ih hlt
      rw [hpass, Option.some.injEq] at hrun
      exact hrun ▸ hok'

end Loop

theorem stripHeadersPadding_spec (flags : UInt8) (payload : List UInt8) :
    ∃ pos len, stripHeadersPadding flags payload = some (pos, len) ∧
      pos + len ≤ payload.length := by
  have hstrip : ∀ padLen pos len : Nat, pos + len ≤ payload.length →
      let p := if flags.toNat &&& 0x20 ≠ 0 ∧ len ≥ 5 then (pos + 5, len - 5) else (pos, len)
      ∃ pos' len', some (p.1, if p.2 > padLen then p.2 - padLen else 0) = some (pos', len') ∧
        pos' + len' ≤ payload.length := by
    intro padLen pos len hle p
    refine ⟨_, _, rfl, ?_⟩
    have hp : p.1 + p.2 ≤ payload.length := by
      unfold p
      split
      · dsimp only
        omega
      · exact hle
    split <;> omega
  unfold stripHeadersPadding
  by_cases hpadded : flags.toNat &&& 0x08 ≠ 0 ∧ payload.length > 0
  · obtain ⟨b, hb⟩ : ∃ b, payload[0]? = some b := ⟨_, List.getElem?_eq_getElem hpadded.2⟩
    dsimp only
    rw [if_pos hpadded, hb]
    exact hstrip b.toNat 1 (payload.length - 1) (by omega)
  · dsimp only
    rw [if_neg hpadded]
    exact hstrip 0 0 payload.length (by omega)

theorem view_block (mem : List UInt8) (pos len : Nat) :
    view mem (pos + len) pos = (mem.drop pos).take len := by
  unfold view
  rw [List.drop_take, Nat.add_sub_cancel_left]

/-- **Decoding a HEADERS payload does what `Hpack` says**, on the block that is left when padding
and priority are gone. -/
theorem parseHeader_denotes (trustProxy : Bool) (flags : UInt8) (payload : List UInt8)
    {table : HPACKDynamicTable} {t : Http2.HPACKDynamicTable} (h : table.Holds t)
    (hsome : table.entries.isSome = true) (req : RequestHeader) {pos len : Nat}
    (hstrip : stripHeadersPadding flags payload = some (pos, len)) (hlen : len ≠ 0) :
    ∃ s, parseHeader trustProxy flags payload table req = some s ∧
      let block := Http2.parseHeader trustProxy t req.denote ((payload.drop pos).take len)
      s.status = block.status ∧ s.req.denote = block.req ∧ s.table.Holds block.table := by
  obtain ⟨pos', len', hstrip', hle⟩ := stripHeadersPadding_spec flags payload
  rw [hstrip, Option.some.injEq, Prod.mk.injEq] at hstrip'
  rw [← hstrip'.1, ← hstrip'.2] at hle
  obtain ⟨s, t', hrun, -, hholds, hblock⟩ := parseHeaderLoop_spec
    (s := ⟨pos, 0, table, req.reset⟩) hle trustProxy (Nat.le_add_right pos len)
    (show pos + len - pos ≤ len by omega) rfl h (cookieOk_reset req)
  obtain ⟨hstatus, hreq, rfl⟩ := hblock hsome
  have hfuel : ((payload.drop pos).take len).length = len := by
    rw [List.length_take, List.length_drop]
    omega
  unfold parseHeader Http2.parseHeader
  rw [hstrip, hfuel]
  simp only [Option.bind_eq_bind, Option.bind_some, if_neg hlen]
  dsimp only at hstatus hreq hholds
  rw [denote_reset, view_block] at hstatus hreq hholds
  exact ⟨s, hrun, hstatus, hreq, hholds⟩

/-- **Decoding a HEADERS payload is safe.** No access leaves its array, the loop ends, and every
pass moves the position forward inside the block. -/
theorem parseHeader_safe (trustProxy : Bool) (flags : UInt8) (payload : List UInt8)
    {table : HPACKDynamicTable} (htable : table.WellFormed) (req : RequestHeader) :
    ∃ pos len, stripHeadersPadding flags payload = some (pos, len) ∧
      pos + len ≤ payload.length ∧
      (∃ s, parseHeader trustProxy flags payload table req = some s ∧
        (s.pos = pos + len ∨ s.status ≠ 0) ∧ s.table.WellFormed) ∧
      ∀ s, Relation.ReflTransGen (PassStep trustProxy payload (pos + len))
          ⟨pos, 0, table, req.reset⟩ s →
        s.pos < pos + len → s.status = 0 →
        ∃ s', pass trustProxy payload (pos + len) s = some s' ∧ s.pos < s'.pos ∧
          s'.pos ≤ pos + len := by
  obtain ⟨pos, len, hstrip, hle⟩ := stripHeadersPadding_spec flags payload
  refine ⟨pos, len, hstrip, hle, ?_, ?_⟩
  · unfold parseHeader
    rw [hstrip]
    simp only [Option.bind_eq_bind, Option.bind_some]
    by_cases hzero : len = 0
    · rw [if_pos hzero, hzero]
      exact ⟨_, rfl, Or.inl rfl, htable⟩
    · obtain ⟨t, hholds⟩ := (wellFormed_iff table).mp htable
      obtain ⟨s, t', hrun, hdone, hholds', -⟩ := parseHeaderLoop_spec
        (s := ⟨pos, 0, table, req.reset⟩) hle trustProxy (Nat.le_add_right pos len)
        (show pos + len - pos ≤ len by omega) rfl hholds (cookieOk_reset req)
      rw [if_neg hzero]
      exact ⟨s, hrun, hdone, (wellFormed_iff s.table).mpr ⟨t', hholds'⟩⟩
  · intro s hreach hlt _
    have hok := loopOk_of_steps hle trustProxy
      ⟨Nat.le_add_right pos len, htable, cookieOk_reset req⟩ hreach
    obtain ⟨s', hpass, hadv, hok'⟩ := pass_advances hle trustProxy hok hlt
    exact ⟨s', hpass, hadv, hok'.pos_le⟩

/-- `dyn_table` of a new session. -/
def newTable : HPACKDynamicTable := ⟨some (List.replicate 128 ⟨.zeros 128, .zeros 512⟩), 0⟩

theorem newTable_wellFormed : newTable.WellFormed := by
  refine ⟨Nat.zero_le 128, fun _ => rfl, ?_⟩
  rintro _ ⟨⟩
  exact ⟨List.length_replicate, fun e he => absurd he List.not_mem_nil⟩

/-- The request of a new stream. -/
def newRequest : RequestHeader :=
  ⟨.zeros 45, .zeros 16, .zeros 1024, .zeros 256, .zeros 128, .zeros 1024,
    false, false, false, false, 0, false, false⟩

theorem parseHeader_safe_padded :
    ∃ pos len, stripHeadersPadding 0x08 [1, 0x82, 0] = some (pos, len) ∧
      pos + len ≤ [1, 0x82, (0 : UInt8)].length ∧
      (∃ s, parseHeader false 0x08 [1, 0x82, 0] newTable newRequest = some s ∧
        (s.pos = pos + len ∨ s.status ≠ 0) ∧ s.table.WellFormed) ∧
      ∀ s, Relation.ReflTransGen (PassStep false [1, 0x82, 0] (pos + len))
          ⟨pos, 0, newTable, newRequest.reset⟩ s →
        s.pos < pos + len → s.status = 0 →
        ∃ s', pass false [1, 0x82, 0] (pos + len) s = some s' ∧ s.pos < s'.pos ∧
          s'.pos ≤ pos + len :=
  parseHeader_safe false 0x08 [1, 0x82, 0] newTable_wellFormed newRequest

end Halmos.Http2.Memory
