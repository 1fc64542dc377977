import Halmos.Basic.Bytes
import Halmos.Hpack.HuffmanCode

set_option autoImplicit false

/-! # HPACK

Header compression as RFC 7541 describes it: the static table, the dynamic table with its
eviction by size, the representations of a header block and what a decoder makes of them, and
the bytes an encoder writes for a representation.
-/

namespace Halmos.Hpack

/-- A header field. -/
structure Field where
  name : List UInt8
  value : List UInt8
  deriving DecidableEq, Repr

/-- The static table (Appendix A), from index 1 on. -/
def staticNames : List (String × String) :=
  [(":authority", ""), (":method", "GET"), (":method", "POST"), (":path", "/"),
    (":path", "/index.html"), (":scheme", "http"), (":scheme", "https"), (":status", "200"),
    (":status", "204"), (":status", "206"), (":status", "304"), (":status", "400"),
    (":status", "404"), (":status", "500"), ("accept-charset", ""),
    ("accept-encoding", "gzip, deflate"), ("accept-language", ""), ("accept-ranges", ""),
    ("accept", ""), ("access-control-allow-origin", ""), ("age", ""), ("allow", ""),
    ("authorization", ""), ("cache-control", ""), ("content-disposition", ""),
    ("content-encoding", ""), ("content-language", ""), ("content-length", ""),
    ("content-location", ""), ("content-range", ""), ("content-type", ""), ("cookie", ""),
    ("date", ""), ("etag", ""), ("expect", ""), ("expires", ""), ("from", ""), ("host", ""),
    ("if-match", ""), ("if-modified-since", ""), ("if-none-match", ""), ("if-range", ""),
    ("if-unmodified-since", ""), ("last-modified", ""), ("link", ""), ("location", ""),
    ("max-forwards", ""), ("proxy-authenticate", ""), ("proxy-authorization", ""), ("range", ""),
    ("referer", ""), ("refresh", ""), ("retry-after", ""), ("server", ""), ("set-cookie", ""),
    ("strict-transport-security", ""), ("transfer-encoding", ""), ("user-agent", ""),
    ("vary", ""), ("via", ""), ("www-authenticate", "")]

def staticTable : List Field := staticNames.map (fun e => ⟨ascii e.1, ascii e.2⟩)

/-! ## The dynamic table -/

/-- The size of an entry (Section 4.1). -/
def Field.size (f : Field) : Nat := f.name.length + f.value.length + 32

/-- The newest entries that fit into `room` bytes. -/
def fit : Nat → List Field → List Field
  | _, [] => []
  | room, f :: fs => if f.size ≤ room then f :: fit (room - f.size) fs else []

/-- A dynamic table: its entries, newest first, and its maximum size. -/
structure DynTable where
  entries : List Field
  maxSize : Nat
  deriving DecidableEq, Repr

/-- The table at the start of a connection. -/
def DynTable.empty (limit : Nat) : DynTable := ⟨[], limit⟩

/-- An entry is added and old ones are evicted (Section 4.4); an entry that is larger than the
table leaves it empty. -/
def DynTable.insert (t : DynTable) (f : Field) : DynTable :=
  { t with entries := fit t.maxSize (f :: t.entries) }

/-- The maximum size is changed (Section 4.3). -/
def DynTable.resize (t : DynTable) (size : Nat) : DynTable := ⟨fit size t.entries, size⟩

/-- The entry at an index of the joint address space (Section 2.3.3). -/
def DynTable.lookup (t : DynTable) (index : Nat) : Option Field :=
  if index = 0 then none
  else if index ≤ 61 then staticTable[index - 1]?
  else t.entries[index - 62]?

/-! ## Representations -/

/-- What a literal does to the dynamic table, now and in later hops. -/
inductive Indexing where
  | incremental
  | without
  | never
  deriving DecidableEq, Repr

/-- A string literal: its octets, and whether they are sent Huffman coded. -/
structure StringLit where
  octets : List UInt8
  huffman : Bool
  deriving DecidableEq, Repr

/-- The name of a literal: an index or a string. -/
inductive NameRef where
  | index (i : Nat)
  | lit (s : StringLit)
  deriving DecidableEq, Repr

/-- A representation (Section 6). -/
inductive Rep where
  | indexed (i : Nat)
  | literal (mode : Indexing) (name : NameRef) (value : StringLit)
  | sizeUpdate (size : Nat)
  deriving DecidableEq, Repr

/-- The name a literal refers to. -/
def DynTable.nameOf (t : DynTable) : NameRef → Option (List UInt8)
  | .index i => (t.lookup i).map Field.name
  | .lit s => some s.octets

/-- One representation: the table afterwards, and the field it adds to the header list. -/
def DynTable.decode (limit : Nat) (t : DynTable) : Rep → Option (DynTable × Option Field)
  | .indexed i => (t.lookup i).map (fun f => (t, some f))
  | .literal mode name value =>
      (t.nameOf name).map (fun n =>
        (if mode = .incremental then t.insert ⟨n, value.octets⟩ else t, some ⟨n, value.octets⟩))
  | .sizeUpdate size => if size ≤ limit then some (t.resize size, none) else none

/-- A header block: the table afterwards and the header list. -/
def DynTable.decodeBlock (limit : Nat) : DynTable → List Rep → Option (DynTable × List Field)
  | t, [] => some (t, [])
  | t, r :: rs =>
      (t.decode limit r).bind (fun x =>
        (decodeBlock limit x.1 rs).map (fun y => (y.1, x.2.toList ++ y.2)))

/-- The blocks of a connection, one header list each. -/
def DynTable.decodeBlocks (limit : Nat) : DynTable → List (List Rep) → Option (List (List Field))
  | _, [] => some []
  | t, b :: bs =>
      (t.decodeBlock limit b).bind (fun x =>
        (decodeBlocks limit x.1 bs).map (fun y => x.2 :: y))

/-! ## The encoder's bytes -/

/-- The continuation bytes of an integer (Section 5.1). -/
def encodeIntRest (n : Nat) : List UInt8 :=
  if n < 128 then [UInt8.ofNat n] else UInt8.ofNat (n % 128 + 128) :: encodeIntRest (n / 128)
termination_by n
decreasing_by omega

/-- An integer with a prefix of `width` bits in a byte whose high bits are `pattern`. -/
def encodeInt (width pattern n : Nat) : List UInt8 :=
  if n < 2 ^ width - 1 then [UInt8.ofNat (pattern + n)]
  else UInt8.ofNat (pattern + (2 ^ width - 1)) :: encodeIntRest (n - (2 ^ width - 1))

/-- The octets of a string literal as they are sent. -/
def StringLit.coded (s : StringLit) : List UInt8 :=
  if s.huffman then huffmanEncode s.octets else s.octets

/-- A string literal (Section 5.2). -/
def StringLit.encode (s : StringLit) : List UInt8 :=
  encodeInt 7 (if s.huffman then 0x80 else 0x00) s.coded.length ++ s.coded

def Indexing.pattern : Indexing → Nat
  | .incremental => 0x40
  | .without => 0x00
  | .never => 0x10

def Indexing.width : Indexing → Nat
  | .incremental => 6
  | .without => 4
  | .never => 4

/-- A representation (Section 6). -/
def Rep.encode : Rep → List UInt8
  | .indexed i => encodeInt 7 0x80 i
  | .literal mode (.index i) value => encodeInt mode.width mode.pattern i ++ value.encode
  | .literal mode (.lit name) value =>
      encodeInt mode.width mode.pattern 0 ++ name.encode ++ value.encode
  | .sizeUpdate size => encodeInt 5 0x20 size

/-- A header block. -/
def encodeBlock (reps : List Rep) : List UInt8 := reps.flatMap Rep.encode

theorem encodeInt_ne_nil (width pattern n : Nat) : encodeInt width pattern n ≠ [] := by
  unfold encodeInt
  split <;> exact List.cons_ne_nil _ _

theorem Rep.encode_ne_nil (rep : Rep) : rep.encode ≠ [] := by
  rcases rep with i | ⟨mode, i | name, value⟩ | size
  · exact encodeInt_ne_nil _ _ _
  · simp [Rep.encode, encodeInt_ne_nil]
  · simp [Rep.encode, encodeInt_ne_nil]
  · exact encodeInt_ne_nil _ _ _

/-! ## Facts about the table -/

theorem fit_isPrefix (room : Nat) (fs : List Field) : fit room fs <+: fs := by
  induction fs generalizing room with
  | nil => exact List.prefix_rfl
  | cons f fs ih =>
      rw [fit]
      split
      · exact (List.prefix_cons_inj f).mpr (ih _)
      · exact List.nil_prefix

/-- At least 32 bytes go to every entry. -/
theorem fit_length_le (room : Nat) (fs : List Field) : 32 * (fit room fs).length ≤ room := by
  induction fs generalizing room with
  | nil => exact Nat.zero_le room
  | cons f fs ih =>
      rw [fit]
      split
      · next hle =>
          have hrest := ih (room - f.size)
          have hsize : 32 ≤ f.size := Nat.le_add_left 32 _
          rw [List.length_cons]
          omega
      · exact Nat.zero_le room

end Halmos.Hpack
