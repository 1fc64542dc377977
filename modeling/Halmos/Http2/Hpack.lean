import Halmos.Basic.CString
import Halmos.Hpack.Rfc7541
import Halmos.Http2.Huffman

set_option autoImplicit false

/-! # Reading header blocks

The HPACK decoder of `halmos_http2_hpack.c` and the loop of `parse_header`
(`halmos_http2_parser.c`) that drives it. Positions in the payload are the bytes still to be
read. Strings come out of fixed buffers, so a name is at most 127 bytes and a value at most 511,
both cut at the first NUL.
-/

namespace Halmos.Http2

open Hpack

/-- The fields of `RequestHeader` that header fields set. A pointer into one of the inline
buffers is the string there; `none` is the null pointer. -/
structure RequestHeader where
  clientIp : List UInt8
  method : List UInt8
  uri : Option (List UInt8)
  host : Option (List UInt8)
  contentType : Option (List UInt8)
  cookieData : Option (List UInt8)
  contentLength : Int32
  isTls : Bool
  isUpgrade : Bool
  deriving DecidableEq

/-- What `parse_header` clears before it reads a block. -/
def RequestHeader.reset (req : RequestHeader) : RequestHeader :=
  { req with
    method := []
    uri := none
    host := none
    contentType := none
    cookieData := none }

/-- `dyn_table`: the entries in use, newest first, at most 128 of them. -/
structure HPACKDynamicTable where
  entries : List Field
  count_le : entries.length ≤ 128
  deriving DecidableEq

def HPACKDynamicTable.empty : HPACKDynamicTable := ⟨[], Nat.zero_le 128⟩

/-- `static_table` from index 1 on. -/
def staticEntries : List (String × String) :=
  [(":authority", ""), (":method", "GET"), (":method", "POST"), (":path", "/"),
    (":path", "/index.html"), (":scheme", "http"), (":scheme", "https"), (":status", "200"),
    (":status", "204"), (":status", "206"), (":status", "304"), (":status", "400"),
    (":status", "404"), (":status", "500"), ("accept-charset", ""),
    ("accept-encoding", "gzip, deflate"), ("accept-language", ""), ("accept-ranges", ""),
    ("accept", ""), ("access-control-allow-origin", ""), ("age", ""), ("allow", ""),
    ("authorization", ""), ("cache-control", ""), ("content-disposition", ""),
    ("content-encoding", ""), ("content-language", ""), ("content-length", ""),
    ("content-location", ""), ("content-range", ""), ("content-type", ""), ("cookie", ""),
    ("date", ""), ("etag", ""), ("expect", ""), ("expires", ""), ("from", ""), ("host", ""),
    ("if-match", ""), ("if-modified-since", ""), ("if-none-match", ""), ("if-range", ""),
    ("if-unmodified-since", ""), ("last-modified", ""), ("link", ""), ("location", ""),
    ("max-forwards", ""), ("proxy-authenticate", ""), ("proxy-authorization", ""), ("range", ""),
    ("referer", ""), ("refresh", ""), ("retry-after", ""), ("server", ""), ("set-cookie", ""),
    ("strict-transport-security", ""), ("transfer-encoding", ""), ("user-agent", ""),
    ("vary", ""), ("via", ""), ("www-authenticate", "")]

/-! ## Integers, strings and tables -/

/-- The loop of `http2_hpack_decode_int` over the continuation bytes. -/
def decodeIntLoop : Nat → Nat → List UInt8 → Nat × List UInt8
  | _, res, [] => (res, [])
  | shift, res, b :: p =>
      let res := (res + ((b.toNat &&& 127) <<< shift) % 2 ^ 32) % 2 ^ 32
      if b.toNat &&& 128 = 0 then (res, p)
      else if shift + 7 > 28 then (res, p)
      else decodeIntLoop (shift + 7) res p

/-- `http2_hpack_decode_int`: the integer and the bytes behind it. -/
def http2HpackDecodeInt (pos : List UInt8) (prefixMask : Nat) : Nat × List UInt8 :=
  match pos with
  | [] => (0, [])
  | b :: p =>
      let res := b.toNat &&& prefixMask
      if res < prefixMask then (res, p) else decodeIntLoop 0 res p

/-- `http2_hpack_get_header`. -/
def http2HpackGetHeader (table : HPACKDynamicTable) (index : Nat) : Option Field :=
  if 1 ≤ index ∧ index ≤ 61 then
    staticEntries[index - 1]?.map (fun e => ⟨ascii e.1, ascii e.2⟩)
  else if 62 ≤ index then table.entries[index - 62]?
  else none

/-- `http2_hpack_dynamic_table_add`: the new entry goes to the front, and the oldest one is
dropped from a full table. -/
def http2HpackDynamicTableAdd (table : HPACKDynamicTable) (f : Field) : HPACKDynamicTable where
  entries := ⟨f.name.take 127, f.value.take 511⟩ :: table.entries.take 127
  count_le := by
    rw [List.length_cons, List.length_take]
    omega

/-- `http2_hpack_decode_string_buf` into a cleared buffer of `outMax` bytes: what the buffer
holds in front of its closing NUL, and the bytes behind the string. -/
def http2HpackDecodeStringBuf (pos : List UInt8) (outMax : Nat) : List UInt8 × List UInt8 :=
  match pos with
  | [] => ([], [])
  | firstByte :: _ =>
      let isHuffman := firstByte.toNat &&& 0x80 ≠ 0
      let (len, p) := http2HpackDecodeInt pos 0x7F
      if len > 10240 ∨ len > p.length then ([], [])
      else if isHuffman then
        ((http2HuffmanDecode (p.take len) outMax).getD [], p.drop len)
      else ((p.take len).take (outMax - 1), p.drop len)

/-! ## The request a field fills in -/

/-- `http2_hpack_literal_header_with_name`: the status (`0`, 414 or 431) and the request.
`trustProxy` is `config.trust_proxy`. -/
def http2HpackLiteralHeaderWithName (trustProxy : Bool) (f : Field) (req : RequestHeader) :
    Nat × RequestHeader :=
  let name := f.name
  let value := f.value
  let valLen := value.length
  if name = ascii ":path" then
    if valLen ≥ 1024 then (414, req) else (0, { req with uri := some value })
  else if name = ascii ":authority" ∨ name = ascii "host" then
    if valLen ≥ 256 then (431, req) else (0, { req with host := some value })
  else if name = ascii "content-type" then
    if valLen ≥ 128 then (431, req) else (0, { req with contentType := some value })
  else if name = ascii "cookie" then
    let buf := req.cookieData.getD []
    if buf.length = 0 then
      if valLen ≥ 1024 then (431, req) else (0, { req with cookieData := some value })
    else if buf.length + 2 + valLen ≥ 1024 then (431, req)
    else (0, { req with cookieData := some (buf ++ ascii "; " ++ value) })
  else if name = ascii "content-length" then
    (0, { req with contentLength := Int32.ofInt (strtol value) })
  else if name = ascii ":method" then
    if valLen ≥ 16 then (431, req) else (0, { req with method := value })
  else if name = ascii ":scheme" then
    (0, { req with isTls := value = ascii "https" })
  else if name = ascii "x-forwarded-for" ∧ trustProxy then
    if 44 ∈ value then
      let ip := value.takeWhile (fun b => b ≠ 44)
      if ip.length < 45 then (0, { req with clientIp := ip }) else (0, req)
    else if valLen ≥ 45 then (431, req)
    else (0, { req with clientIp := value })
  else if name = ascii ":protocol" then
    if value = ascii "websocket" then (0, { req with isUpgrade := true }) else (0, req)
  else (0, req)

/-! ## The loop of `parse_header` -/

/-- What one pass of the loop reads: the bytes behind it, the field it hands to
`http2_hpack_literal_header_with_name`, and whether it puts that field into the table. -/
structure FieldRead where
  rest : List UInt8
  field : Option Field
  inserts : Bool
  deriving DecidableEq, Repr

/-- A field is used only if both its strings are not empty. -/
def nonEmptyField (name value : List UInt8) : Option Field :=
  if cstr name ≠ [] ∧ cstr value ≠ [] then some ⟨cstr name, cstr value⟩ else none

/-- A literal whose index has the given prefix mask. -/
def readLiteral (table : HPACKDynamicTable) (pos : List UInt8) (prefixMask : Nat)
    (inserts : Bool) : FieldRead :=
  let (index, p) := http2HpackDecodeInt pos prefixMask
  let (nameBuf, p) :=
    if index = 0 then http2HpackDecodeStringBuf p 128
    else
      match http2HpackGetHeader table index with
      | some f => (f.name.take 127, p)
      | none => ([], p)
  let (valBuf, p) := http2HpackDecodeStringBuf p 512
  ⟨p, nonEmptyField nameBuf valBuf, inserts⟩

/-- One pass of the loop at the byte `b`. -/
def readField (table : HPACKDynamicTable) (b : UInt8) (p : List UInt8) : FieldRead :=
  let pos := b :: p
  if b.toNat &&& 0x80 ≠ 0 then
    let (index, p) := http2HpackDecodeInt pos 0x7F
    ⟨p, http2HpackGetHeader table index, false⟩
  else if b.toNat &&& 0xC0 = 0x40 then readLiteral table pos 0x3F true
  else if b.toNat &&& 0xE0 = 0x20 then ⟨(http2HpackDecodeInt pos 0x1F).2, none, false⟩
  else readLiteral table pos 0x0F false

/-- The table after a pass. -/
def FieldRead.tableAfter (r : FieldRead) (table : HPACKDynamicTable) : HPACKDynamicTable :=
  match r.field with
  | some f => if r.inserts then http2HpackDynamicTableAdd table f else table
  | none => table

/-- What the loop leaves behind: its status, the table, the request, and the fields it has
handed over. -/
structure HeaderPass where
  status : Nat
  table : HPACKDynamicTable
  req : RequestHeader
  handed : List Field
  deriving DecidableEq

/-- The loop of `parse_header`, for at most `fuel` passes. A status other than `0` ends it. -/
def parseHeaderLoop (trustProxy : Bool) :
    Nat → HPACKDynamicTable → RequestHeader → List UInt8 → HeaderPass
  | 0, table, req, _ => ⟨0, table, req, []⟩
  | _ + 1, table, req, [] => ⟨0, table, req, []⟩
  | fuel + 1, table, req, b :: p =>
      let r := readField table b p
      let table := r.tableAfter table
      match r.field with
      | none => parseHeaderLoop trustProxy fuel table req r.rest
      | some f =>
          let s := http2HpackLiteralHeaderWithName trustProxy f req
          if s.1 ≠ 0 then ⟨s.1, table, s.2, [f]⟩
          else
            let pass := parseHeaderLoop trustProxy fuel table s.2 r.rest
            { pass with handed := f :: pass.handed }

/-- The decoding part of `parse_header`. Every pass reads at least one byte, so the length of
the payload is fuel enough. -/
def parseHeader (trustProxy : Bool) (table : HPACKDynamicTable) (req : RequestHeader)
    (payload : List UInt8) : HeaderPass :=
  parseHeaderLoop trustProxy payload.length table req.reset payload

end Halmos.Http2
