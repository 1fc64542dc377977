import Halmos.Basic.Buffer
import Halmos.Http2.Hpack

set_option autoImplicit false

/-! # Reading header blocks, access by access

The functions of `Halmos.Http2.Hpack` once more, now over the arrays of the C code: the payload
is read byte by byte through a position, strings go into buffers of fixed size, and the table is
an array of 128 slots. Every read and every write is checked, and `none` is an access outside its
array. `HpackSafe` shows that it does not happen.
-/

namespace Halmos.Http2.Memory

open Hpack

/-! ## The arrays -/

/-- `HPACKEntry`. -/
structure HPACKEntry where
  name : Buffer 128
  value : Buffer 512
  deriving DecidableEq

/-- `dyn_table`: the array from `calloc`, or the null pointer, and the number of entries in use. -/
structure HPACKDynamicTable where
  entries : Option (List HPACKEntry)
  count : Nat

/-- The buffers of `RequestHeader`, and the pointers that are either null or point to theirs. -/
structure RequestHeader where
  clientIp : Buffer 45
  method : Buffer 16
  h2UriBuf : Buffer 1024
  h2HostBuf : Buffer 256
  h2ContentTypeBuf : Buffer 128
  h2CookieBuf : Buffer 1024
  uri : Bool
  host : Bool
  contentType : Bool
  cookieData : Bool
  contentLength : Int32
  isTls : Bool
  isUpgrade : Bool

/-- What `parse_header` clears before it reads a block. -/
def RequestHeader.reset (req : RequestHeader) : RequestHeader :=
  { req with
    uri := false
    host := false
    contentType := false
    cookieData := false
    method := .zeros 16
    h2UriBuf := .zeros 1024
    h2HostBuf := .zeros 256
    h2ContentTypeBuf := .zeros 128
    h2CookieBuf := .zeros 1024 }

/-! ## Integers and strings -/

/-- `strip_headers_padding`: where the header block starts in the payload, and its length. -/
def stripHeadersPadding (flags : UInt8) (payload : List UInt8) : Option (Nat × Nat) := do
  let len := payload.length
  let (padLen, pos, len) ←
    if flags.toNat &&& 0x08 ≠ 0 ∧ len > 0 then do
      let b ← payload[0]?
      some (b.toNat, 1, len - 1)
    else some (0, 0, len)
  let (pos, len) :=
    if flags.toNat &&& 0x20 ≠ 0 ∧ len ≥ 5 then (pos + 5, len - 5) else (pos, len)
  some (pos, if len > padLen then len - padLen else 0)

/-- The loop of `http2_hpack_decode_int`. -/
def decodeIntLoop (mem : List UInt8) (stop shift res pos : Nat) : Option (Nat × Nat) :=
  if pos < stop then
    match mem[pos]? with
    | none => none
    | some b =>
        let res := (res + ((b.toNat &&& 127) <<< shift) % 2 ^ 32) % 2 ^ 32
        if b.toNat &&& 128 = 0 then some (res, pos + 1)
        else if shift + 7 > 28 then some (res, pos + 1)
        else decodeIntLoop mem stop (shift + 7) res (pos + 1)
  else some (res, pos)
termination_by stop - pos

/-- `http2_hpack_decode_int`: the integer and the new position. -/
def http2HpackDecodeInt (mem : List UInt8) (stop pos prefixMask : Nat) : Option (Nat × Nat) :=
  if pos ≥ stop then some (0, pos)
  else do
    let b ← mem[pos]?
    let res := b.toNat &&& prefixMask
    if res < prefixMask then some (res, pos + 1) else decodeIntLoop mem stop 0 res (pos + 1)

/-- The locals of `http2_huffman_decode`. -/
structure HuffmanState (n : Nat) where
  dest : Buffer n
  outPos : Nat
  state : Nat

/-- One nibble; `false` is the overflow protection. -/
def huffmanNibble {n : Nat} (nibble : Nat) (s : HuffmanState n) :
    Option (Bool × HuffmanState n) := do
  let row ← huffDecodeTable[s.state]?
  let t ← row[nibble]?
  if t.isSym then
    if s.outPos + 1 ≥ n then some (false, s)
    else do
      let dest ← s.dest.write s.outPos (UInt8.ofNat t.sym)
      some (true, ⟨dest, s.outPos + 1, t.fstate⟩)
  else some (true, { s with state := t.fstate })

/-- The loop of `http2_huffman_decode` over `len` bytes from `src` on. -/
def huffmanLoop {n : Nat} (mem : List UInt8) :
    Nat → Nat → HuffmanState n → Option (Bool × HuffmanState n)
  | _, 0, s => some (true, s)
  | src, len + 1, s => do
      let b ← mem[src]?
      let (ok, s) ← huffmanNibble (b.toNat >>> 4) s
      if ok then do
        let (ok, s) ← huffmanNibble (b.toNat &&& 0x0F) s
        if ok then huffmanLoop mem (src + 1) len s else some (false, s)
      else some (false, s)

/-- `http2_huffman_decode`: what it returns, and the buffer. -/
def http2HuffmanDecode {n : Nat} (mem : List UInt8) (src len : Nat) (dest : Buffer n) :
    Option (Bool × Buffer n) :=
  if len = 0 ∨ n = 0 then some (false, dest)
  else do
    let (ok, s) ← huffmanLoop mem src len ⟨dest, 0, 0⟩
    if ok then do
      let dest ← s.dest.write s.outPos 0
      some (true, dest)
    else some (false, s.dest)

/-- `http2_hpack_decode_string_buf`: what it returns, the buffer and the new position. -/
def http2HpackDecodeStringBuf {n : Nat} (mem : List UInt8) (stop pos : Nat) (outBuf : Buffer n) :
    Option (Bool × Buffer n × Nat) :=
  if pos ≥ stop ∨ n = 0 then some (false, outBuf, pos)
  else do
    let firstByte ← mem[pos]?
    let isHuffman := firstByte.toNat &&& 0x80 ≠ 0
    let (len, pos) ← http2HpackDecodeInt mem stop pos 0x7F
    if len > 10240 ∨ pos + len > stop then some (false, outBuf, stop)
    else if isHuffman then do
      let (ok, outBuf) ← http2HuffmanDecode mem pos len outBuf
      let outBuf ← if ok then some outBuf else outBuf.write 0 0
      some (true, outBuf, pos + len)
    else do
      let copyLen := if len < n - 1 then len else n - 1
      let src ← readBytes mem pos copyLen
      let outBuf ← outBuf.copy 0 src
      let outBuf ← outBuf.write copyLen 0
      some (true, outBuf, pos + len)

/-! ## The table -/

/-- `http2_hpack_get_header`: the strings behind the two pointers, or `none` inside if there is
no such entry. `index - 62` wraps around below 62. -/
def http2HpackGetHeader (table : HPACKDynamicTable) (index : Nat) :
    Option (Option (List UInt8 × List UInt8)) :=
  if index ≥ 1 ∧ index ≤ 61 then do
    let e ← staticEntries[index - 1]?
    some (some (ascii e.1, ascii e.2))
  else if table.count > 0 then
    let dynIdx := (index + 2 ^ 32 - 62) % 2 ^ 32
    if dynIdx < table.count then do
      let entries ← table.entries
      let e ← entries[dynIdx]?
      let name ← e.name.str
      let value ← e.value.str
      some (some (name, value))
    else some none
  else some none

/-- The loop of `http2_hpack_dynamic_table_add` that moves the entries up by one. -/
def shiftEntries (entries : List HPACKEntry) : Nat → Option (List HPACKEntry)
  | 0 => some entries
  | i + 1 => do
      let e ← entries[i]?
      let entries ← store entries (i + 1) e
      shiftEntries entries i

/-- `http2_hpack_dynamic_table_add`. -/
def http2HpackDynamicTableAdd (table : HPACKDynamicTable) (name value : List UInt8) :
    Option HPACKDynamicTable :=
  match table.entries with
  | none => some table
  | some entries => do
      let count := if table.count ≥ 128 then 127 else table.count
      let entries ← shiftEntries entries count
      let e ← entries[0]?
      let nameBuf ← e.name.snprintf name
      let valueBuf ← e.value.snprintf value
      let entries ← store entries 0 ⟨nameBuf, valueBuf⟩
      some ⟨some entries, count + 1⟩

/-! ## The request a field fills in -/

/-- `http2_hpack_literal_header_with_name`. -/
def http2HpackLiteralHeaderWithName (trustProxy : Bool) (name value : List UInt8)
    (req : RequestHeader) : Option (Nat × RequestHeader) :=
  let valLen := value.length
  if name = ascii ":path" then
    if valLen ≥ 1024 then some (414, req)
    else do
      let buf ← req.h2UriBuf.snprintf value
      some (0, { req with h2UriBuf := buf, uri := true })
  else if name = ascii ":authority" ∨ name = ascii "host" then
    if valLen ≥ 256 then some (431, req)
    else do
      let buf ← req.h2HostBuf.snprintf value
      some (0, { req with h2HostBuf := buf, host := true })
  else if name = ascii "content-type" then
    if valLen ≥ 128 then some (431, req)
    else do
      let buf ← req.h2ContentTypeBuf.snprintf value
      some (0, { req with h2ContentTypeBuf := buf, contentType := true })
  else if name = ascii "cookie" then do
    let current ← req.h2CookieBuf.str
    let currentLen := current.length
    if currentLen = 0 then
      if valLen ≥ 1024 then some (431, req)
      else do
        let buf ← req.h2CookieBuf.copy 0 (value ++ [0])
        some (0, { req with h2CookieBuf := buf, cookieData := true })
    else if currentLen + 2 + valLen ≥ 1024 then some (431, req)
    else do
      let buf ← req.h2CookieBuf.write currentLen 59
      let buf ← buf.write (currentLen + 1) 32
      let buf ← buf.copy (currentLen + 2) (value ++ [0])
      some (0, { req with h2CookieBuf := buf, cookieData := true })
  else if name = ascii "content-length" then
    some (0, { req with contentLength := Int32.ofInt (strtol value) })
  else if name = ascii ":method" then
    if valLen ≥ 16 then some (431, req)
    else do
      let buf ← req.method.snprintf value
      some (0, { req with method := buf })
  else if name = ascii ":scheme" then
    some (0, { req with isTls := value = ascii "https" })
  else if name = ascii "x-forwarded-for" ∧ trustProxy then
    if 44 ∈ value then
      let ip := value.takeWhile (fun b => b ≠ 44)
      if ip.length < 45 then do
        let buf ← req.clientIp.copy 0 ip
        let buf ← buf.write ip.length 0
        some (0, { req with clientIp := buf })
      else some (0, req)
    else if valLen ≥ 45 then some (431, req)
    else do
      let buf ← req.clientIp.snprintf value
      some (0, { req with clientIp := buf })
  else if name = ascii ":protocol" then
    if value = ascii "websocket" then some (0, { req with isUpgrade := true }) else some (0, req)
  else some (0, req)

/-- `http2_hpack_indexed_header`. -/
def http2HpackIndexedHeader (trustProxy : Bool) (table : HPACKDynamicTable) (index : Nat)
    (req : RequestHeader) : Option (Nat × RequestHeader) :=
  if index = 0 then some (0, req)
  else do
    match ← http2HpackGetHeader table index with
    | some (name, value) => http2HpackLiteralHeaderWithName trustProxy name value req
    | none => some (0, req)

/-! ## The loop of `parse_header` -/

/-- What the loop of `parse_header` changes: the position, the status of the last pass, the table
and the request. -/
structure LoopState where
  pos : Nat
  status : Nat
  table : HPACKDynamicTable
  req : RequestHeader

/-- `name_buf` of a literal, and the position behind the name. -/
def literalName (mem : List UInt8) (stop pos : Nat) (table : HPACKDynamicTable) (index : Nat) :
    Option (Buffer 128 × Nat) :=
  let nameBuf : Buffer 128 := .zeros 128
  if index = 0 then do
    let (_, nameBuf, pos) ← http2HpackDecodeStringBuf mem stop pos nameBuf
    some (nameBuf, pos)
  else do
    match ← http2HpackGetHeader table index with
    | some (name, _) =>
        let nameBuf ← nameBuf.snprintf name
        some (nameBuf, pos)
    | none => some (nameBuf, pos)

/-- The two branches for literals. -/
def literalPass (trustProxy : Bool) (mem : List UInt8) (stop prefixMask : Nat) (inserts : Bool)
    (s : LoopState) : Option LoopState := do
  let (index, pos) ← http2HpackDecodeInt mem stop s.pos prefixMask
  let (nameBuf, pos) ← literalName mem stop pos s.table index
  let valBuf : Buffer 512 := .zeros 512
  let (_, valBuf, pos) ← http2HpackDecodeStringBuf mem stop pos valBuf
  let nameFirst ← nameBuf.bytes[0]?
  let valFirst ← valBuf.bytes[0]?
  if nameFirst ≠ 0 ∧ valFirst ≠ 0 then do
    let name ← nameBuf.str
    let value ← valBuf.str
    let (status, req) ← http2HpackLiteralHeaderWithName trustProxy name value s.req
    let table ← if inserts then http2HpackDynamicTableAdd s.table name value else some s.table
    some ⟨pos, status, table, req⟩
  else some { s with pos := pos, status := 0 }

/-- One pass of the loop. -/
def pass (trustProxy : Bool) (mem : List UInt8) (stop : Nat) (s : LoopState) :
    Option LoopState := do
  let b ← mem[s.pos]?
  if b.toNat &&& 0x80 ≠ 0 then do
    let (index, pos) ← http2HpackDecodeInt mem stop s.pos 0x7F
    let (status, req) ← http2HpackIndexedHeader trustProxy s.table index s.req
    some { s with pos := pos, status := status, req := req }
  else if b.toNat &&& 0xC0 = 0x40 then literalPass trustProxy mem stop 0x3F true s
  else if b.toNat &&& 0xE0 = 0x20 then do
    let (_, pos) ← http2HpackDecodeInt mem stop s.pos 0x1F
    some { s with pos := pos, status := 0 }
  else if b.toNat &&& 0xF0 = 0x00 ∨ b.toNat &&& 0xF0 = 0x10 then
    literalPass trustProxy mem stop 0x0F false s
  else some { s with pos := s.pos + 1, status := 0 }

/-- The loop of `parse_header`, for at most `fuel` passes. -/
def parseHeaderLoop (trustProxy : Bool) (mem : List UInt8) (stop : Nat) :
    Nat → LoopState → Option LoopState
  | 0, s => some s
  | fuel + 1, s =>
      if s.pos < stop ∧ s.status = 0 then do
        let s ← pass trustProxy mem stop s
        parseHeaderLoop trustProxy mem stop fuel s
      else some s

/-- The decoding part of `parse_header`, behind `strip_headers_padding`. Every pass reads at least
one byte, so the length of the block is fuel enough. -/
def parseHeader (trustProxy : Bool) (flags : UInt8) (payload : List UInt8)
    (table : HPACKDynamicTable) (req : RequestHeader) : Option LoopState := do
  let (pos, len) ← stripHeadersPadding flags payload
  if len = 0 then some ⟨pos, 0, table, req⟩
  else parseHeaderLoop trustProxy payload (pos + len) len ⟨pos, 0, table, req.reset⟩

end Halmos.Http2.Memory
