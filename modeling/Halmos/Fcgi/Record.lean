import Halmos.Basic.CString

set_option autoImplicit false

/-! # FastCGI records

The records a backend answers with: STDOUT and STDERR records of any length and padding, and one
END_REQUEST record at the end.
-/

namespace Halmos.Fcgi

def fcgiEndRequest : UInt8 := 3
def fcgiStdout : UInt8 := 6
def fcgiStderr : UInt8 := 7

/-- A record: two bytes of content length and one of padding length are enough for it. -/
structure Record where
  type : UInt8
  content : List UInt8
  padding : List UInt8
  content_lt : content.length < 2 ^ 16
  padding_lt : padding.length < 2 ^ 8

/-- `HalmosFCGI_Header` of a record. -/
def Record.header (requestId : Nat) (r : Record) : List UInt8 :=
  [1, r.type, byteAt requestId 8, byteAt requestId 0,
    byteAt r.content.length 8, byteAt r.content.length 0, byteAt r.padding.length 0, 0]

def Record.encode (requestId : Nat) (r : Record) : List UInt8 :=
  r.header requestId ++ (r.content ++ r.padding)

/-- The STDOUT bytes of a record. -/
def Record.stdout (r : Record) : List UInt8 := if r.type = fcgiStdout then r.content else []

/-- A complete answer to one request. -/
structure Response where
  requestId : Nat
  outputs : List Record
  last : Record
  outputs_type : ∀ r ∈ outputs, r.type = fcgiStdout ∨ r.type = fcgiStderr
  last_type : last.type = fcgiEndRequest
  last_length : last.content.length = 8

/-- The bytes the backend sends. -/
def Response.bytes (r : Response) : List UInt8 :=
  r.outputs.flatMap (Record.encode r.requestId) ++ r.last.encode r.requestId

/-- The text of the answer. -/
def Response.stdout (r : Response) : List UInt8 := r.outputs.flatMap Record.stdout

/-- The line that ends the header block of an answer. -/
def blankLine : List UInt8 := ascii "\r\n\r\n"

/-! ## Reading a header -/

/-- The fields of a header that the readers look at. -/
structure HeaderFields where
  type : UInt8
  contentLength : Nat
  paddingLength : Nat
  deriving DecidableEq, Repr

/-- The fields of the eight bytes at the head of `h`. -/
def headerFields (h : List UInt8) : HeaderFields where
  type := h.getD 1 0
  contentLength := (h.getD 4 0).toNat <<< 8 ||| (h.getD 5 0).toNat
  paddingLength := (h.getD 6 0).toNat

theorem header_length (requestId : Nat) (r : Record) : (r.header requestId).length = 8 := rfl

theorem encode_length (requestId : Nat) (r : Record) :
    (r.encode requestId).length = 8 + (r.content.length + r.padding.length) := by
  unfold Record.encode
  rw [List.length_append, List.length_append, header_length]

theorem headerFields_header (requestId : Nat) (r : Record) (s : List UInt8) :
    headerFields (r.header requestId ++ s) = ⟨r.type, r.content.length, r.padding.length⟩ := by
  have hpad : (byteAt r.padding.length 0).toNat = r.padding.length := by
    have hlt := r.padding_lt
    rw [byteAt_toNat]
    omega
  have hfields : headerFields (r.header requestId ++ s)
      = ⟨r.type, (byteAt r.content.length 8).toNat <<< 8 ||| (byteAt r.content.length 0).toNat,
        (byteAt r.padding.length 0).toNat⟩ := rfl
  rw [hfields, hpad, join16 _ r.content_lt]

/-! ## A short answer -/

theorem Record.no_padding : ([] : List UInt8).length < 2 ^ 8 := by decide

/-- `A: b`, a blank line and `hello` in one STDOUT record. -/
def helloRecord : Record where
  type := fcgiStdout
  content := ascii "A: b\r\n\r\nhello"
  padding := []
  content_lt := by decide
  padding_lt := Record.no_padding

/-- END_REQUEST with status 0 and no padding. -/
def endRecord : Record where
  type := fcgiEndRequest
  content := List.replicate 8 0
  padding := []
  content_lt := by decide
  padding_lt := Record.no_padding

def helloResponse : Response where
  requestId := 1
  outputs := [helloRecord]
  last := endRecord
  outputs_type := by
    intro r hr
    rw [List.mem_singleton.mp hr]
    exact Or.inl rfl
  last_type := rfl
  last_length := rfl

end Halmos.Fcgi
