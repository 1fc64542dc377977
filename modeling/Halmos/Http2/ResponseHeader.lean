import Halmos.Basic.CString
import Halmos.Http2.Response

set_option autoImplicit false

/-! # Response headers

`http2_response_send_header` and `http2_response_send_complex_header`
(`halmos_http2_response.c`): the HPACK blocks of the server's own answers and of a backend's, each
in one HEADERS frame. `malloc` succeeds.
-/

namespace Halmos.Http2

/-- The decimal numeral of `status` in a buffer of ten bytes, at its full length. -/
def statusNumeral (status : Nat) : List UInt8 :=
  let digits := numeral 10 status
  if digits.length < 10 then digits else digits.take 9 ++ [0]

/-- `:status`: one of the indexed fields, or a literal. -/
def statusField (status : Nat) : List UInt8 :=
  if status = 200 then [0x88]
  else if status = 204 then [0x89]
  else if status = 304 then [0x8B]
  else if status = 400 then [0x8C]
  else if status = 404 then [0x8D]
  else if status = 500 then [0x8E]
  else [0x08, UInt8.ofNat (statusNumeral status).length] ++ statusNumeral status

/-- The block of `http2_response_send_header`. `mime` is the type it picks for the path. -/
def headerBlock (status : Nat) (mime : List UInt8) : List UInt8 :=
  let value := mime.take 127
  statusField status ++ ([0x0F, 0x10, UInt8.ofNat value.length] ++ value)

/-- `http2_response_send_header`. -/
def http2ResponseSendHeader (streamId status : Nat) (mime : List UInt8) : FrameCall :=
  ⟨0x01, 0x04, streamId, headerBlock status mime⟩

/-! ## The header text of a backend -/

/-- `isspace`. -/
def isSpace (c : UInt8) : Bool := c = 32 ∨ (9 ≤ c ∧ c ≤ 13)

/-- The text without the white space at its end. -/
def trimEnd (text : List UInt8) : List UInt8 := (text.reverse.dropWhile isSpace).reverse

/-- The pieces of a text between the bytes for which `sep` holds, as `strtok_r` returns them: empty
ones are passed over. -/
def tokens (sep : UInt8 → Bool) (text : List UInt8) : List (List UInt8) :=
  (text.splitOnP sep).filter (fun piece => piece ≠ [])

/-- The status of the answer: the number behind `Status:`, and 302 for a redirect that does not
give one. -/
def finalStatus (raw : List UInt8) : Nat :=
  let parsed :=
    match strcasestr (ascii "Status:") raw with
    | some s => atoi ((s.drop 7).dropWhile (fun c => c = 32 ∨ c = 9))
    | none => 0
  let status := if 0 < parsed then parsed.toNat else 200
  if (strcasestr (ascii "Location:") raw).isSome ∧ (status = 200 ∨ status = 304) then 302
  else status

/-- The continuation bytes of an integer. -/
def restBytes (rem : Nat) : List UInt8 :=
  if rem ≥ 128 then UInt8.ofNat ((rem &&& 0x7F) ||| 0x80) :: restBytes (rem >>> 7)
  else [UInt8.ofNat rem]
termination_by rem
decreasing_by
  rw [Nat.shiftRight_eq_div_pow]
  omega

/-- The length of a value in front of it. -/
def lengthBytes (len : Nat) : List UInt8 :=
  if len < 127 then [UInt8.ofNat len] else 0x7F :: restBytes (len - 127)

/-- One header line: a literal field, unless there is no colon in it or its name is `status`. A
name is cut to 127 bytes. -/
def lineField (line : List UInt8) : List UInt8 :=
  if 58 ∉ line then []
  else
    let key := ((line.takeWhile (fun c => c ≠ 58)).dropWhile isSpace).map toLower
    let value := (trimEnd ((line.dropWhile (fun c => c ≠ 58)).drop 1)).dropWhile isSpace
    if key = ascii "status" then []
    else
      [0x00, UInt8.ofNat (min key.length 127)] ++ key.take 127 ++ lengthBytes value.length ++ value

/-- The block of `http2_response_send_complex_header`. -/
def complexHeaderBlock (raw : List UInt8) : List UInt8 :=
  statusField (finalStatus raw) ++ (tokens (fun c => c = 13 ∨ c = 10) raw).flatMap lineField

/-- `http2_response_send_complex_header`. -/
def http2ResponseSendComplexHeader (streamId : Nat) (raw : List UInt8) (flags : UInt8) :
    FrameCall :=
  ⟨0x01, flags, streamId, complexHeaderBlock raw⟩

end Halmos.Http2
