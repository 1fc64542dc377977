import Halmos.Http1.Header

set_option autoImplicit false

/-! # The parts of a multipart body

`http_multipart_parse_body` of `halmos_http_multipart.c`, on the bytes of the body that are in the
buffer. The names of a part are copied, its data stays where it is. The lengths are unsigned: where
the source computes one that is negative, `memmem` is given a length near `2 ^ 64` and leaves the
buffer, as it leaves the array `boundary[256]` with a longer boundary. Both are `none`.
-/

namespace Halmos.Http1

/-- `memmem(mem + pos, len, needle, ..)`: where the needle is found, from the start of `mem`. -/
def memmem (mem : List UInt8) (pos len : Nat) (needle : List UInt8) : Option Nat :=
  (strstr needle ((mem.drop pos).take len)).map (fun r => pos + r.1.length)

/-- `Parsing Name` and `Parsing Filename`: the text behind `key` up to the next quotation mark. -/
def quoted (key header : List UInt8) : Option (List UInt8) := do
  let (_, found) ← strstr key header
  let val := found.drop key.length
  let stop ← val.idxOf? 0x22
  some (val.take stop)

/-- The loop of `http_multipart_parse_body` from `currentPos` on, with the parts found so far.
`bodyStart` is where the body is in the buffer. -/
def multipartLoop (boundary : List UInt8) (bodyStart : Nat) (body : List UInt8) :
    Nat → Nat → Nat → List MultipartPart → Option (List MultipartPart)
  | 0, _, _, parts => some parts
  | fuel + 1, currentPos, remainingLen, parts =>
      if remainingLen ≤ boundary.length then some parts
      else
        match memmem body currentPos remainingLen boundary with
        | none => some parts
        | some partStart =>
            let headerStart := partStart + boundary.length + 2
            -- the length of the rest is negative
            if currentPos + remainingLen < headerStart then none
            else
              match memmem body headerStart (currentPos + remainingLen - headerStart) blankLine with
              | none => some parts
              | some headerEnd =>
                  let header := cstr ((body.drop headerStart).take (headerEnd - headerStart))
                  let data := headerEnd + 4
                  match memmem body data (body.length - data) boundary with
                  | none => some parts
                  | some nextBoundary =>
                      let part : MultipartPart := {
                        name := quoted (ascii "name=\"") header
                        filename := quoted (ascii "filename=\"") header
                        data := .buffer (bodyStart + data)
                        dataLen := if data + 2 ≤ nextBoundary then nextBoundary - 2 - data
                          else nextBoundary - data }
                      multipartLoop boundary bodyStart body fuel nextBoundary
                        (remainingLen - (nextBoundary - currentPos)) (parts ++ [part])

/-- What is looked for as the boundary: the text that is printed, of which `boundary[256]` has 255
bytes and a NUL if it is one longer. -/
def boundaryOf (found : List UInt8) : List UInt8 :=
  let text := ascii "--" ++ found.drop 9
  if text.length = 256 then text.take 255 ++ [0] else text

/-- `http_multipart_parse_body(req)`, on a body at `bodyStart` of the buffer. -/
def httpMultipartParseBody (contentType : List UInt8) (bodyStart : Nat) (body : List UInt8) :
    Option (List MultipartPart) :=
  if body = [] then some []
  else
    match strstr (ascii "boundary=") contentType with
    | none => some []
    | some (_, found) =>
        let boundary := boundaryOf found
        if 256 < boundary.length ∧ boundary.length < body.length then none
        else multipartLoop boundary bodyStart body (body.length + 1) 0 body.length []

/-! ## The whole parser -/

/-- `http1_parser_parse_header(raw_data, total_received, req)` on what is in the buffer: what it
returns, the request and the buffer behind it. -/
def http1ParserParseHeader (config : Config) (buffer : List UInt8) (req : RequestHeader) :
    Option (Bool × RequestHeader × List UInt8) :=
  match splitAfter blankLine (cstr buffer) with
  | none => some (false, { req with vhostContext := none, isKeepAlive := true }, buffer)
  | some (head, _) => do
      let body := buffer.drop head.length
      let (req, block) ← parseHead config head req
      let req := { req with bodyData := some (.buffer head.length), bodyLength := body.length }
      match req.contentType with
      | none => some (req.isValid, req, block ++ body)
      | some p => do
          let contentType ← p.str block req.routeResult
          if (strstr (ascii "multipart/form-data") contentType).isSome then do
            let parts ← httpMultipartParseBody contentType head.length body
            some (req.isValid, { req with parts := parts }, block ++ body)
          else some (req.isValid, req, block ++ body)

end Halmos.Http1
