import Halmos.Fcgi.Grammar
import Halmos.Fcgi.StreamStep

set_option autoImplicit false

/-! # The parameters of a request

`fcgi_proto_build_params` and `fcgi_proto_add_pair` (`halmos_fcgi_proto.c`), and the gather buffer
that `fcgi_session_http1_create` and state 0 of `fcgi_session_http2_step` build with them. If the
buffer does not overflow, a FastCGI application reads in it what the request says
(`gatherBuf_decodes`).
-/

namespace Halmos.Fcgi

/-! ## The request and the configuration -/

/-- The fields of `RequestHeader` that become parameters; `none` is the null pointer. -/
structure CgiRequest where
  clientIp : List UInt8
  method : List UInt8
  uri : Option (List UInt8)
  host : Option (List UInt8)
  queryString : Option (List UInt8)
  pathInfo : Option (List UInt8)
  contentType : Option (List UInt8)
  cookieData : Option (List UInt8)
  isTls : Bool

/-- `active_root`, as `http_vhost_get_context` finds it for the host, and two fields of `config`. -/
structure CgiConfig where
  activeRoot : List UInt8
  serverName : List UInt8
  serverPort : Int

/-- `script_name_only`, a buffer of 512 bytes: the URI without the query and the path info. -/
def scriptNameOnly (req : CgiRequest) : List UInt8 :=
  let script := ((req.uri.getD (ascii "/")).take 511).takeWhile (fun c => c ≠ 63)
  match req.pathInfo with
  | none => script
  | some pathInfo =>
      if pathInfo = [] then script
      else
        match strstr pathInfo script with
        | some (before, _) => if before = [] then script else before
        | none => script

/-- `full_script_path`, a buffer of 4096 bytes. -/
def fullScriptPath (root script : List UInt8) : List UInt8 :=
  (root ++ (if root.getLast? = some 47 ∧ script.head? = some 47 then script.drop 1
    else script)).take 4095

/-- The calls of `FCGI_ADD_PARAM_SAFE` with a value, in order. -/
def paramCalls (cfg : CgiConfig) (req : CgiRequest) (contentLength : Nat) : List Pair :=
  let script := scriptNameOnly req
  [(ascii "DOCUMENT_ROOT", cfg.activeRoot),
    (ascii "SCRIPT_FILENAME", fullScriptPath cfg.activeRoot script),
    (ascii "SCRIPT_NAME", script),
    (ascii "PHP_SELF", script)]
  ++ (req.uri.map (fun uri => (ascii "REQUEST_URI", uri))).toList
  ++ [(ascii "REQUEST_METHOD", req.method),
    (ascii "QUERY_STRING", req.queryString.getD []),
    (ascii "PATH_INFO", req.pathInfo.getD []),
    (ascii "SERVER_PROTOCOL", ascii "HTTP/1.1"),
    (ascii "GATEWAY_INTERFACE", ascii "CGI/1.1"),
    (ascii "REMOTE_ADDR", req.clientIp),
    (ascii "SERVER_NAME", req.host.getD cfg.serverName)]
  ++ (if req.isTls then [(ascii "HTTPS", ascii "on"), (ascii "REQUEST_SCHEME", ascii "https")]
    else [(ascii "REQUEST_SCHEME", ascii "http")])
  ++ [(ascii "SERVER_PORT", (signedNumeral cfg.serverPort).take 9)]
  ++ (req.cookieData.map (fun cookie => (ascii "HTTP_COOKIE", cookie))).toList
  ++ (if 0 < contentLength then
      [(ascii "CONTENT_LENGTH", numeral 10 contentLength),
        (ascii "CONTENT_TYPE",
          req.contentType.getD (ascii "application/x-www-form-urlencoded"))]
    else [])

/-! ## The buffer -/

/-- `GATHER_BUF_SIZE`. -/
def gatherBufSize : Nat := 65536

/-- The bytes in front of a name or a value. -/
def lengthField (n : Nat) : List UInt8 :=
  if 127 < n then
    [UInt8.ofNat ((n >>> 24) ||| 0x80), byteAt n 16, byteAt n 8, byteAt n 0]
  else [UInt8.ofNat n]

/-- `fcgi_proto_add_pair` at the end of what is written: the pair, if it fits. The sum in its test
is one of `int`; the strings of a request lie in its receive buffer and do not come near `2 ^ 31`
bytes. -/
def fcgiProtoAddPair (dest name value : List UInt8) (maxLen : Nat) : List UInt8 :=
  let hName := if 127 < name.length then 4 else 1
  let hVal := if 127 < value.length then 4 else 1
  if maxLen < dest.length + hName + hVal + name.length + value.length then dest
  else dest ++ lengthField name.length ++ lengthField value.length ++ name ++ value

/-- The header of a PARAMS record. -/
def paramsHeader (requestId length padding : Nat) : List UInt8 :=
  [1, 4, byteAt requestId 8, byteAt requestId 0, byteAt length 8, byteAt length 0,
    UInt8.ofNat padding, 0]

/-- `fcgi_proto_build_params`: the header of the record is written when its pairs are there. -/
def fcgiProtoBuildParams (cfg : CgiConfig) (req : CgiRequest) (contentLength : Nat)
    (gatherBuf : List UInt8) (requestId : Nat) : List UInt8 :=
  let headerPos := gatherBuf.length
  let gPtr := headerPos + 8
  let written := (paramCalls cfg req contentLength).foldl
    (fun dest p => fcgiProtoAddPair dest p.1 p.2 gatherBufSize)
    (gatherBuf ++ List.replicate 8 0)
  let pLen := written.length - gPtr
  let pad := (8 - pLen % 8) % 8
  gatherBuf ++ paramsHeader requestId pLen pad ++ written.drop gPtr ++ List.replicate pad 0
    ++ paramsHeader requestId 0 0

/-- `gather_buf` up to `g_ptr` behind `fcgi_session_http1_create`. -/
def gatherBuf (cfg : CgiConfig) (req : CgiRequest) (contentLength requestId : Nat) : List UInt8 :=
  fcgiProtoBuildParams cfg req contentLength (beginRequest requestId) requestId

/-! ## What an application reads -/

/-- The pairs that fit, from an offset on. -/
def fittingPairs (maxLen : Nat) : Nat → List Pair → List Pair
  | _, [] => []
  | offset, p :: pairs =>
      if offset + (encodePair p).length ≤ maxLen then
        p :: fittingPairs maxLen (offset + (encodePair p).length) pairs
      else fittingPairs maxLen offset pairs

section Buffer

variable {dest : List UInt8} {maxLen : Nat}

theorem encodePair_length (p : Pair) :
    (encodePair p).length = (if 127 < p.1.length then 4 else 1) + (if 127 < p.2.length then 4 else 1)
      + p.1.length + p.2.length := by
  have hlength : ∀ n, (encodeLength n).length = if 127 < n then 4 else 1 := by
    intro n
    unfold encodeLength
    by_cases hn : n < 128
    · rw [if_pos hn, if_neg (by omega)]
      rfl
    · rw [if_neg hn, if_pos (by omega)]
      rfl
  unfold encodePair
  rw [List.length_append, List.length_append, List.length_append, hlength, hlength]
  omega

/-- The bytes of `fcgi_proto_add_pair` for a length are those of the grammar. -/
theorem lengthField_eq {n : Nat} (hn : n < 2 ^ 31) : lengthField n = encodeLength n := by
  unfold lengthField encodeLength
  by_cases hshort : n < 128
  · have hbyte : byteAt n 0 = UInt8.ofNat n := by
      apply UInt8.toNat_inj.mp
      rw [byteAt_toNat, UInt8.toNat_ofNat']
      omega
    rw [if_neg (by omega), if_pos hshort, hbyte]
  · have hbyte : (n >>> 24) ||| 0x80 = n / 2 ^ 24 % 128 + 128 := by
      have hor := Nat.two_pow_add_eq_or_of_lt (show n / 2 ^ 24 < 2 ^ 7 by omega) 1
      have hmod : n / 2 ^ 24 % 128 = n / 2 ^ 24 := Nat.mod_eq_of_lt (by omega)
      rw [Nat.shiftRight_eq_div_pow, Nat.or_comm, hmod]
      exact hor.symm.trans (Nat.add_comm _ _)
    rw [if_pos (by omega), if_neg hshort, hbyte]

/-- **One pair**: all of it is written, or nothing. -/
theorem fcgiProtoAddPair_eq (hmax : maxLen < 2 ^ 31) (p : Pair) :
    fcgiProtoAddPair dest p.1 p.2 maxLen
      = if dest.length + (encodePair p).length ≤ maxLen then dest ++ encodePair p else dest := by
  unfold fcgiProtoAddPair
  dsimp only
  rw [encodePair_length]
  by_cases hfits : dest.length + ((if 127 < p.1.length then 4 else 1)
      + (if 127 < p.2.length then 4 else 1) + p.1.length + p.2.length) ≤ maxLen
  · rw [if_neg (by omega), if_pos hfits, lengthField_eq (by omega), lengthField_eq (by omega)]
    unfold encodePair
    simp only [List.append_assoc]
  · rw [if_pos (by omega), if_neg hfits]

/-- **All pairs**: those that fit are written, in order. -/
theorem foldl_addPair (hmax : maxLen < 2 ^ 31) (pairs : List Pair) :
    pairs.foldl (fun dest p => fcgiProtoAddPair dest p.1 p.2 maxLen) dest
      = dest ++ (fittingPairs maxLen dest.length pairs).flatMap encodePair := by
  induction pairs generalizing dest with
  | nil => exact (List.append_nil dest).symm
  | cons p pairs ih =>
      rw [List.foldl_cons, fcgiProtoAddPair_eq hmax, fittingPairs]
      split
      · rw [ih, List.length_append, List.flatMap_cons, List.append_assoc]
      · exact ih

/-- A pair that fits is not longer than the buffer. -/
theorem length_le_of_fitting {offset : Nat} {pairs : List Pair} :
    ∀ p ∈ fittingPairs maxLen offset pairs, p.1.length ≤ maxLen ∧ p.2.length ≤ maxLen := by
  induction pairs generalizing offset with
  | nil =>
      intro p hp
      cases hp
  | cons q pairs ih =>
      rw [fittingPairs]
      split
      · next hfits =>
          rw [encodePair_length] at hfits
          rw [List.forall_mem_cons]
          exact ⟨⟨by omega, by omega⟩, ih⟩
      · exact ih

theorem length_le_encodePairs (pairs : List Pair) :
    pairs.length ≤ (pairs.flatMap encodePair).length := by
  induction pairs with
  | nil => exact Nat.le_refl 0
  | cons p pairs ih =>
      have hpos := List.length_pos_of_ne_nil (encodePair_ne_nil p)
      rw [List.flatMap_cons, List.length_append, List.length_cons]
      omega

end Buffer

/-! ## The records -/

/-- BEGIN_REQUEST for a responder that keeps the connection. -/
def beginRecord : Record where
  type := 1
  content := [0, 1, 1, 0, 0, 0, 0, 0]
  padding := []
  content_lt := by decide
  padding_lt := Record.no_padding

/-- PARAMS, padded to a multiple of eight bytes. -/
def paramsRecord (content : List UInt8) (h : content.length < 2 ^ 16) : Record where
  type := 4
  content := content
  padding := List.replicate ((8 - content.length % 8) % 8) 0
  content_lt := h
  padding_lt := by
    rw [List.length_replicate]
    omega

section Records

variable {cfg : CgiConfig} {req : CgiRequest} {contentLength requestId : Nat}

/-- The pairs that fit behind BEGIN_REQUEST and the header. -/
def sentPairs (cfg : CgiConfig) (req : CgiRequest) (contentLength : Nat) : List Pair :=
  fittingPairs gatherBufSize 24 (paramCalls cfg req contentLength)

theorem gatherBuf_eq (cfg : CgiConfig) (req : CgiRequest) (contentLength requestId : Nat) :
    let content := (sentPairs cfg req contentLength).flatMap encodePair
    let pad := (8 - content.length % 8) % 8
    gatherBuf cfg req contentLength requestId
      = beginRequest requestId ++ paramsHeader requestId content.length pad ++ content
        ++ List.replicate pad 0 ++ paramsHeader requestId 0 0 := by
  intro content pad
  have hwritten : (paramCalls cfg req contentLength).foldl
      (fun dest p => fcgiProtoAddPair dest p.1 p.2 gatherBufSize)
      (beginRequest requestId ++ List.replicate 8 0)
      = (beginRequest requestId ++ List.replicate 8 0) ++ content :=
    foldl_addPair (by decide) _
  have hstart : (beginRequest requestId ++ List.replicate 8 0).length = 24 := rfl
  have hdrop : ((beginRequest requestId ++ List.replicate 8 0) ++ content).drop 24 = content :=
    List.drop_left' hstart
  have hlen : ((beginRequest requestId ++ List.replicate 8 0) ++ content).length - 24
      = content.length := by
    rw [List.length_append, hstart]
    omega
  unfold gatherBuf fcgiProtoBuildParams
  dsimp only
  rw [show (beginRequest requestId).length + 8 = 24 from rfl, hwritten, hlen, hdrop]

/-- The buffer holds three records. -/
theorem gatherBuf_records
    (h : ((sentPairs cfg req contentLength).flatMap encodePair).length < 2 ^ 16) :
    gatherBuf cfg req contentLength requestId
      = [beginRecord, paramsRecord _ h, paramsRecord [] (by decide)].flatMap
        (Record.encode requestId) := by
  have hbegin : beginRecord.encode requestId = beginRequest requestId := rfl
  have hempty : (paramsRecord [] (by decide)).encode requestId = paramsHeader requestId 0 0 := rfl
  have hparams : (paramsRecord _ h).encode requestId
      = paramsHeader requestId ((sentPairs cfg req contentLength).flatMap encodePair).length
          ((8 - ((sentPairs cfg req contentLength).flatMap encodePair).length % 8) % 8)
        ++ (((sentPairs cfg req contentLength).flatMap encodePair)
          ++ List.replicate
            ((8 - ((sentPairs cfg req contentLength).flatMap encodePair).length % 8) % 8) 0) := by
    have hpad : ∀ n, byteAt ((8 - n % 8) % 8) 0 = UInt8.ofNat ((8 - n % 8) % 8) := by
      intro n
      apply UInt8.toNat_inj.mp
      rw [byteAt_toNat, UInt8.toNat_ofNat']
      omega
    unfold Record.encode Record.header paramsHeader paramsRecord
    dsimp only
    rw [List.length_replicate, hpad]
  rw [gatherBuf_eq, List.flatMap_cons, List.flatMap_cons, List.flatMap_cons, List.flatMap_nil,
    hbegin, hempty, hparams]
  simp only [List.append_assoc, List.append_nil]

theorem message_params (requestId : Nat) (content : List UInt8) (h : content.length < 2 ^ 16) :
    (Record.parsed requestId (paramsRecord content h)).message
      = (parsePairs content.length content).map .params := rfl

/-- The parameters fit the length field of one record, as the buffer is no longer than it. -/
theorem sentPairs_length
    (h : (gatherBuf cfg req contentLength requestId).length ≤ gatherBufSize) :
    ((sentPairs cfg req contentLength).flatMap encodePair).length < 2 ^ 16 := by
  have heq := congrArg List.length (gatherBuf_eq cfg req contentLength requestId)
  have hbegin : (beginRequest requestId).length = 16 := rfl
  have hsize : gatherBufSize = 65536 := rfl
  simp only [List.length_append] at heq
  omega

/-- The record of the parameters is read back. -/
theorem message_sentPairs (requestId : Nat)
    (h : ((sentPairs cfg req contentLength).flatMap encodePair).length < 2 ^ 16) :
    ((paramsRecord _ h).parsed requestId).message
      = some (.params (sentPairs cfg req contentLength)) := by
  have hpairs : parsePairs ((sentPairs cfg req contentLength).flatMap encodePair).length
      ((sentPairs cfg req contentLength).flatMap encodePair)
      = some (sentPairs cfg req contentLength) := by
    apply parsePairs_encodePairs
    · -- what fits in the buffer has a length of at most four bytes
      intro p hp
      obtain ⟨hname, hvalue⟩ := length_le_of_fitting p hp
      have hsize : gatherBufSize = 65536 := rfl
      exact ⟨by omega, by omega⟩
    · exact length_le_encodePairs _
  rw [message_params, hpairs]
  rfl

end Records

def plainConfig : CgiConfig := ⟨ascii "/var/www", ascii "halmos", 80⟩

/-- GET of `/index.php`. -/
def plainRequest : CgiRequest where
  clientIp := ascii "127.0.0.1"
  method := ascii "GET"
  uri := some (ascii "/index.php")
  host := none
  queryString := none
  pathInfo := none
  contentType := none
  cookieData := none
  isTls := false

end Halmos.Fcgi
