import Halmos.Fcgi.ScriptName
import Halmos.Http1.HeaderLines
import Halmos.Http1.Pointers
import Halmos.Http2.Server

set_option autoImplicit false

/-! # The length of a body as the client announces it

What becomes of `Content-Length`: both parsers read it with `strtol` into an `int`, and
`fcgi_proto_build_params` announces the `int` as a `size_t`. Neither looks at what stands behind the
digits, at a sign or at the size of the number, and of several fields the last one counts. So the
number is the one the fields denote only if they all denote it and an `int` holds it.
-/

namespace Halmos.Http

open Http1 (OneLine HeaderLine)

/-! ## The number of a field -/

def isBlank (c : UInt8) : Bool := c = 0x20 ∨ c = 0x09

def isDigit (c : UInt8) : Bool := 48 ≤ c.toNat ∧ c.toNat ≤ 57

/-- The number a value of `Content-Length` denotes: digits, and maybe blanks around them. -/
def fieldNumber (value : List UInt8) : Option Nat :=
  let digits := (value.dropWhile isBlank).rdropWhile isBlank
  if digits ≠ [] ∧ digits.all isDigit then some (digitsValue 0 digits) else none

section Numbers

variable {value : List UInt8} {n : Nat}

theorem isBlank_of_isDigit {c : UInt8} (h : isDigit c = true) : isBlank c = false := by
  have hc := of_decide_eq_true h
  apply decide_eq_false
  rintro (rfl | rfl)
  · exact absurd hc.1 (by decide)
  · exact absurd hc.1 (by decide)

theorem fieldNumber_split (h : fieldNumber value = some n) :
    ∃ front digits back, value = front ++ (digits ++ back) ∧ (∀ c ∈ front, isBlank c) ∧
      digits ≠ [] ∧ (∀ c ∈ digits, isDigit c) ∧ (∀ c ∈ back, isBlank c) ∧
      digitsValue 0 digits = n := by
  unfold fieldNumber at h
  extract_lets digits at h
  split at h
  · next hdigits =>
    refine ⟨value.takeWhile isBlank, digits, (value.dropWhile isBlank).rtakeWhile isBlank, ?_,
      fun c hc => List.mem_takeWhile_imp hc, hdigits.1, List.all_eq_true.mp hdigits.2,
      fun c hc => List.mem_rtakeWhile_imp hc, Option.some.inj h⟩
    rw [List.rdropWhile_append_rtakeWhile, List.takeWhile_append_dropWhile]
  · cases h

theorem strtol_eq {front digits back : List UInt8} (hfront : ∀ c ∈ front, isBlank c)
    (hne : digits ≠ []) (hdigits : ∀ c ∈ digits, isDigit c) (hback : ∀ c ∈ back, isBlank c) :
    strtol (front ++ (digits ++ back)) = min (digitsValue 0 digits : Int) (2 ^ 63 - 1) := by
  refine strtol_digits (fun c hc => ?_) hne (fun c hc => of_decide_eq_true (hdigits c hc)) ?_
  · rcases of_decide_eq_true (hfront c hc) with rfl | rfl
    · exact .inl rfl
    · exact .inr (by decide)
  · intro c hc hdigit
    have hblank := hback c (List.mem_of_mem_head? hc)
    rw [isBlank_of_isDigit (decide_eq_true hdigit)] at hblank
    cases hblank

/-- `strtol` reads the number of a field. -/
theorem strtol_fieldNumber (h : fieldNumber value = some n) :
    strtol value = min (n : Int) (2 ^ 63 - 1) := by
  obtain ⟨front, digits, back, rfl, hfront, hne, hdigits, hback, rfl⟩ := fieldNumber_split h
  exact strtol_eq hfront hne hdigits hback

/-- And does so when the spaces around it are gone. -/
theorem strtol_trim_fieldNumber (h : fieldNumber value = some n) :
    strtol (trim value) = min (n : Int) (2 ^ 63 - 1) := by
  obtain ⟨front, digits, back, rfl, hfront, hne, hdigits, hback, rfl⟩ := fieldNumber_split h
  have hspace : ∀ c ∈ digits, ¬ c = 0x20 := by
    rintro c hc rfl
    exact absurd (hdigits _ hc) (by decide)
  rw [trim_append hne hspace]
  exact strtol_eq (fun c hc => hfront c ((List.dropWhile_suffix _).subset hc)) hne hdigits
    (fun c hc => hback c ((List.rdropWhile_prefix _ _).subset hc))

end Numbers

end Halmos.Http

namespace Halmos.Http1

open Http (fieldNumber)

/-! ## HTTP/1.1 -/

/-- The head of a request: a line, of whatever kind, and header lines behind it. -/
structure RequestLines where
  requestLine : List UInt8
  lines : List HeaderLine
  requestLine_line : OneLine requestLine
  requestLine_ne : requestLine ≠ []

namespace RequestLines

variable (t : RequestLines)

def head : List UInt8 := t.requestLine ++ (crlf ++ (RequestText.fieldLines t.lines ++ crlf))

theorem head_block : HeaderBlock t.head :=
  headerBlock_lines t.requestLine_line t.requestLine_ne t.lines

/-- The values of the lines `Content-Length`. -/
def lengthValues : List (List UInt8) :=
  (t.lines.filter fun l => strcasecmpEq l.name (ascii "Content-Length")).map HeaderLine.value

end RequestLines

section Line

variable {config : Config} {req req' : RequestHeader} {head head' : List UInt8}

theorem defaultPage_contentLength (h : defaultPage config req = some req') :
    req'.contentLength = req.contentLength := by
  unfold defaultPage at h
  extract_lets defPage page at h
  obtain ⟨routeResult, -, h⟩ := Option.bind_eq_some_iff.mp h
  split at h <;> rw [← Option.some.inj h]

/-- What follows a byte that is cut away is as it was. -/
theorem drop_set_of_lt {s : List UInt8} {i n : Nat} (h : i < n) (b : UInt8) :
    (s.set i b).drop n = s.drop n := by
  rw [List.drop_set, if_pos h]

/-- The question mark of a target stands in the target. -/
theorem idxOf?_target {uStart uLen q : Nat} (hlen : uStart + uLen < head.length)
    (hq : (strAt (head.set (uStart + uLen) 0) uStart).idxOf? 0x3F = some q) : q < uLen := by
  have hin : uLen < (head.drop uStart).length := by
    rw [List.length_drop]
    omega
  have htarget : strAt (head.set (uStart + uLen) 0) uStart = (cstr (head.drop uStart)).take uLen := by
    rw [strAt, List.drop_set, if_neg (by omega), Nat.add_sub_cancel_left, cstr_set_zero hin]
  rw [htarget] at hq
  have hlt := (List.idxOf?_eq_some_iff.mp hq).1
  rw [List.length_take] at hlt
  omega

/-- The request line is changed in its place, and says nothing about the length. -/
theorem parseRequestLine_behind {lineEnd : Nat}
    (h : parseRequestLine config head lineEnd req = some (req', head')) :
    head'.drop lineEnd = head.drop lineEnd ∧ req'.contentLength = req.contentLength := by
  unfold parseRequestLine at h
  extract_lets line at h
  split at h
  · obtain ⟨rfl, rfl⟩ := Prod.mk.inj (Option.some.inj h)
    exact ⟨rfl, rfl⟩
  · next mEnd hm =>
    extract_lets req₀ uStart at h
    have hreq₀ : req₀.contentLength = req.contentLength := by
      unfold req₀
      split <;> rfl
    split at h
    · obtain ⟨rfl, rfl⟩ := Prod.mk.inj (Option.some.inj h)
      exact ⟨rfl, hreq₀⟩
    · next uLen hu =>
      extract_lets version req₁ head₁ target at h
      have hreq₁ : req₁.contentLength = req.contentLength := by
        unfold req₁
        split
        · exact hreq₀
        · exact hreq₀
      split at h
      next req₂ head₂ hq =>
      have hkept : head₂.drop lineEnd = head.drop lineEnd ∧
          req₂.contentLength = req.contentLength := by
        have hlt := (List.idxOf?_eq_some_iff.mp hu).1
        have hline : line.length ≤ lineEnd ∧ line.length ≤ head.length := by simp [line]
        rw [List.length_drop] at hlt
        have hhead₁ : head₁.drop lineEnd = head.drop lineEnd := drop_set_of_lt (by omega) 0
        split at hq
        · next q htarget =>
          have hlen : uStart + uLen < head.length := by omega
          have hlt' := idxOf?_target hlen htarget
          obtain ⟨rfl, rfl⟩ := Prod.mk.inj hq
          exact ⟨(drop_set_of_lt (by omega) 0).trans hhead₁, hreq₁⟩
        · obtain ⟨rfl, rfl⟩ := Prod.mk.inj hq
          exact ⟨hhead₁, hreq₁⟩
      extract_lets path req₃ jp at h
      have hjp : ∀ r : RequestHeader, r.contentLength = req.contentLength →
          jp r = some (req', head') →
          head'.drop lineEnd = head.drop lineEnd ∧ req'.contentLength = req.contentLength := by
        intro r hr hrun
        obtain ⟨rfl, rfl⟩ := Prod.mk.inj (Option.some.inj hrun)
        refine ⟨hkept.1, ?_⟩
        rw [← hr]
        dsimp only
        split <;> rfl
      split at h
      · obtain ⟨req₄, hpage, h⟩ := Option.bind_eq_some_iff.mp h
        exact hjp req₄ ((defaultPage_contentLength hpage).trans hkept.2) h
      · exact hjp req₃ hkept.2 h

end Line

section Lines

variable {config : Config} {req req' : RequestHeader} {block : List UInt8}

/-- `content_length` behind a value: an `int`, and not below zero. -/
def heldLength (value : List UInt8) : Int := max (Int32.ofInt (strtol value)).toInt 0

theorem parseField_contentLength (config : Config) (key head : List UInt8) (val : Nat)
    (req : RequestHeader) : (parseField config key head val req).contentLength
      = if strcasecmpEq key (ascii "Content-Length") then heldLength (strAt head val)
        else req.contentLength := by
  apply parseField_induction (P := fun r => r.contentLength
    = if strcasecmpEq key (ascii "Content-Length") then heldLength (strAt head val)
      else req.contentLength)
  case hlength => exact fun h => (if_pos h).symm
  case hother => exact fun _ _ h _ _ => (if_neg h).symm
  case hupgrade => exact fun h _ => (if_neg (not_strcasecmpEq h (by decide))).symm
  case hconnection => exact fun h _ => (if_neg (not_strcasecmpEq h (by decide))).symm
  all_goals exact fun h => (if_neg (not_strcasecmpEq h (by decide))).symm

theorem lastValue_cons (name : List UInt8) (l : HeaderLine) (lines : List HeaderLine) :
    lastValue name (l :: lines) = (lastValue name lines).or
      (if strcasecmpEq l.name name then some (trim l.value) else none) := by
  unfold lastValue
  rw [List.filter_cons]
  split
  · rw [List.getLast?_cons]
    cases (lines.filter fun l => strcasecmpEq l.name name).getLast? <;> rfl
  · rw [Option.or_none]

/-- **The last line counts**, with all lines behind a request line of any kind. -/
theorem parseLines_contentLength (config : Config) (lines : List HeaderLine) {headerEnd : Nat}
    (hend : block.length + (RequestText.fieldLines lines).length = headerEnd + 2) (fuel : Nat)
    (hfuel : (RequestText.fieldLines lines).length ≤ fuel) (req : RequestHeader) :
    (parseLines config headerEnd fuel block.length req
        (block ++ (RequestText.fieldLines lines ++ crlf))).1.contentLength
      = ((lastValue (ascii "Content-Length") lines).map heldLength).getD req.contentLength := by
  induction lines generalizing block fuel req with
  | nil =>
      cases fuel with
      | zero => rfl
      | succ fuel =>
          have hle : headerEnd ≤ block.length := by
            simp [RequestText.fieldLines] at hend
            omega
          rw [parseLines, if_pos hle]
          rfl
  | cons l lines ih =>
      have hlines := congrArg List.length (fieldLines_cons l lines [])
      have hcrlf : crlf.length = 2 := rfl
      simp only [List.append_nil, List.length_append] at hlines
      have hpos : 0 < l.text.length := List.length_pos_iff.mpr l.text_ne_nil
      obtain ⟨cut, val, hlen, hpoints, hround⟩ := parseLines_round config req
        (show block.length + l.text.length ≤ headerEnd by omega)
        (show 0 < fuel by omega) (RequestText.fieldLines lines ++ crlf)
      have hend' : (block ++ cut).length + (RequestText.fieldLines lines).length
          = headerEnd + 2 := by
        rw [List.length_append]
        omega
      rw [fieldLines_cons, hround, ih hend' (fuel - 1) (by omega), parseField_contentLength,
        (hpoints.append _).strAt, lastValue_cons]
      cases lastValue (ascii "Content-Length") lines with
      | some value => rfl
      | none =>
          rw [Option.none_or]
          split <;> rfl

theorem injectRoute_contentLength (h : injectRoute block req = some req') :
    req'.contentLength = req.contentLength := by
  obtain ⟨p, uri, -, -, ⟨-, rfl⟩ | ⟨route, -, hrouted⟩⟩ := injectRoute_eq_some h
  · rfl
  · obtain ⟨_, _, _, _, _, _, _, -, -, -, -, -, _, _, rfl, -⟩ := hrouted
    rfl

/-- **`content_length` of a request**: what the last line `Content-Length` says. -/
theorem parseHead_contentLength (t : RequestLines)
    (h : parseHead config t.head req = some (req', block)) :
    req'.contentLength = ((lastValue (ascii "Content-Length") t.lines).map heldLength).getD
      req.contentLength := by
  obtain ⟨line, rest, req₁, head₁, req₂, hfound, hline, hlines, hroute⟩ := parseHead_eq_some h
  obtain ⟨rfl, -⟩ := Prod.mk.inj (Option.some.inj
    ((strstr_crlf t.requestLine_line (RequestText.fieldLines t.lines ++ crlf)).symm.trans hfound))
  obtain ⟨hdrop, hlength⟩ := parseRequestLine_behind hline
  have hlen := length_parseRequestLine hline
  have hcrlf : crlf.length = 2 := rfl
  have hhead : t.head.length
      = t.requestLine.length + (RequestText.fieldLines t.lines).length + 4 := by
    simp [RequestLines.head, hcrlf]
    omega
  -- the block up to the first header line
  have hbehind : head₁.drop (t.requestLine.length + 2) = RequestText.fieldLines t.lines ++ crlf := by
    rw [← List.drop_drop, hdrop, RequestLines.head, List.drop_left, List.drop_left' hcrlf]
  have hblock : head₁ = head₁.take (t.requestLine.length + 2)
      ++ (RequestText.fieldLines t.lines ++ crlf) := by
    rw [← hbehind, List.take_append_drop]
  have htake : (head₁.take (t.requestLine.length + 2)).length = t.requestLine.length + 2 := by
    rw [List.length_take]
    omega
  have hend : (head₁.take (t.requestLine.length + 2)).length
      + (RequestText.fieldLines t.lines).length = t.head.length - 4 + 2 := by omega
  have hall := parseLines_contentLength config t.lines hend head₁.length (by omega) req₁
  rw [← hblock, htake, hlines, hlength] at hall
  rw [← hall]
  split at hroute
  · exact injectRoute_contentLength hroute
  · rw [← Option.some.inj hroute]

theorem http1ParserParseHeader_contentLength (t : RequestLines) {body buffer' : List UInt8}
    {valid : Bool}
    (h : http1ParserParseHeader config (t.head ++ body) req = some (valid, req', buffer')) :
    req'.contentLength = ((lastValue (ascii "Content-Length") t.lines).map heldLength).getD
      req.contentLength := by
  obtain ⟨parsed, block, parts, hparse, -, -, rfl, -⟩ :=
    http1ParserParseHeader_eq_some (t.head_block.found body) h
  have hlength := parseHead_contentLength t hparse
  exact hlength

end Lines

end Halmos.Http1

namespace Halmos.Http2

open Hpack

/-! ## HTTP/2 -/

/-- The fields of a block, in the order in which the loop reads them. -/
def blockFields : Nat → HPACKDynamicTable → List UInt8 → List Field
  | 0, _, _ => []
  | _ + 1, _, [] => []
  | fuel + 1, table, b :: p =>
      let r := readField table b p
      r.field.toList ++ blockFields fuel (r.tableAfter table) r.rest

/-- The values of the fields `content-length`. -/
def lengthValues (fields : List Field) : List (List UInt8) :=
  (fields.filter fun f => f.name = ascii "content-length").map Field.value

/-- `content_length` when a stream goes to its backend: `handle_stream_end` puts the number of
bytes there that have come. -/
def routedLength (req : RequestHeader) : Option (List UInt8) → Int32
  | none => req.contentLength
  | some body => Int32.ofNat body.length

section Fields

variable {trustProxy : Bool} {table : HPACKDynamicTable} {req : RequestHeader}

theorem literal_contentLength (trustProxy : Bool) (f : Field) (req : RequestHeader) :
    (http2HpackLiteralHeaderWithName trustProxy f req).2.contentLength
      = if f.name = ascii "content-length" then Int32.ofInt (strtol f.value)
        else req.contentLength := by
  unfold http2HpackLiteralHeaderWithName
  extract_lets name value valLen buf ip
  by_cases h : name = ascii "content-length"
  · rw [if_pos (show f.name = ascii "content-length" from h), h]
    have hcookie : ¬ ascii "content-length" = ascii "cookie" := by decide
    rw [if_neg (by decide), if_neg (by decide), if_neg (by decide), if_neg hcookie,
      if_pos (show f.name = ascii "content-length" from h)]
  · rw [if_neg (show ¬ f.name = ascii "content-length" from h), if_neg h]
    -- every other branch leaves the number alone
    repeat' refine iteInduction (motive := fun o : Nat × RequestHeader =>
      o.2.contentLength = req.contentLength) (fun _ => ?_) (fun _ => ?_)
    all_goals rfl

theorem lengthValues_cons (f : Field) (fields : List Field) :
    lengthValues (f :: fields) = if f.name = ascii "content-length"
      then f.value :: lengthValues fields else lengthValues fields := by
  unfold lengthValues
  rw [List.filter_cons]
  simp only [decide_eq_true_eq]
  split <;> rfl

/-- Of an accepted block, too, the last field counts. -/
theorem parseHeaderLoop_contentLength {fuel : Nat} {block : List UInt8}
    (h : (parseHeaderLoop trustProxy fuel table req block).status = 0) :
    (parseHeaderLoop trustProxy fuel table req block).req.contentLength
      = ((lengthValues (blockFields fuel table block)).getLast?.map
          fun value => Int32.ofInt (strtol value)).getD req.contentLength := by
  induction fuel generalizing table req block with
  | zero => rfl
  | succ fuel ih =>
      cases block with
      | nil => rfl
      | cons b p =>
          rw [parseHeaderLoop] at h ⊢
          rw [blockFields]
          cases hfield : (readField table b p).field with
          | none =>
              rw [hfield] at h
              exact ih h
          | some f =>
              rw [hfield] at h
              dsimp only at h ⊢
              split at h
              · next hstatus => exact absurd h hstatus
              · next hstatus =>
                rw [if_neg hstatus, Option.toList_some, List.singleton_append, lengthValues_cons]
                have hrest := ih h
                rw [literal_contentLength] at hrest
                rw [hrest]
                split
                · rw [List.getLast?_cons]
                  cases (lengthValues _).getLast? <;> rfl
                · rfl

theorem parseHeaderFull_contentLength {env : Environment} {s s' : Server} {id : Nat}
    {block : List UInt8} (h : parseHeaderFull env s id block = (true, s')) :
    (s'.rest.streams id).req.contentLength
      = ((lengthValues (blockFields block.length s.rest.table block)).getLast?.map
          fun value => Int32.ofInt (strtol value)).getD (s.rest.streams id).req.contentLength := by
  unfold parseHeaderFull at h
  split at h
  · cases h
  · extract_lets pass valid at h
    obtain ⟨hvalid, rfl⟩ := Prod.mk.inj h
    have hlength := parseHeaderLoop_contentLength (of_decide_eq_true hvalid).1
    rw [← show (s.rest.streams id).req.reset.contentLength = (s.rest.streams id).req.contentLength
      from rfl, ← hlength]
    simp [setRest, pass, parseHeader]

theorem http2RouterBridge_call (env : Environment) (s : Server) (id : Nat) :
    (http2RouterBridge env s id).2.head? = some (.router id ((s.rest.streams id).bodyData.getD [])
      (s.rest.streams id).req.contentLength) := by
  unfold http2RouterBridge
  extract_lets r call answer
  split <;> rfl

/-- The body is measured when the stream ends. -/
theorem handleStreamEnd_call (env : Environment) (s : Server) (id : Nat) :
    (handleStreamEnd env s id).2.head? = some (.router id ((s.rest.streams id).bodyData.getD [])
      (routedLength (s.rest.streams id).req (some ((s.rest.streams id).bodyData.getD [])))) := by
  unfold handleStreamEnd
  dsimp only
  rw [http2RouterBridge_call]
  simp [setRest, routedLength]

end Fields

end Halmos.Http2

namespace Halmos.Fcgi

/-! ## What the application is told -/

/-- The values of the parameters `CONTENT_LENGTH` in the gather buffer. -/
def announced (cfg : CgiConfig) (cgi : CgiRequest) (contentLength : Nat) : List (List UInt8) :=
  ((sentPairs cfg cgi contentLength).filter fun p => p.1 = ascii "CONTENT_LENGTH").map Prod.snd

/-- `CONTENT_LENGTH` fits behind the parameters in front of it. -/
def LengthFits (cfg : CgiConfig) (cgi : CgiRequest) (n : Nat) : Prop :=
  24 + ((sentPairs cfg cgi 0).flatMap encodePair).length
    + (encodePair (ascii "CONTENT_LENGTH", numeral 10 n)).length ≤ gatherBufSize

instance (cfg : CgiConfig) (cgi : CgiRequest) (n : Nat) : Decidable (LengthFits cfg cgi n) :=
  inferInstanceAs (Decidable (_ ≤ _))

theorem fittingPairs_append (maxLen offset : Nat) (pairs more : List Pair) :
    fittingPairs maxLen offset (pairs ++ more) = fittingPairs maxLen offset pairs
      ++ fittingPairs maxLen
        (offset + ((fittingPairs maxLen offset pairs).flatMap encodePair).length) more := by
  induction pairs generalizing offset with
  | nil => rfl
  | cons p pairs ih =>
      rw [List.cons_append, fittingPairs, fittingPairs]
      split
      · rw [ih, List.flatMap_cons, List.length_append, ← Nat.add_assoc]
        rfl
      · exact ih offset

theorem paramCalls_eq (cfg : CgiConfig) (cgi : CgiRequest) (n : Nat) :
    paramCalls cfg cgi n = paramCalls cfg cgi 0 ++
      (if 0 < n then [(ascii "CONTENT_LENGTH", numeral 10 n),
        (ascii "CONTENT_TYPE", cgi.contentType.getD (ascii "application/x-www-form-urlencoded"))]
      else []) := by
  unfold paramCalls
  rw [if_neg (lt_irrefl 0), List.append_nil]

theorem name_ne_contentLength (cfg : CgiConfig) (cgi : CgiRequest) :
    ∀ p ∈ paramCalls cfg cgi 0, p.1 ≠ ascii "CONTENT_LENGTH" := by
  unfold paramCalls
  rintro ⟨name, value⟩ hmem rfl
  split at hmem <;>
    simp +decide [Option.map_eq_some_iff] at hmem

/-- **`CONTENT_LENGTH`** is the number, or missing when that is zero or does not fit. -/
theorem announced_eq (cfg : CgiConfig) (cgi : CgiRequest) (n : Nat) :
    announced cfg cgi n = if 0 < n ∧ LengthFits cfg cgi n then [numeral 10 n] else [] := by
  have hfront : (sentPairs cfg cgi 0).filter (fun p => p.1 = ascii "CONTENT_LENGTH") = [] := by
    rw [List.filter_eq_nil_iff]
    intro p hp
    simpa using name_ne_contentLength cfg cgi p (fittingPairs_subset p hp)
  have htype : ascii "CONTENT_TYPE" ≠ ascii "CONTENT_LENGTH" := by decide
  rw [announced, sentPairs, paramCalls_eq, fittingPairs_append, List.filter_append, ← sentPairs,
    hfront, List.nil_append]
  by_cases hpos : 0 < n
  · rw [if_pos hpos, fittingPairs]
    split
    · next hfits =>
      rw [if_pos ⟨hpos, hfits⟩, List.filter_cons_of_pos (by simp), fittingPairs]
      split <;> simp [fittingPairs, htype]
    · next hfits =>
      rw [if_neg (fun h => hfits h.2), fittingPairs]
      split <;> simp [fittingPairs, htype]
  · rw [if_neg hpos, if_neg (fun h => hpos h.1)]
    rfl

end Halmos.Fcgi

namespace Halmos.Http

open Fcgi (CgiConfig CgiRequest LengthFits announced announced_eq)

/-! ## What is announced is what was meant -/

/-- The `int` as a `size_t`. -/
def sizeOfInt (n : Int) : Nat := (n % 2 ^ 64).toNat

/-- The length is the number that every field denotes, and the application is told it. -/
def Honoured (cfg : CgiConfig) (cgi : CgiRequest) (values : List (List UInt8)) (length : Int) :
    Prop :=
  ∀ value ∈ values, ∃ n : Nat, fieldNumber value = some n ∧ length = n ∧
    announced cfg cgi (sizeOfInt length) = if n = 0 then [] else [numeral 10 n]

instance (cfg : CgiConfig) (cgi : CgiRequest) (values : List (List UInt8)) (length : Int) :
    Decidable (Honoured cfg cgi values length) :=
  List.decidableBAll _ _

/-- All fields denote one number, an `int` holds it, and there is room to announce it. -/
def Announceable (cfg : CgiConfig) (cgi : CgiRequest) (values : List (List UInt8)) (n : Nat) :
    Prop :=
  (∀ value ∈ values, fieldNumber value = some n) ∧ n < 2 ^ 31 ∧ (0 < n → LengthFits cfg cgi n)

section Lengths

variable {cfg : CgiConfig} {cgi : CgiRequest} {values : List (List UInt8)} {n : Nat}

theorem sizeOfInt_natCast (h : n < 2 ^ 31) : sizeOfInt n = n := by
  unfold sizeOfInt
  omega

/-- The number is told exactly if there is room for it. -/
theorem announced_iff : announced cfg cgi n = (if n = 0 then [] else [numeral 10 n])
    ↔ (0 < n → LengthFits cfg cgi n) := by
  rw [announced_eq]
  by_cases hpos : 0 < n
  · rw [if_neg (show ¬ n = 0 by omega)]
    by_cases hfits : LengthFits cfg cgi n
    · simp [hpos, hfits]
    · simp [hpos, hfits]
  · have hzero : n = 0 := by omega
    simp [hzero]

theorem honoured_iff {length : Int} (hne : values ≠ []) (hlength : length < 2 ^ 31) :
    Honoured cfg cgi values length
      ↔ ∃ n : Nat, Announceable cfg cgi values n ∧ length = n := by
  constructor
  · intro h
    obtain ⟨first, hfirst⟩ := List.exists_mem_of_ne_nil values hne
    obtain ⟨n, -, rfl, htold⟩ := h first hfirst
    have hlt : n < 2 ^ 31 := by omega
    rw [sizeOfInt_natCast hlt] at htold
    refine ⟨n, ⟨fun value hvalue => ?_, hlt, announced_iff.mp htold⟩, rfl⟩
    obtain ⟨m, hm, heq, -⟩ := h value hvalue
    rw [hm, Int.ofNat_inj.mp heq]
  · rintro ⟨n, ⟨hall, hlt, hfits⟩, rfl⟩ value hvalue
    refine ⟨n, hall value hvalue, rfl, ?_⟩
    rw [sizeOfInt_natCast hlt]
    exact announced_iff.mpr hfits

theorem toInt_ofInt_natCast (h : n < 2 ^ 31) : (Int32.ofInt n).toInt = n := by
  have hsize : Int32.size = 2 ^ 32 := rfl
  rw [Int32.toInt_ofInt, hsize, Int.bmod_eq_of_le (by omega) (by omega)]

theorem toInt_lt (i : Int32) : i.toInt < 2 ^ 31 := Int32.toInt_lt i

/-- The number of bytes, as an `int`. -/
theorem toInt_ofNat_eq_iff (length : Nat) (h : n < 2 ^ 31) :
    (Int32.ofNat length).toInt = n ↔ length % 2 ^ 32 = n := by
  have hsize : Int32.size = 2 ^ 32 := rfl
  rw [Int32.toInt_ofNat', hsize, Int.bmod_def]
  split <;> omega

end Lengths

section Protocols

variable {cfg : CgiConfig} {cgi : CgiRequest}

/-- The last line is one of the lines. -/
theorem mem_lengthValues {t : Http1.RequestLines} (hne : t.lengthValues ≠ []) :
    ∃ value ∈ t.lengthValues,
      Http1.lastValue (ascii "Content-Length") t.lines = some (trim value) := by
  unfold Http1.RequestLines.lengthValues at hne
  have hlines := fun h => hne (List.map_eq_nil_iff.mpr h)
  refine ⟨_, List.mem_map_of_mem (List.getLast_mem hlines), ?_⟩
  unfold Http1.lastValue
  rw [List.getLast?_eq_some_getLast hlines]
  rfl

theorem http1_honoured_iff {config : Http1.Config} (t : Http1.RequestLines)
    {body buffer' : List UInt8} {req req' : Http1.RequestHeader}
    (h : Http1.http1ParserParseHeader config (t.head ++ body) req = some (true, req', buffer')) :
    Honoured cfg cgi t.lengthValues req'.contentLength
      ↔ t.lengthValues = [] ∨ ∃ n, Announceable cfg cgi t.lengthValues n := by
  have hlength := Http1.http1ParserParseHeader_contentLength t h
  by_cases hnil : t.lengthValues = []
  · rw [Honoured, hnil]
    simp
  · obtain ⟨value, hmem, hlast⟩ := mem_lengthValues hnil
    rw [hlast, Option.map_some, Option.getD_some] at hlength
    have hlt : Http1.heldLength (trim value) < 2 ^ 31 :=
      max_lt (toInt_lt _) (by decide)
    rw [hlength, honoured_iff hnil hlt, or_iff_right hnil]
    refine exists_congr fun n => and_iff_left_of_imp fun hall => ?_
    -- `strtol` reads the number, which an `int` holds
    have hread := strtol_trim_fieldNumber (hall.1 value hmem)
    rw [show min (n : Int) (2 ^ 63 - 1) = n by have := hall.2.1; omega] at hread
    rw [Http1.heldLength, hread, toInt_ofInt_natCast hall.2.1]
    omega

theorem http2_honoured_iff {env : Http2.Environment} {s s' : Http2.Server} {id : Nat}
    {block : List UInt8} (h : Http2.parseHeaderFull env s id block = (true, s'))
    (body : Option (List UInt8)) :
    let values := Http2.lengthValues (Http2.blockFields block.length s.rest.table block)
    Honoured cfg cgi values (Http2.routedLength (s'.rest.streams id).req body).toInt
      ↔ values = [] ∨ ∃ n, Announceable cfg cgi values n ∧ ∀ b ∈ body, b.length % 2 ^ 32 = n := by
  intro values
  by_cases hnil : values = []
  · rw [Honoured, hnil]
    simp
  · rw [honoured_iff hnil (toInt_lt _), or_iff_right hnil]
    refine exists_congr fun n => and_congr_right fun hall => ?_
    cases body with
    | some body => simpa [Http2.routedLength] using toInt_ofNat_eq_iff body.length hall.2.1
    | none =>
        have hlength := Http2.parseHeaderFull_contentLength h
        rw [List.getLast?_eq_some_getLast hnil, Option.map_some, Option.getD_some] at hlength
        have hread := strtol_fieldNumber (hall.1 _ (List.getLast_mem hnil))
        rw [show min (n : Int) (2 ^ 63 - 1) = n by have := hall.2.1; omega] at hread
        rw [Http2.routedLength, hlength, hread, toInt_ofInt_natCast hall.2.1]
        simp

end Protocols

/-- **The announced length** of an accepted request is what every field denotes exactly when the
fields denote one number, below `2 ^ 31`, with room for it; a body that has been measured must have
that length. -/
theorem contentLength_honoured_iff (cfg : CgiConfig) (cgi : CgiRequest) :
    (∀ (config : Http1.Config) (t : Http1.RequestLines) (body buffer' : List UInt8)
        (req req' : Http1.RequestHeader),
      Http1.http1ParserParseHeader config (t.head ++ body) req = some (true, req', buffer') →
      (Honoured cfg cgi t.lengthValues req'.contentLength
        ↔ t.lengthValues = [] ∨ ∃ n, Announceable cfg cgi t.lengthValues n)) ∧
    ∀ (env : Http2.Environment) (s s' : Http2.Server) (id : Nat) (block : List UInt8)
        (body : Option (List UInt8)),
      Http2.parseHeaderFull env s id block = (true, s') →
      let values := Http2.lengthValues (Http2.blockFields block.length s.rest.table block)
      (Honoured cfg cgi values (Http2.routedLength (s'.rest.streams id).req body).toInt
        ↔ values = [] ∨
          ∃ n, Announceable cfg cgi values n ∧ ∀ b ∈ body, b.length % 2 ^ 32 = n) :=
  ⟨fun _ t _ _ _ _ h => http1_honoured_iff t h, fun _ _ _ _ _ body h => http2_honoured_iff h body⟩

/-- A POST with one line. -/
def lengthPost (value : List UInt8) (hvalue : Http1.OneLine value) : Http1.RequestLines where
  requestLine := ascii "POST / HTTP/1.1"
  lines := [⟨ascii "Content-Length", value, by decide, hvalue, by decide⟩]
  requestLine_line := by decide
  requestLine_ne := by decide

def lengthConfig : Http1.Config := ⟨[], [], [], [], 8192, []⟩

/-- A session, and the block of a POST with `content-length` of two characters. -/
def lengthServer : Http2.Server := .fresh ⟨.empty, fun _ => .new .plain⟩

def lengthBlock (a b : UInt8) : List UInt8 := [0x83, 0x84, 0x0F, 0x0D, 0x02, a, b]

/-- Twelve, over both protocols. -/
theorem contentLength_honoured_twelve :
    (∃ req' buffer', Http1.http1ParserParseHeader lengthConfig
        ((lengthPost (ascii " 12") (by decide)).head ++ []) .zero = some (true, req', buffer') ∧
      Honoured Fcgi.plainConfig Fcgi.plainRequest [ascii " 12"] req'.contentLength) ∧
    Honoured Fcgi.plainConfig Fcgi.plainRequest [ascii "12"]
      (Http2.routedLength ((Http2.parseHeaderFull .plain lengthServer 1
        (lengthBlock 0x31 0x32)).2.rest.streams 1).req none).toInt := by
  have hroom : LengthFits Fcgi.plainConfig Fcgi.plainRequest 12 := by decide +kernel
  constructor
  · have hvalid : (Http1.http1ParserParseHeader lengthConfig
        ((lengthPost (ascii " 12") (by decide)).head ++ []) .zero).map Prod.fst = some true := by
      decide +kernel
    obtain ⟨⟨valid, req', buffer'⟩, hparse, rfl⟩ := Option.map_eq_some_iff.mp hvalid
    refine ⟨req', buffer', hparse, ?_⟩
    exact ((contentLength_honoured_iff _ _).1 _ _ _ _ _ _ hparse).mpr
      (.inr ⟨12, by decide, by decide, fun _ => hroom⟩)
  · have hvalid : (Http2.parseHeaderFull .plain lengthServer 1 (lengthBlock 0x31 0x32)).1 = true := by
      decide +kernel
    have hvalues : Http2.lengthValues (Http2.blockFields (lengthBlock 0x31 0x32).length
        lengthServer.rest.table (lengthBlock 0x31 0x32)) = [ascii "12"] := by
      decide +kernel
    have hiff := (contentLength_honoured_iff Fcgi.plainConfig Fcgi.plainRequest).2 _ _ _ 1 _ none
      (Prod.ext hvalid rfl)
    rw [hvalues] at hiff
    exact hiff.mpr (.inr ⟨12, ⟨by decide, by decide, fun _ => hroom⟩, by simp⟩)

/-- `4294967297` is taken for 1, and `-5` is announced as `18446744073709551611`. -/
theorem contentLength_wraps :
    (∃ req' buffer', Http1.http1ParserParseHeader lengthConfig
        ((lengthPost (ascii "4294967297") (by decide)).head ++ []) .zero
          = some (true, req', buffer') ∧ req'.contentLength = 1 ∧
      ¬ Honoured Fcgi.plainConfig Fcgi.plainRequest [ascii "4294967297"] req'.contentLength) ∧
    ∃ s', Http2.parseHeaderFull .plain lengthServer 1 (lengthBlock 0x2D 0x35) = (true, s') ∧
      (s'.rest.streams 1).req.contentLength.toInt = -5 ∧
      announced Fcgi.plainConfig Fcgi.plainRequest (sizeOfInt (-5))
        = [ascii "18446744073709551611"] ∧
      ¬ Honoured Fcgi.plainConfig Fcgi.plainRequest [ascii "-5"]
        (s'.rest.streams 1).req.contentLength.toInt := by
  constructor
  · have hparsed : (Http1.http1ParserParseHeader lengthConfig
        ((lengthPost (ascii "4294967297") (by decide)).head ++ []) .zero).map
          (fun r => (r.1, r.2.1.contentLength)) = some (true, 1) := by
      decide +kernel
    obtain ⟨⟨valid, req', buffer'⟩, hparse, hlength⟩ := Option.map_eq_some_iff.mp hparsed
    obtain ⟨rfl, hone⟩ := Prod.mk.inj hlength
    refine ⟨req', buffer', hparse, hone, fun h => ?_⟩
    obtain ⟨n, hn, hlen, -⟩ := h _ List.mem_cons_self
    have hnumber : fieldNumber (ascii "4294967297") = some 4294967297 := by decide
    rw [← Option.some.inj (hnumber.symm.trans hn)] at hlen
    exact absurd (hone.symm.trans hlen) (by decide)
  · have hvalid : (Http2.parseHeaderFull .plain lengthServer 1 (lengthBlock 0x2D 0x35)).1 = true := by
      decide +kernel
    refine ⟨_, Prod.ext hvalid rfl, by decide +kernel, by decide +kernel, fun h => ?_⟩
    obtain ⟨n, hn, -⟩ := h _ List.mem_cons_self
    exact absurd (show fieldNumber (ascii "-5") = none by decide) (by simp [hn])

end Halmos.Http
