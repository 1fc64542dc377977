import Halmos.Http1.RequestText
import Halmos.Http2.Multipart

set_option autoImplicit false

/-! # Form data

Forms as a client sends them in `multipart/form-data`, and what the two multipart parsers make of
them. Both look for `filename="` in the whole header and find it in a name that ends with
`filename=`: a form is read as it was sent unless it has such a name (`roundTrip_iff`).
-/

namespace Halmos.Http

open Http1 Http2

/-! ## Forms -/

/-- A text that may stand between quotation marks. -/
def Quotable (s : List UInt8) : Prop := OneLine s ∧ 0x22 ∉ s

/-- A part of a form. -/
structure FormPart where
  name : List UInt8
  filename : Option (List UInt8)
  data : List UInt8
  name_quotable : Quotable name
  filename_quotable : ∀ f ∈ filename, Quotable f

/-- What is behind the name in a header: `; filename="..."`, if the part has one. -/
def FormPart.filenameText (p : FormPart) : List UInt8 :=
  match p.filename with
  | none => []
  | some f => ascii "; filename=" ++ 0x22 :: (f ++ [0x22])

/-- `Content-Disposition: form-data; name="..."; filename="..."` -/
def FormPart.header (p : FormPart) : List UInt8 :=
  ascii "Content-Disposition: form-data; name=" ++ 0x22 :: (p.name ++ 0x22 :: p.filenameText)

/-- The body of a form: a line with the delimiter in front of each part, and one behind the last. -/
def encodeParts (delimiter : List UInt8) : List FormPart → List UInt8
  | [] => delimiter ++ (ascii "--" ++ Http1.crlf)
  | p :: ps =>
      delimiter ++ (Http1.crlf ++ (p.header ++ (blankLine ++ (p.data ++ (Http1.crlf ++
        encodeParts delimiter ps)))))

/-- A form: the boundary and the parts, in none of which the delimiter occurs. -/
structure Form where
  boundary : List UInt8
  parts : List FormPart
  boundary_length : boundary.length ≤ 248
  boundary_plain : ∀ c ∈ boundary, c ≠ 0x20 ∧ c ≠ 0x3B ∧ c ≠ 0x0D ∧ c ≠ 0x0A ∧ c ≠ 0
  data_free : ∀ p ∈ parts, ¬ ascii "--" ++ boundary <:+: p.data

namespace Form

variable (f : Form)

def delimiter : List UInt8 := ascii "--" ++ f.boundary

def contentType : List UInt8 := ascii "multipart/form-data; boundary=" ++ f.boundary

def body : List UInt8 := encodeParts f.delimiter f.parts

end Form

/-! ## Reading a form back -/

/-- What a parser has found of a part. -/
structure FormEntry where
  name : Option (List UInt8)
  filename : Option (List UInt8)
  data : List UInt8
  deriving DecidableEq, Repr

def FormPart.entry (p : FormPart) : FormEntry := ⟨some p.name, p.filename, p.data⟩

/-- A part that was parsed, with its data as it is in the memory. -/
def entryOf (memory : List UInt8) (p : MultipartPart) : FormEntry where
  name := p.name
  filename := p.filename
  data := match p.data with
    | .buffer off => (memory.drop off).take p.dataLen
    | _ => []

/-- `http_multipart_parse_body` finds the parts of the form, behind any header block, and leaves the
body as it was. -/
def RoundTripHttp1 (f : Form) : Prop :=
  ∀ head, (patchedParseBody f.contentType head.length f.body).map
      (fun r => (r.1.map (entryOf (head ++ r.2)), r.2))
    = some (f.parts.map FormPart.entry, f.body)

/-- `http2_multipart_parse` finds the parts of the form, with anything behind the NUL behind the
body. -/
def RoundTripHttp2 (f : Form) : Prop :=
  ∀ behind, (http2MultipartParse f.contentType (f.body ++ 0 :: behind) f.body.length).map
      (fun parts => parts.map (entryOf (f.body ++ 0 :: behind)))
    = some (f.parts.map FormPart.entry)

/-- No name ends with `filename=`, unless the key that is found there does no harm: the text between
the next two quotation marks is the filename, or there is no other quotation mark in front of a
NUL. -/
def KeysInPlace (boundary : List UInt8) : List FormPart → Prop
  | [] => True
  | p :: ps =>
      (ascii "filename=" <:+ p.name →
        match p.filename with
        | some filename => filename = ascii "; filename="
        | none => 0x22 ∉ cstr p.data ∧ (0 ∈ p.data ∨ ps = [] ∧ 0x22 ∉ boundary)) ∧
      KeysInPlace boundary ps

/-! ## The header -/

section Header

variable {key header s : List UInt8} {p : FormPart}

theorem Quotable.oneLine (h : Quotable s) : OneLine s := h.1

theorem FormPart.filenameText_line (p : FormPart) : OneLine p.filenameText := by
  unfold filenameText
  cases hname : p.filename with
  | none => exact List.forall_mem_nil _
  | some f =>
      have hf := (p.filename_quotable f (by simp [hname])).oneLine
      have hkey : OneLine (ascii "; filename=") := by decide
      have hquote : OneLine [0x22] := by decide
      exact hkey.append (.cons (by decide) (hf.append hquote))

theorem FormPart.header_line (p : FormPart) : OneLine p.header := by
  have hkey : OneLine (ascii "Content-Disposition: form-data; name=") := by decide
  exact hkey.append
    (.cons (by decide) (p.name_quotable.oneLine.append (.cons (by decide) p.filenameText_line)))

/-- The HTTP/1 parser reads a header that ends where the text does. -/
theorem quoted_eq_quotedIn (hkey : key ≠ []) :
    quoted key header = quotedIn key header.length header := by
  unfold quoted quotedIn
  cases hfound : strstr key header with
  | none => rfl
  | some r =>
      obtain ⟨before, found⟩ := r
      obtain ⟨hsplit, hpre⟩ := strstr_sound hfound
      have hlen := congrArg List.length hsplit
      have hpos := List.length_pos_of_ne_nil hkey
      have hle := hpre.length_le
      rw [List.length_append] at hlen
      have hin : before.length < header.length := by omega
      dsimp only [bind, Option.bind]
      rw [if_pos hin]
      cases (found.drop key.length).idxOf? 0x22 <;> rfl

/-- What is found of the filename in a header with the text `rest` behind it. -/
def FormPart.filenameFound (p : FormPart) (rest : List UInt8) : Option (List UInt8) :=
  if ascii "filename=" <:+ p.name then
    match p.filename with
    | some _ => some (ascii "; filename=")
    | none => (rest.idxOf? 0x22).map (fun stop => rest.take stop)
  else p.filename

theorem quotedIn_name (p : FormPart) (rest : List UInt8) :
    quotedIn (ascii "name=\"") p.header.length (p.header ++ rest) = some p.name := by
  have hkey : ascii "name=\"" = ascii "name=" ++ [0x22] := rfl
  have hin : ascii "name=" <:+ ascii "Content-Disposition: form-data; name=" := by decide
  have hfound := strstr_quote (s := p.name ++ 0x22 :: (p.filenameText ++ rest))
    (show (0x22 : UInt8) ∉ ascii "name=" by decide)
    (show (0x22 : UInt8) ∉ ascii "Content-Disposition: form-data; name=" by decide)
  rw [if_pos hin, ← hkey] at hfound
  have htext : p.header ++ rest = ascii "Content-Disposition: form-data; name="
      ++ 0x22 :: (p.name ++ 0x22 :: (p.filenameText ++ rest)) := by
    simp [FormPart.header]
  have hval : (ascii "name=" ++ 0x22 :: (p.name ++ 0x22 :: (p.filenameText ++ rest))).drop
      (ascii "name=\"").length = p.name ++ 0x22 :: (p.filenameText ++ rest) := rfl
  have hlt : ((ascii "Content-Disposition: form-data; name=").take
      ((ascii "Content-Disposition: form-data; name=").length
        - (ascii "name=").length)).length < p.header.length := by
    simp [FormPart.header, ascii]
  unfold quotedIn
  rw [htext, hfound]
  dsimp only
  rw [if_pos hlt, hval, idxOf?_append p.name_quotable.2]
  dsimp only
  rw [List.take_left]

/-- The name is skipped, or the key for the filename is found at its end. -/
theorem strstr_filename (p : FormPart) (rest : List UInt8) :
    strstr (ascii "filename=\"") (p.header ++ rest) =
      (if ascii "filename=" <:+ p.name then
        some (p.name.take (p.name.length - (ascii "filename=").length),
          ascii "filename=" ++ 0x22 :: (p.filenameText ++ rest))
      else (strstr (ascii "filename=\"") (p.filenameText ++ rest)).map
        (fun r => (p.name ++ 0x22 :: r.1, r.2))).map
      (fun r => (ascii "Content-Disposition: form-data; name=" ++ 0x22 :: r.1, r.2)) := by
  have hkey : ascii "filename=\"" = ascii "filename=" ++ [0x22] := rfl
  have hno : (0x22 : UInt8) ∉ ascii "filename=" := by decide
  have htext : p.header ++ rest = ascii "Content-Disposition: form-data; name="
      ++ 0x22 :: (p.name ++ 0x22 :: (p.filenameText ++ rest)) := by
    simp [FormPart.header]
  rw [htext, hkey, strstr_quote hno (by decide), if_neg (by decide), strstr_quote hno
    p.name_quotable.2]

theorem header_length (p : FormPart) : p.header.length
    = (ascii "Content-Disposition: form-data; name=").length + 1 + p.name.length + 1
      + p.filenameText.length := by
  simp only [FormPart.header, List.length_append, List.length_cons]
  omega

theorem quotedIn_filename (p : FormPart) (rest : List UInt8) :
    quotedIn (ascii "filename=\"") p.header.length (p.header ++ rest) = p.filenameFound rest := by
  have hkey : ascii "filename=\"" = ascii "filename=" ++ [0x22] := rfl
  have hlen := header_length p
  unfold quotedIn FormPart.filenameFound
  rw [strstr_filename]
  by_cases hname : ascii "filename=" <:+ p.name
  · -- the quotation mark behind the name ends the key
    have hval : (ascii "filename=" ++ 0x22 :: (p.filenameText ++ rest)).drop
        (ascii "filename=\"").length = p.filenameText ++ rest := rfl
    have htake := List.length_take_le (p.name.length - (ascii "filename=").length) p.name
    have hle := hname.length_le
    simp only [if_pos hname, Option.map_some]
    rw [if_pos (by simp only [List.length_append, List.length_cons]; omega), hval]
    cases hfile : p.filename with
    | none =>
        have hnil : p.filenameText = [] := by simp [FormPart.filenameText, hfile]
        rw [hnil, List.nil_append]
        cases rest.idxOf? 0x22 <;> rfl
    | some f =>
        have hcons : p.filenameText ++ rest
            = ascii "; filename=" ++ 0x22 :: (f ++ [0x22] ++ rest) := by
          simp [FormPart.filenameText, hfile]
        rw [hcons, idxOf?_append (by decide)]
        rfl
  · rw [if_neg hname, if_neg hname]
    cases hfile : p.filename with
    | none =>
        -- what is found is behind the header
        have hnil : p.filenameText = [] := by simp [FormPart.filenameText, hfile]
        rw [hnil, List.length_nil] at hlen
        rw [hnil, List.nil_append]
        cases strstr (ascii "filename=\"") rest with
        | none => rfl
        | some r =>
            simp only [Option.map_some]
            rw [if_neg (by simp only [List.length_append, List.length_cons]; omega)]
    | some f =>
        have hf := p.filename_quotable f (by simp [hfile])
        have hcons : p.filenameText ++ rest
            = ascii "; filename=" ++ 0x22 :: (f ++ 0x22 :: rest) := by
          simp [FormPart.filenameText, hfile]
        have hin : ascii "filename=" <:+ ascii "; filename=" := by decide
        have hval : (ascii "filename=" ++ 0x22 :: (f ++ 0x22 :: rest)).drop
            (ascii "filename=\"").length = f ++ 0x22 :: rest := rfl
        have htext : (ascii "; filename=").length ≤ p.filenameText.length := by
          simp [FormPart.filenameText, hfile]
        have hblank : (ascii "; filename=").length = (ascii "filename=").length + 2 := rfl
        have hpos : (ascii "filename=").length = 9 := rfl
        have htake := List.length_take_le
          ((ascii "; filename=").length - (ascii "filename=").length) (ascii "; filename=")
        rw [hcons, hkey, strstr_quote (by decide) (by decide), if_pos hin, ← hkey]
        simp only [Option.map_some]
        rw [if_pos (by simp only [List.length_append, List.length_cons]; omega), hval,
          idxOf?_append hf.2]
        dsimp only
        rw [List.take_left]

/-- What is found is the filename, unless the name ends with the key. -/
theorem filenameFound_eq_iff (p : FormPart) (rest : List UInt8) :
    p.filenameFound rest = p.filename ↔ (ascii "filename=" <:+ p.name →
      match p.filename with
      | some filename => filename = ascii "; filename="
      | none => 0x22 ∉ rest) := by
  unfold FormPart.filenameFound
  by_cases hname : ascii "filename=" <:+ p.name
  · rw [if_pos hname]
    cases hfile : p.filename with
    | none => simp [hname, List.idxOf?_eq_none_iff]
    | some f => simp [hname, eq_comm]
  · simp [hname]

end Header

/-! ## Where the parts are -/

section Positions

variable {d memory front t : List UInt8} {p : FormPart} {ps : List FormPart} {bodyLength pos : Nat}

/-- A search from the end of a piece of the memory to the end of the body. -/
theorem memmem_piece {before s : List UInt8} (hmem : memory = before ++ (s ++ t))
    (hpos : before.length = pos) (hlen : bodyLength - pos = s.length) (needle : List UInt8) :
    memmem memory pos (bodyLength - pos) needle
      = (strstr needle s).map (fun r => pos + r.1.length) := by
  rw [memmem, hlen, hmem, ← hpos, List.drop_left, List.take_left]

theorem strstr_delimiter (d : List UInt8) (ps : List FormPart) :
    strstr d (encodeParts d ps) = some ([], encodeParts d ps) := by
  cases ps with
  | nil => exact strstr_here
  | cons p ps => exact strstr_here

/-- The delimiter is found behind the data and the end of its line. -/
theorem strstr_next (hne : d ≠ []) (hcr : 0x0D ∉ d) (hlf : 0x0A ∉ d) (hfree : ¬ d <:+: p.data)
    (ps : List FormPart) : strstr d (p.data ++ (Http1.crlf ++ encodeParts d ps))
      = some (p.data ++ Http1.crlf, encodeParts d ps) := by
  have hdata : strstr d p.data = none := by
    rw [← Option.not_isSome_iff_eq_none, strstr_isSome_iff]
    exact hfree
  have hnil : strstr d [] = none := if_neg hne
  have hskip := strstr_past (b := encodeParts d ps) hne hlf hnil
  rw [List.nil_append] at hskip
  show strstr d (p.data ++ 0x0D :: (0x0A :: encodeParts d ps)) = _
  rw [strstr_past hne hcr hdata, hskip, strstr_delimiter]
  rfl

theorem strstr_headerEnd (p : FormPart) (s : List UInt8) :
    strstr blankLine (p.header ++ (blankLine ++ s)) = some (p.header, blankLine ++ s) := by
  rw [blankLine, strstr_skip p.header_line.cr_notMem, ← blankLine, strstr_here]
  simp

/-- Where the header of a part is whose delimiter is at `pos`. -/
def headerAt (d : List UInt8) (pos : Nat) : Nat := pos + d.length + 2

def dataAt (d : List UInt8) (pos : Nat) (p : FormPart) : Nat :=
  headerAt d pos + p.header.length + 4

def nextAt (d : List UInt8) (pos : Nat) (p : FormPart) : Nat := dataAt d pos p + p.data.length + 2

/-- A part, without the delimiter behind it. -/
def encodePart (d : List UInt8) (p : FormPart) : List UInt8 :=
  d ++ (Http1.crlf ++ (p.header ++ (blankLine ++ (p.data ++ Http1.crlf))))

theorem encodeParts_cons (d : List UInt8) (p : FormPart) (ps : List FormPart) :
    encodeParts d (p :: ps) = encodePart d p ++ encodeParts d ps := by
  simp [encodeParts, encodePart]

theorem nextAt_eq (d front : List UInt8) (p : FormPart) :
    (front ++ encodePart d p).length = nextAt d front.length p := by
  simp only [encodePart, nextAt, dataAt, headerAt, List.length_append, Http1.crlf, blankLine,
    List.length_cons, List.length_nil]
  omega

/-- The body in front of a header, and in front of the data. -/
def untilHeader (d front : List UInt8) : List UInt8 := front ++ (d ++ Http1.crlf)

def untilData (d front : List UInt8) (p : FormPart) : List UInt8 :=
  untilHeader d front ++ (p.header ++ blankLine)

theorem untilHeader_length (d front : List UInt8) :
    (untilHeader d front).length = headerAt d front.length := by
  simp only [untilHeader, headerAt, Http1.crlf, List.length_append, List.length_cons, List.length_nil]
  omega

theorem untilData_length (d front : List UInt8) (p : FormPart) :
    (untilData d front p).length = dataAt d front.length p := by
  simp only [untilData, dataAt, blankLine, untilHeader_length, List.length_append,
    List.length_cons, List.length_nil]
  omega

theorem encodeParts_untilHeader (d front : List UInt8) (p : FormPart) (ps : List FormPart) :
    front ++ encodeParts d (p :: ps) = untilHeader d front ++
      (p.header ++ (blankLine ++ (p.data ++ (Http1.crlf ++ encodeParts d ps)))) := by
  simp [encodeParts, untilHeader]

theorem encodeParts_untilData (d front : List UInt8) (p : FormPart) (ps : List FormPart) :
    front ++ encodeParts d (p :: ps)
      = untilData d front p ++ (p.data ++ (Http1.crlf ++ encodeParts d ps)) := by
  simp [encodeParts, untilData, untilHeader]

variable (hmem : memory = front ++ (encodeParts d (p :: ps) ++ t))
  (hlen : bodyLength = (front ++ encodeParts d (p :: ps)).length)

include hmem hlen

theorem memmem_delimiter : memmem memory front.length (bodyLength - front.length) d
    = some front.length := by
  have hrest : bodyLength - front.length = (encodeParts d (p :: ps)).length := by
    rw [hlen, List.length_append]
    omega
  rw [memmem_piece hmem rfl hrest, strstr_delimiter]
  rfl

theorem memmem_headerEnd :
    memmem memory (headerAt d front.length) (bodyLength - headerAt d front.length) blankLine
      = some (headerAt d front.length + p.header.length) := by
  have hsplit : memory = untilHeader d front ++
      ((p.header ++ (blankLine ++ (p.data ++ (Http1.crlf ++ encodeParts d ps)))) ++ t) := by
    rw [hmem, ← List.append_assoc, encodeParts_untilHeader, List.append_assoc]
  have hrest : bodyLength - headerAt d front.length
      = (p.header ++ (blankLine ++ (p.data ++ (Http1.crlf ++ encodeParts d ps)))).length := by
    rw [hlen, encodeParts_untilHeader, List.length_append, untilHeader_length]
    omega
  rw [memmem_piece hsplit (untilHeader_length d front) hrest, strstr_headerEnd]
  rfl

theorem memmem_next (hne : d ≠ []) (hcr : 0x0D ∉ d) (hlf : 0x0A ∉ d) (hfree : ¬ d <:+: p.data) :
    memmem memory (dataAt d front.length p) (bodyLength - dataAt d front.length p) d
      = some (nextAt d front.length p) := by
  have hsplit : memory = untilData d front p ++ ((p.data ++ (Http1.crlf ++ encodeParts d ps)) ++ t) := by
    rw [hmem, ← List.append_assoc, encodeParts_untilData, List.append_assoc]
  have hrest : bodyLength - dataAt d front.length p
      = (p.data ++ (Http1.crlf ++ encodeParts d ps)).length := by
    rw [hlen, encodeParts_untilData, List.length_append, untilData_length]
    omega
  rw [memmem_piece hsplit (untilData_length d front p) hrest, strstr_next hne hcr hlf hfree]
  simp [nextAt, Http1.crlf, Nat.add_assoc]

end Positions

/-! ## The runs of the parsers -/

/-- What is found of the parts, with `rest p ps` behind the header of the part `p`. -/
def recovered (rest : FormPart → List FormPart → List UInt8) : List FormPart → List FormEntry
  | [] => []
  | p :: ps => ⟨some p.name, p.filenameFound (rest p ps), p.data⟩ :: recovered rest ps

section Runs

variable {d front behind head : List UInt8} {p : FormPart} {ps : List FormPart}

/-- A part with the data of `p`, read in a memory with something in front of the body. -/
theorem entryOf_part {part : MultipartPart} (head : List UInt8) (ps : List FormPart)
    (behind : List UInt8) (hpart : part.data = .buffer (head.length + dataAt d front.length p))
    (hlen : part.dataLen = p.data.length) :
    entryOf (head ++ (front ++ encodeParts d (p :: ps) ++ behind)) part
      = ⟨part.name, part.filename, p.data⟩ := by
  have hsplit : head ++ (front ++ encodeParts d (p :: ps) ++ behind)
      = (head ++ untilData d front p) ++ (p.data ++ (Http1.crlf ++ (encodeParts d ps ++ behind))) := by
    rw [encodeParts_untilData]
    simp
  have hpos : head.length + dataAt d front.length p = (head ++ untilData d front p).length := by
    rw [List.length_append, untilData_length]
  unfold entryOf
  rw [hpart, hlen, hsplit, hpos]
  dsimp only
  rw [List.drop_left, List.take_left]

/-- The delimiter behind the last part is found, and no header behind it. -/
theorem round_end (d front : List UInt8) :
    Http1.round d (front ++ encodeParts d []) front.length = .stop := by
  have hmem : front ++ encodeParts d [] = front ++ (encodeParts d [] ++ []) := by simp
  have hlen : (front ++ encodeParts d []).length - front.length = (encodeParts d []).length := by
    simp
  have hstart := memmem_piece hmem rfl hlen d
  have hsplit : front ++ encodeParts d [] = (front ++ (d ++ ascii "--")) ++ (Http1.crlf ++ []) := by
    simp [encodeParts]
  have hpos : (front ++ (d ++ ascii "--")).length = front.length + d.length + 2 := by
    simp [ascii, Nat.add_assoc]
  have hinside : (front ++ encodeParts d []).length
      = front.length + d.length + 2 + Http1.crlf.length := by
    rw [hsplit, List.append_nil, List.length_append, hpos]
  have hrest : (front ++ encodeParts d []).length - (front.length + d.length + 2)
      = Http1.crlf.length := by
    rw [hinside, Nat.add_sub_cancel_left]
  have hend := memmem_piece hsplit hpos hrest blankLine
  have hnone : strstr blankLine Http1.crlf = none := by decide
  rw [strstr_delimiter] at hstart
  rw [hnone] at hend
  unfold Http1.round
  by_cases hlong : (front ++ encodeParts d []).length - front.length ≤ d.length
  · rw [if_pos hlong]
  · rw [if_neg hlong, hstart]
    simp only [Option.map_some, List.length_nil, Nat.add_zero]
    rw [if_neg (by omega), hend]
    rfl

variable (hne : d ≠ []) (hcr : 0x0D ∉ d) (hlf : 0x0A ∉ d)

include hne hcr hlf

theorem round_encode (hfree : ¬ d <:+: p.data) :
    Http1.round d (front ++ encodeParts d (p :: ps)) front.length
      = .part p.header (dataAt d front.length p) (nextAt d front.length p) := by
  have hmem : front ++ encodeParts d (p :: ps) = front ++ (encodeParts d (p :: ps) ++ []) := by simp
  have hstart := memmem_delimiter hmem rfl
  have hend := memmem_headerEnd hmem rfl
  have hnext := memmem_next hmem rfl hne hcr hlf hfree
  have hbody := encodeParts_untilHeader d front p ps
  have hlen : (front ++ encodeParts d (p :: ps)).length = headerAt d front.length
      + (p.header ++ (blankLine ++ (p.data ++ (Http1.crlf ++ encodeParts d ps)))).length := by
    rw [hbody, List.length_append, untilHeader_length]
  have hat : headerAt d front.length = front.length + d.length + 2 := rfl
  rw [round_eq_part]
  refine ⟨?_, front.length, _, hstart, ?_, hend, rfl, hnext, ?_⟩
  · omega
  · omega
  · have hdrop : (untilHeader d front ++ (p.header ++ (blankLine ++ (p.data ++ (Http1.crlf ++
        encodeParts d ps))))).drop (headerAt d front.length) = p.header ++ (blankLine ++
          (p.data ++ (Http1.crlf ++ encodeParts d ps))) := by
      rw [← untilHeader_length, List.drop_left]
    rw [← hat, hbody, hdrop, Nat.add_sub_cancel_left, List.take_left,
      cstr_of_notMem p.header_line.zero_notMem]

variable (head) in
/-- The loop of `http_multipart_parse_body` finds the parts, one a round. -/
theorem multipartLoop_encode (front : List UInt8) (fuel : Nat) (parts : List MultipartPart)
    (hfree : ∀ p ∈ ps, ¬ d <:+: p.data) (hfuel : ps.length < fuel) :
    ∃ found, multipartLoop d head.length (front ++ encodeParts d ps) fuel front.length
        ((front ++ encodeParts d ps).length - front.length) parts = some (parts ++ found) ∧
      found.map (entryOf (head ++ (front ++ encodeParts d ps))) = recovered (fun _ _ => []) ps := by
  have hpos : front.length ≤ (front ++ encodeParts d ps).length := by simp
  induction ps generalizing front fuel parts with
  | nil =>
      obtain ⟨fuel, rfl⟩ : ∃ n, fuel = n + 1 := ⟨fuel - 1, by omega⟩
      refine ⟨[], ?_, rfl⟩
      rw [multipartLoop_round d head.length hpos, round_end, List.append_nil]
  | cons p ps ih =>
      obtain ⟨fuel, rfl⟩ : ∃ n, fuel = n + 1 := ⟨fuel - 1, by omega⟩
      have hp := hfree p List.mem_cons_self
      have hlater : ∀ q ∈ ps, ¬ d <:+: q.data := fun q hq => hfree q (List.mem_cons_of_mem p hq)
      have hfront : front ++ encodeParts d (p :: ps)
          = (front ++ encodePart d p) ++ encodeParts d ps := by
        rw [encodeParts_cons, List.append_assoc]
      let part := partOf head.length p.header (dataAt d front.length p) (nextAt d front.length p)
      obtain ⟨found, hfound, hentries⟩ := ih (front ++ encodePart d p) fuel (parts ++ [part])
        hlater (Nat.lt_of_succ_lt_succ hfuel) (by simp)
      refine ⟨part :: found, ?_, ?_⟩
      · rw [multipartLoop_round d head.length hpos, round_encode hne hcr hlf hp]
        dsimp only
        rw [nextAt_eq, ← hfront] at hfound
        rw [hfound, List.append_assoc, List.singleton_append]
      · have hlen : part.dataLen = p.data.length := by
          show (if dataAt d front.length p + 2 ≤ nextAt d front.length p then
            nextAt d front.length p - 2 - dataAt d front.length p
            else nextAt d front.length p - dataAt d front.length p) = _
          unfold nextAt
          rw [if_pos (by omega)]
          omega
        have hentry := entryOf_part head ps [] (show part.data = _ from rfl) hlen
        have hname := quotedIn_name p []
        have hfilename := quotedIn_filename p []
        rw [List.append_nil, ← quoted_eq_quotedIn (by decide)] at hname hfilename
        rw [List.append_nil] at hentry
        rw [← hfront] at hentries
        rw [List.map_cons, hentries, hentry, recovered]
        show FormEntry.mk (quoted _ p.header) (quoted _ p.header) p.data :: _ = _
        rw [hname, hfilename]

end Runs

section Http2Runs

variable {d front behind memory : List UInt8} {p : FormPart} {ps : List FormPart} {bodyLength : Nat}

/-- The text `strstr` goes on in behind a header. -/
def behindHeader (d : List UInt8) (p : FormPart) (ps : List FormPart) : List UInt8 :=
  cstr (blankLine ++ (p.data ++ (Http1.crlf ++ encodeParts d ps)))

/-- The part that `http2_multipart_parse` finds. -/
def partFound (d : List UInt8) (pos : Nat) (p : FormPart) (ps : List FormPart) : MultipartPart where
  name := some p.name
  filename := p.filenameFound (behindHeader d p ps)
  data := .buffer (dataAt d pos p)
  dataLen := p.data.length

theorem skipLineEnds_crlf {before s t : List UInt8} {pos : Nat}
    (hmem : memory = before ++ ((Http1.crlf ++ (p.header ++ s)) ++ t)) (hpos : before.length = pos)
    (hlen : bodyLength - pos = (Http1.crlf ++ (p.header ++ s)).length) :
    skipLineEnds memory bodyLength pos = pos + 2 := by
  unfold skipLineEnds
  rw [hlen, hmem, ← hpos, List.drop_left, List.take_left]
  have hheader : p.header = 0x43 :: p.header.tail := rfl
  rw [hheader]
  simp [Http1.crlf]

variable (hmem : memory = front ++ (encodeParts d (p :: ps) ++ 0 :: behind))

include hmem

theorem cstr_header : cstr (memory.drop (headerAt d front.length))
    = p.header ++ behindHeader d p ps := by
  have hsplit : memory = untilHeader d front ++ (p.header ++ ((blankLine ++ (p.data ++ (Http1.crlf ++
      encodeParts d ps))) ++ 0 :: behind)) := by
    rw [hmem, ← List.append_assoc, encodeParts_untilHeader]
    simp
  rw [hsplit, ← untilHeader_length, List.drop_left,
    cstr_append_of_notMem p.header_line.zero_notMem, cstr_append_zero]
  rfl

/-- The byte two in front of the next delimiter. -/
theorem getD_lineEnd : memory.getD (nextAt d front.length p - 2) 0 = 0x0D := by
  have hsplit : memory = (untilData d front p ++ p.data) ++ (0x0D :: (0x0A :: (encodeParts d ps ++
      0 :: behind))) := by
    rw [hmem, ← List.append_assoc, encodeParts_untilData]
    simp [Http1.crlf]
  have hpos : nextAt d front.length p - 2 = (untilData d front p ++ p.data).length := by
    rw [List.length_append, untilData_length]
    rfl
  rw [hsplit, hpos]
  simp

variable (hlen : bodyLength = (front ++ encodeParts d (p :: ps)).length)

include hlen

theorem skipLineEnds_header :
    skipLineEnds memory bodyLength (front.length + d.length) = headerAt d front.length := by
  have hsplit : memory = (front ++ d) ++ ((Http1.crlf ++ (p.header ++ (blankLine ++ (p.data ++ (Http1.crlf ++
      encodeParts d ps))))) ++ 0 :: behind) := by
    rw [hmem, encodeParts]
    simp
  have hpos : (front ++ d).length = front.length + d.length := List.length_append
  have hrest : bodyLength - (front.length + d.length) = (Http1.crlf ++ (p.header ++ (blankLine ++
      (p.data ++ (Http1.crlf ++ encodeParts d ps))))).length := by
    rw [hlen, encodeParts, List.length_append, List.length_append]
    omega
  exact skipLineEnds_crlf hsplit hpos hrest

/-- A round of `http2_multipart_parse` finds the part. -/
theorem http2MultipartLoop_part (hne : d ≠ []) (hcr : 0x0D ∉ d) (hlf : 0x0A ∉ d)
    (hfree : ¬ d <:+: p.data) (fuel : Nat) {array : PartArray} (hroomy : array.Roomy) :
    http2MultipartLoop d memory bodyLength (fuel + 1) front.length (bodyLength - front.length) array
      = http2MultipartLoop d memory bodyLength fuel (nextAt d front.length p)
        (bodyLength - nextAt d front.length p)
        (array.grow.push (partFound d front.length p ps)) := by
  have hstart := memmem_delimiter hmem hlen
  have hheader := skipLineEnds_header hmem hlen
  have hend := memmem_headerEnd hmem hlen
  have htext := cstr_header hmem
  have hnext := memmem_next hmem hlen hne hcr hlf hfree
  have hquote := getD_lineEnd hmem
  have hlong : ¬ bodyLength - front.length ≤ d.length := by
    rw [hlen, encodeParts_untilHeader, List.length_append, untilHeader_length]
    unfold headerAt
    omega
  have hdata : headerAt d front.length + p.header.length + 4 = dataAt d front.length p := rfl
  have hdataLen : nextAt d front.length p - 2 - dataAt d front.length p = p.data.length := by
    unfold nextAt
    omega
  have hafter : dataAt d front.length p + 2 ≤ nextAt d front.length p := by
    unfold nextAt
    omega
  rw [http2MultipartLoop, if_neg hlong, hstart]
  dsimp only
  rw [hheader, hend]
  dsimp only
  rw [if_neg (not_le.mpr hroomy.grow_lt), hdata, hnext]
  dsimp only
  rw [htext, hquote, if_pos ⟨hafter, rfl⟩, hdataLen, Nat.add_sub_cancel_left, quotedIn_name,
    quotedIn_filename]
  rfl

end Http2Runs

section Http2Loop

variable {d behind memory : List UInt8} {ps : List FormPart} {bodyLength : Nat}

/-- Behind the last delimiter the parser stops. -/
theorem http2MultipartLoop_end {front : List UInt8} (hmem : memory = front ++ (encodeParts d [] ++ 0 :: behind))
    (hlen : bodyLength = (front ++ encodeParts d []).length) (fuel : Nat) {array : PartArray} :
    (http2MultipartLoop d memory bodyLength (fuel + 1) front.length (bodyLength - front.length)
      array).map (·.parts) = some array.parts := by
  have hrest : bodyLength - front.length = (encodeParts d []).length := by
    rw [hlen, List.length_append]
    omega
  have hstart := memmem_piece hmem rfl hrest d
  have hsplit : memory = (front ++ d) ++ ((ascii "--" ++ Http1.crlf) ++ 0 :: behind) := by
    rw [hmem, encodeParts]
    simp
  have hpos : (front ++ d).length = front.length + d.length := List.length_append
  have hdashes : bodyLength - (front.length + d.length) = (ascii "--" ++ Http1.crlf).length := by
    rw [hlen, encodeParts, List.length_append, List.length_append]
    omega
  have hskip : skipLineEnds memory bodyLength (front.length + d.length)
      = front.length + d.length := by
    unfold skipLineEnds
    rw [hdashes, hsplit, ← hpos, List.drop_left, List.take_left]
    rfl
  have hend := memmem_piece hsplit hpos hdashes blankLine
  have hnone : strstr blankLine (ascii "--" ++ Http1.crlf) = none := by decide
  rw [strstr_delimiter] at hstart
  rw [hnone] at hend
  rw [http2MultipartLoop]
  by_cases hlong : bodyLength - front.length ≤ d.length
  · rw [if_pos hlong]
    rfl
  · rw [if_neg hlong, hstart]
    simp only [Option.map_some, List.length_nil, Nat.add_zero]
    rw [hskip, hend]
    simp

/-- The loop of `http2_multipart_parse` finds the parts, one a round. -/
theorem http2MultipartLoop_encode {array : PartArray} (hne : d ≠ []) (hcr : 0x0D ∉ d)
    (hlf : 0x0A ∉ d) (front : List UInt8) (fuel : Nat) (hroomy : array.Roomy)
    (hmem : memory = front ++ (encodeParts d ps ++ 0 :: behind))
    (hlen : bodyLength = (front ++ encodeParts d ps).length)
    (hfree : ∀ p ∈ ps, ¬ d <:+: p.data) (hfuel : ps.length < fuel) :
    ∃ found, (http2MultipartLoop d memory bodyLength fuel front.length (bodyLength - front.length)
        array).map (·.parts) = some (array.parts ++ found) ∧
      found.map (entryOf memory) = recovered (behindHeader d) ps := by
  induction ps generalizing front fuel array with
  | nil =>
      obtain ⟨fuel, rfl⟩ : ∃ n, fuel = n + 1 := ⟨fuel - 1, by omega⟩
      refine ⟨[], ?_, rfl⟩
      rw [http2MultipartLoop_end hmem hlen, List.append_nil]
  | cons p ps ih =>
      obtain ⟨fuel, rfl⟩ : ∃ n, fuel = n + 1 := ⟨fuel - 1, by omega⟩
      have hp := hfree p List.mem_cons_self
      have hlater : ∀ q ∈ ps, ¬ d <:+: q.data := fun q hq => hfree q (List.mem_cons_of_mem p hq)
      have hfront : front ++ encodeParts d (p :: ps)
          = (front ++ encodePart d p) ++ encodeParts d ps := by
        rw [encodeParts_cons, List.append_assoc]
      have hmem' : memory = (front ++ encodePart d p) ++ (encodeParts d ps ++ 0 :: behind) := by
        rw [hmem, ← List.append_assoc, hfront, List.append_assoc]
      let part := partFound d front.length p ps
      obtain ⟨found, hfound, hentries⟩ := ih (front ++ encodePart d p) fuel (hroomy.push part)
        hmem' (hfront ▸ hlen) hlater (Nat.lt_of_succ_lt_succ hfuel)
      refine ⟨part :: found, ?_, ?_⟩
      · rw [nextAt_eq] at hfound
        rw [http2MultipartLoop_part hmem hlen hne hcr hlf hp fuel hroomy, hfound]
        simp [part]
      · have hpart : part.data = .buffer (([] : List UInt8).length + dataAt d front.length p) := by
          rw [List.length_nil, Nat.zero_add]
          rfl
        have hentry := entryOf_part [] ps (0 :: behind) hpart (show part.dataLen = _ from rfl)
        rw [List.nil_append, List.append_assoc, ← hmem] at hentry
        rw [List.map_cons, hentries, hentry, recovered]
        rfl

end Http2Loop

/-! ## Which forms are read back -/

section Forms

variable {rest : FormPart → List FormPart → List UInt8} {boundary : List UInt8}

/-- The filename of each part is what is found in its header. -/
def FilenamesFound (rest : FormPart → List FormPart → List UInt8) : List FormPart → Prop
  | [] => True
  | p :: ps => p.filenameFound (rest p ps) = p.filename ∧ FilenamesFound rest ps

theorem recovered_eq_iff (ps : List FormPart) :
    recovered rest ps = ps.map FormPart.entry ↔ FilenamesFound rest ps := by
  induction ps with
  | nil => simp [recovered, FilenamesFound]
  | cons p ps ih => simp [recovered, FilenamesFound, FormPart.entry, ih]

theorem quote_notMem_encodeParts (hnul : 0 ∉ boundary) (ps : List FormPart) :
    0x22 ∉ cstr (encodeParts (ascii "--" ++ boundary) ps) ↔ ps = [] ∧ 0x22 ∉ boundary := by
  have hdashes : 0 ∉ ascii "--" := by decide
  have hdashes' : (0x22 : UInt8) ∉ ascii "--" := by decide
  have hcrlf : 0 ∉ Http1.crlf := by decide
  have hcrlf' : (0x22 : UInt8) ∉ Http1.crlf := by decide
  cases ps with
  | nil =>
      have hend : 0 ∉ encodeParts (ascii "--" ++ boundary) [] := by
        simp [encodeParts, hdashes, hnul, hcrlf]
      rw [cstr_of_notMem hend]
      simp [encodeParts, hdashes', hcrlf']
  | cons p ps =>
      have hdelimiter : 0 ∉ ascii "--" ++ boundary := by simp [hdashes, hnul]
      have hquote : (0x22 : UInt8) ∈ p.header := by simp [FormPart.header]
      rw [encodeParts, cstr_append_of_notMem hdelimiter, cstr_append_of_notMem hcrlf,
        cstr_append_of_notMem p.header_line.zero_notMem]
      simp [hquote]

/-- A quotation mark stands in every header, so that none is in front of a NUL only if the NUL is in
the data or there is no more header. -/
theorem quote_notMem_behindHeader (hnul : 0 ∉ boundary) (p : FormPart) (ps : List FormPart) :
    0x22 ∉ behindHeader (ascii "--" ++ boundary) p ps ↔
      0x22 ∉ cstr p.data ∧ (0 ∈ p.data ∨ ps = [] ∧ 0x22 ∉ boundary) := by
  have hblank : 0 ∉ blankLine := by decide
  have hblank' : (0x22 : UInt8) ∉ blankLine := by decide
  have hcrlf : 0 ∉ Http1.crlf := by decide
  have hcrlf' : (0x22 : UInt8) ∉ Http1.crlf := by decide
  unfold behindHeader
  rw [cstr_append_of_notMem hblank, List.mem_append, or_iff_right hblank']
  by_cases hdata : 0 ∈ p.data
  · rw [cstr_append_of_mem hdata]
    simp [hdata]
  · rw [cstr_append_of_notMem hdata, cstr_append_of_notMem hcrlf, cstr_of_notMem hdata,
      List.mem_append, List.mem_append, or_iff_right hcrlf', not_or,
      quote_notMem_encodeParts hnul]
    simp [hdata]

theorem keysInPlace_iff (hnul : 0 ∉ boundary) (ps : List FormPart) :
    KeysInPlace boundary ps ↔ FilenamesFound (behindHeader (ascii "--" ++ boundary)) ps := by
  induction ps with
  | nil => rfl
  | cons p ps ih =>
      rw [KeysInPlace, FilenamesFound, filenameFound_eq_iff, ih]
      refine and_congr_left fun _ => imp_congr_right fun _ => ?_
      cases p.filename with
      | none => exact (quote_notMem_behindHeader hnul p ps).symm
      | some f => rfl

/-- The HTTP/1 parser goes wrong with fewer names: it reads nothing behind a header. -/
theorem FilenamesFound.nothingBehind (ps : List FormPart) (h : FilenamesFound rest ps) :
    FilenamesFound (fun _ _ => []) ps := by
  induction ps with
  | nil => exact trivial
  | cons p ps ih =>
      refine ⟨?_, ih h.2⟩
      have hp := (filenameFound_eq_iff p _).mp h.1
      rw [filenameFound_eq_iff]
      intro hname
      have hfile := hp hname
      cases hcase : p.filename with
      | none => exact List.not_mem_nil
      | some f =>
          rw [hcase] at hfile
          exact hfile

variable (f : Form)

theorem Form.delimiter_ne : f.delimiter ≠ [] := by simp [delimiter, ascii]

theorem Form.boundary_notMem {c : UInt8} (hc : c = 0x20 ∨ c = 0x3B ∨ c = 0x0D ∨ c = 0x0A ∨ c = 0) :
    c ∉ f.boundary := by
  intro hmem
  have hplain := f.boundary_plain c hmem
  rcases hc with rfl | rfl | rfl | rfl | rfl <;> simp at hplain

theorem Form.delimiter_cr : 0x0D ∉ f.delimiter := by
  have hcr := f.boundary_notMem (c := 0x0D) (by simp)
  simpa [delimiter, ascii] using hcr

theorem Form.delimiter_lf : 0x0A ∉ f.delimiter := by
  have hlf := f.boundary_notMem (c := 0x0A) (by simp)
  simpa [delimiter, ascii] using hlf

theorem encodeParts_length (d : List UInt8) (ps : List FormPart) :
    ps.length < (encodeParts d ps).length := by
  induction ps with
  | nil => simp [encodeParts, ascii, Http1.crlf]
  | cons p ps ih =>
      rw [encodeParts_cons, List.length_append, List.length_cons]
      have hpart : 0 < (encodePart d p).length := by simp [encodePart, blankLine]
      omega

theorem Form.contentType_boundary :
    strstr (ascii "boundary=") f.contentType
      = some (ascii "multipart/form-data; ", ascii "boundary=" ++ f.boundary) := by
  have hsplit : ascii "multipart/form-data; boundary="
      = ascii "multipart/form-data; " ++ ascii "boundary=" := by decide
  have hfound : strstr (ascii "boundary=") (ascii "multipart/form-data; boundary=")
      = some (ascii "multipart/form-data; ", ascii "boundary=") := by decide
  exact strstr_append hfound f.boundary

/-- The HTTP/2 parser takes the whole boundary. -/
theorem Form.multipartBoundary_eq : multipartBoundary f.boundary = f.delimiter := by
  have hall : f.boundary.takeWhile (fun c => c ≠ 0x20 ∧ c ≠ 0x3B ∧ c ≠ 0x0D) = f.boundary := by
    rw [List.takeWhile_eq_self_iff]
    intro c hc
    have hplain := f.boundary_plain c hc
    simp [hplain.1, hplain.2.1, hplain.2.2.1]
  rw [multipartBoundary, hall, List.take_of_length_le f.boundary_length, Form.delimiter]

/-- What `http_multipart_parse_body` finds of a form. -/
theorem patchedParseBody_form (head : List UInt8) :
    (patchedParseBody f.contentType head.length f.body).map
        (fun r => (r.1.map (entryOf (head ++ r.2)), r.2))
      = some (recovered (fun _ _ => []) f.parts, f.body) := by
  obtain ⟨found, hfound, hentries⟩ := multipartLoop_encode head f.delimiter_ne
    f.delimiter_cr f.delimiter_lf [] (f.body.length + 1) [] f.data_free
    (Nat.lt_succ_of_lt (encodeParts_length f.delimiter f.parts))
  have hlen : f.delimiter.length = 2 + f.boundary.length := List.length_append
  have hle := f.boundary_length
  have hshort : ¬ (256 < f.delimiter.length ∧ f.delimiter.length < f.body.length) := by omega
  have hboundary : boundaryOf (ascii "boundary=" ++ f.boundary) = f.delimiter :=
    if_neg (show f.delimiter.length ≠ 256 by omega)
  have hparse : httpMultipartParseBody f.contentType head.length f.body = some found := by
    rw [httpMultipartParseBody_eq f.contentType_boundary, hboundary]
    exact (if_neg hshort).trans hfound
  rw [patchedParseBody_eq, hparse]
  simp only [Option.map_some]
  rw [← hentries]
  rfl

/-- What `http2_multipart_parse` finds of a form. -/
theorem http2MultipartParse_form (behind : List UInt8) :
    (http2MultipartParse f.contentType (f.body ++ 0 :: behind) f.body.length).map
        (fun parts => parts.map (entryOf (f.body ++ 0 :: behind)))
      = some (recovered (behindHeader f.delimiter) f.parts) := by
  have hmem : f.body ++ 0 :: behind = [] ++ (encodeParts f.delimiter f.parts ++ 0 :: behind) := rfl
  obtain ⟨found, hfound, hentries⟩ := http2MultipartLoop_encode f.delimiter_ne f.delimiter_cr
    f.delimiter_lf [] (f.body.length + 1) PartArray.Roomy.fresh hmem (show f.body.length = _ from rfl)
    f.data_free (Nat.lt_succ_of_lt (encodeParts_length f.delimiter f.parts))
  have hpos := encodeParts_length f.delimiter f.parts
  have hne : f.body.length ≠ 0 := Nat.ne_of_gt (Nat.zero_lt_of_lt hpos)
  have hdrop : (ascii "boundary=" ++ f.boundary).drop 9 = f.boundary := rfl
  rw [List.length_nil, Nat.sub_zero] at hfound
  unfold http2MultipartParse
  rw [if_neg hne, f.contentType_boundary]
  dsimp only
  rw [hdrop, f.multipartBoundary_eq, hfound, Option.map_some, ← hentries]
  rfl

/-- **Which forms both parsers read back as they were sent.** -/
theorem roundTrip_iff (f : Form) :
    RoundTripHttp1 f ∧ RoundTripHttp2 f ↔ KeysInPlace f.boundary f.parts := by
  have hnul : 0 ∉ f.boundary := f.boundary_notMem (by simp)
  have hkeys : KeysInPlace f.boundary f.parts ↔
      FilenamesFound (behindHeader f.delimiter) f.parts := keysInPlace_iff hnul f.parts
  have hhttp1 : RoundTripHttp1 f ↔ FilenamesFound (fun _ _ => []) f.parts := by
    rw [← recovered_eq_iff]
    unfold RoundTripHttp1
    constructor
    · intro h
      have hhere := h []
      rw [patchedParseBody_form] at hhere
      exact congrArg Prod.fst (Option.some.inj hhere)
    · intro h head
      rw [patchedParseBody_form, h]
  have hhttp2 : RoundTripHttp2 f ↔ FilenamesFound (behindHeader f.delimiter) f.parts := by
    rw [← recovered_eq_iff]
    unfold RoundTripHttp2
    constructor
    · intro h
      have hhere := h []
      rw [http2MultipartParse_form] at hhere
      exact Option.some.inj hhere
    · intro h behind
      rw [http2MultipartParse_form, h]
  rw [hkeys, hhttp1, hhttp2]
  constructor
  · exact fun h => h.2
  · exact fun h => ⟨h.nothingBehind, h⟩

/-- One file, in a field called `filename=`. -/
def fileForm : Form where
  boundary := ascii "b"
  parts := [{
    name := ascii "filename="
    filename := some (ascii "a.txt")
    data := ascii "x"
    name_quotable := ⟨by decide, by decide⟩
    filename_quotable := by
      intro f hf
      obtain rfl := Option.mem_some_iff.mp hf
      exact ⟨by decide, by decide⟩ }]
  boundary_length := by decide
  boundary_plain := by decide +kernel
  data_free := by
    intro p hp
    obtain rfl := List.mem_singleton.mp hp
    decide

/-- The file is called what stands between the name and the filename. -/
theorem name_ends_in_key : ¬ (RoundTripHttp1 fileForm ∧ RoundTripHttp2 fileForm) ∧
    (patchedParseBody fileForm.contentType 0 fileForm.body).map
        (fun r => r.1.map (fun p => p.filename))
      = some [some (ascii "; filename=")] := by
  have hfound : (patchedParseBody fileForm.contentType 0 fileForm.body).map
      (fun r => r.1.map (fun p => p.filename)) = some [some (ascii "; filename=")] := by
    decide +kernel
  refine ⟨fun h => ?_, hfound⟩
  have hsent : (patchedParseBody fileForm.contentType 0 fileForm.body).map
      (fun r => r.1.map (fun p => p.filename)) = some [some (ascii "a.txt")] := by
    have hhere := congrArg (Option.map fun r => r.1.map FormEntry.filename) (h.1 [])
    rw [Option.map_map] at hhere
    simpa [Function.comp_def, entryOf, FormPart.entry, fileForm] using hhere
  rw [hfound] at hsent
  revert hsent
  decide

end Forms

end Halmos.Http
