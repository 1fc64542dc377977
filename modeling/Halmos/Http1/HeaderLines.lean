import Halmos.Http1.RequestText

set_option autoImplicit false

/-! # The lines of a header block

The loop of the parser over the lines of a block. The NULs it has put into the lines in front of it
stay there, so that a pointer into one of them keeps denoting its string; from the lines behind, the
loop has changed nothing. What it carries is said for the lines read so far, and at the end for the
whole request.
-/

namespace Halmos.Http1

open RequestText

variable {block rest s : List UInt8} {off : Nat} {config : Config} {l : HeaderLine}
  {lines : List HeaderLine} {req : RequestHeader}

/-! ## Strings in a block -/

/-- At an offset there is a string, with its NUL. -/
def Points (block : List UInt8) (off : Nat) (s : List UInt8) : Prop :=
  ∃ before behind, block = before ++ (s ++ 0 :: behind) ∧ before.length = off ∧ 0 ∉ s

theorem Points.append (h : Points block off s) (rest : List UInt8) :
    Points (block ++ rest) off s := by
  obtain ⟨before, behind, rfl, hoff, hno⟩ := h
  exact ⟨before, behind ++ rest, by simp, hoff, hno⟩

theorem Points.strAt (h : Points block off s) : strAt block off = s := by
  obtain ⟨before, behind, rfl, rfl, hno⟩ := h
  rw [Http1.strAt, List.drop_left, cstr_append_cons hno]

theorem Points.le_length (h : Points block off s) : off ≤ block.length := by
  obtain ⟨before, behind, rfl, rfl, -⟩ := h
  simp

/-- A field of a request is empty, or points to a string. -/
def Shows (block : List UInt8) (p : Option Ptr) (value : Option (List UInt8)) : Prop :=
  match value with
  | none => p = none
  | some s => ∃ off, p = some (.buffer off) ∧ Points block off s

theorem Shows.append {p : Option Ptr} {value : Option (List UInt8)} (h : Shows block p value)
    (rest : List UInt8) : Shows (block ++ rest) p value := by
  cases value with
  | none => exact h
  | some s =>
      obtain ⟨off, hp, hpoints⟩ := h
      exact ⟨off, hp, hpoints.append rest⟩

/-- What a field shows is what reading it gives. -/
theorem Shows.str {p : Option Ptr} {value : Option (List UInt8)} (h : Shows block p value)
    (routeResult : Buffer 512) :
    p.map (Ptr.str block routeResult) = value.map some := by
  cases value with
  | none =>
      obtain rfl : p = none := h
      rfl
  | some s =>
      obtain ⟨off, rfl, hpoints⟩ := h
      rw [Option.map_some, Ptr.str, if_pos hpoints.le_length, hpoints.strAt]
      rfl

/-! ## One line -/

/-- A value is trimmed in its place. -/
theorem fastTrim_text (before : List UInt8) {value : List UInt8} (hvalue : 0 ∉ value)
    (rest : List UInt8) :
    ∃ off cut, fastTrim (before ++ (value ++ 0 :: rest)) before.length
        = (off, before ++ (cut ++ rest)) ∧
      cut.length = value.length + 1 ∧ Points (before ++ cut) off (trim value) := by
  have hstr : strAt (before ++ (value ++ 0 :: rest)) before.length = value := by
    rw [strAt, List.drop_left, cstr_append_cons hvalue]
  have hsplit := List.takeWhile_append_dropWhile (p := fun c : UInt8 => c = 0x20) (l := value)
  generalize htext : value.dropWhile (fun c : UInt8 => c = 0x20) = text at hsplit
  generalize hblanks : value.takeWhile (fun c : UInt8 => c = 0x20) = blanks at hsplit
  have htrim : trim value = text.rdropWhile (fun c => c = 0x20) := by rw [trim, htext]
  have hdrop : value.drop blanks.length = text := by rw [← hsplit, List.drop_left]
  have hno : 0 ∉ trim value := by
    intro hmem
    have hmem' : 0 ∈ text := (List.rdropWhile_prefix _ _).subset (htrim ▸ hmem)
    exact hvalue (hsplit ▸ List.mem_append_right blanks hmem')
  unfold fastTrim
  simp only [hstr, hblanks, hdrop]
  split
  · next hnil =>
    refine ⟨before.length + blanks.length, value ++ [0], by simp, by simp, before ++ value, [],
      ?_, ?_, hno⟩
    · simp [htrim, hnil]
    · simp [← hsplit, hnil]
  · -- a NUL is put behind the text, on a blank or on the NUL that is there
    generalize hkept : text.rdropWhile (fun c : UInt8 => c = 0x20) = kept at htrim ⊢
    obtain ⟨tail, htail⟩ : kept <+: text := hkept ▸ List.rdropWhile_prefix _ _
    obtain ⟨c, behind, hcons⟩ : ∃ c behind, tail ++ [0] = c :: behind :=
      List.exists_cons_of_ne_nil (by simp)
    have hwhole : before ++ (value ++ 0 :: rest)
        = (before ++ (blanks ++ kept)) ++ c :: (behind ++ rest) := by
      have hnext : tail ++ 0 :: rest = c :: (behind ++ rest) := by
        rw [← List.singleton_append, ← List.append_assoc, hcons, List.cons_append]
      simp [← hsplit, ← htail, hnext]
    have hlen : (before ++ (blanks ++ kept)).length = before.length + blanks.length + kept.length := by
      simp
      omega
    refine ⟨before.length + blanks.length, blanks ++ (kept ++ 0 :: behind), ?_, ?_, before ++ blanks, behind, ?_, ?_, hno⟩
    · rw [hwhole, set_append_cons hlen]
      simp
    · have htails := congrArg List.length hcons
      simp only [List.length_append, List.length_cons, List.length_nil] at htails
      simp [← hsplit, ← htail]
      omega
    · simp [htrim]
    · simp

/-- The chain of comparisons goes by the name in small letters. -/
theorem not_strcasecmpEq {key a b : List UInt8} (h : strcasecmpEq key a = true)
    (hne : a.map toLower ≠ b.map toLower) : ¬ strcasecmpEq key b = true := by
  simp only [strcasecmpEq, decide_eq_true_eq] at h ⊢
  rwa [h]

section parseField

variable (config : Config) (key head : List UInt8) (val : Nat) (req : RequestHeader)

theorem parseField_host : (parseField config key head val req).host
    = if strcasecmpEq key (ascii "Host") then some (.buffer val) else req.host := by
  apply parseField_induction (P := fun r => r.host
    = if strcasecmpEq key (ascii "Host") then some (.buffer val) else req.host)
  case hhost => exact fun h => (if_pos h).symm
  case hother => exact fun h _ _ _ _ => (if_neg h).symm
  case hupgrade => exact fun h _ => (if_neg (not_strcasecmpEq h (by decide))).symm
  case hconnection => exact fun h _ => (if_neg (not_strcasecmpEq h (by decide))).symm
  all_goals exact fun h => (if_neg (not_strcasecmpEq h (by decide))).symm

theorem parseField_contentType : (parseField config key head val req).contentType
    = if strcasecmpEq key (ascii "Content-Type") then some (.buffer val) else req.contentType := by
  apply parseField_induction (P := fun r => r.contentType
    = if strcasecmpEq key (ascii "Content-Type") then some (.buffer val) else req.contentType)
  case htype => exact fun h => (if_pos h).symm
  case hother => exact fun _ h _ _ _ => (if_neg h).symm
  case hupgrade => exact fun h _ => (if_neg (not_strcasecmpEq h (by decide))).symm
  case hconnection => exact fun h _ => (if_neg (not_strcasecmpEq h (by decide))).symm
  all_goals exact fun h => (if_neg (not_strcasecmpEq h (by decide))).symm

theorem parseField_cookieData : (parseField config key head val req).cookieData
    = if strcasecmpEq key (ascii "Cookie") then some (.buffer val) else req.cookieData := by
  apply parseField_induction (P := fun r => r.cookieData
    = if strcasecmpEq key (ascii "Cookie") then some (.buffer val) else req.cookieData)
  case hcookie => exact fun h => (if_pos h).symm
  case hother => exact fun _ _ _ h _ => (if_neg h).symm
  case hupgrade => exact fun h _ => (if_neg (not_strcasecmpEq h (by decide))).symm
  case hconnection => exact fun h _ => (if_neg (not_strcasecmpEq h (by decide))).symm
  all_goals exact fun h => (if_neg (not_strcasecmpEq h (by decide))).symm

theorem parseField_isKeepAlive : (parseField config key head val req).isKeepAlive
    = if strcasecmpEq key (ascii "Connection") = true ∧
        (strcasestr (ascii "close") (strAt head val)).isSome = true
      then false else req.isKeepAlive := by
  have hkept : ∀ {name}, strcasecmpEq key name = true →
      name.map toLower ≠ (ascii "Connection").map toLower → req.isKeepAlive
        = if strcasecmpEq key (ascii "Connection") = true ∧
            (strcasestr (ascii "close") (strAt head val)).isSome = true
          then false else req.isKeepAlive := fun h hne =>
    (if_neg fun hboth => not_strcasecmpEq h hne hboth.1).symm
  apply parseField_induction (P := fun r => r.isKeepAlive
    = if strcasecmpEq key (ascii "Connection") = true ∧
        (strcasestr (ascii "close") (strAt head val)).isSome = true
      then false else req.isKeepAlive)
  case hconnection =>
    intro h _
    simp only [h, true_and]
  case hother => exact fun _ _ _ _ h => (if_neg fun hboth => h hboth.1).symm
  case hupgrade => exact fun h _ => hkept h (by decide)
  all_goals exact fun h => hkept h (by decide)

/-- What the fields leave of a request: the request line. -/
theorem parseField_requestLine :
    (parseField config key head val req).method = req.method ∧
    (parseField config key head val req).httpVersion = req.httpVersion ∧
    (parseField config key head val req).uri = req.uri ∧
    (parseField config key head val req).queryString = req.queryString ∧
    (parseField config key head val req).isValid = req.isValid := by
  apply parseField_induction (P := fun r => r.method = req.method ∧
    r.httpVersion = req.httpVersion ∧ r.uri = req.uri ∧ r.queryString = req.queryString ∧
    r.isValid = req.isValid)
  case hother => exact fun _ _ _ _ _ => ⟨rfl, rfl, rfl, rfl, rfl⟩
  case hupgrade => exact fun _ _ => ⟨rfl, rfl, rfl, rfl, rfl⟩
  case hconnection => exact fun _ _ => ⟨rfl, rfl, rfl, rfl, rfl⟩
  all_goals exact fun _ => ⟨rfl, rfl, rfl, rfl, rfl⟩

theorem parseField_vhostContext (hhosts : config.vhosts = []) (hno : req.vhostContext = none) :
    (parseField config key head val req).vhostContext = none := by
  have hfind : httpVhostGetContext config (strAt head val) = none := by
    simp [httpVhostGetContext, hhosts]
  apply parseField_induction (P := fun r => r.vhostContext = none)
  case hhost => exact fun _ => hfind
  case hother => exact fun _ _ _ _ _ => hno
  case hupgrade => exact fun _ _ => hno
  case hconnection => exact fun _ _ => hno
  all_goals exact fun _ => hno

end parseField

/-! ## The lines read so far -/

/-- The value of the last line of a name, in small letters or capitals. -/
def lastValue (name : List UInt8) (lines : List HeaderLine) : Option (List UInt8) :=
  ((lines.filter fun l => strcasecmpEq l.name name).getLast?).map fun l => trim l.value

/-- A `Connection` line whose value contains `close`. -/
def HeaderLine.SaysClose (l : HeaderLine) : Prop :=
  strcasecmpEq l.name (ascii "Connection") = true ∧ ascii "close" <:+: l.value.map toLower

theorem lastValue_snoc (name : List UInt8) (lines : List HeaderLine) (l : HeaderLine) :
    lastValue name (lines ++ [l])
      = if strcasecmpEq l.name name then some (trim l.value) else lastValue name lines := by
  unfold lastValue
  rw [List.filter_append, List.filter_cons, List.filter_nil]
  split <;> simp

theorem toLower_eq_blank (c : UInt8) : toLower c = 0x20 ↔ c = 0x20 := by
  unfold toLower
  split
  · next h =>
    rw [UInt8.le_iff_toNat_le, UInt8.le_iff_toNat_le] at h
    rw [← UInt8.toNat_inj, ← UInt8.toNat_inj, UInt8.toNat_add]
    simp at h ⊢
    omega
  · rfl

theorem map_trim (s : List UInt8) : (trim s).map toLower = trim (s.map toLower) := by
  have hblank : (fun c : UInt8 => decide (c = 0x20)) ∘ toLower = fun c => decide (c = 0x20) := by
    funext c
    simp [toLower_eq_blank]
  simp only [trim, List.rdropWhile, List.dropWhile_map, ← List.map_reverse, hblank]

theorem HeaderLine.saysClose_iff (l : HeaderLine) :
    l.SaysClose ↔ strcasecmpEq l.name (ascii "Connection") = true ∧
      (strcasestr (ascii "close") (trim l.value)).isSome = true := by
  have hlower : (ascii "close").map toLower = ascii "close" := by decide
  rw [SaysClose, strcasestr_isSome_iff, hlower, map_trim, infix_trim (by decide) (by decide)]

/-- The request, when the lines in `lines` have been read. -/
structure Carries (t : RequestText) (block : List UInt8) (lines : List HeaderLine)
    (req : RequestHeader) : Prop where
  method : req.method = t.method
  version : req.httpVersion = t.version
  uri : Shows block req.uri (some t.path)
  query : Shows block req.queryString t.query
  host : Shows block req.host (lastValue (ascii "Host") lines)
  contentType : Shows block req.contentType (lastValue (ascii "Content-Type") lines)
  cookieData : Shows block req.cookieData (lastValue (ascii "Cookie") lines)
  keepAlive : req.isKeepAlive = false ↔ ∃ l ∈ lines, l.SaysClose
  valid : req.isValid = true
  no_vhost : req.vhostContext = none

variable {t : RequestText}

theorem shows_ite {p : Option Ptr} {value : Option (List UInt8)} (c : Bool) (h : Shows block p value)
    (hval : Points block off s) :
    Shows block (if c then some (.buffer off) else p) (if c then some s else value) := by
  cases c with
  | true => exact ⟨off, rfl, hval⟩
  | false => exact h

theorem Carries.next (h : Carries t block lines req) (hhosts : config.vhosts = [])
    {more : List UInt8} {val : Nat} (hval : Points (block ++ more) val (trim l.value))
    (rest : List UInt8) :
    Carries t (block ++ more) (lines ++ [l])
      (parseField config l.name (block ++ more ++ rest) val req) := by
  obtain ⟨hmethod, hversion, huri, hquery, hvalid⟩ :=
    parseField_requestLine config l.name (block ++ more ++ rest) val req
  constructor
  · rw [hmethod, h.method]
  · rw [hversion, h.version]
  · rw [huri]
    exact h.uri.append more
  · rw [hquery]
    exact h.query.append more
  · rw [parseField_host, lastValue_snoc]
    exact shows_ite _ (h.host.append more) hval
  · rw [parseField_contentType, lastValue_snoc]
    exact shows_ite _ (h.contentType.append more) hval
  · rw [parseField_cookieData, lastValue_snoc]
    exact shows_ite _ (h.cookieData.append more) hval
  · have hsome : (∃ k ∈ lines ++ [l], k.SaysClose) ↔ (∃ k ∈ lines, k.SaysClose) ∨ l.SaysClose := by
      simp [or_and_right, exists_or]
    rw [parseField_isKeepAlive, (hval.append rest).strAt, hsome, ← h.keepAlive]
    by_cases hclose : l.SaysClose
    · rw [if_pos (l.saysClose_iff.mp hclose)]
      simp [hclose]
    · rw [if_neg (fun hsays => hclose (l.saysClose_iff.mpr hsays))]
      simp [hclose]
  · rw [hvalid, h.valid]
  · exact parseField_vhostContext config _ _ _ _ hhosts h.no_vhost

/-! ## All lines -/

/-- One round of the loop: the line has its NULs, and the rest is as it was. -/
theorem parseLines_round (config : Config) (req : RequestHeader) {headerEnd : Nat}
    (hend : block.length + l.text.length ≤ headerEnd) {fuel : Nat} (hfuel : 0 < fuel)
    (rest : List UInt8) :
    ∃ more val, more.length = l.text.length + 2 ∧ Points (block ++ more) val (trim l.value) ∧
      parseLines config headerEnd fuel block.length req (block ++ (l.text ++ (crlf ++ rest)))
        = parseLines config headerEnd (fuel - 1) (block ++ more).length
            (parseField config l.name (block ++ more ++ rest) val req) (block ++ more ++ rest) := by
  obtain ⟨fuel, rfl⟩ := Nat.exists_eq_add_of_lt hfuel
  have hno : 0 ∉ l.value := l.value_line.zero_notMem
  have hpos : 0 < l.text.length := List.length_pos_iff.mpr l.text_ne_nil
  obtain ⟨val, cut, htrim, hlen, hpoints⟩ :=
    fastTrim_text (block ++ (l.name ++ [0])) hno (0x0A :: rest)
  have hcut : (block ++ (l.text ++ (crlf ++ rest))).set (block.length + l.text.length) 0
      = block ++ (l.text ++ 0 :: (0x0A :: rest)) := by
    simp [crlf]
  have hcolon : (block ++ (l.text ++ 0 :: (0x0A :: rest))).set (block.length + l.name.length) 0
      = block ++ (l.name ++ [0]) ++ (l.value ++ 0 :: (0x0A :: rest)) := by
    simp [HeaderLine.text]
  have hsplit : l.text.idxOf? 0x3A = some l.name.length := idxOf?_append l.no_colon l.value
  have hkey : l.text.take l.name.length = l.name := List.take_left
  have hpos' : (block ++ (l.name ++ [0])).length = block.length + l.name.length + 1 := by
    simp
    omega
  rw [hpos'] at htrim
  refine ⟨l.name ++ 0 :: (cut ++ [0x0A]), val, ?_, ?_, ?_⟩
  · simp [HeaderLine.text, hlen]
    omega
  · simpa using hpoints.append [0x0A]
  · rw [Nat.zero_add, parseLines, if_neg (by omega), List.drop_left, strstr_crlf l.text_line]
    simp only [if_neg (not_lt.mpr hend), hcut, hsplit, hkey, hcolon, htrim]
    have hnext : block.length + l.text.length + 2
        = (block ++ (l.name ++ 0 :: (cut ++ [0x0A]))).length := by
      simp [HeaderLine.text, hlen]
      omega
    have hblock : block ++ (l.name ++ [0]) ++ (cut ++ 0x0A :: rest)
        = block ++ (l.name ++ 0 :: (cut ++ [0x0A])) ++ rest := by
      simp
    rw [hnext, hblock]
    rfl

theorem fieldLines_cons (l : HeaderLine) (lines : List HeaderLine) (rest : List UInt8) :
    fieldLines (l :: lines) ++ rest = l.text ++ (crlf ++ (fieldLines lines ++ rest)) := by
  simp [fieldLines]

/-- The loop from the first line that has not been read, through the last one. -/
theorem parseLines_text (hhosts : config.vhosts = []) {headerEnd : Nat} (more : List HeaderLine)
    (h : Carries t block lines req)
    (hend : block.length + (fieldLines more).length = headerEnd + 2) (fuel : Nat)
    (hfuel : (fieldLines more).length ≤ fuel) :
    ∃ block' req', parseLines config headerEnd fuel block.length req
        (block ++ (fieldLines more ++ crlf)) = (req', block' ++ crlf) ∧
      block'.length = headerEnd + 2 ∧ Carries t block' (lines ++ more) req' := by
  induction more generalizing block lines req fuel with
  | nil =>
      have hstop : parseLines config headerEnd fuel block.length req (block ++ crlf)
          = (req, block ++ crlf) := by
        cases fuel with
        | zero => rfl
        | succ fuel =>
            have hle : headerEnd ≤ block.length := by
              simp [fieldLines] at hend
              omega
            rw [parseLines, if_pos hle]
      refine ⟨block, req, hstop, by simpa [fieldLines] using hend, ?_⟩
      rw [List.append_nil]
      exact h
  | cons l more ih =>
      have hlines := congrArg List.length (fieldLines_cons l more [])
      have hpos : 0 < l.text.length := List.length_pos_iff.mpr l.text_ne_nil
      have hcrlf : crlf.length = 2 := rfl
      simp only [List.append_nil, List.length_append] at hlines
      have hline : block.length + l.text.length ≤ headerEnd := by omega
      have hfuel' : 0 < fuel := by omega
      have hround := parseLines_round config req hline hfuel' (fieldLines more ++ crlf)
      obtain ⟨cut, val, hlen, hpoints, hround⟩ := hround
      have hcarries := h.next hhosts hpoints (fieldLines more ++ crlf)
      have hend' : (block ++ cut).length + (fieldLines more).length = headerEnd + 2 := by
        rw [List.length_append]
        omega
      obtain ⟨block', req', hrun, hlen', hall⟩ := ih hcarries hend' (fuel - 1) (by omega)
      refine ⟨block', req', ?_, hlen', ?_⟩
      · rw [fieldLines_cons, hround, hrun]
      · simpa using hall

/-! ## The whole request -/

/-- The steps of the parser, put together. -/
theorem parseHead_eq {head head₁ head₂ line rest : List UInt8} {req req₁ req₂ req' : RequestHeader}
    (hfound : strstr crlf head = some (line, rest))
    (hline : parseRequestLine config head line.length
      { req with vhostContext := none, isKeepAlive := true } = some (req₁, head₁))
    (hlines : parseLines config (head.length - 4) head₁.length (line.length + 2) req₁ head₁
      = (req₂, head₂))
    (hvalid : req₂.isValid = true) (hroute : injectRoute head₂ req₂ = some req') :
    parseHead config head req = some (req', head₂) := by
  unfold parseHead
  simp only [hfound, hline, hlines, hvalid, hroute, Option.bind_eq_bind, Option.bind_some, if_true]

/-- Without a virtual host there is no route. -/
theorem injectRoute_none {p : Ptr} {uri : List UInt8} (hvhost : req.vhostContext = none)
    (huri : req.uri = some p) (hstr : p.str block req.routeResult = some uri) :
    injectRoute block req = some { req with backendType := .php } := by
  unfold injectRoute
  rw [huri, hvhost]
  simp only [Option.bind_eq_bind, Option.bind_some, hstr]
  rfl

namespace RequestText

variable (t : RequestText)

theorem length_head :
    t.head.length = t.cutLine.length + 2 + (fieldLines t.lines).length + 2 := by
  simp [head, t.length_cutLine, crlf]
  omega

/-- Behind the request line, no other line has been read. -/
theorem lineParsed_carries (req : RequestHeader) (hkeep : req.isKeepAlive = true) (hvhost : req.vhostContext = none)
    (hhost : req.host = none) (htype : req.contentType = none) (hcookie : req.cookieData = none) :
    Carries t (t.cutLine ++ crlf) [] (t.lineParsed req) where
  method := rfl
  version := rfl
  uri := by
    refine ⟨_, rfl, t.method ++ [0x20], t.cutQuery ++ (t.version ++ crlf), ?_, by simp,
      t.path_word.1.zero_notMem⟩
    simp [cutLine]
  query := by
    cases hq : t.query with
    | none => simp [lineParsed, hq, Shows]
    | some q =>
        have hoff : (t.lineParsed req).queryString
            = some (.buffer (t.method.length + 1 + t.path.length + 1)) := by
          simp [lineParsed, hq]
        have hblock : t.cutLine ++ crlf
            = t.method ++ 0x20 :: (t.path ++ [0]) ++ (q ++ 0 :: (t.version ++ crlf)) := by
          simp [cutLine, cutQuery, hq]
        refine ⟨_, hoff, _, _, hblock, ?_, (t.query_word q hq).1.zero_notMem⟩
        simp
        omega
  host := hhost
  contentType := htype
  cookieData := hcookie
  keepAlive := by simp [lineParsed, hkeep]
  valid := rfl
  no_vhost := hvhost

theorem parseHead_text (hhosts : config.vhosts = []) :
    ∃ req block, parseHead config t.head .zero = some (req, block) ∧
      block.length = t.head.length ∧ Carries t block t.lines req := by
  have hlen := t.length_head
  have hcrlf : crlf.length = 2 := rfl
  have hcarries := t.lineParsed_carries
    { RequestHeader.zero with vhostContext := none, isKeepAlive := true } rfl rfl rfl rfl rfl
  have hend : (t.cutLine ++ crlf).length + (fieldLines t.lines).length
      = t.head.length - 4 + 2 := by
    rw [List.length_append]
    omega
  obtain ⟨block, req, hlines, hblock, hall⟩ :=
    parseLines_text hhosts t.lines hcarries hend t.head.length (by omega)
  have hline := t.parseRequestLine_text config
    { RequestHeader.zero with vhostContext := none, isKeepAlive := true }
    (crlf ++ (fieldLines t.lines ++ crlf))
  have hcut : (t.cutLine ++ (crlf ++ (fieldLines t.lines ++ crlf))).length = t.head.length := by
    simp only [List.length_append]
    omega
  have hnext : t.requestLine.length + 2 = (t.cutLine ++ crlf).length := by
    rw [List.length_append, t.length_cutLine, hcrlf]
  obtain ⟨off, huri, hpoints⟩ := hall.uri.append crlf
  have hstr : (Ptr.buffer off).str (block ++ crlf) req.routeResult = some t.path := by
    rw [Ptr.str, if_pos hpoints.le_length, hpoints.strAt]
  refine ⟨{ req with backendType := .php }, block ++ crlf, ?_, ?_, ?_⟩
  · refine parseHead_eq (strstr_crlf t.requestLine_line _) hline ?_ hall.valid
      (injectRoute_none hall.no_vhost huri hstr)
    rw [hcut, hnext, ← hlines, List.append_assoc]
  · rw [List.length_append]
    omega
  · exact { hall with
      uri := hall.uri.append crlf
      query := hall.query.append crlf
      host := hall.host.append crlf
      contentType := hall.contentType.append crlf
      cookieData := hall.cookieData.append crlf }

/-- A body that is not announced as a form in parts is not searched for parts. -/
theorem partsIn_plain {req : RequestHeader} {block body : List UInt8}
    {value : Option (List UInt8)} (htype : Shows block req.contentType value)
    (hplain : ∀ v ∈ value, ¬ ascii "multipart/form-data" <:+: v) :
    partsIn req block body = some req.parts := by
  unfold partsIn
  cases value with
  | none =>
      obtain htype : req.contentType = none := htype
      rw [htype]
  | some v =>
      obtain ⟨off, hoff, hpoints⟩ := htype
      have hno : ¬ (strstr (ascii "multipart/form-data") v).isSome = true := fun h =>
        hplain v rfl (strstr_isSome_iff.mp h)
      rw [hoff]
      simp only [Ptr.str, if_pos hpoints.le_length, hpoints.strAt, Option.bind_eq_bind,
        Option.bind_some, if_neg hno]

/-- A request that says what the text says: its fields point into the buffer, at what they were put
together from, and its body is what is in the buffer from an offset on. -/
structure Denoted (req : RequestHeader) (buffer : List UInt8) : Prop where
  method : req.method = t.method
  uri : req.uri.map (Ptr.str buffer req.routeResult) = some (some t.path)
  queryString : req.queryString.map (Ptr.str buffer req.routeResult) = t.query.map some
  httpVersion : req.httpVersion = t.version
  host : req.host.map (Ptr.str buffer req.routeResult)
    = (lastValue (ascii "Host") t.lines).map some
  contentType : req.contentType.map (Ptr.str buffer req.routeResult)
    = (lastValue (ascii "Content-Type") t.lines).map some
  cookieData : req.cookieData.map (Ptr.str buffer req.routeResult)
    = (lastValue (ascii "Cookie") t.lines).map some
  isKeepAlive : req.isKeepAlive = false ↔ ∃ l ∈ t.lines, l.SaysClose
  bodyData : ∃ off, req.bodyData = some (.buffer off) ∧ buffer.drop off = t.body
  bodyLength : req.bodyLength = t.body.length

/-- **A request is parsed to what it was put together from**, whatever lines it has and whatever its
body looks like. -/
theorem http1ParserParseHeader_text (config : Config) (hhosts : config.vhosts = [])
    (hplain : ∀ v ∈ lastValue (ascii "Content-Type") t.lines,
      ¬ ascii "multipart/form-data" <:+: v) :
    splitAfter blankLine t.bytes = some (t.head, t.body) ∧
    ∃ req buffer, http1ParserParseHeader config t.bytes .zero = some (true, req, buffer) ∧
      t.Denoted req buffer := by
  have hblock := t.head_block
  refine ⟨splitAfter_append hblock.block_end t.body, ?_⟩
  obtain ⟨req, block, hparse, hlen, hall⟩ := t.parseHead_text hhosts
  have hbody : t.bytes.drop t.head.length = t.body := List.drop_left
  have hfound : splitAfter blankLine (cstr t.bytes) = some (t.head, cstr t.body) :=
    hblock.found t.body
  have hrun : http1ParserParseHeader config t.bytes .zero = _ :=
    http1ParserParseHeader_eq hfound .zero
  rw [hparse, hbody] at hrun
  simp only [Option.bind_eq_bind, Option.bind_some, partsIn_plain hall.contentType hplain,
    hall.valid] at hrun
  refine ⟨_, _, hrun, ?_⟩
  exact {
    method := hall.method
    uri := (hall.uri.append t.body).str _
    queryString := (hall.query.append t.body).str _
    httpVersion := hall.version
    host := (hall.host.append t.body).str _
    contentType := (hall.contentType.append t.body).str _
    cookieData := (hall.cookieData.append t.body).str _
    isKeepAlive := hall.keepAlive
    bodyData := ⟨t.head.length, rfl, by rw [← hlen, List.drop_left]⟩
    bodyLength := rfl }

end RequestText

/-- The query is empty, a field comes twice, and the body looks like a header block. -/
def formPost : RequestText where
  method := ascii "POST"
  path := ascii "/form.php"
  query := some []
  version := ascii "HTTP/1.1"
  lines := [
    ⟨ascii "Host", ascii " one ", by decide, by decide, by decide⟩,
    ⟨ascii "CONNECTION", ascii "Close", by decide, by decide, by decide⟩,
    ⟨ascii "host", ascii "two", by decide, by decide, by decide⟩]
  body := ascii "Host: three" ++ blankLine
  method_word := by decide
  method_length := by decide
  path_word := by decide
  path_slash := by decide
  path_ne := by decide
  path_no_query := by decide
  query_word := by decide
  version_word := by decide
  version_length := by decide

/-- The last host counts, and it is trimmed. -/
theorem http1ParserParseHeader_formPost :
    ∃ req buffer, http1ParserParseHeader ⟨[], [], [], [], 8192, []⟩ formPost.bytes .zero
        = some (true, req, buffer) ∧
      req.host.map (Ptr.str buffer req.routeResult) = some (some (ascii "two")) ∧
      req.isKeepAlive = false ∧ req.bodyLength = 15 := by
  have hhost : lastValue (ascii "Host") formPost.lines = some (ascii "two") := by decide
  have hplain : lastValue (ascii "Content-Type") formPost.lines = none := by decide
  have hclose : ∃ l ∈ formPost.lines, l.SaysClose :=
    ⟨_, List.mem_cons_of_mem _ List.mem_cons_self, by decide, by decide⟩
  obtain ⟨-, req, buffer, hparse, hdenoted⟩ := formPost.http1ParserParseHeader_text
    ⟨[], [], [], [], 8192, []⟩ rfl (by simp [hplain])
  refine ⟨req, buffer, hparse, ?_, hdenoted.isKeepAlive.mpr hclose, hdenoted.bodyLength⟩
  rw [hdenoted.host, hhost]
  rfl

end Halmos.Http1
