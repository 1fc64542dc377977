import Halmos.Basic.Search
import Halmos.Http1.Reading

set_option autoImplicit false

/-! # The text of a request

A request as a client writes it: the request line, any number of lines `Name:value`, a blank line
and the body. The block in front of the body is a header block whatever is in the lines and behind
them, and the parser cuts its request line into the parts it was put together from.
-/

namespace Halmos.Http1

/-! ## Texts -/

/-- A text without NUL that stays in its line. -/
def OneLine (s : List UInt8) : Prop := ∀ c ∈ s, c ≠ 0 ∧ c ≠ 0x0D ∧ c ≠ 0x0A

instance (s : List UInt8) : Decidable (OneLine s) :=
  List.decidableBAll (fun c => c ≠ 0 ∧ c ≠ 0x0D ∧ c ≠ 0x0A) s

/-- A text without NUL that ends neither at a blank nor at the end of a line. -/
def Word (s : List UInt8) : Prop := OneLine s ∧ 0x20 ∉ s

instance (s : List UInt8) : Decidable (Word s) :=
  inferInstanceAs (Decidable (OneLine s ∧ 0x20 ∉ s))

/-- A line `Name:value`. -/
structure HeaderLine where
  name : List UInt8
  value : List UInt8
  name_line : OneLine name
  value_line : OneLine value
  no_colon : 0x3A ∉ name

/-- A request: what its text is put together from. -/
structure RequestText where
  method : List UInt8
  path : List UInt8
  query : Option (List UInt8)
  version : List UInt8
  lines : List HeaderLine
  body : List UInt8
  method_word : Word method
  method_length : 1 ≤ method.length ∧ method.length ≤ 15
  path_word : Word path
  path_slash : path.head? = some 0x2F
  path_ne : path ≠ ascii "/"
  path_no_query : 0x3F ∉ path
  query_word : ∀ q ∈ query, Word q
  version_word : Word version
  version_length : 1 ≤ version.length ∧ version.length ≤ 15

def HeaderLine.text (line : HeaderLine) : List UInt8 := line.name ++ 0x3A :: line.value

/-- A target: a path, and a query behind a question mark. -/
def targetText (path : List UInt8) (query : Option (List UInt8)) : List UInt8 :=
  path ++ match query with
    | some q => 0x3F :: q
    | none => []

/-- A request without its body, with any path. -/
structure RoutedText where
  method : List UInt8
  path : List UInt8
  query : Option (List UInt8)
  version : List UInt8
  lines : List HeaderLine
  method_word : Word method
  method_length : method.length ≤ 15
  path_word : Word path
  path_no_query : 0x3F ∉ path
  query_word : ∀ q ∈ query, Word q
  version_word : Word version
  version_length : version.length ≤ 15

def RequestText.toRoutedText (t : RequestText) : RoutedText where
  method := t.method
  path := t.path
  query := t.query
  version := t.version
  lines := t.lines
  method_word := t.method_word
  method_length := t.method_length.2
  path_word := t.path_word
  path_no_query := t.path_no_query
  query_word := t.query_word
  version_word := t.version_word
  version_length := t.version_length.2

namespace RoutedText

variable (t : RoutedText)

def target : List UInt8 := targetText t.path t.query

def requestLine : List UInt8 := t.method ++ 0x20 :: (t.target ++ 0x20 :: t.version)

end RoutedText

namespace RequestText

variable (t : RequestText)

/-- The path, and the query behind a question mark. -/
def target : List UInt8 :=
  t.path ++ match t.query with
    | some q => 0x3F :: q
    | none => []

def requestLine : List UInt8 := t.method ++ 0x20 :: (t.target ++ 0x20 :: t.version)

/-- The lines behind the request line, each with its end. -/
def fieldLines (lines : List HeaderLine) : List UInt8 := lines.flatMap fun l => l.text ++ crlf

/-- The header block. -/
def head : List UInt8 := t.requestLine ++ (crlf ++ (fieldLines t.lines ++ crlf))

def bytes : List UInt8 := t.head ++ t.body

end RequestText

open RequestText

variable {a b : List UInt8}

theorem OneLine.append (ha : OneLine a) (hb : OneLine b) : OneLine (a ++ b) :=
  List.forall_mem_append.mpr ⟨ha, hb⟩

theorem OneLine.cons {c : UInt8} (hc : c ≠ 0 ∧ c ≠ 0x0D ∧ c ≠ 0x0A) (hb : OneLine b) :
    OneLine (c :: b) :=
  List.forall_mem_cons.mpr ⟨hc, hb⟩

theorem OneLine.zero_notMem (h : OneLine a) : 0 ∉ a := fun hmem => (h 0 hmem).1 rfl

theorem OneLine.cr_notMem (h : OneLine a) : 0x0D ∉ a := fun hmem => (h 0x0D hmem).2.1 rfl

theorem HeaderLine.text_line (l : HeaderLine) : OneLine l.text :=
  l.name_line.append (.cons (by decide) l.value_line)

theorem HeaderLine.text_ne_nil (l : HeaderLine) : l.text ≠ [] := by simp [HeaderLine.text]

theorem RoutedText.target_word (t : RoutedText) : Word t.target := by
  unfold target targetText
  cases hq : t.query with
  | none => simpa using t.path_word
  | some q =>
      obtain ⟨hline, hblank⟩ := t.query_word q (by simp [hq])
      refine ⟨t.path_word.1.append (.cons (by decide) hline), ?_⟩
      simpa [t.path_word.2] using hblank

theorem RequestText.target_word (t : RequestText) : Word t.target := t.toRoutedText.target_word

theorem RequestText.requestLine_line (t : RequestText) : OneLine t.requestLine :=
  t.method_word.1.append
    (.cons (by decide) (t.target_word.1.append (.cons (by decide) t.version_word.1)))

theorem RequestText.requestLine_ne_nil (t : RequestText) : t.requestLine ≠ [] := by
  simp [requestLine]

/-! ## The header block -/

theorem strstr_crlf (ha : OneLine a) (rest : List UInt8) :
    strstr crlf (a ++ (crlf ++ rest)) = some (a, crlf ++ rest) := by
  rw [crlf, strstr_skip ha.cr_notMem, ← crlf, strstr_here]
  simp

/-- There is no blank line in front of the end of a line, nor there if another line follows. -/
theorem strstr_blankLine (ha : OneLine a) (hb : OneLine b) (hne : b ≠ []) (rest : List UInt8) :
    strstr blankLine (a ++ (crlf ++ (b ++ rest)))
      = (strstr blankLine (b ++ rest)).map (fun r => (a ++ (crlf ++ r.1), r.2)) := by
  cases b with
  | nil => exact absurd rfl hne
  | cons c b =>
      have hc := hb c List.mem_cons_self
      have hthere : ¬ blankLine <+: 0x0D :: 0x0A :: (c :: b ++ rest) := by
        simp [blankLine, List.cons_prefix_cons, Ne.symm hc.2.1]
      have hnext : ¬ blankLine <+: 0x0A :: (c :: b ++ rest) := by
        simp [blankLine, List.cons_prefix_cons]
      rw [blankLine, strstr_skip ha.cr_notMem, ← blankLine]
      show ((strstr blankLine (0x0D :: (0x0A :: (c :: b ++ rest)))).map _) = _
      rw [strstr, if_neg hthere, strstr, if_neg hnext, Option.map_map, Option.map_map]
      rfl

theorem strstr_block (ha : OneLine a) (hne : a ≠ []) (lines : List HeaderLine) :
    ∃ before, strstr blankLine (a ++ (crlf ++ (fieldLines lines ++ crlf)))
        = some (before, blankLine) ∧
      a ++ (crlf ++ (fieldLines lines ++ crlf)) = before ++ blankLine := by
  have hfound : ∃ before, strstr blankLine (a ++ (crlf ++ (fieldLines lines ++ crlf)))
      = some (before, blankLine) := by
    induction lines generalizing a with
    | nil =>
        refine ⟨a, ?_⟩
        have hcr : blankLine = 0x0D :: [0x0A, 0x0D, 0x0A] := rfl
        show strstr blankLine (a ++ blankLine) = _
        have hhere : strstr blankLine blankLine = some ([], blankLine) := by decide
        rw [hcr, strstr_skip ha.cr_notMem, ← hcr, hhere]
        simp
    | cons l lines ih =>
        obtain ⟨before, hlater⟩ := ih l.text_line l.text_ne_nil
        have hsplit : fieldLines (l :: lines) ++ crlf
            = l.text ++ (crlf ++ (fieldLines lines ++ crlf)) := by
          simp [fieldLines]
        rw [hsplit, strstr_blankLine ha l.text_line l.text_ne_nil, hlater]
        exact ⟨_, rfl⟩
  obtain ⟨before, hfound⟩ := hfound
  exact ⟨before, hfound, (strstr_sound hfound).1⟩

theorem fieldLines_no_nul (lines : List HeaderLine) : 0 ∉ fieldLines lines := by
  unfold fieldLines
  rw [List.mem_flatMap]
  rintro ⟨l, -, hmem⟩
  rcases List.mem_append.mp hmem with htext | hcrlf
  · exact l.text_line.zero_notMem htext
  · exact absurd hcrlf (by decide)

/-- A line and the lines behind it end with the first blank line. -/
theorem headerBlock_lines (ha : OneLine a) (hne : a ≠ []) (lines : List HeaderLine) :
    HeaderBlock (a ++ (crlf ++ (fieldLines lines ++ crlf))) := by
  obtain ⟨before, hfound, hsplit⟩ := strstr_block ha hne lines
  constructor
  · rw [splitAfter, hfound, hsplit]
    simp
  · have hcrlf : (0 : UInt8) ∉ crlf := by decide
    simp [ha.zero_notMem, hcrlf, fieldLines_no_nul]

theorem RequestText.head_block (t : RequestText) : HeaderBlock t.head :=
  headerBlock_lines t.requestLine_line t.requestLine_ne_nil t.lines

/-! ## The request line -/

namespace RoutedText

variable (t : RoutedText)

/-- The query with its NUL, if there is one. -/
def cutQuery : List UInt8 :=
  match t.query with
  | some q => q ++ [0]
  | none => []

/-- The request line with the NULs in it. -/
def cutLine : List UInt8 := t.method ++ 0x20 :: (t.path ++ 0 :: (t.cutQuery ++ t.version))

/-- What is filled in by the time the default page is looked at. -/
def lineFields (req : RequestHeader) : RequestHeader :=
  { req with
    method := t.method
    httpVersion := t.version
    uri := some (.buffer (t.method.length + 1))
    directory := some (.buffer (t.method.length + 1))
    queryString := t.query.map fun _ => .buffer (t.method.length + 1 + t.path.length + 1)
    pathInfo := none }

theorem length_cutLine : t.cutLine.length = t.requestLine.length := by
  unfold cutLine cutQuery requestLine target targetText
  cases t.query <;> simp

theorem strAt_target (rest : List UInt8) :
    strAt (t.method ++ 0x20 :: (t.target ++ 0 :: rest)) (t.method.length + 1) = t.target := by
  rw [strAt, drop_append_cons rfl, cstr_append_cons t.target_word.1.zero_notMem]

theorem parseRequestLine_routed (config : Config) (req : RequestHeader) (rest : List UInt8) :
    parseRequestLine config (t.requestLine ++ rest) t.requestLine.length req
      = (if t.path = ascii "/" then defaultPage config (t.lineFields req)
          else some (t.lineFields req)).map fun r =>
        ({ (match pathInfoOf (t.method.length + 1) t.path with
            | some p => { r with pathInfo := some p }
            | none => r) with isValid := true }, t.cutLine ++ rest) := by
  have hm := idxOf?_append t.method_word.2 (t.target ++ 0x20 :: t.version)
  have hu := idxOf?_append t.target_word.2 t.version
  have hmlen : t.method.length < 16 := Nat.lt_succ_of_le t.method_length
  have hvlen : t.version.length < 16 := Nat.lt_succ_of_le t.version_length
  have hlen : (t.method ++ 0x20 :: t.target).length = t.method.length + 1 + t.target.length := by
    simp
    omega
  have hcut : (t.requestLine ++ rest).set (t.method.length + 1 + t.target.length) 0
      = t.method ++ 0x20 :: (t.target ++ 0 :: (t.version ++ rest)) := by
    simpa [requestLine] using set_append_cons hlen 0x20 0 (t.version ++ rest)
  have hversion : t.requestLine.drop (t.method.length + 1 + t.target.length + 1) = t.version := by
    simpa [requestLine] using drop_append_cons hlen 0x20 t.version
  unfold parseRequestLine
  rw [List.take_left]
  simp only [requestLine] at hcut hversion ⊢
  simp only [hm, drop_append_cons rfl, hu, if_pos hmlen, List.take_left, hversion, if_pos hvlen, hcut,
    t.strAt_target]
  cases hq : t.query with
  | none =>
      have htarget : t.target = t.path := by simp [target, targetText, hq]
      have hno : t.path.idxOf? 0x3F = none := List.idxOf?_eq_none_iff.mpr t.path_no_query
      have hpath := htarget ▸ t.strAt_target (t.version ++ rest)
      simp only [htarget, hno, hpath, lineFields, cutLine, cutQuery, hq, Option.map_eq_bind,
        List.nil_append, Option.bind_eq_bind]
      split
      · congr 1
        funext r
        cases pathInfoOf (t.method.length + 1) t.path <;> simp
      · cases pathInfoOf (t.method.length + 1) t.path <;> simp
  | some q =>
      have htarget : t.target = t.path ++ 0x3F :: q := by simp [target, targetText, hq]
      have hthere : t.target.idxOf? 0x3F = some t.path.length := by
        rw [htarget, idxOf?_append t.path_no_query]
      have hset : (t.method ++ 0x20 :: (t.target ++ 0 :: (t.version ++ rest))).set
            (t.method.length + 1 + t.path.length) 0
          = t.method ++ 0x20 :: (t.path ++ 0 :: (q ++ 0 :: (t.version ++ rest))) := by
        have hlen : (t.method ++ 0x20 :: t.path).length = t.method.length + 1 + t.path.length := by
          simp
          omega
        simpa [htarget] using set_append_cons hlen 0x3F 0 (q ++ 0 :: (t.version ++ rest))
      have hpath : strAt (t.method ++ 0x20 :: (t.path ++ 0 :: (q ++ 0 :: (t.version ++ rest))))
          (t.method.length + 1) = t.path := by
        rw [strAt, drop_append_cons rfl, cstr_append_cons t.path_word.1.zero_notMem]
      simp only [hthere, hset, hpath, lineFields, cutLine, cutQuery, hq, Option.map_eq_bind,
        Option.bind_eq_bind]
      split
      · congr 1
        funext r
        cases pathInfoOf (t.method.length + 1) t.path <;> simp
      · cases pathInfoOf (t.method.length + 1) t.path <;> simp

end RoutedText

namespace RequestText

variable (t : RequestText)

/-- The query with its NUL, if there is one. -/
def cutQuery : List UInt8 :=
  match t.query with
  | some q => q ++ [0]
  | none => []

/-- The request line with the NULs in it. -/
def cutLine : List UInt8 := t.method ++ 0x20 :: (t.path ++ 0 :: (t.cutQuery ++ t.version))

/-- What the request line is parsed to. -/
def lineParsed (req : RequestHeader) : RequestHeader :=
  { req with
    method := t.method
    httpVersion := t.version
    uri := some (.buffer (t.method.length + 1))
    directory := some (.buffer (t.method.length + 1))
    queryString := t.query.map fun _ => .buffer (t.method.length + 1 + t.path.length + 1)
    pathInfo := pathInfoOf (t.method.length + 1) t.path
    isValid := true }

theorem length_cutLine : t.cutLine.length = t.requestLine.length := t.toRoutedText.length_cutLine

theorem parseRequestLine_text (config : Config) (req : RequestHeader) (rest : List UInt8) :
    parseRequestLine config (t.requestLine ++ rest) t.requestLine.length req
      = some (t.lineParsed req, t.cutLine ++ rest) := by
  have hline := t.toRoutedText.parseRequestLine_routed config req rest
  rw [if_neg (show t.toRoutedText.path ≠ ascii "/" from t.path_ne)] at hline
  have hinfo : pathInfoOf (t.toRoutedText.method.length + 1) t.toRoutedText.path
      = pathInfoOf (t.method.length + 1) t.path := rfl
  rw [hinfo] at hline
  refine hline.trans ?_
  unfold lineParsed
  cases pathInfoOf (t.method.length + 1) t.path with
  | none => rfl
  | some p => rfl

end RequestText

end Halmos.Http1
