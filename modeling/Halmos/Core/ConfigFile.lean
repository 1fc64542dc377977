import Halmos.Basic.Tokens
import Halmos.Core.Adaptive
import Halmos.Fcgi.Nodes
import Mathlib.Data.List.DropRight

set_option autoImplicit false

/-! # The configuration file

`core_config_load` reads `halmos.conf` line by line: a blank line, a comment, the header of a section
in brackets, or a setting `key = value`, with a comment behind it if need be. Settings of a section
`[VHost:host]` are those of a virtual host, of which there can be 32; all others are global, whatever
the name of their section.

A file is written here as a list of lines with their layout, and what it means is read off the
headers and settings alone. The loader finds this meaning in every layout, but a header `[VHost:..]`
for which there is no room does not count, and the settings behind it go to the section in front of
it (`coreConfigLoad_text`).
-/

namespace Halmos.Core.ConfigFile

/-! ## The configuration -/

/-- `BackendGroup`. -/
structure BackendGroup extends Fcgi.BalancedGroup where
  ext : List UInt8
  memoryBudget : Int32

/-- `VHostEntry`, as far as the loader fills it in. -/
structure VHostEntry where
  host : List UInt8
  root : List UInt8
  deriving DecidableEq, Repr

/-- `Config`; `vhost_count` is the length of `vhosts`. -/
structure Config where
  serverName : List UInt8
  serverPort : Int
  documentRoot : List UInt8
  defaultPage : List UInt8
  maxBodySize : UInt64
  tlsEnabled : Bool
  e2eeEnabled : Bool
  sslCertificateFile : List UInt8
  sslPrivateKeyFile : List UInt8
  rateLimitEnabled : Bool
  antiSlowLorisEnabled : Bool
  maxRequestsPerSec : Int
  keepAliveTimeout : Int
  trustProxy : Bool
  php : BackendGroup
  rust : BackendGroup
  python : BackendGroup
  phpFpmConfigPath : List UInt8
  requestBufferSize : Int
  vhosts : List VHostEntry
  telemetryEnabled : Bool

/-- An empty `BackendGroup`. -/
def BackendGroup.empty : BackendGroup where
  ips := Vector.replicate _ []
  ports := Vector.replicate _ 0
  nodeCount := 0
  lbStrategy := []
  ext := []
  memoryBudget := 0

/-- `Config config = {0}`. -/
def Config.empty : Config where
  serverName := []
  serverPort := 0
  documentRoot := []
  defaultPage := []
  maxBodySize := 0
  tlsEnabled := false
  e2eeEnabled := false
  sslCertificateFile := []
  sslPrivateKeyFile := []
  rateLimitEnabled := false
  antiSlowLorisEnabled := false
  maxRequestsPerSec := 0
  keepAliveTimeout := 0
  trustProxy := false
  php := .empty
  rust := .empty
  python := .empty
  phpFpmConfigPath := []
  requestBufferSize := 0
  vhosts := []
  telemetryEnabled := false

/-- The number of virtual hosts there is room for. -/
def maxVhosts : Nat := 32

/-! ## Values -/

/-- `trim`. -/
def trim (s : List UInt8) : List UInt8 := (s.dropWhile isSpace).rdropWhile isSpace

/-- `snprintf(dst, size, "%s", value)`. -/
def printTo (size : Nat) (value : List UInt8) : List UInt8 := value.take (size - 1)

/-- `strcasecmp(value, "true") == 0`. -/
def isTrue (value : List UInt8) : Bool := value.map toLower = ascii "true"

/-- `strtoul(str, &endptr, 10)` and the text from `endptr` on. -/
def strtoul (str : List UInt8) : UInt64 × List UInt8 :=
  let s := str.dropWhile isSpace
  let digits := if s.head? = some 0x2D ∨ s.head? = some 0x2B then s.drop 1 else s
  let n := digitsValue 0 digits
  let rest := digits.dropWhile (fun c => 48 ≤ c ∧ c ≤ 57)
  if rest.length = digits.length then (0, str)
  else if 2 ^ 64 ≤ n then (UInt64.ofNat (2 ^ 64 - 1), rest)
  else if s.head? = some 0x2D then (-UInt64.ofNat n, rest)
  else (UInt64.ofNat n, rest)

/-- `parse_size`. -/
def parseSize (str : List UInt8) : UInt64 :=
  let (value, endptr) := strtoul str
  match (endptr.dropWhile isSpace).head?.map toLower with
  | some 0x67 => value * (1024 * 1024 * 1024)
  | some 0x6D => value * (1024 * 1024)
  | some 0x6B => value * 1024
  | _ => value

/-- `parse_csv_to_group`. What is behind the listed addresses or ports stays as it was, and only the
addresses count. -/
def parseCsvToGroup (value : List UInt8) (group : BackendGroup) (isPort : Bool) : BackendGroup :=
  let tokens := (tokens 0x2C value).take Fcgi.maxBackendNodes
  if isPort = true then
    { group with
      ports := Vector.ofFn fun i => (tokens[i.val]?).elim group.ports[i] fun t => atoi (trim t) }
  else
    { group with
      ips := Vector.ofFn fun i =>
        (tokens[i.val]?).elim group.ips[i] fun t => printTo 64 (trim t)
      nodeCount := Int32.ofNat tokens.length }

/-- A budget, in whole megabytes. -/
def megabytes (value : List UInt8) : Int32 :=
  Int32.ofNat (parseSize value / (1024 * 1024)).toNat

/-! ## Global settings -/

/-- The keys that the loader knows and what each of them sets, in the order of the comparisons. -/
def globalSettings : List (List UInt8 × (List UInt8 → Config → Config)) :=
  [(ascii "server_name", fun v c => { c with serverName := printTo 256 v }),
    (ascii "server_port", fun v c => { c with serverPort := atoi v }),
    (ascii "document_root", fun v c => { c with documentRoot := printTo 256 v }),
    (ascii "default_page", fun v c => { c with defaultPage := printTo 256 v }),
    (ascii "request_buffer_size", fun v c => { c with requestBufferSize := atoi v }),
    (ascii "max_body_size", fun v c => { c with maxBodySize := parseSize v }),
    (ascii "tls_enabled", fun v c => { c with tlsEnabled := isTrue v }),
    (ascii "e2ee_enabled", fun v c => { c with e2eeEnabled := isTrue v }),
    (ascii "ssl_certificate_file", fun v c => { c with sslCertificateFile := printTo 512 v }),
    (ascii "ssl_private_key_file", fun v c => { c with sslPrivateKeyFile := printTo 512 v }),
    (ascii "rate_limit_enabled", fun v c => { c with rateLimitEnabled := isTrue v }),
    (ascii "anti_slow_loris_enabled", fun v c => { c with antiSlowLorisEnabled := isTrue v }),
    (ascii "max_requests_per_sec", fun v c => { c with maxRequestsPerSec := atoi v }),
    (ascii "keep_alive_timeout", fun v c => { c with keepAliveTimeout := atoi v }),
    (ascii "trust_proxy", fun v c => { c with trustProxy := isTrue v }),
    (ascii "php_server", fun v c => { c with php := parseCsvToGroup v c.php false }),
    (ascii "php_port", fun v c => { c with php := parseCsvToGroup v c.php true }),
    (ascii "php_fpm_config_path", fun v c => { c with phpFpmConfigPath := printTo 512 v }),
    (ascii "php_lb_strategy", fun v c => { c with php := { c.php with lbStrategy := printTo 32 v } }),
    (ascii "php_memory_budget", fun v c => { c with php := { c.php with memoryBudget := megabytes v } }),
    (ascii "rust_ext", fun v c => { c with rust := { c.rust with ext := printTo 16 v } }),
    (ascii "rust_server", fun v c => { c with rust := parseCsvToGroup v c.rust false }),
    (ascii "rust_port", fun v c => { c with rust := parseCsvToGroup v c.rust true }),
    (ascii "rust_lb_strategy", fun v c => { c with rust := { c.rust with lbStrategy := printTo 32 v } }),
    (ascii "rust_memory_budget",
      fun v c => { c with rust := { c.rust with memoryBudget := megabytes v } }),
    (ascii "python_ext", fun v c => { c with python := { c.python with ext := printTo 16 v } }),
    (ascii "python_server", fun v c => { c with python := parseCsvToGroup v c.python false }),
    (ascii "python_port", fun v c => { c with python := parseCsvToGroup v c.python true }),
    (ascii "python_lb_strategy",
      fun v c => { c with python := { c.python with lbStrategy := printTo 32 v } }),
    (ascii "python_memory_budget",
      fun v c => { c with python := { c.python with memoryBudget := megabytes v } }),
    (ascii "telemetry_enabled", fun v c => { c with telemetryEnabled := isTrue v })]

/-- A global setting. A key that is not known sets nothing. -/
def setGlobal (key value : List UInt8) (c : Config) : Config :=
  match globalSettings.find? (fun s => s.1 = key) with
  | some s => s.2 value c
  | none => c

/-! ## The loader -/

/-- The variables of `core_config_load`: `config`, and the virtual host whose section it is in. -/
structure Loader where
  config : Config
  currentVhIdx : Option Nat

/-- `"VHost:"`. -/
def vhostPrefix : List UInt8 := ascii "VHost:"

/-- The name of the section is that of a virtual host. -/
def isVHost (name : List UInt8) : Bool := vhostPrefix.isPrefixOf name

/-- The host of such a section. -/
def hostOf (name : List UInt8) : List UInt8 := printTo 256 (trim (name.drop 6))

/-- `1. DETEKSI SECTION`, with the name that was read. -/
def Loader.enter (l : Loader) (name : List UInt8) : Loader :=
  if isVHost name = true then
    if l.config.vhosts.length < maxVhosts then
      { config := { l.config with vhosts := l.config.vhosts ++ [⟨hostOf name, []⟩] }
        currentVhIdx := some l.config.vhosts.length }
    else l
  else { l with currentVhIdx := none }

/-- `2. LOGIKA JIKA DI DALAM BLOK VHOST` and `3. LOGIKA GLOBAL CONFIG`. -/
def Loader.assign (l : Loader) (key value : List UInt8) : Loader :=
  match l.currentVhIdx with
  | some idx =>
      if key = ascii "root" then
        { l with
          config := { l.config with
            vhosts := l.config.vhosts.modify idx fun vh => { vh with root := printTo 1024 value } } }
      else l
  | none => { l with config := setGlobal key value l.config }

/-- `sscanf(current_line, "[%255[^]]]", section)`, if it returns 1. -/
def scanSection (line : List UInt8) : Option (List UInt8) :=
  let name := ((line.drop 1).takeWhile (fun c => c ≠ 0x5D)).take 255
  if name = [] then none else some name

/-- `strtok(.., "=")`: the token, and what is left for the next call. -/
def strtokEq (s : List UInt8) : Option (List UInt8 × List UInt8) :=
  let s := s.dropWhile (fun c => c = 0x3D)
  if s = [] then none
  else
    let token := s.takeWhile (fun c => c ≠ 0x3D)
    some (token, s.drop (token.length + 1))

/-- `key` and `value`, if both are there. -/
def splitSetting (line : List UInt8) : Option (List UInt8 × List UInt8) := do
  let (key, rest) ← strtokEq line
  let (value, _) ← strtokEq rest
  some (key, value)

/-- A round of the loop, with the line that `fgets` has read. -/
def Loader.line (l : Loader) (line : List UInt8) : Loader :=
  let currentLine := trim ((cstr line).takeWhile (fun c => c ≠ 0x0A))
  if currentLine = [] ∨ currentLine.head? = some 0x23 then l
  else
    let currentLine := currentLine.takeWhile (fun c => c ≠ 0x23)
    if currentLine.head? = some 0x5B then
      match scanSection currentLine with
      | some name => l.enter name
      | none => l
    else
      match splitSetting currentLine with
      | some (key, value) => l.assign (trim key) (trim value)
      | none => l

/-- `core_config_load`, with the content of the file if it can be opened. -/
def coreConfigLoad (config : Config) : Option (List UInt8) → Int × Config
  | none => (-1, config)
  | some content =>
      (0, ((fgetsLines 1023 [] content).foldl Loader.line ⟨config, none⟩).config)

/-! ## Files as they are written -/

/-- A blank that does not end the line. -/
def isBlank (c : UInt8) : Bool := isSpace c && c ≠ 0x0A

/-- A line, with its layout: blanks in front of it, on both sides of the `=`, and behind the value,
where a comment may follow. -/
inductive ConfigLine where
  | blank (indent : List UInt8)
  | comment (indent text : List UInt8)
  | header (indent name rest : List UInt8)
  | setting (indent key left right value trail : List UInt8) (note : Option (List UInt8))

/-- The bytes of a line, without its end. -/
def ConfigLine.text : ConfigLine → List UInt8
  | .blank indent => indent
  | .comment indent text => indent ++ 0x23 :: text
  | .header indent name rest => indent ++ 0x5B :: (name ++ 0x5D :: rest)
  | .setting indent key left right value trail note =>
      indent ++ (key ++ left ++ 0x3D :: (right ++ value ++ trail)) ++ note.elim [] (0x23 :: ·)

/-- The bytes of a file. -/
def fileText (lines : List ConfigLine) : List UInt8 := lines.flatMap fun line => line.text ++ [0x0A]

/-- Text that is no more than one line. -/
def OneLine (s : List UInt8) : Prop := 0 ∉ s ∧ 0x0A ∉ s

/-- A key or a value: no byte of it has a meaning of its own, and it has no blanks at its ends. -/
structure Word (s : List UInt8) : Prop where
  nonempty : s ≠ []
  oneLine : OneLine s
  plain : 0x23 ∉ s ∧ 0x3D ∉ s
  first : ∀ c ∈ s.head?, isSpace c = false
  last : ∀ c ∈ s.getLast?, isSpace c = false

/-- The parts of a line are what they are written as. -/
def ConfigLine.Parts : ConfigLine → Prop
  | .blank indent => indent.all isBlank = true
  | .comment indent text => indent.all isBlank = true ∧ OneLine text
  | .header indent name rest => indent.all isBlank = true ∧ name ≠ [] ∧ name.length ≤ 255
      ∧ OneLine name ∧ 0x5D ∉ name ∧ 0x23 ∉ name ∧ OneLine rest
  | .setting indent key left right value trail note => indent.all isBlank = true
      ∧ Word key ∧ key.head? ≠ some 0x5B ∧ left.all isBlank = true ∧ right.all isBlank = true
      ∧ Word value ∧ trail.all isBlank = true ∧ OneLine (note.getD [])

/-- And the line fits the buffer. -/
structure ConfigLine.Valid (line : ConfigLine) : Prop where
  parts : line.Parts
  fits : line.text.length ≤ 1022

/-- What a line is for. -/
inductive Statement where
  | header (name : List UInt8)
  | setting (key value : List UInt8)
  deriving DecidableEq, Repr

def ConfigLine.statement : ConfigLine → Option Statement
  | .blank _ => none
  | .comment _ _ => none
  | .header _ name _ => some (.header name)
  | .setting _ key _ _ value _ _ => some (.setting key value)

/-- What the loader makes of it. -/
def Loader.obey (l : Loader) : Statement → Loader
  | .header name => l.enter name
  | .setting key value => l.assign key value

/-! ## Lines -/

section Lines

variable {s t indent : List UInt8}

theorem isSpace_of_blank (h : indent.all isBlank = true) {c : UInt8} (hc : c ∈ indent) :
    isSpace c = true ∧ c ≠ 0x0A := by
  have hblank := List.all_eq_true.mp h c hc
  simpa [isBlank] using hblank

/-- Blanks are on one line. -/
theorem OneLine.of_blank (h : indent.all isBlank = true) : OneLine indent := by
  constructor
  · intro hmem
    exact absurd (isSpace_of_blank h hmem).1 (by decide)
  · intro hmem
    exact (isSpace_of_blank h hmem).2 rfl

theorem OneLine.append (hs : OneLine s) (ht : OneLine t) : OneLine (s ++ t) := by
  simp only [OneLine, List.mem_append, not_or]
  exact ⟨⟨hs.1, ht.1⟩, hs.2, ht.2⟩

theorem OneLine.cons {c : UInt8} (hc : c ≠ 0 ∧ c ≠ 0x0A) (hs : OneLine s) : OneLine (c :: s) := by
  simp only [OneLine, List.mem_cons, not_or]
  exact ⟨⟨hc.1.symm, hs.1⟩, hc.2.symm, hs.2⟩

theorem OneLine.nil : OneLine [] := ⟨List.not_mem_nil, List.not_mem_nil⟩

/-- The loader sees the line, without its end. -/
theorem OneLine.read (h : OneLine s) : (cstr (s ++ [0x0A])).takeWhile (fun c => c ≠ 0x0A) = s := by
  have hnul : 0 ∉ s ++ [0x0A] := by
    simp only [List.mem_append, List.mem_singleton, not_or]
    exact ⟨h.1, by decide⟩
  have hall : ∀ c ∈ s, decide (c ≠ 0x0A) = true := by
    intro c hc
    have hne : c ≠ 0x0A := by
      rintro rfl
      exact h.2 hc
    simp [hne]
  rw [cstr_of_notMem hnul, List.takeWhile_append_of_pos hall]
  simp

/-- Blanks in front do not matter to `trim`. -/
theorem trim_append (h : ∀ c ∈ indent, isSpace c = true) (s : List UInt8) :
    trim (indent ++ s) = trim s := by
  rw [trim, trim, List.dropWhile_append_of_pos h]

/-- Nor do blanks behind. -/
theorem trim_append_blanks (h : ∀ c ∈ t, isSpace c = true) (s : List UInt8) :
    trim (s ++ t) = trim s := by
  unfold trim
  induction t using List.reverseRecOn generalizing s with
  | nil => rw [List.append_nil]
  | append_singleton t c ih =>
      have hc : isSpace c = true := h c (by simp)
      have ht : ∀ b ∈ t, isSpace b = true := fun b hb => h b (by simp [hb])
      rw [← ih ht s, ← List.append_assoc]
      by_cases hall : ∀ b ∈ s ++ t, isSpace b = true
      · have hnil : (s ++ t).dropWhile isSpace = [] := by simpa using hall
        rw [List.dropWhile_append, hnil]
        simp [hc]
      · have hne : (s ++ t).dropWhile isSpace ≠ [] := by simpa using hall
        rw [List.dropWhile_append]
        simp only [List.isEmpty_iff, if_neg hne]
        exact List.rdropWhile_concat_pos isSpace _ c hc

/-- A text without blanks at its ends is left as it is. -/
theorem trim_eq (hfirst : ∀ c ∈ s.head?, isSpace c = false)
    (hlast : ∀ c ∈ s.getLast?, isSpace c = false) : trim s = s := by
  have hdrop : s.dropWhile isSpace = s := by
    cases s with
    | nil => rfl
    | cons c s => simp [hfirst c rfl]
  rw [trim, hdrop, List.rdropWhile_eq_self_iff]
  intro hne
  rw [hlast _ (List.getLast?_eq_some_getLast hne)]
  decide

theorem Word.of_ends (hne : s ≠ []) (hline : 0 ∉ s ∧ 0x0A ∉ s) (hplain : 0x23 ∉ s ∧ 0x3D ∉ s)
    (hfirst : isSpace (s.head hne) = false) (hlast : isSpace (s.getLast hne) = false) : Word s := by
  refine ⟨hne, hline, hplain, ?_, ?_⟩
  · rw [List.head?_eq_some_head hne]
    exact fun c hc => Option.some.inj hc ▸ hfirst
  · rw [List.getLast?_eq_some_getLast hne]
    exact fun c hc => Option.some.inj hc ▸ hlast

theorem Word.trim_eq (h : Word s) (hindent : indent.all isBlank = true)
    (ht : t.all isBlank = true) : trim (indent ++ s ++ t) = s := by
  rw [trim_append_blanks fun c hc => (isSpace_of_blank ht hc).1,
    trim_append fun c hc => (isSpace_of_blank hindent hc).1]
  exact ConfigFile.trim_eq h.first h.last

/-- The token in front of the next `=`. -/
theorem strtokEq_cons (hne : s ≠ []) (h : 0x3D ∉ s) (t : List UInt8) :
    strtokEq (s ++ 0x3D :: t) = some (s, t) := by
  obtain ⟨c, s, rfl⟩ := List.exists_cons_of_ne_nil hne
  have hc : c ≠ 0x3D := by
    rintro rfl
    exact h List.mem_cons_self
  have hdrop : (c :: s ++ 0x3D :: t).dropWhile (fun b => b = 0x3D) = c :: s ++ 0x3D :: t := by
    simp [hc]
  simp only [strtokEq, hdrop, takeWhile_cons_of_notMem h]
  simp

/-- The token at the end. -/
theorem strtokEq_last (hne : s ≠ []) (h : 0x3D ∉ s) : strtokEq s = some (s, []) := by
  obtain ⟨c, s, rfl⟩ := List.exists_cons_of_ne_nil hne
  have hc : c ≠ 0x3D := by
    rintro rfl
    exact h List.mem_cons_self
  have hdrop : (c :: s).dropWhile (fun b => b = 0x3D) = c :: s := by simp [hc]
  simp only [strtokEq, hdrop, takeWhile_of_notMem h]
  simp

/-- A byte that is no blank keeps what is in front of it. -/
theorem rdropWhile_append_cons {c : UInt8} (hc : isSpace c = false) (s t : List UInt8) :
    (s ++ c :: t).rdropWhile isSpace = s ++ c :: t.rdropWhile isSpace := by
  simp only [List.rdropWhile, List.reverse_append, List.reverse_cons, List.append_assoc,
    List.singleton_append, List.dropWhile_append]
  split
  · next hnil => simp [hc, List.isEmpty_iff.mp hnil]
  · simp

/-- And is the first one of the line when only blanks are in front of it. -/
theorem trim_cons (h : indent.all isBlank = true) {c : UInt8} (hc : isSpace c = false)
    (s : List UInt8) : trim (indent ++ c :: s) = c :: s.rdropWhile isSpace := by
  have hdrop : (c :: s).dropWhile isSpace = c :: s := by simp [hc]
  rw [trim_append fun b hb => (isSpace_of_blank h hb).1, trim, hdrop]
  exact rdropWhile_append_cons hc [] s

theorem notMem_of_blank (h : indent.all isBlank = true) {c : UInt8} (hc : isSpace c = false) :
    c ∉ indent := by
  intro hmem
  have hspace := (isSpace_of_blank h hmem).1
  rw [hc] at hspace
  cases hspace

theorem ConfigLine.Parts.oneLine {line : ConfigLine} (h : line.Parts) : OneLine line.text := by
  cases line with
  | blank indent => exact OneLine.of_blank h
  | comment indent text => exact (OneLine.of_blank h.1).append (h.2.cons (by decide))
  | header indent name rest =>
      obtain ⟨hindent, -, -, hname, -, -, hrest⟩ := h
      exact (OneLine.of_blank hindent).append
        ((hname.append (hrest.cons (by decide))).cons (by decide))
  | setting indent key left right value trail note =>
      obtain ⟨hindent, hkey, -, hleft, hright, hvalue, htrail, hnote⟩ := h
      have hbody : OneLine (key ++ left ++ 0x3D :: (right ++ value ++ trail)) :=
        (hkey.oneLine.append (.of_blank hleft)).append
          ((((OneLine.of_blank hright).append hvalue.oneLine).append (.of_blank htrail)).cons
            (by decide))
      refine ((OneLine.of_blank hindent).append hbody).append ?_
      cases note with
      | none => exact .nil
      | some note => exact hnote.cons (by decide)

/-- What is in front of the comment, in one case without the blanks behind the value. -/
theorem cut_setting {key left right value trail : List UInt8} {note : Option (List UInt8)}
    (h : (ConfigLine.setting indent key left right value trail note).Parts) :
    ∃ trail', trail'.all isBlank = true ∧
      (trim (ConfigLine.setting indent key left right value trail note).text).takeWhile
        (fun c => c ≠ 0x23) = key ++ left ++ 0x3D :: (right ++ value ++ trail') := by
  obtain ⟨hindent, hkey, -, hleft, hright, hvalue, htrail, -⟩ := h
  obtain ⟨c, key', rfl⟩ := List.exists_cons_of_ne_nil hkey.nonempty
  have hc : isSpace c = false := hkey.first c rfl
  have hplain {trail' : List UInt8} (htrail' : trail'.all isBlank = true) :
      0x23 ∉ c :: key' ++ left ++ 0x3D :: (right ++ value ++ trail') := by
    have hno {blanks : List UInt8} (hb : blanks.all isBlank = true) : (0x23 : UInt8) ∉ blanks :=
      notMem_of_blank hb (by decide)
    have hback : 0x23 ∉ right ++ value ++ trail' := by
      simp only [List.mem_append, not_or]
      exact ⟨⟨hno hright, hvalue.plain.1⟩, hno htrail'⟩
    simp only [List.mem_append, not_or]
    exact ⟨⟨hkey.plain.1, hno hleft⟩, List.not_mem_cons_of_ne_of_not_mem (by decide) hback⟩
  cases note with
  | none =>
      refine ⟨[], rfl, ?_⟩
      have htext : (ConfigLine.setting indent (c :: key') left right value trail none).text
          = indent ++ (c :: key' ++ left ++ 0x3D :: (right ++ value)) ++ trail := by
        simp [ConfigLine.text]
      have htrim : trim (ConfigLine.setting indent (c :: key') left right value trail none).text
          = c :: key' ++ left ++ 0x3D :: (right ++ value ++ []) := by
        rw [htext, trim_append_blanks fun b hb => (isSpace_of_blank htrail hb).1,
          trim_append fun b hb => (isSpace_of_blank hindent hb).1, List.append_nil]
        apply ConfigFile.trim_eq
        · intro b hb
          exact hkey.first b hb
        · intro b hb
          apply hvalue.last b
          rwa [List.getLast?_append_cons, List.getLast?_cons_of_ne_nil
            (List.append_ne_nil_of_right_ne_nil right hvalue.nonempty),
            List.getLast?_append_of_ne_nil right hvalue.nonempty] at hb
      rw [htrim]
      exact takeWhile_of_notMem (hplain rfl)
  | some note =>
      refine ⟨trail, htrail, ?_⟩
      have htext : (ConfigLine.setting indent (c :: key') left right value trail (some note)).text
          = indent ++ ((c :: key' ++ left ++ 0x3D :: (right ++ value ++ trail))
            ++ 0x23 :: note) := by
        simp [ConfigLine.text]
      have htrim : trim (ConfigLine.setting indent (c :: key') left right value trail
          (some note)).text = (c :: key' ++ left ++ 0x3D :: (right ++ value ++ trail))
            ++ 0x23 :: note.rdropWhile isSpace := by
        rw [htext, trim_append fun b hb => (isSpace_of_blank hindent hb).1, trim]
        have hdrop : (c :: key' ++ left ++ 0x3D :: (right ++ value ++ trail)
            ++ 0x23 :: note).dropWhile isSpace
            = c :: key' ++ left ++ 0x3D :: (right ++ value ++ trail) ++ 0x23 :: note := by
          simp [hc]
        rw [hdrop]
        exact rdropWhile_append_cons (by decide) _ note
      rw [htrim]
      exact takeWhile_cons_of_notMem (hplain htrail) _

/-- **One line**: the loader obeys what it is for. -/
theorem line_text {line : ConfigLine} (h : line.Parts) (l : Loader) :
    l.line (line.text ++ [0x0A]) = line.statement.elim l l.obey := by
  rw [Loader.line, h.oneLine.read]
  cases line with
  | blank indent =>
      have htrim : trim indent = [] := by
        have hall : ∀ c ∈ indent, isSpace c = true := fun c hc => (isSpace_of_blank h hc).1
        have hdrop : indent.dropWhile isSpace = [] := by simpa using hall
        rw [trim, hdrop]
        rfl
      exact if_pos (Or.inl htrim)
  | comment indent text =>
      have htrim := trim_cons h.1 (c := 0x23) (by decide) text
      exact if_pos (Or.inr (by rw [ConfigLine.text, htrim]; rfl))
  | header indent name rest =>
      obtain ⟨hindent, hne, hlen, -, hclose, hhash, -⟩ := h
      have htrim : trim (ConfigLine.header indent name rest).text
          = 0x5B :: (name ++ 0x5D :: rest.rdropWhile isSpace) := by
        rw [ConfigLine.text, trim_cons hindent (by decide),
          rdropWhile_append_cons (by decide) name rest]
      have hcut : (0x5B :: (name ++ 0x5D :: rest.rdropWhile isSpace)).takeWhile (fun c => c ≠ 0x23)
          = 0x5B :: (name ++ 0x5D :: (rest.rdropWhile isSpace).takeWhile (fun c => c ≠ 0x23)) := by
        have hall : ∀ b ∈ name, decide (b ≠ 0x23) = true := by
          intro b hb
          have hb' : b ≠ 0x23 := by
            rintro rfl
            exact hhash hb
          simp [hb']
        rw [List.takeWhile_cons_of_pos (by decide), List.takeWhile_append_of_pos hall,
          List.takeWhile_cons_of_pos (by decide)]
      have hscan : scanSection
          (0x5B :: (name ++ 0x5D :: (rest.rdropWhile isSpace).takeWhile (fun c => c ≠ 0x23)))
          = some name := by
        simp only [scanSection, List.drop_one, List.tail_cons, takeWhile_cons_of_notMem hclose,
          List.take_of_length_le hlen, if_neg hne]
      simp only [htrim, hcut, hscan]
      rfl
  | setting indent key left right value trail note =>
      obtain ⟨trail', htrail', hcut⟩ := cut_setting h
      obtain ⟨hindent, hkey, hopen, hleft, hright, hvalue, htrail, -⟩ := h
      obtain ⟨c, key', hkeyeq⟩ := List.exists_cons_of_ne_nil hkey.nonempty
      have hc : isSpace c = false := hkey.first c (by rw [hkeyeq]; rfl)
      -- the line begins with the key
      have hhead : ∃ back, trim (ConfigLine.setting indent key left right value trail note).text
          = c :: back := by
        rw [ConfigLine.text, hkeyeq, List.append_assoc]
        exact ⟨_, trim_cons hindent hc _⟩
      obtain ⟨back, hback⟩ := hhead
      have hhash : c ≠ 0x23 := by
        rintro rfl
        exact hkey.plain.1 (by rw [hkeyeq]; exact List.mem_cons_self)
      have hfirst : (key ++ left ++ 0x3D :: (right ++ value ++ trail')).head? = some c := by
        rw [hkeyeq]
        rfl
      have hbracket : c ≠ 0x5B := by
        rintro rfl
        exact hopen (by rw [hkeyeq]; rfl)
      have hno {blanks : List UInt8} (hb : blanks.all isBlank = true) : (0x3D : UInt8) ∉ blanks :=
        notMem_of_blank hb (by decide)
      have hsplit : splitSetting (key ++ left ++ 0x3D :: (right ++ value ++ trail'))
          = some (key ++ left, right ++ value ++ trail') := by
        have hkeyleft : key ++ left ≠ [] := List.append_ne_nil_of_left_ne_nil hkey.nonempty left
        have hvaluetrail : right ++ value ++ trail' ≠ [] :=
          List.append_ne_nil_of_left_ne_nil
            (List.append_ne_nil_of_right_ne_nil right hvalue.nonempty) trail'
        have hfront : (0x3D : UInt8) ∉ key ++ left := by
          simp only [List.mem_append, not_or]
          exact ⟨hkey.plain.2, hno hleft⟩
        have hrear : (0x3D : UInt8) ∉ right ++ value ++ trail' := by
          simp only [List.mem_append, not_or]
          exact ⟨⟨hno hright, hvalue.plain.2⟩, hno htrail'⟩
        simp only [splitSetting, strtokEq_cons hkeyleft hfront, strtokEq_last hvaluetrail hrear,
          Option.bind_eq_bind, Option.bind_some]
      have hkeytrim : trim (key ++ left) = key :=
        hkey.trim_eq (show ([] : List UInt8).all isBlank = true from rfl) hleft
      have hvaluetrim : trim (right ++ value ++ trail') = value := hvalue.trim_eq hright htrail'
      have hkept : ¬ (trim (ConfigLine.setting indent key left right value trail note).text = []
          ∨ (trim (ConfigLine.setting indent key left right value trail note).text).head?
            = some 0x23) := by
        rw [hback]
        simp [hhash]
      have hplain : ¬ (some c = some (0x5B : UInt8)) := fun heq => hbracket (Option.some.inj heq)
      simp only [if_neg hkept, hcut, hfirst, if_neg hplain, hsplit, hkeytrim, hvaluetrim]
      rfl

/-- The lines that `fgets` reads are those of the file. -/
theorem fgetsLines_fileText {lines : List ConfigLine} (h : ∀ line ∈ lines, line.Valid) :
    fgetsLines 1023 [] (fileText lines) = lines.map fun line => line.text ++ [0x0A] := by
  have hfile : fileText lines = (lines.map ConfigLine.text).flatMap fun line => line ++ [0x0A] := by
    rw [List.flatMap_map]
    rfl
  rw [hfile, fgetsLines_lines, List.map_map]
  · rfl
  · intro text htext
    obtain ⟨line, hline, rfl⟩ := List.mem_map.mp htext
    exact ⟨(h line hline).parts.oneLine.2, Nat.lt_succ_of_le (h line hline).fits⟩

end Lines

/-! ## The meaning of a file -/

/-- The root that a virtual host has at the end of its section, when it has `root` so far. -/
def rootIn (root : List UInt8) : List Statement → List UInt8
  | [] => root
  | .header _ :: _ => root
  | .setting key value :: rest =>
      rootIn (if key = ascii "root" then printTo 1024 value else root) rest

/-- The virtual hosts: each has the last `root` of its own section. -/
def vhostsOf : List Statement → List VHostEntry
  | [] => []
  | .header name :: rest =>
      if isVHost name = true then ⟨hostOf name, rootIn [] rest⟩ :: vhostsOf rest else vhostsOf rest
  | .setting _ _ :: rest => vhostsOf rest

/-- The settings that are in no section of a virtual host. -/
def globalsOf : (inVhost : Bool) → List Statement → List (List UInt8 × List UInt8)
  | _, [] => []
  | _, .header name :: rest => globalsOf (isVHost name) rest
  | true, .setting _ _ :: rest => globalsOf true rest
  | false, .setting key value :: rest => (key, value) :: globalsOf false rest

/-- Global settings, one after the other. -/
def setGlobals (settings : List (List UInt8 × List UInt8)) (c : Config) : Config :=
  settings.foldl (fun c s => setGlobal s.1 s.2 c) c

/-- **What a file means**: its global settings, in order, and its virtual hosts. -/
def meaning (config : Config) (statements : List Statement) : Config :=
  { setGlobals (globalsOf false statements) config with
    vhosts := config.vhosts ++ vhostsOf statements }

/-- The statements without the headers of virtual hosts for which there is no room. -/
def withinRoom : (room : Nat) → List Statement → List Statement
  | _, [] => []
  | room, .setting key value :: rest => .setting key value :: withinRoom room rest
  | room, .header name :: rest =>
      if isVHost name = true then
        if room = 0 then withinRoom room rest else .header name :: withinRoom (room - 1) rest
      else .header name :: withinRoom room rest

section Meaning

variable {c : Config} {vhosts : List VHostEntry} {statements : List Statement}

/-- A global setting and the virtual hosts have nothing to do with each other. -/
theorem setGlobal_with_vhosts (key value : List UInt8) (c : Config) (vhosts : List VHostEntry) :
    setGlobal key value { c with vhosts := vhosts }
      = { setGlobal key value c with vhosts := vhosts } := by
  have hall : ∀ s ∈ globalSettings, s.2 value { c with vhosts := vhosts }
      = { s.2 value c with vhosts := vhosts } := by
    simp only [globalSettings, List.forall_mem_cons]
    simp
  unfold setGlobal
  cases hfind : globalSettings.find? (fun s => s.1 = key) with
  | none => rfl
  | some s => exact hall s (List.mem_of_find?_eq_some hfind)

theorem setGlobal_vhosts (key value : List UInt8) (c : Config) :
    (setGlobal key value c).vhosts = c.vhosts := by
  calc (setGlobal key value c).vhosts
      = (setGlobal key value { c with vhosts := c.vhosts }).vhosts := rfl
    _ = ({ setGlobal key value c with vhosts := c.vhosts } : Config).vhosts :=
        congrArg Config.vhosts (setGlobal_with_vhosts key value c c.vhosts)
    _ = c.vhosts := rfl

theorem setGlobals_with_vhosts (settings : List (List UInt8 × List UInt8)) (c : Config)
    (vhosts : List VHostEntry) :
    setGlobals settings { c with vhosts := vhosts }
      = { setGlobals settings c with vhosts := vhosts } := by
  induction settings generalizing c with
  | nil => rfl
  | cons s settings ih =>
      show setGlobals settings (setGlobal s.1 s.2 { c with vhosts := vhosts }) = _
      rw [setGlobal_with_vhosts, ih]
      rfl

/-- The last virtual host changes, and no other. -/
theorem modify_last {α : Type} (f : α → α) (front : List α) (x : α) :
    (front ++ [x]).modify front.length f = front ++ [f x] := by
  induction front with
  | nil => rfl
  | cons y front ih => exact congrArg (y :: ·) ih

/-- The loader in a section of no virtual host, and in that of the last virtual host. -/
theorem obey_meaning (statements : List Statement) (c : Config)
    (hroom : c.vhosts.length + (vhostsOf statements).length ≤ maxVhosts) :
    (statements.foldl Loader.obey ⟨c, none⟩).config = meaning c statements ∧
    ∀ front host root, c.vhosts = front ++ [⟨host, root⟩] →
      (statements.foldl Loader.obey ⟨c, some front.length⟩).config
        = { setGlobals (globalsOf true statements) c with
            vhosts := front ++ ⟨host, rootIn root statements⟩ :: vhostsOf statements } := by
  induction statements generalizing c with
  | nil =>
      refine ⟨?_, fun front host root hvhosts => ?_⟩
      · show c = { c with vhosts := c.vhosts ++ [] }
        rw [List.append_nil]
      · show c = { c with vhosts := front ++ [⟨host, root⟩] }
        rw [← hvhosts]
  | cons statement statements ih =>
      cases statement with
      | setting key value =>
          refine ⟨?_, fun front host root hvhosts => ?_⟩
          · have hroom' : (setGlobal key value c).vhosts.length + (vhostsOf statements).length
                ≤ maxVhosts := by
              rw [setGlobal_vhosts]
              exact hroom
            have hrest := (ih (setGlobal key value c) hroom').1
            rw [List.foldl_cons]
            refine hrest.trans ?_
            simp only [meaning, setGlobal_vhosts]
            rfl
          · rw [List.foldl_cons]
            show (statements.foldl Loader.obey
              (Loader.assign ⟨c, some front.length⟩ key value)).config = _
            by_cases hkey : key = ascii "root"
            · have hassign : Loader.assign ⟨c, some front.length⟩ key value
                  = ⟨{ c with vhosts := front ++ [⟨host, printTo 1024 value⟩] },
                    some front.length⟩ := by
                simp only [Loader.assign, if_pos hkey, hvhosts]
                rw [modify_last]
              have hroom' : (front ++ [(⟨host, printTo 1024 value⟩ : VHostEntry)]).length
                  + (vhostsOf statements).length ≤ maxVhosts := by
                rw [hvhosts] at hroom
                simpa [vhostsOf] using hroom
              rw [hassign, (ih { c with vhosts := _ } hroom').2 front host _ rfl,
                setGlobals_with_vhosts]
              simp [rootIn, hkey, globalsOf, vhostsOf]
            · have hassign : Loader.assign ⟨c, some front.length⟩ key value
                  = ⟨c, some front.length⟩ := by
                simp only [Loader.assign, if_neg hkey]
              rw [hassign, (ih c hroom).2 front host root hvhosts]
              simp [rootIn, hkey, globalsOf, vhostsOf]
      | header name =>
          have henter (idx : Option Nat) :
              (statements.foldl Loader.obey (Loader.enter ⟨c, idx⟩ name)).config
                = { setGlobals (globalsOf (isVHost name) statements) c with
                    vhosts := c.vhosts ++ vhostsOf (.header name :: statements) } := by
            by_cases hvhost : isVHost name = true
            · have hlen : (vhostsOf (.header name :: statements)).length
                  = (vhostsOf statements).length + 1 := by
                simp [vhostsOf, hvhost]
              have hfree : c.vhosts.length < maxVhosts := by omega
              have hroom' : (c.vhosts ++ [(⟨hostOf name, []⟩ : VHostEntry)]).length
                  + (vhostsOf statements).length ≤ maxVhosts := by
                simp only [List.length_append, List.length_singleton]
                omega
              simp only [Loader.enter, hvhost, if_true, if_pos hfree]
              rw [(ih { c with vhosts := _ } hroom').2 c.vhosts _ _ rfl, setGlobals_with_vhosts]
              simp [vhostsOf, hvhost]
            · have hlen : vhostsOf (.header name :: statements) = vhostsOf statements := by
                simp [vhostsOf, hvhost]
              rw [hlen] at hroom ⊢
              simp only [Loader.enter, if_neg hvhost]
              rw [(ih c hroom).1, meaning, Bool.eq_false_of_not_eq_true hvhost]
          refine ⟨henter none, fun front host root hvhosts => ?_⟩
          refine (henter (some front.length)).trans ?_
          rw [hvhosts, List.append_assoc]
          rfl

/-- A header for which there is no room does not count. -/
theorem obey_withinRoom (statements : List Statement) (l : Loader)
    (hle : l.config.vhosts.length ≤ maxVhosts) :
    statements.foldl Loader.obey l
      = (withinRoom (maxVhosts - l.config.vhosts.length) statements).foldl Loader.obey l := by
  induction statements generalizing l with
  | nil => rfl
  | cons statement statements ih =>
      cases statement with
      | setting key value =>
          have hsame : (l.assign key value).config.vhosts.length = l.config.vhosts.length := by
            unfold Loader.assign
            split
            · split
              · exact List.length_modify _ _ _
              · rfl
            · rw [setGlobal_vhosts]
          rw [List.foldl_cons, withinRoom, List.foldl_cons]
          show statements.foldl Loader.obey (l.assign key value) = List.foldl _ (l.assign key value) _
          rw [ih _ (hsame.le.trans hle), hsame]
      | header name =>
          rw [List.foldl_cons]
          show statements.foldl Loader.obey (l.enter name) = _
          by_cases hvhost : isVHost name = true
          · rw [withinRoom, if_pos hvhost]
            by_cases hfree : l.config.vhosts.length < maxVhosts
            · have hlen : (l.enter name).config.vhosts.length = l.config.vhosts.length + 1 := by
                simp [Loader.enter, hvhost, hfree]
              have hroom : maxVhosts - (l.enter name).config.vhosts.length
                  = maxVhosts - l.config.vhosts.length - 1 := by omega
              rw [if_neg (by omega), ih _ (by omega), hroom, List.foldl_cons]
              rfl
            · have hsame : l.enter name = l := by simp [Loader.enter, hvhost, hfree]
              rw [hsame, if_pos (by omega), ih l hle]
          · have hsame : (l.enter name).config = l.config := by simp [Loader.enter, hvhost]
            rw [withinRoom, if_neg hvhost, List.foldl_cons]
            show _ = List.foldl _ (l.enter name) _
            rw [ih _ (by rw [hsame]; exact hle), hsame]

theorem vhostsOf_withinRoom (room : Nat) (statements : List Statement) :
    (vhostsOf (withinRoom room statements)).length ≤ room := by
  induction statements generalizing room with
  | nil => exact Nat.zero_le room
  | cons statement statements ih =>
      cases statement with
      | setting key value => exact ih room
      | header name =>
          by_cases hvhost : isVHost name = true
          · by_cases hroom : room = 0
            · simpa [withinRoom, hvhost, hroom] using ih 0
            · have hrest := ih (room - 1)
              simp only [withinRoom, if_pos hvhost, if_neg hroom, vhostsOf, List.length_cons]
              omega
          · simpa [withinRoom, hvhost, vhostsOf] using ih room

/-- With room for all of them, every header counts. -/
theorem withinRoom_eq {room : Nat} {statements : List Statement}
    (h : (vhostsOf statements).length ≤ room) : withinRoom room statements = statements := by
  induction statements generalizing room with
  | nil => rfl
  | cons statement statements ih =>
      cases statement with
      | setting key value => rw [withinRoom, ih h]
      | header name =>
          by_cases hvhost : isVHost name = true
          · simp only [vhostsOf, if_pos hvhost, List.length_cons] at h
            rw [withinRoom, if_pos hvhost, if_neg (by omega), ih (by omega)]
          · simp only [vhostsOf, if_neg hvhost] at h
            rw [withinRoom, if_neg hvhost, ih h]

end Meaning

/-- The loader obeys the statements of a file. -/
theorem foldl_lines {lines : List ConfigLine} (hlines : ∀ line ∈ lines, line.Valid) (l : Loader) :
    (lines.map fun line => line.text ++ [0x0A]).foldl Loader.line l
      = (lines.filterMap ConfigLine.statement).foldl Loader.obey l := by
  induction lines generalizing l with
  | nil => rfl
  | cons line lines ih =>
      rw [List.forall_mem_cons] at hlines
      rw [List.map_cons, List.foldl_cons, line_text hlines.1.parts, ih hlines.2]
      cases hstatement : line.statement with
      | none => rw [List.filterMap_cons_none hstatement]; rfl
      | some statement => rw [List.filterMap_cons_some hstatement]; rfl

/-- And so it finds their meaning. -/
theorem coreConfigLoad_meaning {config : Config} (hconfig : config.vhosts.length ≤ maxVhosts)
    {lines : List ConfigLine} (hlines : ∀ line ∈ lines, line.Valid) :
    coreConfigLoad config (some (fileText lines))
      = (0, meaning config (withinRoom (maxVhosts - config.vhosts.length)
          (lines.filterMap ConfigLine.statement))) := by
  have hcount := vhostsOf_withinRoom (maxVhosts - config.vhosts.length)
    (lines.filterMap ConfigLine.statement)
  have hroom : config.vhosts.length
      + (vhostsOf (withinRoom (maxVhosts - config.vhosts.length)
          (lines.filterMap ConfigLine.statement))).length ≤ maxVhosts := by omega
  rw [coreConfigLoad, fgetsLines_fileText hlines, foldl_lines hlines,
    obey_withinRoom _ ⟨config, none⟩ hconfig]
  exact congrArg (Prod.mk 0) (obey_meaning _ config hroom).1

/-- **The loader finds the meaning of a file** in every layout, where a header of a virtual host for
which there is no room does not count: its settings go to the section in front of it. With room for
all virtual hosts, the meaning is that of the file as it is written. -/
theorem coreConfigLoad_text {config : Config} (hconfig : config.vhosts.length ≤ maxVhosts)
    {lines : List ConfigLine} (hlines : ∀ line ∈ lines, line.Valid) :
    let statements := lines.filterMap ConfigLine.statement
    coreConfigLoad config (some (fileText lines))
        = (0, meaning config (withinRoom (maxVhosts - config.vhosts.length) statements))
      ∧ (config.vhosts.length + (vhostsOf statements).length ≤ maxVhosts →
          coreConfigLoad config (some (fileText lines)) = (0, meaning config statements)) := by
  intro statements
  have hload : coreConfigLoad config (some (fileText lines))
      = (0, meaning config (withinRoom (maxVhosts - config.vhosts.length) statements)) :=
    coreConfigLoad_meaning hconfig hlines
  refine ⟨hload, fun hfits => ?_⟩
  rw [hload, withinRoom_eq (by omega)]

/-- A comment, a global setting, and a virtual host with its root and a comment behind it. -/
theorem coreConfigLoad_text_sample :
    let lines := [ConfigLine.comment [] (ascii " server"),
      .setting [0x20] (ascii "server_port") [0x20] [] (ascii "8080") [] none,
      .header [] (ascii "VHost: a.b") [],
      .setting [] (ascii "root") [] [0x20] (ascii "/srv") [0x20] (some (ascii "here"))]
    coreConfigLoad .empty (some (fileText lines))
        = (0, { Config.empty with
            serverPort := 8080, vhosts := [⟨ascii "a.b", ascii "/srv"⟩] }) := by
  intro lines
  have hlines : ∀ line ∈ lines, line.Valid := by
    simp only [lines, List.forall_mem_cons]
    refine ⟨⟨⟨rfl, by decide, by decide⟩, by decide⟩, ⟨⟨rfl, ?_, by decide, rfl, rfl, ?_, rfl,
      by decide, by decide⟩, by decide⟩, ⟨⟨rfl, by decide, by decide, ⟨by decide, by decide⟩,
      by decide, by decide, by decide, by decide⟩, by decide⟩, ⟨⟨rfl, ?_, by decide, rfl, rfl, ?_,
      rfl, by decide, by decide⟩, by decide⟩, fun _ h => (by cases h)⟩
    all_goals exact .of_ends (by decide) (by decide) (by decide) (by decide) (by decide)
  refine ((@coreConfigLoad_text .empty (by decide) lines hlines).2 (by decide)).trans ?_
  rfl

end Halmos.Core.ConfigFile
