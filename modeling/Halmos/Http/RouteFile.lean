import Halmos.Basic.Buffer
import Halmos.Http1.Routes

set_option autoImplicit false

/-! # The file of routes

`_vhost_load_single_route_file` of `halmos_http_vhost.c` in memory: the lines of `.htroute`, the
scan of a line into five arrays, and the names of the variables. The conversions of the scan have no
width, so that a field that is too long is written behind its array. Nothing else is
(`routeFile_safe_iff`).
-/

namespace Halmos.Http.RouteFile

open Http1 (RouteType FcgiBackend)

/-! ## The data -/

/-- `MAX_ROUTES`. -/
def maxRoutes : Nat := 100

/-- `RouteTable`. -/
structure RouteEntry where
  type : RouteType
  source : Buffer 64
  target : Buffer 128
  fcgiType : FcgiBackend
  varNames : Vector (Buffer 32) 10
  varCount : Nat

/-- `routes` and `total_routes` of a `VHostEntry`. -/
structure VHostRoutes where
  routes : Vector RouteEntry maxRoutes
  totalRoutes : Nat

/-- The variables of the loader: `line`, `type_str` and `fcgi_str`, whose bytes are whatever was in
the memory before, and `temp_count`. -/
structure Loader where
  routes : Vector RouteEntry maxRoutes
  line : Buffer 512
  typeStr : Buffer 16
  fcgiStr : Buffer 16
  tempCount : Nat

/-- The arrays that `sscanf` writes to. -/
structure ScanArgs where
  typeStr : Buffer 16
  source : Buffer 64
  target : Buffer 128
  fcgiStr : Buffer 16
  varsStr : Buffer 256

/-! ## Strings in arrays -/

section Strings

variable {n : Nat}

/-- The string a pointer to `buf[pos]` denotes. -/
def strFrom (buf : Buffer n) (pos : Nat) : Option (List UInt8) :=
  if 0 ∈ buf.bytes.drop pos then some (cstr (buf.bytes.drop pos)) else none

/-- The loop of `trim_whitespace` over the `len` bytes at `pos`. -/
def trimLoop (buf : Buffer n) (pos : Nat) : Nat → Option (Buffer n)
  | 0 => some buf
  | len + 1 => do
      let c ← buf.bytes[pos + len]?
      if c ∈ [0x20, 0x0D, 0x0A, 0x09] then do
        let buf ← buf.write (pos + len) 0
        trimLoop buf pos len
      else some buf

/-- `trim_whitespace(buf + pos)`. -/
def trimWhitespace (buf : Buffer n) (pos : Nat) : Option (Buffer n) := do
  let s ← strFrom buf pos
  trimLoop buf pos s.length

/-- `strtok(.., ",")` on what is left of the string, from `pos` on: where the token is and where the
next call goes on, and the array with the NUL behind the token. -/
def strtokComma (buf : Buffer n) (pos : Nat) : Option (Option (Nat × Nat) × Buffer n) := do
  let s ← strFrom buf pos
  let skipped := (s.takeWhile (fun c => c = 0x2C)).length
  let left := s.drop skipped
  if left = [] then some (none, buf)
  else
    let stop := pos + skipped + (left.takeWhile (fun c => c ≠ 0x2C)).length
    if stop = pos + s.length then some (some (pos + skipped, stop), buf)
    else do
      let buf ← buf.write stop 0
      some (some (pos + skipped, stop + 1), buf)

/-- `strncpy(buf, s, count)`. -/
def strncpy (buf : Buffer n) (s : List UInt8) (count : Nat) : Option (Buffer n) :=
  buf.copy 0 ((s ++ List.replicate count 0).take count)

end Strings

/-! ## The scan of a line -/

/-- The fields that the conversions `%[^|]|..|%[^\n]` read, given by the byte each of them stops at:
a field is not empty, and a `|` leads to the next one. -/
def scanFields : List UInt8 → List UInt8 → List (List UInt8)
  | [], _ => []
  | stop :: stops, s =>
      let field := s.takeWhile (fun c => c ≠ stop)
      if field = [] then []
      else
        match s.drop field.length with
        | [] => [field]
        | _ :: rest => field :: scanFields stops rest

/-- The fields of `TYPE|SOURCE|TARGET|FCGI_TYPE|VARS`; what `sscanf` returns is their number, or
`EOF` for an empty line. -/
def fields (line : List UInt8) : List (List UInt8) := scanFields [0x7C, 0x7C, 0x7C, 0x7C, 0x0A] line

/-- The conversion number `i` writes its field, with a NUL behind it. -/
def ScanArgs.put (a : ScanArgs) : Nat → List UInt8 → Option ScanArgs
  | 0, field => do let b ← a.typeStr.copy 0 (field ++ [0]); some { a with typeStr := b }
  | 1, field => do let b ← a.source.copy 0 (field ++ [0]); some { a with source := b }
  | 2, field => do let b ← a.target.copy 0 (field ++ [0]); some { a with target := b }
  | 3, field => do let b ← a.fcgiStr.copy 0 (field ++ [0]); some { a with fcgiStr := b }
  | _ + 4, field => do let b ← a.varsStr.copy 0 (field ++ [0]); some { a with varsStr := b }

/-- The conversions from number `i` on. -/
def sscanf (a : ScanArgs) : Nat → List (List UInt8) → Option ScanArgs
  | _, [] => some a
  | i, field :: rest => do
      let a ← a.put i field
      sscanf a (i + 1) rest

/-! ## The loader -/

/-- The loop over the tokens of `vars_str`, where `left` names are free. -/
def nameLoop : Nat → Option (Nat × Nat) → Buffer 256 → RouteEntry → Option RouteEntry
  | left + 1, some (token, next), varsStr, rt => do
      let varsStr ← trimWhitespace varsStr token
      let text ← strFrom varsStr token
      let name ← rt.varNames[rt.varCount]?
      let name ← strncpy name text 31
      let rt := { rt with
        varNames := rt.varNames.setIfInBounds rt.varCount name, varCount := rt.varCount + 1 }
      let (token, varsStr) ← strtokComma varsStr next
      nameLoop left token varsStr rt
  | _, _, _, rt => some rt

/-- The variables between the brackets of `vars_str`. -/
def readNames (varsStr : Buffer 256) (rt : RouteEntry) : Option RouteEntry := do
  let text ← varsStr.str
  match text.idxOf? 0x5B, text.idxOf? 0x5D with
  | some start, some stop => do
      let varsStr ← varsStr.write stop 0
      let (token, varsStr) ← strtokComma varsStr (start + 1)
      nameLoop 10 token varsStr rt
  | _, _ => some rt

/-- The type of a route, by the first field. -/
def routeType (typeStr : List UInt8) : RouteType :=
  if typeStr = ascii "QUERY" then .query else if typeStr = ascii "PATH" then .path else .none

/-- The backend of a route, by the fourth field. -/
def fcgiType (fcgiStr : List UInt8) : FcgiBackend :=
  if fcgiStr = ascii "FCGI_PY" then .py
  else if fcgiStr = ascii "FCGI_RS" then .rs
  else if fcgiStr = ascii "FCGI_PHP" then .php
  else .php

/-- A line with at least four fields becomes a route. -/
def fillEntry (a : ScanArgs) (n : Nat) (rt : RouteEntry) : Option (ScanArgs × RouteEntry) := do
  let typeStr ← trimWhitespace a.typeStr 0
  let source ← trimWhitespace a.source 0
  let target ← trimWhitespace a.target 0
  let fcgiStr ← trimWhitespace a.fcgiStr 0
  let typeText ← typeStr.str
  let fcgiText ← fcgiStr.str
  let rt := { rt with
    type := routeType typeText, source := source, target := target, fcgiType := fcgiType fcgiText,
    varCount := 0 }
  let rt ← if n = 5 ∧ rt.type = .query then readNames a.varsStr rt else some rt
  some (⟨typeStr, source, target, fcgiStr, a.varsStr⟩, rt)

/-- A comment or an empty line, by its first byte. -/
def isSkipped (c : UInt8) : Bool := c ∈ [0x23, 0x0A, 0x0D, 0x20]

/-- A round of the loop, with the line that `fgets` has read. -/
def loadLine (s : Loader) : Option Loader := do
  let c ← s.line.bytes[0]?
  if isSkipped c then some s
  else do
    let rt ← s.routes[s.tempCount]?
    let text ← s.line.str
    let n := (fields text).length
    let a ← sscanf ⟨s.typeStr, rt.source, rt.target, s.fcgiStr, Buffer.zeros 256⟩ 0 (fields text)
    if 4 ≤ n then do
      let (a, rt) ← fillEntry a n rt
      some { s with
        routes := s.routes.setIfInBounds s.tempCount rt
        typeStr := a.typeStr, fcgiStr := a.fcgiStr, tempCount := s.tempCount + 1 }
    else
      let rt := { rt with source := a.source, target := a.target }
      some { s with
        routes := s.routes.setIfInBounds s.tempCount rt, typeStr := a.typeStr, fcgiStr := a.fcgiStr }

/-- `while (fgets(line, sizeof(line), fp) && temp_count < MAX_ROUTES)`, with the lines of the
file. -/
def loadLoop : List (List UInt8) → Loader → Option Loader
  | [], s => some s
  | chunk :: chunks, s => do
      let line ← s.line.copy 0 (chunk ++ [0])
      if s.tempCount < maxRoutes then do
        let s ← loadLine { s with line := line }
        loadLoop chunks s
      else some { s with line := line }

/-- What is in `line`, `type_str` and `fcgi_str` when the function is entered. -/
structure Locals where
  line : Buffer 512
  typeStr : Buffer 16
  fcgiStr : Buffer 16

/-- `_vhost_load_single_route_file(vh, path)`; there is no file when `fopen` fails. -/
def vhostLoadSingleRouteFile (vh : VHostRoutes) (locals : Locals) (file : Option (List UInt8)) :
    Option VHostRoutes :=
  match file with
  | none => some vh
  | some content => do
      let s ← loadLoop (fgetsLines 511 [] content)
        ⟨vh.routes, locals.line, locals.typeStr, locals.fcgiStr, 0⟩
      some ⟨s.routes, s.tempCount⟩

/-- What `http_vhost_reload_routes` does with a virtual host: a new file is loaded, and the routes
go when there is no file any more. -/
inductive Reload where
  | load (locals : Locals) (file : Option (List UInt8))
  | reset

def VHostRoutes.reload (vh : VHostRoutes) : Reload → Option VHostRoutes
  | .load locals file => vhostLoadSingleRouteFile vh locals file
  | .reset => some { vh with totalRoutes := 0 }

/-- `config = {0}`. -/
def RouteEntry.zero : RouteEntry :=
  ⟨.none, Buffer.zeros 64, Buffer.zeros 128, .php, Vector.replicate 10 (Buffer.zeros 32), 0⟩

def VHostRoutes.zero : VHostRoutes := ⟨Vector.replicate maxRoutes .zero, 0⟩

/-- One reload after the other. -/
def reloads : List Reload → VHostRoutes → Option VHostRoutes
  | [], vh => some vh
  | r :: rs, vh => do
      let vh ← vh.reload r
      reloads rs vh

/-! ## Strings that end in their array -/

section Ends

variable {n : Nat} {buf : Buffer n} {k pos : Nat}

/-- There is a NUL at `buf[k]`. -/
def EndsAt (buf : Buffer n) (k : Nat) : Prop := buf.bytes[k]? = some 0

theorem EndsAt.lt (h : EndsAt buf k) : k < n := by
  obtain ⟨hk, -⟩ := List.getElem?_eq_some_iff.mp h
  rwa [buf.length_eq] at hk

/-- A string that begins in front of the NUL does not go past it. -/
theorem EndsAt.strFrom_eq (h : EndsAt buf k) (hpos : pos ≤ k) :
    ∃ s, strFrom buf pos = some s ∧ pos + s.length ≤ k := by
  have hdrop : (buf.bytes.drop pos)[k - pos]? = some 0 := by
    rw [List.getElem?_drop, Nat.add_sub_cancel' hpos]
    exact h
  have hmem : 0 ∈ buf.bytes.drop pos := List.mem_of_getElem? hdrop
  refine ⟨_, if_pos hmem, ?_⟩
  by_contra hlong
  -- then the NUL would be a byte of the string
  obtain ⟨rest, hrest⟩ := cstr_isPrefix (buf.bytes.drop pos)
  rw [← hrest, List.getElem?_append_left (by omega)] at hdrop
  exact zero_notMem_cstr _ (List.mem_of_getElem? hdrop)

theorem EndsAt.str_isSome (h : EndsAt buf k) : buf.str.isSome := by
  have hmem : 0 ∈ buf.bytes := List.mem_of_getElem? h
  rw [Buffer.str, if_pos hmem]
  rfl

theorem EndsAt.write_zero (h : EndsAt buf k) (pos : Nat) (hpos : pos ≤ k) :
    ∃ buf', buf.write pos 0 = some buf' ∧ EndsAt buf' k := by
  have hk := h.lt
  obtain ⟨buf', hwrite, hbytes⟩ := buf.write_eq 0 (hpos.trans_lt hk)
  refine ⟨buf', hwrite, ?_⟩
  have hlen : pos < buf.bytes.length := by
    rw [buf.length_eq]
    omega
  rw [EndsAt, hbytes]
  by_cases heq : pos = k
  · rw [← heq, List.getElem?_set_self hlen]
  · rw [List.getElem?_set_ne heq]
    exact h

theorem EndsAt.trimLoop_eq {len : Nat} (h : EndsAt buf k) (hlen : pos + len ≤ k) :
    ∃ buf', trimLoop buf pos len = some buf' ∧ EndsAt buf' k := by
  induction len generalizing buf with
  | zero => exact ⟨buf, rfl, h⟩
  | succ len ih =>
      have hin : pos + len < buf.bytes.length := by
        rw [buf.length_eq]
        have := h.lt
        omega
      rw [trimLoop, List.getElem?_eq_getElem hin, Option.bind_eq_bind, Option.bind_some]
      split
      · obtain ⟨buf', hwrite, hends⟩ := h.write_zero (pos + len) (by omega)
        rw [hwrite, Option.bind_eq_bind, Option.bind_some]
        exact ih hends (by omega)
      · exact ⟨buf, rfl, h⟩

theorem EndsAt.trimWhitespace_eq (h : EndsAt buf k) (hpos : pos ≤ k) :
    ∃ buf', trimWhitespace buf pos = some buf' ∧ EndsAt buf' k := by
  obtain ⟨s, hs, hlen⟩ := h.strFrom_eq hpos
  obtain ⟨buf', hloop, hends⟩ := h.trimLoop_eq hlen
  refine ⟨buf', ?_, hends⟩
  rw [trimWhitespace, hs, Option.bind_eq_bind, Option.bind_some, hloop]

/-- A token, and where the next call goes on, are in front of the NUL. -/
theorem EndsAt.strtokComma_eq (h : EndsAt buf k) (pos : Nat) (hpos : pos ≤ k) :
    ∃ token buf', strtokComma buf pos = some (token, buf') ∧ EndsAt buf' k ∧
      ∀ p ∈ token, p.1 ≤ k ∧ p.2 ≤ k := by
  obtain ⟨s, hs, hlen⟩ := h.strFrom_eq hpos
  rw [strtokComma, hs, Option.bind_eq_bind, Option.bind_some]
  have hskip : (s.takeWhile (fun c => c = 0x2C)).length ≤ s.length :=
    (List.takeWhile_prefix _).length_le
  generalize (s.takeWhile (fun c => c = 0x2C)).length = skipped at hskip ⊢
  have htoken : ((s.drop skipped).takeWhile (fun c => c ≠ 0x2C)).length ≤ s.length - skipped := by
    rw [← List.length_drop]
    exact (List.takeWhile_prefix _).length_le
  dsimp only
  generalize ((s.drop skipped).takeWhile (fun c => c ≠ 0x2C)).length = tokenLen at htoken ⊢
  split
  · exact ⟨none, buf, rfl, h, fun p hp => nomatch hp⟩
  · split
    · next hend =>
        refine ⟨_, buf, rfl, h, fun p hp => ?_⟩
        obtain rfl := Option.some.inj hp
        exact ⟨by dsimp only; omega, by dsimp only; omega⟩
    · next hmore =>
        obtain ⟨buf', hwrite, hends⟩ := h.write_zero (pos + skipped + tokenLen) (by omega)
        rw [hwrite, Option.bind_eq_bind, Option.bind_some]
        refine ⟨_, buf', rfl, hends, fun p hp => ?_⟩
        obtain rfl := Option.some.inj hp
        exact ⟨by dsimp only; omega, by dsimp only; omega⟩

/-- A field and its NUL are written exactly if there is room for both. -/
theorem copy_field (buf : Buffer n) {field : List UInt8} (h : field.length < n) :
    ∃ buf', buf.copy 0 (field ++ [0]) = some buf' ∧ EndsAt buf' field.length := by
  have hroom : 0 + (field ++ [0]).length ≤ n := by
    rw [List.length_append, List.length_singleton]
    omega
  obtain ⟨buf', hcopy, hbytes⟩ := buf.copy_eq hroom
  refine ⟨buf', hcopy, ?_⟩
  rw [EndsAt, hbytes, List.take_zero, List.nil_append, List.append_assoc]
  simp

theorem copy_field_none (buf : Buffer n) {field : List UInt8} (h : n ≤ field.length) :
    buf.copy 0 (field ++ [0]) = none := by
  refine dif_neg ?_
  rw [List.length_append, List.length_singleton]
  omega

/-- `strncpy` of 31 bytes leaves the last byte of a name alone. -/
theorem strncpy_name {name : Buffer 32} (h : EndsAt name 31) (s : List UInt8) :
    ∃ name', strncpy name s 31 = some name' ∧ EndsAt name' 31 := by
  have hlen : ((s ++ List.replicate 31 0).take 31).length = 31 := by
    simp
  obtain ⟨name', hcopy, hbytes⟩ := name.copy_eq (s := (s ++ List.replicate 31 0).take 31)
    (i := 0) (by omega)
  refine ⟨name', hcopy, ?_⟩
  rw [EndsAt, hbytes, List.take_zero, List.nil_append, List.getElem?_append_right (by omega), hlen,
    List.getElem?_drop]
  exact h

end Ends

/-! ## Entries -/

/-- The strings of a route end in their arrays, and there are no more than ten names. -/
structure RouteEntry.WellFormed (rt : RouteEntry) : Prop where
  source : rt.source.str.isSome
  target : rt.target.str.isSome
  varCount_le : rt.varCount ≤ 10
  varNames : ∀ j (h : j < 10), j < rt.varCount → rt.varNames[j].str.isSome

def VHostRoutes.WellFormed (vh : VHostRoutes) : Prop :=
  ∀ i (h : i < maxRoutes), i < vh.totalRoutes → vh.routes[i].WellFormed

/-- The last byte of every name is the NUL it was at the start. -/
def RouteEntry.NamesEnd (rt : RouteEntry) : Prop := ∀ j (h : j < 10), EndsAt rt.varNames[j] 31

theorem nameLoop_eq {left k : Nat} {token : Option (Nat × Nat)} {varsStr : Buffer 256}
    {rt : RouteEntry} (hleft : rt.varCount + left = 10) (hnames : rt.NamesEnd)
    (hends : EndsAt varsStr k) (htoken : ∀ p ∈ token, p.1 ≤ k ∧ p.2 ≤ k) :
    ∃ rt', nameLoop left token varsStr rt = some rt' ∧ rt'.NamesEnd ∧ rt'.varCount ≤ 10 ∧
      rt'.source = rt.source ∧ rt'.target = rt.target := by
  induction left generalizing token varsStr rt with
  | zero => exact ⟨rt, by cases token <;> rfl, hnames, by omega, rfl, rfl⟩
  | succ left ih =>
      cases token with
      | none => exact ⟨rt, rfl, hnames, by omega, rfl, rfl⟩
      | some p =>
          obtain ⟨start, next⟩ := p
          obtain ⟨hstart, hnext⟩ := htoken _ rfl
          have hcount : rt.varCount < 10 := by omega
          obtain ⟨trimmed, htrim, htrimmed⟩ := hends.trimWhitespace_eq hstart
          obtain ⟨text, htext, -⟩ := htrimmed.strFrom_eq hstart
          obtain ⟨name, hname, hnameEnds⟩ := strncpy_name (hnames rt.varCount hcount) text
          obtain ⟨token', cut, hcut, hcutEnds, htoken'⟩ := htrimmed.strtokComma_eq next hnext
          simp only [nameLoop, htrim, htext, Vector.getElem?_eq_getElem hcount, hname, hcut,
            Option.bind_eq_bind, Option.bind_some]
          refine ih (by dsimp only; omega) (fun j hj => ?_) hcutEnds htoken'
          rw [Vector.getElem_setIfInBounds hj]
          split
          · exact hnameEnds
          · exact hnames j hj

theorem readNames_eq {k : Nat} {varsStr : Buffer 256} (hends : EndsAt varsStr k) (rt : RouteEntry)
    (hcount : rt.varCount = 0) (hnames : rt.NamesEnd) :
    ∃ rt', readNames varsStr rt = some rt' ∧ rt'.NamesEnd ∧ rt'.varCount ≤ 10 ∧
      rt'.source = rt.source ∧ rt'.target = rt.target := by
  obtain ⟨text, htext, hlen⟩ := hends.strFrom_eq (Nat.zero_le k)
  have hstr : varsStr.str = some text := htext
  have hleave : ∃ rt', some rt = some rt' ∧ rt'.NamesEnd ∧ rt'.varCount ≤ 10 ∧
      rt'.source = rt.source ∧ rt'.target = rt.target :=
    ⟨rt, rfl, hnames, by omega, rfl, rfl⟩
  rw [readNames, hstr, Option.bind_eq_bind, Option.bind_some]
  cases hstart : text.idxOf? 0x5B with
  | none => exact hleave
  | some start =>
      cases hstop : text.idxOf? 0x5D with
      | none => exact hleave
      | some stop =>
          have hstartlt := (List.idxOf?_eq_some_iff.mp hstart).1
          have hstoplt := (List.idxOf?_eq_some_iff.mp hstop).1
          obtain ⟨cut, hcut, hcutEnds⟩ := hends.write_zero stop (by omega)
          obtain ⟨token, cut', htok, hcutEnds', htoken⟩ :=
            hcutEnds.strtokComma_eq (start + 1) (by omega)
          simp only [hcut, htok, Option.bind_eq_bind, Option.bind_some]
          exact nameLoop_eq (by omega) hnames hcutEnds' htoken

theorem RouteEntry.wellFormed_of {rt : RouteEntry} (hsource : rt.source.str.isSome)
    (htarget : rt.target.str.isSome) (hcount : rt.varCount ≤ 10) (hnames : rt.NamesEnd) :
    rt.WellFormed :=
  ⟨hsource, htarget, hcount, fun j hj _ => (hnames j hj).str_isSome⟩

/-! ## The scan -/

theorem scanFields_length_le (stops s : List UInt8) : (scanFields stops s).length ≤ stops.length := by
  induction stops generalizing s with
  | nil => exact Nat.le_refl 0
  | cons stop stops ih =>
      rw [scanFields]
      split
      · exact Nat.zero_le _
      · split
        · simp
        · simpa using ih _

/-- The sizes of `type_str`, `source`, `target`, `fcgi_str` and `vars_str`. -/
def fieldSizes : List Nat := [16, 64, 128, 16, 256]

/-- Every field, with its NUL, has room in the array it is written to. -/
def FieldsFit (line : List UInt8) : Prop :=
  ∀ p ∈ (fields line).zip fieldSizes, p.1.length < p.2

instance (line : List UInt8) : Decidable (FieldsFit line) :=
  inferInstanceAs (Decidable (∀ p ∈ _, _))

/-- The array that the conversion number `i` writes to holds a string. -/
def ScanArgs.Ends (a : ScanArgs) : Nat → Prop
  | 0 => ∃ k, EndsAt a.typeStr k
  | 1 => ∃ k, EndsAt a.source k
  | 2 => ∃ k, EndsAt a.target k
  | 3 => ∃ k, EndsAt a.fcgiStr k
  | _ + 4 => ∃ k, EndsAt a.varsStr k

/-- A conversion needs its field to fit, and leaves the other arrays alone. -/
theorem ScanArgs.put_eq (a : ScanArgs) {i size : Nat} (hsize : fieldSizes[i]? = some size)
    {field : List UInt8} (hfit : field.length < size) :
    ∃ a', a.put i field = some a' ∧ a'.Ends i ∧ ∀ j < i, a.Ends j → a'.Ends j := by
  rcases i with _ | _ | _ | _ | _ | i
  · obtain rfl := Option.some.inj hsize
    obtain ⟨b, hb, hends⟩ := copy_field a.typeStr hfit
    exact ⟨{ a with typeStr := b }, by rw [put, hb]; rfl, ⟨_, hends⟩, fun j hj => by omega⟩
  · obtain rfl := Option.some.inj hsize
    obtain ⟨b, hb, hends⟩ := copy_field a.source hfit
    refine ⟨{ a with source := b }, by rw [put, hb]; rfl, ⟨_, hends⟩, fun j hj h => ?_⟩
    obtain rfl : j = 0 := by omega
    exact h
  · obtain rfl := Option.some.inj hsize
    obtain ⟨b, hb, hends⟩ := copy_field a.target hfit
    refine ⟨{ a with target := b }, by rw [put, hb]; rfl, ⟨_, hends⟩, fun j hj h => ?_⟩
    interval_cases j <;> exact h
  · obtain rfl := Option.some.inj hsize
    obtain ⟨b, hb, hends⟩ := copy_field a.fcgiStr hfit
    refine ⟨{ a with fcgiStr := b }, by rw [put, hb]; rfl, ⟨_, hends⟩, fun j hj h => ?_⟩
    interval_cases j <;> exact h
  · obtain rfl := Option.some.inj hsize
    obtain ⟨b, hb, hends⟩ := copy_field a.varsStr hfit
    refine ⟨{ a with varsStr := b }, by rw [put, hb]; rfl, ⟨_, hends⟩, fun j hj h => ?_⟩
    interval_cases j <;> exact h
  · cases hsize

theorem ScanArgs.put_none (a : ScanArgs) {i size : Nat} (hsize : fieldSizes[i]? = some size)
    {field : List UInt8} (hlong : size ≤ field.length) : a.put i field = none := by
  rcases i with _ | _ | _ | _ | _ | i
  case succ.succ.succ.succ.succ => cases hsize
  all_goals
    obtain rfl := Option.some.inj hsize
    rw [put, copy_field_none _ hlong]
    rfl

/-- The conversions from number `i` on: all of them write inside exactly if the fields fit, and
every array written to holds a string then. -/
theorem sscanf_eq (a : ScanArgs) {i : Nat} {fs : List (List UInt8)} (hlen : i + fs.length ≤ 5)
    (hends : ∀ j < i, a.Ends j) :
    ((∀ p ∈ fs.zip (fieldSizes.drop i), p.1.length < p.2) →
      ∃ a', sscanf a i fs = some a' ∧ ∀ j < i + fs.length, a'.Ends j) ∧
    ((¬ ∀ p ∈ fs.zip (fieldSizes.drop i), p.1.length < p.2) → sscanf a i fs = none) := by
  induction fs generalizing a i with
  | nil =>
      rw [List.zip_nil_left]
      exact ⟨fun _ => ⟨a, rfl, by simpa using hends⟩, fun h => absurd (fun p hp => nomatch hp) h⟩
  | cons field fs ih =>
      rw [List.length_cons] at hlen
      have hi : i < fieldSizes.length := by
        show i < 5
        omega
      rw [← List.cons_getElem_drop_succ (h := hi), List.zip_cons_cons, List.forall_mem_cons]
      have hsize : fieldSizes[i]? = some fieldSizes[i] := List.getElem?_eq_getElem hi
      by_cases hfit : field.length < fieldSizes[i]
      · obtain ⟨a', hput, hnew, hold⟩ := a.put_eq hsize hfit
        obtain ⟨hall, hnot⟩ := ih a' (i := i + 1) (by omega) fun j hj => by
          by_cases hji : j = i
          · rwa [hji]
          · exact hold j (by omega) (hends j (by omega))
        rw [sscanf, hput, Option.bind_eq_bind, Option.bind_some]
        refine ⟨fun h => ?_, fun h => hnot fun hrest => h ⟨hfit, hrest⟩⟩
        obtain ⟨a'', hscan, hends'⟩ := hall h.2
        exact ⟨a'', hscan, fun j hj => hends' j (by rw [List.length_cons] at hj; omega)⟩
      · refine ⟨fun h => absurd h.1 hfit, fun _ => ?_⟩
        rw [sscanf, a.put_none hsize (not_lt.mp hfit)]
        rfl

/-- A line with four fields becomes a route whose strings end. -/
theorem fillEntry_eq {a : ScanArgs} {n : Nat} {rt : RouteEntry} (hn : 4 ≤ n)
    (hends : ∀ j < n, a.Ends j) (hnames : rt.NamesEnd) :
    ∃ a' rt', fillEntry a n rt = some (a', rt') ∧ rt'.WellFormed ∧ rt'.NamesEnd := by
  obtain ⟨kt, htype⟩ := hends 0 (by omega)
  obtain ⟨ks, hsource⟩ := hends 1 (by omega)
  obtain ⟨ku, htarget⟩ := hends 2 (by omega)
  obtain ⟨kf, hfcgi⟩ := hends 3 (by omega)
  obtain ⟨typeStr, htrimType, htypeEnds⟩ := htype.trimWhitespace_eq (Nat.zero_le _)
  obtain ⟨source, htrimSource, hsourceEnds⟩ := hsource.trimWhitespace_eq (Nat.zero_le _)
  obtain ⟨target, htrimTarget, htargetEnds⟩ := htarget.trimWhitespace_eq (Nat.zero_le _)
  obtain ⟨fcgiStr, htrimFcgi, hfcgiEnds⟩ := hfcgi.trimWhitespace_eq (Nat.zero_le _)
  obtain ⟨typeText, htypeText⟩ := Option.isSome_iff_exists.mp htypeEnds.str_isSome
  obtain ⟨fcgiText, hfcgiText⟩ := Option.isSome_iff_exists.mp hfcgiEnds.str_isSome
  simp only [fillEntry, htrimType, htrimSource, htrimTarget, htrimFcgi, htypeText, hfcgiText,
    Option.bind_eq_bind, Option.bind_some]
  split
  · next hquery =>
      obtain ⟨kv, hvars⟩ := hends 4 (by omega)
      obtain ⟨rt', hread, hnames', hcount, hs, ht⟩ := readNames_eq hvars ⟨routeType typeText, source,
        target, fcgiType fcgiText, rt.varNames, 0⟩ rfl hnames
      rw [hread, Option.bind_some]
      exact ⟨_, rt', rfl, RouteEntry.wellFormed_of (hs ▸ hsourceEnds.str_isSome)
        (ht ▸ htargetEnds.str_isSome) hcount hnames', hnames'⟩
  · exact ⟨_, _, rfl, RouteEntry.wellFormed_of hsourceEnds.str_isSome htargetEnds.str_isSome
      (Nat.zero_le 10) hnames, hnames⟩

/-! ## The loop -/

/-- The texts of the lines that are scanned, until there are `MAX_ROUTES` routes. -/
def scannedLines : List (List UInt8) → Nat → List (List UInt8)
  | [], _ => []
  | chunk :: chunks, count =>
      if maxRoutes ≤ count then []
      else if chunk.head?.any isSkipped then scannedLines chunks count
      else
        cstr chunk ::
          scannedLines chunks (if 4 ≤ (fields (cstr chunk)).length then count + 1 else count)

/-- The fields of every line of the file that is scanned have room in their arrays. -/
def FileFits (content : List UInt8) : Prop :=
  ∀ line ∈ scannedLines (fgetsLines 511 [] content) 0, FieldsFit line

instance (content : List UInt8) : Decidable (FileFits content) :=
  inferInstanceAs (Decidable (∀ line ∈ _, _))

/-- The routes loaded so far are well formed. -/
structure Loader.Inv (s : Loader) : Prop where
  namesEnd : ∀ i (h : i < maxRoutes), s.routes[i].NamesEnd
  wellFormed : ∀ i (h : i < maxRoutes), i < s.tempCount → s.routes[i].WellFormed
  tempCount_le : s.tempCount ≤ maxRoutes

/-- Another entry in place of the one that is filled next. -/
theorem Loader.Inv.set {s s' : Loader} {rt : RouteEntry} (h : s.Inv) (hcount : s.tempCount < maxRoutes)
    (hroutes : s'.routes = s.routes.setIfInBounds s.tempCount rt) (hnames : rt.NamesEnd)
    (hcount' : s'.tempCount = s.tempCount ∨ s'.tempCount = s.tempCount + 1 ∧ rt.WellFormed) :
    s'.Inv := by
  refine ⟨fun i hi => ?_, fun i hi hlt => ?_, by omega⟩
  · rw [hroutes, Vector.getElem_setIfInBounds hi]
    split
    · exact hnames
    · exact h.namesEnd i hi
  · rw [hroutes, Vector.getElem_setIfInBounds hi]
    split
    · next heq =>
        rcases hcount' with hsame | ⟨-, hwell⟩
        · omega
        · exact hwell
    · exact h.wellFormed i hi (by omega)

/-- A line whose fields fit. -/
theorem loadLine_fits {s : Loader} {c : UInt8} {text : List UInt8} (h : s.Inv)
    (hcount : s.tempCount < maxRoutes) (hfirst : s.line.bytes[0]? = some c)
    (hskip : isSkipped c = false) (hline : s.line.str = some text) (hfit : FieldsFit text) :
    ∃ s', loadLine s = some s' ∧ s'.Inv ∧
      s'.tempCount = if 4 ≤ (fields text).length then s.tempCount + 1 else s.tempCount := by
  have hrt : s.routes[s.tempCount]? = some s.routes[s.tempCount] :=
    Vector.getElem?_eq_getElem hcount
  have hnames := h.namesEnd s.tempCount hcount
  generalize s.routes[s.tempCount] = rt at hrt hnames
  have hlen : (fields text).length ≤ 5 := scanFields_length_le _ _
  obtain ⟨a, hscan, hends⟩ := (sscanf_eq ⟨s.typeStr, rt.source, rt.target, s.fcgiStr,
    Buffer.zeros 256⟩ (i := 0) (by omega) (fun j hj => absurd hj (Nat.not_lt_zero j))).1 hfit
  simp only [loadLine, hfirst, hskip, hrt, hline, hscan, Option.bind_eq_bind, Option.bind_some,
    Bool.false_eq_true, if_false]
  by_cases hfour : 4 ≤ (fields text).length
  · obtain ⟨a', rt', hfill, hwell, hnames'⟩ := fillEntry_eq hfour
      (fun j hj => hends j (by omega)) hnames
    rw [if_pos hfour, if_pos hfour, hfill, Option.bind_some]
    exact ⟨_, rfl, h.set hcount rfl hnames' (.inr ⟨rfl, hwell⟩), rfl⟩
  · rw [if_neg hfour, if_neg hfour]
    exact ⟨_, rfl, h.set hcount rfl hnames (.inl rfl), rfl⟩

/-- A line with a field that does not fit. -/
theorem loadLine_none {s : Loader} {c : UInt8} {text : List UInt8}
    (hfirst : s.line.bytes[0]? = some c) (hskip : isSkipped c = false)
    (hline : s.line.str = some text) (hfit : ¬ FieldsFit text) : loadLine s = none := by
  have hlen : (fields text).length ≤ 5 := scanFields_length_le _ _
  simp only [loadLine, hfirst, hskip, hline, Option.bind_eq_bind, Option.bind_some,
    Bool.false_eq_true, if_false]
  cases s.routes[s.tempCount]? with
  | none => rfl
  | some rt =>
      have hscan := (sscanf_eq ⟨s.typeStr, rt.source, rt.target, s.fcgiStr, Buffer.zeros 256⟩
        (i := 0) (by omega) (fun j hj => absurd hj (Nat.not_lt_zero j))).2 hfit
      rw [Option.bind_some, hscan]
      rfl

theorem loadLoop_eq {chunks : List (List UInt8)} {s : Loader} (h : s.Inv)
    (hchunks : ∀ chunk ∈ chunks, chunk ≠ [] ∧ chunk.length ≤ 511) :
    ((∀ line ∈ scannedLines chunks s.tempCount, FieldsFit line) →
      ∃ s', loadLoop chunks s = some s' ∧ s'.Inv) ∧
    ((¬ ∀ line ∈ scannedLines chunks s.tempCount, FieldsFit line) → loadLoop chunks s = none) := by
  induction chunks generalizing s with
  | nil => exact ⟨fun _ => ⟨s, rfl, h⟩, fun hno => absurd (fun line hline => nomatch hline) hno⟩
  | cons chunk chunks ih =>
      rw [List.forall_mem_cons] at hchunks
      obtain ⟨⟨hne, hlen⟩, hrest⟩ := hchunks
      obtain ⟨c, more, rfl⟩ := List.exists_cons_of_ne_nil hne
      have hroom : 0 + (c :: more ++ [0]).length ≤ 512 := by
        rw [List.length_append, List.length_singleton]
        omega
      obtain ⟨line, hcopy, hbytes⟩ := s.line.copy_eq hroom
      rw [List.take_zero, List.nil_append, List.append_assoc, List.singleton_append] at hbytes
      have hline : line.str = some (cstr (c :: more)) := Buffer.str_eq_of_append hbytes
      have hfirst : line.bytes[0]? = some c := by
        rw [hbytes]
        rfl
      have hs : ({ s with line := line } : Loader).Inv := ⟨h.namesEnd, h.wellFormed, h.tempCount_le⟩
      rw [loadLoop, hcopy, Option.bind_eq_bind, Option.bind_some, scannedLines]
      by_cases hcount : s.tempCount < maxRoutes
      · rw [if_pos hcount, if_neg (not_le.mpr hcount), List.head?_cons, Option.any_some]
        cases hskip : isSkipped c with
        | true =>
            have hround : loadLine { s with line := line } = some { s with line := line } := by
              simp only [loadLine, hfirst, hskip, Option.bind_eq_bind, Option.bind_some, if_true]
            rw [hround, Option.bind_eq_bind, Option.bind_some, if_pos rfl]
            exact ih hs hrest
        | false =>
            rw [if_neg Bool.false_ne_true, List.forall_mem_cons]
            by_cases hfit : FieldsFit (cstr (c :: more))
            · obtain ⟨s', hround, hinv, hcount'⟩ := loadLine_fits hs hcount hfirst hskip hline hfit
              obtain ⟨hall, hnot⟩ := ih hinv hrest
              rw [hround, Option.bind_eq_bind, Option.bind_some, ← hcount']
              exact ⟨fun hfits => hall hfits.2, fun hno => hnot fun hfits => hno ⟨hfit, hfits⟩⟩
            · rw [loadLine_none (s := { s with line := line }) hfirst hskip hline hfit]
              exact ⟨fun hfits => absurd hfits.1 hfit, fun _ => rfl⟩
      · rw [if_neg hcount, if_pos (not_lt.mp hcount)]
        exact ⟨fun _ => ⟨_, rfl, hs⟩, fun hno => absurd (fun line hline => nomatch hline) hno⟩

/-! ## The reloads -/

/-- The file that is loaded, if any, fits. -/
def Reload.Fits : Reload → Prop
  | .load _ (some content) => FileFits content
  | _ => True

/-- What holds of a virtual host after every reload. -/
structure VHostRoutes.Inv (vh : VHostRoutes) : Prop where
  namesEnd : ∀ i (h : i < maxRoutes), vh.routes[i].NamesEnd
  wellFormed : vh.WellFormed
  totalRoutes_le : vh.totalRoutes ≤ maxRoutes

theorem VHostRoutes.inv_zero : VHostRoutes.zero.Inv := by
  refine ⟨fun i hi j hj => ?_, fun i hi hlt => absurd hlt (Nat.not_lt_zero i), Nat.zero_le _⟩
  show EndsAt ((Vector.replicate maxRoutes RouteEntry.zero)[i].varNames[j]) 31
  have hentry : (Vector.replicate maxRoutes RouteEntry.zero)[i] = RouteEntry.zero :=
    Vector.getElem_replicate hi
  have hname : RouteEntry.zero.varNames[j] = Buffer.zeros 32 := Vector.getElem_replicate hj
  rw [hentry, hname]
  rfl

/-- A reload writes inside the arrays exactly if the file fits, and keeps the invariant. -/
theorem VHostRoutes.reload_eq {vh : VHostRoutes} (h : vh.Inv) (r : Reload) :
    (r.Fits → ∃ vh', vh.reload r = some vh' ∧ vh'.Inv) ∧ (¬ r.Fits → vh.reload r = none) := by
  rcases r with ⟨locals, _ | content⟩ | _
  · exact ⟨fun _ => ⟨vh, rfl, h⟩, fun hno => absurd trivial hno⟩
  · have hstart : Loader.Inv ⟨vh.routes, locals.line, locals.typeStr, locals.fcgiStr, 0⟩ :=
      ⟨h.namesEnd, fun i hi hlt => absurd hlt (Nat.not_lt_zero i), Nat.zero_le _⟩
    obtain ⟨hall, hnot⟩ := loadLoop_eq hstart (fgetsLines_length [] content (Nat.zero_lt_succ 510))
    refine ⟨fun hfits => ?_, fun hno => ?_⟩
    · obtain ⟨s, hloop, hinv⟩ := hall hfits
      refine ⟨⟨s.routes, s.tempCount⟩, ?_, hinv.namesEnd, hinv.wellFormed, hinv.tempCount_le⟩
      rw [reload, vhostLoadSingleRouteFile, hloop]
      rfl
    · rw [reload, vhostLoadSingleRouteFile, hnot hno]
      rfl
  · exact ⟨fun _ => ⟨_, rfl, h.namesEnd, fun i hi hlt => absurd hlt (Nat.not_lt_zero i),
      Nat.zero_le _⟩, fun hno => absurd trivial hno⟩

theorem reloads_eq (rs : List Reload) {vh : VHostRoutes} (h : vh.Inv) :
    ((∀ r ∈ rs, r.Fits) → ∃ vh', reloads rs vh = some vh' ∧ vh'.Inv) ∧
    ((¬ ∀ r ∈ rs, r.Fits) → reloads rs vh = none) := by
  induction rs generalizing vh with
  | nil => exact ⟨fun _ => ⟨vh, rfl, h⟩, fun hno => absurd (fun r hr => nomatch hr) hno⟩
  | cons r rs ih =>
      obtain ⟨hall, hnot⟩ := VHostRoutes.reload_eq h r
      rw [List.forall_mem_cons, reloads]
      by_cases hfit : r.Fits
      · obtain ⟨vh', hreload, hinv⟩ := hall hfit
        obtain ⟨hall', hnot'⟩ := ih hinv
        rw [hreload, Option.bind_eq_bind, Option.bind_some]
        exact ⟨fun hfits => hall' hfits.2, fun hno => hnot' fun hfits => hno ⟨hfit, hfits⟩⟩
      · rw [hnot hfit]
        exact ⟨fun hfits => absurd hfits.1 hfit, fun _ => rfl⟩

/-- Over any sequence of reloads, every write stays inside its array and the routes are well formed
afterwards exactly if the fields of all the lines that are scanned fit. -/
theorem routeFile_safe_iff (rs : List Reload) :
    (∃ vh, reloads rs .zero = some vh ∧ vh.WellFormed) ↔ ∀ r ∈ rs, r.Fits := by
  obtain ⟨hall, hnot⟩ := reloads_eq rs VHostRoutes.inv_zero
  constructor
  · rintro ⟨vh, hload, -⟩
    by_contra hno
    rw [hnot hno] at hload
    cases hload
  · intro hfits
    obtain ⟨vh, hload, hinv⟩ := hall hfits
    exact ⟨vh, hload, hinv.wellFormed⟩

/-- A route from a path of 64 bytes, whose NUL is the first byte of `target`. -/
def longSource : List UInt8 :=
  ascii "PATH|/catalogue/of-all-the-articles/sorted-by-category-and-then-years|/list.php|FCGI_PHP"

/-- The file with this line is loaded into routes that were never loaded. -/
theorem longSource_overflows :
    ¬ ∃ vh, reloads [.load ⟨Buffer.zeros 512, Buffer.zeros 16, Buffer.zeros 16⟩ (some longSource)]
      .zero = some vh ∧ vh.WellFormed := by
  have hno : ¬ FileFits longSource := by decide +kernel
  obtain ⟨-, hnot⟩ := reloads_eq
    [.load ⟨Buffer.zeros 512, Buffer.zeros 16, Buffer.zeros 16⟩ (some longSource)]
    VHostRoutes.inv_zero
  rintro ⟨vh, hload, -⟩
  rw [hnot fun hfits => hno (hfits _ (List.mem_singleton_self _))] at hload
  cases hload

end Halmos.Http.RouteFile
