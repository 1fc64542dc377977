import Halmos.Basic.Tokens
import Halmos.Http.RouteFile
import Mathlib.Data.List.DropRight

set_option autoImplicit false

/-! # What the file of routes means

Every line of `.htroute` that is neither a comment nor empty, and has at least four fields, is a
route; the strings of a route are its fields without the blanks behind them, and the variables are
those between the brackets. The loader works on arrays with whatever the loads before have left in
them, but the routes that are there afterwards are those of the file (`routeFile_table`).
-/

namespace Halmos.Http.RouteFile

open Http1 (FcgiBackend RouteTable RouteType)

/-! ## The routes that are in force -/

/-- The route in an entry of the array, given by its strings. -/
def RouteEntry.route (rt : RouteEntry) : Option RouteTable := do
  let source ← rt.source.str
  let target ← rt.target.str
  let varNames ← (rt.varNames.toList.take rt.varCount).mapM Buffer.str
  some ⟨rt.type, source, target, rt.fcgiType, varNames⟩

/-- The routes of a virtual host, as a request finds them. -/
def VHostRoutes.table (vh : VHostRoutes) : Option (List RouteTable) :=
  (vh.routes.toList.take vh.totalRoutes).mapM RouteEntry.route

/-! ## The meaning of a file -/

/-- A byte that `trim_whitespace` removes. -/
def isTrimmed (c : UInt8) : Bool := c ∈ [0x20, 0x0D, 0x0A, 0x09]

/-- What `trim_whitespace` leaves of a string. -/
def trimEnd (s : List UInt8) : List UInt8 := s.rdropWhile isTrimmed

/-- The text between the brackets, or behind the opening one when the closing one is in front. -/
def bracketed (vars : List UInt8) : Option (List UInt8) :=
  match vars.idxOf? 0x5B, vars.idxOf? 0x5D with
  | some start, some stop => some ((if start < stop then vars.take stop else vars).drop (start + 1))
  | _, _ => none

/-- The name of a variable. -/
def varName (token : List UInt8) : List UInt8 := (trimEnd token).take 31

/-- The variables of the fifth field: ten at most. -/
def varNamesOf (vars : List UInt8) : List (List UInt8) :=
  (bracketed vars).elim [] fun inside => ((tokens 0x2C inside).take 10).map varName

/-- The route with these fields. -/
def routeOf : List (List UInt8) → Option RouteTable
  | typeStr :: source :: target :: fcgiStr :: vars =>
      some {
        type := routeType (trimEnd typeStr)
        source := trimEnd source
        target := trimEnd target
        fcgiType := fcgiType (trimEnd fcgiStr)
        varNames := if routeType (trimEnd typeStr) = .query then vars.head?.elim [] varNamesOf else [] }
  | _ => none

/-- The route of a line that `fgets` has read. -/
def lineRoute (line : List UInt8) : Option RouteTable :=
  if line.head?.any isSkipped = true then none else routeOf (fields (cstr line))

/-- **The routes of a file**: those of its lines, as many as there is room for. -/
def routesOf (content : List UInt8) : List RouteTable :=
  ((fgetsLines 511 [] content).filterMap lineRoute).take maxRoutes

/-! ## Strings in arrays -/

section Strings

variable {n : Nat} {buf : Buffer n} {pos : Nat} {s : List UInt8}

theorem strFrom_zero (buf : Buffer n) : strFrom buf 0 = buf.str := by
  simp [strFrom, Buffer.str]

theorem drop_of_strFrom (h : strFrom buf pos = some s) :
    0 ∉ s ∧ ∃ rest, buf.bytes.drop pos = s ++ 0 :: rest := by
  unfold strFrom at h
  split at h
  · next hmem =>
      obtain rfl := Option.some.inj h
      refine ⟨zero_notMem_cstr _, (buf.bytes.drop pos).drop (cstr (buf.bytes.drop pos)).length.succ, ?_⟩
      generalize buf.bytes.drop pos = bytes at hmem
      induction bytes with
      | nil => exact absurd hmem List.not_mem_nil
      | cons b bytes ih =>
          by_cases hb : b = 0
          · simp [hb, cstr_cons]
          · have hrest : 0 ∈ bytes := (List.mem_cons.mp hmem).resolve_left (Ne.symm hb)
            rw [cstr_cons, if_neg hb, List.cons_append, List.length_cons, List.drop_succ_cons,
              ← ih hrest]
  · cases h

theorem strFrom_of_drop {r : List UInt8} (h : buf.bytes.drop pos = s ++ 0 :: r) (hs : 0 ∉ s) :
    strFrom buf pos = some s := by
  rw [strFrom, h, if_pos (by simp), cstr_append_zero, (cstr_eq_self_iff s).mpr hs]

/-- A NUL inside a string ends it there. -/
theorem write_strFrom (h : strFrom buf pos = some s) {i : Nat} (hi : i ≤ s.length) :
    ∃ buf', buf.write (pos + i) 0 = some buf' ∧ strFrom buf' pos = some (s.take i) ∧
      ∀ q, pos + i < q → buf'.bytes.drop q = buf.bytes.drop q := by
  obtain ⟨hs, rest, hdrop⟩ := drop_of_strFrom h
  have hlen : (buf.bytes.drop pos).length = s.length + 1 + rest.length := by
    rw [hdrop]
    simp only [List.length_append, List.length_cons]
    omega
  have hin : pos + i < n := by
    have hn := buf.length_eq
    rw [List.length_drop] at hlen
    omega
  obtain ⟨buf', hwrite, hbytes⟩ := buf.write_eq 0 hin
  refine ⟨buf', hwrite, ?_, fun q hq => ?_⟩
  · obtain ⟨b, more, hmore⟩ := List.exists_cons_of_ne_nil
      (show s.drop i ++ 0 :: rest ≠ [] by simp)
    have hsplit : s ++ 0 :: rest = s.take i ++ b :: more := by
      rw [← hmore, ← List.append_assoc, List.take_append_drop]
    have hfront : (s.take i).length = i := List.length_take_of_le hi
    have hcut : buf'.bytes.drop pos = s.take i ++ 0 :: more := by
      rw [hbytes, List.drop_set, if_neg (by omega), hdrop, Nat.add_sub_cancel_left, hsplit,
        List.set_append_right _ _ hfront.le, hfront, Nat.sub_self, List.set_cons_zero]
    exact strFrom_of_drop hcut fun hmem => hs (List.mem_of_mem_take hmem)
  · rw [hbytes, List.drop_set, if_pos hq]

/-- What is behind a string does not change with its bytes. -/
theorem strFrom_congr {buf' : Buffer n} (h : buf'.bytes.drop pos = buf.bytes.drop pos) :
    strFrom buf' pos = strFrom buf pos := by
  rw [strFrom, strFrom, h]

theorem trimLoop_str (h : strFrom buf pos = some s) :
    ∃ buf', trimLoop buf pos s.length = some buf' ∧ strFrom buf' pos = some (trimEnd s) ∧
      ∀ q, pos + s.length ≤ q → buf'.bytes.drop q = buf.bytes.drop q := by
  induction s using List.reverseRecOn generalizing buf with
  | nil => exact ⟨buf, rfl, h, fun q _ => rfl⟩
  | append_singleton s c ih =>
      obtain ⟨-, rest, hdrop⟩ := drop_of_strFrom h
      have hlast : buf.bytes[pos + s.length]? = some c := by
        rw [← List.getElem?_drop, hdrop]
        simp
      rw [List.length_append, List.length_singleton, trimLoop, hlast, Option.bind_eq_bind,
        Option.bind_some]
      by_cases hc : c ∈ [0x20, 0x0D, 0x0A, 0x09]
      · obtain ⟨cut, hwrite, hcut, hbehind⟩ := write_strFrom h (i := s.length) (by simp)
        rw [List.take_left] at hcut
        obtain ⟨buf', hloop, hstr, hrest⟩ := ih hcut
        have htrim : trimEnd (s ++ [c]) = trimEnd s :=
          List.rdropWhile_concat_pos isTrimmed s c (by simpa [isTrimmed] using hc)
        refine ⟨buf', ?_, by rw [hstr, htrim], fun q hq => ?_⟩
        · rw [if_pos hc, hwrite]
          exact hloop
        · rw [hrest q (by omega), hbehind q (by omega)]
      · have htrim : trimEnd (s ++ [c]) = s ++ [c] :=
          List.rdropWhile_concat_neg isTrimmed s c (by simpa [isTrimmed] using hc)
        exact ⟨buf, if_neg hc, by rw [h, htrim], fun q _ => rfl⟩

theorem trimWhitespace_str (h : strFrom buf pos = some s) :
    ∃ buf', trimWhitespace buf pos = some buf' ∧ strFrom buf' pos = some (trimEnd s) ∧
      ∀ q, pos + s.length ≤ q → buf'.bytes.drop q = buf.bytes.drop q := by
  obtain ⟨buf', hloop, hstr⟩ := trimLoop_str h
  refine ⟨buf', ?_, hstr⟩
  rw [trimWhitespace, h, Option.bind_eq_bind, Option.bind_some, hloop]

/-- What `strtok` has given: the token, and the string in which the next call goes on, which is
behind it. -/
inductive TokensAt (buf : Buffer n) : Option (Nat × Nat) → List (List UInt8) → Prop where
  | none : TokensAt buf none []
  | some {start next : Nat} {token rest : List UInt8} (htoken : strFrom buf start = some token)
      (hrest : strFrom buf next = some rest) (hle : start + token.length ≤ next) :
      TokensAt buf (some (start, next)) (token :: tokens 0x2C rest)

theorem strtokComma_str (h : strFrom buf pos = some s) :
    ∃ token buf', strtokComma buf pos = some (token, buf') ∧
      TokensAt buf' token (tokens 0x2C s) := by
  have hskip : s.takeWhile (fun c => c = 0x2C) ++ s.dropWhile (fun c => c = 0x2C) = s :=
    List.takeWhile_append_dropWhile
  rw [strtokComma, h, Option.bind_eq_bind, Option.bind_some, tokens_eq]
  generalize s.takeWhile (fun c => c = 0x2C) = commas at hskip
  generalize s.dropWhile (fun c => c = 0x2C) = left at hskip
  subst hskip
  have hleft : strFrom buf (pos + commas.length) = some left := by
    obtain ⟨hs, rest, hdrop⟩ := drop_of_strFrom h
    have hdrop' : buf.bytes.drop (pos + commas.length) = left ++ 0 :: rest := by
      rw [← List.drop_drop, hdrop, List.append_assoc, List.drop_left]
    exact strFrom_of_drop hdrop' fun hmem => hs (List.mem_append_right commas hmem)
  simp only [List.drop_left]
  by_cases hnil : left = []
  · rw [if_pos hnil, if_pos hnil]
    exact ⟨none, buf, rfl, .none⟩
  rw [if_neg hnil, if_neg hnil]
  have htoken : (left.takeWhile (fun c => c ≠ 0x2C)).length ≤ left.length :=
    (List.takeWhile_prefix _).length_le
  have htake : left.take (left.takeWhile (fun c => c ≠ 0x2C)).length
      = left.takeWhile (fun c => c ≠ 0x2C) := (List.prefix_iff_eq_take.mp (List.takeWhile_prefix _)).symm
  generalize left.takeWhile (fun c => c ≠ 0x2C) = token at htoken htake
  by_cases hend : token.length = left.length
  · have hlast : left = token := by rw [← htake, hend, List.take_length]
    have hstop : pos + commas.length + token.length = pos + (commas ++ left).length := by
      rw [List.length_append]
      omega
    have hempty : strFrom buf (pos + commas.length + token.length) = some [] := by
      obtain ⟨-, rest, hdrop⟩ := drop_of_strFrom hleft
      refine strFrom_of_drop (r := rest) ?_ List.not_mem_nil
      rw [← List.drop_drop, hdrop, hend, List.drop_left, List.nil_append]
    refine ⟨_, buf, if_pos hstop, ?_⟩
    have hrest : tokens 0x2C (left.drop (token.length + 1)) = tokens 0x2C [] := by
      rw [List.drop_eq_nil_of_le (by omega)]
    rw [hrest]
    exact .some (hlast ▸ hleft) hempty le_rfl
  · have hstop : pos + commas.length + token.length ≠ pos + (commas ++ left).length := by
      rw [List.length_append]
      omega
    obtain ⟨buf', hwrite, hcut, hbehind⟩ := write_strFrom hleft (i := token.length) htoken
    have hrest : strFrom buf' (pos + commas.length + token.length + 1)
        = some (left.drop (token.length + 1)) := by
      rw [strFrom_congr (hbehind _ (Nat.lt_add_one _))]
      obtain ⟨hs, rest, hdrop⟩ := drop_of_strFrom hleft
      refine strFrom_of_drop (r := rest) ?_ fun hmem => hs (List.mem_of_mem_drop hmem)
      rw [Nat.add_assoc (pos + commas.length), ← List.drop_drop, hdrop,
        List.drop_append_of_le_length (by omega)]
    refine ⟨_, buf', ?_, .some (htake ▸ hcut) hrest (Nat.le_succ _)⟩
    rw [if_neg hstop, hwrite]
    rfl

/-- A field that is copied with its NUL. -/
theorem copy_str (buf : Buffer n) {field : List UInt8} (hfit : field.length < n) (hnul : 0 ∉ field) :
    ∃ buf', buf.copy 0 (field ++ [0]) = some buf' ∧ strFrom buf' 0 = some field := by
  have hroom : 0 + (field ++ [0]).length ≤ n := by
    rw [List.length_append, List.length_singleton]
    omega
  obtain ⟨buf', hcopy, hbytes⟩ := buf.copy_eq hroom
  rw [List.take_zero, List.nil_append, List.append_assoc, List.singleton_append] at hbytes
  exact ⟨buf', hcopy, strFrom_of_drop (by rw [List.drop_zero, hbytes]) hnul⟩

/-- A name is cut off after 31 bytes. -/
theorem strncpy_str {name : Buffer 32} (hends : EndsAt name 31) (hnul : 0 ∉ s) :
    ∃ name', strncpy name s 31 = some name' ∧ EndsAt name' 31 ∧ name'.str = some (s.take 31) := by
  obtain ⟨name', hcopy, hends'⟩ := strncpy_name hends s
  refine ⟨name', hcopy, hends', ?_⟩
  have hroom : 0 + ((s ++ List.replicate 31 0).take 31).length ≤ 32 := by simp
  obtain ⟨name'', hcopy', hbytes⟩ := name.copy_eq hroom
  obtain rfl : name'' = name' := Option.some.inj (hcopy'.symm.trans hcopy)
  rw [List.take_zero, List.nil_append] at hbytes
  have hcut : (s.take 31).length = 31 ∨ (s.take 31).length < 31 ∧ s.length < 31 := by
    rw [List.length_take]
    omega
  have hcstr : (cstr (s.take 31)) = s.take 31 :=
    (cstr_eq_self_iff _).mpr fun hmem => hnul (List.mem_of_mem_take hmem)
  rw [← hcstr]
  rcases hcut with hfull | ⟨-, hshort⟩
  · -- the NUL is the last byte of the array, which nothing is written to
    have hfront : name''.bytes.take 31 = s.take 31 := by
      have hlen : 31 ≤ s.length := by
        rw [List.length_take] at hfull
        omega
      rw [hbytes, List.take_append_of_le_length hlen, List.take_append_of_le_length hfull.ge,
        ← hfull, List.take_take, Nat.min_self, hfull]
    have hlast : name''.bytes.drop 31 = [0] := by
      have hlen := name''.length_eq
      rw [List.drop_eq_getElem_cons (by omega), List.getElem_eq_iff _ |>.mpr hends',
        List.drop_eq_nil_of_le (by omega)]
    refine @Buffer.str_eq_of_append 32 name'' (s.take 31) [] ?_
    rw [← hfront, ← hlast, List.take_append_drop]
  · have hall : s.take 31 = s := List.take_of_length_le (by omega)
    refine @Buffer.str_eq_of_append 32 name'' (s.take 31)
      (List.replicate (30 - s.length) 0 ++ name.bytes.drop 31) ?_
    have hpad : (s ++ List.replicate 31 0).take 31 = s ++ 0 :: List.replicate (30 - s.length) 0 := by
      rw [List.take_append, hall, List.take_replicate, ← List.replicate_succ]
      congr 2
      omega
    have hthirty : s.length + (30 - s.length + 1) = 31 := by omega
    rw [hbytes, hpad, hall]
    simp [hthirty]

end Strings

/-! ## Entries -/

/-- The names of an entry, as strings. -/
def RouteEntry.names (rt : RouteEntry) : List (Option (List UInt8)) :=
  (rt.varNames.toList.take rt.varCount).map Buffer.str

/-- The same route, but for the names. -/
structure RouteEntry.SameBut (rt rt' : RouteEntry) : Prop where
  type : rt'.type = rt.type
  source : rt'.source = rt.source
  target : rt'.target = rt.target
  fcgiType : rt'.fcgiType = rt.fcgiType

theorem RouteEntry.SameBut.refl (rt : RouteEntry) : rt.SameBut rt := ⟨rfl, rfl, rfl, rfl⟩

theorem mapM_of_map {α β : Type} {f : α → Option β} {l : List α} {r : List β}
    (h : l.map f = r.map some) : l.mapM f = some r := by
  induction l generalizing r with
  | nil =>
      cases r with
      | nil => rfl
      | cons b r => cases h
  | cons a l ih =>
      cases r with
      | nil => cases h
      | cons b r =>
          rw [List.map_cons, List.map_cons, List.cons.injEq] at h
          rw [List.mapM_cons, h.1, ih h.2]
          rfl

theorem take_set_last {α : Type} {l : List α} {i : Nat} (h : i < l.length) (x : α) :
    (l.set i x).take (i + 1) = l.take i ++ [x] := by
  rw [List.set_eq_take_append_cons_drop, if_pos h, List.append_cons]
  exact List.take_left' (by simp [h.le])

/-- The loop over the variables: each token becomes a name, as long as there is room. -/
theorem nameLoop_names {left : Nat} {varsStr : Buffer 256} {token : Option (Nat × Nat)}
    {parts : List (List UInt8)} {rt : RouteEntry} (hleft : rt.varCount + left = 10)
    (hnames : rt.NamesEnd) (htoken : TokensAt varsStr token parts) :
    ∃ rt', nameLoop left token varsStr rt = some rt' ∧ rt.SameBut rt' ∧
      rt'.names = rt.names ++ (parts.take left).map (fun part => some (varName part)) := by
  induction left generalizing varsStr token parts rt with
  | zero => exact ⟨rt, by cases token <;> rfl, .refl rt, by simp⟩
  | succ left ih =>
      cases htoken with
      | none => exact ⟨rt, rfl, .refl rt, by simp⟩
      | @some start next part rest hpart hrest hle =>
          have hcount : rt.varCount < 10 := by omega
          obtain ⟨trimmed, htrim, hstr, hbehind⟩ := trimWhitespace_str hpart
          obtain ⟨hnul, -⟩ := drop_of_strFrom hstr
          obtain ⟨name, hname, hnameEnds, hnameStr⟩ := strncpy_str (hnames rt.varCount hcount) hnul
          have hrest' : strFrom trimmed next = some rest := by
            rw [strFrom_congr (hbehind next hle), hrest]
          obtain ⟨token', cut, hcut, htoken'⟩ := strtokComma_str hrest'
          obtain ⟨rt', hloop, hsame, hrtnames⟩ := @ih cut token' (tokens 0x2C rest) { rt with
            varNames := rt.varNames.setIfInBounds rt.varCount name
            varCount := rt.varCount + 1 } (by dsimp only; omega) (fun j hj => by
              rw [Vector.getElem_setIfInBounds hj]
              split
              · exact hnameEnds
              · exact hnames j hj) htoken'
          refine ⟨rt', ?_, ⟨hsame.1, hsame.2, hsame.3, hsame.4⟩, ?_⟩
          · simp only [nameLoop, htrim, hstr, Vector.getElem?_eq_getElem hcount, hname, hcut,
              Option.bind_eq_bind, Option.bind_some]
            exact hloop
          · have hset : (rt.varNames.setIfInBounds rt.varCount name).toList.take (rt.varCount + 1)
                = rt.varNames.toList.take rt.varCount ++ [name] := by
              rw [Vector.toList_setIfInBounds]
              exact take_set_last (by rwa [Vector.length_toList]) name
            rw [hrtnames]
            simp only [RouteEntry.names, hset]
            simp [hnameStr, varName]

theorem readNames_names {varsStr : Buffer 256} {text : List UInt8} {rt : RouteEntry}
    (htext : varsStr.str = some text) (hcount : rt.varCount = 0) (hnames : rt.NamesEnd) :
    ∃ rt', readNames varsStr rt = some rt' ∧ rt.SameBut rt' ∧
      rt'.names = (varNamesOf text).map some := by
  have hnone : rt.names = [] := by simp [RouteEntry.names, hcount]
  rw [readNames, htext, Option.bind_eq_bind, Option.bind_some]
  cases hstart : text.idxOf? 0x5B with
  | none => exact ⟨rt, rfl, .refl rt, by simp [hnone, varNamesOf, bracketed, hstart]⟩
  | some start =>
      cases hstop : text.idxOf? 0x5D with
      | none => exact ⟨rt, rfl, .refl rt, by simp [hnone, varNamesOf, bracketed, hstart, hstop]⟩
      | some stop =>
          have hstr : strFrom varsStr 0 = some text := by rw [strFrom_zero, htext]
          obtain ⟨hstoplt, hclose, -⟩ := List.idxOf?_eq_some_iff.mp hstop
          obtain ⟨hstartlt, hopen, -⟩ := List.idxOf?_eq_some_iff.mp hstart
          have hne : start ≠ stop := by
            rintro rfl
            rw [hopen] at hclose
            exact absurd hclose (by decide)
          obtain ⟨cut, hwrite, hcut, hbehind⟩ := write_strFrom hstr (i := stop) hstoplt.le
          rw [Nat.zero_add] at hwrite hbehind
          -- the string behind the opening bracket
          have hinside : strFrom cut (start + 1)
              = some ((if start < stop then text.take stop else text).drop (start + 1)) := by
            by_cases hlt : start < stop
            · obtain ⟨hnul, rest, hdrop⟩ := drop_of_strFrom hcut
              rw [if_pos hlt]
              refine strFrom_of_drop (r := rest) ?_ fun hmem => hnul (List.mem_of_mem_drop hmem)
              rw [← List.drop_append_of_le_length (by rw [List.length_take]; omega), ← hdrop,
                List.drop_zero]
            · obtain ⟨hnul, rest, hdrop⟩ := drop_of_strFrom hstr
              rw [if_neg hlt, strFrom_congr (hbehind (start + 1) (by omega))]
              refine strFrom_of_drop (r := rest) ?_ fun hmem => hnul (List.mem_of_mem_drop hmem)
              rw [← List.drop_append_of_le_length (by omega), ← hdrop, List.drop_zero]
          obtain ⟨token, cut', htok, htoken⟩ := strtokComma_str hinside
          obtain ⟨rt', hloop, hsame, hrtnames⟩ := @nameLoop_names 10 _ _ _ _ (by omega) hnames htoken
          refine ⟨rt', ?_, hsame, ?_⟩
          · simp only [hwrite, htok, Option.bind_eq_bind, Option.bind_some]
            exact hloop
          · rw [hrtnames, hnone, varNamesOf, bracketed, hstart, hstop, List.nil_append]
            exact (List.map_map ..).symm

/-! ## The scan -/

/-- The string in the array that the conversion number `i` writes to. -/
def ScanArgs.str (a : ScanArgs) : Nat → Option (List UInt8)
  | 0 => a.typeStr.str
  | 1 => a.source.str
  | 2 => a.target.str
  | 3 => a.fcgiStr.str
  | _ + 4 => a.varsStr.str

theorem mem_scanFields {stops s field : List UInt8} (h : field ∈ scanFields stops s) : field ⊆ s := by
  induction stops generalizing s with
  | nil => cases h
  | cons stop stops ih =>
      have htake : s.takeWhile (fun c => c ≠ stop) ⊆ s := List.takeWhile_subset _
      rw [scanFields] at h
      split at h
      · cases h
      · split at h
        · rw [List.mem_singleton.mp h]
          exact htake
        · next c rest hrest =>
            rcases List.mem_cons.mp h with rfl | hmem
            · exact htake
            · have hsub : rest ⊆ s := fun b hb =>
                List.mem_of_mem_drop (hrest ▸ List.mem_cons_of_mem c hb)
              exact fun b hb => hsub (ih hmem hb)

/-- A conversion writes its field, and leaves the other arrays alone. -/
theorem ScanArgs.put_str (a : ScanArgs) {i size : Nat} (hsize : fieldSizes[i]? = some size)
    {field : List UInt8} (hfit : field.length < size) (hnul : 0 ∉ field) :
    ∃ a', a.put i field = some a' ∧ a'.str i = some field ∧ ∀ j < i, a'.str j = a.str j := by
  have hcopy {n : Nat} (buf : Buffer n) (hlt : field.length < n) :
      ∃ buf', buf.copy 0 (field ++ [0]) = some buf' ∧ buf'.str = some field := by
    obtain ⟨buf', hb, hstr⟩ := copy_str buf hlt hnul
    exact ⟨buf', hb, by rw [← strFrom_zero, hstr]⟩
  rcases i with _ | _ | _ | _ | _ | i
  · obtain rfl := Option.some.inj hsize
    obtain ⟨b, hb, hstr⟩ := hcopy a.typeStr hfit
    exact ⟨{ a with typeStr := b }, by rw [put, hb]; rfl, hstr, fun j hj => by omega⟩
  · obtain rfl := Option.some.inj hsize
    obtain ⟨b, hb, hstr⟩ := hcopy a.source hfit
    refine ⟨{ a with source := b }, by rw [put, hb]; rfl, hstr, fun j hj => ?_⟩
    obtain rfl : j = 0 := by omega
    rfl
  · obtain rfl := Option.some.inj hsize
    obtain ⟨b, hb, hstr⟩ := hcopy a.target hfit
    refine ⟨{ a with target := b }, by rw [put, hb]; rfl, hstr, fun j hj => ?_⟩
    interval_cases j <;> rfl
  · obtain rfl := Option.some.inj hsize
    obtain ⟨b, hb, hstr⟩ := hcopy a.fcgiStr hfit
    refine ⟨{ a with fcgiStr := b }, by rw [put, hb]; rfl, hstr, fun j hj => ?_⟩
    interval_cases j <;> rfl
  · obtain rfl := Option.some.inj hsize
    obtain ⟨b, hb, hstr⟩ := hcopy a.varsStr hfit
    refine ⟨{ a with varsStr := b }, by rw [put, hb]; rfl, hstr, fun j hj => ?_⟩
    interval_cases j <;> rfl
  · cases hsize

/-- The conversions from number `i` on write the fields. -/
theorem sscanf_str (a : ScanArgs) {i : Nat} {fs : List (List UInt8)} (hlen : i + fs.length ≤ 5)
    (hfit : ∀ p ∈ fs.zip (fieldSizes.drop i), p.1.length < p.2) (hnul : ∀ field ∈ fs, 0 ∉ field) :
    ∃ a', sscanf a i fs = some a' ∧ (∀ j < i, a'.str j = a.str j) ∧
      ∀ j field, fs[j]? = some field → a'.str (i + j) = some field := by
  induction fs generalizing a i with
  | nil => exact ⟨a, rfl, fun j _ => rfl, fun j field h => (by cases h)⟩
  | cons field fs ih =>
      rw [List.length_cons] at hlen
      have hi : i < fieldSizes.length := by
        show i < 5
        omega
      rw [← List.cons_getElem_drop_succ (h := hi), List.zip_cons_cons, List.forall_mem_cons] at hfit
      rw [List.forall_mem_cons] at hnul
      obtain ⟨b, hput, hfield, hold⟩ := a.put_str (List.getElem?_eq_getElem hi) hfit.1 hnul.1
      obtain ⟨a', hscan, hsame, hread⟩ := ih b (i := i + 1) (by omega) hfit.2 hnul.2
      refine ⟨a', ?_, fun j hj => ?_, fun j f hf => ?_⟩
      · rw [sscanf, hput]
        exact hscan
      · rw [hsame j (by omega), hold j hj]
      · cases j with
        | zero =>
            obtain rfl := Option.some.inj hf
            rw [Nat.add_zero, hsame i (Nat.lt_add_one i), hfield]
        | succ j =>
            have hindex : i + (j + 1) = i + 1 + j := by omega
            rw [hindex]
            exact hread j f hf

/-! ## Lines -/

/-- A line with at least four fields becomes the route of its fields. -/
theorem fillEntry_route {a : ScanArgs} {fs : List (List UInt8)} {rt : RouteEntry}
    (hlen : 4 ≤ fs.length) (hmax : fs.length ≤ 5)
    (hread : ∀ j field, fs[j]? = some field → a.str j = some field) (hnames : rt.NamesEnd) :
    ∃ a' rt', fillEntry a fs.length rt = some (a', rt') ∧ rt'.route = routeOf fs := by
  obtain ⟨typeField, sourceField, targetField, fcgiField, vars, rfl⟩ :
      ∃ t s u f vars, fs = t :: s :: u :: f :: vars := by
    match fs, hlen with
    | t :: s :: u :: f :: vars, _ => exact ⟨t, s, u, f, vars, rfl⟩
  have htrim {n : Nat} {buf : Buffer n} {s : List UInt8} (h : buf.str = some s) :
      ∃ buf', trimWhitespace buf 0 = some buf' ∧ buf'.str = some (trimEnd s) := by
    obtain ⟨buf', htrim, hstr, -⟩ := trimWhitespace_str ((strFrom_zero buf).trans h)
    exact ⟨buf', htrim, (strFrom_zero buf').symm.trans hstr⟩
  obtain ⟨typeStr, htype, htypeStr⟩ := htrim (hread 0 typeField rfl)
  obtain ⟨source, hsource, hsourceStr⟩ := htrim (hread 1 sourceField rfl)
  obtain ⟨target, htarget, htargetStr⟩ := htrim (hread 2 targetField rfl)
  obtain ⟨fcgiStr, hfcgi, hfcgiStr⟩ := htrim (hread 3 fcgiField rfl)
  -- the route with its names, as they are in the end
  have hroute {rt' : RouteEntry} {names : List (List UInt8)}
      (hsame : RouteEntry.SameBut ⟨routeType (trimEnd typeField), source, target,
        fcgiType (trimEnd fcgiField), rt.varNames, 0⟩ rt') (hrtnames : rt'.names = names.map some) :
      rt'.route = some ⟨routeType (trimEnd typeField), trimEnd sourceField, trimEnd targetField,
        fcgiType (trimEnd fcgiField), names⟩ := by
    rw [RouteEntry.route, hsame.type, hsame.source, hsame.target, hsame.fcgiType, hsourceStr,
      htargetStr, mapM_of_map hrtnames]
    rfl
  simp only [fillEntry, htype, hsource, htarget, hfcgi, htypeStr, hfcgiStr, Option.bind_eq_bind,
    Option.bind_some]
  by_cases hquery : (typeField :: sourceField :: targetField :: fcgiField :: vars).length = 5
      ∧ routeType (trimEnd typeField) = .query
  · obtain ⟨v, rfl⟩ : ∃ v, vars = [v] := List.length_eq_one_iff.mp (by simpa using hquery.1)
    obtain ⟨rt', hnamesRead, hsame, hrtnames⟩ := @readNames_names _ _ ⟨routeType (trimEnd typeField),
      source, target, fcgiType (trimEnd fcgiField), rt.varNames, 0⟩ (hread 4 v rfl) rfl hnames
    rw [if_pos hquery, hnamesRead]
    refine ⟨_, rt', rfl, (hroute hsame hrtnames).trans ?_⟩
    simp only [routeOf, if_pos hquery.2]
    rfl
  · rw [if_neg hquery]
    refine ⟨_, _, rfl, (@hroute _ [] (.refl _) ?_).trans ?_⟩
    · simp [RouteEntry.names]
    · have hno : (if routeType (trimEnd typeField) = .query then vars.head?.elim [] varNamesOf
          else []) = [] := by
        split
        · next htypeQuery =>
            cases vars with
            | nil => rfl
            | cons v vars =>
                refine absurd ⟨?_, htypeQuery⟩ hquery
                simp only [List.length_cons] at hmax ⊢
                omega
        · rfl
      rw [routeOf, hno]

theorem routeOf_isSome (fs : List (List UInt8)) : (routeOf fs).isSome = decide (4 ≤ fs.length) := by
  match fs with
  | [] | [_] | [_, _] | [_, _, _] => rfl
  | _ :: _ :: _ :: _ :: vars => simp [routeOf]

/-- The routes so far. -/
def Loader.table (s : Loader) : List (Option RouteTable) :=
  (s.routes.toList.take s.tempCount).map RouteEntry.route

theorem loadLine_table {s : Loader} {c : UInt8} {text : List UInt8} (h : s.Inv)
    (hcount : s.tempCount < maxRoutes) (hfirst : s.line.bytes[0]? = some c)
    (hskip : isSkipped c = false) (hline : s.line.str = some text) (hfit : FieldsFit text) :
    ∃ s', loadLine s = some s' ∧ s'.Inv ∧
      s'.tempCount = s.tempCount + (routeOf (fields text)).toList.length ∧
      s'.table = s.table ++ (routeOf (fields text)).toList.map some := by
  obtain ⟨s', hload, hinv, hcount'⟩ := loadLine_fits h hcount hfirst hskip hline hfit
  have hmax : (fields text).length ≤ 5 := scanFields_length_le _ _
  have hnul : ∀ field ∈ fields text, 0 ∉ field := fun field hfield hmem =>
    Buffer.zero_notMem_of_str hline (mem_scanFields hfield hmem)
  have hrt : s.routes[s.tempCount]? = some s.routes[s.tempCount] :=
    Vector.getElem?_eq_getElem hcount
  have hnames := h.namesEnd s.tempCount hcount
  generalize s.routes[s.tempCount] = rt at hrt hnames
  obtain ⟨a, hscan, -, hread⟩ := sscanf_str ⟨s.typeStr, rt.source, rt.target, s.fcgiStr,
    Buffer.zeros 256⟩ (i := 0) (by omega) hfit hnul
  simp only [Nat.zero_add] at hread
  have hload' := hload
  simp only [loadLine, hfirst, hskip, hrt, hline, hscan, Option.bind_eq_bind, Option.bind_some,
    Bool.false_eq_true, if_false] at hload'
  have hlen : s.tempCount < s.routes.toList.length := by rwa [Vector.length_toList]
  by_cases hfour : 4 ≤ (fields text).length
  · obtain ⟨a', rt', hfill, hroute⟩ := fillEntry_route hfour hmax hread hnames
    obtain ⟨route, hsome⟩ : ∃ route, routeOf (fields text) = some route :=
      Option.isSome_iff_exists.mp (by rw [routeOf_isSome, decide_eq_true hfour])
    rw [if_pos hfour, hfill] at hload'
    rw [if_pos hfour] at hcount'
    refine ⟨s', hload, hinv, by rw [hcount', hsome]; rfl, ?_⟩
    obtain rfl := Option.some.inj hload'
    simp only [Loader.table, Vector.toList_setIfInBounds, take_set_last hlen]
    simp [hroute, hsome]
  · have hnone : routeOf (fields text) = none := by
      rw [← Option.not_isSome_iff_eq_none, routeOf_isSome, decide_eq_false hfour]
      exact Bool.false_ne_true
    rw [if_neg hfour] at hload' hcount'
    refine ⟨s', hload, hinv, by rw [hcount', hnone]; rfl, ?_⟩
    obtain rfl := Option.some.inj hload'
    simp only [Loader.table, Vector.toList_setIfInBounds, List.take_set_of_le le_rfl]
    simp [hnone]

/-- The loop over the lines of a file, of which every one that is scanned fits. -/
theorem loadLoop_table {chunks : List (List UInt8)} {s : Loader} (h : s.Inv)
    (hchunks : ∀ chunk ∈ chunks, chunk ≠ [] ∧ chunk.length ≤ 511)
    (hfits : ∀ line ∈ scannedLines chunks s.tempCount, FieldsFit line) :
    ∃ s', loadLoop chunks s = some s' ∧ s'.Inv ∧
      s'.table = s.table ++ ((chunks.filterMap lineRoute).take (maxRoutes - s.tempCount)).map some := by
  induction chunks generalizing s with
  | nil => exact ⟨s, rfl, h, by simp⟩
  | cons chunk chunks ih =>
      rw [List.forall_mem_cons] at hchunks
      obtain ⟨⟨hne, hlen⟩, hrest⟩ := hchunks
      obtain ⟨c, more, rfl⟩ := List.exists_cons_of_ne_nil hne
      have hroom : 0 + (c :: more ++ [0]).length ≤ 512 := by
        rw [List.length_append, List.length_singleton]
        omega
      obtain ⟨line, hcopy, hbytes⟩ := s.line.copy_eq hroom
      rw [List.take_zero, List.nil_append, List.append_assoc, List.singleton_append] at hbytes
      have hline : line.str = some (cstr (c :: more)) := Buffer.str_eq_of_append hbytes
      have hfirst : line.bytes[0]? = some c := by
        rw [hbytes]
        rfl
      have hs : ({ s with line := line } : Loader).Inv := ⟨h.namesEnd, h.wellFormed, h.tempCount_le⟩
      rw [loadLoop, hcopy, Option.bind_eq_bind, Option.bind_some]
      by_cases hcount : s.tempCount < maxRoutes
      · rw [scannedLines, if_neg (not_le.mpr hcount), List.head?_cons, Option.any_some] at hfits
        rw [if_pos hcount]
        cases hskip : isSkipped c with
        | true =>
            have hround : loadLine { s with line := line } = some { s with line := line } := by
              simp only [loadLine, hfirst, hskip, Option.bind_eq_bind, Option.bind_some, if_true]
            have hno : lineRoute (c :: more) = none := by simp [lineRoute, hskip]
            rw [hskip, if_pos rfl] at hfits
            rw [hround, Option.bind_eq_bind, Option.bind_some, List.filterMap_cons_none hno]
            exact ih hs hrest hfits
        | false =>
            have hroute : lineRoute (c :: more) = routeOf (fields (cstr (c :: more))) := by
              simp [lineRoute, hskip]
            rw [hskip, if_neg Bool.false_ne_true, List.forall_mem_cons] at hfits
            obtain ⟨s', hround, hinv, hcount', htable⟩ :=
              loadLine_table hs hcount hfirst hskip hline hfits.1
            have hfits' : ∀ line ∈ scannedLines chunks s'.tempCount, FieldsFit line := by
              obtain ⟨s'', hround', -, hcount''⟩ := loadLine_fits hs hcount hfirst hskip hline hfits.1
              obtain rfl : s' = s'' := Option.some.inj (hround.symm.trans hround')
              rw [hcount'']
              exact hfits.2
            obtain ⟨s'', hloop, hinv', htable'⟩ := ih hinv hrest hfits'
            refine ⟨s'', ?_, hinv', ?_⟩
            · rw [hround]
              exact hloop
            · rw [htable', htable, hcount', ← hroute]
              have hsame : Loader.table { s with line := line } = s.table := rfl
              have hleft : maxRoutes - s.tempCount = maxRoutes - (s.tempCount + 1) + 1 := by omega
              cases hsome : lineRoute (c :: more) with
              | none => simp [hsame, hsome]
              | some route => simp [hsame, hsome, hleft]
      · have hzero : maxRoutes - s.tempCount = 0 := by omega
        rw [if_neg hcount, hzero]
        exact ⟨_, rfl, hs, by simp [Loader.table]⟩

/-- **The routes of a file are those in force after it is loaded**, whatever the loads before have
left in the arrays. -/
theorem routeFile_table {vh : VHostRoutes} (hinv : vh.Inv) (locals : Locals) {content : List UInt8}
    (hfits : FileFits content) :
    ∃ vh', vhostLoadSingleRouteFile vh locals (some content) = some vh' ∧ vh'.Inv ∧
      vh'.table = some (routesOf content) := by
  have hstart : Loader.Inv ⟨vh.routes, locals.line, locals.typeStr, locals.fcgiStr, 0⟩ :=
    ⟨hinv.namesEnd, fun i hi hlt => absurd hlt (Nat.not_lt_zero i), Nat.zero_le _⟩
  obtain ⟨s, hloop, hs, htable⟩ := loadLoop_table hstart
    (fgetsLines_length [] content (Nat.zero_lt_succ 510)) hfits
  refine ⟨⟨s.routes, s.tempCount⟩, ?_, ⟨hs.namesEnd, hs.wellFormed, hs.tempCount_le⟩,
    mapM_of_map ?_⟩
  · rw [vhostLoadSingleRouteFile, hloop]
    rfl
  · show s.table = _
    rw [htable]
    rfl

/-- What a reload makes of the routes. -/
def Reload.apply (routes : List RouteTable) : Reload → List RouteTable
  | .load _ (some content) => routesOf content
  | .load _ none => routes
  | .reset => []

/-- One reload of a file that fits. -/
theorem VHostRoutes.reload_table {vh : VHostRoutes} (hinv : vh.Inv) {routes : List RouteTable}
    (htable : vh.table = some routes) {r : Reload} (hfit : r.Fits) :
    ∃ vh', vh.reload r = some vh' ∧ vh'.Inv ∧ vh'.table = some (r.apply routes) := by
  obtain ⟨vh', hreload, hinv'⟩ := (VHostRoutes.reload_eq hinv r).1 hfit
  refine ⟨vh', hreload, hinv', ?_⟩
  rcases r with ⟨locals, _ | content⟩ | _
  · obtain rfl := Option.some.inj hreload
    exact htable
  · obtain ⟨vh'', hload, -, htable'⟩ := routeFile_table hinv locals hfit
    obtain rfl : vh' = vh'' := Option.some.inj (hreload.symm.trans hload)
    exact htable'
  · obtain rfl := Option.some.inj hreload
    rfl

theorem reloads_means {rs : List Reload} (h : ∀ r ∈ rs, r.Fits) {vh : VHostRoutes} (hinv : vh.Inv)
    {routes : List RouteTable} (htable : vh.table = some routes) :
    ∃ vh', reloads rs vh = some vh' ∧ vh'.table = some (rs.foldl Reload.apply routes) := by
  induction rs generalizing vh routes with
  | nil => exact ⟨vh, rfl, htable⟩
  | cons r rs ih =>
      rw [List.forall_mem_cons] at h
      obtain ⟨vh', hreload, hinv', htable'⟩ := VHostRoutes.reload_table hinv htable h.1
      obtain ⟨vh'', hrest, htable''⟩ := ih h.2 hinv' htable'
      refine ⟨vh'', ?_, htable''⟩
      rw [reloads, hreload]
      exact hrest

/-- **The arrays and the routes they stand for**: over any sequence of reloads of files that fit,
what is in force is what the last file means. -/
theorem reloads_table (rs : List Reload) (h : ∀ r ∈ rs, r.Fits) :
    ∃ vh, reloads rs .zero = some vh ∧ vh.table = some (rs.foldl Reload.apply []) :=
  reloads_means h VHostRoutes.inv_zero rfl

/-- Arrays that are zero when the loader is entered. -/
def Locals.zero : Locals := ⟨Buffer.zeros 512, Buffer.zeros 16, Buffer.zeros 16⟩

/-- A file of two routes, and then one with a single route, in the array of the first one. -/
theorem reloads_table_second :
    ∃ vh, reloads [
        .load .zero (some (ascii "PATH|/files|/f.php|FCGI_PHP\nQUERY|/a|/b.php|FCGI_RS|[id]\n")),
        .load .zero (some (ascii "# one route\nQUERY|/a |/c|FCGI_PY|[id,lang ]\n"))] .zero = some vh ∧
      vh.table = some [⟨.query, ascii "/a", ascii "/c", .py, [ascii "id", ascii "lang"]⟩] := by
  obtain ⟨vh, hload, htable⟩ := reloads_table [
    .load .zero (some (ascii "PATH|/files|/f.php|FCGI_PHP\nQUERY|/a|/b.php|FCGI_RS|[id]\n")),
    .load .zero (some (ascii "# one route\nQUERY|/a |/c|FCGI_PY|[id,lang ]\n"))] (by
      simp only [List.forall_mem_cons, Reload.Fits]
      exact ⟨by decide +kernel, by decide +kernel, fun r hr => (by cases hr)⟩)
  refine ⟨vh, hload, htable.trans ?_⟩
  decide +kernel

/-! ## Files written from routes -/

/-- The first field of a route. -/
def typeText : RouteType → List UInt8
  | .none => ascii "NONE"
  | .query => ascii "QUERY"
  | .path => ascii "PATH"

/-- The fourth field. -/
def fcgiText : FcgiBackend → List UInt8
  | .php => ascii "FCGI_PHP"
  | .py => ascii "FCGI_PY"
  | .rs => ascii "FCGI_RS"

/-- The fifth field. -/
def varsText (varNames : List (List UInt8)) : List UInt8 :=
  0x5B :: (List.intercalate [0x2C] varNames ++ [0x5D])

/-- The fields behind the first three. -/
def lastFields (route : RouteTable) : List UInt8 :=
  if route.type = .query then fcgiText route.fcgiType ++ 0x7C :: varsText route.varNames
  else fcgiText route.fcgiType

/-- The line of a route. -/
def routeLine (route : RouteTable) : List UInt8 :=
  typeText route.type ++ 0x7C :: (route.source ++ 0x7C :: (route.target ++ 0x7C :: lastFields route))

/-- The file with these routes. -/
def routeFileText (routes : List RouteTable) : List UInt8 :=
  (routes.map routeLine).flatMap fun line => line ++ [0x0A]

/-- A string that can stand in a field of `max` bytes. -/
structure IsField (max : Nat) (s : List UInt8) : Prop where
  nonempty : s ≠ []
  room : s.length ≤ max
  plain : 0 ∉ s ∧ 0x0A ∉ s ∧ 0x7C ∉ s
  last : ∀ c ∈ s.getLast?, isTrimmed c = false

/-- A string that can stand between the brackets. -/
structure IsName (s : List UInt8) : Prop extends IsField 31 s where
  inside : 0x2C ∉ s ∧ 0x5D ∉ s

/-- A route that can be written in a file. Only a route to a query has variables. -/
structure Writable (route : RouteTable) : Prop where
  source : IsField 63 route.source
  target : IsField 127 route.target
  varNames : ∀ name ∈ route.varNames, IsName name
  count : route.varNames.length ≤ 10
  room : (varsText route.varNames).length ≤ 255
  query : route.type ≠ .query → route.varNames = []

section Written

variable {route : RouteTable}

theorem IsField.trimEnd_eq {max : Nat} {s : List UInt8} (h : IsField max s) : trimEnd s = s := by
  rw [trimEnd, List.rdropWhile_eq_self_iff]
  intro hne
  rw [h.last _ (List.getLast?_eq_some_getLast hne)]
  exact Bool.false_ne_true

theorem scanFields_cons {stop : UInt8} {field : List UInt8} (hne : field ≠ []) (hstop : stop ∉ field)
    (stops rest : List UInt8) :
    scanFields (stop :: stops) (field ++ stop :: rest) = field :: scanFields stops rest := by
  rw [scanFields]
  simp only [takeWhile_cons_of_notMem hstop, if_neg hne, List.drop_left]

theorem scanFields_last {stop : UInt8} {field : List UInt8} (hne : field ≠ []) (hstop : stop ∉ field)
    (stops : List UInt8) : scanFields (stop :: stops) field = [field] := by
  rw [scanFields]
  simp only [takeWhile_of_notMem hstop, if_neg hne, List.drop_length]

/-- The variables are read back. -/
theorem varNamesOf_varsText {varNames : List (List UInt8)} (h : ∀ name ∈ varNames, IsName name)
    (hcount : varNames.length ≤ 10) : varNamesOf (varsText varNames) = varNames := by
  have hclose : 0x5D ∉ List.intercalate [0x2C] varNames :=
    notMem_intercalate (by decide) fun name hmem => (h name hmem).inside.2
  have hstop : (varsText varNames).idxOf? 0x5D
      = some ((List.intercalate [0x2C] varNames).length + 1) :=
    idxOf?_cons_of_notMem (List.not_mem_cons_of_ne_of_not_mem (by decide) hclose) []
  have hinside : bracketed (varsText varNames) = some (List.intercalate [0x2C] varNames) := by
    rw [bracketed, show (varsText varNames).idxOf? 0x5B = some 0 from rfl, hstop]
    simp [varsText]
  have hname : ∀ name ∈ varNames, varName name = name := by
    intro name hmem
    rw [varName, (h name hmem).trimEnd_eq]
    exact List.take_of_length_le (h name hmem).room
  rw [varNamesOf, hinside]
  show ((tokens 0x2C (List.intercalate [0x2C] varNames)).take 10).map varName = varNames
  rw [tokens_intercalate fun name hmem => ⟨(h name hmem).nonempty, (h name hmem).inside.1⟩,
    List.take_of_length_le hcount, List.map_congr_left hname, List.map_id']

/-- The fields of a line. -/
def rowOf (route : RouteTable) : List (List UInt8) :=
  [typeText route.type, route.source, route.target] ++
    if route.type = .query then [fcgiText route.fcgiType, varsText route.varNames]
    else [fcgiText route.fcgiType ++ [0x0A]]

theorem Writable.fields_routeLine (h : Writable route) :
    fields (routeLine route ++ [0x0A]) = rowOf route := by
  have htype : typeText route.type ≠ [] ∧ 0x7C ∉ typeText route.type := by
    cases route.type <;> decide
  have hfcgi : fcgiText route.fcgiType ≠ [] ∧ 0x7C ∉ fcgiText route.fcgiType ∧
      0x7C ∉ fcgiText route.fcgiType ++ [0x0A] := by
    cases route.fcgiType <;> decide
  have hline : routeLine route ++ [0x0A] = typeText route.type ++ 0x7C :: (route.source
      ++ 0x7C :: (route.target ++ 0x7C :: (lastFields route ++ [0x0A]))) := by
    simp [routeLine]
  rw [fields, hline, scanFields_cons htype.1 htype.2,
    scanFields_cons h.source.nonempty h.source.plain.2.2,
    scanFields_cons h.target.nonempty h.target.plain.2.2, rowOf, lastFields]
  by_cases hquery : route.type = .query
  · have hvars : 0x0A ∉ varsText route.varNames := by
      have hinside : 0x0A ∉ List.intercalate [0x2C] route.varNames :=
        notMem_intercalate (by decide) fun name hmem => (h.varNames name hmem).plain.2.1
      simpa [varsText] using hinside
    rw [if_pos hquery, if_pos hquery, List.append_assoc, List.cons_append,
      scanFields_cons hfcgi.1 hfcgi.2.1,
      scanFields_cons (show varsText route.varNames ≠ [] from List.cons_ne_nil _ _) hvars]
    rfl
  · rw [if_neg hquery, if_neg hquery, scanFields_last (by simp) hfcgi.2.2]
    rfl

/-- The line of a route is read as this route. -/
theorem Writable.routeOf_rowOf (h : Writable route) : routeOf (rowOf route) = some route := by
  have htype : routeType (trimEnd (typeText route.type)) = route.type := by
    cases route.type <;> decide
  have hfcgi : fcgiType (trimEnd (fcgiText route.fcgiType)) = route.fcgiType ∧
      fcgiType (trimEnd (fcgiText route.fcgiType ++ [0x0A])) = route.fcgiType := by
    cases route.fcgiType <;> decide
  by_cases hquery : route.type = .query
  · have hvars := varNamesOf_varsText h.varNames h.count
    rw [rowOf, if_pos hquery]
    simp only [List.cons_append, List.nil_append, routeOf, htype, h.source.trimEnd_eq,
      h.target.trimEnd_eq, hfcgi.1, if_pos hquery, List.head?_cons, Option.elim_some, hvars]
  · have hnone := h.query hquery
    rw [rowOf, if_neg hquery]
    simp only [List.cons_append, List.nil_append, routeOf, htype, h.source.trimEnd_eq,
      h.target.trimEnd_eq, hfcgi.2, if_neg hquery]
    rw [← hnone]

theorem Writable.fieldsFit (h : Writable route) : FieldsFit (routeLine route ++ [0x0A]) := by
  have htype : (typeText route.type).length < 16 := by cases route.type <;> decide
  have hfcgi : (fcgiText route.fcgiType).length < 15 := by cases route.fcgiType <;> decide
  have hsource : route.source.length < 64 := Nat.lt_succ_of_le h.source.room
  have htarget : route.target.length < 128 := Nat.lt_succ_of_le h.target.room
  have hvars : (varsText route.varNames).length < 256 := Nat.lt_succ_of_le h.room
  rw [FieldsFit, h.fields_routeLine, rowOf]
  split
  · simp only [fieldSizes, List.cons_append, List.nil_append, List.zip_cons_cons,
      List.forall_mem_cons]
    exact ⟨htype, hsource, htarget, by omega, hvars, fun p hp => (by cases hp)⟩
  · simp only [fieldSizes, List.cons_append, List.nil_append, List.zip_cons_cons,
      List.forall_mem_cons, List.length_append, List.length_singleton]
    exact ⟨htype, hsource, htarget, by omega, fun p hp => (by cases hp)⟩

/-- The line of a route has room in the array, and is one line. -/
theorem Writable.oneLine (h : Writable route) :
    (routeLine route).length < 511 ∧ 0 ∉ routeLine route ∧ 0x0A ∉ routeLine route := by
  have htype : (typeText route.type).length ≤ 5 ∧ 0 ∉ typeText route.type
      ∧ 0x0A ∉ typeText route.type := by
    cases route.type <;> decide
  have hfcgi : (fcgiText route.fcgiType).length ≤ 8 ∧ 0 ∉ fcgiText route.fcgiType
      ∧ 0x0A ∉ fcgiText route.fcgiType := by
    cases route.fcgiType <;> decide
  have hvars {c : UInt8} (hc : c = 0 ∨ c = 0x0A) (hno : ∀ name ∈ route.varNames, c ∉ name) :
      c ∉ varsText route.varNames := by
    have hinside : c ∉ List.intercalate [0x2C] route.varNames :=
      notMem_intercalate (by rcases hc with rfl | rfl <;> decide) hno
    rcases hc with rfl | rfl <;> simpa [varsText] using hinside
  have hlast : (lastFields route).length ≤ 264 ∧ 0 ∉ lastFields route ∧ 0x0A ∉ lastFields route := by
    have hroom := h.room
    have hnul := hvars (.inl rfl) fun name hname => (h.varNames name hname).plain.1
    have hend := hvars (.inr rfl) fun name hname => (h.varNames name hname).plain.2.1
    unfold lastFields
    split
    · simp only [List.length_append, List.length_cons, List.mem_append, List.mem_cons, not_or]
      exact ⟨by omega, ⟨hfcgi.2.1, by decide, hnul⟩, hfcgi.2.2, by decide, hend⟩
    · exact ⟨by omega, hfcgi.2⟩
  have hsource := h.source.room
  have htarget := h.target.room
  simp only [routeLine, List.length_append, List.length_cons, List.mem_append, List.mem_cons, not_or]
  exact ⟨by omega, ⟨htype.2.1, by decide, h.source.plain.1, by decide, h.target.plain.1, by decide,
    hlast.2.1⟩, htype.2.2, by decide, h.source.plain.2.1, by decide, h.target.plain.2.1, by decide,
    hlast.2.2⟩

/-- The loader takes the line for this route. -/
theorem Writable.lineRoute (h : Writable route) : lineRoute (routeLine route ++ [0x0A]) = some route := by
  have hnul : 0 ∉ routeLine route ++ [0x0A] := by
    simp only [List.mem_append, List.mem_singleton, not_or]
    exact ⟨h.oneLine.2.1, by decide⟩
  have hfirst : (routeLine route ++ [0x0A]).head?.any isSkipped = false := by
    rw [routeLine]
    cases route.type <;> rfl
  rw [RouteFile.lineRoute, hfirst, if_neg Bool.false_ne_true, (cstr_eq_self_iff _).mpr hnul,
    h.fields_routeLine, h.routeOf_rowOf]

end Written

/-- Only lines that fit are scanned if all lines of the file fit. -/
theorem fieldsFit_scannedLines {chunks : List (List UInt8)}
    (h : ∀ chunk ∈ chunks, FieldsFit (cstr chunk)) (count : Nat) :
    ∀ line ∈ scannedLines chunks count, FieldsFit line := by
  induction chunks generalizing count with
  | nil => exact fun line hline => (by cases hline)
  | cons chunk chunks ih =>
      rw [List.forall_mem_cons] at h
      rw [scannedLines]
      split
      · exact fun line hline => (by cases hline)
      · split
        · exact ih h.2 count
        · rw [List.forall_mem_cons]
          exact ⟨h.1, ih h.2 _⟩

/-- **A file written from routes is read back**, as far as there is room for them, after any loads of
other files before. -/
theorem routeFileText_table {routes : List RouteTable} (h : ∀ route ∈ routes, Writable route)
    (rs : List Reload) (hrs : ∀ r ∈ rs, r.Fits) (locals : Locals) :
    ∃ vh, reloads (rs ++ [.load locals (some (routeFileText routes))]) .zero = some vh ∧
      vh.table = some (routes.take maxRoutes) := by
  have hlines : fgetsLines 511 [] (routeFileText routes)
      = (routes.map routeLine).map fun line => line ++ [0x0A] := by
    refine fgetsLines_lines fun line hline => ?_
    obtain ⟨route, hroute, rfl⟩ := List.mem_map.mp hline
    exact ⟨(h route hroute).oneLine.2.2, (h route hroute).oneLine.1⟩
  have hfits : FileFits (routeFileText routes) := by
    rw [FileFits, hlines]
    refine fieldsFit_scannedLines (fun chunk hchunk => ?_) 0
    rw [List.map_map] at hchunk
    obtain ⟨route, hroute, rfl⟩ := List.mem_map.mp hchunk
    have hnul : 0 ∉ routeLine route ++ [0x0A] := by
      simp only [List.mem_append, List.mem_singleton, not_or]
      exact ⟨(h route hroute).oneLine.2.1, by decide⟩
    rw [Function.comp_apply, (cstr_eq_self_iff _).mpr hnul]
    exact (h route hroute).fieldsFit
  have hroutes : routesOf (routeFileText routes) = routes.take maxRoutes := by
    have hall : routes.filterMap (lineRoute ∘ fun route => routeLine route ++ [0x0A]) = routes := by
      calc routes.filterMap (lineRoute ∘ fun route => routeLine route ++ [0x0A])
          = routes.filterMap some := List.filterMap_congr fun route hroute => (h route hroute).lineRoute
        _ = routes := List.filterMap_some
    rw [routesOf, hlines, List.map_map, List.filterMap_map]
    exact congrArg (List.take maxRoutes) hall
  have hall : ∀ r ∈ rs ++ [.load locals (some (routeFileText routes))], r.Fits := by
    intro r hr
    rcases List.mem_append.mp hr with hr | hr
    · exact hrs r hr
    · obtain rfl := List.mem_singleton.mp hr
      exact hfits
  obtain ⟨vh, hload, htable⟩ := reloads_means hall VHostRoutes.inv_zero rfl
  refine ⟨vh, hload, ?_⟩
  rw [htable, List.foldl_append]
  exact congrArg some hroutes

/-- A route of each kind, behind a file that is gone. -/
theorem routeFileText_table_pair :
    ∃ vh, reloads ([.load .zero (some (ascii "PATH|/old|/o|FCGI_RS\n")), .reset]
        ++ [.load .zero (some (routeFileText [
          ⟨.path, ascii "/files", ascii "/f.php", .php, []⟩,
          ⟨.query, ascii "/a", ascii "/b", .py, [ascii "id", ascii "lang"]⟩]))]) .zero = some vh ∧
      vh.table = some [⟨.path, ascii "/files", ascii "/f.php", .php, []⟩,
        ⟨.query, ascii "/a", ascii "/b", .py, [ascii "id", ascii "lang"]⟩] := by
  have hfield {max : Nat} {s : List UInt8} (hne : s ≠ []) (hroom : s.length ≤ max)
      (hplain : 0 ∉ s ∧ 0x0A ∉ s ∧ 0x7C ∉ s) (hlast : isTrimmed (s.getLast hne) = false) :
      IsField max s := by
    refine ⟨hne, hroom, hplain, ?_⟩
    rw [List.getLast?_eq_some_getLast hne]
    exact fun c hc => Option.some.inj hc ▸ hlast
  refine routeFileText_table ?_ _ ?_ .zero
  · simp only [List.forall_mem_cons]
    refine ⟨⟨?_, ?_, ?_, by decide, by decide, fun _ => rfl⟩, ⟨?_, ?_, ?_, by decide, by decide,
      fun hno => absurd rfl hno⟩, fun r hr => (by cases hr)⟩
    · exact hfield (by decide) (by decide) (by decide) (by decide)
    · exact hfield (by decide) (by decide) (by decide) (by decide)
    · exact fun name hname => (by cases hname)
    · exact hfield (by decide) (by decide) (by decide) (by decide)
    · exact hfield (by decide) (by decide) (by decide) (by decide)
    · simp only [List.forall_mem_cons]
      exact ⟨⟨hfield (by decide) (by decide) (by decide) (by decide), by decide⟩,
        ⟨hfield (by decide) (by decide) (by decide) (by decide), by decide⟩,
        fun name hname => (by cases hname)⟩
  · simp only [List.forall_mem_cons, Reload.Fits]
    exact ⟨by decide +kernel, trivial, fun r hr => (by cases hr)⟩

end Halmos.Http.RouteFile
