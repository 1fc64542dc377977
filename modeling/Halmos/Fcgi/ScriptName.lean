import Halmos.Basic.Search
import Halmos.Fcgi.Params
import Halmos.Http1.Header

set_option autoImplicit false

/-! # The name of the script

The parser cuts a path in two: the script file, and the path info behind it. It only keeps where
the path info begins, and `fcgi_proto_build_params` looks for the cut again, with a search for the
text of the path info. It finds the place where that text occurs first, which is the cut exactly
if the text does not occur before (`scriptName_split_iff`).
-/

namespace Halmos.Fcgi

/-- `%s%s` of the root and a script, with one slash where both have one. -/
def joinRoot (root script : List UInt8) : List UInt8 :=
  if root.getLast? = some 47 ∧ script.head? = some 47 then root ++ script.drop 1 else root ++ script

/-- The parameters that are sent name the script and what is behind it in the path. -/
structure NamesScript (cfg : CgiConfig) (req : CgiRequest) (contentLength : Nat)
    (script pathInfo : List UInt8) : Prop where
  script_name : (sentPairs cfg req contentLength).lookup (ascii "SCRIPT_NAME") = some script
  script_filename : (sentPairs cfg req contentLength).lookup (ascii "SCRIPT_FILENAME")
    = some (joinRoot cfg.activeRoot script)
  path_info : ∀ value, (ascii "PATH_INFO", value) ∈ sentPairs cfg req contentLength →
    script ++ value = script ++ pathInfo

section Parser

theorem strrchr_eq_some_iff {s : List UInt8} {c : UInt8} {i : Nat} :
    Http1.strrchr s c = some i ↔ ∃ a b, s = a ++ c :: b ∧ c ∉ b ∧ i = a.length := by
  unfold Http1.strrchr
  constructor
  · intro h
    obtain ⟨j, hj, rfl⟩ := Option.map_eq_some_iff.mp h
    obtain ⟨b, a, hrev, hb, rfl⟩ := idxOf?_iff_append.mp hj
    have hs : s = a.reverse ++ c :: b.reverse := by
      simpa using congrArg List.reverse hrev
    refine ⟨a.reverse, b.reverse, hs, by simpa using hb, ?_⟩
    rw [hs]
    simp
  · rintro ⟨a, b, rfl, hb, rfl⟩
    have hrev : (a ++ c :: b).reverse = b.reverse ++ c :: a.reverse := by simp
    rw [hrev, idxOf?_append (by simpa using hb)]
    simp

/-- **The cut of the parser**: the path info begins at a slash behind the last dot. -/
theorem pathInfoOf_split {uStart : Nat} {path : List UInt8} {p : Http1.Ptr}
    (h : Http1.pathInfoOf uStart path = some p) :
    ∃ script pathInfo, path = script ++ 47 :: pathInfo ∧ 46 ∈ script
      ∧ p = .buffer (uStart + script.length) := by
  obtain ⟨lastDot, hdot, h⟩ := Option.bind_eq_some_iff.mp h
  obtain ⟨slash, hslash, h⟩ := Option.bind_eq_some_iff.mp h
  obtain ⟨a, tail, rfl, -, rfl⟩ := strrchr_eq_some_iff.mp hdot
  rw [List.drop_left] at hslash
  obtain ⟨b, pathInfo, hsplit, -, rfl⟩ := idxOf?_iff_append.mp hslash
  cases b with
  | nil => cases hsplit
  | cons dot b =>
      refine ⟨a ++ dot :: b, pathInfo, ?_, ?_, ?_⟩
      · rw [hsplit, List.append_assoc]
      · have hdot := (List.cons.inj hsplit).1
        simp [← hdot]
      · rw [List.length_append, ← Nat.add_assoc]
        exact (Option.some.inj h).symm

end Parser

section Cut

variable {cfg : CgiConfig} {req : CgiRequest} {contentLength : Nat} {script pathInfo : List UInt8}

/-- The buffer of 4096 bytes holds the file name. -/
theorem fullScriptPath_eq {root script : List UInt8} (h : root.length + script.length < 4096) :
    fullScriptPath root script = joinRoot root script := by
  unfold fullScriptPath joinRoot
  split
  · apply List.take_of_length_le
    rw [List.length_append, List.length_drop]
    omega
  · apply List.take_of_length_le
    rw [List.length_append]
    omega

/-- **The search for the cut** finds it exactly if the path info does not occur before. -/
theorem scriptNameOnly_eq_iff (huri : req.uri = some (script ++ pathInfo))
    (hinfo : req.pathInfo = some pathInfo) (hlen : (script ++ pathInfo).length < 512)
    (hquery : 63 ∉ script ++ pathInfo) (hscript : script ≠ []) (hne : pathInfo ≠ []) :
    scriptNameOnly req = script
      ↔ ∀ before after, script ++ pathInfo = before ++ (pathInfo ++ after) →
        script.length ≤ before.length := by
  have hpath : ((req.uri.getD (ascii "/")).take 511).takeWhile (fun c => c ≠ 63)
      = script ++ pathInfo := by
    rw [huri, Option.getD_some, List.take_of_length_le (by omega)]
    apply List.takeWhile_eq_self_iff.mpr
    intro c hc
    have hne : c ≠ 63 := fun h => hquery (h ▸ hc)
    simpa using hne
  have hsome : (strstr pathInfo (script ++ pathInfo)).isSome = true :=
    strstr_isSome_iff.mpr (List.suffix_append script pathInfo).isInfix
  obtain ⟨⟨before, found⟩, hfound⟩ := Option.isSome_iff_exists.mp hsome
  obtain ⟨hsplit, ⟨after, hafter⟩⟩ := strstr_sound hfound
  -- the end of the path is an occurrence
  have hend : script ++ pathInfo = script ++ (pathInfo ++ []) := by rw [List.append_nil]
  have hle : before.length ≤ script.length := strstr_first hfound hend
  unfold scriptNameOnly
  rw [hpath, hinfo]
  dsimp only
  rw [if_neg hne, hfound]
  dsimp only
  constructor
  · intro h b a hoccurs
    have hfirst := strstr_first hfound hoccurs
    split at h
    · exact absurd (List.append_right_eq_self.mp h) hne
    · rw [h] at hfirst
      exact hfirst
  · intro h
    have hge := h before after (by rw [hafter]; exact hsplit)
    have hbefore : before = script := by
      have htake := congrArg (List.take before.length) hsplit
      rwa [List.take_left, show before.length = script.length by omega, List.take_left,
        eq_comm] at htake
    rw [hbefore, if_neg hscript]

/-- The pairs that fit are among those that are tried. -/
theorem fittingPairs_subset {maxLen offset : Nat} {pairs : List Pair} :
    ∀ p ∈ fittingPairs maxLen offset pairs, p ∈ pairs := by
  induction pairs generalizing offset with
  | nil => simp [fittingPairs]
  | cons q pairs ih =>
      intro p hp
      rw [fittingPairs] at hp
      split at hp
      · rcases List.mem_cons.mp hp with rfl | hp
        · exact List.mem_cons_self
        · exact List.mem_cons_of_mem q (ih p hp)
      · exact List.mem_cons_of_mem q (ih p hp)

/-- What is sent under `PATH_INFO` is the path info of the request. -/
theorem pathInfo_of_sent {value : List UInt8}
    (h : (ascii "PATH_INFO", value) ∈ sentPairs cfg req contentLength) :
    value = req.pathInfo.getD [] := by
  have hmem := fittingPairs_subset _ h
  unfold paramCalls at hmem
  -- no other key is `PATH_INFO`
  split at hmem <;> split at hmem <;>
    simpa +decide only [List.mem_append, List.mem_cons, List.not_mem_nil, Prod.mk.injEq,
      Option.mem_toList, Option.mem_def, Option.map_eq_some_iff, false_and, and_false, true_and,
      exists_false, or_false, false_or] using hmem

theorem scriptNameOnly_length (req : CgiRequest) : (scriptNameOnly req).length ≤ 511 := by
  have hscript : (((req.uri.getD (ascii "/")).take 511).takeWhile (fun c => c ≠ 63)).length ≤ 511 :=
    (List.takeWhile_prefix _).length_le.trans (List.length_take_le _ _)
  unfold scriptNameOnly
  dsimp only
  split
  · exact hscript
  · split
    · exact hscript
    · split
      · next before found hfound =>
          split
          · exact hscript
          · have hlen := congrArg List.length (strstr_sound hfound).1
            rw [List.length_append] at hlen
            omega
      · exact hscript

/-- The root and the name of the script are always sent. -/
theorem sentPairs_head (req : CgiRequest) (contentLength : Nat)
    (hroot : cfg.activeRoot.length < 1024) :
    ∃ rest, sentPairs cfg req contentLength
      = (ascii "DOCUMENT_ROOT", cfg.activeRoot)
        :: (ascii "SCRIPT_FILENAME", fullScriptPath cfg.activeRoot (scriptNameOnly req))
        :: (ascii "SCRIPT_NAME", scriptNameOnly req) :: rest := by
  have hscript := scriptNameOnly_length req
  have hpath : (fullScriptPath cfg.activeRoot (scriptNameOnly req)).length ≤ 4095 :=
    List.length_take_le _ _
  have hcap : gatherBufSize = 65536 := rfl
  have hkeys : (ascii "DOCUMENT_ROOT").length = 13 ∧ (ascii "SCRIPT_FILENAME").length = 15
      ∧ (ascii "SCRIPT_NAME").length = 11 := by decide
  obtain ⟨tail, htail⟩ : ∃ tail, paramCalls cfg req contentLength
      = (ascii "DOCUMENT_ROOT", cfg.activeRoot)
        :: (ascii "SCRIPT_FILENAME", fullScriptPath cfg.activeRoot (scriptNameOnly req))
        :: (ascii "SCRIPT_NAME", scriptNameOnly req) :: tail := ⟨_, rfl⟩
  unfold sentPairs
  rw [htail, fittingPairs, if_pos, fittingPairs, if_pos, fittingPairs, if_pos]
  · exact ⟨_, rfl⟩
  all_goals
    simp only [encodePair_length, hkeys]
    grind

/-- **The cut in the parameters**: the script that the application is told is the one in front of
the path info exactly if the text of the path info does not occur earlier in the path. -/
theorem scriptName_split_iff (cfg : CgiConfig) (req : CgiRequest) (contentLength : Nat)
    (script pathInfo : List UInt8) (huri : req.uri = some (script ++ pathInfo))
    (hinfo : req.pathInfo = some pathInfo) (hlen : (script ++ pathInfo).length < 512)
    (hquery : 63 ∉ script ++ pathInfo) (hscript : script ≠ []) (hslash : pathInfo.head? = some 47)
    (hroot : cfg.activeRoot.length < 1024) :
    NamesScript cfg req contentLength script pathInfo
      ↔ ∀ before after, script ++ pathInfo = before ++ (pathInfo ++ after) →
        script.length ≤ before.length := by
  have hne : pathInfo ≠ [] := by
    rintro rfl
    cases hslash
  rw [← scriptNameOnly_eq_iff huri hinfo hlen hquery hscript hne]
  obtain ⟨rest, hrest⟩ := sentPairs_head req contentLength hroot
  have hname : (sentPairs cfg req contentLength).lookup (ascii "SCRIPT_NAME")
      = some (scriptNameOnly req) := by
    rw [hrest, List.lookup_cons, List.lookup_cons, List.lookup_cons_self]
    rfl
  have hfile : (sentPairs cfg req contentLength).lookup (ascii "SCRIPT_FILENAME")
      = some (fullScriptPath cfg.activeRoot (scriptNameOnly req)) := by
    rw [hrest, List.lookup_cons, List.lookup_cons_self]
    rfl
  constructor
  · intro h
    exact Option.some.inj (hname.symm.trans h.script_name)
  · intro h
    rw [h] at hname hfile
    have hshort := scriptNameOnly_length req
    rw [h] at hshort
    refine ⟨hname, ?_, ?_⟩
    · rw [hfile, fullScriptPath_eq (by omega)]
    · intro value hvalue
      rw [pathInfo_of_sent hvalue, hinfo, Option.getD_some]

end Cut

/-- GET of a path with path info. -/
def pathRequest (uri pathInfo : String) : CgiRequest :=
  { plainRequest with uri := some (ascii uri), pathInfo := some (ascii pathInfo) }

/-- `/extra` occurs once. -/
theorem scriptName_split_extra :
    NamesScript plainConfig (pathRequest "/index.php/extra" "/extra") 0 (ascii "/index.php")
        (ascii "/extra")
      ↔ ∀ before after, ascii "/index.php" ++ ascii "/extra" = before ++ (ascii "/extra" ++ after) →
        (ascii "/index.php").length ≤ before.length :=
  scriptName_split_iff plainConfig (pathRequest "/index.php/extra" "/extra") 0
    (ascii "/index.php") (ascii "/extra") (by decide) (by decide) (by decide) (by decide)
    (by decide) (by decide) (by decide)

example : Http1.pathInfoOf 4 (ascii "/shop/cart.php/cart") = some (.buffer 18) := by decide

/-- `/cart` begins the name of the script, and the directory is run in its place. -/
theorem script_cut_short :
    ¬ ∀ (cfg : CgiConfig) (req : CgiRequest) (contentLength : Nat) (script pathInfo : List UInt8),
      req.uri = some (script ++ pathInfo) → req.pathInfo = some pathInfo →
        (script ++ pathInfo).length < 512 → 63 ∉ script ++ pathInfo → script ≠ [] →
        pathInfo.head? = some 47 → cfg.activeRoot.length < 1024 →
        NamesScript cfg req contentLength script pathInfo := by
  intro h
  have hname := (h plainConfig (pathRequest "/shop/cart.php/cart" "/cart") 0
    (ascii "/shop/cart.php") (ascii "/cart") (by decide) (by decide) (by decide) (by decide)
    (by decide) (by decide) (by decide)).script_name
  exact absurd hname (by decide +kernel)

end Halmos.Fcgi
