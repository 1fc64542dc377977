import Halmos.Basic.Bytes
import Halmos.Basic.PosixPath

set_option autoImplicit false

/-! # Static files stay below the document root, or nearly

`sanitize_path` of `halmos_http_utils.c` and the static-file routes of both protocol versions.
The check that a resolved path lies below the root compares the first `strlen(root)` bytes and
not the separator behind them, so a sibling directory whose name begins with the root's name
passes it (`EscapesToSibling`). That is the only way out: without it every file that is opened
lies in the root's subtree.
-/

namespace Halmos.Http

open PosixPath

/-- What `stat` says a path is. -/
inductive FileKind where
  | regular
  | directory
  | other
  deriving DecidableEq, Repr

/-- The file system as the server sees it. Where `realpath` succeeds it returns a canonical
absolute path. -/
structure FileSystem where
  realpath : Path → Option Path
  realpath_canonical : ∀ {p r}, realpath p = some r → Canonical r
  stat : Path → Option FileKind
  canOpen : Path → Bool

/-- The resolved root without its trailing slash; only the root `/` has one. -/
def trimRoot (resolvedRoot : Path) : Path :=
  if resolvedRoot.getLast? = some slash then resolvedRoot.dropLast else resolvedRoot

/-- The two `snprintf` of `sanitize_path`, with their precisions. -/
def fullPath (resolvedRoot uri : Path) : Path :=
  if uri.head? = some slash then resolvedRoot.take 512 ++ uri.take 511
  else resolvedRoot.take 512 ++ slash :: uri.take 510

/-- `sanitize_path`; `PATH_MAX` is 4096. -/
def sanitizePath (fs : FileSystem) (root uri : Path) : Option Path :=
  match fs.realpath root with
  | none => none
  | some resolved =>
      let resolvedRoot := trimRoot resolved
      if resolvedRoot.length + uri.length + 2 > 4096 then none
      else
        match fs.realpath (fullPath resolvedRoot uri) with
        | none => none
        | some resolvedPath =>
            -- `strncmp(resolved_root, resolved_path, root_len)`
            if resolvedPath.take resolvedRoot.length ≠ resolvedRoot then none
            else some resolvedPath

/-- The virtual host's root if it has one, else the configured document root. -/
def activeRoot (vhRoot : Option Path) (documentRoot : Path) : Path :=
  match vhRoot with
  | some root => if root ≠ [] then root else documentRoot
  | none => documentRoot

/-- The file the static part of `http1_manager_routing_bridge` opens. -/
def http1ManagerRoutingBridge (fs : FileSystem) (vhRoot : Option Path)
    (documentRoot uri : Path) : Option Path :=
  match sanitizePath fs (activeRoot vhRoot documentRoot) uri with
  | none => none
  | some safePath =>
      if fs.stat safePath = some .regular ∧ fs.canOpen safePath then some safePath else none

/-- The file `route_static_file` opens for an HTTP/2 stream: anything but a directory. -/
def routeStaticFile (fs : FileSystem) (vhRoot : Option Path) (documentRoot uri : Path) :
    Option Path :=
  match sanitizePath fs (activeRoot vhRoot documentRoot) uri with
  | none => none
  | some safePath =>
      match fs.stat safePath with
      | none => none
      | some kind => if kind ≠ .directory ∧ fs.canOpen safePath then some safePath else none

/-- What a request reaches lies in the subtree of the resolved root: the path `sanitize_path`
returns, and the file each of the two routes opens. -/
structure Contained (fs : FileSystem) (vhRoot : Option Path) (documentRoot uri : Path)
    (resolved : Path) : Prop where
  sanitized : ∀ p, sanitizePath fs (activeRoot vhRoot documentRoot) uri = some p →
    InSubtree resolved p
  http1 : ∀ p, http1ManagerRoutingBridge fs vhRoot documentRoot uri = some p →
    InSubtree resolved p
  http2 : ∀ p, routeStaticFile fs vhRoot documentRoot uri = some p → InSubtree resolved p

/-- The joined path resolves to a path that continues the root's last name: a sibling of the
root, or something below one, such as `/srv/www-private` for the root `/srv/www`. -/
def EscapesToSibling (fs : FileSystem) (resolved uri : Path) : Prop :=
  (trimRoot resolved).length + uri.length + 2 ≤ 4096 ∧
  ∃ c rest, fs.realpath (fullPath (trimRoot resolved) uri)
    = some (trimRoot resolved ++ c :: rest) ∧ c ≠ slash

/-! ## What the check lets through -/

theorem trimRoot_slash : trimRoot [slash] = [] := rfl

theorem trimRoot_of_ne {resolved : Path} (h : Canonical resolved) (hne : resolved ≠ [slash]) :
    trimRoot resolved = resolved := if_neg (h.getLast?_ne hne)

/-- `sanitize_path` returns the resolved path exactly when it begins with the resolved root. -/
theorem sanitizePath_eq_some_iff {fs : FileSystem} {root uri resolved p : Path}
    (hroot : fs.realpath root = some resolved) :
    sanitizePath fs root uri = some p ↔
      (trimRoot resolved).length + uri.length + 2 ≤ 4096 ∧
      fs.realpath (fullPath (trimRoot resolved) uri) = some p ∧ trimRoot resolved <+: p := by
  unfold sanitizePath
  simp only [hroot]
  by_cases hlong : (trimRoot resolved).length + uri.length + 2 > 4096
  · rw [if_pos hlong]
    constructor
    · intro h
      cases h
    · rintro ⟨hle, -⟩
      omega
  · rw [if_neg hlong]
    cases hp : fs.realpath (fullPath (trimRoot resolved) uri) with
    | none => simp
    | some resolvedPath =>
        simp only
        by_cases htake : resolvedPath.take (trimRoot resolved).length = trimRoot resolved
        · rw [if_neg (not_not.mpr htake)]
          constructor
          · intro h
            injection h with h
            subst h
            exact ⟨by omega, rfl, List.prefix_iff_eq_take.mpr htake.symm⟩
          · rintro ⟨-, heq, -⟩
            exact heq
        · rw [if_pos htake]
          constructor
          · intro h
            cases h
          · rintro ⟨-, heq, hpre⟩
            injection heq with heq
            subst heq
            exact absurd (List.prefix_iff_eq_take.mp hpre).symm htake

/-- Below the root, or on a sibling: a canonical path that begins with the root's name. -/
theorem inSubtree_iff_of_isPrefix {resolved rest : Path} (hroot : Canonical resolved)
    (hp : Canonical (trimRoot resolved ++ rest)) :
    InSubtree resolved (trimRoot resolved ++ rest) ↔ ¬ ∃ c t, rest = c :: t ∧ c ≠ slash := by
  by_cases hslash : resolved = [slash]
  · -- everything is below the root of the file system
    subst hslash
    rw [trimRoot_slash, List.nil_append] at hp ⊢
    obtain ⟨t, rfl⟩ := hp.eq_cons
    refine iff_of_true (Or.inr ?_) ?_
    · rw [if_pos rfl]
      exact ⟨t, rfl⟩
    · rintro ⟨c, t', heq, hne⟩
      injection heq with hc
      exact hne hc.symm
  · rw [trimRoot_of_ne hroot hslash]
    unfold InSubtree
    rw [if_neg hslash]
    constructor
    · rintro (heq | ⟨t, ht⟩) ⟨c, t', rfl, hne⟩
      · have hnil : c :: t' = [] := List.append_right_eq_self.mp heq
        cases hnil
      · rw [List.append_assoc, List.append_cancel_left_eq] at ht
        injection ht with hc
        exact hne hc.symm
    · intro hnot
      cases rest with
      | nil => exact Or.inl (List.append_nil resolved)
      | cons c t =>
          have hc : c = slash := by
            by_contra hne
            exact hnot ⟨c, t, rfl, hne⟩
          refine Or.inr ⟨t, ?_⟩
          rw [hc, List.append_assoc]
          rfl

theorem http1ManagerRoutingBridge_sanitized {fs : FileSystem} {vhRoot : Option Path}
    {documentRoot uri p : Path}
    (h : http1ManagerRoutingBridge fs vhRoot documentRoot uri = some p) :
    sanitizePath fs (activeRoot vhRoot documentRoot) uri = some p := by
  unfold http1ManagerRoutingBridge at h
  split at h
  · cases h
  · next hsan =>
      split at h
      · rw [hsan, h]
      · cases h

theorem routeStaticFile_sanitized {fs : FileSystem} {vhRoot : Option Path}
    {documentRoot uri p : Path} (h : routeStaticFile fs vhRoot documentRoot uri = some p) :
    sanitizePath fs (activeRoot vhRoot documentRoot) uri = some p := by
  unfold routeStaticFile at h
  split at h
  · cases h
  · next hsan =>
      split at h
      · cases h
      · split at h
        · rw [hsan, h]
        · cases h

/-- **Containment.** For every file system, root and request, everything the request reaches
lies in the root's subtree if and only if the joined path does not resolve to a sibling whose
name continues the root's. -/
theorem contained_iff (fs : FileSystem) (vhRoot : Option Path) (documentRoot uri : Path) :
    (∀ resolved, fs.realpath (activeRoot vhRoot documentRoot) = some resolved →
      Contained fs vhRoot documentRoot uri resolved) ↔
    ∀ resolved, fs.realpath (activeRoot vhRoot documentRoot) = some resolved →
      ¬ EscapesToSibling fs resolved uri := by
  refine forall_congr' fun resolved => forall_congr' fun hroot => ?_
  have hcanon := fs.realpath_canonical hroot
  constructor
  · rintro h ⟨hlen, c, rest, hp, hne⟩
    have hsan : sanitizePath fs (activeRoot vhRoot documentRoot) uri
        = some (trimRoot resolved ++ c :: rest) :=
      (sanitizePath_eq_some_iff hroot).mpr ⟨hlen, hp, List.prefix_append _ _⟩
    have hin := h.sanitized _ hsan
    rw [inSubtree_iff_of_isPrefix hcanon (fs.realpath_canonical hp)] at hin
    exact hin ⟨c, rest, rfl, hne⟩
  · intro hnot
    have hsan : ∀ p, sanitizePath fs (activeRoot vhRoot documentRoot) uri = some p →
        InSubtree resolved p := by
      intro p h
      obtain ⟨hlen, hp, rest, rfl⟩ := (sanitizePath_eq_some_iff hroot).mp h
      rw [inSubtree_iff_of_isPrefix hcanon (fs.realpath_canonical hp)]
      rintro ⟨c, t, rfl, hne⟩
      exact hnot ⟨hlen, c, t, hp, hne⟩
    exact ⟨hsan, fun p h => hsan p (http1ManagerRoutingBridge_sanitized h),
      fun p h => hsan p (routeStaticFile_sanitized h)⟩

/-! ## The sibling of a document root -/

/-- A small tree: `/srv/www/index.html` and `/srv/www-private/key`. -/
def siblingEntries : List (List Path) :=
  [[ascii "srv"], [ascii "srv", ascii "www"], [ascii "srv", ascii "www", ascii "index.html"],
    [ascii "srv", ascii "www-private"], [ascii "srv", ascii "www-private", ascii "key"]]

def siblingFiles : FileSystem where
  realpath := resolve siblingEntries
  realpath_canonical := resolve_canonical
  stat p :=
    if p = ascii "/srv/www/index.html" ∨ p = ascii "/srv/www-private/key" then some .regular
    else some .directory
  canOpen _ := true

/-- With the root `/srv/www`, the target `/../www-private/key` opens the key. -/
theorem contained_fails :
    ¬ ∀ (fs : FileSystem) (vhRoot : Option Path) (documentRoot uri resolved : Path),
      fs.realpath (activeRoot vhRoot documentRoot) = some resolved →
      Contained fs vhRoot documentRoot uri resolved := by
  intro h
  have hroot : siblingFiles.realpath (activeRoot none (ascii "/srv/www"))
      = some (ascii "/srv/www") := by decide
  have hopen : http1ManagerRoutingBridge siblingFiles none (ascii "/srv/www")
      (ascii "/../www-private/key") = some (ascii "/srv/www-private/key") := by decide
  have hin := (h siblingFiles none (ascii "/srv/www") (ascii "/../www-private/key")
    (ascii "/srv/www") hroot).http1 _ hopen
  revert hin
  unfold InSubtree
  decide

end Halmos.Http
