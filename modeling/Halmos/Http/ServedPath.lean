import Halmos.Http.StaticFile
import Halmos.Http1.Session

set_option autoImplicit false

/-! # The file that is served and the URI it was checked by

`sanitize_path` refuses a URI that does not fit a path of 4096 bytes, and then joins it with the
root by an `snprintf` that takes 512 bytes of the root and 511 of the URI. `has_extension` looks at
1023 bytes of it. So a long URI is checked as one path and served as another (`script_source_served`),
and the two are the same for every file system exactly if nothing is cut (`served_iff`).
-/

namespace Halmos.Http

open PosixPath Http1

/-- The root and the complete URI. -/
def joinedPath (resolvedRoot uri : Path) : Path :=
  if uri.head? = some slash then resolvedRoot ++ uri else resolvedRoot ++ slash :: uri

/-- The two `snprintf` of `sanitize_path` take all of the root and of the URI. -/
def Uncut (resolvedRoot uri : Path) : Prop :=
  resolvedRoot.length ≤ 512 ∧ uri.length ≤ if uri.head? = some slash then 511 else 510

instance (resolvedRoot uri : Path) : Decidable (Uncut resolvedRoot uri) :=
  inferInstanceAs (Decidable (_ ∧ _))

/-- The last bytes of the URI are the extension, in whatever case. -/
def endsInExtension (uri ext : List UInt8) : Bool :=
  ext ≠ [] && ext.length ≤ uri.length && strcasecmpEq (cstr (uri.drop (uri.length - ext.length))) ext

/-- What is served is the root joined with the complete URI, and what was looked at for an extension
is the complete URI as well. -/
structure ServesChecked (fs : FileSystem) (vhRoot : Option Path) (documentRoot uri : Path)
    (resolved : Path) : Prop where
  sanitized : ∀ p, sanitizePath fs (activeRoot vhRoot documentRoot) uri = some p →
    fs.realpath (joinedPath (trimRoot resolved) uri) = some p
  http1 : ∀ p, http1ManagerRoutingBridge fs vhRoot documentRoot uri = some p →
    fs.realpath (joinedPath (trimRoot resolved) uri) = some p
  http2 : ∀ p, routeStaticFile fs vhRoot documentRoot uri = some p →
    fs.realpath (joinedPath (trimRoot resolved) uri) = some p
  checked : (sanitizePath fs (activeRoot vhRoot documentRoot) uri).isSome = true →
    ∀ ext, hasExtension uri none ext = endsInExtension uri ext

/-! ## Where nothing is cut -/

theorem joinedPath_length (resolvedRoot uri : Path) : (joinedPath resolvedRoot uri).length
    = resolvedRoot.length + uri.length + if uri.head? = some slash then 0 else 1 := by
  unfold joinedPath
  split
  · rw [List.length_append, Nat.add_zero]
  · rw [List.length_append, List.length_cons, Nat.add_assoc]

theorem fullPath_eq_iff (resolvedRoot uri : Path) :
    fullPath resolvedRoot uri = joinedPath resolvedRoot uri ↔ Uncut resolvedRoot uri := by
  unfold Uncut
  constructor
  · intro h
    have hlen := congrArg List.length h
    rw [joinedPath_length] at hlen
    unfold fullPath at hlen
    by_cases hslash : uri.head? = some slash
    · rw [if_pos hslash]
      simp only [if_pos hslash, List.length_append, List.length_take] at hlen
      omega
    · rw [if_neg hslash]
      simp only [if_neg hslash, List.length_append, List.length_cons, List.length_take] at hlen
      omega
  · rintro ⟨hroot, huri⟩
    unfold fullPath joinedPath
    split
    · next hslash =>
        rw [if_pos hslash] at huri
        rw [List.take_of_length_le hroot, List.take_of_length_le huri]
    · next hslash =>
        rw [if_neg hslash] at huri
        rw [List.take_of_length_le hroot, List.take_of_length_le huri]

/-- `has_extension` looks at the end of a URI of less than 1024 bytes. -/
theorem hasExtension_short {uri : List UInt8} (h : uri.length ≤ 1023) (ext : List UInt8) :
    hasExtension uri none ext = endsInExtension uri ext := by
  have hall : (uri ++ List.replicate 1023 0).take uri.length = uri := List.take_left
  simp only [hasExtension, endsInExtension, Option.getD_none, Nat.min_eq_left h, hall]

/-! ## Where something is cut -/

/-- A file system in which everything leads to the root, but for the joined path. -/
def onlyRoot (resolved missing : Path) (h : Canonical resolved) : FileSystem where
  realpath p := if p = missing then none else some resolved
  realpath_canonical := by
    intro p r hr
    split at hr
    · cases hr
    · obtain rfl := Option.some.inj hr
      exact h
  stat _ := some .regular
  canOpen _ := true

/-- The joined path is longer than the root. -/
theorem joinedPath_ne {resolved uri : Path} (h : Canonical resolved)
    (hcut : ¬ Uncut (trimRoot resolved) uri) :
    resolved ≠ joinedPath (trimRoot resolved) uri := by
  intro heq
  have hlen := congrArg List.length heq
  rw [joinedPath_length] at hlen
  unfold Uncut at hcut
  by_cases hslash : resolved = [slash]
  · subst hslash
    rw [trimRoot_slash] at hlen hcut
    simp only [List.length_singleton, List.length_nil] at hlen hcut
    split at hcut <;> omega
  · rw [trimRoot_of_ne h hslash] at hlen
    cases uri with
    | nil => simp at hlen
    | cons b uri =>
        rw [List.length_cons] at hlen
        omega

/-- **The file that is served** is the one of the complete URI, and the one that was looked at, in
every file system and for every root that resolves to `resolved`, if and only if the URI is refused
as too long or nothing of it and of the root is cut. -/
theorem served_iff {resolved : Path} (hresolved : Canonical resolved) (uri : Path) :
    (∀ (fs : FileSystem) (vhRoot : Option Path) (documentRoot : Path),
        fs.realpath (activeRoot vhRoot documentRoot) = some resolved →
        ServesChecked fs vhRoot documentRoot uri resolved) ↔
      ((trimRoot resolved).length + uri.length + 2 ≤ 4096 → Uncut (trimRoot resolved) uri) := by
  constructor
  · intro h hlen
    by_contra hcut
    have hne := joinedPath_ne hresolved hcut
    have hfull : fullPath (trimRoot resolved) uri ≠ joinedPath (trimRoot resolved) uri :=
      fun heq => hcut ((fullPath_eq_iff _ _).mp heq)
    have hroot : (onlyRoot resolved (joinedPath (trimRoot resolved) uri) hresolved).realpath
        (activeRoot none resolved) = some resolved := if_neg hne
    have hsan := (h _ none resolved hroot).sanitized resolved
      ((sanitizePath_eq_some_iff hroot).mpr ⟨hlen, if_neg hfull, ?_⟩)
    · rw [show (onlyRoot resolved (joinedPath (trimRoot resolved) uri) hresolved).realpath
        (joinedPath (trimRoot resolved) uri) = none from if_pos rfl] at hsan
      cases hsan
    · unfold trimRoot
      split
      · exact List.dropLast_prefix resolved
      · exact List.prefix_refl resolved
  · intro h fs vhRoot documentRoot hroot
    have hsan : ∀ p, sanitizePath fs (activeRoot vhRoot documentRoot) uri = some p →
        Uncut (trimRoot resolved) uri ∧ fs.realpath (joinedPath (trimRoot resolved) uri) = some p := by
      intro p hp
      obtain ⟨hlen, hreal, -⟩ := (sanitizePath_eq_some_iff hroot).mp hp
      rw [(fullPath_eq_iff _ _).mpr (h hlen)] at hreal
      exact ⟨h hlen, hreal⟩
    refine ⟨fun p hp => (hsan p hp).2, fun p hp => ?_, fun p hp => ?_, fun hsome ext => ?_⟩
    · exact (hsan p (http1ManagerRoutingBridge_sanitized hp)).2
    · exact (hsan p (routeStaticFile_sanitized hp)).2
    · obtain ⟨p, hp⟩ := Option.isSome_iff_exists.mp hsome
      have huncut := (hsan p hp).1
      unfold Uncut at huncut
      exact hasExtension_short (by split at huncut <;> omega) ext

/-- The root `/srv/www` and a short target. -/
theorem served_short : Canonical (ascii "/srv/www") ∧
    ∀ (fs : FileSystem) (vhRoot : Option Path) (documentRoot : Path),
      fs.realpath (activeRoot vhRoot documentRoot) = some (ascii "/srv/www") →
      ServesChecked fs vhRoot documentRoot (ascii "/index.html") (ascii "/srv/www") := by
  have hroot : Canonical (ascii "/srv/www") := by
    refine ⟨[ascii "srv", ascii "www"], fun c hc => ?_, by decide⟩
    rcases List.mem_pair.mp hc with rfl | rfl <;> constructor <;> decide
  exact ⟨hroot, (served_iff hroot (ascii "/index.html")).mpr fun _ => by decide⟩

/-! ## The source of a script -/

/-- A small tree with a script: `/srv/www/index.php`. -/
def scriptFiles : FileSystem where
  realpath := resolve [[ascii "srv"], [ascii "srv", ascii "www"],
    [ascii "srv", ascii "www", ascii "index.php"]]
  realpath_canonical := resolve_canonical
  stat p := if p = ascii "/srv/www/index.php" then some .regular else some .directory
  canOpen _ := true

/-- The URI is `/index.php.txt` behind 501 more slashes: it does not end in `.php`, and its first
511 bytes do. -/
theorem script_source_served :
    let uri := List.replicate 501 slash ++ ascii "/index.php.txt"
    hasExtension uri none (ascii ".php") = false ∧
      http1ManagerRoutingBridge scriptFiles none (ascii "/srv/www") uri
        = some (ascii "/srv/www/index.php") ∧
      scriptFiles.realpath (joinedPath (trimRoot (ascii "/srv/www")) uri) = none ∧
      ¬ ServesChecked scriptFiles none (ascii "/srv/www") uri (ascii "/srv/www") := by
  intro uri
  have hserved : http1ManagerRoutingBridge scriptFiles none (ascii "/srv/www") uri
      = some (ascii "/srv/www/index.php") := by decide +kernel
  have hmissing : scriptFiles.realpath (joinedPath (trimRoot (ascii "/srv/www")) uri) = none := by
    decide +kernel
  refine ⟨by decide +kernel, hserved, hmissing, fun h => ?_⟩
  have hpath := h.http1 _ hserved
  rw [hmissing] at hpath
  cases hpath

end Halmos.Http
