import Halmos.Basic.BinarySearch
import Halmos.Http1.Header

set_option autoImplicit false

/-! # MIME types

`get_mime_type` searches a table for the extension of a file. The search is a binary one, and a
comment asks that the table be in alphabetical order; but `.js` is in front of `.jpg`. The search
answers as a walk through the table would, except for the extension `.js` (`getMimeType_walks_iff`).
-/

namespace Halmos.Http

/-- `MimeMap`. -/
structure MimeMap where
  ext : List UInt8
  type : List UInt8
  deriving DecidableEq

/-- `mime_types`. -/
def mimeTypes : List MimeMap :=
  [⟨ascii ".css", ascii "text/css"⟩,
    ⟨ascii ".gif", ascii "image/gif"⟩,
    ⟨ascii ".html", ascii "text/html"⟩,
    ⟨ascii ".ico", ascii "image/x-icon"⟩,
    ⟨ascii ".js", ascii "text/javascript"⟩,
    ⟨ascii ".jpg", ascii "image/jpeg"⟩,
    ⟨ascii ".png", ascii "image/png"⟩,
    ⟨ascii ".txt", ascii "text/plain"⟩]

/-- `strcmp`, on the bytes in front of the NULs. -/
def strcmp : List UInt8 → List UInt8 → Ordering := List.compareLex compare

instance : Std.TransCmp strcmp := inferInstanceAs (Std.TransCmp (List.compareLex compare))

instance : Std.LawfulEqCmp strcmp := inferInstanceAs (Std.LawfulEqCmp (List.compareLex compare))

/-- `strrchr(file, '.')`. -/
def fileExt (file : List UInt8) : Option (List UInt8) := (Http1.strrchr file 0x2E).map file.drop

/-- The type of an entry, or that of a file that is not known. -/
def typeOr (entry : Option MimeMap) : List UInt8 :=
  entry.elim (ascii "application/octet-stream") MimeMap.type

/-- `get_mime_type`, with any table. -/
def getMimeTypeIn (table : List MimeMap) (file : List UInt8) : List UInt8 :=
  match fileExt file with
  | none => ascii "text/html"
  | some dot => typeOr ((binarySearch strcmp (table.map MimeMap.ext) dot).bind fun mid => table[mid]?)

/-- `get_mime_type`. -/
def getMimeType (file : List UInt8) : List UInt8 := getMimeTypeIn mimeTypes file

/-- What a walk through the table gives. -/
def walkMimeType (table : List MimeMap) (file : List UInt8) : List UInt8 :=
  match fileExt file with
  | none => ascii "text/html"
  | some dot => typeOr (table.find? fun entry => entry.ext = dot)

section MimeTypes

variable {table : List MimeMap} {dot : List UInt8}

theorem strcmp_eq_iff (a b : List UInt8) : strcmp a b = .eq ↔ a = b :=
  Std.LawfulEqCmp.compare_eq_iff_eq

/-- An extension that is not in the table is not found, in whatever order the table is. -/
theorem binarySearch_eq_none (h : ∀ entry ∈ table, entry.ext ≠ dot) :
    binarySearch strcmp (table.map MimeMap.ext) dot = none := by
  cases hfound : binarySearch strcmp (table.map MimeMap.ext) dot with
  | none => rfl
  | some mid =>
      obtain ⟨key, hkey, heq⟩ := binarySearch_some hfound
      rw [strcmp_eq_iff] at heq
      obtain ⟨entry, hentry, hext⟩ := List.mem_map.mp (List.mem_of_getElem? hkey)
      exact absurd (hext.trans heq.symm) (h entry hentry)

/-- A table in alphabetical order. -/
theorem getMimeTypeIn_sorted
    (hsorted : (table.map MimeMap.ext).Pairwise fun a b => strcmp a b = .lt) (file : List UInt8) :
    getMimeTypeIn table file = walkMimeType table file := by
  unfold getMimeTypeIn walkMimeType
  cases fileExt file with
  | none => rfl
  | some dot =>
      show typeOr _ = typeOr _
      cases hwalk : table.find? fun entry => entry.ext = dot with
      | none =>
          have hno : ∀ entry ∈ table, entry.ext ≠ dot := by simpa using hwalk
          rw [binarySearch_eq_none hno]
          rfl
      | some entry =>
          have hext : entry.ext = dot := by simpa using List.find?_some hwalk
          obtain ⟨mid, hmid, hentry⟩ := List.mem_iff_getElem.mp (List.mem_of_find?_eq_some hwalk)
          have hkey : (table.map MimeMap.ext)[mid]? = some dot := by
            simp [List.getElem?_eq_getElem hmid, hentry, hext]
          rw [binarySearch_sorted hsorted hkey, Option.bind_some, List.getElem?_eq_getElem hmid, hentry]

/-- The table of the source. -/
theorem binarySearch_mimeTypes (dot : List UInt8) :
    typeOr ((binarySearch strcmp (mimeTypes.map MimeMap.ext) dot).bind fun mid => mimeTypes[mid]?)
        = typeOr (mimeTypes.find? fun entry => entry.ext = dot) ↔ dot ≠ ascii ".js" := by
  by_cases hmem : dot ∈ mimeTypes.map MimeMap.ext
  · have hall : ∀ dot ∈ mimeTypes.map MimeMap.ext,
        (typeOr ((binarySearch strcmp (mimeTypes.map MimeMap.ext) dot).bind fun mid => mimeTypes[mid]?)
          = typeOr (mimeTypes.find? fun entry => entry.ext = dot) ↔ dot ≠ ascii ".js") := by
      decide +kernel
    exact hall dot hmem
  · have hno : ∀ entry ∈ mimeTypes, entry.ext ≠ dot := by
      intro entry hentry hext
      exact hmem (List.mem_map.mpr ⟨entry, hentry, hext⟩)
    have hwalk : (mimeTypes.find? fun entry => entry.ext = dot) = none := by simpa using hno
    rw [binarySearch_eq_none hno, hwalk]
    have hjs : dot ≠ ascii ".js" := by
      rintro rfl
      exact hmem (by decide)
    simp [hjs]

end MimeTypes

/-- **The binary search and the walk**: they give the same type for every file but one whose
extension is `.js`, and in a table in alphabetical order for every file. -/
theorem getMimeType_walks_iff (file : List UInt8) :
    (getMimeType file = walkMimeType mimeTypes file ↔ fileExt file ≠ some (ascii ".js")) ∧
      ∀ table : List MimeMap, ((table.map MimeMap.ext).Pairwise fun a b => strcmp a b = .lt) →
        getMimeTypeIn table file = walkMimeType table file := by
  refine ⟨?_, fun table hsorted => getMimeTypeIn_sorted hsorted file⟩
  unfold getMimeType getMimeTypeIn walkMimeType
  cases fileExt file with
  | none => simp
  | some dot => simpa using binarySearch_mimeTypes dot

end Halmos.Http
