/-
The checksums of a stand bundle, as `tools/create_stand_bundle.py` writes them and as
`tools/verify_stand_bundle.py` reads them.

A bundle is a finite map from relative paths to bytes, and a path is the list of its parts.  The
verifier follows a declared path wherever it leads, so what is outside of the bundle, or is reached
through a parent directory, is a parameter.
-/
import CpuPrefetch.Protocol.Json
import CpuPrefetch.Tools.AppendOnlyRecords

namespace CpuPrefetch.Tools.StandBundle

open CalibrationStatistics (Bytes PyText encode literal)
open Protocol (Sha256)

/-! ### Files -/

/-- The parts of a relative path. -/
abbrev RelativePath := List PyText

/-- The path of a file below the root of a bundle. -/
def IsRelative (path : RelativePath) : Prop :=
  path ≠ [] ∧ ∀ part ∈ path, part ≠ [] ∧ 47 ∉ part ∧ part ≠ literal "." ∧ part ≠ literal ".."

instance (path : RelativePath) : Decidable (IsRelative path) :=
  inferInstanceAs (Decidable (_ ∧ _))

structure FileSet where
  entries : List (RelativePath × Bytes)
  distinct : (entries.map Prod.fst).Nodup
  relative : ∀ path ∈ entries.map Prod.fst, IsRelative path

def FileSet.paths (files : FileSet) : List RelativePath := files.entries.map Prod.fst

def FileSet.find (files : FileSet) (path : RelativePath) : Option Bytes :=
  (files.entries.find? fun entry => entry.1 = path).map Prod.snd

/-- `Path.write_bytes`, of a file that may have been there. -/
def FileSet.write (files : FileSet) (path : RelativePath) (h : IsRelative path) (bytes : Bytes) :
    FileSet where
  entries := (path, bytes) :: files.entries.filter fun entry => entry.1 ≠ path
  distinct := by
    rw [List.map_cons, List.nodup_cons]
    refine ⟨fun hmem => ?_, (List.filter_sublist.map Prod.fst).nodup files.distinct⟩
    obtain ⟨entry, hentry, hpath⟩ := List.mem_map.mp hmem
    exact of_decide_eq_true (List.mem_filter.mp hentry).2 hpath
  relative := by
    rw [List.map_cons, List.forall_mem_cons]
    exact ⟨h, fun other hother =>
      files.relative other ((List.filter_sublist.map Prod.fst).subset hother)⟩

variable (sha256 : Bytes → Sha256)

/-- `sha256`, of a file with these bytes. -/
def hexdigest (bytes : Bytes) : PyText :=
  (sha256 bytes).hex.map UInt8.toUInt32

def SHA256SUMS : PyText := literal "SHA256SUMS"

def checksumPath : RelativePath := [SHA256SUMS]

theorem checksumPath_relative : IsRelative checksumPath := by decide

/-! ### Creation -/

/-- `Path.as_posix`. -/
def asPosix (path : RelativePath) : PyText := [47].intercalate path

/-- `checksum_files`; the base name of a path is its last part. -/
def checksumFiles (staging : FileSet) : List (RelativePath × Bytes) :=
  (staging.entries.filter fun entry => entry.1.getLast? ≠ some SHA256SUMS).insertionSort
    fun left right => left.1 ≤ right.1

def checksumLine (file : RelativePath × Bytes) : PyText :=
  hexdigest sha256 file.2 ++ literal "  " ++ asPosix file.1

def checksumText (staging : FileSet) : PyText :=
  (checksumFiles staging).flatMap fun file => checksumLine sha256 file ++ literal "\n"

/-- The bundle, unless a name in it is not UTF-8. -/
def createBundle (staging : FileSet) : Option FileSet :=
  (encode (checksumText sha256 staging)).map
    (staging.write checksumPath checksumPath_relative)

/-! ### Verification -/

/-- The line ends that reading a text file makes into newlines. -/
def universalNewlines : PyText → PyText
  | [] => []
  | 13 :: 10 :: rest => 10 :: universalNewlines rest
  | codePoint :: rest => (if codePoint = 13 then 10 else codePoint) :: universalNewlines rest

/-- The code points at which `str.splitlines` ends a line. -/
def isLineBoundary (codePoint : UInt32) : Bool :=
  codePoint ∈ ([0x0a, 0x0b, 0x0c, 0x0d, 0x1c, 0x1d, 0x1e, 0x85, 0x2028, 0x2029] : List UInt32)

/-- `str.splitlines`, after this much of a line. -/
def splitLines (line : PyText) : PyText → List PyText
  | [] => if line.isEmpty then [] else [line]
  | 13 :: 10 :: rest => line :: splitLines [] rest
  | codePoint :: rest =>
      if isLineBoundary codePoint then line :: splitLines [] rest
      else splitLines (line ++ [codePoint]) rest

/-- `line.split("  ", maxsplit=1)`, when it has two parts. -/
def splitOnce : PyText → Option (PyText × PyText)
  | [] => none
  | 32 :: 32 :: rest => some ([], rest)
  | codePoint :: rest => (splitOnce rest).map fun parts => (codePoint :: parts.1, parts.2)

/-- `pathlib.PurePosixPath`; its root is empty, or one slash or two. -/
structure PurePosixPath where
  root : PyText
  parts : List PyText
  deriving DecidableEq

def parsePath (text : PyText) : PurePosixPath :=
  let slashes := (text.takeWhile (· = 47)).length
  ⟨if slashes = 0 then [] else if slashes = 2 then [47, 47] else [47],
    (text.splitOn 47).filter fun part => part ≠ [] && part ≠ literal "."⟩

/-- The file that a declared path leads to. -/
def followed (elsewhere : PurePosixPath → Option Bytes) (files : FileSet) (path : PurePosixPath) :
    Option Bytes :=
  if path.root = [] && literal ".." ∉ path.parts then files.find path.parts else elsewhere path

inductive Failure where
  /-- `missing declared file` -/
  | missing (relative : PurePosixPath)
  /-- `SHA-256 mismatch` -/
  | mismatch (relative : PurePosixPath)
  /-- `inventory mismatch`, of the paths that are only declared and those that only are there -/
  | inventory (missing extra : Finset PurePosixPath)
  deriving DecidableEq

/-- What stops the verifier before it has looked at every line. -/
inductive VerifyError where
  | fileNotFoundError
  | unicodeDecodeError
  | valueError
  deriving DecidableEq, Repr

/-- One turn of the loop over the lines: what is declared, and what is wrong with it. -/
def checkLine (elsewhere : PurePosixPath → Option Bytes) (files : FileSet) (line : PyText) :
    Except VerifyError (PurePosixPath × List Failure) :=
  match splitOnce line with
  | none => .error .valueError
  | some (expected, relativeText) =>
      let relative := parsePath relativeText
      match followed elsewhere files relative with
      | none => .ok (relative, [.missing relative])
      | some bytes =>
          .ok (relative, if hexdigest sha256 bytes ≠ expected then [.mismatch relative] else [])

def actualPaths (files : FileSet) : Finset PurePosixPath :=
  ((files.paths.filter fun path => path ≠ checksumPath).map (PurePosixPath.mk [])).toFinset

/-- The lines of `SHA256SUMS`, as they are read. -/
def checksumLines (files : FileSet) : Except VerifyError (List PyText) :=
  match files.find checksumPath with
  | none => .error .fileNotFoundError
  | some bytes =>
      match Protocol.Json.decodeUtf8 bytes with
      | .error _ => .error .unicodeDecodeError
      | .ok text => .ok (splitLines [] (universalNewlines text))

/-- `main` of the verifier up to the inventory; it goes on to the manifest. -/
def verifyInventory (elsewhere : PurePosixPath → Option Bytes) (files : FileSet) :
    Except VerifyError (List Failure) := do
  let lines ← checksumLines files
  let checked ← lines.mapM (checkLine sha256 elsewhere files)
  let declared := (checked.map Prod.fst).toFinset
  let actual := actualPaths files
  .ok (checked.flatMap Prod.snd ++
    if actual ≠ declared then [.inventory (declared \ actual) (actual \ declared)] else [])

end CpuPrefetch.Tools.StandBundle
