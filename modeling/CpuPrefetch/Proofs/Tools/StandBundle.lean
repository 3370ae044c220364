/-
When the verifier accepts the bundle that was created.

The creator leaves every file of the checksums' name out, at whatever depth, and the verifier only
the one at the root; and a line of the checksums ends wherever Python ends one, which a file name
may contain.  A bundle without such names is accepted as it was made, and no other bundle with its
checksums is.  With one, the bundle itself is refused.
-/
import CpuPrefetch.Lib.Fallible
import CpuPrefetch.Lib.Keyed
import CpuPrefetch.Proofs.Tools.AppendOnlyRecords
import CpuPrefetch.Tools.StandBundle

namespace CpuPrefetch.Tools.StandBundle

open List
open CalibrationStatistics (Bytes PyText encode encode_decodes literal)
open Protocol (Sha256)

variable {sha256 : Bytes → Sha256} {elsewhere : PurePosixPath → Option Bytes}
  {files other staging created : FileSet} {path : RelativePath} {bytes : Bytes}
  {line text rest : PyText} {codePoint : UInt32}

/-! ### Files -/

theorem find_eq_some_iff : files.find path = some bytes ↔ (path, bytes) ∈ files.entries := by
  rw [FileSet.find, Option.map_eq_some_iff]
  simp only [Keyed.find_eq_some_iff files.distinct]
  constructor
  · rintro ⟨⟨_, _⟩, ⟨hmem, rfl⟩, rfl⟩
    exact hmem
  · intro hmem
    exact ⟨_, ⟨hmem, rfl⟩, rfl⟩

theorem mem_paths : path ∈ files.paths ↔ ∃ bytes, files.find path = some bytes := by
  simp [FileSet.paths, find_eq_some_iff]

theorem find_write (hpath : IsRelative path) {asked : RelativePath} :
    (files.write path hpath bytes).find asked =
      if asked = path then some bytes else files.find asked := by
  ext found
  rw [find_eq_some_iff, FileSet.write, mem_cons, mem_filter, decide_eq_true_eq]
  split
  · rename_i hsame
    simp [hsame, eq_comm]
  · rename_i hother
    simp [hother, find_eq_some_iff]

/-! ### Lines -/

/-- No line ends in the text. -/
def OneLine (text : PyText) : Prop := ∀ codePoint ∈ text, isLineBoundary codePoint = false

theorem oneLine_nil : OneLine [] := forall_mem_nil _

theorem OneLine.append {left right : PyText} (hleft : OneLine left) (hright : OneLine right) :
    OneLine (left ++ right) := fun codePoint hmem =>
  (List.mem_append.mp hmem).elim (hleft codePoint) (hright codePoint)

/-- No line ends in a line. -/
theorem oneLine_of_splitLines (hline : OneLine line) {found : PyText}
    (hfound : found ∈ splitLines line text) : OneLine found := by
  induction line, text using splitLines.induct with
  | case1 line hempty =>
      rw [splitLines, if_pos hempty] at hfound
      cases hfound
  | case2 line hrest =>
      rw [splitLines, if_neg hrest] at hfound
      rwa [List.mem_singleton.mp hfound]
  | case3 line rest ih =>
      rw [splitLines] at hfound
      rcases List.mem_cons.mp hfound with rfl | hlater
      · exact hline
      · exact ih oneLine_nil hlater
  | case4 line codePoint rest hreturn hboundary ih =>
      rw [splitLines, if_pos hboundary] at hfound
      · rcases List.mem_cons.mp hfound with rfl | hlater
        · exact hline
        · exact ih oneLine_nil hlater
      · exact hreturn
  | case5 line codePoint rest hreturn hboundary ih =>
      rw [splitLines, if_neg hboundary] at hfound
      · refine ih (hline.append ?_) hfound
        rintro _ hmem
        rw [List.mem_singleton.mp hmem]
        exact Bool.eq_false_iff.mpr hboundary
      · exact hreturn

theorem not_return (h : isLineBoundary codePoint = false) : codePoint ≠ 13 := by
  rintro rfl
  cases h

/-- What has no line end is read up to the newline after it. -/
theorem splitLines_line (h : OneLine text) :
    splitLines line (text ++ 10 :: rest) = (line ++ text) :: splitLines [] rest := by
  induction text generalizing line with
  | nil =>
      rw [nil_append, append_nil, splitLines, if_pos (by decide)]
      nofun
  | cons codePoint text ih =>
      obtain ⟨hfirst, hlater⟩ := List.forall_mem_cons.mp h
      rw [cons_append, splitLines, if_neg (by rw [hfirst]; exact Bool.false_ne_true),
        ih hlater, append_assoc, singleton_append]
      rintro _ hreturn
      exact absurd hreturn (not_return hfirst)

theorem universalNewlines_eq (h : 13 ∉ text) : universalNewlines text = text := by
  induction text with
  | nil => rfl
  | cons codePoint text ih =>
      obtain ⟨hfirst, hlater⟩ := ne_and_not_mem_of_not_mem_cons h
      rw [universalNewlines, if_neg (Ne.symm hfirst), ih hlater]
      rintro _ hreturn
      exact absurd hreturn.symm hfirst

/-- Lines that are written one after another are read back. -/
theorem splitLines_written {lines : List PyText} (h : ∀ line ∈ lines, OneLine line) :
    splitLines [] (universalNewlines (lines.flatMap (· ++ [10]))) = lines := by
  have hreturn : 13 ∉ lines.flatMap (· ++ [10]) := by
    intro hmem
    obtain ⟨line, hline, hmem⟩ := List.mem_flatMap.mp hmem
    rcases List.mem_append.mp hmem with hmem | hmem
    · exact not_return (h line hline 13 hmem) rfl
    · exact absurd (List.mem_singleton.mp hmem) (by decide)
  rw [universalNewlines_eq hreturn]
  induction lines with
  | nil => rfl
  | cons line rest ih =>
      obtain ⟨hfirst, hlater⟩ := List.forall_mem_cons.mp h
      rw [flatMap_cons, append_assoc, singleton_append, splitLines_line hfirst,
        nil_append, ih hlater]
      exact fun hmem => hreturn (by simp [hmem])

/-! ### Paths -/

theorem splitOnce_append {digest : PyText} (h : 32 ∉ digest) :
    splitOnce (digest ++ 32 :: 32 :: rest) = some (digest, rest) := by
  induction digest with
  | nil => rfl
  | cons codePoint digest ih =>
      obtain ⟨hfirst, hlater⟩ := ne_and_not_mem_of_not_mem_cons h
      rw [cons_append, splitOnce, ih hlater]
      · rfl
      · rintro _ hspace
        exact absurd hspace.symm hfirst

theorem mem_of_splitOnce {expected : PyText} (h : splitOnce line = some (expected, rest))
    (hmem : codePoint ∈ rest) : codePoint ∈ line := by
  induction line using splitOnce.induct generalizing expected with
  | case1 => cases h
  | case2 found =>
      obtain ⟨rfl, rfl⟩ := Prod.mk.inj (Option.some.inj h)
      simp [hmem]
  | case3 first later hspaces ih =>
      rw [splitOnce] at h
      · obtain ⟨⟨_, _⟩, hlater, hparts⟩ := Option.map_eq_some_iff.mp h
        obtain ⟨rfl, rfl⟩ := Prod.mk.inj hparts
        exact mem_cons_of_mem _ (ih hlater)
      · exact hspaces

theorem parsePath_asPosix (h : IsRelative path) : parsePath (asPosix path) = ⟨[], path⟩ := by
  obtain ⟨hne, hparts⟩ := h
  have hsplit : (asPosix path).splitOn 47 = path :=
    splitOn_intercalate 47 (fun part hpart => (hparts part hpart).2.1) hne
  have hfilter : path.filter (fun part => part ≠ [] && part ≠ literal ".") = path := by
    rw [filter_eq_self]
    intro part hpart
    obtain ⟨hempty, -, hdot, -⟩ := hparts part hpart
    simp [hempty, hdot]
  have hroot : (asPosix path).takeWhile (· = 47) = [] := by
    obtain ⟨first, others, rfl⟩ := exists_cons_of_ne_nil hne
    obtain ⟨hempty, hslash, -⟩ := hparts first mem_cons_self
    obtain ⟨codePoint, later, rfl⟩ := exists_cons_of_ne_nil hempty
    have hfirst : codePoint ≠ 47 := fun hsame => hslash (hsame ▸ mem_cons_self)
    rw [asPosix, intercalate_cons_cons_left, takeWhile_cons_of_neg (by simpa using hfirst)]
  rw [parsePath, hsplit, hfilter, hroot]
  rfl

theorem mem_intercalate {parts : List PyText} {part separator : PyText} (hpart : part ∈ parts)
    (hmem : codePoint ∈ part) : codePoint ∈ separator.intercalate parts := by
  induction parts with
  | nil => cases hpart
  | cons first others ih =>
      by_cases hlast : others = []
      · subst hlast
        rw [mem_singleton] at hpart
        rwa [intercalate_singleton, ← hpart]
      · rw [intercalate_cons_of_ne_nil hlast]
        rcases List.mem_cons.mp hpart with rfl | hlater
        · simp [hmem]
        · simp [ih hlater]

theorem mem_of_parsePath {part : PyText} (hpart : part ∈ (parsePath text).parts)
    (hmem : codePoint ∈ part) : codePoint ∈ text := by
  have hsplit : [47].intercalate (text.splitOn 47) = text := intercalate_splitOn 47
  rw [← hsplit]
  exact mem_intercalate (mem_of_mem_filter hpart) hmem

/-! ### What is written -/

theorem hexdigest_plain (hmem : codePoint ∈ hexdigest sha256 bytes) :
    isLineBoundary codePoint = false ∧ codePoint ≠ 32 := by
  obtain ⟨byte, hbyte, rfl⟩ := List.mem_map.mp hmem
  have hvalid := (sha256 bytes).valid
  rw [Protocol.validSha256, Bool.and_eq_true] at hvalid
  have hhex := List.all_eq_true.mp hvalid.2 byte hbyte
  have hword : byte.toUInt32.toNat = byte.toNat := UInt8.toNat_toUInt32 byte
  have hbounds : 48 ≤ byte.toUInt32.toNat ∧ byte.toUInt32.toNat ≤ 102 := by
    simp only [Protocol.isLowerHex, Bool.or_eq_true, Bool.and_eq_true, decide_eq_true_eq,
      UInt8.le_iff_toNat_le, UInt8.reduceToNat] at hhex
    omega
  constructor
  · rw [isLineBoundary, decide_eq_false_iff_not]
    intro hboundary
    have hvalues : ∀ value ∈ ([0x0a, 0x0b, 0x0c, 0x0d, 0x1c, 0x1d, 0x1e, 0x85, 0x2028, 0x2029] :
        List UInt32), value.toNat < 48 ∨ 102 < value.toNat := by simp
    have hvalue := hvalues _ hboundary
    omega
  · intro hspace
    rw [hspace] at hbounds
    exact absurd hbounds.1 (by decide)

theorem literal_spaces : literal "  " = [32, 32] := by decide

theorem literal_newline : literal "\n" = [10] := by decide

theorem oneLine_intercalate {parts : List PyText} (h : ∀ part ∈ parts, OneLine part) :
    OneLine ([47].intercalate parts) := by
  have hslash : OneLine [47] := List.forall_mem_singleton.mpr (by decide)
  induction parts with
  | nil => nofun
  | cons first others ih =>
      obtain ⟨hfirst, hlater⟩ := List.forall_mem_cons.mp h
      by_cases hlast : others = []
      · subst hlast
        rwa [intercalate_singleton]
      · rw [intercalate_cons_of_ne_nil hlast]
        exact (hfirst.append hslash).append (ih hlater)

theorem oneLine_checksumLine (file : RelativePath × Bytes) (h : ∀ part ∈ file.1, OneLine part) :
    OneLine (checksumLine sha256 file) := by
  have hdigest : OneLine (hexdigest sha256 file.2) :=
    fun codePoint hmem => (hexdigest_plain hmem).1
  have hspaces : OneLine (literal "  ") := by
    rw [literal_spaces]
    exact List.forall_mem_cons.mpr ⟨by decide, List.forall_mem_singleton.mpr (by decide)⟩
  exact (hdigest.append hspaces).append (oneLine_intercalate h)

theorem splitOnce_checksumLine (file : RelativePath × Bytes) :
    splitOnce (checksumLine sha256 file) = some (hexdigest sha256 file.2, asPosix file.1) := by
  have hspace : 32 ∉ hexdigest sha256 file.2 := fun hmem => (hexdigest_plain hmem).2 rfl
  rw [checksumLine, literal_spaces, append_assoc]
  exact splitOnce_append hspace

theorem hexdigest_inj {left right : Bytes} (h : hexdigest sha256 left = hexdigest sha256 right) :
    sha256 left = sha256 right := by
  have hword : Function.Injective UInt8.toUInt32 := by
    intro left right hsame
    have hnat := congrArg UInt32.toNat hsame
    rw [UInt8.toNat_toUInt32, UInt8.toNat_toUInt32] at hnat
    exact UInt8.toNat_inj.mp hnat
  have hhex : (sha256 left).hex = (sha256 right).hex := List.map_injective_iff.mpr hword h
  cases hleft : sha256 left
  cases hright : sha256 right
  rw [hleft, hright] at hhex
  exact (Sha256.mk.injEq ..).mpr hhex

variable {file : RelativePath × Bytes}

theorem mem_checksumFiles : file ∈ checksumFiles staging ↔
    staging.find file.1 = some file.2 ∧ file.1.getLast? ≠ some SHA256SUMS := by
  rw [checksumFiles, (perm_insertionSort _ _).mem_iff, mem_filter, decide_eq_true_eq,
    find_eq_some_iff]

/-! ### What is read -/

theorem checksumLines_of (h : createBundle sha256 staging = some created)
    (hsame : other.find checksumPath = created.find checksumPath) :
    checksumLines other =
      .ok (splitLines [] (universalNewlines (checksumText sha256 staging))) := by
  obtain ⟨bytes, hencode, rfl⟩ := Option.map_eq_some_iff.mp h
  rw [find_write checksumPath_relative, if_pos rfl] at hsame
  rw [checksumLines, hsame]
  dsimp only
  rw [encode_decodes hencode]

/-- A created bundle has what was staged, beside the checksums. -/
theorem find_created (h : createBundle sha256 staging = some created)
    (hpath : path ≠ checksumPath) :
    created.find path = staging.find path := by
  obtain ⟨bytes, -, rfl⟩ := Option.map_eq_some_iff.mp h
  rw [find_write checksumPath_relative, if_neg hpath]

theorem mem_actualPaths {relative : PurePosixPath} : relative ∈ actualPaths files ↔
    ∃ path bytes, files.find path = some bytes ∧ path ≠ checksumPath ∧ relative = ⟨[], path⟩ := by
  simp only [actualPaths, mem_toFinset, mem_map, mem_filter, decide_eq_true_eq,
    mem_paths]
  constructor
  · rintro ⟨path, ⟨⟨bytes, hfind⟩, hpath⟩, rfl⟩
    exact ⟨path, bytes, hfind, hpath, rfl⟩
  · rintro ⟨path, bytes, hfind, hpath, rfl⟩
    exact ⟨path, ⟨⟨bytes, hfind⟩, hpath⟩, rfl⟩

/-- What a line that can be read declares. -/
theorem checkLine_ok {checked : PurePosixPath × List Failure}
    (h : checkLine sha256 elsewhere files line = .ok checked) :
    ∃ expected relativeText, splitOnce line = some (expected, relativeText) ∧
      checked.1 = parsePath relativeText := by
  unfold checkLine at h
  split at h
  · cases h
  · rename_i expected relativeText hsplit
    refine ⟨expected, relativeText, hsplit, ?_⟩
    dsimp only at h
    split at h
    · rw [← Except.ok.inj h]
    · rw [← Except.ok.inj h]

/-- A bundle is accepted when every line can be read and is right, and they declare what
is there. -/
theorem verifyInventory_accepts : verifyInventory sha256 elsewhere files = .ok [] ↔
    ∃ lines checked, checksumLines files = .ok lines ∧
      lines.mapM (checkLine sha256 elsewhere files) = .ok checked ∧
      checked.flatMap Prod.snd = [] ∧ actualPaths files = (checked.map Prod.fst).toFinset := by
  constructor
  · intro h
    obtain ⟨lines, hlines, h⟩ := Fallible.bind_ok h
    obtain ⟨checked, hchecked, h⟩ := Fallible.bind_ok h
    obtain ⟨hfailures, hinventory⟩ := List.append_eq_nil_iff.mp (Except.ok.inj h)
    refine ⟨lines, checked, hlines, hchecked, hfailures, ?_⟩
    by_contra hne
    rw [if_pos hne] at hinventory
    cases hinventory
  · rintro ⟨lines, checked, hlines, hchecked, hfailures, hinventory⟩
    rw [verifyInventory, hlines, Fallible.ok_bind, hchecked, Fallible.ok_bind, hfailures]
    dsimp only
    rw [if_neg (not_not_intro hinventory), append_nil]

/-! ### The files of a bundle -/

theorem relative_of_find (h : files.find path = some bytes) : IsRelative path :=
  files.relative path (mem_paths.mpr ⟨bytes, h⟩)

/-- What is wrong with a file that was listed. -/
def fileFailures (sha256 : Bytes → Sha256) (files : FileSet) (file : RelativePath × Bytes) :
    List Failure :=
  match files.find file.1 with
  | none => [.missing ⟨[], file.1⟩]
  | some bytes =>
      if hexdigest sha256 bytes ≠ hexdigest sha256 file.2 then [.mismatch ⟨[], file.1⟩] else []

theorem checkLine_checksumLine (h : IsRelative file.1) :
    checkLine sha256 elsewhere files (checksumLine sha256 file) =
      .ok (⟨[], file.1⟩, fileFailures sha256 files file) := by
  have hinside : literal ".." ∉ file.1 := fun hmem => (h.2 _ hmem).2.2.2 rfl
  have hfollowed : followed elsewhere files ⟨[], file.1⟩ = files.find file.1 := by
    simp [followed, hinside]
  rw [checkLine, splitOnce_checksumLine]
  dsimp only
  rw [parsePath_asPosix h, hfollowed, fileFailures]
  cases files.find file.1 with
  | none => rfl
  | some bytes => rfl

theorem fileFailures_eq_nil : fileFailures sha256 files file = [] ↔
    ∃ bytes, files.find file.1 = some bytes ∧ sha256 bytes = sha256 file.2 := by
  unfold fileFailures
  cases files.find file.1 with
  | none => simp
  | some bytes =>
      dsimp only
      split
      · rename_i hdiffers
        refine iff_of_false (cons_ne_nil _ _) ?_
        rintro ⟨_, hfound, hsame⟩
        obtain rfl := Option.some.inj hfound
        exact hdiffers (by rw [hexdigest, hexdigest, hsame])
      · rename_i hsame
        exact iff_of_true rfl ⟨bytes, rfl, hexdigest_inj (not_not.mp hsame)⟩

/-- No file that is listed has a path in which a line ends. -/
def OneLinePaths (staging : FileSet) : Prop :=
  ∀ file ∈ checksumFiles staging, ∀ part ∈ file.1, OneLine part

/-- Without line ends in the paths, a bundle with the checksums of another is checked against the
files of that one. -/
theorem verifyInventory_listed (hpaths : OneLinePaths staging)
    (h : createBundle sha256 staging = some created)
    (hsame : other.find checksumPath = created.find checksumPath) :
    verifyInventory sha256 elsewhere other = .ok ((checksumFiles staging).flatMap
      (fileFailures sha256 other) ++
        (let declared :=
          ((checksumFiles staging).map fun file => PurePosixPath.mk [] file.1).toFinset
        let actual := actualPaths other
        if actual ≠ declared then [.inventory (declared \ actual) (actual \ declared)]
        else [])) := by
  have hlines : checksumLines other = .ok ((checksumFiles staging).map (checksumLine sha256)) := by
    have hjoined : (checksumFiles staging).flatMap (fun file => checksumLine sha256 file ++ [10]) =
        ((checksumFiles staging).map (checksumLine sha256)).flatMap (· ++ [10]) := by
      rw [flatMap_map]
    rw [checksumLines_of h hsame, checksumText, literal_newline, hjoined, splitLines_written]
    rintro line hline
    obtain ⟨file, hfile, rfl⟩ := List.mem_map.mp hline
    exact oneLine_checksumLine file (hpaths file hfile)
  have hchecked : ((checksumFiles staging).map (checksumLine sha256)).mapM
      (checkLine sha256 elsewhere other) = .ok ((checksumFiles staging).map fun file =>
        (PurePosixPath.mk [] file.1, fileFailures sha256 other file)) := by
    rw [mapM_map]
    refine Fallible.mapM_of_forall fun file hfile => checkLine_checksumLine ?_
    exact relative_of_find (mem_checksumFiles.mp hfile).1
  rw [verifyInventory, hlines, Fallible.ok_bind, hchecked, Fallible.ok_bind, map_map,
    flatMap_map]
  rfl

/-! ### Agreement -/

/-- Below the root, no staged file has the checksums' name, and no line ends in a path. -/
def Listable (staging : FileSet) : Prop :=
  ∀ path ∈ staging.paths, path ≠ checksumPath →
    path.getLast? ≠ some SHA256SUMS ∧ ∀ part ∈ path, OneLine part

/-- No file of the one has the digest of a different file under the same path of the other. -/
def NoCollision (sha256 : Bytes → Sha256) (left right : FileSet) : Prop :=
  ∀ path leftBytes rightBytes, left.find path = some leftBytes → right.find path = some rightBytes →
    sha256 leftBytes = sha256 rightBytes → leftBytes = rightBytes

/-- A bundle is accepted as it was made, and a failure is reported of every other one that has its
checksums. -/
structure Agrees (sha256 : Bytes → Sha256) (elsewhere : PurePosixPath → Option Bytes)
    (created : FileSet) : Prop where
  unchanged : verifyInventory sha256 elsewhere created = .ok []
  changed : ∀ other : FileSet, other.find checksumPath = created.find checksumPath →
    NoCollision sha256 created other → (∃ path, other.find path ≠ created.find path) →
      ∃ failures, verifyInventory sha256 elsewhere other = .ok failures ∧ failures ≠ []

theorem Listable.oneLinePaths (h : Listable staging) : OneLinePaths staging := by
  intro file hfile
  obtain ⟨hfind, hname⟩ := mem_checksumFiles.mp hfile
  refine (h file.1 (mem_paths.mpr ⟨_, hfind⟩) ?_).2
  intro hroot
  rw [hroot] at hname
  exact hname rfl

/-- The listed files are the staged ones, beside the checksums. -/
theorem Listable.listed (h : Listable staging) :
    file ∈ checksumFiles staging ↔ staging.find file.1 = some file.2 ∧ file.1 ≠ checksumPath := by
  rw [mem_checksumFiles, and_congr_right_iff]
  intro hfind
  constructor
  · rintro hname hroot
    rw [hroot] at hname
    exact hname rfl
  · exact fun hpath => (h file.1 (mem_paths.mpr ⟨_, hfind⟩) hpath).1

/-- A bundle of listable files is accepted exactly if it is the one that was created. -/
theorem Listable.accepts_iff (h : Listable staging)
    (hcreated : createBundle sha256 staging = some created)
    (hsame : other.find checksumPath = created.find checksumPath)
    (hcollision : NoCollision sha256 created other) :
    verifyInventory sha256 elsewhere other = .ok [] ↔
      ∀ path, other.find path = created.find path := by
  have hstaged : ∀ path, path ≠ checksumPath → created.find path = staging.find path :=
    fun path hpath => find_created hcreated hpath
  have hdeclared : ∀ relative : PurePosixPath,
      relative ∈ ((checksumFiles staging).map fun file => PurePosixPath.mk [] file.1).toFinset ↔
        relative ∈ actualPaths created := by
    intro relative
    rw [mem_actualPaths, mem_toFinset, mem_map]
    constructor
    · rintro ⟨file, hfile, rfl⟩
      obtain ⟨hfind, hpath⟩ := h.listed.mp hfile
      exact ⟨file.1, file.2, (hstaged _ hpath).trans hfind, hpath, rfl⟩
    · rintro ⟨path, bytes, hfind, hpath, rfl⟩
      exact ⟨(path, bytes), h.listed.mpr ⟨(hstaged _ hpath).symm.trans hfind, hpath⟩, rfl⟩
  rw [← Finset.ext_iff] at hdeclared
  rw [verifyInventory_listed h.oneLinePaths hcreated hsame, Except.ok.injEq,
    append_eq_nil_iff, flatMap_eq_nil_iff, hdeclared]
  dsimp only
  constructor
  · rintro ⟨hfiles, hinventory⟩ path
    by_cases hpath : path = checksumPath
    · rw [hpath, hsame]
    have hactual : actualPaths other = actualPaths created := by
      by_contra hne
      rw [if_pos hne] at hinventory
      cases hinventory
    cases hfind : created.find path with
    | none =>
        cases hother : other.find path with
        | none => rfl
        | some bytes =>
            have hmem : PurePosixPath.mk [] path ∈ actualPaths other :=
              mem_actualPaths.mpr ⟨path, bytes, hother, hpath, rfl⟩
            rw [hactual] at hmem
            obtain ⟨_, _, hfound, -, hsame⟩ := mem_actualPaths.mp hmem
            obtain rfl := (PurePosixPath.mk.inj hsame).2
            rw [hfind] at hfound
            cases hfound
    | some bytes =>
        have hlisted : (path, bytes) ∈ checksumFiles staging :=
          h.listed.mpr ⟨(hstaged _ hpath).symm.trans hfind, hpath⟩
        obtain ⟨found, hother, hdigest⟩ := fileFailures_eq_nil.mp (hfiles _ hlisted)
        rw [hother, hcollision path bytes found hfind hother hdigest.symm]
  · intro hall
    constructor
    · intro file hfile
      obtain ⟨hfind, hpath⟩ := h.listed.mp hfile
      exact fileFailures_eq_nil.mpr ⟨file.2, by rw [hall, hstaged _ hpath, hfind], rfl⟩
    · have hactual : actualPaths other = actualPaths created := by
        ext relative
        simp only [mem_actualPaths, hall]
      rw [if_neg (not_not_intro hactual)]

/-- A bundle that is accepted as it was made has listable files. -/
theorem listable_of_accepted (hcreated : createBundle sha256 staging = some created)
    (h : verifyInventory sha256 elsewhere created = .ok []) : Listable staging := by
  have hstaged : ∀ path bytes, path ≠ checksumPath → staging.find path = some bytes →
      PurePosixPath.mk [] path ∈ actualPaths created := by
    intro path bytes hpath hfind
    exact mem_actualPaths.mpr ⟨path, bytes, (find_created hcreated hpath).trans hfind, hpath, rfl⟩
  -- a line that was read has no line end, so a path with one is not declared
  have honeLine : ∀ path bytes, path ≠ checksumPath → staging.find path = some bytes →
      ∀ part ∈ path, OneLine part := by
    intro path bytes hpath hfind part hpart codePoint hmem
    obtain ⟨lines, checked, hlines, hchecked, -, hinventory⟩ := verifyInventory_accepts.mp h
    have hactual := hstaged path bytes hpath hfind
    rw [hinventory, mem_toFinset, mem_map] at hactual
    obtain ⟨declared, hdeclared, hsame⟩ := hactual
    obtain ⟨line, hline, hread⟩ := Fallible.mem_of_mapM hchecked hdeclared
    obtain ⟨expected, relativeText, hsplit, hparsed⟩ := checkLine_ok hread
    rw [hsame] at hparsed
    rw [checksumLines_of hcreated rfl] at hlines
    obtain rfl := Except.ok.inj hlines
    have htext : codePoint ∈ relativeText := by
      refine mem_of_parsePath ?_ hmem
      rw [← hparsed]
      exact hpart
    exact oneLine_of_splitLines oneLine_nil hline codePoint (mem_of_splitOnce hsplit htext)
  have hpaths : OneLinePaths staging := by
    intro file hfile
    obtain ⟨hfind, hname⟩ := mem_checksumFiles.mp hfile
    refine honeLine file.1 file.2 ?_ hfind
    rintro hroot
    rw [hroot] at hname
    exact hname rfl
  intro path hmem hpath
  obtain ⟨bytes, hfind⟩ := mem_paths.mp hmem
  refine ⟨?_, honeLine path bytes hpath hfind⟩
  rw [verifyInventory_listed hpaths hcreated rfl] at h
  obtain ⟨-, hinventory⟩ := List.append_eq_nil_iff.mp (Except.ok.inj h)
  have hactual : actualPaths created =
      ((checksumFiles staging).map fun file => PurePosixPath.mk [] file.1).toFinset := by
    by_contra hne
    rw [if_pos hne] at hinventory
    cases hinventory
  have hdeclared := hstaged path bytes hpath hfind
  rw [hactual, mem_toFinset, mem_map] at hdeclared
  obtain ⟨file, hfile, hsame⟩ := hdeclared
  obtain rfl := (PurePosixPath.mk.inj hsame).2
  exact (mem_checksumFiles.mp hfile).2

/-- **A bundle and its verification agree** exactly if, below the root, no staged file has the
checksums' name and no path has a line end in it. -/
theorem created_agrees_iff (h : createBundle sha256 staging = some created) :
    Agrees sha256 elsewhere created ↔ Listable staging := by
  constructor
  · intro hagrees
    exact listable_of_accepted h hagrees.unchanged
  · intro hlistable
    refine ⟨(hlistable.accepts_iff h rfl ?_).mpr fun _ => rfl,
      fun other hsame hcollision hother => ?_⟩
    · intro path left right hleft hright _
      exact Option.some.inj (hleft.symm.trans hright)
    · refine ⟨_, verifyInventory_listed hlistable.oneLinePaths h hsame, fun hnone => ?_⟩
      have haccepted : verifyInventory sha256 elsewhere other = .ok [] := by
        rw [verifyInventory_listed hlistable.oneLinePaths h hsame, hnone]
      obtain ⟨path, hdiffers⟩ := hother
      exact hdiffers ((hlistable.accepts_iff h hsame hcollision).mp haccepted path)

/-! A bundle of two files, and of an empty third one under the checksums' name in a directory. -/

def readmeBytes : Bytes := [35, 10]

def scriptBytes : Bytes := [58, 10]

/-- The SHA-256 digests of the files, and of the empty one. -/
def sampleSha256 (bytes : Bytes) : Sha256 :=
  if bytes = readmeBytes then
    ⟨Protocol.ascii "32c4858e22cc2c967b42150fa550562a2c839c2cebcaab91cabdf6f4da020022", by decide⟩
  else if bytes = scriptBytes then
    ⟨Protocol.ascii "f3743a0a18e53d13922cc21a70d783d875a12560c22ff8d28bda5f5ca9fe05c3", by decide⟩
  else
    ⟨Protocol.ascii "e3b0c44298fc1c149afbf4c8996fb92427ae41e4649b934ca495991b7852b855", by decide⟩

def readmePath : RelativePath := [literal "docs", literal "README.md"]

def scriptPath : RelativePath := [literal "tools", literal "run.sh"]

def nestedPath : RelativePath := [literal "tests", SHA256SUMS]

def plainFiles : FileSet :=
  ⟨[(readmePath, readmeBytes), (scriptPath, scriptBytes)], by decide, by decide⟩

def nestedFiles : FileSet :=
  ⟨[(readmePath, readmeBytes), (scriptPath, scriptBytes), (nestedPath, [])], by decide, by decide⟩

theorem plainFiles_listable : Listable plainFiles := by
  have hpaths : ∀ path ∈ plainFiles.paths, path.getLast? ≠ some SHA256SUMS ∧
      path.all (fun part => part.all fun codePoint => !isLineBoundary codePoint) = true := by
    decide +kernel
  rintro path hpath -
  obtain ⟨hlast, honeLine⟩ := hpaths path hpath
  refine ⟨hlast, fun part hpart codePoint hmem => ?_⟩
  have hpart := List.all_eq_true.mp honeLine part hpart
  simpa using List.all_eq_true.mp hpart codePoint hmem

theorem created_agrees_iff_plain : ∃ created, createBundle sampleSha256 plainFiles = some created ∧
    Agrees sampleSha256 (fun _ => none) created := by
  have hsome : (createBundle sampleSha256 plainFiles).isSome := by decide +kernel
  obtain ⟨created, h⟩ := Option.isSome_iff_exists.mp hsome
  exact ⟨created, h, (created_agrees_iff h).mpr plainFiles_listable⟩

/-- The bundle with the nested file is refused; without that file it has the same checksums and is
accepted. -/
theorem nested_checksums_refused :
    ∃ created other, createBundle sampleSha256 nestedFiles = some created ∧
      createBundle sampleSha256 plainFiles = some other ∧
      verifyInventory sampleSha256 (fun _ => none) created =
        .ok [.inventory ∅ {PurePosixPath.mk [] nestedPath}] ∧
      other.find checksumPath = created.find checksumPath ∧
      other.find nestedPath ≠ created.find nestedPath ∧
      verifyInventory sampleSha256 (fun _ => none) other = .ok [] ∧
      ¬Agrees sampleSha256 (fun _ => none) created := by
  have hnested : ((createBundle sampleSha256 nestedFiles).map
      (verifyInventory sampleSha256 fun _ => none)) =
        some (.ok [.inventory ∅ {PurePosixPath.mk [] nestedPath}]) := by decide +kernel
  have hplain : ((createBundle sampleSha256 plainFiles).map
      (verifyInventory sampleSha256 fun _ => none)) = some (.ok []) := by decide +kernel
  have hfound : ((createBundle sampleSha256 nestedFiles).map fun created =>
      (created.find checksumPath, created.find nestedPath)) =
        (createBundle sampleSha256 plainFiles).map fun other =>
          (other.find checksumPath, some []) := by decide +kernel
  have habsent : ((createBundle sampleSha256 plainFiles).map fun other => other.find nestedPath) =
      some none := by decide +kernel
  obtain ⟨created, hcreated, hrefused⟩ := Option.map_eq_some_iff.mp hnested
  obtain ⟨other, hother, haccepted⟩ := Option.map_eq_some_iff.mp hplain
  rw [hother, Option.map_some, Option.some.injEq] at habsent
  rw [hcreated, hother, Option.map_some, Option.map_some, Option.some.injEq, Prod.mk_inj] at hfound
  refine ⟨created, other, hcreated, hother, hrefused, hfound.1.symm, ?_, haccepted, ?_⟩
  · rw [habsent, hfound.2]
    nofun
  · intro hagrees
    exact cons_ne_nil _ _ (Except.ok.inj (hrefused.symm.trans hagrees.unchanged))

end CpuPrefetch.Tools.StandBundle
