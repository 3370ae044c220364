/-
Directories as maps from paths to files, and files by number.

A file is created under a path that is free, written to while it has one name, and then
linked to a second path that is free.  A file keeps its number under every name, so a
write through one name is seen through the others; that nothing writes to a file that
was there before is what `Grows` says.
-/
import Mathlib

/-- The entries of all directories, and the contents of all files; files from `next` on are free. -/
structure Files (P : Type) where
  entries : P → Option Nat
  contents : Nat → List UInt8
  next : Nat
  allocated : ∀ path file, entries path = some file → file < next

namespace Files

variable {P : Type}

/-- Where no path names a file, no file is in use. -/
theorem allocated_none (path : P) (file : Nat) :
    (fun _ : P => (none : Option Nat)) path = some file → file < 0 := nofun

/-- The contents of the file a path names. -/
def read (fs : Files P) (path : P) : Option (List UInt8) := (fs.entries path).map fs.contents

variable {path : P}

theorem isSome_of_read {fs : Files P} {bytes : List UInt8} (h : fs.read path = some bytes) :
    (fs.entries path).isSome := by
  obtain ⟨file, hentry, -⟩ := Option.map_eq_some_iff.mp h
  rw [hentry]
  rfl

/-! ### Nothing that was there changes -/

/--
Only paths of `touched` have other entries now, a path of `kept` that named a file names
it still, and every file that existed has its contents.
-/
structure Grows (touched kept : P → Prop) (fs fs' : Files P) : Prop where
  next : fs.next ≤ fs'.next
  contents : ∀ file < fs.next, fs'.contents file = fs.contents file
  frame : ∀ path, ¬touched path → fs'.entries path = fs.entries path
  kept : ∀ path file, kept path → fs.entries path = some file → fs'.entries path = some file

variable {touched kept : P → Prop} {fs fs' : Files P}

theorem Grows.refl (fs : Files P) : Grows touched kept fs fs :=
  ⟨Nat.le_refl _, fun _ _ => rfl, fun _ _ => rfl, fun _ _ _ h => h⟩

theorem Grows.trans {fs'' : Files P} (h : Grows touched kept fs fs')
    (h' : Grows touched kept fs' fs'') : Grows touched kept fs fs'' where
  next := Nat.le_trans h.next h'.next
  contents file hfile := by
    rw [h'.contents file (Nat.lt_of_lt_of_le hfile h.next), h.contents file hfile]
  frame path hpath := by rw [h'.frame path hpath, h.frame path hpath]
  kept path file hpath hentry := h'.kept path file hpath (h.kept path file hpath hentry)

instance : Std.Refl (Grows touched kept) := ⟨Grows.refl⟩

instance : IsTrans (Files P) (Grows touched kept) := ⟨fun _ _ _ h h' => h.trans h'⟩

theorem Grows.mono {touched' : P → Prop} (hsub : ∀ path, touched path → touched' path)
    (h : Grows touched kept fs fs') : Grows touched' kept fs fs' where
  next := h.next
  contents := h.contents
  frame path hpath := h.frame path fun htouched => hpath (hsub path htouched)
  kept := h.kept

/-- What a kept path reads it reads from then on. -/
theorem Grows.read_kept (h : Grows touched kept fs fs') (hpath : kept path) {bytes : List UInt8}
    (hread : fs.read path = some bytes) : fs'.read path = some bytes := by
  obtain ⟨file, hentry, rfl⟩ := Option.map_eq_some_iff.mp hread
  rw [read, h.kept path file hpath hentry, Option.map_some,
    h.contents file (fs.allocated path file hentry)]

/-- A path that is not touched reads the same. -/
theorem Grows.read_frame (h : Grows touched kept fs fs') (hpath : ¬touched path) :
    fs'.read path = fs.read path := by
  unfold read
  rw [h.frame path hpath]
  cases hentry : fs.entries path with
  | none => rfl
  | some file => rw [Option.map_some, Option.map_some,
      h.contents file (fs.allocated path file hentry)]

/-! ### The calls -/

variable [DecidableEq P]

/-- A new empty file under this path. -/
def create (fs : Files P) (path : P) : Files P where
  entries := Function.update fs.entries path (some fs.next)
  contents := Function.update fs.contents fs.next []
  next := fs.next + 1
  allocated := by
    intro path' file h
    by_cases hsame : path' = path
    · subst hsame
      rw [Function.update_self] at h
      obtain rfl := Option.some.inj h
      exact Nat.lt_succ_self _
    · rw [Function.update_of_ne hsame] at h
      exact Nat.lt_succ_of_lt (fs.allocated path' file h)

/-- Bytes at the end of a file. -/
def append (fs : Files P) (file : Nat) (bytes : List UInt8) : Files P :=
  { fs with contents := Function.update fs.contents file (fs.contents file ++ bytes) }

/-- A second name for a file. -/
def link (fs : Files P) (path target : P) : Files P where
  entries := Function.update fs.entries target (fs.entries path)
  contents := fs.contents
  next := fs.next
  allocated := by
    intro path' file h
    by_cases hsame : path' = target
    · subst hsame
      rw [Function.update_self] at h
      exact fs.allocated path file h
    · rw [Function.update_of_ne hsame] at h
      exact fs.allocated path' file h

/-- The path names no file any more. -/
def unlink (fs : Files P) (path : P) : Files P where
  entries := Function.update fs.entries path none
  contents := fs.contents
  next := fs.next
  allocated := by
    intro path' file h
    by_cases hsame : path' = path
    · subst hsame
      rw [Function.update_self] at h
      cases h
    · rw [Function.update_of_ne hsame] at h
      exact fs.allocated path' file h

@[simp] theorem read_link (fs : Files P) (path target : P) :
    (fs.link path target).read target = fs.read path := by
  simp [read, link]

theorem read_link_of_ne (fs : Files P) (path : P) {target other : P} (h : other ≠ target) :
    (fs.link path target).read other = fs.read other := by
  simp [read, link, Function.update_of_ne h]

theorem read_unlink_of_ne (fs : Files P) {other : P} (h : other ≠ path) :
    (fs.unlink path).read other = fs.read other := by
  simp [read, unlink, Function.update_of_ne h]

/-- What is written to a new file is what its path reads. -/
@[simp] theorem read_create_append (fs : Files P) (path : P) (bytes : List UInt8) :
    ((fs.create path).append fs.next bytes).read path = some bytes := by
  simp [read, create, append]

/-- A new file with some bytes, under a path that named none. -/
theorem Grows.create_append (htouched : touched path) (hfree : fs.entries path = none)
    (bytes : List UInt8) : Grows touched kept fs ((fs.create path).append fs.next bytes) where
  next := Nat.le_succ _
  contents file hfile := by
    have hne : file ≠ fs.next := Nat.ne_of_lt hfile
    simp [append, create, Function.update_of_ne hne]
  frame path' hpath' := by
    have hne : path' ≠ path := fun hsame => hpath' (hsame ▸ htouched)
    simp [append, create, Function.update_of_ne hne]
  kept path' file hkept hentry := by
    have hne : path' ≠ path := by
      rintro rfl
      rw [hfree] at hentry
      cases hentry
    simpa [append, create, Function.update_of_ne hne] using hentry

theorem Grows.link {target : P} (htouched : touched target) (hfree : fs.entries target = none) :
    Grows touched kept fs (fs.link path target) where
  next := Nat.le_refl _
  contents _ _ := rfl
  frame path' hpath' := by
    have hne : path' ≠ target := fun hsame => hpath' (hsame ▸ htouched)
    exact Function.update_of_ne hne _ _
  kept path' file _ hentry := by
    have hne : path' ≠ target := by
      rintro rfl
      rw [hfree] at hentry
      cases hentry
    simpa [Files.link, Function.update_of_ne hne] using hentry

theorem Grows.unlink (htouched : touched path) (hkept : ¬kept path) :
    Grows touched kept fs (fs.unlink path) where
  next := Nat.le_refl _
  contents _ _ := rfl
  frame path' hpath' := by
    have hne : path' ≠ path := fun hsame => hpath' (hsame ▸ htouched)
    exact Function.update_of_ne hne _ _
  kept path' file hpath' hentry := by
    have hne : path' ≠ path := fun hsame => hkept (hsame ▸ hpath')
    simpa [Files.unlink, Function.update_of_ne hne] using hentry

end Files
