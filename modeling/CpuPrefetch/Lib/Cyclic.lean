/-
Lists laid out in a cyclic buffer.

A bounded FIFO kept in `size` slots with no shared counter stores its length only
in which slots are occupied.  `Holds` is that layout as one equation: reading the
slots cyclically from `start` gives the elements in order and then nothing.  The
equation covers the occupied and the free slots at once, so a push and a pop are
each a single update, and whether the buffer is full or empty can be read off the
one slot the producer or the consumer looks at.
-/
import Mathlib

namespace Cyclic

open List

variable {α : Type} {size start : Nat} {slots : Nat → Option α} {xs : List α}

/-- Read cyclically from `start`, the slots hold exactly `xs` and are free after it. -/
structure Holds (size : Nat) (slots : Nat → Option α) (start : Nat) (xs : List α) : Prop where
  /-- The elements fit in the buffer. -/
  fits : xs.length ≤ size
  /-- The cursor is a slot of the buffer. -/
  startLt : start < size
  /-- The `i`-th slot from the cursor holds the `i`-th element. -/
  read : ∀ i, i < size → slots ((start + i) % size) = xs[i]?

/-! ### Arithmetic of cyclic positions -/

/-- Two offsets shorter than the buffer that reach the same slot are equal. -/
theorem offset_inj {i j : Nat} (hi : i < size) (hj : j < size)
    (h : (start + i) % size = (start + j) % size) : i = j := by
  have hmod : i % size = j % size := Nat.ModEq.add_left_cancel' start h
  rwa [Nat.mod_eq_of_lt hi, Nat.mod_eq_of_lt hj] at hmod

/-- Every slot is some offset from the cursor. -/
theorem exists_offset (hstart : start < size) {j : Nat} (hj : j < size) :
    ∃ i, i < size ∧ (start + i) % size = j := by
  by_cases hle : start ≤ j
  · refine ⟨j - start, by omega, ?_⟩
    rw [show start + (j - start) = j by omega, Nat.mod_eq_of_lt hj]
  · refine ⟨size - start + j, by omega, ?_⟩
    rw [show start + (size - start + j) = j + size by omega, Nat.add_mod_right,
      Nat.mod_eq_of_lt hj]

/-- Stepping the cursor first shifts every offset by one. -/
theorem step_offset (size start i : Nat) :
    ((start + 1) % size + i) % size = (start + (i + 1)) % size := by
  rw [Nat.mod_add_mod]
  congr 1
  omega

/-- Advancing by one with an explicit wrap is addition modulo the size. -/
theorem wrap_eq_mod (hstart : start < size) :
    (if start + 1 = size then 0 else start + 1) = (start + 1) % size := by
  split
  · rename_i h
    rw [h, Nat.mod_self]
  · rw [Nat.mod_eq_of_lt (by omega)]

/-! ### Reading the two ends -/

namespace Holds

/-- A buffer with no element has no occupied slot. -/
theorem empty (hsize : start < size) : Holds size (fun _ => (none : Option α)) start [] :=
  ⟨Nat.zero_le _, hsize, by simp⟩

/-- The slot under the cursor holds the first element. -/
theorem front (h : Holds size slots start xs) : slots start = xs.head? := by
  have hread := h.read 0 (Nat.lt_of_le_of_lt (Nat.zero_le _) h.startLt)
  rw [Nat.add_zero, Nat.mod_eq_of_lt h.startLt] at hread
  rw [hread, head?_eq_getElem?]

/-- The slot just past the elements is free unless the buffer is full. -/
theorem back_free (h : Holds size slots start xs) (hlt : xs.length < size) :
    slots ((start + xs.length) % size) = none := by
  rw [h.read _ hlt]
  simp

/-- An occupied slot just past the elements means the buffer is full. -/
theorem full_of_back {x : α} (h : Holds size slots start xs)
    (hx : slots ((start + xs.length) % size) = some x) : xs.length = size := by
  by_contra hne
  rw [h.back_free (Nat.lt_of_le_of_ne h.fits hne)] at hx
  cases hx

/-- A free slot under the cursor means there is no element at all. -/
theorem nil_of_front (h : Holds size slots start xs) (hnone : slots start = none) : xs = [] := by
  rw [h.front] at hnone
  exact List.head?_eq_none_iff.mp hnone

/-- The occupied slots are the cyclic range of the elements' length from the cursor. -/
theorem occupied_iff (h : Holds size slots start xs) {j : Nat} (hj : j < size) :
    slots j ≠ none ↔ ∃ i, i < xs.length ∧ j = (start + i) % size := by
  constructor
  · intro hocc
    obtain ⟨i, hi, hij⟩ := exists_offset h.startLt hj
    refine ⟨i, ?_, hij.symm⟩
    by_contra hge
    apply hocc
    rw [← hij, h.read i hi]
    simp [Nat.not_lt.mp hge]
  · rintro ⟨i, hi, rfl⟩
    rw [h.read i (Nat.lt_of_lt_of_le hi h.fits)]
    simp [hi]

/-- Every slot of a full buffer is occupied. -/
theorem occupied_of_full (h : Holds size slots start xs) (hfull : xs.length = size) {j : Nat}
    (hj : j < size) : slots j ≠ none := by
  rw [h.occupied_iff hj]
  obtain ⟨i, hi, hij⟩ := exists_offset h.startLt hj
  exact ⟨i, by omega, hij.symm⟩

/-- No slot of an empty buffer is occupied. -/
theorem free_of_nil (h : Holds size slots start []) {j : Nat} (hj : j < size) :
    slots j = none := by
  by_contra hocc
  obtain ⟨i, hi, -⟩ := (h.occupied_iff hj).mp hocc
  simp at hi

/-! ### The two updates -/

/-- Filling the slot just past the elements appends one. -/
theorem push (h : Holds size slots start xs) (hlt : xs.length < size) (x : α) :
    Holds size (Function.update slots ((start + xs.length) % size) (some x)) start
      (xs ++ [x]) := by
  refine ⟨by rw [length_append]; exact hlt, h.startLt, ?_⟩
  intro i hi
  by_cases heq : i = xs.length
  · subst heq
    simp
  · have hne : (start + i) % size ≠ (start + xs.length) % size :=
      fun hc => heq (offset_inj hi hlt hc)
    rw [Function.update_of_ne hne, h.read i hi]
    rcases Nat.lt_or_ge i xs.length with hil | hil
    · rw [getElem?_append_left hil]
    · rw [getElem?_eq_none hil, getElem?_eq_none (by simp; omega)]

/-- Clearing the slot under the cursor and stepping it removes the first element. -/
theorem pop {x : α} (h : Holds size slots start (x :: xs)) :
    Holds size (Function.update slots start none) ((start + 1) % size) xs := by
  have hpos : 0 < size := Nat.lt_of_le_of_lt (Nat.zero_le _) h.startLt
  have hlen : xs.length + 1 ≤ size := by simpa using h.fits
  refine ⟨by omega, Nat.mod_lt _ hpos, ?_⟩
  intro i hi
  rw [step_offset]
  by_cases hlast : i + 1 = size
  · -- The last offset comes round to the slot just cleared.
    rw [hlast, Nat.add_mod_right, Nat.mod_eq_of_lt h.startLt, Function.update_self,
      getElem?_eq_none (by omega)]
  · have hne : (start + (i + 1)) % size ≠ start := by
      intro hc
      have hzero : (start + (i + 1)) % size = (start + 0) % size := by
        rw [hc, Nat.add_zero, Nat.mod_eq_of_lt h.startLt]
      have := offset_inj (by omega) hpos hzero
      omega
    rw [Function.update_of_ne hne, h.read (i + 1) (by omega)]
    simp

/-- The slots tell what they hold. -/
theorem unique {ys : List α} (h : Holds size slots start xs) (h' : Holds size slots start ys) :
    xs = ys := by
  refine ext_getElem? fun i => ?_
  by_cases hi : i < size
  · rw [← h.read i hi, h'.read i hi]
  · have hxs := h.fits
    have hys := h'.fits
    rw [getElem?_eq_none (by omega), getElem?_eq_none (by omega)]

end Holds

/-- Rotated lists stay rotated when the same elements are taken out of both. -/
theorem isRotated_filter {l m : List α} (h : l.IsRotated m) (p : α → Bool) :
    (l.filter p).IsRotated (m.filter p) := by
  obtain ⟨n, rfl⟩ := h
  have hparts : l.filter p = (l.take (n % l.length)).filter p ++
    (l.drop (n % l.length)).filter p := by
    rw [← filter_append, take_append_drop]
  rw [rotate_eq_drop_append_take_mod, filter_append, hparts]
  exact isRotated_append

/-! ### The contents as a whole -/

/-- Walking once round the buffer visits every slot once. -/
theorem rotate_perm (hstart : start < size) :
    ((List.range size).map fun i => (start + i) % size).Perm (List.range size) := by
  have hpos : 0 < size := Nat.lt_of_le_of_lt (Nat.zero_le _) hstart
  refine List.Subperm.perm_of_length_le (subperm_of_subset ?_ ?_) (by simp)
  · refine List.Nodup.map_on ?_ nodup_range
    intro i hi j hj h
    exact offset_inj (List.mem_range.mp hi) (List.mem_range.mp hj) h
  · intro j hj
    obtain ⟨i, -, rfl⟩ := List.mem_map.mp hj
    exact List.mem_range.mpr (Nat.mod_lt _ hpos)

/-- Reading a list at every index up to a bound gives the list back. -/
theorem filterMap_getElem? (xs : List α) (size : Nat) (h : xs.length ≤ size) :
    (List.range size).filterMap (fun i => xs[i]?) = xs := by
  induction xs generalizing size with
  | nil => simp
  | cons x xs ih =>
      obtain ⟨n, rfl⟩ : ∃ n, size = n + 1 := ⟨size - 1, by simp at h; omega⟩
      rw [range_succ_eq_map, filterMap_cons, filterMap_map]
      simpa [Function.comp_def] using ih n (by simpa using h)

/-- The occupied slots hold the elements and nothing else. -/
theorem Holds.contents_perm (h : Holds size slots start xs) :
    ((List.range size).filterMap slots).Perm xs := by
  have hrot := (rotate_perm h.startLt).filterMap slots
  have hread : ((List.range size).map fun i => (start + i) % size).filterMap slots = xs := by
    rw [filterMap_map, ← filterMap_getElem? xs size h.fits]
    refine filterMap_congr fun i hi => ?_
    simpa [filterMap_getElem? xs size h.fits] using h.read i (List.mem_range.mp hi)
  rw [hread] at hrot
  exact hrot.symm

end Cyclic
