/-
Lists known by the differences of their elements.

Going round a list the differences cancel.  Two lists with the same differences are
translates of each other, and a translate with the same elements is the list itself,
because the sums are equal.
-/
import Mathlib

namespace Translates

open List

variable {G : Type} [AddCommGroup G]

/-- From each element to the next one; the first comes after the last. -/
def cyclicDifferences (values : List G) : List G :=
  List.zipWith (· - ·) (values.rotate 1) values

/-- The same with the elements that are still to come and the one to return to. -/
def differencesTo (start current : G) (rest : List G) : List G :=
  List.zipWith (· - ·) (rest ++ [start]) (current :: rest)

@[simp] theorem cyclicDifferences_nil : cyclicDifferences ([] : List G) = [] := rfl

@[simp] theorem cyclicDifferences_cons (first : G) (rest : List G) :
    cyclicDifferences (first :: rest) = differencesTo first first rest := by
  unfold cyclicDifferences differencesTo
  rw [rotate_cons_succ, rotate_zero]

@[simp] theorem differencesTo_nil (start current : G) :
    differencesTo start current [] = [start - current] := rfl

@[simp] theorem differencesTo_cons (start current next : G) (rest : List G) :
    differencesTo start current (next :: rest) =
      (next - current) :: differencesTo start next rest := rfl

@[simp] theorem length_cyclicDifferences (values : List G) :
    (cyclicDifferences values).length = values.length := by
  simp [cyclicDifferences]

theorem sum_differencesTo (start current : G) (rest : List G) :
    (differencesTo start current rest).sum = start - current := by
  induction rest generalizing current with
  | nil => simp
  | cons next rest ih =>
      rw [differencesTo_cons, sum_cons, ih]
      abel

/-- **Going round, the differences cancel.** -/
theorem sum_cyclicDifferences (values : List G) : (cyclicDifferences values).sum = 0 := by
  cases values with
  | nil => rfl
  | cons first rest => rw [cyclicDifferences_cons, sum_differencesTo, sub_self]

theorem map_sub_of_differencesTo {start start' current current' : G} {rest rest' : List G}
    (h : differencesTo start current rest = differencesTo start' current' rest') :
    rest.map (· - current) = rest'.map (· - current') := by
  induction rest generalizing current current' rest' with
  | nil =>
      cases rest' with
      | nil => rfl
      | cons next' rest' => cases rest' <;> simp at h
  | cons next rest ih =>
      cases rest' with
      | nil => cases rest <;> simp at h
      | cons next' rest' =>
          rw [differencesTo_cons, differencesTo_cons] at h
          obtain ⟨hstep, hrest⟩ := List.cons.inj h
          have hlater := congrArg (List.map (· + (next - current))) (ih hrest)
          rw [map_map, map_map] at hlater
          rw [map_cons, map_cons, hstep]
          congr 1
          calc rest.map (· - current)
              = rest.map ((· + (next - current)) ∘ (· - next)) := by
                refine map_congr_left fun value _ => ?_
                show value - current = value - next + (next - current)
                abel
            _ = rest'.map ((· + (next - current)) ∘ (· - next')) := hlater
            _ = rest'.map (· - current') := by
                refine map_congr_left fun value _ => ?_
                show value - next' + (next - current) = value - current'
                rw [hstep]
                abel

/-- Lists with the same differences are translates of each other. -/
theorem exists_translate {left right : List G}
    (h : cyclicDifferences left = cyclicDifferences right) :
    ∃ shift, left = right.map (· + shift) := by
  cases left with
  | nil =>
      cases right with
      | nil => exact ⟨0, rfl⟩
      | cons first' rest' => cases rest' <;> simp at h
  | cons first rest =>
      cases right with
      | nil => cases rest <;> simp at h
      | cons first' rest' =>
          rw [cyclicDifferences_cons, cyclicDifferences_cons] at h
          have hrest := congrArg (List.map (· + first)) (map_sub_of_differencesTo h)
          rw [map_map, map_map] at hrest
          refine ⟨first - first', ?_⟩
          rw [map_cons, add_sub_cancel]
          congr 1
          calc rest = rest.map ((· + first) ∘ (· - first)) := by simp [Function.comp_def]
            _ = rest'.map ((· + first) ∘ (· - first')) := hrest
            _ = rest'.map (· + (first - first')) := by
                refine map_congr_left fun value _ => ?_
                show value - first' + first = value + (first - first')
                abel

theorem sum_map_add (shift : G) (values : List G) :
    (values.map (· + shift)).sum = values.sum + values.length • shift := by
  induction values with
  | nil => simp
  | cons value rest ih =>
      rw [map_cons, sum_cons, sum_cons, ih, length_cons, succ_nsmul]
      abel

/-- **Among the rearrangements of a list the differences tell which one it is.** -/
theorem eq_of_perm [IsAddTorsionFree G] {left right : List G} (hperm : left.Perm right)
    (h : cyclicDifferences left = cyclicDifferences right) : left = right := by
  obtain ⟨shift, rfl⟩ := exists_translate h
  have hsum := hperm.sum_eq
  rw [sum_map_add, add_eq_left] at hsum
  rcases smul_eq_zero.mp hsum with hempty | hzero
  · rw [eq_nil_of_length_eq_zero hempty]
    rfl
  · simp [hzero]

end Translates
