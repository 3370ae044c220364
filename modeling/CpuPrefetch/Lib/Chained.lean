/-
Lists whose elements fit where they stand.

Whether an element fits may depend on its position and on a counter that the elements
before it leave, as it does for a loop that walks a list with an index and one
accumulator.
-/
import Mathlib

variable {α β C : Type} {fit : Nat → C → α → Prop} {next : C → α → C}

/-- Every element is fit for its position and for the counter the ones before it leave. -/
def Chained (fit : Nat → C → α → Prop) (next : C → α → C) : Nat → C → List α → Prop
  | _, _, [] => True
  | index, counter, x :: rest =>
      fit index counter x ∧ Chained fit next (index + 1) (next counter x) rest

namespace Chained

variable {counter : C} {index : Nat} {xs : List α}

theorem append {x : α} (h : Chained fit next index counter xs)
    (hx : fit (index + xs.length) (xs.foldl next counter) x) :
    Chained fit next index counter (xs ++ [x]) := by
  induction xs generalizing index counter with
  | nil => exact ⟨hx, trivial⟩
  | cons first rest ih =>
      refine ⟨h.1, ih h.2 ?_⟩
      have hindex : index + 1 + rest.length = index + (first :: rest).length := by
        rw [List.length_cons]
        omega
      rw [hindex]
      exact hx

/-- Every element fits its position, whatever the counter there is. -/
theorem getElem? (h : Chained fit next index counter xs) {k : Nat} {x : α} (hx : xs[k]? = some x) :
    ∃ counter, fit (index + k) counter x := by
  induction xs generalizing index counter k with
  | nil => cases hx
  | cons first rest ih =>
      cases k with
      | zero =>
          obtain rfl := Option.some.inj hx
          exact ⟨counter, h.1⟩
      | succ k =>
          obtain ⟨counter', hfit⟩ := ih h.2 hx
          refine ⟨counter', ?_⟩
          have hindex : index + 1 + k = index + (k + 1) := by omega
          rwa [hindex] at hfit

/-- What fits fits after a mapping that keeps the counter. -/
theorem map {fit' : Nat → C → β → Prop} {next' : C → β → C} {f : α → β}
    (h : Chained fit next index counter xs)
    (hfit : ∀ k counter x, xs[k]? = some x → fit (index + k) counter x →
      fit' (index + k) counter (f x))
    (hnext : ∀ counter x, next' counter (f x) = next counter x) :
    Chained fit' next' index counter (xs.map f) := by
  induction xs generalizing index counter with
  | nil => trivial
  | cons first rest ih =>
      refine ⟨hfit 0 counter first rfl h.1, ?_⟩
      rw [hnext]
      refine ih h.2 fun k counter x hx hold => ?_
      have hindex : index + 1 + k = index + (k + 1) := by omega
      rw [hindex] at hold ⊢
      exact hfit (k + 1) counter x hx hold

/-- Every element fits its position and the counter that the elements before it leave. -/
theorem iff_getElem? : Chained fit next index counter xs ↔
      ∀ k x, xs[k]? = some x → fit (index + k) ((xs.take k).foldl next counter) x := by
  induction xs generalizing index counter with
  | nil =>
      refine ⟨fun _ k x hx => ?_, fun _ => trivial⟩
      rw [List.getElem?_nil] at hx
      cases hx
  | cons first rest ih =>
      rw [Chained, ih]
      constructor
      · intro ⟨hfirst, hrest⟩ k x hx
        cases k with
        | zero =>
            obtain rfl := Option.some.inj hx
            exact hfirst
        | succ k =>
            have hindex : index + 1 + k = index + (k + 1) := by omega
            have hfit := hrest k x hx
            rwa [hindex] at hfit
      · intro h
        refine ⟨h 0 first rfl, ?_⟩
        intro k x hx
        have hindex : index + (k + 1) = index + 1 + k := by omega
        have hfit := h (k + 1) x hx
        rwa [hindex] at hfit

end Chained
