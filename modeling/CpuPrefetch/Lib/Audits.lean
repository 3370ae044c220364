/-
Loops that carry a state and collect what they find wrong.

Nothing that was reported is taken back, so a loop that ends clean was clean after every
turn.  An invariant may then use, at each turn, that this turn reported nothing.
-/
import Mathlib

namespace Audits

variable {S R E : Type} {turn : S → R → S} {errors : S → List E} {report : S → R → List E}
  {P : List R → S → Prop} {done items : List R} {state : S}

/-- The turns only add to what was reported. -/
def Collects (turn : S → R → S) (errors : S → List E) (report : S → R → List E) : Prop :=
  ∀ state item, errors (turn state item) = errors state ++ report state item

theorem Collects.clean_before (h : Collects turn errors report)
    (hclean : errors (items.foldl turn state) = []) : errors state = [] := by
  induction items generalizing state with
  | nil => exact hclean
  | cons item rest ih =>
      have hnext := ih hclean
      rw [h] at hnext
      exact (List.append_eq_nil_iff.mp hnext).1

/-- What holds at the start, and is kept by every turn that reports nothing, holds at the end
of a clean loop. -/
theorem Collects.invariant (h : Collects turn errors report) (start : P done state)
    (step : ∀ done state item, P done state → report state item = [] →
      P (done ++ [item]) (turn state item))
    (hclean : errors (items.foldl turn state) = []) :
    P (done ++ items) (items.foldl turn state) := by
  induction items generalizing done state with
  | nil => simpa using start
  | cons item rest ih =>
      have hturn : report state item = [] := by
        have hnext : errors (turn state item) = [] := h.clean_before hclean
        rw [h] at hnext
        exact (List.append_eq_nil_iff.mp hnext).2
      have hrest := ih (step done state item start hturn) hclean
      simpa using hrest

/-- A clean loop reports nothing at the turn of any of its items. -/
theorem Collects.clean_turn (h : Collects turn errors report) {before after : List R} {item : R}
    (hclean : errors ((before ++ item :: after).foldl turn state) = []) :
    report (before.foldl turn state) item = [] := by
  rw [List.foldl_append, List.foldl_cons] at hclean
  have hnext := h.clean_before hclean
  rw [h] at hnext
  exact (List.append_eq_nil_iff.mp hnext).2

theorem Collects.clean_of_append (h : Collects turn errors report) {before after : List R}
    (hclean : errors ((before ++ after).foldl turn state) = []) :
    errors (before.foldl turn state) = [] := by
  rw [List.foldl_append] at hclean
  exact h.clean_before hclean

/-- A loop ends clean when an invariant of its turns keeps each of them from reporting. -/
theorem Collects.clean (h : Collects turn errors report) (start : P done state)
    (hstart : errors state = [])
    (step : ∀ before state item rest, done ++ items = before ++ item :: rest → P before state →
      report state item = [] ∧ P (before ++ [item]) (turn state item)) :
    errors (items.foldl turn state) = [] := by
  induction items generalizing done state with
  | nil => exact hstart
  | cons item rest ih =>
      obtain ⟨hreport, hnext⟩ := step done state item rest rfl start
      refine ih hnext ?_ ?_
      · rw [h, hstart, hreport, List.append_nil]
      · intro before state' item' rest' hsplit
        exact step before state' item' rest' (by rw [← hsplit, List.append_assoc]; rfl)

/-- What is reported at the end was there at the start, or was reported at some turn. -/
theorem Collects.reported (h : Collects turn errors report) {Q : E → Prop}
    (hstart : ∀ error ∈ errors state, Q error)
    (hturn : ∀ state item, ∀ error ∈ report state item, Q error) :
    ∀ error ∈ errors (items.foldl turn state), Q error := by
  induction items generalizing state with
  | nil => exact hstart
  | cons item rest ih =>
      refine ih ?_
      rw [h, List.forall_mem_append]
      exact ⟨hstart, hturn state item⟩

end Audits
