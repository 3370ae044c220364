/-
The smallest values of a sample, in order.

The element at an index of the sorted sample is the least value that more elements than
the index do not exceed.  A sample can be sorted, or it can be given as runs of equal values
in increasing order and walked until enough elements have been passed.  The quantile of a
fraction is the element at the rank rounded up.
-/
import Mathlib

namespace OrderStatistics

open List

/-! ### Ranks -/

/-- The ceiling of a product can be taken of the remainder alone. -/
theorem ceilDiv_split (count numerator : Nat) {denominator : Nat} (h : 0 < denominator) :
    count / denominator * numerator +
        (count % denominator * numerator + denominator - 1) / denominator =
      (count * numerator) ⌈/⌉ denominator := by
  rw [Nat.ceilDiv_eq_add_pred_div]
  have hcount : count * numerator =
      denominator * (count / denominator * numerator) + count % denominator * numerator := by
    calc count * numerator
        = (denominator * (count / denominator) + count % denominator) * numerator := by
          rw [Nat.div_add_mod]
      _ = denominator * (count / denominator * numerator) + count % denominator * numerator := by
          ring
  have hsplit : count * numerator + denominator - 1 =
      denominator * (count / denominator * numerator) +
        (count % denominator * numerator + denominator - 1) := by
    omega
  rw [hsplit, Nat.mul_add_div h]

/-- A ceiling is the quotient, and one more when there is a remainder. -/
theorem ceilDiv_remainder (value : Nat) {denominator : Nat} (h : 0 < denominator) :
    (value + denominator - 1) / denominator =
      value / denominator + (if value % denominator = 0 then 0 else 1) := by
  have hvalue := Nat.div_add_mod value denominator
  have hlt := Nat.mod_lt value h
  by_cases hzero : value % denominator = 0
  · have hsplit : value + denominator - 1 =
        denominator * (value / denominator) + (denominator - 1) := by omega
    have hlow : (denominator - 1) / denominator = 0 := Nat.div_eq_of_lt (by omega)
    rw [if_pos hzero, hsplit, Nat.mul_add_div h, hlow]
  · have hsplit : value + denominator - 1 =
        denominator * (value / denominator + 1) + (value % denominator - 1) := by
      rw [Nat.mul_add]
      omega
    have hlow : (value % denominator - 1) / denominator = 0 := Nat.div_eq_of_lt (by omega)
    rw [if_neg hzero, hsplit, Nat.mul_add_div h, hlow]

theorem ceilDiv_le_iff {count denominator bound : Nat} (h : 0 < denominator) :
    count ⌈/⌉ denominator ≤ bound ↔ count ≤ denominator * bound := by
  rw [ceilDiv_le_iff_le_smul h, smul_eq_mul]

/-- A fraction of some elements is at least one of them and at most all. -/
theorem rank_bounds {count numerator denominator : Nat} (hcount : 0 < count)
    (hpositive : 0 < numerator) (hle : numerator ≤ denominator) :
    1 ≤ (count * numerator) ⌈/⌉ denominator ∧ (count * numerator) ⌈/⌉ denominator ≤ count := by
  have hdenominator : 0 < denominator := Nat.lt_of_lt_of_le hpositive hle
  constructor
  · by_contra hzero
    have hproduct := Nat.mul_pos hcount hpositive
    have hbound := (@ceilDiv_le_iff (count * numerator) denominator 0 hdenominator).mp (by omega)
    omega
  · rw [ceilDiv_le_iff hdenominator, Nat.mul_comm denominator]
    exact Nat.mul_le_mul_left count hle

/-! ### Sorted samples -/

section Sorted

variable {α : Type} [LE α] [DecidableLE α] [Std.IsLinearOrder α]

/-- Sorting finds the sorted order whatever order the sample is in. -/
theorem mergeSort_of_perm {values sorted : List α} (hperm : values.Perm sorted)
    (hsorted : sorted.Pairwise (· ≤ ·)) : values.mergeSort = sorted := by
  refine List.Perm.eq_of_pairwise' ?_ hsorted ((mergeSort_perm values _).trans hperm)
  exact pairwise_mergeSort' (· ≤ ·) values

/-- **What is at an index is the least value that more elements do not exceed.** -/
theorem isLeast_getElem {sorted : List α} (hsorted : sorted.Pairwise (· ≤ ·)) {index : Nat}
    (h : index < sorted.length) :
    IsLeast {value | index < sorted.countP (· ≤ value)} sorted[index] := by
  constructor
  · have hleading : ∀ value ∈ sorted.take (index + 1), value ≤ sorted[index] := by
      intro value hvalue
      obtain ⟨position, hposition, rfl⟩ := List.mem_take_iff_getElem.mp hvalue
      by_cases heq : position = index
      · subst heq
        exact Std.le_refl _
      · exact List.pairwise_iff_getElem.mp hsorted position index _ h (by omega)
    show index < sorted.countP _
    calc index < (sorted.take (index + 1)).length := by rw [length_take]; omega
      _ = (sorted.take (index + 1)).countP (· ≤ sorted[index]) := by
          rw [eq_comm, countP_eq_length]
          intro value hvalue
          exact decide_eq_true (hleading value hvalue)
      _ ≤ sorted.countP (· ≤ sorted[index]) :=
          (take_sublist (index + 1) sorted).countP_le
  · intro value hvalue
    by_contra hnot
    have hsuffix : (sorted.drop index).countP (· ≤ value) = 0 := by
      rw [countP_eq_zero]
      intro other hother hle
      obtain ⟨position, hposition, rfl⟩ := List.mem_drop_iff_getElem.mp hother
      apply hnot
      refine Std.le_trans ?_ (of_decide_eq_true hle)
      by_cases heq : position = 0
      · subst heq
        exact Std.le_refl _
      · exact List.pairwise_iff_getElem.mp hsorted index (index + position) h _ (by omega)
    have hcount : sorted.countP (· ≤ value) =
        (sorted.take index).countP (· ≤ value) + (sorted.drop index).countP (· ≤ value) := by
      rw [← countP_append, take_append_drop]
    have hle := @List.countP_le_length _ (· ≤ value) (sorted.take index)
    rw [length_take] at hle
    have hlt : index < sorted.countP (· ≤ value) := hvalue
    omega

end Sorted

/-! ### Runs of equal values -/

section Runs

variable {α : Type}

/-- The sample that is given as runs. -/
def expand (runs : List (α × Nat)) : List α :=
  runs.flatMap fun run => List.replicate run.2 run.1

/-- The value of the run that reaches this rank. -/
def select : Nat → List (α × Nat) → Option α
  | _, [] => none
  | rank, run :: rest => if rank ≤ run.2 then some run.1 else select (rank - run.2) rest

@[simp] theorem expand_nil : expand ([] : List (α × Nat)) = [] := rfl

@[simp] theorem expand_cons (run : α × Nat) (rest : List (α × Nat)) :
    expand (run :: rest) = List.replicate run.2 run.1 ++ expand rest := flatMap_cons

@[simp] theorem length_expand (runs : List (α × Nat)) :
    (expand runs).length = (runs.map Prod.snd).sum := by
  induction runs with
  | nil => rfl
  | cons run rest ih => simp [ih]

theorem pairwise_expand [LE α] [Std.Refl (α := α) (· ≤ ·)] {runs : List (α × Nat)}
    (h : runs.Pairwise fun run later => run.1 ≤ later.1) : (expand runs).Pairwise (· ≤ ·) := by
  refine List.pairwise_flatMap.mpr ⟨?_, ?_⟩
  · intro run _
    exact List.pairwise_replicate.mpr (.inr (Std.Refl.refl run.1))
  · refine h.imp ?_
    intro run later hle value hvalue other hother
    rw [(List.mem_replicate.mp hvalue).2, (List.mem_replicate.mp hother).2]
    exact hle

/-- **The walk over the runs finds what is at the rank.** -/
theorem select_eq {rank : Nat} (hpositive : 0 < rank) (runs : List (α × Nat)) :
    select rank runs = (expand runs)[rank - 1]? := by
  induction runs generalizing rank with
  | nil => rfl
  | cons run rest ih =>
      unfold select
      rw [expand_cons]
      by_cases hle : rank ≤ run.2
      · have hlt : rank - 1 < (List.replicate run.2 run.1).length := by
          rw [length_replicate]
          omega
        rw [if_pos hle, getElem?_append_left hlt, getElem?_eq_getElem hlt,
          getElem_replicate]
      · have hge : (List.replicate run.2 run.1).length ≤ rank - 1 := by
          rw [length_replicate]
          omega
        rw [if_neg hle, ih (by omega), getElem?_append_right hge, length_replicate]
        congr 1
        omega

end Runs

end OrderStatistics
