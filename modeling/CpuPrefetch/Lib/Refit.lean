/-
Weighted sums of responses, and of what a linear design fits to them.

Coefficients fit when the residuals are orthogonal to every column of the design.  A weighted sum
whose weights are themselves a combination of the columns does not see such residuals.
-/
import Mathlib

namespace Refit

open Matrix

variable {rows columns R : Type} [Fintype rows] [Fintype columns]

section Fitted

variable [CommRing R] {X : Matrix rows columns R} {y weights : rows → R} {b : columns → R}

/-- The residuals of the coefficients are orthogonal to the columns. -/
def Fits (X : Matrix rows columns R) (y : rows → R) (b : columns → R) : Prop :=
  Xᵀ *ᵥ (y - X *ᵥ b) = 0

/-- The weights are a combination of the columns. -/
def Spanned (X : Matrix rows columns R) (weights : rows → R) : Prop :=
  ∃ a : columns → R, weights = X *ᵥ a

/-- **A weighted sum with weights in the column space is the same of the fitted values.** -/
theorem Fits.dotProduct_eq (hfits : Fits X y b) (hspanned : Spanned X weights) :
    weights ⬝ᵥ y = weights ⬝ᵥ (X *ᵥ b) := by
  obtain ⟨a, rfl⟩ := hspanned
  have hresidual : (X *ᵥ a) ⬝ᵥ (y - X *ᵥ b) = 0 := by
    rw [← vecMul_transpose, ← dotProduct_mulVec, hfits, dotProduct_zero]
  rwa [dotProduct_sub, sub_eq_zero] at hresidual

end Fitted

omit [Fintype rows] in
/-- A design that sends no other coefficients to zero has full column rank. -/
theorem rank_eq_card [Field R] {X : Matrix rows columns R}
    (h : ∀ b, X *ᵥ b = 0 → b = 0) : X.rank = Fintype.card columns := by
  have hinjective : Function.Injective X.mulVecLin :=
    (injective_iff_map_eq_zero X.mulVecLin).mpr fun b hb => h b hb
  rw [Matrix.rank, LinearMap.finrank_range_of_inj hinjective, Module.finrank_fintype_fun_eq_card]

end Refit
