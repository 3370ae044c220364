/-
The registered contrasts, and the regression they are taken from.

The design has a column for every effect that a contrast is made of, so the weights of each
contrast are a combination of its columns: a contrast of the responses is the same contrast of
what the regression fits to them, whatever the coefficients that solve its equations.
-/
import CpuPrefetch.Lib.Refit
import CpuPrefetch.Proofs.Analysis.ContrastWeights
import CpuPrefetch.Proofs.Orchestration.PlannedBlocks

namespace CpuPrefetch.Analysis

open Protocol Orchestration Matrix
open Refit (Fits Spanned)

/-- The rows of the design, one for each registered cell. -/
abbrev StageARow := Fin expectedStageACells.length

variable (inexact : Inexact)

/-- The matrix that the rank is taken of, before its elimination. -/
def designMatrix : Matrix StageARow (Fin 40) ℚ := fun row column =>
  entryAt (exactArithmetic inexact) (expectedStageACells.map (designRow (exactArithmetic inexact)))
    row column

/-! ### The columns -/

def dot (left right : List ℚ) : ℚ := (List.zipWith (· * ·) left right).sum

def level (condition : Bool) : ℚ := if condition then 1 else 0

/-- A half with the sign of the level. -/
def halfLevel (condition : Bool) : ℚ := if condition then -(1 / 2) else 1 / 2

/-- One for the level, and minus one for the last one of the factor. -/
def signedLevel (condition last : Bool) : ℚ := if condition then 1 else if last then -1 else 0

def contextLevels (context : Context) : List ℚ :=
  [halfLevel (context.1 = .near),
    signedLevel (context.2.1 = .l2Resident) (context.2.1 = .beyondLlc),
    signedLevel (context.2.1 = .llcResident) (context.2.1 = .beyondLlc),
    signedLevel (context.2.2 = .l025) (context.2.2 = .l075),
    signedLevel (context.2.2 = .l050) (context.2.2 = .l075)]

def softwareLevels (package : QueuePackage) : List ℚ :=
  [1, level (package = .l0 || package = .l1), level (package = .r1), level (package = .r2),
    level (package = .l1)]

/-- The row of the design with these levels of the software, the hardware and the context. -/
def rowOf (software : List ℚ) (h : ℚ) (context : List ℚ) : List ℚ :=
  software ++ [h] ++ context ++ context.map (software.getD 1 0 * ·) ++
    (software.tail.map fun column => column * h) ++ context.map (h * ·) ++
    (software.drop 2).flatMap fun column => context.map (column * ·)

/-- The row of a cell. -/
def levelsRow (key : CellKey) : List ℚ :=
  rowOf (softwareLevels key.1) (halfLevel (key.2.1 = .h0)) (contextLevels key.2.2)

theorem designRow_eq (key : CellKey) : designRow (exactArithmetic inexact) key = levelsRow key := by
  obtain ⟨package, state, placement, workingSet, load⟩ := key
  have hhalf : ∀ condition : Prop, [Decidable condition] → (if condition then
      (exactArithmetic inexact).neg (exactArithmetic inexact).half
        else (exactArithmetic inexact).half) = halfLevel (decide condition) := by
    intro condition _
    simp [halfLevel, exactArithmetic]
  rw [designRow]
  simp only [hhalf]
  rfl

/-! ### The contrasts are in their span -/

/-- Coefficients of the columns: of the software, of the hardware, and of the context by what it
stands next to. -/
def coefficientsOf (software hardware context beside : List ℚ) (scale : ℚ) : List ℚ :=
  software ++ hardware.take 1 ++ context.map (beside.getD 0 0 * ·) ++
    context.map (beside.getD 1 0 * ·) ++ hardware.drop 1 ++ context.map (scale * ·) ++
    (beside.drop 2).flatMap fun coefficient => context.map (coefficient * ·)

def noCoefficients : List ℚ := List.replicate 5 0

theorem exists_five {values : List ℚ} (h : values.length = 5) :
    ∃ a b c d e, values = [a, b, c, d, e] := by
  match values, h with
  | [a, b, c, d, e], _ => exact ⟨a, b, c, d, e, rfl⟩

theorem coefficientsOf_length {software hardware context beside : List ℚ} {scale : ℚ}
    (hsoftware : software.length = 5) (hhardware : hardware.length = 5)
    (hcontext : context.length = 5) (hbeside : beside.length = 5) :
    (coefficientsOf software hardware context beside scale).length = 40 := by
  obtain ⟨b0, b1, b2, b3, b4, rfl⟩ := exists_five hbeside
  simp [coefficientsOf, hsoftware, hhardware, hcontext]

theorem dot_coefficientsOf {package : QueuePackage} {h scale : ℚ}
    {levels software hardware context beside : List ℚ} (hlevels : levels.length = 5)
    (hsoftware : software.length = 5) (hhardware : hardware.length = 5)
    (hcontext : context.length = 5) (hbeside : beside.length = 5) :
    dot (rowOf (softwareLevels package) h levels)
        (coefficientsOf software hardware context beside scale) =
      dot (softwareLevels package) software + h * dot (softwareLevels package) hardware +
        dot levels context * (dot (softwareLevels package) beside + h * scale) := by
  obtain ⟨l0, l1, l2, l3, l4, rfl⟩ := exists_five hlevels
  obtain ⟨s0, s1, s2, s3, s4, rfl⟩ := exists_five hsoftware
  obtain ⟨h0, h1, h2, h3, h4, rfl⟩ := exists_five hhardware
  obtain ⟨c0, c1, c2, c3, c4, rfl⟩ := exists_five hcontext
  obtain ⟨b0, b1, b2, b3, b4, rfl⟩ := exists_five hbeside
  simp [dot, rowOf, softwareLevels, coefficientsOf]
  ring

theorem dot_noCoefficients {levels : List ℚ} (h : levels.length = 5) :
    dot levels noCoefficients = 0 := by
  obtain ⟨l0, l1, l2, l3, l4, rfl⟩ := exists_five h
  simp [dot, noCoefficients, List.replicate_succ]

/-- What the columns of the software and of the hardware come to in each contrast of H1. -/
def h1Coefficients : List (List ℚ × List ℚ) :=
  [([-1 / 36, 1 / 18, 1 / 18, 1 / 36, -1 / 18], [0, 0, 0, 0, 0]),
    ([-1 / 36, 1 / 18, 1 / 36, 1 / 18, -1 / 18], [0, 0, 0, 0, 0]),
    ([0, 0, 0, 0, 0], [-1 / 9, 2 / 9, 1 / 9, 1 / 9, -1 / 9]),
    ([0, 0, 0, 0, 0], [-1 / 9, 1 / 9, 2 / 9, 1 / 9, 0]),
    ([0, 0, 0, 0, 0], [-1 / 9, 1 / 9, 1 / 9, 2 / 9, 0]),
    ([0, 0, 0, 0, 0], [0, -1 / 9, 0, 0, 2 / 9]),
    ([0, 0, -1 / 36, 1 / 36, 0], [0, 0, 0, 0, 0])]

/-- What the columns of the contexts come to in the average of an operation. -/
def operationCoefficients : H2Operation → List ℚ
  | .p => [2 / 9, 0, 0, 0, 0]
  | .w12 => [0, -1 / 6, 1 / 6, 0, 0]
  | .w23 => [0, 0, -1 / 6, 0, 0]
  | .a12 => [0, 0, 0, -1 / 6, 1 / 6]
  | .a23 => [0, 0, 0, 0, -1 / 6]

/-- What the software and the hardware come to in the value of a context. -/
def suffixCoefficients : PackageSuffix → List ℚ × ℚ
  | .h => ([0, 0, 0, 0, 0], 2 / 5)
  | .r1 => ([-1 / 2, 1 / 2, 1, 1 / 2, 0], 0)
  | .r2 => ([-1 / 2, 1 / 2, 1 / 2, 1, 0], 0)
  | .l1 => ([0, -1 / 2, 0, 0, 1], 0)

theorem mem_registered {key : CellKey} (h : key ∈ expectedStageACells) :
    key.1 ∈ packages ∧ key.2.1 ∈ states ∧ key.2.2 ∈ stageAContexts := by
  rw [expectedStageACells_eq] at h
  obtain ⟨package, hpackage, h⟩ := List.mem_flatMap.mp h
  obtain ⟨state, hstate, h⟩ := List.mem_flatMap.mp h
  obtain ⟨context, hcontext, rfl⟩ := List.mem_map.mp h
  exact ⟨hpackage, hstate, hcontext⟩

theorem h1Coefficients_eq : ∀ index < 7, ∀ coefficients ∈ h1Coefficients[index]?,
    coefficients.1.length = 5 ∧ coefficients.2.length = 5 ∧
      ∀ package ∈ packages, ∀ state ∈ states, 1 / 18 * (h1Weights package state).getD index 0 =
        dot (softwareLevels package) coefficients.1 +
          halfLevel (state = .h0) * dot (softwareLevels package) coefficients.2 := by
  decide +kernel

theorem operationCoefficients_eq (operation : H2Operation) : ∀ context ∈ stageAContexts,
    operationWeight operation context = dot (contextLevels context)
      (operationCoefficients operation) := by
  cases operation <;> decide +kernel

theorem suffixCoefficients_eq (suffix : PackageSuffix) : ∀ package ∈ packages, ∀ state ∈ states,
    suffixWeight suffix package state = dot (softwareLevels package) (suffixCoefficients suffix).1 +
      halfLevel (state = .h0) * (suffixCoefficients suffix).2 := by
  cases suffix <;> decide +kernel

theorem levelsRow_length (key : CellKey) : (levelsRow key).length = 40 := rfl

theorem dot_eq_sum {n : Nat} {left right : List ℚ} (hleft : left.length = n)
    (hright : right.length = n) :
    dot left right = ∑ column : Fin n, left.getD column 0 * right.getD column 0 := by
  have hterms : List.zipWith (· * ·) left right =
      List.ofFn fun column : Fin n => left.getD column 0 * right.getD column 0 := by
    refine List.ext_getElem (by simp [hleft, hright]) fun m _ _ => ?_
    simp [List.getD_eq_getElem?_getD, hleft, hright]
  rw [dot, hterms, List.sum_ofFn]

theorem designMatrix_apply (row : StageARow) (column : Fin 40) :
    designMatrix inexact row column = (levelsRow (expectedStageACells.get row)).getD column 0 := by
  rw [designMatrix, entryAt, ← designRow_eq inexact]
  simp [List.getD_eq_getElem?_getD, exactArithmetic, Binary64.zero]

variable {coefficients : List ℚ}

/-- The fitted value of a cell, by its row. -/
theorem designMatrix_mulVec (h : coefficients.length = 40) (row : StageARow) :
    (designMatrix inexact *ᵥ fun column => coefficients.getD column 0) row =
      dot (levelsRow (expectedStageACells.get row)) coefficients := by
  rw [dot_eq_sum (levelsRow_length _) h]
  simp only [mulVec, dotProduct, designMatrix_apply]

/-- Weights that come to the rows under some coefficients are in the span of the columns. -/
theorem spanned_of_dot (weight : CellKey → ℚ) (h : coefficients.length = 40)
    (hweight : ∀ key ∈ expectedStageACells, weight key = dot (levelsRow key) coefficients) :
    Spanned (designMatrix inexact) fun row => weight (expectedStageACells.get row) := by
  refine ⟨fun column => coefficients.getD column 0, funext fun row => ?_⟩
  rw [designMatrix_mulVec inexact h, hweight _ (List.get_mem _ _)]

theorem h1Weight_spanned {index : Nat} (hindex : index < 7) :
    Spanned (designMatrix inexact) fun row => h1Weight index (expectedStageACells.get row) := by
  obtain ⟨coefficients, hcoefficients⟩ :
      ∃ coefficients, h1Coefficients[index]? = some coefficients :=
    ⟨_, List.getElem?_eq_getElem hindex⟩
  obtain ⟨hsoftware, hhardware, heq⟩ := h1Coefficients_eq index hindex coefficients hcoefficients
  have hlength : (coefficientsOf coefficients.1 coefficients.2 noCoefficients noCoefficients
      0).length = 40 := coefficientsOf_length hsoftware hhardware rfl rfl
  refine spanned_of_dot inexact (h1Weight index) hlength fun key hkey => ?_
  obtain ⟨hpackage, hstate, -⟩ := mem_registered hkey
  rw [levelsRow, dot_coefficientsOf rfl hsoftware hhardware rfl rfl, dot_noCoefficients rfl,
    zero_mul, add_zero]
  exact heq _ hpackage _ hstate

theorem h2Weight_spanned (contrast : H2Operation × PackageSuffix) :
    Spanned (designMatrix inexact) fun row =>
      h2Weight contrast (expectedStageACells.get row) := by
  obtain ⟨operation, suffix⟩ := contrast
  have hoperation : (operationCoefficients operation).length = 5 := by cases operation <;> rfl
  have hsuffix : (suffixCoefficients suffix).1.length = 5 := by cases suffix <;> rfl
  have hlength : (coefficientsOf noCoefficients noCoefficients (operationCoefficients operation)
      (suffixCoefficients suffix).1 (suffixCoefficients suffix).2).length = 40 :=
    coefficientsOf_length rfl rfl hoperation hsuffix
  refine spanned_of_dot inexact (h2Weight (operation, suffix)) hlength fun key hkey => ?_
  obtain ⟨hpackage, hstate, hcontext⟩ := mem_registered hkey
  rw [levelsRow, dot_coefficientsOf rfl rfl rfl hoperation hsuffix, dot_noCoefficients rfl,
    mul_zero, zero_add, zero_add, h2Weight, operationCoefficients_eq operation _ hcontext,
    suffixCoefficients_eq suffix _ hpackage _ hstate]

/-! ### The rank -/

variable {a : ℚ}

/-- Five coefficients of the software are all zero when they come to zero for every package. -/
theorem software_zero {b c d e : ℚ}
    (h : ∀ package ∈ packages, dot (softwareLevels package) [a, b, c, d, e] = 0) :
    a = 0 ∧ b = 0 ∧ c = 0 ∧ d = 0 ∧ e = 0 := by
  have hr0 := h .r0 (by decide)
  have hr1 := h .r1 (by decide)
  have hr2 := h .r2 (by decide)
  have hl0 := h .l0 (by decide)
  have hl1 := h .l1 (by decide)
  simp [dot, softwareLevels, level] at hr0 hr1 hr2 hl0 hl1
  refine ⟨?_, ?_, ?_, ?_, ?_⟩ <;> linarith

/-- A constant and five coefficients of a context are all zero when they come to zero in each. -/
theorem context_zero {k0 k1 k2 k3 k4 : ℚ}
    (h : ∀ context ∈ stageAContexts, a + dot (contextLevels context) [k0, k1, k2, k3, k4] = 0) :
    a = 0 ∧ k0 = 0 ∧ k1 = 0 ∧ k2 = 0 ∧ k3 = 0 ∧ k4 = 0 := by
  have h1 := h (.near, .l2Resident, .l025) (by decide)
  have h2 := h (.far, .l2Resident, .l025) (by decide)
  have h3 := h (.near, .llcResident, .l025) (by decide)
  have h4 := h (.near, .beyondLlc, .l025) (by decide)
  have h5 := h (.near, .l2Resident, .l050) (by decide)
  have h6 := h (.near, .l2Resident, .l075) (by decide)
  simp [dot, contextLevels, halfLevel, signedLevel] at h1 h2 h3 h4 h5 h6
  refine ⟨?_, ?_, ?_, ?_, ?_, ?_⟩ <;> linarith

/-- What is zero under both hardware states is zero, and so is what they differ in. -/
theorem states_zero {b : ℚ} (h : ∀ state ∈ states, a + halfLevel (state = .h0) * b = 0) :
    a = 0 ∧ b = 0 := by
  have h0 := h .h0 (by decide)
  have h1 := h .h1 (by decide)
  simp [halfLevel] at h0 h1
  constructor <;> linarith

theorem exists_front {n : Nat} {values : List ℚ} (h : values.length = n + 5) :
    ∃ a b c d e rest, values = [a, b, c, d, e] ++ rest ∧ rest.length = n := by
  match values, h with
  | a :: b :: c :: d :: e :: rest, h => exact ⟨a, b, c, d, e, rest, rfl, by simpa using h⟩

/-- The columns are independent. -/
theorem coefficients_zero (h : coefficients.length = 40)
    (hzero : ∀ key ∈ expectedStageACells, dot (levelsRow key) coefficients = 0) :
    ∀ coefficient ∈ coefficients, coefficient = 0 := by
  obtain ⟨s0, sq, s1, s2, sl, rest, rfl, h35⟩ := exists_front h
  obtain ⟨h0, k0, k1, k2, k3, rest, rfl, h30⟩ := exists_front h35
  obtain ⟨k4, q0, q1, q2, q3, rest, rfl, h25⟩ := exists_front h30
  obtain ⟨q4, hq, h1, h2, hl, rest, rfl, h20⟩ := exists_front h25
  obtain ⟨t0, t1, t2, t3, t4, rest, rfl, h15⟩ := exists_front h20
  obtain ⟨u0, u1, u2, u3, u4, rest, rfl, h10⟩ := exists_front h15
  obtain ⟨v0, v1, v2, v3, v4, rest, rfl, h5⟩ := exists_front h10
  obtain ⟨w0, w1, w2, w3, w4, rfl⟩ := exists_five h5
  have hrow : ∀ (package : QueuePackage) (state : ℚ) (c0 c1 c2 c3 c4 : ℚ),
      dot (rowOf (softwareLevels package) state [c0, c1, c2, c3, c4])
        ([s0, sq, s1, s2, sl] ++ ([h0, k0, k1, k2, k3] ++ ([k4, q0, q1, q2, q3] ++
          ([q4, hq, h1, h2, hl] ++ ([t0, t1, t2, t3, t4] ++ ([u0, u1, u2, u3, u4] ++
            ([v0, v1, v2, v3, v4] ++ [w0, w1, w2, w3, w4]))))))) =
      dot (softwareLevels package) [s0, sq, s1, s2, sl] +
          state * dot (softwareLevels package) [h0, hq, h1, h2, hl] +
        dot [c0, c1, c2, c3, c4]
          [dot (softwareLevels package) [k0, q0, u0, v0, w0] + state * t0,
            dot (softwareLevels package) [k1, q1, u1, v1, w1] + state * t1,
            dot (softwareLevels package) [k2, q2, u2, v2, w2] + state * t2,
            dot (softwareLevels package) [k3, q3, u3, v3, w3] + state * t3,
            dot (softwareLevels package) [k4, q4, u4, v4, w4] + state * t4] := by
    intro package state c0 c1 c2 c3 c4
    simp [dot, rowOf, softwareLevels]
    ring
  have hcell : ∀ package ∈ packages, ∀ state ∈ states, _ := fun package hpackage state hstate =>
    context_zero fun context hcontext =>
      (hrow package (halfLevel (state = .h0)) _ _ _ _ _).symm.trans
        (hzero (package, state, context) (registered hpackage hstate hcontext))
  -- a column that is zero in every cell has no coefficient, of the software or of the hardware
  have hcolumn : ∀ {a b c d e t : ℚ}, (∀ package ∈ packages, ∀ state ∈ states,
      dot (softwareLevels package) [a, b, c, d, e] + halfLevel (state = .h0) * t = 0) →
        (a = 0 ∧ b = 0 ∧ c = 0 ∧ d = 0 ∧ e = 0) ∧ t = 0 := by
    intro a b c d e t hall
    exact ⟨software_zero fun package hpackage => (states_zero (hall package hpackage)).1,
      (states_zero (hall .r0 (by decide))).2⟩
  have hsoftware := software_zero fun package hpackage =>
    (states_zero fun state hstate => (hcell package hpackage state hstate).1).1
  have hhardware := software_zero fun package hpackage =>
    (states_zero fun state hstate => (hcell package hpackage state hstate).1).2
  have hk0 := hcolumn fun package hpackage state hstate =>
    (hcell package hpackage state hstate).2.1
  have hk1 := hcolumn fun package hpackage state hstate =>
    (hcell package hpackage state hstate).2.2.1
  have hk2 := hcolumn fun package hpackage state hstate =>
    (hcell package hpackage state hstate).2.2.2.1
  have hk3 := hcolumn fun package hpackage state hstate =>
    (hcell package hpackage state hstate).2.2.2.2.1
  have hk4 := hcolumn fun package hpackage state hstate =>
    (hcell package hpackage state hstate).2.2.2.2.2
  simp only [List.cons_append, List.nil_append, List.forall_mem_cons, hsoftware, hhardware,
    hk0, hk1, hk2, hk3, hk4, true_and]
  exact List.forall_mem_nil _

theorem designMatrix_rank : (designMatrix inexact).rank = 40 := by
  refine (Refit.rank_eq_card fun b hb => funext fun column => ?_).trans (Fintype.card_fin 40)
  have hlength : (List.ofFn b).length = 40 := List.length_ofFn
  have hcoefficients : (fun column : Fin 40 => (List.ofFn b).getD column 0) = b := by
    funext column
    simp only [List.getD_eq_getElem?_getD, List.getElem?_ofFn, Fin.is_lt, dite_true,
      Option.getD_some]
  refine coefficients_zero hlength (fun key hkey => ?_) (b column) (List.mem_ofFn.mpr ⟨column, rfl⟩)
  obtain ⟨row, rfl⟩ := List.get_of_mem hkey
  rw [← designMatrix_mulVec inexact hlength row, hcoefficients, hb]
  rfl

/-! ### The refit -/

/-- The block has this response in every registered cell, in whatever order its cells are. -/
def Responds (block : CompleteBlockResponse ℚ) (y : StageARow → ℚ) : Prop :=
  (block.cells.map CellResponse.entry).Perm
    (List.ofFn fun row => (expectedStageACells.get row, y row))

/-- The response of a cell by its key, with any value for a key that is not registered. -/
def rowResponse (y : StageARow → ℚ) (key : CellKey) : ℚ :=
  if h : expectedStageACells.idxOf key < expectedStageACells.length then y ⟨_, h⟩ else 0

theorem rowResponse_get (y : StageARow → ℚ) (row : StageARow) :
    rowResponse y (expectedStageACells.get row) = y row := by
  have hindex : expectedStageACells.idxOf (expectedStageACells.get row) = row :=
    List.get_idxOf expectedStageACells_nodup row
  rw [rowResponse, dif_pos (by rw [hindex]; exact row.isLt)]
  exact congrArg y (Fin.ext hindex)

/-- A weighted sum over the keys is one over the rows. -/
theorem weighted_rowResponse (weight : CellKey → ℚ) (y : StageARow → ℚ) :
    weighted weight (rowResponse y) = (fun row => weight (expectedStageACells.get row)) ⬝ᵥ y := by
  rw [weighted, ← Fin.sum_univ_fun_getElem]
  refine Finset.sum_congr rfl fun row _ => ?_
  show weight (expectedStageACells.get row) * rowResponse y (expectedStageACells.get row) = _
  rw [rowResponse_get]

variable {y : StageARow → ℚ}

theorem Responds.holds {block : CompleteBlockResponse ℚ} (h : Responds block y) :
    ∃ values, cellMap (exactArithmetic inexact) block = .ok values ∧
      Holds values (rowResponse y) := by
  have hkeys : (block.cells.map CellResponse.key).Perm expectedStageACells := by
    have hfirst := List.Perm.map Prod.fst h
    rw [List.map_map, List.map_ofFn] at hfirst
    exact hfirst.trans (List.Perm.of_eq (List.ofFn_get _))
  have hcomplete : Complete (exactArithmetic inexact) block :=
    { length := by
        rw [← List.length_map CellResponse.key, hkeys.length_eq]
        rfl
      finite := fun _ _ => rfl
      distinct := hkeys.nodup_iff.mpr expectedStageACells_nodup }
  refine ⟨_, cellMap_ok.mpr ⟨hcomplete, rfl⟩, fun key hkey => ?_⟩
  obtain ⟨row, rfl⟩ := List.get_of_mem hkey
  have hentry : (expectedStageACells.get row, y row) ∈ block.cells.map CellResponse.entry :=
    h.mem_iff.mpr (List.mem_ofFn.mpr ⟨row, rfl⟩)
  obtain ⟨cell, hcell, heq⟩ := List.mem_map.mp hentry
  obtain ⟨hkey, hvalue⟩ := Prod.mk.inj heq
  rw [rowResponse_get]
  exact (cellOf_entries hcomplete.distinct).mpr ⟨cell, hcell, hkey, hvalue⟩

/-- The contrasts of H1, each as the sum of the responses by its registered weights. -/
def h1ContrastsOf (y : StageARow → ℚ) : List ℚ :=
  (List.range 7).map fun index => ∑ row, h1Weight index (expectedStageACells.get row) * y row

def h2ContrastsOf (y : StageARow → ℚ) : List ℚ :=
  h2ContrastKeys.map fun contrast => ∑ row, h2Weight contrast (expectedStageACells.get row) * y row

theorem Responds.contrasts {block : CompleteBlockResponse ℚ} (h : Responds block y) :
    h1BlockContrasts (exactArithmetic inexact) block = .ok (h1ContrastsOf y) ∧
      h2BlockContrasts (exactArithmetic inexact) block = .ok (h2ContrastsOf y) := by
  obtain ⟨values, hmap, hholds⟩ := h.holds inexact
  rw [h1BlockContrasts_ok hmap hholds, h2BlockContrasts_ok hmap hholds]
  simp only [weighted_rowResponse]
  exact ⟨rfl, rfl⟩

theorem Fits.contrasts_eq {b : Fin 40 → ℚ} (h : Fits (designMatrix inexact) y b) :
    h1ContrastsOf (designMatrix inexact *ᵥ b) = h1ContrastsOf y ∧
      h2ContrastsOf (designMatrix inexact *ᵥ b) = h2ContrastsOf y := by
  constructor
  · exact List.map_congr_left fun index hindex =>
      (h.dotProduct_eq (h1Weight_spanned inexact (List.mem_range.mp hindex))).symm
  · exact List.map_congr_left fun contrast _ =>
      (h.dotProduct_eq (h2Weight_spanned inexact contrast)).symm

/-- **The contrasts of a block are those of the registered refit**: the sums of its responses by
the registered weights, and of what the full-rank design fits to them. -/
theorem contrasts_of_refit {y : StageARow → ℚ} {b : Fin 40 → ℚ}
    {block fitted : CompleteBlockResponse ℚ} (hfits : Fits (designMatrix inexact) y b)
    (hblock : Responds block y) (hfitted : Responds fitted (designMatrix inexact *ᵥ b)) :
    (designMatrix inexact).rank = 40 ∧
      ((h1ContrastsOf y).length = 7 ∧
        h1BlockContrasts (exactArithmetic inexact) block = .ok (h1ContrastsOf y) ∧
        h1BlockContrasts (exactArithmetic inexact) fitted = .ok (h1ContrastsOf y)) ∧
      (h2ContrastsOf y).length = 20 ∧
        h2BlockContrasts (exactArithmetic inexact) block = .ok (h2ContrastsOf y) ∧
        h2BlockContrasts (exactArithmetic inexact) fitted = .ok (h2ContrastsOf y) := by
  obtain ⟨hh1, hh2⟩ := hblock.contrasts inexact
  obtain ⟨hh1', hh2'⟩ := hfitted.contrasts inexact
  obtain ⟨heq1, heq2⟩ := Fits.contrasts_eq inexact hfits
  rw [heq1] at hh1'
  rw [heq2] at hh2'
  refine ⟨designMatrix_rank inexact, ⟨?_, hh1, hh1'⟩, ?_, hh2, hh2'⟩
  · rw [h1ContrastsOf, List.length_map, List.length_range]
  · rfl

/-! ### Responses to evaluate on -/

def cellUnder (key : CellKey) (response : ℚ) : CellResponse ℚ :=
  ⟨key.1, key.2.1, key.2.2.1, key.2.2.2.1, key.2.2.2.2, response⟩

def blockOf (y : StageARow → ℚ) : CompleteBlockResponse ℚ where
  blockId := ⟨[95], List.cons_ne_nil _ _⟩
  role := .h3Train
  cells := List.ofFn fun row => cellUnder (expectedStageACells.get row) (y row)

theorem blockOf_responds (y : StageARow → ℚ) : Responds (blockOf y) y := by
  refine List.Perm.of_eq ?_
  rw [blockOf, List.map_ofFn]
  rfl

def sampleInexact : Inexact := ⟨0, 0, id, id, fun _ => 0⟩

/-- What the sample's response has of the packages and states alone, and per unit of a context. -/
def sampleBase (package : QueuePackage) (state : RequestedHardwareState) : ℚ :=
  dot (softwareLevels package) [1, 2, 3, 4, 5] +
    halfLevel (state = .h0) * dot (softwareLevels package) [6, 7, 8, 9, 10]

def sampleSlope (package : QueuePackage) (state : RequestedHardwareState) : ℚ :=
  dot (softwareLevels package) [11, 12, 13, 14, 15] + halfLevel (state = .h0) * 16

def sampleContext (context : Context) : ℚ := dot (contextLevels context) [1, 2, 3, 4, 5]

def sampleEffects : List ℚ :=
  coefficientsOf [1, 2, 3, 4, 5] [6, 7, 8, 9, 10] [1, 2, 3, 4, 5] [11, 12, 13, 14, 15] 16

def sampleCoefficients (column : Fin 40) : ℚ := sampleEffects.getD column 0

def rowAt (row : Fin 180) : StageARow := row

/-- An interaction of the placement with the load, which the design has no column for. -/
def sampleResidual : StageARow → ℚ :=
  Pi.single (rowAt 0) 1 - Pi.single (rowAt 1) 1 - Pi.single (rowAt 9) 1 + Pi.single (rowAt 10) 1

def sampleResponse : StageARow → ℚ :=
  designMatrix sampleInexact *ᵥ sampleCoefficients + sampleResidual

theorem sampleResponse_fits :
    Fits (designMatrix sampleInexact) sampleResponse sampleCoefficients := by
  have hcolumns : ∀ column : Fin 40,
      (levelsRow (expectedStageACells.get (rowAt 0))).getD column 0 -
          (levelsRow (expectedStageACells.get (rowAt 1))).getD column 0 -
          (levelsRow (expectedStageACells.get (rowAt 9))).getD column 0 +
        (levelsRow (expectedStageACells.get (rowAt 10))).getD column 0 = 0 := by
    decide +kernel
  rw [Fits, sampleResponse, add_sub_cancel_left, sampleResidual, mulVec_add, mulVec_sub, mulVec_sub]
  simp only [mulVec_single_one]
  funext column
  simp only [Pi.add_apply, Pi.sub_apply, col_apply, transpose_apply, designMatrix_apply]
  exact hcolumns column

theorem sample_fitted (row : StageARow) :
    (designMatrix sampleInexact *ᵥ sampleCoefficients) row =
      sampleBase (expectedStageACells.get row).1 (expectedStageACells.get row).2.1 +
        sampleContext (expectedStageACells.get row).2.2 *
          sampleSlope (expectedStageACells.get row).1 (expectedStageACells.get row).2.1 := by
  refine (designMatrix_mulVec sampleInexact (show sampleEffects.length = 40 from rfl) row).trans ?_
  rw [levelsRow, sampleEffects, dot_coefficientsOf rfl rfl rfl rfl rfl]
  rfl

/-- A contrast of what is fitted to the sample, by its parts. -/
theorem sample_contrast (outer : Context → ℚ) (inner : QueuePackage → RequestedHardwareState → ℚ) :
    ∑ row, outer (expectedStageACells.get row).2.2 *
        inner (expectedStageACells.get row).1 (expectedStageACells.get row).2.1 *
          (designMatrix sampleInexact *ᵥ sampleCoefficients) row =
      (stageAContexts.map outer).sum *
          (acrossPackages fun package state => inner package state * sampleBase package state) +
        (stageAContexts.map fun context => outer context * sampleContext context).sum *
          acrossPackages fun package state => inner package state * sampleSlope package state := by
  simp only [sample_fitted]
  refine (Fin.sum_univ_fun_getElem expectedStageACells fun key => outer key.2.2 *
    inner key.1 key.2.1 * (sampleBase key.1 key.2.1 + sampleContext key.2.2 *
      sampleSlope key.1 key.2.1)).trans ?_
  refine (weighted_product outer inner _).trans ?_
  simp only [acrossPackages_eq, ← List.sum_map_mul_right, ← List.sum_map_add]
  refine congrArg List.sum (List.map_congr_left fun context _ => ?_)
  ring

theorem sample_contrasts :
    h1ContrastsOf sampleResponse = [-2, -1, 7, 8, 9, 10, 1] ∧
      h2ContrastsOf sampleResponse = [16, 13, 14, 15, 16, 13, 14, 15, -128, -104, -112, -120,
        16, 13, 14, 15, -224, -182, -196, -210] := by
  obtain ⟨hh1, hh2⟩ := Fits.contrasts_eq sampleInexact sampleResponse_fits
  rw [← hh1, ← hh2]
  constructor
  · refine (List.map_congr_left fun index _ => sample_contrast (fun _ => 1 / 18)
      fun package state => (h1Weights package state).getD index 0).trans ?_
    decide +kernel
  · rw [h2ContrastsOf]
    refine (List.map_congr_left fun (contrast : H2Operation × PackageSuffix) _ =>
      sample_contrast (operationWeight contrast.1) (suffixWeight contrast.2)).trans ?_
    decide +kernel

theorem contrasts_of_refit_sample :
    (designMatrix sampleInexact).rank = 40 ∧
      h1BlockContrasts (exactArithmetic sampleInexact) (blockOf sampleResponse) =
        .ok [-2, -1, 7, 8, 9, 10, 1] ∧
      h1BlockContrasts (exactArithmetic sampleInexact)
          (blockOf (designMatrix sampleInexact *ᵥ sampleCoefficients)) =
        .ok [-2, -1, 7, 8, 9, 10, 1] ∧
      h2BlockContrasts (exactArithmetic sampleInexact) (blockOf sampleResponse) =
        .ok [16, 13, 14, 15, 16, 13, 14, 15, -128, -104, -112, -120, 16, 13, 14, 15, -224, -182,
          -196, -210] ∧
      h2BlockContrasts (exactArithmetic sampleInexact)
          (blockOf (designMatrix sampleInexact *ᵥ sampleCoefficients)) =
        .ok [16, 13, 14, 15, 16, 13, 14, 15, -128, -104, -112, -120, 16, 13, 14, 15, -224, -182,
          -196, -210] := by
  obtain ⟨hrank, ⟨-, hh1, hh1'⟩, -, hh2, hh2'⟩ := contrasts_of_refit sampleInexact
    sampleResponse_fits (blockOf_responds _) (blockOf_responds _)
  rw [sample_contrasts.1] at hh1 hh1'
  rw [sample_contrasts.2] at hh2 hh2'
  exact ⟨hrank, hh1, hh1', hh2, hh2'⟩

end CpuPrefetch.Analysis
