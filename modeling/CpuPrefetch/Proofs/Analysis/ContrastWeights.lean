/-
The contrasts of a block, as weighted sums of its responses.

Over exact numbers an average of differences of averages is one weighted sum.  The weight of a
cell is a product: what its package and hardware state weigh in the effect, and what its context
weighs in the average over the contexts.
-/
import CpuPrefetch.Proofs.Analysis.CellMaps
import CpuPrefetch.Analysis.Inputs

namespace CpuPrefetch.Analysis

open List
open Protocol Orchestration

abbrev Context := Placement × WorkingSetClass × LoadLevel

/-- The map has the response of every registered cell. -/
def Holds (values : CellMap ℚ) (y : CellKey → ℚ) : Prop :=
  ∀ key ∈ expectedStageACells, cellOf values key = some (y key)

/-- The sum over the packages and the states. -/
def acrossPackages (term : QueuePackage → RequestedHardwareState → ℚ) : ℚ :=
  (packages.map fun package => (states.map fun state => term package state).sum).sum

/-- The sum of the responses, each with its weight. -/
def weighted (weight y : CellKey → ℚ) : ℚ :=
  (expectedStageACells.map fun key => weight key * y key).sum

/-! ### The weights -/

def softwareWeight (treated : QueuePackage) (package : QueuePackage) : ℚ :=
  let baseline : QueuePackage := if treated = .l1 then .l0 else .r0
  ((if package = treated then 1 else 0) - if package = baseline then 1 else 0) / 2

def stateWeight (state : RequestedHardwareState) : ℚ := if state = .h0 then -1 else 1

def hardwareWeight (under : QueuePackage) (package : QueuePackage)
    (state : RequestedHardwareState) : ℚ :=
  if package = under then stateWeight state else 0

/-- What a package and a state weigh in the value of a context. -/
def suffixWeight : PackageSuffix → QueuePackage → RequestedHardwareState → ℚ
  | .h => fun _ state => stateWeight state / 5
  | .r1 => fun package _ => softwareWeight .r1 package
  | .r2 => fun package _ => softwareWeight .r2 package
  | .l1 => fun package _ => softwareWeight .l1 package

/-- What they weigh in each of the seven terms of a context. -/
def h1Weights (package : QueuePackage) (state : RequestedHardwareState) : List ℚ :=
  [softwareWeight .r1 package - softwareWeight .l1 package,
    softwareWeight .r2 package - softwareWeight .l1 package,
    hardwareWeight .l0 package state - hardwareWeight .r0 package state,
    hardwareWeight .r1 package state - hardwareWeight .r0 package state,
    hardwareWeight .r2 package state - hardwareWeight .r0 package state,
    hardwareWeight .l1 package state - hardwareWeight .l0 package state,
    softwareWeight .r2 package - softwareWeight .r1 package]

/-- One for the context itself. -/
def atContext (context other : Context) : ℚ := if context = other then 1 else 0

/-- What a context weighs in the average of an operation. -/
def operationWeight (operation : H2Operation) (context : Context) : ℚ :=
  (operation.pairs.map fun pair => atContext pair.1 context - atContext pair.2 context).sum /
    operation.pairs.length

/-- What a cell weighs in a contrast of H1, an average over the eighteen contexts. -/
def h1Weight (index : Nat) (key : CellKey) : ℚ :=
  1 / 18 * (h1Weights key.1 key.2.1).getD index 0

def h2Weight (contrast : H2Operation × PackageSuffix) (key : CellKey) : ℚ :=
  operationWeight contrast.1 key.2.2 * suffixWeight contrast.2 key.1 key.2.1

def h2ContrastKeys : List (H2Operation × PackageSuffix) :=
  h2Operations.flatMap fun operation => packageSuffixes.map fun suffix => (operation, suffix)

/-! ### Sums -/

section Sums

variable {inexact : Inexact} {A : Type} {items : List A}

theorem sumOver_ok {term : A → Outcome ℚ} (value : A → ℚ)
    (h : ∀ item ∈ items, term item = .ok (value item)) :
    sumOver (exactArithmetic inexact) items term = .ok (items.map value).sum := by
  have hfold : ∀ start : ℚ, items.foldlM (fun sum item => do
      let value ← term item
      .ok ((exactArithmetic inexact).add sum value)) start =
        (.ok (start + (items.map value).sum) : Outcome ℚ) := by
    induction items with
    | nil => intro start; simp [pure, Except.pure]
    | cons item rest ih =>
        intro start
        obtain ⟨hitem, hrest⟩ := List.forall_mem_cons.mp h
        rw [foldlM_cons, hitem]
        show rest.foldlM _ (start + value item) = _
        rw [ih hrest, map_cons, sum_cons, add_assoc]
  have hzero : (exactArithmetic inexact).zero = 0 := rfl
  rw [sumOver, hzero, hfold, zero_add]

theorem sum_map_sub (left right : A → ℚ) :
    (items.map fun item => left item - right item).sum =
      (items.map left).sum - (items.map right).sum := by
  induction items with
  | nil => simp
  | cons item rest ih =>
      simp only [map_cons, sum_cons, ih]
      ring

theorem acrossPackages_eq (term : QueuePackage → RequestedHardwareState → ℚ) :
    acrossPackages term = term .r0 .h0 + term .r0 .h1 + (term .r1 .h0 + term .r1 .h1) +
      (term .r2 .h0 + term .r2 .h1) + (term .l0 .h0 + term .l0 .h1) +
      (term .l1 .h0 + term .l1 .h1) := by
  simp only [acrossPackages, packages, states, map_cons, map_nil, sum_cons,
    sum_nil]
  ring

theorem acrossPackages_sub (left right : QueuePackage → RequestedHardwareState → ℚ) :
    (acrossPackages fun package state => left package state - right package state) =
      acrossPackages left - acrossPackages right := by
  simp only [acrossPackages_eq]
  ring

theorem expectedStageACells_eq : expectedStageACells = packages.flatMap fun package =>
    states.flatMap fun state => stageAContexts.map fun context => (package, state, context) := by
  decide +kernel

theorem registered {package : QueuePackage} {state : RequestedHardwareState} {context : Context}
    (hpackage : package ∈ packages) (hstate : state ∈ states)
    (hcontext : context ∈ stageAContexts) :
    (package, state, context) ∈ expectedStageACells := by
  rw [expectedStageACells_eq]
  exact List.mem_flatMap.mpr ⟨package, hpackage, List.mem_flatMap.mpr ⟨state, hstate,
    List.mem_map.mpr ⟨context, hcontext, rfl⟩⟩⟩

/-- A sum with the weights of the contexts apart. -/
theorem weighted_product (outer : Context → ℚ) (inner : QueuePackage → RequestedHardwareState → ℚ)
    (y : CellKey → ℚ) :
    (weighted (fun key => outer key.2.2 * inner key.1 key.2.1) y) =
      (stageAContexts.map fun context => outer context *
        acrossPackages fun package state =>
          inner package state * y (package, state, context)).sum := by
  simp only [weighted, expectedStageACells_eq, packages, states, flatMap_cons, flatMap_nil,
    append_nil, map_append, map_map, sum_append, Function.comp_def,
    acrossPackages_eq, mul_add, List.sum_map_add, mul_assoc]
  ring

end Sums

/-! ### Effects -/

section Effects

variable {inexact : Inexact} {values : CellMap ℚ} {y : CellKey → ℚ} {context : Context}

theorem Holds.valueAt (h : Holds values y) {package : QueuePackage} {state : RequestedHardwareState}
    (hpackage : package ∈ packages) (hstate : state ∈ states)
    (hcontext : context ∈ stageAContexts) :
    valueAt values package state context.1 context.2.1 context.2.2 =
      .ok (y (package, state, context)) := by
  rw [Analysis.valueAt, h _ (registered hpackage hstate hcontext)]

theorem Holds.softwareEffect (h : Holds values y) {treated : QueuePackage}
    (htreated : treated ∈ [QueuePackage.r1, .r2, .l1]) (hcontext : context ∈ stageAContexts) :
    softwareEffect (exactArithmetic inexact) values treated context.1 context.2.1 context.2.2 =
      .ok (acrossPackages fun package state =>
        softwareWeight treated package * y (package, state, context)) := by
  have hbaseline : (if treated = .l1 then QueuePackage.l0 else .r0) ∈ packages := by
    split <;> decide
  have hpackage : treated ∈ packages := by
    revert treated
    decide
  have htwo : (exactArithmetic inexact).ofCount 2 = 2 := rfl
  rw [Analysis.softwareEffect, sumOver_ok (fun state => y (treated, state, context) -
    y (if treated = .l1 then .l0 else .r0, state, context))]
  · show Except.ok (_ / (exactArithmetic inexact).ofCount 2) = _
    rw [htwo, acrossPackages_eq]
    simp only [mem_cons, not_mem_nil, or_false] at htreated
    congr 1
    rcases htreated with rfl | rfl | rfl <;> simp [states, softwareWeight] <;> ring
  · intro state hstate
    rw [h.valueAt hpackage hstate hcontext, h.valueAt hbaseline hstate hcontext]
    rfl

theorem Holds.hardwareEffect (h : Holds values y) {under : QueuePackage} (hunder : under ∈ packages)
    (hcontext : context ∈ stageAContexts) :
    hardwareEffect (exactArithmetic inexact) values under context.1 context.2.1 context.2.2 =
      .ok (acrossPackages fun package state =>
        hardwareWeight under package state * y (package, state, context)) := by
  rw [Analysis.hardwareEffect, h.valueAt hunder (by decide) hcontext,
    h.valueAt hunder (by decide) hcontext]
  show Except.ok (y (under, .h1, context) - y (under, .h0, context)) = _
  rw [acrossPackages_eq]
  congr 1
  simp only [packages, mem_cons, not_mem_nil, or_false] at hunder
  rcases hunder with rfl | rfl | rfl | rfl | rfl <;> simp [hardwareWeight, stateWeight] <;> ring

theorem Holds.contextValue (h : Holds values y) (suffix : PackageSuffix)
    (hcontext : context ∈ stageAContexts) :
    contextValue (exactArithmetic inexact) values suffix context.1 context.2.1 context.2.2 =
      .ok (acrossPackages fun package state =>
        suffixWeight suffix package state * y (package, state, context)) := by
  cases suffix with
  | h =>
      have hfive : (exactArithmetic inexact).ofCount 5 = 5 := rfl
      rw [Analysis.contextValue, sumOver_ok (fun under => acrossPackages fun package state =>
        hardwareWeight under package state * y (package, state, context))
          fun under hunder => h.hardwareEffect hunder hcontext]
      show Except.ok (_ / (exactArithmetic inexact).ofCount 5) = _
      rw [hfive]
      congr 1
      simp [packages, acrossPackages_eq, hardwareWeight, suffixWeight, stateWeight]
      ring
  | r1 => exact h.softwareEffect (by decide) hcontext
  | r2 => exact h.softwareEffect (by decide) hcontext
  | l1 => exact h.softwareEffect (by decide) hcontext

/-! ### The contrasts of the contexts -/

theorem Holds.h1Terms (h : Holds values y) (hcontext : context ∈ stageAContexts) :
    h1Terms (exactArithmetic inexact) values context.1 context.2.1 context.2.2 =
      .ok ((List.range 7).map fun index => acrossPackages fun package state =>
        (h1Weights package state).getD index 0 * y (package, state, context)) := by
  rw [Analysis.h1Terms, h.softwareEffect (by decide) hcontext,
    h.softwareEffect (by decide) hcontext, h.softwareEffect (by decide) hcontext,
    h.hardwareEffect (by decide) hcontext, h.hardwareEffect (by decide) hcontext,
    h.hardwareEffect (by decide) hcontext, h.hardwareEffect (by decide) hcontext,
    h.hardwareEffect (by decide) hcontext]
  have hindices : List.range 7 = [0, 1, 2, 3, 4, 5, 6] := rfl
  simp only [hindices, map_cons, map_nil, h1Weights, getD_cons_zero,
    getD_cons_succ, sub_mul, acrossPackages_sub]
  rfl

/-- The loop over the contexts adds up each of the columns. -/
theorem foldlM_columns {contexts : List Context} {terms : Context → Outcome (List ℚ)}
    (column : Context → Nat → ℚ)
    (h : ∀ context ∈ contexts, terms context = .ok ((List.range 7).map (column context))) :
    contexts.foldlM (fun result context => do
        let values ← terms context
        .ok (List.zipWith (exactArithmetic inexact).add result values))
          (List.replicate 7 (exactArithmetic inexact).zero) =
      (.ok ((List.range 7).map fun index =>
        (contexts.map fun context => column context index).sum) : Outcome (List ℚ)) := by
  have hfold : ∀ start : Nat → ℚ, contexts.foldlM (fun result context => do
      let values ← terms context
      .ok (List.zipWith (exactArithmetic inexact).add result values)) ((List.range 7).map start) =
        (.ok ((List.range 7).map fun index =>
          start index + (contexts.map fun context => column context index).sum) :
            Outcome (List ℚ)) := by
    induction contexts with
    | nil => intro start; simp [pure, Except.pure]
    | cons context rest ih =>
        intro start
        obtain ⟨hcontext, hrest⟩ := List.forall_mem_cons.mp h
        rw [foldlM_cons, hcontext]
        show rest.foldlM _ (List.zipWith (· + ·) ((List.range 7).map start)
          ((List.range 7).map (column context))) = _
        rw [zipWith_map, zipWith_self, ih hrest]
        simp only [map_cons, sum_cons, add_assoc]
  have hstart : List.replicate 7 (exactArithmetic inexact).zero =
      (List.range 7).map fun _ => (0 : ℚ) :=
    rfl
  rw [hstart, hfold]
  simp only [zero_add]

/-- The seven contrasts of H1. -/
theorem h1BlockContrasts_ok {block : CompleteBlockResponse ℚ}
    (hmap : cellMap (exactArithmetic inexact) block = .ok values) (h : Holds values y) :
    h1BlockContrasts (exactArithmetic inexact) block =
      .ok ((List.range 7).map fun index => weighted (h1Weight index) y) := by
  have heighteen : (exactArithmetic inexact).ofCount 18 = 18 := rfl
  rw [h1BlockContrasts, hmap]
  show ((stageAContexts.foldlM _ _ : Outcome (List ℚ)) >>= _) = _
  rw [foldlM_columns _ fun context hcontext => h.h1Terms hcontext]
  show Except.ok (((List.range 7).map _).map fun value =>
    value / (exactArithmetic inexact).ofCount 18) = _
  rw [heighteen, map_map]
  congr 1
  refine map_congr_left fun index _ => ?_
  have hproduct := weighted_product (fun _ => 1 / 18)
    (fun package state => (h1Weights package state).getD index 0) y
  rw [sum_map_mul_left] at hproduct
  show _ = weighted (fun key => 1 / 18 * (h1Weights key.1 key.2.1).getD index 0) y
  rw [hproduct, Function.comp_apply]
  ring

/-! ### The contrasts of the operations -/

theorem pairs_registered (operation : H2Operation) :
    ∀ pair ∈ operation.pairs, pair.1 ∈ stageAContexts ∧ pair.2 ∈ stageAContexts := by
  cases operation <;> decide

/-- The value at a context, picked out of a sum over all. -/
theorem sum_atContext (value : Context → ℚ) (hcontext : context ∈ stageAContexts) :
    (stageAContexts.map fun other => atContext context other * value other).sum =
      value context := by
  have hpick : ∀ contexts : List Context, contexts.Nodup →
      (contexts.map fun other => atContext context other * value other).sum =
        if context ∈ contexts then value context else 0 := by
    intro contexts
    induction contexts with
    | nil => simp
    | cons other rest ih =>
        intro hnodup
        obtain ⟨hnew, hrest⟩ := List.nodup_cons.mp hnodup
        rw [map_cons, sum_cons, ih hrest]
        by_cases hother : context = other
        · subst hother
          simp [atContext, hnew]
        · simp [atContext, hother]
  rw [hpick _ (by decide), if_pos hcontext]

/-- Differences of values over pairs of contexts, as one sum over the contexts. -/
theorem sum_pairs {pairs : List (Context × Context)} (value : Context → ℚ)
    (h : ∀ pair ∈ pairs, pair.1 ∈ stageAContexts ∧ pair.2 ∈ stageAContexts) :
    (stageAContexts.map fun context =>
        (pairs.map fun pair => atContext pair.1 context - atContext pair.2 context).sum *
          value context).sum =
      (pairs.map fun pair => value pair.1 - value pair.2).sum := by
  induction pairs with
  | nil => simp
  | cons pair rest ih =>
      obtain ⟨hpair, hrest⟩ := List.forall_mem_cons.mp h
      simp only [map_cons, sum_cons, add_mul, List.sum_map_add]
      rw [ih hrest]
      simp only [sub_mul, sum_map_sub, sum_atContext value hpair.1, sum_atContext value hpair.2]

theorem Holds.h2Operator (h : Holds values y) (operation : H2Operation) (suffix : PackageSuffix) :
    h2Operator (exactArithmetic inexact) values operation suffix =
      .ok (weighted (h2Weight (operation, suffix)) y) := by
  have hcount : (exactArithmetic inexact).ofCount (.ofNat operation.pairs.length) =
      operation.pairs.length := by
    cases operation <;> rfl
  rw [Analysis.h2Operator, sumOver_ok (fun pair =>
    (acrossPackages fun package state => suffixWeight suffix package state *
      y (package, state, pair.1)) - acrossPackages fun package state =>
        suffixWeight suffix package state * y (package, state, pair.2))]
  · show Except.ok (_ / (exactArithmetic inexact).ofCount (.ofNat operation.pairs.length)) = _
    have hproduct := weighted_product (operationWeight operation) (suffixWeight suffix) y
    rw [show weighted (h2Weight (operation, suffix)) y = _ from hproduct, hcount,
      ← sum_pairs (fun context => acrossPackages fun package state =>
      suffixWeight suffix package state * y (package, state, context)) (pairs_registered operation)]
    simp only [operationWeight, div_eq_inv_mul, mul_assoc, sum_map_mul_left]
  · intro pair hpair
    obtain ⟨hleft, hright⟩ := pairs_registered operation pair hpair
    show (Analysis.contextValue _ _ _ pair.1.1 pair.1.2.1 pair.1.2.2 >>= _) = _
    rw [h.contextValue suffix hleft]
    show (Analysis.contextValue _ _ _ pair.2.1 pair.2.2.1 pair.2.2.2 >>= _) = _
    rw [h.contextValue suffix hright]
    rfl

/-- The twenty contrasts of H2. -/
theorem h2BlockContrasts_ok {block : CompleteBlockResponse ℚ}
    (hmap : cellMap (exactArithmetic inexact) block = .ok values) (h : Holds values y) :
    h2BlockContrasts (exactArithmetic inexact) block =
      .ok (h2ContrastKeys.map fun contrast => weighted (h2Weight contrast) y) := by
  rw [h2BlockContrasts, hmap, h2ContrastKeys]
  show List.mapM _ _ = _
  generalize (h2Operations.flatMap fun operation =>
    packageSuffixes.map fun suffix => (operation, suffix)) = contrasts
  induction contrasts with
  | nil => rfl
  | cons contrast rest ih =>
      obtain ⟨operation, suffix⟩ := contrast
      rw [mapM_cons, ih]
      show (h2Operator _ values operation suffix >>= _) = _
      rw [h.h2Operator]
      rfl

end Effects

end CpuPrefetch.Analysis
