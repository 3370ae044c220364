/-
What an admitted input is.

The checks are loops with a memory and lookups by identity.  What each of them says when it
reports nothing is said here once, in a form in which the order of the runs and of the artifacts
has no part.
-/
import CpuPrefetch.Analysis.Pipeline
import CpuPrefetch.Lib.Fallible
import CpuPrefetch.Lib.Keyed

namespace CpuPrefetch.Analysis

open List
open Protocol Orchestration
open Protocol.Json (CharConv)
open Keyed (Fresh fresh_cons fresh_append fresh_iff_nodup)

variable {F : Type} {conv : CharConv} {sha256 : Text → Sha256} {arith : Binary64 F}
  {input : AnalysisInput F}

/-! ### Artifacts -/

def ImmutableArtifact.id (artifact : ImmutableArtifact) : Text := artifact.reference.artifactId.val

variable {index : Nat}

theorem artifactErrors_eq_nil {seen : List Text} {artifacts : List ImmutableArtifact} :
    artifactErrors sha256 index seen artifacts = [] ↔
      (∀ artifact ∈ artifacts, artifact.protocolVersion = .v200pre2 ∧
        verifyArtifact sha256 artifact = true) ∧
      Fresh seen (artifacts.map ImmutableArtifact.id) := by
  induction artifacts generalizing index seen with
  | nil => simp [artifactErrors]
  | cons artifact rest ih =>
      simp only [artifactErrors, append_eq_nil_iff, require_eq_nil, decide_eq_true_eq, ih,
        forall_mem_cons, map_cons, fresh_cons, ImmutableArtifact.id]
      constructor
      · rintro ⟨⟨⟨hversion, hnew⟩, hverified⟩, hrest, hfresh⟩
        exact ⟨⟨⟨hversion, hverified⟩, hrest⟩, hnew, hfresh⟩
      · rintro ⟨⟨⟨hversion, hverified⟩, hrest⟩, hnew, hfresh⟩
        exact ⟨⟨⟨hversion, hnew⟩, hverified⟩, hrest, hfresh⟩

/-! ### Blocks -/

/-- What is checked of a block on its own. -/
structure Vetted (conv : CharConv) (sha256 : Text → Sha256) (namespaces : RoleNamespaceRegistry)
    (artifacts : List ImmutableArtifact) (block : BlockInput) : Prop where
  proved : block.stage14CrossRecordValidationPassed = true
  valid : validateBlockPlan conv sha256 block.plan block.seedCatalog namespaces = []
  planned : resolves sha256 artifacts block.planArtifact = true
  budgeted : block.replaces.isSome = true → block.replacementBudgetValidationPassed = true

theorem blockErrors_eq_nil {namespaces : RoleNamespaceRegistry}
    {artifacts : List ImmutableArtifact} {seen replaced : List BlockId} {blocks : List BlockInput} :
    blockErrors conv sha256 namespaces artifacts index seen replaced blocks = [] ↔
      (∀ block ∈ blocks, Vetted conv sha256 namespaces artifacts block) ∧
      Fresh seen (blocks.map fun block => block.plan.blockId) ∧
      Fresh replaced (blocks.filterMap BlockInput.replaces) := by
  induction blocks generalizing index seen replaced with
  | nil => simp [blockErrors]
  | cons block rest ih =>
      simp only [blockErrors, append_eq_nil_iff, require_eq_nil, decide_eq_true_eq, ih,
        forall_mem_cons, map_cons, fresh_cons, replacementInputErrors]
      cases hreplaces : block.replaces with
      | none =>
          simp only [Option.toList_none, nil_append, filterMap_cons_none hreplaces]
          constructor
          · rintro ⟨⟨⟨⟨⟨hnew, hproved⟩, hvalid⟩, hplanned⟩, -⟩, hrest, hids, hreplaced⟩
            exact ⟨⟨⟨hproved, hvalid, hplanned, by simp [hreplaces]⟩, hrest⟩, ⟨hnew, hids⟩,
              hreplaced⟩
          · rintro ⟨⟨hvetted, hrest⟩, ⟨hnew, hids⟩, hreplaced⟩
            exact ⟨⟨⟨⟨⟨hnew, hvetted.proved⟩, hvetted.valid⟩, hvetted.planned⟩, trivial⟩,
              hrest, hids, hreplaced⟩
      | some original =>
          simp only [Option.toList_some, singleton_append, append_eq_nil_iff,
            require_eq_nil, decide_eq_true_eq, filterMap_cons_some hreplaces, fresh_cons]
          constructor
          · rintro ⟨⟨⟨⟨⟨hnew, hproved⟩, hvalid⟩, hplanned⟩, hbudget, hfirst⟩, hrest, hids,
              hreplaced⟩
            exact ⟨⟨⟨hproved, hvalid, hplanned, fun _ => hbudget⟩, hrest⟩, ⟨hnew, hids⟩, hfirst,
              hreplaced⟩
          · rintro ⟨⟨hvetted, hrest⟩, ⟨hnew, hids⟩, hfirst, hreplaced⟩
            exact ⟨⟨⟨⟨⟨hnew, hvetted.proved⟩, hvetted.valid⟩, hvetted.planned⟩,
              hvetted.budgeted (by simp [hreplaces]), hfirst⟩, hrest, hids, hreplaced⟩

/-- A replacement leads to the original it supersedes. -/
def Lineal (blocks : List BlockInput) (block : BlockInput) : Prop :=
  ∀ original, block.replaces = some original →
    (blockNamed blocks original).any (supersedes block) = true

theorem lineageErrors_eq_nil {blocks : List BlockInput} :
    lineageErrors blocks = [] ↔ ∀ block ∈ blocks, Lineal blocks block := by
  rw [lineageErrors, flatMap_eq_nil_iff]
  refine forall₂_congr fun block _ => ?_
  rw [Lineal]
  cases block.replaces with
  | none => simp
  | some original => simp

/-! ### Runs -/

variable {runs : List SyntheticRunInput}

theorem runIdErrors_eq_nil {seen : List RunId} :
    runIdErrors index seen runs = [] ↔ Fresh seen (runs.map SyntheticRunInput.runId) := by
  induction runs generalizing index seen with
  | nil => simp [runIdErrors]
  | cons run rest ih =>
      rw [runIdErrors, append_eq_nil_iff, require_eq_nil, decide_eq_true_eq, ih, map_cons,
        fresh_cons]

/-- The run is that of the cell its ordinal names in the plan. -/
def OfCell (block : BlockPlan) (run : SyntheticRunInput) : Prop :=
  run.protocolVersion = block.protocolVersion ∧ run.blockRole = block.blockRole ∧
    ∃ cell, block.cells[run.cellOrdinal.toNat]? = some cell ∧
      cell.cellOrdinal = run.cellOrdinal ∧ cell.key = run.key

theorem bindingErrors_eq_nil {block : BlockPlan} {ordinals : List UInt64} :
    bindingErrors block ordinals runs = [] ↔ (∀ run ∈ runs, OfCell block run) ∧
      Fresh ordinals (runs.map SyntheticRunInput.cellOrdinal) := by
  induction runs generalizing ordinals with
  | nil => simp [bindingErrors]
  | cons run rest ih =>
      rw [bindingErrors, forall_mem_cons, map_cons, fresh_cons]
      split
      · rename_i hunbound
        simp only [Bool.or_eq_true, decide_eq_true_eq, ne_eq] at hunbound
        simp only [reduceCtorEq, false_iff]
        rintro ⟨⟨⟨hversion, hrole, -⟩, -⟩, hnew, -⟩
        exact hunbound.elim (·.elim (· hversion) (· hrole)) hnew
      · rename_i hbound
        simp only [Bool.or_eq_true, decide_eq_true_eq, ne_eq, not_or, not_not] at hbound
        obtain ⟨⟨hversion, hrole⟩, hnew⟩ := hbound
        cases hcell : block.cells[run.cellOrdinal.toNat]? with
        | none =>
            simp only [reduceCtorEq, false_iff]
            rintro ⟨⟨⟨-, -, cell, hsome, -⟩, -⟩, -⟩
            rw [hcell] at hsome
            cases hsome
        | some cell =>
            simp only [append_eq_nil_iff, require_eq_nil, Bool.and_eq_true, decide_eq_true_eq, ih,
              OfCell, hcell, Option.some.injEq, exists_eq_left', hversion, hrole, true_and]
            constructor
            · rintro ⟨hfactors, hrest, hfresh⟩
              exact ⟨⟨hfactors, hrest⟩, hnew, hfresh⟩
            · rintro ⟨⟨hfactors, hrest⟩, -, hfresh⟩
              exact ⟨hfactors, hrest, hfresh⟩

/-- A block's runs are all there, one for each of its cells, and the original it replaces has a
run that is invalid. -/
structure CompleteRuns (runs : List SyntheticRunInput) (block : BlockInput) : Prop where
  length : (runsOf runs block.plan.blockId).length = kStageACellsPerBlock
  bound : ∀ run ∈ runsOf runs block.plan.blockId, OfCell block.plan run
  ordinals : ((runsOf runs block.plan.blockId).map SyntheticRunInput.cellOrdinal).Nodup
  invalidated : ∀ original, block.replaces = some original →
    (runsOf runs original).any invalidRun = true

variable {block : BlockInput}

theorem blockRunErrors_eq_nil : blockRunErrors runs block = [] ↔ CompleteRuns runs block := by
  rw [blockRunErrors]
  split
  · rename_i hlength
    simp only [reduceCtorEq, false_iff]
    exact fun h => hlength h.length
  · rename_i hlength
    rw [append_eq_nil_iff, bindingErrors_eq_nil, fresh_iff_nodup]
    constructor
    · rintro ⟨⟨hbound, hordinals⟩, hinvalid⟩
      refine ⟨not_not.mp hlength, hbound, hordinals, ?_⟩
      intro original hreplaces
      simpa [hreplaces] using hinvalid
    · intro h
      refine ⟨⟨h.bound, h.ordinals⟩, ?_⟩
      cases hreplaces : block.replaces with
      | none => rfl
      | some original => exact require_eq_nil.mpr (h.invalidated original hreplaces)

/-! ### The input -/

/-- What an input without errors satisfies. -/
structure Admitted (conv : CharConv) (sha256 : Text → Sha256) (arith : Binary64 F)
    (input : AnalysisInput F) : Prop where
  configured : configurationErrors input.configuration = []
  artifacts : ∀ artifact ∈ input.artifacts, artifact.protocolVersion = .v200pre2 ∧
    verifyArtifact sha256 artifact = true
  artifactIds : (input.artifacts.map ImmutableArtifact.id).Nodup
  bound : configurationBound conv arith input = true
  counted : precisionErrors arith input = []
  sized : sizingErrors sha256 input = []
  design : designErrors arith = []
  vetted : ∀ block ∈ input.blocks, Vetted conv sha256 input.namespaces input.artifacts block
  blockIds : (input.blocks.map fun block => block.plan.blockId).Nodup
  replacedIds : (input.blocks.filterMap BlockInput.replaces).Nodup
  platform : platformErrors input.blocks = []
  lineal : ∀ block ∈ input.blocks, Lineal input.blocks block
  roles : roleCountErrors arith input = []
  granted : grantErrors sha256 input = []
  runIds : (input.runs.map SyntheticRunInput.runId).Nodup
  complete : ∀ block ∈ input.blocks, CompleteRuns input.runs block

theorem inputErrors_eq_nil :
    inputErrors conv sha256 arith input = [] ↔ Admitted conv sha256 arith input := by
  simp only [inputErrors, append_eq_nil_iff, require_eq_nil, artifactErrors_eq_nil,
    blockErrors_eq_nil, lineageErrors_eq_nil, runIdErrors_eq_nil, fresh_iff_nodup,
    flatMap_eq_nil_iff, blockRunErrors_eq_nil]
  constructor
  · rintro ⟨⟨⟨⟨⟨⟨⟨⟨⟨⟨⟨⟨hconfigured, hartifacts, hids⟩, hbound⟩, hcounted⟩, hsized⟩, hdesign⟩,
      hvetted, hblockIds, hreplaced⟩, hplatform⟩, hlineal⟩, hroles⟩, hgranted⟩, hrunIds⟩, hcomplete⟩
    exact ⟨hconfigured, hartifacts, hids, hbound, hcounted, hsized, hdesign, hvetted, hblockIds,
      hreplaced, hplatform, hlineal, hroles, hgranted, hrunIds, hcomplete⟩
  · intro h
    exact ⟨⟨⟨⟨⟨⟨⟨⟨⟨⟨⟨⟨h.configured, h.artifacts, h.artifactIds⟩, h.bound⟩, h.counted⟩, h.sized⟩,
      h.design⟩, h.vetted, h.blockIds, h.replacedIds⟩, h.platform⟩, h.lineal⟩, h.roles⟩, h.granted⟩,
      h.runIds⟩, h.complete⟩

/-- The block a lookup finds is the one with that identity. -/
theorem Admitted.blockNamed (h : Admitted conv sha256 arith input) {id : BlockId} :
    blockNamed input.blocks id = some block ↔ block ∈ input.blocks ∧ block.plan.blockId = id :=
  Keyed.find_eq_some_iff h.blockIds

/-- The original of a replacement is in the input, and inactive; the replacement is active. -/
theorem Admitted.superseded (h : Admitted conv sha256 arith input) {original : BlockId}
    (hblock : block ∈ input.blocks) (hreplaces : block.replaces = some original) :
    ∃ superseded ∈ input.blocks, superseded.plan.blockId = original ∧
      supersedes block superseded = true := by
  obtain ⟨superseded, hnamed, hsupersedes⟩ :=
    (Option.any_eq_true _ _).mp (h.lineal block hblock original hreplaces)
  obtain ⟨hmem, hid⟩ := h.blockNamed.mp hnamed
  exact ⟨superseded, hmem, hid, hsupersedes⟩

/-! ### The analysis -/

/-- What a successful analysis has come through. -/
structure Succeeded (conv : CharConv) (sha256 : Text → Sha256) (arith : Binary64 F)
    (input : AnalysisInput F) (output : AnalysisOutput F) (results : AnalysisResults F) : Prop where
  admitted : Admitted conv sha256 arith input
  summarized : summarizeRuns conv sha256 arith input.artifacts input.runs = .ok output.runSummaries
  complete : incompleteBlock input = false
  inferred : resultsOf conv sha256 arith input
    (primaryBlocks arith output.runSummaries input.runs input.blocks) = .ok results
  state : output.state = results.state
  families : output.h1 = results.h1 ∧ output.h2 = results.h2
  selection : output.selection = results.selection
  evaluation : output.h3 = results.h3
  stages : output.stages = results.stages

theorem Outcome.of_ok {T : Type} {result : Result T} {value : T} :
    Outcome.of result = .ok value ↔ result = .ok value := by
  cases result with
  | ok found => simp [Outcome.of]
  | error errors => simp [Outcome.of]

theorem runSyntheticAnalysis_ok {output : AnalysisOutput F}
    (h : runSyntheticAnalysis conv sha256 arith input = .ok output) :
    ∃ results, Succeeded conv sha256 arith input output results := by
  rw [runSyntheticAnalysis] at h
  split at h
  · cases h
  · rename_i hadmitted
    cases hsummaries : summarizeRuns conv sha256 arith input.artifacts input.runs with
    | error errors => simp [hsummaries] at h
    | ok summaries =>
        simp only [hsummaries, analyzeSummaries] at h
        split at h
        · cases h
        · rename_i hcomplete
          obtain ⟨results, hresults, h⟩ := Fallible.bind_ok h
          obtain ⟨bytes, hbytes, h⟩ := Fallible.bind_ok (Outcome.of_ok.mp h)
          obtain ⟨report, hreport, h⟩ := Fallible.bind_ok h
          cases h
          exact ⟨results, inputErrors_eq_nil.mp (not_not.mp hadmitted), hsummaries,
            Bool.eq_false_iff.mpr hcomplete, hresults, rfl, ⟨rfl, rfl⟩, rfl, rfl, rfl⟩

end CpuPrefetch.Analysis
