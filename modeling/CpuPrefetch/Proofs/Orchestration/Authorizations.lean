/-
What stands behind an accepted replacement.

The decision on a replacement and the validator of what was decided state one policy twice,
over the same four records.  The validator finds the records by their identities and then
leaves out some of what the decision asks of them; the rest follows.
-/
import CpuPrefetch.Proofs.Orchestration.Lineage

namespace CpuPrefetch.Orchestration

open Protocol
open Protocol.Json (CharConv)

/-! ### A run of a valid plan -/

/-- The levels of a run's factors. -/
def runKey (run : RunManifest) : CellKey :=
  (run.package, run.requestedHardwareState, run.placement, run.workingSetClass, run.loadLevel)

theorem sameFactor_iff {run : RunManifest} {cell : StageACell} :
    sameFactor run cell = true ↔ cell.key = runKey run := by
  simp only [sameFactor, Bool.and_eq_true, decide_eq_true_eq, StageACell.key, runKey,
    Prod.mk.injEq]
  constructor
  · rintro ⟨⟨⟨⟨hpackage, hstate⟩, hplacement⟩, hworkingSet⟩, hload⟩
    exact ⟨hpackage.symm, hstate.symm, hplacement.symm, hworkingSet.symm, hload.symm⟩
  · rintro ⟨hpackage, hstate, hplacement, hworkingSet, hload⟩
    exact ⟨⟨⟨⟨hpackage.symm, hstate.symm⟩, hplacement.symm⟩, hworkingSet.symm⟩, hload.symm⟩

/-- The factors of a well-formed Stage A run are a registered combination. -/
theorem runKey_registered {run : RunManifest} (h : validateManifest run = [])
    (hstage : run.stage = .stageA) : runKey run ∈ expectedStageACells := by
  simp only [validateManifest, runErrors, List.append_eq_nil_iff, require_eq_nil, hstage,
    decide_true, Bool.true_and, Bool.not_eq_true', unregisteredFactors, Bool.or_eq_false_iff,
    decide_eq_false_iff_not] at h
  obtain ⟨⟨-, ⟨⟨⟨⟨hfactors, -⟩, -⟩, -⟩, -⟩⟩, -⟩ := h
  obtain ⟨⟨⟨⟨⟨⟨⟨⟨⟨⟨-, -⟩, hmpsc⟩, hpackage⟩, hstate⟩, hplacement⟩, hother⟩, hworkingSet⟩, hload⟩,
    hready⟩, hstageC⟩ := hfactors
  refine mem_expectedStageACells.mpr ⟨run.requestedHardwareState, ?_,
    (run.package, run.placement, run.workingSetClass, run.loadLevel), mem_withinPlotBase.mpr
      ⟨?_, ?_, ?_, ?_⟩, rfl⟩
  · cases hvalue : run.requestedHardwareState <;> simp_all [states]
  · cases hvalue : run.package <;> simp_all [packages]
  · cases hvalue : run.placement <;> simp_all [stageAPlacements]
  · cases hvalue : run.workingSetClass <;> simp_all [stageAWorkingSets]
  · cases hvalue : run.loadLevel <;> simp_all [stageALoads]

/-- Whatever is wrong with the cells, each of their combinations is recorded. -/
theorem auditCells_actual (block : BlockPlan) (seeds : BlockSeedCatalog) :
    (auditCells block seeds).actual = (block.cells.map StageACell.key).reverse := by
  have hcell : ∀ (audit : PlanAudit) (cell : StageACell) (index : Nat),
      (audit.cell seeds cell index).actual = cell.key :: audit.actual := by
    intro audit cell index
    rw [PlanAudit.cell]
    split <;> rfl
  have hfold : ∀ (cells : List (StageACell × Nat)) (audit : PlanAudit),
      (cells.foldl (fun audit cell => audit.cell seeds cell.1 cell.2) audit).actual =
        (cells.map fun cell => cell.1.key).reverse ++ audit.actual := by
    intro cells
    induction cells with
    | nil => simp
    | cons cell rest ih => intro audit; simp [ih, hcell]
  have hkeys : (block.cells.zipIdx.map fun cell => cell.1.key) =
    block.cells.map StageACell.key := by
    conv_rhs => rw [← List.zipIdx_map_fst 0 block.cells, List.map_map]
    rfl
  rw [auditCells, hfold, hkeys, List.append_nil]

/-- A well-formed Stage A run has the factors of a cell of any valid plan. -/
theorem sameFactor_of_valid {conv : CharConv} {sha256 : Text → Sha256}
    {registry : RoleNamespaceRegistry} {block : BlockPlan} {catalog : BlockSeedCatalog}
    {run : RunManifest} (hblock : validateBlockPlan conv sha256 block catalog registry = [])
    (hrun : validateManifest run = []) (hstage : run.stage = .stageA) :
    block.cells.any (sameFactor run) = true := by
  simp only [validateBlockPlan, List.append_eq_nil_iff, factorialErrors, require_eq_nil,
    Bool.and_eq_true, List.all_eq_true, decide_eq_true_eq, auditCells_actual,
    List.mem_reverse] at hblock
  have hkey := hblock.1.1.2.2 _ (runKey_registered hrun hstage)
  obtain ⟨cell, hcell, hsame⟩ := List.mem_map.mp hkey
  exact List.any_eq_true.mpr ⟨cell, hcell, sameFactor_iff.mpr hsame⟩

/-! ### What the validator leaves to the records -/

section Accepted

variable {conv : CharConv} {sha256 : Text → Sha256} {evidence : Stage14Evidence}
  {records : List ProtocolRecord} {blocks : List BlockPlan} {freezes : List FreezeRecord}
  {failures : List FailureRecord} {manifests : List RunManifest}
  {budget : Option ReplacementBudget} {block : BlockPlan} {replaced : BlockId}

/-- The records behind the replacement are such as the decision asks for. -/
structure Resolution.Enforced
    (r : Resolution blocks freezes failures manifests budget block replaced) : Prop where
  kind : r.authorization.recordKind = .replacementAuthorization
  required : invalidRequiredRun r.original r.run r.failure = true

/-- What the validator does not ask of the records behind a replacement. -/
structure Resolution.Unchecked
    (r : Resolution blocks freezes failures manifests budget block replaced) : Prop where
  kind : r.authorization.recordKind = .replacementAuthorization
  stage : r.run.stage = .stageA
  block : r.run.blockId = replaced
  role : r.run.blockRole = r.original.blockRole
  incomplete : r.run.blockCompleteness = .incomplete
  failure : r.failure.failureRecordId ∈ r.run.failureRecordIds
  consequence : r.failure.blockConsequence = .originalBlockIncomplete

theorem Resolution.originalId
    (r : Resolution blocks freezes failures manifests budget block replaced) :
    r.original.blockId = replaced := by
  simpa using List.find?_some r.found

/-- The run is one of the records, is invalid, and is the failure's. -/
theorem Resolution.run_found
    (r : Resolution blocks freezes failures manifests budget block replaced) :
    r.run ∈ manifests ∧ r.failure.runId = some r.run.runId ∧ r.run.validity = .invalid := by
  obtain ⟨runId, hrunId, hfound⟩ := Option.bind_eq_some_iff.mp r.invalid
  have hmatches := List.find?_some hfound
  rw [Bool.and_eq_true, decide_eq_true_eq, decide_eq_true_eq] at hmatches
  exact ⟨List.mem_of_find?_eq_some hfound, by rw [hrunId, hmatches.1], hmatches.2⟩

/-- What is left out is all that can fail. -/
theorem Stage14Accepted.enforced_iff (h : Stage14Accepted conv sha256 evidence records)
    (r : Resolution (blocksOf records) (freezesOf records) (failuresOf records)
      (manifestsOf records) evidence.replacementBudget block replaced) :
    r.Enforced ↔ r.Unchecked := by
  obtain ⟨hrun, hrunId, hinvalid⟩ := r.run_found
  have hresolves := r.resolves
  simp only [resolvesReplacement, Bool.and_eq_true, decide_eq_true_eq] at hresolves
  obtain ⟨⟨⟨⟨hinvalidates, hblock⟩, -⟩, -⟩, -⟩ := hresolves
  constructor
  · rintro ⟨hkind, hrequired⟩
    simp only [invalidRequiredRun, Bool.and_eq_true, decide_eq_true_eq] at hrequired
    obtain ⟨⟨⟨⟨⟨⟨⟨⟨⟨⟨hstage, hid⟩, hrole⟩, -⟩, hincomplete⟩, -⟩, hnamed⟩, -⟩, -⟩, -⟩,
      hconsequence⟩ :=
      hrequired
    exact
      { kind := hkind
        stage := hstage
        block := by rw [hid, r.originalId]
        role := hrole
        incomplete := hincomplete
        failure := hnamed
        consequence := hconsequence }
  · intro hleft
    have hchecks := stage14Accepted_iff.mp h
    obtain ⟨horiginal, -⟩ := h.idIn.mp r.found
    obtain ⟨catalog, -, hvalid⟩ := hchecks.catalogs r.original horiginal
    have hwell : validateManifest r.run = [] := hchecks.wellFormed _ (mem_manifestsOf.mp hrun)
    have hfactors := sameFactor_of_valid hvalid hwell hleft.stage
    refine ⟨hleft.kind, ?_⟩
    simp [invalidRequiredRun, hleft.stage, hleft.block, hleft.role, hleft.incomplete, hleft.failure,
      hleft.consequence, r.originalId, hinvalid, hfactors, hrunId, hblock, hinvalidates]

variable (evidence records) in
/-- Every replacement of the set resolves to records of which this holds. -/
def EveryReplacement (P : ∀ {block : BlockPlan} {replaced : BlockId},
    Resolution (blocksOf records) (freezesOf records) (failuresOf records) (manifestsOf records)
      evidence.replacementBudget block replaced → Prop) : Prop :=
  ∀ block ∈ blocksOf records, ∀ replaced, block.replacesBlockId = some replaced →
    ∃ r : Resolution (blocksOf records) (freezesOf records) (failuresOf records)
      (manifestsOf records) evidence.replacementBudget block replaced, P r

/-- **The validator enforces the decision exactly where the records have what it leaves out.** -/
theorem accepted_replacements_enforced (h : Stage14Accepted conv sha256 evidence records) :
    EveryReplacement evidence records (fun r => r.Enforced) ↔
      EveryReplacement evidence records (fun r => r.Unchecked) := by
  constructor
  · intro henforced block hblock replaced hreplaces
    obtain ⟨r, hr⟩ := henforced block hblock replaced hreplaces
    exact ⟨r, (h.enforced_iff r).mp hr⟩
  · intro hleft block hblock replaced hreplaces
    obtain ⟨r, hr⟩ := hleft block hblock replaced hreplaces
    exact ⟨r, (h.enforced_iff r).mpr hr⟩

end Accepted

theorem accepted_replacements_enforced_chained :
    EveryReplacement chainedStudy.evidence (chainedStudy.records 3 Prod.snd) (fun r => r.Enforced) ↔
      EveryReplacement chainedStudy.evidence (chainedStudy.records 3 Prod.snd)
        (fun r => r.Unchecked) :=
  accepted_replacements_enforced chainedStudy_accepted

/-- The runs behind the replacements are of the block that is left. -/
def misnamedRuns : List ProtocolRecord := chainedStudy.records 3 fun _ => 3

/-- A run of another block is accepted behind a replacement. -/
theorem misnamed_run_accepted :
    Stage14Accepted noNumbers firstBytes chainedStudy.evidence misnamedRuns ∧
      ¬EveryReplacement chainedStudy.evidence misnamedRuns (fun r => r.Enforced) := by
  refine ⟨SampleBlocks.accepted (by decide +kernel) (by decide +kernel) (by decide +kernel), ?_⟩
  intro henforced
  obtain ⟨hblocks, -, -, hmanifests⟩ := chainedStudy.sorted 3 fun _ => 3
  have hmem : samplePlan 2 (some 1) ∈ blocksOf misnamedRuns := by
    rw [misnamedRuns, hblocks]
    exact List.mem_map.mpr ⟨(2, some 1), by decide, rfl⟩
  obtain ⟨r, -, hrequired⟩ := henforced _ hmem (sampleBlockId 1) rfl
  simp only [invalidRequiredRun, Bool.and_eq_true, decide_eq_true_eq] at hrequired
  have hblock : r.run.blockId = r.original.blockId := hrequired.1.1.1.1.1.1.1.1.1.2
  have hruns : ∀ run ∈ manifestsOf misnamedRuns, run.blockId = sampleBlockId 3 := by
    rw [misnamedRuns, hmanifests, List.forall_mem_map]
    exact fun _ _ => rfl
  rw [hruns _ r.run_found.1, r.originalId] at hblock
  exact absurd hblock (by decide)

end CpuPrefetch.Orchestration
