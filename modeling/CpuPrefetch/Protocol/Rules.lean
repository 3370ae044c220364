/-
The record-local rules of `Stage4SemanticValidator`, for every kind of record.

A rule that fails is reported and the next one is tried; only a manifest's rules on
completed counts stop where the counts they need are missing.
-/
import CpuPrefetch.Protocol.Records

namespace CpuPrefetch.Protocol

open Json (Number)

/-! ### Manifests -/

/-- The bits of 200000.0. -/
def tailThresholdBits : UInt64 := 0x41086a0000000000

/-- The bits of positive infinity; those of every greater positive number are not a number's. -/
def infinityBits : UInt64 := 0x7ff0000000000000

/-- `at_least_200000`; nonnegative numbers are ordered as their bits. -/
def atLeast200000 : Number → Bool
  | .signedInteger _ value => value ≥ 200000
  | .unsignedInteger _ value => value ≥ 200000
  | .binary64 _ bits => tailThresholdBits ≤ bits && bits ≤ infinityBits

def isFailureLifecycle (state : LifecycleState) : Bool :=
  state = .preRunFailure || state = .warmupFailure || state = .resetFailure ||
    state = .measurementFailure || state = .drainFailure

def isEarlyFailure (state : LifecycleState) : Bool :=
  state = .preRunFailure || state = .warmupFailure || state = .resetFailure

variable (manifest : RunManifest)

def hasRelationship (relationship : ArtifactRelationship) : Bool :=
  manifest.artifactRefs.any fun artifact => artifact.relationship = relationship

/-- `std::ranges::is_sorted`, by the declared order. -/
def ConfirmatoryBlocker.isSorted : List ConfirmatoryBlocker → Bool
  | first :: second :: rest => first.ctorIdx ≤ second.ctorIdx && isSorted (second :: rest)
  | _ => true

/-- `std::ranges::adjacent_find`: two neighbours are equal. -/
def ConfirmatoryBlocker.adjacentFind : List ConfirmatoryBlocker → Bool
  | first :: second :: rest => first = second || adjacentFind (second :: rest)
  | _ => false

/-- Some gate of the manifest has no verdict yet. -/
def evidencePending : Bool :=
  manifest.validity = .notEvaluated || manifest.zeroLossStatus = .notEvaluated ||
    manifest.effectiveTailStatus = .notEvaluated || manifest.blockCompleteness = .notEvaluated

/-- The blockers the manifest's own gates imply are not those it lists. -/
def localMismatch : Bool :=
  let contains (blocker : ConfirmatoryBlocker) : Bool := blocker ∈ manifest.confirmatoryBlockers
  contains .blockedZeroLoss ≠ (manifest.zeroLossStatus = .fail) ||
    contains .blockedEffectiveTail ≠ (manifest.effectiveTailStatus = .fail) ||
    contains .blockedInvalidRun ≠ (manifest.validity = .invalid) ||
    contains .blockedIncompleteBlock ≠ (manifest.blockCompleteness = .incomplete)

/-- The summary of one blocker. -/
def ConfirmatoryBlocker.summary : ConfirmatoryBlocker → ConfirmatoryEstimability
  | .blockedAccessLeakage => .blockedAccessLeakage
  | .blockedEffectiveTail => .blockedEffectiveTail
  | .blockedIncompleteBlock => .blockedIncompleteBlock
  | .blockedInvalidRun => .blockedInvalidRun
  | .blockedZeroLoss => .blockedZeroLoss

/-- The summary of an exhaustive list of blockers. -/
def summaryFor : List ConfirmatoryBlocker → ConfirmatoryEstimability
  | [] => .estimable
  | [blocker] => blocker.summary
  | _ => .blockedMultiple

def expectedSummary : ConfirmatoryEstimability :=
  if evidencePending manifest then .notEvaluated else summaryFor manifest.confirmatoryBlockers

/-- The four rules on estimability and its blockers. -/
def blockerErrors : List ValidationError :=
  require (ConfirmatoryBlocker.isSorted manifest.confirmatoryBlockers &&
      !ConfirmatoryBlocker.adjacentFind manifest.confirmatoryBlockers)
    ⟨.duplicateValue, "$out/confirmatory_blockers", "LIF-BLOCKER-CANONICAL-ORDER",
      "confirmatory blockers must be unique and in ascending UTF-8 token order"⟩ ++
  require (!(evidencePending manifest && (manifest.confirmatoryEstimability ≠ .notEvaluated ||
      !manifest.confirmatoryBlockers.isEmpty)))
    ⟨.crossField, "$out/confirmatory_estimability", "LIF-BLOCKER-EVIDENCE-COMPLETE",
      "final estimability and blocker values require authoritative evidence for every " ++
        "applicable gate"⟩ ++
  require (evidencePending manifest || !localMismatch manifest)
    ⟨.crossField, "$out/confirmatory_blockers", "LIF-BLOCKER-EXHAUSTIVE-LOCAL",
      "the blocker array must exactly reflect every locally represented failed gate"⟩ ++
  require (manifest.confirmatoryEstimability = expectedSummary manifest)
    ⟨.crossField, "$out/confirmatory_estimability", "LIF-BLOCKER-SUMMARY",
      "estimability summary does not match the exhaustive blocker array"⟩

/-- The factors of a Stage A run are not all at a registered level. -/
def unregisteredFactors : Bool :=
  manifest.runMode ≠ .latency || manifest.blockRole = .notApplicable ||
    manifest.package = .nblfqMpsc || manifest.package = .notApplicable ||
    manifest.requestedHardwareState = .notApplicable || manifest.placement = .notApplicable ||
    manifest.placement = .stageCOther || manifest.workingSetClass = .notApplicable ||
    manifest.loadLevel = .notApplicable || manifest.loadLevel = .calibrationReady ||
    manifest.loadLevel = .stageCOther

/-- An early failure that claims what only a measurement has. -/
def fabricated : Bool :=
  manifest.counts.isSome || manifest.integrityEvidence.isSome ||
    hasRelationship manifest .producerRaw || hasRelationship manifest .consumerRaw ||
    hasRelationship manifest .joinAudit || hasRelationship manifest .joinedDerived ||
    hasRelationship manifest .phaseIntegrityReport

/-- The rules a manifest must satisfy whatever its run came to. -/
def runErrors : List ValidationError :=
  require (!(manifest.stage = .stageA && unregisteredFactors manifest))
    ⟨.crossField, "$out", "LIF-STAGE-A-FACTORS",
      "Stage A manifest factors must use the exact registered Stage A levels"⟩ ++
  require (!(isFailureLifecycle manifest.lifecycleState &&
      (manifest.validity ≠ .invalid || manifest.failureRecordIds.isEmpty)))
    ⟨.missingEvidence, "$out/failure_record_ids", "LIF-FAILURE-EVIDENCE",
      "failure lifecycle requires INVALID and a failure record"⟩ ++
  require (!(manifest.validity = .invalid && manifest.failureRecordIds.isEmpty))
    ⟨.missingEvidence, "$out/failure_record_ids", "LIF-INVALID-EVIDENCE",
      "invalid run requires a failure record"⟩ ++
  require (!(isEarlyFailure manifest.lifecycleState && fabricated manifest))
    ⟨.crossField, "$out/artifact_refs", "LIF-NO-FABRICATION",
      "early failure must not fabricate measurement, join, or integrity artifacts"⟩ ++
  require (!(manifest.joinStatus = .failed &&
      (manifest.validity ≠ .invalid || manifest.failureRecordIds.isEmpty ||
        !hasRelationship manifest .joinAudit || hasRelationship manifest .joinedDerived)))
    ⟨.crossField, "$out/join_status", "DAT-FAILED-JOIN",
      "failed join requires invalidity, failure evidence, a join audit, and no joined data"⟩

/-- Every registered count is there. -/
structure CompleteCounts where
  offered : UInt64
  attempted : UInt64
  accepted : UInt64
  full : UInt64
  consumed : UInt64
  finalOccupancy : UInt64
  rawSampleCount : UInt64
  nEffP999 : Number

def RunCounts.complete (counts : RunCounts) : Option CompleteCounts := do
  some ⟨← counts.offered, ← counts.attempted, ← counts.accepted, ← counts.full,
    ← counts.consumed, ← counts.finalOccupancy, ← counts.rawSampleCount, ← counts.nEffP999⟩

def CompleteCounts.identities (counts : CompleteCounts) : Bool :=
  counts.offered = counts.attempted &&
    checkedAdd counts.accepted counts.full = some counts.attempted &&
    counts.consumed = counts.accepted && counts.finalOccupancy = 0 &&
    counts.rawSampleCount = counts.accepted

/-- A manifest of the first version claims more, or another reason, than its gates allow. -/
def inapplicableEstimability (expectedZero expectedTail : GateStatus) : Bool :=
  (manifest.confirmatoryEstimability = .estimable &&
    (expectedZero = .fail || expectedTail = .fail || manifest.blockCompleteness = .incomplete)) ||
  (manifest.confirmatoryEstimability = .blockedZeroLoss && expectedZero ≠ .fail) ||
  (manifest.confirmatoryEstimability = .blockedEffectiveTail && expectedTail ≠ .fail) ||
  (manifest.confirmatoryEstimability = .blockedInvalidRun && manifest.validity ≠ .invalid) ||
  (manifest.confirmatoryEstimability = .blockedIncompleteBlock &&
    manifest.blockCompleteness ≠ .incomplete)

/-- The rules on the counts of a valid completed Stage A run. -/
def completedCountErrors (counts : CompleteCounts) : List ValidationError :=
  let expectedZero : GateStatus := if counts.full = 0 then .pass else .fail
  let expectedTail : GateStatus := if atLeast200000 counts.nEffP999 then .pass else .fail
  require counts.identities
    ⟨.crossField, "$out/counts", "DAT-COUNT-IDENTITIES",
      "completed count identities or zero final occupancy do not reconcile"⟩ ++
  require (manifest.zeroLossStatus = expectedZero)
    ⟨.crossField, "$out/zero_loss_status", "LIF-ZERO-LOSS",
      "zero-loss status must be independent and derived from the FULL count"⟩ ++
  require (manifest.effectiveTailStatus = expectedTail)
    ⟨.crossField, "$out/effective_tail_status", "LIF-EFFECTIVE-TAIL",
      "effective-tail status must use the fixed N_eff=200000 threshold"⟩ ++
  require (!(manifest.protocolVersion = .v200pre1 &&
      inapplicableEstimability manifest expectedZero expectedTail))
    ⟨.crossField, "$out/confirmatory_estimability", "LIF-ESTIMABILITY-APPLICABILITY",
      "estimability must remain blocked when a local gate fails and any selected blocking " ++
        "reason must apply; Stage 4 does not invent precedence among simultaneous blockers"⟩

def requiredRelationships : List ArtifactRelationship :=
  [.producerRaw, .consumerRaw, .joinAudit, .joinedDerived, .phaseIntegrityReport, .provenance]

/-- A Stage A run that completed and is valid. -/
def completedStageA : Bool :=
  manifest.stage = .stageA && manifest.lifecycleState = .completed && manifest.validity = .valid

def completedErrors : List ValidationError :=
  require (!(manifest.counts.isNone || manifest.integrityEvidence.isNone ||
      manifest.joinStatus ≠ .passed || manifest.countReconciliation ≠ .pass))
    ⟨.missingEvidence, "$out", "LIF-COMPLETED-EVIDENCE",
      "valid completed Stage A run requires counts, integrity, passed join and reconciliation"⟩ ++
  requiredRelationships.flatMap (fun relationship =>
    require (hasRelationship manifest relationship)
      ⟨.missingEvidence, "$out/artifact_refs", "LIF-COMPLETED-ARTIFACTS",
        "valid completed Stage A run is missing a required artifact relationship"⟩) ++
  match manifest.counts with
  | none => []
  | some counts =>
      match counts.complete with
      | none =>
          [⟨.missingField, "$out/counts", "LIF-COMPLETE-COUNTS",
            "valid completed Stage A run requires every registered count"⟩]
      | some complete => completedCountErrors manifest complete

def validateManifest : List ValidationError :=
  (if manifest.protocolVersion = .v200pre2 then blockerErrors manifest else []) ++
    runErrors manifest ++
    (if completedStageA manifest then completedErrors manifest else [])

/-! ### Blocks -/

/-- The levels of a cell's five factors. -/
instance lawfulBEqKey : LawfulBEq (QueuePackage × RequestedHardwareState × Placement ×
    WorkingSetClass × LoadLevel) := inferInstance

def StageACell.key (cell : StageACell) :
    QueuePackage × RequestedHardwareState × Placement × WorkingSetClass × LoadLevel :=
  (cell.package, cell.requestedHardwareState, cell.placement, cell.workingSetClass, cell.loadLevel)

/-- The two whole plots are H0 and H1. -/
def exactWholePlots : RequestedHardwareState × RequestedHardwareState → Bool
  | (first, second) =>
      first ≠ second && (first = .h0 || second = .h0) && (first = .h1 || second = .h1)

def nodeSeedErrors (index : Nat) (cell : StageACell) : List ValidationError :=
  require ((cell.package = .l0 || cell.package = .l1 : Bool) = cell.nodeSeedRef.isSome)
    ⟨.crossField, "$out/cells/" ++ toString index ++ "/node_seed_ref", "BLK-NODE-SEED",
      "node seed is required only for linked packages"⟩

/-- The ordinals are 0 to 179, each there. -/
def ordinalsComplete (ordinals : List UInt64) : Bool :=
  ordinals.dedup.length = 180 && (List.range 180).all fun ordinal => .ofNat ordinal ∈ ordinals

def replacementErrors (block : BlockPlan) : List ValidationError :=
  require (block.replacesBlockId.isSome = block.replacementAuthorizationId.isSome &&
      block.replacesBlockId.isSome = block.replacementLineage.isSome)
    ⟨.crossField, "$out/replaces_block_id", "BLK-REPLACEMENT-SHAPE",
      "replacement fields must be all absent or all present"⟩ ++
  match block.replacementLineage, block.replacesBlockId with
  | some lineage, some replaced =>
      require (!(block.blockId = replaced || block.blockOrdinal = lineage.replacedBlockOrdinal ||
          block.seedSubspaceId = lineage.replacedSeedSubspaceId ||
          block.blockRole ≠ lineage.replacedBlockRole))
        ⟨.crossField, "$out/replacement_lineage", "BLK-REPLACEMENT-LINEAGE",
          "replacement requires new ID/ordinal/subspace and the same immutable role"⟩
  | _, _ => []

def validateBlock (block : BlockPlan) : List ValidationError :=
  require (exactWholePlots block.wholePlotOrder)
    ⟨.duplicateValue, "$out/whole_plot_order", "BLK-WHOLE-PLOTS",
      "whole plots must contain H0 and H1 exactly once"⟩ ++
  require (block.cells.length = 180)
    ⟨.outOfRange, "$out/cells", "BLK-180-CELLS", "Stage A block requires exactly 180 cells"⟩ ++
  (block.cells.zipIdx.flatMap fun (cell, index) => nodeSeedErrors index cell) ++
  require ((block.cells.map StageACell.key).dedup.length = 180)
    ⟨.duplicateValue, "$out/cells", "BLK-FACTORIAL-PRODUCT",
      "cells must contain every registered Stage A Cartesian-product tuple exactly once"⟩ ++
  require (ordinalsComplete (block.cells.map StageACell.cellOrdinal))
    ⟨.crossField, "$out/cells", "BLK-CELL-ORDINALS",
      "cell ordinals must be exactly 0 through 179"⟩ ++
  replacementErrors block

/-! ### Failures -/

def validateFailure (failure : FailureRecord) : List ValidationError :=
  require (!(failure.scope = .run && (failure.runId.isNone || failure.blockId.isNone)))
    ⟨.missingField, "$out/run_id", "FAIL-RUN-IDENTITY",
      "run-scoped failure requires run_id and block_id"⟩ ++
  require (!(failure.invalidatesRun && failure.stage = .stageA &&
      failure.blockConsequence ≠ .originalBlockIncomplete &&
      failure.blockConsequence ≠ .studyUnresolved))
    ⟨.crossField, "$out/block_consequence", "FAIL-STAGE-A-CONSEQUENCE",
      "invalid Stage A run makes its original block incomplete or study unresolved"⟩ ++
  require (!(failure.resolutionStatus = .replacementAuthorized &&
      (failure.replacementAuthorizationId.isNone || failure.replacementBlockId.isNone)))
    ⟨.missingEvidence, "$out/replacement_authorization_id", "FAIL-REPLACEMENT-EVIDENCE",
      "authorized replacement requires authorization and replacement block IDs"⟩

/-! ### Freezes -/

def requireBlocks (record : FreezeRecord) : List ValidationError :=
  require (!record.affectedBlockIds.isEmpty)
    ⟨.missingEvidence, "$out/affected_block_ids", "ACC-AFFECTED-BLOCKS",
      "this record kind requires a nonempty affected block list"⟩

def validateFreeze (record : FreezeRecord) : List ValidationError :=
  match record.recordKind with
  | .selectionFreeze =>
      requireBlocks record ++
      require (record.status = .frozen && record.authorizationStatus = .authorized &&
          record.authority.role = .freezeAuthority && record.accessStateBefore = .trainingOpen &&
          record.accessStateAfter = .selectionFrozen && record.outcomeAccessProhibited &&
          record.h3Selections.length = 6 && !record.trainingInputArtifacts.isEmpty &&
          record.selectionRuleVersion.isSome && record.selectionRecordChecksumSha256.isSome)
        ⟨.missingEvidence, "$out", "ACC-SELECTION-FREEZE",
          "selection freeze lacks exact contexts, evidence, authority, or state transition"⟩
  | .validationUnseal =>
      requireBlocks record ++
      require (record.status = .authorized && record.authorizationStatus = .authorized &&
          record.authority.role = .validationCustodian &&
          record.accessStateBefore = .selectionFrozen &&
          record.accessStateAfter = .validationUnsealed && !record.outcomeAccessProhibited &&
          record.selectionRecordRef.isSome && record.validationNamespaceId.isSome &&
          record.validationArtifactRef.isSome)
        ⟨.missingEvidence, "$out", "ACC-VALIDATION-UNSEAL",
          "validation unseal requires selection and validation IDs/hashes and exact custody " ++
            "transition"⟩
  | .h3Evaluated =>
      requireBlocks record ++
      require (record.authority.role = .confirmatoryAnalyst &&
          record.accessStateBefore = .validationUnsealed &&
          record.accessStateAfter = .h3Evaluated && record.selectionRecordRef.isSome &&
          record.validationNamespaceId.isSome && record.validationArtifactRef.isSome &&
          record.validationUnsealRecordRef.isSome && record.h3EvaluationArtifactRef.isSome)
        ⟨.missingEvidence, "$out", "ACC-H3-EVALUATED",
          "H3 evaluation lacks a required predecessor or evaluation artifact hash"⟩
  | .h1h2Released =>
      requireBlocks record ++
      require (record.authority.role = .validationCustodian &&
          record.accessStateBefore = .h3Evaluated && record.accessStateAfter = .h1h2Released &&
          record.h3AccessRecordRef.isSome && record.h3EvaluationArtifactRef.isSome)
        ⟨.missingEvidence, "$out", "ACC-H1H2-RELEASE",
          "H1/H2 release lacks sealed H3 access/evaluation evidence"⟩
  | .replacementAuthorization =>
      requireBlocks record ++
      require (record.affectedBlockIds.length = 1 && record.replacement.isSome &&
          record.authority.role = .replacementAuthority && record.accessStateBefore = .planned &&
          record.accessStateAfter = .planned && record.outcomeAccessProhibited)
        ⟨.missingEvidence, "$out", "BLK-REPLACEMENT-AUTHORITY",
          "replacement authorization requires one block, budget/failure lineage, and authority"⟩
  | .amendment =>
      require (record.authority.role = .protocolOwner && record.supersedesId.isSome &&
          record.priorProtocolVersion.isSome && record.newProtocolVersion.isSome &&
          record.rationale.isSome && !record.affectedDocuments.isEmpty &&
          !record.affectedSchemaIds.isEmpty && !record.affectedEstimands.isEmpty &&
          record.pilotRecordDisposition.isSome && !record.priorAuthoritativeHashes.isEmpty &&
          record.outcomeAccessProhibited)
        ⟨.missingEvidence, "$out", "GOV-AMENDMENT-SHAPE",
          "amendment lacks owner, lineage, impact, disposition, or prior hash evidence"⟩
  | .protocolFreeze => []

/-! ### Platforms -/

def validatePlatform (platform : PlatformRecord) : List ValidationError :=
  require (!(platform.cpu.cacheLineBytes = 0 || platform.cpu.atomicWidthBits = 0 ||
      platform.cpu.atomicAlignmentBytes = 0 || platform.topology.sockets = 0 ||
      platform.topology.numaNodes = 0 || platform.topology.physicalCores < 2 ||
      platform.memory.basePageBytes = 0))
    ⟨.outOfRange, "$out", "PLATFORM-POSITIVE-QUANTITIES",
      "platform quantities violate imported schema minima"⟩ ++
  (platform.hardwarePrefetchStates.flatMap fun state =>
    require (!(state.requested = .notApplicable || state.verified = .notApplicable))
      ⟨.unknownEnum, "$out/hardware_prefetch_states", "HWP-PLATFORM-STATES",
        "platform hardware state records require H0/H1 and verification"⟩) ++
  require (platform.hardwarePrefetchStates.any (·.requested = .h0) &&
      platform.hardwarePrefetchStates.any (·.requested = .h1))
    ⟨.crossField, "$out/hardware_prefetch_states", "HWP-PLATFORM-STATES",
      "platform record must explicitly include requested H0 and H1"⟩

/-- `Stage4SemanticValidator::validate`. -/
def validateRecord : ProtocolRecord → List ValidationError
  | .platform record => validatePlatform record
  | .schedule record => validateSchedule record.schedule
  | .rawObservation record => validateRaw record.envelope
  | .runManifest record => validateManifest record
  | .blockPlan record => validateBlock record
  | .failureRecord record => validateFailure record
  | .freezeRecord record => validateFreeze record

end CpuPrefetch.Protocol
