/-
What an analysis is given, and what it returns.

The operations on `double` are parameters, and so is the digest: nothing the analysis
decides about its records rests on how they are computed.
-/
import CpuPrefetch.Orchestration.Access
import CpuPrefetch.Reconciliation.Reconcile

namespace CpuPrefetch.Analysis

open Protocol Orchestration
open Protocol.Load (ArtifactReference)
open Workload (PhiloxKey)

/-- The operations on `double` that the analysis uses, whatever they compute. -/
structure Binary64 (F : Type) where
  ofCount : UInt64 → F
  half : F
  tiny : F
  infinity : F
  add : F → F → F
  sub : F → F → F
  mul : F → F → F
  div : F → F → F
  neg : F → F
  abs : F → F
  sqrt : F → F
  log : F → F
  less : F → F → Bool
  lessEq : F → F → Bool
  equal : F → F → Bool
  isFinite : F → Bool
  bits : F → UInt64

def Binary64.zero {F : Type} (arith : Binary64 F) : F := arith.ofCount 0
def Binary64.one {F : Type} (arith : Binary64 F) : F := arith.ofCount 1

/-- What an analysis ends with instead of a result: its errors, or `std::map::at` throwing. -/
inductive Failure where
  | errors (errors : List ValidationError)
  | outOfRange
  deriving DecidableEq

abbrev Outcome := Except Failure

def Outcome.of {T : Type} : Result T → Outcome T
  | .ok value => .ok value
  | .error errors => .error (.errors errors)

def fail {T : Type} (category : ErrorCategory) (path rule message : String) : Outcome T :=
  .error (.errors [⟨category, path, rule, message⟩])

def kAnalysisProfile : Text := ascii "STAGE-A-OFFLINE-ANALYSIS-SYNTHETIC-v1"
def kRunInputSchema : Text := ascii "STAGE15-SYNTHETIC-RUN-INPUT-v1"
def kReportSchema : Text := ascii "STAGE15-ANALYSIS-REPORT-v1"
def kSelectionSchema : Text := ascii "STAGE15-H3-SELECTION-RECORD-v1"
def kBootstrapProfile : Text := ascii "COMPLETE-BLOCK-PHILOX4X32-10-MAXT-ICDF95-v1"
def kSyntheticLatencyEncoding : Text := ascii "SYNTHETIC-RLE-LATENCY-TICKS-v1"

inductive AnalysisStage where
  | artifactValidation
  | reconciliationVerification
  | intervalDerivation
  | runGates
  | runSummaries
  | completeBlocks
  | h3Training
  | selectionFreeze
  | validationUnseal
  | h3Validation
  | h3Evaluation
  | h1h2Release
  | h1h2Analysis
  | reporting
  deriving DecidableEq, Repr

inductive FamilyKind where
  | h1TwoSided
  | h2TwoSided
  | h3TrainingStandardError
  | h3ValidationOneSided
  deriving DecidableEq, Repr

inductive InferenceState where
  | estimable
  | blocked
  deriving DecidableEq, Repr

inductive PracticalConclusion where
  | practicallyLower
  | practicallyHigher
  | practicallyEquivalent
  | inconclusive
  deriving DecidableEq, Repr

structure ImmutableArtifact where
  protocolVersion : ProtocolVersion
  reference : ArtifactReference
  bytes : Text
  finalized : Bool

structure WeightedLatency where
  latencyTicks : UInt64
  multiplicity : UInt64
  deriving DecidableEq

structure RawReconciliationInput where
  producerRows : List ProducerRecord
  consumerRows : List ConsumerRecord
  expectedRecordIndices : List UInt64

structure SyntheticDiagnosticSeries where
  producerLateness : List WeightedLatency
  enqueueService : List WeightedLatency
  admissionDelay : List WeightedLatency
  queueResidence : List WeightedLatency
  dequeueService : List WeightedLatency
  postDequeueDelivery : List WeightedLatency
  consumerAction : List WeightedLatency

structure SyntheticRunInput where
  protocolVersion : ProtocolVersion
  schemaVersion : Text
  runId : RunId
  blockId : BlockId
  blockRole : BlockRole
  cellOrdinal : UInt64
  package : QueuePackage
  hardwareState : RequestedHardwareState
  placement : Placement
  workingSet : WorkingSetClass
  load : LoadLevel
  validity : RunValidity
  offeredCount : UInt64
  attemptedCount : UInt64
  acceptedCount : UInt64
  fullCount : UInt64
  consumedCount : UInt64
  finalOccupancy : UInt64
  rawSampleCount : UInt64
  nEffP999 : UInt64
  measurementHorizonTicks : UInt64
  endToEndLatencies : List WeightedLatency
  diagnostics : SyntheticDiagnosticSeries
  manifestArtifact : ArtifactReference
  joinedArtifact : ArtifactReference
  joinAuditArtifact : ArtifactReference
  failureArtifact : Option ArtifactReference
  rawReconciliation : Option RawReconciliationInput
  priorStage12ValidationPassed : Bool

/-- The levels of a run's factors. -/
def SyntheticRunInput.key (run : SyntheticRunInput) : CellKey :=
  (run.package, run.hardwareState, run.placement, run.workingSet, run.load)

structure BlockInput where
  plan : BlockPlan
  seedCatalog : BlockSeedCatalog
  planArtifact : ArtifactReference
  activePrimary : Bool
  stage14CrossRecordValidationPassed : Bool
  replacementBudgetValidationPassed : Bool

structure ProspectiveCandidate (F : Type) where
  completeBlockCount : UInt64
  widths : List F

structure ProspectiveFamilyInput (F : Type) where
  family : FamilyKind
  sizingArtifact : ArtifactReference
  candidates : List (ProspectiveCandidate F)

structure ProspectivePrecisionInput (F : Type) where
  h1 : ProspectiveFamilyInput F
  h2 : ProspectiveFamilyInput F
  h3Training : ProspectiveFamilyInput F
  h3Validation : ProspectiveFamilyInput F

def ProspectivePrecisionInput.families {F : Type} (input : ProspectivePrecisionInput F) :
    List (ProspectiveFamilyInput F) :=
  [input.h1, input.h2, input.h3Training, input.h3Validation]

structure BootstrapConfiguration where
  profile : Text
  rngAlgorithmVersion : Text
  seedId : SeedId
  key : PhiloxKey
  replicates : UInt64

structure SoftwareVersions where
  implementationRevision : Text
  compiler : Text
  standardLibrary : Text

structure AnalysisConfiguration (F : Type) where
  protocolVersion : ProtocolVersion
  analysisProfile : Text
  deltaStar : F
  bootstrap : BootstrapConfiguration
  precision : ProspectivePrecisionInput F
  expectedCounts : ProspectiveCounts
  configurationArtifact : ArtifactReference
  software : SoftwareVersions

/-! ### Access to outcomes -/

def requiredAccessState : OutcomeDomain → AccessState
  | .h3Training => .trainingOpen
  | .h3Validation => .validationUnsealed
  | .h1h2 => .h1h2Released

def requiredRole : OutcomeDomain → BlockRole → Bool
  | .h3Training, role => role = .h3Train
  | .h3Validation, role => role = .h3Validation
  | .h1h2, role => role ≠ .notApplicable

/-- A grant is only made of a ledger that has reached the state its domain requires. -/
structure OutcomeAccessGrant where
  domain : OutcomeDomain
  state : AccessState
  affectedBlockIds : List BlockId
  accessRecord : ArtifactReference
  granted : reached (requiredAccessState domain) state = true
  distinct : affectedBlockIds.Nodup
  nonempty : affectedBlockIds ≠ []

/-- `OutcomeAccessGrant::from_stage14`. -/
def OutcomeAccessGrant.fromStage14 (ledger : AccessLedgerResult) (domain : OutcomeDomain)
    (affectedBlocks : List BlockPlan) (accessRecord : ArtifactReference) :
    Result OutcomeAccessGrant :=
  if hstate : ledger.errors = [] ∧ reached (requiredAccessState domain) ledger.finalState = true ∧
      affectedBlocks ≠ [] then
    if hblocks : (affectedBlocks.all fun block => requiredRole domain block.blockRole) = true ∧
        (affectedBlocks.map BlockPlan.blockId).Nodup then
      .ok
        { domain := domain
          state := ledger.finalState
          affectedBlockIds := affectedBlocks.map BlockPlan.blockId
          accessRecord := accessRecord
          granted := hstate.2.1
          distinct := hblocks.2
          nonempty := by simpa using hstate.2.2 }
    else
      Load.fail .crossField "$/access/affected_blocks" "ANALYSIS-STAGE14-GRANT-BLOCKS"
        "grant blocks must be unique and role-compatible with the outcome domain"
  else
    Load.fail .missingEvidence "$/access" "ANALYSIS-STAGE14-GRANT"
      "a passing Stage 14 ledger at the required state and affected blocks are required"

structure AnalysisInput (F : Type) where
  namespaces : RoleNamespaceRegistry
  blocks : List BlockInput
  runs : List SyntheticRunInput
  artifacts : List ImmutableArtifact
  configuration : AnalysisConfiguration F
  trainingAccess : OutcomeAccessGrant
  validationAccess : OutcomeAccessGrant
  h1h2Access : OutcomeAccessGrant

/-! ### What comes out -/

structure RunQuantiles where
  p50 : UInt64
  p90 : UInt64
  p99 : UInt64
  p999 : UInt64
  p9999 : Option UInt64
  maximum : UInt64
  deriving DecidableEq

structure ExactRatio where
  numerator : UInt64
  denominator : UInt64
  deriving DecidableEq

structure RunSummary (F : Type) where
  runId : RunId
  blockId : BlockId
  blockRole : BlockRole
  package : QueuePackage
  hardwareState : RequestedHardwareState
  placement : Placement
  workingSet : WorkingSetClass
  load : LoadLevel
  validity : RunValidity
  zeroLoss : GateStatus
  effectiveTail : GateStatus
  estimability : ConfirmatoryEstimability
  blockers : List ConfirmatoryBlocker
  quantiles : RunQuantiles
  producerLatenessQuantiles : RunQuantiles
  enqueueServiceQuantiles : RunQuantiles
  admissionDelayQuantiles : RunQuantiles
  queueResidenceQuantiles : RunQuantiles
  dequeueServiceQuantiles : RunQuantiles
  postDequeueDeliveryQuantiles : RunQuantiles
  consumerActionQuantiles : RunQuantiles
  consumedThroughput : ExactRate
  fullRate : ExactRatio
  finalOccupancy : UInt64
  logP999 : F

structure CellResponse (F : Type) where
  package : QueuePackage
  hardwareState : RequestedHardwareState
  placement : Placement
  workingSet : WorkingSetClass
  load : LoadLevel
  logP999 : F

def CellResponse.key {F : Type} (cell : CellResponse F) : CellKey :=
  (cell.package, cell.hardwareState, cell.placement, cell.workingSet, cell.load)

structure CompleteBlockResponse (F : Type) where
  blockId : BlockId
  role : BlockRole
  cells : List (CellResponse F)

structure SimultaneousInterval (F : Type) where
  stableId : String
  estimate : F
  standardError : F
  lower : F
  upper : F
  conclusion : PracticalConclusion

structure MaxTResult (F : Type) where
  familyId : String
  oneSided : Bool
  bootstrapReplicates : UInt64
  criticalValue : F
  intervals : List (SimultaneousInterval F)

/-- `selections` is a map; its contexts are the keys. -/
structure H3SelectionRecord where
  schemaVersion : Text
  selections : List (H3Context × H3Candidate)
  trainingSources : List ArtifactReference
  canonicalJson : Text
  recordSha256 : Sha256

structure H3ValidationResult (F : Type) where
  state : InferenceState
  comparisons : Option (MaxTResult F)
  allUpperLimitsBelowDelta : Bool
  blockers : List String

structure StageReceipt where
  stage : AnalysisStage
  version : Text
  inputs : List ArtifactReference

structure AnalysisOutput (F : Type) where
  state : InferenceState
  runSummaries : List (RunSummary F)
  primaryBlocks : List (CompleteBlockResponse F)
  h1 : Option (MaxTResult F)
  h2 : Option (MaxTResult F)
  selection : Option H3SelectionRecord
  h3 : Option (H3ValidationResult F)
  stages : List StageReceipt
  machineReportJson : Text
  humanReportMarkdown : String
  configurationSha256 : Sha256
  outputSha256 : Sha256

/-! ### The analysis over exact rational numbers

Its operations are parameters; here they are those of the rationals, where nothing is rounded
and every value is finite.
-/

/-- What has no exact rational value, whatever is given for it. -/
structure Inexact where
  tiny : ℚ
  infinity : ℚ
  sqrt : ℚ → ℚ
  log : ℚ → ℚ
  bits : ℚ → UInt64

def exactArithmetic (inexact : Inexact) : Binary64 ℚ where
  ofCount := fun count => count.toNat
  half := 1 / 2
  tiny := inexact.tiny
  infinity := inexact.infinity
  add := (· + ·)
  sub := (· - ·)
  mul := (· * ·)
  div := (· / ·)
  neg := (- ·)
  abs := fun value => |value|
  sqrt := inexact.sqrt
  log := inexact.log
  less := fun left right => left < right
  lessEq := fun left right => left ≤ right
  equal := fun left right => left = right
  isFinite := fun _ => true
  bits := inexact.bits

end CpuPrefetch.Analysis
