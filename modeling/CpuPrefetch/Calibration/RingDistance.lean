/-
The ring distance of each Stage A context, from the demand and issue times of calibration runs.

Sizes of containers are at most what a `std::size_t` counts; the series carry that as a
property.  The counts of full and empty attempts are left out of a series, since the
evaluation does not read them.
-/
import CpuPrefetch.Calibration.Rationals
import CpuPrefetch.Lib.Extremes
import CpuPrefetch.Protocol.Records
import CpuPrefetch.Workload.Packages

namespace CpuPrefetch.Calibration

open Protocol.Load
open Protocol (Text ascii Result RunId Stage RunMode QueuePackage RequestedHardwareState Placement
  WorkingSetClass)
open Workload (RingGeometry)

def kRingDistanceMethodId : Text := ascii "RING-D2-RUNTAIL-LTL95C95-v1"
def kMinimumValidIndependentRuns : Nat := 59
def kRequiredRingContextCount : Nat := 6

inductive EvaluationState where
  | notEvaluated
  | resolved
  | ineligible
  deriving DecidableEq, Repr

inductive CalibrationRunValidity where
  | valid
  | invalid
  deriving DecidableEq, Repr

/-! ### Plans and evidence -/

structure EvidenceReference where
  artifactId : Text
  sha256 : Text
  deriving DecidableEq

structure CalibrationGovernance where
  ownerIds : List Text
  authorityArtifact : EvidenceReference
  standBudgetArtifact : EvidenceReference
  deriving DecidableEq

structure StageAContext where
  platformId : Text
  buildId : Text
  queueImplementationId : Text
  consumerActionId : Text
  placementEvidenceId : Text
  capacityEvidenceId : Text
  workingSetEvidenceId : Text
  hardwareStateEvidenceId : Text
  softwarePolicyId : Text
  clockPolicyId : Text
  logicalCapacity : UInt64
  deriving DecidableEq

/-- A `std::vector` of ticks. -/
abbrev Ticks := { values : List UInt64 // values.length < 2 ^ 64 }

structure RingDemandSeries where
  producerDemandTicks : Ticks
  consumerDemandTicks : Ticks
  producerIssueTicks : Ticks
  consumerIssueTicks : Ticks
  deriving DecidableEq

structure RingContextKey where
  placement : Placement
  workingSet : WorkingSetClass
  deriving DecidableEq, Repr

structure RingStatePlan where
  hardwareState : RequestedHardwareState
  ringOffContext : StageAContext
  plannedRunIds : List RunId
  deriving DecidableEq

structure RingContextPlan where
  key : RingContextKey
  geometry : RingGeometry
  durationTicks : UInt64
  minimumObservationsPerSeries : UInt64
  states : List RingStatePlan
  deriving DecidableEq

structure RingDistancePlan where
  recordId : Text
  estimatorId : Text
  seedNamespaceId : Text
  assumptions : List Text
  governance : CalibrationGovernance
  contexts : List RingContextPlan
  deriving DecidableEq

structure RingRunEvidence where
  runId : RunId
  key : RingContextKey
  ringOffContext : StageAContext
  hardwareState : RequestedHardwareState
  stage : Stage
  runMode : RunMode
  package : QueuePackage
  validity : CalibrationRunValidity
  intervalTicks : UInt64
  series : RingDemandSeries
  rawRunArtifacts : List EvidenceReference
  integrityArtifact : Option EvidenceReference
  failureArtifact : Option EvidenceReference
  deriving DecidableEq

/-! ### Results -/

structure RingRunDecision where
  runId : RunId
  hardwareState : RequestedHardwareState
  validity : CalibrationRunValidity
  producerDemandP999Ticks : Option UInt64
  consumerDemandP999Ticks : Option UInt64
  producerIssueP001Ticks : Option UInt64
  consumerIssueP001Ticks : Option UInt64
  rawRunArtifacts : List EvidenceReference
  integrityArtifact : Option EvidenceReference
  failureArtifact : Option EvidenceReference
  deriving DecidableEq

structure RingContextResult where
  key : RingContextKey
  state : EvaluationState
  producerDemandUpperTicks : Option UInt64
  consumerDemandUpperTicks : Option UInt64
  producerIssueLowerTicks : Option UInt64
  consumerIssueLowerTicks : Option UInt64
  conservativeDemandTicks : Option UInt64
  conservativeIssueTicks : Option UInt64
  d1Slots : Option UInt64
  d2CacheLines : Option UInt64
  producerDistanceSlots : Option UInt64
  consumerDistanceSlots : Option UInt64
  runDecisions : List RingRunDecision
  blockers : List String
  deriving DecidableEq

structure RingDistanceResult where
  state : EvaluationState
  contexts : List RingContextResult
  blockers : List String
  deriving DecidableEq

/-! ### Checks -/

def lowerHexadecimal (character : UInt8) : Bool :=
  (48 ≤ character && character ≤ 57) || (97 ≤ character && character ≤ 102)

def validSha256 (value : Text) : Bool := value.length = 64 && value.all lowerHexadecimal

def validOpaqueId (value : Text) : Bool := !value.isEmpty && 47 ∉ value

def validReference (reference : EvidenceReference) : Bool :=
  validOpaqueId reference.artifactId && validSha256 reference.sha256

def validGovernance (governance : CalibrationGovernance) : Bool :=
  !governance.ownerIds.isEmpty && governance.ownerIds.Nodup &&
    governance.ownerIds.all validOpaqueId && validReference governance.authorityArtifact &&
    validReference governance.standBudgetArtifact

def validContext (context : StageAContext) : Bool :=
  validOpaqueId context.platformId && validOpaqueId context.buildId &&
    validOpaqueId context.queueImplementationId && validOpaqueId context.consumerActionId &&
    validOpaqueId context.placementEvidenceId && validOpaqueId context.capacityEvidenceId &&
    validOpaqueId context.workingSetEvidenceId && validOpaqueId context.hardwareStateEvidenceId &&
    validOpaqueId context.softwarePolicyId && validOpaqueId context.clockPolicyId &&
    context.logicalCapacity ≠ 0

def sameRingContextExceptHardware (left right : StageAContext) : Bool :=
  left.platformId = right.platformId && left.buildId = right.buildId &&
    left.queueImplementationId = right.queueImplementationId &&
    left.consumerActionId = right.consumerActionId &&
    left.placementEvidenceId = right.placementEvidenceId &&
    left.capacityEvidenceId = right.capacityEvidenceId &&
    left.workingSetEvidenceId = right.workingSetEvidenceId &&
    left.softwarePolicyId = right.softwarePolicyId &&
    left.clockPolicyId = right.clockPolicyId &&
    left.logicalCapacity = right.logicalCapacity

def placementNumber : Placement → Nat
  | .near => 0
  | .far => 1
  | .stageCOther => 2
  | .notApplicable => 3

def workingSetNumber : WorkingSetClass → Nat
  | .l2Resident => 0
  | .llcResident => 1
  | .beyondLlc => 2
  | .notApplicable => 3

def ringKeyName (key : RingContextKey) : String :=
  toString (placementNumber key.placement) ++ ":" ++ toString (workingSetNumber key.workingSet)

def requiredRingContexts : List RingContextKey :=
  [Placement.near, .far].flatMap fun placement =>
    [WorkingSetClass.l2Resident, .llcResident, .beyondLlc].map fun workingSet =>
      ⟨placement, workingSet⟩

def expectedRingKey (key : RingContextKey) : Bool := key ∈ requiredRingContexts

def referencesValid (references : List EvidenceReference) : Bool := references.all validReference

def allPositive (values : List UInt64) : Bool := values.all fun value => value ≠ 0

/-! ### The plan -/

/-- Adds the runs of one state to those planned so far. -/
def planRuns : List RunId → List RunId → Result (List RunId)
  | planned, [] => .ok planned
  | planned, runId :: rest =>
      if runId ∈ planned then
        fail .duplicateValue "$/ring_plan/planned_run_ids" "CAL-PLAN-RUN-UNIQUE"
          "planned run identity must be globally unique"
      else planRuns (runId :: planned) rest

/-- The loop over the states of a context: the states seen, the context of the state before, and
the runs planned so far. -/
def planStates (capacity : UInt64) :
    List RequestedHardwareState → Option StageAContext → List RunId → List RingStatePlan →
      Result (List RunId)
  | _, _, planned, [] => .ok planned
  | states, commonContext, planned, state :: rest =>
      if (state.hardwareState ≠ .h0 && state.hardwareState ≠ .h1) ||
          !validContext state.ringOffContext ||
          state.ringOffContext.logicalCapacity ≠ capacity || state.hardwareState ∈ states then
        fail .crossField "$/ring_plan/contexts/states" "CAL-RING-HARDWARE-STATES"
          "ring context requires unique H0 and H1 plans"
      else if commonContext.any fun common =>
          !sameRingContextExceptHardware common state.ringOffContext then
        fail .referenceMismatch "$/ring_plan/contexts/states/ring_off_context"
          "CAL-RING-STAGE-A-CONTEXT"
          "H0 and H1 must differ only by verified hardware-state evidence"
      else do
        let planned ← planRuns planned state.plannedRunIds
        planStates capacity (state.hardwareState :: states) (some state.ringOffContext) planned rest

/-- The loop over the contexts, with the names seen and the runs planned so far. -/
def planContexts : List String → List RunId → List RingContextPlan → Result (List RunId)
  | _, planned, [] => .ok planned
  | contextNames, planned, context :: rest =>
      if !expectedRingKey context.key || context.durationTicks = 0 ||
          context.minimumObservationsPerSeries = 0 || ringKeyName context.key ∈ contextNames ||
          context.states.length ≠ 2 then
        fail .crossField "$/ring_plan/contexts" "CAL-RING-CONTEXT-PLAN"
          "ring context is invalid or duplicated"
      else do
        let planned ← planStates context.geometry.capacity [] none planned context.states
        planContexts (ringKeyName context.key :: contextNames) planned rest

/-- The loop over the evidence, with the runs present so far. -/
def checkRuns (planned : List RunId) : List RunId → List RingRunEvidence → Result Unit
  | _, [] => .ok ()
  | present, run :: rest =>
      if run.runId ∉ planned then
        fail .referenceMismatch "$/ring_runs/run_id" "CAL-NO-TOP-UP"
          "run was not in the prospective plan"
      else if run.runId ∈ present then
        fail .duplicateValue "$/ring_runs/run_id" "CAL-RUN-EVIDENCE-UNIQUE"
          "run evidence must be unique"
      else checkRuns planned (run.runId :: present) rest

/-! ### One run -/

def shorterThan (values : Ticks) (minimum : UInt64) : Bool := values.val.length < minimum.toNat

/-- What a planned run's evidence decides: its quantiles, or none if it is marked invalid. -/
def evaluateRun (context : RingContextPlan) (state : RingStatePlan) (evidence : RingRunEvidence) :
    Result RingRunDecision :=
  if evidence.key ≠ context.key || evidence.ringOffContext ≠ state.ringOffContext ||
      evidence.hardwareState ≠ state.hardwareState || evidence.stage ≠ .calibration ||
      evidence.runMode ≠ .d2Calibration || evidence.package ≠ .r0 ||
      evidence.intervalTicks ≠ context.durationTicks then
    fail .referenceMismatch "$/ring_runs" "CAL-RING-R0-CONTEXT"
      "ring evidence is not matching ring-off calibration evidence"
  else if !referencesValid evidence.rawRunArtifacts ||
      evidence.integrityArtifact.any (fun reference => !validReference reference) ||
      evidence.failureArtifact.any (fun reference => !validReference reference) then
    fail .invalidHash "$/ring_runs/artifacts" "CAL-EVIDENCE-REFERENCE"
      "evidence reference is malformed"
  else if evidence.validity = .invalid then
    if evidence.failureArtifact.isNone then
      fail .missingEvidence "$/ring_runs/failure_artifact"
        "CAL-INVALID-REQUIRES-FAILURE" "invalid calibration run needs failure evidence"
    else
      .ok ⟨evidence.runId, evidence.hardwareState, evidence.validity, none, none, none, none,
        evidence.rawRunArtifacts, evidence.integrityArtifact, evidence.failureArtifact⟩
  else
    let series := evidence.series
    let minimumCount := context.minimumObservationsPerSeries
    if shorterThan series.producerDemandTicks minimumCount ||
        shorterThan series.consumerDemandTicks minimumCount ||
        shorterThan series.producerIssueTicks minimumCount ||
        shorterThan series.consumerIssueTicks minimumCount ||
        !allPositive series.producerDemandTicks.val ||
          !allPositive series.consumerDemandTicks.val ||
        !allPositive series.producerIssueTicks.val || !allPositive series.consumerIssueTicks.val ||
        evidence.rawRunArtifacts.isEmpty || evidence.integrityArtifact.isNone then
      fail .missingEvidence "$/ring_runs/series" "CAL-RING-VALID-SERIES"
        ("a run marked valid needs complete positive demand/issue series and " ++
          "raw integrity evidence")
    else
      match inverseEcdf series.producerDemandTicks.val 999 1000,
          inverseEcdf series.consumerDemandTicks.val 999 1000,
          inverseEcdf series.producerIssueTicks.val 1 1000,
          inverseEcdf series.consumerIssueTicks.val 1 1000 with
      | .ok producerDemand, .ok consumerDemand, .ok producerIssue, .ok consumerIssue =>
          .ok ⟨evidence.runId, evidence.hardwareState, evidence.validity, some producerDemand,
            some consumerDemand, some producerIssue, some consumerIssue, evidence.rawRunArtifacts,
            evidence.integrityArtifact, evidence.failureArtifact⟩
      | _, _, _, _ =>
          fail .crossField "$/ring_runs/series" "CAL-RING-QUANTILES"
            "ring calibration quantile failed"

/-! ### One context -/

/-- Raises an upper limit by a run's value, if the run has one. -/
def raiseLimit (limit value : Option UInt64) : Option UInt64 :=
  match value with
  | none => limit
  | some value => Extremes.improve (fun value best : UInt64 => value > best) limit value

def lowerLimit (limit value : Option UInt64) : Option UInt64 :=
  match value with
  | none => limit
  | some value => Extremes.improve (fun value best : UInt64 => value < best) limit value

/-- The variables of the loop over a context's states. -/
structure ContextProgress where
  producerDemandLimit : Option UInt64
  consumerDemandLimit : Option UInt64
  producerIssueLimit : Option UInt64
  consumerIssueLimit : Option UInt64
  runDecisions : List RingRunDecision
  blockers : List String
  deriving DecidableEq

def ContextProgress.record (progress : ContextProgress) (decision : RingRunDecision) :
    ContextProgress where
  producerDemandLimit := raiseLimit progress.producerDemandLimit decision.producerDemandP999Ticks
  consumerDemandLimit := raiseLimit progress.consumerDemandLimit decision.consumerDemandP999Ticks
  producerIssueLimit := lowerLimit progress.producerIssueLimit decision.producerIssueP001Ticks
  consumerIssueLimit := lowerLimit progress.consumerIssueLimit decision.consumerIssueP001Ticks
  runDecisions := progress.runDecisions ++ [decision]
  blockers := progress.blockers

def evidenceFor (runs : List RingRunEvidence) (runId : RunId) : Option RingRunEvidence :=
  runs.find? fun candidate => candidate.runId = runId

/-- The loop over the runs planned for a state, with how many are present and how many valid. -/
def evaluateRuns (runs : List RingRunEvidence) (context : RingContextPlan) (state : RingStatePlan) :
    Nat → Nat → ContextProgress → List RunId → Result (Nat × Nat × ContextProgress)
  | present, valid, progress, [] => .ok (present, valid, progress)
  | present, valid, progress, plannedRunId :: rest =>
      match evidenceFor runs plannedRunId with
      | none => evaluateRuns runs context state present valid progress rest
      | some evidence => do
          let decision ← evaluateRun context state evidence
          evaluateRuns runs context state (present + 1)
            (if evidence.validity = .invalid then valid else valid + 1) (progress.record decision)
            rest

/-- What keeps a state with so many present and valid runs from being evaluated. -/
def stateBlockers (state : RingStatePlan) (present valid : Nat) : List String :=
  (if present ≠ state.plannedRunIds.length then ["prospective H-state run plan is incomplete"]
    else []) ++
  if valid < kMinimumValidIndependentRuns then
    ["H-state has fewer than 59 valid independent runs"]
  else []

def ContextProgress.block (progress : ContextProgress) (blockers : List String) :
    ContextProgress :=
  { progress with blockers := progress.blockers ++ blockers }

def evaluateStates (runs : List RingRunEvidence) (context : RingContextPlan) :
    ContextProgress → List RingStatePlan → Result ContextProgress
  | progress, [] => .ok progress
  | progress, state :: rest => do
      let (present, valid, progress) ←
        evaluateRuns runs context state 0 0 progress state.plannedRunIds
      evaluateStates runs context (progress.block (stateBlockers state present valid)) rest

/-- A context whose state and numbers are still to be found. -/
def openContext (key : RingContextKey) (runDecisions : List RingRunDecision)
    (blockers : List String) : RingContextResult where
  key := key
  state := .resolved
  producerDemandUpperTicks := none
  consumerDemandUpperTicks := none
  producerIssueLowerTicks := none
  consumerIssueLowerTicks := none
  conservativeDemandTicks := none
  conservativeIssueTicks := none
  d1Slots := none
  d2CacheLines := none
  producerDistanceSlots := none
  consumerDistanceSlots := none
  runDecisions := runDecisions
  blockers := blockers

def RingContextResult.blocked (result : RingContextResult) (blocker : String) :
    RingContextResult :=
  { result with state := .ineligible, blockers := result.blockers ++ [blocker] }

/-- The distance arithmetic on the conservative demand and issue. -/
def resolveDistance (geometry : RingGeometry) (conservativeDemand conservativeIssue : UInt64)
    (result : RingContextResult) : RingContextResult :=
  if geometry.capacity = 0 || geometry.cacheLineBytes = 0 || geometry.slotBytes = 0 then
    result.blocked "ring geometry is incomplete"
  else
    match checkedCeilDivide geometry.cacheLineBytes geometry.slotBytes,
        checkedCeilDivide conservativeDemand conservativeIssue with
    | some d1Slots, some rawSlots =>
        match checkedCeilDivide rawSlots d1Slots with
        | none => result.blocked "distance arithmetic failed"
        | some rawLines =>
            let result := { result with d1Slots := some d1Slots }
            let capLines := geometry.capacity / 4 / d1Slots
            let d2Lines := min (max 2 rawLines) capLines
            let d2Slots := checkedMultiply d2Lines d1Slots
            if capLines < 2 || d2Slots.all fun slots => slots ≤ d1Slots then
              result.blocked "one-quarter cap collapses d2 to d1 or below two lines"
            else
              { result with
                d2CacheLines := some d2Lines
                producerDistanceSlots := d2Slots
                consumerDistanceSlots := d2Slots }
    | _, _ => result.blocked "distance arithmetic failed"

/-- What the loop over a context's states leaves, resolved if nothing blocks it. -/
def finishContext (context : RingContextPlan) (progress : ContextProgress) : RingContextResult :=
  let result := openContext context.key progress.runDecisions progress.blockers
  match progress.blockers, progress.producerDemandLimit, progress.consumerDemandLimit,
      progress.producerIssueLimit, progress.consumerIssueLimit with
  | [], some producerDemand, some consumerDemand, some producerIssue, some consumerIssue =>
      let conservativeDemand := max producerDemand consumerDemand
      let conservativeIssue := min producerIssue consumerIssue
      resolveDistance context.geometry conservativeDemand conservativeIssue
        { result with
          producerDemandUpperTicks := some producerDemand
          consumerDemandUpperTicks := some consumerDemand
          producerIssueLowerTicks := some producerIssue
          consumerIssueLowerTicks := some consumerIssue
          conservativeDemandTicks := some conservativeDemand
          conservativeIssueTicks := some conservativeIssue }
  | _, _, _, _, _ => { result with state := .notEvaluated }

def evaluateContext (runs : List RingRunEvidence) (context : RingContextPlan) :
    Result RingContextResult :=
  (evaluateStates runs context ⟨none, none, none, none, [], []⟩ context.states).map
    (finishContext context)

/-! ### All contexts -/

def absentContext (key : RingContextKey) : RingContextResult :=
  { openContext key [] ["context absent from prospective plan"] with state := .notEvaluated }

/-- Takes in a context that is not in the plan. -/
def RingDistanceResult.addAbsent (result : RingDistanceResult) (key : RingContextKey) :
    RingDistanceResult where
  state := .notEvaluated
  contexts := result.contexts ++ [absentContext key]
  blockers := result.blockers ++ ["missing required ring context " ++ ringKeyName key]

/-- Takes in a context that is in the plan; the state is that of the last one not resolved. -/
def RingDistanceResult.addPlanned (result : RingDistanceResult) (context : RingContextResult) :
    RingDistanceResult where
  state :=
    match context.state with
    | .notEvaluated => .notEvaluated
    | .ineligible => .ineligible
    | .resolved => result.state
  contexts := result.contexts ++ [context]
  blockers := result.blockers ++
    match context.state with
    | .notEvaluated => ["unresolved ring context " ++ ringKeyName context.key]
    | .ineligible => ["ineligible ring context " ++ ringKeyName context.key]
    | .resolved => []

def evaluateContexts (plan : RingDistancePlan) (runs : List RingRunEvidence) :
    RingDistanceResult → List RingContextKey → Result RingDistanceResult
  | result, [] => .ok result
  | result, requiredKey :: rest =>
      match plan.contexts.find? fun candidate => candidate.key = requiredKey with
      | none => evaluateContexts plan runs (result.addAbsent requiredKey) rest
      | some context => do
          let contextResult ← evaluateContext runs context
          evaluateContexts plan runs (result.addPlanned contextResult) rest

def evaluateRingDistance (plan : RingDistancePlan) (runs : List RingRunEvidence) :
    Result RingDistanceResult :=
  if !validOpaqueId plan.recordId || !validOpaqueId plan.seedNamespaceId ||
      plan.assumptions.isEmpty || plan.assumptions.any List.isEmpty ||
      !validGovernance plan.governance || plan.estimatorId ≠ kRingDistanceMethodId then
    fail .missingField "$/ring_plan" "CAL-RING-PLAN-IDENTITY"
      "plan requires explicit identity, namespace, and accepted estimator"
  else do
    let planned ← planContexts [] [] plan.contexts
    checkRuns planned [] runs
    let result ← evaluateContexts plan runs ⟨.resolved, [], []⟩ requiredRingContexts
    if plan.contexts.length ≠ kRequiredRingContextCount then
      return { result with
        state := .notEvaluated
        blockers := result.blockers ++ ["ring plan is not the exact six-context product"] }
    else return result

end CpuPrefetch.Calibration
