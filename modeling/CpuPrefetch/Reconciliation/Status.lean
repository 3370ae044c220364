/-
`evaluate_run_status`: what a run came to, gate by gate.

Block completeness and access integrity are decided elsewhere and injected, each with
whether it has the authority to decide.  Estimability is settled only for a Stage A run
all of whose gates have a verdict.
-/
import CpuPrefetch.Protocol.Rules

namespace CpuPrefetch.Reconciliation

open Protocol (Stage LifecycleState JoinStatus RunCounts GateStatus BlockCompleteness RunValidity
  ConfirmatoryEstimability ConfirmatoryBlocker RunManifest Result ErrorCategory ValidationError
  summaryFor atLeast200000 require)

inductive LifecycleCompletion where
  | notEvaluated
  | incomplete
  | complete
  deriving DecidableEq, Repr

structure AuthoritativeGate where
  status : GateStatus := .notEvaluated
  authoritative : Bool := false
  deriving DecidableEq, Repr

structure AuthoritativeBlockCompleteness where
  status : BlockCompleteness := .notEvaluated
  authoritative : Bool := false
  deriving DecidableEq, Repr

structure RunStatusInput where
  stage : Stage := .stageA
  lifecycleState : LifecycleState := .planned
  joinStatus : JoinStatus := .notAttempted
  counts : Option RunCounts := none
  invalidatingFailureRecordPresent : Bool := false
  blockCompleteness : AuthoritativeBlockCompleteness := {}
  accessIntegrity : AuthoritativeGate := {}
  deriving DecidableEq

structure RunStatus where
  lifecycleCompletion : LifecycleCompletion := .notEvaluated
  validity : RunValidity := .notEvaluated
  joinStatus : JoinStatus := .notAttempted
  countReconciliation : GateStatus := .notEvaluated
  zeroLoss : GateStatus := .notEvaluated
  effectiveTail : GateStatus := .notEvaluated
  confirmatoryEstimability : ConfirmatoryEstimability := .notEvaluated
  blockCompleteness : BlockCompleteness := .notEvaluated
  confirmatoryBlockers : List ConfirmatoryBlocker := []
  deriving DecidableEq, Repr

def statusFailure (path rule message : String) : Result RunStatus :=
  .error [⟨.missingEvidence, path, rule, message⟩]

/-- `n_eff_at_least_threshold`, which is `at_least_200000` written again. -/
def nEffAtLeastThreshold (number : Protocol.Json.Number) : Bool := atLeast200000 number

/-- `complete_count_identities`: every count is there, and they add up. -/
def completeCountIdentities (counts : RunCounts) : Bool :=
  match counts.complete with
  | none => false
  | some complete => complete.identities

/-- The verdict of a gate that was evaluated. -/
def gateOf (holds : Bool) : GateStatus := if holds then .pass else .fail

/-- The gates of a run whose lifecycle completed with these counts. -/
def completedGates (output : RunStatus) (joinStatus : JoinStatus) (counts : RunCounts) :
    RunStatus :=
  let reconciled := gateOf (completeCountIdentities counts && joinStatus = .passed)
  { output with
    countReconciliation := reconciled
    validity := if reconciled = .pass then .valid else .invalid
    zeroLoss := match counts.full with
      | none => output.zeroLoss
      | some full => gateOf (full = 0)
    effectiveTail := match counts.nEffP999 with
      | none => output.effectiveTail
      | some count => gateOf (nEffAtLeastThreshold count) }

/-- Every gate of the run itself has a verdict. -/
def runGatesAuthoritative (output : RunStatus) : Bool :=
  output.lifecycleCompletion ≠ .notEvaluated && output.validity ≠ .notEvaluated &&
    output.zeroLoss ≠ .notEvaluated && output.effectiveTail ≠ .notEvaluated

/-- The blockers of a run all of whose gates have a verdict, in the order of their tokens. -/
def applicableBlockers (input : RunStatusInput) (output : RunStatus) : List ConfirmatoryBlocker :=
  (if input.accessIntegrity.status = .fail then [.blockedAccessLeakage] else []) ++
  (if output.effectiveTail = .fail then [.blockedEffectiveTail] else []) ++
  (if input.blockCompleteness.status = .incomplete then [.blockedIncompleteBlock] else []) ++
  (if output.validity = .invalid then [.blockedInvalidRun] else []) ++
  (if output.zeroLoss = .fail then [.blockedZeroLoss] else [])

/-- The end of `evaluate_run_status`: failure evidence, then estimability. -/
def settleEstimability (input : RunStatusInput) (output : RunStatus) : Result RunStatus :=
  if output.validity = .invalid && !input.invalidatingFailureRecordPresent then
    statusFailure "$status/failure_record_ids" "REC-INVALID-FAILURE-EVIDENCE"
      "INVALID requires an invalidating failure record"
  else if input.stage ≠ .stageA then
    .ok { output with confirmatoryEstimability := .notApplicable }
  else if !runGatesAuthoritative output || !input.blockCompleteness.authoritative ||
      !input.accessIntegrity.authoritative then
    .ok { output with confirmatoryEstimability := .notEvaluated }
  else
    let blockers := applicableBlockers input output
    .ok { output with
      confirmatoryBlockers := blockers
      confirmatoryEstimability := summaryFor blockers }

def evaluateRunStatus (input : RunStatusInput) : Result RunStatus :=
  let output : RunStatus :=
    { joinStatus := input.joinStatus
      blockCompleteness := input.blockCompleteness.status }
  match input.lifecycleState with
  | .planned | .measurementStarted => .ok output
  | .preRunFailure | .warmupFailure | .resetFailure | .measurementFailure | .drainFailure =>
      settleEstimability input
        { output with lifecycleCompletion := .incomplete, validity := .invalid }
  | .completed =>
      match input.counts with
      | none =>
          statusFailure "$status/counts" "REC-STATUS-COUNTS"
            "completed lifecycle requires complete counts"
      | some counts =>
          settleEstimability input
            (completedGates { output with lifecycleCompletion := .complete } input.joinStatus
              counts)

end CpuPrefetch.Reconciliation
