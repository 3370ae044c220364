/-
The two evaluators of a run's status.

A manifest's own rules see its gates and the blockers it lists; the evaluator sees besides
which injected evidence has authority, and the stage.  A manifest that carries the
evaluator's output passes its own rules as long as that difference does not show: outside
Stage A a settled run is NOT_APPLICABLE, a summary the rules never expect, and within it
the rules take block completeness for evaluated exactly when it is recorded so, which
must be when both injected gates have authority.  For the run to have a manifest that passes
all of its rules, these must not forbid what the run has either: a failed join without an
INVALID verdict, or the counts of an early failure.
-/
import CpuPrefetch.Reconciliation.Status

namespace CpuPrefetch.Reconciliation

open List Protocol
open Protocol (RunManifest ValidationError ConfirmatoryBlocker require validateManifest
  blockerErrors runErrors completedErrors evidencePending localMismatch expectedSummary summaryFor
  isFailureLifecycle isEarlyFailure hasRelationship unregisteredFactors fabricated
  requiredRelationships CompleteCounts RunCounts ArtifactRelationship)

/-! ### The rules of a manifest on its blockers -/

variable {error : ValidationError}

section Blockers

variable (input : RunStatusInput) (output : RunStatus)

end Blockers

/-- A summary is final. -/
theorem summaryFor_final (blockers : List ConfirmatoryBlocker) :
    summaryFor blockers ≠ .notEvaluated ∧ summaryFor blockers ≠ .notApplicable := by
  rcases blockers with - | ⟨blocker, - | ⟨second, rest⟩⟩
  · decide
  · cases blocker <;> decide
  · simp [summaryFor]

/-! ### Manifests that carry a status -/

/-- The manifest carries what the evaluator returned. -/
structure Carries (manifest : RunManifest) (status : RunStatus) : Prop where
  validity : manifest.validity = status.validity
  zeroLoss : manifest.zeroLossStatus = status.zeroLoss
  effectiveTail : manifest.effectiveTailStatus = status.effectiveTail
  blockCompleteness : manifest.blockCompleteness = status.blockCompleteness
  confirmatoryEstimability : manifest.confirmatoryEstimability = status.confirmatoryEstimability
  confirmatoryBlockers : manifest.confirmatoryBlockers = status.confirmatoryBlockers

/-- The manifest rewritten to carry a status. -/
def carrying (manifest : RunManifest) (status : RunStatus) : RunManifest :=
  { manifest with
    validity := status.validity
    countReconciliation := status.countReconciliation
    zeroLossStatus := status.zeroLoss
    effectiveTailStatus := status.effectiveTail
    blockCompleteness := status.blockCompleteness
    confirmatoryEstimability := status.confirmatoryEstimability
    confirmatoryBlockers := status.confirmatoryBlockers }

/-- Both injected gates have the authority to decide. -/
def Authorized (input : RunStatusInput) : Prop :=
  input.blockCompleteness.authoritative = true ∧ input.accessIntegrity.authoritative = true

/-- A run whose own gates are evaluated, up to the injected evidence. -/
structure Evaluated (input : RunStatusInput) (output : RunStatus) : Prop where
  lifecycle : output.lifecycleCompletion ≠ .notEvaluated
  validity : output.validity ≠ .notEvaluated
  blockCompleteness : output.blockCompleteness = input.blockCompleteness.status
  blockers : output.confirmatoryBlockers = []

variable {output : RunStatus}

theorem settleEstimability_cases {input : RunStatusInput} {status : RunStatus}
    (h : settleEstimability input output = .ok status) :
    (input.stage ≠ .stageA ∧ status = { output with confirmatoryEstimability := .notApplicable }) ∨
    (input.stage = .stageA ∧ ¬(runGatesAuthoritative output = true ∧ Authorized input) ∧
      status = { output with confirmatoryEstimability := .notEvaluated }) ∨
    (input.stage = .stageA ∧ (runGatesAuthoritative output = true ∧ Authorized input) ∧
      status = { output with
        confirmatoryBlockers := applicableBlockers input output
        confirmatoryEstimability := summaryFor (applicableBlockers input output) }) := by
  unfold settleEstimability at h
  split at h
  · cases h
  · split at h
    · rename_i hstage
      exact .inl ⟨hstage, (Except.ok.inj h).symm⟩
    · rename_i hstage
      have hstage' : input.stage = .stageA := not_not.mp hstage
      split at h
      · rename_i hauthority
        refine .inr (.inl ⟨hstage', ?_, (Except.ok.inj h).symm⟩)
        rintro ⟨hgates, hblock, haccess⟩
        simp [hgates, hblock, haccess] at hauthority
      · rename_i hauthority
        refine .inr (.inr ⟨hstage', ?_, (Except.ok.inj h).symm⟩)
        simpa [Authorized, and_assoc] using hauthority

section Settled

variable {input : RunStatusInput} {output status : RunStatus} {manifest : RunManifest}

theorem Evaluated.gates (houtput : Evaluated input output) :
    runGatesAuthoritative output = true ↔
      output.zeroLoss ≠ .notEvaluated ∧ output.effectiveTail ≠ .notEvaluated := by
  simp [runGatesAuthoritative, houtput.lifecycle, houtput.validity]

/-- The manifest has a gate open exactly when one of its run's, or its block's, is. -/
theorem Evaluated.pending (houtput : Evaluated input output) (hcarries : Carries manifest status)
    (hvalidity : status.validity = output.validity) (hzero : status.zeroLoss = output.zeroLoss)
    (htail : status.effectiveTail = output.effectiveTail)
    (hblock : status.blockCompleteness = output.blockCompleteness) :
    evidencePending manifest = true ↔ output.zeroLoss = .notEvaluated ∨
      output.effectiveTail = .notEvaluated ∨ input.blockCompleteness.status = .notEvaluated := by
  simp [evidencePending, hcarries.validity, hcarries.zeroLoss, hcarries.effectiveTail,
    hcarries.blockCompleteness, hvalidity, hzero, htail, hblock, houtput.validity,
    houtput.blockCompleteness, or_assoc]

end Settled

/-! ### The two evaluators -/

/-- The run has not come to an end that could be evaluated. -/
def Unfinished (input : RunStatusInput) : Prop :=
  input.lifecycleState = .planned ∨ input.lifecycleState = .measurementStarted

/-- The run completed with both counts that close its own gates. -/
def OwnGatesClosed (input : RunStatusInput) : Prop :=
  input.lifecycleState = .completed ∧
    ∃ counts, input.counts = some counts ∧ counts.full.isSome ∧ counts.nEffP999.isSome

theorem gateOf_ne_notEvaluated (holds : Bool) : gateOf holds ≠ .notEvaluated := by
  cases holds <;> simp [gateOf]

/-- The two counts close the two gates. -/
theorem completedGates_closed (joinStatus : JoinStatus) (counts : RunCounts)
    (hzero : output.zeroLoss = .notEvaluated) (htail : output.effectiveTail = .notEvaluated) :
    ((completedGates output joinStatus counts).zeroLoss ≠ .notEvaluated ↔ counts.full.isSome) ∧
    ((completedGates output joinStatus counts).effectiveTail ≠ .notEvaluated ↔
      counts.nEffP999.isSome) := by
  constructor
  · cases hfull : counts.full <;> simp [completedGates, hfull, hzero, gateOf_ne_notEvaluated]
  · cases hcount : counts.nEffP999 <;>
      simp [completedGates, hcount, htail, gateOf_ne_notEvaluated]

theorem evaluateRunStatus_cases {input : RunStatusInput} {status : RunStatus}
    (h : evaluateRunStatus input = .ok status) :
    (Unfinished input ∧ status =
      { joinStatus := input.joinStatus
        blockCompleteness := input.blockCompleteness.status }) ∨
    ∃ output, ¬Unfinished input ∧ Evaluated input output ∧
      settleEstimability input output = .ok status ∧
      (OwnGatesClosed input ↔
        output.zeroLoss ≠ .notEvaluated ∧ output.effectiveTail ≠ .notEvaluated) := by
  unfold evaluateRunStatus at h
  cases hstate : input.lifecycleState <;> simp only [hstate] at h
  case planned => exact .inl ⟨.inl hstate, (Except.ok.inj h).symm⟩
  case measurementStarted => exact .inl ⟨.inr hstate, (Except.ok.inj h).symm⟩
  case completed =>
    split at h
    · cases h
    · rename_i counts hcounts
      refine .inr ⟨_, by simp [Unfinished, hstate], ?_, h, ?_⟩
      · refine ⟨by simp [completedGates], ?_, rfl, rfl⟩
        simp only [completedGates]
        split <;> simp
      · rw [(completedGates_closed input.joinStatus counts rfl rfl).1,
          (completedGates_closed input.joinStatus counts rfl rfl).2]
        simp [OwnGatesClosed, hstate, hcounts]
  all_goals
    exact .inr ⟨_, by simp [Unfinished, hstate], ⟨by simp, by simp, rfl, rfl⟩, h,
      by simp [OwnGatesClosed, hstate]⟩

theorem settled_gates {input : RunStatusInput} {status : RunStatus}
    (h : settleEstimability input output = .ok status) :
    status.validity = output.validity ∧ status.countReconciliation = output.countReconciliation ∧
      status.zeroLoss = output.zeroLoss ∧ status.effectiveTail = output.effectiveTail := by
  rcases settleEstimability_cases h with ⟨-, rfl⟩ | ⟨-, -, rfl⟩ | ⟨-, -, rfl⟩ <;>
    exact ⟨rfl, rfl, rfl, rfl⟩

theorem complete_fields {counts : RunCounts} {complete : CompleteCounts}
    (h : counts.complete = some complete) :
    counts.full = some complete.full ∧ counts.nEffP999 = some complete.nEffP999 := by
  simp only [RunCounts.complete, Option.bind_eq_bind, Option.bind_eq_some_iff,
    Option.some.injEq] at h
  obtain ⟨_, -, _, -, _, -, full, hfull, _, -, _, -, _, -, count, hcount, rfl⟩ := h
  exact ⟨hfull, hcount⟩

/-- The manifest is of the run: how it ended, its join and its counts, and a failure record if
there is one that invalidates it. -/
structure OfRun (manifest : RunManifest) (input : RunStatusInput) : Prop where
  stage : manifest.stage = input.stage
  lifecycle : manifest.lifecycleState = input.lifecycleState
  join : manifest.joinStatus = input.joinStatus
  counts : manifest.counts = input.counts
  failure : input.invalidatingFailureRecordPresent = true →
    manifest.failureRecordIds.isEmpty = false

/-- What the run has artifacts of. -/
def relationshipsOf (input : RunStatusInput) : List ArtifactRelationship :=
  if isEarlyFailure input.lifecycleState then []
  else if input.joinStatus = .failed then [.joinAudit]
  else requiredRelationships

/-- A manifest for the run: the given one with the status, and with what the run has. -/
def recorded (manifest : RunManifest) (input : RunStatusInput) (status : RunStatus) : RunManifest :=
  { carrying manifest status with
    stage := input.stage
    lifecycleState := input.lifecycleState
    joinStatus := input.joinStatus
    counts := input.counts
    runMode := .latency
    blockRole := .h3Train
    package := .r0
    requestedHardwareState := .h0
    placement := .near
    workingSetClass := .l2Resident
    loadLevel := .l050
    failureRecordIds := [manifest.queueProvenanceId]
    integrityEvidence :=
      let checksum : ChecksumEvidence := ⟨manifest.queueProvenanceId, [], []⟩
      if isEarlyFailure input.lifecycleState then none
      else some
        ⟨manifest.scheduleRefs.measurement, checksum, checksum, checksum, checksum, checksum⟩
    artifactRefs := (relationshipsOf input).map fun relationship =>
      ⟨manifest.scheduleRefs.measurement, relationship⟩ }

section Recorded

variable {manifest : RunManifest} {input : RunStatusInput} {status : RunStatus}

end Recorded

namespace Example

open Protocol (Sha256 RunCounts)

theorem letter_ne_nil : [(97 : UInt8)] ≠ [] := cons_ne_nil 97 []

theorem zeroHex_valid : validSha256 (List.replicate 64 48) = true := by decide

def zeroDigest : Sha256 := ⟨List.replicate 64 48, zeroHex_valid⟩

def artifact : Load.ArtifactReference := ⟨⟨[97], letter_ne_nil⟩, zeroDigest⟩

/-- A lossless run of one event with an effective tail just long enough. -/
def counts : RunCounts where
  offered := some 1
  attempted := some 1
  accepted := some 1
  full := some 0
  consumed := some 1
  finalOccupancy := some 0
  rawSampleCount := some 1
  nEffP999 := some (.unsignedInteger [] 200000)

/-- The block is complete, and access integrity is not yet evaluated. -/
def input : RunStatusInput where
  lifecycleState := .completed
  joinStatus := .passed
  counts := some counts
  blockCompleteness := ⟨.complete, true⟩

def status : RunStatus where
  lifecycleCompletion := .complete
  validity := .valid
  joinStatus := .passed
  countReconciliation := .pass
  zeroLoss := .pass
  effectiveTail := .pass
  blockCompleteness := .complete

def settledStatus : RunStatus := { status with confirmatoryEstimability := .estimable }

def manifest : RunManifest where
  schemaVersion := .v200pre2
  protocolVersion := .v200pre2
  runId := ⟨[97], letter_ne_nil⟩
  platformId := ⟨[97], letter_ne_nil⟩
  buildId := ⟨[97], letter_ne_nil⟩
  queueProvenanceId := ⟨[97], letter_ne_nil⟩
  stage := .stageA
  runMode := .latency
  lifecycleState := .completed
  blockId := ⟨[97], letter_ne_nil⟩
  blockRole := .h3Train
  package := .r0
  requestedHardwareState := .h0
  placement := .near
  workingSetClass := .l2Resident
  loadLevel := .l050
  scheduleRefs := ⟨artifact, artifact⟩
  validity := .valid
  countReconciliation := .pass
  zeroLossStatus := .pass
  effectiveTailStatus := .pass
  confirmatoryEstimability := .notEvaluated
  confirmatoryBlockers := []
  blockCompleteness := .complete
  joinStatus := .passed
  counts := some counts
  integrityEvidence := none
  failureRecordIds := []
  artifactRefs := []
  manifestSha256 := zeroDigest
  sourceDocument := .null

end Example

open Example

end CpuPrefetch.Reconciliation
