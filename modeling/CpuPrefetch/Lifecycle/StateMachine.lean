/-
The run state machine: the phases of one run, the graph its transitions follow,
and the three journals it appends to.

Every operation collects its errors first and touches the machine only when there
are none, so each is a function to the errors and the machine after it.  The texts
of a record are only ever compared with the empty one and stored.
-/
import CpuPrefetch.Protocol.Model

namespace CpuPrefetch.Lifecycle

open Protocol (ErrorCategory ValidationError LifecycleState RunId BlockId ScheduleId NamespaceId)

inductive RunPhase where
  | planned
  | preflight
  | preRunFailure
  | preparation
  | warmup
  | warmupFailure
  | logicalReset
  | resetFailure
  | measurementStarted
  | measurementFailure
  | producerComplete
  | drain
  | drainFailure
  | completed
  | finalizedInvalid
  | finalizedValid
  deriving DecidableEq, Repr

namespace RunPhase

def isFailurePhase (phase : RunPhase) : Bool :=
  phase = .preRunFailure || phase = .warmupFailure || phase = .resetFailure ||
    phase = .measurementFailure || phase = .drainFailure

def isEarlyFailure (phase : RunPhase) : Bool :=
  phase = .preRunFailure || phase = .warmupFailure || phase = .resetFailure

def terminal (phase : RunPhase) : Bool := phase = .finalizedInvalid || phase = .finalizedValid

/-- `protocol_projection`: the imported state of a phase, given the one held before. -/
def protocolProjection (phase : RunPhase) (retained : LifecycleState) : LifecycleState :=
  match phase with
  | .planned | .preflight | .preparation | .warmup | .logicalReset => .planned
  | .preRunFailure => .preRunFailure
  | .warmupFailure => .warmupFailure
  | .resetFailure => .resetFailure
  | .measurementStarted | .producerComplete | .drain => .measurementStarted
  | .measurementFailure => .measurementFailure
  | .drainFailure => .drainFailure
  | .completed | .finalizedValid => .completed
  | .finalizedInvalid => retained

def isLegalTransition (source target : RunPhase) : Bool :=
  match source with
  | .planned => target = .preflight
  | .preflight => target = .preparation || target = .preRunFailure
  | .preparation => target = .warmup || target = .preRunFailure
  | .warmup => target = .logicalReset || target = .warmupFailure
  | .logicalReset => target = .measurementStarted || target = .resetFailure
  | .measurementStarted => target = .producerComplete || target = .measurementFailure
  | .producerComplete => target = .drain || target = .measurementFailure
  | .drain => target = .completed || target = .drainFailure
  | .completed => target = .finalizedValid || target = .finalizedInvalid
  | .preRunFailure | .warmupFailure | .resetFailure | .measurementFailure | .drainFailure =>
      target = .finalizedInvalid
  | .finalizedInvalid | .finalizedValid => false

end RunPhase

/-! ### Artifact consequences -/

inductive LifecycleArtifactKind where
  | plan
  | warmupSchedule
  | measurementSchedule
  | resetEvidence
  | producerObservations
  | consumerObservations
  | counts
  | phaseIntegrity
  | failureEvidence
  | transitionJournal
  | recoveryEvidence
  deriving DecidableEq, Repr

inductive ArtifactAction where
  | retain
  | appendPartial
  | appendComplete
  | declareAbsent
  deriving DecidableEq, Repr

structure ArtifactConsequence where
  kind : LifecycleArtifactKind
  action : ArtifactAction
  artifactId : String
  rowCount : UInt64
  deriving DecidableEq, Repr

/-- The four kinds only a measurement makes: `forbidden` of an early failure and
`required` of a completed run. -/
def measurementKinds : List LifecycleArtifactKind :=
  [.producerObservations, .consumerObservations, .counts, .phaseIntegrity]

def hasArtifactKind (consequences : List ArtifactConsequence) (kind : LifecycleArtifactKind) :
    Bool :=
  consequences.any fun consequence => consequence.kind = kind

def hasPresentArtifactKind (consequences : List ArtifactConsequence)
    (kind : LifecycleArtifactKind) : Bool :=
  consequences.any fun consequence =>
    consequence.kind = kind && consequence.action != .declareAbsent

def consequencesPath : String := "$transition/artifact_consequences"

/-- The checks of one consequence, given the kinds stated before it. -/
def consequenceErrors (seen : List LifecycleArtifactKind) (index : Nat)
    (consequence : ArtifactConsequence) : List ValidationError :=
  let path := consequencesPath ++ "/" ++ toString index
  (if consequence.kind ∈ seen then
    [⟨.duplicateValue, path, "LIF-TRANSITION-ARTIFACT-UNIQUE",
      "one transition cannot state two consequences for one artifact kind"⟩] else []) ++
  (if consequence.action = .declareAbsent then
    if consequence.artifactId ≠ "" ∨ consequence.rowCount ≠ 0 then
      [⟨.crossField, path, "LIF-ABSENT-ARTIFACT",
        "an explicitly absent artifact has no ID and zero rows"⟩] else []
  else if consequence.artifactId = "" then
    [⟨.missingField, path ++ "/artifact_id", "LIF-ARTIFACT-ID",
      "retained or appended artifact evidence requires an ID"⟩] else [])

/-- The loop over the consequences from this index on. -/
def consequencesErrors (seen : List LifecycleArtifactKind) (index : Nat) :
    List ArtifactConsequence → List ValidationError
  | [] => []
  | consequence :: rest =>
      consequenceErrors seen index consequence ++
        consequencesErrors (consequence.kind :: seen) (index + 1) rest

def validateConsequences (target : RunPhase) (consequences : List ArtifactConsequence) :
    List ValidationError :=
  if consequences.isEmpty then
    [⟨.missingEvidence, consequencesPath, "LIF-TRANSITION-CONSEQUENCE",
      "every lifecycle transition requires explicit artifact consequences"⟩]
  else
    consequencesErrors [] 0 consequences ++
    (if target.isFailurePhase && !hasPresentArtifactKind consequences .failureEvidence then
      [⟨.missingEvidence, consequencesPath, "LIF-FAILURE-EVIDENCE",
        "a failure transition must append or retain failure evidence"⟩] else []) ++
    (if target.isEarlyFailure then
      measurementKinds.flatMap fun kind =>
        (if hasPresentArtifactKind consequences kind then
          [⟨.crossField, consequencesPath, "LIF-NO-FABRICATION",
            "pre-measurement failure cannot claim measurement artifacts"⟩] else []) ++
        (if !hasArtifactKind consequences kind then
          [⟨.missingEvidence, consequencesPath, "LIF-ABSENCE-EXPLICIT",
            "pre-measurement failure must explicitly declare measurement artifacts absent"⟩]
          else []) else []) ++
    (if target = .completed then
      measurementKinds.flatMap fun kind =>
        if !hasPresentArtifactKind consequences kind then
          [⟨.missingEvidence, consequencesPath, "LIF-COMPLETED-CANDIDATES",
            "completed execution requires every Stage 10 artifact candidate"⟩] else []
      else []) ++
    (if target = .finalizedInvalid && !hasPresentArtifactKind consequences .failureEvidence then
      [⟨.missingEvidence, consequencesPath, "LIF-INVALID-EVIDENCE",
        "finalized invalid execution must retain failure evidence"⟩] else [])

/-! ### The machine -/

structure LifecycleContext where
  runId : RunId
  blockId : BlockId
  warmupScheduleId : ScheduleId
  measurementScheduleId : ScheduleId
  warmupNamespaceId : NamespaceId
  measurementNamespaceId : NamespaceId
  transitionClockId : String
  transitionTimeUnit : String
  deriving DecidableEq

structure TransitionRequest where
  next : RunPhase
  timestamp : UInt64
  actor : String
  reason : String
  artifactConsequences : List ArtifactConsequence
  deriving DecidableEq, Repr

structure TransitionRecord where
  sequence : UInt64
  fromPhase : Option RunPhase
  toPhase : RunPhase
  protocolLifecycleState : LifecycleState
  timestamp : UInt64
  actor : String
  reason : String
  artifactConsequences : List ArtifactConsequence
  deriving DecidableEq, Repr

inductive NonFailureOutcome where
  | reconciledFull
  | genuineLowEffectiveTail
  deriving DecidableEq, Repr

structure OutcomeAnnotation where
  outcome : NonFailureOutcome
  timestamp : UInt64
  actor : String
  reason : String
  lifecycleFailure : Bool
  replacementTrigger : Bool
  deriving DecidableEq, Repr

structure RecoveryRequest where
  policyId : String
  durationTicks : UInt64
  startedAt : UInt64
  completedAt : UInt64
  actor : String
  reason : String
  evidenceArtifactId : String
  deriving DecidableEq, Repr

structure RecoveryRecord where
  policyId : String
  durationTicks : UInt64
  startedAt : UInt64
  completedAt : UInt64
  actor : String
  reason : String
  evidenceArtifactId : String
  deriving DecidableEq, Repr

structure RunStateMachine where
  context : LifecycleContext
  phase : RunPhase
  protocolState : LifecycleState
  lastTimestamp : UInt64
  transitions : List TransitionRecord
  outcomes : List OutcomeAnnotation
  recoveries : List RecoveryRecord
  deriving DecidableEq

namespace RunStateMachine

def createErrors (context : LifecycleContext) (genesis : TransitionRequest) :
    List ValidationError :=
  (if context.warmupNamespaceId = context.measurementNamespaceId then
    [⟨.crossField, "$lifecycle/namespaces", "LIF-NAMESPACE-SEPARATION",
      "warm-up and measurement namespaces must be distinct"⟩] else []) ++
  (if context.warmupScheduleId = context.measurementScheduleId then
    [⟨.crossField, "$lifecycle/schedules", "LIF-SCHEDULE-SEPARATION",
      "warm-up and measurement schedules must have distinct identities"⟩] else []) ++
  (if context.transitionClockId = "" ∨ context.transitionTimeUnit = "" then
    [⟨.missingField, "$lifecycle/transition_clock", "LIF-TRANSITION-CLOCK",
      "transition clock identity and unit are explicit required values"⟩] else []) ++
  (if genesis.next ≠ .planned then
    [⟨.crossField, "$transition/next", "LIF-GENESIS-PLANNED",
      "the initial lifecycle record must create PLANNED"⟩] else []) ++
  (if genesis.actor = "" ∨ genesis.reason = "" then
    [⟨.missingField, "$transition", "LIF-TRANSITION-WHO-WHY",
      "every transition requires a nonempty actor and reason"⟩] else []) ++
  validateConsequences genesis.next genesis.artifactConsequences

def create (context : LifecycleContext) (genesis : TransitionRequest) :
    Protocol.Result RunStateMachine :=
  if createErrors context genesis = [] then
    .ok { context := context
          phase := .planned
          protocolState := .planned
          lastTimestamp := genesis.timestamp
          transitions := [{ sequence := 0
                            fromPhase := none
                            toPhase := .planned
                            protocolLifecycleState := .planned
                            timestamp := genesis.timestamp
                            actor := genesis.actor
                            reason := genesis.reason
                            artifactConsequences := genesis.artifactConsequences }]
          outcomes := []
          recoveries := [] }
  else .error (createErrors context genesis)

variable (m : RunStateMachine)

def transitionErrors (request : TransitionRequest) : List ValidationError :=
  (if !m.phase.isLegalTransition request.next then
    [⟨.crossField, "$transition/next", "LIF-ILLEGAL-TRANSITION",
      "transition is not in the accepted Stage 10 state graph"⟩] else []) ++
  (if request.actor = "" ∨ request.reason = "" then
    [⟨.missingField, "$transition", "LIF-TRANSITION-WHO-WHY",
      "every transition requires a nonempty actor and reason"⟩] else []) ++
  (if request.timestamp < m.lastTimestamp then
    [⟨.crossField, "$transition/timestamp", "LIF-TRANSITION-TIME",
      "transition timestamps must be nondecreasing"⟩] else []) ++
  validateConsequences request.next request.artifactConsequences

/-- The record a transition appends; its sequence is the journal's length. -/
def transitionRecord (request : TransitionRequest) : TransitionRecord where
  sequence := UInt64.ofNat m.transitions.length
  fromPhase := some m.phase
  toPhase := request.next
  protocolLifecycleState := request.next.protocolProjection m.protocolState
  timestamp := request.timestamp
  actor := request.actor
  reason := request.reason
  artifactConsequences := request.artifactConsequences

def transition (request : TransitionRequest) : RunStateMachine × List ValidationError :=
  if m.transitionErrors request = [] then
    ({ m with
        protocolState := request.next.protocolProjection m.protocolState
        phase := request.next
        lastTimestamp := request.timestamp
        transitions := m.transitions ++ [m.transitionRecord request] }, [])
  else (m, m.transitionErrors request)

def outcomeErrors (noted : OutcomeAnnotation) : List ValidationError :=
  (if m.phase ≠ .completed ∧ m.phase ≠ .finalizedValid then
    [⟨.crossField, "$outcome", "LIF-OUTCOME-PHASE",
      "FULL and effective-tail outcomes are recorded only after completion"⟩] else []) ++
  (if noted.actor = "" ∨ noted.reason = "" then
    [⟨.missingField, "$outcome", "LIF-OUTCOME-WHO-WHY",
      "outcome annotation requires actor and reason"⟩] else []) ++
  (if noted.timestamp < m.lastTimestamp then
    [⟨.crossField, "$outcome/timestamp", "LIF-OUTCOME-TIME",
      "outcome timestamp precedes lifecycle evidence"⟩] else []) ++
  (if noted.lifecycleFailure || noted.replacementTrigger then
    [⟨.crossField, "$outcome", "LIF-OUTCOME-NOT-FAILURE",
      "reconciled FULL and genuine low N_eff are not lifecycle or replacement triggers"⟩]
    else [])

def recordNonFailureOutcome (noted : OutcomeAnnotation) : RunStateMachine × List ValidationError :=
  if m.outcomeErrors noted = [] then
    ({ m with lastTimestamp := noted.timestamp, outcomes := m.outcomes ++ [noted] }, [])
  else (m, m.outcomeErrors noted)

/-- The difference of the stamps is taken only when the completion does not precede the
start, so it does not wrap. -/
def recoveryErrors (request : RecoveryRequest) : List ValidationError :=
  (if !m.phase.terminal then
    [⟨.crossField, "$recovery", "LIF-RECOVERY-OUTSIDE-RUN",
      "recovery may begin only after lifecycle finalization"⟩] else []) ++
  (if request.policyId = "" ∨ request.actor = "" ∨ request.reason = "" ∨
      request.evidenceArtifactId = "" ∨ request.durationTicks = 0 then
    [⟨.missingField, "$recovery", "LIF-RECOVERY-EXPLICIT",
      "recovery policy, positive duration, actor, reason, and evidence are required"⟩]
    else []) ++
  (if request.startedAt < m.lastTimestamp ∨ request.completedAt < request.startedAt ∨
      request.completedAt - request.startedAt < request.durationTicks then
    [⟨.crossField, "$recovery/timestamps", "LIF-RECOVERY-DURATION",
      "recovery must occur after finalization and cover its explicit duration"⟩] else [])

def recoveryRecord (request : RecoveryRequest) : RecoveryRecord where
  policyId := request.policyId
  durationTicks := request.durationTicks
  startedAt := request.startedAt
  completedAt := request.completedAt
  actor := request.actor
  reason := request.reason
  evidenceArtifactId := request.evidenceArtifactId

def recordRecovery (request : RecoveryRequest) : RunStateMachine × List ValidationError :=
  if m.recoveryErrors request = [] then
    ({ m with
        lastTimestamp := request.completedAt
        recoveries := m.recoveries ++ [recoveryRecord request] }, [])
  else (m, m.recoveryErrors request)

/-! ### Sequences of calls -/

inductive Call where
  | transition (request : TransitionRequest)
  | outcome (noted : OutcomeAnnotation)
  | recovery (request : RecoveryRequest)
  deriving DecidableEq, Repr

def call : Call → RunStateMachine × List ValidationError
  | .transition request => m.transition request
  | .outcome noted => m.recordNonFailureOutcome noted
  | .recovery request => m.recordRecovery request

/-- The machine after these calls, whichever of them returned errors. -/
def run (m : RunStateMachine) : List Call → RunStateMachine
  | [] => m
  | c :: calls => (m.call c).1.run calls

end RunStateMachine

end CpuPrefetch.Lifecycle
