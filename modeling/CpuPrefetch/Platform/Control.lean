/-
Requests for a platform state: their validation, and the calls that apply and restore them.

The actuator is code of the caller.  What it answers may depend on every call it has had, so an
actuator is a function of the calls so far, and a run hands on the calls it has made.
-/
import CpuPrefetch.Platform.Inventory
import CpuPrefetch.Protocol.Records

namespace CpuPrefetch.Platform

open Protocol (Text ascii Placement RequestedHardwareState)

/-! ### Requests -/

inductive ControlKind where
  | producerAffinity
  | consumerAffinity
  | producerActualCpu
  | consumerActualCpu
  | sharedMemoryPolicy
  | producerPrivateMemoryPolicy
  | consumerPrivateMemoryPolicy
  | sharedPageResidency
  | privatePageResidency
  | basePageState
  | hugePageState
  | governor
  | fixedFrequency
  | turbo
  | cState
  | smt
  | interruptRouting
  | cpuIsolation
  | hardwarePrefetch
  | clockSource
  | microcode
  | firmware
  | compiler
  | binary
  | library
  deriving DecidableEq, Repr

inductive CapabilityStatus where
  | readOnly
  | externalAuthorityRequired
  | unavailable
  | mappingUnresolved
  deriving DecidableEq, Repr

structure Capability where
  kind : ControlKind
  status : CapabilityStatus
  detectionMechanism : String
  evidence : String
  kernelPrivilegeRequired : Bool
  deriving DecidableEq

inductive MemoryPolicy where
  | bindProducerNode
  | bindWorkerLocal
  | interleave
  | consumerLocal
  | replicated
  | migrated
  deriving DecidableEq, Repr

inductive PagePolicy where
  | verifiedBasePages
  | explicitHugePages
  | transparentHugePages
  deriving DecidableEq, Repr

structure PlacementRequest where
  placement : Placement
  producerCpu : UInt32
  consumerCpu : UInt32
  sharedMemoryPolicy : MemoryPolicy
  sharedMemoryNodes : List UInt32
  producerPrivateMemoryPolicy : MemoryPolicy
  producerPrivateNodes : List UInt32
  consumerPrivateMemoryPolicy : MemoryPolicy
  consumerPrivateNodes : List UInt32
  pagePolicy : PagePolicy
  requestedPageBytes : UInt64
  deriving DecidableEq

structure ControlRequest where
  controlId : Text
  kind : ControlKind
  target : Text
  requestedValue : Text
  mandatory : Bool
  mutating : Bool
  authorityId : Text
  actuationMechanism : Text
  verificationMechanism : Text
  deriving DecidableEq

structure RequestedState where
  requestId : Text
  inventorySnapshotId : Text
  stateEpoch : UInt64
  placement : PlacementRequest
  hardwarePrefetchState : RequestedHardwareState
  controls : List ControlRequest
  deriving DecidableEq

/-! ### Validation -/

def capabilityFor (capabilities : List Capability) (kind : ControlKind) : Option Capability :=
  capabilities.find? (·.kind = kind)

/-- `siblings`: two processors of one core. -/
def siblings (producer consumer : LogicalCpu) : Bool :=
  (producer.packageId = consumer.packageId && producer.coreId = consumer.coreId) ||
    consumer.logicalId ∈ producer.threadSiblings || producer.logicalId ∈ consumer.threadSiblings

def singletonNode (nodes : List UInt32) (expected : UInt32) : Bool := nodes = [expected]

/-- What the placement requires of two eligible processors. -/
def validatePair (inventory : PlatformInventory) (placement : Placement)
    (producer consumer : LogicalCpu) : List Error :=
  require (!siblings producer consumer)
    ⟨.siblingConflict, ascii "$request/placement", "PLT-NON-SMT-PAIR",
      "producer and consumer resolve to one physical core"⟩ ++
  match placement with
  | .near =>
      require (producer.numaNode = consumer.numaNode &&
          sameLastLevelCache inventory producer consumer)
        ⟨.numaMismatch, ascii "$request/placement", "PLT-NEAR",
          "NEAR requires one NUMA node and a shared last-level cache domain"⟩
  | .far =>
      require (producer.numaNode ≠ consumer.numaNode)
        ⟨.numaMismatch, ascii "$request/placement", "PLT-FAR",
          "FAR requires CPUs in different NUMA nodes"⟩
  | _ =>
      [⟨.invalidRequest, ascii "$request/placement/placement", "PLT-STAGE-A-PLACEMENT",
        "only NEAR and FAR are Stage A placements"⟩]

/-- Where the memory of two eligible processors must be. -/
def validateMemory (request : PlacementRequest) (producer consumer : LogicalCpu) : List Error :=
  require (request.sharedMemoryPolicy = .bindProducerNode &&
      singletonNode request.sharedMemoryNodes producer.numaNode)
    ⟨.numaMismatch, ascii "$request/placement/shared_memory", "PLT-PRODUCER-HOME",
      "Stage A shared queue, nodes, records, and schedule must be producer-home"⟩ ++
  require (request.producerPrivateMemoryPolicy = .bindWorkerLocal &&
      singletonNode request.producerPrivateNodes producer.numaNode)
    ⟨.numaMismatch, ascii "$request/placement/producer_private_memory", "PLT-PRODUCER-PRIVATE",
      "producer-private buffers must be producer-local"⟩ ++
  require (request.consumerPrivateMemoryPolicy = .bindWorkerLocal &&
      singletonNode request.consumerPrivateNodes consumer.numaNode)
    ⟨.numaMismatch, ascii "$request/placement/consumer_private_memory", "PLT-CONSUMER-PRIVATE",
      "consumer-private buffers must be consumer-local"⟩

def ineligible : Error :=
  ⟨.impossiblePlacement, ascii "$request/placement", "PLT-CPU-ELIGIBILITY",
    "producer and consumer must be distinct online CPUs"⟩

def validatePlacement (inventory : PlatformInventory) (request : PlacementRequest) : List Error :=
  match findCpu inventory request.producerCpu, findCpu inventory request.consumerCpu with
  | some producer, some consumer =>
      if !producer.online || !consumer.online || producer.logicalId = consumer.logicalId then
        [ineligible]
      else
        validatePair inventory request.placement producer consumer ++
          validateMemory request producer consumer
  | _, _ => [ineligible]

/-- One turn of the loop over the controls; `seen` are the identifiers of the turns before. -/
def validateControl (capabilities : List Capability) (seen : List Text) (control : ControlRequest) :
    List Error :=
  let path := ascii "$request/controls/" ++ control.controlId
  require (!(control.controlId.isEmpty || control.target.isEmpty ||
    control.requestedValue.isEmpty ||
      control.verificationMechanism.isEmpty))
    ⟨.invalidRequest, path, "PLT-CONTROL-FIELDS",
      "control identity, target, value, and readback are required"⟩ ++
  require (control.controlId ∉ seen)
    ⟨.invalidRequest, path, "PLT-CONTROL-UNIQUE", "control IDs must be unique within a request"⟩ ++
  require (!(control.mutating &&
      (control.authorityId.isEmpty || control.actuationMechanism.isEmpty)))
    ⟨.privilegeDenied, path, "PLT-AUTHORITY",
      "a mutating control requires explicit authority and actuation mechanism"⟩ ++
  require (!(control.mutating && control.actuationMechanism = control.verificationMechanism))
    ⟨.invalidRequest, path, "PLT-INDEPENDENT-READBACK",
      "actuation and verification mechanisms must be independently identified"⟩ ++
  require (match capabilityFor capabilities control.kind with
      | none => false
      | some capability =>
          !(capability.status = .unavailable || capability.status = .mappingUnresolved ||
            (control.mutating && capability.status = .readOnly)))
    ⟨.unsupportedControl, path, "PLT-CAPABILITY",
      "requested control lacks an established applicable capability"⟩

def validateControls (capabilities : List Capability) : List Text → List ControlRequest → List Error
  | _, [] => []
  | seen, control :: rest =>
      validateControl capabilities seen control ++
        validateControls capabilities (control.controlId :: seen) rest

def validateRequestedState (inventory : PlatformInventory) (capabilities : List Capability)
    (request : RequestedState) : List Error :=
  require (!request.requestId.isEmpty)
    ⟨.invalidRequest, ascii "$request/request_id", "PLT-REQUEST-ID",
      "request ID must not be empty"⟩ ++
  require (request.inventorySnapshotId = inventory.snapshotId)
    ⟨.staleState, ascii "$request/inventory_snapshot_id", "PLT-SNAPSHOT-BINDING",
      "request is not bound to this inventory snapshot"⟩ ++
  require (request.hardwarePrefetchState ≠ .notApplicable)
    ⟨.invalidRequest, ascii "$request/hardware_prefetch_state", "PLT-HWPF-STATE",
      "Stage A requires an explicit H0 or H1 request"⟩ ++
  validatePlacement inventory request.placement ++
  require (request.placement.pagePolicy = .verifiedBasePages &&
      request.placement.requestedPageBytes = inventory.basePageBytes)
    ⟨.invalidRequest, ascii "$request/placement/page_policy", "PLT-STAGE-A-PAGES",
      "Stage A requires the explicitly inventoried base-page policy; huge-page treatments are " ++
        "Stage C"⟩ ++
  validateControls capabilities [] request.controls ++
  require (request.controls.any (·.kind = .hardwarePrefetch))
    ⟨.missingEvidence, ascii "$request/controls", "PLT-HWPF-CONTROL",
      "H0/H1 requires an explicit hardware-prefetch control"⟩

/-! ### The actuator -/

inductive ApplyMode where
  | dryRun
  | authorizedApply
  deriving DecidableEq, Repr

inductive StepStatus where
  | planned
  | applied
  | applyFailed
  | verified
  | verificationFailed
  | stale
  | restored
  | restorationFailed
  deriving DecidableEq, Repr

structure StateObservation where
  controlId : Text
  inventorySnapshotId : Text
  stateEpoch : UInt64
  observedValue : Option Text
  evidenceId : Text
  mechanismId : Text
  deriving DecidableEq

structure BackendResult where
  succeeded : Bool
  evidenceId : Text
  detail : Text
  failureCategory : Option ErrorCategory
  deriving DecidableEq

inductive Operation where
  | apply (control : ControlRequest)
  | restore (control : ControlRequest) (priorState : StateObservation)
  deriving DecidableEq

/-- A call of the actuator, with its answer. -/
structure Call where
  operation : Operation
  result : BackendResult
  deriving DecidableEq

/-- `ControlActuator`: what it answers after these calls. -/
structure ControlActuator where
  backendId : Text
  answer : List Call → Operation → BackendResult

structure ApplyStep where
  controlId : Text
  status : StepStatus
  evidenceId : Text
  detail : Text
  deriving DecidableEq

structure RestorationReport where
  attempted : Bool
  complete : Bool
  steps : List ApplyStep
  errors : List Error
  deriving DecidableEq

structure ApplyReport where
  mode : ApplyMode
  complete : Bool
  steps : List ApplyStep
  restoration : RestorationReport
  errors : List Error
  deriving DecidableEq

def observationFor (observations : List StateObservation) (controlId : Text) :
    Option StateObservation :=
  observations.find? (·.controlId = controlId)

/-! ### Restoring -/

/-- A control that is not restored because its pre-state was not recorded. -/
def RestorationReport.skipped (report : RestorationReport) (control : ControlRequest) :
    RestorationReport :=
  { report with
    complete := false
    steps := report.steps ++
      [⟨control.controlId, .restorationFailed, [], ascii "pre-state evidence is missing"⟩]
    errors := report.errors ++
      [⟨.restorationFailure, ascii "$restore/" ++ control.controlId, "PLT-RESTORE-PRESTATE",
        "cannot restore a changed control without its independently recorded pre-state"⟩] }

/-- A control for whose restoration the actuator was called. -/
def RestorationReport.answered (report : RestorationReport) (control : ControlRequest)
    (result : BackendResult) : RestorationReport :=
  { report with
    complete := report.complete && result.succeeded
    steps := report.steps ++
      [⟨control.controlId, if result.succeeded then .restored else .restorationFailed,
        result.evidenceId, result.detail⟩]
    errors := report.errors ++
      require result.succeeded
        ⟨.restorationFailure, ascii "$restore/" ++ control.controlId, "PLT-RESTORE-FAILED",
          "the actuator did not restore the recorded pre-state"⟩ }

/-- One turn of the loop of `restorePlatformState`. -/
def restoreControl (priorState : List StateObservation) (actuator : ControlActuator)
    (run : RestorationReport × List Call) (control : ControlRequest) :
    RestorationReport × List Call :=
  match observationFor priorState control.controlId with
  | none => (run.1.skipped control, run.2)
  | some prior =>
      if prior.observedValue.isNone then (run.1.skipped control, run.2)
      else
        let result := actuator.answer run.2 (.restore control prior)
        (run.1.answered control result, run.2 ++ [⟨.restore control prior, result⟩])

def restorePlatformState (appliedControls : List ControlRequest)
    (priorState : List StateObservation) (actuator : ControlActuator) (calls : List Call) :
    RestorationReport × List Call :=
  appliedControls.reverse.foldl (restoreControl priorState actuator)
    (⟨!appliedControls.isEmpty, true, [], []⟩, calls)

/-! ### Applying -/

/-- The report at a control that stops the run. -/
def ApplyReport.stopped (report : ApplyReport) (step : ApplyStep) (error : Error) : ApplyReport :=
  { report with
    complete := false
    steps := report.steps ++ [step]
    errors := report.errors ++ [error] }

def ApplyReport.step (report : ApplyReport) (step : ApplyStep) : ApplyReport :=
  { report with steps := report.steps ++ [step] }

/-- The end of a run that stops: what was applied is restored. -/
def rollBack (applied : List ControlRequest) (priorState : List StateObservation)
    (actuator : ControlActuator) (report : ApplyReport) (calls : List Call) :
    ApplyReport × List Call :=
  let restoration := restorePlatformState applied priorState actuator calls
  ({ report with restoration := restoration.1 }, restoration.2)

/-- The loop of `applyRequestedState` over the controls, with those applied so far. -/
def applyControls (priorState : List StateObservation) (actuator : ControlActuator) :
    List ControlRequest → List ControlRequest → ApplyReport → List Call → ApplyReport × List Call
  | [], _, report, calls => (report, calls)
  | control :: rest, applied, report, calls =>
      if !control.mutating then
        applyControls priorState actuator rest applied
          (report.step ⟨control.controlId, .planned, [], ascii "observation-only control"⟩) calls
      else if (observationFor priorState control.controlId).isNone then
        rollBack applied priorState actuator
          (report.stopped
            ⟨control.controlId, .applyFailed, [], ascii "pre-state evidence is missing"⟩
            ⟨.missingEvidence, ascii "$apply/" ++ control.controlId, "PLT-APPLY-PRESTATE",
              "mutation is forbidden without fresh pre-state evidence"⟩)
          calls
      else
        let result := actuator.answer calls (.apply control)
        let calls := calls ++ [⟨.apply control, result⟩]
        if !result.succeeded then
          rollBack applied priorState actuator
            (report.stopped ⟨control.controlId, .applyFailed, result.evidenceId, result.detail⟩
              ⟨result.failureCategory.getD .applyFailure, ascii "$apply/" ++ control.controlId,
                "PLT-APPLY-FAILED", "actuator reported a failed control operation"⟩)
            calls
        else
          applyControls priorState actuator rest (applied ++ [control])
            (report.step ⟨control.controlId, .applied, result.evidenceId, result.detail⟩) calls

def plannedStep (control : ControlRequest) : ApplyStep :=
  ⟨control.controlId, .planned, [],
    ascii (if control.mutating then "mutation not executed" else "observation-only control")⟩

/-- The report, and the calls of the actuator that were made for it. -/
def applyRequestedState (request : RequestedState) (priorState : List StateObservation)
    (mode : ApplyMode) (actuator : Option ControlActuator) : ApplyReport × List Call :=
  let report : ApplyReport := ⟨mode, true, [], ⟨false, true, [], []⟩, []⟩
  match mode with
  | .dryRun => ({ report with steps := request.controls.map plannedStep }, [])
  | .authorizedApply =>
      let unauthorized : ApplyReport × List Call :=
        ({ report with
            complete := false
            errors := [⟨.privilegeDenied, ascii "$apply", "PLT-ACTUATOR-AUTHORITY",
              "authorized apply requires an explicitly identified actuator backend"⟩] }, [])
      match actuator with
      | none => unauthorized
      | some actuator =>
          if actuator.backendId.isEmpty then unauthorized
          else applyControls priorState actuator request.controls [] report []

end CpuPrefetch.Platform
