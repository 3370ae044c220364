/-
Admission of a run: its document is loaded, its fields are checked against the trust anchor, and
the files that its evidence names are hashed.

The loader goes on after an error, with an empty value in the place of one that is missing or of
another type, and fails at the end if it found any.
-/
import CpuPrefetch.Lifecycle.Executor
import CpuPrefetch.Protocol.LoadBlock
import CpuPrefetch.Protocol.Semantic

namespace CpuPrefetch.Runner

open Lifecycle (ExecutionLimits)
open Protocol
open Protocol.Json (CharConv Object Value)

def kAdmissionSchemaVersion : Text := ascii "cpu-prefetch-runner-admission/1"
def kRunnerProfileId : Text := ascii "STAGE17-STATIC-FIVE-PACKAGE-FAIL-CLOSED-v1"
def kCpuPairSelectionId : Text := ascii "XEON-CPU-FETCH-P0-NEAR-0-1-FAR-0-26-v1"
def kRelaxMappingId : Text := ascii "X86-PAUSE-ONE-PER-RELAX-SITE-v1"

structure WorkerPair where
  producerCpu : UInt32
  consumerCpu : UInt32
  deriving DecidableEq, Repr

def kNearWorkerPair : WorkerPair := ⟨0, 1⟩
def kFarWorkerPair : WorkerPair := ⟨0, 26⟩

def selectedWorkerPair : Placement → WorkerPair
  | .near => kNearWorkerPair
  | .far => kFarWorkerPair
  | _ => ⟨0xffffffff, 0xffffffff⟩

inductive EvidenceKind where
  | protocolSnapshot
  | sourceRelease
  | runPlan
  | warmupSchedule
  | measurementSchedule
  | seedDerivation
  | platformInventory
  | platformRequest
  | platformVerification
  | hardwarePrefetchMapping
  | clockQualification
  | queueProvenance
  | runtimeAtomicLayout
  | addressResidency
  | storageBudget
  | durabilityDomains
  | calibrationFreeze
  | executionLimits
  | authorityCustody
  | pilotExecutionAuthorization
  deriving DecidableEq, Repr

def kRequiredEvidenceKinds : List EvidenceKind :=
  [.protocolSnapshot, .sourceRelease, .runPlan, .warmupSchedule, .measurementSchedule,
    .seedDerivation, .platformInventory, .platformRequest, .platformVerification,
    .hardwarePrefetchMapping, .clockQualification, .queueProvenance, .runtimeAtomicLayout,
    .addressResidency, .storageBudget, .durabilityDomains, .calibrationFreeze, .executionLimits,
    .authorityCustody, .pilotExecutionAuthorization]

def EvidenceKind.toString : EvidenceKind → String
  | .protocolSnapshot => "PROTOCOL_SNAPSHOT"
  | .sourceRelease => "SOURCE_RELEASE"
  | .runPlan => "RUN_PLAN"
  | .warmupSchedule => "WARMUP_SCHEDULE"
  | .measurementSchedule => "MEASUREMENT_SCHEDULE"
  | .seedDerivation => "SEED_DERIVATION"
  | .platformInventory => "PLATFORM_INVENTORY"
  | .platformRequest => "PLATFORM_REQUEST"
  | .platformVerification => "PLATFORM_VERIFICATION"
  | .hardwarePrefetchMapping => "HARDWARE_PREFETCH_MAPPING"
  | .clockQualification => "CLOCK_QUALIFICATION"
  | .queueProvenance => "QUEUE_PROVENANCE"
  | .runtimeAtomicLayout => "RUNTIME_ATOMIC_LAYOUT"
  | .addressResidency => "ADDRESS_RESIDENCY"
  | .storageBudget => "STORAGE_BUDGET"
  | .durabilityDomains => "DURABILITY_DOMAINS"
  | .calibrationFreeze => "CALIBRATION_FREEZE"
  | .executionLimits => "EXECUTION_LIMITS"
  | .authorityCustody => "AUTHORITY_CUSTODY"
  | .pilotExecutionAuthorization => "PILOT_EXECUTION_AUTHORIZATION"

def parseEvidenceKind (value : Text) (path : String) : Result EvidenceKind :=
  match kRequiredEvidenceKinds.find? fun kind => ascii kind.toString = value with
  | some kind => .ok kind
  | none => .error [⟨.unknownEnum, path, "RUN-EVIDENCE-KIND", "unknown runner evidence kind"⟩]

structure EvidenceReference where
  kind : EvidenceKind
  artifactId : Text
  path : Text
  sha256 : Text
  bindingId : Text
  immutable : Bool
  eligible : Bool
  deriving DecidableEq

structure RunnerAdmission where
  schemaVersion : Text
  protocolVersion : Text
  runnerProfileId : Text
  cpuPairSelectionId : Text
  relaxMappingId : Text
  sourceRevision : Text
  binarySha256 : Text
  standId : Text
  bindingId : Text
  package : QueuePackage
  placement : Placement
  workers : WorkerPair
  executionLimits : ExecutionLimits
  evidence : List EvidenceReference
  deriving DecidableEq

structure AdmissionTrustAnchor where
  sourceRevision : Text
  binarySha256 : Text
  standId : Text
  bindingId : Text
  sourceDirty : Bool
  deriving DecidableEq

structure AdmissionTicket where
  package : QueuePackage
  placement : Placement
  workers : WorkerPair
  executionLimits : ExecutionLimits
  bindingId : Text
  deriving DecidableEq

/-! ### Loading -/

/-- What is read of a part of the document, and the errors found in it. -/
abbrev Loading (T : Type) := Writer (List ValidationError) T

def report (category : ErrorCategory) (path rule message : String) : Loading Unit :=
  tell [⟨category, path, rule, message⟩]

def objectOf (value : Value) (path : String) : Loading (Option Object) :=
  match value with
  | .object members => pure (some members)
  | _ => do
      report .invalidType path "RUN-TYPE" "value must be an object"
      pure none

def field (object : Object) (name path : String) : Loading (Option Value) :=
  match Object.find (ascii name) object with
  | some value => pure (some value)
  | none => do
      report .missingField (path ++ "/" ++ name) "RUN-REQUIRED" "required field is missing"
      pure none

def rejectUnknown (object : Object) (accepted : List String) (path : String) : Loading Unit :=
  tell ((object.filter fun member => member.1 ∉ accepted.map ascii).map fun member =>
    ⟨.unknownField, path ++ "/" ++ member.1.shown, "RUN-UNKNOWN", "unknown field is forbidden"⟩)

def stringField (object : Object) (name path : String) : Loading Text := do
  match ← field object name path with
  | none => pure []
  | some (.string text) => pure text
  | some _ =>
      report .invalidType (path ++ "/" ++ name) "RUN-STRING" "field must be a string"
      pure []

def boolField (object : Object) (name path : String) : Loading Bool := do
  match ← field object name path with
  | none => pure false
  | some (.boolean flag) => pure flag
  | some _ =>
      report .invalidType (path ++ "/" ++ name) "RUN-BOOLEAN" "field must be a boolean"
      pure false

def uintField (object : Object) (name path : String) : Loading UInt64 := do
  match ← field object name path with
  | none => pure 0
  | some (.number (.unsignedInteger _ number)) => pure number
  | some _ =>
      report .invalidType (path ++ "/" ++ name) "RUN-U64"
        "field must be an exact unsigned integer"
      pure 0

/-- A parsed value, or this one in its place when there is none. -/
def orDefault {T : Type} (parsed : Result T) (default : T) : Loading T :=
  match parsed with
  | .ok value => pure value
  | .error errors => do
      tell errors
      pure default

/-- `protocol::parse_enum_value`. -/
def parseEnumValue {E : Type} (text : Text) (path rule : String) (values : List (String × E)) :
    Result E :=
  match values.find? fun entry => ascii entry.1 = text with
  | some entry => .ok entry.2
  | none => .error [⟨.unknownEnum, path, rule, "unknown enum value: " ++ text.shown⟩]

variable (root : Object)

def readPackage : Loading QueuePackage := do
  let text ← stringField root "package" "$"
  if text.isEmpty then pure .notApplicable
  else orDefault (parseEnumValue text "$/package" "DAT-PACKAGE" Load.queuePackages) .notApplicable

def readPlacement : Loading Placement := do
  let text ← stringField root "placement" "$"
  if text.isEmpty then pure .notApplicable
  else orDefault (parseEnumValue text "$/placement" "DAT-PLACEMENT" Load.placements) .notApplicable

def readWorkers : Loading WorkerPair := do
  let producerCpu ← uintField root "producer_cpu" "$"
  let consumerCpu ← uintField root "consumer_cpu" "$"
  if producerCpu > 0xffffffff || consumerCpu > 0xffffffff then
    report .outOfRange "$/producer_cpu" "RUN-CPU-U32" "worker CPU must fit uint32"
    pure ⟨0, 0⟩
  else pure ⟨producerCpu.toUInt32, consumerCpu.toUInt32⟩

def limitFields : List String :=
  ["controller_start_poll_limit", "worker_start_poll_limit", "producer_due_poll_limit_per_arrival",
    "consumer_empty_poll_limit_before_finish", "drain_poll_limit"]

def readLimits : Loading ExecutionLimits := do
  match ← field root "execution_limits" "$" with
  | none => pure ⟨0, 0, 0, 0, 0⟩
  | some value =>
      match ← objectOf value "$/execution_limits" with
      | none => pure ⟨0, 0, 0, 0, 0⟩
      | some limits =>
          rejectUnknown limits limitFields "$/execution_limits"
          pure
            { controllerStartPollLimit :=
                ← uintField limits "controller_start_poll_limit" "$/execution_limits"
              workerStartPollLimit :=
                ← uintField limits "worker_start_poll_limit" "$/execution_limits"
              producerDuePollLimitPerArrival :=
                ← uintField limits "producer_due_poll_limit_per_arrival" "$/execution_limits"
              consumerEmptyPollLimitBeforeFinish :=
                ← uintField limits "consumer_empty_poll_limit_before_finish" "$/execution_limits"
              drainPollLimit := ← uintField limits "drain_poll_limit" "$/execution_limits" }

def evidenceFields : List String :=
  ["kind", "artifact_id", "path", "sha256", "binding_id", "immutable", "eligible"]

/-- One turn of the loop over the evidence; an item that has no kind is left out. -/
def readReference (value : Value) (path : String) : Loading (Option EvidenceReference) := do
  match ← objectOf value path with
  | none => pure none
  | some item =>
      rejectUnknown item evidenceFields path
      let kindText ← stringField item "kind" path
      match parseEvidenceKind kindText (path ++ "/kind") with
      | .error errors =>
          tell errors
          pure none
      | .ok kind =>
          pure <| some
            { kind
              artifactId := ← stringField item "artifact_id" path
              path := ← stringField item "path" path
              sha256 := ← stringField item "sha256" path
              bindingId := ← stringField item "binding_id" path
              immutable := ← boolField item "immutable" path
              eligible := ← boolField item "eligible" path }

/-- The loop over the evidence, from this index on. -/
def readReferences : Nat → List Value → Loading (List EvidenceReference)
  | _, [] => pure []
  | index, value :: rest => do
      let reference ← readReference value ("$/evidence/" ++ ToString.toString index)
      let references ← readReferences (index + 1) rest
      pure (reference.toList ++ references)

def readEvidence : Loading (List EvidenceReference) := do
  match ← field root "evidence" "$" with
  | none => pure []
  | some (.array items) => readReferences 0 items
  | some _ =>
      report .invalidType "$/evidence" "RUN-ARRAY" "evidence must be an array"
      pure []

def rootFields : List String :=
  ["schema_version", "protocol_version", "runner_profile_id", "cpu_pair_selection_id",
    "relax_mapping_id", "source_revision", "binary_sha256", "stand_id", "binding_id", "package",
    "placement", "producer_cpu", "consumer_cpu", "execution_limits", "evidence"]

def readAdmission : Loading RunnerAdmission := do
  rejectUnknown root rootFields "$"
  pure
    { schemaVersion := ← stringField root "schema_version" "$"
      protocolVersion := ← stringField root "protocol_version" "$"
      runnerProfileId := ← stringField root "runner_profile_id" "$"
      cpuPairSelectionId := ← stringField root "cpu_pair_selection_id" "$"
      relaxMappingId := ← stringField root "relax_mapping_id" "$"
      sourceRevision := ← stringField root "source_revision" "$"
      binarySha256 := ← stringField root "binary_sha256" "$"
      standId := ← stringField root "stand_id" "$"
      bindingId := ← stringField root "binding_id" "$"
      package := ← readPackage root
      placement := ← readPlacement root
      workers := ← readWorkers root
      executionLimits := ← readLimits root
      evidence := ← readEvidence root }

def loadAdmission (conv : CharConv) (document : Text) : Result RunnerAdmission := do
  let parsed ← Json.parse conv document
  match (objectOf parsed "$").run.run with
  | (none, errors) => .error errors
  | (some root, errors) =>
      let (admission, found) := (readAdmission root).run.run
      let errors := errors ++ found
      if errors.isEmpty then .ok admission else .error errors

/-! ### The fields -/

def supportedPackage (package : QueuePackage) : Bool :=
  package = .r0 || package = .r1 || package = .r2 || package = .l0 || package = .l1

def requireNonempty (value : Text) (path rule : String) : List ValidationError :=
  require (!value.isEmpty)
    ⟨.missingField, path, rule, "current admission identity must be nonempty"⟩

def exact (observed expected : Text) (path rule : String) : List ValidationError :=
  require (observed = expected)
    ⟨.referenceMismatch, path, rule, "value does not match the accepted/current binding"⟩

/-- The checks of one reference, after those with these kinds and identifiers. -/
def validateReference (bindingId : Text) (observedKinds : List EvidenceKind)
    (artifactIds : List Text) (reference : EvidenceReference) (path : String) :
    List ValidationError :=
  require (reference.kind ∉ observedKinds)
      ⟨.duplicateValue, path ++ "/kind", "RUN-EVIDENCE-UNIQUE",
        "each required evidence kind must appear exactly once"⟩ ++
    require (!reference.artifactId.isEmpty && reference.artifactId ∉ artifactIds)
      ⟨.duplicateValue, path ++ "/artifact_id", "RUN-ARTIFACT-UNIQUE",
        "artifact IDs must be nonempty and unique"⟩ ++
    require (!reference.path.isEmpty)
      ⟨.missingField, path ++ "/path", "RUN-EVIDENCE-PATH", "evidence path must be explicit"⟩ ++
    require (Load.parseSha256 reference.sha256 (path ++ "/sha256")).isOk
      ⟨.invalidHash, path ++ "/sha256", "RUN-EVIDENCE-SHA256",
        "evidence SHA-256 must be lowercase hexadecimal"⟩ ++
    require (reference.bindingId = bindingId)
      ⟨.referenceMismatch, path ++ "/binding_id", "RUN-EVIDENCE-STALE",
        "evidence is not bound to the current admission epoch"⟩ ++
    require reference.immutable
      ⟨.immutableConfiguration, path ++ "/immutable", "RUN-EVIDENCE-IMMUTABLE",
        "mutable evidence cannot arm the runner"⟩ ++
    require reference.eligible
      ⟨.missingEvidence, path ++ "/eligible", "RUN-EVIDENCE-ELIGIBLE",
        "unresolved or ineligible evidence cannot arm the runner"⟩

/-- The loop over the evidence, from this index on: its errors, and the kinds that it observed. -/
def validateReferences (bindingId : Text) (observedKinds : List EvidenceKind)
    (artifactIds : List Text) :
    Nat → List EvidenceReference → List ValidationError × List EvidenceKind
  | _, [] => ([], observedKinds)
  | index, reference :: rest =>
      let errors := validateReference bindingId observedKinds artifactIds reference
        ("$/evidence/" ++ ToString.toString index)
      let artifactIds :=
        if reference.artifactId.isEmpty then artifactIds
        else artifactIds.insert reference.artifactId
      let (others, kinds) :=
        validateReferences bindingId (observedKinds.insert reference.kind) artifactIds (index + 1)
          rest
      (errors ++ others, kinds)

def validateWorkers (placement : Placement) (workers : WorkerPair) : List ValidationError :=
  if placement ≠ .near && placement ≠ .far then
    [⟨.unknownEnum, "$/placement", "RUN-PLACEMENT",
      "only the accepted NEAR and FAR placements are supported"⟩]
  else
    require (workers = selectedWorkerPair placement)
      ⟨.referenceMismatch, "$/producer_cpu", "RUN-CPU-PAIR",
        "worker CPUs do not match the Q13 placement pair"⟩

def validateEvidence (admission : RunnerAdmission) : List ValidationError :=
  let (errors, observedKinds) := validateReferences admission.bindingId [] [] 0 admission.evidence
  errors ++ kRequiredEvidenceKinds.flatMap fun required =>
    require (required ∈ observedKinds)
      ⟨.missingEvidence, "$/evidence", "RUN-EVIDENCE-COMPLETE",
        "missing required evidence kind " ++ required.toString⟩

def validateAdmissionFields (admission : RunnerAdmission) (trustAnchor : AdmissionTrustAnchor) :
    List ValidationError :=
  exact admission.schemaVersion kAdmissionSchemaVersion "$/schema_version" "RUN-SCHEMA" ++
    exact admission.protocolVersion kProtocolVersion "$/protocol_version" "RUN-PROTOCOL" ++
    exact admission.runnerProfileId kRunnerProfileId "$/runner_profile_id" "RUN-PROFILE" ++
    exact admission.cpuPairSelectionId kCpuPairSelectionId "$/cpu_pair_selection_id"
      "RUN-CPU-PROFILE" ++
    exact admission.relaxMappingId kRelaxMappingId "$/relax_mapping_id" "RUN-RELAX" ++
    requireNonempty admission.sourceRevision "$/source_revision" "RUN-SOURCE-EMPTY" ++
    requireNonempty admission.standId "$/stand_id" "RUN-STAND-EMPTY" ++
    requireNonempty admission.bindingId "$/binding_id" "RUN-BINDING-EMPTY" ++
    require (Load.parseSha256 admission.binarySha256 "$/binary_sha256").isOk
      ⟨.invalidHash, "$/binary_sha256", "RUN-BINARY-SHA256",
        "binary SHA-256 must be lowercase hexadecimal"⟩ ++
    exact admission.sourceRevision trustAnchor.sourceRevision "$/source_revision" "RUN-SOURCE" ++
    exact admission.binarySha256 trustAnchor.binarySha256 "$/binary_sha256" "RUN-BINARY" ++
    exact admission.standId trustAnchor.standId "$/stand_id" "RUN-STAND" ++
    exact admission.bindingId trustAnchor.bindingId "$/binding_id" "RUN-BINDING" ++
    require (!trustAnchor.sourceDirty)
      ⟨.missingEvidence, "$/source_revision", "RUN-DIRTY-SOURCE",
        "a dirty-source build cannot receive an admission ticket"⟩ ++
    require (supportedPackage admission.package)
      ⟨.unknownEnum, "$/package", "RUN-PACKAGE", "only the five Stage A packages are supported"⟩ ++
    validateWorkers admission.placement admission.workers ++
    require (!admission.executionLimits.invalid)
      ⟨.missingEvidence, "$/execution_limits", "RUN-LIMITS",
        "all five prospectively accepted limits must be nonzero"⟩ ++
    validateEvidence admission

/-! ### The files -/

/-- What a path names: the bytes of a regular file, or a symbolic link. -/
inductive FileEntry where
  | regular (bytes : Text)
  | symlink (target : Text)
  deriving DecidableEq

/-- The entries of a file system, by the paths that its calls are given. -/
abbrev FileSystem := Text → Option FileEntry

/-- The path that a system call is given ends at its first zero byte. -/
def nativePath (path : Text) : Text := path.takeWhile (· ≠ 0)

/-- `path::operator/`, of a path that is not absolute. -/
def joinedPath (parent path : Text) : Text :=
  if parent.isEmpty || parent.getLast? = some 47 then parent ++ path else parent ++ 47 :: path

def isAbsolute (path : Text) : Bool := path.head? = some 47

/-- The loop over the buffers of a file: what it has digested, and what it has not read. -/
def digestBuffers : Nat → Text → Text → Text
  | 0, digested, _ => digested
  | turns + 1, digested, bytes =>
      digestBuffers turns (digested ++ bytes.take (64 * 1024)) (bytes.drop (64 * 1024))

/-- A file has no more buffers than bytes. -/
def sha256File (sha256 : Text → Sha256) (files : FileSystem) (path : Text) : Result Text :=
  match files (nativePath path) with
  | some (.regular bytes) => .ok (sha256 (digestBuffers bytes.length [] bytes)).hex
  | _ =>
      .error [⟨.missingEvidence, "$file", "RUN-FILE-REGULAR",
        "evidence must be an existing non-symlink regular file"⟩]

def resolved (manifestParent path : Text) : Text :=
  if isAbsolute path then path else joinedPath manifestParent path

def verifyEvidenceFile (sha256 : Text → Sha256) (files : FileSystem) (manifestParent : Text)
    (reference : EvidenceReference) (index : Nat) : List ValidationError :=
  let path := "$/evidence/" ++ ToString.toString index ++ "/path"
  match sha256File sha256 files (resolved manifestParent reference.path) with
  | .error _ =>
      [⟨.missingEvidence, path, "RUN-EVIDENCE-FILE", "evidence artifact is absent or unreadable"⟩]
  | .ok digest =>
      require (digest = reference.sha256)
        ⟨.referenceMismatch, path, "RUN-EVIDENCE-HASH",
          "evidence bytes do not match the declared SHA-256"⟩

def verifyEvidenceFiles (sha256 : Text → Sha256) (files : FileSystem) (manifestParent : Text)
    (admission : RunnerAdmission) : List ValidationError :=
  admission.evidence.zipIdx.flatMap fun reference =>
    verifyEvidenceFile sha256 files manifestParent reference.1 reference.2

def admitRunner (sha256 : Text → Sha256) (files : FileSystem) (admission : RunnerAdmission)
    (trustAnchor : AdmissionTrustAnchor) (manifestParent : Text) : Result AdmissionTicket :=
  let errors := validateAdmissionFields admission trustAnchor ++
    verifyEvidenceFiles sha256 files manifestParent admission
  if errors.isEmpty then
    .ok ⟨admission.package, admission.placement, admission.workers, admission.executionLimits,
      admission.bindingId⟩
  else .error errors

end CpuPrefetch.Runner
