/-
The platform record of the protocol, written for an inventory.

The digest is OpenSSL's, so `sha256` is a parameter, as is the spelling of binary64 numbers.
The record names the evidence kept elsewhere by identifiers that the caller supplies.
-/
import CpuPrefetch.Platform.Control

namespace CpuPrefetch.Platform

open Protocol (Text ascii decimal Sha256 kProtocolVersion RequestedHardwareState
  VerifiedHardwareState)
open Protocol.Json (CharConv Object Value)

structure ClockEvidenceReferences where
  source : Text
  timeUnit : Text
  conversionRecordId : Text
  serializationRecordId : Text
  acceptanceRecordId : Text
  deriving DecidableEq

structure HardwarePrefetchEvidence where
  requested : RequestedHardwareState
  verified : VerifiedHardwareState
  readbackArtifactId : Text
  behavioralProbeArtifactId : Text
  privilegedAuthorityId : Text
  deriving DecidableEq

/-- The array of two hardware states is a pair. -/
structure ProtocolPlatformContext where
  platformId : Text
  nearCorePair : UInt32 × UInt32
  farCorePair : UInt32 × UInt32
  memoryPopulation : Text
  residencyVerificationMethod : Text
  compilerFlags : List Text
  linkMode : Text
  clock : ClockEvidenceReferences
  hardwarePrefetchStates : HardwarePrefetchEvidence × HardwarePrefetchEvidence
  deriving DecidableEq

structure ProtocolPlatformArtifact where
  canonicalJson : Text
  recordSha256 : Text
  hardwareStatesVerified : Bool
  deriving DecidableEq

variable (context : ProtocolPlatformContext)

def ProtocolPlatformContext.states : List HardwarePrefetchEvidence :=
  [context.hardwarePrefetchStates.1, context.hardwarePrefetchStates.2]

/-! ### What is checked -/

def requireText (value : Text) (path ruleId : String) : List Error :=
  require (!value.isEmpty) ⟨.manifestIncomplete, ascii path, ruleId, "required value is empty"⟩

/-- Two processors of an inventory are distinct, and not of one core. -/
def physicallyDistinct (left right : LogicalCpu) : Bool :=
  left.logicalId ≠ right.logicalId &&
    !(left.packageId = right.packageId && left.coreId = right.coreId)

variable (inventory : PlatformInventory)

def nearPairAccepted (pair : UInt32 × UInt32) : Bool :=
  match findCpu inventory pair.1, findCpu inventory pair.2 with
  | some left, some right =>
      physicallyDistinct left right && left.numaNode = right.numaNode &&
        sameLastLevelCache inventory left right
  | _, _ => false

def farPairAccepted (pair : UInt32 × UInt32) : Bool :=
  match findCpu inventory pair.1, findCpu inventory pair.2 with
  | some left, some right => physicallyDistinct left right && left.numaNode ≠ right.numaNode
  | _, _ => false

def hardwareStateErrors (index : Nat) (state : HardwarePrefetchEvidence) : List Error :=
  require (!(state.requested = .notApplicable || state.verified = .notApplicable ||
      state.readbackArtifactId.isEmpty || state.behavioralProbeArtifactId.isEmpty ||
      state.privilegedAuthorityId.isEmpty))
    ⟨.manifestIncomplete, ascii "$platform/hardware_prefetch_states/" ++ decimal index,
      "PLT-PROTOCOL-HWPF",
      "each H0/H1 state needs explicit verification disposition and evidence IDs"⟩

def recordErrors : List Error :=
  requireText context.platformId "$platform/platform_id" "PLT-PROTOCOL-ID" ++
  requireText context.memoryPopulation "$platform/memory/population" "PLT-PROTOCOL-MEMORY" ++
  requireText context.residencyVerificationMethod
    "$platform/memory/residency_verification_method" "PLT-PROTOCOL-RESIDENCY" ++
  requireText context.linkMode "$platform/software/link_mode" "PLT-PROTOCOL-LINK" ++
  requireText context.clock.source "$platform/clock/source" "PLT-PROTOCOL-CLOCK" ++
  requireText context.clock.timeUnit "$platform/clock/time_unit" "PLT-PROTOCOL-CLOCK" ++
  requireText context.clock.conversionRecordId "$platform/clock/conversion_record_id"
    "PLT-PROTOCOL-CLOCK" ++
  requireText context.clock.serializationRecordId "$platform/clock/serialization_record_id"
    "PLT-PROTOCOL-CLOCK" ++
  requireText context.clock.acceptanceRecordId "$platform/clock/acceptance_record_id"
    "PLT-PROTOCOL-CLOCK" ++
  require (nearPairAccepted inventory context.nearCorePair)
    ⟨.impossiblePlacement, ascii "$platform/topology/near_core_pair", "PLT-PROTOCOL-NEAR",
      "near pair must be distinct physical cores in one NUMA/LLC domain"⟩ ++
  require (farPairAccepted inventory context.farCorePair)
    ⟨.impossiblePlacement, ascii "$platform/topology/far_core_pair", "PLT-PROTOCOL-FAR",
      "far pair must be distinct physical cores in different NUMA nodes"⟩ ++
  hardwareStateErrors 0 context.hardwarePrefetchStates.1 ++
  hardwareStateErrors 1 context.hardwarePrefetchStates.2 ++
  require (context.states.any (·.requested = .h0) && context.states.any (·.requested = .h1))
    ⟨.manifestIncomplete, ascii "$platform/hardware_prefetch_states", "PLT-PROTOCOL-HWPF-PAIR",
      "platform record requires one H0 and one H1 state"⟩ ++
  require (!(inventory.cpu.vendor.isEmpty || inventory.cpu.model.isEmpty ||
      inventory.cpu.stepping.isEmpty || inventory.cpu.microcode.isEmpty ||
      inventory.logicalCpus.length < 2 || inventory.cacheDomains.isEmpty ||
      inventory.numaNodes.isEmpty))
    ⟨.manifestIncomplete, ascii "$platform/inventory", "PLT-PROTOCOL-INVENTORY",
      "imported platform fields require complete inventory"⟩

/-! ### What is written -/

def uintValue (value : UInt64) : Value := .number (.unsignedInteger (decimal value.toNat) value)

def stringValue (value : String) : Value := .string (ascii value)

def stringArray (values : List Text) : Value := .array (values.map Value.string)

def pairValue (pair : UInt32 × UInt32) : Value :=
  .array [uintValue pair.1.toUInt64, uintValue pair.2.toUInt64]

/-- The two states an accepted record requests. -/
def requestedText (state : RequestedHardwareState) : String := if state = .h0 then "H0" else "H1"

def verifiedText : VerifiedHardwareState → String
  | .verifiedDefault => "VERIFIED_DEFAULT"
  | .verifiedChanged => "VERIFIED_CHANGED"
  | .verificationFailed => "VERIFICATION_FAILED"
  | .unknown => "UNKNOWN"
  | .notApplicable => "UNKNOWN"

/-- The distinct pairs of a package and a core. -/
def physicalCores : List (UInt32 × UInt32) :=
  (inventory.logicalCpus.map fun cpu => (cpu.packageId, cpu.coreId)).dedup

def packages : List UInt32 :=
  (inventory.logicalCpus.map (·.packageId)).dedup

def smtEnabled : Bool :=
  inventory.logicalCpus.any (1 < ·.threadSiblings.length)

def clockMembers (clock : ClockEvidenceReferences) : List (Text × Value) :=
  [(ascii "acceptance_record_id", .string clock.acceptanceRecordId),
    (ascii "conversion_record_id", .string clock.conversionRecordId),
    (ascii "serialization_record_id", .string clock.serializationRecordId),
    (ascii "source", .string clock.source),
    (ascii "time_unit", .string clock.timeUnit)]

def cpuMembers (cpu : CpuIdentity) : List (Text × Value) :=
  [(ascii "atomic_alignment_bytes", uintValue cpu.atomicAlignmentBytes),
    (ascii "atomic_width_bits", uintValue cpu.atomicWidthBits),
    (ascii "cache_line_bytes", uintValue cpu.cacheLineBytes),
    (ascii "microcode", .string cpu.microcode),
    (ascii "model", .string cpu.model),
    (ascii "stepping", .string cpu.stepping),
    (ascii "vendor", .string cpu.vendor)]

def hardwareStateMembers (state : HardwarePrefetchEvidence) : List (Text × Value) :=
  [(ascii "behavioral_probe_artifact_id", .string state.behavioralProbeArtifactId),
    (ascii "privileged_authority_id", .string state.privilegedAuthorityId),
    (ascii "readback_artifact_id", .string state.readbackArtifactId),
    (ascii "requested", stringValue (requestedText state.requested)),
    (ascii "verified", stringValue (verifiedText state.verified))]

def memoryMembers : List (Text × Value) :=
  [(ascii "base_page_bytes", uintValue inventory.basePageBytes),
    (ascii "population", .string context.memoryPopulation),
    (ascii "residency_verification_method", .string context.residencyVerificationMethod)]

def softwareMembers (software : SoftwareIdentity) : List (Text × Value) :=
  [(ascii "compiler", .string software.compiler),
    (ascii "flags", stringArray context.compilerFlags),
    (ascii "kernel", .string software.kernel),
    (ascii "language_standard", .string software.languageStandard),
    (ascii "link_mode", .string context.linkMode),
    (ascii "operating_system", .string software.operatingSystem),
    (ascii "standard_library", .string software.standardLibrary)]

def topologyMembers : List (Text × Value) :=
  [(ascii "cache_domains", stringArray (inventory.cacheDomains.map (·.domainId))),
    (ascii "far_core_pair", pairValue context.farCorePair),
    (ascii "near_core_pair", pairValue context.nearCorePair),
    (ascii "numa_nodes", uintValue (.ofNat inventory.numaNodes.length)),
    (ascii "physical_cores", uintValue (.ofNat (physicalCores inventory).length)),
    (ascii "smt_enabled", .boolean (smtEnabled inventory)),
    (ascii "sockets", uintValue (.ofNat (packages inventory).length))]

def zeroDigest : Text := List.replicate 64 48

def recordMembers (recordSha256 : Text) : List (Text × Value) :=
  [(ascii "clock", .object (Object.of (clockMembers context.clock))),
    (ascii "cpu", .object (Object.of (cpuMembers inventory.cpu))),
    (ascii "hardware_prefetch_states",
      .array (context.states.map fun state => .object (Object.of (hardwareStateMembers state)))),
    (ascii "memory", .object (Object.of (memoryMembers context inventory))),
    (ascii "platform_id", .string context.platformId),
    (ascii "protocol_version", .string kProtocolVersion),
    (ascii "record_sha256", .string recordSha256),
    (ascii "schema_version", .string kProtocolVersion),
    (ascii "software", .object (Object.of (softwareMembers context inventory.software))),
    (ascii "topology", .object (Object.of (topologyMembers context inventory)))]

/-- A state that was set to what was requested, and read back so. -/
def stateVerified (state : HardwarePrefetchEvidence) : Bool :=
  (state.requested = .h0 && state.verified = .verifiedDefault) ||
    (state.requested = .h1 && state.verified = .verifiedChanged)

def notCanonical : List Error :=
  [⟨.manifestIncomplete, ascii "$platform", "PLT-PROTOCOL-CANONICAL",
    "canonical protocol-platform serialization failed"⟩]

def emitProtocolPlatformRecord (conv : CharConv) (sha256 : Text → Sha256)
    (context : ProtocolPlatformContext) (inventory : PlatformInventory) :
    Result ProtocolPlatformArtifact :=
  let errors := recordErrors context inventory
  if !errors.isEmpty then .error errors
  else
    let root := Object.of (recordMembers context inventory zeroDigest)
    match Protocol.Json.canonicalize conv (.object root) with
    | .error _ => .error notCanonical
    | .ok zeroed =>
        let recordHash := (sha256 zeroed).hex
        match Protocol.Json.canonicalize conv
            (.object (Object.assign (ascii "record_sha256") (.string recordHash) root)) with
        | .error _ => .error notCanonical
        | .ok canonical => .ok ⟨canonical, recordHash, context.states.all stateVerified⟩

end CpuPrefetch.Platform
