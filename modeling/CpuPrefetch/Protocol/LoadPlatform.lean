/-
Loading a platform record from its JSON document.

The record-local rules read only some fields of a platform (`PlatformRecord`); the loader reads
them all.
-/
import CpuPrefetch.Protocol.LoadBlock
import CpuPrefetch.Protocol.Rules

namespace CpuPrefetch.Protocol

structure PlatformClock where
  source : Text
  timeUnit : Text
  conversionRecordId : RecordId
  serializationRecordId : RecordId
  acceptanceRecordId : RecordId
  deriving DecidableEq

structure CpuDocument where
  vendor : Text
  model : Text
  stepping : Text
  microcode : Text
  quantities : PlatformCpu
  deriving DecidableEq

structure TopologyDocument where
  quantities : PlatformTopology
  smtEnabled : Bool
  cacheDomains : List Text
  nearCorePair : UInt64 × UInt64
  farCorePair : UInt64 × UInt64
  deriving DecidableEq

structure MemoryDocument where
  population : Text
  quantities : PlatformMemory
  residencyVerificationMethod : Text
  deriving DecidableEq

structure PlatformSoftware where
  operatingSystem : Text
  kernel : Text
  compiler : Text
  standardLibrary : Text
  languageStandard : Text
  flags : List Text
  linkMode : Text
  deriving DecidableEq

/-- A hardware state with the artifacts behind it. -/
structure HardwareStateDocument where
  state : RequestedAndVerifiedHardwareState
  readbackArtifactId : ArtifactId
  behavioralProbeArtifactId : ArtifactId
  privilegedAuthorityId : AuthorityId
  deriving DecidableEq

/-- A platform with every field of its document. -/
structure PlatformDocument where
  schemaVersion : ProtocolVersion
  protocolVersion : ProtocolVersion
  platformId : PlatformId
  cpu : CpuDocument
  topology : TopologyDocument
  memory : MemoryDocument
  software : PlatformSoftware
  clock : PlatformClock
  hardwarePrefetchStates : List HardwareStateDocument
  recordSha256 : Sha256
  sourceDocument : Json.Value

/-- What the record-local rules read of a platform. -/
def PlatformDocument.record (document : PlatformDocument) : PlatformRecord where
  schemaVersion := document.schemaVersion
  protocolVersion := document.protocolVersion
  platformId := document.platformId
  cpu := document.cpu.quantities
  topology := document.topology.quantities
  memory := document.memory.quantities
  hardwarePrefetchStates := document.hardwarePrefetchStates.map (·.state)

namespace Load

open Json (Value Object)

def verifiedHardwareStates : List (String × VerifiedHardwareState) :=
  [("VERIFIED_DEFAULT", .verifiedDefault), ("VERIFIED_CHANGED", .verifiedChanged),
    ("VERIFICATION_FAILED", .verificationFailed), ("UNKNOWN", .unknown),
    ("NOT_APPLICABLE", .notApplicable)]

def stringArray (value : Value) (path : String) (requireNonempty : Bool) : Result (List Text) := do
  let values ← arrayOf value path
  if requireNonempty && values.isEmpty then
    fail .outOfRange path "SCHEMA-MIN-ITEMS" "array must contain at least one item"
  else elements (fun value path => stringOf value path) path 0 values

/-- `pair`: the two processors under a key of the topology. -/
def corePair (topology : Object) (key : String) : Result (UInt64 × UInt64) := do
  let value ← required topology key "$out/topology"
  let values ← arrayOf value ("$out/topology/" ++ key)
  match values with
  | [first, second] =>
      let first ← uintOf first ("$out/topology/" ++ key ++ "/0")
      let second ← uintOf second ("$out/topology/" ++ key ++ "/1")
      .ok (first, second)
  | _ =>
      fail .outOfRange ("$out/topology/" ++ key) "PLATFORM-CORE-PAIR"
        "core pair requires exactly two CPU identifiers"

variable (object : Object)

def platformCpu : Result CpuDocument := do
  let value ← required object "cpu" "$out"
  let cpu ← objectOf value "$out/cpu"
  rejectUnknown cpu
    ["vendor", "model", "stepping", "microcode", "cache_line_bytes", "atomic_width_bits",
      "atomic_alignment_bytes"] "$out/cpu"
  let vendor ← stringField cpu "vendor" "$out/cpu"
  let model ← stringField cpu "model" "$out/cpu"
  let stepping ← stringField cpu "stepping" "$out/cpu"
  let microcode ← stringField cpu "microcode" "$out/cpu"
  let cacheLineBytes ← uintField cpu "cache_line_bytes" "$out/cpu"
  let atomicWidthBits ← uintField cpu "atomic_width_bits" "$out/cpu"
  let atomicAlignmentBytes ← uintField cpu "atomic_alignment_bytes" "$out/cpu"
  .ok ⟨vendor, model, stepping, microcode, ⟨cacheLineBytes, atomicWidthBits, atomicAlignmentBytes⟩⟩

def platformTopology : Result TopologyDocument := do
  let value ← required object "topology" "$out"
  let topology ← objectOf value "$out/topology"
  rejectUnknown topology
    ["sockets", "numa_nodes", "physical_cores", "smt_enabled", "cache_domains", "near_core_pair",
      "far_core_pair"] "$out/topology"
  let sockets ← uintField topology "sockets" "$out/topology"
  let numaNodes ← uintField topology "numa_nodes" "$out/topology"
  let physicalCores ← uintField topology "physical_cores" "$out/topology"
  let smtEnabled ← boolField topology "smt_enabled" "$out/topology"
  let value ← required topology "cache_domains" "$out/topology"
  let cacheDomains ← stringArray value "$out/topology/cache_domains" true
  let nearCorePair ← corePair topology "near_core_pair"
  let farCorePair ← corePair topology "far_core_pair"
  .ok ⟨⟨sockets, numaNodes, physicalCores⟩, smtEnabled, cacheDomains, nearCorePair, farCorePair⟩

def platformMemory : Result MemoryDocument := do
  let value ← required object "memory" "$out"
  let memory ← objectOf value "$out/memory"
  rejectUnknown memory ["population", "base_page_bytes", "residency_verification_method"]
    "$out/memory"
  let population ← stringField memory "population" "$out/memory"
  let basePageBytes ← uintField memory "base_page_bytes" "$out/memory"
  let residency ← stringField memory "residency_verification_method" "$out/memory"
  .ok ⟨population, ⟨basePageBytes⟩, residency⟩

def platformSoftware : Result PlatformSoftware := do
  let value ← required object "software" "$out"
  let software ← objectOf value "$out/software"
  rejectUnknown software
    ["operating_system", "kernel", "compiler", "standard_library", "language_standard", "flags",
      "link_mode"] "$out/software"
  let operatingSystem ← stringField software "operating_system" "$out/software"
  let kernel ← stringField software "kernel" "$out/software"
  let compiler ← stringField software "compiler" "$out/software"
  let standardLibrary ← stringField software "standard_library" "$out/software"
  let languageStandard ← stringField software "language_standard" "$out/software"
  let value ← required software "flags" "$out/software"
  let flags ← stringArray value "$out/software/flags" false
  let linkMode ← stringField software "link_mode" "$out/software"
  .ok ⟨operatingSystem, kernel, compiler, standardLibrary, languageStandard, flags, linkMode⟩

def platformClock : Result PlatformClock := do
  let value ← required object "clock" "$out"
  let clock ← objectOf value "$out/clock"
  rejectUnknown clock
    ["source", "time_unit", "conversion_record_id", "serialization_record_id",
      "acceptance_record_id"] "$out/clock"
  let source ← stringField clock "source" "$out/clock"
  let timeUnit ← unitField clock "time_unit" "$out/clock"
  let conversion ← identifierField .record clock "conversion_record_id" "$out/clock"
  let serialization ← identifierField .record clock "serialization_record_id" "$out/clock"
  let acceptance ← identifierField .record clock "acceptance_record_id" "$out/clock"
  .ok ⟨source, timeUnit, conversion, serialization, acceptance⟩

def platformHardwareState (value : Value) (path : String) :
    Result HardwareStateDocument := do
  let state ← objectOf value path
  rejectUnknown state
    ["requested", "verified", "readback_artifact_id", "behavioral_probe_artifact_id",
      "privileged_authority_id"] path
  let requested ← enumField state "requested" path "HWP-REQUESTED" requestedHardwareStates
  let verified ← enumField state "verified" path "HWP-VERIFIED" verifiedHardwareStates
  let readback ← identifierField .artifact state "readback_artifact_id" path
  let probe ← identifierField .artifact state "behavioral_probe_artifact_id" path
  let authority ← identifierField .authority state "privileged_authority_id" path
  .ok ⟨⟨requested, verified⟩, readback, probe, authority⟩

def platformStates : Result (List HardwareStateDocument) := do
  let value ← required object "hardware_prefetch_states" "$out"
  let states ← arrayOf value "$out/hardware_prefetch_states"
  if states.length < 2 then
    fail .outOfRange "$out/hardware_prefetch_states" "HWP-STATE-COUNT"
      "platform record requires at least two requested hardware states"
  else elements platformHardwareState "$out/hardware_prefetch_states" 0 states

def platformFields : List String :=
  ["schema_version", "protocol_version", "platform_id", "cpu", "topology", "memory", "software",
    "clock", "hardware_prefetch_states", "record_sha256"]

def loadPlatform (document : Value) : Result PlatformDocument := do
  let object ← objectOf document "$out"
  rejectUnknown object platformFields "$out"
  let cpu ← platformCpu object
  let topology ← platformTopology object
  let memory ← platformMemory object
  let software ← platformSoftware object
  let clock ← platformClock object
  let states ← platformStates object
  let schemaVersion ← versionField object "schema_version" "$out"
  let protocolVersion ← versionField object "protocol_version" "$out"
  let platformId ← identifierField .platform object "platform_id" "$out"
  let recordSha256 ← shaField object "record_sha256" "$out"
  .ok ⟨schemaVersion, protocolVersion, platformId, cpu, topology, memory, software, clock, states,
    recordSha256, document⟩

/-- `ScientificConfiguration::load` of a platform document. -/
def loadPlatformConfiguration (conv : Json.CharConv) (text : Text) : Result PlatformDocument := do
  let document ← Json.parse conv text
  let platform ← loadPlatform document
  match validateRecord (.platform platform.record) with
  | [] => .ok platform
  | errors => .error errors

end Load

end CpuPrefetch.Protocol
