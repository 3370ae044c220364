/-
Emitted platform records are read back.

The loader reads from an emitted document what the inventory and the context gave to it.  It asks
one thing that the emitter does not: no compiler flag may be the empty text.  The record-local
rules ask two more: neither the cache line nor the base page may have no bytes.
-/
import CpuPrefetch.Orchestration.BlockPlanning
import CpuPrefetch.Proofs.Platform.CheckedRecords
import CpuPrefetch.Proofs.Platform.Snapshots
import CpuPrefetch.Protocol.LoadPlatform

namespace CpuPrefetch.Platform

open Protocol hiding Result ErrorCategory require
open Protocol.Json (CharConv HasForm IsUtf8 Object Value)
open Protocol.Load

variable {conv : CharConv} {sha256 : Text → Sha256} {context : ProtocolPlatformContext}
  {inventory : PlatformInventory} {artifact : ProtocolPlatformArtifact}

/-! ### Parts of the document -/

variable {key : String}

section Parts

variable {members : List (Text × Value)} {names allowed : List String} {path : String}

theorem Named.rejectUnknown (h : Named members names)
    (hallowed : ∀ key ∈ names.map ascii, key ∈ allowed.map ascii) :
    rejectUnknown (Object.of members) allowed path = .ok () :=
  rejectUnknown_of h.nodup (by rw [h.1]; exact hallowed)

/-- The value at a place of the members, under its name. -/
theorem Named.required {value : Value} (h : Named members names) (place : Nat)
    (hplace : members[place]? = some (ascii key, value)) :
    Load.required (Object.of members) key path = .ok value := by
  rw [Load.required, Protocol.Json.find_at h.nodup place hplace]

theorem Named.string {key : String} {text : Text} (h : Named members names) (place : Nat)
    (hplace : members[place]? = some (ascii key, .string text)) (hne : text ≠ []) :
    stringField (Object.of members) key path = .ok text :=
  stringField_of (Protocol.Json.find_at h.nodup place hplace) hne

theorem Named.uint {value : UInt64} (h : Named members names) (place : Nat)
    (hplace : members[place]? = some (ascii key, uintValue value)) :
    uintField (Object.of members) key path = .ok value :=
  uintField_of (Protocol.Json.find_at h.nodup place hplace)

theorem Named.boolean {flag : Bool} (h : Named members names) (place : Nat)
    (hplace : members[place]? = some (ascii key, .boolean flag)) :
    boolField (Object.of members) key path = .ok flag := by
  rw [boolField, h.required place hplace]
  rfl

theorem Named.identifier {tag : IdentifierTag} (id : Identifier tag) (h : Named members names)
    (place : Nat) (hplace : members[place]? = some (ascii key, .string id.value)) :
    identifierField tag (Object.of members) key path = .ok id :=
  identifierField_of (Protocol.Json.find_at h.nodup place hplace)

theorem Named.unit {text : Text} (h : Named members names) (place : Nat)
    (hplace : members[place]? = some (ascii key, .string text)) (hne : text ≠ []) :
    unitField (Object.of members) key path = .ok text := by
  have hread : field (fun value path => stringOf value path true) (Object.of members) key path =
      .ok text := by
    refine field_of (Protocol.Json.find_at h.nodup place hplace) ?_
    rw [stringOf, Bool.not_true, Bool.false_and, if_neg Bool.false_ne_true]
  simp only [unitField, hread, bind, Except.bind]
  rw [if_neg (by simpa using hne)]

end Parts

/-- Texts are read back as they are, as long as none of them is empty. -/
theorem texts_read {values read : List Text} {path : String} {index : Nat} :
    elements (fun value path => stringOf value path) path index (values.map Value.string) =
        .ok read ↔ read = values ∧ ∀ value ∈ values, value ≠ [] := by
  induction values generalizing index read with
  | nil => simp [elements, eq_comm]
  | cons value rest ih =>
      rw [List.map_cons, elements, List.forall_mem_cons]
      by_cases hvalue : value = []
      · simp [hvalue, stringOf, fail, bind, Except.bind]
      · rw [stringOf_of hvalue]
        simp only [bind, Except.bind]
        constructor
        · intro h
          split at h
          · cases h
          · rename_i others hothers
            obtain rfl := Except.ok.inj h
            obtain ⟨rfl, hrest⟩ := ih.mp hothers
            exact ⟨rfl, hvalue, hrest⟩
        · rintro ⟨rfl, -, hrest⟩
          rw [ih.mpr ⟨rfl, hrest⟩]

theorem stringArray_iff {values read : List Text} {path : String} {requireNonempty : Bool} :
    Load.stringArray (Platform.stringArray values) path requireNonempty = .ok read ↔
      read = values ∧ (∀ value ∈ values, value ≠ []) ∧ (requireNonempty = true → values ≠ []) := by
  simp only [Load.stringArray, Platform.stringArray, arrayOf, bind, Except.bind]
  cases requireNonempty with
  | false =>
      rw [if_neg (by simp), texts_read]
      simp
  | true =>
      cases values with
      | nil => simp [fail]
      | cons value rest =>
          rw [if_neg (by simp), texts_read]
          simp

theorem corePair_of {members : List (Text × Value)} {names : List String} {pair : UInt32 × UInt32}
    (h : Named members names) (place : Nat)
    (hplace : members[place]? = some (ascii key, pairValue pair)) :
    corePair (Object.of members) key = .ok (pair.1.toUInt64, pair.2.toUInt64) := by
  simp only [corePair, h.required place hplace, bind, Except.bind]
  rfl

/-! ### What is read -/

def describedClock (h : Checked context inventory) : PlatformClock :=
  ⟨context.clock.source, context.clock.timeUnit, ⟨context.clock.conversionRecordId, h.conversion⟩,
    ⟨context.clock.serializationRecordId, h.serialization⟩,
    ⟨context.clock.acceptanceRecordId, h.acceptance⟩⟩

def describedState (state : HardwarePrefetchEvidence) (h : CompleteState state) :
    HardwareStateDocument :=
  ⟨⟨state.requested, state.verified⟩, ⟨state.readbackArtifactId, h.readback⟩,
    ⟨state.behavioralProbeArtifactId, h.probe⟩, ⟨state.privilegedAuthorityId, h.authority⟩⟩

def describedCpu (cpu : CpuIdentity) : CpuDocument :=
  ⟨cpu.vendor, cpu.model, cpu.stepping, cpu.microcode,
    ⟨cpu.cacheLineBytes, cpu.atomicWidthBits, cpu.atomicAlignmentBytes⟩⟩

def describedTopology (context : ProtocolPlatformContext) (inventory : PlatformInventory) :
    TopologyDocument :=
  ⟨⟨.ofNat (packages inventory).length, .ofNat inventory.numaNodes.length,
      .ofNat (physicalCores inventory).length⟩,
    smtEnabled inventory, inventory.cacheDomains.map (·.domainId),
    (context.nearCorePair.1.toUInt64, context.nearCorePair.2.toUInt64),
    (context.farCorePair.1.toUInt64, context.farCorePair.2.toUInt64)⟩

def describedSoftware (context : ProtocolPlatformContext) (software : SoftwareIdentity) :
    PlatformSoftware :=
  ⟨software.operatingSystem, software.kernel, software.compiler, software.standardLibrary,
    software.languageStandard, context.compilerFlags, context.linkMode⟩

theorem Checked.first (h : Checked context inventory) :
    CompleteState context.hardwarePrefetchStates.1 :=
  h.states _ List.mem_cons_self

theorem Checked.second (h : Checked context inventory) :
    CompleteState context.hardwarePrefetchStates.2 :=
  h.states _ (List.mem_cons_of_mem _ List.mem_cons_self)

/-- The platform that an emitted document describes. -/
def describedPlatform (h : Checked context inventory) (digest : Sha256) : PlatformDocument :=
  ⟨.v200pre2, .v200pre2, ⟨context.platformId, h.platformId⟩, describedCpu inventory.cpu,
    describedTopology context inventory,
    ⟨context.memoryPopulation, ⟨inventory.basePageBytes⟩, context.residencyVerificationMethod⟩,
    describedSoftware context inventory.software, describedClock h,
    [describedState _ h.first, describedState _ h.second], digest,
    .object (Object.of (recordMembers context inventory digest.hex))⟩

theorem requestedText_read {state : RequestedHardwareState} (h : state ≠ .notApplicable) :
    ascii (requestedText state) ≠ [] ∧
      (requestedHardwareStates.find? fun entry => ascii entry.1 = ascii (requestedText state)).map
        Prod.snd = some state := by
  cases state with
  | h0 => decide
  | h1 => decide
  | notApplicable => exact absurd rfl h

theorem verifiedText_read {state : VerifiedHardwareState} (h : state ≠ .notApplicable) :
    ascii (verifiedText state) ≠ [] ∧
      (verifiedHardwareStates.find? fun entry => ascii entry.1 = ascii (verifiedText state)).map
        Prod.snd = some state := by
  cases state with
  | verifiedDefault => decide
  | verifiedChanged => decide
  | verificationFailed => decide
  | unknown => decide
  | notApplicable => exact absurd rfl h

theorem platformHardwareState_of {state : HardwarePrefetchEvidence} (h : CompleteState state)
    (path : String) :
    platformHardwareState (.object (Object.of (hardwareStateMembers state))) path =
      .ok (describedState state h) := by
  have hstate := hardwareState_named state
  have hreject : rejectUnknown (Object.of (hardwareStateMembers state))
      ["requested", "verified", "readback_artifact_id", "behavioral_probe_artifact_id",
        "privileged_authority_id"] path = .ok () :=
    hstate.rejectUnknown (by decide)
  obtain ⟨hrequestedNe, hrequested⟩ := requestedText_read h.requested
  obtain ⟨hverifiedNe, hverified⟩ := verifiedText_read h.verified
  simp only [platformHardwareState, objectOf, bind, Except.bind, hreject,
    enumField_of (Protocol.Json.find_at hstate.nodup 3 rfl) hrequestedNe hrequested,
    enumField_of (Protocol.Json.find_at hstate.nodup 4 rfl) hverifiedNe hverified,
    hstate.identifier (⟨_, h.readback⟩ : ArtifactId) 2 rfl,
    hstate.identifier (⟨_, h.probe⟩ : ArtifactId) 0 rfl,
    hstate.identifier (⟨_, h.authority⟩ : AuthorityId) 1 rfl]
  rfl

section Readers

variable (h : Checked context inventory) (digest : Text)

include h

theorem platformCpu_of : platformCpu (Object.of (recordMembers context inventory digest)) =
    .ok (describedCpu inventory.cpu) := by
  have hcpu := cpu_named inventory.cpu
  have hreject : rejectUnknown (Object.of (cpuMembers inventory.cpu))
      ["vendor", "model", "stepping", "microcode", "cache_line_bytes", "atomic_width_bits",
        "atomic_alignment_bytes"] "$out/cpu" = .ok () :=
    hcpu.rejectUnknown (by decide)
  simp only [platformCpu, (record_named context inventory digest).required 1 rfl, objectOf, bind,
    Except.bind, hreject, hcpu.string 6 rfl h.vendor, hcpu.string 4 rfl h.model,
    hcpu.string 5 rfl h.stepping, hcpu.string 3 rfl h.microcode, hcpu.uint 2 rfl, hcpu.uint 1 rfl,
    hcpu.uint 0 rfl]
  rfl

theorem platformTopology_of (hdomains : ∀ domain ∈ inventory.cacheDomains, domain.domainId ≠ []) :
    platformTopology (Object.of (recordMembers context inventory digest)) =
      .ok (describedTopology context inventory) := by
  have htopology := topology_named context inventory
  have hreject : rejectUnknown (Object.of (topologyMembers context inventory))
      ["sockets", "numa_nodes", "physical_cores", "smt_enabled", "cache_domains", "near_core_pair",
        "far_core_pair"] "$out/topology" = .ok () :=
    htopology.rejectUnknown (by decide)
  have hread : Load.stringArray (Platform.stringArray (inventory.cacheDomains.map (·.domainId)))
      "$out/topology/cache_domains" true = .ok (inventory.cacheDomains.map (·.domainId)) :=
    stringArray_iff.mpr ⟨rfl, List.forall_mem_map.mpr hdomains, fun _ => by simpa using h.caches⟩
  simp only [platformTopology, (record_named context inventory digest).required 9 rfl, objectOf,
    bind, Except.bind, hreject, htopology.uint 6 rfl, htopology.uint 3 rfl, htopology.uint 4 rfl,
    htopology.boolean 5 rfl, htopology.required 0 rfl, hread, corePair_of htopology 2 rfl,
    corePair_of htopology 1 rfl]
  rfl

theorem platformMemory_of : platformMemory (Object.of (recordMembers context inventory digest)) =
    .ok ⟨context.memoryPopulation, ⟨inventory.basePageBytes⟩,
      context.residencyVerificationMethod⟩ := by
  have hmemory := memory_named context inventory
  have hreject : rejectUnknown (Object.of (memoryMembers context inventory))
      ["population", "base_page_bytes", "residency_verification_method"] "$out/memory" = .ok () :=
    hmemory.rejectUnknown (by decide)
  simp only [platformMemory, (record_named context inventory digest).required 3 rfl, objectOf, bind,
    Except.bind, hreject, hmemory.string 1 rfl h.population, hmemory.uint 0 rfl,
    hmemory.string 2 rfl h.residency]

/-- Whether the software is read hangs on the compiler flags alone. -/
theorem platformSoftware_of (hsoftware : NamedSoftware inventory.software) :
    platformSoftware (Object.of (recordMembers context inventory digest)) =
      (Load.stringArray (Platform.stringArray context.compilerFlags) "$out/software/flags"
        false).map fun flags =>
          { describedSoftware context inventory.software with flags := flags } := by
  have hprogram := software_named context inventory.software
  have hreject : rejectUnknown (Object.of (softwareMembers context inventory.software))
      ["operating_system", "kernel", "compiler", "standard_library", "language_standard", "flags",
        "link_mode"] "$out/software" = .ok () :=
    hprogram.rejectUnknown (by decide)
  simp only [platformSoftware, (record_named context inventory digest).required 8 rfl, objectOf,
    bind, Except.bind, hreject, hprogram.string 5 rfl hsoftware.operatingSystem,
    hprogram.string 2 rfl hsoftware.kernel, hprogram.string 0 rfl hsoftware.compiler,
    hprogram.string 6 rfl hsoftware.standardLibrary,
    hprogram.string 3 rfl hsoftware.languageStandard, hprogram.required 1 rfl,
    hprogram.string 4 rfl h.linkMode]
  cases Load.stringArray (Platform.stringArray context.compilerFlags) "$out/software/flags"
    false <;> rfl

theorem platformClock_of : platformClock (Object.of (recordMembers context inventory digest)) =
    .ok (describedClock h) := by
  have hclock := clock_named context.clock
  have hreject : rejectUnknown (Object.of (clockMembers context.clock))
      ["source", "time_unit", "conversion_record_id", "serialization_record_id",
        "acceptance_record_id"] "$out/clock" = .ok () :=
    hclock.rejectUnknown (by decide)
  simp only [platformClock, (record_named context inventory digest).required 0 rfl, objectOf, bind,
    Except.bind, hreject, hclock.string 3 rfl h.source, hclock.unit 4 rfl h.timeUnit,
    hclock.identifier (⟨_, h.conversion⟩ : RecordId) 1 rfl,
    hclock.identifier (⟨_, h.serialization⟩ : RecordId) 2 rfl,
    hclock.identifier (⟨_, h.acceptance⟩ : RecordId) 0 rfl]
  rfl

theorem platformStates_of : platformStates (Object.of (recordMembers context inventory digest)) =
    .ok [describedState _ h.first, describedState _ h.second] := by
  simp only [platformStates, (record_named context inventory digest).required 2 rfl, arrayOf, bind,
    Except.bind, ProtocolPlatformContext.states, List.map_cons, List.map_nil, elements,
    platformHardwareState_of h.first, platformHardwareState_of h.second]
  rfl

end Readers

/-- A platform with other compiler flags. -/
def withFlags (platform : PlatformDocument) (flags : List Text) : PlatformDocument :=
  { platform with software := { platform.software with flags := flags } }

theorem withFlags_described (h : Checked context inventory) (digest : Sha256) :
    withFlags (describedPlatform h digest) context.compilerFlags = describedPlatform h digest := rfl

/-- The loader's answer hangs on the compiler flags alone. -/
theorem loadPlatform_record (h : Checked context inventory)
    (hsoftware : NamedSoftware inventory.software)
    (hdomains : ∀ domain ∈ inventory.cacheDomains, domain.domainId ≠ []) (digest : Sha256) :
    loadPlatform (.object (Object.of (recordMembers context inventory digest.hex))) =
      (Load.stringArray (Platform.stringArray context.compilerFlags) "$out/software/flags"
        false).map (withFlags (describedPlatform h digest)) := by
  have hrecord := record_named context inventory digest.hex
  have hreject : rejectUnknown (Object.of (recordMembers context inventory digest.hex))
      platformFields "$out" = .ok () :=
    hrecord.rejectUnknown (by decide)
  simp only [loadPlatform, objectOf, bind, Except.bind, hreject, platformCpu_of h,
    platformTopology_of h _ hdomains, platformMemory_of h, platformSoftware_of h _ hsoftware,
    platformClock_of h, platformStates_of h,
    versionField_of (Protocol.Json.find_at hrecord.nodup 7 rfl),
    versionField_of (Protocol.Json.find_at hrecord.nodup 5 rfl),
    hrecord.identifier (⟨_, h.platformId⟩ : PlatformId) 4 rfl,
    shaField_of (Protocol.Json.find_at hrecord.nodup 6 rfl)]
  cases Load.stringArray (Platform.stringArray context.compilerFlags) "$out/software/flags"
    false <;> rfl

end CpuPrefetch.Platform
