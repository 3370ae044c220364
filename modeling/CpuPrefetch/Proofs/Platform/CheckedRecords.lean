/-
Platform records that are emitted.

What the emitter checks, and the document it writes.  A record is emitted exactly when the checks
pass and the texts of the record are UTF-8.
-/
import CpuPrefetch.Platform.ProtocolRecord
import CpuPrefetch.Proofs.Protocol.Written

namespace CpuPrefetch.Platform

open List Protocol.Json
open Protocol (Text ascii decimal Sha256 kProtocolVersion RequestedHardwareState
  VerifiedHardwareState)
open Protocol.Json (CharConv HasForm IsUtf8 Object Value)

variable {conv : CharConv} {sha256 : Text → Sha256} {context : ProtocolPlatformContext}
  {inventory : PlatformInventory} {artifact : ProtocolPlatformArtifact}

/-! ### The checks -/

theorem require_eq_nil {holds : Bool} {error : Error} :
    require holds error = [] ↔ holds = true := by
  cases holds <;> simp [require]

theorem requireText_eq_nil {value : Text} {path ruleId : String} :
    requireText value path ruleId = [] ↔ value ≠ [] := by
  rw [requireText, require_eq_nil]
  simp

/-- A hardware state that is requested, verified, and has all its evidence. -/
structure CompleteState (state : HardwarePrefetchEvidence) : Prop where
  requested : state.requested ≠ .notApplicable
  verified : state.verified ≠ .notApplicable
  readback : state.readbackArtifactId ≠ []
  probe : state.behavioralProbeArtifactId ≠ []
  authority : state.privilegedAuthorityId ≠ []

theorem hardwareStateErrors_eq_nil {index : Nat} {state : HardwarePrefetchEvidence} :
    hardwareStateErrors index state = [] ↔ CompleteState state := by
  rw [hardwareStateErrors, require_eq_nil]
  simp only [Bool.not_eq_true', Bool.or_eq_false_iff, decide_eq_false_iff_not,
    isEmpty_eq_false_iff]
  constructor
  · rintro ⟨⟨⟨⟨hrequested, hverified⟩, hreadback⟩, hprobe⟩, hauthority⟩
    exact ⟨hrequested, hverified, hreadback, hprobe, hauthority⟩
  · rintro ⟨hrequested, hverified, hreadback, hprobe, hauthority⟩
    exact ⟨⟨⟨⟨hrequested, hverified⟩, hreadback⟩, hprobe⟩, hauthority⟩

/-- What the emitter has checked of a record. -/
structure Checked (context : ProtocolPlatformContext) (inventory : PlatformInventory) : Prop where
  platformId : context.platformId ≠ []
  population : context.memoryPopulation ≠ []
  residency : context.residencyVerificationMethod ≠ []
  linkMode : context.linkMode ≠ []
  source : context.clock.source ≠ []
  timeUnit : context.clock.timeUnit ≠ []
  conversion : context.clock.conversionRecordId ≠ []
  serialization : context.clock.serializationRecordId ≠ []
  acceptance : context.clock.acceptanceRecordId ≠ []
  near : nearPairAccepted inventory context.nearCorePair = true
  far : farPairAccepted inventory context.farCorePair = true
  states : ∀ state ∈ context.states, CompleteState state
  h0 : ∃ state ∈ context.states, state.requested = .h0
  h1 : ∃ state ∈ context.states, state.requested = .h1
  vendor : inventory.cpu.vendor ≠ []
  model : inventory.cpu.model ≠ []
  stepping : inventory.cpu.stepping ≠ []
  microcode : inventory.cpu.microcode ≠ []
  cpus : 2 ≤ inventory.logicalCpus.length
  caches : inventory.cacheDomains ≠ []
  nodes : inventory.numaNodes ≠ []

theorem recordErrors_eq_nil : recordErrors context inventory = [] ↔ Checked context inventory := by
  have hstates : (∀ state ∈ context.states, CompleteState state) ↔
      CompleteState context.hardwarePrefetchStates.1 ∧
        CompleteState context.hardwarePrefetchStates.2 := by
    simp [ProtocolPlatformContext.states]
  unfold recordErrors
  simp only [append_eq_nil_iff, requireText_eq_nil, hardwareStateErrors_eq_nil, require_eq_nil,
    Bool.and_eq_true, any_eq_true, decide_eq_true_eq, Bool.not_eq_true', Bool.or_eq_false_iff,
    decide_eq_false_iff_not, isEmpty_eq_false_iff, Nat.not_lt]
  constructor
  · rintro ⟨⟨⟨⟨⟨⟨⟨⟨⟨⟨⟨⟨⟨⟨hid, hpopulation⟩, hresidency⟩, hlink⟩, hsource⟩, hunit⟩, hconversion⟩,
      hserialization⟩, hacceptance⟩, hnear⟩, hfar⟩, hfirst⟩, hsecond⟩, h0, h1⟩,
      ⟨⟨⟨⟨⟨hvendor, hmodel⟩, hstepping⟩, hmicrocode⟩, hcpus⟩, hcaches⟩, hnodes⟩
    exact ⟨hid, hpopulation, hresidency, hlink, hsource, hunit, hconversion, hserialization,
      hacceptance, hnear, hfar, hstates.mpr ⟨hfirst, hsecond⟩, h0, h1, hvendor, hmodel, hstepping,
      hmicrocode, hcpus, hcaches, hnodes⟩
  · intro h
    obtain ⟨hfirst, hsecond⟩ := hstates.mp h.states
    exact ⟨⟨⟨⟨⟨⟨⟨⟨⟨⟨⟨⟨⟨⟨h.platformId, h.population⟩, h.residency⟩, h.linkMode⟩, h.source⟩,
      h.timeUnit⟩, h.conversion⟩, h.serialization⟩, h.acceptance⟩, h.near⟩, h.far⟩, hfirst⟩,
      hsecond⟩, h.h0, h.h1⟩,
      ⟨⟨⟨⟨⟨h.vendor, h.model⟩, h.stepping⟩, h.microcode⟩, h.cpus⟩, h.caches⟩, h.nodes⟩

/-! ### The document -/

/-- The members have these names, which are distinct texts of the source. -/
def Named (members : List (Text × Value)) (names : List String) : Prop :=
  members.map Prod.fst = names.map ascii ∧ (names.map ascii).Nodup ∧
    ((names.map ascii).all fun key => key.all fun byte => byte < 0x80) = true

theorem Named.nodup {members : List (Text × Value)} {names : List String}
    (h : Named members names) :
    (members.map Prod.fst).Nodup := by
  rw [h.1]
  exact h.2.1

theorem Named.hasForm {members : List (Text × Value)} {names : List String}
    (h : Named members names)
    (hvalues : ∀ value ∈ members.map Prod.snd, HasForm conv value) :
    HasForm conv (.object (Object.of members)) :=
  (hasForm_of h.nodup (by rw [h.1]; exact h.2.2)).mpr hvalues

theorem clock_named (clock : ClockEvidenceReferences) : Named (clockMembers clock)
    ["acceptance_record_id", "conversion_record_id", "serialization_record_id", "source",
      "time_unit"] :=
  ⟨rfl, by decide, by decide⟩

theorem cpu_named (cpu : CpuIdentity) : Named (cpuMembers cpu)
    ["atomic_alignment_bytes", "atomic_width_bits", "cache_line_bytes", "microcode", "model",
      "stepping", "vendor"] :=
  ⟨rfl, by decide, by decide⟩

theorem hardwareState_named (state : HardwarePrefetchEvidence) : Named (hardwareStateMembers state)
    ["behavioral_probe_artifact_id", "privileged_authority_id", "readback_artifact_id", "requested",
      "verified"] :=
  ⟨rfl, by decide, by decide⟩

theorem memory_named (context : ProtocolPlatformContext) (inventory : PlatformInventory) :
    Named (memoryMembers context inventory)
      ["base_page_bytes", "population", "residency_verification_method"] :=
  ⟨rfl, by decide, by decide⟩

theorem software_named (context : ProtocolPlatformContext) (software : SoftwareIdentity) :
    Named (softwareMembers context software)
      ["compiler", "flags", "kernel", "language_standard", "link_mode", "operating_system",
        "standard_library"] :=
  ⟨rfl, by decide, by decide⟩

theorem topology_named (context : ProtocolPlatformContext) (inventory : PlatformInventory) :
    Named (topologyMembers context inventory)
      ["cache_domains", "far_core_pair", "near_core_pair", "numa_nodes", "physical_cores",
        "smt_enabled", "sockets"] :=
  ⟨rfl, by decide, by decide⟩

theorem record_named (context : ProtocolPlatformContext) (inventory : PlatformInventory)
    (digest : Text) : Named (recordMembers context inventory digest)
      ["clock", "cpu", "hardware_prefetch_states", "memory", "platform_id", "protocol_version",
        "record_sha256", "schema_version", "software", "topology"] :=
  ⟨rfl, by decide, by decide⟩

/-- The digest's place in the record, whatever stands there. -/
theorem assign_recordSha256 (digest other : Text) :
    Object.assign (ascii "record_sha256") (.string other)
        (Object.of (recordMembers context inventory digest)) =
      Object.of (recordMembers context inventory other) := by
  have hsplit : ∀ written, recordMembers context inventory written =
      (recordMembers context inventory digest).take 6 ++
        (ascii "record_sha256", .string written) ::
          (recordMembers context inventory digest).drop 7 := fun _ => rfl
  have hkeys := (record_named context inventory digest).nodup
  rw [hsplit digest] at hkeys
  have hassign := assign_of (.string other) hkeys
  rw [← hsplit, ← hsplit] at hassign
  exact hassign

/-- The texts of a record that neither the schema nor the emitter fixes. -/
def recordTexts (context : ProtocolPlatformContext) (inventory : PlatformInventory) : List Text :=
  [context.platformId, context.memoryPopulation, context.residencyVerificationMethod,
    context.linkMode, context.clock.source, context.clock.timeUnit,
    context.clock.conversionRecordId, context.clock.serializationRecordId,
    context.clock.acceptanceRecordId, inventory.cpu.vendor, inventory.cpu.model,
    inventory.cpu.stepping, inventory.cpu.microcode, inventory.software.operatingSystem,
    inventory.software.kernel, inventory.software.compiler, inventory.software.standardLibrary,
    inventory.software.languageStandard] ++
  context.compilerFlags ++ inventory.cacheDomains.map (·.domainId) ++
  context.states.flatMap fun state =>
    [state.readbackArtifactId, state.behavioralProbeArtifactId, state.privilegedAuthorityId]

section Forms

theorem hasForm_literal {literal : String}
    (h : ((ascii literal).all fun byte => byte < 0x80) = true) :
    HasForm conv (stringValue literal) :=
  hasForm_string.mpr (isUtf8_ascii h)

theorem hasForm_uintValue (value : UInt64) : HasForm conv (uintValue value) := ⟨_, rfl⟩

theorem hasForm_pairValue (pair : UInt32 × UInt32) : HasForm conv (pairValue pair) := by
  refine hasForm_array.mpr ?_
  simp only [forall_mem_cons]
  exact ⟨hasForm_uintValue _, hasForm_uintValue _, by simp⟩

theorem hasForm_stringArray {values : List Text} (h : ∀ value ∈ values, IsUtf8 value) :
    HasForm conv (stringArray values) := by
  refine hasForm_array.mpr ?_
  rw [forall_mem_map]
  exact fun value hvalue => hasForm_string.mpr (h value hvalue)

theorem hasForm_hardwareState {state : HardwarePrefetchEvidence}
    (h : ∀ text ∈ [state.readbackArtifactId, state.behavioralProbeArtifactId,
      state.privilegedAuthorityId], IsUtf8 text) :
    HasForm conv (.object (Object.of (hardwareStateMembers state))) := by
  simp only [forall_mem_cons] at h
  refine (hardwareState_named state).hasForm ?_
  simp only [hardwareStateMembers, map_cons, map_nil, forall_mem_cons]
  refine ⟨hasForm_string.mpr h.2.1, hasForm_string.mpr h.2.2.1,
    hasForm_string.mpr h.1, hasForm_literal ?_, hasForm_literal ?_, by simp⟩
  · unfold requestedText
    split <;> decide
  · cases state.verified <;> decide

/-- A record whose texts are UTF-8 is written, whatever digest it holds. -/
theorem hasForm_record (h : ∀ text ∈ recordTexts context inventory, IsUtf8 text) {digest : Text}
    (hdigest : IsUtf8 digest) :
    HasForm conv (.object (Object.of (recordMembers context inventory digest))) := by
  simp only [recordTexts, forall_mem_append, forall_mem_cons, forall_mem_map,
    forall_mem_flatMap] at h
  obtain ⟨⟨⟨⟨hid, hpopulation, hresidency, hlink, hsource, hunit, hconversion, hserialization,
    hacceptance, hvendor, hmodel, hstepping, hmicrocode, hsystem, hkernel, hcompiler, hlibrary,
    hlanguage, -⟩, hflags⟩, hcaches⟩, hstates⟩ := h
  have hstring : ∀ {text : Text}, IsUtf8 text → HasForm conv (.string text) :=
    fun htext => hasForm_string.mpr htext
  have hversion : HasForm conv (.string kProtocolVersion) :=
    hstring (isUtf8_ascii (by decide))
  refine (record_named context inventory digest).hasForm ?_
  simp only [recordMembers, map_cons, map_nil, forall_mem_cons]
  refine ⟨?_, ?_, ?_, ?_, hstring hid, hversion, hstring hdigest, hversion, ?_, ?_, by simp⟩
  · refine (clock_named context.clock).hasForm ?_
    simp only [clockMembers, map_cons, map_nil, forall_mem_cons]
    exact ⟨hstring hacceptance, hstring hconversion, hstring hserialization, hstring hsource,
      hstring hunit, by simp⟩
  · refine (cpu_named inventory.cpu).hasForm ?_
    simp only [cpuMembers, map_cons, map_nil, forall_mem_cons]
    exact ⟨hasForm_uintValue _, hasForm_uintValue _, hasForm_uintValue _, hstring hmicrocode,
      hstring hmodel, hstring hstepping, hstring hvendor, by simp⟩
  · rw [hasForm_array, forall_mem_map]
    exact fun state hstate => hasForm_hardwareState (by simpa using hstates state hstate)
  · refine (memory_named context inventory).hasForm ?_
    simp only [memoryMembers, map_cons, map_nil, forall_mem_cons]
    exact ⟨hasForm_uintValue _, hstring hpopulation, hstring hresidency, by simp⟩
  · refine (software_named context inventory.software).hasForm ?_
    simp only [softwareMembers, map_cons, map_nil, forall_mem_cons]
    exact ⟨hstring hcompiler, hasForm_stringArray hflags, hstring hkernel, hstring hlanguage,
      hstring hlink, hstring hsystem, hstring hlibrary, by simp⟩
  · refine (topology_named context inventory).hasForm ?_
    simp only [topologyMembers, map_cons, map_nil, forall_mem_cons]
    refine ⟨hasForm_stringArray (by simpa using hcaches), hasForm_pairValue _, hasForm_pairValue _,
      hasForm_uintValue _, hasForm_uintValue _, ⟨_, rfl⟩, hasForm_uintValue _, by simp⟩

end Forms

/-! ### The emitter -/

/-- An emitted record passed the checks, and holds the digest of the record without it. -/
theorem emitted (h : emitProtocolPlatformRecord conv sha256 context inventory = .ok artifact) :
    Checked context inventory ∧ ∃ zeroed,
      canonicalize conv
        (.object (Object.of (recordMembers context inventory zeroDigest))) = .ok zeroed ∧
      artifact.recordSha256 = (sha256 zeroed).hex ∧
      canonicalize conv
        (.object (Object.of (recordMembers context inventory (sha256 zeroed).hex))) =
          .ok artifact.canonicalJson := by
  unfold emitProtocolPlatformRecord at h
  dsimp only at h
  split at h
  · cases h
  · rename_i hnone
    refine ⟨recordErrors_eq_nil.mp (by simpa using hnone), ?_⟩
    split at h
    · cases h
    · rename_i zeroed hzeroed
      split at h
      · cases h
      · rename_i canonical hcanonical
        rw [assign_recordSha256] at hcanonical
        obtain rfl := Except.ok.inj h
        exact ⟨zeroed, hzeroed, rfl, hcanonical⟩

/-- A checked record with UTF-8 texts is emitted. -/
theorem emits (hchecked : Checked context inventory)
    (hencoded : ∀ text ∈ recordTexts context inventory, IsUtf8 text) :
    ∃ artifact, emitProtocolPlatformRecord conv sha256 context inventory = .ok artifact := by
  obtain ⟨zeroed, hzeroed⟩ : HasForm conv
      (.object (Object.of (recordMembers context inventory zeroDigest))) :=
    hasForm_record hencoded (isUtf8_ascii (by decide))
  have hhex : IsUtf8 (sha256 zeroed).hex := by
    have hvalid := (sha256 zeroed).valid
    rw [Protocol.validSha256, Bool.and_eq_true, Protocol.lowercaseHex] at hvalid
    refine isUtf8_ascii (List.all_eq_true.mpr fun byte hbyte => ?_)
    have hlower := List.all_eq_true.mp hvalid.2 byte hbyte
    simp only [Protocol.isLowerHex, Bool.or_eq_true, Bool.and_eq_true, decide_eq_true_eq]
      at hlower ⊢
    rcases hlower with hdigit | hletter
    · exact UInt8.lt_of_le_of_lt hdigit.2 (by decide)
    · exact UInt8.lt_of_le_of_lt hletter.2 (by decide)
  obtain ⟨canonical, hcanonical⟩ : HasForm conv
      (.object (Object.of (recordMembers context inventory (sha256 zeroed).hex))) :=
    hasForm_record hencoded hhex
  unfold emitProtocolPlatformRecord
  rw [if_neg (by simpa using recordErrors_eq_nil.mpr hchecked)]
  simp only [hzeroed, assign_recordSha256, hcanonical]
  exact ⟨_, rfl⟩

end CpuPrefetch.Platform
