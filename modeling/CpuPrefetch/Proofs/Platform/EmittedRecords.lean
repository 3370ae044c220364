/-
Emitted platform records are loaded again.

A record made from a snapshot is read back as what it was made from, unless the snapshot gives a
page or a cache line no bytes, or the caller gives an empty compiler flag.  The emitter checks
none of the three; the loader refuses the flag, and the record-local rules the other two.
-/
import CpuPrefetch.Proofs.Platform.LoadedRecords
import CpuPrefetch.Proofs.Platform.Placements

namespace CpuPrefetch.Platform

open List Protocol.Json
open Protocol hiding Result ErrorCategory require
open Protocol.Json (CharConv Object Value)
open Protocol.Load (loadPlatform loadPlatformConfiguration)

variable {conv : CharConv} {sha256 : Text → Sha256} {build : BuildIdentity}
  {snapshot : LinuxSnapshot} {context : ProtocolPlatformContext} {inventory : PlatformInventory}
  {artifact : ProtocolPlatformArtifact}

def writtenClock (clock : PlatformClock) : ClockEvidenceReferences :=
  ⟨clock.source, clock.timeUnit, clock.conversionRecordId.value, clock.serializationRecordId.value,
    clock.acceptanceRecordId.value⟩

def writtenState (document : HardwareStateDocument) : HardwarePrefetchEvidence :=
  ⟨document.state.requested, document.state.verified, document.readbackArtifactId.value,
    document.behavioralProbeArtifactId.value, document.privilegedAuthorityId.value⟩

/-- The fields of a document have the values of the context and the inventory it came from. -/
structure Describes (document : PlatformDocument) (context : ProtocolPlatformContext)
    (inventory : PlatformInventory) : Prop where
  versions : document.schemaVersion = .v200pre2 ∧ document.protocolVersion = .v200pre2
  platformId : document.platformId.value = context.platformId
  cpu : document.cpu = describedCpu inventory.cpu
  sockets : document.topology.quantities.sockets.toNat = (packages inventory).length
  numaNodes : document.topology.quantities.numaNodes.toNat = inventory.numaNodes.length
  physicalCores :
    document.topology.quantities.physicalCores.toNat = (physicalCores inventory).length
  smtEnabled : document.topology.smtEnabled = smtEnabled inventory
  cacheDomains : document.topology.cacheDomains = inventory.cacheDomains.map (·.domainId)
  nearCorePair : document.topology.nearCorePair =
    (context.nearCorePair.1.toUInt64, context.nearCorePair.2.toUInt64)
  farCorePair : document.topology.farCorePair =
    (context.farCorePair.1.toUInt64, context.farCorePair.2.toUInt64)
  memory : document.memory =
    ⟨context.memoryPopulation, ⟨inventory.basePageBytes⟩, context.residencyVerificationMethod⟩
  software : document.software = describedSoftware context inventory.software
  clock : writtenClock document.clock = context.clock
  states : document.hardwarePrefetchStates.map writtenState = context.states

/-- The emitted text is loaded as a document that describes what it was made from, and whose
digest is that of the text with the digest zeroed. -/
def RoundTrips (conv : CharConv) (sha256 : Text → Sha256) (context : ProtocolPlatformContext)
    (inventory : PlatformInventory) (artifact : ProtocolPlatformArtifact) : Prop :=
  ∃ document, loadPlatformConfiguration conv artifact.canonicalJson = .ok document ∧
    Describes document context inventory ∧
    Orchestration.zeroSelfDigest conv sha256 "record_sha256" document.sourceDocument =
      some document.recordSha256 ∧
    artifact.recordSha256 = document.recordSha256.hex

/-- The page and every cache line have bytes, and no compiler flag is empty. -/
structure Loadable (snapshot : LinuxSnapshot) (context : ProtocolPlatformContext) : Prop where
  page : NonzeroAt snapshot pagePath
  lines : ∀ indexRoot ∈ onlineCaches snapshot, NonzeroAt snapshot (lineFile indexRoot)
  flags : ∀ flag ∈ context.compilerFlags, flag ≠ []

/-! ### The text -/

section Settled

theorem Named.settled {members : List (Text × Value)} {names : List String}
    (h : Named members names) (hvalues : ∀ value ∈ members.map Prod.snd, value.Settled) :
    (Value.object (Object.of members)).Settled :=
  settled_of h.nodup hvalues

theorem settled_uintValue (value : UInt64) : (uintValue value).Settled :=
  settled_decimal value

theorem settled_stringArray (values : List Text) : (stringArray values).Settled := by
  refine settled_array ?_
  rw [forall_mem_map]
  exact fun value _ => settled_string value

theorem settled_pairValue (pair : UInt32 × UInt32) : (pairValue pair).Settled := by
  refine settled_array ?_
  simp only [forall_mem_cons]
  exact ⟨settled_uintValue _, settled_uintValue _, by simp⟩

theorem settled_hardwareState (state : HardwarePrefetchEvidence) :
    (Value.object (Object.of (hardwareStateMembers state))).Settled := by
  have hstring := settled_string
  refine (hardwareState_named state).settled ?_
  simp only [hardwareStateMembers, map_cons, map_nil, forall_mem_cons]
  exact ⟨hstring _, hstring _, hstring _, hstring _, hstring _, by simp⟩

/-- Every number of a record is spelled the way it is read. -/
theorem settled_record (context : ProtocolPlatformContext) (inventory : PlatformInventory)
    (digest : Text) :
    (Value.object (Object.of (recordMembers context inventory digest))).Settled := by
  have hstring := settled_string
  refine (record_named context inventory digest).settled ?_
  simp only [recordMembers, map_cons, map_nil, forall_mem_cons]
  refine ⟨?_, ?_, ?_, ?_, hstring _, hstring _, hstring _, hstring _, ?_, ?_, by simp⟩
  · refine (clock_named context.clock).settled ?_
    simp only [clockMembers, map_cons, map_nil, forall_mem_cons]
    exact ⟨hstring _, hstring _, hstring _, hstring _, hstring _, by simp⟩
  · refine (cpu_named inventory.cpu).settled ?_
    simp only [cpuMembers, map_cons, map_nil, forall_mem_cons]
    exact ⟨settled_uintValue _, settled_uintValue _, settled_uintValue _, hstring _, hstring _,
      hstring _, hstring _, by simp⟩
  · refine settled_array ?_
    rw [forall_mem_map]
    exact fun state _ => settled_hardwareState state
  · refine (memory_named context inventory).settled ?_
    simp only [memoryMembers, map_cons, map_nil, forall_mem_cons]
    exact ⟨settled_uintValue _, hstring _, hstring _, by simp⟩
  · refine (software_named context inventory.software).settled ?_
    simp only [softwareMembers, map_cons, map_nil, forall_mem_cons]
    exact ⟨hstring _, settled_stringArray _, hstring _, hstring _, hstring _, hstring _, hstring _,
      by simp⟩
  · refine (topology_named context inventory).settled ?_
    simp only [topologyMembers, map_cons, map_nil, forall_mem_cons]
    exact ⟨settled_stringArray _, settled_pairValue _, settled_pairValue _, settled_uintValue _,
      settled_uintValue _, settled_boolean _, settled_uintValue _, by simp⟩

end Settled

/-- An emitted text is the document itself once it is read, and its digest is in its place. -/
theorem emitted_document
    (h : emitProtocolPlatformRecord conv sha256 context inventory = .ok artifact) :
    ∃ digest : Sha256, artifact.recordSha256 = digest.hex ∧
      parse conv artifact.canonicalJson =
        .ok (.object (Object.of (recordMembers context inventory digest.hex))) ∧
      Orchestration.zeroSelfDigest conv sha256 "record_sha256"
        (.object (Object.of (recordMembers context inventory digest.hex))) = some digest := by
  obtain ⟨-, zeroed, hzeroed, hdigest, hcanonical⟩ := emitted h
  obtain ⟨hplain, hrespelled⟩ := settled_record context inventory (sha256 zeroed).hex
  refine ⟨sha256 zeroed, hdigest, ?_, ?_⟩
  · rw [parse_canonicalize hplain hcanonical, hrespelled]
  · have hfind := find_at
      (record_named context inventory (sha256 zeroed).hex).nodup 6 rfl
    rw [Orchestration.zeroSelfDigest, hfind, Option.isNone_some, if_neg Bool.false_ne_true,
      assign_recordSha256]
    rw [show Orchestration.zeroSelf = zeroDigest from rfl, hzeroed]

/-! ### The record-local rules -/

theorem packages_length (inventory : PlatformInventory) :
    (packages inventory).length ≤ inventory.logicalCpus.length := by
  refine (dedup_sublist _).length_le.trans ?_
  rw [length_map]

theorem physicalCores_length (inventory : PlatformInventory) :
    (physicalCores inventory).length ≤ inventory.logicalCpus.length := by
  refine (dedup_sublist _).length_le.trans ?_
  rw [length_map]

/-- The near pair of a checked record names two cores, of one package at least. -/
theorem Checked.cores (h : Checked context inventory) :
    packages inventory ≠ [] ∧ 2 ≤ (physicalCores inventory).length := by
  obtain ⟨left, right, hleft, hright, hdistinct, -⟩ := near_found h.near
  have hleft := mem_of_find?_eq_some hleft
  have hright := mem_of_find?_eq_some hright
  constructor
  · refine ne_nil_of_mem (a := left.packageId) ?_
    rw [packages, mem_dedup]
    exact mem_map_of_mem hleft
  · have hpair : [(left.packageId, left.coreId), (right.packageId, right.coreId)].Nodup := by
      simp only [physicallyDistinct, Bool.and_eq_true, Bool.not_eq_true'] at hdistinct
      simpa using hdistinct.2
    refine (hpair.subperm ?_).length_le
    intro core hcore
    rw [physicalCores, mem_dedup]
    rcases List.mem_cons.mp hcore with rfl | hcore
    · exact List.mem_map.mpr ⟨left, hleft, rfl⟩
    · rw [List.mem_singleton.mp hcore]
      exact List.mem_map.mpr ⟨right, hright, rfl⟩

/-- The counts of a record are written as they are. -/
theorem counts_toNat (h : Collected inventory) :
    (UInt64.ofNat (packages inventory).length).toNat = (packages inventory).length ∧
      (UInt64.ofNat inventory.numaNodes.length).toNat = inventory.numaNodes.length ∧
      (UInt64.ofNat (physicalCores inventory).length).toNat = (physicalCores inventory).length := by
  have hcpus : inventory.logicalCpus.length < 2 ^ 64 := h.cpus.trans_lt (by decide)
  exact ⟨UInt64.toNat_ofNat_of_lt' ((packages_length inventory).trans_lt hcpus),
    UInt64.toNat_ofNat_of_lt' h.nodes,
    UInt64.toNat_ofNat_of_lt' ((physicalCores_length inventory).trans_lt hcpus)⟩

/-- The rules about the platform's quantities hang on two of them. -/
theorem quantities_positive (h : Checked context inventory) (hcollected : Collected inventory) :
    (!(inventory.cpu.cacheLineBytes = 0 || inventory.cpu.atomicWidthBits = 0 ||
      inventory.cpu.atomicAlignmentBytes = 0 ||
      UInt64.ofNat (packages inventory).length = 0 || UInt64.ofNat inventory.numaNodes.length = 0 ||
      UInt64.ofNat (physicalCores inventory).length < 2 || inventory.basePageBytes = 0)) = true ↔
      inventory.cpu.cacheLineBytes ≠ 0 ∧ inventory.basePageBytes ≠ 0 := by
  obtain ⟨hpackages, hnodes, hcores⟩ := counts_toNat hcollected
  have hsockets : UInt64.ofNat (packages inventory).length ≠ 0 := by
    intro hzero
    rw [hzero] at hpackages
    exact h.cores.1 (List.length_eq_zero_iff.mp hpackages.symm)
  have hnuma : UInt64.ofNat inventory.numaNodes.length ≠ 0 := by
    intro hzero
    rw [hzero] at hnodes
    exact h.nodes (List.length_eq_zero_iff.mp hnodes.symm)
  have hphysical : ¬UInt64.ofNat (physicalCores inventory).length < 2 := by
    rw [UInt64.lt_iff_toNat_lt, hcores, Nat.not_lt]
    exact h.cores.2
  simp [hcollected.width, hcollected.alignment, hsockets, hnuma, hphysical]

theorem validate_described (h : Checked context inventory) (hcollected : Collected inventory)
    (digest : Sha256) (flags : List Text) :
    validateRecord (.platform (withFlags (describedPlatform h digest) flags).record) = [] ↔
      inventory.cpu.cacheLineBytes ≠ 0 ∧ inventory.basePageBytes ≠ 0 := by
  have hstates : ∀ state ∈ [(describedState _ h.first).state, (describedState _ h.second).state],
      (!(state.requested = .notApplicable || state.verified = .notApplicable)) = true := by
    simp only [forall_mem_cons, describedState, h.first.requested, h.first.verified,
      h.second.requested, h.second.verified]
    simp
  have hasked : ∀ asked, (∃ state ∈ context.states, state.requested = asked) →
      [(describedState _ h.first).state, (describedState _ h.second).state].any
        (·.requested = asked) = true := by
    rintro asked ⟨state, hstate, rfl⟩
    simp only [ProtocolPlatformContext.states, mem_cons, not_mem_nil, or_false] at hstate
    rcases hstate with rfl | rfl
    · simp [describedState]
    · simp [describedState]
  simp only [validateRecord, validatePlatform, PlatformDocument.record, withFlags,
    describedPlatform, append_eq_nil_iff, Protocol.require_eq_nil, flatMap_eq_nil_iff, map_cons,
    map_nil]
  rw [Bool.and_eq_true, and_iff_left ⟨hasked .h0 h.h0, hasked .h1 h.h1⟩, and_iff_left hstates]
  exact quantities_positive h hcollected

/-! ### The loader -/

theorem describes (h : Checked context inventory) (hcollected : Collected inventory)
    (digest : Sha256) : Describes (describedPlatform h digest) context inventory := by
  obtain ⟨hpackages, hnodes, hcores⟩ := counts_toNat hcollected
  exact ⟨⟨rfl, rfl⟩, rfl, rfl, hpackages, hnodes, hcores, rfl, rfl, rfl, rfl, rfl, rfl, rfl, rfl⟩

section Loaded

variable {text : Text} {digest : Sha256} {document : PlatformDocument}
  (hchecked : Checked context inventory) (hcollected : Collected inventory)
  (hparse : parse conv text =
    .ok (.object (Object.of (recordMembers context inventory digest.hex))))

include hcollected hparse

/-- With flags and quantities that are taken, the loader answers with what was emitted. -/
theorem loads (hline : inventory.cpu.cacheLineBytes ≠ 0) (hpage : inventory.basePageBytes ≠ 0)
    (hflags : ∀ flag ∈ context.compilerFlags, flag ≠ []) :
    loadPlatformConfiguration conv text = .ok (describedPlatform hchecked digest) := by
  have hread := loadPlatform_record hchecked hcollected.software hcollected.domains digest
  rw [stringArray_iff.mpr ⟨rfl, hflags, by simp⟩] at hread
  have hvalid := (validate_described hchecked hcollected digest context.compilerFlags).mpr
    ⟨hline, hpage⟩
  rw [withFlags_described] at hvalid
  simp only [loadPlatformConfiguration, hparse, hread, bind, Except.bind, Except.map,
    withFlags_described, hvalid]

include hchecked in
/-- What the loader answered with, it took for good. -/
theorem quantities_of_load (hload : loadPlatformConfiguration conv text = .ok document) :
    (inventory.cpu.cacheLineBytes ≠ 0 ∧ inventory.basePageBytes ≠ 0) ∧
      ∀ flag ∈ context.compilerFlags, flag ≠ [] := by
  have hread := loadPlatform_record hchecked hcollected.software hcollected.domains digest
  simp only [loadPlatformConfiguration, hparse, hread, bind, Except.bind] at hload
  cases hflags : Protocol.Load.stringArray (stringArray context.compilerFlags) "$out/software/flags"
      false with
  | error errors =>
      simp only [hflags, Except.map, reduceCtorEq] at hload
  | ok flags =>
      obtain ⟨-, hnonempty, -⟩ := stringArray_iff.mp hflags
      simp only [hflags, Except.map] at hload
      split at hload
      · rename_i hvalid
        exact ⟨(validate_described hchecked hcollected digest flags).mp hvalid, hnonempty⟩
      · cases hload

end Loaded

/-- A record that comes back has flags and quantities that the loader takes. -/
theorem quantities_of_roundTrips (hread : parseLinuxSnapshot build snapshot = .ok inventory)
    (h : emitProtocolPlatformRecord conv sha256 context inventory = .ok artifact)
    (hround : RoundTrips conv sha256 context inventory artifact) :
    (inventory.cpu.cacheLineBytes ≠ 0 ∧ inventory.basePageBytes ≠ 0) ∧
      ∀ flag ∈ context.compilerFlags, flag ≠ [] := by
  obtain ⟨document, hload, -⟩ := hround
  obtain ⟨digest, -, hparse, -⟩ := emitted_document h
  exact quantities_of_load (emitted h).1 (parsed_collected hread) hparse hload

/-- **Emitted platform records are loaded again**, as what they were made from, exactly when the
page and the cache lines have bytes and no compiler flag is empty. -/
theorem emitted_record_loads_iff (hread : parseLinuxSnapshot build snapshot = .ok inventory)
    (h : emitProtocolPlatformRecord conv sha256 context inventory = .ok artifact) :
    RoundTrips conv sha256 context inventory artifact ↔ Loadable snapshot context := by
  constructor
  · intro hround
    obtain ⟨⟨hline, hpage⟩, hflags⟩ := quantities_of_roundTrips hread h hround
    exact ⟨(page_ne_zero hread).mp hpage, (cacheLine_ne_zero hread).mp hline, hflags⟩
  · intro hloadable
    obtain ⟨hchecked, -⟩ := emitted h
    obtain ⟨digest, hdigest, hparse, hzero⟩ := emitted_document h
    have hcollected := parsed_collected hread
    have hline := (cacheLine_ne_zero hread).mpr hloadable.lines
    have hpage := (page_ne_zero hread).mpr hloadable.page
    exact ⟨_, loads hchecked hcollected hparse hline hpage hloadable.flags,
      describes hchecked hcollected digest, hzero, hdigest⟩

/-! ### A snapshot of three processors -/

def sampleBuild : BuildIdentity :=
  ⟨ascii "GCC 13", ascii "libstdc++ 13", 64, 8, true, by decide, by decide, by decide, by decide⟩

def sampleTopology (id package : String) : List (String × String) :=
  [("/sys/devices/system/cpu/cpu" ++ id ++ "/topology/core_id", id),
    ("/sys/devices/system/cpu/cpu" ++ id ++ "/topology/physical_package_id", package),
    ("/sys/devices/system/cpu/cpu" ++ id ++ "/topology/thread_siblings_list", id)]

/-- The first two processors share a cache and a node; the third has a node of its own. -/
def sampleFiles (page : String) : List (String × String) :=
  [("/proc/cpuinfo", "vendor_id : vendor\nmodel name : model\nstepping : 1\nmicrocode : 0x1\n"),
    ("/sys/devices/system/cpu/cpu0/cache/index0/coherency_line_size", "64\n"),
    ("/sys/devices/system/cpu/cpu0/cache/index0/level", "3\n"),
    ("/sys/devices/system/cpu/cpu0/cache/index0/shared_cpu_list", "0-1\n"),
    ("/sys/devices/system/cpu/cpu0/cache/index0/size", "32M\n"),
    ("/sys/devices/system/cpu/cpu0/cache/index0/type", "Unified\n")] ++
  sampleTopology "0" "0" ++ sampleTopology "1" "0" ++ sampleTopology "2" "1" ++
  [("/sys/devices/system/cpu/online", "0-2\n"),
    ("/sys/devices/system/node/node0/cpulist", "0-1\n"),
    ("/sys/devices/system/node/node1/cpulist", "2\n"),
    ("runtime/base_page_bytes", page)]

theorem sampleFiles_sorted (page : String) :
    ((sampleFiles page).map fun file => (ascii file.1, ascii file.2)).Pairwise
      fun left right => left.1 < right.1 := by
  have hpaths : ((sampleFiles page).map fun file => ascii file.1).Pairwise (· < ·) := by
    rw [show ((sampleFiles page).map fun file => ascii file.1) =
      (sampleFiles "").map fun file => ascii file.1 from rfl]
    decide +kernel
  rw [pairwise_map]
  exact List.pairwise_map.mp hpaths

def sampleSnapshot (page : String) : LinuxSnapshot :=
  ⟨ascii "snapshot", ascii "2026-01-01T00:00:00Z", ascii "6.1",
    ⟨(sampleFiles page).map fun file => (ascii file.1, ascii file.2), sampleFiles_sorted page,
      by simp [sampleFiles, sampleTopology]⟩⟩

/-- The sample is read, and a record of it with these compiler flags passes the checks. -/
def sampleAccepted (page : String) (compilerFlags : List Text) : Bool :=
  (parseLinuxSnapshot sampleBuild (sampleSnapshot page)).toOption.any fun inventory =>
    (recordErrors (sampleContext compilerFlags) inventory).isEmpty &&
      (recordTexts (sampleContext compilerFlags) inventory).all fun text =>
        text.all fun byte => byte < 0x80

theorem sample_emitted {page : String} {compilerFlags : List Text}
    (h : sampleAccepted page compilerFlags = true) :
    ∃ inventory, parseLinuxSnapshot sampleBuild (sampleSnapshot page) = .ok inventory ∧
      ∀ conv sha256, ∃ artifact,
        emitProtocolPlatformRecord conv sha256 (sampleContext compilerFlags) inventory =
          .ok artifact := by
  rw [sampleAccepted] at h
  cases hread : parseLinuxSnapshot sampleBuild (sampleSnapshot page) with
  | error errors =>
      rw [hread] at h
      cases h
  | ok inventory =>
      rw [hread] at h
      simp only [Except.toOption, Option.any_some, Bool.and_eq_true, List.isEmpty_iff,
        all_eq_true] at h
      refine ⟨inventory, rfl, fun conv sha256 => emits_ascii h.1 fun text htext => ?_⟩
      exact List.all_eq_true.mpr (h.2 text htext)

/-- A page without bytes and an empty compiler flag are emitted, and then not loaded. -/
theorem unloadable_emitted :
    (∃ inventory, parseLinuxSnapshot sampleBuild (sampleSnapshot "0") = .ok inventory ∧
      ∀ conv sha256, ∃ artifact,
        emitProtocolPlatformRecord conv sha256 (sampleContext []) inventory = .ok artifact ∧
        ¬RoundTrips conv sha256 (sampleContext []) inventory artifact) ∧
    ∃ inventory, parseLinuxSnapshot sampleBuild (sampleSnapshot "4096") = .ok inventory ∧
      ∀ conv sha256, ∃ artifact,
        emitProtocolPlatformRecord conv sha256 (sampleContext [[]]) inventory = .ok artifact ∧
        ¬RoundTrips conv sha256 (sampleContext [[]]) inventory artifact := by
  constructor
  · obtain ⟨inventory, hread, hemits⟩ := sample_emitted (show sampleAccepted "0" [] = true by
      decide +kernel)
    refine ⟨inventory, hread, fun conv sha256 => ?_⟩
    obtain ⟨artifact, h⟩ := hemits conv sha256
    refine ⟨artifact, h, fun hround => ?_⟩
    obtain ⟨⟨-, hpage⟩, -⟩ := quantities_of_roundTrips hread h hround
    obtain ⟨text, htext, hdigit⟩ := (page_ne_zero hread).mp hpage
    have hfile : (sampleSnapshot "0").files.find pagePath = some (ascii "0") := by decide +kernel
    obtain rfl := Option.some.inj (hfile.symm.trans htext)
    revert hdigit
    decide
  · obtain ⟨inventory, hread, hemits⟩ := sample_emitted (show sampleAccepted "4096" [[]] = true by
      decide +kernel)
    refine ⟨inventory, hread, fun conv sha256 => ?_⟩
    obtain ⟨artifact, h⟩ := hemits conv sha256
    refine ⟨artifact, h, fun hround => ?_⟩
    exact (quantities_of_roundTrips hread h hround).2 [] mem_cons_self rfl

theorem emitted_record_loads_iff_sample :
    ∃ inventory artifact, parseLinuxSnapshot sampleBuild (sampleSnapshot "4096") = .ok inventory ∧
      (RoundTrips ⟨fun _ => none, fun _ => none⟩ sampleDigest
          (sampleContext [ascii "-O2"]) inventory artifact ↔
        Loadable (sampleSnapshot "4096") (sampleContext [ascii "-O2"])) := by
  obtain ⟨inventory, hread, hemits⟩ := sample_emitted
    (show sampleAccepted "4096" [ascii "-O2"] = true by decide +kernel)
  obtain ⟨artifact, h⟩ := hemits ⟨fun _ => none, fun _ => none⟩ sampleDigest
  exact ⟨inventory, artifact, hread, emitted_record_loads_iff hread h⟩

end CpuPrefetch.Platform
