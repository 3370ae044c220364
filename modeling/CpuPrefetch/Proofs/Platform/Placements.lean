/-
The two checks of a placement.

The emitter of a record and the validator of a request check the two processors of a placement
separately.  The emitter asks neither whether they are online nor whether they name each other
as siblings; on everything else they agree, in either order of the two.
-/
import CpuPrefetch.Proofs.Platform.AllOrNothing
import CpuPrefetch.Proofs.Platform.CheckedRecords

namespace CpuPrefetch.Platform

open Protocol (Text ascii Sha256 Placement)
open Protocol.Json (CharConv IsUtf8)

variable {conv : CharConv} {sha256 : Text → Sha256} {context : ProtocolPlatformContext}
  {inventory : PlatformInventory} {artifact : ProtocolPlatformArtifact}

/-- The rules about which two processors a request names. -/
def pairRules : List String :=
  ["PLT-CPU-ELIGIBILITY", "PLT-NON-SMT-PAIR", "PLT-NEAR", "PLT-FAR"]

/-- None of these errors is about the two processors. -/
def Silent (errors : List Error) : Prop := ∀ error ∈ errors, error.ruleId ∉ pairRules

/-- The request places its two workers on the pair, in either order. -/
def PlacesOn (request : RequestedState) (pair : UInt32 × UInt32) (placement : Placement) : Prop :=
  request.placement.placement = placement ∧
    ((request.placement.producerCpu, request.placement.consumerCpu) = pair ∨
      (request.placement.consumerCpu, request.placement.producerCpu) = pair)

/-- The validator accepts the pairs of a record for the placements the record names them for. -/
def PlacementsAgree (context : ProtocolPlatformContext) (inventory : PlatformInventory) : Prop :=
  ∀ capabilities request,
    PlacesOn request context.nearCorePair .near ∨ PlacesOn request context.farCorePair .far →
      Silent (validateRequestedState inventory capabilities request)

/-- Both processors of the pair are online, and neither lists the other as a sibling. -/
def Eligible (inventory : PlatformInventory) (pair : UInt32 × UInt32) : Prop :=
  ∀ left right, findCpu inventory pair.1 = some left → findCpu inventory pair.2 = some right →
    left.online = true ∧ right.online = true ∧ right.logicalId ∉ left.threadSiblings ∧
      left.logicalId ∉ right.threadSiblings

/-! ### Rules about other things -/

theorem silent_append {first second : List Error} :
    Silent (first ++ second) ↔ Silent first ∧ Silent second :=
  List.forall_mem_append

theorem silent_require (holds : Bool) {category : ErrorCategory} {path : Text}
    {ruleId message : String} (h : ruleId ∉ pairRules) :
    Silent (require holds ⟨category, path, ruleId, message⟩) := by
  intro other hother
  rw [require] at hother
  split at hother
  · cases hother
  · rw [List.mem_singleton.mp hother]
    exact h

theorem silent_require_iff {holds : Bool} {error : Error} (h : error.ruleId ∈ pairRules) :
    Silent (require holds error) ↔ holds = true := by
  constructor
  · intro hsilent
    by_contra hfalse
    refine hsilent error ?_ h
    simp [require, hfalse]
  · rintro rfl other hother
    cases hother

theorem silent_controls (capabilities : List Capability) (seen : List Text)
    (controls : List ControlRequest) : Silent (validateControls capabilities seen controls) := by
  induction controls generalizing seen with
  | nil => exact fun error herror => by cases herror
  | cons control rest ih =>
      refine silent_append.mpr ⟨?_, ih _⟩
      simp only [validateControl, silent_append]
      exact ⟨⟨⟨⟨silent_require _ (by decide), silent_require _ (by decide)⟩,
        silent_require _ (by decide)⟩, silent_require _ (by decide)⟩, silent_require _ (by decide)⟩

/-- Only the placement can break a rule about the two processors. -/
theorem silent_request {capabilities : List Capability} {request : RequestedState} :
    Silent (validateRequestedState inventory capabilities request) ↔
      Silent (validatePlacement inventory request.placement) := by
  simp only [validateRequestedState, silent_append]
  constructor
  · exact fun h => h.1.1.1.2
  · exact fun h => ⟨⟨⟨⟨⟨⟨silent_require _ (by decide), silent_require _ (by decide)⟩,
      silent_require _ (by decide)⟩, h⟩, silent_require _ (by decide)⟩, silent_controls _ _ _⟩,
      silent_require _ (by decide)⟩

theorem silent_memory (request : PlacementRequest) (producer consumer : LogicalCpu) :
    Silent (validateMemory request producer consumer) := by
  simp only [validateMemory, silent_append]
  exact ⟨⟨silent_require _ (by decide), silent_require _ (by decide)⟩, silent_require _ (by decide)⟩

/-! ### The two processors -/

theorem not_silent_ineligible : ¬Silent [ineligible] := by
  intro h
  exact h ineligible List.mem_cons_self (by decide)

/-- The processors of a placement are found, online, and distinct, and then the pair is checked. -/
theorem silent_placement {request : PlacementRequest} :
    Silent (validatePlacement inventory request) ↔
      ∃ producer consumer, findCpu inventory request.producerCpu = some producer ∧
        findCpu inventory request.consumerCpu = some consumer ∧ producer.online = true ∧
        consumer.online = true ∧ producer.logicalId ≠ consumer.logicalId ∧
        Silent (validatePair inventory request.placement producer consumer) := by
  unfold validatePlacement
  split
  · rename_i producer consumer hproducer hconsumer
    split
    · rename_i hineligible
      refine ⟨fun h => absurd h not_silent_ineligible, ?_⟩
      rintro ⟨_, _, hfirst, hsecond, hfirstOn, hsecondOn, hne, -⟩
      rw [hproducer] at hfirst
      rw [hconsumer] at hsecond
      cases hfirst
      cases hsecond
      simp [hfirstOn, hsecondOn, hne] at hineligible
    · rename_i heligible
      simp only [Bool.or_eq_true, Bool.not_eq_true', decide_eq_true_eq, not_or,
        Bool.not_eq_false] at heligible
      rw [silent_append, and_iff_left (silent_memory _ _ _)]
      constructor
      · exact fun h => ⟨producer, consumer, hproducer, hconsumer, heligible.1.1, heligible.1.2,
          heligible.2, h⟩
      · rintro ⟨_, _, hfirst, hsecond, -, -, -, h⟩
        rw [hproducer] at hfirst
        rw [hconsumer] at hsecond
        cases hfirst
        cases hsecond
        exact h
  · rename_i hmissing
    refine ⟨fun h => absurd h not_silent_ineligible, ?_⟩
    rintro ⟨producer, consumer, hproducer, hconsumer, -⟩
    exact absurd hconsumer (hmissing producer consumer hproducer)

variable {consumer producer : LogicalCpu}

theorem siblings_eq_false : siblings producer consumer = false ↔
      ¬(producer.packageId = consumer.packageId ∧ producer.coreId = consumer.coreId) ∧
        consumer.logicalId ∉ producer.threadSiblings ∧
        producer.logicalId ∉ consumer.threadSiblings := by
  rw [← Bool.not_eq_true, siblings]
  simp only [Bool.or_eq_true, Bool.and_eq_true, decide_eq_true_eq]
  tauto

theorem siblings_comm (producer consumer : LogicalCpu) :
    siblings producer consumer = siblings consumer producer := by
  rw [Bool.eq_iff_iff, ← not_iff_not, Bool.not_eq_true, Bool.not_eq_true, siblings_eq_false,
    siblings_eq_false, eq_comm, @eq_comm _ producer.coreId]
  tauto

theorem silent_near : Silent (validatePair inventory .near producer consumer) ↔
      siblings producer consumer = false ∧ producer.numaNode = consumer.numaNode ∧
        sameLastLevelCache inventory producer consumer = true := by
  rw [validatePair, silent_append, silent_require_iff (by decide), silent_require_iff (by decide)]
  simp only [Bool.not_eq_true', Bool.and_eq_true, decide_eq_true_eq]

theorem silent_far : Silent (validatePair inventory .far producer consumer) ↔
      siblings producer consumer = false ∧ producer.numaNode ≠ consumer.numaNode := by
  rw [validatePair, silent_append, silent_require_iff (by decide), silent_require_iff (by decide)]
  simp only [Bool.not_eq_true', decide_eq_true_eq]

variable {placement : Placement}

/-- The check of a near or far pair does not depend on who is the producer. -/
theorem silent_pair_comm (h : placement = .near ∨ placement = .far)
    (producer consumer : LogicalCpu) : Silent (validatePair inventory placement producer consumer) ↔
      Silent (validatePair inventory placement consumer producer) := by
  rcases h with rfl | rfl
  · rw [silent_near, silent_near, siblings_comm, sameLastLevelCache_comm, eq_comm]
    tauto
  · rw [silent_far, silent_far, siblings_comm, ne_comm]

/-! ### Pairs of a record -/

variable {pair : UInt32 × UInt32}

/-- An accepted pair is silent for its placement exactly when it is eligible. -/
theorem accepted_pair_iff {left right : LogicalCpu}
    (hplacement : placement = .near ∨ placement = .far)
    (hleft : findCpu inventory pair.1 = some left) (hright : findCpu inventory pair.2 = some right)
    (hdistinct : physicallyDistinct left right = true)
    (hnodes : placement = .near →
      left.numaNode = right.numaNode ∧ sameLastLevelCache inventory left right = true)
    (hfar : placement = .far → left.numaNode ≠ right.numaNode) :
    (left.online = true ∧ right.online = true ∧ left.logicalId ≠ right.logicalId ∧
        Silent (validatePair inventory placement left right)) ↔ Eligible inventory pair := by
  simp only [physicallyDistinct, Bool.and_eq_true, Bool.not_eq_true', decide_eq_true_eq,
    Bool.and_eq_false_iff, decide_eq_false_iff_not] at hdistinct
  obtain ⟨hne, hcores⟩ := hdistinct
  have hcores' : ¬(left.packageId = right.packageId ∧ left.coreId = right.coreId) := by tauto
  have hpair : Silent (validatePair inventory placement left right) ↔
      right.logicalId ∉ left.threadSiblings ∧ left.logicalId ∉ right.threadSiblings := by
    rcases hplacement with rfl | rfl
    · rw [silent_near, siblings_eq_false, and_iff_right hcores', and_iff_left (hnodes rfl)]
    · rw [silent_far, siblings_eq_false, and_iff_right hcores', and_iff_left (hfar rfl)]
  rw [hpair]
  constructor
  · rintro ⟨hleftOn, hrightOn, -, hsiblings⟩ other other' hother hother'
    rw [hleft] at hother
    rw [hright] at hother'
    cases hother
    cases hother'
    exact ⟨hleftOn, hrightOn, hsiblings⟩
  · intro h
    obtain ⟨hleftOn, hrightOn, hsiblings⟩ := h left right hleft hright
    exact ⟨hleftOn, hrightOn, hne, hsiblings⟩

/-- A request that places its workers on these two processors, the first as the producer. -/
def pairRequest (placement : Placement) (pair : UInt32 × UInt32) : RequestedState :=
  { sampleRequest [] with
    placement :=
      { (sampleRequest []).placement with
        placement := placement
        producerCpu := pair.1
        consumerCpu := pair.2 } }

/-- All requests on an accepted pair are silent, or the one of its first order already is not. -/
theorem requests_silent_iff {left right : LogicalCpu}
    (hplacement : placement = .near ∨ placement = .far)
    (hleft : findCpu inventory pair.1 = some left)
    (hright : findCpu inventory pair.2 = some right) :
    (∀ capabilities request, PlacesOn request pair placement →
        Silent (validateRequestedState inventory capabilities request)) ↔
      left.online = true ∧ right.online = true ∧ left.logicalId ≠ right.logicalId ∧
        Silent (validatePair inventory placement left right) := by
  constructor
  · intro h
    have hsilent := silent_request.mp (h [] (pairRequest placement pair) ⟨rfl, Or.inl rfl⟩)
    obtain ⟨producer, consumer, hproducer, hconsumer, hpair⟩ := silent_placement.mp hsilent
    cases hleft.symm.trans hproducer
    cases hright.symm.trans hconsumer
    exact hpair
  · rintro ⟨hleftOn, hrightOn, hne, hpair⟩ capabilities request ⟨hrequest, horder | horder⟩
    · refine silent_request.mpr (silent_placement.mpr ⟨left, right, ?_, ?_, hleftOn, hrightOn,
        hne, ?_⟩)
      · rw [← hleft, ← horder]
      · rw [← hright, ← horder]
      · rw [hrequest]
        exact hpair
    · refine silent_request.mpr
        (silent_placement.mpr ⟨right, left, ?_, ?_, hrightOn, hleftOn, hne.symm, ?_⟩)
      · rw [← hright, ← horder]
      · rw [← hleft, ← horder]
      · rw [hrequest, silent_pair_comm hplacement]
        exact hpair

theorem near_found (h : nearPairAccepted inventory pair = true) :
    ∃ left right, findCpu inventory pair.1 = some left ∧ findCpu inventory pair.2 = some right ∧
      physicallyDistinct left right = true ∧ left.numaNode = right.numaNode ∧
      sameLastLevelCache inventory left right = true := by
  unfold nearPairAccepted at h
  split at h
  · rename_i left right hleft hright
    simp only [Bool.and_eq_true, decide_eq_true_eq] at h
    exact ⟨left, right, hleft, hright, h.1.1, h.1.2, h.2⟩
  · cases h

theorem far_found (h : farPairAccepted inventory pair = true) :
    ∃ left right, findCpu inventory pair.1 = some left ∧ findCpu inventory pair.2 = some right ∧
      physicallyDistinct left right = true ∧ left.numaNode ≠ right.numaNode := by
  unfold farPairAccepted at h
  split at h
  · rename_i left right hleft hright
    simp only [Bool.and_eq_true, decide_eq_true_eq] at h
    exact ⟨left, right, hleft, hright, h.1, h.2⟩
  · cases h

/-- **The two checks of a placement agree** on the pairs of an emitted record exactly when the
processors of both pairs are online and do not list each other as siblings. -/
theorem placements_agree_iff
    (h : emitProtocolPlatformRecord conv sha256 context inventory = .ok artifact) :
    PlacementsAgree context inventory ↔
      Eligible inventory context.nearCorePair ∧ Eligible inventory context.farCorePair := by
  obtain ⟨hchecked, -⟩ := emitted h
  obtain ⟨left, right, hleft, hright, hdistinct, hnode, hcache⟩ := near_found hchecked.near
  obtain ⟨left', right', hleft', hright', hdistinct', hnodes⟩ := far_found hchecked.far
  have hnear := (requests_silent_iff (Or.inl rfl) hleft hright).trans
    (accepted_pair_iff (Or.inl rfl) hleft hright hdistinct (fun _ => ⟨hnode, hcache⟩) (by simp))
  have hfar := (requests_silent_iff (Or.inr rfl) hleft' hright').trans
    (accepted_pair_iff (Or.inr rfl) hleft' hright' hdistinct' (by simp) (fun _ => hnodes))
  rw [← hnear, ← hfar]
  constructor
  · exact fun hagree => ⟨fun capabilities request hplaced => hagree capabilities request
      (Or.inl hplaced),
      fun capabilities request hplaced => hagree capabilities request (Or.inr hplaced)⟩
  · rintro ⟨hnearSilent, hfarSilent⟩ capabilities request (hplaced | hplaced)
    · exact hnearSilent capabilities request hplaced
    · exact hfarSilent capabilities request hplaced

/-! ### A record with an offline processor -/

def sampleCpu (id package node : UInt32) (online : Bool) : LogicalCpu :=
  ⟨id, id, package, node, [id], [], online⟩

/-- Two processors of one node and one of another; the second may be offline. -/
def sampleInventory (online : Bool) : PlatformInventory :=
  { snapshotId := ascii "snapshot"
    capturedAtUtc := ascii "2026-01-01T00:00:00Z"
    cpu := ⟨ascii "vendor", ascii "model", ascii "1", ascii "0x1", 64, 64, 8, true⟩
    software := ⟨ascii "Linux", ascii "6.1", ascii "GCC 13", ascii "libstdc++ 13", ascii "C++20"⟩
    basePageBytes := 4096
    logicalCpus := [sampleCpu 0 0 0 true, sampleCpu 1 0 0 online, sampleCpu 2 1 1 true]
    cacheDomains := [⟨ascii "L3:Unified:0,1", 3, ascii "Unified", 33554432, [0, 1], true⟩]
    numaNodes := [⟨0, [0, 1]⟩, ⟨1, [2]⟩]
    pciDevices := []
    observations := [] }

def sampleEvidence (requested : Protocol.RequestedHardwareState)
    (verified : Protocol.VerifiedHardwareState) : HardwarePrefetchEvidence :=
  ⟨requested, verified, ascii "readback", ascii "probe", ascii "authority"⟩

def sampleContext (compilerFlags : List Text) : ProtocolPlatformContext :=
  { platformId := ascii "platform"
    nearCorePair := (0, 1)
    farCorePair := (0, 2)
    memoryPopulation := ascii "all channels"
    residencyVerificationMethod := ascii "move_pages"
    compilerFlags := compilerFlags
    linkMode := ascii "static"
    clock :=
      ⟨ascii "tsc", ascii "ns", ascii "conversion", ascii "serialization", ascii "acceptance"⟩
    hardwarePrefetchStates :=
      (sampleEvidence .h0 .verifiedDefault, sampleEvidence .h1 .verifiedChanged) }

/-- Texts of the source make a record that is emitted. -/
theorem emits_ascii (hchecked : recordErrors context inventory = [])
    (htexts : ∀ text ∈ recordTexts context inventory, text.all (fun byte => byte < 0x80) = true) :
    ∃ artifact, emitProtocolPlatformRecord conv sha256 context inventory = .ok artifact :=
  emits (recordErrors_eq_nil.mp hchecked) fun text htext =>
    Protocol.Json.isUtf8_ascii (htexts text htext)

/-- A record names an offline processor, which the validator refuses. -/
theorem offline_pair_emitted :
    (∀ conv sha256, ∃ artifact,
        emitProtocolPlatformRecord conv sha256 (sampleContext []) (sampleInventory false) =
          .ok artifact) ∧
      PlacesOn (pairRequest .near (0, 1)) (sampleContext []).nearCorePair .near ∧
      (∃ error ∈ validateRequestedState (sampleInventory false) [] (pairRequest .near (0, 1)),
        error.ruleId = "PLT-CPU-ELIGIBILITY") ∧
      ¬PlacementsAgree (sampleContext []) (sampleInventory false) := by
  have hrefused : ∃ error ∈ validateRequestedState (sampleInventory false) []
      (pairRequest .near (0, 1)), error.ruleId = "PLT-CPU-ELIGIBILITY" := by
    decide +kernel
  refine ⟨fun conv sha256 => emits_ascii (by decide +kernel) (by decide +kernel),
    ⟨rfl, Or.inl rfl⟩, hrefused, fun hagree => ?_⟩
  obtain ⟨error, herror, hrule⟩ := hrefused
  refine hagree [] (pairRequest .near (0, 1)) (Or.inl ⟨rfl, Or.inl rfl⟩) error herror ?_
  rw [hrule]
  decide

/-- The SHA-256 digests of the two records that are emitted, each with zeros in its place. -/
def sampleDigest (text : Text) : Sha256 :=
  if text.length = 1260 then
    ⟨ascii "ef50d17ed41e6bfc122c8e38862c89b6fb3b734c8e720c40351523fd6b15b24d", by decide⟩
  else if text.length = 1265 then
    ⟨ascii "63ceb512f29f16cf58e2420830c424a3ccaf44cbc7165253551c75311b4f47e5", by decide⟩
  else ⟨zeroDigest, by decide⟩

theorem placements_agree_iff_online :
    PlacementsAgree (sampleContext []) (sampleInventory true) ↔
      Eligible (sampleInventory true) (sampleContext []).nearCorePair ∧
        Eligible (sampleInventory true) (sampleContext []).farCorePair := by
  obtain ⟨artifact, h⟩ : ∃ artifact, emitProtocolPlatformRecord ⟨fun _ => none, fun _ => none⟩
      sampleDigest (sampleContext []) (sampleInventory true) = .ok artifact :=
    emits_ascii (by decide +kernel) (by decide +kernel)
  exact placements_agree_iff h

end CpuPrefetch.Platform
