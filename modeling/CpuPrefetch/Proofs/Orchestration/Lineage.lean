/-
The lineage of replacements.

Every edge of the lineage is checked by itself: a replacement resolves its original, which
no other block replaces, and keeps its role, platform and build.  What holds of the whole
lineage follows unless it closes on itself, which no check on an edge excludes.
-/
import CpuPrefetch.Lib.Descent
import CpuPrefetch.Proofs.Orchestration.AcceptedRecords
import CpuPrefetch.Proofs.Orchestration.GeneratedPlans
import CpuPrefetch.Proofs.Orchestration.Release

namespace CpuPrefetch.Orchestration

open List Descent
open Protocol Relation
open Protocol.Json (CharConv HasForm IsUtf8)

/-- A block of the list. -/
abbrev Member (blocks : List BlockPlan) := { block : BlockPlan // block ∈ blocks }

instance (blocks : List BlockPlan) : Finite (Member blocks) := finite_toSet blocks

/-- The first block replaces the second. -/
def Replaces (blocks : List BlockPlan) (block original : Member blocks) : Prop :=
  block.val.replacesBlockId = some original.val.blockId

/-- The replacements of the blocks, followed from any of them, lead where they should. -/
structure SoundLineage (blocks : List BlockPlan) (budget : Option ReplacementBudget) : Prop where
  founded : ∀ block : Member blocks, ∃ original, ReflTransGen (Replaces blocks) block original ∧
    original.val.replacesBlockId = none
  unbranched : ∀ first second original, Replaces blocks first original →
    Replaces blocks second original → first = second
  ends : ∀ original : Member blocks, original.val.replacesBlockId = none →
    ∃ active : Member blocks, isReplaced blocks active.val.blockId = false ∧
      ReflTransGen (Replaces blocks) active original ∧
      active.val.blockRole = original.val.blockRole ∧
      active.val.platformId = original.val.platformId ∧
      active.val.buildId = original.val.buildId ∧
      ∀ other : Member blocks, isReplaced blocks other.val.blockId = false →
        ReflTransGen (Replaces blocks) other original → other = active
  bounded : replacementCount blocks ≤ budget.elim 0 fun budget =>
    budget.maximumReplacementBlocks.toNat

section Accepted

variable {conv : CharConv} {sha256 : Text → Sha256} {evidence : Stage14Evidence}
  {records : List ProtocolRecord}

/-! ### The edges -/

theorem retainsOriginal_same {block original : BlockPlan}
    (h : retainsOriginal block original = true) :
    block.blockRole = original.blockRole ∧ block.platformId = original.platformId ∧
      block.buildId = original.buildId := by
  simp only [retainsOriginal, Bool.and_eq_true, decide_eq_true_eq] at h
  exact ⟨h.1.1.1.1.2, h.1.1.1.1.1.1, h.1.1.1.1.1.2⟩

theorem Stage14Accepted.replaces_unique (h : Stage14Accepted conv sha256 evidence records) :
    Relator.RightUnique (Replaces (blocksOf records)) := by
  intro block first second hfirst hsecond
  have hid : first.val.blockId = second.val.blockId := Option.some.inj (hfirst.symm.trans hsecond)
  exact Subtype.ext (inj_on_of_nodup_map h.ids first.property second.property hid)

theorem Stage14Accepted.replaced_unique (h : Stage14Accepted conv sha256 evidence records) :
    Relator.LeftUnique (Replaces (blocksOf records)) := by
  intro first second original hfirst hsecond
  exact Subtype.ext (Keyed.eq_of_filterMap (stage14Accepted_iff.mp h).unbranched first.property
    second.property hfirst hsecond)

/-- A block is not a replacement exactly when there is none that it replaces. -/
theorem Stage14Accepted.root_iff (h : Stage14Accepted conv sha256 evidence records)
    {block : Member (blocksOf records)} :
    Root (Replaces (blocksOf records)) block ↔ block.val.replacesBlockId = none := by
  constructor
  · intro hroot
    rw [Option.eq_none_iff_forall_ne_some]
    intro replaced hreplaces
    obtain ⟨r⟩ := h.resolution block.property hreplaces
    obtain ⟨hmem, hid⟩ := h.idIn.mp r.found
    exact hroot ⟨r.original, hmem⟩ (by rw [Replaces, hreplaces, hid])
  · intro hnone original hreplaces
    rw [Replaces, hnone] at hreplaces
    cases hreplaces

theorem leaf_iff {blocks : List BlockPlan} {block : Member blocks} :
    Leaf (Replaces blocks) block ↔ isReplaced blocks block.val.blockId = false := by
  simp only [Leaf, Replaces, isReplaced, any_eq_false, decide_eq_true_eq, Subtype.forall]

/-- A replacement shares its role, platform and build with what it replaces. -/
theorem Stage14Accepted.shares (h : Stage14Accepted conv sha256 evidence records)
    {block original : Member (blocksOf records)}
    (hreplaces : Replaces (blocksOf records) block original) :
    (block.val.blockRole, block.val.platformId, block.val.buildId) =
      (original.val.blockRole, original.val.platformId, original.val.buildId) := by
  obtain ⟨r⟩ := h.resolution block.property hreplaces
  obtain ⟨hmem, hid⟩ := h.idIn.mp r.found
  have hsame : r.original = original.val := inj_on_of_nodup_map h.ids hmem original.property hid
  obtain ⟨hrole, hplatform, hbuild⟩ := retainsOriginal_same r.retains
  rw [← hsame, hrole, hplatform, hbuild]

theorem Stage14Accepted.bounded (h : Stage14Accepted conv sha256 evidence records) :
    replacementCount (blocksOf records) ≤ evidence.replacementBudget.elim 0 fun budget =>
      budget.maximumReplacementBlocks.toNat := by
  have hbudget := (stage14Accepted_iff.mp h).budget
  cases hevidence : evidence.replacementBudget with
  | some budget =>
      simp only [budgetErrors, hevidence, append_eq_nil_iff, require_eq_nil,
        decide_eq_true_eq] at hbudget
      exact hbudget.2
  | none =>
      simp only [budgetErrors, hevidence, require_eq_nil, Bool.not_eq_true', any_eq_false]
        at hbudget
      rw [Option.elim_none, replacementCount, Nat.le_zero, countP_eq_zero]
      exact hbudget

/-! ### The whole lineage -/

theorem Stage14Accepted.acyclic (h : Stage14Accepted conv sha256 evidence records)
    {budget : Option ReplacementBudget} (hsound : SoundLineage (blocksOf records) budget) :
    Acyclic (Replaces (blocksOf records)) := by
  refine (acyclic_iff_exists_root h.replaces_unique).mpr fun block => ?_
  obtain ⟨original, hup, horiginal⟩ := hsound.founded block
  exact ⟨original, hup, h.root_iff.mpr horiginal⟩

/-- **The replacements of an accepted record set are well founded exactly when none comes back to
its own block.** -/
theorem accepted_lineage_sound (h : Stage14Accepted conv sha256 evidence records) :
    SoundLineage (blocksOf records) evidence.replacementBudget ↔
      Acyclic (Replaces (blocksOf records)) := by
  constructor
  · exact h.acyclic
  · intro hacyclic
    refine
      { founded := ?_
        unbranched := fun _ _ _ hfirst hsecond => h.replaced_unique hfirst hsecond
        ends := ?_
        bounded := h.bounded }
    · intro block
      obtain ⟨original, hup, hroot⟩ := exists_root hacyclic block
      exact ⟨original, hup, h.root_iff.mp hroot⟩
    · intro original _
      obtain ⟨active, hdown, hleaf⟩ := exists_leaf hacyclic original
      have hshared := shared (fun _ _ hreplaces => h.shares hreplaces) hdown
      obtain ⟨hrole, hrest⟩ := Prod.mk.inj hshared
      obtain ⟨hplatform, hbuild⟩ := Prod.mk.inj hrest
      refine ⟨active, leaf_iff.mp hleaf, hdown, hrole, hplatform, hbuild, ?_⟩
      intro other hother hdown'
      exact leaf_unique h.replaced_unique hdown' hdown (leaf_iff.mpr hother) hleaf

end Accepted

/-! ### A study to evaluate on -/

def numbered (tag : IdentifierTag) (name : String) (number : Nat) : Identifier tag :=
  ⟨95 :: (ascii name ++ decimal number), cons_ne_nil _ _⟩

/-- The catalog of a training block: its own subspace, and the seeds of a block. -/
def sampleCatalog (number seeds : Nat) : BlockSeedCatalog where
  role := .h3Train
  roleNamespaceId := named _ "training"
  blockSubspaceId := numbered _ "subspace" number
  derivationArtifact := artifactNamed "schema"
  wholePlotKey := ⟨0, 0⟩
  h0CellOrderKey := ⟨1, 0⟩
  h1CellOrderKey := ⟨2, 0⟩
  arrivalSeedIds := (List.range 18).map fun seed => numbered _ "arrival" (100 * seeds + seed)
  nodeSeedIds := (List.range 6).map fun seed => numbered _ "node" (100 * seeds + seed)
  eventSeedIds := (List.range 6).map fun seed => numbered _ "event" (100 * seeds + seed)

variable (number : Nat)

/-- The identity of the block with this number, as it is derived with the sample digest. -/
def sampleBlockId : BlockId where
  value :=
    ascii "stage-a-block-" ++ (firstBytes (ascii "\x7b\"block_ordinal\":" ++ decimal number ++
    ascii ",\"block_role\":\"H3_")).hex
  nonempty := append_ne_nil_of_left_ne_nil (by decide) _

/-- The request for a block with the seeds of that number, which replaces the one with the last. -/
def sampleInput (number seeds : Nat) (replaced : Option Nat) : BlockGenerationInput where
  platformId := named _ "platform"
  buildId := named _ "build"
  role := .h3Train
  blockOrdinal := .ofNat number
  seeds := sampleCatalog number seeds
  replacement := replaced.map fun replaced =>
    ⟨sampleBlockId replaced, numbered _ "authorization" number, .ofNat replaced, .h3Train,
      numbered _ "subspace" replaced⟩

/-- Blocks with neighbouring numbers have their whole plots the other way round. -/
def samplePlots : RequestedHardwareState × RequestedHardwareState :=
  if number % 2 = 0 then (.h0, .h1) else (.h1, .h0)

def sampleCells : List StageACell :=
  (plannedCells (sampleCatalog number number) (samplePlots number) (List.range 90)
    (List.range 90)).getD []

def sampleDigest (replaced : Option Nat) : Sha256 :=
  match Json.canonicalize noNumbers (blockDocument (sampleInput number number replaced)
    (sampleBlockId number) (samplePlots number) (sampleCells number) zeroSelf) with
  | .ok canonical => firstBytes canonical
  | .error _ => firstBytes []

def samplePlan (replaced : Option Nat) : BlockPlan :=
  planOf (sampleInput number number replaced) (sampleBlockId number) (samplePlots number)
    (sampleCells number) (sampleDigest number replaced)

theorem firstBytes_ascii (text : Text) :
    ((firstBytes text).hex.all fun byte => byte < 0x80) = true := by
  rw [all_eq_true]
  intro byte hbyte
  have hvalid := (firstBytes text).valid
  rw [validSha256, Bool.and_eq_true, lowercaseHex, all_eq_true] at hvalid
  have hlower := hvalid.2 byte hbyte
  revert hlower
  exact Json.forall_byte (p := fun byte => isLowerHex byte = true → decide (byte < 0x80) = true)
    (by decide) byte

theorem numbered_isUtf8 {tag : IdentifierTag} {name : String} (number : Nat)
    (h : ((ascii name).all fun byte => byte < 0x80) = true) :
    IsUtf8 (numbered tag name number).value := by
  refine Json.isUtf8_ascii ?_
  simp only [numbered, all_cons, all_append, h, Bool.true_and, Bool.and_eq_true]
  refine ⟨by decide, ?_⟩
  rw [all_eq_true]
  intro byte hbyte
  have hdigit := Json.decimal_digits number byte hbyte
  revert hdigit
  exact Json.forall_byte (p := fun byte => Json.isDigit byte = true → decide (byte < 0x80) = true)
    (by decide) byte

theorem sampleBlockId_isUtf8 : IsUtf8 (sampleBlockId number).value := by
  refine Json.isUtf8_ascii ?_
  rw [sampleBlockId, all_append, firstBytes_ascii]
  decide

theorem sampleInput_encoded (number seeds : Nat) (replaced : Option Nat) :
    EncodedInput (sampleInput number seeds replaced) where
  platform := by
    show IsUtf8 (named .platform "platform").value
    exact Json.isUtf8_ascii (by decide)
  build := by
    show IsUtf8 (named .build "build").value
    exact Json.isUtf8_ascii (by decide)
  subspace := by
    show IsUtf8 (numbered .namespaceId "subspace" number).value
    exact numbered_isUtf8 _ (by decide)
  seeds := by
    intro seed hseed
    simp only [BlockSeedCatalog.seeds, sampleInput, sampleCatalog, mem_append, mem_map]
      at hseed
    rcases hseed with (⟨_, -, rfl⟩ | ⟨_, -, rfl⟩) | ⟨_, -, rfl⟩
    · exact numbered_isUtf8 _ (by decide)
    · exact numbered_isUtf8 _ (by decide)
    · exact numbered_isUtf8 _ (by decide)
  replacement := by
    intro replacement hreplacement
    obtain ⟨replaced, -, rfl⟩ := Option.map_eq_some_iff.mp hreplacement
    exact ⟨sampleBlockId_isUtf8 _, numbered_isUtf8 _ (by decide),
      numbered_isUtf8 _ (by decide)⟩

/-- A plan of the study is valid, when its number makes an identity and its catalog is sound. -/
theorem samplePlan_valid {number : Nat} {replaced : Option Nat}
    (hid : makeBlockId noNumbers firstBytes (named _ "platform") (named _ "build") .h3Train
      (.ofNat number) = .ok (sampleBlockId number))
    (hcatalog : validateSeedCatalog (sampleCatalog number number) sampleNamespaces = [])
    (hreplacement : replacementErrors (samplePlan number replaced) = []) :
    validateBlockPlan noNumbers firstBytes (samplePlan number replaced)
      (sampleCatalog number number) sampleNamespaces = [] := by
  have hplots : samplePlots number = (.h0, .h1) ∨ samplePlots number = (.h1, .h0) := by
    rw [samplePlots]
    split
    · exact Or.inl rfl
    · exact Or.inr rfl
  obtain ⟨cells, hcells⟩ := Option.isSome_iff_exists.mp
    (plannedCells_isSome hcatalog (samplePlots number) (List.Perm.refl _) (List.Perm.refl _))
  have hsame : sampleCells number = cells := by rw [sampleCells, hcells, Option.getD_some]
  rw [samplePlan, hsame] at hreplacement ⊢
  obtain ⟨canonical, hcanonical, hvalid⟩ := planOf_planned (sampleInput number number replaced)
    hcells hplots (List.Perm.refl _) (List.Perm.refl _) hcatalog rfl hid (sampleInput_encoded _ _ _)
    fun _ => replacementErrors_planOf hreplacement
  have hdigest : sampleDigest number replaced = firstBytes canonical := by
    rw [sampleDigest, hsame, hcanonical]
  rw [hdigest]
  exact hvalid

def sampleRunId : RunId where
  value := 95 :: decimal number
  nonempty := cons_ne_nil _ _

/-- The authorization of the block with the first number in place of the other. -/
def sampleAuthorization (number replaced : Nat) : FreezeRecord :=
  { sampleFreeze "authorization" .replacementAuthorization .planned .planned
      ⟨named _ "replacer", .replacementAuthority⟩ [sampleBlockId replaced]
      [⟨artifactNamed "budget", .publicProtocol⟩] with
    recordId := numbered _ "authorization" number
    replacement := some
      ⟨sampleBlockId replaced, sampleBlockId number, .ofNat number, .h3Train,
        numbered _ "subspace" number, numbered _ "failure" number, named _ "budget"⟩ }

/-- The failure that was resolved by the block with the first number. -/
def sampleFailure (number replaced : Nat) : FailureRecord where
  schemaVersion := .v200pre2
  protocolVersion := .v200pre2
  failureRecordId := numbered _ "failure" number
  platformId := named _ "platform"
  stage := .stageA
  scope := .run
  runId := some (sampleRunId number)
  blockId := some (sampleBlockId replaced)
  buildId := some (named _ "build")
  invalidatesRun := true
  blockConsequence := .originalBlockIncomplete
  resolutionStatus := .replacementAuthorized
  replacementAuthorizationId := some (numbered _ "authorization" number)
  replacementBlockId := some (sampleBlockId number)
  evidenceRefs := []
  recordSha256 := firstBytes []
  sourceDocument := .null

/-- The invalid run of that failure, said to be of this block. -/
def sampleRun (number block : Nat) : RunManifest where
  schemaVersion := .v200pre2
  protocolVersion := .v200pre2
  runId := sampleRunId number
  platformId := named _ "platform"
  buildId := named _ "build"
  queueProvenanceId := named _ "queue"
  stage := .stageA
  runMode := .latency
  lifecycleState := .completed
  blockId := sampleBlockId block
  blockRole := .h3Train
  package := .r0
  requestedHardwareState := .h0
  placement := .near
  workingSetClass := .l2Resident
  loadLevel := .l050
  scheduleRefs := ⟨artifactNamed "measurement", artifactNamed "warmup"⟩
  validity := .invalid
  countReconciliation := .fail
  zeroLossStatus := .notEvaluated
  effectiveTailStatus := .notEvaluated
  confirmatoryEstimability := .notEvaluated
  confirmatoryBlockers := []
  blockCompleteness := .incomplete
  joinStatus := .notAttempted
  counts := none
  integrityEvidence := none
  failureRecordIds := [numbered _ "failure" number]
  artifactRefs := []
  manifestSha256 := firstBytes []
  sourceDocument := .null

/-- The blocks of a study, each by its number, with the number of the one it replaces. -/
abbrev SampleBlocks := List (Nat × Option Nat)

def SampleBlocks.plans (members : SampleBlocks) : List BlockPlan :=
  members.map fun member => samplePlan member.1 member.2

def SampleBlocks.replacements (members : SampleBlocks) : List (Nat × Nat) :=
  members.filterMap fun member => member.2.map fun replaced => (member.1, replaced)

/-- The access records of the study, which is sealed and opened for one block. -/
def SampleBlocks.freezes (members : SampleBlocks) (active : Nat) : List FreezeRecord :=
  [sampleSeal [sampleBlockId active],
      sampleOpening [sampleBlockId active] [("r_h1", 1), ("r_h2", 1), ("r12", 1), ("rtrain", 1),
        ("rval", 0), ("rtotal", 1), ("nruns", 180)]] ++
    members.replacements.map fun link => sampleAuthorization link.1 link.2

/-- The records of the study; the run behind a replacement may be of any of its blocks. -/
def SampleBlocks.records (members : SampleBlocks) (active : Nat) (blockOfRun : Nat × Nat → Nat) :
    List ProtocolRecord :=
  members.plans.map .blockPlan ++ (members.freezes active).map .freezeRecord ++
    members.replacements.map (fun link => .failureRecord (sampleFailure link.1 link.2)) ++
    members.replacements.map fun link => .runManifest (sampleRun link.1 (blockOfRun link))

/-- The evidence of the study: one active training block, and two replacements at most. -/
def SampleBlocks.evidence (members : SampleBlocks) : Stage14Evidence where
  namespaces := sampleNamespaces
  seedCatalogs := members.map fun member => sampleCatalog member.1 member.1
  artifacts := ⟨artifactNamed "budget", .publicProtocol, none, none, none, none, none⟩ ::
    sampleArtifacts
  authorities := samplePolicy
  precision := some ⟨.resolved, some ⟨1, 1, 1, 1, 0, 1, 180⟩, some ⟨1, 0, 0⟩, none, []⟩
  replacementBudget := some ⟨named _ "platform", 2, artifactNamed "budget"⟩

/-- A pool of one training block. -/
theorem validateBlockPool_single {registry : RoleNamespaceRegistry} {block : BlockPlan}
    {catalog : BlockSeedCatalog}
    (hvalid : validateBlockPlan noNumbers firstBytes block catalog registry = [])
    (hseeds : catalog.seeds.Nodup) (hrole : block.blockRole = .h3Train) :
    validateBlockPool noNumbers firstBytes [block] [catalog] registry ⟨1, 0, 0⟩ = [] := by
  have hfresh : ∀ error, (recordSeeds error [] catalog.seeds).2 = [] := fun error =>
    recordSeeds_eq_nil.mpr ⟨hseeds, fun _ _ => not_mem_nil⟩
  have hbalance : plotImbalance [block] ≤ 1 := by
    simp only [plotImbalance, countP_singleton]
    split <;> split <;> split <;> omega
  have hsum : checkedAdd (1 : UInt64) 0 = some 1 := by decide
  simp [validateBlockPool, hsum, auditPool, PoolAudit.block, hvalid, hfresh, hbalance, roleCount,
    hrole]

/-- Every catalog of the study is sound and found for its block, and the block's own rules hold. -/
def SampleBlocks.planned (members : SampleBlocks) : Bool :=
  members.all fun member =>
    validateSeedCatalog (sampleCatalog member.1 member.1) sampleNamespaces = [] &&
      replacementErrors (samplePlan member.1 member.2) = [] &&
      (makeBlockId noNumbers firstBytes (named _ "platform") (named _ "build") .h3Train
        (.ofNat member.1)).toOption = some (sampleBlockId member.1) &&
      catalogFor members.evidence.seedCatalogs (samplePlan member.1 member.2) =
        some (sampleCatalog member.1 member.1)

/-- The rules on the blocks together: one block is left, and no seed or original is shared. -/
def SampleBlocks.pooled (members : SampleBlocks) (active : Nat) : Bool :=
  (members.filter fun member => !isReplaced members.plans (sampleBlockId member.1)).map Prod.fst =
      [active] &&
    (members.flatMap fun member => (sampleCatalog member.1 member.1).seeds).Nodup &&
    (members.plans.filterMap BlockPlan.replacesBlockId).Nodup

/-- The rules on the other records. -/
def SampleBlocks.recorded (members : SampleBlocks) (active : Nat) (blockOfRun : Nat × Nat → Nat) :
    Bool :=
  (members.freezes active).all (fun freeze => validateFreeze freeze = []) &&
    members.replacements.all (fun link => validateFailure (sampleFailure link.1 link.2) = [] &&
      validateManifest (sampleRun link.1 (blockOfRun link)) = []) &&
    (validateAccessLedger noNumbers firstBytes members.plans members.evidence.artifacts
      sampleNamespaces samplePolicy (members.freezes active)).errors = [] &&
    trainingOpenErrors members.evidence (members.freezes active) = [] &&
    budgetErrors members.evidence members.plans = [] &&
    members.plans.all fun block => replacementBlockErrors members.plans (members.freezes active)
      (members.replacements.map fun link => sampleFailure link.1 link.2)
      (members.replacements.map fun link => sampleRun link.1 (blockOfRun link))
      members.evidence.replacementBudget block = []

section Study

variable {members : SampleBlocks} {active : Nat} {blockOfRun : Nat × Nat → Nat}

theorem SampleBlocks.planned_valid (h : members.planned = true) {member : Nat × Option Nat}
    (hmember : member ∈ members) :
    catalogFor members.evidence.seedCatalogs (samplePlan member.1 member.2) =
        some (sampleCatalog member.1 member.1) ∧
      validateBlockPlan noNumbers firstBytes (samplePlan member.1 member.2)
        (sampleCatalog member.1 member.1) sampleNamespaces = [] := by
  have hplanned := List.all_eq_true.mp h member hmember
  simp only [Bool.and_eq_true, decide_eq_true_eq] at hplanned
  obtain ⟨⟨⟨hcatalog, hshape⟩, hid⟩, hfound⟩ := hplanned
  exact ⟨hfound, samplePlan_valid (Fallible.of_toOption hid) hcatalog hshape⟩

theorem SampleBlocks.sorted (members : SampleBlocks) (active : Nat)
    (blockOfRun : Nat × Nat → Nat) :
    blocksOf (members.records active blockOfRun) = members.plans ∧
      freezesOf (members.records active blockOfRun) = members.freezes active ∧
      failuresOf (members.records active blockOfRun) =
        members.replacements.map (fun link => sampleFailure link.1 link.2) ∧
      manifestsOf (members.records active blockOfRun) =
        members.replacements.map (fun link => sampleRun link.1 (blockOfRun link)) := by
  refine ⟨?_, ?_, ?_, ?_⟩ <;>
    simp [blocksOf, freezesOf, failuresOf, manifestsOf, SampleBlocks.records,
      filterMap_append, filterMap_map, Function.comp_def, blockOf, freezeOf, failureOf,
      manifestOf]

theorem filterMap_catalog {catalogs : List BlockSeedCatalog} {members : SampleBlocks}
    (h : ∀ member ∈ members, catalogFor catalogs (samplePlan member.1 member.2) =
      some (sampleCatalog member.1 member.1)) :
    members.plans.filterMap (catalogFor catalogs) =
      members.map fun member => sampleCatalog member.1 member.1 := by
  rw [SampleBlocks.plans, filterMap_map, ← filterMap_eq_map]
  exact filterMap_congr h

theorem SampleBlocks.activePool_eq (h : members.planned = true) :
    activePool members.evidence members.plans =
      (members.filter fun member => !isReplaced members.plans (sampleBlockId member.1)).map
        fun member => (samplePlan member.1 member.2, sampleCatalog member.1 member.1) := by
  rw [activePool]
  generalize isReplaced members.plans = replaced
  rw [SampleBlocks.plans, filterMap_map, ← filterMap_eq_map, filterMap_filter]
  refine filterMap_congr fun member hmember => ?_
  have hid : (samplePlan member.1 member.2).blockId = sampleBlockId member.1 := rfl
  simp only [Function.comp_apply, (planned_valid h hmember).1, hid]
  cases replaced (sampleBlockId member.1) <;> rfl

/-- A study whose rules hold is accepted. -/
theorem SampleBlocks.accepted (hplanned : members.planned = true)
    (hpooled : members.pooled active = true)
    (hrecorded : members.recorded active blockOfRun = true) :
    Stage14Accepted noNumbers firstBytes members.evidence (members.records active blockOfRun) := by
  obtain ⟨hblocks, hfreezes, hfailures, hmanifests⟩ := members.sorted active blockOfRun
  simp only [SampleBlocks.pooled, Bool.and_eq_true, decide_eq_true_eq] at hpooled
  obtain ⟨⟨hactive, hseeds⟩, hunbranched⟩ := hpooled
  simp only [SampleBlocks.recorded, Bool.and_eq_true, decide_eq_true_eq, all_eq_true]
    at hrecorded
  obtain ⟨⟨⟨⟨⟨hfreezeRules, hlinkRules⟩, hledger⟩, hopening⟩, hbudget⟩, hresolved⟩ := hrecorded
  have hcatalogs := filterMap_catalog fun member hmember => (planned_valid hplanned hmember).1
  refine stage14Accepted_iff.mpr
    { wellFormed := ?_
      unbranched := by rwa [hblocks]
      catalogs := ?_
      seeds := ?_
      pool := ?_
      ledger := by rwa [hblocks, hfreezes]
      opening := by rwa [hfreezes]
      budget := by rwa [hblocks]
      replacements := by rwa [hblocks, hfreezes, hfailures, hmanifests] }
  · intro record hrecord
    simp only [SampleBlocks.records, mem_append, mem_map] at hrecord
    rcases hrecord with ((⟨block, hblock, rfl⟩ | ⟨freeze, hfreeze, rfl⟩) | ⟨link, hlink, rfl⟩) |
      ⟨link, hlink, rfl⟩
    · obtain ⟨member, hmember, rfl⟩ := List.mem_map.mp hblock
      exact (validBlock_parts (planned_valid hplanned hmember).2).2
    · exact hfreezeRules freeze hfreeze
    · exact (hlinkRules link hlink).1
    · exact (hlinkRules link hlink).2
  · rw [hblocks]
    intro block hblock
    obtain ⟨member, hmember, rfl⟩ := List.mem_map.mp hblock
    exact ⟨_, planned_valid hplanned hmember⟩
  · rw [hblocks, seedsOf, hcatalogs, flatMap_map]
    exact hseeds
  · obtain ⟨member, hmembers, hnumber⟩ := List.map_eq_singleton_iff.mp hactive
    have hmember : member ∈ members := mem_of_mem_filter (by rw [hmembers]; simp)
    have hnodup : (sampleCatalog member.1 member.1).seeds.Nodup :=
      (List.nodup_flatMap.mp hseeds).1 member hmember
    rw [hblocks, poolErrors, SampleBlocks.activePool_eq hplanned, hmembers]
    exact validateBlockPool_single (planned_valid hplanned hmember).2 hnodup rfl

end Study

/-- Two blocks that replace each other, beside the one that is left. -/
def circularStudy : SampleBlocks := [(1, none), (2, some 3), (3, some 2)]

theorem circularStudy_accepted :
    Stage14Accepted noNumbers firstBytes circularStudy.evidence
      (circularStudy.records 1 Prod.snd) :=
  SampleBlocks.accepted (by decide +kernel) (by decide +kernel) (by decide +kernel)

theorem circularStudy_cycle :
    ¬Acyclic (Replaces (blocksOf (circularStudy.records 1 Prod.snd))) := by
  rw [(circularStudy.sorted 1 Prod.snd).1]
  intro hacyclic
  have hmem : ∀ member ∈ circularStudy, samplePlan member.1 member.2 ∈ circularStudy.plans :=
    fun member hmember => mem_map_of_mem hmember
  let second : Member circularStudy.plans := ⟨_, hmem (2, some 3) (by decide)⟩
  let third : Member circularStudy.plans := ⟨_, hmem (3, some 2) (by decide)⟩
  have hsecond : Replaces circularStudy.plans second third := rfl
  have hthird : Replaces circularStudy.plans third second := rfl
  exact hacyclic second (.head hsecond (.single hthird))

/-- Two blocks that replace each other are accepted, though neither leads to an original. -/
theorem circular_lineage_accepted :
    ∃ evidence records, Stage14Accepted noNumbers firstBytes evidence records ∧
      ¬SoundLineage (blocksOf records) evidence.replacementBudget :=
  ⟨_, _, circularStudy_accepted, fun hsound =>
    circularStudy_cycle (circularStudy_accepted.acyclic hsound)⟩

/-- A block that was replaced, and its replacement, which was replaced in turn. -/
def chainedStudy : SampleBlocks := [(1, none), (2, some 1), (3, some 2)]

theorem chainedStudy_accepted :
    Stage14Accepted noNumbers firstBytes chainedStudy.evidence (chainedStudy.records 3 Prod.snd) :=
  SampleBlocks.accepted (by decide +kernel) (by decide +kernel) (by decide +kernel)

theorem accepted_lineage_sound_chained :
    SoundLineage (blocksOf (chainedStudy.records 3 Prod.snd))
        chainedStudy.evidence.replacementBudget ↔
      Acyclic (Replaces (blocksOf (chainedStudy.records 3 Prod.snd))) :=
  accepted_lineage_sound chainedStudy_accepted

end CpuPrefetch.Orchestration
