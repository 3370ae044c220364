/-
`Stage14CrossRecordSemanticValidator`: the block pool, the access ledger and the
replacements of one record set, against the evidence the validator was made with.
-/
import CpuPrefetch.Orchestration.Access

namespace CpuPrefetch.Orchestration

open Protocol
open Protocol.Json (CharConv)

/-- What the validator holds besides the records. -/
structure Stage14Evidence where
  namespaces : RoleNamespaceRegistry
  seedCatalogs : List BlockSeedCatalog
  artifacts : List ArtifactAccessRecord
  authorities : AuthorityPolicy
  precision : Option PrecisionResult
  replacementBudget : Option ReplacementBudget

/-! ### The records by kind -/

def blockOf : ProtocolRecord → Option BlockPlan
  | .blockPlan record => some record
  | _ => none

def freezeOf : ProtocolRecord → Option FreezeRecord
  | .freezeRecord record => some record
  | _ => none

def failureOf : ProtocolRecord → Option FailureRecord
  | .failureRecord record => some record
  | _ => none

def manifestOf : ProtocolRecord → Option RunManifest
  | .runManifest record => some record
  | _ => none

variable (records : List ProtocolRecord)

def blocksOf : List BlockPlan := records.filterMap blockOf
def freezesOf : List FreezeRecord := records.filterMap freezeOf
def failuresOf : List FailureRecord := records.filterMap failureOf
def manifestsOf : List RunManifest := records.filterMap manifestOf

/-! ### The pool -/

def catalogFor (catalogs : List BlockSeedCatalog) (block : BlockPlan) : Option BlockSeedCatalog :=
  catalogs.find? fun candidate => candidate.blockSubspaceId = block.seedSubspaceId

/-- One error for each block that replaces a block an earlier one replaces. -/
def branchErrors : List BlockId → List BlockPlan → List ValidationError
  | _, [] => []
  | replaced, block :: rest =>
      match block.replacesBlockId with
      | none => branchErrors replaced rest
      | some original =>
          require (original ∉ replaced)
            ⟨.duplicateValue, "$/blocks/replaces_block_id", "REPLACEMENT-NO-BRANCH",
              "an incomplete block may have only one direct replacement"⟩ ++
          branchErrors (original :: replaced) rest

section Digest

variable (conv : CharConv) (sha256 : Text → Sha256)

/-- The loop over the blocks: each against its catalog, whose seeds no earlier one may have. -/
def catalogErrors (evidence : Stage14Evidence) : List SeedId → List BlockPlan → List ValidationError
  | _, [] => []
  | seen, block :: rest =>
      match catalogFor evidence.seedCatalogs block with
      | none =>
          ⟨.missingEvidence, "$/blocks/seed_subspace_id", "BLK-SEED-CATALOG-MISSING",
            "every block requires its immutable role-compatible seed catalog"⟩ ::
          catalogErrors evidence seen rest
      | some catalog =>
          let reuse :=
            recordSeeds
              ⟨.duplicateValue, "$/seed_catalogs", "BLK-POOL-SEED-NO-REUSE",
                "original and replacement block seed subspaces cannot overlap"⟩
              seen catalog.seeds
          validateBlockPlan conv sha256 block catalog evidence.namespaces ++ reuse.2 ++
          catalogErrors evidence reuse.1 rest

/-- The blocks that nothing replaces and that have a catalog, each with it. -/
def activePool (evidence : Stage14Evidence) (blocks : List BlockPlan) :
    List (BlockPlan × BlockSeedCatalog) :=
  blocks.filterMap fun block =>
    match catalogFor evidence.seedCatalogs block with
    | none => none
    | some catalog => if isReplaced blocks block.blockId then none else some (block, catalog)

/-- The counts the pool is held to, once the precision plan is resolved. -/
def resolvedRoleCounts (evidence : Stage14Evidence) : Option RoleCounts :=
  match evidence.precision with
  | some precision => if precision.state = .resolved then precision.roleCounts else none
  | none => none

def poolErrors (evidence : Stage14Evidence) (blocks : List BlockPlan) : List ValidationError :=
  match resolvedRoleCounts evidence with
  | some counts =>
      let active := activePool evidence blocks
      validateBlockPool conv sha256 (active.map Prod.fst) (active.map Prod.snd) evidence.namespaces
        counts
  | none =>
      [⟨.missingEvidence, "$/precision", "BLK-POOL-PRECISION-UNRESOLVED",
        "final common block-pool completeness requires resolved prospective counts"⟩]

end Digest

/-! ### The freeze that opens training -/

def opensTraining (freeze : FreezeRecord) : Bool :=
  freeze.recordKind = .protocolFreeze && freeze.accessStateAfter = .trainingOpen

/-- The references of the precision evidence that are frozen by name. -/
def ProspectivePrecisionEvidence.immutable (evidence : ProspectivePrecisionEvidence) :
    List Load.ArtifactReference :=
  [evidence.deltaStar, evidence.bootstrapConfiguration, evidence.h1Sizing, evidence.h2Sizing,
    evidence.h3TrainingSizing, evidence.h3ValidationSizing]

/-- The freeze names and hashes the evidence the counts were computed from. -/
def precisionBound (trainingOpen : FreezeRecord) (decision : TrainingOpenDecision)
    (evidence : ProspectivePrecisionEvidence) : Bool :=
  decision.deltaStarArtifactId = evidence.deltaStar.artifactId.val &&
    decision.bootstrapConfigurationArtifactId = evidence.bootstrapConfiguration.artifactId.val &&
    evidence.immutable.all (inputContains trainingOpen) &&
    evidence.inputArtifacts.all fun input => inputContains trainingOpen input.artifact

def trainingOpenErrors (evidence : Stage14Evidence) (freezes : List FreezeRecord) :
    List ValidationError :=
  match freezes.filter opensTraining with
  | [trainingOpen] =>
      match decodeTrainingOpenDecision trainingOpen, evidence.precision with
      | .ok decision, some precision =>
          require (precision.counts.all (decision.counts = ·))
            ⟨.referenceMismatch, "$/access_records/decision_value",
              "ACCESS-PRECISION-FREEZE-COUNTS",
              "TRAINING_OPEN counts must equal the resolved prospective precision plan"⟩ ++
          require (precision.evidence.all (precisionBound trainingOpen decision))
            ⟨.referenceMismatch, "$/access_records/input_artifacts",
              "ACCESS-PRECISION-FREEZE-INPUTS",
              "TRAINING_OPEN must hash-bind the exact delta, bootstrap, separate family sizing, " ++
                "and prospective source evidence"⟩
      | _, _ => []
  | _ =>
      [⟨.missingEvidence, "$/access_records", "ACCESS-TRAINING-FREEZE-UNIQUE",
        "the common block pool requires exactly one immutable TRAINING_OPEN freeze"⟩]

/-! ### Replacements -/

def budgetErrors (evidence : Stage14Evidence) (blocks : List BlockPlan) : List ValidationError :=
  match evidence.replacementBudget with
  | some budget =>
      require (artifactFor evidence.artifacts budget.budgetArtifact).isSome
        ⟨.referenceMismatch, "$/replacement_budget/budget_artifact", "REPLACEMENT-BUDGET-EVIDENCE",
          "the frozen replacement budget must resolve by exact artifact ID and SHA-256"⟩ ++
      require (replacementCount blocks ≤ budget.maximumReplacementBlocks.toNat)
        ⟨.outOfRange, "$/replacement_budget", "REPLACEMENT-BUDGET-EXCEEDED",
          "replacement count exceeds R_replacement_max and study must remain unresolved"⟩
  | none =>
      require (!blocks.any fun block => block.replacesBlockId.isSome)
        ⟨.missingEvidence, "$/replacement_budget", "REPLACEMENT-BUDGET-MISSING",
          "replacement blocks require a frozen platform budget"⟩

/-- The replacement keeps its original's role, platform and build, and nothing else of it. -/
def retainsOriginal (block original : BlockPlan) : Bool :=
  block.platformId = original.platformId && block.buildId = original.buildId &&
    block.blockRole = original.blockRole && block.blockOrdinal ≠ original.blockOrdinal &&
    block.seedSubspaceId ≠ original.seedSubspaceId &&
    (block.replacementLineage.any fun lineage =>
      lineage.replacedBlockOrdinal = original.blockOrdinal &&
        lineage.replacedBlockRole = original.blockRole &&
        lineage.replacedSeedSubspaceId = original.seedSubspaceId) &&
    !(block.wholePlotOrder = original.wholePlotOrder &&
      orderedFactorSequence block = orderedFactorSequence original)

/-- The authorization names both blocks, and the budget by name and digest. -/
def recordsReplacement (budget : Option ReplacementBudget) (block : BlockPlan) (replaced : BlockId)
    (authorization : FreezeRecord) (authorized : ReplacementAuthorization) : Bool :=
  authorized.replacementBlockId = block.blockId && authorized.originalBlockId = replaced &&
    authorized.replacementBlockOrdinal = block.blockOrdinal &&
    authorized.replacementSeedSubspaceId = block.seedSubspaceId &&
    authorized.blockRole = block.blockRole &&
    budget.any fun budget =>
      authorized.replacementBudgetRecordId.value = budget.budgetArtifact.artifactId.val &&
        inputContains authorization budget.budgetArtifact

/-- The failure was resolved by this authorization, for these two blocks. -/
def resolvesReplacement (block : BlockPlan) (replaced : BlockId) (authorization : FreezeRecord)
    (failure : FailureRecord) : Bool :=
  failure.invalidatesRun && failure.blockId = some replaced &&
    failure.resolutionStatus = .replacementAuthorized &&
    failure.replacementAuthorizationId = some authorization.recordId &&
    failure.replacementBlockId = some block.blockId

section Resolution

variable (blocks : List BlockPlan) (freezes : List FreezeRecord) (failures : List FailureRecord)
  (manifests : List RunManifest)

/-- The retained original of a replacement. -/
def originalOf (replaced : BlockId) (block : BlockPlan) : Option BlockPlan :=
  (idIn blocks replaced).filter fun original => retainsOriginal block original

/-- The access record with the authorization's identity. -/
def authorizationOf (authorizationId : RecordId) : Option FreezeRecord :=
  freezes.find? fun record => record.recordId = authorizationId

def failureFor (failureRecordId : RecordId) : Option FailureRecord :=
  failures.find? fun record => record.failureRecordId = failureRecordId

/-- The retained invalid run of a failure. -/
def invalidRunOf (failure : FailureRecord) : Option RunManifest :=
  failure.runId.bind fun runId =>
    manifests.find? fun run => run.runId = runId && run.validity = .invalid

/-- The rules of one replacement; each is reached only past those before it. -/
def replacementResolution (budget : Option ReplacementBudget) (block : BlockPlan)
    (replaced : BlockId) (authorizationId : RecordId) : List ValidationError :=
  if (originalOf blocks replaced block).isNone then
    [⟨.referenceMismatch, "$/replacement_lineage", "REPLACEMENT-ORIGINAL-RESOLUTION",
      "replacement lineage must resolve the retained original with the same platform/build/role " ++
        "and a new ordinal, seed subspace, and randomized order"⟩]
  else
    match (authorizationOf freezes authorizationId).bind fun record =>
        record.replacement.map fun authorized => (record, authorized) with
    | none =>
        [⟨.referenceMismatch, "$/replacement_authorization_id", "REPLACEMENT-RECORD-RESOLUTION",
          "replacement plan must resolve an authorization naming both block identities"⟩]
    | some (authorization, authorized) =>
        if !recordsReplacement budget block replaced authorization authorized then
          [⟨.referenceMismatch, "$/replacement_authorization_id", "REPLACEMENT-RECORD-RESOLUTION",
            "replacement plan must resolve an authorization naming both block identities"⟩]
        else
          require ((failureFor failures authorized.failureRecordId).any fun failure =>
              (invalidRunOf manifests failure).isSome &&
                resolvesReplacement block replaced authorization failure)
            ⟨.missingEvidence, "$/replacement/failure_record_id",
              "REPLACEMENT-INVALID-RUN-RESOLUTION",
              "replacement authorization must resolve a retained invalid required run and failure"⟩

/-- A block without both of the replacement's references is passed over. -/
def replacementBlockErrors (budget : Option ReplacementBudget) (block : BlockPlan) :
    List ValidationError :=
  match block.replacesBlockId, block.replacementAuthorizationId with
  | some replaced, some authorizationId =>
      replacementResolution blocks freezes failures manifests budget block replaced authorizationId
  | _, _ => []

end Resolution

/-! ### The validator -/

section Digest

variable (conv : CharConv) (sha256 : Text → Sha256)

def validateStage14 (evidence : Stage14Evidence) (records : List ProtocolRecord) :
    List ValidationError :=
  let blocks := blocksOf records
  let freezes := freezesOf records
  records.flatMap validateRecord ++
  branchErrors [] blocks ++
  catalogErrors conv sha256 evidence [] blocks ++
  poolErrors conv sha256 evidence blocks ++
  (validateAccessLedger conv sha256 blocks evidence.artifacts evidence.namespaces
    evidence.authorities freezes).errors ++
  trainingOpenErrors evidence freezes ++
  budgetErrors evidence blocks ++
  blocks.flatMap
    (replacementBlockErrors blocks freezes (failuresOf records) (manifestsOf records)
      evidence.replacementBudget)

end Digest

end CpuPrefetch.Orchestration
