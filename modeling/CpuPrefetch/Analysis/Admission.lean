/-
The checks `run_synthetic_analysis` makes of its input before it looks at any outcome.

Every check adds its errors to the ones before it; the analysis goes on only when there is none
in the end.
-/
import CpuPrefetch.Analysis.Selection

namespace CpuPrefetch.Analysis

open Protocol Orchestration
open Protocol.Json (CharConv Object Value)
open Protocol.Load (ArtifactReference)
open Workload (kDeterministicSuite)

variable {F : Type} (conv : CharConv) (sha256 : Text → Sha256) (arith : Binary64 F)

/-! ### The configuration -/

/-- Sixteen lowercase hexadecimal digits. -/
def floatBits (value : F) : Text :=
  [60, 56, 52, 48, 44, 40, 36, 32, 28, 24, 20, 16, 12, 8, 4, 0].map fun shift : UInt64 =>
    Json.hexDigitText ((arith.bits value >>> shift).toUInt8 &&& 0x0f)

def softwareValue (software : SoftwareVersions) : Value :=
  .object <| Object.of
    [(ascii "compiler", .string software.compiler),
      (ascii "implementation_revision", .string software.implementationRevision),
      (ascii "standard_library", .string software.standardLibrary)]

def bootstrapValue (bootstrap : BootstrapConfiguration) : Value :=
  .object <| Object.of
    [(ascii "key0", uintValue bootstrap.key.word0.toUInt64),
      (ascii "key1", uintValue bootstrap.key.word1.toUInt64),
      (ascii "profile", .string bootstrap.profile),
      (ascii "replicates", uintValue bootstrap.replicates),
      (ascii "rng_algorithm_version", .string bootstrap.rngAlgorithmVersion),
      (ascii "seed_id", .string bootstrap.seedId.value)]

def countsValue (counts : ProspectiveCounts) : Value :=
  .object <| Object.of
    [(ascii "nruns", uintValue counts.nruns), (ascii "r12", uintValue counts.r12),
      (ascii "r_h1", uintValue counts.rH1), (ascii "r_h2", uintValue counts.rH2),
      (ascii "rtrain", uintValue counts.rtrain), (ascii "rtotal", uintValue counts.rtotal),
      (ascii "rval", uintValue counts.rval)]

def canonicalConfiguration (configuration : AnalysisConfiguration F) : Result Text :=
  Json.canonicalize conv <| .object <| Object.of
    [(ascii "analysis_profile", .string configuration.analysisProfile),
      (ascii "bootstrap", bootstrapValue configuration.bootstrap),
      (ascii "configuration_artifact_id",
        .string configuration.configurationArtifact.artifactId.val),
      (ascii "delta_star_binary64", .string (floatBits arith configuration.deltaStar)),
      (ascii "expected_counts", countsValue configuration.expectedCounts),
      (ascii "protocol_version", .string (protocolName configuration.protocolVersion)),
      (ascii "software", softwareValue configuration.software),
      (ascii "sizing_artifacts",
        .array (configuration.precision.families.map fun family =>
          artifactValue family.sizingArtifact))]

def configurationErrors (configuration : AnalysisConfiguration F) : List ValidationError :=
  require (configuration.protocolVersion = .v200pre2 &&
      configuration.analysisProfile = kAnalysisProfile &&
      configuration.bootstrap.profile = kBootstrapProfile &&
      configuration.bootstrap.rngAlgorithmVersion = kDeterministicSuite &&
      configuration.bootstrap.replicates ≥ 2 &&
      !configuration.software.implementationRevision.isEmpty &&
      !configuration.software.compiler.isEmpty &&
      !configuration.software.standardLibrary.isEmpty)
    ⟨.missingEvidence, "$/configuration", "ANALYSIS-CONFIGURATION",
      "the versioned analysis, software, and bootstrap configuration is mandatory"⟩

/-- The loop over the artifacts, from this index on, with the identifiers seen before. -/
def artifactErrors : Nat → List Text → List ImmutableArtifact → List ValidationError
  | _, _, [] => []
  | index, seen, artifact :: rest =>
      require (artifact.protocolVersion = .v200pre2)
        ⟨.unsupportedVersion, "$/artifacts/" ++ toString index, "ANALYSIS-MIXED-VERSION",
          "mixed protocol versions are forbidden"⟩ ++
      require (artifact.reference.artifactId.val ∉ seen)
        ⟨.duplicateValue, "$/artifacts/" ++ toString index, "ANALYSIS-ARTIFACT-UNIQUE",
          "artifact IDs must be globally unique"⟩ ++
      require (verifyArtifact sha256 artifact)
        ⟨.invalidHash, "$/artifacts/" ++ toString index, "ANALYSIS-ARTIFACT-HASH",
          "every consumed artifact must be finalized and checksum-valid"⟩ ++
      artifactErrors (index + 1) (artifact.reference.artifactId.val :: seen) rest

variable (input : AnalysisInput F)

/-- The configuration artifact is the one named, and has the bytes of the configuration. -/
def configurationBound : Bool :=
  match canonicalConfiguration conv arith input.configuration with
  | .error _ => false
  | .ok bytes =>
      (findArtifact input.artifacts input.configuration.configurationArtifact.artifactId.val).any
        fun artifact => artifact.reference = input.configuration.configurationArtifact &&
          artifact.bytes = bytes

/-- The counts the study was sized for. -/
def precisionOf : Result ProspectiveCounts :=
  evaluateProspectivePrecision arith input.configuration.precision input.configuration.deltaStar

def precisionErrors : List ValidationError :=
  match precisionOf arith input with
  | .error errors => errors
  | .ok counts =>
      require (counts = input.configuration.expectedCounts)
        ⟨.crossField, "$/configuration/expected_counts", "ANALYSIS-PRECISION-COUNTS",
          "expected counts must equal the prospective family calculations"⟩

def sizingErrors : List ValidationError :=
  input.configuration.precision.families.flatMap fun family =>
    require (resolves sha256 input.artifacts family.sizingArtifact)
      ⟨.missingEvidence, "$/configuration/precision", "ANALYSIS-SIZING-HASH",
        "every prospective precision family must resolve immutable sizing evidence"⟩

def designErrors : List ValidationError :=
  require (stageADesignRank arith = 40)
    ⟨.crossField, "$/analysis/design", "ANALYSIS-DESIGN-RANK",
      "the frozen 40-column Stage A design is not full rank"⟩

/-! ### The blocks -/

/-- The original a block is in place of. -/
def BlockInput.replaces (block : BlockInput) : Option BlockId := block.plan.replacesBlockId

/-- The errors of a block that replaces another, with the originals replaced before. -/
def replacementInputErrors (base : String) (replaced : List BlockId) (block : BlockInput) :
    List ValidationError :=
  match block.replaces with
  | none => []
  | some original =>
      require block.replacementBudgetValidationPassed
        ⟨.missingEvidence, base, "ANALYSIS-REPLACEMENT-BUDGET",
          "an active replacement requires passing frozen-budget evidence"⟩ ++
      require (original ∉ replaced)
        ⟨.duplicateValue, base, "ANALYSIS-REPLACEMENT-BRANCH",
          "multiple replacements of one original block are forbidden"⟩

/-- The loop over the blocks, with the identities and the originals seen before. -/
def blockErrors (namespaces : RoleNamespaceRegistry) (artifacts : List ImmutableArtifact) :
    Nat → List BlockId → List BlockId → List BlockInput → List ValidationError
  | _, _, _, [] => []
  | index, seen, replaced, block :: rest =>
      let base := "$/blocks/" ++ toString index
      require (block.plan.blockId ∉ seen)
        ⟨.duplicateValue, base ++ "/block_id", "ANALYSIS-BLOCK-ID-UNIQUE",
          "block IDs must be unique"⟩ ++
      require block.stage14CrossRecordValidationPassed
        ⟨.missingEvidence, base, "ANALYSIS-STAGE14-PROOF",
          "every block requires a passing Stage 14 cross-record proof"⟩ ++
      validateBlockPlan conv sha256 block.plan block.seedCatalog namespaces ++
      require (resolves sha256 artifacts block.planArtifact)
        ⟨.invalidHash, base ++ "/plan_artifact", "ANALYSIS-PLAN-HASH",
          "block plan artifact must resolve and pass its checksum"⟩ ++
      replacementInputErrors base replaced block ++
      blockErrors namespaces artifacts (index + 1) (block.plan.blockId :: seen)
        (block.replaces.toList ++ replaced) rest

variable (blocks : List BlockInput)

/-- One platform, and one build. -/
def platformErrors : List ValidationError :=
  require (((blocks.map fun block => block.plan.platformId).dedup.length = 1) &&
      (blocks.map fun block => block.plan.buildId).dedup.length = 1)
    ⟨.crossField, "$/blocks", "ANALYSIS-PLATFORM-CONDITIONED",
      "one analysis invocation is conditioned on exactly one platform and build; mixed-platform " ++
        "random effects require a separately frozen profile"⟩

def blockNamed (id : BlockId) : Option BlockInput :=
  blocks.find? fun block => block.plan.blockId = id

/-- A block may supersede this original. -/
def supersedes (block original : BlockInput) : Bool :=
  !original.activePrimary && block.activePrimary &&
    original.plan.blockRole = block.plan.blockRole &&
    original.plan.platformId = block.plan.platformId && original.plan.buildId = block.plan.buildId

def lineageErrors : List ValidationError :=
  blocks.flatMap fun block =>
    match block.replaces with
    | none => []
    | some original =>
        require ((blockNamed blocks original).any (supersedes block))
          ⟨.crossField, "$/blocks/replacement", "ANALYSIS-REPLACEMENT-LINEAGE",
            "active replacement must supersede one retained inactive original with the same " ++
              "role/platform/build"⟩

def activeRoleCount (role : BlockRole) : UInt64 :=
  .ofNat (blocks.countP fun block => block.activePrimary && block.plan.blockRole = role)

def roleCountErrors : List ValidationError :=
  match precisionOf arith input with
  | .error _ => []
  | .ok counts =>
      let trainValidation := counts.rtrain + counts.rval
      let supplemental := if counts.r12 > trainValidation then counts.r12 - trainValidation else 0
      require (activeRoleCount input.blocks .h3Train = counts.rtrain &&
          activeRoleCount input.blocks .h3Validation = counts.rval &&
          activeRoleCount input.blocks .h1h2Supplemental = supplemental)
        ⟨.crossField, "$/blocks/roles", "ANALYSIS-BLOCK-ROLE-COUNTS",
          "active block roles must equal Rtrain/Rval/R12-derived counts"⟩

/-! ### Access -/

/-- The active blocks of a role, or of every role. -/
def activeIds (role : Option BlockRole) : List BlockId :=
  (blocks.filter fun block => block.activePrimary && role.all (block.plan.blockRole = ·)).map
    fun block => block.plan.blockId

/-- Both lists are of distinct identities, and of the same. -/
def exactIdSet (actual expected : List BlockId) : Bool :=
  actual.Nodup && expected.Nodup && actual.all (· ∈ expected) && expected.all (· ∈ actual)

def validateGrant (grant : OutcomeAccessGrant) (expectedDomain : OutcomeDomain)
    (expectedBlocks : List BlockId) (artifacts : List ImmutableArtifact) : List ValidationError :=
  require (grant.domain = expectedDomain &&
      reached (requiredAccessState expectedDomain) grant.state)
    ⟨.missingEvidence, "$/access", "ANALYSIS-ACCESS-STATE",
      "outcome domain is not authorized at this state"⟩ ++
  require (exactIdSet grant.affectedBlockIds expectedBlocks)
    ⟨.crossField, "$/access/affected_blocks", "ANALYSIS-ACCESS-EXACT-BLOCKS",
      "access grant must name exactly the applicable active blocks"⟩ ++
  require (resolves sha256 artifacts grant.accessRecord)
    ⟨.missingEvidence, "$/access/record", "ANALYSIS-ACCESS-HASH",
      "access grant must resolve to finalized checksum-valid evidence"⟩

def grantErrors : List ValidationError :=
  validateGrant sha256 input.trainingAccess .h3Training
    (activeIds input.blocks (some .h3Train)) input.artifacts ++
  validateGrant sha256 input.validationAccess .h3Validation
    (activeIds input.blocks (some .h3Validation)) input.artifacts ++
  validateGrant sha256 input.h1h2Access .h1h2 (activeIds input.blocks none) input.artifacts

/-! ### The runs -/

def runIdErrors : Nat → List RunId → List SyntheticRunInput → List ValidationError
  | _, _, [] => []
  | index, seen, run :: rest =>
      require (run.runId ∉ seen)
        ⟨.duplicateValue, "$/runs/" ++ toString index ++ "/run_id", "ANALYSIS-RUN-ID-UNIQUE",
          "run IDs must be unique and cannot encode filtering aliases"⟩ ++
      runIdErrors (index + 1) (run.runId :: seen) rest

/-- `runs_by_block`: the runs that name a block, in the order of the input. -/
def runsOf (runs : List SyntheticRunInput) (id : BlockId) : List SyntheticRunInput :=
  runs.filter fun run => run.blockId = id

def bindingError : ValidationError :=
  ⟨.crossField, "$/runs", "ANALYSIS-RUN-PLAN-BINDING",
    "run version, role, and unique cell ordinal must match its block plan"⟩

/-- The loop over a block's runs, with the ordinals taken before. -/
def bindingErrors (block : BlockPlan) : List UInt64 → List SyntheticRunInput → List ValidationError
  | _, [] => []
  | ordinals, run :: rest =>
      if run.protocolVersion ≠ block.protocolVersion || run.blockRole ≠ block.blockRole ||
          run.cellOrdinal ∈ ordinals then
        -- A run of another version or role does not take its ordinal.
        let taken := run.protocolVersion = block.protocolVersion && run.blockRole = block.blockRole
        bindingError ::
          bindingErrors block (if taken then run.cellOrdinal :: ordinals else ordinals) rest
      else
        match block.cells[run.cellOrdinal.toNat]? with
        | none => bindingError :: bindingErrors block (run.cellOrdinal :: ordinals) rest
        | some cell =>
            require (cell.cellOrdinal = run.cellOrdinal && cell.key = run.key)
              ⟨.crossField, "$/runs", "ANALYSIS-NO-CELL-REPLACEMENT",
                "run factors must match the exact planned cell; cell-level repair is forbidden"⟩ ++
            bindingErrors block (run.cellOrdinal :: ordinals) rest

def invalidRun (run : SyntheticRunInput) : Bool := run.validity = .invalid

/-- The runs of a block, when it has all of them, and the invalid one behind a replacement. -/
def blockRunErrors (runs : List SyntheticRunInput) (block : BlockInput) : List ValidationError :=
  let own := runsOf runs block.plan.blockId
  if own.length ≠ kStageACellsPerBlock then
    [⟨.missingEvidence, "$/runs", "ANALYSIS-NO-FILTERING",
      "every retained original/replacement block requires exactly 180 run records; cell " ++
        "filtering is forbidden"⟩]
  else
    bindingErrors block.plan [] own ++
    match block.replaces with
    | none => []
    | some original =>
        require ((runsOf runs original).any invalidRun)
          ⟨.missingEvidence, "$/blocks/replacement", "ANALYSIS-REPLACEMENT-INVALID-RUN",
            "a replacement requires a retained invalid required run in the original block"⟩

/-- Every error the input is rejected for. -/
def inputErrors : List ValidationError :=
  configurationErrors input.configuration ++
  artifactErrors sha256 0 [] input.artifacts ++
  require (configurationBound conv arith input)
    ⟨.invalidHash, "$/configuration/artifact", "ANALYSIS-CONFIG-HASH",
      "configuration fields must equal the immutable configuration artifact"⟩ ++
  precisionErrors arith input ++
  sizingErrors sha256 input ++
  designErrors arith ++
  blockErrors conv sha256 input.namespaces input.artifacts 0 [] [] input.blocks ++
  platformErrors input.blocks ++
  lineageErrors input.blocks ++
  roleCountErrors arith input ++
  grantErrors sha256 input ++
  runIdErrors 0 [] input.runs ++
  input.blocks.flatMap (blockRunErrors input.runs)

end CpuPrefetch.Analysis
