/-
Block planning: the registered comparisons, namespaces, seed catalogs, the generated plan, and
what a plan and a pool of plans are checked for.

The digest is OpenSSL's, so `sha256` is a parameter.  A set of the source is a list here;
only membership and size are ever asked of it.
-/
import CpuPrefetch.Protocol.LoadBlock
import CpuPrefetch.Protocol.Rules
import CpuPrefetch.Workload.Permutation

namespace CpuPrefetch.Orchestration

open Protocol
open Protocol.Json (CharConv Object Value)
open Protocol.Load (ArtifactReference)
open Workload (PhiloxKey WorkloadSetupError makePermutation draw)

/-! ### The registered families of comparisons, and the prospective precision evidence

What validates a plan or an analysis takes the result of a precision plan as it is given.
-/

def kH1ContrastCount : Nat := 7
def kH2ContrastCount : Nat := 20
def kH3TrainingPairCount : Nat := 270
def kH3ValidationFamilyCount : Nat := 540
def kH3ReportedComparisonCount : Nat := 54
def kH3SelectionRuleId : Text := ascii "H3-MEAN-LOG-P999-MIN-CANDIDATE-ORDER-v1"

inductive PrecisionState where
  | notEvaluated
  | resolved
  | infeasible
  deriving DecidableEq, Repr

structure ProspectiveCounts where
  rH1 : UInt64
  rH2 : UInt64
  r12 : UInt64
  rtrain : UInt64
  rval : UInt64
  rtotal : UInt64
  nruns : UInt64
  deriving DecidableEq

structure ProspectivePrecisionEvidence where
  deltaStar : ArtifactReference
  bootstrapConfiguration : ArtifactReference
  h1Sizing : ArtifactReference
  h2Sizing : ArtifactReference
  h3TrainingSizing : ArtifactReference
  h3ValidationSizing : ArtifactReference
  inputArtifacts : List AccessInputArtifact
  deriving DecidableEq

structure RoleCounts where
  h3Train : UInt64
  h3Validation : UInt64
  h1h2Supplemental : UInt64
  deriving DecidableEq

structure PrecisionResult where
  state : PrecisionState
  counts : Option ProspectiveCounts
  roleCounts : Option RoleCounts
  evidence : Option ProspectivePrecisionEvidence
  blockers : List String
  deriving DecidableEq

structure H3Comparison where
  context : H3Context
  left : H3Candidate
  right : H3Candidate
  deriving DecidableEq

def h1ContrastIds : List String :=
  ["H1-SW-R1", "H1-SW-R2", "H1-HQ", "H1-HS-R1", "H1-HS-R2", "H1-HS-L1", "H1-R12"]

def h2ContrastIds : List String :=
  ["H2-P-H", "H2-P-R1", "H2-P-R2", "H2-P-L1", "H2-W12-H", "H2-W12-R1", "H2-W12-R2", "H2-W12-L1",
    "H2-W23-H", "H2-W23-R1", "H2-W23-R2", "H2-W23-L1", "H2-A12-H", "H2-A12-R1", "H2-A12-R2",
    "H2-A12-L1", "H2-A23-H", "H2-A23-R1", "H2-A23-R2", "H2-A23-L1"]

def h3Contexts : List H3Context :=
  [.nearL2L050, .nearLlcL050, .nearBeyondLlcL050, .farL2L050, .farLlcL050, .farBeyondLlcL050]

/-- The packages of Stage A, in the registered order. -/
def packages : List QueuePackage := [.r0, .r1, .r2, .l0, .l1]

/-- The requested hardware states of Stage A, in the registered order. -/
def states : List RequestedHardwareState := [.h0, .h1]

def h3Candidates : List H3Candidate :=
  packages.flatMap fun package => states.map fun state => ⟨package, state⟩

def candidateValid (candidate : H3Candidate) : Bool := candidate ∈ h3Candidates

variable (selections : List (H3Context × H3Candidate))

/-- `std::map::find` of a context. -/
def selectionFor (context : H3Context) : Option H3Candidate :=
  (selections.find? fun selection => selection.1 = context).map Prod.snd

/-- Each stable context has one registered candidate, and there is no other context. -/
def exactSelections : Bool :=
  selections.length = h3Contexts.length &&
    h3Contexts.all fun context => (selectionFor selections context).any candidateValid

/-- What is selected in each context, against every alternative. -/
def comparisonsWith : List H3Comparison :=
  h3Contexts.flatMap fun context =>
    match selectionFor selections context with
    | none => []
    | some selected =>
        (h3Candidates.filter (· ≠ selected)).map fun alternative => ⟨context, selected, alternative⟩

def h3ReportedComparisons : Result (List H3Comparison) :=
  if exactSelections selections then .ok (comparisonsWith selections)
  else
    Load.fail .crossField "$/h3_selections" "H3-EXACT-SIX-SELECTIONS"
      "reporting requires one registered candidate for each of six stable contexts"

/-! ### Namespaces, catalogs and plans -/

def kStageACellsPerBlock : Nat := 180
def kStageACellsPerWholePlot : Nat := 90
def kArrivalSeedCountPerBlock : Nat := 18
def kArenaSeedCountPerBlock : Nat := 6

/-- The levels of a cell's five factors, in the source's order. -/
abbrev CellKey := QueuePackage × RequestedHardwareState × Placement × WorkingSetClass × LoadLevel

abbrev WithinPlotKey := QueuePackage × Placement × WorkingSetClass × LoadLevel

structure RoleNamespaceBinding where
  role : BlockRole
  namespaceId : NamespaceId
  parentNamespaceId : NamespaceId
  deriving DecidableEq

structure RoleNamespaceRegistry where
  commonStageANamespaceId : NamespaceId
  roleBindings : List RoleNamespaceBinding
  deriving DecidableEq

structure BlockSeedCatalog where
  role : BlockRole
  roleNamespaceId : NamespaceId
  blockSubspaceId : NamespaceId
  derivationArtifact : ArtifactReference
  wholePlotKey : PhiloxKey
  h0CellOrderKey : PhiloxKey
  h1CellOrderKey : PhiloxKey
  arrivalSeedIds : List SeedId
  nodeSeedIds : List SeedId
  eventSeedIds : List SeedId
  deriving DecidableEq

structure ReplacementPlanInput where
  replacedBlockId : BlockId
  replacementAuthorizationId : RecordId
  replacedBlockOrdinal : UInt64
  replacedBlockRole : BlockRole
  replacedSeedSubspaceId : NamespaceId
  deriving DecidableEq

structure BlockGenerationInput where
  platformId : PlatformId
  buildId : BuildId
  role : BlockRole
  blockOrdinal : UInt64
  seeds : BlockSeedCatalog
  replacement : Option ReplacementPlanInput
  deriving DecidableEq

structure GeneratedBlockPlan where
  plan : BlockPlan
  canonicalJson : Text

/-- Every seed identity of a catalog, in the order in which they are looked at. -/
def BlockSeedCatalog.seeds (catalog : BlockSeedCatalog) : List SeedId :=
  catalog.arrivalSeedIds ++ catalog.nodeSeedIds ++ catalog.eventSeedIds

/-- `opaque`: a stored identity, which is not a path. -/
def isOpaque (value : Text) : Bool := !value.isEmpty && 47 ∉ value && 92 ∉ value

/-! ### The names of the registered levels -/

def roleName : BlockRole → String
  | .h3Train => "H3_TRAIN"
  | .h3Validation => "H3_VALIDATION"
  | .h1h2Supplemental => "H1H2_SUPPLEMENTAL"
  | .notApplicable => ""

def packageName : QueuePackage → String
  | .r0 => "R0"
  | .r1 => "R1"
  | .r2 => "R2"
  | .l0 => "L0"
  | .l1 => "L1"
  | .nblfqMpsc => ""
  | .notApplicable => ""

def hardwareName : RequestedHardwareState → String
  | .h0 => "H0"
  | .h1 => "H1"
  | .notApplicable => ""

def placementName : Placement → String
  | .near => "NEAR"
  | .far => "FAR"
  | .stageCOther => ""
  | .notApplicable => ""

def workingSetName : WorkingSetClass → String
  | .l2Resident => "L2_RESIDENT"
  | .llcResident => "LLC_RESIDENT"
  | .beyondLlc => "BEYOND_LLC"
  | .notApplicable => ""

def loadName : LoadLevel → String
  | .l025 => "L025"
  | .l050 => "L050"
  | .l075 => "L075"
  | .calibrationReady => ""
  | .stageCOther => ""
  | .notApplicable => ""

/-! ### The seed domains -/

def linked (package : QueuePackage) : Bool := package = .l0 || package = .l1

def placementIndex : Placement → Option Nat
  | .near => some 0
  | .far => some 1
  | .stageCOther => none
  | .notApplicable => none

def workingSetIndex : WorkingSetClass → Option Nat
  | .l2Resident => some 0
  | .llcResident => some 1
  | .beyondLlc => some 2
  | .notApplicable => none

def loadIndex : LoadLevel → Option Nat
  | .l025 => some 0
  | .l050 => some 1
  | .l075 => some 2
  | .calibrationReady => none
  | .stageCOther => none
  | .notApplicable => none

def arenaIndex (placement : Placement) (workingSet : WorkingSetClass) : Option Nat := do
  let placementValue ← placementIndex placement
  let workingSetValue ← workingSetIndex workingSet
  some (placementValue * 3 + workingSetValue)

def arrivalIndex (placement : Placement) (workingSet : WorkingSetClass) (load : LoadLevel) :
    Option Nat := do
  let arena ← arenaIndex placement workingSet
  let loadValue ← loadIndex load
  some (arena * 3 + loadValue)

/-! ### Documents -/

def stringValue (value : String) : Value := .string (ascii value)

def uintValue (value : UInt64) : Value :=
  .number (.unsignedInteger (decimal value.toNat) value)

/-- `std::string(64, '0')`: the place of a digest while it is computed. -/
def zeroSelf : Text := List.replicate 64 48

def identityDocument (platformId : PlatformId) (buildId : BuildId) (role : BlockRole)
    (ordinal : UInt64) : Value :=
  .object <| Object.of
    [(ascii "block_ordinal", uintValue ordinal),
      (ascii "block_role", stringValue (roleName role)),
      (ascii "build_id", .string buildId.value),
      (ascii "platform_id", .string platformId.value),
      (ascii "protocol_version", .string kProtocolVersion),
      (ascii "stage", stringValue "STAGE_A")]

def nodeSeedValue : Option SeedId → Value
  | some seed => .string seed.value
  | none => .null

def cellMembers (cell : StageACell) : List (Text × Value) :=
  [(ascii "arrival_seed_ref", .string cell.arrivalSeedRef.value),
    (ascii "cell_ordinal", uintValue cell.cellOrdinal),
    (ascii "event_seed_ref", .string cell.eventSeedRef.value),
    (ascii "load_level", stringValue (loadName cell.loadLevel)),
    (ascii "node_seed_ref", nodeSeedValue cell.nodeSeedRef),
    (ascii "package", stringValue (packageName cell.package)),
    (ascii "placement", stringValue (placementName cell.placement)),
    (ascii "requested_hardware_state", stringValue (hardwareName cell.requestedHardwareState)),
    (ascii "working_set_class", stringValue (workingSetName cell.workingSetClass))]

def cellDocument (cell : StageACell) : Value :=
  .object (Object.of (cellMembers cell))

def lineageDocument (replacement : ReplacementPlanInput) : Value :=
  .object <| Object.of
    [(ascii "replaced_block_ordinal", uintValue replacement.replacedBlockOrdinal),
      (ascii "replaced_block_role", stringValue (roleName replacement.replacedBlockRole)),
      (ascii "replaced_seed_subspace_id", .string replacement.replacedSeedSubspaceId.value)]

/-- The three members about a replacement; all of them are null in an original's document. -/
def replacementMembers : Option ReplacementPlanInput → List (Text × Value)
  | some replacement =>
      [(ascii "replacement_authorization_id",
          .string replacement.replacementAuthorizationId.value),
        (ascii "replacement_lineage", lineageDocument replacement),
        (ascii "replaces_block_id", .string replacement.replacedBlockId.value)]
  | none =>
      [(ascii "replacement_authorization_id", .null), (ascii "replacement_lineage", .null),
        (ascii "replaces_block_id", .null)]

def blockMembers (input : BlockGenerationInput) (blockId : BlockId)
    (wholePlotOrder : RequestedHardwareState × RequestedHardwareState) (cells : List StageACell)
    (planHash : Text) : List (Text × Value) :=
  [(ascii "access_state", stringValue "PLANNED"),
    (ascii "block_id", .string blockId.value),
    (ascii "block_ordinal", uintValue input.blockOrdinal),
    (ascii "block_role", stringValue (roleName input.role)),
    (ascii "build_id", .string input.buildId.value),
    (ascii "cells", .array (cells.map cellDocument)),
    (ascii "plan_sha256", .string planHash),
    (ascii "platform_id", .string input.platformId.value),
    (ascii "protocol_version", .string kProtocolVersion)] ++
  replacementMembers input.replacement ++
  [(ascii "schema_version", .string kProtocolVersion),
    (ascii "seed_subspace_id", .string input.seeds.blockSubspaceId.value),
    (ascii "stage", stringValue "STAGE_A"),
    (ascii "whole_plot_order",
      .array [stringValue (hardwareName wholePlotOrder.1),
        stringValue (hardwareName wholePlotOrder.2)])]

def blockDocument (input : BlockGenerationInput) (blockId : BlockId)
    (wholePlotOrder : RequestedHardwareState × RequestedHardwareState) (cells : List StageACell)
    (planHash : Text) : Value :=
  .object (Object.of (blockMembers input blockId wholePlotOrder cells planHash))

/-! ### The registered product -/

def stageAPlacements : List Placement := [.near, .far]
def stageAWorkingSets : List WorkingSetClass := [.l2Resident, .llcResident, .beyondLlc]
def stageALoads : List LoadLevel := [.l025, .l050, .l075]

def expectedStageACells : List CellKey :=
  packages.flatMap fun package =>
    states.flatMap fun state =>
      stageAPlacements.flatMap fun placement =>
        stageAWorkingSets.flatMap fun workingSet =>
          stageALoads.map fun load => (package, state, placement, workingSet, load)

/-- The cells of one whole plot, before they are shuffled. -/
def withinPlotBase : List WithinPlotKey :=
  packages.flatMap fun package =>
    stageAPlacements.flatMap fun placement =>
      stageAWorkingSets.flatMap fun workingSet =>
        stageALoads.map fun load => (package, placement, workingSet, load)

/-! ### Identities -/

section Digest

variable (conv : CharConv) (sha256 : Text → Sha256)

def makeBlockId (platformId : PlatformId) (buildId : BuildId) (role : BlockRole)
    (blockOrdinal : UInt64) : Result BlockId :=
  if !isOpaque platformId.value || !isOpaque buildId.value || (roleName role).isEmpty then
    Load.fail .invalidId "$/block_id" "BLK-ID-FIELDS"
      "block identity fields must be opaque and Stage A compatible"
  else do
    let canonical ← Json.canonicalize conv (identityDocument platformId buildId role blockOrdinal)
    let id ← Load.parseIdentifier (ascii "stage-a-block-" ++ (sha256 canonical).hex) "$/block_id"
    .ok ⟨id.val, Load.nonempty_parsed id⟩

/-- The digest a document has with its own digest zeroed, if it is an object that names one. -/
def zeroSelfDigest (key : String) (document : Value) : Option Sha256 :=
  match document with
  | .object source =>
      if (Object.find (ascii key) source).isNone then none
      else
        match Json.canonicalize conv
          (.object (Object.assign (ascii key) (.string zeroSelf) source)) with
        | .ok canonical => some (sha256 canonical)
        | .error _ => none
  | _ => none

def verifyPlanHash (block : BlockPlan) : Bool :=
  zeroSelfDigest conv sha256 "plan_sha256" block.sourceDocument = some block.planSha256

end Digest

/-! ### Namespaces and seed catalogs -/

def findBinding (registry : RoleNamespaceRegistry) (role : BlockRole) :
    Option RoleNamespaceBinding :=
  registry.roleBindings.find? fun binding => binding.role = role

def requiredRoles : List BlockRole := [.h3Train, .h3Validation, .h1h2Supplemental]

/-- The roles and the namespaces seen so far. -/
structure NamespaceAudit where
  roles : List BlockRole
  identifiers : List NamespaceId
  errors : List ValidationError

/-- One binding.  A role seen before keeps its namespace from being recorded. -/
def NamespaceAudit.binding (registry : RoleNamespaceRegistry) (audit : NamespaceAudit)
    (binding : RoleNamespaceBinding) (index : Nat) : NamespaceAudit :=
  let fresh := binding.role ∉ audit.roles
  { roles := binding.role :: audit.roles
    identifiers := if fresh then binding.namespaceId :: audit.identifiers else audit.identifiers
    errors := audit.errors ++
      require (!((roleName binding.role).isEmpty || !isOpaque binding.namespaceId.value ||
          !isOpaque binding.parentNamespaceId.value ||
          binding.parentNamespaceId ≠ registry.commonStageANamespaceId))
        ⟨.crossField, "$/role_namespaces/role_bindings/" ++ toString index,
          "BLK-ROLE-NAMESPACE-PARENT",
          "every registered role needs an explicit distinct child of the common namespace"⟩ ++
      require (fresh && binding.namespaceId ∉ audit.identifiers)
        ⟨.duplicateValue, "$/role_namespaces/role_bindings", "BLK-ROLE-NAMESPACE-UNIQUE",
          "role and namespace bindings must be unique and nonoverlapping"⟩ }

def auditBindings (registry : RoleNamespaceRegistry) : NamespaceAudit :=
  registry.roleBindings.zipIdx.foldl
    (fun audit binding => audit.binding registry binding.1 binding.2)
    ⟨[], [registry.commonStageANamespaceId], []⟩

def validateRoleNamespaces (registry : RoleNamespaceRegistry) : List ValidationError :=
  require (isOpaque registry.commonStageANamespaceId.value)
    ⟨.invalidId, "$/role_namespaces/common_stage_a_namespace_id", "BLK-NAMESPACE-OPAQUE",
      "common Stage A namespace must be an opaque stored identity"⟩ ++
  (auditBindings registry).errors ++
  requiredRoles.flatMap (fun role =>
    require (role ∈ (auditBindings registry).roles)
      ⟨.missingEvidence, "$/role_namespaces/role_bindings", "BLK-ROLE-NAMESPACE-COMPLETE",
        "training, validation, and supplemental namespaces are all required"⟩) ++
  require (registry.roleBindings.length = requiredRoles.length)
    ⟨.outOfRange, "$/role_namespaces/role_bindings", "BLK-ROLE-NAMESPACE-EXACT",
      "the common Stage A pool has exactly three role namespaces"⟩

/-- `inspect`: the seeds of one domain, each opaque and not seen before. -/
def inspectSeeds (path : String) : Nat → List SeedId → List SeedId → List ValidationError
  | _, _, [] => []
  | index, seen, seed :: rest =>
      require (isOpaque seed.value)
        ⟨.invalidId, path ++ "/" ++ toString index, "BLK-SEED-OPAQUE",
          "seed identity must be stored and must not be interpreted as a path"⟩ ++
      require (seed ∉ seen)
        ⟨.duplicateValue, path, "BLK-SEED-DOMAIN-SEPARATION",
          "arrival, node, and event seed identities must be domain-separated"⟩ ++
      inspectSeeds path (index + 1) (seed :: seen) rest

def validateSeedCatalog (catalog : BlockSeedCatalog) (registry : RoleNamespaceRegistry) :
    List ValidationError :=
  validateRoleNamespaces registry ++
  require ((findBinding registry catalog.role).any (·.namespaceId = catalog.roleNamespaceId) &&
      isOpaque catalog.blockSubspaceId.value && catalog.blockSubspaceId ≠ catalog.roleNamespaceId &&
      catalog.blockSubspaceId ≠ registry.commonStageANamespaceId)
    ⟨.referenceMismatch, "$/seed_catalog", "BLK-SEED-SUBSPACE-ROLE",
      "block seed subspace must explicitly belong to its immutable role namespace"⟩ ++
  require (isOpaque catalog.derivationArtifact.artifactId.val)
    ⟨.invalidId, "$/seed_catalog/derivation_artifact", "BLK-SEED-DERIVATION",
      "randomization derivation evidence must have an opaque artifact identity"⟩ ++
  require (catalog.arrivalSeedIds.length = kArrivalSeedCountPerBlock &&
      catalog.nodeSeedIds.length = kArenaSeedCountPerBlock &&
      catalog.eventSeedIds.length = kArenaSeedCountPerBlock)
    ⟨.outOfRange, "$/seed_catalog", "BLK-SEED-CARDINALITY",
      "a block needs 18 arrival and six node/event arena seed identities"⟩ ++
  inspectSeeds "$/seed_catalog/arrival_seed_ids" 0 [] catalog.arrivalSeedIds ++
  inspectSeeds "$/seed_catalog/node_seed_ids" 0 catalog.arrivalSeedIds catalog.nodeSeedIds ++
  inspectSeeds "$/seed_catalog/event_seed_ids" 0 (catalog.arrivalSeedIds ++ catalog.nodeSeedIds)
    catalog.eventSeedIds

/-! ### Checking a plan -/

/-- What the loop over a plan's cells has recorded: the factor tuples, and the cells by ordinal. -/
structure PlanAudit where
  actual : List CellKey
  placed : List StageACell
  errors : List ValidationError

/-- `by_ordinal`. -/
def cellAt (placed : List StageACell) (ordinal : Nat) : Option StageACell :=
  placed.find? fun cell => cell.cellOrdinal.toNat = ordinal

variable (seeds : BlockSeedCatalog)

/-- The seeds a cell must share with the other cells of its domain. -/
def seedSharing (cell : StageACell) (arrival arena : Nat) : Bool :=
  seeds.arrivalSeedIds[arrival]? = some cell.arrivalSeedRef &&
    seeds.eventSeedIds[arena]? = some cell.eventSeedRef &&
    (if linked cell.package then
      cell.nodeSeedRef.isSome && seeds.nodeSeedIds[arena]? = cell.nodeSeedRef
      else cell.nodeSeedRef.isNone)

def seedErrors (index : Nat) (cell : StageACell) : List ValidationError :=
  match arrivalIndex cell.placement cell.workingSetClass cell.loadLevel,
      arenaIndex cell.placement cell.workingSetClass with
  | some arrival, some arena =>
      if arrival ≥ seeds.arrivalSeedIds.length || arena ≥ seeds.eventSeedIds.length ||
          arena ≥ seeds.nodeSeedIds.length then
        [⟨.unknownEnum, "$/cells/" ++ toString index, "BLK-REGISTERED-FACTORS",
          "cell contains a factor outside the registered Stage A product"⟩]
      else
        require (seedSharing seeds cell arrival arena)
          ⟨.referenceMismatch, "$/cells/" ++ toString index, "BLK-SEED-SHARING",
            "arrival and persistent arena seed references must follow their role-compatible " ++
              "matched domains"⟩
  | _, _ =>
      [⟨.unknownEnum, "$/cells/" ++ toString index, "BLK-REGISTERED-FACTORS",
        "cell contains a factor outside the registered Stage A product"⟩]

/-- One cell.  A cell whose ordinal is taken or out of range is not placed. -/
def PlanAudit.cell (seeds : BlockSeedCatalog) (audit : PlanAudit) (cell : StageACell)
    (index : Nat) : PlanAudit :=
  let duplicate :=
    require (cell.key ∉ audit.actual)
      ⟨.duplicateValue, "$/cells/" ++ toString index, "BLK-FACTOR-DUPLICATE",
        "each registered Stage A factor tuple must occur exactly once"⟩
  if cell.cellOrdinal.toNat ≥ kStageACellsPerBlock ||
      (cellAt audit.placed cell.cellOrdinal.toNat).isSome then
    { audit with
      actual := cell.key :: audit.actual
      errors := audit.errors ++ duplicate ++
        [⟨.duplicateValue, "$/cells/" ++ toString index ++ "/cell_ordinal",
          "BLK-CELL-ORDINAL-EXACT",
          "cell ordinals must be unique and exactly cover 0 through 179"⟩] }
  else
    { actual := cell.key :: audit.actual
      placed := cell :: audit.placed
      errors := audit.errors ++ duplicate ++ seedErrors seeds index cell }

def auditCells (block : BlockPlan) (seeds : BlockSeedCatalog) : PlanAudit :=
  block.cells.zipIdx.foldl (fun audit cell => audit.cell seeds cell.1 cell.2) ⟨[], [], []⟩

/-- The loop over the ordinals, which stops at the first that is missing or in the wrong plot. -/
def wholePlotErrors (block : BlockPlan) (placed : List StageACell) : List Nat → List ValidationError
  | [] => []
  | ordinal :: rest =>
      match cellAt placed ordinal with
      | none =>
          [⟨.missingEvidence, "$/cells", "BLK-CELL-ORDINAL-EXACT",
            "cell ordinals must be unique and exactly cover 0 through 179"⟩]
      | some cell =>
          let expectedState := if ordinal < kStageACellsPerWholePlot then block.wholePlotOrder.1
            else block.wholePlotOrder.2
          if cell.requestedHardwareState ≠ expectedState then
            [⟨.crossField, "$/cells/" ++ toString ordinal, "BLK-WHOLE-PLOT-ORDER",
              "the first and second 90 logical ordinals must follow the frozen whole-plot order"⟩]
          else wholePlotErrors block placed rest

/-- The distinct cells of one whole plot, whatever their state. -/
def withinPlot (placed : List StageACell) (plot : Nat) : List WithinPlotKey :=
  (((List.range' (plot * kStageACellsPerWholePlot) kStageACellsPerWholePlot).filterMap
    (cellAt placed)).map fun cell =>
      (cell.package, cell.placement, cell.workingSetClass, cell.loadLevel)).dedup

def compositionErrors (placed : List StageACell) : List ValidationError :=
  [0, 1].flatMap fun plot =>
    require ((withinPlot placed plot).length = kStageACellsPerWholePlot)
      ⟨.crossField, "$/cells", "BLK-WHOLE-PLOT-COMPOSITION",
        "each hardware whole plot must contain all 90 package/context/load cells once"⟩

def factorialErrors (block : BlockPlan) (actual : List CellKey) : List ValidationError :=
  require (block.cells.length = kStageACellsPerBlock &&
      actual.dedup.length = expectedStageACells.length &&
      expectedStageACells.all fun key => key ∈ actual)
    ⟨.crossField, "$/cells", "BLK-EXACT-FACTORIAL-PROOF",
      "block must equal the complete registered 5x2x2x3x3 Cartesian product"⟩

section Digest

variable (conv : CharConv) (sha256 : Text → Sha256)

/-- `expected_id`, when there is one, is the block's own. -/
def canonicalId (block : BlockPlan) : Bool :=
  match makeBlockId conv sha256 block.platformId block.buildId block.blockRole
    block.blockOrdinal with
  | .ok expected =>
      expected = block.blockId && isOpaque block.blockId.value && isOpaque block.buildId.value
  | .error _ => false

def validateBlockPlan (block : BlockPlan) (seeds : BlockSeedCatalog)
    (registry : RoleNamespaceRegistry) : List ValidationError :=
  let audit := auditCells block seeds
  validateSeedCatalog seeds registry ++
  validateRecord (.blockPlan block) ++
  require (block.protocolVersion = .v200pre2 && block.schemaVersion = .v200pre2 &&
      block.stage = .stageA)
    ⟨.unsupportedVersion, "$/block_plan", "BLK-CURRENT-STAGE-A",
      "new Stage 14 plans must use protocol 2.0.0-pre.2 and STAGE_A"⟩ ++
  require (canonicalId conv sha256 block)
    ⟨.invalidId, "$/block_id", "BLK-CANONICAL-ID",
      "block ID must be derived from explicit fields and never from a path"⟩ ++
  require (block.blockRole = seeds.role && block.seedSubspaceId = seeds.blockSubspaceId)
    ⟨.referenceMismatch, "$/seed_subspace_id", "BLK-SEED-CATALOG-BINDING",
      "block role and seed subspace must match the immutable seed catalog"⟩ ++
  require (verifyPlanHash conv sha256 block)
    ⟨.invalidHash, "$/plan_sha256", "BLK-PLAN-ZEROSELF-HASH",
      "plan hash must match the accepted zero-self canonical record profile"⟩ ++
  audit.errors ++
  factorialErrors block audit.actual ++
  wholePlotErrors block audit.placed (List.range kStageACellsPerBlock) ++
  compositionErrors audit.placed

/-! ### Generating a plan -/

/-- The state of each whole plot, in order. -/
def wholePlotsOf (permutation : List Nat) :
    Option (RequestedHardwareState × RequestedHardwareState) := do
  let first ← permutation[0]?
  let second ← permutation[1]?
  some (← states[first]?, ← states[second]?)

/-- One cell of the plan.  The catalog has been checked to have a seed for every index. -/
def plannedCell (state : RequestedHardwareState) (selected ordinal : Nat) : Option StageACell := do
  let (package, placement, workingSet, load) ← withinPlotBase[selected]?
  let arrival ← arrivalIndex placement workingSet load
  let arena ← arenaIndex placement workingSet
  let arrivalSeed ← seeds.arrivalSeedIds[arrival]?
  let nodeSeed ← seeds.nodeSeedIds[arena]?
  let eventSeed ← seeds.eventSeedIds[arena]?
  some ⟨.ofNat ordinal, package, state, placement, workingSet, load, arrivalSeed,
    if linked package then some nodeSeed else none, eventSeed⟩

/-- The cells of both whole plots, in order. -/
def plannedCells (wholePlotOrder : RequestedHardwareState × RequestedHardwareState)
    (h0Order h1Order : List Nat) : Option (List StageACell) :=
  let order (state : RequestedHardwareState) := if state = .h0 then h0Order else h1Order
  ([wholePlotOrder.1, wholePlotOrder.2].flatMap fun state =>
      (order state).map fun selected => (state, selected)).zipIdx.mapM
    fun ((state, selected), ordinal) => plannedCell seeds state selected ordinal

/-- The rest of `generate_block_plan`, once the cells are there. -/
def finishBlockPlan (input : BlockGenerationInput) (registry : RoleNamespaceRegistry)
    (blockId : BlockId) (wholePlotOrder : RequestedHardwareState × RequestedHardwareState)
    (cells : List StageACell) : Result GeneratedBlockPlan := do
  let zeroCanonical ←
    Json.canonicalize conv (blockDocument input blockId wholePlotOrder cells zeroSelf)
  let finalDocument :=
    blockDocument input blockId wholePlotOrder cells (sha256 zeroCanonical).hex
  let canonical ← Json.canonicalize conv finalDocument
  let plan ← Load.loadBlockPlan finalDocument
  let validation := validateBlockPlan conv sha256 plan input.seeds registry
  if validation ≠ [] then .error validation else .ok ⟨plan, canonical⟩

/-- The checks on the request, before anything is drawn. -/
def admittedBlockId (input : BlockGenerationInput) (registry : RoleNamespaceRegistry) :
    Result BlockId :=
  if validateSeedCatalog input.seeds registry ≠ [] then
    .error (validateSeedCatalog input.seeds registry)
  else if input.role ≠ input.seeds.role || !isOpaque input.buildId.value then
    Load.fail .referenceMismatch "$/block_generation" "BLK-GENERATION-IDENTITY"
      "block role and build identity must match explicit prospective inputs"
  else if input.replacement.any (·.replacedBlockRole ≠ input.role) then
    Load.fail .crossField "$/replacement" "BLK-ROLE-IMMUTABLE"
      "replacement must preserve the original block role"
  else do
    let blockId ←
      makeBlockId conv sha256 input.platformId input.buildId input.role input.blockOrdinal
    if input.replacement.any (·.replacedBlockId = blockId) then
      Load.fail .crossField "$/replacement/replaced_block_id" "BLK-REPLACEMENT-NEW-ID"
        "replacement block identity must be new"
    else .ok blockId

/-- `generate_block_plan`; an exhausted stream of draws is an exception that it lets through. -/
def generateBlockPlan (input : BlockGenerationInput) (registry : RoleNamespaceRegistry) :
    Except WorkloadSetupError (Result GeneratedBlockPlan) :=
  match admittedBlockId conv sha256 input registry with
  | .error errors => .ok (.error errors)
  | .ok blockId => do
      let plots ← makePermutation 2 (draw input.seeds.wholePlotKey)
      let h0Order ← makePermutation withinPlotBase.length (draw input.seeds.h0CellOrderKey)
      let h1Order ← makePermutation withinPlotBase.length (draw input.seeds.h1CellOrderKey)
      .ok <|
        match wholePlotsOf plots with
        | none =>
            Load.fail .crossField "$/cells" "BLK-FACTOR-INDEX"
              "registered factor could not map to its seed domain"
        | some wholePlotOrder =>
            match plannedCells input.seeds wholePlotOrder h0Order h1Order with
            | none =>
                Load.fail .crossField "$/cells" "BLK-FACTOR-INDEX"
                  "registered factor could not map to its seed domain"
            | some cells => finishBlockPlan conv sha256 input registry blockId wholePlotOrder cells

/-! ### Checking a pool -/

/-- Seeds recorded one after another; each one that was there already is an error. -/
def recordSeeds (error : ValidationError) :
    List SeedId → List SeedId → List SeedId × List ValidationError
  | seen, [] => (seen, [])
  | seen, seed :: rest =>
      if seed ∈ seen then
        let later := recordSeeds error seen rest
        (later.1, error :: later.2)
      else recordSeeds error (seed :: seen) rest

structure PoolAudit where
  blockIds : List BlockId
  ordinals : List UInt64
  subspaces : List NamespaceId
  seedIds : List SeedId
  errors : List ValidationError

/-- One block of the pool.  The three identities are recorded in turn, up to one that is taken. -/
def PoolAudit.block (registry : RoleNamespaceRegistry) (audit : PoolAudit) (block : BlockPlan)
    (catalog : BlockSeedCatalog) (index : Nat) : PoolAudit :=
  let newId := block.blockId ∉ audit.blockIds
  let newOrdinal := block.blockOrdinal ∉ audit.ordinals
  let newSubspace := catalog.blockSubspaceId ∉ audit.subspaces
  let reuse :=
    recordSeeds
      ⟨.duplicateValue, "$/block_pool/seed_catalogs", "BLK-POOL-SEED-NO-REUSE",
        "role-specific block seed identities cannot overlap across blocks"⟩
      audit.seedIds catalog.seeds
  { blockIds := block.blockId :: audit.blockIds
    ordinals := if newId then block.blockOrdinal :: audit.ordinals else audit.ordinals
    subspaces := if newId ∧ newOrdinal then catalog.blockSubspaceId :: audit.subspaces
      else audit.subspaces
    seedIds := reuse.1
    errors := audit.errors ++ validateBlockPlan conv sha256 block catalog registry ++
      require (newId && newOrdinal && newSubspace)
        ⟨.duplicateValue, "$/block_pool/" ++ toString index, "BLK-POOL-IDENTITY-UNIQUE",
          "block IDs, ordinals, and block seed subspaces must be globally unique"⟩ ++
      reuse.2 }

def auditPool (blocks : List BlockPlan) (seedCatalogs : List BlockSeedCatalog)
    (registry : RoleNamespaceRegistry) : PoolAudit :=
  (blocks.zip seedCatalogs).zipIdx.foldl
    (fun audit member => audit.block conv sha256 registry member.1.1 member.1.2 member.2)
    ⟨[], [], [], [], []⟩

def roleCount (blocks : List BlockPlan) (role : BlockRole) : Nat :=
  blocks.countP fun block => block.blockRole = role

/-- The difference between the counts of the two whole-plot orders. -/
def plotImbalance (blocks : List BlockPlan) : Nat :=
  let h0First := blocks.countP fun block => block.wholePlotOrder.1 = .h0
  let h1First := blocks.countP fun block => block.wholePlotOrder.1 = .h1
  if h0First > h1First then h0First - h1First else h1First - h0First

def validateBlockPool (blocks : List BlockPlan) (seedCatalogs : List BlockSeedCatalog)
    (registry : RoleNamespaceRegistry) (expected : RoleCounts) : List ValidationError :=
  match checkedAdd expected.h3Train expected.h3Validation with
  | none =>
      [⟨.outOfRange, "$/block_pool", "BLK-POOL-COUNT-OVERFLOW", "role-count sum overflows u64"⟩]
  | some partialTotal =>
      match checkedAdd partialTotal expected.h1h2Supplemental with
      | none =>
          [⟨.outOfRange, "$/block_pool", "BLK-POOL-COUNT-OVERFLOW", "role-count sum overflows u64"⟩]
      | some expectedTotal =>
          let counted := (blocks.zip seedCatalogs).map Prod.fst
          require (blocks.length = expectedTotal.toNat && seedCatalogs.length = blocks.length)
            ⟨.outOfRange, "$/block_pool", "BLK-POOL-EXACT-COUNT",
              "block and seed-catalog counts must equal the frozen role-count sum"⟩ ++
          (auditPool conv sha256 blocks seedCatalogs registry).errors ++
          require (roleCount counted .h3Train = expected.h3Train.toNat &&
              roleCount counted .h3Validation = expected.h3Validation.toNat &&
              roleCount counted .h1h2Supplemental = expected.h1h2Supplemental.toNat)
            ⟨.crossField, "$/block_pool/roles", "BLK-POOL-ROLE-COUNTS",
              "immutable block roles must exactly equal the prospective precision counts"⟩ ++
          require (plotImbalance counted ≤ 1)
            ⟨.crossField, "$/block_pool/whole_plot_order", "BLK-WHOLE-PLOT-COUNTERBALANCE",
              "H0-first and H1-first whole-plot counts must differ by at most one"⟩

end Digest

end CpuPrefetch.Orchestration
