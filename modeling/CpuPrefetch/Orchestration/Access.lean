/-
The access ledger, outcome access, and the decision on a complete-block replacement.

A record is checked against those before it, and the ledger's state moves only when the
record's kind allows it.  Errors are collected; the loop goes on after them.
-/
import CpuPrefetch.Orchestration.BlockPlanning

namespace CpuPrefetch.Orchestration

open Protocol
open Protocol.Json (CharConv Object Value)
open Protocol.Load (ArtifactReference)
open Workload (WorkloadSetupError)

inductive AccessPrincipalRole where
  | freezeAuthority
  | custodian
  | trainingAnalyst
  | validationAuthority
  | confirmatoryAnalyst
  | replacementAuthority
  deriving DecidableEq, Repr

inductive OutcomeDomain where
  | h3Training
  | h3Validation
  | h1h2
  deriving DecidableEq, Repr

structure PrincipalAssignment where
  role : AccessPrincipalRole
  authorityId : AuthorityId
  deriving DecidableEq

structure RoleOverlapAuthorization where
  first : AccessPrincipalRole
  second : AccessPrincipalRole
  authorityId : AuthorityId
  authorizationArtifact : ArtifactReference
  deriving DecidableEq

structure AuthorityPolicy where
  assignments : List PrincipalAssignment
  permittedOverlaps : List RoleOverlapAuthorization
  deriving DecidableEq

structure ArtifactAccessRecord where
  artifact : ArtifactReference
  accessClass : AccessClass
  blockId : Option BlockId
  namespaceId : Option NamespaceId
  blockRole : Option BlockRole
  issuingRole : Option AccessPrincipalRole
  issuerId : Option AuthorityId
  deriving DecidableEq

structure ReplacementBudget where
  platformId : PlatformId
  maximumReplacementBlocks : UInt64
  budgetArtifact : ArtifactReference
  deriving DecidableEq

structure AccessRequest where
  actorId : AuthorityId
  actorRole : AccessPrincipalRole
  domain : OutcomeDomain
  blockId : BlockId
  deriving DecidableEq

structure AccessLedgerResult where
  finalState : AccessState
  errors : List ValidationError

/-! ### Lookups -/

def principalFor : RecordKind → Option AccessPrincipalRole
  | .protocolFreeze => some .freezeAuthority
  | .selectionFreeze => some .freezeAuthority
  | .validationUnseal => some .custodian
  | .h1h2Released => some .custodian
  | .h3Evaluated => some .confirmatoryAnalyst
  | .replacementAuthorization => some .replacementAuthority
  | .amendment => none

def protocolRoleFor : AccessPrincipalRole → Option AuthorityRole
  | .freezeAuthority => some .freezeAuthority
  | .custodian => some .validationCustodian
  | .confirmatoryAnalyst => some .confirmatoryAnalyst
  | .replacementAuthority => some .replacementAuthority
  | .trainingAnalyst => none
  | .validationAuthority => none

def assignmentFor (policy : AuthorityPolicy) (role : AccessPrincipalRole) :
    Option PrincipalAssignment :=
  policy.assignments.find? fun assignment => assignment.role = role

/-- The catalog's record of an artifact, the first one where there are several. -/
def artifactFor (artifacts : List ArtifactAccessRecord) (reference : ArtifactReference) :
    Option ArtifactAccessRecord :=
  artifacts.find? fun record => record.artifact = reference

def idIn (blocks : List BlockPlan) (id : BlockId) : Option BlockPlan :=
  blocks.find? fun block => block.blockId = id

/-- Some block of the list replaces this one. -/
def isReplaced (blocks : List BlockPlan) (id : BlockId) : Bool :=
  blocks.any fun candidate => candidate.replacesBlockId = some id

def roleAllowedForRecord (record : FreezeRecord) (role : BlockRole) : Bool :=
  match record.recordKind with
  | .selectionFreeze => role = .h3Train
  | .validationUnseal => role = .h3Validation
  | .h3Evaluated => role = .h3Validation
  | .h1h2Released => role = .h3Train || role = .h3Validation || role = .h1h2Supplemental
  | .protocolFreeze => role = .h3Train || role = .h3Validation || role = .h1h2Supplemental
  | .amendment => role = .h3Train || role = .h3Validation || role = .h1h2Supplemental
  | .replacementAuthorization => true

/-- An access record among those before, by its identifier and its digest. -/
def recordReference (earlier : List FreezeRecord) (reference : ArtifactReference) :
    Option FreezeRecord :=
  earlier.find? fun record =>
    record.recordId.value = reference.artifactId.val && record.recordSha256 = reference.sha256

def referenceResolves (earlier : List FreezeRecord) (artifacts : List ArtifactAccessRecord)
    (reference : ArtifactReference) : Bool :=
  (artifactFor artifacts reference).isSome || (recordReference earlier reference).isSome

/-! ### Timestamps -/

/-- The year, month, day, hour, minute and second, and the fraction without trailing zeros. -/
structure UtcTimestamp where
  fields : List Nat
  fraction : Text
  deriving DecidableEq

def parseDigits (value : Text) (offset count : Nat) : Option Nat :=
  if offset + count > value.length then none
  else if ((value.drop offset).take count).all Json.isDigit then
    some (Json.digitsValue ((value.drop offset).take count))
  else none

def leap (year : Nat) : Bool := (year % 4 = 0 && year % 100 ≠ 0) || year % 400 = 0

def monthDays : List Nat := [31, 28, 31, 30, 31, 30, 31, 31, 30, 31, 30, 31]

def maximumDay (year month : Nat) : Nat :=
  if month = 2 && leap year then 29 else monthDays.getD (month - 1) 0

/-- The punctuation of a normalized timestamp. -/
def utcShape (value : Text) : Bool :=
  20 ≤ value.length && value.getLast? = some 90 && value[4]? = some 45 && value[7]? = some 45 &&
    value[10]? = some 84 && value[13]? = some 58 && value[16]? = some 58

def trimZeros (digits : Text) : Text := (digits.reverse.dropWhile (· = 48)).reverse

/-- What stands between the second and the final `Z`. -/
def parseFraction (value : Text) : Option Text :=
  if value.length ≤ 20 then some []
  else if value[19]? ≠ some 46 || value.length = 21 then none
  else
    let fraction := (value.drop 20).take (value.length - 21)
    if fraction.isEmpty || !fraction.all Json.isDigit then none else some (trimZeros fraction)

def parseUtc (value : Text) : Option UtcTimestamp :=
  if !utcShape value then none
  else do
    let year ← parseDigits value 0 4
    let month ← parseDigits value 5 2
    let day ← parseDigits value 8 2
    let hour ← parseDigits value 11 2
    let minute ← parseDigits value 14 2
    let second ← parseDigits value 17 2
    if month = 0 || month > 12 || hour > 23 || minute > 59 || second > 60 then none
    else if day = 0 || day > maximumDay year month then none
    else do
      let fraction ← parseFraction value
      some ⟨[year, month, day, hour, minute, second], fraction⟩

/-- `std::string::resize` with zeros. -/
def padZeros (size : Nat) (fraction : Text) : Text :=
  fraction ++ List.replicate (size - fraction.length) 48

def timestampLess (left right : UtcTimestamp) : Bool :=
  if left.fields ≠ right.fields then left.fields < right.fields
  else
    let size := max left.fraction.length right.fraction.length
    padZeros size left.fraction < padZeros size right.fraction

/-! ### What a record's source document binds -/

section Digest

variable (conv : CharConv) (sha256 : Text → Sha256)

def zeroSelfHashMatches (record : FreezeRecord) : Bool :=
  zeroSelfDigest conv sha256 "record_sha256" record.sourceDocument = some record.recordSha256

def selectionPayloadKeys : List String :=
  ["h3_selections", "training_input_artifacts", "selection_rule_version"]

/-- The members of the source document the selection checksum is over. -/
def selectionPayload (source : Object) : Option (List (Text × Value)) :=
  selectionPayloadKeys.mapM fun key =>
    (Object.find (ascii key) source).map fun value => (ascii key, value)

def selectionChecksumMatches (record : FreezeRecord) : Bool :=
  match record.selectionRecordChecksumSha256, record.sourceDocument with
  | some checksum, .object source =>
      match selectionPayload source with
      | none => false
      | some members =>
          match Json.canonicalize conv (.object (Object.of members)) with
          | .ok canonical => sha256 canonical = checksum
          | .error _ => false
  | _, _ => false

end Digest

/-! ### The affected blocks and the inputs of a record -/

/-- The blocks that nothing replaces, of the role if one is given. -/
def expectedBlocks (blocks : List BlockPlan) (role : Option BlockRole) : List BlockId :=
  (blocks.filter fun block =>
    !isReplaced blocks block.blockId && role.all (block.blockRole = ·)).map BlockPlan.blockId

def exactAffectedBlocks (record : FreezeRecord) (blocks : List BlockPlan)
    (role : Option BlockRole) : Bool :=
  let expected := expectedBlocks blocks role
  let actual := record.affectedBlockIds
  !expected.isEmpty && expected.all (· ∈ actual) && actual.all (· ∈ expected) &&
    actual.dedup.length = actual.length

/-- The record has this input, under a class that is not one of the outcome classes. -/
def inputContains (record : FreezeRecord) (reference : ArtifactReference) : Bool :=
  record.inputArtifacts.any fun input =>
    input.artifact = reference && input.accessClass ≠ .trainingOnly &&
      input.accessClass ≠ .validationSealed && input.accessClass ≠ .validationUnsealed

/-! ### The decision that opens training -/

variable (object : Object)

def decisionU64 (key : String) : Option UInt64 :=
  match Object.find (ascii key) object with
  | some (.number (.unsignedInteger _ value)) => some value
  | some (.number (.signedInteger _ value)) => if value ≥ 0 then some value.toUInt64 else none
  | _ => none

def decisionString (key : String) : Text :=
  match Object.find (ascii key) object with
  | some (.string value) => value
  | _ => []

def stringItem : Value → Option Text
  | .string value => some value
  | _ => none

def decisionStrings (key : String) : Option (List Text) :=
  match Object.find (ascii key) object with
  | some (.array values) => values.mapM stringItem
  | _ => none

def exactStrings (actual : Option (List Text)) (expected : List String) : Bool :=
  actual = some (expected.map ascii)

structure TrainingOpenDecision where
  counts : ProspectiveCounts
  deltaStarArtifactId : Text
  bootstrapConfigurationArtifactId : Text

def candidateOrder : List String :=
  ["R0:H0", "R0:H1", "R1:H0", "R1:H1", "R2:H0", "R2:H1", "L0:H0", "L0:H1", "L1:H0", "L1:H1"]

def contextOrder : List String :=
  ["NEAR_L2_L050", "NEAR_LLC_L050", "NEAR_BEYOND_LLC_L050", "FAR_L2_L050", "FAR_LLC_L050",
    "FAR_BEYOND_LLC_L050"]

/-- The orders, families, rules and identities the decision must freeze. -/
def frozenFamilies : Bool :=
  object.length = 20 && exactStrings (decisionStrings object "candidate_order") candidateOrder &&
    exactStrings (decisionStrings object "h3_context_order") contextOrder &&
    exactStrings (decisionStrings object "h1_contrast_ids") h1ContrastIds &&
    exactStrings (decisionStrings object "h2_contrast_ids") h2ContrastIds &&
    decisionU64 object "h3_training_pair_count" = some (.ofNat kH3TrainingPairCount) &&
    decisionU64 object "h3_validation_family_count" = some (.ofNat kH3ValidationFamilyCount) &&
    decisionU64 object "h3_reported_comparison_count" = some (.ofNat kH3ReportedComparisonCount) &&
    decisionString object "tie_break_rule_id" = kH3SelectionRuleId &&
    isOpaque (decisionString object "delta_star_artifact_id") &&
    isOpaque (decisionString object "bootstrap_configuration_artifact_id") &&
    isOpaque (decisionString object "bootstrap_seed_id") &&
    isOpaque (decisionString object "precision_profile_id")

/-- The schema identities, if they are opaque, distinct and at least one. -/
def frozenSchemas : Option (List Text) :=
  match decisionStrings object "schema_artifact_ids" with
  | some schemas =>
      if !schemas.isEmpty && schemas.all isOpaque && schemas.dedup.length = schemas.length then
        some schemas
      else none
  | none => none

def frozenCounts : Option ProspectiveCounts := do
  some ⟨← decisionU64 object "r_h1", ← decisionU64 object "r_h2", ← decisionU64 object "r12",
    ← decisionU64 object "rtrain", ← decisionU64 object "rval", ← decisionU64 object "rtotal",
    ← decisionU64 object "nruns"⟩

def decodeTrainingOpenDecision (record : FreezeRecord) : Result TrainingOpenDecision :=
  match record.decisionValue with
  | none =>
      Load.fail .missingEvidence "$/decision_value" "ACCESS-TRAINING-FREEZE-EVIDENCE"
        "TRAINING_OPEN requires the complete prospective precision freeze object"
  | some value =>
      let object : Object := match value with
        | .object members => members
        | _ => []
      if !frozenFamilies object then
        Load.fail .missingEvidence "$/decision_value" "ACCESS-TRAINING-FREEZE-EVIDENCE"
          ("TRAINING_OPEN must freeze candidate/context order, exact families, rules, and " ++
            "evidence identities")
      else
        match frozenSchemas object with
        | none =>
            Load.fail .missingEvidence "$/decision_value/schema_artifact_ids"
              "ACCESS-TRAINING-FREEZE-SCHEMAS"
              "TRAINING_OPEN requires nonempty distinct immutable schema identities"
        | some schemas =>
            match frozenCounts object with
            | none =>
                Load.fail .missingEvidence "$/decision_value" "ACCESS-TRAINING-FREEZE-COUNTS"
                  "TRAINING_OPEN requires all seven prospective count fields as exact integers"
            | some counts =>
                let inputIds := record.inputArtifacts.map (·.artifact.artifactId.val)
                let delta := decisionString object "delta_star_artifact_id"
                let bootstrap := decisionString object "bootstrap_configuration_artifact_id"
                if delta ∉ inputIds || bootstrap ∉ inputIds || !schemas.all (· ∈ inputIds) then
                  Load.fail .referenceMismatch "$/decision_value" "ACCESS-TRAINING-FREEZE-INPUTS"
                    ("every named delta, bootstrap, and schema artifact requires an exact " ++
                      "hashed input reference")
                else .ok ⟨counts, delta, bootstrap⟩

/-! ### The authority policy -/

def requiredPrincipals : List AccessPrincipalRole :=
  [.freezeAuthority, .custodian, .trainingAnalyst, .validationAuthority, .confirmatoryAnalyst,
    .replacementAuthority]

/-- The loop over the assignments.  The role of one without an opaque identity is not recorded. -/
def auditAssignments : Nat → List AccessPrincipalRole → List PrincipalAssignment →
    List AccessPrincipalRole × List ValidationError
  | _, roles, [] => (roles, [])
  | index, roles, assignment :: rest =>
      let identified := isOpaque assignment.authorityId.value
      let later :=
        auditAssignments (index + 1) (if identified then assignment.role :: roles else roles) rest
      (later.1,
        require (identified && assignment.role ∉ roles)
          ⟨.duplicateValue, "$/authority_policy/assignments/" ++ toString index,
            "ACCESS-AUTHORITY-ASSIGNMENT",
            "each operational access role requires one opaque authority identity"⟩ ++ later.2)

/-- An overlap authorization that lets one principal hold both roles. -/
def overlapPermitted (policy : AuthorityPolicy) (artifacts : List ArtifactAccessRecord)
    (first second : PrincipalAssignment) : Bool :=
  policy.permittedOverlaps.any fun candidate =>
    ((candidate.first = first.role && candidate.second = second.role) ||
      (candidate.first = second.role && candidate.second = first.role)) &&
    candidate.authorityId = first.authorityId &&
    (artifactFor artifacts candidate.authorizationArtifact).isSome

def segregationErrors (policy : AuthorityPolicy) (artifacts : List ArtifactAccessRecord) :
    List PrincipalAssignment → List ValidationError
  | [] => []
  | first :: rest =>
      rest.flatMap (fun second =>
        require (first.authorityId ≠ second.authorityId ||
            overlapPermitted policy artifacts first second)
          ⟨.missingEvidence, "$/authority_policy/permitted_overlaps",
            "ACCESS-AUTHORITY-SEGREGATION",
            "one principal may hold multiple roles only with immutable authorization evidence"⟩) ++
      segregationErrors policy artifacts rest

def validateAuthorityPolicy (policy : AuthorityPolicy) (artifacts : List ArtifactAccessRecord) :
    List ValidationError :=
  let audit := auditAssignments 0 [] policy.assignments
  audit.2 ++
  requiredPrincipals.flatMap (fun role =>
    require (role ∈ audit.1)
      ⟨.missingEvidence, "$/authority_policy/assignments", "ACCESS-AUTHORITY-COMPLETE",
        "all six imported access roles require explicit principals"⟩) ++
  require (policy.assignments.length = requiredPrincipals.length)
    ⟨.outOfRange, "$/authority_policy/assignments", "ACCESS-AUTHORITY-EXACT",
      "the authority registry must contain exactly the six imported access roles"⟩ ++
  segregationErrors policy artifacts policy.assignments

/-! ### Transitions -/

/-- What a record's kind says of it: the errors, and whether the state may move. -/
structure Transition where
  allowed : Bool
  errors : List ValidationError

section Transitions

variable (conv : CharConv) (sha256 : Text → Sha256) (blocks : List BlockPlan)
  (artifacts : List ArtifactAccessRecord) (namespaces : RoleNamespaceRegistry)
  (authorities : AuthorityPolicy)

/-- The three moves a protocol freeze may make. -/
def protocolMove (record : FreezeRecord) : Bool :=
  (record.accessStateBefore = .planned && record.accessStateAfter = .collectedSealed) ||
    (record.accessStateBefore = .collectedSealed && record.accessStateAfter = .trainingOpen) ||
    (record.accessStateBefore = .h1h2Released && record.accessStateAfter = .archived)

def protocolFreeze (path : String) (record : FreezeRecord) : Transition :=
  let after := record.accessStateAfter
  let sealed := after ≠ .collectedSealed || exactAffectedBlocks record blocks none
  let opened := after ≠ .trainingOpen || exactAffectedBlocks record blocks (some .h3Train)
  let decision := if after = .trainingOpen then (decodeTrainingOpenDecision record).map fun _ => ()
    else .ok ()
  let archived := after ≠ .archived || exactAffectedBlocks record blocks none
  { allowed := protocolMove record && record.outcomeAccessProhibited &&
      record.authority.role = .freezeAuthority && sealed && opened && decision.isOk && archived
    errors :=
      require sealed
        ⟨.crossField, path ++ "/affected_block_ids", "ACCESS-COLLECTION-EXACT-BLOCKS",
          "collection sealing must name the complete frozen common block pool"⟩ ++
      require opened
        ⟨.crossField, path ++ "/affected_block_ids", "ACCESS-TRAINING-EXACT-BLOCKS",
          "opening training must name exactly every H3_TRAIN block"⟩ ++
      (match decision with
        | .ok _ => []
        | .error errors => errors) ++
      require archived
        ⟨.crossField, path ++ "/affected_block_ids", "ACCESS-ARCHIVE-EXACT-BLOCKS",
          "archival must name the complete frozen common block pool"⟩ }

/-- A training artifact that is one in the catalog and among the record's training inputs. -/
def trainingInput (record : FreezeRecord) (training : ArtifactReference) : Bool :=
  (artifactFor artifacts training).any (fun artifact =>
    artifact.accessClass = .trainingOnly && artifact.blockRole = some .h3Train) &&
  record.inputArtifacts.any fun input =>
    input.artifact = training && input.accessClass = .trainingOnly

def selectionFreeze (path : String) (record : FreezeRecord) : Transition :=
  let exact := exactAffectedBlocks record blocks (some .h3Train)
  let rule := record.selectionRuleVersion = some kH3SelectionRuleId
  let checksum := selectionChecksumMatches conv sha256 record
  let inputs := record.inputArtifacts.countP (fun input => input.accessClass = .trainingOnly) =
    record.trainingInputArtifacts.length
  { allowed := record.accessStateBefore = .trainingOpen &&
      record.accessStateAfter = .selectionFrozen && exact && rule && checksum && inputs
    errors :=
      require exact
        ⟨.crossField, path ++ "/affected_block_ids", "ACCESS-SELECTION-EXACT-BLOCKS",
          "selection freeze must name exactly every H3_TRAIN block"⟩ ++
      require rule
        ⟨.crossField, path ++ "/selection_rule_version", "ACCESS-H3-SELECTION-RULE",
          "selection must use arithmetic mean log(p99.9), minimum candidate, and the frozen " ++
            "candidate-order tie break"⟩ ++
      require checksum
        ⟨.invalidHash, path ++ "/selection_record_checksum_sha256", "ACCESS-SELECTION-PAYLOAD-HASH",
          "selection checksum must bind contexts, candidates, rule, and every training artifact " ++
            "reference"⟩ ++
      require (exactSelections record.h3Selections)
        ⟨.crossField, path ++ "/h3_selections", "ACCESS-H3-SIX-CONTEXTS",
          "selection must freeze one registered candidate in each stable context"⟩ ++
      record.trainingInputArtifacts.flatMap (fun training =>
        require (trainingInput artifacts record training)
          ⟨.referenceMismatch, path ++ "/training_input_artifacts", "ACCESS-TRAINING-ONLY",
            "selection can consume only named H3 training artifacts"⟩) ++
      require inputs
        ⟨.referenceMismatch, path ++ "/input_artifacts", "ACCESS-TRAINING-INPUTS-EXACT",
          "selection input hashes must exactly equal the named H3 training artifacts"⟩ }

/-- The unseal names the frozen validation namespace, and in it a sealed artifact. -/
def validationErrors (path : String) (record : FreezeRecord) : List ValidationError :=
  match record.validationNamespaceId, record.validationArtifactRef with
  | some namespaceId, some artifactRef =>
      if (findBinding namespaces .h3Validation).map (·.namespaceId) = some namespaceId then
        require ((artifactFor artifacts artifactRef).any fun artifact =>
            artifact.accessClass = .validationSealed && artifact.namespaceId = some namespaceId)
          ⟨.referenceMismatch, path ++ "/validation_artifact_ref", "ACCESS-VALIDATION-SEALED",
            "validation evidence must resolve as sealed in the frozen namespace"⟩
      else
        [⟨.referenceMismatch, path ++ "/validation_namespace_id", "ACCESS-VALIDATION-NAMESPACE",
          "unseal must name the frozen validation role namespace and artifact"⟩]
  | _, _ =>
      [⟨.referenceMismatch, path ++ "/validation_namespace_id", "ACCESS-VALIDATION-NAMESPACE",
        "unseal must name the frozen validation role namespace and artifact"⟩]

/-- Some input of the record was issued by the validation authority. -/
def approved (record : FreezeRecord) : Bool :=
  (assignmentFor authorities .validationAuthority).any fun authority =>
    record.inputArtifacts.any fun input =>
      (artifactFor artifacts input.artifact).any fun artifact =>
        artifact.issuingRole = some .validationAuthority &&
          artifact.issuerId = some authority.authorityId

def validationUnseal (path : String) (earlier : List FreezeRecord) (record : FreezeRecord) :
    Transition :=
  let exact := exactAffectedBlocks record blocks (some .h3Validation)
  { allowed := record.accessStateBefore = .selectionFrozen &&
      record.accessStateAfter = .validationUnsealed && exact
    errors :=
      require exact
        ⟨.crossField, path ++ "/affected_block_ids", "ACCESS-UNSEAL-EXACT-BLOCKS",
          "validation unsealing must name exactly every H3_VALIDATION block"⟩ ++
      validationErrors artifacts namespaces path record ++
      require (approved artifacts authorities record)
        ⟨.missingEvidence, path ++ "/input_artifacts", "ACCESS-VALIDATION-AUTHORITY",
          "validation authority approval must precede custodian unsealing"⟩ ++
      require (record.selectionRecordRef.any fun reference =>
        (recordReference earlier reference).isSome)
        ⟨.referenceMismatch, path ++ "/selection_record_ref", "ACCESS-SELECTION-PREDECESSOR",
          "validation unseal must hash-link the earlier selection freeze"⟩ }

def h3Evaluated (path : String) (earlier : List FreezeRecord) (record : FreezeRecord) :
    Transition :=
  let exact := exactAffectedBlocks record blocks (some .h3Validation)
  { allowed := record.accessStateBefore = .validationUnsealed &&
      record.accessStateAfter = .h3Evaluated && exact
    errors :=
      require exact
        ⟨.crossField, path ++ "/affected_block_ids", "ACCESS-H3-EVALUATION-EXACT-BLOCKS",
          "H3 evaluation must name exactly every H3_VALIDATION block"⟩ ++
      require ((record.selectionRecordRef.any fun reference =>
            (recordReference earlier reference).isSome) &&
          (record.validationUnsealRecordRef.any fun reference =>
            (recordReference earlier reference).isSome) &&
          record.h3EvaluationArtifactRef.any fun reference =>
            (artifactFor artifacts reference).isSome)
        ⟨.referenceMismatch, path, "ACCESS-H3-EVALUATION-LINEAGE",
          "H3 evaluation must link selection, unseal, validation, and evaluation hashes"⟩ }

def h1h2Released (path : String) (record : FreezeRecord) : Transition :=
  let exact := exactAffectedBlocks record blocks none
  { allowed := record.accessStateBefore = .h3Evaluated &&
      record.accessStateAfter = .h1h2Released && exact
    errors :=
      require exact
        ⟨.crossField, path ++ "/affected_block_ids", "ACCESS-H1H2-EXACT-BLOCKS",
          "H1/H2 release must name the complete common block pool"⟩ ++
      require ((record.h3EvaluationArtifactRef.any fun reference =>
            (artifactFor artifacts reference).isSome) &&
          record.h3AccessRecordRef.any fun reference => (artifactFor artifacts reference).isSome)
        ⟨.referenceMismatch, path, "ACCESS-H1H2-SEALED-H3",
          "H1/H2 release requires immutable H3 evaluation and access-audit evidence"⟩ }

/-- The amendment names its target, which is before it, by identifier and digest. -/
def priorHashNamed (earlier : List FreezeRecord) (record : FreezeRecord) (target : RecordId) :
    Bool :=
  (earlier.find? fun previous => previous.recordId = target).any fun previous =>
    record.priorAuthoritativeHashes.any fun reference =>
      reference.artifactId.val = previous.recordId.value && reference.sha256 = previous.recordSha256

def amendmentLineage (path : String) (earlier : List FreezeRecord) (targets : List RecordId)
    (record : FreezeRecord) : List ValidationError :=
  match record.supersedesId with
  | some target =>
      if target ∈ targets then
        [⟨.duplicateValue, path ++ "/supersedes_id", "ACCESS-AMENDMENT-LINEAGE",
          "amendments require one earlier unbranched supersession target"⟩]
      else
        require (priorHashNamed earlier record target)
          ⟨.referenceMismatch, path ++ "/prior_authoritative_hashes",
            "ACCESS-AMENDMENT-PREDECESSOR",
            "amendment must name and hash its earlier superseded record"⟩
  | none =>
      [⟨.duplicateValue, path ++ "/supersedes_id", "ACCESS-AMENDMENT-LINEAGE",
        "amendments require one earlier unbranched supersession target"⟩]

def amendment (path : String) (earlier : List FreezeRecord) (targets : List RecordId)
    (record : FreezeRecord) : Transition :=
  { allowed := record.accessStateBefore = record.accessStateAfter && record.outcomeAccessProhibited
    errors :=
      amendmentLineage path earlier targets record ++
      require (!record.inputArtifacts.any fun input =>
          input.accessClass = .trainingOnly || input.accessClass = .validationUnsealed)
        ⟨.crossField, path ++ "/input_artifacts", "ACCESS-AMENDMENT-NO-OUTCOMES",
          "an amendment cannot be selected from training or validation outcomes"⟩ }

/-! ### The ledger -/

/-- What the loop over the records carries from one to the next; `earlier` are those before. -/
structure AccessLedger where
  earlier : List FreezeRecord
  finalState : AccessState
  recordIds : List RecordId
  amendmentTargets : List RecordId
  previousTimestamp : Option UtcTimestamp
  errors : List ValidationError

variable (ledger : AccessLedger)

/-- Where the errors of the next record are. -/
def AccessLedger.path : String :=
  "$/access_records/" ++ toString ledger.earlier.length

/-- The timestamp is normalized and not before the last one that was. -/
def chronological (previous : Option UtcTimestamp) (timestamp : Option UtcTimestamp) : Bool :=
  timestamp.any fun timestamp => previous.all fun previous => !timestampLess timestamp previous

/-- The record's authority is the one its kind is assigned to; an amendment is assigned to none. -/
def authorityBound (record : FreezeRecord) : Bool :=
  (principalFor record.recordKind).all fun principal =>
    (assignmentFor authorities principal).any (·.authorityId = record.authority.authorityId) &&
      protocolRoleFor principal = some record.authority.role

/-- The rules every record is held to, whatever its kind. -/
def recordErrors (record : FreezeRecord) : List ValidationError :=
  validateRecord (.freezeRecord record) ++
  require (record.recordId ∉ ledger.recordIds)
    ⟨.duplicateValue, ledger.path ++ "/record_id", "ACCESS-APPEND-ONLY-ID",
      "an append-only access ledger cannot overwrite a record identity"⟩ ++
  require (zeroSelfHashMatches conv sha256 record)
    ⟨.invalidHash, ledger.path ++ "/record_sha256", "ACCESS-ZEROSELF-HASH",
      "access record hash must bind its complete canonical source document"⟩ ++
  require (chronological ledger.previousTimestamp (parseUtc record.createdAtUtc))
    ⟨.crossField, ledger.path ++ "/created_at_utc", "ACCESS-CHRONOLOGY",
      "access ledger timestamps must be normalized UTC and nondecreasing"⟩ ++
  record.inputArtifacts.flatMap (fun input =>
    require (referenceResolves ledger.earlier artifacts input.artifact)
      ⟨.referenceMismatch, ledger.path ++ "/input_artifacts", "ACCESS-INPUT-RESOLUTION",
        "every access input must resolve to immutable prior or external evidence"⟩) ++
  require (authorityBound authorities record)
    ⟨.referenceMismatch, ledger.path ++ "/authority", "ACCESS-AUTHORITY-BINDING",
      "record authority must match the frozen operational role assignment"⟩ ++
  record.affectedBlockIds.flatMap fun blockId =>
    require ((idIn blocks blockId).any fun block => roleAllowedForRecord record block.blockRole)
      ⟨.referenceMismatch, ledger.path ++ "/affected_block_ids", "ACCESS-AFFECTED-BLOCK-ROLE",
        "affected block must exist and have a role compatible with this transition"⟩

/-- The rules of the record's kind.  A replacement authorization has none of its own here. -/
def transitionOf (record : FreezeRecord) : Transition :=
  match record.recordKind with
  | .protocolFreeze => protocolFreeze blocks ledger.path record
  | .selectionFreeze => selectionFreeze conv sha256 blocks artifacts ledger.path record
  | .validationUnseal =>
      validationUnseal blocks artifacts namespaces authorities ledger.path ledger.earlier record
  | .h3Evaluated => h3Evaluated blocks artifacts ledger.path ledger.earlier record
  | .h1h2Released => h1h2Released blocks artifacts ledger.path record
  | .amendment => amendment ledger.path ledger.earlier ledger.amendmentTargets record
  | .replacementAuthorization => ⟨false, []⟩

/-- The part of a turn that a replacement authorization, which moves no state, does not reach. -/
def stateErrors (record : FreezeRecord) : List ValidationError :=
  let transition := transitionOf conv sha256 blocks artifacts namespaces authorities ledger record
  require (record.accessStateBefore = ledger.finalState)
    ⟨.crossField, ledger.path ++ "/access_state_before", "ACCESS-PREDECESSOR-STATE",
      "access transition must begin at the exact preceding ledger state"⟩ ++
  transition.errors ++
  require transition.allowed
    ⟨.crossField, ledger.path, "ACCESS-ILLEGAL-TRANSITION",
      "record kind does not authorize this access-state transition"⟩

/-- One turn of the loop: what is wrong with the record. -/
def turnErrors (record : FreezeRecord) : List ValidationError :=
  recordErrors conv sha256 blocks artifacts authorities ledger record ++
    if record.recordKind = .replacementAuthorization then []
    else stateErrors conv sha256 blocks artifacts namespaces authorities ledger record

/-- One turn of the loop: the state after it. -/
def turnState (record : FreezeRecord) : AccessState :=
  if record.recordKind ≠ .replacementAuthorization &&
      (transitionOf conv sha256 blocks artifacts namespaces authorities ledger record).allowed then
    record.accessStateAfter
  else ledger.finalState

/-- The targets superseded so far; only an amendment adds one. -/
def supersededTargets (targets : List RecordId) (record : FreezeRecord) : List RecordId :=
  if record.recordKind = .amendment then record.supersedesId.toList ++ targets else targets

def AccessLedger.turn (record : FreezeRecord) : AccessLedger :=
  { earlier := ledger.earlier ++ [record]
    finalState := turnState conv sha256 blocks artifacts namespaces authorities ledger record
    recordIds := record.recordId :: ledger.recordIds
    amendmentTargets := supersededTargets ledger.amendmentTargets record
    previousTimestamp := (parseUtc record.createdAtUtc).or ledger.previousTimestamp
    errors := ledger.errors ++
      turnErrors conv sha256 blocks artifacts namespaces authorities ledger record }

/-- One error for each block whose identity an earlier one has. -/
def blockIdErrors : List BlockId → List BlockPlan → List ValidationError
  | _, [] => []
  | seen, block :: rest =>
      require (block.blockId ∉ seen)
        ⟨.duplicateValue, "$/blocks", "ACCESS-BLOCK-UNIQUE",
          "block identities in an access graph must be unique"⟩ ++
      blockIdErrors (block.blockId :: seen) rest

/-- What the loop starts with. -/
def openLedger : AccessLedger :=
  ⟨[], .planned, [], [], none,
    validateAuthorityPolicy authorities artifacts ++ validateRoleNamespaces namespaces ++
      blockIdErrors [] blocks⟩

def validateAccessLedger (records : List FreezeRecord) : AccessLedgerResult :=
  let ledger :=
    records.foldl (AccessLedger.turn conv sha256 blocks artifacts namespaces authorities)
      (openLedger blocks artifacts namespaces authorities)
  ⟨ledger.finalState, ledger.errors⟩

end Transitions

/-! ### Outcome access -/

/-- The comparison of two enumerators: the state is this one or a later one. -/
def reached (required state : AccessState) : Bool := required.ctorIdx ≤ state.ctorIdx

/-- The actor, the block's role and the state of the ledger allow the domain's outcomes. -/
def outcomeAllowed (state : AccessState) (block : BlockPlan) (request : AccessRequest) : Bool :=
  match request.domain with
  | .h3Training =>
      request.actorRole = .trainingAnalyst && block.blockRole = .h3Train &&
        reached .trainingOpen state
  | .h3Validation =>
      request.actorRole = .confirmatoryAnalyst && block.blockRole = .h3Validation &&
        reached .validationUnsealed state
  | .h1h2 => request.actorRole = .confirmatoryAnalyst && reached .h1h2Released state

def authorizeOutcomeAccess (ledger : AccessLedgerResult) (blocks : List BlockPlan)
    (authorities : AuthorityPolicy) (request : AccessRequest) : Result Bool :=
  if ledger.errors ≠ [] then
    Load.fail .missingEvidence "$/access_ledger" "ACCESS-LEDGER-NOT-VALID"
      "outcome access is denied while the ledger has validation errors"
  else
    match assignmentFor authorities request.actorRole, idIn blocks request.blockId with
    | some assignment, some block =>
        if assignment.authorityId ≠ request.actorId || isReplaced blocks request.blockId then
          Load.fail .referenceMismatch "$/access_request" "ACCESS-REQUEST-IDENTITY"
            "actor assignment and active block identity must be frozen and resolvable"
        else if outcomeAllowed ledger.finalState block request then .ok true
        else
          Load.fail .missingEvidence "$/access_request" "ACCESS-OUTCOME-DENIED"
            "role, block role, or access chronology does not permit this outcome access"
    | _, _ =>
        Load.fail .referenceMismatch "$/access_request" "ACCESS-REQUEST-IDENTITY"
          "actor assignment and active block identity must be frozen and resolvable"

/-! ### Complete-block replacement -/

def sameFactor (run : RunManifest) (cell : StageACell) : Bool :=
  run.package = cell.package && run.requestedHardwareState = cell.requestedHardwareState &&
    run.placement = cell.placement && run.workingSetClass = cell.workingSetClass &&
    run.loadLevel = cell.loadLevel

/-- The factor tuples in the order of the cells' ordinals, which a valid plan has distinct. -/
def orderedFactorSequence (block : BlockPlan) : List CellKey :=
  (block.cells.insertionSort fun left right => left.cellOrdinal ≤ right.cellOrdinal).map
    StageACell.key

def replacementCount (blocks : List BlockPlan) : Nat :=
  blocks.countP fun block => block.replacesBlockId.isSome

section Decision

variable (conv : CharConv) (sha256 : Text → Sha256)

/-- The run is a retained invalid required run of the block, and the failure is its own. -/
def invalidRequiredRun (replaced : BlockPlan) (run : RunManifest) (failure : FailureRecord) :
    Bool :=
  run.stage = .stageA && run.blockId = replaced.blockId && run.blockRole = replaced.blockRole &&
    run.validity = .invalid && run.blockCompleteness = .incomplete &&
    replaced.cells.any (sameFactor run) && failure.failureRecordId ∈ run.failureRecordIds &&
    failure.runId = some run.runId && failure.blockId = some replaced.blockId &&
    failure.invalidatesRun && failure.blockConsequence = .originalBlockIncomplete

/-- The authorization names the block, the failure and the budget, and is sound by itself. -/
def authorizes (replaced : BlockPlan) (failure : FailureRecord) (budget : ReplacementBudget)
    (authorization : FreezeRecord) : Bool :=
  validateRecord (.freezeRecord authorization) = [] &&
    zeroSelfHashMatches conv sha256 authorization &&
    authorization.recordKind = .replacementAuthorization &&
    authorization.affectedBlockIds = [replaced.blockId] &&
    (authorization.replacement.any fun replacement =>
      replacement.originalBlockId = replaced.blockId &&
        replacement.failureRecordId = failure.failureRecordId &&
        replacement.replacementBudgetRecordId.value = budget.budgetArtifact.artifactId.val) &&
    authorization.inputArtifacts.any fun input =>
      input.artifact = budget.budgetArtifact &&
        (input.accessClass = .publicProtocol || input.accessClass = .platformEvidence ||
          input.accessClass = .treatmentBlind)

end Decision

end CpuPrefetch.Orchestration
