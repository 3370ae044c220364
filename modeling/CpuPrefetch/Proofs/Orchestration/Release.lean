/-
The staged release.

An accepted ledger walks down the release one step at a time, so a state is reached only
past the records that take the steps to it.  Outcome access compares the final state alone,
and that is enough: whatever it grants, the records it rests on are in the ledger, in order.
-/
import CpuPrefetch.Proofs.Orchestration.Ledger
import CpuPrefetch.Proofs.Protocol.Tokens

namespace CpuPrefetch.Orchestration

open Protocol
open Protocol.Json (CharConv)

section Release

variable {conv : CharConv} {sha256 : Text → Sha256} {blocks : List BlockPlan}
  {artifacts : List ArtifactAccessRecord} {namespaces : RoleNamespaceRegistry}
  {authorities : AuthorityPolicy} {records : List FreezeRecord}

/-- The record's authority is the principal that the policy assigns to the record's kind. -/
def AssignedAuthority (authorities : AuthorityPolicy) (record : FreezeRecord) : Prop :=
  ∀ principal, principalFor record.recordKind = some principal →
    ∃ assignment, assignmentFor authorities principal = some assignment ∧
      assignment.authorityId = record.authority.authorityId ∧
      protocolRoleFor principal = some record.authority.role

variable (conv sha256 blocks artifacts namespaces authorities) in
/-- What the state of the ledger is after the records. -/
def stateAfter (records : List FreezeRecord) : AccessState :=
  (validateAccessLedger conv sha256 blocks artifacts namespaces authorities records).finalState

variable (conv sha256 blocks artifacts namespaces authorities) in
/-- A ledger that is an exact staged release. -/
structure StagedLedger (records : List FreezeRecord) : Prop where
  release : StagedRelease records
    (stateAfter conv sha256 blocks artifacts namespaces authorities records)
  assigned : ∀ record ∈ records, AssignedAuthority authorities record
  amended : ∀ before record after, records = before ++ record :: after →
    record.recordKind = .amendment →
    record.accessStateBefore =
        stateAfter conv sha256 blocks artifacts namespaces authorities before ∧
      record.accessStateAfter =
        stateAfter conv sha256 blocks artifacts namespaces authorities before ∧
      stateAfter conv sha256 blocks artifacts namespaces authorities (before ++ [record]) =
        stateAfter conv sha256 blocks artifacts namespaces authorities before
  stamped : ∀ record ∈ records, (parseUtc record.createdAtUtc).isSome = true
  inOrder : records.Pairwise InOrder
  distinct : (records.map FreezeRecord.recordId).Nodup

/-- Of two kinds, a record of the first stands before one of the second. -/
def TakenInOrder (records : List FreezeRecord) (first second : RecordKind) : Prop :=
  ∃ earlier later, [earlier, later].Sublist records ∧ earlier.recordKind = first ∧
    later.recordKind = second

theorem assigned_of_bound {record : FreezeRecord} (h : authorityBound authorities record = true) :
    AssignedAuthority authorities record := by
  intro principal hprincipal
  rw [authorityBound, hprincipal, Option.all_some, Bool.and_eq_true] at h
  obtain ⟨hassigned, hrole⟩ := h
  obtain ⟨assignment, hfound, hsame⟩ := Option.any_eq_true _ _ |>.mp hassigned
  exact ⟨assignment, hfound, by simpa using hsame, by simpa using hrole⟩

theorem LedgerAccepted.staged
    (h : LedgerAccepted conv sha256 blocks artifacts namespaces authorities records) :
    StagedLedger conv sha256 blocks artifacts namespaces authorities records := by
  have hrun := h.run
  refine
    { release := hrun.release
      assigned := ?_
      amended := ?_
      stamped := hrun.stamped
      inOrder := hrun.inOrder
      distinct := hrun.distinct }
  · intro record hrecord
    exact assigned_of_bound (hrun.bound record hrecord)
  · intro before record after hsplit hkind
    rw [hsplit] at h
    obtain ⟨hstate, hends⟩ := h.admitted.stay (by simp [advances, hkind])
    refine ⟨(hends hkind).1, (hends hkind).2, ?_⟩
    rw [stateAfter, validateAccessLedger, List.foldl_append]
    exact hstate

/-- Two steps that lie before every state from the required one on. -/
theorem StagedRelease.inOrder {state required : AccessState} (h : StagedRelease records state)
    (hreached : reached required state = true)
    (first second : RecordKind × AccessState × AccessState)
    (hsteps : ∀ n, n < 8 → (releaseStates[n]?).any (reached required) = true →
      [first, second].Sublist (releaseSteps.take n)) :
    TakenInOrder records first.1 second.1 := by
  obtain ⟨taken, htaken, hmap⟩ := h.taken hreached hsteps
  obtain ⟨earlier, rest, rfl, hfirst, hrest⟩ := List.map_eq_cons_iff.mp hmap
  obtain ⟨later, others, rfl, hsecond, hothers⟩ := List.map_eq_cons_iff.mp hrest
  obtain rfl := List.map_eq_nil_iff.mp hothers
  exact ⟨earlier, later, htaken, congrArg Prod.fst hfirst, congrArg Prod.fst hsecond⟩

theorem StagedRelease.unsealed {state : AccessState} (h : StagedRelease records state)
    (hreached : reached .validationUnsealed state = true) :
    TakenInOrder records .selectionFreeze .validationUnseal :=
  h.inOrder hreached (.selectionFreeze, .trainingOpen, .selectionFrozen)
    (.validationUnseal, .selectionFrozen, .validationUnsealed) (by decide)

theorem StagedRelease.released {state : AccessState} (h : StagedRelease records state)
    (hreached : reached .h1h2Released state = true) :
    TakenInOrder records .h3Evaluated .h1h2Released :=
  h.inOrder hreached (.h3Evaluated, .validationUnsealed, .h3Evaluated)
    (.h1h2Released, .h3Evaluated, .h1h2Released) (by decide)

/-- What is granted was allowed by the state the ledger ends in. -/
theorem authorizeOutcomeAccess_granted {ledger : AccessLedgerResult} {pool : List BlockPlan}
    {policy : AuthorityPolicy} {request : AccessRequest}
    (h : authorizeOutcomeAccess ledger pool policy request = .ok true) :
    ∃ block, outcomeAllowed ledger.finalState block request = true := by
  rw [authorizeOutcomeAccess.eq_def] at h
  simp only [Load.fail] at h
  split at h
  · cases h
  · split at h
    · rename_i block hassignment hblock
      split at h
      · cases h
      · split at h
        · exact ⟨block, ‹_›⟩
        · cases h
    · cases h

end Release

/-! ### A ledger to evaluate on -/

/-- The two hexadecimal digits of a byte. -/
def hexPair (byte : UInt8) : Text :=
  [byte >>> 4, byte &&& 15].map fun digit => if digit < 10 then 48 + digit else 87 + digit

theorem hexPair_length (byte : UInt8) : (hexPair byte).length = 2 := rfl

theorem hexPair_lower : ∀ byte : UInt8, lowercaseHex (hexPair byte) = true := by
  intro byte
  exact Json.forall_byte (p := fun byte => lowercaseHex (hexPair byte) = true) (by decide) byte

/-- A digest to evaluate with: the first 32 bytes of a text. -/
def firstBytes (text : Text) : Sha256 where
  hex := ((text ++ List.replicate 32 0).take 32).flatMap hexPair
  valid := by
    have hlength : ((text ++ List.replicate 32 0).take 32).length = 32 := by simp
    generalize (text ++ List.replicate 32 0).take 32 = bytes at hlength
    rw [validSha256, Bool.and_eq_true, decide_eq_true_eq]
    constructor
    · simp [List.length_flatMap, hexPair_length, hlength]
    · rw [lowercaseHex, List.all_flatMap, List.all_eq_true]
      intro byte _
      exact hexPair_lower byte

/-- An identity to evaluate with; the underscore keeps it from being empty. -/
def named (tag : IdentifierTag) (name : String) : Identifier tag :=
  ⟨95 :: ascii name, List.cons_ne_nil _ _⟩

variable (name : String)

def artifactNamed : Load.ArtifactReference :=
  ⟨⟨95 :: ascii name, List.cons_ne_nil _ _⟩, firstBytes []⟩

def textValue (text : String) : Json.Value := .string (ascii text)

def countValue (count : UInt64) : Json.Value :=
  .number (.unsignedInteger (decimal count.toNat) count)

/-- No binary64 number is read or written. -/
def noNumbers : CharConv := ⟨fun _ => none, fun _ => none⟩

/-- One principal for each role. -/
def samplePolicy : AuthorityPolicy where
  assignments :=
    [⟨.freezeAuthority, named _ "freeze"⟩, ⟨.custodian, named _ "custodian"⟩,
      ⟨.trainingAnalyst, named _ "trainer"⟩, ⟨.validationAuthority, named _ "validator"⟩,
      ⟨.confirmatoryAnalyst, named _ "analyst"⟩, ⟨.replacementAuthority, named _ "replacer"⟩]
  permittedOverlaps := []

def sampleNamespaces : RoleNamespaceRegistry where
  commonStageANamespaceId := named _ "stage-a"
  roleBindings :=
    [⟨.h3Train, named _ "training", named _ "stage-a"⟩,
      ⟨.h3Validation, named _ "validation", named _ "stage-a"⟩,
      ⟨.h1h2Supplemental, named _ "supplemental", named _ "stage-a"⟩]

/-- A block of the role, of whose plan a ledger reads nothing else. -/
def sampleBlock (role : BlockRole) : BlockPlan where
  schemaVersion := .v200pre2
  protocolVersion := .v200pre2
  blockId := named _ name
  platformId := named _ "platform"
  buildId := named _ "build"
  stage := .stageA
  blockRole := role
  blockOrdinal := 0
  seedSubspaceId := named _ name
  replacesBlockId := none
  replacementAuthorizationId := none
  replacementLineage := none
  wholePlotOrder := (.h0, .h1)
  cells := []
  accessState := .planned
  planSha256 := firstBytes []
  sourceDocument := .null

/-- The document of a record: its identity, its digest, and what a selection checksum is over. -/
def sampleDocument : Json.Value :=
  .object (Json.Object.of
    [(ascii "record_id", textValue name), (ascii "record_sha256", .string zeroSelf),
      (ascii "h3_selections", .null), (ascii "training_input_artifacts", .null),
      (ascii "selection_rule_version", .null)])

def sampleRecordSha256 : Sha256 :=
  (zeroSelfDigest noNumbers firstBytes "record_sha256" (sampleDocument name)).getD (firstBytes [])

/-- A record of the kind, with nothing that only some kinds have. -/
def sampleFreeze (kind : RecordKind) (before after : AccessState) (authority : Authority)
    (affected : List BlockId) (inputs : List AccessInputArtifact) : FreezeRecord where
  schemaVersion := .v200pre2
  protocolVersion := .v200pre2
  recordId := named _ name
  recordKind := kind
  status := .authorized
  authorizationStatus := .authorized
  createdAtUtc := ascii "2026-01-01T00:00:00Z"
  authority := authority
  decisionValue := none
  rationale := none
  accessStateBefore := before
  accessStateAfter := after
  outcomeAccessProhibited := true
  affectedBlockIds := affected
  h3Selections := []
  contextsDistinct := List.nodup_nil
  trainingInputArtifacts := []
  selectionRuleVersion := none
  selectionRecordChecksumSha256 := none
  selectionRecordRef := none
  validationNamespaceId := none
  validationArtifactRef := none
  validationUnsealRecordRef := none
  h3EvaluationArtifactRef := none
  h3AccessRecordRef := none
  replacement := none
  supersedesId := none
  priorProtocolVersion := none
  newProtocolVersion := none
  affectedDocuments := []
  affectedSchemaIds := []
  affectedEstimands := []
  pilotRecordDisposition := none
  priorAuthoritativeHashes := []
  inputArtifacts := inputs
  recordSha256 := sampleRecordSha256 name
  sourceDocument := sampleDocument name

/-- A reference to a record of these. -/
def sampleReference : Load.ArtifactReference :=
  ⟨⟨95 :: ascii name, List.cons_ne_nil _ _⟩, sampleRecordSha256 name⟩

/-- What opens training: the families and orders as they are registered, and the counts. -/
def sampleDecision (counts : List (String × UInt64)) : Json.Value :=
  let texts := fun (values : List String) => Json.Value.array (values.map textValue)
  .object (Json.Object.of (
    [(ascii "candidate_order", texts candidateOrder),
      (ascii "h3_context_order", texts contextOrder),
      (ascii "h1_contrast_ids", texts h1ContrastIds),
      (ascii "h2_contrast_ids", texts h2ContrastIds),
      (ascii "h3_training_pair_count", countValue (.ofNat kH3TrainingPairCount)),
      (ascii "h3_validation_family_count", countValue (.ofNat kH3ValidationFamilyCount)),
      (ascii "h3_reported_comparison_count", countValue (.ofNat kH3ReportedComparisonCount)),
      (ascii "tie_break_rule_id", .string kH3SelectionRuleId),
      (ascii "delta_star_artifact_id", textValue "_delta"),
      (ascii "bootstrap_configuration_artifact_id", textValue "_bootstrap"),
      (ascii "bootstrap_seed_id", textValue "_seed"),
      (ascii "precision_profile_id", textValue "_profile"),
      (ascii "schema_artifact_ids", texts ["_schema"])] ++
    counts.map fun count => (ascii count.1, countValue count.2)))

def freezeAuthority : Authority := ⟨named _ "freeze", .freezeAuthority⟩

/-- Sealing the collection of the blocks. -/
def sampleSeal (affected : List BlockId) : FreezeRecord :=
  sampleFreeze "seal" .protocolFreeze .planned .collectedSealed freezeAuthority affected
    [⟨artifactNamed "schema", .publicProtocol⟩]

/-- Opening training on the blocks, with the counts. -/
def sampleOpening (affected : List BlockId) (counts : List (String × UInt64)) : FreezeRecord :=
  { sampleFreeze "opening" .protocolFreeze .collectedSealed .trainingOpen freezeAuthority affected
      [⟨artifactNamed "schema", .publicProtocol⟩, ⟨artifactNamed "delta", .publicProtocol⟩,
        ⟨artifactNamed "bootstrap", .publicProtocol⟩] with
    decisionValue := some (sampleDecision counts) }

def sampleCounts : List (String × UInt64) :=
  [("r_h1", 1), ("r_h2", 1), ("r12", 1), ("rtrain", 1), ("rval", 1), ("rtotal", 2), ("nruns", 360)]

/-- A selection from the training artifact, with one more input. -/
def sampleSelection (input : AccessInputArtifact) : FreezeRecord :=
  { sampleFreeze "selection" .selectionFreeze .trainingOpen .selectionFrozen freezeAuthority
      [named _ "train"] [⟨artifactNamed "outcomes", .trainingOnly⟩, input] with
    status := .frozen
    h3Selections := h3Contexts.map fun context => (context, ⟨.r0, .h0⟩)
    contextsDistinct := by decide
    trainingInputArtifacts := [artifactNamed "outcomes"]
    selectionRuleVersion := some kH3SelectionRuleId
    selectionRecordChecksumSha256 :=
      some (firstBytes (ascii "\x7b\"h3_selections\":null,\"selection_rule_version\":null")) }

/-- Unsealing the validation artifact, after the record that is named as the selection. -/
def sampleUnseal (selection : Load.ArtifactReference) : FreezeRecord :=
  { sampleFreeze "unseal" .validationUnseal .selectionFrozen .validationUnsealed
      ⟨named _ "custodian", .validationCustodian⟩ [named _ "hold"]
      [⟨artifactNamed "approval", .publicProtocol⟩] with
    outcomeAccessProhibited := false
    selectionRecordRef := some selection
    validationNamespaceId := some (named _ "validation")
    validationArtifactRef := some (artifactNamed "sealed") }

def sampleArtifacts : List ArtifactAccessRecord :=
  [⟨artifactNamed "schema", .publicProtocol, none, none, none, none, none⟩,
    ⟨artifactNamed "delta", .publicProtocol, none, none, none, none, none⟩,
    ⟨artifactNamed "bootstrap", .publicProtocol, none, none, none, none, none⟩,
    ⟨artifactNamed "outcomes", .trainingOnly, none, none, some .h3Train, none, none⟩,
    ⟨artifactNamed "sealed", .validationSealed, none, some (named _ "validation"), none,
      none, none⟩,
    ⟨artifactNamed "approval", .publicProtocol, none, none, none, some .validationAuthority,
      some (named _ "validator")⟩]

def sampleBlocks : List BlockPlan :=
  [sampleBlock "train" .h3Train, sampleBlock "hold" .h3Validation]

/-- The records up to an unsealing, whose reference and the selection's input are open. -/
def sampleLedger (input : AccessInputArtifact) (selection : Load.ArtifactReference) :
    List FreezeRecord :=
  [sampleSeal [named _ "train", named _ "hold"], sampleOpening [named _ "train"] sampleCounts,
    sampleSelection input, sampleUnseal selection]

/-- The selection reads what the catalog holds sealed, and the unsealing names the first record
as the selection. -/
theorem sampleLedger_accepted :
    LedgerAccepted noNumbers firstBytes sampleBlocks sampleArtifacts sampleNamespaces samplePolicy
      (sampleLedger ⟨artifactNamed "sealed", .publicProtocol⟩ (sampleReference "seal")) := by
  rw [LedgerAccepted]
  decide +kernel

/-! ### The main result -/

section Release

variable {conv : CharConv} {sha256 : Text → Sha256} {blocks : List BlockPlan}
  {artifacts : List ArtifactAccessRecord} {namespaces : RoleNamespaceRegistry}
  {authorities : AuthorityPolicy} {records : List FreezeRecord}

/-- **An accepted ledger is an exact staged release**, and outcomes are granted only past the
records that release them. -/
theorem accepted_ledger_staged
    (h : LedgerAccepted conv sha256 blocks artifacts namespaces authorities records) :
    StagedLedger conv sha256 blocks artifacts namespaces authorities records ∧
    ∀ (pool : List BlockPlan) (policy : AuthorityPolicy) (request : AccessRequest),
      authorizeOutcomeAccess
          (validateAccessLedger conv sha256 blocks artifacts namespaces authorities records) pool
          policy request = .ok true →
        (request.domain = .h3Validation →
          TakenInOrder records .selectionFreeze .validationUnseal) ∧
        (request.domain = .h1h2 → TakenInOrder records .h3Evaluated .h1h2Released) := by
  have hstaged := h.staged
  refine ⟨hstaged, ?_⟩
  intro pool policy request hgranted
  obtain ⟨block, hallowed⟩ := authorizeOutcomeAccess_granted hgranted
  constructor
  · intro hdomain
    simp only [outcomeAllowed, hdomain, Bool.and_eq_true] at hallowed
    exact hstaged.release.unsealed hallowed.2
  · intro hdomain
    simp only [outcomeAllowed, hdomain, Bool.and_eq_true] at hallowed
    exact hstaged.release.released hallowed.2

end Release

/-- What the analyst asks of the validation block once it is unsealed. -/
def sampleRequest : AccessRequest :=
  ⟨named _ "analyst", .confirmatoryAnalyst, .h3Validation, named _ "hold"⟩

theorem accepted_ledger_staged_unsealed :
    let records := sampleLedger ⟨artifactNamed "sealed", .publicProtocol⟩ (sampleReference "seal")
    authorizeOutcomeAccess
        (validateAccessLedger noNumbers firstBytes sampleBlocks sampleArtifacts sampleNamespaces
          samplePolicy records) sampleBlocks samplePolicy sampleRequest = .ok true ∧
      StagedLedger noNumbers firstBytes sampleBlocks sampleArtifacts sampleNamespaces samplePolicy
        records ∧
      TakenInOrder records .selectionFreeze .validationUnseal := by
  intro records
  have hgranted : authorizeOutcomeAccess
      (validateAccessLedger noNumbers firstBytes sampleBlocks sampleArtifacts sampleNamespaces
        samplePolicy records) sampleBlocks samplePolicy sampleRequest = .ok true := by
    decide +kernel
  obtain ⟨hstaged, houtcomes⟩ := accepted_ledger_staged sampleLedger_accepted
  exact ⟨hgranted, hstaged, (houtcomes _ _ _ hgranted).1 rfl⟩

end CpuPrefetch.Orchestration
