/-
`run_synthetic_analysis`: from the input to the reports.

Once the input is admitted every run is summarized, the active blocks are put together from the
summaries, and the candidates are selected on the training blocks before a validation block is
evaluated.

The machine report is a canonical document that carries its own digest; it lists every input
artifact, by identifier, and every limit by its bits.
-/
import CpuPrefetch.Analysis.Admission

namespace CpuPrefetch.Analysis

open Protocol Orchestration
open Protocol.Json (CharConv Object Value)
open Protocol.Load (ArtifactReference)

/-! ### The two reports -/

section Reports

def stageName : AnalysisStage → String
  | .artifactValidation => "ARTIFACT_VALIDATION"
  | .reconciliationVerification => "RECONCILIATION_VERIFICATION"
  | .intervalDerivation => "INTERVAL_DERIVATION"
  | .runGates => "RUN_GATES"
  | .runSummaries => "RUN_SUMMARIES"
  | .completeBlocks => "COMPLETE_BLOCKS"
  | .h3Training => "H3_TRAINING"
  | .selectionFreeze => "SELECTION_FREEZE"
  | .validationUnseal => "VALIDATION_UNSEAL"
  | .h3Validation => "H3_VALIDATION"
  | .h3Evaluation => "H3_EVALUATION"
  | .h1h2Release => "H1H2_RELEASE"
  | .h1h2Analysis => "H1H2_ANALYSIS"
  | .reporting => "REPORTING"

def conclusionName : PracticalConclusion → String
  | .practicallyLower => "PRACTICALLY_LOWER"
  | .practicallyHigher => "PRACTICALLY_HIGHER"
  | .practicallyEquivalent => "PRACTICALLY_EQUIVALENT"
  | .inconclusive => "INCONCLUSIVE"

def inferenceStateName : InferenceState → String
  | .estimable => "ESTIMABLE"
  | .blocked => "BLOCKED"

/-- What an analysis has come to, before it is reported. -/
structure AnalysisResults (F : Type) where
  state : InferenceState
  h1 : Option (MaxTResult F)
  h2 : Option (MaxTResult F)
  selection : Option H3SelectionRecord
  h3 : Option (H3ValidationResult F)
  stages : List StageReceipt

variable {F : Type} (conv : CharConv) (arith : Binary64 F)

def intervalValue (interval : SimultaneousInterval F) : Value :=
  .object <| Object.of
    [(ascii "stable_id", stringValue interval.stableId),
      (ascii "estimate_binary64", .string (floatBits arith interval.estimate)),
      (ascii "standard_error_binary64", .string (floatBits arith interval.standardError)),
      (ascii "lower_binary64",
        .string (if arith.isFinite interval.lower then floatBits arith interval.lower
          else ascii "NEGATIVE_INFINITY")),
      (ascii "upper_binary64", .string (floatBits arith interval.upper)),
      (ascii "conclusion", stringValue (conclusionName interval.conclusion))]

def familyValue (family : MaxTResult F) : Value :=
  .object <| Object.of
    [(ascii "family_id", stringValue family.familyId),
      (ascii "one_sided", .boolean family.oneSided),
      (ascii "critical_value_binary64", .string (floatBits arith family.criticalValue)),
      (ascii "bootstrap_replicates", uintValue family.bootstrapReplicates),
      (ascii "intervals", .array (family.intervals.map (intervalValue arith)))]

def selectionValue (selection : H3SelectionRecord) : Value :=
  .object <| Object.of
    [(ascii "record_sha256", .string selection.recordSha256.hex),
      (ascii "schema_version", .string selection.schemaVersion)]

def validationValue (h3 : H3ValidationResult F) : Value :=
  match h3.comparisons with
  | none => .null
  | some comparisons =>
      .object <| Object.of
        [(ascii "all_upper_limits_below_delta", .boolean h3.allUpperLimitsBelowDelta),
          (ascii "comparisons", familyValue arith comparisons)]

def receiptValue (receipt : StageReceipt) : Value :=
  .object <| Object.of
    [(ascii "stage", stringValue (stageName receipt.stage)),
      (ascii "version", .string receipt.version),
      (ascii "input_count", uintValue (.ofNat receipt.inputs.length))]

/-- The artifacts in the order of their identifiers. -/
def sortedArtifacts (artifacts : List ImmutableArtifact) : List ArtifactReference :=
  (artifacts.insertionSort fun left right =>
    left.reference.artifactId.val ≤ right.reference.artifactId.val).map ImmutableArtifact.reference

def buildMachineReport (configuration : AnalysisConfiguration F) (results : AnalysisResults F)
    (summaryCount blockCount : Nat) (artifacts : List ImmutableArtifact)
    (configurationHash : Sha256) (outputHash : Text) : Result Text :=
  Json.canonicalize conv <| .object <| Object.of
    [(ascii "analysis_profile", .string configuration.analysisProfile),
      (ascii "configuration_sha256", .string configurationHash.hex),
      (ascii "evidence_class", stringValue "SYNTHETIC_KNOWN_ANSWER_ONLY"),
      (ascii "inference_state", stringValue (inferenceStateName results.state)),
      (ascii "protocol_version", .string (protocolName configuration.protocolVersion)),
      (ascii "report_schema", .string kReportSchema),
      (ascii "output_sha256", .string outputHash),
      (ascii "run_summary_count", uintValue (.ofNat summaryCount)),
      (ascii "primary_complete_block_count", uintValue (.ofNat blockCount)),
      (ascii "software", softwareValue configuration.software),
      (ascii "input_artifacts", .array ((sortedArtifacts artifacts).map artifactValue)),
      (ascii "h1", (results.h1.map (familyValue arith)).getD .null),
      (ascii "h2", (results.h2.map (familyValue arith)).getD .null),
      (ascii "h3_selection", (results.selection.map selectionValue).getD .null),
      (ascii "h3_validation", (results.h3.map (validationValue arith)).getD .null),
      (ascii "sensitivity_diagnostics", .object <| Object.of
        [(ascii "classification", stringValue "NON_PRIMARY_DIAGNOSTIC"),
          (ascii "outputs", .array [])]),
      (ascii "stages", .array (results.stages.map receiptValue))]

/-- The text, or that the part was not evaluated. -/
def evaluated (present : Bool) (text : String) : String := if present then text else "not evaluated"

def buildHumanReport (state : InferenceState) (runCount blockCount : Nat)
    (h1 h2 : Option (MaxTResult F)) (h3 : Option (H3ValidationResult F)) : String :=
  "# Synthetic Stage 15 known-answer report\n\n" ++
  "**SYNTHETIC FIXTURE ONLY — THIS DOCUMENT CONTAINS NO EMPIRICAL FINDINGS.**\n\n" ++
  "Analysis state: " ++ inferenceStateName state ++
  "\n\nValidated synthetic run summaries: " ++ toString runCount ++
  "\n\nActive complete blocks: " ++ toString blockCount ++ "\n\n" ++
  "H1 family: " ++ evaluated h1.isSome "7 registered intervals" ++ "\n\n" ++
  "H2 family: " ++ evaluated h2.isSome "20 registered intervals" ++ "\n\n" ++
  "H3 validation: " ++
    evaluated (h3.any fun validation => validation.comparisons.isSome)
      "54 registered upper limits" ++
  "\n\nSensitivity and diagnostic outputs are non-primary and are not interpreted as treatment " ++
    "evidence.\n"

end Reports

variable {F : Type} (conv : CharConv) (sha256 : Text → Sha256) (arith : Binary64 F)

/-! ### Summaries -/

/-- Every run summarized, or every error of a summary. -/
def summarizeRuns (artifacts : List ImmutableArtifact) (runs : List SyntheticRunInput) :
    Result (List (RunSummary F)) :=
  let errors := runs.flatMap fun run => errorsOf (summarizeRun conv sha256 arith run artifacts)
  if errors ≠ [] then .error errors
  else .ok (runs.filterMap fun run => (summarizeRun conv sha256 arith run artifacts).toOption)

variable (input : AnalysisInput F)

/-- An active block with an invalid run is incomplete. -/
def incompleteBlock : Bool :=
  input.blocks.any fun block =>
    block.activePrimary && (runsOf input.runs block.plan.blockId).any invalidRun

/-- A run that lost records, or has too few effective samples. -/
def gateFailed (run : SyntheticRunInput) : Bool := run.fullCount ≠ 0 || run.nEffP999 < 200000

def gateBlocked : Bool :=
  input.blocks.any fun block =>
    block.activePrimary && (runsOf input.runs block.plan.blockId).any gateFailed

/-! ### Complete blocks -/

/-- A run's response, as its summary has it. -/
def cellResponse (summaries : List (RunSummary F)) (run : SyntheticRunInput) : CellResponse F :=
  ⟨run.package, run.hardwareState, run.placement, run.workingSet, run.load,
    ((summaries.find? fun summary => summary.runId = run.runId).map RunSummary.logP999).getD
      arith.zero⟩

def responseOf (summaries : List (RunSummary F)) (runs : List SyntheticRunInput)
    (block : BlockInput) : CompleteBlockResponse F :=
  ⟨block.plan.blockId, block.plan.blockRole,
    (runsOf runs block.plan.blockId).map (cellResponse arith summaries)⟩

def primaryBlocks (summaries : List (RunSummary F)) (runs : List SyntheticRunInput)
    (blocks : List BlockInput) : List (CompleteBlockResponse F) :=
  (blocks.filter BlockInput.activePrimary).map (responseOf arith summaries runs)

def blocksWithRole (blocks : List (CompleteBlockResponse F)) (role : BlockRole) :
    List (CompleteBlockResponse F) :=
  blocks.filter fun block => block.role = role

/-- The joined artifacts the selection is made of: those of the training runs at half load. -/
def trainingSourcesOf (trainingIds : List BlockId) (runs : List SyntheticRunInput) :
    List ArtifactReference :=
  (runs.filter fun run => run.blockRole = .h3Train && run.load = .l050 &&
    run.blockId ∈ trainingIds).map SyntheticRunInput.joinedArtifact

/-! ### The analysis -/

def receipt (stage : AnalysisStage) (inputs : List ArtifactReference) : StageReceipt :=
  ⟨stage, ascii "v1", inputs⟩

def preparationStages : List StageReceipt :=
  [receipt .artifactValidation [], receipt .reconciliationVerification [],
    receipt .intervalDerivation [], receipt .runGates [], receipt .runSummaries [],
    receipt .completeBlocks []]

/-- Both families of contrasts, of every active block. -/
def contrastVectors (blocks : List (CompleteBlockResponse F)) : Outcome (List (List F × List F)) :=
  blocks.mapM fun block =>
    Outcome.both (h1BlockContrasts arith block) (h2BlockContrasts arith block)
      "$/analysis/contrasts" "ANALYSIS-CONTRAST-CELLS"
      "registered contrasts require all exact cells"

/-- The selection, its evaluation, and the two families, when no gate is in the way. -/
def inferences (blocks : List (CompleteBlockResponse F)) : Outcome (AnalysisResults F) := do
  let bootstrap := input.configuration.bootstrap
  let deltaStar := input.configuration.deltaStar
  let trainingBlocks := blocksWithRole blocks .h3Train
  let trainingSources :=
    trainingSourcesOf (trainingBlocks.map CompleteBlockResponse.blockId) input.runs
  let selection ← selectH3Training arith conv sha256 trainingBlocks trainingSources
  let h3 ← evaluateH3Validation arith (blocksWithRole blocks .h3Validation) selection bootstrap
    deltaStar
  let vectors ← contrastVectors arith blocks
  let families ← Outcome.both
    (twoSidedMaxT arith "H1-SEVEN-TWO-SIDED" h1ContrastIds (vectors.map Prod.fst) bootstrap
      deltaStar)
    (twoSidedMaxT arith "H2-TWENTY-TWO-SIDED" h2ContrastIds (vectors.map Prod.snd) bootstrap
      deltaStar)
    "$/analysis/max_t" "ANALYSIS-MAXT" "separate H1 and H2 max-T families must both pass"
  .ok
    { state := .estimable
      h1 := some families.1
      h2 := some families.2
      selection := some selection
      h3 := some h3
      stages := preparationStages ++
        [receipt .h3Training trainingSources, receipt .selectionFreeze trainingSources,
          receipt .validationUnseal [input.validationAccess.accessRecord],
          receipt .h3Validation [], receipt .h3Evaluation [],
          receipt .h1h2Release [input.h1h2Access.accessRecord], receipt .h1h2Analysis [],
          receipt .reporting []] }

def blockedResults : AnalysisResults F :=
  ⟨.blocked, none, none, none, none, preparationStages ++ [receipt .reporting []]⟩

/-- What the blocks come to; a failed gate blocks every inference. -/
def resultsOf (blocks : List (CompleteBlockResponse F)) : Outcome (AnalysisResults F) :=
  if gateBlocked input then .ok blockedResults else inferences conv sha256 arith input blocks

/-- The machine report with its own digest, and the digest. -/
def sealedReport (results : AnalysisResults F) (summaryCount blockCount : Nat)
    (configurationHash : Sha256) : Result (Text × Sha256) := do
  let report := buildMachineReport conv arith input.configuration results summaryCount blockCount
    input.artifacts configurationHash
  let blank ← report zeroSelf
  let outputHash := sha256 blank
  let machine ← report outputHash.hex
  .ok (machine, outputHash)

/-- The output, with its reports. -/
def reportAnalysis (summaries : List (RunSummary F)) (blocks : List (CompleteBlockResponse F))
    (results : AnalysisResults F) : Result (AnalysisOutput F) := do
  let configurationBytes ← canonicalConfiguration conv arith input.configuration
  let configurationHash := sha256 configurationBytes
  let sealed ← sealedReport conv sha256 arith input results summaries.length blocks.length
    configurationHash
  .ok
    { state := results.state
      runSummaries := summaries
      primaryBlocks := blocks
      h1 := results.h1
      h2 := results.h2
      selection := results.selection
      h3 := results.h3
      stages := results.stages
      machineReportJson := sealed.1
      humanReportMarkdown := buildHumanReport results.state summaries.length blocks.length
        results.h1 results.h2 results.h3
      configurationSha256 := configurationHash
      outputSha256 := sealed.2 }

/-- What follows once every run is summarized. -/
def analyzeSummaries (summaries : List (RunSummary F)) : Outcome (AnalysisOutput F) :=
  if incompleteBlock input then
    fail .crossField "$/blocks/active" "ANALYSIS-INCOMPLETE-BLOCK"
      ("an active primary block contains an invalid run; only an authorized complete " ++
        "replacement may supersede it")
  else do
    let blocks := primaryBlocks arith summaries input.runs input.blocks
    let results ← resultsOf conv sha256 arith input blocks
    Outcome.of (reportAnalysis conv sha256 arith input summaries blocks results)

def runSyntheticAnalysis : Outcome (AnalysisOutput F) :=
  let errors := inputErrors conv sha256 arith input
  if errors ≠ [] then .error (.errors errors)
  else
    match summarizeRuns conv sha256 arith input.artifacts input.runs with
    | .error errors => .error (.errors errors)
    | .ok summaries => analyzeSummaries conv sha256 arith input summaries

end CpuPrefetch.Analysis
