/-
The selection of one candidate a context, from the training blocks, and its evaluation on the
validation blocks.
-/
import CpuPrefetch.Analysis.Inference
import CpuPrefetch.Analysis.Summaries

namespace CpuPrefetch.Analysis

open Protocol Orchestration
open Protocol.Json (CharConv Object Value)
open Protocol.Load (ArtifactReference)

/-! ### Names -/

def contextName : H3Context → String
  | .nearL2L050 => "NEAR_L2_L050"
  | .nearLlcL050 => "NEAR_LLC_L050"
  | .nearBeyondLlcL050 => "NEAR_BEYOND_LLC_L050"
  | .farL2L050 => "FAR_L2_L050"
  | .farLlcL050 => "FAR_LLC_L050"
  | .farBeyondLlcL050 => "FAR_BEYOND_LLC_L050"

def candidateName (candidate : H3Candidate) : String :=
  packageName candidate.package ++ "-" ++ hardwareName candidate.requestedHardwareState

/-! ### Both of two results -/

/-- Both results, or one error for either; an exception goes through. -/
def Outcome.both {A B : Type} (left : Outcome A) (right : Outcome B)
    (path rule message : String) : Outcome (A × B) :=
  match left, right with
  | .ok first, .ok second => .ok (first, second)
  | .error .outOfRange, _ => .error .outOfRange
  | _, .error .outOfRange => .error .outOfRange
  | _, _ => fail .crossField path rule message

variable {F : Type} (arith : Binary64 F)

/-! ### The candidates of a context -/

def h3Placement : H3Context → Placement
  | .nearL2L050 | .nearLlcL050 | .nearBeyondLlcL050 => .near
  | .farL2L050 | .farLlcL050 | .farBeyondLlcL050 => .far

def h3WorkingSet : H3Context → WorkingSetClass
  | .nearL2L050 | .farL2L050 => .l2Resident
  | .nearLlcL050 | .farLlcL050 => .llcResident
  | .nearBeyondLlcL050 | .farBeyondLlcL050 => .beyondLlc

def h3Value (block : CompleteBlockResponse F) (context : H3Context) (candidate : H3Candidate) :
    Outcome F := do
  let values ← cellMap arith block
  valueAt values candidate.package candidate.requestedHardwareState (h3Placement context)
    (h3WorkingSet context) .l050

/-- The mean response of a candidate over the blocks. -/
def h3Mean (blocks : List (CompleteBlockResponse F)) (context : H3Context)
    (candidate : H3Candidate) : Outcome F := do
  let sum ← sumOver arith blocks fun block => h3Value arith block context candidate
  .ok (arith.div sum (arith.ofCount (.ofNat blocks.length)))

/-- One turn of the candidate loop: only a smaller mean replaces the one selected. -/
def considerCandidate (blocks : List (CompleteBlockResponse F)) (context : H3Context)
    (selected : Option (F × H3Candidate)) (candidate : H3Candidate) :
    Outcome (Option (F × H3Candidate)) := do
  let mean ← h3Mean arith blocks context candidate
  .ok <| match selected with
    | none => some (mean, candidate)
    | some (selectedMean, first) =>
        if arith.less mean selectedMean then some (mean, candidate) else some (selectedMean, first)

def selectedCandidate (blocks : List (CompleteBlockResponse F)) (context : H3Context) :
    Outcome H3Candidate := do
  let selected ← h3Candidates.foldlM (considerCandidate arith blocks context) none
  .ok ((selected.map Prod.snd).getD (h3Candidates.headD ⟨.r0, .h0⟩))

/-! ### The record of a selection -/

section Digest

variable (conv : CharConv) (sha256 : Text → Sha256)

def selectionDocument (selections : List (H3Context × H3Candidate))
    (trainingSources : List ArtifactReference) (recordSha256 : Text) : Value :=
  .object <| Object.of
    [(ascii "protocol_version", .string kProtocolVersion),
      (ascii "schema_version", .string kSelectionSchema),
      (ascii "selection_rule_version", .string kH3SelectionRuleId),
      (ascii "selections", .object <| Object.of <| selections.map fun selection =>
        (ascii (contextName selection.1), stringValue (candidateName selection.2))),
      (ascii "training_sources", .array (trainingSources.map artifactValue)),
      (ascii "record_sha256", .string recordSha256)]

/-- The sources in the order of their identifiers. -/
def sortedSources (trainingSources : List ArtifactReference) : List ArtifactReference :=
  trainingSources.insertionSort fun left right => left.artifactId.val ≤ right.artifactId.val

/-- The record of the selections, with its own digest. -/
def selectionRecord (selections : List (H3Context × H3Candidate))
    (trainingSources : List ArtifactReference) : Result H3SelectionRecord := do
  let sorted := sortedSources trainingSources
  let blank ← Json.canonicalize conv (selectionDocument selections sorted zeroSelf)
  let digest := sha256 blank
  let canonical ← Json.canonicalize conv (selectionDocument selections sorted digest.hex)
  .ok ⟨kSelectionSchema, selections, sorted, canonical, digest⟩

def selectH3Training (trainingBlocks : List (CompleteBlockResponse F))
    (trainingSources : List ArtifactReference) : Outcome H3SelectionRecord :=
  if trainingBlocks.length < 12 || trainingSources.isEmpty ||
      !trainingBlocks.all (fun block => block.role = .h3Train) then
    fail .missingEvidence "$/h3/training" "ANALYSIS-H3-TRAINING-BLOCKS"
      "H3 selection requires at least 12 complete training-role blocks"
  else do
    let selections ← h3Contexts.mapM fun context => do
      let candidate ← selectedCandidate arith trainingBlocks context
      .ok (context, candidate)
    Outcome.of (selectionRecord conv sha256 selections trainingSources)

end Digest

/-! ### Its evaluation -/

def comparisonId (comparison : H3Comparison) : String :=
  contextName comparison.context ++ ":" ++ candidateName comparison.left ++ "-MINUS-" ++
    candidateName comparison.right

/-- What is selected, less the alternative, in one block. -/
def h3Difference (block : CompleteBlockResponse F) (comparison : H3Comparison) : Outcome F := do
  let values ← Outcome.both (h3Value arith block comparison.context comparison.left)
    (h3Value arith block comparison.context comparison.right) "$/h3/validation/cells"
    "ANALYSIS-H3-VALIDATION-CELLS" "every selected and alternative validation cell is required"
  .ok (arith.sub values.1 values.2)

def evaluateH3Validation (validationBlocks : List (CompleteBlockResponse F))
    (selection : H3SelectionRecord) (bootstrap : BootstrapConfiguration) (deltaStar : F) :
    Outcome (H3ValidationResult F) :=
  if validationBlocks.length < 8 ||
      !validationBlocks.all (fun block => block.role = .h3Validation) then
    fail .missingEvidence "$/h3/validation" "ANALYSIS-H3-VALIDATION-BLOCKS"
      "H3 validation requires at least eight complete validation-role blocks"
  else do
    let comparisons ← Outcome.of (h3ReportedComparisons selection.selections)
    let differences ← validationBlocks.mapM fun block =>
      comparisons.mapM (h3Difference arith block)
    let result ← maxT arith "H3-SELECTED-54-ONE-SIDED" (comparisons.map comparisonId) differences
      bootstrap deltaStar true
    .ok ⟨.estimable, some result,
      result.intervals.all fun interval => arith.less interval.upper deltaStar, []⟩

end CpuPrefetch.Analysis
