/-
The evaluation of a prospective precision plan: its evidence, its counts, and the blocks each
role is to have.
-/
import CpuPrefetch.Orchestration.BlockPlanning

namespace CpuPrefetch.Orchestration

open Protocol
open Protocol.Load (ArtifactReference)

structure PrecisionPlanInput where
  counts : Option ProspectiveCounts
  evidence : Option ProspectivePrecisionEvidence
  deriving DecidableEq

/-- Every pair of candidates, the earlier one on the left. -/
def earlierPairs : List H3Candidate → List (H3Candidate × H3Candidate)
  | [] => []
  | left :: rest => rest.map (fun right => (left, right)) ++ earlierPairs rest

def h3TrainingPairs : List H3Comparison :=
  h3Contexts.flatMap fun context =>
    (earlierPairs h3Candidates).map fun pair => ⟨context, pair.1, pair.2⟩

def h3ValidationFamily : List H3Comparison :=
  h3Contexts.flatMap fun context =>
    h3Candidates.zipIdx.flatMap fun left =>
      (h3Candidates.zipIdx.filter fun right => left.2 ≠ right.2).map fun right =>
        ⟨context, left.1, right.1⟩

def evidenceValid (evidence : ArtifactReference) : Bool := isOpaque evidence.artifactId.val

/-- The references that a plan's evidence must tell apart. -/
def ProspectivePrecisionEvidence.references (evidence : ProspectivePrecisionEvidence) :
    List ArtifactReference :=
  [evidence.deltaStar, evidence.bootstrapConfiguration, evidence.h1Sizing, evidence.h2Sizing,
    evidence.h3TrainingSizing, evidence.h3ValidationSizing]

/-- Each reference is valid and not the identity of one before it. -/
def distinctReferences : List Text → List ArtifactReference → Bool
  | _, [] => true
  | referenceIds, value :: rest =>
      evidenceValid value && value.artifactId.val ∉ referenceIds &&
        distinctReferences (value.artifactId.val :: referenceIds) rest

def sourceBlind (source : AccessInputArtifact) : Bool :=
  evidenceValid source.artifact && (source.accessClass = .treatmentBlind ||
    source.accessClass = .publicProtocol || source.accessClass = .platformEvidence)

/-- The loop over the input artifacts, from this index on. -/
def checkSources : Nat → List AccessInputArtifact → Result Unit
  | _, [] => .ok ()
  | index, source :: rest =>
      if !sourceBlind source then
        Load.fail .crossField ("$/precision/input_artifacts/" ++ toString index)
          "PRECISION-NO-OUTCOME-ACCESS"
          "training, validation, or unsealed outcomes cannot size any precision family"
      else checkSources (index + 1) rest

/-- The blocks of each role; `trainAndValidation` is the sum of the first two. -/
def rolesOf (counts : ProspectiveCounts) (trainAndValidation : UInt64) : RoleCounts :=
  ⟨counts.rtrain, counts.rval,
    if counts.r12 > trainAndValidation then counts.r12 - trainAndValidation else 0⟩

/-- What the counts come to, once the evidence is in order. -/
def evaluateCounts (counts : ProspectiveCounts) (evidence : ProspectivePrecisionEvidence) :
    Result PrecisionResult :=
  if counts.rH1 < 20 || counts.rH2 < 20 || counts.rtrain < 12 || counts.rval < 8 then
    Load.fail .outOfRange "$/precision/counts" "PRECISION-MINIMA"
      "H1/H2 require at least 20 blocks, H3 training 12, and validation 8"
  else if counts.r12 ≠ max counts.rH1 counts.rH2 then
    Load.fail .crossField "$/precision/counts/r12" "PRECISION-R12"
      "R12 must equal max(R_H1,R_H2) with separate families"
  else
    match checkedAdd counts.rtrain counts.rval with
    | none =>
        Load.fail .outOfRange "$/precision/counts" "PRECISION-COUNT-OVERFLOW"
          "Rtrain+Rval overflows u64"
    | some trainAndValidation =>
        if counts.rtotal ≠ max counts.r12 trainAndValidation then
          Load.fail .crossField "$/precision/counts/rtotal" "PRECISION-RTOTAL"
            "Rtotal must equal max(R12,Rtrain+Rval) without outcome-based resizing"
        else if counts.rtotal > 0xffffffffffffffff / .ofNat kStageACellsPerBlock ||
            counts.nruns ≠ counts.rtotal * .ofNat kStageACellsPerBlock then
          Load.fail .crossField "$/precision/counts/nruns" "PRECISION-NRUNS"
            "Nruns must equal checked 180*Rtotal"
        else
          let roles := rolesOf counts trainAndValidation
          if counts.rH1 > 30 || counts.rH2 > 30 then
            .ok ⟨.infeasible, some counts, some roles, some evidence,
              ["an H1 or H2 requirement exceeds the frozen go/no-go ceiling of 30"]⟩
          else if h1ContrastIds.length ≠ kH1ContrastCount ||
              h2ContrastIds.length ≠ kH2ContrastCount ||
              h3TrainingPairs.length ≠ kH3TrainingPairCount ||
              h3ValidationFamily.length ≠ kH3ValidationFamilyCount then
            Load.fail .crossField "$/precision/registries" "PRECISION-REGISTRY-INTERNAL"
              "registered family cardinality is inconsistent"
          else .ok ⟨.resolved, some counts, some roles, some evidence, []⟩

def evaluatePrecisionPlan (input : PrecisionPlanInput) : Result PrecisionResult :=
  match input.counts, input.evidence with
  | some counts, some evidence =>
      if !distinctReferences [] evidence.references then
        Load.fail .missingEvidence "$/precision/evidence" "PRECISION-EVIDENCE-EXACT"
          ("delta, bootstrap, separate H1/H2, and separate H3 " ++
            "sizing evidence must be distinct and immutable")
      else if evidence.inputArtifacts = [] then
        Load.fail .missingEvidence "$/precision/input_artifacts" "PRECISION-PROSPECTIVE-SOURCES"
          "prospective sizing must name treatment-blind input evidence"
      else do
        checkSources 0 evidence.inputArtifacts
        evaluateCounts counts evidence
  | _, _ =>
      .ok ⟨.notEvaluated, none, none, none,
        ["prospective precision counts and immutable evidence are required"]⟩

end CpuPrefetch.Orchestration
