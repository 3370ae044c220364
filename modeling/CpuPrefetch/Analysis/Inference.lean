/-
The simultaneous limits of a family of contrasts, by a bootstrap of complete blocks, and the
counts of blocks a study was sized for.

A resample draws as many blocks as there are, all of a block's contrasts together, and every
draw of one family comes from one stream.
-/
import CpuPrefetch.Analysis.Contrasts
import CpuPrefetch.Workload.Permutation

namespace CpuPrefetch.Analysis

open Protocol Orchestration
open Workload (PhiloxKey acceptedDraw rejectionThreshold ordinalsLeft kDeterministicSuite)

variable {F : Type} (arith : Binary64 F)

/-! ### Vectors of contrasts -/

def zeros (width : Nat) : List F := List.replicate width arith.zero

/-- `sum[column] += values[column]`. -/
def addColumns (sum values : List F) : List F := List.zipWith arith.add sum values

def meanVector (values : List (List F)) : List F :=
  (values.foldl (addColumns arith) (zeros arith (values.headD []).length)).map fun value =>
    arith.div value (arith.ofCount (.ofNat values.length))

/-! ### The bootstrap -/

/-- A draw below the bound, and the ordinal of the draw after it. -/
def boundedDraw (key : PhiloxKey) (bound drawOrdinal : UInt64) : Outcome (UInt64 × UInt64) :=
  if bound = 0 then
    fail .outOfRange "$/bootstrap/bound" "ANALYSIS-BOOTSTRAP-BOUND"
      "bootstrap block count must be positive"
  else
    match acceptedDraw (Workload.draw key) (rejectionThreshold bound) (ordinalsLeft drawOrdinal)
        drawOrdinal with
    | none =>
        fail .outOfRange "$/bootstrap/draw_ordinal" "ANALYSIS-BOOTSTRAP-DRAW-OVERFLOW"
          "bootstrap draw ordinal exhausted"
    | some (draw, next) => .ok (draw % bound, next)

/-- The draws left in a resample: what they add up to, and the ordinal after them. -/
def resample (key : PhiloxKey) (vectors : List (List F)) :
    Nat → List F → UInt64 → Outcome (List F × UInt64)
  | 0, estimate, drawOrdinal => .ok (estimate, drawOrdinal)
  | left + 1, estimate, drawOrdinal => do
      let (selected, next) ← boundedDraw key (.ofNat vectors.length) drawOrdinal
      resample key vectors left (addColumns arith estimate (vectors.getD selected.toNat [])) next

/-- The estimates of the replicates left, from the ordinal of the first draw. -/
def replicateEstimates (key : PhiloxKey) (vectors : List (List F)) (width : Nat) :
    Nat → UInt64 → Outcome (List (List F))
  | 0, _ => .ok []
  | left + 1, drawOrdinal => do
      let (sum, next) ← resample arith key vectors vectors.length (zeros arith width) drawOrdinal
      let rest ← replicateEstimates key vectors width left next
      .ok (sum.map (fun value => arith.div value (arith.ofCount (.ofNat vectors.length))) :: rest)

def bootstrapVectors (completeBlockVectors : List (List F)) (bootstrap : BootstrapConfiguration) :
    Outcome (List (List F)) :=
  if completeBlockVectors.length < 2 || bootstrap.replicates < 2 ||
      bootstrap.profile ≠ kBootstrapProfile ||
      bootstrap.rngAlgorithmVersion ≠ kDeterministicSuite then
    fail .missingEvidence "$/bootstrap" "ANALYSIS-BOOTSTRAP-CONTRACT"
      ("complete-block bootstrap requires at least two blocks/replicates and the accepted " ++
        "explicit Philox profile, algorithm, and seed identity")
  else
    let width := (completeBlockVectors.headD []).length
    if width = 0 || !completeBlockVectors.all fun vector => vector.length = width then
      fail .crossField "$/bootstrap/contrasts" "ANALYSIS-BOOTSTRAP-WIDTH"
        "every complete block must provide the same nonempty contrast vector"
    else replicateEstimates arith bootstrap.key completeBlockVectors width
      bootstrap.replicates.toNat 0

def standardErrors (bootstrapEstimates : List (List F)) : List F :=
  let means := meanVector arith bootstrapEstimates
  let sums := bootstrapEstimates.foldl (fun result estimate =>
    addColumns arith result ((List.zipWith arith.sub estimate means).map fun difference =>
      arith.mul difference difference)) (zeros arith means.length)
  sums.map fun value =>
    arith.sqrt (arith.div value (arith.ofCount (.ofNat bootstrapEstimates.length - 1)))

/-! ### Limits -/

/-- The smallest value with at least 95 percent of the values up to it. -/
def empiricalP95 (values : List F) : Outcome F :=
  if values.isEmpty || !values.all arith.isFinite then
    fail .crossField "$/bootstrap/statistics" "ANALYSIS-MAXT-FINITE"
      "bootstrap statistics must be nonempty and finite"
  else
    let sorted := values.insertionSort fun left right => !arith.less right left
    .ok (sorted.getD ((95 * values.length + 99) / 100 - 1) arith.zero)

def classify (lower upper delta : F) : PracticalConclusion :=
  if arith.less upper (arith.neg delta) then .practicallyLower
  else if arith.less delta lower then .practicallyHigher
  else if arith.less (arith.neg delta) lower && arith.less upper delta then .practicallyEquivalent
  else .inconclusive

/-- `delta_star` is a bound: finite, and above zero. -/
def positiveBound (delta : F) : Bool := arith.isFinite delta && arith.less arith.zero delta

def standardized (deviation standardError : F) : Outcome F :=
  if arith.equal standardError arith.zero then
    if arith.equal deviation arith.zero then .ok arith.zero
    else
      fail .crossField "$/analysis/max_t" "ANALYSIS-MAXT-ZERO-SE"
        "a nonzero bootstrap deviation cannot have zero standard error"
  else .ok (arith.div deviation standardError)

/-- `std::max`. -/
def maximum (left right : F) : F := if arith.less left right then right else left

/-- The largest standardized deviation of an estimate. -/
def statisticOf (oneSided : Bool) (original errors estimate : List F) : Outcome F :=
  (List.zip (List.zipWith arith.sub estimate original) errors).foldlM (fun largest column => do
    let value ← standardized arith column.1 column.2
    .ok (maximum arith largest (if oneSided then value else arith.abs value))) arith.zero

def intervalOf (oneSided : Bool) (deltaStar critical : F) (stableId : String)
    (original error : F) : SimultaneousInterval F :=
  let halfWidth := arith.mul critical error
  let lower := if oneSided then arith.neg arith.infinity else arith.sub original halfWidth
  let upper := arith.add original halfWidth
  ⟨stableId, original, error, lower, upper,
    if oneSided then .inconclusive else classify arith lower upper deltaStar⟩

def maxT (familyId : String) (stableIds : List String) (completeBlockContrasts : List (List F))
    (bootstrap : BootstrapConfiguration) (deltaStar : F) (oneSided : Bool) :
    Outcome (MaxTResult F) :=
  if !positiveBound arith deltaStar || stableIds.isEmpty || completeBlockContrasts.isEmpty ||
      (completeBlockContrasts.headD []).length ≠ stableIds.length then
    fail .crossField "$/analysis/max_t" "ANALYSIS-MAXT-INPUT"
      "max-T requires a positive bound and the exact family"
  else do
    let estimates ← bootstrapVectors arith completeBlockContrasts bootstrap
    let original := meanVector arith completeBlockContrasts
    let errors := standardErrors arith estimates
    let statistics ← estimates.mapM (statisticOf arith oneSided original errors)
    let critical ← empiricalP95 arith statistics
    .ok ⟨familyId, oneSided, bootstrap.replicates, critical,
      (stableIds.zip (original.zip errors)).map fun column =>
        intervalOf arith oneSided deltaStar critical column.1 column.2.1 column.2.2⟩

def twoSidedMaxT (familyId : String) (stableIds : List String)
    (completeBlockContrasts : List (List F)) (bootstrap : BootstrapConfiguration) (deltaStar : F) :
    Outcome (MaxTResult F) :=
  maxT arith familyId stableIds completeBlockContrasts bootstrap deltaStar false

/-! ### Prospective counts -/

def familyExpectedWidth : FamilyKind → Nat
  | .h1TwoSided => kH1ContrastCount
  | .h2TwoSided => kH2ContrastCount
  | .h3TrainingStandardError => kH3TrainingPairCount
  | .h3ValidationOneSided => kH3ValidationFamilyCount

def familyMinimum : FamilyKind → UInt64
  | .h1TwoSided => 20
  | .h2TwoSided => 20
  | .h3TrainingStandardError => 12
  | .h3ValidationOneSided => 8

/-- A point of the curve is well formed: it goes on from the last, with the exact family. -/
def candidateSound (expected : FamilyKind) (previous : UInt64)
    (candidate : ProspectiveCandidate F) :
    Bool :=
  previous < candidate.completeBlockCount &&
    familyMinimum expected ≤ candidate.completeBlockCount &&
    candidate.widths.length = familyExpectedWidth expected &&
    candidate.widths.all fun value => arith.isFinite value && arith.lessEq arith.zero value

/-- `*std::max_element`. -/
def largestWidth (widths : List F) : F :=
  widths.tail.foldl (maximum arith) (widths.headD arith.zero)

/-- The candidate loop: every point is checked, and the first narrow enough is selected. -/
def selectCount (expected : FamilyKind) (deltaStar : F) :
    UInt64 → Option UInt64 → List (ProspectiveCandidate F) → Result (Option UInt64)
  | _, selected, [] => .ok selected
  | previous, selected, candidate :: rest =>
      if !candidateSound arith expected previous candidate then
        Load.fail .crossField "$/precision/candidates" "ANALYSIS-PRECISION-CURVE"
          "candidate counts must increase and contain the exact finite family"
      else
        let narrow := arith.lessEq (largestWidth arith candidate.widths)
          (arith.div deltaStar (arith.ofCount 2))
        selectCount expected deltaStar candidate.completeBlockCount
          (selected.or (if narrow then some candidate.completeBlockCount else none)) rest

def selectProspectiveCount (input : ProspectiveFamilyInput F) (expected : FamilyKind)
    (deltaStar : F) : Result UInt64 :=
  if input.family ≠ expected || input.candidates.isEmpty then
    Load.fail .missingEvidence "$/precision" "ANALYSIS-PRECISION-EVIDENCE"
      "each registered precision family requires prospective immutable evidence"
  else do
    match ← selectCount arith expected deltaStar 0 none input.candidates with
    | none =>
        Load.fail .missingEvidence "$/precision/candidates" "ANALYSIS-PRECISION-UNRESOLVED"
          "no prospectively evaluated count satisfies delta_star/2"
    | some selected =>
        if (expected = .h1TwoSided || expected = .h2TwoSided) && selected > 30 then
          Load.fail .outOfRange "$/precision/candidates" "ANALYSIS-H1H2-CEILING"
            "H1/H2 prospective count exceeds the go/no-go ceiling"
        else .ok selected

def errorsOf {T : Type} : Result T → List ValidationError
  | .ok _ => []
  | .error errors => errors

def evaluateProspectivePrecision (input : ProspectivePrecisionInput F) (deltaStar : F) :
    Result ProspectiveCounts :=
  if !positiveBound arith deltaStar then
    Load.fail .outOfRange "$/precision/delta_star" "ANALYSIS-DELTA-STAR"
      "delta_star must be explicit, finite, and positive"
  else
    let h1 := selectProspectiveCount arith input.h1 .h1TwoSided deltaStar
    let h2 := selectProspectiveCount arith input.h2 .h2TwoSided deltaStar
    let train := selectProspectiveCount arith input.h3Training .h3TrainingStandardError deltaStar
    let validation := selectProspectiveCount arith input.h3Validation .h3ValidationOneSided
      deltaStar
    match h1, h2, train, validation with
    | .ok h1, .ok h2, .ok train, .ok validation =>
        let r12 := max h1 h2
        match checkedAdd train validation with
        | none =>
            Load.fail .outOfRange "$/precision" "ANALYSIS-PRECISION-OVERFLOW"
              "Rtrain+Rval overflows u64"
        | some blocks =>
            let rtotal := max r12 blocks
            if rtotal > 0xFFFFFFFFFFFFFFFF / .ofNat kStageACellsPerBlock then
              Load.fail .outOfRange "$/precision" "ANALYSIS-PRECISION-OVERFLOW"
                "180*Rtotal overflows u64"
            else
              .ok ⟨h1, h2, r12, train, validation, rtotal, rtotal * .ofNat kStageACellsPerBlock⟩
    | h1, h2, train, validation =>
        .error (errorsOf h1 ++ errorsOf h2 ++ errorsOf train ++ errorsOf validation)

def sameCounts (left right : ProspectiveCounts) : Bool :=
  left.rH1 = right.rH1 && left.rH2 = right.rH2 && left.r12 = right.r12 &&
    left.rtrain = right.rtrain && left.rval = right.rval && left.rtotal = right.rtotal &&
    left.nruns = right.nruns

end CpuPrefetch.Analysis
