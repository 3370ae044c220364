/-
`tools/calibration_statistics.py`: the Hoeffding bound of a cell and the feasibility of a
complete candidate.

A `Fraction` and a finite `Decimal` are exact rationals, and a decimal operation rounds toward
plus infinity at the precision of its context; the exponent range of a context is not modelled.
`ln` and `sqrt` belong to the two decimal modules, in C and in Python, and are parameters.
-/
import CpuPrefetch.Lib.Decimals

namespace CpuPrefetch.Tools.CalibrationStatistics

open Decimals (ceilTo nextPlus)

/-- A Python string: its code points, with lone surrogates among them. -/
abbrev PyText := List UInt32

instance PyText.lawfulBEq : LawfulBEq PyText := inferInstance

/-- A constant of the file. -/
def literal (value : String) : PyText := value.toList.map Char.val

def MATRIX_METHOD_ID : PyText := literal "MATRIX-FULL-RUNCLUSTER-WHOEFFDING-BONFERRONI-v1"
def ARITHMETIC_PROFILE_ID : PyText := literal "HOEFFDING-DECIMAL80-GUARD160-UP-v1"
def WORK_PRECISION : Nat := 160
def REFERENCE_PRECISION : Nat := 240
def ACCEPTED_CELL_COUNT : Nat := 180
def ACCEPTED_CANDIDATE_COUNT : Nat := 5
def ACCEPTED_ALPHA_DENOMINATOR : Nat := 18000
def ACCEPTED_CONFIDENCE : ℚ := 19 / 20
def ACCEPTED_THRESHOLD : ℚ := 19 / 20
def ACCEPTED_LADDER : List ℚ := [1, 9 / 10, 4 / 5, 7 / 10, 3 / 5]

structure CalibrationError where
  category : String
  path : String
  message : String
  deriving DecidableEq, Repr

abbrev Calculation := Except CalibrationError

/-- `_fail`. -/
abbrev fail {T : Type} (category path message : String) : Calculation T :=
  throw ⟨category, path, message⟩

/-! ### Inputs -/

structure ClusterRun where
  runId : PyText
  offeredCount : Int
  fullCount : Int
  sourceArtifactId : Option PyText
  sourceSha256 : Option PyText
  integrityArtifactId : Option PyText
  integritySha256 : Option PyText
  failureArtifactId : Option PyText
  failureSha256 : Option PyText
  validity : PyText
  evidencePhase : PyText
  deriving DecidableEq

structure CellProbe where
  cellId : PyText
  namespaceId : PyText
  scheduleId : PyText
  scheduleSha256 : PyText
  plannedRunIds : List PyText
  runs : List ClusterRun
  plannedConfirmatoryRuns : Int
  scheduledEventsPerRun : Int
  deriving DecidableEq

structure MatrixConfig where
  estimatorId : PyText
  arithmeticProfileId : PyText
  assumptions : List PyText
  ownerIds : List PyText
  authorityArtifactId : PyText
  authoritySha256 : PyText
  standBudgetArtifactId : PyText
  standBudgetSha256 : PyText
  confidenceNumerator : Int
  confidenceDenominator : Int
  acceptanceThresholdNumerator : Int
  acceptanceThresholdDenominator : Int
  familyCellCount : Int
  familyCandidateCount : Int
  plannedBlocks : Int
  plannedRuns : Int
  globalScaleNumerator : Int
  globalScaleDenominator : Int
  candidateIndex : Int
  deriving DecidableEq

structure CellBound where
  cellId : PyText
  namespaceId : PyText
  scheduleId : PyText
  scheduleSha256 : PyText
  runDecisions : List ClusterRun
  offeredCount : Int
  fullCount : Int
  pHat : ℚ
  sumSquaredWeights : ℚ
  pUpper : ℚ

structure MatrixResult where
  cellBounds : List CellBound
  namespaceId : PyText
  candidateIndex : Int
  globalScale : ℚ
  plannedBlocks : Int
  plannedRuns : Int
  plannedOfferedEvents : Int
  matrixProbabilityLower : ℚ
  passes : Bool

def requireExactNonnegative (value : Int) (path : String) : Calculation Unit :=
  if value < 0 then fail "INVALID_INTEGER" path "value must be an exact nonnegative integer"
  else pure ()

def requireSha256 (value : PyText) (path : String) : Calculation Unit :=
  if value.length ≠ 64 ∨ ∃ character ∈ value, character ∉ literal "0123456789abcdef" then
    fail "INVALID_HASH" path "SHA-256 must be 64 lowercase hexadecimal digits"
  else pure ()

def requireId (value : PyText) (path : String) : Calculation Unit :=
  if value = [] ∨ 47 ∈ value then
    fail "INVALID_ID" path "ID must be nonempty and cannot contain a path separator"
  else pure ()

/-! ### The bound of a cell -/

/-- A decimal module, in C or in Python: a precision and an argument to a decimal. -/
structure DecimalModule where
  ln : Nat → ℚ → ℚ
  sqrt : Nat → ℚ → ℚ

/-- The interpreter that runs the file. -/
structure Runtime where
  version : Nat × Nat
  decimal : DecimalModule
  pydecimal : DecimalModule

def fractionToDecimalUp (value : ℚ) (precision : Nat) : ℚ := ceilTo precision value

def marginUp (decimal : DecimalModule) (sumSquaredWeights : ℚ) (precision : Nat) : ℚ :=
  let logarithm := nextPlus precision (decimal.ln precision ACCEPTED_ALPHA_DENOMINATOR)
  let squaredWeights := fractionToDecimalUp sumSquaredWeights precision
  let radicand := ceilTo precision (ceilTo precision (logarithm * squaredWeights) / 2)
  nextPlus precision (decimal.sqrt precision radicand)

/-- The loop over the counts, from one index and the totals so far. -/
def totals (index : Nat) (totalOffered totalFull : Int) :
    List (Int × Int) → Calculation (Int × Int)
  | [] => pure (totalOffered, totalFull)
  | (offered, full) :: rest => do
      requireExactNonnegative offered s!"$/runs/{index}/offered_count"
      requireExactNonnegative full s!"$/runs/{index}/full_count"
      if offered = 0 then
        fail "ZERO_OFFERED_RUN" s!"$/runs/{index}/offered_count"
          "zero-offered clusters are estimator-ineligible"
      if full > offered then
        fail "COUNT_MISMATCH" s!"$/runs/{index}/full_count" "FULL count exceeds offered count"
      totals (index + 1) (totalOffered + offered) (totalFull + full) rest

/-- `_p_upper`, in either decimal module. -/
def pUpperAt (decimal : DecimalModule) (runCounts : List (Int × Int)) (precision : Nat) :
    Calculation (ℚ × ℚ × ℚ) := do
  if runCounts = [] then
    fail "MISSING_EVIDENCE" "$/runs" "a cell needs at least one run cluster"
  let (totalOffered, totalFull) ← totals 0 0 0 runCounts
  let pHat : ℚ := totalFull / totalOffered
  let sumSquaredWeights : ℚ :=
    (runCounts.map fun (offered, _) => ((offered : ℚ) / totalOffered) ^ 2).sum
  let upper := ceilTo precision
    (fractionToDecimalUp pHat precision + marginUp decimal sumSquaredWeights precision)
  let upper := if upper > 1 then 1 else upper
  pure (pHat, sumSquaredWeights, ceilTo precision upper)

variable (runtime : Runtime)

def requireRuntime : Calculation Unit :=
  if runtime.version ≠ (3, 14) then
    fail "UNSUPPORTED_RUNTIME" "$/python_runtime" "arithmetic profile v1 requires Python 3.14.x"
  else pure ()

def pUpper (runCounts : List (Int × Int)) : Calculation (ℚ × ℚ × ℚ) := do
  requireRuntime runtime
  pUpperAt runtime.decimal runCounts WORK_PRECISION

def pUpperReference (runCounts : List (Int × Int)) : Calculation ℚ := do
  requireRuntime runtime
  let (_, _, upper) ← pUpperAt runtime.pydecimal runCounts REFERENCE_PRECISION
  pure upper

/-! ### The configuration -/

/-- The loop over the integers of a configuration. -/
def requireIntegers (index : Nat) : List Int → Calculation Unit
  | [] => pure ()
  | value :: rest => do
      requireExactNonnegative value s!"$/config/{index}"
      requireIntegers (index + 1) rest

/-- A loop that requires an ID of every element. -/
def requireIds (path : String) (index : Nat) : List PyText → Calculation Unit
  | [] => pure ()
  | value :: rest => do
      requireId value (path ++ s!"/{index}")
      requireIds path (index + 1) rest

def validateMatrixConfig (config : MatrixConfig) : Calculation Unit := do
  requireIntegers 0 [config.confidenceNumerator, config.confidenceDenominator,
    config.acceptanceThresholdNumerator, config.acceptanceThresholdDenominator,
    config.familyCellCount, config.familyCandidateCount, config.plannedBlocks, config.plannedRuns,
    config.globalScaleNumerator, config.globalScaleDenominator, config.candidateIndex]
  if config.confidenceDenominator = 0 ∨ config.acceptanceThresholdDenominator = 0 ∨
      config.globalScaleDenominator = 0 then
    fail "INVALID_DENOMINATOR" "$/config" "rational denominators must be positive"
  if config.estimatorId ≠ MATRIX_METHOD_ID then
    fail "UNSUPPORTED_ESTIMATOR" "$/config/estimator_id" "accepted matrix estimator is required"
  if config.arithmeticProfileId ≠ ARITHMETIC_PROFILE_ID then
    fail "UNSUPPORTED_ARITHMETIC" "$/config/arithmetic_profile_id"
      "accepted outward arithmetic profile is required"
  if config.assumptions = [] ∨ [] ∈ config.assumptions then
    fail "MISSING_ASSUMPTION" "$/config/assumptions"
      "the common-marginal and run-independence assumptions must be explicit"
  if config.ownerIds = [] ∨ ¬config.ownerIds.Nodup then
    fail "MISSING_OWNER" "$/config/owner_ids" "calibration and statistical owners must be explicit"
  requireIds "$/config/owner_ids" 0 config.ownerIds
  requireId config.authorityArtifactId "$/config/authority_artifact_id"
  requireId config.standBudgetArtifactId "$/config/stand_budget_artifact_id"
  requireSha256 config.authoritySha256 "$/config/authority_sha256"
  requireSha256 config.standBudgetSha256 "$/config/stand_budget_sha256"
  if (config.confidenceNumerator : ℚ) / config.confidenceDenominator ≠ ACCEPTED_CONFIDENCE then
    fail "CONFIDENCE_MISMATCH" "$/config/confidence" "confidence must be the accepted 19/20"
  if (config.acceptanceThresholdNumerator : ℚ) / config.acceptanceThresholdDenominator ≠
      ACCEPTED_THRESHOLD then
    fail "THRESHOLD_MISMATCH" "$/config/acceptance_threshold" "threshold must be the accepted 19/20"
  if config.familyCellCount ≠ ACCEPTED_CELL_COUNT ∨
      config.familyCandidateCount ≠ ACCEPTED_CANDIDATE_COUNT then
    fail "FAMILY_MISMATCH" "$/config/family"
      "Bonferroni family must cover 180 cells and five candidates"
  if config.plannedBlocks = 0 ∨ config.plannedRuns ≠ 180 * config.plannedBlocks then
    fail "PLANNED_EXPOSURE_MISMATCH" "$/config/planned_runs"
      "planned runs must equal 180 times the positive complete-block count"
  if ACCEPTED_LADDER[config.candidateIndex.toNat]? ≠
      some ((config.globalScaleNumerator : ℚ) / config.globalScaleDenominator) then
    fail "LADDER_MISMATCH" "$/config/global_scale"
      "scale and candidate index must name the accepted ladder"

/-! ### The matrix -/

/-- Whether a value is absent or empty, as `not value` has it. -/
def missing (value : Option PyText) : Bool := value = none || value = some []

/-- What the loop over the runs does with a run that is marked invalid: it never goes on. -/
def rejectInvalidRun (path : String) (run : ClusterRun) : Calculation Unit := do
  if run.sourceArtifactId.isNone ≠ run.sourceSha256.isNone then
    fail "PARTIAL_ARTIFACT_REFERENCE" path
      "an existing partial raw source needs both ID and SHA-256"
  if run.sourceSha256 ≠ none then
    requireId (run.sourceArtifactId.getD []) (path ++ "/source_artifact_id")
    requireSha256 (run.sourceSha256.getD []) (path ++ "/source_sha256")
  if missing run.failureArtifactId ∨ run.failureSha256 = none then
    fail "MISSING_FAILURE" path "invalid probe evidence requires a failure artifact"
  requireSha256 (run.failureSha256.getD []) (path ++ "/failure_sha256")
  requireId (run.failureArtifactId.getD []) (path ++ "/failure_artifact_id")
  fail "INCOMPLETE_ESTIMATOR" (path ++ "/validity")
    "invalid planned evidence is retained but cannot enter a smaller estimator set"

/-- The body of the loop over the runs of a cell. -/
def checkRun (index runIndex : Nat) (run : ClusterRun) : Calculation Unit := do
  let path := s!"$/cells/{index}/runs/{runIndex}"
  if run.evidencePhase ≠ literal "CALIBRATION" then
    fail "FORBIDDEN_OUTCOME_ACCESS" (path ++ "/evidence_phase")
      "confirmatory, pilot, and treatment outcomes cannot enter calibration"
  requireId run.runId (path ++ "/run_id")
  if run.validity = literal "VALID" then
    if missing run.sourceArtifactId ∨ run.sourceSha256 = none ∨ missing run.integrityArtifactId ∨
        run.integritySha256 = none then
      fail "MISSING_EVIDENCE" path "valid probe evidence requires raw and integrity evidence"
    requireSha256 (run.sourceSha256.getD []) (path ++ "/source_sha256")
    requireId (run.sourceArtifactId.getD []) (path ++ "/source_artifact_id")
    requireSha256 (run.integritySha256.getD []) (path ++ "/integrity_sha256")
    requireId (run.integrityArtifactId.getD []) (path ++ "/integrity_artifact_id")
    if run.failureArtifactId ≠ none ∨ run.failureSha256 ≠ none then
      fail "INVALID_FAILURE_REFERENCE" path "valid probe evidence cannot carry a failure artifact"
  else if run.validity = literal "INVALID" then rejectInvalidRun path run
  else
    fail "UNKNOWN_VALIDITY" (path ++ "/validity") "run validity must be VALID or INVALID"

/-- The loop over the runs of a cell. -/
def checkRuns (index runIndex : Nat) : List ClusterRun → Calculation Unit
  | [] => pure ()
  | run :: rest => do
      checkRun index runIndex run
      checkRuns index (runIndex + 1) rest

/-- What is checked of a cell before its bound is computed. -/
def checkProbe (config : MatrixConfig) (index : Nat) (probe : CellProbe) : Calculation Unit := do
  let path := s!"$/cells/{index}"
  requireId probe.cellId (path ++ "/cell_id")
  requireId probe.namespaceId (path ++ "/namespace_id")
  requireId probe.scheduleId (path ++ "/schedule_id")
  requireSha256 probe.scheduleSha256 (path ++ "/schedule_sha256")
  requireExactNonnegative probe.plannedConfirmatoryRuns (path ++ "/planned_confirmatory_runs")
  requireExactNonnegative probe.scheduledEventsPerRun (path ++ "/scheduled_events_per_run")
  if probe.plannedConfirmatoryRuns = 0 ∨ probe.scheduledEventsPerRun = 0 then
    fail "MISSING_EXPOSURE" path "Rtotal and scheduled exposure must be positive and frozen"
  if probe.plannedConfirmatoryRuns ≠ config.plannedBlocks then
    fail "PLANNED_EXPOSURE_MISMATCH" (path ++ "/planned_confirmatory_runs")
      "every cell must use the frozen complete-block count"
  if probe.plannedRunIds = [] ∨ ¬probe.plannedRunIds.Nodup then
    fail "INVALID_PROSPECTIVE_PLAN" (path ++ "/planned_run_ids")
      "probe run IDs must be nonempty and unique"
  requireIds (path ++ "/planned_run_ids") 0 probe.plannedRunIds
  let actualRunIds := probe.runs.map (·.runId)
  if ¬actualRunIds.Nodup then
    fail "DUPLICATE_RUN" (path ++ "/runs") "probe run evidence must be unique"
  if ¬(∀ runId ∈ actualRunIds, runId ∈ probe.plannedRunIds) ∨
      ¬∀ runId ∈ probe.plannedRunIds, runId ∈ actualRunIds then
    fail "INCOMPLETE_PROBE_PLAN" (path ++ "/runs")
      "missing or unplanned probe evidence cannot be topped up or omitted"
  checkRuns index 0 probe.runs

/-- What the loop over the cells carries. -/
structure MatrixTotals where
  bounds : List CellBound
  unionExposure : ℚ
  plannedOfferedEvents : Int

/-- The body of the loop over the cells. -/
def addProbe (config : MatrixConfig) (index : Nat) (probe : CellProbe) (t : MatrixTotals) :
    Calculation MatrixTotals := do
  checkProbe config index probe
  let (pHat, weightSum, upper) ← pUpper runtime
    (probe.runs.map fun run => (run.offeredCount, run.fullCount))
  let offered := (probe.runs.map (·.offeredCount)).sum
  let full := (probe.runs.map (·.fullCount)).sum
  let exposure := probe.plannedConfirmatoryRuns * probe.scheduledEventsPerRun
  pure
    { bounds :=
      t.bounds ++ [⟨probe.cellId, probe.namespaceId, probe.scheduleId, probe.scheduleSha256,
        probe.runs, offered, full, pHat, weightSum, upper⟩]
      unionExposure :=
        ceilTo WORK_PRECISION (t.unionExposure + ceilTo WORK_PRECISION (exposure * upper))
      plannedOfferedEvents := t.plannedOfferedEvents + exposure }

/-- The loop over the cells. -/
def addProbes (runtime : Runtime) (config : MatrixConfig) (index : Nat) (t : MatrixTotals) :
    List CellProbe → Calculation MatrixTotals
  | [] => pure t
  | probe :: rest => do
      let t ← addProbe runtime config index probe t
      addProbes runtime config (index + 1) t rest

def evaluateMatrix (config : MatrixConfig) (cells : List CellProbe) : Calculation MatrixResult := do
  validateMatrixConfig config
  if cells.length ≠ ACCEPTED_CELL_COUNT then
    fail "INCOMPLETE_MATRIX" "$/cells" "one candidate requires exactly 180 cells"
  if (cells.map (·.cellId)).dedup.length ≠ ACCEPTED_CELL_COUNT then
    fail "DUPLICATE_CELL" "$/cells" "matrix cell IDs must be unique"
  let namespaces := (cells.map (·.namespaceId)).dedup
  if namespaces.length ≠ 1 then
    fail "NAMESPACE_MISMATCH" "$/cells" "a global candidate uses one predeclared common namespace"
  let t ← addProbes runtime config 0 ⟨[], 0, 0⟩ cells
  let lower := ceilTo WORK_PRECISION (1 - t.unionExposure)
  let lower := if lower < 0 then 0 else lower
  let threshold := fractionToDecimalUp ACCEPTED_THRESHOLD WORK_PRECISION
  pure
    { cellBounds := t.bounds
      namespaceId := namespaces.headD []
      candidateIndex := config.candidateIndex
      globalScale := (config.globalScaleNumerator : ℚ) / config.globalScaleDenominator
      plannedBlocks := config.plannedBlocks
      plannedRuns := config.plannedRuns
      plannedOfferedEvents := t.plannedOfferedEvents
      matrixProbabilityLower := ceilTo WORK_PRECISION lower
      passes := lower ≥ threshold }

end CpuPrefetch.Tools.CalibrationStatistics
