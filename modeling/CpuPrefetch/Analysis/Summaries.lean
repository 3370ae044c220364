/-
The summary of one run.

A run is checked against its immutable artifacts first, each error with its own rule; the
quantiles are read off the run-length encoded latencies only when there is none.
-/
import CpuPrefetch.Analysis.Inputs

namespace CpuPrefetch.Analysis

open Protocol Orchestration
open Protocol.Json (CharConv Object Value)
open Protocol.Load (ArtifactReference)

/-! ### Names and values -/

def protocolName : ProtocolVersion → Text
  | .v200pre1 => kPreviousProtocolVersion
  | .v200pre2 => kProtocolVersion

def packageName : QueuePackage → String
  | .r0 => "R0"
  | .r1 => "R1"
  | .r2 => "R2"
  | .l0 => "L0"
  | .l1 => "L1"
  | .nblfqMpsc => "NBLFQ_MPSC"
  | .notApplicable => "NOT_APPLICABLE"

def hardwareName : RequestedHardwareState → String
  | .h0 => "H0"
  | .h1 => "H1"
  | .notApplicable => "NOT_APPLICABLE"

def roleName : BlockRole → String
  | .h3Train => "H3_TRAIN"
  | .h3Validation => "H3_VALIDATION"
  | .h1h2Supplemental => "H1H2_SUPPLEMENTAL"
  | .notApplicable => "NOT_APPLICABLE"

def validityName : RunValidity → String
  | .valid => "VALID"
  | .invalid => "INVALID"
  | .notEvaluated => "NOT_EVALUATED"

def artifactValue (reference : ArtifactReference) : Value :=
  .object <| Object.of
    [(ascii "artifact_id", .string reference.artifactId.val),
      (ascii "sha256", .string reference.sha256.hex)]

variable (values : List WeightedLatency)

def weightedValues : Value :=
  .array <| values.map fun value =>
    .object <| Object.of
      [(ascii "latency_ticks", uintValue value.latencyTicks),
        (ascii "multiplicity", uintValue value.multiplicity)]

/-! ### Artifacts -/

/-- The first artifact with the identifier. -/
def findArtifact (artifacts : List ImmutableArtifact) (id : Text) : Option ImmutableArtifact :=
  artifacts.find? fun artifact => artifact.reference.artifactId.val = id

def verifyArtifact (sha256 : Text → Sha256) (artifact : ImmutableArtifact) : Bool :=
  artifact.finalized && sha256 artifact.bytes = artifact.reference.sha256

/-- The reference leads to an artifact that is as it says, and finalized. -/
def resolves (sha256 : Text → Sha256) (artifacts : List ImmutableArtifact)
    (reference : ArtifactReference) : Bool :=
  (findArtifact artifacts reference.artifactId.val).any fun artifact =>
    artifact.reference = reference && verifyArtifact sha256 artifact

/-- The bytes of that artifact are the ones expected. -/
def holds (sha256 : Text → Sha256) (artifacts : List ImmutableArtifact)
    (reference : ArtifactReference) (expected : Result Text) : Bool :=
  match expected with
  | .error _ => false
  | .ok bytes =>
      (findArtifact artifacts reference.artifactId.val).any fun artifact =>
        artifact.reference = reference && verifyArtifact sha256 artifact && artifact.bytes = bytes

/-! ### Quantiles -/

/-- The sum of the multiplicities, unless it overflows. -/
def checkedSum : Option UInt64 :=
  values.foldlM (fun sum value => checkedAdd sum value.multiplicity) 0

/-- Strictly increasing latencies, each there at least once. -/
def increasing : Option UInt64 → List WeightedLatency → Bool
  | _, [] => true
  | previous, value :: rest =>
      value.multiplicity ≠ 0 && previous.all (· < value.latencyTicks) &&
        increasing (some value.latencyTicks) rest

/-- `⌈numerator * count / denominator⌉`, unless the arithmetic overflows. -/
def quantileRank (count numerator denominator : UInt64) : Option UInt64 :=
  let quotient := count / denominator
  let remainder := count % denominator
  let largest : UInt64 := 0xFFFFFFFFFFFFFFFF
  if quotient > largest / numerator || remainder > largest / numerator then none
  else
    let product := remainder * numerator
    let extra := product / denominator + (if product % denominator = 0 then 0 else 1)
    if quotient * numerator > largest - extra then none else some (quotient * numerator + extra)

/-- The first latency whose cumulative multiplicity reaches the rank. -/
def atRank (rank : UInt64) : UInt64 → List WeightedLatency → Option UInt64
  | _, [] => none
  | cumulative, value :: rest =>
      if cumulative + value.multiplicity ≥ rank then some value.latencyTicks
      else atRank rank (cumulative + value.multiplicity) rest

def exactInverseEcdfQuantile (sortedValues : List WeightedLatency)
    (numerator denominator : UInt64) : Result UInt64 :=
  if sortedValues.isEmpty || numerator = 0 || denominator = 0 || numerator > denominator then
    Load.fail .outOfRange "$/quantile" "ANALYSIS-QUANTILE-P"
      "quantile probability and sample must be nonempty"
  else
    match checkedSum sortedValues with
    | none =>
        Load.fail .outOfRange "$/quantile/sample" "ANALYSIS-QUANTILE-COUNT"
          "quantile multiplicities overflow or sum to zero"
    | some count =>
        if count = 0 then
          Load.fail .outOfRange "$/quantile/sample" "ANALYSIS-QUANTILE-COUNT"
            "quantile multiplicities overflow or sum to zero"
        else if !increasing none sortedValues then
          Load.fail .crossField "$/quantile/sample" "ANALYSIS-QUANTILE-SORTED"
            "synthetic RLE values must be strictly increasing with positive counts"
        else
          match quantileRank count numerator denominator with
          | none =>
              Load.fail .outOfRange "$/quantile/rank" "ANALYSIS-QUANTILE-OVERFLOW"
                "quantile rank arithmetic overflows u64"
          | some rank =>
              match atRank rank 0 sortedValues with
              | some latency => .ok latency
              | none =>
                  Load.fail .crossField "$/quantile/rank" "ANALYSIS-QUANTILE-INTERNAL"
                    "quantile rank was not found"

/-- The four registered quantiles, if the sample has them all. -/
def registeredQuantiles : Option (UInt64 × UInt64 × UInt64 × UInt64) :=
  match exactInverseEcdfQuantile values 1 2, exactInverseEcdfQuantile values 9 10,
      exactInverseEcdfQuantile values 99 100, exactInverseEcdfQuantile values 999 1000 with
  | .ok p50, .ok p90, .ok p99, .ok p999 => some (p50, p90, p99, p999)
  | _, _, _, _ => none

/-- `values.back().latency_ticks`. -/
def lastLatency : UInt64 :=
  (values.getLast?.map WeightedLatency.latencyTicks).getD 0

def summarizeDiagnostic : Option RunQuantiles :=
  (registeredQuantiles values).map fun (d50, d90, d99, d999) =>
    ⟨d50, d90, d99, d999, none, lastLatency values⟩

/-! ### The canonical projections of a run -/

section Digest

variable (conv : CharConv)

def canonicalSyntheticLatencyPayload (runId : RunId) (latencies : List WeightedLatency) :
    Result Text :=
  Json.canonicalize conv <| .object <| Object.of
    [(ascii "encoding", .string kSyntheticLatencyEncoding), (ascii "run_id", .string runId.value),
      (ascii "values", weightedValues latencies)]

def diagnosticsValue (diagnostics : SyntheticDiagnosticSeries) : Value :=
  .object <| Object.of
    [(ascii "admission_delay", weightedValues diagnostics.admissionDelay),
      (ascii "consumer_action", weightedValues diagnostics.consumerAction),
      (ascii "dequeue_service", weightedValues diagnostics.dequeueService),
      (ascii "enqueue_service", weightedValues diagnostics.enqueueService),
      (ascii "post_dequeue_delivery", weightedValues diagnostics.postDequeueDelivery),
      (ascii "producer_lateness", weightedValues diagnostics.producerLateness),
      (ascii "queue_residence", weightedValues diagnostics.queueResidence)]

/-- An enumerator as the number it is declared with. -/
def enumeratorValue (index : Nat) : Value := uintValue (.ofNat index)

def failureValue : Option ArtifactReference → Value
  | some reference => artifactValue reference
  | none => .null

def canonicalSyntheticRun (run : SyntheticRunInput) : Result Text :=
  Json.canonicalize conv <| .object <| Object.of
    [(ascii "accepted_count", uintValue run.acceptedCount),
      (ascii "attempted_count", uintValue run.attemptedCount),
      (ascii "block_id", .string run.blockId.value),
      (ascii "block_role", stringValue (roleName run.blockRole)),
      (ascii "cell_ordinal", uintValue run.cellOrdinal),
      (ascii "consumed_count", uintValue run.consumedCount),
      (ascii "failure_artifact", failureValue run.failureArtifact),
      (ascii "final_occupancy", uintValue run.finalOccupancy),
      (ascii "full_count", uintValue run.fullCount),
      (ascii "hardware_state", stringValue (hardwareName run.hardwareState)),
      (ascii "join_audit_artifact", artifactValue run.joinAuditArtifact),
      (ascii "joined_artifact", artifactValue run.joinedArtifact),
      (ascii "load", enumeratorValue run.load.ctorIdx),
      (ascii "manifest_artifact_id", .string run.manifestArtifact.artifactId.val),
      (ascii "n_eff_p999", uintValue run.nEffP999),
      (ascii "measurement_horizon_ticks", uintValue run.measurementHorizonTicks),
      (ascii "offered_count", uintValue run.offeredCount),
      (ascii "package", stringValue (packageName run.package)),
      (ascii "placement", enumeratorValue run.placement.ctorIdx),
      (ascii "prior_stage12_validation_passed", .boolean run.priorStage12ValidationPassed),
      (ascii "protocol_version", .string (protocolName run.protocolVersion)),
      (ascii "raw_reconciliation_present", .boolean run.rawReconciliation.isSome),
      (ascii "raw_sample_count", uintValue run.rawSampleCount),
      (ascii "run_id", .string run.runId.value),
      (ascii "schema_version", .string run.schemaVersion),
      (ascii "validity", stringValue (validityName run.validity)),
      (ascii "working_set", enumeratorValue run.workingSet.ctorIdx),
      (ascii "diagnostics", diagnosticsValue run.diagnostics)]

/-! ### The checks on a run -/

variable (sha256 : Text → Sha256)

/-- The three artifacts of a run, each as the run says. -/
def evidenceErrors (run : SyntheticRunInput) (artifacts : List ImmutableArtifact) :
    List ValidationError :=
  require (holds sha256 artifacts run.manifestArtifact (canonicalSyntheticRun conv run))
    ⟨.invalidHash, "$/run/manifest_artifact", "ANALYSIS-MANIFEST-HASH",
      "run projection must equal its finalized immutable manifest artifact"⟩ ++
  require (holds sha256 artifacts run.joinedArtifact
      (canonicalSyntheticLatencyPayload conv run.runId run.endToEndLatencies))
    ⟨.invalidHash, "$/run/joined_artifact", "ANALYSIS-JOINED-HASH",
      "synthetic latency payload must equal its finalized immutable artifact"⟩ ++
  require (resolves sha256 artifacts run.joinAuditArtifact)
    ⟨.missingEvidence, "$/run/join_audit_artifact", "ANALYSIS-JOIN-AUDIT",
      "a finalized checksum-valid join audit is required"⟩

def failureErrors (run : SyntheticRunInput) (artifacts : List ImmutableArtifact) :
    List ValidationError :=
  if run.validity = .invalid then
    match run.failureArtifact with
    | none =>
        [⟨.missingEvidence, "$/run/failure_artifact", "ANALYSIS-INVALID-FAILURE",
          "an invalid run requires retained failure evidence"⟩]
    | some failure =>
        require (resolves sha256 artifacts failure)
          ⟨.invalidHash, "$/run/failure_artifact", "ANALYSIS-FAILURE-HASH",
            "failure evidence must resolve and pass its checksum"⟩
  else
    require run.failureArtifact.isNone
      ⟨.crossField, "$/run/failure_artifact", "ANALYSIS-VALID-NO-FAILURE",
        "a valid synthetic run cannot carry invalidating failure evidence"⟩

/-- The counts of a run reconcile exactly. -/
def countGates (run : SyntheticRunInput) : Bool :=
  run.offeredCount = run.attemptedCount &&
    checkedAdd run.fullCount run.acceptedCount = some run.attemptedCount &&
    run.consumedCount = run.acceptedCount && run.finalOccupancy = 0 &&
    run.rawSampleCount = run.acceptedCount && run.nEffP999 ≤ run.rawSampleCount

/-- Every diagnostic series has the rows it is a series of. -/
def diagnosticCounts (run : SyntheticRunInput) : Bool :=
  [(run.diagnostics.producerLateness, run.attemptedCount),
    (run.diagnostics.enqueueService, run.attemptedCount),
    (run.diagnostics.admissionDelay, run.acceptedCount),
    (run.diagnostics.queueResidence, run.acceptedCount),
    (run.diagnostics.dequeueService, run.acceptedCount),
    (run.diagnostics.postDequeueDelivery, run.acceptedCount),
    (run.diagnostics.consumerAction, run.acceptedCount)].all fun series =>
      checkedSum series.1 = some series.2

/-- `++observed[latency]`, in a map that is kept by key. -/
def countLatency (latency : UInt64) : List (UInt64 × UInt64) → List (UInt64 × UInt64)
  | [] => [(latency, 1)]
  | entry :: rest =>
      if entry.1 = latency then (latency, entry.2 + 1) :: rest
      else if latency < entry.1 then (latency, 1) :: entry :: rest
      else entry :: countLatency latency rest

/-- `encoded.emplace`: the first multiplicity of a latency stays. -/
def emplaceLatency (value : WeightedLatency) : List (UInt64 × UInt64) → List (UInt64 × UInt64)
  | [] => [(value.latencyTicks, value.multiplicity)]
  | entry :: rest =>
      if entry.1 = value.latencyTicks then entry :: rest
      else if value.latencyTicks < entry.1 then
        (value.latencyTicks, value.multiplicity) :: entry :: rest
      else entry :: emplaceLatency value rest

/-- The joined rows have the latencies that are encoded. -/
def latenciesMatch (joined : List JoinedRecord) (latencies : List WeightedLatency) : Bool :=
  joined.foldl (fun observed row => countLatency row.endToEndLatency observed) [] =
    latencies.foldl (fun encoded value => emplaceLatency value encoded) []

def reconciliationErrors (run : SyntheticRunInput) : List ValidationError :=
  match run.rawReconciliation with
  | some raw =>
      let reconciled := Reconciliation.reconcile run.runId raw.producerRows raw.consumerRows
        raw.expectedRecordIndices
      if reconciled.status ≠ .passed || reconciled.joinedRows.length ≠ run.acceptedCount.toNat then
        [⟨.crossField, "$/run/raw_reconciliation", "ANALYSIS-RECONCILIATION-EXACT",
          "raw observations must pass exact Stage 12 reconciliation"⟩]
      else
        require (latenciesMatch reconciled.joinedRows run.endToEndLatencies)
          ⟨.referenceMismatch, "$/run/latencies", "ANALYSIS-INTERVALS-EXACT",
            "encoded latencies must equal exact joined derived intervals"⟩
  | none =>
      require run.priorStage12ValidationPassed
        ⟨.missingEvidence, "$/run/prior_stage12_validation_passed", "ANALYSIS-PRIOR-JOIN",
          "run requires exact reconciliation or immutable prior Stage 12 proof"⟩

def runErrors (run : SyntheticRunInput) (artifacts : List ImmutableArtifact) :
    List ValidationError :=
  require (run.protocolVersion = .v200pre2 && run.schemaVersion = kRunInputSchema)
    ⟨.unsupportedVersion, "$/run/version", "ANALYSIS-RUN-VERSION",
      "Stage 15 accepts only the pre.2 synthetic run-input schema"⟩ ++
  evidenceErrors conv sha256 run artifacts ++
  failureErrors sha256 run artifacts ++
  require (countGates run)
    ⟨.crossField, "$/run/counts", "ANALYSIS-COUNT-GATES",
      "run counts, zero occupancy, raw count, and N_eff must reconcile exactly"⟩ ++
  require (checkedSum run.endToEndLatencies = some run.rawSampleCount)
    ⟨.crossField, "$/run/latencies", "ANALYSIS-LATENCY-COUNT",
      "synthetic latency multiplicity must equal the accepted raw count"⟩ ++
  require (run.measurementHorizonTicks ≠ 0)
    ⟨.outOfRange, "$/run/measurement_horizon_ticks", "ANALYSIS-HORIZON-POSITIVE",
      "diagnostic throughput requires a positive frozen horizon"⟩ ++
  require (diagnosticCounts run)
    ⟨.crossField, "$/run/diagnostics", "ANALYSIS-DIAGNOSTIC-COUNT",
      "producer diagnostics require attempted rows and accepted diagnostics require joined rows"⟩ ++
  reconciliationErrors run ++
  require (run.validity ≠ .notEvaluated)
    ⟨.missingEvidence, "$/run/validity", "ANALYSIS-VALIDITY-EVALUATED",
      "analysis cannot consume a run whose validity is not evaluated"⟩

/-! ### The summary -/

def zeroLossOf (run : SyntheticRunInput) : GateStatus := if run.fullCount = 0 then .pass else .fail

def effectiveTailOf (run : SyntheticRunInput) : GateStatus :=
  if run.nEffP999 ≥ 200000 then .pass else .fail

/-- The blockers of a run, in the order of their enumerators. -/
def blockersOf (run : SyntheticRunInput) : List ConfirmatoryBlocker :=
  (if effectiveTailOf run = .fail then [.blockedEffectiveTail] else []) ++
    (if run.validity = .invalid then [.blockedInvalidRun] else []) ++
    (if zeroLossOf run = .fail then [.blockedZeroLoss] else [])

def estimabilityOf : List ConfirmatoryBlocker → ConfirmatoryEstimability
  | [] => .estimable
  | [.blockedEffectiveTail] => .blockedEffectiveTail
  | [.blockedInvalidRun] => .blockedInvalidRun
  | [.blockedZeroLoss] => .blockedZeroLoss
  | _ => .blockedMultiple

/-- `p9999`, of a run with enough effective samples. -/
def highestQuantile (run : SyntheticRunInput) : Result (Option UInt64) :=
  if run.nEffP999 ≥ 2000000 then
    (exactInverseEcdfQuantile run.endToEndLatencies 9999 10000).map some
  else .ok none

/-- The seven diagnostic series, if every one has its quantiles. -/
def diagnosticQuantiles (diagnostics : SyntheticDiagnosticSeries) :
    Option (RunQuantiles × RunQuantiles × RunQuantiles × RunQuantiles × RunQuantiles ×
      RunQuantiles × RunQuantiles) := do
  some (← summarizeDiagnostic diagnostics.producerLateness,
    ← summarizeDiagnostic diagnostics.enqueueService,
    ← summarizeDiagnostic diagnostics.admissionDelay,
    ← summarizeDiagnostic diagnostics.queueResidence,
    ← summarizeDiagnostic diagnostics.dequeueService,
    ← summarizeDiagnostic diagnostics.postDequeueDelivery,
    ← summarizeDiagnostic diagnostics.consumerAction)

def summarizeRun {F : Type} (arith : Binary64 F) (run : SyntheticRunInput)
    (artifacts : List ImmutableArtifact) : Result (RunSummary F) :=
  if runErrors conv sha256 run artifacts ≠ [] then .error (runErrors conv sha256 run artifacts)
  else
    match registeredQuantiles run.endToEndLatencies with
    | none =>
        Load.fail .outOfRange "$/run/latencies" "ANALYSIS-QUANTILES"
          "registered quantiles require positive latency values"
    | some (p50, p90, p99, p999) =>
        if p999 = 0 then
          Load.fail .outOfRange "$/run/latencies" "ANALYSIS-QUANTILES"
            "registered quantiles require positive latency values"
        else do
          let p9999 ← highestQuantile run
          match diagnosticQuantiles run.diagnostics with
          | none =>
              Load.fail .crossField "$/run/diagnostics" "ANALYSIS-DIAGNOSTIC-QUANTILES"
                "all registered diagnostic series are required"
          | some (lateness, enqueue, admission, residence, dequeue, delivery, action) =>
              .ok
                { runId := run.runId
                  blockId := run.blockId
                  blockRole := run.blockRole
                  package := run.package
                  hardwareState := run.hardwareState
                  placement := run.placement
                  workingSet := run.workingSet
                  load := run.load
                  validity := run.validity
                  zeroLoss := zeroLossOf run
                  effectiveTail := effectiveTailOf run
                  estimability := estimabilityOf (blockersOf run)
                  blockers := blockersOf run
                  quantiles := ⟨p50, p90, p99, p999, p9999, lastLatency run.endToEndLatencies⟩
                  producerLatenessQuantiles := lateness
                  enqueueServiceQuantiles := enqueue
                  admissionDelayQuantiles := admission
                  queueResidenceQuantiles := residence
                  dequeueServiceQuantiles := dequeue
                  postDequeueDeliveryQuantiles := delivery
                  consumerActionQuantiles := action
                  consumedThroughput := ⟨run.consumedCount, run.measurementHorizonTicks⟩
                  fullRate := ⟨run.fullCount, run.attemptedCount⟩
                  finalOccupancy := run.finalOccupancy
                  logP999 := arith.log (arith.ofCount p999) }

end Digest

end CpuPrefetch.Analysis
