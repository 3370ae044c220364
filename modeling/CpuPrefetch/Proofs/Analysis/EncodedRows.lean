/-
What a summary says of a run is what the rows of the run say.

The rows are counted into one map and the encoded latencies are put into another, where a
latency that comes again is ignored.  Equal maps alone would let an encoding through that
repeats a latency; the quantiles refuse one that is not strictly increasing, and then each
encoded latency has its own entry.  The counts do not wrap around, since there are no more
rows than a word can count, so what is encoded is the sorted latencies of the rows, run by
run.
-/
import CpuPrefetch.Analysis.Inputs
import CpuPrefetch.Proofs.Analysis.Quantiles
import CpuPrefetch.Proofs.Analysis.SummarizedRuns
import CpuPrefetch.Proofs.Orchestration.Release
import CpuPrefetch.Proofs.Reconciliation.Passed

namespace CpuPrefetch.Analysis

open List
open OrderStatistics (expand)
open Protocol Orchestration
open Protocol.Json (CharConv)

/-! ### An encoding that is accepted -/

variable {value : UInt64}

section Accepted

variable {encoded : List WeightedLatency}

theorem pairwise_of_increasing {previous : Option UInt64}
    (h : increasing previous encoded = true) :
    encoded.Pairwise (·.latencyTicks < ·.latencyTicks) ∧
      (∀ value ∈ encoded, value.multiplicity ≠ 0) ∧
      ∀ ticks, previous = some ticks → ∀ value ∈ encoded, ticks < value.latencyTicks := by
  induction encoded generalizing previous with
  | nil => exact ⟨.nil, forall_mem_nil _, fun _ _ => forall_mem_nil _⟩
  | cons value rest ih =>
      rw [increasing, Bool.and_eq_true, Bool.and_eq_true] at h
      obtain ⟨⟨hpositive, hbefore⟩, hrest⟩ := h
      obtain ⟨hpairwise, hpositives, hafter⟩ := ih hrest
      have hlater := hafter value.latencyTicks rfl
      refine ⟨List.pairwise_cons.mpr ⟨hlater, hpairwise⟩,
        List.forall_mem_cons.mpr ⟨of_decide_eq_true hpositive, hpositives⟩, ?_⟩
      rintro ticks rfl
      have hfirst : ticks < value.latencyTicks := of_decide_eq_true hbefore
      refine List.forall_mem_cons.mpr ⟨hfirst, fun later hmem => ?_⟩
      exact UInt64.lt_trans hfirst (hlater later hmem)

/-- A sum that is checked is the number of elements. -/
theorem toNat_checkedSum {sum total : UInt64}
    (h : encoded.foldlM (fun sum value => checkedAdd sum value.multiplicity) sum = some total) :
    total.toNat = sum.toNat + (expansion encoded).length := by
  induction encoded generalizing sum with
  | nil =>
      obtain rfl := Option.some.inj h
      rfl
  | cons value rest ih =>
      obtain ⟨next, hnext, hrest⟩ := Option.bind_eq_some_iff.mp h
      rw [ih hrest, checkedAdd_some hnext, length_expansion_cons, Nat.add_assoc]

/-- What the quantile routine has checked when it returns. -/
theorem encoded_of_quantile {numerator denominator : UInt64}
    (h : exactInverseEcdfQuantile encoded numerator denominator = .ok value) : Encoded encoded := by
  rw [exactInverseEcdfQuantile] at h
  split at h
  · cases h
  · rename_i hvalid
    split at h
    · cases h
    · rename_i count hcount
      split at h
      · cases h
      · split at h
        · cases h
        · rename_i hincreasing
          simp only [Bool.not_eq_true', Bool.not_eq_false] at hincreasing
          obtain ⟨hpairwise, hpositive, -⟩ := pairwise_of_increasing hincreasing
          refine ⟨?_, hpairwise, hpositive, ?_⟩
          · rintro rfl
            exact hvalid rfl
          · have hlength := toNat_checkedSum hcount
            have hlt := count.toNat_lt
            rw [UInt64.toNat_zero, Nat.zero_add] at hlength
            omega

/-- The last of the encoded latencies is the largest. -/
theorem isGreatest_lastLatency (h : Encoded encoded) :
    IsGreatest {latency | latency ∈ expansion encoded} (lastLatency encoded) := by
  have hne := h.nonempty
  have hlast : lastLatency encoded = (encoded.getLast hne).latencyTicks := by
    rw [lastLatency, getLast?_eq_some_getLast hne]
    rfl
  have hmember : ∀ latency, latency ∈ expansion encoded ↔
      ∃ value ∈ encoded, value.multiplicity ≠ 0 ∧ latency = value.latencyTicks := by
    intro latency
    simp only [expansion, expand, runs, mem_flatMap, mem_map, mem_replicate,
      exists_exists_and_eq_and, ne_eq, ← UInt64.toNat_inj, UInt64.toNat_zero]
  rw [hlast]
  constructor
  · exact (hmember _).mpr ⟨_, getLast_mem hne, h.positive _ (getLast_mem hne), rfl⟩
  · intro latency hlatency
    obtain ⟨value, hvalue, -, rfl⟩ := (hmember latency).mp hlatency
    have hsplit := dropLast_append_getLast hne
    have hpairwise := h.increasing
    rw [← hsplit] at hvalue hpairwise
    rcases List.mem_append.mp hvalue with hfront | hback
    · exact UInt64.le_of_lt ((List.pairwise_append.mp hpairwise).2.2 value hfront _
        (mem_singleton_self _))
    · rw [List.mem_singleton.mp hback]
      exact UInt64.le_refl _

end Accepted

/-! ### The two maps -/

variable {encoded : List WeightedLatency}

section Maps

/-- What a map has counted, one by one. -/
def counted (counts : List (UInt64 × UInt64)) : List UInt64 :=
  expand (counts.map fun entry => (entry.1, entry.2.toNat))

theorem counted_cons (entry : UInt64 × UInt64) (rest : List (UInt64 × UInt64)) :
    counted (entry :: rest) = List.replicate entry.2.toNat entry.1 ++ counted rest :=
  OrderStatistics.expand_cons _ _

/-- The entry of an encoded latency. -/
def WeightedLatency.entry (value : WeightedLatency) : UInt64 × UInt64 :=
  (value.latencyTicks, value.multiplicity)

theorem counted_entries (encoded : List WeightedLatency) :
    counted (encoded.map WeightedLatency.entry) = expansion encoded := by
  rw [counted, map_map]
  rfl

/-- Counting one more latency puts it in, as long as the map has counted less than a word can. -/
theorem countLatency_perm {counts : List (UInt64 × UInt64)} (latency : UInt64)
    (h : (counted counts).length < 2 ^ 64 - 1) :
    (counted (countLatency latency counts)).Perm (latency :: counted counts) := by
  induction counts with
  | nil => exact .refl _
  | cons entry rest ih =>
      rw [counted_cons, length_append, length_replicate] at h
      rw [countLatency]
      split
      · rename_i hsame
        have hcount : (entry.2 + 1).toNat = entry.2.toNat + 1 :=
          CheckedWords.toNat_add (show entry.2.toNat + 1 ≤ 2 ^ 64 - 1 by omega)
        rw [counted_cons, counted_cons, hcount, hsame, replicate_succ, cons_append]
      · split
        · rw [counted_cons]
          exact .refl _
        · rw [counted_cons, counted_cons]
          exact ((ih (by omega)).append_left _).trans perm_middle

theorem countLatencies_perm {counts : List (UInt64 × UInt64)} (sample : List UInt64)
    (h : (counted counts).length + sample.length < 2 ^ 64) :
    (counted (sample.foldl (fun observed latency => countLatency latency observed) counts)).Perm
      (sample ++ counted counts) := by
  induction sample generalizing counts with
  | nil => exact .refl _
  | cons latency rest ih =>
      rw [length_cons] at h
      have hone := @countLatency_perm counts latency (by omega)
      rw [foldl_cons]
      refine (ih ?_).trans ((hone.append_left rest).trans perm_middle)
      rw [hone.length_eq, length_cons]
      omega

/-- A latency above all the others is put in last. -/
theorem emplaceLatency_last {counts : List (UInt64 × UInt64)} {value : WeightedLatency}
    (h : ∀ entry ∈ counts, entry.1 < value.latencyTicks) :
    emplaceLatency value counts = counts ++ [value.entry] := by
  induction counts with
  | nil => rfl
  | cons entry rest ih =>
      obtain ⟨hfirst, hrest⟩ := List.forall_mem_cons.mp h
      have hne : entry.1 ≠ value.latencyTicks := UInt64.ne_of_lt hfirst
      rw [emplaceLatency, if_neg hne, if_neg (UInt64.lt_asymm hfirst), ih hrest,
        cons_append]

/-- Strictly increasing latencies all get an entry. -/
theorem emplaceLatencies {counts : List (UInt64 × UInt64)}
    (hpairwise : encoded.Pairwise (·.latencyTicks < ·.latencyTicks))
    (hafter : ∀ entry ∈ counts, ∀ value ∈ encoded, entry.1 < value.latencyTicks) :
    encoded.foldl (fun counts value => emplaceLatency value counts) counts =
      counts ++ encoded.map WeightedLatency.entry := by
  induction encoded generalizing counts with
  | nil => exact (append_nil _).symm
  | cons value rest ih =>
      obtain ⟨hlater, hrest⟩ := List.pairwise_cons.mp hpairwise
      have hlast := emplaceLatency_last fun entry hentry =>
        hafter entry hentry value mem_cons_self
      rw [foldl_cons, hlast, ih hrest ?_, append_assoc]
      · rfl
      · intro entry hentry later hmem
        rcases List.mem_append.mp hentry with hbefore | hnew
        · exact hafter entry hbefore later (mem_cons_of_mem _ hmem)
        · rw [List.mem_singleton.mp hnew]
          exact hlater later hmem

/-- Equal maps: what is encoded is what the rows have. -/
theorem perm_of_latenciesMatch {joined : List JoinedRecord}
    (hpairwise : encoded.Pairwise (·.latencyTicks < ·.latencyTicks))
    (hlength : joined.length < 2 ^ 64) (h : latenciesMatch joined encoded = true) :
    (joined.map JoinedRecord.endToEndLatency).Perm (expansion encoded) := by
  have hmaps := of_decide_eq_true h
  rw [emplaceLatencies hpairwise (forall_mem_nil _), nil_append] at hmaps
  have hrows := @countLatencies_perm [] (joined.map JoinedRecord.endToEndLatency)
    (by rw [length_map]; exact (Nat.zero_add _).trans_lt hlength)
  rw [foldl_map, hmaps, counted_entries] at hrows
  exact (hrows.trans (.of_eq (append_nil _))).symm

end Maps

/-! ### The quantiles -/

/-- The value at the rank that is the fraction of the sample's size, rounded up. -/
def NearestRank (sample : List UInt64) (numerator denominator : Nat) (value : UInt64) : Prop :=
  sample.mergeSort[(sample.length * numerator) ⌈/⌉ denominator - 1]? = some value

theorem nearestRank_of_quantile {sample : List UInt64} {numerator denominator : UInt64}
    {n d : Nat} (hperm : sample.Perm (expansion encoded))
    (h : exactInverseEcdfQuantile encoded numerator denominator = .ok value)
    (hfraction : Fraction numerator denominator) (hn : numerator.toNat = n)
    (hd : denominator.toNat = d) : NearestRank sample n d value := by
  have hencoded := encoded_of_quantile h
  obtain ⟨ranked, hranked⟩ : ∃ ranked, quantileOf encoded numerator denominator = some ranked :=
    ⟨_, getElem?_eq_getElem (rank_lt hencoded hfraction)⟩
  have hsame := (exactInverseEcdfQuantile_eq hencoded hfraction hranked).symm.trans h
  obtain rfl := Except.ok.inj hsame
  have hlength : sample.length = (countOf encoded).toNat := by
    rw [hperm.length_eq, toNat_countOf hencoded]
  rw [NearestRank, mergeSort_sample hencoded hperm, hlength, ← hn, ← hd,
    ← (@exactRank (countOf encoded) _ _ hfraction).rank]
  exact hranked

theorem registeredQuantiles_some {p50 p90 p99 p999 : UInt64}
    (h : registeredQuantiles encoded = some (p50, p90, p99, p999)) :
    exactInverseEcdfQuantile encoded 1 2 = .ok p50 ∧
      exactInverseEcdfQuantile encoded 9 10 = .ok p90 ∧
      exactInverseEcdfQuantile encoded 99 100 = .ok p99 ∧
      exactInverseEcdfQuantile encoded 999 1000 = .ok p999 := by
  rw [registeredQuantiles] at h
  split at h
  · rename_i h50 h90 h99 h999
    cases h
    exact ⟨h50, h90, h99, h999⟩
  · cases h

/-! ### One run -/

section Run

variable {F : Type} {conv : CharConv} {sha256 : Text → Sha256} {arith : Binary64 F}
  {run : SyntheticRunInput} {raw : RawReconciliationInput} {artifacts : List ImmutableArtifact}
  {summary : RunSummary F}

/-- The join of a run's observations. -/
def joinOf (run : SyntheticRunInput) (raw : RawReconciliationInput) :
    Reconciliation.ReconciliationResult :=
  Reconciliation.reconcile run.runId raw.producerRows raw.consumerRows raw.expectedRecordIndices

/-- The latencies of the joined rows, in their order. -/
def latenciesOf (run : SyntheticRunInput) (raw : RawReconciliationInput) : List UInt64 :=
  (joinOf run raw).joinedRows.map JoinedRecord.endToEndLatency

/-- The accepted rows, each with its consumer row. -/
def acceptedPairs (raw : RawReconciliationInput) : List (ProducerRecord × ConsumerRecord) :=
  (raw.producerRows.filter (·.outcome = .accepted)).zip raw.consumerRows

/-- The run and its summary say what the rows of the run say. -/
structure Truthful (run : SyntheticRunInput) (raw : RawReconciliationInput)
    (summary : RunSummary F) : Prop where
  passed : (joinOf run raw).status = .passed
  /-- The rows are those of the accepted pairs, and no latency has wrapped around. -/
  rows : List.Forall₂ Reconciliation.Spans (acceptedPairs raw) (joinOf run raw).joinedRows
  encoded : Encoded run.endToEndLatencies
  exact : expansion run.endToEndLatencies = (latenciesOf run raw).mergeSort
  p50 : NearestRank (latenciesOf run raw) 1 2 summary.quantiles.p50
  p90 : NearestRank (latenciesOf run raw) 9 10 summary.quantiles.p90
  p99 : NearestRank (latenciesOf run raw) 99 100 summary.quantiles.p99
  p999 : NearestRank (latenciesOf run raw) 999 1000 summary.quantiles.p999
  p9999 : ∀ value, summary.quantiles.p9999 = some value →
    NearestRank (latenciesOf run raw) 9999 10000 value
  p9999_present : summary.quantiles.p9999.isSome ↔ 2000000 ≤ run.nEffP999.toNat
  maximum : IsGreatest {latency | latency ∈ latenciesOf run raw} summary.quantiles.maximum
  accepted : run.acceptedCount.toNat = (joinOf run raw).joinedRows.length
  consumed : run.consumedCount.toNat = (joinOf run raw).joinedRows.length
  rawSamples : run.rawSampleCount.toNat = (joinOf run raw).joinedRows.length
  attempted : run.attemptedCount.toNat = run.acceptedCount.toNat + run.fullCount.toNat

/-- The quantiles of a summary are those the quantile routine returns. -/
theorem summarizeRun_quantiles (h : summarizeRun conv sha256 arith run artifacts = .ok summary) :
    registeredQuantiles run.endToEndLatencies = some (summary.quantiles.p50,
        summary.quantiles.p90, summary.quantiles.p99, summary.quantiles.p999) ∧
      highestQuantile run = .ok summary.quantiles.p9999 ∧
      summary.quantiles.maximum = lastLatency run.endToEndLatencies := by
  rw [summarizeRun] at h
  split at h
  · cases h
  · split at h
    · cases h
    · rename_i p50 p90 p99 p999 hquantiles
      split at h
      · cases h
      · obtain ⟨p9999, hhighest, h⟩ := Fallible.bind_ok h
        split at h
        · cases h
        · cases h
          exact ⟨hquantiles, hhighest, rfl⟩

/-- The counts of a run that passes its gates. -/
theorem counts_of_gates (h : countGates run = true) :
    run.consumedCount = run.acceptedCount ∧ run.rawSampleCount = run.acceptedCount ∧
      run.attemptedCount.toNat = run.acceptedCount.toNat + run.fullCount.toNat := by
  simp only [countGates, Bool.and_eq_true, decide_eq_true_eq] at h
  obtain ⟨⟨⟨⟨⟨-, hattempted⟩, hconsumed⟩, -⟩, hraw⟩, -⟩ := h
  exact ⟨hconsumed, hraw, (checkedAdd_some hattempted).trans (Nat.add_comm _ _)⟩

/-- The join of a run that reports nothing. -/
theorem join_of_clean (hraw : run.rawReconciliation = some raw)
    (h : reconciliationErrors run = []) :
    (joinOf run raw).status = .passed ∧
      run.acceptedCount.toNat = (joinOf run raw).joinedRows.length ∧
      latenciesMatch (joinOf run raw).joinedRows run.endToEndLatencies = true := by
  simp only [reconciliationErrors, hraw] at h
  split at h
  · cases h
  · rename_i hexact
    simp only [ne_eq, Bool.or_eq_true, decide_eq_true_eq, not_or, not_not] at hexact
    exact ⟨hexact.1, hexact.2.symm, require_eq_nil.mp h⟩

theorem highestQuantile_isSome {highest : Option UInt64} (h : highestQuantile run = .ok highest) :
    highest.isSome ↔ 2000000 ≤ run.nEffP999.toNat := by
  rw [highestQuantile] at h
  split at h
  · rename_i henough
    obtain ⟨value, -, rfl⟩ := Fallible.map_ok h
    exact iff_of_true rfl (UInt64.le_iff_toNat_le.mp henough)
  · rename_i hfew
    obtain rfl := Except.ok.inj h
    exact iff_of_false (by simp) fun henough => hfew (UInt64.le_iff_toNat_le.mpr henough)

theorem highestQuantile_some (h : highestQuantile run = .ok (some value)) :
    exactInverseEcdfQuantile run.endToEndLatencies 9999 10000 = .ok value := by
  rw [highestQuantile] at h
  split at h
  · obtain ⟨highest, hhighest, hsame⟩ := Fallible.map_ok h
    rw [hhighest, Option.some.inj hsame]
  · cases h

/-- **A summarized run tells the truth about its rows.**

The join passed, the encoding is the sorted latencies of its rows, run by run, and the
quantiles, the maximum and the counts are those of the rows. -/
theorem summary_truthful (hraw : run.rawReconciliation = some raw)
    (h : summarizeRun conv sha256 arith run artifacts = .ok summary) :
    Truthful run raw summary := by
  obtain ⟨hclean, -, -⟩ := summarizeRun_ok h
  obtain ⟨hregistered, hhighest, hmaximum⟩ := summarizeRun_quantiles h
  obtain ⟨h50, h90, h99, h999⟩ := registeredQuantiles_some hregistered
  simp only [runErrors, append_eq_nil_iff, require_eq_nil] at hclean
  obtain ⟨⟨⟨⟨⟨⟨-, hgates⟩, -⟩, -⟩, -⟩, hreconciled⟩, -⟩ := hclean
  obtain ⟨hpassed, haccepted, hmatch⟩ := join_of_clean hraw hreconciled
  obtain ⟨hconsumed, hsamples, hattempted⟩ := counts_of_gates hgates
  have hencoded := encoded_of_quantile h50
  -- fewer rows than a word can count, so no count of the first map has wrapped around
  have hlength : (joinOf run raw).joinedRows.length < 2 ^ 64 :=
    haccepted ▸ run.acceptedCount.toNat_lt
  have hperm : (latenciesOf run raw).Perm (expansion run.endToEndLatencies) :=
    perm_of_latenciesMatch hencoded.increasing hlength hmatch
  refine
    { passed := hpassed
      rows := (Reconciliation.reconcile_passed hpassed).2
      encoded := hencoded
      exact := (mergeSort_sample hencoded hperm).symm
      p50 := nearestRank_of_quantile hperm h50 ⟨by decide, by decide, by decide⟩ rfl rfl
      p90 := nearestRank_of_quantile hperm h90 ⟨by decide, by decide, by decide⟩ rfl rfl
      p99 := nearestRank_of_quantile hperm h99 ⟨by decide, by decide, by decide⟩ rfl rfl
      p999 := nearestRank_of_quantile hperm h999 ⟨by decide, by decide, by decide⟩ rfl rfl
      p9999 := ?_
      p9999_present := highestQuantile_isSome hhighest
      maximum := ?_
      accepted := haccepted
      consumed := by rw [hconsumed, haccepted]
      rawSamples := by rw [hsamples, haccepted]
      attempted := hattempted }
  · intro value hvalue
    exact nearestRank_of_quantile hperm (highestQuantile_some (hvalue ▸ hhighest))
      ⟨by decide, by decide, by decide⟩ rfl rfl
  · have hsame : {latency | latency ∈ latenciesOf run raw} =
        {latency | latency ∈ expansion run.endToEndLatencies} :=
      Set.ext fun latency => hperm.mem_iff
    rw [hmaximum, hsame]
    exact isGreatest_lastLatency hencoded

end Run

/-! ### A run to evaluate on -/

def summarizedRunId : RunId := ⟨ascii "run", by decide⟩

def acceptedRow (sequence ordinal arrival : UInt64) : ProducerRecord :=
  ⟨summarizedRunId, sequence, sequence, arrival, arrival, arrival, arrival, some arrival, arrival,
    .accepted, some ordinal⟩

def fullRow (sequence arrival : UInt64) : ProducerRecord :=
  ⟨summarizedRunId, sequence, sequence, arrival, arrival, arrival, arrival, none, arrival, .full,
    none⟩

def consumerRow (ordinal sequence completion : UInt64) : ConsumerRecord :=
  ⟨summarizedRunId, ordinal, sequence, completion, completion, completion, completion⟩

/-- Three of four events are accepted, and take 7, 3 and 3 ticks. -/
def summarizedRows : RawReconciliationInput where
  producerRows := [acceptedRow 0 0 10, fullRow 1 11, acceptedRow 2 1 12, acceptedRow 3 2 13]
  consumerRows := [consumerRow 0 0 17, consumerRow 1 2 15, consumerRow 2 3 16]
  expectedRecordIndices := [0, 1, 2, 3]

def summarizedLatencies : List WeightedLatency := [⟨3, 2⟩, ⟨7, 1⟩]

def bytesOf (canonical : Result Text) : Text := canonical.toOption.getD []

def summarizedPayload : Text :=
  bytesOf (canonicalSyntheticLatencyPayload noNumbers summarizedRunId summarizedLatencies)

/-- The run, with the digest of its manifest. -/
def summarizedRun (manifestSha256 : Sha256) : SyntheticRunInput where
  protocolVersion := .v200pre2
  schemaVersion := kRunInputSchema
  runId := summarizedRunId
  blockId := ⟨ascii "block", by decide⟩
  blockRole := .h3Train
  cellOrdinal := 0
  package := .r0
  hardwareState := .h0
  placement := .near
  workingSet := .l2Resident
  load := .l025
  validity := .valid
  offeredCount := 4
  attemptedCount := 4
  acceptedCount := 3
  fullCount := 1
  consumedCount := 3
  finalOccupancy := 0
  rawSampleCount := 3
  nEffP999 := 3
  measurementHorizonTicks := 1
  endToEndLatencies := summarizedLatencies
  diagnostics := ⟨[⟨0, 4⟩], [⟨0, 4⟩], [⟨0, 3⟩], [⟨0, 3⟩], [⟨0, 3⟩], [⟨0, 3⟩], [⟨0, 3⟩]⟩
  manifestArtifact := ⟨⟨ascii "manifest", by decide⟩, manifestSha256⟩
  joinedArtifact := ⟨⟨ascii "joined", by decide⟩, firstBytes summarizedPayload⟩
  joinAuditArtifact := artifactNamed "audit"
  failureArtifact := none
  rawReconciliation := some summarizedRows
  priorStage12ValidationPassed := false

/-- The manifest names its own artifact, and not the digest. -/
def summarizedManifest : Text :=
  bytesOf (canonicalSyntheticRun noNumbers (summarizedRun (firstBytes [])))

def summarizedArtifacts (run : SyntheticRunInput) : List ImmutableArtifact :=
  [⟨.v200pre2, run.manifestArtifact, summarizedManifest, true⟩,
    ⟨.v200pre2, run.joinedArtifact, summarizedPayload, true⟩,
    ⟨.v200pre2, run.joinAuditArtifact, [], true⟩]

theorem summary_truthful_sample :
    ∃ summary, summarizeRun noNumbers firstBytes (exactArithmetic ⟨0, 0, id, id, fun _ => 0⟩)
        (summarizedRun (firstBytes summarizedManifest))
        (summarizedArtifacts (summarizedRun (firstBytes summarizedManifest))) = .ok summary ∧
      Truthful (summarizedRun (firstBytes summarizedManifest)) summarizedRows summary := by
  have hsome : (summarizeRun noNumbers firstBytes (exactArithmetic ⟨0, 0, id, id, fun _ => 0⟩)
      (summarizedRun (firstBytes summarizedManifest)) (summarizedArtifacts
        (summarizedRun (firstBytes summarizedManifest)))).toOption.isSome = true := by
    decide +kernel
  obtain ⟨summary, hsummary⟩ := Option.isSome_iff_exists.mp hsome
  have hok := Fallible.of_toOption hsummary
  exact ⟨summary, hok, summary_truthful rfl hok⟩

end CpuPrefetch.Analysis
