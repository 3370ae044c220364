/-
Which probe runs a candidate counts.

The evaluation accepts a cell only with one piece of valid evidence for each planned run; it
compares nothing across cells, and no source artifact with another.  So the runs of a matrix
are distinct exactly when the plans of its cells share nothing and as many artifacts are cited
as runs are planned.
-/
import CpuPrefetch.Proofs.Tools.HoeffdingBound

namespace CpuPrefetch.Tools.CalibrationStatistics

open List
open Fallible (bind_ok guard_ok ok_bind)

/-! ### What is accepted -/

/-- Invalid evidence ends in an error, whatever else it carries. -/
theorem rejectInvalidRun_ne_ok (path : String) (run : ClusterRun) :
    rejectInvalidRun path run ≠ .ok () := by
  intro h
  rw [rejectInvalidRun] at h
  obtain ⟨-, h⟩ := guard_ok h
  by_cases hsource : run.sourceSha256 ≠ none
  · simp only [if_pos hsource] at h
    obtain ⟨⟨⟩, -, h⟩ := bind_ok h
    obtain ⟨⟨⟩, -, h⟩ := bind_ok h
    obtain ⟨-, h⟩ := guard_ok h
    obtain ⟨⟨⟩, -, h⟩ := bind_ok h
    obtain ⟨⟨⟩, -, h⟩ := bind_ok h
    cases h
  · simp only [if_neg hsource] at h
    obtain ⟨-, h⟩ := guard_ok h
    obtain ⟨⟨⟩, -, h⟩ := bind_ok h
    obtain ⟨⟨⟩, -, h⟩ := bind_ok h
    cases h

variable {index : Nat}

theorem checkRun_ok {runIndex : Nat} {run : ClusterRun} (h : checkRun index runIndex run = .ok ()) :
    run.validity = literal "VALID" ∧ run.sourceArtifactId ≠ none := by
  rw [checkRun] at h
  obtain ⟨-, h⟩ := guard_ok h
  obtain ⟨⟨⟩, -, h⟩ := bind_ok h
  split at h
  · rename_i hvalid
    obtain ⟨hevidence, -⟩ := guard_ok h
    refine ⟨hvalid, fun hnone => hevidence (Or.inl ?_)⟩
    rw [missing, hnone]
    rfl
  · split at h
    · exact absurd h (rejectInvalidRun_ne_ok _ run)
    · cases h

theorem checkRuns_ok {runs : List ClusterRun} :
    ∀ {runIndex : Nat}, checkRuns index runIndex runs = .ok () →
      ∀ run ∈ runs, run.validity = literal "VALID" ∧ run.sourceArtifactId ≠ none := by
  induction runs with
  | nil => exact fun _ run hrun => absurd hrun not_mem_nil
  | cons first rest ih =>
      intro runIndex h
      rw [checkRuns] at h
      obtain ⟨⟨⟩, hfirst, hrest⟩ := bind_ok h
      exact List.forall_mem_cons.mpr ⟨checkRun_ok hfirst, ih hrest⟩

/-- A cell that is accepted has one run for each planned run, all of them valid. -/
structure Accepted (probe : CellProbe) : Prop where
  planned : probe.plannedRunIds.Nodup
  actual : (probe.runs.map (·.runId)).Nodup
  unplanned : ∀ runId ∈ probe.runs.map (·.runId), runId ∈ probe.plannedRunIds
  omitted : ∀ runId ∈ probe.plannedRunIds, runId ∈ probe.runs.map (·.runId)
  valid : ∀ run ∈ probe.runs, run.validity = literal "VALID" ∧ run.sourceArtifactId ≠ none

variable {config : MatrixConfig}

theorem checkProbe_ok {probe : CellProbe} (h : checkProbe config index probe = .ok ()) :
    Accepted probe := by
  rw [checkProbe] at h
  obtain ⟨⟨⟩, -, h⟩ := bind_ok h
  obtain ⟨⟨⟩, -, h⟩ := bind_ok h
  obtain ⟨⟨⟩, -, h⟩ := bind_ok h
  obtain ⟨⟨⟩, -, h⟩ := bind_ok h
  obtain ⟨⟨⟩, -, h⟩ := bind_ok h
  obtain ⟨⟨⟩, -, h⟩ := bind_ok h
  obtain ⟨-, h⟩ := guard_ok h
  obtain ⟨-, h⟩ := guard_ok h
  obtain ⟨hplan, h⟩ := guard_ok h
  obtain ⟨⟨⟩, -, h⟩ := bind_ok h
  obtain ⟨hactual, h⟩ := guard_ok h
  obtain ⟨hsame, h⟩ := guard_ok h
  exact ⟨not_not.mp fun hrepeated => hplan (Or.inr hrepeated), not_not.mp hactual,
    not_not.mp fun hunplanned => hsame (Or.inl hunplanned),
    not_not.mp fun homitted => hsame (Or.inr homitted), checkRuns_ok h⟩

variable {cells : List CellProbe}

theorem addProbes_ok {runtime : Runtime} :
    ∀ {index : Nat} {t t' : MatrixTotals}, addProbes runtime config index t cells = .ok t' →
      ∀ probe ∈ cells, Accepted probe := by
  induction cells with
  | nil => exact fun _ probe hprobe => absurd hprobe not_mem_nil
  | cons first rest ih =>
      intro index t t' h
      rw [addProbes] at h
      obtain ⟨next, hfirst, hrest⟩ := bind_ok h
      rw [addProbe] at hfirst
      obtain ⟨⟨⟩, hchecked, -⟩ := bind_ok hfirst
      exact List.forall_mem_cons.mpr ⟨checkProbe_ok hchecked, ih hrest⟩

theorem evaluateMatrix_ok {runtime : Runtime} {result : MatrixResult}
    (h : evaluateMatrix runtime config cells = .ok result) : ∀ probe ∈ cells, Accepted probe := by
  rw [evaluateMatrix] at h
  obtain ⟨⟨⟩, -, h⟩ := bind_ok h
  obtain ⟨-, h⟩ := guard_ok h
  obtain ⟨-, h⟩ := guard_ok h
  obtain ⟨-, h⟩ := guard_ok h
  obtain ⟨t, hprobes, -⟩ := bind_ok h
  exact addProbes_ok hprobes

/-! ### Distinct runs -/

/-- The runs of all cells. -/
def allRuns (cells : List CellProbe) : List ClusterRun := cells.flatMap (·.runs)

/-- The raw source artifacts that valid runs cite. -/
def citedSources (cells : List CellProbe) : List (Option PyText) :=
  ((allRuns cells).filter (·.validity = literal "VALID")).map (·.sourceArtifactId)

/-- No run is counted twice: neither by its own identity nor by its raw source. -/
def CountedOnce (cells : List CellProbe) : Prop :=
  ((allRuns cells).map (·.runId)).Nodup ∧ (citedSources cells).Nodup

/-- No run is planned in two cells. -/
def PlansDisjoint (cells : List CellProbe) : Prop :=
  cells.Pairwise fun first second => first.plannedRunIds.Disjoint second.plannedRunIds

/-- The number of planned runs. -/
def plannedCount (cells : List CellProbe) : Nat := (cells.map (·.plannedRunIds.length)).sum

theorem Accepted.perm {probe : CellProbe} (h : Accepted probe) :
    (probe.runs.map (·.runId)).Perm probe.plannedRunIds :=
  (perm_ext_iff_of_nodup h.actual h.planned).mpr fun runId =>
    ⟨h.unplanned runId, h.omitted runId⟩

theorem nodup_iff_dedup_length {T : Type} [DecidableEq T] (l : List T) :
    l.Nodup ↔ l.dedup.length = l.length := by
  constructor
  · intro h
    rw [List.dedup_eq_self.mpr h]
  · intro h
    exact List.dedup_eq_self.mp (l.dedup_sublist.eq_of_length h)

theorem runIds_nodup_iff (h : ∀ probe ∈ cells, Accepted probe) :
    ((allRuns cells).map (·.runId)).Nodup ↔ PlansDisjoint cells := by
  rw [allRuns, map_flatMap, nodup_flatMap, and_iff_right fun probe hprobe =>
    (h probe hprobe).actual]
  refine List.Pairwise.iff_of_mem fun {first second} hfirst hsecond => ?_
  constructor
  · intro hdisjoint runId hleft hright
    exact hdisjoint ((h first hfirst).omitted runId hleft) ((h second hsecond).omitted runId hright)
  · intro hdisjoint runId hleft hright
    exact hdisjoint ((h first hfirst).unplanned runId hleft)
      ((h second hsecond).unplanned runId hright)

theorem citedSources_length (h : ∀ probe ∈ cells, Accepted probe) :
    (citedSources cells).length = plannedCount cells := by
  have hvalid : (allRuns cells).filter (·.validity = literal "VALID") = allRuns cells := by
    rw [filter_eq_self]
    intro run hrun
    obtain ⟨probe, hprobe, hmember⟩ := List.mem_flatMap.mp hrun
    exact decide_eq_true ((h probe hprobe).valid run hmember).1
  rw [citedSources, hvalid, length_map, allRuns, length_flatMap, plannedCount]
  congr 1
  apply map_congr_left
  intro probe hprobe
  simpa using (h probe hprobe).perm.length_eq

/--
Of a matrix that is accepted no run is counted twice exactly when no run is planned in two
cells and as many source artifacts are cited as runs are planned.
-/
theorem counted_once_iff {runtime : Runtime} {config : MatrixConfig} {cells : List CellProbe}
    {result : MatrixResult} (h : evaluateMatrix runtime config cells = .ok result) :
    CountedOnce cells ↔
      PlansDisjoint cells ∧ (citedSources cells).dedup.length = plannedCount cells := by
  have haccepted := evaluateMatrix_ok h
  rw [CountedOnce, runIds_nodup_iff haccepted, nodup_iff_dedup_length,
    citedSources_length haccepted]

/-! ### A matrix -/

/-- The synthetic configuration of the first candidate. -/
def sampleConfig : MatrixConfig where
  estimatorId := MATRIX_METHOD_ID
  arithmeticProfileId := ARITHMETIC_PROFILE_ID
  assumptions := [literal "independent run clusters"]
  ownerIds := [literal "synthetic-calibration-owner"]
  authorityArtifactId := literal "synthetic-authority"
  authoritySha256 := List.replicate 64 97
  standBudgetArtifactId := literal "synthetic-stand-budget"
  standBudgetSha256 := List.replicate 64 97
  confidenceNumerator := 19
  confidenceDenominator := 20
  acceptanceThresholdNumerator := 19
  acceptanceThresholdDenominator := 20
  familyCellCount := 180
  familyCandidateCount := 5
  plannedBlocks := 1
  plannedRuns := 180
  globalScaleNumerator := 1
  globalScaleDenominator := 1
  candidateIndex := 0

/-- An ID of one letter, none of which is a separator. -/
def letter (n : Fin 180) : PyText := [.ofNat (0x100 + n.val)]

/-- A run of 100 events, none of which found the ring full. -/
def sampleRun (runId sourceId : PyText) : ClusterRun where
  runId := runId
  offeredCount := 100
  fullCount := 0
  sourceArtifactId := some sourceId
  sourceSha256 := some (List.replicate 64 97)
  integrityArtifactId := some (literal "integrity")
  integritySha256 := some (List.replicate 64 97)
  failureArtifactId := none
  failureSha256 := none
  validity := literal "VALID"
  evidencePhase := literal "CALIBRATION"

/-- A cell of one run. -/
def sampleProbe (cellId runId sourceId : PyText) : CellProbe where
  cellId := cellId
  namespaceId := literal "synthetic-feasibility-g1"
  scheduleId := literal "synthetic-schedule"
  scheduleSha256 := List.replicate 64 97
  plannedRunIds := [runId]
  runs := [sampleRun runId sourceId]
  plannedConfirmatoryRuns := 1
  scheduledEventsPerRun := 1

/-- 180 cells, whose runs and sources are named by their cell. -/
def sampleCells (runId sourceId : Fin 180 → PyText) : List CellProbe :=
  (List.finRange 180).map fun n => sampleProbe (letter n) (runId n) (sourceId n)

noncomputable def sampleRuntime : Runtime := ⟨(3, 14), nearestModule, nearestModule⟩

theorem requireId_ok {value : PyText} (h : value ≠ [] ∧ 47 ∉ value) (path : String) :
    requireId value path = .ok () := by
  rw [requireId, if_neg (not_or.mpr h)]
  rfl

theorem requireSha256_ok (path : String) : requireSha256 (List.replicate 64 97) path = .ok () := by
  rw [requireSha256, if_neg (by decide +kernel)]
  rfl

/-- An ID that a sample may use. -/
def Named (id : PyText) : Prop := id ≠ [] ∧ 47 ∉ id

theorem letter_named (n : Fin 180) : Named (letter n) := by
  refine ⟨cons_ne_nil _ _, fun hmem => ?_⟩
  have hvalue := congrArg UInt32.toNat (List.mem_singleton.mp hmem)
  rw [UInt32.toNat_ofNat', Nat.mod_eq_of_lt (by omega)] at hvalue
  have hseparator : (47 : UInt32).toNat = 47 := rfl
  omega

theorem sampleRun_ok {runId sourceId : PyText} (hrun : Named runId) (hsource : Named sourceId)
    (index : Nat) : checkRuns index 0 [sampleRun runId sourceId] = .ok () := by
  have hmissing : missing (some sourceId) = false := by simp [missing, hsource.1]
  have hintegrity : Named (literal "integrity") := ⟨by decide, by decide⟩
  have hpresent : missing (some (literal "integrity")) = false := by decide
  simp only [sampleRun, checkRuns, checkRun, requireId_ok hrun, requireId_ok hsource,
    requireId_ok hintegrity, requireSha256_ok, hmissing, hpresent, ok_bind, ne_eq,
    not_true_eq_false, if_true, if_false, Option.getD_some, reduceCtorEq, or_self,
      Bool.false_eq_true]
  rfl

theorem sampleProbe_ok {cellId runId sourceId : PyText} (hcell : Named cellId) (hrun : Named runId)
    (hsource : Named sourceId) (index : Nat) :
    checkProbe sampleConfig index (sampleProbe cellId runId sourceId) = .ok () := by
  have hnamespace : Named (literal "synthetic-feasibility-g1") := ⟨by decide, by decide⟩
  have hschedule : Named (literal "synthetic-schedule") := ⟨by decide, by decide⟩
  have hruns := sampleRun_ok hrun hsource index
  have hrunId : (sampleRun runId sourceId).runId = runId := rfl
  simp only [checkProbe, sampleProbe, sampleConfig, requireId_ok hcell, requireId_ok hnamespace,
    requireId_ok hschedule, requireSha256_ok, ok_bind, requireExactNonnegative_ok Int.one_nonneg,
    ne_eq, not_true_eq_false, if_false, one_ne_zero, or_self, cons_ne_nil, nodup_singleton,
    requireIds, requireId_ok hrun, map_cons, map_nil,
    mem_singleton, forall_eq, hruns, hrunId]
  rfl

theorem samplePUpper_ok (cellId runId sourceId : PyText) :
    ∃ bound, pUpper sampleRuntime
      ((sampleProbe cellId runId sourceId).runs.map fun run => (run.offeredCount, run.fullCount)) =
        .ok bound := by
  have hcounts : ∀ count ∈ [((100 : Int), (0 : Int))], Countable count := by simp [Countable]
  exact ⟨_, pUpperAt_eq (by decide) sampleRuntime.decimal (by simp) hcounts⟩

theorem sampleProbes_ok (cells : List CellProbe)
    (h : ∀ probe ∈ cells, ∃ cellId runId sourceId, Named cellId ∧ Named runId ∧ Named sourceId ∧
      probe = sampleProbe cellId runId sourceId) :
    ∀ (index : Nat) (t : MatrixTotals),
      ∃ t', addProbes sampleRuntime sampleConfig index t cells = .ok t' := by
  induction cells with
  | nil => exact fun _ t => ⟨t, rfl⟩
  | cons first rest ih =>
      intro index t
      obtain ⟨⟨cellId, runId, sourceId, hcell, hrun, hsource, rfl⟩, hrest⟩ :=
        List.forall_mem_cons.mp h
      obtain ⟨⟨pHat, weights, upper⟩, hupper⟩ := samplePUpper_ok cellId runId sourceId
      rw [addProbes, addProbe, sampleProbe_ok hcell hrun hsource, ok_bind, hupper, ok_bind]
      exact ih hrest _ _

theorem sampleConfig_ok : validateMatrixConfig sampleConfig = .ok () := by
  decide +kernel

theorem letter_injective : Function.Injective letter := by
  intro m n h
  have hvalue := congrArg UInt32.toNat (List.singleton_inj.mp h)
  rw [UInt32.toNat_ofNat', UInt32.toNat_ofNat', Nat.mod_eq_of_lt (by omega),
    Nat.mod_eq_of_lt (by omega)] at hvalue
  exact Fin.ext (by omega)

/-- A sample is accepted, whatever its runs and sources are called. -/
theorem sampleCells_accepted (runId sourceId : Fin 180 → PyText) (hrun : ∀ n, Named (runId n))
    (hsource : ∀ n, Named (sourceId n)) :
    ∃ result, evaluateMatrix sampleRuntime sampleConfig (sampleCells runId sourceId) =
      .ok result := by
  have hlength : (sampleCells runId sourceId).length = ACCEPTED_CELL_COUNT := by
    simp [sampleCells, ACCEPTED_CELL_COUNT]
  have hcells : ((sampleCells runId sourceId).map (·.cellId)).dedup.length =
    ACCEPTED_CELL_COUNT := by
    have hids : (sampleCells runId sourceId).map (·.cellId) = (List.finRange 180).map letter := by
      simp [sampleCells, sampleProbe, Function.comp_def]
    rw [hids, List.dedup_eq_self.mpr ((nodup_finRange 180).map letter_injective)]
    simp [ACCEPTED_CELL_COUNT]
  have hnamespaces : ((sampleCells runId sourceId).map (·.namespaceId)).dedup =
      [literal "synthetic-feasibility-g1"] := by
    have hids : (sampleCells runId sourceId).map (·.namespaceId) =
        List.replicate 180 (literal "synthetic-feasibility-g1") := by
      simp [sampleCells, sampleProbe, Function.comp_def]
    rw [hids, replicate_dedup (by decide)]
  have hprobes : ∀ probe ∈ sampleCells runId sourceId, ∃ cellId runId sourceId, Named cellId ∧
      Named runId ∧ Named sourceId ∧ probe = sampleProbe cellId runId sourceId := by
    intro probe hprobe
    obtain ⟨n, -, rfl⟩ := List.mem_map.mp hprobe
    exact ⟨letter n, runId n, sourceId n, letter_named n, hrun n, hsource n, rfl⟩
  obtain ⟨t, ht⟩ := sampleProbes_ok _ hprobes 0 ⟨[], 0, 0⟩
  rw [evaluateMatrix, sampleConfig_ok, ok_bind, if_neg (not_ne_iff.mpr hlength),
    if_neg (not_ne_iff.mpr hcells)]
  simp only [hnamespaces, length_singleton, ne_eq, not_true_eq_false, if_false, ht, ok_bind]
  exact ⟨_, rfl⟩

theorem sampleCells_runs (runId sourceId : Fin 180 → PyText) :
    allRuns (sampleCells runId sourceId) =
      (List.finRange 180).map fun n => sampleRun (runId n) (sourceId n) := by
  rw [allRuns, sampleCells, flatMap_map]
  exact flatMap_pure_eq_map _ _

theorem sampleCells_sources (runId sourceId : Fin 180 → PyText) :
    citedSources (sampleCells runId sourceId) = (List.finRange 180).map fun n =>
      some (sourceId n) := by
  have hvalid : ∀ run ∈ (List.finRange 180).map fun n => sampleRun (runId n) (sourceId n),
      decide (run.validity = literal "VALID") = true := by
    intro run hrun
    obtain ⟨n, -, rfl⟩ := List.mem_map.mp hrun
    exact decide_eq_true rfl
  rw [citedSources, sampleCells_runs, List.filter_eq_self.mpr hvalid, map_map]
  rfl

theorem not_nodup_const {T : Type} (x : T) : ¬((List.finRange 180).map fun _ => x).Nodup := by
  rw [map_const', length_finRange, nodup_replicate]
  decide

/-- Every cell may cite one and the same run, and one and the same artifact. -/
theorem shared_probe_accepted :
    ∃ result, evaluateMatrix sampleRuntime sampleConfig
        (sampleCells (fun _ => letter 0) (fun _ => letter 0)) = .ok result ∧
      ¬((allRuns (sampleCells (fun _ => letter 0) (fun _ => letter 0))).map (·.runId)).Nodup ∧
      ¬(citedSources (sampleCells (fun _ => letter 0) (fun _ => letter 0))).Nodup := by
  obtain ⟨result, hresult⟩ := sampleCells_accepted (fun _ => letter 0) (fun _ => letter 0)
    (fun _ => letter_named 0) (fun _ => letter_named 0)
  refine ⟨result, hresult, ?_, ?_⟩
  · rw [sampleCells_runs, map_map]
    exact not_nodup_const (letter 0)
  · rw [sampleCells_sources]
    exact not_nodup_const (some (letter 0))

theorem counted_once_iff_sample :
    CountedOnce (sampleCells letter letter) ↔
      PlansDisjoint (sampleCells letter letter) ∧
        (citedSources (sampleCells letter letter)).dedup.length =
          plannedCount (sampleCells letter letter) := by
  obtain ⟨result, hresult⟩ := sampleCells_accepted letter letter letter_named letter_named
  exact counted_once_iff hresult

end CpuPrefetch.Tools.CalibrationStatistics
