/-
What the summaries of a successful analysis are.

Every run has its own summary, and no run is left out: a summary that fails reports something.
The response a complete block takes from the summaries is then a function of the run alone.
-/
import CpuPrefetch.Proofs.Analysis.AdmittedInputs
import CpuPrefetch.Proofs.Orchestration.PlannedBlocks

namespace CpuPrefetch.Analysis

open Protocol Orchestration
open Protocol.Json (CharConv)

variable {F : Type} {conv : CharConv} {sha256 : Text → Sha256} {arith : Binary64 F}
  {run : SyntheticRunInput} {artifacts : List ImmutableArtifact} {summary : RunSummary F}

/-- The quantile a run's response is taken from. -/
def tailQuantile (latencies : List WeightedLatency) : UInt64 :=
  ((registeredQuantiles latencies).map fun quantiles => quantiles.2.2.2).getD 0

/-- The response of a run, by its own latencies. -/
def SyntheticRunInput.response (arith : Binary64 F) (run : SyntheticRunInput) : CellResponse F :=
  ⟨run.package, run.hardwareState, run.placement, run.workingSet, run.load,
    arith.log (arith.ofCount (tailQuantile run.endToEndLatencies))⟩

/-! ### One summary -/

/-- A result that is an error says which. -/
def Reports {T : Type} (result : Result T) : Prop := result ≠ .error []

section Reports

variable {T U : Type}

theorem reports_ok (value : T) : Reports (.ok value : Result T) := nofun

theorem reports_fail (category : ErrorCategory) (path rule message : String) :
    Reports (Load.fail category path rule message : Result T) := nofun

theorem Reports.bind {result : Result T} {next : T → Result U} (h : Reports result)
    (hnext : ∀ value, Reports (next value)) : Reports (result >>= next) :=
  Fallible.bind_ne_error h hnext

theorem Reports.map {result : Result T} (h : Reports result) (f : T → U) :
    Reports (result.map f) := Fallible.map_ne_error h f

end Reports

theorem exactInverseEcdfQuantile_reports (values : List WeightedLatency)
    (numerator denominator : UInt64) :
    Reports (exactInverseEcdfQuantile values numerator denominator) := by
  rw [exactInverseEcdfQuantile]
  repeat' split
  all_goals
    first
      | exact reports_fail _ _ _ _
      | exact reports_ok _

theorem highestQuantile_reports (run : SyntheticRunInput) : Reports (highestQuantile run) := by
  rw [highestQuantile]
  split
  · exact (exactInverseEcdfQuantile_reports _ _ _).map _
  · exact reports_ok _

/-- A run that is not summarized is reported. -/
theorem summarizeRun_reports : Reports (summarizeRun conv sha256 arith run artifacts) := by
  rw [summarizeRun]
  split
  · rename_i hreported
    exact fun herror => hreported (Except.error.inj herror)
  · split
    · exact reports_fail _ _ _ _
    · split
      · exact reports_fail _ _ _ _
      · refine (highestQuantile_reports run).bind fun p9999 => ?_
        split
        · exact reports_fail _ _ _ _
        · exact reports_ok _

/-- What a summary says of its run. -/
theorem summarizeRun_ok (h : summarizeRun conv sha256 arith run artifacts = .ok summary) :
    runErrors conv sha256 run artifacts = [] ∧ summary.runId = run.runId ∧
      summary.logP999 = (run.response arith).logP999 := by
  rw [summarizeRun] at h
  split at h
  · cases h
  · rename_i hclean
    split at h
    · cases h
    · rename_i p50 p90 p99 p999 hquantiles
      have htail : tailQuantile run.endToEndLatencies = p999 := by
        rw [tailQuantile, hquantiles]
        rfl
      split at h
      · cases h
      · obtain ⟨p9999, -, h⟩ := Fallible.bind_ok h
        split at h
        · cases h
        · cases h
          exact ⟨not_not.mp hclean, rfl, by rw [SyntheticRunInput.response, htail]⟩

/-! ### All of them -/

theorem summarizeRuns_nil : summarizeRuns conv sha256 arith artifacts [] = .ok [] := rfl

theorem summarizeRuns_cons {rest : List SyntheticRunInput}
    (h : summarizeRun conv sha256 arith run artifacts = .ok summary) :
    summarizeRuns conv sha256 arith artifacts (run :: rest) =
      (summarizeRuns conv sha256 arith artifacts rest).map (summary :: ·) := by
  simp only [summarizeRuns, List.flatMap_cons, h, List.filterMap_cons, Except.toOption]
  rw [errorsOf, List.nil_append]
  split
  · rfl
  · rfl

theorem summarizeRuns_error {rest : List SyntheticRunInput} {errors : List ValidationError}
    (h : summarizeRun conv sha256 arith run artifacts = .error errors)
    (summaries : List (RunSummary F)) :
    summarizeRuns conv sha256 arith artifacts (run :: rest) ≠ .ok summaries := by
  have hreported : errors ≠ [] := by
    rintro rfl
    exact summarizeRun_reports h
  simp [summarizeRuns, h, errorsOf, hreported]

/-- A successful analysis has one summary for each run, in their order. -/
theorem summarizeRuns_ok {runs : List SyntheticRunInput} {summaries : List (RunSummary F)} :
    summarizeRuns conv sha256 arith artifacts runs = .ok summaries ↔
      List.Forall₂ (fun run summary => summarizeRun conv sha256 arith run artifacts = .ok summary)
        runs summaries := by
  induction runs generalizing summaries with
  | nil =>
      rw [List.forall₂_nil_left_iff, summarizeRuns_nil, Except.ok.injEq]
      exact eq_comm
  | cons run rest ih =>
      rw [List.forall₂_cons_left_iff]
      cases hrun : summarizeRun conv sha256 arith run artifacts with
      | error errors =>
          refine iff_of_false (summarizeRuns_error hrun _) ?_
          rintro ⟨_, _, hsummary, -⟩
          cases hsummary
      | ok summary =>
          rw [summarizeRuns_cons hrun]
          constructor
          · intro hall
            obtain ⟨others, hothers, rfl⟩ := Fallible.map_ok hall
            exact ⟨summary, others, rfl, ih.mp hothers, rfl⟩
          · rintro ⟨first, others, hfirst, hothers, rfl⟩
            rw [ih.mpr hothers, ← Except.ok.inj hfirst]
            rfl

theorem summarizeRuns_length {runs : List SyntheticRunInput} {summaries : List (RunSummary F)}
    (h : summarizeRuns conv sha256 arith artifacts runs = .ok summaries) :
    summaries.length = runs.length :=
  (summarizeRuns_ok.mp h).length_eq.symm

/-! ### The responses of a block -/

section Responses

variable {input : AnalysisInput F} {summaries : List (RunSummary F)}

/-- The first summary of a run is its own. -/
theorem cellResponse_eq (hids : (input.runs.map SyntheticRunInput.runId).Nodup)
    (h : summarizeRuns conv sha256 arith input.artifacts input.runs = .ok summaries)
    (hrun : run ∈ input.runs) : cellResponse arith summaries run = run.response arith := by
  have heach := summarizeRuns_ok.mp h
  have hsame : summaries.map RunSummary.runId = input.runs.map SyntheticRunInput.runId :=
    forall₂_map heach fun _ _ hsummary => (summarizeRun_ok hsummary).2.1
  obtain ⟨place, hplace, rfl⟩ := List.getElem_of_mem hrun
  have hlength : place < summaries.length := heach.length_eq ▸ hplace
  have hsummary := heach.get hplace hlength
  obtain ⟨-, hid, hlog⟩ := summarizeRun_ok hsummary
  have hfound : summaries.find? (fun summary => summary.runId = (input.runs[place]).runId) =
      some summaries[place] :=
    (Keyed.find_eq_some_iff (hsame ▸ hids)).mpr ⟨List.getElem_mem hlength, hid⟩
  rw [cellResponse, hfound, SyntheticRunInput.response]
  simp only [Option.map_some, Option.getD_some, CellResponse.mk.injEq, true_and]
  exact hlog

/-- A block's responses, by its own runs. -/
def blockResponse (arith : Binary64 F) (runs : List SyntheticRunInput) (block : BlockInput) :
    CompleteBlockResponse F :=
  ⟨block.plan.blockId, block.plan.blockRole,
    (runsOf runs block.plan.blockId).map (SyntheticRunInput.response arith)⟩

theorem primaryBlocks_eq (hids : (input.runs.map SyntheticRunInput.runId).Nodup)
    (h : summarizeRuns conv sha256 arith input.artifacts input.runs = .ok summaries) :
    primaryBlocks arith summaries input.runs input.blocks =
      (input.blocks.filter BlockInput.activePrimary).map (blockResponse arith input.runs) := by
  rw [primaryBlocks]
  refine List.map_congr_left fun block _ => ?_
  rw [responseOf, blockResponse]
  congr 1
  refine List.map_congr_left fun run hrun => ?_
  exact cellResponse_eq hids h (List.mem_of_mem_filter hrun)

end Responses

end CpuPrefetch.Analysis
