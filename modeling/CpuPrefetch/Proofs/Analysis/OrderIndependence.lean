/-
The outcome of an analysis is the same in every order of its runs and artifacts.

A rearranged input comes through the same checks to the same blocks, up to the order of their
cells.  The results then differ in one place: the receipts of the selection list its sources as
the runs came, and the report only counts them.
-/
import CpuPrefetch.Proofs.Analysis.Presentation
import CpuPrefetch.Proofs.Analysis.Studies

namespace CpuPrefetch.Analysis

open List
open Protocol Orchestration
open Protocol.Json (CharConv)
open Protocol.Load (ArtifactReference)

variable {F : Type} {conv : CharConv} {sha256 : Text → Sha256} {arith : Binary64 F}
  {input : AnalysisInput F} {runs : List SyntheticRunInput} {artifacts : List ImmutableArtifact}

/-! ### The active blocks -/

def activeBlocks (input : AnalysisInput F) : List BlockInput :=
  input.blocks.filter BlockInput.activePrimary

/-- The responses of the active blocks, by their runs. -/
def activeResponses (arith : Binary64 F) (input : AnalysisInput F) :
    List (CompleteBlockResponse F) :=
  (activeBlocks input).map (blockResponse arith input.runs)

theorem activeResponses_rearranged (hruns : input.runs.Perm runs) :
    AllReordered (activeResponses arith input)
      (activeResponses arith (input.rearranged runs artifacts)) := by
  rw [AllReordered, activeResponses, activeResponses, forall₂_map_left_iff,
    forall₂_map_right_iff]
  exact List.forall₂_same.mpr fun block _ =>
    ⟨rfl, rfl, (runsOf_perm hruns block.plan.blockId).map _⟩

theorem incompleteBlock_rearranged (hruns : input.runs.Perm runs) :
    incompleteBlock (input.rearranged runs artifacts) = incompleteBlock input := by
  simp only [incompleteBlock, AnalysisInput.rearranged, (runsOf_perm hruns.symm _).any_eq]

theorem gateBlocked_rearranged (hruns : input.runs.Perm runs) :
    gateBlocked (input.rearranged runs artifacts) = gateBlocked input := by
  simp only [gateBlocked, AnalysisInput.rearranged, (runsOf_perm hruns.symm _).any_eq]

/-! ### The sources of the selection -/

variable {summaries : List (RunSummary F)}

/-- The runs of a successful analysis that have a joined artifact in common have one reference. -/
theorem joined_unique
    (h : summarizeRuns conv sha256 arith input.artifacts input.runs = .ok summaries)
    {run other : SyntheticRunInput} (hrun : run ∈ input.runs) (hother : other ∈ input.runs)
    (hid : run.joinedArtifact.artifactId.val = other.joinedArtifact.artifactId.val) :
    run.joinedArtifact = other.joinedArtifact := by
  have heach := forall₂_iff_exists.mp ⟨summaries, summarizeRuns_ok.mp h⟩
  have hjoined : ∀ run ∈ input.runs, holds sha256 input.artifacts run.joinedArtifact
      (canonicalSyntheticLatencyPayload conv run.runId run.endToEndLatencies) = true := by
    intro run hrun
    obtain ⟨summary, hsummary⟩ := heach run hrun
    obtain ⟨hclean, -⟩ := summarizeRun_ok hsummary
    simp only [runErrors, evidenceErrors, append_eq_nil_iff, require_eq_nil] at hclean
    obtain ⟨⟨⟨⟨⟨⟨⟨⟨-, ⟨-, hholds⟩, -⟩, -⟩, -⟩, -⟩, -⟩, -⟩, -⟩, -⟩ := hclean
    exact hholds
  exact eq_of_holds (hjoined run hrun) (hjoined other hother) hid

variable {sources : List ArtifactReference}

theorem sortedSources_perm {sources' : List ArtifactReference} (hperm : sources.Perm sources')
    (h : ∀ first ∈ sources, ∀ second ∈ sources, first.artifactId.val = second.artifactId.val →
      first = second) : sortedSources sources = sortedSources sources' :=
  Keyed.insertionSort_eq (· ≤ ·) (fun source : ArtifactReference => source.artifactId.val)
    List.le_total (fun _ _ _ => List.le_trans) (fun _ _ => List.le_antisymm) hperm h

/-- The sources of the selection that is made of these blocks. -/
def selectionSources (input : AnalysisInput F) (blocks : List (CompleteBlockResponse F)) :
    List ArtifactReference :=
  trainingSourcesOf ((blocksWithRole blocks .h3Train).map CompleteBlockResponse.blockId) input.runs

variable {blocks : List (CompleteBlockResponse F)}

/-- In whatever order they come, the sources of a selection are sorted the same. -/
theorem sortedSelection_perm
    (h : summarizeRuns conv sha256 arith input.artifacts input.runs = .ok summaries)
    (hperm : (selectionSources input blocks).Perm sources) :
    sortedSources (selectionSources input blocks) = sortedSources sources := by
  refine sortedSources_perm hperm ?_
  intro first hfirst second hsecond hid
  obtain ⟨run, hrun, rfl⟩ := List.mem_map.mp hfirst
  obtain ⟨other, hother, rfl⟩ := List.mem_map.mp hsecond
  exact joined_unique h (mem_of_mem_filter hrun) (mem_of_mem_filter hother) hid

theorem sortedArtifacts_perm (hperm : input.artifacts.Perm artifacts)
    (hids : (input.artifacts.map ImmutableArtifact.id).Nodup) :
    sortedArtifacts input.artifacts = sortedArtifacts artifacts :=
  congrArg (List.map ImmutableArtifact.reference) <|
    Keyed.insertionSort_eq (· ≤ ·) ImmutableArtifact.id List.le_total
      (fun _ _ _ => List.le_trans) (fun _ _ => List.le_antisymm) hperm
      fun _ hfirst _ hsecond hid => inj_on_of_nodup_map hids hfirst hsecond hid

/-! ### The results -/

/-- Results that only differ in the order of what a receipt lists. -/
structure SameResults (results results' : AnalysisResults F) : Prop where
  state : results.state = results'.state
  h1 : results.h1 = results'.h1
  h2 : results.h2 = results'.h2
  selection : results.selection = results'.selection
  h3 : results.h3 = results'.h3
  receipts : results.stages.map receiptValue = results'.stages.map receiptValue

theorem SameResults.refl (results : AnalysisResults F) : SameResults results results :=
  ⟨rfl, rfl, rfl, rfl, rfl, rfl⟩

/-- Either the same failure, or results that are the same. -/
def SameOutcomes (outcome outcome' : Outcome (AnalysisResults F)) : Prop :=
  (∃ failure, outcome = .error failure ∧ outcome' = .error failure) ∨
    ∃ results results', outcome = .ok results ∧ outcome' = .ok results' ∧
      SameResults results results'

variable {results results' : AnalysisResults F}

theorem SameOutcomes.ok (h : SameResults results results') :
    SameOutcomes (.ok results) (.ok results') := Or.inr ⟨results, results', rfl, rfl, h⟩

/-- After the same step, the same outcomes. -/
theorem SameOutcomes.bind {T : Type} {step : Outcome T}
    {next next' : T → Outcome (AnalysisResults F)}
    (h : ∀ value, SameOutcomes (next value) (next' value)) :
    SameOutcomes (step >>= next) (step >>= next') := by
  cases step with
  | error failure => exact Or.inl ⟨failure, rfl, rfl⟩
  | ok value => exact h value

theorem receiptValue_perm {stage : AnalysisStage} {sources' : List ArtifactReference}
    (h : sources.Perm sources') :
    receiptValue (receipt stage sources) = receiptValue (receipt stage sources') := by
  simp only [receiptValue, receipt, h.length_eq]

variable {blocks' : List (CompleteBlockResponse F)}

/-- Under one configuration, the same blocks and the same sources come to the same. -/
theorem inferences_same {input' : AnalysisInput F}
    (hconfiguration : input'.configuration = input.configuration)
    (hblocks : AllReordered blocks blocks')
    (hsources : (selectionSources input blocks).Perm (selectionSources input' blocks'))
    (hsorted : sortedSources (selectionSources input blocks) =
      sortedSources (selectionSources input' blocks')) :
    SameOutcomes (inferences conv sha256 arith input blocks)
      (inferences conv sha256 arith input' blocks') := by
  have htraining := hblocks.withRole .h3Train
  simp only [selectionSources] at hsources hsorted
  simp only [inferences, hconfiguration]
  rw [selectH3Training_congr htraining.sameCandidates hsources.isEmpty_eq hsorted,
    hblocks.contrastVectors]
  refine SameOutcomes.bind fun selection => ?_
  rw [(hblocks.withRole .h3Validation).evaluateH3Validation]
  refine SameOutcomes.bind fun h3 => SameOutcomes.bind fun vectors =>
    SameOutcomes.bind fun families => SameOutcomes.ok ⟨rfl, rfl, rfl, rfl, rfl, ?_⟩
  simp only [map_append, map_cons, receiptValue_perm hsources]
  rfl

theorem resultsOf_rearranged (hblocks : AllReordered blocks blocks')
    (hruns : input.runs.Perm runs)
    (hsummaries : summarizeRuns conv sha256 arith input.artifacts input.runs = .ok summaries) :
    SameOutcomes (resultsOf conv sha256 arith input blocks)
      (resultsOf conv sha256 arith (input.rearranged runs artifacts) blocks') := by
  have hsources : (selectionSources input blocks).Perm
      (selectionSources (input.rearranged runs artifacts) blocks') := by
    rw [selectionSources, selectionSources, (hblocks.withRole .h3Train).ids]
    exact (hruns.filter _).map _
  have hsorted := sortedSelection_perm hsummaries hsources
  rw [resultsOf, resultsOf, gateBlocked_rearranged hruns]
  split
  · exact SameOutcomes.ok (SameResults.refl _)
  · exact inferences_same rfl hblocks hsources hsorted

/-! ### The reports -/

theorem sealedReport_rearranged (h : SameResults results results')
    (hartifacts : input.artifacts.Perm artifacts)
    (hids : (input.artifacts.map ImmutableArtifact.id).Nodup) (summaryCount blockCount : Nat)
    (configurationHash : Sha256) :
    sealedReport conv sha256 arith input results summaryCount blockCount configurationHash =
      sealedReport conv sha256 arith (input.rearranged runs artifacts) results' summaryCount
        blockCount configurationHash := by
  have hreport : buildMachineReport conv arith input.configuration results summaryCount blockCount
      input.artifacts configurationHash =
        buildMachineReport conv arith input.configuration results' summaryCount blockCount artifacts
          configurationHash := by
    funext outputHash
    simp only [buildMachineReport, h.state, h.h1, h.h2, h.selection, h.h3, h.receipts,
      sortedArtifacts_perm hartifacts hids]
  simp only [sealedReport, AnalysisInput.rearranged, hreport]

/-- What of an analysis is reported: its two reports and their digests, and its results. -/
structure Reported (F : Type) where
  state : InferenceState
  h1 : Option (MaxTResult F)
  h2 : Option (MaxTResult F)
  selection : Option H3SelectionRecord
  h3 : Option (H3ValidationResult F)
  machineReportJson : Text
  humanReportMarkdown : String
  configurationSha256 : Sha256
  outputSha256 : Sha256

def AnalysisOutput.reported (output : AnalysisOutput F) : Reported F :=
  ⟨output.state, output.h1, output.h2, output.selection, output.h3, output.machineReportJson,
    output.humanReportMarkdown, output.configurationSha256, output.outputSha256⟩

theorem reportAnalysis_rearranged {summaries' : List (RunSummary F)}
    (h : SameResults results results') (hsummaries : summaries.length = summaries'.length)
    (hblocks : blocks.length = blocks'.length) (hartifacts : input.artifacts.Perm artifacts)
    (hids : (input.artifacts.map ImmutableArtifact.id).Nodup) :
    (reportAnalysis conv sha256 arith input summaries blocks results).toOption.map
        AnalysisOutput.reported =
      (reportAnalysis conv sha256 arith (input.rearranged runs artifacts) summaries' blocks'
        results').toOption.map AnalysisOutput.reported := by
  have hconfiguration : (input.rearranged runs artifacts).configuration = input.configuration := rfl
  have hsealed : ∀ configurationHash,
      sealedReport conv sha256 arith input results summaries'.length blocks'.length
          configurationHash =
        sealedReport conv sha256 arith (input.rearranged runs artifacts) results' summaries'.length
          blocks'.length configurationHash := fun configurationHash =>
    sealedReport_rearranged h hartifacts hids _ _ configurationHash
  simp only [reportAnalysis, hconfiguration, hsummaries, hblocks, hsealed, h.state, h.h1, h.h2,
    h.selection, h.h3]
  cases canonicalConfiguration conv arith input.configuration with
  | error errors => simp only [Fallible.error_bind, Except.toOption, Option.map_none]
  | ok bytes =>
      simp only [Fallible.ok_bind]
      cases sealedReport conv sha256 arith (input.rearranged runs artifacts) results'
          summaries'.length blocks'.length (sha256 bytes) with
      | error errors => simp only [Fallible.error_bind, Except.toOption, Option.map_none]
      | ok report =>
          simp only [Fallible.ok_bind, Except.toOption, Option.map_some, AnalysisOutput.reported]

theorem toOption_of {T : Type} (result : Result T) :
    (Outcome.of result).toOption = result.toOption := by
  cases result with
  | ok value => rfl
  | error errors => rfl

/-- After the summaries, whose number alone is reported, the same outcome in every order. -/
theorem analyzeSummaries_rearranged {summaries' : List (RunSummary F)}
    (hinput : Admitted conv sha256 arith input) (hruns : input.runs.Perm runs)
    (hartifacts : input.artifacts.Perm artifacts)
    (hsummaries : summarizeRuns conv sha256 arith input.artifacts input.runs = .ok summaries)
    (hsummaries' : summarizeRuns conv sha256 arith artifacts runs = .ok summaries') :
    (analyzeSummaries conv sha256 arith input summaries).toOption.map AnalysisOutput.reported =
      (analyzeSummaries conv sha256 arith (input.rearranged runs artifacts)
        summaries').toOption.map AnalysisOutput.reported := by
  have hinput' := hinput.rearranged hruns hartifacts
  have hblocks : AllReordered (primaryBlocks arith summaries input.runs input.blocks)
      (primaryBlocks arith summaries' runs input.blocks) := by
    have hblocks' : primaryBlocks arith summaries' runs input.blocks =
        activeResponses arith (input.rearranged runs artifacts) :=
      primaryBlocks_eq hinput'.runIds hsummaries'
    rw [primaryBlocks_eq hinput.runIds hsummaries, hblocks']
    exact activeResponses_rearranged hruns
  have hlength : summaries.length = summaries'.length := by
    rw [summarizeRuns_length hsummaries, summarizeRuns_length hsummaries', hruns.length_eq]
  simp only [analyzeSummaries, incompleteBlock_rearranged hruns]
  split
  · rfl
  · have hsame : SameOutcomes
        (resultsOf conv sha256 arith input (primaryBlocks arith summaries input.runs input.blocks))
        (resultsOf conv sha256 arith (input.rearranged runs artifacts)
          (primaryBlocks arith summaries' runs input.blocks)) :=
      resultsOf_rearranged hblocks hruns hsummaries
    have hrearranged : primaryBlocks arith summaries' (input.rearranged runs artifacts).runs
        (input.rearranged runs artifacts).blocks =
          primaryBlocks arith summaries' runs input.blocks := rfl
    rw [hrearranged]
    rcases hsame with ⟨failure, hfirst, hsecond⟩ | ⟨results, results', hfirst, hsecond, hresults⟩
    · rw [hfirst, hsecond, Fallible.error_bind, Fallible.error_bind]
    · rw [hfirst, hsecond, Fallible.ok_bind, Fallible.ok_bind, toOption_of, toOption_of]
      exact reportAnalysis_rearranged hresults hlength hblocks.length_eq hartifacts
        hinput.artifactIds

/-- **In every order of its runs and artifacts an analysis succeeds alike, and reports
the same.** -/
theorem analysis_order_irrelevant (hruns : input.runs.Perm runs)
    (hartifacts : input.artifacts.Perm artifacts) :
    (runSyntheticAnalysis conv sha256 arith input).toOption.map AnalysisOutput.reported =
      (runSyntheticAnalysis conv sha256 arith (input.rearranged runs artifacts)).toOption.map
        AnalysisOutput.reported := by
  have hadmitted : inputErrors conv sha256 arith (input.rearranged runs artifacts) = [] ↔
      inputErrors conv sha256 arith input = [] := by
    rw [inputErrors_eq_nil, inputErrors_eq_nil]
    exact admitted_rearranged hruns hartifacts
  have hruns' : (input.rearranged runs artifacts).runs = runs := rfl
  have hartifacts' : (input.rearranged runs artifacts).artifacts = artifacts := rfl
  rw [runSyntheticAnalysis, runSyntheticAnalysis, hruns', hartifacts']
  by_cases hclean : inputErrors conv sha256 arith input = []
  · simp only [hadmitted.mpr hclean, hclean, ne_eq, not_true_eq_false, if_false]
    have hinput := inputErrors_eq_nil.mp hclean
    have hfind := findArtifact_perm hartifacts hinput.artifactIds
    cases hsummaries : summarizeRuns conv sha256 arith input.artifacts input.runs with
    | error errors =>
        cases hsummaries' : summarizeRuns conv sha256 arith artifacts runs with
        | error errors' => simp only [Except.toOption, Option.map_none]
        | ok summaries' =>
            obtain ⟨summaries, hsome, -⟩ :=
              summarizeRuns_rearranged hfind.symm hruns.symm hsummaries'
            rw [hsummaries] at hsome
            cases hsome
    | ok summaries =>
        obtain ⟨summaries', hsummaries', -⟩ := summarizeRuns_rearranged hfind hruns hsummaries
        rw [hsummaries']
        exact analyzeSummaries_rearranged hinput hruns hartifacts hsummaries hsummaries'
  · simp only [mt hadmitted.mp hclean, hclean, ne_eq, not_false_eq_true, if_true,
      Except.toOption, Option.map_none]

/-- The sample is reported the same with its runs and artifacts the other way round. -/
theorem analysis_order_sample : ∃ output,
    runSyntheticAnalysis noNumbers firstBytes flat (Study.sample 1 (by decide)).input = .ok output ∧
      (runSyntheticAnalysis noNumbers firstBytes flat ((Study.sample 1 (by decide)).input.rearranged
        (Study.sample 1 (by decide)).input.runs.reverse
        (Study.sample 1 (by decide)).input.artifacts.reverse)).toOption.map
          AnalysisOutput.reported =
        some output.reported := by
  obtain ⟨output, h, -⟩ := (Study.sample 1 (by decide)).analyzed
  have hreported := @analysis_order_irrelevant _ noNumbers firstBytes flat
    (Study.sample 1 (by decide)).input _ _ (reverse_perm _).symm (reverse_perm _).symm
  exact ⟨output, h, hreported.symm.trans
    (congrArg (fun outcome => outcome.toOption.map AnalysisOutput.reported) h)⟩

end CpuPrefetch.Analysis
