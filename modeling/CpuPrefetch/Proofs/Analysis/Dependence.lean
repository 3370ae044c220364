/-
What the outcome of an analysis rests on.

An analysis that succeeds has no invalid run in an active block.  Whether anything is inferred is
decided by the runs of the active blocks alone, and so is everything that is.  A selection rests on
less: the blocks it is made of carry every load, but what a candidate's response reads of them is
one run of one training block at half load.
-/
import CpuPrefetch.Proofs.Analysis.OrderIndependence

namespace CpuPrefetch.Analysis

open List Study
open Protocol Orchestration
open Protocol.Json (CharConv)
open Protocol.Load (ArtifactReference)

variable {F : Type} {conv : CharConv} {sha256 : Text → Sha256} {arith : Binary64 F}
  {input input' : AnalysisInput F} {output output' : AnalysisOutput F}

/-! ### Runs of active blocks -/

/-- The run is one of an active block. -/
def OfActive (input : AnalysisInput F) (run : SyntheticRunInput) : Prop :=
  ∃ block ∈ input.blocks, block.activePrimary = true ∧ run.blockId = block.plan.blockId

/-- The runs of the active blocks, in the order of the input. -/
def activeRuns (input : AnalysisInput F) : List SyntheticRunInput :=
  input.runs.filter fun run => run.blockId ∈ activeIds input.blocks none

theorem mem_activeIds {blocks : List BlockInput} {id : BlockId} :
    id ∈ activeIds blocks none ↔
      ∃ block ∈ blocks, block.activePrimary = true ∧ id = block.plan.blockId := by
  simp only [activeIds, Option.all_none, Bool.and_true, mem_map, mem_filter]
  constructor
  · rintro ⟨block, ⟨hblock, hactive⟩, rfl⟩
    exact ⟨block, hblock, hactive, rfl⟩
  · rintro ⟨block, hblock, hactive, rfl⟩
    exact ⟨block, ⟨hblock, hactive⟩, rfl⟩

theorem mem_activeRuns {run : SyntheticRunInput} :
    run ∈ activeRuns input ↔ run ∈ input.runs ∧ OfActive input run := by
  rw [activeRuns, mem_filter, decide_eq_true_eq, mem_activeIds]
  rfl

/-- The runs of an active block are active runs. -/
theorem runsOf_active {block : BlockInput} (hblock : block ∈ input.blocks)
    (hactive : block.activePrimary = true) :
    runsOf input.runs block.plan.blockId = runsOf (activeRuns input) block.plan.blockId := by
  have hid : block.plan.blockId ∈ activeIds input.blocks none :=
    mem_activeIds.mpr ⟨block, hblock, hactive, rfl⟩
  rw [runsOf, runsOf, activeRuns, filter_filter]
  refine filter_congr fun run _ => ?_
  by_cases hrun : run.blockId = block.plan.blockId
  · simp [hrun, hid]
  · simp [hrun]

/-- A property some run of some active block has. -/
theorem any_active {p : SyntheticRunInput → Bool} :
    (input.blocks.any fun block =>
      block.activePrimary && (runsOf input.runs block.plan.blockId).any p) = true ↔
      ∃ run ∈ activeRuns input, p run = true := by
  simp only [any_eq_true, Bool.and_eq_true, runsOf, mem_filter, decide_eq_true_eq,
    mem_activeRuns]
  constructor
  · rintro ⟨block, hblock, hactive, run, ⟨hrun, hid⟩, hp⟩
    exact ⟨run, ⟨hrun, block, hblock, hactive, hid⟩, hp⟩
  · rintro ⟨run, ⟨hrun, block, hblock, hactive, hid⟩, hp⟩
    exact ⟨block, hblock, hactive, run, ⟨hrun, hid⟩, hp⟩

/-! ### What is inferred -/

/-- The stages, in the documented order. -/
def documentedStages : List AnalysisStage :=
  [.artifactValidation, .reconciliationVerification, .intervalDerivation, .runGates, .runSummaries,
    .completeBlocks, .h3Training, .selectionFreeze, .validationUnseal, .h3Validation, .h3Evaluation,
    .h1h2Release, .h1h2Analysis, .reporting]

/-- The stages of an analysis that infers nothing. -/
def blockedStages : List AnalysisStage :=
  [.artifactValidation, .reconciliationVerification, .intervalDerivation, .runGates, .runSummaries,
    .completeBlocks, .reporting]

/-- What comes of inferences that go through. -/
structure Inferred (conv : CharConv) (sha256 : Text → Sha256) (arith : Binary64 F)
    (input : AnalysisInput F) (blocks : List (CompleteBlockResponse F))
    (results : AnalysisResults F) : Prop where
  state : results.state = .estimable
  h1 : results.h1.isSome = true
  h2 : results.h2.isSome = true
  h3 : results.h3.isSome = true
  selected : ∃ selection, results.selection = some selection ∧
    selectH3Training arith conv sha256 (blocksWithRole blocks .h3Train)
      (selectionSources input blocks) = .ok selection
  contrasted : ∃ vectors, contrastVectors arith blocks = .ok vectors
  stages : results.stages.map StageReceipt.stage = documentedStages

variable {results : AnalysisResults F}

theorem inferences_ok {blocks : List (CompleteBlockResponse F)}
    (h : inferences conv sha256 arith input blocks = .ok results) :
    Inferred conv sha256 arith input blocks results := by
  rw [inferences] at h
  obtain ⟨selection, hselection, h⟩ := Fallible.bind_ok h
  obtain ⟨h3, -, h⟩ := Fallible.bind_ok h
  obtain ⟨vectors, hvectors, h⟩ := Fallible.bind_ok h
  obtain ⟨families, -, h⟩ := Fallible.bind_ok h
  cases h
  exact ⟨rfl, rfl, rfl, rfl, ⟨selection, rfl, hselection⟩, ⟨vectors, hvectors⟩, rfl⟩

/-- What an output has of its inferences, by its state. -/
structure Gated (input : AnalysisInput F) (output : AnalysisOutput F) : Prop where
  valid : ∀ run ∈ input.runs, OfActive input run → run.validity ≠ .invalid
  estimable : output.state = .estimable ↔
    ∀ run ∈ input.runs, OfActive input run → run.fullCount = 0 ∧ 200000 ≤ run.nEffP999
  inferred : output.state = .estimable → output.selection.isSome = true ∧
    output.h1.isSome = true ∧ output.h2.isSome = true ∧ output.h3.isSome = true ∧
    output.stages.map StageReceipt.stage = documentedStages
  withheld : output.state = .blocked → output.selection = none ∧ output.h1 = none ∧
    output.h2 = none ∧ output.h3 = none ∧
    output.stages.map StageReceipt.stage = blockedStages

theorem gateFailed_iff {run : SyntheticRunInput} :
    gateFailed run = false ↔ run.fullCount = 0 ∧ 200000 ≤ run.nEffP999 := by
  simp [gateFailed]

theorem Succeeded.gated (h : Succeeded conv sha256 arith input output results) :
    Gated input output := by
  have hvalid : ∀ run ∈ input.runs, OfActive input run → run.validity ≠ .invalid := by
    intro run hrun hactive hinvalid
    have hany : incompleteBlock input = true :=
      any_active.mpr
        ⟨run, mem_activeRuns.mpr ⟨hrun, hactive⟩, by simp [invalidRun, hinvalid]⟩
    rw [h.complete] at hany
    cases hany
  have hinferred := h.inferred
  rw [resultsOf] at hinferred
  cases hgate : gateBlocked input with
  | true =>
      rw [if_pos hgate] at hinferred
      obtain rfl := Except.ok.inj hinferred
      have hblocked : output.state = .blocked := h.state
      refine ⟨hvalid, ?_, ?_, ?_⟩
      · refine iff_of_false (by simp [hblocked]) fun hall => ?_
        obtain ⟨run, hmem, hfailed⟩ := any_active.mp hgate
        obtain ⟨hrun, hactive⟩ := mem_activeRuns.mp hmem
        rw [gateFailed_iff.mpr (hall run hrun hactive)] at hfailed
        cases hfailed
      · intro hestimable
        rw [hblocked] at hestimable
        cases hestimable
      · intro _
        exact ⟨h.selection, h.families.1, h.families.2, h.evaluation, by rw [h.stages]; rfl⟩
  | false =>
      rw [if_neg (by simp [hgate])] at hinferred
      have hresults := inferences_ok hinferred
      obtain ⟨selection, hselection, -⟩ := hresults.selected
      have hestimable : output.state = .estimable := h.state.trans hresults.state
      refine ⟨hvalid, ?_, ?_, ?_⟩
      · refine iff_of_true hestimable fun run hrun hactive => ?_
        rw [← gateFailed_iff, ← Bool.not_eq_true]
        intro hfailed
        have hany : gateBlocked input = true := any_active.mpr
          ⟨run, mem_activeRuns.mpr ⟨hrun, hactive⟩, hfailed⟩
        rw [hgate] at hany
        cases hany
      · intro _
        rw [h.selection, h.families.1, h.families.2, h.evaluation, h.stages, hselection]
        exact ⟨rfl, hresults.h1, hresults.h2, hresults.h3, hresults.stages⟩
      · intro hblocked
        rw [hestimable] at hblocked
        cases hblocked

/-! ### Inactive blocks -/

/-- Two inputs with the same active blocks and the same runs in them; their inactive blocks, the
runs of these and the artifacts may be any. -/
structure SameActive (input input' : AnalysisInput F) : Prop where
  blocks : activeBlocks input' = activeBlocks input
  configuration : input'.configuration = input.configuration
  runs : activeRuns input' = activeRuns input

theorem activeIds_none :
    activeIds input.blocks none = (activeBlocks input).map fun block => block.plan.blockId := by
  simp only [activeIds, activeBlocks, Option.all_none, Bool.and_true]

theorem SameActive.runsOf (h : SameActive input input') {block : BlockInput}
    (hblock : block ∈ activeBlocks input) :
    runsOf input'.runs block.plan.blockId = runsOf input.runs block.plan.blockId := by
  obtain ⟨hmem, hactive⟩ := List.mem_filter.mp hblock
  obtain ⟨hmem', -⟩ := List.mem_filter.mp (h.blocks ▸ hblock)
  rw [runsOf_active hmem' hactive, runsOf_active hmem hactive, h.runs]

theorem SameActive.gateBlocked (h : SameActive input input') :
    gateBlocked input' = gateBlocked input := by
  rw [Analysis.gateBlocked, Analysis.gateBlocked, Bool.eq_iff_iff, any_active, any_active, h.runs]

theorem SameActive.responses (h : SameActive input input') :
    activeResponses arith input' = activeResponses arith input := by
  rw [activeResponses, activeResponses, h.blocks]
  refine map_congr_left fun block hblock => ?_
  rw [blockResponse, blockResponse, h.runsOf hblock]

theorem SameActive.sources (h : SameActive input input') :
    selectionSources input' (activeResponses arith input) =
      selectionSources input (activeResponses arith input) := by
  have hactive : ∀ input : AnalysisInput F, ∀ ids : List BlockId,
      (∀ id ∈ ids, id ∈ activeIds input.blocks none) →
      trainingSourcesOf ids input.runs = trainingSourcesOf ids (activeRuns input) := by
    intro input ids hids
    rw [trainingSourcesOf, trainingSourcesOf, activeRuns, filter_filter]
    congr 1
    refine filter_congr fun run _ => ?_
    by_cases hrun : run.blockId ∈ ids
    · simp [hids _ hrun]
    · simp [hrun]
  have hids : ∀ id ∈ (blocksWithRole (activeResponses arith input) .h3Train).map
      CompleteBlockResponse.blockId, id ∈ activeIds input.blocks none := by
    intro id hid
    obtain ⟨response, hresponse, rfl⟩ := List.mem_map.mp hid
    obtain ⟨block, hblock, rfl⟩ := List.mem_map.mp (mem_of_mem_filter hresponse)
    rw [activeIds_none]
    exact mem_map_of_mem hblock
  have hsame : activeIds input'.blocks none = activeIds input.blocks none := by
    rw [activeIds_none, activeIds_none, h.blocks]
  rw [selectionSources, selectionSources, hactive input _ hids, hactive input' _ (hsame ▸ hids),
    h.runs]

/-- **What is inferred is gated by the runs of the active blocks, and rests on nothing else.** -/
theorem analysis_gated (h : runSyntheticAnalysis conv sha256 arith input = .ok output) :
    Gated input output ∧ ∀ input' output', SameActive input input' →
      runSyntheticAnalysis conv sha256 arith input' = .ok output' →
      output'.state = output.state ∧ output'.selection = output.selection ∧
        output'.h1 = output.h1 ∧ output'.h2 = output.h2 ∧ output'.h3 = output.h3 := by
  obtain ⟨results, hsucceeded⟩ := runSyntheticAnalysis_ok h
  refine ⟨hsucceeded.gated, fun input' output' hsame h' => ?_⟩
  obtain ⟨results', hsucceeded'⟩ := runSyntheticAnalysis_ok h'
  have hresults := hsucceeded.inferred
  rw [primaryBlocks_eq hsucceeded.admitted.runIds hsucceeded.summarized] at hresults
  have hresults' := hsucceeded'.inferred
  rw [primaryBlocks_eq hsucceeded'.admitted.runIds hsucceeded'.summarized] at hresults'
  change resultsOf conv sha256 arith input (activeResponses arith input) = _ at hresults
  change resultsOf conv sha256 arith input' (activeResponses arith input') = _ at hresults'
  have houtcomes : SameOutcomes (resultsOf conv sha256 arith input (activeResponses arith input))
      (resultsOf conv sha256 arith input' (activeResponses arith input')) := by
    rw [resultsOf, resultsOf, hsame.gateBlocked, hsame.responses]
    split
    · exact SameOutcomes.ok (SameResults.refl _)
    · refine inferences_same hsame.configuration ?_ ?_ ?_
      · exact List.forall₂_same.mpr fun block _ => ⟨rfl, rfl, List.Perm.refl _⟩
      · rw [hsame.sources]
      · rw [hsame.sources]
  rw [hresults, hresults'] at houtcomes
  rcases houtcomes with ⟨failure, hfailure, -⟩ | ⟨first, second, hfirst, hsecond, hequal⟩
  · cases hfailure
  · obtain rfl := Except.ok.inj hfirst
    obtain rfl := Except.ok.inj hsecond
    exact ⟨by rw [hsucceeded.state, hsucceeded'.state, hequal.state],
      by rw [hsucceeded.selection, hsucceeded'.selection, hequal.selection],
      by rw [hsucceeded.families.1, hsucceeded'.families.1, hequal.h1],
      by rw [hsucceeded.families.2, hsucceeded'.families.2, hequal.h2],
      by rw [hsucceeded.evaluation, hsucceeded'.evaluation, hequal.h3]⟩

/-- A study with one more block, which is inactive, has the same active blocks. -/
theorem activeBlocks_forgotten :
    activeBlocks forgotten.input = activeBlocks (sample 1 (by decide)).input := by
  have hblocks : forgotten.input.blocks =
      forgottenBlock.input :: (sample 1 (by decide)).input.blocks :=
    map_cons
  rw [activeBlocks, activeBlocks, hblocks, filter_cons_of_neg]
  exact Bool.false_ne_true

theorem sample_sameActive_forgotten :
    SameActive (sample 1 (by decide)).input forgotten.input where
  blocks := activeBlocks_forgotten
  configuration := rfl
  runs := by
    have hids : activeIds forgotten.input.blocks none =
        activeIds (sample 1 (by decide)).input.blocks none := by
      rw [activeIds_none, activeIds_none, activeBlocks_forgotten]
    have hdropped : forgottenBlock.runs.filter (fun run =>
        run.blockId ∈ activeIds (sample 1 (by decide)).input.blocks none) = [] := by
      refine List.filter_eq_nil_iff.mpr fun run hrun hactive => ?_
      rw [decide_eq_true_eq, forgottenBlock.blockId_run hrun] at hactive
      have hdistinct := forgotten.blockIds_nodup
      rw [forgotten, map_cons, nodup_cons] at hdistinct
      obtain ⟨_, hmem, -, hsame⟩ := mem_activeIds.mp hactive
      obtain ⟨block, hblock, rfl⟩ := List.mem_map.mp hmem
      exact hdistinct.1 (List.mem_map.mpr ⟨block, hblock, hsame.symm⟩)
    have hruns : forgotten.input.runs =
        forgottenBlock.runs ++ (sample 1 (by decide)).input.runs := by
      rw [input, input, Study.runs, Study.runs, forgotten, flatMap_cons]
    rw [activeRuns, activeRuns, hids, hruns, filter_append, hdropped, nil_append]

theorem analysis_gated_sample : ∃ output output',
    runSyntheticAnalysis noNumbers firstBytes flat (sample 1 (by decide)).input = .ok output ∧
      runSyntheticAnalysis noNumbers firstBytes flat forgotten.input = .ok output' ∧
      output.state = .estimable ∧ Gated (sample 1 (by decide)).input output ∧
      output'.selection = output.selection ∧ output'.h3 = output.h3 := by
  obtain ⟨output, h, -⟩ := (sample 1 (by decide)).analyzed
  obtain ⟨output', h', -⟩ := forgotten.analyzed
  obtain ⟨hgated, hrests⟩ := analysis_gated h
  obtain ⟨-, hselection, -, -, hh3⟩ := hrests _ output' sample_sameActive_forgotten h'
  refine ⟨output, output', h, h', hgated.estimable.mpr fun run hrun _ => ?_, hgated, hselection,
    hh3⟩
  obtain ⟨block, -, cell, -, rfl⟩ := exists_run _ hrun
  exact ⟨rfl, UInt64.le_refl _⟩

/-! ### What a selection may rest on -/

/-- The runs of the active training blocks at half load. -/
def selectionRuns (input : AnalysisInput F) : List SyntheticRunInput :=
  input.runs.filter fun run => run.load = .l050 && run.blockId ∈ activeIds input.blocks
    (some .h3Train)

/-- Of such a run: its block, its factors, its latencies and its joined artifact. -/
def SyntheticRunInput.selectionFacts (run : SyntheticRunInput) :
    BlockId × CellKey × List WeightedLatency × ArtifactReference :=
  (run.blockId, run.key, run.endToEndLatencies, run.joinedArtifact)

def selectionFacts (input : AnalysisInput F) :
    List (BlockId × CellKey × List WeightedLatency × ArtifactReference) :=
  (selectionRuns input).map SyntheticRunInput.selectionFacts

/-- The plans of the blocks, each with whether it is active. -/
def plannedBlocks (input : AnalysisInput F) : List (BlockPlan × Bool) :=
  input.blocks.map fun block => (block.plan, block.activePrimary)

/-! ### The training blocks -/

/-- The plans of the active training blocks. -/
def trainingPlans (input : AnalysisInput F) : List BlockPlan :=
  ((plannedBlocks input).filter fun block => block.2 && block.1.blockRole = .h3Train).map Prod.fst

/-- A plan's responses, by the runs that name it. -/
def planResponse (arith : Binary64 F) (runs : List SyntheticRunInput) (plan : BlockPlan) :
    CompleteBlockResponse F :=
  ⟨plan.blockId, plan.blockRole, (runsOf runs plan.blockId).map (SyntheticRunInput.response arith)⟩

theorem trainingPlans_eq : trainingPlans input =
    (input.blocks.filter fun block =>
      block.activePrimary && block.plan.blockRole = .h3Train).map BlockInput.plan := by
  rw [trainingPlans, plannedBlocks, filter_map, map_map]
  rfl

theorem trainingPlans_ids :
    (trainingPlans input).map BlockPlan.blockId = activeIds input.blocks (some .h3Train) := by
  rw [trainingPlans_eq, map_map, activeIds]
  simp only [Option.all_some]
  rfl

theorem trainingBlocks_eq : blocksWithRole (activeResponses arith input) .h3Train =
    (trainingPlans input).map (planResponse arith input.runs) := by
  rw [blocksWithRole, activeResponses, activeBlocks, filter_map, filter_filter,
    trainingPlans_eq, map_map]
  congr 1
  refine filter_congr fun block _ => ?_
  exact Bool.and_comm _ _

theorem Succeeded.sources (h : Succeeded conv sha256 arith input output results) :
    selectionSources input (activeResponses arith input) =
      (selectionFacts input).map fun facts => facts.2.2.2 := by
  have hids : (blocksWithRole (activeResponses arith input) .h3Train).map
      CompleteBlockResponse.blockId = activeIds input.blocks (some .h3Train) := by
    rw [trainingBlocks_eq, map_map, ← trainingPlans_ids]
    rfl
  rw [selectionSources, hids, trainingSourcesOf, selectionFacts, map_map, selectionRuns]
  have hroles : ∀ run ∈ input.runs, run.blockId ∈ activeIds input.blocks (some .h3Train) →
      run.blockRole = .h3Train := by
    intro run hrun hid
    rw [← trainingPlans_ids, trainingPlans_eq] at hid
    obtain ⟨plan, hplan, hsame⟩ := List.mem_map.mp hid
    obtain ⟨block, hblock, rfl⟩ := List.mem_map.mp hplan
    obtain ⟨hmem, htraining⟩ := List.mem_filter.mp hblock
    simp only [Bool.and_eq_true, decide_eq_true_eq] at htraining
    have hown : run ∈ runsOf input.runs block.plan.blockId :=
      List.mem_filter.mpr ⟨hrun, by simp [hsame]⟩
    obtain ⟨-, hrole, -⟩ := (h.admitted.complete block hmem).bound run hown
    exact hrole.trans htraining.2
  have hfilter : (input.runs.filter fun run => run.blockRole = .h3Train && run.load = .l050 &&
      run.blockId ∈ activeIds input.blocks (some .h3Train)) =
      input.runs.filter fun run => run.load = .l050 &&
        run.blockId ∈ activeIds input.blocks (some .h3Train) := by
    refine filter_congr fun run hrun => ?_
    by_cases hid : run.blockId ∈ activeIds input.blocks (some .h3Train)
    · simp [hroles run hrun hid]
    · simp [hid]
  rw [hfilter]
  rfl

/-! ### The responses of a candidate -/

theorem h3Value_of_complete {block : CompleteBlockResponse F} (h : Complete arith block)
    (context : H3Context) (candidate : H3Candidate) :
    h3Value arith block context candidate = valueAt (block.cells.map CellResponse.entry)
      candidate.package candidate.requestedHardwareState (h3Placement context)
      (h3WorkingSet context) .l050 := by
  rw [h3Value, cellMap_ok.mpr ⟨h, rfl⟩, Fallible.ok_bind]

/-- What is under a key at half load, in a training block. -/
theorem cellOf_training {plan : BlockPlan} (hplan : plan ∈ trainingPlans input)
    (hcomplete : Complete arith (planResponse arith input.runs plan)) {key : CellKey} {value : F}
    (hload : key.2.2.2.2 = .l050) :
    cellOf ((planResponse arith input.runs plan).cells.map CellResponse.entry) key = some value ↔
      ∃ facts ∈ selectionFacts input, facts.1 = plan.blockId ∧ facts.2.1 = key ∧
        arith.log (arith.ofCount (tailQuantile facts.2.2.1)) = value := by
  have hid : plan.blockId ∈ activeIds input.blocks (some .h3Train) :=
    trainingPlans_ids ▸ mem_map_of_mem hplan
  rw [cellOf_entries hcomplete.distinct]
  constructor
  · rintro ⟨cell, hcell, rfl, rfl⟩
    obtain ⟨run, hrun, rfl⟩ := List.mem_map.mp hcell
    obtain ⟨hmem, hown⟩ := List.mem_filter.mp hrun
    have hnamed : run.blockId = plan.blockId := of_decide_eq_true hown
    have hselected : run ∈ selectionRuns input := by
      refine List.mem_filter.mpr ⟨hmem, ?_⟩
      have hhalf : run.load = .l050 := hload
      simp [hhalf, hnamed, hid]
    exact ⟨run.selectionFacts, mem_map_of_mem hselected, hnamed, rfl, rfl⟩
  · rintro ⟨facts, hfacts, hnamed, rfl, rfl⟩
    obtain ⟨run, hrun, rfl⟩ := List.mem_map.mp hfacts
    have hown : run ∈ runsOf input.runs plan.blockId :=
      List.mem_filter.mpr ⟨mem_of_mem_filter hrun, decide_eq_true hnamed⟩
    exact ⟨run.response arith, mem_map_of_mem hown, rfl, rfl⟩

/-- Every block that contrasts were computed of has a map. -/
theorem complete_of_contrasts {blocks : List (CompleteBlockResponse F)}
    {vectors : List (List F × List F)}
    (h : contrastVectors arith blocks = .ok vectors) : ∀ block ∈ blocks, Complete arith block := by
  intro block hblock
  obtain ⟨place, hplace, rfl⟩ := List.mem_iff_getElem.mp hblock
  have hturns := Fallible.forall₂_of_mapM h
  have hboth := hturns.get hplace (hturns.length_eq ▸ hplace)
  rw [get_eq_getElem] at hboth
  generalize blocks[place] = block at hboth ⊢
  cases hh1 : h1BlockContrasts arith block with
  | ok contrasts => exact complete_of_h1 hh1
  | error failure =>
      rw [hh1, Outcome.both.eq_def] at hboth
      split at hboth
      · rename_i hfirst _
        cases hfirst
      · cases hboth
      · cases hboth
      · cases hboth

/-- What a successful analysis with a selection made it of. -/
theorem Succeeded.selected {record : H3SelectionRecord}
    (h : Succeeded conv sha256 arith input output results)
    (hselection : output.selection = some record) :
    selectH3Training arith conv sha256 ((trainingPlans input).map (planResponse arith input.runs))
        (selectionSources input (activeResponses arith input)) = .ok record ∧
      ∀ plan ∈ trainingPlans input, Complete arith (planResponse arith input.runs plan) := by
  have hinferred := h.inferred
  rw [primaryBlocks_eq h.admitted.runIds h.summarized, resultsOf] at hinferred
  split at hinferred
  · obtain rfl := Except.ok.inj hinferred
    rw [h.selection] at hselection
    cases hselection
  · have hresults : Inferred conv sha256 arith input (activeResponses arith input) results :=
      inferences_ok hinferred
    obtain ⟨selection, hsame, hselected⟩ := hresults.selected
    obtain ⟨vectors, hvectors⟩ := hresults.contrasted
    rw [h.selection, hsame] at hselection
    obtain rfl := Option.some.inj hselection
    rw [trainingBlocks_eq] at hselected
    refine ⟨hselected, fun plan hplan => complete_of_contrasts hvectors _ ?_⟩
    have hmem : planResponse arith input.runs plan ∈
        blocksWithRole (activeResponses arith input) .h3Train :=
      trainingBlocks_eq ▸ mem_map_of_mem hplan
    exact mem_of_mem_filter hmem

/-- **A selection is the same for inputs that agree on the plans of their blocks and on the
training runs at half load.** -/
theorem selection_of_training {record record' : H3SelectionRecord}
    (h : runSyntheticAnalysis conv sha256 arith input = .ok output)
    (h' : runSyntheticAnalysis conv sha256 arith input' = .ok output')
    (hselection : output.selection = some record) (hselection' : output'.selection = some record')
    (hblocks : plannedBlocks input = plannedBlocks input')
    (hfacts : (selectionFacts input).Perm (selectionFacts input')) : record = record' := by
  obtain ⟨results, hsucceeded⟩ := runSyntheticAnalysis_ok h
  obtain ⟨results', hsucceeded'⟩ := runSyntheticAnalysis_ok h'
  obtain ⟨hselected, hcomplete⟩ := hsucceeded.selected hselection
  obtain ⟨hselected', hcomplete'⟩ := hsucceeded'.selected hselection'
  have hplans : trainingPlans input' = trainingPlans input := by
    rw [trainingPlans, trainingPlans, hblocks]
  have hsources : (selectionSources input (activeResponses arith input)).Perm
      (selectionSources input' (activeResponses arith input')) := by
    rw [hsucceeded.sources, hsucceeded'.sources]
    exact hfacts.map _
  have hsorted := sortedSelection_perm hsucceeded.summarized hsources
  have hsame : List.Forall₂ (SameCandidates arith)
      ((trainingPlans input).map (planResponse arith input.runs))
      ((trainingPlans input).map (planResponse arith input'.runs)) := by
    rw [forall₂_map_left_iff, forall₂_map_right_iff]
    refine List.forall₂_same.mpr fun plan hplan => ⟨rfl, ?_⟩
    funext context candidate
    rw [h3Value_of_complete (hcomplete plan hplan),
      h3Value_of_complete (hcomplete' plan (hplans ▸ hplan)), valueAt, valueAt]
    have hcell : cellOf ((planResponse arith input.runs plan).cells.map CellResponse.entry)
        (candidate.package, candidate.requestedHardwareState, h3Placement context,
          h3WorkingSet context, .l050) =
        cellOf ((planResponse arith input'.runs plan).cells.map CellResponse.entry)
          (candidate.package, candidate.requestedHardwareState, h3Placement context,
            h3WorkingSet context, .l050) := by
      ext value
      rw [cellOf_training hplan (hcomplete plan hplan) rfl,
        cellOf_training (hplans ▸ hplan) (hcomplete' plan (hplans ▸ hplan)) rfl]
      exact exists_congr fun facts => by rw [hfacts.mem_iff]
    rw [hcell]
  rw [hplans] at hselected'
  rw [selectH3Training_congr hsame hsources.isEmpty_eq hsorted, hselected'] at hselected
  exact (Except.ok.inj hselected).symm

/-- The facts of a study are those of the runs at half load in its active training blocks. -/
theorem Study.selectionRuns_input (study : Study) : selectionRuns study.input =
    study.blocks.flatMap fun block =>
      if block.active && !block.validation then block.runs.filter fun run => run.load = .l050
      else [] := by
  have hmem : ∀ block ∈ study.blocks,
      block.plan.blockId ∈ activeIds study.input.blocks (some .h3Train) ↔
        (block.active && !block.validation) = true := by
    intro block hblock
    rw [activeIds, input, filter_map, map_map, mem_map]
    constructor
    · rintro ⟨other, hother, hid⟩
      obtain ⟨hother, htraining⟩ := List.mem_filter.mp hother
      obtain rfl := inj_on_of_nodup_map study.blockIds_nodup hother hblock hid
      simp only [Function.comp_apply, Option.all_some, Bool.and_eq_true,
        decide_eq_true_eq] at htraining
      have hrole : other.validation = false := (role_eq_iff other false).mp htraining.2
      rw [hrole, Bool.not_false, Bool.and_true]
      exact htraining.1
    · intro htraining
      simp only [Bool.and_eq_true, Bool.not_eq_true'] at htraining
      refine ⟨block, List.mem_filter.mpr ⟨hblock, ?_⟩, rfl⟩
      simp only [Function.comp_apply, Option.all_some, Bool.and_eq_true, decide_eq_true_eq]
      exact ⟨htraining.1, (role_eq_iff block false).mpr htraining.2⟩
  rw [selectionRuns]
  show (study.blocks.flatMap StudyBlock.runs).filter _ = _
  rw [filter_flatMap]
  refine flatMap_congr fun block hblock => ?_
  split
  · rename_i htraining
    exact filter_congr fun run hrun => by
      rw [block.blockId_run hrun, decide_eq_true ((hmem block hblock).mpr htraining), Bool.and_true]
  · rename_i hother
    exact List.filter_eq_nil_iff.mpr fun run hrun => by
      rw [block.blockId_run hrun, decide_eq_false (mt (hmem block hblock).mp hother),
        Bool.and_false]
      exact Bool.false_ne_true

/-- Two studies whose validation runs differ in every latency make the same selection. -/
theorem selection_of_training_sample : ∃ output output' record,
    runSyntheticAnalysis noNumbers firstBytes flat (sample 1 (by decide)).input = .ok output ∧
      runSyntheticAnalysis noNumbers firstBytes flat (sample 2 (by decide)).input =
        .ok output' ∧
      output.selection = some record ∧ output'.selection = some record := by
  obtain ⟨output, h, hselected⟩ := (sample 1 (by decide)).analyzed
  obtain ⟨output', h', hselected'⟩ := (sample 2 (by decide)).analyzed
  obtain ⟨record, hrecord⟩ := Option.isSome_iff_exists.mp hselected
  obtain ⟨record', hrecord'⟩ := Option.isSome_iff_exists.mp hselected'
  have hblocks : plannedBlocks (sample 1 (by decide)).input =
      plannedBlocks (sample 2 (by decide)).input := by
    rw [plannedBlocks, plannedBlocks, input, input, sample, sample,
      map_map, map_map, map_map, map_map]
    exact map_congr_left fun number _ => rfl
  have hruns : selectionRuns (sample 1 (by decide)).input =
      selectionRuns (sample 2 (by decide)).input := by
    rw [selectionRuns_input, selectionRuns_input, sample, sample,
      flatMap_map, flatMap_map]
    refine flatMap_congr fun number _ => ?_
    by_cases hvalidation : 12 ≤ number.val
    · simp only [hvalidation, decide_true, Bool.not_true, Bool.and_false, Bool.false_eq_true,
        if_false]
    · simp only [hvalidation, if_false]
  have hsame := selection_of_training h h' hrecord hrecord' hblocks
    (by rw [selectionFacts, selectionFacts, hruns])
  exact ⟨output, output', record, h, h', hrecord, hsame ▸ hrecord'⟩

end CpuPrefetch.Analysis
