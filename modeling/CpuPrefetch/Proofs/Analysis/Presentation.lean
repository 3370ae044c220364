/-
The order in which an analysis is given its runs and artifacts does not matter.

Once an input is admitted its identities are distinct, so every lookup finds the same thing in
any order.  What is left of the order are the cells of a block, which are read through a map, and
the lists of sources and artifacts, which are sorted before they are written.
-/
import CpuPrefetch.Proofs.Analysis.CellMaps
import CpuPrefetch.Proofs.Analysis.SummarizedRuns

namespace CpuPrefetch.Analysis

open Protocol Orchestration
open Protocol.Json (CharConv)
open Protocol.Load (ArtifactReference)

variable {F : Type} {conv : CharConv} {sha256 : Text → Sha256} {arith : Binary64 F}
  {input : AnalysisInput F} {runs : List SyntheticRunInput} {artifacts : List ImmutableArtifact}

/-! ### Lookups -/

section Lookups

variable {artifacts' : List ImmutableArtifact}

theorem findArtifact_perm (hperm : artifacts.Perm artifacts')
    (hids : (artifacts.map ImmutableArtifact.id).Nodup) :
    findArtifact artifacts = findArtifact artifacts' := by
  funext id
  exact Keyed.find_perm hperm hids id

theorem resolves_congr (h : findArtifact artifacts = findArtifact artifacts') :
    resolves sha256 artifacts = resolves sha256 artifacts' := by
  funext reference
  rw [resolves, resolves, h]

theorem holds_congr (h : findArtifact artifacts = findArtifact artifacts') :
    holds sha256 artifacts = holds sha256 artifacts' := by
  funext reference expected
  simp only [holds, h]

theorem summarizeRun_congr (h : findArtifact artifacts = findArtifact artifacts')
    (run : SyntheticRunInput) : summarizeRun conv sha256 arith run artifacts =
      summarizeRun conv sha256 arith run artifacts' := by
  have hsame : runErrors conv sha256 run artifacts = runErrors conv sha256 run artifacts' := by
    simp only [runErrors, evidenceErrors, failureErrors, holds_congr h, resolves_congr h]
  rw [summarizeRun, summarizeRun, hsame]

/-- A reference that resolves is the only one with its identifier that does. -/
theorem eq_of_holds {first second : ArtifactReference} {bytes bytes' : Result Text}
    (hfirst : holds sha256 artifacts first bytes = true)
    (hsecond : holds sha256 artifacts second bytes' = true)
    (hid : first.artifactId.val = second.artifactId.val) : first = second := by
  have hfound : ∀ {reference : ArtifactReference} {bytes : Result Text},
      holds sha256 artifacts reference bytes = true → ∃ artifact,
        findArtifact artifacts reference.artifactId.val = some artifact ∧
          artifact.reference = reference := by
    intro reference bytes h
    rw [holds.eq_def] at h
    cases bytes with
    | error errors => cases h
    | ok text =>
        obtain ⟨artifact, hartifact, hsame⟩ := (Option.any_eq_true _ _).mp h
        simp only [Bool.and_eq_true, decide_eq_true_eq] at hsame
        exact ⟨artifact, hartifact, hsame.1.1⟩
  obtain ⟨artifact, hartifact, hsame⟩ := hfound hfirst
  obtain ⟨other, hother, hsame'⟩ := hfound hsecond
  rw [hid, hother] at hartifact
  rw [← hsame, ← hsame', Option.some.inj hartifact]

end Lookups

/-! ### Admission -/

/-- The same input, with its runs and artifacts in another order. -/
def AnalysisInput.rearranged (input : AnalysisInput F) (runs : List SyntheticRunInput)
    (artifacts : List ImmutableArtifact) : AnalysisInput F :=
  { input with runs := runs, artifacts := artifacts }

variable {runs' : List SyntheticRunInput}

theorem runsOf_perm (h : runs.Perm runs') (id : BlockId) :
    (runsOf runs id).Perm (runsOf runs' id) := h.filter _

theorem CompleteRuns.perm {block : BlockInput} (h : CompleteRuns runs block)
    (hperm : runs.Perm runs') : CompleteRuns runs' block := by
  have hown := runsOf_perm hperm block.plan.blockId
  refine ⟨hown.length_eq ▸ h.length, ?_, (hown.map _).nodup_iff.mp h.ordinals, ?_⟩
  · intro run hrun
    exact h.bound run (hown.mem_iff.mpr hrun)
  · intro original hreplaces
    rw [← (runsOf_perm hperm original).any_eq]
    exact h.invalidated original hreplaces

theorem configurationBound_rearranged
    (hfind : findArtifact input.artifacts = findArtifact artifacts) :
    configurationBound conv arith (input.rearranged runs artifacts) =
      configurationBound conv arith input := by
  have hconfiguration : (input.rearranged runs artifacts).configuration = input.configuration := rfl
  have hartifacts : (input.rearranged runs artifacts).artifacts = artifacts := rfl
  rw [configurationBound, configurationBound, hconfiguration, hartifacts, hfind]

/-- An input is admitted in every order of its runs and artifacts. -/
theorem Admitted.rearranged (h : Admitted conv sha256 arith input) (hruns : input.runs.Perm runs)
    (hartifacts : input.artifacts.Perm artifacts) :
    Admitted conv sha256 arith (input.rearranged runs artifacts) := by
  have hfind := findArtifact_perm hartifacts h.artifactIds
  have hresolves : resolves sha256 input.artifacts = resolves sha256 artifacts :=
    resolves_congr hfind
  exact
    { configured := h.configured
      artifacts := fun artifact hmem => h.artifacts artifact (hartifacts.mem_iff.mpr hmem)
      artifactIds := (hartifacts.map _).nodup_iff.mp h.artifactIds
      bound := by
        rw [configurationBound_rearranged hfind]
        exact h.bound
      counted := h.counted
      sized := by
        have hsized := h.sized
        simp only [sizingErrors, hresolves] at hsized
        exact hsized
      design := h.design
      vetted := by
        intro block hblock
        have hvetted := h.vetted block hblock
        exact ⟨hvetted.proved, hvetted.valid, by
          have hplanned := hvetted.planned
          rwa [hresolves] at hplanned, hvetted.budgeted⟩
      blockIds := h.blockIds
      replacedIds := h.replacedIds
      platform := h.platform
      lineal := h.lineal
      roles := h.roles
      granted := by
        have hgranted := h.granted
        simp only [grantErrors, validateGrant, hresolves] at hgranted
        exact hgranted
      runIds := (hruns.map _).nodup_iff.mp h.runIds
      complete := fun block hblock => (h.complete block hblock).perm hruns }

theorem admitted_rearranged (hruns : input.runs.Perm runs)
    (hartifacts : input.artifacts.Perm artifacts) :
    Admitted conv sha256 arith (input.rearranged runs artifacts) ↔
      Admitted conv sha256 arith input :=
  ⟨fun h => h.rearranged hruns.symm hartifacts.symm, fun h => h.rearranged hruns hartifacts⟩

/-! ### Summaries -/

variable {A B : Type} {items : List A}

theorem forall₂_iff_exists {R : A → B → Prop} :
    (∃ results, List.Forall₂ R items results) ↔ ∀ item ∈ items, ∃ result, R item result := by
  induction items with
  | nil => simp
  | cons item rest ih =>
      simp only [List.forall₂_cons_left_iff, List.forall_mem_cons, ← ih]
      constructor
      · rintro ⟨_, result, results, hfirst, hrest, rfl⟩
        exact ⟨⟨result, hfirst⟩, results, hrest⟩
      · rintro ⟨⟨result, hfirst⟩, results, hrest⟩
        exact ⟨_, result, results, hfirst, hrest, rfl⟩

/-- The runs are summarized in every order, when they are in one. -/
theorem summarizeRuns_rearranged {artifacts' : List ImmutableArtifact}
    {summaries : List (RunSummary F)} (hfind : findArtifact artifacts = findArtifact artifacts')
    (hperm : runs.Perm runs') (h : summarizeRuns conv sha256 arith artifacts runs = .ok summaries) :
    ∃ summaries', summarizeRuns conv sha256 arith artifacts' runs' = .ok summaries' ∧
      summaries'.length = summaries.length := by
  have heach := forall₂_iff_exists.mp ⟨summaries, summarizeRuns_ok.mp h⟩
  have heach' : ∀ run ∈ runs', ∃ summary, summarizeRun conv sha256 arith run artifacts' =
    .ok summary := by
    intro run hrun
    rw [← summarizeRun_congr hfind]
    exact heach run (hperm.mem_iff.mpr hrun)
  obtain ⟨summaries', hsummaries'⟩ := forall₂_iff_exists.mpr heach'
  have hok := summarizeRuns_ok.mpr hsummaries'
  exact ⟨summaries', hok, by
    rw [summarizeRuns_length hok, summarizeRuns_length h, hperm.length_eq]⟩

/-! ### Blocks with the same cells -/

/-- The same block, with its cells in another order. -/
structure Reordered (block block' : CompleteBlockResponse F) : Prop where
  id : block.blockId = block'.blockId
  role : block.role = block'.role
  cells : block.cells.Perm block'.cells

abbrev AllReordered : List (CompleteBlockResponse F) → List (CompleteBlockResponse F) → Prop :=
  List.Forall₂ Reordered

theorem foldlM_congr {S : Type} {step : S → A → Outcome S} {step' : S → B → Outcome S}
    {items' : List B}
    (h : List.Forall₂ (fun item item' => ∀ state, step state item = step' state item') items items')
    (state : S) :
    items.foldlM step state = items'.foldlM step' state := by
  induction h generalizing state with
  | nil => rfl
  | cons hfirst _ ih =>
      rw [List.foldlM_cons, List.foldlM_cons, hfirst]
      congr 1
      funext next
      exact ih next

theorem mapM_congr {T : Type} {f : A → Outcome T} {g : B → Outcome T} {items' : List B}
    (h : List.Forall₂ (fun item item' => f item = g item') items items') :
    items.mapM f = items'.mapM g := by
  induction h with
  | nil => rfl
  | cons hfirst _ ih => rw [List.mapM_cons, List.mapM_cons, hfirst, ih]

section Blocks

variable {blocks blocks' : List (CompleteBlockResponse F)}

theorem AllReordered.withRole (h : AllReordered blocks blocks') (role : BlockRole) :
    AllReordered (blocksWithRole blocks role) (blocksWithRole blocks' role) := by
  induction h with
  | nil => exact List.Forall₂.nil
  | @cons block block' rest rest' hfirst _ ih =>
      simp only [blocksWithRole, List.filter_cons, hfirst.role] at ih ⊢
      split
      · exact List.Forall₂.cons hfirst ih
      · exact ih

theorem AllReordered.ids (h : AllReordered blocks blocks') :
    blocks.map CompleteBlockResponse.blockId = blocks'.map CompleteBlockResponse.blockId := by
  induction h with
  | nil => rfl
  | cons hfirst _ ih => rw [List.map_cons, List.map_cons, hfirst.id, ih]

theorem allRole_congr
    (h : List.Forall₂ (fun block block' => block.role = block'.role) blocks blocks')
    (role : BlockRole) :
    (blocks.all fun block => block.role = role) = blocks'.all fun block => block.role = role := by
  induction h with
  | nil => rfl
  | cons hfirst _ ih => rw [List.all_cons, List.all_cons, hfirst, ih]

/-- Blocks of the same role with the same response of every candidate. -/
structure SameCandidates (arith : Binary64 F) (block block' : CompleteBlockResponse F) : Prop where
  role : block.role = block'.role
  values : h3Value arith block = h3Value arith block'

theorem h3Mean_congr (h : List.Forall₂ (SameCandidates arith) blocks blocks') :
    h3Mean arith blocks = h3Mean arith blocks' := by
  funext context candidate
  have hsum : sumOver arith blocks (fun block => h3Value arith block context candidate) =
      sumOver arith blocks' fun block => h3Value arith block context candidate := by
    refine foldlM_congr (h.imp fun block block' hsame sum => ?_) _
    simp only [hsame.values]
  rw [h3Mean, h3Mean, hsum, h.length_eq]

theorem selectedCandidate_congr (h : List.Forall₂ (SameCandidates arith) blocks blocks') :
    selectedCandidate arith blocks = selectedCandidate arith blocks' := by
  funext context
  have hconsider :
      considerCandidate arith blocks context = considerCandidate arith blocks' context := by
    funext selected candidate
    rw [considerCandidate, considerCandidate, h3Mean_congr h]
  rw [selectedCandidate, selectedCandidate, hconsider]

/-- A selection is made of the candidates' responses, and of the sources in their order. -/
theorem selectH3Training_congr (h : List.Forall₂ (SameCandidates arith) blocks blocks')
    {sources sources' : List ArtifactReference} (hempty : sources.isEmpty = sources'.isEmpty)
    (hsorted : sortedSources sources = sortedSources sources') :
    selectH3Training arith conv sha256 blocks sources =
      selectH3Training arith conv sha256 blocks' sources' := by
  have hrecord : ∀ selections, selectionRecord conv sha256 selections sources =
      selectionRecord conv sha256 selections sources' := by
    intro selections
    rw [selectionRecord, selectionRecord, hsorted]
  have hroles := allRole_congr (h.imp fun _ _ hsame => hsame.role) .h3Train
  simp only [selectH3Training, selectedCandidate_congr h, h.length_eq, hroles, hempty, hrecord]

theorem AllReordered.sameCandidates (h : AllReordered blocks blocks') :
    List.Forall₂ (SameCandidates arith) blocks blocks' :=
  h.imp fun _ _ hsame => ⟨hsame.role, h3Value_perm hsame.cells⟩

theorem AllReordered.evaluateH3Validation (h : AllReordered blocks blocks')
    (selection : H3SelectionRecord) (bootstrap : BootstrapConfiguration) (deltaStar : F) :
    evaluateH3Validation arith blocks selection bootstrap deltaStar =
      evaluateH3Validation arith blocks' selection bootstrap deltaStar := by
  have hdifferences : ∀ comparisons : List H3Comparison,
      (blocks.mapM fun block => comparisons.mapM (h3Difference arith block)) =
        blocks'.mapM fun block => comparisons.mapM (h3Difference arith block) := by
    intro comparisons
    refine mapM_congr (h.imp fun block block' hsame => ?_)
    have hsame : h3Difference arith block = h3Difference arith block' := by
      funext comparison
      rw [h3Difference, h3Difference, h3Value_perm hsame.cells]
    rw [hsame]
  have hroles := allRole_congr (h.imp fun _ _ hsame => hsame.role) .h3Validation
  simp only [Analysis.evaluateH3Validation, h.length_eq, hroles, hdifferences]

theorem AllReordered.contrastVectors (h : AllReordered blocks blocks') :
    contrastVectors arith blocks = contrastVectors arith blocks' := by
  refine mapM_congr (h.imp fun block block' hsame => ?_)
  rw [h1BlockContrasts_perm hsame.cells, h2BlockContrasts_perm hsame.cells]

end Blocks

end CpuPrefetch.Analysis
