/-
What a successful analysis accounts for.

A replacement is checked against the original it names, and a block against the runs that name
it; nothing is checked the other way.  A block can be inactive that no block replaces, and a run
can name no block, and both go unreported.  Counting tells when that does not happen.  Of the
records that a replacement of a replacement is accepted in, none is analyzed.
-/
import CpuPrefetch.Proofs.Analysis.Studies
import CpuPrefetch.Proofs.Analysis.SummarizedRuns
import CpuPrefetch.Proofs.Orchestration.Lineage

namespace CpuPrefetch.Analysis

open List
open Protocol Orchestration
open Protocol.Json (CharConv)

variable {F : Type} {conv : CharConv} {sha256 : Text → Sha256} {arith : Binary64 F}
  {input : AnalysisInput F} {output : AnalysisOutput F}

/-! ### Blocks -/

/-- An active block of the input replaces this one, like it in role, platform and build, and this
one has a run that is invalid. -/
def Superseded (input : AnalysisInput F) (block : BlockInput) : Prop :=
  (∃ replacement ∈ input.blocks, replacement.activePrimary = true ∧
    replacement.replaces = some block.plan.blockId ∧
    replacement.plan.blockRole = block.plan.blockRole ∧
    replacement.plan.platformId = block.plan.platformId ∧
    replacement.plan.buildId = block.plan.buildId) ∧
  ∃ run ∈ input.runs, run.blockId = block.plan.blockId ∧ run.validity = .invalid

/-- No block is dropped: an inactive block is superseded. -/
def NoBlockDropped (input : AnalysisInput F) : Prop :=
  ∀ block ∈ input.blocks, block.activePrimary = false → Superseded input block

/-- The active blocks are those that no other block of the input replaces. -/
def ActiveUnreplaced (input : AnalysisInput F) : Prop :=
  ∀ block ∈ input.blocks, block.activePrimary = true ↔
    ∀ other ∈ input.blocks, other.plan.blockId ≠ block.plan.blockId →
      other.replaces ≠ some block.plan.blockId

def inactiveBlocks (input : AnalysisInput F) : List BlockInput :=
  input.blocks.filter fun block => !block.activePrimary

def replacementBlocks (input : AnalysisInput F) : List BlockInput :=
  input.blocks.filter fun block => block.replaces.isSome

/-- The identities of the originals, one for each replacement. -/
def supersededIds (input : AnalysisInput F) : List BlockId :=
  input.blocks.filterMap BlockInput.replaces

/-- What a replacement is checked for, read from the original. -/
theorem Admitted.superseded_of_replaces (h : Admitted conv sha256 arith input)
    {replacement block : BlockInput} (hreplacement : replacement ∈ input.blocks)
    (hblock : block ∈ input.blocks) (hreplaces : replacement.replaces = some block.plan.blockId) :
    block.activePrimary = false ∧ replacement.activePrimary = true ∧ Superseded input block := by
  obtain ⟨original, horiginal, hid, hsupersedes⟩ := h.superseded hreplacement hreplaces
  have hsame : original = block := inj_on_of_nodup_map h.blockIds horiginal hblock hid
  subst hsame
  simp only [supersedes, Bool.and_eq_true, Bool.not_eq_true', decide_eq_true_eq] at hsupersedes
  obtain ⟨⟨⟨⟨hinactive, hactive⟩, hrole⟩, hplatform⟩, hbuild⟩ := hsupersedes
  obtain ⟨run, hrun, hinvalid⟩ := List.any_eq_true.mp
    ((h.complete replacement hreplacement).invalidated _ hreplaces)
  obtain ⟨hmem, hnamed⟩ := List.mem_filter.mp hrun
  exact ⟨hinactive, hactive, ⟨replacement, hreplacement, hactive, hreplaces, hrole.symm,
    hplatform.symm, hbuild.symm⟩, run,
      hmem, by simpa using hnamed, by simpa [invalidRun] using hinvalid⟩

/-- Every block that is replaced is inactive. -/
theorem Admitted.replaced_inactive (h : Admitted conv sha256 arith input) :
    supersededIds input ⊆ (inactiveBlocks input).map fun block => block.plan.blockId := by
  intro id hid
  obtain ⟨replacement, hreplacement, hreplaces⟩ := List.mem_filterMap.mp hid
  obtain ⟨original, horiginal, rfl, -⟩ := h.superseded hreplacement hreplaces
  obtain ⟨hinactive, -, -⟩ := h.superseded_of_replaces hreplacement horiginal hreplaces
  exact List.mem_map.mpr ⟨original, List.mem_filter.mpr ⟨horiginal, by simp [hinactive]⟩, rfl⟩

/-- Every inactive block is replaced when there are as many replacements. -/
theorem Admitted.inactive_replaced_iff (h : Admitted conv sha256 arith input) :
    ((inactiveBlocks input).map fun block => block.plan.blockId) ⊆ supersededIds input ↔
      (inactiveBlocks input).length = (replacementBlocks input).length := by
  have hdistinct : ((inactiveBlocks input).map fun block => block.plan.blockId).Nodup :=
    h.blockIds.sublist (List.Sublist.map _ filter_sublist)
  have hreplaced : (supersededIds input).Nodup := h.replacedIds
  rw [Keyed.subset_iff_length hreplaced hdistinct h.replaced_inactive, length_map]
  have hcount : (supersededIds input).length = (replacementBlocks input).length := by
    rw [supersededIds, length_filterMap_eq_countP, replacementBlocks,
      countP_eq_length_filter]
  rw [hcount]

theorem Admitted.noBlockDropped_iff (h : Admitted conv sha256 arith input) :
    NoBlockDropped input ↔
      ((inactiveBlocks input).map fun block => block.plan.blockId) ⊆ supersededIds input := by
  constructor
  · intro hkept id hid
    obtain ⟨block, hblock, rfl⟩ := List.mem_map.mp hid
    obtain ⟨hmem, hinactive⟩ := List.mem_filter.mp hblock
    obtain ⟨⟨replacement, hreplacement, -, hreplaces, -⟩, -⟩ :=
      hkept block hmem (by simpa using hinactive)
    exact List.mem_filterMap.mpr ⟨replacement, hreplacement, hreplaces⟩
  · intro hreplaced block hblock hinactive
    have hid : block.plan.blockId ∈ supersededIds input := hreplaced <| List.mem_map.mpr
      ⟨block, List.mem_filter.mpr ⟨hblock, by simp [hinactive]⟩, rfl⟩
    obtain ⟨replacement, hreplacement, hreplaces⟩ := List.mem_filterMap.mp hid
    exact (h.superseded_of_replaces hreplacement hblock hreplaces).2.2

theorem Admitted.activeUnreplaced_iff (h : Admitted conv sha256 arith input) :
    ActiveUnreplaced input ↔
      ((inactiveBlocks input).map fun block => block.plan.blockId) ⊆ supersededIds input := by
  constructor
  · intro hexact id hid
    obtain ⟨block, hblock, rfl⟩ := List.mem_map.mp hid
    obtain ⟨hmem, hinactive⟩ := List.mem_filter.mp hblock
    by_contra hfree
    have hactive : block.activePrimary = true :=
      (hexact block hmem).mpr fun other hother _ hreplaces =>
      hfree (List.mem_filterMap.mpr ⟨other, hother, hreplaces⟩)
    simp [hactive] at hinactive
  · intro hreplaced block hblock
    constructor
    · intro hactive other hother _ hreplaces
      obtain ⟨hinactive, -, -⟩ := h.superseded_of_replaces hother hblock hreplaces
      rw [hactive] at hinactive
      cases hinactive
    · intro hfree
      by_contra hinactive
      have hid : block.plan.blockId ∈ supersededIds input := hreplaced <| List.mem_map.mpr
        ⟨block, List.mem_filter.mpr ⟨hblock, by simp [hinactive]⟩, rfl⟩
      obtain ⟨replacement, hreplacement, hreplaces⟩ := List.mem_filterMap.mp hid
      obtain ⟨-, hactive, -⟩ := h.superseded_of_replaces hreplacement hblock hreplaces
      refine hfree replacement hreplacement ?_ hreplaces
      intro hsame
      have hself : replacement = block :=
        inj_on_of_nodup_map h.blockIds hreplacement hblock hsame
      exact hinactive (hself ▸ hactive)

/-- **A successful analysis drops no block exactly when it has as many inactive blocks as
replacements.** -/
theorem analysis_keeps_blocks (h : runSyntheticAnalysis conv sha256 arith input = .ok output) :
    (NoBlockDropped input ↔ (inactiveBlocks input).length = (replacementBlocks input).length) ∧
      (ActiveUnreplaced input ↔
        (inactiveBlocks input).length = (replacementBlocks input).length) := by
  obtain ⟨results, hsucceeded⟩ := runSyntheticAnalysis_ok h
  have hadmitted := hsucceeded.admitted
  exact ⟨hadmitted.noBlockDropped_iff.trans hadmitted.inactive_replaced_iff,
    hadmitted.activeUnreplaced_iff.trans hadmitted.inactive_replaced_iff⟩

/-- An inactive block that nothing replaces is dropped, and the analysis succeeds. -/
theorem analysis_drops_forgotten : ∃ output,
    runSyntheticAnalysis noNumbers firstBytes flat Study.forgotten.input = .ok output ∧
      ¬NoBlockDropped Study.forgotten.input := by
  obtain ⟨output, h, -⟩ := Study.forgotten.analyzed
  refine ⟨output, h, fun hkept => ?_⟩
  have hcounts := (analysis_keeps_blocks h).1.mp hkept
  have hinactive : Study.forgottenBlock.input ∈ inactiveBlocks Study.forgotten.input :=
    List.mem_filter.mpr ⟨mem_map_of_mem mem_cons_self, rfl⟩
  have hreplacements : (replacementBlocks Study.forgotten.input).length = 0 := by
    rw [replacementBlocks, length_eq_zero_iff, filter_eq_nil_iff]
    intro block hblock
    rw [Study.forgotten.replaces_none block hblock]
    exact Bool.false_ne_true
  exact absurd (hcounts.trans hreplacements) (length_pos_of_mem hinactive).ne'

/-! ### Runs -/

/-- The runs of a block are those of its planned cells, one each. -/
def RunsOfCells (runs : List SyntheticRunInput) (block : BlockInput) : Prop :=
  (runsOf runs block.plan.blockId).length = 180 ∧
    ((runsOf runs block.plan.blockId).map SyntheticRunInput.cellOrdinal).Nodup ∧
    ((runsOf runs block.plan.blockId).map fun run => (run.cellOrdinal, run.key)).Perm
      (block.plan.cells.map fun cell => (cell.cellOrdinal, cell.key))

/-- Every run is accounted for: it is one of a block of the input, and has its summary. -/
structure ExactRuns (input : AnalysisInput F) (output : AnalysisOutput F) : Prop where
  named : ∀ run ∈ input.runs, ∃ block ∈ input.blocks, run.blockId = block.plan.blockId
  cells : ∀ block ∈ input.blocks, RunsOfCells input.runs block
  summaries : output.runSummaries.length = 180 * input.blocks.length

/-- A valid plan has 180 cells. -/
theorem validPlan_length {block : BlockPlan} {catalog : BlockSeedCatalog}
    {registry : RoleNamespaceRegistry}
    (h : validateBlockPlan conv sha256 block catalog registry = []) : block.cells.length = 180 := by
  obtain ⟨-, hrecord⟩ := validBlock_parts h
  simp only [validateRecord, validateBlock, append_eq_nil_iff, require_eq_nil,
    decide_eq_true_eq] at hrecord
  obtain ⟨⟨⟨⟨⟨-, hlength⟩, -⟩, -⟩, -⟩, -⟩ := hrecord
  exact hlength

theorem Admitted.runsOfCells (h : Admitted conv sha256 arith input) {block : BlockInput}
    (hblock : block ∈ input.blocks) : RunsOfCells input.runs block := by
  have hruns := h.complete block hblock
  refine ⟨hruns.length, hruns.ordinals, ?_⟩
  have hcells := validPlan_length (h.vetted block hblock).valid
  have hdistinct :
      ((runsOf input.runs block.plan.blockId).map fun run => (run.cellOrdinal, run.key)).Nodup :=
    List.Nodup.of_map Prod.fst (by rw [map_map]; exact hruns.ordinals)
  refine (hdistinct.subperm ?_).perm_of_length_le ?_
  · intro pair hpair
    obtain ⟨run, hrun, rfl⟩ := List.mem_map.mp hpair
    obtain ⟨-, -, cell, hcell, hordinal, hkey⟩ := hruns.bound run hrun
    exact List.mem_map.mpr ⟨cell, mem_of_getElem? hcell, by rw [hordinal, hkey]⟩
  · rw [length_map, length_map, hcells, hruns.length]
    rfl

/-- The runs of the blocks are the runs that name one. -/
theorem Admitted.named_length (h : Admitted conv sha256 arith input) :
    (input.runs.filter fun run =>
      run.blockId ∈ input.blocks.map fun block => block.plan.blockId).length =
      180 * input.blocks.length := by
  rw [← Keyed.sum_filter_length h.blockIds, map_map]
  have heach : ∀ block ∈ input.blocks, ((fun id => (input.runs.filter fun run =>
      run.blockId = id).length) ∘ fun block => block.plan.blockId) block = 180 :=
        fun block hblock =>
    (h.complete block hblock).length
  rw [map_congr_left heach, map_const', sum_replicate, smul_eq_mul, Nat.mul_comm]

/-- **A successful analysis accounts for every run exactly when it has 180 of them a block.** -/
theorem analysis_accounts_runs (h : runSyntheticAnalysis conv sha256 arith input = .ok output) :
    ExactRuns input output ↔ input.runs.length = 180 * input.blocks.length := by
  obtain ⟨results, hsucceeded⟩ := runSyntheticAnalysis_ok h
  have hadmitted := hsucceeded.admitted
  have hsummaries := summarizeRuns_length hsucceeded.summarized
  constructor
  · intro hexact
    rw [← hsummaries, hexact.summaries]
  · intro hlength
    refine ⟨?_, fun block hblock => hadmitted.runsOfCells hblock, hsummaries.trans hlength⟩
    intro run hrun
    have hall := hadmitted.named_length.trans hlength.symm
    have hnamed := List.length_filter_eq_length_iff.mp hall run hrun
    obtain ⟨block, hblock, hid⟩ := List.mem_map.mp (of_decide_eq_true hnamed)
    exact ⟨block, hblock, hid.symm⟩

theorem analysis_accounts_sample : ∃ output,
    runSyntheticAnalysis noNumbers firstBytes flat (Study.sample 1 (by decide)).input = .ok output ∧
      ExactRuns (Study.sample 1 (by decide)).input output := by
  obtain ⟨output, h, -⟩ := (Study.sample 1 (by decide)).analyzed
  exact ⟨output, h, (analysis_accounts_runs h).mpr (Study.runs_length _)⟩

/-! ### Lineages -/

section Lineages

variable {evidence : Stage14Evidence} {records : List ProtocolRecord} {blocks : List BlockInput}

/-- The blocks are those of the records, and active unless another replaces them. -/
structure TakenFrom (records : List ProtocolRecord) (blocks : List BlockInput) : Prop where
  plans : blocks.map BlockInput.plan = blocksOf records
  active : ∀ block ∈ blocks,
    block.activePrimary = !isReplaced (blocksOf records) block.plan.blockId

/-- No replacement is replaced in turn. -/
def Unchained (plans : List BlockPlan) : Prop :=
  ∀ plan ∈ plans, plan.replacesBlockId.isSome = true → isReplaced plans plan.blockId = false

/-- The original of a replacement is there and retained; only the replacement can be inactive. -/
theorem TakenFrom.supersedes_eq (hblocks : TakenFrom records blocks)
    (h : Stage14Accepted conv sha256 evidence records) {block : BlockInput}
    (hblock : block ∈ blocks)
    {original : BlockId} (hreplaces : block.replaces = some original) :
    (blockNamed blocks original).any (supersedes block) = block.activePrimary := by
  have hplan : block.plan ∈ blocksOf records := hblocks.plans ▸ mem_map_of_mem hblock
  obtain ⟨r⟩ := h.resolution hplan hreplaces
  obtain ⟨hmem, hid⟩ := h.idIn.mp r.found
  obtain ⟨retained, hretained, hsame⟩ : ∃ retained ∈ blocks, retained.plan = r.original :=
    List.mem_map.mp (hblocks.plans.symm ▸ hmem)
  have hids : (blocks.map fun block => block.plan.blockId).Nodup := by
    have hplans := h.ids
    rwa [← hblocks.plans, map_map] at hplans
  have hfound : blockNamed blocks original = some retained :=
    (Keyed.find_eq_some_iff hids).mpr ⟨hretained, hsame ▸ hid⟩
  have hreplaced : isReplaced (blocksOf records) retained.plan.blockId = true :=
    List.any_eq_true.mpr ⟨block.plan, hplan, by rw [hsame, hid]; exact decide_eq_true hreplaces⟩
  obtain ⟨hrole, hplatform, hbuild⟩ := retainsOriginal_same r.retains
  rw [hfound, Option.any_some, supersedes, hblocks.active retained hretained, hreplaced, hsame,
    hrole, hplatform, hbuild]
  simp

theorem TakenFrom.lineageErrors_iff (hblocks : TakenFrom records blocks)
    (h : Stage14Accepted conv sha256 evidence records) :
    lineageErrors blocks = [] ↔ Unchained (blocksOf records) := by
  have hplans : Unchained (blocksOf records) ↔ ∀ block ∈ blocks, block.replaces.isSome = true →
      isReplaced (blocksOf records) block.plan.blockId = false := by
    rw [Unchained]
    simp only [← hblocks.plans, forall_mem_map]
    rfl
  rw [lineageErrors_eq_nil, hplans]
  refine forall₂_congr fun block hblock => ?_
  have hactive := hblocks.active block hblock
  simp only [Lineal, Option.isSome_iff_exists, forall_exists_index]
  refine forall₂_congr fun original hreplaces => ?_
  rw [hblocks.supersedes_eq h hblock hreplaces, hactive, Bool.not_eq_true']

/-- **Of an accepted record set the analysis admits the lineages exactly when no replacement was
replaced in turn; no record set with a longer chain is ever analyzed.** -/
theorem chains_not_analyzed (h : Stage14Accepted conv sha256 evidence records)
    (hblocks : TakenFrom records blocks) :
    (blocks.filterMap BlockInput.replaces).Nodup ∧
      (lineageErrors blocks = [] ↔ Unchained (blocksOf records)) ∧
      ∀ (input : AnalysisInput F) (output : AnalysisOutput F), input.blocks = blocks →
        runSyntheticAnalysis conv sha256 arith input = .ok output →
          Unchained (blocksOf records) := by
  refine ⟨?_, hblocks.lineageErrors_iff h, ?_⟩
  · have hunbranched := (stage14Accepted_iff.mp h).unbranched
    rwa [← hblocks.plans, filterMap_map] at hunbranched
  · rintro input output rfl hrun
    obtain ⟨results, hsucceeded⟩ := runSyntheticAnalysis_ok hrun
    refine (hblocks.lineageErrors_iff h).mp (lineageErrors_eq_nil.mpr ?_)
    exact hsucceeded.admitted.lineal

/-- The blocks of the records, with a catalog and evidence of the sample. -/
def takenFrom (records : List ProtocolRecord) : List BlockInput :=
  (blocksOf records).map fun plan =>
    ⟨plan, sampleCatalog 1 1, Analysis.evidence.reference,
      !isReplaced (blocksOf records) plan.blockId, true, true⟩

theorem takenFrom_taken (records : List ProtocolRecord) :
    TakenFrom records (takenFrom records) where
  plans := by
    rw [takenFrom, map_map]
    exact map_id _
  active := List.forall_mem_map.mpr fun _ _ => rfl

theorem chains_not_analyzed_chained :
    lineageErrors (takenFrom (chainedStudy.records 3 Prod.snd)) ≠ [] ∧
      ∀ (input : AnalysisInput ℚ) (output : AnalysisOutput ℚ),
        input.blocks = takenFrom (chainedStudy.records 3 Prod.snd) →
          runSyntheticAnalysis noNumbers firstBytes flat input ≠ .ok output := by
  have hchained : ¬Unchained (blocksOf (chainedStudy.records 3 Prod.snd)) := by
    rw [(chainedStudy.sorted 3 Prod.snd).1]
    intro hunchained
    exact absurd (hunchained (samplePlan 2 (some 1)) (mem_map_of_mem (a := (2, some 1))
      (by decide)) rfl) (by decide +kernel)
  obtain ⟨-, hlineage, hrun⟩ := @chains_not_analyzed _ _ _ flat _ _ _ chainedStudy_accepted
    (takenFrom_taken _)
  exact ⟨fun hnone => hchained (hlineage.mp hnone),
    fun input output hinput houtput => hchained (hrun input output hinput houtput)⟩

end Lineages

end CpuPrefetch.Analysis
