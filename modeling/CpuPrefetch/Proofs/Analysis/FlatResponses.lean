/-
The inferences from responses that do not differ.

When every response is zero so is every contrast of every block, and every resample of the
blocks; a deviation of zero needs no error to be divided by.  What remains are the draws of the
bootstrap: with them, all inferences go through.
-/
import CpuPrefetch.Proofs.Analysis.ContrastWeights
import CpuPrefetch.Proofs.Analysis.Documents
import CpuPrefetch.Proofs.Analysis.SummarizedRuns

namespace CpuPrefetch.Analysis

open List Fallible
open Protocol Orchestration
open Protocol.Json (CharConv IsUtf8)
open Protocol.Load (ArtifactReference)
open Workload (PhiloxKey acceptedDraw rejectionThreshold ordinalsLeft kDeterministicSuite)

/-- Exact arithmetic in which every logarithm is zero, and no pivot is too small. -/
abbrev flat : Binary64 ℚ := exactArithmetic ⟨0, 0, id, fun _ => 0, fun _ => 0⟩

/-! ### Vectors of zeros -/

theorem flat_zero : flat.zero = 0 := rfl

theorem addColumns_zeros (width : Nat) :
    addColumns flat (zeros flat width) (zeros flat width) = zeros flat width := by
  rw [addColumns, zeros, zipWith_replicate', flat_zero]
  show List.replicate width ((0 : ℚ) + 0) = _
  rw [add_zero]

theorem foldl_addColumns (count width : Nat) :
    (List.replicate count (zeros flat width)).foldl (addColumns flat) (zeros flat width) =
      zeros flat width := by
  induction count with
  | zero => rfl
  | succ count ih => rw [replicate_succ, foldl_cons, addColumns_zeros, ih]

theorem map_zeros {f : ℚ → ℚ} (h : f 0 = 0) (width : Nat) :
    (zeros flat width).map f = zeros flat width := by
  rw [zeros, map_replicate, flat_zero, h]

theorem average_zeros (divisor : ℚ) (width : Nat) :
    ((zeros flat width).map fun value => flat.div value divisor) = zeros flat width :=
  map_zeros (f := fun value => flat.div value divisor) (zero_div divisor) width

theorem meanVector_zeros {count : Nat} (h : count ≠ 0) (width : Nat) :
    meanVector flat (List.replicate count (zeros flat width)) = zeros flat width := by
  obtain ⟨rest, rfl⟩ := Nat.exists_eq_succ_of_ne_zero h
  have hwidth : ((List.replicate (rest + 1) (zeros flat width)).headD []).length = width := by
    rw [replicate_succ, headD_cons, zeros, length_replicate]
  rw [meanVector, hwidth, foldl_addColumns, average_zeros]

theorem standardErrors_zeros {count : Nat} (h : count ≠ 0) (width : Nat) :
    standardErrors flat (List.replicate count (zeros flat width)) = zeros flat width := by
  have hlength : (zeros flat width).length = width := length_replicate
  have hsquares : ((List.zipWith flat.sub (zeros flat width) (zeros flat width)).map
    fun difference =>
      flat.mul difference difference) = zeros flat width := by
    rw [zeros, zipWith_replicate', flat_zero, map_replicate]
    show List.replicate width (((0 : ℚ) - 0) * (0 - 0)) = _
    rw [sub_zero, mul_zero]
  have hsums : (List.replicate count (zeros flat width)).foldl (fun result estimate =>
      addColumns flat result ((List.zipWith flat.sub estimate (zeros flat width)).map
        fun difference => flat.mul difference difference)) (zeros flat width) =
          zeros flat width := by
    clear h
    induction count with
    | zero => rfl
    | succ count ih => rw [replicate_succ, foldl_cons, hsquares, addColumns_zeros, ih]
  rw [standardErrors, meanVector_zeros h, hlength]
  simp only [hsums]
  exact average_zeros _ width

theorem statisticOf_zeros (oneSided : Bool) (width : Nat) :
    statisticOf flat oneSided (zeros flat width) (zeros flat width) (zeros flat width) = .ok 0 := by
  have hdeviation : flat.sub 0 0 = 0 := sub_zero _
  have hstandard : standardized flat 0 0 = .ok 0 := by
    have hequal : flat.equal 0 0 = true := decide_eq_true (rfl : (0 : ℚ) = 0)
    rw [standardized, flat_zero, if_pos hequal, if_pos hequal]
  have hlargest : ∀ value : ℚ, value = 0 → maximum flat 0 value = 0 := by
    rintro _ rfl
    exact if_neg (by simp [exactArithmetic])
  rw [statisticOf, zeros, zipWith_replicate', flat_zero, zip_replicate', hdeviation]
  induction width with
  | zero => rfl
  | succ width ih =>
      rw [replicate_succ, foldlM_cons, hstandard, ok_bind, ok_bind,
        hlargest, ih]
      cases oneSided
      · exact abs_zero
      · rfl

/-! ### The bootstrap -/

/-- None of the first draws is below the threshold for this many blocks. -/
def DrawsAccepted (key : PhiloxKey) (count total : Nat) : Prop :=
  ∀ ordinal < total, rejectionThreshold (.ofNat count) ≤ Workload.draw key (.ofNat ordinal)

instance (key : PhiloxKey) (count total : Nat) : Decidable (DrawsAccepted key count total) :=
  inferInstanceAs (Decidable (∀ ordinal < total,
    rejectionThreshold (.ofNat count) ≤ Workload.draw key (.ofNat ordinal)))

variable {bootstrap : BootstrapConfiguration}

section Bootstrap

variable {key : PhiloxKey} {count total width : Nat}

variable {ordinal : Nat}

theorem boundedDraw_accepted (h : DrawsAccepted key count total) (hcount : 0 < count)
    (hblocks : count < 2 ^ 64) (htotal : total < 2 ^ 64) (hordinal : ordinal < total) :
    ∃ selected : UInt64, selected.toNat < count ∧
      boundedDraw key (.ofNat count) (.ofNat ordinal) = .ok (selected, .ofNat (ordinal + 1)) := by
  have hbound : (UInt64.ofNat count).toNat = count := UInt64.toNat_ofNat_of_lt' hblocks
  have hpositive : UInt64.ofNat count ≠ 0 := by
    intro hzero
    rw [hzero] at hbound
    exact hcount.ne hbound
  have hplace : (UInt64.ofNat ordinal).toNat = ordinal :=
    UInt64.toNat_ofNat_of_lt' (hordinal.trans htotal)
  obtain ⟨fuel, hfuel⟩ : ∃ fuel, ordinalsLeft (.ofNat ordinal) = fuel + 1 :=
    Nat.exists_eq_succ_of_ne_zero (by rw [ordinalsLeft, hplace]; omega)
  have haccepted := UInt64.not_lt.mpr (h ordinal hordinal)
  refine ⟨Workload.draw key (.ofNat ordinal) % .ofNat count, ?_, ?_⟩
  · rw [UInt64.toNat_mod, hbound]
    exact Nat.mod_lt _ hcount
  · rw [boundedDraw, if_neg hpositive, hfuel, acceptedDraw, if_neg haccepted, UInt64.ofNat_add]
    rfl

theorem resample_zeros (h : DrawsAccepted key count total) (hcount : 0 < count)
    (hblocks : count < 2 ^ 64) (htotal : total < 2 ^ 64) {left : Nat}
    (hleft : ordinal + left ≤ total) :
    resample flat key (List.replicate count (zeros flat width)) left (zeros flat width)
      (.ofNat ordinal) =
      .ok (zeros flat width, .ofNat (ordinal + left)) := by
  induction left generalizing ordinal with
  | zero => rfl
  | succ left ih =>
      obtain ⟨selected, hselected, hdraw⟩ :=
        boundedDraw_accepted h hcount hblocks htotal (show ordinal < total by omega)
      have hvector : (List.replicate count (zeros flat width)).getD selected.toNat [] =
          zeros flat width := by
        rw [getD_eq_getElem?_getD, getElem?_replicate_of_lt hselected, Option.getD_some]
      rw [resample, length_replicate, hdraw, ok_bind]
      show resample _ _ _ left (addColumns _ _ _) _ = _
      rw [hvector, addColumns_zeros, ih (by omega), Nat.add_right_comm, Nat.add_assoc]

theorem replicateEstimates_zeros (h : DrawsAccepted key count total) (hcount : 0 < count)
    (hblocks : count < 2 ^ 64) (htotal : total < 2 ^ 64) {left : Nat}
    (hleft : ordinal + left * count ≤ total) :
    replicateEstimates flat key (List.replicate count (zeros flat width)) width left
      (.ofNat ordinal) =
      .ok (List.replicate left (zeros flat width)) := by
  induction left generalizing ordinal with
  | zero => rfl
  | succ left ih =>
      rw [Nat.succ_mul] at hleft
      rw [replicateEstimates, length_replicate,
        resample_zeros h hcount hblocks htotal (by omega), ok_bind]
      show (replicateEstimates _ _ _ _ left _ >>= _) = _
      rw [ih (by omega), ok_bind, average_zeros, replicate_succ]

/-- A bootstrap of two replicates or more that finds its draws for this many blocks. -/
structure Drawable (bootstrap : BootstrapConfiguration) (count : Nat) : Prop where
  blocks : 2 ≤ count ∧ count < 2 ^ 64
  replicates : 2 ≤ bootstrap.replicates
  profile : bootstrap.profile = kBootstrapProfile
  algorithm : bootstrap.rngAlgorithmVersion = kDeterministicSuite
  draws : bootstrap.replicates.toNat * count < 2 ^ 64
  accepted : DrawsAccepted bootstrap.key count (bootstrap.replicates.toNat * count)

theorem Drawable.replicates_ne (h : Drawable bootstrap count) : bootstrap.replicates.toNat ≠ 0 := by
  have htwo := UInt64.le_iff_toNat_le.mp h.replicates
  have hvalue : (2 : UInt64).toNat = 2 := rfl
  omega

theorem headD_zeros (hcount : count ≠ 0) :
    (List.replicate count (zeros flat width)).headD [] = zeros flat width := by
  obtain ⟨rest, rfl⟩ := Nat.exists_eq_succ_of_ne_zero hcount
  rw [replicate_succ, headD_cons]

theorem length_zeros : (zeros flat width).length = width := length_replicate

theorem bootstrapVectors_zeros (h : Drawable bootstrap count) (hwidth : width ≠ 0) :
    bootstrapVectors flat (List.replicate count (zeros flat width)) bootstrap =
      .ok (List.replicate bootstrap.replicates.toNat (zeros flat width)) := by
  have hcount := h.blocks.1
  have hcontract : ¬(((List.replicate count (zeros flat width)).length < 2 ||
      bootstrap.replicates < 2 || bootstrap.profile ≠ kBootstrapProfile ||
      bootstrap.rngAlgorithmVersion ≠ kDeterministicSuite) = true) := by
    simp only [length_replicate, h.profile, h.algorithm, ne_eq, not_true_eq_false,
      decide_false, Bool.or_false, Bool.or_eq_true, decide_eq_true_eq, not_or, Nat.not_lt,
      UInt64.not_lt]
    exact ⟨hcount, h.replicates⟩
  have hwidths : ¬((decide (width = 0) || !(List.replicate count (zeros flat width)).all
      fun vector => vector.length = width) = true) := by
    simp [hwidth, length_zeros]
  rw [bootstrapVectors, if_neg hcontract, headD_zeros (by omega), length_zeros]
  simp only [if_neg hwidths]
  exact replicateEstimates_zeros h.accepted (by omega) h.blocks.2 h.draws (Nat.zero_add _).le

theorem statistics_zeros (oneSided : Bool) : (List.replicate count (zeros flat width)).mapM
    (statisticOf flat oneSided (zeros flat width) (zeros flat width)) =
      .ok (List.replicate count 0) := by
  rw [mapM_of_forall (g := fun _ => 0), map_const', length_replicate]
  intro vector hvector
  rw [eq_of_mem_replicate hvector, statisticOf_zeros]

theorem empiricalP95_zeros (hcount : count ≠ 0) :
    ∃ critical, empiricalP95 flat (List.replicate count 0) = .ok critical := by
  have hfinite : (List.replicate count (0 : ℚ)).all flat.isFinite = true :=
    List.all_eq_true.mpr fun _ _ => rfl
  rw [empiricalP95, if_neg (by simp [hfinite, hcount])]
  exact ⟨_, rfl⟩

/-- The result goes by these names. -/
def Named (result : MaxTResult ℚ) (familyId : String) (stableIds : List String) : Prop :=
  result.familyId = familyId ∧ ∀ interval ∈ result.intervals, interval.stableId ∈ stableIds

/-- A family of contrasts that are zero in every block has its limits. -/
theorem maxT_zeros (h : Drawable bootstrap count) (familyId : String) {stableIds : List String}
    (hids : stableIds ≠ []) (oneSided : Bool) : ∃ result, maxT flat familyId stableIds
      (List.replicate count (zeros flat stableIds.length)) bootstrap 1 oneSided = .ok result ∧
        Named result familyId stableIds := by
  have hcount : count ≠ 0 := by
    have := h.blocks.1
    omega
  have hbound : positiveBound flat 1 = true := by decide +kernel
  have hwidth : stableIds.length ≠ 0 := mt List.length_eq_zero_iff.mp hids
  obtain ⟨critical, hcritical⟩ := empiricalP95_zeros h.replicates_ne
  rw [maxT, headD_zeros hcount, length_zeros, if_neg (by simp [hbound, hids, hcount]),
    bootstrapVectors_zeros h hwidth, ok_bind, meanVector_zeros hcount,
    standardErrors_zeros h.replicates_ne]
  simp only [statistics_zeros, ok_bind, hcritical]
  refine ⟨_, rfl, rfl, ?_⟩
  rw [forall_mem_map]
  intro column hcolumn
  exact (of_mem_zip hcolumn).1

end Bootstrap

/-! ### Blocks whose responses are zero -/

/-- A response of zero for every registered cell. -/
structure FlatBlock (block : CompleteBlockResponse ℚ) : Prop where
  keys : (block.cells.map CellResponse.key).Perm expectedStageACells
  zero : ∀ cell ∈ block.cells, cell.logP999 = 0

section Blocks

variable {block : CompleteBlockResponse ℚ} {blocks : List (CompleteBlockResponse ℚ)}

theorem FlatBlock.complete (h : FlatBlock block) : Complete flat block where
  length := by
    have hlength := h.keys.length_eq
    rw [length_map] at hlength
    rw [hlength]
    rfl
  finite := fun _ _ => rfl
  distinct := h.keys.nodup_iff.mpr expectedStageACells_nodup

theorem FlatBlock.holds (h : FlatBlock block) :
    Holds (block.cells.map CellResponse.entry) fun _ => 0 := by
  intro key hkey
  obtain ⟨cell, hcell, hsame⟩ := List.mem_map.mp (h.keys.mem_iff.mpr hkey)
  exact (cellOf_entries h.complete.distinct).mpr ⟨cell, hcell, hsame, h.zero cell hcell⟩

theorem weighted_zero (weight : CellKey → ℚ) : weighted weight (fun _ => 0) = 0 := by
  simp [weighted]

/-- Both families of contrasts of every block are zero. -/
theorem contrastVectors_flat (h : ∀ block ∈ blocks, FlatBlock block) :
    contrastVectors flat blocks =
      .ok (List.replicate blocks.length (zeros flat 7, zeros flat 20)) := by
  rw [contrastVectors, mapM_of_forall (g := fun _ => (zeros flat 7, zeros flat 20)),
    map_const']
  intro block hblock
  have hmap := cellMap_ok.mpr ⟨(h block hblock).complete, rfl⟩
  have hh1 := h1BlockContrasts_ok hmap (h block hblock).holds
  have hh2 := h2BlockContrasts_ok hmap (h block hblock).holds
  simp only [weighted_zero] at hh1 hh2
  rw [hh1, hh2]
  rfl

/-! ### The selection -/

/-- The candidate that is considered first. -/
def firstCandidate : H3Candidate := h3Candidates.headD ⟨.r0, .h0⟩

/-- The first candidate in each of the contexts. -/
def firstSelections : List (H3Context × H3Candidate) :=
  h3Contexts.map fun context => (context, firstCandidate)

theorem FlatBlock.h3Value (h : FlatBlock block) (context : H3Context) {candidate : H3Candidate}
    (hcandidate : candidate ∈ h3Candidates) :
    h3Value flat block context candidate = .ok 0 := by
  have hlevels : ∀ candidate ∈ h3Candidates, candidate.package ∈ packages ∧
      candidate.requestedHardwareState ∈ states := by decide
  have hcontext : (h3Placement context, h3WorkingSet context, LoadLevel.l050) ∈ stageAContexts := by
    cases context <;> decide
  obtain ⟨hpackage, hstate⟩ := hlevels candidate hcandidate
  rw [Analysis.h3Value, cellMap_ok.mpr ⟨h.complete, rfl⟩, ok_bind]
  exact h.holds.valueAt hpackage hstate hcontext

theorem h3Mean_flat (h : ∀ block ∈ blocks, FlatBlock block) (context : H3Context)
    {candidate : H3Candidate} (hcandidate : candidate ∈ h3Candidates) :
    h3Mean flat blocks context candidate = .ok 0 := by
  have hvalue : ∀ block ∈ blocks, _ := fun block hblock =>
    (h block hblock).h3Value context hcandidate
  rw [h3Mean, sumOver_ok (fun _ => 0) hvalue, ok_bind, map_const', sum_replicate, smul_zero]
  exact congrArg Except.ok (zero_div _)

/-- No mean is smaller than the first. -/
theorem selectedCandidate_flat (h : ∀ block ∈ blocks, FlatBlock block) (context : H3Context) :
    selectedCandidate flat blocks context = .ok firstCandidate := by
  have hkept : ∀ candidates ⊆ h3Candidates,
      candidates.foldlM (considerCandidate flat blocks context) (some (0, firstCandidate)) =
        .ok (some (0, firstCandidate)) := by
    intro candidates
    induction candidates with
    | nil => intro _; rfl
    | cons candidate rest ih =>
        intro hsubset
        obtain ⟨hcandidate, hrest⟩ := List.cons_subset.mp hsubset
        rw [foldlM_cons, considerCandidate, h3Mean_flat h context hcandidate]
        exact ih hrest
  have hcandidates : h3Candidates = firstCandidate :: h3Candidates.tail := rfl
  have hfirst : firstCandidate ∈ h3Candidates := by decide
  rw [selectedCandidate, hcandidates, foldlM_cons, considerCandidate,
    h3Mean_flat h context hfirst]
  show (List.foldlM _ (some (0, firstCandidate)) _ >>= _) = _
  rw [hkept _ (tail_subset _)]
  rfl

theorem selections_flat (h : ∀ block ∈ blocks, FlatBlock block) :
    (h3Contexts.mapM fun context => do
      let candidate ← selectedCandidate flat blocks context
      .ok (context, candidate) : Outcome (List (H3Context × H3Candidate))) = .ok firstSelections :=
  mapM_of_forall fun context _ => by
    rw [selectedCandidate_flat h, ok_bind]

variable {conv : CharConv} {sha256 : Text → Sha256} {sources : List ArtifactReference}

theorem firstSelections_plain :
    PlainKeys (firstSelections.map fun selection => ascii (contextName selection.1)) := by
  decide

/-- A selection goes through, and takes the first candidate everywhere. -/
theorem selectH3Training_flat (h : ∀ block ∈ blocks, FlatBlock block) (hlength : 12 ≤ blocks.length)
    (hroles : ∀ block ∈ blocks, block.role = .h3Train) (hsources : sources ≠ [])
    (hencoded : ∀ source ∈ sources, IsUtf8 source.artifactId.val) :
    ∃ record, selectH3Training flat conv sha256 blocks sources = .ok record ∧
      record.selections = firstSelections ∧ Plain record.schemaVersion := by
  obtain ⟨record, hrecord, hselections⟩ :=
    @selectionRecord_isOk conv sha256 _ _ firstSelections_plain hencoded
  have htraining : blocks.all (fun block => block.role = .h3Train) = true := by
    simpa using hroles
  refine ⟨record, ?_, hselections⟩
  rw [selectH3Training, if_neg (by simp [htraining, hsources, hlength])]
  simp only [selections_flat h, ok_bind, hrecord]
  rfl

/-! ### The evaluation of the selection -/

/-- The comparisons of that selection. -/
def firstComparisons : List H3Comparison := comparisonsWith firstSelections

theorem reportedComparisons_first : h3ReportedComparisons firstSelections = .ok firstComparisons :=
  if_pos (by decide)

theorem firstComparisons_registered : ∀ comparison ∈ firstComparisons,
    comparison.left ∈ h3Candidates ∧ comparison.right ∈ h3Candidates := by
  decide

theorem FlatBlock.differences (h : FlatBlock block) {comparisons : List H3Comparison}
    (hregistered : ∀ comparison ∈ comparisons,
      comparison.left ∈ h3Candidates ∧ comparison.right ∈ h3Candidates) :
    comparisons.mapM (h3Difference flat block) = .ok (zeros flat comparisons.length) := by
  have hzero : flat.sub 0 0 = flat.zero := sub_zero _
  rw [mapM_of_forall (g := fun _ => flat.zero), map_const', zeros]
  intro comparison hcomparison
  obtain ⟨hleft, hright⟩ := hregistered comparison hcomparison
  rw [h3Difference, h.h3Value _ hleft, h.h3Value _ hright, ← hzero]
  rfl

theorem evaluateH3Validation_flat (h : ∀ block ∈ blocks, FlatBlock block)
    (hlength : 8 ≤ blocks.length) (hroles : ∀ block ∈ blocks, block.role = .h3Validation)
    {selection : H3SelectionRecord} (hselections : selection.selections = firstSelections)
    (hbootstrap : Drawable bootstrap blocks.length) :
    ∃ result, evaluateH3Validation flat blocks selection bootstrap 1 = .ok result ∧
      ∀ comparisons ∈ result.comparisons, PlainFamily comparisons := by
  have hvalidation : blocks.all (fun block => block.role = .h3Validation) = true := by
    simpa using hroles
  have hdifferences : (blocks.mapM fun block => firstComparisons.mapM (h3Difference flat block)) =
      .ok (List.replicate blocks.length (zeros flat firstComparisons.length)) := by
    rw [mapM_of_forall (g := fun _ => zeros flat firstComparisons.length),
      map_const']
    exact fun block hblock => (h block hblock).differences firstComparisons_registered
  have hids : firstComparisons.map comparisonId ≠ [] := by decide
  have hplain : ∀ id ∈ firstComparisons.map comparisonId, Plain (ascii id) := by decide
  obtain ⟨result, hresult, hfamily, hintervals⟩ :=
    maxT_zeros hbootstrap "H3-SELECTED-54-ONE-SIDED" hids true
  rw [length_map] at hresult
  rw [evaluateH3Validation, if_neg (by simp [hvalidation, hlength]), hselections,
    reportedComparisons_first, Outcome.of, ok_bind, hdifferences, ok_bind, hresult,
    ok_bind]
  refine ⟨_, rfl, ?_⟩
  rintro _ ⟨⟩
  exact ⟨by rw [hfamily]; decide, fun interval hinterval => hplain _
    (hintervals interval hinterval)⟩

/-! ### All inferences -/

theorem twoSided_flat {bootstrap : BootstrapConfiguration} {count : Nat}
    (h : Drawable bootstrap count) {familyId : String} {ids : List String} (hids : ids ≠ [])
    (hplain : Plain (ascii familyId) ∧ ∀ id ∈ ids, Plain (ascii id)) :
    ∃ family, twoSidedMaxT flat familyId ids (List.replicate count (zeros flat ids.length))
      bootstrap 1 = .ok family ∧ PlainFamily family := by
  obtain ⟨family, hfamily, hname, hintervals⟩ := maxT_zeros h familyId hids false
  exact ⟨family, hfamily, by rw [hname]; exact hplain.1,
    fun interval hinterval => hplain.2 _ (hintervals interval hinterval)⟩

/-- What the inferences need of blocks whose responses are zero. -/
structure Inferable (input : AnalysisInput ℚ) (blocks : List (CompleteBlockResponse ℚ)) : Prop where
  flat : ∀ block ∈ blocks, FlatBlock block
  training : 12 ≤ (blocksWithRole blocks .h3Train).length
  validation : 8 ≤ (blocksWithRole blocks .h3Validation).length
  delta : input.configuration.deltaStar = 1
  sources : trainingSourcesOf ((blocksWithRole blocks .h3Train).map CompleteBlockResponse.blockId)
    input.runs ≠ []
  encoded : ∀ run ∈ input.runs, IsUtf8 run.joinedArtifact.artifactId.val
  families : Drawable input.configuration.bootstrap blocks.length
  evaluation : Drawable input.configuration.bootstrap (blocksWithRole blocks .h3Validation).length

theorem preparationStages_plain : ∀ receipt ∈ preparationStages, Plain receipt.version := by
  simp [preparationStages, receipt]
  decide

/-- **Responses of zero are inferred from.** -/
theorem inferences_flat {input : AnalysisInput ℚ} (h : Inferable input blocks) :
    ∃ results, inferences conv sha256 flat input blocks = .ok results ∧ PlainResults results ∧
      results.selection.isSome = true := by
  have hrole : ∀ {role : BlockRole}, ∀ block ∈ blocksWithRole blocks role,
      FlatBlock block ∧ block.role = role := by
    intro role block hblock
    obtain ⟨hmem, hsame⟩ := List.mem_filter.mp hblock
    exact ⟨h.flat block hmem, of_decide_eq_true hsame⟩
  have hencoded : ∀ source ∈ trainingSourcesOf
      ((blocksWithRole blocks .h3Train).map CompleteBlockResponse.blockId) input.runs,
        IsUtf8 source.artifactId.val := by
    intro source hsource
    obtain ⟨run, hrun, rfl⟩ := List.mem_map.mp hsource
    exact h.encoded run (mem_of_mem_filter hrun)
  obtain ⟨selection, hselection, hselections, hschema⟩ := @selectH3Training_flat _ conv sha256 _
    (fun block hblock => (hrole block hblock).1) h.training
    (fun block hblock => (hrole block hblock).2) h.sources hencoded
  obtain ⟨h3, hh3, hcomparisons⟩ := evaluateH3Validation_flat
    (fun block hblock => (hrole block hblock).1) h.validation
    (fun block hblock => (hrole block hblock).2) hselections h.evaluation
  obtain ⟨h1, hh1, hplain1⟩ := @twoSided_flat _ _ h.families "H1-SEVEN-TWO-SIDED" h1ContrastIds
    (by decide) (by decide)
  obtain ⟨h2, hh2, hplain2⟩ := @twoSided_flat _ _ h.families "H2-TWENTY-TWO-SIDED" h2ContrastIds
    (by decide) (by decide)
  have hseven : h1ContrastIds.length = 7 := rfl
  have htwenty : h2ContrastIds.length = 20 := rfl
  rw [hseven] at hh1
  rw [htwenty] at hh2
  simp only [inferences, hselection, ok_bind, h.delta, hh3, contrastVectors_flat h.flat,
    map_replicate, hh1, hh2, Outcome.both]
  refine ⟨_, rfl, ⟨?_, ?_, ?_, ?_, ?_⟩, rfl⟩
  · rintro _ ⟨⟩
    exact hplain1
  · rintro _ ⟨⟩
    exact hplain2
  · rintro _ ⟨⟩
    exact hschema
  · rintro _ ⟨⟩
    exact hcomparisons
  · have hversion : Plain (ascii "v1") := by decide
    intro receipt hreceipt
    rcases List.mem_append.mp hreceipt with hreceipt | hreceipt
    · exact preparationStages_plain receipt hreceipt
    · simp only [mem_cons, not_mem_nil, or_false] at hreceipt
      rcases hreceipt with rfl | rfl | rfl | rfl | rfl | rfl | rfl | rfl <;> exact hversion

end Blocks

end CpuPrefetch.Analysis
