/-
The counts an analysis was sized for, and the precision plan they make.

The families, the sizes that follow from them and the blocks of each role are computed twice,
with different guards.  Both are compared with the equations between the exact counts: what one
of them accepts satisfies these, and what satisfies these the other accepts.
-/
import CpuPrefetch.Analysis.Admission
import CpuPrefetch.Analysis.Inputs
import CpuPrefetch.Proofs.Orchestration.PrecisionPlans

namespace CpuPrefetch.Analysis

open List
open Protocol Orchestration

variable {F : Type} {arith : Binary64 F} {value : F → ℚ}

/-! ### The order of the finite numbers -/

variable (arith value) in
/-- Finite numbers are compared as the values they stand for, and have finite halves. -/
structure FiniteOrder : Prop where
  less : ∀ {left right}, arith.isFinite left = true → arith.isFinite right = true →
    (arith.less left right = true ↔ value left < value right)
  lessEq : ∀ {left right}, arith.isFinite left = true → arith.isFinite right = true →
    (arith.lessEq left right = true ↔ value left ≤ value right)
  half : ∀ {number}, arith.isFinite number = true →
    arith.isFinite (arith.div number (arith.ofCount 2)) = true

/-- What the loop for the largest value holds is one of the values, and none is larger. -/
theorem foldl_maximum (h : FiniteOrder arith value) {values : List F} {held : F}
    (hfinite : ∀ number ∈ held :: values, arith.isFinite number = true) :
    values.foldl (maximum arith) held ∈ held :: values ∧
      ∀ number ∈ held :: values, value number ≤ value (values.foldl (maximum arith) held) := by
  induction values generalizing held with
  | nil =>
      refine ⟨mem_cons_self, fun number hnumber => ?_⟩
      rw [List.mem_singleton.mp hnumber]
      exact le_rfl
  | cons next rest ih =>
      rw [foldl_cons]
      have hheld := hfinite held mem_cons_self
      have hnext := hfinite next (mem_cons_of_mem _ mem_cons_self)
      have hrest : ∀ number ∈ rest, arith.isFinite number = true := fun number hnumber =>
        hfinite number (mem_cons_of_mem _ (mem_cons_of_mem _ hnumber))
      by_cases hless : arith.less held next = true
      · obtain ⟨hmem, hle⟩ := @ih next (List.forall_mem_cons.mpr ⟨hnext, hrest⟩)
        rw [maximum, if_pos hless]
        refine ⟨mem_cons_of_mem _ hmem, List.forall_mem_cons.mpr ⟨?_, hle⟩⟩
        exact ((h.less hheld hnext).mp hless).le.trans (hle next mem_cons_self)
      · obtain ⟨hmem, hle⟩ := @ih held (List.forall_mem_cons.mpr ⟨hheld, hrest⟩)
        rw [h.less hheld hnext, not_lt] at hless
        rw [maximum, if_neg (by rwa [h.less hheld hnext, not_lt])]
        obtain ⟨hfirst, hlater⟩ := List.forall_mem_cons.mp hle
        refine ⟨?_, List.forall_mem_cons.mpr ⟨hfirst, List.forall_mem_cons.mpr
          ⟨hless.trans hfirst, hlater⟩⟩⟩
        rcases List.mem_cons.mp hmem with hsame | hin
        · rw [hsame]
          exact mem_cons_self
        · exact mem_cons_of_mem _ (mem_cons_of_mem _ hin)

/-- The largest width is within a bound exactly when every width is. -/
theorem largestWidth_lessEq (h : FiniteOrder arith value) {widths : List F} {bound : F}
    (hwidths : ∀ width ∈ widths, arith.isFinite width = true) (hbound : arith.isFinite bound = true)
    (hne : widths ≠ []) :
    arith.lessEq (largestWidth arith widths) bound = true ↔
      ∀ width ∈ widths, arith.lessEq width bound = true := by
  obtain ⟨first, rest, rfl⟩ := exists_cons_of_ne_nil hne
  obtain ⟨hmem, hle⟩ := foldl_maximum h hwidths
  rw [largestWidth, tail_cons, headD_cons, h.lessEq (hwidths _ hmem) hbound]
  constructor
  · intro hlargest width hwidth
    rw [h.lessEq (hwidths width hwidth) hbound]
    exact (hle width hwidth).trans hlargest
  · intro hall
    exact (h.lessEq (hwidths _ hmem) hbound).mp (hall _ hmem)

/-! ### The count of a family -/

variable (arith) in
/-- Every width of the candidate is within half of the bound. -/
def Narrow (deltaStar : F) (candidate : ProspectiveCandidate F) : Prop :=
  ∀ width ∈ candidate.widths, arith.lessEq width (arith.div deltaStar (arith.ofCount 2)) = true

variable (arith) in
/-- The count is the least at which the family is narrow enough. -/
structure FamilyCount (deltaStar : F) (family : ProspectiveFamilyInput F) (kind : FamilyKind)
    (count : UInt64) : Prop where
  least : IsLeast {n | ∃ candidate ∈ family.candidates, Narrow arith deltaStar candidate ∧
    candidate.completeBlockCount.toNat = n} count.toNat
  minimum : (familyMinimum kind).toNat ≤ count.toNat
  ceiling : kind = .h1TwoSided ∨ kind = .h2TwoSided → count.toNat ≤ 30

theorem familyExpectedWidth_pos (kind : FamilyKind) : 0 < familyExpectedWidth kind := by
  cases kind <;> decide

variable {deltaStar : F}

/-- The loop over the candidates goes through when each is sound, and selects the first that is
narrow. -/
theorem selectCount_ok {kind : FamilyKind} {candidates : List (ProspectiveCandidate F)}
    {previous : UInt64} {selected result : Option UInt64}
    (h : selectCount arith kind deltaStar previous selected candidates = .ok result) :
    result = selected.or ((candidates.find? fun candidate =>
        arith.lessEq (largestWidth arith candidate.widths)
          (arith.div deltaStar (arith.ofCount 2))).map
          ProspectiveCandidate.completeBlockCount) ∧
      (∀ candidate ∈ candidates, ∃ before, candidateSound arith kind before candidate = true) ∧
      (∀ candidate ∈ candidates, previous.toNat < candidate.completeBlockCount.toNat) ∧
      candidates.Pairwise fun left right =>
        left.completeBlockCount.toNat < right.completeBlockCount.toNat := by
  induction candidates generalizing previous selected with
  | nil =>
      rw [selectCount] at h
      refine ⟨?_, forall_mem_nil _, forall_mem_nil _, .nil⟩
      rw [find?_nil, Option.map_none, Option.or_none, Except.ok.inj h]
  | cons candidate rest ih =>
      rw [selectCount] at h
      split at h
      · cases h
      rename_i hsound
      rw [Bool.not_eq_true', Bool.not_eq_false] at hsound
      obtain ⟨hresult, hrest, hlater, hsorted⟩ := ih h
      have hfirst : previous.toNat < candidate.completeBlockCount.toNat := by
        simp only [candidateSound, Bool.and_eq_true, decide_eq_true_eq] at hsound
        exact UInt64.lt_iff_toNat_lt.mp hsound.1.1.1
      refine ⟨?_, List.forall_mem_cons.mpr ⟨⟨previous, hsound⟩, hrest⟩,
        List.forall_mem_cons.mpr ⟨hfirst, fun other hother => hfirst.trans (hlater other hother)⟩,
        List.pairwise_cons.mpr ⟨hlater, hsorted⟩⟩
      rw [hresult, find?_cons]
      cases arith.lessEq (largestWidth arith candidate.widths)
          (arith.div deltaStar (arith.ofCount 2)) with
      | true => cases selected <;> rfl
      | false => rw [if_neg Bool.false_ne_true, Option.or_none]

theorem selectProspectiveCount_ok (horder : FiniteOrder arith value)
    {family : ProspectiveFamilyInput F} {kind : FamilyKind} {count : UInt64}
    (hdelta : arith.isFinite deltaStar = true)
    (h : selectProspectiveCount arith family kind deltaStar = .ok count) :
    FamilyCount arith deltaStar family kind count := by
  rw [selectProspectiveCount] at h
  split at h
  · cases h
  obtain ⟨result, hselected, h⟩ := Fallible.bind_ok h
  split at h
  · cases h
  rename_i selected
  obtain ⟨hfound, hsound, -, hsorted⟩ := selectCount_ok hselected
  split at h
  · cases h
  rename_i hceiling
  obtain rfl := Except.ok.inj h
  rw [Option.none_or] at hfound
  obtain ⟨candidate, hcandidate, rfl⟩ := Option.map_eq_some_iff.mp hfound.symm
  have hnarrow : ∀ other ∈ family.candidates, Narrow arith deltaStar other ↔
      arith.lessEq (largestWidth arith other.widths) (arith.div deltaStar (arith.ofCount 2)) =
        true := by
    intro other hother
    obtain ⟨before, hother⟩ := hsound other hother
    simp only [candidateSound, Bool.and_eq_true, decide_eq_true_eq, all_eq_true] at hother
    obtain ⟨⟨-, hlength⟩, hwidths⟩ := hother
    have hne : other.widths ≠ [] := by
      rw [← length_pos_iff, hlength]
      exact familyExpectedWidth_pos kind
    exact (largestWidth_lessEq horder (fun width hwidth => (hwidths width hwidth).1)
      (horder.half hdelta) hne).symm
  obtain ⟨hfits, front, back, hsplit, hwide⟩ := List.find?_eq_some_iff_append.mp hcandidate
  have hmem : candidate ∈ family.candidates := mem_of_find?_eq_some hcandidate
  refine
    { least := ⟨⟨candidate, hmem, (hnarrow candidate hmem).mpr hfits, rfl⟩, ?_⟩
      minimum := ?_
      ceiling := ?_ }
  · rintro n ⟨other, hother, hothers, rfl⟩
    rw [hnarrow other hother] at hothers
    rw [hsplit] at hother hsorted
    rcases List.mem_append.mp hother with hfront | hback
    · have hnot := hwide other hfront
      rw [hothers] at hnot
      cases hnot
    · rcases List.mem_cons.mp hback with rfl | hlater
      · exact le_rfl
      · exact ((List.pairwise_cons.mp (List.pairwise_append.mp hsorted).2.1).1 other hlater).le
  · obtain ⟨before, hcandidate⟩ := hsound candidate hmem
    simp only [candidateSound, Bool.and_eq_true, decide_eq_true_eq] at hcandidate
    exact UInt64.le_iff_toNat_le.mp hcandidate.1.1.2
  · intro hkind
    by_contra hlarge
    rw [not_le] at hlarge
    refine hceiling ?_
    rw [Bool.and_eq_true, Bool.or_eq_true, decide_eq_true_eq, decide_eq_true_eq, decide_eq_true_eq]
    exact ⟨hkind, UInt64.lt_iff_toNat_lt.mpr hlarge⟩

/-! ### The counts of a study -/

/-- The equations between the counts, on the exact numbers. -/
structure Consistent (counts : ProspectiveCounts) : Prop where
  r12 : counts.r12.toNat = max counts.rH1.toNat counts.rH2.toNat
  rtotal : counts.rtotal.toNat = max counts.r12.toNat (counts.rtrain.toNat + counts.rval.toNat)
  nruns : counts.nruns.toNat = 180 * counts.rtotal.toNat

variable (arith) in
/-- Each family's count is the one its curve selects. -/
structure Selected (input : ProspectivePrecisionInput F) (deltaStar : F)
    (counts : ProspectiveCounts) : Prop where
  h1 : selectProspectiveCount arith input.h1 .h1TwoSided deltaStar = .ok counts.rH1
  h2 : selectProspectiveCount arith input.h2 .h2TwoSided deltaStar = .ok counts.rH2
  training : selectProspectiveCount arith input.h3Training .h3TrainingStandardError deltaStar =
    .ok counts.rtrain
  validation : selectProspectiveCount arith input.h3Validation .h3ValidationOneSided deltaStar =
    .ok counts.rval

variable {counts : ProspectiveCounts} {input : ProspectivePrecisionInput F}

theorem evaluateProspectivePrecision_ok
    (h : evaluateProspectivePrecision arith input deltaStar = .ok counts) :
    positiveBound arith deltaStar = true ∧ Selected arith input deltaStar counts ∧
      Consistent counts := by
  rw [evaluateProspectivePrecision] at h
  split at h
  · cases h
  rename_i hpositive
  rw [Bool.not_eq_true', Bool.not_eq_false] at hpositive
  dsimp only at h
  split at h
  · rename_i h1 h2 train validation hh1 hh2 htrain hvalidation
    split at h
    · cases h
    rename_i blocks hadd
    split at h
    · cases h
    rename_i hfits
    obtain rfl := Except.ok.inj h
    refine ⟨hpositive, ⟨hh1, hh2, htrain, hvalidation⟩, ?_⟩
    refine ⟨toNat_max _ _, ?_, nruns_guard.mp ?_⟩
    · dsimp only
      rw [toNat_max, checkedAdd_some hadd]
    · rw [Bool.or_eq_false_iff, decide_eq_false_iff_not, decide_eq_false_iff_not, not_not]
      exact ⟨hfits, rfl⟩
  · cases h

theorem evaluateProspectivePrecision_of (hpositive : positiveBound arith deltaStar = true)
    (hselected : Selected arith input deltaStar counts) (hcounts : Consistent counts) :
    evaluateProspectivePrecision arith input deltaStar = .ok counts := by
  have hlt := counts.rtotal.toNat_lt
  have hrtotal := hcounts.rtotal
  have hfits : counts.rtrain.toNat + counts.rval.toNat < 2 ^ 64 := by omega
  have hsum : (counts.rtrain + counts.rval).toNat = counts.rtrain.toNat + counts.rval.toNat :=
    CheckedWords.toNat_add (by omega)
  have hr12 : max counts.rH1 counts.rH2 = counts.r12 :=
    UInt64.toNat_inj.mp (by rw [hcounts.r12, toNat_max])
  have htotal : max counts.r12 (counts.rtrain + counts.rval) = counts.rtotal :=
    UInt64.toNat_inj.mp (by rw [hcounts.rtotal, toNat_max, hsum])
  have hguard := nruns_guard.mpr hcounts.nruns
  rw [Bool.or_eq_false_iff, decide_eq_false_iff_not, decide_eq_false_iff_not, not_not] at hguard
  simp only [evaluateProspectivePrecision, hpositive, Bool.not_true, Bool.false_eq_true, if_false,
    hselected.h1, hselected.h2, hselected.training, hselected.validation, checkedAdd_eq hfits, hr12,
    htotal, hguard.1, ← hguard.2]

theorem sameCounts_iff {left right : ProspectiveCounts} :
    sameCounts left right = true ↔ left = right := by
  obtain ⟨a, b, c, d, e, f, g⟩ := left
  obtain ⟨a', b', c', d', e', f', g'⟩ := right
  simp only [sameCounts, Bool.and_eq_true, decide_eq_true_eq, ProspectiveCounts.mk.injEq, and_assoc]

theorem consistent_of_sized {roles : RoleCounts} (h : Sized counts roles) :
    Consistent counts := ⟨h.r12, h.rtotal, h.nruns⟩

variable (arith) in
/-- The count of each family is the least that is narrow enough. -/
structure LeastCounts (input : ProspectivePrecisionInput F) (deltaStar : F)
    (counts : ProspectiveCounts) : Prop where
  h1 : FamilyCount arith deltaStar input.h1 .h1TwoSided counts.rH1
  h2 : FamilyCount arith deltaStar input.h2 .h2TwoSided counts.rH2
  training : FamilyCount arith deltaStar input.h3Training .h3TrainingStandardError counts.rtrain
  validation : FamilyCount arith deltaStar input.h3Validation .h3ValidationOneSided counts.rval

theorem Selected.least (horder : FiniteOrder arith value)
    (hpositive : positiveBound arith deltaStar = true) (h : Selected arith input deltaStar counts) :
    LeastCounts arith input deltaStar counts := by
  rw [positiveBound, Bool.and_eq_true] at hpositive
  exact
    { h1 := selectProspectiveCount_ok horder hpositive.1 h.h1
      h2 := selectProspectiveCount_ok horder hpositive.1 h.h2
      training := selectProspectiveCount_ok horder hpositive.1 h.training
      validation := selectProspectiveCount_ok horder hpositive.1 h.validation }

theorem LeastCounts.sized (h : LeastCounts arith input deltaStar counts)
    (hcounts : Consistent counts) :
    Sized counts (rolesOf counts (counts.rtrain + counts.rval)) := by
  have hlt := counts.rtotal.toNat_lt
  have hrtotal := hcounts.rtotal
  have hsum : (counts.rtrain + counts.rval).toNat = counts.rtrain.toNat + counts.rval.toNat :=
    CheckedWords.toNat_add (by omega)
  exact
    { h1 := ⟨h.h1.minimum, h.h1.ceiling (Or.inl rfl)⟩
      h2 := ⟨h.h2.minimum, h.h2.ceiling (Or.inr rfl)⟩
      train := h.training.minimum
      validation := h.validation.minimum
      r12 := hcounts.r12
      rtotal := hcounts.rtotal
      nruns := hcounts.nruns
      trainRole := rfl
      validationRole := rfl
      supplemental := by rw [rolesOf_supplemental, hsum] }

/-- The blocks that an analysis demands of each role. -/
structure Demanded (blocks : List BlockInput) (roles : RoleCounts) : Prop where
  training : activeRoleCount blocks .h3Train = roles.h3Train
  validation : activeRoleCount blocks .h3Validation = roles.h3Validation
  supplemental : activeRoleCount blocks .h1h2Supplemental = roles.h1h2Supplemental

theorem roleCountErrors_eq_nil {input : AnalysisInput F}
    (h : precisionOf arith input = .ok counts) : roleCountErrors arith input = [] ↔
      Demanded input.blocks (rolesOf counts (counts.rtrain + counts.rval)) := by
  simp only [roleCountErrors, h, require_eq_nil, Bool.and_eq_true, decide_eq_true_eq, rolesOf]
  exact ⟨fun ⟨⟨htrain, hval⟩, hsupp⟩ => ⟨htrain, hval, hsupp⟩,
    fun hdemanded => ⟨⟨hdemanded.training, hdemanded.validation⟩, hdemanded.supplemental⟩⟩

/-! ### Agreement -/

variable (arith) in
/-- What the analysis sizes, the plan resolves, with the roles that the analysis demands. -/
structure Resolves (input : ProspectivePrecisionInput F) (deltaStar : F)
    (counts : ProspectiveCounts) (roles : RoleCounts) : Prop where
  least : LeastCounts arith input deltaStar counts
  sized : Sized counts roles
  resolved : ∀ evidence, BlindEvidence evidence →
    evaluatePrecisionPlan ⟨some counts, some evidence⟩ =
      .ok ⟨.resolved, some counts, some roles, some evidence, []⟩
  demanded : ∀ study, precisionOf arith study = .ok counts →
    (roleCountErrors arith study = [] ↔ Demanded study.blocks roles)

/-- **The two procedures agree on the sizes of a study.** -/
theorem sizing_procedures_agree (horder : FiniteOrder arith value) :
    (∀ input deltaStar counts, evaluateProspectivePrecision arith input deltaStar = .ok counts →
      ∃ roles, Resolves arith input deltaStar counts roles) ∧
    ∀ plan result counts, evaluatePrecisionPlan plan = .ok result → result.state = .resolved →
      result.counts = some counts →
      ∀ input deltaStar, positiveBound arith deltaStar = true →
        Selected arith input deltaStar counts →
        ∃ counts', evaluateProspectivePrecision arith input deltaStar = .ok counts' ∧
          sameCounts counts counts' = true := by
  constructor
  · intro input deltaStar counts h
    obtain ⟨hpositive, hselected, hcounts⟩ := evaluateProspectivePrecision_ok h
    have hleast := hselected.least horder hpositive
    have hsized := hleast.sized hcounts
    exact ⟨_,
      { least := hleast
        sized := hsized
        resolved := fun evidence hevidence => by
          exact (evaluatePrecisionPlan_resolved.mpr
            ⟨counts, evidence, _, rfl, hevidence, hsized, rfl⟩).1
        demanded := fun study hstudy => roleCountErrors_eq_nil hstudy }⟩
  · intro plan result counts h hstate hcounts input deltaStar hpositive hselected
    obtain ⟨counts', evidence, roles, -, -, hsized, rfl⟩ :=
      evaluatePrecisionPlan_resolved.mp ⟨h, hstate⟩
    obtain rfl := Option.some.inj hcounts
    exact ⟨_, evaluateProspectivePrecision_of hpositive hselected (consistent_of_sized hsized),
      sameCounts_iff.mpr rfl⟩

/-! ### A study to evaluate on -/

theorem exactArithmetic_order (inexact : Inexact) : FiniteOrder (exactArithmetic inexact) id where
  less := fun _ _ => decide_eq_true_iff
  lessEq := fun _ _ => decide_eq_true_iff
  half := fun _ => rfl

/-- The rationals; the sizing of a study takes no root, logarithm or bits. -/
def sizingArithmetic : Binary64 ℚ := exactArithmetic ⟨0, 0, id, id, fun _ => 0⟩

theorem sampleName_nonempty : ([95] : Text) ≠ [] := cons_ne_nil _ _

/-- A curve that is too wide at its first count, and narrow at the next. -/
def sampleCurve (kind : FamilyKind) : ProspectiveFamilyInput ℚ where
  family := kind
  sizingArtifact := ⟨⟨[95], sampleName_nonempty⟩, ⟨List.replicate 64 48, by decide⟩⟩
  candidates :=
    [⟨familyMinimum kind, List.replicate (familyExpectedWidth kind) 1⟩,
      ⟨familyMinimum kind + 4, List.replicate (familyExpectedWidth kind) (1 / 4)⟩]

def samplePrecision : ProspectivePrecisionInput ℚ :=
  ⟨sampleCurve .h1TwoSided, sampleCurve .h2TwoSided, sampleCurve .h3TrainingStandardError,
    sampleCurve .h3ValidationOneSided⟩

set_option maxRecDepth 4000 in
theorem sizing_procedures_agree_sample :
    ∃ roles, Resolves sizingArithmetic samplePrecision 1 ⟨24, 24, 24, 16, 12, 28, 5040⟩ roles :=
  (sizing_procedures_agree (exactArithmetic_order _)).1 _ _ _
    (Fallible.of_toOption (by decide +kernel))

end CpuPrefetch.Analysis
