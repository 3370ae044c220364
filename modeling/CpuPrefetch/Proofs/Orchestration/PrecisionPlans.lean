/-
What a precision plan that is resolved has been sized for.

The counts are stated without words: each equation holds of the exact numbers, and since the
last of them fits in a word, so does everything on the way to it.
-/
import CpuPrefetch.Lib.Words
import CpuPrefetch.Lib.Fallible
import CpuPrefetch.Lib.Keyed
import CpuPrefetch.Orchestration.PrecisionPlan

namespace CpuPrefetch.Orchestration

open Protocol
open Protocol.Load (ArtifactReference)

/-- The exact equations between the counts of a study, and the blocks of each role. -/
structure Sized (counts : ProspectiveCounts) (roles : RoleCounts) : Prop where
  h1 : 20 ≤ counts.rH1.toNat ∧ counts.rH1.toNat ≤ 30
  h2 : 20 ≤ counts.rH2.toNat ∧ counts.rH2.toNat ≤ 30
  train : 12 ≤ counts.rtrain.toNat
  validation : 8 ≤ counts.rval.toNat
  r12 : counts.r12.toNat = max counts.rH1.toNat counts.rH2.toNat
  rtotal : counts.rtotal.toNat = max counts.r12.toNat (counts.rtrain.toNat + counts.rval.toNat)
  nruns : counts.nruns.toNat = 180 * counts.rtotal.toNat
  trainRole : roles.h3Train = counts.rtrain
  validationRole : roles.h3Validation = counts.rval
  supplemental : roles.h1h2Supplemental.toNat =
    counts.r12.toNat - (counts.rtrain.toNat + counts.rval.toNat)

/-- Evidence that names six distinct references, and sources that saw no outcome. -/
structure BlindEvidence (evidence : ProspectivePrecisionEvidence) : Prop where
  valid : ∀ reference ∈ evidence.references, evidenceValid reference = true
  distinct : (evidence.references.map fun reference => reference.artifactId.val).Nodup
  sources : evidence.inputArtifacts ≠ []
  blind : ∀ source ∈ evidence.inputArtifacts, sourceBlind source = true

/-! ### The evidence -/

theorem distinctReferences_iff {seen : List Text} {references : List ArtifactReference} :
    distinctReferences seen references = true ↔
      (∀ reference ∈ references, evidenceValid reference = true) ∧
        Keyed.Fresh seen (references.map fun reference => reference.artifactId.val) := by
  induction references generalizing seen with
  | nil => simp [distinctReferences]
  | cons reference rest ih =>
      rw [distinctReferences, Bool.and_eq_true, Bool.and_eq_true, decide_eq_true_eq, ih,
        List.map_cons, Keyed.fresh_cons, List.forall_mem_cons]
      tauto

theorem checkSources_ok {index : Nat} {sources : List AccessInputArtifact} :
    checkSources index sources = .ok () ↔ ∀ source ∈ sources, sourceBlind source = true := by
  induction sources generalizing index with
  | nil => exact iff_of_true rfl (List.forall_mem_nil _)
  | cons source rest ih =>
      rw [checkSources, List.forall_mem_cons, ← @ih (index + 1)]
      cases sourceBlind source with
      | true => simp
      | false => exact iff_of_false (fun h => by cases h) (by simp)

/-! ### The counts -/

theorem toNat_max (left right : UInt64) : (max left right).toNat = max left.toNat right.toNat :=
  UInt64.toNat_max left right

theorem cells_toNat : (UInt64.ofNat kStageACellsPerBlock).toNat = 180 := rfl

/-- The guard on the product is that it is exact. -/
theorem nruns_guard {rtotal nruns : UInt64} :
    (rtotal > 0xffffffffffffffff / .ofNat kStageACellsPerBlock ||
        nruns ≠ rtotal * .ofNat kStageACellsPerBlock) = false ↔
      nruns.toNat = 180 * rtotal.toNat := by
  have hlarge : rtotal > 0xffffffffffffffff / .ofNat kStageACellsPerBlock ↔
      2 ^ 64 - 1 < 180 * rtotal.toNat := by
    have hguard := @CheckedWords.product_guard (.ofNat kStageACellsPerBlock) rtotal
    rw [cells_toNat] at hguard
    rw [← hguard]
    exact (and_iff_right (by decide)).symm
  rw [Bool.or_eq_false_iff, decide_eq_false_iff_not, decide_eq_false_iff_not, not_not, hlarge]
  have hmul : ¬2 ^ 64 - 1 < 180 * rtotal.toNat →
      (rtotal * .ofNat kStageACellsPerBlock).toNat = 180 * rtotal.toNat := by
    intro hfits
    rw [CheckedWords.toNat_mul, cells_toNat, Nat.mul_comm]
    rw [cells_toNat]
    omega
  constructor
  · rintro ⟨hfits, rfl⟩
    exact hmul hfits
  · intro hexact
    have hlt := nruns.toNat_lt
    have hfits : ¬2 ^ 64 - 1 < 180 * rtotal.toNat := by omega
    exact ⟨hfits, UInt64.toNat_inj.mp (hexact.trans (hmul hfits).symm)⟩

theorem checkedAdd_eq {left right : UInt64} (h : left.toNat + right.toNat < 2 ^ 64) :
    checkedAdd left right = some (left + right) := by
  cases hsum : checkedAdd left right with
  | none =>
      have hlarge := checkedAdd_none hsum
      omega
  | some sum =>
      have hexact := checkedAdd_some hsum
      congr 1
      refine UInt64.toNat_inj.mp ?_
      rw [hexact, CheckedWords.toNat_add (by omega)]

variable {counts : ProspectiveCounts}

theorem rolesOf_supplemental {trainAndValidation : UInt64} :
    (rolesOf counts trainAndValidation).h1h2Supplemental.toNat =
      counts.r12.toNat - trainAndValidation.toNat := by
  rw [rolesOf]
  dsimp only
  split
  · rename_i hmore
    exact UInt64.toNat_sub_of_le _ _ (UInt64.le_of_lt hmore)
  · rename_i hfew
    rw [gt_iff_lt, UInt64.lt_iff_toNat_lt, not_lt] at hfew
    rw [UInt64.toNat_zero]
    omega

theorem evaluateCounts_resolved {evidence : ProspectivePrecisionEvidence}
    {result : PrecisionResult} (h : evaluateCounts counts evidence = .ok result)
    (hstate : result.state = .resolved) : ∃ roles, Sized counts roles ∧
      result = ⟨.resolved, some counts, some roles, some evidence, []⟩ := by
  rw [evaluateCounts] at h
  split at h
  · cases h
  rename_i hminima
  split at h
  · cases h
  rename_i hr12
  split at h
  · cases h
  rename_i trainAndValidation hadd
  split at h
  · cases h
  rename_i hrtotal
  split at h
  · cases h
  rename_i hnruns
  dsimp only at h
  split at h
  · rw [← Except.ok.inj h] at hstate
    cases hstate
  rename_i hceiling
  split at h
  · cases h
  simp only [Bool.or_eq_true, decide_eq_true_eq, not_or, UInt64.not_lt, gt_iff_lt,
    UInt64.le_iff_toNat_le] at hminima hceiling
  obtain ⟨⟨⟨hh1, hh2⟩, htrain⟩, hvalidation⟩ := hminima
  have hsum := checkedAdd_some hadd
  refine ⟨rolesOf counts trainAndValidation, ?_, (Except.ok.inj h).symm⟩
  exact
    { h1 := ⟨hh1, hceiling.1⟩
      h2 := ⟨hh2, hceiling.2⟩
      train := htrain
      validation := hvalidation
      r12 := by rw [not_not.mp hr12, toNat_max]
      rtotal := by rw [not_not.mp hrtotal, toNat_max, hsum]
      nruns := nruns_guard.mp (Bool.not_eq_true _ ▸ hnruns)
      trainRole := rfl
      validationRole := rfl
      supplemental := by rw [rolesOf_supplemental, hsum] }

theorem evaluateCounts_of_sized {roles : RoleCounts} (evidence : ProspectivePrecisionEvidence)
    (h : Sized counts roles) :
    evaluateCounts counts evidence =
      .ok ⟨.resolved, some counts, some roles, some evidence, []⟩ := by
  have hlt := counts.rtotal.toNat_lt
  have hrtotal := h.rtotal
  have hfits : counts.rtrain.toNat + counts.rval.toNat < 2 ^ 64 := by omega
  have hsum : (counts.rtrain + counts.rval).toNat = counts.rtrain.toNat + counts.rval.toNat :=
    CheckedWords.toNat_add (by omega)
  have hminima : ¬(counts.rH1 < 20 || counts.rH2 < 20 || counts.rtrain < 12 ||
    counts.rval < 8) := by
    simp only [Bool.or_eq_true, decide_eq_true_eq, not_or, UInt64.not_lt, UInt64.le_iff_toNat_le]
    exact ⟨⟨⟨h.h1.1, h.h2.1⟩, h.train⟩, h.validation⟩
  have hceiling : ¬(counts.rH1 > 30 || counts.rH2 > 30) := by
    simp only [Bool.or_eq_true, decide_eq_true_eq, not_or, gt_iff_lt, UInt64.not_lt,
      UInt64.le_iff_toNat_le]
    exact ⟨h.h1.2, h.h2.2⟩
  have hr12 : counts.r12 = max counts.rH1 counts.rH2 :=
    UInt64.toNat_inj.mp (by rw [h.r12, toNat_max])
  have htotal : counts.rtotal = max counts.r12 (counts.rtrain + counts.rval) :=
    UInt64.toNat_inj.mp (by rw [h.rtotal, toNat_max, hsum])
  have hroles : rolesOf counts (counts.rtrain + counts.rval) = roles := by
    have hsupplemental : (rolesOf counts (counts.rtrain + counts.rval)).h1h2Supplemental =
        roles.h1h2Supplemental :=
      UInt64.toNat_inj.mp (by rw [rolesOf_supplemental, hsum, h.supplemental])
    obtain ⟨train, validation, supplemental⟩ := roles
    obtain rfl : train = counts.rtrain := h.trainRole
    obtain rfl : validation = counts.rval := h.validationRole
    exact congrArg (RoleCounts.mk counts.rtrain counts.rval) hsupplemental
  have hregistries : ¬(h1ContrastIds.length ≠ kH1ContrastCount ||
      h2ContrastIds.length ≠ kH2ContrastCount ||
      h3TrainingPairs.length ≠ kH3TrainingPairCount ||
      h3ValidationFamily.length ≠ kH3ValidationFamilyCount) := by decide +kernel
  rw [evaluateCounts, if_neg hminima, if_neg (not_not.mpr hr12), checkedAdd_eq hfits]
  dsimp only
  rw [if_neg (not_not.mpr htotal), if_neg (Bool.not_eq_true _ ▸ nruns_guard.mpr h.nruns),
    if_neg hceiling, if_neg hregistries, hroles]

/-- **A plan is resolved exactly when it is sized on blind evidence.** -/
theorem evaluatePrecisionPlan_resolved {input : PrecisionPlanInput} {result : PrecisionResult} :
    evaluatePrecisionPlan input = .ok result ∧ result.state = .resolved ↔
      ∃ counts evidence roles, input = ⟨some counts, some evidence⟩ ∧ BlindEvidence evidence ∧
        Sized counts roles ∧ result = ⟨.resolved, some counts, some roles, some evidence, []⟩ := by
  constructor
  · rintro ⟨h, hstate⟩
    rw [evaluatePrecisionPlan] at h
    split at h
    · rename_i counts evidence hcounts hevidence
      split at h
      · cases h
      rename_i hreferences
      split at h
      · cases h
      rename_i hsources
      obtain ⟨⟨⟩, hblind, h⟩ := Fallible.bind_ok h
      obtain ⟨roles, hsized, hresult⟩ := evaluateCounts_resolved h hstate
      rw [Bool.not_eq_true', Bool.not_eq_false, distinctReferences_iff] at hreferences
      obtain ⟨hvalid, hdistinct⟩ := hreferences
      refine ⟨counts, evidence, roles, ?_, ⟨hvalid, Keyed.fresh_iff_nodup.mp hdistinct, hsources,
        checkSources_ok.mp hblind⟩, hsized, hresult⟩
      rw [← hcounts, ← hevidence]
    · rw [← Except.ok.inj h] at hstate
      cases hstate
  · rintro ⟨counts, evidence, roles, rfl, hevidence, hsized, rfl⟩
    refine ⟨?_, rfl⟩
    have hreferences : distinctReferences [] evidence.references = true :=
      distinctReferences_iff.mpr ⟨hevidence.valid, Keyed.fresh_iff_nodup.mpr hevidence.distinct⟩
    simp only [evaluatePrecisionPlan, hreferences, Bool.not_true, Bool.false_eq_true, if_false,
      if_neg hevidence.sources, checkSources_ok.mpr hevidence.blind]
    exact evaluateCounts_of_sized evidence hsized

end CpuPrefetch.Orchestration
