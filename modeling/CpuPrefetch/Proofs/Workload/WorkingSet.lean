/-
The capacity that is selected is the extreme one of those that fit.

The bounds depend on the cache alone, so the scan stops at an overflow for every candidate or
for none; it goes through exactly when each candidate is sound and no capacity comes twice,
which no order of the candidates changes.
-/
import CpuPrefetch.Lib.Words
import CpuPrefetch.Lib.Fallible
import CpuPrefetch.Workload.WorkingSet

namespace CpuPrefetch.Workload

open List Fallible
open Protocol (WorkingSetClass)

/-- The byte bounds of a class, in exact arithmetic. -/
def WithinBounds (workingSetClass : WorkingSetClass) (cache : CacheCapacityEvidence)
    (footprint : UInt64) : Prop :=
  match workingSetClass with
  | .l2Resident => 4 * cache.cacheLineBytes.toNat < footprint.toNat ∧
      footprint.toNat ≤ cache.smallerUsableL2Bytes.toNat / 2
  | .llcResident => 2 * cache.smallerUsableL2Bytes.toNat < footprint.toNat ∧
      footprint.toNat ≤ cache.producerHomeUsableLlcBytes.toNat / 2
  | .beyondLlc => 2 * cache.producerHomeUsableLlcBytes.toNat ≤ footprint.toNat
  | .notApplicable => False

/-- Both queues would have a footprint within the bounds. -/
def Fits (workingSetClass : WorkingSetClass) (cache : CacheCapacityEvidence)
    (candidate : SharedFootprintCandidate) : Prop :=
  WithinBounds workingSetClass cache candidate.ringBytes ∧
    WithinBounds workingSetClass cache candidate.linkedBytes

instance {workingSetClass : WorkingSetClass} {cache : CacheCapacityEvidence} :
    DecidablePred (WithinBounds workingSetClass cache) := fun _ =>
  match workingSetClass with
  | .l2Resident => inferInstanceAs (Decidable (_ ∧ _))
  | .llcResident => inferInstanceAs (Decidable (_ ∧ _))
  | .beyondLlc => inferInstanceAs (Decidable (_ ≤ _))
  | .notApplicable => inferInstanceAs (Decidable False)

instance {workingSetClass : WorkingSetClass} {cache : CacheCapacityEvidence} :
    DecidablePred (Fits workingSetClass cache) := fun _ => inferInstanceAs (Decidable (_ ∧ _))

/-- No bound of any class is beyond 64 bits. -/
structure BoundsInRange (cache : CacheCapacityEvidence) : Prop where
  fourLines : 4 * cache.cacheLineBytes.toNat < 2 ^ 64
  twoL2 : 2 * cache.smallerUsableL2Bytes.toNat < 2 ^ 64
  twoLlc : 2 * cache.producerHomeUsableLlcBytes.toNat < 2 ^ 64

def Sound (candidate : SharedFootprintCandidate) : Prop :=
  isPowerOfTwo candidate.capacity = true ∧ candidate.ringBytes ≠ 0 ∧ candidate.linkedBytes ≠ 0

/-! ### One candidate -/

theorem checkedProduct_ok {left right product : UInt64} {field : String} :
    checkedProduct left right field = .ok product ↔
      left.toNat * right.toNat < 2 ^ 64 ∧ product.toNat = left.toNat * right.toNat := by
  rw [checkedProduct]
  split
  · rename_i hwraps
    have hlarge := CheckedWords.product_guard.mp hwraps
    exact iff_of_false nofun fun h => by omega
  · rename_i hfits
    rw [CheckedWords.product_guard, not_lt] at hfits
    have hproduct := CheckedWords.toNat_mul hfits
    constructor
    · intro h
      rw [← Except.ok.inj h]
      exact ⟨by omega, hproduct⟩
    · intro h
      exact congrArg Except.ok (UInt64.toNat_inj.mp (hproduct.trans h.2.symm))

theorem checkedSum_ok {left right sum : UInt64} {field : String} :
    checkedSum left right field = .ok sum ↔
      left.toNat + right.toNat < 2 ^ 64 ∧ sum.toNat = left.toNat + right.toNat := by
  rw [checkedSum]
  split
  · rename_i hwraps
    have hlarge := CheckedWords.sum_guard.mp hwraps
    exact iff_of_false nofun fun h => by omega
  · rename_i hfits
    rw [CheckedWords.sum_guard, not_lt] at hfits
    have hsum := CheckedWords.toNat_add hfits
    constructor
    · intro h
      rw [← Except.ok.inj h]
      exact ⟨by omega, hsum⟩
    · intro h
      exact congrArg Except.ok (UInt64.toNat_inj.mp (hsum.trans h.2.symm))

variable {workingSetClass : WorkingSetClass}

theorem matchesClass_iff {cache : CacheCapacityEvidence}
    {lowerL2 twiceL2 twiceLlc footprint : UInt64}
    (hlower : lowerL2.toNat = 4 * cache.cacheLineBytes.toNat)
    (htwice : twiceL2.toNat = 2 * cache.smallerUsableL2Bytes.toNat)
    (hllc : twiceLlc.toNat = 2 * cache.producerHomeUsableLlcBytes.toNat) :
    matchesClass workingSetClass cache lowerL2 twiceL2 twiceLlc footprint = true ↔
      WithinBounds workingSetClass cache footprint := by
  cases workingSetClass <;>
    simp [matchesClass, WithinBounds, UInt64.lt_iff_toNat_lt, UInt64.le_iff_toNat_le, hlower,
      htwice, hllc]

theorem bothMatch_ok {cache : CacheCapacityEvidence} {candidate : SharedFootprintCandidate}
    {fits : Bool} : bothMatch candidate cache workingSetClass = .ok fits ↔
      BoundsInRange cache ∧ (fits = true ↔ Fits workingSetClass cache candidate) := by
  constructor
  · intro h
    obtain ⟨lowerL2, hlower, h⟩ := bind_ok h
    obtain ⟨twiceL2, htwice, h⟩ := bind_ok h
    obtain ⟨twiceLlc, hllc, h⟩ := bind_ok h
    obtain ⟨hlowerFits, hlower⟩ := checkedProduct_ok.mp hlower
    obtain ⟨htwiceFits, htwice⟩ := checkedProduct_ok.mp htwice
    obtain ⟨hllcFits, hllc⟩ := checkedProduct_ok.mp hllc
    refine ⟨⟨hlowerFits, htwiceFits, hllcFits⟩, ?_⟩
    rw [← Except.ok.inj h, Bool.and_eq_true, matchesClass_iff hlower htwice hllc,
      matchesClass_iff hlower htwice hllc]
    exact Iff.rfl
  · rintro ⟨hrange, hfits⟩
    have hproduct : ∀ factor bytes : UInt64, factor.toNat * bytes.toNat < 2 ^ 64 →
        ∀ field, ∃ product, checkedProduct factor bytes field = .ok product := by
      intro factor bytes hsmall field
      exact ⟨factor * bytes, checkedProduct_ok.mpr ⟨hsmall, CheckedWords.toNat_mul (by omega)⟩⟩
    obtain ⟨lowerL2, hlower⟩ := hproduct 4 cache.cacheLineBytes hrange.fourLines
      "four-cache-line lower bound"
    obtain ⟨twiceL2, htwice⟩ := hproduct 2 cache.smallerUsableL2Bytes hrange.twoL2
      "two-L2 lower bound"
    obtain ⟨twiceLlc, hllc⟩ := hproduct 2 cache.producerHomeUsableLlcBytes hrange.twoLlc
      "two-LLC lower bound"
    rw [bothMatch, hlower, ok_bind, htwice, ok_bind, hllc, ok_bind]
    refine congrArg Except.ok (Bool.eq_iff_iff.mpr ?_)
    rw [hfits, Bool.and_eq_true,
      matchesClass_iff (checkedProduct_ok.mp hlower).2 (checkedProduct_ok.mp htwice).2
        (checkedProduct_ok.mp hllc).2,
      matchesClass_iff (checkedProduct_ok.mp hlower).2 (checkedProduct_ok.mp htwice).2
        (checkedProduct_ok.mp hllc).2]
    exact Iff.rfl

/-- A candidate made from byte counts is sound, and its footprints are the exact sums. -/
theorem makeSharedFootprintCandidate_ok
    {capacity eventArenaBytes ringQueueBytes linkedQueueBytes : UInt64}
    {candidate : SharedFootprintCandidate}
    (h : makeSharedFootprintCandidate capacity eventArenaBytes ringQueueBytes linkedQueueBytes =
      .ok candidate) :
    Sound candidate ∧ candidate.capacity = capacity ∧
      candidate.ringBytes.toNat = eventArenaBytes.toNat + ringQueueBytes.toNat ∧
      candidate.linkedBytes.toNat = eventArenaBytes.toNat + linkedQueueBytes.toNat := by
  rw [makeSharedFootprintCandidate] at h
  split at h
  · cases h
  rename_i hcounts
  obtain ⟨ringBytes, hring, h⟩ := bind_ok h
  obtain ⟨linkedBytes, hlinked, h⟩ := bind_ok h
  have hring := (checkedSum_ok.mp hring).2
  have hlinked := (checkedSum_ok.mp hlinked).2
  simp only [Bool.not_eq_true', Bool.or_eq_true, decide_eq_true_eq, not_or, Bool.not_eq_false,
    and_assoc] at hcounts
  obtain ⟨hpower, hevents, -, -⟩ := hcounts
  have hpositive : eventArenaBytes.toNat ≠ 0 := fun hzero =>
    hevents (UInt64.toNat_inj.mp hzero)
  rw [← Except.ok.inj h]
  refine ⟨⟨hpower, ?_, ?_⟩, rfl, hring, hlinked⟩
  · rw [ne_eq, ← UInt64.toNat_inj, hring, UInt64.toNat_zero]
    omega
  · rw [ne_eq, ← UInt64.toNat_inj, hlinked, UInt64.toNat_zero]
    omega

/-! ### The scan -/

/-- Keeps a candidate in place of the one selected so far, as the class prefers. -/
def keep (workingSetClass : WorkingSetClass) (cache : CacheCapacityEvidence)
    (selected : Option SharedFootprintCandidate) (candidates : List SharedFootprintCandidate) :
    Option SharedFootprintCandidate :=
  (candidates.filter fun candidate => Fits workingSetClass cache candidate).foldl
    (Extremes.improve fun value best => better workingSetClass value best) selected

/-- The scan goes through unless a candidate is malformed, comes twice or meets an overflow. -/
theorem scanCandidates_ok {cache : CacheCapacityEvidence}
    {candidates : List SharedFootprintCandidate} {seen : List UInt64}
    {selected result : Option SharedFootprintCandidate} :
    scanCandidates workingSetClass cache seen selected candidates = .ok result ↔
      (∀ candidate ∈ candidates, Sound candidate ∧ candidate.capacity ∉ seen) ∧
        (candidates.map (·.capacity)).Nodup ∧ (candidates ≠ [] → BoundsInRange cache) ∧
        keep workingSetClass cache selected candidates = result := by
  induction candidates generalizing seen selected with
  | nil => simp [scanCandidates, keep, pure, Except.pure]
  | cons candidate rest ih =>
      rw [scanCandidates]
      split
      · rename_i hmalformed
        refine iff_of_false nofun fun h => ?_
        obtain ⟨⟨hpower, hring, hlinked⟩, -⟩ := h.1 candidate mem_cons_self
        simp [hpower, hring, hlinked] at hmalformed
      · rename_i hsound
        have hsound : Sound candidate := by
          simpa [Sound, and_assoc] using hsound
        split
        · rename_i hseen
          refine iff_of_false nofun fun h => ?_
          exact (h.1 candidate mem_cons_self).2 hseen
        · rename_i hnew
          constructor
          · intro h
            obtain ⟨fits, hfits, h⟩ := bind_ok h
            obtain ⟨hrange, hfits⟩ := bothMatch_ok.mp hfits
            obtain ⟨hrest, hnodup, -, hkeep⟩ := ih.mp h
            refine ⟨?_, ?_, fun _ => hrange, ?_⟩
            · intro other hother
              rcases List.mem_cons.mp hother with rfl | hlater
              · exact ⟨hsound, hnew⟩
              · obtain ⟨hother, hunseen⟩ := hrest other hlater
                exact ⟨hother, fun hold => hunseen (mem_cons_of_mem _ hold)⟩
            · rw [map_cons, nodup_cons]
              refine ⟨?_, hnodup⟩
              rw [mem_map]
              rintro ⟨other, hother, hsame⟩
              exact (hrest other hother).2 (by rw [hsame]; exact mem_cons_self)
            · rw [← hkeep, keep, keep]
              by_cases hfit : Fits workingSetClass cache candidate
              · rw [filter_cons_of_pos (by simpa using hfit), if_pos (hfits.mpr hfit)]
                rfl
              · rw [filter_cons_of_neg (by simpa using hfit),
                  if_neg fun hmatch => hfit (hfits.mp hmatch)]
          · rintro ⟨hall, hnodup, hrange, hkeep⟩
            rw [map_cons, nodup_cons] at hnodup
            have hmatch := bothMatch_ok.mpr ⟨hrange (cons_ne_nil _ _),
              decide_eq_true_iff (p := Fits workingSetClass cache candidate)⟩
            rw [hmatch, ok_bind, ih]
            refine ⟨?_, hnodup.2, fun _ => hrange (cons_ne_nil _ _), ?_⟩
            · intro other hother
              obtain ⟨hsoundOther, hunseen⟩ := hall other (mem_cons_of_mem _ hother)
              refine ⟨hsoundOther, fun hmem => ?_⟩
              rcases List.mem_cons.mp hmem with hsame | hold
              · exact hnodup.1 (List.mem_map.mpr ⟨other, hother, hsame⟩)
              · exact hunseen hold
            · rw [← hkeep, keep, keep]
              by_cases hfit : Fits workingSetClass cache candidate
              · rw [filter_cons_of_pos (by simpa using hfit), if_pos (by simpa using hfit)]
                rfl
              · rw [filter_cons_of_neg (by simpa using hfit), if_neg (by simpa using hfit)]

/-! ### The selection -/

/-- What the class wants more of: capacity, or beyond the LLC the lack of it. -/
def rank (workingSetClass : WorkingSetClass) (candidate : SharedFootprintCandidate) : Int :=
  if workingSetClass = .beyondLlc then -candidate.capacity.toNat else candidate.capacity.toNat

theorem better_ranks (workingSetClass : WorkingSetClass) :
    Extremes.Ranks (fun value best => better workingSetClass value best = true)
      (rank workingSetClass) := by
  intro value best
  by_cases hbeyond : workingSetClass = .beyondLlc
  · simp [better, rank, hbeyond, UInt64.lt_iff_toNat_lt]
  · simp [better, rank, hbeyond, UInt64.lt_iff_toNat_lt]

theorem rank_injOn {candidates : List SharedFootprintCandidate}
    (hnodup : (candidates.map (·.capacity)).Nodup) :
    Set.InjOn (rank workingSetClass) {candidate | candidate ∈ candidates} := by
  intro candidate hcandidate other hother hrank
  refine inj_on_of_nodup_map hnodup hcandidate hother ?_
  refine UInt64.toNat_inj.mp ?_
  unfold rank at hrank
  split at hrank <;> omega

/-- What a call must be given for its scan to go through. -/
structure Acceptable (workingSetClass : WorkingSetClass) (cache : CacheCapacityEvidence)
    (candidates : List SharedFootprintCandidate) : Prop where
  applicable : workingSetClass ≠ .notApplicable
  cacheFacts : cache.cacheLineBytes ≠ 0 ∧ isPowerOfTwo cache.cacheLineBytes = true ∧
    cache.smallerUsableL2Bytes ≠ 0 ∧ cache.producerHomeUsableLlcBytes ≠ 0
  nonempty : candidates ≠ []
  sound : ∀ candidate ∈ candidates, Sound candidate
  unique : (candidates.map (·.capacity)).Nodup
  inRange : BoundsInRange cache

/-- The best of the candidates that fit. -/
structure Extreme (workingSetClass : WorkingSetClass) (cache : CacheCapacityEvidence)
    (candidates : List SharedFootprintCandidate) (selection : CapacitySelection) : Prop where
  sameClass : selection.workingSetClass = workingSetClass
  mem : selection.selected ∈ candidates
  fits : Fits workingSetClass cache selection.selected
  inRange : BoundsInRange cache
  extreme : ∀ candidate ∈ candidates, Fits workingSetClass cache candidate →
    if workingSetClass = .beyondLlc then selection.selected.capacity ≤ candidate.capacity
    else candidate.capacity ≤ selection.selected.capacity

section

variable {workingSetClass : WorkingSetClass} {cache : CacheCapacityEvidence}
  {candidates candidates' : List SharedFootprintCandidate} {selection : CapacitySelection}

theorem selectCommonCapacity_ok :
    selectCommonCapacity workingSetClass cache candidates = .ok selection ↔
      Acceptable workingSetClass cache candidates ∧
        selection.workingSetClass = workingSetClass ∧
        keep workingSetClass cache none candidates = some selection.selected := by
  rw [selectCommonCapacity]
  split
  · rename_i hclass
    exact iff_of_false nofun fun h => h.1.applicable hclass
  rename_i hclass
  split
  · rename_i hcache
    refine iff_of_false nofun fun h => ?_
    obtain ⟨hline, hpower, hl2, hllc⟩ := h.1.cacheFacts
    simp [hline, hpower, hl2, hllc] at hcache
  rename_i hcache
  split
  · rename_i hempty
    exact iff_of_false nofun fun h => h.1.nonempty hempty
  rename_i hnonempty
  constructor
  · intro h
    obtain ⟨kept, hscan, h⟩ := bind_ok h
    obtain ⟨hall, hnodup, hrange, hkeep⟩ := scanCandidates_ok.mp hscan
    cases kept with
    | none => cases h
    | some selected =>
        rw [← Except.ok.inj h]
        refine ⟨⟨hclass, ?_, hnonempty, fun candidate hcandidate => (hall candidate hcandidate).1,
          hnodup, hrange hnonempty⟩, rfl, hkeep⟩
        simpa [and_assoc] using hcache
  · rintro ⟨haccept, hsame, hkeep⟩
    have hscan := scanCandidates_ok.mpr ⟨fun candidate hcandidate =>
      ⟨haccept.sound candidate hcandidate, not_mem_nil⟩, haccept.unique,
      fun _ => haccept.inRange, hkeep⟩
    rw [hscan, ok_bind]
    exact congrArg Except.ok (by rw [← hsame])

theorem Acceptable.perm (hperm : candidates.Perm candidates')
    (h : Acceptable workingSetClass cache candidates) :
    Acceptable workingSetClass cache candidates' where
  applicable := h.applicable
  cacheFacts := h.cacheFacts
  nonempty hempty := h.nonempty (List.perm_nil.mp (hempty ▸ hperm))
  sound candidate hcandidate := h.sound candidate (hperm.mem_iff.mpr hcandidate)
  unique := (hperm.map _).nodup_iff.mp h.unique
  inRange := h.inRange

theorem keep_perm (hperm : candidates.Perm candidates')
    (hnodup : (candidates.map (·.capacity)).Nodup) :
    keep workingSetClass cache none candidates = keep workingSetClass cache none candidates' := by
  refine Extremes.foldl_improve_perm (better_ranks workingSetClass) (hperm.filter _) ?_
  exact (rank_injOn hnodup).mono fun candidate hcandidate => mem_of_mem_filter hcandidate

theorem extreme_of_keep (haccept : Acceptable workingSetClass cache candidates)
    (hclass : selection.workingSetClass = workingSetClass)
    (hkeep : keep workingSetClass cache none candidates = some selection.selected) :
    Extreme workingSetClass cache candidates selection := by
  obtain ⟨hmem, hle⟩ := Extremes.foldl_improve (better_ranks workingSetClass) hkeep
  obtain ⟨hmem, hfits⟩ := List.mem_filter.mp hmem
  refine ⟨hclass, hmem, of_decide_eq_true hfits, haccept.inRange, ?_⟩
  intro candidate hcandidate hfit
  have hrank := hle candidate (List.mem_filter.mpr ⟨hcandidate, decide_eq_true hfit⟩)
  unfold rank at hrank
  split at hrank <;> rename_i hbeyond
  · rw [if_pos hbeyond, UInt64.le_iff_toNat_le]
    omega
  · rw [if_neg hbeyond, UInt64.le_iff_toNat_le]
    omega

end

/-- **The selected capacity is extreme**, and no order of the candidates changes whether one is
selected or which. -/
theorem common_capacity_extreme {workingSetClass : WorkingSetClass} {cache : CacheCapacityEvidence}
    {candidates candidates' : List SharedFootprintCandidate} (hperm : candidates.Perm candidates')
    (selection : CapacitySelection) :
    (selectCommonCapacity workingSetClass cache candidates = .ok selection →
        Extreme workingSetClass cache candidates selection) ∧
      (selectCommonCapacity workingSetClass cache candidates = .ok selection ↔
        selectCommonCapacity workingSetClass cache candidates' = .ok selection) := by
  have hmove : ∀ {first second : List SharedFootprintCandidate}, first.Perm second →
      selectCommonCapacity workingSetClass cache first = .ok selection →
      selectCommonCapacity workingSetClass cache second = .ok selection := by
    intro first second hperm h
    obtain ⟨haccept, hclass, hkeep⟩ := selectCommonCapacity_ok.mp h
    rw [selectCommonCapacity_ok, ← keep_perm hperm haccept.unique]
    exact ⟨haccept.perm hperm, hclass, hkeep⟩
  refine ⟨fun h => ?_, hmove hperm, hmove hperm.symm⟩
  obtain ⟨haccept, hclass, hkeep⟩ := selectCommonCapacity_ok.mp h
  exact extreme_of_keep haccept hclass hkeep

namespace Example

def cache : CacheCapacityEvidence := ⟨64, 1048576, 33554432⟩

def candidates : List SharedFootprintCandidate :=
  [⟨1024, 65536, 131072⟩, ⟨4096, 262144, 524288⟩, ⟨8192, 524288, 1048576⟩]

end Example

/-- The largest of three would outgrow half of the L2 with linked nodes. -/
theorem common_capacity_extreme_l2 :
    Extreme .l2Resident Example.cache Example.candidates
        ⟨.l2Resident, ⟨4096, 262144, 524288⟩⟩ ∧
      selectCommonCapacity .l2Resident Example.cache Example.candidates.reverse =
        .ok ⟨.l2Resident, ⟨4096, 262144, 524288⟩⟩ := by
  have hselected : selectCommonCapacity .l2Resident Example.cache Example.candidates =
      .ok ⟨.l2Resident, ⟨4096, 262144, 524288⟩⟩ := by decide +kernel
  obtain ⟨hextreme, horder⟩ :=
    common_capacity_extreme (reverse_perm Example.candidates).symm _
  exact ⟨hextreme hselected, horder.mp hselected⟩

end CpuPrefetch.Workload
