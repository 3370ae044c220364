/-
What becomes of a resolved distance in the workload.

The workload reckons one line and the calibrated distance again, from the geometry and the number
of lines.  It comes to the same slots whenever it accepts the geometry, and it accepts it when the
capacity is a power of two; the calibration does not ask for that.
-/
import CpuPrefetch.Proofs.Calibration.RingDistance
import CpuPrefetch.Workload.Packages

namespace CpuPrefetch.Calibration

open Example
open Protocol (Text)
open Workload (RingGeometry ringOneLineDistance resolveCalibratedRingDistance)

/-- The workload takes the distance of a context with any evidence identity, and it comes to the
same slots for one line and for all of them. -/
def Usable (geometry : RingGeometry) (result : RingContextResult) : Prop :=
  ∀ evidenceId : Text, evidenceId ≠ [] → ∃ d1 lines slots : UInt64,
    result.d1Slots = some d1 ∧ result.d2CacheLines = some lines ∧
    result.producerDistanceSlots = some slots ∧ result.consumerDistanceSlots = some slots ∧
    ringOneLineDistance geometry = .ok ⟨d1, 1⟩ ∧
    resolveCalibratedRingDistance geometry lines evidenceId = .ok ⟨⟨slots, lines⟩, evidenceId⟩

/-- What the arithmetic has found when it resolves. -/
structure Resolved (geometry : RingGeometry) (result : RingContextResult)
    (d1 lines slots : UInt64) : Prop where
  line : geometry.cacheLineBytes ≠ 0
  slot : geometry.slotBytes ≠ 0
  oneLine : checkedCeilDivide geometry.cacheLineBytes geometry.slotBytes = some d1
  atLeast : 2 ≤ lines
  atMost : lines ≤ geometry.capacity / 4 / d1
  product : checkedMultiply lines d1 = some slots
  more : d1 < slots
  d1Slots : result.d1Slots = some d1
  d2CacheLines : result.d2CacheLines = some lines
  producerDistanceSlots : result.producerDistanceSlots = some slots
  consumerDistanceSlots : result.consumerDistanceSlots = some slots

variable {geometry : RingGeometry}

theorem resolveDistance_resolved {demand issue : UInt64} {start : RingContextResult}
    (h : (resolveDistance geometry demand issue start).state = .resolved) :
    ∃ d1 lines slots, Resolved geometry (resolveDistance geometry demand issue start) d1 lines
      slots := by
  unfold resolveDistance at h
  split at h
  · cases h
  rename_i hgeometry
  split at h
  rotate_left
  · cases h
  rename_i d1 rawSlots hd1 hraw
  split at h
  · cases h
  rename_i rawLines hlines
  dsimp only at h
  split at h
  · cases h
  rename_i hcollapsed
  simp only [Bool.or_eq_true, decide_eq_true_eq, not_or] at hgeometry hcollapsed
  obtain ⟨⟨hcapacity, hline⟩, hslot⟩ := hgeometry
  obtain ⟨hfew, hgrows⟩ := hcollapsed
  -- a product that overflows would have been taken for a collapse
  obtain ⟨slots, hslots⟩ : ∃ slots, checkedMultiply
      (min (max 2 rawLines) (geometry.capacity / 4 / d1)) d1 = some slots := by
    refine Option.ne_none_iff_exists'.mp fun hnone => hgrows ?_
    rw [hnone]
    rfl
  rw [hslots, Option.all_some, decide_eq_true_eq, UInt64.not_le] at hgrows
  rw [UInt64.not_lt] at hfew
  have hresolve : resolveDistance geometry demand issue start =
      { start with
        d1Slots := some d1
        d2CacheLines := some (min (max 2 rawLines) (geometry.capacity / 4 / d1))
        producerDistanceSlots := some slots
        consumerDistanceSlots := some slots } := by
    simp [resolveDistance, hcapacity, hline, hslot, hd1, hraw, hlines, hslots,
      UInt64.not_lt.mpr hfew, UInt64.not_le.mpr hgrows]
  rw [hresolve]
  refine ⟨d1, _, slots, hline, hslot, hd1, ?_, ?_, hslots, hgrows, rfl, rfl, rfl, rfl⟩
  · rw [UInt64.le_iff_toNat_le, UInt64.toNat_min, UInt64.toNat_max]
    exact le_min (le_max_left _ _) (UInt64.le_iff_toNat_le.mp hfew)
  · rw [UInt64.le_iff_toNat_le, UInt64.toNat_min]
    exact min_le_right _ _

variable {d1 lines slots : UInt64} {result : RingContextResult}

/-- One line is at least one slot, and two of them fit in a quarter of the capacity. -/
theorem Resolved.bounds (h : Resolved geometry result d1 lines slots) :
    0 < d1.toNat ∧ lines.toNat * d1.toNat ≤ geometry.capacity.toNat / 4 ∧ 2 ≤ lines.toNat := by
  have htwo : 2 ≤ lines.toNat := UInt64.le_iff_toNat_le.mp h.atLeast
  have hcap : lines.toNat ≤ geometry.capacity.toNat / 4 / d1.toNat := by
    have := UInt64.le_iff_toNat_le.mp h.atMost
    rwa [UInt64.toNat_div, UInt64.toNat_div] at this
  have hpositive : 0 < d1.toNat := by
    by_contra hzero
    rw [show d1.toNat = 0 by omega, Nat.div_zero] at hcap
    omega
  exact ⟨hpositive, (Nat.le_div_iff_mul_le hpositive).mp hcap, htwo⟩

theorem oneLine_eq (h : Resolved geometry result d1 lines slots) :
    ringOneLineDistance geometry = if Workload.RingDistance.isPowerOfTwo geometry.capacity then
      .ok ⟨d1, 1⟩ else
      .error "ring distance requires power-of-two capacity and explicit nonzero units" := by
  obtain ⟨hpositive, hfits, htwo⟩ := h.bounds
  have hceil : geometry.cacheLineBytes / geometry.slotBytes +
      (if geometry.cacheLineBytes % geometry.slotBytes = 0 then 0 else 1) = d1 := by
    have honce := h.oneLine
    rw [checkedCeilDivide, if_neg h.slot] at honce
    dsimp only at honce
    by_cases hexact : geometry.cacheLineBytes % geometry.slotBytes = 0
    · rw [if_neg (not_not.mpr hexact)] at honce
      rw [if_pos hexact, UInt64.add_zero]
      exact Option.some.inj honce
    · rw [if_pos hexact] at honce
      rw [if_neg hexact]
      split at honce
      · cases honce
      · exact Option.some.inj honce
  have hsmall : d1.toNat < geometry.capacity.toNat := by
    have := Nat.mul_le_mul_right d1.toNat htwo
    omega
  have hinside : (d1 = 0 || d1 ≥ geometry.capacity) = false := by
    simp only [Bool.or_eq_false_iff, decide_eq_false_iff_not, ge_iff_le, UInt64.not_le,
      UInt64.lt_iff_toNat_lt]
    refine ⟨fun hzero => ?_, hsmall⟩
    rw [hzero] at hpositive
    exact Nat.lt_irrefl 0 hpositive
  rw [ringOneLineDistance]
  cases hpower : Workload.RingDistance.isPowerOfTwo geometry.capacity with
  | false => simp [throw, throwThe, MonadExceptOf.throw]
  | true => simp [h.line, h.slot, hceil, hinside, pure, Except.pure]

theorem resolve_eq (h : Resolved geometry result d1 lines slots)
    (hpower : Workload.RingDistance.isPowerOfTwo geometry.capacity = true) {evidenceId : Text}
    (hevidence : evidenceId ≠ []) :
    resolveCalibratedRingDistance geometry lines evidenceId = .ok ⟨⟨slots, lines⟩, evidenceId⟩ := by
  obtain ⟨hpositive, hfits, htwo⟩ := h.bounds
  have hbound := geometry.capacity.toNat_lt
  have hslots : slots = d1 * lines := by
    have hsmall : lines.toNat * d1.toNat < 2 ^ 64 := by omega
    have hproduct := Analysis.checkedMultiply_eq hsmall
    rw [UInt64.mul_comm]
    exact Option.some.inj (h.product.symm.trans hproduct)
  have hnat : slots.toNat = lines.toNat * d1.toNat := by
    rw [hslots, CheckedWords.toNat_mul (by rw [Nat.mul_comm]; omega), Nat.mul_comm]
  have hmultiply : Workload.RingDistance.checkedMultiply d1 lines = .ok slots := by
    have hguard : ¬ (d1 ≠ 0 ∧ lines > 0xffffffffffffffff / d1) := by
      rw [CheckedWords.product_guard, Nat.mul_comm]
      omega
    rw [Workload.RingDistance.checkedMultiply, if_neg (by simpa using hguard), hslots]
    rfl
  have hquarter : ¬ slots > geometry.capacity / 4 := by
    rw [gt_iff_lt, UInt64.lt_iff_toNat_lt, UInt64.toNat_div, hnat]
    exact Nat.not_lt.mpr hfits
  have hdistinct : slots ≠ d1 := (UInt64.ne_of_lt h.more).symm
  have hlines : ¬ lines < 2 := UInt64.not_lt.mpr h.atLeast
  rw [resolveCalibratedRingDistance, oneLine_eq h, if_pos hpower]
  simp [hevidence, hlines, hmultiply, hquarter, hdistinct, bind, Except.bind, pure, Except.pure]

/-- A resolved distance is usable exactly when the capacity is a power of two. -/
theorem Resolved.usable_iff (h : Resolved geometry result d1 lines slots) :
    Usable geometry result ↔ Workload.RingDistance.isPowerOfTwo geometry.capacity = true := by
  constructor
  · intro husable
    obtain ⟨_, _, _, -, -, -, -, honeLine, -⟩ := husable [0] (List.cons_ne_nil _ _)
    by_contra hpower
    rw [oneLine_eq h, if_neg hpower] at honeLine
    cases honeLine
  · intro hpower evidenceId hevidence
    refine ⟨d1, lines, slots, h.d1Slots, h.d2CacheLines, h.producerDistanceSlots,
      h.consumerDistanceSlots, ?_, resolve_eq h hpower hevidence⟩
    rw [oneLine_eq h, if_pos hpower]

theorem finishContext_resolved {context : RingContextPlan} {progress : ContextProgress}
    (h : (finishContext context progress).state = .resolved) :
    ∃ d1 lines slots,
      Resolved context.geometry (finishContext context progress) d1 lines slots := by
  unfold finishContext at h ⊢
  dsimp only at h ⊢
  split at h
  · rename_i hblockers hpd hcd hpi hci
    rw [hblockers, hpd, hcd, hpi, hci] at *
    exact resolveDistance_resolved h
  · cases h

/-- A context that is found to be resolved is one of the plan, with the arithmetic behind it. -/
theorem resolved_context {plan : RingDistancePlan} {runs : List RingRunEvidence}
    {result : RingDistanceResult} (h : evaluateRingDistance plan runs = .ok result)
    {found : RingContextResult} (hfound : found ∈ result.contexts)
    (hstate : found.state = .resolved) :
    ∃ context ∈ plan.contexts, context.key = found.key ∧
      ∃ d1 lines slots, Resolved context.geometry found d1 lines slots := by
  obtain ⟨-, hsound, hnodup, hall, -⟩ := evaluateRingDistance_ok h
  have hkey := (found_all hnodup hsound hall).2 found hfound
  rw [Found] at hkey
  split at hkey
  · rw [hkey] at hstate
    cases hstate
  · rename_i context hcontext
    obtain ⟨progress, -, rfl⟩ := Fallible.map_ok hkey
    exact ⟨context, List.mem_of_find?_eq_some hcontext, by simpa using List.find?_some hcontext,
      finishContext_resolved hstate⟩

/-- **The distances that are found are usable exactly for capacities that are powers of two.** -/
theorem resolved_usable {plan : RingDistancePlan} {runs : List RingRunEvidence}
    {result : RingDistanceResult} (h : evaluateRingDistance plan runs = .ok result)
    {found : RingContextResult} (hfound : found ∈ result.contexts)
    (hstate : found.state = .resolved) :
    ∃ context ∈ plan.contexts, context.key = found.key ∧
      (Usable context.geometry found ↔
        Workload.RingDistance.isPowerOfTwo context.geometry.capacity = true) := by
  obtain ⟨context, hcontext, hkey, d1, lines, slots, hresolved⟩ := resolved_context h hfound hstate
  exact ⟨context, hcontext, hkey, hresolved.usable_iff⟩

/-- A capacity of 256 is one of them. -/
theorem resolved_usable_far : ∃ result, evaluateRingDistance
      (plan [contextPlan far 256 59]) (runsOf far 256 59) =
        .ok result ∧ ∃ found ∈ result.contexts, Usable ⟨256, 64, 8⟩ found := by
  obtain ⟨result, hresult, found, hfound, hstate⟩ :=
    evaluates_far
  obtain ⟨context, hcontext, -, husable⟩ := resolved_usable hresult hfound hstate
  obtain rfl := List.mem_singleton.mp hcontext
  exact ⟨result, hresult, found, hfound, husable.mpr (by decide)⟩

/-- With a capacity of 100 a distance is found that the workload does not take. -/
theorem resolved_unusable : ∃ result, evaluateRingDistance
      (plan [contextPlan far 100 59]) (runsOf far 100 59) =
        .ok result ∧
    ∃ found ∈ result.contexts, found.state = .resolved ∧ ¬ Usable ⟨100, 64, 8⟩ found := by
  obtain ⟨result, hresult, found, hfound, hstate⟩ :=
    @Example.resolves_far 100 (by decide +kernel)
  obtain ⟨context, hcontext, -, d1, lines, slots, hresolved⟩ :=
    resolved_context hresult hfound hstate
  obtain rfl := List.mem_singleton.mp hcontext
  exact ⟨result, hresult, found, hfound, hstate, mt hresolved.usable_iff.mp (by decide)⟩

end CpuPrefetch.Calibration
