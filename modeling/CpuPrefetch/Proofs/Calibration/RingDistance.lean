/-
The distance of a context, in exact arithmetic.

The limits of a complete context are the extreme quantiles of its valid runs, so the issue time
is positive and the least distance is at least one slot: no division is by zero and no product
leaves the quarter of the capacity that bounds it.
-/
import CpuPrefetch.Proofs.Calibration.RingRuns

namespace CpuPrefetch.Calibration

open List Fallible
open Extremes (improve)
open Protocol (RunId Result RequestedHardwareState ascii)
open Workload (RingGeometry)

/-! ### Checked arithmetic -/

theorem checkedCeilDivide_ok {numerator denominator : UInt64} (h : denominator ≠ 0) :
    ∃ quotient, checkedCeilDivide numerator denominator = some quotient ∧
      quotient.toNat = numerator.toNat ⌈/⌉ denominator.toNat := by
  have hpositive : 0 < denominator.toNat :=
    Nat.pos_of_ne_zero fun hzero => h (UInt64.toNat_inj.mp hzero)
  have hremainder : numerator % denominator = 0 ↔ numerator.toNat % denominator.toNat = 0 := by
    rw [← UInt64.toNat_inj, UInt64.toNat_mod, UInt64.toNat_zero]
  rw [Nat.ceilDiv_eq_add_pred_div, OrderStatistics.ceilDiv_remainder _ hpositive,
    checkedCeilDivide, if_neg h]
  simp only
  by_cases hzero : numerator % denominator = 0
  · refine ⟨numerator / denominator, ?_, ?_⟩
    · rw [if_neg (not_not.mpr hzero)]
    · rw [UInt64.toNat_div, if_pos (hremainder.mp hzero), Nat.add_zero]
  · have hsmall : numerator.toNat / denominator.toNat < 2 ^ 64 - 1 := by
      have htwo : 2 ≤ denominator.toNat := by
        by_contra hone
        have hone : denominator.toNat = 1 := by omega
        rw [hremainder, hone, Nat.mod_one] at hzero
        exact hzero rfl
      have hhalf : numerator.toNat / denominator.toNat ≤ numerator.toNat / 2 :=
        Nat.div_le_div_left htwo (by decide)
      have hlt := numerator.toNat_lt
      omega
    refine ⟨numerator / denominator + 1, ?_, ?_⟩
    · rw [if_pos hzero, if_neg]
      intro hlargest
      rw [← UInt64.toNat_inj, UInt64.toNat_div, CheckedWords.toNat_max] at hlargest
      omega
    · rw [if_neg fun hnat => hzero (hremainder.mpr hnat), UInt64.toNat_add, UInt64.toNat_div,
        UInt64.toNat_one, Nat.mod_eq_of_lt (by omega)]

/-- What makes a geometry too small, or no geometry at all. -/
def Collapsed (geometry : RingGeometry) : Prop :=
  geometry.cacheLineBytes = 0 ∨ geometry.slotBytes = 0 ∨
    geometry.capacity.toNat / 4 /
      (geometry.cacheLineBytes.toNat ⌈/⌉ geometry.slotBytes.toNat) < 2

/-- The state and the distances that a geometry gives for a conservative demand and issue. -/
structure Distances (geometry : RingGeometry) (demand issue : UInt64)
    (result : RingContextResult) : Prop where
  evaluated : result.state ≠ .notEvaluated
  arithmetic : "distance arithmetic failed" ∉ result.blockers
  ineligible : result.state = .ineligible ↔ Collapsed geometry
  distance : result.state = .resolved → ∃ d1 d2 : UInt64, result.d1Slots = some d1 ∧
    result.producerDistanceSlots = some d2 ∧ result.consumerDistanceSlots = some d2 ∧
    d1.toNat = geometry.cacheLineBytes.toNat ⌈/⌉ geometry.slotBytes.toNat ∧
    d2.toNat = d1.toNat * min (max 2 ((demand.toNat ⌈/⌉ issue.toNat) ⌈/⌉ d1.toNat))
      (geometry.capacity.toNat / 4 / d1.toNat) ∧
    d1 < d2 ∧ d2.toNat ≤ geometry.capacity.toNat / 4

theorem pos_of_ne_zero {value : UInt64} (h : value ≠ 0) : 0 < value.toNat :=
  Nat.pos_of_ne_zero fun hzero => h (UInt64.toNat_inj.mp hzero)

variable {result : RingContextResult}

theorem resolveDistance_spec {geometry : RingGeometry} {demand issue : UInt64}
    (hcapacity : geometry.capacity ≠ 0) (hissue : issue ≠ 0) (hstate : result.state = .resolved)
    (hblockers : result.blockers = []) :
    Distances geometry demand issue (resolveDistance geometry demand issue result) := by
  by_cases hgeometry : geometry.cacheLineBytes = 0 ∨ geometry.slotBytes = 0
  · have hblocked : resolveDistance geometry demand issue result =
        result.blocked "ring geometry is incomplete" := by
      rcases hgeometry with hzero | hzero <;> simp [resolveDistance, hzero]
    rw [hblocked, RingContextResult.blocked]
    refine ⟨nofun, ?_, iff_of_true rfl ?_, nofun⟩
    · rw [hblockers, nil_append, mem_singleton]
      decide
    · exact hgeometry.imp_right Or.inl
  · obtain ⟨hline, hslot⟩ := not_or.mp hgeometry
    obtain ⟨d1, hd1, hd1Nat⟩ := @checkedCeilDivide_ok geometry.cacheLineBytes _ hslot
    obtain ⟨rawSlots, hraw, hrawNat⟩ := @checkedCeilDivide_ok demand _ hissue
    have hd1Positive : 0 < d1.toNat := by
      by_contra hzero
      have hle := (OrderStatistics.ceilDiv_le_iff (pos_of_ne_zero hslot)).mp
        (show geometry.cacheLineBytes.toNat ⌈/⌉ geometry.slotBytes.toNat ≤ 0 by omega)
      have hpositive := pos_of_ne_zero hline
      omega
    have hd1Ne : d1 ≠ 0 := fun hzero => by
      rw [hzero] at hd1Positive
      exact Nat.lt_irrefl 0 hd1Positive
    obtain ⟨rawLines, hlines, hlinesNat⟩ := @checkedCeilDivide_ok rawSlots _ hd1Ne
    have hcapNat : (geometry.capacity / 4 / d1).toNat = geometry.capacity.toNat / 4 / d1.toNat := by
      rw [UInt64.toNat_div, UInt64.toNat_div]
      rfl
    have hd2LinesNat : (min (max 2 rawLines) (geometry.capacity / 4 / d1)).toNat =
        min (max 2 ((demand.toNat ⌈/⌉ issue.toNat) ⌈/⌉ d1.toNat))
          (geometry.capacity.toNat / 4 / d1.toNat) := by
      rw [UInt64.toNat_min, UInt64.toNat_max, hcapNat, hlinesNat, hrawNat]
      rfl
    have hbound : min (max 2 ((demand.toNat ⌈/⌉ issue.toNat) ⌈/⌉ d1.toNat))
        (geometry.capacity.toNat / 4 / d1.toNat) * d1.toNat ≤ geometry.capacity.toNat / 4 :=
      (Nat.mul_le_mul_right _ (Nat.min_le_right _ _)).trans (Nat.div_mul_le_self _ _)
    have hlt := geometry.capacity.toNat_lt
    have hmultiply : checkedMultiply (min (max 2 rawLines) (geometry.capacity / 4 / d1)) d1 =
        some (min (max 2 rawLines) (geometry.capacity / 4 / d1) * d1) := by
      refine Analysis.checkedMultiply_eq ?_
      rw [hd2LinesNat]
      omega
    have hd2Nat : (min (max 2 rawLines) (geometry.capacity / 4 / d1) * d1).toNat =
        min (max 2 ((demand.toNat ⌈/⌉ issue.toNat) ⌈/⌉ d1.toNat))
          (geometry.capacity.toNat / 4 / d1.toNat) * d1.toNat := by
      rw [CheckedWords.toNat_mul, hd2LinesNat]
      rw [hd2LinesNat]
      omega
    have hfew : geometry.capacity / 4 / d1 < 2 ↔
        geometry.capacity.toNat / 4 / d1.toNat < 2 := by
      rw [UInt64.lt_iff_toNat_lt, hcapNat]
      rfl
    have hcollapsed : Collapsed geometry ↔ geometry.capacity / 4 / d1 < 2 := by
      rw [hfew, hd1Nat, Collapsed]
      exact ⟨fun h => (h.resolve_left hline).resolve_left hslot, fun h => Or.inr (Or.inr h)⟩
    have hresolve : resolveDistance geometry demand issue result =
        if geometry.capacity / 4 / d1 < 2 ||
            min (max 2 rawLines) (geometry.capacity / 4 / d1) * d1 ≤ d1 then
          ({ result with d1Slots := some d1 } : RingContextResult).blocked
            "one-quarter cap collapses d2 to d1 or below two lines"
        else
          { result with
            d1Slots := some d1
            d2CacheLines := some (min (max 2 rawLines) (geometry.capacity / 4 / d1))
            producerDistanceSlots := some (min (max 2 rawLines) (geometry.capacity / 4 / d1) * d1)
            consumerDistanceSlots :=
              some (min (max 2 rawLines) (geometry.capacity / 4 / d1) * d1) } := by
      simp [resolveDistance, hcapacity, hline, hslot, hd1, hraw, hlines, hmultiply]
    rw [hresolve]
    by_cases hsmall : geometry.capacity / 4 / d1 < 2
    · rw [if_pos (by rw [decide_eq_true hsmall, Bool.true_or]), RingContextResult.blocked]
      refine ⟨nofun, ?_, iff_of_true rfl (hcollapsed.mpr hsmall), nofun⟩
      rw [hblockers, nil_append, mem_singleton]
      decide
    · -- two lines fit, and two lines are more than one
      have htwo : 2 ≤ min (max 2 ((demand.toNat ⌈/⌉ issue.toNat) ⌈/⌉ d1.toNat))
          (geometry.capacity.toNat / 4 / d1.toNat) := by
        rw [hfew] at hsmall
        omega
      have hgrows : d1.toNat <
          (min (max 2 rawLines) (geometry.capacity / 4 / d1) * d1).toNat := by
        have hdouble := Nat.mul_le_mul_right d1.toNat htwo
        rw [hd2Nat]
        omega
      have hnotLe : ¬min (max 2 rawLines) (geometry.capacity / 4 / d1) * d1 ≤ d1 := by
        rw [UInt64.le_iff_toNat_le]
        omega
      rw [if_neg (by simp [hsmall, hnotLe])]
      refine ⟨?_, ?_, iff_of_false ?_ fun h => hsmall (hcollapsed.mp h), fun _ => ?_⟩
      · rw [hstate]
        decide
      · rw [hblockers]
        exact not_mem_nil
      · rw [hstate]
        decide
      · refine ⟨d1, _, rfl, rfl, rfl, hd1Nat, ?_, UInt64.lt_iff_toNat_lt.mpr hgrows, ?_⟩
        · rw [hd2Nat, Nat.mul_comm]
        · rw [hd2Nat]
          exact hbound

/-! ### Conservative limits -/

/-- A run that counts for a context: planned for one of its states, there and valid. -/
def Counts (runs : List RingRunEvidence) (context : RingContextPlan) (run : RingRunEvidence) :
    Prop :=
  run ∈ runs ∧ run.validity = .valid ∧ ∃ state ∈ context.states, run.runId ∈ state.plannedRunIds

/-- The quantiles of one series over the runs that count. -/
def Observed (runs : List RingRunEvidence) (context : RingContextPlan)
    (times : RingDemandSeries → Ticks) (numerator : Nat) : Set UInt64 :=
  {ticks | ∃ run, Counts runs context run ∧ Quantile (times run.series) numerator 1000 ticks}

/-- The largest demand and the smallest issue time of either worker, in any run that counts. -/
structure Conservative (runs : List RingRunEvidence) (context : RingContextPlan)
    (demand issue : UInt64) : Prop where
  greatest : IsGreatest (Observed runs context (·.producerDemandTicks) 999 ∪
    Observed runs context (·.consumerDemandTicks) 999) demand
  least : IsLeast (Observed runs context (·.producerIssueTicks) 1 ∪
    Observed runs context (·.consumerIssueTicks) 1) issue
  positive : issue ≠ 0

/-- The order of the words, as a linear one. -/
local instance wordOrder : LinearOrder UInt64 where
  le_refl := UInt64.le_refl
  le_trans _ _ _ := UInt64.le_trans
  le_antisymm _ _ := UInt64.le_antisymm
  le_total := UInt64.le_total
  lt_iff_le_not_ge _ _ := by
    simp only [UInt64.lt_iff_toNat_lt, UInt64.le_iff_toNat_le]
    omega
  toDecidableLE := inferInstance
  toDecidableLT := inferInstance

section

variable {runs : List RingRunEvidence} {context : RingContextPlan}

theorem mem_evaluations (hnodup : (runs.map (·.runId)).Nodup) {states : List RingStatePlan}
    {state : RingStatePlan} {run : RingRunEvidence} :
    (state, run) ∈ evaluations runs states ↔
      state ∈ states ∧ run ∈ runs ∧ run.runId ∈ state.plannedRunIds := by
  simp only [evaluations, evidenceOf, mem_flatMap, mem_map, mem_filterMap,
    Prod.mk.injEq, evidenceFor_some hnodup]
  constructor
  · rintro ⟨_, hstate, _, ⟨runId, hplanned, hmem, rfl⟩, rfl, rfl⟩
    exact ⟨hstate, hmem, hplanned⟩
  · rintro ⟨hstate, hmem, hplanned⟩
    exact ⟨state, hstate, run, ⟨run.runId, hplanned, hmem, rfl⟩, rfl, rfl⟩

/-- What the decisions on a context's runs hold of a series is its quantiles over the runs that
count. -/
theorem decided_values (hnodup : (runs.map (·.runId)).Nodup) {decisions : List RingRunDecision}
    (hdecided : Decided (fun pair => evaluateRun context pair.1 pair.2)
      (evaluations runs context.states) decisions)
    {field : RingRunDecision → Option UInt64} {times : RingDemandSeries → Ticks} {numerator : Nat}
    (hnone : ∀ state evidence decision, evaluateRun context state evidence = .ok decision →
      evidence.validity = .invalid → field decision = none)
    (hsome : ∀ state evidence decision, evaluateRun context state evidence = .ok decision →
      evidence.validity = .valid → ∃ ticks, field decision = some ticks ∧
        Quantile (times evidence.series) numerator 1000 ticks) :
    {value | value ∈ decisions.filterMap field} = Observed runs context times numerator := by
  ext value
  rw [Set.mem_ofPred_eq, mem_filterMap]
  constructor
  · rintro ⟨decision, hdecision, hvalue⟩
    obtain ⟨⟨state, run⟩, hpair, heval⟩ := hdecided.sound decision hdecision
    obtain ⟨hstate, hmem, hplanned⟩ := (mem_evaluations hnodup).mp hpair
    cases hvalidity : run.validity with
    | invalid =>
        rw [hnone state run decision heval hvalidity] at hvalue
        cases hvalue
    | valid =>
        obtain ⟨ticks, hticks, hquantile⟩ := hsome state run decision heval hvalidity
        obtain rfl : ticks = value := Option.some.inj (hticks.symm.trans hvalue)
        exact ⟨run, ⟨hmem, hvalidity, state, hstate, hplanned⟩, hquantile⟩
  · rintro ⟨run, ⟨hmem, hvalidity, state, hstate, hplanned⟩, hquantile⟩
    obtain ⟨decision, hdecision, heval⟩ := hdecided.complete (state, run)
      ((mem_evaluations hnodup).mpr ⟨hstate, hmem, hplanned⟩)
    obtain ⟨ticks, hticks, hquantile'⟩ := hsome state run decision heval hvalidity
    refine ⟨decision, hdecision, ?_⟩
    rw [hticks]
    exact hquantile'.symm.trans hquantile

/-- A complete context has a run that counts. -/
theorem exists_counts (hsound : SoundContext context) (hcomplete : Complete runs context) :
    ∃ run, Counts runs context run := by
  obtain ⟨state, rest, hstates⟩ := exists_cons_of_ne_nil
    (show context.states ≠ [] from fun hnil => by
      have htwo := hsound.two
      rw [hnil] at htwo
      cases htwo)
  have hstate : state ∈ context.states := by
    rw [hstates]
    exact mem_cons_self
  have henough := (hcomplete state hstate).enough
  obtain ⟨runId, hrunId⟩ := exists_mem_of_length_pos (Nat.lt_of_lt_of_le (by decide) henough)
  obtain ⟨hplanned, hrun⟩ := List.mem_filter.mp hrunId
  obtain ⟨run, hmem, rfl, hvalid⟩ := of_decide_eq_true hrun
  exact ⟨run, hmem, hvalid, state, hstate, hplanned⟩

theorem Quantile.unique {values : Ticks} {numerator denominator : Nat} {value other : UInt64}
    (h : Quantile values numerator denominator value)
    (h' : Quantile values numerator denominator other) : value = other :=
  Option.some.inj (h.symm.trans h')

/-- What a run that counts was decided to have. -/
theorem Counts.decided (hnodup : (runs.map (·.runId)).Nodup) (hsound : SoundContext context)
    {decisions : List RingRunDecision}
    (hdecided : Decided (fun pair => evaluateRun context pair.1 pair.2)
      (evaluations runs context.states) decisions) {run : RingRunEvidence}
    (h : Counts runs context run) : ∃ decision, HasQuantiles run.series decision := by
  obtain ⟨hmem, hvalid, state, hstate, hplanned⟩ := h
  obtain ⟨decision, -, heval⟩ := hdecided.complete (state, run)
    ((mem_evaluations hnodup).mpr ⟨hstate, hmem, hplanned⟩)
  exact ⟨decision, (evaluateRun_ok hsound heval).2.2.2 hvalid⟩

/-- The numbers that the limits of a complete context give. -/
theorem complete_limits (hnodup : (runs.map (·.runId)).Nodup) (hsound : SoundContext context)
    (hcomplete : Complete runs context) {progress : ContextProgress} (htracks : Tracks progress)
    (hdecided : Decided (fun pair => evaluateRun context pair.1 pair.2)
      (evaluations runs context.states) progress.runDecisions) :
    ∃ producerDemand consumerDemand producerIssue consumerIssue,
      progress.producerDemandLimit = some producerDemand ∧
      progress.consumerDemandLimit = some consumerDemand ∧
      progress.producerIssueLimit = some producerIssue ∧
      progress.consumerIssueLimit = some consumerIssue ∧
      Conservative runs context (max producerDemand consumerDemand)
        (min producerIssue consumerIssue) := by
  obtain ⟨run, hcounts⟩ := exists_counts hsound hcomplete
  obtain ⟨decision, hquantiles⟩ := hcounts.decided hnodup hsound hdecided
  obtain ⟨pd, -, hpd⟩ := hquantiles.producerDemand
  obtain ⟨cd, -, hcd⟩ := hquantiles.consumerDemand
  obtain ⟨pi, -, hpi, -⟩ := hquantiles.producerIssue
  obtain ⟨ci, -, hci, -⟩ := hquantiles.consumerIssue
  have hproducerDemand := decided_values hnodup hdecided
    (fun _ _ _ heval hinvalid => ((evaluateRun_ok hsound heval).2.2.1 hinvalid).producerDemand)
    (fun _ _ _ heval hvalid => ((evaluateRun_ok hsound heval).2.2.2 hvalid).producerDemand)
  have hconsumerDemand := decided_values hnodup hdecided
    (fun _ _ _ heval hinvalid => ((evaluateRun_ok hsound heval).2.2.1 hinvalid).consumerDemand)
    (fun _ _ _ heval hvalid => ((evaluateRun_ok hsound heval).2.2.2 hvalid).consumerDemand)
  have hproducerIssue := decided_values hnodup hdecided
    (fun _ _ _ heval hinvalid => ((evaluateRun_ok hsound heval).2.2.1 hinvalid).producerIssue)
    (fun _ _ _ heval hvalid => by
      obtain ⟨ticks, hticks, hquantile, -⟩ :=
        ((evaluateRun_ok hsound heval).2.2.2 hvalid).producerIssue
      exact ⟨ticks, hticks, hquantile⟩)
  have hconsumerIssue := decided_values hnodup hdecided
    (fun _ _ _ heval hinvalid => ((evaluateRun_ok hsound heval).2.2.1 hinvalid).consumerIssue)
    (fun _ _ _ heval hvalid => by
      obtain ⟨ticks, hticks, hquantile, -⟩ :=
        ((evaluateRun_ok hsound heval).2.2.2 hvalid).consumerIssue
      exact ⟨ticks, hticks, hquantile⟩)
  obtain ⟨producerDemand, hpdLimit, hpdGreatest⟩ :=
    Extremes.exists_isGreatest hproducerDemand ⟨pd, run, hcounts, hpd⟩
  obtain ⟨consumerDemand, hcdLimit, hcdGreatest⟩ :=
    Extremes.exists_isGreatest hconsumerDemand ⟨cd, run, hcounts, hcd⟩
  obtain ⟨producerIssue, hpiLimit, hpiLeast⟩ :=
    Extremes.exists_isLeast hproducerIssue ⟨pi, run, hcounts, hpi⟩
  obtain ⟨consumerIssue, hciLimit, hciLeast⟩ :=
    Extremes.exists_isLeast hconsumerIssue ⟨ci, run, hcounts, hci⟩
  refine ⟨producerDemand, consumerDemand, producerIssue, consumerIssue,
    htracks.producerDemand.trans hpdLimit, htracks.consumerDemand.trans hcdLimit,
    htracks.producerIssue.trans hpiLimit, htracks.consumerIssue.trans hciLimit,
    hpdGreatest.union hcdGreatest, hpiLeast.union hciLeast, ?_⟩
  -- the least issue time is a quantile of some run that counts, and those are positive
  rcases (hpiLeast.union hciLeast).1 with hobserved | hobserved
  · obtain ⟨other, hother, hquantile⟩ := hobserved
    obtain ⟨_, hquantiles⟩ := hother.decided hnodup hsound hdecided
    obtain ⟨ticks, -, hticks, hpositive⟩ := hquantiles.producerIssue
    rwa [hquantile.unique hticks]
  · obtain ⟨other, hother, hquantile⟩ := hobserved
    obtain ⟨_, hquantiles⟩ := hother.decided hnodup hsound hdecided
    obtain ⟨ticks, -, hticks, hpositive⟩ := hquantiles.consumerIssue
    rwa [hquantile.unique hticks]

/-! ### One context -/

/-- The arithmetic leaves the key and the conservative times as they are. -/
theorem resolveDistance_frame (geometry : RingGeometry) (demand issue : UInt64)
    (result : RingContextResult) :
    (resolveDistance geometry demand issue result).key = result.key ∧
      (resolveDistance geometry demand issue result).conservativeDemandTicks =
        result.conservativeDemandTicks ∧
      (resolveDistance geometry demand issue result).conservativeIssueTicks =
        result.conservativeIssueTicks := by
  unfold resolveDistance
  split
  · exact ⟨rfl, rfl, rfl⟩
  · split
    · split
      · exact ⟨rfl, rfl, rfl⟩
      · dsimp only
        split <;> exact ⟨rfl, rfl, rfl⟩
    · exact ⟨rfl, rfl, rfl⟩

/-- What a context of the plan is found to be. -/
structure Evaluated (runs : List RingRunEvidence) (context : RingContextPlan)
    (result : RingContextResult) : Prop where
  key : result.key = context.key
  incomplete : ¬Complete runs context → result.state = .notEvaluated
  complete : Complete runs context → ∃ demand issue,
    result.conservativeDemandTicks = some demand ∧ result.conservativeIssueTicks = some issue ∧
    Conservative runs context demand issue ∧ Distances context.geometry demand issue result

theorem finishContext_blocked {context : RingContextPlan} {progress : ContextProgress}
    (h : progress.blockers ≠ []) : (finishContext context progress).state = .notEvaluated ∧
      (finishContext context progress).key = context.key := by
  obtain ⟨blocker, rest, hblockers⟩ := exists_cons_of_ne_nil h
  simp [finishContext, hblockers, openContext]

theorem evaluateContext_ok (hnodup : (runs.map (·.runId)).Nodup) (hsound : SoundContext context)
    (h : evaluateContext runs context = .ok result) : Evaluated runs context result := by
  obtain ⟨progress, hstates, rfl⟩ := map_ok h
  obtain ⟨htracks, hclean, decisions, hdecisions, hdecided⟩ :=
    evaluateStates_ok hnodup ⟨rfl, rfl, rfl, rfl⟩ hstates
  obtain rfl : progress.runDecisions = decisions := hdecisions
  have hclean : progress.blockers = [] ↔ Complete runs context := by
    rw [hclean]
    exact and_iff_right rfl
  by_cases hcomplete : Complete runs context
  · obtain ⟨pd, cd, pi, ci, hpd, hcd, hpi, hci, hconservative⟩ :=
      complete_limits hnodup hsound hcomplete htracks hdecided
    have hblockers := hclean.mpr hcomplete
    have hcapacity : context.geometry.capacity ≠ 0 := by
      obtain ⟨state, hstate⟩ := exists_mem_of_length_pos
        (Nat.lt_of_lt_of_le (by decide) hsound.two.ge)
      obtain ⟨-, hvalid, hcapacity⟩ := hsound.states state hstate
      rw [← hcapacity]
      simp only [validContext, Bool.and_eq_true, decide_eq_true_eq] at hvalid
      exact hvalid.2
    obtain ⟨start, hfinish, hkey, hdemand, hissue, hstate, hnone⟩ : ∃ start,
        finishContext context progress =
          resolveDistance context.geometry (max pd cd) (min pi ci) start ∧
        start.key = context.key ∧ start.conservativeDemandTicks = some (max pd cd) ∧
        start.conservativeIssueTicks = some (min pi ci) ∧ start.state = .resolved ∧
        start.blockers = [] := by
      refine ⟨{ openContext context.key progress.runDecisions [] with
        producerDemandUpperTicks := some pd
        consumerDemandUpperTicks := some cd
        producerIssueLowerTicks := some pi
        consumerIssueLowerTicks := some ci
        conservativeDemandTicks := some (max pd cd)
        conservativeIssueTicks := some (min pi ci) }, ?_, rfl, rfl, rfl, rfl, rfl⟩
      simp [finishContext, hblockers, hpd, hcd, hpi, hci]
    obtain ⟨hkey', hdemand', hissue'⟩ :=
      resolveDistance_frame context.geometry (max pd cd) (min pi ci) start
    rw [hfinish]
    exact ⟨hkey'.trans hkey, fun hincomplete => absurd hcomplete hincomplete, fun _ =>
      ⟨_, _, hdemand'.trans hdemand, hissue'.trans hissue, hconservative,
        resolveDistance_spec hcapacity hconservative.positive hstate hnone⟩⟩
  · obtain ⟨hstate, hkey⟩ := @finishContext_blocked context progress
      fun hblockers => hcomplete (hclean.mp hblockers)
    exact ⟨hkey, fun _ => hstate, fun h => absurd h hcomplete⟩

end

/-! ### All contexts -/

/-- What stands under a required key: a context that the plan leaves out, or the evaluation of
the one it has. -/
def Found (plan : RingDistancePlan) (runs : List RingRunEvidence) (key : RingContextKey)
    (result : RingContextResult) : Prop :=
  match plan.contexts.find? fun candidate => candidate.key = key with
  | none => result = absentContext key
  | some context => evaluateContext runs context = .ok result

theorem evaluateContexts_ok {plan : RingDistancePlan} {runs : List RingRunEvidence}
    {result after : RingDistanceResult} {keys : List RingContextKey}
    (h : evaluateContexts plan runs result keys = .ok after) :
    ∃ found, List.Forall₂ (Found plan runs) keys found ∧
      after.contexts = result.contexts ++ found ∧
      after.state = (found.map (·.state)).foldl (Extremes.overwrite .resolved) result.state := by
  induction keys generalizing result with
  | nil =>
      obtain rfl := Except.ok.inj h
      exact ⟨[], .nil, (append_nil _).symm, rfl⟩
  | cons key rest ih =>
      rw [evaluateContexts] at h
      split at h
      · rename_i habsent
        obtain ⟨found, hfound, hcontexts, hstate⟩ := ih h
        refine ⟨absentContext key :: found, .cons ?_ hfound, ?_, hstate⟩
        · rw [Found, habsent]
        · rw [hcontexts, RingDistanceResult.addAbsent, append_assoc]
          rfl
      · rename_i context hplanned
        obtain ⟨first, hfirst, h⟩ := bind_ok h
        obtain ⟨found, hfound, hcontexts, hstate⟩ := ih h
        refine ⟨first :: found, .cons ?_ hfound, ?_, ?_⟩
        · rw [Found, hplanned]
          exact hfirst
        · rw [hcontexts, RingDistanceResult.addPlanned, append_assoc]
          rfl
        · rw [hstate, map_cons, foldl_cons]
          congr 1
          rw [RingDistanceResult.addPlanned, Extremes.overwrite]
          cases first.state <;> rfl

/-- An evaluation that goes through has an accepted plan and evidence, and looks at every required
context. -/
theorem evaluateRingDistance_ok {plan : RingDistancePlan} {runs : List RingRunEvidence}
    {result : RingDistanceResult} (h : evaluateRingDistance plan runs = .ok result) :
    (plan.contexts.map (·.key)).Nodup ∧ (∀ context ∈ plan.contexts, SoundContext context) ∧
      (runs.map (·.runId)).Nodup ∧ List.Forall₂ (Found plan runs) requiredRingContexts
        result.contexts ∧
      result.state = if plan.contexts.length ≠ kRequiredRingContextCount then .notEvaluated
        else (result.contexts.map (·.state)).foldl (Extremes.overwrite .resolved) .resolved := by
  rw [evaluateRingDistance] at h
  split at h
  · cases h
  obtain ⟨planned, hplan, h⟩ := bind_ok h
  obtain ⟨⟨⟩, hruns, h⟩ := bind_ok h
  obtain ⟨after, hcontexts, h⟩ := bind_ok h
  obtain ⟨hnames, hsound⟩ := planContexts_ok hplan
  obtain ⟨found, hfound, hall, hstate⟩ := evaluateContexts_ok hcontexts
  have hnodup : (plan.contexts.map (·.key)).Nodup := by
    have hnames := Keyed.fresh_iff_nodup.mp hnames
    rw [← Function.comp_def ringKeyName, ← map_map] at hnames
    exact hnames.of_map ringKeyName
  obtain rfl : after.contexts = found := hall
  refine ⟨hnodup, hsound, Keyed.fresh_iff_nodup.mp (checkRuns_ok.mp hruns).2, ?_⟩
  split at h <;> rename_i hcount
  · rw [← Except.ok.inj h, if_pos hcount]
    exact ⟨hfound, rfl⟩
  · rw [← Except.ok.inj h, if_neg hcount]
    exact ⟨hfound, hstate⟩

/-! ### The order of the evidence -/

section

variable {runs runs' : List RingRunEvidence}

theorem evaluateRuns_congr (h : evidenceFor runs = evidenceFor runs') (context : RingContextPlan)
    (state : RingStatePlan) (present valid : Nat) (progress : ContextProgress)
    (runIds : List RunId) :
    evaluateRuns runs context state present valid progress runIds =
      evaluateRuns runs' context state present valid progress runIds := by
  induction runIds generalizing present valid progress with
  | nil => rfl
  | cons runId rest ih => simp only [evaluateRuns, h, ih]

theorem evaluateStates_congr (h : evidenceFor runs = evidenceFor runs') (context : RingContextPlan)
    (progress : ContextProgress) (states : List RingStatePlan) :
    evaluateStates runs context progress states = evaluateStates runs' context progress states := by
  induction states generalizing progress with
  | nil => rfl
  | cons state rest ih => simp only [evaluateStates, evaluateRuns_congr h, ih]

theorem evaluateContexts_congr (h : evidenceFor runs = evidenceFor runs') (plan : RingDistancePlan)
    (result : RingDistanceResult) (keys : List RingContextKey) :
    evaluateContexts plan runs result keys = evaluateContexts plan runs' result keys := by
  induction keys generalizing result with
  | nil => rfl
  | cons key rest ih =>
      simp only [evaluateContexts, evaluateContext, evaluateStates_congr h, ih]

theorem evaluateRingDistance_perm {plan : RingDistancePlan} {result : RingDistanceResult}
    (hperm : runs.Perm runs') (h : evaluateRingDistance plan runs = .ok result) :
    evaluateRingDistance plan runs' = .ok result := by
  have hnodup := (evaluateRingDistance_ok h).2.2.1
  rw [evaluateRingDistance] at h ⊢
  split at h
  · cases h
  rename_i hidentity
  rw [if_neg hidentity]
  obtain ⟨planned, hplan, h⟩ := bind_ok h
  obtain ⟨⟨⟩, hruns, h⟩ := bind_ok h
  obtain ⟨hknown, hfresh⟩ := checkRuns_ok.mp hruns
  have hruns' : checkRuns planned [] runs' = .ok () := by
    refine checkRuns_ok.mpr ⟨fun run hrun => hknown run (hperm.mem_iff.mpr hrun), ?_⟩
    rw [Keyed.fresh_iff_nodup] at hfresh ⊢
    exact (hperm.map _).nodup_iff.mp hfresh
  rw [hplan, ok_bind, hruns', ok_bind,
    ← evaluateContexts_congr (evidenceFor_perm hperm hnodup)]
  exact h

end

section

variable {plan : RingDistancePlan} {runs : List RingRunEvidence}

theorem Found.key {key : RingContextKey} (hnodup : (runs.map (·.runId)).Nodup)
    (hsound : ∀ context ∈ plan.contexts, SoundContext context) (h : Found plan runs key result) :
    result.key = key := by
  rw [Found] at h
  split at h
  · rw [h]
    rfl
  · rename_i context hcontext
    have hkey : context.key = key := by simpa using find?_some hcontext
    rw [← hkey]
    exact (evaluateContext_ok hnodup (hsound context (mem_of_find?_eq_some hcontext)) h).key

/-- Each required key has one result, the one found for it. -/
theorem found_all {keys : List RingContextKey} {results : List RingContextResult}
    (hnodup : (runs.map (·.runId)).Nodup)
    (hsound : ∀ context ∈ plan.contexts, SoundContext context)
    (h : List.Forall₂ (Found plan runs) keys results) :
    results.map (·.key) = keys ∧ ∀ result ∈ results, Found plan runs result.key result := by
  induction h with
  | nil => exact ⟨rfl, forall_mem_nil _⟩
  | cons hfirst _ ih =>
      have hkey := hfirst.key hnodup hsound
      refine ⟨by rw [map_cons, hkey, ih.1], List.forall_mem_cons.mpr ⟨?_, ih.2⟩⟩
      rwa [hkey]

theorem Found.evaluated {context : RingContextPlan} (hkeys : (plan.contexts.map (·.key)).Nodup)
    (hnodup : (runs.map (·.runId)).Nodup)
    (hsound : ∀ context ∈ plan.contexts, SoundContext context)
    (hcontext : context ∈ plan.contexts) (h : Found plan runs context.key result) :
    Evaluated runs context result := by
  have hfind := (Keyed.find_eq_some_iff hkeys).mpr ⟨hcontext, rfl⟩
  rw [Found, hfind] at h
  exact evaluateContext_ok hnodup (hsound context hcontext) h

end

/-- **The ring-distance arithmetic.**

Each complete context has the extreme quantiles of its valid runs for its conservative demand and
issue, and from them its exact distance, or none where the geometry collapses; the order of the
evidence changes nothing. -/
theorem ring_distance_arithmetic {plan : RingDistancePlan} {runs runs' : List RingRunEvidence}
    {result : RingDistanceResult} (h : evaluateRingDistance plan runs = .ok result)
    (hperm : runs.Perm runs') :
    result.contexts.map (·.key) = requiredRingContexts ∧
      (∀ context ∈ plan.contexts, Complete runs context → ∃ found ∈ result.contexts,
        found.key = context.key ∧ ∃ demand issue, found.conservativeDemandTicks = some demand ∧
          found.conservativeIssueTicks = some issue ∧ Conservative runs context demand issue ∧
          Distances context.geometry demand issue found) ∧
      evaluateRingDistance plan runs' = .ok result := by
  obtain ⟨hkeys, hsound, hnodup, hfound, -⟩ := evaluateRingDistance_ok h
  obtain ⟨hrequired, hall⟩ := found_all hnodup hsound hfound
  refine ⟨hrequired, fun context hcontext hcomplete => ?_, evaluateRingDistance_perm hperm h⟩
  have hkey := (hsound context hcontext).expected
  rw [← hrequired] at hkey
  obtain ⟨found, hmem, hsame⟩ := List.mem_map.mp hkey
  have hevaluated := (hsame ▸ hall found hmem).evaluated hkeys hnodup hsound hcontext
  exact ⟨found, hmem, hsame, hevaluated.complete hcomplete⟩

namespace Example

def reference : EvidenceReference := ⟨ascii "artifact", List.replicate 64 48⟩

def offContext (capacity : UInt64) : StageAContext where
  platformId := ascii "platform"
  buildId := ascii "build"
  queueImplementationId := ascii "ring"
  consumerActionId := ascii "action"
  placementEvidenceId := ascii "placement"
  capacityEvidenceId := ascii "capacity"
  workingSetEvidenceId := ascii "working-set"
  hardwareStateEvidenceId := ascii "hardware"
  softwarePolicyId := ascii "software"
  clockPolicyId := ascii "clock"
  logicalCapacity := capacity

def runId (number : Nat) : RunId := ⟨[.ofNat number], cons_ne_nil _ _⟩

/-- Two states with so many runs each. -/
def contextPlan (key : RingContextKey) (capacity : UInt64) (count : Nat) : RingContextPlan where
  key := key
  geometry := ⟨capacity, 64, 8⟩
  durationTicks := 1000
  minimumObservationsPerSeries := 1
  states :=
    [⟨.h0, offContext capacity, (List.range count).map runId⟩,
      ⟨.h1, offContext capacity, (List.range' count count).map runId⟩]

theorem one_lt_words : 1 < 2 ^ 64 := by decide

def ticks (value : UInt64) : Ticks := ⟨[value], one_lt_words⟩

def run (key : RingContextKey) (capacity : UInt64) (state : RequestedHardwareState)
    (number : Nat) : RingRunEvidence where
  runId := runId number
  key := key
  ringOffContext := offContext capacity
  hardwareState := state
  stage := .calibration
  runMode := .d2Calibration
  package := .r0
  validity := .valid
  intervalTicks := 1000
  series := ⟨ticks 100, ticks 20, ticks 4, ticks 5⟩
  rawRunArtifacts := [reference]
  integrityArtifact := some reference
  failureArtifact := none

/-- The evidence for a context's runs, as `contextPlan` numbers them. -/
def runsOf (key : RingContextKey) (capacity : UInt64) (count : Nat) : List RingRunEvidence :=
  (List.range count).map (run key capacity .h0) ++
    (List.range' count count).map (run key capacity .h1)

def plan (contexts : List RingContextPlan) : RingDistancePlan where
  recordId := ascii "plan"
  estimatorId := kRingDistanceMethodId
  seedNamespaceId := ascii "seeds"
  assumptions := [ascii "none"]
  governance := ⟨[ascii "owner"], reference, reference⟩
  contexts := contexts

def far : RingContextKey := ⟨.far, .beyondLlc⟩

theorem complete_runsOf (key : RingContextKey) (capacity : UInt64) {count : Nat}
    (hcount : kMinimumValidIndependentRuns ≤ count) :
    Complete (runsOf key capacity count) (contextPlan key capacity count) := by
  have hthere : ∀ state ∈ (contextPlan key capacity count).states,
      state.plannedRunIds.length = count ∧ ∀ runId ∈ state.plannedRunIds,
        ∃ run ∈ runsOf key capacity count, run.runId = runId ∧ run.validity = .valid := by
    intro state hstate
    rcases List.mem_pair.mp hstate with rfl | rfl
    · refine ⟨by simp, fun id hid => ?_⟩
      obtain ⟨number, hnumber, rfl⟩ := List.mem_map.mp hid
      exact ⟨run key capacity .h0 number, mem_append_left _ (mem_map_of_mem hnumber),
        rfl, rfl⟩
    · refine ⟨by simp, fun id hid => ?_⟩
      obtain ⟨number, hnumber, rfl⟩ := List.mem_map.mp hid
      exact ⟨run key capacity .h1 number, mem_append_right _ (mem_map_of_mem hnumber),
        rfl, rfl⟩
  intro state hstate
  obtain ⟨hlength, hruns⟩ := hthere state hstate
  refine ⟨fun runId hrunId => ?_, ?_⟩
  · obtain ⟨run, hmem, hid, -⟩ := hruns runId hrunId
    exact ⟨run, hmem, hid⟩
  · rw [List.filter_eq_self.mpr fun runId hrunId => decide_eq_true (hruns runId hrunId), hlength]
    exact hcount

theorem resolves_far {capacity : UInt64}
    (h : (evaluateRingDistance (plan [contextPlan far capacity 59])
      (runsOf far capacity 59)).toOption.any (·.contexts.any (·.state = .resolved)) = true) :
    ∃ result, evaluateRingDistance (plan [contextPlan far capacity 59])
        (runsOf far capacity 59) = .ok result ∧
      ∃ found ∈ result.contexts, found.state = .resolved := by
  obtain ⟨result, hresult, hany⟩ := (Option.any_eq_true _ _).mp h
  obtain ⟨found, hfound, hstate⟩ := List.any_eq_true.mp hany
  exact ⟨result, of_toOption hresult, found, hfound, of_decide_eq_true hstate⟩

theorem evaluates_far : ∃ result,
    evaluateRingDistance (plan [contextPlan far 256 59]) (runsOf far 256 59) = .ok result ∧
      ∃ found ∈ result.contexts, found.state = .resolved :=
  resolves_far (by decide +kernel)

end Example

open Example

/-- One context with 59 runs in each state. -/
theorem ring_distance_arithmetic_far : ∃ result,
    evaluateRingDistance (plan [contextPlan far 256 59])
      (runsOf far 256 59) = .ok result ∧
    (∃ found ∈ result.contexts, found.key = far ∧ ∃ demand issue,
      Distances ⟨256, 64, 8⟩ demand issue found) ∧
    evaluateRingDistance (plan [contextPlan far 256 59])
      (runsOf far 256 59).reverse = .ok result := by
  obtain ⟨result, hresult, -⟩ := evaluates_far
  obtain ⟨-, hcontexts, hreverse⟩ :=
    ring_distance_arithmetic hresult (reverse_perm _).symm
  obtain ⟨found, hmem, hkey, demand, issue, -, -, -, hdistances⟩ :=
    hcontexts (contextPlan far 256 59) mem_cons_self
      (complete_runsOf _ _ (Nat.le_refl _))
  exact ⟨result, hresult, ⟨found, hmem, hkey, demand, issue, hdistances⟩, hreverse⟩

end CpuPrefetch.Calibration
