/-
What an accepted ring plan and its evidence say, and what the loop over a context's runs keeps.

The identities of the evidence are distinct, so a planned run has at most one piece of evidence
and the order of the evidence does not matter.  The limits the loop keeps are the extreme
values of the decisions it has recorded.
-/
import CpuPrefetch.Calibration.RingDistance
import CpuPrefetch.Lib.Fallible
import CpuPrefetch.Lib.Keyed
import CpuPrefetch.Proofs.Analysis.Quantiles

namespace CpuPrefetch.Calibration

open List
open Analysis (Fraction)
open Extremes (IsBest improve)
open Protocol (RunId RequestedHardwareState Result)

/-! ### The plan -/

/-- What a context of an accepted plan has. -/
structure SoundContext (context : RingContextPlan) : Prop where
  expected : context.key ∈ requiredRingContexts
  duration : context.durationTicks ≠ 0
  minimum : context.minimumObservationsPerSeries ≠ 0
  two : context.states.length = 2
  states : ∀ state ∈ context.states, state.hardwareState ≠ .notApplicable ∧
    validContext state.ringOffContext = true ∧
    state.ringOffContext.logicalCapacity = context.geometry.capacity
  distinct : (context.states.map (·.hardwareState)).Nodup

variable {planned : List RunId}

theorem planStates_ok {capacity : UInt64} {seen : List RequestedHardwareState}
    {common : Option StageAContext} {after : List RunId} {states : List RingStatePlan}
    (h : planStates capacity seen common planned states = .ok after) :
    Keyed.Fresh seen (states.map (·.hardwareState)) ∧
      ∀ state ∈ states, state.hardwareState ≠ .notApplicable ∧
        validContext state.ringOffContext = true ∧
        state.ringOffContext.logicalCapacity = capacity := by
  induction states generalizing seen common planned with
  | nil => exact ⟨Keyed.fresh_nil, nofun⟩
  | cons state rest ih =>
      rw [planStates] at h
      split at h
      · cases h
      rename_i hsound
      split at h
      · cases h
      obtain ⟨planned', -, h⟩ := Fallible.bind_ok h
      obtain ⟨hfresh, hrest⟩ := ih h
      simp only [Bool.or_eq_true, Bool.and_eq_true, decide_eq_true_eq, Bool.not_eq_true', not_or,
        not_and_or, ne_eq, not_not, Bool.not_eq_false] at hsound
      obtain ⟨⟨⟨hstate, hvalid⟩, hcapacity⟩, hnew⟩ := hsound
      refine ⟨Keyed.fresh_cons.mpr ⟨hnew, hfresh⟩, List.forall_mem_cons.mpr ⟨⟨?_, hvalid,
        hcapacity⟩, hrest⟩⟩
      rintro hnone
      rw [hnone] at hstate
      rcases hstate with hstate | hstate <;> cases hstate

theorem planContexts_ok {names : List String} {after : List RunId}
    {contexts : List RingContextPlan} (h : planContexts names planned contexts = .ok after) :
    Keyed.Fresh names (contexts.map fun context => ringKeyName context.key) ∧
      ∀ context ∈ contexts, SoundContext context := by
  induction contexts generalizing names planned with
  | nil => exact ⟨Keyed.fresh_nil, nofun⟩
  | cons context rest ih =>
      rw [planContexts] at h
      split at h
      · cases h
      rename_i hsound
      obtain ⟨planned', hstates, h⟩ := Fallible.bind_ok h
      obtain ⟨hfresh, hrest⟩ := ih h
      obtain ⟨hdistinct, hstates⟩ := planStates_ok hstates
      simp only [expectedRingKey, Bool.or_eq_true, decide_eq_true_eq, Bool.not_eq_true',
        decide_eq_false_iff_not, not_or, ne_eq, not_not] at hsound
      obtain ⟨⟨⟨⟨hkey, hduration⟩, hminimum⟩, hname⟩, htwo⟩ := hsound
      exact ⟨Keyed.fresh_cons.mpr ⟨hname, hfresh⟩, List.forall_mem_cons.mpr
        ⟨⟨hkey, hduration, hminimum, htwo, hstates, Keyed.fresh_iff_nodup.mp hdistinct⟩, hrest⟩⟩

theorem checkRuns_ok {present : List RunId} {runs : List RingRunEvidence} :
    checkRuns planned present runs = .ok () ↔
      (∀ run ∈ runs, run.runId ∈ planned) ∧ Keyed.Fresh present (runs.map (·.runId)) := by
  induction runs generalizing present with
  | nil => exact iff_of_true rfl ⟨forall_mem_nil _, Keyed.fresh_nil⟩
  | cons run rest ih =>
      rw [checkRuns]
      split
      · rename_i hunplanned
        refine iff_of_false (fun h => ?_) fun h => hunplanned (h.1 run mem_cons_self)
        cases h
      rename_i hplanned
      rw [not_not] at hplanned
      split
      · rename_i hpresent
        refine iff_of_false (fun h => ?_) fun h => h.2.2 run.runId mem_cons_self hpresent
        cases h
      rename_i hnew
      rw [ih, map_cons, Keyed.fresh_cons, forall_mem_cons]
      tauto

/-! ### One run -/

/-- The value at the rank that is the fraction of the count rounded up. -/
def Quantile (values : Ticks) (numerator denominator : Nat) (value : UInt64) : Prop :=
  values.val.mergeSort[(values.val.length * numerator) ⌈/⌉ denominator - 1]? = some value

theorem demandFraction : Fraction 999 1000 := ⟨by decide, by decide, by decide⟩

theorem issueFraction : Fraction 1 1000 := ⟨by decide, by decide, by decide⟩

variable {value : UInt64} {values : Ticks}

theorem inverseEcdf_ok {numerator denominator : UInt64}
    (hfraction : Fraction numerator denominator) (hne : values.val ≠ []) :
    inverseEcdf values.val numerator denominator = .ok value ↔
      Quantile values numerator.toNat denominator.toNat value := by
  constructor
  · intro h
    obtain ⟨found, hfound⟩ := Analysis.exists_ranked hne hfraction
    have hcomputed := Analysis.calibration_inverseEcdf hne values.property hfraction hfound
    rw [h] at hcomputed
    rw [Quantile, hfound, Except.ok.inj hcomputed]
  · exact Analysis.calibration_inverseEcdf hne values.property hfraction

theorem Quantile.mem {numerator denominator : Nat}
    (h : Quantile values numerator denominator value) : value ∈ values.val :=
  List.mem_mergeSort.mp (mem_of_getElem? h)

/-- The four quantiles of a run that counts. -/
structure HasQuantiles (series : RingDemandSeries) (decision : RingRunDecision) : Prop where
  producerDemand : ∃ ticks, decision.producerDemandP999Ticks = some ticks ∧
    Quantile series.producerDemandTicks 999 1000 ticks
  consumerDemand : ∃ ticks, decision.consumerDemandP999Ticks = some ticks ∧
    Quantile series.consumerDemandTicks 999 1000 ticks
  producerIssue : ∃ ticks, decision.producerIssueP001Ticks = some ticks ∧
    Quantile series.producerIssueTicks 1 1000 ticks ∧ ticks ≠ 0
  consumerIssue : ∃ ticks, decision.consumerIssueP001Ticks = some ticks ∧
    Quantile series.consumerIssueTicks 1 1000 ticks ∧ ticks ≠ 0

/-- The decision on a run that does not count has no quantiles. -/
structure NoQuantiles (decision : RingRunDecision) : Prop where
  producerDemand : decision.producerDemandP999Ticks = none
  consumerDemand : decision.consumerDemandP999Ticks = none
  producerIssue : decision.producerIssueP001Ticks = none
  consumerIssue : decision.consumerIssueP001Ticks = none

theorem ne_zero_of_allPositive {values : List UInt64} (h : allPositive values = true)
    (hvalue : value ∈ values) : value ≠ 0 :=
  of_decide_eq_true (List.all_eq_true.mp h value hvalue)

theorem ne_nil_of_not_shorterThan {minimum : UInt64} (hminimum : minimum ≠ 0)
    (h : shorterThan values minimum = false) : values.val ≠ [] := by
  intro hnil
  have hpositive : minimum.toNat ≠ 0 := fun hzero => hminimum (UInt64.toNat_inj.mp hzero)
  rw [shorterThan, hnil, length_nil, decide_eq_false_iff_not] at h
  omega

variable {context : RingContextPlan}

theorem evaluateRun_ok {state : RingStatePlan} {evidence : RingRunEvidence}
    {decision : RingRunDecision} (hsound : SoundContext context)
    (h : evaluateRun context state evidence = .ok decision) :
    evidence.key = context.key ∧ evidence.hardwareState = state.hardwareState ∧
      (evidence.validity = .invalid → NoQuantiles decision) ∧
      (evidence.validity = .valid → HasQuantiles evidence.series decision) := by
  rw [evaluateRun] at h
  split at h
  · cases h
  rename_i hmatching
  simp only [Bool.or_eq_true, decide_eq_true_eq, not_or, ne_eq, not_not] at hmatching
  obtain ⟨⟨⟨⟨⟨⟨hkey, -⟩, hstate⟩, -⟩, -⟩, -⟩, -⟩ := hmatching
  refine ⟨hkey, hstate, ?_⟩
  split at h
  · cases h
  split at h
  · rename_i hinvalid
    split at h
    · cases h
    rw [← Except.ok.inj h]
    exact ⟨fun _ => ⟨rfl, rfl, rfl, rfl⟩, fun hvalid => by rw [hinvalid] at hvalid; cases hvalid⟩
  rename_i hvalid
  refine ⟨fun hinvalid => absurd hinvalid hvalid, fun _ => ?_⟩
  dsimp only at h
  split at h
  · cases h
  rename_i hseries
  simp only [Bool.or_eq_true, Bool.not_eq_true', not_or, Bool.not_eq_true, Bool.not_eq_false]
    at hseries
  obtain ⟨⟨⟨⟨⟨⟨⟨⟨⟨hpd, hcd⟩, hpi⟩, hci⟩, -⟩, -⟩, hpiPositive⟩, hciPositive⟩, -⟩, -⟩ := hseries
  have hminimum := hsound.minimum
  split at h
  · rename_i hproducerDemand hconsumerDemand hproducerIssue hconsumerIssue
    rw [inverseEcdf_ok demandFraction (ne_nil_of_not_shorterThan hminimum hpd)] at hproducerDemand
    rw [inverseEcdf_ok demandFraction (ne_nil_of_not_shorterThan hminimum hcd)] at hconsumerDemand
    rw [inverseEcdf_ok issueFraction (ne_nil_of_not_shorterThan hminimum hpi)] at hproducerIssue
    rw [inverseEcdf_ok issueFraction (ne_nil_of_not_shorterThan hminimum hci)] at hconsumerIssue
    rw [← Except.ok.inj h]
    exact ⟨⟨_, rfl, hproducerDemand⟩, ⟨_, rfl, hconsumerDemand⟩,
      ⟨_, rfl, hproducerIssue, ne_zero_of_allPositive hpiPositive hproducerIssue.mem⟩,
      ⟨_, rfl, hconsumerIssue, ne_zero_of_allPositive hciPositive hconsumerIssue.mem⟩⟩
  · cases h

/-! ### The loop over planned runs -/

/-- The evidence there is for planned runs, in the order they are planned. -/
def evidenceOf (runs : List RingRunEvidence) (runIds : List RunId) : List RingRunEvidence :=
  runIds.filterMap (evidenceFor runs)

theorem evidenceOf_cons (runs : List RingRunEvidence) (runId : RunId) (rest : List RunId) :
    evidenceOf runs (runId :: rest) = (evidenceFor runs runId).toList ++ evidenceOf runs rest := by
  cases hevidence : evidenceFor runs runId with
  | none => exact filterMap_cons_none hevidence
  | some evidence => exact filterMap_cons_some hevidence

/-- What is evaluated, and the decisions it gives. -/
structure Decided {A : Type} (evaluate : A → Result RingRunDecision) (items : List A)
    (decisions : List RingRunDecision) : Prop where
  sound : ∀ decision ∈ decisions, ∃ item ∈ items, evaluate item = .ok decision
  complete : ∀ item ∈ items, ∃ decision ∈ decisions, evaluate item = .ok decision

variable {A : Type} {evaluate : A → Result RingRunDecision}

theorem Decided.nil : Decided evaluate [] [] :=
  ⟨nofun, nofun⟩

theorem Decided.append {front back : List A} {first second : List RingRunDecision}
    (h : Decided evaluate front first) (h' : Decided evaluate back second) :
    Decided evaluate (front ++ back) (first ++ second) where
  sound decision hdecision := by
    rcases List.mem_append.mp hdecision with hfirst | hsecond
    · obtain ⟨item, hitem, heval⟩ := h.sound decision hfirst
      exact ⟨item, mem_append_left _ hitem, heval⟩
    · obtain ⟨item, hitem, heval⟩ := h'.sound decision hsecond
      exact ⟨item, mem_append_right _ hitem, heval⟩
  complete item hitem := by
    rcases List.mem_append.mp hitem with hfront | hback
    · obtain ⟨decision, hdecision, heval⟩ := h.complete item hfront
      exact ⟨decision, mem_append_left _ hdecision, heval⟩
    · obtain ⟨decision, hdecision, heval⟩ := h'.complete item hback
      exact ⟨decision, mem_append_right _ hdecision, heval⟩

theorem Decided.one {item : A} {decision : RingRunDecision} (h : evaluate item = .ok decision) :
    Decided evaluate [item] [decision] where
  sound _ hdecision := ⟨item, mem_cons_self, by rw [List.mem_singleton.mp hdecision, h]⟩
  complete _ hitem := ⟨decision, mem_cons_self, by rw [List.mem_singleton.mp hitem, h]⟩

theorem Decided.map {B : Type} {evaluate : B → Result RingRunDecision} {f : A → B}
    {items : List A} {decisions : List RingRunDecision}
    (h : Decided (fun item => evaluate (f item)) items decisions) :
    Decided evaluate (items.map f) decisions where
  sound decision hdecision := by
    obtain ⟨item, hitem, heval⟩ := h.sound decision hdecision
    exact ⟨f item, mem_map_of_mem hitem, heval⟩
  complete other hother := by
    obtain ⟨item, hitem, rfl⟩ := List.mem_map.mp hother
    exact h.complete item hitem

variable {progress : ContextProgress}

theorem evaluateRuns_ok {runs : List RingRunEvidence} {state : RingStatePlan}
    {present valid present' valid' : Nat} {progress' : ContextProgress} {runIds : List RunId}
    (h : evaluateRuns runs context state present valid progress runIds =
      .ok (present', valid', progress')) :
    ∃ decisions, Decided (evaluateRun context state) (evidenceOf runs runIds) decisions ∧
      present' = present + (evidenceOf runs runIds).length ∧
      valid' = valid + (evidenceOf runs runIds).countP (fun run => run.validity = .valid) ∧
      progress' = decisions.foldl ContextProgress.record progress := by
  induction runIds generalizing present valid progress with
  | nil =>
      obtain ⟨rfl, rfl, rfl⟩ : present = present' ∧ valid = valid' ∧ progress = progress' := by
        simpa [evaluateRuns] using h
      exact ⟨[], .nil, rfl, rfl, rfl⟩
  | cons runId rest ih =>
      rw [evaluateRuns] at h
      rw [evidenceOf_cons]
      cases hevidence : evidenceFor runs runId with
      | none =>
          rw [hevidence] at h
          exact ih h
      | some evidence =>
          rw [hevidence] at h
          obtain ⟨decision, hdecision, h⟩ := Fallible.bind_ok h
          obtain ⟨decisions, hdecided, hpresent, hvalid, hprogress⟩ := ih h
          refine ⟨decision :: decisions, (Decided.one hdecision).append hdecided, ?_, ?_,
            hprogress⟩
          · rw [hpresent, Option.toList_some, singleton_append, length_cons]
            omega
          · rw [hvalid, Option.toList_some, singleton_append, countP_cons]
            cases evidence.validity with
            | valid =>
                simp only [reduceCtorEq, if_false, decide_true, if_true]
                omega
            | invalid => simp

/-! ### The limits -/

/-- The limits are the extreme values of the decisions recorded. -/
structure Tracks (progress : ContextProgress) : Prop where
  producerDemand : progress.producerDemandLimit =
    (progress.runDecisions.filterMap (·.producerDemandP999Ticks)).foldl
      (improve fun value best : UInt64 => value > best) none
  consumerDemand : progress.consumerDemandLimit =
    (progress.runDecisions.filterMap (·.consumerDemandP999Ticks)).foldl
      (improve fun value best : UInt64 => value > best) none
  producerIssue : progress.producerIssueLimit =
    (progress.runDecisions.filterMap (·.producerIssueP001Ticks)).foldl
      (improve fun value best : UInt64 => value < best) none
  consumerIssue : progress.consumerIssueLimit =
    (progress.runDecisions.filterMap (·.consumerIssueP001Ticks)).foldl
      (improve fun value best : UInt64 => value < best) none

theorem foldl_filterMap_snoc {better : UInt64 → UInt64 → Prop} [DecidableRel better]
    (field : RingRunDecision → Option UInt64) (decisions : List RingRunDecision)
    (decision : RingRunDecision) :
    ((decisions ++ [decision]).filterMap field).foldl (improve better) none =
      (field decision).toList.foldl (improve better)
        ((decisions.filterMap field).foldl (improve better) none) := by
  rw [filterMap_append, foldl_append]
  cases hfield : field decision with
  | none => rw [filterMap_cons_none hfield]; rfl
  | some value => rw [filterMap_cons_some hfield]; rfl

theorem raiseLimit_eq (limit value : Option UInt64) : raiseLimit limit value =
    value.toList.foldl (improve fun value best : UInt64 => value > best) limit := by
  cases value <;> rfl

theorem lowerLimit_eq (limit value : Option UInt64) : lowerLimit limit value =
    value.toList.foldl (improve fun value best : UInt64 => value < best) limit := by
  cases value <;> rfl

theorem Tracks.record (h : Tracks progress) (decision : RingRunDecision) :
    Tracks (progress.record decision) where
  producerDemand := by
    show raiseLimit progress.producerDemandLimit _ = _
    rw [raiseLimit_eq, h.producerDemand]
    exact (foldl_filterMap_snoc _ _ _).symm
  consumerDemand := by
    show raiseLimit progress.consumerDemandLimit _ = _
    rw [raiseLimit_eq, h.consumerDemand]
    exact (foldl_filterMap_snoc _ _ _).symm
  producerIssue := by
    show lowerLimit progress.producerIssueLimit _ = _
    rw [lowerLimit_eq, h.producerIssue]
    exact (foldl_filterMap_snoc _ _ _).symm
  consumerIssue := by
    show lowerLimit progress.consumerIssueLimit _ = _
    rw [lowerLimit_eq, h.consumerIssue]
    exact (foldl_filterMap_snoc _ _ _).symm

theorem Tracks.block (h : Tracks progress) (blockers : List String) :
    Tracks (progress.block blockers) :=
  ⟨h.producerDemand, h.consumerDemand, h.producerIssue, h.consumerIssue⟩

theorem recordAll (h : Tracks progress) (decisions : List RingRunDecision) :
    Tracks (decisions.foldl ContextProgress.record progress) ∧
      (decisions.foldl ContextProgress.record progress).runDecisions =
        progress.runDecisions ++ decisions ∧
      (decisions.foldl ContextProgress.record progress).blockers = progress.blockers := by
  induction decisions generalizing progress with
  | nil => exact ⟨h, (append_nil _).symm, rfl⟩
  | cons decision rest ih =>
      obtain ⟨htracks, hdecisions, hblockers⟩ := ih (h.record decision)
      refine ⟨htracks, ?_, hblockers⟩
      rw [foldl_cons, hdecisions, ContextProgress.record, append_assoc]
      rfl

/-! ### The loop over states -/

/-- Every planned run of a state is there, and enough of them are valid. -/
structure CompleteState (runs : List RingRunEvidence) (state : RingStatePlan) : Prop where
  present : ∀ runId ∈ state.plannedRunIds, ∃ run ∈ runs, run.runId = runId
  enough : kMinimumValidIndependentRuns ≤ (state.plannedRunIds.filter fun runId =>
    ∃ run ∈ runs, run.runId = runId ∧ run.validity = .valid).length

/-- Every state of a context is complete. -/
def Complete (runs : List RingRunEvidence) (context : RingContextPlan) : Prop :=
  ∀ state ∈ context.states, CompleteState runs state

section

variable {runs runs' : List RingRunEvidence}

theorem evidenceFor_some (hnodup : (runs.map (·.runId)).Nodup) {runId : RunId}
    {evidence : RingRunEvidence} :
    evidenceFor runs runId = some evidence ↔ evidence ∈ runs ∧ evidence.runId = runId :=
  Keyed.find_eq_some_iff hnodup

/-- The order of the evidence does not matter. -/
theorem evidenceFor_perm (hperm : runs.Perm runs') (hnodup : (runs.map (·.runId)).Nodup) :
    evidenceFor runs = evidenceFor runs' :=
  funext fun runId => Keyed.find_perm hperm hnodup runId

theorem evidenceOf_length (hnodup : (runs.map (·.runId)).Nodup) (runIds : List RunId) :
    (evidenceOf runs runIds).length = runIds.length ↔
      ∀ runId ∈ runIds, ∃ run ∈ runs, run.runId = runId := by
  have hsome : ∀ runId, (evidenceFor runs runId).isSome = true ↔
      ∃ run ∈ runs, run.runId = runId := by
    intro runId
    rw [Option.isSome_iff_exists]
    exact exists_congr fun run => evidenceFor_some hnodup
  simp only [← hsome]
  induction runIds with
  | nil => simp [evidenceOf]
  | cons runId rest ih =>
      rw [evidenceOf_cons, forall_mem_cons]
      refine Iff.trans ?_ (and_congr_right' ih)
      have hle : (evidenceOf runs rest).length ≤ rest.length := length_filterMap_le _ rest
      cases evidenceFor runs runId with
      | none =>
          rw [Option.toList_none, nil_append, length_cons]
          exact iff_of_false (by omega) (by simp)
      | some evidence => simp

theorem evidenceOf_valid (hnodup : (runs.map (·.runId)).Nodup) (runIds : List RunId) :
    (evidenceOf runs runIds).countP (fun run => run.validity = .valid) =
      (runIds.filter fun runId => ∃ run ∈ runs, run.runId = runId ∧ run.validity =
        .valid).length := by
  have hvalid : ∀ runId, ((evidenceFor runs runId).any fun run => run.validity = .valid) =
      decide (∃ run ∈ runs, run.runId = runId ∧ run.validity = .valid) := by
    intro runId
    rw [Bool.eq_iff_iff, Option.any_eq_true, decide_eq_true_eq]
    constructor
    · rintro ⟨run, hrun, hvalid⟩
      obtain ⟨hmem, hid⟩ := (evidenceFor_some hnodup).mp hrun
      exact ⟨run, hmem, hid, of_decide_eq_true hvalid⟩
    · rintro ⟨run, hmem, hid, hvalid⟩
      exact ⟨run, (evidenceFor_some hnodup).mpr ⟨hmem, hid⟩, decide_eq_true hvalid⟩
  simp only [← hvalid, ← countP_eq_length_filter]
  induction runIds with
  | nil => rfl
  | cons runId rest ih =>
      rw [evidenceOf_cons, countP_append, countP_cons, ih, Nat.add_comm]
      congr 1
      cases evidenceFor runs runId with
      | none => rfl
      | some evidence => simp

/-- What is evaluated for states: each with the evidence for its runs. -/
def evaluations (runs : List RingRunEvidence) (states : List RingStatePlan) :
    List (RingStatePlan × RingRunEvidence) :=
  states.flatMap fun state => (evidenceOf runs state.plannedRunIds).map fun evidence =>
    (state, evidence)

theorem evaluateStates_ok (hnodup : (runs.map (·.runId)).Nodup) {after : ContextProgress}
    {states : List RingStatePlan} (htracks : Tracks progress)
    (h : evaluateStates runs context progress states = .ok after) : Tracks after ∧
      (after.blockers = [] ↔ progress.blockers = [] ∧ ∀ state ∈ states, CompleteState runs state) ∧
      ∃ decisions, after.runDecisions = progress.runDecisions ++ decisions ∧
        Decided (fun pair => evaluateRun context pair.1 pair.2) (evaluations runs states)
          decisions := by
  induction states generalizing progress with
  | nil =>
      obtain rfl := Except.ok.inj h
      exact ⟨htracks, by simp, [], (append_nil _).symm, .nil⟩
  | cons state rest ih =>
      obtain ⟨⟨present, valid, recorded⟩, hruns, h⟩ := Fallible.bind_ok h
      obtain ⟨first, hfirst, hpresent, hvalid, hrecorded⟩ := evaluateRuns_ok hruns
      obtain ⟨htracks', hdecisions, hblockers⟩ := recordAll htracks first
      rw [← hrecorded] at htracks' hdecisions hblockers
      obtain ⟨hafter, hclean, decisions, hall, hdecided⟩ :=
        ih (htracks'.block (stateBlockers state present valid)) h
      refine ⟨hafter, ?_, first ++ decisions, ?_, ?_⟩
      · have hstate : present = state.plannedRunIds.length ∧
            ¬valid < kMinimumValidIndependentRuns ↔ CompleteState runs state := by
          rw [hpresent, hvalid, Nat.zero_add, Nat.zero_add, evidenceOf_length hnodup,
            evidenceOf_valid hnodup, not_lt]
          exact ⟨fun hboth => ⟨hboth.1, hboth.2⟩, fun hboth => ⟨hboth.1, hboth.2⟩⟩
        have hblock : stateBlockers state present valid = [] ↔ CompleteState runs state := by
          rw [← hstate, stateBlockers, append_eq_nil_iff]
          simp
        rw [hclean, forall_mem_cons, ← hblock, ContextProgress.block, hblockers,
          append_eq_nil_iff, and_assoc]
      · rw [hall, ContextProgress.block, hdecisions, append_assoc]
      · rw [evaluations, flatMap_cons]
        exact Decided.append (Decided.map hfirst) hdecided

end

end CpuPrefetch.Calibration
