/-
What ESTIMABLE says of a run.

The evaluator blocks a run for what failed.  The run's own gates must all have a verdict before
it does so, but of the two injected gates it asks only for authority: one that has authority and
no verdict blocks nothing.
-/
import CpuPrefetch.Proofs.Reconciliation.Status

namespace CpuPrefetch.Reconciliation

open Protocol (CompleteCounts ConfirmatoryBlocker ConfirmatoryEstimability JoinStatus RunCounts
  atLeast200000 summaryFor)

/-- The join passed, and the counts add up, with nothing lost and a tail that is long enough. -/
def CountsPass (joinStatus : JoinStatus) (counts : RunCounts) : Prop :=
  joinStatus = .passed ∧ ∃ complete, counts.complete = some complete ∧ complete.identities = true ∧
    complete.full = 0 ∧ atLeast200000 complete.nEffP999 = true

/-- Every gate of the run itself passes. -/
def OwnGatesPass (input : RunStatusInput) : Prop :=
  input.stage = .stageA ∧ input.lifecycleState = .completed ∧
    ∃ counts, input.counts = some counts ∧ CountsPass input.joinStatus counts

/-- What an estimable run has. -/
structure Earned (input : RunStatusInput) (status : RunStatus) : Prop where
  stage : input.stage = .stageA
  lifecycle : input.lifecycleState = .completed
  counts : ∃ counts complete, input.counts = some counts ∧ counts.complete = some complete ∧
    complete.offered = complete.attempted ∧
    complete.attempted.toNat = complete.accepted.toNat + complete.full.toNat ∧
    complete.consumed = complete.accepted ∧ complete.rawSampleCount = complete.accepted ∧
    complete.finalOccupancy = 0 ∧ complete.full = 0
  join : input.joinStatus = .passed
  tail : status.effectiveTail = .pass
  block : input.blockCompleteness = ⟨.complete, true⟩
  access : input.accessIntegrity = ⟨.pass, true⟩

/-- The causes that block a run. -/
def Applies (input : RunStatusInput) (status : RunStatus) : ConfirmatoryBlocker → Prop
  | .blockedAccessLeakage => input.accessIntegrity.status = .fail
  | .blockedEffectiveTail => status.effectiveTail = .fail
  | .blockedIncompleteBlock => input.blockCompleteness.status = .incomplete
  | .blockedInvalidRun => status.validity = .invalid
  | .blockedZeroLoss => status.zeroLoss = .fail

/-- The summary is settled. -/
def Final (status : RunStatus) : Prop :=
  status.confirmatoryEstimability ≠ .notEvaluated ∧ status.confirmatoryEstimability ≠ .notApplicable

/-- The blockers of a settled run are its causes, in order, and are summed up; any other run has
none. -/
structure Exhaustive (input : RunStatusInput) (status : RunStatus) : Prop where
  increasing : (status.confirmatoryBlockers.map (·.ctorIdx)).Pairwise (· < ·)
  causes : Final status → ∀ blocker, blocker ∈ status.confirmatoryBlockers ↔
    Applies input status blocker
  summary : Final status → status.confirmatoryEstimability = summaryFor status.confirmatoryBlockers
  empty : ¬Final status → status.confirmatoryBlockers = []

/-- ESTIMABLE is earned, and the blockers are exhaustive. -/
def EarnedEstimability (input : RunStatusInput) : Prop :=
  ∀ status, evaluateRunStatus input = .ok status →
    (status.confirmatoryEstimability = .estimable → Earned input status) ∧ Exhaustive input status

/--
The injected gates are decided as far as they matter: the run's own gates fail, or authority is
missing, or one of the two has failed, or both have passed.
-/
def Decided (input : RunStatusInput) : Prop :=
  OwnGatesPass input → Authorized input →
    input.accessIntegrity.status = .fail ∨ input.blockCompleteness.status = .incomplete ∨
      (input.accessIntegrity.status = .pass ∧ input.blockCompleteness.status = .complete)

/-! ### Counts -/

section Counts

/-- The gates of a completed run are all decided and none fails exactly when its counts pass. -/
theorem completedGates_pass (output : RunStatus) (joinStatus : JoinStatus) (counts : RunCounts)
    (hlifecycle : output.lifecycleCompletion = .complete) :
    (runGatesAuthoritative (completedGates output joinStatus counts) = true ∧
        (completedGates output joinStatus counts).effectiveTail ≠ .fail ∧
        (completedGates output joinStatus counts).validity ≠ .invalid ∧
        (completedGates output joinStatus counts).zeroLoss ≠ .fail) ↔
      CountsPass joinStatus counts := by
  rw [CountsPass]
  cases hcomplete : counts.complete with
  | none =>
      simp [completedGates, completeCountIdentities, hcomplete, gateOf]
  | some complete =>
      obtain ⟨hfull, hcount⟩ := complete_fields hcomplete
      simp only [completedGates, completeCountIdentities, hcomplete, hfull, hcount, gateOf,
        runGatesAuthoritative, hlifecycle, nEffAtLeastThreshold, Option.some.injEq,
        exists_eq_left']
      by_cases hidentities : complete.identities = true <;>
        by_cases hjoin : joinStatus = .passed <;>
          by_cases hzero : complete.full = 0 <;>
            by_cases htail : atLeast200000 complete.nEffP999 = true <;>
              simp [hidentities, hjoin, hzero, htail]

end Counts

/-! ### Blockers -/

section Blockers

variable {input : RunStatusInput} {output status : RunStatus}

theorem mem_applicableBlockers (blocker : ConfirmatoryBlocker) :
    blocker ∈ applicableBlockers input output ↔ Applies input output blocker := by
  unfold applicableBlockers
  cases blocker <;> simp [Applies]

theorem applicableBlockers_increasing :
    ((applicableBlockers input output).map (·.ctorIdx)).Pairwise (· < ·) := by
  unfold applicableBlockers
  split <;> split <;> split <;> split <;> split <;> decide

theorem summaryFor_estimable {blockers : List ConfirmatoryBlocker} :
    summaryFor blockers = .estimable ↔ blockers = [] := by
  rcases blockers with - | ⟨blocker, - | ⟨second, rest⟩⟩
  · simp [summaryFor]
  · cases blocker <;> simp [summaryFor, ConfirmatoryBlocker.summary]
  · simp [summaryFor]

/-- The end of the evaluation is exhaustive, whatever the gates. -/
theorem settled_exhaustive (hblockers : output.confirmatoryBlockers = [])
    (h : settleEstimability input output = .ok status) : Exhaustive input status := by
  rcases settleEstimability_cases h with ⟨-, rfl⟩ | ⟨-, -, rfl⟩ | ⟨-, -, rfl⟩
  · refine ⟨?_, fun hfinal => absurd rfl hfinal.2, fun hfinal => absurd rfl hfinal.2,
      fun _ => hblockers⟩
    simp only [hblockers]
    decide
  · refine ⟨?_, fun hfinal => absurd rfl hfinal.1, fun hfinal => absurd rfl hfinal.1,
      fun _ => hblockers⟩
    simp only [hblockers]
    decide
  · refine ⟨applicableBlockers_increasing, fun _ blocker => ?_, fun _ => rfl, fun hopen => ?_⟩
    · rw [mem_applicableBlockers]
      cases blocker <;> rfl
    · exact absurd (summaryFor_final _) hopen

/-- A run is estimable when everything has authority or a verdict, and nothing has failed. -/
theorem settled_estimable (h : settleEstimability input output = .ok status) :
    status.confirmatoryEstimability = .estimable ↔
      input.stage = .stageA ∧ runGatesAuthoritative output = true ∧ Authorized input ∧
        applicableBlockers input output = [] := by
  rcases settleEstimability_cases h with ⟨hstage, rfl⟩ | ⟨hstage, hopen, rfl⟩ |
    ⟨hstage, ⟨hclosed, hauthorized⟩, rfl⟩
  · simp [hstage]
  · rw [not_and] at hopen
    simp only [hstage, true_and, reduceCtorEq, false_iff, not_and]
    exact fun hclosed hauthorized => absurd hauthorized (hopen hclosed)
  · simp [hstage, hclosed, hauthorized, summaryFor_estimable]

theorem applicableBlockers_eq_nil : applicableBlockers input output = [] ↔
    (input.accessIntegrity.status ≠ .fail ∧ input.blockCompleteness.status ≠ .incomplete) ∧
      output.effectiveTail ≠ .fail ∧ output.validity ≠ .invalid ∧ output.zeroLoss ≠ .fail := by
  rw [List.eq_nil_iff_forall_not_mem]
  simp only [mem_applicableBlockers]
  constructor
  · intro h
    exact ⟨⟨h .blockedAccessLeakage, h .blockedIncompleteBlock⟩, h .blockedEffectiveTail,
      h .blockedInvalidRun, h .blockedZeroLoss⟩
  · rintro ⟨⟨haccess, hblock⟩, htail, hvalidity, hzero⟩ blocker
    cases blocker with
    | blockedAccessLeakage => exact haccess
    | blockedEffectiveTail => exact htail
    | blockedIncompleteBlock => exact hblock
    | blockedInvalidRun => exact hvalidity
    | blockedZeroLoss => exact hzero

end Blockers

/-! ### The evaluator -/

section Evaluator

variable {input : RunStatusInput} {status : RunStatus}

/-- The run's own gates pass, and neither injected gate stands against it. -/
def Unblocked (input : RunStatusInput) : Prop :=
  OwnGatesPass input ∧ Authorized input ∧ input.accessIntegrity.status ≠ .fail ∧
    input.blockCompleteness.status ≠ .incomplete

theorem estimable_iff (h : evaluateRunStatus input = .ok status) :
    status.confirmatoryEstimability = .estimable ↔ Unblocked input := by
  unfold evaluateRunStatus at h
  cases hstate : input.lifecycleState <;> simp only [hstate] at h
  case planned =>
    obtain rfl := Except.ok.inj h
    simp [Unblocked, OwnGatesPass, hstate]
  case measurementStarted =>
    obtain rfl := Except.ok.inj h
    simp [Unblocked, OwnGatesPass, hstate]
  case completed =>
    split at h
    · cases h
    · rename_i counts hcounts
      have hpass := completedGates_pass
        { joinStatus := input.joinStatus
          blockCompleteness := input.blockCompleteness.status
          lifecycleCompletion := .complete } input.joinStatus counts rfl
      rw [settled_estimable h, applicableBlockers_eq_nil, Unblocked, OwnGatesPass]
      simp only [hstate, hcounts, Option.some.injEq, exists_eq_left', true_and, ← hpass]
      tauto
  -- a run that failed is invalid, and its gates are open besides
  all_goals
    rw [settled_estimable h, applicableBlockers_eq_nil]
    simp [Unblocked, OwnGatesPass, hstate]

theorem evaluated_exhaustive (h : evaluateRunStatus input = .ok status) :
    Exhaustive input status := by
  rcases evaluateRunStatus_cases h with ⟨-, rfl⟩ | ⟨output, -, hevaluated, hsettled, -⟩
  · exact ⟨List.Pairwise.nil, fun hfinal => absurd rfl hfinal.1, fun hfinal => absurd rfl hfinal.1,
      fun _ => rfl⟩
  · exact settled_exhaustive hevaluated.blockers hsettled

/-- A run whose own gates pass has a status, with its tail among them. -/
theorem evaluated_of_pass (h : OwnGatesPass input) :
    ∃ status, evaluateRunStatus input = .ok status ∧ status.effectiveTail = .pass := by
  obtain ⟨hstage, hstate, counts, hcounts, hjoin, complete, hcomplete, hidentities, -, htail⟩ := h
  obtain ⟨-, hcount⟩ := complete_fields hcomplete
  have hsettle : ∀ output : RunStatus, output.validity = .valid →
      ∃ status, settleEstimability input output = .ok status := by
    intro output hvalid
    unfold settleEstimability
    rw [if_neg (by simp [hvalid]), if_neg (by simp [hstage])]
    split
    · exact ⟨_, rfl⟩
    · exact ⟨_, rfl⟩
  obtain ⟨status, hstatus⟩ := hsettle
    (completedGates
      { joinStatus := input.joinStatus
        blockCompleteness := input.blockCompleteness.status
        lifecycleCompletion := .complete } input.joinStatus counts)
    (by simp [completedGates, completeCountIdentities, hcomplete, hidentities, hjoin, gateOf])
  refine ⟨status, ?_, ?_⟩
  · simp only [evaluateRunStatus, hstate, hcounts]
    exact hstatus
  · rw [(settled_gates hstatus).2.2.2]
    simp [completedGates, hcount, nEffAtLeastThreshold, htail, gateOf]

theorem earned_of_pass (h : OwnGatesPass input) (htail : status.effectiveTail = .pass)
    (hauthorized : Authorized input) (haccess : input.accessIntegrity.status = .pass)
    (hblock : input.blockCompleteness.status = .complete) : Earned input status := by
  obtain ⟨hstage, hstate, counts, hcounts, hjoin, complete, hcomplete, hidentities, hfull, -⟩ := h
  simp only [CompleteCounts.identities, Bool.and_eq_true, decide_eq_true_eq] at hidentities
  obtain ⟨⟨⟨⟨hoffered, hattempted⟩, hconsumed⟩, hoccupancy⟩, hraw⟩ := hidentities
  refine ⟨hstage, hstate, ⟨counts, complete, hcounts, hcomplete, hoffered, ?_, hconsumed, hraw,
    hoccupancy, hfull⟩, hjoin, htail, ?_, ?_⟩
  · rw [Protocol.checkedAdd_some hattempted]
  · cases hgate : input.blockCompleteness
    simp_all [Authorized]
  · cases hgate : input.accessIntegrity
    simp_all [Authorized]

end Evaluator

/-- **ESTIMABLE is earned** exactly when the injected gates are decided as far as they matter;
the blockers are exhaustive in any case. -/
theorem estimability_earned_iff (input : RunStatusInput) :
    EarnedEstimability input ↔ Decided input := by
  constructor
  · intro hearned hpass hauthorized
    obtain ⟨status, hstatus, -⟩ := evaluated_of_pass hpass
    by_cases haccess : input.accessIntegrity.status = .fail
    · exact Or.inl haccess
    by_cases hblock : input.blockCompleteness.status = .incomplete
    · exact Or.inr (Or.inl hblock)
    have hestimable := (estimable_iff hstatus).mpr ⟨hpass, hauthorized, haccess, hblock⟩
    have hall := (hearned status hstatus).1 hestimable
    exact Or.inr (Or.inr ⟨congrArg AuthoritativeGate.status hall.access,
      congrArg AuthoritativeBlockCompleteness.status hall.block⟩)
  · intro hdecided status hstatus
    refine ⟨fun hestimable => ?_, evaluated_exhaustive hstatus⟩
    obtain ⟨hpass, hauthorized, haccess, hblock⟩ := (estimable_iff hstatus).mp hestimable
    obtain ⟨status', hstatus', htail⟩ := evaluated_of_pass hpass
    obtain rfl := Except.ok.inj (hstatus.symm.trans hstatus')
    have hverdicts := ((hdecided hpass hauthorized).resolve_left haccess).resolve_left hblock
    exact earned_of_pass hpass htail hauthorized hverdicts.1 hverdicts.2

/-- An access gate with authority and no verdict leaves a run estimable. -/
theorem unevaluated_access_estimable :
    evaluateRunStatus { Example.input with accessIntegrity := ⟨.notEvaluated, true⟩ } =
        .ok Example.settledStatus ∧
      Example.settledStatus.confirmatoryEstimability = .estimable ∧
      ¬EarnedEstimability { Example.input with accessIntegrity := ⟨.notEvaluated, true⟩ } := by
  have hstatus : evaluateRunStatus
      { Example.input with accessIntegrity := ⟨.notEvaluated, true⟩ } =
        .ok Example.settledStatus := by decide
  refine ⟨hstatus, rfl, fun hearned => ?_⟩
  have haccess := ((hearned _ hstatus).1 rfl).access
  cases haccess

end CpuPrefetch.Reconciliation
