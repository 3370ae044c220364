/-
Applying a state is all or nothing, up to the restorations that fail.

The platform is a map from targets to values.  Controls may share targets, so an applied value
may have been overwritten by a later control; restoring each control writes the first value of
its target back, and it does not matter which of the controls of a target comes last.
-/
import CpuPrefetch.Proofs.Platform.Restoration

namespace CpuPrefetch.Platform

open List RestoreOutcome
open Protocol (Text ascii)

variable {request : RequestedState} {priorState : List StateObservation}
  {actuator : ControlActuator} {initial : Text → Text}

/-- The recorded pre-states are the first values of the targets. -/
def RecordsInitial (request : RequestedState) (priorState : List StateObservation)
    (initial : Text → Text) : Prop :=
  ∀ control ∈ mutatingControls request.controls, ∀ prior value,
    observationFor priorState control.controlId = some prior →
      prior.observedValue = some value → value = initial control.target

/-- The calls of an authorized apply. -/
inductive Run (priorState : List StateObservation) (controls : List ControlRequest)
    (result : ApplyReport × List Call) : Prop
  | finished {actuator : ControlActuator} {done : List (ControlRequest × BackendResult)}
      (hdone : AppliedBefore priorState actuator [] done)
      (hcontrols : mutatingControls controls = done.map (·.1))
      (hcomplete : result.1.complete = true) (hcalls : result.2 = done.map appliedCall)
  | rolledBack {actuator : ControlActuator} {done : List (ControlRequest × BackendResult)}
      {last : List Call} {outcomes : List RestoreOutcome}
      (hdone : AppliedBefore priorState actuator [] done)
      (hcontrols : done.map (·.1) ⊆ mutatingControls controls)
      (hlast : ∀ call ∈ last, call.applied = none ∧ call.restores = none ∧ call.write = none)
      (houtcomes : outcomes.map (·.control) = (done.map (·.1)).reverse)
      (hsound : ∀ outcome ∈ outcomes, outcome.Sound priorState)
      (hcomplete : result.1.complete = false)
      (hrestoration : result.1.restoration = ⟨!(done.map (·.1)).isEmpty,
        outcomes.all (·.succeeded), outcomes.map (·.step), outcomes.flatMap (·.errors)⟩)
      (hcalls : result.2 = done.map appliedCall ++ last ++ outcomes.filterMap (·.call))

variable {control : ControlRequest}

theorem Stops.inert {calls last : List Call} (h : Stops priorState actuator calls control last) :
    ∀ call ∈ last, call.applied = none ∧ call.restores = none ∧ call.write = none := by
  cases h with
  | unobserved => simp
  | failed hobserved hfailed => simp [Call.applied, Call.restores, Call.write, hfailed]

theorem authorized_run (request : RequestedState) (priorState : List StateObservation)
    (actuator : Option ControlActuator) :
    Run priorState request.controls
      (applyRequestedState request priorState .authorizedApply actuator) := by
  have hunauthorized : ∀ result : ApplyReport × List Call, result.1.complete = false →
      result.1.restoration = ⟨false, true, [], []⟩ → result.2 = [] →
      Run priorState request.controls result := fun result hcomplete hrestoration hcalls =>
    @Run.rolledBack _ _ _ ⟨[], fun _ _ => ⟨true, [], [], none⟩⟩ [] [] [] (appliedBefore_nil _ _ _)
      (by simp) (by simp) rfl (by simp) hcomplete hrestoration hcalls
  unfold applyRequestedState
  cases actuator with
  | none => exact hunauthorized _ rfl rfl rfl
  | some actuator =>
      dsimp only
      split
      · exact hunauthorized _ rfl rfl rfl
      · obtain ⟨done, hdone, hends⟩ := applyControls_ends priorState actuator request.controls []
          ⟨.authorizedApply, true, [], ⟨false, true, [], []⟩, []⟩ []
        cases hends with
        | all hcontrols hcomplete _ hcalls =>
            exact .finished hdone hcontrols hcomplete (by simpa using hcalls)
        | @stopped control rest last hcontrols hstops hcomplete hrestored =>
            obtain ⟨outcomes, houtcomes, hsound, hrestore⟩ := restorePlatformState_spec
              (done.map (·.1)) priorState actuator (done.map appliedCall ++ last)
            have hrun := hrestored.trans hrestore
            refine .rolledBack hdone ?_ hstops.inert houtcomes hsound hcomplete
              (congrArg Prod.fst hrun) (congrArg Prod.snd hrun)
            rw [hcontrols]
            exact subset_append_left _ _

/-! ### What is left on the platform -/

theorem applied_writes {done : List (ControlRequest × BackendResult)}
    (hdone : AppliedBefore priorState actuator [] done) (initial : Text → Text) :
    platformAfter initial (done.map appliedCall) =
      Writes.replay initial
        ((done.map (·.1)).map fun control => (control.target, control.requestedValue)) := by
  rw [platformAfter, hdone.writes]

variable {outcomes : List RestoreOutcome}

/-- A restoration without failures sets every target back. -/
theorem restored_initial {done : List (ControlRequest × BackendResult)} {last : List Call}
    (hdone : AppliedBefore priorState actuator [] done)
    (hrecords : ∀ control ∈ done.map (·.1), ∀ prior value,
      observationFor priorState control.controlId = some prior → prior.observedValue = some value →
      value = initial control.target)
    (hlast : ∀ call ∈ last, call.write = none)
    (houtcomes : outcomes.map (·.control) = (done.map (·.1)).reverse)
    (hsound : ∀ outcome ∈ outcomes, outcome.Sound priorState)
    (hsucceeded : outcomes.all (·.succeeded) = true) :
    platformAfter initial (done.map appliedCall ++ last ++ outcomes.filterMap (·.call)) =
      initial := by
  have hwrite : ∀ outcome ∈ outcomes, ∃ call ∈ outcome.call,
      call.write = some (outcome.control.target, initial outcome.control.target) := by
    intro outcome houtcome
    have hcontrol : outcome.control ∈ done.map (·.1) := by
      rw [← mem_reverse, ← houtcomes]
      exact mem_map_of_mem houtcome
    have hanswered := List.all_eq_true.mp hsucceeded outcome houtcome
    cases outcome with
    | skipped control => cases hanswered
    | answered control prior result =>
        replace hanswered : result.succeeded = true := hanswered
        obtain ⟨hprior, hvalue⟩ := hsound _ houtcome
        obtain ⟨value, hvalue⟩ := Option.isSome_iff_exists.mp hvalue
        have hinitial := hrecords control hcontrol prior value hprior hvalue
        exact ⟨_, rfl, by simp [Call.write, hanswered, hvalue, hinitial, RestoreOutcome.control]⟩
  rw [platformAfter, filterMap_append, filterMap_append, hdone.writes,
    List.filterMap_eq_nil_iff.mpr hlast, append_nil, Writes.replay_append]
  refine Writes.replay_undone ?_ ?_
  · intro write hmem
    rw [filterMap_filterMap] at hmem
    obtain ⟨outcome, houtcome, hbind⟩ := List.mem_filterMap.mp hmem
    obtain ⟨call, hcall, hset⟩ := hwrite outcome houtcome
    rw [hcall, Option.bind_some, hset] at hbind
    rw [← Option.some.inj hbind]
  · intro write hmem
    obtain ⟨control, hcontrol, rfl⟩ := List.mem_map.mp hmem
    rw [← mem_reverse, ← houtcomes] at hcontrol
    obtain ⟨outcome, houtcome, rfl⟩ := List.mem_map.mp hcontrol
    obtain ⟨call, hcall, hset⟩ := hwrite outcome houtcome
    refine ⟨(outcome.control.target, initial outcome.control.target), ?_, rfl⟩
    rw [filterMap_filterMap]
    exact List.mem_filterMap.mpr ⟨outcome, houtcome, by rw [hcall, Option.bind_some, hset]⟩

/-- An authorized apply with its report sets all it was asked to set, or restores what it set. -/
structure AllOrNothing (request : RequestedState) (priorState : List StateObservation)
    (initial : Text → Text) (report : ApplyReport) (calls : List Call) : Prop where
  complete : report.complete = true →
    platformAfter initial calls = Writes.replay initial
      ((mutatingControls request.controls).map fun control =>
        (control.target, control.requestedValue))
  restored : report.complete = false → report.restoration.complete = true →
    platformAfter initial calls = initial
  untouched : report.complete = true → calls.filterMap Call.restores = []
  reversed : report.complete = false →
    calls.filterMap Call.restores =
      (calls.filterMap Call.applied).reverse.filter (recorded priorState)
  everyOne : report.complete = false →
    (∀ control ∈ calls.filterMap Call.applied, recorded priorState control = true) →
      calls.filterMap Call.restores = (calls.filterMap Call.applied).reverse
  listed : report.complete = false →
    report.restoration.steps.map (·.controlId) =
      (calls.filterMap Call.applied).reverse.map (·.controlId)
  failed : ∀ call ∈ calls, ∀ control, call.restores = some control → call.result.succeeded = false →
    ⟨control.controlId, .restorationFailed, call.result.evidenceId, call.result.detail⟩ ∈
        report.restoration.steps ∧
      (∃ error ∈ report.restoration.errors, error.path = ascii "$restore/" ++ control.controlId ∧
        error.ruleId = "PLT-RESTORE-FAILED") ∧
      report.restoration.complete = false
  skipped : report.complete = false → ∀ control ∈ calls.filterMap Call.applied,
    recorded priorState control = false →
      (∃ step ∈ report.restoration.steps, step.controlId = control.controlId ∧
        step.status = .restorationFailed) ∧
      (∃ error ∈ report.restoration.errors, error.path = ascii "$restore/" ++ control.controlId ∧
        error.ruleId = "PLT-RESTORE-PRESTATE") ∧
      report.restoration.complete = false

/-! ### Failures in the report -/

theorem RestoreOutcome.failed_noted {call : Call} (hcall : call ∈ outcomes.filterMap (·.call))
    (hcontrol : call.restores = some control) (hfailed : call.result.succeeded = false) :
    ⟨control.controlId, .restorationFailed, call.result.evidenceId, call.result.detail⟩ ∈
        outcomes.map (·.step) ∧
      (∃ error ∈ outcomes.flatMap (·.errors), error.path = ascii "$restore/" ++ control.controlId ∧
        error.ruleId = "PLT-RESTORE-FAILED") ∧
      outcomes.all (·.succeeded) = false := by
  obtain ⟨outcome, houtcome, hmade⟩ := List.mem_filterMap.mp hcall
  cases outcome with
  | skipped other => cases hmade
  | answered other prior result =>
      obtain rfl := Option.some.inj hmade
      obtain rfl := Option.some.inj hcontrol
      replace hfailed : result.succeeded = false := hfailed
      refine ⟨?_, ?_, ?_⟩
      · refine List.mem_map.mpr ⟨_, houtcome, ?_⟩
        simp [step, hfailed]
      · refine ⟨⟨.restorationFailure, ascii "$restore/" ++ other.controlId, "PLT-RESTORE-FAILED",
          "the actuator did not restore the recorded pre-state"⟩,
          List.mem_flatMap.mpr ⟨_, houtcome, ?_⟩, rfl, rfl⟩
        simp [errors, require, hfailed]
      · exact List.all_eq_false.mpr ⟨_, houtcome, by simp [succeeded, hfailed]⟩

theorem RestoreOutcome.skipped_noted (hsound : ∀ outcome ∈ outcomes, outcome.Sound priorState)
    (hcontrol : control ∈ outcomes.map (·.control))
    (hunrecorded : recorded priorState control = false) :
    (∃ step ∈ outcomes.map (·.step), step.controlId = control.controlId ∧
        step.status = .restorationFailed) ∧
      (∃ error ∈ outcomes.flatMap (·.errors), error.path = ascii "$restore/" ++ control.controlId ∧
        error.ruleId = "PLT-RESTORE-PRESTATE") ∧
      outcomes.all (·.succeeded) = false := by
  obtain ⟨outcome, houtcome, rfl⟩ := List.mem_map.mp hcontrol
  cases outcome with
  | skipped control =>
      refine ⟨⟨_, mem_map_of_mem houtcome, rfl, rfl⟩, ?_, ?_⟩
      · exact ⟨_, List.mem_flatMap.mpr ⟨_, houtcome, mem_singleton_self _⟩, rfl, rfl⟩
      · exact List.all_eq_false.mpr ⟨_, houtcome, by simp [succeeded]⟩
  | answered control prior result =>
      obtain ⟨hprior, hvalue⟩ := hsound _ houtcome
      rw [RestoreOutcome.control, recorded, hprior, Option.any_some, hvalue] at hunrecorded
      cases hunrecorded

theorem steps_controls (outcomes : List RestoreOutcome) :
    (outcomes.map (·.step)).map (·.controlId) = (outcomes.map (·.control)).map (·.controlId) := by
  rw [map_map, map_map]
  refine map_congr_left fun outcome _ => ?_
  cases outcome <;> rfl

/-- What the run lemma says of the calls is what the report must account for. -/
theorem Run.all_or_nothing {result : ApplyReport × List Call}
    (h : Run priorState request.controls result)
    (hrecords : RecordsInitial request priorState initial) :
    AllOrNothing request priorState initial result.1 result.2 := by
  cases h with
  | @finished _ done hdone hcontrols hcomplete hcalls =>
      have hnone : result.2.filterMap Call.restores = [] := by
        rw [hcalls, restores_appliedCalls]
      have hincomplete : result.1.complete ≠ false := by simp [hcomplete]
      refine ⟨fun _ => ?_, fun h => absurd h hincomplete, fun _ => hnone,
        fun h => absurd h hincomplete, fun h => absurd h hincomplete, fun h => absurd h hincomplete,
        fun call hcall control hcontrol => ?_, fun h => absurd h hincomplete⟩
      · rw [hcalls, applied_writes hdone, hcontrols]
      · rw [List.filterMap_eq_nil_iff.mp hnone call hcall] at hcontrol
        cases hcontrol
  | @rolledBack _ done last outcomes hdone hcontrols hlast houtcomes hsound hcomplete hrestoration
      hcalls =>
      have happlied : result.2.filterMap Call.applied = done.map (·.1) := by
        rw [hcalls, filterMap_append, filterMap_append, hdone.applied,
          List.filterMap_eq_nil_iff.mpr fun call hcall => (hlast call hcall).1,
          applied_restoreCalls, append_nil, append_nil]
      have hrestores : result.2.filterMap Call.restores =
          (done.map (·.1)).reverse.filter (recorded priorState) := by
        rw [hcalls, filterMap_append, filterMap_append, restores_appliedCalls,
          List.filterMap_eq_nil_iff.mpr fun call hcall => (hlast call hcall).2.1,
          restored_controls hsound, houtcomes, nil_append, nil_append]
      have hincomplete : result.1.complete ≠ true := by simp [hcomplete]
      refine ⟨fun h => absurd h hincomplete, fun _ hrestored => ?_, fun h => absurd h hincomplete,
        fun _ => by rw [happlied, hrestores], fun _ hall => ?_, fun _ => ?_,
        fun call hcall control hcontrol hfailed => ?_, fun _ control hcontrol hunrecorded => ?_⟩
      · rw [hrestoration] at hrestored
        rw [hcalls]
        exact restored_initial hdone (fun control hcontrol => hrecords control (hcontrols hcontrol))
          (fun call hcall => (hlast call hcall).2.2) houtcomes hsound hrestored
      · rw [happlied] at hall ⊢
        rw [hrestores, List.filter_eq_self.mpr]
        exact fun control hcontrol => hall control (List.mem_reverse.mp hcontrol)
      · rw [hrestoration, happlied, steps_controls, houtcomes]
      · rw [hrestoration]
        have hmade : call ∈ outcomes.filterMap (·.call) := by
          rw [hcalls, append_assoc] at hcall
          rcases List.mem_append.mp hcall with hforward | hrest
          · have hnone := List.filterMap_eq_nil_iff.mp (restores_appliedCalls done) call hforward
            rw [hnone] at hcontrol
            cases hcontrol
          · rcases List.mem_append.mp hrest with hstop | hback
            · rw [(hlast call hstop).2.1] at hcontrol
              cases hcontrol
            · exact hback
        exact failed_noted hmade hcontrol hfailed
      · rw [hrestoration]
        rw [happlied, ← mem_reverse, ← houtcomes] at hcontrol
        exact skipped_noted hsound hcontrol hunrecorded

/-- **Applying is all or nothing**, up to restorations that fail: a dry run calls nothing; a
complete report means that every mutating control was set, in order; an incomplete one whose
restoration is complete means that every target has its first value again.  What was applied is
restored once, the last control first, and a restoration that fails or is skipped is in the report
and makes it incomplete. -/
theorem apply_all_or_nothing (request : RequestedState) (priorState : List StateObservation)
    (actuator : Option ControlActuator) (initial : Text → Text)
    (hrecords : RecordsInitial request priorState initial) :
    (applyRequestedState request priorState .dryRun actuator).2 = [] ∧
      AllOrNothing request priorState initial
        (applyRequestedState request priorState .authorizedApply actuator).1
        (applyRequestedState request priorState .authorizedApply actuator).2 :=
  ⟨rfl, (authorized_run request priorState actuator).all_or_nothing hrecords⟩

/-- A control of the frequency governor. -/
def sampleControl (controlId requestedValue : String) : ControlRequest :=
  ⟨ascii controlId, .governor, ascii "governor", ascii requestedValue, true, true, ascii "operator",
    ascii "write", ascii "read"⟩

/-- A value of the governor, as it was observed for a control. -/
def sampleObservation (controlId : String) (value : Option Text) : StateObservation :=
  ⟨ascii controlId, ascii "snapshot", 1, value, ascii "evidence", ascii "read"⟩

def sampleRequest (controls : List ControlRequest) : RequestedState :=
  ⟨ascii "request", ascii "snapshot", 1,
    ⟨.near, 0, 1, .bindProducerNode, [0], .bindWorkerLocal, [0], .bindWorkerLocal, [0],
      .verifiedBasePages, 4096⟩, .h0, controls⟩

/-- An actuator for which only the call after this many calls fails. -/
def failingAt (count : Nat) : ControlActuator :=
  ⟨ascii "actuator", fun calls _ => ⟨calls.length ≠ count, [], [], none⟩⟩

/-- Two controls set one target before a third cannot set it. -/
theorem apply_all_or_nothing_shared :
    let request := sampleRequest
      [sampleControl "a" "performance", sampleControl "b" "powersave",
        sampleControl "c" "userspace"]
    let priorState := [sampleObservation "a" (some (ascii "ondemand")),
      sampleObservation "b" (some (ascii "ondemand")),
      sampleObservation "c" (some (ascii "ondemand"))]
    let run := applyRequestedState request priorState .authorizedApply (some (failingAt 2))
    (run.1.complete = false ∧ run.1.restoration.complete = true ∧ run.2.length = 5) ∧
      AllOrNothing request priorState (fun _ => ascii "ondemand") run.1 run.2 := by
  intro request priorState run
  refine ⟨by decide +kernel, (apply_all_or_nothing request priorState (some (failingAt 2))
    (fun _ => ascii "ondemand") ?_).2⟩
  intro control _ prior value hprior hvalue
  have hmember := mem_of_find?_eq_some hprior
  simp only [priorState, mem_cons, not_mem_nil, or_false] at hmember
  rcases hmember with rfl | rfl | rfl <;> exact (Option.some.inj hvalue).symm

end CpuPrefetch.Platform
