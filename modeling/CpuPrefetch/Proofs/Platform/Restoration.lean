/-
What a run of the controls leaves on the platform.

A run applies the mutating controls one after the other until one of them cannot be applied,
and then restores those that were applied, the last one first.  The run lemma says where it
stopped and which calls it made; everything else is read off these calls.
-/
import CpuPrefetch.Lib.Keyed
import CpuPrefetch.Platform.Control

namespace CpuPrefetch.Platform

open List
open Protocol (Text ascii)

/-! ### Calls -/

/-- The control that a call has applied. -/
def Call.applied (call : Call) : Option ControlRequest :=
  match call.operation with
  | .apply control => if call.result.succeeded then some control else none
  | .restore _ _ => none

/-- The control that a call is to restore. -/
def Call.restores (call : Call) : Option ControlRequest :=
  match call.operation with
  | .apply _ => none
  | .restore control _ => some control

/-- What a call that succeeds sets; one that fails changes nothing. -/
def Call.write (call : Call) : Option (Text × Text) :=
  if call.result.succeeded then
    match call.operation with
    | .apply control => some (control.target, control.requestedValue)
    | .restore control prior => prior.observedValue.map fun value => (control.target, value)
  else none

/-- The values of the targets after the calls. -/
def platformAfter (initial : Text → Text) (calls : List Call) : Text → Text :=
  Writes.replay initial (calls.filterMap Call.write)

/-- The first observation of the control has a value. -/
def recorded (priorState : List StateObservation) (control : ControlRequest) : Bool :=
  (observationFor priorState control.controlId).any (·.observedValue.isSome)

def mutatingControls (controls : List ControlRequest) : List ControlRequest :=
  controls.filter (·.mutating)

/-- A control that was applied, with the actuator's answer. -/
def appliedCall (done : ControlRequest × BackendResult) : Call := ⟨.apply done.1, done.2⟩

/-! ### Restoring -/

/-- What becomes of a control that is to be restored. -/
inductive RestoreOutcome where
  | skipped (control : ControlRequest)
  | answered (control : ControlRequest) (prior : StateObservation) (result : BackendResult)

namespace RestoreOutcome

def control : RestoreOutcome → ControlRequest
  | skipped control => control
  | answered control _ _ => control

def call : RestoreOutcome → Option Call
  | skipped _ => none
  | answered control prior result => some ⟨.restore control prior, result⟩

def succeeded : RestoreOutcome → Bool
  | skipped _ => false
  | answered _ _ result => result.succeeded

def step : RestoreOutcome → ApplyStep
  | skipped control =>
      ⟨control.controlId, .restorationFailed, [], ascii "pre-state evidence is missing"⟩
  | answered control _ result =>
      ⟨control.controlId, if result.succeeded then .restored else .restorationFailed,
        result.evidenceId, result.detail⟩

def errors : RestoreOutcome → List Error
  | skipped control =>
      [⟨.restorationFailure, ascii "$restore/" ++ control.controlId, "PLT-RESTORE-PRESTATE",
        "cannot restore a changed control without its independently recorded pre-state"⟩]
  | answered control _ result =>
      require result.succeeded
        ⟨.restorationFailure, ascii "$restore/" ++ control.controlId, "PLT-RESTORE-FAILED",
          "the actuator did not restore the recorded pre-state"⟩

/-- The control is skipped when its pre-state has no value, and only then. -/
def Sound (priorState : List StateObservation) : RestoreOutcome → Prop
  | skipped control => recorded priorState control = false
  | answered control prior _ =>
      observationFor priorState control.controlId = some prior ∧ prior.observedValue.isSome = true

end RestoreOutcome

open RestoreOutcome

/-- The report once these outcomes are noted. -/
def RestorationReport.noted (report : RestorationReport) (outcomes : List RestoreOutcome) :
    RestorationReport :=
  ⟨report.attempted, report.complete && outcomes.all (·.succeeded),
    report.steps ++ outcomes.map (·.step), report.errors ++ outcomes.flatMap (·.errors)⟩

theorem noted_append (report : RestorationReport) (before after : List RestoreOutcome) :
    (report.noted before).noted after = report.noted (before ++ after) := by
  simp [RestorationReport.noted, Bool.and_assoc]

theorem restoreControl_spec (priorState : List StateObservation) (actuator : ControlActuator)
    (run : RestorationReport × List Call) (control : ControlRequest) :
    ∃ outcome : RestoreOutcome, outcome.control = control ∧ outcome.Sound priorState ∧
      restoreControl priorState actuator run control =
        (run.1.noted [outcome], run.2 ++ [outcome].filterMap (·.call)) := by
  have hskipped : run.1.skipped control = run.1.noted [.skipped control] := by
    simp [RestorationReport.skipped, RestorationReport.noted, succeeded,
      step, errors]
  unfold restoreControl
  split
  · rename_i hnone
    refine ⟨.skipped control, rfl, ?_, ?_⟩
    · simp [Sound, recorded, hnone]
    · simp [hskipped, call]
  · rename_i prior hprior
    by_cases hvalue : prior.observedValue.isNone = true
    · rw [if_pos hvalue]
      refine ⟨.skipped control, rfl, ?_, ?_⟩
      · simpa [Sound, recorded, hprior] using hvalue
      · simp [hskipped, call]
    · rw [if_neg hvalue]
      refine ⟨.answered control prior (actuator.answer run.2 (.restore control prior)), rfl,
        ⟨hprior, ?_⟩, ?_⟩
      · exact Option.isSome_iff_ne_none.mpr (by simpa using hvalue)
      · simp [RestorationReport.answered, RestorationReport.noted, succeeded,
          step, errors, call]

/-- The loop over these controls notes one outcome for each, in order. -/
theorem foldl_restoreControl (priorState : List StateObservation) (actuator : ControlActuator)
    (controls : List ControlRequest) (run : RestorationReport × List Call) :
    ∃ outcomes : List RestoreOutcome, outcomes.map (·.control) = controls ∧
      (∀ outcome ∈ outcomes, outcome.Sound priorState) ∧
      controls.foldl (restoreControl priorState actuator) run =
        (run.1.noted outcomes, run.2 ++ outcomes.filterMap (·.call)) := by
  induction controls generalizing run with
  | nil => exact ⟨[], rfl, by simp, by simp [RestorationReport.noted]⟩
  | cons control rest ih =>
      obtain ⟨outcome, hcontrol, hsound, hstep⟩ :=
        restoreControl_spec priorState actuator run control
      obtain ⟨outcomes, hcontrols, hsounds, hrun⟩ :=
        ih (restoreControl priorState actuator run control)
      refine ⟨outcome :: outcomes, by simp [hcontrol, hcontrols], ?_, ?_⟩
      · intro other hother
        rcases List.mem_cons.mp hother with rfl | hlater
        · exact hsound
        · exact hsounds other hlater
      · rw [foldl_cons, hrun, hstep, noted_append, append_assoc, ← filterMap_append]
        rfl

/-- The restoration of these controls, the last one first. -/
theorem restorePlatformState_spec (applied : List ControlRequest)
    (priorState : List StateObservation) (actuator : ControlActuator) (calls : List Call) :
    ∃ outcomes : List RestoreOutcome, outcomes.map (·.control) = applied.reverse ∧
      (∀ outcome ∈ outcomes, outcome.Sound priorState) ∧
      restorePlatformState applied priorState actuator calls =
        (⟨!applied.isEmpty, outcomes.all (·.succeeded), outcomes.map (·.step),
          outcomes.flatMap (·.errors)⟩, calls ++ outcomes.filterMap (·.call)) := by
  obtain ⟨outcomes, hcontrols, hsounds, hrun⟩ :=
    foldl_restoreControl priorState actuator applied.reverse
      (⟨!applied.isEmpty, true, [], []⟩, calls)
  refine ⟨outcomes, hcontrols, hsounds, ?_⟩
  rw [restorePlatformState, hrun]
  simp [RestorationReport.noted]

/-! ### Applying -/

/-- The control at which a run stops, after these calls, and the call that failed, if any. -/
inductive Stops (priorState : List StateObservation) (actuator : ControlActuator)
    (calls : List Call) (control : ControlRequest) : List Call → Prop
  | unobserved (h : observationFor priorState control.controlId = none) :
      Stops priorState actuator calls control []
  | failed (hobserved : (observationFor priorState control.controlId).isSome = true)
      (hfailed : (actuator.answer calls (.apply control)).succeeded = false) :
      Stops priorState actuator calls control
        [⟨.apply control, actuator.answer calls (.apply control)⟩]

/-- The controls before the one at which a run stops were observed, and after these calls the
actuator applied them. -/
structure AppliedBefore (priorState : List StateObservation) (actuator : ControlActuator)
    (calls : List Call) (done : List (ControlRequest × BackendResult)) : Prop where
  observed : ∀ applied ∈ done, (observationFor priorState applied.1.controlId).isSome = true
  succeeded : ∀ applied ∈ done, applied.2.succeeded = true
  answered : ∀ before applied after, done = before ++ applied :: after →
    applied.2 = actuator.answer (calls ++ before.map appliedCall) (.apply applied.1)

theorem appliedBefore_nil (priorState : List StateObservation) (actuator : ControlActuator)
    (calls : List Call) : AppliedBefore priorState actuator calls [] :=
  ⟨by simp, by simp, fun before applied after h => by simp at h⟩

theorem AppliedBefore.cons {priorState : List StateObservation} {actuator : ControlActuator}
    {calls : List Call} {done : List (ControlRequest × BackendResult)} {control : ControlRequest}
    (h : AppliedBefore priorState actuator
      (calls ++ [appliedCall (control, actuator.answer calls (.apply control))]) done)
    (hobserved : (observationFor priorState control.controlId).isSome = true)
    (hsucceeded : (actuator.answer calls (.apply control)).succeeded = true) :
    AppliedBefore priorState actuator calls
      ((control, actuator.answer calls (.apply control)) :: done) := by
  refine ⟨List.forall_mem_cons.mpr ⟨hobserved, h.observed⟩,
    List.forall_mem_cons.mpr ⟨hsucceeded, h.succeeded⟩, fun before applied after heq => ?_⟩
  cases before with
  | nil =>
      obtain ⟨rfl, -⟩ := List.cons.inj heq
      simp
  | cons first before =>
      obtain ⟨rfl, hrest⟩ := List.cons.inj heq
      rw [h.answered before applied after hrest, map_cons, append_assoc]
      rfl

/-- How a run ends: it has applied all its mutating controls, or it stops at one of them and
restores those before it. -/
inductive Ends (priorState : List StateObservation) (actuator : ControlActuator)
    (controls applied : List ControlRequest) (report : ApplyReport) (calls : List Call)
    (done : List (ControlRequest × BackendResult)) (result : ApplyReport × List Call) : Prop
  | all (hcontrols : mutatingControls controls = done.map (·.1))
      (hcomplete : result.1.complete = report.complete)
      (hrestoration : result.1.restoration = report.restoration)
      (hcalls : result.2 = calls ++ done.map appliedCall)
  | stopped {control : ControlRequest} {rest : List ControlRequest} {last : List Call}
      (hcontrols : mutatingControls controls = done.map (·.1) ++ control :: rest)
      (hstops : Stops priorState actuator (calls ++ done.map appliedCall) control last)
      (hcomplete : result.1.complete = false)
      (hrestored : (result.1.restoration, result.2) =
        restorePlatformState (applied ++ done.map (·.1)) priorState actuator
          (calls ++ done.map appliedCall ++ last))

@[simp] theorem mutatingControls_cons (control : ControlRequest) (rest : List ControlRequest) :
    mutatingControls (control :: rest) =
      if control.mutating then control :: mutatingControls rest else mutatingControls rest :=
  filter_cons

/-- One more applied control in front of a run. -/
theorem Ends.cons {priorState : List StateObservation} {actuator : ControlActuator}
    {controls applied : List ControlRequest} {report next : ApplyReport} {calls : List Call}
    {done : List (ControlRequest × BackendResult)} {result : ApplyReport × List Call}
    {control : ControlRequest} {answer : BackendResult}
    (h : Ends priorState actuator controls (applied ++ [control]) next
      (calls ++ [appliedCall (control, answer)]) done result)
    (hmutating : control.mutating = true) (hcomplete : next.complete = report.complete)
    (hrestoration : next.restoration = report.restoration) :
    Ends priorState actuator (control :: controls) applied report calls ((control, answer) :: done)
      result := by
  cases h with
  | all hcontrols hresult hrest hcalls =>
      refine .all ?_ (hresult.trans hcomplete) (hrest.trans hrestoration) ?_
      · simp [hmutating, hcontrols]
      · simp [hcalls]
  | @stopped stop rest last hcontrols hstops hresult hrestored =>
      have hcontrols' : mutatingControls (control :: controls) =
          ((control, answer) :: done).map (·.1) ++ stop :: rest := by
        simp [hmutating, hcontrols]
      exact .stopped hcontrols' (by simpa using hstops) hresult (by simpa using hrestored)

/-- A control that does not mutate in front of a run. -/
theorem Ends.skip {priorState : List StateObservation} {actuator : ControlActuator}
    {controls applied : List ControlRequest} {report next : ApplyReport} {calls : List Call}
    {done : List (ControlRequest × BackendResult)} {result : ApplyReport × List Call}
    {control : ControlRequest}
    (h : Ends priorState actuator controls applied next calls done result)
    (hmutating : control.mutating = false) (hcomplete : next.complete = report.complete)
    (hrestoration : next.restoration = report.restoration) :
    Ends priorState actuator (control :: controls) applied report calls done result := by
  cases h with
  | all hcontrols hresult hrest hcalls =>
      refine .all ?_ (hresult.trans hcomplete) (hrest.trans hrestoration) hcalls
      simp [hmutating, hcontrols]
  | @stopped stop rest last hcontrols hstops hresult hrestored =>
      have hcontrols' :
          mutatingControls (control :: controls) = done.map (·.1) ++ stop :: rest := by
        simp [hmutating, hcontrols]
      exact .stopped hcontrols' hstops hresult hrestored

theorem applyControls_ends (priorState : List StateObservation) (actuator : ControlActuator)
    (controls applied : List ControlRequest) (report : ApplyReport) (calls : List Call) :
    ∃ done, AppliedBefore priorState actuator calls done ∧
      Ends priorState actuator controls applied report calls done
        (applyControls priorState actuator controls applied report calls) := by
  induction controls generalizing applied report calls with
  | nil => exact ⟨[], appliedBefore_nil _ _ _, .all rfl rfl rfl (by simp [applyControls])⟩
  | cons control rest ih =>
      rw [applyControls]
      by_cases hmutating : control.mutating = true
      · have hfirst : mutatingControls (control :: rest) =
            ([] : List (ControlRequest × BackendResult)).map (·.1) ++
              control :: mutatingControls rest := by
          simp [hmutating]
        rw [if_neg (by simp [hmutating])]
        by_cases hnone : (observationFor priorState control.controlId).isNone = true
        · rw [if_pos hnone]
          refine ⟨[], appliedBefore_nil _ _ _,
            .stopped hfirst (.unobserved (by simpa using hnone)) rfl ?_⟩
          simp [rollBack]
        · rw [if_neg hnone]
          have hobserved : (observationFor priorState control.controlId).isSome = true :=
            Option.isSome_iff_ne_none.mpr (by simpa using hnone)
          by_cases hsucceeded : (actuator.answer calls (.apply control)).succeeded = true
          · simp only [hsucceeded, Bool.not_true, Bool.false_eq_true, if_false]
            obtain ⟨done, hdone, hrun⟩ := ih (applied ++ [control])
              (report.step ⟨control.controlId, .applied,
                (actuator.answer calls (.apply control)).evidenceId,
                (actuator.answer calls (.apply control)).detail⟩)
              (calls ++ [appliedCall (control, actuator.answer calls (.apply control))])
            exact ⟨_, hdone.cons hobserved hsucceeded, hrun.cons hmutating rfl rfl⟩
          · simp only [hsucceeded]
            refine ⟨[], appliedBefore_nil _ _ _,
              .stopped hfirst (.failed hobserved (by simpa using hsucceeded)) rfl ?_⟩
            simp [rollBack]
      · rw [if_pos (by simp [hmutating])]
        obtain ⟨done, hdone, hrun⟩ := ih applied
          (report.step ⟨control.controlId, .planned, [], ascii "observation-only control"⟩) calls
        exact ⟨done, hdone, hrun.skip (by simpa using hmutating) rfl rfl⟩

/-! ### What the calls amount to -/

section Calls

variable {priorState : List StateObservation} {actuator : ControlActuator} {calls : List Call}
  {done : List (ControlRequest × BackendResult)} {outcomes : List RestoreOutcome}

theorem AppliedBefore.applied (h : AppliedBefore priorState actuator calls done) :
    (done.map appliedCall).filterMap Call.applied = done.map (·.1) := by
  rw [filterMap_map, ← filterMap_eq_map]
  refine filterMap_congr fun applied happlied => ?_
  simp [appliedCall, Call.applied, h.succeeded applied happlied]

theorem AppliedBefore.writes (h : AppliedBefore priorState actuator calls done) :
    (done.map appliedCall).filterMap Call.write =
      (done.map (·.1)).map fun control => (control.target, control.requestedValue) := by
  rw [filterMap_map, map_map, ← filterMap_eq_map]
  refine filterMap_congr fun applied happlied => ?_
  simp [appliedCall, Call.write, h.succeeded applied happlied]

theorem restores_appliedCalls (done : List (ControlRequest × BackendResult)) :
    (done.map appliedCall).filterMap Call.restores = [] := by
  simp [appliedCall, Call.restores, filterMap_eq_nil_iff]

theorem RestoreOutcome.call_recorded {outcome : RestoreOutcome} (h : outcome.Sound priorState) :
    outcome.call.bind Call.restores =
      if recorded priorState outcome.control then some outcome.control else none := by
  cases outcome with
  | skipped control =>
      have hunrecorded : recorded priorState control = false := h
      simp [call, RestoreOutcome.control, hunrecorded]
  | answered control prior result =>
      obtain ⟨hprior, hvalue⟩ := h
      simp [call, RestoreOutcome.control, Call.restores, recorded, hprior, hvalue]

theorem restored_controls (h : ∀ outcome ∈ outcomes, outcome.Sound priorState) :
    (outcomes.filterMap (·.call)).filterMap Call.restores =
      (outcomes.map (·.control)).filter (recorded priorState) := by
  rw [filterMap_filterMap, ← filterMap_eq_filter, filterMap_map]
  refine filterMap_congr fun outcome houtcome => ?_
  rw [call_recorded (h outcome houtcome)]
  simp [Option.guard]

theorem applied_restoreCalls (outcomes : List RestoreOutcome) :
    (outcomes.filterMap (·.call)).filterMap Call.applied = [] := by
  rw [filterMap_filterMap, filterMap_eq_nil_iff]
  intro outcome _
  cases outcome <;> rfl

end Calls

end CpuPrefetch.Platform
