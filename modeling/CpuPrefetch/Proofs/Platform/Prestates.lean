/-
Which pre-states a mutation relies on.

Before a control is applied, only the existence of an observation of it is asked for; a value is
asked for when the control is restored, and the snapshot and the epoch never are.
-/
import CpuPrefetch.Proofs.Platform.AllOrNothing

namespace CpuPrefetch.Platform

open List
open Protocol (Text ascii)

variable {request : RequestedState} {priorState : List StateObservation}
  {actuator : ControlActuator} {calls : List Call} {done : List (ControlRequest × BackendResult)}

/-- The control has an observation with a value, of the request's snapshot and epoch. -/
def Usable (request : RequestedState) (priorState : List StateObservation)
    (control : ControlRequest) : Prop :=
  ∃ prior ∈ priorState, prior.controlId = control.controlId ∧ prior.observedValue.isSome = true ∧
    prior.inventorySnapshotId = request.inventorySnapshotId ∧ prior.stateEpoch = request.stateEpoch

def hasObservation (priorState : List StateObservation) (control : ControlRequest) : Bool :=
  (observationFor priorState control.controlId).isSome

/-- Only controls with a usable pre-state are changed, and none lacks one to be restored to. -/
structure Guarded (request : RequestedState) (priorState : List StateObservation)
    (result : ApplyReport × List Call) : Prop where
  usable : ∀ call ∈ result.2, ∀ control, call.operation = .apply control →
    Usable request priorState control
  restorable : ∀ error ∈ result.1.restoration.errors, error.ruleId ≠ "PLT-RESTORE-PRESTATE"

/-- The controls that a run may change, and those that it may have to restore. -/
structure PreStates (request : RequestedState) (priorState : List StateObservation) : Prop where
  usable : ∀ control ∈ (mutatingControls request.controls).takeWhile (hasObservation priorState),
    Usable request priorState control
  recorded : ∀ control ∈ (mutatingControls request.controls).dropLast.takeWhile
    (hasObservation priorState),
    recorded priorState control = true

/-! ### The observed controls of a run -/

theorem AppliedBefore.subset_takeWhile (h : AppliedBefore priorState actuator calls done)
    (rest : List ControlRequest) :
    (done.map (·.1) ++ rest).takeWhile (hasObservation priorState) =
      done.map (·.1) ++ rest.takeWhile (hasObservation priorState) := by
  refine takeWhile_append_of_pos fun control hcontrol => ?_
  obtain ⟨applied, happlied, rfl⟩ := List.mem_map.mp hcontrol
  exact h.observed applied happlied

variable {call : Call} {control : ControlRequest}

/-- An apply call of a run is one of these. -/
theorem apply_of_appliedCalls (hcall : call ∈ done.map appliedCall)
    (hcontrol : call.operation = .apply control) : control ∈ done.map (·.1) := by
  obtain ⟨applied, happlied, rfl⟩ := List.mem_map.mp hcall
  rw [← Operation.apply.inj hcontrol]
  exact mem_map_of_mem happlied

theorem Stops.observed {last : List Call} {other : ControlRequest}
    (h : Stops priorState actuator calls control last) (hcall : call ∈ last)
    (hother : call.operation = .apply other) :
    hasObservation priorState other = true ∧ other = control := by
  cases h with
  | unobserved => cases hcall
  | failed hobserved hfailed =>
      rw [List.mem_singleton.mp hcall] at hother
      obtain rfl := Operation.apply.inj hother
      exact ⟨hobserved, rfl⟩

theorem restore_of_outcomes {outcomes : List RestoreOutcome}
    (hcall : call ∈ outcomes.filterMap (·.call)) : call.operation ≠ .apply control := by
  obtain ⟨outcome, -, hmade⟩ := List.mem_filterMap.mp hcall
  cases outcome with
  | skipped => cases hmade
  | answered =>
      rw [← Option.some.inj hmade]
      exact fun h => by cases h

/-! ### Enough pre-states -/

theorem guarded_idle (result : ApplyReport × List Call) (hcalls : result.2 = [])
    (herrors : result.1.restoration.errors = []) : Guarded request priorState result :=
  ⟨by simp [hcalls], by simp [herrors]⟩

theorem recorded_errors {outcomes : List RestoreOutcome}
    (hsound : ∀ outcome ∈ outcomes, outcome.Sound priorState)
    (hrecorded : ∀ control ∈ outcomes.map (·.control), recorded priorState control = true) :
    ∀ error ∈ outcomes.flatMap (·.errors), error.ruleId ≠ "PLT-RESTORE-PRESTATE" := by
  intro error herror
  obtain ⟨outcome, houtcome, herror⟩ := List.mem_flatMap.mp herror
  have hcontrol := hrecorded outcome.control (mem_map_of_mem houtcome)
  cases outcome with
  | skipped control =>
      have hunrecorded : recorded priorState control = false := hsound _ houtcome
      rw [RestoreOutcome.control, hunrecorded] at hcontrol
      cases hcontrol
  | answered control prior result =>
      rw [RestoreOutcome.errors, require] at herror
      split at herror
      · cases herror
      · rw [List.mem_singleton.mp herror]
        exact fun heq => absurd heq (by decide : "PLT-RESTORE-FAILED" ≠ "PLT-RESTORE-PRESTATE")

theorem PreStates.guarded (h : PreStates request priorState) (mode : ApplyMode)
    (actuator : Option ControlActuator) :
    Guarded request priorState (applyRequestedState request priorState mode actuator) := by
  unfold applyRequestedState
  cases mode with
  | dryRun => exact guarded_idle _ rfl rfl
  | authorizedApply =>
      cases actuator with
      | none => exact guarded_idle _ rfl rfl
      | some actuator =>
          dsimp only
          split
          · exact guarded_idle _ rfl rfl
          · obtain ⟨done, hdone, hends⟩ :=
              applyControls_ends priorState actuator request.controls []
              ⟨.authorizedApply, true, [], ⟨false, true, [], []⟩, []⟩ []
            cases hends with
            | all hcontrols _ hrestoration hcalls =>
                refine ⟨fun call hcall control hcontrol => h.usable control ?_, ?_⟩
                · have happlied := hdone.subset_takeWhile []
                  rw [append_nil, takeWhile_nil, append_nil] at happlied
                  rw [hcontrols, happlied]
                  rw [hcalls] at hcall
                  exact apply_of_appliedCalls hcall hcontrol
                · rw [hrestoration]
                  simp
            | @stopped stop rest last hcontrols hstops hcomplete hrestored =>
                obtain ⟨outcomes, houtcomes, hsound, hrestore⟩ := restorePlatformState_spec
                  ([] ++ done.map (·.1)) priorState actuator ([] ++ done.map appliedCall ++ last)
                have hrun := hrestored.trans hrestore
                refine ⟨fun call hcall control hcontrol => h.usable control ?_, ?_⟩
                · rw [congrArg Prod.snd hrun] at hcall
                  rw [hcontrols, hdone.subset_takeWhile]
                  rcases List.mem_append.mp hcall with hforward | hback
                  · rcases List.mem_append.mp hforward with happlied | hlast
                    · exact mem_append_left _ (apply_of_appliedCalls happlied hcontrol)
                    · obtain ⟨hobserved, rfl⟩ := hstops.observed hlast hcontrol
                      rw [takeWhile_cons_of_pos hobserved]
                      exact mem_append_right _ mem_cons_self
                  · exact absurd hcontrol (restore_of_outcomes hback)
                · rw [congrArg (·.1.errors) hrun]
                  refine recorded_errors hsound fun control hcontrol => h.recorded control ?_
                  rw [houtcomes, nil_append, mem_reverse] at hcontrol
                  rw [hcontrols, dropLast_append_of_ne_nil (by simp), hdone.subset_takeWhile]
                  exact mem_append_left _ hcontrol

/-! ### No fewer pre-states -/

/-- A control before the last one, with those around it. -/
theorem split_of_takeWhile {controls : List ControlRequest} {p : ControlRequest → Bool}
    (h : control ∈ controls.dropLast.takeWhile p) :
    ∃ before next rest, controls = before ++ control :: next :: rest ∧
      (before ++ [control]).all p = true := by
  obtain ⟨before, after, hsplit⟩ := append_of_mem h
  have hdrop : controls.dropLast = before ++ control ::
    (after ++ controls.dropLast.dropWhile p) := by
    conv_lhs => rw [← takeWhile_append_dropWhile (p := p) (l := controls.dropLast), hsplit]
    simp
  have hne : controls ≠ [] := by
    rintro rfl
    cases h
  have hcontrols := dropLast_append_getLast hne
  rw [hdrop, append_assoc, cons_append] at hcontrols
  have hall : (before ++ [control]).all p = true := by
    rw [all_eq_true]
    intro other hother
    refine mem_takeWhile_imp (l := controls.dropLast) ?_
    rw [hsplit]
    simp only [mem_append, mem_cons, not_mem_nil, or_false] at hother ⊢
    tauto
  cases hrest : after ++ controls.dropLast.dropWhile p ++ [controls.getLast hne] with
  | nil => simp at hrest
  | cons next rest =>
      rw [hrest] at hcontrols
      exact ⟨before, next, rest, hcontrols.symm, hall⟩

/-- An actuator that never fails. -/
def steadfast : ControlActuator := ⟨ascii "actuator", fun _ _ => ⟨true, [], [], none⟩⟩

theorem authorized_applies (hbackend : actuator.backendId ≠ []) :
    applyRequestedState request priorState .authorizedApply (some actuator) =
      applyControls priorState actuator request.controls []
        ⟨.authorizedApply, true, [], ⟨false, true, [], []⟩, []⟩ [] := by
  unfold applyRequestedState
  exact if_neg (by simpa using hbackend)

/-- With an actuator that never fails, every control up to the first unobserved one is applied. -/
theorem usable_of_guarded
    (h : Guarded request priorState
      (applyRequestedState request priorState .authorizedApply (some steadfast))) :
    ∀ control ∈ (mutatingControls request.controls).takeWhile (hasObservation priorState),
      Usable request priorState control := by
  intro control hcontrol
  rw [authorized_applies (by decide)] at h
  obtain ⟨done, hdone, hends⟩ := applyControls_ends priorState steadfast request.controls []
    ⟨.authorizedApply, true, [], ⟨false, true, [], []⟩, []⟩ []
  have happlied : ∀ control ∈ done.map (·.1), ∃ call ∈ done.map appliedCall,
      call.operation = .apply control := by
    intro control hcontrol
    obtain ⟨applied, hmember, rfl⟩ := List.mem_map.mp hcontrol
    exact ⟨_, mem_map_of_mem hmember, rfl⟩
  cases hends with
  | all hcontrols _ _ hcalls =>
      rw [hcontrols] at hcontrol
      obtain ⟨call, hcall, hoperation⟩ := happlied control (takeWhile_subset _ hcontrol)
      refine h.usable call ?_ control hoperation
      rw [hcalls]
      exact hcall
  | @stopped stop rest last hcontrols hstops _ hrestored =>
      cases hstops with
      | failed _ hfailed => cases hfailed
      | unobserved hunobserved =>
          rw [hcontrols, hdone.subset_takeWhile,
            takeWhile_cons_of_neg (by simp [hasObservation, hunobserved]), append_nil]
            at hcontrol
          obtain ⟨call, hcall, hoperation⟩ := happlied control hcontrol
          obtain ⟨outcomes, -, -, hrestore⟩ := restorePlatformState_spec
            ([] ++ done.map (·.1)) priorState steadfast ([] ++ done.map appliedCall ++ [])
          refine h.usable call ?_ control hoperation
          rw [congrArg Prod.snd (hrestored.trans hrestore)]
          simp only [nil_append, append_nil]
          exact mem_append_left _ hcall

/-- When the call after a control fails, or cannot be made, the control is restored. -/
theorem recorded_of_guarded {before rest : List ControlRequest} {next : ControlRequest}
    (hsplit : mutatingControls request.controls = before ++ control :: next :: rest)
    (hobserved : (before ++ [control]).all (hasObservation priorState) = true)
    (h : Guarded request priorState
      (applyRequestedState request priorState .authorizedApply
      (some (failingAt (before.length + 1))))) :
    recorded priorState control = true := by
  have hbackend : ascii "actuator" ≠ [] := by decide
  rw [authorized_applies hbackend] at h
  obtain ⟨done, hdone, hends⟩ := applyControls_ends priorState (failingAt (before.length + 1))
    request.controls [] ⟨.authorizedApply, true, [], ⟨false, true, [], []⟩, []⟩ []
  have hshort : done.length ≤ before.length + 1 := by
    by_contra hlong
    have hindex : before.length + 1 < done.length := Nat.lt_of_not_le hlong
    have hat : done = done.take (before.length + 1) ++
        done[before.length + 1] :: done.drop (before.length + 2) := by
      rw [getElem_cons_drop, take_append_drop]
    have hfailed := hdone.answered _ _ _ hat
    have hsucceeded := hdone.succeeded _ (getElem_mem hindex)
    rw [hfailed] at hsucceeded
    simp [failingAt, hindex.le] at hsucceeded
  cases hends with
  | all hcontrols =>
      rw [hsplit] at hcontrols
      have hlength := congrArg List.length hcontrols
      simp only [length_append, length_cons, length_map] at hlength
      omega
  | @stopped stop later last hcontrols hstops _ hrestored =>
      -- the run stops after the control: it is observed, and only the call after it fails
      have hlong : before.length < done.length := by
        by_contra hfew
        have hstop : stop ∈ before ++ [control] := by
          have hat : (mutatingControls request.controls)[done.length]? = some stop := by
            rw [hcontrols, getElem?_append_right (by simp)]
            simp
          rw [hsplit, append_cons, getElem?_append_left (by simp; omega)]
            at hat
          exact mem_of_getElem? hat
        have hseen := List.all_eq_true.mp hobserved stop hstop
        cases hstops with
        | unobserved hunobserved => simp [hasObservation, hunobserved] at hseen
        | failed _ hfailed =>
            simp only [failingAt, nil_append, length_map] at hfailed
            simp at hfailed
            omega
      have hdoneControl : control ∈ done.map (·.1) := by
        have hat : (mutatingControls request.controls)[before.length]? = some control := by
          rw [hsplit, getElem?_append_right le_rfl]
          simp
        rw [hcontrols, getElem?_append_left (by simpa using hlong)] at hat
        exact mem_of_getElem? hat
      obtain ⟨outcomes, houtcomes, hsound, hrestore⟩ := restorePlatformState_spec
        ([] ++ done.map (·.1)) priorState (failingAt (before.length + 1))
        ([] ++ done.map appliedCall ++ last)
      by_contra hunrecorded
      rw [nil_append] at houtcomes
      rw [← mem_reverse, ← houtcomes] at hdoneControl
      obtain ⟨-, ⟨error, herror, -, hrule⟩, -⟩ :=
        RestoreOutcome.skipped_noted hsound hdoneControl (by simpa using hunrecorded)
      refine h.restorable error ?_ hrule
      rw [congrArg (·.1.errors) (hrestored.trans hrestore)]
      exact herror

/-- **No mutation without a usable pre-state**, and no restoration without one, whatever the mode
and the actuator, exactly when every mutating control up to the first unobserved one has a usable
observation, and each of them but the last control has a value in its first observation. -/
theorem mutation_guarded_iff (request : RequestedState) (priorState : List StateObservation) :
    (∀ mode actuator, Guarded request priorState
      (applyRequestedState request priorState mode actuator)) ↔ PreStates request priorState := by
  constructor
  · intro h
    refine ⟨usable_of_guarded (h .authorizedApply (some steadfast)), fun control hcontrol => ?_⟩
    obtain ⟨before, next, rest, hsplit, hobserved⟩ := split_of_takeWhile hcontrol
    exact recorded_of_guarded hsplit hobserved (h .authorizedApply (some (failingAt _)))
  · exact fun h mode actuator => h.guarded mode actuator

/-- A control is changed on an observation without a value, and cannot be restored. -/
theorem valueless_prestate_mutated :
    let request := sampleRequest [sampleControl "a" "performance", sampleControl "b" "powersave"]
    let priorState := [sampleObservation "a" none, sampleObservation "b" none]
    let run := applyRequestedState request priorState .authorizedApply (some (failingAt 1))
    ¬Guarded request priorState run ∧
      (∃ call ∈ run.2, call.operation = .apply (sampleControl "a" "performance") ∧
        call.result.succeeded = true ∧
        ∀ prior ∈ priorState, prior.observedValue = none) ∧
      ∃ error ∈ run.1.restoration.errors, error.ruleId = "PLT-RESTORE-PRESTATE" := by
  intro request priorState run
  have herror : ∃ error ∈ run.1.restoration.errors, error.ruleId = "PLT-RESTORE-PRESTATE" := by
    decide +kernel
  refine ⟨fun h => ?_, by decide +kernel, herror⟩
  obtain ⟨error, hmember, hrule⟩ := herror
  exact h.restorable error hmember hrule

end CpuPrefetch.Platform
