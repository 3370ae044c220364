/-
A run that failed before its measurement has no measurement artifacts.

Consequences are checked against the phase a transition enters, and only the three
early failures forbid the artifacts of a measurement.  The records written before such
a failure, and the one that finalizes it, are not held to it: `fabricated_run` is a run
that claims producer observations while it is still preflight, and again when it is
finalized.  Where no such request is accepted, the law holds of every machine reached.
-/
import CpuPrefetch.Proofs.Lifecycle.Journal

namespace CpuPrefetch.Lifecycle

open Protocol (LifecycleState)

/-- Some artifact that only a measurement makes is stated as retained or appended. -/
def claimsMeasurement (consequences : List ArtifactConsequence) : Bool :=
  measurementKinds.any (hasPresentArtifactKind consequences)

/-- The imported states of a run that failed before its measurement. -/
def isEarlyState (state : LifecycleState) : Bool :=
  state = .preRunFailure || state = .warmupFailure || state = .resetFailure

/-- The phases before a measurement that are not failures. -/
def isPreparatory (phase : RunPhase) : Bool :=
  phase = .planned || phase = .preflight || phase = .preparation || phase = .warmup ||
    phase = .logicalReset

namespace RunStateMachine

/-- No record of the journal claims what only a measurement makes. -/
def Unfabricated (m : RunStateMachine) : Prop :=
  ∀ record ∈ m.transitions, claimsMeasurement record.artifactConsequences = false

/-- If the request is accepted, it is not for a phase before the measurement, nor for the
finalization of an early failure, or it claims nothing of a measurement. -/
def Modest (m : RunStateMachine) : Call → Prop
  | .transition request =>
      m.transitionErrors request = [] → isPreparatory request.next = true ∨
        (request.next = .finalizedInvalid ∧ isEarlyState m.protocolState = true) →
      claimsMeasurement request.artifactConsequences = false
  | _ => True

/-- Every call of the sequence meets the condition in the state it is made in. -/
def EveryCall (condition : RunStateMachine → Call → Prop) (m : RunStateMachine) :
    List Call → Prop
  | [] => True
  | c :: calls => condition m c ∧ EveryCall condition (m.call c).1 calls

end RunStateMachine

/-- An early failure is entered only with every measurement artifact absent. -/
theorem claims_of_earlyFailure {target : RunPhase} {consequences : List ArtifactConsequence}
    (h : validateConsequences target consequences = []) (hearly : target.isEarlyFailure = true) :
    claimsMeasurement consequences = false := by
  unfold validateConsequences at h
  split at h
  · cases h
  · simp only [List.append_eq_nil_iff, List.flatMap_eq_nil_iff] at h
    obtain ⟨⟨⟨-, hkinds⟩, -⟩, -⟩ := h
    simp only [claimsMeasurement, List.any_eq_false]
    intro kind hkind hpresent
    have hnone := (hkinds kind hkind).1
    rw [if_pos hpresent] at hnone
    cases hnone

namespace RunPhase

/-- Before a measurement, a run comes only from before it. -/
theorem preparatory_of_successor {source target : RunPhase}
    (h : target ∈ documentedSuccessors source)
    (htarget : isPreparatory target = true ∨ target.isEarlyFailure = true) :
    isPreparatory source = true := by
  revert h htarget
  cases source <;> cases target <;> decide

/-- The phases whose imported state is PLANNED or an early failure. -/
theorem early_projection {phase : RunPhase} {retained : LifecycleState}
    (h : phase.protocolProjection retained = .planned ∨
      isEarlyState (phase.protocolProjection retained) = true) :
    isPreparatory phase = true ∨ phase.isEarlyFailure = true ∨ phase = .finalizedInvalid := by
  revert h
  cases phase <;> simp [protocolProjection, isEarlyState, isPreparatory, isEarlyFailure]

theorem planned_of_preparatory {phase : RunPhase} (retained : LifecycleState)
    (h : isPreparatory phase = true) : phase.protocolProjection retained = .planned := by
  revert h
  cases phase <;> simp [protocolProjection, isPreparatory]

end RunPhase

namespace RunStateMachine

/-- What is carried along the calls: the phase projects to the imported state, and before a
measurement nothing of one was claimed. -/
structure BeforeMeasurement (m : RunStateMachine) : Prop where
  projected : m.phase.protocolProjection m.protocolState = m.protocolState
  unclaimed : m.protocolState = .planned ∨ isEarlyState m.protocolState = true → m.Unfabricated

variable {m : RunStateMachine}

theorem BeforeMeasurement.call (h : m.BeforeMeasurement) {c : Call} (hc : m.Modest c) :
    (m.call c).1.BeforeMeasurement := by
  rcases m.call_cases c with ⟨-, hsame⟩ | ⟨request, rfl, hlegal, -, hcons, hcall⟩ |
    ⟨noted, rfl, -, -, hcall⟩ | ⟨request, rfl, -, -, -, -, hcall⟩
  · rw [hsame]
    exact h
  · have haccepted : m.transitionErrors request = [] := by
      by_contra hrefused
      have hrefusal : m.call (.transition request) = (m, m.transitionErrors request) :=
        if_neg hrefused
      exact hrefused (congrArg Prod.snd (hrefusal.symm.trans hcall))
    rw [hcall]
    refine ⟨?_, ?_⟩
    · show request.next.protocolProjection (request.next.protocolProjection m.protocolState) =
        request.next.protocolProjection m.protocolState
      cases request.next <;> rfl
    · intro hearly record hmem
      have hearly : request.next.protocolProjection m.protocolState = .planned ∨
        isEarlyState (request.next.protocolProjection m.protocolState) = true := hearly
      have hphase := RunPhase.early_projection hearly
      -- the state before is PLANNED, or the early failure that is being finalized
      have hbefore : m.protocolState = .planned ∨ isEarlyState m.protocolState = true := by
        rcases hphase with hp | hf | hfin
        · left
          rw [← h.projected]
          exact RunPhase.planned_of_preparatory _
            (RunPhase.preparatory_of_successor hlegal (.inl hp))
        · left
          rw [← h.projected]
          exact RunPhase.planned_of_preparatory _
            (RunPhase.preparatory_of_successor hlegal (.inr hf))
        · rw [hfin] at hearly
          exact hearly
      rcases List.mem_append.mp hmem with hold | hnew
      · exact h.unclaimed hbefore record hold
      · obtain rfl := List.mem_singleton.mp hnew
        show claimsMeasurement request.artifactConsequences = false
        rcases hphase with hp | hf | hfin
        · exact hc haccepted (.inl hp)
        · exact claims_of_earlyFailure hcons hf
        · -- PLANNED has no edge to FINALIZED_INVALID
          refine hc haccepted (.inr ⟨hfin, ?_⟩)
          rcases hbefore with hplanned | hfailed
          · exfalso
            have hproj := h.projected
            rw [hplanned] at hproj
            rw [hfin] at hlegal
            revert hlegal hproj
            cases m.phase <;> decide
          · exact hfailed
  · rw [hcall]
    exact ⟨h.projected, h.unclaimed⟩
  · rw [hcall]
    exact ⟨h.projected, h.unclaimed⟩

theorem BeforeMeasurement.run (h : m.BeforeMeasurement) {calls : List Call}
    (hcalls : EveryCall Modest m calls) : (m.run calls).BeforeMeasurement := by
  induction calls generalizing m with
  | nil => exact h
  | cons c calls ih => exact ih (h.call hcalls.1) hcalls.2

/-- **In a run whose accepted requests before the measurement, and whose finalization of an
early failure, claim nothing of a measurement, a machine that failed early has no record that
does.** -/
theorem early_failure_unfabricated {context : LifecycleContext} {genesis : TransitionRequest}
    (hcreate : create context genesis = .ok m)
    (hgenesis : claimsMeasurement genesis.artifactConsequences = false) {calls : List Call}
    (hcalls : EveryCall Modest m calls) (hearly : isEarlyState (m.run calls).protocolState = true) :
    (m.run calls).Unfabricated := by
  have hstart : m.BeforeMeasurement := by
    unfold create at hcreate
    split at hcreate
    · obtain rfl := Except.ok.inj hcreate
      refine ⟨rfl, ?_⟩
      intro _ record hmem
      obtain rfl := List.mem_singleton.mp hmem
      exact hgenesis
    · cases hcreate
  exact (hstart.run hcalls).unclaimed (.inr hearly)

/-- The consequences of an early failure: its evidence, and no measurement artifact. -/
def measurementAbsent : List ArtifactConsequence :=
  ⟨.failureEvidence, .appendComplete, "failure", 1⟩ ::
    measurementKinds.map fun kind => ⟨kind, .declareAbsent, "", 0⟩

theorem early_failure_unfabricated_preflight :
    ∃ m, create plannedContext (requestOf .planned 10 [planRetained]) = .ok m ∧
      isEarlyState (m.run [.transition (requestOf .preflight 11 [planRetained]),
        .transition (requestOf .preRunFailure 12 measurementAbsent)]).protocolState = true ∧
      (m.run [.transition (requestOf .preflight 11 [planRetained]),
        .transition (requestOf .preRunFailure 12 measurementAbsent)]).Unfabricated :=
  ⟨_, rfl, rfl, @early_failure_unfabricated _ plannedContext
    (requestOf .planned 10 [planRetained]) rfl rfl _
    ⟨fun _ _ => rfl, fun _ _ => rfl, trivial⟩ rfl⟩

/-- Producer observations that a run has while it is still preflight. -/
def producerClaimed : ArtifactConsequence := ⟨.producerObservations, .appendComplete, "rows", 7⟩

/-- A run claims producer observations on entering PREFLIGHT, fails there with those rows
declared absent, and is finalized with the claim made again. -/
theorem fabricated_run :
    ¬ ∀ (context : LifecycleContext) (genesis : TransitionRequest) (m : RunStateMachine)
      (calls : List Call), create context genesis = .ok m →
      isEarlyState (m.run calls).protocolState = true → (m.run calls).Unfabricated := by
  intro h
  have hclaim := h plannedContext (requestOf .planned 10 [planRetained]) _
    [.transition (requestOf .preflight 11 [producerClaimed]),
      .transition (requestOf .preRunFailure 12 measurementAbsent),
      .transition (requestOf .finalizedInvalid 13
        [⟨.failureEvidence, .retain, "failure", 1⟩, producerClaimed])] rfl rfl
  have hrecord := hclaim _ (List.mem_cons_of_mem _ (List.mem_cons_self ..))
  exact absurd hrecord (by decide)

end RunStateMachine

end CpuPrefetch.Lifecycle
