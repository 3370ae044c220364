/-
The overall state of a ring-distance result, against the states of its contexts.

Each context that is not resolved overwrites the overall state, so it is the state of the last
of them, in the order in which contexts are required.  A context that collapses therefore hides
one before it that was never evaluated.  A plan without all contexts is not evaluated, whatever
the contexts it has come to.
-/
import CpuPrefetch.Proofs.Calibration.RingDistance

namespace CpuPrefetch.Calibration

open List
open Extremes (overtaken_iff)

/-! ### What a required context comes to -/

def Absent (plan : RingDistancePlan) (key : RingContextKey) : Prop :=
  ∀ context ∈ plan.contexts, context.key ≠ key

/-- The context is planned, but some run is missing or too few are valid. -/
def Incomplete (plan : RingDistancePlan) (runs : List RingRunEvidence) (key : RingContextKey) :
    Prop :=
  ∃ context ∈ plan.contexts, context.key = key ∧ ¬Complete runs context

/-- The context is planned and complete, but its geometry leaves no distance. -/
def Collapsing (plan : RingDistancePlan) (runs : List RingRunEvidence) (key : RingContextKey) :
    Prop :=
  ∃ context ∈ plan.contexts, context.key = key ∧ Complete runs context ∧ Collapsed context.geometry

/-- The last incomplete context is followed by one that collapses. -/
def Overtaken (plan : RingDistancePlan) (runs : List RingRunEvidence) : Prop :=
  (∀ key ∈ requiredRingContexts, ¬Absent plan key) ∧
    ∃ before key after, requiredRingContexts = before ++ key :: after ∧
      Incomplete plan runs key ∧ (∀ later ∈ after, ¬Incomplete plan runs later) ∧
      ∃ later ∈ after, Collapsing plan runs later

/-- The overall state is the first of these that applies: not evaluated, ineligible, resolved. -/
structure ByPrecedence (plan : RingDistancePlan) (result : RingDistanceResult) : Prop where
  resolved : result.state = .resolved ↔ ∀ context ∈ result.contexts, context.state = .resolved
  absent : (∃ key ∈ requiredRingContexts, Absent plan key) → result.state = .notEvaluated
  notEvaluated : (∃ context ∈ result.contexts, context.state = .notEvaluated) →
    result.state = .notEvaluated
  ineligible : result.state = .ineligible ↔
    (∀ context ∈ result.contexts, context.state ≠ .notEvaluated) ∧
      ∃ context ∈ result.contexts, context.state = .ineligible

section

variable {plan : RingDistancePlan} {runs : List RingRunEvidence}

/-- A state is determined by what its key's context is. -/
structure StateFor (plan : RingDistancePlan) (runs : List RingRunEvidence) (key : RingContextKey)
    (state : EvaluationState) : Prop where
  notEvaluated : state = .notEvaluated ↔ Absent plan key ∨ Incomplete plan runs key
  ineligible : state = .ineligible ↔ Collapsing plan runs key

variable {key : RingContextKey}

theorem Found.stateFor {result : RingContextResult} (hkeys : (plan.contexts.map (·.key)).Nodup)
    (hnodup : (runs.map (·.runId)).Nodup)
    (hsound : ∀ context ∈ plan.contexts, SoundContext context) (h : Found plan runs key result) :
    StateFor plan runs key result.state := by
  by_cases habsent : Absent plan key
  · have hnone : (plan.contexts.find? fun candidate => candidate.key = key) = none :=
      List.find?_eq_none.mpr fun context hcontext => by simpa using habsent context hcontext
    rw [Found, hnone] at h
    subst h
    refine ⟨iff_of_true rfl (Or.inl habsent), iff_of_false (fun h => by cases h) ?_⟩
    rintro ⟨context, hcontext, hkey, -⟩
    exact habsent context hcontext hkey
  · obtain ⟨context, hcontext, hkey⟩ : ∃ context ∈ plan.contexts, context.key = key := by
      simpa [Absent] using habsent
    subst hkey
    have honly : ∀ other ∈ plan.contexts, other.key = context.key → other = context :=
      fun other hother hsame => inj_on_of_nodup_map hkeys hother hcontext hsame
    have hevaluated := h.evaluated hkeys hnodup hsound hcontext
    by_cases hcomplete : Complete runs context
    · obtain ⟨demand, issue, -, -, -, hdistances⟩ := hevaluated.complete hcomplete
      refine ⟨iff_of_false hdistances.evaluated ?_, hdistances.ineligible.trans ⟨?_, ?_⟩⟩
      · rintro (hnone | ⟨other, hother, hsame, hincomplete⟩)
        · exact habsent hnone
        · rw [honly other hother hsame] at hincomplete
          exact hincomplete hcomplete
      · intro hcollapsed
        exact ⟨context, hcontext, rfl, hcomplete, hcollapsed⟩
      · rintro ⟨other, hother, hsame, -, hcollapsed⟩
        rwa [honly other hother hsame] at hcollapsed
    · have hstate := hevaluated.incomplete hcomplete
      refine ⟨iff_of_true hstate (Or.inr ⟨context, hcontext, rfl, hcomplete⟩), ?_⟩
      rw [hstate]
      refine iff_of_false (by simp) ?_
      rintro ⟨other, hother, hsame, hother', -⟩
      rw [honly other hother hsame] at hother'
      exact hcomplete hother'

/-- Contexts under distinct required keys are all of them, or some key has none. -/
theorem exists_absent_iff (hkeys : (plan.contexts.map (·.key)).Nodup)
    (hsound : ∀ context ∈ plan.contexts, SoundContext context) :
    (∃ key ∈ requiredRingContexts, Absent plan key) ↔
      plan.contexts.length ≠ kRequiredRingContextCount := by
  have hexpected : plan.contexts.map (·.key) ⊆ requiredRingContexts := by
    intro key hkey
    obtain ⟨context, hcontext, rfl⟩ := List.mem_map.mp hkey
    exact (hsound context hcontext).expected
  have hall := Keyed.subset_iff_length hkeys (by decide) hexpected
  rw [length_map] at hall
  have hcount : requiredRingContexts.length = kRequiredRingContextCount := rfl
  rw [ne_comm, ← hcount, ne_eq, ← hall]
  constructor
  · rintro ⟨key, hkey, habsent⟩ hsubset
    obtain ⟨context, hcontext, hsame⟩ := List.mem_map.mp (hsubset hkey)
    exact habsent context hcontext hsame
  · intro hnot
    obtain ⟨key, hkey, hmissing⟩ : ∃ key ∈ requiredRingContexts,
        key ∉ plan.contexts.map (·.key) := by
      simpa [subset_def] using hnot
    exact ⟨key, hkey, fun context hcontext hsame =>
      hmissing (List.mem_map.mpr ⟨context, hcontext, hsame⟩)⟩

open Classical in
/-- The state of the context under a key. -/
noncomputable def stateOf (plan : RingDistancePlan) (runs : List RingRunEvidence)
    (key : RingContextKey) : EvaluationState :=
  if Absent plan key ∨ Incomplete plan runs key then .notEvaluated
  else if Collapsing plan runs key then .ineligible
  else .resolved

theorem StateFor.eq {state : EvaluationState} (h : StateFor plan runs key state) :
    state = stateOf plan runs key := by
  rw [stateOf]
  split
  · rename_i hnot
    exact h.notEvaluated.mpr hnot
  · rename_i hnot
    split
    · rename_i hcollapsing
      exact h.ineligible.mpr hcollapsing
    · rename_i hcollapsing
      cases state with
      | notEvaluated => exact absurd (h.notEvaluated.mp rfl) hnot
      | ineligible => exact absurd (h.ineligible.mp rfl) hcollapsing
      | resolved => rfl

theorem map_state {keys : List RingContextKey} {results : List RingContextResult}
    (h : List.Forall₂ (fun key result => StateFor plan runs key result.state) keys results) :
    results.map (·.state) = keys.map (stateOf plan runs) := by
  induction h with
  | nil => rfl
  | cons hfirst _ ih => rw [map_cons, map_cons, hfirst.eq, ih]

theorem stateOf_eq_notEvaluated :
    stateOf plan runs key = .notEvaluated ↔ Absent plan key ∨ Incomplete plan runs key := by
  rw [stateOf]
  split
  · rename_i h
    exact iff_of_true rfl h
  · rename_i h
    refine iff_of_false ?_ h
    split <;> decide

theorem stateOf_eq_ineligible (h : ¬(Absent plan key ∨ Incomplete plan runs key)) :
    stateOf plan runs key = .ineligible ↔ Collapsing plan runs key := by
  rw [stateOf, if_neg h]
  split
  · rename_i hcollapsing
    exact iff_of_true rfl hcollapsing
  · rename_i hcollapsing
    exact iff_of_false nofun hcollapsing

/-- Where every context is planned, the plan is overtaken exactly when its states are. -/
theorem overtaken_states (hplanned : ∀ key ∈ requiredRingContexts, ¬Absent plan key) :
    Overtaken plan runs ↔ Extremes.Overtaken .notEvaluated .ineligible
      (requiredRingContexts.map (stateOf plan runs)) := by
  have hincomplete : ∀ key ∈ requiredRingContexts,
      (stateOf plan runs key = .notEvaluated ↔ Incomplete plan runs key) := by
    intro key hkey
    rw [stateOf_eq_notEvaluated]
    exact or_iff_right (hplanned key hkey)
  have hcollapsing : ∀ key ∈ requiredRingContexts, ¬Incomplete plan runs key →
      (stateOf plan runs key = .ineligible ↔ Collapsing plan runs key) := by
    intro key hkey hcomplete
    exact stateOf_eq_ineligible (not_or.mpr ⟨hplanned key hkey, hcomplete⟩)
  constructor
  · rintro ⟨-, before, key, after, hsplit, hkey, hafter, later, hlater, hcollapses⟩
    have hmem : ∀ other ∈ key :: after, other ∈ requiredRingContexts := by
      intro other hother
      rw [hsplit]
      exact mem_append_right _ hother
    refine ⟨before.map (stateOf plan runs), after.map (stateOf plan runs), ?_, ?_, ?_⟩
    · rw [hsplit, map_append, map_cons,
        (hincomplete key (hmem key mem_cons_self)).mpr hkey]
    · intro hstate
      obtain ⟨other, hother, hother'⟩ := List.mem_map.mp hstate
      exact hafter other hother
        ((hincomplete other (hmem other (mem_cons_of_mem _ hother))).mp hother')
    · exact List.mem_map.mpr ⟨later, hlater, (hcollapsing later
        (hmem later (mem_cons_of_mem _ hlater)) (hafter later hlater)).mpr hcollapses⟩
  · rintro ⟨before', after', hsplit, hnone, hlater⟩
    obtain ⟨before, rest, hrequired, rfl, hrest⟩ := List.map_eq_append_iff.mp hsplit
    obtain ⟨key, after, rfl, hkey, rfl⟩ := List.map_eq_cons_iff.mp hrest
    have hmem : ∀ other ∈ key :: after, other ∈ requiredRingContexts := by
      intro other hother
      rw [hrequired]
      exact mem_append_right _ hother
    have hafter : ∀ other ∈ after, ¬Incomplete plan runs other := by
      intro other hother hincompleteOther
      refine hnone (List.mem_map.mpr ⟨other, hother, ?_⟩)
      exact (hincomplete other (hmem other (mem_cons_of_mem _ hother))).mpr hincompleteOther
    obtain ⟨later, hmemLater, hstate⟩ := List.mem_map.mp hlater
    exact ⟨hplanned, before, key, after, hrequired,
      (hincomplete key (hmem key mem_cons_self)).mp hkey, hafter, later, hmemLater,
      (hcollapsing later (hmem later (mem_cons_of_mem _ hmemLater))
        (hafter later hmemLater)).mp hstate⟩

end

/-- What the last state that is not resolved says of all of them. -/
theorem byPrecedence_iff {plan : RingDistancePlan} {result : RingDistanceResult}
    (hplanned : ¬∃ key ∈ requiredRingContexts, Absent plan key)
    (hstate : result.state =
      (result.contexts.map (·.state)).foldl (Extremes.overwrite .resolved) .resolved) :
    ByPrecedence plan result ↔
      ¬(result.state = .ineligible ∧ ∃ context ∈ result.contexts, context.state =
        .notEvaluated) := by
  have hresolved : result.state = .resolved ↔
      ∀ context ∈ result.contexts, context.state = .resolved := by
    rw [hstate, Extremes.foldl_overwrite_eq_neutral, forall_mem_map]
  have hmem : result.state ≠ .resolved →
      ∃ context ∈ result.contexts, context.state = result.state := by
    intro hne
    rcases Extremes.foldl_overwrite_cases .resolved .resolved (result.contexts.map (·.state))
      with ⟨hheld, -⟩ | ⟨hmem, -⟩
    · exact absurd (hstate.trans hheld) hne
    · rw [← hstate] at hmem
      exact List.mem_map.mp hmem
  constructor
  · rintro h ⟨hineligible, hexists⟩
    rw [h.notEvaluated hexists] at hineligible
    cases hineligible
  · intro hnot
    have hnotEvaluated : (∃ context ∈ result.contexts, context.state = .notEvaluated) →
        result.state = .notEvaluated := by
      rintro ⟨context, hcontext, hsome⟩
      cases hresult : result.state with
      | notEvaluated => rfl
      | ineligible => exact absurd ⟨hresult, context, hcontext, hsome⟩ hnot
      | resolved =>
          have hall := hresolved.mp hresult context hcontext
          rw [hsome] at hall
          cases hall
    refine ⟨hresolved, fun habsent => absurd habsent hplanned, hnotEvaluated, ?_, ?_⟩
    · intro hineligible
      obtain ⟨context, hcontext, hsame⟩ := hmem (by rw [hineligible]; decide)
      refine ⟨fun other hother hsome => hnot ⟨hineligible, other, hother, hsome⟩, context,
        hcontext, ?_⟩
      rw [hsame, hineligible]
    · rintro ⟨hnone, context, hcontext, hsome⟩
      have hne : result.state ≠ .resolved := by
        intro hresult
        have hall := hresolved.mp hresult context hcontext
        rw [hsome] at hall
        cases hall
      obtain ⟨other, hother, hsame⟩ := hmem hne
      cases hresult : result.state with
      | notEvaluated => exact absurd (hsame.trans hresult) (hnone other hother)
      | ineligible => rfl
      | resolved => exact absurd hresult hne

/-- **The overall state is by precedence unless a context that collapses overtakes one that is
incomplete.** -/
theorem overall_state {plan : RingDistancePlan} {runs : List RingRunEvidence}
    {result : RingDistanceResult} (h : evaluateRingDistance plan runs = .ok result) :
    ByPrecedence plan result ↔ ¬Overtaken plan runs := by
  obtain ⟨hkeys, hsound, hnodup, hfound, hstate⟩ := evaluateRingDistance_ok h
  have hstates : result.contexts.map (·.state) = requiredRingContexts.map (stateOf plan runs) :=
    map_state (hfound.imp fun _ _ hresult => hresult.stateFor hkeys hnodup hsound)
  by_cases hlength : plan.contexts.length = kRequiredRingContextCount
  · have hplanned : ¬∃ key ∈ requiredRingContexts, Absent plan key := fun habsent =>
      (exists_absent_iff hkeys hsound).mp habsent hlength
    rw [if_neg (not_not.mpr hlength)] at hstate
    have hfold := @overtaken_iff EvaluationState _ .resolved .notEvaluated .ineligible
      (result.contexts.map (·.state)) (fun state => by cases state <;> simp) (by decide)
      (by decide) (by decide)
    rw [byPrecedence_iff hplanned hstate, overtaken_states fun key hkey habsent =>
      hplanned ⟨key, hkey, habsent⟩, ← hstates, hfold, ← hstate, mem_map]
  · -- a plan without all contexts is not evaluated, and some context is not either
    obtain ⟨key, hkey, habsent⟩ := (exists_absent_iff hkeys hsound).mpr hlength
    rw [if_pos hlength] at hstate
    obtain ⟨context, hcontext, hsome⟩ : ∃ context ∈ result.contexts,
        context.state = .notEvaluated := by
      rw [← mem_map, hstates, mem_map]
      exact ⟨key, hkey, stateOf_eq_notEvaluated.mpr (Or.inl habsent)⟩
    refine iff_of_true ⟨iff_of_false ?_ ?_, fun _ => hstate, fun _ => hstate,
      iff_of_false ?_ ?_⟩ fun hovertaken => hovertaken.1 key hkey habsent
    · rw [hstate]
      decide
    · intro hall
      have hresolved := hall context hcontext
      rw [hsome] at hresolved
      cases hresolved
    · rw [hstate]
      decide
    · intro hall
      exact hall.1 context hcontext hsome

namespace Example

def keys : List RingContextKey :=
  [⟨.near, .l2Resident⟩, ⟨.near, .llcResident⟩, ⟨.near, .beyondLlc⟩, ⟨.far, .l2Resident⟩,
    ⟨.far, .llcResident⟩]

/-- Five contexts without runs, and a last one whose capacity of 32 slots is too small. -/
def overtakenPlan : RingDistancePlan :=
  plan (keys.map (contextPlan · 256 0) ++ [contextPlan far 32 59])

end Example

open Example

/-- One context is ineligible and five are not evaluated; the result is ineligible. -/
theorem overall_state_overtaken : ∃ result,
    evaluateRingDistance overtakenPlan (runsOf far 32 59) = .ok result ∧
      result.state = .ineligible ∧
      (∃ context ∈ result.contexts, context.state = .notEvaluated) ∧
      ¬ByPrecedence overtakenPlan result := by
  have hstates : ((evaluateRingDistance overtakenPlan
      (runsOf far 32 59)).toOption.map fun result =>
        (result.state, result.contexts.map (·.state))) =
      some (.ineligible, [.notEvaluated, .notEvaluated, .notEvaluated, .notEvaluated,
        .notEvaluated, .ineligible]) := by decide +kernel
  obtain ⟨result, hresult, hboth⟩ := Option.map_eq_some_iff.mp hstates
  obtain ⟨hstate, hcontexts⟩ := Prod.mk.inj hboth
  have hexists : ∃ context ∈ result.contexts, context.state = .notEvaluated := by
    rw [← mem_map, hcontexts]
    exact mem_cons_self
  refine ⟨result, Fallible.of_toOption hresult, hstate, hexists, fun h => ?_⟩
  rw [h.notEvaluated hexists] at hstate
  cases hstate

/-- With one context planned, the other five are absent. -/
theorem overall_state_far : ∃ result,
    evaluateRingDistance (plan [contextPlan far 256 59])
      (runsOf far 256 59) = .ok result ∧
    ByPrecedence (plan [contextPlan far 256 59]) result := by
  obtain ⟨result, hresult, -⟩ := evaluates_far
  refine ⟨result, hresult, (overall_state hresult).mpr ?_⟩
  rintro ⟨hplanned, -⟩
  refine hplanned ⟨.near, .l2Resident⟩ (by decide) fun context hcontext => ?_
  rw [List.mem_singleton.mp hcontext]
  decide

end CpuPrefetch.Calibration
