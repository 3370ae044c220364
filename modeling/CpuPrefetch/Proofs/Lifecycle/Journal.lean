/-
What the journals of a run say.

A machine keeps three journals and one last timestamp.  The order in which its calls
appended to them is not stored anywhere, so it is written down here: `history` lists
what the successful calls of a sequence appended, in call order, and the journals are
its three projections.  `Journal` is the invariant of the machine against that list.

One call either returns errors and changes nothing, or appends exactly one entry to
the list, with the checks it passed; `call_cases` says this once and every field of
the invariant is carried by it.
-/
import CpuPrefetch.Lifecycle.StateMachine

namespace CpuPrefetch.Lifecycle

open List
open Protocol (ValidationError LifecycleState)

/-! ### The documented table

The phase table of the lifecycle document: each phase's imported value, and the phases
that may follow it.  `none` is the row that retains the value before it.
-/

def documentedSuccessors : RunPhase → List RunPhase
  | .planned => [.preflight]
  | .preflight => [.preparation, .preRunFailure]
  | .preparation => [.warmup, .preRunFailure]
  | .warmup => [.logicalReset, .warmupFailure]
  | .logicalReset => [.measurementStarted, .resetFailure]
  | .measurementStarted => [.producerComplete, .measurementFailure]
  | .producerComplete => [.drain, .measurementFailure]
  | .drain => [.completed, .drainFailure]
  | .completed => [.finalizedValid, .finalizedInvalid]
  | .preRunFailure => [.finalizedInvalid]
  | .warmupFailure => [.finalizedInvalid]
  | .resetFailure => [.finalizedInvalid]
  | .measurementFailure => [.finalizedInvalid]
  | .drainFailure => [.finalizedInvalid]
  | .finalizedInvalid => []
  | .finalizedValid => []

def documentedImport : RunPhase → Option LifecycleState
  | .planned => some .planned
  | .preflight => some .planned
  | .preparation => some .planned
  | .warmup => some .planned
  | .logicalReset => some .planned
  | .measurementStarted => some .measurementStarted
  | .producerComplete => some .measurementStarted
  | .drain => some .measurementStarted
  | .completed => some .completed
  | .preRunFailure => some .preRunFailure
  | .warmupFailure => some .warmupFailure
  | .resetFailure => some .resetFailure
  | .measurementFailure => some .measurementFailure
  | .drainFailure => some .drainFailure
  | .finalizedValid => some .completed
  | .finalizedInvalid => none

namespace RunPhase

theorem isLegalTransition_iff (source target : RunPhase) :
    source.isLegalTransition target = true ↔ target ∈ documentedSuccessors source := by
  cases source <;> simp [isLegalTransition, documentedSuccessors]

theorem protocolProjection_eq (phase : RunPhase) (retained : LifecycleState) :
    phase.protocolProjection retained = (documentedImport phase).getD retained := by
  cases phase <;> rfl

theorem successors_terminal {phase : RunPhase} (h : phase.terminal = true) :
    documentedSuccessors phase = [] := by
  cases phase <;> first | rfl | simp [terminal] at h

/-- Where a phase stands on the longest path from the first one. -/
def depth : RunPhase → Nat
  | .planned => 0
  | .preflight => 1
  | .preparation => 2
  | .warmup | .preRunFailure => 3
  | .logicalReset | .warmupFailure => 4
  | .measurementStarted | .resetFailure => 5
  | .producerComplete => 6
  | .drain | .measurementFailure => 7
  | .completed | .drainFailure => 8
  | .finalizedInvalid | .finalizedValid => 9

theorem depth_lt_of_successor {source target : RunPhase}
    (h : target ∈ documentedSuccessors source) : source.depth < target.depth := by
  revert h
  cases source <;> cases target <;> decide

theorem depth_le (phase : RunPhase) : phase.depth ≤ 9 := by
  cases phase <;> decide

end RunPhase

/-! ### Call order -/

/-- One thing a successful call appended, to whichever journal. -/
inductive JournalEntry where
  | transition (record : TransitionRecord)
  | outcome (noted : OutcomeAnnotation)
  | recovery (record : RecoveryRecord)

namespace JournalEntry

def transition? : JournalEntry → Option TransitionRecord
  | .transition record => some record
  | _ => none

def outcome? : JournalEntry → Option OutcomeAnnotation
  | .outcome noted => some noted
  | _ => none

def recovery? : JournalEntry → Option RecoveryRecord
  | .recovery record => some record
  | _ => none

/-- The timestamps an entry carries, in time order. -/
def stamps : JournalEntry → List UInt64
  | .transition record => [record.timestamp]
  | .outcome noted => [noted.timestamp]
  | .recovery record => [record.startedAt, record.completedAt]

end JournalEntry

open JournalEntry

namespace RunStateMachine

/-- What this call appends if it returns no errors. -/
def entry (m : RunStateMachine) : Call → JournalEntry
  | .transition request => .transition (m.transitionRecord request)
  | .outcome noted => .outcome noted
  | .recovery request => .recovery (recoveryRecord request)

/-- What these calls append, in call order. -/
def history (m : RunStateMachine) : List Call → List JournalEntry
  | [] => []
  | c :: calls =>
      (if (m.call c).2 = [] then [m.entry c] else []) ++ (m.call c).1.history calls

/-- **A call that returns errors leaves the machine as it was.**  A call that returns none
has passed its checks and appended its entry. -/
theorem call_cases (m : RunStateMachine) (c : Call) :
    ((m.call c).2 ≠ [] ∧ (m.call c).1 = m) ∨
    (∃ request, c = .transition request ∧ request.next ∈ documentedSuccessors m.phase ∧
      m.lastTimestamp ≤ request.timestamp ∧
      validateConsequences request.next request.artifactConsequences = [] ∧
      m.call c = ({ m with
        protocolState := request.next.protocolProjection m.protocolState
        phase := request.next
        lastTimestamp := request.timestamp
        transitions := m.transitions ++ [m.transitionRecord request] }, [])) ∨
    (∃ noted, c = .outcome noted ∧
      (m.phase = .completed ∨ m.phase = .finalizedValid) ∧
      m.lastTimestamp ≤ noted.timestamp ∧
      m.call c = ({ m with
        lastTimestamp := noted.timestamp
        outcomes := m.outcomes ++ [noted] }, [])) ∨
    (∃ request, c = .recovery request ∧ m.phase.terminal = true ∧
      m.lastTimestamp ≤ request.startedAt ∧ request.startedAt ≤ request.completedAt ∧
      request.durationTicks ≤ request.completedAt - request.startedAt ∧
      m.call c = ({ m with
        lastTimestamp := request.completedAt
        recoveries := m.recoveries ++ [recoveryRecord request] }, [])) := by
  cases c with
  | transition request =>
    by_cases h : m.transitionErrors request = []
    · right; left
      have hcall : m.call (.transition request) = _ := if_pos h
      simp only [transitionErrors, append_eq_nil_iff, ite_eq_right_iff, cons_ne_nil,
        imp_false, Bool.not_eq_true', Bool.not_eq_false] at h
      obtain ⟨⟨⟨hlegal, -⟩, htime⟩, hcons⟩ := h
      exact ⟨request, rfl, (RunPhase.isLegalTransition_iff _ _).mp hlegal,
        UInt64.not_lt.mp htime, hcons, hcall⟩
    · left
      have hcall : m.call (.transition request) = (m, m.transitionErrors request) := if_neg h
      rw [hcall]
      exact ⟨h, rfl⟩
  | outcome noted =>
    by_cases h : m.outcomeErrors noted = []
    · right; right; left
      have hcall : m.call (.outcome noted) = _ := if_pos h
      simp only [outcomeErrors, append_eq_nil_iff, ite_eq_right_iff, cons_ne_nil,
        imp_false] at h
      obtain ⟨⟨⟨hphase, -⟩, htime⟩, -⟩ := h
      exact ⟨noted, rfl, by tauto, UInt64.not_lt.mp htime, hcall⟩
    · left
      have hcall : m.call (.outcome noted) = (m, m.outcomeErrors noted) := if_neg h
      rw [hcall]
      exact ⟨h, rfl⟩
  | recovery request =>
    by_cases h : m.recoveryErrors request = []
    · right; right; right
      have hcall : m.call (.recovery request) = _ := if_pos h
      simp only [recoveryErrors, append_eq_nil_iff, ite_eq_right_iff, cons_ne_nil,
        imp_false, Bool.not_eq_true', Bool.not_eq_false, not_or] at h
      obtain ⟨⟨hphase, -⟩, hstart, hend, hdur⟩ := h
      exact ⟨request, rfl, hphase, UInt64.not_lt.mp hstart, UInt64.not_lt.mp hend,
        UInt64.not_lt.mp hdur, hcall⟩
    · left
      have hcall : m.call (.recovery request) = (m, m.recoveryErrors request) := if_neg h
      rw [hcall]
      exact ⟨h, rfl⟩

end RunStateMachine

/-! ### The invariant -/

/-- The second record may stand right after the first. -/
structure Follows (before after : TransitionRecord) : Prop where
  source : after.fromPhase = some before.toPhase
  legal : after.toPhase ∈ documentedSuccessors before.toPhase
  imported : after.protocolLifecycleState =
    (documentedImport after.toPhase).getD before.protocolLifecycleState

/-- The journals of a machine whose calls appended these entries, in this order. -/
structure JournalInvariant (entries : List JournalEntry) (m : RunStateMachine) : Prop where
  transitions : m.transitions = entries.filterMap transition?
  outcomes : m.outcomes = entries.filterMap outcome?
  recoveries : m.recoveries = entries.filterMap recovery?
  /-- Time never runs backward, whichever journals two stamps are in. -/
  ordered : (entries.flatMap stamps).Pairwise (· ≤ ·)
  sequences : ∀ (k : Nat) (record : TransitionRecord),
    m.transitions[k]? = some record → record.sequence.toNat = k
  starts : ∃ genesis rest, m.transitions = genesis :: rest ∧ genesis.fromPhase = none ∧
    genesis.toPhase = .planned ∧ genesis.protocolLifecycleState = .planned
  linked : m.transitions.IsChain Follows
  /-- A finalized phase is the last one. -/
  finalized : ∀ before record after, m.transitions = before ++ record :: after →
    record.toPhase.terminal = true → after = []
  /-- The machine's phase and imported state are those of its last record. -/
  current : ∃ record, m.transitions.getLast? = some record ∧ record.toPhase = m.phase ∧
    record.protocolLifecycleState = m.protocolState
  outcomeAfter : ∀ before noted after, entries = before ++ .outcome noted :: after →
    ∃ record, .transition record ∈ before ∧ record.toPhase = .completed
  recoveryAfter : ∀ before record after, entries = before ++ .recovery record :: after →
    (∃ last, .transition last ∈ before ∧ last.toPhase.terminal = true) ∧
      record.startedAt ≤ record.completedAt ∧
      record.durationTicks ≤ record.completedAt - record.startedAt

/-- What is carried along the calls: the invariant, and the facts the next call's checks
are made against. -/
structure JournalHeld (entries : List JournalEntry) (m : RunStateMachine) : Prop
    extends JournalInvariant entries m where
  latest : ∀ stamp ∈ entries.flatMap stamps, stamp ≤ m.lastTimestamp
  /-- The graph has no cycle, so the journal is short and no sequence number wraps. -/
  short : m.transitions.length ≤ m.phase.depth + 1
  completed : m.phase = .completed ∨ m.phase = .finalizedValid →
    ∃ record, .transition record ∈ entries ∧ record.toPhase = .completed

variable {e : JournalEntry}

namespace JournalHeld

variable {entries : List JournalEntry} {m : RunStateMachine}

/-- The machine's phase is the target of a recorded transition. -/
theorem reached (h : JournalHeld entries m) :
    ∃ record, .transition record ∈ entries ∧ record.toPhase = m.phase := by
  obtain ⟨record, hlast, hphase, -⟩ := h.current
  have hmem := mem_of_getLast? hlast
  rw [h.transitions, mem_filterMap] at hmem
  obtain ⟨e, he, hrec⟩ := hmem
  cases e with
  | transition r =>
    obtain rfl := Option.some.inj hrec
    exact ⟨r, he, hphase⟩
  | outcome a => cases hrec
  | recovery r => cases hrec

/-- Stamps appended no earlier than the last one keep the order. -/
theorem ordered_append (h : JournalHeld entries m)
    (hfirst : ∀ stamp ∈ e.stamps, m.lastTimestamp ≤ stamp) (hsorted : e.stamps.Pairwise (· ≤ ·)) :
    ((entries ++ [e]).flatMap stamps).Pairwise (· ≤ ·) := by
  rw [flatMap_append, flatMap_singleton, pairwise_append]
  exact ⟨h.ordered, hsorted, fun a ha b hb => UInt64.le_trans (h.latest a ha) (hfirst b hb)⟩

theorem latest_append (h : JournalHeld entries m) {last : UInt64}
    (hbefore : m.lastTimestamp ≤ last) (hstamps : ∀ stamp ∈ e.stamps, stamp ≤ last) :
    ∀ stamp ∈ (entries ++ [e]).flatMap stamps, stamp ≤ last := by
  intro stamp hmem
  rw [flatMap_append, flatMap_singleton, mem_append] at hmem
  rcases hmem with hold | hnew
  · exact UInt64.le_trans (h.latest stamp hold) hbefore
  · exact hstamps stamp hnew

end JournalHeld

/-- A split of a list with one more element is a split of the list, or is at its end. -/
theorem snoc_eq_split {α : Type} {xs before after : List α} {x y : α}
    (h : xs ++ [x] = before ++ y :: after) :
    (∃ after', after = after' ++ [x] ∧ xs = before ++ y :: after') ∨
      (xs = before ∧ x = y ∧ after = []) := by
  rcases eq_nil_or_concat' after with rfl | ⟨after', z, rfl⟩
  · obtain ⟨hxs, hx⟩ := append_inj' h rfl
    exact .inr ⟨hxs, head_eq_of_cons_eq hx, rfl⟩
  · rw [← cons_append, ← append_assoc] at h
    obtain ⟨hxs, hx⟩ := append_inj' h rfl
    exact .inl ⟨after', by rw [head_eq_of_cons_eq hx], hxs⟩

theorem split_singleton {α : Type} {before after : List α} {x y : α}
    (h : [x] = before ++ y :: after) : x = y := by
  cases before with
  | nil => exact (List.cons.inj h).1
  | cons z zs => simp at h

/-- A linked journal ends at its first finalized phase. -/
theorem finalized_of_linked {records : List TransitionRecord} (h : records.IsChain Follows)
    {before after : List TransitionRecord} {record : TransitionRecord}
    (hsplit : records = before ++ record :: after) (hterminal : record.toPhase.terminal = true) :
    after = [] := by
  cases after with
  | nil => rfl
  | cons next rest =>
    subst hsplit
    have hnext : Follows record next := (List.isChain_append_cons_cons.mp h).2.1
    have hlegal := hnext.legal
    rw [RunPhase.successors_terminal hterminal] at hlegal
    cases hlegal

namespace JournalHeld

variable {entries : List JournalEntry} {m : RunStateMachine}

theorem outcomeAfter_append (h : JournalHeld entries m)
    (hnew : ∀ noted, e = .outcome noted →
      ∃ record, .transition record ∈ entries ∧ record.toPhase = .completed) :
    ∀ before noted after, entries ++ [e] = before ++ .outcome noted :: after →
      ∃ record, .transition record ∈ before ∧ record.toPhase = .completed := by
  intro before noted after hsplit
  rcases snoc_eq_split hsplit with ⟨after', -, hold⟩ | ⟨rfl, he, -⟩
  · exact h.outcomeAfter before noted after' hold
  · exact hnew noted he

theorem recoveryAfter_append (h : JournalHeld entries m)
    (hnew : ∀ record, e = .recovery record →
      m.phase.terminal = true ∧ record.startedAt ≤ record.completedAt ∧
      record.durationTicks ≤ record.completedAt - record.startedAt) :
    ∀ before record after, entries ++ [e] = before ++ .recovery record :: after →
      (∃ last, .transition last ∈ before ∧ last.toPhase.terminal = true) ∧
        record.startedAt ≤ record.completedAt ∧
        record.durationTicks ≤ record.completedAt - record.startedAt := by
  intro before record after hsplit
  rcases snoc_eq_split hsplit with ⟨after', -, hold⟩ | ⟨rfl, he, -⟩
  · exact h.recoveryAfter before record after' hold
  · obtain ⟨hterminal, hcover⟩ := hnew record he
    obtain ⟨last, hmem, hphase⟩ := h.reached
    exact ⟨⟨last, hmem, by rw [hphase]; exact hterminal⟩, hcover⟩

/-! ### One call -/

theorem linked_append (h : JournalHeld entries m) {request : TransitionRequest}
    (hlegal : request.next ∈ documentedSuccessors m.phase) :
    (m.transitions ++ [m.transitionRecord request]).IsChain Follows := by
  refine List.isChain_append.mpr ⟨h.linked, isChain_singleton _, ?_⟩
  intro before hbefore after hafter
  obtain ⟨record, hlast, hphase, hstate⟩ := h.current
  obtain rfl : record = before := Option.some.inj (hlast.symm.trans hbefore)
  obtain rfl : m.transitionRecord request = after := Option.some.inj hafter
  refine ⟨by rw [hphase]; rfl, by rw [hphase]; exact hlegal, ?_⟩
  rw [hstate]
  exact RunPhase.protocolProjection_eq request.next m.protocolState

theorem sequences_append (h : JournalHeld entries m) (request : TransitionRequest) (k : Nat)
    (record : TransitionRecord)
    (hk : (m.transitions ++ [m.transitionRecord request])[k]? = some record) :
    record.sequence.toNat = k := by
  by_cases hlt : k < m.transitions.length
  · rw [getElem?_append_left hlt] at hk
    exact h.sequences k record hk
  · have hle : m.transitions.length ≤ k := by omega
    rw [getElem?_append_right hle, getElem?_singleton] at hk
    split at hk
    · obtain rfl := Option.some.inj hk
      have hshort := h.short
      have hdepth := m.phase.depth_le
      show (UInt64.ofNat m.transitions.length).toNat = k
      rw [UInt64.toNat_ofNat', Nat.mod_eq_of_lt (by omega)]
      omega
    · cases hk

theorem transition (h : JournalHeld entries m) {request : TransitionRequest}
    (hlegal : request.next ∈ documentedSuccessors m.phase)
    (htime : m.lastTimestamp ≤ request.timestamp) :
    JournalHeld (entries ++ [.transition (m.transitionRecord request)])
      { m with
        protocolState := request.next.protocolProjection m.protocolState
        phase := request.next
        lastTimestamp := request.timestamp
        transitions := m.transitions ++ [m.transitionRecord request] } where
  transitions := by simp [h.transitions, transition?]
  outcomes := by simp [h.outcomes, outcome?]
  recoveries := by simp [h.recoveries, recovery?]
  ordered := by
    refine h.ordered_append ?_ (pairwise_singleton _ _)
    simpa [stamps, RunStateMachine.transitionRecord] using htime
  sequences := h.sequences_append request
  starts := by
    obtain ⟨genesis, rest, heq, hgen⟩ := h.starts
    exact ⟨genesis, rest ++ [m.transitionRecord request], by rw [heq]; rfl, hgen⟩
  linked := h.linked_append hlegal
  finalized := fun _ _ _ hsplit => finalized_of_linked (h.linked_append hlegal) hsplit
  current := ⟨m.transitionRecord request, by simp, rfl, rfl⟩
  outcomeAfter := h.outcomeAfter_append (by intro noted he; cases he)
  recoveryAfter := h.recoveryAfter_append (by intro record he; cases he)
  latest := h.latest_append htime (by simp [stamps, RunStateMachine.transitionRecord])
  short := by
    have hdepth := RunPhase.depth_lt_of_successor hlegal
    have hshort := h.short
    simp only [length_append, length_singleton]
    omega
  completed := by
    rintro (hphase | hphase)
    · exact ⟨m.transitionRecord request, by simp, hphase⟩
    · -- only COMPLETED precedes FINALIZED_VALID
      have hbefore : m.phase = .completed := by
        have hnext : request.next = .finalizedValid := hphase
        rw [hnext] at hlegal
        revert hlegal
        cases m.phase <;> decide
      obtain ⟨record, hmem, hto⟩ := h.completed (.inl hbefore)
      exact ⟨record, by simp [hmem], hto⟩

theorem outcome (h : JournalHeld entries m) {noted : OutcomeAnnotation}
    (hphase : m.phase = .completed ∨ m.phase = .finalizedValid)
    (htime : m.lastTimestamp ≤ noted.timestamp) :
    JournalHeld (entries ++ [.outcome noted])
      { m with lastTimestamp := noted.timestamp, outcomes := m.outcomes ++ [noted] } where
  transitions := by simp [h.transitions, transition?]
  outcomes := by simp [h.outcomes, outcome?]
  recoveries := by simp [h.recoveries, recovery?]
  ordered := h.ordered_append (by simpa [stamps] using htime)
    (pairwise_singleton _ _)
  sequences := h.sequences
  starts := h.starts
  linked := h.linked
  finalized := h.finalized
  current := h.current
  outcomeAfter := h.outcomeAfter_append (fun _ _ => h.completed hphase)
  recoveryAfter := h.recoveryAfter_append (by intro record he; cases he)
  latest := h.latest_append htime (by simp [stamps])
  short := h.short
  completed := by
    intro hnow
    obtain ⟨record, hmem, hto⟩ := h.completed hnow
    exact ⟨record, by simp [hmem], hto⟩

theorem recovery (h : JournalHeld entries m) {request : RecoveryRequest}
    (hphase : m.phase.terminal = true) (hstart : m.lastTimestamp ≤ request.startedAt)
    (hend : request.startedAt ≤ request.completedAt)
    (hcover : request.durationTicks ≤ request.completedAt - request.startedAt) :
    JournalHeld (entries ++ [.recovery (RunStateMachine.recoveryRecord request)])
      { m with
        lastTimestamp := request.completedAt
        recoveries := m.recoveries ++ [RunStateMachine.recoveryRecord request] } where
  transitions := by simp [h.transitions, transition?]
  outcomes := by simp [h.outcomes, outcome?]
  recoveries := by simp [h.recoveries, recovery?]
  ordered := by
    refine h.ordered_append ?_ ?_
    · simpa [stamps, RunStateMachine.recoveryRecord] using
        ⟨hstart, UInt64.le_trans hstart hend⟩
    · simpa [stamps, RunStateMachine.recoveryRecord] using hend
  sequences := h.sequences
  starts := h.starts
  linked := h.linked
  finalized := h.finalized
  current := h.current
  outcomeAfter := h.outcomeAfter_append (by intro noted he; cases he)
  recoveryAfter := by
    refine h.recoveryAfter_append ?_
    intro record he
    obtain rfl := recovery.inj he
    exact ⟨hphase, hend, hcover⟩
  latest := by
    refine h.latest_append (UInt64.le_trans hstart hend) ?_
    simpa [stamps, RunStateMachine.recoveryRecord] using hend
  short := h.short
  completed := by
    intro hnow
    obtain ⟨record, hmem, hto⟩ := h.completed hnow
    exact ⟨record, by simp [hmem], hto⟩

theorem call (h : JournalHeld entries m) (c : RunStateMachine.Call) :
    JournalHeld (entries ++ if (m.call c).2 = [] then [m.entry c] else []) (m.call c).1 := by
  rcases m.call_cases c with ⟨herr, hsame⟩ | ⟨request, rfl, hlegal, htime, -, hcall⟩ |
    ⟨noted, rfl, hphase, htime, hcall⟩ | ⟨request, rfl, hphase, hstart, hend, hcover, hcall⟩
  · rw [if_neg herr, hsame, append_nil]
    exact h
  · rw [hcall]
    exact h.transition hlegal htime
  · rw [hcall]
    exact h.outcome hphase htime
  · rw [hcall]
    exact h.recovery hphase hstart hend hcover

/-! ### Every sequence of calls -/

theorem run (h : JournalHeld entries m) (calls : List RunStateMachine.Call) :
    JournalHeld (entries ++ m.history calls) (m.run calls) := by
  induction calls generalizing entries m with
  | nil => simpa [RunStateMachine.history, RunStateMachine.run] using h
  | cons c calls ih =>
    have hrest := ih (h.call c)
    rw [append_assoc] at hrest
    exact hrest

end JournalHeld

namespace RunStateMachine

/-- The entry a created machine starts with. -/
def genesisEntries (m : RunStateMachine) : List JournalEntry := m.transitions.map .transition

theorem create_held {context : LifecycleContext} {genesis : TransitionRequest}
    {m : RunStateMachine} (h : create context genesis = .ok m) :
    JournalHeld m.genesisEntries m := by
  unfold create at h
  split at h
  · obtain rfl := Except.ok.inj h
    constructor
    case toJournalInvariant =>
      constructor
      case transitions => rfl
      case outcomes => rfl
      case recoveries => rfl
      case ordered => exact pairwise_singleton _ _
      case sequences =>
        intro k record hk
        rw [getElem?_singleton] at hk
        split at hk
        · obtain rfl := Option.some.inj hk
          rename_i h0
          rw [h0]
          rfl
        · cases hk
      case starts => exact ⟨_, [], rfl, rfl, rfl, rfl⟩
      case linked => exact isChain_singleton _
      case finalized =>
        intro before record after hsplit hterminal
        exact finalized_of_linked (isChain_singleton _) hsplit hterminal
      case current => exact ⟨_, rfl, rfl, rfl⟩
      case outcomeAfter =>
        intro before noted after hsplit
        cases split_singleton hsplit
      case recoveryAfter =>
        intro before record after hsplit
        cases split_singleton hsplit
    case latest =>
      intro stamp hmem
      simp only [genesisEntries, map_cons, map_nil, flatMap_singleton,
        stamps, mem_singleton] at hmem
      rw [hmem]
      exact UInt64.le_refl _
    case short => exact Nat.le_refl 1
    case completed => rintro (hc | hc) <;> cases hc
  · cases h

/-- **Whatever calls are made of a created machine, with whatever arguments and whichever of
them fail, its journals are one legal history, and a call that returns errors leaves it as
it was.** -/
theorem journals_hold {context : LifecycleContext} {genesis : TransitionRequest}
    {m : RunStateMachine} (h : create context genesis = .ok m) (calls : List Call) :
    JournalInvariant (m.genesisEntries ++ m.history calls) (m.run calls) ∧
      ∀ c, ((m.run calls).call c).2 ≠ [] → ((m.run calls).call c).1 = m.run calls := by
  refine ⟨((create_held h).run calls).toJournalInvariant, ?_⟩
  intro c herr
  rcases (m.run calls).call_cases c with ⟨-, hsame⟩ | ⟨_, -, -, -, -, hcall⟩ | ⟨_, -, -, -, hcall⟩ |
    ⟨_, -, -, -, -, -, hcall⟩
  · exact hsame
  all_goals
    rw [hcall] at herr
    exact absurd rfl herr

/-- A registered plan with distinct namespaces and schedules. -/
def plannedContext : LifecycleContext where
  runId := ⟨[82], cons_ne_nil _ _⟩
  blockId := ⟨[66], cons_ne_nil _ _⟩
  warmupScheduleId := ⟨[83, 87], cons_ne_nil _ _⟩
  measurementScheduleId := ⟨[83, 77], cons_ne_nil _ _⟩
  warmupNamespaceId := ⟨[78, 87], cons_ne_nil _ _⟩
  measurementNamespaceId := ⟨[78, 77], cons_ne_nil _ _⟩
  transitionClockId := "clock"
  transitionTimeUnit := "ns"

/-- A request that states these consequences. -/
def requestOf (next : RunPhase) (timestamp : UInt64)
    (consequences : List ArtifactConsequence) : TransitionRequest :=
  ⟨next, timestamp, "controller", "transition", consequences⟩

def planRetained : ArtifactConsequence := ⟨.plan, .retain, "plan", 1⟩

/-- A legal transition, one that leaves the graph and one that goes back in time. -/
theorem journals_hold_planned :
    ∃ m, create plannedContext (requestOf .planned 10 [planRetained]) = .ok m ∧
      let calls := [.transition (requestOf .preflight 11 [planRetained]),
        .transition (requestOf .drain 12 [planRetained]),
        .transition (requestOf .preparation 9 [planRetained])]
      JournalInvariant (m.genesisEntries ++ m.history calls) (m.run calls) ∧
        ∀ c, ((m.run calls).call c).2 ≠ [] → ((m.run calls).call c).1 = m.run calls :=
  ⟨_, rfl, @journals_hold plannedContext (requestOf .planned 10 [planRetained]) _ rfl _⟩

end RunStateMachine

end CpuPrefetch.Lifecycle
