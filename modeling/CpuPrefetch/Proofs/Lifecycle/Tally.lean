/-
The workers' counters against the calls the backend has answered.

The producer's counters are the numbers of answered attempts of each kind, always;
its k-th attempt carries the number k, the k-th deadline and the number of attempts
accepted before it; and it ends without a failure only when every deadline has had
its attempt.  The consumer's count is the number of items among its answered polls,
with one exception that the source makes: when the drain watchdog expires, the poll
it expired on has been made but is not counted.
-/
import CpuPrefetch.Proofs.Lifecycle.Invariant

namespace CpuPrefetch.Lifecycle

variable {PIn CIn : Type} {B : Backend PIn CIn} {schedule : PreparedScheduleView}
  {limits : ExecutionLimits}

/-- The attempts the backend has answered, with its answers. -/
abbrev Answered := List (ProducerAttempt × ProducerAttemptResult)

def ProducerAttemptResult.isAccepted (r : ProducerAttemptResult) : Bool :=
  r = ⟨.complete, .accepted⟩

def ProducerAttemptResult.isFull (r : ProducerAttemptResult) : Bool :=
  r = ⟨.complete, .full⟩

def ConsumerPollResult.isItem (r : ConsumerPollResult) : Bool := r.status = .item

/-- The number of accepted attempts. -/
def Answered.accepted (answered : Answered) : Nat := answered.countP (·.2.isAccepted)

/-- The number of attempts turned away by a full queue. -/
def Answered.full (answered : Answered) : Nat := answered.countP (·.2.isFull)

def Answered.deadlines (answered : Answered) : List UInt64 :=
  answered.map (·.1.scheduledDeadline)

/-- One more increment of a counter that holds the number `n`. -/
theorem ofNat_succ (n : Nat) : UInt64.ofNat n + 1 = UInt64.ofNat (n + 1) := by
  rw [UInt64.ofNat_add]
  rfl

/-! ### The producer's counters -/

namespace ProducerThread

/-- The sequence numbers are those of the next attempt, and nothing has failed so far. -/
structure InStep (answered : Answered) (t : ProducerThread) : Prop where
  sequence : t.logicalSequence = .ofNat answered.length
  ordinal : t.acceptedOrdinal = .ofNat answered.accepted
  complete : ∀ x ∈ answered, x.2.status = .complete

/-- How far through the schedule a producer at this point is. -/
def Progress (schedule : PreparedScheduleView) (answered : Answered) (t : ProducerThread) : Prop :=
  match t.point with
  | .arrive | .cancelBarrier | .pollCancelled _ | .pollReleased _ | .storeStartFailed
  | .loadOrigin => answered = [] ∧ t.logicalSequence = 0 ∧ t.acceptedOrdinal = 0
  | .loadCancellation deadline | .pollCancellation deadline _ _ | .readClock deadline _ _ =>
      t.InStep answered ∧
        schedule.deadlineTicks = answered.deadlines ++ deadline :: t.remaining
  | .attempt attempt =>
      t.InStep answered ∧
        schedule.deadlineTicks =
          answered.deadlines ++ attempt.scheduledDeadline :: t.remaining ∧
        attempt.logicalSequence = .ofNat answered.length ∧
        attempt.candidateAcceptedOrdinal = .ofNat answered.accepted
  | .storeProducerFailed | .storeCancellation => t.state.completed = false
  | .publish | .returned => t.state.completed = true →
      schedule.deadlineTicks = answered.deadlines ∧ ∀ x ∈ answered, x.2.status = .complete

/-- The counters are the numbers of answered attempts. -/
structure Counts (answered : Answered) (t : ProducerThread) : Prop where
  attempted : t.state.attempted = .ofNat answered.length
  accepted : t.state.accepted = .ofNat answered.accepted
  full : t.state.full = .ofNat answered.full

variable {t : ProducerThread} {answered : Answered}

theorem nextArrival_progress (hin : t.InStep answered)
    (hdeadlines : schedule.deadlineTicks = answered.deadlines ++ t.remaining) :
    t.nextArrival.Progress schedule answered := by
  rcases t.nextArrival_cases with ⟨hnil, heq⟩ | ⟨deadline, rest, hcons, heq⟩
  · rw [heq]
    intro _
    rw [hnil, List.append_nil] at hdeadlines
    exact ⟨hdeadlines, hin.complete⟩
  · rw [heq]
    rw [hcons] at hdeadlines
    exact ⟨⟨hin.sequence, hin.ordinal, hin.complete⟩, hdeadlines⟩

theorem awaitDue_progress (limits : ExecutionLimits) {deadline : UInt64} (target poll : UInt64)
    (hfresh : t.state.completed = false) (hin : t.InStep answered)
    (hdeadlines : schedule.deadlineTicks = answered.deadlines ++ deadline :: t.remaining) :
    (t.awaitDue limits deadline target poll).Progress schedule answered := by
  rcases t.awaitDue_cases limits deadline target poll with ⟨-, heq⟩ | ⟨-, heq⟩
  · rw [heq]
    exact ⟨⟨hin.sequence, hin.ordinal, hin.complete⟩, hdeadlines⟩
  · rw [heq]
    exact hfresh

theorem beginArrival_progress (limits : ExecutionLimits) {deadline : UInt64}
    (hfresh : t.state.completed = false) (hin : t.InStep answered)
    (hdeadlines : schedule.deadlineTicks = answered.deadlines ++ deadline :: t.remaining) :
    (t.beginArrival schedule limits deadline).Progress schedule answered := by
  rcases t.beginArrival_cases schedule limits deadline with heq | ⟨target, -, heq⟩
  · rw [heq]
    exact hfresh
  · rw [heq]
    exact awaitDue_progress limits target 0 hfresh hin hdeadlines

theorem afterRead_progress (limits : ExecutionLimits) {deadline : UInt64} (target poll : UInt64)
    (reading : TickRead) (hfresh : t.state.completed = false) (hin : t.InStep answered)
    (hdeadlines : schedule.deadlineTicks = answered.deadlines ++ deadline :: t.remaining) :
    (t.afterRead limits deadline target poll reading).Progress schedule answered := by
  rcases t.afterRead_cases limits deadline target poll reading with
    ⟨-, heq⟩ | ⟨-, -, heq⟩ | ⟨-, -, heq⟩
  · rw [heq]
    exact hfresh
  · rw [heq]
    exact ⟨⟨hin.sequence, hin.ordinal, hin.complete⟩, hdeadlines, hin.sequence, hin.ordinal⟩
  · rw [heq]
    apply awaitDue_progress limits target (poll + 1)
    · exact hfresh
    · exact ⟨hin.sequence, hin.ordinal, hin.complete⟩
    · exact hdeadlines

/-! Between answers the counters stand still. -/

theorem Counts.workerWait (h : t.Counts answered) (limits : ExecutionLimits) (poll : UInt64) :
    (t.workerWait limits poll).Counts answered := by
  rcases t.workerWait_cases limits poll with ⟨-, heq⟩ | ⟨-, heq⟩
  · rw [heq]
    exact ⟨h.attempted, h.accepted, h.full⟩
  · rw [heq]
    exact ⟨h.attempted, h.accepted, h.full⟩

theorem Counts.nextArrival (h : t.Counts answered) : t.nextArrival.Counts answered := by
  rcases t.nextArrival_cases with ⟨-, heq⟩ | ⟨deadline, rest, -, heq⟩
  · rw [heq]
    exact ⟨h.attempted, h.accepted, h.full⟩
  · rw [heq]
    exact ⟨h.attempted, h.accepted, h.full⟩

theorem Counts.awaitDue (h : t.Counts answered) (limits : ExecutionLimits)
    (deadline target poll : UInt64) :
    (t.awaitDue limits deadline target poll).Counts answered := by
  rcases t.awaitDue_cases limits deadline target poll with ⟨-, heq⟩ | ⟨-, heq⟩
  · rw [heq]
    exact ⟨h.attempted, h.accepted, h.full⟩
  · rw [heq]
    exact ⟨h.attempted, h.accepted, h.full⟩

theorem Counts.beginArrival (h : t.Counts answered) (schedule : PreparedScheduleView)
    (limits : ExecutionLimits) (deadline : UInt64) :
    (t.beginArrival schedule limits deadline).Counts answered := by
  rcases t.beginArrival_cases schedule limits deadline with heq | ⟨target, -, heq⟩
  · rw [heq]
    exact ⟨h.attempted, h.accepted, h.full⟩
  · rw [heq]
    exact h.awaitDue limits deadline target 0

theorem Counts.afterRead (h : t.Counts answered) (limits : ExecutionLimits)
    (deadline target poll : UInt64) (reading : TickRead) :
    (t.afterRead limits deadline target poll reading).Counts answered := by
  rcases t.afterRead_cases limits deadline target poll reading with
    ⟨-, heq⟩ | ⟨-, -, heq⟩ | ⟨-, -, heq⟩
  · rw [heq]
    exact ⟨h.attempted, h.accepted, h.full⟩
  · rw [heq]
    exact ⟨h.attempted, h.accepted, h.full⟩
  · rw [heq]
    apply Counts.awaitDue
    exact ⟨h.attempted, h.accepted, h.full⟩

/-- The counters follow the answer to an attempt. -/
theorem Counts.afterAttempt (h : t.Counts answered) (attempt : ProducerAttempt)
    (r : ProducerAttemptResult) : (t.afterAttempt r).Counts (answered ++ [(attempt, r)]) := by
  obtain ⟨hattempted, haccepted, hfull⟩ := h
  have hlen : t.state.attempted + 1 = .ofNat (answered ++ [(attempt, r)]).length := by
    rw [hattempted, ofNat_succ, List.length_append]
    rfl
  match r with
  | ⟨.failure, outcome⟩ =>
      refine ⟨hlen, ?_, ?_⟩
      · show t.state.accepted = _
        rw [haccepted]
        simp [Answered.accepted, ProducerAttemptResult.isAccepted]
      · show t.state.full = _
        rw [hfull]
        simp [Answered.full, ProducerAttemptResult.isFull]
  | ⟨.complete, .accepted⟩ =>
      refine Counts.nextArrival ⟨hlen, ?_, ?_⟩
      · show t.state.accepted + 1 = _
        rw [haccepted, ofNat_succ]
        simp [Answered.accepted, ProducerAttemptResult.isAccepted]
      · show t.state.full = _
        rw [hfull]
        simp [Answered.full, ProducerAttemptResult.isFull]
  | ⟨.complete, .full⟩ =>
      refine Counts.nextArrival ⟨hlen, ?_, ?_⟩
      · show t.state.accepted = _
        rw [haccepted]
        simp [Answered.accepted, ProducerAttemptResult.isAccepted]
      · show t.state.full + 1 = _
        rw [hfull, ofNat_succ]
        simp [Answered.full, ProducerAttemptResult.isFull]

/-- The producer goes on to its next arrival after a complete attempt. -/
theorem afterAttempt_progress (attempt : ProducerAttempt) (r : ProducerAttemptResult)
    (hfresh : t.state.completed = false) (hin : t.InStep answered)
    (hdeadlines : schedule.deadlineTicks =
      answered.deadlines ++ attempt.scheduledDeadline :: t.remaining) :
    (t.afterAttempt r).Progress schedule (answered ++ [(attempt, r)]) := by
  have hlen : t.logicalSequence + 1 = .ofNat (answered ++ [(attempt, r)]).length := by
    rw [hin.sequence, ofNat_succ, List.length_append]
    rfl
  have hcomplete : r.status = .complete →
      ∀ x ∈ answered ++ [(attempt, r)], x.2.status = .complete := by
    intro hr x hx
    rcases List.mem_append.mp hx with hold | hnew
    · exact hin.complete x hold
    · rw [List.mem_singleton.mp hnew]
      exact hr
  have hdone : schedule.deadlineTicks =
      (answered ++ [(attempt, r)] : Answered).deadlines ++ t.remaining := by
    rw [hdeadlines]
    simp [Answered.deadlines]
  match r with
  | ⟨.failure, outcome⟩ => exact hfresh
  | ⟨.complete, .accepted⟩ =>
      refine nextArrival_progress ⟨hlen, ?_, hcomplete rfl⟩ hdone
      show t.acceptedOrdinal + 1 = _
      rw [hin.ordinal, ofNat_succ]
      simp [Answered.accepted, ProducerAttemptResult.isAccepted]
  | ⟨.complete, .full⟩ =>
      refine nextArrival_progress ⟨hlen, ?_, hcomplete rfl⟩ hdone
      show t.acceptedOrdinal = _
      rw [hin.ordinal]
      simp [Answered.accepted, ProducerAttemptResult.isAccepted]

end ProducerThread

/-- Attempt `k` carries the number `k` and the number of attempts accepted before it. -/
def Answered.Numbered (answered : Answered) : Prop :=
  ∀ (k : Nat) (attempt : ProducerAttempt) (r : ProducerAttemptResult),
    answered[k]? = some (attempt, r) → attempt.logicalSequence = .ofNat k ∧
      attempt.candidateAcceptedOrdinal = .ofNat (Answered.accepted (answered.take k))

theorem Answered.Numbered.append {answered : Answered} (h : answered.Numbered)
    {attempt : ProducerAttempt} (r : ProducerAttemptResult)
    (hsequence : attempt.logicalSequence = .ofNat answered.length)
    (hordinal : attempt.candidateAcceptedOrdinal = .ofNat answered.accepted) :
    Answered.Numbered (answered ++ [(attempt, r)]) := by
  intro k a r' hk
  rcases Nat.lt_trichotomy k answered.length with hlt | rfl | hgt
  · rw [List.getElem?_append_left hlt] at hk
    rw [List.take_append_of_le_length (Nat.le_of_lt hlt)]
    exact h k a r' hk
  · rw [List.getElem?_append_right (Nat.le_refl _), Nat.sub_self] at hk
    obtain ⟨rfl, rfl⟩ : attempt = a ∧ r = r' := by simpa using hk
    rw [List.take_append_of_le_length (Nat.le_refl _), List.take_length]
    exact ⟨hsequence, hordinal⟩
  · rw [List.getElem?_eq_none (by simp; omega)] at hk
    cases hk

/-! ### The consumer's counters -/

namespace ConsumerThread

/-- The polls the consumer has counted: not the one its drain watchdog expired on. -/
def countedPolls (polls : List ConsumerPollResult) (t : ConsumerThread) :
    List ConsumerPollResult :=
  if t.state.failure = .drainWatchdog then polls.dropLast else polls

structure Counts (polls : List ConsumerPollResult) (t : ConsumerThread) : Prop where
  consumed : t.state.consumed = .ofNat ((t.countedPolls polls).countP (·.isItem))
  candidate : t.candidateConsumedOrdinal = t.state.consumed
  /-- A failed poll ends the loop with a failure. -/
  failed : t.state.failure = .none → ∀ r ∈ polls, r.status ≠ .failure

variable {t t' : ConsumerThread} {polls : List ConsumerPollResult}

theorem Counts.workerWait (h : t.Counts polls) (hfresh : t.state.failure = .none)
    (limits : ExecutionLimits) (poll : UInt64) : (t.workerWait limits poll).Counts polls := by
  have hconsumed := h.consumed
  rw [countedPolls, hfresh] at hconsumed
  rcases t.workerWait_cases limits poll with ⟨-, heq⟩ | ⟨-, heq⟩
  · rw [heq]
    exact ⟨h.consumed, h.candidate, h.failed⟩
  · rw [heq]
    exact ⟨hconsumed, h.candidate, nofun⟩

/-- The counters follow the answer to a poll. -/
theorem Counts.polled (h : t.Counts polls) (hfresh : t.state.failure = .none) {finished : Bool}
    {r : ConsumerPollResult} (hpolled : t.Polled limits finished r t') :
    t'.Counts (polls ++ [r]) := by
  have hconsumed := h.consumed
  have hfailed := h.failed hfresh
  rw [countedPolls, hfresh] at hconsumed
  have hgrow : r.status ≠ .failure → ∀ x ∈ polls ++ [r], x.status ≠ .failure := by
    intro hr x hx
    rcases List.mem_append.mp hx with hold | hnew
    · exact hfailed x hold
    · rw [List.mem_singleton.mp hnew]
      exact hr
  cases hpolled with
  | expired r hlimit =>
      refine ⟨?_, h.candidate, nofun⟩
      show t.state.consumed = .ofNat (((polls ++ [r]).dropLast).countP _)
      rw [List.dropLast_concat]
      exact hconsumed
  | item _ hlimit =>
      refine ⟨?_, ?_, fun _ => hgrow nofun⟩
      · cases finished <;>
          simp [countedPolls, counted, hfresh, hconsumed, ConsumerPollResult.isItem]
      · show t.candidateConsumedOrdinal + 1 = t.state.consumed + 1
        rw [h.candidate]
  | failedDraining hlimit =>
      refine ⟨?_, h.candidate, nofun⟩
      simp [countedPolls, counted, fail, hconsumed, ConsumerPollResult.isItem]
  | failed =>
      refine ⟨?_, h.candidate, nofun⟩
      simp [countedPolls, hconsumed, ConsumerPollResult.isItem]
  | drained hlimit =>
      refine ⟨?_, h.candidate, fun _ => hgrow nofun⟩
      simp [countedPolls, counted, hfresh, hconsumed, ConsumerPollResult.isItem]
  | starved hempty =>
      refine ⟨?_, h.candidate, nofun⟩
      simp [countedPolls, fail, hconsumed, ConsumerPollResult.isItem]
  | empty hempty =>
      refine ⟨?_, h.candidate, fun _ => hgrow nofun⟩
      simp [countedPolls, hfresh, hconsumed, ConsumerPollResult.isItem]

end ConsumerThread

/-! ### Over a whole run -/

namespace Execution

/-- The counters of both workers tell what the backend has answered. -/
structure Tallied (schedule : PreparedScheduleView) (e : Execution B) : Prop where
  counts : e.producer.Counts e.client.enqueued
  progress : e.producer.Progress schedule e.client.enqueued
  numbered : Answered.Numbered e.client.enqueued
  polls : e.consumer.Counts e.client.dequeued

namespace Tallied

variable {e e' : Execution B}

theorem start (limits : ExecutionLimits) (termination : TerminationControl) (init : B.State) :
    Tallied schedule (Execution.start (B := B) limits termination init) where
  counts := ⟨rfl, rfl, rfl⟩
  progress := ⟨rfl, rfl, rfl⟩
  numbered := by
    intro k attempt r hk
    cases hk
  polls := ⟨rfl, rfl, fun _ _ hr => by cases hr⟩

theorem producer_step (h : Tallied schedule e) (hc : Consistent schedule e) {reading : TickRead}
    {input : PIn} (hstep : ProducerStep schedule limits reading input e e') :
    Tallied schedule e' := by
  have hcounts := h.counts
  have hprogress := h.progress
  have hcoherent := hc.producer
  cases hstep with
  | arrived hpoint hnew =>
      simp only [ProducerThread.Progress, hpoint] at hprogress
      refine { h with counts := hcounts.workerWait limits 0, progress := ?_ }
      rcases e.producer.workerWait_cases limits 0 with ⟨-, heq⟩ | ⟨-, heq⟩
      · simp only [heq]
        exact hprogress
      · simp only [heq]
        exact hprogress
  | duplicate hpoint hold =>
      simp only [ProducerThread.Progress, hpoint] at hprogress
      exact { h with counts := ⟨hcounts.1, hcounts.2, hcounts.3⟩, progress := hprogress }
  | cancelledBarrier hpoint =>
      simp only [ProducerThread.Progress, hpoint] at hprogress
      exact { h with counts := ⟨hcounts.1, hcounts.2, hcounts.3⟩, progress := hprogress }
  | sawCancelled poll hpoint hcancelled =>
      simp only [ProducerThread.Progress, hpoint] at hprogress
      exact { h with counts := ⟨hcounts.1, hcounts.2, hcounts.3⟩, progress := hprogress }
  | notCancelled poll hpoint hcancelled =>
      simp only [ProducerThread.Progress, hpoint] at hprogress
      exact { h with counts := ⟨hcounts.1, hcounts.2, hcounts.3⟩, progress := hprogress }
  | sawReleased poll hpoint hreleased =>
      simp only [ProducerThread.Progress, hpoint] at hprogress
      exact { h with counts := ⟨hcounts.1, hcounts.2, hcounts.3⟩, progress := hprogress }
  | notReleased poll hpoint hreleased =>
      simp only [ProducerThread.Progress, hpoint] at hprogress
      refine { h with counts := hcounts.workerWait limits (poll + 1), progress := ?_ }
      rcases e.producer.workerWait_cases limits (poll + 1) with ⟨-, heq⟩ | ⟨-, heq⟩
      · simp only [heq]
        exact hprogress
      · simp only [heq]
        exact hprogress
  | startFailed hpoint =>
      simp only [ProducerThread.Coherent, hpoint] at hcoherent
      refine { h with counts := ⟨hcounts.1, hcounts.2, hcounts.3⟩, progress := fun hdone => ?_ }
      rw [hcoherent.2.1] at hdone
      cases hdone
  | began hpoint =>
      simp only [ProducerThread.Progress, hpoint] at hprogress
      obtain ⟨hnil, hsequence, hordinal⟩ := hprogress
      refine { h with
        counts := ProducerThread.Counts.nextArrival ⟨hcounts.1, hcounts.2, hcounts.3⟩
        progress := ProducerThread.nextArrival_progress ⟨?_, ?_, ?_⟩ ?_ }
      · show e.producer.logicalSequence = _
        rw [hsequence, hnil]
        rfl
      · show e.producer.acceptedOrdinal = _
        rw [hordinal, hnil]
        rfl
      · rw [hnil]
        intro x hx
        cases hx
      · rw [hnil]
        rfl
  | arrivalCancelled deadline hpoint hcancelled =>
      simp only [ProducerThread.Coherent, hpoint] at hcoherent
      exact { h with
        counts := ⟨hcounts.1, hcounts.2, hcounts.3⟩
        progress := hcoherent.2.2.1 }
  | arrival deadline hpoint hcancelled =>
      simp only [ProducerThread.Progress, hpoint] at hprogress
      simp only [ProducerThread.Coherent, hpoint] at hcoherent
      exact { h with
        counts := hcounts.beginArrival schedule limits deadline
        progress := ProducerThread.beginArrival_progress limits hcoherent.2.2.1 hprogress.1
          hprogress.2 }
  | waitCancelled deadline target poll hpoint hcancelled =>
      simp only [ProducerThread.Coherent, hpoint] at hcoherent
      exact { h with
        counts := ⟨hcounts.1, hcounts.2, hcounts.3⟩
        progress := hcoherent.2.2.1 }
  | waits deadline target poll hpoint hcancelled =>
      simp only [ProducerThread.Progress, hpoint] at hprogress
      obtain ⟨hin, hdeadlines⟩ := hprogress
      exact { h with
        counts := ⟨hcounts.1, hcounts.2, hcounts.3⟩
        progress := ⟨⟨hin.1, hin.2, hin.3⟩, hdeadlines⟩ }
  | reads deadline target poll hpoint =>
      simp only [ProducerThread.Progress, hpoint] at hprogress
      simp only [ProducerThread.Coherent, hpoint] at hcoherent
      exact { h with
        counts := hcounts.afterRead limits deadline target poll reading
        progress := ProducerThread.afterRead_progress limits target poll reading
          hcoherent.2.2.1 hprogress.1 hprogress.2 }
  | callBegun attempt hpoint hcall => exact { h with }
  | callRuns attempt attempt' call call' s hpoint hcall hs => exact { h with }
  | callReturned attempt attempt' call s r hpoint hcall hs =>
      have hsame : attempt' = attempt := hc.attempt_eq hpoint hcall
      subst hsame
      simp only [ProducerThread.Progress, hpoint] at hprogress
      simp only [ProducerThread.Coherent, hpoint] at hcoherent
      obtain ⟨hin, hdeadlines, hsequence, hordinal⟩ := hprogress
      exact { h with
        counts := hcounts.afterAttempt attempt' r
        progress := ProducerThread.afterAttempt_progress attempt' r hcoherent.2.2.1 hin hdeadlines
        numbered := h.numbered.append r hsequence hordinal }
  | storedFailed hpoint =>
      simp only [ProducerThread.Progress, hpoint] at hprogress
      exact { h with counts := ⟨hcounts.1, hcounts.2, hcounts.3⟩, progress := hprogress }
  | storedCancellation hpoint =>
      simp only [ProducerThread.Progress, hpoint] at hprogress
      refine { h with counts := ⟨hcounts.1, hcounts.2, hcounts.3⟩, progress := fun hdone => ?_ }
      rw [hprogress] at hdone
      cases hdone
  | published hpoint =>
      simp only [ProducerThread.Progress, hpoint] at hprogress
      exact { h with counts := ⟨hcounts.1, hcounts.2, hcounts.3⟩, progress := hprogress }

theorem consumer_step (h : Tallied schedule e) (hc : Consistent schedule e) {input : CIn}
    (hstep : ConsumerStep limits input e e') : Tallied schedule e' := by
  have hpolls := h.polls
  have hcoherent := hc.consumer
  cases hstep with
  | arrived hpoint hnew =>
      simp only [ConsumerThread.Coherent, hpoint] at hcoherent
      exact { h with polls := hpolls.workerWait hcoherent.1 limits 0 }
  | cancelledBarrier hpoint => simp only [ConsumerThread.Coherent, hpoint] at hcoherent
  | sawCancelled poll hpoint hcancelled =>
      simp only [ConsumerThread.Coherent, hpoint] at hcoherent
      have hconsumed := hpolls.consumed
      rw [ConsumerThread.countedPolls, hcoherent.1] at hconsumed
      refine { h with polls := ⟨hconsumed, hpolls.candidate, ?_⟩ }
      intro hfailed
      cases hfailed
  | notReleased poll hpoint hreleased =>
      simp only [ConsumerThread.Coherent, hpoint] at hcoherent
      exact { h with polls := hpolls.workerWait hcoherent.1 limits (poll + 1) }
  | callBegun finished hpoint hcall => exact { h with }
  | callRuns finished call call' s hpoint hcall hs => exact { h with }
  | callReturned finished call s r t hpoint hcall hs hpolled =>
      exact { h with polls := hpolls.polled (hcoherent.fresh_of_poll hpoint).1 hpolled }
  -- No other step touches a counter of the consumer.
  | _ => exact { h with polls := ⟨hpolls.consumed, hpolls.candidate, hpolls.failed⟩ }

theorem controller_step (h : Tallied schedule e) {reading : TickRead}
    (hstep : ControllerStep schedule limits reading e e') : Tallied schedule e' := by
  cases hstep <;> exact { h with }

theorem step (h : Tallied schedule e) (hc : Consistent schedule e) {a : ThreadStep PIn CIn}
    (hstep : e.step schedule limits a = some e') : Tallied schedule e' := by
  cases a with
  | producer reading input => exact h.producer_step hc (producerStep_cases hstep)
  | consumer input => exact h.consumer_step hc (consumerStep_cases hstep)
  | controller reading => exact h.controller_step (controllerStep_cases hstep)

end Tallied

theorem Reaches.tallied {e e' : Execution B} (hreach : Reaches schedule limits e e')
    (hc : Consistent schedule e) (h : Tallied schedule e) : Tallied schedule e' :=
  (hreach.induction (I := fun e => Consistent schedule e ∧ Tallied schedule e) ⟨hc, h⟩
    fun _ _ _ ⟨hc, h⟩ hs => ⟨hc.step hs, h.step hc hs⟩).2

end Execution

theorem executeMeasurement_tallied {termination : TerminationControl} {init : B.State}
    {e e' : Execution B} (h : executeMeasurement B schedule limits termination init = .ok e)
    (hreach : e.Reaches schedule limits e') : Execution.Tallied schedule e' := by
  obtain ⟨-, -, rfl⟩ := executeMeasurement_ok h
  exact hreach.tallied (.start limits _ init rfl) (.start limits _ init)

end CpuPrefetch.Lifecycle
