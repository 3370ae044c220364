/-
A measurement always stops.

Each thread has a rank of its own that every step it takes lowers and no other thread
can change.  A rank has three levels: the stage of the thread, which counts arrivals
for the producer and items for the consumer; the polls left within a stage; and the
steps left of a backend call.  The consumer's loop has no counter of its own.  An item
resets its count of empty polls, so its stage counts the items it can still get: a
backend hands out no more items than attempts have been begun, and no more attempts
are begun than there are deadlines.

A state in which no thread can move has both workers returned, so the joins return.
-/
import CpuPrefetch.Proofs.Lifecycle.Conservation

namespace CpuPrefetch.Lifecycle

open Bounded

variable {PIn CIn : Type} {B : Backend PIn CIn} {schedule : PreparedScheduleView}
  {limits : ExecutionLimits} {e e' : Execution B}

/-! ### Ranks -/

/-- The stage, the polls left within it, and the steps left of a call. -/
abbrev Rank := Nat × Nat × Nat

namespace Rank

def Lower : Rank → Rank → Prop := Prod.Lex (· < ·) (Prod.Lex (· < ·) (· < ·))

theorem lower_wf : WellFounded Lower :=
  WellFounded.prod_lex Nat.lt_wfRel.wf (WellFounded.prod_lex Nat.lt_wfRel.wf Nat.lt_wfRel.wf)

variable {a : Nat}

theorem Lower.stage {a' : Nat} (h : a' < a) (x x' : Nat × Nat) : Lower (a', x') (a, x) :=
  Prod.Lex.left _ _ h

theorem Lower.within {a' b b' : Nat} (ha : a' = a) (h : b' < b) (c c' : Nat) :
    Lower (a', b', c') (a, b, c) := by
  subst ha
  exact Prod.Lex.right _ (Prod.Lex.left _ _ h)

theorem Lower.call {b c c' : Nat} (h : c' < c) : Lower (a, b, c') (a, b, c) :=
  Prod.Lex.right _ (Prod.Lex.right _ h)

end Rank

/-- A counter below its limit has room for one more. -/
theorem succ_toNat {n limit : UInt64} (h : n < limit) : (n + 1).toNat = n.toNat + 1 := by
  have hlt : n.toNat < limit.toNat := UInt64.lt_iff_toNat_lt.mp h
  have hsize := limit.toNat_lt
  rw [UInt64.toNat_add]
  exact Nat.mod_eq_of_lt (by simp; omega)

/-! ### The producer -/

variable {idle idle' : Bool}

namespace ProducerThread

/-- The polls of both waits stay below their limits. -/
def Polling (limits : ExecutionLimits) (t : ProducerThread) : Prop :=
  match t.point with
  | .pollCancelled poll | .pollReleased poll => poll < limits.workerStartPollLimit
  | .pollCancellation _ _ poll | .readClock _ _ poll =>
      poll < limits.producerDuePollLimitPerArrival
  | _ => True

/-- The arrivals left, above the exit and below the start. -/
def stage (schedule : PreparedScheduleView) (t : ProducerThread) : Nat :=
  match t.point with
  | .arrive => schedule.deadlineTicks.length + 6
  | .cancelBarrier | .pollCancelled _ | .pollReleased _ => schedule.deadlineTicks.length + 5
  | .loadOrigin => schedule.deadlineTicks.length + 4
  | .loadCancellation _ | .pollCancellation _ _ _ | .readClock _ _ _ | .attempt _ =>
      t.remaining.length + 4
  | .storeProducerFailed => 3
  | .storeCancellation => 2
  | .storeStartFailed | .publish => 1
  | .returned => 0

/-- The polls left in the wait this thread is in. -/
def within (limits : ExecutionLimits) (idle : Bool) (t : ProducerThread) : Nat :=
  match t.point with
  | .pollCancelled poll => 2 * (limits.workerStartPollLimit.toNat - poll.toNat) + 1
  | .pollReleased poll => 2 * (limits.workerStartPollLimit.toNat - poll.toNat)
  | .loadCancellation _ => 2 * limits.producerDuePollLimitPerArrival.toNat + 3
  | .pollCancellation _ _ poll =>
      2 * (limits.producerDuePollLimitPerArrival.toNat - poll.toNat) + 2
  | .readClock _ _ poll =>
      2 * (limits.producerDuePollLimitPerArrival.toNat - poll.toNat) + 1
  | .attempt _ => if idle then 1 else 0
  | _ => 0

variable {t : ProducerThread}

theorem workerWait_polling (limits : ExecutionLimits) (t : ProducerThread) (poll : UInt64) :
    (t.workerWait limits poll).Polling limits := by
  rcases t.workerWait_cases limits poll with ⟨hlt, heq⟩ | ⟨-, heq⟩
  · rw [heq]
    exact hlt
  · rw [heq]
    trivial

theorem nextArrival_polling (limits : ExecutionLimits) (t : ProducerThread) :
    t.nextArrival.Polling limits := by
  rcases t.nextArrival_cases with ⟨-, heq⟩ | ⟨deadline, rest, -, heq⟩
  · rw [heq]
    trivial
  · rw [heq]
    trivial

theorem awaitDue_polling (limits : ExecutionLimits) (t : ProducerThread)
    (deadline target poll : UInt64) : (t.awaitDue limits deadline target poll).Polling limits := by
  rcases t.awaitDue_cases limits deadline target poll with ⟨hlt, heq⟩ | ⟨-, heq⟩
  · rw [heq]
    exact hlt
  · rw [heq]
    trivial

theorem beginArrival_polling (schedule : PreparedScheduleView) (limits : ExecutionLimits)
    (t : ProducerThread) (deadline : UInt64) :
    (t.beginArrival schedule limits deadline).Polling limits := by
  rcases t.beginArrival_cases schedule limits deadline with heq | ⟨target, -, heq⟩
  · rw [heq]
    trivial
  · rw [heq]
    exact t.awaitDue_polling limits deadline target 0

theorem afterRead_polling (limits : ExecutionLimits) (t : ProducerThread)
    (deadline target poll : UInt64) (reading : TickRead) :
    (t.afterRead limits deadline target poll reading).Polling limits := by
  rcases t.afterRead_cases limits deadline target poll reading with
    ⟨-, heq⟩ | ⟨-, -, heq⟩ | ⟨-, -, heq⟩
  · rw [heq]
    trivial
  · rw [heq]
    trivial
  · rw [heq]
    exact awaitDue_polling limits _ deadline target (poll + 1)

theorem afterAttempt_polling (limits : ExecutionLimits) (t : ProducerThread)
    (r : ProducerAttemptResult) : (t.afterAttempt r).Polling limits := by
  match r with
  | ⟨.failure, _⟩ => trivial
  | ⟨.complete, .accepted⟩ => exact nextArrival_polling limits _
  | ⟨.complete, .full⟩ => exact nextArrival_polling limits _

/-- A waiting worker goes to its next poll, or leaves the wait. -/
theorem workerWait_lower (schedule : PreparedScheduleView) (poll : UInt64)
    (hpoint : t.point = .pollReleased poll) (hpoll : poll < limits.workerStartPollLimit)
    (c c' : Nat) : Rank.Lower
      ((t.workerWait limits (poll + 1)).stage schedule,
        (t.workerWait limits (poll + 1)).within limits idle', c')
      (t.stage schedule, t.within limits idle, c) := by
  have hsucc := succ_toNat hpoll
  rcases t.workerWait_cases limits (poll + 1) with ⟨hlt, heq⟩ | ⟨-, heq⟩
  · rw [heq]
    refine .within (by simp [stage, hpoint]) ?_ c c'
    rw [UInt64.lt_iff_toNat_lt] at hlt
    simp only [within, hpoint, hsucc]
    omega
  · rw [heq]
    refine .stage ?_ _ _
    simp [stage, hpoint, startFail]

/-- The next arrival has one deadline less. -/
theorem nextArrival_stage (schedule : PreparedScheduleView) (t : ProducerThread) :
    t.nextArrival.stage schedule < t.remaining.length + 4 := by
  rcases t.nextArrival_cases with ⟨hnil, heq⟩ | ⟨deadline, rest, hcons, heq⟩
  · rw [heq]
    simp only [stage]
    omega
  · rw [heq, hcons]
    simp [stage]

/-- The due loop goes to its next poll, or ends. -/
theorem awaitDue_lower (schedule : PreparedScheduleView) (deadline target poll : UInt64) {w : Nat}
    (hw : poll < limits.producerDuePollLimitPerArrival → 2 *
      (limits.producerDuePollLimitPerArrival.toNat - poll.toNat) + 2 < w) (c c' : Nat) : Rank.Lower
      ((t.awaitDue limits deadline target poll).stage schedule,
        (t.awaitDue limits deadline target poll).within limits idle, c')
      (t.remaining.length + 4, w, c) := by
  rcases t.awaitDue_cases limits deadline target poll with ⟨hlt, heq⟩ | ⟨-, heq⟩
  · rw [heq]
    exact .within rfl (hw hlt) c c'
  · rw [heq]
    refine .stage ?_ _ _
    show 3 < t.remaining.length + 4
    omega

theorem afterAttempt_stage (schedule : PreparedScheduleView) (t : ProducerThread)
    (r : ProducerAttemptResult) : (t.afterAttempt r).stage schedule < t.remaining.length + 4 := by
  match r with
  | ⟨.failure, _⟩ =>
      show 3 < t.remaining.length + 4
      omega
  | ⟨.complete, .accepted⟩ => exact nextArrival_stage schedule _
  | ⟨.complete, .full⟩ => exact nextArrival_stage schedule _

end ProducerThread

variable {reading : TickRead}

namespace Execution

/-- The steps left of the producer's call. -/
def attemptRank (e : Execution B) : Nat :=
  match e.client.pcall with
  | none => 0
  | some (_, call) => B.pRank call

def producerRank (schedule : PreparedScheduleView) (limits : ExecutionLimits) (e : Execution B) :
    Rank :=
  (e.producer.stage schedule, e.producer.within limits e.client.pcall.isNone, e.attemptRank)

theorem ProducerStep.lower {input : PIn} (hstep : ProducerStep schedule limits reading input e e')
    (hpolling : e.producer.Polling limits) :
    Rank.Lower (e'.producerRank schedule limits) (e.producerRank schedule limits) := by
  cases hstep with
  | arrived hpoint hnew =>
      refine .stage ?_ _ _
      rcases e.producer.workerWait_cases limits 0 with ⟨-, heq⟩ | ⟨-, heq⟩ <;>
        simp [heq, hpoint, ProducerThread.stage, ProducerThread.startFail]
  | duplicate hpoint hold =>
      refine .stage ?_ _ _
      simp [hpoint, ProducerThread.stage]
  | cancelledBarrier hpoint =>
      refine .stage ?_ _ _
      simp [hpoint, ProducerThread.stage, ProducerThread.startFail]
  | sawCancelled poll hpoint hcancelled =>
      refine .stage ?_ _ _
      simp [hpoint, ProducerThread.stage, ProducerThread.startFail]
  | notCancelled poll hpoint hcancelled =>
      refine .within ?_ ?_ _ _
      · simp [hpoint, ProducerThread.stage]
      · simp [hpoint, ProducerThread.within]
  | sawReleased poll hpoint hreleased =>
      refine .stage ?_ _ _
      simp [hpoint, ProducerThread.stage]
  | notReleased poll hpoint hreleased =>
      simp only [ProducerThread.Polling, hpoint] at hpolling
      exact ProducerThread.workerWait_lower schedule poll hpoint hpolling _ _
  | startFailed hpoint =>
      refine .stage ?_ _ _
      simp [hpoint, ProducerThread.stage]
  | began hpoint =>
      refine .stage ?_ _ _
      rw [show e.producer.stage schedule = schedule.deadlineTicks.length + 4 by
        simp [hpoint, ProducerThread.stage]]
      exact ProducerThread.nextArrival_stage schedule _
  | arrivalCancelled deadline hpoint hcancelled =>
      refine .stage ?_ _ _
      simp only [hpoint, ProducerThread.stage, ProducerThread.fail]
      omega
  | arrival deadline hpoint hcancelled =>
      have hrank : e.producerRank schedule limits = (e.producer.remaining.length + 4,
          2 * limits.producerDuePollLimitPerArrival.toNat + 3, e.attemptRank) := by
        simp only [producerRank, hpoint, ProducerThread.stage, ProducerThread.within]
      rw [hrank]
      rcases e.producer.beginArrival_cases schedule limits deadline with heq | ⟨target, -, heq⟩
      · refine .stage ?_ _ _
        simp only [heq, ProducerThread.stage, ProducerThread.fail]
        omega
      · simp only [producerRank, heq]
        refine ProducerThread.awaitDue_lower schedule deadline target 0 (fun _ => ?_) _ _
        simp
  | waitCancelled deadline target poll hpoint hcancelled =>
      refine .stage ?_ _ _
      simp only [hpoint, ProducerThread.stage, ProducerThread.fail]
      omega
  | waits deadline target poll hpoint hcancelled =>
      refine .within ?_ ?_ _ _
      · simp [hpoint, ProducerThread.stage]
      · simp [hpoint, ProducerThread.within]
  | reads deadline target poll hpoint =>
      simp only [ProducerThread.Polling, hpoint] at hpolling
      have hsucc := succ_toNat hpolling
      have hrank : e.producerRank schedule limits = (e.producer.remaining.length + 4,
          2 * (limits.producerDuePollLimitPerArrival.toNat - poll.toNat) + 1, e.attemptRank) := by
        simp only [producerRank, hpoint, ProducerThread.stage, ProducerThread.within]
      rw [hrank]
      rcases e.producer.afterRead_cases limits deadline target poll reading with
        ⟨-, heq⟩ | ⟨-, -, heq⟩ | ⟨-, -, heq⟩
      · refine .stage ?_ _ _
        simp only [heq, ProducerThread.stage, ProducerThread.fail]
        omega
      · refine .within ?_ ?_ _ _
        · simp [heq, ProducerThread.stage]
        · rw [UInt64.lt_iff_toNat_lt] at hpolling
          simp only [heq, ProducerThread.within]
          split <;> omega
      · simp only [producerRank, heq]
        refine ProducerThread.awaitDue_lower (t := { e.producer with
          state := { e.producer.state with waitPolls := e.producer.state.waitPolls + 1 } })
          schedule deadline target (poll + 1) (fun hlt => ?_) _ _
        rw [UInt64.lt_iff_toNat_lt, hsucc] at hlt
        rw [hsucc]
        omega
  | callBegun attempt hpoint hcall =>
      refine .within rfl ?_ _ _
      simp [hpoint, hcall, ProducerThread.within]
  | callRuns attempt attempt' call call' s hpoint hcall hs =>
      have hlt := B.pRank_lt _ _ _ _ _ hs
      simp only [producerRank, attemptRank, hcall]
      exact .call hlt
  | callReturned attempt attempt' call s r hpoint hcall hs =>
      refine .stage ?_ _ _
      rw [show e.producer.stage schedule = e.producer.remaining.length + 4 by
        simp [hpoint, ProducerThread.stage]]
      exact ProducerThread.afterAttempt_stage schedule e.producer r
  | storedFailed hpoint =>
      refine .stage ?_ _ _
      simp [hpoint, ProducerThread.stage]
  | storedCancellation hpoint =>
      refine .stage ?_ _ _
      simp [hpoint, ProducerThread.stage]
  | published hpoint =>
      refine .stage ?_ _ _
      simp [hpoint, ProducerThread.stage]

end Execution

/-! ### The consumer -/

namespace ConsumerThread

/-- The polls of the wait and the empty polls of the loop stay below their limits. -/
def Polling (limits : ExecutionLimits) (t : ConsumerThread) : Prop :=
  match t.point with
  | .pollCancelled poll | .pollReleased poll =>
      poll < limits.workerStartPollLimit ∧
        t.emptyBeforeFinish < limits.consumerEmptyPollLimitBeforeFinish
  | .arrive | .loadFinished | .loadProducerFailed | .poll _ =>
      t.emptyBeforeFinish < limits.consumerEmptyPollLimitBeforeFinish
  | _ => True

/-- The items left to poll, above the exit and below the start. -/
def stage (schedule : PreparedScheduleView) (items : Nat) (t : ConsumerThread) : Nat :=
  match t.point with
  | .arrive => schedule.deadlineTicks.length + 6
  | .cancelBarrier | .pollCancelled _ | .pollReleased _ => schedule.deadlineTicks.length + 5
  | .loadFinished | .loadProducerFailed | .poll _ => schedule.deadlineTicks.length - items + 3
  | .reloadFinished => 2
  | .storeStartCancellation | .storeCancellation => 1
  | .returned => 0

/-- The polls left before the wait or the run of empty polls expires. -/
def within (limits : ExecutionLimits) (idle : Bool) (t : ConsumerThread) : Nat :=
  let empties := limits.consumerEmptyPollLimitBeforeFinish.toNat - t.emptyBeforeFinish.toNat
  match t.point with
  | .pollCancelled poll => 2 * (limits.workerStartPollLimit.toNat - poll.toNat) + 1
  | .pollReleased poll => 2 * (limits.workerStartPollLimit.toNat - poll.toNat)
  | .loadFinished => 4 * empties + 3
  | .loadProducerFailed => 4 * empties + 2
  | .poll _ => 4 * empties + if idle then 1 else 0
  | _ => 0

variable {t t' : ConsumerThread}

theorem workerWait_polling (limits : ExecutionLimits) (poll : UInt64)
    (hempty : t.emptyBeforeFinish < limits.consumerEmptyPollLimitBeforeFinish) :
    (t.workerWait limits poll).Polling limits := by
  rcases t.workerWait_cases limits poll with ⟨hlt, heq⟩ | ⟨-, heq⟩
  · rw [heq]
    exact ⟨hlt, hempty⟩
  · rw [heq]
    trivial

theorem Polled.polling {finished : Bool} {r : ConsumerPollResult}
    (hpolled : t.Polled limits finished r t')
    (hempty : t.emptyBeforeFinish < limits.consumerEmptyPollLimitBeforeFinish) :
    t'.Polling limits := by
  have hlimit := UInt64.lt_iff_toNat_lt.mp hempty
  cases hpolled with
  | item _ hlimit' =>
      show (0 : UInt64) < _
      rw [UInt64.lt_iff_toNat_lt]
      exact Nat.lt_of_le_of_lt (Nat.zero_le _) hlimit
  | empty hmore =>
      show t.emptyBeforeFinish + 1 < _
      exact UInt64.not_le.mp hmore
  | _ => trivial

theorem workerWait_lower (schedule : PreparedScheduleView) (items : Nat) (poll : UInt64)
    (hpoint : t.point = .pollReleased poll) (hpoll : poll < limits.workerStartPollLimit)
    (c c' : Nat) : Rank.Lower
      ((t.workerWait limits (poll + 1)).stage schedule items,
        (t.workerWait limits (poll + 1)).within limits idle', c')
      (t.stage schedule items, t.within limits idle, c) := by
  have hsucc := succ_toNat hpoll
  rcases t.workerWait_cases limits (poll + 1) with ⟨hlt, heq⟩ | ⟨-, heq⟩
  · rw [heq]
    refine .within (by simp [stage, hpoint]) ?_ c c'
    rw [UInt64.lt_iff_toNat_lt] at hlt
    simp only [within, hpoint, hsucc]
    omega
  · rw [heq]
    refine .stage ?_ _ _
    simp [stage, hpoint, startFail]

/-- A poll brings an item, ends the loop, or uses up one of the empty polls. -/
theorem Polled.lower {finished : Bool} {r : ConsumerPollResult}
    (hpolled : t.Polled limits finished r t') (hpoint : t.point = .poll finished)
    (hempty : t.emptyBeforeFinish < limits.consumerEmptyPollLimitBeforeFinish) (items : Nat)
    (hitems : items + (if r.isItem then 1 else 0) ≤ schedule.deadlineTicks.length) (c c' : Nat) :
    Rank.Lower
      (t'.stage schedule (items + if r.isItem then 1 else 0), t'.within limits idle', c')
      (t.stage schedule items, t.within limits idle, c) := by
  have hsucc := succ_toNat hempty
  cases hpolled with
  | item _ hlimit =>
      refine .stage ?_ _ _
      simp only [ConsumerPollResult.isItem, decide_true, if_true] at hitems
      simp only [stage, hpoint, ConsumerPollResult.isItem, decide_true, if_true]
      omega
  | empty hmore =>
      refine .within ?_ ?_ c c'
      · simp [stage, hpoint, ConsumerPollResult.isItem]
      · have hlt : t.emptyBeforeFinish + 1 < _ := UInt64.not_le.mp hmore
        rw [UInt64.lt_iff_toNat_lt, hsucc] at hlt
        simp only [within, hpoint, hsucc]
        omega
  | _ =>
      refine .stage ?_ _ _
      simp only [stage, hpoint, fail]
      omega

end ConsumerThread

namespace Execution

/-- The steps left of the consumer's call. -/
def pollRank (e : Execution B) : Nat :=
  match e.client.ccall with
  | none => 0
  | some call => B.cRank call

def consumerRank (schedule : PreparedScheduleView) (limits : ExecutionLimits) (e : Execution B) :
    Rank :=
  (e.consumer.stage schedule e.items, e.consumer.within limits e.client.ccall.isNone, e.pollRank)

theorem ConsumerStep.lower {input : CIn} (hstep : ConsumerStep limits input e e')
    (hpolling : e.consumer.Polling limits) (hitems : e'.items ≤ schedule.deadlineTicks.length) :
    Rank.Lower (e'.consumerRank schedule limits) (e.consumerRank schedule limits) := by
  cases hstep with
  | arrived hpoint hnew =>
      refine .stage ?_ _ _
      rcases e.consumer.workerWait_cases limits 0 with ⟨-, heq⟩ | ⟨-, heq⟩ <;>
        simp [heq, hpoint, ConsumerThread.stage, ConsumerThread.startFail]
  | duplicate hpoint hold =>
      refine .stage ?_ _ _
      simp [hpoint, ConsumerThread.stage]
  | cancelledBarrier hpoint =>
      refine .stage ?_ _ _
      simp [hpoint, ConsumerThread.stage, ConsumerThread.startFail]
  | sawCancelled poll hpoint hcancelled =>
      refine .stage ?_ _ _
      simp [hpoint, ConsumerThread.stage, ConsumerThread.startFail]
  | notCancelled poll hpoint hcancelled =>
      refine .within ?_ ?_ _ _
      · simp only [hpoint, ConsumerThread.stage]
      · simp [hpoint, ConsumerThread.within]
  | sawReleased poll hpoint hreleased =>
      refine .stage ?_ _ _
      simp only [hpoint, ConsumerThread.stage]
      omega
  | notReleased poll hpoint hreleased =>
      simp only [ConsumerThread.Polling, hpoint] at hpolling
      exact ConsumerThread.workerWait_lower schedule e.items poll hpoint hpolling.1 _ _
  | startFailed hpoint =>
      refine .stage ?_ _ _
      simp [hpoint, ConsumerThread.stage]
  | sawFinished hpoint hfinished =>
      refine .within ?_ ?_ _ _
      · simp only [hpoint, ConsumerThread.stage]
        rfl
      · simp [hpoint, ConsumerThread.within]
  | notFinished hpoint hfinished =>
      refine .within ?_ ?_ _ _
      · simp only [hpoint, ConsumerThread.stage]
        rfl
      · simp only [hpoint, ConsumerThread.within]
        split <;> omega
  | sawProducerFailed hpoint hfailed =>
      refine .stage ?_ _ _
      simp [hpoint, ConsumerThread.stage]
  | producerFine hpoint hfailed =>
      refine .within ?_ ?_ _ _
      · simp only [hpoint, ConsumerThread.stage]
        rfl
      · simp only [hpoint, ConsumerThread.within]
        split <;> omega
  | callBegun finished hpoint hcall =>
      refine .within rfl ?_ _ _
      simp [hpoint, hcall, ConsumerThread.within]
  | callRuns finished call call' s hpoint hcall hs =>
      have hlt := B.cRank_lt _ _ _ _ _ hs
      simp only [consumerRank, pollRank, hcall]
      exact .call hlt
  | callReturned finished call s r t hpoint hcall hs hpolled =>
      have hcount : ∀ e'' : Execution B, e''.client.dequeued = e.client.dequeued ++ [r] →
          e''.items = e.items + if r.isItem then 1 else 0 := by
        intro e'' heq
        simp [items, heq, List.countP_cons]
      simp only [ConsumerThread.Polling, hpoint] at hpolling
      rw [hcount _ rfl] at hitems
      simp only [consumerRank]
      rw [hcount _ rfl]
      exact hpolled.lower hpoint hpolling e.items hitems _ _
  | reloaded hpoint =>
      refine .stage ?_ _ _
      simp [hpoint, ConsumerThread.stage]
  | storedCancellation hpoint =>
      refine .stage ?_ _ _
      simp [hpoint, ConsumerThread.stage]

end Execution

/-! ### The controller -/

namespace ControllerPoint

def Polling (limits : ExecutionLimits) : ControllerPoint → Prop
  | .waitCancelled poll | .waitReady poll => poll < limits.controllerStartPollLimit
  | _ => True

def rank (limits : ExecutionLimits) : ControllerPoint → Nat
  | .waitCancelled poll => 2 * (limits.controllerStartPollLimit.toNat - poll.toNat) + 14
  | .waitReady poll => 2 * (limits.controllerStartPollLimit.toNat - poll.toNat) + 13
  | .readOrigin => 12
  | .releaseCancelled _ => 11
  | .releaseReady _ => 10
  | .storeOrigin _ => 9
  | .storeReleased _ => 8
  | .joinProducer _ => 7
  | .joinConsumer _ => 6
  | .loadCancellation _ => 5
  | .abortCancellation _ => 4
  | .abortBarrier _ => 3
  | .abortJoinProducer _ => 2
  | .abortJoinConsumer _ => 1
  | .returned _ | .aborted _ => 0

theorem controllerWait_polling (limits : ExecutionLimits) (poll : UInt64) :
    (controllerWait limits poll).Polling limits := by
  rcases controllerWait_cases limits poll with ⟨hlt, heq⟩ | ⟨-, heq⟩
  · rw [heq]
    exact hlt
  · rw [heq]
    trivial

theorem controllerWait_rank {poll : UInt64} (hpoll : poll < limits.controllerStartPollLimit) :
    (controllerWait limits (poll + 1)).rank limits < (waitReady poll).rank limits := by
  have hsucc := succ_toNat hpoll
  rcases controllerWait_cases limits (poll + 1) with ⟨hlt, heq⟩ | ⟨-, heq⟩
  · rw [heq]
    rw [UInt64.lt_iff_toNat_lt, hsucc] at hlt
    simp only [rank, hsucc]
    omega
  · rw [heq]
    simp only [rank]
    omega

end ControllerPoint

namespace Execution

theorem ControllerStep.lower (hstep : ControllerStep schedule limits reading e e')
    (hpolling : e.controller.Polling limits) :
    e'.controller.rank limits < e.controller.rank limits := by
  cases hstep with
  | notReady poll hpoint hready =>
      rw [hpoint] at hpolling ⊢
      exact ControllerPoint.controllerWait_rank hpolling
  | sawCancelled poll hpoint hcancelled =>
      simp only [hpoint, ControllerPoint.rank]
      omega
  | ready poll hpoint hready =>
      simp only [hpoint, ControllerPoint.rank]
      omega
  | _ => simp_all [ControllerPoint.rank]

/-! ### Every step lowers one rank -/

/-- The counters of the three waits are within their limits, and attempts within the schedule. -/
structure Polling (schedule : PreparedScheduleView) (limits : ExecutionLimits)
    (e : Execution B) : Prop where
  producer : e.producer.Polling limits
  consumer : e.consumer.Polling limits
  controller : e.controller.Polling limits
  begun : e.begun ≤ schedule.deadlineTicks.length

theorem Polling.start (hlimits : limits.invalid = false) (init : B.State) :
    (Execution.start (B := B) limits ⟨0⟩ init).Polling schedule limits := by
  refine ⟨trivial, ?_, ControllerPoint.controllerWait_polling limits 0, Nat.zero_le _⟩
  show (0 : UInt64) < limits.consumerEmptyPollLimitBeforeFinish
  have hne : limits.consumerEmptyPollLimitBeforeFinish ≠ 0 := by
    intro hzero
    simp [ExecutionLimits.invalid, hzero] at hlimits
  exact UInt64.pos_iff_ne_zero.mpr hne

theorem Polling.producer_step (h : e.Polling schedule limits) (ht : e.Tallied schedule)
    {input : PIn} (hstep : ProducerStep schedule limits reading input e e') :
    e'.Polling schedule limits := by
  obtain ⟨hproducer, hconsumer, hcontroller, hbegun⟩ := h
  cases hstep with
  | arrived hpoint hnew =>
      exact ⟨e.producer.workerWait_polling limits 0, hconsumer, hcontroller, hbegun⟩
  | notCancelled poll hpoint hcancelled =>
      simp only [ProducerThread.Polling, hpoint] at hproducer
      exact ⟨hproducer, hconsumer, hcontroller, hbegun⟩
  | notReleased poll hpoint hreleased =>
      exact ⟨e.producer.workerWait_polling limits (poll + 1), hconsumer, hcontroller, hbegun⟩
  | began hpoint =>
      exact ⟨ProducerThread.nextArrival_polling limits _, hconsumer, hcontroller, hbegun⟩
  | arrival deadline hpoint hcancelled =>
      exact ⟨e.producer.beginArrival_polling schedule limits deadline, hconsumer, hcontroller,
        hbegun⟩
  | waits deadline target poll hpoint hcancelled =>
      simp only [ProducerThread.Polling, hpoint] at hproducer
      exact ⟨hproducer, hconsumer, hcontroller, hbegun⟩
  | reads deadline target poll hpoint =>
      exact ⟨e.producer.afterRead_polling limits deadline target poll reading, hconsumer,
        hcontroller, hbegun⟩
  | callBegun attempt hpoint hcall =>
      refine ⟨hproducer, hconsumer, hcontroller, ?_⟩
      -- The attempt is for a deadline that none of the answered attempts was for.
      have hprogress := ht.progress
      simp only [ProducerThread.Progress, hpoint] at hprogress
      show e.client.enqueued.length + 1 ≤ _
      rw [hprogress.2.1]
      simp [Answered.deadlines]
  | callRuns attempt attempt' call call' s hpoint hcall hs =>
      refine ⟨hproducer, hconsumer, hcontroller, ?_⟩
      simpa [Execution.begun, hcall] using hbegun
  | callReturned attempt attempt' call s r hpoint hcall hs =>
      refine ⟨e.producer.afterAttempt_polling limits r, hconsumer, hcontroller, ?_⟩
      simpa [Execution.begun, hcall] using hbegun
  | _ => exact ⟨trivial, hconsumer, hcontroller, hbegun⟩

theorem Polling.consumer_step (h : e.Polling schedule limits) {input : CIn}
    (hstep : ConsumerStep limits input e e') : e'.Polling schedule limits := by
  obtain ⟨hproducer, hconsumer, hcontroller, hbegun⟩ := h
  cases hstep with
  | arrived hpoint hnew =>
      simp only [ConsumerThread.Polling, hpoint] at hconsumer
      exact ⟨hproducer, ConsumerThread.workerWait_polling limits 0 hconsumer, hcontroller, hbegun⟩
  | notReleased poll hpoint hreleased =>
      simp only [ConsumerThread.Polling, hpoint] at hconsumer
      exact ⟨hproducer, ConsumerThread.workerWait_polling limits (poll + 1) hconsumer.2,
        hcontroller, hbegun⟩
  | sawReleased poll hpoint hreleased =>
      simp only [ConsumerThread.Polling, hpoint] at hconsumer
      exact ⟨hproducer, hconsumer.2, hcontroller, hbegun⟩
  | callReturned finished call s r t hpoint hcall hs hpolled =>
      simp only [ConsumerThread.Polling, hpoint] at hconsumer
      exact ⟨hproducer, hpolled.polling hconsumer, hcontroller, hbegun⟩
  | callBegun finished hpoint hcall => exact ⟨hproducer, hconsumer, hcontroller, hbegun⟩
  | callRuns finished call call' s hpoint hcall hs =>
      exact ⟨hproducer, hconsumer, hcontroller, hbegun⟩
  | notCancelled poll hpoint hcancelled =>
      simp only [ConsumerThread.Polling, hpoint] at hconsumer
      exact ⟨hproducer, hconsumer, hcontroller, hbegun⟩
  | sawFinished hpoint hfinished =>
      simp only [ConsumerThread.Polling, hpoint] at hconsumer
      exact ⟨hproducer, hconsumer, hcontroller, hbegun⟩
  | notFinished hpoint hfinished =>
      simp only [ConsumerThread.Polling, hpoint] at hconsumer
      exact ⟨hproducer, hconsumer, hcontroller, hbegun⟩
  | producerFine hpoint hfailed =>
      simp only [ConsumerThread.Polling, hpoint] at hconsumer
      exact ⟨hproducer, hconsumer, hcontroller, hbegun⟩
  | _ => exact ⟨hproducer, trivial, hcontroller, hbegun⟩

theorem Polling.controller_step (h : e.Polling schedule limits)
    (hstep : ControllerStep schedule limits reading e e') : e'.Polling schedule limits := by
  obtain ⟨hproducer, hconsumer, hcontroller, hbegun⟩ := h
  cases hstep with
  | notCancelled poll hpoint hcancelled =>
      rw [hpoint] at hcontroller
      exact ⟨hproducer, hconsumer, hcontroller, hbegun⟩
  | notReady poll hpoint hready =>
      exact ⟨hproducer, hconsumer, ControllerPoint.controllerWait_polling limits (poll + 1), hbegun⟩
  | _ => exact ⟨hproducer, hconsumer, trivial, hbegun⟩

theorem Polling.step (h : e.Polling schedule limits) (ht : e.Tallied schedule)
    {a : ThreadStep PIn CIn} (hstep : e.step schedule limits a = some e') :
    e'.Polling schedule limits := by
  cases a with
  | producer reading input => exact h.producer_step ht (producerStep_cases hstep)
  | consumer input => exact h.consumer_step (consumerStep_cases hstep)
  | controller reading => exact h.controller_step (controllerStep_cases hstep)

/-- The three ranks together: a step lowers one of them and leaves the others alone. -/
def ranks (schedule : PreparedScheduleView) (limits : ExecutionLimits) (e : Execution B) :
    Rank × Rank × Nat :=
  (e.producerRank schedule limits, e.consumerRank schedule limits, e.controller.rank limits)

def LowerOne : Rank × Rank × Nat → Rank × Rank × Nat → Prop :=
  Prod.GameAdd Rank.Lower (Prod.GameAdd Rank.Lower (· < ·))

theorem lowerOne_wf : WellFounded LowerOne :=
  Rank.lower_wf.prod_gameAdd (Rank.lower_wf.prod_gameAdd Nat.lt_wfRel.wf)

theorem Polling.lower (h : e.Polling schedule limits) {a : ThreadStep PIn CIn}
    (hstep : e.step schedule limits a = some e')
    (hitems : e'.items ≤ schedule.deadlineTicks.length) :
    LowerOne (e'.ranks schedule limits) (e.ranks schedule limits) := by
  cases a with
  | producer reading input =>
      have hcases := producerStep_cases hstep
      have hframe : e'.consumerRank schedule limits = e.consumerRank schedule limits ∧
          e'.controller = e.controller := by
        cases hcases <;> exact ⟨rfl, rfl⟩
      unfold ranks
      rw [hframe.1, hframe.2]
      exact Prod.GameAdd.fst (hcases.lower h.producer)
  | consumer input =>
      have hcases := consumerStep_cases hstep
      have hframe : e'.producerRank schedule limits = e.producerRank schedule limits ∧
          e'.controller = e.controller := by
        cases hcases <;> exact ⟨rfl, rfl⟩
      unfold ranks
      rw [hframe.1, hframe.2]
      exact Prod.GameAdd.snd (Prod.GameAdd.fst (hcases.lower h.consumer hitems))
  | controller reading =>
      have hcases := controllerStep_cases hstep
      have hframe : e'.producerRank schedule limits = e.producerRank schedule limits ∧
          e'.consumerRank schedule limits = e.consumerRank schedule limits := by
        cases hcases <;> exact ⟨rfl, rfl⟩
      unfold ranks
      rw [hframe.1, hframe.2]
      exact Prod.GameAdd.snd (Prod.GameAdd.snd (hcases.lower h.controller))

/-! ### Nobody is left waiting -/

/-- A worker that has not returned can take its next step. -/
theorem producerStep_isSome (schedule : PreparedScheduleView) (limits : ExecutionLimits)
    (h : e.producer.point ≠ .returned) (reading : TickRead) (input : PIn) :
    (e.producerStep schedule limits reading input).isSome := by
  unfold producerStep
  cases hpoint : e.producer.point <;> simp_all

theorem consumerStep_isSome (limits : ExecutionLimits) (h : e.consumer.point ≠ .returned)
    (input : CIn) : (e.consumerStep limits input).isSome := by
  unfold consumerStep
  cases hpoint : e.consumer.point <;> simp_all

/-- The joins return once both workers have. -/
theorem controllerStep_isSome (schedule : PreparedScheduleView) (limits : ExecutionLimits)
    (hp : e.producer.point = .returned) (hc : e.consumer.point = .returned)
    (h : e.report? = none) (reading : TickRead) :
    (e.controllerStep schedule limits reading).isSome := by
  unfold report? at h
  unfold controllerStep
  cases hpoint : e.controller <;> simp_all

/-- An execution in which no thread can move has returned its report. -/
theorem report_of_stuck [Nonempty PIn] [Nonempty CIn]
    (hstuck : ∀ e', ¬Next schedule limits e e') :
    e.producer.point = .returned ∧ e.consumer.point = .returned ∧ ∃ r, e.report? = some r := by
  obtain ⟨input⟩ := ‹Nonempty PIn›
  obtain ⟨input'⟩ := ‹Nonempty CIn›
  have hnone : ∀ a, e.step schedule limits a = none := by
    intro a
    cases hstep : e.step schedule limits a with
    | none => rfl
    | some e' => exact absurd ⟨a, hstep⟩ (hstuck e')
  have hp : e.producer.point = .returned := by
    by_contra hrunning
    have hsome := producerStep_isSome schedule limits hrunning ⟨true, 0⟩ input
    have hblocked := hnone (.producer ⟨true, 0⟩ input)
    simp only [Execution.step] at hblocked
    rw [hblocked] at hsome
    cases hsome
  have hc : e.consumer.point = .returned := by
    by_contra hrunning
    have hsome := consumerStep_isSome limits hrunning input'
    have hblocked := hnone (.consumer input')
    simp only [Execution.step] at hblocked
    rw [hblocked] at hsome
    cases hsome
  refine ⟨hp, hc, ?_⟩
  by_contra hreport
  have hsome := controllerStep_isSome schedule limits hp hc
    (Option.eq_none_iff_forall_ne_some.mpr fun r hr => hreport ⟨r, hr⟩) ⟨true, 0⟩
  have hblocked := hnone (.controller ⟨true, 0⟩)
  simp only [Execution.step] at hblocked
  rw [hblocked] at hsome
  cases hsome

end Execution

/--
**A measurement always stops.**  Over a backend that never hands out more items than
attempts have been begun, the steps from any start are well founded, and where no
thread can move both workers have returned and so has the controller.
-/
theorem measurement_stops [Nonempty PIn] [Nonempty CIn] (B : Backend PIn CIn)
    (schedule : PreparedScheduleView) (limits : ExecutionLimits)
    (termination : TerminationControl) (init : B.State) (e : Execution B)
    (hok : executeMeasurement B schedule limits termination init = .ok e)
    (hitems : ∀ e', e.Reaches schedule limits e' → e'.items ≤ e'.begun) :
    WellFounded (fun e₂ e₁ : Execution B =>
        e.Reaches schedule limits e₁ ∧ e₁.Next schedule limits e₂) ∧
      ∀ e', e.Reaches schedule limits e' → (∀ e'', ¬e'.Next schedule limits e'') →
        e'.producer.point = .returned ∧ e'.consumer.point = .returned ∧
          ∃ report, e'.report? = some report := by
  have hlimits := (executeMeasurement_ok hok).2.1
  have hpolling : ∀ e', e.Reaches schedule limits e' → e'.Polling schedule limits := by
    intro e' hreach
    induction hreach with
    | refl =>
        obtain ⟨-, -, rfl⟩ := executeMeasurement_ok hok
        exact .start hlimits init
    | tail hreach hnext ih =>
        obtain ⟨a, hstep⟩ := hnext
        exact ih.step (executeMeasurement_tallied hok hreach) hstep
  refine ⟨?_, fun e' _ hstuck => Execution.report_of_stuck hstuck⟩
  refine Subrelation.wf (fun {e₂ e₁} hnext => ?_)
    (InvImage.wf (Execution.ranks schedule limits) Execution.lowerOne_wf)
  obtain ⟨hreach, a, hstep⟩ := hnext
  have hreach₂ := hreach.tail ⟨a, hstep⟩
  have hbound := Nat.le_trans (hitems e₂ hreach₂) (hpolling e₂ hreach₂).begun
  exact (hpolling e₁ hreach).lower hstep hbound

/-- Over the plain bounded queue a measurement of one arrival stops. -/
theorem measurement_stops_bounded :
    WellFounded (fun e₂ e₁ : Execution (bounded 2) =>
        (startOf 2).Reaches oneArrival onePoll e₁ ∧
          e₁.Next oneArrival onePoll e₂) ∧
      ∀ e', (startOf 2).Reaches oneArrival onePoll e' →
        (∀ e'', ¬e'.Next oneArrival onePoll e'') →
        e'.producer.point = .returned ∧ e'.consumer.point = .returned ∧
          ∃ report, e'.report? = some report :=
  measurement_stops (bounded 2) oneArrival onePoll ⟨0⟩ [] (startOf 2) rfl
    fun _ hreach => by
      obtain ⟨_, _, _, _, hdelivers⟩ := hreach.delivers (boundedFifo 2)
      exact hdelivers.items_le_begun

end CpuPrefetch.Lifecycle
