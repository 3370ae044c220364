/-
An attempt is never made early.

The producer computes an arrival's target tick from the measurement origin, and makes
the attempt once it has read that tick or a later one.  If the clock never goes back
from one step of the interleaving to the next, the attempt begins no earlier than its
deadline, counted from the measurement origin.  The clock is a tick that accompanies
the run: a step may only read the tick it is taken at.
-/
import CpuPrefetch.Proofs.Lifecycle.Attribution

namespace CpuPrefetch.Lifecycle

variable {PIn CIn : Type} {B : Backend PIn CIn} {schedule : PreparedScheduleView}
  {limits : ExecutionLimits} {e e' : Execution B} {origin now now' : UInt64}

/-- What the step reads of the executor's clock, unless the read fails, is this tick. -/
def ThreadStep.TicksAt (now : UInt64) : ThreadStep PIn CIn → Prop
  | .producer reading _ | .controller reading => reading.ok = true → reading.ticks = now
  | .consumer _ => True

/-! ### The producer's wait -/

variable {deadline target : UInt64}

/-- A target that does not overflow is the deadline, counted from the measurement origin. -/
theorem checkedMeasurementDeadline_toNat {scheduleOrigin : UInt64}
    (h : checkedMeasurementDeadline origin scheduleOrigin deadline = some target) :
    target.toNat = origin.toNat + (deadline - scheduleOrigin).toNat := by
  unfold checkedMeasurementDeadline at h
  simp only at h
  split at h
  · cases h
  · rename_i hfits
    obtain rfl := Option.some.inj h
    have hlt := origin.toNat_lt
    rw [UInt64.toNat_add, Nat.mod_eq_of_lt (by omega)]

variable {reading : TickRead}

namespace ProducerThread

variable {t : ProducerThread}

/-- The origin the producer works with, its target, and that the target has been read. -/
def Due (schedule : PreparedScheduleView) (origin now : UInt64) (t : ProducerThread) : Prop :=
  match t.point with
  | .loadCancellation _ => t.measurementOrigin = origin
  | .pollCancellation deadline target _ | .readClock deadline target _ =>
      t.measurementOrigin = origin ∧
        target.toNat = origin.toNat + (deadline - schedule.originTicks).toNat
  | .attempt attempt =>
      t.measurementOrigin = origin ∧
        origin.toNat + (attempt.scheduledDeadline - schedule.originTicks).toNat ≤ now.toNat
  | _ => True

theorem Due.mono (h : t.Due schedule origin now) (hle : now ≤ now') :
    t.Due schedule origin now' := by
  unfold Due at h ⊢
  split
  · simp_all
  · simp_all
  · simp_all
  · rename_i attempt hpoint
    simp only [hpoint] at h
    exact ⟨h.1, Nat.le_trans h.2 (UInt64.le_iff_toNat_le.mp hle)⟩
  · trivial

theorem Unstarted.due (h : t.Unstarted) : t.Due schedule origin now := by
  unfold Unstarted at h
  unfold Due
  cases hpoint : t.point <;> simp_all

theorem workerWait_due (limits : ExecutionLimits) (poll : UInt64) :
    (t.workerWait limits poll).Due schedule origin now := by
  rcases t.workerWait_cases limits poll with ⟨-, heq⟩ | ⟨-, heq⟩
  · rw [heq]
    trivial
  · rw [heq]
    trivial

theorem nextArrival_due (h : t.measurementOrigin = origin) :
    t.nextArrival.Due schedule origin now := by
  rcases t.nextArrival_cases with ⟨-, heq⟩ | ⟨deadline, rest, -, heq⟩
  · rw [heq]
    trivial
  · rw [heq]
    exact h

theorem awaitDue_due (limits : ExecutionLimits) (poll : UInt64)
    (horigin : t.measurementOrigin = origin)
    (htarget : target.toNat = origin.toNat + (deadline - schedule.originTicks).toNat) :
    (t.awaitDue limits deadline target poll).Due schedule origin now := by
  rcases t.awaitDue_cases limits deadline target poll with ⟨-, heq⟩ | ⟨-, heq⟩
  · rw [heq]
    exact ⟨horigin, htarget⟩
  · rw [heq]
    trivial

theorem beginArrival_due (limits : ExecutionLimits) (deadline : UInt64)
    (horigin : t.measurementOrigin = origin) :
    (t.beginArrival schedule limits deadline).Due schedule origin now := by
  rcases t.beginArrival_cases schedule limits deadline with heq | ⟨target, htarget, heq⟩
  · rw [heq]
    trivial
  · rw [heq]
    rw [horigin] at htarget
    exact awaitDue_due limits 0 horigin (checkedMeasurementDeadline_toNat htarget)

/-- A reading that has reached the target lets the attempt begin. -/
theorem afterRead_due (limits : ExecutionLimits) (poll : UInt64)
    (horigin : t.measurementOrigin = origin)
    (htarget : target.toNat = origin.toNat + (deadline - schedule.originTicks).toNat)
    (hticks : reading.ok = true → reading.ticks = now) :
    (t.afterRead limits deadline target poll reading).Due schedule origin now := by
  rcases t.afterRead_cases limits deadline target poll reading with
    ⟨-, heq⟩ | ⟨hok, hdue, heq⟩ | ⟨-, -, heq⟩
  · rw [heq]
    trivial
  · rw [heq]
    refine ⟨horigin, ?_⟩
    rw [← htarget, ← hticks hok]
    exact UInt64.le_iff_toNat_le.mp hdue
  · rw [heq]
    exact awaitDue_due limits (poll + 1) horigin htarget

theorem afterAttempt_due (h : t.measurementOrigin = origin) (r : ProducerAttemptResult) :
    (t.afterAttempt r).Due schedule origin now := by
  obtain ⟨status, outcome⟩ := r
  cases status with
  | failure => trivial
  | complete =>
      cases outcome with
      | accepted => exact nextArrival_due h
      | full => exact nextArrival_due h

end ProducerThread

/-! ### Over a whole run -/

/-- The origin the controller has read and not stored yet. -/
def ControllerPoint.originRead : ControllerPoint → Option UInt64
  | .releaseCancelled origin | .releaseReady origin | .storeOrigin origin => some origin
  | _ => none

namespace Execution

/-- Everything read of the clock so far is in the past. -/
structure OnTime (schedule : PreparedScheduleView) (now : UInt64) (e : Execution B) : Prop where
  origin : e.barrier.measurementOriginTicks ≤ now
  read : ∀ origin ∈ e.controller.originRead, origin ≤ now
  due : e.producer.Due schedule e.barrier.measurementOriginTicks now

namespace OnTime

theorem start (limits : ExecutionLimits) (termination : TerminationControl) (init : B.State)
    (now : UInt64) : (Execution.start (B := B) limits termination init).OnTime schedule now := by
  refine ⟨UInt64.le_iff_toNat_le.mpr (Nat.zero_le _), ?_, trivial⟩
  intro origin horigin
  rcases ControllerPoint.controllerWait_cases limits 0 with ⟨-, heq⟩ | ⟨-, heq⟩
  · simp [Execution.start, heq, ControllerPoint.originRead] at horigin
  · simp [Execution.start, heq, ControllerPoint.originRead] at horigin

theorem mono (h : e.OnTime schedule now) (hle : now ≤ now') : e.OnTime schedule now' where
  origin := UInt64.le_trans h.origin hle
  read origin horigin := UInt64.le_trans (h.read origin horigin) hle
  due := h.due.mono hle

theorem producer_step (h : e.OnTime schedule now) {input : PIn}
    (hticks : reading.ok = true → reading.ticks = now)
    (hstep : ProducerStep schedule limits reading input e e') : e'.OnTime schedule now := by
  have hdue := h.due
  refine ⟨?_, ?_, ?_⟩
  · cases hstep <;> exact h.origin
  · cases hstep <;> exact h.read
  · cases hstep with
    | arrived | notReleased => exact ProducerThread.workerWait_due limits _
    | began hpoint => exact ProducerThread.nextArrival_due rfl
    | arrival deadline hpoint =>
        simp only [ProducerThread.Due, hpoint] at hdue
        exact ProducerThread.beginArrival_due limits deadline hdue
    | waits deadline target poll hpoint =>
        simp only [ProducerThread.Due, hpoint] at hdue
        exact hdue
    | reads deadline target poll hpoint =>
        simp only [ProducerThread.Due, hpoint] at hdue
        exact ProducerThread.afterRead_due limits poll hdue.1 hdue.2 hticks
    | callBegun | callRuns => exact hdue
    | callReturned attempt attempt' call s r hpoint =>
        simp only [ProducerThread.Due, hpoint] at hdue
        exact ProducerThread.afterAttempt_due hdue.1 r
    | _ => trivial

theorem consumer_step (h : e.OnTime schedule now) {input : CIn}
    (hstep : ConsumerStep limits input e e') : e'.OnTime schedule now := by
  cases hstep <;> exact ⟨h.origin, h.read, h.due⟩

/-- The origin is stored before the release, when the producer has not begun. -/
theorem controller_step (h : e.OnTime schedule now) (hc : e.Consistent schedule)
    (hticks : reading.ok = true → reading.ticks = now)
    (hstep : ControllerStep schedule limits reading e e') : e'.OnTime schedule now := by
  have hread := h.read
  cases hstep with
  | readOrigin hpoint hok =>
      refine ⟨h.origin, ?_, h.due⟩
      intro origin horigin
      obtain rfl := Option.some.inj horigin
      rw [hticks hok]
      exact UInt64.le_refl now
  | releaseNotCancelled origin hpoint | releaseReady origin hpoint =>
      rw [hpoint] at hread
      exact ⟨h.origin, hread, h.due⟩
  | storedOrigin origin hpoint =>
      rw [hpoint] at hread
      have hreleased : e.barrier.released = false := by
        rw [hc.released, hpoint]
        rfl
      exact ⟨hread origin rfl, nofun, (hc.unstarted hreleased).due⟩
  | notReady poll hpoint =>
      refine ⟨h.origin, ?_, h.due⟩
      intro origin horigin
      rcases ControllerPoint.controllerWait_cases limits (poll + 1) with ⟨-, heq⟩ | ⟨-, heq⟩
      · simp [heq, ControllerPoint.originRead] at horigin
      · simp [heq, ControllerPoint.originRead] at horigin
  | _ => exact ⟨h.origin, nofun, h.due⟩

theorem step (h : e.OnTime schedule now) (hc : e.Consistent schedule)
    {a : ThreadStep PIn CIn} (hticks : a.TicksAt now)
    (hstep : e.step schedule limits a = some e') : e'.OnTime schedule now := by
  cases a with
  | producer reading input => exact h.producer_step hticks (producerStep_cases hstep)
  | consumer input => exact h.consumer_step (consumerStep_cases hstep)
  | controller reading => exact h.controller_step hc hticks (controllerStep_cases hstep)

/-- **An attempt is made at its deadline or later**, counted from the measurement origin. -/
theorem attempt_due (h : e.OnTime schedule now) {attempt : ProducerAttempt}
    (hpoint : e.producer.point = .attempt attempt) :
    attempt.scheduledDeadline - schedule.originTicks ≤
      now - e.barrier.measurementOriginTicks := by
  have hdue := h.due
  simp only [ProducerThread.Due, hpoint] at hdue
  rw [UInt64.le_iff_toNat_le, UInt64.toNat_sub_of_le _ _ h.origin]
  omega

end OnTime

end Execution

end CpuPrefetch.Lifecycle
