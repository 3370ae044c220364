/-
The order of the timestamps in the two streams.

A capture reads its clock around the queue operation it makes, and the operation asks
its observer for one more reading at its boundary: an enqueue before it publishes, a
dequeue after it has seen an event.  If the readings never go back, the readings of
one capture are in the order in which they are made.  Across the two threads more is
needed: the reading a dequeue's observer makes is never before that of the enqueue
that published the event.  The event was in the queue when the observer was asked,
and everything in the queue was read in the past.

So every record in the queue is carried as an entry with the reading of its enqueue,
and the k-th consumer row is paired with the k-th entry.
-/
import CpuPrefetch.Proofs.Lifecycle.Deadlines
import CpuPrefetch.Proofs.Storage.Rows

namespace CpuPrefetch.Storage

open Lifecycle (Answered ProducerAttempt ProducerAttemptResult ConsumerPollResult Execution
  PreparedScheduleView ExecutionLimits TerminationControl ThreadStep)
open Queue (Package PackageSim EnqueueResult)
open Spsc (Places Takes)
open Timing (ClockReadResult ClockSample DueArrival DueCapture PollCapture ProducerObservation
  ConsumerObservation producerObservation)
open Workload (EventArena ConsumerState)
open CapturingObservationBackend

variable {P : Package Nat} {arena : EventArena} {capacity : Nat} {init : P.State}
  {S : PackageSim P capacity init} {now now' : UInt64} {input : ClockReadResult}

/-- The reading, unless it failed, was made at this time. -/
def ReadAt (now : UInt64) (reading : ClockReadResult) : Prop :=
  reading.isOk = true → reading.sample.relativePicoseconds = now

/-- The reading was made after the invocation, and in the past. -/
structure Within (invoked : ClockSample) (reading : ClockReadResult) (now : UInt64) : Prop where
  after : invoked.relativePicoseconds ≤ reading.sample.relativePicoseconds
  past : reading.sample.relativePicoseconds ≤ now

variable {invoked : ClockSample} {reading : ClockReadResult}

theorem Within.mono (h : Within invoked reading now) (hle : now ≤ now') :
    Within invoked reading now' :=
  ⟨h.after, UInt64.le_trans h.past hle⟩

/-- A reading made now is made after everything in the past. -/
theorem ReadAt.within (h : ReadAt now input) (hok : input.isOk = true)
    (hpast : invoked.relativePicoseconds ≤ now) : Within invoked input now := by
  have heq := h hok
  exact ⟨by rw [heq]; exact hpast, by rw [heq]; exact UInt64.le_refl now⟩

/-! ### The readings of one attempt -/

/-- The readings of a producer row are in protocol order. -/
structure ProducerOrder (row : ProducerObservation) : Prop where
  due : row.scheduledArrival ≤ row.producerHandleBegin.relativePicoseconds
  lookup : row.producerHandleBegin.relativePicoseconds ≤
    row.recordLookupCompletion.relativePicoseconds
  invoked : row.recordLookupCompletion.relativePicoseconds ≤
    row.enqueueInvocation.relativePicoseconds
  completed : row.enqueueInvocation.relativePicoseconds ≤
    row.enqueueAttemptCompletion.relativePicoseconds
  linearized : ∀ linearization ∈ row.enqueueLinearization,
    row.enqueueInvocation.relativePicoseconds ≤ linearization.relativePicoseconds ∧
      linearization.relativePicoseconds ≤ row.enqueueAttemptCompletion.relativePicoseconds

/-- The readings an attempt makes before it calls the queue are in order, and in the past. -/
structure Invoked (due : DueArrival) (begun lookup invoked : ClockSample) (now : UInt64) :
    Prop where
  arrived : due.scheduledArrival ≤ begun.relativePicoseconds
  looked : begun.relativePicoseconds ≤ lookup.relativePicoseconds
  called : lookup.relativePicoseconds ≤ invoked.relativePicoseconds
  past : invoked.relativePicoseconds ≤ now

theorem Invoked.mono {due : DueArrival} {begun lookup : ClockSample}
    (h : Invoked due begun lookup invoked now) (hle : now ≤ now') :
    Invoked due begun lookup invoked now' :=
  ⟨h.arrived, h.looked, h.called, UInt64.le_trans h.past hle⟩

/-- The readings a running attempt has made are in order, and in the past. -/
def AttemptInOrder (S : PackageSim P capacity init) (now : UInt64) : DueCapture P → Prop
  | .handleBegin due => due.scheduledArrival ≤ now
  | .recordLookup due begun =>
      due.scheduledArrival ≤ begun.relativePicoseconds ∧ begun.relativePicoseconds ≤ now
  | .invocation due begun lookup _ _ => Invoked due begun lookup lookup now
  | .enqueue due begun lookup invoked _ _ reading call =>
      Invoked due begun lookup invoked now ∧
        (S.pObserved call = true → Within invoked reading now)
  | .completion due begun lookup invoked _ reading result =>
      Invoked due begun lookup invoked now ∧ (result = .accepted → Within invoked reading now)

theorem AttemptInOrder.mono {call : DueCapture P} (h : AttemptInOrder S now call)
    (hle : now ≤ now') : AttemptInOrder S now' call := by
  cases call with
  | handleBegin due => exact UInt64.le_trans h hle
  | recordLookup due begun => exact ⟨h.1, UInt64.le_trans h.2 hle⟩
  | invocation due begun lookup recordIndex pointer => exact Invoked.mono h hle
  | enqueue due begun lookup invoked recordIndex pointer reading call =>
      exact ⟨h.1.mono hle, fun hobserved => (h.2 hobserved).mono hle⟩
  | completion due begun lookup invoked recordIndex reading result =>
      exact ⟨h.1.mono hle, fun haccepted => (h.2 haccepted).mono hle⟩

/-- One more step of the attempt keeps the order. -/
theorem AttemptInOrder.step {s s' : P.State} {call call' : DueCapture P}
    (h : AttemptInOrder S now call) (hread : ReadAt now input)
    (hstep : DueCapture.Step arena input s call s' (.running call')) :
    AttemptInOrder S now call' := by
  cases hstep with
  | begins due hok =>
      have heq := hread hok
      exact ⟨by rw [heq]; exact h, by rw [heq]; exact UInt64.le_refl now⟩
  | looksUp due begun hok =>
      have heq := hread hok
      exact ⟨h.1, by rw [heq]; exact h.2, UInt64.le_refl _, by rw [heq]; exact UInt64.le_refl now⟩
  | invokes due begun lookup recordIndex pointer hok =>
      have heq := hread hok
      have hinvoked : Invoked due begun lookup lookup now := h
      refine ⟨⟨hinvoked.arrived, hinvoked.looked, ?_, ?_⟩, ?_⟩
      · rw [heq]
        exact hinvoked.past
      · rw [heq]
        exact UInt64.le_refl now
      · intro hobserved
        rw [S.pObserved_begin] at hobserved
        cases hobserved
  | runs due begun lookup invoked recordIndex pointer reading enqueue enqueue' s' hs =>
      refine ⟨h.1, fun hobserved => ?_⟩
      rcases S.pObserved_step hs hobserved with hbefore | ⟨hobserves, hok⟩
      · rw [S.pObserved_once hbefore]
        exact h.2 hbefore
      · rw [hobserves]
        exact hread.within hok h.1.past
  | answered due begun lookup invoked recordIndex pointer reading enqueue s' result hs =>
      refine ⟨h.1, fun haccepted => ?_⟩
      subst haccepted
      have hobserved := S.pObserved_accepted hs
      rw [S.pObserved_once hobserved]
      exact h.2 hobserved

/-- The row of an attempt whose readings are in order. -/
theorem AttemptInOrder.row {due : DueArrival} {begun lookup : ClockSample} {recordIndex : UInt64}
    {result : EnqueueResult}
    (h : AttemptInOrder S now (.completion due begun lookup invoked recordIndex reading result))
    (hread : ReadAt now input) (hok : input.isOk = true) :
    ProducerOrder (producerObservation due begun lookup invoked recordIndex reading result
      input.sample) := by
  have heq := hread hok
  obtain ⟨hinvoked, hwithin⟩ := h
  refine ⟨hinvoked.arrived, hinvoked.looked, hinvoked.called, ?_, ?_⟩
  · show invoked.relativePicoseconds ≤ input.sample.relativePicoseconds
    rw [heq]
    exact hinvoked.past
  · intro linearization hlinearization
    cases result with
    | full => cases hlinearization
    | accepted =>
        obtain rfl := Option.some.inj hlinearization
        have hreading := hwithin rfl
        refine ⟨hreading.after, ?_⟩
        show reading.sample.relativePicoseconds ≤ input.sample.relativePicoseconds
        rw [heq]
        exact hreading.past

/-! ### The readings of one poll -/

/-- The readings of a consumer row are in protocol order. -/
structure ConsumerOrder (row : ConsumerObservation) : Prop where
  linearized : row.dequeueInvocation.relativePicoseconds ≤
    row.dequeueLinearization.relativePicoseconds
  completed : row.dequeueLinearization.relativePicoseconds ≤
    row.dequeueCompletion.relativePicoseconds
  acted : row.dequeueCompletion.relativePicoseconds ≤
    row.consumerActionCompletion.relativePicoseconds

/-- The readings a running poll has made are in order, and in the past. -/
def PollInOrder (S : PackageSim P capacity init) (now : UInt64) : PollCapture P → Prop
  | .invocation _ => True
  | .dequeue _ invoked reading call =>
      invoked.relativePicoseconds ≤ now ∧ (S.cObserved call = true → Within invoked reading now)
  | .completion _ invoked reading _ => Within invoked reading now
  | .action _ invoked reading completed _ _ =>
      Within invoked reading completed.relativePicoseconds ∧ completed.relativePicoseconds ≤ now

theorem PollInOrder.mono {call : PollCapture P} (h : PollInOrder S now call) (hle : now ≤ now') :
    PollInOrder S now' call := by
  cases call with
  | invocation ordinal => trivial
  | dequeue ordinal invoked reading call =>
      exact ⟨UInt64.le_trans h.1 hle, fun hobserved => (h.2 hobserved).mono hle⟩
  | completion ordinal invoked reading event => exact Within.mono h hle
  | action ordinal invoked reading completed event recordIndex =>
      exact ⟨h.1, UInt64.le_trans h.2 hle⟩

/-- One more step of the poll keeps the order. -/
theorem PollInOrder.step {s : P.State} {state : ConsumerState} {x : P.State × ConsumerState}
    {call call' : PollCapture P} (h : PollInOrder S now call) (hread : ReadAt now input)
    (hstep : PollCapture.Step arena input s state call x (.running call')) :
    PollInOrder S now call' := by
  cases hstep with
  | begins ordinal hok =>
      refine ⟨by rw [hread hok]; exact UInt64.le_refl now, fun hobserved => ?_⟩
      rw [S.cObserved_begin] at hobserved
      cases hobserved
  | runs ordinal invoked reading dequeue dequeue' s' hs =>
      refine ⟨h.1, fun hobserved => ?_⟩
      rcases S.cObserved_step hs hobserved with hbefore | ⟨hobserves, hok⟩
      · rw [S.cObserved_once hbefore]
        exact h.2 hbefore
      · rw [hobserves]
        exact hread.within hok h.1
  | took ordinal invoked reading dequeue s' event hs =>
      have hobserved := S.cObserved_item hs
      show Within invoked _ now
      rw [S.cObserved_once hobserved]
      exact h.2 hobserved
  | accesses ordinal invoked reading event hok hvalid =>
      have heq := hread hok
      have hwithin : Within invoked reading now := h
      exact ⟨⟨hwithin.after, by rw [heq]; exact hwithin.past⟩,
        by rw [heq]; exact UInt64.le_refl now⟩

/-- The row of a poll whose readings are in order. -/
theorem PollInOrder.row {ordinal recordIndex : UInt64} {completed : ClockSample}
    {event : Option Nat}
    (h : PollInOrder S now (.action ordinal invoked reading completed event recordIndex))
    (hread : ReadAt now input) (hok : input.isOk = true) :
    ConsumerOrder ⟨ordinal, recordIndex, invoked, reading.sample, completed, input.sample⟩ := by
  refine ⟨h.1.after, h.1.past, ?_⟩
  show completed.relativePicoseconds ≤ input.sample.relativePicoseconds
  rw [hread hok]
  exact h.2

end CpuPrefetch.Storage
