/-
The shared words of a measurement: the arrivals-finished word, the start barrier,
and the prepared schedule the producer walks.

Each function below is one atomic access, or the private work between two of them.
The bounded waits of the barrier are loops over such accesses; they are unrolled
where their callers run, in the executor.
-/
import CpuPrefetch.Protocol.Text

namespace CpuPrefetch.Lifecycle

open Protocol (ErrorCategory ValidationError)

/-! ### The termination word -/

structure TerminationControl where
  value : UInt32
  deriving DecidableEq, Repr

namespace TerminationControl

/-- `reset_quiescent`: the word is cleared only when no worker can access it. -/
def resetQuiescent (t : TerminationControl) (workersQuiescent : Bool) :
    TerminationControl × Bool :=
  if workersQuiescent then ({ t with value := 0 }, true) else (t, false)

def publishArrivalsFinished (t : TerminationControl) : TerminationControl :=
  { t with value := 1 }

def arrivalsFinished (t : TerminationControl) : Bool := t.value == 1

end TerminationControl

/-! ### The start barrier -/

inductive WorkerRole where
  | producer
  | consumer
  deriving DecidableEq, Repr

/-- `1U << role`. -/
def WorkerRole.bit : WorkerRole → UInt32
  | .producer => (1 : UInt32) <<< 0
  | .consumer => (1 : UInt32) <<< 1

structure WorkerStartBarrier where
  arrivedMask : UInt32 := 0
  released : Bool := false
  cancelled : Bool := false
  measurementOriginTicks : UInt64 := 0
  deriving DecidableEq, Repr

namespace WorkerStartBarrier

variable (b : WorkerStartBarrier)

/-- The `fetch_or` of `arrive`: the new mask, and whether the bit was already set. -/
def arrive (role : WorkerRole) : WorkerStartBarrier × Bool :=
  ({ b with arrivedMask := b.arrivedMask ||| role.bit }, b.arrivedMask &&& role.bit != 0)

def allWorkersReady : Bool := b.arrivedMask == 0x3

def cancel : WorkerStartBarrier := { b with cancelled := true }

def storeOrigin (ticks : UInt64) : WorkerStartBarrier :=
  { b with measurementOriginTicks := ticks }

def release : WorkerStartBarrier := { b with released := true }

end WorkerStartBarrier

/-! ### The prepared schedule -/

/-- The deadlines are a span, so their number is a `size_t`. -/
structure PreparedScheduleView where
  deadlineTicks : List UInt64
  originTicks : UInt64
  horizonTicks : UInt64
  sizeLt : deadlineTicks.length < 2 ^ 64

namespace PreparedScheduleView

def deadlinePath (index : Nat) : String := "$schedule/deadline_ticks/" ++ toString index

/-- The two checks made of the deadline at this index, given the one before it. -/
def deadlineErrors (schedule : PreparedScheduleView) (previous : Option UInt64) (index : Nat)
    (deadline : UInt64) : List ValidationError :=
  (if deadline < schedule.originTicks || deadline ≥ schedule.horizonTicks then
    [⟨.outOfRange, deadlinePath index, "LIF-SCHEDULE-HALF-OPEN",
      "each deadline must be in [origin_ticks, horizon_ticks)"⟩] else []) ++
  (match previous with
    | none => []
    | some before =>
        if deadline < before then
          [⟨.crossField, deadlinePath index, "LIF-SCHEDULE-NONDECREASING",
            "prepared deadlines must be nondecreasing"⟩] else [])

/-- The loop over the deadlines from this index on. -/
def deadlinesErrors (schedule : PreparedScheduleView) :
    Option UInt64 → Nat → List UInt64 → List ValidationError
  | _, _, [] => []
  | previous, index, deadline :: rest =>
      schedule.deadlineErrors previous index deadline ++
        schedule.deadlinesErrors (some deadline) (index + 1) rest

def validatePreparedSchedule (schedule : PreparedScheduleView) : List ValidationError :=
  (if schedule.originTicks > schedule.horizonTicks then
    [⟨.crossField, "$schedule/horizon_ticks", "LIF-SCHEDULE-HORIZON",
      "schedule origin must not exceed its frozen horizon"⟩] else []) ++
  schedule.deadlinesErrors none 0 schedule.deadlineTicks

end PreparedScheduleView

end CpuPrefetch.Lifecycle
