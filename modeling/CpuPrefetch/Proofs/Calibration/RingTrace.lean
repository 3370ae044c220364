/-
The demand trace is exact.

Every call leaves an attempt: who made it, what the clock said before and after the acquire
load, and how it came out.  `Recorded` says what the trace of one worker holds in terms of the
attempts so far; a successful call keeps it with its own attempt appended, and a failed call
does not touch the trace at all.
-/
import CpuPrefetch.Calibration.RingTrace

namespace CpuPrefetch.Calibration

open List
open Timing (ClockReadResult)
open Queue (RingSpscQueue)

variable {κ α : Type} {read : κ → ClockReadResult × κ}

/-! ### What one record does -/

namespace RingDemandTrace

variable {trace next : RingDemandTrace} {worker other : RingWorker} {start finish : UInt64}
  {outcome : RingAttemptOutcome}

/-- The trace after a recorded attempt, worker by worker. -/
structure Noted (trace : RingDemandTrace) (worker : RingWorker) (start finish : UInt64)
    (outcome : RingAttemptOutcome) (next : RingDemandTrace) : Prop where
  capacity : next.maxAttemptsPerWorker = trace.maxAttemptsPerWorker
  demand : next.demand worker = trace.demand worker ++ [finish - start]
  stalls : next.stalls worker =
    if outcome = .advanced then trace.stalls worker else trace.stalls worker + 1
  issue : next.issue worker =
    if outcome = .advanced then trace.issue worker ++ (trace.previous worker).toList.map (start - ·)
    else trace.issue worker
  previous : next.previous worker =
    if outcome = .advanced then some start else trace.previous worker
  others : ∀ other, other ≠ worker → next.demand other = trace.demand other ∧
    next.stalls other = trace.stalls other ∧ next.issue other = trace.issue other ∧
    next.previous other = trace.previous other

/-- What let an attempt be recorded. -/
structure Admissible (trace : RingDemandTrace) (worker : RingWorker) (start finish : UInt64)
    (outcome : RingAttemptOutcome) : Prop where
  ordered : start ≤ finish
  room : (trace.demand worker).length < trace.maxAttemptsPerWorker.toNat
  roomToIssue : outcome = .advanced → (trace.previous worker).isSome →
    (trace.issue worker).length < trace.maxAttemptsPerWorker.toNat
  forward : outcome = .advanced → ∀ earlier ∈ trace.previous worker, earlier ≤ start

theorem record_full :
    Noted trace .producer start finish .full
      (trace.pushDemand .producer (finish - start)).countFull where
  capacity := rfl
  demand := rfl
  stalls := rfl
  issue := rfl
  previous := rfl
  others other h := by
    cases other
    · exact absurd rfl h
    · exact ⟨rfl, rfl, rfl, rfl⟩

theorem record_empty :
    Noted trace .consumer start finish .empty
      (trace.pushDemand .consumer (finish - start)).countEmpty where
  capacity := rfl
  demand := rfl
  stalls := rfl
  issue := rfl
  previous := rfl
  others other h := by
    cases other
    · exact ⟨rfl, rfl, rfl, rfl⟩
    · exact absurd rfl h

theorem record_first (h : trace.previous worker = none) :
    Noted trace worker start finish .advanced
      ((trace.pushDemand worker (finish - start)).setPrevious worker start) := by
  cases worker with
  | producer =>
      refine ⟨rfl, rfl, rfl, ?_, rfl, ?_⟩
      · rw [h, if_pos rfl, Option.toList_none, map_nil, append_nil]
        rfl
      · rintro (_ | _) hne
        · exact absurd rfl hne
        · exact ⟨rfl, rfl, rfl, rfl⟩
  | consumer =>
      refine ⟨rfl, rfl, rfl, ?_, rfl, ?_⟩
      · rw [h, if_pos rfl, Option.toList_none, map_nil, append_nil]
        rfl
      · rintro (_ | _) hne
        · exact ⟨rfl, rfl, rfl, rfl⟩
        · exact absurd rfl hne

theorem record_later {earlier : UInt64} (h : trace.previous worker = some earlier) :
    Noted trace worker start finish .advanced
      (((trace.pushDemand worker (finish - start)).pushIssue worker (start - earlier)).setPrevious
        worker start) := by
  cases worker with
  | producer =>
      refine ⟨rfl, rfl, rfl, ?_, rfl, ?_⟩
      · rw [h]
        rfl
      · rintro (_ | _) hne
        · exact absurd rfl hne
        · exact ⟨rfl, rfl, rfl, rfl⟩
  | consumer =>
      refine ⟨rfl, rfl, rfl, ?_, rfl, ?_⟩
      · rw [h]
        rfl
      · rintro (_ | _) hne
        · exact ⟨rfl, rfl, rfl, rfl⟩
        · exact absurd rfl hne

theorem pushDemand_previous (trace : RingDemandTrace) (worker : RingWorker) (ticks : UInt64) :
    (trace.pushDemand worker ticks).previous worker = trace.previous worker := by
  cases worker <;> rfl

/-- A record either changes nothing, or takes an admissible attempt and notes it. -/
theorem record_cases (trace : RingDemandTrace) (worker : RingWorker) (start finish : UInt64)
    (outcome : RingAttemptOutcome) :
    trace.record worker start finish outcome = (false, trace) ∨
      ∃ next, trace.record worker start finish outcome = (true, next) ∧
        Admissible trace worker start finish outcome ∧
          Noted trace worker start finish outcome next := by
  unfold record
  split
  · exact Or.inl rfl
  rename_i hoperation
  split
  · exact Or.inl rfl
  rename_i hworker
  split
  · exact Or.inl rfl
  rename_i hroom
  split
  · exact Or.inl rfl
  rename_i hforward
  simp only [not_or] at hoperation hworker hroom
  have hadmissible : Admissible trace worker start finish outcome := by
    refine ⟨UInt64.not_lt.mp hoperation.2.2, Nat.lt_of_not_le hroom.1, ?_, ?_⟩
    · exact fun hadvanced hsome => Nat.lt_of_not_le fun hle => hroom.2 ⟨hadvanced, hsome, hle⟩
    · exact fun hadvanced earlier hearlier =>
        UInt64.not_lt.mp fun hlt => hforward ⟨hadvanced, earlier, hearlier, hlt⟩
  right
  cases outcome with
  | clockFailure => exact absurd rfl hoperation.1
  | traceFailure => exact absurd rfl hoperation.2.1
  | full =>
      have hproducer : worker = .producer := not_not.mp fun hne => hworker.1 ⟨rfl, hne⟩
      subst hproducer
      exact ⟨_, rfl, hadmissible, record_full⟩
  | empty =>
      have hconsumer : worker = .consumer := not_not.mp fun hne => hworker.2 ⟨rfl, hne⟩
      subst hconsumer
      exact ⟨_, rfl, hadmissible, record_empty⟩
  | advanced =>
      simp only [pushDemand_previous]
      cases hprevious : trace.previous worker with
      | none => exact ⟨_, rfl, hadmissible, record_first hprevious⟩
      | some earlier => exact ⟨_, rfl, hadmissible, record_later hprevious⟩

end RingDemandTrace

/-! ### What one call does -/

/-- A call as it was made: its worker, its readings and its outcome. -/
structure Attempt where
  worker : RingWorker
  before : ClockReadResult
  after : ClockReadResult
  outcome : RingAttemptOutcome
  deriving DecidableEq, Repr

namespace Attempt

def start (a : Attempt) : UInt64 := a.before.sample.relativePicoseconds

def finish (a : Attempt) : UInt64 := a.after.sample.relativePicoseconds

/-- The demand time, in exact arithmetic. -/
def demand (a : Attempt) : Nat := a.finish.toNat - a.start.toNat

def Failed (a : Attempt) : Prop := a.outcome = .clockFailure ∨ a.outcome = .traceFailure

instance (a : Attempt) : Decidable a.Failed := inferInstanceAs (Decidable (_ ∨ _))

end Attempt

/-- The attempt that a call makes from a state. -/
def attempt (read : κ → ClockReadResult × κ) (s : CaptureState κ α) (call : CaptureCall α) :
    Attempt :=
  ⟨call.worker, (read s.clock).1, (read (read s.clock).2).1, (capture read s call).1.outcome⟩

/-- The attempts of a sequence of calls. -/
def attempts (read : κ → ClockReadResult × κ) :
    CaptureState κ α → List (CaptureCall α) → List Attempt
  | _, [] => []
  | s, call :: rest => attempt read s call :: attempts read (capture read s call).2 rest

theorem recordDemand_cases (worker : RingWorker) (outcome : RingAttemptOutcome)
    (observer : Observer κ) (trace : RingDemandTrace) :
    (((recordDemand worker outcome observer trace).1.outcome = .clockFailure ∨
        (recordDemand worker outcome observer trace).1.outcome = .traceFailure) ∧
      (recordDemand worker outcome observer trace).2 = trace) ∨
    ((recordDemand worker outcome observer trace).1.outcome = outcome ∧
      trace.Admissible worker observer.before.sample.relativePicoseconds
        observer.after.sample.relativePicoseconds outcome ∧
      trace.Noted worker observer.before.sample.relativePicoseconds
        observer.after.sample.relativePicoseconds outcome
        (recordDemand worker outcome observer trace).2) := by
  unfold recordDemand
  split
  · exact Or.inl ⟨Or.inl rfl, rfl⟩
  obtain hfalse | ⟨next, htrue, hadmissible, hnoted⟩ :=
    trace.record_cases worker observer.before.sample.relativePicoseconds
      observer.after.sample.relativePicoseconds outcome
  · rw [hfalse]
    exact Or.inl ⟨Or.inr rfl, rfl⟩
  · rw [htrue]
    exact Or.inr ⟨rfl, hadmissible, hnoted⟩

/-- What the observer of a call holds when the operation is over. -/
def observed (read : κ → ClockReadResult × κ) (clock : κ) : Observer κ :=
  ⟨(read (read clock).2).2, (read clock).1, (read (read clock).2).1⟩

theorem enqueue_observed (read : κ → ClockReadResult × κ) (queue : RingSpscQueue α)
    (event : α) (clock : κ) :
    (queue.tryEnqueueWithSlotDemandObserver event (slotObserver read) (.fresh clock)).2.2 =
      observed read clock := by
  unfold RingSpscQueue.tryEnqueueWithSlotDemandObserver
  simp only
  split <;> rfl

theorem dequeue_observed (read : κ → ClockReadResult × κ) (queue : RingSpscQueue α) (clock : κ) :
    (queue.tryDequeueWithSlotDemandObserver (slotObserver read) (.fresh clock)).2.2 =
      observed read clock := by
  unfold RingSpscQueue.tryDequeueWithSlotDemandObserver
  simp only
  split <;> rfl

theorem advanced_or_stalled (advanced : Prop) [Decidable advanced] {stalled : RingAttemptOutcome}
    (h : stalled ≠ .clockFailure ∧ stalled ≠ .traceFailure) :
    (if advanced then .advanced else stalled) ≠ RingAttemptOutcome.clockFailure ∧
      (if advanced then .advanced else stalled) ≠ RingAttemptOutcome.traceFailure := by
  by_cases hadvanced : advanced
  · simp [hadvanced]
  · simpa [hadvanced] using h

/-- Both calls read the clock twice, whatever the ring answers, and then record. -/
theorem capture_records (read : κ → ClockReadResult × κ) (s : CaptureState κ α)
    (call : CaptureCall α) :
    ∃ outcome queue, (outcome ≠ .clockFailure ∧ outcome ≠ .traceFailure) ∧
      capture read s call =
        ((recordDemand call.worker outcome (observed read s.clock) s.trace).1,
          ⟨(observed read s.clock).clock, queue,
            (recordDemand call.worker outcome (observed read s.clock) s.trace).2⟩) := by
  cases call with
  | producer event =>
      have hobserver := enqueue_observed read s.queue event s.clock
      rw [← hobserver]
      exact ⟨_, _, advanced_or_stalled _ (by decide), rfl⟩
  | consumer =>
      have hobserver := dequeue_observed read s.queue s.clock
      rw [← hobserver]
      exact ⟨_, _, advanced_or_stalled _ (by decide), rfl⟩

/-- A call fails and leaves the trace, or succeeds and notes its own attempt. -/
theorem capture_cases (read : κ → ClockReadResult × κ) (s : CaptureState κ α)
    (call : CaptureCall α) :
    ((attempt read s call).Failed ∧ (capture read s call).2.trace = s.trace) ∨
      (¬(attempt read s call).Failed ∧
        s.trace.Admissible call.worker (attempt read s call).start (attempt read s call).finish
          (attempt read s call).outcome ∧
        s.trace.Noted call.worker (attempt read s call).start (attempt read s call).finish
          (attempt read s call).outcome (capture read s call).2.trace) := by
  obtain ⟨outcome, queue, hsound, hcapture⟩ := capture_records read s call
  have hrecord := recordDemand_cases call.worker outcome (observed read s.clock) s.trace
  have hattempt : attempt read s call = ⟨call.worker, (read s.clock).1, (read (read s.clock).2).1,
      (recordDemand call.worker outcome (observed read s.clock) s.trace).1.outcome⟩ := by
    rw [attempt, hcapture]
  rw [hattempt, hcapture]
  obtain ⟨hfailed, hsame⟩ | ⟨houtcome, hadmissible, hnoted⟩ := hrecord
  · exact Or.inl ⟨hfailed, hsame⟩
  · rw [houtcome]
    exact Or.inr ⟨fun hfailed => hfailed.elim hsound.1 hsound.2, hadmissible, hnoted⟩

theorem failed_unchanged {s : CaptureState κ α} {call : CaptureCall α}
    (h : (attempt read s call).Failed) : (capture read s call).2.trace = s.trace := by
  obtain ⟨-, hsame⟩ | ⟨hsound, -⟩ := capture_cases read s call
  · exact hsame
  · exact absurd h hsound

/-! ### The capacity -/

/-- No list of a trace is longer than its capacity. -/
def Within (capacity : UInt64) (trace : RingDemandTrace) : Prop :=
  trace.maxAttemptsPerWorker = capacity ∧
    ∀ worker, (trace.demand worker).length ≤ capacity.toNat ∧
      (trace.issue worker).length ≤ capacity.toNat

variable {capacity : UInt64} {next trace : RingDemandTrace} {worker : RingWorker}

theorem within_noted {start finish : UInt64} {outcome : RingAttemptOutcome}
    (h : Within capacity trace) (hadmissible : trace.Admissible worker start finish outcome)
    (hnoted : trace.Noted worker start finish outcome next) : Within capacity next := by
  obtain ⟨hcapacity, hlengths⟩ := h
  refine ⟨by rw [hnoted.capacity, hcapacity], fun other => ?_⟩
  by_cases hother : other = worker
  · subst hother
    have hroom := hadmissible.room
    rw [hcapacity] at hroom
    constructor
    · rw [hnoted.demand, length_append, length_singleton]
      exact hroom
    · rw [hnoted.issue]
      split
      · rename_i hadvanced
        cases hprevious : trace.previous other with
        | none =>
            rw [Option.toList_none, map_nil, append_nil]
            exact (hlengths other).2
        | some earlier =>
            have hissue := hadmissible.roomToIssue hadvanced (by rw [hprevious]; rfl)
            rw [hcapacity] at hissue
            rw [length_append]
            exact hissue
      · exact (hlengths other).2
  · obtain ⟨hdemand, -, hissue, -⟩ := hnoted.others other hother
    rw [hdemand, hissue]
    exact hlengths other

theorem within_captures (calls : List (CaptureCall α)) :
    ∀ {s : CaptureState κ α}, Within capacity s.trace →
      Within capacity (captures read s calls).trace := by
  induction calls with
  | nil => exact fun h => h
  | cons call rest ih =>
      intro s h
      apply ih
      obtain ⟨-, hsame⟩ | ⟨-, hadmissible, hnoted⟩ := capture_cases read s call
      · rw [hsame]
        exact h
      · exact within_noted h hadmissible hnoted

/-! ### The lists and the counts -/

/-- The differences of neighbouring numbers. -/
def increments : List Nat → List Nat
  | first :: second :: rest => (second - first) :: increments (second :: rest)
  | _ => []

theorem increments_concat (x : Nat) :
    ∀ l : List Nat, increments (l ++ [x]) = increments l ++ l.getLast?.toList.map (x - ·)
  | [] => rfl
  | [_] => rfl
  | _ :: second :: rest => by
      have ih := increments_concat x (second :: rest)
      simp only [cons_append] at ih
      simp only [cons_append, increments, ih, getLast?_cons_cons]

/-- The attempts of one worker. -/
def attemptsOf (worker : RingWorker) (past : List Attempt) : List Attempt :=
  past.filter (·.worker = worker)

/-- When the advancing attempts of one worker started. -/
def advanceStarts (worker : RingWorker) (past : List Attempt) : List Nat :=
  ((attemptsOf worker past).filter (·.outcome = .advanced)).map (·.start.toNat)

/-- What the trace holds of one worker after these attempts, all of them successful. -/
structure Recorded (trace : RingDemandTrace) (worker : RingWorker) (past : List Attempt) :
    Prop where
  ordered : ∀ a ∈ attemptsOf worker past, a.start ≤ a.finish
  demand : (trace.demand worker).map UInt64.toNat = (attemptsOf worker past).map Attempt.demand
  stalls : (trace.stalls worker).toNat = (attemptsOf worker past).countP (·.outcome ≠ .advanced)
  forward : (advanceStarts worker past).IsChain (· ≤ ·)
  issue : (trace.issue worker).map UInt64.toNat = increments (advanceStarts worker past)
  previous : (trace.previous worker).map UInt64.toNat = (advanceStarts worker past).getLast?

theorem attemptsOf_concat (worker : RingWorker) (past : List Attempt) (a : Attempt) :
    attemptsOf worker (past ++ [a]) =
      if a.worker = worker then attemptsOf worker past ++ [a] else attemptsOf worker past := by
  rw [attemptsOf, filter_append]
  split <;> simp [attemptsOf, *]

variable {a : Attempt}

theorem advanceStarts_concat (past : List Attempt) (h : a.worker = worker) :
    advanceStarts worker (past ++ [a]) =
      if a.outcome = .advanced then advanceStarts worker past ++ [a.start.toNat]
      else advanceStarts worker past := by
  rw [advanceStarts, attemptsOf_concat, if_pos h, filter_append]
  split <;> simp [advanceStarts, *]

/-- A worker's attempt leaves what is recorded of the other one. -/
theorem recorded_other {past : List Attempt} (h : Recorded trace worker past)
    (hother : worker ≠ a.worker) (hnoted : trace.Noted a.worker a.start a.finish a.outcome next) :
    Recorded next worker (past ++ [a]) := by
  obtain ⟨hdemand, hstalls, hissue, hprevious⟩ := hnoted.others worker hother
  have hsame : attemptsOf worker (past ++ [a]) = attemptsOf worker past := by
    rw [attemptsOf_concat, if_neg (Ne.symm hother)]
  have hstarts : advanceStarts worker (past ++ [a]) = advanceStarts worker past := by
    rw [advanceStarts, hsame, advanceStarts]
  constructor
  · rw [hsame]
    exact h.ordered
  · rw [hsame, hdemand]
    exact h.demand
  · rw [hsame, hstalls]
    exact h.stalls
  · rw [hstarts]
    exact h.forward
  · rw [hstarts, hissue]
    exact h.issue
  · rw [hstarts, hprevious]
    exact h.previous

theorem recorded_own {past : List Attempt} (h : Recorded trace a.worker past)
    (hadmissible : trace.Admissible a.worker a.start a.finish a.outcome)
    (hnoted : trace.Noted a.worker a.start a.finish a.outcome next) :
    Recorded next a.worker (past ++ [a]) := by
  have hattempts : attemptsOf a.worker (past ++ [a]) = attemptsOf a.worker past ++ [a] := by
    rw [attemptsOf_concat, if_pos rfl]
  have hstarts := advanceStarts_concat past (a := a) rfl
  constructor
  · rw [hattempts]
    intro b hb
    rcases List.mem_append.mp hb with hpast | hlast
    · exact h.ordered b hpast
    · rw [List.mem_singleton.mp hlast]
      exact hadmissible.ordered
  · rw [hattempts, hnoted.demand, map_append, map_append, h.demand, map_singleton,
      map_singleton, UInt64.toNat_sub_of_le _ _ hadmissible.ordered, Attempt.demand]
  · -- fewer stalls than attempts, and fewer attempts than the capacity, so the count is exact
    have hlength : (trace.demand a.worker).length = (attemptsOf a.worker past).length := by
      simpa using congrArg List.length h.demand
    have hcount : (attemptsOf a.worker past).countP (·.outcome ≠ .advanced) ≤
        (attemptsOf a.worker past).length := countP_le_length
    have hroom := hadmissible.room
    have hcapacity := trace.maxAttemptsPerWorker.toNat_lt
    rw [hattempts, hnoted.stalls, countP_append, ← h.stalls]
    split
    · rename_i hadvanced
      simp [hadvanced]
    · rename_i hstalled
      rw [UInt64.toNat_add, h.stalls, UInt64.toNat_one, Nat.mod_eq_of_lt (by omega)]
      simp [hstalled]
  · rw [hstarts]
    split
    · rename_i hadvanced
      rw [isChain_append]
      refine ⟨h.forward, isChain_singleton _, ?_⟩
      intro earlier hearlier later hlater
      rw [← h.previous, Option.mem_def, Option.map_eq_some_iff] at hearlier
      obtain ⟨start, hstart, rfl⟩ := hearlier
      rw [head?_cons, Option.mem_some_iff] at hlater
      rw [← hlater]
      exact UInt64.le_iff_toNat_le.mp (hadmissible.forward hadvanced start hstart)
    · exact h.forward
  · rw [hstarts, hnoted.issue]
    split
    · rename_i hadvanced
      rw [map_append, h.issue, increments_concat, ← h.previous]
      congr 1
      cases hprevious : trace.previous a.worker with
      | none => rfl
      | some earlier =>
          simp [UInt64.toNat_sub_of_le _ _ (hadmissible.forward hadvanced earlier hprevious)]
    · exact h.issue
  · rw [hstarts, hnoted.previous]
    split
    · rw [getLast?_append]
      rfl
    · exact h.previous

theorem recorded_captures (worker : RingWorker) (calls : List (CaptureCall α)) :
    ∀ {s : CaptureState κ α} {past : List Attempt},
      (∀ a ∈ attempts read s calls, ¬a.Failed) → Recorded s.trace worker past →
      Recorded (captures read s calls).trace worker (past ++ attempts read s calls) := by
  induction calls with
  | nil =>
      intro s past _ h
      rw [attempts, append_nil]
      exact h
  | cons call rest ih =>
      intro s past hsound h
      obtain ⟨hfirst, hrest⟩ := List.forall_mem_cons.mp hsound
      rw [attempts, append_cons]
      apply ih hrest
      obtain ⟨hfailed, -⟩ | ⟨-, hadmissible, hnoted⟩ := capture_cases read s call
      · exact absurd hfailed hfirst
      · by_cases hworker : worker = call.worker
        · subst hworker
          exact recorded_own (a := attempt read s call) h hadmissible hnoted
        · exact recorded_other (a := attempt read s call) h hworker hnoted

theorem make_eq (h : RingDemandTrace.make capacity = .ok trace) :
    trace = ⟨⟨[], [], [], [], 0, 0⟩, none, none, capacity⟩ := by
  unfold RingDemandTrace.make at h
  split at h
  · cases h
  · exact (Except.ok.inj h).symm

/--
Whatever the ring holds and the clock says: as long as no call has failed, the trace of each
worker is what its attempts say it is; no list outgrows the capacity; and a call that fails
leaves the trace as it was.
-/
theorem ring_demand_trace_exact (read : κ → ClockReadResult × κ) (clock : κ)
    (queue : RingSpscQueue α) {capacity : UInt64} {trace : RingDemandTrace}
    (h : RingDemandTrace.make capacity = .ok trace) (calls : List (CaptureCall α)) :
    ((∀ a ∈ attempts read ⟨clock, queue, trace⟩ calls, ¬a.Failed) →
        ∀ worker, Recorded (captures read ⟨clock, queue, trace⟩ calls).trace worker
          (attempts read ⟨clock, queue, trace⟩ calls)) ∧
      Within capacity (captures read ⟨clock, queue, trace⟩ calls).trace ∧
      ∀ call, (attempt read (captures read ⟨clock, queue, trace⟩ calls) call).Failed →
        (capture read (captures read ⟨clock, queue, trace⟩ calls) call).2.trace =
          (captures read ⟨clock, queue, trace⟩ calls).trace := by
  have hmake := make_eq h
  refine ⟨?_, ?_, fun call hfailed => failed_unchanged hfailed⟩
  · intro hsound worker
    have hstart : Recorded trace worker [] := by
      subst hmake
      cases worker <;> constructor <;> first | rfl | simp [attemptsOf, advanceStarts]
    exact recorded_captures worker calls hsound hstart
  · apply within_captures
    subst hmake
    refine ⟨rfl, fun worker => ?_⟩
    cases worker <;> exact ⟨Nat.zero_le _, Nat.zero_le _⟩

/-- A clock that says these times and then fails. -/
def sequenceClock : List UInt64 → ClockReadResult × List UInt64
  | [] => (.unread, [])
  | time :: rest => (⟨.ok, ⟨0, time⟩⟩, rest)

/-- Six calls on a ring of one slot: the producer stalls once, and so does the consumer. -/
def sixCalls : List (CaptureCall Nat) :=
  [.producer 7, .producer 7, .consumer, .consumer, .producer 7, .consumer]

def sixCallsStart : CaptureState (List UInt64) Nat :=
  ⟨[10, 13, 20, 24, 30, 35, 40, 46, 50, 51, 60, 62], .initial 1,
    ⟨⟨[], [], [], [], 0, 0⟩, none, none, 3⟩⟩

theorem ring_demand_trace_exact_six :
    Recorded (captures sequenceClock sixCallsStart sixCalls).trace .producer
      (attempts sequenceClock sixCallsStart sixCalls) :=
  (ring_demand_trace_exact sequenceClock _ _ (rfl : RingDemandTrace.make 3 = .ok _) sixCalls).1
    (by decide) .producer

example : (captures sequenceClock sixCallsStart sixCalls).trace.series =
    ⟨[3, 4, 1], [5, 6, 2], [40], [30], 1, 1⟩ := by decide

end CpuPrefetch.Calibration
