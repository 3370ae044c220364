/-
Runs whose clocks never go back.

A tick accompanies the run.  Every step is taken at a tick no earlier than the one
before it, and whatever the step reads is that tick: the executor's clock shows it as
it is, the capture clock counted from the measurement origin.  Along such a run the
rows that are committed are in order and paired, as long as no attempt and no poll
has failed.
-/
import CpuPrefetch.Proofs.Storage.Pairing

namespace CpuPrefetch.Storage

open Lifecycle (ProducerAttempt ProducerAttemptResult ConsumerPollResult Execution TickRead
  PreparedScheduleView ExecutionLimits TerminationControl ThreadStep)
open Queue (Package PackageSim)
open Timing (ClockReadResult ProducerObservation ConsumerObservation)
open Workload (EventArena ConsumerState)
open CapturingObservationBackend

variable {P : Package Nat} {arena : EventArena} {capacity : Nat} {init : P.State}
  {S : PackageSim P capacity init} {now now' : UInt64} {input : ClockReadResult}

/-- No attempt and no poll has failed. -/
structure Clean (c : CaptureClient P arena) : Prop where
  attempts : ∀ x ∈ c.enqueued, x.2.status = .complete
  polls : ∀ r ∈ c.dequeued, r.status ≠ .failure

/-- The rows are in order, and paired for as long as nothing has failed. -/
structure Timeline (S : PackageSim P capacity init) (c : CaptureClient P arena)
    (prows : List ProducerObservation) (crows : List ConsumerObservation) (now : UInt64) :
    Prop where
  recorded : Recorded arena c prows crows
  producers : ∀ row ∈ prows, ProducerOrder row
  consumers : ∀ row ∈ crows, ConsumerOrder row
  attempt : ∀ attempt call, c.pcall = some (attempt, call) → AttemptInOrder S now call
  poll : ∀ call, c.ccall = some call → PollInOrder S now call
  paired : Clean c →
    ∃ taken hand queue room, Paired S c prows crows now taken hand queue room

namespace Timeline

variable {schedule : PreparedScheduleView} {limits : ExecutionLimits}
  {e e' : Execution (capturingObservationBackend P arena)} {c : CaptureClient P arena}
  {prows : List ProducerObservation} {crows : List ConsumerObservation}

theorem mono (h : Timeline S c prows crows now) (hle : now ≤ now') :
    Timeline S c prows crows now' where
  recorded := h.recorded
  producers := h.producers
  consumers := h.consumers
  attempt attempt call hcall := (h.attempt attempt call hcall).mono hle
  poll call hcall := (h.poll call hcall).mono hle
  paired hclean := by
    obtain ⟨taken, hand, queue, room, hpaired⟩ := h.paired hclean
    exact ⟨taken, hand, queue, room, hpaired.mono hle⟩

/-- Nothing called and nothing committed is in order at any time. -/
theorem idle (S : PackageSim P capacity init) (hrecorded : Recorded arena c [] [])
    (hpcall : c.pcall = none) (hccall : c.ccall = none)
    (hsim : ∃ room, Simulates S arena c.backend none none [] room) (now : UInt64) :
    Timeline S c [] [] now where
  recorded := hrecorded
  producers := nofun
  consumers := nofun
  attempt := by
    rw [hpcall]
    nofun
  poll := by
    rw [hccall]
    nofun
  paired _ := by
    obtain ⟨room, hsim⟩ := hsim
    refine ⟨[], [], [], room, ?_⟩
    refine ⟨?_, ?_, .nil, fun _ => rfl, ?_, ?_, nofun⟩
    · rw [hpcall, hccall]
      exact hsim
    · rw [hpcall]
      rfl
    · rw [hccall]
      nofun
    · rw [hccall]
      nofun

theorem producer_step (h : Timeline S e.client prows crows now) (hc : e.Consistent schedule)
    (ht : e.Tallied schedule)
    (hdue : ∀ attempt, e.producer.point = .attempt attempt → attempt.scheduledDeadline ≤ now)
    (hread : ReadAt now input) {reading : TickRead}
    (hstep : Execution.ProducerStep schedule limits reading input e e') :
    ∃ prows', Timeline S e'.client prows' crows now := by
  cases hstep with
  | callBegun attempt hpoint hcall =>
      refine ⟨prows, { h with recorded := h.recorded.pBegin attempt, attempt := ?_, paired := ?_ }⟩
      · intro attempt' call heq
        obtain ⟨rfl, rfl⟩ := Prod.mk.inj (Option.some.inj heq)
        exact hdue _ hpoint
      · intro hclean
        obtain ⟨taken, hand, queue, room, hpaired⟩ := h.paired ⟨hclean.attempts, hclean.polls⟩
        exact ⟨taken, hand, queue, room, hpaired.pBegin hcall attempt⟩
  | callRuns attempt attempt' call call' s hpoint hcall hs =>
      have horder : AttemptInOrder S now call' :=
        (h.attempt _ _ hcall).step hread (attemptStep_running hs).1
      refine ⟨prows, { h with
        recorded := h.recorded.pRunning hcall hs, attempt := ?_, paired := ?_ }⟩
      · intro attempt'' call'' heq
        obtain ⟨rfl, rfl⟩ := Prod.mk.inj (Option.some.inj heq)
        exact horder
      · intro hclean
        obtain ⟨taken, hand, queue, room, hpaired⟩ := h.paired ⟨hclean.attempts, hclean.polls⟩
        obtain ⟨queue', room', hpaired'⟩ := hpaired.pRunning horder hcall hs
        exact ⟨taken, hand, queue', room', hpaired'⟩
  | callReturned attempt attempt' call s r hpoint hcall hs =>
      have hsame : attempt' = attempt := hc.attempt_eq hpoint hcall
      have hprogress := ht.progress
      simp only [Lifecycle.ProducerThread.Progress, hpoint] at hprogress
      obtain ⟨hin, -, hsequence, hordinal⟩ := hprogress
      subst hsame
      obtain ⟨hends, hconsumer⟩ := attemptStep_returned h.recorded.producer hs
      cases hends with
      | failed outcome hholds =>
          refine ⟨prows, { h with
            recorded := h.recorded.pFailed hholds hconsumer
            attempt := by intro attempt call hcall; cases hcall
            paired := ?_ }⟩
          intro hclean
          have hcomplete := hclean.attempts (attempt', ⟨.failure, outcome⟩)
            (List.mem_append_right _ (List.mem_singleton_self _))
          cases hcomplete
      | complete due begun lookup invoked recordIndex boundary result hok hholds =>
          refine ⟨_, { h with
            recorded := h.recorded.pComplete hin.complete hsequence hordinal hcall hholds hconsumer
            producers := ?_
            attempt := by intro attempt call hcall; cases hcall
            paired := ?_ }⟩
          · intro row hrow
            rcases List.mem_append.mp hrow with hold | hnew
            · exact h.producers row hold
            · rw [List.mem_singleton.mp hnew]
              exact (h.attempt _ _ hcall).row hread hok
          · intro hclean
            obtain ⟨taken, hand, queue, room, hpaired⟩ := h.paired
              ⟨fun x hx => hclean.attempts x (List.mem_append_left _ hx), hclean.polls⟩
            obtain ⟨room', hpaired'⟩ := hpaired.pComplete hcall hs
            exact ⟨taken, hand, queue, room', hpaired'⟩
  | _ => exact ⟨prows, h⟩

theorem consumer_step (h : Timeline S e.client prows crows now) (hc : e.Consistent schedule)
    (ht : e.Tallied schedule) (hread : ReadAt now input)
    (hstep : Execution.ConsumerStep limits input e e') :
    ∃ crows', Timeline S e'.client prows crows' now := by
  cases hstep with
  | callBegun finished hpoint hcall =>
      refine ⟨crows, { h with
        recorded := h.recorded.cBegin (h.recorded.candidate hc ht hpoint), poll := ?_
        paired := ?_ }⟩
      · intro call heq
        obtain rfl := Option.some.inj heq
        trivial
      · intro hclean
        obtain ⟨taken, hand, queue, room, hpaired⟩ := h.paired ⟨hclean.attempts, hclean.polls⟩
        exact ⟨taken, hand, queue, room, hpaired.cBegin hcall _⟩
  | callRuns finished call call' s hpoint hcall hs =>
      refine ⟨crows, { h with
        recorded := h.recorded.cRunning hcall hs, poll := ?_, paired := ?_ }⟩
      · intro call'' heq
        obtain rfl := Option.some.inj heq
        exact (h.poll _ hcall).step hread (pollStep_running hs).1
      · intro hclean
        obtain ⟨taken, hand, queue, room, hpaired⟩ := h.paired ⟨hclean.attempts, hclean.polls⟩
        obtain ⟨hand', queue', hpaired'⟩ := hpaired.cRunning hread hcall hs
        exact ⟨taken, hand', queue', room, hpaired'⟩
  | callReturned finished call s r t hpoint hcall hs hpolled =>
      have hbefore : Clean { e.client with
            state := s, ccall := none, dequeued := e.client.dequeued ++ [r] } → Clean e.client :=
        fun hclean => ⟨hclean.attempts, fun x hx => hclean.polls x (List.mem_append_left _ hx)⟩
      obtain ⟨hends, hproducer⟩ := pollStep_returned h.recorded.consumer hs
      cases hends with
      | nothing hr hholds =>
          refine ⟨crows, { h with
            recorded := h.recorded.cNothing hr hholds hproducer
            poll := by intro call hcall; cases hcall
            paired := ?_ }⟩
          intro hclean
          obtain ⟨taken, hand, queue, room, hpaired⟩ := h.paired (hbefore hclean)
          have hfine : r.status ≠ .failure :=
            hclean.polls r (List.mem_append_right _ (List.mem_singleton_self _))
          obtain ⟨status⟩ := r
          cases status with
          | item => exact absurd rfl hr
          | failure => exact absurd rfl hfine
          | empty => exact ⟨taken, hand, queue, room, hpaired.cEmpty hcall hs⟩
      | item ordinal invoked reading completed event recordIndex hok hholds =>
          refine ⟨_, { h with
            recorded := h.recorded.cItem hcall hholds hproducer, consumers := ?_
            poll := by intro call hcall; cases hcall
            paired := ?_ }⟩
          · intro row hrow
            rcases List.mem_append.mp hrow with hold | hnew
            · exact h.consumers row hold
            · rw [List.mem_singleton.mp hnew]
              exact (h.poll _ hcall).row hread hok
          · intro hclean
            obtain ⟨taken, hand, queue, room, hpaired⟩ := h.paired (hbefore hclean)
            obtain ⟨taken', hpaired'⟩ := hpaired.cItem hcall hs
            exact ⟨taken', [], queue, room, hpaired'⟩
  | _ => exact ⟨crows, h⟩

/-- Before the release nothing has been called, so the rows are in order at any time. -/
theorem unreleased (h : Timeline S e.client prows crows now) (hc : e.Consistent schedule)
    (hreleased : e.barrier.released = false) (now' : UInt64) :
    Timeline S e.client prows crows now' := by
  have hunstarted := hc.unstarted hreleased
  have hpcall : e.client.pcall = none := hc.pcall_none fun attempt hpoint => by
    simp [Lifecycle.ProducerThread.Unstarted, hpoint] at hunstarted
  have hccall : e.client.ccall = none := hc.ccall_none fun finished hpoint => by
    have hconsumer := hc.consumer_unstarted hreleased
    simp [Lifecycle.ConsumerThread.Unstarted, hpoint] at hconsumer
  have henqueued : e.client.enqueued = [] := hc.attempts hunstarted
  have hdequeued : e.client.dequeued = [] := hc.polls (hc.consumer_unstarted hreleased)
  have hprows : prows = [] := by
    have hattempts := h.recorded.attempts
    rw [henqueued] at hattempts
    exact List.forall₂_nil_left_iff.mp hattempts
  have hcrows : crows = [] := by
    have hitems := h.recorded.items
    rw [hdequeued] at hitems
    exact List.length_eq_zero_iff.mp hitems
  subst hprows hcrows
  have hclean : Clean e.client := by
    constructor
    · rw [henqueued]
      intro event hevent
      cases hevent
    · rw [hdequeued]
      intro event hevent
      cases hevent
  obtain ⟨taken, hand, queue, room, hpaired⟩ := h.paired hclean
  have hbalance := hpaired.balance
  have hsim := hpaired.sim
  rw [hpcall] at hbalance hsim
  rw [hccall] at hsim
  have hnil : queue = [] := by
    have hempty : ([] : List Entry) = taken ++ hand ++ queue := hbalance
    exact (List.append_eq_nil_iff.mp hempty.symm).2
  rw [hnil] at hsim
  exact idle S h.recorded hpcall hccall ⟨room, hsim⟩ now'

end Timeline

/-! ### Timed runs -/

/-- What the step reads of either clock, unless the read fails, is this tick. -/
def ReadsAt (origin now : UInt64) : ThreadStep ClockReadResult ClockReadResult → Prop
  | .producer reading input =>
      (reading.ok = true → reading.ticks = now) ∧ ReadAt (now - origin) input
  | .consumer input => ReadAt (now - origin) input
  | .controller reading => reading.ok = true → reading.ticks = now

instance (now : UInt64) (reading : ClockReadResult) : Decidable (ReadAt now reading) :=
  inferInstanceAs (Decidable (reading.isOk = true → reading.sample.relativePicoseconds = now))

instance (origin now : UInt64) : (a : ThreadStep ClockReadResult ClockReadResult) →
    Decidable (ReadsAt origin now a)
  | .producer reading input => inferInstanceAs
      (Decidable ((reading.ok = true → reading.ticks = now) ∧ ReadAt (now - origin) input))
  | .consumer input => inferInstanceAs (Decidable (ReadAt (now - origin) input))
  | .controller reading =>
      inferInstanceAs (Decidable (reading.ok = true → reading.ticks = now))

/-- `execute_measurement` over the capturing backend, and the tick of its last step. -/
abbrev TimedExecution (P : Package Nat) (arena : EventArena) :=
  Execution (capturingObservationBackend P arena) × UInt64

namespace TimedExecution

variable {schedule : PreparedScheduleView} {limits : ExecutionLimits}
  {x y : TimedExecution P arena}

/-- Some thread takes a step, no earlier than the step before. -/
def Next (schedule : PreparedScheduleView) (limits : ExecutionLimits)
    (x y : TimedExecution P arena) : Prop :=
  x.2 ≤ y.2 ∧ ∃ a, ReadsAt x.1.barrier.measurementOriginTicks y.2 a ∧
    x.1.step schedule limits a = some y.1

/-- A finite interleaving in which the clocks never go back leads from `x` to `y`. -/
def Reaches (schedule : PreparedScheduleView) (limits : ExecutionLimits)
    (x y : TimedExecution P arena) : Prop := Relation.ReflTransGen (Next schedule limits) x y

/-- The steps one after another, each at its tick, unless one of them is not possible. -/
def run? (schedule : PreparedScheduleView) (limits : ExecutionLimits)
    (x : TimedExecution P arena) :
    List (ThreadStep ClockReadResult ClockReadResult × UInt64) → Option (TimedExecution P arena)
  | [] => some x
  | (a, now) :: rest =>
      if x.2 ≤ now ∧ ReadsAt x.1.barrier.measurementOriginTicks now a then
        (x.1.step schedule limits a).bind fun e => run? schedule limits (e, now) rest
      else none

theorem Reaches.of_run? {acts : List (ThreadStep ClockReadResult ClockReadResult × UInt64)}
    (h : run? schedule limits x acts = some y) : Reaches schedule limits x y := by
  induction acts generalizing x with
  | nil =>
      obtain rfl := Option.some.inj h
      exact .refl
  | cons act rest ih =>
      obtain ⟨a, now⟩ := act
      unfold run? at h
      split at h
      · rename_i hok
        obtain ⟨e, hstep, hrest⟩ := Option.bind_eq_some_iff.mp h
        exact Relation.ReflTransGen.head ⟨hok.1, a, hok.2, hstep⟩ (ih hrest)
      · cases h

theorem Reaches.reaches (hreach : Reaches schedule limits x y) :
    x.1.Reaches schedule limits y.1 := by
  induction hreach with
  | refl => exact .refl
  | tail _ hnext ih =>
      obtain ⟨-, a, -, hstep⟩ := hnext
      exact ih.tail ⟨a, hstep⟩

/-- What every state of a timed run satisfies. -/
structure Kept (S : PackageSim P capacity init) (schedule : PreparedScheduleView)
    (x : TimedExecution P arena) : Prop where
  consistent : x.1.Consistent schedule
  tallied : x.1.Tallied schedule
  onTime : x.1.OnTime schedule x.2
  timeline : ∃ prows crows,
    Timeline S x.1.client prows crows (x.2 - x.1.barrier.measurementOriginTicks)

/-- The time since the measurement origin does not go back. -/
theorem elapsed_mono {origin now now' : UInt64} (horigin : origin ≤ now) (hle : now ≤ now') :
    now - origin ≤ now' - origin := by
  rw [UInt64.le_iff_toNat_le, UInt64.toNat_sub_of_le _ _ horigin,
    UInt64.toNat_sub_of_le _ _ (UInt64.le_trans horigin hle)]
  exact Nat.sub_le_sub_right (UInt64.le_iff_toNat_le.mp hle) _

theorem Kept.timeline_step {e e' : Execution (capturingObservationBackend P arena)}
    {now : UInt64} (horigin : schedule.originTicks = 0) (hc : e.Consistent schedule)
    (ht : e.Tallied schedule) (hontime : e.OnTime schedule now)
    {prows : List ProducerObservation} {crows : List ConsumerObservation}
    (h : Timeline S e.client prows crows (now - e.barrier.measurementOriginTicks))
    {a : ThreadStep ClockReadResult ClockReadResult}
    (hreads : ReadsAt e.barrier.measurementOriginTicks now a)
    (hstep : e.step schedule limits a = some e') :
    ∃ prows crows, Timeline S e'.client prows crows (now - e'.barrier.measurementOriginTicks) := by
  cases a with
  | producer reading input =>
      have hcases := Execution.producerStep_cases hstep
      have hbarrier : e'.barrier.measurementOriginTicks = e.barrier.measurementOriginTicks := by
        cases hcases <;> rfl
      have hdue : ∀ attempt, e.producer.point = .attempt attempt →
          attempt.scheduledDeadline ≤ now - e.barrier.measurementOriginTicks := by
        intro attempt hpoint
        have hle := hontime.attempt_due hpoint
        rwa [horigin, UInt64.sub_zero] at hle
      obtain ⟨prows', h'⟩ := h.producer_step hc ht hdue hreads.2 hcases
      rw [hbarrier]
      exact ⟨prows', crows, h'⟩
  | consumer input =>
      have hcases := Execution.consumerStep_cases hstep
      have hbarrier : e'.barrier.measurementOriginTicks = e.barrier.measurementOriginTicks := by
        cases hcases <;> rfl
      obtain ⟨crows', h'⟩ := h.consumer_step hc ht hreads hcases
      rw [hbarrier]
      exact ⟨prows, crows', h'⟩
  | controller reading =>
      refine ⟨prows, crows, ?_⟩
      cases Execution.controllerStep_cases hstep with
      | storedOrigin origin hpoint =>
          have hreleased : e.barrier.released = false := by
            rw [hc.released, hpoint]
            rfl
          exact h.unreleased hc hreleased _
      | _ => exact h

theorem Kept.step (h : Kept S schedule x) (horigin : schedule.originTicks = 0)
    (hnext : Next schedule limits x y) : Kept S schedule y := by
  obtain ⟨hle, a, hreads, hstep⟩ := hnext
  obtain ⟨prows, crows, htimeline⟩ := h.timeline
  have hontime := h.onTime.mono hle
  have hticks : a.TicksAt y.2 := by
    cases a with
    | producer reading input => exact hreads.1
    | consumer input => trivial
    | controller reading => exact hreads
  exact
    { consistent := h.consistent.step hstep
      tallied := h.tallied.step h.consistent hstep
      onTime := hontime.step h.consistent hticks hstep
      timeline := Kept.timeline_step horigin h.consistent h.tallied hontime
        (htimeline.mono (elapsed_mono h.onTime.origin hle)) hreads hstep }

/-- **Every timed run keeps its rows in order and paired.** -/
theorem Reaches.kept (S : PackageSim P capacity init) (horigin : schedule.originTicks = 0)
    {consumerState : ConsumerState} {ps : ProducerObservationStream}
    {cs : ConsumerObservationStream} (hproducer : ps.Holds []) (hconsumer : cs.Holds [])
    {start : UInt64}
    (hreach : Reaches schedule limits
      (Execution.start (B := capturingObservationBackend P arena) limits ⟨0⟩
        ⟨init, consumerState, ps, cs⟩, start) y) : Kept S schedule y := by
  induction hreach with
  | refl =>
      refine ⟨.start limits _ _ rfl, .start limits _ _, .start limits _ _ start, [], [], ?_⟩
      refine Timeline.idle S (Recorded.start _ hproducer hconsumer) rfl rfl ?_ _
      obtain ⟨room, hsim⟩ := S.sim_init
      exact ⟨room, hsim, nofun, nofun⟩
  | tail _ hnext ih => exact ih.step horigin hnext

end TimedExecution

end CpuPrefetch.Storage
