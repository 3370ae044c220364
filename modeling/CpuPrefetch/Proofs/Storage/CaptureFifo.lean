/-
The capturing backend over a FIFO package is a FIFO backend.

A capture takes effect where the queue operation inside it does, in the step in which
that operation returns: an attempt has then placed its record, or found the queue
full, and what is left is one clock read and the append.  If either of these fails,
the attempt is reported as failed although its record is in the queue.
-/
import CpuPrefetch.Proofs.Lifecycle.Conservation
import CpuPrefetch.Storage.CaptureBackend

namespace CpuPrefetch.Storage

open Lifecycle (Backend ProducerAttempt ProducerAttemptResult ConsumerPollResult attemptAgrees
  pollAgrees)
open Queue (Package PackageSim EnqueueResult)
open Spsc (Places Takes)
open Timing (ClockReadResult DueArrival DueCapture PollCapture ProducerCaptureResult
  ConsumerCaptureResult producerObservation)
open Workload (EventArena ConsumerState)

variable {P : Package Nat} {arena : EventArena} {capacity : Nat} {init : P.State}

namespace CapturingObservationBackend

/-- The record an attempt places. -/
def recordOf (arena : EventArena) (attempt : ProducerAttempt) : Nat :=
  (arena.select attempt.logicalSequence).record

/-! ### Captures and the operations inside them -/

/-- The running capture belongs to this attempt and handles the record selected for it. -/
def Handles (arena : EventArena) (attempt : ProducerAttempt) : DueCapture P → Prop
  | .handleBegin due | .recordLookup due _ => due = dueArrival attempt
  | .invocation due _ _ recordIndex pointer | .enqueue due _ _ _ recordIndex pointer _ _ =>
      due = dueArrival attempt ∧ pointer = recordOf arena attempt ∧
        recordIndex = (arena.select attempt.logicalSequence).recordIndex
  | .completion due _ _ _ recordIndex _ _ =>
      due = dueArrival attempt ∧ recordIndex = (arena.select attempt.logicalSequence).recordIndex

/-- The enqueue a running capture is inside of. -/
def enqueueOf : DueCapture P → Option (Nat × P.PCall)
  | .enqueue _ _ _ _ _ pointer _ call => some (pointer, call)
  | _ => none

/-- The dequeue a running capture is inside of. -/
def dequeueOf : PollCapture P → Option P.CCall
  | .dequeue _ _ _ call => some call
  | _ => none

/-- The effect a running attempt has had. -/
def attemptDone : DueCapture P → Option Bool
  | .completion _ _ _ _ _ _ result => some (result = .accepted)
  | _ => none

/-- The effect a running poll has had. -/
def pollDone : PollCapture P → Option (Option Nat)
  | .completion _ _ _ event | .action _ _ _ _ event _ => some event
  | _ => none

variable {input : ClockReadResult}

theorem Handles.step {attempt : ProducerAttempt} {s s' : P.State} {call call' : DueCapture P}
    (h : Handles arena attempt call)
    (hstep : DueCapture.Step arena input s call s' (.running call')) :
    Handles arena attempt call' := by
  cases hstep with
  | begins due hok => exact h
  | looksUp due begun hok =>
      obtain rfl : due = dueArrival attempt := h
      exact ⟨rfl, rfl, rfl⟩
  | invokes => exact h
  | runs => exact h
  | answered => exact ⟨h.1, h.2.2⟩

/-! ### The simulation -/

/-- The queue behind the backend is the package's; a running poll has not found it empty. -/
def Simulates (S : PackageSim P capacity init) (arena : EventArena) (s : State P)
    (p : Option (ProducerAttempt × DueCapture P)) (c : Option (PollCapture P)) (queue : List Nat)
    (room : Nat) : Prop :=
  S.Sim s.package (p.bind fun x => enqueueOf x.2) (c.bind dequeueOf) queue room ∧
    (∀ attempt call, p = some (attempt, call) → Handles arena attempt call) ∧
    ∀ call, c = some call → pollDone call ≠ some none

variable {S : PackageSim P capacity init} {s s' : State P} {attempt : ProducerAttempt}
  {queue : List Nat} {room : Nat}

theorem Simulates.attempt_begin {c : Option (PollCapture P)}
    (h : Simulates S arena s none c queue room) (attempt : ProducerAttempt) :
    Simulates S arena s (some (attempt, .handleBegin (dueArrival attempt))) c queue room := by
  refine ⟨h.1, fun a call heq => ?_, h.2.2⟩
  obtain ⟨rfl, rfl⟩ := Prod.mk.inj (Option.some.inj heq)
  rfl

theorem Simulates.poll_begin {p : Option (ProducerAttempt × DueCapture P)}
    (h : Simulates S arena s p none queue room) (ordinal : UInt64) :
    Simulates S arena s p (some (.invocation ordinal)) queue room := by
  refine ⟨h.1, h.2.1, fun call heq => ?_⟩
  obtain rfl := Option.some.inj heq
  nofun

/-- The effect of an attempt whose row was not committed is not reported. -/
theorem attemptResult_agrees (stream : ProducerObservationStream) (due : DueArrival)
    (begun lookup invoked completed : Timing.ClockSample) (recordIndex : UInt64)
    (reading : ClockReadResult) (result : EnqueueResult) :
    attemptAgrees (attemptResult stream ⟨.complete, none, .ok, some (producerObservation due begun
      lookup invoked recordIndex reading result completed)⟩).2 (some (result = .accepted)) := by
  unfold attemptResult
  simp only
  split
  · trivial
  · cases result <;> rfl

theorem Simulates.attempt_step {call : DueCapture P} {c : Option (PollCapture P)}
    (h : Simulates S arena s (some (attempt, call)) c queue room)
    {out : Outcome (DueCapture P) ProducerAttemptResult}
    (hstep : attemptStep arena input s call = (s', out)) :
    ∃ v queue' room', out.Shows attemptDone attemptAgrees v ∧
      Places (recordOf arena attempt) (attemptDone call) v queue room queue' room' ∧
      Simulates S arena s' (out.call?.map (attempt, ·)) c queue' room' := by
  obtain ⟨hsim, hhandles, hfound⟩ := h
  have hcall := hhandles attempt call rfl
  rcases attemptStep_cases arena hstep with
    ⟨package, call', hcapture, rfl, rfl⟩ | ⟨package, captured, hcapture, rfl, rfl⟩
  · have hcall' : ∀ a k, some (attempt, call') = some (a, k) → Handles arena a k := by
      intro a k heq
      obtain ⟨rfl, rfl⟩ := Prod.mk.inj (Option.some.inj heq)
      exact hcall.step hcapture
    cases hcapture with
    | begins | looksUp => exact ⟨none, queue, room, rfl, .idle (Nat.le_refl _), hsim,
      hcall', hfound⟩
    | invokes due begun lookup recordIndex pointer hok =>
        obtain ⟨-, hsim'⟩ := S.p_begin pointer hsim
        exact ⟨none, queue, room, rfl, .idle (Nat.le_refl _), hsim', hcall', hfound⟩
    | runs due begun lookup invoked recordIndex pointer reading enqueue enqueue' package hs =>
        obtain ⟨v, queue', room', hshow, hplace, hsim'⟩ := S.p_step input.isOk hsim hs
        obtain rfl : v = none := hshow.trans (S.pDone_eq enqueue')
        rw [S.item_eq, S.pDone_eq, hcall.2.1] at hplace
        exact ⟨none, queue', room', rfl, hplace, hsim', hcall', hfound⟩
    | answered due begun lookup invoked recordIndex pointer reading enqueue package result hs =>
        obtain ⟨v, queue', room', hshow, hplace, hsim'⟩ := S.p_step input.isOk hsim hs
        rw [S.item_eq, S.pDone_eq, hcall.2.1] at hplace
        refine ⟨v, queue', room', ?_, hplace, hsim', hcall', hfound⟩
        cases result <;> exact hshow
  · have hnone : ∀ a k, none = some (a, k) → @Handles P arena a k := nofun
    cases hcapture with
    | beginFails | lookupFails | invocationFails =>
        exact ⟨none, queue, room, trivial, .idle (Nat.le_refl _), hsim, hnone, hfound⟩
    | boundaryFails due begun lookup invoked recordIndex pointer reading enqueue package result
        hs =>
        obtain ⟨v, queue', room', hshow, hplace, hsim'⟩ := S.p_step input.isOk hsim hs
        rw [S.item_eq, S.pDone_eq, hcall.2.1] at hplace
        exact ⟨v, queue', room', trivial, hplace, hsim', hnone, hfound⟩
    | completes due begun lookup invoked recordIndex reading result hok =>
        exact ⟨_, queue, room, attemptResult_agrees .., .idle (Nat.le_refl _), hsim, hnone, hfound⟩
    | completionFails due begun lookup invoked recordIndex reading result hok =>
        exact ⟨_, queue, room, trivial, .idle (Nat.le_refl _), hsim, hnone, hfound⟩

/-- A poll that has taken an event returns an item, or fails. -/
theorem pollResult_agrees (stream : ConsumerObservationStream)
    (observation : Timing.ConsumerObservation) (event : Nat) :
    pollAgrees (pollResult stream ⟨.complete, none, .ok, .valid, some observation⟩).2
      (some (some event)) := by
  unfold pollResult
  simp only
  split
  · trivial
  · exact ⟨event, rfl⟩

theorem Simulates.poll_step {p : Option (ProducerAttempt × DueCapture P)} {call : PollCapture P}
    (h : Simulates S arena s p (some call) queue room)
    {out : Outcome (PollCapture P) ConsumerPollResult}
    (hstep : pollStep arena input s call = (s', out)) :
    ∃ v queue', out.Shows pollDone pollAgrees v ∧ Takes (pollDone call) v queue queue' ∧
      Simulates S arena s' p out.call? queue' room := by
  obtain ⟨hsim, hhandles, hfound⟩ := h
  have hcall := hfound call rfl
  rcases pollStep_cases arena hstep with
    ⟨x, call', hcapture, rfl, rfl⟩ | ⟨x, captured, hcapture, rfl, rfl⟩
  · have hidle : pollDone call' ≠ some none →
        ∀ k, some call' = some k → pollDone k ≠ some none := by
      intro hne k heq
      rwa [← Option.some.inj heq]
    cases hcapture with
    | begins ordinal hok =>
        obtain ⟨-, hsim'⟩ := S.c_begin () hsim
        exact ⟨none, queue, rfl, .idle, hsim', hhandles, hidle nofun⟩
    | runs ordinal invoked reading dequeue dequeue' package hs =>
        obtain ⟨v, queue', hshow, htake, hsim'⟩ := S.c_step input.isOk hsim hs
        obtain rfl : v = none := hshow.trans (S.cDone_eq dequeue')
        rw [S.cDone_eq] at htake
        exact ⟨none, queue', rfl, htake, hsim', hhandles, hidle nofun⟩
    | took ordinal invoked reading dequeue package event hs =>
        obtain ⟨v, queue', ⟨rfl, hsome⟩, htake, hsim'⟩ := S.c_step input.isOk hsim hs
        rw [S.cDone_eq] at htake
        refine ⟨some event, queue', rfl, htake, hsim', hhandles, hidle ?_⟩
        intro heq
        exact hsome (Option.some.inj heq)
    | accesses ordinal invoked reading event hok hvalid =>
        exact ⟨some event, queue, rfl, .idle, hsim, hhandles, hidle hcall⟩
  · have hnone : ∀ k, none = some k → @pollDone P k ≠ some none := nofun
    cases hcapture with
    | beginFails ordinal hok => exact ⟨none, queue, trivial, .idle, hsim, hhandles, hnone⟩
    | boundaryFails ordinal invoked reading dequeue package result hs =>
        obtain ⟨v, queue', hshow, htake, hsim'⟩ := S.c_step input.isOk hsim hs
        rw [S.cDone_eq] at htake
        exact ⟨v, queue', trivial, htake, hsim', hhandles, hnone⟩
    | foundEmpty ordinal invoked reading dequeue package event hs =>
        obtain ⟨v, queue', rfl, htake, hsim'⟩ := S.c_step input.isOk hsim hs
        rw [S.cDone_eq] at htake
        exact ⟨some none, queue', rfl, htake, hsim', hhandles, hnone⟩
    | broken ordinal invoked reading dequeue package event hs =>
        -- A FIFO package never reports its recycler broken.
        obtain ⟨v, queue', hshow, -⟩ := S.c_step input.isOk hsim hs
        exact hshow.elim
    | accessFails ordinal invoked reading event hok hvalid =>
        exact ⟨_, queue, trivial, .idle, hsim, hhandles, hnone⟩
    | completionFails ordinal invoked reading event hok =>
        exact ⟨_, queue, trivial, .idle, hsim, hhandles, hnone⟩
    | acts ordinal invoked reading completed event recordIndex hok =>
        cases event with
        | none => exact absurd rfl hcall
        | some event =>
            exact ⟨some (some event), queue, pollResult_agrees .., .idle, hsim, hhandles, hnone⟩
    | actionFails ordinal invoked reading completed event recordIndex hok =>
        exact ⟨_, queue, trivial, .idle, hsim, hhandles, hnone⟩

end CapturingObservationBackend

open CapturingObservationBackend

/-- **The capturing backend over a FIFO package is a FIFO of the selected records.** -/
def capturingFifo (S : PackageSim P capacity init) (arena : EventArena)
    (consumerState : ConsumerState) (producerStream : ProducerObservationStream)
    (consumerStream : ConsumerObservationStream) :
    (capturingObservationBackend P arena).Fifo Nat capacity
      ⟨init, consumerState, producerStream, consumerStream⟩ where
  item := recordOf arena
  pDone := attemptDone
  cDone := pollDone
  Sim := Simulates S arena
  sim_init := by
    obtain ⟨room, hsim⟩ := S.sim_init
    exact ⟨room, hsim, nofun, nofun⟩
  sim_bound h := S.sim_bound h.1
  p_begin attempt h := ⟨rfl, h.attempt_begin attempt⟩
  c_begin ordinal h := ⟨rfl, h.poll_begin ordinal⟩
  p_step _ h hstep := h.attempt_step hstep
  c_step _ h hstep := h.poll_step hstep

end CpuPrefetch.Storage
