/-
Which enqueue a consumer row goes with.

Every record in the queue is carried as an entry: the logical sequence it was placed
for, and the reading of the enqueue that placed it.  While no attempt and no poll has
failed, the entries of the accepted rows are those the consumer rows were made from,
the one the consumer has in hand, and those in the queue, in this order.  A dequeue's
observer is asked only while the entry it is going to take is at the head of the
queue, so its reading is not before that entry's.
-/
import CpuPrefetch.Proofs.Storage.Timeline

namespace CpuPrefetch.Storage

open Lifecycle (Answered ProducerAttempt ProducerAttemptResult ConsumerPollResult)
open Queue (Package PackageSim EnqueueResult)
open Spsc (Places Takes)
open Timing (ClockReadResult ClockSample DueArrival DueCapture PollCapture ProducerObservation
  ConsumerObservation producerObservation)
open Workload (EventArena)
open CapturingObservationBackend

variable {P : Package Nat} {arena : EventArena} {capacity : Nat} {init : P.State}
  {S : PackageSim P capacity init} {now now' : UInt64} {input : ClockReadResult}

/-! ### Entries -/

/-- A record that was placed, for this logical sequence and with this reading. -/
structure Entry where
  sequence : UInt64
  linearization : UInt64
  deriving DecidableEq

/-- The record's address. -/
def Entry.record (arena : EventArena) (x : Entry) : Nat := (arena.select x.sequence).record

/-- The entry an accepted row was made for. -/
def entryOf (row : ProducerObservation) : Entry :=
  ⟨row.logicalSequence, (row.enqueueLinearization.getD ⟨0, 0⟩).relativePicoseconds⟩

/-- The entry of an attempt that has been accepted and has no row yet. -/
def pendingEntry : DueCapture P → List Entry
  | .completion due _ _ _ _ reading .accepted =>
      [⟨due.logicalSequence, reading.sample.relativePicoseconds⟩]
  | _ => []

/-- The entry the producer's call has placed and made no row for. -/
def pendingOf : Option (ProducerAttempt × DueCapture P) → List Entry
  | none => []
  | some (_, call) => pendingEntry call

/-- The entries placed so far. -/
def placedEntries (prows : List ProducerObservation)
    (pcall : Option (ProducerAttempt × DueCapture P)) : List Entry :=
  (acceptedRows prows).map entryOf ++ pendingOf pcall

variable {call' : DueCapture P}

/-- A call that goes on has placed nothing before its step. -/
theorem placed_before {s s' : P.State} {call : DueCapture P}
    (h : DueCapture.Step arena input s call s' (.running call')) :
    attemptDone call = none ∧ pendingEntry call = [] := by
  cases h <;> exact ⟨rfl, rfl⟩

/-- The entry a running poll has taken. -/
def InHand (arena : EventArena) : PollCapture P → List Entry → Prop
  | .completion _ _ reading event, hand =>
      ∃ x : Entry, hand = [x] ∧ event = some (x.record arena) ∧
        x.linearization ≤ reading.sample.relativePicoseconds
  | .action _ _ reading _ _ recordIndex, hand =>
      ∃ x : Entry, hand = [x] ∧ recordIndex = (arena.select x.sequence).recordIndex ∧
        x.linearization ≤ reading.sample.relativePicoseconds
  | _, hand => hand = []

/-- A dequeue whose observer has accepted was asked after the head was placed. -/
def Seen (S : PackageSim P capacity init) (queue : List Entry) : PollCapture P → Prop
  | .dequeue _ _ reading call => S.cObserved call = true →
      ∃ x rest, queue = x :: rest ∧ x.linearization ≤ reading.sample.relativePicoseconds
  | _ => True

/-- The consumer row was made from this entry, which was placed before it was observed. -/
structure MadeFrom (arena : EventArena) (x : Entry) (row : ConsumerObservation) : Prop where
  recordIndex : row.observedRecordIndex = (arena.select x.sequence).recordIndex
  ordered : x.linearization ≤ row.dequeueLinearization.relativePicoseconds

/-- The entries placed so far, by where they are. -/
structure Paired (S : PackageSim P capacity init) (c : CaptureClient P arena)
    (prows : List ProducerObservation) (crows : List ConsumerObservation) (now : UInt64)
    (taken hand queue : List Entry) (room : Nat) : Prop where
  sim : Simulates S arena c.backend c.pcall c.ccall (queue.map (Entry.record arena)) room
  balance : placedEntries prows c.pcall = taken ++ hand ++ queue
  made : List.Forall₂ (MadeFrom arena) taken crows
  idle : c.ccall = none → hand = []
  inHand : ∀ call, c.ccall = some call → InHand arena call hand
  seen : ∀ call, c.ccall = some call → Seen S queue call
  past : ∀ x ∈ queue, x.linearization ≤ now

namespace Paired

variable {c : CaptureClient P arena} {prows : List ProducerObservation}
  {crows : List ConsumerObservation} {taken hand queue : List Entry} {room : Nat}
  {attempt : ProducerAttempt} {s : State P}

theorem mono (h : Paired S c prows crows now taken hand queue room) (hle : now ≤ now') :
    Paired S c prows crows now' taken hand queue room :=
  { h with past := fun x hx => UInt64.le_trans (h.past x hx) hle }

/-! ### The producer's steps -/

theorem pBegin (h : Paired S c prows crows now taken hand queue room) (hcall : c.pcall = none)
    (attempt : ProducerAttempt) :
    Paired S { c with
      pcall := some (attempt, (capturingObservationBackend P arena).pBegin attempt) }
      prows crows now taken hand queue room := by
  have hsim := h.sim
  have hbalance := h.balance
  rw [hcall] at hsim hbalance
  exact { h with sim := hsim.attempt_begin attempt, balance := hbalance }

/-- The queue after a step that places this entry, or none. -/
theorem place (h : Paired S c prows crows now taken hand queue room) {placed : List Entry}
    {room' : Nat} (hcall : pendingOf c.pcall = [])
    (hsim : Simulates S arena s (some (attempt, call')) c.ccall
      ((queue ++ placed).map (Entry.record arena)) room')
    (hpending : pendingEntry call' = placed) (hpast : ∀ x ∈ placed, x.linearization ≤ now) :
    Paired S { c with state := s, pcall := some (attempt, call') } prows crows now taken hand
      (queue ++ placed) room' := by
  refine { h with sim := hsim, balance := ?_, seen := ?_, past := ?_ }
  · have hold : (acceptedRows prows).map entryOf ++ pendingOf c.pcall = _ := h.balance
    rw [hcall, List.append_nil] at hold
    show (acceptedRows prows).map entryOf ++ pendingEntry call' = _
    rw [hold, hpending, List.append_assoc _ queue]
  · intro call hc
    have hseen := h.seen call hc
    cases call with
    | dequeue ordinal invoked reading dequeue =>
        intro hobserved
        obtain ⟨x, rest, rfl, hle⟩ := hseen hobserved
        exact ⟨x, rest ++ placed, rfl, hle⟩
    | _ => trivial
  · intro x hx
    rcases List.mem_append.mp hx with hold | hnew
    · exact h.past x hold
    · exact hpast x hnew

theorem pRunning (h : Paired S c prows crows now taken hand queue room) {call : DueCapture P}
    (horder : AttemptInOrder S now call') (hcall : c.pcall = some (attempt, call))
    (hs : attemptStep arena input c.backend call = (s, .running call')) :
    ∃ queue' room', Paired S { c with state := s, pcall := some (attempt, call') } prows crows now
      taken hand queue' room' := by
  have hsim := h.sim
  rw [hcall] at hsim
  obtain ⟨v, queue', room', hshow, hplace, hsim'⟩ := hsim.attempt_step hs
  obtain ⟨hcapture, -, -⟩ := attemptStep_running hs
  have hhandles := hsim.2.1 attempt call rfl
  obtain rfl : v = attemptDone call' := hshow
  -- What the call had placed before, and what it has placed now.
  obtain ⟨hdone, hpending⟩ := placed_before hcapture
  have hidle : pendingOf c.pcall = [] := by
    rw [hcall]
    exact hpending
  rw [hdone] at hplace
  have hsame : pendingEntry call' = [] → queue' = queue.map (Entry.record arena) →
      ∃ queue' room', Paired S { c with state := s, pcall := some (attempt, call') } prows crows
        now taken hand queue' room' := by
    intro hpending heq
    refine ⟨queue ++ [], room', h.place hidle ?_ hpending nofun⟩
    rw [List.append_nil, ← heq]
    exact hsim'
  generalize s.package = package' at hcapture
  cases hcapture with
  | answered due begun lookup invoked recordIndex pointer reading enqueue package result hstep =>
      cases result with
      | full =>
          cases hplace with
          | full hlength => exact hsame rfl rfl
      | accepted =>
          cases hplace with
          | put hlt =>
              refine ⟨_, room, h.place hidle ?_ rfl ?_⟩
              · rw [List.map_append]
                have hdue : due = dueArrival attempt := hhandles.1
                subst hdue
                exact hsim'
              · intro x hx
                obtain rfl := List.mem_singleton.mp hx
                exact (horder.2 rfl).past
  | _ =>
      cases hplace with
      | idle hroom => exact hsame rfl rfl

variable {invoked : ClockSample} {reading : ClockReadResult}

/-- The entry of a complete attempt is the one of its row. -/
theorem pComplete (h : Paired S c prows crows now taken hand queue room) {due : DueArrival}
    {begun lookup completion : ClockSample} {recordIndex : UInt64} {result : EnqueueResult}
    {r : ProducerAttemptResult}
    (hcall : c.pcall =
      some (attempt, .completion due begun lookup invoked recordIndex reading result))
    (hs : attemptStep arena input c.backend
      (.completion due begun lookup invoked recordIndex reading result) = (s, .returned r)) :
    ∃ room', Paired S { c with
      state := s, pcall := none, enqueued := c.enqueued ++ [(attempt, ⟨.complete, result⟩)] }
      (prows ++ [producerObservation due begun lookup invoked recordIndex reading result
        completion]) crows now taken hand queue room' := by
  have hsim := h.sim
  have hbalance := h.balance
  rw [hcall] at hsim hbalance
  obtain ⟨v, queue', room', -, hplace, hsim'⟩ := hsim.attempt_step hs
  cases hplace with
  | idle hroom =>
      refine ⟨room', { h with sim := hsim', balance := ?_ }⟩
      have hrow : placedEntries (prows ++ [producerObservation due begun lookup invoked recordIndex
            reading result completion]) (none : Option (ProducerAttempt × DueCapture P)) =
          placedEntries prows (some (attempt,
            (.completion due begun lookup invoked recordIndex reading result : DueCapture P))) := by
        cases result with
        | accepted =>
            simp [placedEntries, acceptedRows, pendingOf, pendingEntry, entryOf,
              producerObservation]
        | full => simp [placedEntries, acceptedRows, pendingOf, pendingEntry, producerObservation]
      exact hrow.trans hbalance

/-! ### The consumer's steps -/

theorem cBegin (h : Paired S c prows crows now taken hand queue room) (hcall : c.ccall = none)
    (ordinal : UInt64) :
    Paired S { c with ccall := some ((capturingObservationBackend P arena).cBegin ordinal) }
      prows crows now taken hand queue room := by
  have hsim := h.sim
  rw [hcall] at hsim
  refine { h with sim := hsim.poll_begin ordinal, idle := nofun, inHand := ?_, seen := ?_ }
  · intro call heq
    obtain rfl := Option.some.inj heq
    exact h.idle hcall
  · intro call heq
    obtain rfl := Option.some.inj heq
    trivial

/-- The queue a running poll that goes on leaves untouched. -/
theorem keeps (h : Paired S c prows crows now taken hand queue room) {call' : PollCapture P}
    (hsim : Simulates S arena s c.pcall (some call') (queue.map (Entry.record arena)) room)
    (hhand : InHand arena call' hand) (hseen : Seen S queue call') :
    Paired S { c with state := s, ccall := some call' } prows crows now taken hand queue room := by
  refine { h with sim := hsim, idle := nofun, inHand := ?_, seen := ?_ }
  · intro call heq
    obtain rfl := Option.some.inj heq
    exact hhand
  · intro call heq
    obtain rfl := Option.some.inj heq
    exact hseen

/-- An observer that accepts now was asked with something at the head of the queue. -/
theorem seen_now (h : Paired S c prows crows now taken hand queue room) {ordinal : UInt64}
    {dequeue : P.CCall} (hcall : c.ccall = some (.dequeue ordinal invoked reading dequeue))
    (hobserves : P.cObserves dequeue = true) (hread : ReadAt now input) (hok : input.isOk = true) :
    ∃ x rest, queue = x :: rest ∧ x.linearization ≤ input.sample.relativePicoseconds := by
  have hsim := h.sim.1
  rw [hcall] at hsim
  have hnonempty := S.cObserves_nonempty hsim hobserves
  cases queue with
  | nil => exact absurd rfl hnonempty
  | cons x rest =>
      refine ⟨x, rest, rfl, ?_⟩
      rw [hread hok]
      exact h.past x List.mem_cons_self

theorem cRunning (h : Paired S c prows crows now taken hand queue room)
    {call call' : PollCapture P} (hread : ReadAt now input) (hcall : c.ccall = some call)
    (hs : pollStep arena input c.backend call = (s, .running call')) :
    ∃ hand' queue', Paired S { c with state := s, ccall := some call' } prows crows now taken
      hand' queue' room := by
  have hsim := h.sim
  rw [hcall] at hsim
  obtain ⟨v, records, hshow, htake, hsim'⟩ := hsim.poll_step hs
  obtain ⟨hcapture, -, -⟩ := pollStep_running hs
  have hhand := h.inHand call hcall
  have hseen := h.seen call hcall
  obtain rfl : v = pollDone call' := hshow
  generalize (s.package, s.consumerState) = x at hcapture
  cases hcapture with
  | begins ordinal hok =>
      cases htake with
      | idle =>
          refine ⟨hand, queue, h.keeps hsim' hhand fun hobserved => ?_⟩
          rw [S.cObserved_begin] at hobserved
          cases hobserved
  | runs ordinal invoked reading dequeue dequeue' package hstep =>
      cases htake with
      | idle =>
          refine ⟨hand, queue, h.keeps hsim' hhand fun hobserved => ?_⟩
          rcases S.cObserved_step hstep hobserved with hbefore | ⟨hobserves, hok⟩
          · rw [S.cObserved_once hbefore]
            exact hseen hbefore
          · rw [hobserves]
            exact h.seen_now hcall hobserves hread hok
  | took ordinal invoked reading dequeue package event hstep =>
      have hobserved := S.cObserved_item hstep
      obtain ⟨x, rest, rfl, hle⟩ := hseen hobserved
      obtain rfl : hand = [] := hhand
      cases htake with
      | take =>
          refine ⟨[x], rest, ?_⟩
          refine { h with
            sim := hsim', balance := ?_, idle := nofun, inHand := ?_, seen := ?_, past := ?_ }
          · rw [h.balance]
            simp
          · intro call heq
            obtain rfl := Option.some.inj heq
            refine ⟨x, rfl, rfl, ?_⟩
            rw [S.cObserved_once hobserved]
            exact hle
          · intro call heq
            obtain rfl := Option.some.inj heq
            trivial
          · intro y hy
            exact h.past y (List.mem_cons_of_mem x hy)
  | accesses ordinal invoked reading event hok hvalid =>
      obtain ⟨x, rfl, rfl, hle⟩ := hhand
      cases htake with
      | idle =>
          refine ⟨[x], queue, h.keeps hsim' ⟨x, rfl, ?_, hle⟩ trivial⟩
          exact (arena.accessAndMix_select x.sequence _).2

/-- The row of a poll that took an item is made from the entry in hand. -/
theorem cItem (h : Paired S c prows crows now taken hand queue room)
    {ordinal recordIndex : UInt64} {completed : ClockSample} {action : ClockSample}
    {event : Option Nat} {r : ConsumerPollResult}
    (hcall : c.ccall = some (.action ordinal invoked reading completed event recordIndex))
    (hs : pollStep arena input c.backend
      (.action ordinal invoked reading completed event recordIndex) = (s, .returned r)) :
    ∃ taken', Paired S { c with
      state := s, ccall := none, dequeued := c.dequeued ++ [⟨.item⟩] } prows
      (crows ++ [⟨ordinal, recordIndex, invoked, reading.sample, completed, action⟩]) now taken'
      [] queue room := by
  have hsim := h.sim
  rw [hcall] at hsim
  obtain ⟨v, records, -, htake, hsim'⟩ := hsim.poll_step hs
  obtain ⟨x, rfl, hindex, hle⟩ := h.inHand _ hcall
  cases htake with
  | idle =>
      refine ⟨taken ++ [x], ?_⟩
      refine { h with
        sim := hsim', balance := ?_, made := ?_, idle := fun _ => rfl, inHand := nofun
        seen := nofun }
      · rw [h.balance]
        simp
      · exact List.rel_append h.made (.cons ⟨hindex, hle⟩ .nil)

/-- A poll that found the queue empty took nothing. -/
theorem cEmpty (h : Paired S c prows crows now taken hand queue room) {call : PollCapture P}
    (hcall : c.ccall = some call)
    (hs : pollStep arena input c.backend call = (s, .returned ⟨.empty⟩)) :
    Paired S { c with state := s, ccall := none, dequeued := c.dequeued ++ [⟨.empty⟩] } prows
      crows now taken hand queue room := by
  have hsim := h.sim
  rw [hcall] at hsim
  obtain ⟨v, records, hshow, htake, hsim'⟩ := hsim.poll_step hs
  obtain rfl : v = some none := hshow
  have hhand := h.inHand call hcall
  have hfound := hsim.2.2 call rfl
  have hempty : pollDone call = none ∧ records = queue.map (Entry.record arena) := by
    generalize pollDone call = done at htake hfound
    generalize queue.map (Entry.record arena) = records' at htake
    cases htake with
    | idle => exact absurd rfl hfound
    | empty => exact ⟨rfl, rfl⟩
  have hnone : hand = [] := by
    cases call with
    | invocation | dequeue => exact hhand
    | completion | action => cases hempty.1
  rw [hempty.2] at hsim'
  exact { h with sim := hsim', idle := fun _ => hnone, inHand := nofun, seen := nofun }

end Paired

end CpuPrefetch.Storage
