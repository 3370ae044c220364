/-
The bounded ring.

`C` pointer slots, null meaning empty, and a private cursor on each side; there is
no shared counter.  Each operation makes one acquire load of the slot under its own
cursor and at most one release store to it.  A step below is one such access
together with the private work that follows it, or the call of the boundary
observer.  Events are non-null pointers, so a slot is an `Option`.
-/
import CpuPrefetch.Queue.Common

namespace CpuPrefetch.Queue

structure RingSpscQueue (α : Type) where
  capacity : Nat
  slots : Nat → Option α
  producerPosition : Nat
  consumerPosition : Nat

namespace RingSpscQueue

variable {α : Type}

/-- The queue the constructor leaves behind. -/
def initial (capacity : Nat) : RingSpscQueue α := ⟨capacity, fun _ => none, 0, 0⟩

/-- The size of a slot, `sizeof(const void*)`. -/
def slotBytes : Nat := 8

/-- The constructor. -/
def make (capacity cacheLineBytes : Nat) : Setup (RingSpscQueue α) := do
  validateCacheLineBytes cacheLineBytes
  if capacity = 0 then throw "ring capacity must be nonzero"
  let _ ← checkedMultiply capacity slotBytes
  let _ ← checkedMultiply 2 cacheLineBytes
  pure (initial capacity)

/-- Where a running `try_enqueue` stands: the access it makes next. -/
inductive EnqueueCall (α : Type) where
  | slotLoad (event : α)
  | beforePublication (event : α) (position : Nat)
  | slotStore (event : α) (position : Nat)

/-- Where a running `try_dequeue` stands: the access it makes next. -/
inductive DequeueCall (α : Type) where
  | slotLoad
  | afterObservation (event : α) (position : Nat)
  | slotClear (event : α) (position : Nat)

/-- One step of `try_enqueue_observed`; `accepts` is the observer's answer. -/
def enqueueStep (accepts : Bool) (q : RingSpscQueue α) :
    EnqueueCall α → RingSpscQueue α × Outcome (EnqueueCall α) BoundaryEnqueueResult
  | .slotLoad event =>
      let position := q.producerPosition
      match q.slots position with
      | some _ => (q, .returned ⟨.complete, .full⟩)
      | none => (q, .running (.beforePublication event position))
  | .beforePublication event position =>
      if accepts then (q, .running (.slotStore event position))
      else (q, .returned ⟨.captureFailed, .full⟩)
  | .slotStore event position =>
      ({ q with
          slots := Function.update q.slots position (some event)
          producerPosition := nextPosition q.capacity position },
        .returned ⟨.complete, .accepted⟩)

/-- One step of `try_dequeue_observed`; `accepts` is the observer's answer. -/
def dequeueStep (accepts : Bool) (q : RingSpscQueue α) :
    DequeueCall α → RingSpscQueue α × Outcome (DequeueCall α) (BoundaryDequeueResult α)
  | .slotLoad =>
      let position := q.consumerPosition
      match q.slots position with
      | none => (q, .returned ⟨.complete, ⟨.empty, none⟩⟩)
      | some event => (q, .running (.afterObservation event position))
  | .afterObservation event position =>
      if accepts then (q, .running (.slotClear event position))
      else (q, .returned ⟨.captureFailed, ⟨.empty, none⟩⟩)
  | .slotClear event position =>
      ({ q with
          slots := Function.update q.slots position none
          consumerPosition := nextPosition q.capacity position },
        .returned ⟨.complete, ⟨.item, some event⟩⟩)

/-- `slots_[position_at_distance(..)]`, the slot a prefetch at this distance names. -/
def positionAtDistance (capacity position distance : Nat) : Nat :=
  let reduced := distance % capacity
  if reduced = 0 then position
  else
    let untilWrap := capacity - position
    if reduced < untilWrap then position + reduced else reduced - untilWrap

def producerSlotTarget (q : RingSpscQueue α) (distanceSlots : Nat) : Nat :=
  positionAtDistance q.capacity q.producerPosition distanceSlots

def consumerSlotTarget (q : RingSpscQueue α) (distanceSlots : Nat) : Nat :=
  positionAtDistance q.capacity q.consumerPosition distanceSlots

/-- A sum of `std::size_t`; none when it wraps around. -/
def addWord (left right : UInt64) : Option UInt64 :=
  if left.toNat + right.toNat < 2 ^ 64 then some (left + right) else none

/-- A difference of `std::size_t`; none when it wraps around. -/
def subWord (left right : UInt64) : Option UInt64 :=
  if right ≤ left then some (left - right) else none

/-- `next_position` on words. -/
def nextPositionWord (capacity position : UInt64) : Option UInt64 :=
  (addWord position 1).map fun next => if next = capacity then 0 else next

/-- `position_at_distance` on words. -/
def positionAtDistanceWord (capacity position distance : UInt64) : Option UInt64 :=
  let reduced := distance % capacity
  if reduced = 0 then some position
  else
    (subWord capacity position).bind fun untilWrap =>
      if reduced < untilWrap then addWord position reduced else subWord reduced untilWrap

/-- How many accesses an enqueue may still make. -/
def EnqueueCall.rank : EnqueueCall α → Nat
  | .slotLoad _ => 2
  | .beforePublication _ _ => 1
  | .slotStore _ _ => 0

/-- How many accesses a dequeue may still make. -/
def DequeueCall.rank : DequeueCall α → Nat
  | .slotLoad => 2
  | .afterObservation _ _ => 1
  | .slotClear _ _ => 0

/-- The next step of this enqueue calls its boundary observer. -/
def EnqueueCall.observes : EnqueueCall α → Bool
  | .beforePublication _ _ => true
  | _ => false

def DequeueCall.observes : DequeueCall α → Bool
  | .afterObservation _ _ => true
  | _ => false

/-! ### What one step can do -/

variable {accepts : Bool} {call call' : EnqueueCall α} {q q' : RingSpscQueue α}

theorem enqueueStep_running (h : enqueueStep accepts q call = (q', .running call')) : q' = q ∧
      ((∃ event, call = .slotLoad event ∧ q.slots q.producerPosition = none ∧
          call' = .beforePublication event q.producerPosition) ∨
        ∃ event position, call = .beforePublication event position ∧ accepts = true ∧
          call' = .slotStore event position) := by
  cases call with
  | slotLoad event =>
      simp only [enqueueStep] at h
      split at h <;> simp at h
      rename_i hslot
      exact ⟨h.1.symm, Or.inl ⟨event, rfl, hslot, h.2.symm⟩⟩
  | beforePublication event position =>
      simp only [enqueueStep] at h
      split at h <;> simp at h
      rename_i haccepts
      exact ⟨h.1.symm, Or.inr ⟨event, position, rfl, haccepts, h.2.symm⟩⟩
  | slotStore event position => simp [enqueueStep] at h

theorem enqueueStep_returned {r : BoundaryEnqueueResult}
    (h : enqueueStep accepts q call = (q', .returned r)) :
    (∃ event occupant, call = .slotLoad event ∧ q.slots q.producerPosition = some occupant ∧
        r = ⟨.complete, .full⟩ ∧ q' = q) ∨
      (∃ event position, call = .beforePublication event position ∧ accepts = false ∧
        r = ⟨.captureFailed, .full⟩ ∧ q' = q) ∨
      ∃ event position, call = .slotStore event position ∧ r = ⟨.complete, .accepted⟩ ∧
        q' = { q with
          slots := Function.update q.slots position (some event)
          producerPosition := nextPosition q.capacity position } := by
  cases call with
  | slotLoad event =>
      simp only [enqueueStep] at h
      split at h <;> simp at h
      rename_i occupant hslot
      exact Or.inl ⟨event, occupant, rfl, hslot, h.2.symm, h.1.symm⟩
  | beforePublication event position =>
      simp only [enqueueStep] at h
      split at h <;> simp at h
      rename_i haccepts
      exact Or.inr (Or.inl ⟨event, position, rfl, by simpa using haccepts, h.2.symm, h.1.symm⟩)
  | slotStore event position =>
      simp only [enqueueStep, Prod.mk.injEq, Outcome.returned.injEq] at h
      exact Or.inr (Or.inr ⟨event, position, rfl, h.2.symm, h.1.symm⟩)

theorem dequeueStep_running {call call' : DequeueCall α}
    (h : dequeueStep accepts q call = (q', .running call')) : q' = q ∧
      ((∃ event, call = .slotLoad ∧ q.slots q.consumerPosition = some event ∧
          call' = .afterObservation event q.consumerPosition) ∨
        ∃ event position, call = .afterObservation event position ∧ accepts = true ∧
          call' = .slotClear event position) := by
  cases call with
  | slotLoad =>
      simp only [dequeueStep] at h
      split at h <;> simp at h
      rename_i event hslot
      exact ⟨h.1.symm, Or.inl ⟨event, rfl, hslot, h.2.symm⟩⟩
  | afterObservation event position =>
      simp only [dequeueStep] at h
      split at h <;> simp at h
      rename_i haccepts
      exact ⟨h.1.symm, Or.inr ⟨event, position, rfl, haccepts, h.2.symm⟩⟩
  | slotClear event position => simp [dequeueStep] at h

theorem dequeueStep_returned {call : DequeueCall α} {r : BoundaryDequeueResult α}
    (h : dequeueStep accepts q call = (q', .returned r)) :
    (call = .slotLoad ∧ q.slots q.consumerPosition = none ∧
        r = ⟨.complete, ⟨.empty, none⟩⟩ ∧ q' = q) ∨
      (∃ event position, call = .afterObservation event position ∧ accepts = false ∧
        r = ⟨.captureFailed, ⟨.empty, none⟩⟩ ∧ q' = q) ∨
      ∃ event position, call = .slotClear event position ∧
        r = ⟨.complete, ⟨.item, some event⟩⟩ ∧
        q' = { q with
          slots := Function.update q.slots position none
          consumerPosition := nextPosition q.capacity position } := by
  cases call with
  | slotLoad =>
      simp only [dequeueStep] at h
      split at h <;> simp at h
      rename_i hslot
      exact Or.inl ⟨rfl, hslot, h.2.symm, h.1.symm⟩
  | afterObservation event position =>
      simp only [dequeueStep] at h
      split at h <;> simp at h
      rename_i haccepts
      exact Or.inr (Or.inl ⟨event, position, rfl, by simpa using haccepts, h.2.symm, h.1.symm⟩)
  | slotClear event position =>
      simp only [dequeueStep, Prod.mk.injEq, Outcome.returned.injEq] at h
      exact Or.inr (Or.inr ⟨event, position, rfl, h.2.symm, h.1.symm⟩)

theorem enqueueStep_rank (h : enqueueStep accepts q call = (q', .running call')) :
    call'.rank < call.rank := by
  obtain ⟨-, ⟨event, rfl, -, rfl⟩ | ⟨event, position, rfl, -, rfl⟩⟩ := enqueueStep_running h
  · exact Nat.one_lt_two
  · exact Nat.zero_lt_one

theorem dequeueStep_rank {call call' : DequeueCall α}
    (h : dequeueStep accepts q call = (q', .running call')) : call'.rank < call.rank := by
  obtain ⟨-, ⟨event, rfl, -, rfl⟩ | ⟨event, position, rfl, -, rfl⟩⟩ := dequeueStep_running h
  · exact Nat.one_lt_two
  · exact Nat.zero_lt_one

/-- The ring as an object with one producer and one consumer. -/
def package (α : Type) : Package α where
  State := RingSpscQueue α
  PCall := EnqueueCall α
  CCall := DequeueCall α
  pBegin := .slotLoad
  pStep := enqueueStep
  cBegin _ := .slotLoad
  cStep := dequeueStep
  pRank := EnqueueCall.rank
  cRank := DequeueCall.rank
  pRank_lt _ _ _ _ _ h := enqueueStep_rank h
  cRank_lt _ _ _ _ _ h := dequeueStep_rank h
  pObserves := EnqueueCall.observes
  cObserves := DequeueCall.observes

/-! ### The calibration seam -/

/-- An observer around the acquire load that decides whether an operation can advance. -/
structure DemandObserver (ω : Type) where
  beforeSlotAcquire : ω → ω
  afterSlotAcquire : ω → ω

def tryEnqueueWithSlotDemandObserver {ω : Type} (q : RingSpscQueue α) (event : α)
    (observer : DemandObserver ω) (o : ω) : EnqueueResult × RingSpscQueue α × ω :=
  let position := q.producerPosition
  let o := observer.beforeSlotAcquire o
  let observed := q.slots position
  let o := observer.afterSlotAcquire o
  match observed with
  | some _ => (.full, q, o)
  | none =>
      (.accepted,
        { q with
          slots := Function.update q.slots position (some event)
          producerPosition := nextPosition q.capacity position }, o)

def tryDequeueWithSlotDemandObserver {ω : Type} (q : RingSpscQueue α)
    (observer : DemandObserver ω) (o : ω) : DequeueResult α × RingSpscQueue α × ω :=
  let position := q.consumerPosition
  let o := observer.beforeSlotAcquire o
  let event := q.slots position
  let o := observer.afterSlotAcquire o
  match event with
  | none => (⟨.empty, none⟩, q, o)
  | some event =>
      (⟨.item, some event⟩,
        { q with
          slots := Function.update q.slots position none
          consumerPosition := nextPosition q.capacity position }, o)

/-- The steps of an enqueue one after the other, with an observer that accepts. -/
def runEnqueue (q : RingSpscQueue α) (call : EnqueueCall α) :
    RingSpscQueue α × BoundaryEnqueueResult :=
  match h : enqueueStep true q call with
  | (q', .returned r) => (q', r)
  | (q', .running call') =>
      have := enqueueStep_rank h
      runEnqueue q' call'
termination_by call.rank

/-- The steps of a dequeue one after the other, with an observer that accepts. -/
def runDequeue (q : RingSpscQueue α) (call : DequeueCall α) :
    RingSpscQueue α × BoundaryDequeueResult α :=
  match h : dequeueStep true q call with
  | (q', .returned r) => (q', r)
  | (q', .running call') =>
      have := dequeueStep_rank h
      runDequeue q' call'
termination_by call.rank

theorem runEnqueue_returned {r : BoundaryEnqueueResult}
    (h : enqueueStep true q call = (q', .returned r)) : runEnqueue q call = (q', r) := by
  rw [runEnqueue]
  split <;> simp_all

theorem runEnqueue_running (h : enqueueStep true q call = (q', .running call')) :
    runEnqueue q call = runEnqueue q' call' := by
  rw [runEnqueue]
  split <;> simp_all

theorem runDequeue_returned {call : DequeueCall α} {r : BoundaryDequeueResult α}
    (h : dequeueStep true q call = (q', .returned r)) : runDequeue q call = (q', r) := by
  rw [runDequeue]
  split <;> simp_all

theorem runDequeue_running {call call' : DequeueCall α}
    (h : dequeueStep true q call = (q', .running call')) :
    runDequeue q call = runDequeue q' call' := by
  rw [runDequeue]
  split <;> simp_all

/-- The seam does not change the algorithm: the observed operation is its steps in order. -/
theorem tryEnqueueWithSlotDemandObserver_steps {ω : Type} (q : RingSpscQueue α) (event : α)
    (observer : DemandObserver ω) (o : ω) :
    tryEnqueueWithSlotDemandObserver q event observer o =
      ((runEnqueue q (.slotLoad event)).2.result, (runEnqueue q (.slotLoad event)).1,
        observer.afterSlotAcquire (observer.beforeSlotAcquire o)) := by
  cases hslot : q.slots q.producerPosition with
  | some occupant =>
      rw [runEnqueue_returned (by simp only [enqueueStep, hslot]; rfl)]
      simp only [tryEnqueueWithSlotDemandObserver, hslot]
  | none =>
      rw [runEnqueue_running (by simp only [enqueueStep, hslot]; rfl), runEnqueue_running rfl,
        runEnqueue_returned rfl]
      simp only [tryEnqueueWithSlotDemandObserver, hslot]

theorem tryDequeueWithSlotDemandObserver_steps {ω : Type} (q : RingSpscQueue α)
    (observer : DemandObserver ω) (o : ω) :
    tryDequeueWithSlotDemandObserver q observer o =
      ((runDequeue q .slotLoad).2.result, (runDequeue q .slotLoad).1,
        observer.afterSlotAcquire (observer.beforeSlotAcquire o)) := by
  cases hslot : q.slots q.consumerPosition with
  | none =>
      rw [runDequeue_returned (by simp only [dequeueStep, hslot]; rfl)]
      simp only [tryDequeueWithSlotDemandObserver, hslot]
  | some event =>
      rw [runDequeue_running (by simp only [dequeueStep, hslot]; rfl), runDequeue_running rfl,
        runDequeue_returned rfl]
      simp only [tryDequeueWithSlotDemandObserver, hslot]

/-! ### The audit of a queue at rest -/

structure RingQuiescentAudit where
  occupiedSlots : Nat
  producerPosition : Nat
  consumerPosition : Nat
  positionsInRange : Bool
  deriving DecidableEq, Repr

/-- `audit_quiescent`. -/
def auditQuiescent (q : RingSpscQueue α) : RingQuiescentAudit where
  occupiedSlots := (List.range q.capacity).countP fun index => (q.slots index).isSome
  producerPosition := q.producerPosition
  consumerPosition := q.consumerPosition
  positionsInRange := q.producerPosition < q.capacity && q.consumerPosition < q.capacity

end RingSpscQueue

end CpuPrefetch.Queue
