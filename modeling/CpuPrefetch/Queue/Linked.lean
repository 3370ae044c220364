/-
The linked FIFO with its node recycler.

`C + 1` nodes in a fixed arena.  The chain from the consumer's sentinel `head` to the
producer's `tail` holds the queued events behind the sentinel; the other nodes wait
in the recycler, a ring of `C` slots that the consumer fills and the producer
empties.  A node is named by its arena index.  A step below is one atomic access of
a recycler slot or of a node's `next`, together with the private work that follows
it, or the call of an observer.  The consumer's move of `head` is a step of its own,
so that the old sentinel is seen in transit between the two recycler accesses.
-/
import CpuPrefetch.Queue.Common

namespace CpuPrefetch.Queue

structure Node (α : Type) where
  next : Option Nat
  event : Option α
  deriving DecidableEq, Repr

structure LinkedSpscQueue (α : Type) where
  capacity : Nat
  nodes : Nat → Node α
  recyclerSlots : Nat → Option Nat
  tail : Nat
  head : Nat
  recyclerProducer : Nat
  recyclerConsumer : Nat

namespace LinkedSpscQueue

variable {α : Type}

/-- The queue the constructor leaves behind for an accepted node order. -/
def initial (capacity : Nat) (nodeOrder : List Nat) : LinkedSpscQueue α where
  capacity := capacity
  nodes := fun _ => ⟨none, none⟩
  recyclerSlots := fun index => if index < capacity then nodeOrder[index + 1]? else none
  tail := nodeOrder.headD 0
  head := nodeOrder.headD 0
  recyclerProducer := 0
  recyclerConsumer := 0

/-- The loop that checks a node order against the nodes seen so far. -/
def checkOrder (nodeCount : Nat) : List Nat → List Nat → Setup Unit
  | _, [] => pure ()
  | seen, index :: rest =>
      if index ≥ nodeCount || seen.contains index then
        throw "linked node order must be a permutation"
      else checkOrder nodeCount (index :: seen) rest

/-- `sizeof(Node)`: the successor, the event and the arena index. -/
def nodeBytes : Nat := 24

/-- The size of a recycler slot, `sizeof(Node*)`. -/
def recyclerSlotBytes : Nat := 8

/-- The constructor. -/
def make (capacity cacheLineBytes arenaAlignmentBytes : Nat) (nodeOrder : List Nat) :
    Setup (LinkedSpscQueue α) := do
  validateCacheLineBytes cacheLineBytes
  validateCacheLineBytes arenaAlignmentBytes
  if arenaAlignmentBytes < cacheLineBytes then
    throw "linked node-arena alignment must be at least the cache-line size"
  if capacity = 0 then throw "linked capacity must be nonzero"
  let nodeCount ← checkedAdd capacity 1
  if nodeOrder.length ≠ nodeCount then
    throw "linked node order must contain capacity plus one nodes"
  checkOrder nodeCount [] nodeOrder
  let stride ← roundUp nodeBytes cacheLineBytes
  let _ ← checkedMultiply nodeCount stride
  let _ ← checkedMultiply capacity recyclerSlotBytes
  let _ ← checkedMultiply 4 cacheLineBytes
  pure (initial capacity nodeOrder)

/-- Where a running `try_enqueue` stands: the access it makes next. -/
inductive EnqueueCall (α : Type) where
  | recyclerLoad (event : α)
  | recyclerClear (event : α) (node position : Nat)
  | prepare (event : α) (node : Nat)
  | beforePublication (event : α) (node : Nat)
  | link (event : α) (node : Nat)

/-- Where a running `try_dequeue` stands: the access it makes next. -/
inductive DequeueCall (α : Type) where
  | nextLoad
  | afterObservation (oldSentinel successor : Nat)
  | prefetch (oldSentinel successor : Nat)
  | recyclerLoad (oldSentinel successor : Nat)
  | advance (oldSentinel successor position : Nat)
  | recyclerStore (oldSentinel position : Nat) (event : Option α)

/-- One step of `try_enqueue_observed`; `accepts` is the observer's answer. -/
def enqueueStep (accepts : Bool) (q : LinkedSpscQueue α) :
    EnqueueCall α → LinkedSpscQueue α × Outcome (EnqueueCall α) BoundaryEnqueueResult
  | .recyclerLoad event =>
      let position := q.recyclerConsumer
      match q.recyclerSlots position with
      | none => (q, .returned ⟨.complete, .full⟩)
      | some node => (q, .running (.recyclerClear event node position))
  | .recyclerClear event node position =>
      ({ q with
          recyclerSlots := Function.update q.recyclerSlots position none
          recyclerConsumer := nextPosition q.capacity position },
        .running (.prepare event node))
  | .prepare event node =>
      ({ q with nodes := Function.update q.nodes node ⟨none, some event⟩ },
        .running (.beforePublication event node))
  | .beforePublication event node =>
      if accepts then (q, .running (.link event node))
      else (q, .returned ⟨.captureFailed, .full⟩)
  | .link _ node =>
      ({ q with
          nodes := Function.update q.nodes q.tail { q.nodes q.tail with next := some node }
          tail := node },
        .returned ⟨.complete, .accepted⟩)

/-- One step of `try_dequeue_observed`; `accepts` is the observer's answer. -/
def dequeueStep (accepts : Bool) (q : LinkedSpscQueue α) :
    DequeueCall α → LinkedSpscQueue α × Outcome (DequeueCall α) (BoundaryDequeueResult α)
  | .nextLoad =>
      let oldSentinel := q.head
      match (q.nodes oldSentinel).next with
      | none => (q, .returned ⟨.complete, ⟨.empty, none⟩⟩)
      | some successor => (q, .running (.afterObservation oldSentinel successor))
  | .afterObservation oldSentinel successor =>
      if accepts then (q, .running (.prefetch oldSentinel successor))
      else (q, .returned ⟨.captureFailed, ⟨.empty, none⟩⟩)
  | .prefetch oldSentinel successor => (q, .running (.recyclerLoad oldSentinel successor))
  | .recyclerLoad oldSentinel successor =>
      let position := q.recyclerProducer
      match q.recyclerSlots position with
      | some _ => (q, .returned ⟨.complete, ⟨.recyclerInvariantFailure, none⟩⟩)
      | none => (q, .running (.advance oldSentinel successor position))
  | .advance oldSentinel successor position =>
      ({ q with head := successor },
        .running (.recyclerStore oldSentinel position (q.nodes successor).event))
  | .recyclerStore oldSentinel position event =>
      ({ q with
          recyclerSlots := Function.update q.recyclerSlots position (some oldSentinel)
          recyclerProducer := nextPosition q.capacity position },
        .returned ⟨.complete, ⟨.item, event⟩⟩)

def EnqueueCall.rank : EnqueueCall α → Nat
  | .recyclerLoad _ => 4
  | .recyclerClear _ _ _ => 3
  | .prepare _ _ => 2
  | .beforePublication _ _ => 1
  | .link _ _ => 0

def DequeueCall.rank : DequeueCall α → Nat
  | .nextLoad => 5
  | .afterObservation _ _ => 4
  | .prefetch _ _ => 3
  | .recyclerLoad _ _ => 2
  | .advance _ _ _ => 1
  | .recyclerStore _ _ _ => 0

/-- The next step of this enqueue calls its boundary observer. -/
def EnqueueCall.observes : EnqueueCall α → Bool
  | .beforePublication _ _ => true
  | _ => false

def DequeueCall.observes : DequeueCall α → Bool
  | .afterObservation _ _ => true
  | _ => false

/-! ### What one step can do -/

/-- Every way an enqueue can go on. -/
inductive EnqueueRuns (accepts : Bool) (q : LinkedSpscQueue α) :
    EnqueueCall α → LinkedSpscQueue α → EnqueueCall α → Prop where
  | obtain {event : α} {node : Nat} (h : q.recyclerSlots q.recyclerConsumer = some node) :
      EnqueueRuns accepts q (.recyclerLoad event) q
        (.recyclerClear event node q.recyclerConsumer)
  | clear {event : α} {node position : Nat} :
      EnqueueRuns accepts q (.recyclerClear event node position)
        { q with
          recyclerSlots := Function.update q.recyclerSlots position none
          recyclerConsumer := nextPosition q.capacity position }
        (.prepare event node)
  | fill {event : α} {node : Nat} :
      EnqueueRuns accepts q (.prepare event node)
        { q with nodes := Function.update q.nodes node ⟨none, some event⟩ }
        (.beforePublication event node)
  | observed {event : α} {node : Nat} (h : accepts = true) :
      EnqueueRuns accepts q (.beforePublication event node) q (.link event node)

/-- Every way an enqueue can return. -/
inductive EnqueueReturns (accepts : Bool) (q : LinkedSpscQueue α) :
    EnqueueCall α → LinkedSpscQueue α → BoundaryEnqueueResult → Prop where
  | full {event : α} (h : q.recyclerSlots q.recyclerConsumer = none) :
      EnqueueReturns accepts q (.recyclerLoad event) q ⟨.complete, .full⟩
  | refused {event : α} {node : Nat} (h : accepts = false) :
      EnqueueReturns accepts q (.beforePublication event node) q ⟨.captureFailed, .full⟩
  | linked {event : α} {node : Nat} :
      EnqueueReturns accepts q (.link event node)
        { q with
          nodes := Function.update q.nodes q.tail { q.nodes q.tail with next := some node }
          tail := node }
        ⟨.complete, .accepted⟩

/-- Every way a dequeue can go on. -/
inductive DequeueRuns (accepts : Bool) (q : LinkedSpscQueue α) :
    DequeueCall α → LinkedSpscQueue α → DequeueCall α → Prop where
  | found {successor : Nat} (h : (q.nodes q.head).next = some successor) :
      DequeueRuns accepts q .nextLoad q (.afterObservation q.head successor)
  | observed {old successor : Nat} (h : accepts = true) :
      DequeueRuns accepts q (.afterObservation old successor) q (.prefetch old successor)
  | prefetched {old successor : Nat} :
      DequeueRuns accepts q (.prefetch old successor) q (.recyclerLoad old successor)
  | checked {old successor : Nat} (h : q.recyclerSlots q.recyclerProducer = none) :
      DequeueRuns accepts q (.recyclerLoad old successor) q
        (.advance old successor q.recyclerProducer)
  | advanced {old successor position : Nat} :
      DequeueRuns accepts q (.advance old successor position) { q with head := successor }
        (.recyclerStore old position (q.nodes successor).event)

/-- Every way a dequeue can return. -/
inductive DequeueReturns (accepts : Bool) (q : LinkedSpscQueue α) :
    DequeueCall α → LinkedSpscQueue α → BoundaryDequeueResult α → Prop where
  | empty (h : (q.nodes q.head).next = none) :
      DequeueReturns accepts q .nextLoad q ⟨.complete, ⟨.empty, none⟩⟩
  | refused {old successor : Nat} (h : accepts = false) :
      DequeueReturns accepts q (.afterObservation old successor) q
        ⟨.captureFailed, ⟨.empty, none⟩⟩
  | occupied {old successor occupant : Nat}
      (h : q.recyclerSlots q.recyclerProducer = some occupant) :
      DequeueReturns accepts q (.recyclerLoad old successor) q
        ⟨.complete, ⟨.recyclerInvariantFailure, none⟩⟩
  | recycled {old position : Nat} {event : Option α} :
      DequeueReturns accepts q (.recyclerStore old position event)
        { q with
          recyclerSlots := Function.update q.recyclerSlots position (some old)
          recyclerProducer := nextPosition q.capacity position }
        ⟨.complete, ⟨.item, event⟩⟩

variable {accepts : Bool} {call : EnqueueCall α} {q q' : LinkedSpscQueue α}

theorem enqueueStep_runs {call' : EnqueueCall α}
    (h : enqueueStep accepts q call = (q', .running call')) :
    EnqueueRuns accepts q call q' call' := by
  cases call with
  | recyclerLoad event =>
      simp only [enqueueStep] at h
      split at h <;> simp at h
      rename_i node hslot
      obtain ⟨rfl, rfl⟩ := h
      exact .obtain hslot
  | recyclerClear event node position =>
      simp only [enqueueStep, Prod.mk.injEq, Outcome.running.injEq] at h
      obtain ⟨rfl, rfl⟩ := h
      exact .clear
  | prepare event node =>
      simp only [enqueueStep, Prod.mk.injEq, Outcome.running.injEq] at h
      obtain ⟨rfl, rfl⟩ := h
      exact .fill
  | beforePublication event node =>
      simp only [enqueueStep] at h
      split at h <;> simp at h
      rename_i haccepts
      obtain ⟨rfl, rfl⟩ := h
      exact .observed haccepts
  | link event node => simp [enqueueStep] at h

theorem enqueueStep_returns {r : BoundaryEnqueueResult}
    (h : enqueueStep accepts q call = (q', .returned r)) : EnqueueReturns accepts q call q' r := by
  cases call with
  | recyclerLoad event =>
      simp only [enqueueStep] at h
      split at h <;> simp at h
      rename_i hslot
      obtain ⟨rfl, rfl⟩ := h
      exact .full hslot
  | recyclerClear event node position => simp [enqueueStep] at h
  | prepare event node => simp [enqueueStep] at h
  | beforePublication event node =>
      simp only [enqueueStep] at h
      split at h <;> simp at h
      rename_i haccepts
      obtain ⟨rfl, rfl⟩ := h
      exact .refused (by simpa using haccepts)
  | link event node =>
      simp only [enqueueStep, Prod.mk.injEq, Outcome.returned.injEq] at h
      obtain ⟨rfl, rfl⟩ := h
      exact .linked

theorem dequeueStep_runs {call call' : DequeueCall α}
    (h : dequeueStep accepts q call = (q', .running call')) :
    DequeueRuns accepts q call q' call' := by
  cases call with
  | nextLoad =>
      simp only [dequeueStep] at h
      split at h <;> simp at h
      rename_i successor hnext
      obtain ⟨rfl, rfl⟩ := h
      exact .found hnext
  | afterObservation old successor =>
      simp only [dequeueStep] at h
      split at h <;> simp at h
      rename_i haccepts
      obtain ⟨rfl, rfl⟩ := h
      exact .observed haccepts
  | prefetch old successor =>
      simp only [dequeueStep, Prod.mk.injEq, Outcome.running.injEq] at h
      obtain ⟨rfl, rfl⟩ := h
      exact .prefetched
  | recyclerLoad old successor =>
      simp only [dequeueStep] at h
      split at h <;> simp at h
      rename_i hslot
      obtain ⟨rfl, rfl⟩ := h
      exact .checked hslot
  | advance old successor position =>
      simp only [dequeueStep, Prod.mk.injEq, Outcome.running.injEq] at h
      obtain ⟨rfl, rfl⟩ := h
      exact .advanced
  | recyclerStore old position event => simp [dequeueStep] at h

theorem dequeueStep_returns {call : DequeueCall α} {r : BoundaryDequeueResult α}
    (h : dequeueStep accepts q call = (q', .returned r)) : DequeueReturns accepts q call q' r := by
  cases call with
  | nextLoad =>
      simp only [dequeueStep] at h
      split at h <;> simp at h
      rename_i hnext
      obtain ⟨rfl, rfl⟩ := h
      exact .empty hnext
  | afterObservation old successor =>
      simp only [dequeueStep] at h
      split at h <;> simp at h
      rename_i haccepts
      obtain ⟨rfl, rfl⟩ := h
      exact .refused (by simpa using haccepts)
  | prefetch old successor => simp [dequeueStep] at h
  | recyclerLoad old successor =>
      simp only [dequeueStep] at h
      split at h <;> simp at h
      rename_i occupant hslot
      obtain ⟨rfl, rfl⟩ := h
      exact .occupied hslot
  | advance old successor position => simp [dequeueStep] at h
  | recyclerStore old position event =>
      simp only [dequeueStep, Prod.mk.injEq, Outcome.returned.injEq] at h
      obtain ⟨rfl, rfl⟩ := h
      exact .recycled

theorem enqueueStep_rank {call' : EnqueueCall α}
    (h : enqueueStep accepts q call = (q', .running call')) : call'.rank < call.rank := by
  rcases enqueueStep_runs h <;> simp [EnqueueCall.rank]

theorem dequeueStep_rank {call call' : DequeueCall α}
    (h : dequeueStep accepts q call = (q', .running call')) : call'.rank < call.rank := by
  rcases dequeueStep_runs h <;> simp [DequeueCall.rank]

/-- The linked queue as an object with one producer and one consumer. -/
def package (α : Type) : Package α where
  State := LinkedSpscQueue α
  PCall := EnqueueCall α
  CCall := DequeueCall α
  pBegin := .recyclerLoad
  pStep := enqueueStep
  cBegin _ := .nextLoad
  cStep := dequeueStep
  pRank := EnqueueCall.rank
  cRank := DequeueCall.rank
  pRank_lt _ _ _ _ _ h := enqueueStep_rank h
  cRank_lt _ _ _ _ _ h := dequeueStep_rank h
  pObserves := EnqueueCall.observes
  cObserves := DequeueCall.observes

/-! ### The audit of a queue at rest -/

structure LinkedQuiescentAudit where
  reachableNodes : Nat
  queuedEvents : Nat
  recyclerNodes : Nat
  reachableOrder : List Nat
  recyclerOrder : List Nat
  chainAcyclic : Bool
  tailReachable : Bool
  everyNodeOwnedOnce : Bool
  recyclerFifoShape : Bool
  positionsInRange : Bool
  deriving DecidableEq, Repr

/-- What the loop along `next` has found; `unowned` are the nodes it has not marked as owned. -/
structure ChainWalk where
  order : List Nat
  unowned : List Nat
  acyclic : Bool
  tailReachable : Bool

theorem erase_shorter {node : Nat} {unowned : List Nat} (h : node ∈ unowned) :
    (unowned.erase node).length < unowned.length := by
  rw [List.length_erase_of_mem h]
  exact Nat.sub_lt (List.length_pos_of_mem h) Nat.one_pos

/-- The loop along `next`; a node outside the arena, or met before, ends it. -/
def walkChain (q : LinkedSpscQueue α) (unowned : List Nat) : Option Nat → ChainWalk
  | none => ⟨[], unowned, true, false⟩
  | some node =>
      if h : node ∈ unowned then
        have := erase_shorter h
        let rest := walkChain q (unowned.erase node) (q.nodes node).next
        { rest with
          order := node :: rest.order
          tailReachable := node = q.tail || rest.tailReachable }
      else ⟨[], unowned, false, false⟩
termination_by unowned.length

/-- What the loop over the recycler has found. -/
structure RecyclerScan where
  order : List Nat
  unowned : List Nat
  encounteredEmpty : Bool
  fifoShape : Bool
  ownedOnce : Bool

/-- One turn of the loop over the recycler. -/
def scanSlot (q : LinkedSpscQueue α) (scan : RecyclerScan) (offset : Nat) : RecyclerScan :=
  match q.recyclerSlots ((q.recyclerConsumer + offset) % q.capacity) with
  | none => { scan with encounteredEmpty := true }
  | some node =>
      let scan := { scan with fifoShape := scan.fifoShape && !scan.encounteredEmpty }
      if node ∈ scan.unowned then
        { scan with order := scan.order ++ [node], unowned := scan.unowned.erase node }
      else { scan with ownedOnce := false }

/-- `audit_quiescent`; a chain that is not acyclic owns a node twice. -/
def auditQuiescent (q : LinkedSpscQueue α) : LinkedQuiescentAudit :=
  let walk := walkChain q (List.range (q.capacity + 1)) (some q.head)
  let scan := (List.range q.capacity).foldl (scanSlot q)
    ⟨[], walk.unowned, false, true, walk.acyclic⟩
  { reachableNodes := walk.order.length
    queuedEvents := if walk.order.isEmpty then 0 else walk.order.length - 1
    recyclerNodes := scan.order.length
    reachableOrder := walk.order
    recyclerOrder := scan.order
    chainAcyclic := walk.acyclic
    tailReachable := walk.tailReachable
    everyNodeOwnedOnce := scan.ownedOnce && scan.unowned.isEmpty
    recyclerFifoShape := scan.fifoShape
    positionsInRange := q.recyclerProducer < q.capacity && q.recyclerConsumer < q.capacity }

end LinkedSpscQueue

end CpuPrefetch.Queue
