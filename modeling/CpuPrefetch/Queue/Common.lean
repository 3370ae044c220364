/-
What both queues share: the results of the two operations, the checks of their
constructors, and the shape of an operation that runs with a boundary observer.

A queue operation is observed at one boundary: an enqueue immediately before it
publishes the event, a dequeue immediately after it has seen one.  The observer may
refuse, and the operation then returns without taking effect.  `Package` is a queue
as its callers use it: an `Spsc` object whose step reads the observer's answer where
`pObserves` or `cObserves` says that the next step asks for it.  An operation with
the no-op observer is the same operation with the answer always `true`.
-/
import CpuPrefetch.Lib.Cyclic
import CpuPrefetch.Lib.Spsc

namespace CpuPrefetch.Queue

open Spsc.Client

inductive EnqueueResult where
  | accepted
  | full
  deriving DecidableEq, Repr

inductive DequeueStatus where
  | item
  | empty
  | recyclerInvariantFailure
  deriving DecidableEq, Repr

/-- `event` is null exactly when the source's pointer is. -/
structure DequeueResult (α : Type) where
  status : DequeueStatus
  event : Option α
  deriving DecidableEq, Repr

inductive BoundaryCaptureStatus where
  | complete
  | captureFailed
  deriving DecidableEq, Repr

structure BoundaryEnqueueResult where
  status : BoundaryCaptureStatus
  result : EnqueueResult
  deriving DecidableEq, Repr

structure BoundaryDequeueResult (α : Type) where
  status : BoundaryCaptureStatus
  result : DequeueResult α
  deriving DecidableEq, Repr

/-! ### Construction -/

/-- `std::numeric_limits<std::size_t>::max()`. -/
def sizeMax : Nat := 2 ^ 64 - 1

/-- `alignof(std::max_align_t)` on the x86-64 target. -/
def maxAlign : Nat := 16

/-- The messages `QueueSetupError` is thrown with. -/
abbrev Setup := Except String

def isPowerOfTwo (value : Nat) : Bool :=
  value != 0 && value &&& (value - 1) == 0

def validateCacheLineBytes (cacheLineBytes : Nat) : Setup Unit :=
  if !isPowerOfTwo cacheLineBytes || cacheLineBytes < maxAlign then
    throw "cache-line bytes must be a power of two and satisfy max alignment"
  else pure ()

def checkedAdd (left right : Nat) : Setup Nat :=
  if right > sizeMax - left then throw "queue storage size overflows size_t"
  else pure (left + right)

def checkedMultiply (left right : Nat) : Setup Nat :=
  if left != 0 && right > sizeMax / left then throw "queue storage size overflows size_t"
  else pure (left * right)

def roundUp (value alignment : Nat) : Setup Nat :=
  let remainder := value % alignment
  if remainder = 0 then pure value else checkedAdd value (alignment - remainder)

/-- The cursor one slot on, with the explicit wrap of both queues. -/
def nextPosition (capacity position : Nat) : Nat :=
  if position + 1 = capacity then 0 else position + 1

theorem nextPosition_eq_mod {capacity position : Nat} (h : position < capacity) :
    nextPosition capacity position = (position + 1) % capacity := Cyclic.wrap_eq_mod h

/-! ### Operations as a caller sees them -/

/-- A queue whose operations run with a boundary observer. -/
structure Package (α : Type) extends
    Spsc α Bool BoundaryEnqueueResult Unit Bool (BoundaryDequeueResult α) where
  /-- The next step of this enqueue calls `before_enqueue_publication`. -/
  pObserves : PCall → Bool
  /-- The next step of this dequeue calls `after_dequeue_observation`. -/
  cObserves : CCall → Bool

/-- The effect an enqueue's result reports. -/
def enqueueAgrees (r : BoundaryEnqueueResult) (v : Option Bool) : Prop :=
  match r with
  | ⟨.complete, .accepted⟩ => v = some true
  | ⟨.complete, .full⟩ => v = some false
  | ⟨.captureFailed, _⟩ => v = none

/-- The effect a dequeue's result reports; the invariant failure is never reported. -/
def dequeueAgrees {α : Type} (r : BoundaryDequeueResult α) (v : Option (Option α)) : Prop :=
  match r with
  | ⟨.complete, ⟨.item, event⟩⟩ => v = some event ∧ event ≠ none
  | ⟨.complete, ⟨.empty, _⟩⟩ => v = some none
  | ⟨.captureFailed, ⟨.empty, _⟩⟩ => v = none
  | _ => False

/--
A package that behaves as a bounded FIFO and observes its boundaries in order: an
enqueue takes effect only after its observer has accepted, and a dequeue asks its
observer only while the queue holds the event it is going to take.
-/
structure PackageSim {α : Type} (P : Package α) (capacity : Nat) (init : P.State) extends
    Spsc.FifoSim P.toSpsc enqueueAgrees (dequeueAgrees (α := α)) capacity init where
  item_eq : ∀ a, item a = a
  /-- Both operations take effect in the step that returns. -/
  pDone_eq : ∀ call, pDone call = none
  cDone_eq : ∀ call, cDone call = none
  /-- The observer of this enqueue has accepted. -/
  pObserved : P.PCall → Bool
  /-- The observer of this dequeue has accepted. -/
  cObserved : P.CCall → Bool
  pObserved_begin : ∀ a, pObserved (P.pBegin a) = false
  cObserved_begin : cObserved (P.cBegin ()) = false
  pObserved_step : ∀ {i s call s' call'}, P.pStep i s call = (s', .running call') →
    pObserved call' = true → pObserved call = true ∨ (P.pObserves call = true ∧ i = true)
  cObserved_step : ∀ {i s call s' call'}, P.cStep i s call = (s', .running call') →
    cObserved call' = true → cObserved call = true ∨ (P.cObserves call = true ∧ i = true)
  /-- An observer that has accepted is not asked again. -/
  pObserved_once : ∀ {call}, pObserved call = true → P.pObserves call = false
  cObserved_once : ∀ {call}, cObserved call = true → P.cObserves call = false
  pObserved_accepted : ∀ {i s call s'},
    P.pStep i s call = (s', .returned ⟨.complete, .accepted⟩) → pObserved call = true
  cObserved_item : ∀ {i s call s' event},
    P.cStep i s call = (s', .returned ⟨.complete, ⟨.item, event⟩⟩) → cObserved call = true
  cObserves_nonempty : ∀ {s p call queue room}, Sim s p (some call) queue room →
    P.cObserves call = true → queue ≠ []
  /-- Only a refusing observer makes an enqueue fail. -/
  pRefused : ∀ {i s call s' r}, P.pStep i s call = (s', .returned ⟨.captureFailed, r⟩) →
    P.pObserves call = true ∧ i = false
  /-- Only a refusing observer makes a dequeue fail. -/
  cRefused : ∀ {i s call s' r}, P.cStep i s call = (s', .returned ⟨.captureFailed, r⟩) →
    P.cObserves call = true ∧ i = false

/-! ### Unobserved histories -/

/-- A turn of `try_enqueue` or `try_dequeue`, whose no-op observer always accepts. -/
inductive Turn (α : Type) where
  | producer (event : α)
  | consumer

def Turn.action {α : Type} : Turn α → Spsc.Action α Bool Unit Bool
  | .producer event => .producer event true
  | .consumer => .consumer () true

/-- `try_enqueue` returned `accepted`. -/
def BoundaryEnqueueResult.placed (r : BoundaryEnqueueResult) : Bool :=
  r = ⟨.complete, .accepted⟩

/-- The event `try_dequeue` returned as an item. -/
def BoundaryDequeueResult.taken {α : Type} (r : BoundaryDequeueResult α) : Option α :=
  match r with
  | ⟨.complete, ⟨.item, event⟩⟩ => event
  | _ => none

theorem enqueueAgrees_placed (r : BoundaryEnqueueResult) (v : Option Bool)
    (h : enqueueAgrees r v) : r.placed = true ↔ v = some true := by
  unfold BoundaryEnqueueResult.placed
  unfold enqueueAgrees at h
  split at h <;> simp [h]

theorem dequeueAgrees_taken {α : Type} (r : BoundaryDequeueResult α) (v : Option (Option α))
    (h : dequeueAgrees r v) : r.taken = v.join := by
  unfold BoundaryDequeueResult.taken
  unfold dequeueAgrees at h
  split at h
  · simp [h.1]
  · simp [h]
  · simp [h]
  · exact h.elim

/-- One producer and one consumer take turns on a freshly built package. -/
def Package.client {α : Type} (P : Package α) (init : P.State) (turns : List (Turn α)) :
    Spsc.Client P.toSpsc :=
  (start init).run (turns.map Turn.action)

/-- The events accepted so far, in acceptance order. -/
def Package.accepted {α : Type} {P : Package α} (c : Spsc.Client P.toSpsc) : List α :=
  c.accepted id BoundaryEnqueueResult.placed

/-- The events returned so far, in order. -/
def Package.delivered {α : Type} {P : Package α} (c : Spsc.Client P.toSpsc) : List α :=
  c.delivered BoundaryDequeueResult.taken

/--
**Invariant rule for unobserved histories.** What holds of a fresh queue and survives
the begin and every accepted step of either operation holds after every history.
-/
theorem Package.client_induction {α : Type} {P : Package α} {init : P.State}
    {I : P.State → Option (α × P.PCall) → Option P.CCall → Prop}
    (hinit : I init none none)
    (hpBegin : ∀ s c a, I s none c → I s (some (a, P.pBegin a)) c)
    (hcBegin : ∀ s p, I s p none → I s p (some (P.cBegin ())))
    (hpStep : ∀ s c a call s' out, I s (some (a, call)) c → P.pStep true s call = (s', out) →
      I s' (out.call?.map (a, ·)) c)
    (hcStep : ∀ s p call s' out, I s p (some call) → P.cStep true s call = (s', out) →
      I s' p out.call?)
    (turns : List (Turn α)) :
    I (P.client init turns).state (P.client init turns).pcall (P.client init turns).ccall := by
  have hrun : ∀ (c : Spsc.Client P.toSpsc), I c.state c.pcall c.ccall →
      I (c.run (turns.map Turn.action)).state (c.run (turns.map Turn.action)).pcall
        (c.run (turns.map Turn.action)).ccall := by
    induction turns with
    | nil => intro c h; exact h
    | cons turn rest ih =>
        intro c h
        refine ih (c.step turn.action) ?_
        cases turn with
        | producer event =>
            cases hcall : c.pcall with
            | none =>
                rw [hcall] at h
                rw [Turn.action, step_pBegin hcall]
                exact hpBegin _ _ _ h
            | some pc =>
                obtain ⟨a, call⟩ := pc
                rw [hcall] at h
                rcases hstep : P.pStep true c.state call with ⟨s, call' | r⟩
                · rw [Turn.action, step_pRunning hcall hstep]
                  exact hpStep _ _ _ _ _ _ h hstep
                · rw [Turn.action, step_pReturned hcall hstep]
                  exact hpStep _ _ _ _ _ _ h hstep
        | consumer =>
            cases hcall : c.ccall with
            | none =>
                rw [hcall] at h
                rw [Turn.action, step_cBegin hcall]
                exact hcBegin _ _ h
            | some call =>
                rw [hcall] at h
                rcases hstep : P.cStep true c.state call with ⟨s, call' | r⟩
                · rw [Turn.action, step_cRunning hcall hstep]
                  exact hcStep _ _ _ _ _ h hstep
                · rw [Turn.action, step_cReturned hcall hstep]
                  exact hcStep _ _ _ _ _ h hstep
  exact hrun (start init) hinit

end CpuPrefetch.Queue
