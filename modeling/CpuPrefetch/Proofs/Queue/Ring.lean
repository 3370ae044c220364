/-
The ring is a bounded FIFO under every interleaving.

Occupancy is encoded only in which slots are null, so the invariant ties the slots
to both private cursors through `Cyclic.Holds`: read cyclically from the consumer's
cursor the slots are the queue and then free, and the producer's cursor is the slot
just past it.  A call in progress adds what it has already seen.  The producer past
its load knows that the queue is not full, which stays true because only the
producer adds; the consumer past its load knows the first event, which stays true
because only the consumer removes.
-/
import CpuPrefetch.Queue.Ring

namespace CpuPrefetch.Queue

open Package

namespace RingSpscQueue

variable {α : Type} {capacity : Nat}

/-- What an enqueue in progress already knows. -/
def EnqueueFacts (q : RingSpscQueue α) (queue : List α) : Option (α × EnqueueCall α) → Prop
  | none => True
  | some (event, .slotLoad e) => e = event
  | some (event, .beforePublication e position) | some (event, .slotStore e position) =>
      e = event ∧ position = q.producerPosition ∧ queue.length < q.capacity

/-- What a dequeue in progress already knows. -/
def DequeueFacts (q : RingSpscQueue α) (queue : List α) : Option (DequeueCall α) → Prop
  | none | some .slotLoad => True
  | some (.afterObservation event position) | some (.slotClear event position) =>
      position = q.consumerPosition ∧ queue.head? = some event

/-- The ring and its two calls stand for `queue`, whose room is the capacity. -/
structure Sim (capacity : Nat) (q : RingSpscQueue α) (p : Option (α × EnqueueCall α))
    (c : Option (DequeueCall α)) (queue : List α) (room : Nat) : Prop where
  capacityEq : q.capacity = capacity
  roomEq : room = capacity
  holds : Cyclic.Holds capacity q.slots q.consumerPosition queue
  back : q.producerPosition = (q.consumerPosition + queue.length) % capacity
  pcall : EnqueueFacts q queue p
  ccall : DequeueFacts q queue c

theorem sim_initial (hcap : 1 ≤ capacity) :
    Sim capacity (initial (α := α) capacity) none none [] capacity :=
  ⟨rfl, rfl, Cyclic.Holds.empty hcap, by simp [initial], trivial, trivial⟩

variable {p : Option (α × EnqueueCall α)} {q q' : RingSpscQueue α} {queue : List α}

/-- What the producer knows survives the consumer removing an event. -/
theorem EnqueueFacts.shrink {queue' : List α} (h : EnqueueFacts q queue p)
    (hpos : q'.producerPosition = q.producerPosition) (hcap : q'.capacity = q.capacity)
    (hlen : queue'.length ≤ queue.length) : EnqueueFacts q' queue' p := by
  match p, h with
  | none, _ => trivial
  | some (_, .slotLoad _), h => exact h
  | some (_, .beforePublication _ _), ⟨he, hp, hlt⟩ => exact ⟨he, by rw [hp, hpos], by omega⟩
  | some (_, .slotStore _ _), ⟨he, hp, hlt⟩ => exact ⟨he, by rw [hp, hpos], by omega⟩

variable {c : Option (DequeueCall α)} {event : α}

/-- What the consumer knows survives the producer adding an event. -/
theorem DequeueFacts.grow (h : DequeueFacts q queue c)
    (hpos : q'.consumerPosition = q.consumerPosition) : DequeueFacts q' (queue ++ [event]) c := by
  match c, h with
  | none, _ => trivial
  | some .slotLoad, _ => trivial
  | some (.afterObservation _ _), ⟨hp, hhead⟩ =>
      exact ⟨by rw [hp, hpos], by rw [List.head?_append, hhead]; rfl⟩
  | some (.slotClear _ _), ⟨hp, hhead⟩ =>
      exact ⟨by rw [hp, hpos], by rw [List.head?_append, hhead]; rfl⟩

variable {room : Nat}

/-- The slot the producer looks at is occupied only when the whole ring is. -/
theorem Sim.full_of_slot (h : Sim capacity q p c queue room)
    (hslot : q.slots q.producerPosition = some event) : queue.length = capacity := by
  rw [h.back] at hslot
  exact h.holds.full_of_back hslot

/-- The slot the producer looks at is free only when the ring is not full. -/
theorem Sim.lt_of_slot (h : Sim capacity q p c queue room)
    (hslot : q.slots q.producerPosition = none) : queue.length < capacity := by
  refine Nat.lt_of_le_of_ne h.holds.fits ?_
  intro hfull
  rw [h.back] at hslot
  have hpos : 0 < capacity := Nat.lt_of_le_of_lt (Nat.zero_le _) h.holds.startLt
  exact h.holds.occupied_of_full hfull (Nat.mod_lt _ hpos) hslot

/-! ### The two operations simulate the abstract queue -/

theorem enqueue_sim {call : EnqueueCall α} {out : Outcome (EnqueueCall α) BoundaryEnqueueResult}
    (accepts : Bool) (h : Sim capacity q (some (event, call)) c queue room)
    (hstep : enqueueStep accepts q call = (q', out)) :
    ∃ v queue' room', out.Shows (fun _ => none) enqueueAgrees v ∧
      Spsc.Places event none v queue room queue' room' ∧
      Sim capacity q' (out.call?.map (event, ·)) c queue' room' := by
  have hfacts := h.pcall
  cases out with
  | running call' =>
      refine ⟨none, queue, room, rfl, .idle (Nat.le_refl _), ?_⟩
      obtain ⟨rfl, ⟨e, rfl, hslot, rfl⟩ | ⟨e, position, rfl, -, rfl⟩⟩ := enqueueStep_running hstep
      · have hlt : queue.length < q'.capacity := by rw [h.capacityEq]; exact h.lt_of_slot hslot
        exact { h with pcall := ⟨hfacts, rfl, hlt⟩ }
      · exact { h with pcall := hfacts }
  | returned r =>
      obtain ⟨e, occupant, rfl, hslot, rfl, rfl⟩ | ⟨e, position, rfl, -, rfl, rfl⟩ |
        ⟨e, position, rfl, rfl, rfl⟩ := enqueueStep_returned hstep
      · refine ⟨some false, queue, room, rfl, .full ?_, { h with pcall := trivial }⟩
        rw [h.roomEq]
        exact h.full_of_slot hslot
      · exact ⟨none, queue, room, rfl, .idle (Nat.le_refl _), { h with pcall := trivial }⟩
      · obtain ⟨rfl, hpos, hlt⟩ := hfacts
        rw [h.capacityEq] at hlt
        have hlast : position = (q.consumerPosition + queue.length) % capacity := by
          rw [hpos, h.back]
        have hcap : 0 < capacity := Nat.lt_of_le_of_lt (Nat.zero_le _) h.holds.startLt
        refine ⟨some true, queue ++ [e], room, rfl, .put (by rw [h.roomEq]; exact hlt),
          h.capacityEq, h.roomEq, ?_, ?_, trivial, h.ccall.grow rfl⟩
        · show Cyclic.Holds capacity (Function.update q.slots position (some e)) _ _
          rw [hlast]
          exact h.holds.push hlt e
        · show nextPosition q.capacity position = _
          rw [h.capacityEq, nextPosition_eq_mod (by rw [hlast]; exact Nat.mod_lt _ hcap), hlast,
            Nat.mod_add_mod, List.length_append]
          rfl

variable {call : DequeueCall α}

theorem dequeue_sim {out : Outcome (DequeueCall α) (BoundaryDequeueResult α)} (accepts : Bool)
    (h : Sim capacity q p (some call) queue room) (hstep : dequeueStep accepts q call = (q', out)) :
    ∃ v queue', out.Shows (fun _ => none) dequeueAgrees v ∧ Spsc.Takes none v queue queue' ∧
      Sim capacity q' p out.call? queue' room := by
  have hfacts := h.ccall
  cases out with
  | running call' =>
      refine ⟨none, queue, rfl, .idle, ?_⟩
      obtain ⟨rfl, ⟨event, rfl, hslot, rfl⟩ | ⟨event, position, rfl, -, rfl⟩⟩ :=
        dequeueStep_running hstep
      · rw [h.holds.front] at hslot
        exact { h with ccall := ⟨rfl, hslot⟩ }
      · exact { h with ccall := hfacts }
  | returned r =>
      obtain ⟨rfl, hslot, rfl, rfl⟩ | ⟨event, position, rfl, -, rfl, rfl⟩ |
        ⟨event, position, rfl, rfl, rfl⟩ := dequeueStep_returned hstep
      · have hnil : queue = [] := h.holds.nil_of_front hslot
        subst hnil
        exact ⟨some none, [], rfl, .empty, { h with ccall := trivial }⟩
      · exact ⟨none, queue, rfl, .idle, { h with ccall := trivial }⟩
      · obtain ⟨rfl, hhead⟩ := hfacts
        obtain ⟨rest, rfl⟩ := List.head?_eq_some_iff.mp hhead
        have hcons : nextPosition q.capacity q.consumerPosition =
            (q.consumerPosition + 1) % capacity := by
          rw [h.capacityEq, nextPosition_eq_mod h.holds.startLt]
        refine ⟨some (some event), rest, ⟨rfl, by simp⟩, .take, h.capacityEq, h.roomEq, ?_, ?_,
          h.pcall.shrink rfl rfl (by simp), trivial⟩
        · show Cyclic.Holds capacity _ (nextPosition q.capacity q.consumerPosition) rest
          rw [hcons]
          exact h.holds.pop
        · show q.producerPosition = (nextPosition q.capacity q.consumerPosition + rest.length) % _
          rw [hcons, Cyclic.step_offset, h.back]
          rfl

/-! ### Where the observers stand -/

def EnqueueCall.observed : EnqueueCall α → Bool
  | .slotStore _ _ => true
  | _ => false

def DequeueCall.observed : DequeueCall α → Bool
  | .slotClear _ _ => true
  | _ => false

variable {accepts : Bool}

theorem enqueue_observed {call call' : EnqueueCall α}
    (h : enqueueStep accepts q call = (q', .running call')) (hobs : call'.observed = true) :
    call.observes = true ∧ accepts = true := by
  obtain ⟨-, ⟨event, rfl, -, rfl⟩ | ⟨event, position, rfl, haccepts, rfl⟩⟩ :=
    enqueueStep_running h
  · cases hobs
  · exact ⟨rfl, haccepts⟩

theorem dequeue_observed {call' : DequeueCall α}
    (h : dequeueStep accepts q call = (q', .running call')) (hobs : call'.observed = true) :
    call.observes = true ∧ accepts = true := by
  obtain ⟨-, ⟨event, rfl, -, rfl⟩ | ⟨event, position, rfl, haccepts, rfl⟩⟩ :=
    dequeueStep_running h
  · cases hobs
  · exact ⟨rfl, haccepts⟩

theorem enqueue_accepted {call : EnqueueCall α}
    (h : enqueueStep accepts q call = (q', .returned ⟨.complete, .accepted⟩)) :
    call.observed = true := by
  obtain ⟨e, occupant, -, -, hr, -⟩ | ⟨e, position, -, -, hr, -⟩ | ⟨e, position, rfl, -, -⟩ :=
    enqueueStep_returned h
  · cases hr
  · cases hr
  · rfl

theorem dequeue_item {event : Option α}
    (h : dequeueStep accepts q call = (q', .returned ⟨.complete, .item, event⟩)) :
    call.observed = true := by
  obtain ⟨-, -, hr, -⟩ | ⟨e, position, -, -, hr, -⟩ | ⟨e, position, rfl, -, -⟩ :=
    dequeueStep_returned h
  · cases hr
  · cases hr
  · rfl

theorem enqueue_refused {call : EnqueueCall α} {r : EnqueueResult}
    (h : enqueueStep accepts q call = (q', .returned ⟨.captureFailed, r⟩)) :
    call.observes = true ∧ accepts = false := by
  obtain ⟨e, occupant, -, -, hr, -⟩ | ⟨e, position, rfl, hrefused, -, -⟩ |
    ⟨e, position, -, hr, -⟩ := enqueueStep_returned h
  · cases hr
  · exact ⟨rfl, hrefused⟩
  · cases hr

theorem dequeue_refused {r : DequeueResult α}
    (h : dequeueStep accepts q call = (q', .returned ⟨.captureFailed, r⟩)) :
    call.observes = true ∧ accepts = false := by
  obtain ⟨-, -, hr, -⟩ | ⟨e, position, rfl, hrefused, -, -⟩ | ⟨e, position, -, hr, -⟩ :=
    dequeueStep_returned h
  · cases hr
  · exact ⟨rfl, hrefused⟩
  · cases hr

theorem observes_nonempty (h : Sim capacity q p (some call) queue room)
    (hobs : call.observes = true) : queue ≠ [] := by
  have hfacts := h.ccall
  rintro rfl
  cases call with
  | slotLoad => cases hobs
  | afterObservation event position => cases hfacts.2
  | slotClear event position => cases hobs

/-- **The ring simulates a bounded FIFO of its capacity.** -/
def packageSim (hcap : 1 ≤ capacity) :
    PackageSim (package α) capacity (initial (α := α) capacity) where
  item := id
  pDone _ := none
  cDone _ := none
  Sim := Sim capacity
  sim_init := ⟨capacity, sim_initial hcap⟩
  sim_bound h := ⟨by rw [h.roomEq]; exact h.holds.fits, by rw [h.roomEq]⟩
  p_begin _ h := ⟨rfl, { h with pcall := rfl }⟩
  c_begin _ h := ⟨rfl, { h with ccall := trivial }⟩
  p_step accepts h hstep := enqueue_sim accepts h hstep
  c_step accepts h hstep := dequeue_sim accepts h hstep
  item_eq := id_eq
  pDone_eq _ := rfl
  cDone_eq _ := rfl
  pObserved := EnqueueCall.observed
  cObserved := DequeueCall.observed
  pObserved_begin _ := rfl
  cObserved_begin := rfl
  pObserved_step h hobs := Or.inr (enqueue_observed h hobs)
  cObserved_step h hobs := Or.inr (dequeue_observed h hobs)
  pObserved_once {call} h := by cases call <;> first | rfl | cases h
  cObserved_once {call} h := by cases call <;> first | rfl | cases h
  pObserved_accepted h := enqueue_accepted h
  cObserved_item h := dequeue_item h
  cObserves_nonempty h hobs := observes_nonempty h hobs
  pRefused h := enqueue_refused h
  cRefused h := dequeue_refused h

/-! ### What a history of turns shows -/

abbrev RingClient (α : Type) := Spsc.Client (package α).toSpsc

/-- The ring at the end of a history. -/
def RingClient.ring (c : RingClient α) : RingSpscQueue α := c.state

/-- A history of the ring is one of a bounded FIFO, read off its slots and cursors. -/
structure RefinesFifo (capacity : Nat) (c : RingClient α) : Prop where
  /-- Events are returned once, in order; the ones still due are in the slots, in order. -/
  fifo : ∃ due, accepted c = delivered c ++ due ∧
    ∀ i, i < capacity → c.ring.slots ((c.ring.consumerPosition + i) % capacity) = due[i]?
  outstanding : (accepted c).length ≤ (delivered c).length + capacity
  /-- `full` is returned by the slot load, and only when every slot is occupied. -/
  full : ∀ turn event r, (c.step (Turn.action turn)).enqueued = c.enqueued ++ [(event, r)] →
    r.result = .full →
      c.pcall = some (event, .slotLoad event) ∧ ∀ j, j < capacity → c.ring.slots j ≠ none
  /-- `empty` is returned by the slot load, and only when no slot is occupied. -/
  empty : ∀ turn r, (c.step (Turn.action turn)).dequeued = c.dequeued ++ [r] →
    r.result.status = .empty →
      c.ccall = some .slotLoad ∧ ∀ j, j < capacity → c.ring.slots j = none
  cursors : c.ring.producerPosition < capacity ∧ c.ring.consumerPosition < capacity
  /-- The occupied slots are one cyclic range from the consumer's cursor. -/
  occupied : ∀ j, j < capacity → (c.ring.slots j ≠ none ↔
    ∃ i, i < (accepted c).length - (delivered c).length ∧
      j = (c.ring.consumerPosition + i) % capacity)

theorem full_at_load {c : RingClient α} {turn : Turn α} {r : BoundaryEnqueueResult}
    (h : Sim capacity c.ring c.pcall c.ccall queue room)
    (hret : (c.step turn.action).enqueued = c.enqueued ++ [(event, r)]) (hr : r.result = .full) :
    c.pcall = some (event, .slotLoad event) ∧ ∀ j, j < capacity → c.ring.slots j ≠ none := by
  obtain ⟨e, accepts, call, q', hturn, hcall, hstep⟩ := Spsc.Client.pReturned_of_step hret
  have haccepts : accepts = true := by
    cases turn with
    | producer e' => exact (Spsc.Action.producer.inj hturn).2.symm
    | consumer => cases hturn
  have hfacts := h.pcall
  rw [hcall] at hfacts
  obtain ⟨e', occupant, rfl, hslot, -, -⟩ | ⟨e', position, -, hfalse, -, -⟩ |
    ⟨e', position, -, hacc, -⟩ := enqueueStep_returned hstep
  · have he : e' = event := hfacts
    rw [he] at hcall
    exact ⟨hcall, fun j hj => h.holds.occupied_of_full (h.full_of_slot hslot) hj⟩
  · rw [haccepts] at hfalse
    cases hfalse
  · rw [hacc] at hr
    cases hr

theorem empty_at_load {c : RingClient α} {turn : Turn α} {r : BoundaryDequeueResult α}
    (h : Sim capacity c.ring c.pcall c.ccall queue room)
    (hret : (c.step turn.action).dequeued = c.dequeued ++ [r]) (hr : r.result.status = .empty) :
    c.ccall = some .slotLoad ∧ ∀ j, j < capacity → c.ring.slots j = none := by
  obtain ⟨b, accepts, call, q', hturn, hcall, hstep⟩ := Spsc.Client.cReturned_of_step hret
  have haccepts : accepts = true := by
    cases turn with
    | producer e' => cases hturn
    | consumer => exact (Spsc.Action.consumer.inj hturn).2.symm
  obtain ⟨rfl, hslot, -, -⟩ | ⟨e', position, -, hfalse, -, -⟩ | ⟨e', position, -, hitem, -⟩ :=
    dequeueStep_returned hstep
  · have hnil : queue = [] := h.holds.nil_of_front hslot
    have hholds := h.holds
    rw [hnil] at hholds
    exact ⟨hcall, fun j hj => hholds.free_of_nil hj⟩
  · rw [haccepts] at hfalse
    cases hfalse
  · rw [hitem] at hr
    cases hr

end RingSpscQueue

end CpuPrefetch.Queue
