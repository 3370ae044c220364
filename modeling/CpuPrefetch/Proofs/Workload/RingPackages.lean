/-
The slots that R1 and R2 prefetch are the ones their operations come to.

A cursor is the number of operations of its side that took effect, reduced by the capacity, in
every history, also when observers refuse.  The target at a distance is the cursor after so many
more of them.  The prefetch is a ghost beside the ring: without it the history is that of R0.
-/
import CpuPrefetch.Proofs.Queue.Ring
import CpuPrefetch.Workload.Packages

namespace CpuPrefetch.Queue.RingSpscQueue

open Package

variable {α : Type} {capacity : Nat}

/-! ### The target at a distance -/

theorem positionAtDistance_eq {position : Nat} (h : position < capacity) (distance : Nat) :
    positionAtDistance capacity position distance = (position + distance) % capacity := by
  have hreduced : distance % capacity < capacity := Nat.mod_lt _ (by omega)
  have hsum : (position + distance) % capacity = (position + distance % capacity) % capacity :=
    (Nat.add_mod_mod _ _ _).symm
  rw [hsum, positionAtDistance]
  generalize distance % capacity = reduced at hreduced
  dsimp only
  split
  · rename_i hzero
    rw [hzero, Nat.add_zero, Nat.mod_eq_of_lt h]
  · split
    · rw [Nat.mod_eq_of_lt (by omega)]
    · rw [Nat.mod_eq_sub_mod (by omega), Nat.mod_eq_of_lt (by omega)]
      omega

theorem addWord_eq {left right : UInt64} (h : left.toNat + right.toNat < 2 ^ 64) :
    addWord left right = some (.ofNat (left.toNat + right.toNat)) := by
  rw [addWord, if_pos h, UInt64.ofNat_add, UInt64.ofNat_toNat, UInt64.ofNat_toNat]

theorem subWord_eq {left right : UInt64} (h : right.toNat ≤ left.toNat) :
    subWord left right = some (.ofNat (left.toNat - right.toNat)) := by
  have hle : right ≤ left := UInt64.le_iff_toNat_le.mpr h
  rw [subWord, if_pos hle, ← UInt64.toNat_sub_of_le _ _ hle, UInt64.ofNat_toNat]

/-- On words no sum and no difference wraps around, whatever the distance. -/
theorem positionAtDistanceWord_eq {capacity position : UInt64}
    (h : position.toNat < capacity.toNat) (distance : UInt64) :
    positionAtDistanceWord capacity position distance =
      some (.ofNat (positionAtDistance capacity.toNat position.toNat distance.toNat)) := by
  have hcapacity := capacity.toNat_lt
  have hreduced : (distance % capacity).toNat = distance.toNat % capacity.toNat :=
    UInt64.toNat_mod _ _
  have hsmall : distance.toNat % capacity.toNat < capacity.toNat := Nat.mod_lt _ (by omega)
  have hzero : distance % capacity = 0 ↔ distance.toNat % capacity.toNat = 0 := by
    rw [← UInt64.toNat_inj, hreduced, UInt64.toNat_zero]
  rw [positionAtDistanceWord, positionAtDistance]
  simp only [hzero]
  split
  · rw [UInt64.ofNat_toNat]
  · have hwrap : (UInt64.ofNat (capacity.toNat - position.toNat)).toNat =
        capacity.toNat - position.toNat :=
      UInt64.toNat_ofNat_of_lt' (show capacity.toNat - position.toNat < 2 ^ 64 by omega)
    rw [subWord_eq (Nat.le_of_lt h), Option.bind_some]
    simp only [UInt64.lt_iff_toNat_lt, hreduced, hwrap]
    split
    · rw [addWord_eq (by omega), hreduced]
    · rw [subWord_eq (by omega), hreduced, hwrap]

theorem nextPositionWord_eq {capacity position : UInt64}
    (h : position.toNat < capacity.toNat) :
    nextPositionWord capacity position =
      some (.ofNat (nextPosition capacity.toNat position.toNat)) := by
  have hcapacity := capacity.toNat_lt
  have hnext : UInt64.ofNat (position.toNat + 1) = capacity ↔
      position.toNat + 1 = capacity.toNat := by
    rw [← UInt64.toNat_inj, UInt64.toNat_ofNat_of_lt' (show position.toNat + 1 < 2 ^ 64 by omega)]
  rw [nextPositionWord, addWord_eq (by rw [UInt64.toNat_one]; omega), UInt64.toNat_one,
    Option.map_some, nextPosition]
  simp only [hnext]
  split <;> rfl

/-! ### The cursors of a history -/

/-- A step of a producer and a consumer with observers that may refuse. -/
abbrev RingAction (α : Type) := Spsc.Action α Bool Unit Bool

/-- The client of a history. -/
def history (α : Type) (capacity : Nat) (acts : List (RingAction α)) : RingClient α :=
  (Spsc.Client.start (initial capacity)).run acts

theorem history_sim (hcap : 1 ≤ capacity) (acts : List (RingAction α)) :
    ∃ queue room, Sim capacity (history α capacity acts).ring (history α capacity acts).pcall
        (history α capacity acts).ccall queue room ∧
      accepted (history α capacity acts) =
        delivered (history α capacity acts) ++ queue := by
  obtain ⟨queue, room, hsim, hconserve⟩ := Spsc.FifoSim.client_run
    (F := (packageSim (α := α) hcap).toFifoSim) enqueueAgrees_placed dequeueAgrees_taken acts
  have hpending : ∀ p, (packageSim (α := α) hcap).pending p = [] := by
    rintro (_ | ⟨e, call⟩) <;> rfl
  have hhand : ∀ p, (packageSim (α := α) hcap).inHand p = [] := by
    rintro (_ | call) <;> rfl
  rw [hpending, hhand, List.append_nil, List.append_nil] at hconserve
  exact ⟨queue, room, hsim, hconserve⟩

theorem enqueueStep_consumerPosition (accepts : Bool) (q : RingSpscQueue α)
    (call : EnqueueCall α) :
    (enqueueStep accepts q call).1.consumerPosition = q.consumerPosition := by
  cases call <;> simp only [enqueueStep] <;> split <;> rfl

/-- One step moves the consumer's cursor exactly when it delivers an event. -/
theorem step_consumerPosition {c : RingClient α} {queue : List α} {room : Nat}
    (h : Sim capacity c.ring c.pcall c.ccall queue room) (act : RingAction α)
    (hposition : c.ring.consumerPosition = (delivered c).length % capacity) :
    (RingClient.ring (c.step act)).consumerPosition =
      (delivered (c.step act)).length % capacity := by
  cases act with
  | producer a accepts =>
      cases hcall : c.pcall with
      | none =>
          rw [Spsc.Client.step_pBegin hcall]
          exact hposition
      | some running =>
          have hkept := enqueueStep_consumerPosition accepts c.ring running.2
          rcases hs : (package α).pStep accepts c.state running.2 with ⟨q, call' | r⟩
          · rw [Spsc.Client.step_pRunning hcall hs]
            exact ((congrArg (fun s => RingSpscQueue.consumerPosition s.1) hs).symm.trans
              hkept).trans hposition
          · rw [Spsc.Client.step_pReturned hcall hs]
            exact ((congrArg (fun s => RingSpscQueue.consumerPosition s.1) hs).symm.trans
              hkept).trans hposition
  | consumer b accepts =>
      cases hcall : c.ccall with
      | none =>
          rw [Spsc.Client.step_cBegin hcall]
          exact hposition
      | some call =>
          rcases hs : (package α).cStep accepts c.state call with ⟨q, call' | r⟩
          · obtain ⟨rfl, -⟩ := dequeueStep_running hs
            rw [Spsc.Client.step_cRunning hcall hs]
            exact hposition
          · rw [Spsc.Client.step_cReturned hcall hs]
            have hnone : ∀ {r : BoundaryDequeueResult α}, r.taken = none →
                (c.dequeued ++ [r]).filterMap BoundaryDequeueResult.taken =
                  c.dequeued.filterMap BoundaryDequeueResult.taken := by
              intro r hr
              simp [hr]
            obtain ⟨-, -, rfl, rfl⟩ | ⟨event, position, -, -, rfl, rfl⟩ |
              ⟨event, position, rfl, rfl, rfl⟩ := dequeueStep_returned hs
            · exact hposition.trans (congrArg (·.length % capacity) (hnone rfl)).symm
            · exact hposition.trans (congrArg (·.length % capacity) (hnone rfl)).symm
            · have hfacts := h.ccall
              rw [hcall] at hfacts
              obtain ⟨rfl, -⟩ := hfacts
              change nextPosition c.ring.capacity c.ring.consumerPosition =
                ((c.dequeued ++ [_]).filterMap BoundaryDequeueResult.taken).length % capacity
              rw [h.capacityEq, nextPosition_eq_mod h.holds.startLt, hposition, Nat.mod_add_mod,
                List.filterMap_append, List.length_append]
              rfl

/-- Each cursor is the number of operations of its side that took effect, by the capacity. -/
theorem history_cursors (hcap : 1 ≤ capacity) (acts : List (RingAction α)) :
    (history α capacity acts).ring.capacity = capacity ∧
      (history α capacity acts).ring.consumerPosition =
        (delivered (history α capacity acts)).length % capacity ∧
      (history α capacity acts).ring.producerPosition =
        (accepted (history α capacity acts)).length % capacity := by
  have hconsumer : (history α capacity acts).ring.consumerPosition =
      (delivered (history α capacity acts)).length % capacity := by
    induction acts using List.reverseRecOn with
    | nil => exact (Nat.zero_mod _).symm
    | append_singleton acts act ih =>
        obtain ⟨queue, room, hsim, -⟩ := history_sim hcap acts
        have hlast : history α capacity (acts ++ [act]) = (history α capacity acts).step act :=
          List.foldl_append ..
        rw [hlast]
        exact step_consumerPosition hsim act ih
  obtain ⟨queue, room, hsim, hfifo⟩ := history_sim hcap acts
  refine ⟨hsim.capacityEq, hconsumer, ?_⟩
  rw [hsim.back, hconsumer, Nat.mod_add_mod, hfifo, List.length_append]

/-! ### Exact targets -/

/-- The targets at a distance name the slots of the operations so many effects later. -/
structure ExactTargets (capacity : UInt64) (acts : List (RingAction α)) (distance : UInt64) :
    Prop where
  /-- The slot under the producer's cursor once this many more enqueues have been accepted. -/
  producer : ∀ more, (accepted (history α capacity.toNat (acts ++ more))).length =
      (accepted (history α capacity.toNat acts)).length + distance.toNat →
    (history α capacity.toNat acts).ring.producerSlotTarget distance.toNat =
      (history α capacity.toNat (acts ++ more)).ring.producerPosition
  /-- The slot under the consumer's cursor once this many more events have been returned. -/
  consumer : ∀ more, (delivered (history α capacity.toNat (acts ++ more))).length =
      (delivered (history α capacity.toNat acts)).length + distance.toNat →
    (history α capacity.toNat acts).ring.consumerSlotTarget distance.toNat =
      (history α capacity.toNat (acts ++ more)).ring.consumerPosition
  /-- The reckoning on words wraps around nowhere, for the targets and for the next cursors. -/
  words : ∀ position ∈ [(history α capacity.toNat acts).ring.producerPosition,
      (history α capacity.toNat acts).ring.consumerPosition],
    positionAtDistanceWord capacity (.ofNat position) distance =
        some (.ofNat (positionAtDistance capacity.toNat position distance.toNat)) ∧
      nextPositionWord capacity (.ofNat position) =
        some (.ofNat (nextPosition capacity.toNat position))

theorem exactTargets (capacity : UInt64) (hcap : 1 ≤ capacity.toNat)
    (acts : List (RingAction α)) (distance : UInt64) : ExactTargets capacity acts distance := by
  obtain ⟨hcapacity, hconsumer, hproducer⟩ := history_cursors hcap acts
  have hbound := capacity.toNat_lt
  have hlt : ∀ n, n % capacity.toNat < capacity.toNat := fun n => Nat.mod_lt n hcap
  refine ⟨fun more hmore => ?_, fun more hmore => ?_, fun position hposition => ?_⟩
  · rw [producerSlotTarget, hcapacity, hproducer, positionAtDistance_eq (hlt _), Nat.mod_add_mod,
      ← hmore, (history_cursors hcap (acts ++ more)).2.2]
  · rw [consumerSlotTarget, hcapacity, hconsumer, positionAtDistance_eq (hlt _), Nat.mod_add_mod,
      ← hmore, (history_cursors hcap (acts ++ more)).2.1]
  · have hcursor : position < capacity.toNat := by
      rw [hproducer, hconsumer, List.mem_pair] at hposition
      rcases hposition with rfl | rfl <;> exact hlt _
    have hword : (UInt64.ofNat position).toNat = position :=
      UInt64.toNat_ofNat_of_lt' (hcursor.trans hbound)
    have hinside : (UInt64.ofNat position).toNat < capacity.toNat := by rwa [hword]
    rw [positionAtDistanceWord_eq hinside, nextPositionWord_eq hinside, hword]
    exact ⟨rfl, rfl⟩

end CpuPrefetch.Queue.RingSpscQueue

namespace CpuPrefetch.Workload

open Queue (RingSpscQueue)
open Queue.RingSpscQueue (RingAction ExactTargets history)

/-! ### R1 and R2 -/

variable {α ω : Type}

/-- The calls, the results and the queue of a prefetching package. -/
def ringOf {emitter : PrefetchEmitter ω} {distanceSlots : UInt64}
    (c : Spsc.Client ((RingSpscQueue.package α).toSpsc.withGhost
      (producerPrefetch emitter distanceSlots) (consumerPrefetch emitter distanceSlots))) :
    RingSpscQueue.RingClient α :=
  c.erase

/-- A history of R1, without its prefetches. -/
def r1History (emitter : PrefetchEmitter ω) (distance : RingDistance) (capacity : Nat) (o : ω)
    (acts : List (RingAction α)) : RingSpscQueue.RingClient α :=
  ringOf ((Spsc.Client.start (RingSpscQueue.initial capacity, o)).run acts :
    Spsc.Client (r1Package α emitter distance).toSpsc)

/-- A history of R2, without its prefetches. -/
def r2History (emitter : PrefetchEmitter ω) (distance : CalibratedRingDistance) (capacity : Nat)
    (o : ω) (acts : List (RingAction α)) : RingSpscQueue.RingClient α :=
  ringOf ((Spsc.Client.start (RingSpscQueue.initial capacity, o)).run acts :
    Spsc.Client (r2Package α emitter distance).toSpsc)

theorem ringOf_history (emitter : PrefetchEmitter ω) (distanceSlots : UInt64) (capacity : Nat)
    (o : ω) (acts : List (RingAction α)) :
    ringOf ((Spsc.Client.start (RingSpscQueue.initial capacity, o)).run acts :
      Spsc.Client (prefetchingPackage emitter distanceSlots).toSpsc) = history α capacity acts :=
  Spsc.Client.erase_run _ acts

/-- **The targets of every reachable ring are exact, and prefetching changes nothing else.** The
calls, the results and the queue that a history of R1 or R2 leaves are those of R0. -/
theorem ring_prefetch_exact (capacity : UInt64) (hcap : 1 ≤ capacity.toNat)
    (acts : List (RingAction α)) (emitter : PrefetchEmitter ω) (o : ω) :
    (∀ distance, ExactTargets capacity acts distance) ∧
    (∀ distance, r1History emitter distance capacity.toNat o acts =
      history α capacity.toNat acts) ∧
    ∀ distance, r2History emitter distance capacity.toNat o acts =
      history α capacity.toNat acts := by
  refine ⟨Queue.RingSpscQueue.exactTargets capacity hcap acts, fun distance => ?_,
    fun distance => ?_⟩
  · exact ringOf_history emitter distance.slots capacity.toNat o acts
  · exact ringOf_history emitter distance.distance.slots capacity.toNat o acts

/-- A ring of two slots whose producer is refused once, with a distance beyond the capacity. -/
theorem ring_prefetch_exact_two :
    ExactTargets 2 [.producer 5 true, .producer 5 true, .producer 5 false, .producer 6 true,
      .producer 6 true, .producer 6 true, .producer 6 true] 0xffffffffffffffff :=
  (ring_prefetch_exact 2 (by decide) _ (⟨fun _ o => o, fun _ o => o⟩ : PrefetchEmitter Unit)
    ()).1 _

end CpuPrefetch.Workload
