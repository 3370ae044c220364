/-
What the audit of a queue at rest finds.

The nodes of a linked queue lie on a cycle: along the chain, over the node the producer holds,
through the recycler, and over the old sentinel the consumer holds.  A step moves a boundary
between these parts and no node, so the cycle stays the constructor's order, turned by one node
for each event that is taken.  Only a refused enqueue breaks a node out of it, for ever: the queue
is then one of less capacity, and the audit reports a node that nobody owns.
-/
import CpuPrefetch.Proofs.Queue.Linked
import CpuPrefetch.Proofs.Workload.RingPackages

namespace CpuPrefetch.Queue

open List Spsc.Client

namespace Package

variable {α : Type} {P : Package α}

/-- One producer and one consumer, and observers that answer as they like. -/
def observedClient (P : Package α) (init : P.State) (acts : List (Spsc.Action α Bool Unit Bool)) :
    Spsc.Client P.toSpsc :=
  (start init).run acts

/-- The enqueues whose observer refused. -/
def refused (c : Spsc.Client P.toSpsc) : Nat :=
  c.enqueued.countP fun e => e.2.status = .captureFailed

/-- The calls are those of a FIFO that has room for this many events. -/
structure FifoOf (room : Nat) (c : Spsc.Client P.toSpsc) : Prop where
  fifo : ∃ due, accepted c = delivered c ++ due ∧ due.length ≤ room
  full : ∀ act event, (c.step act).enqueued = c.enqueued ++ [(event, ⟨.complete, .full⟩)] →
    (accepted c).length = (delivered c).length + room
  empty : ∀ act event, (c.step act).dequeued = c.dequeued ++ [⟨.complete, ⟨.empty, event⟩⟩] →
    accepted c = delivered c
  recyclerNeverFails : ∀ r ∈ c.dequeued, r.result.status ≠ .recyclerInvariantFailure

variable {c : Spsc.Client P.toSpsc} {s : P.State} {event : α} {call : Option (α × P.PCall)}
  {ccall : Option P.CCall}

theorem accepted_returned (r : BoundaryEnqueueResult) :
    accepted (P := P) { c with state := s, pcall := call, enqueued := c.enqueued ++ [(event, r)] } =
      accepted c ++ if r.placed then [event] else [] := by
  cases hplaced : r.placed <;> simp [accepted, Spsc.Client.accepted, hplaced]

theorem refused_returned (r : BoundaryEnqueueResult) :
    refused (P := P) { c with state := s, pcall := call, enqueued := c.enqueued ++ [(event, r)] } =
      refused c + if r.status = .captureFailed then 1 else 0 := by
  simp [refused, countP_append, countP_cons]

theorem delivered_returned (r : BoundaryDequeueResult α) :
    delivered (P := P) { c with state := s, ccall := ccall, dequeued := c.dequeued ++ [r] } =
      delivered c ++ r.taken.toList := by
  cases htaken : r.taken <;> simp [delivered, Spsc.Client.delivered, htaken]

/-- A dequeue of a queue that behaves as a FIFO never finds the recycler broken. -/
theorem recyclerNeverFails {capacity : Nat} {init : P.State} (F : PackageSim P capacity init)
    (acts : List (Spsc.Action α Bool Unit Bool)) :
    ∀ r ∈ (P.observedClient init acts).dequeued,
      r.result.status ≠ .recyclerInvariantFailure := by
  rintro ⟨status, result, event⟩ hr hfail
  obtain ⟨v, hagrees⟩ := F.toFifoSim.dequeued_agrees acts _ hr
  obtain rfl : result = .recyclerInvariantFailure := hfail
  cases status <;> exact hagrees

end Package

open Package

namespace LinkedSpscQueue

variable {α : Type} {capacity : Nat} {nodeOrder : List Nat}

/-! ### The cycle of the nodes -/

variable {links : List (Nat × α)}

theorem Linked.unique {nodes : Nat → Node α} {head : Nat} {links' : List (Nat × α)}
    (h : Linked nodes head links) (h' : Linked nodes head links') : links = links' := by
  induction links generalizing head links' with
  | nil =>
      cases links' with
      | nil => rfl
      | cons link rest =>
          obtain ⟨hnext, -, -⟩ := h'
          have hend : (nodes head).next = none := h
          rw [hend] at hnext
          cases hnext
  | cons link rest ih =>
      obtain ⟨node, event⟩ := link
      obtain ⟨hnext, hevent, hrest⟩ := h
      cases links' with
      | nil =>
          have hend : (nodes head).next = none := h'
          rw [hend] at hnext
          cases hnext
      | cons link' rest' =>
          obtain ⟨node', event'⟩ := link'
          obtain ⟨hnext', hevent', hrest'⟩ := h'
          obtain rfl := Option.some.inj (hnext.symm.trans hnext')
          obtain rfl := Option.some.inj (hevent.symm.trans hevent')
          rw [ih hrest hrest']

/-- The nodes that are not lost, each before the one that comes after it. -/
def nodeCycle (q : LinkedSpscQueue α) (p : Option (α × EnqueueCall α)) (c : Option (DequeueCall α))
    (links : List (Nat × α)) (recycled : List Nat) : List Nat :=
  q.head :: links.map Prod.fst ++ producerHolds p ++ recycled ++ consumerHolds c

/-- The owners of the nodes, with the cycle they lie on after so many events were taken. -/
structure Cycled (capacity : Nat) (nodeOrder : List Nat) (q : LinkedSpscQueue α)
    (p : Option (α × EnqueueCall α)) (c : Option (DequeueCall α)) (taken : Nat)
    (links : List (Nat × α)) (recycled withheld : List Nat) : Prop where
  owns : Owns capacity q p c links recycled withheld
  rotated : (nodeCycle q p c links recycled).IsRotated (nodeOrder.filter (· ∉ withheld))
  turned : withheld = [] →
    nodeCycle q p c links recycled = nodeOrder.rotate (taken + (consumerHolds c).length)

variable {q : LinkedSpscQueue α} {recycled : List Nat}

theorem Owns.cycle_perm {p : Option (α × EnqueueCall α)} {c : Option (DequeueCall α)}
    {withheld : List Nat} (h : Owns capacity q p c links recycled withheld) :
    (nodeCycle q p c links recycled ++ withheld).Perm (List.range (capacity + 1)) := by
  refine List.Perm.trans ?_ h.partition
  rw [perm_iff_count]
  intro node
  simp only [nodeCycle, count_append]
  omega

namespace Cycled

variable {q q' : LinkedSpscQueue α} {p : Option (α × EnqueueCall α)}
  {c : Option (DequeueCall α)} {taken : Nat} {links : List (Nat × α)}
  {recycled withheld : List Nat} {event : α} {accepts : Bool}

/-- A step that leaves the cycle as it is. -/
theorem still {p' : Option (α × EnqueueCall α)} {c' : Option (DequeueCall α)} {taken' : Nat}
    {links' : List (Nat × α)} {recycled' : List Nat}
    (h : Cycled capacity nodeOrder q p c taken links recycled withheld)
    (howns : Owns capacity q' p' c' links' recycled' withheld)
    (hcycle : nodeCycle q' p' c' links' recycled' = nodeCycle q p c links recycled)
    (htaken : taken' + (consumerHolds c').length = taken + (consumerHolds c).length) :
    Cycled capacity nodeOrder q' p' c' taken' links' recycled' withheld :=
  ⟨howns, hcycle ▸ h.rotated, fun hnone => by rw [hcycle, htaken, h.turned hnone]⟩

theorem initial (hcap : 1 ≤ capacity) (horder : nodeOrder.Perm (List.range (capacity + 1))) :
    ∃ recycled, Cycled capacity nodeOrder (initial (α := α) capacity nodeOrder) none none 0 []
      recycled [] := by
  obtain ⟨recycled, howns⟩ := owns_initial (α := α) hcap horder
  have hlength : nodeOrder.length = capacity + 1 := by simpa using horder.length_eq
  cases nodeOrder with
  | nil => simp at hlength
  | cons sentinel rest =>
      have hrest : rest.length = capacity := by simpa using hlength
      have hholds : Cyclic.Holds capacity (LinkedSpscQueue.initial (α := α) capacity
          (sentinel :: rest)).recyclerSlots 0 rest := by
        refine ⟨Nat.le_of_eq hrest, hcap, fun i hi => ?_⟩
        simp [LinkedSpscQueue.initial, Nat.mod_eq_of_lt hi, hi]
      obtain rfl : recycled = rest := howns.recycler.unique hholds
      have hcycle :
          nodeCycle (LinkedSpscQueue.initial (α := α) capacity (sentinel :: recycled)) none none []
            recycled = sentinel :: recycled := by
        simp [nodeCycle, LinkedSpscQueue.initial, producerHolds, consumerHolds]
      refine ⟨recycled, howns, ?_, fun _ => ?_⟩
      · rw [hcycle, List.filter_eq_self.mpr fun node _ => by simp]
      · rw [hcycle]
        exact (rotate_zero _).symm

theorem enqueue_runs {call call' : EnqueueCall α}
    (h : Cycled capacity nodeOrder q (some (event, call)) c taken links recycled withheld)
    (hrun : EnqueueRuns accepts q call q' call') :
    ∃ recycled', Cycled capacity nodeOrder q' (some (event, call')) c taken links recycled'
      withheld := by
  obtain ⟨recycled', howns⟩ := h.owns.enqueue_runs hrun
  have hfacts := h.owns.pcall
  refine ⟨recycled', h.still howns ?_ rfl⟩
  cases hrun with
  | obtain hslot =>
      rw [howns.recycler.unique h.owns.recycler]
      rfl
  | @clear e node position =>
      obtain ⟨-, hpos, hhead⟩ := hfacts
      obtain ⟨rest, rfl⟩ := List.head?_eq_some_iff.mp hhead
      have hnext : nextPosition q.capacity position = (q.recyclerConsumer + 1) % capacity := by
        rw [hpos, h.owns.capacityEq, nextPosition_eq_mod h.owns.recycler.startLt]
      have hpop : Cyclic.Holds capacity (Function.update q.recyclerSlots position none)
          (nextPosition q.capacity position) rest := by
        rw [hnext, hpos]
        exact h.owns.recycler.pop
      obtain rfl : recycled' = rest := howns.recycler.unique hpop
      simp [nodeCycle, producerHolds]
  | fill =>
      rw [howns.recycler.unique h.owns.recycler]
      rfl
  | observed =>
      rw [howns.recycler.unique h.owns.recycler]
      rfl

/-- A refused enqueue loses the node it held. -/
theorem lost_eq {e : α} {held lost : Nat}
    (h : Owns capacity q (some (event, .beforePublication e held)) c links recycled withheld)
    (h' : Owns capacity q none c links recycled (lost :: withheld)) : lost = held := by
  have hcount := (h'.partition.trans h.partition.symm).count_eq held
  simp only [producerHolds, count_append, count_cons, count_nil] at hcount
  by_contra hne
  simp [hne] at hcount

/-- A node that is lost leaves the cycle. -/
theorem refused {e : α} {node : Nat}
    (h : Cycled capacity nodeOrder q (some (event, .beforePublication e node)) c taken links
      recycled withheld) (howns : Owns capacity q none c links recycled (node :: withheld)) :
    Cycled capacity nodeOrder q none c taken links recycled (node :: withheld) := by
  refine ⟨howns, ?_, fun h => by cases h⟩
  have hnodup := howns.cycle_perm.nodup_iff.mpr nodup_range
  have hnode : node ∉ nodeCycle q none c links recycled := fun hmem =>
    (List.nodup_append.mp hnodup).2.2 node hmem node mem_cons_self rfl
  have hself : (nodeCycle q none c links recycled).filter (· ≠ node) =
      nodeCycle q none c links recycled :=
    List.filter_eq_self.mpr fun other hother => by
      simpa using fun heq : other = node => hnode (heq ▸ hother)
  have hcycle : (nodeCycle q (some (event, .beforePublication e node)) c links recycled).filter
      (· ≠ node) = nodeCycle q none c links recycled := by
    rw [← hself]
    simp [nodeCycle, producerHolds, filter_append, filter_cons]
  have hwithheld : (nodeOrder.filter (· ∉ withheld)).filter (· ≠ node) =
      nodeOrder.filter (· ∉ node :: withheld) := by
    rw [filter_filter]
    exact filter_congr fun other _ => by simp
  rw [← hcycle, ← hwithheld]
  exact Cyclic.isRotated_filter h.rotated _

theorem enqueue_returns {call : EnqueueCall α} {r : BoundaryEnqueueResult}
    (h : Cycled capacity nodeOrder q (some (event, call)) c taken links recycled withheld)
    (hret : EnqueueReturns accepts q call q' r) :
    ∃ links' withheld', Cycled capacity nodeOrder q' none c taken links' recycled withheld' ∧
      links'.map Prod.snd = links.map Prod.snd ++ (if r.placed then [event] else []) ∧
      withheld'.length = withheld.length + if r.status = .captureFailed then 1 else 0 := by
  obtain ⟨rfl, rfl, rfl, rfl, howns⟩ | ⟨rfl, -, node, howns⟩ | ⟨rfl, node, howns⟩ :=
    h.owns.enqueue_returns hret
  · exact ⟨links, withheld, h.still howns rfl rfl, by simp [BoundaryEnqueueResult.placed], rfl⟩
  · cases hret with
    | @refused e held hrefused =>
        obtain rfl := lost_eq h.owns howns
        exact ⟨links, node :: withheld, h.refused howns, by simp [BoundaryEnqueueResult.placed],
          rfl⟩
  · cases hret with
    | @linked e held =>
        obtain rfl : held = node := howns.tailEq.trans (lastNode_append q.head links node event)
        refine ⟨links ++ [(held, event)], withheld, h.still howns ?_ rfl,
          by simp [BoundaryEnqueueResult.placed], rfl⟩
        simp [nodeCycle, producerHolds]

/-- The sentinel moves to the end of the cycle when the consumer unlinks it. -/
theorem dequeue_runs {call call' : DequeueCall α}
    (h : Cycled capacity nodeOrder q p (some call) taken links recycled withheld)
    (hrun : DequeueRuns accepts q call q' call') :
    ∃ links', Cycled capacity nodeOrder q' p (some call') taken links' recycled withheld ∧
      eventInHand (some call') ++ links'.map Prod.snd =
        eventInHand (some call) ++ links.map Prod.snd := by
  obtain ⟨links', howns, hqueue⟩ := h.owns.dequeue_runs hrun
  have hfacts := h.owns.ccall
  refine ⟨links', ?_, hqueue⟩
  cases hrun with
  | found hnext =>
      obtain rfl := howns.chain.unique h.owns.chain
      exact h.still howns rfl rfl
  | observed =>
      obtain rfl := howns.chain.unique h.owns.chain
      exact h.still howns rfl rfl
  | prefetched =>
      obtain rfl := howns.chain.unique h.owns.chain
      exact h.still howns rfl rfl
  | checked =>
      obtain rfl := howns.chain.unique h.owns.chain
      exact h.still howns rfl rfl
  | @advanced old successor position =>
      obtain ⟨rfl, -, e, hhead⟩ := hfacts
      obtain ⟨rest, rfl⟩ := List.head?_eq_some_iff.mp hhead
      have hrest : Linked q.nodes successor rest := h.owns.chain.2.2
      obtain rfl : links' = rest := howns.chain.unique hrest
      have hcycle : nodeCycle { q with head := successor } p
          (some (.recyclerStore q.head position (q.nodes successor).event)) links' recycled =
            (nodeCycle q p (some (.advance q.head successor position))
              ((successor, e) :: links') recycled).rotate 1 := by
        simp [nodeCycle, consumerHolds]
      refine ⟨howns, ?_, fun hnone => ?_⟩
      · rw [hcycle]
        exact (List.IsRotated.forall _ 1).trans h.rotated
      · rw [hcycle, h.turned hnone, rotate_rotate]
        rfl

theorem dequeue_returns {call : DequeueCall α} {r : BoundaryDequeueResult α}
    (h : Cycled capacity nodeOrder q p (some call) taken links recycled withheld)
    (hret : DequeueReturns accepts q call q' r) :
    ∃ recycled', Cycled capacity nodeOrder q' p none (taken + r.taken.toList.length) links
      recycled' withheld ∧ eventInHand (some call) = r.taken.toList := by
  obtain ⟨rfl, rfl, rfl, howns⟩ | ⟨rfl, hhand, howns⟩ | ⟨e, node, rfl, hhand, howns⟩ :=
    h.owns.dequeue_returns hret
  · cases hret with
    | empty hnext => exact ⟨recycled, h.still howns rfl rfl, rfl⟩
  · cases hret with
    | refused => exact ⟨recycled, h.still howns rfl rfl, rfl⟩
  · have hheld := h.owns.ccall
    have hlt := h.owns.recycled_lt
    cases hret with
    | @recycled old position =>
        obtain ⟨rfl, -⟩ := hheld
        have hpush := h.owns.recycler.push (hlt (Or.inr (by simp [consumerHolds]))) old
        rw [← h.owns.back] at hpush
        have hsame := howns.recycler.unique hpush
        obtain rfl : node = old := by simpa using hsame
        refine ⟨recycled ++ [node], h.still howns ?_ rfl, hhand⟩
        simp [nodeCycle, consumerHolds]

end Cycled

/-! ### The ledger of a run -/

/-- Where the nodes and the events of a run have gone. -/
structure Ledger (capacity : Nat) (nodeOrder : List Nat) (c : LinkedClient α)
    (links : List (Nat × α)) (recycled withheld : List Nat) : Prop where
  cycled : Cycled capacity nodeOrder c.queue c.pcallOf c.ccallOf (delivered c).length links
    recycled withheld
  balance : accepted c =
    delivered c ++ (eventInHand c.ccallOf ++ links.map Prod.snd)
  lost : withheld.length = refused c

/-- Every run has a ledger, whatever the observers answer. -/
theorem ledger (hcap : 1 ≤ capacity) (horder : nodeOrder.Perm (List.range (capacity + 1)))
    (acts : List (Spsc.Action α Bool Unit Bool)) :
    ∃ links recycled withheld, Ledger capacity nodeOrder
      ((package α).observedClient (initial capacity nodeOrder) acts) links recycled withheld := by
  refine run_cases (P := fun c : LinkedClient α => ∃ links recycled withheld,
    Ledger capacity nodeOrder c links recycled withheld) ?_ ?_ ?_ ?_ ?_ ?_ ?_ acts
  · obtain ⟨recycled, hcycled⟩ := Cycled.initial (α := α) hcap horder
    exact ⟨[], recycled, [], hcycled, rfl, rfl⟩
  · rintro c event ⟨links, recycled, withheld, hcycled, hbalance, hlost⟩ hcall
    rw [LinkedClient.pcallOf, hcall] at hcycled
    exact ⟨links, recycled, withheld,
      hcycled.still { hcycled.owns with pcall := rfl } rfl rfl, hbalance, hlost⟩
  · rintro c event accepts call q' call' ⟨links, recycled, withheld, hcycled, hbalance, hlost⟩
      hcall hstep
    rw [LinkedClient.pcallOf, hcall] at hcycled
    obtain ⟨recycled', hcycled'⟩ := hcycled.enqueue_runs (enqueueStep_runs hstep)
    exact ⟨links, recycled', withheld, hcycled', hbalance, hlost⟩
  · rintro c event accepts call q' r ⟨links, recycled, withheld, hcycled, hbalance, hlost⟩
      hcall hstep
    rw [LinkedClient.pcallOf, hcall] at hcycled
    obtain ⟨links', withheld', hcycled', hlinks, hnew⟩ :=
      hcycled.enqueue_returns (enqueueStep_returns hstep)
    refine ⟨links', recycled, withheld', hcycled', ?_, ?_⟩
    · rw [accepted_returned, hbalance, hlinks]
      simp only [append_assoc]
      rfl
    · rw [refused_returned, hnew, hlost]
  · rintro c - ⟨links, recycled, withheld, hcycled, hbalance, hlost⟩ hcall
    rw [LinkedClient.ccallOf, hcall] at hcycled hbalance
    exact ⟨links, recycled, withheld,
      hcycled.still { hcycled.owns with ccall := trivial } rfl rfl, hbalance, hlost⟩
  · rintro c accepts call q' call' ⟨links, recycled, withheld, hcycled, hbalance, hlost⟩ hcall hstep
    rw [LinkedClient.ccallOf, hcall] at hcycled hbalance
    obtain ⟨links', hcycled', hqueue⟩ := hcycled.dequeue_runs (dequeueStep_runs hstep)
    exact ⟨links', recycled, withheld, hcycled', hqueue ▸ hbalance, hlost⟩
  · rintro c accepts call q' r ⟨links, recycled, withheld, hcycled, hbalance, hlost⟩ hcall hstep
    rw [LinkedClient.ccallOf, hcall] at hcycled hbalance
    obtain ⟨recycled', hcycled', hhand⟩ := hcycled.dequeue_returns (dequeueStep_returns hstep)
    refine ⟨links, recycled', withheld, ?_, ?_, hlost⟩
    · rw [delivered_returned, length_append]
      exact hcycled'
    · rw [delivered_returned, append_assoc, ← hhand]
      exact hbalance

/-! ### What the audit walks over -/

/-- The walk along `next` is the chain, and takes its nodes out of the unowned ones. -/
theorem walkChain_linked {head : Nat} {unowned : List Nat} (hlinked : Linked q.nodes head links)
    (hnodup : (head :: links.map Prod.fst).Nodup) (hsub : head :: links.map Prod.fst ⊆ unowned) :
    walkChain q unowned (some head) = ⟨head :: links.map Prod.fst,
      unowned.diff (head :: links.map Prod.fst), true, q.tail ∈ head :: links.map Prod.fst⟩ := by
  induction links generalizing head unowned with
  | nil =>
      have hend : (q.nodes head).next = none := hlinked
      rw [walkChain, dif_pos (hsub mem_cons_self), hend, walkChain]
      simp [eq_comm]
  | cons link rest ih =>
      obtain ⟨node, event⟩ := link
      obtain ⟨hnext, -, hrest⟩ := hlinked
      have hnot := (List.nodup_cons.mp hnodup).1
      rw [walkChain, dif_pos (hsub mem_cons_self), hnext,
        ih hrest (List.nodup_cons.mp hnodup).2 fun other hother => ?_]
      · simp only [map_cons, diff_cons, ChainWalk.mk.injEq, true_and]
        rw [← Bool.decide_or]
        exact decide_eq_decide.mpr ((or_congr_left eq_comm).trans List.mem_cons.symm)
      · have hne : other ≠ head := fun heq => hnot (heq ▸ hother)
        exact (mem_erase_of_ne hne).mpr (hsub (mem_cons_of_mem _ hother))

/-- The loop over the recycler sees its nodes, and then free slots. -/
theorem scan_holds {unowned : List Nat} (hcapacity : q.capacity = capacity)
    (h : Cyclic.Holds capacity q.recyclerSlots q.recyclerConsumer recycled)
    (hnodup : recycled.Nodup) (hsub : recycled ⊆ unowned) (count : Nat)
    (hcount : count ≤ capacity) :
    (List.range count).foldl (scanSlot q) ⟨[], unowned, false, true, true⟩ =
      ⟨recycled.take count, unowned.diff (recycled.take count), recycled.length < count, true,
        true⟩ := by
  induction count with
  | zero => simp
  | succ count ih =>
      rw [range_succ, foldl_append, ih (by omega), foldl_cons, foldl_nil]
      have hread := h.read count (by omega)
      rcases Nat.lt_or_ge count recycled.length with hlt | hge
      · rw [getElem?_eq_getElem hlt] at hread
        have htake := take_succ_eq_append_getElem hlt
        have hnot : recycled[count] ∉ recycled.take count := by
          have hsub := hnodup.sublist (take_sublist (count + 1) recycled)
          rw [htake] at hsub
          exact fun hmem => (List.nodup_append.mp hsub).2.2 _ hmem _ (by simp) rfl
        have hmem : recycled[count] ∈ unowned.diff (recycled.take count) :=
          mem_diff_of_mem (hsub (getElem_mem hlt)) hnot
        rw [scanSlot, hcapacity, hread, htake, diff_append, diff_cons, diff_nil]
        simp [hmem, Nat.not_lt_of_lt hlt, Nat.not_lt_of_le hlt]
      · rw [getElem?_eq_none hge] at hread
        rw [scanSlot, hcapacity, hread, take_of_length_le hge,
          take_of_length_le (Nat.le_succ_of_le hge)]
        simp [Nat.lt_succ_of_le hge]

/-- At rest the audit reads off who owns the nodes. -/
theorem Owns.audit {withheld : List Nat} (h : Owns capacity q none none links recycled withheld) :
    auditQuiescent q = ⟨links.length + 1, links.length, recycled.length,
      q.head :: links.map Prod.fst, recycled, true, true, withheld.isEmpty, true, true⟩ := by
  have hperm : (q.head :: links.map Prod.fst ++ recycled ++ withheld).Perm
      (List.range (capacity + 1)) := by
    simpa [producerHolds, consumerHolds] using h.partition
  have hnodup := (List.nodup_append.mp (hperm.nodup_iff.mpr nodup_range)).1
  obtain ⟨hchain, hrecycled, hapart⟩ := List.nodup_append.mp hnodup
  have hwalk := walkChain_linked h.chain hchain
    fun node hnode => hperm.subset (mem_append_left _ (mem_append_left _ hnode))
  have hscan := scan_holds h.capacityEq h.recycler hrecycled
    (fun node hnode => mem_diff_of_mem
      (hperm.subset (mem_append_left _ (mem_append_right _ hnode)))
      fun hmem => hapart node hmem node hnode rfl) capacity (Nat.le_refl _)
  rw [take_of_length_le h.recycler.fits, ← diff_append] at hscan
  have hleft : ((List.range (capacity + 1)).diff (q.head :: links.map Prod.fst ++ recycled)).Perm
      withheld := by
    have hdiff := @List.subperm_append_diff_self_of_count_le _ _ _
      (q.head :: links.map Prod.fst ++ recycled) (List.range (capacity + 1)) fun node _ => by
        rw [← hperm.count_eq]
        exact (sublist_append_left _ withheld).count_le node
    exact (perm_append_left_iff _).mp (hdiff.trans hperm.symm)
  have hbounds : q.recyclerProducer < q.capacity ∧ q.recyclerConsumer < q.capacity :=
    h.capacityEq ▸ ⟨h.recyclerProducer_lt, h.recycler.startLt⟩
  have htail : q.tail ∈ q.head :: links.map Prod.fst := h.tailEq ▸ lastNode_mem q.head links
  have hempty : ((List.range (capacity + 1)).diff
      (q.head :: links.map Prod.fst ++ recycled)).isEmpty = withheld.isEmpty := by
    rw [Bool.eq_iff_iff, List.isEmpty_iff, List.isEmpty_iff]
    exact ⟨fun hnil => (List.Perm.nil_eq (hnil ▸ hleft)).symm,
      fun hnil => List.Perm.eq_nil (hnil ▸ hleft)⟩
  rw [diff_append] at hscan hempty
  rw [h.capacityEq] at hbounds
  simp only [auditQuiescent, h.capacityEq, hwalk, hscan, hempty, htail, hbounds, decide_true,
    Bool.and_self, Bool.true_and, length_cons, length_map, isEmpty_cons,
    Bool.false_eq_true, if_false, Nat.add_sub_cancel]

/-! ### Any observers -/

/-- What the audit of a linked queue reports. -/
structure Audited (capacity : Nat) (nodeOrder : List Nat) (c : LinkedClient α)
    (audit : LinkedQuiescentAudit) : Prop where
  sound : audit.chainAcyclic && audit.tailReachable && audit.recyclerFifoShape &&
    audit.positionsInRange = true
  queued : (accepted c).length = (delivered c).length + audit.queuedEvents
  capacity : audit.queuedEvents + audit.recyclerNodes + refused c = capacity
  ownedOnce : audit.everyNodeOwnedOnce = true ↔ refused c = 0
  /-- The nodes are in the constructor's order, but for one lost with every refused enqueue. -/
  order : ∃ lost : List Nat, lost.length = refused c ∧ lost.Nodup ∧ lost ⊆ nodeOrder ∧
    (audit.reachableOrder ++ audit.recyclerOrder).IsRotated (nodeOrder.filter (· ∉ lost))
  /-- Without a refusal the order has turned by one node for every event that was taken. -/
  turned : refused c = 0 → audit.reachableOrder ++ audit.recyclerOrder =
    nodeOrder.rotate (delivered c).length

/-- **At rest after any interleaving, with observers that answer as they like, the audit of a linked
queue finds it whole, but for one node lost with every refused enqueue.** -/
theorem linked_audited (capacity : Nat) (hcap : 1 ≤ capacity) (nodeOrder : List Nat)
    (horder : nodeOrder.Perm (List.range (capacity + 1)))
    (acts : List (Spsc.Action α Bool Unit Bool))
    (hproducer : ((package α).observedClient (initial capacity nodeOrder) acts).pcall = none)
    (hconsumer : ((package α).observedClient (initial capacity nodeOrder) acts).ccall = none) :
    Audited capacity nodeOrder ((package α).observedClient (initial capacity nodeOrder) acts)
      (auditQuiescent (LinkedClient.queue
        ((package α).observedClient (initial capacity nodeOrder) acts))) := by
  obtain ⟨links, recycled, withheld, hcycled, hbalance, hlost⟩ := ledger (α := α) hcap horder acts
  generalize (package α).observedClient (initial capacity nodeOrder) acts = c at *
  rw [LinkedClient.pcallOf, LinkedClient.ccallOf, hproducer, hconsumer] at hcycled
  rw [LinkedClient.ccallOf, hconsumer] at hbalance
  have howns := hcycled.owns
  have hlength := howns.length_eq
  have hcycle : nodeCycle (LinkedClient.queue c) none none links recycled =
      (LinkedClient.queue c).head :: links.map Prod.fst ++ recycled := by
    simp [nodeCycle, producerHolds, consumerHolds]
  have hnone : refused c = 0 ↔ withheld = [] := by
    rw [← hlost, length_eq_zero_iff]
  rw [howns.audit]
  refine ⟨rfl, ?_, ?_, ?_, ⟨withheld, hlost, ?_, ?_, ?_⟩, fun hrefused => ?_⟩
  · simp [hbalance, eventInHand]
  · simp only [producerHolds, consumerHolds, length_nil] at hlength
    show links.length + recycled.length + _ = capacity
    omega
  · rw [hnone, List.isEmpty_iff]
  · exact List.Nodup.of_append_right howns.nodup
  · exact fun node hnode => horder.mem_iff.mpr
      (howns.partition.subset (mem_append_right _ hnode))
  · exact hcycle ▸ hcycled.rotated
  · exact hcycle ▸ hcycled.turned (hnone.mp hrefused)

/-- One event goes in, another is refused at its boundary, and the first comes out. -/
def refusedOnce : List (Spsc.Action Nat Bool Unit Bool) :=
  List.replicate 6 (.producer 5 true) ++ List.replicate 5 (.producer 6 false) ++
    List.replicate 7 (.consumer () true)

theorem linked_audited_refused :
    ((package Nat).observedClient (initial 2 [2, 0, 1]) refusedOnce).pcall = none ∧
    refused ((package Nat).observedClient (initial 2 [2, 0, 1]) refusedOnce) = 1 ∧
    Audited 2 [2, 0, 1] ((package Nat).observedClient (initial 2 [2, 0, 1]) refusedOnce)
      (auditQuiescent (LinkedClient.queue
        ((package Nat).observedClient (initial 2 [2, 0, 1]) refusedOnce))) :=
  ⟨rfl, by decide, linked_audited 2 (by decide) [2, 0, 1] (by decide) refusedOnce rfl rfl⟩

/-- **With observers that answer as they like a linked queue is a FIFO, with less room by one event
for every refused enqueue.** -/
theorem linked_degrades (capacity : Nat) (hcap : 1 ≤ capacity) (nodeOrder : List Nat)
    (horder : nodeOrder.Perm (List.range (capacity + 1)))
    (acts : List (Spsc.Action α Bool Unit Bool)) :
    refused ((package α).observedClient (initial capacity nodeOrder) acts) ≤ capacity ∧
      FifoOf (capacity -
        refused ((package α).observedClient (initial capacity nodeOrder) acts))
          ((package α).observedClient (initial capacity nodeOrder) acts) := by
  have hfails := recyclerNeverFails (packageSim (α := α) hcap horder) acts
  obtain ⟨links, recycled, withheld, hcycled, hbalance, hlost⟩ := ledger (α := α) hcap horder acts
  generalize (package α).observedClient (initial capacity nodeOrder) acts = c at *
  have howns := hcycled.owns
  have hlength := howns.queue_length
  refine ⟨by omega, ⟨_, hbalance, by omega⟩, ?_, ?_, hfails⟩
  · intro act event hret
    obtain ⟨e, accepts, call, q, -, hcall, hstep⟩ := pReturned_of_step hret
    rw [LinkedClient.pcallOf, hcall] at howns hlength
    obtain ⟨-, rfl, rfl, -⟩ | ⟨hr, -⟩ | ⟨hr, -⟩ := howns.enqueue_returns (enqueueStep_returns hstep)
    · simp only [producerHolds, length_nil] at hlength
      rw [hbalance, length_append]
      omega
    · cases hr
    · cases hr
  · intro act event hret
    obtain ⟨b, accepts, call, q, -, hcall, hstep⟩ := cReturned_of_step hret
    rw [LinkedClient.ccallOf, hcall] at howns hbalance
    obtain ⟨-, rfl, rfl, -⟩ | ⟨hr, -⟩ | ⟨e, node, hr, -⟩ :=
      howns.dequeue_returns (dequeueStep_returns hstep)
    · simpa [eventInHand] using hbalance
    · cases hr
    · cases hr

theorem linked_degrades_refused :
    refused ((package Nat).observedClient (initial 2 [2, 0, 1]) refusedOnce) = 1 ∧
    FifoOf 1 ((package Nat).observedClient (initial 2 [2, 0, 1]) refusedOnce) :=
  ⟨by decide, (linked_degrades 2 (by decide) [2, 0, 1] (by decide) refusedOnce).2⟩

end LinkedSpscQueue

namespace RingSpscQueue

variable {α : Type} {capacity : Nat}

/-! ### Any observers -/

/-- The ring under any observers: its calls, its audit, and that only an effect changes it. -/
structure Observed (capacity : Nat) (c : RingClient α) : Prop where
  fifo : FifoOf capacity c
  occupied : (accepted c).length =
    (delivered c).length + (auditQuiescent c.ring).occupiedSlots
  cursors : (auditQuiescent c.ring).producerPosition = (accepted c).length % capacity ∧
    (auditQuiescent c.ring).consumerPosition = (delivered c).length % capacity
  inRange : (auditQuiescent c.ring).positionsInRange = true
  /-- A step with which no event is accepted or returned leaves every slot and cursor. -/
  still : ∀ act, accepted (c.step act) = accepted c →
    delivered (c.step act) = delivered c →
      RingClient.ring (c.step act) = c.ring

theorem step_still {c : RingClient α} {act : RingAction α}
    (haccepted : accepted (c.step act) = accepted c)
    (hdelivered : delivered (c.step act) = delivered c) :
    RingClient.ring (c.step act) = c.ring := by
  cases act with
  | producer a accepts =>
      cases hcall : c.pcall with
      | none => rw [step_pBegin hcall]; rfl
      | some running =>
          rcases hs : (package α).pStep accepts c.state running.2 with ⟨q, call' | r⟩
          · obtain ⟨rfl, -⟩ := enqueueStep_running hs
            rw [step_pRunning hcall hs]
            rfl
          · rw [step_pReturned hcall hs] at haccepted ⊢
            obtain ⟨_, _, -, -, rfl, rfl⟩ | ⟨_, _, -, -, rfl, rfl⟩ | ⟨_, _, -, rfl, -⟩ :=
              enqueueStep_returned hs
            · rfl
            · rfl
            · rw [accepted_returned] at haccepted
              simp [BoundaryEnqueueResult.placed] at haccepted
  | consumer b accepts =>
      cases hcall : c.ccall with
      | none => rw [step_cBegin hcall]; rfl
      | some call =>
          rcases hs : (package α).cStep accepts c.state call with ⟨q, call' | r⟩
          · obtain ⟨rfl, -⟩ := dequeueStep_running hs
            rw [step_cRunning hcall hs]
            rfl
          · rw [step_cReturned hcall hs] at hdelivered ⊢
            obtain ⟨-, -, rfl, rfl⟩ | ⟨_, _, -, -, rfl, rfl⟩ | ⟨_, _, -, rfl, -⟩ :=
              dequeueStep_returned hs
            · rfl
            · rfl
            · rw [delivered_returned] at hdelivered
              simp [BoundaryDequeueResult.taken] at hdelivered

/-- **With observers that answer as they like a ring is a FIFO of its capacity that loses nothing,
and its audit counts what is due.** -/
theorem ring_observed (capacity : Nat) (hcap : 1 ≤ capacity)
    (acts : List (Spsc.Action α Bool Unit Bool)) :
    Observed capacity ((package α).observedClient (initial capacity) acts) := by
  have hfails := recyclerNeverFails (packageSim (α := α) hcap) acts
  obtain ⟨hcapacity, hconsumer, hproducer⟩ := history_cursors (α := α) hcap acts
  obtain ⟨queue, room, hsim, hbalance⟩ := history_sim (α := α) hcap acts
  change Observed capacity (history α capacity acts)
  change ∀ r ∈ (history α capacity acts).dequeued, _ at hfails
  generalize history α capacity acts = c at *
  have hlength : (accepted c).length = (delivered c).length + queue.length := by
    rw [hbalance, length_append]
  refine ⟨⟨⟨queue, hbalance, hsim.holds.fits⟩, ?_, ?_, hfails⟩, ?_, ⟨hproducer, hconsumer⟩, ?_,
    fun act => step_still⟩
  · intro act event hret
    obtain ⟨e, accepts, call, q, -, hcall, hstep⟩ := pReturned_of_step hret
    obtain ⟨_, _, -, hslot, -, -⟩ | ⟨_, _, -, -, hr, -⟩ | ⟨_, _, -, hr, -⟩ :=
      enqueueStep_returned hstep
    · rw [hlength, hsim.full_of_slot hslot]
    · cases hr
    · cases hr
  · intro act event hret
    obtain ⟨b, accepts, call, q, -, hcall, hstep⟩ := cReturned_of_step hret
    obtain ⟨-, hslot, -, -⟩ | ⟨_, _, -, -, hr, -⟩ | ⟨_, _, -, hr, -⟩ := dequeueStep_returned hstep
    · rw [hbalance, hsim.holds.nil_of_front hslot, append_nil]
    · cases hr
    · cases hr
  · have hcontents := hsim.holds.contents_perm.length_eq
    rw [hlength, ← hcontents, length_filterMap_eq_countP, auditQuiescent, hcapacity]
  · have hlt : ∀ n, n % capacity < capacity := fun n => Nat.mod_lt n hcap
    simp [auditQuiescent, hcapacity, hproducer, hconsumer, hlt]

theorem ring_observed_refused : Observed 2 ((package Nat).observedClient (initial 2)
    (List.replicate 4 (.producer 5 true) ++ List.replicate 3 (.producer 6 false) ++
      List.replicate 2 (.consumer () true))) :=
  ring_observed 2 (by decide) _

end RingSpscQueue

end CpuPrefetch.Queue
