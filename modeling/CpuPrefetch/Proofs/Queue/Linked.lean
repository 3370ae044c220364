/-
The linked queue is a bounded FIFO under every interleaving.

Two structures hand nodes to each other: the chain behind the consumer's sentinel,
and the recycler.  `Owns` is the invariant that ties them: the chain is linked from
`head` to `tail` through the queued events, the recycler is a cyclic buffer, and
the chain, the recycler, what either side holds in mid-operation and what a refused
enqueue has lost are together the `C + 1` nodes, each once.  That one permutation
carries most of the argument.  Counting it shows that the consumer's recycler slot
is free whenever there is a successor, and that an empty recycler means a full
queue; its lack of duplicates shows that no update of a node in flight can reach
the chain.
-/
import CpuPrefetch.Queue.Linked

namespace CpuPrefetch.Queue

open List Package

namespace LinkedSpscQueue

variable {α : Type} {capacity : Nat}

/-! ### The chain behind the sentinel -/

/-- Following `next` from `head` visits exactly `links`, with these events. -/
def Linked (nodes : Nat → Node α) : Nat → List (Nat × α) → Prop
  | head, [] => (nodes head).next = none
  | head, (node, event) :: rest =>
      (nodes head).next = some node ∧ (nodes node).event = some event ∧ Linked nodes node rest

/-- The node a chain from `head` ends in. -/
def lastNode : Nat → List (Nat × α) → Nat
  | head, [] => head
  | _, (node, _) :: rest => lastNode node rest

theorem lastNode_mem (head : Nat) (links : List (Nat × α)) :
    lastNode head links ∈ head :: links.map Prod.fst := by
  induction links generalizing head with
  | nil => simp [lastNode]
  | cons link rest ih =>
      obtain ⟨node, event⟩ := link
      exact mem_cons_of_mem _ (ih node)

theorem lastNode_append (head : Nat) (links : List (Nat × α)) (node : Nat) (event : α) :
    lastNode head (links ++ [(node, event)]) = node := by
  induction links generalizing head with
  | nil => rfl
  | cons link rest ih =>
      obtain ⟨n, e⟩ := link
      exact ih n

variable {links : List (Nat × α)} {node : Nat}

/-- A node outside the chain can be rewritten without touching it. -/
theorem Linked.frame {nodes : Nat → Node α} {head : Nat} (h : Linked nodes head links)
    (hnot : node ∉ head :: links.map Prod.fst) (v : Node α) :
    Linked (Function.update nodes node v) head links := by
  induction links generalizing head with
  | nil =>
      have hne : head ≠ node := by
        rintro rfl
        simp at hnot
      simpa [Linked, Function.update_of_ne hne] using h
  | cons link rest ih =>
      obtain ⟨n, e⟩ := link
      obtain ⟨hnext, hevent, hrest⟩ := h
      have hhead : head ≠ node := by
        rintro rfl
        simp at hnot
      have hn : n ≠ node := by
        rintro rfl
        simp at hnot
      refine ⟨by rwa [Function.update_of_ne hhead], by rwa [Function.update_of_ne hn], ?_⟩
      exact ih hrest fun hmem => hnot (mem_cons_of_mem _ hmem)

variable {event : α}

/-- Storing a prepared node in the last node's `next` appends it. -/
theorem Linked.append {nodes : Nat → Node α} {head : Nat} (h : Linked nodes head links)
    (hnodup : (head :: links.map Prod.fst).Nodup) (hnot : node ∉ head :: links.map Prod.fst)
    (hnode : nodes node = ⟨none, some event⟩) : Linked (Function.update nodes (lastNode head links)
      { nodes (lastNode head links) with next := some node }) head (links ++ [(node, event)]) := by
  induction links generalizing head with
  | nil =>
      have hne : node ≠ head := by
        rintro rfl
        simp at hnot
      simp [Linked, lastNode, Function.update_of_ne hne, hnode]
  | cons link rest ih =>
      obtain ⟨n, e⟩ := link
      obtain ⟨hnext, hevent, hrest⟩ := h
      have hlast : head ≠ lastNode n rest := by
        rintro rfl
        exact (List.nodup_cons.mp hnodup).1 (lastNode_mem n rest)
      have htail := ih hrest (List.nodup_cons.mp hnodup).2
        fun hmem => hnot (mem_cons_of_mem _ hmem)
      refine ⟨?_, ?_, htail⟩
      · show (Function.update nodes (lastNode n rest) _ head).next = some n
        rwa [Function.update_of_ne hlast]
      · show (Function.update nodes (lastNode n rest)
          { nodes (lastNode n rest) with next := some node } n).event = some e
        by_cases hn : n = lastNode n rest
        · rw [← hn, Function.update_self]
          exact hevent
        · rwa [Function.update_of_ne hn]

/-! ### Who owns which node -/

/-- The node a producer in mid-enqueue has taken out of the recycler. -/
def producerHolds : Option (α × EnqueueCall α) → List Nat
  | some (_, .prepare _ node) | some (_, .beforePublication _ node) | some (_, .link _ node) =>
      [node]
  | _ => []

/-- The old sentinel a consumer in mid-dequeue has still to return. -/
def consumerHolds : Option (DequeueCall α) → List Nat
  | some (.recyclerStore oldSentinel _ _) => [oldSentinel]
  | _ => []

/-- The event a consumer in mid-dequeue has unlinked and not yet returned. -/
def eventInHand : Option (DequeueCall α) → List α
  | some (.recyclerStore _ _ (some event)) => [event]
  | _ => []

/-- What an enqueue in progress already knows. -/
def EnqueueFacts (q : LinkedSpscQueue α) (recycled : List Nat) :
    Option (α × EnqueueCall α) → Prop
  | none => True
  | some (event, .recyclerLoad e) => e = event
  | some (event, .recyclerClear e node position) =>
      e = event ∧ position = q.recyclerConsumer ∧ recycled.head? = some node
  | some (event, .prepare e _) => e = event
  | some (event, .beforePublication e node) | some (event, .link e node) =>
      e = event ∧ q.nodes node = ⟨none, some event⟩

/-- What a dequeue in progress already knows. -/
def DequeueFacts (q : LinkedSpscQueue α) (links : List (Nat × α)) :
    Option (DequeueCall α) → Prop
  | none | some .nextLoad => True
  | some (.afterObservation old successor) | some (.prefetch old successor) |
    some (.recyclerLoad old successor) =>
      old = q.head ∧ ∃ event, links.head? = some (successor, event)
  | some (.advance old successor position) =>
      old = q.head ∧ position = q.recyclerProducer ∧
        ∃ event, links.head? = some (successor, event)
  | some (.recyclerStore _ position event) =>
      position = q.recyclerProducer ∧ event ≠ none

/-- The queue and its two calls own every node once, and the chain is the queue. -/
structure Owns (capacity : Nat) (q : LinkedSpscQueue α) (p : Option (α × EnqueueCall α))
    (c : Option (DequeueCall α)) (links : List (Nat × α)) (recycled withheld : List Nat) :
    Prop where
  capacityEq : q.capacity = capacity
  chain : Linked q.nodes q.head links
  tailEq : q.tail = lastNode q.head links
  recycler : Cyclic.Holds capacity q.recyclerSlots q.recyclerConsumer recycled
  back : q.recyclerProducer = (q.recyclerConsumer + recycled.length) % capacity
  /-- Every node has one owner; `withheld` are those a refused enqueue has lost. -/
  partition : (q.head :: links.map Prod.fst ++ recycled ++ producerHolds p ++
    consumerHolds c ++ withheld).Perm (List.range (capacity + 1))
  pcall : EnqueueFacts q recycled p
  ccall : DequeueFacts q links c

namespace Owns

variable {q q' : LinkedSpscQueue α} {p : Option (α × EnqueueCall α)}
  {c : Option (DequeueCall α)} {links : List (Nat × α)} {recycled withheld : List Nat}

/-- The owners' shares add up to the `C + 1` nodes. -/
theorem length_eq (h : Owns capacity q p c links recycled withheld) :
    links.length + recycled.length + (producerHolds p).length + (consumerHolds c).length +
      withheld.length = capacity := by
  have hlen := h.partition.length_eq
  simp only [cons_append, length_cons, length_append, length_map,
    length_range] at hlen
  omega

theorem nodup (h : Owns capacity q p c links recycled withheld) :
    (q.head :: links.map Prod.fst ++ recycled ++ producerHolds p ++ consumerHolds c ++
      withheld).Nodup :=
  h.partition.nodup_iff.mpr nodup_range

theorem chain_nodup (h : Owns capacity q p c links recycled withheld) :
    (q.head :: links.map Prod.fst).Nodup := by
  have hnodup := h.nodup
  simp only [append_assoc] at hnodup
  exact (List.nodup_append.mp hnodup).1

/-- The node a producer holds is not in the chain. -/
theorem held_notMem (h : Owns capacity q p c links recycled withheld)
    (hnode : node ∈ producerHolds p) : node ∉ q.head :: links.map Prod.fst := by
  have hnodup := h.nodup
  simp only [append_assoc] at hnodup
  intro hmem
  exact (List.nodup_append.mp hnodup).2.2 node hmem node (by simp [hnode]) rfl

theorem recyclerProducer_lt (h : Owns capacity q p c links recycled withheld) :
    q.recyclerProducer < capacity := by
  rw [h.back]
  exact Nat.mod_lt _ (Nat.lt_of_le_of_lt (Nat.zero_le _) h.recycler.startLt)

end Owns

/-- A constructed queue owns its nodes: the sentinel, and the rest in the recycler. -/
theorem owns_initial (hcap : 1 ≤ capacity) {nodeOrder : List Nat}
    (horder : nodeOrder.Perm (List.range (capacity + 1))) :
    ∃ recycled, Owns capacity (initial (α := α) capacity nodeOrder) none none [] recycled [] := by
  have hlen : nodeOrder.length = capacity + 1 := by simpa using horder.length_eq
  cases nodeOrder with
  | nil => simp at hlen
  | cons sentinel rest =>
      have hrest : rest.length = capacity := by simpa using hlen
      refine ⟨rest, rfl, rfl, rfl, ⟨Nat.le_of_eq hrest, hcap, ?_⟩, ?_, by simpa [producerHolds,
        consumerHolds, initial] using horder, trivial, trivial⟩
      · intro i hi
        simp [initial, Nat.mod_eq_of_lt hi, hi]
      · simp [initial, hrest]

/-! ### What one step does to the owners -/

variable {p : Option (α × EnqueueCall α)} {q q' : LinkedSpscQueue α} {recycled : List Nat}

/-- What the producer knows survives the consumer returning a node. -/
theorem EnqueueFacts.grow (h : EnqueueFacts q recycled p) (node : Nat)
    (hnodes : q'.nodes = q.nodes) (hpos : q'.recyclerConsumer = q.recyclerConsumer) :
    EnqueueFacts q' (recycled ++ [node]) p := by
  match p, h with
  | none, _ => trivial
  | some (_, .recyclerLoad _), h => exact h
  | some (_, .recyclerClear _ _ _), ⟨he, hp, hhead⟩ =>
      exact ⟨he, by rw [hp, hpos], by rw [head?_append, hhead]; rfl⟩
  | some (_, .prepare _ _), h => exact h
  | some (_, .beforePublication _ _), ⟨he, hnode⟩ => exact ⟨he, by rw [hnodes, hnode]⟩
  | some (_, .link _ _), ⟨he, hnode⟩ => exact ⟨he, by rw [hnodes, hnode]⟩

variable {c : Option (DequeueCall α)}

/-- What the consumer knows survives the producer linking a node. -/
theorem DequeueFacts.grow (h : DequeueFacts q links c) (link : Nat × α) (hhead : q'.head = q.head)
    (hpos : q'.recyclerProducer = q.recyclerProducer) : DequeueFacts q' (links ++ [link]) c := by
  have hfirst : ∀ {successor : Nat}, (∃ event, links.head? = some (successor, event)) →
      ∃ event, (links ++ [link]).head? = some (successor, event) := by
    rintro successor ⟨event, hlinks⟩
    exact ⟨event, by rw [head?_append, hlinks]; rfl⟩
  match c, h with
  | none, _ | some .nextLoad, _ => trivial
  | some (.afterObservation _ _), ⟨ho, hs⟩ | some (.prefetch _ _), ⟨ho, hs⟩
  | some (.recyclerLoad _ _), ⟨ho, hs⟩ => exact ⟨by rw [ho, hhead], hfirst hs⟩
  | some (.advance _ _ _), ⟨ho, hp, hs⟩ => exact ⟨by rw [ho, hhead], by rw [hp, hpos], hfirst hs⟩
  | some (.recyclerStore _ _ _), ⟨hp, he⟩ => exact ⟨by rw [hp, hpos], he⟩

variable {call : DequeueCall α}

namespace Owns

variable {q q' : LinkedSpscQueue α} {p : Option (α × EnqueueCall α)}
  {c : Option (DequeueCall α)} {links : List (Nat × α)} {recycled withheld : List Nat}
  {event : α} {accepts : Bool}

theorem enqueue_runs {call call' : EnqueueCall α}
    (h : Owns capacity q (some (event, call)) c links recycled withheld)
    (hrun : EnqueueRuns accepts q call q' call') :
    ∃ recycled', Owns capacity q' (some (event, call')) c links recycled' withheld := by
  have hfacts := h.pcall
  cases hrun with
  | obtain hslot =>
      rw [h.recycler.front] at hslot
      exact ⟨recycled, { h with pcall := ⟨hfacts, rfl, hslot⟩ }⟩
  | @clear e node position =>
      obtain ⟨he, hpos, hhead⟩ := hfacts
      obtain ⟨rest, rfl⟩ := List.head?_eq_some_iff.mp hhead
      have hnext : nextPosition q.capacity position = (q.recyclerConsumer + 1) % capacity := by
        rw [hpos, h.capacityEq, nextPosition_eq_mod h.recycler.startLt]
      refine ⟨rest, h.capacityEq, h.chain, h.tailEq, ?_, ?_, ?_, he, h.ccall⟩
      · show Cyclic.Holds capacity _ (nextPosition q.capacity position) rest
        rw [hnext, hpos]
        exact h.recycler.pop
      · show q.recyclerProducer = (nextPosition q.capacity position + rest.length) % capacity
        rw [hnext, Cyclic.step_offset, h.back]
        rfl
      · refine List.Perm.trans ?_ h.partition
        rw [perm_iff_count]
        intro n
        simp only [producerHolds, cons_append, count_cons, count_append]
        simp only [count_nil]
        omega
  | @fill e node =>
      have hnot : node ∉ q.head :: links.map Prod.fst :=
        h.held_notMem (by simp [producerHolds])
      refine ⟨recycled, { h with chain := h.chain.frame hnot _, pcall := ⟨hfacts, ?_⟩ }⟩
      show Function.update q.nodes node ⟨none, some e⟩ node = _
      rw [Function.update_self, show e = event from hfacts]
  | observed => exact ⟨recycled, { h with pcall := hfacts }⟩

/-- A full queue, a refused call that loses its node, or the event linked at the end. -/
theorem enqueue_returns {call : EnqueueCall α} {r : BoundaryEnqueueResult}
    (h : Owns capacity q (some (event, call)) c links recycled withheld)
    (hret : EnqueueReturns accepts q call q' r) :
    (r = ⟨.complete, .full⟩ ∧ call = .recyclerLoad event ∧ recycled = [] ∧ q' = q ∧
        Owns capacity q' none c links recycled withheld) ∨
      (r = ⟨.captureFailed, .full⟩ ∧ accepts = false ∧
        ∃ node, Owns capacity q' none c links recycled (node :: withheld)) ∨
      (r = ⟨.complete, .accepted⟩ ∧
        ∃ node, Owns capacity q' none c (links ++ [(node, event)]) recycled withheld) := by
  have hfacts := h.pcall
  cases hret with
  | @full e hslot =>
      have he : e = event := hfacts
      have hnil := h.recycler.nil_of_front hslot
      exact Or.inl ⟨rfl, by rw [he], hnil, rfl, { h with pcall := trivial }⟩
  | @refused e node hrefused =>
      refine Or.inr (Or.inl ⟨rfl, hrefused, node, { h with partition := ?_, pcall := trivial }⟩)
      refine List.Perm.trans ?_ h.partition
      rw [perm_iff_count]
      intro n
      simp only [producerHolds, cons_append, count_cons, count_append]
      simp only [count_nil]
      omega
  | @linked e node =>
      obtain ⟨he, hnode⟩ := hfacts
      have hnot : node ∉ q.head :: links.map Prod.fst :=
        h.held_notMem (by simp [producerHolds])
      refine Or.inr (Or.inr ⟨rfl, node, h.capacityEq, ?_, ?_, h.recycler, h.back, ?_, trivial,
        h.ccall.grow (node, event) rfl rfl⟩)
      · show Linked (Function.update q.nodes q.tail _) q.head _
        rw [h.tailEq]
        exact h.chain.append h.chain_nodup hnot hnode
      · exact (lastNode_append q.head links node event).symm
      · refine List.Perm.trans ?_ h.partition
        rw [perm_iff_count]
        intro n
        simp only [producerHolds, map_append, map_cons, map_nil, cons_append,
          count_cons, count_append]
        simp only [count_nil]
        omega

/-- The chain loses its first event when the sentinel moves; the caller then holds it. -/
theorem dequeue_runs {call' : DequeueCall α}
    (h : Owns capacity q p (some call) links recycled withheld)
    (hrun : DequeueRuns accepts q call q' call') :
    ∃ links', Owns capacity q' p (some call') links' recycled withheld ∧
      eventInHand (some call') ++ links'.map Prod.snd =
        eventInHand (some call) ++ links.map Prod.snd := by
  have hfacts := h.ccall
  cases hrun with
  | @found successor hnext =>
      refine ⟨links, { h with ccall := ⟨rfl, ?_⟩ }, rfl⟩
      cases links with
      | nil =>
          have hend : (q.nodes q.head).next = none := h.chain
          rw [hnext] at hend
          cases hend
      | cons link rest =>
          obtain ⟨node, e⟩ := link
          have hnode : (q.nodes q.head).next = some node := h.chain.1
          rw [hnext, Option.some.injEq] at hnode
          exact ⟨e, by rw [hnode]; rfl⟩
  | observed => exact ⟨links, { h with ccall := hfacts }, rfl⟩
  | prefetched => exact ⟨links, { h with ccall := hfacts }, rfl⟩
  | checked => exact ⟨links, { h with ccall := ⟨hfacts.1, rfl, hfacts.2⟩ }, rfl⟩
  | @advanced old successor position =>
      obtain ⟨hold, hpos, e, hhead⟩ := hfacts
      obtain ⟨rest, rfl⟩ := List.head?_eq_some_iff.mp hhead
      obtain ⟨-, hevent, hrest⟩ := h.chain
      refine ⟨rest, ⟨h.capacityEq, hrest, h.tailEq, h.recycler, h.back, ?_, h.pcall, hpos, ?_⟩, ?_⟩
      · refine List.Perm.trans ?_ h.partition
        rw [perm_iff_count]
        intro n
        simp only [consumerHolds, hold, map_cons, cons_append, count_cons,
          count_append]
        simp only [count_nil]
        omega
      · simp [hevent]
      · rw [hevent]
        rfl

/-- With a successor in the chain, or the old sentinel in hand, the recycler has room. -/
theorem recycled_lt (h : Owns capacity q p (some call) links recycled withheld)
    (hheld : links ≠ [] ∨ consumerHolds (some call) ≠ []) : recycled.length < capacity := by
  have hlen := h.length_eq
  rcases hheld with hlinks | hhold
  · have := List.length_pos_iff.mpr hlinks
    omega
  · have := List.length_pos_iff.mpr hhold
    omega

/-- An empty chain, a refused call, or the event that was in hand. -/
theorem dequeue_returns {r : BoundaryDequeueResult α}
    (h : Owns capacity q p (some call) links recycled withheld)
    (hret : DequeueReturns accepts q call q' r) :
    (r = ⟨.complete, ⟨.empty, none⟩⟩ ∧ call = .nextLoad ∧ links = [] ∧
        Owns capacity q' p none links recycled withheld) ∨
      (r = ⟨.captureFailed, ⟨.empty, none⟩⟩ ∧ eventInHand (some call) = [] ∧
        Owns capacity q' p none links recycled withheld) ∨
      (∃ e node, r = ⟨.complete, ⟨.item, some e⟩⟩ ∧ eventInHand (some call) = [e] ∧
        Owns capacity q' p none links (recycled ++ [node]) withheld) := by
  have hfacts := h.ccall
  cases hret with
  | empty hnext =>
      refine Or.inl ⟨rfl, rfl, ?_, { h with ccall := trivial }⟩
      cases links with
      | nil => rfl
      | cons link rest =>
          obtain ⟨node, e⟩ := link
          have hnode : (q.nodes q.head).next = some node := h.chain.1
          rw [hnext] at hnode
          cases hnode
  | refused => exact Or.inr (Or.inl ⟨rfl, rfl, { h with ccall := trivial }⟩)
  | @occupied old successor occupant hslot =>
      -- The slot would be occupied only if every node but one were in the recycler.
      exfalso
      rw [h.back] at hslot
      have hfull := h.recycler.full_of_back hslot
      obtain ⟨-, e, hhead⟩ := hfacts
      have := h.recycled_lt (Or.inl (by rintro rfl; cases hhead))
      omega
  | @recycled old position e =>
      obtain ⟨hpos, hsome⟩ := hfacts
      obtain ⟨e, rfl⟩ := Option.ne_none_iff_exists'.mp hsome
      have hlt := h.recycled_lt (Or.inr (by simp [consumerHolds]))
      refine Or.inr (Or.inr ⟨e, old, rfl, rfl, h.capacityEq, h.chain, h.tailEq, ?_, ?_, ?_,
        h.pcall.grow old rfl rfl, trivial⟩)
      · show Cyclic.Holds capacity (Function.update q.recyclerSlots position (some old)) _ _
        rw [hpos, h.back]
        exact h.recycler.push hlt old
      · show nextPosition q.capacity position = _
        rw [hpos, h.capacityEq, nextPosition_eq_mod h.recyclerProducer_lt, h.back,
          Nat.mod_add_mod, length_append]
        rfl
      · refine List.Perm.trans ?_ h.partition
        rw [perm_iff_count]
        intro n
        simp only [consumerHolds, cons_append, count_cons, count_append]
        simp only [count_nil]
        omega

end Owns

/-! ### The two operations simulate the abstract queue -/

/-- The queue is what is in hand and what is linked; its room is the nodes not lost. -/
def Sim (capacity : Nat) (q : LinkedSpscQueue α) (p : Option (α × EnqueueCall α))
    (c : Option (DequeueCall α)) (queue : List α) (room : Nat) : Prop :=
  ∃ links recycled withheld, Owns capacity q p c links recycled withheld ∧
    queue = eventInHand c ++ links.map Prod.snd ∧ room + withheld.length = capacity

/-- An event in hand is one old sentinel in hand. -/
theorem eventInHand_length (h : DequeueFacts q links c) :
    (eventInHand c).length = (consumerHolds c).length := by
  match c, h with
  | none, _ | some .nextLoad, _ | some (.afterObservation _ _), _ | some (.prefetch _ _), _
  | some (.recyclerLoad _ _), _ | some (.advance _ _ _), _ => rfl
  | some (.recyclerStore _ _ none), h => exact absurd rfl h.2
  | some (.recyclerStore _ _ (some _)), _ => rfl

/-- What is queued, waiting, held and lost fills the capacity. -/
theorem Owns.queue_length {withheld : List Nat} (h : Owns capacity q p c links recycled withheld) :
    (eventInHand c ++ links.map Prod.snd).length + recycled.length + (producerHolds p).length +
      withheld.length = capacity := by
  have hlen := h.length_eq
  have hhand := eventInHand_length h.ccall
  simp only [length_append, length_map]
  omega

variable {room : Nat}

theorem enqueue_sim {call : EnqueueCall α} {queue : List α}
    {out : Outcome (EnqueueCall α) BoundaryEnqueueResult} (accepts : Bool)
    (h : Sim capacity q (some (event, call)) c queue room)
    (hstep : enqueueStep accepts q call = (q', out)) :
    ∃ v queue' room', out.Shows (fun _ => none) enqueueAgrees v ∧
      Spsc.Places event none v queue room queue' room' ∧
      Sim capacity q' (out.call?.map (event, ·)) c queue' room' := by
  obtain ⟨links, recycled, withheld, howns, rfl, hroom⟩ := h
  have hlen := howns.queue_length
  cases out with
  | running call' =>
      obtain ⟨recycled', howns'⟩ := howns.enqueue_runs (enqueueStep_runs hstep)
      exact ⟨none, _, room, rfl, .idle (Nat.le_refl _), links, recycled', withheld, howns', rfl,
        hroom⟩
  | returned r =>
      obtain ⟨rfl, rfl, rfl, rfl, howns'⟩ | ⟨rfl, -, node, howns'⟩ | ⟨rfl, node, howns'⟩ :=
        howns.enqueue_returns (enqueueStep_returns hstep)
      · refine ⟨some false, _, room, rfl, .full ?_, links, [], withheld, howns', rfl, hroom⟩
        simp only [producerHolds, length_nil] at hlen
        omega
      · have hlen' := howns'.queue_length
        rw [length_cons] at hlen'
        exact ⟨none, _, room - 1, rfl, .idle (by omega), links, recycled, node :: withheld, howns',
          rfl, by rw [length_cons]; omega⟩
      · have hlen' := howns'.queue_length
        simp only [map_append, length_append, map_cons, map_nil,
          length_cons, length_nil] at hlen'
        refine ⟨some true, (eventInHand c ++ links.map Prod.snd) ++ [event], room, rfl, .put ?_,
          links ++ [(node, event)], recycled, withheld, howns', by simp, hroom⟩
        rw [length_append]
        omega

theorem dequeue_sim {queue : List α} {out : Outcome (DequeueCall α) (BoundaryDequeueResult α)}
    (accepts : Bool) (h : Sim capacity q p (some call) queue room)
    (hstep : dequeueStep accepts q call = (q', out)) :
    ∃ v queue', out.Shows (fun _ => none) dequeueAgrees v ∧ Spsc.Takes none v queue queue' ∧
      Sim capacity q' p out.call? queue' room := by
  obtain ⟨links, recycled, withheld, howns, rfl, hroom⟩ := h
  cases out with
  | running call' =>
      obtain ⟨links', howns', hqueue⟩ := howns.dequeue_runs (dequeueStep_runs hstep)
      exact ⟨none, _, rfl, .idle, links', recycled, withheld, howns', hqueue.symm, hroom⟩
  | returned r =>
      obtain ⟨rfl, rfl, rfl, howns'⟩ | ⟨rfl, hhand, howns'⟩ | ⟨e, node, rfl, hhand, howns'⟩ :=
        howns.dequeue_returns (dequeueStep_returns hstep)
      · exact ⟨some none, [], rfl, .empty, [], recycled, withheld, howns', rfl, hroom⟩
      · rw [hhand]
        exact ⟨none, _, rfl, .idle, links, recycled, withheld, howns', rfl, hroom⟩
      · rw [hhand]
        exact ⟨some (some e), links.map Prod.snd, ⟨rfl, by simp⟩, .take, links, recycled ++ [node],
          withheld, howns', rfl, hroom⟩

/-! ### Where the observers stand -/

def EnqueueCall.observed : EnqueueCall α → Bool
  | .link _ _ => true
  | _ => false

def DequeueCall.observed : DequeueCall α → Bool
  | .prefetch _ _ | .recyclerLoad _ _ | .advance _ _ _ | .recyclerStore _ _ _ => true
  | _ => false

variable {accepts : Bool}

theorem enqueue_observed {call call' : EnqueueCall α}
    (h : enqueueStep accepts q call = (q', .running call')) (hobs : call'.observed = true) :
    call.observed = true ∨ (call.observes = true ∧ accepts = true) := by
  cases enqueueStep_runs h with
  | obtain => cases hobs
  | clear => cases hobs
  | fill => cases hobs
  | observed haccepts => exact Or.inr ⟨rfl, haccepts⟩

theorem dequeue_observed {call' : DequeueCall α}
    (h : dequeueStep accepts q call = (q', .running call')) (hobs : call'.observed = true) :
    call.observed = true ∨ (call.observes = true ∧ accepts = true) := by
  cases dequeueStep_runs h with
  | found => cases hobs
  | observed haccepts => exact Or.inr ⟨rfl, haccepts⟩
  | prefetched => exact Or.inl rfl
  | checked => exact Or.inl rfl
  | advanced => exact Or.inl rfl

theorem enqueue_accepted {call : EnqueueCall α}
    (h : enqueueStep accepts q call = (q', .returned ⟨.complete, .accepted⟩)) :
    call.observed = true := by
  cases enqueueStep_returns h
  rfl

theorem dequeue_item {event : Option α}
    (h : dequeueStep accepts q call = (q', .returned ⟨.complete, .item, event⟩)) :
    call.observed = true := by
  cases dequeueStep_returns h
  rfl

theorem enqueue_refused {call : EnqueueCall α} {r : EnqueueResult}
    (h : enqueueStep accepts q call = (q', .returned ⟨.captureFailed, r⟩)) :
    call.observes = true ∧ accepts = false := by
  cases enqueueStep_returns h with
  | refused hrefused => exact ⟨rfl, hrefused⟩

theorem dequeue_refused {r : DequeueResult α}
    (h : dequeueStep accepts q call = (q', .returned ⟨.captureFailed, r⟩)) :
    call.observes = true ∧ accepts = false := by
  cases dequeueStep_returns h with
  | refused hrefused => exact ⟨rfl, hrefused⟩

theorem observes_nonempty {queue : List α} (h : Sim capacity q p (some call) queue room)
    (hobs : call.observes = true) : queue ≠ [] := by
  obtain ⟨links, recycled, withheld, howns, rfl, -⟩ := h
  have hfacts := howns.ccall
  cases call with
  | afterObservation old successor =>
      obtain ⟨-, e, hhead⟩ := hfacts
      obtain ⟨rest, rfl⟩ := List.head?_eq_some_iff.mp hhead
      simp
  | _ => cases hobs

/-- **The linked queue simulates a bounded FIFO of its capacity.** -/
def packageSim (hcap : 1 ≤ capacity) {nodeOrder : List Nat}
    (horder : nodeOrder.Perm (List.range (capacity + 1))) :
    PackageSim (package α) capacity (initial (α := α) capacity nodeOrder) where
  item := id
  pDone _ := none
  cDone _ := none
  Sim := Sim capacity
  sim_init := by
    obtain ⟨recycled, howns⟩ := owns_initial (α := α) hcap horder
    exact ⟨capacity, [], recycled, [], howns, rfl, rfl⟩
  sim_bound h := by
    obtain ⟨links, recycled, withheld, howns, rfl, hroom⟩ := h
    have := howns.queue_length
    omega
  p_begin _ h := by
    obtain ⟨links, recycled, withheld, howns, rfl, hroom⟩ := h
    exact ⟨rfl, links, recycled, withheld, { howns with pcall := rfl }, rfl, hroom⟩
  c_begin _ h := by
    obtain ⟨links, recycled, withheld, howns, rfl, hroom⟩ := h
    exact ⟨rfl, links, recycled, withheld, { howns with ccall := trivial }, rfl, hroom⟩
  p_step accepts h hstep := enqueue_sim accepts h hstep
  c_step accepts h hstep := dequeue_sim accepts h hstep
  item_eq := id_eq
  pDone_eq _ := rfl
  cDone_eq _ := rfl
  pObserved := EnqueueCall.observed
  cObserved := DequeueCall.observed
  pObserved_begin _ := rfl
  cObserved_begin := rfl
  pObserved_step h hobs := enqueue_observed h hobs
  cObserved_step h hobs := dequeue_observed h hobs
  pObserved_once {call} h := by cases call <;> first | rfl | cases h
  cObserved_once {call} h := by cases call <;> first | rfl | cases h
  pObserved_accepted h := enqueue_accepted h
  cObserved_item h := dequeue_item h
  cObserves_nonempty h hobs := observes_nonempty h hobs
  pRefused h := enqueue_refused h
  cRefused h := dequeue_refused h

/-! ### What a history of turns shows -/

abbrev LinkedClient (α : Type) := Spsc.Client (package α).toSpsc

/-- The queue at the end of a history. -/
def LinkedClient.queue (c : LinkedClient α) : LinkedSpscQueue α := c.state

def LinkedClient.pcallOf (c : LinkedClient α) : Option (α × EnqueueCall α) := c.pcall

def LinkedClient.ccallOf (c : LinkedClient α) : Option (DequeueCall α) := c.ccall

/-- The nodes in the recycler, slot by slot. -/
def recyclerNodes (q : LinkedSpscQueue α) : List Nat :=
  (List.range q.capacity).filterMap q.recyclerSlots

/-- A history of the linked queue is one of a bounded FIFO, and loses no node. -/
structure RefinesFifo (capacity : Nat) (c : LinkedClient α) : Prop where
  /-- Events are returned once, in acceptance order. -/
  fifo : delivered c <+: accepted c
  outstanding : (accepted c).length ≤ (delivered c).length + capacity
  /-- `empty` is returned by the load of `next`, and only when nothing is due. -/
  empty : ∀ turn r, (c.step (Turn.action turn)).dequeued = c.dequeued ++ [r] →
    r.result.status = .empty →
      c.ccallOf = some .nextLoad ∧ accepted c = delivered c
  /--
  `full` is returned by the load of the recycler slot, and only when the recycler is
  empty: the sentinel, the nodes behind it and the one in transit are all nodes.
  -/
  full : ∀ turn event r, (c.step (Turn.action turn)).enqueued = c.enqueued ++ [(event, r)] →
    r.result = .full →
      c.pcallOf = some (event, .recyclerLoad event) ∧
      (∀ j, j < capacity → c.queue.recyclerSlots j = none) ∧
      ∃ links, Linked c.queue.nodes c.queue.head links ∧
        (c.queue.head :: links.map Prod.fst ++ consumerHolds c.ccallOf).Perm
          (List.range (capacity + 1))
  recyclerNeverFails : ∀ r ∈ c.dequeued, r.result.status ≠ .recyclerInvariantFailure
  /-- The chain, the recycler and the two calls share out the nodes. -/
  partition : ∃ links, Linked c.queue.nodes c.queue.head links ∧
    c.queue.tail = lastNode c.queue.head links ∧
    (c.queue.head :: links.map Prod.fst ++ recyclerNodes c.queue ++ producerHolds c.pcallOf ++
      consumerHolds c.ccallOf).Perm (List.range (capacity + 1))

/-- Without a refusing observer no node is ever lost. -/
theorem client_owns (hcap : 1 ≤ capacity) {nodeOrder : List Nat}
    (horder : nodeOrder.Perm (List.range (capacity + 1))) (turns : List (Turn α)) :
    ∃ links recycled,
      Owns capacity (LinkedClient.queue ((package α).client (initial capacity nodeOrder) turns))
        (LinkedClient.pcallOf ((package α).client (initial capacity nodeOrder) turns))
        (LinkedClient.ccallOf ((package α).client (initial capacity nodeOrder) turns))
        links recycled [] := by
  refine client_induction (P := package α)
    (I := fun q p c => ∃ links recycled, Owns capacity q p c links recycled []) ?_ ?_ ?_ ?_ ?_ turns
  · obtain ⟨recycled, howns⟩ := owns_initial (α := α) hcap horder
    exact ⟨[], recycled, howns⟩
  · rintro q c event ⟨links, recycled, howns⟩
    exact ⟨links, recycled, { howns with pcall := rfl }⟩
  · rintro q p ⟨links, recycled, howns⟩
    exact ⟨links, recycled, { howns with ccall := trivial }⟩
  · rintro q c event call q' (call' | r) ⟨links, recycled, howns⟩ hstep
    · obtain ⟨recycled', howns'⟩ := howns.enqueue_runs (enqueueStep_runs hstep)
      exact ⟨links, recycled', howns'⟩
    · obtain ⟨-, -, -, -, howns'⟩ | ⟨-, hrefused, -⟩ | ⟨-, node, howns'⟩ :=
        howns.enqueue_returns (enqueueStep_returns hstep)
      · exact ⟨links, recycled, howns'⟩
      · cases hrefused
      · exact ⟨links ++ [(node, event)], recycled, howns'⟩
  · rintro q p call q' (call' | r) ⟨links, recycled, howns⟩ hstep
    · obtain ⟨links', howns', -⟩ := howns.dequeue_runs (dequeueStep_runs hstep)
      exact ⟨links', recycled, howns'⟩
    · obtain ⟨-, -, -, howns'⟩ | ⟨-, -, howns'⟩ | ⟨e, node, -, -, howns'⟩ :=
        howns.dequeue_returns (dequeueStep_returns hstep)
      · exact ⟨links, recycled, howns'⟩
      · exact ⟨links, recycled, howns'⟩
      · exact ⟨links, recycled ++ [node], howns'⟩

theorem full_at_load {c : LinkedClient α} {turn : Turn α} {r : BoundaryEnqueueResult}
    (h : Owns capacity c.queue c.pcallOf c.ccallOf links recycled [])
    (hret : (c.step turn.action).enqueued = c.enqueued ++ [(event, r)]) (hr : r.result = .full) :
    c.pcallOf = some (event, .recyclerLoad event) ∧
      (∀ j, j < capacity → c.queue.recyclerSlots j = none) ∧
      (c.queue.head :: links.map Prod.fst ++ consumerHolds c.ccallOf).Perm
        (List.range (capacity + 1)) := by
  obtain ⟨e, accepts, call, q', hturn, hcall, hstep⟩ := Spsc.Client.pReturned_of_step hret
  have haccepts : accepts = true := by
    cases turn with
    | producer e' => exact (Spsc.Action.producer.inj hturn).2.symm
    | consumer => cases hturn
  have hpcall : c.pcallOf = some (event, call) := hcall
  rw [hpcall] at h
  obtain ⟨-, hload, hnil, -, -⟩ | ⟨-, hrefused, -⟩ | ⟨hacc, -⟩ :=
    h.enqueue_returns (enqueueStep_returns hstep)
  · refine ⟨hpcall.trans (by rw [hload]; rfl), ?_, ?_⟩
    · have hrecycler := h.recycler
      rw [hnil] at hrecycler
      exact fun j hj => hrecycler.free_of_nil hj
    · have hpart := h.partition
      rw [hload, hnil] at hpart
      simpa [producerHolds] using hpart
  · rw [haccepts] at hrefused
    cases hrefused
  · rw [hacc] at hr
    cases hr

theorem empty_at_load {c : LinkedClient α} {queue : List α} {turn : Turn α}
    {r : BoundaryDequeueResult α} (h : Sim capacity c.queue c.pcallOf c.ccallOf queue room)
    (hret : (c.step turn.action).dequeued = c.dequeued ++ [r]) (hr : r.result.status = .empty) :
    c.ccallOf = some .nextLoad ∧ queue = [] := by
  obtain ⟨b, accepts, call, q', hturn, hcall, hstep⟩ := Spsc.Client.cReturned_of_step hret
  have haccepts : accepts = true := by
    cases turn with
    | producer e' => cases hturn
    | consumer => exact (Spsc.Action.consumer.inj hturn).2.symm
  have hccall : c.ccallOf = some call := hcall
  obtain ⟨links, recycled, withheld, howns, hqueue, -⟩ := h
  rw [hccall] at howns hqueue ⊢
  obtain ⟨-, hload, hnil, -⟩ | ⟨hrefused, -, -⟩ | ⟨e, node, hitem, -, -⟩ :=
    howns.dequeue_returns (dequeueStep_returns hstep)
  · refine ⟨by rw [hload]; rfl, ?_⟩
    rw [hqueue, hload, hnil]
    rfl
  · rw [hrefused] at hstep
    have := (dequeue_refused hstep).2
    rw [haccepts] at this
    cases this
  · rw [hitem] at hr
    cases hr

/-- **Every interleaving of the linked queue is a history of a bounded FIFO of its capacity.** -/
theorem linked_refines_fifo (capacity : Nat) (hcap : 1 ≤ capacity) (nodeOrder : List Nat)
    (horder : nodeOrder.Perm (List.range (capacity + 1))) (turns : List (Turn α)) :
    RefinesFifo capacity ((package α).client (initial capacity nodeOrder) turns) := by
  let F := (packageSim (α := α) hcap horder).toFifoSim
  obtain ⟨queue, room, hsim, hconserve⟩ := Spsc.FifoSim.client_run (F := F)
    enqueueAgrees_placed dequeueAgrees_taken (turns.map Turn.action)
  have hresults := F.dequeued_agrees (turns.map Turn.action)
  obtain ⟨links, recycled, howns⟩ := client_owns (α := α) hcap horder turns
  generalize hc : (package α).client (initial capacity nodeOrder) turns = c at howns
  change Spsc.Client.run _ _ = c at hc
  rw [hc] at hsim hconserve hresults
  have hpending : ∀ p, F.pending p = [] := by
    rintro (_ | ⟨e, call⟩) <;> rfl
  have hhand : ∀ p, F.inHand p = [] := by
    rintro (_ | call) <;> rfl
  rw [hpending, hhand, append_nil, append_nil] at hconserve
  have hfifo : accepted c = delivered c ++ queue := hconserve
  have hs : Sim capacity (LinkedClient.queue c) (LinkedClient.pcallOf c)
      (LinkedClient.ccallOf c) queue room := hsim
  refine ⟨⟨queue, hfifo.symm⟩, ?_, ?_, ?_, ?_, links, howns.chain, howns.tailEq, ?_⟩
  · have hbound := F.sim_bound hsim
    rw [hfifo, length_append]
    omega
  · intro turn r hret hr
    obtain ⟨hload, hnil⟩ := empty_at_load hs hret hr
    exact ⟨hload, by rw [hfifo, hnil, append_nil]⟩
  · intro turn event r hret hr
    obtain ⟨hload, hfree, hall⟩ := full_at_load howns hret hr
    exact ⟨hload, hfree, links, howns.chain, hall⟩
  · rintro ⟨status, result, event⟩ hr hfail
    obtain ⟨v, hagrees⟩ := hresults _ hr
    have hfail' : result = .recyclerInvariantFailure := hfail
    rw [hfail'] at hagrees
    cases status with
    | complete => exact hagrees
    | captureFailed => exact hagrees
  · have hrecycler := howns.recycler.contents_perm
    have hpart := howns.partition
    rw [append_nil] at hpart
    refine List.Perm.trans ?_ hpart
    rw [recyclerNodes, howns.capacityEq]
    exact ((hrecycler.append_left _).append_right _).append_right _

/-- Two nodes and a sentinel: two events accepted, one refused, and one returned. -/
theorem linked_refines_fifo_two : 1 ≤ 2 ∧ [2, 0, 1].Perm (List.range 3) ∧
    RefinesFifo 2 ((package Nat).client (initial 2 [2, 0, 1])
      (List.replicate 12 (.producer 5) ++ List.replicate 2 (.producer 6) ++
        List.replicate 7 .consumer)) ∧
    accepted ((package Nat).client (initial 2 [2, 0, 1])
      (List.replicate 12 (.producer 5) ++ List.replicate 2 (.producer 6) ++
        List.replicate 7 .consumer)) = [5, 5] ∧
    delivered ((package Nat).client (initial 2 [2, 0, 1])
      (List.replicate 12 (.producer 5) ++ List.replicate 2 (.producer 6) ++
        List.replicate 7 .consumer)) = [5] :=
  ⟨by decide, by decide, linked_refines_fifo 2 (by decide) [2, 0, 1] (by decide) _, by decide,
    by decide⟩

end LinkedSpscQueue

end CpuPrefetch.Queue
