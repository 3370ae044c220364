/-
Objects shared by one producer and one consumer.

Each side runs one call at a time, and a call takes several atomic steps that
interleave with the other side's.  `Spsc` is such an object: where each side's call
stands, and what one step of it does.  Steps are total and every step of a call
lowers its rank, so a call always returns, whatever the other side does.

`FifoSim` says that the object behaves as a bounded FIFO: a simulation relation to
an abstract queue, in which every call takes effect at one of its own steps.  An
enqueue may take effect before it returns, and so may a dequeue; `pDone` and
`cDone` are the effect a running call has already had.  The room of the abstract
queue may shrink but never grows, which is what a queue that loses storage to an
abandoned call needs.

`Client` closes the object with one producer and one consumer that call it for
ever, and `FifoSim.client_run` is the invariant rule for it: over any interleaving
what was accepted is what was delivered followed by what the queue holds.
-/
import Mathlib

/-- What one step of a call leaves behind: the call goes on, or it returns. -/
inductive Outcome (Call Res : Type) where
  | running (call : Call)
  | returned (result : Res)

namespace Outcome

variable {Call Res : Type}

/-- The call, while it is still running. -/
def call? : Outcome Call Res → Option Call
  | .running call => some call
  | .returned _ => none

@[simp] theorem call?_running (call : Call) :
    (running call : Outcome Call Res).call? = some call := rfl

@[simp] theorem call?_returned (result : Res) :
    (returned result : Outcome Call Res).call? = none := rfl

/-- The effect `v` is the one the step's outcome shows. -/
def Shows {V : Type} (done : Call → V) (agrees : Res → V → Prop) (v : V) :
    Outcome Call Res → Prop
  | .running call => v = done call
  | .returned result => agrees result v

end Outcome

/-- An object with one producer and one consumer, each with one call at a time. -/
structure Spsc (PArg PIn PRes CArg CIn CRes : Type) where
  /-- The memory both sides share, with the private cursors of each. -/
  State : Type
  /-- Where a running producer call stands. -/
  PCall : Type
  /-- Where a running consumer call stands. -/
  CCall : Type
  pBegin : PArg → PCall
  pStep : PIn → State → PCall → State × Outcome PCall PRes
  cBegin : CArg → CCall
  cStep : CIn → State → CCall → State × Outcome CCall CRes
  pRank : PCall → Nat
  cRank : CCall → Nat
  /-- A producer call gets closer to its return with every step. -/
  pRank_lt : ∀ i s call s' call',
    pStep i s call = (s', .running call') → pRank call' < pRank call
  /-- A consumer call gets closer to its return with every step. -/
  cRank_lt : ∀ i s call s' call',
    cStep i s call = (s', .running call') → cRank call' < cRank call

namespace Spsc

variable {PArg PIn PRes CArg CIn CRes Item : Type}

/-- What a producer step may do to a bounded FIFO `queue` with room for `room`. -/
inductive Places (x : Item) :
    Option Bool → Option Bool → List Item → Nat → List Item → Nat → Prop where
  | idle {v : Option Bool} {queue : List Item} {room room' : Nat} (h : room' ≤ room) :
      Places x v v queue room queue room'
  | put {queue : List Item} {room : Nat} (h : queue.length < room) :
      Places x none (some true) queue room (queue ++ [x]) room
  | full {queue : List Item} {room : Nat} (h : queue.length = room) :
      Places x none (some false) queue room queue room

/-- What a consumer step may do to a FIFO `queue`. -/
inductive Takes :
    Option (Option Item) → Option (Option Item) → List Item → List Item → Prop where
  | idle {v : Option (Option Item)} {queue : List Item} : Takes v v queue queue
  | take {x : Item} {queue : List Item} : Takes none (some (some x)) (x :: queue) queue
  | empty : Takes none (some none) [] []

/--
The object behaves as a bounded FIFO of `capacity` items from the state `init` on.
`pAgrees` and `cAgrees` say which effects a result may report.
-/
structure FifoSim (O : Spsc PArg PIn PRes CArg CIn CRes)
    (pAgrees : PRes → Option Bool → Prop) (cAgrees : CRes → Option (Option Item) → Prop)
    (capacity : Nat) (init : O.State) where
  /-- The item an enqueue with this argument places. -/
  item : PArg → Item
  /-- The effect a running enqueue has had: placed its item, or found the queue full. -/
  pDone : O.PCall → Option Bool
  /-- The effect a running dequeue has had: took an item, or found the queue empty. -/
  cDone : O.CCall → Option (Option Item)
  /-- The concrete state and the two calls stand for this queue, with this room. -/
  Sim : O.State → Option (PArg × O.PCall) → Option O.CCall → List Item → Nat → Prop
  sim_init : ∃ room, Sim init none none [] room
  sim_bound : ∀ {s p c queue room}, Sim s p c queue room →
    queue.length ≤ room ∧ room ≤ capacity
  p_begin : ∀ {s c queue room} (a : PArg), Sim s none c queue room →
    pDone (O.pBegin a) = none ∧ Sim s (some (a, O.pBegin a)) c queue room
  c_begin : ∀ {s p queue room} (a : CArg), Sim s p none queue room →
    cDone (O.cBegin a) = none ∧ Sim s p (some (O.cBegin a)) queue room
  p_step : ∀ {s a call c queue room s' out} (i : PIn),
    Sim s (some (a, call)) c queue room → O.pStep i s call = (s', out) →
    ∃ v queue' room', out.Shows pDone pAgrees v ∧
      Places (item a) (pDone call) v queue room queue' room' ∧
      Sim s' (out.call?.map (a, ·)) c queue' room'
  c_step : ∀ {s p call queue room s' out} (i : CIn),
    Sim s p (some call) queue room → O.cStep i s call = (s', out) →
    ∃ v queue', out.Shows cDone cAgrees v ∧ Takes (cDone call) v queue queue' ∧
      Sim s' p out.call? queue' room

/-! ### One producer and one consumer calling the object for ever -/

/-- The object, the two calls in progress and the calls that have returned. -/
structure Client (O : Spsc PArg PIn PRes CArg CIn CRes) where
  state : O.State
  pcall : Option (PArg × O.PCall)
  ccall : Option O.CCall
  /-- The producer calls that have returned, oldest first. -/
  enqueued : List (PArg × PRes)
  /-- The consumer calls that have returned, oldest first. -/
  dequeued : List CRes

/-- Which side moves; an idle side begins its next call. -/
inductive Action (PArg PIn CArg CIn : Type) where
  | producer (a : PArg) (i : PIn)
  | consumer (a : CArg) (i : CIn)

namespace Client

variable {O : Spsc PArg PIn PRes CArg CIn CRes}

/-- Nothing called yet. -/
def start (init : O.State) : Client O := ⟨init, none, none, [], []⟩

/-- The producer's call is as the step left it. -/
def afterPStep (c : Client O) (a : PArg) : O.State × Outcome O.PCall PRes → Client O
  | (s, .running call) => { c with state := s, pcall := some (a, call) }
  | (s, .returned r) =>
      { c with state := s, pcall := none, enqueued := c.enqueued ++ [(a, r)] }

/-- The consumer's call is as the step left it. -/
def afterCStep (c : Client O) : O.State × Outcome O.CCall CRes → Client O
  | (s, .running call) => { c with state := s, ccall := some call }
  | (s, .returned r) => { c with state := s, ccall := none, dequeued := c.dequeued ++ [r] }

/-- One atomic step of one side. -/
def step (c : Client O) : Action PArg PIn CArg CIn → Client O
  | .producer a i =>
      match c.pcall with
      | none => { c with pcall := some (a, O.pBegin a) }
      | some (a', call) => c.afterPStep a' (O.pStep i c.state call)
  | .consumer a i =>
      match c.ccall with
      | none => { c with ccall := some (O.cBegin a) }
      | some call => c.afterCStep (O.cStep i c.state call)

variable {c : Client O} {a a' : PArg} {b : CArg} {i : PIn} {j : CIn} {s : O.State}

theorem step_pBegin (h : c.pcall = none) :
    c.step (.producer a i) = { c with pcall := some (a, O.pBegin a) } := by
  simp [step, h]

theorem step_pRunning {call call' : O.PCall} (h : c.pcall = some (a', call))
    (hs : O.pStep i c.state call = (s, .running call')) :
    c.step (.producer a i) = { c with state := s, pcall := some (a', call') } := by
  simp [step, h, hs, afterPStep]

theorem step_pReturned {call : O.PCall} {r : PRes} (h : c.pcall = some (a', call))
    (hs : O.pStep i c.state call = (s, .returned r)) :
    c.step (.producer a i) =
      { c with state := s, pcall := none, enqueued := c.enqueued ++ [(a', r)] } := by
  simp [step, h, hs, afterPStep]

theorem step_cBegin (h : c.ccall = none) :
    c.step (.consumer b j) = { c with ccall := some (O.cBegin b) } := by
  simp [step, h]

theorem step_cRunning {call call' : O.CCall} (h : c.ccall = some call)
    (hs : O.cStep j c.state call = (s, .running call')) :
    c.step (.consumer b j) = { c with state := s, ccall := some call' } := by
  simp [step, h, hs, afterCStep]

theorem step_cReturned {call : O.CCall} {r : CRes} (h : c.ccall = some call)
    (hs : O.cStep j c.state call = (s, .returned r)) :
    c.step (.consumer b j) =
      { c with state := s, ccall := none, dequeued := c.dequeued ++ [r] } := by
  simp [step, h, hs, afterCStep]

theorem step_consumer_enqueued (b : CArg) (j : CIn) :
    (c.step (.consumer b j)).enqueued = c.enqueued := by
  cases hcall : c.ccall with
  | none => rw [step_cBegin hcall]
  | some call => rcases hs : O.cStep j c.state call with ⟨s, call' | r⟩ <;>
    simp [step, hcall, hs, afterCStep]

theorem step_producer_dequeued (a : PArg) (i : PIn) :
    (c.step (.producer a i)).dequeued = c.dequeued := by
  cases hcall : c.pcall with
  | none => rw [step_pBegin hcall]
  | some pc => rcases hs : O.pStep i c.state pc.2 with ⟨s, call' | r⟩ <;>
    simp [step, hcall, hs, afterPStep]

/-- A step that records a returned enqueue is the last step of that enqueue. -/
theorem pReturned_of_step {act : Action PArg PIn CArg CIn} {r : PRes}
    (h : (c.step act).enqueued = c.enqueued ++ [(a, r)]) :
    ∃ a' i call s, act = .producer a' i ∧ c.pcall = some (a, call) ∧
      O.pStep i c.state call = (s, .returned r) := by
  have hne : c.enqueued ≠ c.enqueued ++ [(a, r)] := by simp
  cases act with
  | consumer b j => rw [step_consumer_enqueued] at h; exact absurd h hne
  | producer a' i =>
      cases hcall : c.pcall with
      | none => rw [step_pBegin hcall] at h; exact absurd h hne
      | some pc =>
          obtain ⟨a'', call⟩ := pc
          rcases hs : O.pStep i c.state call with ⟨s, call' | r'⟩
          · rw [step_pRunning hcall hs] at h; exact absurd h hne
          · rw [step_pReturned hcall hs] at h
            have heq : (a'', r') = (a, r) := by simpa using h
            obtain ⟨rfl, rfl⟩ := Prod.mk.inj heq
            exact ⟨a', i, call, s, rfl, rfl, hs⟩

/-- A step that records a returned dequeue is the last step of that dequeue. -/
theorem cReturned_of_step {act : Action PArg PIn CArg CIn} {r : CRes}
    (h : (c.step act).dequeued = c.dequeued ++ [r]) :
    ∃ b j call s, act = .consumer b j ∧ c.ccall = some call ∧
      O.cStep j c.state call = (s, .returned r) := by
  have hne : c.dequeued ≠ c.dequeued ++ [r] := by simp
  cases act with
  | producer a' i => rw [step_producer_dequeued] at h; exact absurd h hne
  | consumer b j =>
      cases hcall : c.ccall with
      | none => rw [step_cBegin hcall] at h; exact absurd h hne
      | some call =>
          rcases hs : O.cStep j c.state call with ⟨s, call' | r'⟩
          · rw [step_cRunning hcall hs] at h; exact absurd h hne
          · rw [step_cReturned hcall hs] at h
            have heq : r' = r := by simpa using h
            subst heq
            exact ⟨b, j, call, s, rfl, rfl, hs⟩

/-- A finite interleaving. -/
def run (c : Client O) (acts : List (Action PArg PIn CArg CIn)) : Client O :=
  acts.foldl step c

/-- **Invariant rule.** What holds at the start and survives every step holds after any run. -/
theorem run_induction {P : Client O → Prop} {c : Client O} (hstart : P c)
    (hstep : ∀ c a, P c → P (c.step a)) (acts : List (Action PArg PIn CArg CIn)) :
    P (c.run acts) := by
  induction acts generalizing c with
  | nil => exact hstart
  | cons a rest ih => exact ih (hstep c a hstart)

/-- **Invariant rule, by what a step is.** A side begins a call, goes on with it, or returns. -/
theorem run_cases {P : Client O → Prop} {c : Client O} (hstart : P c)
    (hpBegin : ∀ c a, P c → c.pcall = none → P { c with pcall := some (a, O.pBegin a) })
    (hpRunning : ∀ c a i call s call', P c → c.pcall = some (a, call) →
      O.pStep i c.state call = (s, .running call') →
        P { c with state := s, pcall := some (a, call') })
    (hpReturned : ∀ c a i call s r, P c → c.pcall = some (a, call) →
      O.pStep i c.state call = (s, .returned r) →
        P { c with state := s, pcall := none, enqueued := c.enqueued ++ [(a, r)] })
    (hcBegin : ∀ c a, P c → c.ccall = none → P { c with ccall := some (O.cBegin a) })
    (hcRunning : ∀ c i call s call', P c → c.ccall = some call →
      O.cStep i c.state call = (s, .running call') →
        P { c with state := s, ccall := some call' })
    (hcReturned : ∀ c i call s r, P c → c.ccall = some call →
      O.cStep i c.state call = (s, .returned r) →
        P { c with state := s, ccall := none, dequeued := c.dequeued ++ [r] })
    (acts : List (Action PArg PIn CArg CIn)) : P (c.run acts) := by
  refine run_induction hstart (fun c act h => ?_) acts
  cases act with
  | producer a i =>
      cases hcall : c.pcall with
      | none => rw [step_pBegin hcall]; exact hpBegin c a h hcall
      | some running =>
          obtain ⟨a', call⟩ := running
          rcases hs : O.pStep i c.state call with ⟨s, call' | r⟩
          · rw [step_pRunning hcall hs]; exact hpRunning c a' i call s call' h hcall hs
          · rw [step_pReturned hcall hs]; exact hpReturned c a' i call s r h hcall hs
  | consumer b j =>
      cases hcall : c.ccall with
      | none => rw [step_cBegin hcall]; exact hcBegin c b h hcall
      | some call =>
          rcases hs : O.cStep j c.state call with ⟨s, call' | r⟩
          · rw [step_cRunning hcall hs]; exact hcRunning c j call s call' h hcall hs
          · rw [step_cReturned hcall hs]; exact hcReturned c j call s r h hcall hs

/-- The items of the producer calls that report having placed them. -/
def accepted (item : PArg → Item) (placed : PRes → Bool) (c : Client O) : List Item :=
  (c.enqueued.filter fun e => placed e.2).map fun e => item e.1

/-- The items the consumer calls have returned. -/
def delivered (taken : CRes → Option Item) (c : Client O) : List Item :=
  c.dequeued.filterMap taken

end Client

open Client

/-! ### Ghosts -/

/-- The object with a ghost beside its memory, which its steps change and never read. -/
def withGhost (O : Spsc PArg PIn PRes CArg CIn CRes) {G : Type}
    (pGhost : O.State → O.PCall → G → G) (cGhost : O.State → O.CCall → G → G) :
    Spsc PArg PIn PRes CArg CIn CRes where
  State := O.State × G
  PCall := O.PCall
  CCall := O.CCall
  pBegin := O.pBegin
  pStep i s call := (((O.pStep i s.1 call).1, pGhost s.1 call s.2), (O.pStep i s.1 call).2)
  cBegin := O.cBegin
  cStep i s call := (((O.cStep i s.1 call).1, cGhost s.1 call s.2), (O.cStep i s.1 call).2)
  pRank := O.pRank
  cRank := O.cRank
  pRank_lt i s call _ _ h := O.pRank_lt i s.1 call _ _ (Prod.ext rfl (Prod.mk.inj h).2)
  cRank_lt i s call _ _ h := O.cRank_lt i s.1 call _ _ (Prod.ext rfl (Prod.mk.inj h).2)

namespace Client

variable {O : Spsc PArg PIn PRes CArg CIn CRes} {G : Type} {pGhost : O.State → O.PCall → G → G}
  {cGhost : O.State → O.CCall → G → G}

/-- The client without the ghost. -/
def erase (c : Client (O.withGhost pGhost cGhost)) : Client O :=
  ⟨c.state.1, c.pcall, c.ccall, c.enqueued, c.dequeued⟩

theorem erase_step (c : Client (O.withGhost pGhost cGhost)) (act : Action PArg PIn CArg CIn) :
    (c.step act).erase = c.erase.step act := by
  obtain ⟨⟨s, g⟩, pcall, ccall, enqueued, dequeued⟩ := c
  cases act with
  | producer a i =>
      cases pcall with
      | none => rfl
      | some pc =>
          rcases hs : O.pStep i s pc.2 with ⟨s', call' | r⟩ <;>
            simp only [step, erase, withGhost, hs, afterPStep]
  | consumer b j =>
      cases ccall with
      | none => rfl
      | some call =>
          rcases hs : O.cStep j s call with ⟨s', call' | r⟩ <;>
            simp only [step, erase, withGhost, hs, afterCStep]

/-- A run does what it does without the ghost. -/
theorem erase_run (c : Client (O.withGhost pGhost cGhost))
    (acts : List (Action PArg PIn CArg CIn)) : (c.run acts).erase = c.erase.run acts := by
  induction acts generalizing c with
  | nil => rfl
  | cons act rest ih =>
      rw [run, run, List.foldl_cons, List.foldl_cons, ← erase_step]
      exact ih (c.step act)

end Client

/-! ### What a bounded FIFO delivers -/

namespace FifoSim

variable {O : Spsc PArg PIn PRes CArg CIn CRes} {pAgrees : PRes → Option Bool → Prop}
  {cAgrees : CRes → Option (Option Item) → Prop} {capacity : Nat} {init : O.State}
  (F : FifoSim O pAgrees cAgrees capacity init)

/-- What a producer call with this effect has placed. -/
def placedBy (x : Item) : Option Bool → List Item
  | some true => [x]
  | _ => []

theorem placedBy_length_le (x : Item) (v : Option Bool) : (placedBy x v).length ≤ 1 := by
  unfold placedBy
  split <;> simp

/-- What a consumer call with this effect has taken. -/
def takenBy : Option (Option Item) → List Item
  | some (some x) => [x]
  | _ => []

/-- What the running producer call has placed so far. -/
def pending : Option (PArg × O.PCall) → List Item
  | none => []
  | some (a, call) => placedBy (F.item a) (F.pDone call)

/-- What the running consumer call has taken so far. -/
def inHand : Option O.CCall → List Item
  | none => []
  | some call => takenBy (F.cDone call)

/-- A consumer step changes the queue by what its call takes in that step. -/
theorem takes_queue {v v' : Option (Option Item)} {queue queue' : List Item}
    (h : Takes v v' queue queue') : takenBy v ++ queue = takenBy v' ++ queue' := by
  cases h <;> simp [takenBy]

/-- What the producer calls with these effects have placed. -/
def placedAll (calls : List (PArg × PRes)) (effects : List (Option Bool)) : List Item :=
  (calls.zip effects).flatMap fun x => placedBy (F.item x.1.1) x.2

/-- What the consumer calls with these effects have taken. -/
def takenAll (effects : List (Option (Option Item))) : List Item := effects.flatMap takenBy

/--
The calls that have returned, with the effect of each: `pv` and `cv` are the effects of
the producer's and of the consumer's calls, and what the former placed is what the
latter took, followed by the queue.
-/
structure History (c : Client O) (pv : List (Option Bool)) (cv : List (Option (Option Item)))
    (queue : List Item) (room : Nat) : Prop where
  sim : F.Sim c.state c.pcall c.ccall queue room
  enqueues : List.Forall₂ (fun e v => pAgrees e.2 v) c.enqueued pv
  dequeues : List.Forall₂ cAgrees c.dequeued cv
  balance : F.placedAll c.enqueued pv ++ F.pending c.pcall =
    takenAll cv ++ F.inHand c.ccall ++ queue

variable {F}

/-- Appending what a step placed to what was pending before it. -/
private theorem append_placed {acc del : List Item} {x : Item} {v v' : Option Bool}
    {queue queue' : List Item} {room room' : Nat}
    (heq : acc ++ placedBy x v = del ++ queue)
    (h : Places x v v' queue room queue' room') : acc ++ placedBy x v' = del ++ queue' := by
  cases h with
  | idle => exact heq
  | put =>
      have heq' : acc = del ++ queue := by simpa [placedBy] using heq
      simp [placedBy, heq']
  | full => exact heq

theorem placedAll_append {calls : List (PArg × PRes)} {pv : List (Option Bool)}
    (hlen : calls.length = pv.length) (a : PArg) (r : PRes) (v : Option Bool) :
    F.placedAll (calls ++ [(a, r)]) (pv ++ [v]) =
      F.placedAll calls pv ++ placedBy (F.item a) v := by
  simp [placedAll, List.zip_append hlen]

theorem takenAll_append (cv : List (Option (Option Item))) (v : Option (Option Item)) :
    takenAll (cv ++ [v]) = takenAll cv ++ takenBy v := by
  simp [takenAll]

namespace History

variable {c : Client O} {pv : List (Option Bool)} {cv : List (Option (Option Item))}
  {queue : List Item} {room : Nat} {a : PArg} {i : PIn} {j : CIn} {s : O.State}

theorem start : ∃ room, F.History (start init) [] [] [] room := by
  obtain ⟨room, hsim⟩ := F.sim_init
  exact ⟨room, hsim, .nil, .nil, rfl⟩

theorem pBegin (h : F.History c pv cv queue room) (hcall : c.pcall = none) (a : PArg) :
    F.History { c with pcall := some (a, O.pBegin a) } pv cv queue room := by
  have hsim := h.sim
  have hbalance := h.balance
  rw [hcall] at hsim hbalance
  obtain ⟨hdone, hsim'⟩ := F.p_begin a hsim
  refine ⟨hsim', h.enqueues, h.dequeues, ?_⟩
  simpa only [pending, hdone, placedBy] using hbalance

theorem pRunning (h : F.History c pv cv queue room) {call call' : O.PCall}
    (hcall : c.pcall = some (a, call)) (hs : O.pStep i c.state call = (s, .running call')) :
    ∃ queue' room',
      Places (F.item a) (F.pDone call) (F.pDone call') queue room queue' room' ∧
      F.History { c with state := s, pcall := some (a, call') } pv cv queue' room' := by
  have hsim := h.sim
  have hbalance := h.balance
  rw [hcall] at hsim hbalance
  obtain ⟨v, queue', room', rfl, hplace, hsim'⟩ := F.p_step i hsim hs
  exact ⟨queue', room', hplace, hsim', h.enqueues, h.dequeues, append_placed hbalance hplace⟩

theorem pReturned (h : F.History c pv cv queue room) {call : O.PCall} {r : PRes}
    (hcall : c.pcall = some (a, call)) (hs : O.pStep i c.state call = (s, .returned r)) :
    ∃ v queue' room', pAgrees r v ∧ Places (F.item a) (F.pDone call) v queue room queue' room' ∧
      F.History { c with state := s, pcall := none, enqueued := c.enqueued ++ [(a, r)] }
        (pv ++ [v]) cv queue' room' := by
  have hsim := h.sim
  have hbalance := h.balance
  rw [hcall] at hsim hbalance
  obtain ⟨v, queue', room', hshow, hplace, hsim'⟩ := F.p_step i hsim hs
  refine ⟨v, queue', room', hshow, hplace, hsim', ?_, h.dequeues, ?_⟩
  · exact List.rel_append h.enqueues (.cons hshow .nil)
  · rw [placedAll_append h.enqueues.length_eq]
    simpa only [pending, List.append_nil] using append_placed hbalance hplace

theorem cBegin (h : F.History c pv cv queue room) (hcall : c.ccall = none) (b : CArg) :
    F.History { c with ccall := some (O.cBegin b) } pv cv queue room := by
  have hsim := h.sim
  have hbalance := h.balance
  rw [hcall] at hsim hbalance
  obtain ⟨hdone, hsim'⟩ := F.c_begin b hsim
  refine ⟨hsim', h.enqueues, h.dequeues, ?_⟩
  simpa only [inHand, hdone, takenBy] using hbalance

theorem cRunning (h : F.History c pv cv queue room) {call call' : O.CCall}
    (hcall : c.ccall = some call) (hs : O.cStep j c.state call = (s, .running call')) :
    ∃ queue', Takes (F.cDone call) (F.cDone call') queue queue' ∧
      F.History { c with state := s, ccall := some call' } pv cv queue' room := by
  have hsim := h.sim
  have hbalance := h.balance
  rw [hcall] at hsim hbalance
  obtain ⟨v, queue', rfl, htake, hsim'⟩ := F.c_step j hsim hs
  refine ⟨queue', htake, hsim', h.enqueues, h.dequeues, ?_⟩
  rw [hbalance, List.append_assoc, List.append_assoc]
  exact congrArg (takenAll cv ++ ·) (takes_queue htake)

theorem cReturned (h : F.History c pv cv queue room) {call : O.CCall} {r : CRes}
    (hcall : c.ccall = some call) (hs : O.cStep j c.state call = (s, .returned r)) :
    ∃ v queue', cAgrees r v ∧ Takes (F.cDone call) v queue queue' ∧
      F.History { c with state := s, ccall := none, dequeued := c.dequeued ++ [r] }
        pv (cv ++ [v]) queue' room := by
  have hsim := h.sim
  have hbalance := h.balance
  rw [hcall] at hsim hbalance
  obtain ⟨v, queue', hshow, htake, hsim'⟩ := F.c_step j hsim hs
  refine ⟨v, queue', hshow, htake, hsim', h.enqueues, ?_, ?_⟩
  · exact List.rel_append h.dequeues (.cons hshow .nil)
  · rw [hbalance, takenAll_append, List.append_assoc]
    simp only [inHand, List.append_nil, List.append_assoc]
    exact congrArg (takenAll cv ++ ·) (takes_queue htake)

/-- Any step goes on with the history. -/
theorem step (h : F.History c pv cv queue room) (act : Action PArg PIn CArg CIn) :
    ∃ pv' cv' queue' room', F.History (c.step act) pv' cv' queue' room' := by
  cases act with
  | producer a i =>
      cases hcall : c.pcall with
      | none =>
          rw [step_pBegin hcall]
          exact ⟨_, _, _, _, h.pBegin hcall a⟩
      | some pc =>
          obtain ⟨a', call⟩ := pc
          rcases hs : O.pStep i c.state call with ⟨s, call' | r⟩
          · obtain ⟨_, _, -, h'⟩ := h.pRunning hcall hs
            rw [step_pRunning hcall hs]
            exact ⟨_, _, _, _, h'⟩
          · obtain ⟨_, _, _, -, -, h'⟩ := h.pReturned hcall hs
            rw [step_pReturned hcall hs]
            exact ⟨_, _, _, _, h'⟩
  | consumer b j =>
      cases hcall : c.ccall with
      | none =>
          rw [step_cBegin hcall]
          exact ⟨_, _, _, _, h.cBegin hcall b⟩
      | some call =>
          rcases hs : O.cStep j c.state call with ⟨s, call' | r⟩
          · obtain ⟨_, -, h'⟩ := h.cRunning hcall hs
            rw [step_cRunning hcall hs]
            exact ⟨_, _, _, _, h'⟩
          · obtain ⟨_, _, -, -, h'⟩ := h.cReturned hcall hs
            rw [step_cReturned hcall hs]
            exact ⟨_, _, _, _, h'⟩

end History

/-- **Any interleaving has a history.** -/
theorem client_history (F : FifoSim O pAgrees cAgrees capacity init)
    (acts : List (Action PArg PIn CArg CIn)) :
    ∃ pv cv queue room, F.History ((start init).run acts) pv cv queue room := by
  refine run_induction
    (P := fun c => ∃ pv cv queue room, F.History c pv cv queue room) ?_ ?_ acts
  · obtain ⟨room, h⟩ := History.start (F := F)
    exact ⟨[], [], [], room, h⟩
  · intro c act ⟨pv, cv, queue, room, h⟩
    exact h.step act

/-! What the results tell is what happened, if each result shows its effect. -/

variable {placed : PRes → Bool} {taken : CRes → Option Item}

theorem placedAll_eq (hplaced : ∀ r v, pAgrees r v → (placed r = true ↔ v = some true))
    {calls : List (PArg × PRes)} {pv : List (Option Bool)}
    (h : List.Forall₂ (fun e v => pAgrees e.2 v) calls pv) :
    F.placedAll calls pv = (calls.filter fun e => placed e.2).map fun e => F.item e.1 := by
  induction h with
  | nil => rfl
  | @cons e v calls pv hagree _ ih =>
      have hiff := hplaced e.2 v hagree
      have hcons : F.placedAll (e :: calls) (v :: pv) =
          placedBy (F.item e.1) v ++ F.placedAll calls pv := rfl
      rw [hcons, ih]
      by_cases hv : v = some true
      · simp [hiff.mpr hv, hv, placedBy]
      · have hnot : placed e.2 = false := by simpa [hv] using hiff
        rw [List.filter_cons, if_neg (by simp [hnot])]
        match v with
        | none => rfl
        | some false => rfl
        | some true => exact absurd rfl hv

theorem takenAll_eq (htaken : ∀ r v, cAgrees r v → taken r = v.join) {results : List CRes}
    {cv : List (Option (Option Item))} (h : List.Forall₂ cAgrees results cv) :
    takenAll cv = results.filterMap taken := by
  induction h with
  | nil => rfl
  | @cons r v results cv hagree _ ih =>
      have hcons : takenAll (v :: cv) = takenBy v ++ takenAll cv := rfl
      rw [hcons, ih, List.filterMap_cons, htaken r v hagree]
      match v with
      | none => rfl
      | some none => rfl
      | some (some x) => rfl

/-- What has been accepted is what has been delivered, followed by the queue. -/
def Conserves (F : FifoSim O pAgrees cAgrees capacity init) (placed : PRes → Bool)
    (taken : CRes → Option Item) (c : Client O) : Prop :=
  ∃ queue room, F.Sim c.state c.pcall c.ccall queue room ∧
    c.accepted F.item placed ++ F.pending c.pcall =
      c.delivered taken ++ F.inHand c.ccall ++ queue

/-- **Over any interleaving, what was accepted is what was delivered and then the queue.** -/
theorem client_run (hplaced : ∀ r v, pAgrees r v → (placed r = true ↔ v = some true))
    (htaken : ∀ r v, cAgrees r v → taken r = v.join)
    (acts : List (Action PArg PIn CArg CIn)) :
    F.Conserves placed taken ((start init).run acts) := by
  obtain ⟨pv, cv, queue, room, h⟩ := F.client_history acts
  refine ⟨queue, room, h.sim, ?_⟩
  rw [accepted, delivered, ← placedAll_eq hplaced h.enqueues,
    ← takenAll_eq htaken h.dequeues]
  exact h.balance

/-- Every result a consumer call has returned reports an effect the queue can have. -/
theorem dequeued_agrees (F : FifoSim O pAgrees cAgrees capacity init)
    (acts : List (Action PArg PIn CArg CIn)) :
    ∀ r ∈ ((start init).run acts).dequeued, ∃ v, cAgrees r v := by
  obtain ⟨pv, cv, queue, room, h⟩ := F.client_history acts
  intro r hr
  obtain ⟨hlen, hagree⟩ := List.forall₂_iff_get.mp h.dequeues
  obtain ⟨n, hn, rfl⟩ := List.mem_iff_getElem.mp hr
  exact ⟨_, hagree n hn (hlen ▸ hn)⟩

end FifoSim

end Spsc
