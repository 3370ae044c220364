/-
A measurement over a bounded FIFO loses nothing.

The consumer calls itself drained when a poll that began after it had seen the
arrivals-finished word returns empty.  The producer has returned by then and can
place nothing more, so the queue the poll found empty stays empty, and everything
accepted has been consumed.  The backend is any object with a FIFO simulation; a
failed attempt or poll may have had its effect or not.
-/
import CpuPrefetch.Lifecycle.Executor
import CpuPrefetch.Proofs.Lifecycle.Attribution

namespace CpuPrefetch.Lifecycle

open List Spsc.FifoSim Bounded
open Spsc (Places Takes)

/-- The effect the result of an attempt reports; a failed one may have had any. -/
def attemptAgrees (r : ProducerAttemptResult) (v : Option Bool) : Prop :=
  match r with
  | ⟨.complete, .accepted⟩ => v = some true
  | ⟨.complete, .full⟩ => v = some false
  | ⟨.failure, _⟩ => True

/-- The effect the result of a poll reports; a failed one may have had any. -/
def pollAgrees {Item : Type} (r : ConsumerPollResult) (v : Option (Option Item)) : Prop :=
  match r with
  | ⟨.item⟩ => ∃ x, v = some (some x)
  | ⟨.empty⟩ => v = some none
  | ⟨.failure⟩ => True

/-- The backend behaves as a bounded FIFO of `capacity` items from `init` on. -/
abbrev Backend.Fifo {PIn CIn : Type} (B : Backend PIn CIn) (Item : Type) (capacity : Nat)
    (init : B.State) :=
  Spsc.FifoSim B attemptAgrees (@pollAgrees Item) capacity init

variable {PIn CIn Item : Type} {B : Backend PIn CIn} {schedule : PreparedScheduleView}
  {limits : ExecutionLimits} {e e' : Execution B} {capacity : Nat} {init : B.State}
  {F : B.Fifo Item capacity init}

/-! ### The producer is done before the consumer drains -/

/-- A consumer that drains, or has drained, has seen the word. -/
theorem ConsumerThread.Coherent.published {released published failed : Bool} {t : ConsumerThread}
    (h : t.Coherent released published failed)
    (hdrains : t.point = .poll true ∨ t.state.drained = true) : published = true := by
  rcases hdrains with hpoint | hdrained
  · simp only [Coherent, hpoint] at h
    exact h.2.1
  · unfold Coherent at h
    split at h <;> simp_all [Fresh, NeverStarted, Broke]

theorem ConsumerThread.workerWait_drained (limits : ExecutionLimits) (t : ConsumerThread)
    (poll : UInt64) : (t.workerWait limits poll).state.drained = t.state.drained := by
  rcases t.workerWait_cases limits poll with ⟨-, heq⟩ | ⟨-, heq⟩
  · rw [heq]
  · rw [heq]
    rfl

namespace Execution

theorem Consistent.producer_returned (hc : e.Consistent schedule)
    (hpublished : e.producer.state.arrivalsFinishedPublished = true) :
    e.producer.point = .returned := by
  have hp := hc.producer
  unfold ProducerThread.Coherent at hp
  split at hp <;> simp_all [ProducerThread.Fresh, ProducerThread.NeverStarted]

variable {input : PIn} {reading : TickRead}

theorem ProducerStep.running (hstep : ProducerStep schedule limits reading input e e') :
    e.producer.point ≠ .returned := by
  cases hstep <;> simp_all

theorem ProducerStep.consumer_eq (hstep : ProducerStep schedule limits reading input e e') :
    e'.consumer = e.consumer := by
  cases hstep <;> rfl

/-! ### The queue behind the backend -/

/-- The backend's history, with an empty queue once the consumer has found it so. -/
structure Delivers (F : B.Fifo Item capacity init) (e : Execution B) (pv : List (Option Bool))
    (cv : List (Option (Option Item))) (queue : List Item) (room : Nat) : Prop where
  history : F.History e.client pv cv queue room
  /-- A drain poll that has found the queue empty, but has not returned yet. -/
  found : e.consumer.point = .poll true → ∀ call, e.client.ccall = some call →
    F.cDone call = some none → queue = []
  drained : e.consumer.state.drained = true → queue = []

namespace Delivers

variable {pv : List (Option Bool)} {cv : List (Option (Option Item))} {queue : List Item}
  {room : Nat}

/-- The producer moves only while nobody drains. -/
theorem producer_step (h : e.Delivers F pv cv queue room) (hc : e.Consistent schedule)
    (hstep : ProducerStep schedule limits reading input e e') :
    ∃ pv' queue' room', e'.Delivers F pv' cv queue' room' := by
  have hidle : ¬(e'.consumer.point = .poll true ∨ e'.consumer.state.drained = true) := by
    rw [hstep.consumer_eq]
    intro hdrains
    exact hstep.running (hc.producer_returned (hc.consumer.published hdrains))
  have hempty : ∀ {pv' queue' room'}, F.History e'.client pv' cv queue' room' →
      e'.Delivers F pv' cv queue' room' := fun history =>
    ⟨history, fun hpoint => absurd (Or.inl hpoint) hidle,
      fun hdrained => absurd (Or.inr hdrained) hidle⟩
  cases hstep with
  | callBegun attempt hpoint hcall => exact ⟨_, _, _, hempty (h.history.pBegin hcall attempt)⟩
  | callRuns attempt attempt' call call' s hpoint hcall hs =>
      obtain ⟨_, _, -, history⟩ := h.history.pRunning hcall hs
      exact ⟨_, _, _, hempty history⟩
  | callReturned attempt attempt' call s r hpoint hcall hs =>
      obtain ⟨_, _, _, -, -, history⟩ := h.history.pReturned hcall hs
      exact ⟨_, _, _, hempty history⟩
  | _ => exact ⟨_, _, _, hempty h.history⟩

/-- A queue that has been found empty is still empty after a step that takes nothing. -/
theorem takes_empty {v : Option (Option Item)} {queue' : List Item}
    (htake : Takes v (some none) queue queue') (hfound : v = some none → queue = []) :
    queue' = [] := by
  cases htake with
  | idle => exact hfound rfl
  | empty => rfl

theorem consumer_step (h : e.Delivers F pv cv queue room) (hc : e.Consistent schedule)
    {input : CIn} (hstep : ConsumerStep limits input e e') :
    ∃ cv' queue', e'.Delivers F pv cv' queue' room := by
  cases hstep with
  | callBegun finished hpoint hcall =>
      have hsim := h.history.sim
      rw [hcall] at hsim
      refine ⟨_, _, h.history.cBegin hcall _, fun _ call hsome hdone => ?_, h.drained⟩
      rw [← Option.some.inj hsome, (F.c_begin _ hsim).1] at hdone
      cases hdone
  | callRuns finished call call' s hpoint hcall hs =>
      obtain ⟨queue', htake, history⟩ := h.history.cRunning hcall hs
      have hfresh := hc.consumer.fresh_of_poll hpoint
      refine ⟨_, _, history, fun hdrain call'' hsome hdone => ?_, fun hdrained => ?_⟩
      · rw [← Option.some.inj hsome] at hdone
        rw [hdone] at htake
        exact takes_empty htake (h.found hdrain call hcall)
      · have hnot : e.consumer.state.drained = true := hdrained
        rw [hfresh.2.2] at hnot
        cases hnot
  | callReturned finished call s r t hpoint hcall hs hpolled =>
      obtain ⟨v, queue', hagree, htake, history⟩ := h.history.cReturned hcall hs
      have hfresh := hc.consumer.fresh_of_poll hpoint
      refine ⟨_, _, history, nofun, fun hdrained => ?_⟩
      cases hpolled with
      | drained hlimit =>
          rw [show v = some none from hagree] at htake
          exact takes_empty htake (h.found hpoint call hcall)
      | item _ hlimit =>
          cases finished <;> simp [ConsumerThread.counted, hfresh.2.2] at hdrained
      | _ => simp [ConsumerThread.counted, ConsumerThread.fail, hfresh.2.2] at hdrained
  | arrived hpoint hnew =>
      have hidle := hc.ccall_none (by simp [hpoint])
      refine ⟨_, _, h.history, fun _ call hcall => by simp_all, fun hdrained => h.drained ?_⟩
      rwa [ConsumerThread.workerWait_drained] at hdrained
  | notReleased poll hpoint hreleased =>
      have hidle := hc.ccall_none (by simp [hpoint])
      refine ⟨_, _, h.history, fun _ call hcall => by simp_all, fun hdrained => h.drained ?_⟩
      rwa [ConsumerThread.workerWait_drained] at hdrained
  | _ =>
      have hidle := hc.ccall_none (by simp_all)
      exact ⟨_, _, h.history, fun _ call hcall => by simp_all, h.drained⟩

theorem step (h : e.Delivers F pv cv queue room) (hc : e.Consistent schedule)
    {a : ThreadStep PIn CIn} (hstep : e.step schedule limits a = some e') :
    ∃ pv' cv' queue' room', e'.Delivers F pv' cv' queue' room' := by
  cases a with
  | producer reading input =>
      obtain ⟨_, _, _, h'⟩ := h.producer_step hc (producerStep_cases hstep)
      exact ⟨_, _, _, _, h'⟩
  | consumer input =>
      obtain ⟨_, _, h'⟩ := h.consumer_step hc (consumerStep_cases hstep)
      exact ⟨_, _, _, _, h'⟩
  | controller reading =>
      refine ⟨pv, cv, queue, room, ?_⟩
      cases controllerStep_cases hstep <;> exact ⟨h.history, h.found, h.drained⟩

end Delivers

theorem Reaches.delivers (F : B.Fifo Item capacity init)
    (hreach : (Execution.start limits ⟨0⟩ init).Reaches schedule limits e) :
    ∃ pv cv queue room, e.Delivers F pv cv queue room := by
  refine (hreach.induction (I := fun e => e.Consistent schedule ∧
    ∃ pv cv queue room, e.Delivers F pv cv queue room) ⟨.start limits _ init rfl, ?_⟩ ?_).2
  · obtain ⟨room, history⟩ := History.start (F := F)
    exact ⟨[], [], [], room, history, nofun, fun _ => rfl⟩
  · intro e a e' ⟨hc, pv, cv, queue, room, h⟩ hstep
    exact ⟨hc.step hstep, h.step hc hstep⟩

end Execution

/-! ### Counting effects -/

/-- Every complete attempt was accepted or turned away. -/
theorem Answered.accepted_add_full {answered : Answered}
    (hcomplete : ∀ x ∈ answered, x.2.status = .complete) :
    answered.accepted + answered.full = answered.length := by
  induction answered with
  | nil => rfl
  | cons x rest ih =>
      have hrest := ih fun y hy => hcomplete y (mem_cons_of_mem x hy)
      have hx := hcomplete x mem_cons_self
      obtain ⟨attempt, status, outcome⟩ := x
      simp only at hx
      subst hx
      simp only [accepted, full, countP_cons, length_cons] at hrest ⊢
      cases outcome with
      | accepted =>
          simp only [ProducerAttemptResult.isAccepted, ProducerAttemptResult.isFull] at hrest ⊢
          simp
          omega
      | full =>
          simp only [ProducerAttemptResult.isAccepted, ProducerAttemptResult.isFull] at hrest ⊢
          simp
          omega

variable {pv : List (Option Bool)}

/-- Complete attempts have placed as much as they report. -/
theorem placedAll_length {answered : Answered}
    (h : List.Forall₂ (fun x v => attemptAgrees x.2 v) answered pv)
    (hcomplete : ∀ x ∈ answered, x.2.status = .complete) :
    (F.placedAll answered pv).length = answered.accepted := by
  induction h with
  | nil => rfl
  | @cons x v rest pv hagree _ ih =>
      have hrest := ih fun y hy => hcomplete y (mem_cons_of_mem x hy)
      have hx := hcomplete x mem_cons_self
      have hcons : F.placedAll (x :: rest) (v :: pv) =
          placedBy (F.item x.1) v ++ F.placedAll rest pv := rfl
      obtain ⟨attempt, status, outcome⟩ := x
      simp only at hx
      subst hx
      rw [hcons, length_append, hrest]
      cases outcome with
      | accepted =>
          rw [show v = some true from hagree]
          simp [Answered.accepted, ProducerAttemptResult.isAccepted, placedBy]
          omega
      | full =>
          rw [show v = some false from hagree]
          simp [Answered.accepted, ProducerAttemptResult.isAccepted, placedBy]

variable {cv : List (Option (Option Item))}

/-- Polls that did not fail have taken as much as they report. -/
theorem takenAll_length {polls : List ConsumerPollResult} (h : List.Forall₂ pollAgrees polls cv)
    (hok : ∀ r ∈ polls, r.status ≠ .failure) :
    (takenAll cv).length = polls.countP (·.isItem) := by
  induction h with
  | nil => rfl
  | @cons r v rest cv hagree _ ih =>
      have hrest := ih fun y hy => hok y (mem_cons_of_mem r hy)
      have hr := hok r mem_cons_self
      have hcons : takenAll (v :: cv) =
          takenBy v ++ takenAll cv := rfl
      obtain ⟨status⟩ := r
      rw [hcons, length_append, hrest]
      cases status with
      | item =>
          obtain ⟨x, rfl⟩ : ∃ x, v = some (some x) := hagree
          simp [ConsumerPollResult.isItem, takenBy]
          omega
      | empty =>
          rw [show v = some none from hagree]
          simp [ConsumerPollResult.isItem, takenBy]
      | failure => exact absurd rfl hr

/-- An attempt places at most one item. -/
theorem placedAll_length_le (answered : Answered) (pv : List (Option Bool)) :
    (F.placedAll answered pv).length ≤ answered.length := by
  induction answered generalizing pv with
  | nil => simp [placedAll]
  | cons x rest ih =>
      cases pv with
      | nil => simp [placedAll]
      | cons v pv =>
          have hcons : F.placedAll (x :: rest) (v :: pv) =
              placedBy (F.item x.1) v ++ F.placedAll rest pv := rfl
          have hone := placedBy_length_le (F.item x.1) v
          have hrest := ih pv
          rw [hcons, length_append, length_cons]
          omega

/-- Every item a poll has returned was taken. -/
theorem items_le_takenAll {polls : List ConsumerPollResult} (h : List.Forall₂ pollAgrees polls cv) :
    polls.countP (·.isItem) ≤ (takenAll cv).length := by
  induction h with
  | nil => exact Nat.le_refl _
  | @cons r v rest cv hagree _ ih =>
      have hcons : takenAll (v :: cv) =
          takenBy v ++ takenAll cv := rfl
      obtain ⟨status⟩ := r
      rw [hcons, length_append, countP_cons]
      cases status with
      | item =>
          obtain ⟨x, rfl⟩ : ∃ x, v = some (some x) := hagree
          simp [ConsumerPollResult.isItem, takenBy] at ih ⊢
          omega
      | empty =>
          simp [ConsumerPollResult.isItem] at ih ⊢
          omega
      | failure =>
          simp [ConsumerPollResult.isItem] at ih ⊢
          omega

/-- A bounded FIFO hands out no more items than attempts have been begun. -/
theorem Execution.Delivers.items_le_begun {queue : List Item} {room : Nat}
    (h : e.Delivers F pv cv queue room) : e.items ≤ e.begun := by
  have hitems := items_le_takenAll h.history.dequeues
  have hplaced := placedAll_length_le (F := F) e.client.enqueued pv
  have hpending : (F.pending e.client.pcall).length ≤ e.client.pcall.toList.length := by
    cases e.client.pcall with
    | none => exact Nat.le_refl _
    | some pc => exact placedBy_length_le _ _
  have hbalance := congrArg List.length h.history.balance
  simp only [length_append] at hbalance
  unfold Execution.items Execution.begun
  omega

/-! ### Conservation -/

/-- Everything offered was attempted once and in order, and everything accepted was consumed. -/
structure Conserved (F : B.Fifo Item capacity init) (schedule : PreparedScheduleView)
    (e : Execution B) (report : MeasurementExecutionReport) : Prop where
  offered : report.offered.toNat = schedule.deadlineTicks.length
  attempted : report.attempted = report.offered
  split : report.accepted.toNat + report.full.toNat = report.offered.toNat
  accepted : report.accepted.toNat = Answered.accepted e.client.enqueued
  consumed : report.consumed = report.accepted
  items : report.consumed.toNat = e.items
  completed : report.producerCompleted = true
  drained : report.consumerDrained = true
  empty : e.client.pcall = none ∧ e.client.ccall = none ∧
    ∃ room, F.Sim e.client.state none none [] room
  deadlines : Answered.deadlines e.client.enqueued = schedule.deadlineTicks
  numbered : Answered.Numbered e.client.enqueued

namespace Execution

/-- Both workers have ended well. -/
theorem Consistent.succeeded (hc : e.Consistent schedule) {report : MeasurementExecutionReport}
    (hreport : e.report? = some report) (hnone : report.failureReason = .none) :
    (∃ origin, report =
        assembleReport schedule origin e.cancellation e.producer.state e.consumer.state) ∧
      e.producer.state.completed = true ∧ e.consumer.state.failure = .none ∧
      e.consumer.state.drained = true := by
  obtain ⟨hreleased, ⟨hp, hpnone⟩, hcr, hcnone⟩ := (hc.rootCause hreport).none_iff.mp hnone
  have hproducer := hc.producer
  have hconsumer := hc.consumer
  simp only [ProducerThread.Coherent, hp] at hproducer
  simp only [ConsumerThread.Coherent, hcr] at hconsumer
  have hunfailed : e.producerFailed = false := by
    rw [hc.flag]
    simp [ProducerThread.failureStored, hp, hpnone]
  refine ⟨?_, ?_, hcnone, ?_⟩
  · obtain ⟨-, -, ⟨hfalse, -⟩ | ⟨-, horigin⟩⟩ := hc.report_cases hreport
    · rw [hreleased] at hfalse
      cases hfalse
    · exact horigin
  · rcases hproducer with ⟨-, ⟨-, hdone⟩ | ⟨hne, -⟩, -⟩ | ⟨hnever, -⟩
    · exact hdone
    · exact absurd hpnone hne
    · rw [hpnone] at hnever
      cases hnever
  · rcases hconsumer with ⟨hnever, -⟩ | ⟨-, hbroke, -⟩ | ⟨-, -, -, ⟨hdrained, -⟩ | ⟨-, hfailed⟩⟩
    · rw [hcnone] at hnever
      cases hnever
    · rcases hbroke with hf | hf | hf <;> simp [hf] at hcnone
    · exact hdrained
    · rw [hunfailed] at hfailed
      cases hfailed

theorem Delivers.conserved {queue : List Item} {room : Nat} (h : e.Delivers F pv cv queue room)
    (hc : e.Consistent schedule) (ht : e.Tallied schedule) {report : MeasurementExecutionReport}
    (hreport : e.report? = some report) (hnone : report.failureReason = .none) :
    Conserved F schedule e report := by
  obtain ⟨⟨origin, rfl⟩, hdone, hcnone, hdrained⟩ := hc.succeeded hreport hnone
  obtain ⟨hp, hcr, -⟩ := hc.report_cases hreport
  have hprogress := ht.progress
  simp only [ProducerThread.Progress, hp] at hprogress
  obtain ⟨hdeadlines, hcomplete⟩ := hprogress hdone
  have hpcall : e.client.pcall = none := hc.pcall_none (by simp [hp])
  have hccall : e.client.ccall = none := hc.ccall_none (by simp [hcr])
  have hqueue := h.drained hdrained
  -- Nothing is in a call and nothing is queued: what was placed was taken.
  have hbalance := h.history.balance
  rw [hpcall, hccall, hqueue] at hbalance
  simp only [pending, inHand, append_nil] at hbalance
  have hitems : Answered.accepted e.client.enqueued = e.items := by
    rw [← placedAll_length h.history.enqueues hcomplete, hbalance,
      takenAll_length h.history.dequeues (ht.polls.failed hcnone)]
    rfl
  have hcounted : e.consumer.countedPolls e.client.dequeued = e.client.dequeued := by
    simp [ConsumerThread.countedPolls, hcnone]
  have hlength : e.client.enqueued.length = schedule.deadlineTicks.length := by
    rw [hdeadlines, Answered.deadlines, length_map]
  have hsplit := Answered.accepted_add_full hcomplete
  have hlt : schedule.deadlineTicks.length < UInt64.size := schedule.sizeLt
  obtain ⟨hattempted, haccepted, hfull⟩ := ht.counts
  have hconsumed : e.consumer.state.consumed = .ofNat e.items := by
    rw [ht.polls.consumed, hcounted]
    rfl
  have haccepted' : e.producer.state.accepted.toNat = Answered.accepted e.client.enqueued := by
    rw [haccepted, UInt64.toNat_ofNat_of_lt' (by omega)]
  have hfull' : e.producer.state.full.toNat = Answered.full e.client.enqueued := by
    rw [hfull, UInt64.toNat_ofNat_of_lt' (by omega)]
  have hoffered : (UInt64.ofNat schedule.deadlineTicks.length).toNat =
      schedule.deadlineTicks.length := UInt64.toNat_ofNat_of_lt' hlt
  refine
    { offered := hoffered
      attempted := ?_
      split := ?_
      accepted := haccepted'
      consumed := ?_
      items := ?_
      completed := hdone
      drained := hdrained
      empty := ⟨hpcall, hccall, room, ?_⟩
      deadlines := hdeadlines.symm
      numbered := ht.numbered }
  · show e.producer.state.attempted = .ofNat schedule.deadlineTicks.length
    rw [hattempted, hlength]
  · show e.producer.state.accepted.toNat + e.producer.state.full.toNat =
      (UInt64.ofNat schedule.deadlineTicks.length).toNat
    rw [haccepted', hfull', hoffered, hsplit, hlength]
  · show e.consumer.state.consumed = e.producer.state.accepted
    rw [hconsumed, haccepted, hitems]
  · show e.consumer.state.consumed.toNat = e.items
    rw [hconsumed, UInt64.toNat_ofNat_of_lt' (by omega)]
  · have hsim := h.history.sim
    rwa [hpcall, hccall, hqueue] at hsim

end Execution

/--
**Conservation.** A report without a failure accounts for every arrival: over any bounded
FIFO, any clock and any interleaving, all were attempted in order, and exactly what was
accepted was consumed.
-/
theorem measurement_conserves (B : Backend PIn CIn) (schedule : PreparedScheduleView)
    (limits : ExecutionLimits) (termination : TerminationControl) (capacity : Nat)
    (init : B.State) (F : B.Fifo Item capacity init) (e e' : Execution B)
    (report : MeasurementExecutionReport)
    (hok : executeMeasurement B schedule limits termination init = .ok e)
    (hreach : e.Reaches schedule limits e') (hreport : e'.report? = some report)
    (hnone : report.failureReason = .none) : Conserved F schedule e' report := by
  have hc := executeMeasurement_consistent hok hreach
  have ht := executeMeasurement_tallied hok hreach
  obtain ⟨-, -, rfl⟩ := executeMeasurement_ok hok
  obtain ⟨pv, cv, queue, room, h⟩ := hreach.delivers F
  exact h.conserved hc ht hreport hnone

/-- The plain bounded queue is one. -/
def boundedFifo (capacity : Nat) : (bounded capacity).Fifo ProducerAttempt capacity [] where
  item := id
  pDone _ := none
  cDone _ := none
  Sim s p _ queue room := s = queue ∧ queue.length ≤ room ∧ room = capacity ∧
    ∀ a call, p = some (a, call) → call = a
  sim_init := ⟨capacity, rfl, Nat.zero_le _, rfl, nofun⟩
  sim_bound h := ⟨h.2.1, Nat.le_of_eq h.2.2.1⟩
  p_begin a h := ⟨rfl, h.1, h.2.1, h.2.2.1, fun a' call hcall => by
    obtain ⟨rfl, rfl⟩ := Prod.mk.inj (Option.some.inj hcall)
    rfl⟩
  c_begin _ h := ⟨rfl, h⟩
  p_step := by
    rintro s a call c queue room s' out works ⟨rfl, hle, rfl, hcall⟩ hstep
    obtain rfl := hcall a call rfl
    change attemptStep room works s call = (s', out) at hstep
    unfold attemptStep at hstep
    split at hstep
    · obtain ⟨rfl, rfl⟩ := Prod.mk.inj hstep
      exact ⟨none, s, room, trivial, .idle (Nat.le_refl _), rfl, hle, rfl, nofun⟩
    · split at hstep
      · rename_i hlt
        obtain ⟨rfl, rfl⟩ := Prod.mk.inj hstep
        refine ⟨some true, _, room, rfl, .put hlt, rfl, ?_, rfl, nofun⟩
        exact Nat.le_trans (Nat.le_of_eq length_append) hlt
      · obtain ⟨rfl, rfl⟩ := Prod.mk.inj hstep
        exact ⟨some false, s, room, rfl, .full (by omega), rfl, hle, rfl, nofun⟩
  c_step := by
    rintro s p call queue room s' out works ⟨rfl, hle, rfl, hcall⟩ hstep
    change pollStep works s call = (s', out) at hstep
    unfold pollStep at hstep
    split at hstep
    · obtain ⟨rfl, rfl⟩ := Prod.mk.inj hstep
      exact ⟨none, s, trivial, .idle, rfl, hle, rfl, hcall⟩
    · cases s with
      | nil =>
          obtain ⟨rfl, rfl⟩ := Prod.mk.inj hstep
          exact ⟨some none, [], rfl, .empty, rfl, hle, rfl, hcall⟩
      | cons x rest =>
          obtain ⟨rfl, rfl⟩ := Prod.mk.inj hstep
          exact ⟨some (some x), rest, ⟨x, rfl⟩, .take, rfl, Nat.le_of_succ_le hle, rfl, hcall⟩

/-- The one arrival is consumed before the producer publishes, and the drain poll is empty. -/
theorem measurement_conserves_one :
    ∃ e report, (startOf 2).Reaches oneArrival onePoll e ∧
      e.report? = some report ∧ report.failureReason = .none ∧ report.consumed = 1 ∧
      Conserved (boundedFifo 2) oneArrival e report := by
  have hrun : ∃ e, (startOf 2).run? oneArrival onePoll
      (release ++ List.replicate 8 p ++ List.replicate 5 (c true) ++
        [p] ++ List.replicate 4 (c true) ++ List.replicate 3 k) = some e ∧
      ∃ report, e.report? = some report ∧ report.failureReason = .none ∧ report.consumed = 1 :=
    ⟨_, rfl, _, rfl, rfl, rfl⟩
  obtain ⟨e, hsteps, report, hreport, hnone, hconsumed⟩ := hrun
  have hreach := Execution.Reaches.of_run? hsteps
  exact ⟨e, report, hreach, hreport, hnone, hconsumed,
    measurement_conserves (bounded 2) oneArrival onePoll ⟨0⟩ 2 [] (boundedFifo 2)
      (startOf 2) e report rfl hreach hreport hnone⟩

end CpuPrefetch.Lifecycle
