/-
The life of an observation stream, over any calls in any order.

The two classes differ in what they append, so a stream is taken here with the way it
appends; what one call can do is said once, in `Step`.  Every state a made stream reaches
is either untouched, with no row and no buffer to read, or it `Holds` rows.  Nothing is
written to a stream that is sealed, so whatever an overflow has sealed stays as it is.
-/
import CpuPrefetch.Lib.Fallible
import CpuPrefetch.Proofs.Storage.Streams

namespace CpuPrefetch.Storage

open ObservationStream
open Protocol (RunId StreamKind)
open Timing (ProducerObservation ConsumerObservation)

inductive StreamCall (Obs : Type) where
  | prepareForOwner
  | append (observation : Obs)
  | sealComplete
  | sealIncomplete

/-- How a stream appends an observation: it refuses it as it is, or commits its words. -/
structure Appending (kind : StreamKind) (Obs : Type) where
  append : ObservationStream kind → Obs → ObservationStream kind × AppendStatus
  words : Obs → List UInt64
  width : ∀ observation, (words observation).length = bodyWords kind
  spec : ∀ s observation,
    (∃ status, append s observation = (s, status) ∧ status ≠ .appended ∧
        status ≠ .bufferOverflow) ∨
      (s.control.prepared = true ∧ s.control.completeness = .writing ∧
        append s observation = s.commitRow (words observation))

theorem ProducerObservationStream.append_cases (s : ProducerObservationStream)
    (observation : ProducerObservation) :
    (∃ status, s.append observation = (s, status) ∧ status ≠ .appended ∧
        status ≠ .bufferOverflow) ∨
      (s.control.prepared = true ∧ s.control.completeness = .writing ∧
        s.append observation = s.commitRow (producerWords observation)) := by
  unfold ProducerObservationStream.append
  split
  · exact .inl ⟨_, rfl, nofun, nofun⟩
  · rename_i hprepared
    split
    · exact .inl ⟨_, rfl, nofun, nofun⟩
    · rename_i hwriting
      simp only
      split
      · exact .inl ⟨_, rfl, nofun, nofun⟩
      · exact .inr ⟨by simpa using hprepared, not_not.mp hwriting, rfl⟩

theorem ConsumerObservationStream.append_cases (s : ConsumerObservationStream)
    (observation : ConsumerObservation) :
    (∃ status, s.append observation = (s, status) ∧ status ≠ .appended ∧
        status ≠ .bufferOverflow) ∨
      (s.control.prepared = true ∧ s.control.completeness = .writing ∧
        s.append observation = s.commitRow (consumerWords observation)) := by
  unfold ConsumerObservationStream.append
  split
  · exact .inl ⟨_, rfl, nofun, nofun⟩
  · rename_i hprepared
    split
    · exact .inl ⟨_, rfl, nofun, nofun⟩
    · rename_i hwriting
      exact .inr ⟨by simpa using hprepared, not_not.mp hwriting, rfl⟩

def producerAppending : Appending .producer ProducerObservation where
  append := ProducerObservationStream.append
  words := producerWords
  width := length_producerWords
  spec := ProducerObservationStream.append_cases

def consumerAppending : Appending .consumer ConsumerObservation where
  append := ConsumerObservationStream.append
  words := consumerWords
  width := length_consumerWords
  spec := ConsumerObservationStream.append_cases

namespace Appending

variable {kind : StreamKind} {Obs : Type} (appending : Appending kind Obs)

/-- The stream after one call. -/
def after (s : ObservationStream kind) : StreamCall Obs → ObservationStream kind
  | .prepareForOwner => s.prepareForOwner.1
  | .append observation => (appending.append s observation).1
  | .sealComplete => s.sealComplete.1
  | .sealIncomplete => s.sealIncomplete

/-- The stream after these calls, in this order. -/
def run (s : ObservationStream kind) (calls : List (StreamCall Obs)) : ObservationStream kind :=
  calls.foldl appending.after s

/-! ### What one call can do -/

/-- A call leaves a stream as it is, or it is one of the five that a writing stream takes. -/
inductive Step (s : ObservationStream kind) : ObservationStream kind → Prop where
  | stay : Step s s
  | prepare (hunprepared : s.control.prepared = false)
      (hwriting : s.control.completeness = .writing) : Step s s.prepareForOwner.1
  | commit (observation : Obs) (hprepared : s.control.prepared = true)
      (hwriting : s.control.completeness = .writing)
      (hroom : s.control.rowCount ≠ s.control.rowCapacity) :
      Step s (s.commitRow (appending.words observation)).1
  | overflow (hprepared : s.control.prepared = true)
      (hwriting : s.control.completeness = .writing) :
      Step s { s with control :=
        { s.control with overflowed := true, completeness := .sealedIncomplete } }
  | sealComplete (hprepared : s.control.prepared = true)
      (hwriting : s.control.completeness = .writing) (hfine : s.control.overflowed = false) :
      Step s { s with control := { s.control with completeness := .sealedComplete } }
  | sealIncomplete (hwriting : s.control.completeness = .writing) :
      Step s { s with control := { s.control with completeness := .sealedIncomplete } }

theorem step_append (s : ObservationStream kind) (observation : Obs) :
    appending.Step s (appending.append s observation).1 := by
  rcases appending.spec s observation with ⟨status, h, -, -⟩ | ⟨hprepared, hwriting, h⟩
  · rw [h]
    exact .stay
  · rw [h]
    by_cases hroom : s.control.rowCount = s.control.rowCapacity
    · rw [commitRow, if_pos hroom]
      exact .overflow hprepared hwriting
    · exact .commit observation hprepared hwriting hroom

theorem step_after (s : ObservationStream kind) (call : StreamCall Obs) :
    appending.Step s (appending.after s call) := by
  cases call with
  | prepareForOwner =>
      by_cases h : s.control.prepared = false ∧ s.control.completeness = .writing
      · exact .prepare h.1 h.2
      · have hsame : s.prepareForOwner.1 = s := by
          rw [ObservationStream.prepareForOwner, if_pos]
          cases hprepared : s.control.prepared <;> simp_all
        rw [after, hsame]
        exact .stay
  | append observation => exact appending.step_append s observation
  | sealComplete =>
      rw [after, ObservationStream.sealComplete]
      split
      · exact .stay
      · rename_i h
        simp only [Bool.or_eq_true, Bool.not_eq_true', decide_eq_true_eq, not_or, ne_eq,
          not_not, Bool.not_eq_false, Bool.not_eq_true] at h
        exact .sealComplete h.1.1 h.1.2 h.2
  | sealIncomplete =>
      rw [after, ObservationStream.sealIncomplete]
      split
      · rename_i hwriting
        exact .sealIncomplete hwriting
      · exact .stay

/-- Nothing is done to a stream that is sealed. -/
theorem Step.of_sealed {s s' : ObservationStream kind} (h : appending.Step s s')
    (hsealed : s.control.completeness ≠ .writing) : s' = s := by
  cases h with
  | stay => rfl
  | prepare _ hwriting => exact absurd hwriting hsealed
  | commit _ _ hwriting _ => exact absurd hwriting hsealed
  | overflow _ hwriting => exact absurd hwriting hsealed
  | sealComplete _ hwriting _ => exact absurd hwriting hsealed
  | sealIncomplete hwriting => exact absurd hwriting hsealed

theorem run_sealed {s : ObservationStream kind} (hsealed : s.control.completeness ≠ .writing)
    (calls : List (StreamCall Obs)) : appending.run s calls = s := by
  induction calls with
  | nil => rfl
  | cons call rest ih =>
      rw [run, List.foldl_cons, (appending.step_after s call).of_sealed appending hsealed]
      exact ih

theorem run_append (s : ObservationStream kind) (calls later : List (StreamCall Obs)) :
    appending.run s (calls ++ later) = appending.run (appending.run s calls) later :=
  List.foldl_append

end Appending

/-! ### A made stream -/

section Made

variable {kind : StreamKind} {overflowMessage : String} {runId : RunId} {rowCapacity : UInt64}
  {made : ObservationStream kind}

/-- A stream as its constructor leaves it. -/
structure ObservationStream.Made (rowCapacity : UInt64) (made : ObservationStream kind) : Prop where
  prepared : made.control.prepared = false
  writing : made.control.completeness = .writing
  fine : made.control.overflowed = false
  empty : made.control.rowCount = 0
  blank : made.storage = []
  fits : made.layout.Fits made.runId.value
  capacity : made.control.rowCapacity = rowCapacity.toNat
  rowBytes : made.control.rowBytes = expectedRowBytes kind made.layout
  allocation : made.allocatedBytes = made.control.rowCapacity * made.control.rowBytes
  allocationLe : made.allocatedBytes ≤ u64Max
  ready : made.prepareForOwner.1.Holds []

theorem ObservationStream.construct_made
    (h : construct kind overflowMessage runId rowCapacity = .ok made) :
    made.Made rowCapacity ∧ made.runId = runId := by
  have hready := (prepared_holds h).1
  unfold construct at h
  obtain ⟨layout, hlayout, h⟩ := Fallible.bind_ok h
  split at h
  · cases h
  · rename_i allocatedBytes hsize
    obtain rfl := Except.ok.inj h
    obtain ⟨rfl, hle⟩ := checkedMultiply_eq hsize
    exact ⟨⟨rfl, rfl, rfl, rfl, rfl, makeRowLayout_fits hlayout, rfl, rfl, rfl, hle, hready⟩, rfl⟩

end Made

/-! ### Every state that is reached -/

namespace Appending

variable {kind : StreamKind} {Obs : Type} (appending : Appending kind Obs) {rowCapacity : UInt64}
  {made s s' : ObservationStream kind}

/-- The parts of a stream that no call changes. -/
structure SameShape (made s : ObservationStream kind) : Prop where
  runId : s.runId = made.runId
  layout : s.layout = made.layout
  capacity : s.control.rowCapacity = made.control.rowCapacity
  rowBytes : s.control.rowBytes = made.control.rowBytes

theorem Step.sameShape (h : appending.Step s s') : SameShape s s' := by
  cases h with
  | prepare _ _ =>
      unfold prepareForOwner
      split <;> exact ⟨rfl, rfl, rfl, rfl⟩
  | commit _ _ _ _ =>
      unfold commitRow
      split <;> exact ⟨rfl, rfl, rfl, rfl⟩
  | stay | overflow _ _ | sealComplete _ _ _ | sealIncomplete _ => exact ⟨rfl, rfl, rfl, rfl⟩

theorem SameShape.trans (h : SameShape made s) (h' : SameShape s s') : SameShape made s' :=
  ⟨h'.runId.trans h.runId, h'.layout.trans h.layout, h'.capacity.trans h.capacity,
    h'.rowBytes.trans h.rowBytes⟩

/-- A stream that no owner has prepared: as it was made, or given up since. -/
def Untouched (made s : ObservationStream kind) : Prop :=
  s = made ∨ s = { made with control := { made.control with completeness := .sealedIncomplete } }

/-- What holds of a stream after any calls. -/
structure Sound (made s : ObservationStream kind) : Prop where
  rows : Untouched made s ∨ ∃ rows, s.Holds rows
  overflow : s.control.overflowed = true → s.control.completeness = .sealedIncomplete
  shape : SameShape made s

namespace Sound

/-- A prepared stream holds rows. -/
theorem holds (hmade : made.Made rowCapacity) (h : Sound made s)
    (hprepared : s.control.prepared = true) : ∃ rows, s.Holds rows := by
  rcases h.rows with (rfl | rfl) | hrows
  · exact absurd hprepared (by simp [hmade.prepared])
  · exact absurd hprepared (by simp [hmade.prepared])
  · exact hrows

/-- A stream that is still to be prepared is as it was made. -/
theorem eq_made (h : Sound made s) (hprepared : s.control.prepared = false)
    (hwriting : s.control.completeness = .writing) : s = made := by
  rcases h.rows with (rfl | rfl) | ⟨rows, hrows⟩
  · rfl
  · cases hwriting
  · rw [hrows.prepared] at hprepared
    cases hprepared

theorem step (hmade : made.Made rowCapacity) (h : Sound made s)
    (hstep : appending.Step s s') : Sound made s' := by
  have hshape := h.shape.trans (hstep.sameShape appending)
  cases hstep with
  | stay => exact h
  | prepare hprepared hwriting =>
      obtain rfl := h.eq_made hprepared hwriting
      refine ⟨.inr ⟨[], hmade.ready⟩, ?_, hshape⟩
      rw [prepareForOwner, if_neg (by simp [hprepared, hwriting])]
      exact h.overflow
  | commit observation hprepared hwriting hroom =>
      obtain ⟨rows, hrows⟩ := h.holds hmade hprepared
      refine ⟨.inr ?_, ?_, hshape⟩
      · rcases hrows.commitRow (appending.width observation) with ⟨-, hmore⟩ | ⟨-, hsame⟩
        · exact ⟨_, hmore⟩
        · exact ⟨_, hsame⟩
      · rw [commitRow, if_neg hroom]
        exact h.overflow
  | overflow hprepared hwriting =>
      obtain ⟨rows, hrows⟩ := h.holds hmade hprepared
      exact ⟨.inr ⟨rows, hrows.reflag true .sealedIncomplete⟩, fun _ => rfl, hshape⟩
  | sealComplete hprepared hwriting hfine =>
      obtain ⟨rows, hrows⟩ := h.holds hmade hprepared
      refine ⟨.inr ⟨rows, hrows.reflag _ .sealedComplete⟩, ?_, hshape⟩
      intro hoverflowed
      exact absurd hoverflowed (by simp [hfine])
  | sealIncomplete hwriting =>
      refine ⟨?_, fun _ => rfl, hshape⟩
      rcases h.rows with (rfl | rfl) | ⟨rows, hrows⟩
      · exact .inl (.inr rfl)
      · cases hwriting
      · exact .inr ⟨rows, hrows.reflag _ .sealedIncomplete⟩

end Sound

theorem sound_run (hmade : made.Made rowCapacity) (calls : List (StreamCall Obs)) :
    Sound made (appending.run made calls) := by
  induction calls using List.reverseRecOn with
  | nil =>
      refine ⟨.inl (.inl rfl), ?_, ⟨rfl, rfl, rfl, rfl⟩⟩
      intro hoverflowed
      exact absurd hoverflowed (by simp [run, hmade.fine])
  | append_singleton calls call ih =>
      rw [run_append]
      exact ih.step appending hmade (appending.step_after _ call)

/-! ### Snapshots -/

/-- The snapshot is these rows, encoded one after another. -/
structure Shows (made s : ObservationStream kind) (rows : List (List UInt64)) : Prop where
  bytes : s.snapshot.bytes = (rows.map (rowImage made.layout made.runId.value)).flatten
  count : s.control.rowCount = rows.length
  capacity : rows.length ≤ made.control.rowCapacity
  width : ∀ words ∈ rows,
    (rowImage made.layout made.runId.value words).length = made.control.rowBytes

theorem Shows.of_holds (hshape : SameShape made s) {rows : List (List UInt64)}
    (h : s.Holds rows) : Shows made s rows where
  bytes := by
    rw [h.snapshot_bytes, encoded, hshape.layout, hshape.runId]
  count := h.count
  capacity := hshape.capacity ▸ h.capacity
  width words hwords := by
    rw [← hshape.layout, ← hshape.runId, ← hshape.rowBytes]
    exact h.length_rowImage (h.width words hwords)

theorem Sound.shows (hmade : made.Made rowCapacity) (h : Sound made s) :
    ∃ rows, Shows made s rows := by
  rcases h.rows with huntouched | ⟨rows, hrows⟩
  · refine ⟨[], ?_, ?_, Nat.zero_le _, nofun⟩
    · rcases huntouched with rfl | rfl <;> simp [snapshot, hmade.blank]
    · rcases huntouched with rfl | rfl <;> exact hmade.empty
  · exact ⟨rows, .of_holds h.shape hrows⟩

/-- A call leaves the committed bytes as they are, and may put a row after them. -/
theorem Sound.step_kept (hmade : made.Made rowCapacity) (h : Sound made s)
    (hstep : appending.Step s s') : s.snapshot.bytes <+: s'.snapshot.bytes := by
  cases hstep with
  | stay | overflow _ _ | sealComplete _ _ _ | sealIncomplete _ => exact List.prefix_rfl
  | prepare hprepared hwriting =>
      obtain rfl := h.eq_made hprepared hwriting
      simp [snapshot, hmade.blank]
  | commit observation hprepared hwriting hroom =>
      obtain ⟨rows, hrows⟩ := h.holds hmade hprepared
      have hshape := (Step.commit observation hprepared hwriting hroom).sameShape appending
      rw [(Shows.of_holds ⟨rfl, rfl, rfl, rfl⟩ hrows).bytes]
      rcases hrows.commitRow (appending.width observation) with ⟨-, hmore⟩ | ⟨-, hsame⟩
      · rw [(Shows.of_holds hshape hmore).bytes, List.map_append, List.flatten_append]
        exact List.prefix_append _ _
      · rw [(Shows.of_holds hshape hsame).bytes]

theorem run_kept (hmade : made.Made rowCapacity) (calls later : List (StreamCall Obs)) :
    (appending.run made calls).snapshot.bytes <+:
      (appending.run made (calls ++ later)).snapshot.bytes := by
  induction later using List.reverseRecOn with
  | nil => rw [List.append_nil]
  | append_singleton later call ih =>
      rw [← List.append_assoc, run_append _ _ (calls ++ later) [call]]
      exact ih.trans ((appending.sound_run hmade _).step_kept appending hmade
        (appending.step_after _ call))

/-! ### Refusals and overflow -/

/-- An append that is refused leaves the rows as they are; one that overflows also seals. -/
theorem append_refused {observation : Obs} (h : (appending.append s observation).2 ≠ .appended) :
    (appending.append s observation).1.control.rowCount = s.control.rowCount ∧
      (appending.append s observation).1.storage = s.storage ∧
      ((appending.append s observation).2 = .bufferOverflow →
        (appending.append s observation).1.control.completeness = .sealedIncomplete) := by
  rcases appending.spec s observation with ⟨status, heq, -, hstatus⟩ | ⟨-, -, heq⟩
  · rw [heq]
    exact ⟨rfl, rfl, fun hoverflow => absurd hoverflow hstatus⟩
  · rw [heq] at h ⊢
    by_cases hroom : s.control.rowCount = s.control.rowCapacity
    · rw [commitRow, if_pos hroom]
      exact ⟨rfl, rfl, fun _ => rfl⟩
    · rw [commitRow, if_neg hroom] at h
      exact absurd rfl h

/-- A sealed stream takes no row. -/
theorem append_sealed (hsealed : s.control.completeness ≠ .writing) (observation : Obs) :
    (appending.append s observation).2 ≠ .appended := by
  rcases appending.spec s observation with ⟨status, heq, hstatus, -⟩ | ⟨-, hwriting, -⟩
  · rw [heq]
    exact hstatus
  · exact absurd hwriting hsealed

/-- What is promised of a made stream after these calls. -/
structure Lifecycle (made : ObservationStream kind) (calls : List (StreamCall Obs)) : Prop where
  shows : ∃ rows, Shows made (appending.run made calls) rows
  /-- No offset of a row that there is room for wraps, or leaves the allocation. -/
  offsets : (appending.run made calls).control.rowCount < made.control.rowCapacity →
    (appending.run made calls).control.rowCount * made.control.rowBytes +
        made.layout.prefixBytes + bodyWords kind * 8 ≤ made.allocatedBytes ∧
      made.allocatedBytes ≤ u64Max
  kept : ∀ later, (appending.run made calls).snapshot.bytes <+:
    (appending.run made (calls ++ later)).snapshot.bytes
  refused : ∀ observation,
    (appending.append (appending.run made calls) observation).2 ≠ .appended →
      (appending.append (appending.run made calls) observation).1.control.rowCount =
          (appending.run made calls).control.rowCount ∧
        (appending.append (appending.run made calls) observation).1.snapshot.bytes =
          (appending.run made calls).snapshot.bytes
  overflowed : ∀ observation,
    (appending.append (appending.run made calls) observation).2 = .bufferOverflow →
      ∀ later, (appending.run made (calls ++ .append observation :: later)).control.completeness =
        .sealedIncomplete
  closed : (appending.run made calls).control.completeness ≠ .writing →
    (∀ observation, (appending.append (appending.run made calls) observation).2 ≠ .appended) ∧
      ∀ later, appending.run made (calls ++ later) = appending.run made calls

theorem lifecycle (hmade : made.Made rowCapacity) (calls : List (StreamCall Obs)) :
    appending.Lifecycle made calls where
  shows := (appending.sound_run hmade calls).shows hmade
  offsets hroom := by
    refine ⟨?_, hmade.allocationLe⟩
    have hrow := hmade.fits.rowBytes kind
    rw [← hmade.rowBytes] at hrow
    calc (appending.run made calls).control.rowCount * made.control.rowBytes +
          made.layout.prefixBytes + bodyWords kind * 8
        = ((appending.run made calls).control.rowCount + 1) * made.control.rowBytes := by
          rw [Nat.succ_mul, Nat.add_assoc, ← hrow]
      _ ≤ made.control.rowCapacity * made.control.rowBytes := Nat.mul_le_mul_right _ hroom
      _ = made.allocatedBytes := hmade.allocation.symm
  kept := appending.run_kept hmade calls
  refused observation h := by
    obtain ⟨hcount, hstorage, -⟩ := appending.append_refused h
    have hshape :=
      (appending.step_append (appending.run made calls) observation).sameShape appending
    refine ⟨hcount, ?_⟩
    simp only [snapshot, hcount, hstorage, hshape.rowBytes]
  overflowed observation h later := by
    have hsealed := (appending.append_refused (by simp [h])).2.2 h
    have hclosed :
      (appending.append (appending.run made calls) observation).1.control.completeness ≠
        .writing := by simp [hsealed]
    have hsplit : appending.run made (calls ++ .append observation :: later) =
        appending.run (appending.append (appending.run made calls) observation).1 later := by
      rw [run_append]
      rfl
    rw [hsplit, appending.run_sealed hclosed later]
    exact hsealed
  closed hsealed :=
    ⟨appending.append_sealed hsealed, fun later => by
      rw [run_append, appending.run_sealed hsealed later]⟩

end Appending

/--
**The life of a stream.**  Whatever is called on a stream, in whatever order: it shows whole
rows, no more than fit; what it shows stays; a refused append changes none of it; and an
overflow seals it for good.
-/
theorem stream_lifecycle (runId : RunId) (rowCapacity : UInt64) :
    (∀ made, ProducerObservationStream.construct runId rowCapacity = .ok made →
      made.control.rowCapacity = rowCapacity.toNat ∧
        ∀ calls, producerAppending.Lifecycle made calls) ∧
    ∀ made, ConsumerObservationStream.construct runId rowCapacity = .ok made →
      made.control.rowCapacity = rowCapacity.toNat ∧
        ∀ calls, consumerAppending.Lifecycle made calls := by
  constructor
  · intro made h
    have hmade := (construct_made h).1
    exact ⟨hmade.capacity, producerAppending.lifecycle hmade⟩
  · intro made h
    have hmade := (construct_made h).1
    exact ⟨hmade.capacity, consumerAppending.lifecycle hmade⟩

/-- Two polls into a stream with room for one row: the second overflows. -/
theorem stream_lifecycle_overflow :
    ∃ made, ConsumerObservationStream.construct ⟨[114], nofun⟩ 1 = .ok made ∧
      made.control.rowCapacity = 1 ∧
      consumerAppending.Lifecycle made [.prepareForOwner,
        .append ⟨0, 3, ⟨5, 16⟩, ⟨6, 17⟩, ⟨7, 18⟩, ⟨8, 19⟩⟩,
        .append ⟨1, 4, ⟨9, 20⟩, ⟨10, 21⟩, ⟨11, 22⟩, ⟨12, 23⟩⟩, .sealIncomplete] := by
  obtain ⟨made, hmade⟩ : ∃ made, ConsumerObservationStream.construct ⟨[114], nofun⟩ 1 = .ok made :=
    ⟨_, rfl⟩
  obtain ⟨hcapacity, hcalls⟩ := (stream_lifecycle _ _).2 made hmade
  exact ⟨made, hmade, hcapacity, hcalls _⟩

end CpuPrefetch.Storage
