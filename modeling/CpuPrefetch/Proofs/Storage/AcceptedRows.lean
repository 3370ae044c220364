/-
Which snapshots the decoder accepts.

`Codec` decodes canonical, valid rows, and `Canonical` finds the bytes of whatever was
decoded.  The decoder has checked two things more: that the rows are numbered as a run
numbers them, and that they break no rule.  So it accepts a snapshot, under the envelope
made for it, exactly when the snapshot is such rows.
-/
import CpuPrefetch.Proofs.Storage.Canonical

namespace CpuPrefetch.Storage

open Protocol
open Protocol (RunId StreamKind Result RawObservationEnvelope ProducerRecord ConsumerRecord)
open Timing (ProducerObservation ConsumerObservation makeProducerRecord makeConsumerRecord)

/-! ### The numbers of accepted rows -/

variable {counter : UInt64} {index : Nat} {runId : List UInt8}

theorem decodeProducerBody_fit {counter' : UInt64} {body : List UInt8} {row : DecodedProducerRow}
    (h : decodeProducerBody runId index counter body = .ok (row, counter')) :
    FitProducer index counter row.observation ∧
      counter' = nextAccepted counter row.observation := by
  unfold decodeProducerBody at h
  simp only at h
  split at h
  · cases h
  · rename_i hflags
    split at h
    · cases h
    · rename_i habsent
      obtain ⟨rfl, rfl⟩ := Prod.mk.inj (Except.ok.inj h)
      simp only [Bool.or_eq_true, Bool.and_eq_true, decide_eq_true_eq, not_or, not_and,
        not_not, ne_eq] at hflags habsent
      by_cases haccepted : wordAt body 14 = kProducerAcceptedFlags
      · have hordinal : wordAt body 13 = counter := habsent.1 haccepted
        refine ⟨⟨hflags.1, ?_, ?_⟩, ?_⟩
        · simp [haccepted, hordinal]
        · simp [haccepted]
        · simp [haccepted, nextAccepted]
      · refine ⟨⟨hflags.1, ?_, ?_⟩, ?_⟩
        · simp [haccepted]
        · simp [haccepted]
        · simp [haccepted, nextAccepted]

theorem decodeConsumerBody_fit {counter' : UInt64} {body : List UInt8} {row : DecodedConsumerRow}
    (h : decodeConsumerBody runId index counter body = .ok (row, counter')) :
    FitConsumer index counter row.observation ∧ counter' = counter := by
  unfold decodeConsumerBody at h
  split at h
  · cases h
  · rename_i hordinal
    obtain ⟨rfl, rfl⟩ := Prod.mk.inj (Except.ok.inj h)
    exact ⟨not_not.mp hordinal, rfl⟩

variable {Obs Row : Type}

/-- The rows that the loop returns are chained if each body is checked against its place. -/
theorem chained_of_decodeRows {observation : Row → Obs} {fit : Nat → UInt64 → Obs → Prop}
    {next : UInt64 → Obs → UInt64} {decodeBody : Nat → UInt64 → List UInt8 → Result (Row × UInt64)}
    {layout : RowLayout} {bytes : List UInt8} {rowBytes remaining : Nat} {rows : List Row}
    (hbody : ∀ index counter body decoded counter',
      decodeBody index counter body = .ok (decoded, counter') →
      fit index counter (observation decoded) ∧ counter' = next counter (observation decoded))
    (h : decodeRows decodeBody layout runId rowBytes bytes remaining index counter = .ok rows) :
    Chained fit next index counter (rows.map observation) := by
  induction remaining generalizing index counter rows with
  | zero =>
      obtain rfl := Except.ok.inj h
      trivial
  | succ remaining ih =>
      rw [decodeRows] at h
      split at h
      · cases h
      · obtain ⟨⟨decoded, counter'⟩, hdecoded, h⟩ := Fallible.bind_ok h
        obtain ⟨rest, hrest, h⟩ := Fallible.bind_ok h
        obtain rfl := Except.ok.inj h
        obtain ⟨hfit, rfl⟩ := hbody _ _ _ _ _ hdecoded
        exact ⟨hfit, ih hrest⟩

/-! ### The rules of accepted rows -/

/-- A rule that a row keeps is kept whatever the path in its message would be. -/
theorem validateProducer_path {row : ProducerRecord} {runId : RunId} {path : String}
    (h : validateProducer row runId path = []) (path' : String) :
    validateProducer row runId path' = [] := by
  simp only [validateProducer, List.append_eq_nil_iff, require_eq_nil] at h ⊢
  refine ⟨h.1, ?_⟩
  have hfields := h.2
  unfold acceptedFieldErrors at hfields ⊢
  split at hfields
  · split at hfields
    · simpa using hfields
    · cases hfields
  · simpa using hfields

theorem validateConsumer_path {row : ConsumerRecord} {runId : RunId} {path : String}
    (h : validateConsumer row runId path = []) (path' : String) :
    validateConsumer row runId path' = [] := by
  simp only [validateConsumer, List.append_eq_nil_iff, require_eq_nil] at h ⊢
  exact h

theorem validateRows_mem {validate : Row → RunId → String → List ValidationError}
    {runId : RunId}
    (hpath : ∀ row path, validate row runId path = [] → ∀ path', validate row runId path' = [])
    {rows : List Row} (h : validateRows validate runId index rows = []) :
    ∀ row ∈ rows, ∀ path, validate row runId path = [] := by
  induction rows generalizing index with
  | nil => exact nofun
  | cons row rest ih =>
      obtain ⟨hrow, hrest⟩ := List.append_eq_nil_iff.mp h
      intro r hmem
      rcases List.mem_cons.mp hmem with rfl | hmem
      · exact hpath r _ hrow
      · exact ih hrest r hmem

/-! ### Snapshots -/

/-- The snapshot is these rows of this kind, all of them and nothing else. -/
structure RawStreamSnapshot.Holds {Obs : Type} (snapshot : RawStreamSnapshot) (kind : StreamKind)
    (words : Obs → List UInt64) (rows : List Obs) : Prop where
  kind : snapshot.streamKind = kind
  count : (UInt64.ofNat snapshot.rowCount).toNat = rows.length
  size : snapshot.bytes.length ≤ u64Max
  bytes : ∃ layout, makeRowLayout snapshot.runId.value = .ok layout ∧
    snapshot.bytes = (rows.map fun row => rowImage layout snapshot.runId.value (words row)).flatten

/-- The snapshot is a producer stream whose rows are numbered as a run's and break no rule. -/
def RawStreamSnapshot.OfProducer (snapshot : RawStreamSnapshot) : Prop :=
  ∃ rows, snapshot.Holds .producer producerWords rows ∧ CanonicalProducers 0 0 rows ∧
    ∀ row ∈ rows, ∀ path, validateProducer (makeProducerRecord snapshot.runId row)
      snapshot.runId path = []

/-- The snapshot is a consumer stream whose rows are numbered as a run's and break no rule. -/
def RawStreamSnapshot.OfConsumer (snapshot : RawStreamSnapshot) : Prop :=
  ∃ rows, snapshot.Holds .consumer consumerWords rows ∧ CanonicalConsumers 0 0 rows ∧
    ∀ row ∈ rows, ∀ path, validateConsumer (makeConsumerRecord snapshot.runId row)
      snapshot.runId path = []

section Snapshots

variable {snapshot : RawStreamSnapshot} (sha256 : List UInt8 → String)

/-- The envelope made for a snapshot describes it. -/
theorem RawStreamSnapshot.Holds.names {kind : StreamKind} {words : Obs → List UInt64}
    {rows : List Obs} (h : snapshot.Holds kind words rows) :
    EnvelopeNames sha256 (externalRawEnvelope sha256 snapshot) kind snapshot.runId rows.length
      snapshot.bytes where
  storage := rfl
  format := rfl
  encoding := rfl
  timeUnit := rfl
  endianness := rfl
  compression := rfl
  version := rfl
  sources _ := rfl
  runId := rfl
  streamKind := h.kind
  rowCount := h.count
  byteCount := UInt64.toNat_ofNat_of_lt' (Nat.lt_of_le_pred (by decide) h.size)
  sha256 := rfl

theorem holds_decoded (observation : Row → Obs) {kind : StreamKind} {words : Obs → List UInt64}
    {layout : RowLayout} {decoded : List Row} (hkind : snapshot.streamKind = kind)
    (hsize : snapshot.bytes.length ≤ u64Max)
    (hlayout : makeRowLayout snapshot.runId.value = .ok layout)
    (hcount : decoded.length = (UInt64.ofNat snapshot.rowCount).toNat)
    (hbytes : snapshot.bytes = (decoded.map fun row =>
      rowImage layout snapshot.runId.value (words (observation row))).flatten) :
    snapshot.Holds kind words (decoded.map observation) where
  kind := hkind
  count := by rw [List.length_map, hcount]
  size := hsize
  bytes := by
    refine ⟨layout, hlayout, ?_⟩
    rw [List.map_map]
    exact hbytes

/-- **The decoder accepts a producer snapshot exactly when it is a run's producer rows.** -/
theorem decode_producer_iff (hkind : snapshot.streamKind = .producer) :
    (∃ stream, decodeExternalRaw sha256 (externalRawEnvelope sha256 snapshot) snapshot.bytes =
      .ok stream) ↔ snapshot.OfProducer := by
  constructor
  · rintro ⟨stream, h⟩
    obtain ⟨layout, hlayout, hlength, hmax, -, hstream, hvalid⟩ := decodeExternalRaw_ok h
    have himages := decodeStream_images (makeRowLayout_fits hlayout) hlength hstream
    simp only [decodeStream, externalRawEnvelope, hkind] at hstream
    obtain ⟨decoded, hdecoded, hrows⟩ := Fallible.map_ok hstream
    rw [← hrows] at himages hvalid
    obtain ⟨-, hcount, -, hbytes⟩ := himages
    have hrecords := validateRows_mem (fun _ _ => validateProducer_path)
      (List.append_eq_nil_iff.mp hvalid).2
    refine ⟨decoded.map DecodedProducerRow.observation,
      holds_decoded DecodedProducerRow.observation hkind hmax hlayout hcount hbytes,
      chained_of_decodeRows (fun _ _ _ _ _ => decodeProducerBody_fit) hdecoded, ?_⟩
    rw [List.forall_mem_map] at hrecords ⊢
    exact hrecords
  · rintro ⟨rows, hholds, hcanonical, hvalid⟩
    obtain ⟨layout, hlayout, hbytes⟩ := hholds.bytes
    exact ⟨_, decode_producer_images (hholds.names sha256) hlayout hbytes hholds.size hcanonical
      hvalid⟩

/-- **The decoder accepts a consumer snapshot exactly when it is a run's consumer rows.** -/
theorem decode_consumer_iff (hkind : snapshot.streamKind = .consumer) :
    (∃ stream, decodeExternalRaw sha256 (externalRawEnvelope sha256 snapshot) snapshot.bytes =
      .ok stream) ↔ snapshot.OfConsumer := by
  constructor
  · rintro ⟨stream, h⟩
    obtain ⟨layout, hlayout, hlength, hmax, -, hstream, hvalid⟩ := decodeExternalRaw_ok h
    have himages := decodeStream_images (makeRowLayout_fits hlayout) hlength hstream
    simp only [decodeStream, externalRawEnvelope, hkind] at hstream
    obtain ⟨decoded, hdecoded, hrows⟩ := Fallible.map_ok hstream
    rw [← hrows] at himages hvalid
    obtain ⟨-, hcount, -, hbytes⟩ := himages
    have hrecords := validateRows_mem (fun _ _ => validateConsumer_path)
      (List.append_eq_nil_iff.mp hvalid).2
    refine ⟨decoded.map DecodedConsumerRow.observation,
      holds_decoded DecodedConsumerRow.observation hkind hmax hlayout hcount hbytes,
      chained_of_decodeRows (fun _ _ _ _ _ => decodeConsumerBody_fit) hdecoded, ?_⟩
    rw [List.forall_mem_map] at hrecords ⊢
    exact hrecords
  · rintro ⟨rows, hholds, hcanonical, hvalid⟩
    obtain ⟨layout, hlayout, hbytes⟩ := hholds.bytes
    exact ⟨_, decode_consumer_images (hholds.names sha256) hlayout hbytes hholds.size hcanonical
      hvalid⟩

end Snapshots

end CpuPrefetch.Storage
