/-
Round trips of the raw format.

A prepared stream that has room commits every row it is given, in order; so its
snapshot is the rows' images, and `Codec` and `Canonical` decode these and encode them
again.
-/
import CpuPrefetch.Proofs.Storage.Canonical

namespace CpuPrefetch.Storage

open List
open Protocol (RunId StreamKind ProducerOutcome Result RawObservationEnvelope JoinedRecord)
open Timing (ProducerObservation ConsumerObservation makeProducerRecord makeConsumerRecord)

/-! ### Filling a stream -/

/-- The stream after appending these rows, whatever each append answers. -/
def appendAll {S Obs : Type} (append : S → Obs → S × AppendStatus) (s : S) (rows : List Obs) : S :=
  rows.foldl (fun s row => (append s row).1) s

namespace ObservationStream

variable {kind : StreamKind} {s : ObservationStream kind} {runId : RunId} {total : Nat}
  {rows : List (List UInt64)}

/-- The stream of this run holds these rows and takes more. -/
structure Writing (s : ObservationStream kind) (runId : RunId) (total : Nat)
    (rows : List (List UInt64)) : Prop extends s.Holds rows where
  writing : s.control.completeness = .writing
  ofRun : s.runId = runId
  ofCapacity : s.control.rowCapacity = total

theorem construct_prepared {overflowMessage : String} {rowCapacity : UInt64}
    (h : construct kind overflowMessage runId rowCapacity = .ok s) :
    s.prepareForOwner.1.Writing runId rowCapacity.toNat [] := by
  obtain ⟨hholds, hwriting⟩ := prepared_holds h
  obtain ⟨layout, -, h⟩ := Fallible.bind_ok h
  split at h
  · cases h
  · obtain rfl := Except.ok.inj h
    exact { toHolds := hholds, writing := hwriting, ofRun := rfl, ofCapacity := rfl }

theorem Writing.commitRow (h : s.Writing runId total rows) {words : List UInt64}
    (hwidth : words.length = bodyWords kind) (hroom : rows.length < total) :
    (s.commitRow words).1.Writing runId total (rows ++ [words]) := by
  have hlt : ¬s.control.rowCount = s.control.rowCapacity := by
    rw [h.count, h.ofCapacity]
    omega
  have hcommitted := h.toHolds.commitRow hwidth
  unfold ObservationStream.commitRow Committed at *
  rw [if_neg hlt] at *
  rcases hcommitted with ⟨-, hholds⟩ | ⟨hne, -⟩
  · exact { toHolds := hholds, writing := h.writing, ofRun := h.ofRun, ofCapacity := h.ofCapacity }
  · exact absurd rfl hne

/-- Rows that there is room for are all committed. -/
theorem Writing.appendAll {Obs : Type} {words : Obs → List UInt64} {good : Obs → Prop}
    {append : ObservationStream kind → Obs → ObservationStream kind × AppendStatus}
    (happend : ∀ (s : ObservationStream kind) obs, s.control.prepared = true →
      s.control.completeness = .writing → good obs → append s obs = s.commitRow (words obs))
    (hwidth : ∀ obs, (words obs).length = bodyWords kind) (observations : List Obs)
    (hgood : ∀ obs ∈ observations, good obs) (h : s.Writing runId total rows)
    (hroom : rows.length + observations.length ≤ total) :
    (Storage.appendAll append s observations).Writing runId total
      (rows ++ observations.map words) := by
  induction observations generalizing s rows with
  | nil => simpa [Storage.appendAll] using h
  | cons obs rest ih =>
      rw [length_cons] at hroom
      have hstep := h.commitRow (hwidth obs) (by omega)
      rw [← happend s obs h.prepared h.writing (hgood obs mem_cons_self)] at hstep
      have hrest := ih (fun o ho => hgood o (mem_cons_of_mem obs ho)) hstep
        (by rw [length_append, length_singleton]; omega)
      rwa [append_assoc, singleton_append] at hrest

/-- A snapshot is the images of the rows appended. -/
theorem Writing.snapshot (h : s.Writing runId total rows) {layout : RowLayout}
    (hlayout : makeRowLayout runId.value = .ok layout) :
    s.snapshot.bytes = (rows.map (rowImage layout runId.value)).flatten := by
  obtain rfl := h.ofRun
  obtain rfl : s.layout = layout := Except.ok.inj (h.layout.symm.trans hlayout)
  exact h.snapshot_bytes

end ObservationStream

open ObservationStream

theorem ProducerObservationStream.append_eq (s : ProducerObservationStream)
    (row : ProducerObservation) (hprepared : s.control.prepared = true)
    (hwriting : s.control.completeness = .writing) (h : AcceptedFields row) :
    s.append row = s.commitRow (producerWords row) := by
  simp [ProducerObservationStream.append, hprepared, hwriting, h.linearization, h.ordinal]

theorem ConsumerObservationStream.append_eq (s : ConsumerObservationStream)
    (row : ConsumerObservation) (hprepared : s.control.prepared = true)
    (hwriting : s.control.completeness = .writing) (_ : True) :
    s.append row = s.commitRow (consumerWords row) := by
  simp [ConsumerObservationStream.append, hprepared, hwriting]

section Filled

variable {runId : RunId} {rowCapacity : UInt64} {layout : RowLayout}

/-- The snapshot of a producer stream that had room for these rows. -/
theorem ProducerObservationStream.filled {s : ProducerObservationStream}
    (h : ProducerObservationStream.construct runId rowCapacity = .ok s)
    (hlayout : makeRowLayout runId.value = .ok layout) (rows : List ProducerObservation)
    (hfields : ∀ row ∈ rows, AcceptedFields row) (hroom : rows.length ≤ rowCapacity.toNat) :
    (appendAll ProducerObservationStream.append s.prepareForOwner.1 rows).Writing runId
        rowCapacity.toNat (rows.map producerWords) ∧
      (appendAll ProducerObservationStream.append s.prepareForOwner.1 rows).snapshot.bytes =
        (rows.map fun row => rowImage layout runId.value (producerWords row)).flatten := by
  have hwriting := Writing.appendAll ProducerObservationStream.append_eq length_producerWords rows
    hfields (construct_prepared h) (by simpa using hroom)
  have hsnapshot := hwriting.snapshot hlayout
  rw [nil_append, map_map] at hsnapshot
  exact ⟨hwriting, hsnapshot⟩

/-- The snapshot of a consumer stream that had room for these rows. -/
theorem ConsumerObservationStream.filled {s : ConsumerObservationStream}
    (h : ConsumerObservationStream.construct runId rowCapacity = .ok s)
    (hlayout : makeRowLayout runId.value = .ok layout) (rows : List ConsumerObservation)
    (hroom : rows.length ≤ rowCapacity.toNat) :
    (appendAll ConsumerObservationStream.append s.prepareForOwner.1 rows).Writing runId
        rowCapacity.toNat (rows.map consumerWords) ∧
      (appendAll ConsumerObservationStream.append s.prepareForOwner.1 rows).snapshot.bytes =
        (rows.map fun row => rowImage layout runId.value (consumerWords row)).flatten := by
  have hwriting := Writing.appendAll ConsumerObservationStream.append_eq length_consumerWords rows
    (fun _ _ => trivial) (construct_prepared h) (by simpa using hroom)
  have hsnapshot := hwriting.snapshot hlayout
  rw [nil_append, map_map] at hsnapshot
  exact ⟨hwriting, hsnapshot⟩

end Filled

/-! ### Contiguous numbers -/

/-- The values count up from zero. -/
def Contiguous (values : List UInt64) : Prop :=
  ∀ (index : Nat) (value : UInt64), values[index]? = some value → value.toNat = index

/-- A row that breaks no rule has the fields of its outcome. -/
theorem acceptedFields_of_valid {runId : RunId} {row : ProducerObservation} {path : String}
    (h : Protocol.validateProducer (makeProducerRecord runId row) runId path = []) :
    AcceptedFields row := by
  have hfields := (List.append_eq_nil_iff.mp h).2
  unfold Protocol.acceptedFieldErrors makeProducerRecord at hfields
  cases houtcome : row.outcome with
  | accepted =>
      cases hlinearization : row.enqueueLinearization with
      | none => simp [houtcome, hlinearization] at hfields
      | some linearization =>
          cases hordinal : row.acceptedOrdinal with
          | none => simp [houtcome, hlinearization, hordinal] at hfields
          | some ordinal =>
              exact ⟨by simp [houtcome, hlinearization], by simp [houtcome, hordinal]⟩
  | full =>
      simp only [houtcome, Protocol.require_eq_nil, Bool.not_eq_true', Bool.or_eq_false_iff,
        Option.isSome_map] at hfields
      exact ⟨by simpa [houtcome] using hfields.1, by simpa [houtcome] using hfields.2⟩

/-- Contiguous sequences and accepted ordinals are canonical rows. -/
theorem canonicalProducers {rows : List ProducerObservation} (index accepted : Nat)
    (hfields : ∀ row ∈ rows, AcceptedFields row)
    (hsequences : ∀ k sequence, (rows.map fun row => row.logicalSequence)[k]? = some sequence →
      sequence.toNat = index + k)
    (hordinals : ∀ k ordinal, (rows.filterMap fun row => row.acceptedOrdinal)[k]? = some ordinal →
      ordinal.toNat = accepted + k) :
    CanonicalProducers index (.ofNat accepted) rows := by
  induction rows generalizing index accepted with
  | nil => trivial
  | cons row rest ih =>
      have hrow := hfields row mem_cons_self
      have hrest := fun r hr => hfields r (mem_cons_of_mem row hr)
      have hlater : ∀ k sequence, (rest.map fun row => row.logicalSequence)[k]? = some sequence →
          sequence.toNat = index + 1 + k := by
        intro k sequence hget
        rw [hsequences (k + 1) sequence hget]
        omega
      cases houtcome : row.outcome with
      | accepted =>
          obtain ⟨ordinal, hordinal⟩ : ∃ ordinal, row.acceptedOrdinal = some ordinal := by
            simpa [houtcome, Option.isSome_iff_exists] using hrow.ordinal
          rw [filterMap_cons, hordinal] at hordinals
          have hfirst : ordinal = .ofNat accepted := by
            have hvalue : ordinal.toNat = accepted := hordinals 0 ordinal rfl
            rw [← hvalue, UInt64.ofNat_toNat]
          have hnext : nextAccepted (.ofNat accepted) row = .ofNat (accepted + 1) := by
            rw [nextAccepted, if_pos houtcome, UInt64.ofNat_add]
            rfl
          refine ⟨⟨hsequences 0 _ rfl, ?_, hrow.linearization⟩, ?_⟩
          · rw [if_pos houtcome, hordinal, hfirst]
          · rw [hnext]
            refine ih (index + 1) (accepted + 1) hrest hlater ?_
            intro k value hget
            rw [hordinals (k + 1) value hget]
            omega
      | full =>
          have hnone : row.acceptedOrdinal = none := by simpa [houtcome] using hrow.ordinal
          rw [filterMap_cons, hnone] at hordinals
          have hnext : nextAccepted (.ofNat accepted) row = .ofNat accepted := by
            rw [nextAccepted, houtcome, if_neg (by decide), UInt64.add_zero]
          refine ⟨⟨hsequences 0 _ rfl, ?_, hrow.linearization⟩, ?_⟩
          · rw [houtcome, if_neg (by decide), hnone]
          · rw [hnext]
            exact ih (index + 1) accepted hrest hlater hordinals

/-- Rows that each fit their position are chained, whatever the counter. -/
theorem chained_positions {Row : Type} {fit : Nat → UInt64 → Row → Prop} {rows : List Row}
    (index : Nat) (counter : UInt64)
    (h : ∀ k row, rows[k]? = some row → fit (index + k) counter row) :
    Chained fit (fun counter _ => counter) index counter rows := by
  induction rows generalizing index with
  | nil => trivial
  | cons row rest ih =>
      refine ⟨h 0 row rfl, ih (index + 1) ?_⟩
      intro k r hget
      have hindex : index + 1 + k = index + (k + 1) := by omega
      rw [hindex]
      exact h (k + 1) r hget

/-! ### An example: one accepted arrival, one that found the queue full, and the joined row -/

def exampleRun : RunId := ⟨[114], nofun⟩

/-- The SHA-256 digests of the three example artifacts. -/
def exampleDigest (bytes : List UInt8) : String :=
  if bytes.length = 256 then "78cf9f6f07815eedf24b7a03091458167d519fe25bd61547434deac8b896cbef"
  else if bytes.length = 88 then "b4b10921a1af314163fe5cd517551913b88e953dcc32e0d9a2b18432dca7b899"
  else "4968f36237d9cb084de6eb595117df56fce950499dd4f5bdb219e47b495853ae"

def exampleProducerRows : List ProducerObservation :=
  [⟨0, 3, 10, ⟨1, 11⟩, ⟨2, 12⟩, ⟨3, 13⟩, some ⟨4, 14⟩, ⟨5, 15⟩, .accepted, some 0⟩,
    ⟨1, 4, 20, ⟨6, 21⟩, ⟨7, 22⟩, ⟨8, 23⟩, none, ⟨9, 24⟩, .full, none⟩]

def exampleConsumerRows : List ConsumerObservation :=
  [⟨0, 3, ⟨5, 16⟩, ⟨6, 17⟩, ⟨7, 18⟩, ⟨8, 19⟩⟩]

def exampleJoinedRows : List JoinedRecord :=
  [⟨exampleRun, 0, 0, 3, 0, 0, 10, 11, 12, 13, 14, 15, 16, 17, 18, 19, 1, 1, 2, 4, 3, 2, 2, 1, 9⟩]

/-- The joined row, encoded. -/
def exampleJoinedBytes : List UInt8 :=
  [1, 0, 0, 0, 114, 0, 0, 0] ++
    storeWords [0, 0, 3, 0, 0, 10, 11, 12, 13, 14, 15, 16, 17, 18, 19, 1, 1, 2, 4, 3, 2, 2, 1, 9]

/-- An envelope that describes these bytes. -/
def exampleEnvelope (kind : StreamKind) (rowCount : UInt64) (bytes : List UInt8) :
    RawObservationEnvelope where
  protocolVersion := .v200pre2
  runId := exampleRun
  streamKind := kind
  logicalRowSchemaVersion := .v200pre2
  physicalFormatRecordId := kRawFormatId
  encoding := kRawEncoding
  timeUnit := kRawTimeUnit
  endianness := .littleEndian
  compression := kRawCompression
  rowCount := rowCount
  byteCount := .ofNat bytes.length
  storage := .external
  sourceArtifacts := []
  artifactSha256 := exampleDigest bytes

theorem exampleEnvelope_names {kind : StreamKind} {rowCount : UInt64} {bytes : List UInt8}
    (hlength : bytes.length < 2 ^ 64) :
    EnvelopeNames exampleDigest (exampleEnvelope kind rowCount bytes) kind exampleRun
      rowCount.toNat bytes where
  storage := rfl
  format := rfl
  encoding := rfl
  timeUnit := rfl
  endianness := rfl
  compression := rfl
  version := rfl
  sources _ := rfl
  runId := rfl
  streamKind := rfl
  rowCount := rfl
  byteCount := UInt64.toNat_ofNat_of_lt' hlength
  sha256 := rfl

/-! ### Round trips -/

/-- The encoder of the rows' kind, with room for exactly these rows. -/
def reencode (runId : RunId) : DecodedRows → Setup (List UInt8)
  | .producer rows => do
      let s ← ProducerObservationStream.construct runId (.ofNat rows.length)
      pure (appendAll ProducerObservationStream.append s.prepareForOwner.1
        (rows.map fun row => row.observation)).snapshot.bytes
  | .consumer rows => do
      let s ← ConsumerObservationStream.construct runId (.ofNat rows.length)
      pure (appendAll ConsumerObservationStream.append s.prepareForOwner.1
        (rows.map fun row => row.observation)).snapshot.bytes
  | .joined rows => encodeJoinedRowsForFormatTest runId rows

/-- A stream with room for as many rows as fit the address space can be constructed. -/
theorem construct_ok (kind : StreamKind) {runId : RunId} {layout : RowLayout}
    (hlayout : makeRowLayout runId.value = .ok layout) {rowCapacity : UInt64}
    (hmax : rowCapacity.toNat * expectedRowBytes kind layout ≤ u64Max) (overflowMessage : String) :
    ∃ s, construct kind overflowMessage runId rowCapacity = .ok s := by
  unfold construct
  rw [hlayout]
  dsimp only [bind, Except.bind]
  rw [checkedMultiply_of_le hmax]
  exact ⟨_, rfl⟩

/-- What an artifact decodes to encodes to the artifact. -/
theorem reencode_decoded {sha256 : List UInt8 → String} {envelope : RawObservationEnvelope}
    {bytes : List UInt8} {decoded : DecodedRawStream}
    (h : decodeExternalRaw sha256 envelope bytes = .ok decoded) :
    reencode envelope.runId decoded.rows = .ok bytes := by
  obtain ⟨layout, hlayout, hlength, hmax, -, hstream, -⟩ := decodeExternalRaw_ok h
  have himages := decodeStream_images (makeRowLayout_fits hlayout) hlength hstream
  have hcapacity : ∀ {count : Nat}, count = envelope.rowCount.toNat →
      (UInt64.ofNat count).toNat = count := by
    rintro _ rfl
    rw [UInt64.ofNat_toNat]
  rw [hlength] at hmax
  cases hrows : decoded.rows with
  | producer rows =>
      rw [hrows] at himages
      obtain ⟨hkind, hcount, hgood, hbytes⟩ := himages
      rw [hkind, ← hcount, ← hcapacity hcount] at hmax
      obtain ⟨s, hs⟩ : ∃ s, ProducerObservationStream.construct envelope.runId
          (.ofNat rows.length) = .ok s := construct_ok .producer hlayout hmax _
      have hfields : ∀ row ∈ rows.map fun row => row.observation, AcceptedFields row := by
        simpa using fun row hrow => (hgood row hrow).2
      obtain ⟨-, hsnapshot⟩ := ProducerObservationStream.filled hs hlayout _ hfields
        (by rw [length_map, hcapacity hcount])
      rw [map_map] at hsnapshot
      rw [reencode, hs]
      exact congrArg Except.ok (hsnapshot.trans hbytes.symm)
  | consumer rows =>
      rw [hrows] at himages
      obtain ⟨hkind, hcount, -, hbytes⟩ := himages
      rw [hkind, ← hcount, ← hcapacity hcount] at hmax
      obtain ⟨s, hs⟩ : ∃ s, ConsumerObservationStream.construct envelope.runId
          (.ofNat rows.length) = .ok s := construct_ok .consumer hlayout hmax _
      obtain ⟨-, hsnapshot⟩ := ConsumerObservationStream.filled hs hlayout
        (rows.map fun row => row.observation) (by rw [length_map, hcapacity hcount])
      rw [map_map] at hsnapshot
      rw [reencode, hs]
      exact congrArg Except.ok (hsnapshot.trans hbytes.symm)
  | joined rows =>
      rw [hrows] at himages
      obtain ⟨hkind, hcount, hrun, rfl⟩ := himages
      rw [hkind, ← hcount] at hmax
      exact encodeJoined_images hlayout hrun hmax

/--
**What is appended to a stream, or given to the joined encoder, is decoded again.**
The rows are numbered from zero and break no rule of their kind, the stream was
constructed with room for them, and the envelope names the bytes; no more is asked.
-/
theorem raw_round_trip (sha256 : List UInt8 → String) (runId : RunId)
    (envelope : RawObservationEnvelope) :
    (∀ (rowCapacity : UInt64) (s : ProducerObservationStream) (rows : List ProducerObservation),
      ProducerObservationStream.construct runId rowCapacity = .ok s →
      rows.length ≤ rowCapacity.toNat →
      Contiguous (rows.map fun row => row.logicalSequence) →
      Contiguous (rows.filterMap fun row => row.acceptedOrdinal) →
      (∀ row ∈ rows, ∀ path,
        Protocol.validateProducer (makeProducerRecord runId row) runId path = []) →
      ∀ bytes, bytes = (appendAll ProducerObservationStream.append s.prepareForOwner.1
        rows).snapshot.bytes →
      EnvelopeNames sha256 envelope .producer runId rows.length bytes →
      decodeExternalRaw sha256 envelope bytes =
        .ok ⟨.producer, .producer (rows.map fun row => ⟨runId.value, row⟩)⟩) ∧
    (∀ (rowCapacity : UInt64) (s : ConsumerObservationStream) (rows : List ConsumerObservation),
      ConsumerObservationStream.construct runId rowCapacity = .ok s →
      rows.length ≤ rowCapacity.toNat →
      Contiguous (rows.map fun row => row.consumedOrdinal) →
      (∀ row ∈ rows, ∀ path,
        Protocol.validateConsumer (makeConsumerRecord runId row) runId path = []) →
      ∀ bytes, bytes = (appendAll ConsumerObservationStream.append s.prepareForOwner.1
        rows).snapshot.bytes →
      EnvelopeNames sha256 envelope .consumer runId rows.length bytes →
      decodeExternalRaw sha256 envelope bytes =
        .ok ⟨.consumer, .consumer (rows.map fun row => ⟨runId.value, row⟩)⟩) ∧
    (∀ (rows : List JoinedRecord) (bytes : List UInt8),
      Contiguous (rows.map fun row => row.acceptedOrdinal) →
      (∀ row ∈ rows, ∀ path, Protocol.validateJoined row runId path = []) →
      encodeJoinedRowsForFormatTest runId rows = .ok bytes →
      EnvelopeNames sha256 envelope .joinedDerived runId rows.length bytes →
      decodeExternalRaw sha256 envelope bytes = .ok ⟨.joinedDerived, .joined rows⟩) := by
  refine ⟨?_, ?_, ?_⟩
  · intro rowCapacity s rows hs hroom hsequences hordinals hvalid bytes hbytes hnames
    obtain ⟨layout, hlayout, -⟩ := Fallible.bind_ok hs
    have hfields := fun row hrow => acceptedFields_of_valid (hvalid row hrow "")
    obtain ⟨hwriting, hsnapshot⟩ :=
      ProducerObservationStream.filled hs hlayout rows hfields hroom
    refine decode_producer_images hnames hlayout (hbytes.trans hsnapshot)
      (hbytes ▸ hwriting.length_le) ?_ hvalid
    exact canonicalProducers 0 0 hfields (by simpa [Contiguous] using hsequences)
      (by simpa [Contiguous] using hordinals)
  · intro rowCapacity s rows hs hroom hordinals hvalid bytes hbytes hnames
    obtain ⟨layout, hlayout, -⟩ := Fallible.bind_ok hs
    obtain ⟨hwriting, hsnapshot⟩ := ConsumerObservationStream.filled hs hlayout rows hroom
    refine decode_consumer_images hnames hlayout (hbytes.trans hsnapshot)
      (hbytes ▸ hwriting.length_le) ?_ hvalid
    refine chained_positions 0 0 fun k row hget => ?_
    rw [Nat.zero_add]
    exact hordinals k _ (by rw [getElem?_map, hget]; rfl)
  · intro rows bytes hordinals hvalid hencode hnames
    obtain ⟨layout, hlayout, hrun, hmax⟩ := encodeJoined_ok hencode
    have himages := Except.ok.inj (hencode.symm.trans (encodeJoined_images hlayout hrun hmax))
    have hlength : bytes.length ≤ u64Max := by
      rw [← hnames.byteCount]
      exact Nat.le_pred_of_lt envelope.byteCount.toNat_lt
    refine decode_joined_images hnames hlayout himages hlength ?_ hvalid
    refine chained_positions 0 0 fun k row hget => ?_
    rw [Nat.zero_add]
    exact ⟨hordinals k _ (by rw [getElem?_map, hget]; rfl),
      hrun row (mem_of_getElem? hget)⟩

theorem raw_round_trip_rows :
    ∃ producer consumer joined,
      decodeExternalRaw exampleDigest (exampleEnvelope .producer 2 producer) producer =
        .ok ⟨.producer, .producer (exampleProducerRows.map fun row => ⟨[114], row⟩)⟩ ∧
      decodeExternalRaw exampleDigest (exampleEnvelope .consumer 1 consumer) consumer =
        .ok ⟨.consumer, .consumer (exampleConsumerRows.map fun row => ⟨[114], row⟩)⟩ ∧
      encodeJoinedRowsForFormatTest exampleRun exampleJoinedRows = .ok joined ∧
      decodeExternalRaw exampleDigest (exampleEnvelope .joinedDerived 1 joined) joined =
        .ok ⟨.joinedDerived, .joined exampleJoinedRows⟩ := by
  have hsequences : Contiguous (exampleProducerRows.map fun row => row.logicalSequence) := by
    rintro (_ | _ | index) value hvalue
    · exact Option.some.inj hvalue ▸ rfl
    · exact Option.some.inj hvalue ▸ rfl
    · cases hvalue
  have hone : ∀ value : UInt64, value = 0 → Contiguous [value] := by
    rintro _ rfl (_ | index) value hvalue
    · exact Option.some.inj hvalue ▸ rfl
    · cases hvalue
  refine ⟨_, _, _, (raw_round_trip exampleDigest exampleRun _).1 4 _ exampleProducerRows rfl
    (by decide) hsequences (hone 0 rfl) ?_ _ rfl (exampleEnvelope_names (by decide +kernel)),
    (raw_round_trip exampleDigest exampleRun _).2.1 4 _ exampleConsumerRows rfl (by decide)
      (hone 0 rfl) ?_ _ rfl (exampleEnvelope_names (by decide)), rfl,
    (raw_round_trip exampleDigest exampleRun _).2.2 exampleJoinedRows _ (hone 0 rfl) ?_ rfl
      (exampleEnvelope_names (by decide +kernel))⟩
  · simp only [exampleProducerRows, mem_cons, not_mem_nil, or_false, forall_eq_or_imp,
      forall_eq]
    exact ⟨fun _ => rfl, fun _ => rfl⟩
  · simp only [exampleConsumerRows, mem_singleton, forall_eq]
    exact fun _ => rfl
  · simp only [exampleJoinedRows, mem_singleton, forall_eq]
    exact fun _ => rfl

/--
**The raw format is canonical.**  Accepted bytes are the encoding of the rows they decode
to, so two artifacts of one run never decode to the same rows unless they are the same
bytes.
-/
theorem raw_canonical {sha256 : List UInt8 → String} {envelope : RawObservationEnvelope}
    {bytes : List UInt8} {decoded : DecodedRawStream}
    (h : decodeExternalRaw sha256 envelope bytes = .ok decoded) :
    reencode envelope.runId decoded.rows = .ok bytes ∧
      ∀ envelope' bytes' decoded', envelope'.runId = envelope.runId →
        decodeExternalRaw sha256 envelope' bytes' = .ok decoded' → decoded'.rows = decoded.rows →
        bytes' = bytes := by
  refine ⟨reencode_decoded h, ?_⟩
  intro envelope' bytes' decoded' hrun h' hrows
  have hboth := reencode_decoded h'
  rw [hrun, hrows, reencode_decoded h] at hboth
  exact (Except.ok.inj hboth).symm

theorem raw_canonical_rows :
    reencode exampleRun (.joined exampleJoinedRows) = .ok exampleJoinedBytes := by
  have hdecoded : decodeExternalRaw exampleDigest
      (exampleEnvelope .joinedDerived 1 exampleJoinedBytes) exampleJoinedBytes =
      .ok ⟨.joinedDerived, .joined exampleJoinedRows⟩ := by decide +kernel
  exact (raw_canonical hdecoded).1

end CpuPrefetch.Storage
