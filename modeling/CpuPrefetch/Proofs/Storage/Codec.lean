/-
Decoding what a stream holds.

Rows are canonical when each carries its own position and every accepted row carries
the number of accepted rows before it.  `Chained` threads that number through a list
of rows exactly as the decoder's loop does, so the decoder's run over a snapshot is
one induction, for every kind of row.  The rest of the decoder asks only that the
envelope describes the bytes it is given.
-/
import CpuPrefetch.Lib.Chained
import CpuPrefetch.Proofs.Storage.Streams

namespace CpuPrefetch.Storage

open List Protocol
open Protocol (RunId StreamKind ProducerOutcome Result RawObservationEnvelope JoinedRecord)
open Timing (ProducerObservation ConsumerObservation makeProducerRecord makeConsumerRecord)

/-! ### Canonical rows -/

/-- The counter after a producer row. -/
def nextAccepted (counter : UInt64) (row : ProducerObservation) : UInt64 :=
  counter + if row.outcome = .accepted then 1 else 0

/-- A producer row at this position, with the ordinal it must have if it was accepted. -/
structure FitProducer (index : Nat) (counter : UInt64) (row : ProducerObservation) : Prop where
  sequence : row.logicalSequence.toNat = index
  ordinal : row.acceptedOrdinal = if row.outcome = .accepted then some counter else none
  linearization : row.enqueueLinearization.isSome = (row.outcome = .accepted : Bool)

/-- A consumer row at this position. -/
def FitConsumer (index : Nat) (_ : UInt64) (row : ConsumerObservation) : Prop :=
  row.consumedOrdinal.toNat = index

/-- A joined row of this run at this position. -/
def FitJoined (runId : RunId) (index : Nat) (_ : UInt64) (row : JoinedRecord) : Prop :=
  row.acceptedOrdinal.toNat = index ∧ row.runId = runId

/-- Producer rows as a run writes them. -/
abbrev CanonicalProducers := Chained FitProducer nextAccepted

/-- Consumer rows as a run writes them. -/
abbrev CanonicalConsumers := Chained FitConsumer fun counter _ => counter

/-! ### Rows -/

theorem verifyPrefix_rowPrefix {layout : RowLayout} {runId : List UInt8} (h : layout.Fits runId)
    (rest : List UInt8) : verifyPrefix (rowPrefix layout runId ++ rest) layout runId = true := by
  have hlength : (loadU32Le (rowPrefix layout runId ++ rest)).toNat = runId.length := by
    rw [rowPrefix, append_assoc, append_assoc, loadU32Le_storeU32Le]
    exact UInt32.toNat_ofNat_of_lt' h.lengthLt
  have hid : ∀ index < runId.length,
      (rowPrefix layout runId ++ rest).getD (4 + index) 0 = runId.getD index 0 := by
    intro index hlt
    rw [rowPrefix, append_assoc, append_assoc, getD_append_right _ _ _ _ (by simp),
      length_storeU32Le, Nat.add_sub_cancel_left, getD_append _ _ _ _ hlt]
  have hzeros : ∀ index < layout.prefixBytes - (4 + runId.length),
      (rowPrefix layout runId ++ rest).getD (4 + runId.length + index) 0 = 0 := by
    intro index hlt
    rw [rowPrefix, append_assoc, getD_append_right _ _ _ _ (by simp),
      length_append, length_storeU32Le, Nat.add_sub_cancel_left,
      getD_append _ _ _ _ (by simpa using hlt)]
    simp [getD_eq_getElem?_getD, hlt]
  have hcheck : (List.range runId.length).all (fun index =>
      (rowPrefix layout runId ++ rest).getD (4 + index) 0 = runId.getD index 0) = true := by
    rw [all_eq_true]
    intro index hindex
    exact decide_eq_true (hid index (List.mem_range.mp hindex))
  have hpad : (List.range (layout.prefixBytes - (4 + runId.length))).all (fun index =>
      (rowPrefix layout runId ++ rest).getD (4 + runId.length + index) 0 = 0) = true := by
    rw [all_eq_true]
    intro index hindex
    exact decide_eq_true (hzeros index (List.mem_range.mp hindex))
  unfold verifyPrefix
  rw [hlength, h.runIdBytes, hcheck, hpad]
  simp

variable {counter : UInt64} {index : Nat}

/-- A canonical producer row is read back. -/
theorem decodeProducerBody_words (runId : List UInt8) {row : ProducerObservation}
    (h : FitProducer index counter row) (rest : List UInt8) :
    decodeProducerBody runId index counter (storeWords (producerWords row) ++ rest) =
      .ok (⟨runId, row⟩, nextAccepted counter row) := by
  obtain ⟨hsequence, hordinal, hlinearization⟩ := h
  obtain ⟨sequence, recordIndex, arrival, begun, lookup, invocation, linearization, completion,
    outcome, ordinal⟩ := row
  cases outcome with
  | accepted =>
      obtain ⟨sample, rfl⟩ : ∃ sample, linearization = some sample := by
        simpa [Option.isSome_iff_exists] using hlinearization
      obtain rfl : ordinal = some counter := hordinal
      simp [decodeProducerBody, sampleAt, wordAt_getD, producerWords, hsequence, nextAccepted]
  | full =>
      obtain rfl : linearization = none := by simpa using hlinearization
      obtain rfl : ordinal = none := hordinal
      simp [decodeProducerBody, sampleAt, wordAt_getD, producerWords, hsequence, nextAccepted,
        kProducerFullFlags, kProducerAcceptedFlags]

/-- A canonical consumer row is read back. -/
theorem decodeConsumerBody_words (runId : List UInt8) {row : ConsumerObservation}
    (h : FitConsumer index counter row) (rest : List UInt8) :
    decodeConsumerBody runId index counter (storeWords (consumerWords row) ++ rest) =
      .ok (⟨runId, row⟩, counter) := by
  have hordinal : row.consumedOrdinal.toNat = index := h
  simp [decodeConsumerBody, sampleAt, wordAt_getD, consumerWords, hordinal]

/-- A joined row of the envelope's run is read back. -/
theorem decodeJoinedBody_words (runId : RunId) {row : JoinedRecord}
    (h : FitJoined runId index counter row) (rest : List UInt8) :
    decodeJoinedBody runId index counter (storeWords (joinedWords row) ++ rest) =
      .ok (row, counter) := by
  obtain ⟨hordinal, rfl⟩ := h
  simp [decodeJoinedBody, wordAt_getD, joinedWords, hordinal]

/-! ### The loop -/

section Loop

variable {Obs Row : Type} {fit : Nat → UInt64 → Obs → Prop} {next : UInt64 → Obs → UInt64}
  {words : Obs → List UInt64} {row : Obs → Row}
  {decodeBody : Nat → UInt64 → List UInt8 → Result (Row × UInt64)} {layout : RowLayout}
  {runId : List UInt8}

/-- The loop reads back the rows that begin at its position. -/
theorem decodeRows_images (hfits : layout.Fits runId) (rowBytes : Nat) (bytes : List UInt8)
    (observations : List Obs) (index : Nat) (counter : UInt64)
    (hchained : Chained fit next index counter observations)
    (hbody : ∀ index counter obs rest, fit index counter obs →
      decodeBody index counter (storeWords (words obs) ++ rest) =
        .ok (row obs, next counter obs))
    (hwidth : ∀ obs ∈ observations, (rowImage layout runId (words obs)).length = rowBytes)
    (hbytes : bytes.drop (index * rowBytes) =
      (observations.map fun obs => rowImage layout runId (words obs)).flatten) :
    decodeRows decodeBody layout runId rowBytes bytes observations.length index counter =
      .ok (observations.map row) := by
  induction observations generalizing index counter with
  | nil => rfl
  | cons obs rest ih =>
      rw [map_cons, flatten_cons] at hbytes
      have hnext : bytes.drop ((index + 1) * rowBytes) =
          (rest.map fun obs => rowImage layout runId (words obs)).flatten := by
        have hsplit : (index + 1) * rowBytes = index * rowBytes + rowBytes := Nat.succ_mul ..
        rw [hsplit, ← drop_drop, hbytes, ← hwidth obs mem_cons_self, drop_left]
      have hrest := ih (index + 1) (next counter obs) hchained.2
        (fun o ho => hwidth o (mem_cons_of_mem obs ho)) hnext
      have hrow : (bytes.drop (index * rowBytes)).drop layout.prefixBytes =
          storeWords (words obs) ++
            (rest.map fun obs => rowImage layout runId (words obs)).flatten := by
        rw [hbytes, rowImage, append_assoc, ← hfits.length_rowPrefix, drop_left]
      have hverify : verifyPrefix (bytes.drop (index * rowBytes)) layout runId = true := by
        rw [hbytes, rowImage, append_assoc]
        exact verifyPrefix_rowPrefix hfits _
      rw [length_cons, decodeRows]
      simp only [hverify, hrow, hbody index counter obs _ hchained.1, Bool.not_true,
        Bool.false_eq_true, if_false, map_cons]
      show (decodeRows decodeBody layout runId rowBytes bytes rest.length (index + 1)
        (next counter obs) >>= fun decoded => Except.ok (row obs :: decoded)) = _
      rw [hrest]
      rfl

end Loop

/-! ### Envelopes -/

/-- The envelope selects the format and describes these bytes as rows of this run. -/
structure EnvelopeNames (sha256 : List UInt8 → String) (envelope : RawObservationEnvelope)
    (kind : StreamKind) (runId : RunId) (rowCount : Nat) (bytes : List UInt8) : Prop where
  storage : envelope.storage = .external
  format : envelope.physicalFormatRecordId = kRawFormatId
  encoding : envelope.encoding = kRawEncoding
  timeUnit : envelope.timeUnit = kRawTimeUnit
  endianness : envelope.endianness = .littleEndian
  compression : envelope.compression = kRawCompression
  version : envelope.logicalRowSchemaVersion = envelope.protocolVersion
  sources : kind ≠ .joinedDerived → envelope.sourceArtifacts = []
  runId : envelope.runId = runId
  streamKind : envelope.streamKind = kind
  rowCount : envelope.rowCount.toNat = rowCount
  byteCount : envelope.byteCount.toNat = bytes.length
  sha256 : envelope.artifactSha256 = sha256 bytes

theorem checkedMultiply_of_le {left right : Nat} (h : left * right ≤ u64Max) :
    checkedMultiply left right = some (left * right) := by
  unfold checkedMultiply
  rw [if_neg]
  rintro ⟨hne, hgt⟩
  have hcontra := (Nat.div_lt_iff_lt_mul (Nat.pos_of_ne_zero hne)).mp hgt
  rw [Nat.mul_comm] at hcontra
  omega

namespace EnvelopeNames

variable {sha256 : List UInt8 → String} {envelope : RawObservationEnvelope} {kind : StreamKind}
  {runId : RunId} {count : Nat} {bytes : List UInt8} {layout : RowLayout}

theorem checkEnvelope (h : EnvelopeNames sha256 envelope kind runId count bytes) :
    checkEnvelope sha256 envelope bytes = .ok () := by
  by_cases hkind : kind = .joinedDerived
  · simp [Storage.checkEnvelope, h.storage, h.format, h.encoding, h.timeUnit, h.endianness,
      h.compression, h.version, h.streamKind, h.sha256, hkind]
  · simp [Storage.checkEnvelope, h.storage, h.format, h.encoding, h.timeUnit, h.endianness,
      h.compression, h.version, h.streamKind, h.sha256, h.sources hkind]

/-- Bytes that an envelope describes decode once their rows do and break no rule. -/
theorem decode (h : EnvelopeNames sha256 envelope kind runId count bytes)
    (hlayout : makeRowLayout runId.value = .ok layout)
    (hsize : checkedMultiply count (expectedRowBytes kind layout) = some bytes.length)
    {decoded : DecodedRows}
    (hstream : decodeStream envelope layout (expectedRowBytes kind layout) bytes = .ok decoded)
    (hvalid : validateRaw
      { envelope with storage := .inline (decoded.logical runId) } = []) :
    decodeExternalRaw sha256 envelope bytes = .ok ⟨kind, decoded⟩ := by
  obtain rfl := h.runId
  obtain rfl := h.streamKind
  unfold decodeExternalRaw
  rw [h.checkEnvelope, hlayout]
  show (if _ then _ else _) = _
  rw [h.rowCount, hsize, h.byteCount]
  simp only [ne_eq, not_true_eq_false, decide_false, Bool.or_self, Bool.false_eq_true, if_false]
  rw [hstream]
  dsimp only [bind, Except.bind]
  rw [hvalid]

/-- Rows that each break no rule are a valid list for their envelope. -/
theorem validateRowList (h : EnvelopeNames sha256 envelope kind runId count bytes)
    (storage : ObservationStorage) {Row : Type} {records : List Row}
    {validate : Row → RunId → String → List ValidationError}
    (hlength : records.length = count)
    (hvalid : ∀ record ∈ records, ∀ path, validate record runId path = []) :
    Protocol.validateRowList validate { envelope with storage := storage } records = [] := by
  rw [Protocol.validateRowList]
  have hrun : ({ envelope with storage := storage } : RawObservationEnvelope).runId = runId :=
    h.runId
  rw [hrun]
  refine List.append_eq_nil_iff.mpr ⟨?_, validateRows_eq_nil _ _ hvalid⟩
  rw [require_eq_nil, hlength]
  exact decide_eq_true h.rowCount.symm

end EnvelopeNames

theorem RowLayout.Fits.length_rowImage {layout : RowLayout} {runId : List UInt8}
    (h : layout.Fits runId) {kind : StreamKind} {words : List UInt64}
    (hwidth : words.length = bodyWords kind) :
    (rowImage layout runId words).length = expectedRowBytes kind layout := by
  rw [rowImage, length_append, h.length_rowPrefix, length_storeWords, hwidth, h.rowBytes]

section Images

variable {sha256 : List UInt8 → String} {envelope : RawObservationEnvelope} {runId : RunId}
  {bytes : List UInt8} {layout : RowLayout}

/-- The bytes of rows that fit the address space have the size their envelope states. -/
theorem length_images {kind : StreamKind} {Obs : Type} {words : Obs → List UInt64}
    (hfits : layout.Fits runId.value) (hwidth : ∀ obs, (words obs).length = bodyWords kind)
    {observations : List Obs}
    (hbytes : bytes = (observations.map fun obs => rowImage layout runId.value (words obs)).flatten)
    (hmax : bytes.length ≤ u64Max) :
    checkedMultiply observations.length (expectedRowBytes kind layout) = some bytes.length := by
  have hlength : bytes.length = observations.length * expectedRowBytes kind layout := by
    rw [hbytes, Blocks.length_flatten, length_map]
    intro block hblock
    obtain ⟨obs, -, rfl⟩ := List.mem_map.mp hblock
    exact hfits.length_rowImage (hwidth obs)
  rw [hlength] at hmax ⊢
  exact checkedMultiply_of_le hmax

/-- Rows are decoded from their images, once their stream is read row by row and they break no
rule. -/
theorem EnvelopeNames.decode_images {kind : StreamKind} {Obs Row : Type}
    {words : Obs → List UInt64} {fit : Nat → UInt64 → Obs → Prop} {next : UInt64 → Obs → UInt64}
    {decodeBody : Nat → UInt64 → List UInt8 → Result (Row × UInt64)} {observations : List Obs}
    (hnames : EnvelopeNames sha256 envelope kind runId observations.length bytes)
    (rows : List Row → DecodedRows) (row : Obs → Row)
    (hlayout : makeRowLayout runId.value = .ok layout)
    (hwidth : ∀ obs, (words obs).length = bodyWords kind)
    (hbytes : bytes = (observations.map fun obs => rowImage layout runId.value (words obs)).flatten)
    (hmax : bytes.length ≤ u64Max) (hchained : Chained fit next 0 0 observations)
    (hbody : ∀ index counter obs rest, fit index counter obs →
      decodeBody index counter (storeWords (words obs) ++ rest) =
        .ok (row obs, next counter obs))
    (hstream : decodeStream envelope layout (expectedRowBytes kind layout) bytes =
      (decodeRows decodeBody layout runId.value (expectedRowBytes kind layout) bytes
        observations.length 0 0).map rows)
    (hvalid : validateRaw { envelope with
      storage := .inline ((rows (observations.map row)).logical runId) } = []) :
    decodeExternalRaw sha256 envelope bytes = .ok ⟨kind, rows (observations.map row)⟩ := by
  have hfits := makeRowLayout_fits hlayout
  have hrows := decodeRows_images hfits (expectedRowBytes kind layout) bytes observations 0 0
    hchained hbody (fun obs _ => hfits.length_rowImage (hwidth obs))
    (by rw [Nat.zero_mul, drop_zero, hbytes])
  refine hnames.decode hlayout (length_images hfits hwidth hbytes hmax) ?_ hvalid
  rw [hstream, hrows]
  rfl

/-- **Canonical, valid producer rows are decoded from their images.** -/
theorem decode_producer_images {observations : List ProducerObservation}
    (hnames : EnvelopeNames sha256 envelope .producer runId observations.length bytes)
    (hlayout : makeRowLayout runId.value = .ok layout)
    (hbytes : bytes =
      (observations.map fun row => rowImage layout runId.value (producerWords row)).flatten)
    (hmax : bytes.length ≤ u64Max) (hcanonical : CanonicalProducers 0 0 observations)
    (hvalid : ∀ row ∈ observations, ∀ path,
      validateProducer (makeProducerRecord runId row) runId path = []) :
    decodeExternalRaw sha256 envelope bytes =
      .ok ⟨.producer, .producer (observations.map fun row => ⟨runId.value, row⟩)⟩ := by
  refine hnames.decode_images .producer (fun row => ⟨runId.value, row⟩) hlayout
    length_producerWords hbytes hmax hcanonical
    (fun _ _ _ rest hfit => decodeProducerBody_words runId.value hfit rest) ?_ ?_
  · simp only [decodeStream, hnames.streamKind, hnames.runId, hnames.rowCount]
  · refine hnames.validateRowList _ (by simp) ?_
    rw [forall_mem_map, forall_mem_map]
    exact hvalid

/-- **Canonical, valid consumer rows are decoded from their images.** -/
theorem decode_consumer_images {observations : List ConsumerObservation}
    (hnames : EnvelopeNames sha256 envelope .consumer runId observations.length bytes)
    (hlayout : makeRowLayout runId.value = .ok layout)
    (hbytes : bytes =
      (observations.map fun row => rowImage layout runId.value (consumerWords row)).flatten)
    (hmax : bytes.length ≤ u64Max) (hcanonical : CanonicalConsumers 0 0 observations)
    (hvalid : ∀ row ∈ observations, ∀ path,
      validateConsumer (makeConsumerRecord runId row) runId path = []) :
    decodeExternalRaw sha256 envelope bytes =
      .ok ⟨.consumer, .consumer (observations.map fun row => ⟨runId.value, row⟩)⟩ := by
  refine hnames.decode_images .consumer (fun row => ⟨runId.value, row⟩) hlayout
    length_consumerWords hbytes hmax hcanonical
    (fun _ _ _ rest hfit => decodeConsumerBody_words runId.value hfit rest) ?_ ?_
  · simp only [decodeStream, hnames.streamKind, hnames.runId, hnames.rowCount]
  · refine hnames.validateRowList _ (by simp) ?_
    rw [forall_mem_map, forall_mem_map]
    exact hvalid

/-- **Ordered, valid joined rows are decoded from their images.** -/
theorem decode_joined_images {rows : List JoinedRecord}
    (hnames : EnvelopeNames sha256 envelope .joinedDerived runId rows.length bytes)
    (hlayout : makeRowLayout runId.value = .ok layout)
    (hbytes : bytes =
      (rows.map fun row => rowImage layout runId.value (joinedWords row)).flatten)
    (hmax : bytes.length ≤ u64Max)
    (hcanonical : Chained (FitJoined runId) (fun counter _ => counter) 0 0 rows)
    (hvalid : ∀ row ∈ rows, ∀ path, validateJoined row runId path = []) :
    decodeExternalRaw sha256 envelope bytes = .ok ⟨.joinedDerived, .joined rows⟩ := by
  have hdecoded := hnames.decode_images .joined id hlayout length_joinedWords hbytes hmax
    hcanonical (fun _ _ _ rest hfit => decodeJoinedBody_words runId hfit rest)
    (by simp only [decodeStream, hnames.streamKind, hnames.runId, hnames.rowCount])
    (by rw [map_id]; exact hnames.validateRowList _ rfl hvalid)
  rw [map_id] at hdecoded
  exact hdecoded

end Images

/-! ### Snapshots -/

namespace ObservationStream

variable {kind : StreamKind} {s : ObservationStream kind} {rows : List (List UInt64)}

theorem Holds.length_le (h : s.Holds rows) : s.snapshot.bytes.length ≤ u64Max := by
  rw [h.snapshot_bytes, h.length_encoded]
  exact Nat.le_trans (Nat.mul_le_mul_right _ h.capacity) h.allocation

/-- The envelope made for a snapshot describes it. -/
theorem Holds.names (h : s.Holds rows) (sha256 : List UInt8 → String) :
    EnvelopeNames sha256 (externalRawEnvelope sha256 s.snapshot) kind s.runId rows.length
      s.snapshot.bytes where
  storage := rfl
  format := rfl
  encoding := rfl
  timeUnit := rfl
  endianness := rfl
  compression := rfl
  version := rfl
  sources _ := rfl
  runId := rfl
  streamKind := rfl
  rowCount := by
    show (UInt64.ofNat s.control.rowCount).toNat = rows.length
    rw [h.count]
    have hmax : u64Max < UInt64.size := by decide
    exact UInt64.toNat_ofNat_of_lt'
      (Nat.lt_of_le_of_lt (Nat.le_trans h.capacity h.capacityLe) hmax)
  byteCount := by
    have hmax : u64Max < UInt64.size := by decide
    exact UInt64.toNat_ofNat_of_lt' (Nat.lt_of_le_of_lt h.length_le hmax)
  sha256 := rfl

end ObservationStream

open ObservationStream

/-- A producer snapshot of canonical, valid rows decodes to those rows. -/
theorem decode_producer_snapshot {s : ProducerObservationStream}
    {observations : List ProducerObservation} (sha256 : List UInt8 → String)
    (h : s.Holds (observations.map producerWords))
    (hcanonical : CanonicalProducers 0 0 observations)
    (hvalid : ∀ row ∈ observations, ∀ path,
      validateProducer (makeProducerRecord s.runId row) s.runId path = []) :
    decodeExternalRaw sha256 (externalRawEnvelope sha256 s.snapshot) s.snapshot.bytes =
      .ok ⟨.producer, .producer (observations.map fun row => ⟨s.runId.value, row⟩)⟩ := by
  have hnames := h.names sha256
  rw [length_map] at hnames
  refine decode_producer_images hnames h.layout ?_ h.length_le hcanonical hvalid
  rw [h.snapshot_bytes, encoded, map_map]
  rfl

/-- A consumer snapshot of canonical, valid rows decodes to those rows. -/
theorem decode_consumer_snapshot {s : ConsumerObservationStream}
    {observations : List ConsumerObservation} (sha256 : List UInt8 → String)
    (h : s.Holds (observations.map consumerWords))
    (hcanonical : CanonicalConsumers 0 0 observations)
    (hvalid : ∀ row ∈ observations, ∀ path,
      validateConsumer (makeConsumerRecord s.runId row) s.runId path = []) :
    decodeExternalRaw sha256 (externalRawEnvelope sha256 s.snapshot) s.snapshot.bytes =
      .ok ⟨.consumer, .consumer (observations.map fun row => ⟨s.runId.value, row⟩)⟩ := by
  have hnames := h.names sha256
  rw [length_map] at hnames
  refine decode_consumer_images hnames h.layout ?_ h.length_le hcanonical hvalid
  rw [h.snapshot_bytes, encoded, map_map]
  rfl

end CpuPrefetch.Storage
