/-
Raw observation streams: fixed rows in a buffer reserved before the run.

A row is a prefix that spells the run identifier and a body of little-endian words.
The producer and the consumer each own one stream; the two classes of the source
differ in their rows only, so a stream here is indexed by its kind.  The counters of
a stream are bounded by its allocation, whose size the constructor has checked, so
they are natural numbers.  The bytes of a reserved buffer cannot be read before
`prepare_for_owner` has written them, and until then the storage is empty here.
-/
import CpuPrefetch.Lib.Bytes
import CpuPrefetch.Timing.Capture

namespace CpuPrefetch.Storage

open Protocol (RunId StreamKind ProducerOutcome JoinedRecord)
open Timing (ProducerObservation ConsumerObservation ClockSample)
open Utf8 (leadByte continuationBytes)

def kRawFormatId : String := "RAW-OBS-U64LE-LP-RUNID-v1"
def kRawEncoding : String := "FIXED_U64_LE_LENGTH_PREFIXED_UTF8_RUN_ID"
def kRawTimeUnit : String := "PICOSECONDS"
def kRawCompression : String := "NONE"

def kProducerBodyBytes : Nat := 15 * 8
def kConsumerBodyBytes : Nat := 10 * 8
def kJoinedBodyBytes : Nat := 24 * 8

def kProducerAcceptedFlags : UInt64 := 15
def kProducerFullFlags : UInt64 := 1

/-! ### Bytes -/

/-- `std::numeric_limits<std::uint64_t>::max()`, which is also that of `std::size_t`. -/
def u64Max : Nat := 2 ^ 64 - 1

def checkedAdd (left right : Nat) : Option Nat :=
  if right > u64Max - left then none else some (left + right)

def checkedMultiply (left right : Nat) : Option Nat :=
  if left ≠ 0 ∧ right > u64Max / left then none else some (left * right)

/-- The loop of `valid_utf8`; every sequence is at least one byte of the text. -/
def validUtf8Loop : Nat → List UInt8 → Bool
  | _, [] => true
  | 0, _ :: _ => false
  | fuel + 1, first :: rest =>
      match leadByte first with
      | none => false
      | some (bits, length) =>
          if length > rest.length + 1 then false
          else
            match continuationBytes bits (rest.take (length - 1)) with
            | none => false
            | some codePoint =>
                let overlong := (length = 2 && codePoint < 0x80) ||
                  (length = 3 && codePoint < 0x800) || (length = 4 && codePoint < 0x10000)
                if overlong || codePoint > 0x10ffff ||
                    (codePoint ≥ 0xd800 && codePoint ≤ 0xdfff) then false
                else validUtf8Loop fuel (rest.drop (length - 1))

def validUtf8 (text : List UInt8) : Bool := validUtf8Loop text.length text

def storeU32Le (value : UInt32) : List UInt8 := LittleEndian.store 4 value.toNat

def storeU64Le (value : UInt64) : List UInt8 := LittleEndian.store 8 value.toNat

def loadU32Le (input : List UInt8) : UInt32 := .ofNat (LittleEndian.load 4 input)

def loadU64Le (input : List UInt8) : UInt64 := .ofNat (LittleEndian.load 8 input)

def storeWords (words : List UInt64) : List UInt8 := words.flatMap storeU64Le

/-! ### Row layout -/

structure RowLayout where
  runIdBytes : Nat
  prefixBytes : Nat
  producerRowBytes : Nat
  consumerRowBytes : Nat
  joinedRowBytes : Nat
  deriving DecidableEq, Repr

/-- The messages `StorageSetupError` is thrown with. -/
abbrev Setup := Except String

/-- The prefix is rounded up to whole words by clearing three bits. -/
def makeRowLayout (runId : List UInt8) : Setup RowLayout :=
  if runId.isEmpty then throw "raw-observation run_id must not be empty"
  else if !validUtf8 runId then throw "raw-observation run_id must be valid UTF-8"
  else if runId.length > 2 ^ 32 - 1 then throw "raw-observation run_id exceeds uint32 length"
  else
    match checkedAdd 4 runId.length with
    | none => throw "raw-observation row prefix size overflows uint64"
    | some withLength =>
        if withLength > u64Max - 7 then
          throw "raw-observation row prefix size overflows uint64"
        else
          let prefixBytes := (withLength + 7) / 8 * 8
          match checkedAdd prefixBytes kProducerBodyBytes,
            checkedAdd prefixBytes kConsumerBodyBytes,
            checkedAdd prefixBytes kJoinedBodyBytes with
          | some producer, some consumer, some joined =>
              pure ⟨runId.length, prefixBytes, producer, consumer, joined⟩
          | _, _, _ => throw "raw-observation row size exceeds host size_t"

def expectedRowBytes (kind : StreamKind) (layout : RowLayout) : Nat :=
  match kind with
  | .producer => layout.producerRowBytes
  | .consumer => layout.consumerRowBytes
  | .joinedDerived => layout.joinedRowBytes

/-- The literal prefix of every row: length, identifier, zeros up to the body. -/
def rowPrefix (layout : RowLayout) (runId : List UInt8) : List UInt8 :=
  storeU32Le (.ofNat runId.length) ++ runId ++
    List.replicate (layout.prefixBytes - (4 + runId.length)) 0

/-- The loop over the first rows of a buffer, writing each row's prefix. -/
def initializePrefixes (storage : List UInt8) (rowBytes : Nat) (layout : RowLayout)
    (runId : List UInt8) : Nat → List UInt8
  | 0 => storage
  | row + 1 =>
      Blocks.writeAt (initializePrefixes storage rowBytes layout runId row) (row * rowBytes)
        (rowPrefix layout runId)

/-! ### Streams -/

inductive AppendStatus where
  | appended
  | bufferOverflow
  | invalidObservation
  | streamUnprepared
  | streamSealed
  deriving DecidableEq, Repr

inductive StreamCompleteness where
  | writing
  | sealedComplete
  | sealedIncomplete
  deriving DecidableEq, Repr

structure RawStreamSnapshot where
  streamKind : StreamKind
  runId : RunId
  bytes : List UInt8
  rowCount : Nat
  rowCapacity : Nat
  rowBytes : Nat
  completeness : StreamCompleteness
  overflowed : Bool
  deriving DecidableEq

structure ControlBlock where
  rowCount : Nat := 0
  rowCapacity : Nat := 0
  rowBytes : Nat := 0
  completeness : StreamCompleteness := .writing
  overflowed : Bool := false
  prepared : Bool := false
  deriving DecidableEq, Repr

structure ObservationStream (kind : StreamKind) where
  runId : RunId
  layout : RowLayout
  storage : List UInt8
  allocatedBytes : Nat
  control : ControlBlock
  deriving DecidableEq

namespace ObservationStream

variable {kind : StreamKind}

/-- The constructor; `overflowMessage` is what it throws when the buffer is too large. -/
def construct (kind : StreamKind) (overflowMessage : String) (runId : RunId)
    (rowCapacity : UInt64) : Setup (ObservationStream kind) := do
  let layout ← makeRowLayout runId.value
  match checkedMultiply rowCapacity.toNat (expectedRowBytes kind layout) with
  | none => throw overflowMessage
  | some allocatedBytes =>
      pure
        { runId := runId
          layout := layout
          storage := []
          allocatedBytes := allocatedBytes
          control :=
            { rowCapacity := rowCapacity.toNat, rowBytes := expectedRowBytes kind layout } }

variable (s : ObservationStream kind)

def prepareForOwner : ObservationStream kind × Bool :=
  if s.control.prepared || s.control.completeness ≠ .writing then (s, false)
  else
    ({ s with
        storage := initializePrefixes (List.replicate s.allocatedBytes 0)
          (expectedRowBytes kind s.layout) s.layout s.runId.value s.control.rowCapacity
        control := { s.control with prepared := true } }, true)

/-- The end of both `append`s: the words are a row, unless the buffer is full. -/
def commitRow (words : List UInt64) : ObservationStream kind × AppendStatus :=
  if s.control.rowCount = s.control.rowCapacity then
    ({ s with control :=
        { s.control with overflowed := true, completeness := .sealedIncomplete } },
      .bufferOverflow)
  else
    ({ s with
        storage := Blocks.writeAt s.storage
          (s.control.rowCount * expectedRowBytes kind s.layout + s.layout.prefixBytes)
          (storeWords words)
        control := { s.control with rowCount := s.control.rowCount + 1 } }, .appended)

def sealComplete : ObservationStream kind × Bool :=
  if !s.control.prepared || s.control.completeness ≠ .writing || s.control.overflowed then
    (s, false)
  else ({ s with control := { s.control with completeness := .sealedComplete } }, true)

def sealIncomplete : ObservationStream kind :=
  if s.control.completeness = .writing then
    { s with control := { s.control with completeness := .sealedIncomplete } }
  else s

def snapshot : RawStreamSnapshot where
  streamKind := kind
  runId := s.runId
  bytes := s.storage.take (s.control.rowCount * s.control.rowBytes)
  rowCount := s.control.rowCount
  rowCapacity := s.control.rowCapacity
  rowBytes := s.control.rowBytes
  completeness := s.control.completeness
  overflowed := s.control.overflowed

end ObservationStream

/-! ### The producer's stream -/

abbrev ProducerObservationStream := ObservationStream .producer

def ProducerObservationStream.construct (runId : RunId) (rowCapacity : UInt64) :
    Setup ProducerObservationStream :=
  ObservationStream.construct .producer "producer raw buffer size overflows host size_t" runId
    rowCapacity

/-- The fifteen words of a producer row. -/
def producerWords (observation : ProducerObservation) : List UInt64 :=
  let accepted := observation.outcome = .accepted
  let linearization := observation.enqueueLinearization.getD ⟨0, 0⟩
  [observation.logicalSequence,
    observation.recordIndex,
    observation.scheduledArrival,
    observation.producerHandleBegin.absoluteNanoseconds,
    observation.producerHandleBegin.relativePicoseconds,
    observation.recordLookupCompletion.absoluteNanoseconds,
    observation.recordLookupCompletion.relativePicoseconds,
    observation.enqueueInvocation.absoluteNanoseconds,
    observation.enqueueInvocation.relativePicoseconds,
    linearization.absoluteNanoseconds,
    linearization.relativePicoseconds,
    observation.enqueueAttemptCompletion.absoluteNanoseconds,
    observation.enqueueAttemptCompletion.relativePicoseconds,
    if accepted then observation.acceptedOrdinal.getD 0 else 0,
    if accepted then kProducerAcceptedFlags else kProducerFullFlags]

def ProducerObservationStream.append (s : ProducerObservationStream)
    (observation : ProducerObservation) : ProducerObservationStream × AppendStatus :=
  if !s.control.prepared then (s, .streamUnprepared)
  else if s.control.completeness ≠ .writing then (s, .streamSealed)
  else
    let accepted : Bool := observation.outcome = .accepted
    if accepted ≠ observation.enqueueLinearization.isSome ||
        accepted ≠ observation.acceptedOrdinal.isSome then (s, .invalidObservation)
    else s.commitRow (producerWords observation)

/-! ### The consumer's stream -/

abbrev ConsumerObservationStream := ObservationStream .consumer

def ConsumerObservationStream.construct (runId : RunId) (rowCapacity : UInt64) :
    Setup ConsumerObservationStream :=
  ObservationStream.construct .consumer "consumer raw buffer size overflows host size_t" runId
    rowCapacity

/-- The ten words of a consumer row. -/
def consumerWords (observation : ConsumerObservation) : List UInt64 :=
  [observation.consumedOrdinal,
    observation.observedRecordIndex,
    observation.dequeueInvocation.absoluteNanoseconds,
    observation.dequeueInvocation.relativePicoseconds,
    observation.dequeueLinearization.absoluteNanoseconds,
    observation.dequeueLinearization.relativePicoseconds,
    observation.dequeueCompletion.absoluteNanoseconds,
    observation.dequeueCompletion.relativePicoseconds,
    observation.consumerActionCompletion.absoluteNanoseconds,
    observation.consumerActionCompletion.relativePicoseconds]

/-- Every consumer observation has all its fields, so none is invalid. -/
def ConsumerObservationStream.append (s : ConsumerObservationStream)
    (observation : ConsumerObservation) : ConsumerObservationStream × AppendStatus :=
  if !s.control.prepared then (s, .streamUnprepared)
  else if s.control.completeness ≠ .writing then (s, .streamSealed)
  else s.commitRow (consumerWords observation)

/-! ### Joined rows -/

/-- The twenty-four words of a joined row. -/
def joinedWords (row : JoinedRecord) : List UInt64 :=
  [row.acceptedOrdinal,
    row.logicalSequence,
    row.recordIndex,
    row.producerRowOrdinal,
    row.consumerRowOrdinal,
    row.scheduledArrival,
    row.producerHandleBegin,
    row.recordLookupCompletion,
    row.enqueueInvocation,
    row.enqueueLinearization,
    row.enqueueAttemptCompletion,
    row.dequeueInvocation,
    row.dequeueLinearization,
    row.dequeueCompletion,
    row.consumerActionCompletion,
    row.producerLateness,
    row.pointerLookupInterval,
    row.enqueueServiceTime,
    row.admissionDelay,
    row.queueResidence,
    row.dequeueServiceTime,
    row.postDequeueDeliveryInterval,
    row.consumerActionInterval,
    row.endToEndLatency]

/-- The loop over the rows from this index on, writing each row's body. -/
def storeJoinedRows (runId : RunId) (layout : RowLayout) :
    Nat → List UInt8 → List JoinedRecord → Setup (List UInt8)
  | _, output, [] => pure output
  | index, output, row :: rest =>
      if row.runId ≠ runId then throw "joined format-test row run_id mismatch"
      else
        storeJoinedRows runId layout (index + 1)
          (Blocks.writeAt output (index * layout.joinedRowBytes + layout.prefixBytes)
            (storeWords (joinedWords row))) rest

def encodeJoinedRowsForFormatTest (runId : RunId) (rows : List JoinedRecord) :
    Setup (List UInt8) := do
  let layout ← makeRowLayout runId.value
  match checkedMultiply rows.length layout.joinedRowBytes with
  | none => throw "joined format-test buffer size overflows size_t"
  | some total =>
      storeJoinedRows runId layout 0
        (initializePrefixes (List.replicate total 0) layout.joinedRowBytes layout runId.value
          rows.length) rows

end CpuPrefetch.Storage
