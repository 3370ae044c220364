/-
The documents beside a raw stream, read back.

A copy ledger names the run of the store that wrote it.  The envelope of a stream is
loaded from its own bytes before it is published, and what is loaded is the envelope the
decoder is given: the snapshot's run, kind, counts and digest, in the one format.
-/
import CpuPrefetch.Proofs.Protocol.Fields
import CpuPrefetch.Proofs.Storage.LedgerRecords
import CpuPrefetch.Storage.Decode
import CpuPrefetch.Storage.Finalization

namespace CpuPrefetch.Storage

open List Protocol.Load Fallible Protocol.Json
open Protocol (Text ascii Result RunId StreamKind RawObservationEnvelope kProtocolVersion
  kLogicalRowSchemaVersion)
open Protocol.Json (Value Object CharConv respelledMembers)

variable {host : Host}

/-! ### Ledgers -/

/-- The text that a ledger has under this key. -/
def ledgerText (conv : CharConv) (key bytes : Text) : Option Text :=
  match parse conv bytes with
  | .ok (.object members) =>
      match Object.find key members with
      | some (.string text) => some text
      | _ => none
  | _ => none

variable {input : CopyLedgerInput}

theorem copyValues_eq {domainIds : List Text} {copies : List CopyEvidence} {values : List Value}
    (h : copyValues input domainIds copies = .ok values) : values = copies.map copyValue := by
  induction copies generalizing domainIds values with
  | nil => exact (Except.ok.inj h).symm
  | cons copy rest ih =>
      rw [copyValues] at h
      split at h
      · cases h
      · split at h
        · cases h
        · obtain ⟨others, hothers, h⟩ := bind_ok h
          rw [← Except.ok.inj h, ih hothers, map_cons]

variable {document : CanonicalDocument}

theorem makeCopyLedgerDocument_ok (h : makeCopyLedgerDocument host input = .ok document) :
    canonicalDocument host (.object (copyLedgerObject input (input.copies.map copyValue))) =
      .ok document := by
  unfold makeCopyLedgerDocument at h
  split at h
  · cases h
  · split at h
    · cases h
    · obtain ⟨copies, hcopies, h⟩ := bind_ok h
      obtain rfl := copyValues_eq hcopies
      split at h
      · cases h
      · split at h
        · cases h
        · split at h
          · cases h
          · exact h

def copyKeys : List Text :=
  [ascii "artifact_uri", ascii "independently_read_back", ascii "observed_byte_count",
    ascii "observed_sha256", ascii "storage_domain_id", ascii "verification_result",
    ascii "verified_at"]

theorem copyValue_plain (copy : CopyEvidence) : (copyValue copy).Plain := by
  have hkeys : copyKeys.Nodup := by decide
  unfold copyValue
  apply plain_of
  · exact hkeys
  · simp only [map_cons, map_nil, forall_mem_cons]
    exact ⟨trivial, trivial, rfl, trivial, trivial, trivial, trivial, nofun⟩

theorem copyLedgerObject_plain (input : CopyLedgerInput) (copies : List CopyEvidence) :
    (Value.object (copyLedgerObject input (copies.map copyValue))).Plain := by
  unfold copyLedgerObject
  apply plain_of
  · exact copyLedgerKeys_nodup
  · have hcopies : (Value.array (copies.map copyValue)).Plain := by
      rw [Value.Plain, plainElements_iff, forall_mem_map]
      exact fun copy _ => copyValue_plain copy
    have hfailures : (Value.array (input.failures.map stringValue)).Plain := by
      rw [Value.Plain, plainElements_iff, forall_mem_map]
      exact fun _ _ => trivial
    simp only [map_cons, map_nil, forall_mem_cons]
    exact ⟨trivial, rfl, trivial, hcopies, hfailures, trivial, trivial, trivial, trivial, trivial,
      trivial, trivial, trivial, trivial, trivial, rfl, rfl, forall_mem_nil _⟩

theorem ledgerText_document (h : makeCopyLedgerDocument host input = .ok document) {key text : Text}
    (hfind : Object.find key
      (respelledMembers (copyLedgerObject input (input.copies.map copyValue))) =
      some (stringValue text).respelled) :
    ledgerText host.conv key document.bytes = some text := by
  obtain ⟨bytes, hbytes, hdocument⟩ := bind_ok (makeCopyLedgerDocument_ok h)
  obtain rfl := Except.ok.inj hdocument
  rw [ledgerText, parse_canonicalize (copyLedgerObject_plain input _) hbytes,
    Value.respelled]
  simp only [hfind]
  rfl

/-- A ledger names the run it was made for. -/
theorem ledger_runId (h : makeCopyLedgerDocument host input = .ok document) :
    ledgerText host.conv (ascii "run_id") document.bytes = some input.runId := by
  apply ledgerText_document h
  unfold copyLedgerObject
  apply find_document
  · exact copyLedgerKeys_nodup
  · exact mem_iff_getElem?.mpr ⟨11, rfl⟩

/-- A ledger names the role of its object. -/
theorem ledger_objectRole (h : makeCopyLedgerDocument host input = .ok document) :
    ledgerText host.conv (ascii "object_role") document.bytes = some input.objectRole := by
  apply ledgerText_document h
  unfold copyLedgerObject
  apply find_document
  · exact copyLedgerKeys_nodup
  · exact mem_iff_getElem?.mpr ⟨8, rfl⟩

/-! ### Envelopes -/

/-- The digest of a byte string, as the decoder compares it. -/
def digestText (host : Host) (bytes : Text) : String := (host.sha256 bytes).shown

/-- The members of an envelope that names no sources. -/
def rawEnvelopeMembers (input : RawEnvelopeInput) : List (Text × Value) :=
  rawEnvelopeHead input ++ rawEnvelopeTail input

variable {input : RawEnvelopeInput}

theorem rawEnvelopeObject_eq (h : input.sourceArtifacts = []) :
    rawEnvelopeObject input = Object.of (rawEnvelopeMembers input) := by
  unfold rawEnvelopeObject
  rw [h]
  rfl

def rawEnvelopeKeys : List Text :=
  [ascii "artifact_id", ascii "artifact_sha256", ascii "byte_count", ascii "compression",
    ascii "encoding", ascii "endianness", ascii "immutable_ordering",
    ascii "integrity_artifact_ref", ascii "logical_row_schema_version",
    ascii "physical_format_record_id", ascii "protocol_version", ascii "row_count",
    ascii "run_id", ascii "schema_version", ascii "storage", ascii "stream_kind",
    ascii "time_unit"]

theorem rawEnvelopeKeys_nodup : rawEnvelopeKeys.Nodup := by
  decide

theorem sources_not_mem_rawEnvelopeKeys : ascii "source_artifacts" ∉ rawEnvelopeKeys := by
  decide

theorem referenceKeys_nodup : [ascii "artifact_id", ascii "sha256"].Nodup := by
  decide

theorem storageKeys_nodup : [ascii "artifact_uri", ascii "mode"].Nodup := by
  decide

theorem rawEnvelopeMembers_plain (input : RawEnvelopeInput) :
    (Value.object (Object.of (rawEnvelopeMembers input))).Plain := by
  have hreference : (artifactRefValue input.integrityArtifact).Plain := by
    unfold artifactRefValue
    apply plain_of
    · exact referenceKeys_nodup
    · simp only [map_cons, map_nil, forall_mem_cons]
      exact ⟨trivial, trivial, nofun⟩
  have hstorage : (Value.object (Object.of
      [(ascii "artifact_uri", stringValue input.artifactUri),
        (ascii "mode", stringValue (ascii "EXTERNAL_IMMUTABLE_ARTIFACT"))])).Plain := by
    apply plain_of
    · exact storageKeys_nodup
    · simp only [map_cons, map_nil, forall_mem_cons]
      exact ⟨trivial, trivial, nofun⟩
  apply plain_of
  · exact rawEnvelopeKeys_nodup
  · simp only [rawEnvelopeMembers, rawEnvelopeHead, rawEnvelopeTail, cons_append,
      nil_append, map_cons, map_nil, forall_mem_cons]
    exact ⟨trivial, trivial, rfl, trivial, trivial, trivial, trivial, hreference, trivial, trivial,
      trivial, rfl, trivial, trivial, hstorage, trivial, trivial, nofun⟩

/-- What the loader finds in an envelope under the key of this place. -/
theorem find_rawEnvelope (input : RawEnvelopeInput) {key : Text} {value : Value} (place : Nat)
    (h : (rawEnvelopeMembers input)[place]? = some (key, value)) :
    Object.find key (respelledMembers (Object.of (rawEnvelopeMembers input))) =
      some value.respelled := by
  apply find_document
  · exact rawEnvelopeKeys_nodup
  · exact mem_iff_getElem?.mpr ⟨place, h⟩

theorem streamKind_read {kind : StreamKind} {entry : String × StreamKind}
    (h : (streamKinds.find? fun entry => ascii entry.1 = streamKindString kind) =
      some entry) : entry.2 = kind := by
  have hall : (streamKinds.find? fun entry =>
      ascii entry.1 = streamKindString kind).map Prod.snd = some kind := by
    cases kind with
    | producer => decide
    | consumer => decide
    | joinedDerived => decide
  rw [h] at hall
  exact Option.some.inj hall

theorem byteOrder_read {entry : String × Protocol.Endianness}
    (h : (byteOrders.find? fun entry => ascii entry.1 = kRawEndianness) =
      some entry) : entry.2 = .littleEndian := by
  have hall : (byteOrders.find? fun entry =>
      ascii entry.1 = kRawEndianness).map Prod.snd = some .littleEndian := by
    decide
  rw [h] at hall
  exact Option.some.inj hall

/-- The storage of an envelope that is written is external. -/
theorem observationStorage_read {kind : StreamKind} {storage : Protocol.ObservationStorage}
    (h : observationStorage kind (respelledMembers (Object.of (rawEnvelopeMembers input))) = .ok
      storage) : storage = .external := by
  obtain ⟨value, hvalue, h⟩ := bind_ok h
  rw [required, find_rawEnvelope input 14 rfl] at hvalue
  obtain rfl := Except.ok.inj hvalue
  obtain ⟨object, hobject, h⟩ := bind_ok h
  obtain rfl := Except.ok.inj hobject
  obtain ⟨mode, hmode, h⟩ := bind_ok h
  have hfind : Object.find (ascii "mode") (respelledMembers (Object.of
      [(ascii "artifact_uri", stringValue input.artifactUri),
        (ascii "mode", stringValue (ascii "EXTERNAL_IMMUTABLE_ARTIFACT"))])) =
      some (stringValue (ascii "EXTERNAL_IMMUTABLE_ARTIFACT")).respelled := by
    apply find_document
    · exact storageKeys_nodup
    · exact mem_iff_getElem?.mpr ⟨1, rfl⟩
  obtain rfl := stringField_ok hmode hfind
  rw [if_pos rfl] at h
  obtain ⟨-, -, h⟩ := bind_ok h
  obtain ⟨-, -, h⟩ := bind_ok h
  exact (Except.ok.inj h).symm

/-- The envelope of what was written, field by field. -/
def writtenEnvelope (input : RawEnvelopeInput) (runId : RunId) : RawObservationEnvelope where
  protocolVersion := .v200pre2
  runId := runId
  streamKind := input.streamKind
  logicalRowSchemaVersion := .v200pre2
  physicalFormatRecordId := kRawFormatId
  encoding := kRawEncoding
  timeUnit := kRawTimeUnit
  endianness := .littleEndian
  compression := kRawCompression
  rowCount := input.rowCount
  byteCount := input.byteCount
  storage := .external
  sourceArtifacts := []
  artifactSha256 := input.artifactSha256.shown

theorem loadRaw_written {envelope : RawObservationEnvelope}
    (h : loadRaw (.object (respelledMembers (Object.of (rawEnvelopeMembers input)))) = .ok envelope)
    {runId : RunId} (hrunId : runId.value = input.runId) :
    envelope = writtenEnvelope input runId := by
  obtain ⟨object, hobject, h⟩ := bind_ok h
  obtain rfl := Except.ok.inj hobject
  obtain ⟨-, -, h⟩ := bind_ok h
  obtain ⟨kind, hkind, h⟩ := bind_ok h
  obtain ⟨ordering, hordering, h⟩ := bind_ok h
  split at h
  · cases h
  · obtain ⟨storage, hstorage, h⟩ := bind_ok h
    obtain ⟨sources, hsources, h⟩ := bind_ok h
    split at h
    · cases h
    · obtain ⟨-, -, h⟩ := bind_ok h
      obtain ⟨protocolVersion, hprotocolVersion, h⟩ := bind_ok h
      obtain ⟨-, -, h⟩ := bind_ok h
      obtain ⟨loadedRunId, hloadedRunId, h⟩ := bind_ok h
      obtain ⟨logicalVersion, hlogicalVersion, h⟩ := bind_ok h
      obtain ⟨format, hformat, h⟩ := bind_ok h
      obtain ⟨encoding, hencoding, h⟩ := bind_ok h
      obtain ⟨timeUnit, htimeUnit, h⟩ := bind_ok h
      obtain ⟨endianness, hendianness, h⟩ := bind_ok h
      obtain ⟨compression, hcompression, h⟩ := bind_ok h
      obtain ⟨rowCount, hrowCount, h⟩ := bind_ok h
      obtain ⟨byteCount, hbyteCount, h⟩ := bind_ok h
      obtain ⟨-, -, h⟩ := bind_ok h
      obtain ⟨sha256, hsha256, h⟩ := bind_ok h
      have hsame : loadedRunId = runId := by
        have hvalue := runIdField_ok hloadedRunId (find_rawEnvelope input 12 rfl)
        cases loadedRunId
        cases runId
        obtain rfl := hvalue.trans hrunId.symm
        rfl
      have hnone : sources = [] := by
        rw [sourceArtifacts, find_document_none] at hsources
        · exact (Except.ok.inj hsources).symm
        · exact rawEnvelopeKeys_nodup
        · exact sources_not_mem_rawEnvelopeKeys
      obtain ⟨kindEntry, hkindEntry, rfl⟩ :=
        enumField_ok hkind (find_rawEnvelope input 15 rfl)
      obtain ⟨orderEntry, horderEntry, rfl⟩ :=
        enumField_ok hendianness (find_rawEnvelope input 5 rfl)
      rw [← Except.ok.inj h, writtenEnvelope, hsame, hnone, streamKind_read hkindEntry,
        byteOrder_read horderEntry, observationStorage_read hstorage,
        versionField_ok hprotocolVersion (find_rawEnvelope input 10 rfl),
        versionField_ok hlogicalVersion (find_rawEnvelope input 8 rfl),
        idField_ok hformat (find_rawEnvelope input 9 rfl),
        stringField_ok hencoding (find_rawEnvelope input 4 rfl),
        unitField_ok htimeUnit (find_rawEnvelope input 16 rfl),
        stringField_ok hcompression (find_rawEnvelope input 3 rfl),
        uintField_ok hrowCount (find_rawEnvelope input 11 rfl),
        uintField_ok hbyteCount (find_rawEnvelope input 2 rfl),
        shaField_ok hsha256 (find_rawEnvelope input 1 rfl),
        Protocol.shown_ascii, Protocol.shown_ascii, Protocol.shown_ascii, Protocol.shown_ascii,
        map_nil]

/-- The envelope that is published with a stream is loaded as the one the decoder is given. -/
theorem makeExternalRawEnvelope_ok {plan : RawStreamPublicationPlan} {uri : Text}
    {reference : ArtifactRefText} {document : RawEnvelopeDocument}
    (h : makeExternalRawEnvelope host (envelopeInput host plan uri reference) = .ok document) :
    loadRawObservation host.conv document.document.bytes =
      .ok (externalRawEnvelope (digestText host) plan.snapshot) := by
  have hsources : (envelopeInput host plan uri reference).sourceArtifacts = [] := rfl
  generalize hinput : envelopeInput host plan uri reference = input at h hsources
  unfold makeExternalRawEnvelope at h
  split at h
  · cases h
  · split at h
    · cases h
    · split at h
      · cases h
      · split at h
        · cases h
        · split at h
          · cases h
          · obtain ⟨canonical, hcanonical, h⟩ := bind_ok h
            obtain ⟨envelope, henvelope, h⟩ := bind_ok h
            obtain rfl := Except.ok.inj h
            obtain ⟨bytes, hbytes, hdocument⟩ := bind_ok hcanonical
            obtain rfl := Except.ok.inj hdocument
            rw [rawEnvelopeObject_eq hsources] at hbytes
            obtain ⟨value, hvalue, hload⟩ := bind_ok henvelope
            rw [parse_canonicalize (rawEnvelopeMembers_plain input) hbytes] at hvalue
            obtain rfl := Except.ok.inj hvalue
            rw [Value.respelled] at hload
            have hrunId : plan.snapshot.runId.value = input.runId := by
              rw [← hinput]
              rfl
            rw [henvelope, loadRaw_written hload hrunId, ← hinput]
            rfl

end CpuPrefetch.Storage
