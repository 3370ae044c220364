/-
`finalize_run_observations`: the observations of a run, published one after another.

The integrity report comes first, then each stream that exists, and after each stream the
envelope that names it.  What was published stays, whatever happens to the rest; the run
is complete only if nothing was missing and nothing failed.
-/
import CpuPrefetch.Storage.ArtifactStore

namespace CpuPrefetch.Storage

open Protocol (Text ascii Result ErrorCategory StreamKind ValidationError)

structure ArtifactPublicationPlan where
  objectId : Text
  artifactId : Text
  ledgerRecordId : Text
  deriving DecidableEq

structure RawStreamPublicationPlan where
  snapshot : RawStreamSnapshot
  raw : ArtifactPublicationPlan
  envelope : ArtifactPublicationPlan
  deriving DecidableEq

structure RunObservationFinalizationRequest where
  runId : Text
  measurementCompleted : Bool
  integrity : PhaseIntegrityInput
  integrityPublication : ArtifactPublicationPlan
  producer : Option RawStreamPublicationPlan
  consumer : Option RawStreamPublicationPlan
  deriving DecidableEq

structure PublishedRawStream where
  raw : PublishObjectResult
  envelopeDocument : Option RawEnvelopeDocument
  envelope : Option PublishObjectResult
  deriving DecidableEq

structure RunObservationFinalizationResult where
  finalizationState : CopyFinalizationState
  integrity : PublishObjectResult
  producer : Option PublishedRawStream
  consumer : Option PublishedRawStream
  failures : List Text
  deriving DecidableEq

/-- What the calls of each publication answer. -/
structure StreamCalls where
  raw : PublishCalls
  envelope : PublishCalls

structure FinalizationCalls where
  integrity : PublishCalls
  producer : StreamCalls
  consumer : StreamCalls

def isComplete (result : PublishObjectResult) : Bool :=
  result.finalizationState = .sealedComplete && result.ledgerPersisted

def hasVerifiedPrimary (result : PublishObjectResult) : Bool :=
  result.copies.head?.any fun copy => copy.verified

/-- `append_publish_failures`: what it appends. -/
def publishFailures (label : Text) (result : PublishObjectResult) : List Text :=
  result.failures.map fun failure => label ++ ascii ": " ++ failure

/-- `LocalAppendOnlyRunStore::artifact_uri`. -/
def RunStore.artifactUri (host : Host) (store : RunStore) (domainIndex : Nat) (objectId : Text) :
    Setup Text :=
  match store.config.domains[domainIndex]? with
  | none => throw "artifact URI request has invalid domain or object ID"
  | some domain =>
      if objectId = [] then throw "artifact URI request has invalid domain or object ID"
      else .ok (objectUri host store.config domain objectId)

section Finalize

variable (host : Host)

/-- Computations over the store that stop with validation errors. -/
abbrev StoreEffect (T : Type) := Effect (List ValidationError) RunStore T

def publishObject (calls : PublishCalls) (request : PublishObjectRequest) :
    StoreEffect PublishObjectResult :=
  .of fun store => (store.publish host request calls).swap

/-- The role a raw stream is published in. -/
def rawObjectRole (kind : StreamKind) : Text :=
  if kind = .producer then ascii "PRODUCER_RAW" else ascii "CONSUMER_RAW"

def rawRequest (plan : RawStreamPublicationPlan) : PublishObjectRequest where
  objectId := plan.raw.objectId
  objectRole := rawObjectRole plan.snapshot.streamKind
  artifactId := plan.raw.artifactId
  ledgerRecordId := plan.raw.ledgerRecordId
  bytes := plan.snapshot.bytes
  expectedSha256 := host.sha256 plan.snapshot.bytes
  streamCompleteness := plan.snapshot.completeness

def envelopeInput (plan : RawStreamPublicationPlan) (uri : Text)
    (integrityReference : ArtifactRefText) : RawEnvelopeInput where
  artifactId := plan.raw.artifactId
  runId := plan.snapshot.runId.value
  streamKind := plan.snapshot.streamKind
  artifactUri := uri
  rowCount := .ofNat plan.snapshot.rowCount
  byteCount := .ofNat plan.snapshot.bytes.length
  artifactSha256 := host.sha256 plan.snapshot.bytes
  integrityArtifact := integrityReference
  sourceArtifacts := []

/-- The request for a document of this role. -/
def documentRequest (plan : ArtifactPublicationPlan) (role : String)
    (document : CanonicalDocument) : PublishObjectRequest where
  objectId := plan.objectId
  objectRole := ascii role
  artifactId := plan.artifactId
  ledgerRecordId := plan.ledgerRecordId
  bytes := document.bytes
  expectedSha256 := document.sha256
  streamCompleteness := .sealedComplete

def publishStream (calls : StreamCalls) (plan : RawStreamPublicationPlan)
    (integrityReference : ArtifactRefText) : StoreEffect PublishedRawStream := do
  if plan.snapshot.completeness = .writing then
    throw [⟨.crossField, "$input/snapshot", "STO-UNSEALED-STREAM",
      "a writing stream cannot be finalized"⟩]
  let raw ← publishObject host calls.raw (rawRequest host plan)
  if !hasVerifiedPrimary raw then
    pure ⟨raw, none, none⟩
  else
    let store ← get
    -- the primary domain is there, and the publication had an object identifier
    let uri := (store.artifactUri host 0 plan.raw.objectId).toOption.getD []
    let envelope ← .lift
      (makeExternalRawEnvelope host (envelopeInput host plan uri integrityReference))
    let publishedEnvelope ← publishObject host calls.envelope
      (documentRequest plan.envelope "RAW_OBSERVATION_ENVELOPE" envelope.document)
    pure ⟨raw, some envelope, some publishedEnvelope⟩

/-- The failures of a stream's publications, and of the stream itself. -/
def streamFailures (label : Text) (plan : RawStreamPublicationPlan)
    (published : PublishedRawStream) : List Text :=
  publishFailures (label ++ ascii " raw") published.raw ++
  (match published.envelope with
    | some envelope => publishFailures (label ++ ascii " envelope") envelope
    | none => [label ++ ascii " envelope absent because no verified primary exists"]) ++
  if plan.snapshot.overflowed then
    [ascii "BUFFER_OVERFLOW: invalidating measurement failure; rows were not truncated"]
  else []

/-- A stream that may be absent, with what is to be reported about it. -/
def publishSlot (label : Text) (calls : StreamCalls) (slot : Option RawStreamPublicationPlan)
    (integrityReference : ArtifactRefText) :
    StoreEffect (Option PublishedRawStream × List Text) :=
  match slot with
  | none => pure (none, [label ++ ascii " stream absent; no artifact fabricated"])
  | some plan => do
      let published ← publishStream host calls plan integrityReference
      pure (some published, streamFailures label plan published)

def streamComplete (stream : Option PublishedRawStream) : Bool :=
  stream.any fun stream => isComplete stream.raw && stream.envelope.any isComplete

def finalizeRunObservations (calls : FinalizationCalls)
    (request : RunObservationFinalizationRequest) :
    StoreEffect RunObservationFinalizationResult := do
  if request.runId = [] ∨ request.integrity.runId ≠ request.runId ∨
      request.integrityPublication.artifactId ≠ request.integrity.artifactId then
    throw [⟨.referenceMismatch, "$input", "STO-FINALIZE-RUN-ID",
      "finalization, integrity, and publication identities disagree"⟩]
  if (request.producer.toList ++ request.consumer.toList).any fun stream =>
      stream.snapshot.runId.value ≠ request.runId then
    throw [⟨.referenceMismatch, "$input/stream/run_id", "STO-FINALIZE-STREAM-ID",
      "stream run_id disagrees with finalization run_id"⟩]
  let integrityDocument ← .lift (makePhaseIntegrityDocument host request.integrity)
  let integrity ← publishObject host calls.integrity
    (documentRequest request.integrityPublication "PHASE_INTEGRITY_REPORT" integrityDocument)
  let integrityReference : ArtifactRefText :=
    ⟨request.integrity.artifactId, integrityDocument.sha256⟩
  let (producer, producerFailures) ←
    publishSlot host (ascii "producer") calls.producer request.producer integrityReference
  let (consumer, consumerFailures) ←
    publishSlot host (ascii "consumer") calls.consumer request.consumer integrityReference
  let failures :=
    publishFailures (ascii "phase integrity") integrity ++ producerFailures ++ consumerFailures
  let complete := request.measurementCompleted && isComplete integrity &&
    streamComplete producer && streamComplete consumer && failures.isEmpty
  pure
    { finalizationState := if complete then .sealedComplete else .incomplete
      integrity := integrity
      producer := producer
      consumer := consumer
      failures :=
        if request.measurementCompleted then failures
        else failures ++ [ascii "measurement did not complete; finalization remains incomplete"] }

end Finalize

end CpuPrefetch.Storage
