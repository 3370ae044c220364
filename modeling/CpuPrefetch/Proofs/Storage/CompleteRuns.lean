/-
What a sealed finalization says about a run.

Five publications make a run: the integrity report, two streams and their envelopes.  A
sealed finalization has all five, each in both domains and in the ledger, and what is
published early stays through the rest.  It says nothing about which run the store is
for, nor about the kinds of the two streams, nor about what is in them: those are what
the caller must get right.
-/
import CpuPrefetch.Proofs.Storage.AcceptedRows
import CpuPrefetch.Proofs.Storage.Documents
import CpuPrefetch.Proofs.Storage.Faultless
import CpuPrefetch.Proofs.Storage.RoundTrip

namespace CpuPrefetch.Storage

open Effect
open Protocol (Text ascii Result StreamKind)

variable {host : Host} {store store' : RunStore} {files files' : StoreFiles} {runId : Text}

/-! ### One publication -/

variable {request : PublishObjectRequest} {result : PublishObjectResult}

/-- A publication that returns returns a ledger of its own request and run. -/
theorem publish_ledger {calls : PublishCalls}
    (h : store.publish host request calls = (store', .ok result)) :
    ∃ state copies failures, makeCopyLedgerDocument host
      (ledgerInput store.config request state copies failures) = .ok result.ledger := by
  rcases RunStore.publish_cases h with ⟨-, -, errors, herror⟩ | ⟨-, -, -, errors, herror⟩ |
    ⟨-, -, hreserved⟩
  · cases herror
  · cases herror
  · have hledger : ∀ copies failures middle,
        publishLedger host store.config calls.ledger request copies failures middle =
          (store'.files, .ok result) →
        ∃ state copies failures, makeCopyLedgerDocument host
          (ledgerInput store.config request state copies failures) = .ok result.ledger := by
      intro copies failures middle h
      unfold publishLedger at h
      simp only at h
      split at h
      · cases h
      · rename_i hmade
        split at h
        · obtain rfl := Except.ok.inj (Prod.mk.inj h).2
          exact ⟨_, _, _, hmade⟩
        · split at h
          · cases h
          · rename_i hagain
            obtain rfl := Except.ok.inj (Prod.mk.inj h).2
            exact ⟨_, _, _, hagain⟩
    have hpublished := hreserved.published
    unfold publishReserved at hpublished
    split at hpublished
    · exact hledger _ _ _ hpublished
    · exact hledger _ _ _ hpublished

/-- The object of a request in both domains, and its ledger, which names the run. -/
structure Filed (host : Host) (runId : Text) (files : StoreFiles) (request : PublishObjectRequest)
    (result : PublishObjectResult) : Prop where
  objects : ∀ domain < 2,
    files.read ⟨domain, .objects, objectName host request.objectId⟩ = some request.bytes
  ledger : files.read (ledgerPath host request.ledgerRecordId) = some result.ledger.bytes
  runId : ledgerText host.conv (ascii "run_id") result.ledger.bytes = some runId
  role : ledgerText host.conv (ascii "object_role") result.ledger.bytes = some request.objectRole

variable {touched : StorePath → Prop}

theorem Filed.keeps (h : Filed host runId files request result)
    (hfiles : Advances touched files files') : Filed host runId files' request result where
  objects domain hdomain := hfiles.read_kept (.inl rfl) (h.objects domain hdomain)
  ledger := hfiles.read_kept (.inr rfl) h.ledger
  runId := h.runId
  role := h.role

/-- The configuration stays, and so does what is published. -/
structure Extends (store store' : RunStore) : Prop where
  config : store'.config = store.config
  files : Advances (fun _ => True) store.files store'.files

instance : Std.Refl Extends := ⟨fun _ => ⟨rfl, .refl _⟩⟩

instance : IsTrans RunStore Extends :=
  ⟨fun _ _ _ h h' => ⟨h'.config.trans h.config, h.files.trans h'.files⟩⟩

section Calls

variable {calls : PublishCalls} {request : PublishObjectRequest}

theorem publishObject_exec {result : Result PublishObjectResult}
    (h : (publishObject host calls request).exec store = (result, store')) :
    store.publish host request calls = (store', result) := by
  rw [← Prod.swap_swap (store.publish host request calls)]
  exact congrArg Prod.swap h

theorem publishObject_keeps : Keeps Extends (publishObject host calls request) := by
  intro store
  rcases hcall : store.publish host request calls with ⟨last, outcome⟩
  obtain ⟨hconfig, hfiles⟩ := RunStore.publish_keeps hcall
  rw [publishObject, exec_of, hcall]
  exact ⟨hconfig, hfiles.mono fun _ _ => trivial⟩

theorem publishObject_filed
    (h : (publishObject host calls request).exec store = (.ok result, store'))
    (hcomplete : isComplete result = true) : request.streamCompleteness = .sealedComplete ∧
      Filed host store.config.runId store'.files request result := by
  have hcall := publishObject_exec h
  simp only [isComplete, Bool.and_eq_true, decide_eq_true_eq] at hcomplete
  obtain ⟨hobjects, hcompleteness, hledger⟩ := RunStore.publish_sealed hcall hcomplete.1
  obtain ⟨state, copies, failures, hmade⟩ := publish_ledger hcall
  exact ⟨hcompleteness, hobjects, hledger, ledger_runId hmade, ledger_objectRole hmade⟩

end Calls

/-! ### One stream -/

/-- A stream that was published, with an envelope that is loaded as the one made for it. -/
structure StreamFiled (host : Host) (runId : Text) (files : StoreFiles)
    (plan : RawStreamPublicationPlan) (published : PublishedRawStream) : Prop where
  completeness : plan.snapshot.completeness = .sealedComplete
  raw : Filed host runId files (rawRequest host plan) published.raw
  envelope : ∃ document result, published.envelope = some result ∧
    Filed host runId files
      (documentRequest plan.envelope "RAW_OBSERVATION_ENVELOPE" document) result ∧
    Protocol.Load.loadRawObservation host.conv document.bytes =
      .ok (externalRawEnvelope (digestText host) plan.snapshot)

variable {plan : RawStreamPublicationPlan} {published : PublishedRawStream}

theorem StreamFiled.keeps (h : StreamFiled host runId files plan published)
    (hfiles : Advances touched files files') : StreamFiled host runId files' plan published where
  completeness := h.completeness
  raw := h.raw.keeps hfiles
  envelope := by
    obtain ⟨document, result, hresult, hfiled, hload⟩ := h.envelope
    exact ⟨document, result, hresult, hfiled.keeps hfiles, hload⟩

/-- The stream of a slot, which has not overflowed. -/
structure SlotFiled (host : Host) (runId : Text) (files : StoreFiles)
    (slot : Option RawStreamPublicationPlan) (stream : Option PublishedRawStream)
    (plan : RawStreamPublicationPlan) (published : PublishedRawStream) : Prop
    extends StreamFiled host runId files plan published where
  slot : slot = some plan
  stream : stream = some published
  overflowed : plan.snapshot.overflowed = false

variable {slot : Option RawStreamPublicationPlan} {stream : Option PublishedRawStream}

theorem SlotFiled.keeps (h : SlotFiled host runId files slot stream plan published)
    (hfiles : Advances touched files files') :
    SlotFiled host runId files' slot stream plan published :=
  { h with toStreamFiled := h.toStreamFiled.keeps hfiles }

section Streams

variable {calls : StreamCalls} {reference : ArtifactRefText}

theorem publishStream_keeps (plan : RawStreamPublicationPlan) :
    Keeps Extends (publishStream host calls plan reference) := by
  unfold publishStream
  refine .guard _ _ (.bind publishObject_keeps fun raw => ?_)
  split
  · exact .pure _
  · refine .bind (fun store => Std.Refl.refl store) fun _ => .bind (.lift _) fun _ => ?_
    exact .bind publishObject_keeps fun _ => .pure _

theorem publishStream_filed
    (h : (publishStream host calls plan reference).exec store = (.ok published, store'))
    (hcomplete : streamComplete (some published) = true) :
    StreamFiled host store.config.runId store'.files plan published := by
  unfold publishStream at h
  obtain ⟨-, h⟩ := guard_ok h
  obtain ⟨raw, middle, hraw, h⟩ := bind_ok h
  have hextends : Extends store middle := publishObject_keeps.exec hraw
  split at h
  · obtain ⟨hpublished, -⟩ := Prod.mk.inj h
    obtain rfl := Except.ok.inj hpublished
    simp [streamComplete] at hcomplete
  · obtain ⟨seen, same, hget, h⟩ := bind_ok h
    obtain ⟨-, rfl⟩ := Prod.mk.inj hget
    obtain ⟨document, same, hlifted, h⟩ := bind_ok h
    obtain ⟨hmade, rfl⟩ := Prod.mk.inj hlifted
    obtain ⟨result, last, hresult, h⟩ := bind_ok h
    obtain ⟨hpublished, rfl⟩ := Prod.mk.inj h
    obtain rfl := Except.ok.inj hpublished
    simp only [streamComplete, Option.any_some, Bool.and_eq_true] at hcomplete
    obtain ⟨hcompleteness, hrawFiled⟩ := publishObject_filed hraw hcomplete.1
    obtain ⟨-, hfiled⟩ := publishObject_filed hresult hcomplete.2
    rw [hextends.config] at hfiled
    exact ⟨hcompleteness, hrawFiled.keeps (publishObject_keeps.exec hresult).files,
      document.document, result, rfl, hfiled, makeExternalRawEnvelope_ok hmade⟩

theorem publishSlot_keeps (label : Text) (slot : Option RawStreamPublicationPlan) :
    Keeps Extends (publishSlot host label calls slot reference) := by
  unfold publishSlot
  split
  · exact .pure _
  · exact .bind (publishStream_keeps _) fun _ => .pure _

/-- A slot with nothing to report has a stream, published and not overflowed. -/
theorem publishSlot_filed {label : Text} {failures : List Text}
    (h : (publishSlot host label calls slot reference).exec store =
      (.ok (stream, failures), store'))
    (hcomplete : streamComplete stream = true) (hfailures : failures = []) :
    ∃ plan published,
      SlotFiled host store.config.runId store'.files slot stream plan published := by
  unfold publishSlot at h
  split at h
  · obtain ⟨hstream, -⟩ := Prod.mk.inj h
    obtain ⟨rfl, -⟩ := Prod.mk.inj (Except.ok.inj hstream)
    cases hcomplete
  · rename_i plan
    obtain ⟨published, middle, hpublished, h⟩ := bind_ok h
    obtain ⟨hstream, rfl⟩ := Prod.mk.inj h
    obtain ⟨rfl, rfl⟩ := Prod.mk.inj (Except.ok.inj hstream)
    refine ⟨plan, published, publishStream_filed hpublished hcomplete, rfl, rfl, ?_⟩
    have hoverflow := (List.append_eq_nil_iff.mp hfailures).2
    simpa using hoverflow

end Streams

/-! ### The run -/

/-- Everything a sealed finalization has published, under the run of its ledgers. -/
structure SealedRun (host : Host) (runId : Text) (files : StoreFiles)
    (request : RunObservationFinalizationRequest)
    (result : RunObservationFinalizationResult) : Prop where
  measured : request.measurementCompleted = true
  failures : result.failures = []
  integrity : ∃ document, makePhaseIntegrityDocument host request.integrity = .ok document ∧
    Filed host runId files
      (documentRequest request.integrityPublication "PHASE_INTEGRITY_REPORT" document)
      result.integrity
  streams : ∃ producer consumer publishedProducer publishedConsumer,
    SlotFiled host runId files request.producer result.producer producer publishedProducer ∧
    SlotFiled host runId files request.consumer result.consumer consumer publishedConsumer ∧
    producer.snapshot.runId.value = request.runId ∧
    consumer.snapshot.runId.value = request.runId

/-- A sealed finalization has published all five objects, with ledgers of the store's run. -/
theorem finalizeRunObservations_sealed {calls : FinalizationCalls}
    {request : RunObservationFinalizationRequest} {result : RunObservationFinalizationResult}
    (h : (finalizeRunObservations host calls request).exec store = (.ok result, store'))
    (hsealed : result.finalizationState = .sealedComplete) :
    SealedRun host store.config.runId store'.files request result := by
  unfold finalizeRunObservations at h
  obtain ⟨-, h⟩ := guard_ok h
  obtain ⟨hids, h⟩ := guard_ok h
  obtain ⟨document, same, hlifted, h⟩ := bind_ok h
  obtain ⟨hdocument, rfl⟩ := Prod.mk.inj hlifted
  obtain ⟨integrity, first, hintegrity, h⟩ := bind_ok h
  obtain ⟨⟨producer, producerFailures⟩, second, hproducer, h⟩ := bind_ok h
  obtain ⟨⟨consumer, consumerFailures⟩, third, hconsumer, h⟩ := bind_ok h
  obtain ⟨hresult, rfl⟩ := Prod.mk.inj h
  obtain rfl := Except.ok.inj hresult
  -- the run is sealed only if every part of the conjunction is true
  simp only at hsealed
  split at hsealed
  · rename_i hcomplete
    simp only [Bool.and_eq_true, List.isEmpty_iff] at hcomplete
    obtain ⟨⟨⟨⟨hmeasured, hintegrityComplete⟩, hproducerComplete⟩, hconsumerComplete⟩,
      hfailures⟩ := hcomplete
    obtain ⟨hearly, hconsumerFailures⟩ := List.append_eq_nil_iff.mp hfailures
    obtain ⟨-, hproducerFailures⟩ := List.append_eq_nil_iff.mp hearly
    obtain ⟨-, hfiled⟩ := publishObject_filed hintegrity hintegrityComplete
    obtain ⟨producerPlan, publishedProducer, hproducerFiled⟩ :=
      publishSlot_filed hproducer hproducerComplete hproducerFailures
    obtain ⟨consumerPlan, publishedConsumer, hconsumerFiled⟩ :=
      publishSlot_filed hconsumer hconsumerComplete hconsumerFailures
    have hfirst := publishObject_keeps.exec hintegrity
    have hsecond := (publishSlot_keeps _ _).exec hproducer
    have hthird := (publishSlot_keeps _ _).exec hconsumer
    rw [hsecond.config, hfirst.config] at hconsumerFiled
    rw [hfirst.config] at hproducerFiled
    refine ⟨hmeasured, ?_, ⟨document, hdocument, (hfiled.keeps hsecond.files).keeps hthird.files⟩,
      producerPlan, consumerPlan, publishedProducer, publishedConsumer,
      hproducerFiled.keeps hthird.files, hconsumerFiled, ?_⟩
    · rw [hmeasured, if_pos rfl]
      exact hfailures
    · simpa [hproducerFiled.slot, hconsumerFiled.slot] using hids
  · cases hsealed

/-! ### What the two streams are -/

/-- The kind of stream that the role of a raw object names. -/
def kindOfRole (role : Text) : Option StreamKind :=
  if role = ascii "PRODUCER_RAW" then some .producer
  else if role = ascii "CONSUMER_RAW" then some .consumer
  else none

/-- The published envelope decodes the published bytes, to the kind the role names. -/
def DecodesToRole (host : Host) (files : StoreFiles) (plan : RawStreamPublicationPlan)
    (published : PublishedRawStream) : Prop :=
  ∃ bytes envelopeBytes envelope stream role,
    files.read ⟨0, .objects, objectName host plan.raw.objectId⟩ = some bytes ∧
    files.read ⟨0, .objects, objectName host plan.envelope.objectId⟩ = some envelopeBytes ∧
    Protocol.Load.loadRawObservation host.conv envelopeBytes = .ok envelope ∧
    decodeExternalRaw (digestText host) envelope bytes = .ok stream ∧
    ledgerText host.conv (ascii "object_role") published.raw.ledger.bytes = some role ∧
    kindOfRole role = some stream.streamKind

theorem kindOfRole_rawObjectRole {kind : StreamKind} (h : kind ≠ .joinedDerived) :
    kindOfRole (rawObjectRole kind) = some kind := by
  cases kind with
  | producer => decide
  | consumer => decide
  | joinedDerived => cases h rfl

section Decoded

variable {plan : RawStreamPublicationPlan} {published : PublishedRawStream}

/-- A published stream is decoded just as its snapshot is. -/
theorem StreamFiled.decodes_iff (h : StreamFiled host runId files plan published)
    (hkind : plan.snapshot.streamKind ≠ .joinedDerived) :
    DecodesToRole host files plan published ↔
      ∃ stream, decodeExternalRaw (digestText host)
        (externalRawEnvelope (digestText host) plan.snapshot) plan.snapshot.bytes =
          .ok stream := by
  obtain ⟨document, result, -, hfiled, hload⟩ := h.envelope
  have hraw := h.raw.objects 0 (by decide)
  have henvelope := hfiled.objects 0 (by decide)
  constructor
  · rintro ⟨bytes, envelopeBytes, envelope, stream, role, hbytes, henvelopeBytes, hloaded,
      hdecoded, -⟩
    obtain rfl := Option.some.inj (hraw.symm.trans hbytes)
    obtain rfl := Option.some.inj (henvelope.symm.trans henvelopeBytes)
    obtain rfl := Except.ok.inj (hload.symm.trans hloaded)
    exact ⟨stream, hdecoded⟩
  · rintro ⟨stream, hdecoded⟩
    obtain ⟨-, -, -, -, hstreamKind, -⟩ := decodeExternalRaw_ok hdecoded
    refine ⟨_, _, _, stream, _, hraw, henvelope, hload, hdecoded, h.raw.role, ?_⟩
    rw [hstreamKind]
    exact kindOfRole_rawObjectRole hkind

theorem StreamFiled.decodes_producer (h : StreamFiled host runId files plan published)
    (hkind : plan.snapshot.streamKind = .producer) :
    DecodesToRole host files plan published ↔ plan.snapshot.OfProducer := by
  rw [h.decodes_iff (by rw [hkind]; nofun), decode_producer_iff (digestText host) hkind]

theorem StreamFiled.decodes_consumer (h : StreamFiled host runId files plan published)
    (hkind : plan.snapshot.streamKind = .consumer) :
    DecodesToRole host files plan published ↔ plan.snapshot.OfConsumer := by
  rw [h.decodes_iff (by rw [hkind]; nofun), decode_consumer_iff (digestText host) hkind]

end Decoded

/-- One stream is the producer's and the other the consumer's. -/
def OneOfEach (left right : StreamKind) : Prop :=
  (left = .producer ∧ right = .consumer) ∨ (left = .consumer ∧ right = .producer)

/-- A complete run: everything is published under the run of the request, and decodes. -/
structure CompleteRun (host : Host) (files : StoreFiles)
    (request : RunObservationFinalizationRequest) (result : RunObservationFinalizationResult) : Prop
    extends SealedRun host request.runId files request result where
  kinds : ∀ producer ∈ request.producer, ∀ consumer ∈ request.consumer,
    OneOfEach producer.snapshot.streamKind consumer.snapshot.streamKind
  decodedProducer : ∀ plan ∈ request.producer, ∀ published ∈ result.producer,
    DecodesToRole host files plan published
  decodedConsumer : ∀ plan ∈ request.consumer, ∀ published ∈ result.consumer,
    DecodesToRole host files plan published

/-- The store is for the run of the request, and the two streams are a run's. -/
structure OneRun (store : RunStore) (request : RunObservationFinalizationRequest) : Prop where
  runId : store.config.runId = request.runId
  streams : ∀ producer ∈ request.producer, ∀ consumer ∈ request.consumer,
    (producer.snapshot.OfProducer ∧ consumer.snapshot.OfConsumer) ∨
      (producer.snapshot.OfConsumer ∧ consumer.snapshot.OfProducer)

variable {snapshot : RawStreamSnapshot}

theorem RawStreamSnapshot.OfProducer.kind (h : snapshot.OfProducer) :
    snapshot.streamKind = .producer := by
  obtain ⟨rows, hholds, -⟩ := h
  exact hholds.kind

theorem RawStreamSnapshot.OfConsumer.kind (h : snapshot.OfConsumer) :
    snapshot.streamKind = .consumer := by
  obtain ⟨rows, hholds, -⟩ := h
  exact hholds.kind

/-- Two published streams decode, one of each kind, exactly when they are a run's. -/
theorem decodes_both_iff {slot' : Option RawStreamPublicationPlan}
    {stream' : Option PublishedRawStream} {plan' : RawStreamPublicationPlan}
    {published' : PublishedRawStream} (h : SlotFiled host runId files slot stream plan published)
    (h' : SlotFiled host runId files slot' stream' plan' published') :
    (OneOfEach plan.snapshot.streamKind plan'.snapshot.streamKind ∧
      DecodesToRole host files plan published ∧ DecodesToRole host files plan' published') ↔
    (plan.snapshot.OfProducer ∧ plan'.snapshot.OfConsumer) ∨
      (plan.snapshot.OfConsumer ∧ plan'.snapshot.OfProducer) := by
  constructor
  · rintro ⟨⟨hkind, hkind'⟩ | ⟨hkind, hkind'⟩, hdecodes, hdecodes'⟩
    · exact .inl ⟨(h.decodes_producer hkind).mp hdecodes, (h'.decodes_consumer hkind').mp hdecodes'⟩
    · exact .inr ⟨(h.decodes_consumer hkind).mp hdecodes, (h'.decodes_producer hkind').mp hdecodes'⟩
  · rintro (⟨hof, hof'⟩ | ⟨hof, hof'⟩)
    · exact ⟨.inl ⟨hof.kind, hof'.kind⟩, (h.decodes_producer hof.kind).mpr hof,
        (h'.decodes_consumer hof'.kind).mpr hof'⟩
    · exact ⟨.inr ⟨hof.kind, hof'.kind⟩, (h.decodes_consumer hof.kind).mpr hof,
        (h'.decodes_producer hof'.kind).mpr hof'⟩

/--
**A sealed finalization is a complete run exactly when its caller gave it one run.**
Nothing compares the run of the store with the run of the request, nor the kinds of the
two snapshots, and nothing reads their rows before they are published.
-/
theorem sealed_run_complete_iff (host : Host) (store store' : RunStore) (calls : FinalizationCalls)
    (request : RunObservationFinalizationRequest) (result : RunObservationFinalizationResult)
    (h : (finalizeRunObservations host calls request).exec store = (.ok result, store'))
    (hsealed : result.finalizationState = .sealedComplete) :
    CompleteRun host store'.files request result ↔ OneRun store request := by
  have hrun := finalizeRunObservations_sealed h hsealed
  obtain ⟨producer, consumer, publishedProducer, publishedConsumer, hproducer, hconsumer, -⟩ :=
    hrun.streams
  have hboth := decodes_both_iff hproducer hconsumer
  constructor
  · intro hcomplete
    constructor
    · -- the ledger of the integrity report is the same one on both sides
      obtain ⟨document, -, hfiled⟩ := hrun.integrity
      obtain ⟨document', -, hfiled'⟩ := hcomplete.integrity
      exact Option.some.inj (hfiled.runId.symm.trans hfiled'.runId)
    · simp only [hproducer.slot, hconsumer.slot, Option.mem_some_iff, forall_eq']
      exact hboth.mp ⟨hcomplete.kinds _ hproducer.slot _ hconsumer.slot,
        hcomplete.decodedProducer _ hproducer.slot _ hproducer.stream,
        hcomplete.decodedConsumer _ hconsumer.slot _ hconsumer.stream⟩
  · intro hone
    obtain ⟨hkinds, hdecodes, hdecodes'⟩ :=
      hboth.mpr (hone.streams _ hproducer.slot _ hconsumer.slot)
    rw [hone.runId] at hrun
    refine { hrun with kinds := ?_, decodedProducer := ?_, decodedConsumer := ?_ }
    · simp only [hproducer.slot, hconsumer.slot, Option.mem_some_iff, forall_eq']
      exact hkinds
    · simp only [hproducer.slot, hproducer.stream, Option.mem_some_iff, forall_eq']
      exact hdecodes
    · simp only [hconsumer.slot, hconsumer.stream, Option.mem_some_iff, forall_eq']
      exact hdecodes'

/-! Streams of two arrivals, finalized once in the store of their run and once in another. -/

/-- The SHA-256 digests of the texts that the two finalizations hash, by their lengths. -/
def runDigests : List (Nat × Nat) :=
  [(1, 0x454349e422f05297191ead13e21d3db520e5abef52055e4964b82fb213f593a1),
    (2, 0x961b6dd3ede3cb8ecbaacbd68de040cd78eb2ed5889130cceb4c49268ea4d506),
    (3, 0x9834876dcfb05cb167a5c24953eba58c4ac89b1adf57f28f2f9d09af107ee8f0),
    (4, 0x61be55a8e2f6b4e172338bddf184d6dbee29c98853e0a0485ecee7f27b9af0b4),
    (7, 0x5252f52cb79e2276783cfdca50304fed06a0eabc8dbcc3abfe3aaac5792c4fc6),
    (8, 0x1f3ce40415a2081fa3eee75fc39fff8e56c22270d1a978a7249b592dcebd20b4),
    (9, 0xf2aca93b80cae681221f0445fa4e2cae8a1f9f8fa1e1741d9639caad222f537d),
    (88, 0xb4b10921a1af314163fe5cd517551913b88e953dcc32e0d9a2b18432dca7b899),
    (256, 0x78cf9f6f07815eedf24b7a03091458167d519fe25bd61547434deac8b896cbef),
    (834, 0x787ebde7cf64495883cc46ce2e3dd35575e3c8a8145e62694a74976884ab0eed),
    (835, 0x388bc083a163d3ce7a5a75680e67aaca137553851d699b63ca2edb350f1d72d7),
    (838, 0xcf0ad0eb770af72b933af7cfb8a5de6a6258002051cbef2790410295f1df63a3),
    (839, 0xdadc5a4f04649e7061dc3d2b148bf64a079fd54e24cbe3f6839aecb41ee8d928),
    (1133, 0x27498d5600e252cc52e70ebb4be87703515e83e36bf1ffe8cd586e99107ad500),
    (1275, 0xc704559c2c0233d75e612a42d40d209c2fef5f464785c49579c427b760fe23d2),
    (1282, 0x4cf69fbe46eaa7090e1c4c741fb979f995e7129d9b54f19722c83951db9ca208),
    (1285, 0x7552e4dc079d7b874530baefcc68c074ece39d6f3f7b80f8deb1baa7bbdf4706),
    (1287, 0xff16b67cf0df19a706b35b0cb29a6fee060075784ccd37e74a62ea74054c8a63),
    (1290, 0x334591c24f6bc49c7ff2587f4eb163942b5cd8984aaa291f416880452ef5a8ca),
    (1292, 0x7ddfbaa193b3862ccbc7f22c85242dfc89078836622bc034fedd9d7c8516c982),
    (1294, 0xf78e159c5e151cdacaabc97bb7895b3af4e0fa930d47416153101b398a939ea7),
    (1297, 0xfba50e0fa045f085963c41f20d40a9437fe0df089dcb21923be71881202041b0),
    (1305, 0x86201c94cf22cfc56c69561e62fb1ac601b830b60294b24c34c617c57330af82),
    (1312, 0x618c38aa80a45aa46c2a8b03dc0a7e9caaafbf51780aeddf9203b7d33830f30b)]

/-- The spelling of a digest. -/
def digestHex (digest : Nat) : Text :=
  (List.range 64).map fun index =>
    Protocol.Json.hexDigitText (.ofNat (digest >>> (4 * (63 - index)) % 16))

def runHost : Host where
  conv := ⟨fun _ => none, fun _ => none⟩
  sha256 text := ((runDigests.lookup text.length).map digestHex).getD []

/-- A new store for a run. -/
def newStore (runId root : Text) (hrunId : runId ≠ []) (hroot : root ≠ [47, 113]) : RunStore where
  config := ⟨runId, [116], [⟨[49], root⟩, ⟨[50], [47, 113]⟩], {}, .createNew⟩
  valid := ⟨hrunId, nofun, _, _, rfl, nofun, nofun, by simp, hroot⟩
  objectIds := []
  artifactIds := []
  files := ⟨fun _ => none, fun _ => [], 0, Files.allocated_none⟩

def ownStore : RunStore := newStore [114] [47, 112] nofun (by decide)

def otherStore : RunStore := newStore (List.replicate 7 114) [47, 112, 112] nofun (by decide)

/-- An identifier of this length. -/
def planOf (length : Nat) : ArtifactPublicationPlan :=
  ⟨List.replicate length 97, List.replicate length 97, List.replicate length 97⟩

/-- The rows of the example run, as they are stored. -/
def rowBytesOf (rows : List (List UInt64)) : List UInt8 :=
  (rows.map fun words => [1, 0, 0, 0, 114, 0, 0, 0] ++ storeWords words).flatten

def producerSnapshot : RawStreamSnapshot :=
  ⟨.producer, exampleRun, rowBytesOf (exampleProducerRows.map producerWords), 2, 2, 128,
    .sealedComplete, false⟩

def consumerSnapshot : RawStreamSnapshot :=
  ⟨.consumer, exampleRun, rowBytesOf (exampleConsumerRows.map consumerWords), 1, 2, 88,
    .sealedComplete, false⟩

theorem zeros_checksum : Protocol.validSha256 (List.replicate 64 48) = true := by decide

def noChecksum : Protocol.Sha256 := ⟨List.replicate 64 48, zeros_checksum⟩

def exampleRequest : RunObservationFinalizationRequest where
  runId := [114]
  measurementCompleted := true
  integrity := ⟨List.replicate 2 97, [114], ⟨0⟩, noChecksum, noChecksum, noChecksum, noChecksum⟩
  integrityPublication := planOf 2
  producer := some ⟨producerSnapshot, planOf 3, planOf 4⟩
  consumer := some ⟨consumerSnapshot, planOf 8, planOf 9⟩

def noFailures : FinalizationCalls :=
  ⟨RunStore.noFailure, ⟨RunStore.noFailure, RunStore.noFailure⟩,
    ⟨RunStore.noFailure, RunStore.noFailure⟩⟩

/-- The finalization of the run in a store. -/
def finalizeIn (store : RunStore) : Result RunObservationFinalizationResult × RunStore :=
  (finalizeRunObservations runHost noFailures exampleRequest).exec store

/-- The ledger of a publication in a store can be made. -/
def ledgerReady (store : RunStore) (request : PublishObjectRequest) : Bool :=
  match store.config.domains with
  | [primary, secondary] =>
      (makeCopyLedgerDocument runHost (ledgerInput store.config request .sealedComplete
        [exactCopy runHost store.config request 0 primary,
          exactCopy runHost store.config request 1 secondary] [])).toOption.any
        fun ledger => ledger.bytes.length < 2 ^ 64
  | _ => false

variable {primary secondary : LocalStorageDomain}

theorem ledgerMade_of_ready (hdomains : store.config.domains = [primary, secondary])
    (h : ledgerReady store request = true) :
    LedgerMade runHost store.config request primary secondary := by
  unfold ledgerReady at h
  rw [hdomains] at h
  simp only at h
  rcases hmade : makeCopyLedgerDocument runHost _ with errors | ledger
  · rw [hmade] at h
    cases h
  · rw [hmade] at h
    exact ⟨ledger, hmade, of_decide_eq_true h⟩

/-- A document can be published in a store under an identifier of this length. -/
def documentReady (store : RunStore) (length : Nat) (role : String)
    (document : CanonicalDocument) : Bool :=
  runHost.sha256 document.bytes = document.sha256 && document.bytes.length < 2 ^ 64 &&
    nonempty [List.replicate length 97, ascii role] &&
    ledgerReady store (documentRequest (planOf length) role document)

theorem publishable_of_ready {length : Nat} {role : String} {document : CanonicalDocument}
    (hdomains : store.config.domains = [primary, secondary])
    (h : documentReady store length role document = true) :
    Publishable runHost store.config (List.replicate length 97) role primary secondary
      document := by
  simp only [documentReady, Bool.and_eq_true, decide_eq_true_eq] at h
  exact ⟨h.1.1.1, h.1.1.2, h.1.2, ledgerMade_of_ready hdomains h.2⟩

/-- The reference to the integrity report. -/
def reportReference : ArtifactRefText :=
  ⟨List.replicate 2 97,
    digestHex 0x27498d5600e252cc52e70ebb4be87703515e83e36bf1ffe8cd586e99107ad500⟩

/-- The integrity report of the run can be published. -/
def reportReady (store : RunStore) : Bool :=
  (makePhaseIntegrityDocument runHost exampleRequest.integrity).toOption.any fun document =>
    document.sha256 = reportReference.sha256 &&
      documentReady store 2 "PHASE_INTEGRITY_REPORT" document

/-- The envelope of a stream in a store. -/
def streamEnvelope (store : RunStore) (snapshot : RawStreamSnapshot) (rawLength : Nat) :
    Result RawEnvelopeDocument :=
  match store.config.domains with
  | [primary, _] =>
      makeExternalRawEnvelope runHost (envelopeInput runHost
        ⟨snapshot, planOf rawLength, planOf (rawLength + 1)⟩
        (objectUri runHost store.config primary (List.replicate rawLength 97)) reportReference)
  | _ => .error []

/-- A stream can be published. -/
def rawReady (store : RunStore) (snapshot : RawStreamSnapshot) (rawLength : Nat) : Bool :=
  snapshot.completeness = .sealedComplete && !snapshot.overflowed &&
    snapshot.bytes.length < 2 ^ 64 &&
    nonempty [List.replicate rawLength 97, rawObjectRole snapshot.streamKind] &&
    ledgerReady store (rawRequest runHost ⟨snapshot, planOf rawLength, planOf (rawLength + 1)⟩)

/-- Its envelope can be published. -/
def envelopeReady (store : RunStore) (snapshot : RawStreamSnapshot) (rawLength : Nat) : Bool :=
  (streamEnvelope store snapshot rawLength).toOption.any fun envelope =>
    documentReady store (rawLength + 1) "RAW_OBSERVATION_ENVELOPE" envelope.document

theorem streamPublishable_of_ready {rawLength : Nat}
    (hdomains : store.config.domains = [primary, secondary])
    (hraw : rawReady store snapshot rawLength = true)
    (henvelope : envelopeReady store snapshot rawLength = true) :
    StreamPublishable runHost store.config primary secondary reportReference snapshot
      (List.replicate rawLength 97) (List.replicate (rawLength + 1) 97) := by
  simp only [rawReady, Bool.and_eq_true, decide_eq_true_eq, Bool.not_eq_true'] at hraw
  obtain ⟨⟨⟨⟨hcomplete, hoverflow⟩, hsize⟩, hids⟩, hledger⟩ := hraw
  simp only [envelopeReady, streamEnvelope, hdomains] at henvelope
  refine ⟨hcomplete, hoverflow, hsize, hids, ledgerMade_of_ready hdomains hledger, ?_⟩
  rcases hmade : makeExternalRawEnvelope runHost (envelopeInput runHost
      ⟨snapshot, planOf rawLength, planOf (rawLength + 1)⟩
      (objectUri runHost store.config primary (List.replicate rawLength 97)) reportReference) with
    errors | envelope
  · rw [hmade] at henvelope
    cases henvelope
  · rw [hmade] at henvelope
    exact ⟨envelope, hmade, publishable_of_ready hdomains henvelope⟩

/-- Every document of the run can be published. -/
structure RunReady (store : RunStore) : Prop where
  report : reportReady store = true
  producer : rawReady store producerSnapshot 3 = true
  producerEnvelope : envelopeReady store producerSnapshot 3 = true
  consumer : rawReady store consumerSnapshot 8 = true
  consumerEnvelope : envelopeReady store consumerSnapshot 8 = true

theorem runReady : RunReady ownStore ∧ RunReady otherStore :=
  ⟨⟨by decide +kernel, by decide +kernel, by decide +kernel, by decide +kernel, by decide +kernel⟩,
    by decide +kernel, by decide +kernel, by decide +kernel, by decide +kernel, by decide +kernel⟩

theorem noFailures_faultless : noFailures.Faultless :=
  have hcalls : RunStore.noFailure.Faultless := ⟨fun _ _ => ⟨_, rfl⟩, fun _ => ⟨_, rfl⟩⟩
  ⟨hcalls, ⟨hcalls, hcalls⟩, hcalls, hcalls⟩

theorem runNames_nodup : ([2, 3, 4, 8, 9].map fun length =>
    objectName runHost (List.replicate length 97)).Nodup := by decide

/-- The producer's rows, published in the store of their run, are in both domains. -/
theorem append_only_store_published : ∃ result store',
    ownStore.publish runHost (rawRequest runHost ⟨producerSnapshot, planOf 3, planOf 4⟩)
        RunStore.noFailure = (store', .ok result) ∧
      SealedFiles runHost (rawRequest runHost ⟨producerSnapshot, planOf 3, planOf 4⟩) result
        store'.files := by
  have hready := runReady.1.producer
  simp only [rawReady, Bool.and_eq_true, decide_eq_true_eq] at hready
  obtain ⟨⟨⟨-, hsize⟩, hids⟩, hledger⟩ := hready
  have hawaits : ownStore.Awaits runHost [List.replicate 3 97] :=
    ⟨rfl, rfl, nofun, nofun, fun _ _ _ _ => rfl⟩
  have hexact : ∀ host : Host,
      (rawRequest host ⟨producerSnapshot, planOf 3, planOf 4⟩).Exact host :=
    fun _ => ⟨rfl, hsize⟩
  obtain ⟨result, store', hexec, hcomplete, -⟩ := hawaits.publishObject ⟨rfl, rfl, rfl⟩ nofun
    noFailures_faultless.integrity (hexact _) hids rfl rfl (ledgerMade_of_ready rfl hledger)
  have hcall := publishObject_exec hexec
  exact ⟨result, store', hcall, (RunStore.append_only_store runHost ownStore []).2.1 _ _ _ _ hcall
    hcomplete.isComplete.1⟩

/-- The run is sealed in a new store that can publish its documents. -/
theorem exists_sealed {runId root : Text} {hrunId : runId ≠ []} {hroot : root ≠ [47, 113]}
    (hready : RunReady (newStore runId root hrunId hroot)) :
    ∃ result store', finalizeIn (newStore runId root hrunId hroot) = (.ok result, store') ∧
      result.finalizationState = .sealedComplete := by
  have hawaits : (newStore runId root hrunId hroot).Awaits runHost
      ([2, 3, 4, 8, 9].map fun length => List.replicate length 97) :=
    ⟨rfl, rfl, nofun, nofun, fun _ _ _ _ => rfl⟩
  have hreport := hready.report
  unfold reportReady at hreport
  rcases hmade : makePhaseIntegrityDocument runHost exampleRequest.integrity with errors | document
  · rw [hmade] at hreport
    cases hreport
  rw [hmade] at hreport
  obtain ⟨hreference, hdocument⟩ := Bool.and_eq_true_iff.mp hreport
  have hreference' : reportReference = ⟨exampleRequest.integrity.artifactId, document.sha256⟩ := by
    rw [of_decide_eq_true hreference]
    rfl
  have hstream := streamPublishable_of_ready rfl hready.producer hready.producerEnvelope
  have hstream' := streamPublishable_of_ready rfl hready.consumer hready.consumerEnvelope
  rw [hreference'] at hstream hstream'
  exact finalizeRunObservations_done noFailures_faultless ⟨nofun, rfl⟩ ⟨rfl, rfl⟩ rfl hawaits
    runNames_nodup rfl hmade (publishable_of_ready rfl hdocument) hstream hstream'

/-- A run is sealed in the store of another run: its ledgers name the other run. -/
theorem sealed_run_of_another_store :
    ∃ result store', finalizeIn otherStore = (.ok result, store') ∧
      result.finalizationState = .sealedComplete ∧
      ledgerText runHost.conv (ascii "run_id") result.integrity.ledger.bytes =
        some otherStore.config.runId ∧
      otherStore.config.runId ≠ exampleRequest.runId ∧
      ¬CompleteRun runHost store'.files exampleRequest result := by
  obtain ⟨result, store', hexec, hsealed⟩ : ∃ result store',
      finalizeIn otherStore = (.ok result, store') ∧
        result.finalizationState = .sealedComplete :=  exists_sealed runReady.2
  obtain ⟨document, -, hfiled⟩ := (finalizeRunObservations_sealed hexec hsealed).integrity
  have hruns : otherStore.config.runId ≠ exampleRequest.runId := by decide
  refine ⟨result, store', hexec, hsealed, hfiled.runId, hruns, ?_⟩
  intro hcomplete
  obtain ⟨document', -, hfiled'⟩ := hcomplete.integrity
  exact hruns (Option.some.inj (hfiled.runId.symm.trans hfiled'.runId))

theorem producerSnapshot_ofProducer : producerSnapshot.OfProducer := by
  refine ⟨exampleProducerRows, ⟨rfl, rfl, by decide +kernel, _, rfl, rfl⟩,
    ⟨⟨rfl, rfl, rfl⟩, ⟨rfl, rfl, rfl⟩, trivial⟩, ?_⟩
  simp only [exampleProducerRows, List.mem_cons, List.not_mem_nil, or_false, forall_eq_or_imp,
    forall_eq]
  exact ⟨fun _ => rfl, fun _ => rfl⟩

theorem consumerSnapshot_ofConsumer : consumerSnapshot.OfConsumer := by
  refine ⟨exampleConsumerRows, ⟨rfl, rfl, by decide +kernel, _, rfl, rfl⟩, ⟨rfl, trivial⟩, ?_⟩
  simp only [exampleConsumerRows, List.mem_singleton, forall_eq]
  exact fun _ => rfl

theorem sealed_run_complete_rows :
    ∃ result store', finalizeIn ownStore = (.ok result, store') ∧
      result.finalizationState = .sealedComplete ∧
      CompleteRun runHost store'.files exampleRequest result := by
  obtain ⟨result, store', hexec, hsealed⟩ : ∃ result store',
      finalizeIn ownStore = (.ok result, store') ∧
        result.finalizationState = .sealedComplete :=  exists_sealed runReady.1
  refine ⟨result, store', hexec, hsealed, ?_⟩
  refine (sealed_run_complete_iff runHost ownStore store' noFailures exampleRequest result hexec
    hsealed).mpr ⟨rfl, ?_⟩
  simp only [exampleRequest, Option.mem_some_iff, forall_eq']
  exact .inl ⟨producerSnapshot_ofProducer, consumerSnapshot_ofConsumer⟩

end CpuPrefetch.Storage
