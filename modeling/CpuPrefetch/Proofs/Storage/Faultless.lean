/-
Publications in which no call fails.

Every call may fail, so a publication may end in many ways.  Here is the one in which it
goes through: the paths it needs are free, its plan has no fault, and every call is done.
Then both copies are there and verified, and the ledger record says so.
-/
import CpuPrefetch.Proofs.Storage.AppendOnly
import CpuPrefetch.Storage.Finalization

namespace CpuPrefetch.Storage

open List Effect Files
open Protocol (Text ascii Result)

/-- No call fails. -/
def Faultless {C : Type} (calls : C → Answer) : Prop := ∀ call, ∃ more, calls call = .done more

structure PublishCalls.Faultless (calls : PublishCalls) : Prop where
  copy : ∀ index, Storage.Faultless (calls.copy index)
  ledger : Storage.Faultless calls.ledger

/-! ### Calls -/

theorem writeLoop_done {calls : Nat → Answer} (hcalls : Faultless calls)
    {size fuel index written : Nat} :
    (writeLoop calls none size fuel index written).2 = none := by
  induction fuel generalizing index written with
  | zero => rfl
  | succ fuel ih =>
      obtain ⟨more, hmore⟩ := hcalls index
      rw [writeLoop, hmore]
      split
      · exact ih
      · rfl

section Calls

variable {calls : CopyCall → Answer} {files : StoreFiles} {path target : StorePath} {bytes : Text}
  {operation : String} {host : Host}

theorem stageFile_done (hcalls : Faultless calls) (hfree : files.entries path = none) :
    (stageFile calls path false none bytes).exec files =
      (.ok (), (files.create path).append files.next bytes) := by
  obtain ⟨more, hcreate⟩ := hcalls .create
  have hwrite : writeComplete (fun index => calls (.write index)) none bytes.length =
      (bytes.length, none) := by
    have hdone : (writeComplete (fun index => calls (.write index)) none bytes.length).2 = none :=
      writeLoop_done fun index => hcalls (.write index)
    exact Prod.ext (writeComplete_complete (Prod.ext rfl hdone)) hdone
  unfold stageFile
  rw [exec_of, hcreate, hfree]
  simp [hwrite]

theorem linkFile_done {answer : Answer} (h : ∃ more, answer = .done more)
    (hpath : (files.entries path).isSome) (hfree : files.entries target = none) :
    (linkFile answer operation path target).exec files = (.ok (), files.link path target) := by
  obtain ⟨more, rfl⟩ := h
  obtain ⟨file, hfile⟩ := Option.isSome_iff_exists.mp hpath
  unfold linkFile
  rw [exec_of]
  simp [hfile, hfree]

theorem fileIdentity_done {calls : ReadCall → Answer} (hcalls : Faultless calls)
    (hread : files.read path = some bytes) (hsize : bytes.length < 2 ^ 64) :
    (fileIdentity host calls path).exec files = (.ok (identityOf host bytes), files) := by
  rw [fileIdentity, exec_of, readIdentity_done host hcalls hread hsize]

/-- A new file under `target`, once its first name `path` is gone. -/
def settled (files : StoreFiles) (path target : StorePath) (bytes : Text) : StoreFiles :=
  (((files.create path).append files.next bytes).link path target).unlink path

/-- The file that was staged, under its second name, before the first one goes. -/
theorem read_staged (bytes : Text) (hne : target ≠ path) (hfree : files.entries target = none) :
    ((files.create path).append files.next bytes).entries target = none ∧
      (((files.create path).append files.next bytes).link path target).read target = some bytes ∧
      ((((files.create path).append files.next bytes).link path target).entries path).isSome := by
  refine ⟨?_, ?_, ?_⟩
  · simp [append, create, Function.update_of_ne hne, hfree]
  · rw [read_link, read_create_append]
  · have hread : (((files.create path).append files.next bytes).link path target).read path =
        some bytes := by
      rw [read_link_of_ne _ _ hne.symm, read_create_append]
    exact isSome_of_read hread

theorem settled_entries_of_ne {other : StorePath} (hpath : other ≠ path)
    (htarget : other ≠ target) :
    (settled files path target bytes).entries other = files.entries other := by
  simp [settled, unlink, link, append, create,
    Function.update_of_ne hpath, Function.update_of_ne htarget]

end Calls

/-! ### Copies -/

variable {host : Host} {config : LocalRunStoreConfig} {files : StoreFiles}
  {request : PublishObjectRequest}

/-- The plan has no fault. -/
def LocalRunStoreConfig.NoFault (config : LocalRunStoreConfig) : Prop := config.fault.point = .none

theorem LocalRunStoreConfig.NoFault.hits (h : config.NoFault) {p : PublicationFaultPoint}
    (hp : p ≠ .none) (domainIndex : Nat) : config.fault.hits p domainIndex = false := by
  have hne : config.fault.point ≠ p := by
    rw [show config.fault.point = .none from h]
    exact hp.symm
  simp [PublicationFaultPlan.hits, hne]

/-- The paths of an object are free in a domain. -/
def FreeObject (host : Host) (files : StoreFiles) (objectId : Text) (domain : Nat) : Prop :=
  files.entries ⟨domain, .staging, objectName host objectId⟩ = none ∧
    files.entries ⟨domain, .objects, objectName host objectId⟩ = none

def FreeLedger (host : Host) (files : StoreFiles) (recordId : Text) : Prop :=
  files.entries ⟨0, .ledgerStaging, objectName host recordId⟩ = none ∧
    files.entries ⟨0, .ledger, objectName host recordId⟩ = none

/-- The bytes of a request are the ones it expects. -/
structure PublishObjectRequest.Exact (host : Host) (request : PublishObjectRequest) : Prop where
  sha256 : host.sha256 request.bytes = request.expectedSha256
  size : request.bytes.length < 2 ^ 64

/-- The evidence of a copy that is what the request expects. -/
def exactCopy (host : Host) (config : LocalRunStoreConfig) (request : PublishObjectRequest)
    (domainIndex : Nat) (domain : LocalStorageDomain) : CopyEvidence :=
  copyEvidence host config domainIndex domain request (identityOf host request.bytes)

theorem exactCopy_verified (hfault : config.NoFault) (hexact : request.Exact host)
    (domainIndex : Nat) (domain : LocalStorageDomain) :
    (exactCopy host config request domainIndex domain).verified = true := by
  simp [exactCopy, copyEvidence, identityOf, hfault.hits (p := .readbackMismatch) nofun,
    hexact.sha256]

theorem publishOne_done {calls : CopyCall → Answer} {domainIndex : Nat}
    (domain : LocalStorageDomain) (hcalls : Faultless calls) (hfault : config.NoFault)
    (hexact : request.Exact host) (hfree : FreeObject host files request.objectId domainIndex) :
    (publishOne host config calls domainIndex domain request).exec files =
      (.ok (exactCopy host config request domainIndex domain),
        settled files ⟨domainIndex, .staging, objectName host request.objectId⟩
          ⟨domainIndex, .objects, objectName host request.objectId⟩ request.bytes) := by
  have hne : (⟨domainIndex, .objects, objectName host request.objectId⟩ : StorePath) ≠
      ⟨domainIndex, .staging, objectName host request.objectId⟩ := by simp
  obtain ⟨hfreeTarget, hlinked, hstaged⟩ := read_staged request.bytes hne hfree.2
  have hidentity : ¬((identityOf host request.bytes).byteCount ≠ request.bytes.length ∨
      (identityOf host request.bytes).sha256 ≠ request.expectedSha256) := by
    rintro (hcount | hsha256)
    · exact hcount rfl
    · exact hsha256 hexact.sha256
  have hstop : (if config.fault.hits .partialStagingWrite domainIndex then
      some config.fault.partialBytes else none) = none := by
    rw [hfault.hits (p := .partialStagingWrite) nofun]
    rfl
  unfold publishOne
  rw [hstop, hfault.hits (p := .storageExhausted) nofun]
  refine exec_bind_of (stageFile_done hcalls hfree.1) ?_
  refine exec_bind_of (syncCall_done (hcalls .sync)) ?_
  refine exec_guard_of (by rw [hfault.hits (p := .afterStagingSync) nofun]; nofun) ?_
  refine exec_bind_of (fileIdentity_done (fun call => hcalls (.staged call))
    (read_create_append _ _ _) hexact.size) ?_
  refine exec_guard_of hidentity ?_
  refine exec_bind_of (linkFile_done (hcalls .link)
    (isSome_of_read (read_create_append _ _ _)) hfreeTarget) ?_
  refine exec_bind_of (syncCall_done (hcalls .directorySync)) ?_
  refine exec_bind_of (fileIdentity_done (fun call => hcalls (.published call)) hlinked
    hexact.size) ?_
  rw [if_neg (by simpa [exactCopy] using exactCopy_verified hfault hexact domainIndex domain)]
  refine exec_bind_of (unlinkFile_done (hcalls .unlink) hstaged) ?_
  exact exec_bind_of (syncCall_done (hcalls .stagingSync)) rfl

theorem persistLedger_done {calls : CopyCall → Answer} {recordId bytes : Text}
    (hcalls : Faultless calls) (hfault : config.NoFault) (hsize : bytes.length < 2 ^ 64)
    (hfree : FreeLedger host files recordId) :
    ∃ files', (persistLedger host config calls recordId bytes).exec files = (.ok (), files') := by
  have hne : (⟨0, .ledger, objectName host recordId⟩ : StorePath) ≠
      ⟨0, .ledgerStaging, objectName host recordId⟩ := by simp
  obtain ⟨hfreeTarget, hlinked, hstaged⟩ := read_staged bytes hne hfree.2
  have hidentity : ¬((identityOf host bytes).byteCount ≠ bytes.length ∨
      (identityOf host bytes).sha256 ≠ host.sha256 bytes) := by simp [identityOf]
  have hbefore : ¬config.fault.point = .beforeLedgerWrite := by
    rw [show config.fault.point = .none from hfault]
    nofun
  have hpartial : ¬config.fault.point = .partialLedgerWrite := by
    rw [show config.fault.point = .none from hfault]
    nofun
  unfold persistLedger
  apply Exists.intro
  refine exec_guard_of hbefore ?_
  rw [if_neg hpartial]
  refine exec_bind_of (stageFile_done hcalls hfree.1) ?_
  refine exec_bind_of (syncCall_done (hcalls .sync)) ?_
  refine exec_bind_of (fileIdentity_done (fun call => hcalls (.staged call))
    (read_create_append _ _ _) hsize) ?_
  refine exec_guard_of hidentity ?_
  refine exec_bind_of (linkFile_done (hcalls .link)
    (isSome_of_read (read_create_append _ _ _)) hfreeTarget) ?_
  refine exec_bind_of (syncCall_done (hcalls .directorySync)) ?_
  refine exec_bind_of (fileIdentity_done (fun call => hcalls (.published call)) hlinked
    hsize) ?_
  refine exec_guard_of hidentity ?_
  refine exec_bind_of (unlinkFile_done (hcalls .unlink) hstaged) ?_
  exact syncCall_done (hcalls .stagingSync)

/-- Both copies of a request whose paths are free. -/
theorem publishCopies_done {calls : Nat → CopyCall → Answer}
    (primary secondary : LocalStorageDomain) (hcalls : ∀ index, Faultless (calls index))
    (hfault : config.NoFault) (hexact : request.Exact host)
    (hfree : ∀ domain, FreeObject host files request.objectId domain) :
    ∃ files', publishCopies host config calls request 0 [primary, secondary] files =
      (([exactCopy host config request 0 primary, exactCopy host config request 1 secondary], []),
        files') := by
  have hverified := exactCopy_verified hfault hexact
  have hpoint : ¬config.fault.point = .afterPrimaryPublish := by
    rw [show config.fault.point = .none from hfault]
    nofun
  -- the first copy leaves the second domain as it was
  have hsecond : FreeObject host (settled files ⟨0, .staging, objectName host request.objectId⟩
      ⟨0, .objects, objectName host request.objectId⟩ request.bytes) request.objectId 1 := by
    constructor
    · rw [settled_entries_of_ne (by simp) (by simp)]
      exact (hfree 1).1
    · rw [settled_entries_of_ne (by simp) (by simp)]
      exact (hfree 1).2
  apply Exists.intro
  simp only [publishCopies, publishOne_done primary (hcalls 0) hfault hexact (hfree 0), hverified,
    publishOne_done secondary (hcalls 1) hfault hexact hsecond, hpoint]
  rfl

/-! ### A publication -/

/-- The ledger of a publication with these copies, in a text of a size that can be counted. -/
def LedgerMade (host : Host) (config : LocalRunStoreConfig) (request : PublishObjectRequest)
    (primary secondary : LocalStorageDomain) : Prop :=
  ∃ ledger, makeCopyLedgerDocument host (ledgerInput config request .sealedComplete
      [exactCopy host config request 0 primary, exactCopy host config request 1 secondary] []) =
    .ok ledger ∧ ledger.bytes.length < 2 ^ 64

/-- Everything a publication needs from the store. -/
structure RunStore.Ready (host : Host) (store : RunStore) (request : PublishObjectRequest) :
    Prop where
  mode : store.config.openMode = .createNew
  fault : store.config.NoFault
  objectId : request.objectId ∉ store.objectIds
  artifactId : request.artifactId ∉ store.artifactIds
  object : ∀ domain, FreeObject host store.files request.objectId domain
  ledger : FreeLedger host store.files request.ledgerRecordId

/-- A publication without failures. -/
structure Complete (result : PublishObjectResult) : Prop where
  isComplete : result.finalizationState = .sealedComplete ∧ result.ledgerPersisted = true
  failures : result.failures = []
  primary : ∃ copy rest, result.copies = copy :: rest ∧ copy.verified = true

variable {calls : PublishCalls} {primary secondary : LocalStorageDomain} {store : RunStore}

/--
**A publication goes through if nothing fails.**  The paths are free, the bytes are those
the request expects, and the ledger can be made.
-/
theorem RunStore.publish_done (hcalls : calls.Faultless) (hready : store.Ready host request)
    (hexact : request.Exact host)
    (hids : nonempty [request.objectId, request.objectRole, request.artifactId,
      request.ledgerRecordId] = true)
    (hsealed : request.streamCompleteness = .sealedComplete)
    (hdomains : store.config.domains = [primary, secondary])
    (hledger : LedgerMade host store.config request primary secondary) :
    ∃ store' result, store.publish host request calls = (store', .ok result) ∧
      Complete result ∧ store'.objectIds = request.objectId :: store.objectIds ∧
      store'.artifactIds = request.artifactId :: store.artifactIds := by
  obtain ⟨files', hcopies⟩ :=
    publishCopies_done primary secondary hcalls.copy hready.fault hexact hready.object
  obtain ⟨ledger, hmade, hsize⟩ := hledger
  have hkept : FreeLedger host files' request.ledgerRecordId := by
    have hframe := (publishCopies_spec hcopies).1.frame
    constructor
    · rw [hframe _ (by rintro ⟨-, h | h⟩ <;> cases h)]
      exact hready.ledger.1
    · rw [hframe _ (by rintro ⟨-, h | h⟩ <;> cases h)]
      exact hready.ledger.2
  obtain ⟨last, hpersisted⟩ := persistLedger_done hcalls.ledger hready.fault hsize hkept
  have hstate : completeState request
      [exactCopy host store.config request 0 primary,
        exactCopy host store.config request 1 secondary] [] = .sealedComplete := by
    simp [completeState, hsealed, exactCopy_verified hready.fault hexact]
  have hreserved : publishReserved host store.config calls request store.files =
      (last, .ok ⟨.sealedComplete, [exactCopy host store.config request 0 primary,
        exactCopy host store.config request 1 secondary], [], ledger, true⟩) := by
    unfold publishReserved
    rw [if_neg (not_not.mpr hexact.sha256), hdomains, hcopies]
    simp only [publishLedger, hstate, hmade, hpersisted]
  have hcomplete : Complete ⟨.sealedComplete, [exactCopy host store.config request 0 primary,
      exactCopy host store.config request 1 secondary], [], ledger, true⟩ :=
    ⟨⟨rfl, rfl⟩, rfl, _, _, rfl, exactCopy_verified hready.fault hexact 0 primary⟩
  refine ⟨{ store with
    objectIds := request.objectId :: store.objectIds
    artifactIds := request.artifactId :: store.artifactIds
    files := last }, _, ?_, hcomplete, rfl, rfl⟩
  unfold publish
  rw [if_neg (by rw [hready.mode]; nofun), hids, if_neg (by nofun), if_neg hready.objectId]
  simp only [hready.artifactId, if_false, hreserved]

/-! ### One publication after another -/

/-- A new store with room for objects, artifacts and records of these identifiers. -/
structure RunStore.Awaits (host : Host) (store : RunStore) (ids : List Text) : Prop where
  mode : store.config.openMode = .createNew
  fault : store.config.NoFault
  objectIds : ∀ id ∈ ids, id ∉ store.objectIds
  artifactIds : ∀ id ∈ ids, id ∉ store.artifactIds
  free : ∀ id ∈ ids, ∀ path : StorePath, path.name = objectName host id →
    store.files.entries path = none

/-- All three identifiers of a request are this one. -/
structure PublishObjectRequest.Named (request : PublishObjectRequest) (id : Text) : Prop where
  objectId : request.objectId = id
  artifactId : request.artifactId = id
  ledgerRecordId : request.ledgerRecordId = id

variable {ids : List Text}

/-- What is awaited besides the next object is awaited after it is published. -/
theorem RunStore.Awaits.publishObject {id : Text} (h : store.Awaits host (id :: ids))
    (hnamed : request.Named id)
    (hnames : ∀ other ∈ ids, objectName host other ≠ objectName host id)
    (hcalls : calls.Faultless) (hexact : request.Exact host)
    (hids : nonempty [id, request.objectRole] = true)
    (hsealed : request.streamCompleteness = .sealedComplete)
    (hdomains : store.config.domains = [primary, secondary])
    (hledger : LedgerMade host store.config request primary secondary) :
    ∃ result store', (publishObject host calls request).exec store = (.ok result, store') ∧
      Complete result ∧ store'.config = store.config ∧ store'.Awaits host ids := by
  obtain ⟨hobject, hartifact, hrecord⟩ := hnamed
  have hfirst := h.free id (mem_cons_self ..)
  have hready : store.Ready host request := by
    refine ⟨h.mode, h.fault, ?_, ?_, fun domain => ⟨?_, ?_⟩, ?_, ?_⟩
    · rw [hobject]
      exact h.objectIds id (mem_cons_self ..)
    · rw [hartifact]
      exact h.artifactIds id (mem_cons_self ..)
    · exact hfirst _ (by rw [hobject])
    · exact hfirst _ (by rw [hobject])
    · exact hfirst _ (by rw [hrecord])
    · exact hfirst _ (by rw [hrecord])
  have hnonempty : nonempty [request.objectId, request.objectRole, request.artifactId,
      request.ledgerRecordId] = true := by
    simp only [nonempty, all_cons, all_nil, Bool.and_true, Bool.and_eq_true] at hids
    simp only [hobject, hartifact, hrecord, nonempty, all_cons, all_nil, Bool.and_true,
      Bool.and_eq_true]
    exact ⟨hids.1, hids.2, hids.1, hids.1⟩
  obtain ⟨store', result, hpublish, hcomplete, hobjects, hartifacts⟩ :=
    RunStore.publish_done hcalls hready hexact hnonempty hsealed hdomains hledger
  obtain ⟨hconfig, hfiles⟩ := RunStore.publish_keeps hpublish
  have hother : ∀ other ∈ ids, other ≠ id := by
    rintro other hmem rfl
    exact hnames other hmem rfl
  refine ⟨result, store', ?_, hcomplete, hconfig, ?_⟩
  · rw [Storage.publishObject, exec_of, hpublish]
    rfl
  · refine ⟨by rw [hconfig]; exact h.mode, by rw [hconfig]; exact h.fault, ?_, ?_, ?_⟩
    · intro other hmem
      rw [hobjects, hobject, mem_cons, not_or]
      exact ⟨hother other hmem, h.objectIds other (mem_cons_of_mem _ hmem)⟩
    · intro other hmem
      rw [hartifacts, hartifact, mem_cons, not_or]
      exact ⟨hother other hmem, h.artifactIds other (mem_cons_of_mem _ hmem)⟩
    · intro other hmem path hpath
      rw [hfiles.frame path ?_]
      · exact h.free other (mem_cons_of_mem _ hmem) path hpath
      · rintro (⟨hname, -⟩ | ⟨-, hname, -⟩)
        · rw [hobject, hpath] at hname
          exact hnames other hmem hname
        · rw [hrecord, hpath] at hname
          exact hnames other hmem hname

/-! ### The observations of a run -/

/-- All three identifiers of a plan are this one. -/
def ArtifactPublicationPlan.named (id : Text) : ArtifactPublicationPlan := ⟨id, id, id⟩

/-- A document that can be published in a store of this configuration. -/
structure Publishable (host : Host) (config : LocalRunStoreConfig) (id : Text) (role : String)
    (primary secondary : LocalStorageDomain) (document : CanonicalDocument) : Prop where
  sha256 : host.sha256 document.bytes = document.sha256
  size : document.bytes.length < 2 ^ 64
  ids : nonempty [id, ascii role] = true
  ledger : LedgerMade host config (documentRequest (.named id) role document) primary secondary

theorem RunStore.Awaits.publishDocument {id : Text} {role : String} {document : CanonicalDocument}
    (h : store.Awaits host (id :: ids))
    (hnames : ∀ other ∈ ids, objectName host other ≠ objectName host id)
    (hcalls : calls.Faultless) (hdomains : store.config.domains = [primary, secondary])
    (hdocument : Publishable host store.config id role primary secondary document) :
    ∃ result store', (Storage.publishObject host calls
        (documentRequest (.named id) role document)).exec store = (.ok result, store') ∧
      Complete result ∧ store'.config = store.config ∧ store'.Awaits host ids :=
  h.publishObject ⟨rfl, rfl, rfl⟩ hnames hcalls ⟨hdocument.sha256, hdocument.size⟩ hdocument.ids rfl
    hdomains hdocument.ledger

theorem Complete.isComplete_eq {result : PublishObjectResult} (h : Complete result) :
    Storage.isComplete result = true := by
  simp [Storage.isComplete, h.isComplete.1, h.isComplete.2]

theorem Complete.hasVerifiedPrimary {result : PublishObjectResult} (h : Complete result) :
    Storage.hasVerifiedPrimary result = true := by
  obtain ⟨copy, rest, hcopies, hverified⟩ := h.primary
  simp [Storage.hasVerifiedPrimary, hcopies, hverified]

/-- A stream that can be published in a store of this configuration. -/
structure StreamPublishable (host : Host) (config : LocalRunStoreConfig)
    (primary secondary : LocalStorageDomain) (reference : ArtifactRefText)
    (snapshot : RawStreamSnapshot) (rawId envelopeId : Text) : Prop where
  completeness : snapshot.completeness = .sealedComplete
  overflowed : snapshot.overflowed = false
  size : snapshot.bytes.length < 2 ^ 64
  ids : nonempty [rawId, rawObjectRole snapshot.streamKind] = true
  ledger : LedgerMade host config (rawRequest host ⟨snapshot, .named rawId, .named envelopeId⟩)
    primary secondary
  envelope : ∃ envelope, makeExternalRawEnvelope host
      (envelopeInput host ⟨snapshot, .named rawId, .named envelopeId⟩
        (objectUri host config primary rawId) reference) = .ok envelope ∧
    Publishable host config envelopeId "RAW_OBSERVATION_ENVELOPE" primary secondary
      envelope.document

theorem RunStore.Awaits.publishSlot {calls : StreamCalls} {rawId envelopeId label : Text}
    {reference : ArtifactRefText} {snapshot : RawStreamSnapshot}
    (h : store.Awaits host (rawId :: envelopeId :: ids))
    (hraw : ∀ other ∈ envelopeId :: ids, objectName host other ≠ objectName host rawId)
    (henvelope : ∀ other ∈ ids, objectName host other ≠ objectName host envelopeId)
    (hcalls : calls.raw.Faultless ∧ calls.envelope.Faultless)
    (hdomains : store.config.domains = [primary, secondary])
    (hstream : StreamPublishable host store.config primary secondary reference snapshot rawId
      envelopeId) :
    ∃ published store', (Storage.publishSlot host label calls
        (some ⟨snapshot, .named rawId, .named envelopeId⟩) reference).exec store =
        (.ok (some published, []), store') ∧
      streamComplete (some published) = true ∧ store'.config = store.config ∧
      store'.Awaits host ids := by
  have hrawId : rawId ≠ [] := by
    have hids := hstream.ids
    rintro rfl
    cases hids
  have hnamed : (rawRequest host ⟨snapshot, .named rawId, .named envelopeId⟩).Named rawId :=
    ⟨rfl, rfl, rfl⟩
  obtain ⟨raw, middle, hexec, hcomplete, hconfig, hawaits⟩ :=
    h.publishObject hnamed hraw hcalls.1 ⟨rfl, hstream.size⟩ hstream.ids hstream.completeness
      hdomains hstream.ledger
  obtain ⟨envelope, hmade, hdocument⟩ := hstream.envelope
  rw [← hconfig] at hdocument
  obtain ⟨result, last, hexec', hcomplete', hconfig', hawaits'⟩ :=
    hawaits.publishDocument henvelope hcalls.2 (hconfig ▸ hdomains) hdocument
  have huri : (middle.artifactUri host 0 rawId).toOption.getD [] =
      objectUri host store.config primary rawId := by
    simp [RunStore.artifactUri, hconfig, hdomains, hrawId]
    rfl
  refine ⟨⟨raw, some envelope, some result⟩, last, ?_, ?_, hconfig'.trans hconfig, hawaits'⟩
  · refine exec_bind_of (a := ⟨raw, some envelope, some result⟩) (m := last) ?_ ?_
    · unfold publishStream
      refine exec_guard_of (by rw [hstream.completeness]; nofun) ?_
      refine exec_bind_of hexec ?_
      rw [if_neg (by simp [hcomplete.hasVerifiedPrimary])]
      refine exec_bind_of (a := middle) rfl ?_
      refine exec_bind_of (a := envelope) (m := middle) ?_ ?_
      · show (makeExternalRawEnvelope host (envelopeInput host _
          ((middle.artifactUri host 0 rawId).toOption.getD []) reference), middle) = _
        rw [huri, hmade]
      · exact exec_bind_of hexec' rfl
    · simp [streamFailures, publishFailures, hcomplete.failures, hcomplete'.failures,
        hstream.overflowed]
  · simp [streamComplete, hcomplete.isComplete_eq, hcomplete'.isComplete_eq]

structure FinalizationCalls.Faultless (calls : FinalizationCalls) : Prop where
  integrity : calls.integrity.Faultless
  producer : calls.producer.raw.Faultless ∧ calls.producer.envelope.Faultless
  consumer : calls.consumer.raw.Faultless ∧ calls.consumer.envelope.Faultless

/-- The observations of a run under these five identifiers. -/
def runObservations (runId : Text) (integrity : PhaseIntegrityInput)
    (producer consumer : RawStreamSnapshot)
    (integrityId rawId envelopeId rawId' envelopeId' : Text) :
    RunObservationFinalizationRequest where
  runId := runId
  measurementCompleted := true
  integrity := integrity
  integrityPublication := .named integrityId
  producer := some ⟨producer, .named rawId, .named envelopeId⟩
  consumer := some ⟨consumer, .named rawId', .named envelopeId'⟩

/-- A finalization in which nothing fails seals the run. -/
theorem finalizeRunObservations_done {calls : FinalizationCalls}
    {runId integrityId rawId envelopeId rawId' envelopeId' : Text} {integrity : PhaseIntegrityInput}
    {producer consumer : RawStreamSnapshot} {document : CanonicalDocument}
    (hcalls : calls.Faultless) (hrun : runId ≠ [] ∧ integrity.runId = runId)
    (hstreams : producer.runId.value = runId ∧ consumer.runId.value = runId)
    (hintegrityId : integrityId = integrity.artifactId)
    (hawaits : store.Awaits host [integrityId, rawId, envelopeId, rawId', envelopeId'])
    (hnames : ([integrityId, rawId, envelopeId, rawId', envelopeId'].map (objectName host)).Nodup)
    (hdomains : store.config.domains = [primary, secondary])
    (hmade : makePhaseIntegrityDocument host integrity = .ok document)
    (hdocument : Publishable host store.config integrityId "PHASE_INTEGRITY_REPORT" primary
      secondary document)
    (hproducer : StreamPublishable host store.config primary secondary
      ⟨integrity.artifactId, document.sha256⟩ producer rawId envelopeId)
    (hconsumer : StreamPublishable host store.config primary secondary
      ⟨integrity.artifactId, document.sha256⟩ consumer rawId' envelopeId') :
    ∃ result store', (finalizeRunObservations host calls (runObservations runId integrity producer
        consumer integrityId rawId envelopeId rawId' envelopeId')).exec store =
        (.ok result, store') ∧
      result.finalizationState = .sealedComplete := by
  have hdistinct : ∀ {id : Text} {ids : List Text},
      ((id :: ids).map (objectName host)).Nodup →
      (∀ other ∈ ids, objectName host other ≠ objectName host id) ∧
        (ids.map (objectName host)).Nodup := by
    intro id ids hnodup
    rw [map_cons, nodup_cons, mem_map, not_exists] at hnodup
    exact ⟨fun other hmem hsame => hnodup.1 other ⟨hmem, hsame⟩, hnodup.2⟩
  obtain ⟨hfirst, hnames⟩ := hdistinct hnames
  obtain ⟨hraw, hnames⟩ := hdistinct hnames
  obtain ⟨henvelope, hnames⟩ := hdistinct hnames
  obtain ⟨hraw', hnames⟩ := hdistinct hnames
  obtain ⟨henvelope', -⟩ := hdistinct hnames
  obtain ⟨report, first, hexec, hcomplete, hconfig, hawaits⟩ :=
    hawaits.publishDocument hfirst hcalls.integrity hdomains hdocument
  rw [← hconfig] at hproducer
  obtain ⟨published, second, hexec', hcomplete', hconfig', hawaits⟩ :=
    hawaits.publishSlot hraw henvelope hcalls.producer (hconfig ▸ hdomains) hproducer
  rw [← hconfig, ← hconfig'] at hconsumer
  obtain ⟨published', third, hexec'', hcomplete'', -, -⟩ :=
    hawaits.publishSlot hraw' henvelope' hcalls.consumer (hconfig' ▸ hconfig ▸ hdomains) hconsumer
  have hguard : ¬(runId = [] ∨ integrity.runId ≠ runId ∨ integrityId ≠ integrity.artifactId) := by
    simp [hrun, hintegrityId]
  have hguard' : ¬((some (⟨producer, .named rawId, .named envelopeId⟩ :
      RawStreamPublicationPlan)).toList ++ (some (⟨consumer, .named rawId', .named envelopeId'⟩ :
      RawStreamPublicationPlan)).toList).any fun stream => stream.snapshot.runId.value ≠ runId := by
    simp [hstreams]
  refine ⟨⟨.sealedComplete, report, some published, some published', []⟩, third, ?_, rfl⟩
  unfold finalizeRunObservations
  refine exec_guard_of hguard ?_
  refine exec_guard_of hguard' ?_
  refine exec_bind_of (a := document) (m := store) ?_ ?_
  · exact congrArg (fun made => (made, store)) hmade
  refine exec_bind_of hexec ?_
  refine exec_bind_of hexec' ?_
  refine exec_bind_of hexec'' ?_
  simp [runObservations, publishFailures, hcomplete.failures, hcomplete.isComplete_eq, hcomplete',
    hcomplete'']

end CpuPrefetch.Storage
