/-
The local append-only run store.

The two run directories are maps from names to files (`Lib/Files`); the roots are
canonical paths, so the two domains share no directory.  Every filesystem call may fail:
a computation is given the answer of each call it makes, and a call that is interrupted
is the same call made again.  The files of the four folders are all the store touches,
so the directories themselves are not modelled.
-/
import CpuPrefetch.Lib.Effects
import CpuPrefetch.Lib.Files
import CpuPrefetch.Storage.Artifacts

namespace CpuPrefetch.Storage

open Protocol (Text ascii Result)

/-! ### The filesystem -/

inductive Folder where
  | staging
  | objects
  | ledgerStaging
  | ledger
  deriving DecidableEq, Repr

structure StorePath where
  domain : Nat
  folder : Folder
  name : Text
  deriving DecidableEq

abbrev StoreFiles := Files StorePath

/-- What a call answers; a transfer that is done moved this many bytes beyond the first. -/
inductive Answer where
  | done (more : Nat)
  | failed (error : Text)
  deriving DecidableEq

/-- The calls of a readback. -/
inductive ReadCall where
  | openFile
  | stat
  | digest
  | read (index : Nat)
  deriving DecidableEq

/-- The calls of one publication, in the order they are made. -/
inductive CopyCall where
  | create
  | write (index : Nat)
  | sync
  | staged (call : ReadCall)
  | link
  | directorySync
  | published (call : ReadCall)
  | unlink
  | stagingSync
  deriving DecidableEq

def errnoFailure (operation : String) (error : Text) : Text :=
  ascii operation ++ ascii ": " ++ error

/-- What stops a computation when a call fails. -/
def Answer.check (failure : Text → Text) : Answer → Except Text Unit
  | .done _ => .ok ()
  | .failed error => .error (failure error)

/-- A call that changes no entry and no file. -/
def syncCall (answer : Answer) (failure : Text → Text) : Effect Text StoreFiles Unit :=
  .lift (answer.check failure)

/-- How many bytes the next write may move. -/
def writeRoom (stopAfter : Option Nat) (size written : Nat) : Nat :=
  match stopAfter with
  | none => size - written
  | some stop => min (size - written) (stop - written)

/-- The loop of `write_complete`: how many bytes are in the file, and what stopped it. -/
def writeLoop (calls : Nat → Answer) (stopAfter : Option Nat) (size : Nat) :
    Nat → Nat → Nat → Nat × Option Text
  | 0, _, written => (written, none)
  | fuel + 1, index, written =>
      if written < size then
        if stopAfter.any fun stop => stop ≤ written then
          (written, some (ascii "simulated partial write"))
        else
          match calls index with
          | .failed error => (written, some (errnoFailure "write" error))
          | .done more =>
              writeLoop calls stopAfter size fuel (index + 1)
                (written + min (more + 1) (writeRoom stopAfter size written))
      else (written, none)

/-- Every write that is done moves at least one byte. -/
def writeComplete (calls : Nat → Answer) (stopAfter : Option Nat) (size : Nat) :
    Nat × Option Text :=
  writeLoop calls stopAfter size (size + 1) 0 0

/-- A new file under a free path, with the bytes that were written before a write failed. -/
def stageFile (calls : CopyCall → Answer) (path : StorePath) (exhausted : Bool)
    (stopAfter : Option Nat) (bytes : Text) : Effect Text StoreFiles Unit :=
  .of fun files =>
    match calls .create with
    | .failed error => (.error (errnoFailure "unique staging create" error), files)
    | .done _ =>
        if (files.entries path).isSome then
          (.error (errnoFailure "unique staging create" (ascii "File exists")), files)
        else
          let (written, failure) :=
            if exhausted then (0, some (ascii "simulated storage exhaustion (ENOSPC)"))
            else writeComplete (fun index => calls (.write index)) stopAfter bytes.length
          let files' := (files.create path).append files.next (bytes.take written)
          match failure with
          | some error => (.error error, files')
          | none => (.ok (), files')

/-- A hard link, which replaces nothing. -/
def linkFile (answer : Answer) (operation : String) (path target : StorePath) :
    Effect Text StoreFiles Unit :=
  .of fun files =>
    match answer with
    | .failed error => (.error (errnoFailure operation error), files)
    | .done _ =>
        if (files.entries path).isNone then
          (.error (errnoFailure operation (ascii "No such file or directory")), files)
        else if (files.entries target).isSome then
          (.error (errnoFailure operation (ascii "File exists")), files)
        else (.ok (), files.link path target)

def unlinkFile (answer : Answer) (failure : Text) (path : StorePath) :
    Effect Text StoreFiles Unit :=
  .of fun files =>
    match answer with
    | .failed _ => (.error failure, files)
    | .done _ =>
        if (files.entries path).isNone then (.error failure, files)
        else (.ok (), files.unlink path)

structure FileIdentity where
  byteCount : Nat
  sha256 : Text
  deriving DecidableEq

/-- The loop over the reads of at most 64 KiB; a read of nothing is the end of the file. -/
def readLoop (calls : Nat → Answer) : Nat → Nat → Text → Text → Except Text Text
  | 0, _, _, seen => .ok seen
  | fuel + 1, index, rest, seen =>
      match calls index with
      | .failed error => .error (errnoFailure "readback" error)
      | .done more =>
          if rest.isEmpty then .ok seen
          else
            let count := min (more + 1) (64 * 1024)
            readLoop calls fuel (index + 1) (rest.drop count) (seen ++ rest.take count)

/-- `file_identity`: the size and the digest of the bytes read back. -/
def readIdentity (host : Host) (calls : ReadCall → Answer) (files : StoreFiles)
    (path : StorePath) : Except Text FileIdentity := do
  (calls .openFile).check (errnoFailure "open for readback")
  let contents ← (files.read path).elim
    (.error (errnoFailure "open for readback" (ascii "No such file or directory"))) .ok
  (calls .stat).check (errnoFailure "fstat")
  (calls .digest).check id
  let seen ← readLoop (fun index => calls (.read index)) (contents.length + 1) 0 contents []
  if seen.length < 2 ^ 64 then .ok ⟨seen.length, host.sha256 seen⟩
  else .error (ascii "readback size or SHA-256 update failed")

def fileIdentity (host : Host) (calls : ReadCall → Answer) (path : StorePath) :
    Effect Text StoreFiles FileIdentity :=
  .of fun files => (readIdentity host calls files path, files)

/-! ### The store -/

structure LocalStorageDomain where
  storageDomainId : Text
  root : Text
  deriving DecidableEq

inductive PublicationFaultPoint where
  | none
  | storageExhausted
  | partialStagingWrite
  | afterStagingSync
  | readbackMismatch
  | afterPrimaryPublish
  | beforeLedgerWrite
  | partialLedgerWrite
  deriving DecidableEq, Repr

structure PublicationFaultPlan where
  point : PublicationFaultPoint := .none
  domainIndex : Nat := 0
  partialBytes : Nat := 0
  deriving DecidableEq, Repr

/-- The plan has this fault in this domain. -/
def PublicationFaultPlan.hits (fault : PublicationFaultPlan) (point : PublicationFaultPoint)
    (domainIndex : Nat) : Bool :=
  fault.point = point && fault.domainIndex = domainIndex

inductive RunStoreOpenMode where
  | createNew
  | recoverExisting
  deriving DecidableEq, Repr

structure LocalRunStoreConfig where
  runId : Text
  verificationTimestamp : Text
  domains : List LocalStorageDomain
  fault : PublicationFaultPlan := {}
  openMode : RunStoreOpenMode := .createNew
  deriving DecidableEq

/-- What the constructor checks. -/
structure LocalRunStoreConfig.Valid (config : LocalRunStoreConfig) : Prop where
  runId : config.runId ≠ []
  timestamp : config.verificationTimestamp ≠ []
  domains : ∃ primary secondary, config.domains = [primary, secondary] ∧
    primary.storageDomainId ≠ [] ∧ secondary.storageDomainId ≠ [] ∧
    primary.storageDomainId ≠ secondary.storageDomainId ∧ primary.root ≠ secondary.root

structure RunStore where
  config : LocalRunStoreConfig
  valid : config.Valid
  objectIds : List Text
  artifactIds : List Text
  files : StoreFiles

/-- The constructor; a new run directory is empty, an existing one is as it is. -/
def RunStore.construct (config : LocalRunStoreConfig) (existing : StoreFiles) : Setup RunStore :=
  if h : config.runId = [] ∨ config.verificationTimestamp = [] then
    throw "run store requires explicit run ID and timestamp"
  else
    match hdomains : config.domains with
    | [primary, secondary] =>
        if hids : primary.storageDomainId = [] ∨ secondary.storageDomainId = [] ∨
            primary.storageDomainId = secondary.storageDomainId then
          throw "DUR2 local store requires exactly two distinct storage domain IDs"
        else if hroots : primary.root = secondary.root then
          throw "storage roots must be two distinct canonical paths"
        else
          pure
            { config := config
              valid :=
                { runId := fun hrun => h (.inl hrun)
                  timestamp := fun htime => h (.inr htime)
                  domains := ⟨primary, secondary, hdomains, fun hid => hids (.inl hid),
                    fun hid => hids (.inr (.inl hid)), fun hid => hids (.inr (.inr hid)),
                    hroots⟩ }
              objectIds := []
              artifactIds := []
              files := match config.openMode with
                | .createNew => ⟨fun _ => none, fun _ => [], 0, Files.allocated_none⟩
                | .recoverExisting => existing }
    | _ => throw "DUR2 local store requires exactly two distinct storage domain IDs"

def objectName (host : Host) (objectId : Text) : Text := ascii "object-" ++ host.sha256 objectId

def runName (host : Host) (runId : Text) : Text := ascii "run-" ++ host.sha256 runId

/-- `std::filesystem::path::operator/` with a relative right side. -/
def joinPath (left right : Text) : Text :=
  if left = [] || left.getLast? = some 47 then left ++ right else left ++ 47 :: right

/-- The path of an object in a domain, as `std::filesystem` spells it. -/
def objectUri (host : Host) (config : LocalRunStoreConfig) (domain : LocalStorageDomain)
    (objectId : Text) : Text :=
  joinPath (joinPath (joinPath domain.root (runName host config.runId)) (ascii "objects"))
    (objectName host objectId)

structure PublishObjectRequest where
  objectId : Text
  objectRole : Text
  artifactId : Text
  ledgerRecordId : Text
  bytes : Text
  expectedSha256 : Text
  streamCompleteness : StreamCompleteness
  deriving DecidableEq

structure PublishObjectResult where
  finalizationState : CopyFinalizationState
  copies : List CopyEvidence
  failures : List Text
  ledger : CanonicalDocument
  ledgerPersisted : Bool
  deriving DecidableEq

/-- The answers of all calls of one publication: of each copy, and of the ledger. -/
structure PublishCalls where
  copy : Nat → CopyCall → Answer
  ledger : CopyCall → Answer

section Publish

variable (host : Host) (config : LocalRunStoreConfig)

/-- What a readback of the published object is evidence of. -/
def copyEvidence (domainIndex : Nat) (domain : LocalStorageDomain) (request : PublishObjectRequest)
    (identity : FileIdentity) : CopyEvidence :=
  let observedSha256 :=
    if config.fault.hits .readbackMismatch domainIndex then List.replicate 64 48
    else identity.sha256
  { storageDomainId := domain.storageDomainId
    artifactUri := objectUri host config domain request.objectId
    observedByteCount := .ofNat identity.byteCount
    observedSha256 := observedSha256
    verifiedAt := config.verificationTimestamp
    independentlyReadBack := true
    verified := identity.byteCount = request.bytes.length &&
      observedSha256 = request.expectedSha256 }

def cleanupFailure : Text := ascii "verified publication retained but staging cleanup failed"

def publishOne (calls : CopyCall → Answer) (domainIndex : Nat) (domain : LocalStorageDomain)
    (request : PublishObjectRequest) : Effect Text StoreFiles CopyEvidence := do
  let staging : StorePath := ⟨domainIndex, .staging, objectName host request.objectId⟩
  let published : StorePath := ⟨domainIndex, .objects, objectName host request.objectId⟩
  stageFile calls staging (config.fault.hits .storageExhausted domainIndex)
    (if config.fault.hits .partialStagingWrite domainIndex then some config.fault.partialBytes
      else none) request.bytes
  syncCall (calls .sync) (errnoFailure "staging fsync")
  if config.fault.hits .afterStagingSync domainIndex then
    throw (ascii "simulated crash after staging sync")
  let stagingIdentity ← fileIdentity host (fun call => calls (.staged call)) staging
  if stagingIdentity.byteCount ≠ request.bytes.length ∨
      stagingIdentity.sha256 ≠ request.expectedSha256 then
    throw (ascii "staging readback identity mismatch")
  linkFile (calls .link) "atomic no-replace publication" staging published
  syncCall (calls .directorySync) fun _ => ascii "published-object directory fsync failed"
  let identity ← fileIdentity host (fun call => calls (.published call)) published
  if !(copyEvidence host config domainIndex domain request identity).verified then
    pure (copyEvidence host config domainIndex domain request identity)
  else
    unlinkFile (calls .unlink) cleanupFailure staging
    syncCall (calls .stagingSync) fun _ => cleanupFailure
    pure (copyEvidence host config domainIndex domain request identity)

/-- `persist_ledger`; only whether it went through is used. -/
def persistLedger (calls : CopyCall → Answer) (recordId bytes : Text) :
    Effect Text StoreFiles Unit := do
  if config.fault.point = .beforeLedgerWrite then throw []
  let staging : StorePath := ⟨0, .ledgerStaging, objectName host recordId⟩
  let published : StorePath := ⟨0, .ledger, objectName host recordId⟩
  stageFile calls staging false
    (if config.fault.point = .partialLedgerWrite then some config.fault.partialBytes else none)
    bytes
  syncCall (calls .sync) id
  let stagingIdentity ← fileIdentity host (fun call => calls (.staged call)) staging
  if stagingIdentity.byteCount ≠ bytes.length ∨ stagingIdentity.sha256 ≠ host.sha256 bytes then
    throw []
  linkFile (calls .link) "" staging published
  syncCall (calls .directorySync) id
  let identity ← fileIdentity host (fun call => calls (.published call)) published
  if identity.byteCount ≠ bytes.length ∨ identity.sha256 ≠ host.sha256 bytes then throw []
  unlinkFile (calls .unlink) [] staging
  syncCall (calls .stagingSync) id

/-- The loop over the domains from this index on: the copies, the failures and the files. -/
def publishCopies (calls : Nat → CopyCall → Answer) (request : PublishObjectRequest) :
    Nat → List LocalStorageDomain → StoreFiles → (List CopyEvidence × List Text) × StoreFiles
  | _, [], files => (([], []), files)
  | index, domain :: rest, files =>
      match (publishOne host config (calls index) index domain request).exec files with
      | (.error failure, files) =>
          (([], [domain.storageDomainId ++ ascii ": " ++ failure]), files)
      | (.ok copy, files) =>
          if !copy.verified then
            (([copy], [ascii "domain " ++ copy.storageDomainId ++
              ascii " readback identity mismatch"]), files)
          else if index = 0 && config.fault.point = .afterPrimaryPublish then
            (([copy], [ascii "simulated crash after primary publication"]), files)
          else
            let ((copies, failures), files) := publishCopies calls request (index + 1) rest files
            ((copy :: copies, failures), files)

/-- The ledger of a publication that ended so. -/
def ledgerInput (request : PublishObjectRequest) (state : CopyFinalizationState)
    (copies : List CopyEvidence) (failures : List Text) : CopyLedgerInput where
  ledgerRecordId := request.ledgerRecordId
  runId := config.runId
  objectId := request.objectId
  objectRole := request.objectRole
  artifactId := request.artifactId
  byteCount := .ofNat request.bytes.length
  sha256 := request.expectedSha256
  streamCompleteness := request.streamCompleteness
  finalizationState := state
  copies := copies
  failures := failures

/-- Whether a publication with these copies and failures is complete. -/
def completeState (request : PublishObjectRequest) (copies : List CopyEvidence)
    (failures : List Text) : CopyFinalizationState :=
  if request.streamCompleteness = .sealedComplete && copies.length = 2 &&
      copies.all (fun copy => copy.verified) && failures.isEmpty then .sealedComplete
  else .incomplete

/-- The end of `publish`: the ledger is made, persisted, and made again if that failed. -/
def publishLedger (calls : CopyCall → Answer) (request : PublishObjectRequest)
    (copies : List CopyEvidence) (failures : List Text) (files : StoreFiles) :
    StoreFiles × Result PublishObjectResult :=
  let state := completeState request copies failures
  match makeCopyLedgerDocument host (ledgerInput config request state copies failures) with
  | .error errors => (files, .error errors)
  | .ok ledger =>
      match (persistLedger host config calls request.ledgerRecordId ledger.bytes).exec files with
      | (.ok (), files) => (files, .ok ⟨state, copies, failures, ledger, true⟩)
      | (.error _, files) =>
          let failures := failures ++ [ascii "copy ledger persistence failed"]
          match makeCopyLedgerDocument host
              (ledgerInput config request .incomplete copies failures) with
          | .error errors => (files, .error errors)
          | .ok ledger => (files, .ok ⟨.incomplete, copies, failures, ledger, false⟩)

/-- `publish` once both identifiers are reserved. -/
def publishReserved (calls : PublishCalls) (request : PublishObjectRequest) (files : StoreFiles) :
    StoreFiles × Result PublishObjectResult :=
  if host.sha256 request.bytes ≠ request.expectedSha256 then
    publishLedger host config calls.ledger request []
      [ascii "input bytes do not match expected SHA-256"] files
  else
    let ((copies, failures), files) :=
      publishCopies host config calls.copy request 0 config.domains files
    publishLedger host config calls.ledger request copies failures files

end Publish

namespace RunStore

variable (host : Host)

def publish (store : RunStore) (request : PublishObjectRequest) (calls : PublishCalls) :
    RunStore × Result PublishObjectResult :=
  if store.config.openMode = .recoverExisting then
    (store, artifactFailure .immutableConfiguration "$input" "STO-RECOVERY-ONLY"
      "an existing run directory may only recover exact staging objects")
  else if !nonempty [request.objectId, request.objectRole, request.artifactId,
      request.ledgerRecordId] then
    (store, artifactFailure .invalidId "$input" "STO-PUBLISH-ID"
      "publication identities and role must be nonempty")
  else if request.objectId ∈ store.objectIds then
    (store, artifactFailure .duplicateValue "$input/object_id" "STO-DUPLICATE-OBJECT-ID"
      "append-only object ID is already reserved and cannot be overwritten")
  else
    let store := { store with objectIds := request.objectId :: store.objectIds }
    if request.artifactId ∈ store.artifactIds then
      (store, artifactFailure .duplicateValue "$input/artifact_id" "STO-DUPLICATE-ARTIFACT-ID"
        "artifact ID is already reserved and cannot identify another object")
    else
      let store := { store with artifactIds := request.artifactId :: store.artifactIds }
      let (files, result) := publishReserved host store.config calls request store.files
      ({ store with files := files }, result)

/-! ### Recovery -/

/-- The calls of a recovery, in the order they are made. -/
inductive RecoverCall where
  | lookup
  | published (call : ReadCall)
  | staged (call : ReadCall)
  | link
  | directorySync
  | final (call : ReadCall)
  deriving DecidableEq

structure RecoveryResult where
  promoted : Bool
  alreadyPublished : Bool
  copy : Option CopyEvidence
  failure : Text
  deriving DecidableEq

structure RecoveryRequest where
  domainIndex : Nat
  objectId : Text
  expectedByteCount : UInt64
  expectedSha256 : Text
  deriving DecidableEq

/-- The file has the size and the digest that the request expects. -/
def RecoveryRequest.Matches (request : RecoveryRequest) (identity : FileIdentity) : Prop :=
  identity.byteCount = request.expectedByteCount.toNat ∧
    identity.sha256 = request.expectedSha256

instance (request : RecoveryRequest) (identity : FileIdentity) :
    Decidable (request.Matches identity) := inferInstanceAs (Decidable (_ ∧ _))

def recoveryEvidence (config : LocalRunStoreConfig) (domain : LocalStorageDomain)
    (request : RecoveryRequest) (identity : FileIdentity) : CopyEvidence :=
  ⟨domain.storageDomainId, objectUri host config domain request.objectId,
    .ofNat identity.byteCount, identity.sha256, config.verificationTimestamp, true, true⟩

/-- The object is there already: it is read back. -/
def recoverPublished (config : LocalRunStoreConfig) (domain : LocalStorageDomain)
    (request : RecoveryRequest) (identity : Except Text FileIdentity) : RecoveryResult :=
  match identity with
  | .ok identity =>
      if request.Matches identity then
        ⟨false, true, some (recoveryEvidence host config domain request identity), []⟩
      else
        ⟨false, true, none, ascii "existing published object disagrees with expected identity"⟩
  | .error _ =>
      ⟨false, true, none, ascii "existing published object disagrees with expected identity"⟩

/-- The staging candidate, published if it is the one expected. -/
def recoverCandidate (config : LocalRunStoreConfig) (calls : RecoverCall → Answer)
    (domain : LocalStorageDomain) (request : RecoveryRequest) (staging published : StorePath)
    (files : StoreFiles) : StoreFiles × RecoveryResult :=
  match readIdentity host (fun call => calls (.staged call)) files staging with
  | .error failure => (files, ⟨false, false, none, failure⟩)
  | .ok identity =>
      if ¬request.Matches identity then
        (files, ⟨false, false, none, ascii "staging candidate identity mismatch"⟩)
      else
        let publication : Effect Text StoreFiles Unit := do
          linkFile (calls .link) "recovery no-replace publish" staging published
          syncCall (calls .directorySync) (errnoFailure "recovery no-replace publish")
        match publication.exec files with
        | (.error failure, files) => (files, ⟨false, false, none, failure⟩)
        | (.ok (), files) =>
            let unverified : RecoveryResult :=
              ⟨true, false, none, ascii "recovered publication failed independent readback"⟩
            match readIdentity host (fun call => calls (.final call)) files published with
            | .error _ => (files, unverified)
            | .ok identity =>
                if request.Matches identity then
                  (files, ⟨true, false,
                    some (recoveryEvidence host config domain request identity), []⟩)
                else (files, unverified)

/-- Whether `std::filesystem::exists` answers that there is a file. -/
def found (answer : Answer) (entry : Option Nat) : Bool :=
  match answer with
  | .done _ => entry.isSome
  | .failed _ => false

def recoverStaging (store : RunStore) (request : RecoveryRequest) (calls : RecoverCall → Answer) :
    RunStore × RecoveryResult :=
  match store.config.domains[request.domainIndex]? with
  | none => (store, ⟨false, false, none, ascii "invalid recovery domain or object ID"⟩)
  | some domain =>
      if request.objectId = [] then
        (store, ⟨false, false, none, ascii "invalid recovery domain or object ID"⟩)
      else
        let name := objectName host request.objectId
        let staging : StorePath := ⟨request.domainIndex, .staging, name⟩
        let published : StorePath := ⟨request.domainIndex, .objects, name⟩
        if found (calls .lookup) (store.files.entries published) then
          (store, recoverPublished host store.config domain request
            (readIdentity host (fun call => calls (.published call)) store.files published))
        else
          let (files, result) := recoverCandidate host store.config calls domain request staging
            published store.files
          ({ store with files := files }, result)

end RunStore

end CpuPrefetch.Storage
