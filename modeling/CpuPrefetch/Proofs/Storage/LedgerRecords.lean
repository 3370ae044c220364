/-
The ledger record of a publication, and publications that are refused.

A ledger record that is persisted is the document that is returned.  One that is not is
made again with the failure in it; by then the first may be linked already, and then the
two differ.  That the document can be made again is what keeps the ledger out of every
publication that is refused.
-/
import CpuPrefetch.Proofs.Protocol.CanonicalForm
import CpuPrefetch.Proofs.Storage.AppendOnly

namespace CpuPrefetch.Storage

open Protocol.Json
open Protocol (Text ascii Result validSha256)
open Protocol.Json (Value Object CharConv HasForm IsUtf8)

variable {host : Host} {config : LocalRunStoreConfig} {files files' : StoreFiles}

/-! ### Making the document again -/

/-- What the copies are written as depends on the size and the digest only. -/
theorem copyValues_again (input : CopyLedgerInput) (state : CopyFinalizationState)
    (failures domainIds : List Text) (copies : List CopyEvidence) :
    copyValues { input with finalizationState := state, failures := failures } domainIds copies =
      copyValues input domainIds copies := by
  induction copies generalizing domainIds with
  | nil => rfl
  | cons copy rest ih => rw [copyValues, copyValues, ih]

def copyLedgerKeys : List Text :=
  [ascii "artifact_id", ascii "byte_count", ascii "compression", ascii "copies", ascii "failures",
    ascii "finalization_state", ascii "ledger_record_id", ascii "object_id", ascii "object_role",
    ascii "policy_id", ascii "protocol_version", ascii "run_id", ascii "schema_version",
    ascii "sha256", ascii "stream_completeness", ascii "temporary_copy_count",
    ascii "required_durable_copy_count"]

theorem copyLedgerKeys_nodup : copyLedgerKeys.Nodup := by
  decide

theorem copyLedgerKeys_ascii :
    (copyLedgerKeys.all fun key => key.all fun byte => byte < 0x80) = true := by
  decide

/-- The state of a ledger is no obstacle to writing it. -/
theorem finalizationState_isUtf8 (state : CopyFinalizationState) : IsUtf8 state.text := by
  cases state with
  | incomplete => exact isUtf8_ascii (by decide)
  | sealedComplete => exact isUtf8_ascii (by decide)

variable {failures : List Text}

/-- A ledger in another state, with more failures that are texts, can be written too. -/
theorem copyLedgerObject_again {conv : CharConv} {input : CopyLedgerInput} {copies : List Value}
    (h : HasForm conv (.object (copyLedgerObject input copies))) (state : CopyFinalizationState)
    (hfailures : ∀ failure ∈ failures, IsUtf8 failure) :
    HasForm conv (.object (copyLedgerObject
      { input with finalizationState := state, failures := input.failures ++ failures }
      copies)) := by
  unfold copyLedgerObject at h ⊢
  rw [hasForm_of] at h
  · rw [hasForm_of]
    rotate_left
    · exact copyLedgerKeys_nodup
    · exact copyLedgerKeys_ascii
    simp only [List.map_cons, List.map_nil, List.forall_mem_cons] at h ⊢
    obtain ⟨h1, h2, h3, h4, h5, -, hrest⟩ := h
    refine ⟨h1, h2, h3, h4, ?_, ?_, hrest⟩
    · rw [hasForm_array, List.forall_mem_map] at h5 ⊢
      intro failure hfailure
      rcases List.mem_append.mp hfailure with hold | hnew
      · exact h5 failure hold
      · exact hasForm_string.mpr (hfailures failure hnew)
    · exact hasForm_string.mpr (finalizationState_isUtf8 state)
  · exact copyLedgerKeys_nodup
  · exact copyLedgerKeys_ascii

theorem canonicalDocument_defined_iff {value : Value} :
    (∃ document, canonicalDocument host value = .ok document) ↔ HasForm host.conv value := by
  constructor
  · rintro ⟨document, h⟩
    obtain ⟨bytes, hbytes, -⟩ := Fallible.bind_ok h
    exact ⟨bytes, hbytes⟩
  · rintro ⟨bytes, hbytes⟩
    exact ⟨⟨bytes, host.sha256 bytes⟩, by rw [canonicalDocument, hbytes]; rfl⟩

/-- A ledger that could be made can be made again as incomplete, with one more failure. -/
theorem makeCopyLedgerDocument_again {input : CopyLedgerInput} {document : CanonicalDocument}
    (h : makeCopyLedgerDocument host input = .ok document) {failure : Text}
    (hfailure : IsUtf8 failure) (hnonempty : failure.isEmpty = false) :
    ∃ again, makeCopyLedgerDocument host
      { input with finalizationState := .incomplete, failures := input.failures ++ [failure] } =
        .ok again := by
  unfold makeCopyLedgerDocument at h ⊢
  split at h
  · cases h
  · rename_i hidentity
    split at h
    · cases h
    · rename_i hwriting
      obtain ⟨copies, hcopies, h⟩ := Fallible.bind_ok h
      split at h
      · cases h
      · split at h
        · cases h
        · split at h
          · cases h
          · rename_i hfailures
            have hform := copyLedgerObject_again (canonicalDocument_defined_iff.mp ⟨_, h⟩)
              .incomplete (List.forall_mem_singleton.mpr hfailure)
            rw [if_neg hidentity, if_neg hwriting, copyValues_again, hcopies]
            simp only [bind, Except.bind]
            rw [if_neg (by simp), if_neg (by simp), if_neg]
            · exact canonicalDocument_defined_iff.mpr hform
            · rw [List.any_append, List.any_cons, hnonempty]
              simpa using hfailures

/-! ### Ledger records that are not persisted -/

/-- The calls that are made once the file is published. -/
def CopyCall.afterLink : CopyCall → Bool
  | .directorySync | .published _ | .unlink | .stagingSync => true
  | _ => false

/-- Where the ledger record of this identifier is. -/
def ledgerPath (host : Host) (recordId : Text) : StorePath := ⟨0, .ledger, objectName host recordId⟩

/-- If the record can be linked, no call after that fails. -/
def Settled (calls : CopyCall → Answer) : Prop :=
  (∃ more, calls .link = .done more) →
    ∀ call, call.afterLink = true → ∃ more, calls call = .done more

/-- The end of `persistLedger`, from the link on. -/
def linkLedger (host : Host) (calls : CopyCall → Answer) (recordId bytes : Text) :
    Effect Text StoreFiles Unit := do
  let staging : StorePath := ⟨0, .ledgerStaging, objectName host recordId⟩
  let published : StorePath := ⟨0, .ledger, objectName host recordId⟩
  linkFile (calls .link) "" staging published
  syncCall (calls .directorySync) id
  let identity ← fileIdentity host (fun call => calls (.published call)) published
  if identity.byteCount ≠ bytes.length ∨ identity.sha256 ≠ host.sha256 bytes then throw []
  unlinkFile (calls .unlink) [] staging
  syncCall (calls .stagingSync) id

variable {calls : CopyCall → Answer}

/-- If no call after the link fails, the record stops at the link or not at all. -/
theorem linkLedger_stopped {recordId bytes error : Text}
    (h : (linkLedger host calls recordId bytes).exec files = (.error error, files'))
    (hsettled : Settled calls)
    (hstaged : files.read ⟨0, .ledgerStaging, objectName host recordId⟩ = some bytes)
    (hsize : bytes.length < 2 ^ 64) : files' = files := by
  rcases Effect.bind_error h with hstop | ⟨_, linked, hlinked, h⟩
  · exact linkFile_stopped hstop
  · exfalso
    obtain ⟨hlink, -, rfl⟩ := linkFile_ok hlinked
    have hdone := hsettled hlink
    have hread := (files.read_link ⟨0, .ledgerStaging, objectName host recordId⟩
      ⟨0, .ledger, objectName host recordId⟩).trans hstaged
    have hpublished := readIdentity_done host (fun call => hdone (.published call) rfl) hread hsize
    have hthere := Files.isSome_of_read
      ((files.read_link_of_ne ⟨0, .ledgerStaging, objectName host recordId⟩
        (by simp : _ ≠ (⟨0, .ledger, objectName host recordId⟩ : StorePath))).trans hstaged)
    rcases Effect.bind_error h with hstop | ⟨_, durable, hdurable, h⟩
    · rw [syncCall_done (hdone _ rfl)] at hstop
      cases hstop
    · obtain rfl := syncCall_files hdurable
      rcases Effect.bind_error h with hstop | ⟨final, verified, hverified, h⟩
      · obtain ⟨hbad, -⟩ := Prod.mk.inj hstop
        rw [hpublished] at hbad
        cases hbad
      · obtain ⟨hfinal, rfl⟩ := Prod.mk.inj hverified
        obtain rfl := Except.ok.inj (hpublished.symm.trans hfinal)
        rcases Effect.guard_error h with ⟨hbad | hbad, -⟩ | ⟨-, h⟩
        · exact hbad rfl
        · exact hbad rfl
        · rcases Effect.bind_error h with hstop | ⟨_, cleaned, hcleaned, h⟩
          · rw [unlinkFile_done (hdone _ rfl) hthere] at hstop
            cases hstop
          · rw [syncCall_done (hdone _ rfl)] at h
            cases h

/-- A record that was not persisted is not there, if no call after its link failed. -/
theorem persistLedger_stopped {recordId bytes error : Text}
    (h : (persistLedger host config calls recordId bytes).exec files = (.error error, files'))
    (hsettled : Settled calls) (hfree : files.read (ledgerPath host recordId) = none) :
    files'.read (ledgerPath host recordId) = none := by
  have hother : ledgerPath host recordId ≠ ⟨0, .ledgerStaging, objectName host recordId⟩ := nofun
  unfold persistLedger at h
  rcases Effect.guard_error h with ⟨-, rfl⟩ | ⟨-, h⟩
  · exact hfree
  · have hstage : Effect.Keeps
        (Advances fun path => path = ⟨0, .ledgerStaging, objectName host recordId⟩)
        (stageFile calls ⟨0, .ledgerStaging, objectName host recordId⟩ false
          (if config.fault.point = .partialLedgerWrite then some config.fault.partialBytes
            else none) bytes) := stageFile_keeps rfl
    have hframe := (hstage files).read_frame hother
    rw [hfree] at hframe
    rcases Effect.bind_error h with hstop | ⟨_, staged, hstaged, h⟩
    · rwa [hstop] at hframe
    · rw [hstaged] at hframe
      obtain ⟨-, rfl⟩ := stageFile_ok hstaged
      rcases Effect.bind_error h with hstop | ⟨_, synced, hsynced, h⟩
      · rwa [syncCall_files hstop]
      · obtain rfl := syncCall_files hsynced
        rcases Effect.bind_error h with hstop | ⟨identity, checked, hchecked, h⟩
        · rwa [← (Prod.mk.inj hstop).2]
        · obtain ⟨hread, rfl⟩ := Prod.mk.inj hchecked
          obtain ⟨contents, hcontents, hsize, -⟩ := readIdentity_ok hread
          rw [Files.read_create_append] at hcontents
          obtain rfl := Option.some.inj hcontents
          rcases Effect.guard_error h with ⟨-, rfl⟩ | ⟨-, h⟩
          · exact hframe
          · rwa [linkLedger_stopped h hsettled (Files.read_create_append _ _ _) hsize]

variable {request : PublishObjectRequest} {result : PublishObjectResult} {visible : Text}

/-- Where there was no record, there is the returned one or none, if no call after its
link failed. -/
theorem publishLedger_truthful {copies : List CopyEvidence}
    (h : publishLedger host config calls request copies failures files = (files', .ok result))
    (hsettled : Settled calls)
    (hfree : files.read (ledgerPath host request.ledgerRecordId) = none)
    (hvisible : files'.read (ledgerPath host request.ledgerRecordId) = some visible) :
    visible = result.ledger.bytes := by
  unfold publishLedger at h
  simp only at h
  split at h
  · cases h
  · split at h
    · rename_i hexec
      obtain ⟨rfl, hresult⟩ := Prod.mk.inj h
      obtain rfl := Except.ok.inj hresult
      exact Option.some.inj (hvisible.symm.trans (persistLedger_ok hexec))
    · rename_i hexec
      split at h
      · cases h
      · obtain ⟨rfl, -⟩ := Prod.mk.inj h
        rw [persistLedger_stopped hexec hsettled hfree] at hvisible
        cases hvisible

theorem publishReserved_truthful {calls : PublishCalls}
    (h : publishReserved host config calls request files = (files', .ok result))
    (hsettled : Settled calls.ledger)
    (hfree : files.read (ledgerPath host request.ledgerRecordId) = none)
    (hvisible : files'.read (ledgerPath host request.ledgerRecordId) = some visible) :
    visible = result.ledger.bytes := by
  unfold publishReserved at h
  split at h
  · exact publishLedger_truthful h hsettled hfree hvisible
  · rcases hcopies : publishCopies host config calls.copy request 0 config.domains files with
      ⟨⟨copies, failures⟩, middle⟩
    rw [hcopies] at h
    refine publishLedger_truthful h hsettled ?_ hvisible
    rw [(publishCopies_spec hcopies).1.read_frame, hfree]
    rintro ⟨-, hfolder | hfolder⟩ <;> cases hfolder

/-! ### Publications that are refused -/

theorem persistenceFailure_isUtf8 : IsUtf8 (ascii "copy ledger persistence failed") :=
  isUtf8_ascii (by decide)

/-- The document that says a ledger was not persisted can be made: the ledger is never
refused late. -/
theorem publishLedger_refused {copies : List CopyEvidence}
    {errors : List Protocol.ValidationError}
    (h : publishLedger host config calls request copies failures files = (files', .error errors)) :
    files' = files := by
  unfold publishLedger at h
  simp only at h
  split at h
  · exact (Prod.mk.inj h).1.symm
  · rename_i hledger
    obtain ⟨again, hagain⟩ := makeCopyLedgerDocument_again hledger
      persistenceFailure_isUtf8 (by decide)
    split at h
    · cases h
    · have hmade : makeCopyLedgerDocument host (ledgerInput config request .incomplete copies
          (failures ++ [ascii "copy ledger persistence failed"])) = .ok again := hagain
      rw [hmade] at h
      cases h

/-- A publication that is refused has touched the object's paths only. -/
theorem publishReserved_refused {calls : PublishCalls} {errors : List Protocol.ValidationError}
    (h : publishReserved host config calls request files = (files', .error errors)) :
    Advances (ObjectPaths host request.objectId) files files' := by
  unfold publishReserved at h
  split at h
  · rw [publishLedger_refused h]
    exact .refl files
  · rcases hcopies : publishCopies host config calls.copy request 0 config.domains files with
      ⟨⟨copies, failures⟩, middle⟩
    rw [hcopies] at h
    rw [publishLedger_refused h]
    exact (publishCopies_spec hcopies).1

namespace RunStore

variable {store store' : RunStore}

/-- What a publication that was refused after its object was reserved leaves behind. -/
structure RefusedLate (host : Host) (store : RunStore) (request : PublishObjectRequest)
    (store' : RunStore) : Prop where
  objectIds : store'.objectIds = request.objectId :: store.objectIds
  duplicate : request.artifactId ∈ store.artifactIds →
    store'.artifactIds = store.artifactIds ∧ store'.files = store.files
  artifactIds : request.artifactId ∉ store.artifactIds →
    store'.artifactIds = request.artifactId :: store.artifactIds
  others : ∀ path, ¬ObjectPaths host request.objectId path →
    store'.files.read path = store.files.read path
  objects : ∀ path bytes, path.folder = .objects → store.files.read path = some bytes →
    store'.files.read path = some bytes
  retry : ∀ (again : PublishObjectRequest) calls, again.objectId = request.objectId →
    nonempty [again.objectId, again.objectRole, again.artifactId, again.ledgerRecordId] = true →
    store'.publish host again calls =
      (store', artifactFailure .duplicateValue "$input/object_id" "STO-DUPLICATE-OBJECT-ID"
        "append-only object ID is already reserved and cannot be overwritten")

theorem publish_duplicate (hmode : store.config.openMode ≠ .recoverExisting)
    (hnonempty : nonempty [request.objectId, request.objectRole, request.artifactId,
      request.ledgerRecordId] = true)
    (hobject : request.objectId ∈ store.objectIds) (calls : PublishCalls) :
    store.publish host request calls =
      (store, artifactFailure .duplicateValue "$input/object_id" "STO-DUPLICATE-OBJECT-ID"
        "append-only object ID is already reserved and cannot be overwritten") := by
  rw [publish, if_neg hmode, hnonempty, if_neg (by decide), if_pos hobject]

/--
**What a refused publication leaves.**

A request that is refused for the store's mode, an empty identifier or an object that is
reserved changes nothing.  Any other request that is refused has reserved its object for
good, and may have left staged or published copies of it; every other path reads as
before, the ledger's with them, and the object is refused from then on.
-/
theorem refused_publication (host : Host) (store : RunStore) (request : PublishObjectRequest)
    (calls : PublishCalls) (store' : RunStore) (errors : List Protocol.ValidationError)
    (h : store.publish host request calls = (store', .error errors)) :
    (store.RejectedEarly request ∧ store' = store) ∨
      (¬store.RejectedEarly request ∧ RefusedLate host store request store') := by
  rcases publish_cases h with ⟨hearly, hsame, -⟩ | ⟨hearly, hartifact, rfl, -⟩ |
    ⟨hearly, hartifact, hreserved⟩
  · exact .inl ⟨hearly, hsame⟩
  · refine .inr ⟨hearly, rfl, fun _ => ⟨rfl, rfl⟩, fun hfresh => absurd hartifact hfresh,
      fun _ _ => rfl, fun _ _ _ hread => hread, ?_⟩
    intro again calls hobject hnonempty
    apply publish_duplicate
    · exact fun hmode => hearly (.inl hmode)
    · exact hnonempty
    · rw [hobject]
      exact List.mem_cons_self
  · have hfiles := publishReserved_refused hreserved.published
    refine .inr ⟨hearly, hreserved.objectIds, fun hduplicate => absurd hduplicate hartifact,
      fun _ => hreserved.artifactIds, fun path hpath => hfiles.read_frame hpath,
      fun path bytes hfolder hread => hfiles.read_kept (.inl hfolder) hread, ?_⟩
    intro again calls hobject hnonempty
    refine publish_duplicate (fun hmode => hearly (.inl ?_)) hnonempty ?_ calls
    · rw [← hreserved.config]
      exact hmode
    · rw [hobject, hreserved.objectIds]
      exact List.mem_cons_self

/-! ### Runs in which ledger records stand -/

/-- A publication that is not refused finds its record's name free, and no call fails once the
record is linked. -/
def LedgerStands (host : Host) (store : RunStore) (request : PublishObjectRequest)
    (calls : PublishCalls) : Prop :=
  ¬store.RejectedEarly request → request.artifactId ∉ store.artifactIds →
    store.files.read (ledgerPath host request.ledgerRecordId) = none ∧ Settled calls.ledger

/-- Every publication of the run is so. -/
def LedgersStand (host : Host) : RunStore → List StoreAction → Prop
  | _, [] => True
  | store, .recoverStaging request calls :: rest =>
      LedgersStand host (store.step host (.recoverStaging request calls)) rest
  | store, .publish request calls :: rest =>
      LedgerStands host store request calls ∧
        LedgersStand host (store.step host (.publish request calls)) rest

theorem LedgersStand.at {before after : List StoreAction} {calls : PublishCalls}
    (h : LedgersStand host store (before ++ .publish request calls :: after)) :
    LedgerStands host (store.run host before) request calls := by
  induction before generalizing store with
  | nil => exact h.1
  | cons action rest ih =>
      cases action with
      | publish _ _ => exact ih h.2
      | recoverStaging _ _ => exact ih h

theorem publish_truthful {calls : PublishCalls}
    (h : store.publish host request calls = (store', .ok result))
    (hstands : LedgerStands host store request calls)
    (hvisible : store'.files.read (ledgerPath host request.ledgerRecordId) = some visible) :
    visible = result.ledger.bytes := by
  rcases publish_cases h with ⟨-, -, errors, herror⟩ | ⟨-, -, -, errors, herror⟩ |
    ⟨hearly, hartifact, hreserved⟩
  · cases herror
  · cases herror
  · obtain ⟨hfree, hsettled⟩ := hstands hearly hartifact
    exact publishReserved_truthful hreserved.published hsettled hfree hvisible

/--
**A visible ledger record is the returned one, in every run whose records stand.**

Records stand if no publication that is not refused takes a name that is in use, and no
call fails between the link of a record and its end.  Then a publication that returns has
left the record it returns or none, and what it left stays through the rest of the run.
-/
theorem persisted_ledger_truthful (host : Host) (initial : RunStore)
    (before after : List StoreAction)
    (request : PublishObjectRequest) (calls : PublishCalls)
    (h : LedgersStand host initial (before ++ .publish request calls :: after)) :
    ∀ store' result, (initial.run host before).publish host request calls = (store', .ok result) →
      ∀ visible, store'.files.read (ledgerPath host request.ledgerRecordId) = some visible →
        visible = result.ledger.bytes ∧
          (store'.run host after).files.read (ledgerPath host request.ledgerRecordId) =
            some visible := by
  intro store' result hcall visible hvisible
  refine ⟨publish_truthful hcall h.at hvisible, ?_⟩
  exact (run_keeps host store' after).2.read_kept (.inr rfl) hvisible

/-! One publication, of the text `a` under the identifier `a`. -/

/-- The digests of the text `a` and of the two ledgers below, which have these lengths. -/
def ledgerHost : Host where
  conv := ⟨fun _ => none, fun _ => none⟩
  sha256 text :=
    if text.length = 1252 then
      ascii "e03aaaf4094732f6d34b54df5a3e889e579f51fa1717d08964405f9b66e64909"
    else if text.length = 1279 then
      ascii "0a103977d7568bc059d62c1fca05fd4df617bbd6770e5fe73922e5e309e0380e"
    else ascii "ca978112ca1bbdcafac231b39a23dc4da786eff8147c4e72b9807785afee48bb"

def emptyStore : RunStore where
  config := ⟨[97], [116], [⟨[49], [47, 112]⟩, ⟨[50], [47, 113]⟩], {}, .createNew⟩
  valid := ⟨nofun, nofun, _, _, rfl, nofun, nofun, by decide, by decide⟩
  objectIds := []
  artifactIds := []
  files := ⟨fun _ => none, fun _ => [], 0, Files.allocated_none⟩

def letterObject : PublishObjectRequest where
  objectId := [97]
  objectRole := [97]
  artifactId := [97]
  ledgerRecordId := [97]
  bytes := [97]
  expectedSha256 := ascii "ca978112ca1bbdcafac231b39a23dc4da786eff8147c4e72b9807785afee48bb"
  streamCompleteness := .sealedComplete

def noFailure : PublishCalls := ⟨fun _ _ => .done 65535, fun _ => .done 65535⟩

/-- The ledger's staging file can not be removed. -/
def cleanupFails : PublishCalls where
  copy _ _ := .done 65535
  ledger call := if call = .unlink then .failed (ascii "Input/output error") else .done 65535

/-- A stream that is still written to is copied to both domains, and then refused. -/
theorem refused_publication_leaves_copies :
    let refused := emptyStore.publish ledgerHost
      { letterObject with streamCompleteness := .writing } noFailure
    refused.2.toOption = none ∧ refused.1.objectIds = [[97]] ∧ refused.1.artifactIds = [[97]] ∧
      emptyStore.files.read ⟨0, .objects, objectName ledgerHost [97]⟩ = none ∧
      refused.1.files.read ⟨0, .objects, objectName ledgerHost [97]⟩ = some [97] ∧
      refused.1.files.read ⟨1, .objects, objectName ledgerHost [97]⟩ = some [97] := by
  decide

/-- A refusal of the kind the general statement is about. -/
theorem refused_publication_writing :
    ∃ store' errors, emptyStore.publish ledgerHost
        { letterObject with streamCompleteness := .writing } noFailure = (store', .error errors) ∧
      ((emptyStore.RejectedEarly { letterObject with streamCompleteness := .writing } ∧
          store' = emptyStore) ∨
        (¬emptyStore.RejectedEarly { letterObject with streamCompleteness := .writing } ∧
          RefusedLate ledgerHost emptyStore { letterObject with streamCompleteness := .writing }
            store')) := by
  rcases hcall : emptyStore.publish ledgerHost
    { letterObject with streamCompleteness := .writing } noFailure with ⟨store', errors | result⟩
  · exact ⟨store', errors, rfl, refused_publication ledgerHost emptyStore _ noFailure store' errors
      hcall⟩
  · have hnone : (emptyStore.publish ledgerHost
        { letterObject with streamCompleteness := .writing } noFailure).2.toOption = none := by
      decide
    rw [hcall] at hnone
    cases hnone

/-- A sealed record stays visible for a publication that is reported incomplete. -/
theorem sealed_ledger_of_incomplete :
    let complete := (emptyStore.publish ledgerHost letterObject noFailure).2.toOption
    let failed := emptyStore.publish ledgerHost letterObject cleanupFails
    let visible := failed.1.files.read (ledgerPath ledgerHost letterObject.ledgerRecordId)
    complete.map (·.finalizationState) = some .sealedComplete ∧
      failed.2.toOption.map (·.finalizationState) = some .incomplete ∧
      visible = complete.map (·.ledger.bytes) ∧
      visible ≠ failed.2.toOption.map (·.ledger.bytes) := by
  decide +kernel

theorem persisted_ledger_truthful_letter :
    let published := emptyStore.publish ledgerHost letterObject noFailure
    published.2.toOption.map (·.finalizationState) = some .sealedComplete ∧
      ∀ store' result, published = (store', .ok result) → ∀ visible,
        store'.files.read (ledgerPath ledgerHost letterObject.ledgerRecordId) = some visible →
          visible = result.ledger.bytes ∧
            (store'.run ledgerHost []).files.read
              (ledgerPath ledgerHost letterObject.ledgerRecordId) = some visible :=
  ⟨by decide +kernel,
    persisted_ledger_truthful ledgerHost emptyStore [] [] letterObject noFailure
      ⟨fun _ _ => ⟨rfl, fun _ _ _ => ⟨65535, rfl⟩⟩, trivial⟩⟩

end RunStore

end CpuPrefetch.Storage
