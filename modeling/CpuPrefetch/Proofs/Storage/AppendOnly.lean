/-
The run store only ever adds.

One call of the store keeps every published file (`Advances`); so does a run of calls,
by induction.  What a sealed publication says about the files, and what a recovery may
have published, are read off the single call and then hold from there on.
-/
import CpuPrefetch.Proofs.Storage.Publication

namespace CpuPrefetch.Storage

open Protocol (Text ascii Result)

variable {host : Host} {config : LocalRunStoreConfig} {files files' : StoreFiles}

/-! ### Publications -/

variable {calls : PublishCalls} {result : Result PublishObjectResult}

variable {request : PublishObjectRequest}

theorem publishReserved_keeps
    (h : publishReserved host config calls request files = (files', result)) :
    Advances (RequestPaths host request) files files' := by
  unfold publishReserved at h
  split at h
  · exact (publishLedger_keeps h).mono fun _ => .inr
  · rcases hcopies : publishCopies host config calls.copy request 0 config.domains files with
      ⟨⟨copies, failures⟩, middle⟩
    rw [hcopies] at h
    exact ((publishCopies_spec hcopies).1.mono fun _ => .inl).trans
      ((publishLedger_keeps h).mono fun _ => .inr)

/-- What a sealed publication leaves in the files. -/
structure SealedFiles (host : Host) (request : PublishObjectRequest)
    (result : PublishObjectResult) (files : StoreFiles) : Prop where
  objects : ∀ domain < 2,
    files.read ⟨domain, .objects, objectName host request.objectId⟩ = some request.bytes
  completeness : request.streamCompleteness = .sealedComplete
  ledger : files.read ⟨0, .ledger, objectName host request.ledgerRecordId⟩ =
    some result.ledger.bytes

theorem publishReserved_sealed {result : PublishObjectResult}
    (h : publishReserved host config calls request files = (files', .ok result))
    (hsealed : result.finalizationState = .sealedComplete) :
    SealedFiles host request result files' := by
  unfold publishReserved at h
  split at h
  · obtain ⟨-, hlength, -, -⟩ := publishLedger_sealed h hsealed
    cases hlength
  · rcases hcopies : publishCopies host config calls.copy request 0 config.domains files with
      ⟨⟨copies, failures⟩, middle⟩
    rw [hcopies] at h
    obtain ⟨hcomplete, hlength, hverified, hledger⟩ := publishLedger_sealed h hsealed
    refine ⟨?_, hcomplete, hledger⟩
    intro domain hdomain
    have hlt : domain < copies.length := by
      rw [hlength]
      exact hdomain
    have hcopy := (publishCopies_spec hcopies).2 domain copies[domain]
      (List.getElem?_eq_getElem hlt) (hverified _ (List.getElem_mem hlt))
    rw [Nat.zero_add] at hcopy
    exact (publishLedger_keeps h).read_kept (.inl rfl) hcopy

namespace RunStore

variable {store store' : RunStore}

/-- The publication reached the files, with both identifiers reserved. -/
structure Reserved (host : Host) (store : RunStore) (request : PublishObjectRequest)
    (calls : PublishCalls) (store' : RunStore) (result : Result PublishObjectResult) : Prop where
  config : store'.config = store.config
  objectIds : store'.objectIds = request.objectId :: store.objectIds
  artifactIds : store'.artifactIds = request.artifactId :: store.artifactIds
  published : publishReserved host store.config calls request store.files =
    (store'.files, result)

/-- The checks of `publish` that reserve nothing. -/
def RejectedEarly (store : RunStore) (request : PublishObjectRequest) : Prop :=
  store.config.openMode = .recoverExisting ∨
    nonempty [request.objectId, request.objectRole, request.artifactId,
      request.ledgerRecordId] = false ∨
    request.objectId ∈ store.objectIds

/-- What a call of `publish` can have done. -/
theorem publish_cases (h : store.publish host request calls = (store', result)) :
    (store.RejectedEarly request ∧ store' = store ∧ ∃ errors, result = .error errors) ∨
    (¬store.RejectedEarly request ∧ request.artifactId ∈ store.artifactIds ∧
      store' = { store with objectIds := request.objectId :: store.objectIds } ∧
      ∃ errors, result = .error errors) ∨
    (¬store.RejectedEarly request ∧ request.artifactId ∉ store.artifactIds ∧
      Reserved host store request calls store' result) := by
  unfold publish at h
  split at h
  · rename_i hmode
    obtain ⟨rfl, rfl⟩ := Prod.mk.inj h
    exact .inl ⟨.inl hmode, rfl, _, rfl⟩
  · rename_i hmode
    split at h
    · rename_i hempty
      obtain ⟨rfl, rfl⟩ := Prod.mk.inj h
      exact .inl ⟨.inr (.inl (by simpa using hempty)), rfl, _, rfl⟩
    · rename_i hempty
      split at h
      · rename_i hobject
        obtain ⟨rfl, rfl⟩ := Prod.mk.inj h
        exact .inl ⟨.inr (.inr hobject), rfl, _, rfl⟩
      · rename_i hobject
        have hearly : ¬store.RejectedEarly request := by
          rintro (hbad | hbad | hbad)
          · exact hmode hbad
          · exact hempty (by simpa using hbad)
          · exact hobject hbad
        simp only at h
        split at h
        · rename_i hartifact
          obtain ⟨rfl, rfl⟩ := Prod.mk.inj h
          exact .inr (.inl ⟨hearly, hartifact, rfl, _, rfl⟩)
        · rename_i hartifact
          refine .inr (.inr ⟨hearly, hartifact, ?_⟩)
          rcases hreserved : publishReserved host store.config calls request store.files with
            ⟨last, outcome⟩
          rw [hreserved] at h
          obtain ⟨rfl, rfl⟩ := Prod.mk.inj h
          exact ⟨rfl, rfl, rfl, hreserved⟩

/-- Published files stay, in both domains, through a publication. -/
theorem publish_keeps (h : store.publish host request calls = (store', result)) :
    store'.config = store.config ∧
      Advances (RequestPaths host request) store.files store'.files := by
  rcases publish_cases h with ⟨-, rfl, -⟩ | ⟨-, -, rfl, -⟩ | ⟨-, -, hreserved⟩
  · exact ⟨rfl, .refl _⟩
  · exact ⟨rfl, .refl _⟩
  · exact ⟨hreserved.config, publishReserved_keeps hreserved.published⟩

theorem publish_sealed {result : PublishObjectResult}
    (h : store.publish host request calls = (store', .ok result))
    (hsealed : result.finalizationState = .sealedComplete) :
    SealedFiles host request result store'.files := by
  rcases publish_cases h with ⟨-, -, errors, herror⟩ | ⟨-, -, -, errors, herror⟩ | ⟨-, -, hreserved⟩
  · cases herror
  · cases herror
  · exact publishReserved_sealed hreserved.published hsealed

/-! ### Recoveries -/

/-- The staging path of the object a request names. -/
def RecoveryRequest.staging (host : Host) (request : RecoveryRequest) : StorePath :=
  ⟨request.domainIndex, .staging, objectName host request.objectId⟩

/-- The path the object is published to. -/
def RecoveryRequest.published (host : Host) (request : RecoveryRequest) : StorePath :=
  ⟨request.domainIndex, .objects, objectName host request.objectId⟩

/-- The candidate had the identity expected, and is published now. -/
structure Promoted (host : Host) (request : RecoveryRequest) (files files' : StoreFiles)
    (contents : Text) : Prop where
  candidate : files.read (request.staging host) = some contents
  expected : request.Matches (identityOf host contents)
  free : files.entries (request.published host) = none
  linked : files' = files.link (request.staging host) (request.published host)

variable {contents : Text} {request : RecoveryRequest}

theorem Promoted.read (h : Promoted host request files files' contents) :
    files'.read (request.published host) = some contents := by
  rw [h.linked, Files.read_link, h.candidate]

variable {domain : LocalStorageDomain}

theorem recoverCandidate_cases {calls : RecoverCall → Answer} {result : RecoveryResult}
    (h : recoverCandidate host config calls domain request (request.staging host)
      (request.published host) files = (files', result)) :
    (files' = files ∧ result.copy = none) ∨
      ∃ contents, Promoted host request files files' contents ∧
        ∀ copy ∈ result.copy, contents.length < 2 ^ 64 ∧
          copy = recoveryEvidence host config domain request (identityOf host contents) := by
  unfold recoverCandidate at h
  split at h
  · obtain ⟨rfl, rfl⟩ := Prod.mk.inj h
    exact .inl ⟨rfl, rfl⟩
  · rename_i identity hidentity
    obtain ⟨contents, hcandidate, -, rfl⟩ := readIdentity_ok hidentity
    split at h
    · obtain ⟨rfl, rfl⟩ := Prod.mk.inj h
      exact .inl ⟨rfl, rfl⟩
    · rename_i hexpected
      rw [not_not] at hexpected
      simp only [Effect.exec_bind] at h
      rcases hlink : (linkFile (calls .link) "recovery no-replace publish" (request.staging host)
        (request.published host)).exec files with ⟨failure | _, middle⟩
      · rw [hlink] at h
        obtain ⟨rfl, rfl⟩ := Prod.mk.inj h
        exact .inl ⟨linkFile_stopped hlink, rfl⟩
      · obtain ⟨-, hfree, rfl⟩ := linkFile_ok hlink
        have hpromoted : Promoted host request files
            (files.link (request.staging host) (request.published host)) contents :=
          ⟨hcandidate, hexpected, hfree, rfl⟩
        rw [hlink] at h
        simp only [syncCall, Effect.exec_lift] at h
        split at h
        · rename_i hsync
          obtain ⟨-, rfl⟩ := Prod.mk.inj hsync
          obtain ⟨rfl, rfl⟩ := Prod.mk.inj h
          exact .inr ⟨contents, hpromoted, nofun⟩
        · rename_i hsync
          obtain ⟨-, rfl⟩ := Prod.mk.inj hsync
          split at h
          · obtain ⟨rfl, rfl⟩ := Prod.mk.inj h
            exact .inr ⟨contents, hpromoted, nofun⟩
          · rename_i final hfinal
            obtain ⟨seen, hseen, hsize, rfl⟩ := readIdentity_ok hfinal
            obtain rfl := Option.some.inj (hpromoted.read.symm.trans hseen)
            rw [if_pos hexpected] at h
            obtain ⟨rfl, rfl⟩ := Prod.mk.inj h
            refine .inr ⟨contents, hpromoted, ?_⟩
            intro copy hcopy
            exact ⟨hsize, (Option.some.inj hcopy).symm⟩

/-- The object is published with the identity the request expects. -/
structure Holding (host : Host) (store : RunStore) (request : RecoveryRequest)
    (domain : LocalStorageDomain) (contents : Text) : Prop where
  domain : store.config.domains[request.domainIndex]? = some domain
  objectId : request.objectId ≠ []
  read : store.files.read (request.published host) = some contents
  size : contents.length < 2 ^ 64
  expected : request.Matches (identityOf host contents)

/-- What a call of `recover_staging` can have done. -/
theorem recoverStaging_cases {calls : RecoverCall → Answer} {result : RecoveryResult}
    (h : store.recoverStaging host request calls = (store', result)) :
    store'.config = store.config ∧
      (store' = store ∨ ∃ contents, Promoted host request store.files store'.files contents) ∧
      ∀ copy ∈ result.copy, ∃ domain contents, Holding host store' request domain contents ∧
        copy = recoveryEvidence host store.config domain request (identityOf host contents) := by
  unfold recoverStaging at h
  split at h
  · obtain ⟨rfl, rfl⟩ := Prod.mk.inj h
    exact ⟨rfl, .inl rfl, by intro copy hcopy; cases hcopy⟩
  · rename_i domain hdomain
    split at h
    · obtain ⟨rfl, rfl⟩ := Prod.mk.inj h
      exact ⟨rfl, .inl rfl, by intro copy hcopy; cases hcopy⟩
    · rename_i hobject
      simp only at h
      split at h
      · obtain ⟨rfl, rfl⟩ := Prod.mk.inj h
        refine ⟨rfl, .inl rfl, ?_⟩
        intro copy hcopy
        unfold recoverPublished at hcopy
        split at hcopy
        · rename_i identity hidentity
          obtain ⟨contents, hread, hsize, rfl⟩ := readIdentity_ok hidentity
          split at hcopy
          · rename_i hexpected
            exact ⟨domain, contents, ⟨hdomain, hobject, hread, hsize, hexpected⟩,
              (Option.some.inj hcopy).symm⟩
          · cases hcopy
        · cases hcopy
      · rcases hcandidate : recoverCandidate host store.config calls domain request
          (request.staging host) (request.published host) store.files with ⟨last, outcome⟩
        unfold RecoveryRequest.staging RecoveryRequest.published at hcandidate
        rw [hcandidate] at h
        obtain ⟨rfl, rfl⟩ := Prod.mk.inj h
        rcases recoverCandidate_cases hcandidate with ⟨rfl, hnone⟩ | ⟨contents, hpromoted, hcopies⟩
        · refine ⟨rfl, .inl rfl, ?_⟩
          intro copy hcopy
          rw [hnone] at hcopy
          cases hcopy
        · refine ⟨rfl, .inr ⟨contents, hpromoted⟩, ?_⟩
          intro copy hcopy
          obtain ⟨hsize, hevidence⟩ := hcopies copy hcopy
          exact ⟨domain, contents, ⟨hdomain, hobject, hpromoted.read, hsize, hpromoted.expected⟩,
            hevidence⟩

theorem Promoted.advances (h : Promoted host request files files' contents) :
    Advances (ObjectPaths host request.objectId) files files' := by
  rw [h.linked]
  exact .link ⟨rfl, .inr rfl⟩ h.free

/-- A recovery of an object that is published changes nothing, and finds it if its calls
are done. -/
theorem Holding.recoverStaging (h : Holding host store request domain contents)
    (calls : RecoverCall → Answer) : (store.recoverStaging host request calls).1 = store ∧
      ((∃ more, calls .lookup = .done more) →
        (∀ call, ∃ more, calls (.published call) = .done more) →
        (store.recoverStaging host request calls).2 =
          ⟨false, true, some (recoveryEvidence host store.config domain request
            (identityOf host contents)), []⟩) := by
  have htaken := Files.isSome_of_read h.read
  constructor
  · rcases hcall : store.recoverStaging host request calls with ⟨store', result⟩
    obtain ⟨-, rfl | ⟨contents', hpromoted⟩, -⟩ := recoverStaging_cases hcall
    · rfl
    · rw [hpromoted.free] at htaken
      cases htaken
  · rintro ⟨more, hlookup⟩ hpublished
    have hfound : found (calls .lookup) (store.files.entries (request.published host)) = true := by
      rw [hlookup, found, htaken]
    have hidentity := readIdentity_done host hpublished h.read h.size
    unfold RunStore.recoverStaging
    rw [h.domain]
    simp only
    rw [if_neg h.objectId]
    change (if found (calls .lookup) (store.files.entries (request.published host)) = true then
      (store, recoverPublished host store.config domain request
        (readIdentity host (fun call => calls (.published call)) store.files
          (request.published host)))
      else _).2 = _
    rw [if_pos hfound, hidentity, recoverPublished]
    simp only
    rw [if_pos h.expected]

theorem Holding.keeps {touched : StorePath → Prop}
    (h : Holding host store request domain contents) (hconfig : store'.config = store.config)
    (hfiles : Advances touched store.files store'.files) :
    Holding host store' request domain contents where
  domain := by
    rw [hconfig]
    exact h.domain
  objectId := h.objectId
  read := hfiles.read_kept (.inl rfl) h.read
  size := h.size
  expected := h.expected

/-! ### Runs of calls -/

/-- A call of the store, with what every filesystem call it makes answers. -/
inductive StoreAction where
  | publish (request : PublishObjectRequest) (calls : PublishCalls)
  | recoverStaging (request : RecoveryRequest) (calls : RecoverCall → Answer)

def step (host : Host) (store : RunStore) : StoreAction → RunStore
  | .publish request calls => (store.publish host request calls).1
  | .recoverStaging request calls => (store.recoverStaging host request calls).1

def run (host : Host) (store : RunStore) (actions : List StoreAction) : RunStore :=
  actions.foldl (step host) store

/-- One call keeps what is published, and the configuration. -/
theorem step_keeps (host : Host) (store : RunStore) (action : StoreAction) :
    (store.step host action).config = store.config ∧
      Advances (fun _ => True) store.files (store.step host action).files := by
  cases action with
  | publish request calls =>
      rcases hcall : store.publish host request calls with ⟨store', result⟩
      obtain ⟨hconfig, hfiles⟩ := publish_keeps hcall
      rw [step, hcall]
      exact ⟨hconfig, hfiles.mono fun _ _ => trivial⟩
  | recoverStaging request calls =>
      rcases hcall : store.recoverStaging host request calls with ⟨store', result⟩
      obtain ⟨hconfig, hfiles, -⟩ := recoverStaging_cases hcall
      rw [step, hcall]
      refine ⟨hconfig, ?_⟩
      rcases hfiles with rfl | ⟨contents, hpromoted⟩
      · exact .refl _
      · exact hpromoted.advances.mono fun _ _ => trivial

/-- So does a run of calls. -/
theorem run_keeps (host : Host) (store : RunStore) (actions : List StoreAction) :
    (store.run host actions).config = store.config ∧
      Advances (fun _ => True) store.files (store.run host actions).files := by
  induction actions generalizing store with
  | nil => exact ⟨rfl, .refl _⟩
  | cons action rest ih =>
      obtain ⟨hconfig, hfiles⟩ := step_keeps host store action
      obtain ⟨hrest, hadvances⟩ := ih (store.step host action)
      exact ⟨hrest.trans hconfig, hfiles.trans hadvances⟩

/-! ### What any sequence of calls keeps -/

/-- All that a recovery changes: the object it names, if there was none, to the file it expects. -/
def OnlyPromotes (host : Host) (request : RecoveryRequest) (files files' : StoreFiles) : Prop :=
  ∀ path, files'.read path ≠ files.read path →
    path = request.published host ∧ files.read path = none ∧
      ∃ contents, files.read (request.staging host) = some contents ∧
        contents.length = request.expectedByteCount.toNat ∧
        host.sha256 contents = request.expectedSha256 ∧ files'.read path = some contents

theorem Promoted.onlyPromotes (h : Promoted host request files files' contents) :
    OnlyPromotes host request files files' := by
  intro path hchanged
  have hpath : path = request.published host := by
    by_contra hother
    apply hchanged
    rw [h.linked, Files.read_link_of_ne _ _ hother]
  subst hpath
  have hfree : files.read (request.published host) = none := by
    rw [Files.read, h.free]
    rfl
  exact ⟨rfl, hfree, contents, h.candidate, h.expected.1, h.expected.2, h.read⟩

/--
**The store is append-only.**

Whatever the calls before it, and whatever each filesystem call answers: an object stays
as it is through any sequence of calls; a sealed publication has left the bytes of a
complete stream in both domains, and its ledger record; a recovery publishes the file it
expects or changes nothing, and once it has found one, the same call changes nothing at
any later time, and gives the same evidence if it can look up and read the object.
-/
theorem append_only_store (host : Host) (initial : RunStore) (before : List StoreAction) :
    let store := initial.run host before
    (∀ path bytes after, path.folder = .objects → store.files.read path = some bytes →
      (store.run host after).files.read path = some bytes) ∧
    (∀ request calls store' result, store.publish host request calls = (store', .ok result) →
      result.finalizationState = .sealedComplete →
        SealedFiles host request result store'.files) ∧
    (∀ request calls store' result, store.recoverStaging host request calls = (store', result) →
      OnlyPromotes host request store.files store'.files ∧
      ∀ copy ∈ result.copy, ∀ later again,
        let held := store'.run host later
        (held.recoverStaging host request again).1 = held ∧
        ((∃ more, again .lookup = .done more) →
          (∀ call, ∃ more, again (.published call) = .done more) →
          (held.recoverStaging host request again).2 = ⟨false, true, some copy, []⟩)) := by
  intro store
  refine ⟨?_, ?_, ?_⟩
  · intro path bytes after hfolder hread
    exact (run_keeps host store after).2.read_kept (.inl hfolder) hread
  · intro request calls store' result hcall hsealed
    exact publish_sealed hcall hsealed
  · intro request calls store' result hcall
    obtain ⟨hconfig, hfiles, hcopies⟩ := recoverStaging_cases hcall
    constructor
    · rcases hfiles with hsame | ⟨contents, hpromoted⟩
      · rw [hsame]
        exact fun path hchanged => absurd rfl hchanged
      · exact hpromoted.onlyPromotes
    · intro copy hcopy later again held
      obtain ⟨domain, contents, hholding, rfl⟩ := hcopies copy hcopy
      obtain ⟨hlater, hadvances⟩ := run_keeps host store' later
      have hheld := (hholding.keeps hlater hadvances).recoverStaging again
      rw [hlater, hconfig] at hheld
      exact hheld

/-! A recovery that goes through, and one whose second readback fails. -/

/-- The digest of the text `a`, which is all that is read or named below. -/
def letterHost : Host where
  conv := ⟨fun _ => none, fun _ => none⟩
  sha256 _ := ascii "ca978112ca1bbdcafac231b39a23dc4da786eff8147c4e72b9807785afee48bb"

def letterRequest : RecoveryRequest where
  domainIndex := 0
  objectId := [97]
  expectedByteCount := 1
  expectedSha256 := ascii "ca978112ca1bbdcafac231b39a23dc4da786eff8147c4e72b9807785afee48bb"

/-- The object was staged, and the run ended before it was published. -/
def letterStore : RunStore where
  config := ⟨[114], [116], [⟨[49], [47, 112]⟩, ⟨[50], [47, 113]⟩], {}, .recoverExisting⟩
  valid := ⟨nofun, nofun, _, _, rfl, nofun, nofun, by decide, by decide⟩
  objectIds := []
  artifactIds := []
  files :=
    let empty : StoreFiles := ⟨fun _ => none, fun _ => [], 0, Files.allocated_none⟩
    (empty.create (letterRequest.staging letterHost)).append 0 [97]

def recovered : RunStore × RecoveryResult :=
  letterStore.recoverStaging letterHost letterRequest fun _ => .done 0

/-- What was recovered stays, and recovering it again gives the same evidence of it. -/
theorem append_only_store_recovered : ∃ copy, recovered.2 = ⟨true, false, some copy, []⟩ ∧
    ∀ later, let held := recovered.1.run letterHost later
      held.files.read ⟨0, .objects, objectName letterHost [97]⟩ = some [97] ∧
        held.recoverStaging letterHost letterRequest (fun _ => .done 0) =
          (held, ⟨false, true, some copy, []⟩) := by
  have hpromoted : recovered.2.promoted = true ∧ recovered.2.alreadyPublished = false ∧
      recovered.2.copy.isSome = true ∧ recovered.2.failure = [] := by decide
  have hread : recovered.1.files.read ⟨0, .objects, objectName letterHost [97]⟩ = some [97] := by
    decide
  rcases hcall : recovered with ⟨store, promoted, already, _ | copy, failure⟩
  · rw [hcall] at hpromoted
    cases hpromoted.2.2.1
  rw [hcall] at hpromoted hread
  obtain ⟨rfl, rfl, -, rfl⟩ := hpromoted
  refine ⟨copy, rfl, fun later => ?_⟩
  obtain ⟨hstore, hresult⟩ := ((append_only_store letterHost letterStore []).2.2 letterRequest _ _ _
    hcall).2 copy rfl later fun _ => .done 0
  exact ⟨(append_only_store letterHost store []).1 _ _ later rfl hread,
    Prod.ext hstore (hresult ⟨0, rfl⟩ fun _ => ⟨0, rfl⟩)⟩

/-- The object can not be opened to be read back. -/
def unreadable : RecoverCall → Answer
  | .published .openFile => .failed (ascii "Input/output error")
  | _ => .done 0

/-- The second call of a recovery that went through gives no evidence. -/
theorem second_recovery_unread :
    let (store, first) := letterStore.recoverStaging letterHost letterRequest fun _ => .done 0
    first.copy.isSome = true ∧
      (store.recoverStaging letterHost letterRequest unreadable).2.copy = none := by
  decide

end RunStore

end CpuPrefetch.Storage
