/-
What one publication does to the files.

Every call leaves the files that were there as they were: `Advances` says so for each
computation of the store, whether it went through or stopped, and names the paths it
may have changed.  A computation that went through says more: the bytes it was given are
under the path it publishes to, because the file it staged is the file it linked.
-/
import CpuPrefetch.Lib.Fallible
import CpuPrefetch.Storage.ArtifactStore

namespace CpuPrefetch.Storage

open Effect
open Protocol (Text ascii Result)

/-! ### Transfers -/

variable {size : Nat} {stopAfter : Option Nat}

theorem writeRoom_bounds {written : Nat} (hlt : written < size)
    (hstop : ¬stopAfter.any (fun stop => decide (stop ≤ written)) = true) :
    1 ≤ writeRoom stopAfter size written ∧ writeRoom stopAfter size written ≤ size - written := by
  cases stopAfter with
  | none =>
      rw [writeRoom]
      omega
  | some stop =>
      have hleft : written < stop := by simpa using hstop
      rw [writeRoom]
      omega

variable {fuel index : Nat}

/-- A write that is not stopped writes everything. -/
theorem writeLoop_complete {calls : Nat → Answer} {written total : Nat}
    (h : writeLoop calls stopAfter size fuel index written = (total, none))
    (hfuel : size - written < fuel) (hle : written ≤ size) : total = size := by
  induction fuel generalizing index written with
  | zero => omega
  | succ fuel ih =>
      rw [writeLoop] at h
      split at h
      · rename_i hlt
        split at h
        · cases h
        · rename_i hstop
          have hroom := writeRoom_bounds hlt hstop
          split at h
          · cases h
          · exact ih h (by omega) (by omega)
      · obtain ⟨rfl, -⟩ := Prod.mk.inj h
        omega

theorem writeComplete_complete {calls : Nat → Answer} {total : Nat}
    (h : writeComplete calls stopAfter size = (total, none)) : total = size :=
  writeLoop_complete h (by omega) (Nat.zero_le _)

/-- What a readback has seen at the end of the file is the file. -/
theorem readLoop_ok {calls : Nat → Answer} {rest seen result : Text}
    (h : readLoop calls fuel index rest seen = .ok result) (hfuel : rest.length < fuel) :
    result = seen ++ rest := by
  induction fuel generalizing index rest seen with
  | zero => omega
  | succ fuel ih =>
      rw [readLoop] at h
      split at h
      · cases h
      · rename_i more _
        split at h
        · rename_i hempty
          rw [List.isEmpty_iff.mp hempty, List.append_nil]
          exact (Except.ok.inj h).symm
        · rename_i hrest
          have hpos : 0 < rest.length :=
            List.length_pos_iff.mpr fun hnil => hrest (List.isEmpty_iff.mpr hnil)
          rw [ih h (by rw [List.length_drop]; omega), List.append_assoc, List.take_append_drop]

/-- A readback whose calls are all done reaches the end. -/
theorem readLoop_done {calls : Nat → Answer} (hcalls : ∀ index, ∃ more, calls index = .done more)
    {rest seen : Text} (hfuel : rest.length < fuel) :
    readLoop calls fuel index rest seen = .ok (seen ++ rest) := by
  induction fuel generalizing index rest seen with
  | zero => omega
  | succ fuel ih =>
      obtain ⟨more, hmore⟩ := hcalls index
      rw [readLoop, hmore]
      simp only
      split
      · rename_i hempty
        rw [List.isEmpty_iff.mp hempty, List.append_nil]
      · rename_i hrest
        have hpos : 0 < rest.length :=
          List.length_pos_iff.mpr fun hnil => hrest (List.isEmpty_iff.mpr hnil)
        rw [ih (by rw [List.length_drop]; omega), List.append_assoc, List.take_append_drop]

/-- The identity of a file with these contents. -/
def identityOf (host : Host) (contents : Text) : FileIdentity :=
  ⟨contents.length, host.sha256 contents⟩

theorem readIdentity_ok {host : Host} {calls : ReadCall → Answer} {files : StoreFiles}
    {path : StorePath} {identity : FileIdentity}
    (h : readIdentity host calls files path = .ok identity) :
    ∃ contents, files.read path = some contents ∧ contents.length < 2 ^ 64 ∧
      identity = identityOf host contents := by
  obtain ⟨-, -, h⟩ := Fallible.bind_ok h
  obtain ⟨contents, hcontents, h⟩ := Fallible.bind_ok h
  obtain ⟨-, -, h⟩ := Fallible.bind_ok h
  obtain ⟨-, -, h⟩ := Fallible.bind_ok h
  obtain ⟨seen, hseen, hlast⟩ := Fallible.bind_ok h
  obtain rfl : seen = contents := readLoop_ok hseen (Nat.lt_succ_self _)
  split at hlast
  · rename_i hsize
    refine ⟨seen, ?_, hsize, (Except.ok.inj hlast).symm⟩
    cases hread : files.read path with
    | none => rw [hread] at hcontents; cases hcontents
    | some contents => rw [hread] at hcontents; exact congrArg some (Except.ok.inj hcontents)
  · cases hlast

/-- A readback whose calls are all done gives the identity of the file. -/
theorem readIdentity_done (host : Host) {calls : ReadCall → Answer}
    (hcalls : ∀ call, ∃ more, calls call = .done more) {files : StoreFiles} {path : StorePath}
    {contents : Text} (hread : files.read path = some contents)
    (hsize : contents.length < 2 ^ 64) :
    readIdentity host calls files path = .ok (identityOf host contents) := by
  have hcheck : ∀ call failure, (calls call).check failure = .ok () := by
    intro call failure
    obtain ⟨more, hmore⟩ := hcalls call
    rw [hmore]
    rfl
  unfold readIdentity
  rw [hcheck, hcheck, hcheck, hread]
  show (readLoop _ _ _ _ _ >>= fun seen => _) = _
  rw [readLoop_done (fun index => hcalls (.read index)) (Nat.lt_succ_self _), List.nil_append]
  show (if _ then _ else _) = _
  rw [if_pos hsize]
  rfl

/-! ### Calls -/

/-- The folders whose entries stay. -/
def Published (path : StorePath) : Prop := path.folder = .objects ∨ path.folder = .ledger

/-- Published entries and the contents of files stay; only these paths have new entries. -/
abbrev Advances (touched : StorePath → Prop) : StoreFiles → StoreFiles → Prop :=
  Files.Grows touched Published

variable {touched : StorePath → Prop} {files files' : StoreFiles}

variable {result : Unit}

section Calls

variable {calls : CopyCall → Answer} {answer : Answer} {path target : StorePath}
  {exhausted : Bool} {stopAfter : Option Nat} {bytes : Text} {operation : String}

theorem syncCall_keeps (failure : Text → Text) :
    Keeps (Advances touched) (syncCall answer failure) := .lift _

theorem syncCall_files {failure : Text → Text} {result : Except Text Unit}
    (h : (syncCall answer failure).exec files = (result, files')) : files' = files :=
  (Prod.mk.inj h).2.symm

theorem syncCall_done {failure : Text → Text} (h : ∃ more, answer = .done more) :
    (syncCall answer failure).exec files = (.ok (), files) := by
  obtain ⟨more, rfl⟩ := h
  rfl

theorem stageFile_keeps (htouched : touched path) :
    Keeps (Advances touched) (stageFile calls path exhausted stopAfter bytes) := by
  intro files
  unfold stageFile
  rw [exec_of]
  split
  · exact .refl files
  · split
    · exact .refl files
    · rename_i hfree
      rw [Option.not_isSome_iff_eq_none] at hfree
      split
      · simp only
        split
        · exact .create_append htouched hfree _
        · exact .create_append htouched hfree _

theorem stageFile_ok
    (h : (stageFile calls path exhausted stopAfter bytes).exec files = (.ok result, files')) :
    files.entries path = none ∧ files' = (files.create path).append files.next bytes := by
  unfold stageFile at h
  rw [exec_of] at h
  split at h
  · cases h
  · split at h
    · cases h
    · rename_i hfree
      rw [Option.not_isSome_iff_eq_none] at hfree
      refine ⟨hfree, ?_⟩
      split at h
      · rename_i written failure hwrite
        simp only at h
        split at h
        · cases h
        · obtain rfl := (Prod.mk.inj h).2
          cases exhausted with
          | true => cases hwrite
          | false => rw [writeComplete_complete hwrite, List.take_length]

theorem linkFile_keeps (htouched : touched target) :
    Keeps (Advances touched) (linkFile answer operation path target) := by
  intro files
  unfold linkFile
  rw [exec_of]
  split
  · exact .refl files
  · split
    · exact .refl files
    · split
      · exact .refl files
      · rename_i hfree
        exact .link htouched (Option.not_isSome_iff_eq_none.mp hfree)

theorem linkFile_ok
    (h : (linkFile answer operation path target).exec files = (.ok result, files')) :
    (∃ more, answer = .done more) ∧ files.entries target = none ∧
      files' = files.link path target := by
  unfold linkFile at h
  rw [exec_of] at h
  split at h
  · cases h
  · refine ⟨⟨_, rfl⟩, ?_⟩
    split at h
    · cases h
    · split at h
      · cases h
      · rename_i hfree
        exact ⟨Option.not_isSome_iff_eq_none.mp hfree, (Prod.mk.inj h).2.symm⟩

variable {failure : Text}

theorem linkFile_stopped
    (h : (linkFile answer operation path target).exec files = (.error failure, files')) :
    files' = files := by
  unfold linkFile at h
  rw [exec_of] at h
  split at h
  · exact (Prod.mk.inj h).2.symm
  · split at h
    · exact (Prod.mk.inj h).2.symm
    · split at h
      · exact (Prod.mk.inj h).2.symm
      · cases h

theorem unlinkFile_keeps (htouched : touched path) (hpath : ¬Published path) (failure : Text) :
    Keeps (Advances touched) (unlinkFile answer failure path) := by
  intro files
  unfold unlinkFile
  rw [exec_of]
  split
  · exact .refl files
  · split
    · exact .refl files
    · exact .unlink htouched hpath

theorem unlinkFile_ok (h : (unlinkFile answer failure path).exec files = (.ok result, files')) :
    files' = files.unlink path := by
  unfold unlinkFile at h
  rw [exec_of] at h
  split at h
  · cases h
  · split at h
    · cases h
    · exact (Prod.mk.inj h).2.symm

theorem unlinkFile_done (h : ∃ more, answer = .done more) (hpath : (files.entries path).isSome) :
    (unlinkFile answer failure path).exec files = (.ok (), files.unlink path) := by
  obtain ⟨more, rfl⟩ := h
  have hthere : ¬(files.entries path).isNone := by
    rw [Option.isNone_iff_eq_none]
    exact Option.isSome_iff_ne_none.mp hpath
  unfold unlinkFile
  rw [exec_of]
  simp only
  rw [if_neg hthere]

theorem fileIdentity_keeps (host : Host) (calls : ReadCall → Answer) :
    Keeps (Advances touched) (fileIdentity host calls path) := fun files => .refl files

theorem fileIdentity_ok {host : Host} {calls : ReadCall → Answer} {identity : FileIdentity}
    (h : (fileIdentity host calls path).exec files = (.ok identity, files')) :
    files' = files ∧ ∃ contents, files.read path = some contents ∧
      identity = identityOf host contents := by
  obtain ⟨hread, hfiles⟩ := Prod.mk.inj h
  obtain ⟨contents, hcontents, -, hidentity⟩ := readIdentity_ok hread
  exact ⟨hfiles.symm, contents, hcontents, hidentity⟩

end Calls

/-! ### One copy -/

variable {host : Host} {config : LocalRunStoreConfig}

/-- The paths of an object, in any domain. -/
def ObjectPaths (host : Host) (objectId : Text) (path : StorePath) : Prop :=
  path.name = objectName host objectId ∧ (path.folder = .staging ∨ path.folder = .objects)

/-- The paths of a ledger record. -/
def LedgerPaths (host : Host) (recordId : Text) (path : StorePath) : Prop :=
  path.domain = 0 ∧ path.name = objectName host recordId ∧
    (path.folder = .ledgerStaging ∨ path.folder = .ledger)

variable (host config) in
theorem publishOne_keeps (calls : CopyCall → Answer) (domainIndex : Nat)
    (domain : LocalStorageDomain) (request : PublishObjectRequest) :
    Keeps (Advances (ObjectPaths host request.objectId))
      (publishOne host config calls domainIndex domain request) := by
  have hstaging : ObjectPaths host request.objectId
      ⟨domainIndex, .staging, objectName host request.objectId⟩ := ⟨rfl, .inl rfl⟩
  have hpublished : ObjectPaths host request.objectId
      ⟨domainIndex, .objects, objectName host request.objectId⟩ := ⟨rfl, .inr rfl⟩
  unfold publishOne
  refine .bind (stageFile_keeps hstaging) fun _ => .bind (syncCall_keeps _) fun _ => ?_
  refine .guard _ _ (.bind (fileIdentity_keeps _ _) fun _ => ?_)
  refine .guard _ _ (.bind (linkFile_keeps hpublished) fun _ => ?_)
  refine .bind (syncCall_keeps _) fun _ => .bind (fileIdentity_keeps _ _) fun _ => ?_
  split
  · exact .pure _
  · refine .bind (unlinkFile_keeps hstaging (by rintro (h | h) <;> cases h) _) fun _ => ?_
    exact .bind (syncCall_keeps _) fun _ => .pure _

variable {calls : CopyCall → Answer} {request : PublishObjectRequest}

/-- A verified copy is the bytes that were to be published. -/
theorem publishOne_ok {domainIndex : Nat} {domain : LocalStorageDomain} {copy : CopyEvidence}
    (h : (publishOne host config calls domainIndex domain request).exec files = (.ok copy,
      files')) (hverified : copy.verified = true) :
    files'.read ⟨domainIndex, .objects, objectName host request.objectId⟩ = some request.bytes := by
  obtain ⟨_, staged, hstaged, h⟩ := bind_ok h
  obtain ⟨_, synced, hsynced, h⟩ := bind_ok h
  obtain ⟨-, h⟩ := guard_ok h
  obtain ⟨_, checked, hchecked, h⟩ := bind_ok h
  obtain ⟨-, h⟩ := guard_ok h
  obtain ⟨_, linked, hlinked, h⟩ := bind_ok h
  obtain ⟨_, durable, hdurable, h⟩ := bind_ok h
  obtain ⟨identity, verified, hreadback, h⟩ := bind_ok h
  obtain ⟨-, rfl⟩ := stageFile_ok hstaged
  obtain rfl := syncCall_files hsynced
  obtain ⟨rfl, -⟩ := fileIdentity_ok hchecked
  obtain ⟨-, -, rfl⟩ := linkFile_ok hlinked
  obtain rfl := syncCall_files hdurable
  obtain ⟨rfl, -⟩ := fileIdentity_ok hreadback
  split at h
  · rename_i hbad
    obtain ⟨hcopy, -⟩ := Prod.mk.inj h
    obtain rfl := Except.ok.inj hcopy
    rw [hverified] at hbad
    cases hbad
  · obtain ⟨_, cleaned, hcleaned, h⟩ := bind_ok h
    obtain ⟨_, final, hfinal, h⟩ := bind_ok h
    obtain rfl := unlinkFile_ok hcleaned
    obtain rfl := syncCall_files hfinal
    obtain ⟨-, rfl⟩ := Prod.mk.inj h
    rw [Files.read_unlink_of_ne _ (by simp), Files.read_link, Files.read_create_append]

/-! ### The ledger -/

variable (host config) in
theorem persistLedger_keeps (calls : CopyCall → Answer) (recordId bytes : Text) :
    Keeps (Advances (LedgerPaths host recordId))
      (persistLedger host config calls recordId bytes) := by
  have hstaging : LedgerPaths host recordId ⟨0, .ledgerStaging, objectName host recordId⟩ :=
    ⟨rfl, rfl, .inl rfl⟩
  have hpublished : LedgerPaths host recordId ⟨0, .ledger, objectName host recordId⟩ :=
    ⟨rfl, rfl, .inr rfl⟩
  unfold persistLedger
  refine .guard _ _ (.bind (stageFile_keeps hstaging) fun _ => ?_)
  refine .bind (syncCall_keeps _) fun _ => .bind (fileIdentity_keeps _ _) fun _ => ?_
  refine .guard _ _ (.bind (linkFile_keeps hpublished) fun _ => ?_)
  refine .bind (syncCall_keeps _) fun _ => .bind (fileIdentity_keeps _ _) fun _ => ?_
  refine .guard _ _ (.bind (unlinkFile_keeps hstaging ?_ _) fun _ => syncCall_keeps _)
  rintro (h | h) <;> cases h

/-- A persisted ledger record is its bytes. -/
theorem persistLedger_ok {recordId bytes : Text}
    (h : (persistLedger host config calls recordId bytes).exec files = (.ok result, files')) :
    files'.read ⟨0, .ledger, objectName host recordId⟩ = some bytes := by
  unfold persistLedger at h
  obtain ⟨-, h⟩ := guard_ok h
  obtain ⟨_, staged, hstaged, h⟩ := bind_ok h
  obtain ⟨_, synced, hsynced, h⟩ := bind_ok h
  obtain ⟨_, checked, hchecked, h⟩ := bind_ok h
  obtain ⟨-, h⟩ := guard_ok h
  obtain ⟨_, linked, hlinked, h⟩ := bind_ok h
  obtain ⟨_, durable, hdurable, h⟩ := bind_ok h
  obtain ⟨_, verified, hreadback, h⟩ := bind_ok h
  obtain ⟨-, h⟩ := guard_ok h
  obtain ⟨_, cleaned, hcleaned, h⟩ := bind_ok h
  obtain ⟨-, rfl⟩ := stageFile_ok hstaged
  obtain rfl := syncCall_files hsynced
  obtain ⟨rfl, -⟩ := fileIdentity_ok hchecked
  obtain ⟨-, -, rfl⟩ := linkFile_ok hlinked
  obtain rfl := syncCall_files hdurable
  obtain ⟨rfl, -⟩ := fileIdentity_ok hreadback
  obtain rfl := unlinkFile_ok hcleaned
  obtain rfl := syncCall_files h
  rw [Files.read_unlink_of_ne _ (by simp), Files.read_link, Files.read_create_append]

/-! ### All copies -/

variable {copies : List CopyEvidence} {failures : List Text}

/-- The loop over the domains touches the object's paths, and its verified copies are there. -/
theorem publishCopies_spec {calls : Nat → CopyCall → Answer} {domains : List LocalStorageDomain}
    (h : publishCopies host config calls request index domains files = ((copies, failures),
      files')) : Advances (ObjectPaths host request.objectId) files files' ∧
      ∀ (k : Nat) (copy : CopyEvidence), copies[k]? = some copy → copy.verified = true →
        files'.read ⟨index + k, .objects, objectName host request.objectId⟩ =
          some request.bytes := by
  induction domains generalizing index files copies failures with
  | nil =>
      obtain ⟨hcopies, rfl⟩ := Prod.mk.inj h
      obtain ⟨rfl, -⟩ := Prod.mk.inj hcopies
      exact ⟨.refl files, nofun⟩
  | cons domain rest ih =>
      have hkeeps := publishOne_keeps host config (calls index) index domain request files
      rw [publishCopies] at h
      rcases hone : (publishOne host config (calls index) index domain request).exec files with
        ⟨_ | copy, middle⟩
      · rw [hone] at h hkeeps
        obtain ⟨hcopies, rfl⟩ := Prod.mk.inj h
        obtain ⟨rfl, -⟩ := Prod.mk.inj hcopies
        exact ⟨hkeeps, nofun⟩
      · rw [hone] at h hkeeps
        have hfirst : copy.verified = true → middle.read
            ⟨index, .objects, objectName host request.objectId⟩ = some request.bytes :=
          publishOne_ok hone
        -- a single copy: the loop stopped after this domain
        have hsingle : ∀ (k : Nat) (other : CopyEvidence), [copy][k]? = some other →
            other.verified = true → middle.read
              ⟨index + k, .objects, objectName host request.objectId⟩ = some request.bytes := by
          intro k other hother hverified
          cases k with
          | zero =>
              obtain rfl := Option.some.inj hother
              exact hfirst hverified
          | succ k => cases hother
        simp only at h
        split at h
        · obtain ⟨hcopies, rfl⟩ := Prod.mk.inj h
          obtain ⟨rfl, -⟩ := Prod.mk.inj hcopies
          exact ⟨hkeeps, hsingle⟩
        · split at h
          · obtain ⟨hcopies, rfl⟩ := Prod.mk.inj h
            obtain ⟨rfl, -⟩ := Prod.mk.inj hcopies
            exact ⟨hkeeps, hsingle⟩
          · rcases hrest : publishCopies host config calls request (index + 1) rest middle with
              ⟨⟨others, texts⟩, last⟩
            rw [hrest] at h
            obtain ⟨hcopies, rfl⟩ := Prod.mk.inj h
            obtain ⟨rfl, -⟩ := Prod.mk.inj hcopies
            obtain ⟨hgrows, hothers⟩ := ih hrest
            refine ⟨hkeeps.trans hgrows, ?_⟩
            intro k other hother hverified
            cases k with
            | zero =>
                obtain rfl := Option.some.inj hother
                exact hgrows.read_kept (.inl rfl) (hfirst hverified)
            | succ k =>
                have hindex : index + (k + 1) = index + 1 + k := by omega
                rw [hindex]
                exact hothers k other hother hverified

/-! ### The end of a publication -/

/-- What the paths of one publication are. -/
def RequestPaths (host : Host) (request : PublishObjectRequest) (path : StorePath) : Prop :=
  ObjectPaths host request.objectId path ∨ LedgerPaths host request.ledgerRecordId path

theorem publishLedger_keeps {result : Result PublishObjectResult}
    (h : publishLedger host config calls request copies failures files = (files', result)) :
    Advances (LedgerPaths host request.ledgerRecordId) files files' := by
  unfold publishLedger at h
  simp only at h
  split at h
  · obtain ⟨rfl, -⟩ := Prod.mk.inj h
    exact .refl files
  · rename_i ledger _
    have hkeeps := persistLedger_keeps host config calls request.ledgerRecordId ledger.bytes
      files
    split at h
    · rename_i hexec
      obtain ⟨rfl, -⟩ := Prod.mk.inj h
      rwa [hexec] at hkeeps
    · rename_i hexec
      rw [hexec] at hkeeps
      split at h
      · obtain ⟨rfl, -⟩ := Prod.mk.inj h
        exact hkeeps
      · obtain ⟨rfl, -⟩ := Prod.mk.inj h
        exact hkeeps

/-- A sealed publication has two verified copies of a complete stream, and its ledger record. -/
theorem publishLedger_sealed {result : PublishObjectResult}
    (h : publishLedger host config calls request copies failures files = (files', .ok result))
    (hsealed : result.finalizationState = .sealedComplete) :
    request.streamCompleteness = .sealedComplete ∧ copies.length = 2 ∧
      (∀ copy ∈ copies, copy.verified = true) ∧
      files'.read ⟨0, .ledger, objectName host request.ledgerRecordId⟩ =
        some result.ledger.bytes := by
  unfold publishLedger at h
  simp only at h
  split at h
  · cases h
  · split at h
    · rename_i hexec
      obtain ⟨rfl, hresult⟩ := Prod.mk.inj h
      obtain rfl := Except.ok.inj hresult
      have hstate : completeState request copies failures = .sealedComplete := hsealed
      unfold completeState at hstate
      split at hstate
      · rename_i hcomplete
        simp only [Bool.and_eq_true, decide_eq_true_eq, List.all_eq_true] at hcomplete
        exact ⟨hcomplete.1.1.1, hcomplete.1.1.2, hcomplete.1.2, persistLedger_ok hexec⟩
      · cases hstate
    · split at h
      · cases h
      · obtain ⟨-, hresult⟩ := Prod.mk.inj h
        obtain rfl := Except.ok.inj hresult
        cases hsealed

end CpuPrefetch.Storage
