/-
An admission ticket is earned.

The loader goes on after an error, so what it finds wrong is looked at first: a part of the
document that is read without an error has the value that was read.  A ticket is given when
nothing was wrong in any of the passes, and then no default and no item that was left out is in
what they checked.  That the checks are those of the schema is shown keyword by keyword.
-/
import CpuPrefetch.Lib.Fallible
import CpuPrefetch.Proofs.Protocol.Written
import CpuPrefetch.Runner.AdmissionSchema

namespace CpuPrefetch.Runner

open List Schema
open Fallible (Clean clean_bind clean_of_errors clean_pure clean_tell)
open Lifecycle (ExecutionLimits)
open Protocol
open Protocol.Json (CharConv Object Value)

variable {conv : CharConv} {sha256 : Text → Sha256} {files : FileSystem} {manifestParent : Text}
  {trustAnchor : AdmissionTrustAnchor} {admission : RunnerAdmission} {ticket : AdmissionTicket}
  {document : Text} {root object : Object} {value : Value} {name path : String}

/-! ### What is loaded -/

/-- The field of this name is this string. -/
def HasText (object : Object) (name : String) (text : Text) : Prop :=
  Object.find (ascii name) object = some (.string text)

/-- The field of this name is this number, spelled without a fraction. -/
def HasNumber (object : Object) (name : String) (number : UInt64) : Prop :=
  ∃ lexical, Object.find (ascii name) object = some (.number (.unsignedInteger lexical number))

def HasFlag (object : Object) (name : String) (flag : Bool) : Prop :=
  Object.find (ascii name) object = some (.boolean flag)

/-- Every field of the object has one of these names. -/
def Known (object : Object) (accepted : List String) : Prop :=
  ∀ member ∈ object, member.1 ∈ accepted.map ascii

theorem not_clean_report {category : ErrorCategory} {path rule message : String} {T : Type}
    {rest : Unit → Loading T} {result : T} :
    ¬Clean (report category path rule message >>= rest) result := by
  rw [clean_bind]
  rintro ⟨_, h, -⟩
  exact cons_ne_nil _ _ (clean_tell.mp h)

theorem clean_objectOf {members : Option Object} :
    Clean (objectOf value path) members ↔ ∃ object, value = .object object ∧ members =
      some object := by
  unfold objectOf
  split
  · simp [clean_pure, eq_comm]
  · rename_i hne
    simp only [not_clean_report, false_iff, not_exists, not_and]
    rintro object rfl
    exact absurd rfl (hne object)

theorem clean_field {found : Option Value} : Clean (field object name path) found ↔
    ∃ value, Object.find (ascii name) object = some value ∧ found = some value := by
  unfold field
  split
  · rename_i hfind
    simp [clean_pure, hfind, eq_comm]
  · rename_i hfind
    simp [not_clean_report, hfind]

theorem clean_rejectUnknown {accepted : List String} {a : PUnit} :
    Clean (rejectUnknown object accepted path) a ↔ Known object accepted := by
  rw [rejectUnknown, clean_tell, map_eq_nil_iff, filter_eq_nil_iff]
  simp [Known]

/-- A field that must be of one kind is read cleanly just when its value is of this kind. -/
theorem clean_typedField {T : Type} {read : Option Value → Loading T} {result : T}
    (kind : Value → Prop) (h : ∀ value, Clean (read (some value)) result ↔ kind value) :
    Clean (field object name path >>= read) result ↔
      ∃ value, Object.find (ascii name) object = some value ∧ kind value := by
  rw [clean_bind]
  simp only [clean_field]
  constructor
  · rintro ⟨_, ⟨value, hfind, rfl⟩, hread⟩
    exact ⟨value, hfind, (h value).mp hread⟩
  · rintro ⟨value, hfind, hkind⟩
    exact ⟨_, ⟨value, hfind, rfl⟩, (h value).mpr hkind⟩

theorem clean_stringField {text : Text} :
    Clean (stringField object name path) text ↔ HasText object name text := by
  rw [stringField, clean_typedField (· = .string text), HasText]
  · simp
  · intro value
    cases value <;> simp [clean_pure, not_clean_report, eq_comm]

theorem clean_boolField {flag : Bool} :
    Clean (boolField object name path) flag ↔ HasFlag object name flag := by
  rw [boolField, clean_typedField (· = .boolean flag), HasFlag]
  · simp
  · intro value
    cases value <;> simp [clean_pure, not_clean_report, eq_comm]

theorem clean_uintField {number : UInt64} :
    Clean (uintField object name path) number ↔ HasNumber object name number := by
  rw [uintField, clean_typedField fun value => ∃ lexical,
    value = .number (.unsignedInteger lexical number)]
  · simp [HasNumber, and_comm]
  · intro value
    cases value with
    | number found => cases found <;> simp [clean_pure, not_clean_report, eq_comm]
    | _ => simp [not_clean_report]

/-- A name that is read without an error is one of the names. -/
theorem clean_parseEnumValue {E : Type} {text : Text} {rule : String} {values : List (String × E)}
    {default result : E}
    (h : Clean (orDefault (parseEnumValue text path rule values) default) result) :
    ∃ entry ∈ values, text = ascii entry.1 ∧ result = entry.2 := by
  unfold parseEnumValue at h
  split at h
  · rename_i entry hfind
    have hname := find?_some hfind
    exact ⟨entry, mem_of_find?_eq_some hfind, (of_decide_eq_true hname).symm,
      (clean_pure.mp h).symm⟩
  · obtain ⟨_, htell, -⟩ := clean_bind.mp h
    exact absurd (clean_tell.mp htell) (cons_ne_nil _ _)

/-- The field of this name is one of the names, unless it is empty. -/
def HasName {E : Type} (object : Object) (name : String) (values : List (String × E))
    (default result : E) : Prop :=
  ∃ text, HasText object name text ∧
    (text = [] ∧ result = default ∨ ∃ entry ∈ values, text = ascii entry.1 ∧ result = entry.2)

theorem clean_readName {E : Type} {rule : String} {values : List (String × E)} {default result : E}
    (h : Clean (do
      let text ← stringField object name "$"
      if text.isEmpty then pure default
      else orDefault (parseEnumValue text path rule values) default) result) :
    HasName object name values default result := by
  obtain ⟨text, htext, h⟩ := clean_bind.mp h
  refine ⟨text, clean_stringField.mp htext, ?_⟩
  split at h
  · rename_i hempty
    exact .inl ⟨List.isEmpty_iff.mp hempty, (clean_pure.mp h).symm⟩
  · exact .inr (clean_parseEnumValue h)

theorem clean_readWorkers {workers : WorkerPair} (h : Clean (readWorkers root) workers) :
    HasNumber root "producer_cpu" workers.producerCpu.toUInt64 ∧
      HasNumber root "consumer_cpu" workers.consumerCpu.toUInt64 := by
  obtain ⟨producerCpu, hproducer, h⟩ := clean_bind.mp h
  obtain ⟨consumerCpu, hconsumer, h⟩ := clean_bind.mp h
  rw [clean_uintField] at hproducer hconsumer
  split at h
  · exact absurd h not_clean_report
  · rename_i hfits
    obtain rfl := clean_pure.mp h
    have hword : ∀ cpu : UInt64, ¬cpu > 0xffffffff → cpu.toUInt32.toUInt64 = cpu := by
      intro cpu hcpu
      have hle := UInt64.le_iff_toNat_le.mp (UInt64.not_lt.mp hcpu)
      apply UInt64.toNat_inj.mp
      rw [UInt32.toNat_toUInt64, UInt64.toNat_toUInt32]
      exact Nat.mod_eq_of_lt (Nat.lt_succ_of_le hle)
    simp only [Bool.or_eq_true, decide_eq_true_eq, not_or] at hfits
    rw [hword producerCpu hfits.1, hword consumerCpu hfits.2]
    exact ⟨hproducer, hconsumer⟩

/-- The five limits, each in the field of its name. -/
structure LoadedLimits (limits : Object) (loaded : ExecutionLimits) : Prop where
  known : Known limits limitFields
  controllerStart : HasNumber limits "controller_start_poll_limit" loaded.controllerStartPollLimit
  workerStart : HasNumber limits "worker_start_poll_limit" loaded.workerStartPollLimit
  producerDue : HasNumber limits "producer_due_poll_limit_per_arrival"
    loaded.producerDuePollLimitPerArrival
  consumerEmpty : HasNumber limits "consumer_empty_poll_limit_before_finish"
    loaded.consumerEmptyPollLimitBeforeFinish
  drain : HasNumber limits "drain_poll_limit" loaded.drainPollLimit

theorem clean_readLimits {loaded : ExecutionLimits} (h : Clean (readLimits root) loaded) :
    ∃ limits, Object.find (ascii "execution_limits") root = some (.object limits) ∧
      LoadedLimits limits loaded := by
  obtain ⟨_, hfield, h⟩ := clean_bind.mp h
  obtain ⟨value, hfind, rfl⟩ := clean_field.mp hfield
  obtain ⟨_, hobject, h⟩ := clean_bind.mp h
  obtain ⟨limits, rfl, rfl⟩ := clean_objectOf.mp hobject
  refine ⟨limits, hfind, ?_⟩
  simp only [clean_bind, clean_rejectUnknown, clean_uintField, clean_pure] at h
  obtain ⟨-, hknown, controllerStart, hcontroller, workerStart, hworker, producerDue, hproducer,
    consumerEmpty, hconsumer, drain, hdrain, rfl⟩ := h
  exact ⟨hknown, hcontroller, hworker, hproducer, hconsumer, hdrain⟩

/-- The fields of a reference are those of its item. -/
structure LoadedReference (item : Object) (reference : EvidenceReference) : Prop where
  known : Known item evidenceFields
  kind : HasText item "kind" (ascii reference.kind.toString)
  artifactId : HasText item "artifact_id" reference.artifactId
  path : HasText item "path" reference.path
  sha256 : HasText item "sha256" reference.sha256
  bindingId : HasText item "binding_id" reference.bindingId
  immutable : HasFlag item "immutable" reference.immutable
  eligible : HasFlag item "eligible" reference.eligible

theorem parseEvidenceKind_ok {text : Text} {kind : EvidenceKind}
    (h : parseEvidenceKind text path = .ok kind) : text = ascii kind.toString := by
  unfold parseEvidenceKind at h
  split at h
  · rename_i found hfind
    obtain rfl := Except.ok.inj h
    have hname := find?_some hfind
    exact (of_decide_eq_true hname).symm
  · cases h

theorem clean_readReference {reference : Option EvidenceReference}
    (h : Clean (readReference value path) reference) :
    ∃ item loaded, value = .object item ∧ reference = some loaded ∧
      LoadedReference item loaded := by
  obtain ⟨_, hobject, h⟩ := clean_bind.mp h
  obtain ⟨item, rfl, rfl⟩ := clean_objectOf.mp hobject
  obtain ⟨_, hknown, h⟩ := clean_bind.mp h
  obtain ⟨kindText, hkind, h⟩ := clean_bind.mp h
  rw [clean_rejectUnknown] at hknown
  rw [clean_stringField] at hkind
  cases hparsed : parseEvidenceKind kindText (path ++ "/kind") with
  | error errors =>
      rw [hparsed] at h
      obtain ⟨_, htell, -⟩ := clean_bind.mp h
      obtain rfl := clean_tell.mp htell
      unfold parseEvidenceKind at hparsed
      split at hparsed
      · cases hparsed
      · cases hparsed
  | ok kind =>
      rw [hparsed] at h
      simp only [clean_bind, clean_stringField, clean_boolField, clean_pure] at h
      obtain ⟨artifactId, hartifact, filePath, hpath, sha256, hsha256, bindingId, hbinding,
        immutable, himmutable, eligible, heligible, rfl⟩ := h
      rw [parseEvidenceKind_ok hparsed] at hkind
      exact ⟨item, _, rfl, rfl, hknown, hkind, hartifact, hpath, hsha256, hbinding, himmutable,
        heligible⟩

theorem clean_readReferences {index : Nat} {values : List Value}
    {references : List EvidenceReference} (h : Clean (readReferences index values) references) :
    ∃ items, values = items.map .object ∧ List.Forall₂ LoadedReference items references := by
  induction values generalizing index references with
  | nil =>
      obtain rfl := clean_pure.mp h
      exact ⟨[], rfl, .nil⟩
  | cons value rest ih =>
      obtain ⟨_, hfirst, hlater⟩ := clean_bind.mp h
      obtain ⟨others, hrest, hpure⟩ := clean_bind.mp hlater
      obtain ⟨item, loaded, rfl, rfl, hloaded⟩ := clean_readReference hfirst
      obtain ⟨items, rfl, hitems⟩ := ih hrest
      obtain rfl := clean_pure.mp hpure
      exact ⟨item :: items, rfl, .cons hloaded hitems⟩

theorem clean_readEvidence {references : List EvidenceReference}
    (h : Clean (readEvidence root) references) :
    ∃ items, Object.find (ascii "evidence") root = some (.array (items.map .object)) ∧
      List.Forall₂ LoadedReference items references := by
  obtain ⟨_, hfield, h⟩ := clean_bind.mp h
  obtain ⟨value, hfind, rfl⟩ := clean_field.mp hfield
  cases value with
  | array values =>
      obtain ⟨items, rfl, hitems⟩ := clean_readReferences h
      exact ⟨items, hfind, hitems⟩
  | _ => exact absurd h not_clean_report

/-- The fields of an admission are those of its document. -/
structure Loaded (root : Object) (admission : RunnerAdmission) : Prop where
  known : Known root rootFields
  schemaVersion : HasText root "schema_version" admission.schemaVersion
  protocolVersion : HasText root "protocol_version" admission.protocolVersion
  runnerProfileId : HasText root "runner_profile_id" admission.runnerProfileId
  cpuPairSelectionId : HasText root "cpu_pair_selection_id" admission.cpuPairSelectionId
  relaxMappingId : HasText root "relax_mapping_id" admission.relaxMappingId
  sourceRevision : HasText root "source_revision" admission.sourceRevision
  binarySha256 : HasText root "binary_sha256" admission.binarySha256
  standId : HasText root "stand_id" admission.standId
  bindingId : HasText root "binding_id" admission.bindingId
  package : HasName root "package" Load.queuePackages .notApplicable admission.package
  placement : HasName root "placement" Load.placements .notApplicable admission.placement
  producerCpu : HasNumber root "producer_cpu" admission.workers.producerCpu.toUInt64
  consumerCpu : HasNumber root "consumer_cpu" admission.workers.consumerCpu.toUInt64
  executionLimits : ∃ limits, Object.find (ascii "execution_limits") root = some (.object limits) ∧
    LoadedLimits limits admission.executionLimits
  evidence : ∃ items, Object.find (ascii "evidence") root = some (.array (items.map .object)) ∧
    List.Forall₂ LoadedReference items admission.evidence

theorem clean_readAdmission (h : Clean (readAdmission root) admission) : Loaded root admission := by
  obtain ⟨_, hknown, h⟩ := clean_bind.mp h
  obtain ⟨_, hschema, h⟩ := clean_bind.mp h
  obtain ⟨_, hprotocol, h⟩ := clean_bind.mp h
  obtain ⟨_, hprofile, h⟩ := clean_bind.mp h
  obtain ⟨_, hcpuPair, h⟩ := clean_bind.mp h
  obtain ⟨_, hrelax, h⟩ := clean_bind.mp h
  obtain ⟨_, hsource, h⟩ := clean_bind.mp h
  obtain ⟨_, hbinary, h⟩ := clean_bind.mp h
  obtain ⟨_, hstand, h⟩ := clean_bind.mp h
  obtain ⟨_, hbinding, h⟩ := clean_bind.mp h
  obtain ⟨_, hpackage, h⟩ := clean_bind.mp h
  obtain ⟨_, hplacement, h⟩ := clean_bind.mp h
  obtain ⟨_, hworkers, h⟩ := clean_bind.mp h
  obtain ⟨_, hlimits, h⟩ := clean_bind.mp h
  obtain ⟨_, hevidence, h⟩ := clean_bind.mp h
  obtain rfl := clean_pure.mp h
  rw [clean_stringField]
    at hschema hprotocol hprofile hcpuPair hrelax hsource hbinary hstand hbinding
  obtain ⟨hproducer, hconsumer⟩ := clean_readWorkers hworkers
  exact ⟨clean_rejectUnknown.mp hknown, hschema, hprotocol, hprofile, hcpuPair, hrelax, hsource,
    hbinary, hstand, hbinding, clean_readName hpackage, clean_readName hplacement,
    hproducer, hconsumer, clean_readLimits hlimits, clean_readEvidence hevidence⟩

/-- A document that is an object is loaded as what is read of it without an error. -/
theorem loadAdmission_ok (hparse : Json.parse conv document = .ok (.object root)) :
    loadAdmission conv document = .ok admission ↔ Clean (readAdmission root) admission := by
  have hroot : (objectOf (.object root) "$").run.run = (some root, []) := rfl
  rw [loadAdmission, hparse, Fallible.ok_bind, hroot, Clean]
  dsimp only
  rcases (readAdmission root).run.run with ⟨read, errors⟩
  dsimp only
  rw [nil_append, Prod.mk_inj]
  split
  · rename_i hempty
    rw [Except.ok.injEq, List.isEmpty_iff.mp hempty, and_iff_left rfl]
  · rename_i hsome
    exact iff_of_false (by simp) fun h => hsome (List.isEmpty_iff.mpr h.2)

theorem loaded (h : loadAdmission conv document = .ok admission) :
    ∃ root, Json.parse conv document = .ok (.object root) ∧ Loaded root admission := by
  obtain ⟨parsed, hparse, hobject⟩ := Fallible.bind_ok h
  cases parsed with
  | object root => exact ⟨root, hparse, clean_readAdmission ((loadAdmission_ok hparse).mp h)⟩
  | _ => cases hobject

/-! ### What is checked -/

theorem validSha256_of_parsed {text : Text} (h : (Load.parseSha256 text path).isOk = true) :
    validSha256 text = true := by
  unfold Load.parseSha256 at h
  split at h
  · cases h
  · split at h
    · rename_i hvalid
      exact hvalid
    · cases h

structure ValidatedReference (bindingId : Text) (reference : EvidenceReference) : Prop where
  artifactId : reference.artifactId ≠ []
  path : reference.path ≠ []
  sha256 : validSha256 reference.sha256 = true
  bindingId : reference.bindingId = bindingId
  immutable : reference.immutable = true
  eligible : reference.eligible = true

variable {bindingId : Text} {observedKinds : List EvidenceKind} {artifactIds : List Text}
  {reference : EvidenceReference} {references : List EvidenceReference} {index : Nat}

theorem validateReference_nil
    (h : validateReference bindingId observedKinds artifactIds reference path = []) :
    reference.kind ∉ observedKinds ∧ reference.artifactId ∉ artifactIds ∧
      ValidatedReference bindingId reference := by
  simp only [validateReference, append_eq_nil_iff, require_eq_nil, Bool.and_eq_true,
    Bool.not_eq_true', isEmpty_eq_false_iff, decide_eq_true_eq] at h
  obtain ⟨⟨⟨⟨⟨⟨hkind, hnonempty, hunique⟩, hpath⟩, hsha256⟩, hbinding⟩, himmutable⟩, heligible⟩ := h
  exact ⟨hkind, hunique, hnonempty, hpath, validSha256_of_parsed hsha256, hbinding, himmutable,
    heligible⟩

/-- No kind and no identifier comes twice, and none was there before. -/
theorem validateReferences_nil
    (h : (validateReferences bindingId observedKinds artifactIds index references).1 = []) :
    (references.map (·.kind)).Nodup ∧ (references.map (·.artifactId)).Nodup ∧
      ∀ reference ∈ references, reference.kind ∉ observedKinds ∧
        reference.artifactId ∉ artifactIds ∧ ValidatedReference bindingId reference := by
  induction references generalizing observedKinds artifactIds index with
  | nil => exact ⟨.nil, .nil, nofun⟩
  | cons reference rest ih =>
      obtain ⟨hfirst, hrest⟩ := List.append_eq_nil_iff.mp h
      obtain ⟨hkind, hunique, hvalidated⟩ := validateReference_nil hfirst
      obtain ⟨hkinds, hids, hall⟩ := ih hrest
      rw [if_neg (by simpa using hvalidated.artifactId)] at hall
      simp only [mem_insert_iff, not_or] at hall
      refine ⟨List.nodup_cons.mpr ⟨?_, hkinds⟩, List.nodup_cons.mpr ⟨?_, hids⟩, ?_⟩
      · intro hmem
        obtain ⟨later, hlater, hsame⟩ := List.mem_map.mp hmem
        exact (hall later hlater).1.1 hsame
      · intro hmem
        obtain ⟨later, hlater, hsame⟩ := List.mem_map.mp hmem
        exact (hall later hlater).2.1.1 hsame
      · intro other hother
        rcases List.mem_cons.mp hother with rfl | hlater
        · exact ⟨hkind, hunique, hvalidated⟩
        · obtain ⟨⟨-, hkind⟩, ⟨-, hunique⟩, hvalidated⟩ := hall other hlater
          exact ⟨hkind, hunique, hvalidated⟩

theorem mem_validateReferences {kind : EvidenceKind} :
    kind ∈ (validateReferences bindingId observedKinds artifactIds index references).2 ↔
      kind ∈ observedKinds ∨ kind ∈ references.map (·.kind) := by
  induction references generalizing observedKinds artifactIds index with
  | nil => simp [validateReferences]
  | cons reference rest ih =>
      rw [map_cons, mem_cons]
      refine ih.trans ?_
      rw [mem_insert_iff]
      tauto

/-- What an admission without errors has. -/
structure Validated (admission : RunnerAdmission) (trustAnchor : AdmissionTrustAnchor) : Prop where
  schemaVersion : admission.schemaVersion = kAdmissionSchemaVersion
  protocolVersion : admission.protocolVersion = kProtocolVersion
  runnerProfileId : admission.runnerProfileId = kRunnerProfileId
  cpuPairSelectionId : admission.cpuPairSelectionId = kCpuPairSelectionId
  relaxMappingId : admission.relaxMappingId = kRelaxMappingId
  sourceRevision : admission.sourceRevision ≠ [] ∧
    admission.sourceRevision = trustAnchor.sourceRevision
  binarySha256 : validSha256 admission.binarySha256 = true ∧
    admission.binarySha256 = trustAnchor.binarySha256
  standId : admission.standId ≠ [] ∧ admission.standId = trustAnchor.standId
  bindingId : admission.bindingId ≠ [] ∧ admission.bindingId = trustAnchor.bindingId
  sourceClean : trustAnchor.sourceDirty = false
  package : supportedPackage admission.package = true
  placement : admission.placement = .near ∨ admission.placement = .far
  workers : admission.workers = selectedWorkerPair admission.placement
  executionLimits : admission.executionLimits.invalid = false
  kinds : (admission.evidence.map (·.kind)).Perm kRequiredEvidenceKinds
  artifactIds : (admission.evidence.map (·.artifactId)).Nodup
  references : ∀ reference ∈ admission.evidence, ValidatedReference admission.bindingId reference

theorem validateWorkers_nil {placement : Placement} {workers : WorkerPair}
    (h : validateWorkers placement workers = []) :
    (placement = .near ∨ placement = .far) ∧ workers = selectedWorkerPair placement := by
  unfold validateWorkers at h
  split at h
  · cases h
  · rename_i hplacement
    rw [require_eq_nil, decide_eq_true_eq] at h
    refine ⟨?_, h⟩
    by_contra hneither
    exact hplacement (by simpa using hneither)

theorem validateEvidence_nil (h : validateEvidence admission = []) :
    (admission.evidence.map (·.kind)).Perm kRequiredEvidenceKinds ∧
      (admission.evidence.map (·.artifactId)).Nodup ∧
      ∀ reference ∈ admission.evidence, ValidatedReference admission.bindingId reference := by
  obtain ⟨hreferences, hrequired⟩ := List.append_eq_nil_iff.mp h
  obtain ⟨hkinds, hids, hall⟩ := validateReferences_nil hreferences
  refine ⟨?_, hids, fun reference hreference => (hall reference hreference).2.2⟩
  rw [perm_ext_iff_of_nodup hkinds (by decide)]
  intro kind
  have hevery : kind ∈ kRequiredEvidenceKinds := by
    cases kind
    all_goals decide
  rw [flatMap_eq_nil_iff] at hrequired
  have hobserved := hrequired kind hevery
  rw [require_eq_nil, decide_eq_true_eq, mem_validateReferences] at hobserved
  simp only [not_mem_nil, false_or] at hobserved
  exact iff_of_true hobserved hevery

theorem exact_eq_nil {observed expected : Text} {path rule : String} :
    exact observed expected path rule = [] ↔ observed = expected := by
  rw [exact, require_eq_nil, decide_eq_true_eq]

theorem requireNonempty_eq_nil {text : Text} {path rule : String} :
    requireNonempty text path rule = [] ↔ text ≠ [] := by
  rw [requireNonempty, require_eq_nil, Bool.not_eq_true', isEmpty_eq_false_iff]

theorem validated (h : validateAdmissionFields admission trustAnchor = []) :
    Validated admission trustAnchor := by
  unfold validateAdmissionFields at h
  simp only [append_eq_nil_iff] at h
  obtain ⟨⟨⟨⟨⟨⟨⟨⟨⟨⟨⟨⟨⟨⟨⟨⟨⟨hschema, hprotocol⟩, hprofile⟩, hcpuPair⟩, hrelax⟩, hsource⟩, hstand⟩,
    hbinding⟩, hdigest⟩, hsameSource⟩, hsameBinary⟩, hsameStand⟩, hsameBinding⟩, hclean⟩, hpackage⟩,
    hworkers⟩, hlimits⟩, hevidence⟩ := h
  rw [exact_eq_nil] at hschema hprotocol hprofile hcpuPair hrelax
  rw [exact_eq_nil] at hsameSource hsameBinary hsameStand hsameBinding
  rw [requireNonempty_eq_nil] at hsource hstand hbinding
  rw [require_eq_nil] at hdigest hclean hpackage hlimits
  rw [Bool.not_eq_true'] at hclean hlimits
  obtain ⟨hplacement, hpair⟩ := validateWorkers_nil hworkers
  obtain ⟨hkinds, hids, hreferences⟩ := validateEvidence_nil hevidence
  exact ⟨hschema, hprotocol, hprofile, hcpuPair, hrelax, ⟨hsource, hsameSource⟩,
    ⟨validSha256_of_parsed hdigest, hsameBinary⟩, ⟨hstand, hsameStand⟩, ⟨hbinding, hsameBinding⟩,
    hclean, hpackage, hplacement, hpair, hlimits, hkinds, hids, hreferences⟩

/-! ### What is hashed -/

/-- All of a file is digested, since no turn leaves more bytes than turns. -/
theorem digestBuffers_eq {turns : Nat} {digested bytes : Text} (h : bytes.length ≤ turns) :
    digestBuffers turns digested bytes = digested ++ bytes := by
  induction turns generalizing digested bytes with
  | zero => rw [List.length_eq_zero_iff.mp (Nat.le_zero.mp h), digestBuffers, append_nil]
  | succ turns ih =>
      have hrest : (bytes.drop (64 * 1024)).length ≤ turns := by
        rw [length_drop]
        omega
      rw [digestBuffers, ih hrest, append_assoc, take_append_drop]

theorem sha256File_ok {digest : Text} {path : Text}
    (h : sha256File sha256 files path = .ok digest) :
    ∃ bytes, files (nativePath path) = some (.regular bytes) ∧ digest = (sha256 bytes).hex := by
  unfold sha256File at h
  split at h
  · rename_i bytes hfile
    obtain rfl := Except.ok.inj h
    exact ⟨bytes, hfile, by rw [digestBuffers_eq le_rfl, nil_append]⟩
  · cases h

/-- The path of a reference names a regular file, and that file has the declared digest. -/
theorem verifyEvidenceFile_nil
    (h : verifyEvidenceFile sha256 files manifestParent reference index = []) :
    ∃ bytes, files (nativePath (resolved manifestParent reference.path)) = some (.regular bytes) ∧
      reference.sha256 = (sha256 bytes).hex := by
  unfold verifyEvidenceFile at h
  dsimp only at h
  split at h
  · cases h
  · rename_i digest hdigest
    rw [require_eq_nil, decide_eq_true_eq] at h
    obtain ⟨bytes, hfile, hbytes⟩ := sha256File_ok hdigest
    exact ⟨bytes, hfile, h.symm.trans hbytes⟩

theorem admitted (h : admitRunner sha256 files admission trustAnchor manifestParent = .ok ticket) :
    Validated admission trustAnchor ∧
      (∀ reference ∈ admission.evidence, ∃ bytes,
        files (nativePath (resolved manifestParent reference.path)) = some (.regular bytes) ∧
          reference.sha256 = (sha256 bytes).hex) ∧
      ticket = ⟨admission.package, admission.placement, admission.workers,
        admission.executionLimits, admission.bindingId⟩ := by
  unfold admitRunner at h
  dsimp only at h
  split at h
  · rename_i hempty
    obtain ⟨hfields, hfiles⟩ := List.append_eq_nil_iff.mp (List.isEmpty_iff.mp hempty)
    refine ⟨validated hfields, fun reference hreference => ?_, (Except.ok.inj h).symm⟩
    obtain ⟨index, hindex⟩ := getElem?_of_mem hreference
    have hpair := mk_mem_zipIdx_iff_getElem?.mpr hindex
    exact verifyEvidenceFile_nil (List.flatMap_eq_nil_iff.mp hfiles _ hpair)
  · cases h

/-! ### The schema -/

/-- The fields of an object with their schemas: each is there, and its value satisfies its own. -/
def Fields (object : Object) (entries : List (String × Schema)) : Prop :=
  ∀ entry ∈ entries, ∃ value, Object.find (ascii entry.1) object = some value ∧
    entry.2 value = true

theorem record_of {entries : List (String × Schema)} (hknown : Known object (entries.map Prod.fst))
    (hfields : Fields object entries) : record entries (.object object) = true := by
  refine List.all_eq_true.mpr ?_
  rw [forall_mem_cons, forall_mem_cons, forall_mem_cons, forall_mem_singleton]
  refine ⟨rfl, List.all_eq_true.mpr fun member hmember => decide_eq_true (hknown member hmember),
    ?_, ?_⟩
  · refine List.all_eq_true.mpr fun name hname => ?_
    obtain ⟨entry, hentry, rfl⟩ := List.mem_map.mp hname
    obtain ⟨value, hfind, -⟩ := hfields entry hentry
    rw [hfind, Option.isSome_some]
  · refine List.all_eq_true.mpr fun entry hentry => ?_
    obtain ⟨value, hfind, hvalue⟩ := hfields entry hentry
    rw [hfind, Option.all_some, hvalue]

section Values

variable {text : Text} {lexical : Text}

theorem constString_of {literal : String} (h : text = ascii literal) :
    constString literal (.string text) = true := decide_eq_true h

theorem identitySchema_of (h : text ≠ []) : identitySchema (.string text) = true := by
  simp [identitySchema, allOf, string, nonempty, h]

theorem digestSchema_of (h : validSha256 text = true) : digestSchema (.string text) = true := by
  simp [digestSchema, allOf, string, pattern, h]

theorem integer_natCast (number : UInt64) :
    integer (.number (.unsignedInteger lexical number)) = true := by
  simp [integer, exactValue, Rat.isInt]

theorem positiveU64Schema_of {number : UInt64} (h : 0 < number) :
    positiveU64Schema (.number (.unsignedInteger lexical number)) = true := by
  have hpositive : (1 : Rat) ≤ number.toNat := by exact_mod_cast UInt64.lt_iff_toNat_lt.mp h
  have hword : (number.toNat : Rat) ≤ 18446744073709551615 := by
    exact_mod_cast Nat.le_of_lt_succ number.toNat_lt
  simp [positiveU64Schema, allOf, integer_natCast, Schema.minimum, Schema.maximum,
    exactValue, hpositive, hword]

theorem cpuSchema_of (cpu : UInt32) :
    cpuSchema (.number (.unsignedInteger lexical cpu.toUInt64)) = true := by
  have hword : (cpu.toNat : Rat) ≤ 4294967295 := by
    exact_mod_cast Nat.le_of_lt_succ cpu.toNat_lt
  simp [cpuSchema, allOf, integer_natCast, Schema.minimum, Schema.maximum,
    exactValue, hword]

end Values

theorem limits_positive {limits : ExecutionLimits} (h : limits.invalid = false) :
    0 < limits.controllerStartPollLimit ∧ 0 < limits.workerStartPollLimit ∧
      0 < limits.producerDuePollLimitPerArrival ∧ 0 < limits.consumerEmptyPollLimitBeforeFinish ∧
      0 < limits.drainPollLimit := by
  simpa [ExecutionLimits.invalid, Bool.or_eq_false_iff, UInt64.pos_iff_ne_zero, and_assoc] using h

theorem LoadedLimits.schema {limits : Object} {loaded : ExecutionLimits}
    (h : LoadedLimits limits loaded) (hvalid : loaded.invalid = false) :
    executionLimitsSchema (.object limits) = true := by
  obtain ⟨hcontroller, hworker, hproducer, hconsumer, hdrain⟩ := limits_positive hvalid
  have hlimit : ∀ {name number}, HasNumber limits name number → 0 < number → ∃ value,
      Object.find (ascii name) limits = some value ∧ positiveU64Schema value = true := by
    rintro name number ⟨lexical, hfind⟩ hpositive
    exact ⟨_, hfind, positiveU64Schema_of hpositive⟩
  refine record_of h.known ?_
  simp only [Fields, forall_mem_cons]
  exact ⟨hlimit h.controllerStart hcontroller, hlimit h.workerStart hworker,
    hlimit h.producerDue hproducer, hlimit h.consumerEmpty hconsumer, hlimit h.drain hdrain, nofun⟩

theorem LoadedReference.schema {item : Object} {reference : EvidenceReference}
    (h : LoadedReference item reference) (hvalid : ValidatedReference bindingId reference)
    (hbinding : bindingId ≠ []) : evidenceReferenceSchema (.object item) = true := by
  have hkind : reference.kind.toString ∈ kRequiredEvidenceKinds.map EvidenceKind.toString := by
    cases reference.kind
    all_goals decide
  have himmutable := h.immutable
  have heligible := h.eligible
  rw [hvalid.immutable] at himmutable
  rw [hvalid.eligible] at heligible
  refine record_of h.known ?_
  simp only [Fields, forall_mem_cons]
  exact ⟨⟨_, h.kind, decide_eq_true (mem_map_of_mem hkind)⟩,
    ⟨_, h.artifactId, identitySchema_of hvalid.artifactId⟩,
    ⟨_, h.path, identitySchema_of hvalid.path⟩, ⟨_, h.sha256, digestSchema_of hvalid.sha256⟩,
    ⟨_, h.bindingId, identitySchema_of (hvalid.bindingId ▸ hbinding)⟩, ⟨_, himmutable, rfl⟩,
    ⟨_, heligible, rfl⟩, nofun⟩

/-- A value that is not the default has a name. -/
theorem HasName.named {E : Type} {values : List (String × E)} {default result : E}
    (h : HasName object name values default result) (hne : result ≠ default) :
    ∃ entry ∈ values, HasText object name (ascii entry.1) ∧ result = entry.2 := by
  obtain ⟨text, htext, ⟨-, hdefault⟩ | ⟨entry, hentry, rfl, hresult⟩⟩ := h
  · exact absurd hdefault hne
  · exact ⟨entry, hentry, htext, hresult⟩

theorem loaded_package (h : Loaded root admission) (hvalid : Validated admission trustAnchor) :
    ∃ literal ∈ ["R0", "R1", "R2", "L0", "L1"], HasText root "package" (ascii literal) ∧
      (literal, admission.package) ∈ Load.queuePackages := by
  have hnames : ∀ entry ∈ Load.queuePackages, supportedPackage entry.2 = true →
      entry.1 ∈ ["R0", "R1", "R2", "L0", "L1"] := by decide
  have hsupported := hvalid.package
  have hne : admission.package ≠ .notApplicable := by
    intro hnone
    rw [hnone] at hsupported
    cases hsupported
  obtain ⟨entry, hentry, htext, hpackage⟩ := h.package.named hne
  rw [hpackage] at hsupported ⊢
  exact ⟨entry.1, hnames entry hentry hsupported, htext, hentry⟩

theorem loaded_placement (h : Loaded root admission) (hvalid : Validated admission trustAnchor) :
    (HasText root "placement" (ascii "NEAR") ∧ admission.placement = .near) ∨
      (HasText root "placement" (ascii "FAR") ∧ admission.placement = .far) := by
  have hnames : ∀ entry ∈ Load.placements,
      (entry.2 = .near → entry.1 = "NEAR") ∧ (entry.2 = .far → entry.1 = "FAR") := by decide
  have hne : admission.placement ≠ .notApplicable := by
    rcases hvalid.placement with hplacement | hplacement
    all_goals rw [hplacement]; decide
  obtain ⟨entry, hentry, htext, hresult⟩ := h.placement.named hne
  rcases hvalid.placement with hplacement | hplacement
  · rw [(hnames entry hentry).1 (hresult ▸ hplacement)] at htext
    exact .inl ⟨htext, hplacement⟩
  · rw [(hnames entry hentry).2 (hresult ▸ hplacement)] at htext
    exact .inr ⟨htext, hplacement⟩

theorem placementSchema_of {placement : String} {producerCpu consumerCpu : UInt64} {text : Text}
    (hplacement : HasText root "placement" text)
    (hproducer : HasNumber root "producer_cpu" producerCpu)
    (hconsumer : HasNumber root "consumer_cpu" consumerCpu) {producer consumer : Nat}
    (h : text = ascii placement → producerCpu.toNat = producer ∧ consumerCpu.toNat = consumer) :
    placementSchema placement producer consumer (.object root) = true := by
  obtain ⟨_, hproducer⟩ := hproducer
  obtain ⟨_, hconsumer⟩ := hconsumer
  by_cases hsame : text = ascii placement
  · obtain ⟨rfl, rfl⟩ := h hsame
    simp [placementSchema, ifThen, properties, constInteger,
      exactValue, hproducer, hconsumer]
  · rw [HasText] at hplacement
    simp [placementSchema, ifThen, properties, constString, hplacement, hsame]

/-- The reference that an item was loaded as. -/
theorem loaded_of_mem {items : List Object} (h : List.Forall₂ LoadedReference items references)
    {item : Object} (hitem : item ∈ items) :
    ∃ reference ∈ references, LoadedReference item reference := by
  induction h with
  | nil => cases hitem
  | cons hfirst hrest ih =>
      rcases List.mem_cons.mp hitem with rfl | hlater
      · exact ⟨_, mem_cons_self, hfirst⟩
      · obtain ⟨reference, hreference, hloaded⟩ := ih hlater
        exact ⟨reference, mem_cons_of_mem _ hreference, hloaded⟩

/-- There is one item of each of the twenty kinds. -/
theorem count_of_kinds {items : List Object}
    (h : List.Forall₂ LoadedReference items admission.evidence)
    (hvalid : Validated admission trustAnchor) : items.length = 20 := by
  rw [h.length_eq, ← length_map, hvalid.kinds.length_eq]
  rfl

/-- An admission that passed the checks is of a document that satisfies the schema. -/
theorem Loaded.schema (h : Loaded root admission) (hvalid : Validated admission trustAnchor) :
    runnerAdmissionSchema (.object root) = true := by
  obtain ⟨package, hpackage, hpackageText, -⟩ := loaded_package h hvalid
  obtain ⟨limits, hlimits, hloaded⟩ := h.executionLimits
  obtain ⟨items, hitems, hreferences⟩ := h.evidence
  obtain ⟨_, hproducer⟩ := h.producerCpu
  obtain ⟨_, hconsumer⟩ := h.consumerCpu
  have hworkers := hvalid.workers
  have hcount := count_of_kinds hreferences hvalid
  have hevery : ∀ item ∈ items, evidenceReferenceSchema (.object item) = true := by
    intro item hitem
    obtain ⟨reference, hreference, hloaded⟩ := loaded_of_mem hreferences hitem
    exact hloaded.schema (hvalid.references reference hreference) hvalid.bindingId.1
  have hevidence : allOf [array, minItems 20, maxItems 20,
      Schema.items evidenceReferenceSchema] (.array (items.map .object)) = true := by
    simpa [allOf, array, minItems, maxItems, Schema.items, hcount]
      using hevery
  have hplacement : ∃ text, HasText root "placement" text ∧
      enum ["NEAR", "FAR"] (.string text) = true ∧
      placementSchema "NEAR" 0 1 (.object root) = true ∧
      placementSchema "FAR" 0 26 (.object root) = true := by
    rcases loaded_placement h hvalid with ⟨htext, hplacement⟩ | ⟨htext, hplacement⟩
    · have hpair : admission.workers = kNearWorkerPair := by rw [hworkers, hplacement]; rfl
      have hother : ascii "NEAR" ≠ ascii "FAR" := by decide
      refine ⟨_, htext, by decide, placementSchema_of htext h.producerCpu h.consumerCpu ?_,
        placementSchema_of htext h.producerCpu h.consumerCpu fun hfar => absurd hfar hother⟩
      rw [hpair]
      exact fun _ => ⟨rfl, rfl⟩
    · have hpair : admission.workers = kFarWorkerPair := by rw [hworkers, hplacement]; rfl
      have hother : ascii "FAR" ≠ ascii "NEAR" := by decide
      refine ⟨_, htext, by decide,
        placementSchema_of htext h.producerCpu h.consumerCpu fun hnear => absurd hnear hother,
        placementSchema_of htext h.producerCpu h.consumerCpu ?_⟩
      rw [hpair]
      exact fun _ => ⟨rfl, rfl⟩
  obtain ⟨_, htext, henum, hnear, hfar⟩ := hplacement
  refine List.all_eq_true.mpr ?_
  simp only [forall_mem_cons]
  refine ⟨record_of h.known ?_, hnear, hfar, nofun⟩
  simp only [Fields, forall_mem_cons]
  exact ⟨⟨_, h.schemaVersion, constString_of hvalid.schemaVersion⟩,
    ⟨_, h.protocolVersion, constString_of hvalid.protocolVersion⟩,
    ⟨_, h.runnerProfileId, constString_of hvalid.runnerProfileId⟩,
    ⟨_, h.cpuPairSelectionId, constString_of hvalid.cpuPairSelectionId⟩,
    ⟨_, h.relaxMappingId, constString_of hvalid.relaxMappingId⟩,
    ⟨_, h.sourceRevision, identitySchema_of hvalid.sourceRevision.1⟩,
    ⟨_, h.binarySha256, digestSchema_of hvalid.binarySha256.1⟩,
    ⟨_, h.standId, identitySchema_of hvalid.standId.1⟩,
    ⟨_, h.bindingId, identitySchema_of hvalid.bindingId.1⟩,
    ⟨_, hpackageText, decide_eq_true (mem_map_of_mem hpackage)⟩, ⟨_, htext, henum⟩,
    ⟨_, hproducer, cpuSchema_of _⟩, ⟨_, hconsumer, cpuSchema_of _⟩,
    ⟨_, hlimits, hloaded.schema hvalid.executionLimits⟩, ⟨_, hitems, hevidence⟩, nofun⟩

/-! ### Tickets -/

/-- An item of evidence that names a regular file with the digest it declares. -/
structure EarnedReference (sha256 : Text → Sha256) (files : FileSystem) (manifestParent : Text)
    (bindingId : Text) (item : Object) : Prop where
  immutable : HasFlag item "immutable" true
  eligible : HasFlag item "eligible" true
  bindingId : HasText item "binding_id" bindingId
  file : ∃ path bytes, HasText item "path" path ∧
    files (nativePath (resolved manifestParent path)) = some (.regular bytes) ∧
    HasText item "sha256" (sha256 bytes).hex

/-- What a ticket says of the document, the trust anchor and the files that it was given for. -/
structure Earned (sha256 : Text → Sha256) (files : FileSystem) (manifestParent : Text)
    (trustAnchor : AdmissionTrustAnchor) (root : Object) (ticket : AdmissionTicket) : Prop where
  schema : runnerAdmissionSchema (.object root) = true
  /-- There are twenty items, one of each kind, and no two with one identifier. -/
  evidence : ∃ items : List Object,
    Object.find (ascii "evidence") root = some (.array (items.map .object)) ∧ items.length = 20 ∧
      (items.map fun item => Object.find (ascii "kind") item).Perm
        (kRequiredEvidenceKinds.map fun kind => some (.string (ascii kind.toString))) ∧
      (items.map fun item => Object.find (ascii "artifact_id") item).Nodup ∧
      ∀ item ∈ items, EarnedReference sha256 files manifestParent trustAnchor.bindingId item
  sourceClean : trustAnchor.sourceDirty = false
  /-- The four identities are the anchor's, and none is empty. -/
  identities : ∀ identity ∈ [("source_revision", trustAnchor.sourceRevision),
      ("binary_sha256", trustAnchor.binarySha256), ("stand_id", trustAnchor.standId),
      ("binding_id", trustAnchor.bindingId)],
    HasText root identity.1 identity.2 ∧ identity.2 ≠ []
  /-- The ticket has the limits of the document, and none is zero. -/
  executionLimits : ∃ limits,
    Object.find (ascii "execution_limits") root = some (.object limits) ∧
      ∀ limit ∈ [("controller_start_poll_limit", ticket.executionLimits.controllerStartPollLimit),
          ("worker_start_poll_limit", ticket.executionLimits.workerStartPollLimit),
          ("producer_due_poll_limit_per_arrival",
            ticket.executionLimits.producerDuePollLimitPerArrival),
          ("consumer_empty_poll_limit_before_finish",
            ticket.executionLimits.consumerEmptyPollLimitBeforeFinish),
          ("drain_poll_limit", ticket.executionLimits.drainPollLimit)],
        HasNumber limits limit.1 limit.2 ∧ 0 < limit.2
  package : ∃ literal, (literal, ticket.package) ∈ Load.queuePackages ∧
    HasText root "package" (ascii literal)
  placement : ∃ literal, (literal, ticket.placement) ∈ Load.placements ∧
    HasText root "placement" (ascii literal)
  workers : ticket.workers = selectedWorkerPair ticket.placement
  producerCpu : HasNumber root "producer_cpu" ticket.workers.producerCpu.toUInt64
  consumerCpu : HasNumber root "consumer_cpu" ticket.workers.consumerCpu.toUInt64
  bindingId : ticket.bindingId = trustAnchor.bindingId

theorem LoadedReference.earned {item : Object} (h : LoadedReference item reference)
    (hchecked : ValidatedReference bindingId reference)
    (hfile : ∃ bytes, files (nativePath (resolved manifestParent reference.path)) =
      some (.regular bytes) ∧ reference.sha256 = (sha256 bytes).hex) :
    EarnedReference sha256 files manifestParent bindingId item := by
  obtain ⟨bytes, hregular, hdigest⟩ := hfile
  exact
    { immutable := hchecked.immutable ▸ h.immutable
      eligible := hchecked.eligible ▸ h.eligible
      bindingId := hchecked.bindingId ▸ h.bindingId
      file := ⟨reference.path, bytes, h.path, hregular, hdigest ▸ h.sha256⟩ }

/-- What every item says of its reference, the items say of the references in order. -/
theorem map_of_loaded {T : Type} {items : List Object}
    (h : List.Forall₂ LoadedReference items references) {said : Object → T}
    {of : EvidenceReference → T}
    (hsaid : ∀ item reference, LoadedReference item reference → said item = of reference) :
    items.map said = references.map of := by
  induction h with
  | nil => rfl
  | cons hfirst hrest ih => rw [map_cons, map_cons, hsaid _ _ hfirst, ih]

/-- The identities of an admission that passed the checks are the anchor's. -/
theorem Loaded.identities (h : Loaded root admission) (hvalid : Validated admission trustAnchor) :
    ∀ identity ∈ [("source_revision", trustAnchor.sourceRevision),
      ("binary_sha256", trustAnchor.binarySha256), ("stand_id", trustAnchor.standId),
      ("binding_id", trustAnchor.bindingId)],
    HasText root identity.1 identity.2 ∧ identity.2 ≠ [] := by
  obtain ⟨hsource, hsameSource⟩ := hvalid.sourceRevision
  obtain ⟨hbinary, hsameBinary⟩ := hvalid.binarySha256
  obtain ⟨hstand, hsameStand⟩ := hvalid.standId
  obtain ⟨hbinding, hsameBinding⟩ := hvalid.bindingId
  have hnonempty : admission.binarySha256 ≠ [] := by
    intro hempty
    rw [hempty] at hbinary
    cases hbinary
  simp only [forall_mem_cons]
  rw [← hsameSource, ← hsameBinary, ← hsameStand, ← hsameBinding]
  exact ⟨⟨h.sourceRevision, hsource⟩, ⟨h.binarySha256, hnonempty⟩, ⟨h.standId, hstand⟩,
    ⟨h.bindingId, hbinding⟩, nofun⟩

/-- **A ticket is earned**: whatever the document, the anchor, the directory and the files are. -/
theorem ticket_earned (hload : loadAdmission conv document = .ok admission)
    (hcall : admitRunner sha256 files admission trustAnchor manifestParent = .ok ticket) :
    ∃ root, Json.parse conv document = .ok (.object root) ∧
      Earned sha256 files manifestParent trustAnchor root ticket := by
  obtain ⟨root, hparse, h⟩ := loaded hload
  obtain ⟨hvalid, hfiles, rfl⟩ := admitted hcall
  refine ⟨root, hparse, ?_⟩
  obtain ⟨limits, hlimits, hloaded⟩ := h.executionLimits
  obtain ⟨items, hitems, hreferences⟩ := h.evidence
  have hkinds : (items.map fun item => Object.find (ascii "kind") item) =
      admission.evidence.map fun reference => some (.string (ascii reference.kind.toString)) :=
    map_of_loaded hreferences fun item reference hitem => hitem.kind
  have hids : (items.map fun item => Object.find (ascii "artifact_id") item) =
      admission.evidence.map fun reference => some (.string reference.artifactId) :=
    map_of_loaded hreferences fun item reference hitem => hitem.artifactId
  have hbinding := hvalid.bindingId.2
  refine
    { schema := h.schema hvalid
      evidence := ⟨items, hitems, count_of_kinds hreferences hvalid, ?_, ?_, fun item hitem => ?_⟩
      sourceClean := hvalid.sourceClean
      identities := h.identities hvalid
      executionLimits := ⟨limits, hlimits, ?_⟩
      package := ?_
      placement := ?_
      workers := hvalid.workers
      producerCpu := h.producerCpu
      consumerCpu := h.consumerCpu
      bindingId := hbinding }
  · have hperm := hvalid.kinds.map fun kind => some (Value.string (ascii kind.toString))
    rw [map_map] at hperm
    rw [hkinds]
    exact hperm
  · have hnodup := hvalid.artifactIds.map (f := fun id => some (Value.string id))
      fun left right hsame => Value.string.inj (Option.some.inj hsame)
    rw [map_map] at hnodup
    rw [hids]
    exact hnodup
  · obtain ⟨reference, hreference, hloaded⟩ := loaded_of_mem hreferences hitem
    rw [← hbinding]
    exact hloaded.earned (hvalid.references reference hreference) (hfiles reference hreference)
  · obtain ⟨hcontroller, hworker, hproducer, hconsumer, hdrain⟩ :=
      limits_positive hvalid.executionLimits
    simp only [forall_mem_cons]
    exact ⟨⟨hloaded.controllerStart, hcontroller⟩, ⟨hloaded.workerStart, hworker⟩,
      ⟨hloaded.producerDue, hproducer⟩, ⟨hloaded.consumerEmpty, hconsumer⟩,
      ⟨hloaded.drain, hdrain⟩, nofun⟩
  · obtain ⟨literal, -, htext, hpackage⟩ := loaded_package h hvalid
    exact ⟨literal, hpackage, htext⟩
  · have hnear : ("NEAR", Placement.near) ∈ Load.placements := by decide
    have hfar : ("FAR", Placement.far) ∈ Load.placements := by decide
    rcases loaded_placement h hvalid with ⟨htext, hplacement⟩ | ⟨htext, hplacement⟩
    · exact ⟨"NEAR", hplacement ▸ hnear, htext⟩
    · exact ⟨"FAR", hplacement ▸ hfar, htext⟩

/-! Twenty items that name three files, one of them by an absolute path. -/

/-- A path, and the file's bytes and their SHA-256 digest. -/
structure SampleFile where
  path : String
  bytes : String
  digest : Sha256

def planFile : SampleFile :=
  ⟨"/plans/plan", "plan",
    ⟨ascii "64879f7d6b960a01909762d911a32d4582c20010c5641ee90278b644a9e3b525", by decide⟩⟩

def scheduleFile : SampleFile :=
  ⟨"schedule", "arrivals",
    ⟨ascii "1b89b4c9812f8b34337cdbe44b038340ab8412b3464e481b932060f6da80ad51", by decide⟩⟩

def reportFile : SampleFile :=
  ⟨"report", "report",
    ⟨ascii "845e91831319e89c4d656bdb80c278ac09a7230d61e5dfd2e1b1fbb436ac8917", by decide⟩⟩

def sampleFileOf : EvidenceKind → SampleFile
  | .runPlan => planFile
  | .warmupSchedule | .measurementSchedule => scheduleFile
  | _ => reportFile

def sampleNumber (number : UInt64) : Value :=
  .number (.unsignedInteger (decimal number.toNat) number)

def sampleItem (kind : EvidenceKind) : List (Text × Value) :=
  [(ascii "kind", .string (ascii kind.toString)),
    (ascii "artifact_id", .string (ascii kind.toString)),
    (ascii "path", .string (ascii (sampleFileOf kind).path)),
    (ascii "sha256", .string (sampleFileOf kind).digest.hex),
    (ascii "binding_id", .string (ascii "binding")),
    (ascii "immutable", .boolean true), (ascii "eligible", .boolean true)]

def sampleLimits : List (Text × Value) :=
  (limitFields.map ascii).zip ([1, 2, 3, 4, 5].map sampleNumber)

def sampleRoot : List (Text × Value) :=
  [(ascii "schema_version", .string kAdmissionSchemaVersion),
    (ascii "protocol_version", .string kProtocolVersion),
    (ascii "runner_profile_id", .string kRunnerProfileId),
    (ascii "cpu_pair_selection_id", .string kCpuPairSelectionId),
    (ascii "relax_mapping_id", .string kRelaxMappingId),
    (ascii "source_revision", .string (ascii "revision")),
    (ascii "binary_sha256", .string reportFile.digest.hex),
      (ascii "stand_id", .string (ascii "stand")),
    (ascii "binding_id", .string (ascii "binding")), (ascii "package", .string (ascii "R2")),
    (ascii "placement", .string (ascii "FAR")), (ascii "producer_cpu", sampleNumber 0),
    (ascii "consumer_cpu", sampleNumber 26),
    (ascii "execution_limits", .object (Object.of sampleLimits)),
    (ascii "evidence", .array (kRequiredEvidenceKinds.map fun kind =>
      .object (Object.of (sampleItem kind))))]

/-- The value is written, and read back as it is. -/
def Restored (conv : CharConv) (value : Value) : Prop := Json.HasForm conv value ∧ value.Settled

theorem restored_string {text : Text} (h : text.all (fun byte => byte < 0x80) = true) :
    Restored conv (.string text) :=
  ⟨Json.hasForm_string.mpr (Json.isUtf8_ascii h), Json.settled_string text⟩

theorem restored_object {members : List (Text × Value)} (hkeys : (members.map Prod.fst).Nodup)
    (hascii : ((members.map Prod.fst).all fun key => key.all fun byte => byte < 0x80) = true)
    (h : ∀ value ∈ members.map Prod.snd, Restored conv value) :
    Restored conv (.object (Object.of members)) :=
  ⟨(Json.hasForm_of hkeys hascii).mpr fun value hvalue => (h value hvalue).1,
    Json.settled_of hkeys fun value hvalue => (h value hvalue).2⟩

theorem restored_item (kind : EvidenceKind) :
    Restored conv (.object (Object.of (sampleItem kind))) := by
  have htexts : [ascii kind.toString, ascii (sampleFileOf kind).path,
      (sampleFileOf kind).digest.hex].all
        (fun text => text.all fun byte => byte < 0x80) = true := by
    cases kind
    all_goals decide
  simp only [all_cons, all_nil, Bool.and_eq_true, and_true] at htexts
  obtain ⟨hkind, hpath, hdigest⟩ := htexts
  refine restored_object ?_ ?_ ?_
  · exact (by decide : ((sampleItem .runPlan).map Prod.fst).Nodup)
  · exact (by decide : ((sampleItem .runPlan).map Prod.fst).all
      (fun key => key.all fun byte => byte < 0x80) = true)
  · simp only [sampleItem, map_cons, map_nil, forall_mem_cons]
    exact ⟨restored_string hkind, restored_string hkind, restored_string hpath,
      restored_string hdigest, restored_string (by decide), ⟨⟨_, rfl⟩, Json.settled_boolean _⟩,
      ⟨⟨_, rfl⟩, Json.settled_boolean _⟩, nofun⟩

theorem restored_number (number : UInt64) : Restored conv (sampleNumber number) :=
  ⟨⟨_, rfl⟩, Json.settled_decimal number⟩

theorem restored_root : Restored conv (.object (Object.of sampleRoot)) := by
  refine restored_object (by decide +kernel) (by decide +kernel) ?_
  simp only [sampleRoot, map_cons, map_nil, forall_mem_cons]
  repeat refine ⟨restored_string (by decide), ?_⟩
  refine ⟨restored_number _, restored_number _,
    restored_object (by decide) (by decide) ?_, ?_, nofun⟩
  · have hnumbers : sampleLimits.map Prod.snd = [1, 2, 3, 4, 5].map sampleNumber := rfl
    rw [hnumbers, forall_mem_map]
    exact fun number _ => restored_number number
  · have hitems : ∀ value ∈ kRequiredEvidenceKinds.map fun kind => Value.object (Object.of
        (sampleItem kind)), Restored conv value := by
      rw [forall_mem_map]
      exact fun kind _ => restored_item kind
    exact ⟨Json.hasForm_array.mpr fun value hvalue => (hitems value hvalue).1,
      Json.settled_array fun value hvalue => (hitems value hvalue).2⟩

def sampleConv : CharConv := ⟨fun _ => none, fun _ => none⟩

def sampleSha256 (bytes : Text) : Sha256 :=
  if bytes = ascii planFile.bytes then planFile.digest
  else if bytes = ascii scheduleFile.bytes then scheduleFile.digest
  else reportFile.digest

def sampleAnchor : AdmissionTrustAnchor :=
  ⟨ascii "revision", reportFile.digest.hex, ascii "stand", ascii "binding", false⟩

def sampleFiles : FileSystem := fun path =>
  if path = ascii "/plans/plan" then some (.regular (ascii planFile.bytes))
  else if path = ascii "runs/schedule" then some (.regular (ascii scheduleFile.bytes))
  else if path = ascii "runs/report" then some (.regular (ascii reportFile.bytes))
  else none

theorem ticket_earned_sample : ∃ document admission ticket,
    loadAdmission sampleConv document = .ok admission ∧
      admitRunner sampleSha256 sampleFiles admission sampleAnchor (ascii "runs") = .ok ticket ∧
      ∃ root, Json.parse sampleConv document = .ok (.object root) ∧
        Earned sampleSha256 sampleFiles (ascii "runs") sampleAnchor root ticket := by
  obtain ⟨⟨document, hdocument⟩, hplain, hsettled⟩ := @restored_root sampleConv
  have hparse := Json.parse_canonicalize hplain hdocument
  rw [hsettled] at hparse
  have hclean : (readAdmission (Object.of sampleRoot)).run.run.2.isEmpty = true := by
    decide +kernel
  have hadmitted : (admitRunner sampleSha256 sampleFiles
      (readAdmission (Object.of sampleRoot)).run.run.1 sampleAnchor
        (ascii "runs")).toOption.isSome =
        true := by decide +kernel
  obtain ⟨ticket, hticket⟩ := Option.isSome_iff_exists.mp hadmitted
  have hcall := Fallible.of_toOption hticket
  have hload := (loadAdmission_ok hparse).mpr (clean_of_errors (List.isEmpty_iff.mp hclean))
  exact ⟨document, _, ticket, hload, hcall, ticket_earned hload hcall⟩

end CpuPrefetch.Runner
