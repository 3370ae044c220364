/-
The documents of an analysis.

A run, its latencies, the configuration, a selection and the machine report are each written as
a canonical object.  That it can be written rests on the identifiers and on the names of the
software, which are given as bytes; every other text of it is ours.
-/
import CpuPrefetch.Analysis.Pipeline
import CpuPrefetch.Proofs.Orchestration.GeneratedPlans

namespace CpuPrefetch.Analysis

open List
open Protocol Orchestration
open Protocol.Json (CharConv HasForm IsUtf8 Object Value hasForm_string hasForm_array)
open Protocol.Load (ArtifactReference)

variable {F : Type} {conv : CharConv} {arith : Binary64 F}

/-! ### Texts -/

/-- Every byte is that of an ASCII character. -/
def Plain (text : Text) : Prop := (text.all fun byte => byte < 0x80) = true

instance (text : Text) : Decidable (Plain text) := inferInstanceAs (Decidable (_ = true))

theorem Plain.isUtf8 {text : Text} (h : Plain text) : IsUtf8 text := Json.isUtf8_ascii h

theorem hasForm_plain {text : Text} (h : Plain text) : HasForm conv (.string text) :=
  hasForm_string.mpr h.isUtf8

theorem plain_hex (digest : Sha256) : Plain digest.hex := by
  have hvalid := digest.valid
  rw [validSha256, Bool.and_eq_true, lowercaseHex, all_eq_true] at hvalid
  rw [Plain, all_eq_true]
  intro byte hbyte
  have hlower := hvalid.2 byte hbyte
  revert hlower
  exact Json.forall_byte (p := fun byte => isLowerHex byte = true → decide (byte < 0x80) = true)
    (by decide) byte

theorem plain_floatBits (value : F) : Plain (floatBits arith value) := by
  have hdigit : ∀ byte : UInt8, decide (Json.hexDigitText (byte &&& 0x0f) < 0x80) = true :=
    Json.forall_byte (by decide)
  rw [Plain, floatBits, all_map, all_eq_true]
  intro shift _
  exact hdigit _

/-- Distinct keys, in ASCII. -/
def PlainKeys (keys : List Text) : Prop := keys.Nodup ∧ ∀ key ∈ keys, Plain key

instance (keys : List Text) : Decidable (PlainKeys keys) :=
  inferInstanceAs (Decidable (_ ∧ ∀ key ∈ keys, Plain key))

/-- Every member's value has a form. -/
@[reducible] def HaveForms (conv : CharConv) : List (Text × Value) → Prop
  | [] => True
  | member :: rest => HasForm conv member.2 ∧ HaveForms conv rest

/-- The keys are ours, and are checked where the members are listed. -/
theorem hasForm_members {members : List (Text × Value)}
    (hkeys : decide (PlainKeys (members.map Prod.fst)) = true) (hvalues : HaveForms conv members) :
    HasForm conv (.object (Object.of members)) := by
  have hplain := of_decide_eq_true hkeys
  refine (Json.hasForm_of hplain.1 (List.all_eq_true.mpr hplain.2)).mpr ?_
  clear hkeys hplain
  induction members with
  | nil => exact forall_mem_nil _
  | cons member rest ih => exact List.forall_mem_cons.mpr ⟨hvalues.1, ih hvalues.2⟩

theorem hasForm_protocol (version : ProtocolVersion) :
    HasForm conv (.string (protocolName version)) := by
  refine hasForm_plain ?_
  cases version <;> decide

theorem hasForm_artifact {reference : ArtifactReference} (h : IsUtf8 reference.artifactId.val) :
    HasForm conv (artifactValue reference) := by
  rw [artifactValue]
  exact hasForm_members rfl
    ⟨hasForm_string.mpr h, hasForm_plain (plain_hex _), trivial⟩

/-! ### The configuration -/

/-- What a configuration names is encoded in UTF-8. -/
structure EncodedConfiguration (configuration : AnalysisConfiguration F) : Prop where
  analysisProfile : IsUtf8 configuration.analysisProfile
  bootstrapProfile : IsUtf8 configuration.bootstrap.profile
  algorithm : IsUtf8 configuration.bootstrap.rngAlgorithmVersion
  seed : IsUtf8 configuration.bootstrap.seedId.value
  artifact : IsUtf8 configuration.configurationArtifact.artifactId.val
  compiler : IsUtf8 configuration.software.compiler
  revision : IsUtf8 configuration.software.implementationRevision
  library : IsUtf8 configuration.software.standardLibrary
  sizing : ∀ family ∈ configuration.precision.families, IsUtf8 family.sizingArtifact.artifactId.val

variable {configuration : AnalysisConfiguration F}

theorem EncodedConfiguration.softwareValue (h : EncodedConfiguration configuration) :
    HasForm conv (softwareValue configuration.software) := by
  rw [Analysis.softwareValue]
  exact hasForm_members rfl
    ⟨hasForm_string.mpr h.compiler, hasForm_string.mpr h.revision, hasForm_string.mpr h.library,
      trivial⟩

theorem EncodedConfiguration.bootstrapValue (h : EncodedConfiguration configuration) :
    HasForm conv (bootstrapValue configuration.bootstrap) := by
  rw [Analysis.bootstrapValue]
  exact hasForm_members rfl
    ⟨hasForm_uint _, hasForm_uint _, hasForm_string.mpr h.bootstrapProfile, hasForm_uint _,
      hasForm_string.mpr h.algorithm, hasForm_string.mpr h.seed, trivial⟩

theorem hasForm_counts (counts : ProspectiveCounts) : HasForm conv (countsValue counts) := by
  rw [countsValue]
  exact hasForm_members rfl
    ⟨hasForm_uint _, hasForm_uint _, hasForm_uint _, hasForm_uint _, hasForm_uint _, hasForm_uint _,
      hasForm_uint _, trivial⟩

theorem EncodedConfiguration.canonical (h : EncodedConfiguration configuration) :
    ∃ bytes, canonicalConfiguration conv arith configuration = .ok bytes := by
  have hsizing : HasForm conv (.array (configuration.precision.families.map fun family =>
      artifactValue family.sizingArtifact)) := by
    rw [hasForm_array, forall_mem_map]
    exact fun family hfamily => hasForm_artifact (h.sizing family hfamily)
  rw [canonicalConfiguration]
  exact hasForm_members rfl
    ⟨hasForm_string.mpr h.analysisProfile, h.bootstrapValue, hasForm_string.mpr h.artifact,
      hasForm_plain (plain_floatBits _), hasForm_counts _, hasForm_protocol _, h.softwareValue,
      hsizing, trivial⟩

/-! ### Runs -/

theorem hasForm_weighted (values : List WeightedLatency) :
    HasForm conv (weightedValues values) := by
  rw [weightedValues, hasForm_array, forall_mem_map]
  intro value _
  exact hasForm_members rfl
    ⟨hasForm_uint _, hasForm_uint _, trivial⟩

theorem hasForm_diagnostics (diagnostics : SyntheticDiagnosticSeries) :
    HasForm conv (diagnosticsValue diagnostics) := by
  rw [diagnosticsValue]
  exact hasForm_members rfl
    ⟨hasForm_weighted _, hasForm_weighted _, hasForm_weighted _, hasForm_weighted _,
      hasForm_weighted _, hasForm_weighted _, hasForm_weighted _, trivial⟩

theorem canonicalLatencies_isOk {runId : RunId} (h : IsUtf8 runId.value)
    (latencies : List WeightedLatency) :
    ∃ bytes, canonicalSyntheticLatencyPayload conv runId latencies = .ok bytes := by
  rw [canonicalSyntheticLatencyPayload]
  exact hasForm_members rfl
    ⟨hasForm_plain (by decide), hasForm_string.mpr h, hasForm_weighted _, trivial⟩

/-- What a run names is encoded in UTF-8. -/
structure EncodedRun (run : SyntheticRunInput) : Prop where
  runId : IsUtf8 run.runId.value
  blockId : IsUtf8 run.blockId.value
  schema : IsUtf8 run.schemaVersion
  manifest : IsUtf8 run.manifestArtifact.artifactId.val
  joined : IsUtf8 run.joinedArtifact.artifactId.val
  audit : IsUtf8 run.joinAuditArtifact.artifactId.val
  failure : ∀ reference ∈ run.failureArtifact, IsUtf8 reference.artifactId.val

theorem EncodedRun.canonical {run : SyntheticRunInput} (h : EncodedRun run) :
    ∃ bytes, canonicalSyntheticRun conv run = .ok bytes := by
  have hfailure : HasForm conv (failureValue run.failureArtifact) := by
    have hencoded := h.failure
    cases hartifact : run.failureArtifact with
    | none => exact ⟨_, rfl⟩
    | some reference => exact hasForm_artifact (hencoded reference hartifact)
  have hrole : HasForm conv (stringValue (roleName run.blockRole)) :=
    hasForm_plain (by cases run.blockRole <;> decide)
  have hstate : HasForm conv (stringValue (hardwareName run.hardwareState)) :=
    hasForm_plain (by cases run.hardwareState <;> decide)
  have hpackage : HasForm conv (stringValue (packageName run.package)) :=
    hasForm_plain (by cases run.package <;> decide)
  have hvalidity : HasForm conv (stringValue (validityName run.validity)) :=
    hasForm_plain (by cases run.validity <;> decide)
  rw [canonicalSyntheticRun]
  exact hasForm_members rfl
    ⟨hasForm_uint _, hasForm_uint _, hasForm_string.mpr h.blockId, hrole, hasForm_uint _,
      hasForm_uint _, hfailure, hasForm_uint _, hasForm_uint _, hstate, hasForm_artifact h.audit,
      hasForm_artifact h.joined, hasForm_uint _, hasForm_string.mpr h.manifest, hasForm_uint _,
      hasForm_uint _, hasForm_uint _, hpackage, hasForm_uint _, ⟨_, rfl⟩, hasForm_protocol _,
      ⟨_, rfl⟩, hasForm_uint _, hasForm_string.mpr h.runId, hasForm_string.mpr h.schema, hvalidity,
      hasForm_uint _, hasForm_diagnostics _, trivial⟩

/-! ### A selection -/

theorem hasForm_contexts {selections : List (H3Context × H3Candidate)}
    (hkeys : PlainKeys (selections.map fun selection => ascii (contextName selection.1))) :
    HasForm conv (.object (Object.of (selections.map fun selection =>
      (ascii (contextName selection.1), stringValue (candidateName selection.2))))) := by
  have hname : ∀ candidate : H3Candidate, Plain (ascii (candidateName candidate)) := by
    rintro ⟨package, state⟩
    cases package <;> cases state <;> decide
  refine (Json.hasForm_of (by rw [map_map]; exact hkeys.1)
    (List.all_eq_true.mpr (by rw [map_map]; exact hkeys.2))).mpr ?_
  rw [map_map, forall_mem_map]
  exact fun selection _ => hasForm_plain (hname selection.2)

theorem selectionRecord_isOk {sha256 : Text → Sha256} {selections : List (H3Context × H3Candidate)}
    {sources : List ArtifactReference}
    (hkeys : PlainKeys (selections.map fun selection => ascii (contextName selection.1)))
    (hsources : ∀ source ∈ sources, IsUtf8 source.artifactId.val) :
    ∃ record, selectionRecord conv sha256 selections sources = .ok record ∧
      record.selections = selections ∧ Plain record.schemaVersion := by
  have hsorted : HasForm conv (.array ((sortedSources sources).map artifactValue)) := by
    rw [hasForm_array, forall_mem_map]
    intro source hsource
    exact hasForm_artifact (hsources source ((mem_insertionSort _).mp hsource))
  have hform : ∀ hash, Plain hash →
      HasForm conv (selectionDocument selections (sortedSources sources) hash) := by
    intro hash hhash
    rw [selectionDocument]
    exact hasForm_members rfl
      ⟨hasForm_plain (by decide), hasForm_plain (by decide), hasForm_plain (by decide),
        hasForm_contexts hkeys, hsorted, hasForm_plain hhash, trivial⟩
  obtain ⟨blank, hblank⟩ := hform zeroSelf (by decide)
  obtain ⟨canonical, hcanonical⟩ := hform _ (plain_hex (sha256 blank))
  have hschema : Plain kSelectionSchema := by decide
  exact ⟨⟨kSelectionSchema, selections, sortedSources sources, canonical, sha256 blank⟩, by
    simp only [selectionRecord, hblank, Fallible.ok_bind, hcanonical], rfl, hschema⟩

/-! ### Reports -/

/-- A family whose names are texts of ours. -/
def PlainFamily (family : MaxTResult F) : Prop :=
  Plain (ascii family.familyId) ∧ ∀ interval ∈ family.intervals, Plain (ascii interval.stableId)

theorem hasForm_interval {interval : SimultaneousInterval F} (h : Plain (ascii interval.stableId)) :
    HasForm conv (intervalValue arith interval) := by
  have hlower : Plain (if arith.isFinite interval.lower then floatBits arith interval.lower
      else ascii "NEGATIVE_INFINITY") := by
    split
    · exact plain_floatBits _
    · decide
  have hconclusion : Plain (ascii (conclusionName interval.conclusion)) := by
    cases interval.conclusion <;> decide
  rw [intervalValue]
  exact hasForm_members rfl
    ⟨hasForm_plain h, hasForm_plain (plain_floatBits _), hasForm_plain (plain_floatBits _),
      hasForm_plain hlower, hasForm_plain (plain_floatBits _), hasForm_plain hconclusion, trivial⟩

theorem PlainFamily.hasForm {family : MaxTResult F} (h : PlainFamily family) :
    HasForm conv (familyValue arith family) := by
  have hintervals : HasForm conv (.array (family.intervals.map (intervalValue arith))) := by
    rw [hasForm_array, forall_mem_map]
    exact fun interval hinterval => hasForm_interval (h.2 interval hinterval)
  rw [familyValue]
  exact hasForm_members rfl
    ⟨hasForm_plain h.1, ⟨_, rfl⟩, hasForm_plain (plain_floatBits _), hasForm_uint _, hintervals,
      trivial⟩

theorem hasForm_validation {h3 : H3ValidationResult F}
    (h : ∀ comparisons ∈ h3.comparisons, PlainFamily comparisons) :
    HasForm conv (validationValue arith h3) := by
  rw [validationValue]
  split
  · exact ⟨_, rfl⟩
  · rename_i comparisons hcomparisons
    exact hasForm_members rfl
      ⟨⟨_, rfl⟩, (h comparisons hcomparisons).hasForm, trivial⟩

theorem hasForm_selection {selection : H3SelectionRecord} (h : Plain selection.schemaVersion) :
    HasForm conv (selectionValue selection) := by
  rw [selectionValue]
  exact hasForm_members rfl
    ⟨hasForm_plain (plain_hex _), hasForm_plain h, trivial⟩

theorem hasForm_receipt {receipt : StageReceipt} (h : IsUtf8 receipt.version) :
    HasForm conv (receiptValue receipt) := by
  have hstage : Plain (ascii (stageName receipt.stage)) := by cases receipt.stage <;> decide
  rw [receiptValue]
  exact hasForm_members rfl
    ⟨hasForm_plain hstage, hasForm_string.mpr h, hasForm_uint _, trivial⟩

/-- Results whose names are texts of ours. -/
structure PlainResults (results : AnalysisResults F) : Prop where
  h1 : ∀ family ∈ results.h1, PlainFamily family
  h2 : ∀ family ∈ results.h2, PlainFamily family
  selection : ∀ selection ∈ results.selection, Plain selection.schemaVersion
  h3 : ∀ validation ∈ results.h3, ∀ comparisons ∈ validation.comparisons, PlainFamily comparisons
  stages : ∀ receipt ∈ results.stages, Plain receipt.version

theorem hasForm_option {T : Type} {part : Option T} {write : T → Value}
    (h : ∀ value ∈ part, HasForm conv (write value)) :
    HasForm conv ((part.map write).getD .null) := by
  cases part with
  | none => exact ⟨_, rfl⟩
  | some value => exact h value rfl

/-- The report of an analysis can be written. -/
theorem reportAnalysis_isOk {sha256 : Text → Sha256} {input : AnalysisInput F}
    {summaries : List (RunSummary F)} {blocks : List (CompleteBlockResponse F)}
    {results : AnalysisResults F} (hconfiguration : EncodedConfiguration input.configuration)
    (hartifacts : ∀ artifact ∈ input.artifacts, IsUtf8 artifact.reference.artifactId.val)
    (hresults : PlainResults results) :
    ∃ output, reportAnalysis conv sha256 arith input summaries blocks results = .ok output ∧
      output.selection = results.selection := by
  have hreferences :
    HasForm conv (.array ((sortedArtifacts input.artifacts).map artifactValue)) := by
    rw [hasForm_array, forall_mem_map, sortedArtifacts, forall_mem_map]
    intro artifact hartifact
    exact hasForm_artifact (hartifacts artifact ((mem_insertionSort _).mp hartifact))
  have hreceipts : HasForm conv (.array (results.stages.map receiptValue)) := by
    rw [hasForm_array, forall_mem_map]
    exact fun receipt hreceipt => hasForm_receipt ((hresults.stages receipt hreceipt).isUtf8)
  have hsensitivity : HasForm conv (.object (Object.of
      [(ascii "classification", stringValue "NON_PRIMARY_DIAGNOSTIC"),
        (ascii "outputs", .array [])])) := by
    exact hasForm_members rfl ⟨hasForm_plain (by decide), ⟨_, rfl⟩, trivial⟩
  have hstate : Plain (ascii (inferenceStateName results.state)) := by
    cases results.state <;> decide
  obtain ⟨bytes, hbytes⟩ :
      ∃ bytes, canonicalConfiguration conv arith input.configuration = .ok bytes :=
    hconfiguration.canonical
  have hreport : ∀ outputHash, Plain outputHash → ∃ report, buildMachineReport conv arith
      input.configuration results summaries.length blocks.length input.artifacts (sha256 bytes)
        outputHash = .ok report := by
    intro outputHash hhash
    rw [buildMachineReport]
    exact hasForm_members rfl
      ⟨hasForm_string.mpr hconfiguration.analysisProfile, hasForm_plain (plain_hex _),
        hasForm_plain (by decide), hasForm_plain hstate, hasForm_protocol _,
        hasForm_plain (by decide), hasForm_plain hhash, hasForm_uint _, hasForm_uint _,
        hconfiguration.softwareValue, hreferences,
        hasForm_option fun family hfamily => (hresults.h1 family hfamily).hasForm,
        hasForm_option fun family hfamily => (hresults.h2 family hfamily).hasForm,
        hasForm_option fun selection hselection =>
          hasForm_selection (hresults.selection selection hselection),
        hasForm_option fun validation hvalidation =>
          hasForm_validation (hresults.h3 validation hvalidation),
        hsensitivity, hreceipts, trivial⟩
  obtain ⟨blank, hblank⟩ := hreport zeroSelf (by decide)
  obtain ⟨machine, hmachine⟩ := hreport (sha256 blank).hex (plain_hex _)
  simp only [reportAnalysis, hbytes, Fallible.ok_bind, sealedReport, hblank, hmachine,
    Except.ok.injEq, exists_eq_left']

end CpuPrefetch.Analysis
