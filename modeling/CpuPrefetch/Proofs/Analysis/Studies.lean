/-
Studies that are analyzed.

A study here is a list of blocks, each with a plan of the registered cells and a run for every one
of them.  A block has a latency of its own, which all its runs have; the logarithms are taken to
be zero, so that the responses do not differ and every inference goes through.
-/
import CpuPrefetch.Proofs.Analysis.FlatResponses
import CpuPrefetch.Proofs.Analysis.Presentation
import CpuPrefetch.Proofs.Orchestration.BalancedPlans

namespace CpuPrefetch.Analysis

open List
open Protocol Orchestration
open Protocol.Json (CharConv IsUtf8)
open Protocol.Load (ArtifactReference)

/-! ### Names with numbers -/

/-- A name that holds no digit. -/
def Letters (name : Text) : Prop := (name.all fun byte => !Json.isDigit byte) = true

instance (name : Text) : Decidable (Letters name) := inferInstanceAs (Decidable (_ = true))

theorem takeWhile_letters {name : Text} (h : Letters name) (number : Nat) :
    (name ++ decimal number).takeWhile (fun byte => !Json.isDigit byte) = name := by
  have hdigits : (decimal number).takeWhile (fun byte => !Json.isDigit byte) = [] := by
    cases hdecimal : decimal number with
    | nil => rfl
    | cons first rest =>
        have hfirst := Json.decimal_digits number first (by simp [hdecimal])
        simp [hfirst]
  rw [takeWhile_append_of_pos (fun byte hbyte => List.all_eq_true.mp h byte hbyte), hdigits,
    append_nil]

variable {number number' : Nat}

/-- Where the name ends and the number begins is seen. -/
theorem letters_decimal {name name' : Text} (h : Letters name) (h' : Letters name')
    (hsame : name ++ decimal number = name' ++ decimal number') :
    name = name' ∧ number = number' := by
  have hname : name = name' := by
    rw [← takeWhile_letters h number, hsame, takeWhile_letters h']
  subst hname
  refine ⟨rfl, ?_⟩
  rw [← Json.digitsValue_decimal number, append_cancel_left hsame, Json.digitsValue_decimal]

/-- A name with a number behind it; the underscore keeps it from being empty. -/
def label (name : String) (number : Nat) : Text := 95 :: (ascii name ++ decimal number)

theorem label_ne_nil (name : String) (number : Nat) : label name number ≠ [] :=
  cons_ne_nil _ _

variable {name name' : String}

theorem label_inj (h : Letters (ascii name)) (h' : Letters (ascii name'))
    (hsame : label name number = label name' number') :
    ascii name = ascii name' ∧ number = number' :=
  letters_decimal h h' (List.cons.inj hsame).2

theorem label_ne (h : Letters (ascii name)) (h' : Letters (ascii name'))
    (hne : ascii name ≠ ascii name') :
    label name number ≠ label name' number' := fun hsame => hne (label_inj h h' hsame).1

theorem numbered_inj {tag : IdentifierTag} (h : Letters (ascii name)) (h' : Letters (ascii name'))
    (hsame : numbered tag name number = numbered tag name' number') :
    ascii name = ascii name' ∧ number = number' :=
  label_inj h h' (congrArg Identifier.value hsame)

/-! ### The catalog of a block -/

/-- The catalog of a block of the role, with the subspace and the seeds of its number. -/
def studyCatalog (role : BlockRole) (number : Nat) : BlockSeedCatalog :=
  { sampleCatalog number number with
    role := role
    roleNamespaceId := named _ (if role = .h3Train then "training" else "validation") }

theorem isOpaque_numbered {tag : IdentifierTag} (number : Nat)
    (h : isOpaque (95 :: ascii name) = true) :
    isOpaque (numbered tag name number).value = true := by
  have hdigits : ∀ byte ∈ decimal number, byte ≠ 47 ∧ byte ≠ 92 := by
    intro byte hbyte
    have hdigit := Json.decimal_digits number byte hbyte
    revert hdigit
    exact Json.forall_byte (p := fun byte => Json.isDigit byte = true → byte ≠ 47 ∧ byte ≠ 92)
      (by decide) byte
  simp only [isOpaque, Bool.and_eq_true, Bool.not_eq_true', decide_eq_true_eq] at h ⊢
  obtain ⟨⟨-, hslash⟩, hback⟩ := h
  refine ⟨⟨rfl, ?_⟩, ?_⟩
  · show (47 : UInt8) ∉ (95 :: ascii name) ++ decimal number
    rw [mem_append]
    exact fun hmem => hmem.elim hslash fun hmem => (hdigits 47 hmem).1 rfl
  · show (92 : UInt8) ∉ (95 :: ascii name) ++ decimal number
    rw [mem_append]
    exact fun hmem => hmem.elim hback fun hmem => (hdigits 92 hmem).2 rfl

/-- The seeds of a domain are opaque and distinct. -/
theorem seeds_fresh {name : String} {start count : Nat} {seen : List SeedId}
    (hletters : Letters (ascii name)) (hkept : isOpaque (95 :: ascii name) = true)
    (hseen : ∀ seed ∈ seen, ∃ other number, Letters (ascii other) ∧ ascii other ≠ ascii name ∧
      seed = numbered .seed other number) :
    (∀ seed ∈ (List.range count).map fun seed => numbered .seed name (start + seed),
      isOpaque seed.value = true) ∧
    Keyed.Fresh seen ((List.range count).map fun seed => numbered .seed name (start + seed)) := by
  refine ⟨List.forall_mem_map.mpr fun _ _ => isOpaque_numbered _ hkept, ?_, ?_⟩
  · refine List.nodup_range.map fun seed seed' hsame => ?_
    have := (numbered_inj hletters hletters hsame).2
    omega
  · refine List.forall_mem_map.mpr fun _ _ hmem => ?_
    obtain ⟨other, number, hother, hne, hsame⟩ := hseen _ hmem
    exact hne (numbered_inj hother hletters hsame.symm).1

theorem studyCatalog_valid {role : BlockRole} (hrole : role = .h3Train ∨ role = .h3Validation)
    (number : Nat) : validateSeedCatalog (studyCatalog role number) sampleNamespaces = [] := by
  have harrivals := @seeds_fresh "arrival" (100 * number) 18 [] (by decide) (by decide)
    (by simp)
  have hnodes := @seeds_fresh "node" (100 * number) 6 (studyCatalog role number).arrivalSeedIds
    (by decide) (by decide) (List.forall_mem_map.mpr fun seed _ =>
      ⟨"arrival", _, by decide, by decide, rfl⟩)
  have hevents := @seeds_fresh "event" (100 * number) 6
    ((studyCatalog role number).arrivalSeedIds ++ (studyCatalog role number).nodeSeedIds)
    (by decide) (by decide) (List.forall_mem_append.mpr
      ⟨List.forall_mem_map.mpr fun seed _ => ⟨"arrival", _, by decide, by decide, rfl⟩,
        List.forall_mem_map.mpr fun seed _ => ⟨"node", _, by decide, by decide, rfl⟩⟩)
  have hnamespaces : validateRoleNamespaces sampleNamespaces = [] := by decide +kernel
  have hsubspace : ∀ name : String, Letters (ascii name) → ascii name ≠ ascii "subspace" →
      (studyCatalog role number).blockSubspaceId ≠ named _ name := by
    intro name hletters hne hsame
    have hvalue := (List.cons.inj (congrArg Identifier.value hsame)).2
    have htaken := @takeWhile_letters (ascii "subspace") (by decide) number
    rw [hvalue, List.takeWhile_eq_self_iff.mpr (List.all_eq_true.mp hletters)] at htaken
    exact hne htaken
  simp only [validateSeedCatalog, append_eq_nil_iff, require_eq_nil, Bool.and_eq_true,
    decide_eq_true_eq, inspectSeeds_eq_nil]
  refine ⟨⟨⟨⟨⟨⟨hnamespaces, ⟨⟨?_, ?_⟩, ?_⟩, ?_⟩, ?_⟩, ?_⟩, harrivals⟩, hnodes⟩, hevents⟩
  · have hbound : ∀ role, role = .h3Train ∨ role = .h3Validation →
        (findBinding sampleNamespaces role).any (·.namespaceId = named _
          (if role = .h3Train then "training" else "validation")) = true := by
      rintro _ (rfl | rfl) <;> decide
    exact hbound role hrole
  · exact isOpaque_numbered _ (by decide)
  · rcases hrole with rfl | rfl
    · exact hsubspace "training" (by decide) (by decide)
    · exact hsubspace "validation" (by decide) (by decide)
  · exact hsubspace "stage-a" (by decide) (by decide)
  · show isOpaque (artifactNamed "schema").artifactId.val = true
    decide
  · exact ⟨⟨rfl, rfl⟩, rfl⟩

/-! ### The plan of a block -/

/-- The request for the block of the role with this number. -/
def studyRequest (role : BlockRole) (number : Nat) : BlockGenerationInput :=
  { sampleInput number number none with role := role, seeds := studyCatalog role number }

def studyCells (role : BlockRole) (number : Nat) : List StageACell :=
  (plannedCells (studyCatalog role number) (samplePlots number) (List.range 90)
    (List.range 90)).getD []

/-- The text that was written, if it was. -/
def written : Result Text → Text
  | .ok text => text
  | .error _ => []

def studyDigest (role : BlockRole) (number : Nat) : Sha256 :=
  firstBytes (written (Json.canonicalize noNumbers (blockDocument (studyRequest role number)
    (sampleBlockId number) (samplePlots number) (studyCells role number) zeroSelf)))

def studyPlan (role : BlockRole) (number : Nat) : BlockPlan :=
  planOf (studyRequest role number) (sampleBlockId number) (samplePlots number)
    (studyCells role number) (studyDigest role number)

theorem studyRequest_encoded (role : BlockRole) (number : Nat) :
    EncodedInput (studyRequest role number) :=
  have h := sampleInput_encoded number number none
  ⟨h.platform, h.build, h.subspace, h.seeds, h.replacement⟩

/-- The plan is valid, and of the registered cells, one after another. -/
theorem studyPlan_valid {role : BlockRole} (hrole : role = .h3Train ∨ role = .h3Validation)
    (hid : makeBlockId noNumbers firstBytes (named _ "platform") (named _ "build") role
      (.ofNat number) = .ok (sampleBlockId number)) :
    validateBlockPlan noNumbers firstBytes (studyPlan role number) (studyCatalog role number)
        sampleNamespaces = [] ∧
      (studyPlan role number).cells.map (fun cell => cell.cellOrdinal.toNat) = List.range 180 ∧
      ((studyPlan role number).cells.map StageACell.key).Perm expectedStageACells := by
  have hcatalog := studyCatalog_valid hrole number
  have hplots : samplePlots number = (.h0, .h1) ∨ samplePlots number = (.h1, .h0) := by
    rw [samplePlots]
    split
    · exact Or.inl rfl
    · exact Or.inr rfl
  obtain ⟨cells, hcells⟩ := Option.isSome_iff_exists.mp
    (plannedCells_isSome hcatalog (samplePlots number) (List.Perm.refl _) (List.Perm.refl _))
  have hsame : studyCells role number = cells := by rw [studyCells, hcells, Option.getD_some]
  have horiginal : (studyRequest role number).replacement = none := rfl
  obtain ⟨canonical, hcanonical, hvalid⟩ := planOf_planned (studyRequest role number) hcells hplots
    (List.Perm.refl _) (List.Perm.refl _) hcatalog rfl hid (studyRequest_encoded role number)
    fun _ => by simp [replacementErrors, planOf, horiginal, require]
  have hdigest : studyDigest role number = firstBytes canonical := by
    rw [studyDigest, hsame, hcanonical, written]
  obtain ⟨front, back, hparts, htwo⟩ := twoPlots_of_plannedCells hcells hplots (List.Perm.refl _)
    (List.Perm.refl _)
  have hbalanced := @TwoPlots.balanced (studyRequest role number) _ _ front back
    (studyPlan role number) htwo (hsame.trans hparts) (validateSeedCatalog_nodup hcatalog)
  refine ⟨?_, hbalanced.ordinals, hbalanced.product⟩
  rw [studyPlan, hsame, hdigest]
  exact hvalid

/-- The largest number that a block of a study can have, and one. -/
def kStudyNumbers : Nat := 24

theorem sampleBlockId_made : ∀ role ∈ [BlockRole.h3Train, .h3Validation], ∀ number < kStudyNumbers,
    (makeBlockId noNumbers firstBytes (named _ "platform") (named _ "build") role
      (.ofNat number)).toOption = some (sampleBlockId number) := by
  decide +kernel

theorem sampleBlockId_distinct : ((List.range kStudyNumbers).map sampleBlockId).Nodup := by
  decide +kernel

/-! ### Artifacts -/

/-- An artifact that has these bytes, under the digest of them. -/
def published (name : String) (number : Nat) (bytes : Text) : ImmutableArtifact where
  protocolVersion := .v200pre2
  reference := ⟨⟨label name number, label_ne_nil name number⟩, firstBytes bytes⟩
  bytes := bytes
  finalized := true

theorem published_verified (name : String) (number : Nat) (bytes : Text) :
    verifyArtifact firstBytes (published name number bytes) = true := by
  simp [verifyArtifact, published]

theorem published_isUtf8 (name : String) (number : Nat) (bytes : Text) (h : Plain (ascii name)) :
    IsUtf8 (published name number bytes).reference.artifactId.val :=
  @numbered_isUtf8 .seed name number h

section Lookups

variable {artifacts : List ImmutableArtifact} {artifact : ImmutableArtifact}

theorem findArtifact_mem (hids : (artifacts.map ImmutableArtifact.id).Nodup)
    (hmem : artifact ∈ artifacts) :
    findArtifact artifacts artifact.reference.artifactId.val = some artifact :=
  (Keyed.find_eq_some_iff hids).mpr ⟨hmem, rfl⟩

theorem resolves_mem (hids : (artifacts.map ImmutableArtifact.id).Nodup)
    (hmem : artifact ∈ artifacts) (hverified : verifyArtifact firstBytes artifact = true) :
    resolves firstBytes artifacts artifact.reference = true := by
  rw [resolves, findArtifact_mem hids hmem, Option.any_some, hverified, decide_eq_true rfl,
    Bool.and_true]

theorem holds_mem (hids : (artifacts.map ImmutableArtifact.id).Nodup)
    (hmem : artifact ∈ artifacts) (hverified : verifyArtifact firstBytes artifact = true) :
    holds firstBytes artifacts artifact.reference (.ok artifact.bytes) = true := by
  rw [holds, findArtifact_mem hids hmem, Option.any_some, hverified, decide_eq_true rfl,
    decide_eq_true rfl]
  rfl

end Lookups

/-- The artifact behind every reference that only has to lead somewhere. -/
def evidence : ImmutableArtifact := published "evidence" 0 []

/-! ### A block and its runs -/

/-- A block of a study: whether it is one of validation and whether it is active, and the latency
of its runs. -/
structure StudyBlock where
  number : Fin kStudyNumbers
  validation : Bool
  active : Bool
  latency : UInt64
  positive : latency ≠ 0

namespace StudyBlock

variable (block : StudyBlock)

def role : BlockRole := if block.validation then .h3Validation else .h3Train

def plan : BlockPlan := studyPlan block.role block.number

def input : BlockInput where
  plan := block.plan
  seedCatalog := studyCatalog block.role block.number
  planArtifact := evidence.reference
  activePrimary := block.active
  stage14CrossRecordValidationPassed := true
  replacementBudgetValidationPassed := true

variable (cell : StageACell)

/-- The number of a run, which is not that of a run of another block. -/
def runNumber : Nat := 180 * block.number + cell.cellOrdinal.toNat

def runId : RunId :=
  ⟨label "run" (block.runNumber cell), cons_ne_nil _ _⟩

def latencies : List WeightedLatency := [⟨block.latency, 200000⟩]

/-- The latencies of a run, as they are published. -/
def joined (cell : StageACell) : ImmutableArtifact :=
  published "joined" (block.runNumber cell)
    (written (canonicalSyntheticLatencyPayload noNumbers (block.runId cell) block.latencies))

/-- The run of a cell, under the digest of its manifest. -/
def runUnder (manifest : ArtifactReference) : SyntheticRunInput where
  protocolVersion := .v200pre2
  schemaVersion := kRunInputSchema
  runId := block.runId cell
  blockId := block.plan.blockId
  blockRole := block.role
  cellOrdinal := cell.cellOrdinal
  package := cell.package
  hardwareState := cell.requestedHardwareState
  placement := cell.placement
  workingSet := cell.workingSetClass
  load := cell.loadLevel
  validity := .valid
  offeredCount := 200000
  attemptedCount := 200000
  acceptedCount := 200000
  fullCount := 0
  consumedCount := 200000
  finalOccupancy := 0
  rawSampleCount := 200000
  nEffP999 := 200000
  measurementHorizonTicks := 1
  endToEndLatencies := block.latencies
  diagnostics := ⟨block.latencies, block.latencies, block.latencies, block.latencies,
    block.latencies, block.latencies, block.latencies⟩
  manifestArtifact := manifest
  joinedArtifact := (block.joined cell).reference
  joinAuditArtifact := evidence.reference
  failureArtifact := none
  rawReconciliation := none
  priorStage12ValidationPassed := true

/-- The manifest of a run; it names itself, but not its own digest. -/
def manifest (cell : StageACell) : ImmutableArtifact :=
  published "manifest" (block.runNumber cell)
    (written (canonicalSyntheticRun noNumbers (block.runUnder cell
      (published "manifest" (block.runNumber cell) []).reference)))

def run : SyntheticRunInput :=
  block.runUnder cell (block.manifest cell).reference

def runs : List SyntheticRunInput := block.plan.cells.map block.run

def artifacts : List ImmutableArtifact :=
  block.plan.cells.flatMap fun cell => [block.manifest cell, block.joined cell]

variable {block}

theorem role_studied : block.role = .h3Train ∨ block.role = .h3Validation := by
  rw [role]
  split
  · exact Or.inr rfl
  · exact Or.inl rfl

theorem made : makeBlockId noNumbers firstBytes (named _ "platform") (named _ "build") block.role
    (.ofNat block.number) = .ok (sampleBlockId block.number) :=
  Fallible.of_toOption (sampleBlockId_made block.role
    (by simpa using block.role_studied) block.number block.number.isLt)

theorem valid :
    validateBlockPlan noNumbers firstBytes block.plan (studyCatalog block.role block.number)
    sampleNamespaces = [] := (studyPlan_valid block.role_studied made).1

theorem ordinals : block.plan.cells.map (fun cell => cell.cellOrdinal.toNat) = List.range 180 :=
  (studyPlan_valid block.role_studied made).2.1

theorem product : (block.plan.cells.map StageACell.key).Perm expectedStageACells :=
  (studyPlan_valid block.role_studied made).2.2

theorem cells_length : block.plan.cells.length = 180 := by
  have h := congrArg List.length block.ordinals
  rwa [length_map, length_range] at h

/-- A run of a block names it. -/
theorem blockId_run {run : SyntheticRunInput} (hrun : run ∈ block.runs) :
    run.blockId = block.plan.blockId := by
  obtain ⟨cell, -, rfl⟩ := List.mem_map.mp hrun
  rfl

theorem runNumbers :
    block.plan.cells.map block.runNumber = (List.range 180).map (180 * block.number.val + ·) := by
  rw [← block.ordinals, map_map]
  rfl

/-- What is published of a run, as it was written. -/
theorem joined_ok : canonicalSyntheticLatencyPayload noNumbers (block.run cell).runId
      (block.run cell).endToEndLatencies = .ok (block.joined cell).bytes := by
  have hid : IsUtf8 (block.runId cell).value :=
    @numbered_isUtf8 .seed "run" (block.runNumber cell) (by decide)
  obtain ⟨bytes, hbytes⟩ := @canonicalLatencies_isOk noNumbers _ hid block.latencies
  have hwritten : (block.joined cell).bytes = bytes := by
    show written (canonicalSyntheticLatencyPayload noNumbers (block.runId cell) block.latencies) = _
    rw [hbytes, written]
  rw [hwritten]
  exact hbytes

theorem encoded : EncodedRun (block.run cell) where
  runId := @numbered_isUtf8 .seed "run" (block.runNumber cell) (by decide)
  blockId := sampleBlockId_isUtf8 _
  schema := (show Plain kRunInputSchema by decide).isUtf8
  manifest := published_isUtf8 "manifest" _ _ (by decide)
  joined := published_isUtf8 "joined" _ _ (by decide)
  audit := published_isUtf8 "evidence" _ _ (by decide)
  failure := by
    intro reference hreference
    cases hreference

/-- A run is written with the name of its manifest, and without its digest. -/
theorem canonical_under {manifest manifest' : ArtifactReference}
    (h : manifest.artifactId = manifest'.artifactId) :
    canonicalSyntheticRun noNumbers (block.runUnder cell manifest) =
      canonicalSyntheticRun noNumbers (block.runUnder cell manifest') := by
  simp only [canonicalSyntheticRun, runUnder, h]

theorem manifest_ok :
    canonicalSyntheticRun noNumbers (block.run cell) = .ok (block.manifest cell).bytes := by
  obtain ⟨bytes, hbytes⟩ := @EncodedRun.canonical noNumbers _ (block.encoded cell)
  have hdraft : canonicalSyntheticRun noNumbers (block.runUnder cell
      (published "manifest" (block.runNumber cell) []).reference) = .ok bytes := by
    rw [← hbytes]
    exact canonical_under cell rfl
  have hwritten : (block.manifest cell).bytes = bytes := by
    rw [manifest, published, hdraft, written]
  rw [hwritten, hbytes]

/-! ### The summary of a run -/

theorem added_count : checkedAdd 0 200000 = some 200000 := by decide

theorem latencies_sum : checkedSum block.latencies = some 200000 := by
  simp [checkedSum, latencies, added_count]

theorem latencies_quantile {numerator denominator rank : UInt64}
    (hrank : quantileRank 200000 numerator denominator = some rank)
    (hsound : numerator ≠ 0 ∧ denominator ≠ 0 ∧ numerator ≤ denominator)
    (hreached : rank ≤ 200000) :
    exactInverseEcdfQuantile block.latencies numerator denominator = .ok block.latency := by
  have hincreasing : increasing none block.latencies = true := rfl
  have hat : atRank rank 0 block.latencies = some block.latency := by
    rw [latencies, atRank, if_pos (by simpa using hreached)]
  have hrequest : ¬((block.latencies.isEmpty || numerator = 0 || denominator = 0 ||
      numerator > denominator) = true) := by
    simp [latencies, hsound, UInt64.not_lt.mpr hsound.2.2]
  rw [exactInverseEcdfQuantile, if_neg hrequest]
  simp only [block.latencies_sum, hincreasing, hrank, hat, Bool.not_true, Bool.false_eq_true,
    if_false]
  rfl

theorem latencies_registered : registeredQuantiles block.latencies =
    some (block.latency, block.latency, block.latency, block.latency) := by
  have hp50 := @latencies_quantile block 1 2 100000 (by decide) (by decide) (by decide)
  have hp90 := @latencies_quantile block 9 10 180000 (by decide) (by decide) (by decide)
  have hp99 := @latencies_quantile block 99 100 198000 (by decide) (by decide) (by decide)
  have hp999 := @latencies_quantile block 999 1000 199800 (by decide) (by decide) (by decide)
  rw [registeredQuantiles, hp50, hp90, hp99, hp999]

/-- A run whose artifacts are all there is summarized. -/
theorem run_summarized {artifacts : List ImmutableArtifact}
    (hids : (artifacts.map ImmutableArtifact.id).Nodup) (hevidence : evidence ∈ artifacts)
    (hmanifest : block.manifest cell ∈ artifacts) (hjoined : block.joined cell ∈ artifacts) :
    ∃ summary, summarizeRun noNumbers firstBytes flat (block.run cell) artifacts = .ok summary := by
  have hcounts : countGates (block.run cell) = true := by
    simp [countGates, run, runUnder, added_count]
  have hdiagnostics : diagnosticCounts (block.run cell) = true := by
    simp [diagnosticCounts, run, runUnder, latencies_sum]
  have hclean : runErrors noNumbers firstBytes (block.run cell) artifacts = [] := by
    have hheld := holds_mem hids hmanifest (published_verified _ _ _)
    have hlatencies := holds_mem hids hjoined (published_verified _ _ _)
    have haudit := resolves_mem hids hevidence (published_verified _ _ _)
    rw [← manifest_ok] at hheld
    rw [← joined_ok] at hlatencies
    have hvalid : (block.run cell).validity = .valid := rfl
    have hfailure : (block.run cell).failureArtifact = none := rfl
    have hraw : (block.run cell).rawReconciliation = none := rfl
    have hprior : (block.run cell).priorStage12ValidationPassed = true := rfl
    have hversion : (block.run cell).protocolVersion = .v200pre2 ∧
        (block.run cell).schemaVersion = kRunInputSchema := ⟨rfl, rfl⟩
    have hsum : checkedSum (block.run cell).endToEndLatencies =
        some (block.run cell).rawSampleCount := latencies_sum
    have hhorizon : (block.run cell).measurementHorizonTicks ≠ 0 := by
      show (1 : UInt64) ≠ 0
      decide
    have hfailures : failureErrors firstBytes (block.run cell) artifacts = [] := by
      rw [failureErrors, hvalid, if_neg (by decide), hfailure, require_eq_nil]
      rfl
    have hreconciled : reconciliationErrors (block.run cell) = [] := by
      rw [reconciliationErrors, hraw, hprior]
      rfl
    simp only [runErrors, evidenceErrors, hfailures, hreconciled, append_eq_nil_iff,
      require_eq_nil, hcounts, hdiagnostics, hsum, decide_true, hvalid, decide_eq_true_eq]
    refine ⟨⟨⟨⟨⟨⟨⟨⟨?_, ⟨hheld, hlatencies⟩, haudit⟩, trivial⟩, trivial⟩, trivial⟩, hhorizon⟩,
      trivial⟩, trivial⟩, by decide⟩
    rw [hversion.1, hversion.2]
    decide
  have hquantiles : registeredQuantiles (block.run cell).endToEndLatencies =
      some (block.latency, block.latency, block.latency, block.latency) := latencies_registered
  have hseries : summarizeDiagnostic block.latencies = some
      ⟨block.latency, block.latency, block.latency, block.latency, none, block.latency⟩ := by
    rw [summarizeDiagnostic, latencies_registered]
    rfl
  have hdiagnosed : ∃ series, diagnosticQuantiles (block.run cell).diagnostics = some series := by
    simp only [diagnosticQuantiles, run, runUnder, hseries, Option.bind_eq_bind, Option.bind_some,
      Option.some.injEq, exists_eq']
  have hhighest : highestQuantile (block.run cell) = .ok none := by
    rw [highestQuantile, if_neg]
    show ¬(200000 : UInt64) ≥ 2000000
    decide
  obtain ⟨series, hdiagnosed⟩ := hdiagnosed
  rw [summarizeRun, if_neg (not_not.mpr hclean)]
  simp only [hquantiles, hhighest, hdiagnosed, if_neg block.positive]
  exact ⟨_, rfl⟩

end StudyBlock

/-- The active blocks have the roles that the study was sized for. -/
theorem roleCountErrors_of_counts {F : Type} {arith : Binary64 F} {input : AnalysisInput F}
    {counts : ProspectiveCounts} (hcounts : precisionOf arith input = .ok counts)
    (htraining : activeRoleCount input.blocks .h3Train = counts.rtrain)
    (hvalidation : activeRoleCount input.blocks .h3Validation = counts.rval)
    (hsupplemental : activeRoleCount input.blocks .h1h2Supplemental =
      if counts.r12 > counts.rtrain + counts.rval then counts.r12 - (counts.rtrain + counts.rval)
      else 0) : roleCountErrors arith input = [] := by
  rw [roleCountErrors, hcounts]
  simp only [require_eq_nil, Bool.and_eq_true, decide_eq_true_eq]
  exact ⟨⟨htraining, hvalidation⟩, hsupplemental⟩

/-! ### Studies -/

/-- The blocks of a study.  Of the active ones, twelve are for training and eight for
validation. -/
structure Study where
  blocks : List StudyBlock
  distinct : (blocks.map StudyBlock.number).Nodup
  training : (blocks.countP fun block => block.active && !block.validation) = 12
  validation : (blocks.countP fun block => block.active && block.validation) = 8

/-- The narrow curve of a family, at the smallest count that it may have. -/
def studyCurve (kind : FamilyKind) : ProspectiveFamilyInput ℚ where
  family := kind
  sizingArtifact := evidence.reference
  candidates := [⟨familyMinimum kind, List.replicate (familyExpectedWidth kind) (1 / 4)⟩]

def studyPrecision : ProspectivePrecisionInput ℚ :=
  ⟨studyCurve .h1TwoSided, studyCurve .h2TwoSided, studyCurve .h3TrainingStandardError,
    studyCurve .h3ValidationOneSided⟩

/-- The configuration of a study, under the digest of what it is written as. -/
def configurationUnder (reference : ArtifactReference) : AnalysisConfiguration ℚ where
  protocolVersion := .v200pre2
  analysisProfile := kAnalysisProfile
  deltaStar := 1
  bootstrap :=
    { profile := kBootstrapProfile
      rngAlgorithmVersion := Workload.kDeterministicSuite
      seedId := numbered _ "seed" 0
      key := ⟨0, 0⟩
      replicates := 2 }
  precision := studyPrecision
  expectedCounts := ⟨20, 20, 20, 12, 8, 20, 3600⟩
  configurationArtifact := reference
  software := ⟨ascii "revision", ascii "compiler", ascii "library"⟩

def configured : ImmutableArtifact :=
  published "configuration" 0 (written (canonicalConfiguration noNumbers flat
    (configurationUnder (published "configuration" 0 []).reference)))

namespace Study

variable (study : Study)

def runs : List SyntheticRunInput := study.blocks.flatMap StudyBlock.runs

def artifacts : List ImmutableArtifact :=
  evidence :: configured :: study.blocks.flatMap StudyBlock.artifacts

variable {study}

theorem sampleBlockId_injective :
    Function.Injective fun number : Fin kStudyNumbers => sampleBlockId number := by
  intro number number' hsame
  exact Fin.ext (inj_on_of_nodup_map sampleBlockId_distinct (List.mem_range.mpr number.isLt)
    (List.mem_range.mpr number'.isLt) hsame)

theorem blockIds_nodup (study : Study) :
    (study.blocks.map fun block => block.plan.blockId).Nodup := by
  have hids : (study.blocks.map fun block => block.plan.blockId) =
      (study.blocks.map StudyBlock.number).map
        fun number : Fin kStudyNumbers => sampleBlockId number := by
    rw [map_map]
    rfl
  rw [hids]
  exact study.distinct.map sampleBlockId_injective

theorem planned_nodup (study : Study) :
    ((study.blocks.map StudyBlock.input).map fun block => block.plan.blockId).Nodup := by
  rw [map_map]
  exact study.blockIds_nodup

/-! ### Numbers of runs -/

/-- The numbers of the runs of a study are distinct. -/
theorem runNumbers_nodup (study : Study) :
    (study.blocks.flatMap fun block => block.plan.cells.map block.runNumber).Nodup := by
  have hnumbers : ∀ block : StudyBlock, block.plan.cells.map block.runNumber =
      (List.range 180).map (180 * block.number.val + ·) := fun block => block.runNumbers
  rw [flatMap_congr fun block _ => hnumbers block, nodup_flatMap]
  refine ⟨fun block _ => List.nodup_range.map fun _ _ h => Nat.add_left_cancel h, ?_⟩
  refine (List.pairwise_map.mp study.distinct).imp fun {first second} hne => ?_
  rw [Function.onFun, disjoint_iff_ne]
  rintro _ hfirst _ hsecond rfl
  obtain ⟨place, hplace, hsame⟩ := List.mem_map.mp hfirst
  obtain ⟨place', hplace', hsame'⟩ := List.mem_map.mp hsecond
  rw [mem_range] at hplace hplace'
  exact hne (Fin.ext (by omega))

theorem runIds_nodup (study : Study) : (study.runs.map SyntheticRunInput.runId).Nodup := by
  have hids : study.runs.map SyntheticRunInput.runId =
      (study.blocks.flatMap fun block => block.plan.cells.map block.runNumber).map
        fun number => (⟨label "run" number, label_ne_nil _ _⟩ : RunId) := by
    rw [runs, map_flatMap, map_flatMap]
    refine flatMap_congr fun block _ => ?_
    rw [StudyBlock.runs, map_map, map_map]
    rfl
  rw [hids]
  refine study.runNumbers_nodup.map fun number number' hsame => ?_
  exact (label_inj (by decide) (by decide) (congrArg RunId.value hsame)).2

theorem artifactIds_nodup (study : Study) : (study.artifacts.map ImmutableArtifact.id).Nodup := by
  have hids : study.artifacts.map ImmutableArtifact.id = label "evidence" 0 ::
      label "configuration" 0 :: (study.blocks.flatMap fun block =>
        block.plan.cells.map block.runNumber).flatMap fun number =>
          [label "manifest" number, label "joined" number] := by
    rw [artifacts, map_cons, map_cons, map_flatMap, flatMap_assoc]
    congr 2
    refine flatMap_congr fun block _ => ?_
    rw [StudyBlock.artifacts, map_flatMap, flatMap_map]
    rfl
  have hnumbers := study.runNumbers_nodup
  generalize (study.blocks.flatMap fun block =>
    block.plan.cells.map block.runNumber) = numbers at hids hnumbers
  rw [hids]
  simp only [nodup_cons, mem_cons, mem_flatMap, not_mem_nil, or_false, not_or,
    not_exists, not_and]
  refine ⟨⟨?_, fun number _ => ⟨?_, ?_⟩⟩, fun number _ => ⟨?_, ?_⟩, ?_⟩
  iterate 5 · exact label_ne (by decide) (by decide) (by decide)
  · rw [nodup_flatMap]
    refine ⟨fun number _ => ?_, hnumbers.imp fun {number number'} hne => ?_⟩
    · rw [nodup_cons, mem_singleton]
      exact ⟨label_ne (by decide) (by decide) (by decide), nodup_singleton _⟩
    · rw [Function.onFun, disjoint_iff_ne]
      intro first hfirst second hsecond hsame
      simp only [mem_cons, not_mem_nil, or_false] at hfirst hsecond
      rcases hfirst with rfl | rfl <;> rcases hsecond with rfl | rfl <;>
        exact hne (label_inj (by decide) (by decide) hsame).2

/-! ### Roles -/

theorem countP_active (study : Study) (validation : Bool) :
    study.blocks.countP (fun block => block.active && (block.validation == validation)) =
      if validation then 8 else 12 := by
  cases validation with
  | true =>
      rw [if_pos rfl, ← study.validation]
      exact countP_congr fun block _ => by simp
  | false =>
      rw [if_neg (by decide), ← study.training]
      exact countP_congr fun block _ => by simp

theorem role_eq_iff (block : StudyBlock) (validation : Bool) :
    block.role = (if validation then .h3Validation else .h3Train) ↔ block.validation =
      validation := by
  rw [StudyBlock.role]
  cases block.validation <;> cases validation <;> decide

/-- The number of active blocks of a role, in whatever is made of the blocks. -/
theorem countP_role (study : Study) (validation : Bool) :
    (study.blocks.countP fun block => block.active &&
      decide (block.role = if validation then .h3Validation else .h3Train)) =
      if validation then 8 else 12 := by
  rw [← study.countP_active validation]
  refine countP_congr fun block _ => ?_
  rw [Bool.and_eq_true, Bool.and_eq_true, decide_eq_true_eq, role_eq_iff, beq_iff_eq]

theorem countP_both (study : Study) : study.blocks.countP StudyBlock.active = 20 := by
  have hsplit : (study.blocks.filter StudyBlock.active).length = _ :=
    length_eq_countP_add_countP StudyBlock.validation
  rw [countP_filter, countP_filter, ← countP_eq_length_filter] at hsplit
  have hvalidation : study.blocks.countP (fun block => block.validation && block.active) = 8 := by
    rw [← study.validation]
    exact countP_congr fun block _ => by rw [Bool.and_comm]
  have htraining : study.blocks.countP (fun block => decide ¬block.validation = true &&
      block.active) = 12 := by
    rw [← study.training]
    exact countP_congr fun block _ => by simp [Bool.and_comm]
  rw [hsplit, hvalidation, htraining]

/-! ### The input -/

/-- The blocks a domain is granted for. -/
def grantedRole : OutcomeDomain → Option BlockRole
  | .h3Training => some .h3Train
  | .h3Validation => some .h3Validation
  | .h1h2 => none

theorem activeIds_nodup (study : Study) (role : Option BlockRole) :
    (activeIds (study.blocks.map StudyBlock.input) role).Nodup :=
  study.planned_nodup.sublist (List.Sublist.map _ filter_sublist)

theorem activeIds_length (study : Study) (domain : OutcomeDomain) :
    (activeIds (study.blocks.map StudyBlock.input) (grantedRole domain)).length =
      match domain with
      | .h3Training => 12
      | .h3Validation => 8
      | .h1h2 => 20 := by
  rw [activeIds, length_map, ← countP_eq_length_filter, countP_map]
  cases domain with
  | h3Training => exact study.countP_role false
  | h3Validation => exact study.countP_role true
  | h1h2 =>
      show study.blocks.countP _ = 20
      rw [← study.countP_both]
      exact countP_congr fun block _ => by simp [grantedRole, StudyBlock.input]

/-- Access to the outcomes of a domain, once everything is released. -/
def grant (study : Study) (domain : OutcomeDomain) : OutcomeAccessGrant where
  domain := domain
  state := .h1h2Released
  affectedBlockIds := activeIds (study.blocks.map StudyBlock.input) (grantedRole domain)
  accessRecord := evidence.reference
  granted := by cases domain <;> rfl
  distinct := study.activeIds_nodup _
  nonempty := by
    intro hempty
    have hlength := study.activeIds_length domain
    rw [hempty] at hlength
    cases domain <;> cases hlength

def input (study : Study) : AnalysisInput ℚ where
  namespaces := sampleNamespaces
  blocks := study.blocks.map StudyBlock.input
  runs := study.runs
  artifacts := study.artifacts
  configuration := configurationUnder configured.reference
  trainingAccess := study.grant .h3Training
  validationAccess := study.grant .h3Validation
  h1h2Access := study.grant .h1h2

theorem validateGrant_grant (study : Study) (domain : OutcomeDomain) :
    validateGrant firstBytes (study.grant domain) domain
      (activeIds (study.blocks.map StudyBlock.input) (grantedRole domain)) study.artifacts =
        [] := by
  have hids := study.activeIds_nodup (grantedRole domain)
  have hexact : exactIdSet (activeIds (study.blocks.map StudyBlock.input) (grantedRole domain))
      (activeIds (study.blocks.map StudyBlock.input) (grantedRole domain)) = true := by
    simp [exactIdSet, hids]
  have hresolved : resolves firstBytes study.artifacts evidence.reference = true :=
    resolves_mem study.artifactIds_nodup mem_cons_self (published_verified _ _ _)
  have hreached := (study.grant domain).granted
  simp only [validateGrant, append_eq_nil_iff, require_eq_nil, Bool.and_eq_true,
    decide_eq_true_eq]
  exact ⟨⟨⟨rfl, hreached⟩, hexact⟩, hresolved⟩

/-! ### The runs of a block -/

variable {block : StudyBlock}

theorem runsOf_block (study : Study) (hblock : block ∈ study.blocks) :
    runsOf study.runs block.plan.blockId = block.runs := by
  have hown : ∀ other : StudyBlock, other.runs.filter (fun run => run.blockId =
    block.plan.blockId) =
      if other.plan.blockId = block.plan.blockId then other.runs else [] := by
    intro other
    split
    · rename_i hsame
      exact List.filter_eq_self.mpr fun run hrun => decide_eq_true
        ((other.blockId_run hrun).trans hsame)
    · rename_i hne
      exact List.filter_eq_nil_iff.mpr fun run hrun => by
        rw [other.blockId_run hrun, decide_eq_true_eq]
        exact hne
  rw [runsOf, runs, filter_flatMap, flatMap_congr fun other _ => hown other,
    Keyed.flatMap_of_mem study.blockIds_nodup hblock fun other _ hne => if_neg hne, if_pos rfl]

/-- Every block has all its runs. -/
theorem completeRuns (study : Study) (hblock : block ∈ study.blocks) :
    CompleteRuns study.runs block.input := by
  have hruns : runsOf study.runs block.input.plan.blockId = block.runs :=
    study.runsOf_block hblock
  have hlength := block.cells_length
  have hplace : ∀ place (hplace : place < block.plan.cells.length),
      (block.plan.cells[place]).cellOrdinal.toNat = place := by
    intro place hplace
    have h := congrArg (·[place]?) block.ordinals
    simp only [getElem?_map, getElem?_eq_getElem hplace, Option.map_some,
      getElem?_range (hlength ▸ hplace), Option.some.injEq] at h
    exact h
  refine ⟨?_, ?_, ?_, fun original horiginal => ?_⟩
  · rw [hruns, StudyBlock.runs, length_map, hlength]
    rfl
  · rw [hruns]
    intro run hrun
    obtain ⟨cell, hcell, rfl⟩ := List.mem_map.mp hrun
    obtain ⟨place, hlt, rfl⟩ := getElem_of_mem hcell
    refine ⟨rfl, rfl, block.plan.cells[place], ?_, rfl, rfl⟩
    show block.plan.cells[(block.plan.cells[place]).cellOrdinal.toNat]? = _
    rw [hplace place hlt, getElem?_eq_getElem hlt]
  · rw [hruns, StudyBlock.runs, map_map]
    have hordinals : (block.plan.cells.map fun cell => cell.cellOrdinal.toNat).Nodup := by
      rw [block.ordinals]
      exact nodup_range
    exact List.Nodup.of_map UInt64.toNat (by rwa [map_map])
  · cases horiginal

/-! ### The configuration -/

set_option maxRecDepth 4000 in
theorem studyPrecision_counts :
    evaluateProspectivePrecision flat studyPrecision 1 = .ok ⟨20, 20, 20, 12, 8, 20, 3600⟩ :=
  Fallible.of_toOption (by decide +kernel)

theorem precisionOf_input (study : Study) :
    precisionOf flat study.input = .ok ⟨20, 20, 20, 12, 8, 20, 3600⟩ := studyPrecision_counts

theorem configuration_encoded (reference : ArtifactReference)
    (hreference : IsUtf8 reference.artifactId.val) :
    EncodedConfiguration (configurationUnder reference) where
  analysisProfile := (show Plain kAnalysisProfile by decide).isUtf8
  bootstrapProfile := (show Plain kBootstrapProfile by decide).isUtf8
  algorithm := (show Plain Workload.kDeterministicSuite by decide).isUtf8
  seed := numbered_isUtf8 0 (by decide)
  artifact := hreference
  compiler := (show Plain (ascii "compiler") by decide).isUtf8
  revision := (show Plain (ascii "revision") by decide).isUtf8
  library := (show Plain (ascii "library") by decide).isUtf8
  sizing := by
    have hsizing : IsUtf8 evidence.reference.artifactId.val :=
      published_isUtf8 "evidence" _ _ (by decide)
    intro family hfamily
    have hcurve : ∃ kind, family = studyCurve kind := by
      simp only [configurationUnder, studyPrecision, ProspectivePrecisionInput.families,
        mem_cons, not_mem_nil, or_false] at hfamily
      rcases hfamily with rfl | rfl | rfl | rfl <;> exact ⟨_, rfl⟩
    obtain ⟨kind, rfl⟩ := hcurve
    exact hsizing

theorem configured_ok : canonicalConfiguration noNumbers flat
    (configurationUnder configured.reference) = .ok configured.bytes := by
  have hutf8 : IsUtf8 configured.reference.artifactId.val :=
    published_isUtf8 "configuration" _ _ (by decide)
  obtain ⟨bytes, hbytes⟩ := @EncodedConfiguration.canonical _ noNumbers flat _
    (configuration_encoded configured.reference hutf8)
  have hdraft : canonicalConfiguration noNumbers flat
      (configurationUnder (published "configuration" 0 []).reference) = .ok bytes := by
    rw [← hbytes]
    simp only [canonicalConfiguration, configurationUnder]
    rfl
  have hwritten : configured.bytes = bytes := by
    rw [configured, published, hdraft, written]
  rw [hwritten, hbytes]

/-! ### The design -/

/-- No pivot is too small, so every column counts. -/
theorem eliminateColumn_flat {rank : Nat} {matrix : List (List ℚ)} (hrank : rank < matrix.length)
    (column : Nat) :
    (eliminateColumn flat (rank, matrix) column).1 = rank + 1 ∧
      (eliminateColumn flat (rank, matrix) column).2.length = matrix.length := by
  have hpivot : ∀ value : ℚ, flat.less (flat.abs value) flat.tiny = false := fun value =>
    decide_eq_false (not_lt.mpr (abs_nonneg value))
  rw [eliminateColumn, if_neg (by omega)]
  simp only [hpivot, Bool.false_eq_true, if_false]
  simp [swapRows]

theorem foldl_eliminateColumn {columns : List Nat} {rank : Nat} {matrix : List (List ℚ)}
    (h : rank + columns.length ≤ matrix.length) :
    (columns.foldl (eliminateColumn flat) (rank, matrix)).1 = rank + columns.length := by
  induction columns generalizing rank matrix with
  | nil => rfl
  | cons column rest ih =>
      rw [length_cons] at h
      obtain ⟨hrank, hlength⟩ := @eliminateColumn_flat rank matrix (by omega) column
      rw [foldl_cons, ← Prod.mk.eta (p := eliminateColumn flat (rank, matrix) column), hrank,
        ih (by omega), length_cons]
      omega

theorem stageADesignRank_flat : stageADesignRank flat = 40 := by
  have hlength : (expectedStageACells.map (designRow flat)).length = 180 := by
    rw [length_map]
    rfl
  have hwidth : ((expectedStageACells.map (designRow flat)).headD []).length = 40 := rfl
  rw [stageADesignRank, hwidth, foldl_eliminateColumn (by simp [hlength]), length_range,
    Nat.zero_add]

/-! ### The study is analyzed -/

theorem evidence_mem (study : Study) : evidence ∈ study.artifacts := mem_cons_self

theorem configured_mem (study : Study) : configured ∈ study.artifacts :=
  mem_cons_of_mem _ mem_cons_self

theorem published_mem (study : Study) (hblock : block ∈ study.blocks) {cell : StageACell}
    (hcell : cell ∈ block.plan.cells) :
    block.manifest cell ∈ study.artifacts ∧ block.joined cell ∈ study.artifacts := by
  have hmem : ∀ artifact ∈ [block.manifest cell, block.joined cell],
    artifact ∈ study.artifacts := by
    intro artifact hartifact
    exact mem_cons_of_mem _ (mem_cons_of_mem _ (List.mem_flatMap.mpr
      ⟨block, hblock, List.mem_flatMap.mpr ⟨cell, hcell, hartifact⟩⟩))
  exact ⟨hmem _ (by simp), hmem _ (by simp)⟩

/-- Every artifact of a study is published. -/
theorem exists_published (study : Study) {artifact : ImmutableArtifact}
    (h : artifact ∈ study.artifacts) :
    ∃ name number bytes, Plain (ascii name) ∧ artifact = published name number bytes := by
  rcases List.mem_cons.mp h with rfl | h
  · exact ⟨"evidence", _, _, by decide, rfl⟩
  rcases List.mem_cons.mp h with rfl | h
  · exact ⟨"configuration", _, _, by decide, rfl⟩
  obtain ⟨block, -, h⟩ := List.mem_flatMap.mp h
  obtain ⟨cell, -, h⟩ := List.mem_flatMap.mp h
  simp only [mem_cons, not_mem_nil, or_false] at h
  rcases h with rfl | rfl
  · exact ⟨"manifest", _, _, by decide, rfl⟩
  · exact ⟨"joined", _, _, by decide, rfl⟩

theorem replaces_none (study : Study) : ∀ block ∈ study.input.blocks, block.replaces = none := by
  intro block hblock
  obtain ⟨_, -, rfl⟩ := List.mem_map.mp hblock
  rfl

theorem blocks_ne_nil (study : Study) : study.blocks ≠ [] := by
  intro hempty
  have hcount := study.countP_both
  rw [hempty] at hcount
  cases hcount

/-- Every block is of the one platform and the one build. -/
theorem platformErrors_input (study : Study) : platformErrors study.input.blocks = [] := by
  have hconstant : ∀ {T : Type} [DecidableEq T] (part : BlockInput → T) (value : T),
      (∀ block : StudyBlock, part block.input = value) →
        (study.input.blocks.map part).dedup.length = 1 := by
    intro T _ part value hvalue
    have hparts : study.input.blocks.map part = List.replicate study.blocks.length value := by
      rw [← map_const', input, map_map]
      exact map_congr_left fun block _ => hvalue block
    rw [hparts, replicate_dedup (mt List.length_eq_zero_iff.mp study.blocks_ne_nil)]
    rfl
  rw [platformErrors, require_eq_nil, Bool.and_eq_true, decide_eq_true_eq, decide_eq_true_eq]
  exact ⟨hconstant _ (named _ "platform") fun _ => rfl, hconstant _ (named _ "build") fun _ => rfl⟩

theorem roleCountErrors_input (study : Study) : roleCountErrors flat study.input = [] := by
  have hcount : ∀ role, activeRoleCount study.input.blocks role = .ofNat
      (study.blocks.countP fun block => block.active && decide (block.role = role)) := by
    intro role
    rw [activeRoleCount, input, countP_map]
    rfl
  refine roleCountErrors_of_counts study.precisionOf_input ?_ ?_ ?_
  · have htraining := study.countP_role false
    simp only [Bool.false_eq_true, if_false] at htraining
    rw [hcount, htraining]
    rfl
  · have hvalidation := study.countP_role true
    simp only [if_true] at hvalidation
    rw [hcount, hvalidation]
    rfl
  · have hsupplemental : (study.blocks.countP fun block =>
        block.active && decide (block.role = .h1h2Supplemental)) = 0 := by
      rw [countP_eq_zero]
      intro block _
      rcases block.role_studied with hrole | hrole <;> simp [hrole]
    rw [hcount, hsupplemental]
    rfl

theorem admitted (study : Study) : Admitted noNumbers firstBytes flat study.input where
  configured := by
    rw [configurationErrors, require_eq_nil]
    simp [input, configurationUnder]
    decide
  artifacts := by
    intro artifact hartifact
    obtain ⟨name, number, bytes, -, rfl⟩ := study.exists_published hartifact
    exact ⟨rfl, published_verified _ _ _⟩
  artifactIds := study.artifactIds_nodup
  bound := by
    have hfound : findArtifact study.input.artifacts
        (configurationUnder configured.reference).configurationArtifact.artifactId.val =
          some configured := findArtifact_mem study.artifactIds_nodup study.configured_mem
    have hconfiguration : study.input.configuration = configurationUnder configured.reference := rfl
    rw [configurationBound, hconfiguration, configured_ok]
    simp only [hfound, Option.any_some]
    simp [configurationUnder]
  counted := by
    rw [precisionErrors, precisionOf_input, require_eq_nil]
    rfl
  sized := by
    rw [sizingErrors, flatMap_eq_nil_iff]
    intro family hfamily
    have hevidence : family.sizingArtifact = evidence.reference := by
      simp only [input, configurationUnder, studyPrecision, ProspectivePrecisionInput.families,
        mem_cons, not_mem_nil, or_false] at hfamily
      rcases hfamily with rfl | rfl | rfl | rfl <;> rfl
    rw [require_eq_nil, hevidence]
    exact resolves_mem study.artifactIds_nodup study.evidence_mem (published_verified _ _ _)
  design := by
    rw [designErrors, stageADesignRank_flat, require_eq_nil]
    rfl
  vetted := by
    intro block hblock
    obtain ⟨block, hmem, rfl⟩ := List.mem_map.mp hblock
    exact ⟨rfl, block.valid, resolves_mem study.artifactIds_nodup study.evidence_mem
      (published_verified _ _ _), fun _ => rfl⟩
  blockIds := study.planned_nodup
  replacedIds := by
    rw [List.filterMap_eq_nil_iff.mpr study.replaces_none]
    exact nodup_nil
  platform := study.platformErrors_input
  lineal := by
    intro block hblock original horiginal
    rw [study.replaces_none block hblock] at horiginal
    cases horiginal
  roles := study.roleCountErrors_input
  granted := by
    rw [grantErrors, append_eq_nil_iff, append_eq_nil_iff]
    exact ⟨⟨study.validateGrant_grant .h3Training, study.validateGrant_grant .h3Validation⟩,
      study.validateGrant_grant .h1h2⟩
  runIds := study.runIds_nodup
  complete := by
    intro block hblock
    obtain ⟨block, hmem, rfl⟩ := List.mem_map.mp hblock
    exact study.completeRuns hmem

theorem exists_run (study : Study) {run : SyntheticRunInput} (hrun : run ∈ study.input.runs) :
    ∃ block ∈ study.blocks, ∃ cell ∈ block.plan.cells, block.run cell = run := by
  obtain ⟨block, hblock, hrun⟩ := List.mem_flatMap.mp hrun
  exact ⟨block, hblock, List.mem_map.mp hrun⟩

/-! ### The study succeeds -/

/-- Every run of a study is summarized. -/
theorem summarized (study : Study) : ∃ summaries, summarizeRuns noNumbers firstBytes flat
    study.input.artifacts study.input.runs = .ok summaries := by
  have heach : ∀ run ∈ study.runs, ∃ summary,
      summarizeRun noNumbers firstBytes flat run study.artifacts = .ok summary := by
    intro run hrun
    obtain ⟨block, hblock, cell, hcell, rfl⟩ := study.exists_run hrun
    obtain ⟨hmanifest, hjoined⟩ := study.published_mem hblock hcell
    exact block.run_summarized cell study.artifactIds_nodup study.evidence_mem hmanifest hjoined
  obtain ⟨summaries, hsummaries⟩ := forall₂_iff_exists.mpr heach
  exact ⟨summaries, summarizeRuns_ok.mpr hsummaries⟩

/-- What the blocks of a study respond. -/
def responses (study : Study) : List (CompleteBlockResponse ℚ) :=
  (study.blocks.filter StudyBlock.active).map fun block => blockResponse flat study.runs block.input

theorem responses_eq (study : Study) : (study.input.blocks.filter BlockInput.activePrimary).map
    (blockResponse flat study.input.runs) = study.responses := by
  rw [responses, input, filter_map, map_map]
  rfl

theorem response_flat (study : Study) (hblock : block ∈ study.blocks) :
    FlatBlock (blockResponse flat study.runs block.input) := by
  have hruns : runsOf study.runs block.input.plan.blockId = block.runs := study.runsOf_block hblock
  refine ⟨?_, ?_⟩
  · rw [blockResponse, hruns, StudyBlock.runs, map_map, map_map]
    exact block.product
  · intro cell hcell
    obtain ⟨run, -, rfl⟩ := List.mem_map.mp hcell
    rfl

theorem responses_role (study : Study) (validation : Bool) :
    (blocksWithRole study.responses (if validation then .h3Validation else .h3Train)).length =
      if validation then 8 else 12 := by
  rw [← study.countP_role validation, blocksWithRole, ← countP_eq_length_filter, responses,
    countP_map, countP_filter]
  refine countP_congr fun block _ => ?_
  rw [Function.comp_apply, Bool.and_comm]
  rfl

theorem responses_length (study : Study) : study.responses.length = 20 := by
  rw [responses, length_map, ← countP_eq_length_filter, study.countP_both]

/-- Some training run is at half load. -/
theorem sources_ne_nil (study : Study) : trainingSourcesOf
    ((blocksWithRole study.responses .h3Train).map CompleteBlockResponse.blockId) study.runs ≠
    [] := by
  have hlength := study.responses_role false
  obtain ⟨response, hresponse⟩ := exists_mem_of_length_pos
    (l := blocksWithRole study.responses .h3Train) (by simp at hlength; omega)
  obtain ⟨hmem, hrole⟩ := List.mem_filter.mp hresponse
  obtain ⟨block, hblock, rfl⟩ := List.mem_map.mp hmem
  have hhalf : ∃ key ∈ expectedStageACells, key.2.2.2.2 = .l050 := by decide
  obtain ⟨key, hkey, hload⟩ := hhalf
  obtain ⟨cell, hcell, rfl⟩ := List.mem_map.mp (block.product.mem_iff.mpr hkey)
  refine ne_nil_of_mem (mem_map_of_mem (a := block.run cell) (List.mem_filter.mpr
    ⟨List.mem_flatMap.mpr ⟨block, (List.mem_filter.mp hblock).1, mem_map_of_mem hcell⟩, ?_⟩))
  simp only [Bool.and_eq_true, decide_eq_true_eq]
  exact ⟨⟨of_decide_eq_true hrole, hload⟩, mem_map_of_mem hresponse⟩

theorem bootstrap_drawable (reference : Protocol.Load.ArtifactReference) :
    Drawable (configurationUnder reference).bootstrap 20 ∧
      Drawable (configurationUnder reference).bootstrap 8 := by
  have htwo : (configurationUnder reference).bootstrap.replicates = 2 := rfl
  refine ⟨⟨by decide, by rw [htwo]; decide, rfl, rfl, by rw [htwo]; decide, ?_⟩,
    ⟨by decide, by rw [htwo]; decide, rfl, rfl, by rw [htwo]; decide, ?_⟩⟩
  · show DrawsAccepted ⟨0, 0⟩ 20 40
    decide +kernel
  · show DrawsAccepted ⟨0, 0⟩ 8 16
    decide +kernel

theorem inferable (study : Study) : Inferable study.input study.responses where
  flat := by
    intro response hresponse
    obtain ⟨block, hblock, rfl⟩ := List.mem_map.mp hresponse
    exact study.response_flat (List.mem_filter.mp hblock).1
  training := (study.responses_role false).ge
  validation := (study.responses_role true).ge
  delta := rfl
  sources := study.sources_ne_nil
  encoded := by
    intro run hrun
    obtain ⟨block, -, cell, -, rfl⟩ := study.exists_run hrun
    exact (block.encoded cell).joined
  families := by
    rw [study.responses_length]
    exact (bootstrap_drawable _).1
  evaluation := by
    have hlength := study.responses_role true
    simp only [if_true] at hlength
    rw [hlength]
    exact (bootstrap_drawable _).2

/-- No run of a study is invalid, or short of what the gates ask for. -/
theorem gates (study : Study) :
    incompleteBlock study.input = false ∧ gateBlocked study.input = false := by
  have hall : ∀ (p : SyntheticRunInput → Bool) (id : BlockId),
      (∀ (block : StudyBlock) (cell : StageACell), p (block.run cell) = false) →
        (runsOf study.input.runs id).any p = false := by
    intro p id hp
    rw [any_eq_false]
    intro run hrun
    obtain ⟨block, -, cell, -, rfl⟩ := study.exists_run (mem_of_mem_filter hrun)
    rw [hp block cell]
    exact Bool.false_ne_true
  constructor
  · rw [incompleteBlock, any_eq_false]
    intro block _
    rw [hall invalidRun block.plan.blockId fun _ _ => rfl, Bool.and_false]
    exact Bool.false_ne_true
  · rw [gateBlocked, any_eq_false]
    intro block _
    rw [hall gateFailed block.plan.blockId fun _ _ => rfl, Bool.and_false]
    exact Bool.false_ne_true

/-- **A study whose responses do not differ is analyzed, and a selection is made.** -/
theorem analyzed (study : Study) : ∃ output,
    runSyntheticAnalysis noNumbers firstBytes flat study.input = .ok output ∧
      output.selection.isSome = true := by
  have hclean : inputErrors noNumbers firstBytes flat study.input = [] :=
    inputErrors_eq_nil.mpr study.admitted
  obtain ⟨summaries, hsummaries⟩ := study.summarized
  obtain ⟨hcomplete, hpassed⟩ := study.gates
  have hblocks : primaryBlocks flat summaries study.input.runs study.input.blocks =
    study.responses :=
    (primaryBlocks_eq study.runIds_nodup hsummaries).trans study.responses_eq
  obtain ⟨results, hresults, hplain, hselected⟩ :=
    @inferences_flat _ noNumbers firstBytes _ study.inferable
  obtain ⟨output, houtput, hselection⟩ := @reportAnalysis_isOk _ noNumbers flat firstBytes
    study.input summaries study.responses _
    (configuration_encoded _ (published_isUtf8 _ _ _ (by decide)))
    (fun artifact hartifact => by
      obtain ⟨name, number, bytes, hname, rfl⟩ := study.exists_published hartifact
      exact published_isUtf8 name number bytes hname) hplain
  refine ⟨output, ?_, hselection ▸ hselected⟩
  rw [runSyntheticAnalysis, hclean]
  simp only [ne_eq, not_true_eq_false, if_false, hsummaries]
  simp only [analyzeSummaries, hcomplete, hblocks, resultsOf, hpassed, Bool.false_eq_true, if_false,
    hresults, Fallible.ok_bind, houtput]
  rfl

theorem runs_length (study : Study) :
    study.input.runs.length = 180 * study.input.blocks.length := by
  have heach : ∀ block ∈ study.blocks, block.runs.length = 180 := by
    intro block _
    rw [StudyBlock.runs, length_map, block.cells_length]
  rw [input, runs, length_flatMap, map_congr_left heach, map_const',
    sum_replicate, smul_eq_mul, Nat.mul_comm, length_map]

/-! ### Two studies -/

/-- Twenty active blocks: twelve for training, of latency one, and eight for validation. -/
def sample (latency : UInt64) (h : latency ≠ 0) : Study where
  blocks := ((List.finRange kStudyNumbers).take 20).map fun number =>
    ⟨number, 12 ≤ number.val, true, if 12 ≤ number.val then latency else 1, by
      split
      · exact h
      · decide⟩
  distinct := by
    have hsame : (StudyBlock.number ∘ fun number : Fin kStudyNumbers => StudyBlock.mk number
        (12 ≤ number.val) true (if 12 ≤ number.val then latency else 1) (by
          split
          · exact h
          · decide)) = id := rfl
    rw [map_map, hsame, map_id]
    exact (nodup_finRange _).sublist (take_sublist _ _)
  training := by
    rw [countP_map]
    exact show ((List.finRange kStudyNumbers).take 20).countP
      (fun number => true && !decide (12 ≤ number.val)) = 12 by decide
  validation := by
    rw [countP_map]
    exact show ((List.finRange kStudyNumbers).take 20).countP
      (fun number => true && decide (12 ≤ number.val)) = 8 by decide

theorem sample_numbers (latency : UInt64) (h : latency ≠ 0) :
    (sample latency h).blocks.map StudyBlock.number = (List.finRange kStudyNumbers).take 20 := by
  rw [sample, map_map]
  exact map_id _

/-- An inactive block, which none replaces. -/
def forgottenBlock : StudyBlock := ⟨⟨23, by decide⟩, false, false, 1, by decide⟩

def forgotten : Study where
  blocks := forgottenBlock :: (sample 1 (by decide)).blocks
  distinct := by
    rw [map_cons, sample_numbers]
    exact show (⟨23, by decide⟩ :: (List.finRange kStudyNumbers).take 20).Nodup by decide
  training := by
    rw [countP_cons_of_neg (by decide), (sample 1 (by decide)).training]
  validation := by
    rw [countP_cons_of_neg (by decide), (sample 1 (by decide)).validation]

end Study

end CpuPrefetch.Analysis
