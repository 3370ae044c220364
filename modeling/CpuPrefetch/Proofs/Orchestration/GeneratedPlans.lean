/-
A generated plan is read back as it was planned.

The generator writes a document, loads it, and validates what it loaded.  The document has
every field the loader asks for, so the plan that comes back is the one that was put
together, and what was planned passes the validator.
-/
import CpuPrefetch.Proofs.Orchestration.PlannedBlocks
import CpuPrefetch.Proofs.Protocol.Written
import CpuPrefetch.Proofs.Workload.Permutations

namespace CpuPrefetch.Orchestration

open List Workload
open Protocol
open Protocol.Json (CharConv HasForm IsUtf8 Object Value)
open Protocol.Load

/-! ### A cell -/

theorem cellKeys_nodup (cell : StageACell) : ((cellMembers cell).map Prod.fst).Nodup := by
  show ([ascii "arrival_seed_ref", ascii "cell_ordinal", ascii "event_seed_ref", ascii "load_level",
    ascii "node_seed_ref", ascii "package", ascii "placement", ascii "requested_hardware_state",
    ascii "working_set_class"] : List Text).Nodup
  decide

theorem find_cell (cell : StageACell) {key : Text} {value : Value} (place : Nat)
    (h : (cellMembers cell)[place]? = some (key, value)) :
    Object.find key (Object.of (cellMembers cell)) = some value :=
  Json.find_at (cellKeys_nodup cell) place h

theorem packageName_read : ∀ package ∈ packages, ascii (packageName package) ≠ [] ∧
    (queuePackages.find? fun entry => ascii entry.1 = ascii (packageName package)).map Prod.snd =
      some package := by
  decide

theorem hardwareName_read : ∀ state ∈ states, ascii (hardwareName state) ≠ [] ∧
    (requestedHardwareStates.find? fun entry => ascii entry.1 = ascii (hardwareName state)).map
      Prod.snd = some state := by
  decide

theorem placementName_read : ∀ placement ∈ stageAPlacements, ascii (placementName placement) ≠ [] ∧
    (placements.find? fun entry => ascii entry.1 = ascii (placementName placement)).map Prod.snd =
      some placement := by
  decide

theorem workingSetName_read : ∀ workingSet ∈ stageAWorkingSets,
    ascii (workingSetName workingSet) ≠ [] ∧
    (workingSetClasses.find? fun entry => ascii entry.1 = ascii (workingSetName workingSet)).map
      Prod.snd = some workingSet := by
  decide

theorem loadName_read : ∀ load ∈ stageALoads, ascii (loadName load) ≠ [] ∧
    (loadLevels.find? fun entry => ascii entry.1 = ascii (loadName load)).map Prod.snd =
      some load := by
  decide

theorem roleName_read : ∀ role : BlockRole, role ≠ .notApplicable → ascii (roleName role) ≠ [] ∧
    (blockRoles.find? fun entry => ascii entry.1 = ascii (roleName role)).map Prod.snd =
      some role := by
  intro role hrole
  cases role with
  | notApplicable => exact absurd rfl hrole
  | h3Train => decide
  | h3Validation => decide
  | h1h2Supplemental => decide

variable {cell : StageACell}

theorem registered_levels (h : cell.key ∈ expectedStageACells) :
    cell.package ∈ packages ∧ cell.requestedHardwareState ∈ states ∧
      cell.placement ∈ stageAPlacements ∧ cell.workingSetClass ∈ stageAWorkingSets ∧
      cell.loadLevel ∈ stageALoads := by
  obtain ⟨state, hstate, levels, hlevels, hkey⟩ := mem_expectedStageACells.mp h
  obtain ⟨hpackage, hplacement, hworkingSet, hload⟩ := mem_withinPlotBase.mp hlevels
  obtain ⟨hfirst, rfl, hrest⟩ : levels.1 = cell.package ∧ state = cell.requestedHardwareState ∧
      levels.2 = (cell.placement, cell.workingSetClass, cell.loadLevel) := by
    simpa [underState, StageACell.key] using hkey
  rw [hfirst] at hpackage
  rw [hrest] at hplacement hworkingSet hload
  exact ⟨hpackage, hstate, hplacement, hworkingSet, hload⟩

/-- A cell of the registered product is read back from its document. -/
theorem stageACell_cellDocument (h : cell.key ∈ expectedStageACells) (path : String) :
    stageACell (cellDocument cell) path = .ok cell := by
  obtain ⟨hpackage, hstate, hplacement, hworkingSet, hload⟩ := registered_levels h
  have hnode : optionalNullableId .seed (Object.of (cellMembers cell)) "node_seed_ref" path =
      .ok cell.nodeSeedRef := by
    cases hseed : cell.nodeSeedRef with
    | none =>
        refine optionalNullableId_null (find_cell cell 4 ?_)
        rw [cellMembers, hseed]
        rfl
    | some seed =>
        refine optionalNullableId_of (find_cell cell 4 ?_)
        rw [cellMembers, hseed]
        rfl
  have hreject : rejectUnknown (Object.of (cellMembers cell))
      ["cell_ordinal", "package", "requested_hardware_state", "placement", "working_set_class",
        "load_level", "arrival_seed_ref", "node_seed_ref", "event_seed_ref"] path = .ok () := by
    refine rejectUnknown_of (cellKeys_nodup cell) ?_
    show ∀ key ∈ ([ascii "arrival_seed_ref", ascii "cell_ordinal", ascii "event_seed_ref",
      ascii "load_level", ascii "node_seed_ref", ascii "package", ascii "placement",
      ascii "requested_hardware_state", ascii "working_set_class"] : List Text), _
    decide
  obtain ⟨hpackageNe, hpackageRead⟩ := packageName_read _ hpackage
  obtain ⟨hstateNe, hstateRead⟩ := hardwareName_read _ hstate
  obtain ⟨hplacementNe, hplacementRead⟩ := placementName_read _ hplacement
  obtain ⟨hworkingSetNe, hworkingSetRead⟩ := workingSetName_read _ hworkingSet
  obtain ⟨hloadNe, hloadRead⟩ := loadName_read _ hload
  have hdocument : cellDocument cell = .object (Object.of (cellMembers cell)) := rfl
  simp only [stageACell, hdocument, objectOf, bind, Except.bind, hreject,
    uintField_of (find_cell cell 1 rfl),
    enumField_of (find_cell cell 5 rfl) hpackageNe hpackageRead,
    enumField_of (find_cell cell 7 rfl) hstateNe hstateRead,
    enumField_of (find_cell cell 6 rfl) hplacementNe hplacementRead,
    enumField_of (find_cell cell 8 rfl) hworkingSetNe hworkingSetRead,
    enumField_of (find_cell cell 3 rfl) hloadNe hloadRead,
    identifierField_of (find_cell cell 0 rfl), identifierField_of (find_cell cell 2 rfl), hnode]

/-! ### A replacement's lineage -/

def lineageMembers (replacement : ReplacementPlanInput) : List (Text × Value) :=
  [(ascii "replaced_block_ordinal", uintValue replacement.replacedBlockOrdinal),
    (ascii "replaced_block_role", stringValue (roleName replacement.replacedBlockRole)),
    (ascii "replaced_seed_subspace_id", .string replacement.replacedSeedSubspaceId.value)]

theorem lineageOf_lineageDocument {replacement : ReplacementPlanInput}
    (hrole : replacement.replacedBlockRole ≠ .notApplicable) :
    lineageOf (lineageDocument replacement) =
      .ok ⟨replacement.replacedBlockOrdinal, replacement.replacedBlockRole,
        replacement.replacedSeedSubspaceId⟩ := by
  have hkeys : ((lineageMembers replacement).map Prod.fst).Nodup := by
    show ([ascii "replaced_block_ordinal", ascii "replaced_block_role",
      ascii "replaced_seed_subspace_id"] : List Text).Nodup
    decide
  have hreject : rejectUnknown (Object.of (lineageMembers replacement))
      ["replaced_block_ordinal", "replaced_block_role", "replaced_seed_subspace_id"]
      "$out/replacement_lineage" = .ok () := by
    refine rejectUnknown_of hkeys ?_
    show ∀ key ∈ ([ascii "replaced_block_ordinal", ascii "replaced_block_role",
      ascii "replaced_seed_subspace_id"] : List Text), _
    decide
  obtain ⟨hroleNe, hroleRead⟩ := roleName_read _ hrole
  have hdocument : lineageDocument replacement = .object (Object.of (lineageMembers replacement)) :=
    rfl
  simp only [lineageOf, hdocument, objectOf, bind, Except.bind, hreject,
    uintField_of (Json.find_at hkeys 0 rfl),
    enumField_of (Json.find_at hkeys 1 rfl) hroleNe hroleRead,
    identifierField_of (Json.find_at hkeys 2 rfl)]

/-! ### The plan -/

/-- The plan that a document of the generator describes. -/
def planOf (input : BlockGenerationInput) (blockId : BlockId)
    (plots : RequestedHardwareState × RequestedHardwareState) (cells : List StageACell)
    (digest : Sha256) : BlockPlan where
  schemaVersion := .v200pre2
  protocolVersion := .v200pre2
  blockId := blockId
  platformId := input.platformId
  buildId := input.buildId
  stage := .stageA
  blockRole := input.role
  blockOrdinal := input.blockOrdinal
  seedSubspaceId := input.seeds.blockSubspaceId
  replacesBlockId := input.replacement.map ReplacementPlanInput.replacedBlockId
  replacementAuthorizationId :=
    input.replacement.map ReplacementPlanInput.replacementAuthorizationId
  replacementLineage := input.replacement.map fun replacement =>
    ⟨replacement.replacedBlockOrdinal, replacement.replacedBlockRole,
      replacement.replacedSeedSubspaceId⟩
  wholePlotOrder := plots
  cells := cells
  accessState := .planned
  planSha256 := digest
  sourceDocument := blockDocument input blockId plots cells digest.hex

variable {digest : Sha256}

section Plan

variable (input : BlockGenerationInput) (blockId : BlockId)
  (plots : RequestedHardwareState × RequestedHardwareState) (cells : List StageACell)
  (planHash : Text)

def blockKeys : List Text :=
  ["access_state", "block_id", "block_ordinal", "block_role", "build_id", "cells", "plan_sha256",
    "platform_id", "protocol_version", "replacement_authorization_id", "replacement_lineage",
    "replaces_block_id", "schema_version", "seed_subspace_id", "stage", "whole_plot_order"].map
      ascii

theorem blockMembers_keys :
    (blockMembers input blockId plots cells planHash).map Prod.fst = blockKeys := by
  cases hreplacement : input.replacement <;> simp only [blockMembers, hreplacement] <;> rfl

theorem blockMembers_nodup :
    ((blockMembers input blockId plots cells planHash).map Prod.fst).Nodup := by
  rw [blockMembers_keys]
  decide

theorem find_block {key : Text} {value : Value} (place : Nat)
    (h : (blockMembers input blockId plots cells planHash)[place]? = some (key, value)) :
    Object.find key (Object.of (blockMembers input blockId plots cells planHash)) = some value :=
  Json.find_at (blockMembers_nodup input blockId plots cells planHash) place h

/-- What stands after the members about a replacement. -/
theorem find_block_last {key : Text} {value : Value} (place : Nat)
    (h : ([(ascii "schema_version", .string kProtocolVersion),
      (ascii "seed_subspace_id", .string input.seeds.blockSubspaceId.value),
      (ascii "stage", stringValue "STAGE_A"),
      (ascii "whole_plot_order",
        .array [stringValue (hardwareName plots.1), stringValue (hardwareName plots.2)])] :
          List (Text × Value))[place]? = some (key, value)) :
    Object.find key (Object.of (blockMembers input blockId plots cells planHash)) = some value := by
  refine find_block input blockId plots cells planHash (12 + place) ?_
  rw [blockMembers, getElem?_append_right, ← h]
  · cases input.replacement <;> simp [replacementMembers]
  · cases input.replacement <;> simp [replacementMembers]

theorem blockDocument_eq : blockDocument input blockId plots cells planHash =
    .object (Object.of (blockMembers input blockId plots cells planHash)) := rfl

/-- The three fields about a replacement are read back, or are all null. -/
theorem replacement_read
    (hrole : ∀ replacement, input.replacement = some replacement →
      replacement.replacedBlockRole ≠ .notApplicable) :
    optionalNullableId .block (Object.of (blockMembers input blockId plots cells planHash))
        "replaces_block_id" "$out" =
      .ok (input.replacement.map ReplacementPlanInput.replacedBlockId) ∧
    optionalNullableId .record (Object.of (blockMembers input blockId plots cells planHash))
        "replacement_authorization_id" "$out" =
      .ok (input.replacement.map ReplacementPlanInput.replacementAuthorizationId) ∧
    replacementLineage (Object.of (blockMembers input blockId plots cells planHash)) =
      .ok (input.replacement.map fun replacement =>
        ⟨replacement.replacedBlockOrdinal, replacement.replacedBlockRole,
          replacement.replacedSeedSubspaceId⟩) := by
  cases hreplacement : input.replacement with
  | none =>
      refine ⟨?_, ?_, ?_⟩
      · refine optionalNullableId_null (find_block input blockId plots cells planHash 11 ?_)
        rw [blockMembers, hreplacement]
        rfl
      · refine optionalNullableId_null (find_block input blockId plots cells planHash 9 ?_)
        rw [blockMembers, hreplacement]
        rfl
      · have hlineage : Object.find (ascii "replacement_lineage")
            (Object.of (blockMembers input blockId plots cells planHash)) = some .null := by
          refine find_block input blockId plots cells planHash 10 ?_
          rw [blockMembers, hreplacement]
          rfl
        rw [replacementLineage, hlineage]
        rfl
  | some replacement =>
      refine ⟨?_, ?_, ?_⟩
      · refine optionalNullableId_of (find_block input blockId plots cells planHash 11 ?_)
        rw [blockMembers, hreplacement]
        rfl
      · refine optionalNullableId_of (find_block input blockId plots cells planHash 9 ?_)
        rw [blockMembers, hreplacement]
        rfl
      · have hlineage : Object.find (ascii "replacement_lineage")
            (Object.of (blockMembers input blockId plots cells planHash)) =
              some (lineageDocument replacement) := by
          refine find_block input blockId plots cells planHash 10 ?_
          rw [blockMembers, hreplacement]
          rfl
        rw [replacementLineage, hlineage]
        show (lineageOf (lineageDocument replacement)).map some = _
        rw [lineageOf_lineageDocument (hrole replacement hreplacement)]
        rfl

/-- The plots of a plan are read back. -/
theorem wholePlotOrder_read (hplots : plots = (.h0, .h1) ∨ plots = (.h1, .h0)) :
    wholePlotOrder (Object.of (blockMembers input blockId plots cells planHash)) = .ok plots := by
  have hfind : Object.find (ascii "whole_plot_order")
      (Object.of (blockMembers input blockId plots cells planHash)) =
        some (.array [stringValue (hardwareName plots.1), stringValue (hardwareName plots.2)]) :=
    find_block_last input blockId plots cells planHash 3 rfl
  have hstates : plots.1 ∈ states ∧ plots.2 ∈ states := by
    rcases hplots with rfl | rfl <;> decide
  obtain ⟨hfirstNe, hfirst⟩ := hardwareName_read _ hstates.1
  obtain ⟨hsecondNe, hsecond⟩ := hardwareName_read _ hstates.2
  simp only [wholePlotOrder, required, hfind, bind, Except.bind, arrayOf, stringValue,
    enumValue_of hfirstNe hfirst, enumValue_of hsecondNe hsecond]

/-- The cells of a plan are read back. -/
theorem cellsOf_read (hcells : ∀ cell ∈ cells, cell.key ∈ expectedStageACells) :
    cellsOf (Object.of (blockMembers input blockId plots cells planHash)) = .ok cells := by
  have hfind : Object.find (ascii "cells")
      (Object.of (blockMembers input blockId plots cells planHash)) =
        some (.array (cells.map cellDocument)) :=
    find_block input blockId plots cells planHash 5 rfl
  have hread : elements stageACell "$out/cells" 0 (cells.map cellDocument) = .ok cells :=
    elements_of (fun cell hcell path => stageACell_cellDocument (hcells cell hcell) path) 0
  simp only [cellsOf, required, hfind, bind, Except.bind, arrayOf, hread]

/-- **The loader reads a generated document as the plan that was put together.** -/
theorem loadBlockPlan_blockDocument (hrole : input.role ≠ .notApplicable)
    (hreplaced : ∀ replacement, input.replacement = some replacement →
      replacement.replacedBlockRole ≠ .notApplicable)
    (hplots : plots = (.h0, .h1) ∨ plots = (.h1, .h0))
    (hcells : ∀ cell ∈ cells, cell.key ∈ expectedStageACells) :
    loadBlockPlan (blockDocument input blockId plots cells digest.hex) =
      .ok (planOf input blockId plots cells digest) := by
  obtain ⟨hreplaces, hauthorization, hlineage⟩ :=
    replacement_read input blockId plots cells digest.hex hreplaced
  obtain ⟨hroleNe, hroleRead⟩ := roleName_read _ hrole
  have hreject : rejectUnknown (Object.of (blockMembers input blockId plots cells digest.hex))
      blockPlanFields "$out" = .ok () := by
    refine rejectUnknown_of (blockMembers_nodup _ _ _ _ _) ?_
    rw [blockMembers_keys]
    decide
  have hstage : enumField (Object.of (blockMembers input blockId plots cells digest.hex)) "stage"
      "$out" "DAT-STAGE" stages = .ok .stageA :=
    enumField_of (find_block_last input blockId plots cells digest.hex 2 rfl) (by decide)
      (by decide)
  have haccess : enumField (Object.of (blockMembers input blockId plots cells digest.hex))
      "access_state" "$out" "ACC-STATE" accessStates = .ok .planned :=
    enumField_of (find_block input blockId plots cells digest.hex 0 rfl) (by decide)
      (by decide)
  have hfind := fun {key value} => @find_block input blockId plots cells digest.hex key value
  have hlast := fun {key value} => @find_block_last input blockId plots cells digest.hex key value
  rw [loadBlockPlan, blockDocument_eq]
  simp only [objectOf, bind, Except.bind, hreject, hstage, ne_eq, not_true_eq_false, if_false,
    enumField_of (hfind 3 rfl) hroleNe hroleRead, hrole, hreplaces, hauthorization, hlineage,
    Option.isSome_map, wholePlotOrder_read input blockId plots cells digest.hex hplots,
    cellsOf_read input blockId plots cells digest.hex hcells, decide_false, Bool.or_self,
    Bool.false_eq_true,
    versionField_of (hlast 0 rfl), versionField_of (hfind 8 rfl), identifierField_of (hfind 1 rfl),
    identifierField_of (hfind 7 rfl), identifierField_of (hfind 4 rfl), uintField_of (hfind 2 rfl),
    identifierField_of (hlast 1 rfl), haccess, shaField_of (hfind 6 rfl)]
  rfl

end Plan

/-! ### Its digest -/

variable {seeds : BlockSeedCatalog}

section Digest

variable {conv : CharConv} {sha256 : Text → Sha256} {input : BlockGenerationInput}
  {blockId : BlockId} {plots : RequestedHardwareState × RequestedHardwareState}
  {cells : List StageACell} {planHash : Text}

/-- The names in the request are UTF-8. -/
structure EncodedInput (input : BlockGenerationInput) : Prop where
  platform : IsUtf8 input.platformId.value
  build : IsUtf8 input.buildId.value
  subspace : IsUtf8 input.seeds.blockSubspaceId.value
  seeds : ∀ seed ∈ input.seeds.seeds, IsUtf8 seed.value
  replacement : ∀ replacement, input.replacement = some replacement →
    IsUtf8 replacement.replacedBlockId.value ∧
      IsUtf8 replacement.replacementAuthorizationId.value ∧
      IsUtf8 replacement.replacedSeedSubspaceId.value

/-- The seeds of a cell are the catalog's. -/
def SeededFrom (seeds : BlockSeedCatalog) (cell : StageACell) : Prop :=
  cell.arrivalSeedRef ∈ seeds.seeds ∧ cell.eventSeedRef ∈ seeds.seeds ∧
    ∀ node, cell.nodeSeedRef = some node → node ∈ seeds.seeds

theorem hasForm_text {literal : String}
    (h : ((ascii literal).all fun byte => byte < 0x80) = true) :
    HasForm conv (stringValue literal) :=
  Json.hasForm_string.mpr (Json.isUtf8_ascii h)

theorem hasForm_uint (value : UInt64) : HasForm conv (uintValue value) := ⟨_, rfl⟩

theorem cellDocument_hasForm (hutf8 : ∀ seed ∈ seeds.seeds, IsUtf8 seed.value)
    (hseeds : SeededFrom seeds cell) : HasForm conv (cellDocument cell) := by
  have hdocument : cellDocument cell = .object (Object.of (cellMembers cell)) := rfl
  have hnode : HasForm conv (nodeSeedValue cell.nodeSeedRef) := by
    cases hnode : cell.nodeSeedRef with
    | none => exact ⟨_, rfl⟩
    | some node => exact Json.hasForm_string.mpr (hutf8 _ (hseeds.2.2 node hnode))
  rw [hdocument, Json.hasForm_of (cellKeys_nodup cell)]
  · simp only [cellMembers, map_cons, map_nil, forall_mem_cons]
    refine ⟨Json.hasForm_string.mpr (hutf8 _ hseeds.1), hasForm_uint _,
      Json.hasForm_string.mpr (hutf8 _ hseeds.2.1), ?_, hnode, ?_, ?_, ?_, ?_, by simp⟩
    · exact hasForm_text (by cases cell.loadLevel <;> decide)
    · exact hasForm_text (by cases cell.package <;> decide)
    · exact hasForm_text (by cases cell.placement <;> decide)
    · exact hasForm_text (by cases cell.requestedHardwareState <;> decide)
    · exact hasForm_text (by cases cell.workingSetClass <;> decide)
  · show ([ascii "arrival_seed_ref", ascii "cell_ordinal", ascii "event_seed_ref",
      ascii "load_level", ascii "node_seed_ref", ascii "package", ascii "placement",
      ascii "requested_hardware_state", ascii "working_set_class"].all _) = true
    decide

theorem roleName_ascii (role : BlockRole) :
    ((ascii (roleName role)).all fun byte => byte < 0x80) = true := by
  cases role <;> decide

theorem replacementMembers_hasForm (hinput : EncodedInput input) :
    ∀ value ∈ (replacementMembers input.replacement).map Prod.snd, HasForm conv value := by
  cases hreplacement : input.replacement with
  | none =>
      simp only [replacementMembers, map_cons, map_nil, forall_mem_cons]
      exact ⟨⟨_, rfl⟩, ⟨_, rfl⟩, ⟨_, rfl⟩, by simp⟩
  | some replacement =>
      obtain ⟨hblock, hauthorization, hsubspace⟩ := hinput.replacement replacement hreplacement
      have hlineage : HasForm conv (lineageDocument replacement) := by
        have hdocument : lineageDocument replacement =
            .object (Object.of (lineageMembers replacement)) := rfl
        rw [hdocument, Json.hasForm_of]
        · simp only [lineageMembers, map_cons, map_nil, forall_mem_cons]
          exact ⟨hasForm_uint _, hasForm_text (roleName_ascii _),
            Json.hasForm_string.mpr hsubspace, by simp⟩
        · show ([ascii "replaced_block_ordinal", ascii "replaced_block_role",
            ascii "replaced_seed_subspace_id"] : List Text).Nodup
          decide
        · show ([ascii "replaced_block_ordinal", ascii "replaced_block_role",
            ascii "replaced_seed_subspace_id"].all _) = true
          decide
      simp only [replacementMembers, map_cons, map_nil, forall_mem_cons]
      exact ⟨Json.hasForm_string.mpr hauthorization, hlineage, Json.hasForm_string.mpr hblock,
        by simp⟩

/-- The document of a plan can be written. -/
theorem blockDocument_hasForm (hinput : EncodedInput input) (hblockId : IsUtf8 blockId.value)
    (hhash : IsUtf8 planHash) (hcells : ∀ cell ∈ cells, SeededFrom input.seeds cell) :
    HasForm conv (blockDocument input blockId plots cells planHash) := by
  have hstates : ∀ state : RequestedHardwareState,
    HasForm conv (stringValue (hardwareName state)) := by
    intro state
    exact hasForm_text (by cases state <;> decide)
  have hversion : HasForm conv (.string kProtocolVersion) :=
    Json.hasForm_string.mpr (Json.isUtf8_ascii (by decide))
  rw [blockDocument_eq, Json.hasForm_of (blockMembers_nodup _ _ _ _ _)]
  · simp only [blockMembers, map_append, forall_mem_append, map_cons, map_nil,
      forall_mem_cons]
    refine ⟨⟨⟨hasForm_text (by decide), Json.hasForm_string.mpr hblockId, hasForm_uint _,
      hasForm_text (roleName_ascii _), Json.hasForm_string.mpr hinput.build, ?_,
      Json.hasForm_string.mpr hhash, Json.hasForm_string.mpr hinput.platform, hversion, by simp⟩,
      replacementMembers_hasForm hinput⟩, hversion, Json.hasForm_string.mpr hinput.subspace,
      hasForm_text (by decide), ?_, by simp⟩
    · rw [Json.hasForm_array, forall_mem_map]
      intro cell hcell
      exact cellDocument_hasForm hinput.seeds (hcells cell hcell)
    · rw [Json.hasForm_array]
      simp only [forall_mem_cons]
      exact ⟨hstates _, hstates _, by simp⟩
  · rw [blockMembers_keys]
    decide

/-- The digest's place in a document, whatever stands there. -/
theorem assign_planHash (other : Text) :
    Object.assign (ascii "plan_sha256") (.string other)
        (Object.of (blockMembers input blockId plots cells planHash)) =
      Object.of (blockMembers input blockId plots cells other) := by
  have hsplit : ∀ hash, blockMembers input blockId plots cells hash =
      (blockMembers input blockId plots cells planHash).take 6 ++
        (ascii "plan_sha256", .string hash) ::
          (blockMembers input blockId plots cells planHash).drop 7 := fun _ => rfl
  have hkeys := blockMembers_nodup input blockId plots cells planHash
  rw [hsplit planHash] at hkeys
  have hassign := Json.assign_of (.string other) hkeys
  rw [← hsplit, ← hsplit] at hassign
  exact hassign

theorem zeroSelfDigest_blockDocument {canonical : Text}
    (hcanonical : Json.canonicalize conv (blockDocument input blockId plots cells zeroSelf) =
      .ok canonical) :
    zeroSelfDigest conv sha256 "plan_sha256" (blockDocument input blockId plots cells planHash) =
      some (sha256 canonical) := by
  have hfind : (Object.find (ascii "plan_sha256")
      (Object.of (blockMembers input blockId plots cells planHash))).isNone = false := by
    rw [find_block input blockId plots cells planHash 6 rfl]
    rfl
  rw [blockDocument_eq] at hcanonical ⊢
  simp only [zeroSelfDigest, hfind, Bool.false_eq_true, if_false, assign_planHash, hcanonical]

end Digest

/-! ### The generator -/

section Generator

variable {conv : CharConv} {sha256 : Text → Sha256} {registry : RoleNamespaceRegistry}
  {input : BlockGenerationInput} {blockId : BlockId}
  {plots : RequestedHardwareState × RequestedHardwareState} {h0Order h1Order : List Nat}
  {front back : List StageACell}

theorem TwoPlots.expected (h : TwoPlots input.seeds plots h0Order h1Order front back) :
    ∀ cell ∈ front ++ back, cell.key ∈ expectedStageACells := by
  intro cell hcell
  have hmem := h.keys.mem_iff.mp (mem_map_of_mem hcell)
  rw [mem_expectedStageACells]
  have hstates : plots.1 ∈ states ∧ plots.2 ∈ states := by
    rcases h.bothStates with rfl | rfl <;> decide
  rcases List.mem_append.mp hmem with hfront | hback
  · obtain ⟨levels, hlevels, hkey⟩ := List.mem_map.mp hfront
    exact ⟨_, hstates.1, levels, hlevels, hkey⟩
  · obtain ⟨levels, hlevels, hkey⟩ := List.mem_map.mp hback
    exact ⟨_, hstates.2, levels, hlevels, hkey⟩

theorem plannedCell_seeded {state : RequestedHardwareState} {selected ordinal : Nat}
    (h : plannedCell seeds state selected ordinal = some cell) : SeededFrom seeds cell := by
  simp only [plannedCell, Option.bind_eq_bind, Option.bind_eq_some_iff, Option.some.injEq] at h
  obtain ⟨⟨package, placement, workingSet, load⟩, -, arrival, -, arena, -, arrivalSeed,
    harrivalSeed, nodeSeed, hnodeSeed, eventSeed, heventSeed, rfl⟩ := h
  have harrival := mem_of_getElem? harrivalSeed
  have hnode := mem_of_getElem? hnodeSeed
  have hevent := mem_of_getElem? heventSeed
  refine ⟨?_, ?_, ?_⟩
  · simp [BlockSeedCatalog.seeds, harrival]
  · simp [BlockSeedCatalog.seeds, hevent]
  · intro node hsome
    cases hlinked : linked package <;> simp only [hlinked, Bool.false_eq_true, if_false, if_true,
      Option.some.injEq, reduceCtorEq] at hsome
    simp [BlockSeedCatalog.seeds, ← hsome, hnode]

theorem TwoPlots.seeded (h : TwoPlots input.seeds plots h0Order h1Order front back) :
    ∀ cell ∈ front ++ back, SeededFrom input.seeds cell := by
  intro cell hcell
  rcases List.mem_append.mp hcell with hfront | hback
  · obtain ⟨_, _, hplanned⟩ := h.first.each cell hfront
    exact plannedCell_seeded hplanned
  · obtain ⟨_, _, hplanned⟩ := h.second.each cell hback
    exact plannedCell_seeded hplanned

/-- A block identity that was made is one that its fields lead to, and is opaque. -/
theorem makeBlockId_ok {platformId : PlatformId} {buildId : BuildId} {role : BlockRole}
    {ordinal : UInt64} (h : makeBlockId conv sha256 platformId buildId role ordinal = .ok blockId) :
    isOpaque blockId.value = true ∧ isOpaque buildId.value = true ∧ role ≠ .notApplicable ∧
      ((blockId.value.all fun byte => byte < 0x80) = true) := by
  rw [makeBlockId] at h
  split at h
  · cases h
  · rename_i hfields
    simp only [Bool.or_eq_true, Bool.not_eq_true', not_or, Bool.not_eq_false] at hfields
    obtain ⟨canonical, -, h⟩ := Fallible.bind_ok h
    obtain ⟨id, hid, h⟩ := Fallible.bind_ok h
    obtain rfl := Except.ok.inj h
    have hvalue : id.val = ascii "stage-a-block-" ++ (sha256 canonical).hex := by
      rw [parseIdentifier] at hid
      split at hid
      · cases hid
      · rw [← Except.ok.inj hid]
    have hhex : ∀ byte ∈ (sha256 canonical).hex, byte ≠ 47 ∧ byte ≠ 92 ∧ byte < 0x80 := by
      intro byte hbyte
      have hvalid := (sha256 canonical).valid
      rw [validSha256, Bool.and_eq_true, lowercaseHex, all_eq_true] at hvalid
      have hlower := hvalid.2 byte hbyte
      revert hlower
      exact Json.forall_byte (p := fun byte => isLowerHex byte = true →
        byte ≠ 47 ∧ byte ≠ 92 ∧ byte < 0x80) (by decide) byte
    have hstart : ∀ byte ∈ ascii "stage-a-block-", byte ≠ 47 ∧ byte ≠ 92 ∧ byte < 0x80 := by
      decide +kernel
    have hall : ∀ byte ∈ id.val, byte ≠ 47 ∧ byte ≠ 92 ∧ byte < 0x80 := by
      intro byte hbyte
      rw [hvalue, mem_append] at hbyte
      exact hbyte.elim (hstart byte) (hhex byte)
    refine ⟨?_, hfields.1.2, ?_, ?_⟩
    · have hslash : (47 : UInt8) ∉ id.val := fun hmem => (hall 47 hmem).1 rfl
      have hback : (92 : UInt8) ∉ id.val := fun hmem => (hall 92 hmem).2.1 rfl
      simp [isOpaque, hslash, hback, id.property]
    · intro hrole
      rw [hrole] at hfields
      exact absurd hfields.2 (by decide)
    · rw [all_eq_true]
      intro byte hbyte
      exact decide_eq_true (hall byte hbyte).2.2

/-- What the generator puts together, loads and validates. -/
theorem planOf_valid {canonical : Text} (h : TwoPlots input.seeds plots h0Order h1Order front back)
    (hcatalog : validateSeedCatalog input.seeds registry = [])
    (hrole : input.role = input.seeds.role)
    (hid : makeBlockId conv sha256 input.platformId input.buildId input.role input.blockOrdinal =
      .ok blockId)
    (hcanonical : Json.canonicalize conv
      (blockDocument input blockId plots (front ++ back) zeroSelf) = .ok canonical)
    (hdigest : digest = sha256 canonical)
    (hreplacement : replacementErrors (planOf input blockId plots (front ++ back) digest) = []) :
    validateBlockPlan conv sha256 (planOf input blockId plots (front ++ back) digest) input.seeds
      registry = [] := by
  obtain ⟨hstored, hbuild, -, -⟩ := makeBlockId_ok hid
  refine validateBlockPlan_planned h rfl hreplacement hcatalog ⟨rfl, rfl, rfl⟩ ?_ ⟨hrole, rfl⟩ ?_
  · simp only [canonicalId, planOf, hid, hstored, hbuild, decide_true, Bool.and_self]
  · rw [verifyPlanHash, planOf, decide_eq_true_eq, zeroSelfDigest_blockDocument hcanonical, hdigest]

/-- The two plots that a permutation of two gives. -/
theorem wholePlotsOf_perm {permutation : List Nat} (h : permutation.Perm (List.range 2)) :
    wholePlotsOf permutation = some (.h0, .h1) ∨ wholePlotsOf permutation = some (.h1, .h0) := by
  have hlength : permutation.length = 2 := by simpa using h.length_eq
  obtain ⟨first, second, rfl⟩ := List.length_eq_two.mp hlength
  have hmem : ∀ n ∈ [first, second], n < 2 := fun n hn => List.mem_range.mp (h.mem_iff.mp hn)
  have hnodup : [first, second].Nodup := h.nodup_iff.mpr nodup_range
  have hfirst := hmem first (by simp)
  have hsecond := hmem second (by simp)
  have hne : first ≠ second := by simpa using hnodup
  have hcases : (first = 0 ∧ second = 1) ∨ (first = 1 ∧ second = 0) := by omega
  rcases hcases with ⟨rfl, rfl⟩ | ⟨rfl, rfl⟩
  · exact Or.inl rfl
  · exact Or.inr rfl

/-- What a request that the generator lets through is. -/
theorem admittedBlockId_ok (h : admittedBlockId conv sha256 input registry = .ok blockId) :
    validateSeedCatalog input.seeds registry = [] ∧ input.role = input.seeds.role ∧
      (∀ replacement, input.replacement = some replacement →
        replacement.replacedBlockRole = input.role ∧ replacement.replacedBlockId ≠ blockId) ∧
      makeBlockId conv sha256 input.platformId input.buildId input.role input.blockOrdinal =
        .ok blockId := by
  rw [admittedBlockId] at h
  split at h
  · cases h
  · rename_i hcatalog
    split at h
    · cases h
    · rename_i hidentity
      split at h
      · cases h
      · rename_i hroles
        obtain ⟨id, hid, h⟩ := Fallible.bind_ok h
        split at h
        · cases h
        · rename_i hnew
          obtain rfl := Except.ok.inj h
          refine ⟨not_not.mp hcatalog, ?_, ?_, hid⟩
          · simp only [Bool.or_eq_true, decide_eq_true_eq, not_or] at hidentity
            exact not_not.mp hidentity.1
          · intro replacement hreplacement
            simpa [hreplacement] using And.intro hroles hnew

/-- A plan of the generator, by what it was put together from. -/
structure Generated (conv : CharConv) (sha256 : Text → Sha256) (registry : RoleNamespaceRegistry)
    (input : BlockGenerationInput) (plan : BlockPlan) : Prop where
  admitted : ∃ blockId plots cells digest, makeBlockId conv sha256 input.platformId input.buildId
    input.role input.blockOrdinal = .ok blockId ∧ plan = planOf input blockId plots cells digest
  valid : validateBlockPlan conv sha256 plan input.seeds registry = []

/-- **What the generator returns is the plan it put together, and is valid.** -/
theorem generateBlockPlan_ok {generated : GeneratedBlockPlan}
    (h : generateBlockPlan conv sha256 input registry = .ok (.ok generated)) :
    Generated conv sha256 registry input generated.plan := by
  rw [generateBlockPlan] at h
  split at h
  · cases h
  · rename_i blockId hadmitted
    obtain ⟨hcatalog, hrole, hreplaced, hid⟩ := admittedBlockId_ok hadmitted
    obtain ⟨permutation, hpermutation, h⟩ := Fallible.bind_ok h
    obtain ⟨h0Order, h0, h⟩ := Fallible.bind_ok h
    obtain ⟨h1Order, h1, h⟩ := Fallible.bind_ok h
    have hplots := wholePlotsOf_perm (makePermutation_perm hpermutation)
    replace h := Except.ok.inj h
    split at h
    · cases h
    · rename_i plots hwhole
      split at h
      · cases h
      · rename_i cells hcells
        have hboth : plots = (.h0, .h1) ∨ plots = (.h1, .h0) := by simpa [hwhole] using hplots
        obtain ⟨front, back, rfl, htwo⟩ := twoPlots_of_plannedCells hcells hboth
          (makePermutation_perm h0) (makePermutation_perm h1)
        obtain ⟨zeroCanonical, -, h⟩ := Fallible.bind_ok h
        obtain ⟨canonical, -, h⟩ := Fallible.bind_ok h
        obtain ⟨plan, hplan, h⟩ := Fallible.bind_ok h
        obtain ⟨-, -, happlicable, -⟩ := makeBlockId_ok hid
        rw [loadBlockPlan_blockDocument _ _ _ _ happlicable (by
          intro replacement hreplacement
          rw [(hreplaced replacement hreplacement).1]
          exact happlicable) hboth htwo.expected] at hplan
        obtain rfl := Except.ok.inj hplan
        simp only at h
        split at h
        · cases h
        · rename_i hvalid
          obtain rfl := Except.ok.inj h
          exact ⟨⟨blockId, plots, front ++ back, _, hid, rfl⟩, not_not.mp hvalid⟩

/-! ### When it goes through -/

theorem validateSeedCatalog_lengths (h : validateSeedCatalog seeds registry = []) :
    seeds.arrivalSeedIds.length = 18 ∧
      seeds.nodeSeedIds.length = 6 ∧ seeds.eventSeedIds.length = 6 := by
  simp only [validateSeedCatalog, append_eq_nil_iff, require_eq_nil, Bool.and_eq_true,
    decide_eq_true_eq] at h
  obtain ⟨⟨⟨⟨-, ⟨harrival, hnode⟩, hevent⟩, -⟩, -⟩, -⟩ := h
  exact ⟨harrival, hnode, hevent⟩

theorem indices_some : ∀ levels ∈ withinPlotBase,
    ((arrivalIndex levels.2.1 levels.2.2.1 levels.2.2.2).any (· < 18) &&
      (arenaIndex levels.2.1 levels.2.2.1).any (· < 6)) = true := by
  decide

/-- Every selection of a catalog of the right size makes a cell. -/
theorem plannedCell_isSome (h : validateSeedCatalog seeds registry = [])
    (state : RequestedHardwareState) {selected : Nat} (hselected : selected < 90) (ordinal : Nat) :
    (plannedCell seeds state selected ordinal).isSome = true := by
  obtain ⟨harrivals, hnodes, hevents⟩ := validateSeedCatalog_lengths h
  have hlevels : withinPlotBase[selected]? = some withinPlotBase[selected] :=
    getElem?_eq_getElem hselected
  have hindices := indices_some _ (getElem_mem (l := withinPlotBase) hselected)
  rw [Bool.and_eq_true] at hindices
  obtain ⟨arrival, harrival, harrivalLt⟩ := Option.any_eq_true _ _ |>.mp hindices.1
  obtain ⟨arena, harena, harenaLt⟩ := Option.any_eq_true _ _ |>.mp hindices.2
  rw [decide_eq_true_eq] at harrivalLt harenaLt
  have hin : arrival < seeds.arrivalSeedIds.length ∧ arena < seeds.nodeSeedIds.length ∧
      arena < seeds.eventSeedIds.length := by omega
  simp [plannedCell, hlevels, harrival, harena, getElem?_eq_getElem hin.1,
    getElem?_eq_getElem hin.2.1, getElem?_eq_getElem hin.2.2]

theorem mapM_isSome {A B : Type} {f : A → Option B} {as : List A}
    (h : ∀ a ∈ as, (f a).isSome = true) : (as.mapM f).isSome = true := by
  induction as with
  | nil => rfl
  | cons a rest ih =>
      obtain ⟨b, hb⟩ := Option.isSome_iff_exists.mp (h a mem_cons_self)
      obtain ⟨bs, hbs⟩ := Option.isSome_iff_exists.mp
        (ih fun other hother => h other (mem_cons_of_mem _ hother))
      simp [mapM_cons, hb, hbs]

theorem plannedCells_isSome (h : validateSeedCatalog seeds registry = [])
    (plots : RequestedHardwareState × RequestedHardwareState) (h0 : h0Order.Perm (List.range 90))
    (h1 : h1Order.Perm (List.range 90)) :
    (plannedCells seeds plots h0Order h1Order).isSome = true := by
  have hselected : ∀ state, ∀ selected ∈ dealt h0Order h1Order state, selected < 90 := by
    intro state selected hmem
    exact List.mem_range.mp ((dealt_perm h0 h1 state).mem_iff.mp hmem)
  refine mapM_isSome ?_
  rintro ⟨⟨state, selected⟩, ordinal⟩ hmem
  have hin := fst_mem_of_mem_zipIdx hmem
  obtain ⟨plot, -, hplot⟩ := List.mem_flatMap.mp hin
  obtain ⟨other, hother, hsame⟩ := List.mem_map.mp hplot
  obtain ⟨rfl, rfl⟩ := Prod.mk.inj hsame
  exact plannedCell_isSome h _ (hselected _ _ hother) _

/-- The rules on a replacement do not look at what was planned. -/
theorem replacementErrors_planOf {plots' : RequestedHardwareState × RequestedHardwareState}
    {cells cells' : List StageACell} {digest' : Sha256}
    (h : replacementErrors (planOf input blockId plots cells digest) = []) :
    replacementErrors (planOf input blockId plots' cells' digest') = [] := h

variable (input) in
/-- Planned cells make a valid plan, under the digest of the plan's own document. -/
theorem planOf_planned {cells : List StageACell}
    (hcells : plannedCells input.seeds plots h0Order h1Order = some cells)
    (hplots : plots = (.h0, .h1) ∨ plots = (.h1, .h0)) (h0 : h0Order.Perm (List.range 90))
    (h1 : h1Order.Perm (List.range 90)) (hcatalog : validateSeedCatalog input.seeds registry = [])
    (hrole : input.role = input.seeds.role)
    (hid : makeBlockId conv sha256 input.platformId input.buildId input.role input.blockOrdinal =
      .ok blockId) (hencoded : EncodedInput input)
    (hreplacement : ∀ digest, replacementErrors (planOf input blockId plots cells digest) = []) :
    ∃ canonical, Json.canonicalize conv (blockDocument input blockId plots cells zeroSelf) =
        .ok canonical ∧
      validateBlockPlan conv sha256 (planOf input blockId plots cells (sha256 canonical))
        input.seeds registry = [] := by
  obtain ⟨-, -, -, hascii⟩ := makeBlockId_ok hid
  obtain ⟨front, back, rfl, htwo⟩ := twoPlots_of_plannedCells hcells hplots h0 h1
  have hform : HasForm conv (blockDocument input blockId plots (front ++ back) zeroSelf) :=
    blockDocument_hasForm hencoded (Json.isUtf8_ascii hascii) (Json.isUtf8_ascii (by decide))
      htwo.seeded
  obtain ⟨canonical, hcanonical⟩ := hform
  exact ⟨canonical, hcanonical, planOf_valid htwo hcatalog hrole hid hcanonical rfl
    (hreplacement _)⟩

/-- **The generator goes through**: the plan it returns is valid, whatever was drawn. -/
theorem generateBlockPlan_succeeds {permutation : List Nat}
    (hadmitted : admittedBlockId conv sha256 input registry = .ok blockId)
    (hplots : makePermutation 2 (draw input.seeds.wholePlotKey) = .ok permutation)
    (h0 : makePermutation 90 (draw input.seeds.h0CellOrderKey) = .ok h0Order)
    (h1 : makePermutation 90 (draw input.seeds.h1CellOrderKey) = .ok h1Order)
    (hencoded : EncodedInput input)
    (hreplacement : ∀ plots cells digest,
      replacementErrors (planOf input blockId plots cells digest) = []) :
    ∃ plots front back digest canonical, wholePlotsOf permutation = some plots ∧
      TwoPlots input.seeds plots h0Order h1Order front back ∧
      generateBlockPlan conv sha256 input registry =
        .ok (.ok ⟨planOf input blockId plots (front ++ back) digest, canonical⟩) := by
  obtain ⟨hcatalog, hrole, hreplaced, hid⟩ := admittedBlockId_ok hadmitted
  obtain ⟨-, -, happlicable, hascii⟩ := makeBlockId_ok hid
  have hp0 := makePermutation_perm h0
  have hp1 := makePermutation_perm h1
  obtain ⟨plots, hwhole, hboth⟩ : ∃ plots, wholePlotsOf permutation = some plots ∧
      (plots = (.h0, .h1) ∨ plots = (.h1, .h0)) := by
    rcases wholePlotsOf_perm (makePermutation_perm hplots) with hwhole | hwhole
    · exact ⟨_, hwhole, Or.inl rfl⟩
    · exact ⟨_, hwhole, Or.inr rfl⟩
  obtain ⟨cells, hcells⟩ := Option.isSome_iff_exists.mp
    (plannedCells_isSome hcatalog plots hp0 hp1)
  obtain ⟨front, back, rfl, htwo⟩ := twoPlots_of_plannedCells hcells hboth hp0 hp1
  have hform : ∀ hash, IsUtf8 hash →
      HasForm conv (blockDocument input blockId plots (front ++ back) hash) := by
    intro hash hhash
    exact blockDocument_hasForm hencoded (Json.isUtf8_ascii hascii) hhash htwo.seeded
  obtain ⟨zeroCanonical, hzero⟩ := hform zeroSelf (Json.isUtf8_ascii (by decide))
  have hhex : IsUtf8 (sha256 zeroCanonical).hex := by
    refine Json.isUtf8_ascii ?_
    rw [all_eq_true]
    intro byte hbyte
    have hvalid := (sha256 zeroCanonical).valid
    rw [validSha256, Bool.and_eq_true, lowercaseHex, all_eq_true] at hvalid
    have hlower := hvalid.2 byte hbyte
    revert hlower
    exact Json.forall_byte (p := fun byte => isLowerHex byte = true → decide (byte < 0x80) = true)
      (by decide) byte
  obtain ⟨canonical, hcanonical⟩ := hform _ hhex
  have hplan : loadBlockPlan (blockDocument input blockId plots (front ++ back)
      (sha256 zeroCanonical).hex) =
        .ok (planOf input blockId plots (front ++ back) (sha256 zeroCanonical)) :=
    loadBlockPlan_blockDocument input blockId plots (front ++ back) happlicable (by
      intro replacement hsome
      rw [(hreplaced replacement hsome).1]
      exact happlicable) hboth htwo.expected
  have hvalid := planOf_valid htwo hcatalog hrole hid hzero rfl (hreplacement _ _ _)
  refine ⟨plots, front, back, sha256 zeroCanonical, canonical, hwhole, htwo, ?_⟩
  have hfinish : finishBlockPlan conv sha256 input registry blockId plots (front ++ back) =
      .ok ⟨planOf input blockId plots (front ++ back) (sha256 zeroCanonical), canonical⟩ := by
    simp only [finishBlockPlan, hzero, hcanonical, hplan, bind, Except.bind, hvalid, ne_eq,
      not_true_eq_false, if_false]
  simp only [generateBlockPlan, hadmitted, hplots, withinPlotBase_length, h0, h1, bind, Except.bind,
    hwhole, hcells, hfinish]

end Generator

end CpuPrefetch.Orchestration
