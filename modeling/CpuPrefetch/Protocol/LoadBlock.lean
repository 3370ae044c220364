/-
Loading a block plan from its JSON document.

The shape of a replacement's three fields is checked here, before any record-local rule.
-/
import CpuPrefetch.Protocol.Records

namespace CpuPrefetch.Protocol.Load

open Json (Value Object)

/-! ### The names of the levels -/

def stages : List (String × Stage) :=
  [("CALIBRATION", .calibration), ("PILOT", .pilot), ("STAGE_A", .stageA), ("STAGE_B", .stageB),
    ("STAGE_C", .stageC), ("DIAGNOSTIC", .diagnostic)]

def blockRoles : List (String × BlockRole) :=
  [("H3_TRAIN", .h3Train), ("H3_VALIDATION", .h3Validation),
    ("H1H2_SUPPLEMENTAL", .h1h2Supplemental), ("NOT_APPLICABLE", .notApplicable)]

def queuePackages : List (String × QueuePackage) :=
  [("R0", .r0), ("R1", .r1), ("R2", .r2), ("L0", .l0), ("L1", .l1), ("NBLFQ_MPSC", .nblfqMpsc),
    ("NOT_APPLICABLE", .notApplicable)]

def requestedHardwareStates : List (String × RequestedHardwareState) :=
  [("H0", .h0), ("H1", .h1), ("NOT_APPLICABLE", .notApplicable)]

def placements : List (String × Placement) :=
  [("NEAR", .near), ("FAR", .far), ("STAGE_C_OTHER", .stageCOther),
    ("NOT_APPLICABLE", .notApplicable)]

def workingSetClasses : List (String × WorkingSetClass) :=
  [("L2_RESIDENT", .l2Resident), ("LLC_RESIDENT", .llcResident), ("BEYOND_LLC", .beyondLlc),
    ("NOT_APPLICABLE", .notApplicable)]

def loadLevels : List (String × LoadLevel) :=
  [("L025", .l025), ("L050", .l050), ("L075", .l075), ("CALIBRATION_READY", .calibrationReady),
    ("STAGE_C_OTHER", .stageCOther), ("NOT_APPLICABLE", .notApplicable)]

def accessStates : List (String × AccessState) :=
  [("PLANNED", .planned), ("COLLECTED_SEALED", .collectedSealed), ("TRAINING_OPEN", .trainingOpen),
    ("SELECTION_FROZEN", .selectionFrozen), ("VALIDATION_UNSEALED", .validationUnsealed),
    ("H3_EVALUATED", .h3Evaluated), ("H1H2_RELEASED", .h1h2Released), ("ARCHIVED", .archived)]

/-! ### Identifiers -/

/-- `id_field`, of any tag. -/
def identifierField (tag : IdentifierTag) (object : Object) (key path : String) :
    Result (Identifier tag) := do
  let id ← idField object key path
  .ok ⟨id.val, nonempty_parsed id⟩

/-- `optional_nullable_id`: absent, or null, is none. -/
def optionalNullableId (tag : IdentifierTag) (object : Object) (key path : String) :
    Result (Option (Identifier tag)) :=
  match Object.find (ascii key) object with
  | none => .ok none
  | some .null => .ok none
  | some value => do
      let text ← stringOf value (path ++ "/" ++ key)
      let id ← parseIdentifier text (path ++ "/" ++ key)
      .ok (some ⟨id.val, nonempty_parsed id⟩)

/-! ### Blocks -/

def stageACell (value : Value) (path : String) : Result StageACell := do
  let cell ← objectOf value path
  rejectUnknown cell
    ["cell_ordinal", "package", "requested_hardware_state", "placement", "working_set_class",
      "load_level", "arrival_seed_ref", "node_seed_ref", "event_seed_ref"] path
  let cellOrdinal ← uintField cell "cell_ordinal" path
  let package ← enumField cell "package" path "DAT-PACKAGE" queuePackages
  let state ← enumField cell "requested_hardware_state" path "HWP-REQUESTED" requestedHardwareStates
  let placement ← enumField cell "placement" path "DAT-PLACEMENT" placements
  let workingSet ← enumField cell "working_set_class" path "DAT-WORKING-SET" workingSetClasses
  let load ← enumField cell "load_level" path "DAT-LOAD" loadLevels
  let arrival ← identifierField .seed cell "arrival_seed_ref" path
  let node ← optionalNullableId .seed cell "node_seed_ref" path
  let event ← identifierField .seed cell "event_seed_ref" path
  .ok ⟨cellOrdinal, package, state, placement, workingSet, load, arrival, node, event⟩

def lineageOf (value : Value) : Result ReplacementLineage := do
  let lineage ← objectOf value "$out/replacement_lineage"
  rejectUnknown lineage
    ["replaced_block_ordinal", "replaced_block_role", "replaced_seed_subspace_id"]
    "$out/replacement_lineage"
  let ordinal ← uintField lineage "replaced_block_ordinal" "$out/replacement_lineage"
  let role ←
    enumField lineage "replaced_block_role" "$out/replacement_lineage" "BLK-ROLE" blockRoles
  let subspace ←
    identifierField .namespaceId lineage "replaced_seed_subspace_id" "$out/replacement_lineage"
  .ok ⟨ordinal, role, subspace⟩

/-- `replacement_lineage`, which may be absent or null. -/
def replacementLineage (object : Object) : Result (Option ReplacementLineage) :=
  match Object.find (ascii "replacement_lineage") object with
  | none => .ok none
  | some .null => .ok none
  | some value => (lineageOf value).map some

def wholePlotOrder (object : Object) :
    Result (RequestedHardwareState × RequestedHardwareState) := do
  let value ← required object "whole_plot_order" "$out"
  let plots ← arrayOf value "$out/whole_plot_order"
  match plots with
  | [first, second] =>
      let first ←
        enumValue first "$out/whole_plot_order/0" "HWP-REQUESTED" requestedHardwareStates
      let second ←
        enumValue second "$out/whole_plot_order/1" "HWP-REQUESTED" requestedHardwareStates
      .ok (first, second)
  | _ =>
      fail .outOfRange "$out/whole_plot_order" "BLK-WHOLE-PLOTS"
        "whole_plot_order must contain exactly two states"

def cellsOf (object : Object) : Result (List StageACell) := do
  let value ← required object "cells" "$out"
  let cells ← arrayOf value "$out/cells"
  elements stageACell "$out/cells" 0 cells

def blockPlanFields : List String :=
  ["schema_version", "protocol_version", "block_id", "platform_id", "build_id", "stage",
    "block_role", "block_ordinal", "seed_subspace_id", "replaces_block_id",
    "replacement_authorization_id", "replacement_lineage", "whole_plot_order", "cells",
    "access_state", "plan_sha256"]

def loadBlockPlan (document : Value) : Result BlockPlan := do
  let object ← objectOf document "$out"
  rejectUnknown object blockPlanFields "$out"
  let stage ← enumField object "stage" "$out" "DAT-STAGE" stages
  if stage ≠ .stageA then
    fail .crossField "$out/stage" "BLK-STAGE-A" "block plans in this schema are Stage A only"
  else
    let role ← enumField object "block_role" "$out" "BLK-ROLE" blockRoles
    if role = .notApplicable then
      fail .unknownEnum "$out/block_role" "BLK-ROLE" "Stage A block role cannot be NOT_APPLICABLE"
    else
      let replaces ← optionalNullableId .block object "replaces_block_id" "$out"
      let authorization ← optionalNullableId .record object "replacement_authorization_id" "$out"
      let lineage ← replacementLineage object
      if replaces.isSome ≠ authorization.isSome || replaces.isSome ≠ lineage.isSome then
        fail .crossField "$out/replaces_block_id" "BLK-REPLACEMENT-SHAPE"
          "replacement identity, authorization, and lineage must be all null or all present"
      else
        let plots ← wholePlotOrder object
        let cells ← cellsOf object
        let schemaVersion ← versionField object "schema_version" "$out"
        let protocolVersion ← versionField object "protocol_version" "$out"
        let blockId ← identifierField .block object "block_id" "$out"
        let platformId ← identifierField .platform object "platform_id" "$out"
        let buildId ← identifierField .build object "build_id" "$out"
        let blockOrdinal ← uintField object "block_ordinal" "$out"
        let seedSubspaceId ← identifierField .namespaceId object "seed_subspace_id" "$out"
        let accessState ← enumField object "access_state" "$out" "ACC-STATE" accessStates
        let planSha256 ← shaField object "plan_sha256" "$out"
        .ok
          { schemaVersion := schemaVersion
            protocolVersion := protocolVersion
            blockId := blockId
            platformId := platformId
            buildId := buildId
            stage := stage
            blockRole := role
            blockOrdinal := blockOrdinal
            seedSubspaceId := seedSubspaceId
            replacesBlockId := replaces
            replacementAuthorizationId := authorization
            replacementLineage := lineage
            wholePlotOrder := plots
            cells := cells
            accessState := accessState
            planSha256 := planSha256
            sourceDocument := document }

end CpuPrefetch.Protocol.Load
