/-
The registered contrasts of a complete block, and the rank of the design they come from.

Sums are taken in the source's order, one term after another: the operations are arbitrary,
and so is what another order would give.
-/
import CpuPrefetch.Analysis.Inputs

namespace CpuPrefetch.Analysis

open Protocol Orchestration

variable {F : Type}

/-! ### The cells of a block -/

/-- The map of a block's responses, as the list of its entries. -/
abbrev CellMap (F : Type) := List (CellKey × F)

/-- `emplace` of one cell after another, which stops at one that is there or is not finite. -/
def emplaceCells (arith : Binary64 F) : CellMap F → List (CellResponse F) → Option (CellMap F)
  | values, [] => some values
  | values, cell :: rest =>
      if arith.isFinite cell.logP999 && cell.key ∉ values.map Prod.fst then
        emplaceCells arith (values ++ [(cell.key, cell.logP999)]) rest
      else none

def cellMap (arith : Binary64 F) (block : CompleteBlockResponse F) : Outcome (CellMap F) :=
  if block.cells.length ≠ kStageACellsPerBlock then
    fail .crossField "$/analysis/block/cells" "ANALYSIS-EXACT-180"
      "complete-block response must contain exactly 180 cells"
  else
    match emplaceCells arith [] block.cells with
    | none =>
        fail .duplicateValue "$/analysis/block/cells" "ANALYSIS-CELL-UNIQUE"
          "cell responses must be finite and unique"
    | some values =>
        if values.length ≠ kStageACellsPerBlock then
          fail .crossField "$/analysis/block/cells" "ANALYSIS-CELL-PRODUCT"
            "cell responses do not form the Stage A product"
        else .ok values

/-- `std::map::find` of a cell. -/
def cellOf (values : CellMap F) (key : CellKey) : Option F :=
  (values.find? fun entry => entry.1 = key).map Prod.snd

/-- `std::map::at`, which throws for a cell that is not there. -/
def valueAt (values : CellMap F) (package : QueuePackage) (hardware : RequestedHardwareState)
    (placement : Placement) (workingSet : WorkingSetClass) (load : LoadLevel) : Outcome F :=
  match cellOf values (package, hardware, placement, workingSet, load) with
  | some value => .ok value
  | none => .error .outOfRange

/-! ### Effects -/

section Effects

variable (arith : Binary64 F)

/-- `sum += term` over the items, from zero. -/
def sumOver {A : Type} (items : List A) (term : A → Outcome F) : Outcome F :=
  items.foldlM (fun sum item => do
    let value ← term item
    .ok (arith.add sum value)) arith.zero

def softwareEffect (values : CellMap F) (package : QueuePackage) (placement : Placement)
    (workingSet : WorkingSetClass) (load : LoadLevel) : Outcome F := do
  let baseline : QueuePackage := if package = .l1 then .l0 else .r0
  let sum ← sumOver arith states fun hardware => do
    let treated ← valueAt values package hardware placement workingSet load
    let untreated ← valueAt values baseline hardware placement workingSet load
    .ok (arith.sub treated untreated)
  .ok (arith.div sum (arith.ofCount 2))

def hardwareEffect (values : CellMap F) (package : QueuePackage) (placement : Placement)
    (workingSet : WorkingSetClass) (load : LoadLevel) : Outcome F := do
  let h1 ← valueAt values package .h1 placement workingSet load
  let h0 ← valueAt values package .h0 placement workingSet load
  .ok (arith.sub h1 h0)

/-- What a contrast is of: the hardware, or the software of one package. -/
inductive PackageSuffix where
  | h
  | r1
  | r2
  | l1
  deriving DecidableEq, Repr

def contextValue (values : CellMap F) (suffix : PackageSuffix) (placement : Placement)
    (workingSet : WorkingSetClass) (load : LoadLevel) : Outcome F :=
  match suffix with
  | .h => do
      let sum ← sumOver arith packages fun package =>
        hardwareEffect arith values package placement workingSet load
      .ok (arith.div sum (arith.ofCount 5))
  | .r1 => softwareEffect arith values .r1 placement workingSet load
  | .r2 => softwareEffect arith values .r2 placement workingSet load
  | .l1 => softwareEffect arith values .l1 placement workingSet load

inductive H2Operation where
  | p
  | w12
  | w23
  | a12
  | a23
  deriving DecidableEq, Repr

/-- The pairs of contexts an operation subtracts, in the order of its loops. -/
def H2Operation.pairs : H2Operation →
    List ((Placement × WorkingSetClass × LoadLevel) × (Placement × WorkingSetClass × LoadLevel))
  | .p => stageAWorkingSets.flatMap fun workingSet =>
      stageALoads.map fun load => ((.far, workingSet, load), (.near, workingSet, load))
  | .w12 => stageAPlacements.flatMap fun placement =>
      stageALoads.map fun load => ((placement, .llcResident, load), (placement, .l2Resident, load))
  | .w23 => stageAPlacements.flatMap fun placement =>
      stageALoads.map fun load => ((placement, .beyondLlc, load), (placement, .llcResident, load))
  | .a12 => stageAPlacements.flatMap fun placement =>
      stageAWorkingSets.map fun workingSet =>
        ((placement, workingSet, .l050), (placement, workingSet, .l025))
  | .a23 => stageAPlacements.flatMap fun placement =>
      stageAWorkingSets.map fun workingSet =>
        ((placement, workingSet, .l075), (placement, workingSet, .l050))

def h2Operator (values : CellMap F) (operation : H2Operation) (suffix : PackageSuffix) :
    Outcome F := do
  let sum ← sumOver arith operation.pairs fun (left, right) => do
    let leftValue ← contextValue arith values suffix left.1 left.2.1 left.2.2
    let rightValue ← contextValue arith values suffix right.1 right.2.1 right.2.2
    .ok (arith.sub leftValue rightValue)
  .ok (arith.div sum (arith.ofCount (.ofNat operation.pairs.length)))

/-- The contexts of Stage A, in the order of the loops. -/
def stageAContexts : List (Placement × WorkingSetClass × LoadLevel) :=
  stageAPlacements.flatMap fun placement =>
    stageAWorkingSets.flatMap fun workingSet =>
      stageALoads.map fun load => (placement, workingSet, load)

/-- What one context adds to each of the seven sums. -/
def h1Terms (values : CellMap F) (placement : Placement) (workingSet : WorkingSetClass)
    (load : LoadLevel) : Outcome (List F) := do
  let er1 ← softwareEffect arith values .r1 placement workingSet load
  let er2 ← softwareEffect arith values .r2 placement workingSet load
  let el1 ← softwareEffect arith values .l1 placement workingSet load
  let hl0 ← hardwareEffect arith values .l0 placement workingSet load
  let hr0 ← hardwareEffect arith values .r0 placement workingSet load
  let hr1 ← hardwareEffect arith values .r1 placement workingSet load
  let hr2 ← hardwareEffect arith values .r2 placement workingSet load
  let hl1 ← hardwareEffect arith values .l1 placement workingSet load
  .ok [arith.sub er1 el1, arith.sub er2 el1, arith.sub hl0 hr0, arith.sub hr1 hr0,
    arith.sub hr2 hr0, arith.sub hl1 hl0, arith.sub er2 er1]

def h1BlockContrasts (block : CompleteBlockResponse F) : Outcome (List F) := do
  let values ← cellMap arith block
  let sums ← stageAContexts.foldlM (fun result context => do
    let terms ← h1Terms arith values context.1 context.2.1 context.2.2
    .ok (List.zipWith arith.add result terms)) (List.replicate 7 arith.zero)
  .ok (sums.map fun value => arith.div value (arith.ofCount 18))

def h2Operations : List H2Operation := [.p, .w12, .w23, .a12, .a23]
def packageSuffixes : List PackageSuffix := [.h, .r1, .r2, .l1]

def h2BlockContrasts (block : CompleteBlockResponse F) : Outcome (List F) := do
  let values ← cellMap arith block
  (h2Operations.flatMap fun operation => packageSuffixes.map fun suffix => (operation, suffix)).mapM
    fun (operation, suffix) => h2Operator arith values operation suffix

/-! ### The design -/

/-- One or zero, for a column of the design. -/
def indicator (condition : Bool) : F := if condition then arith.one else arith.zero

/-- The two columns of a three-level factor; the third level is minus one in both. -/
def sumToZero (first second third : Bool) : List F :=
  let minusOne := arith.neg arith.one
  [if first then arith.one else if third then minusOne else arith.zero,
    if second then arith.one else if third then minusOne else arith.zero]

def designRow (cell : CellKey) : List F :=
  let (package, hardware, placement, workingSet, load) := cell
  let q := indicator arith (package = .l0 || package = .l1)
  let xr1 := indicator arith (package = .r1)
  let xr2 := indicator arith (package = .r2)
  let xl1 := indicator arith (package = .l1)
  let h := if hardware = .h0 then arith.neg arith.half else arith.half
  let p := if placement = .near then arith.neg arith.half else arith.half
  let context := p :: sumToZero arith (workingSet = .l2Resident) (workingSet = .llcResident)
      (workingSet = .beyondLlc) ++
    sumToZero arith (load = .l025) (load = .l050) (load = .l075)
  [arith.one, q, xr1, xr2, xl1, h] ++ context ++ context.map (arith.mul q) ++
    [arith.mul q h, arith.mul xr1 h, arith.mul xr2 h, arith.mul xl1 h] ++
    context.map (arith.mul h) ++
    [xr1, xr2, xl1].flatMap fun software => context.map (arith.mul software)

def entryAt (matrix : List (List F)) (row column : Nat) : F :=
  (matrix.getD row []).getD column arith.zero

/-- The row from `rank` on with the largest entry in the column. -/
def pivotRow (matrix : List (List F)) (rank column : Nat) : Nat :=
  (List.range' (rank + 1) (matrix.length - (rank + 1))).foldl (fun pivot row =>
    if arith.less (arith.abs (entryAt arith matrix pivot column))
        (arith.abs (entryAt arith matrix row column)) then row else pivot) rank

/-- `std::swap` of two rows. -/
def swapRows (matrix : List (List F)) (first second : Nat) : List (List F) :=
  (matrix.set first (matrix.getD second [])).set second (matrix.getD first [])

/-- One column of the elimination: the rank moves on unless the column has no pivot. -/
def eliminateColumn (state : Nat × List (List F)) (column : Nat) : Nat × List (List F) :=
  let (rank, matrix) := state
  if rank ≥ matrix.length then state
  else
    let pivot := pivotRow arith matrix rank column
    if arith.less (arith.abs (entryAt arith matrix pivot column)) arith.tiny then state
    else
      let swapped := swapRows matrix pivot rank
      let divisor := entryAt arith swapped rank column
      let scaled := (swapped.getD rank []).mapIdx fun index value =>
        if index < column then value else arith.div value divisor
      let divided := swapped.set rank scaled
      (rank + 1, divided.mapIdx fun row values =>
        if row = rank then values
        else
          let factor := values.getD column arith.zero
          values.mapIdx fun index value =>
            if index < column then value
            else arith.sub value (arith.mul factor (scaled.getD index arith.zero)))

def stageADesignRank : Nat :=
  let matrix := expectedStageACells.map (designRow arith)
  ((List.range (matrix.headD []).length).foldl (eliminateColumn arith) (0, matrix)).1

end Effects

end CpuPrefetch.Analysis
