/-
The storage budget of a run, and of the whole Stage A plan.

Every term is a 64-bit word.  A sum or a product is computed only after the guard that it
does not wrap, and the first term that would wrap ends the computation.  A vector has
fewer elements than there are words, so the number of runs is compared as a number.
-/
import CpuPrefetch.Protocol.Load
import CpuPrefetch.Storage.RawObservations

namespace CpuPrefetch.Storage

open Protocol (ErrorCategory Result ValidationError)

def kStageACellsPerBlock : UInt64 := 180
def kTemporaryRawCopies : UInt64 := 1
def kDurableRawCopies : UInt64 := 2

structure RunStorageInput where
  runId : List UInt8
  scheduledRows : UInt64
  acceptedRows : UInt64
  effectiveRows : Option UInt64
  deriving DecidableEq

structure RunStorageBudget where
  runId : List UInt8
  producerRowBytes : UInt64
  consumerRowBytes : UInt64
  joinedRowBytes : UInt64
  producerPayloadBytes : UInt64
  consumerPayloadBytes : UInt64
  joinedPayloadBytes : UInt64
  actualHotPayloadBytes : UInt64
  conservativeHotPayloadBytes : UInt64
  producerMappedBytes : UInt64
  consumerMappedBytes : UInt64
  conservativeMappedHotBytes : UInt64
  rawStorageBytes : UInt64
  primaryTailCountPossible : Bool
  secondaryTailCountPossible : Bool
  deriving DecidableEq

structure AuxiliaryStorageBytes where
  envelopes : UInt64
  integrityRecords : UInt64
  copyLedgers : UInt64
  schedules : UInt64
  manifests : UInt64
  filesystemOverhead : UInt64
  operatorReserve : UInt64
  deriving DecidableEq

structure StageAStorageBudgetRequest where
  runs : List RunStorageInput
  rTotal : UInt64
  blockCount : UInt64
  verifiedBasePageBytes : UInt64
  auxiliary : AuxiliaryStorageBytes
  availableBytes : UInt64
  deriving DecidableEq

structure StageAStorageBudget where
  runCount : UInt64
  blockCount : UInt64
  rTotal : UInt64
  temporaryRawCopies : UInt64
  durableRawCopies : UInt64
  rawStorageBytes : UInt64
  auxiliaryAndReserveBytes : UInt64
  requiredBytes : UInt64
  availableBytes : UInt64
  capacityPass : Bool
  runs : List RunStorageBudget
  deriving DecidableEq

namespace Budget

/-! ### Checked words -/

def checkedAdd (left right : UInt64) : Option UInt64 :=
  if right > 0xffffffffffffffff - left then none else some (left + right)

def checkedMultiply (left right : UInt64) : Option UInt64 :=
  if left ≠ 0 ∧ right > 0xffffffffffffffff / left then none else some (left * right)

def checkedRoundUp (value alignment : UInt64) : Option UInt64 :=
  if alignment = 0 then none
  else
    let remainder := value % alignment
    if remainder = 0 then some value else checkedAdd value (alignment - remainder)

def fail {T : Type} (path rule message : String) : Result T :=
  .error [⟨.outOfRange, path, rule, message⟩]

def auxiliaryValues (auxiliary : AuxiliaryStorageBytes) : List UInt64 :=
  [auxiliary.envelopes, auxiliary.integrityRecords, auxiliary.copyLedgers, auxiliary.schedules,
    auxiliary.manifests, auxiliary.filesystemOverhead, auxiliary.operatorReserve]

def sumAuxiliary (auxiliary : AuxiliaryStorageBytes) : Option UInt64 :=
  (auxiliaryValues auxiliary).foldlM checkedAdd 0

/-! ### One run -/

/-- The conjunction of checked terms, in its order; each term is computed if those before
it were. -/
def runTerms (input : RunStorageInput) (basePageBytes : UInt64) (layout : RowLayout) :
    Option RunStorageBudget := do
  let producerRowBytes : UInt64 := .ofNat layout.producerRowBytes
  let consumerRowBytes : UInt64 := .ofNat layout.consumerRowBytes
  let joinedRowBytes : UInt64 := .ofNat layout.joinedRowBytes
  let producer ← checkedMultiply input.scheduledRows producerRowBytes
  let consumer ← checkedMultiply input.acceptedRows consumerRowBytes
  let joined ← checkedMultiply input.acceptedRows joinedRowBytes
  let actualHot ← checkedAdd producer consumer
  let conservativeRowPair ← checkedAdd producerRowBytes consumerRowBytes
  let conservativeHot ← checkedMultiply input.scheduledRows conservativeRowPair
  let producerMapped ← checkedRoundUp producer basePageBytes
  let consumerConservative ← checkedMultiply input.scheduledRows consumerRowBytes
  let consumerMapped ← checkedRoundUp consumerConservative basePageBytes
  let mappedHot ← checkedAdd producerMapped consumerMapped
  let rawPair ← checkedAdd producer consumer
  let rawThree ← checkedMultiply (kTemporaryRawCopies + kDurableRawCopies) rawPair
  let joinedTwo ← checkedMultiply kDurableRawCopies joined
  let rawTotal ← checkedAdd rawThree joinedTwo
  let effective := input.effectiveRows.getD 0
  some
    { runId := input.runId
      producerRowBytes := producerRowBytes
      consumerRowBytes := consumerRowBytes
      joinedRowBytes := joinedRowBytes
      producerPayloadBytes := producer
      consumerPayloadBytes := consumer
      joinedPayloadBytes := joined
      actualHotPayloadBytes := actualHot
      conservativeHotPayloadBytes := conservativeHot
      producerMappedBytes := producerMapped
      consumerMappedBytes := consumerMapped
      conservativeMappedHotBytes := mappedHot
      rawStorageBytes := rawTotal
      primaryTailCountPossible := input.effectiveRows.isSome && effective ≥ 200000
      secondaryTailCountPossible := input.effectiveRows.isSome && effective ≥ 2000000 }

end Budget

open Budget

def checkedRunStorageBudget (input : RunStorageInput) (basePageBytes : UInt64) :
    Result RunStorageBudget :=
  if basePageBytes = 0 then
    fail "$input/verified_base_page_bytes" "STO-PAGE-NONZERO"
      "verified base-page bytes must be explicit and nonzero"
  else if input.acceptedRows > input.scheduledRows then
    fail "$input/accepted_rows" "STO-ACCEPTED-BOUND" "accepted rows cannot exceed scheduled rows"
  else if input.effectiveRows.any fun effective => effective > input.acceptedRows then
    fail "$input/effective_rows" "STO-NEFF-BOUND" "effective rows cannot exceed accepted rows"
  else
    match makeRowLayout input.runId with
    | .error message => fail "$input/run_id" "STO-RUN-ID" message
    | .ok layout =>
        match runTerms input basePageBytes layout with
        | none =>
            fail "$input" "STO-RUN-BUDGET-OVERFLOW"
              "run storage budget arithmetic overflows uint64"
        | some budget => .ok budget

/-! ### The plan -/

namespace Budget

/-- The error of a run, at the path of the run: what follows `$input` follows its index. -/
def inRun (index : Nat) (error : ValidationError) : ValidationError :=
  { error with
    path := "$input/runs/" ++ toString index ++ String.ofList (error.path.toList.drop 6) }

/-- The loop over the runs from this index on: the raw bytes so far, and the budgets. -/
def runBudgets (basePageBytes : UInt64) :
    Nat → UInt64 → List RunStorageInput → Result (UInt64 × List RunStorageBudget)
  | _, rawTotal, [] => .ok (rawTotal, [])
  | index, rawTotal, input :: rest => do
      let run ← (checkedRunStorageBudget input basePageBytes).mapError (List.map (inRun index))
      let rawTotal ← (checkedAdd rawTotal run.rawStorageBytes).elim
        (fail "$input/runs" "STO-PLAN-RAW-OVERFLOW"
          "aggregate raw-storage bytes overflow uint64") .ok
      let (total, runs) ← runBudgets basePageBytes (index + 1) rawTotal rest
      .ok (total, run :: runs)

/-- `sum_auxiliary` and the last sum: the auxiliary bytes, and those required in all. -/
def requiredBytes (auxiliary : AuxiliaryStorageBytes) (rawTotal : UInt64) :
    Option (UInt64 × UInt64) := do
  let auxiliary ← sumAuxiliary auxiliary
  let required ← checkedAdd rawTotal auxiliary
  some (auxiliary, required)

end Budget

def checkedStageAStorageBudget (request : StageAStorageBudgetRequest) :
    Result StageAStorageBudget :=
  if request.rTotal = 0 || request.blockCount = 0 then
    fail "$input/r_total" "STO-RUN-PLAN-NONZERO"
      "Rtotal and block count must be explicit and nonzero"
  else if request.rTotal ≠ request.blockCount then
    fail "$input/block_count" "STO-BLOCK-RUN-PLAN"
      "the Stage A plan must explicitly bind one 180-cell block per Rtotal unit"
  else do
    let expectedRuns ← ((Budget.checkedMultiply kStageACellsPerBlock request.rTotal).filter
      fun expectedRuns => expectedRuns.toNat = request.runs.length).elim
        (fail "$input/runs" "STO-STAGE-A-RUN-COUNT"
          "Stage A storage proof requires exactly 180*Rtotal concrete run terms") .ok
    if request.availableBytes = 0 then
      fail "$input/available_bytes" "STO-AVAILABLE-EXPLICIT"
        "available storage must be independently observed and explicitly nonzero"
    else
      let (rawTotal, runs) ← runBudgets request.verifiedBasePageBytes 0 0 request.runs
      let (auxiliary, required) ← (requiredBytes request.auxiliary rawTotal).elim
        (fail "$input/auxiliary" "STO-PLAN-AUX-OVERFLOW"
          "aggregate auxiliary/reserve bytes overflow uint64") .ok
      .ok
        { runCount := expectedRuns
          blockCount := request.blockCount
          rTotal := request.rTotal
          temporaryRawCopies := kTemporaryRawCopies
          durableRawCopies := kDurableRawCopies
          rawStorageBytes := rawTotal
          auxiliaryAndReserveBytes := auxiliary
          requiredBytes := required
          availableBytes := request.availableBytes
          capacityPass := request.availableBytes ≥ required
          runs := runs }

end CpuPrefetch.Storage
