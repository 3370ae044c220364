/-
The common logical capacity of a working-set class, from the footprints both queues would have.
-/
import CpuPrefetch.Lib.Extremes
import CpuPrefetch.Protocol.Records
import CpuPrefetch.Queue.Common

namespace CpuPrefetch.Workload

open Protocol (WorkingSetClass)
open Queue (Setup)

structure SharedFootprintCandidate where
  capacity : UInt64
  ringBytes : UInt64
  linkedBytes : UInt64
  deriving DecidableEq, Repr

structure CacheCapacityEvidence where
  cacheLineBytes : UInt64
  smallerUsableL2Bytes : UInt64
  producerHomeUsableLlcBytes : UInt64
  deriving DecidableEq, Repr

structure CapacitySelection where
  workingSetClass : WorkingSetClass
  selected : SharedFootprintCandidate
  deriving DecidableEq, Repr

def isPowerOfTwo (value : UInt64) : Bool := value ≠ 0 && value &&& (value - 1) = 0

def checkedProduct (left right : UInt64) (field : String) : Setup UInt64 :=
  if left ≠ 0 ∧ right > 0xffffffffffffffff / left then throw (field ++ " overflows uint64")
  else pure (left * right)

def checkedSum (left right : UInt64) (field : String) : Setup UInt64 :=
  if right > 0xffffffffffffffff - left then throw (field ++ " overflows uint64")
  else pure (left + right)

/-- The lambda `matches`, with the lower bounds it captures. -/
def matchesClass (workingSetClass : WorkingSetClass) (cache : CacheCapacityEvidence)
    (lowerL2 twiceL2 twiceLlc footprint : UInt64) : Bool :=
  match workingSetClass with
  | .l2Resident => footprint > lowerL2 && footprint ≤ cache.smallerUsableL2Bytes / 2
  | .llcResident => footprint > twiceL2 && footprint ≤ cache.producerHomeUsableLlcBytes / 2
  | .beyondLlc => footprint ≥ twiceLlc
  | .notApplicable => false

/-- All three bounds are computed, whichever of them the class needs. -/
def bothMatch (candidate : SharedFootprintCandidate) (cache : CacheCapacityEvidence)
    (workingSetClass : WorkingSetClass) : Setup Bool := do
  let lowerL2 ← checkedProduct 4 cache.cacheLineBytes "four-cache-line lower bound"
  let twiceL2 ← checkedProduct 2 cache.smallerUsableL2Bytes "two-L2 lower bound"
  let twiceLlc ← checkedProduct 2 cache.producerHomeUsableLlcBytes "two-LLC lower bound"
  let fits := matchesClass workingSetClass cache lowerL2 twiceL2 twiceLlc
  pure (fits candidate.ringBytes && fits candidate.linkedBytes)

def makeSharedFootprintCandidate
    (capacity eventArenaBytes ringQueueBytes linkedQueueBytes : UInt64) :
    Setup SharedFootprintCandidate :=
  if !isPowerOfTwo capacity || eventArenaBytes = 0 || ringQueueBytes = 0 ||
      linkedQueueBytes = 0 then
    throw "footprint accounting requires a power-of-two capacity and actual nonzero byte counts"
  else do
    let ringBytes ← checkedSum eventArenaBytes ringQueueBytes "ring shared footprint"
    let linkedBytes ← checkedSum eventArenaBytes linkedQueueBytes "linked shared footprint"
    pure ⟨capacity, ringBytes, linkedBytes⟩

/-- Beyond the LLC the smallest capacity is wanted, in a cache the largest. -/
def better (workingSetClass : WorkingSetClass) (candidate selected : SharedFootprintCandidate) :
    Bool :=
  if workingSetClass = .beyondLlc then candidate.capacity < selected.capacity
  else candidate.capacity > selected.capacity

/-- The loop over the candidates, with the capacities it has seen. -/
def scanCandidates (workingSetClass : WorkingSetClass) (cache : CacheCapacityEvidence) :
    List UInt64 → Option SharedFootprintCandidate → List SharedFootprintCandidate →
      Setup (Option SharedFootprintCandidate)
  | _, selected, [] => pure selected
  | seen, selected, candidate :: rest =>
      if !isPowerOfTwo candidate.capacity || candidate.ringBytes = 0 ||
          candidate.linkedBytes = 0 then
        throw ("every footprint candidate needs a unique power-of-two " ++
          "capacity and nonzero bytes")
      else if candidate.capacity ∈ seen then
        throw "footprint candidate capacities must be unique"
      else do
        let fits ← bothMatch candidate cache workingSetClass
        scanCandidates workingSetClass cache (candidate.capacity :: seen)
          (if fits then
            Extremes.improve (fun value best => better workingSetClass value best) selected
              candidate
          else selected) rest

def selectCommonCapacity (workingSetClass : WorkingSetClass) (cache : CacheCapacityEvidence)
    (candidates : List SharedFootprintCandidate) : Setup CapacitySelection :=
  if workingSetClass = .notApplicable then
    throw "Stage A working-set class must be applicable"
  else if cache.cacheLineBytes = 0 || !isPowerOfTwo cache.cacheLineBytes ||
      cache.smallerUsableL2Bytes = 0 || cache.producerHomeUsableLlcBytes = 0 then
    throw "capacity selection requires explicit nonzero cache facts"
  else if candidates = [] then throw "capacity selection requires footprint candidates"
  else do
    match ← scanCandidates workingSetClass cache [] none candidates with
    | none => throw "no common logical capacity satisfies both queue footprint rules"
    | some selected => pure ⟨workingSetClass, selected⟩

end CpuPrefetch.Workload
