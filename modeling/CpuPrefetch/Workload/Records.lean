/-
The event arena: one record per cache line, visited in a fixed cyclic order.

An event is the address of a record.  The arena never changes after its construction,
so the record behind an address is a function of the address; the constructor writes
each record's own index into it, and a consumer checks that index against the
address it was given.
-/
import CpuPrefetch.Queue.Common

namespace CpuPrefetch.Workload

/-- `queue::EventPointer::from`: a pointer is an address, and only null is refused. -/
def eventPointerFrom (value : Nat) : Option Nat :=
  if value = 0 then none else some value

structure EventRecord where
  recordIndex : UInt64
  payload : UInt64
  deriving DecidableEq, Repr

structure ConsumerState where
  value : UInt64
  deriving DecidableEq, Repr

def mixConsumerState (state : ConsumerState) (recordIndex payload : UInt64) : ConsumerState :=
  let value := state.value + 0x9e3779b97f4a7c15
  let value := value ^^^ recordIndex
  let value := (value ^^^ (value >>> 30)) * 0xbf58476d1ce4e5b9
  let value := value ^^^ payload
  let value := (value ^^^ (value >>> 27)) * 0x94d049bb133111eb
  ⟨value ^^^ (value >>> 31)⟩

structure EventSelection where
  recordIndex : UInt64
  record : Nat
  deriving DecidableEq, Repr

inductive RecordAccessStatus where
  | valid
  | outsideArena
  | notRecordStart
  | recordIndexCorrupt
  deriving DecidableEq, Repr

structure RecordAccessResult where
  status : RecordAccessStatus
  recordIndex : UInt64
  payload : UInt64
  deriving DecidableEq, Repr

/-- An arena as its constructor leaves it; `storage` is the address of its first line. -/
structure EventArena where
  capacity : Nat
  cacheLineBytes : Nat
  storage : Nat
  recordOrder : List Nat
  payloads : List UInt64
  capacityPos : 0 < capacity
  capacityLt : capacity < 2 ^ 64
  linePos : 0 < cacheLineBytes
  storagePos : 0 < storage
  orderLength : recordOrder.length = capacity
  orderLt : ∀ index ∈ recordOrder, index < capacity
  payloadsLength : payloads.length = capacity

namespace EventArena

variable (arena : EventArena)

def allocatedBytes : Nat := arena.capacity * arena.cacheLineBytes

def lineAt (index : Nat) : Nat := arena.storage + index * arena.cacheLineBytes

/-- The record the constructor wrote to the line at this index. -/
def recordAt (index : Nat) : EventRecord := ⟨.ofNat index, arena.payloads.getD index 0⟩

variable (sequence : UInt64)

def select : EventSelection :=
  let position := sequence.toNat % arena.capacity
  let recordIndex := arena.recordOrder.getD position 0
  ⟨.ofNat recordIndex, arena.lineAt recordIndex⟩

def accessAndMix (pointer : Nat) (state : ConsumerState) :
    ConsumerState × RecordAccessResult :=
  if pointer < arena.storage then (state, ⟨.outsideArena, 0, 0⟩)
  else
    let offset := pointer - arena.storage
    if offset ≥ arena.allocatedBytes then (state, ⟨.outsideArena, 0, 0⟩)
    else if offset % arena.cacheLineBytes ≠ 0 then (state, ⟨.notRecordStart, 0, 0⟩)
    else
      let physicalIndex := offset / arena.cacheLineBytes
      let record := arena.recordAt physicalIndex
      if record.recordIndex.toNat ≠ physicalIndex then
        (state, ⟨.recordIndexCorrupt, record.recordIndex, record.payload⟩)
      else
        (mixConsumerState state record.recordIndex record.payload,
          ⟨.valid, record.recordIndex, record.payload⟩)

/-! ### What a selection names -/

/-- The physical index of the record selected for this logical sequence. -/
def selectedIndex : Nat :=
  arena.recordOrder.getD (sequence.toNat % arena.capacity) 0

theorem selectedIndex_lt : arena.selectedIndex sequence < arena.capacity := by
  have hlt : sequence.toNat % arena.capacity < arena.recordOrder.length := by
    rw [arena.orderLength]
    exact Nat.mod_lt _ arena.capacityPos
  unfold selectedIndex
  rw [List.getD_eq_getElem?_getD, List.getElem?_eq_getElem hlt]
  exact arena.orderLt _ (List.getElem_mem hlt)

theorem select_eq : arena.select sequence =
    ⟨.ofNat (arena.selectedIndex sequence), arena.lineAt (arena.selectedIndex sequence)⟩ := rfl

/-- A selected record is not null, so it is an event pointer. -/
theorem eventPointerFrom_select :
    eventPointerFrom (arena.select sequence).record = some (arena.select sequence).record := by
  have hpos := arena.storagePos
  refine if_neg ?_
  show arena.storage + _ ≠ 0
  omega

/-- A consumer given a selected record finds the index it was selected under. -/
theorem accessAndMix_select (state : ConsumerState) :
    (arena.accessAndMix (arena.select sequence).record state).2.status = .valid ∧
      (arena.accessAndMix (arena.select sequence).record state).2.recordIndex =
        (arena.select sequence).recordIndex := by
  have hlt := arena.selectedIndex_lt sequence
  have hcap := arena.capacityLt
  have hline := arena.linePos
  rw [select_eq]
  generalize arena.selectedIndex sequence = index at hlt
  have hoffset : arena.lineAt index - arena.storage = index * arena.cacheLineBytes := by
    unfold lineAt
    omega
  have hinside : index * arena.cacheLineBytes < arena.allocatedBytes :=
    Nat.mul_lt_mul_of_pos_right hlt hline
  have hindex : (UInt64.ofNat index).toNat = index :=
    UInt64.toNat_ofNat_of_lt' (Nat.lt_trans hlt hcap)
  have hbase : ¬arena.lineAt index < arena.storage := by
    unfold lineAt
    omega
  unfold accessAndMix
  rw [if_neg hbase]
  simp only [hoffset]
  rw [if_neg (by omega), if_neg (by simp), Nat.mul_div_cancel _ hline]
  simp [recordAt, hindex]

end EventArena

end CpuPrefetch.Workload
