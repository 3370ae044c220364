/-
The inventory of a platform: its processors, caches, memory nodes and devices, and the
identity of its hardware and software.

Every text is a string of bytes.  A list stands for a vector of the source.
-/
import CpuPrefetch.Protocol.Text

namespace CpuPrefetch.Platform

open Protocol (Text ascii)

inductive ErrorCategory where
  | parseError
  | missingEvidence
  | invalidRequest
  | impossiblePlacement
  | siblingConflict
  | numaMismatch
  | unsupportedControl
  | privilegeDenied
  | applyFailure
  | verificationMismatch
  | restorationFailure
  | staleState
  | manifestIncomplete
  | ioError
  deriving DecidableEq, Repr

structure Error where
  category : ErrorCategory
  path : Text
  ruleId : String
  message : String
  deriving DecidableEq

/-- `platform::Result`: a value, or the errors that kept it from being one. -/
abbrev Result (T : Type) := Except (List Error) T

/-- The error of a rule that does not hold. -/
def require (holds : Bool) (error : Error) : List Error := if holds then [] else [error]

structure EvidenceValue where
  name : String
  source : Text
  value : Option Text
  deriving DecidableEq

structure LogicalCpu where
  logicalId : UInt32
  coreId : UInt32
  packageId : UInt32
  numaNode : UInt32
  threadSiblings : List UInt32
  cacheDomains : List Text
  online : Bool
  deriving DecidableEq

structure CacheDomain where
  domainId : Text
  level : UInt32
  kind : Text
  sizeBytes : UInt64
  sharedCpus : List UInt32
  lastLevel : Bool
  deriving DecidableEq

structure NumaNode where
  nodeId : UInt32
  logicalCpus : List UInt32
  deriving DecidableEq

structure PciDevice where
  address : Text
  vendor : Text
  device : Text
  deviceClass : Text
  numaNode : Option Int32
  localCpus : List UInt32
  deriving DecidableEq

structure CpuIdentity where
  vendor : Text
  model : Text
  stepping : Text
  microcode : Text
  cacheLineBytes : UInt64
  atomicWidthBits : UInt64
  atomicAlignmentBytes : UInt64
  pointerAtomicLockFree : Bool
  deriving DecidableEq

structure SoftwareIdentity where
  operatingSystem : Text
  kernel : Text
  compiler : Text
  standardLibrary : Text
  languageStandard : Text
  deriving DecidableEq

structure PlatformInventory where
  snapshotId : Text
  capturedAtUtc : Text
  cpu : CpuIdentity
  software : SoftwareIdentity
  basePageBytes : UInt64
  logicalCpus : List LogicalCpu
  cacheDomains : List CacheDomain
  numaNodes : List NumaNode
  pciDevices : List PciDevice
  observations : List EvidenceValue
  deriving DecidableEq

def findCpu (inventory : PlatformInventory) (id : UInt32) : Option LogicalCpu :=
  inventory.logicalCpus.find? (·.logicalId = id)

def sameLastLevelCache (inventory : PlatformInventory) (left right : LogicalCpu) : Bool :=
  inventory.cacheDomains.any fun domain =>
    domain.lastLevel && left.logicalId ∈ domain.sharedCpus && right.logicalId ∈ domain.sharedCpus

theorem sameLastLevelCache_comm (inventory : PlatformInventory) (left right : LogicalCpu) :
    sameLastLevelCache inventory left right = sameLastLevelCache inventory right left := by
  unfold sameLastLevelCache
  congr 1
  funext domain
  rw [Bool.and_assoc, Bool.and_assoc, Bool.and_comm (decide (left.logicalId ∈ domain.sharedCpus))]

end CpuPrefetch.Platform
