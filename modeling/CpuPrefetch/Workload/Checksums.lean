/-
The SHA-256 checksums of the records: their contents, their order and their address deltas.

OpenSSL's digest of everything it has been fed is the parameter `sha256`; it may fail.
-/
import CpuPrefetch.Workload.Permutation
import CpuPrefetch.Workload.Records

namespace CpuPrefetch.Workload

open Protocol (Text ascii)
open Queue (Setup)

def kContentDomain : Text := ascii "cpu-prefetch/event-record-content-sha256/v1"
def kOrderedIndexDomain : Text := ascii "cpu-prefetch/ordered-index-sha256/v1"
def kAddressDeltaDomain : Text := ascii "cpu-prefetch/address-delta-sha256/v1"

/-- A digest context; `fed` is what it has been updated with. -/
structure CanonicalSha256 where
  fed : Text := []

variable (sha256 : Text → Setup Bytes32)

namespace CanonicalSha256

def encodeU64 (value : UInt64) : Text :=
  [0, 1, 2, 3, 4, 5, 6, 7].map fun index : UInt64 =>
    ((value >>> ((7 - index) * 8)) &&& 0xff).toUInt8

variable (digest : CanonicalSha256)

def update (bytes : Text) : CanonicalSha256 := ⟨digest.fed ++ bytes⟩

def field (bytes : Text) : CanonicalSha256 :=
  (digest.update (encodeU64 (.ofNat bytes.length))).update bytes

def fieldU64 (value : UInt64) : CanonicalSha256 :=
  digest.field (encodeU64 value)

def fieldI64 (value : Int64) : CanonicalSha256 :=
  digest.fieldU64 value.toUInt64

def finish : Setup Bytes32 :=
  sha256 digest.fed

end CanonicalSha256

/-- One cache line of an arena: a record and the bytes behind it. -/
structure ArenaLine where
  record : EventRecord
  padding : Text

/-- The storage of an arena, whatever bytes are in it. -/
structure ArenaImage where
  capacity : UInt64
  cacheLineBytes : UInt64
  lines : List ArenaLine
  linesLength : lines.length = capacity.toNat
  recordFits : 16 ≤ cacheLineBytes
  paddingLength : ∀ line ∈ lines, line.padding.length = (cacheLineBytes - 16).toNat

/-- `EventArena::content_checksum` -/
def contentChecksum (image : ArenaImage) : Setup Bytes32 :=
  let paddingSize := image.cacheLineBytes - 16
  let digest : CanonicalSha256 := {}
  let digest := digest.field kContentDomain
  let digest := digest.fieldU64 image.cacheLineBytes
  let digest := digest.fieldU64 image.capacity
  (image.lines.foldl
    (fun digest line =>
      (((digest.fieldU64 line.record.recordIndex).fieldU64 line.record.payload).fieldU64
        paddingSize).field line.padding)
    digest).finish sha256

def orderedIndexSha256 (order : List UInt64) : Setup Bytes32 := do
  validatePermutation order
  let digest : CanonicalSha256 := {}
  let digest := digest.field kOrderedIndexDomain
  let digest := digest.fieldU64 (.ofNat order.length)
  (order.foldl CanonicalSha256.fieldU64 digest).finish sha256

def addressDeltaSha256 (deltas : List Int64) : Setup Bytes32 :=
  if deltas = [] then throw "address-delta input must not be empty"
  else
    let digest : CanonicalSha256 := {}
    let digest := digest.field kAddressDeltaDomain
    let digest := digest.fieldU64 (.ofNat deltas.length)
    (deltas.foldl CanonicalSha256.fieldI64 digest).finish sha256

end CpuPrefetch.Workload
