/-
Deterministic streams: a key derived from a master seed, and Philox over its block
ordinals.

HMAC-SHA-256 is OpenSSL's, so `hmac` is a parameter; its answer has thirty-two bytes.
-/
import CpuPrefetch.Protocol.Text
import CpuPrefetch.Queue.Common

namespace CpuPrefetch.Workload

open Protocol (Text ascii)
open Queue (Setup)

def kPhiloxMultiplier0 : UInt32 := 0xd2511f53
def kPhiloxMultiplier1 : UInt32 := 0xcd9e8d57
def kPhiloxWeyl0 : UInt32 := 0x9e3779b9
def kPhiloxWeyl1 : UInt32 := 0xbb67ae85

def kDeterministicSuite : Text := ascii "PHILOX4X32-10-HMAC-SHA256-v1"
def kDerivationDomainProtocolVersion : Text := ascii "2.0.0-pre.1"

/-- `std::array<std::byte, 32>`: a seed or a digest. -/
structure Bytes32 where
  bytes : Text
  size : bytes.length = 32
  deriving DecidableEq

abbrev MasterSeed := Bytes32

/-- `std::string_view`; its size is a `std::size_t`. -/
structure StringView where
  bytes : Text
  size : bytes.length < 2 ^ 64
  deriving DecidableEq

inductive StreamPurpose where
  | eventOrder
  | nodeOrder
  | eventPayload
  | initialConsumerState
  | arrivalSchedule
  deriving DecidableEq, Repr

def purposeLabel : StreamPurpose → StringView
  | .eventOrder => ⟨ascii "event-order", by decide⟩
  | .nodeOrder => ⟨ascii "node-order", by decide⟩
  | .eventPayload => ⟨ascii "event-payload", by decide⟩
  | .initialConsumerState => ⟨ascii "initial-consumer-state", by decide⟩
  | .arrivalSchedule => ⟨ascii "arrival-schedule", by decide⟩

structure PhiloxKey where
  word0 : UInt32
  word1 : UInt32
  deriving DecidableEq, Repr

structure PhiloxBlock where
  word0 : UInt32
  word1 : UInt32
  word2 : UInt32
  word3 : UInt32
  deriving DecidableEq, Repr

/-- What `append_u64_be` appends. -/
def u64Be (value : UInt64) : Text :=
  [64, 56, 48, 40, 32, 24, 16, 8].map fun shift : UInt64 =>
    ((value >>> (shift - 8)) &&& 0xff).toUInt8

/-- What `append_field` appends. -/
def field (value : Text) : Text := u64Be (.ofNat value.length) ++ value

/-- `read_u32_be` at an offset. -/
def readU32Be (input : Text) (offset : Nat) : UInt32 :=
  ((input.getD offset 0).toUInt32 <<< 24) ||| ((input.getD (offset + 1) 0).toUInt32 <<< 16) |||
    ((input.getD (offset + 2) 0).toUInt32 <<< 8) ||| (input.getD (offset + 3) 0).toUInt32

def deriveStreamKey (hmac : Text → Text → Bytes32) (masterSeed : MasterSeed)
    (nameSpace : StringView) (purpose : StreamPurpose) : Setup PhiloxKey :=
  if nameSpace.bytes = [] then throw "deterministic stream namespace must not be empty"
  else if (purposeLabel purpose).bytes = [] then throw "deterministic stream purpose is unknown"
  else
    let message := field kDerivationDomainProtocolVersion ++ field kDeterministicSuite ++
      field nameSpace.bytes ++ field (purposeLabel purpose).bytes
    let digest := hmac masterSeed.bytes message
    pure ⟨readU32Be digest.bytes 0, readU32Be digest.bytes 4⟩

def philoxRound (counter : PhiloxBlock) (key : PhiloxKey) : PhiloxBlock :=
  let product0 := kPhiloxMultiplier0.toUInt64 * counter.word0.toUInt64
  let product1 := kPhiloxMultiplier1.toUInt64 * counter.word2.toUInt64
  let high0 := (product0 >>> 32).toUInt32
  let high1 := (product1 >>> 32).toUInt32
  let low0 := product0.toUInt32
  let low1 := product1.toUInt32
  ⟨high1 ^^^ counter.word1 ^^^ key.word0, low1, high0 ^^^ counter.word3 ^^^ key.word1, low0⟩

/-- One turn of the loop of `philox4x32_10`; the key stays after the last one. -/
def philoxTurn (state : PhiloxBlock × PhiloxKey) (round : Nat) : PhiloxBlock × PhiloxKey :=
  (philoxRound state.1 state.2,
    if round ≠ 9 then ⟨state.2.word0 + kPhiloxWeyl0, state.2.word1 + kPhiloxWeyl1⟩ else state.2)

def philox4x32_10 (blockOrdinal : UInt64) (key : PhiloxKey) : PhiloxBlock :=
  let counter : PhiloxBlock := ⟨(blockOrdinal >>> 32).toUInt32, blockOrdinal.toUInt32, 0, 0⟩
  ((List.range 10).foldl philoxTurn (counter, key)).1

def combineWords (high low : UInt32) : UInt64 := (high.toUInt64 <<< 32) ||| low.toUInt64

/-- `DeterministicStream::draw`. -/
def draw (key : PhiloxKey) (drawOrdinal : UInt64) : UInt64 :=
  let block := philox4x32_10 (drawOrdinal / 2) key
  if drawOrdinal &&& 1 = 0 then combineWords block.word0 block.word1
  else combineWords block.word2 block.word3

end CpuPrefetch.Workload
