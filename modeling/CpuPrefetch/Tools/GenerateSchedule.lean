/-
`tools/generate_schedule.py`, in Python: integers are unbounded, and bounds are checked
or masked by hand.

Strings are sequences of Unicode scalar values; `encode` refuses others.  HMAC and SHA-256
are parameters, with what their digests are documented to look like.
-/
import CpuPrefetch.Lib.Bytes
import CpuPrefetch.Workload.Deterministic

namespace CpuPrefetch.Tools

open Protocol (Text)
open Workload (Bytes32)

/-- A Python string that can be encoded. -/
abbrev PyString := List Char

/-- `str.encode("utf-8")`. -/
def encodeUtf8 (value : PyString) : Text := value.flatMap String.utf8EncodeChar

/-- A constant of a Python file. -/
def literal (value : String) : PyString := value.toList

structure ScheduleGenerationError where
  category : String
  path : String
  message : String
  deriving DecidableEq, Repr

abbrev Generation := Except ScheduleGenerationError

def DERIVATION_DOMAIN_PROTOCOL_VERSION : PyString := literal "2.0.0-pre.1"
def BASE_RNG_SUITE : PyString := literal "PHILOX4X32-10-HMAC-SHA256-v1"
def PURPOSE : PyString := literal "arrival-schedule"
def UINT64_MAX : Nat := (1 <<< 64) - 1
def UINT32_MASK : Nat := (1 <<< 32) - 1

/-! ### Draws -/

/-- `_append_field`. -/
def appendField (output value : Text) : Generation Text :=
  if value.length > UINT64_MAX then
    throw ⟨"BYTE_COUNT_OVERFLOW", "hash_preimage", "field length exceeds uint64"⟩
  else pure (output ++ BigEndian.store 8 value.length ++ value)

/-- `_derive_key`. -/
def deriveKey (hmac : Text → Text → Bytes32) (masterSeed : Text) (namespaceId : PyString) :
    Generation (Nat × Nat) := do
  let message ← [DERIVATION_DOMAIN_PROTOCOL_VERSION, BASE_RNG_SUITE, namespaceId, PURPOSE].foldlM
    (fun message value => appendField message (encodeUtf8 value)) []
  let digest := (hmac masterSeed message).bytes.take 8
  pure (BigEndian.load (digest.take 4), BigEndian.load (digest.drop 4))

/-- The four words of a counter, and the two of a round key. -/
structure PhiloxState where
  counter : Nat × Nat × Nat × Nat
  roundKey : Nat × Nat
  deriving DecidableEq, Repr

/-- The body of the loop of `_philox_draw`. -/
def philoxStep (state : PhiloxState) (roundIndex : Nat) : PhiloxState :=
  let (counter0, counter1, counter2, counter3) := state.counter
  let (key0, key1) := state.roundKey
  let product0 := 0xD2511F53 * counter0
  let product1 := 0xCD9E8D57 * counter2
  { counter :=
      (((product1 >>> 32) ^^^ counter1 ^^^ key0) &&& UINT32_MASK, product1 &&& UINT32_MASK,
        ((product0 >>> 32) ^^^ counter3 ^^^ key1) &&& UINT32_MASK, product0 &&& UINT32_MASK)
    roundKey :=
      if roundIndex ≠ 9 then
        ((key0 + 0x9E3779B9) &&& UINT32_MASK, (key1 + 0xBB67AE85) &&& UINT32_MASK)
      else (key0, key1) }

/-- `_philox_draw`. -/
def philoxDraw (key : Nat × Nat) (drawOrdinal : Nat) : Nat :=
  let blockOrdinal := drawOrdinal / 2
  let start : PhiloxState := ⟨(blockOrdinal >>> 32, blockOrdinal &&& UINT32_MASK, 0, 0), key⟩
  let (counter0, counter1, counter2, counter3) := ((List.range 10).foldl philoxStep start).counter
  if drawOrdinal % 2 = 0 then (counter0 <<< 32) ||| counter1 else (counter2 <<< 32) ||| counter3

end CpuPrefetch.Tools
