/-
The schema of an admission document, and the keywords of JSON Schema that it is made of.

A keyword says nothing of a value that is not of the kind it is about.  A number has the exact
value of its spelling, so one with a fraction of zeros is an integer.
-/
import CpuPrefetch.Proofs.Protocol.Binary64
import CpuPrefetch.Runner.Admission

namespace CpuPrefetch.Runner

open Protocol
open Protocol.Json (Number Object Value)

/-! ### Keywords -/

abbrev Schema := Value → Bool

namespace Schema

def exactValue : Number → Rat
  | .signedInteger _ value => value.toInt
  | .unsignedInteger _ value => value.toNat
  | .binary64 lexical _ => Json.decimalOf lexical

/-- Several keywords side by side, or `allOf`. -/
def allOf (schemas : List Schema) : Schema := fun value => schemas.all fun schema => schema value

/-- `if` and `then`. -/
def ifThen (condition consequence : Schema) : Schema := fun value =>
  !condition value || consequence value

/-- `type` string. -/
def string : Schema
  | .string _ => true
  | _ => false

/-- `type` integer. -/
def integer : Schema
  | .number number => (exactValue number).isInt
  | _ => false

/-- `type` object. -/
def object : Schema
  | .object _ => true
  | _ => false

/-- `type` array. -/
def array : Schema
  | .array _ => true
  | _ => false

/-- `const` with a string. -/
def constString (literal : String) : Schema
  | .string text => text = ascii literal
  | _ => false

/-- `const` with an integer. -/
def constInteger (expected : Int) : Schema
  | .number number => exactValue number = expected
  | _ => false

/-- `const` with true. -/
def constTrue : Schema
  | .boolean flag => flag
  | _ => false

/-- `enum` of strings. -/
def enum (literals : List String) : Schema
  | .string text => text ∈ literals.map ascii
  | _ => false

/-- `minLength` of one. -/
def nonempty : Schema
  | .string text => !text.isEmpty
  | _ => true

/-- `pattern`, by the texts that match it. -/
def pattern (isMatch : Text → Bool) : Schema
  | .string text => isMatch text
  | _ => true

def minimum (bound : Nat) : Schema
  | .number number => (bound : Rat) ≤ exactValue number
  | _ => true

def maximum (bound : Nat) : Schema
  | .number number => exactValue number ≤ (bound : Rat)
  | _ => true

def required (names : List String) : Schema
  | .object members => names.all fun name => (Object.find (ascii name) members).isSome
  | _ => true

def properties (entries : List (String × Schema)) : Schema
  | .object members =>
      entries.all fun entry => (Object.find (ascii entry.1) members).all fun value => entry.2 value
  | _ => true

/-- `additionalProperties` false, beside properties of these names. -/
def noAdditional (names : List String) : Schema
  | .object members => members.all fun member => member.1 ∈ names.map ascii
  | _ => true

def items (schema : Schema) : Schema
  | .array values => values.all fun value => schema value
  | _ => true

def minItems (bound : Nat) : Schema
  | .array values => bound ≤ values.length
  | _ => true

def maxItems (bound : Nat) : Schema
  | .array values => values.length ≤ bound
  | _ => true

/-- An object with all of these properties and no other. -/
def record (entries : List (String × Schema)) : Schema :=
  allOf [object, noAdditional (entries.map Prod.fst), required (entries.map Prod.fst),
    properties entries]

end Schema

/-! ### `runner-admission-v1.schema.json` -/

open Schema

/-- A string that is not empty. -/
def identitySchema : Schema := allOf [string, nonempty]

/-- `^[0-9a-f]{64}$`. -/
def digestSchema : Schema := allOf [string, pattern validSha256]

def cpuSchema : Schema := allOf [integer, minimum 0, maximum 4294967295]

/-- `positive_u64`. -/
def positiveU64Schema : Schema := allOf [integer, minimum 1, maximum 18446744073709551615]

def executionLimitsSchema : Schema :=
  record
    [("controller_start_poll_limit", positiveU64Schema),
      ("worker_start_poll_limit", positiveU64Schema),
      ("producer_due_poll_limit_per_arrival", positiveU64Schema),
      ("consumer_empty_poll_limit_before_finish", positiveU64Schema),
      ("drain_poll_limit", positiveU64Schema)]

/-- `evidence_reference`. -/
def evidenceReferenceSchema : Schema :=
  record
    [("kind", enum
        ["PROTOCOL_SNAPSHOT", "SOURCE_RELEASE", "RUN_PLAN", "WARMUP_SCHEDULE",
          "MEASUREMENT_SCHEDULE", "SEED_DERIVATION", "PLATFORM_INVENTORY", "PLATFORM_REQUEST",
          "PLATFORM_VERIFICATION", "HARDWARE_PREFETCH_MAPPING", "CLOCK_QUALIFICATION",
          "QUEUE_PROVENANCE", "RUNTIME_ATOMIC_LAYOUT", "ADDRESS_RESIDENCY", "STORAGE_BUDGET",
          "DURABILITY_DOMAINS", "CALIBRATION_FREEZE", "EXECUTION_LIMITS", "AUTHORITY_CUSTODY",
          "PILOT_EXECUTION_AUTHORIZATION"]),
      ("artifact_id", identitySchema),
      ("path", identitySchema),
      ("sha256", digestSchema),
      ("binding_id", identitySchema),
      ("immutable", constTrue),
      ("eligible", constTrue)]

/-- The processors that a placement has. -/
def placementSchema (placement : String) (producerCpu consumerCpu : Int) : Schema :=
  ifThen (properties [("placement", constString placement)])
    (properties
      [("producer_cpu", constInteger producerCpu), ("consumer_cpu", constInteger consumerCpu)])

def runnerAdmissionSchema : Schema :=
  allOf
    [record
      [("schema_version", constString "cpu-prefetch-runner-admission/1"),
        ("protocol_version", constString "2.0.0-pre.2"),
        ("runner_profile_id", constString "STAGE17-STATIC-FIVE-PACKAGE-FAIL-CLOSED-v1"),
        ("cpu_pair_selection_id", constString "XEON-CPU-FETCH-P0-NEAR-0-1-FAR-0-26-v1"),
        ("relax_mapping_id", constString "X86-PAUSE-ONE-PER-RELAX-SITE-v1"),
        ("source_revision", identitySchema),
        ("binary_sha256", digestSchema),
        ("stand_id", identitySchema),
        ("binding_id", identitySchema),
        ("package", enum ["R0", "R1", "R2", "L0", "L1"]),
        ("placement", enum ["NEAR", "FAR"]),
        ("producer_cpu", cpuSchema),
        ("consumer_cpu", cpuSchema),
        ("execution_limits", executionLimitsSchema),
        ("evidence", allOf [array, minItems 20, maxItems 20, items evidenceReferenceSchema])],
      placementSchema "NEAR" 0 1,
      placementSchema "FAR" 0 26]

end CpuPrefetch.Runner
