/-
Preparing a schedule: its record, its artifact and its derivation record, checked
against each other.

The digest is OpenSSL's, so `sha256` is a parameter: the hexadecimal digest of a byte
string, or the empty text when OpenSSL fails.
-/
import CpuPrefetch.Protocol.Schedule

namespace CpuPrefetch.Schedule

open Protocol (Text ascii lowercaseHex ScheduleRecord ValidationError Result require)
open Protocol.Json (CharConv Object Value)

def kScheduleAlgorithm : Text := ascii "POISSON-EXPONENTIAL-PHILOX-DECIMAL80-FLOOR-ABS-PS"
def kScheduleVersion : Text := ascii "1"
def kScheduleSuite : Text := ascii "POISSON-EXPONENTIAL-PHILOX-DECIMAL80-FLOOR-ABS-PS-v1"
def kScheduleTimeUnit : Text := ascii "ps"
def kScheduleOverflowRule : Text := ascii "SCHEDULE-U64-ABS-FAIL-CLOSED-v1"
def kDerivationSchema : Text := ascii "cpu-prefetch-schedule-derivation-v1"
def kDerivationHashProfile : Text := ascii "SCHEDULE-DERIVATION-JCS-I64-ZEROSELF-SHA256-v1"
def kDerivationDomainProtocolVersion : Text := ascii "2.0.0-pre.1"
def kProtocolVersion : Text := ascii "2.0.0-pre.2"
def kCanonicalizationSuite : Text := ascii "JCS-I64-v1"

/-! ### Digests -/

def u64Be (value : UInt64) : Text :=
  [56, 48, 40, 32, 24, 16, 8, 0].map fun shift : UInt64 => (value >>> shift).toUInt8

def decodeU64Be (input : Text) : UInt64 :=
  input.foldl (fun result byte => (result <<< 8) ||| byte.toUInt64) 0

/-- `append_field`: a text with its length before it. -/
def field (value : Text) : Text := u64Be (.ofNat value.length) ++ value

def integerField (value : UInt64) : Text := field (u64Be value)

def decodedHash (sha256 : Text → Text) (record : ScheduleRecord) (deadlines : List UInt64) : Text :=
  sha256 (field (ascii "cpu-prefetch/decoded-deadlines-sha256/v1") ++
    field kDerivationDomainProtocolVersion ++ field kScheduleSuite ++ field kScheduleTimeUnit ++
    integerField record.originTicks ++ integerField record.horizonTicks ++
    integerField record.nominalOfferedRate.numeratorEvents ++
    integerField record.nominalOfferedRate.denominatorTicks ++
    integerField (.ofNat deadlines.length) ++ deadlines.flatMap integerField)

/-- Sixty-four zeros, in the place of a record's own digest. -/
def zeroSha256 : Value := .string (List.replicate 64 48)

variable (conv : CharConv)

def envelopeHash (sha256 : Text → Text) (record : ScheduleRecord) : Result Text :=
  match record.sourceDocument with
  | .object source =>
      match Object.find (ascii "schedule_sha256") source with
      | none => .error [⟨.missingField, "$out/schedule_sha256", "SCH-ENVELOPE-HASH",
          "schedule hash field is missing"⟩]
      | some _ => do
          let canonical ← Protocol.Json.canonicalize conv
            (.object (Object.assign (ascii "schedule_sha256") zeroSha256 source))
          if sha256 canonical = [] then
            .error [⟨.missingEvidence, "$out/schedule_sha256", "SCH-SHA256",
              "OpenSSL SHA-256 failed"⟩]
          else .ok (sha256 canonical)
  | _ => .error [⟨.invalidType, "$out", "SCH-ENVELOPE-OBJECT",
      "schedule source document must be an object"⟩]

/-! ### The derivation record -/

def expectedFields : List String :=
  ["record_schema", "protocol_version", "record_id", "schedule_suite", "base_rng_suite",
    "purpose", "seed_id", "parent_namespace_id", "namespace_id", "derived_key_u32be_hex",
    "python_version", "decimal_version", "libmpdec_version", "canonicalization_suite",
    "record_hash_profile", "record_sha256"]

/-- The text of a field; empty, with an error, when there is none. -/
def derivationField (object : Object) (name : String) : Text × List ValidationError :=
  match Object.find (ascii name) object with
  | none => ([], [⟨.missingField, "$derivation/" ++ name, "SCH-DERIVATION-FIELD",
      "required schedule derivation field is missing"⟩])
  | some (.string value) => (value, [])
  | some _ => ([], [⟨.invalidType, "$derivation/" ++ name, "SCH-DERIVATION-FIELD",
      "schedule derivation fields must be strings"⟩])

/-- A field bound to a value; a field that gave no text has been reported already. -/
def expectBinding (object : Object) (expected : Text) (name rule : String) :
    List ValidationError :=
  let actual := (derivationField object name).1
  require (actual = [] || actual = expected)
    ⟨.referenceMismatch, "$derivation/" ++ name, rule,
      "schedule derivation value does not match its accepted binding"⟩

/-- The record's own digest, taken with zeros in its place. -/
def derivationHashErrors (sha256 : Text → Text) (object : Object) : List ValidationError :=
  let declared := (derivationField object "record_sha256").1
  if declared.length ≠ 64 || !lowercaseHex declared then
    [⟨.invalidHash, "$derivation/record_sha256", "SCH-DERIVATION-HASH",
      "derivation SHA-256 must be lowercase hexadecimal"⟩]
  else
    match Protocol.Json.canonicalize conv
      (.object (Object.assign (ascii "record_sha256") zeroSha256 object)) with
    | .error errors => errors
    | .ok canonical =>
        if sha256 canonical = [] then
          [⟨.missingEvidence, "$derivation/record_sha256", "SCH-SHA256", "OpenSSL SHA-256 failed"⟩]
        else
          require (sha256 canonical = declared)
            ⟨.referenceMismatch, "$derivation/record_sha256", "SCH-DERIVATION-HASH",
              "canonical derivation SHA-256 does not match"⟩

def derivationObjectErrors (sha256 : Text → Text) (schedule : ScheduleRecord) (object : Object) :
    List ValidationError :=
  let text name := (derivationField object name).1
  (object.flatMap fun member =>
    require (decide (member.1 ∈ expectedFields.map ascii))
      ⟨.unknownField, "$derivation/" ++ member.1.shown, "SCH-DERIVATION-FIELD",
        "unknown schedule derivation field"⟩) ++
  (expectedFields.flatMap fun name => (derivationField object name).2) ++
  expectBinding object kDerivationSchema "record_schema" "SCH-DERIVATION-SCHEMA" ++
  expectBinding object kProtocolVersion "protocol_version" "SCH-DERIVATION-PROTOCOL" ++
  expectBinding object schedule.rng.derivationRecordId.value "record_id"
    "SCH-DERIVATION-RECORD-ID" ++
  expectBinding object kScheduleSuite "schedule_suite" "SCH-DERIVATION-SUITE" ++
  expectBinding object (ascii "PHILOX4X32-10-HMAC-SHA256-v1") "base_rng_suite"
    "SCH-DERIVATION-BASE-RNG" ++
  expectBinding object (ascii "arrival-schedule") "purpose" "SCH-DERIVATION-PURPOSE" ++
  expectBinding object schedule.rng.seedId.value "seed_id" "SCH-DERIVATION-SEED" ++
  expectBinding object schedule.rng.parentNamespaceId.value "parent_namespace_id"
    "SCH-DERIVATION-PARENT" ++
  expectBinding object schedule.namespaceId.value "namespace_id" "SCH-DERIVATION-NAMESPACE" ++
  expectBinding object kCanonicalizationSuite "canonicalization_suite"
    "SCH-DERIVATION-CANONICAL" ++
  expectBinding object kDerivationHashProfile "record_hash_profile"
    "SCH-DERIVATION-HASH-PROFILE" ++
  require ((text "derived_key_u32be_hex").length = 16 &&
      lowercaseHex (text "derived_key_u32be_hex"))
    ⟨.invalidHash, "$derivation/derived_key_u32be_hex", "SCH-DERIVATION-KEY",
      "derived Philox key identity must be 16 lowercase hex digits"⟩ ++
  require ((ascii "3.14.").isPrefixOf (text "python_version") && text "decimal_version" ≠ [] &&
      text "libmpdec_version" ≠ [])
    ⟨.unsupportedVersion, "$derivation/python_version", "SCH-DERIVATION-RUNTIME",
      "derivation must record Python 3.14.x and exact decimal/libmpdec versions"⟩ ++
  derivationHashErrors conv sha256 object

def validateDerivationRecord (sha256 : Text → Text) (schedule : ScheduleRecord)
    (derivationRecordJson : Text) : List ValidationError :=
  match Protocol.Json.parse conv derivationRecordJson with
  | .error errors => errors
  | .ok (.object object) => derivationObjectErrors conv sha256 schedule object
  | .ok _ => [⟨.invalidType, "$derivation", "SCH-DERIVATION-OBJECT",
      "schedule derivation record must be an object"⟩]

/-! ### Decoding -/

structure PreparedSchedule where
  deadlines : List UInt64
  artifactSha256 : Text
  decodedDeadlinesSha256 : Text
  scheduleSha256 : Text
  deriving DecidableEq

/-- The checks made before the artifact is looked at. -/
def identityErrors (sha256 : Text → Text) (record : ScheduleRecord) (derivationRecordJson : Text) :
    List ValidationError :=
  Protocol.validateSchedule record ++
  validateDerivationRecord conv sha256 record derivationRecordJson ++
  require (record.arrivalFamily = .poissonExponential)
    ⟨.crossField, "$out/arrival_family", "SCH-SUITE-FAMILY",
      "ADR-0029 requires POISSON_EXPONENTIAL"⟩ ++
  require (record.rng.algorithm = kScheduleAlgorithm && record.rng.version = kScheduleVersion)
    ⟨.unsupportedVersion, "$out/rng", "SCH-SUITE-ID",
      "schedule RNG algorithm/version does not identify ADR-0029"⟩ ++
  require (record.timeUnit = kScheduleTimeUnit)
    ⟨.invalidUnit, "$out/time_unit", "SCH-TIME-UNIT",
      "ADR-0029 requires picosecond schedule ticks"⟩ ++
  require (record.deadlineEncoding = .absoluteIntegerTicks)
    ⟨.unknownEnum, "$out/deadline_encoding", "SCH-SUITE-ENCODING",
      "ADR-0029 requires absolute integer deadlines"⟩ ++
  require (record.overflowRuleRecordId.value = kScheduleOverflowRule)
    ⟨.referenceMismatch, "$out/overflow_rule_record_id", "SCH-OVERFLOW-RULE",
      "schedule does not bind the accepted overflow rule"⟩ ++
  require (record.nominalOfferedRate.numeratorEvents ≠ 0 &&
      record.nominalOfferedRate.denominatorTicks ≠ 0 &&
      record.nominalOfferedRate.numeratorEvents.toNat.gcd
        record.nominalOfferedRate.denominatorTicks.toNat = 1)
    ⟨.crossField, "$out/nominal_offered_rate", "SCH-RATE-CANONICAL",
      "ADR-0029 requires a positive reduced rational rate"⟩ ++
  require (record.horizonTicks.toNat ≤ 2 ^ 64 - 1 - record.originTicks.toNat)
    ⟨.outOfRange, "$out/horizon_ticks", "SCH-HORIZON-OVERFLOW",
      "origin plus horizon overflows uint64"⟩

/-- What must hold of the artifact before its deadlines are read. -/
def artifactErrors (sha256 : Text → Text) (record : ScheduleRecord) (artifactBytes : Text) :
    List ValidationError :=
  match record.deadlineStorage with
  | .external _ byteCount artifactSha256 =>
      require (record.offeredCount.toNat ≤ (2 ^ 64 - 1) / 8 && byteCount = record.offeredCount * 8)
        ⟨.outOfRange, "$out/deadline_storage/byte_count", "SCH-BYTE-COUNT",
          "byte_count must equal eight times offered_count"⟩ ++
      require (artifactBytes.length = byteCount.toNat)
        ⟨.crossField, "$artifact", "SCH-ARTIFACT-SIZE",
          "artifact size does not equal byte_count"⟩ ++
      (if sha256 artifactBytes = [] then
        [⟨.missingEvidence, "$artifact", "SCH-SHA256", "OpenSSL SHA-256 failed"⟩]
      else
        require (sha256 artifactBytes = artifactSha256.hex)
          ⟨.referenceMismatch, "$out/deadline_storage/artifact_sha256", "SCH-ARTIFACT-HASH",
            "artifact SHA-256 does not match the envelope"⟩)
  | .inline _ =>
      require (artifactBytes = [])
        ⟨.crossField, "$artifact", "SCH-INLINE-BYTES",
          "inline test schedules do not accept external bytes"⟩

/-- The deadlines the record's storage spells, eight bytes each when they are external. -/
def storedDeadlines (record : ScheduleRecord) (artifactBytes : Text) : List UInt64 :=
  match record.deadlineStorage with
  | .external .. =>
      (List.range (artifactBytes.length / 8)).map fun index =>
        decodeU64Be ((artifactBytes.drop (index * 8)).take 8)
  | .inline deadlineTicks => deadlineTicks

def deadlinePath (index : Nat) : String := "$deadlines/" ++ toString index

/-- The loop over the decoded deadlines from this index on, given the one before. -/
def deadlineErrors (record : ScheduleRecord) : Option UInt64 → Nat → List UInt64 →
    List ValidationError
  | _, _, [] => []
  | previous, index, deadline :: rest =>
      require (!(previous.any fun before => deadline < before))
        ⟨.crossField, deadlinePath index, "SCH-NONDECREASING",
          "decoded deadlines must be nondecreasing"⟩ ++
      require (!(deadline < record.originTicks ||
          deadline ≥ record.originTicks + record.horizonTicks))
        ⟨.crossField, deadlinePath index, "SCH-HALF-OPEN",
          "decoded deadline is outside [origin, origin+horizon)"⟩ ++
      deadlineErrors record (some deadline) (index + 1) rest

/-- What must hold of the decoded deadlines and of the record's digests. -/
def decodedErrors (sha256 : Text → Text) (record : ScheduleRecord) (deadlines : List UInt64) :
    List ValidationError :=
  require (deadlines.length = record.offeredCount.toNat)
    ⟨.crossField, "$out/offered_count", "SCH-DECODED-COUNT",
      "decoded deadline count does not equal offered_count"⟩ ++
  deadlineErrors record none 0 deadlines ++
  (if decodedHash sha256 record deadlines = [] then
    [⟨.missingEvidence, "$out/decoded_deadlines_sha256", "SCH-SHA256", "OpenSSL SHA-256 failed"⟩]
  else
    require (decodedHash sha256 record deadlines = record.decodedDeadlinesSha256.hex)
      ⟨.referenceMismatch, "$out/decoded_deadlines_sha256", "SCH-DECODED-HASH",
        "decoded deadline SHA-256 does not match the envelope"⟩) ++
  (match envelopeHash conv sha256 record with
    | .error errors => errors
    | .ok computed =>
        require (computed = record.scheduleSha256.hex)
          ⟨.referenceMismatch, "$out/schedule_sha256", "SCH-ENVELOPE-HASH",
            "canonical schedule SHA-256 does not match"⟩)

/-- The digest of the artifact; an inline schedule has none. -/
def artifactHash (sha256 : Text → Text) (record : ScheduleRecord) (artifactBytes : Text) : Text :=
  match record.deadlineStorage with
  | .external .. => sha256 artifactBytes
  | .inline _ => []

def decodeAndValidate (sha256 : Text → Text) (record : ScheduleRecord)
    (artifactBytes derivationRecordJson : Text) : Result PreparedSchedule :=
  match identityErrors conv sha256 record derivationRecordJson with
  | [] =>
      match artifactErrors sha256 record artifactBytes with
      | [] =>
          let deadlines := storedDeadlines record artifactBytes
          match decodedErrors conv sha256 record deadlines with
          | [] => do
              let computed ← envelopeHash conv sha256 record
              .ok ⟨deadlines, artifactHash sha256 record artifactBytes,
                decodedHash sha256 record deadlines, computed⟩
          | errors => .error errors
      | errors => .error errors
  | errors => .error errors

end CpuPrefetch.Schedule
