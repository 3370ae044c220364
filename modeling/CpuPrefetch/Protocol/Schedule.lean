/-
Schedule records, and what their own fields must satisfy.

The schema identity of a record, and where its artifact is stored, are read by no validator
here and are left out.
-/
import CpuPrefetch.Protocol.Json
import CpuPrefetch.Protocol.Semantic

namespace CpuPrefetch.Protocol

inductive ScheduleKind where
  | warmup
  | calibration
  | pilot
  | confirmatory
  | diagnostic
  | stageB
  | stageC
  deriving DecidableEq, Repr

inductive ArrivalFamily where
  | poissonExponential
  | continuousReady
  | predeclaredBurst
  | predeclaredOther
  deriving DecidableEq, Repr

inductive DeadlineEncoding where
  | absoluteIntegerTicks
  | deltaIntegerTicks
  deriving DecidableEq, Repr

structure ExactRate where
  numeratorEvents : UInt64
  denominatorTicks : UInt64
  deriving DecidableEq, Repr

structure RngMetadata where
  algorithm : Text
  version : Text
  seedId : SeedId
  derivationRecordId : RecordId
  parentNamespaceId : NamespaceId
  deriving DecidableEq

inductive DeadlineStorage where
  | external (rowCount byteCount : UInt64) (artifactSha256 : Sha256)
  | inline (deadlineTicks : List UInt64)
  deriving DecidableEq

structure ScheduleRecord where
  scheduleId : ScheduleId
  scheduleKind : ScheduleKind
  arrivalFamily : ArrivalFamily
  namespaceId : NamespaceId
  rng : RngMetadata
  timeUnit : Text
  deadlineEncoding : DeadlineEncoding
  originTicks : UInt64
  horizonTicks : UInt64
  offeredCount : UInt64
  nominalOfferedRate : ExactRate
  overflowRuleRecordId : RecordId
  deadlineStorage : DeadlineStorage
  decodedDeadlinesSha256 : Sha256
  scheduleSha256 : Sha256
  sourceDocument : Json.Value

/-! ### The record-local rules -/

def tickPath (index : Nat) : String :=
  "$out/deadline_storage/deadline_ticks/" ++ toString index

/-- The two rules of one decoded deadline, given the one before it. -/
def tickErrors (schedule : ScheduleRecord) (horizonEnd : UInt64) (previous : Option UInt64)
    (index : Nat) (deadline : UInt64) : List ValidationError :=
  require (!(previous.any fun before => deadline < before))
    ⟨.crossField, tickPath index, "SCH-NONDECREASING", "decoded deadlines must be nondecreasing"⟩ ++
  require (!(deadline < schedule.originTicks || deadline ≥ horizonEnd))
    ⟨.crossField, tickPath index, "SCH-HALF-OPEN",
      "decoded deadline is outside [origin, origin+horizon)"⟩

/-- The loop over inline deadlines; a delta that overflows is reported and passed over. -/
def ticksErrors (schedule : ScheduleRecord) (horizonEnd : UInt64) :
    Option UInt64 → UInt64 → Nat → List UInt64 → List ValidationError
  | _, _, _, [] => []
  | previous, accumulated, index, encoded :: rest =>
      match schedule.deadlineEncoding with
      | .absoluteIntegerTicks =>
          tickErrors schedule horizonEnd previous index encoded ++
            ticksErrors schedule horizonEnd (some encoded) accumulated (index + 1) rest
      | .deltaIntegerTicks =>
          match checkedAdd accumulated encoded with
          | none =>
              ⟨.outOfRange, tickPath index, "SCH-DELTA-OVERFLOW",
                "delta decoding overflows the 64-bit tick domain"⟩ ::
                ticksErrors schedule horizonEnd previous accumulated (index + 1) rest
          | some deadline =>
              tickErrors schedule horizonEnd previous index deadline ++
                ticksErrors schedule horizonEnd (some deadline) deadline (index + 1) rest

def validateSchedule (schedule : ScheduleRecord) : List ValidationError :=
  require (schedule.horizonTicks ≠ 0)
    ⟨.outOfRange, "$out/horizon_ticks", "SCH-HORIZON", "schedule horizon must be positive"⟩ ++
  require (schedule.nominalOfferedRate.denominatorTicks ≠ 0)
    ⟨.outOfRange, "$out/nominal_offered_rate/denominator_ticks", "SCH-RATE-DENOMINATOR",
      "exact rate denominator must be positive"⟩ ++
  require (!(schedule.scheduleKind = .confirmatory &&
      schedule.arrivalFamily ≠ .poissonExponential))
    ⟨.crossField, "$out/arrival_family", "SCH-CONFIRMATORY-FAMILY",
      "confirmatory schedules require POISSON_EXPONENTIAL arrivals"⟩ ++
  match schedule.deadlineStorage with
  | .external rowCount _ _ =>
      require (rowCount = schedule.offeredCount)
        ⟨.crossField, "$out/deadline_storage/row_count", "SCH-ROW-COUNT",
          "external schedule row count must equal offered_count"⟩
  | .inline encoded =>
      require (encoded.length = schedule.offeredCount.toNat)
        ⟨.crossField, "$out/deadline_storage/deadline_ticks", "SCH-DECODED-COUNT",
          "decoded deadline count must equal offered_count"⟩ ++
      match checkedAdd schedule.originTicks schedule.horizonTicks with
      | none =>
          [⟨.outOfRange, "$out/horizon_ticks", "SCH-HORIZON-OVERFLOW",
            "origin plus horizon overflows the 64-bit tick domain"⟩]
      | some horizonEnd =>
          ticksErrors schedule horizonEnd none schedule.originTicks 0 encoded

end CpuPrefetch.Protocol
