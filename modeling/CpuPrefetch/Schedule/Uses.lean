/-
The schedules a study uses, and which lifecycle roles and treatments may share one.

A pointer of the source is an option here; its maps keep what was there first under each key.
-/
import CpuPrefetch.Lib.Keyed
import CpuPrefetch.Protocol.Schedule

namespace CpuPrefetch.Schedule

open Protocol (Text ScheduleKind ScheduleRecord NamespaceId ValidationError require)

inductive NamespaceRole where
  | warmup
  | calibration
  | pilot
  | h3Train
  | h3Validation
  | h1h2Supplemental
  | diagnostic
  deriving DecidableEq, Repr

structure ScheduleUse where
  schedule : Option ScheduleRecord
  namespaceRole : NamespaceRole
  treatmentId : Text
  commonScheduleFamilyId : Text

def roleMatchesKind : NamespaceRole → ScheduleKind → Bool
  | .warmup, kind => kind = .warmup
  | .calibration, kind => kind = .calibration
  | .pilot, kind => kind = .pilot
  | .h3Train, kind => kind = .confirmatory
  | .h3Validation, kind => kind = .confirmatory
  | .h1h2Supplemental, kind => kind = .confirmatory
  | .diagnostic, kind => kind = .diagnostic

def isConfirmatoryRole (role : NamespaceRole) : Bool :=
  role = .h3Train || role = .h3Validation || role = .h1h2Supplemental

/-- Both records are of one logical schedule. -/
def sameSchedule (left right : ScheduleRecord) : Bool :=
  left.scheduleId = right.scheduleId &&
    left.scheduleSha256 = right.scheduleSha256 &&
    left.decodedDeadlinesSha256 = right.decodedDeadlinesSha256 &&
    left.namespaceId = right.namespaceId &&
    left.rng.parentNamespaceId = right.rng.parentNamespaceId &&
    left.rng.seedId = right.rng.seedId &&
    left.rng.derivationRecordId = right.rng.derivationRecordId &&
    left.rng.algorithm = right.rng.algorithm &&
    left.rng.version = right.rng.version &&
    left.scheduleKind = right.scheduleKind &&
    left.arrivalFamily = right.arrivalFamily &&
    left.timeUnit = right.timeUnit &&
    left.deadlineEncoding = right.deadlineEncoding &&
    left.originTicks = right.originTicks &&
    left.horizonTicks = right.horizonTicks &&
    left.offeredCount = right.offeredCount &&
    left.nominalOfferedRate.numeratorEvents = right.nominalOfferedRate.numeratorEvents &&
    left.nominalOfferedRate.denominatorTicks = right.nominalOfferedRate.denominatorTicks

/-- What the uses so far have claimed; the parent is empty until a confirmatory use names one. -/
structure UseClaims where
  namespaces : List (NamespaceId × NamespaceRole × ScheduleRecord)
  confirmatoryParent : Text
  families : List (Text × ScheduleRecord)

def usePath (index : Nat) : String := "$schedule_uses/" ++ toString index

/-- A child namespace belongs to the role and the logical schedule of its first use. -/
def namespaceErrors (claims : UseClaims) (index : Nat) (use : ScheduleUse)
    (schedule : ScheduleRecord) : List ValidationError :=
  match FirstSeen.find claims.namespaces schedule.namespaceId with
  | none => []
  | some owner =>
      if owner.1 ≠ use.namespaceRole then
        [⟨.duplicateValue, usePath index ++ "/namespace_role", "SCH-NAMESPACE-DISJOINT",
          "distinct lifecycle roles must use disjoint child namespaces"⟩]
      else
        require (sameSchedule owner.2 schedule)
          ⟨.duplicateValue, usePath index ++ "/schedule", "SCH-NAMESPACE-COLLISION",
            "one child namespace cannot identify different logical schedules"⟩

def parentErrors (claims : UseClaims) (index : Nat) (use : ScheduleUse)
    (schedule : ScheduleRecord) : List ValidationError :=
  require (!isConfirmatoryRole use.namespaceRole || claims.confirmatoryParent = [] ||
      claims.confirmatoryParent = schedule.rng.parentNamespaceId.value)
    ⟨.referenceMismatch, usePath index ++ "/schedule/rng/parent_namespace_id",
      "SCH-STAGE-A-PARENT",
      "confirmatory role subspaces must share the common Stage A parent"⟩

def familyErrors (claims : UseClaims) (index : Nat) (use : ScheduleUse)
    (schedule : ScheduleRecord) : List ValidationError :=
  if use.commonScheduleFamilyId = [] then []
  else
    match FirstSeen.find claims.families use.commonScheduleFamilyId with
    | none => []
    | some first =>
        require (sameSchedule first schedule)
          ⟨.referenceMismatch, usePath index ++ "/schedule", "SCH-COMMON-FAMILY",
            "matched treatments in one family must use the same logical schedule"⟩

/-- What is claimed after a use with this schedule. -/
def UseClaims.record (claims : UseClaims) (use : ScheduleUse) (schedule : ScheduleRecord) :
    UseClaims where
  namespaces := FirstSeen.tryEmplace claims.namespaces schedule.namespaceId
    (use.namespaceRole, schedule)
  confirmatoryParent :=
    if isConfirmatoryRole use.namespaceRole && claims.confirmatoryParent = [] then
      schedule.rng.parentNamespaceId.value
    else claims.confirmatoryParent
  families :=
    if use.commonScheduleFamilyId = [] then claims.families
    else FirstSeen.tryEmplace claims.families use.commonScheduleFamilyId schedule

/-- The loop over the uses, from this index on; a use without a record is passed over. -/
def scheduleUseErrors : UseClaims → Nat → List ScheduleUse → List ValidationError
  | _, _, [] => []
  | claims, index, use :: rest =>
      match use.schedule with
      | none =>
          ⟨.missingField, usePath index ++ "/schedule", "SCH-USE-RECORD",
            "schedule use requires a record"⟩ :: scheduleUseErrors claims (index + 1) rest
      | some schedule =>
          require (use.treatmentId ≠ [])
            ⟨.invalidId, usePath index ++ "/treatment_id", "SCH-USE-ID",
              "treatment identity must be explicit"⟩ ++
          require (use.commonScheduleFamilyId ≠ [])
            ⟨.invalidId, usePath index ++ "/common_schedule_family_id", "SCH-FAMILY-ID",
              "common schedule family identity must be explicit"⟩ ++
          require (roleMatchesKind use.namespaceRole schedule.scheduleKind)
            ⟨.crossField, usePath index ++ "/namespace_role", "SCH-NAMESPACE-ROLE",
              "namespace role does not match schedule kind"⟩ ++
          namespaceErrors claims index use schedule ++
          parentErrors claims index use schedule ++
          familyErrors claims index use schedule ++
          scheduleUseErrors (claims.record use schedule) (index + 1) rest

def validateScheduleUses (uses : List ScheduleUse) : List ValidationError :=
  scheduleUseErrors ⟨[], [], []⟩ 0 uses

end CpuPrefetch.Schedule
