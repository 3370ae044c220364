/-
The two schedule validators.

A schedule's horizon is a length of time: the protocol layer takes its end to be
`origin + horizon`, as the generator does.  The lifecycle layer takes `horizon_ticks`
itself for the end.  Both loops accept the same kind of list, nondecreasing and inside a
window, so they differ exactly where the windows do.
-/
import CpuPrefetch.Lib.Fallible
import CpuPrefetch.Lifecycle.Runtime
import CpuPrefetch.Schedule.Schedule

namespace CpuPrefetch.Schedule

open Lifecycle (PreparedScheduleView)
open Protocol (Text ascii Sha256 ScheduleRecord ValidationError require)
open Protocol.Json (CharConv Value Object)

/-! ### Loops over deadlines -/

/-- The deadlines do not go back, and all are in the window. -/
structure DeadlineRules (first last : Nat) (deadlines : List UInt64) : Prop where
  ordered : deadlines.Pairwise (· ≤ ·)
  within : ∀ deadline ∈ deadlines, first ≤ deadline.toNat ∧ deadline.toNat < last

/-- One more deadline: it follows the one before it, and the rest follow it. -/
theorem deadlineRules_cons {first last : Nat} {previous : Option UInt64} {deadline : UInt64}
    {rest : List UInt64} :
    ((∀ before ∈ previous, ∀ later ∈ deadline :: rest, before ≤ later) ∧
        DeadlineRules first last (deadline :: rest)) ↔
      (∀ before ∈ previous, before ≤ deadline) ∧
        (first ≤ deadline.toNat ∧ deadline.toNat < last) ∧
        (∀ before ∈ some deadline, ∀ later ∈ rest, before ≤ later) ∧
        DeadlineRules first last rest := by
  constructor
  · rintro ⟨hbefore, hrules⟩
    obtain ⟨hmin, hordered⟩ := List.pairwise_cons.mp hrules.ordered
    refine ⟨fun before hprevious => hbefore before hprevious deadline List.mem_cons_self,
      hrules.within deadline List.mem_cons_self, ?_, hordered, ?_⟩
    · intro before hbefore
      obtain rfl := Option.some.inj hbefore
      exact hmin
    · intro other hother
      exact hrules.within other (List.mem_cons_of_mem deadline hother)
  · rintro ⟨hbefore, hwindow, hlater, hrest⟩
    have hmin : ∀ later ∈ rest, deadline ≤ later := hlater deadline rfl
    refine ⟨?_, List.pairwise_cons.mpr ⟨hmin, hrest.ordered⟩, ?_⟩
    · intro before hprevious other hother
      rcases List.mem_cons.mp hother with rfl | hother
      · exact hbefore before hprevious
      · exact UInt64.le_trans (hbefore before hprevious) (hmin other hother)
    · intro other hother
      rcases List.mem_cons.mp hother with rfl | hother
      · exact hwindow
      · exact hrest.within other hother

/--
A loop that compares every deadline with the one before it and with the window accepts
the lists that keep the rules.
-/
theorem deadlineRules_iff (accepts : Option UInt64 → Nat → List UInt64 → Prop) (first last : Nat)
    (hnil : ∀ previous index, accepts previous index [])
    (hcons : ∀ previous index deadline rest, accepts previous index (deadline :: rest) ↔
      (∀ before ∈ previous, before ≤ deadline) ∧
        (first ≤ deadline.toNat ∧ deadline.toNat < last) ∧
        accepts (some deadline) (index + 1) rest)
    (previous : Option UInt64) (index : Nat) (deadlines : List UInt64) :
    accepts previous index deadlines ↔
      (∀ before ∈ previous, ∀ deadline ∈ deadlines, before ≤ deadline) ∧
        DeadlineRules first last deadlines := by
  induction deadlines generalizing previous index with
  | nil => exact ⟨fun _ => ⟨nofun, .nil, nofun⟩, fun _ => hnil previous index⟩
  | cons deadline rest ih => rw [hcons, ih, deadlineRules_cons]

/-- The lifecycle layer accepts what is inside `[origin, horizon)`. -/
theorem validatePreparedSchedule_iff (view : PreparedScheduleView) :
    view.validatePreparedSchedule = [] ↔
      view.originTicks ≤ view.horizonTicks ∧
        DeadlineRules view.originTicks.toNat view.horizonTicks.toNat view.deadlineTicks := by
  have hloop := deadlineRules_iff
    (fun previous index deadlines => view.deadlinesErrors previous index deadlines = [])
    view.originTicks.toNat view.horizonTicks.toNat (fun _ _ => rfl) ?_ none 0 view.deadlineTicks
  · rw [PreparedScheduleView.validatePreparedSchedule, List.append_eq_nil_iff, hloop]
    simp
  · intro previous index deadline rest
    cases previous <;>
      simp [PreparedScheduleView.deadlinesErrors, PreparedScheduleView.deadlineErrors,
        UInt64.le_iff_toNat_le, UInt64.lt_iff_toNat_lt, and_assoc, and_left_comm]

/-- The protocol layer accepts what is inside `[origin, origin + horizon)`. -/
theorem deadlineErrors_iff (record : ScheduleRecord)
    (hend : record.originTicks.toNat + record.horizonTicks.toNat < 2 ^ 64)
    (deadlines : List UInt64) :
    deadlineErrors record none 0 deadlines = [] ↔
      DeadlineRules record.originTicks.toNat
        (record.originTicks.toNat + record.horizonTicks.toNat) deadlines := by
  have hloop := deadlineRules_iff
    (fun previous index deadlines => deadlineErrors record previous index deadlines = [])
    record.originTicks.toNat (record.originTicks.toNat + record.horizonTicks.toNat)
    (fun _ _ => rfl) ?_ none 0 deadlines
  · rw [hloop]
    simp
  · intro previous index deadline rest
    have hsum : (record.originTicks + record.horizonTicks).toNat =
        record.originTicks.toNat + record.horizonTicks.toNat := by
      rw [UInt64.toNat_add]
      exact Nat.mod_eq_of_lt hend
    cases previous <;>
      simp [deadlineErrors, UInt64.le_iff_toNat_le, UInt64.lt_iff_toNat_lt, hsum, and_assoc]

/-! ### An example: one deadline, at 1200 ps -/

namespace Example

/-- A derivation record of a schema and a digest, as the generator writes it. -/
def derivationText (schema digest : String) : Text :=
  ascii "\x7b\"base_rng_suite\":\"PHILOX4X32-10-HMAC-SHA256-v1\"," ++
    ascii "\"canonicalization_suite\":\"JCS-I64-v1\",\"decimal_version\":\"1.70\"," ++
    ascii "\"derived_key_u32be_hex\":\"0123456789abcdef\",\"libmpdec_version\":\"2.5.1\"," ++
    ascii "\"namespace_id\":\"namespace-1\",\"parent_namespace_id\":\"parent-1\"," ++
    ascii "\"protocol_version\":\"2.0.0-pre.2\",\"purpose\":\"arrival-schedule\"," ++
    ascii "\"python_version\":\"3.14.0\"," ++
    ascii "\"record_hash_profile\":\"SCHEDULE-DERIVATION-JCS-I64-ZEROSELF-SHA256-v1\"," ++
    ascii "\"record_id\":\"derivation-1\",\"record_schema\":\"" ++ ascii schema ++
    ascii "\",\"record_sha256\":\"" ++ ascii digest ++
    ascii "\",\"schedule_suite\":\"POISSON-EXPONENTIAL-PHILOX-DECIMAL80-FLOOR-ABS-PS-v1\"," ++
    ascii "\"seed_id\":\"seed-1\"\x7d"

def derivationRecordJson : Text :=
  derivationText "cpu-prefetch-schedule-derivation-v1"
    "af9303718345a2d32a15f45826d262307a026834cb7be613a045fcf519efad69"

/-- The deadlines of the schedule, the last two at once. -/
def deadlines : List UInt64 := [1100, 1200, 1200]

def artifactBytes : Text :=
  [0, 0, 0, 0, 0, 0, 4, 76, 0, 0, 0, 0, 0, 0, 4, 176, 0, 0, 0, 0, 0, 0, 4, 176]

def artifactSha256 : Sha256 :=
  ⟨ascii "de384153f4c660902e9565fc51eefb7cce8f276719c5c73c0dc8afdb5a66613f", by decide⟩

/-- The members of the envelope that a schedule was read from. -/
def envelope (origin horizon : UInt64) (decoded schedule : Sha256) : Object :=
  let text (literal : String) : Value := .string (ascii literal)
  let count (value : UInt64) : Value :=
    .number (.unsignedInteger (Protocol.decimal value.toNat) value)
  Object.of
    [(ascii "schema_version", text "2.0.0-pre.2"), (ascii "protocol_version", text "2.0.0-pre.2"),
      (ascii "schedule_id", text "schedule-1"), (ascii "schedule_kind", text "DIAGNOSTIC"),
      (ascii "arrival_family", text "POISSON_EXPONENTIAL"),
      (ascii "namespace_id", text "namespace-1"),
      (ascii "rng", .object (Object.of
        [(ascii "algorithm", text "POISSON-EXPONENTIAL-PHILOX-DECIMAL80-FLOOR-ABS-PS"),
          (ascii "version", text "1"), (ascii "seed_id", text "seed-1"),
          (ascii "derivation_record_id", text "derivation-1"),
          (ascii "parent_namespace_id", text "parent-1")])),
      (ascii "time_unit", text "ps"), (ascii "deadline_encoding", text "ABSOLUTE_INTEGER_TICKS"),
      (ascii "origin_ticks", count origin), (ascii "horizon_ticks", count horizon),
      (ascii "inclusion_boundary", .object (Object.of
        [(ascii "start_inclusive", .boolean true), (ascii "end_exclusive", .boolean true)])),
      (ascii "offered_count", count 3),
      (ascii "nominal_offered_rate", .object (Object.of
        [(ascii "numerator_events", count 1), (ascii "denominator_ticks", count 1000)])),
      (ascii "overflow_rule_record_id", text "SCHEDULE-U64-ABS-FAIL-CLOSED-v1"),
      (ascii "immutable_ordering", .boolean true),
      (ascii "deadline_storage", .object (Object.of
        [(ascii "mode", text "EXTERNAL_IMMUTABLE_ARTIFACT"),
          (ascii "artifact_id", text "artifact-1"),
          (ascii "artifact_uri", text "file:///schedule-1"), (ascii "row_count", count 3),
          (ascii "byte_count", count 24), (ascii "artifact_sha256", .string artifactSha256.hex)])),
      (ascii "decoded_deadlines_sha256", .string decoded.hex),
      (ascii "schedule_sha256", .string schedule.hex)]

def record (origin horizon : UInt64) (decoded schedule : Sha256) : ScheduleRecord where
  scheduleId := ⟨ascii "schedule-1", by decide⟩
  scheduleKind := .diagnostic
  arrivalFamily := .poissonExponential
  namespaceId := ⟨ascii "namespace-1", by decide⟩
  rng :=
    { algorithm := kScheduleAlgorithm
      version := kScheduleVersion
      seedId := ⟨ascii "seed-1", by decide⟩
      derivationRecordId := ⟨ascii "derivation-1", by decide⟩
      parentNamespaceId := ⟨ascii "parent-1", by decide⟩ }
  timeUnit := kScheduleTimeUnit
  deadlineEncoding := .absoluteIntegerTicks
  originTicks := origin
  horizonTicks := horizon
  offeredCount := 3
  nominalOfferedRate := ⟨1, 1000⟩
  overflowRuleRecordId := ⟨kScheduleOverflowRule, by decide⟩
  deadlineStorage := .external 3 24 artifactSha256
  decodedDeadlinesSha256 := decoded
  scheduleSha256 := schedule
  sourceDocument := .object (envelope origin horizon decoded schedule)

/-- The SHA-256 digests of the four texts that are hashed, told apart by their lengths. -/
def digest (decoded schedule : Sha256) (text : Text) : Text :=
  if text.length = 24 then artifactSha256.hex
  else if text.length = 265 then decoded.hex
  else if text.length = 658 then
    ascii "af9303718345a2d32a15f45826d262307a026834cb7be613a045fcf519efad69"
  else schedule.hex

/-- No number of the example is binary64. -/
def conv : CharConv := ⟨fun _ => none, fun _ => none⟩

/-- The digests of the schedule that starts at 1000 ps and lasts 500 ps. -/
def lateDecoded : Sha256 :=
  ⟨ascii "59d32540d4f37413b59600ef88cd9f429d69c18c579edc8ee4739f78ae100c65", by decide⟩

def lateSchedule : Sha256 :=
  ⟨ascii "7a307cba0545545045499d9c6cbbb97f76eec774e0b8c0a82fa44a2f41b35f5a", by decide⟩

/-- The digests of the schedule that starts at 0 ps and lasts 5000 ps. -/
def earlyDecoded : Sha256 :=
  ⟨ascii "2e7239b305402c1bffdda432cf153740b3a5a6d6e636977ccbb5309f7de75ff6", by decide⟩

def earlySchedule : Sha256 :=
  ⟨ascii "4aa52f7e8a1dbefe157af507937ddf9a88181a94587df3ed48607697495de436", by decide⟩

end Example

open Example

/-! ### Agreement -/

section Agreement

variable {conv : CharConv} {sha256 : Text → Text} {record : ScheduleRecord}
  {artifactBytes derivationRecordJson : Text} {prepared : PreparedSchedule}

/-- What the protocol layer has checked about a schedule it prepares. -/
structure Prepared (record : ScheduleRecord) (artifactBytes : Text)
    (prepared : PreparedSchedule) : Prop where
  deadlines : prepared.deadlines = storedDeadlines record artifactBytes
  count : prepared.deadlines.length = record.offeredCount.toNat
  horizonEnd : record.originTicks.toNat + record.horizonTicks.toNat < 2 ^ 64
  rules : DeadlineRules record.originTicks.toNat
    (record.originTicks.toNat + record.horizonTicks.toNat) prepared.deadlines

theorem decodeAndValidate_ok
    (h : decodeAndValidate conv sha256 record artifactBytes derivationRecordJson =
      .ok prepared) : Prepared record artifactBytes prepared := by
  unfold decodeAndValidate at h
  split at h
  · rename_i hidentity
    split at h
    · simp only at h
      split at h
      · rename_i hdecoded
        obtain ⟨computed, -, h⟩ := Fallible.bind_ok h
        obtain rfl := Except.ok.inj h
        have hhorizon : record.originTicks.toNat + record.horizonTicks.toNat < 2 ^ 64 := by
          have hlast := (List.append_eq_nil_iff.mp hidentity).2
          have hle : record.horizonTicks.toNat ≤ 2 ^ 64 - 1 - record.originTicks.toNat := by
            simpa using hlast
          have hlt := record.originTicks.toNat_lt
          omega
        simp only [decodedErrors, List.append_eq_nil_iff] at hdecoded
        obtain ⟨⟨⟨hcount, hdeadlines⟩, -⟩, -⟩ := hdecoded
        exact
          { deadlines := rfl
            count := by simpa using hcount
            horizonEnd := hhorizon
            rules := (deadlineErrors_iff record hhorizon _).mp hdeadlines }
      · cases h
    · cases h
  · cases h

theorem Sha256.hex_ne_nil (digest : Sha256) : digest.hex ≠ [] := by
  intro hnil
  have hvalid := digest.valid
  rw [hnil] at hvalid
  cases hvalid

/-- A schedule that passes every check is prepared, with the digests that were checked. -/
theorem decodeAndValidate_of_checks
    (hidentity : identityErrors conv sha256 record derivationRecordJson = [])
    (hartifact : artifactErrors sha256 record artifactBytes = [])
    (hcount : (storedDeadlines record artifactBytes).length = record.offeredCount.toNat)
    (hdeadlines : deadlineErrors record none 0 (storedDeadlines record artifactBytes) = [])
    (hdecoded : decodedHash sha256 record (storedDeadlines record artifactBytes) =
      record.decodedDeadlinesSha256.hex)
    (hhash : envelopeHash conv sha256 record = .ok record.scheduleSha256.hex) :
    decodeAndValidate conv sha256 record artifactBytes derivationRecordJson =
      .ok ⟨storedDeadlines record artifactBytes, artifactHash sha256 record artifactBytes,
        record.decodedDeadlinesSha256.hex, record.scheduleSha256.hex⟩ := by
  have hnone : decodedErrors conv sha256 record (storedDeadlines record artifactBytes) = [] := by
    unfold decodedErrors
    rw [hdeadlines, hdecoded, hhash, if_neg (Sha256.hex_ne_nil _)]
    simp [Protocol.require, hcount]
  unfold decodeAndValidate
  rw [hidentity, hartifact]
  simp only [hnone, hhash, hdecoded]
  rfl

/-- The view of a prepared schedule that the lifecycle layer is given. -/
structure ViewOf (record : ScheduleRecord) (prepared : PreparedSchedule)
    (view : PreparedScheduleView) : Prop where
  deadlines : view.deadlineTicks = prepared.deadlines
  origin : view.originTicks = record.originTicks
  horizon : view.horizonTicks = record.horizonTicks

/--
The validators agree on a record and its artifact: the view of what the protocol layer
prepares is accepted, and a view with the record's fields that is accepted keeps the
protocol layer's rules.
-/
structure ValidatorsAgree (conv : CharConv) (sha256 : Text → Text) (record : ScheduleRecord)
    (artifactBytes derivationRecordJson : Text) : Prop where
  accepted : ∀ prepared view,
    decodeAndValidate conv sha256 record artifactBytes derivationRecordJson = .ok prepared →
    ViewOf record prepared view → view.validatePreparedSchedule = []
  conversely : ∀ view : PreparedScheduleView, view.originTicks = record.originTicks →
    view.horizonTicks = record.horizonTicks → view.validatePreparedSchedule = [] →
    DeadlineRules record.originTicks.toNat
      (record.originTicks.toNat + record.horizonTicks.toNat) view.deadlineTicks

/-- The last deadline is the greatest. -/
theorem DeadlineRules.lt_of_last {first last : Nat} {deadlines : List UInt64}
    (h : DeadlineRules first last deadlines) {bound : UInt64}
    (hlast : ∀ deadline ∈ deadlines.getLast?, deadline < bound) :
    ∀ deadline ∈ deadlines, deadline < bound := by
  intro deadline hmem
  have hne : deadlines ≠ [] := List.ne_nil_of_mem hmem
  have hend := hlast (deadlines.getLast hne) (List.getLast?_eq_some_getLast hne)
  have hle : deadline ≤ deadlines.getLast hne := by
    obtain ⟨before, hsplit⟩ : ∃ before, deadlines = before ++ [deadlines.getLast hne] :=
      ⟨_, (List.dropLast_append_getLast hne).symm⟩
    rw [hsplit] at hmem
    have hordered := h.ordered
    rw [hsplit, List.pairwise_append] at hordered
    rcases List.mem_append.mp hmem with hbefore | hsame
    · exact hordered.2.2 deadline hbefore _ List.mem_cons_self
    · rw [List.mem_singleton.mp hsame]
      exact UInt64.le_refl _
  exact UInt64.lt_of_le_of_lt hle hend

/-- A view that is accepted keeps the protocol layer's rules, whatever has been decoded. -/
theorem deadlineRules_of_view {view : PreparedScheduleView}
    (horigin : view.originTicks = record.originTicks)
    (hhorizon : view.horizonTicks = record.horizonTicks)
    (hview : view.validatePreparedSchedule = []) : DeadlineRules record.originTicks.toNat
      (record.originTicks.toNat + record.horizonTicks.toNat) view.deadlineTicks := by
  obtain ⟨-, hrules⟩ := (validatePreparedSchedule_iff view).mp hview
  rw [horigin, hhorizon] at hrules
  refine ⟨hrules.ordered, ?_⟩
  intro deadline hmem
  obtain ⟨hfirst, hend⟩ := hrules.within deadline hmem
  exact ⟨hfirst, by omega⟩

/--
**Where the two validators agree.**  On an artifact that the protocol layer accepts they
agree exactly when the horizon, read as a point in time, is not before the origin and is
after the last deadline.
-/
theorem schedule_validators_agree
    (h : decodeAndValidate conv sha256 record artifactBytes derivationRecordJson =
      .ok prepared) :
    ValidatorsAgree conv sha256 record artifactBytes derivationRecordJson ↔
      record.originTicks ≤ record.horizonTicks ∧
        ∀ last ∈ (storedDeadlines record artifactBytes).getLast?, last < record.horizonTicks := by
  have hprepared := decodeAndValidate_ok h
  have hsize : prepared.deadlines.length < 2 ^ 64 := by
    rw [hprepared.count]
    exact record.offeredCount.toNat_lt
  constructor
  · intro hagree
    let view : PreparedScheduleView :=
      ⟨prepared.deadlines, record.originTicks, record.horizonTicks, hsize⟩
    obtain ⟨horigin, hrules⟩ := (validatePreparedSchedule_iff view).mp
      (hagree.accepted prepared view h ⟨rfl, rfl, rfl⟩)
    refine ⟨horigin, ?_⟩
    intro last hlast
    rw [← hprepared.deadlines] at hlast
    exact UInt64.lt_iff_toNat_lt.mpr (hrules.within last (List.mem_of_getLast? hlast)).2
  · rintro ⟨horigin, hlast⟩
    refine ⟨?_, fun view => deadlineRules_of_view⟩
    intro prepared' view h' hview
    obtain rfl : prepared = prepared' := Except.ok.inj (h.symm.trans h')
    rw [validatePreparedSchedule_iff, hview.deadlines, hview.origin, hview.horizon]
    rw [← hprepared.deadlines] at hlast
    refine ⟨horigin, hprepared.rules.ordered, ?_⟩
    intro deadline hmem
    exact ⟨(hprepared.rules.within deadline hmem).1,
      UInt64.lt_iff_toNat_lt.mp (hprepared.rules.lt_of_last hlast deadline hmem)⟩

end Agreement

namespace Example

/-- The schedule is prepared, with its three deadlines. -/
def Accepted (origin horizon : UInt64) (decoded schedule : Sha256) : Prop :=
  let record := record origin horizon decoded schedule
  ∃ prepared, decodeAndValidate conv (digest decoded schedule) record artifactBytes
      derivationRecordJson = .ok prepared ∧ storedDeadlines record artifactBytes = deadlines

theorem accepted_of_checks {origin horizon : UInt64} {decoded schedule : Sha256}
    (hidentity : identityErrors conv (digest decoded schedule)
      (record origin horizon decoded schedule) derivationRecordJson = [])
    (hartifact : artifactErrors (digest decoded schedule) (record origin horizon decoded schedule)
      artifactBytes = [])
    (hdeadlines : deadlineErrors (record origin horizon decoded schedule) none 0 deadlines = [])
    (hdecoded : decodedHash (digest decoded schedule) (record origin horizon decoded schedule)
      deadlines = decoded.hex)
    (hhash : envelopeHash conv (digest decoded schedule) (record origin horizon decoded schedule) =
      .ok schedule.hex) : Accepted origin horizon decoded schedule := by
  have hstored : storedDeadlines (record origin horizon decoded schedule) artifactBytes =
      deadlines := by
    simp only [storedDeadlines, record]
    decide
  refine ⟨_, decodeAndValidate_of_checks hidentity hartifact ?_ ?_ ?_ hhash, hstored⟩
  · rw [hstored]
    rfl
  · rw [hstored, hdeadlines]
  · rw [hstored, hdecoded]
    rfl

theorem accepted_early_late :
    Accepted 0 5000 earlyDecoded earlySchedule ∧ Accepted 1000 500 lateDecoded lateSchedule := by
  constructor
  · exact accepted_of_checks (by decide +kernel) (by decide) (by decide)
      (by decide +kernel) (by decide +kernel)
  · exact accepted_of_checks (by decide +kernel) (by decide) (by decide)
      (by decide +kernel) (by decide +kernel)

end Example

theorem schedule_validators_agree_early :
    ValidatorsAgree conv (digest earlyDecoded earlySchedule)
      (record 0 5000 earlyDecoded earlySchedule) artifactBytes
      derivationRecordJson := by
  obtain ⟨prepared, haccepted, hstored⟩ := accepted_early_late.1
  refine (schedule_validators_agree haccepted).mpr ⟨by decide, ?_⟩
  intro last hlast
  rw [hstored] at hlast
  obtain rfl := Option.some.inj hlast
  decide

/--
A schedule of 500 ps that starts at 1000 ps: the protocol layer accepts its deadlines, and
the lifecycle layer does not.
-/
theorem late_schedule_rejected :
    ∃ prepared view,
      decodeAndValidate conv (digest lateDecoded lateSchedule)
        (record 1000 500 lateDecoded lateSchedule) artifactBytes
        derivationRecordJson = .ok prepared ∧
      ViewOf (record 1000 500 lateDecoded lateSchedule) prepared view ∧
      view.validatePreparedSchedule ≠ [] := by
  obtain ⟨prepared, haccepted, hstored⟩ := accepted_early_late.2
  have hdeadlines : prepared.deadlines = deadlines :=
    (decodeAndValidate_ok haccepted).deadlines.trans hstored
  exact ⟨prepared, ⟨deadlines, 1000, 500, by decide⟩, haccepted,
    ⟨hdeadlines.symm, rfl, rfl⟩, by decide⟩

end CpuPrefetch.Schedule
