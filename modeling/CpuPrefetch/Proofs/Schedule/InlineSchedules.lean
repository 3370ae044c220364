/-
What an inline schedule without errors denotes, in either encoding.

Deltas are added up from the origin in 64 bits, and an addition that overflows is reported and
passed over.  A list of deltas is accepted exactly when its exact sums are words and are
accepted as they stand, so the two encodings of one list of deadlines are accepted together.
-/
import CpuPrefetch.Proofs.Schedule.Agreement

namespace CpuPrefetch.Schedule

open Protocol

/-- The exact sums of the deltas, from a total on. -/
def partialSums : Nat → List Nat → List Nat
  | _, [] => []
  | total, delta :: rest => (total + delta) :: partialSums (total + delta) rest

/-- The absolute deadlines that encoded ticks stand for, whatever their size. -/
def denoted (encoding : DeadlineEncoding) (origin : UInt64) (encoded : List UInt64) : List Nat :=
  match encoding with
  | .absoluteIntegerTicks => encoded.map UInt64.toNat
  | .deltaIntegerTicks => partialSums origin.toNat (encoded.map UInt64.toNat)

/-! ### The loop over the ticks -/

section Loop

variable {schedule : ScheduleRecord} {horizonEnd accumulated : UInt64} {previous : Option UInt64}
  {index : Nat}

theorem tickErrors_eq_nil {deadline : UInt64} :
    tickErrors schedule horizonEnd previous index deadline = [] ↔
      (∀ before ∈ previous, before ≤ deadline) ∧
        (schedule.originTicks.toNat ≤ deadline.toNat ∧ deadline.toNat < horizonEnd.toNat) := by
  cases previous <;>
    simp [tickErrors, UInt64.le_iff_toNat_le, UInt64.lt_iff_toNat_lt]

theorem ticksErrors_absolute (hencoding : schedule.deadlineEncoding = .absoluteIntegerTicks)
    {deadlines : List UInt64} :
    ticksErrors schedule horizonEnd previous accumulated index deadlines = [] ↔
      (∀ before ∈ previous, ∀ deadline ∈ deadlines, before ≤ deadline) ∧
        DeadlineRules schedule.originTicks.toNat horizonEnd.toNat deadlines := by
  refine deadlineRules_iff (fun previous index deadlines =>
    ticksErrors schedule horizonEnd previous accumulated index deadlines = []) _ _
    (fun _ _ => rfl) ?_ previous index deadlines
  intro previous index deadline rest
  simp only [ticksErrors, hencoding, List.append_eq_nil_iff, tickErrors_eq_nil, and_assoc]

/-- Deltas are accepted when their sums are words that would be. -/
theorem ticksErrors_delta (hencoding : schedule.deadlineEncoding = .deltaIntegerTicks)
    {deltas : List UInt64} :
    ticksErrors schedule horizonEnd previous accumulated index deltas = [] ↔
      ∃ deadlines : List UInt64,
        deadlines.map UInt64.toNat =
          partialSums accumulated.toNat (deltas.map UInt64.toNat) ∧
        (∀ before ∈ previous, ∀ deadline ∈ deadlines, before ≤ deadline) ∧
        DeadlineRules schedule.originTicks.toNat horizonEnd.toNat deadlines := by
  induction deltas generalizing previous accumulated index with
  | nil =>
      refine iff_of_true rfl ⟨[], rfl, nofun, .nil, nofun⟩
  | cons delta rest ih =>
      rw [ticksErrors, hencoding, List.map_cons, partialSums]
      cases hsum : checkedAdd accumulated delta with
      | none =>
          refine iff_of_false (List.cons_ne_nil _ _) ?_
          rintro ⟨deadlines, hdenoted, -⟩
          -- The first sum is no word.
          obtain ⟨deadline, _, rfl, hfirst, -⟩ := List.map_eq_cons_iff.mp hdenoted
          have hlarge := checkedAdd_none hsum
          have hword := deadline.toNat_lt
          omega
      | some deadline =>
          have hexact := checkedAdd_some hsum
          simp only [List.append_eq_nil_iff, tickErrors_eq_nil, ih, ← hexact]
          constructor
          · rintro ⟨⟨hbefore, hwindow⟩, later, hlater, hrest⟩
            exact ⟨deadline :: later, by rw [List.map_cons, hlater],
              deadlineRules_cons.mpr ⟨hbefore, hwindow, hrest⟩⟩
          · rintro ⟨deadlines, hdenoted, hrules⟩
            obtain ⟨first, later, rfl, hfirst, hlater⟩ := List.map_eq_cons_iff.mp hdenoted
            obtain rfl := UInt64.toNat_inj.mp hfirst
            obtain ⟨hbefore, hwindow, hrest⟩ := deadlineRules_cons.mp hrules
            exact ⟨⟨hbefore, hwindow⟩, later, hlater, hrest⟩

/-- In either encoding, ticks are accepted when what they denote are words that keep the rules. -/
theorem ticksErrors_eq_nil {encoded : List UInt64} :
    ticksErrors schedule horizonEnd none schedule.originTicks 0 encoded = [] ↔
      ∃ deadlines : List UInt64,
        deadlines.map UInt64.toNat =
          denoted schedule.deadlineEncoding schedule.originTicks encoded ∧
        DeadlineRules schedule.originTicks.toNat horizonEnd.toNat deadlines := by
  cases hencoding : schedule.deadlineEncoding with
  | absoluteIntegerTicks =>
      rw [ticksErrors_absolute hencoding, denoted]
      constructor
      · rintro ⟨-, hrules⟩
        exact ⟨encoded, rfl, hrules⟩
      · rintro ⟨deadlines, hdenoted, hrules⟩
        obtain rfl := List.map_injective_iff.mpr (fun _ _ => UInt64.toNat_inj.mp) hdenoted
        exact ⟨nofun, hrules⟩
  | deltaIntegerTicks =>
      rw [ticksErrors_delta hencoding, denoted]
      exact exists_congr fun _ => and_congr_right fun _ => and_iff_right nofun

end Loop

/-! ### The whole record -/

/-- The rules on the other fields of an inline schedule. -/
structure FramedFields (schedule : ScheduleRecord) : Prop where
  horizon : schedule.horizonTicks ≠ 0
  denominator : schedule.nominalOfferedRate.denominatorTicks ≠ 0
  family : schedule.scheduleKind = .confirmatory → schedule.arrivalFamily = .poissonExponential
  horizonEnd : schedule.originTicks.toNat + schedule.horizonTicks.toNat < 2 ^ 64

/-- As many deadlines as are offered: words that never go back, in the half-open horizon. -/
structure SoundDeadlines (schedule : ScheduleRecord) (deadlines : List Nat) : Prop where
  count : deadlines.length = schedule.offeredCount.toNat
  ordered : deadlines.Pairwise (· ≤ ·)
  words : ∀ deadline ∈ deadlines, deadline < 2 ^ 64
  within : ∀ deadline ∈ deadlines, schedule.originTicks.toNat ≤ deadline ∧
    deadline < schedule.originTicks.toNat + schedule.horizonTicks.toNat

theorem denoted_length (encoding : DeadlineEncoding) (origin : UInt64) (encoded : List UInt64) :
    (denoted encoding origin encoded).length = encoded.length := by
  have hsums : ∀ (deltas : List Nat) (total : Nat),
      (partialSums total deltas).length = deltas.length := by
    intro deltas
    induction deltas with
    | nil => intro total; rfl
    | cons delta rest ih => intro total; simp [partialSums, ih]
  cases encoding with
  | absoluteIntegerTicks => simp [denoted]
  | deltaIntegerTicks => simp [denoted, hsums]

/-- **An inline schedule has no errors exactly when its other fields are framed and the deadlines
it denotes are sound.** -/
theorem validateSchedule_inline {schedule : ScheduleRecord} {encoded : List UInt64}
    (hstorage : schedule.deadlineStorage = .inline encoded) :
    validateSchedule schedule = [] ↔ FramedFields schedule ∧
      SoundDeadlines schedule (denoted schedule.deadlineEncoding schedule.originTicks encoded) := by
  simp only [validateSchedule, hstorage, List.append_eq_nil_iff, require_eq_nil]
  cases hend : checkedAdd schedule.originTicks schedule.horizonTicks with
  | none =>
      have hoverflow := checkedAdd_none hend
      refine iff_of_false (fun h => List.cons_ne_nil _ _ h.2.2) ?_
      rintro ⟨hframed, -⟩
      have hfits := hframed.horizonEnd
      omega
  | some horizonEnd =>
      have hexact := checkedAdd_some hend
      have hword := horizonEnd.toNat_lt
      simp only [ticksErrors_eq_nil]
      constructor
      · rintro ⟨⟨⟨hhorizon, hdenominator⟩, hfamily⟩, hcount, deadlines, hdenoted, hrules⟩
        refine ⟨⟨of_decide_eq_true hhorizon, of_decide_eq_true hdenominator, ?_, by omega⟩, ?_⟩
        · intro hkind
          simpa [hkind] using hfamily
        · refine ⟨by rw [denoted_length]; exact of_decide_eq_true hcount, ?_, ?_, ?_⟩
          · rw [← hdenoted, List.pairwise_map]
            exact hrules.ordered.imp UInt64.le_iff_toNat_le.mp
          · rw [← hdenoted]
            intro deadline hmem
            obtain ⟨word, -, rfl⟩ := List.mem_map.mp hmem
            exact word.toNat_lt
          · rw [← hdenoted, ← hexact]
            intro deadline hmem
            obtain ⟨word, hin, rfl⟩ := List.mem_map.mp hmem
            exact hrules.within word hin
      · rintro ⟨hframed, hsound⟩
        refine ⟨⟨⟨decide_eq_true hframed.horizon, decide_eq_true hframed.denominator⟩, ?_⟩, ?_,
          (denoted schedule.deadlineEncoding schedule.originTicks encoded).map UInt64.ofNat, ?_,
          ?_, ?_⟩
        · have hfamily := hframed.family
          cases hkind : schedule.scheduleKind <;> simp_all
        · rw [decide_eq_true_eq, ← hsound.count, denoted_length]
        · rw [List.map_map]
          refine (List.map_congr_left fun deadline hmem => ?_).trans (List.map_id _)
          exact UInt64.toNat_ofNat_of_lt' (hsound.words deadline hmem)
        · rw [List.pairwise_map]
          refine hsound.ordered.imp_of_mem fun hleft hright hle => ?_
          rw [UInt64.le_iff_toNat_le, UInt64.toNat_ofNat_of_lt' (hsound.words _ hleft),
            UInt64.toNat_ofNat_of_lt' (hsound.words _ hright)]
          exact hle
        · intro deadline hmem
          obtain ⟨exact, hin, rfl⟩ := List.mem_map.mp hmem
          rw [UInt64.toNat_ofNat_of_lt' (hsound.words exact hin), hexact]
          exact hsound.within exact hin

/-! ### The two encodings -/

/-- The two records have the same terms, and their ticks denote the same deadlines. -/
structure SameDeadlines (delta absolute : ScheduleRecord) (deltas deadlines : List UInt64) :
    Prop where
  deltaEncoding : delta.deadlineEncoding = .deltaIntegerTicks
  deltaStorage : delta.deadlineStorage = .inline deltas
  absoluteEncoding : absolute.deadlineEncoding = .absoluteIntegerTicks
  absoluteStorage : absolute.deadlineStorage = .inline deadlines
  scheduleKind : delta.scheduleKind = absolute.scheduleKind
  arrivalFamily : delta.arrivalFamily = absolute.arrivalFamily
  originTicks : delta.originTicks = absolute.originTicks
  horizonTicks : delta.horizonTicks = absolute.horizonTicks
  offeredCount : delta.offeredCount = absolute.offeredCount
  nominalOfferedRate : delta.nominalOfferedRate = absolute.nominalOfferedRate
  deadlines : denoted delta.deadlineEncoding delta.originTicks deltas =
    denoted absolute.deadlineEncoding absolute.originTicks deadlines

theorem encodings_accepted_together {delta absolute : ScheduleRecord}
    {deltas deadlines : List UInt64}
    (hsame : SameDeadlines delta absolute deltas deadlines) :
    validateSchedule delta = [] ↔ validateSchedule absolute = [] := by
  rw [validateSchedule_inline hsame.deltaStorage, validateSchedule_inline hsame.absoluteStorage,
    hsame.deadlines]
  have hframed : FramedFields delta ↔ FramedFields absolute := by
    constructor
    · rintro ⟨hhorizon, hdenominator, hfamily, hend⟩
      exact ⟨hsame.horizonTicks ▸ hhorizon, hsame.nominalOfferedRate ▸ hdenominator,
        hsame.scheduleKind ▸ hsame.arrivalFamily ▸ hfamily,
        hsame.originTicks ▸ hsame.horizonTicks ▸ hend⟩
    · rintro ⟨hhorizon, hdenominator, hfamily, hend⟩
      exact ⟨hsame.horizonTicks ▸ hhorizon, hsame.nominalOfferedRate ▸ hdenominator,
        hsame.scheduleKind ▸ hsame.arrivalFamily ▸ hfamily,
        hsame.originTicks ▸ hsame.horizonTicks ▸ hend⟩
  have hsound : ∀ exact, SoundDeadlines delta exact ↔ SoundDeadlines absolute exact := by
    intro exact
    constructor
    · rintro ⟨hcount, hordered, hwords, hwithin⟩
      exact ⟨hsame.offeredCount ▸ hcount, hordered, hwords,
        hsame.originTicks ▸ hsame.horizonTicks ▸ hwithin⟩
    · rintro ⟨hcount, hordered, hwords, hwithin⟩
      exact ⟨hsame.offeredCount ▸ hcount, hordered, hwords,
        hsame.originTicks ▸ hsame.horizonTicks ▸ hwithin⟩
  rw [hframed, hsound]

/-- **Inline schedules are sound in both encodings**, and the encodings are accepted together. -/
theorem inline_schedules_sound :
    (∀ (schedule : ScheduleRecord) (encoded : List UInt64),
      schedule.deadlineStorage = .inline encoded → validateSchedule schedule = [] →
        SoundDeadlines schedule
          (denoted schedule.deadlineEncoding schedule.originTicks encoded)) ∧
      ∀ (delta absolute : ScheduleRecord) (deltas deadlines : List UInt64),
        SameDeadlines delta absolute deltas deadlines →
          (validateSchedule delta = [] ↔ validateSchedule absolute = []) :=
  ⟨fun _ _ hstorage hclean => ((validateSchedule_inline hstorage).mp hclean).2,
    fun _ _ _ _ => encodings_accepted_together⟩

namespace Example

def inlineRecord (encoding : DeadlineEncoding) (ticks : List UInt64) : ScheduleRecord :=
  { record 1000 500 lateDecoded lateSchedule with
    deadlineEncoding := encoding
    deadlineStorage := .inline ticks }

end Example

/-- Three deadlines, the last two of them at once. -/
theorem inline_schedules_sound_tie :
    SoundDeadlines (Example.inlineRecord .deltaIntegerTicks [100, 100, 0]) [1100, 1200, 1200] ∧
      validateSchedule (Example.inlineRecord .absoluteIntegerTicks [1100, 1200, 1200]) = [] := by
  have hclean : validateSchedule (Example.inlineRecord .deltaIntegerTicks [100, 100, 0]) = [] := by
    decide
  have hsame : SameDeadlines (Example.inlineRecord .deltaIntegerTicks [100, 100, 0])
      (Example.inlineRecord .absoluteIntegerTicks [1100, 1200, 1200]) [100, 100, 0]
      [1100, 1200, 1200] :=
    ⟨rfl, rfl, rfl, rfl, rfl, rfl, rfl, rfl, rfl, rfl, rfl⟩
  exact ⟨inline_schedules_sound.1 _ [100, 100, 0] rfl hclean,
    (inline_schedules_sound.2 _ _ _ _ hsame).mp hclean⟩

end CpuPrefetch.Schedule
