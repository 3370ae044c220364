/-
What a list of schedule uses without errors keeps apart.

A namespace, a common family and the confirmatory parent are each compared with their first
use only.  Being of one logical schedule is an equivalence, so the comparisons hold between
any two uses, and in whatever order the uses are listed.
-/
import CpuPrefetch.Proofs.Schedule.Agreement
import CpuPrefetch.Schedule.Uses

namespace CpuPrefetch.Schedule

open FirstSeen (Consistent find tryEmplace)
open Protocol (Text ascii ScheduleRecord NamespaceId ScheduleId SeedId RecordId Sha256 ScheduleKind
  ArrivalFamily DeadlineEncoding ExactRate require_eq_nil)

/-! ### One logical schedule -/

/-- What identifies a logical schedule. -/
structure LogicalSchedule where
  scheduleId : ScheduleId
  digests : Sha256 × Sha256
  namespaces : NamespaceId × NamespaceId
  derivation : SeedId × RecordId
  generator : Text × Text
  scheduleKind : ScheduleKind
  arrivalFamily : ArrivalFamily
  timeUnit : Text
  deadlineEncoding : DeadlineEncoding
  ticks : UInt64 × UInt64
  offeredCount : UInt64
  nominalOfferedRate : UInt64 × UInt64

def logical (record : ScheduleRecord) : LogicalSchedule where
  scheduleId := record.scheduleId
  digests := (record.scheduleSha256, record.decodedDeadlinesSha256)
  namespaces := (record.namespaceId, record.rng.parentNamespaceId)
  derivation := (record.rng.seedId, record.rng.derivationRecordId)
  generator := (record.rng.algorithm, record.rng.version)
  scheduleKind := record.scheduleKind
  arrivalFamily := record.arrivalFamily
  timeUnit := record.timeUnit
  deadlineEncoding := record.deadlineEncoding
  ticks := (record.originTicks, record.horizonTicks)
  offeredCount := record.offeredCount
  nominalOfferedRate :=
    (record.nominalOfferedRate.numeratorEvents, record.nominalOfferedRate.denominatorTicks)

theorem sameSchedule_iff {left right : ScheduleRecord} :
    sameSchedule left right = true ↔ logical left = logical right := by
  simp only [sameSchedule, logical, Bool.and_eq_true, decide_eq_true_eq, LogicalSchedule.mk.injEq,
    Prod.mk.injEq]
  tauto

def SameLogical (left right : ScheduleRecord) : Prop := sameSchedule left right = true

theorem sameLogical_equivalence : Equivalence SameLogical where
  refl _ := sameSchedule_iff.mpr rfl
  symm h := sameSchedule_iff.mpr (sameSchedule_iff.mp h).symm
  trans h h' := sameSchedule_iff.mpr ((sameSchedule_iff.mp h).trans (sameSchedule_iff.mp h'))

/-- A namespace belongs to one role and one logical schedule. -/
def SameOwner (left right : NamespaceRole × ScheduleRecord) : Prop :=
  left.1 = right.1 ∧ SameLogical left.2 right.2

theorem sameOwner_equivalence : Equivalence SameOwner where
  refl _ := ⟨rfl, sameLogical_equivalence.refl _⟩
  symm h := ⟨h.1.symm, sameLogical_equivalence.symm h.2⟩
  trans h h' := ⟨h.1.trans h'.1, sameLogical_equivalence.trans h.2 h'.2⟩

/-! ### What the uses claim -/

/-- A use with a record and explicit identities, whose role matches the record's kind. -/
def Explicit (use : ScheduleUse) : Prop :=
  ∃ schedule, use.schedule = some schedule ∧ use.treatmentId ≠ [] ∧
    use.commonScheduleFamilyId ≠ [] ∧ roleMatchesKind use.namespaceRole schedule.scheduleKind = true

def namespaceClaim (use : ScheduleUse) : Option (NamespaceId × NamespaceRole × ScheduleRecord) :=
  use.schedule.map fun schedule => (schedule.namespaceId, use.namespaceRole, schedule)

def parentClaim (use : ScheduleUse) : Option (Unit × Text) :=
  if isConfirmatoryRole use.namespaceRole then
    use.schedule.map fun schedule => ((), schedule.rng.parentNamespaceId.value)
  else none

def familyClaim (use : ScheduleUse) : Option (Text × ScheduleRecord) :=
  if use.commonScheduleFamilyId = [] then none
  else use.schedule.map fun schedule => (use.commonScheduleFamilyId, schedule)

/-- The confirmatory parent, as a map with one place. -/
def parentMap (parent : Text) : List (Unit × Text) := if parent = [] then [] else [((), parent)]

section OneUse

variable {claims : UseClaims} {index : Nat} {use : ScheduleUse} {schedule : ScheduleRecord}

theorem namespaceErrors_eq_nil : namespaceErrors claims index use schedule = [] ↔
    ∀ owner, find claims.namespaces schedule.namespaceId = some owner →
      SameOwner owner (use.namespaceRole, schedule) := by
  rw [namespaceErrors]
  cases find claims.namespaces schedule.namespaceId with
  | none => simp
  | some owner =>
      by_cases hrole : owner.1 = use.namespaceRole
      · simp [hrole, SameOwner, SameLogical]
      · simp [hrole, SameOwner]

theorem familyErrors_eq_nil (hfamily : use.commonScheduleFamilyId ≠ []) :
    familyErrors claims index use schedule = [] ↔
      ∀ first, find claims.families use.commonScheduleFamilyId = some first →
        SameLogical first schedule := by
  rw [familyErrors, if_neg hfamily]
  cases find claims.families use.commonScheduleFamilyId with
  | none => simp
  | some first => simp [SameLogical]

theorem parentErrors_eq_nil (hrole : isConfirmatoryRole use.namespaceRole = true) :
    parentErrors claims index use schedule = [] ↔
      ∀ first, find (parentMap claims.confirmatoryParent) () = some first →
        first = schedule.rng.parentNamespaceId.value := by
  rw [parentErrors, require_eq_nil, parentMap]
  by_cases hempty : claims.confirmatoryParent = []
  · simp [hempty, find]
  · simp [hempty, hrole, find]

theorem parentMap_record (hrole : isConfirmatoryRole use.namespaceRole = true) :
    parentMap (claims.record use schedule).confirmatoryParent =
      tryEmplace (parentMap claims.confirmatoryParent) () schedule.rng.parentNamespaceId.value := by
  have hparent := schedule.rng.parentNamespaceId.nonempty
  rw [parentMap, parentMap, UseClaims.record]
  by_cases hempty : claims.confirmatoryParent = []
  · simp [hempty, hrole, hparent, tryEmplace, find]
  · simp [hempty, tryEmplace, find]

end OneUse

variable {uses : List ScheduleUse}

/-- The loop reports nothing exactly when every use is explicit and each claim agrees with the
first one like it. -/
theorem scheduleUseErrors_eq_nil {claims : UseClaims} {index : Nat} :
    scheduleUseErrors claims index uses = [] ↔
      (∀ use ∈ uses, Explicit use) ∧
        Consistent SameOwner claims.namespaces (uses.filterMap namespaceClaim) ∧
        Consistent Eq (parentMap claims.confirmatoryParent) (uses.filterMap parentClaim) ∧
        Consistent SameLogical claims.families (uses.filterMap familyClaim) := by
  induction uses generalizing claims index with
  | nil => simp [scheduleUseErrors, Consistent]
  | cons use rest ih =>
      rw [scheduleUseErrors]
      cases hschedule : use.schedule with
      | none =>
          refine iff_of_false (List.cons_ne_nil _ _) ?_
          rintro ⟨hexplicit, -⟩
          obtain ⟨schedule, hsome, -⟩ := hexplicit use List.mem_cons_self
          rw [hschedule] at hsome
          cases hsome
      | some schedule =>
          by_cases hfamily : use.commonScheduleFamilyId = []
          · refine iff_of_false ?_ ?_
            · simp [hfamily]
            · rintro ⟨hexplicit, -⟩
              obtain ⟨_, _, _, hnonempty, -⟩ := hexplicit use List.mem_cons_self
              exact hnonempty hfamily
          have hexplicit : Explicit use ↔ use.treatmentId ≠ [] ∧
              roleMatchesKind use.namespaceRole schedule.scheduleKind = true := by
            constructor
            · rintro ⟨other, hother, htreatment, -, hkind⟩
              obtain rfl : schedule = other := Option.some.inj (hschedule.symm.trans hother)
              exact ⟨htreatment, hkind⟩
            · rintro ⟨htreatment, hkind⟩
              exact ⟨schedule, hschedule, htreatment, hfamily, hkind⟩
          have hnamespace : namespaceClaim use =
              some (schedule.namespaceId, use.namespaceRole, schedule) := by
            rw [namespaceClaim, hschedule]
            rfl
          have hcommon : familyClaim use = some (use.commonScheduleFamilyId, schedule) := by
            rw [familyClaim, if_neg hfamily, hschedule]
            rfl
          have hnamespaces : (claims.record use schedule).namespaces =
              tryEmplace claims.namespaces schedule.namespaceId (use.namespaceRole, schedule) := rfl
          have hfamilies : (claims.record use schedule).families =
              tryEmplace claims.families use.commonScheduleFamilyId schedule := if_neg hfamily
          simp only [List.append_eq_nil_iff, require_eq_nil, decide_eq_true_eq, hfamily,
            not_false_eq_true, and_true, namespaceErrors_eq_nil, familyErrors_eq_nil hfamily, ih,
            List.forall_mem_cons, hexplicit, List.filterMap_cons_some hnamespace,
            List.filterMap_cons_some hcommon, Consistent, hnamespaces, hfamilies, ne_eq]
          cases hrole : isConfirmatoryRole use.namespaceRole with
          | true =>
              have hparent : parentClaim use =
                  some ((), schedule.rng.parentNamespaceId.value) := by
                rw [parentClaim, if_pos hrole, hschedule]
                rfl
              simp only [List.filterMap_cons_some hparent, Consistent, parentErrors_eq_nil hrole,
                parentMap_record hrole]
              tauto
          | false =>
              have hparent : parentClaim use = none := by
                rw [parentClaim, hrole]
                rfl
              have hskipped : parentErrors claims index use schedule = [] := by
                simp [parentErrors, hrole]
              have hkept : (claims.record use schedule).confirmatoryParent =
                  claims.confirmatoryParent := by
                simp [UseClaims.record, hrole]
              simp only [List.filterMap_cons_none hparent, hskipped, hkept]
              tauto

/-! ### Any two uses -/

/-- What uses must have in common, and what they must not. -/
structure Isolated (uses : List ScheduleUse) : Prop where
  explicit : ∀ use ∈ uses, Explicit use
  namespaces : ∀ use ∈ uses, ∀ other ∈ uses, ∀ schedule schedule',
    use.schedule = some schedule → other.schedule = some schedule' →
    schedule.namespaceId = schedule'.namespaceId →
    use.namespaceRole = other.namespaceRole ∧ sameSchedule schedule schedule' = true
  families : ∀ use ∈ uses, ∀ other ∈ uses, ∀ schedule schedule',
    use.schedule = some schedule → other.schedule = some schedule' →
    use.commonScheduleFamilyId = other.commonScheduleFamilyId →
    sameSchedule schedule schedule' = true
  parents : ∀ use ∈ uses, ∀ other ∈ uses, ∀ schedule schedule',
    use.schedule = some schedule → other.schedule = some schedule' →
    isConfirmatoryRole use.namespaceRole = true → isConfirmatoryRole other.namespaceRole = true →
    schedule.rng.parentNamespaceId = schedule'.rng.parentNamespaceId

/-- Claims agree two by two exactly when the uses that make them do. -/
theorem claims_agree {K V : Type} {claim : ScheduleUse → Option (K × V)} {same : V → V → Prop} :
    (∀ pair ∈ uses.filterMap claim, ∀ other ∈ uses.filterMap claim, pair.1 = other.1 →
        same pair.2 other.2) ↔
      ∀ use ∈ uses, ∀ other ∈ uses, ∀ pair pair', claim use = some pair →
        claim other = some pair' → pair.1 = pair'.1 → same pair.2 pair'.2 := by
  simp only [List.mem_filterMap]
  constructor
  · intro h use huse other hother pair pair' hpair hpair'
    exact h pair ⟨use, huse, hpair⟩ pair' ⟨other, hother, hpair'⟩
  · rintro h pair ⟨use, huse, hpair⟩ pair' ⟨other, hother, hpair'⟩
    exact h use huse other hother pair pair' hpair hpair'

variable {use : ScheduleUse}

theorem namespaceClaim_some {pair : NamespaceId × NamespaceRole × ScheduleRecord} :
    namespaceClaim use = some pair ↔
      ∃ schedule, use.schedule = some schedule ∧
        (schedule.namespaceId, use.namespaceRole, schedule) = pair := Option.map_eq_some_iff

theorem parentClaim_some {pair : Unit × Text} : parentClaim use = some pair ↔
    isConfirmatoryRole use.namespaceRole = true ∧ ∃ schedule, use.schedule = some schedule ∧
      ((), schedule.rng.parentNamespaceId.value) = pair := by
  rw [parentClaim]
  split
  · rename_i hrole
    rw [Option.map_eq_some_iff, and_iff_right hrole]
  · rename_i hrole
    exact iff_of_false nofun fun h => hrole h.1

theorem familyClaim_some {pair : Text × ScheduleRecord} :
    familyClaim use = some pair ↔ use.commonScheduleFamilyId ≠ [] ∧ ∃ schedule,
      use.schedule = some schedule ∧ (use.commonScheduleFamilyId, schedule) = pair := by
  rw [familyClaim]
  split
  · rename_i hempty
    exact iff_of_false nofun fun h => h.1 hempty
  · rename_i hfamily
    rw [Option.map_eq_some_iff, and_iff_right hfamily]

theorem validateScheduleUses_eq_nil : validateScheduleUses uses = [] ↔ Isolated uses := by
  rw [validateScheduleUses, scheduleUseErrors_eq_nil]
  show _ ∧ Consistent _ [] _ ∧ Consistent _ [] _ ∧ Consistent _ [] _ ↔ _
  rw [FirstSeen.consistent_nil_iff sameOwner_equivalence, FirstSeen.consistent_nil_iff
    eq_equivalence,
    FirstSeen.consistent_nil_iff sameLogical_equivalence, claims_agree, claims_agree, claims_agree]
  constructor
  · rintro ⟨hexplicit, hnamespaces, hparents, hfamilies⟩
    refine ⟨hexplicit, ?_, ?_, ?_⟩
    · intro use huse other hother schedule schedule' hschedule hschedule' hsame
      have howner := hnamespaces use huse other hother _ _
        (namespaceClaim_some.mpr ⟨schedule, hschedule, rfl⟩)
        (namespaceClaim_some.mpr ⟨schedule', hschedule', rfl⟩) hsame
      exact howner
    · intro use huse other hother schedule schedule' hschedule hschedule' hsame
      obtain ⟨_, _, _, hfamily, -⟩ := hexplicit use huse
      obtain ⟨_, _, _, hfamily', -⟩ := hexplicit other hother
      have hlogical := hfamilies use huse other hother _ _
        (familyClaim_some.mpr ⟨hfamily, schedule, hschedule, rfl⟩)
        (familyClaim_some.mpr ⟨hfamily', schedule', hschedule', rfl⟩) hsame
      exact hlogical
    · intro use huse other hother schedule schedule' hschedule hschedule' hrole hrole'
      have hvalue := hparents use huse other hother _ _
        (parentClaim_some.mpr ⟨hrole, schedule, hschedule, rfl⟩)
        (parentClaim_some.mpr ⟨hrole', schedule', hschedule', rfl⟩) rfl
      exact (Protocol.Identifier.mk.injEq ..).mpr hvalue
  · intro h
    refine ⟨h.explicit, ?_, ?_, ?_⟩
    · intro use huse other hother pair pair' hpair hpair' hsame
      obtain ⟨schedule, hschedule, rfl⟩ := namespaceClaim_some.mp hpair
      obtain ⟨schedule', hschedule', rfl⟩ := namespaceClaim_some.mp hpair'
      exact h.namespaces use huse other hother schedule schedule' hschedule hschedule' hsame
    · intro use huse other hother pair pair' hpair hpair' _
      obtain ⟨hrole, schedule, hschedule, rfl⟩ := parentClaim_some.mp hpair
      obtain ⟨hrole', schedule', hschedule', rfl⟩ := parentClaim_some.mp hpair'
      exact congrArg Protocol.Identifier.value
        (h.parents use huse other hother schedule schedule' hschedule hschedule' hrole hrole')
    · intro use huse other hother pair pair' hpair hpair' hsame
      obtain ⟨-, schedule, hschedule, rfl⟩ := familyClaim_some.mp hpair
      obtain ⟨-, schedule', hschedule', rfl⟩ := familyClaim_some.mp hpair'
      exact h.families use huse other hother schedule schedule' hschedule hschedule' hsame

/-- **Uses without errors are isolated**, and the order in which they are listed does not matter. -/
theorem schedule_uses_isolated {uses uses' : List ScheduleUse} (hperm : uses.Perm uses') :
    (validateScheduleUses uses = [] ↔ Isolated uses) ∧
      (validateScheduleUses uses = [] ↔ validateScheduleUses uses' = []) := by
  have hsub : ∀ {first second : List ScheduleUse}, first.Perm second → Isolated first →
      Isolated second := by
    intro first second h hisolated
    have hback : ∀ use ∈ second, use ∈ first := fun use huse => h.mem_iff.mpr huse
    exact
      { explicit := fun use huse => hisolated.explicit use (hback use huse)
        namespaces := fun use huse other hother =>
          hisolated.namespaces use (hback use huse) other (hback other hother)
        families := fun use huse other hother =>
          hisolated.families use (hback use huse) other (hback other hother)
        parents := fun use huse other hother =>
          hisolated.parents use (hback use huse) other (hback other hother) }
  refine ⟨validateScheduleUses_eq_nil, ?_⟩
  rw [validateScheduleUses_eq_nil, validateScheduleUses_eq_nil]
  exact ⟨hsub hperm, hsub hperm.symm⟩

namespace Example

def useOf (treatment : String) : ScheduleUse :=
  ⟨some (record 1000 500 lateDecoded lateSchedule), .diagnostic, ascii treatment, ascii "family-1"⟩

end Example

/-- Two treatments on one schedule. -/
theorem schedule_uses_isolated_pair :
    Isolated [Example.useOf "treatment-1", Example.useOf "treatment-2"] ∧
      validateScheduleUses [Example.useOf "treatment-2", Example.useOf "treatment-1"] = [] := by
  have hclean : validateScheduleUses
      [Example.useOf "treatment-1", Example.useOf "treatment-2"] = [] := by decide +kernel
  obtain ⟨hisolated, hswapped⟩ := schedule_uses_isolated
    (List.Perm.swap (Example.useOf "treatment-2") (Example.useOf "treatment-1") [])
  exact ⟨hisolated.mp hclean, hswapped.mp hclean⟩

end CpuPrefetch.Schedule
