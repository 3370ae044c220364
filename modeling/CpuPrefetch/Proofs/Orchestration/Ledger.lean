/-
What an accepted access ledger is.

A turn of the loop that reports nothing admits its record: the record is new, in order,
bound to its authority, and moves the state only along the release.  An accepted ledger
is a run of such turns, so the records that move the state spell out a prefix of the
release, and the state is where that prefix ends.

Timestamps are compared fraction by fraction after the shorter one is padded, so which padding is
used depends on the pair; any longer padding gives the same answer, and over one padding that is
long enough for all of them the comparison is that of texts of one length.
-/
import CpuPrefetch.Lib.Audits
import CpuPrefetch.Orchestration.Access

namespace CpuPrefetch.Orchestration

open Protocol
open Protocol.Json (CharConv)

/-! ### Fractions -/

variable {size : Nat}

theorem padZeros_length {fraction : Text} (h : fraction.length ≤ size) :
    (padZeros size fraction).length = size := by
  rw [padZeros, List.length_append, List.length_replicate]
  omega

/-- More padding is padding of what was padded. -/
theorem padZeros_more {more : Nat} {fraction : Text} (h : fraction.length ≤ size)
    (hmore : size ≤ more) :
    padZeros more fraction = padZeros size fraction ++ List.replicate (more - size) 48 := by
  rw [padZeros, padZeros, List.append_assoc, List.replicate_append_replicate]
  congr 2
  omega

/-- What is added to both ends changes nothing. -/
theorem append_lt_append {left right : Text} (tail : Text) (h : left.length = right.length) :
    left ++ tail < right ++ tail ↔ left < right := by
  induction left generalizing right with
  | nil =>
      obtain rfl := List.eq_nil_of_length_eq_zero h.symm
      exact ⟨fun hlt => absurd hlt (List.lt_irrefl _), fun hlt => absurd hlt (List.lt_irrefl _)⟩
  | cons first rest ih =>
      obtain _ | ⟨first', rest'⟩ := right
      · cases h
      · rw [List.cons_append, List.cons_append, List.cons_lt_cons_iff, List.cons_lt_cons_iff,
          ih (Nat.succ.inj h)]

theorem padZeros_lt {left right : Text} (hleft : left.length ≤ size)
    (hright : right.length ≤ size) :
    padZeros (max left.length right.length) left < padZeros (max left.length right.length) right ↔
      padZeros size left < padZeros size right := by
  have hmax : max left.length right.length ≤ size := max_le hleft hright
  rw [padZeros_more (le_max_left _ _) hmax, padZeros_more (le_max_right _ _) hmax]
  refine (append_lt_append _ ?_).symm
  rw [padZeros_length (le_max_left _ _), padZeros_length (le_max_right _ _)]

/-! ### Timestamps -/

/-- The order of timestamps is that of the fields, then of the padded fractions. -/
theorem timestampLess_iff {left right : UtcTimestamp} (hleft : left.fraction.length ≤ size)
    (hright : right.fraction.length ≤ size) :
    timestampLess left right = true ↔ left.fields < right.fields ∨ left.fields = right.fields ∧
      padZeros size left.fraction < padZeros size right.fraction := by
  rw [timestampLess]
  by_cases hfields : left.fields = right.fields
  · simp [hfields, padZeros_lt hleft hright]
  · simp [hfields]

/-- Not being before is transitive. -/
theorem timestampLess_trans {first second third : UtcTimestamp}
    (h : timestampLess second first = false) (h' : timestampLess third second = false) :
    timestampLess third first = false := by
  let size := max first.fraction.length (max second.fraction.length third.fraction.length)
  have hfirst : first.fraction.length ≤ size := le_max_left _ _
  have hsecond : second.fraction.length ≤ size := (le_max_left _ _).trans (le_max_right _ _)
  have hthird : third.fraction.length ≤ size := (le_max_right _ _).trans (le_max_right _ _)
  rw [← Bool.not_eq_true, timestampLess_iff hsecond hfirst] at h
  rw [← Bool.not_eq_true, timestampLess_iff hthird hsecond] at h'
  rw [← Bool.not_eq_true, timestampLess_iff hthird hfirst]
  simp only [not_or, not_and] at h h' ⊢
  have hle : first.fields ≤ second.fields := Std.not_lt.mp h.1
  have hle' : second.fields ≤ third.fields := Std.not_lt.mp h'.1
  refine ⟨Std.not_lt.mpr (Std.le_trans hle hle'), ?_⟩
  -- the ends have the same fields only when the middle one has them too
  intro hfields
  have hmiddle : second.fields = first.fields := by
    refine Std.le_antisymm ?_ hle
    rw [← hfields]
    exact hle'
  have hfraction := Std.not_lt.mp (h.2 hmiddle)
  have hfraction' := Std.not_lt.mp (h'.2 (hfields.trans hmiddle.symm))
  exact Std.not_lt.mpr (Std.le_trans hfraction hfraction')

/-! ### Records in order -/

/-- The two records have normalized timestamps, and the second one's is not before. -/
def InOrder (first second : FreezeRecord) : Prop :=
  ∃ timestamp timestamp', parseUtc first.createdAtUtc = some timestamp ∧
    parseUtc second.createdAtUtc = some timestamp' ∧ timestampLess timestamp' timestamp = false

theorem InOrder.trans {first second third : FreezeRecord} (h : InOrder first second)
    (h' : InOrder second third) : InOrder first third := by
  obtain ⟨a, b, ha, hb, hab⟩ := h
  obtain ⟨b', c, hb', hc, hbc⟩ := h'
  obtain rfl := Option.some.inj (hb.symm.trans hb')
  exact ⟨a, c, ha, hc, timestampLess_trans hab hbc⟩

/-! ### The release -/

/-- The states of the release, in order. -/
def releaseStates : List AccessState :=
  [.planned, .collectedSealed, .trainingOpen, .selectionFrozen, .validationUnsealed, .h3Evaluated,
    .h1h2Released, .archived]

/-- Each step of the release: the kind of the record that takes it, and the states between which. -/
def releaseSteps : List (RecordKind × AccessState × AccessState) :=
  [(.protocolFreeze, .planned, .collectedSealed),
    (.protocolFreeze, .collectedSealed, .trainingOpen),
    (.selectionFreeze, .trainingOpen, .selectionFrozen),
    (.validationUnseal, .selectionFrozen, .validationUnsealed),
    (.h3Evaluated, .validationUnsealed, .h3Evaluated),
    (.h1h2Released, .h3Evaluated, .h1h2Released),
    (.protocolFreeze, .h1h2Released, .archived)]

def stepOf (record : FreezeRecord) : RecordKind × AccessState × AccessState :=
  (record.recordKind, record.accessStateBefore, record.accessStateAfter)

/-- The record is of a kind that moves the state. -/
def advances (record : FreezeRecord) : Bool :=
  record.recordKind ≠ .replacementAuthorization && record.recordKind ≠ .amendment

/-- The records that move the state are the first steps of the release, which ends at the state. -/
def StagedRelease (records : List FreezeRecord) (state : AccessState) : Prop :=
  ∃ n, (records.filter advances).map stepOf = releaseSteps.take n ∧ releaseStates[n]? = some state

/-- A step of the release that begins at the state reached is the next one. -/
theorem releaseSteps_next {n : Nat} {step : RecordKind × AccessState × AccessState}
    (hstep : step ∈ releaseSteps) (hbefore : releaseStates[n]? = some step.2.1) :
    releaseSteps[n]? = some step ∧ releaseStates[n + 1]? = some step.2.2 := by
  have hn : n < 8 := (List.getElem?_eq_some_iff.mp hbefore).1
  simp only [releaseSteps, List.mem_cons, List.not_mem_nil, or_false] at hstep
  rcases hstep with rfl | rfl | rfl | rfl | rfl | rfl | rfl <;> revert hbefore <;>
    interval_cases n <;> decide

variable {record : FreezeRecord} {records : List FreezeRecord} {state : AccessState}

theorem StagedRelease.advance (h : StagedRelease records state)
    (hadvances : advances record = true) (hstep : stepOf record ∈ releaseSteps)
    (hbefore : record.accessStateBefore = state) :
    StagedRelease (records ++ [record]) record.accessStateAfter := by
  obtain ⟨n, hsteps, hstate⟩ := h
  obtain ⟨hnext, hafter⟩ := releaseSteps_next hstep (by rw [hstate, ← hbefore]; rfl)
  refine ⟨n + 1, ?_, hafter⟩
  rw [List.filter_append, List.map_append, hsteps, List.take_add_one, hnext]
  simp [hadvances]

theorem StagedRelease.keep (h : StagedRelease records state) (hadvances : advances record = false) :
    StagedRelease (records ++ [record]) state := by
  obtain ⟨n, hsteps, hstate⟩ := h
  refine ⟨n, ?_, hstate⟩
  rw [List.filter_append, List.map_append, hsteps]
  simp [hadvances]

/-- Two steps of the release that lie before the state were taken by records in that order. -/
theorem StagedRelease.taken (h : StagedRelease records state) {required : AccessState}
    (hreached : reached required state = true)
    {steps : List (RecordKind × AccessState × AccessState)}
    (hsteps : ∀ n, n < 8 → (releaseStates[n]?).any (reached required) = true →
      steps.Sublist (releaseSteps.take n)) :
    ∃ taken : List FreezeRecord, taken.Sublist records ∧ taken.map stepOf = steps := by
  obtain ⟨n, hrelease, hstate⟩ := h
  have hn : n < 8 := (List.getElem?_eq_some_iff.mp hstate).1
  have hsub : steps.Sublist ((records.filter advances).map stepOf) := by
    rw [hrelease]
    exact hsteps n hn (by rw [hstate]; exact hreached)
  obtain ⟨taken, htaken, hmap⟩ := List.sublist_map_iff.mp hsub
  exact ⟨taken, htaken.trans List.filter_sublist, hmap.symm⟩

/-! ### One turn -/

section Turns

variable {conv : CharConv} {sha256 : Text → Sha256} {blocks : List BlockPlan}
  {artifacts : List ArtifactAccessRecord} {namespaces : RoleNamespaceRegistry}
  {authorities : AuthorityPolicy} {ledger : AccessLedger} {record : FreezeRecord}

variable (conv sha256 blocks artifacts namespaces authorities) in
/-- The ledger admits the record: nothing is wrong with it, by itself or after those before. -/
structure Admitted (ledger : AccessLedger) (record : FreezeRecord) : Prop where
  wellFormed : validateFreeze record = []
  fresh : record.recordId ∉ ledger.recordIds
  hashed : zeroSelfHashMatches conv sha256 record = true
  inOrder : chronological ledger.previousTimestamp (parseUtc record.createdAtUtc) = true
  inputs : ∀ input ∈ record.inputArtifacts,
    referenceResolves ledger.earlier artifacts input.artifact = true
  bound : authorityBound authorities record = true
  affected : ∀ blockId ∈ record.affectedBlockIds, ∃ block, idIn blocks blockId = some block ∧
    roleAllowedForRecord record block.blockRole = true
  moves : record.recordKind ≠ .replacementAuthorization →
    record.accessStateBefore = ledger.finalState ∧
    (transitionOf conv sha256 blocks artifacts namespaces authorities ledger record).errors = [] ∧
    (transitionOf conv sha256 blocks artifacts namespaces authorities ledger record).allowed = true

theorem admitted_iff :
    turnErrors conv sha256 blocks artifacts namespaces authorities ledger record = [] ↔
      Admitted conv sha256 blocks artifacts namespaces authorities ledger record := by
  have hmoves : (if record.recordKind = .replacementAuthorization then []
        else stateErrors conv sha256 blocks artifacts namespaces authorities ledger record) = [] ↔
      (record.recordKind ≠ .replacementAuthorization →
        record.accessStateBefore = ledger.finalState ∧
        (transitionOf conv sha256 blocks artifacts namespaces authorities ledger
          record).errors = [] ∧
        (transitionOf conv sha256 blocks artifacts namespaces authorities ledger
          record).allowed = true) := by
    by_cases hkind : record.recordKind = .replacementAuthorization
    · simp [hkind]
    · simp [hkind, stateErrors]
  rw [turnErrors, List.append_eq_nil_iff, hmoves]
  constructor
  · rintro ⟨hrecord, hmoves⟩
    simp only [recordErrors, List.append_eq_nil_iff, require_eq_nil, List.flatMap_eq_nil_iff,
      decide_eq_true_eq, and_assoc] at hrecord
    obtain ⟨hlocal, hfresh, hhashed, hchrono, hinputs, hbound, haffected⟩ := hrecord
    refine ⟨hlocal, hfresh, hhashed, hchrono, hinputs, hbound, ?_, hmoves⟩
    intro blockId hblockId
    exact Option.any_eq_true _ _ |>.mp (haffected blockId hblockId)
  · intro h
    refine ⟨?_, h.moves⟩
    simp only [recordErrors, List.append_eq_nil_iff, require_eq_nil, List.flatMap_eq_nil_iff,
      decide_eq_true_eq, and_assoc]
    refine ⟨h.wellFormed, h.fresh, h.hashed, h.inOrder, h.inputs, h.bound, ?_⟩
    intro blockId hblockId
    exact Option.any_eq_true _ _ |>.mpr (h.affected blockId hblockId)

/-- A record that moves the state takes a step of the release. -/
theorem Admitted.step
    (h : Admitted conv sha256 blocks artifacts namespaces authorities ledger record)
    (hadvances : advances record = true) :
    stepOf record ∈ releaseSteps ∧ record.accessStateBefore = ledger.finalState ∧
      (ledger.turn conv sha256 blocks artifacts namespaces authorities record).finalState =
        record.accessStateAfter := by
  have hkind : record.recordKind ≠ .replacementAuthorization := by
    intro hsame
    simp [advances, hsame] at hadvances
  obtain ⟨hbefore, -, hallowed⟩ := h.moves hkind
  refine ⟨?_, hbefore, ?_⟩
  · cases hrecord : record.recordKind with
    | replacementAuthorization => exact absurd hrecord hkind
    | amendment => simp [advances, hrecord] at hadvances
    | protocolFreeze =>
        simp only [transitionOf, hrecord, protocolFreeze, Bool.and_eq_true] at hallowed
        have hmove := hallowed.1.1.1.1.1.1
        simp only [protocolMove, Bool.or_eq_true, Bool.and_eq_true, decide_eq_true_eq] at hmove
        rcases hmove with (⟨hb, ha⟩ | ⟨hb, ha⟩) | ⟨hb, ha⟩ <;>
          simp [stepOf, hrecord, hb, ha, releaseSteps]
    | selectionFreeze =>
        simp only [transitionOf, hrecord, selectionFreeze, Bool.and_eq_true, decide_eq_true_eq]
          at hallowed
        simp [stepOf, hrecord, hallowed, releaseSteps]
    | validationUnseal =>
        simp only [transitionOf, hrecord, validationUnseal, Bool.and_eq_true, decide_eq_true_eq]
          at hallowed
        simp [stepOf, hrecord, hallowed, releaseSteps]
    | h3Evaluated =>
        simp only [transitionOf, hrecord, h3Evaluated, Bool.and_eq_true, decide_eq_true_eq]
          at hallowed
        simp [stepOf, hrecord, hallowed, releaseSteps]
    | h1h2Released =>
        simp only [transitionOf, hrecord, h1h2Released, Bool.and_eq_true, decide_eq_true_eq]
          at hallowed
        simp [stepOf, hrecord, hallowed, releaseSteps]
  · simp [AccessLedger.turn, turnState, hkind, hallowed]

/-- A record that is not of a kind that moves the state leaves it; an amendment begins and ends
there. -/
theorem Admitted.stay
    (h : Admitted conv sha256 blocks artifacts namespaces authorities ledger record)
    (hadvances : advances record = false) :
    (ledger.turn conv sha256 blocks artifacts namespaces authorities record).finalState =
        ledger.finalState ∧
      (record.recordKind = .amendment → record.accessStateBefore = ledger.finalState ∧
        record.accessStateAfter = ledger.finalState) := by
  have hcases : record.recordKind = .replacementAuthorization ∨ record.recordKind = .amendment := by
    simpa [advances, or_iff_not_imp_left] using hadvances
  rcases hcases with hkind | hkind
  · refine ⟨by simp [AccessLedger.turn, turnState, hkind], ?_⟩
    intro hsame
    rw [hkind] at hsame
    cases hsame
  · obtain ⟨hbefore, -, hallowed⟩ := h.moves (by rw [hkind]; decide)
    have hsame : record.accessStateBefore = record.accessStateAfter := by
      simp only [transitionOf, hkind, amendment, Bool.and_eq_true, decide_eq_true_eq] at hallowed
      exact hallowed.1
    refine ⟨?_, fun _ => ⟨hbefore, hsame.symm.trans hbefore⟩⟩
    simp [AccessLedger.turn, turnState, hkind, hallowed, ← hsame, hbefore]

end Turns

/-! ### The whole ledger -/

section Runs

variable {conv : CharConv} {sha256 : Text → Sha256} {blocks : List BlockPlan}
  {artifacts : List ArtifactAccessRecord} {namespaces : RoleNamespaceRegistry}
  {authorities : AuthorityPolicy} {records : List FreezeRecord}

variable (conv sha256 blocks artifacts namespaces authorities) in
/-- The ledger after the records. -/
def ledgerAfter (records : List FreezeRecord) : AccessLedger :=
  records.foldl (AccessLedger.turn conv sha256 blocks artifacts namespaces authorities)
    (openLedger blocks artifacts namespaces authorities)

variable (conv sha256 blocks artifacts namespaces authorities) in
theorem turn_collects :
    Audits.Collects (AccessLedger.turn conv sha256 blocks artifacts namespaces authorities)
      AccessLedger.errors (turnErrors conv sha256 blocks artifacts namespaces authorities) :=
  fun _ _ => rfl

variable (conv sha256 blocks artifacts namespaces authorities) in
/-- The ledger was accepted. -/
def LedgerAccepted (records : List FreezeRecord) : Prop :=
  (validateAccessLedger conv sha256 blocks artifacts namespaces authorities records).errors = []

/-- What the state of the loop says of the records before, and what these are. -/
structure LedgerRun (authorities : AuthorityPolicy) (earlier : List FreezeRecord)
    (ledger : AccessLedger) : Prop where
  records : ledger.earlier = earlier
  ids : ledger.recordIds = (earlier.map FreezeRecord.recordId).reverse
  distinct : (earlier.map FreezeRecord.recordId).Nodup
  latest : ledger.previousTimestamp =
    earlier.getLast?.bind fun record => parseUtc record.createdAtUtc
  stamped : ∀ record ∈ earlier, (parseUtc record.createdAtUtc).isSome = true
  inOrder : earlier.Pairwise InOrder
  bound : ∀ record ∈ earlier, authorityBound authorities record = true
  release : StagedRelease earlier ledger.finalState

theorem ledgerRun_open :
    LedgerRun authorities [] (openLedger blocks artifacts namespaces authorities) :=
  { records := rfl
    ids := rfl
    distinct := List.nodup_nil
    latest := rfl
    stamped := by simp
    inOrder := .nil
    bound := by simp
    release := ⟨0, rfl, rfl⟩ }

/-- The record is not before the last one, and so before none. -/
theorem LedgerRun.follows {earlier : List FreezeRecord} {ledger : AccessLedger}
    (h : LedgerRun authorities earlier ledger)
    (hchrono : chronological ledger.previousTimestamp (parseUtc record.createdAtUtc) = true) :
    ∀ first ∈ earlier, InOrder first record := by
  obtain ⟨timestamp, hparse, hprevious⟩ := Option.any_eq_true _ _ |>.mp hchrono
  rw [h.latest] at hprevious
  rcases List.eq_nil_or_concat earlier with rfl | ⟨front, last, rfl⟩
  · intro first hfirst
    cases hfirst
  · rw [List.concat_eq_append] at *
    obtain ⟨previous, hprev⟩ := Option.isSome_iff_exists.mp (h.stamped last (by simp))
    rw [List.getLast?_append, List.getLast?_singleton, Option.some_or, Option.bind_some, hprev]
      at hprevious
    have hlast : InOrder last record :=
      ⟨previous, timestamp, hprev, hparse, by simpa using hprevious⟩
    intro first hfirst
    rcases List.mem_append.mp hfirst with hfront | hsame
    · exact ((List.pairwise_append.mp h.inOrder).2.2 first hfront last (by simp)).trans hlast
    · rw [List.mem_singleton.mp hsame]
      exact hlast

theorem LedgerRun.turn {earlier : List FreezeRecord} {ledger : AccessLedger}
    (h : LedgerRun authorities earlier ledger)
    (hadmitted : Admitted conv sha256 blocks artifacts namespaces authorities ledger record) :
    LedgerRun authorities (earlier ++ [record])
      (ledger.turn conv sha256 blocks artifacts namespaces authorities record) := by
  obtain ⟨timestamp, hparse, -⟩ := Option.any_eq_true _ _ |>.mp hadmitted.inOrder
  have hnew : record.recordId ∉ earlier.map FreezeRecord.recordId := by
    have hfresh := hadmitted.fresh
    rwa [h.ids, List.mem_reverse] at hfresh
  refine
    { records := by rw [AccessLedger.turn, h.records]
      ids := by simp [AccessLedger.turn, h.ids]
      distinct := ?_
      latest := ?_
      stamped := ?_
      inOrder := ?_
      bound := ?_
      release := ?_ }
  · rw [List.map_append, List.map_singleton]
    exact List.nodup_append.mpr ⟨h.distinct, List.nodup_singleton _, by
      intro id hid id' hid' hsame
      rw [List.mem_singleton.mp hid'] at hsame
      exact hnew (hsame ▸ hid)⟩
  · simp [AccessLedger.turn, hparse]
  · intro other hother
    rcases List.mem_append.mp hother with hbefore | hsame
    · exact h.stamped other hbefore
    · rw [List.mem_singleton.mp hsame, hparse]
      rfl
  · refine List.pairwise_append.mpr ⟨h.inOrder, List.pairwise_singleton _ _, ?_⟩
    intro first hfirst second hsecond
    rw [List.mem_singleton.mp hsecond]
    exact h.follows hadmitted.inOrder first hfirst
  · intro other hother
    rcases List.mem_append.mp hother with hbefore | hsame
    · exact h.bound other hbefore
    · rw [List.mem_singleton.mp hsame]
      exact hadmitted.bound
  · cases hadvances : advances record with
    | true =>
        obtain ⟨hstep, hbefore, hafter⟩ := hadmitted.step hadvances
        rw [hafter]
        exact h.release.advance hadvances hstep hbefore
    | false =>
        rw [(hadmitted.stay hadvances).1]
        exact h.release.keep hadvances

theorem LedgerAccepted.run
    (h : LedgerAccepted conv sha256 blocks artifacts namespaces authorities records) :
    LedgerRun authorities records
      (ledgerAfter conv sha256 blocks artifacts namespaces authorities records) := by
  have hopen : LedgerRun authorities [] (openLedger blocks artifacts namespaces authorities) :=
    ledgerRun_open
  have hrun := (turn_collects conv sha256 blocks artifacts namespaces authorities).invariant hopen
    (fun _ _ _ hrun hclean => hrun.turn (admitted_iff.mp hclean)) h
  rwa [List.nil_append] at hrun

/-- Every record of an accepted ledger was admitted after those before it. -/
theorem LedgerAccepted.admitted {before after : List FreezeRecord}
    (h : LedgerAccepted conv sha256 blocks artifacts namespaces authorities
      (before ++ record :: after)) :
    Admitted conv sha256 blocks artifacts namespaces authorities
      (ledgerAfter conv sha256 blocks artifacts namespaces authorities before) record :=
  admitted_iff.mp ((turn_collects conv sha256 blocks artifacts namespaces authorities).clean_turn h)

theorem LedgerAccepted.of_append {before after : List FreezeRecord}
    (h : LedgerAccepted conv sha256 blocks artifacts namespaces authorities (before ++ after)) :
    LedgerAccepted conv sha256 blocks artifacts namespaces authorities before :=
  (turn_collects conv sha256 blocks artifacts namespaces authorities).clean_of_append h

end Runs

end CpuPrefetch.Orchestration
