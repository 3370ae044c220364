/-
What a join that passed has joined.

An audit that reports nothing has collected exactly the accepted rows, and a row is only
ever derived from a pair whose timestamps are in order.  So the end-to-end latency of a
joined row is the time from the arrival of its producer row to the end of its consumer
row, and the subtraction behind it never wraps around.

The rows then fit their places one by one, and the pairs match one by one, which is the join as
it is documented.  A row names its own place, so a stream that was tampered with does not pass.
-/
import CpuPrefetch.Proofs.Reconciliation.Reconcile

namespace CpuPrefetch.Reconciliation

open List
open Protocol (RunId ProducerRecord ConsumerRecord JoinedRecord ValidationError)
open Timing (deriveJoinedRecord deriveFailure joinedRecord nondecreasing nondecreasing_cons)

/-- The row covers the time from the arrival of the one to the completion of the other. -/
def Spans (pair : ProducerRecord × ConsumerRecord) (row : JoinedRecord) : Prop :=
  pair.1.scheduledArrival.toNat + row.endToEndLatency.toNat =
    pair.2.consumerActionCompletion.toNat

/-! ### One row -/

section Row

variable {producer : ProducerRecord} {consumer : ConsumerRecord}
  {producerRowOrdinal consumerRowOrdinal : UInt64}

theorem spans_joinedRecord {linearization ordinal : UInt64}
    (hproducer : nondecreasing [producer.scheduledArrival, producer.producerHandleBegin,
      producer.recordLookupCompletion, producer.enqueueInvocation, linearization,
      producer.enqueueAttemptCompletion] = true)
    (hconsumer : nondecreasing [consumer.dequeueInvocation, consumer.dequeueLinearization,
      consumer.dequeueCompletion, consumer.consumerActionCompletion] = true)
    (hqueue : linearization ≤ consumer.dequeueLinearization) :
    Spans (producer, consumer) (joinedRecord producer linearization ordinal producerRowOrdinal
      consumer consumerRowOrdinal) := by
  simp only [nondecreasing_cons, UInt64.le_iff_toNat_le] at hproducer hconsumer
  rw [UInt64.le_iff_toNat_le] at hqueue
  have hlatency : producer.scheduledArrival.toNat ≤ consumer.consumerActionCompletion.toNat := by
    omega
  show producer.scheduledArrival.toNat +
    (consumer.consumerActionCompletion - producer.scheduledArrival).toNat =
      consumer.consumerActionCompletion.toNat
  rw [UInt64.toNat_sub_of_le _ _ (UInt64.le_iff_toNat_le.mpr hlatency)]
  omega

theorem spans_of_derive {row : JoinedRecord}
    (h : deriveJoinedRecord producer producerRowOrdinal consumer consumerRowOrdinal = .ok row) :
    Spans (producer, consumer) row := by
  rw [deriveJoinedRecord] at h
  split at h
  · split at h
    · cases h
    · split at h
      · cases h
      · rename_i hordered
        simp only [Bool.or_eq_true, not_or, Bool.not_eq_true', Bool.not_eq_false,
          decide_eq_true_eq, UInt64.not_lt] at hordered
        obtain ⟨⟨hproducer, hconsumer⟩, hqueue⟩ := hordered
        simp only at h
        split at h
        · cases h
          exact spans_joinedRecord hproducer hconsumer hqueue
        · cases h
  · cases h

/-- A pair that is not derived is reported. -/
theorem derive_ne_error_nil :
    deriveJoinedRecord producer producerRowOrdinal consumer consumerRowOrdinal ≠ .error [] := by
  rw [deriveJoinedRecord]
  split
  · split
    · exact nofun
    · split
      · exact nofun
      · simp only
        split
        · exact nofun
        · exact nofun
  · exact nofun

end Row

/-! ### The loops -/

variable {consumers : List ConsumerRecord}

theorem deriveRows_clean {accepted : List (Nat × ProducerRecord)} {index : Nat}
    (h : (deriveRows index accepted consumers).2 = []) :
    List.Forall₂ Spans ((accepted.map (·.2)).zip consumers)
      (deriveRows index accepted consumers).1 := by
  induction accepted generalizing consumers index with
  | nil => exact .nil
  | cons first accepted ih =>
      obtain ⟨ordinal, producer⟩ := first
      cases consumers with
      | nil => exact .nil
      | cons consumer consumers =>
          rw [deriveRows] at h ⊢
          cases hderived : deriveJoinedRecord producer (.ofNat ordinal) consumer (.ofNat index) with
          | ok row =>
              simp only [hderived] at h ⊢
              exact .cons (spans_of_derive hderived) (ih h)
          | error errors =>
              simp only [hderived, append_eq_nil_iff, map_eq_nil_iff] at h
              obtain ⟨rfl, -⟩ := h
              exact absurd hderived derive_ne_error_nil

variable {row : ProducerRecord} {rows : List ProducerRecord}

section Producers

variable {runId : RunId} {expectedRecordIndices : List UInt64} {index : Nat}
  {audit : ProducerAudit}

/-- A row that leaves no issue is collected exactly if it was accepted. -/
theorem row_clean (h : (audit.row runId expectedRecordIndices index row).issues = []) :
    audit.issues = [] ∧ (audit.row runId expectedRecordIndices index row).accepted =
      audit.accepted ++ if row.outcome = .accepted then [(index, row)] else [] := by
  unfold ProducerAudit.row at h ⊢
  cases houtcome : row.outcome with
  | accepted =>
      cases hordinal : row.acceptedOrdinal with
      | none => simp [houtcome, hordinal] at h
      | some ordinal =>
          cases hlinearization : row.enqueueLinearization with
          | none => simp [houtcome, hordinal, hlinearization] at h
          | some linearization =>
              simp only [houtcome, hordinal, hlinearization, append_eq_nil_iff] at h ⊢
              exact ⟨h.1.1, rfl⟩
  | full =>
      simp only [houtcome, append_eq_nil_iff] at h ⊢
      exact ⟨h.1.1, by simp⟩

theorem auditProducers_clean
    (h : (auditProducers runId expectedRecordIndices index audit rows).issues = []) :
    audit.issues = [] ∧ (auditProducers runId expectedRecordIndices index audit rows).accepted =
      audit.accepted ++ acceptedFrom index rows := by
  induction rows generalizing index audit with
  | nil => exact ⟨h, (append_nil _).symm⟩
  | cons row rest ih =>
      rw [auditProducers] at h ⊢
      obtain ⟨hrow, hcollected⟩ := ih h
      obtain ⟨haudit, haccepted⟩ := row_clean hrow
      refine ⟨haudit, ?_⟩
      rw [hcollected, haccepted, acceptedFrom, append_assoc]

end Producers

variable {expectedRecordIndices : List UInt64} {runId : RunId}

/-- **A join that passed pairs every accepted row with one consumer row, and its rows cover the
time between them.** -/
theorem reconcile_passed
    (h : (reconcile runId rows consumers expectedRecordIndices).status = .passed) :
    consumers.length = (rows.filter (·.outcome = .accepted)).length ∧
      List.Forall₂ Spans ((rows.filter (·.outcome = .accepted)).zip consumers)
        (reconcile runId rows consumers expectedRecordIndices).joinedRows := by
  unfold reconcile at h ⊢
  simp only at h ⊢
  split at h
  · cases h
  · rename_i hissues
    split at h
    · cases h
    · rename_i horder
      rw [if_neg hissues, if_neg horder]
      simp only [Bool.not_eq_true', Bool.not_eq_false, List.isEmpty_iff, append_eq_nil_iff,
        issueIf_eq_nil, decide_eq_false_iff_not, ne_eq, not_not] at hissues horder
      obtain ⟨⟨hproducers, hcount⟩, -⟩ := hissues
      obtain ⟨-, haccepted⟩ := auditProducers_clean hproducers
      have hrows := acceptedFrom_rows rows 0
      have hderived := deriveRows_clean horder
      rw [haccepted, nil_append] at hcount hderived ⊢
      rw [hrows] at hderived
      exact ⟨by rw [hcount, ← hrows, length_map], hderived⟩

/-! ### What an audit without issues says -/

section Clean

variable {runId : RunId} {expectedRecordIndices : List UInt64} {index : Nat}
  {audit : ProducerAudit}

theorem producerIdentityIssues_eq_nil (hindex : index < expectedRecordIndices.length) :
    producerIdentityIssues runId expectedRecordIndices index row = [] ↔
      row.runId = runId ∧ row.logicalSequence.toNat = index ∧
        expectedRecordIndices[index]? = some row.recordIndex := by
  simp [producerIdentityIssues, getElem?_eq_getElem hindex]

/-- A row that leaves no issue fits its place. -/
theorem row_fit (hindex : index < expectedRecordIndices.length)
    (h : (audit.row runId expectedRecordIndices index row).issues = []) :
    FitRow runId expectedRecordIndices index audit.nextAccepted row ∧
      (audit.row runId expectedRecordIndices index row).nextAccepted =
        nextOrdinal audit.nextAccepted row := by
  unfold ProducerAudit.row at h ⊢
  cases houtcome : row.outcome with
  | accepted =>
      cases hordinal : row.acceptedOrdinal with
      | none => simp [houtcome, hordinal] at h
      | some ordinal =>
          cases hlinearization : row.enqueueLinearization with
          | none => simp [houtcome, hordinal, hlinearization] at h
          | some linearization =>
              simp only [houtcome, hordinal, hlinearization, append_eq_nil_iff,
                producerIdentityIssues_eq_nil hindex, issueIf_eq_nil, decide_eq_false_iff_not,
                ne_eq, not_not] at h ⊢
              obtain ⟨⟨-, hrun, hsequence, hmapping⟩, rfl⟩ := h
              refine ⟨⟨hrun, hsequence, hmapping, ?_, ?_⟩, ?_⟩
              · rw [houtcome, hordinal, if_pos rfl]
              · simp [houtcome, hlinearization]
              · simp [nextOrdinal, houtcome]
  | full =>
      simp only [houtcome, append_eq_nil_iff, producerIdentityIssues_eq_nil hindex,
        issueIf_eq_nil, Bool.or_eq_false_iff, Option.isSome_eq_false_iff, Option.isNone_iff_eq_none]
        at h ⊢
      obtain ⟨⟨-, hrun, hsequence, hmapping⟩, hordinal, hlinearization⟩ := h
      refine ⟨⟨hrun, hsequence, hmapping, ?_, ?_⟩, ?_⟩
      · rw [houtcome, hordinal, if_neg nofun]
      · simp [houtcome, hlinearization]
      · simp [nextOrdinal, houtcome]

theorem auditProducers_chained (hlength : index + rows.length = expectedRecordIndices.length)
    (h : (auditProducers runId expectedRecordIndices index audit rows).issues = []) :
    Chained (FitRow runId expectedRecordIndices) nextOrdinal index audit.nextAccepted rows := by
  induction rows generalizing index audit with
  | nil => trivial
  | cons row rest ih =>
      rw [auditProducers] at h
      rw [length_cons] at hlength
      obtain ⟨hfit, hnext⟩ := row_fit (by omega) (auditProducers_clean h).1
      refine ⟨hfit, ?_⟩
      rw [← hnext]
      exact ih (by omega) h

end Clean

variable {consumer : ConsumerRecord} {producer : ProducerRecord}

section Pairs

variable {runId : RunId} {k : Nat} {accepted : List (Nat × ProducerRecord)}
  {consumers : List ConsumerRecord}

/-- A row is only derived from a pair whose identities match and whose timestamps are in order. -/
theorem order_of_derive {producerRowOrdinal consumerRowOrdinal : UInt64} {row : JoinedRecord}
    (h : deriveJoinedRecord producer producerRowOrdinal consumer consumerRowOrdinal = .ok row) :
    ∃ linearization, producer.enqueueLinearization = some linearization ∧
      nondecreasing [producer.scheduledArrival, producer.producerHandleBegin,
        producer.recordLookupCompletion, producer.enqueueInvocation, linearization,
        producer.enqueueAttemptCompletion] = true ∧
      nondecreasing [consumer.dequeueInvocation, consumer.dequeueLinearization,
        consumer.dequeueCompletion, consumer.consumerActionCompletion] = true ∧
      linearization ≤ consumer.dequeueLinearization := by
  rw [deriveJoinedRecord] at h
  split at h
  · rename_i linearization ordinal _ hlinearization _
    split at h
    · cases h
    · split at h
      · cases h
      · rename_i hordered
        simp only [Bool.or_eq_true, not_or, Bool.not_eq_true', Bool.not_eq_false,
          decide_eq_true_eq, UInt64.not_lt] at hordered
        exact ⟨linearization, hlinearization, hordered.1.1, hordered.1.2, hordered.2⟩
  · cases h

theorem matches_of_clean {producerRowOrdinal consumerRowOrdinal : UInt64} {row : JoinedRecord}
    (haccepted : producer.outcome = .accepted) (hrun : producer.runId = runId)
    (hissues : consumerIssues runId k consumer producer = [])
    (hderived : deriveJoinedRecord producer producerRowOrdinal consumer consumerRowOrdinal =
      .ok row) :
    ∃ linearization, Matches runId k producer consumer linearization := by
  obtain ⟨linearization, hlinearization, hproducer, hconsumer, hqueue⟩ := order_of_derive hderived
  simp only [consumerIssues, append_eq_nil_iff, issueIf_eq_nil, Bool.or_eq_false_iff,
    decide_eq_false_iff_not, ne_eq, not_not] at hissues
  obtain ⟨⟨hconsumerRun, hposition, hordinal⟩, hrecord⟩ := hissues
  exact ⟨linearization, haccepted, hlinearization, hrun, hconsumerRun, hposition, hordinal, hrecord,
    hproducer, hconsumer, hqueue⟩

theorem joins_of_clean (hlength : consumers.length = accepted.length)
    (haccepted : ∀ pair ∈ accepted, pair.2.outcome = .accepted ∧ pair.2.runId = runId)
    (haudit : auditPairs runId k consumers accepted = [])
    (hderive : (deriveRows k accepted consumers).2 = []) :
    ∃ joined, Joins runId k accepted consumers joined := by
  induction accepted generalizing k consumers with
  | nil =>
      obtain rfl := List.length_eq_zero_iff.mp hlength
      exact ⟨[], .nil k⟩
  | cons pair rest ih =>
      obtain ⟨position, producer⟩ := pair
      cases consumers with
      | nil => cases hlength
      | cons consumer consumers =>
          obtain ⟨⟨houtcome, hrun⟩, hrest⟩ := List.forall_mem_cons.mp haccepted
          rw [auditPairs, append_eq_nil_iff] at haudit
          rw [deriveRows] at hderive
          cases hderived : deriveJoinedRecord producer (.ofNat position) consumer (.ofNat k) with
          | error errors =>
              simp only [hderived, append_eq_nil_iff, map_eq_nil_iff] at hderive
              obtain ⟨rfl, -⟩ := hderive
              exact absurd hderived derive_ne_error_nil
          | ok row =>
              simp only [hderived] at hderive
              obtain ⟨linearization, hmatches⟩ :=
                matches_of_clean houtcome hrun haudit.1 hderived
              obtain ⟨joined, hjoined⟩ :=
                ih (Nat.succ.inj hlength) hrest haudit.2 hderive
              exact ⟨_, .cons hmatches hjoined⟩

/-- Pairs are joined when the two lists are equally long and match place by place. -/
theorem joins_iff : (∃ joined, Joins runId k accepted consumers joined) ↔
    consumers.length = accepted.length ∧ ∀ i position producer consumer,
      accepted[i]? = some (position, producer) → consumers[i]? = some consumer →
        ∃ linearization, Matches runId (k + i) producer consumer linearization := by
  constructor
  · rintro ⟨joined, hjoined⟩
    refine ⟨hjoined.lengths.1, fun i position producer consumer hproducer hconsumer => ?_⟩
    have hrow : i < joined.length := by
      rw [hjoined.lengths.2]
      exact (List.getElem?_eq_some_iff.mp hproducer).1
    obtain ⟨_, _, _, linearization, hproducer', hconsumer', hmatches, -⟩ :=
      hjoined.getElem? (getElem?_eq_getElem hrow)
    rw [hproducer] at hproducer'
    rw [hconsumer] at hconsumer'
    cases hproducer'
    cases hconsumer'
    exact ⟨linearization, hmatches⟩
  · rintro ⟨hlength, hmatches⟩
    induction accepted generalizing k consumers with
    | nil =>
        obtain rfl := List.length_eq_zero_iff.mp hlength
        exact ⟨[], .nil k⟩
    | cons pair rest ih =>
        obtain ⟨position, producer⟩ := pair
        cases consumers with
        | nil => cases hlength
        | cons consumer consumers =>
            obtain ⟨linearization, hfirst⟩ := hmatches 0 position producer consumer rfl rfl
            obtain ⟨joined, hjoined⟩ := ih (k := k + 1) (Nat.succ.inj hlength)
              fun i position producer consumer hproducer hconsumer => by
                have hindex : k + 1 + i = k + (i + 1) := by omega
                rw [hindex]
                exact hmatches (i + 1) position producer consumer hproducer hconsumer
            exact ⟨_, .cons hfirst hjoined⟩

end Pairs

/-- The row is of an accepted event. -/
def isAccepted (row : ProducerRecord) : Bool := row.outcome = .accepted

/-- The k-th collected row stands at its position, with k accepted rows before it. -/
theorem acceptedFrom_getElem? {index k position : Nat}
    (h : (acceptedFrom index rows)[k]? = some (position, row)) :
    ∃ i, position = index + i ∧ rows[i]? = some row ∧ row.outcome = .accepted ∧
      (rows.take i).countP isAccepted = k := by
  induction rows generalizing index k with
  | nil => cases h
  | cons first rest ih =>
      rw [acceptedFrom] at h
      by_cases haccepted : first.outcome = .accepted
      · rw [if_pos haccepted] at h
        cases k with
        | zero =>
            obtain ⟨rfl, rfl⟩ := Prod.mk.inj (Option.some.inj h)
            exact ⟨0, rfl, rfl, haccepted, rfl⟩
        | succ k =>
            obtain ⟨i, rfl, hrow, houtcome, hcount⟩ := ih h
            refine ⟨i + 1, by omega, hrow, houtcome, ?_⟩
            rw [take_succ_cons, countP_cons_of_pos (by simp [isAccepted, haccepted]),
              hcount]
      · rw [if_neg haccepted, nil_append] at h
        obtain ⟨i, rfl, hrow, houtcome, hcount⟩ := ih h
        refine ⟨i + 1, by omega, hrow, houtcome, ?_⟩
        rw [take_succ_cons, countP_cons_of_neg (by simp [isAccepted, haccepted]), hcount]

/-- A join passes exactly when its rows fit, one for each index, and its pairs match. -/
theorem reconcile_passed_iff :
    (reconcile runId rows consumers expectedRecordIndices).status = .passed ↔
      rows.length = expectedRecordIndices.length ∧
        Chained (FitRow runId expectedRecordIndices) nextOrdinal 0 0 rows ∧
        ∃ joined, Joins runId 0 (acceptedFrom 0 rows) consumers joined := by
  constructor
  · intro h
    unfold reconcile at h
    simp only at h
    split at h
    · cases h
    · rename_i hissues
      split at h
      · cases h
      · rename_i horder
        simp only [Bool.not_eq_true', Bool.not_eq_false, List.isEmpty_iff, append_eq_nil_iff,
          issueIf_eq_nil, decide_eq_false_iff_not, ne_eq, not_not] at hissues horder
        obtain ⟨⟨hproducers, hcount⟩, hpairs⟩ := hissues
        obtain ⟨hnone, haccepted⟩ := auditProducers_clean hproducers
        have hlength : rows.length = expectedRecordIndices.length := by simpa using hnone
        have hchained := auditProducers_chained (by omega) hproducers
        rw [haccepted, nil_append] at hcount hpairs horder
        refine ⟨hlength, hchained, joins_of_clean hcount ?_ hpairs horder⟩
        rintro ⟨position, row⟩ hmem
        obtain ⟨k, hk⟩ := mem_iff_getElem?.mp hmem
        obtain ⟨i, -, hrow, houtcome, -⟩ := acceptedFrom_getElem? hk
        obtain ⟨counter, hfit⟩ := hchained.getElem? hrow
        exact ⟨houtcome, hfit.run⟩
  · rintro ⟨hlength, hchained, joined, hjoined⟩
    exact (reconcile_passes hchained hlength hjoined).1

/-! ### The documented join -/

/-- The timestamps of a pair are in their partial order. -/
def TimesInOrder (producer : ProducerRecord) (consumer : ConsumerRecord) : Prop :=
  ∃ linearization, producer.enqueueLinearization = some linearization ∧
    [producer.scheduledArrival, producer.producerHandleBegin, producer.recordLookupCompletion,
      producer.enqueueInvocation, linearization, producer.enqueueAttemptCompletion].Pairwise
        (· ≤ ·) ∧
    [consumer.dequeueInvocation, consumer.dequeueLinearization, consumer.dequeueCompletion,
      consumer.consumerActionCompletion].Pairwise (· ≤ ·) ∧
    linearization ≤ consumer.dequeueLinearization

/-- The exact join of the two streams, as it is documented. -/
structure DocumentedJoin (runId : RunId) (rows : List ProducerRecord)
    (consumers : List ConsumerRecord) (expectedRecordIndices : List UInt64) : Prop where
  mapped : rows.length = expectedRecordIndices.length
  identities : ∀ (i : Nat) (row : ProducerRecord), rows[i]? = some row →
    row.runId = runId ∧ row.logicalSequence.toNat = i ∧
      expectedRecordIndices[i]? = some row.recordIndex
  /-- The ordinals of the accepted rows count the accepted rows before them. -/
  accepted : ∀ (i : Nat) (row : ProducerRecord), rows[i]? = some row → row.outcome = .accepted →
    row.acceptedOrdinal.map (·.toNat) = some ((rows.take i).countP isAccepted) ∧
      row.enqueueLinearization.isSome = true
  full : ∀ row ∈ rows, row.outcome = .full →
    row.acceptedOrdinal = none ∧ row.enqueueLinearization = none
  counted : consumers.length = (rows.filter isAccepted).length
  pairs : ∀ (k : Nat) (producer : ProducerRecord) (consumer : ConsumerRecord),
    (rows.filter isAccepted)[k]? = some producer →
    consumers[k]? = some consumer → consumer.runId = runId ∧ consumer.consumedOrdinal.toNat = k ∧
      consumer.observedRecordIndex = producer.recordIndex ∧ TimesInOrder producer consumer

theorem nondecreasing_iff {values : List UInt64} :
    nondecreasing values = true ↔ values.Pairwise (· ≤ ·) := by
  induction values with
  | nil => simp [nondecreasing]
  | cons first rest ih =>
      cases rest with
      | nil => simp [nondecreasing]
      | cons second rest =>
          rw [nondecreasing_cons, ih]
          constructor
          · rintro ⟨hle, hrest⟩
            refine List.pairwise_cons.mpr ⟨?_, hrest⟩
            rw [forall_mem_cons]
            exact ⟨hle, fun value hvalue =>
              UInt64.le_trans hle ((List.pairwise_cons.mp hrest).1 value hvalue)⟩
          · intro h
            obtain ⟨hfirst, hrest⟩ := List.pairwise_cons.mp h
            exact ⟨hfirst second mem_cons_self, hrest⟩

theorem foldl_nextOrdinal (rows : List ProducerRecord) :
    rows.foldl nextOrdinal 0 = .ofNat (rows.countP isAccepted) := by
  induction rows using List.reverseRecOn with
  | nil => rfl
  | append_singleton front last ih =>
      rw [foldl_append, foldl_cons, foldl_nil, ih, countP_append, nextOrdinal]
      by_cases haccepted : last.outcome = .accepted
      · simp [haccepted, isAccepted]
      · simp [haccepted, isAccepted]

section Documented

variable {runId : RunId} {rows : List ProducerRecord} {consumers : List ConsumerRecord}
  {expectedRecordIndices : List UInt64}

theorem filter_isAccepted (rows : List ProducerRecord) :
    rows.filter isAccepted = (acceptedFrom 0 rows).map (·.2) :=
  (acceptedFrom_rows rows 0).symm

/-- Rows fit their places exactly when they have the documented shape. -/
theorem chained_iff : Chained (FitRow runId expectedRecordIndices) nextOrdinal 0 0 rows ↔
    (∀ (i : Nat) (row : ProducerRecord), rows[i]? = some row → row.runId = runId ∧
      row.logicalSequence.toNat = i ∧ expectedRecordIndices[i]? = some row.recordIndex) ∧
    (∀ (i : Nat) (row : ProducerRecord), rows[i]? = some row → row.outcome = .accepted →
      row.acceptedOrdinal.map (·.toNat) = some ((rows.take i).countP isAccepted) ∧
        row.enqueueLinearization.isSome = true) ∧
    ∀ row ∈ rows, row.outcome = .full →
      row.acceptedOrdinal = none ∧ row.enqueueLinearization = none := by
  -- the counter before a row is a 64-bit word, and so is the row's position
  have hcounter : ∀ {i : Nat} {row : ProducerRecord}, row.logicalSequence.toNat = i →
      (UInt64.ofNat ((rows.take i).countP isAccepted)).toNat = (rows.take i).countP isAccepted := by
    intro i row hsequence
    refine UInt64.toNat_ofNat_of_lt' (lt_of_le_of_lt ?_ row.logicalSequence.toNat_lt)
    rw [hsequence]
    exact List.countP_le_length.trans (length_take_le i rows)
  rw [Chained.iff_getElem?]
  simp only [Nat.zero_add, foldl_nextOrdinal]
  constructor
  · intro h
    refine ⟨fun i row hrow => ⟨(h i row hrow).run, (h i row hrow).sequence, (h i row hrow).mapping⟩,
      fun i row hrow houtcome => ⟨?_, ?_⟩, fun row hmem houtcome => ?_⟩
    · rw [(h i row hrow).ordinal, if_pos houtcome, Option.map_some,
        hcounter (h i row hrow).sequence]
    · simpa [houtcome] using (h i row hrow).linearization
    · obtain ⟨i, hrow⟩ := mem_iff_getElem?.mp hmem
      have hfit := h i row hrow
      refine ⟨?_, ?_⟩
      · rw [hfit.ordinal, houtcome, if_neg nofun]
      · simpa [houtcome] using hfit.linearization
  · rintro ⟨hidentities, haccepted, hfull⟩ i row hrow
    obtain ⟨hrun, hsequence, hmapping⟩ := hidentities i row hrow
    refine ⟨hrun, hsequence, hmapping, ?_, ?_⟩
    · cases houtcome : row.outcome with
      | accepted =>
          obtain ⟨hordinal, -⟩ := haccepted i row hrow houtcome
          obtain ⟨ordinal, hsome, hvalue⟩ := Option.map_eq_some_iff.mp hordinal
          rw [if_pos rfl, hsome, Option.some.injEq, ← UInt64.toNat_inj, hvalue, hcounter hsequence]
      | full =>
          rw [if_neg nofun]
          exact (hfull row (mem_of_getElem? hrow) houtcome).1
    · cases houtcome : row.outcome with
      | accepted => simpa using (haccepted i row hrow houtcome).2
      | full => simpa using (hfull row (mem_of_getElem? hrow) houtcome).2

theorem timesInOrder_iff : TimesInOrder producer consumer ↔
      ∃ linearization, producer.enqueueLinearization = some linearization ∧
        nondecreasing [producer.scheduledArrival, producer.producerHandleBegin,
          producer.recordLookupCompletion, producer.enqueueInvocation, linearization,
          producer.enqueueAttemptCompletion] = true ∧
        nondecreasing [consumer.dequeueInvocation, consumer.dequeueLinearization,
          consumer.dequeueCompletion, consumer.consumerActionCompletion] = true ∧
        linearization ≤ consumer.dequeueLinearization := by
  simp only [nondecreasing_iff]
  rfl

/-- Among rows that fit, pairs are joined exactly when they match as documented. -/
theorem joins_iff_pairs
    (hchained : Chained (FitRow runId expectedRecordIndices) nextOrdinal 0 0 rows) :
    (∃ joined, Joins runId 0 (acceptedFrom 0 rows) consumers joined) ↔
      consumers.length = (rows.filter isAccepted).length ∧
        ∀ (k : Nat) (producer : ProducerRecord) (consumer : ConsumerRecord),
          (rows.filter isAccepted)[k]? = some producer → consumers[k]? = some consumer →
            consumer.runId = runId ∧ consumer.consumedOrdinal.toNat = k ∧
              consumer.observedRecordIndex = producer.recordIndex ∧
              TimesInOrder producer consumer := by
  rw [joins_iff, filter_isAccepted, length_map]
  simp only [Nat.zero_add, getElem?_map, Option.map_eq_some_iff, timesInOrder_iff]
  refine and_congr_right fun _ => ⟨fun h k producer consumer hproducer hconsumer => ?_,
    fun h k position producer consumer hproducer hconsumer => ?_⟩
  · obtain ⟨⟨position, producer'⟩, hposition, rfl⟩ := hproducer
    obtain ⟨linearization, hmatches⟩ := h k position producer' consumer hposition hconsumer
    exact ⟨hmatches.consumerRun, hmatches.position, hmatches.record, linearization,
      hmatches.linearized, hmatches.producerOrder, hmatches.consumerOrder, hmatches.queueOrder⟩
  · obtain ⟨hrun, hposition, hrecord, linearization, hlinearization, hproducerOrder,
      hconsumerOrder, hqueue⟩ := h k producer consumer ⟨_, hproducer, rfl⟩ hconsumer
    obtain ⟨i, -, hrow, houtcome, hcount⟩ := acceptedFrom_getElem? hproducer
    obtain ⟨counter, hfit⟩ := hchained.getElem? hrow
    obtain ⟨hordinal, -⟩ := (chained_iff.mp hchained).2.1 i producer hrow houtcome
    obtain ⟨ordinal, hsome, hvalue⟩ := Option.map_eq_some_iff.mp hordinal
    refine ⟨linearization, houtcome, hlinearization, hfit.run, hrun, hposition, ?_, hrecord,
      hproducerOrder, hconsumerOrder, hqueue⟩
    rw [hsome, Option.some.injEq, ← UInt64.toNat_inj, hvalue, hcount, hposition]

theorem passed_iff_documented :
    (reconcile runId rows consumers expectedRecordIndices).status = .passed ↔
      DocumentedJoin runId rows consumers expectedRecordIndices := by
  rw [reconcile_passed_iff]
  constructor
  · rintro ⟨hlength, hchained, hjoins⟩
    obtain ⟨hidentities, haccepted, hfull⟩ := chained_iff.mp hchained
    obtain ⟨hcount, hpairs⟩ := (joins_iff_pairs hchained).mp hjoins
    exact ⟨hlength, hidentities, haccepted, hfull, hcount, hpairs⟩
  · intro h
    have hchained := chained_iff.mpr ⟨h.identities, h.accepted, h.full⟩
    exact ⟨h.mapped, hchained, (joins_iff_pairs hchained).mpr ⟨h.counted, h.pairs⟩⟩

end Documented

/-- Each consumer row names its own place. -/
theorem DocumentedJoin.consumer_place
    (h : DocumentedJoin runId rows consumers expectedRecordIndices) {i : Nat}
    {row : ConsumerRecord} (hrow : consumers[i]? = some row) : row.consumedOrdinal.toNat = i := by
  have hbound : i < (rows.filter isAccepted).length := by
    rw [← h.counted]
    exact (List.getElem?_eq_some_iff.mp hrow).1
  exact (h.pairs i _ row (getElem?_eq_getElem hbound) hrow).2.1

/-! ### What the join returns -/

/-- Each joined row is derived from the pair at its place, with the position of its producer row. -/
def JoinsPairs (rows : List ProducerRecord) (consumers : List ConsumerRecord)
    (joined : List JoinedRecord) : Prop :=
  joined.length = (rows.filter isAccepted).length ∧
    ∀ (k : Nat) (row : JoinedRecord), joined[k]? = some row →
      ∃ (position ordinal : UInt64) (producer : ProducerRecord) (consumer : ConsumerRecord),
        rows[position.toNat]? = some producer ∧ (rows.filter isAccepted)[k]? = some producer ∧
          (rows.take position.toNat).countP isAccepted = k ∧ consumers[k]? = some consumer ∧
          ordinal.toNat = k ∧ deriveJoinedRecord producer position consumer ordinal = .ok row

section Returned

variable {runId : RunId} {rows : List ProducerRecord} {consumers : List ConsumerRecord}
  {expectedRecordIndices : List UInt64}

theorem passed_joinsPairs
    (h : (reconcile runId rows consumers expectedRecordIndices).status = .passed) :
    (reconcile runId rows consumers expectedRecordIndices).issues = [] ∧
      JoinsPairs rows consumers
        (reconcile runId rows consumers expectedRecordIndices).joinedRows := by
  obtain ⟨hlength, hchained, joined, hjoined⟩ := reconcile_passed_iff.mp h
  obtain ⟨-, hissues, hrows⟩ := reconcile_passes hchained hlength hjoined
  rw [hrows]
  refine ⟨hissues, ?_, fun k row hrow => ?_⟩
  · rw [filter_isAccepted, length_map, hjoined.lengths.2]
  · obtain ⟨position, producer, consumer, linearization, hproducer, hconsumer, hmatches, rfl⟩ :=
      hjoined.getElem? hrow
    rw [Nat.zero_add] at hmatches ⊢
    obtain ⟨i, hposition, hat, -, hcount⟩ := acceptedFrom_getElem? hproducer
    rw [Nat.zero_add] at hposition
    obtain rfl := hposition
    obtain ⟨_, hfit⟩ := hchained.getElem? hat
    have hword : (UInt64.ofNat position).toNat = position := by
      refine UInt64.toNat_ofNat_of_lt' ?_
      have hbound := producer.logicalSequence.toNat_lt
      rwa [hfit.sequence, Nat.zero_add] at hbound
    have hordinal : (UInt64.ofNat k).toNat = k := by
      rw [← hmatches.position, UInt64.ofNat_toNat]
    refine ⟨.ofNat position, .ofNat k, producer, consumer, ?_, ?_, ?_, hconsumer, hordinal,
      hmatches.derive _ _⟩
    · rw [hword]
      exact hat
    · rw [filter_isAccepted, getElem?_map, hproducer, Option.map_some]
    · rw [hword]
      exact hcount

/-- A join that does not pass says why, and joins nothing. -/
theorem failed_of_not_passed
    (h : (reconcile runId rows consumers expectedRecordIndices).status ≠ .passed) :
    (reconcile runId rows consumers expectedRecordIndices).status = .failed ∧
      (reconcile runId rows consumers expectedRecordIndices).issues ≠ [] ∧
      (reconcile runId rows consumers expectedRecordIndices).joinedRows = [] := by
  unfold reconcile at h ⊢
  simp only at h ⊢
  split at h
  · rename_i hissues
    rw [if_pos hissues]
    exact ⟨rfl, by simpa using hissues, rfl⟩
  · rename_i hissues
    split at h
    · rename_i horder
      rw [if_neg hissues, if_pos horder]
      exact ⟨rfl, by simpa using horder, rfl⟩
    · exact absurd rfl h

end Returned

/-! ### Streams that were tampered with -/

/-- A list with an element taken away, given twice, or exchanged with another. -/
inductive Edit {A : Type} : List A → List A → Prop where
  | delete (front back : List A) (row : A) : Edit (front ++ row :: back) (front ++ back)
  | duplicate (front back : List A) {row : A} (h : row ∈ front ++ back) :
      Edit (front ++ back) (front ++ row :: back)
  | swap (front middle back : List A) {first second : A} (h : first ≠ second) :
      Edit (front ++ first :: (middle ++ second :: back))
        (front ++ second :: (middle ++ first :: back))

/-- Where each element names its place, an edit changes the length or leaves one misplaced. -/
theorem Edit.misplaced {A : Type} {before after : List A} {place : A → Nat}
    (h : Edit before after)
    (hplace : ∀ (i : Nat) (row : A), before[i]? = some row → place row = i) :
    after.length ≠ before.length ∨ ∃ (i : Nat) (row : A), after[i]? = some row ∧ place row ≠ i := by
  cases h with
  | delete front back row =>
      left
      simp
  | duplicate front back hmem =>
      left
      simp
  | swap front middle back hne =>
      rename_i first second
      right
      refine ⟨front.length, second, by simp, ?_⟩
      have hsecond : (front ++ first :: (middle ++ second :: back))[front.length + 1 +
          middle.length]? = some second := by
        rw [getElem?_append_right (by omega),
          show front.length + 1 + middle.length - front.length = middle.length + 1 by omega,
          getElem?_cons_succ, getElem?_append_right (le_refl _), Nat.sub_self]
        rfl
      rw [hplace _ second hsecond]
      omega

/--
**`reconcile` decides exactly the documented join.**  A join that passes has no issue and derives
each of its rows from the pair at its place; one that does not pass has an issue and no row; and
a stream of a join that passes cannot be edited without its failing.
-/
theorem reconcile_decides (runId : RunId) (rows : List ProducerRecord)
    (consumers : List ConsumerRecord) (expectedRecordIndices : List UInt64) :
    ((reconcile runId rows consumers expectedRecordIndices).status = .passed ↔
      DocumentedJoin runId rows consumers expectedRecordIndices) ∧
    ((reconcile runId rows consumers expectedRecordIndices).status = .passed →
      (reconcile runId rows consumers expectedRecordIndices).issues = [] ∧
      JoinsPairs rows consumers
        (reconcile runId rows consumers expectedRecordIndices).joinedRows ∧
      (∀ tampered, Edit rows tampered →
        (reconcile runId tampered consumers expectedRecordIndices).status ≠ .passed) ∧
      ∀ tampered, Edit consumers tampered →
        (reconcile runId rows tampered expectedRecordIndices).status ≠ .passed) ∧
    ((reconcile runId rows consumers expectedRecordIndices).status ≠ .passed →
      (reconcile runId rows consumers expectedRecordIndices).status = .failed ∧
      (reconcile runId rows consumers expectedRecordIndices).issues ≠ [] ∧
      (reconcile runId rows consumers expectedRecordIndices).joinedRows = []) := by
  refine ⟨passed_iff_documented, fun h => ?_, failed_of_not_passed⟩
  obtain ⟨hissues, hjoined⟩ := passed_joinsPairs h
  have hdocumented := passed_iff_documented.mp h
  refine ⟨hissues, hjoined, fun tampered hedit hpassed => ?_, fun tampered hedit hpassed => ?_⟩
  · have htampered := passed_iff_documented.mp hpassed
    rcases hedit.misplaced (fun i row hrow => (hdocumented.identities i row hrow).2.1) with
      hlength | ⟨i, row, hrow, hplace⟩
    · exact hlength (htampered.mapped.trans hdocumented.mapped.symm)
    · exact hplace (htampered.identities i row hrow).2.1
  · have htampered := passed_iff_documented.mp hpassed
    rcases hedit.misplaced (fun i row => hdocumented.consumer_place) with
      hlength | ⟨i, row, hrow, hplace⟩
    · exact hlength (htampered.counted.trans hdocumented.counted.symm)
    · exact hplace (htampered.consumer_place hrow)

end CpuPrefetch.Reconciliation
