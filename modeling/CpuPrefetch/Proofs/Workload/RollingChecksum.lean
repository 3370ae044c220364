/-
What the rolling checksum of a consumer notices.

`mix_consumer_state` is a chain of steps that can be undone, in the state and in each of the
two fields of a record.  So a record that differs in one field leaves another state behind,
and no record after it can bring the two states together again.
-/
import CpuPrefetch.Lib.Words
import CpuPrefetch.Workload.Records

namespace CpuPrefetch.Workload

/-- The last step of the two xor-and-multiply rounds, and the shift that ends the mixing. -/
def finishMix (value : UInt64) : UInt64 :=
  let value := (value ^^^ (value >>> 27)) * 0x94d049bb133111eb
  value ^^^ (value >>> 31)

/-- The first of the two rounds. -/
def firstRound (value : UInt64) : UInt64 := (value ^^^ (value >>> 30)) * 0xbf58476d1ce4e5b9

theorem firstRound_bijective : Function.Bijective firstRound :=
  (@Mixing.mul_bijective _ 0x96de1b173f119089 (by decide)).comp
    (Mixing.xorShift_bijective (by decide))

theorem finishMix_bijective : Function.Bijective finishMix :=
  (@Mixing.xorShift_bijective 31 (by decide)).comp
    ((@Mixing.mul_bijective _ 0x319642b2d24d8ec3 (by decide)).comp
      (@Mixing.xorShift_bijective 27 (by decide)))

theorem consumerState_bijective : Function.Bijective ConsumerState.mk :=
  ⟨fun _ _ => ConsumerState.mk.inj, fun state => ⟨state.value, rfl⟩⟩

theorem value_bijective : Function.Bijective ConsumerState.value :=
  ⟨fun _ _ h => congrArg ConsumerState.mk h, fun value => ⟨⟨value⟩, rfl⟩⟩

section Mix

variable (state : ConsumerState) (recordIndex payload : UInt64)

theorem mix_bijective_payload :
    Function.Bijective fun payload => mixConsumerState state recordIndex payload :=
  consumerState_bijective.comp (finishMix_bijective.comp (Mixing.xor_left_bijective _))

theorem mix_bijective_recordIndex :
    Function.Bijective fun recordIndex => mixConsumerState state recordIndex payload :=
  consumerState_bijective.comp (finishMix_bijective.comp ((Mixing.xor_bijective payload).comp
    (firstRound_bijective.comp (Mixing.xor_left_bijective _))))

theorem mix_bijective_state :
    Function.Bijective fun state => mixConsumerState state recordIndex payload :=
  consumerState_bijective.comp (finishMix_bijective.comp ((Mixing.xor_bijective payload).comp
    (firstRound_bijective.comp ((Mixing.xor_bijective recordIndex).comp
      ((Mixing.add_bijective _).comp value_bijective)))))

end Mix

/-! ### Sequences of records -/

/-- A record as the checksum sees it: its index and its payload. -/
abbrev MixedRecord := UInt64 × UInt64

def mixRecord (state : ConsumerState) (record : MixedRecord) : ConsumerState :=
  mixConsumerState state record.1 record.2

/-- The checksum after these records. -/
def rollingChecksum (initial : ConsumerState) (records : List MixedRecord) : ConsumerState :=
  records.foldl mixRecord initial

/-- Two records that differ in exactly one field. -/
def DifferInOneField (left right : MixedRecord) : Prop :=
  (left.1 ≠ right.1 ∧ left.2 = right.2) ∨ (left.1 = right.1 ∧ left.2 ≠ right.2)

/-- Two sequences of one length that differ in exactly one field of exactly one record. -/
structure SingleChange (left right : List MixedRecord) (position : Nat) : Prop where
  length : left.length = right.length
  same : ∀ other, other ≠ position → left[other]? = right[other]?
  change : ∃ first second, left[position]? = some first ∧ right[position]? = some second ∧
    DifferInOneField first second

/-- Two sequences that differ at one position are alike before and after it. -/
theorem SingleChange.parts {left right : List MixedRecord} {position : Nat}
    (h : SingleChange left right position) :
    ∃ before after first second, left = before ++ first :: after ∧
      right = before ++ second :: after ∧ DifferInOneField first second := by
  obtain ⟨first, second, hfirst, hsecond, hdiffer⟩ := h.change
  obtain ⟨hleft, rfl⟩ := List.getElem?_eq_some_iff.mp hfirst
  obtain ⟨hright, rfl⟩ := List.getElem?_eq_some_iff.mp hsecond
  have hbefore : left.take position = right.take position := by
    refine List.ext_getElem? fun other => ?_
    rw [List.getElem?_take, List.getElem?_take]
    split
    · rename_i hlt
      exact h.same other (Nat.ne_of_lt hlt)
    · rfl
  have hafter : left.drop (position + 1) = right.drop (position + 1) := by
    refine List.ext_getElem? fun other => ?_
    rw [List.getElem?_drop, List.getElem?_drop]
    exact h.same _ (by omega)
  refine ⟨left.take position, left.drop (position + 1), _, _, ?_, ?_, hdiffer⟩
  · rw [← List.drop_eq_getElem_cons hleft, List.take_append_drop]
  · rw [hbefore, hafter, ← List.drop_eq_getElem_cons hright, List.take_append_drop]

theorem mixRecord_injective (record : MixedRecord) :
    Function.Injective fun state => mixRecord state record :=
  (mix_bijective_state record.1 record.2).injective

theorem mixRecord_ne {first second : MixedRecord} (h : DifferInOneField first second)
    (state : ConsumerState) : mixRecord state first ≠ mixRecord state second := by
  obtain ⟨index, payload⟩ := first
  obtain ⟨index', payload'⟩ := second
  intro heq
  rcases h with ⟨hindex, hpayload⟩ | ⟨hindex, hpayload⟩
  · obtain rfl : payload = payload' := hpayload
    exact hindex ((mix_bijective_recordIndex state payload).injective heq)
  · obtain rfl : index = index' := hindex
    exact hpayload ((mix_bijective_payload state index).injective heq)

theorem rollingChecksum_ne {left right : List MixedRecord} {position : Nat}
    (h : SingleChange left right position) (initial : ConsumerState) :
    rollingChecksum initial left ≠ rollingChecksum initial right := by
  obtain ⟨before, after, first, second, rfl, rfl, hdiffer⟩ := h.parts
  exact Mixing.foldl_ne mixRecord_injective initial before after (mixRecord_ne hdiffer _)

/-! ### A consumer's records -/

/-- The state after `access_and_mix` has been given these pointers. -/
def EventArena.accessAll (arena : EventArena) (state : ConsumerState) (pointers : List Nat) :
    ConsumerState :=
  pointers.foldl (fun state pointer => (arena.accessAndMix pointer state).1) state

/-- The records that the pointers lead to; a pointer that is refused leads to none. -/
def EventArena.accessed (arena : EventArena) (pointers : List Nat) : List MixedRecord :=
  pointers.filterMap fun pointer =>
    let result := (arena.accessAndMix pointer ⟨0⟩).2
    if result.status = .valid then some (result.recordIndex, result.payload) else none

/-- An access mixes in the record it has found, and nothing when it has found none. -/
theorem EventArena.accessAndMix_cases (arena : EventArena) (pointer : Nat) :
    (∃ recordIndex payload, ∀ state', arena.accessAndMix pointer state' =
        (mixConsumerState state' recordIndex payload, ⟨.valid, recordIndex, payload⟩)) ∨
      ∃ result : RecordAccessResult, result.status ≠ .valid ∧
        ∀ state', arena.accessAndMix pointer state' = (state', result) := by
  unfold accessAndMix
  by_cases hbefore : pointer < arena.storage
  · simp only [if_pos hbefore]
    exact .inr ⟨⟨.outsideArena, 0, 0⟩, by decide, fun _ => rfl⟩
  simp only [if_neg hbefore]
  by_cases hafter : pointer - arena.storage ≥ arena.allocatedBytes
  · simp only [if_pos hafter]
    exact .inr ⟨⟨.outsideArena, 0, 0⟩, by decide, fun _ => rfl⟩
  simp only [if_neg hafter]
  by_cases hinside : (pointer - arena.storage) % arena.cacheLineBytes ≠ 0
  · simp only [if_pos hinside]
    exact .inr ⟨⟨.notRecordStart, 0, 0⟩, by decide, fun _ => rfl⟩
  simp only [if_neg hinside]
  generalize arena.recordAt ((pointer - arena.storage) / arena.cacheLineBytes) = record
  by_cases hcorrupt : record.recordIndex.toNat ≠ (pointer - arena.storage) / arena.cacheLineBytes
  · simp only [if_pos hcorrupt]
    exact .inr ⟨⟨.recordIndexCorrupt, record.recordIndex, record.payload⟩, nofun, fun _ => rfl⟩
  · simp only [if_neg hcorrupt]
    exact .inl ⟨record.recordIndex, record.payload, fun _ => rfl⟩

/-- A consumer's state is the checksum of the records it was led to. -/
theorem EventArena.accessAll_eq (arena : EventArena) (state : ConsumerState)
    (pointers : List Nat) :
    arena.accessAll state pointers = rollingChecksum state (arena.accessed pointers) := by
  induction pointers generalizing state with
  | nil => rfl
  | cons pointer rest ih =>
      have hcons : arena.accessAll state (pointer :: rest) =
          arena.accessAll (arena.accessAndMix pointer state).1 rest := rfl
      rw [hcons, ih, accessed, accessed, List.filterMap_cons]
      rcases arena.accessAndMix_cases pointer with ⟨index, payload, h⟩ | ⟨result, hbad, h⟩
      · simp only [h, if_true]
        rfl
      · simp only [h, if_neg hbad]

/--
**One changed field is always noticed.**  The mixing is a bijection of the state, of the
record index and of the payload; so two sequences that differ in one field of one record
leave different checksums, and two consumers that were led to them end in different states.
-/
theorem checksum_notices_changes :
    (∀ recordIndex payload,
      Function.Bijective fun state => mixConsumerState state recordIndex payload) ∧
    (∀ state payload,
      Function.Bijective fun recordIndex => mixConsumerState state recordIndex payload) ∧
    (∀ state recordIndex,
      Function.Bijective fun payload => mixConsumerState state recordIndex payload) ∧
    (∀ left right position, SingleChange left right position →
      ∀ initial, rollingChecksum initial left ≠ rollingChecksum initial right) ∧
    ∀ (arena changed : EventArena) (pointers pointers' : List Nat) (position : Nat),
      SingleChange (arena.accessed pointers) (changed.accessed pointers') position →
        ∀ initial, arena.accessAll initial pointers ≠ changed.accessAll initial pointers' := by
  refine ⟨mix_bijective_state, fun state payload => mix_bijective_recordIndex state payload,
    mix_bijective_payload, ?_, ?_⟩
  · intro left right position h initial
    exact rollingChecksum_ne h initial
  · intro arena changed pointers pointers' position h initial
    rw [arena.accessAll_eq, changed.accessAll_eq]
    exact rollingChecksum_ne h initial

end CpuPrefetch.Workload
