/-
What a derivation record without errors is bound to.

Every check of the record is an equation about its members.  A member that gave no text is
not compared with its value, because it has been reported already; a member that is there
and is empty gives no text either, but it has not been reported.
-/
import CpuPrefetch.Proofs.Protocol.Failures
import CpuPrefetch.Proofs.Protocol.Fields
import CpuPrefetch.Proofs.Protocol.RoundTrip
import CpuPrefetch.Proofs.Schedule.Agreement

namespace CpuPrefetch.Schedule

open Protocol.Json
open Protocol (Text ascii lowercaseHex ScheduleRecord ValidationError require)
open Protocol.Json (CharConv Object Value parse canonicalize SortedKeys)

/-- The members that are bound to a value, and the values. -/
def boundValues (schedule : ScheduleRecord) : List (String × Text) :=
  [("record_schema", kDerivationSchema), ("protocol_version", kProtocolVersion),
    ("record_id", schedule.rng.derivationRecordId.value), ("schedule_suite", kScheduleSuite),
    ("base_rng_suite", ascii "PHILOX4X32-10-HMAC-SHA256-v1"),
    ("purpose", ascii "arrival-schedule"), ("seed_id", schedule.rng.seedId.value),
    ("parent_namespace_id", schedule.rng.parentNamespaceId.value),
    ("namespace_id", schedule.namespaceId.value),
    ("canonicalization_suite", kCanonicalizationSuite),
    ("record_hash_profile", kDerivationHashProfile)]

/-- The member is there, with this text. -/
def Has (object : Object) (name : String) (text : Text) : Prop :=
  Object.find (ascii name) object = some (.string text)

/-- The member that holds the digest has the one of the record with zeros in its place. -/
def ZeroSelfHash (conv : CharConv) (sha256 : Text → Text) (object : Object) (digest : Text) :
    Prop :=
  ∃ canonical, canonicalize conv
      (.object (Object.assign (ascii "record_sha256") zeroSha256 object)) = .ok canonical ∧
    sha256 canonical = digest

/-- The record is bound to its schedule. -/
structure FullyBound (conv : CharConv) (sha256 : Text → Text) (schedule : ScheduleRecord)
    (object : Object) : Prop where
  members : (object.map Prod.fst).Perm (expectedFields.map ascii)
  strings : ∀ member ∈ object, ∃ text, member.2 = .string text
  bound : ∀ binding ∈ boundValues schedule, Has object binding.1 binding.2
  hash : ∃ digest, Has object "record_sha256" digest ∧ ZeroSelfHash conv sha256 object digest

/-- The record is right in everything that is not bound to a value. -/
structure Formed (conv : CharConv) (sha256 : Text → Text) (object : Object) : Prop where
  members : (object.map Prod.fst).Perm (expectedFields.map ascii)
  strings : ∀ member ∈ object, ∃ text, member.2 = .string text
  key : ∃ key, Has object "derived_key_u32be_hex" key ∧ key.length = 16 ∧ lowercaseHex key = true
  python : ∃ version, Has object "python_version" version ∧
    (ascii "3.14.").isPrefixOf version = true
  decimal : ∃ version, Has object "decimal_version" version ∧ version ≠ []
  libmpdec : ∃ version, Has object "libmpdec_version" version ∧ version ≠ []
  hash : ∃ digest, Has object "record_sha256" digest ∧ digest.length = 64 ∧
    lowercaseHex digest = true ∧ ZeroSelfHash conv sha256 object digest

variable {conv : CharConv} {sha256 : Text → Text} {schedule : ScheduleRecord} {object : Object}
  {name : String} {text : Text}

/-! ### Members -/

/-- A member is not reported exactly when it is there with its text. -/
theorem derivationField_nil_iff :
    (derivationField object name).2 = [] ↔ Has object name (derivationField object name).1 := by
  unfold Has derivationField
  cases Object.find (ascii name) object with
  | none => simp
  | some value => cases value <;> simp

theorem Has.field (h : Has object name text) : derivationField object name = (text, []) := by
  unfold derivationField
  rw [h]

theorem Has.unique {other : Text} (h : Has object name text) (h' : Has object name other) :
    text = other := by
  have hboth := Option.some.inj (h.symm.trans h')
  exact Value.string.inj hboth

/-- A value that is compared is right, or there is no text to compare. -/
theorem expectBinding_nil_iff {expected : Text} {rule : String} (h : Has object name text) :
    expectBinding object expected name rule = [] ↔ text = [] ∨ text = expected := by
  unfold expectBinding
  rw [h.field, Protocol.require_eq_nil, Bool.or_eq_true, decide_eq_true_iff, decide_eq_true_iff]

theorem derivationHashErrors_nil_iff (h : Has object "record_sha256" text) :
    derivationHashErrors conv sha256 object = [] ↔
      text.length = 64 ∧ lowercaseHex text = true ∧ ZeroSelfHash conv sha256 object text := by
  unfold derivationHashErrors ZeroSelfHash
  rw [h.field]
  simp only
  split
  · rename_i hformat
    simp only [Bool.or_eq_true, decide_eq_true_iff, Bool.not_eq_true'] at hformat
    constructor
    · exact nofun
    · intro ⟨hlength, hhex, _⟩
      rcases hformat with hbad | hbad
      · exact absurd hlength hbad
      · rw [hhex] at hbad
        cases hbad
  · rename_i hformat
    simp only [Bool.or_eq_true, decide_eq_true_iff, Bool.not_eq_true', not_or, not_not,
      Bool.not_eq_false] at hformat
    obtain ⟨hlength, hhex⟩ := hformat
    have hne : text ≠ [] := List.ne_nil_of_length_pos (by omega)
    cases hcanonical : canonicalize conv
        (.object (Object.assign (ascii "record_sha256") zeroSha256 object)) with
    | error errors =>
        simp only [reduceCtorEq, false_and, exists_false, and_false, iff_false]
        intro hempty
        rw [hempty] at hcanonical
        exact canonicalize_reports conv _ hcanonical
    | ok canonical =>
        by_cases hfailed : sha256 canonical = []
        · simp only [hfailed, if_true, Except.ok.injEq, exists_eq_left', hlength, hhex, true_and]
          exact iff_of_false nofun fun heq => hne heq.symm
        · simp [hfailed, hlength, hhex]

/-! ### Records -/

theorem nodup_expectedFields : (expectedFields.map ascii).Nodup := by decide

theorem mem_of_find {key : Text} {value : Value} (h : Object.find key object = some value) :
    (key, value) ∈ object := by
  obtain ⟨member, hmember, rfl⟩ := Option.map_eq_some_iff.mp h
  have hkey := List.find?_some hmember
  rw [decide_eq_true_iff] at hkey
  rw [← hkey]
  exact List.mem_of_find?_eq_some hmember

/-- No unknown member, and a text for each expected one: the record has exactly those, and all are
strings. -/
theorem members_iff (hsorted : SortedKeys object) :
    ((∀ member ∈ object, member.1 ∈ expectedFields.map ascii) ∧
      ∀ name ∈ expectedFields, (derivationField object name).2 = []) ↔
    (object.map Prod.fst).Perm (expectedFields.map ascii) ∧
      ∀ member ∈ object, ∃ text, member.2 = .string text := by
  constructor
  · intro ⟨hknown, hfields⟩
    constructor
    · refine (List.perm_ext_iff_of_nodup hsorted.nodup nodup_expectedFields).mpr ?_
      intro key
      constructor
      · intro hkey
        obtain ⟨member, hmember, rfl⟩ := List.mem_map.mp hkey
        exact hknown member hmember
      · intro hkey
        obtain ⟨name, hname, rfl⟩ := List.mem_map.mp hkey
        have hfound := derivationField_nil_iff.mp (hfields name hname)
        exact List.mem_map.mpr ⟨_, mem_of_find hfound, rfl⟩
    · intro member hmember
      obtain ⟨name, hname, hkey⟩ := List.mem_map.mp (hknown member hmember)
      have hfound := derivationField_nil_iff.mp (hfields name hname)
      have hsame : Object.find member.1 object = some member.2 :=
        find_of_mem hsorted hmember
      rw [← hkey] at hsame
      exact ⟨_, Option.some.inj (hsame.symm.trans hfound)⟩
  · intro ⟨hperm, hstrings⟩
    constructor
    · intro member hmember
      exact hperm.subset (List.mem_map_of_mem hmember)
    · intro name hname
      obtain ⟨member, hmember, hkey⟩ :=
        List.mem_map.mp (hperm.symm.subset (List.mem_map_of_mem hname))
      obtain ⟨text, htext⟩ := hstrings member hmember
      have hfound : Has object name text := by
        unfold Has
        rw [← hkey, find_of_mem hsorted hmember, htext]
      rw [hfound.field]

/-- A member that is there is right or blank when its comparison reports nothing. -/
theorem right_or_blank {expected : Text} {rule : String}
    (hfield : (derivationField object name).2 = []) :
    expectBinding object expected name rule = [] ↔
      Has object name expected ∨ Has object name [] := by
  have hfound := derivationField_nil_iff.mp hfield
  rw [expectBinding_nil_iff hfound]
  constructor
  · intro h
    rcases h with hblank | hright
    · exact .inr (hblank ▸ hfound)
    · exact .inl (hright ▸ hfound)
  · intro h
    rcases h with hright | hblank
    · exact .inr (hfound.unique hright)
    · exact .inl (hfound.unique hblank)

/-- A condition on the text of a member that is there. -/
theorem exists_text_iff {holds : Text → Prop} (hfield : (derivationField object name).2 = []) :
    (∃ text, Has object name text ∧ holds text) ↔ holds (derivationField object name).1 := by
  have hfound := derivationField_nil_iff.mp hfield
  constructor
  · intro ⟨text, htext, hholds⟩
    rwa [hfound.unique htext]
  · intro hholds
    exact ⟨_, hfound, hholds⟩

/-- **What the checks of a record accept.** -/
theorem derivationObjectErrors_nil_iff (hsorted : SortedKeys object) :
    derivationObjectErrors conv sha256 schedule object = [] ↔
      Formed conv sha256 object ∧ ∀ binding ∈ boundValues schedule,
        Has object binding.1 binding.2 ∨ Has object binding.1 [] := by
  have hparts : (Formed conv sha256 object ∧ ∀ binding ∈ boundValues schedule,
        Has object binding.1 binding.2 ∨ Has object binding.1 []) ↔
      ((object.map Prod.fst).Perm (expectedFields.map ascii) ∧
        ∀ member ∈ object, ∃ text, member.2 = .string text) ∧
      (∀ binding ∈ boundValues schedule,
        Has object binding.1 binding.2 ∨ Has object binding.1 []) ∧
      (∃ key, Has object "derived_key_u32be_hex" key ∧ key.length = 16 ∧
        lowercaseHex key = true) ∧
      (∃ version, Has object "python_version" version ∧
        (ascii "3.14.").isPrefixOf version = true) ∧
      (∃ version, Has object "decimal_version" version ∧ version ≠ []) ∧
      (∃ version, Has object "libmpdec_version" version ∧ version ≠ []) ∧
      ∃ digest, Has object "record_sha256" digest ∧ digest.length = 64 ∧
        lowercaseHex digest = true ∧ ZeroSelfHash conv sha256 object digest := by
    constructor
    · intro ⟨h, hbound⟩
      exact ⟨⟨h.members, h.strings⟩, hbound, h.key, h.python, h.decimal, h.libmpdec, h.hash⟩
    · intro ⟨⟨hmembers, hstrings⟩, hbound, hkey, hpython, hdecimal, hlibmpdec, hhash⟩
      exact ⟨⟨hmembers, hstrings, hkey, hpython, hdecimal, hlibmpdec, hhash⟩, hbound⟩
  unfold derivationObjectErrors
  simp only [List.append_eq_nil_iff, List.flatMap_eq_nil_iff, Protocol.require_eq_nil,
    decide_eq_true_iff, Bool.and_eq_true, and_assoc]
  rw [hparts, ← and_assoc, members_iff hsorted]
  refine and_congr_right fun hmembers => ?_
  -- Every expected member is there, so each check is one about its text.
  have hfields := ((members_iff hsorted).mpr hmembers).2
  rw [right_or_blank (hfields "record_schema" (by decide)),
    right_or_blank (hfields "protocol_version" (by decide)),
    right_or_blank (hfields "record_id" (by decide)),
    right_or_blank (hfields "schedule_suite" (by decide)),
    right_or_blank (hfields "base_rng_suite" (by decide)),
    right_or_blank (hfields "purpose" (by decide)),
    right_or_blank (hfields "seed_id" (by decide)),
    right_or_blank (hfields "parent_namespace_id" (by decide)),
    right_or_blank (hfields "namespace_id" (by decide)),
    right_or_blank (hfields "canonicalization_suite" (by decide)),
    right_or_blank (hfields "record_hash_profile" (by decide)),
    derivationHashErrors_nil_iff (derivationField_nil_iff.mp (hfields "record_sha256" (by decide))),
    exists_text_iff (hfields "derived_key_u32be_hex" (by decide)),
    exists_text_iff (hfields "python_version" (by decide)),
    exists_text_iff (hfields "decimal_version" (by decide)),
    exists_text_iff (hfields "libmpdec_version" (by decide)),
    exists_text_iff (hfields "record_sha256" (by decide))]
  simp only [boundValues, List.forall_mem_cons, and_assoc, List.not_mem_nil, false_implies,
    implies_true, true_and]

theorem sortedKeys_of_parse (h : parse conv text = .ok (.object object)) : SortedKeys object := by
  obtain ⟨before, body, after, -, -, -, hbody⟩ := spellsDocument_parse h
  exact (all_object.mp (spellsValue_all hbody).1).1

/-- **A text passes exactly when it is a record whose bound members are right or blank.** -/
theorem validateDerivationRecord_nil_iff :
    validateDerivationRecord conv sha256 schedule text = [] ↔
      ∃ object, parse conv text = .ok (.object object) ∧ Formed conv sha256 object ∧
        ∀ binding ∈ boundValues schedule,
          Has object binding.1 binding.2 ∨ Has object binding.1 [] := by
  unfold validateDerivationRecord
  cases hparse : parse conv text with
  | error errors =>
      simp only [reduceCtorEq, false_and, exists_false, iff_false]
      intro hempty
      rw [hempty] at hparse
      exact parse_reports conv text hparse
  | ok value =>
      cases value with
      | object object =>
          rw [derivationObjectErrors_nil_iff (sortedKeys_of_parse hparse)]
          constructor
          · intro hrecord
            exact ⟨object, rfl, hrecord⟩
          · intro ⟨other, hother, hrecord⟩
            obtain rfl := Value.object.inj (Except.ok.inj hother)
            exact hrecord
      | _ => simp

/-! ### Binding -/

/-- What a record is bound to is never blank. -/
theorem boundValues_ne_nil : ∀ binding ∈ boundValues schedule, binding.2 ≠ [] := by
  simp only [boundValues, List.forall_mem_cons]
  exact ⟨by decide, by decide, schedule.rng.derivationRecordId.nonempty, by decide, by decide,
    by decide, schedule.rng.seedId.nonempty, schedule.rng.parentNamespaceId.nonempty,
    schedule.namespaceId.nonempty, by decide, by decide, nofun⟩

/-- **Where a record without errors is bound to its schedule.**

It always is, except for a record that is right in everything but for bound members that
are blank: there the comparison is passed over, and nothing else reports them. -/
theorem derivation_fully_bound_iff (conv : CharConv) (sha256 : Text → Text)
    (schedule : ScheduleRecord) (text : Text) :
    (validateDerivationRecord conv sha256 schedule text = [] →
      ∃ object, parse conv text = .ok (.object object) ∧
        FullyBound conv sha256 schedule object) ↔
    ¬∃ object, parse conv text = .ok (.object object) ∧ Formed conv sha256 object ∧
      (∀ binding ∈ boundValues schedule,
        Has object binding.1 binding.2 ∨ Has object binding.1 []) ∧
      ∃ binding ∈ boundValues schedule, Has object binding.1 [] := by
  constructor
  · intro hbound ⟨object, hparse, hformed, hchecked, binding, hbinding, hblank⟩
    obtain ⟨other, hother, hright⟩ :=
      hbound (validateDerivationRecord_nil_iff.mpr ⟨object, hparse, hformed, hchecked⟩)
    obtain rfl := Value.object.inj (Except.ok.inj (hother.symm.trans hparse))
    exact boundValues_ne_nil binding hbinding ((hright.bound binding hbinding).unique hblank)
  · intro hnot hclean
    obtain ⟨object, hparse, hformed, hchecked⟩ := validateDerivationRecord_nil_iff.mp hclean
    obtain ⟨digest, hdigest, -, -, hhash⟩ := hformed.hash
    refine ⟨object, hparse, hformed.members, hformed.strings, ?_, digest, hdigest, hhash⟩
    intro binding hbinding
    rcases hchecked binding hbinding with hright | hblank
    · exact hright
    · exact absurd ⟨object, hparse, hformed, hchecked, binding, hbinding, hblank⟩ hnot

namespace Example

/-- The derivation record with an empty schema. -/
def blankRecordJson : Text :=
  derivationText "" "ed28ae6e53e0d7a7240602af5083ad5b2950935c9c1098fe7e10d4a5e25c2b4f"

/-- The SHA-256 digest of its canonical form, the one text of that length that is hashed. -/
def blankDigest (text : Text) : Text :=
  if text.length = 623 then
    ascii "ed28ae6e53e0d7a7240602af5083ad5b2950935c9c1098fe7e10d4a5e25c2b4f"
  else []

/-- The schema that is read from it. -/
def blankSchema : Text :=
  match parse Example.conv blankRecordJson with
  | .ok (.object object) => (derivationField object "record_schema").1
  | _ => ascii "no record"

end Example

/-- A record with an empty schema has no errors and is not bound to the accepted schema. -/
theorem blank_schema_accepted :
    validateDerivationRecord Example.conv Example.blankDigest
        (Example.record 1000 500 Example.lateDecoded Example.lateSchedule)
        Example.blankRecordJson = [] ∧
      ¬∃ object, parse Example.conv Example.blankRecordJson = .ok (.object object) ∧
        FullyBound Example.conv Example.blankDigest
          (Example.record 1000 500 Example.lateDecoded Example.lateSchedule) object := by
  constructor
  · decide +kernel
  · intro ⟨object, hparse, hbound⟩
    have hschema := (hbound.bound ("record_schema", kDerivationSchema) List.mem_cons_self).field
    have hread : Example.blankSchema = [] := by decide +kernel
    unfold Example.blankSchema at hread
    rw [hparse] at hread
    simp only [hschema] at hread
    exact absurd hread (by decide)

end CpuPrefetch.Schedule
