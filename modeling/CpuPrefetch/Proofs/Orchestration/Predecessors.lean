/-
What a record of the ledger refers to, and what it reads.

A reference is resolved by identity and digest among all the records before, whatever their
kind, so it is to the right predecessor when it carries that record's identity.  An input's
class is the record's own word for it, and the rules go by it: they keep the outcomes out where
the word is the catalog's and they refuse what it names.
-/
import CpuPrefetch.Proofs.Orchestration.Release

namespace CpuPrefetch.Orchestration

open List
open Protocol
open Protocol.Json (CharConv)
open Protocol.Load (ArtifactReference)

variable {kind : RecordKind} {record : FreezeRecord}

section Accepted

variable {conv : CharConv} {sha256 : Text → Sha256} {blocks : List BlockPlan}
  {artifacts : List ArtifactAccessRecord} {namespaces : RoleNamespaceRegistry}
  {authorities : AuthorityPolicy} {records : List FreezeRecord}

/-! ### One record of a kind -/

theorem LedgerAccepted.eq_of_id
    (h : LedgerAccepted conv sha256 blocks artifacts namespaces authorities records)
    {first second : FreezeRecord} (hfirst : first ∈ records) (hsecond : second ∈ records)
    (hsame : first.recordId = second.recordId) : first = second :=
  inj_on_of_nodup_map h.staged.distinct hfirst hsecond hsame

/-- No step of the release but a protocol freeze is taken twice. -/
theorem releaseSteps_once (hkind : kind ≠ .protocolFreeze) (n : Nat) :
    ((releaseSteps.take n).map Prod.fst).count kind ≤ 1 := by
  have hall : (releaseSteps.map Prod.fst).count kind ≤ 1 := by
    cases kind <;> first | exact absurd rfl hkind | decide
  exact le_trans (((take_sublist n _).map _).count_le _) hall

/-- A kind that moves the state, other than a protocol freeze, is that of one record. -/
theorem StagedRelease.unique {state : AccessState} (h : StagedRelease records state)
    {first second : FreezeRecord} (hfirst : first ∈ records) (hsecond : second ∈ records)
    (hsame : first.recordKind = second.recordKind) (hadvances : advances first = true)
    (hkind : first.recordKind ≠ .protocolFreeze) : first = second := by
  obtain ⟨n, hsteps, -⟩ := h
  have hkinds : (records.filter advances).map FreezeRecord.recordKind =
      (releaseSteps.take n).map Prod.fst := by
    rw [← hsteps, map_map]
    rfl
  have hcount : ((records.filter advances).filter
      fun record => record.recordKind = first.recordKind).length ≤ 1 := by
    rw [← countP_eq_length_filter]
    have honce := releaseSteps_once hkind n
    rw [← hkinds, List.count, countP_map] at honce
    refine le_trans (le_of_eq (countP_congr ?_)) honce
    intro record _
    simp
  have hadvances' : advances second = true := by
    rw [advances, ← hsame]
    exact hadvances
  have hmem : first ∈ (records.filter advances).filter
      fun record => record.recordKind = first.recordKind := by
    simp [hfirst, hadvances]
  have hmem' : second ∈ (records.filter advances).filter
      fun record => record.recordKind = first.recordKind := by
    simp [hsecond, hadvances', hsame]
  obtain ⟨only, honly⟩ := List.length_eq_one_iff.mp
    (le_antisymm hcount (length_pos_of_mem hmem))
  rw [honly, mem_singleton] at hmem hmem'
  rw [hmem, hmem']

/-! ### References -/

/-- The reference is to the ledger's one record of the kind, which is among those before. -/
def ResolvesTo (records before : List FreezeRecord) (reference : Option ArtifactReference)
    (kind : RecordKind) : Prop :=
  ∃ target predecessor, reference = some target ∧
    recordReference before target = some predecessor ∧ predecessor.recordKind = kind ∧
    ∀ other ∈ records, other.recordKind = kind → other = predecessor

/-- Every reference of the lineage is to the predecessor it is there for. -/
structure RightPredecessors (records : List FreezeRecord) : Prop where
  selection : ∀ before record after, records = before ++ record :: after →
    record.recordKind = .validationUnseal ∨ record.recordKind = .h3Evaluated →
    ResolvesTo records before record.selectionRecordRef .selectionFreeze
  unsealing : ∀ before record after, records = before ++ record :: after →
    record.recordKind = .h3Evaluated →
    ResolvesTo records before record.validationUnsealRecordRef .validationUnseal
  evaluation : ∀ before record after, records = before ++ record :: after →
    record.recordKind = .h1h2Released →
    ∃ evaluated artifact, evaluated ∈ before ∧ evaluated.recordKind = .h3Evaluated ∧
      evaluated.h3EvaluationArtifactRef = some artifact ∧
      record.h3EvaluationArtifactRef = some artifact

/-- The reference, if there is one, carries the identity of a record of the kind. -/
def CarriesIdOf (records : List FreezeRecord) (kind : RecordKind)
    (reference : Option ArtifactReference) : Prop :=
  ∀ target, reference = some target → ∃ record ∈ records, record.recordKind = kind ∧
    record.recordId.value = target.artifactId.val

/-- The references carry the identities of records of the right kinds, and the release repeats
what was evaluated. -/
structure PredecessorIds (records : List FreezeRecord) : Prop where
  selection : ∀ record ∈ records,
    record.recordKind = .validationUnseal ∨ record.recordKind = .h3Evaluated →
    CarriesIdOf records .selectionFreeze record.selectionRecordRef
  unsealing : ∀ record ∈ records, record.recordKind = .h3Evaluated →
    CarriesIdOf records .validationUnseal record.validationUnsealRecordRef
  evaluation : ∀ evaluated ∈ records, ∀ record ∈ records, evaluated.recordKind = .h3Evaluated →
    record.recordKind = .h1h2Released →
    record.h3EvaluationArtifactRef = evaluated.h3EvaluationArtifactRef

theorem recordReference_some {earlier : List FreezeRecord} {target : ArtifactReference}
    (h : recordReference earlier target = some record) :
    record ∈ earlier ∧ record.recordId.value = target.artifactId.val := by
  have hfound := find?_some h
  rw [Bool.and_eq_true, decide_eq_true_eq, decide_eq_true_eq] at hfound
  exact ⟨mem_of_find?_eq_some h, hfound.1⟩

variable {after before : List FreezeRecord}

theorem ResolvesTo.carries {reference : Option ArtifactReference}
    (h : ResolvesTo (before ++ record :: after) before reference kind) :
    CarriesIdOf (before ++ record :: after) kind reference := by
  intro target htarget
  obtain ⟨target', predecessor, hreference, hresolved, hkind, -⟩ := h
  obtain rfl := Option.some.inj (htarget.symm.trans hreference)
  obtain ⟨hmem, hid⟩ := recordReference_some hresolved
  exact ⟨predecessor, mem_append_left _ hmem, hkind, hid⟩

/-- A reference that resolves, and carries the identity of a record of the kind, is to it. -/
theorem LedgerAccepted.resolvesTo
    (h : LedgerAccepted conv sha256 blocks artifacts namespaces authorities
      (before ++ record :: after))
    {reference : Option ArtifactReference} (hkind : kind ≠ .protocolFreeze)
    (hadvances : kind ≠ .replacementAuthorization ∧ kind ≠ .amendment)
    (hresolves : (reference.any fun target => (recordReference before target).isSome) = true)
    (hcarries : CarriesIdOf (before ++ record :: after) kind reference) :
    ResolvesTo (before ++ record :: after) before reference kind := by
  obtain ⟨target, rfl, hsome⟩ := Option.any_eq_true _ _ |>.mp hresolves
  obtain ⟨predecessor, hpredecessor⟩ := Option.isSome_iff_exists.mp hsome
  obtain ⟨hmem, hid⟩ := recordReference_some hpredecessor
  obtain ⟨named, hnamed, hnamedKind, hnamedId⟩ := hcarries target rfl
  have hsame : named = predecessor := by
    refine h.eq_of_id hnamed (mem_append_left _ hmem) ?_
    rw [Identifier.mk.injEq, hnamedId, hid]
  subst hsame
  refine ⟨target, named, rfl, hpredecessor, hnamedKind, ?_⟩
  intro other hother hotherKind
  refine (h.staged.release.unique hnamed hother (hnamedKind.trans hotherKind.symm) ?_ ?_).symm
  · simp [advances, hnamedKind, hadvances]
  · rw [hnamedKind]
    exact hkind

/-- What an accepted record's references are at least: they resolve among the records before. -/
theorem LedgerAccepted.resolves
    (h : LedgerAccepted conv sha256 blocks artifacts namespaces authorities
      (before ++ record :: after)) :
    (record.recordKind = .validationUnseal ∨ record.recordKind = .h3Evaluated →
      (record.selectionRecordRef.any fun target => (recordReference before target).isSome) = true) ∧
    (record.recordKind = .h3Evaluated →
      (record.validationUnsealRecordRef.any fun target =>
        (recordReference before target).isSome) = true) ∧
    (record.recordKind = .h1h2Released → record.h3EvaluationArtifactRef.isSome = true) := by
  have hbefore := h.of_append.run.records
  have hadmitted := h.admitted
  refine ⟨?_, ?_, ?_⟩
  · rintro (hkind | hkind)
    · have herrors := (hadmitted.moves (by rw [hkind]; decide)).2.1
      simp only [transitionOf, hkind, validationUnseal, append_eq_nil_iff, require_eq_nil,
        hbefore] at herrors
      exact herrors.2
    · have herrors := (hadmitted.moves (by rw [hkind]; decide)).2.1
      simp only [transitionOf, hkind, h3Evaluated, append_eq_nil_iff, require_eq_nil,
        Bool.and_eq_true, hbefore] at herrors
      exact herrors.2.1.1
  · intro hkind
    have herrors := (hadmitted.moves (by rw [hkind]; decide)).2.1
    simp only [transitionOf, hkind, h3Evaluated, append_eq_nil_iff, require_eq_nil,
      Bool.and_eq_true, hbefore] at herrors
    exact herrors.2.1.2
  · intro hkind
    have herrors := (hadmitted.moves (by rw [hkind]; decide)).2.1
    simp only [transitionOf, hkind, h1h2Released, append_eq_nil_iff, require_eq_nil,
      Bool.and_eq_true] at herrors
    obtain ⟨artifact, hartifact, -⟩ := Option.any_eq_true _ _ |>.mp herrors.2.1
    rw [hartifact]
    rfl

/-- An accepted release stands past an evaluation. -/
theorem LedgerAccepted.evaluated_before
    (h : LedgerAccepted conv sha256 blocks artifacts namespaces authorities
      (before ++ record :: after))
    (hkind : record.recordKind = .h1h2Released) :
    ∃ evaluated ∈ before, evaluated.recordKind = .h3Evaluated := by
  obtain ⟨hstep, hstate, -⟩ := h.admitted.step (by simp [advances, hkind])
  have hevaluated : record.accessStateBefore = .h3Evaluated := by
    revert hstep
    simp [stepOf, hkind, releaseSteps]
    tauto
  have hreached : reached .h3Evaluated
      (ledgerAfter conv sha256 blocks artifacts namespaces authorities before).finalState =
        true := by
    rw [← hstate, hevaluated]
    rfl
  have hevaluation : ∃ taken : List FreezeRecord, taken.Sublist before ∧
      taken.map stepOf = [(.h3Evaluated, .validationUnsealed, .h3Evaluated)] :=
    h.of_append.run.release.taken hreached (by decide)
  obtain ⟨taken, htaken, hmap⟩ := hevaluation
  obtain ⟨evaluated, rest, rfl, hstep', -⟩ := List.map_eq_cons_iff.mp hmap
  exact ⟨evaluated, htaken.subset mem_cons_self, congrArg Prod.fst hstep'⟩

/-- **The lineage of an accepted ledger is the right one exactly when its references carry the
identities of records of the right kinds.** -/
theorem accepted_ledger_predecessors
    (h : LedgerAccepted conv sha256 blocks artifacts namespaces authorities records) :
    RightPredecessors records ↔ PredecessorIds records := by
  constructor
  · intro hright
    refine ⟨?_, ?_, ?_⟩
    · intro record hrecord hkind
      obtain ⟨before, after, rfl⟩ := append_of_mem hrecord
      exact (hright.selection before record after rfl hkind).carries
    · intro record hrecord hkind
      obtain ⟨before, after, rfl⟩ := append_of_mem hrecord
      exact (hright.unsealing before record after rfl hkind).carries
    · intro evaluated hevaluated record hrecord hevaluatedKind hkind
      obtain ⟨before, after, rfl⟩ := append_of_mem hrecord
      obtain ⟨evaluated', artifact, hmem, hkind', hart, hreleased⟩ :=
        hright.evaluation before record after rfl hkind
      have hsame : evaluated = evaluated' :=
        h.staged.release.unique hevaluated (mem_append_left _ hmem)
          (hevaluatedKind.trans hkind'.symm) (by simp [advances, hevaluatedKind])
          (by rw [hevaluatedKind]; decide)
      rw [hreleased, hsame, hart]
  · intro hids
    refine ⟨?_, ?_, ?_⟩
    · rintro before record after rfl hkind
      exact h.resolvesTo (by decide) (by decide) (h.resolves.1 hkind)
        (hids.selection record (by simp) hkind)
    · rintro before record after rfl hkind
      exact h.resolvesTo (by decide) (by decide) (h.resolves.2.1 hkind)
        (hids.unsealing record (by simp) hkind)
    · rintro before record after rfl hkind
      obtain ⟨evaluated, hmem, hevaluated⟩ := h.evaluated_before hkind
      obtain ⟨artifact, hartifact⟩ := Option.isSome_iff_exists.mp (h.resolves.2.2 hkind)
      refine ⟨evaluated, artifact, hmem, hevaluated, ?_, hartifact⟩
      rw [← hids.evaluation evaluated (mem_append_left _ hmem) record (by simp) hevaluated
        hkind, hartifact]

end Accepted

/-- An unsealing whose selection is the sealing of the collection is accepted. -/
theorem wrong_selection_accepted :
    ¬ ∀ (conv : CharConv) (sha256 : Text → Sha256) (blocks : List BlockPlan)
      (artifacts : List ArtifactAccessRecord) (namespaces : RoleNamespaceRegistry)
      (authorities : AuthorityPolicy) (records : List FreezeRecord),
      LedgerAccepted conv sha256 blocks artifacts namespaces authorities records →
        RightPredecessors records := by
  intro hall
  have hright := (hall _ _ _ _ _ _ _ sampleLedger_accepted).selection
    (sampleLedger ⟨artifactNamed "sealed", .publicProtocol⟩ (sampleReference "seal")).dropLast
    (sampleUnseal (sampleReference "seal")) [] rfl (Or.inl rfl)
  obtain ⟨target, predecessor, hreference, hresolved, hkind, -⟩ := hright
  obtain rfl := Option.some.inj hreference
  have hseal : (recordReference
      (sampleLedger ⟨artifactNamed "sealed", .publicProtocol⟩ (sampleReference "seal")).dropLast
      (sampleReference "seal")).map FreezeRecord.recordKind = some .protocolFreeze := by
    decide +kernel
  rw [hresolved, Option.map_some, hkind] at hseal
  cases hseal

/-- The same ledger without its two faults. -/
theorem sampleLedger_right_accepted :
    LedgerAccepted noNumbers firstBytes sampleBlocks sampleArtifacts sampleNamespaces samplePolicy
      (sampleLedger ⟨artifactNamed "schema", .publicProtocol⟩ (sampleReference "selection")) := by
  rw [LedgerAccepted]
  decide +kernel

theorem accepted_ledger_predecessors_unsealed :
    RightPredecessors
        (sampleLedger ⟨artifactNamed "schema", .publicProtocol⟩ (sampleReference "selection")) ↔
      PredecessorIds
        (sampleLedger ⟨artifactNamed "schema", .publicProtocol⟩ (sampleReference "selection")) :=
  accepted_ledger_predecessors sampleLedger_right_accepted

/-! ### Inputs -/

/-- The classes that a record of the kind may not read. -/
def forbiddenClass (kind : RecordKind) (accessClass : AccessClass) : Bool :=
  match kind with
  | .selectionFreeze => accessClass = .validationSealed || accessClass = .validationUnsealed
  | .protocolFreeze =>
      accessClass = .trainingOnly || accessClass = .validationSealed ||
        accessClass = .validationUnsealed
  | .amendment =>
      accessClass = .trainingOnly || accessClass = .validationSealed ||
        accessClass = .validationUnsealed
  | _ => false

/-- The catalog holds the input in a class that the record may not read. -/
def Leaks (artifacts : List ArtifactAccessRecord) (record : FreezeRecord)
    (input : AccessInputArtifact) : Prop :=
  (record.recordKind = .selectionFreeze ∨ record.outcomeAccessProhibited = true) ∧
    ∃ artifact, artifactFor artifacts input.artifact = some artifact ∧
      forbiddenClass record.recordKind artifact.accessClass = true

/-- The classes among them that the rules of the kind do not refuse where a record declares them. -/
def leftAlone (kind : RecordKind) (accessClass : AccessClass) : Bool :=
  match kind with
  | .amendment => accessClass = .validationSealed
  | _ => forbiddenClass kind accessClass

/-- A record of the kind is decided before the outcomes are open. -/
def decidesEarly (kind : RecordKind) : Bool :=
  kind = .selectionFreeze || kind = .protocolFreeze || kind = .amendment

/-- The record declares the class that the catalog has, for every input that is there. -/
def Honest (artifacts : List ArtifactAccessRecord) (record : FreezeRecord) : Prop :=
  ∀ input ∈ record.inputArtifacts, (artifactFor artifacts input.artifact).all
    (fun artifact => artifact.accessClass = input.accessClass) = true

/-- The early records are honest, and declare no class that they may not read and that the rules
leave alone. -/
structure Declared (artifacts : List ArtifactAccessRecord) (records : List FreezeRecord) :
    Prop where
  honest : ∀ record ∈ records, decidesEarly record.recordKind = true → Honest artifacts record
  kept : ∀ record ∈ records, ∀ input ∈ record.inputArtifacts,
    (artifactFor artifacts input.artifact).isSome = true →
      leftAlone record.recordKind input.accessClass = false

theorem decidesEarly_of_forbidden {accessClass : AccessClass}
    (h : forbiddenClass kind accessClass = true) : decidesEarly kind = true := by
  cases kind <;> first | rfl | cases h

theorem forbidden_of_leftAlone {accessClass : AccessClass} (h : leftAlone kind accessClass = true) :
    forbiddenClass kind accessClass = true := by
  cases kind <;> cases accessClass <;> first | rfl | cases h

section Inputs

variable {conv : CharConv} {sha256 : Text → Sha256} {blocks : List BlockPlan}
  {artifacts : List ArtifactAccessRecord} {namespaces : RoleNamespaceRegistry}
  {authorities : AuthorityPolicy} {records : List FreezeRecord}

/-- A class that a record may not read, and still declares for an input, is one left alone: an
amendment that declares one of the others is refused. -/
theorem LedgerAccepted.leftAlone_of_forbidden
    (h : LedgerAccepted conv sha256 blocks artifacts namespaces authorities records)
    (hrecord : record ∈ records) {input : AccessInputArtifact}
    (hinput : input ∈ record.inputArtifacts)
    (hforbidden : forbiddenClass record.recordKind input.accessClass = true) :
    leftAlone record.recordKind input.accessClass = true := by
  cases hkind : record.recordKind with
  | amendment =>
      obtain ⟨before, after, rfl⟩ := append_of_mem hrecord
      have herrors := (h.admitted.moves (by rw [hkind]; decide)).2.1
      simp only [transitionOf, hkind, amendment, append_eq_nil_iff, require_eq_nil,
        Bool.not_eq_true', any_eq_false, Bool.or_eq_true, decide_eq_true_eq, not_or] at herrors
      obtain ⟨htraining, hunsealed⟩ := herrors.2 input hinput
      simpa [leftAlone, forbiddenClass, hkind, htraining, hunsealed] using hforbidden
  | _ =>
      rw [hkind] at hforbidden
      exact hforbidden

/-- An early record other than a selection is accepted only if it prohibits outcome access. -/
theorem LedgerAccepted.prohibits
    (h : LedgerAccepted conv sha256 blocks artifacts namespaces authorities records)
    (hrecord : record ∈ records) (hearly : decidesEarly record.recordKind = true) :
    record.recordKind = .selectionFreeze ∨ record.outcomeAccessProhibited = true := by
  obtain ⟨before, after, rfl⟩ := append_of_mem hrecord
  cases hkind : record.recordKind with
  | selectionFreeze => exact Or.inl rfl
  | protocolFreeze =>
      have hallowed := (h.admitted.moves (by rw [hkind]; decide)).2.2
      simp only [transitionOf, hkind, protocolFreeze, Bool.and_eq_true] at hallowed
      exact Or.inr hallowed.1.1.1.1.1.2
  | amendment =>
      have hallowed := (h.admitted.moves (by rw [hkind]; decide)).2.2
      simp only [transitionOf, hkind, amendment, Bool.and_eq_true] at hallowed
      exact Or.inr hallowed.2
  | validationUnseal => simp [hkind, decidesEarly] at hearly
  | h3Evaluated => simp [hkind, decidesEarly] at hearly
  | h1h2Released => simp [hkind, decidesEarly] at hearly
  | replacementAuthorization => simp [hkind, decidesEarly] at hearly

/-- **An accepted ledger leaks nothing where its early records declare the catalog's classes, and
none that the rules leave alone.**  Of the ledgers that declare the catalog's classes, these are
the only ones. -/
theorem accepted_ledger_inputs
    (h : LedgerAccepted conv sha256 blocks artifacts namespaces authorities records) :
    (Declared artifacts records →
      ∀ record ∈ records, ∀ input ∈ record.inputArtifacts, ¬Leaks artifacts record input) ∧
    ((∀ record ∈ records, decidesEarly record.recordKind = true → Honest artifacts record) →
      (∀ record ∈ records, ∀ input ∈ record.inputArtifacts, ¬Leaks artifacts record input) →
        Declared artifacts records) := by
  constructor
  · rintro hdeclared record hrecord input hinput ⟨-, artifact, hfound, hforbidden⟩
    have hearly := decidesEarly_of_forbidden hforbidden
    have hhonest := hdeclared.honest record hrecord hearly input hinput
    rw [hfound, Option.all_some, decide_eq_true_eq] at hhonest
    rw [hhonest] at hforbidden
    have hleft := h.leftAlone_of_forbidden hrecord hinput hforbidden
    rw [hdeclared.kept record hrecord input hinput (by rw [hfound]; rfl)] at hleft
    cases hleft
  · intro hhonest hnone
    refine ⟨hhonest, fun record hrecord input hinput hcatalogued => ?_⟩
    rw [← Bool.not_eq_true]
    intro hleft
    have hforbidden := forbidden_of_leftAlone hleft
    have hearly := decidesEarly_of_forbidden hforbidden
    obtain ⟨artifact, hfound⟩ := Option.isSome_iff_exists.mp hcatalogued
    have hclass := hhonest record hrecord hearly input hinput
    rw [hfound, Option.all_some, decide_eq_true_eq] at hclass
    exact hnone record hrecord input hinput
      ⟨h.prohibits hrecord hearly, artifact, hfound, hclass ▸ hforbidden⟩

end Inputs

/-- A selection that declares a sealed validation artifact public is accepted. -/
theorem sealed_input_accepted :
    ¬ ∀ (conv : CharConv) (sha256 : Text → Sha256) (blocks : List BlockPlan)
      (artifacts : List ArtifactAccessRecord) (namespaces : RoleNamespaceRegistry)
      (authorities : AuthorityPolicy) (records : List FreezeRecord),
      LedgerAccepted conv sha256 blocks artifacts namespaces authorities records →
        ∀ record ∈ records, ∀ input ∈ record.inputArtifacts, ¬Leaks artifacts record input := by
  intro hall
  refine hall _ _ _ _ _ _ _ sampleLedger_accepted
    (sampleSelection ⟨artifactNamed "sealed", .publicProtocol⟩) (by simp [sampleLedger])
    ⟨artifactNamed "sealed", .publicProtocol⟩ (by simp [sampleSelection, sampleFreeze])
      ⟨Or.inl rfl, ?_⟩
  exact ⟨⟨artifactNamed "sealed", .validationSealed, none, some (named _ "validation"), none, none,
    none⟩, by decide, rfl⟩

/-- A ledger whose selection reads what it declares for training leaks nothing. -/
theorem accepted_ledger_inputs_unsealed :
    Declared sampleArtifacts
        (sampleLedger ⟨artifactNamed "schema", .publicProtocol⟩ (sampleReference "selection")) ∧
      ∀ record ∈ sampleLedger ⟨artifactNamed "schema", .publicProtocol⟩
          (sampleReference "selection"),
        ∀ input ∈ record.inputArtifacts, ¬Leaks sampleArtifacts record input := by
  have hdeclared : Declared sampleArtifacts
      (sampleLedger ⟨artifactNamed "schema", .publicProtocol⟩ (sampleReference "selection")) := by
    refine ⟨?_, ?_⟩
    · simp only [Honest]
      decide +kernel
    · decide +kernel
  exact ⟨hdeclared, (accepted_ledger_inputs sampleLedger_right_accepted).1 hdeclared⟩

end CpuPrefetch.Orchestration
