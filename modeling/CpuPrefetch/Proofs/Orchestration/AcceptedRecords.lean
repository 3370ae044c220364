/-
What an accepted record set is.

The validator is a list of checks, each over the whole set or over one record at a time.
What each of them says when it reports nothing is said here once; what follows for the
lineage of replacements, and for the decision on one, is in the modules after it.
-/
import CpuPrefetch.Lib.Keyed
import CpuPrefetch.Orchestration.CrossRecord
import CpuPrefetch.Proofs.Orchestration.Ledger

namespace CpuPrefetch.Orchestration

open List
open Protocol
open Protocol.Json (CharConv)
open Keyed (Fresh fresh_cons fresh_append fresh_iff_nodup)

/-! ### The checks over a list with a memory -/

variable {blocks : List BlockPlan}

/-- Each block is reported whose identity is not new. -/
theorem blockIdErrors_eq_nil {seen : List BlockId} :
    blockIdErrors seen blocks = [] ↔ Fresh seen (blocks.map BlockPlan.blockId) := by
  induction blocks generalizing seen with
  | nil => simp [blockIdErrors]
  | cons block rest ih =>
      rw [blockIdErrors, append_eq_nil_iff, require_eq_nil, decide_eq_true_eq, ih,
        map_cons, fresh_cons]

/-- Each block is reported that replaces what one before replaces. -/
theorem branchErrors_eq_nil {seen : List BlockId} :
    branchErrors seen blocks = [] ↔ Fresh seen (blocks.filterMap BlockPlan.replacesBlockId) := by
  induction blocks generalizing seen with
  | nil => simp [branchErrors]
  | cons block rest ih =>
      cases hreplaces : block.replacesBlockId with
      | none => rw [branchErrors, hreplaces, ih, filterMap_cons_none hreplaces]
      | some original =>
          rw [branchErrors, hreplaces, filterMap_cons_some hreplaces]
          simp only [append_eq_nil_iff, require_eq_nil, decide_eq_true_eq, ih, fresh_cons]

/-- Each seed is reported that was there already; afterwards they are all there. -/
theorem recordSeeds_eq_nil {error : ValidationError} {seen seeds : List SeedId} :
    (recordSeeds error seen seeds).2 = [] ↔ Fresh seen seeds := by
  induction seeds generalizing seen with
  | nil => simp [recordSeeds]
  | cons seed rest ih =>
      rw [recordSeeds, fresh_cons]
      by_cases hseen : seed ∈ seen
      · simp [hseen]
      · rw [if_neg hseen, ih]
        simp [hseen]

theorem recordSeeds_seen {error : ValidationError} {seen seeds : List SeedId} {seed : SeedId} :
    seed ∈ (recordSeeds error seen seeds).1 ↔ seed ∈ seen ∨ seed ∈ seeds := by
  induction seeds generalizing seen with
  | nil => simp [recordSeeds]
  | cons first rest ih =>
      rw [recordSeeds]
      by_cases hseen : first ∈ seen
      · simp only [if_pos hseen, ih, mem_cons]
        constructor
        · tauto
        · rintro (hmem | rfl | hmem)
          · exact Or.inl hmem
          · exact Or.inl hseen
          · exact Or.inr hmem
      · simp only [if_neg hseen, ih, mem_cons]
        tauto

/-! ### The catalogs -/

variable {block : BlockPlan}

/-- A valid plan is well formed, and its catalog is sound. -/
theorem validBlock_parts {conv : CharConv} {sha256 : Text → Sha256} {catalog : BlockSeedCatalog}
    {registry : RoleNamespaceRegistry}
    (h : validateBlockPlan conv sha256 block catalog registry = []) :
    validateSeedCatalog catalog registry = [] ∧ validateRecord (.blockPlan block) = [] := by
  simp only [validateBlockPlan, append_eq_nil_iff] at h
  exact ⟨h.1.1.1.1.1.1.1.1.1, h.1.1.1.1.1.1.1.1.2⟩

section Catalogs

variable {conv : CharConv} {sha256 : Text → Sha256} {evidence : Stage14Evidence}

/-- The seeds of the blocks' catalogs, block after block. -/
def seedsOf (catalogs : List BlockSeedCatalog) (blocks : List BlockPlan) : List SeedId :=
  (blocks.filterMap (catalogFor catalogs)).flatMap BlockSeedCatalog.seeds

/-- Every block is valid against its catalog, and no seed is there twice. -/
theorem catalogErrors_eq_nil {seen : List SeedId} :
    catalogErrors conv sha256 evidence seen blocks = [] ↔
      (∀ block ∈ blocks, ∃ catalog, catalogFor evidence.seedCatalogs block = some catalog ∧
        validateBlockPlan conv sha256 block catalog evidence.namespaces = []) ∧
      Fresh seen (seedsOf evidence.seedCatalogs blocks) := by
  induction blocks generalizing seen with
  | nil => simp [catalogErrors, seedsOf]
  | cons block rest ih =>
      cases hcatalog : catalogFor evidence.seedCatalogs block with
      | none => simp [catalogErrors, hcatalog]
      | some catalog =>
          have hseeds : seedsOf evidence.seedCatalogs (block :: rest) =
              catalog.seeds ++ seedsOf evidence.seedCatalogs rest := by
            simp [seedsOf, hcatalog]
          rw [catalogErrors, hcatalog, hseeds, fresh_append (fun _ => recordSeeds_seen)]
          simp only [append_eq_nil_iff, recordSeeds_eq_nil, ih, forall_mem_cons, hcatalog,
            Option.some.injEq, exists_eq_left']
          constructor
          · rintro ⟨⟨hvalid, hnew⟩, hrest, hnew'⟩
            exact ⟨⟨hvalid, hrest⟩, hnew, hnew'⟩
          · rintro ⟨⟨hvalid, hrest⟩, hnew, hnew'⟩
            exact ⟨⟨hvalid, hnew⟩, hrest, hnew'⟩

end Catalogs

/-! ### One replacement -/

/-- What an accepted replacement resolves to: its original, and the records that authorize it. -/
structure Resolution (blocks : List BlockPlan) (freezes : List FreezeRecord)
    (failures : List FailureRecord) (manifests : List RunManifest)
    (budget : Option ReplacementBudget) (block : BlockPlan) (replaced : BlockId) where
  original : BlockPlan
  authorizationId : RecordId
  authorization : FreezeRecord
  authorized : ReplacementAuthorization
  failure : FailureRecord
  run : RunManifest
  named : block.replacementAuthorizationId = some authorizationId
  found : idIn blocks replaced = some original
  retains : retainsOriginal block original = true
  authorizes : authorizationOf freezes authorizationId = some authorization
  replaces : authorization.replacement = some authorized
  records : recordsReplacement budget block replaced authorization authorized = true
  failed : failureFor failures authorized.failureRecordId = some failure
  invalid : invalidRunOf manifests failure = some run
  resolves : resolvesReplacement block replaced authorization failure = true

section Replacements

variable {blocks : List BlockPlan} {freezes : List FreezeRecord} {failures : List FailureRecord}
  {manifests : List RunManifest} {budget : Option ReplacementBudget} {block : BlockPlan}
  {replaced : BlockId}

theorem replacementBlockErrors_eq_nil (hreplaces : block.replacesBlockId = some replaced)
    (hauthorization : block.replacementAuthorizationId.isSome = true) :
    replacementBlockErrors blocks freezes failures manifests budget block = [] ↔
      Nonempty (Resolution blocks freezes failures manifests budget block replaced) := by
  obtain ⟨authorizationId, hnamed⟩ := Option.isSome_iff_exists.mp hauthorization
  rw [replacementBlockErrors, hreplaces, hnamed]
  simp only [replacementResolution]
  constructor
  · intro h
    split at h
    · cases h
    · rename_i horiginal
      rw [Bool.not_eq_true, Option.isNone_eq_false_iff, Option.isSome_iff_exists] at horiginal
      obtain ⟨original, hfound⟩ := horiginal
      obtain ⟨hfound, hretains⟩ := Option.filter_eq_some_iff.mp hfound
      split at h
      · cases h
      · rename_i authorization authorized hauthorized
        obtain ⟨record, hrecord, hmap⟩ := Option.bind_eq_some_iff.mp hauthorized
        obtain ⟨authorized', hauthorized', hsame⟩ := Option.map_eq_some_iff.mp hmap
        obtain ⟨rfl, rfl⟩ := Prod.mk.inj hsame
        split at h
        · cases h
        · rename_i hrecords
          rw [require_eq_nil] at h
          obtain ⟨failure, hfailure, hresolved⟩ := Option.any_eq_true _ _ |>.mp h
          rw [Bool.and_eq_true] at hresolved
          obtain ⟨run, hrun⟩ := Option.isSome_iff_exists.mp hresolved.1
          exact ⟨
            { original := original
              authorizationId := authorizationId
              authorization := record
              authorized := authorized'
              failure := failure
              run := run
              named := hnamed
              found := hfound
              retains := hretains
              authorizes := hrecord
              replaces := hauthorized'
              records := by simpa using hrecords
              failed := hfailure
              invalid := hrun
              resolves := hresolved.2 }⟩
  · rintro ⟨r⟩
    obtain rfl : authorizationId = r.authorizationId := Option.some.inj (hnamed.symm.trans r.named)
    have horiginal : originalOf blocks replaced block = some r.original :=
      Option.filter_eq_some_iff.mpr ⟨r.found, r.retains⟩
    simp [horiginal, r.authorizes, r.replaces, r.records, r.failed, r.invalid, r.resolves]

end Replacements

/-! ### The whole set -/

section Accepted

variable {conv : CharConv} {sha256 : Text → Sha256} {evidence : Stage14Evidence}
  {records : List ProtocolRecord}

variable (conv sha256 evidence) in
/-- The validator reports nothing. -/
def Stage14Accepted (records : List ProtocolRecord) : Prop :=
  validateStage14 conv sha256 evidence records = []

variable (conv sha256 evidence) in
/-- The checks of the validator, each of which reports nothing. -/
structure Stage14Checks (records : List ProtocolRecord) : Prop where
  wellFormed : ∀ record ∈ records, validateRecord record = []
  unbranched : ((blocksOf records).filterMap BlockPlan.replacesBlockId).Nodup
  catalogs : ∀ block ∈ blocksOf records, ∃ catalog,
    catalogFor evidence.seedCatalogs block = some catalog ∧
      validateBlockPlan conv sha256 block catalog evidence.namespaces = []
  seeds : (seedsOf evidence.seedCatalogs (blocksOf records)).Nodup
  pool : poolErrors conv sha256 evidence (blocksOf records) = []
  ledger : LedgerAccepted conv sha256 (blocksOf records) evidence.artifacts evidence.namespaces
    evidence.authorities (freezesOf records)
  opening : trainingOpenErrors evidence (freezesOf records) = []
  budget : budgetErrors evidence (blocksOf records) = []
  replacements : ∀ block ∈ blocksOf records, replacementBlockErrors (blocksOf records)
    (freezesOf records) (failuresOf records) (manifestsOf records) evidence.replacementBudget
    block = []

theorem stage14Accepted_iff :
    Stage14Accepted conv sha256 evidence records ↔ Stage14Checks conv sha256 evidence records := by
  simp only [Stage14Accepted, validateStage14, append_eq_nil_iff, flatMap_eq_nil_iff,
    branchErrors_eq_nil, catalogErrors_eq_nil, fresh_iff_nodup]
  constructor
  · rintro ⟨⟨⟨⟨⟨⟨⟨hlocal, hbranch⟩, hcatalogs⟩, hpool⟩, hledger⟩, hopening⟩, hbudget⟩,
      hreplacements⟩
    exact
      { wellFormed := hlocal
        unbranched := hbranch
        catalogs := hcatalogs.1
        seeds := hcatalogs.2
        pool := hpool
        ledger := hledger
        opening := hopening
        budget := hbudget
        replacements := hreplacements }
  · intro h
    exact ⟨⟨⟨⟨⟨⟨⟨h.wellFormed, h.unbranched⟩, h.catalogs, h.seeds⟩, h.pool⟩, h.ledger⟩,
      h.opening⟩, h.budget⟩, h.replacements⟩

theorem mem_blocksOf : block ∈ blocksOf records ↔ ProtocolRecord.blockPlan block ∈ records := by
  rw [blocksOf, mem_filterMap]
  constructor
  · rintro ⟨record, hrecord, hblock⟩
    cases record <;> cases hblock
    exact hrecord
  · intro hrecord
    exact ⟨_, hrecord, rfl⟩

theorem mem_manifestsOf {manifest : RunManifest} :
    manifest ∈ manifestsOf records ↔ ProtocolRecord.runManifest manifest ∈ records := by
  rw [manifestsOf, mem_filterMap]
  constructor
  · rintro ⟨record, hrecord, hmanifest⟩
    cases record <;> cases hmanifest
    exact hrecord
  · intro hrecord
    exact ⟨_, hrecord, rfl⟩

/-- No two blocks have one identity. -/
theorem Stage14Accepted.ids (h : Stage14Accepted conv sha256 evidence records) :
    ((blocksOf records).map BlockPlan.blockId).Nodup := by
  have hledger := (stage14Accepted_iff.mp h).ledger
  have hopen := (turn_collects conv sha256 (blocksOf records) evidence.artifacts
    evidence.namespaces evidence.authorities).clean_before hledger
  simp only [openLedger, append_eq_nil_iff] at hopen
  exact (blockIdErrors_eq_nil.mp hopen.2).1

/-- The block found under an identity is the one there that has it. -/
theorem Stage14Accepted.idIn (h : Stage14Accepted conv sha256 evidence records) {id : BlockId} :
    idIn (blocksOf records) id = some block ↔
      block ∈ blocksOf records ∧ block.blockId = id :=
  Keyed.find_eq_some_iff h.ids

/-- A replacement is complete: it has an authorization and a lineage, which agree with it. -/
theorem Stage14Accepted.replacementShape (h : Stage14Accepted conv sha256 evidence records)
    (hblock : block ∈ blocksOf records) : replacementErrors block = [] := by
  have hlocal : validateBlock block = [] :=
    (stage14Accepted_iff.mp h).wellFormed _ (mem_blocksOf.mp hblock)
  simp only [validateBlock, append_eq_nil_iff] at hlocal
  exact hlocal.2

theorem Stage14Accepted.resolution (h : Stage14Accepted conv sha256 evidence records)
    (hblock : block ∈ blocksOf records) {replaced : BlockId}
    (hreplaces : block.replacesBlockId = some replaced) :
    Nonempty (Resolution (blocksOf records) (freezesOf records) (failuresOf records)
      (manifestsOf records) evidence.replacementBudget block replaced) := by
  have hshape := h.replacementShape hblock
  simp only [replacementErrors, append_eq_nil_iff, require_eq_nil, Bool.and_eq_true,
    decide_eq_true_eq, hreplaces, Option.isSome_some] at hshape
  exact (replacementBlockErrors_eq_nil hreplaces hshape.1.1.symm).mp
    ((stage14Accepted_iff.mp h).replacements block hblock)

end Accepted

end CpuPrefetch.Orchestration
