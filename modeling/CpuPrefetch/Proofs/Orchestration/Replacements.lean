/-
An authorized replacement, added to the records it was decided on.

The decision looks at the blocks, and their identities, ordinals and subspaces stay apart
whatever it authorizes.  The seeds are in the catalogs, which it does not look at: they stay
apart exactly when the catalogs found for the blocks list none twice.  The catalog found for the
new block is the first of its subspace, which need not be the one that came with it.
-/
import CpuPrefetch.Proofs.Orchestration.Lineage
import CpuPrefetch.Proofs.Orchestration.RuleNames

namespace CpuPrefetch.Orchestration

open List
open Protocol
open Protocol.Json (CharConv)
open Keyed (Fresh fresh_cons fresh_append fresh_iff_nodup)

/-! ### The audit of a pool -/

variable {seen : List SeedId}

section Pool

variable {conv : CharConv} {sha256 : Text → Sha256} {registry : RoleNamespaceRegistry}

/-- The blocks share nothing with each other or with what was seen. -/
structure SoundPool (audit : PoolAudit) (members : List (BlockPlan × BlockSeedCatalog)) : Prop where
  ids : Fresh audit.blockIds (members.map fun member => member.1.blockId)
  ordinals : Fresh audit.ordinals (members.map fun member => member.1.blockOrdinal)
  subspaces : Fresh audit.subspaces (members.map fun member => member.2.blockSubspaceId)
  seeds : Fresh audit.seedIds (members.flatMap fun member => member.2.seeds)

/-- None of the errors is of a rule that is looked for. -/
def Silent (sought : String → Prop) (errors : List ValidationError) : Prop :=
  ∀ error ∈ errors, ¬sought error.ruleId

theorem silent_true {errors : List ValidationError} :
    Silent (fun _ => True) errors ↔ errors = [] := by
  simp [Silent, eq_nil_iff_forall_not_mem]

variable {sought : String → Prop}

theorem silent_append {first second : List ValidationError} :
    Silent sought (first ++ second) ↔ Silent sought first ∧ Silent sought second :=
  forall_mem_append

theorem silent_require {condition : Bool} {category : ErrorCategory} {path rule message : String}
    (h : sought rule) :
    Silent sought (require condition ⟨category, path, rule, message⟩) ↔ condition = true := by
  cases condition <;> simp [Silent, require, h]

theorem recordSeeds_error {error other : ValidationError} {seeds : List SeedId}
    (h : other ∈ (recordSeeds error seen seeds).2) : other = error := by
  induction seeds generalizing seen with
  | nil => cases h
  | cons seed rest ih =>
      rw [recordSeeds] at h
      split at h
      · rcases List.mem_cons.mp h with rfl | hrest
        · rfl
        · exact ih hrest
      · exact ih h

theorem silent_recordSeeds {sought : String → Prop} {category : ErrorCategory}
    {path rule message : String} {seen seeds : List SeedId} (h : sought rule) :
    Silent sought (recordSeeds ⟨category, path, rule, message⟩ seen seeds).2 ↔
      Fresh seen seeds := by
  rw [← @recordSeeds_eq_nil ⟨category, path, rule, message⟩]
  constructor
  · intro hsilent
    refine List.eq_nil_iff_forall_not_mem.mpr fun other hother => hsilent other hother ?_
    rw [recordSeeds_error hother]
    exact h
  · intro hnil
    rw [hnil]
    exact forall_mem_nil _

/-- The rules that an audit of a pool adds to those of its plans. -/
def poolRules : List String := ["BLK-POOL-IDENTITY-UNIQUE", "BLK-POOL-SEED-NO-REUSE"]

/-- An audit in which these two are looked for is silent exactly when the plans are, and share
nothing. -/
theorem poolAudit_silent (hsought : ∀ rule ∈ poolRules, sought rule) {audit : PoolAudit}
    {members : List ((BlockPlan × BlockSeedCatalog) × Nat)} :
    Silent sought (members.foldl (fun audit member =>
        audit.block conv sha256 registry member.1.1 member.1.2 member.2) audit).errors ↔
      Silent sought audit.errors ∧
      (∀ member ∈ members.map Prod.fst,
        Silent sought (validateBlockPlan conv sha256 member.1 member.2 registry)) ∧
      SoundPool audit (members.map Prod.fst) := by
  obtain ⟨hidentity, hreuse⟩ : sought "BLK-POOL-IDENTITY-UNIQUE" ∧
    sought "BLK-POOL-SEED-NO-REUSE" :=
    ⟨hsought _ (by decide), hsought _ (by decide)⟩
  induction members generalizing audit with
  | nil =>
      constructor
      · exact fun h => ⟨h, by simp, by simp, by simp, by simp, by simp⟩
      · exact fun h => h.1
  | cons member rest ih =>
      rw [foldl_cons, ih, map_cons, forall_mem_cons]
      constructor
      · rintro ⟨hclean, hrest, hids, hordinals, hsubspaces, hseeds'⟩
        simp only [PoolAudit.block, silent_append, silent_require hidentity,
          silent_recordSeeds hreuse, Bool.and_eq_true, decide_eq_true_eq] at hclean
        obtain ⟨⟨⟨hbefore, hsilent⟩, ⟨hid, hordinal⟩, hsubspace⟩, hseeds⟩ := hclean
        simp only [PoolAudit.block, hid, hordinal, not_false_eq_true, if_true, and_self]
          at hordinals hsubspaces
        refine ⟨hbefore, ⟨hsilent, hrest⟩, ?_⟩
        exact
          { ids := fresh_cons.mpr ⟨hid, hids⟩
            ordinals := fresh_cons.mpr ⟨hordinal, hordinals⟩
            subspaces := fresh_cons.mpr ⟨hsubspace, hsubspaces⟩
            seeds := (fresh_append fun _ => recordSeeds_seen).mpr ⟨hseeds, hseeds'⟩ }
      · rintro ⟨hbefore, ⟨hsilent, hrest⟩, hsound⟩
        obtain ⟨hid, hids⟩ := fresh_cons.mp hsound.ids
        obtain ⟨hordinal, hordinals⟩ := fresh_cons.mp hsound.ordinals
        obtain ⟨hsubspace, hsubspaces⟩ := fresh_cons.mp hsound.subspaces
        obtain ⟨hseeds, hseeds'⟩ := (fresh_append fun _ => recordSeeds_seen).mp hsound.seeds
        constructor
        · simp only [PoolAudit.block, silent_append, silent_require hidentity,
            silent_recordSeeds hreuse, Bool.and_eq_true, decide_eq_true_eq]
          exact ⟨⟨⟨hbefore, hsilent⟩, ⟨hid, hordinal⟩, hsubspace⟩, hseeds⟩
        · refine ⟨hrest, hids, ?_, ?_, hseeds'⟩
          · simpa only [PoolAudit.block, hid, not_false_eq_true, if_true] using hordinals
          · simpa only [PoolAudit.block, hid, hordinal, not_false_eq_true, if_true, and_self] using
              hsubspaces

variable {members : List (BlockPlan × BlockSeedCatalog)}

theorem auditPool_silent (hsought : ∀ rule ∈ poolRules, sought rule) : Silent sought
        (auditPool conv sha256 (members.map Prod.fst) (members.map Prod.snd) registry).errors ↔
      (∀ member ∈ members,
        Silent sought (validateBlockPlan conv sha256 member.1 member.2 registry)) ∧
      SoundPool ⟨[], [], [], [], []⟩ members := by
  have hzip : (members.map Prod.fst).zip (members.map Prod.snd) = members := by
    rw [zip_map', map_id']
  rw [auditPool, hzip, poolAudit_silent hsought, zipIdx_map_fst]
  exact and_iff_right (forall_mem_nil _)

theorem auditPool_clean :
    (auditPool conv sha256 (members.map Prod.fst) (members.map Prod.snd) registry).errors = [] ↔
      (∀ member ∈ members, validateBlockPlan conv sha256 member.1 member.2 registry = []) ∧
      SoundPool ⟨[], [], [], [], []⟩ members := by
  rw [← silent_true, auditPool_silent fun _ _ => trivial]
  simp only [silent_true]

theorem SoundPool.sublist {members' : List (BlockPlan × BlockSeedCatalog)}
    (h : SoundPool ⟨[], [], [], [], []⟩ members) (hsub : members'.Sublist members) :
    SoundPool ⟨[], [], [], [], []⟩ members' where
  ids := fresh_iff_nodup.mpr ((fresh_iff_nodup.mp h.ids).sublist (hsub.map _))
  ordinals := fresh_iff_nodup.mpr ((fresh_iff_nodup.mp h.ordinals).sublist (hsub.map _))
  subspaces := fresh_iff_nodup.mpr ((fresh_iff_nodup.mp h.subspaces).sublist (hsub.map _))
  seeds := fresh_iff_nodup.mpr ((fresh_iff_nodup.mp h.seeds).sublist (hsub.flatMap _))

end Pool

/-! ### The catalogs of the blocks -/

variable {blocks : List BlockPlan} {catalogs : List BlockSeedCatalog}

section Catalogs

variable {conv : CharConv} {sha256 : Text → Sha256} {evidence : Stage14Evidence}

/-- The blocks with their catalogs. -/
def catalogued (catalogs : List BlockSeedCatalog) (blocks : List BlockPlan) :
    List (BlockPlan × BlockSeedCatalog) :=
  blocks.filterMap fun block => (catalogFor catalogs block).map fun catalog => (block, catalog)

theorem activePool_eq_filter (blocks : List BlockPlan) :
    activePool evidence blocks = (catalogued evidence.seedCatalogs blocks).filter
      fun member => !isReplaced blocks member.1.blockId := by
  rw [activePool, catalogued, filter_filterMap]
  refine filterMap_congr fun block _ => ?_
  cases catalogFor evidence.seedCatalogs block with
  | none => rfl
  | some catalog => cases hreplaced : isReplaced blocks block.blockId <;>
    simp [Option.filter, hreplaced]

end Catalogs

/-! ### The decision -/

section Decision

variable {conv : CharConv} {sha256 : Text → Sha256} {request : ReplacementRequest}
  {existing : List BlockPlan} {budget : ReplacementBudget} {registry : RoleNamespaceRegistry}
  {generated : GeneratedBlockPlan} {blockers : List String}

/-- What an authorized plan is, next to the blocks it was authorized among. -/
structure AuthorizedPlan (conv : CharConv) (sha256 : Text → Sha256) (existing : List BlockPlan)
    (budget : ReplacementBudget) (registry : RoleNamespaceRegistry) (input : BlockGenerationInput)
    (replaced : BlockId) (plan : BlockPlan) : Prop where
  room : replacementCount existing < budget.maximumReplacementBlocks.toNat
  direct : isReplaced existing replaced = false
  replaces : plan.replacesBlockId = some replaced
  new : ∀ block ∈ existing, block.blockId ≠ plan.blockId ∧ block.blockOrdinal ≠ plan.blockOrdinal ∧
    block.seedSubspaceId ≠ plan.seedSubspaceId
  subspace : input.seeds.blockSubspaceId = plan.seedSubspaceId
  valid : validateBlockPlan conv sha256 plan input.seeds registry = []

end Decision

/-! ### One block more -/

/-- The evidence with other catalogs. -/
def Stage14Evidence.withCatalogs (evidence : Stage14Evidence) (catalogs : List BlockSeedCatalog) :
    Stage14Evidence :=
  { evidence with seedCatalogs := catalogs }

/-- The seeds of one domain are opaque, and new. -/
theorem inspectSeeds_eq_nil {path : String} {index : Nat} {seeds : List SeedId} :
    inspectSeeds path index seen seeds = [] ↔
      (∀ seed ∈ seeds, isOpaque seed.value = true) ∧ Fresh seen seeds := by
  induction seeds generalizing index seen with
  | nil => simp [inspectSeeds]
  | cons seed rest ih =>
      simp only [inspectSeeds, append_eq_nil_iff, require_eq_nil, decide_eq_true_eq, ih,
        forall_mem_cons, fresh_cons]
      constructor
      · rintro ⟨⟨hidentifier, hnew⟩, hrest, hfresh⟩
        exact ⟨⟨hidentifier, hrest⟩, hnew, hfresh⟩
      · rintro ⟨⟨hidentifier, hrest⟩, hnew, hfresh⟩
        exact ⟨⟨hidentifier, hnew⟩, hrest, hfresh⟩

theorem validateSeedCatalog_nodup {catalog : BlockSeedCatalog} {registry : RoleNamespaceRegistry}
    (h : validateSeedCatalog catalog registry = []) : catalog.seeds.Nodup := by
  simp only [validateSeedCatalog, append_eq_nil_iff] at h
  obtain ⟨⟨⟨-, harrival⟩, hnode⟩, hevent⟩ := h
  refine fresh_iff_nodup.mp ((fresh_append ?_).mpr ⟨(fresh_append ?_).mpr
    ⟨(inspectSeeds_eq_nil.mp harrival).2, (inspectSeeds_eq_nil.mp hnode).2⟩,
    (inspectSeeds_eq_nil.mp hevent).2⟩)
  · simp
  · simp

section Added

variable {conv : CharConv} {sha256 : Text → Sha256} {evidence : Stage14Evidence}
  {records : List ProtocolRecord} {budget : ReplacementBudget} {input : BlockGenerationInput}
  {replaced : BlockId} {plan : BlockPlan}

/-- What the blocks find once there is a catalog more: the new block one of its subspace, and every
other block the one it had. -/
structure Found (catalogs catalogs' : List BlockSeedCatalog) (existing : List BlockPlan)
    (plan : BlockPlan) (found : BlockSeedCatalog) : Prop where
  own : catalogFor catalogs' plan = some found
  others : ∀ block ∈ existing, catalogFor catalogs' block = catalogFor catalogs block

/-- Wherever the new catalog is put; it is the one found if none of its subspace stands before. -/
theorem AuthorizedPlan.found {existing : List BlockPlan} {registry : RoleNamespaceRegistry}
    (h : AuthorizedPlan conv sha256 existing budget registry input replaced plan)
    (before after : List BlockSeedCatalog) :
    ∃ found, Found (before ++ after) (before ++ input.seeds :: after) existing plan found ∧
      ((∀ held ∈ before, held.blockSubspaceId ≠ plan.seedSubspaceId) → found = input.seeds) := by
  have hothers : ∀ block ∈ existing, catalogFor (before ++ input.seeds :: after) block =
      catalogFor (before ++ after) block := by
    intro block hblock
    rw [catalogFor, catalogFor, find?_append, find?_append, find?_cons_of_neg]
    rw [decide_eq_true_eq, h.subspace]
    exact fun hsame => (h.new block hblock).2.2 hsame.symm
  have hown : (catalogFor (before ++ input.seeds :: after) plan).isSome = true :=
    List.find?_isSome.mpr ⟨input.seeds, by simp, decide_eq_true h.subspace⟩
  obtain ⟨found, hfound⟩ := Option.isSome_iff_exists.mp hown
  refine ⟨found, ⟨hfound, hothers⟩, fun hunheld => ?_⟩
  have hbefore : before.find? (fun held => held.blockSubspaceId = plan.seedSubspaceId) = none :=
    List.find?_eq_none.mpr fun held hheld => by simpa using hunheld held hheld
  rw [catalogFor, find?_append, hbefore, Option.none_or,
    find?_cons_of_pos (by simpa using h.subspace)] at hfound
  exact (Option.some.inj hfound).symm

section Found

variable {catalogs catalogs' : List BlockSeedCatalog} {existing : List BlockPlan}
  {found : BlockSeedCatalog}

theorem Found.catalogued (h : Found catalogs catalogs' existing plan found) :
    catalogued catalogs' (existing ++ [plan]) = catalogued catalogs existing ++
      [(plan, found)] := by
  rw [Orchestration.catalogued, filterMap_append]
  congr 1
  · refine filterMap_congr fun block hblock => ?_
    rw [h.others block hblock]
  · simp [h.own]

theorem Found.seedsOf (h : Found catalogs catalogs' existing plan found) :
    seedsOf catalogs' (existing ++ [plan]) = seedsOf catalogs existing ++ found.seeds := by
  rw [Orchestration.seedsOf, filterMap_append, flatMap_append]
  congr 1
  · rw [filterMap_congr h.others]
    rfl
  · simp [h.own]

/-- The pool of the blocks that are still active, and the new one. -/
theorem Found.activePool
    (h : Found evidence.seedCatalogs catalogs' existing plan found) :
    (activePool (evidence.withCatalogs catalogs') (existing ++ [plan])).Sublist
      (activePool evidence existing ++ [(plan, found)]) := by
  rw [activePool_eq_filter, activePool_eq_filter, Stage14Evidence.withCatalogs, h.catalogued,
    filter_append]
  refine List.Sublist.append (monotone_filter_right _ fun member hkept => ?_)
    filter_sublist
  simp only [isReplaced, any_append, Bool.not_or, Bool.and_eq_true] at hkept
  exact hkept.1

end Found

section Kept

variable {catalogs' : List BlockSeedCatalog} {found : BlockSeedCatalog}

end Kept

end Added

/-! ### A request to evaluate on -/

end CpuPrefetch.Orchestration
