/-
What an accepted pool of the size of a resolved plan is.

The check of the pool records one identity after another and stops at none of its errors, so
an empty report says that nothing was recorded twice.  Its counts are compared with the
plan's, and the plan's equations say what these add up to.
-/
import CpuPrefetch.Proofs.Orchestration.Authorizations
import CpuPrefetch.Proofs.Orchestration.PrecisionPlans
import CpuPrefetch.Proofs.Orchestration.Replacements

namespace CpuPrefetch.Orchestration

open List
open Protocol
open Protocol.Json (CharConv IsUtf8)
open Keyed (fresh_iff_nodup)

section Pool

variable {conv : CharConv} {sha256 : Text → Sha256} {registry : RoleNamespaceRegistry}
  {blocks blocks' : List BlockPlan} {catalogs catalogs' : List BlockSeedCatalog}

/-- The blocks whose first whole plot has the state. -/
def firstPlots (blocks : List BlockPlan) (state : RequestedHardwareState) : Nat :=
  blocks.countP fun block => block.wholePlotOrder.1 = state

variable (conv sha256 registry blocks catalogs) in
/-- The pool has the blocks that the counts ask for, and nothing in it is there twice. -/
structure SizedPool (counts : ProspectiveCounts) : Prop where
  total : blocks.length = counts.rtotal.toNat ∧ catalogs.length = counts.rtotal.toNat
  training : roleCount blocks .h3Train = counts.rtrain.toNat
  validation : roleCount blocks .h3Validation = counts.rval.toNat
  supplemental : roleCount blocks .h1h2Supplemental =
    counts.rtotal.toNat - (counts.rtrain.toNat + counts.rval.toNat)
  split : roleCount blocks .h3Train + roleCount blocks .h3Validation +
    roleCount blocks .h1h2Supplemental = blocks.length
  runs : counts.nruns.toNat = 180 * counts.rtotal.toNat
  ids : (blocks.map BlockPlan.blockId).Nodup
  ordinals : (blocks.map BlockPlan.blockOrdinal).Nodup
  subspaces : (catalogs.map BlockSeedCatalog.blockSubspaceId).Nodup
  seeds : (catalogs.flatMap BlockSeedCatalog.seeds).Nodup
  factorial : ∀ block ∈ blocks, (block.cells.map StageACell.key).Perm expectedStageACells
  valid : ∀ member ∈ blocks.zip catalogs,
    validateBlockPlan conv sha256 member.1 member.2 registry = []
  balanced : firstPlots blocks .h0 ≤ firstPlots blocks .h1 + 1 ∧
    firstPlots blocks .h1 ≤ firstPlots blocks .h0 + 1

/-! ### The cells of a block -/

/-- A valid block has each combination of the factors once. -/
theorem validBlock_factorial {block : BlockPlan} {catalog : BlockSeedCatalog}
    (h : validateBlockPlan conv sha256 block catalog registry = []) :
    (block.cells.map StageACell.key).Perm expectedStageACells := by
  have hexpected : expectedStageACells.length = 180 := rfl
  simp only [validateBlockPlan, append_eq_nil_iff, factorialErrors, require_eq_nil,
    Bool.and_eq_true, all_eq_true, decide_eq_true_eq, auditCells_actual,
    mem_reverse] at h
  obtain ⟨⟨hlength, -⟩, hmem⟩ := h.1.1.2
  have hsubperm : expectedStageACells.Subperm (block.cells.map StageACell.key) :=
    subperm_of_subset expectedStageACells_nodup hmem
  refine (hsubperm.perm_of_length_le ?_).symm
  rw [length_map, hlength, hexpected]
  rfl

/-! ### When a pool is accepted -/

theorem SoundPool.perm {members members' : List (BlockPlan × BlockSeedCatalog)}
    (h : SoundPool ⟨[], [], [], [], []⟩ members) (hperm : members.Perm members') :
    SoundPool ⟨[], [], [], [], []⟩ members' where
  ids := fresh_iff_nodup.mpr ((hperm.map _).nodup_iff.mp (fresh_iff_nodup.mp h.ids))
  ordinals := fresh_iff_nodup.mpr ((hperm.map _).nodup_iff.mp (fresh_iff_nodup.mp h.ordinals))
  subspaces := fresh_iff_nodup.mpr ((hperm.map _).nodup_iff.mp (fresh_iff_nodup.mp h.subspaces))
  seeds := fresh_iff_nodup.mpr ((hperm.flatMap_right _).nodup_iff.mp (fresh_iff_nodup.mp h.seeds))

/-- The sum of the expected counts, where it fits. -/
def expectedTotal (expected : RoleCounts) : Option UInt64 := do
  checkedAdd (← checkedAdd expected.h3Train expected.h3Validation) expected.h1h2Supplemental

variable {expected : RoleCounts}

theorem expectedTotal_some {total : UInt64} (h : expectedTotal expected = some total) :
    total.toNat = expected.h3Train.toNat + expected.h3Validation.toNat +
      expected.h1h2Supplemental.toNat := by
  obtain ⟨partialTotal, hpartial, htotal⟩ := Option.bind_eq_some_iff.mp h
  rw [checkedAdd_some htotal, checkedAdd_some hpartial]

variable (conv sha256 registry) in
/-- What is checked of a pool, in terms of its members. -/
structure PoolChecks (members : List (BlockPlan × BlockSeedCatalog)) (expected : RoleCounts) :
    Prop where
  total : ∃ total, expectedTotal expected = some total ∧ members.length = total.toNat
  valid : ∀ member ∈ members, validateBlockPlan conv sha256 member.1 member.2 registry = []
  sound : SoundPool ⟨[], [], [], [], []⟩ members
  roles : roleCount (members.map Prod.fst) .h3Train = expected.h3Train.toNat ∧
    roleCount (members.map Prod.fst) .h3Validation = expected.h3Validation.toNat ∧
    roleCount (members.map Prod.fst) .h1h2Supplemental = expected.h1h2Supplemental.toNat
  balanced : plotImbalance (members.map Prod.fst) ≤ 1

theorem auditPool_zip : auditPool conv sha256 blocks catalogs registry =
    auditPool conv sha256 ((blocks.zip catalogs).map Prod.fst) ((blocks.zip catalogs).map Prod.snd)
      registry := by
  rw [auditPool, auditPool, zip_map', map_id']

/-- **A pool is accepted exactly when its members pass the checks**, and none is left over. -/
theorem validateBlockPool_eq_nil :
    validateBlockPool conv sha256 blocks catalogs registry expected = [] ↔
      catalogs.length = blocks.length ∧
        PoolChecks conv sha256 registry (blocks.zip catalogs) expected := by
  have hclean : (auditPool conv sha256 blocks catalogs registry).errors = [] ↔
      (∀ member ∈ blocks.zip catalogs,
        validateBlockPlan conv sha256 member.1 member.2 registry = []) ∧
      SoundPool ⟨[], [], [], [], []⟩ (blocks.zip catalogs) := by
    rw [auditPool_zip, auditPool_clean]
  rw [validateBlockPool]
  split
  · rename_i hpartial
    refine iff_of_false (cons_ne_nil _ _) ?_
    rintro ⟨-, ⟨total, htotal, -⟩, -⟩
    rw [expectedTotal, hpartial] at htotal
    cases htotal
  · rename_i partialTotal hpartial
    split
    · rename_i hsum
      refine iff_of_false (cons_ne_nil _ _) ?_
      rintro ⟨-, ⟨total, htotal, -⟩, -⟩
      rw [expectedTotal, hpartial, Option.bind_eq_bind, Option.bind_some, hsum] at htotal
      cases htotal
    · rename_i total hsum
      have htotal : expectedTotal expected = some total := by
        rw [expectedTotal, hpartial]
        exact hsum
      simp only [append_eq_nil_iff, require_eq_nil, Bool.and_eq_true, decide_eq_true_eq, hclean]
      constructor
      · rintro ⟨⟨⟨⟨hblocks, hcatalogs⟩, hvalid, hsound⟩, hroles⟩, hbalanced⟩
        refine ⟨hcatalogs, ⟨total, htotal, ?_⟩, hvalid, hsound,
          ⟨hroles.1.1, hroles.1.2, hroles.2⟩, hbalanced⟩
        rw [length_zip, hcatalogs, Nat.min_self, hblocks]
      · rintro ⟨hcatalogs, ⟨total', htotal', hlength⟩, hvalid, hsound, ⟨htrain, hval, hsupp⟩,
          hbalanced⟩
        obtain rfl := Option.some.inj (htotal.symm.trans htotal')
        rw [length_zip, hcatalogs, Nat.min_self] at hlength
        exact ⟨⟨⟨⟨hlength, hcatalogs⟩, hvalid, hsound⟩, ⟨htrain, hval⟩, hsupp⟩, hbalanced⟩

theorem plotImbalance_le_one : plotImbalance blocks ≤ 1 ↔
    firstPlots blocks .h0 ≤ firstPlots blocks .h1 + 1 ∧
      firstPlots blocks .h1 ≤ firstPlots blocks .h0 + 1 := by
  rw [plotImbalance, firstPlots, firstPlots]
  split <;> omega

theorem PoolChecks.perm {members members' : List (BlockPlan × BlockSeedCatalog)}
    (h : PoolChecks conv sha256 registry members expected) (hperm : members.Perm members') :
    PoolChecks conv sha256 registry members' expected where
  total := by
    rw [← hperm.length_eq]
    exact h.total
  valid := fun member hmember => h.valid member (hperm.mem_iff.mpr hmember)
  sound := h.sound.perm hperm
  roles := by
    simp only [roleCount, ← (hperm.map Prod.fst).countP_eq]
    exact h.roles
  balanced := by
    simp only [plotImbalance, ← (hperm.map Prod.fst).countP_eq]
    exact h.balanced

/-- The blocks and the catalogs may be reordered together. -/
theorem validateBlockPool_perm (hblocks : blocks'.length = blocks.length)
    (hcatalogs : catalogs'.length = catalogs.length)
    (hperm : (blocks.zip catalogs).Perm (blocks'.zip catalogs')) :
    validateBlockPool conv sha256 blocks catalogs registry expected = [] ↔
      validateBlockPool conv sha256 blocks' catalogs' registry expected = [] := by
  rw [validateBlockPool_eq_nil, validateBlockPool_eq_nil, hblocks, hcatalogs]
  exact and_congr_right' ⟨fun h => h.perm hperm, fun h => h.perm hperm.symm⟩

/-! ### A pool of the size of a plan -/

theorem Sized.expectedTotal {counts : ProspectiveCounts} {roles : RoleCounts}
    (h : Sized counts roles)
    {total : UInt64} (htotal : Orchestration.expectedTotal roles = some total) :
    total = counts.rtotal := by
  refine UInt64.toNat_inj.mp ?_
  rw [expectedTotal_some htotal, h.trainRole, h.validationRole, h.supplemental, h.rtotal]
  omega

theorem sizedPool_of_accepted {counts : ProspectiveCounts} {roles : RoleCounts}
    (hsized : Sized counts roles)
    (h : validateBlockPool conv sha256 blocks catalogs registry roles = []) :
    SizedPool conv sha256 registry blocks catalogs counts := by
  obtain ⟨hcatalogs, ⟨total, htotal, hlength⟩, hvalid, hsound, ⟨htrain, hval, hsupp⟩, hbalanced⟩ :=
    validateBlockPool_eq_nil.mp h
  obtain rfl := hsized.expectedTotal htotal
  have hfirst : (blocks.zip catalogs).map Prod.fst = blocks := map_fst_zip (by omega)
  have hsecond : (blocks.zip catalogs).map Prod.snd = catalogs := map_snd_zip (by omega)
  have hblocks : blocks.length = counts.rtotal.toNat := by rw [← hlength, ← hfirst, length_map,
    hfirst]
  have hsupplemental : roles.h1h2Supplemental.toNat =
      counts.rtotal.toNat - (counts.rtrain.toNat + counts.rval.toNat) := by
    rw [hsized.supplemental, hsized.rtotal]
    omega
  have hrtotal := hsized.rtotal
  rw [hfirst, hsized.trainRole] at htrain
  rw [hfirst, hsized.validationRole] at hval
  rw [hfirst, hsupplemental] at hsupp
  rw [hfirst] at hbalanced
  have hids := fresh_iff_nodup.mp hsound.ids
  have hordinals := fresh_iff_nodup.mp hsound.ordinals
  have hsubspaces := fresh_iff_nodup.mp hsound.subspaces
  have hseeds := fresh_iff_nodup.mp hsound.seeds
  exact
    { total := ⟨hblocks, hcatalogs.trans hblocks⟩
      training := htrain
      validation := hval
      supplemental := hsupp
      split := by
        rw [htrain, hval, hsupp, hblocks]
        omega
      runs := hsized.nruns
      ids := by
        rw [← hfirst, map_map]
        exact hids
      ordinals := by
        rw [← hfirst, map_map]
        exact hordinals
      subspaces := by
        rw [← hsecond, map_map]
        exact hsubspaces
      seeds := by
        rw [← hsecond, flatMap_map]
        exact hseeds
      factorial := by
        intro block hblock
        rw [← hfirst] at hblock
        obtain ⟨member, hmember, rfl⟩ := List.mem_map.mp hblock
        exact validBlock_factorial (hvalid member hmember)
      valid := hvalid
      balanced := plotImbalance_le_one.mp hbalanced }

variable (conv sha256 registry) in
/-- **A pool accepted with the role counts of a resolved plan is the pool that was planned**, in
whatever order its blocks and catalogs are. -/
theorem resolved_pool_sized {input : PrecisionPlanInput} {result : PrecisionResult}
    (h : evaluatePrecisionPlan input = .ok result) (hstate : result.state = .resolved) :
    ∃ counts roles, result.counts = some counts ∧ result.roleCounts = some roles ∧
      ∀ blocks catalogs,
        (validateBlockPool conv sha256 blocks catalogs registry roles = [] →
          SizedPool conv sha256 registry blocks catalogs counts) ∧
        ∀ blocks' catalogs', blocks'.length = blocks.length → catalogs'.length = catalogs.length →
          (blocks.zip catalogs).Perm (blocks'.zip catalogs') →
          (validateBlockPool conv sha256 blocks catalogs registry roles = [] ↔
            validateBlockPool conv sha256 blocks' catalogs' registry roles = []) := by
  obtain ⟨counts, evidence, roles, -, -, hsized, rfl⟩ :=
    evaluatePrecisionPlan_resolved.mp ⟨h, hstate⟩
  refine ⟨counts, roles, rfl, rfl, fun blocks catalogs => ⟨?_, ?_⟩⟩
  · exact sizedPool_of_accepted hsized
  · intro blocks' catalogs' hblocks hcatalogs hperm
    exact validateBlockPool_perm hblocks hcatalogs hperm

end Pool

/-! ### A pool to evaluate on -/

/-- The training blocks come first, then those of the validation. -/
def poolRole (number : Nat) : BlockRole := if number < 12 then .h3Train else .h3Validation

def poolSeed (number index : Nat) : SeedId :=
  ⟨[65 + .ofNat number, 97 + .ofNat index], cons_ne_nil _ _⟩

def poolInput (number : Nat) : BlockGenerationInput where
  platformId := named _ "platform"
  buildId := named _ "build"
  role := poolRole number
  blockOrdinal := .ofNat number
  seeds :=
    { sampleCatalog number number with
      role := poolRole number
      roleNamespaceId := if number < 12 then named _ "training" else named _ "validation"
      arrivalSeedIds := (List.range' 0 18).map (poolSeed number)
      nodeSeedIds := (List.range' 18 6).map (poolSeed number)
      eventSeedIds := (List.range' 24 6).map (poolSeed number) }
  replacement := none

theorem poolInput_encoded {number : Nat} (h : number < 20) : EncodedInput (poolInput number) where
  platform := (sampleInput_encoded number number none).platform
  build := (sampleInput_encoded number number none).build
  subspace := (sampleInput_encoded number number none).subspace
  seeds := by
    have hascii : ∀ number < 20, ((poolInput number).seeds.seeds.all fun seed =>
        seed.value.all fun byte => byte < 0x80) = true := by
      decide +kernel
    intro seed hseed
    exact Json.isUtf8_ascii (List.all_eq_true.mp (hascii number h) seed hseed)
  replacement := fun _ hnone => nomatch hnone

/-- Each block of the pool can be planned, with its whole plots as they are dealt. -/
theorem exists_poolPlan {number : Nat} (h : number < 20) : ∃ plan : BlockPlan,
    validateBlockPlan noNumbers firstBytes plan (poolInput number).seeds sampleNamespaces = [] ∧
      plan.blockId = sampleBlockId number ∧ plan.blockOrdinal = .ofNat number ∧
      plan.blockRole = poolRole number ∧ plan.wholePlotOrder = samplePlots number := by
  have hplots : samplePlots number = (.h0, .h1) ∨ samplePlots number = (.h1, .h0) := by
    rw [samplePlots]
    split
    · exact Or.inl rfl
    · exact Or.inr rfl
  have hcatalogs : ∀ number < 20,
      validateSeedCatalog (poolInput number).seeds sampleNamespaces = [] := by
    decide +kernel
  have hids : ∀ number < 20, (makeBlockId noNumbers firstBytes (poolInput number).platformId
      (poolInput number).buildId (poolInput number).role (poolInput number).blockOrdinal).toOption =
        some (sampleBlockId number) := by
    decide +kernel
  obtain ⟨cells, hcells⟩ := Option.isSome_iff_exists.mp
    (plannedCells_isSome (hcatalogs number h) (samplePlots number) (List.Perm.refl _)
      (List.Perm.refl _))
  obtain ⟨canonical, -, hvalid⟩ := planOf_planned (poolInput number) hcells hplots
    (List.Perm.refl _) (List.Perm.refl _) (hcatalogs number h) rfl
    (Fallible.of_toOption (hids number h)) (poolInput_encoded h) fun _ => rfl
  exact ⟨_, hvalid, rfl, rfl, rfl, rfl⟩

def poolCounts : ProspectiveCounts := ⟨20, 20, 20, 12, 8, 20, 3600⟩

def poolRoles : RoleCounts := ⟨12, 8, 0⟩

/-- The evidence behind those counts, each part by its own name. -/
def poolEvidence : ProspectivePrecisionEvidence where
  deltaStar := artifactNamed "delta"
  bootstrapConfiguration := artifactNamed "bootstrap"
  h1Sizing := artifactNamed "h1"
  h2Sizing := artifactNamed "h2"
  h3TrainingSizing := artifactNamed "training"
  h3ValidationSizing := artifactNamed "validation"
  inputArtifacts := [⟨artifactNamed "pilot", .treatmentBlind⟩]

theorem poolEvidence_blind : BlindEvidence poolEvidence where
  valid := by decide
  distinct := by decide
  sources := by decide
  blind := by decide

theorem poolCounts_sized : Sized poolCounts poolRoles := by
  constructor <;> decide

/-- Twenty blocks that share nothing are accepted. -/
theorem exists_acceptedPool : ∃ blocks catalogs,
    validateBlockPool noNumbers firstBytes blocks catalogs sampleNamespaces poolRoles = [] := by
  have hnonempty : Nonempty BlockPlan := ⟨samplePlan 1 none⟩
  choose! plan hvalid hid hordinal hrole hplots using fun number => @exists_poolPlan number
  let members := (List.range 20).map fun number => (plan number, (poolInput number).seeds)
  have hall : ∀ {P : BlockPlan × BlockSeedCatalog → Prop},
      (∀ number < 20, P (plan number, (poolInput number).seeds)) →
        ∀ member ∈ members, P member := by
    intro P hP member hmember
    obtain ⟨number, hnumber, rfl⟩ := List.mem_map.mp hmember
    exact hP number (List.mem_range.mp hnumber)
  -- what is read of the blocks is read of their numbers
  have hread : ∀ {A : Type} {f : BlockPlan × BlockSeedCatalog → A} {g : Nat → A},
      (∀ number < 20, f (plan number, (poolInput number).seeds) = g number) →
      members.map f = (List.range 20).map g := by
    intro A f g hfg
    rw [map_map]
    exact map_congr_left fun number hnumber => hfg number (List.mem_range.mp hnumber)
  have hroles : (members.map Prod.fst).map BlockPlan.blockRole = (List.range 20).map poolRole := by
    rw [map_map]
    exact hread hrole
  have horders : (members.map Prod.fst).map BlockPlan.wholePlotOrder =
      (List.range 20).map samplePlots := by
    rw [map_map]
    exact hread hplots
  have hcount : ∀ role, roleCount (members.map Prod.fst) role =
      ((List.range 20).map poolRole).countP fun other => other = role := by
    intro role
    rw [← hroles, countP_map]
    rfl
  have himbalance : plotImbalance (members.map Prod.fst) ≤ 1 := by
    have hfirst : ∀ state, (members.map Prod.fst).countP (fun block =>
        block.wholePlotOrder.1 = state) =
          ((List.range 20).map samplePlots).countP fun plots => plots.1 = state := by
      intro state
      rw [← horders, countP_map]
      rfl
    simp only [plotImbalance, hfirst]
    decide
  refine ⟨members.map Prod.fst, members.map Prod.snd, validateBlockPool_eq_nil.mpr ⟨by simp, ?_⟩⟩
  rw [zip_map', map_id']
  refine
    { total := ⟨20, by decide, by simp [members]⟩
      valid := hall hvalid
      sound :=
        { ids := ?_
          ordinals := ?_
          subspaces := ?_
          seeds := ?_ }
      roles := ?_
      balanced := himbalance }
  · rw [hread hid, fresh_iff_nodup]
    decide +kernel
  · rw [hread hordinal, fresh_iff_nodup]
    decide +kernel
  · rw [hread (g := fun number => (poolInput number).seeds.blockSubspaceId) fun _ _ => rfl,
      fresh_iff_nodup]
    decide +kernel
  · have hnodup : ∀ number < 20, ((poolInput number).seeds.seeds).Nodup := by
      decide +kernel
    have hmarked : ∀ number < 20, ((poolInput number).seeds.seeds.all fun seed =>
        seed.value.head? = some (65 + .ofNat number)) = true := by
      decide +kernel
    have hapart : (List.range 20).Pairwise fun number other =>
        some ((65 : UInt8) + .ofNat number) ≠ some (65 + .ofNat other) := by
      decide +kernel
    rw [fresh_iff_nodup, flatMap_map, nodup_flatMap]
    refine ⟨fun number hnumber => hnodup number (List.mem_range.mp hnumber), ?_⟩
    refine hapart.imp_of_mem ?_
    intro number other hnumber hother hne seed hseed hseed'
    have hhead := List.all_eq_true.mp (hmarked number (List.mem_range.mp hnumber)) seed hseed
    have hhead' := List.all_eq_true.mp (hmarked other (List.mem_range.mp hother)) seed hseed'
    rw [decide_eq_true_eq] at hhead hhead'
    exact hne (hhead.symm.trans hhead')
  · simp only [hcount]
    decide

/-- The plan of twenty blocks, and a pool that is accepted as its size. -/
theorem resolved_pool_sized_twenty : ∃ blocks catalogs,
    validateBlockPool noNumbers firstBytes blocks catalogs sampleNamespaces poolRoles = [] ∧
      SizedPool noNumbers firstBytes sampleNamespaces blocks catalogs poolCounts := by
  obtain ⟨blocks, catalogs, haccepted⟩ := exists_acceptedPool
  obtain ⟨hplan, hstate⟩ := evaluatePrecisionPlan_resolved.mpr
    ⟨poolCounts, poolEvidence, poolRoles, rfl, poolEvidence_blind, poolCounts_sized, rfl⟩
  obtain ⟨counts, roles, hcounts, hroles, hpool⟩ :=
    resolved_pool_sized noNumbers firstBytes sampleNamespaces hplan hstate
  obtain rfl := Option.some.inj hcounts
  obtain rfl := Option.some.inj hroles
  exact ⟨blocks, catalogs, haccepted, (hpool blocks catalogs).1 haccepted⟩

end CpuPrefetch.Orchestration
