/-
Every request that can be written down is planned, and its plan is balanced.

A catalog that is accepted names a role of the study and has a seed for every context.
With names in UTF-8 nothing is left that could refuse the request, whatever was drawn.  The
contexts are numbered in mixed radix and the seeds of a catalog are all different, so two
cells have a seed in common exactly when they have its context in common.
-/
import CpuPrefetch.Proofs.Orchestration.Replacements

namespace CpuPrefetch.Orchestration

open List Workload
open Protocol
open Protocol.Json (CharConv HasForm IsUtf8 Object Value)

/-! ### The numbers of the contexts -/

variable {index : Nat} {placement placement' : Placement}

theorem placementIndex_inj (h : placementIndex placement = some index)
    (h' : placementIndex placement' = some index) : placement = placement' := by
  cases placement <;> cases placement' <;> simp_all [placementIndex] <;> omega

variable {workingSet workingSet' : WorkingSetClass}

theorem workingSetIndex_inj (h : workingSetIndex workingSet = some index)
    (h' : workingSetIndex workingSet' = some index) : workingSet = workingSet' := by
  cases workingSet <;> cases workingSet' <;> simp_all [workingSetIndex] <;> omega

variable {load : LoadLevel}

theorem loadIndex_inj {load' : LoadLevel} (h : loadIndex load = some index)
    (h' : loadIndex load' = some index) : load = load' := by
  cases load <;> cases load' <;> simp_all [loadIndex] <;> omega

theorem workingSetIndex_lt (h : workingSetIndex workingSet = some index) : index < 3 := by
  cases workingSet <;> simp_all [workingSetIndex] <;> omega

theorem loadIndex_lt (h : loadIndex load = some index) : index < 3 := by
  cases load <;> simp_all [loadIndex] <;> omega

theorem arenaIndex_inj (h : arenaIndex placement workingSet = some index)
    (h' : arenaIndex placement' workingSet' = some index) :
    placement = placement' ∧ workingSet = workingSet' := by
  simp only [arenaIndex, Option.bind_eq_bind, Option.bind_eq_some_iff, Option.some.injEq] at h h'
  obtain ⟨row, hrow, column, hcolumn, rfl⟩ := h
  obtain ⟨row', hrow', column', hcolumn', hsame⟩ := h'
  have hlt := workingSetIndex_lt hcolumn
  have hlt' := workingSetIndex_lt hcolumn'
  obtain rfl : row' = row := by omega
  obtain rfl : column' = column := by omega
  exact ⟨placementIndex_inj hrow hrow', workingSetIndex_inj hcolumn hcolumn'⟩

theorem arrivalIndex_inj {load' : LoadLevel}
    (h : arrivalIndex placement workingSet load = some index)
    (h' : arrivalIndex placement' workingSet' load' = some index) :
    placement = placement' ∧ workingSet = workingSet' ∧ load = load' := by
  simp only [arrivalIndex, Option.bind_eq_bind, Option.bind_eq_some_iff, Option.some.injEq] at h h'
  obtain ⟨arena, harena, level, hlevel, rfl⟩ := h
  obtain ⟨arena', harena', level', hlevel', hsame⟩ := h'
  have hlt := loadIndex_lt hlevel
  have hlt' := loadIndex_lt hlevel'
  obtain rfl : arena' = arena := by omega
  obtain rfl : level' = level := by omega
  obtain ⟨hplacement, hworkingSet⟩ := arenaIndex_inj harena harena'
  exact ⟨hplacement, hworkingSet, loadIndex_inj hlevel hlevel'⟩

/-! ### The seeds of a cell -/

/-- The context whose cells share their event and node seeds. -/
def arenaContext (cell : StageACell) : Placement × WorkingSetClass :=
  (cell.placement, cell.workingSetClass)

/-- The context whose cells share their arrival seed. -/
def arrivalContext (cell : StageACell) : Placement × WorkingSetClass × LoadLevel :=
  (cell.placement, cell.workingSetClass, cell.loadLevel)

/-- The seeds of the cell stand at the numbers of its contexts. -/
structure SeededAt (seeds : BlockSeedCatalog) (cell : StageACell) (arrival arena : Nat) : Prop where
  arrivalIndex : arrivalIndex cell.placement cell.workingSetClass cell.loadLevel = some arrival
  arenaIndex : arenaIndex cell.placement cell.workingSetClass = some arena
  arrivalSeed : seeds.arrivalSeedIds[arrival]? = some cell.arrivalSeedRef
  eventSeed : seeds.eventSeedIds[arena]? = some cell.eventSeedRef
  nodeSeed : ∀ node, cell.nodeSeedRef = some node → seeds.nodeSeedIds[arena]? = some node
  linked : cell.nodeSeedRef.isSome = linked cell.package

/-- Cells share a seed exactly when they share its context. -/
structure SharedSeeds (cells : List StageACell) : Prop where
  arrival : ∀ cell ∈ cells, ∀ other ∈ cells,
    cell.arrivalSeedRef = other.arrivalSeedRef ↔ arrivalContext cell = arrivalContext other
  event : ∀ cell ∈ cells, ∀ other ∈ cells,
    cell.eventSeedRef = other.eventSeedRef ↔ arenaContext cell = arenaContext other
  node : ∀ cell ∈ cells, ∀ other ∈ cells, linked cell.package = true →
    linked other.package = true →
    (cell.nodeSeedRef = other.nodeSeedRef ↔ arenaContext cell = arenaContext other)
  linked : ∀ cell ∈ cells, cell.nodeSeedRef.isSome = linked cell.package
  /-- No seed is used for two purposes. -/
  apart : ∀ cell ∈ cells, ∀ other ∈ cells, cell.arrivalSeedRef ≠ other.eventSeedRef ∧
    cell.nodeSeedRef ≠ some other.arrivalSeedRef ∧ cell.nodeSeedRef ≠ some other.eventSeedRef

section Seeds

variable {seeds : BlockSeedCatalog} {cell other : StageACell} {cells : List StageACell}

theorem seededAt_of_clean (h : seedErrors seeds index cell = []) :
    ∃ arrival arena, SeededAt seeds cell arrival arena := by
  rw [seedErrors] at h
  split at h
  · rename_i arrival arena harrival harena
    split at h
    · cases h
    · rw [require_eq_nil, seedSharing] at h
      simp only [Bool.and_eq_true, decide_eq_true_eq] at h
      obtain ⟨⟨harrivalSeed, heventSeed⟩, hnode⟩ := h
      refine ⟨arrival, arena, harrival, harena, harrivalSeed, heventSeed, ?_, ?_⟩
      · intro node hsome
        split at hnode
        · simp only [Bool.and_eq_true, decide_eq_true_eq] at hnode
          rw [hnode.2, hsome]
        · rw [hsome] at hnode
          cases hnode
      · split at hnode
        · rename_i hlinked
          simp only [Bool.and_eq_true, decide_eq_true_eq] at hnode
          rw [hnode.1, hlinked]
        · rename_i hring
          rw [Bool.not_eq_true] at hring
          rw [hring]
          simpa using hnode
  · cases h

/-- Seeds of one domain are the same exactly when their numbers are. -/
theorem seed_eq_iff {domain : List SeedId} {index' : Nat} {seed seed' : SeedId}
    (hnodup : domain.Nodup) (h : domain[index]? = some seed) (h' : domain[index']? = some seed') :
    seed = seed' ↔ index = index' := by
  constructor
  · rintro rfl
    have hin := (List.getElem?_eq_some_iff.mp h).1
    exact (getElem?_inj hin hnodup).mp (h.trans h'.symm)
  · rintro rfl
    exact Option.some.inj (h.symm.trans h')

variable {arrival arrival' arena arena' : Nat}

theorem SeededAt.arrival_eq_iff (h : SeededAt seeds cell arrival arena)
    (h' : SeededAt seeds other arrival' arena') :
    arrival = arrival' ↔ arrivalContext cell = arrivalContext other := by
  constructor
  · rintro rfl
    obtain ⟨hplacement, hworkingSet, hload⟩ := arrivalIndex_inj h.arrivalIndex h'.arrivalIndex
    rw [arrivalContext, arrivalContext, hplacement, hworkingSet, hload]
  · intro hsame
    simp only [arrivalContext, Prod.mk.injEq] at hsame
    have hindex := h.arrivalIndex
    rw [hsame.1, hsame.2.1, hsame.2.2, h'.arrivalIndex] at hindex
    exact (Option.some.inj hindex).symm

theorem SeededAt.arena_eq_iff (h : SeededAt seeds cell arrival arena)
    (h' : SeededAt seeds other arrival' arena') :
    arena = arena' ↔ arenaContext cell = arenaContext other := by
  constructor
  · rintro rfl
    obtain ⟨hplacement, hworkingSet⟩ := arenaIndex_inj h.arenaIndex h'.arenaIndex
    rw [arenaContext, arenaContext, hplacement, hworkingSet]
  · intro hsame
    simp only [arenaContext, Prod.mk.injEq] at hsame
    have hindex := h.arenaIndex
    rw [hsame.1, hsame.2, h'.arenaIndex] at hindex
    exact (Option.some.inj hindex).symm

theorem sharedSeeds_of_seededAt (hnodup : seeds.seeds.Nodup)
    (h : ∀ cell ∈ cells, ∃ arrival arena, SeededAt seeds cell arrival arena) :
    SharedSeeds cells := by
  obtain ⟨hproducers, hevents, hapart⟩ := List.nodup_append.mp hnodup
  obtain ⟨harrivals, hnodes, hdomains⟩ := List.nodup_append.mp hproducers
  refine ⟨?_, ?_, ?_, ?_, ?_⟩
  · intro cell hcell other hother
    obtain ⟨arrival, arena, hat⟩ := h cell hcell
    obtain ⟨arrival', arena', hat'⟩ := h other hother
    rw [seed_eq_iff harrivals hat.arrivalSeed hat'.arrivalSeed, hat.arrival_eq_iff hat']
  · intro cell hcell other hother
    obtain ⟨arrival, arena, hat⟩ := h cell hcell
    obtain ⟨arrival', arena', hat'⟩ := h other hother
    rw [seed_eq_iff hevents hat.eventSeed hat'.eventSeed, hat.arena_eq_iff hat']
  · intro cell hcell other hother hlinked hlinked'
    obtain ⟨arrival, arena, hat⟩ := h cell hcell
    obtain ⟨arrival', arena', hat'⟩ := h other hother
    obtain ⟨node, hnode⟩ := Option.isSome_iff_exists.mp (hat.linked.trans hlinked)
    obtain ⟨node', hnode'⟩ := Option.isSome_iff_exists.mp (hat'.linked.trans hlinked')
    rw [hnode, hnode', Option.some.injEq,
      seed_eq_iff hnodes (hat.nodeSeed node hnode) (hat'.nodeSeed node' hnode'),
      hat.arena_eq_iff hat']
  · intro cell hcell
    obtain ⟨arrival, arena, hat⟩ := h cell hcell
    exact hat.linked
  · intro cell hcell other hother
    obtain ⟨arrival, arena, hat⟩ := h cell hcell
    obtain ⟨arrival', arena', hat'⟩ := h other hother
    have harrival := mem_of_getElem? hat.arrivalSeed
    have harrival' := mem_of_getElem? hat'.arrivalSeed
    have hevent' := mem_of_getElem? hat'.eventSeed
    refine ⟨hapart _ (mem_append_left _ harrival) _ hevent', ?_, ?_⟩
    · intro hnode
      have hmem := mem_of_getElem? (hat.nodeSeed _ hnode)
      exact hdomains _ harrival' _ hmem rfl
    · intro hnode
      have hmem := mem_of_getElem? (hat.nodeSeed _ hnode)
      exact hapart _ (mem_append_right _ hmem) _ hevent' rfl

end Seeds

/-! ### A request that is let through -/

section Admitted

variable {registry : RoleNamespaceRegistry}

theorem binding_clean {audit : NamespaceAudit} {binding : RoleNamespaceBinding}
    (h : (audit.binding registry binding index).errors = []) :
    audit.errors = [] ∧ binding.role ≠ .notApplicable := by
  simp only [NamespaceAudit.binding, append_eq_nil_iff, require_eq_nil] at h
  obtain ⟨⟨herrors, hchild⟩, -⟩ := h
  refine ⟨herrors, ?_⟩
  intro hrole
  rw [hrole] at hchild
  simp [roleName] at hchild

/-- Every binding of a registry that is accepted is that of a role of the study. -/
theorem bindings_clean {bindings : List (RoleNamespaceBinding × Nat)} {audit : NamespaceAudit}
    (h : (bindings.foldl (fun audit binding => audit.binding registry binding.1 binding.2)
      audit).errors = []) :
    audit.errors = [] ∧ ∀ binding ∈ bindings, binding.1.role ≠ .notApplicable := by
  induction bindings generalizing audit with
  | nil => exact ⟨h, forall_mem_nil _⟩
  | cons binding rest ih =>
      obtain ⟨hfirst, hrest⟩ := ih h
      obtain ⟨haudit, hrole⟩ := binding_clean hfirst
      exact ⟨haudit, List.forall_mem_cons.mpr ⟨hrole, hrest⟩⟩

theorem role_applicable {seeds : BlockSeedCatalog} (h : validateSeedCatalog seeds registry = []) :
    seeds.role ≠ .notApplicable := by
  simp only [validateSeedCatalog, validateRoleNamespaces, append_eq_nil_iff, require_eq_nil,
    Bool.and_eq_true] at h
  obtain ⟨⟨⟨⟨⟨⟨⟨⟨⟨-, hbindings⟩, -⟩, -⟩, hsubspace⟩, -⟩, -⟩, -⟩, -⟩, -⟩ := h
  obtain ⟨⟨⟨hbound, -⟩, -⟩, -⟩ := hsubspace
  obtain ⟨binding, hfound, -⟩ := Option.any_eq_true _ _ |>.mp hbound
  rw [findBinding] at hfound
  have hrole : binding.role = seeds.role := by simpa using find?_some hfound
  have hmem := mem_of_find?_eq_some hfound
  obtain ⟨-, hroles⟩ := bindings_clean hbindings
  obtain ⟨index, hindex⟩ := mem_iff_getElem?.mp hmem
  rw [← hrole]
  exact hroles (binding, index) (mem_zipIdx_iff_getElem?.mpr hindex)

variable {conv : CharConv} {sha256 : Text → Sha256}

/-- An identity is made of any names in UTF-8 that are opaque. -/
theorem makeBlockId_isOk {platformId : PlatformId} {buildId : BuildId} {role : BlockRole}
    (ordinal : UInt64) (hplatform : isOpaque platformId.value = true)
    (hbuild : isOpaque buildId.value = true) (hrole : role ≠ .notApplicable)
    (hutf8 : IsUtf8 platformId.value ∧ IsUtf8 buildId.value) :
    ∃ blockId, makeBlockId conv sha256 platformId buildId role ordinal = .ok blockId := by
  have hform : HasForm conv (identityDocument platformId buildId role ordinal) := by
    rw [identityDocument, Json.hasForm_of]
    · simp only [map_cons, map_nil, forall_mem_cons]
      exact ⟨hasForm_uint _, hasForm_text (roleName_ascii _), Json.hasForm_string.mpr hutf8.2,
        Json.hasForm_string.mpr hutf8.1, Json.hasForm_string.mpr (Json.isUtf8_ascii (by decide)),
        hasForm_text (by decide), forall_mem_nil _⟩
    · show ([ascii "block_ordinal", ascii "block_role", ascii "build_id", ascii "platform_id",
        ascii "protocol_version", ascii "stage"] : List Text).Nodup
      decide
    · show ([ascii "block_ordinal", ascii "block_role", ascii "build_id", ascii "platform_id",
        ascii "protocol_version", ascii "stage"].all _) = true
      decide
  have hname : (roleName role).isEmpty = false := by
    cases role with
    | notApplicable => exact absurd rfl hrole
    | _ => rfl
  obtain ⟨canonical, hcanonical⟩ := hform
  have hprefix : ascii "stage-a-block-" ++ (sha256 canonical).hex ≠ [] :=
    append_ne_nil_of_left_ne_nil (by decide) _
  refine ⟨⟨ascii "stage-a-block-" ++ (sha256 canonical).hex, hprefix⟩, ?_⟩
  simp only [makeBlockId, hplatform, hbuild, hname, Bool.not_true, Bool.or_self,
    Bool.false_eq_true, if_false, hcanonical, bind, Except.bind, Load.parseIdentifier]
  rw [dif_neg hprefix]

/-- A request for an original block, with opaque names in UTF-8, is let through. -/
theorem admittedBlockId_isOk {input : BlockGenerationInput}
    (hcatalog : validateSeedCatalog input.seeds registry = [])
    (hrole : input.role = input.seeds.role)
    (hnames : isOpaque input.platformId.value = true ∧ isOpaque input.buildId.value = true)
    (hencoded : EncodedInput input) (horiginal : input.replacement = none) :
    ∃ blockId, admittedBlockId conv sha256 input registry = .ok blockId := by
  have happlicable : input.role ≠ .notApplicable := hrole ▸ role_applicable hcatalog
  obtain ⟨blockId, hid⟩ := @makeBlockId_isOk conv sha256 input.platformId input.buildId input.role
    input.blockOrdinal hnames.1 hnames.2 happlicable ⟨hencoded.platform, hencoded.build⟩
  refine ⟨blockId, ?_⟩
  simp only [admittedBlockId, hcatalog, hnames.2, horiginal, hid, bind, Except.bind, ne_eq,
    not_true_eq_false, if_false, Option.any_none, Bool.not_true, Bool.or_false, decide_eq_true_eq]
  rw [if_neg (not_not.mpr hrole)]
  rfl

end Admitted

/-! ### The plan -/

/-- A whole plot: once through the base, in the order that was dealt, under one state. -/
structure WholePlot (plotState : RequestedHardwareState) (order : List Nat)
    (cells : List StageACell) : Prop where
  state : ∀ cell ∈ cells, cell.requestedHardwareState = plotState
  dealt : cells.map (fun cell => some (withinKey cell)) =
    order.map fun selected => withinPlotBase[selected]?
  full : (cells.map withinKey).Perm withinPlotBase

/-- The registered product, in two whole plots with matched seeds. -/
structure BalancedPlan (h0Order h1Order : List Nat) (plan : BlockPlan) : Prop where
  ordinals : plan.cells.map (fun cell => cell.cellOrdinal.toNat) = List.range 180
  product : (plan.cells.map StageACell.key).Perm expectedStageACells
  bothStates : plan.wholePlotOrder = (.h0, .h1) ∨ plan.wholePlotOrder = (.h1, .h0)
  first : WholePlot plan.wholePlotOrder.1 (dealt h0Order h1Order plan.wholePlotOrder.1)
    (plan.cells.take 90)
  second : WholePlot plan.wholePlotOrder.2 (dealt h0Order h1Order plan.wholePlotOrder.2)
    (plan.cells.drop 90)
  seeds : SharedSeeds plan.cells

section Plan

variable {conv : CharConv} {sha256 : Text → Sha256} {registry : RoleNamespaceRegistry}
  {input : BlockGenerationInput} {plots : RequestedHardwareState × RequestedHardwareState}
  {h0Order h1Order : List Nat} {front back : List StageACell} {plan : BlockPlan}

theorem Realizes.wholePlot {seeds : BlockSeedCatalog} {state : RequestedHardwareState}
    {order : List Nat} {start : Nat} {cells : List StageACell}
    (h : Realizes seeds state order start cells) (horder : order.Perm (List.range 90)) :
    WholePlot state order cells :=
  ⟨fun _ hcell => (h.clean hcell).1, h.selections, h.levels horder⟩

theorem TwoPlots.balanced
    (h : TwoPlots input.seeds plan.wholePlotOrder h0Order h1Order front back)
    (hcells : plan.cells = front ++ back) (hnodup : input.seeds.seeds.Nodup) :
    BalancedPlan h0Order h1Order plan := by
  have hfirst : plan.cells.take 90 = front := by rw [hcells, ← h.lengths.1, take_left]
  have hsecond : plan.cells.drop 90 = back := by rw [hcells, ← h.lengths.1, drop_left]
  have hseeded : ∀ cell ∈ plan.cells, ∃ arrival arena, SeededAt input.seeds cell arrival arena := by
    intro cell hcell
    rw [hcells] at hcell
    exact seededAt_of_clean ((h.clean hcell).1 0)
  refine
    { ordinals := by rw [hcells, h.places]
      product := ?_
      bothStates := h.bothStates
      first := by rw [hfirst]; exact h.first.wholePlot (dealt_perm h.h0 h.h1 _)
      second := by rw [hsecond]; exact h.second.wholePlot (dealt_perm h.h0 h.h1 _)
      seeds := sharedSeeds_of_seededAt hnodup hseeded }
  -- every registered tuple is there, and there are no more cells than that
  have hsubperm := subperm_of_subset expectedStageACells_nodup h.registered
  have hlength : ((front ++ back).map StageACell.key).length ≤ expectedStageACells.length := by
    rw [length_map, h.length]
    rfl
  rw [hcells]
  exact (hsubperm.perm_of_length_le hlength).symm

/-- A plan was written down, so its subspace can be. -/
theorem Generated.subspace (h : Generated conv sha256 registry input plan) :
    IsUtf8 input.seeds.blockSubspaceId.value := by
  obtain ⟨⟨blockId, plots, cells, digest, -, rfl⟩, hvalid⟩ := h
  simp only [validateBlockPlan, append_eq_nil_iff, require_eq_nil] at hvalid
  obtain ⟨⟨⟨⟨⟨-, hhash⟩, -⟩, -⟩, -⟩, -⟩ := hvalid
  have hform : HasForm conv (blockDocument input blockId plots cells zeroSelf) := by
    rw [verifyPlanHash, planOf, decide_eq_true_eq, blockDocument_eq, zeroSelfDigest] at hhash
    simp only [assign_planHash] at hhash
    split at hhash
    · cases hhash
    · split at hhash
      · rename_i canonical hcanonical
        exact ⟨canonical, hcanonical⟩
      · cases hhash
  rw [blockDocument_eq, Json.hasForm_of (blockMembers_nodup _ _ _ _ _) (by
    rw [blockMembers_keys]; decide)] at hform
  refine Json.hasForm_string.mp (hform (.string input.seeds.blockSubspaceId.value) ?_)
  simp [blockMembers]

/-- **Block generation satisfies its own validator.**

A request for an original block whose catalog is accepted and whose names are opaque and in
UTF-8 is planned whatever the keys draw, and the plan is valid and balanced. -/
theorem generated_plan_balanced {permutation : List Nat}
    (hcatalog : validateSeedCatalog input.seeds registry = [])
    (hrole : input.role = input.seeds.role)
    (hnames : isOpaque input.platformId.value = true ∧ isOpaque input.buildId.value = true)
    (hencoded : EncodedInput input) (horiginal : input.replacement = none)
    (hplots : makePermutation 2 (draw input.seeds.wholePlotKey) = .ok permutation)
    (h0 : makePermutation 90 (draw input.seeds.h0CellOrderKey) = .ok h0Order)
    (h1 : makePermutation 90 (draw input.seeds.h1CellOrderKey) = .ok h1Order) :
    ∃ generated, generateBlockPlan conv sha256 input registry = .ok (.ok generated) ∧
      wholePlotsOf permutation = some generated.plan.wholePlotOrder ∧
      validateBlockPlan conv sha256 generated.plan input.seeds registry = [] ∧
      BalancedPlan h0Order h1Order generated.plan := by
  obtain ⟨blockId, hadmitted⟩ := @admittedBlockId_isOk registry conv sha256 input hcatalog hrole
    hnames hencoded horiginal
  obtain ⟨plots, front, back, digest, canonical, hwhole, htwo, hgenerated⟩ :=
    generateBlockPlan_succeeds hadmitted hplots h0 h1 hencoded fun plots cells digest => by
      simp [replacementErrors, planOf, horiginal, require]
  refine ⟨_, hgenerated, hwhole, (generateBlockPlan_ok hgenerated).valid, ?_⟩
  exact @TwoPlots.balanced input h0Order h1Order front back
    (planOf input blockId plots (front ++ back) digest) htwo rfl
      (validateSeedCatalog_nodup hcatalog)

end Plan

theorem drawn_of_isOk {count : Nat} {draw : UInt64 → UInt64}
    (h : (makePermutation count draw).toOption.isSome = true) :
    ∃ permutation, makePermutation count draw = .ok permutation := by
  obtain ⟨permutation, hpermutation⟩ := Option.isSome_iff_exists.mp h
  exact ⟨permutation, Fallible.of_toOption hpermutation⟩

theorem sampleCatalog_draws :
    (∃ permutation, makePermutation 2 (draw (sampleCatalog 0 0).wholePlotKey) =
        .ok permutation) ∧
      (∃ h0Order, makePermutation 90 (draw (sampleCatalog 0 0).h0CellOrderKey) =
        .ok h0Order) ∧
      ∃ h1Order, makePermutation 90 (draw (sampleCatalog 0 0).h1CellOrderKey) =
        .ok h1Order :=
  ⟨drawn_of_isOk (by decide +kernel), drawn_of_isOk (by decide +kernel),
    drawn_of_isOk (by decide +kernel)⟩

theorem generated_plan_balanced_sample :
    ∃ h0Order h1Order generated,
      generateBlockPlan noNumbers firstBytes (sampleInput 0 0 none) sampleNamespaces =
        .ok (.ok generated) ∧
      BalancedPlan h0Order h1Order generated.plan := by
  obtain ⟨⟨_, hplots⟩, ⟨h0Order, h0⟩, ⟨h1Order, h1⟩⟩ := sampleCatalog_draws
  obtain ⟨generated, hgenerated, -, -, hbalanced⟩ := generated_plan_balanced
    (show validateSeedCatalog (sampleInput 0 0 none).seeds sampleNamespaces = [] by decide +kernel)
    rfl ⟨by decide, by decide⟩ (sampleInput_encoded 0 0 none) rfl hplots h0 h1
  exact ⟨h0Order, h1Order, generated, hgenerated, hbalanced⟩

/-- The request whose subspace is a byte that no UTF-8 text has. -/
def unencodedInput : BlockGenerationInput :=
  { sampleInput 0 0 none with
    seeds := { sampleCatalog 0 0 with blockSubspaceId := ⟨[0xFF], cons_ne_nil _ _⟩ } }

/-- A catalog is not checked for its encoding, and a plan with its names cannot be written. -/
theorem unencoded_subspace_refused :
    (validateSeedCatalog unencodedInput.seeds sampleNamespaces = [] ∧
      unencodedInput.role = unencodedInput.seeds.role ∧
      (isOpaque unencodedInput.platformId.value = true ∧
        isOpaque unencodedInput.buildId.value = true) ∧
      (IsUtf8 unencodedInput.platformId.value ∧ IsUtf8 unencodedInput.buildId.value) ∧
      unencodedInput.replacement = none) ∧
    ((∃ permutation, makePermutation 2 (draw unencodedInput.seeds.wholePlotKey) =
        .ok permutation) ∧
      (∃ h0Order, makePermutation 90 (draw unencodedInput.seeds.h0CellOrderKey) =
        .ok h0Order) ∧
      ∃ h1Order, makePermutation 90 (draw unencodedInput.seeds.h1CellOrderKey) =
        .ok h1Order) ∧
    ∀ generated, generateBlockPlan noNumbers firstBytes unencodedInput sampleNamespaces ≠
      .ok (.ok generated) := by
  have hencoded := sampleInput_encoded 0 0 none
  refine ⟨⟨by decide +kernel, rfl, ⟨by decide, by decide⟩, ⟨hencoded.platform, hencoded.build⟩,
    rfl⟩, sampleCatalog_draws, ?_⟩
  intro generated hgenerated
  obtain ⟨codePoints, hdecoded⟩ := (generateBlockPlan_ok hgenerated).subspace
  have hrefused : (Json.decodeUtf8 unencodedInput.seeds.blockSubspaceId.value).toOption = none := by
    decide
  rw [hdecoded] at hrefused
  cases hrefused

end CpuPrefetch.Orchestration
