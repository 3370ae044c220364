/-
A planned block is a valid block.

The cells of a plan are two whole plots, each of which goes once through the 90
combinations of the other factors, in the order it was dealt.  Every rule on a plan's cells
follows from that, whatever the two orders are.
-/
import CpuPrefetch.Lib.Keyed
import CpuPrefetch.Orchestration.BlockPlanning

namespace CpuPrefetch.Orchestration

open List
open Protocol
open Protocol.Json (CharConv)

/-! ### The registered product -/

theorem withinPlotBase_length : withinPlotBase.length = 90 := rfl

theorem withinPlotBase_nodup : withinPlotBase.Nodup := by decide

theorem expectedStageACells_nodup : expectedStageACells.Nodup := by decide +kernel

/-- The levels of a cell other than its hardware state. -/
def withinKey (cell : StageACell) : WithinPlotKey :=
  (cell.package, cell.placement, cell.workingSetClass, cell.loadLevel)

/-- The levels of a cell of the plot with this state. -/
def underState (state : RequestedHardwareState) (levels : WithinPlotKey) : CellKey :=
  (levels.1, state, levels.2.1, levels.2.2.1, levels.2.2.2)

theorem underState_injective (state : RequestedHardwareState) :
    Function.Injective (underState state) := by
  rintro ⟨p, pl, w, l⟩ ⟨p', pl', w', l'⟩ h
  simpa [underState] using h

theorem key_eq_underState (cell : StageACell) :
    cell.key = underState cell.requestedHardwareState (withinKey cell) := rfl

theorem mem_withinPlotBase {levels : WithinPlotKey} :
    levels ∈ withinPlotBase ↔ levels.1 ∈ packages ∧ levels.2.1 ∈ stageAPlacements ∧
      levels.2.2.1 ∈ stageAWorkingSets ∧ levels.2.2.2 ∈ stageALoads := by
  obtain ⟨package, placement, workingSet, load⟩ := levels
  simp only [withinPlotBase, mem_flatMap, mem_map, Prod.mk.injEq]
  constructor
  · rintro ⟨_, hp, _, hpl, _, hw, _, hl, rfl, rfl, rfl, rfl⟩
    exact ⟨hp, hpl, hw, hl⟩
  · rintro ⟨hp, hpl, hw, hl⟩
    exact ⟨_, hp, _, hpl, _, hw, _, hl, rfl, rfl, rfl, rfl⟩

theorem mem_expectedStageACells {key : CellKey} :
    key ∈ expectedStageACells ↔ ∃ state ∈ states, ∃ levels ∈ withinPlotBase,
      underState state levels = key := by
  obtain ⟨package, state, placement, workingSet, load⟩ := key
  simp only [expectedStageACells, mem_flatMap, mem_map, Prod.mk.injEq]
  constructor
  · rintro ⟨p, hp, s, hs, pl, hpl, w, hw, l, hl, hkey⟩
    exact ⟨s, hs, (p, pl, w, l), mem_withinPlotBase.mpr ⟨hp, hpl, hw, hl⟩, by
      simpa [underState] using hkey⟩
  · rintro ⟨s, hs, levels, hlevels, hkey⟩
    obtain ⟨hp, hpl, hw, hl⟩ := mem_withinPlotBase.mp hlevels
    simp only [underState, Prod.mk.injEq] at hkey
    exact ⟨_, hp, s, hs, _, hpl, _, hw, _, hl, hkey⟩

/-! ### One whole plot -/

/-- The cells realize the levels selected, one after another, under the state of their plot. -/
def Realizes (seeds : BlockSeedCatalog) (state : RequestedHardwareState) (order : List Nat)
    (start : Nat) (cells : List StageACell) : Prop :=
  List.Forall₂ (fun selected cell =>
    plannedCell seeds state (selected : Nat × Nat).1 selected.2 = some cell)
      (order.zipIdx start) cells

variable {A B : Type} {as : List A} {bs : List B} {cell : StageACell}

section Plot

variable {seeds : BlockSeedCatalog} {state : RequestedHardwareState} {order : List Nat}
  {start : Nat} {cells : List StageACell}

/-- What a planned cell is. -/
theorem plannedCell_some {selected ordinal : Nat}
    (h : plannedCell seeds state selected ordinal = some cell) :
    cell.cellOrdinal = .ofNat ordinal ∧ cell.requestedHardwareState = state ∧
      withinPlotBase[selected]? = some (withinKey cell) ∧
      (∀ index, seedErrors seeds index cell = []) ∧
      linked cell.package = cell.nodeSeedRef.isSome := by
  simp only [plannedCell, Option.bind_eq_bind, Option.bind_eq_some_iff, Option.some.injEq] at h
  obtain ⟨⟨package, placement, workingSet, load⟩, hlevels, arrival, harrival, arena, harena,
    arrivalSeed, harrivalSeed, nodeSeed, hnodeSeed, eventSeed, heventSeed, rfl⟩ := h
  refine ⟨rfl, rfl, hlevels, ?_, ?_⟩
  · intro index
    have hdomains : (arrival ≥ seeds.arrivalSeedIds.length || arena ≥ seeds.eventSeedIds.length ||
        arena ≥ seeds.nodeSeedIds.length) = false := by
      have harrivals := (List.getElem?_eq_some_iff.mp harrivalSeed).1
      have hevents := (List.getElem?_eq_some_iff.mp heventSeed).1
      have hnodes := (List.getElem?_eq_some_iff.mp hnodeSeed).1
      simp only [Bool.or_eq_false_iff, decide_eq_false_iff_not]
      omega
    have hsharing : ∀ linkedNode, linkedNode = linked package → seedSharing seeds
        ⟨.ofNat ordinal, package, state, placement, workingSet, load, arrivalSeed,
          if linkedNode then some nodeSeed else none, eventSeed⟩ arrival arena = true := by
      rintro _ rfl
      cases hlinked : linked package <;>
        simp [seedSharing, harrivalSeed, heventSeed, hnodeSeed, hlinked]
    simp only [seedErrors, harrival, harena, hdomains, Bool.false_eq_true, if_false, require_eq_nil]
    exact hsharing _ rfl
  · cases linked package <;> simp

/-- What is read of every planned cell is read of the selections. -/
theorem forall₂_map {C : Type} {R : A → B → Prop} {f : A → C} {g : B → C}
    (h : List.Forall₂ R as bs) (hread : ∀ a b, R a b → g b = f a) : bs.map g = as.map f := by
  induction h with
  | nil => rfl
  | cons hfirst _ ih => rw [map_cons, map_cons, ih, hread _ _ hfirst]

theorem forall₂_right {R : A → B → Prop} (h : List.Forall₂ R as bs) : ∀ b ∈ bs, ∃ a, R a b := by
  induction h with
  | nil => simp
  | cons hfirst _ ih =>
      intro b hb
      rcases List.mem_cons.mp hb with rfl | hrest
      · exact ⟨_, hfirst⟩
      · exact ih b hrest

theorem Realizes.each (h : Realizes seeds state order start cells) :
    ∀ cell ∈ cells, ∃ selected ordinal, plannedCell seeds state selected ordinal = some cell := by
  intro cell hcell
  obtain ⟨selected, hselected⟩ := forall₂_right h cell hcell
  exact ⟨selected.1, selected.2, hselected⟩

theorem Realizes.length (h : Realizes seeds state order start cells) :
    cells.length = order.length := by
  rw [← h.length_eq, length_zipIdx]

theorem Realizes.ordinals (h : Realizes seeds state order start cells) :
    cells.map StageACell.cellOrdinal = (List.range' start order.length).map UInt64.ofNat := by
  rw [forall₂_map h (f := fun selected => UInt64.ofNat selected.2)
    fun _ _ hcell => (plannedCell_some hcell).1, ← zipIdx_map_snd start order, map_map]
  rfl

/-- The cells have the levels that were selected, in that order. -/
theorem Realizes.selections (h : Realizes seeds state order start cells) :
    cells.map (fun cell => some (withinKey cell)) =
      order.map fun selected => withinPlotBase[selected]? := by
  rw [forall₂_map h (f := fun selected => withinPlotBase[selected.1]?)
    fun _ _ hcell => (plannedCell_some hcell).2.2.1.symm]
  conv_rhs => rw [← zipIdx_map_fst start order, map_map]
  rfl

theorem Realizes.levels (h : Realizes seeds state order start cells)
    (horder : order.Perm (List.range 90)) : (cells.map withinKey).Perm withinPlotBase := by
  have hbase : (List.range 90).map (fun selected => withinPlotBase[selected]?) =
      withinPlotBase.map some := by
    rw [← withinPlotBase_length]
    refine ext_getElem (by simp) ?_
    intro n _ hn
    have hn' : n < withinPlotBase.length := by simpa using hn
    simp [hn']
  have hperm := horder.map fun selected => withinPlotBase[selected]?
  rw [← h.selections, hbase] at hperm
  refine (map_perm_map_iff (Option.some_injective _)).mp ?_
  rwa [map_map]

theorem Realizes.clean (h : Realizes seeds state order start cells) (hcell : cell ∈ cells) :
    cell.requestedHardwareState = state ∧
      (∀ index, seedErrors seeds index cell = []) ∧
      linked cell.package = cell.nodeSeedRef.isSome := by
  obtain ⟨selected, ordinal, hplanned⟩ := h.each cell hcell
  obtain ⟨-, hstate, -, hseeds, hnode⟩ := plannedCell_some hplanned
  exact ⟨hstate, hseeds, hnode⟩

end Plot

/-! ### Both whole plots -/

/-- The order in which the cells of a state were dealt. -/
def dealt (h0Order h1Order : List Nat) (state : RequestedHardwareState) : List Nat :=
  if state = .h0 then h0Order else h1Order

theorem forall₂_of_mapM {f : A → Option B} (h : as.mapM f = some bs) :
    List.Forall₂ (fun a b => f a = some b) as bs := by
  induction as generalizing bs with
  | nil =>
      obtain rfl : [] = bs := by simpa using h
      exact .nil
  | cons a rest ih =>
      simp only [mapM_cons, Option.bind_eq_bind, Option.bind_eq_some_iff, Option.pure_def,
        Option.some.injEq] at h
      obtain ⟨b, hb, rest', hrest, rfl⟩ := h
      exact .cons hb (ih hrest)

/-- The cells of a plan: those of the first whole plot, then those of the second. -/
structure TwoPlots (seeds : BlockSeedCatalog)
    (plots : RequestedHardwareState × RequestedHardwareState) (h0Order h1Order : List Nat)
    (front back : List StageACell) : Prop where
  first : Realizes seeds plots.1 (dealt h0Order h1Order plots.1) 0 front
  second : Realizes seeds plots.2 (dealt h0Order h1Order plots.2) 90 back
  bothStates : plots = (.h0, .h1) ∨ plots = (.h1, .h0)
  h0 : h0Order.Perm (List.range 90)
  h1 : h1Order.Perm (List.range 90)

section Plots

variable {seeds : BlockSeedCatalog} {plots : RequestedHardwareState × RequestedHardwareState}
  {h0Order h1Order : List Nat} {front back : List StageACell}

theorem dealt_perm (h0 : h0Order.Perm (List.range 90)) (h1 : h1Order.Perm (List.range 90))
    (state : RequestedHardwareState) : (dealt h0Order h1Order state).Perm (List.range 90) := by
  rw [dealt]
  split
  · exact h0
  · exact h1

theorem dealt_length (h0 : h0Order.Perm (List.range 90)) (h1 : h1Order.Perm (List.range 90))
    (state : RequestedHardwareState) : (dealt h0Order h1Order state).length = 90 := by
  simpa using (dealt_perm h0 h1 state).length_eq

theorem twoPlots_of_plannedCells {cells : List StageACell}
    (h : plannedCells seeds plots h0Order h1Order = some cells)
    (hstates : plots = (.h0, .h1) ∨ plots = (.h1, .h0)) (h0 : h0Order.Perm (List.range 90))
    (h1 : h1Order.Perm (List.range 90)) :
    ∃ front back, cells = front ++ back ∧ TwoPlots seeds plots h0Order h1Order front back := by
  have hlength : (if plots.1 = .h0 then h0Order else h1Order).length = 90 :=
    dealt_length h0 h1 plots.1
  simp only [plannedCells, flatMap_cons, flatMap_nil, append_nil,
    zipIdx_append, mapM_append, zipIdx_map, mapM_map, length_map,
    Option.bind_eq_bind, Option.bind_eq_some_iff, Option.pure_def, Option.some.injEq,
    hlength, Nat.zero_add] at h
  obtain ⟨front, hfront, back, hback, rfl⟩ := h
  exact ⟨front, back, rfl, forall₂_of_mapM hfront, forall₂_of_mapM hback, hstates, h0, h1⟩

/-! ### What follows of the cells -/

theorem TwoPlots.bothStates_ne (h : TwoPlots seeds plots h0Order h1Order front back) :
    plots.1 ≠ plots.2 := by
  rcases h.bothStates with rfl | rfl <;> decide

theorem TwoPlots.lengths (h : TwoPlots seeds plots h0Order h1Order front back) :
    front.length = 90 ∧ back.length = 90 := by
  rw [h.first.length, h.second.length]
  exact ⟨dealt_length h.h0 h.h1 _, dealt_length h.h0 h.h1 _⟩

theorem TwoPlots.length (h : TwoPlots seeds plots h0Order h1Order front back) :
    (front ++ back).length = 180 := by
  rw [length_append, h.lengths.1, h.lengths.2]

theorem TwoPlots.ordinals (h : TwoPlots seeds plots h0Order h1Order front back) :
    (front ++ back).map StageACell.cellOrdinal = (List.range 180).map UInt64.ofNat := by
  have hrange : List.range 180 = List.range' 0 90 ++ List.range' 90 90 := by
    rw [range_eq_range', range'_append_1]
  rw [map_append, h.first.ordinals, h.second.ordinals, dealt_length h.h0 h.h1,
    dealt_length h.h0 h.h1, hrange, map_append]

/-- The cell at a place has the ordinal of the place. -/
theorem TwoPlots.places (h : TwoPlots seeds plots h0Order h1Order front back) :
    (front ++ back).map (fun cell => cell.cellOrdinal.toNat) = List.range 180 := by
  rw [← Function.comp_def, ← map_map, h.ordinals, map_map]
  refine ext_getElem (by simp) ?_
  intro n _ hn
  have hn' : n < 180 := by simpa using hn
  simp only [getElem_map, getElem_range, Function.comp_apply, UInt64.toNat_ofNat']
  exact Nat.mod_eq_of_lt (lt_trans hn' (by norm_num))

theorem TwoPlots.placedAt (h : TwoPlots seeds plots h0Order h1Order front back) {n : Nat}
    (hn : n < 180) : cellAt (front ++ back).reverse n = (front ++ back)[n]? := by
  have hin : n < (front ++ back).length := by rwa [h.length]
  have hnodup : ((front ++ back).map fun cell => cell.cellOrdinal.toNat).Nodup := by
    rw [h.places]
    exact nodup_range
  have hat : (front ++ back)[n].cellOrdinal.toNat = n := by
    have hplace : ((front ++ back).map fun cell => cell.cellOrdinal.toNat)[n]? = some n := by
      rw [h.places]
      simp [hn]
    rw [getElem?_map, getElem?_eq_getElem hin] at hplace
    exact Option.some.inj hplace
  rw [cellAt, Keyed.find_perm (reverse_perm _) (by
    rwa [map_reverse, nodup_reverse]), getElem?_eq_getElem hin]
  exact (Keyed.find_eq_some_iff hnodup).mpr ⟨getElem_mem _, hat⟩

theorem TwoPlots.keys (h : TwoPlots seeds plots h0Order h1Order front back) :
    ((front ++ back).map StageACell.key).Perm
      (withinPlotBase.map (underState plots.1) ++ withinPlotBase.map (underState plots.2)) := by
  have hplot : ∀ {cells : List StageACell} {state}, (cells.map withinKey).Perm withinPlotBase →
      (∀ cell ∈ cells, cell.requestedHardwareState = state) →
      (cells.map StageACell.key).Perm (withinPlotBase.map (underState state)) := by
    intro cells state hlevels hstate
    have hkeys : cells.map StageACell.key = (cells.map withinKey).map (underState state) := by
      rw [map_map]
      refine map_congr_left ?_
      intro cell hcell
      rw [key_eq_underState, hstate cell hcell]
      rfl
    rw [hkeys]
    exact hlevels.map _
  rw [map_append]
  exact (hplot (h.first.levels (dealt_perm h.h0 h.h1 _)) fun _ hcell =>
    (h.first.clean hcell).1).append
    (hplot (h.second.levels (dealt_perm h.h0 h.h1 _)) fun _ hcell => (h.second.clean hcell).1)

theorem TwoPlots.keys_nodup (h : TwoPlots seeds plots h0Order h1Order front back) :
    ((front ++ back).map StageACell.key).Nodup := by
  rw [h.keys.nodup_iff, nodup_append]
  refine ⟨withinPlotBase_nodup.map (underState_injective _),
    withinPlotBase_nodup.map (underState_injective _), ?_⟩
  intro key hkey key' hkey' hsame
  obtain ⟨levels, -, rfl⟩ := List.mem_map.mp hkey
  obtain ⟨levels', -, rfl⟩ := List.mem_map.mp hkey'
  exact h.bothStates_ne (congrArg (fun key => key.2.1) hsame)

theorem TwoPlots.registered (h : TwoPlots seeds plots h0Order h1Order front back) :
    ∀ key ∈ expectedStageACells, key ∈ (front ++ back).map StageACell.key := by
  intro key hkey
  obtain ⟨state, hstate, levels, hlevels, rfl⟩ := mem_expectedStageACells.mp hkey
  rw [h.keys.mem_iff, mem_append]
  have hcases : state = plots.1 ∨ state = plots.2 := by
    have hstates : state = .h0 ∨ state = .h1 := by
      simpa [states] using hstate
    rcases h.bothStates with rfl | rfl
    · exact hstates
    · exact hstates.symm
  rcases hcases with rfl | rfl
  · exact Or.inl (mem_map_of_mem hlevels)
  · exact Or.inr (mem_map_of_mem hlevels)

theorem TwoPlots.clean (h : TwoPlots seeds plots h0Order h1Order front back)
    (hcell : cell ∈ front ++ back) : (∀ index, seedErrors seeds index cell = []) ∧
      linked cell.package = cell.nodeSeedRef.isSome := by
  rcases List.mem_append.mp hcell with hfront | hback
  · exact (h.first.clean hfront).2
  · exact (h.second.clean hback).2

end Plots

/-! ### The audit of the cells -/

section Audit

variable {seeds : BlockSeedCatalog}

/-- The audit of the cells so far, none of which is at fault. -/
def auditOf (cells : List StageACell) : PlanAudit :=
  ⟨(cells.map StageACell.key).reverse, cells.reverse, []⟩

theorem auditOf_cell {done : List StageACell} {index : Nat}
    (hkey : cell.key ∉ done.map StageACell.key)
    (hplace : cell.cellOrdinal.toNat ∉ done.map fun cell => cell.cellOrdinal.toNat)
    (hrange : cell.cellOrdinal.toNat < 180) (hclean : seedErrors seeds index cell = []) :
    (auditOf done).cell seeds cell index = auditOf (done ++ [cell]) := by
  have hfree : (cellAt done.reverse cell.cellOrdinal.toNat).isSome = false := by
    rw [cellAt, Option.isSome_eq_false_iff, Option.isNone_iff_eq_none, find?_eq_none]
    intro other hother
    rw [decide_eq_true_eq]
    intro hsame
    exact hplace (List.mem_map.mpr ⟨other, List.mem_reverse.mp hother, hsame⟩)
  have hin : ¬cell.cellOrdinal.toNat ≥ kStageACellsPerBlock := not_le.mpr hrange
  have hnew : cell.key ∉ (done.map StageACell.key).reverse := by rwa [mem_reverse]
  simp [PlanAudit.cell, auditOf, hfree, hin, hnew, hclean, require]

variable (seeds) in
theorem auditOf_cells {cells : List StageACell} :
    ∀ (done : List StageACell) (index : Nat), ((done ++ cells).map StageACell.key).Nodup →
      ((done ++ cells).map fun cell => cell.cellOrdinal.toNat).Nodup →
      (∀ cell ∈ cells, cell.cellOrdinal.toNat < 180) →
      (∀ cell ∈ cells, ∀ index, seedErrors seeds index cell = []) →
      (cells.zipIdx index).foldl (fun audit cell => audit.cell seeds cell.1 cell.2) (auditOf done) =
        auditOf (done ++ cells) := by
  induction cells with
  | nil =>
      intro done index _ _ _ _
      simp
  | cons cell rest ih =>
      intro done index hkeys hplaces hrange hclean
      have hkey : cell.key ∉ done.map StageACell.key := by
        intro hmem
        rw [map_append, nodup_append] at hkeys
        exact hkeys.2.2 _ hmem _ mem_cons_self rfl
      have hplace : cell.cellOrdinal.toNat ∉ done.map fun cell => cell.cellOrdinal.toNat := by
        intro hmem
        rw [map_append, nodup_append] at hplaces
        exact hplaces.2.2 _ hmem _ mem_cons_self rfl
      rw [zipIdx_cons, foldl_cons,
        auditOf_cell hkey hplace (hrange cell mem_cons_self)
          (hclean cell mem_cons_self index)]
      rw [append_cons] at hkeys hplaces
      rw [ih _ _ hkeys hplaces (fun other hother => hrange other (mem_cons_of_mem _ hother))
        (fun other hother => hclean other (mem_cons_of_mem _ hother)), ← append_cons]

end Audit

/-! ### The whole plan -/

section Plan

variable {conv : CharConv} {sha256 : Text → Sha256} {registry : RoleNamespaceRegistry}
  {seeds : BlockSeedCatalog} {plots : RequestedHardwareState × RequestedHardwareState}
  {h0Order h1Order : List Nat} {front back : List StageACell} {block : BlockPlan}

theorem TwoPlots.audit (h : TwoPlots seeds block.wholePlotOrder h0Order h1Order front back)
    (hcells : block.cells = front ++ back) : auditCells block seeds = auditOf (front ++ back) := by
  have hplaces := h.places
  have hnodup : ((front ++ back).map fun cell => cell.cellOrdinal.toNat).Nodup := by
    rw [hplaces]
    exact nodup_range
  have hrange : ∀ cell ∈ front ++ back, cell.cellOrdinal.toNat < 180 := by
    intro cell hcell
    have hmem := mem_map_of_mem (f := fun cell : StageACell => cell.cellOrdinal.toNat) hcell
    rw [hplaces] at hmem
    exact List.mem_range.mp hmem
  have haudit := auditOf_cells seeds [] 0 h.keys_nodup hnodup hrange
    fun _ hcell => (h.clean hcell).1
  rw [auditCells, hcells]
  exact haudit

theorem TwoPlots.factorial (h : TwoPlots seeds block.wholePlotOrder h0Order h1Order front back)
    (hcells : block.cells = front ++ back) :
    factorialErrors block (auditOf (front ++ back)).actual = [] := by
  have hnodup : ((front ++ back).map StageACell.key).reverse.Nodup :=
    List.nodup_reverse.mpr h.keys_nodup
  have hexpected : expectedStageACells.length = 180 := rfl
  simp only [factorialErrors, auditOf, require_eq_nil, Bool.and_eq_true, decide_eq_true_eq,
    all_eq_true, hcells, h.length, hnodup.dedup, length_reverse, length_map,
    hexpected, mem_reverse]
  exact ⟨⟨rfl, trivial⟩, h.registered⟩

/-- The state of the cell at a place is the one of the plot the place is in. -/
theorem TwoPlots.stateAt (h : TwoPlots seeds plots h0Order h1Order front back) {n : Nat}
    (hn : n < 180) : ∃ cell, cellAt (front ++ back).reverse n = some cell ∧
      cell.requestedHardwareState = if n < kStageACellsPerWholePlot then plots.1 else plots.2 := by
  have hin : n < (front ++ back).length := by rwa [h.length]
  refine ⟨(front ++ back)[n], ?_, ?_⟩
  · rw [h.placedAt hn, getElem?_eq_getElem]
  · have hfront := h.lengths.1
    rw [getElem_append]
    split
    · rename_i hlt
      rw [if_pos (by rw [hfront] at hlt; exact hlt)]
      exact (h.first.clean (getElem_mem _)).1
    · rename_i hlt
      rw [if_neg (by rw [hfront] at hlt; exact hlt)]
      exact (h.second.clean (getElem_mem _)).1

theorem wholePlotErrors_clean {placed : List StageACell} {ordinals : List Nat}
    (h : ∀ n ∈ ordinals, ∃ cell, cellAt placed n = some cell ∧ cell.requestedHardwareState =
      if n < kStageACellsPerWholePlot then block.wholePlotOrder.1 else block.wholePlotOrder.2) :
    wholePlotErrors block placed ordinals = [] := by
  induction ordinals with
  | nil => rfl
  | cons n rest ih =>
      obtain ⟨cell, hcell, hstate⟩ := h n mem_cons_self
      rw [wholePlotErrors, hcell]
      simp only [hstate, ne_eq, not_true_eq_false, if_false]
      exact ih fun n hn => h n (mem_cons_of_mem _ hn)

/-- The cells placed in a plot are the plot's. -/
theorem TwoPlots.plotLevels (h : TwoPlots seeds plots h0Order h1Order front back) :
    withinPlot (front ++ back).reverse 0 = (front.map withinKey).dedup ∧
      withinPlot (front ++ back).reverse 1 = (back.map withinKey).dedup := by
  have hslice : ∀ start cells, ((front ++ back).drop start).take 90 = cells → start + 90 ≤ 180 →
      cells.length = 90 →
      ((List.range' start 90).filterMap (cellAt (front ++ back).reverse)) = cells := by
    rintro start cells rfl hstart hlength
    have hat : (List.range' start 90).map (cellAt (front ++ back).reverse) =
        (((front ++ back).drop start).take 90).map some := by
      refine ext_getElem (by
        rw [length_map, length_range', length_map, hlength]) ?_
      intro n hn _
      have hn' : n < 90 := by simpa using hn
      have hlength' := h.length
      rw [getElem_map, getElem_range', h.placedAt (by omega), getElem_map,
        getElem_take, getElem_drop, Nat.one_mul, getElem?_eq_getElem]
    have hfilter := congrArg (List.filterMap id) hat
    rw [filterMap_map, filterMap_map] at hfilter
    simpa using hfilter
  have hfront := hslice 0 front (by rw [drop_zero, ← h.lengths.1, take_left]) (by omega)
    h.lengths.1
  have hback := hslice 90 back (by
    rw [← h.lengths.1, drop_left, h.lengths.1, ← h.lengths.2, take_length]) (by omega)
    h.lengths.2
  constructor
  · rw [withinPlot, kStageACellsPerWholePlot, Nat.zero_mul, hfront]
    rfl
  · rw [withinPlot, kStageACellsPerWholePlot, Nat.one_mul, hback]
    rfl

theorem TwoPlots.composition (h : TwoPlots seeds plots h0Order h1Order front back) :
    compositionErrors (front ++ back).reverse = [] := by
  have hplot : ∀ cells : List StageACell, (cells.map withinKey).Perm withinPlotBase →
      (cells.map withinKey).dedup.length = 90 := by
    intro cells hlevels
    rw [(hlevels.nodup_iff.mpr withinPlotBase_nodup).dedup, hlevels.length_eq,
      withinPlotBase_length]
  simp only [compositionErrors, flatMap_cons, flatMap_nil, append_nil,
    append_eq_nil_iff, require_eq_nil, decide_eq_true_eq, h.plotLevels]
  exact ⟨hplot _ (h.first.levels (dealt_perm h.h0 h.h1 _)),
    hplot _ (h.second.levels (dealt_perm h.h0 h.h1 _))⟩

/-- The record-local rules on a block's cells. -/
theorem TwoPlots.validateBlock
    (h : TwoPlots seeds block.wholePlotOrder h0Order h1Order front back)
    (hcells : block.cells = front ++ back) (hreplacement : replacementErrors block = []) :
    validateBlock block = [] := by
  have hplots : exactWholePlots block.wholePlotOrder = true := by
    rcases h.bothStates with hplots | hplots <;> rw [hplots] <;> rfl
  have hnodes : (front ++ back).zipIdx.flatMap
      (fun member => nodeSeedErrors member.2 member.1) = [] := by
    rw [flatMap_eq_nil_iff]
    intro member hmember
    have hnode := (h.clean (fst_mem_of_mem_zipIdx hmember)).2
    simpa [nodeSeedErrors, linked] using hnode
  have hordinals : ordinalsComplete ((front ++ back).map StageACell.cellOrdinal) = true := by
    rw [h.ordinals]
    have hnodup : ((List.range 180).map UInt64.ofNat).Nodup := by decide +kernel
    simp only [ordinalsComplete, Bool.and_eq_true, decide_eq_true_eq, all_eq_true,
      hnodup.dedup, length_map, length_range, true_and]
    intro n hn
    exact mem_map_of_mem hn
  simp only [Protocol.validateBlock, append_eq_nil_iff, require_eq_nil, decide_eq_true_eq,
    hplots, hnodes, hreplacement, hcells, h.length, h.keys_nodup.dedup, length_map, hordinals,
    and_self]

/-- **A plan with planned cells is valid**, whatever the two orders are. -/
theorem validateBlockPlan_planned
    (h : TwoPlots seeds block.wholePlotOrder h0Order h1Order front back)
    (hcells : block.cells = front ++ back) (hreplacement : replacementErrors block = [])
    (hcatalog : validateSeedCatalog seeds registry = [])
    (hversion : block.protocolVersion = .v200pre2 ∧ block.schemaVersion = .v200pre2 ∧
      block.stage = .stageA)
    (hid : canonicalId conv sha256 block = true)
    (hbinding : block.blockRole = seeds.role ∧ block.seedSubspaceId = seeds.blockSubspaceId)
    (hhash : verifyPlanHash conv sha256 block = true) :
    validateBlockPlan conv sha256 block seeds registry = [] := by
  have hplots : wholePlotErrors block (auditOf (front ++ back)).placed
      (List.range kStageACellsPerBlock) = [] :=
    wholePlotErrors_clean fun n hn => h.stateAt (List.mem_range.mp hn)
  have hplacement : compositionErrors (auditOf (front ++ back)).placed = [] := h.composition
  simp only [validateBlockPlan, h.audit hcells, append_eq_nil_iff, require_eq_nil, hcatalog,
    validateRecord, h.validateBlock hcells hreplacement, hversion, hid, hbinding, hhash, hplots,
    h.factorial hcells, hplacement, Bool.and_eq_true, decide_eq_true_eq, and_self, and_true]
  exact ⟨trivial, rfl⟩

end Plan

end CpuPrefetch.Orchestration
