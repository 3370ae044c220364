/-
The map of a block's responses.

A map is accepted when the block has 180 finite cells under distinct keys, whatever their order;
what is read of it is then the response of the one cell under a key.  Every contrast reads the map
in no other way, so it is the same for blocks with the same responses.
-/
import CpuPrefetch.Analysis.Selection
import CpuPrefetch.Lib.Fallible
import CpuPrefetch.Lib.Keyed

namespace CpuPrefetch.Analysis

open List CellResponse
open Protocol Orchestration
open Keyed (Fresh fresh_nil fresh_cons fresh_iff_nodup)

variable {F : Type} {arith : Binary64 F} {block block' : CompleteBlockResponse F}

def CellResponse.entry (cell : CellResponse F) : CellKey × F := (cell.key, cell.logP999)

/-! ### Which maps are accepted -/

theorem emplaceCells_eq {values : CellMap F} {cells : List (CellResponse F)} :
    emplaceCells arith values cells =
      if (∀ cell ∈ cells, arith.isFinite cell.logP999 = true) ∧
          (cells.map key).Nodup ∧
          ∀ cell ∈ cells, cell.key ∉ values.map Prod.fst then
        some (values ++ cells.map entry)
      else none := by
  induction cells generalizing values with
  | nil => simp [emplaceCells]
  | cons cell rest ih =>
      rw [emplaceCells]
      by_cases hfirst : (arith.isFinite cell.logP999 && cell.key ∉ values.map Prod.fst) = true
      · rw [if_pos hfirst, ih]
        simp only [Bool.and_eq_true, decide_eq_true_eq] at hfirst
        refine if_congr ?_ ?_ rfl
        · simp only [map_append, mem_append, map_cons, map_nil,
            mem_singleton, not_or, forall_mem_cons, nodup_cons, hfirst.1, true_and]
          generalize values.map Prod.fst = seen at hfirst
          constructor
          · rintro ⟨hfinite, hnodup, hnew⟩
            refine ⟨hfinite, ⟨?_, hnodup⟩, hfirst.2, fun other hother => (hnew other hother).1⟩
            intro hmem
            obtain ⟨other, hother, hsame⟩ := List.mem_map.mp hmem
            exact (hnew other hother).2 hsame
          · rintro ⟨hfinite, ⟨hfresh, hnodup⟩, -, hnew⟩
            refine ⟨hfinite, hnodup, fun other hother => ⟨hnew other hother, fun hsame => ?_⟩⟩
            exact hfresh (hsame ▸ mem_map_of_mem hother)
        · rw [append_assoc]
          rfl
      · rw [if_neg hfirst, if_neg]
        rintro ⟨hfinite, -, hnew⟩
        apply hfirst
        simp only [Bool.and_eq_true, decide_eq_true_eq]
        exact ⟨hfinite cell mem_cons_self, hnew cell mem_cons_self⟩

/-- The cells of a block that a map is made of. -/
structure Complete (arith : Binary64 F) (block : CompleteBlockResponse F) : Prop where
  length : block.cells.length = kStageACellsPerBlock
  finite : ∀ cell ∈ block.cells, arith.isFinite cell.logP999 = true
  distinct : (block.cells.map key).Nodup

theorem cellMap_ok {values : CellMap F} :
    cellMap arith block = .ok values ↔ Complete arith block ∧ values = block.cells.map entry := by
  rw [cellMap, emplaceCells_eq]
  simp only [map_nil, not_mem_nil, not_false_eq_true, implies_true, and_true,
    nil_append]
  by_cases hlength : block.cells.length = kStageACellsPerBlock
  · by_cases hrest : (∀ cell ∈ block.cells, arith.isFinite cell.logP999 = true) ∧
        (block.cells.map key).Nodup
    · simp only [hlength, ne_eq, not_true_eq_false, if_false, if_pos hrest, length_map,
        Except.ok.injEq]
      constructor
      · rintro rfl
        exact ⟨⟨hlength, hrest.1, hrest.2⟩, rfl⟩
      · exact fun h => h.2.symm
    · simp only [hlength, ne_eq, not_true_eq_false, if_false, if_neg hrest]
      exact iff_of_false (nofun) fun h => hrest ⟨h.1.finite, h.1.distinct⟩
  · simp only [ne_eq, hlength, not_false_eq_true, if_true]
    exact iff_of_false (nofun) fun h => hlength h.1.length

/-- Blocks with the same cells, in whatever order, end in the same error or have both a map. -/
theorem cellMap_perm (h : block.cells.Perm block'.cells) :
    (∃ failure, cellMap arith block = .error failure ∧ cellMap arith block' = .error failure) ∨
      Complete arith block ∧ Complete arith block' := by
  have hkeys := h.map key
  have hsame : (block.cells.length = kStageACellsPerBlock ↔
      block'.cells.length = kStageACellsPerBlock) := by rw [h.length_eq]
  have hfinite : (∀ cell ∈ block.cells, arith.isFinite cell.logP999 = true) ↔
      ∀ cell ∈ block'.cells, arith.isFinite cell.logP999 = true :=
    forall_congr' fun cell => by rw [h.mem_iff]
  by_cases hlength : block.cells.length = kStageACellsPerBlock
  · by_cases hrest : (∀ cell ∈ block.cells, arith.isFinite cell.logP999 = true) ∧
        (block.cells.map key).Nodup
    · exact Or.inr ⟨⟨hlength, hrest.1, hrest.2⟩,
        ⟨hsame.mp hlength, hfinite.mp hrest.1, hkeys.nodup_iff.mp hrest.2⟩⟩
    · have hrest' : ¬((∀ cell ∈ block'.cells, arith.isFinite cell.logP999 = true) ∧
          (block'.cells.map key).Nodup) := by
        rwa [← hfinite, ← hkeys.nodup_iff]
      left
      simp [cellMap, emplaceCells_eq, hlength, hsame.mp hlength, hrest, hrest', fail]
  · left
    have hlength' := mt hsame.mpr hlength
    simp [cellMap, hlength, hlength', fail]

/-! ### What is read of a map -/

/-- Two maps with the same value under every key. -/
def SameValues (values values' : CellMap F) : Prop := cellOf values = cellOf values'

theorem cellOf_entries (hdistinct : (block.cells.map CellResponse.key).Nodup) {key : CellKey}
    {value : F} : cellOf (block.cells.map CellResponse.entry) key = some value ↔
      ∃ cell ∈ block.cells, cell.key = key ∧ cell.logP999 = value := by
  have hkeys : ((block.cells.map CellResponse.entry).map Prod.fst).Nodup := by
    rw [map_map]
    exact hdistinct
  rw [cellOf, Option.map_eq_some_iff]
  constructor
  · rintro ⟨entry, hfound, rfl⟩
    obtain ⟨hmem, rfl⟩ := (Keyed.find_eq_some_iff hkeys).mp hfound
    obtain ⟨cell, hcell, rfl⟩ := List.mem_map.mp hmem
    exact ⟨cell, hcell, rfl, rfl⟩
  · rintro ⟨cell, hcell, rfl, rfl⟩
    exact ⟨cell.entry, (Keyed.find_eq_some_iff hkeys).mpr
      ⟨mem_map_of_mem hcell, rfl⟩, rfl⟩

theorem sameValues_of_perm (h : block.cells.Perm block'.cells)
    (hdistinct : (block.cells.map CellResponse.key).Nodup) :
    SameValues (block.cells.map entry) (block'.cells.map entry) := by
  have hdistinct' := (h.map CellResponse.key).nodup_iff.mp hdistinct
  funext key
  ext value
  rw [cellOf_entries hdistinct, cellOf_entries hdistinct']
  exact exists_congr fun cell => by rw [h.mem_iff]

/-- What is computed of a map in which only the values count is computed of the cells in
any order. -/
theorem cellMap_bind {T : Type} {read : CellMap F → Outcome T} (h : block.cells.Perm block'.cells)
    (hread : ∀ values values', SameValues values values' → read values = read values') :
    cellMap arith block >>= read = cellMap arith block' >>= read := by
  rcases cellMap_perm h with ⟨failure, hblock, hblock'⟩ | ⟨hblock, hblock'⟩
  · rw [hblock, hblock']
  · rw [cellMap_ok.mpr ⟨hblock, rfl⟩, cellMap_ok.mpr ⟨hblock', rfl⟩]
    exact hread _ _ (sameValues_of_perm h hblock.distinct)

/-! ### What is computed of it -/

section Effects

variable {values values' : CellMap F}

theorem SameValues.valueAt (h : SameValues values values') : valueAt values = valueAt values' := by
  funext package hardware placement workingSet load
  rw [Analysis.valueAt, Analysis.valueAt, show cellOf values = cellOf values' from h]

theorem SameValues.softwareEffect (h : SameValues values values') :
    softwareEffect arith values = softwareEffect arith values' := by
  funext package placement workingSet load
  simp only [Analysis.softwareEffect, h.valueAt]

theorem SameValues.hardwareEffect (h : SameValues values values') :
    hardwareEffect arith values = hardwareEffect arith values' := by
  funext package placement workingSet load
  simp only [Analysis.hardwareEffect, h.valueAt]

theorem SameValues.h1Terms (h : SameValues values values') :
    h1Terms arith values = h1Terms arith values' := by
  funext placement workingSet load
  simp only [Analysis.h1Terms, h.softwareEffect, h.hardwareEffect]

theorem SameValues.contextValue (h : SameValues values values') :
    contextValue arith values = contextValue arith values' := by
  funext suffix placement workingSet load
  simp only [Analysis.contextValue, h.softwareEffect, h.hardwareEffect]

theorem SameValues.h2Operator (h : SameValues values values') :
    h2Operator arith values = h2Operator arith values' := by
  funext operation suffix
  simp only [Analysis.h2Operator, h.contextValue]

theorem h1BlockContrasts_perm (h : block.cells.Perm block'.cells) :
    h1BlockContrasts arith block = h1BlockContrasts arith block' := by
  rw [h1BlockContrasts, h1BlockContrasts]
  refine cellMap_bind h fun values values' hsame => ?_
  simp only [hsame.h1Terms]

theorem h2BlockContrasts_perm (h : block.cells.Perm block'.cells) :
    h2BlockContrasts arith block = h2BlockContrasts arith block' := by
  rw [h2BlockContrasts, h2BlockContrasts]
  refine cellMap_bind h fun values values' hsame => ?_
  simp only [hsame.h2Operator]

theorem h3Value_perm (h : block.cells.Perm block'.cells) :
    h3Value arith block = h3Value arith block' := by
  funext context candidate
  rw [h3Value, h3Value]
  refine cellMap_bind h fun values values' hsame => ?_
  rw [hsame.valueAt]

/-- A block of which a contrast was computed has a map. -/
theorem complete_of_h1 {contrasts : List F} (h : h1BlockContrasts arith block = .ok contrasts) :
    Complete arith block := by
  rw [h1BlockContrasts] at h
  obtain ⟨values, hvalues, -⟩ := Fallible.bind_ok h
  exact (cellMap_ok.mp hvalues).1

end Effects

end CpuPrefetch.Analysis
