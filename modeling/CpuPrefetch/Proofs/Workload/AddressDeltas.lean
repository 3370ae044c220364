/-
The address deltas of an order determine the order.

Each delta is the exact difference of two addresses: what would not fit in a signed word
is refused.  The differences are taken round a permutation, so they cancel, and no
other permutation has the same ones (`Lib/Translates`).
-/
import CpuPrefetch.Lib.Words
import CpuPrefetch.Lib.Cyclic
import CpuPrefetch.Lib.Fallible
import CpuPrefetch.Lib.Translates
import CpuPrefetch.Workload.Permutation

namespace CpuPrefetch.Workload

open List
open Queue (Setup)
open Translates (cyclicDifferences)

/-! ### Words -/

theorem checkedMultiply_ok {left right product : UInt64}
    (h : checkedMultiply left right = .ok product) :
    product.toNat = left.toNat * right.toNat := by
  unfold checkedMultiply at h
  split at h
  · cases h
  · rename_i hfits
    obtain rfl := Except.ok.inj h
    refine CheckedWords.toNat_mul ?_
    by_contra hwraps
    exact hfits (CheckedWords.product_guard.mpr (Nat.lt_of_not_le hwraps))

/-- What fits in a signed word keeps its value there. -/
theorem toInt_toInt64 {value : UInt64} (h : ¬value > int64Max) :
    value.toInt64.toInt = value.toNat := by
  rw [gt_iff_lt, UInt64.lt_iff_toNat_lt] at h
  have hmax : int64Max.toNat = 2 ^ 63 - 1 := rfl
  show value.toBitVec.toInt = _
  rw [BitVec.toInt_eq_toNat_of_lt]
  · rfl
  · show 2 * value.toNat < 2 ^ 64
    omega

/-- Its negation is there too. -/
theorem toInt_neg_toInt64 {value : UInt64} (h : ¬value > int64Max) :
    (-value.toInt64).toInt = -(value.toNat : Int) := by
  have hvalue := toInt_toInt64 h
  rw [gt_iff_lt, UInt64.lt_iff_toNat_lt] at h
  have hmax : int64Max.toNat = 2 ^ 63 - 1 := rfl
  rw [Int64.toInt_neg, hvalue]
  apply Int.bmod_eq_of_le
  · omega
  · omega

/-- **A delta is the exact difference of the two addresses.** -/
theorem signedDelta_ok {source target stride : UInt64} {delta : Int64}
    (h : signedDelta source target stride = .ok delta) :
    delta.toInt = target.toNat * stride.toNat - source.toNat * stride.toNat := by
  unfold signedDelta at h
  obtain ⟨fromOffset, hfrom, h⟩ := Fallible.bind_ok h
  obtain ⟨toOffset, hto, h⟩ := Fallible.bind_ok h
  have hfrom := checkedMultiply_ok hfrom
  have hto := checkedMultiply_ok hto
  by_cases hle : toOffset ≥ fromOffset
  · rw [if_pos hle] at h
    have hdifference := UInt64.toNat_sub_of_le _ _ hle
    have horder := UInt64.le_iff_toNat_le.mp hle
    simp only at h
    split at h
    · cases h
    · rename_i hfits
      obtain rfl := Except.ok.inj h
      rw [toInt_toInt64 hfits, hdifference, Nat.cast_sub horder, hfrom, hto]
      push_cast
      rfl
  · rw [if_neg hle] at h
    have hlt : toOffset ≤ fromOffset := UInt64.le_of_lt (UInt64.not_le.mp hle)
    have hmagnitude := UInt64.toNat_sub_of_le _ _ hlt
    have horder := UInt64.le_iff_toNat_le.mp hlt
    simp only at h
    split at h
    · cases h
    · rename_i hfits
      obtain rfl := Except.ok.inj h
      rw [toInt_neg_toInt64 hfits, hmagnitude, Nat.cast_sub horder, hfrom, hto]
      push_cast
      ring

/-! ### Orders -/

variable {order : List UInt64}

/-- What the loop accepts are distinct indices that were not seen before. -/
theorem markSeen_ok {size : Nat} {seen : List Bool} {done : Unit} (hsize : seen.length = size)
    (h : markSeen size seen order = .ok done) : (order.map UInt64.toNat).Nodup ∧
      ∀ index ∈ order, index.toNat < size ∧ seen.getD index.toNat false = false := by
  induction order generalizing seen with
  | nil => exact ⟨nodup_nil, nofun⟩
  | cons first rest ih =>
      unfold markSeen at h
      split at h
      · cases h
      · rename_i hnew
        have hlt : first.toNat < size := Nat.lt_of_not_le fun hge => hnew (.inl hge)
        have hfresh : seen.getD first.toNat false = false :=
          Bool.eq_false_iff.mpr fun hseen => hnew (.inr hseen)
        obtain ⟨hnodup, hrest⟩ := ih (by rw [length_set, hsize]) h
        have hother : ∀ index ∈ rest, index.toNat ≠ first.toNat := by
          intro index hindex heq
          have hfalse := (hrest index hindex).2
          rw [heq] at hfalse
          simp [hsize, hlt] at hfalse
        refine ⟨?_, ?_⟩
        · rw [map_cons, nodup_cons]
          refine ⟨?_, hnodup⟩
          intro hmem
          obtain ⟨index, hindex, heq⟩ := List.mem_map.mp hmem
          exact hother index hindex heq
        · intro index hindex
          rcases List.mem_cons.mp hindex with rfl | hindex
          · exact ⟨hlt, hfresh⟩
          · obtain ⟨hbelow, hunseen⟩ := hrest index hindex
            refine ⟨hbelow, ?_⟩
            have hne := hother index hindex
            simpa [getElem?_set, hne.symm] using hunseen

/-- **An order that is accepted is a permutation of its indices.** -/
theorem validatePermutation_ok {done : Unit} (h : validatePermutation order = .ok done) :
    order ≠ [] ∧ (order.map UInt64.toNat).Perm (List.range order.length) := by
  unfold validatePermutation at h
  split at h
  · cases h
  · rename_i hne
    obtain ⟨hnodup, hall⟩ := markSeen_ok length_replicate h
    refine ⟨hne, ?_⟩
    have hsubset : order.map UInt64.toNat ⊆ List.range order.length := by
      intro value hvalue
      obtain ⟨index, hindex, rfl⟩ := List.mem_map.mp hvalue
      exact List.mem_range.mpr (hall index hindex).1
    exact (hnodup.subperm hsubset).perm_of_length_le (by simp)

/-! ### Deltas -/

/-- The addresses of the lines, counted from the first one. -/
def offsets (order : List UInt64) (strideBytes : UInt64) : List Int :=
  order.map fun index => (index.toNat * strideBytes.toNat : Int)

theorem makeCyclicAddressDeltas_ok {strideBytes : UInt64} {deltas : List Int64}
    (h : makeCyclicAddressDeltas order strideBytes = .ok deltas) :
    order ≠ [] ∧ (order.map UInt64.toNat).Perm (List.range order.length) ∧ strideBytes ≠ 0 ∧
      deltas.map Int64.toInt = cyclicDifferences (offsets order strideBytes) := by
  unfold makeCyclicAddressDeltas at h
  obtain ⟨done, hvalid, h⟩ := Fallible.bind_ok h
  obtain ⟨hne, hperm⟩ := validatePermutation_ok hvalid
  split at h
  · cases h
  · rename_i hstride
    refine ⟨hne, hperm, hstride, ?_⟩
    have hturns := Fallible.forall₂_of_mapM h
    have hlength : deltas.length = order.length := by
      rw [← List.Forall₂.length_eq hturns, length_range]
    apply ext_getElem
    · simp [hlength, offsets]
    · intro index hleft hright
      have hindex : index < order.length := by
        rwa [length_map, hlength] at hleft
      have hturn := List.Forall₂.get hturns (by simpa using hindex) (by simpa using hleft)
      simp only [get_eq_getElem, getElem_range] at hturn
      rw [Cyclic.wrap_eq_mod hindex] at hturn
      have hnext : (index + 1) % order.length < order.length := Nat.mod_lt _ (by omega)
      have hdelta := signedDelta_ok hturn
      rw [getD_eq_getElem _ _ hindex, getD_eq_getElem _ _ hnext] at hdelta
      rw [getElem_map, hdelta]
      simp [cyclicDifferences, offsets, getElem_rotate]

theorem offsets_injective {strideBytes : UInt64} (h : strideBytes ≠ 0) {left right : List UInt64}
    (heq : offsets left strideBytes = offsets right strideBytes) : left = right := by
  have hpositive : strideBytes.toNat ≠ 0 := fun hzero => h (UInt64.toNat_inj.mp hzero)
  refine List.map_injective_iff.mpr ?_ heq
  intro index index' hboth
  have hproduct : index.toNat * strideBytes.toNat = index'.toNat * strideBytes.toNat :=
    Int.ofNat.inj hboth
  exact UInt64.toNat_inj.mp (Nat.eq_of_mul_eq_mul_right (Nat.pos_of_ne_zero hpositive) hproduct)

theorem offsets_perm {left right : List UInt64} (strideBytes : UInt64)
    (h : (left.map UInt64.toNat).Perm (right.map UInt64.toNat)) :
    (offsets left strideBytes).Perm (offsets right strideBytes) := by
  have hmapped := h.map fun index : Nat => (index * strideBytes.toNat : Int)
  rw [map_map, map_map] at hmapped
  exact hmapped

/-- **The address deltas determine the order.**

Where they are made, the order is a permutation and each delta is the exact difference
of the next address and its own, so none has overflowed and they sum to zero.  No other
order has the same deltas with the same stride. -/
theorem address_deltas_determine_order {order : List UInt64} {strideBytes : UInt64}
    {deltas : List Int64} (h : makeCyclicAddressDeltas order strideBytes = .ok deltas) :
    order ≠ [] ∧ (order.map UInt64.toNat).Perm (List.range order.length) ∧ strideBytes ≠ 0 ∧
    deltas.map Int64.toInt = cyclicDifferences (offsets order strideBytes) ∧
    (deltas.map Int64.toInt).sum = 0 ∧
    ∀ other, makeCyclicAddressDeltas other strideBytes = .ok deltas → other = order := by
  obtain ⟨hne, hperm, hstride, hdeltas⟩ := makeCyclicAddressDeltas_ok h
  refine ⟨hne, hperm, hstride, hdeltas, ?_, ?_⟩
  · rw [hdeltas]
    exact Translates.sum_cyclicDifferences _
  · intro other hother
    obtain ⟨-, hotherPerm, -, hotherDeltas⟩ := makeCyclicAddressDeltas_ok hother
    have hsame : cyclicDifferences (offsets other strideBytes) =
        cyclicDifferences (offsets order strideBytes) := hotherDeltas.symm.trans hdeltas
    have hlength : other.length = order.length := by
      simpa [offsets] using congrArg List.length hsame
    have hboth : (other.map UInt64.toNat).Perm (order.map UInt64.toNat) := by
      rw [hlength] at hotherPerm
      exact hotherPerm.trans hperm.symm
    have hoffsets := Translates.eq_of_perm (offsets_perm strideBytes hboth) hsame
    exact offsets_injective hstride hoffsets

/-- Three lines of sixty-four bytes. -/
theorem address_deltas_determine_order_three :
    ([128, -64, -64].map Int64.toInt).sum = 0 ∧
      ∀ other, makeCyclicAddressDeltas other 64 = .ok [128, -64, -64] → other = [0, 2, 1] := by
  have hmade : makeCyclicAddressDeltas [0, 2, 1] 64 = .ok [128, -64, -64] := by decide
  obtain ⟨-, -, -, -, hsum, hother⟩ := address_deltas_determine_order hmade
  exact ⟨hsum, hother⟩

end CpuPrefetch.Workload
