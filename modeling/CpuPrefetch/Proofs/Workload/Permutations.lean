/-
A shuffle keeps what it shuffles, and has no bias.

Each turn swaps two elements, so the result has the same ones, whatever was drawn.
Throwing away the draws below the threshold leaves whole blocks of as many draws as there
are elements left, so each element is selected by equally many of the draws that are kept.
Selections and permutations correspond one to one (`Lib/Shuffles`), so each permutation is
made by equally many vectors of draws.
-/
import CpuPrefetch.Lib.Counting
import CpuPrefetch.Lib.Shuffles
import CpuPrefetch.Workload.Permutation

namespace CpuPrefetch.Workload

theorem swapAt_eq (values : List Nat) (left right : Nat) :
    swapAt values left right = Shuffles.exchange values left right := by
  unfold swapAt Shuffles.exchange
  cases values[left]? <;> cases values[right]? <;> rfl

theorem swapAt_perm (values : List Nat) (left right : Nat) :
    (swapAt values left right).Perm values := by
  rw [swapAt_eq]
  exact Shuffles.exchange_perm values left right

variable {draw : UInt64 → UInt64} {result : List Nat}

theorem shuffle_perm {remaining : Nat} {ordinal : UInt64} {values : List Nat}
    (h : shuffle draw remaining ordinal values = .ok result) : result.Perm values := by
  induction remaining generalizing ordinal values with
  | zero =>
      obtain rfl := Except.ok.inj h
      exact .refl _
  | succ remaining ih =>
      cases remaining with
      | zero =>
          obtain rfl := Except.ok.inj h
          exact .refl _
      | succ remaining =>
          rw [shuffle] at h
          split at h
          · cases h
          · exact (ih h).trans (swapAt_perm _ _ _)

variable {count : Nat}

/-- **A permutation that is made is one.** -/
theorem makePermutation_perm (h : makePermutation count draw = .ok result) :
    result.Perm (List.range count) := by
  rw [makePermutation] at h
  split at h
  · cases h
  · exact shuffle_perm h

/-! ### A shuffle without bias -/

open Shuffles (bounds arrange Selects)

/-- The draw is kept when this many elements remain. -/
def Accepted (bound : Nat) (draw : UInt64) : Prop := ¬draw < rejectionThreshold (.ofNat bound)

/-- The element that a draw selects when this many remain. -/
def selectedBy (draw : UInt64) (bound : Nat) : Nat := (draw % .ofNat bound).toNat

/-- One draw that is kept for each turn. -/
def AcceptedDraws (count : Nat) (draws : List UInt64) : Prop :=
  List.Forall₂ (fun draw bound => Accepted bound draw) draws (bounds count)

/-- The permutation that these draws make. -/
def shuffledBy (count : Nat) (draws : List UInt64) : List Nat :=
  arrange count (List.zipWith selectedBy draws (bounds count)) (List.range count)

/-! ### Draws that are kept -/

variable {bound : UInt64}

theorem rejectionThreshold_toNat (h : bound ≠ 0) :
    (rejectionThreshold bound).toNat = (2 ^ 64 - bound.toNat) % bound.toNat := by
  have hpos : 0 < bound.toNat := Nat.pos_of_ne_zero fun hzero => h (UInt64.toNat_inj.mp hzero)
  have hlt := bound.toNat_lt
  have hwrapped : (0 - bound).toNat = 2 ^ 64 - bound.toNat := by
    rw [UInt64.toNat_sub, UInt64.toNat_zero, Nat.add_zero, Nat.mod_eq_of_lt (by omega)]
  rw [rejectionThreshold, UInt64.toNat_mod, hwrapped]

/-- Beyond the threshold there is a whole number of blocks. -/
theorem threshold_blocks (h : bound ≠ 0) :
    (rejectionThreshold bound).toNat + bound.toNat * (2 ^ 64 / bound.toNat) = 2 ^ 64 := by
  have hle : bound.toNat ≤ 2 ^ 64 := Nat.le_of_lt bound.toNat_lt
  rw [rejectionThreshold_toNat h, ← Nat.mod_eq_sub_mod hle]
  exact Nat.mod_add_div _ _

/-- **Each remainder is left by equally many of the draws that are kept.** -/
theorem ncard_residue {residue : UInt64} (h : residue < bound) :
    {draw : UInt64 | ¬draw < rejectionThreshold bound ∧ draw % bound = residue}.ncard =
      2 ^ 64 / bound.toNat := by
  have hlt : residue.toNat < bound.toNat := UInt64.lt_iff_toNat_lt.mp h
  have hne : bound ≠ 0 := by
    intro hzero
    rw [hzero] at hlt
    exact Nat.not_lt_zero _ hlt
  have hblocks := threshold_blocks hne
  have himage : UInt64.toNat ''
      {draw | ¬draw < rejectionThreshold bound ∧ draw % bound = residue} =
      ((Finset.Ico (rejectionThreshold bound).toNat ((rejectionThreshold bound).toNat +
        bound.toNat * (2 ^ 64 / bound.toNat))).filter (· % bound.toNat = residue.toNat) :
          Set Nat) := by
    ext value
    rw [hblocks, Finset.coe_filter, Set.mem_image, Set.mem_ofPred_eq, Finset.mem_Ico]
    constructor
    · rintro ⟨draw, ⟨hkept, hmod⟩, rfl⟩
      refine ⟨⟨UInt64.le_iff_toNat_le.mp (UInt64.not_lt.mp hkept), draw.toNat_lt⟩, ?_⟩
      rw [← UInt64.toNat_mod, hmod]
    · rintro ⟨⟨hfirst, hlast⟩, hmod⟩
      have hvalue : (UInt64.ofNat value).toNat = value := UInt64.toNat_ofNat_of_lt' hlast
      refine ⟨.ofNat value, ⟨?_, ?_⟩, hvalue⟩
      · rw [UInt64.not_lt, UInt64.le_iff_toNat_le, hvalue]
        exact hfirst
      · rw [← UInt64.toNat_inj, UInt64.toNat_mod, hvalue, hmod]
  rw [← Set.ncard_image_of_injective _ (fun _ _ => UInt64.toNat_inj.mp), himage,
    Set.ncard_coe_finset, Counting.card_blocks hlt]

/-! ### The draws of a stream -/

/-- What the loop returns is a later draw that is kept; the ordinals do not wrap around. -/
theorem acceptedDraw_some {threshold value next : UInt64} :
    ∀ (fuel : Nat) (ordinal : UInt64), fuel ≤ ordinalsLeft ordinal →
      acceptedDraw draw threshold fuel ordinal = some (value, next) →
        ∃ drawn, ordinal ≤ drawn ∧ next.toNat = drawn.toNat + 1 ∧ value = draw drawn ∧
          ¬value < threshold := by
  intro fuel
  induction fuel with
  | zero =>
      intro ordinal _ h
      cases h
  | succ fuel ih =>
      intro ordinal hfuel h
      unfold ordinalsLeft at hfuel ih
      have hnext : (ordinal + 1).toNat = ordinal.toNat + 1 := by
        rw [UInt64.toNat_add, UInt64.toNat_one, Nat.mod_eq_of_lt (by omega)]
      rw [acceptedDraw] at h
      by_cases hlow : draw ordinal < threshold
      · rw [if_pos hlow] at h
        obtain ⟨drawn, hle, hrest⟩ := ih (ordinal + 1) (by omega) h
        refine ⟨drawn, ?_, hrest⟩
        rw [UInt64.le_iff_toNat_le] at hle ⊢
        omega
      · rw [if_neg hlow] at h
        obtain ⟨rfl, rfl⟩ := Prod.mk.inj (Option.some.inj h)
        exact ⟨ordinal, UInt64.le_refl _, hnext, rfl, hlow⟩

/-- A shuffle goes by one kept draw for each turn, taken in the order of the stream. -/
theorem shuffle_draws : ∀ (remaining : Nat) (ordinal : UInt64) (values : List Nat),
      shuffle draw remaining ordinal values = .ok result →
        ∃ ordinals : List UInt64, ordinals.Pairwise (· < ·) ∧
          (∀ drawn ∈ ordinals, ordinal ≤ drawn) ∧
          AcceptedDraws remaining (ordinals.map draw) ∧
          result = arrange remaining
            (List.zipWith selectedBy (ordinals.map draw) (bounds remaining)) values := by
  intro remaining
  induction remaining with
  | zero =>
      intro ordinal values h
      exact ⟨[], .nil, nofun, .nil, (Except.ok.inj h).symm⟩
  | succ remaining ih =>
      intro ordinal values h
      cases remaining with
      | zero => exact ⟨[], .nil, nofun, .nil, (Except.ok.inj h).symm⟩
      | succ remaining =>
          rw [shuffle] at h
          split at h
          · cases h
          · rename_i value next hdraw
            obtain ⟨drawn, hle, hnext, rfl, hkept⟩ := acceptedDraw_some _ _ (Nat.le_refl _) hdraw
            rw [swapAt_eq] at h
            obtain ⟨ordinals, hordered, hlater, haccepted, hresult⟩ := ih next _ h
            have hafter : ∀ other ∈ ordinals, drawn < other := by
              intro other hother
              have hge := UInt64.le_iff_toNat_le.mp (hlater other hother)
              rw [UInt64.lt_iff_toNat_lt]
              omega
            refine ⟨drawn :: ordinals, List.pairwise_cons.mpr ⟨hafter, hordered⟩, ?_,
              .cons hkept haccepted, hresult⟩
            intro other hother
            rcases List.mem_cons.mp hother with rfl | hother
            · exact hle
            · exact UInt64.le_trans hle (UInt64.le_of_lt (hafter other hother))

/-- Draws that are all kept are taken one after another. -/
theorem shuffle_of_draws :
    ∀ (remaining : Nat) (ordinal : UInt64) (draws : List UInt64) (values : List Nat),
      ordinal.toNat + remaining ≤ 2 ^ 64 - 1 → AcceptedDraws remaining draws →
      (∀ (index : Nat) (value : UInt64), draws[index]? = some value →
        draw (.ofNat (ordinal.toNat + index)) = value) →
      shuffle draw remaining ordinal values =
        .ok (arrange remaining (List.zipWith selectedBy draws (bounds remaining)) values) := by
  intro remaining
  induction remaining with
  | zero => exact fun _ _ _ _ _ _ => rfl
  | succ remaining ih =>
      intro ordinal draws values hroom haccepted hdraws
      cases remaining with
      | zero => rfl
      | succ remaining =>
          obtain ⟨value, rest, hkept, hrest, rfl⟩ := List.forall₂_cons_right_iff.mp haccepted
          have hfirst : draw ordinal = value := by
            have hzero := hdraws 0 value rfl
            rwa [Nat.add_zero, UInt64.ofNat_toNat] at hzero
          have hnext : (ordinal + 1).toNat = ordinal.toNat + 1 := by
            rw [UInt64.toNat_add, UInt64.toNat_one, Nat.mod_eq_of_lt (by omega)]
          have hdrawn : acceptedDraw draw (rejectionThreshold (.ofNat (remaining + 2)))
              (ordinalsLeft ordinal) ordinal = some (value, ordinal + 1) := by
            obtain ⟨fuel, hfuel⟩ : ∃ fuel, ordinalsLeft ordinal = fuel + 1 :=
              Nat.exists_eq_add_one.mpr (by unfold ordinalsLeft; omega)
            rw [hfuel, acceptedDraw, hfirst, if_neg hkept]
          rw [shuffle]
          simp only [hdrawn, swapAt_eq]
          refine ih (ordinal + 1) rest _ (by omega) hrest ?_
          intro index other hother
          rw [hnext, Nat.add_right_comm]
          exact hdraws (index + 1) other hother

/-! ### Draws and permutations -/

theorem mem_bounds {bound : Nat} (h : bound ∈ bounds count) : 2 ≤ bound ∧ bound ≤ count := by
  induction count with
  | zero => cases h
  | succ count ih =>
      cases count with
      | zero => cases h
      | succ remaining =>
          rcases List.mem_cons.mp h with rfl | hrest
          · omega
          · have hlater := ih hrest
            omega

theorem length_bounds_le (count : Nat) : (bounds count).length ≤ count := by
  induction count with
  | zero => exact Nat.le_refl _
  | succ count ih =>
      cases count with
      | zero => exact Nat.zero_le _
      | succ remaining => exact Nat.succ_le_succ ih

theorem ofNat_bound {bound : Nat} (h : bound < 2 ^ 64) : (UInt64.ofNat bound).toNat = bound :=
  UInt64.toNat_ofNat_of_lt' h

/-- An element is selected by equally many of the draws that are kept. -/
theorem ncard_selecting {bound selected : Nat} (hlt : selected < bound) (hbound : bound < 2 ^ 64) :
    {draw | Accepted bound draw ∧ selectedBy draw bound = selected}.ncard = 2 ^ 64 / bound := by
  have hselected : selected < 2 ^ 64 := Nat.lt_trans hlt hbound
  have hresidue : UInt64.ofNat selected < UInt64.ofNat bound := by
    rw [UInt64.lt_iff_toNat_lt, ofNat_bound hselected, ofNat_bound hbound]
    exact hlt
  have hcount := ncard_residue hresidue
  rw [ofNat_bound hbound] at hcount
  rw [← hcount]
  congr 1
  ext draw
  show _ ∧ _ ↔ _ ∧ _
  rw [← UInt64.toNat_inj, ofNat_bound hselected]
  rfl

theorem selects_zipWith (hcount : count < 2 ^ 64) {draws : List UInt64}
    (h : draws.length = (bounds count).length) :
    Selects count (List.zipWith selectedBy draws (bounds count)) := by
  unfold Selects
  rw [List.forall₂_iff_get]
  refine ⟨by simp [h], ?_⟩
  intro index hindex hbound
  obtain ⟨hpositive, hle⟩ := mem_bounds (List.getElem_mem hbound)
  have hbelow : (bounds count)[index] < 2 ^ 64 := by omega
  simp only [List.get_eq_getElem, List.getElem_zipWith]
  unfold selectedBy
  rw [UInt64.toNat_mod, ofNat_bound hbelow]
  exact Nat.mod_lt _ (by omega)

/-- **Each permutation is made by equally many vectors of draws.** -/
theorem ncard_shuffledBy (hcount : count < 2 ^ 64) (h : result.Perm (List.range count)) :
    {draws | AcceptedDraws count draws ∧ shuffledBy count draws = result}.ncard =
      ((bounds count).map (2 ^ 64 / ·)).prod := by
  have hbij := Shuffles.arrange_bijOn (@List.nodup_range count)
  rw [List.length_range] at hbij
  obtain ⟨selections, hselects, harrange⟩ := hbij.surjOn h
  have hlength : selections.length = (bounds count).length := List.Forall₂.length_eq hselects
  have hdraws : {draws | AcceptedDraws count draws ∧ shuffledBy count draws = result} =
      {draws | List.Forall₂ (fun draw key => Accepted key.1 draw ∧ selectedBy draw key.1 = key.2)
        draws ((bounds count).zip selections)} := by
    ext draws
    have hzip : (AcceptedDraws count draws ∧
        List.zipWith selectedBy draws (bounds count) = selections) ↔ _ :=
      Counting.forall₂_zip_iff hlength
    rw [Set.mem_ofPred_eq, Set.mem_ofPred_eq, ← hzip]
    constructor
    · intro ⟨haccepted, hmade⟩
      refine ⟨haccepted, hbij.injOn ?_ hselects (hmade.trans harrange.symm)⟩
      exact selects_zipWith hcount (List.Forall₂.length_eq haccepted)
    · intro ⟨haccepted, hzip⟩
      refine ⟨haccepted, ?_⟩
      unfold shuffledBy
      rw [hzip]
      exact harrange
  rw [hdraws, Counting.ncard_forall₂]
  have heach : ∀ key ∈ (bounds count).zip selections,
      {draw | Accepted key.1 draw ∧ selectedBy draw key.1 = key.2}.ncard = 2 ^ 64 / key.1 := by
    intro key hkey
    obtain ⟨index, hindex, rfl⟩ := List.mem_iff_getElem.mp hkey
    rw [List.length_zip, hlength, Nat.min_self] at hindex
    rw [List.getElem_zip]
    have hle := (mem_bounds (List.getElem_mem hindex)).2
    exact ncard_selecting (List.Forall₂.get hselects (hlength ▸ hindex) hindex) (by omega)
  rw [List.map_congr_left heach]
  have hfst : ((bounds count).zip selections).map (fun key => 2 ^ 64 / key.1) =
      (((bounds count).zip selections).map Prod.fst).map (2 ^ 64 / ·) := by
    rw [List.map_map]
    rfl
  rw [hfst, List.map_fst_zip (Nat.le_of_eq hlength.symm)]

/-- Every vector of kept draws is taken from some stream. -/
theorem makePermutation_of_draws (hpositive : count ≠ 0) (hcount : count < 2 ^ 64)
    {draws : List UInt64} (h : AcceptedDraws count draws) :
    makePermutation count (fun ordinal => draws.getD ordinal.toNat 0) =
      .ok (shuffledBy count draws) := by
  rw [makePermutation, if_neg hpositive]
  refine shuffle_of_draws count 0 draws (List.range count) ?_ h ?_
  · rw [UInt64.toNat_zero]
    omega
  · intro index value hvalue
    obtain ⟨hindex, -⟩ := List.getElem?_eq_some_iff.mp hvalue
    have hfits : (0 : UInt64).toNat + index < 2 ^ 64 := by
      have hle := length_bounds_le count
      rw [List.Forall₂.length_eq h] at hindex
      rw [UInt64.toNat_zero]
      omega
    rw [ofNat_bound hfits, UInt64.toNat_zero, Nat.zero_add, List.getD_eq_getElem?_getD, hvalue]
    rfl

/-- **A permutation is shuffled without bias.**

What is made is a permutation, by one kept draw for each turn.  The kept draws leave every
remainder equally often.  Selections and permutations correspond one to one, so that every
permutation is made by the same number of vectors of kept draws; each of those is drawn
by some stream. -/
theorem permutation_unbiased (count : UInt64) :
    (∀ draw result, makePermutation count.toNat draw = .ok result →
      result.Perm (List.range count.toNat) ∧
      ∃ ordinals : List UInt64, ordinals.Pairwise (· < ·) ∧
        AcceptedDraws count.toNat (ordinals.map draw) ∧
        result = shuffledBy count.toNat (ordinals.map draw)) ∧
    (∀ bound : UInt64, bound ≠ 0 →
      (rejectionThreshold bound).toNat = (2 ^ 64 - bound.toNat) % bound.toNat ∧
      ∀ residue < bound,
        {draw : UInt64 | ¬draw < rejectionThreshold bound ∧ draw % bound = residue}.ncard =
          2 ^ 64 / bound.toNat) ∧
    Set.BijOn (fun selections => arrange count.toNat selections (List.range count.toNat))
      {selections | Selects count.toNat selections}
      {result | result.Perm (List.range count.toNat)} ∧
    (∀ result : List Nat, result.Perm (List.range count.toNat) →
      {draws | AcceptedDraws count.toNat draws ∧ shuffledBy count.toNat draws = result}.ncard =
        ((bounds count.toNat).map (2 ^ 64 / ·)).prod) ∧
    (count ≠ 0 → ∀ draws, AcceptedDraws count.toNat draws →
      ∃ draw, makePermutation count.toNat draw = .ok (shuffledBy count.toNat draws)) := by
  have hcount : count.toNat < 2 ^ 64 := count.toNat_lt
  refine ⟨?_, ?_, ?_, ?_, ?_⟩
  · intro draw result h
    refine ⟨makePermutation_perm h, ?_⟩
    rw [makePermutation] at h
    split at h
    · cases h
    · obtain ⟨ordinals, hordered, -, haccepted, hresult⟩ := shuffle_draws _ _ _ h
      exact ⟨ordinals, hordered, haccepted, hresult⟩
  · intro bound hbound
    exact ⟨rejectionThreshold_toNat hbound, fun residue hresidue => ncard_residue hresidue⟩
  · have hbij := Shuffles.arrange_bijOn (@List.nodup_range count.toNat)
    rwa [List.length_range] at hbij
  · intro result h
    exact ncard_shuffledBy hcount h
  · intro hne draws h
    have hpositive : count.toNat ≠ 0 := fun hzero => hne (UInt64.toNat_inj.mp hzero)
    exact ⟨_, makePermutation_of_draws hpositive hcount h⟩

end CpuPrefetch.Workload
