/-
Counting residues, and vectors whose entries are counted one by one.

In any `quotient` whole blocks of `modulus` numbers each residue occurs `quotient` times,
wherever the first block starts.  A vector with a condition on each entry is one choice for each of
them, so there are as many vectors as the product of the choices.
-/
import Mathlib

namespace Counting

/-! ### Residues -/

/-- Each residue occurs once in a block. -/
theorem card_block {modulus residue : Nat} (h : residue < modulus) (start : Nat) :
    ((Finset.Ico start (start + modulus)).filter (· % modulus = residue)).card = 1 := by
  have hperiodic : Function.Periodic (fun x => x % modulus = residue) modulus := by
    intro x
    simp
  rw [Nat.filter_Ico_card_eq_of_periodic start modulus _ hperiodic,
    Nat.count_eq_card_filter_range, Finset.card_eq_one]
  refine ⟨residue, ?_⟩
  ext x
  rw [Finset.mem_filter, Finset.mem_range, Finset.mem_singleton]
  constructor
  · rintro ⟨hx, hmod⟩
    rwa [Nat.mod_eq_of_lt hx] at hmod
  · rintro rfl
    exact ⟨h, Nat.mod_eq_of_lt h⟩

/-- **Each residue occurs equally often in whole blocks.** -/
theorem card_blocks {modulus residue : Nat} (h : residue < modulus) (start quotient : Nat) :
    ((Finset.Ico start (start + modulus * quotient)).filter (· % modulus = residue)).card =
      quotient := by
  induction quotient with
  | zero => simp
  | succ quotient ih =>
      have hsplit : Finset.Ico start (start + modulus * (quotient + 1)) =
          Finset.Ico start (start + modulus * quotient) ∪
            Finset.Ico (start + modulus * quotient)
              (start + modulus * quotient + modulus) := by
        rw [Finset.Ico_union_Ico_eq_Ico (Nat.le_add_right _ _) (Nat.le_add_right _ _),
          Nat.mul_succ, Nat.add_assoc]
      rw [hsplit, Finset.filter_union, Finset.card_union_of_disjoint, ih, card_block h]
      exact Finset.disjoint_filter_filter (Finset.Ico_disjoint_Ico_consecutive _ _ _)

/-! ### Vectors -/

variable {α β γ : Type}

/-- **A vector is one choice for each entry.** -/
theorem ncard_forall₂ (holds : α → β → Prop) (keys : List β) :
    {xs | List.Forall₂ holds xs keys}.ncard =
      (keys.map fun key => {x | holds x key}.ncard).prod := by
  induction keys with
  | nil =>
      have hnil : {xs | List.Forall₂ holds xs []} = {[]} := by
        ext xs
        exact List.forall₂_nil_right_iff
      rw [hnil, Set.ncard_singleton]
      rfl
  | cons key rest ih =>
      have hcons : {xs | List.Forall₂ holds xs (key :: rest)} =
          (fun pair : α × List α => pair.1 :: pair.2) ''
            ({x | holds x key} ×ˢ {xs | List.Forall₂ holds xs rest}) := by
        ext xs
        rw [Set.mem_ofPred_eq, List.forall₂_cons_right_iff, Set.mem_image]
        constructor
        · rintro ⟨x, others, hx, hothers, rfl⟩
          exact ⟨(x, others), ⟨hx, hothers⟩, rfl⟩
        · rintro ⟨⟨x, others⟩, ⟨hx, hothers⟩, rfl⟩
          exact ⟨x, others, hx, hothers, rfl⟩
      have hinjective : Function.Injective fun pair : α × List α => pair.1 :: pair.2 := by
        intro left right heq
        obtain ⟨hfirst, hrest⟩ := List.cons.inj heq
        exact Prod.ext hfirst hrest
      rw [hcons, Set.ncard_image_of_injective _ hinjective, Set.ncard_prod, ih, List.map_cons,
        List.prod_cons]

/-- What each entry gives can be stated as a condition on that entry. -/
theorem forall₂_zip_iff {holds : α → β → Prop} {gives : α → β → γ} {keys : List β}
    {values : List γ} {xs : List α} (h : values.length = keys.length) :
    (List.Forall₂ holds xs keys ∧ List.zipWith gives xs keys = values) ↔
      List.Forall₂ (fun x key => holds x key.1 ∧ gives x key.1 = key.2) xs (keys.zip values) := by
  induction keys generalizing values xs with
  | nil =>
      obtain rfl := List.eq_nil_of_length_eq_zero h
      cases xs <;> simp
  | cons key rest ih =>
      cases values with
      | nil => cases h
      | cons value values =>
          cases xs with
          | nil => simp
          | cons x xs =>
              have hrest := @ih values xs (Nat.succ.inj h)
              simp only [List.zip_cons_cons, List.forall₂_cons, List.zipWith_cons_cons,
                List.cons.injEq, ← hrest]
              tauto

end Counting
