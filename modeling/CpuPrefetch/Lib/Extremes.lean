/-
The best value a loop has seen, by a comparison with the one it holds.

The held value is replaced only by one that is better, so of equally good values it is the
first.  Where no two values are equally good, the order in which they come does not matter.
A loop that holds on to the last value that is not neutral is another matter: there the order
decides.
-/
import Mathlib

namespace Extremes

open List

variable {α β : Type} [LinearOrder β] {better : α → α → Prop} [DecidableRel better] {key : α → β}

/-- A value is kept if none is held yet, or if it is better than the one held. -/
def improve (better : α → α → Prop) [DecidableRel better] (held : Option α) (value : α) :
    Option α :=
  match held with
  | none => some value
  | some best => if better value best then some value else some best

/-- The better of two values is the one with the larger key. -/
def Ranks (better : α → α → Prop) (key : α → β) : Prop :=
  ∀ value best, better value best ↔ key best < key value

/-- A value of the list that no other one beats. -/
structure IsBest (key : α → β) (values : List α) (best : α) : Prop where
  mem : best ∈ values
  le : ∀ value ∈ values, key value ≤ key best

theorem foldl_improve_some (h : Ranks better key) (values : List α) (held : α) :
    ∃ best, values.foldl (improve better) (some held) = some best ∧
      IsBest key (held :: values) best := by
  induction values generalizing held with
  | nil => exact ⟨held, rfl, mem_cons_self, fun value hvalue => by
      rw [List.mem_singleton.mp hvalue]⟩
  | cons next rest ih =>
      rw [foldl_cons]
      by_cases hbetter : better next held
      · obtain ⟨best, hbest, hmem, hle⟩ := ih next
        refine ⟨best, by rw [improve, if_pos hbetter, hbest], ?_, ?_⟩
        · exact mem_cons_of_mem _ hmem
        · intro value hvalue
          rcases List.mem_cons.mp hvalue with rfl | hrest
          · exact ((h _ _).mp hbetter).le.trans (hle next mem_cons_self)
          · exact hle value hrest
      · obtain ⟨best, hbest, hmem, hle⟩ := ih held
        refine ⟨best, by rw [improve, if_neg hbetter, hbest], ?_, ?_⟩
        · rcases List.mem_cons.mp hmem with rfl | hrest
          · exact mem_cons_self
          · exact mem_cons_of_mem _ (mem_cons_of_mem _ hrest)
        · intro value hvalue
          rcases List.mem_cons.mp hvalue with rfl | hrest
          · exact hle _ mem_cons_self
          · rcases List.mem_cons.mp hrest with rfl | hlater
            · have hnext : key value ≤ key held := not_lt.mp fun hlt => hbetter ((h _ _).mpr hlt)
              exact hnext.trans (hle held mem_cons_self)
            · exact hle value (mem_cons_of_mem _ hlater)

variable {best : α} {values : List α}

/-- What a loop that starts with nothing holds in the end. -/
theorem foldl_improve (h : Ranks better key)
    (hfold : values.foldl (improve better) none = some best) : IsBest key values best := by
  cases values with
  | nil => cases hfold
  | cons first rest =>
      obtain ⟨found, hfound, hbest⟩ := foldl_improve_some h rest first
      rw [foldl_cons, improve, hfound] at hfold
      rwa [Option.some.inj hfold] at hbest

theorem foldl_improve_eq_none (h : Ranks better key) :
    values.foldl (improve better) none = none ↔ values = [] := by
  cases values with
  | nil => exact iff_of_true rfl rfl
  | cons first rest =>
      obtain ⟨found, hfound, -⟩ := foldl_improve_some h rest first
      rw [foldl_cons, improve, hfound]
      exact iff_of_false nofun nofun

/-- What is kept of the values of a set is the greatest one of the set. -/
theorem exists_isGreatest {α : Type} [LinearOrder α] {values : List α} {S : Set α}
    (h : {value | value ∈ values} = S) (hne : S.Nonempty) : ∃ best,
      values.foldl (improve fun value best : α => value > best) none = some best ∧
        IsGreatest S best := by
  have hranks : Ranks (fun value best : α => value > best) id := fun _ _ => Iff.rfl
  subst h
  cases hfold : values.foldl (improve fun value best : α => value > best) none with
  | none =>
      obtain ⟨value, hvalue⟩ := hne
      rw [(foldl_improve_eq_none hranks).mp hfold] at hvalue
      cases hvalue
  | some best =>
      obtain ⟨hmem, hle⟩ := foldl_improve hranks hfold
      exact ⟨best, rfl, hmem, hle⟩

theorem exists_isLeast {α : Type} [LinearOrder α] {values : List α} {S : Set α}
    (h : {value | value ∈ values} = S) (hne : S.Nonempty) : ∃ best,
      values.foldl (improve fun value best : α => value < best) none = some best ∧
        IsLeast S best :=
  exists_isGreatest (α := αᵒᵈ) h hne

theorem IsBest.unique (hinj : Set.InjOn key {value | value ∈ values}) {best' : α}
    (hbest : IsBest key values best) (hbest' : IsBest key values best') : best = best' :=
  hinj hbest.mem hbest'.mem ((hbest'.le best hbest.mem).antisymm (hbest.le best' hbest'.mem))

theorem IsBest.perm {values' : List α} (hperm : values.Perm values')
    (hbest : IsBest key values best) : IsBest key values' best :=
  ⟨hperm.mem_iff.mp hbest.mem, fun value hvalue => hbest.le value (hperm.mem_iff.mpr hvalue)⟩

/-- **The order does not matter** where the keys tell the values apart. -/
theorem foldl_improve_perm (h : Ranks better key) {values' : List α} (hperm : values.Perm values')
    (hinj : Set.InjOn key {value | value ∈ values}) :
    values.foldl (improve better) none = values'.foldl (improve better) none := by
  cases hfold : values'.foldl (improve better) none with
  | none =>
      rw [foldl_improve_eq_none h] at hfold ⊢
      rw [hfold] at hperm
      exact hperm.eq_nil
  | some best' =>
      cases hfold' : values.foldl (improve better) none with
      | none =>
          rw [foldl_improve_eq_none h] at hfold'
          rw [hfold'] at hperm
          rw [← hperm.nil_eq] at hfold
          cases hfold
      | some best =>
          have hbest := foldl_improve h hfold'
          have hbest' := (foldl_improve h hfold).perm hperm.symm
          rw [hbest.unique hinj hbest']

/-! ### The last value that is not neutral -/

section Overwrite

variable {A : Type} [DecidableEq A] {neutral held a b : A} {values : List A}

/-- A value overwrites the one held unless it is neutral. -/
def overwrite (neutral held value : A) : A := if value = neutral then held else value

theorem foldl_overwrite_cases (neutral held : A) (values : List A) :
    (values.foldl (overwrite neutral) held = held ∧ ∀ value ∈ values, value = neutral) ∨
      (values.foldl (overwrite neutral) held ∈ values ∧
        values.foldl (overwrite neutral) held ≠ neutral) := by
  induction values generalizing held with
  | nil => exact Or.inl ⟨rfl, nofun⟩
  | cons value rest ih =>
      rw [foldl_cons, forall_mem_cons]
      rcases ih (overwrite neutral held value) with ⟨hheld, hrest⟩ | ⟨hmem, hne⟩
      · by_cases hneutral : value = neutral
        · left
          rw [hheld, overwrite, if_pos hneutral]
          exact ⟨rfl, hneutral, hrest⟩
        · right
          rw [hheld, overwrite, if_neg hneutral]
          exact ⟨mem_cons_self, hneutral⟩
      · exact Or.inr ⟨mem_cons_of_mem _ hmem, hne⟩

theorem foldl_overwrite_eq_neutral :
    values.foldl (overwrite neutral) neutral = neutral ↔ ∀ value ∈ values, value = neutral := by
  rcases foldl_overwrite_cases neutral neutral values with ⟨hheld, hall⟩ | ⟨hmem, hne⟩
  · exact iff_of_true hheld hall
  · exact iff_of_false hne fun hall => hne (hall _ hmem)

/-- The last `a` is followed by a `b`. -/
def Overtaken (a b : A) (values : List A) : Prop :=
  ∃ before after, values = before ++ a :: after ∧ a ∉ after ∧ b ∈ after

/-- Of three values, one of which is neutral, one of the others is lost exactly when the last one
overtakes it. -/
theorem overtaken_iff (hthree : ∀ value, value = neutral ∨ value = a ∨ value = b)
    (ha : a ≠ neutral) (hb : b ≠ neutral) (hab : a ≠ b) :
    Overtaken a b values ↔
      values.foldl (overwrite neutral) neutral = b ∧ a ∈ values := by
  have hsplit : ∀ before after : List A,
      (before ++ a :: after).foldl (overwrite neutral) neutral =
        after.foldl (overwrite neutral) a := by
    intro before after
    rw [foldl_append, foldl_cons, overwrite, if_neg ha]
  constructor
  · rintro ⟨before, after, rfl, hnone, hlater⟩
    refine ⟨?_, mem_append_right _ mem_cons_self⟩
    rw [hsplit]
    rcases foldl_overwrite_cases neutral a after with ⟨-, hall⟩ | ⟨hmem, hne⟩
    · exact absurd (hall b hlater) hb
    · rcases hthree (after.foldl (overwrite neutral) a) with h | h | h
      · exact absurd h hne
      · rw [h] at hmem
        exact absurd hmem hnone
      · exact h
  · rintro ⟨hfold, hmem⟩
    obtain ⟨back, front, hvalues, hnone⟩ :=
      eq_append_cons_of_mem (List.mem_reverse.mpr hmem)
    have hvalues : values = front.reverse ++ a :: back.reverse := by
      have hback := congrArg List.reverse hvalues
      simpa using hback
    refine ⟨front.reverse, back.reverse, hvalues, fun h => hnone (List.mem_reverse.mp h), ?_⟩
    rw [hvalues, hsplit] at hfold
    rcases foldl_overwrite_cases neutral a back.reverse with ⟨hheld, -⟩ | ⟨hlater, -⟩
    · exact absurd (hheld.symm.trans hfold) hab
    · rwa [hfold] at hlater

end Overwrite

end Extremes
