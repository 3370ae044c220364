/-
Lines of descent.

Each thing has at most one parent, and some have none.  Over finitely many things, going up
from a thing ends at one without a parent exactly when it never comes back; and where each
has at most one child, the line down from a thing has one end.
-/
import Mathlib

namespace Descent

open Relation

variable {A : Type} {parent : A → A → Prop} {x y z : A}

/-- Nothing is its own ancestor. -/
def Acyclic (parent : A → A → Prop) : Prop := ∀ x, ¬TransGen parent x x

def Root (parent : A → A → Prop) (x : A) : Prop := ∀ y, ¬parent x y

def Leaf (parent : A → A → Prop) (x : A) : Prop := ∀ y, ¬parent y x

/-- An ancestor of a thing on a cycle is on it. -/
theorem cycle_of_ancestor (hunique : Relator.RightUnique parent) (hcycle : TransGen parent x x)
    (hancestor : ReflTransGen parent x y) : TransGen parent y y := by
  induction hancestor with
  | refl => exact hcycle
  | tail _ hstep ih =>
      obtain ⟨next, hnext, hback⟩ := TransGen.head'_iff.mp ih
      rw [hunique hnext hstep] at hback
      exact TransGen.tail' hback hstep

theorem exists_root [Finite A] (hacyclic : Acyclic parent) (x : A) :
    ∃ root, ReflTransGen parent x root ∧ Root parent root := by
  have : IsTrans A (Function.swap (TransGen parent)) := ⟨fun _ _ _ h h' => h'.trans h⟩
  have : Std.Irrefl (Function.swap (TransGen parent)) := ⟨hacyclic⟩
  have hwf := Finite.wellFounded_of_trans_of_irrefl (Function.swap (TransGen parent))
  induction x using hwf.induction with
  | _ x ih =>
      by_cases hroot : Root parent x
      · exact ⟨x, .refl, hroot⟩
      · obtain ⟨y, hy⟩ : ∃ y, parent x y := by simpa [Root] using hroot
        obtain ⟨root, hup, hroot⟩ := ih y (TransGen.single hy)
        exact ⟨root, .head hy hup, hroot⟩

/-- Going up always ends at a root exactly when it never comes back. -/
theorem acyclic_iff_exists_root [Finite A] (hunique : Relator.RightUnique parent) :
    Acyclic parent ↔ ∀ x, ∃ root, ReflTransGen parent x root ∧ Root parent root := by
  constructor
  · exact exists_root
  · intro hroots x hcycle
    obtain ⟨root, hup, hroot⟩ := hroots x
    obtain ⟨next, hnext, -⟩ := TransGen.head'_iff.mp (cycle_of_ancestor hunique hcycle hup)
    exact hroot next hnext

theorem exists_leaf [Finite A] (hacyclic : Acyclic parent) (x : A) :
    ∃ leaf, ReflTransGen parent leaf x ∧ Leaf parent leaf := by
  have hswap : Acyclic (Function.swap parent) := by
    intro y hcycle
    exact hacyclic y (transGen_swap.mp hcycle)
  obtain ⟨leaf, hdown, hleaf⟩ := exists_root hswap x
  exact ⟨leaf, reflTransGen_swap.mp hdown, hleaf⟩

/-- Where each has at most one child, the line down has one end. -/
theorem leaf_unique (hunique : Relator.LeftUnique parent) (hx : ReflTransGen parent x z)
    (hy : ReflTransGen parent y z) (hleaf : Leaf parent x) (hleaf' : Leaf parent y) : x = y := by
  have hswap : Relator.RightUnique (Function.swap parent) := fun _ _ _ h h' => hunique h h'
  have htotal := ReflTransGen.total_of_right_unique hswap (reflTransGen_swap.mpr hx)
    (reflTransGen_swap.mpr hy)
  rcases htotal with hdown | hdown
  · rcases ReflTransGen.cases_head hdown with hsame | ⟨next, hnext, -⟩
    · exact hsame
    · exact absurd hnext (hleaf next)
  · rcases ReflTransGen.cases_head hdown with hsame | ⟨next, hnext, -⟩
    · exact hsame.symm
    · exact absurd hnext (hleaf' next)

/-- What every child shares with its parent is shared along the line. -/
theorem shared {B : Type} {f : A → B} (hshare : ∀ x y, parent x y → f x = f y)
    (h : ReflTransGen parent x y) : f x = f y := by
  induction h with
  | refl => rfl
  | tail _ hstep ih => exact ih.trans (hshare _ _ hstep)

end Descent
