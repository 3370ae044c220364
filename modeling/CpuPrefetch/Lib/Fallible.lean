/-
Computations that may fail, read backward.

A result says that every step before it went through; these lemmas take a sequence of
steps apart, one bind or one guard at a time.  A computation may also collect its errors and
go on; it has none at the end exactly if no step had one.
-/
import Mathlib

namespace Fallible

variable {ε α β : Type}

theorem ok_bind (a : α) (f : α → Except ε β) : (Except.ok a >>= f) = f a := rfl

theorem error_bind (e : ε) (f : α → Except ε β) : (Except.error e >>= f) = .error e := rfl

variable {b : β} {f : α → Except ε β} {x : Except ε α}

/-- A sequence that goes through has gone through its first step. -/
theorem bind_ok (h : x >>= f = .ok b) : ∃ a, x = .ok a ∧ f a = .ok b := by
  cases x with
  | error e => cases h
  | ok a => exact ⟨a, rfl, h⟩

variable {a : α} {e : ε}

/-- A sequence that goes on past a guard is not stopped by it. -/
theorem guard_ok {p : Prop} [Decidable p] {f : PUnit → Except ε α}
    (h : (if p then throw e >>= f else f ⟨⟩) = .ok a) : ¬p ∧ f ⟨⟩ = .ok a := by
  split at h
  · cases h
  · rename_i hp
    exact ⟨hp, h⟩

theorem map_ok {f : α → β} (h : x.map f = .ok b) : ∃ a, x = .ok a ∧ f a = b := by
  cases x with
  | error e => cases h
  | ok a => exact ⟨a, rfl, Except.ok.inj h⟩

/-- An error that no step fails with is not what a sequence fails with. -/
theorem bind_ne_error_of (hx : x ≠ .error e) (hf : ∀ a, x = .ok a → f a ≠ .error e) :
    x >>= f ≠ .error e := by
  cases x with
  | error e' =>
      intro h
      exact hx (congrArg Except.error (Except.error.inj h))
  | ok a => exact hf a rfl

theorem bind_ne_error (hx : x ≠ .error e) (hf : ∀ a, f a ≠ .error e) : x >>= f ≠ .error e :=
  bind_ne_error_of hx fun a _ => hf a

theorem map_ne_error (hx : x ≠ .error e) (f : α → β) : x.map f ≠ .error e := by
  cases x with
  | error e' =>
      intro h
      exact hx (congrArg Except.error (Except.error.inj h))
  | ok a => exact nofun

variable {xs : List α}

/-- A loop that goes through has gone through every turn. -/
theorem forall₂_of_mapM {ys : List β} (h : xs.mapM f = .ok ys) :
    List.Forall₂ (fun x y => f x = .ok y) xs ys := by
  induction xs generalizing ys with
  | nil =>
      obtain rfl := Except.ok.inj h
      exact .nil
  | cons x xs ih =>
      rw [List.mapM_cons] at h
      obtain ⟨y, hy, h⟩ := bind_ok h
      obtain ⟨rest, hrest, h⟩ := bind_ok h
      obtain rfl := Except.ok.inj h
      exact .cons hy (ih hrest)

/-- What a loop gives comes from one of its turns. -/
theorem mem_of_mapM {ys : List β} (h : xs.mapM f = .ok ys) {y : β} (hy : y ∈ ys) :
    ∃ x ∈ xs, f x = .ok y := by
  obtain ⟨index, hindex, rfl⟩ := List.mem_iff_getElem.mp hy
  have hturns := forall₂_of_mapM h
  have hbound : index < xs.length := hturns.length_eq ▸ hindex
  exact ⟨xs[index], List.getElem_mem hbound, hturns.get hbound hindex⟩

/-- A loop whose every turn goes through goes through. -/
theorem mapM_of_forall {g : α → β} (h : ∀ x ∈ xs, f x = .ok (g x)) :
    xs.mapM f = .ok (xs.map g) := by
  induction xs with
  | nil => rfl
  | cons x xs ih =>
      obtain ⟨hx, hrest⟩ := List.forall_mem_cons.mp h
      rw [List.mapM_cons, hx, ok_bind, ih hrest, ok_bind]
      rfl

theorem of_toOption (h : x.toOption = some a) : x = .ok a := by
  cases x with
  | error e => cases h
  | ok b => rw [Option.some.inj h]

/-! ### Errors that are collected -/

/-- The computation gives this value and finds no error. -/
def Clean (x : Writer (List ε) α) (a : α) : Prop := x.run.run = (a, [])

theorem clean_of_errors {x : Writer (List ε) α} (h : x.run.run.2 = []) : Clean x x.run.run.1 :=
  Prod.ext rfl h

theorem clean_pure {b : α} : Clean (pure a : Writer (List ε) α) b ↔ a = b := by
  show (a, []) = (b, []) ↔ a = b
  simp

theorem clean_tell {errors : List ε} {a : PUnit} :
    Clean (tell errors : Writer (List ε) PUnit) a ↔ errors = [] := by
  show (⟨⟩, errors) = (a, []) ↔ errors = []
  simp

/-- A sequence finds no error exactly if none of its steps does. -/
theorem clean_bind {x : Writer (List ε) α} {f : α → Writer (List ε) β} :
    Clean (x >>= f) b ↔ ∃ a, Clean x a ∧ Clean (f a) b := by
  have hrun : (x >>= f).run.run =
      ((f x.run.run.1).run.run.1, x.run.run.2 ++ (f x.run.run.1).run.run.2) := rfl
  rw [Clean, hrun, Prod.mk_inj, List.append_eq_nil_iff]
  constructor
  · rintro ⟨hvalue, hfirst, hrest⟩
    exact ⟨x.run.run.1, Prod.ext rfl hfirst, Prod.ext hvalue hrest⟩
  · rintro ⟨a, ha, hb⟩
    rw [ha, hb]
    exact ⟨rfl, rfl, rfl⟩

end Fallible
