/-
Computations that change a state and may stop early.

What a stopped computation has changed stays changed, so a relation between the state
before and the state after is proved for every computation, stopped or not, and the
rules here put it together from the steps.  What holds after a computation that went
through is read off its steps one bind at a time.
-/
import Mathlib

variable {ε σ α β : Type}

/-- A computation over a state, with a result or a reason to stop. -/
abbrev Effect (ε σ α : Type) := ExceptT ε (StateM σ) α

namespace Effect

/-- The result and the state that the computation leaves. -/
def exec (x : Effect ε σ α) (s : σ) : Except ε α × σ := x s

/-- A computation given by what it does to every state. -/
def of (x : σ → Except ε α × σ) : Effect ε σ α := x

/-- The answer of a pure check. -/
def lift (x : Except ε α) : Effect ε σ α := fun s => (x, s)

@[simp] theorem exec_of (x : σ → Except ε α × σ) (s : σ) : (of x).exec s = x s := rfl

@[simp] theorem exec_lift (x : Except ε α) (s : σ) : (lift x : Effect ε σ α).exec s = (x, s) := rfl

@[simp] theorem exec_pure (a : α) (s : σ) : (pure a : Effect ε σ α).exec s = (.ok a, s) := rfl

@[simp] theorem exec_throw (e : ε) (s : σ) : (throw e : Effect ε σ α).exec s = (.error e, s) := rfl

theorem exec_bind (x : Effect ε σ α) (f : α → Effect ε σ β) (s : σ) :
    (x >>= f).exec s =
      match x.exec s with
      | (.ok a, s') => (f a).exec s'
      | (.error e, s') => (.error e, s') := by
  show StateT.bind x (ExceptT.bindCont f) s = _
  unfold StateT.bind exec
  rcases x s with ⟨_ | a, middle⟩ <;> rfl

/-! ### Computations that go on -/

variable {s : σ} {x : Effect ε σ α}

/-- A sequence goes on from where its first step went through. -/
theorem exec_bind_of {f : α → Effect ε σ β} {m : σ} {a : α} {result : Except ε β × σ}
    (h : x.exec s = (.ok a, m)) (hrest : (f a).exec m = result) : (x >>= f).exec s = result := by
  rw [exec_bind, h]
  exact hrest

variable {e : ε} {f : PUnit → Effect ε σ β} {p : Prop}

/-- A sequence goes on past a guard that does not hold. -/
theorem exec_guard_of [Decidable p] {result : Except ε β × σ} (h : ¬p)
    (hrest : (f ⟨⟩).exec s = result) :
    (if p then throw e >>= f else f ⟨⟩ : Effect ε σ β).exec s = result := by
  rw [if_neg h]
  exact hrest

/-! ### Computations that went through -/

variable {s' : σ}

/-- A sequence that went through went through its first step. -/
theorem bind_ok {f : α → Effect ε σ β} {b : β} (h : (x >>= f).exec s = (.ok b, s')) :
    ∃ a middle, x.exec s = (.ok a, middle) ∧ (f a).exec middle = (.ok b, s') := by
  rw [exec_bind] at h
  rcases hx : x.exec s with ⟨_ | a, middle⟩
  · rw [hx] at h
    cases h
  · rw [hx] at h
    exact ⟨a, middle, rfl, h⟩

/-- A sequence that goes on past a guard is not stopped by it. -/
theorem guard_ok [Decidable p] {b : β}
    (h : (if p then throw e >>= f else f ⟨⟩ : Effect ε σ β).exec s = (.ok b, s')) :
    ¬p ∧ (f ⟨⟩).exec s = (.ok b, s') := by
  split at h
  · cases h
  · rename_i hp
    exact ⟨hp, h⟩

/-! ### Computations that stopped -/

/-- A sequence that stopped did so in its first step or after it. -/
theorem bind_error {f : α → Effect ε σ β} (h : (x >>= f).exec s = (.error e, s')) :
    x.exec s = (.error e, s') ∨
      ∃ a middle, x.exec s = (.ok a, middle) ∧ (f a).exec middle = (.error e, s') := by
  rw [exec_bind] at h
  rcases hx : x.exec s with ⟨e' | a, middle⟩
  · rw [hx] at h
    obtain ⟨he, rfl⟩ := Prod.mk.inj h
    obtain rfl := Except.error.inj he
    exact .inl rfl
  · rw [hx] at h
    exact .inr ⟨a, middle, rfl, h⟩

/-- A guard that stops a sequence changes nothing. -/
theorem guard_error [Decidable p] {e' : ε}
    (h : (if p then throw e >>= f else f ⟨⟩ : Effect ε σ β).exec s = (.error e', s')) :
    (p ∧ s' = s) ∨ (¬p ∧ (f ⟨⟩).exec s = (.error e', s')) := by
  split at h
  · rename_i hp
    exact .inl ⟨hp, (Prod.mk.inj h).2.symm⟩
  · rename_i hp
    exact .inr ⟨hp, h⟩

/-! ### What every computation keeps -/

/-- The relation holds between the state before and the state after, stopped or not. -/
def Keeps (R : σ → σ → Prop) (x : Effect ε σ α) : Prop := ∀ s, R s (x.exec s).2

variable {R : σ → σ → Prop}

theorem Keeps.exec (hx : Keeps R x) {result : Except ε α} (h : x.exec s = (result, s')) :
    R s s' := by
  have hkeeps := hx s
  rwa [h] at hkeeps

theorem Keeps.lift [Std.Refl R] (x : Except ε α) : Keeps R (lift x : Effect ε σ α) :=
  fun s => Std.Refl.refl s

theorem Keeps.pure [Std.Refl R] (a : α) : Keeps R (pure a : Effect ε σ α) :=
  fun s => Std.Refl.refl s

theorem Keeps.bind [IsTrans σ R] {f : α → Effect ε σ β} (hx : Keeps R x) (hf : ∀ a, Keeps R (f a)) :
    Keeps R (x >>= f) := by
  intro s
  rw [exec_bind]
  have hfirst := hx s
  rcases hexec : x.exec s with ⟨_ | a, middle⟩
  · rw [hexec] at hfirst
    exact hfirst
  · rw [hexec] at hfirst
    exact IsTrans.trans _ _ _ hfirst (hf a middle)

theorem Keeps.guard [Std.Refl R] [IsTrans σ R] (p : Prop) [Decidable p] (e : ε)
    (hf : Keeps R (f ⟨⟩)) :
    Keeps R (if p then MonadExcept.throw e >>= f else f ⟨⟩ : Effect ε σ β) := by
  split
  · exact fun s => Std.Refl.refl s
  · exact hf

end Effect
