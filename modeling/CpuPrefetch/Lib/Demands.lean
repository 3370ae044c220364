/-
Computations that check as they go.

A computation makes its demands one after another: that a condition holds, or that a
number is within the limit.  It stops at the first demand that is not met, and its error
tells which sort that was.  So it reports an overflow exactly when some number is beyond
the limit and every condition demanded before it holds.

A chain of checked sums and products makes demands on numbers only, and gives nothing
when one of them is not met.
-/
import Mathlib

namespace Demands

variable {ε α β : Type} {limit : Nat}

/-! ### Demands -/

inductive Demand where
  | condition (p : Prop)
  | number (n : Nat)

def Demand.Met (limit : Nat) : Demand → Prop
  | .condition p => p
  | .number n => n ≤ limit

/-- A condition that holds; a number is not looked at. -/
def Demand.Holds : Demand → Prop
  | .condition p => p
  | .number _ => True

@[simp] theorem Demand.met_condition {p : Prop} : (Demand.condition p).Met limit ↔ p := Iff.rfl

@[simp] theorem Demand.met_number {n : Nat} : (Demand.number n).Met limit ↔ n ≤ limit := Iff.rfl

@[simp] theorem Demand.holds_condition {p : Prop} : (Demand.condition p).Holds ↔ p := Iff.rfl

@[simp] theorem Demand.holds_number {n : Nat} : (Demand.number n).Holds := trivial

/-- Some number is beyond the limit, and the conditions demanded before it hold. -/
def Overflows (limit : Nat) : List Demand → Prop
  | [] => False
  | .condition p :: rest => p ∧ Overflows limit rest
  | .number n :: rest => limit < n ∨ Overflows limit rest

theorem overflows_append (ds ds' : List Demand) :
    Overflows limit (ds ++ ds') ↔
      Overflows limit ds ∨ (∀ d ∈ ds, d.Holds) ∧ Overflows limit ds' := by
  induction ds with
  | nil => simp [Overflows]
  | cons d ds ih =>
      cases d with
      | condition p =>
          simp only [List.cons_append, Overflows, ih, List.forall_mem_cons, Demand.holds_condition]
          tauto
      | number n =>
          simp only [List.cons_append, Overflows, ih, List.forall_mem_cons, Demand.holds_number]
          tauto

theorem overflows_numbers (ns : List Nat) :
    Overflows limit (ns.map .number) ↔ ∃ n ∈ ns, limit < n := by
  induction ns with
  | nil => simp [Overflows]
  | cons n ns ih => simp [Overflows, ih]

theorem holds_numbers (ns : List Nat) : ∀ d ∈ ns.map Demand.number, d.Holds := by
  intro d hd
  obtain ⟨n, -, rfl⟩ := List.mem_map.mp hd
  trivial

theorem met_numbers {ns : List Nat} :
    (∀ d ∈ ns.map Demand.number, d.Met limit) ↔ ∀ n ∈ ns, n ≤ limit := by
  simp

/-! ### Chains -/

/-- A good value if every number is within the limit, and nothing otherwise. -/
structure Chain (limit : Nat) (good : α → Prop) (ns : List Nat) (o : Option α) : Prop where
  within : (∀ n ∈ ns, n ≤ limit) → ∃ a, o = some a ∧ good a
  beyond : (∃ n ∈ ns, limit < n) → o = none

namespace Chain

variable {good : α → Prop} {good' : β → Prop} {ns : List Nat} {o : Option α}

theorem done {a : α} (h : good a) : Chain limit good [] (some a) :=
  ⟨fun _ => ⟨a, rfl, h⟩, nofun⟩

/-- One number, and what is made of it. -/
theorem next {n : Nat} {f : α → Option β} (h : Chain limit good [n] o)
    (hf : ∀ a, good a → Chain limit good' ns (f a)) : Chain limit good' (n :: ns) (o >>= f) := by
  by_cases hn : n ≤ limit
  · obtain ⟨a, rfl, ha⟩ := h.within (by simpa using hn)
    refine ⟨fun hns => (hf a ha).within fun m hm => hns m (List.mem_cons_of_mem _ hm), ?_⟩
    intro ⟨m, hm, hbeyond⟩
    rcases List.mem_cons.mp hm with rfl | hm
    · exact absurd hn (Nat.not_le_of_lt hbeyond)
    · exact (hf a ha).beyond ⟨m, hm, hbeyond⟩
  · rw [h.beyond ⟨n, List.mem_singleton_self _, Nat.lt_of_not_le hn⟩]
    exact ⟨fun hns => absurd (hns n List.mem_cons_self) hn, fun _ => rfl⟩

/-- Numbers can be left out, or put in, where they do not decide. -/
theorem relist {ns' : List Nat} (hns : (∃ n ∈ ns, limit < n) ↔ ∃ n ∈ ns', limit < n)
    (h : Chain limit good ns o) : Chain limit good ns' o := by
  refine ⟨fun hwithin => h.within ?_, fun hbeyond => h.beyond (hns.mpr hbeyond)⟩
  intro n hn
  by_contra hlt
  obtain ⟨m, hm, hbeyond⟩ := hns.mp ⟨n, hn, Nat.lt_of_not_le hlt⟩
  exact Nat.not_lt_of_le (hwithin m hm) hbeyond

/-- Partial sums only grow, so a sum overflows when the whole sum does. -/
theorem sum {read : α → Nat} {add : α → α → Option α}
    (hadd : ∀ a b, Chain limit (fun c => read c = read a + read b) [read a + read b] (add a b))
    (values : List α) (start : α) (hstart : read start ≤ limit) :
    Chain limit (fun c => read c = read start + (values.map read).sum)
      [read start + (values.map read).sum] (values.foldlM add start) := by
  induction values generalizing start with
  | nil => exact ⟨fun _ => ⟨start, rfl, rfl⟩, fun ⟨n, hn, hbeyond⟩ => by
      rw [List.mem_singleton.mp hn] at hbeyond
      exact absurd hbeyond (Nat.not_lt_of_le hstart)⟩
  | cons value values ih =>
      rw [List.foldlM_cons, List.map_cons, List.sum_cons, ← Nat.add_assoc]
      by_cases hn : read start + read value ≤ limit
      · obtain ⟨next, hnext, hread⟩ := (hadd start value).within (by simpa using hn)
        rw [hnext, ← hread]
        exact ih next (by rw [hread]; exact hn)
      · rw [(hadd start value).beyond ⟨_, List.mem_singleton_self _, Nat.lt_of_not_le hn⟩]
        refine ⟨fun hns => absurd (hns _ (List.mem_singleton_self _)) ?_, fun _ => rfl⟩
        omega

end Chain

/-! ### Computations -/

/--
What a computation comes to that makes these demands in this order: a good value if all
are met; else an error, which is an overflow if the first demand not met is on a number.
-/
inductive Settles (limit : Nat) (overflow : ε → Prop) (good : α → Prop) :
    List Demand → Except ε α → Prop where
  | done {a : α} (h : good a) : Settles limit overflow good [] (.ok a)
  | met {d : Demand} {ds : List Demand} {x : Except ε α} (hd : d.Met limit)
      (h : Settles limit overflow good ds x) : Settles limit overflow good (d :: ds) x
  | refused {p : Prop} {ds : List Demand} {e : ε} (hp : ¬p) (he : ¬overflow e) :
      Settles limit overflow good (.condition p :: ds) (.error e)
  | beyond {n : Nat} {ds : List Demand} {e : ε} (hn : limit < n) (he : overflow e) :
      Settles limit overflow good (.number n :: ds) (.error e)

namespace Settles

variable {overflow : ε → Prop} {good : α → Prop} {good' : β → Prop} {ds ds' : List Demand}
  {x : Except ε α}

theorem ok_iff (h : Settles limit overflow good ds x) :
    (∃ a, x = .ok a) ↔ ∀ d ∈ ds, d.Met limit := by
  induction h with
  | done h => simp
  | met hd _ ih => rw [ih, List.forall_mem_cons, and_iff_right hd]
  | refused hp he => simp [hp]
  | beyond hn he => simp [Nat.not_le_of_lt hn]

theorem good_of_ok (h : Settles limit overflow good ds x) {a : α} (hx : x = .ok a) : good a := by
  induction h with
  | done h =>
      obtain rfl := Except.ok.inj hx
      exact h
  | met _ _ ih => exact ih hx
  | refused _ _ => cases hx
  | beyond _ _ => cases hx

theorem overflow_iff (h : Settles limit overflow good ds x) :
    (∃ e, x = .error e ∧ overflow e) ↔ Overflows limit ds := by
  induction h with
  | done h => simp [Overflows]
  | @met d ds x hd _ ih =>
      rw [ih]
      cases d with
      | condition p => exact (and_iff_right hd).symm
      | number n => exact (or_iff_right (Nat.not_lt_of_le hd)).symm
  | refused hp he => simp [Overflows, hp, he]
  | beyond hn he => simp [Overflows, hn, he]

/-- What is computed next makes its demands after these. -/
theorem bind {f : α → Except ε β} (h : Settles limit overflow good ds x)
    (hf : ∀ a, good a → Settles limit overflow good' ds' (f a)) :
    Settles limit overflow good' (ds ++ ds') (x >>= f) := by
  induction h with
  | done h => exact hf _ h
  | met hd _ ih => exact .met hd ih
  | refused hp he => exact .refused hp he
  | beyond hn he => exact .beyond hn he

/-- Every error is replaced by another of its sort. -/
theorem mapError {ε' : Type} {overflow' : ε' → Prop} {g : ε → ε'}
    (hg : ∀ e, overflow' (g e) ↔ overflow e) (h : Settles limit overflow good ds x) :
    Settles limit overflow' good ds (x.mapError g) := by
  induction h with
  | done h => exact .done h
  | met hd _ ih => exact .met hd ih
  | refused hp he => exact .refused hp fun hover => he ((hg _).mp hover)
  | beyond hn he => exact .beyond hn ((hg _).mpr he)

/-- A chain is one computation, which stops with this error. -/
theorem chain {ns : List Nat} {o : Option α} {e : ε} (h : Chain limit good ns o)
    (he : overflow e) :
    Settles limit overflow good (ns.map .number) (o.elim (.error e) .ok) := by
  by_cases hns : ∀ n ∈ ns, n ≤ limit
  · obtain ⟨a, rfl, ha⟩ := h.within hns
    clear h
    induction ns with
    | nil => exact .done ha
    | cons n ns ih =>
        rw [List.forall_mem_cons] at hns
        exact .met hns.1 (ih hns.2)
  · have hbeyond : ∃ n ∈ ns, limit < n := by
      push Not at hns
      exact hns
    rw [h.beyond hbeyond]
    clear h hns
    induction ns with
    | nil => simp at hbeyond
    | cons n ns ih =>
        by_cases hn : n ≤ limit
        · refine .met hn (ih ?_)
          obtain ⟨m, hm, hlt⟩ := hbeyond
          rcases List.mem_cons.mp hm with rfl | hm
          · exact absurd hn (Nat.not_le_of_lt hlt)
          · exact ⟨m, hm, hlt⟩
        · exact .beyond (Nat.lt_of_not_le hn) he

end Settles

end Demands
