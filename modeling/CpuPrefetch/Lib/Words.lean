/-
Words of 64 bits: the guards of checked arithmetic on them, and mixing steps that lose nothing.
-/
import Mathlib

/-! ### The guards of checked arithmetic on 64-bit words

A sum or a product is made after a comparison that cannot wrap itself; these lemmas say
that the comparison is with the exact sum or product, and that a round-up is the least
multiple of the alignment that is large enough.
-/

namespace CheckedWords

variable {left right : UInt64}

theorem toNat_max : (0xffffffffffffffff : UInt64).toNat = 2 ^ 64 - 1 := rfl

theorem sum_guard :
    right > 0xffffffffffffffff - left ↔ 2 ^ 64 - 1 < left.toNat + right.toNat := by
  have hleft := left.toNat_lt
  have hle : left ≤ 0xffffffffffffffff := by
    rw [UInt64.le_iff_toNat_le, toNat_max]
    omega
  rw [gt_iff_lt, UInt64.lt_iff_toNat_lt, UInt64.toNat_sub_of_le _ _ hle, toNat_max]
  omega

/-- The comparison is with a quotient, and is not made with the divisor zero. -/
theorem product_guard :
    (left ≠ 0 ∧ right > 0xffffffffffffffff / left) ↔ 2 ^ 64 - 1 < left.toNat * right.toNat := by
  by_cases hzero : left = 0
  · simp [hzero]
  · have hpositive : 0 < left.toNat :=
      Nat.pos_of_ne_zero fun hnat => hzero (UInt64.toNat_inj.mp hnat)
    rw [and_iff_right hzero, gt_iff_lt, UInt64.lt_iff_toNat_lt, UInt64.toNat_div, toNat_max,
      Nat.div_lt_iff_lt_mul hpositive, Nat.mul_comm]

theorem toNat_add (h : left.toNat + right.toNat ≤ 2 ^ 64 - 1) :
    (left + right).toNat = left.toNat + right.toNat := by
  rw [UInt64.toNat_add, Nat.mod_eq_of_lt (by omega)]

theorem toNat_mul (h : left.toNat * right.toNat ≤ 2 ^ 64 - 1) :
    (left * right).toNat = left.toNat * right.toNat := by
  rw [UInt64.toNat_mul, Nat.mod_eq_of_lt (by omega)]

/-! ### Rounding up -/

/-- The least multiple of the alignment that is no less. -/
def roundUp (value alignment : Nat) : Nat := value ⌈/⌉ alignment * alignment

theorem isLeast_roundUp (value : Nat) {alignment : Nat} (h : 0 < alignment) :
    IsLeast {multiple | alignment ∣ multiple ∧ value ≤ multiple} (roundUp value alignment) := by
  refine ⟨⟨Nat.dvd_mul_left _ _, ?_⟩, ?_⟩
  · have hle := (ceilDiv_le_iff_le_smul h).mp (le_refl (value ⌈/⌉ alignment))
    rwa [smul_eq_mul, Nat.mul_comm] at hle
  · intro multiple ⟨⟨factor, hfactor⟩, hle⟩
    have hceil : value ⌈/⌉ alignment ≤ factor := by
      rw [ceilDiv_le_iff_le_smul h, smul_eq_mul, ← hfactor]
      exact hle
    rw [hfactor, Nat.mul_comm alignment]
    exact Nat.mul_le_mul_right _ hceil

theorem le_roundUp (value : Nat) {alignment : Nat} (h : 0 < alignment) :
    value ≤ roundUp value alignment := (isLeast_roundUp value h).1.2

/-- A multiple is its own, and any other value is raised by what the remainder lacks. -/
theorem roundUp_eq (value : Nat) {alignment : Nat} (h : 0 < alignment) :
    roundUp value alignment =
      if value % alignment = 0 then value else value + (alignment - value % alignment) := by
  have hsplit := Nat.div_add_mod value alignment
  have hlt := Nat.mod_lt value h
  refine (isLeast_roundUp value h).unique ?_
  by_cases hzero : value % alignment = 0
  · rw [if_pos hzero]
    exact ⟨⟨Nat.dvd_of_mod_eq_zero hzero, Nat.le_refl _⟩, fun _ hmultiple => hmultiple.2⟩
  · rw [if_neg hzero]
    have hnext : value + (alignment - value % alignment) = alignment * (value / alignment + 1) := by
      rw [Nat.mul_add]
      omega
    rw [hnext]
    refine ⟨⟨Nat.dvd_mul_right _ _, by rw [Nat.mul_add]; omega⟩, ?_⟩
    intro multiple ⟨⟨factor, hfactor⟩, hle⟩
    rw [hfactor] at hle ⊢
    apply Nat.mul_le_mul_left
    by_contra hsmall
    have hfloor : alignment * factor ≤ alignment * (value / alignment) :=
      Nat.mul_le_mul_left _ (by omega)
    omega

end CheckedWords

/-! ### Mixing steps that lose nothing

A mixing function of 64-bit words is a chain of steps, each of which can be undone: a word
is added, xored or multiplied in, or a word is xored with itself shifted right.  A checksum
folds such a function over what it sees, and a fold whose steps lose nothing of the state
keeps two states apart once they differ.
-/

namespace Mixing

/-! ### Words -/

instance finiteWords : Finite UInt64 :=
  Finite.of_injective UInt64.toFin fun _ _ => UInt64.toFin_inj.mp

/-- There are as many words as words, so a step that keeps them apart reaches them all. -/
theorem bijective_of_injective {f : UInt64 → UInt64} (h : Function.Injective f) :
    Function.Bijective f := Finite.injective_iff_bijective.mp h

theorem add_bijective (word : UInt64) : Function.Bijective fun x : UInt64 => x + word :=
  bijective_of_injective fun _ _ => (UInt64.add_left_inj word).mp

theorem xor_bijective (word : UInt64) : Function.Bijective fun x : UInt64 => x ^^^ word :=
  bijective_of_injective fun _ _ => (UInt64.xor_left_inj word).mp

theorem xor_left_bijective (word : UInt64) : Function.Bijective fun x : UInt64 => word ^^^ x :=
  bijective_of_injective fun _ _ => (UInt64.xor_right_inj word).mp

/-- A factor with an inverse can be divided out. -/
theorem mul_bijective {factor inverse : UInt64} (h : factor * inverse = 1) :
    Function.Bijective fun x : UInt64 => x * factor := by
  refine bijective_of_injective fun x y hxy => ?_
  calc x = x * factor * inverse := by rw [UInt64.mul_assoc, h, UInt64.mul_one]
    _ = y * factor * inverse := congrArg (· * inverse) hxy
    _ = y := by rw [UInt64.mul_assoc, h, UInt64.mul_one]

/-- A word that is its own shift to the right is zero: it would be smaller than itself. -/
theorem eq_zero_of_shift {word shift : UInt64} (hpos : 0 < shift.toNat % 64)
    (h : word = word >>> shift) : word = 0 := by
  have hnat : word.toNat = word.toNat / 2 ^ (shift.toNat % 64) := by
    conv_lhs => rw [h]
    rw [UInt64.toNat_shiftRight, Nat.shiftRight_eq_div_pow]
  by_contra hne
  have hword : 0 < word.toNat := by
    rw [Nat.pos_iff_ne_zero]
    exact fun hzero => hne (UInt64.toNat_inj.mp hzero)
  have hless := Nat.div_lt_self hword (Nat.one_lt_two_pow (Nat.pos_iff_ne_zero.mp hpos))
  omega

theorem xorShift_bijective {shift : UInt64} (hpos : 0 < shift.toNat % 64) :
    Function.Bijective fun x : UInt64 => x ^^^ (x >>> shift) := by
  refine bijective_of_injective fun x y hxy => ?_
  -- What the two words differ in would be its own shift.
  have hdiffer : x ^^^ y = (x ^^^ y) >>> shift := by
    rw [UInt64.shiftRight_xor]
    have hboth : x ^^^ (x >>> shift) ^^^ y ^^^ (x >>> shift) =
        y ^^^ (y >>> shift) ^^^ y ^^^ (x >>> shift) :=
      congrArg (fun word => word ^^^ y ^^^ (x >>> shift)) hxy
    calc x ^^^ y = x ^^^ (x >>> shift) ^^^ y ^^^ (x >>> shift) := by
          rw [UInt64.xor_assoc x, UInt64.xor_comm (x >>> shift), ← UInt64.xor_assoc x,
            UInt64.xor_assoc _ (x >>> shift), UInt64.xor_self, UInt64.xor_zero]
      _ = y ^^^ (y >>> shift) ^^^ y ^^^ (x >>> shift) := hboth
      _ = (x >>> shift) ^^^ (y >>> shift) := by
          rw [UInt64.xor_comm y, UInt64.xor_assoc _ y y, UInt64.xor_self, UInt64.xor_zero,
            UInt64.xor_comm]
  exact UInt64.xor_eq_zero_iff.mp (eq_zero_of_shift hpos hdiffer)

/-! ### Folds -/

section Folds

variable {State Item : Type} {mix : State → Item → State}

/-- A fold loses nothing of the state it starts from, when no step does. -/
theorem foldl_injective (h : ∀ item, Function.Injective fun state => mix state item)
    (items : List Item) : Function.Injective fun state => items.foldl mix state := by
  induction items with
  | nil => exact Function.injective_id
  | cons item rest ih => exact ih.comp (h item)

/-- Two sequences that part at one item, and go on alike, end apart. -/
theorem foldl_ne (h : ∀ item, Function.Injective fun state => mix state item) (state : State)
    (before after : List Item) {first second : Item}
    (hparts : mix (before.foldl mix state) first ≠ mix (before.foldl mix state) second) :
    (before ++ first :: after).foldl mix state ≠ (before ++ second :: after).foldl mix state := by
  rw [List.foldl_append, List.foldl_append, List.foldl_cons, List.foldl_cons]
  exact fun heq => hparts (foldl_injective h after heq)

end Folds

end Mixing
