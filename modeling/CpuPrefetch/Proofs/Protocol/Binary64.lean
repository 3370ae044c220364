/-
How a binary64 number is laid out.

The canonicalizer takes the shortest spelling apart, into the digits of its coefficient
and the place of the point among them, and lays the same digits out as JCS wants them.
Every layout stands for the decimal it came from.  Whether it has a fraction or an
exponent decides how it is read: it has neither exactly if the decimal is an integer in
the range that is written without one.
-/
import CpuPrefetch.Proofs.Protocol.GrammarTokens

namespace CpuPrefetch.Protocol.Json

open List

variable {conv : CharConv}

/-! ### Decimals -/

variable (negative : Bool)

/-- The decimal with these digits, the point after so many of them. -/
def decimalValue (digits : Text) (point : Int) : Rat :=
  (if negative then -1 else 1) * digitsValue digits * 10 ^ (point - digits.length)

/-- Where the exponent of a spelling begins. -/
def beforeExponent (byte : UInt8) : Bool := byte ≠ 101 && byte ≠ 69

def beforePoint (byte : UInt8) : Bool := byte ≠ 46

/-- The exponent of a spelling, from its marker on. -/
def exponentOf (exponent : Text) : Int :=
  let digits := exponent.drop 1
  (exponentValue (if digits.head? = some 43 then digits.drop 1 else digits)).getD 0

/-- The decimal a number's spelling stands for. -/
def decimalOf (text : Text) : Rat :=
  let negative : Bool := text.head? = some 45
  let unsigned := if negative then text.drop 1 else text
  let coefficient := unsigned.takeWhile beforeExponent
  decimalValue negative (coefficient.filter beforePoint)
    ((coefficient.takeWhile beforePoint).length + exponentOf (unsigned.dropWhile beforeExponent))

variable {bits : UInt64}

section Parts

variable {sign digits fraction exponent : Text}

theorem digit_before {byte : UInt8} (h : isDigit byte = true) :
    beforeExponent byte = true ∧ beforePoint byte = true ∧ byte ≠ 45 := by
  revert h
  exact forall_byte (p := fun byte => isDigit byte = true →
    beforeExponent byte = true ∧ beforePoint byte = true ∧ byte ≠ 45) (by decide) byte

theorem IntegerPart.allDigits (h : IntegerPart digits) : Digits digits := by
  rcases h with rfl | ⟨hdigits, -⟩
  · exact ⟨cons_ne_nil _ _, by simp⟩
  · exact hdigits

/-- The digits after the point. -/
theorem OptionalFraction.allDigits (h : OptionalFraction fraction) :
    ∀ byte ∈ fraction.drop 1, isDigit byte = true := by
  rcases h with rfl | ⟨digits, hdigits, rfl⟩
  · intro byte hbyte
    cases hbyte
  · exact hdigits.isDigit

theorem NumberParts.unsigned (h : NumberParts sign digits fraction exponent) :
    (decide ((sign ++ digits ++ fraction ++ exponent).head? = some 45) = !sign.isEmpty) ∧
      (if decide ((sign ++ digits ++ fraction ++ exponent).head? = some 45) = true then
        (sign ++ digits ++ fraction ++ exponent).drop 1
      else sign ++ digits ++ fraction ++ exponent) = digits ++ fraction ++ exponent := by
  rcases h.sign with rfl | rfl
  · obtain ⟨byte, more, hmore, hbyte, -⟩ := h.digits.head (fraction ++ exponent)
    simp only [nil_append, append_assoc, hmore]
    simp [hbyte]
  · simp

/-- The coefficient of a spelling, and what follows it. -/
theorem NumberParts.coefficient (h : NumberParts sign digits fraction exponent) :
    (digits ++ fraction ++ exponent).takeWhile beforeExponent = digits ++ fraction ∧
      (digits ++ fraction ++ exponent).dropWhile beforeExponent = exponent := by
  have hbefore : ∀ byte ∈ digits ++ fraction, beforeExponent byte = true := by
    intro byte hbyte
    rcases List.mem_append.mp hbyte with hdigit | hfraction
    · exact (digit_before (h.digits.allDigits.isDigit byte hdigit)).1
    · rcases h.fraction with rfl | ⟨more, hmore, rfl⟩
      · cases hfraction
      · rcases List.mem_cons.mp hfraction with rfl | hlater
        · rfl
        · exact (digit_before (hmore.isDigit byte hlater)).1
  rw [takeWhile_append_of_pos hbefore, dropWhile_append_of_pos hbefore]
  rcases h.exponent with rfl | ⟨marker, sign, more, hmarker, -, -, rfl⟩
  · exact ⟨append_nil _, rfl⟩
  · have hstop : ¬beforeExponent marker = true := by
      rcases hmarker with rfl | rfl <;> decide
    rw [takeWhile_cons_of_neg hstop, dropWhile_cons_of_neg hstop, append_nil]
    exact ⟨rfl, rfl⟩

/-- The digits before the point, and all of them. -/
theorem NumberParts.point (h : NumberParts sign digits fraction exponent) :
    (digits ++ fraction).takeWhile beforePoint = digits ∧
      (digits ++ fraction).filter beforePoint = digits ++ fraction.drop 1 := by
  have hdigits : ∀ byte ∈ digits, beforePoint byte = true := fun byte hbyte =>
    (digit_before (h.digits.allDigits.isDigit byte hbyte)).2.1
  rw [takeWhile_append_of_pos hdigits, filter_append, List.filter_eq_self.mpr hdigits]
  have hlater : ∀ byte ∈ fraction.drop 1, beforePoint byte = true := fun byte hbyte =>
    (digit_before (h.fraction.allDigits byte hbyte)).2.1
  rcases h.fraction with rfl | ⟨more, hmore, rfl⟩
  · exact ⟨append_nil _, rfl⟩
  · have hpoint : ¬beforePoint 46 = true := by decide
    rw [takeWhile_cons_of_neg hpoint, filter_cons_of_neg hpoint, append_nil]
    exact ⟨rfl, congrArg (digits ++ ·) (List.filter_eq_self.mpr hlater)⟩

/-- The decimal of a spelling, from its parts. -/
theorem decimalOf_parts (h : NumberParts sign digits fraction exponent) :
    decimalOf (sign ++ digits ++ fraction ++ exponent) =
      decimalValue (!sign.isEmpty) (digits ++ fraction.drop 1)
        (digits.length + exponentOf exponent) := by
  obtain ⟨hnegative, hunsigned⟩ := h.unsigned
  unfold decimalOf
  simp only
  rw [hunsigned, hnegative, h.coefficient.1, h.coefficient.2, h.point.1, h.point.2]

/-- The general format of `std::to_chars`: with an exponent, one digit stands before the point and
is not zero; and no zero is written at the end of a fraction. -/
structure GeneralForm (sign digits fraction exponent : Text) : Prop where
  parts : NumberParts sign digits fraction exponent
  scientific : exponent ≠ [] → digits.length = 1 ∧ digits ≠ [48]
  trimmed : fraction.getLast? ≠ some 48

/-! ### The layout -/

/-- `canonical_binary64`, from the digits and the place of the point on. -/
def layout (plain negative : Bool) (digits : Text) (point : Int) : Text :=
  let sign : Text := if negative then [45] else []
  if plain then
    if point ≤ 0 then sign ++ ascii "0." ++ List.replicate (-point).toNat 48 ++ digits
    else if point ≥ digits.length then
      sign ++ digits ++ List.replicate (point.toNat - digits.length) 48
    else sign ++ digits.take point.toNat ++ [46] ++ digits.drop point.toNat
  else
    sign ++ digits.take 1 ++ (if digits.length > 1 then 46 :: digits.drop 1 else []) ++ [101] ++
      (if point - 1 ≥ 0 then [43] else [45]) ++ decimal (point - 1).natAbs

/-- The numbers written without an exponent, by their bits: from 1e-6 on, below 1e21. -/
def plainRange (bits : UInt64) : Bool :=
  magnitude bits ≥ 0x3eb0c6f7a0b5ed8d && magnitude bits < 0x444b1ae4d6e2ef50

/-- The value of an exponent's digits, with or without a minus. -/
theorem exponentValue_digits (h : Digits digits) :
    exponentValue digits = some (digitsValue digits : Int) ∧
      exponentValue (45 :: digits) = some (-(digitsValue digits : Int)) := by
  have hwhole : digits.takeWhile isDigit = digits := List.takeWhile_eq_self_iff.mpr h.isDigit
  have hne : digits.isEmpty = false := List.isEmpty_eq_false_iff.mpr h.1
  constructor
  · unfold exponentValue
    split
    · exact absurd (h.isDigit 45 mem_cons_self) (by decide)
    · simp [hwhole, hne]
  · simp [exponentValue, hwhole, hne]

/-- The exponent of a spelling is read, when there is one. -/
theorem exponentValue_exponent (h : OptionalExponent exponent) (hne : exponent ≠ []) :
    exponentValue (if (exponent.drop 1).head? = some 43 then (exponent.drop 1).drop 1
      else exponent.drop 1) = some (exponentOf exponent) := by
  suffices hread : ∃ value, exponentValue (if (exponent.drop 1).head? = some 43 then
      (exponent.drop 1).drop 1 else exponent.drop 1) = some value by
    obtain ⟨value, hvalue⟩ := hread
    rw [exponentOf, hvalue, Option.getD_some]
  rcases h with rfl | ⟨marker, sign, digits, -, hsign, hdigits, rfl⟩
  · exact absurd rfl hne
  · rcases hsign with rfl | rfl | rfl
    · obtain ⟨byte, more, rfl⟩ := exists_cons_of_ne_nil hdigits.1
      have hplus : byte ≠ 43 := by
        rintro rfl
        exact absurd (hdigits.isDigit 43 mem_cons_self) (by decide)
      rw [nil_append, if_neg (by simpa using hplus)]
      exact ⟨_, (exponentValue_digits hdigits).1⟩
    · exact ⟨_, (exponentValue_digits hdigits).1⟩
    · exact ⟨_, (exponentValue_digits hdigits).2⟩

/-- **What is written for a binary64 number is a layout of its shortest spelling.** -/
theorem canonicalBinary64_layout (hfinite : isFinite bits = true) (hnonzero : magnitude bits ≠ 0)
    (h : NumberParts sign digits fraction exponent)
    (hshortest : conv.toChars bits = some (sign ++ digits ++ fraction ++ exponent)) :
    canonicalBinary64 conv bits = .ok (layout (plainRange bits) (!sign.isEmpty)
      (digits ++ fraction.drop 1) (digits.length + exponentOf exponent)) := by
  obtain ⟨hnegative, hunsigned⟩ := h.unsigned
  unfold canonicalBinary64
  rw [hfinite, hshortest]
  simp only [Bool.not_true, Bool.false_eq_true, ↓reduceIte, hnonzero]
  rw [hunsigned, hnegative]
  have hcoefficient : (digits ++ fraction ++ exponent).takeWhile
      (fun byte => byte ≠ 101 && byte ≠ 69) = digits ++ fraction := h.coefficient.1
  have hrest : (digits ++ fraction ++ exponent).dropWhile
      (fun byte => byte ≠ 101 && byte ≠ 69) = exponent := h.coefficient.2
  have hpoint : (digits ++ fraction).takeWhile (fun byte => byte ≠ 46) = digits := h.point.1
  have hdigits : (digits ++ fraction).filter (fun byte => byte ≠ 46) =
      digits ++ fraction.drop 1 := h.point.2
  have hexponent : (if digits ++ fraction = digits ++ fraction ++ exponent then some 0
      else exponentValue (if (exponent.drop 1).head? = some 43 then (exponent.drop 1).drop 1
        else exponent.drop 1)) = some (exponentOf exponent) := by
    by_cases hne : exponent = []
    · subst hne
      rw [append_nil, if_pos rfl]
      rfl
    · rw [if_neg (by simpa using hne), exponentValue_exponent h.exponent hne]
  simp only [hcoefficient, hrest, hpoint, hdigits, hexponent]
  unfold layout plainRange
  simp only
  split
  · split
    · rfl
    · split <;> rfl
  · rfl

end Parts

/-! ### What a layout stands for -/

theorem digitsValue_append_list (left right : Text) :
    digitsValue (left ++ right) = digitsValue left * 10 ^ right.length + digitsValue right := by
  induction right using List.reverseRecOn with
  | nil => simp [digitsValue]
  | append_singleton front last ih =>
      rw [← append_assoc, digitsValue_append, digitsValue_append, ih, length_append,
        length_singleton, pow_succ]
      ring

theorem digitsValue_zeros (n : Nat) : digitsValue (List.replicate n 48) = 0 := by
  induction n with
  | zero => rfl
  | succ n ih => rw [replicate_succ', digitsValue_append, ih]; rfl

/-- Zeros before the digits make no difference. -/
theorem decimalValue_leading (n : Nat) (digits : Text) (point : Int) :
    decimalValue negative (List.replicate n 48 ++ digits) (point + n) =
      decimalValue negative digits point := by
  unfold decimalValue
  rw [digitsValue_append_list, digitsValue_zeros, Nat.zero_mul, Nat.zero_add, length_append,
    length_replicate]
  congr 2
  omega

/-- Nor do zeros after them, up to the point. -/
theorem decimalValue_trailing (n : Nat) (digits : Text) (point : Int) :
    decimalValue negative (digits ++ List.replicate n 48) point =
      decimalValue negative digits point := by
  unfold decimalValue
  rw [digitsValue_append_list, digitsValue_zeros, Nat.add_zero, length_append,
    length_replicate]
  have hscale : (point - ((digits.length + n : Nat) : Int)) =
    (point - digits.length) - (n : Int) := by
    push_cast
    ring
  rw [hscale, zpow_sub₀ (by norm_num : (10 : Rat) ≠ 0), zpow_natCast]
  push_cast
  field_simp

/-- The sign of a layout. -/
def signOf : Text := if negative then [45] else []

theorem optionalMinus_signOf : OptionalMinus (signOf negative) := by
  cases negative
  · exact .inl rfl
  · exact .inr rfl

/-- Digits that make the integer of a number, up to the point if it is after some of them. -/
structure Leading (digits : Text) (point : Int) : Prop where
  spelled : Digits digits
  first : digits.head? ≠ some 48 ∨
    (0 < point ∧ point ≤ digits.length ∧ IntegerPart (digits.take point.toNat))

/-- The parts of a number that stand for this decimal; whole, if there is only an integer. -/
def LaidOut (digits : Text) (point : Int) (text : Text) (whole : Prop) : Prop :=
  ∃ integer fraction exponent, NumberParts (signOf negative) integer fraction exponent ∧
    text = signOf negative ++ integer ++ fraction ++ exponent ∧
    decimalValue negative (integer ++ fraction.drop 1) (integer.length + exponentOf exponent) =
      decimalValue negative digits point ∧
    (fraction ++ exponent = [] ↔ whole)

variable {digits : Text}

theorem digits_zeros (h : Digits digits) (n : Nat) :
    Digits (List.replicate n 48 ++ digits) ∧ Digits (digits ++ List.replicate n 48) := by
  have hzeros : ∀ byte ∈ List.replicate n (48 : UInt8), 48 ≤ byte.toNat ∧ byte.toNat ≤ 57 := by
    intro byte hbyte
    rw [(List.mem_replicate.mp hbyte).2]
    decide
  constructor
  · refine ⟨by simp [h.1], ?_⟩
    rw [forall_mem_append]
    exact ⟨hzeros, h.2⟩
  · refine ⟨by simp [h.1], ?_⟩
    rw [forall_mem_append]
    exact ⟨h.2, hzeros⟩

theorem digits_sublist {others : Text} (h : Digits digits) (hne : others ≠ [])
    (hsub : others.Sublist digits) : Digits others :=
  ⟨hne, fun byte hbyte => h.2 byte (hsub.subset hbyte)⟩

theorem exponentOf_nil : exponentOf [] = 0 := rfl

theorem decimal_allDigits (n : Nat) : Digits (decimal n) := by
  have hinteger : decimal n ≠ [] := by
    by_cases hzero : n = 0
    · subst hzero
      exact cons_ne_nil _ _
    · obtain ⟨first, rest, hdecimal, -⟩ := decimal_first hzero
      rw [hdecimal]
      exact cons_ne_nil _ _
  exact ⟨hinteger, fun byte hbyte => isDigit_iff.mp (decimal_digits n byte hbyte)⟩

/-- The exponent of a scientific layout. -/
theorem exponentOf_scientific (value : Int) :
    exponentOf (101 :: ((if value ≥ 0 then [43] else [45]) ++ decimal value.natAbs)) = value := by
  have hdigits := exponentValue_digits (decimal_allDigits value.natAbs)
  rw [digitsValue_decimal] at hdigits
  split
  · show (exponentValue (decimal value.natAbs)).getD 0 = value
    rw [hdigits.1, Option.getD_some]
    omega
  · show (exponentValue (45 :: decimal value.natAbs)).getD 0 = value
    rw [hdigits.2, Option.getD_some]
    omega

section

variable {digits : Text} {point : Int}

/-- A point before all digits. -/
theorem Leading.small (h : Leading digits point) (negative : Bool) (hpoint : point ≤ 0) :
    LaidOut negative digits point (layout true negative digits point) False := by
  obtain ⟨n, rfl⟩ : ∃ n : Nat, point = -n := ⟨(-point).toNat, by omega⟩
  refine ⟨[48], 46 :: (List.replicate n 48 ++ digits), [],
    ⟨optionalMinus_signOf negative, .inl rfl, .inr ⟨_, (digits_zeros h.spelled n).1, rfl⟩,
      .inl rfl⟩, ?_, ?_, by simp⟩
  · have hzero : ascii "0." = [48, 46] := rfl
    have hcount : (- -(n : Int)).toNat = n := by omega
    rw [layout, if_pos rfl, if_pos hpoint, hzero, hcount]
    simp [signOf]
  · have hvalue := decimalValue_leading negative (n + 1) digits (-n)
    rw [replicate_succ] at hvalue
    rw [← hvalue, exponentOf_nil]
    congr 1
    push_cast
    simp

/-- A point after all digits. -/
theorem Leading.whole (h : Leading digits point) (negative : Bool)
    (hpoint : digits.length ≤ point) :
    LaidOut negative digits point (layout true negative digits point) True := by
  have hlength : 0 < digits.length := List.length_pos_iff.mpr h.spelled.1
  have hinteger : IntegerPart (digits ++ List.replicate (point.toNat - digits.length) 48) := by
    rcases h.first with hfirst | ⟨-, hhigh, hinteger⟩
    · refine .inr ⟨(digits_zeros h.spelled _).2, ?_⟩
      obtain ⟨byte, more, rfl⟩ := exists_cons_of_ne_nil h.spelled.1
      exact hfirst
    · have hall : point.toNat = digits.length := by omega
      rw [hall, take_length] at hinteger
      rwa [hall, Nat.sub_self, replicate_zero, append_nil]
  refine ⟨_, [], [], ⟨optionalMinus_signOf negative, hinteger, .inl rfl, .inl rfl⟩, ?_, ?_, by simp⟩
  · rw [layout, if_pos rfl, if_neg (by omega), if_pos hpoint]
    simp [signOf]
  · rw [exponentOf_nil, drop_nil, append_nil, decimalValue_trailing, length_append,
      length_replicate]
    congr 1
    omega

/-- A point between two digits. -/
theorem Leading.broken (h : Leading digits point) (negative : Bool) (hlow : 0 < point)
    (hhigh : point < digits.length) :
    LaidOut negative digits point (layout true negative digits point) False := by
  have htake : digits.take point.toNat ≠ [] := by
    intro hempty
    have hlength := congrArg List.length hempty
    rw [length_take, length_nil] at hlength
    omega
  have hdrop : digits.drop point.toNat ≠ [] := by
    intro hempty
    have hlength := congrArg List.length hempty
    rw [length_drop, length_nil] at hlength
    omega
  have hinteger : IntegerPart (digits.take point.toNat) := by
    rcases h.first with hfirst | ⟨-, -, hinteger⟩
    · refine .inr ⟨digits_sublist h.spelled htake (take_sublist _ _), ?_⟩
      rwa [head?_take, if_neg (by omega)]
    · exact hinteger
  refine ⟨digits.take point.toNat, 46 :: digits.drop point.toNat, [],
    ⟨optionalMinus_signOf negative, hinteger,
      .inr ⟨_, digits_sublist h.spelled hdrop (drop_sublist _ _), rfl⟩, .inl rfl⟩, ?_, ?_, by simp⟩
  · rw [layout, if_pos rfl, if_neg (by omega), if_neg (by omega)]
    simp [signOf]
  · rw [exponentOf_nil, drop_one, tail_cons, take_append_drop, length_take]
    congr 1
    omega

/-- One digit before the point, and an exponent. -/
theorem Leading.scientific (h : Leading digits point) (negative : Bool) :
    LaidOut negative digits point (layout false negative digits point) False := by
  obtain ⟨byte, more, rfl⟩ := exists_cons_of_ne_nil h.spelled.1
  obtain ⟨hbyte, hmore⟩ := List.forall_mem_cons.mp h.spelled.2
  have hinteger : IntegerPart [byte] := by
    by_cases hzero : byte = 48
    · rw [hzero]
      exact .inl rfl
    · exact .inr ⟨⟨cons_ne_nil _ _, by simpa using hbyte⟩, by simpa using hzero⟩
  have hfraction : OptionalFraction (if (byte :: more).length > 1 then 46 :: more else []) := by
    split
    · rename_i hlength
      refine .inr ⟨more, ⟨?_, hmore⟩, rfl⟩
      rintro rfl
      exact absurd hlength (by simp)
    · exact .inl rfl
  have hexponent : OptionalExponent
      (101 :: ((if point - 1 ≥ 0 then [43] else [45]) ++ decimal (point - 1).natAbs)) := by
    refine .inr ⟨101, _, _, .inl rfl, ?_, decimal_allDigits _, rfl⟩
    split
    · exact .inr (.inl rfl)
    · exact .inr (.inr rfl)
  refine ⟨[byte], _, _, ⟨optionalMinus_signOf negative, hinteger, hfraction, hexponent⟩, ?_,
    ?_, by simp⟩
  · rw [layout, if_neg (by decide)]
    simp [signOf]
  · have hdigits : [byte] ++ (if (byte :: more).length > 1 then 46 :: more else []).drop 1 =
        byte :: more := by
      cases more with
      | nil => rfl
      | cons second others => simp
    rw [hdigits, exponentOf_scientific]
    congr 1
    simp

end

/-! ### Numbers that are read again -/

/-- The text is spelled as a number. -/
def SpellsDecimal (text : Text) : Prop :=
  ∃ sign digits fraction exponent, NumberParts sign digits fraction exponent ∧
    text = sign ++ digits ++ fraction ++ exponent

/-- The standard library writes this number as its shortest decimal in general format, and reads
every spelling of that decimal as this number. -/
structure ShortestRoundTrip (conv : CharConv) (bits : UInt64) : Prop where
  written : ∃ sign digits fraction exponent, GeneralForm sign digits fraction exponent ∧
    conv.toChars bits = some (sign ++ digits ++ fraction ++ exponent)
  nonzero : ∀ text, conv.toChars bits = some text → decimalOf text ≠ 0
  read : ∀ text other, conv.toChars bits = some text → SpellsDecimal other →
    decimalOf other = decimalOf text → conv.fromChars other = some bits

/-- The number is written without an exponent, and its shortest decimal is an integer that has more
than sixty-four bits. -/
def Oversized (conv : CharConv) (bits : UInt64) : Prop :=
  plainRange bits = true ∧ ∃ text, ∃ value : Int, conv.toChars bits = some text ∧
    decimalOf text = value ∧ (value < -2 ^ 63 ∨ 2 ^ 64 - 1 < value)

section

variable {sign digits fraction exponent : Text}

theorem GeneralForm.leading (h : GeneralForm sign digits fraction exponent) :
    Leading (digits ++ fraction.drop 1) (digits.length + exponentOf exponent) := by
  have hdigits := h.parts.digits.allDigits
  have hlength : 0 < digits.length := List.length_pos_iff.mpr hdigits.1
  refine ⟨⟨by simp [hdigits.1], ?_⟩, ?_⟩
  · rw [forall_mem_append]
    exact ⟨hdigits.2, fun byte hbyte => isDigit_iff.mp (h.parts.fraction.allDigits byte hbyte)⟩
  · by_cases hexponent : exponent = []
    · subst hexponent
      refine .inr ⟨?_, ?_, ?_⟩
      · rw [exponentOf_nil]
        omega
      · rw [exponentOf_nil, length_append]
        omega
      · rw [exponentOf_nil, Int.add_zero, Int.toNat_natCast, take_left]
        exact h.parts.digits
    · obtain ⟨hone, hzero⟩ := h.scientific hexponent
      obtain ⟨byte, rfl⟩ := List.length_eq_one_iff.mp hone
      exact .inl (by simpa using hzero)

/-- When the point is before the last digit, that digit is not zero. -/
theorem GeneralForm.last (h : GeneralForm sign digits fraction exponent)
    (hpoint : digits.length + exponentOf exponent < (digits ++ fraction.drop 1).length) :
    (digits ++ fraction.drop 1).getLast? ≠ some 48 := by
  rcases h.parts.fraction with rfl | ⟨more, hmore, rfl⟩
  · by_cases hexponent : exponent = []
    · subst hexponent
      rw [exponentOf_nil, length_append] at hpoint
      simp only [drop_nil, length_nil] at hpoint
      omega
    · obtain ⟨hone, hzero⟩ := h.scientific hexponent
      obtain ⟨byte, rfl⟩ := List.length_eq_one_iff.mp hone
      simpa using hzero
  · have htrimmed := h.trimmed
    rw [getLast?_cons_of_ne_nil hmore.1] at htrimmed
    rwa [drop_one, tail_cons, getLast?_append_of_ne_nil _ hmore.1]

end

/-- A decimal is not an integer when its last digit is not zero and comes after the point. -/
theorem decimalValue_not_integer {negative : Bool} {point value : Int} (hdigits : Digits digits)
    (hlast : digits.getLast? ≠ some 48) (hpoint : point < digits.length) :
    decimalValue negative digits point ≠ value := by
  intro hvalue
  obtain ⟨front, last, rfl⟩ : ∃ front last, digits = front ++ [last] :=
    (eq_nil_or_concat' digits).resolve_left hdigits.1
  obtain ⟨n, hn⟩ : ∃ n : Nat, point - (front ++ [last]).length = -((n + 1 : Nat) : Int) :=
    ⟨((front ++ [last]).length - point - 1).toNat, by omega⟩
  have hrange := hdigits.2 last (by simp)
  have hnonzero : last.toNat ≠ 48 := by
    intro hsame
    rw [getLast?_concat, show last = 48 from UInt8.toNat_inj.mp hsame] at hlast
    exact hlast rfl
  have hscaled : (if negative then -1 else 1 : Rat) * digitsValue (front ++ [last]) =
      value * 10 ^ (n + 1) := by
    rw [decimalValue, hn, zpow_neg, zpow_natCast] at hvalue
    field_simp at hvalue
    rw [hvalue, mul_comm]
  have hinteger : (if negative then -1 else 1 : Int) * digitsValue (front ++ [last]) =
      value * 10 ^ (n + 1) := by
    cases negative
    · simp only [Bool.false_eq_true, ↓reduceIte] at hscaled ⊢
      exact_mod_cast hscaled
    · simp only [↓reduceIte] at hscaled ⊢
      exact_mod_cast hscaled
  rw [digitsValue_append, pow_succ, ← mul_assoc] at hinteger
  generalize value * 10 ^ n = tens at hinteger
  split at hinteger <;> omega

/-- A decimal without digits after the point. -/
theorem decimalValue_whole (digits : Text) : decimalValue negative digits digits.length =
      (((if negative then -1 else 1) * digitsValue digits : Int) : Rat) := by
  rw [decimalValue, Int.sub_self, zpow_zero, mul_one]
  cases negative <;> simp

/-- An integer is written with its own digits. -/
theorem decimal_digitsValue (h : IntegerPart digits) : decimal (digitsValue digits) = digits := by
  -- least significant first, as the digits of a number are kept
  have hvalue : ∀ digits : Text, digitsValue digits =
      Nat.ofDigits 10 (digits.reverse.map fun byte => byte.toNat - 48) := by
    intro digits
    induction digits using List.reverseRecOn with
    | nil => rfl
    | append_singleton front last ih =>
        rw [digitsValue_append, reverse_append, reverse_singleton, singleton_append,
          map_cons, Nat.ofDigits_cons, ih]
        omega
  have hback : ∀ {digits : Text}, Digits digits →
      (digits.map fun byte => UInt8.ofNat (48 + (byte.toNat - 48))) = digits := by
    intro digits hdigits
    refine (map_congr_left ?_).trans (map_id digits)
    intro byte hbyte
    have hrange := hdigits.2 byte hbyte
    rw [show 48 + (byte.toNat - 48) = byte.toNat by omega, UInt8.ofNat_toNat]
    rfl
  rcases h with rfl | ⟨hdigits, hfirst⟩
  · rfl
  · have hsmall : ∀ digit ∈ digits.reverse.map (fun byte => byte.toNat - 48), digit < 10 := by
      intro digit hdigit
      obtain ⟨byte, hbyte, rfl⟩ := List.mem_map.mp hdigit
      have hrange := hdigits.2 byte (List.mem_reverse.mp hbyte)
      omega
    obtain ⟨byte, more, rfl⟩ := exists_cons_of_ne_nil hdigits.1
    have hrange := hdigits.2 byte mem_cons_self
    have hbyte : byte.toNat ≠ 48 := by
      intro hsame
      rw [show byte = 48 from UInt8.toNat_inj.mp hsame] at hfirst
      exact hfirst rfl
    have hdigitsOf := Nat.digits_ofDigits 10 (by decide) _ hsmall (by
      intro hne
      simp only [reverse_cons, map_append, map_singleton, getLast_append_singleton]
      omega)
    have hnonzero : digitsValue (byte :: more) ≠ 0 := by
      intro hzero
      rw [← hvalue, hzero, Nat.digits_zero] at hdigitsOf
      simp at hdigitsOf
    rw [decimal, if_neg hnonzero, hvalue, hdigitsOf, ← map_reverse, reverse_reverse,
      map_map]
    exact hback hdigits

/-- What is written for a number from its shortest spelling: another spelling of the same decimal,
only an integer if it is in the plain range and the point is after all digits. -/
theorem GeneralForm.laidOut {sign fraction exponent : Text}
    (h : GeneralForm sign digits fraction exponent) (hfinite : isFinite bits = true)
    (hnonzero : magnitude bits ≠ 0)
    (hshortest : conv.toChars bits = some (sign ++ digits ++ fraction ++ exponent)) :
    ∃ canonical, canonicalBinary64 conv bits = .ok canonical ∧
      LaidOut (!sign.isEmpty) (digits ++ fraction.drop 1) (digits.length + exponentOf exponent)
        canonical (plainRange bits = true ∧
          (digits ++ fraction.drop 1).length ≤ digits.length + exponentOf exponent) := by
  refine ⟨_, canonicalBinary64_layout hfinite hnonzero h.parts hshortest, ?_⟩
  have hleading := h.leading
  generalize digits ++ fraction.drop 1 = all at hleading
  generalize (digits.length : Int) + exponentOf exponent = point at hleading
  have hlength : 0 < all.length := List.length_pos_iff.mpr hleading.spelled.1
  cases hplain : plainRange bits with
  | false =>
      have hlaid := hleading.scientific (!sign.isEmpty)
      simpa using hlaid
  | true =>
      by_cases hwhole : all.length ≤ point
      · have hlaid := hleading.whole (!sign.isEmpty) hwhole
        simpa [hwhole] using hlaid
      · by_cases hsmall : point ≤ 0
        · have hlaid := hleading.small (!sign.isEmpty) hsmall
          simpa [hwhole] using hlaid
        · have hlaid := hleading.broken (!sign.isEmpty) (by omega) (by omega)
          simpa [hwhole] using hlaid

theorem isEmpty_signOf : (!(signOf negative).isEmpty) = negative := by
  cases negative <;> rfl

/-- A spelling with these parts is of the number it is converted to. -/
theorem spellsNumber_iff {sign fraction exponent : Text}
    (h : NumberParts sign digits fraction exponent) {number : Number} :
    SpellsNumber conv (sign ++ digits ++ fraction ++ exponent) number ↔
      convertNumber conv "" (!sign.isEmpty) (!fraction.isEmpty || !exponent.isEmpty) digits
        (sign ++ digits ++ fraction ++ exponent) = .ok (.number number) := by
  have hstops : Stops [] := by
    intro byte hbyte
    cases hbyte
  have hparts : parseNumber conv "" _ = _ := parseNumber_parts "" h hstops
  rw [append_nil] at hparts
  constructor
  · intro hspelled
    have hread := parseNumber_spelled "" hspelled hstops
    rw [append_nil, hparts] at hread
    obtain ⟨value, hvalue, hread⟩ := Fallible.bind_ok hread
    obtain ⟨rfl, -⟩ := Prod.mk.inj (Except.ok.inj hread)
    exact hvalue
  · intro hconvert
    rw [hconvert] at hparts
    obtain ⟨text, found, htext, hfound, hspelled⟩ := spellsNumber_parseNumber hparts
    obtain rfl := Value.number.inj hfound
    rw [append_nil] at htext
    rwa [htext]

theorem numberParts_integer (h : IntegerPart digits) (negative : Bool) :
    NumberParts (signOf negative) digits [] [] :=
  ⟨optionalMinus_signOf negative, h, .inl rfl, .inl rfl⟩

theorem decimalOf_integer (h : IntegerPart digits) (negative : Bool) :
    decimalOf (signOf negative ++ digits) =
      (((if negative then -1 else 1) * digitsValue digits : Int) : Rat) := by
  have hparts := decimalOf_parts (numberParts_integer h negative)
  simp only [append_nil, drop_nil, exponentOf_nil, Int.add_zero, isEmpty_signOf] at hparts
  rw [hparts, decimalValue_whole]

/-- An integer is spelled exactly in the range of sixty-four bits, and is written again with its
own digits. -/
theorem spellsNumber_integer (conv : CharConv) (negative : Bool) (h : IntegerPart digits)
    (hnonzero : digitsValue digits ≠ 0) :
    ((-2 ^ 63 ≤ (if negative then -1 else 1 : Int) * digitsValue digits ∧
        (if negative then -1 else 1 : Int) * digitsValue digits ≤ 2 ^ 64 - 1) →
      ∃ number, SpellsNumber conv (signOf negative ++ digits) number ∧
        canonicalNumber conv number = .ok (signOf negative ++ digits)) ∧
    ((∃ number, SpellsNumber conv (signOf negative ++ digits) number) →
      -2 ^ 63 ≤ (if negative then -1 else 1 : Int) * digitsValue digits ∧
        (if negative then -1 else 1 : Int) * digitsValue digits ≤ 2 ^ 64 - 1) := by
  have hiff : ∀ number, SpellsNumber conv (signOf negative ++ digits ++ [] ++ []) number ↔ _ :=
    fun number => spellsNumber_iff (numberParts_integer h negative)
  simp only [append_nil, isEmpty_nil, Bool.not_true, Bool.or_false, isEmpty_signOf] at hiff
  unfold convertNumber at hiff
  cases negative with
  | false =>
      simp only [Bool.false_eq_true, ↓reduceIte] at hiff ⊢
      constructor
      · rintro ⟨-, hhigh⟩
        have hrange : digitsValue digits < 2 ^ 64 := by omega
        refine ⟨_, (hiff _).mpr (if_pos hrange), ?_⟩
        rw [canonicalNumber, UInt64.toNat_ofNat_of_lt' hrange, decimal_digitsValue h]
        rfl
      · rintro ⟨number, hnumber⟩
        have hread := (hiff number).mp hnumber
        split at hread
        · omega
        · cases hread
  | true =>
      simp only [Bool.false_eq_true, ↓reduceIte] at hiff ⊢
      constructor
      · rintro ⟨hlow, -⟩
        have hrange : digitsValue digits ≤ 2 ^ 63 := by omega
        have hvalue :
            (Int64.ofInt (-(digitsValue digits : Int))).toInt = -(digitsValue digits : Int) :=
          Int64.toInt_ofInt_of_le (by omega) (by omega)
        have hnegative : Int64.ofInt (-(digitsValue digits : Int)) < 0 := by
          rw [Int64.lt_iff_toInt_lt, hvalue]
          show -(digitsValue digits : Int) < 0
          omega
        refine ⟨_, (hiff _).mpr (if_pos hrange), ?_⟩
        rw [canonicalNumber, if_pos hnegative, hvalue, Int.natAbs_neg, Int.natAbs_natCast,
          decimal_digitsValue h]
        rfl
      · rintro ⟨number, hnumber⟩
        have hread := (hiff number).mp hnumber
        split at hread
        · omega
        · cases hread

/-- **What is written for a binary64 number is a number, and is read as one unless the number is
oversized**; it is then written again as the same text. -/
theorem binary64_rewritten (hfinite : isFinite bits = true)
    (h : magnitude bits ≠ 0 → ShortestRoundTrip conv bits) :
    ∃ canonical, canonicalBinary64 conv bits = .ok canonical ∧ SpellsDecimal canonical ∧
      (¬Oversized conv bits → ∃ number, SpellsNumber conv canonical number ∧
        canonicalNumber conv number = .ok canonical) ∧
      ((∃ number, SpellsNumber conv canonical number) → ¬Oversized conv bits) := by
  by_cases hzero : magnitude bits = 0
  · have hzeroText : SpellsNumber conv [48] (.unsignedInteger [48] (.ofNat 0)) :=
      .unsignedInteger (.inl rfl) (by decide)
    refine ⟨[48], ?_, ⟨[], [48], [], [], ⟨.inl rfl, .inl rfl, .inl rfl, .inl rfl⟩, rfl⟩, ?_, ?_⟩
    · rw [canonicalBinary64, hfinite, if_neg (by decide), if_pos hzero]
    · exact fun _ => ⟨_, hzeroText, rfl⟩
    · rintro - ⟨hplain, -⟩
      rw [plainRange, hzero] at hplain
      exact absurd hplain (by decide)
  · obtain ⟨⟨sign, digits, fraction, exponent, hform, hshortest⟩, hnonzero, hread⟩ := h hzero
    obtain ⟨canonical, hcanonical, integer, fraction', exponent', hparts, rfl, hvalue, hwhole⟩ :=
      hform.laidOut hfinite hzero hshortest
    have hsame : decimalOf (signOf (!sign.isEmpty) ++ integer ++ fraction' ++ exponent') =
        decimalOf (sign ++ digits ++ fraction ++ exponent) := by
      rw [decimalOf_parts hparts, decimalOf_parts hform.parts, isEmpty_signOf, hvalue]
    refine ⟨_, hcanonical, ⟨_, _, _, _, hparts, rfl⟩, ?_⟩
    by_cases hempty : fraction' ++ exponent' = []
    · -- only an integer: its range decides
      obtain ⟨rfl, rfl⟩ := List.append_eq_nil_iff.mp hempty
      have hinteger := decimalOf_integer hparts.digits (!sign.isEmpty)
      simp only [append_nil] at hsame ⊢
      have hdigits : digitsValue integer ≠ 0 := by
        intro hdigits
        rw [hdigits, Nat.cast_zero, mul_zero, Int.cast_zero] at hinteger
        exact hnonzero _ hshortest (hsame.symm.trans hinteger)
      obtain ⟨hspelled, hranged⟩ := spellsNumber_integer conv (!sign.isEmpty) hparts.digits hdigits
      have hoversized : Oversized conv bits ↔
        ¬(-2 ^ 63 ≤ (if (!sign.isEmpty) = true then -1 else 1 : Int) *
          digitsValue integer ∧ (if (!sign.isEmpty) = true then -1 else 1 : Int) *
          digitsValue integer ≤ 2 ^ 64 - 1) := by
        generalize (if (!sign.isEmpty) = true then -1 else 1 : Int) * digitsValue integer = value
          at hinteger
        constructor
        · rintro ⟨-, text, other, htext, hother, hrange⟩ hwithin
          obtain rfl := Option.some.inj (hshortest.symm.trans htext)
          rw [← hsame, hinteger] at hother
          obtain rfl := Int.cast_injective hother
          omega
        · intro hrange
          exact ⟨(hwhole.mp rfl).1, _, value, hshortest, hsame.symm.trans hinteger, by omega⟩
      rw [hoversized, not_not]
      exact ⟨hspelled, hranged⟩
    · -- a fraction or an exponent: the number itself is read
      have hbits := hread _ _ hshortest ⟨_, _, _, _, hparts, rfl⟩ hsame
      have hspelled := SpellsNumber.binary64 hparts.sign hparts.digits hparts.fraction
        hparts.exponent hempty hbits hfinite
      refine ⟨fun _ => ⟨_, hspelled, hcanonical⟩, ?_⟩
      rintro - ⟨hplain, text, value, htext, hinteger, -⟩
      obtain rfl := Option.some.inj (hshortest.symm.trans htext)
      have hpoint : (digits.length : Int) + exponentOf exponent <
          (digits ++ fraction.drop 1).length := by
        by_contra hnot
        exact hempty (hwhole.mpr ⟨hplain, by omega⟩)
      rw [decimalOf_parts hform.parts] at hinteger
      exact decimalValue_not_integer hform.leading.spelled (hform.last hpoint) hpoint hinteger

end CpuPrefetch.Protocol.Json
