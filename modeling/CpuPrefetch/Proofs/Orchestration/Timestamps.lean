/-
Normalized timestamps are read by their grammar and compared by what they denote.

A timestamp has a date, a time of the day and a fraction of a second of any length.  Texts of
digits of one length are in the order of their numbers, and zeros at the end of a fraction do not
change it, so the comparison of padded fractions is that of rational numbers.
-/
import CpuPrefetch.Proofs.Orchestration.Ledger
import CpuPrefetch.Proofs.Protocol.Binary64
import Mathlib.Data.Prod.Lex
import Mathlib.Tactic.IntervalCases

namespace CpuPrefetch.Orchestration

open Protocol
open Protocol.Json (digitsValue isDigit)

/-! ### The grammar -/

/-- The days of a month of the Gregorian calendar. -/
def gregorianDays (year month : Nat) : Nat :=
  if month = 2 then if 4 ∣ year ∧ (100 ∣ year → 400 ∣ year) then 29 else 28
  else if month ∈ [4, 6, 9, 11] then 30 else 31

/-- The digits of a timestamp; there need not be a fraction. -/
structure UtcDigits where
  year : Text
  month : Text
  day : Text
  hour : Text
  minute : Text
  second : Text
  fraction : Option Text

/-- The digits between the marks. -/
def UtcDigits.text (digits : UtcDigits) : Text :=
  digits.year ++ 45 :: (digits.month ++ 45 :: (digits.day ++ 84 :: (digits.hour ++ 58 ::
    (digits.minute ++ 58 :: (digits.second ++
      (digits.fraction.elim [] (46 :: ·) ++ [90]))))))

/-- This many digits. -/
structure Digits (count : Nat) (text : Text) : Prop where
  length : text.length = count
  digits : ∀ byte ∈ text, isDigit byte = true

/-- The fields have their widths, and they are a day of the calendar and a time of it. -/
structure UtcDigits.Valid (digits : UtcDigits) : Prop where
  year : Digits 4 digits.year
  month : Digits 2 digits.month
  day : Digits 2 digits.day
  hour : Digits 2 digits.hour
  minute : Digits 2 digits.minute
  second : Digits 2 digits.second
  fraction : ∀ fraction ∈ digits.fraction, fraction ≠ [] ∧ ∀ byte ∈ fraction, isDigit byte = true
  monthOf : 1 ≤ digitsValue digits.month ∧ digitsValue digits.month ≤ 12
  dayOf : 1 ≤ digitsValue digits.day ∧
    digitsValue digits.day ≤ gregorianDays (digitsValue digits.year) (digitsValue digits.month)
  hourOf : digitsValue digits.hour ≤ 23
  minuteOf : digitsValue digits.minute ≤ 59
  secondOf : digitsValue digits.second ≤ 60

/-- A date, a time of the day and a fraction of a second, in lexicographic order. -/
abbrev Instant := (ℕ ×ₗ ℕ ×ₗ ℕ) ×ₗ (ℕ ×ₗ ℕ ×ₗ ℕ) ×ₗ ℚ

/-- The number that digits after a point denote. -/
def fractionValue (digits : Text) : ℚ := digitsValue digits / 10 ^ digits.length

def instantOf (year month day hour minute second : Nat) (fraction : ℚ) : Instant :=
  toLex (toLex (year, toLex (month, day)),
    toLex (toLex (hour, toLex (minute, second)), fraction))

def UtcDigits.instant (digits : UtcDigits) : Instant :=
  instantOf (digitsValue digits.year) (digitsValue digits.month) (digitsValue digits.day)
    (digitsValue digits.hour) (digitsValue digits.minute) (digitsValue digits.second)
    (fractionValue (digits.fraction.getD []))

/-- The text is a normalized timestamp of the instant. -/
def Utc (value : Text) (instant : Instant) : Prop :=
  ∃ digits : UtcDigits, digits.Valid ∧ value = digits.text ∧ instant = digits.instant

/-! ### What is read -/

theorem maximumDay_eq {year month : Nat} (h : 1 ≤ month ∧ month ≤ 12) :
    maximumDay year month = gregorianDays year month := by
  obtain ⟨hlow, hhigh⟩ := h
  have hleap : leap year = true ↔ 4 ∣ year ∧ (100 ∣ year → 400 ∣ year) := by
    simp only [leap, Bool.or_eq_true, Bool.and_eq_true, decide_eq_true_eq]
    omega
  simp only [maximumDay, gregorianDays, ← hleap]
  interval_cases month <;> simp [monthDays]

variable {value : Text}

theorem parseDigits_iff {offset count n : Nat} (hcount : 0 < count) :
    parseDigits value offset count = some n ↔
      Digits count ((value.drop offset).take count) ∧
        n = digitsValue ((value.drop offset).take count) := by
  have hlength : ((value.drop offset).take count).length = count ↔
      offset + count ≤ value.length := by
    rw [List.length_take, List.length_drop]
    omega
  rw [parseDigits]
  split
  · rename_i hshort
    exact iff_of_false nofun fun h => Nat.not_le.mpr hshort (hlength.mp h.1.length)
  · rename_i hlong
    split
    · rename_i hdigits
      rw [Option.some_inj, eq_comm, iff_and_self]
      exact fun _ => ⟨hlength.mpr (Nat.not_lt.mp hlong), List.all_eq_true.mp hdigits⟩
    · rename_i hdigits
      exact iff_of_false nofun fun h => hdigits (List.all_eq_true.mpr h.1.digits)

/-- What the reader makes of the digits. -/
def UtcDigits.stamp (digits : UtcDigits) : UtcTimestamp :=
  ⟨[digitsValue digits.year, digitsValue digits.month, digitsValue digits.day,
    digitsValue digits.hour, digitsValue digits.minute, digitsValue digits.second],
    trimZeros (digits.fraction.getD [])⟩

theorem drop_field (value : Text) (offset count : Nat) :
    (value.drop offset).take count ++ value.drop (offset + count) = value.drop offset := by
  rw [← List.drop_drop, List.take_append_drop]

theorem drop_mark {offset : Nat} {mark : UInt8} (h : value[offset]? = some mark) :
    mark :: value.drop (offset + 1) = value.drop offset := by
  obtain ⟨hlt, rfl⟩ := List.getElem?_eq_some_iff.mp h
  exact List.getElem_cons_drop hlt

theorem utcShape_iff : utcShape value = true ↔ 20 ≤ value.length ∧
    value.getLast? = some 90 ∧ value[4]? = some 45 ∧ value[7]? = some 45 ∧
      value[10]? = some 84 ∧ value[13]? = some 58 ∧ value[16]? = some 58 := by
  simp [utcShape, and_assoc]

/-- What stands after the seconds: nothing, or a point and digits, and the final letter. -/
theorem parseFraction_iff {fraction : Text} (hlength : 20 ≤ value.length)
    (hlast : value.getLast? = some 90) : parseFraction value = some fraction ↔
      ∃ digits : Option Text, (∀ written ∈ digits, written ≠ [] ∧
          ∀ byte ∈ written, isDigit byte = true) ∧
        value.drop 19 = digits.elim [] (46 :: ·) ++ [90] ∧
        fraction = trimZeros (digits.getD []) := by
  obtain ⟨front, rfl⟩ := List.getLast?_eq_some_iff.mp hlast
  rw [List.length_append, List.length_singleton] at hlength
  have hdrop : (front ++ [90]).drop 19 = front.drop 19 ++ [90] :=
    List.drop_append_of_le_length (by omega)
  rw [hdrop, parseFraction, List.length_append, List.length_singleton]
  by_cases hshort : front.length = 19
  · rw [if_pos (by omega), List.drop_eq_nil_of_le (by omega), List.nil_append, Option.some_inj]
    constructor
    · rintro rfl
      exact ⟨none, nofun, rfl, rfl⟩
    · rintro ⟨digits, -, hpoint, rfl⟩
      cases digits with
      | none => rfl
      | some written => simp at hpoint
  · -- the byte after the seconds, and what stands between it and the last one
    obtain ⟨point, rest, hrest⟩ := List.exists_cons_of_ne_nil
      (l := front.drop 19) (by simpa using by omega)
    have hpoint : (front ++ [90])[19]? = some point := by
      rw [← Nat.add_zero 19, ← List.getElem?_drop, hdrop, hrest]
      rfl
    have hback : (front ++ [90]).drop 20 = rest ++ [90] := by
      rw [← List.drop_drop (i := 1) (j := 19), hdrop, hrest]
      rfl
    have hcount : front.length = 20 + rest.length := by
      have := congrArg List.length hrest
      rw [List.length_drop, List.length_cons] at this
      omega
    rw [if_neg (by omega), hpoint, hback, hrest, hcount,
      show 20 + rest.length + 1 - 21 = rest.length by omega, List.take_left]
    have hempty : 20 + rest.length + 1 = 21 ↔ rest = [] := by
      rw [← List.length_eq_zero_iff]
      omega
    have hread : (∃ digits : Option Text, (∀ written ∈ digits, written ≠ [] ∧
          ∀ byte ∈ written, isDigit byte = true) ∧
        point :: rest ++ [90] = digits.elim [] (46 :: ·) ++ [90] ∧
          fraction = trimZeros (digits.getD [])) ↔
        point = 46 ∧ rest ≠ [] ∧ (∀ byte ∈ rest, isDigit byte = true) ∧
          fraction = trimZeros rest := by
      constructor
      · rintro ⟨digits, hdigits, heq, rfl⟩
        cases digits with
        | none => cases List.append_cancel_right heq
        | some written =>
            obtain ⟨rfl, rfl⟩ := List.cons.inj (List.append_cancel_right heq)
            exact ⟨rfl, (hdigits _ rfl).1, (hdigits _ rfl).2, rfl⟩
      · rintro ⟨rfl, hne, hdigits, rfl⟩
        refine ⟨some rest, ?_, rfl, rfl⟩
        rintro _ ⟨⟩
        exact ⟨hne, hdigits⟩
    rw [hread]
    dsimp only
    by_cases h46 : point = 46
    · by_cases hne : rest = []
      · simp [h46, hne]
      · by_cases hdigits : ∀ byte ∈ rest, isDigit byte = true
        · have hall := List.all_eq_true.mpr hdigits
          rw [if_neg (by simp [h46, hempty, hne]), if_neg (by simp [hne, hall]), Option.some_inj]
          exact ⟨fun h => ⟨h46, hne, hdigits, h.symm⟩, fun h => h.2.2.2.symm⟩
        · have hother : rest.all isDigit = false := by
            rw [Bool.eq_false_iff, ne_eq, List.all_eq_true]
            exact hdigits
          rw [hother]
          exact iff_of_false (by simp [h46]) fun h => hdigits h.2.2.1
    · simp [h46]

theorem length_eq_four {text : Text} (h : text.length = 4) :
    ∃ first second third fourth, text = [first, second, third, fourth] := by
  obtain ⟨first, rest, rfl⟩ := List.exists_cons_of_length_eq_add_one h
  obtain ⟨second, third, fourth, rfl⟩ := List.length_eq_three.mp (Nat.succ.inj h)
  exact ⟨first, second, third, fourth, rfl⟩

theorem parseUtc_iff {stamp : UtcTimestamp} : parseUtc value = some stamp ↔
    ∃ digits : UtcDigits, digits.Valid ∧ value = digits.text ∧ stamp = digits.stamp := by
  constructor
  · intro h
    rw [parseUtc] at h
    split at h
    · cases h
    · rename_i hshape
      rw [Bool.not_eq_true', Bool.not_eq_false, utcShape_iff] at hshape
      obtain ⟨hlength, hlast, h4, h7, h10, h13, h16⟩ := hshape
      simp only [bind, Option.bind_eq_some_iff, parseDigits_iff Nat.zero_lt_two,
        parseDigits_iff (show 0 < 4 by decide)] at h
      obtain ⟨year, ⟨hyear, rfl⟩, month, ⟨hmonth, rfl⟩, day, ⟨hday, rfl⟩, hour, ⟨hhour, rfl⟩,
        minute, ⟨hminute, rfl⟩, second, ⟨hsecond, rfl⟩, h⟩ := h
      split at h
      · cases h
      · rename_i hclock
        split at h
        · cases h
        · rename_i hdate
          obtain ⟨fraction, hfraction, h⟩ := Option.bind_eq_some_iff.mp h
          obtain rfl := Option.some.inj h
          obtain ⟨digits, hdigits, hrest, rfl⟩ := (parseFraction_iff hlength hlast).mp hfraction
          simp only [Bool.or_eq_true, decide_eq_true_eq, not_or, not_lt] at hclock hdate
          obtain ⟨⟨⟨⟨hpositive, htwelve⟩, hhours⟩, hminutes⟩, hseconds⟩ := hclock
          have hmonths := And.intro (Nat.one_le_iff_ne_zero.mpr hpositive) htwelve
          rw [maximumDay_eq hmonths] at hdate
          refine ⟨⟨value.take 4, (value.drop 5).take 2, (value.drop 8).take 2,
            (value.drop 11).take 2, (value.drop 14).take 2, (value.drop 17).take 2, digits⟩,
            ⟨hyear, hmonth, hday, hhour, hminute, hsecond, hdigits, hmonths,
              ⟨Nat.one_le_iff_ne_zero.mpr hdate.1, hdate.2⟩, hhours, hminutes, hseconds⟩, ?_, rfl⟩
          rw [UtcDigits.text]
          dsimp only
          rw [← hrest, drop_field value 17 2, drop_mark h16, drop_field value 14 2, drop_mark h13,
            drop_field value 11 2, drop_mark h10, drop_field value 8 2, drop_mark h7,
            drop_field value 5 2, drop_mark h4, List.take_append_drop]
  · rintro ⟨digits, hvalid, rfl, rfl⟩
    -- the marks stand where the widths put them
    obtain ⟨_, _, _, _, hyear⟩ := length_eq_four hvalid.year.length
    obtain ⟨_, _, hmonth⟩ := List.length_eq_two.mp hvalid.month.length
    obtain ⟨_, _, hday⟩ := List.length_eq_two.mp hvalid.day.length
    obtain ⟨_, _, hhour⟩ := List.length_eq_two.mp hvalid.hour.length
    obtain ⟨_, _, hminute⟩ := List.length_eq_two.mp hvalid.minute.length
    obtain ⟨_, _, hsecond⟩ := List.length_eq_two.mp hvalid.second.length
    have htext : digits.text = digits.text := rfl
    conv_rhs at htext => rw [UtcDigits.text, hyear, hmonth, hday, hhour, hminute, hsecond]
    have hrest : digits.text.drop 19 = digits.fraction.elim [] (46 :: ·) ++ [90] := by
      rw [htext]
      rfl
    have hlength : 20 ≤ digits.text.length := by
      have := congrArg List.length hrest
      rw [List.length_drop, List.length_append, List.length_singleton] at this
      omega
    have hlast : digits.text.getLast? = some 90 := by
      rw [← List.take_append_drop 19 digits.text, hrest, ← List.append_assoc, List.getLast?_concat]
    have hshape : utcShape digits.text = true := by
      refine utcShape_iff.mpr ⟨hlength, hlast, ?_⟩
      rw [htext]
      exact ⟨rfl, rfl, rfl, rfl, rfl⟩
    have hfraction := (parseFraction_iff hlength hlast).mpr
      ⟨digits.fraction, hvalid.fraction, hrest, rfl⟩
    have hfield : ∀ {offset count : Nat} {field : Text}, 0 < count → Digits count field →
        (digits.text.drop offset).take count = field →
        parseDigits digits.text offset count = some (digitsValue field) := by
      rintro offset count _ hcount hdigits rfl
      exact (parseDigits_iff hcount).mpr ⟨hdigits, rfl⟩
    rw [parseUtc, hshape, hfield (by decide) hvalid.year (by rw [htext, hyear]; rfl),
      hfield (by decide) hvalid.month (by rw [htext, hmonth]; rfl),
      hfield (by decide) hvalid.day (by rw [htext, hday]; rfl),
      hfield (by decide) hvalid.hour (by rw [htext, hhour]; rfl),
      hfield (by decide) hvalid.minute (by rw [htext, hminute]; rfl),
      hfield (by decide) hvalid.second (by rw [htext, hsecond]; rfl), hfraction]
    have hclock : (digitsValue digits.month = 0 || digitsValue digits.month > 12 ||
        digitsValue digits.hour > 23 || digitsValue digits.minute > 59 ||
        digitsValue digits.second > 60) = false := by
      have := hvalid.monthOf
      have := hvalid.hourOf
      have := hvalid.minuteOf
      have := hvalid.secondOf
      simp only [Bool.or_eq_false_iff, decide_eq_false_iff_not]
      omega
    have hdate : (digitsValue digits.day = 0 || digitsValue digits.day >
        maximumDay (digitsValue digits.year) (digitsValue digits.month)) = false := by
      have := hvalid.dayOf
      rw [maximumDay_eq hvalid.monthOf]
      simp only [Bool.or_eq_false_iff, decide_eq_false_iff_not]
      omega
    simp only [bind, Option.bind_some, hclock, hdate]
    rfl

/-! ### Fractions -/

theorem digitsValue_lt {digits : Text} (h : ∀ byte ∈ digits, isDigit byte = true) :
    digitsValue digits < 10 ^ digits.length := by
  induction digits using List.reverseRecOn with
  | nil => decide
  | append_singleton front last ih =>
      rw [List.forall_mem_append, List.forall_mem_singleton] at h
      have hlast := h.2
      simp only [isDigit, Bool.and_eq_true, decide_eq_true_eq, UInt8.le_iff_toNat_le,
        UInt8.reduceToNat] at hlast
      have hfront := ih h.1
      rw [Json.digitsValue_append, List.length_append, List.length_singleton, pow_succ]
      omega

/-- A number of two places is compared by the higher place first. -/
theorem place_lt_iff {high high' low low' base : Nat} (hlow : low < base) (hlow' : low' < base) :
    high < high' ∨ high = high' ∧ low < low' ↔ high * base + low < high' * base + low' := by
  rcases Nat.lt_trichotomy high high' with h | rfl | h
  · have := Nat.mul_le_mul_right base (Nat.succ_le_iff.mpr h)
    rw [Nat.succ_mul] at this
    exact iff_of_true (Or.inl h) (by omega)
  · simp
  · have := Nat.mul_le_mul_right base (Nat.succ_le_iff.mpr h)
    rw [Nat.succ_mul] at this
    exact iff_of_false (by omega) (by omega)

/-- Digits of one length are in the order of their numbers. -/
theorem lt_iff_digitsValue {left right : Text} (hleft : ∀ byte ∈ left, isDigit byte = true)
    (hright : ∀ byte ∈ right, isDigit byte = true) (h : left.length = right.length) :
    left < right ↔ digitsValue left < digitsValue right := by
  induction left generalizing right with
  | nil =>
      obtain rfl := List.eq_nil_of_length_eq_zero h.symm
      exact iff_of_false (List.lt_irrefl _) (Nat.lt_irrefl _)
  | cons first rest ih =>
      obtain _ | ⟨first', rest'⟩ := right
      · cases h
      · rw [List.forall_mem_cons] at hleft hright
        have hlength := Nat.succ.inj h
        have hvalue : ∀ (byte : UInt8) (text : Text), digitsValue (byte :: text) =
            (byte.toNat - 48) * 10 ^ text.length + digitsValue text := by
          intro byte text
          rw [← List.singleton_append, Json.digitsValue_append_list]
          simp [digitsValue]
        have hbound := digitsValue_lt hleft.2
        have hbound' := digitsValue_lt hright.2
        rw [← hlength] at hbound'
        rw [List.cons_lt_cons_iff, ih hleft.2 hright.2 hlength, hvalue, hvalue, ← hlength]
        have hfirst := hleft.1
        have hfirst' := hright.1
        simp only [isDigit, Bool.and_eq_true, decide_eq_true_eq, UInt8.le_iff_toNat_le,
          UInt8.reduceToNat] at hfirst hfirst'
        rw [UInt8.lt_iff_toNat_lt, ← UInt8.toNat_inj, ← place_lt_iff hbound hbound']
        omega

theorem fractionValue_padZeros (size : Nat) (fraction : Text) :
    fractionValue (padZeros size fraction) = fractionValue fraction := by
  rw [fractionValue, padZeros, Json.digitsValue_append_list, Json.digitsValue_zeros, Nat.add_zero,
    List.length_append, pow_add, Nat.cast_mul, Nat.cast_pow, Nat.cast_ofNat,
    mul_div_mul_right _ _ (by positivity), fractionValue]

/-- The zeros at the end of a fraction do not change it. -/
theorem fractionValue_trimZeros (fraction : Text) :
    fractionValue (trimZeros fraction) = fractionValue fraction := by
  have hzeros : (fraction.reverse.takeWhile (· = 48)).reverse =
      List.replicate (fraction.length - (trimZeros fraction).length) 48 := by
    refine List.eq_replicate_iff.mpr ⟨?_, fun byte hbyte => ?_⟩
    · have := congrArg List.length
        (List.takeWhile_append_dropWhile (p := (· = 48)) (l := fraction.reverse))
      rw [List.length_append, List.length_reverse] at this
      rw [trimZeros, List.length_reverse, List.length_reverse]
      omega
    · exact of_decide_eq_true
        (List.mem_takeWhile_imp (p := fun byte => decide (byte = 48)) (List.mem_reverse.mp hbyte))
  have hsplit : padZeros fraction.length (trimZeros fraction) = fraction := by
    rw [padZeros, ← hzeros, trimZeros, ← List.reverse_append, List.takeWhile_append_dropWhile,
      List.reverse_reverse]
  rw [← fractionValue_padZeros fraction.length (trimZeros fraction), hsplit]

theorem padZeros_lt_iff {left right : Text} {size : Nat}
    (hleft : ∀ byte ∈ left, isDigit byte = true) (hright : ∀ byte ∈ right, isDigit byte = true)
    (hsize : left.length ≤ size) (hsize' : right.length ≤ size) :
    padZeros size left < padZeros size right ↔ fractionValue left < fractionValue right := by
  have hdigits : ∀ {text : Text}, (∀ byte ∈ text, isDigit byte = true) →
      ∀ byte ∈ padZeros size text, isDigit byte = true := by
    intro text htext
    rw [padZeros, List.forall_mem_append]
    exact ⟨htext, fun byte hbyte => by rw [List.eq_of_mem_replicate hbyte]; decide⟩
  have hlength := (padZeros_length hsize).trans (padZeros_length hsize').symm
  rw [← fractionValue_padZeros size left, ← fractionValue_padZeros size right, fractionValue,
    fractionValue, hlength, div_lt_div_iff_of_pos_right (by positivity), Nat.cast_lt,
    lt_iff_digitsValue (hdigits hleft) (hdigits hright) hlength]

/-! ### The order -/

theorem UtcDigits.Valid.trimmed {digits : UtcDigits} (h : digits.Valid) :
    ∀ byte ∈ digits.stamp.fraction, isDigit byte = true := by
  intro byte hbyte
  have hmem : byte ∈ digits.fraction.getD [] := by
    rw [UtcDigits.stamp] at hbyte
    exact List.mem_reverse.mp ((List.dropWhile_sublist _).subset (List.mem_reverse.mp hbyte))
  cases hfraction : digits.fraction with
  | none => simp [hfraction] at hmem
  | some fraction =>
      rw [hfraction] at hmem
      exact (h.fraction fraction hfraction).2 byte hmem

/-- The comparison of what is read is the chronological one. -/
theorem timestampLess_instant {left right : UtcDigits} (hleft : left.Valid)
    (hright : right.Valid) :
    timestampLess left.stamp right.stamp = true ↔ left.instant < right.instant := by
  rw [timestampLess_iff (le_max_left _ _) (le_max_right _ _),
    padZeros_lt_iff hleft.trimmed hright.trimmed (le_max_left _ _) (le_max_right _ _)]
  simp only [UtcDigits.stamp, fractionValue_trimZeros, UtcDigits.instant, instantOf,
    Prod.Lex.toLex_lt_toLex, List.cons_lt_cons_iff, List.cons.injEq, List.lt_irrefl,
    EmbeddingLike.apply_eq_iff_eq, Prod.mk.injEq]
  tauto

/-- What the reader makes of a timestamp of an instant. -/
theorem Utc.read {instant : Instant} {stamp : UtcTimestamp} (h : Utc value instant)
    (hread : parseUtc value = some stamp) :
    ∃ digits : UtcDigits, digits.Valid ∧ stamp = digits.stamp ∧ instant = digits.instant := by
  obtain ⟨digits, hvalid, rfl, rfl⟩ := h
  have hdigits := parseUtc_iff.mpr ⟨digits, hvalid, rfl, rfl⟩
  exact ⟨digits, hvalid, Option.some.inj (hread.symm.trans hdigits), rfl⟩

/-- The timestamps that some text is read as. -/
abbrev AcceptedUtc := {stamp : UtcTimestamp // ∃ value, parseUtc value = some stamp}

theorem AcceptedUtc.digits (stamp : AcceptedUtc) :
    ∃ digits : UtcDigits, digits.Valid ∧ stamp.1 = digits.stamp := by
  obtain ⟨stamp, value, hread⟩ := stamp
  obtain ⟨digits, hvalid, -, rfl⟩ := parseUtc_iff.mp hread
  exact ⟨digits, hvalid, rfl⟩

theorem accepted_strictWeakOrder :
    IsStrictWeakOrder AcceptedUtc fun left right => timestampLess left.1 right.1 = true := by
  choose digits hvalid hstamp using AcceptedUtc.digits
  have hless : ∀ left right : AcceptedUtc, timestampLess left.1 right.1 = true ↔
      (digits left).instant < (digits right).instant := by
    intro left right
    rw [hstamp left, hstamp right]
    exact timestampLess_instant (hvalid left) (hvalid right)
  simp only [hless]
  refine { irrefl := fun _ => lt_irrefl _, trans := fun _ _ _ => lt_trans, incomp_trans := ?_ }
  rintro first second third ⟨hfirst, hsecond⟩ ⟨hsecond', hthird⟩
  rw [le_antisymm (not_lt.mp hsecond) (not_lt.mp hfirst),
    le_antisymm (not_lt.mp hthird) (not_lt.mp hsecond')]
  exact ⟨lt_irrefl _, lt_irrefl _⟩

/-- The reader accepts the normalized timestamps and no other text.  On what it accepts the
comparison is a strict weak order; it is the lexicographic order of the date, the time and the
exact fraction, so two timestamps are equivalent when these are the same. -/
theorem timestampLess_chronological :
    (∀ value, (∃ stamp, parseUtc value = some stamp) ↔ ∃ instant, Utc value instant) ∧
    IsStrictWeakOrder AcceptedUtc (fun left right => timestampLess left.1 right.1 = true) ∧
    ∀ {left right : Text} {stamp stamp' : UtcTimestamp} {instant instant' : Instant},
      parseUtc left = some stamp → parseUtc right = some stamp' →
      Utc left instant → Utc right instant' →
      (timestampLess stamp stamp' = true ↔ instant < instant') ∧
        (timestampLess stamp stamp' = false ∧ timestampLess stamp' stamp = false ↔
          instant = instant') := by
  refine ⟨fun value => ⟨?_, ?_⟩, accepted_strictWeakOrder, ?_⟩
  · rintro ⟨stamp, hread⟩
    obtain ⟨digits, hvalid, rfl, -⟩ := parseUtc_iff.mp hread
    exact ⟨digits.instant, digits, hvalid, rfl, rfl⟩
  · rintro ⟨_, digits, hvalid, rfl, rfl⟩
    exact ⟨digits.stamp, parseUtc_iff.mpr ⟨digits, hvalid, rfl, rfl⟩⟩
  · intro left right stamp stamp' instant instant' hleft hright hutc hutc'
    obtain ⟨digits, hvalid, rfl, rfl⟩ := hutc.read hleft
    obtain ⟨digits', hvalid', rfl, rfl⟩ := hutc'.read hright
    refine ⟨timestampLess_instant hvalid hvalid', ?_⟩
    rw [← Bool.not_eq_true, ← Bool.not_eq_true, timestampLess_instant hvalid hvalid',
      timestampLess_instant hvalid' hvalid, not_lt, not_lt]
    exact ⟨fun h => le_antisymm h.2 h.1, fun h => ⟨h.ge, h.le⟩⟩

/-- A leap second of the year 2000 with this fraction. -/
def leapSecond (fraction : Text) : UtcDigits :=
  ⟨ascii "2000", ascii "02", ascii "29", ascii "23", ascii "59", ascii "60", some fraction⟩

theorem leapSecond_valid {fraction : Text} (hne : fraction ≠ [])
    (h : ∀ byte ∈ fraction, isDigit byte = true) : (leapSecond fraction).Valid := by
  have hyear : Digits 4 (ascii "2000") := ⟨by decide, List.all_eq_true.mp (by decide)⟩
  have hmonth : Digits 2 (ascii "02") := ⟨by decide, List.all_eq_true.mp (by decide)⟩
  have hday : Digits 2 (ascii "29") := ⟨by decide, List.all_eq_true.mp (by decide)⟩
  have hhour : Digits 2 (ascii "23") := ⟨by decide, List.all_eq_true.mp (by decide)⟩
  have hminute : Digits 2 (ascii "59") := ⟨by decide, List.all_eq_true.mp (by decide)⟩
  have hsecond : Digits 2 (ascii "60") := ⟨by decide, List.all_eq_true.mp (by decide)⟩
  have hdate : 1 ≤ digitsValue (ascii "29") ∧ digitsValue (ascii "29") ≤
      gregorianDays (digitsValue (ascii "2000")) (digitsValue (ascii "02")) := by decide
  have hclock : digitsValue (ascii "23") ≤ 23 ∧ digitsValue (ascii "59") ≤ 59 ∧
      digitsValue (ascii "60") ≤ 60 := by decide
  have hfraction : ∀ written ∈ some fraction, written ≠ [] ∧
      ∀ byte ∈ written, isDigit byte = true := by
    rintro _ ⟨⟩
    exact ⟨hne, h⟩
  exact ⟨hyear, hmonth, hday, hhour, hminute, hsecond, hfraction,
    show 1 ≤ digitsValue (ascii "02") ∧ digitsValue (ascii "02") ≤ 12 by decide, hdate, hclock.1,
    hclock.2.1, hclock.2.2⟩

/-- The zero at the end of a fraction makes no difference. -/
theorem leapSecond_equivalent :
    timestampLess (leapSecond (ascii "50")).stamp (leapSecond (ascii "5")).stamp = false ∧
      timestampLess (leapSecond (ascii "5")).stamp (leapSecond (ascii "50")).stamp = false := by
  have hutc : Utc (leapSecond (ascii "50")).text (leapSecond (ascii "50")).instant :=
    ⟨_, leapSecond_valid (by decide) (List.all_eq_true.mp (by decide)), rfl, rfl⟩
  have hutc' : Utc (leapSecond (ascii "5")).text (leapSecond (ascii "5")).instant :=
    ⟨_, leapSecond_valid (by decide) (List.all_eq_true.mp (by decide)), rfl, rfl⟩
  have hread : parseUtc (leapSecond (ascii "50")).text = some (leapSecond (ascii "50")).stamp :=
    parseUtc_iff.mpr ⟨_, leapSecond_valid (by decide) (List.all_eq_true.mp (by decide)), rfl, rfl⟩
  have hread' : parseUtc (leapSecond (ascii "5")).text = some (leapSecond (ascii "5")).stamp :=
    parseUtc_iff.mpr ⟨_, leapSecond_valid (by decide) (List.all_eq_true.mp (by decide)), rfl, rfl⟩
  have hfraction : fractionValue (ascii "50") = fractionValue (ascii "5") :=
    (fractionValue_trimZeros (ascii "50")).symm
  refine (timestampLess_chronological.2.2 hread hread' hutc hutc').2.mpr ?_
  simp only [UtcDigits.instant, leapSecond, Option.getD_some, hfraction]

end CpuPrefetch.Orchestration
