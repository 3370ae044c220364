/-
UTF-8 texts are the encodings of Unicode characters.

The decoder works on bytes with masks and shifts; read as numbers, a lead byte is one of
four ranges and every continuation byte adds six bits.  So it decodes exactly the
encodings, and to the characters they came from: a text that is UTF-8 can be thought of
as a list of characters.
-/
import CpuPrefetch.Proofs.Protocol.Tokens

namespace CpuPrefetch.Protocol.Json

open List Utf8

/-! ### Bytes as numbers -/

theorem leadByte_eq (byte : UInt8) : leadByte byte =
    if byte.toNat < 0x80 then some (.ofNat byte.toNat, 1)
    else if byte.toNat < 0xc0 then none
    else if byte.toNat < 0xe0 then some (.ofNat (byte.toNat - 0xc0), 2)
    else if byte.toNat < 0xf0 then some (.ofNat (byte.toNat - 0xe0), 3)
    else if byte.toNat < 0xf8 then some (.ofNat (byte.toNat - 0xf0), 4)
    else none :=
  forall_byte (p := fun byte => leadByte byte =
    if byte.toNat < 0x80 then some (.ofNat byte.toNat, 1)
    else if byte.toNat < 0xc0 then none
    else if byte.toNat < 0xe0 then some (.ofNat (byte.toNat - 0xc0), 2)
    else if byte.toNat < 0xf0 then some (.ofNat (byte.toNat - 0xe0), 3)
    else if byte.toNat < 0xf8 then some (.ofNat (byte.toNat - 0xf0), 4)
    else none) (by decide) byte

theorem continuation_iff (byte : UInt8) :
    byte &&& 0xc0 = 0x80 ↔ 0x80 ≤ byte.toNat ∧ byte.toNat < 0xc0 :=
  forall_byte (p := fun byte => byte &&& 0xc0 = 0x80 ↔ 0x80 ≤ byte.toNat ∧ byte.toNat < 0xc0)
    (by decide) byte

variable {codePoint : UInt32}

/-- A continuation byte carries six more bits. -/
theorem continuationBytes_cons (h : codePoint.toNat < 2 ^ 26) {byte : UInt8}
    (hbyte : 0x80 ≤ byte.toNat ∧ byte.toNat < 0xc0) (rest : List UInt8) :
    continuationBytes codePoint (byte :: rest) =
      continuationBytes (.ofNat (codePoint.toNat * 64 + (byte.toNat - 0x80))) rest := by
  have hbits : (byte &&& 0x3f).toNat = byte.toNat % 64 := by
    rw [UInt8.toNat_and]
    exact Nat.and_two_pow_sub_one_eq_mod byte.toNat 6
  have hshift : (codePoint <<< 6).toNat = 2 ^ 6 * codePoint.toNat := by
    rw [UInt32.toNat_shiftLeft, Nat.shiftLeft_eq]
    show codePoint.toNat * 2 ^ 6 % 2 ^ 32 = _
    omega
  have hnext : (codePoint <<< 6) ||| (byte &&& 0x3f).toUInt32 =
      .ofNat (codePoint.toNat * 64 + (byte.toNat - 0x80)) := by
    apply UInt32.toNat_inj.mp
    rw [UInt32.toNat_or, hshift, UInt8.toNat_toUInt32, hbits,
      ← Nat.two_pow_add_eq_or_of_lt (by omega : byte.toNat % 64 < 2 ^ 6),
      UInt32.toNat_ofNat_of_lt' (by simp only [UInt32.size]; omega)]
    omega
  rw [continuationBytes, if_neg (not_not.mpr ((continuation_iff byte).mpr hbyte)), hnext]

variable {length n : Nat}

theorem invalidScalar_ofNat (hn : n < 2 ^ 32) : invalidScalar length (.ofNat n) = false ↔
      (length = 2 → 0x80 ≤ n) ∧ (length = 3 → 0x800 ≤ n) ∧ (length = 4 → 0x10000 ≤ n) ∧
        n ≤ 0x10ffff ∧ (n < 0xd800 ∨ 0xdfff < n) := by
  have hsize : (UInt32.ofNat n).toNat = n := UInt32.toNat_ofNat_of_lt' hn
  simp only [invalidScalar, Bool.or_eq_false_iff, Bool.and_eq_false_iff,
    decide_eq_false_iff_not, UInt32.lt_iff_toNat_lt, UInt32.le_iff_toNat_le, gt_iff_lt, ge_iff_le,
    hsize, UInt32.reduceToNat]
  omega

variable {bits : UInt32} {following : List UInt8}

theorem decodeSequence_ok (h : continuationBytes bits following = some (.ofNat n)) (hn : n < 2 ^ 32)
    (hscalar : (length = 2 → 0x80 ≤ n) ∧ (length = 3 → 0x800 ≤ n) ∧ (length = 4 → 0x10000 ≤ n) ∧
      n ≤ 0x10ffff ∧ (n < 0xd800 ∨ 0xdfff < n)) :
    decodeSequence bits length following = .ok (.ofNat n) := by
  rw [decodeSequence, h]
  simp only [(invalidScalar_ofNat hn).mpr hscalar]
  rfl

/-! ### Characters -/

/-- The encoding of a list of characters. -/
def utf8 (chars : List Char) : Text := chars.flatMap String.utf8EncodeChar

theorem char_scalar (c : Char) :
    c.val.toNat ≤ 0x10ffff ∧ (c.val.toNat < 0xd800 ∨ 0xdfff < c.val.toNat) := by
  have hvalid : c.val.toNat < 0xd800 ∨ 0xdfff < c.val.toNat ∧ c.val.toNat < 0x110000 := c.valid
  omega

theorem toNat_ofNat_byte (h : n < 256) : (UInt8.ofNat n).toNat = n :=
  UInt8.toNat_ofNat_of_lt' h

theorem toNat_ofNat_word (h : n < 2 ^ 32) : (UInt32.ofNat n).toNat = n :=
  UInt32.toNat_ofNat_of_lt' h

theorem leadByte_two (h : n < 0x20) : leadByte (.ofNat (n + 0xc0)) = some (.ofNat n, 2) := by
  rw [leadByte_eq, toNat_ofNat_byte (by omega), if_neg (by omega), if_neg (by omega),
    if_pos (by omega), Nat.add_sub_cancel]

theorem leadByte_three (h : n < 0x10) : leadByte (.ofNat (n + 0xe0)) = some (.ofNat n, 3) := by
  rw [leadByte_eq, toNat_ofNat_byte (by omega), if_neg (by omega), if_neg (by omega),
    if_neg (by omega), if_pos (by omega), Nat.add_sub_cancel]

theorem leadByte_four (h : n < 0x08) : leadByte (.ofNat (n + 0xf0)) = some (.ofNat n, 4) := by
  rw [leadByte_eq, toNat_ofNat_byte (by omega), if_neg (by omega), if_neg (by omega),
    if_neg (by omega), if_neg (by omega), if_pos (by omega), Nat.add_sub_cancel]

theorem continuationBytes_ofNat (h : n < 2 ^ 26) {bits : Nat} (hbits : bits < 0x40)
    (rest : List UInt8) : continuationBytes (.ofNat n) (.ofNat (bits + 0x80) :: rest) =
      continuationBytes (.ofNat (n * 64 + bits)) rest := by
  have hn : (UInt32.ofNat n).toNat = n := toNat_ofNat_word (by omega)
  have hbyte : (UInt8.ofNat (bits + 0x80)).toNat = bits + 0x80 := toNat_ofNat_byte (by omega)
  rw [continuationBytes_cons (by omega) (by omega), hn, hbyte, Nat.add_sub_cancel]

/-- The decoder reads a character's encoding back. -/
theorem decodeUtf8_char (c : Char) (rest : Text) :
    decodeUtf8 (String.utf8EncodeChar c ++ rest) = (decodeUtf8 rest).map (c.val :: ·) := by
  obtain ⟨hmax, hscalar⟩ := char_scalar c
  have hval : UInt32.ofNat c.val.toNat = c.val := UInt32.ofNat_toNat
  have hfinish : ∀ {result : Result UInt32} {n : Nat}, n = c.val.toNat → result = .ok (.ofNat n) →
      (do
        let codePoint ← result
        let codePoints ← decodeUtf8 rest
        .ok (codePoint :: codePoints)) = (decodeUtf8 rest).map (c.val :: ·) := by
    rintro result n rfl rfl
    rw [hval]
    cases decodeUtf8 rest <;> rfl
  obtain ⟨v, hv⟩ : ∃ v, c.val.toNat = v := ⟨_, rfl⟩
  simp only [String.utf8EncodeChar, hv] at hmax hscalar hfinish ⊢
  split
  · have hlead : leadByte (UInt8.ofNat v) = some (.ofNat v, 1) := by
      rw [leadByte_eq, toNat_ofNat_byte (by omega), if_pos (by omega)]
    rw [singleton_append, decodeUtf8, hlead]
    exact hfinish rfl (decodeSequence_ok rfl (by omega) (by omega))
  · split
    · rw [cons_append, singleton_append, decodeUtf8, leadByte_two (by omega)]
      refine hfinish (n := v / 64 % 0x20 * 64 + v % 0x40) (by omega)
        (decodeSequence_ok ?_ (by omega) (by omega))
      rw [continuationBytes_ofNat (by omega) (by omega)]
      rfl
    · split
      · rw [cons_append, cons_append, singleton_append, decodeUtf8,
          leadByte_three (by omega)]
        refine hfinish (n := (v / 4096 % 0x10 * 64 + v / 64 % 0x40) * 64 + v % 0x40) (by omega)
          (decodeSequence_ok ?_ (by omega) (by omega))
        rw [continuationBytes_ofNat (by omega) (by omega),
          continuationBytes_ofNat (by omega) (by omega)]
        rfl
      · rw [cons_append, cons_append, cons_append, singleton_append, decodeUtf8,
          leadByte_four (by omega)]
        refine hfinish
          (n := ((v / 262144 % 0x08 * 64 + v / 4096 % 0x40) * 64 + v / 64 % 0x40) * 64 + v % 0x40)
          (by omega) (decodeSequence_ok ?_ (by omega) (by omega))
        rw [continuationBytes_ofNat (by omega) (by omega),
          continuationBytes_ofNat (by omega) (by omega),
          continuationBytes_ofNat (by omega) (by omega)]
        rfl

theorem decodeUtf8_utf8 (chars : List Char) :
    decodeUtf8 (utf8 chars) = .ok (chars.map Char.val) := by
  induction chars with
  | nil => rfl
  | cons c rest ih =>
      rw [utf8, flatMap_cons, decodeUtf8_char, ← utf8, ih]
      rfl

/-! ### Texts -/

/-- A code point of which the decoder has checked that it is a scalar value. -/
theorem invalidScalar_char (h : invalidScalar length codePoint = false) :
    codePoint.isValidChar := by
  have hn := (invalidScalar_ofNat codePoint.toNat_lt).mp
    (show invalidScalar length (.ofNat codePoint.toNat) = false by rwa [UInt32.ofNat_toNat])
  show codePoint.toNat < 0xd800 ∨ 0xdfff < codePoint.toNat ∧ codePoint.toNat < 0x110000
  omega

theorem decodeSequence_eq (h : decodeSequence bits length following = .ok codePoint) :
    continuationBytes bits following = some codePoint ∧
      invalidScalar length codePoint = false := by
  unfold decodeSequence at h
  split at h
  · cases h
  · rename_i found hfound
    split at h
    · cases h
    · rename_i hscalar
      obtain rfl := Except.ok.inj h
      exact ⟨hfound, by simpa using hscalar⟩

theorem continuationBytes_some (h : n < 2 ^ 26) {byte : UInt8} {rest : List UInt8}
    (hread : continuationBytes (.ofNat n) (byte :: rest) = some codePoint) :
    (0x80 ≤ byte.toNat ∧ byte.toNat < 0xc0) ∧
      continuationBytes (.ofNat (n * 64 + (byte.toNat - 0x80))) rest = some codePoint := by
  have hbyte : 0x80 ≤ byte.toNat ∧ byte.toNat < 0xc0 := by
    rw [← continuation_iff]
    by_contra hnot
    rw [continuationBytes, if_pos hnot] at hread
    cases hread
  have hn : (UInt32.ofNat n).toNat = n := toNat_ofNat_word (by omega)
  rw [continuationBytes_cons (by omega) hbyte, hn] at hread
  exact ⟨hbyte, hread⟩

theorem ofNat_byte (byte : UInt8) (h : n = byte.toNat) : UInt8.ofNat n = byte := by
  rw [h, UInt8.ofNat_toNat]

/-- A sequence the decoder accepted is the encoding of the character it was decoded to. -/
theorem sequence_char {first : UInt8} (hlead : leadByte first = some (bits, length))
    (hlength : following.length + 1 = length)
    (h : decodeSequence bits length following = .ok codePoint) :
    ∃ c : Char, c.val = codePoint ∧ String.utf8EncodeChar c = first :: following := by
  obtain ⟨hread, hscalar⟩ := decodeSequence_eq h
  refine ⟨⟨codePoint, invalidScalar_char hscalar⟩, rfl, ?_⟩
  have hvalue : ∀ {n : Nat}, n < 2 ^ 32 → some (UInt32.ofNat n) = some codePoint →
      codePoint.toNat = n ∧ invalidScalar length (.ofNat n) = false := by
    intro n hn hsome
    obtain rfl := Option.some.inj hsome
    exact ⟨toNat_ofNat_word hn, hscalar⟩
  rw [leadByte_eq] at hlead
  have hfirst := first.toNat_lt
  split at hlead
  · obtain ⟨rfl, rfl⟩ := Prod.mk.inj (Option.some.inj hlead)
    obtain rfl : following = [] := List.length_eq_zero_iff.mp (by omega)
    obtain ⟨hn, -⟩ := hvalue (by omega) hread
    rw [String.utf8EncodeChar]
    simp only [hn]
    rw [if_pos (by omega), ofNat_byte first rfl]
  · split at hlead
    · cases hlead
    · split at hlead
      · obtain ⟨rfl, rfl⟩ := Prod.mk.inj (Option.some.inj hlead)
        obtain ⟨b, rfl⟩ := List.length_eq_one_iff.mp (by omega : following.length = 1)
        obtain ⟨hb, hread⟩ := continuationBytes_some (by omega) hread
        obtain ⟨hn, hvalid⟩ := hvalue (by omega) hread
        rw [invalidScalar_ofNat (by omega)] at hvalid
        rw [String.utf8EncodeChar]
        simp only [hn]
        rw [if_neg (by omega), if_pos (by omega), ofNat_byte first (by omega),
          ofNat_byte b (by omega)]
      · split at hlead
        · obtain ⟨rfl, rfl⟩ := Prod.mk.inj (Option.some.inj hlead)
          obtain ⟨b, d, rfl⟩ := List.length_eq_two.mp (by omega : following.length = 2)
          obtain ⟨hb, hread⟩ := continuationBytes_some (by omega) hread
          obtain ⟨hd, hread⟩ := continuationBytes_some (by omega) hread
          obtain ⟨hn, hvalid⟩ := hvalue (by omega) hread
          rw [invalidScalar_ofNat (by omega)] at hvalid
          rw [String.utf8EncodeChar]
          simp only [hn]
          rw [if_neg (by omega), if_neg (by omega), if_pos (by omega),
            ofNat_byte first (by omega), ofNat_byte b (by omega),
            ofNat_byte d (by omega)]
        · split at hlead
          · obtain ⟨rfl, rfl⟩ := Prod.mk.inj (Option.some.inj hlead)
            obtain ⟨b, d, e, rfl⟩ := List.length_eq_three.mp (by omega : following.length = 3)
            obtain ⟨hb, hread⟩ := continuationBytes_some (by omega) hread
            obtain ⟨hd, hread⟩ := continuationBytes_some (by omega) hread
            obtain ⟨he, hread⟩ := continuationBytes_some (by omega) hread
            obtain ⟨hn, hvalid⟩ := hvalue (by omega) hread
            rw [invalidScalar_ofNat (by omega)] at hvalid
            rw [String.utf8EncodeChar]
            simp only [hn]
            rw [if_neg (by omega), if_neg (by omega), if_neg (by omega),
              ofNat_byte first (by omega), ofNat_byte b (by omega),
              ofNat_byte d (by omega), ofNat_byte e (by omega)]
          · cases hlead

/-- What the decoder reads first is a character, and the rest is read as before. -/
theorem decodeUtf8_cons {first : UInt8} {rest : Text} {codePoints : List UInt32}
    (h : decodeUtf8 (first :: rest) = .ok codePoints) :
    ∃ (c : Char) (others : Text) (more : List UInt32),
      first :: rest = String.utf8EncodeChar c ++ others ∧ decodeUtf8 others = .ok more ∧
        codePoints = c.val :: more := by
  have hfinish : ∀ {bits : UInt32} {length : Nat} {following others : Text},
      leadByte first = some (bits, length) → following.length + 1 = length →
      rest = following ++ others →
      (do
        let codePoint ← decodeSequence bits length following
        let codePoints ← decodeUtf8 others
        .ok (codePoint :: codePoints)) = .ok codePoints →
      ∃ (c : Char) (others : Text) (more : List UInt32),
        first :: rest = String.utf8EncodeChar c ++ others ∧ decodeUtf8 others = .ok more ∧
          codePoints = c.val :: more := by
    rintro bits length following others hlead hlength rfl hread
    obtain ⟨codePoint, hsequence, hread⟩ := Fallible.bind_ok hread
    obtain ⟨more, hmore, hread⟩ := Fallible.bind_ok hread
    obtain ⟨c, rfl, hencoded⟩ := sequence_char hlead hlength hsequence
    exact ⟨c, others, more, by rw [hencoded]; rfl, hmore, (Except.ok.inj hread).symm⟩
  rw [decodeUtf8] at h
  split at h
  · cases h
  · split at h
    · exact hfinish ‹_› rfl rfl h
    · cases h
  · split at h
    · exact hfinish ‹_› rfl rfl h
    · cases h
  · split at h
    · exact hfinish ‹_› rfl rfl h
    · cases h
  · rename_i length htwo hthree hfour hlead
    have hone : length = 1 := by
      rw [leadByte_eq] at hlead
      grind
    subst hone
    exact hfinish hlead (rfl : ([] : Text).length + 1 = 1) rfl h

/-- What the decoder accepts is the encoding of what it returns. -/
theorem utf8_of_decodeUtf8 {text : Text} {codePoints : List UInt32}
    (h : decodeUtf8 text = .ok codePoints) :
    ∃ chars, text = utf8 chars ∧ codePoints = chars.map Char.val := by
  induction hsize : text.length using Nat.strong_induction_on generalizing text codePoints with
  | _ size ih =>
      cases text with
      | nil => exact ⟨[], rfl, (Except.ok.inj h).symm⟩
      | cons first rest =>
          obtain ⟨c, others, more, htext, hothers, rfl⟩ := decodeUtf8_cons h
          have hshorter : others.length < size := by
            have hpositive := List.length_pos_iff.mpr (String.utf8EncodeChar_ne_nil (c := c))
            rw [← hsize, htext, length_append]
            omega
          obtain ⟨chars, rfl, rfl⟩ := ih _ hshorter hothers rfl
          exact ⟨c :: chars, htext, rfl⟩

/-- **A text is UTF-8 exactly when it is the encoding of some characters.** -/
theorem isUtf8_iff {text : Text} : IsUtf8 text ↔ ∃ chars, text = utf8 chars := by
  constructor
  · rintro ⟨codePoints, h⟩
    obtain ⟨chars, htext, -⟩ := utf8_of_decodeUtf8 h
    exact ⟨chars, htext⟩
  · rintro ⟨chars, rfl⟩
    exact ⟨_, decodeUtf8_utf8 chars⟩

/-! ### UTF-16 -/

/-- The UTF-16 units of a list of characters. -/
def utf16 (chars : List Char) : List UInt16 := chars.flatMap fun c => utf16Units c.val

theorem utf16Key_utf8 (chars : List Char) : utf16Key (utf8 chars) = .ok (utf16 chars) := by
  rw [utf16Key, decodeUtf8_utf8, utf16, Except.map, flatMap_map]

/-- The units of a character are one that is no surrogate, or a surrogate pair. -/
theorem utf16Units_cases (c : Char) :
    (c.val.toNat ≤ 0xffff ∧ ∃ unit : UInt16, utf16Units c.val = [unit] ∧
      unit.toNat = c.val.toNat) ∨
    (0xffff < c.val.toNat ∧ ∃ high low : UInt16, utf16Units c.val = [high, low] ∧
      high.toNat = 0xd800 + (c.val.toNat - 0x10000) / 1024 ∧
      low.toNat = 0xdc00 + (c.val.toNat - 0x10000) % 1024) := by
  obtain ⟨hmax, -⟩ := char_scalar c
  unfold utf16Units
  by_cases hsmall : c.val ≤ 0xffff
  · have hsmall' : c.val.toNat ≤ 0xffff := UInt32.le_iff_toNat_le.mp hsmall
    refine .inl ⟨hsmall', _, if_pos hsmall, ?_⟩
    rw [UInt32.toNat_toUInt16]
    omega
  · have hlarge : 0xffff < c.val.toNat := by
      rw [UInt32.le_iff_toNat_le, not_le] at hsmall
      exact hsmall
    have hrest : (c.val - 0x10000).toNat = c.val.toNat - 0x10000 := by
      rw [UInt32.toNat_sub_of_le _ _ (by rw [UInt32.le_iff_toNat_le]; exact hlarge)]
      rfl
    have hhigh : ((c.val - 0x10000) >>> 10).toNat = (c.val.toNat - 0x10000) / 1024 := by
      rw [UInt32.toNat_shiftRight, hrest]
      exact Nat.shiftRight_eq_div_pow _ 10
    have hlow : ((c.val - 0x10000) &&& 0x3ff).toNat = (c.val.toNat - 0x10000) % 1024 := by
      rw [UInt32.toNat_and, hrest]
      exact Nat.and_two_pow_sub_one_eq_mod _ 10
    refine .inr ⟨hlarge, _, _, if_neg hsmall, ?_, ?_⟩
    · rw [UInt32.toNat_toUInt16, UInt32.toNat_add, hhigh]
      simp only [UInt32.reduceToNat]
      omega
    · rw [UInt32.toNat_toUInt16, UInt32.toNat_add, hlow]
      simp only [UInt32.reduceToNat]
      omega

theorem char_eq_of_toNat {c d : Char} (h : c.val.toNat = d.val.toNat) : c = d :=
  Char.ext (UInt32.toNat_inj.mp h)

/-- UTF-16 tells texts apart. -/
theorem utf16_inj {left right : List Char} (h : utf16 left = utf16 right) : left = right := by
  induction left generalizing right with
  | nil =>
      cases right with
      | nil => rfl
      | cons d right =>
          rcases utf16Units_cases d with ⟨-, unit, hunits, -⟩ | ⟨-, high, low, hunits, -⟩ <;>
          · rw [utf16, utf16, flatMap_cons, hunits] at h
            cases h
  | cons c left ih =>
      cases right with
      | nil =>
          rcases utf16Units_cases c with ⟨-, unit, hunits, -⟩ | ⟨-, high, low, hunits, -⟩ <;>
          · rw [utf16, utf16, flatMap_cons, hunits] at h
            cases h
      | cons d right =>
          have hc := (char_scalar c).2
          have hd := (char_scalar d).2
          have hcmax := (char_scalar c).1
          have hdmax := (char_scalar d).1
          rw [utf16, utf16, flatMap_cons, flatMap_cons, ← utf16, ← utf16] at h
          rcases utf16Units_cases c with ⟨hsmall, unit, hunits, hunit⟩ |
            ⟨hlarge, high, low, hunits, hhigh, hlow⟩ <;>
          rcases utf16Units_cases d with ⟨hsmall', unit', hunits', hunit'⟩ |
            ⟨hlarge', high', low', hunits', hhigh', hlow'⟩ <;>
          rw [hunits, hunits'] at h
          · obtain ⟨rfl, hrest⟩ := List.cons.inj h
            rw [char_eq_of_toNat (hunit.symm.trans hunit'), ih hrest]
          · -- a unit that is no surrogate against a high surrogate
            obtain ⟨rfl, -⟩ := List.cons.inj h
            omega
          · obtain ⟨rfl, -⟩ := List.cons.inj h
            omega
          · obtain ⟨rfl, hpair⟩ := List.cons.inj h
            obtain ⟨rfl, hrest⟩ := List.cons.inj hpair
            rw [char_eq_of_toNat (by omega : c.val.toNat = d.val.toNat), ih hrest]

end CpuPrefetch.Protocol.Json
