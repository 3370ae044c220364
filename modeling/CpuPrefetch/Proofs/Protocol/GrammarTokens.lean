/-
The parser and the grammar on spaces, strings and numbers.

Each scanner is matched with its rule in both directions: what it reads is spelled by the
rule, and what the rule spells it reads, up to a byte that cannot belong to the token.
-/
import CpuPrefetch.Proofs.Protocol.Unicode
import CpuPrefetch.Protocol.Grammar

namespace CpuPrefetch.Protocol.Json

open List

variable {conv : CharConv}

/-! ### Spaces -/

variable {byte : UInt8}

theorem isSpace_iff : isSpace byte = true ↔ byte = 32 ∨ byte = 9 ∨ byte = 10 ∨ byte = 13 := by
  simp [isSpace, or_assoc]

theorem blank_nil : Blank [] := by simp [Blank]

theorem blank_append {left right : Text} (hleft : Blank left) (hright : Blank right) :
    Blank (left ++ right) := by
  intro byte hbyte
  rcases List.mem_append.mp hbyte with h | h
  · exact hleft byte h
  · exact hright byte h

theorem skipSpace_blank {blank : Text} (h : Blank blank) (rest : Text) :
    skipSpace (blank ++ rest) = skipSpace rest := by
  induction blank with
  | nil => rfl
  | cons byte others ih =>
      have hbyte : isSpace byte = true := isSpace_iff.mpr (h byte mem_cons_self)
      rw [cons_append, skipSpace, dropWhile_cons_of_pos hbyte]
      exact ih fun other hother => h other (mem_cons_of_mem byte hother)

/-- What is skipped is blank. -/
theorem skipSpace_split (input : Text) :
    ∃ blank, Blank blank ∧ input = blank ++ skipSpace input := by
  refine ⟨input.takeWhile isSpace, ?_, (takeWhile_append_dropWhile).symm⟩
  intro byte hbyte
  exact isSpace_iff.mp (mem_takeWhile_imp hbyte)

/-! ### Escapes -/

theorem simpleEscape_iff {letter : UInt8} :
    simpleEscape letter = some byte ↔ (letter, byte) ∈ escapedLetters := by
  unfold simpleEscape escapedLetters
  constructor
  · intro h
    split at h
    · rename_i hsame
      obtain rfl := Option.some.inj h
      simp only [Bool.or_eq_true, decide_eq_true_eq] at hsame
      rcases hsame with (rfl | rfl) | rfl <;> simp
    · repeat' split at h
      all_goals simp_all
  · intro h
    fin_cases h <;> rfl

theorem hexDigit_iff {digit : UInt32} : hexDigit byte = some digit ↔ HexDigit byte digit.toNat := by
  have hall : ∀ byte : UInt8, hexDigit byte =
      if 48 ≤ byte.toNat ∧ byte.toNat ≤ 57 then some (.ofNat (byte.toNat - 48))
      else if 97 ≤ byte.toNat ∧ byte.toNat ≤ 102 then some (.ofNat (byte.toNat - 87))
      else if 65 ≤ byte.toNat ∧ byte.toNat ≤ 70 then some (.ofNat (byte.toNat - 55))
      else none := forall_byte (by decide)
  have hvalue : ∀ n, n < 256 → (some (UInt32.ofNat n) = some digit ↔ digit.toNat = n) := by
    intro n hn
    rw [Option.some.injEq, ← UInt32.toNat_inj, toNat_ofNat_word (by omega), eq_comm]
  have hbyte := byte.toNat_lt
  rw [hall byte, HexDigit]
  split
  · rw [hvalue _ (by omega)]
    omega
  · split
    · rw [hvalue _ (by omega)]
      omega
    · split
      · rw [hvalue _ (by omega)]
        omega
      · simp only [reduceCtorEq, false_iff]
        omega

theorem HexDigit.lt {value : Nat} (h : HexDigit byte value) : value < 16 := by
  unfold HexDigit at h
  omega

variable {value : UInt32}

/-- One more digit. -/
theorem hexValue_step {digit : UInt32} (hvalue : value.toNat < 2 ^ 28) (hdigit : digit.toNat < 16) :
    ((value <<< 4) ||| digit).toNat = value.toNat * 16 + digit.toNat := by
  have hshift : (value <<< 4).toNat = 2 ^ 4 * value.toNat := by
    rw [UInt32.toNat_shiftLeft, Nat.shiftLeft_eq]
    show value.toNat * 2 ^ 4 % 2 ^ 32 = _
    omega
  rw [UInt32.toNat_or, hshift, ← Nat.two_pow_add_eq_or_of_lt hdigit]
  omega

theorem hexValue_cons {result : UInt32} {rest : List UInt8} :
    hexValue value (byte :: rest) = some result ↔
      ∃ digit, hexDigit byte = some digit ∧ hexValue ((value <<< 4) ||| digit) rest =
        some result := by
  rw [hexValue]
  cases hexDigit byte <;> simp

variable {a b c d : UInt8}

theorem hexValue_digits {p q r s : UInt32} (hp : hexDigit a = some p) (hq : hexDigit b = some q)
    (hr : hexDigit c = some r) (hs : hexDigit d = some s) :
    ∃ value, hexValue 0 [a, b, c, d] = some value ∧
      value.toNat = ((p.toNat * 16 + q.toNat) * 16 + r.toNat) * 16 + s.toNat := by
  have hp' := (hexDigit_iff.mp hp).lt
  have hq' := (hexDigit_iff.mp hq).lt
  have hr' := (hexDigit_iff.mp hr).lt
  have hs' := (hexDigit_iff.mp hs).lt
  have hfirst : (((0 : UInt32) <<< 4) ||| p).toNat = p.toNat := by
    rw [hexValue_step (by decide) hp']
    exact Nat.zero_add p.toNat
  have hsecond := hexValue_step (by omega : (((0 : UInt32) <<< 4) ||| p).toNat < 2 ^ 28) hq'
  have hthird := hexValue_step (by omega :
    (((((0 : UInt32) <<< 4) ||| p) <<< 4) ||| q).toNat < 2 ^ 28) hr'
  have hfourth := hexValue_step (by omega :
    ((((((0 : UInt32) <<< 4) ||| p) <<< 4 ||| q) <<< 4) ||| r).toNat < 2 ^ 28) hs'
  refine ⟨_, hexValue_cons.mpr ⟨p, hp, hexValue_cons.mpr ⟨q, hq, hexValue_cons.mpr ⟨r, hr,
    hexValue_cons.mpr ⟨s, hs, rfl⟩⟩⟩⟩, ?_⟩
  omega

theorem hexDigit_of {value : Nat} (h : HexDigit byte value) :
    ∃ digit, hexDigit byte = some digit ∧ digit.toNat = value := by
  have hvalue : (UInt32.ofNat value).toNat = value := toNat_ofNat_word (by have := h.lt; omega)
  exact ⟨.ofNat value, hexDigit_iff.mpr (hvalue.symm ▸ h), hvalue⟩

theorem hexValue_iff : hexValue 0 [a, b, c, d] = some value ↔ HexQuad [a, b, c, d] value.toNat := by
  constructor
  · intro h
    obtain ⟨p, hp, h'⟩ := hexValue_cons.mp h
    obtain ⟨q, hq, h'⟩ := hexValue_cons.mp h'
    obtain ⟨r, hr, h'⟩ := hexValue_cons.mp h'
    obtain ⟨s, hs, h'⟩ := hexValue_cons.mp h'
    obtain ⟨found, hfound, hvalue⟩ := hexValue_digits hp hq hr hs
    obtain rfl := Option.some.inj (hfound.symm.trans h)
    exact ⟨a, b, c, d, p.toNat, q.toNat, r.toNat, s.toNat, rfl, hexDigit_iff.mp hp,
      hexDigit_iff.mp hq, hexDigit_iff.mp hr, hexDigit_iff.mp hs, hvalue⟩
  · rintro ⟨a', b', c', d', p, q, r, s, hdigits, hp, hq, hr, hs, hvalue⟩
    simp only [List.cons.injEq, and_true] at hdigits
    obtain ⟨rfl, rfl, rfl, rfl⟩ := hdigits
    obtain ⟨p', hp', rfl⟩ := hexDigit_of hp
    obtain ⟨q', hq', rfl⟩ := hexDigit_of hq
    obtain ⟨r', hr', rfl⟩ := hexDigit_of hr
    obtain ⟨s', hs', rfl⟩ := hexDigit_of hs
    obtain ⟨found, hfound, hsame⟩ := hexValue_digits hp' hq' hr' hs'
    rw [hfound, UInt32.toNat_inj.mp (hsame.trans hvalue.symm)]

/-! ### Characters -/

/-- A mark in the high bits of a byte, and the bits below it. -/
theorem marked_byte (value : UInt32) (mark shift : Nat) (hmark : 2 ^ shift * mark < 256)
    (hvalue : value.toNat < 2 ^ shift) (hfits : 2 ^ shift * mark + value.toNat < 256) :
    ((UInt32.ofNat (2 ^ shift * mark) ||| value).toUInt8) =
      .ofNat (value.toNat + 2 ^ shift * mark) := by
  apply UInt8.toNat_inj.mp
  rw [UInt32.toNat_toUInt8, UInt32.toNat_or, toNat_ofNat_word (by omega),
    ← Nat.two_pow_add_eq_or_of_lt hvalue, toNat_ofNat_byte (by omega)]
  omega

theorem low_bits (value : UInt32) (shift : Nat) (hshift : shift < 32) :
    ((value >>> .ofNat shift) &&& 0x3f).toNat = value.toNat / 2 ^ shift % 64 := by
  rw [UInt32.toNat_and, UInt32.toNat_shiftRight, toNat_ofNat_word (by omega),
    Nat.mod_eq_of_lt hshift, Nat.shiftRight_eq_div_pow]
  exact Nat.and_two_pow_sub_one_eq_mod _ 6

theorem high_bits (value : UInt32) (shift : Nat) (hshift : shift < 32) :
    (value >>> .ofNat shift).toNat = value.toNat / 2 ^ shift := by
  rw [UInt32.toNat_shiftRight, toNat_ofNat_word (by omega), Nat.mod_eq_of_lt hshift,
    Nat.shiftRight_eq_div_pow]

/-- A continuation byte is the mark and six bits. -/
theorem tail_byte (value : UInt32) (shift : Nat) (hshift : shift < 32) :
    ((0x80 : UInt32) ||| ((value >>> .ofNat shift) &&& 0x3f)).toUInt8 =
      .ofNat (value.toNat / 2 ^ shift % 0x40 + 0x80) := by
  have hbits := low_bits value shift hshift
  have hmarked := marked_byte ((value >>> .ofNat shift) &&& 0x3f) 2 6 (by decide)
    (by omega) (by omega)
  rw [hbits] at hmarked
  exact hmarked

/-- A lead byte is a mark and the highest bits. -/
theorem lead_byte (value : UInt32) (shift mark width : Nat) (hshift : shift < 32)
    (hmark : 2 ^ width * mark < 256) (hbits : value.toNat / 2 ^ shift < 2 ^ width)
    (hfits : 2 ^ width * mark + value.toNat / 2 ^ shift < 256) :
    (UInt32.ofNat (2 ^ width * mark) ||| (value >>> .ofNat shift)).toUInt8 =
      .ofNat (value.toNat / 2 ^ shift + 2 ^ width * mark) := by
  have hhigh := high_bits value shift hshift
  have hmarked := marked_byte (value >>> .ofNat shift) mark width hmark (by omega) (by omega)
  rw [hhigh] at hmarked
  exact hmarked

/-- `append_utf8` encodes characters, as UTF-8 does. -/
theorem encodeUtf8_char (c : Char) : encodeUtf8 c.val = some (String.utf8EncodeChar c) := by
  obtain ⟨hmax, hscalar⟩ := char_scalar c
  have hfirst : ∀ {n m : Nat}, n = m → UInt8.ofNat n = UInt8.ofNat m := by
    rintro n m rfl
    rfl
  have htail : ∀ shift < 32, ∀ n, n = c.val.toNat / 2 ^ shift % 0x40 + 0x80 →
      ((0x80 : UInt32) ||| ((c.val >>> .ofNat shift) &&& 0x3f)).toUInt8 = .ofNat n := by
    rintro shift hshift n rfl
    exact tail_byte c.val shift hshift
  simp only [encodeUtf8, String.utf8EncodeChar, UInt32.le_iff_toNat_le, ge_iff_le,
    UInt32.reduceToNat, Bool.and_eq_true, decide_eq_true_eq]
  split
  · rw [← UInt32.ofNat_toNat (x := c.val)]
    rfl
  · split
    · have hlead := lead_byte c.val 6 3 6 (by omega) (by omega) (by omega) (by omega)
      refine congrArg some (congrArg₂ List.cons (hlead.trans (hfirst (by omega)))
        (congrArg₂ List.cons (htail 0 (by omega) _ (by omega)) rfl))
    · split
      · rw [if_neg (by omega)]
        have hlead := lead_byte c.val 12 7 5 (by omega) (by omega) (by omega) (by omega)
        exact congrArg some (congrArg₂ List.cons (hlead.trans (hfirst (by omega)))
          (congrArg₂ List.cons (htail 6 (by omega) _ (by omega))
            (congrArg₂ List.cons (htail 0 (by omega) _ (by omega)) rfl)))
      · have hlead := lead_byte c.val 18 15 4 (by omega) (by omega) (by omega) (by omega)
        exact congrArg some (congrArg₂ List.cons (hlead.trans (hfirst (by omega)))
          (congrArg₂ List.cons (htail 12 (by omega) _ (by omega))
            (congrArg₂ List.cons (htail 6 (by omega) _ (by omega))
              (congrArg₂ List.cons (htail 0 (by omega) _ (by omega)) rfl))))

variable {bytes : Text}

/-- `append_utf8` encodes nothing else. -/
theorem encodeUtf8_iff {codePoint : UInt32} : encodeUtf8 codePoint = some bytes ↔
      ∃ c : Char, c.val = codePoint ∧ bytes = String.utf8EncodeChar c := by
  constructor
  · intro h
    have hvalid : codePoint.isValidChar := by
      show codePoint.toNat < 0xd800 ∨ 0xdfff < codePoint.toNat ∧ codePoint.toNat < 0x110000
      simp only [encodeUtf8, UInt32.le_iff_toNat_le, ge_iff_le, UInt32.reduceToNat,
        Bool.and_eq_true, decide_eq_true_eq] at h
      repeat' split at h
      all_goals first | omega | cases h
    refine ⟨⟨codePoint, hvalid⟩, rfl, ?_⟩
    exact Option.some.inj (h.symm.trans (encodeUtf8_char ⟨codePoint, hvalid⟩))
  · rintro ⟨c, rfl, rfl⟩
    exact encodeUtf8_char c

/-! ### Strings -/

variable {rest text : Text}

theorem finishString_iff {path : String} {output after : Text} :
    finishString path output rest = .ok (text, after) ↔
      IsUtf8 output ∧ text = output ∧ after = rest := by
  unfold finishString IsUtf8
  cases hdecoded : decodeUtf8 output with
  | error errors => simp
  | ok codePoints => simp [eq_comm]

/-- An escaped character outside the surrogates. -/
theorem parseString_unicode (path : String) (output rest : Text) {codePoint : UInt32}
    (hquad : hexValue 0 [a, b, c, d] = some codePoint)
    (hscalar : codePoint.toNat < 0xd800 ∨ 0xdfff < codePoint.toNat)
    (hbytes : encodeUtf8 codePoint = some bytes) :
    parseString path output (92 :: 117 :: a :: b :: c :: d :: rest) =
      parseString path (output ++ bytes) rest := by
  have hletter : simpleEscape 117 = none := rfl
  have hhigh : ¬(codePoint ≥ 0xd800 && codePoint ≤ 0xdbff) = true := by
    simp only [ge_iff_le, UInt32.le_iff_toNat_le, UInt32.reduceToNat, Bool.and_eq_true,
      decide_eq_true_eq]
    omega
  have hlow : ¬(codePoint ≥ 0xdc00 && codePoint ≤ 0xdfff) = true := by
    simp only [ge_iff_le, UInt32.le_iff_toNat_le, UInt32.reduceToNat, Bool.and_eq_true,
      decide_eq_true_eq]
    omega
  rw [parseString.eq_def]
  simp only
  rw [if_neg (by decide), if_neg (by decide), if_neg (by decide)]
  simp only [hletter]
  rw [if_neg (by decide), hquad]
  simp only
  rw [if_neg hhigh, if_neg hlow, hbytes]

/-- The code point of a surrogate pair. -/
theorem surrogates_toNat {high low : UInt32} (hhigh : 0xd800 ≤ high.toNat ∧ high.toNat ≤ 0xdbff)
    (hlow : 0xdc00 ≤ low.toNat ∧ low.toNat ≤ 0xdfff) :
    ((0x10000 : UInt32) + ((high - 0xd800) <<< 10) + (low - 0xdc00)).toNat =
      0x10000 + (high.toNat - 0xd800) * 0x400 + (low.toNat - 0xdc00) := by
  have hfirst : (high - 0xd800).toNat = high.toNat - 0xd800 :=
    UInt32.toNat_sub_of_le _ _ (UInt32.le_iff_toNat_le.mpr hhigh.1)
  have hsecond : (low - 0xdc00).toNat = low.toNat - 0xdc00 :=
    UInt32.toNat_sub_of_le _ _ (UInt32.le_iff_toNat_le.mpr hlow.1)
  have hshift : ((high - 0xd800) <<< 10).toNat = (high.toNat - 0xd800) * 0x400 := by
    rw [UInt32.toNat_shiftLeft, hfirst, Nat.shiftLeft_eq]
    show (high.toNat - 0xd800) * 2 ^ 10 % 2 ^ 32 = _
    omega
  rw [UInt32.toNat_add, UInt32.toNat_add, hshift, hsecond]
  simp only [UInt32.reduceToNat]
  omega

/-- An escaped surrogate pair. -/
theorem parseString_surrogates (path : String) (output rest : Text) {e f g h : UInt8}
    {high low : UInt32} (hfirst : hexValue 0 [a, b, c, d] = some high)
    (hhigh : 0xd800 ≤ high.toNat ∧ high.toNat ≤ 0xdbff)
    (hsecond : hexValue 0 [e, f, g, h] = some low) (hlow : 0xdc00 ≤ low.toNat ∧ low.toNat ≤ 0xdfff)
    (hbytes : encodeUtf8 ((0x10000 : UInt32) + ((high - 0xd800) <<< 10) + (low - 0xdc00)) =
      some bytes) :
    parseString path output (92 :: 117 :: a :: b :: c :: d :: 92 :: 117 :: e :: f :: g :: h :: rest)
      = parseString path (output ++ bytes) rest := by
  have hletter : simpleEscape 117 = none := rfl
  have hhigh' : (high ≥ 0xd800 && high ≤ 0xdbff) = true := by
    simp only [ge_iff_le, UInt32.le_iff_toNat_le, UInt32.reduceToNat, Bool.and_eq_true,
      decide_eq_true_eq]
    exact hhigh
  have hlow' : ¬(low < 0xdc00 || low > 0xdfff) = true := by
    simp only [gt_iff_lt, UInt32.lt_iff_toNat_lt, UInt32.reduceToNat, Bool.or_eq_true,
      decide_eq_true_eq]
    omega
  rw [parseString.eq_def]
  simp only
  rw [if_neg (by decide), if_neg (by decide), if_neg (by decide)]
  simp only [hletter]
  rw [if_neg (by decide), hfirst]
  simp only
  rw [if_pos hhigh', hsecond]
  simp only
  rw [if_neg hlow', hbytes]

/-- The loop reads what the grammar unescapes, up to the closing quote. -/
theorem parseString_unescapes {body : Text} (h : Unescapes body text) (path : String)
    (output rest : Text) :
    parseString path output (body ++ 34 :: rest) = finishString path (output ++ text) rest := by
  induction h generalizing output with
  | nil => rw [nil_append, parseString_quote, append_nil]
  | @plain byte body text hcontrol hquote hslash hrest ih =>
      have hbyte : ¬byte < 0x20 := UInt8.not_lt.mpr (UInt8.le_iff_toNat_le.mpr hcontrol)
      rw [cons_append, parseString_plain path output _ hquote hbyte hslash, ih,
        append_assoc]
      rfl
  | @letter letter byte body text hletter hrest ih =>
      rw [cons_append, cons_append,
        parseString_letter path output _ (simpleEscape_iff.mpr hletter), ih, append_assoc]
      rfl
  | @unicode quad character body text hquad hrest ih =>
      have hform := hquad
      obtain ⟨a, b, c, d, -, -, -, -, rfl, -⟩ := hform
      have hstep := parseString_unicode path output (body ++ 34 :: rest) (hexValue_iff.mpr hquad)
        (char_scalar character).2 (encodeUtf8_char character)
      rw [append_assoc]
      exact (hstep.trans (ih _)).trans (by rw [append_assoc])
  | @surrogates first second high low character body text hfirst hhigh hsecond hlow hpair
    hrest ih =>
      have hform := hfirst
      obtain ⟨a, b, c, d, -, -, -, -, rfl, -⟩ := hform
      have hform := hsecond
      obtain ⟨e, f, g, h, -, -, -, -, rfl, -⟩ := hform
      have hhighWord : (UInt32.ofNat high).toNat = high := toNat_ofNat_word (by omega)
      have hlowWord : (UInt32.ofNat low).toNat = low := toNat_ofNat_word (by omega)
      have hvalue : (0x10000 : UInt32) + ((UInt32.ofNat high - 0xd800) <<< 10) +
          (UInt32.ofNat low - 0xdc00) =
          character.val := by
        apply UInt32.toNat_inj.mp
        rw [surrogates_toNat (by rwa [hhighWord]) (by rwa [hlowWord]), hhighWord, hlowWord, hpair]
      have hstep := parseString_surrogates path output (body ++ 34 :: rest)
        (hexValue_iff.mpr (hhighWord.symm ▸ hfirst)) (by rwa [hhighWord])
        (hexValue_iff.mpr (hlowWord.symm ▸ hsecond)) (by rwa [hlowWord])
        (by rw [hvalue]; exact encodeUtf8_char character)
      have hinput : 92 :: 117 :: [a, b, c, d] ++ 92 :: 117 :: [e, f, g, h] ++ body ++ 34 :: rest =
          92 :: 117 :: a :: b :: c :: d :: 92 :: 117 :: e :: f :: g :: h :: (body ++ 34 :: rest) :=
        append_assoc _ _ _
      rw [hinput, hstep, ih, append_assoc]

variable {input : Text}

/-- What the loop reads up to a quote, the grammar unescapes. -/
theorem unescapes_parseString {path : String} {output : Text}
    (h : parseString path output input = .ok (text, rest)) :
    ∃ body unescaped, input = body ++ 34 :: rest ∧ Unescapes body unescaped ∧
      text = output ++ unescaped ∧ IsUtf8 text := by
  fun_induction parseString path output input
  case case2 output after =>
    obtain ⟨hutf8, rfl, rfl⟩ := finishString_iff.mp h
    exact ⟨[], [], rfl, .nil, (append_nil text).symm, hutf8⟩
  case case4 output byte after hquote hcontrol hslash ih =>
    obtain ⟨body, unescaped, rfl, hbody, rfl, hutf8⟩ := ih h
    have hbyte : 0x20 ≤ byte.toNat := UInt8.le_iff_toNat_le.mp (UInt8.not_lt.mp hcontrol)
    exact ⟨byte :: body, byte :: unescaped, rfl, .plain hbyte hquote hslash hbody,
      append_assoc _ _ _, hutf8⟩
  case case6 output first hquote hcontrol hslash letter after byte hletter ih =>
    obtain ⟨body, unescaped, rfl, hbody, rfl, hutf8⟩ := ih h
    obtain rfl := not_not.mp hslash
    exact ⟨92 :: letter :: body, byte :: unescaped, rfl,
      .letter (simpleEscape_iff.mp hletter) hbody, append_assoc _ _ _, hutf8⟩
  case case12 output first hquote hcontrol hslash letter hletter hunicode a b c d high hfirst hhigh
      e f g k after low hsecond hlow bytes hbytes ih =>
    obtain ⟨body, unescaped, rfl, hbody, rfl, hutf8⟩ := ih h
    obtain rfl := not_not.mp hslash
    obtain rfl := not_not.mp hunicode
    simp only [ge_iff_le, UInt32.le_iff_toNat_le, UInt32.reduceToNat, Bool.and_eq_true,
      decide_eq_true_eq] at hhigh
    simp only [gt_iff_lt, UInt32.lt_iff_toNat_lt, UInt32.reduceToNat, Bool.or_eq_true,
      decide_eq_true_eq] at hlow
    have hlow' : 0xdc00 ≤ low.toNat ∧ low.toNat ≤ 0xdfff := by omega
    obtain ⟨character, hcharacter, rfl⟩ := encodeUtf8_iff.mp hbytes
    have hpair := surrogates_toNat hhigh hlow'
    rw [← hcharacter] at hpair
    exact ⟨92 :: 117 :: [a, b, c, d] ++ 92 :: 117 :: [e, f, g, k] ++ body, _, rfl,
      .surrogates (hexValue_iff.mp hfirst) hhigh (hexValue_iff.mp hsecond) hlow' hpair hbody,
      append_assoc _ _ _, hutf8⟩
  case case17 output first hquote hcontrol hslash letter hletter hunicode a b c d after codePoint
      hquad hhigh hlow bytes hbytes ih =>
    obtain ⟨body, unescaped, rfl, hbody, rfl, hutf8⟩ := ih h
    obtain rfl := not_not.mp hslash
    obtain rfl := not_not.mp hunicode
    obtain ⟨character, rfl, rfl⟩ := encodeUtf8_iff.mp hbytes
    exact ⟨92 :: 117 :: [a, b, c, d] ++ body, _, rfl, .unicode (hexValue_iff.mp hquad) hbody,
      append_assoc _ _ _, hutf8⟩
  all_goals cases h

/-- **A string is read exactly when the grammar spells it.** -/
theorem parseString_iff {path : String} : parseString path [] input = .ok (text, rest) ↔
      ∃ body, input = body ++ 34 :: rest ∧ SpellsString body text := by
  constructor
  · intro h
    obtain ⟨body, unescaped, hinput, hbody, rfl, hutf8⟩ := unescapes_parseString h
    exact ⟨body, hinput, hbody, isUtf8_iff.mp hutf8⟩
  · rintro ⟨body, rfl, hbody, hutf8⟩
    rw [parseString_unescapes hbody, finishString_iff]
    exact ⟨isUtf8_iff.mpr hutf8, rfl, rfl⟩

/-! ### Numbers -/

theorem isDigit_iff : isDigit byte = true ↔ 48 ≤ byte.toNat ∧ byte.toNat ≤ 57 := by
  simp [isDigit, UInt8.le_iff_toNat_le]

/-- The next byte, if there is one, is no digit. -/
def NoDigit (rest : Text) : Prop := ∀ byte ∈ rest.head?, isDigit byte = false

/-- The next byte, if there is one, continues no number. -/
def Stops (rest : Text) : Prop :=
  ∀ byte ∈ rest.head?, isDigit byte = false ∧ byte ≠ 46 ∧ byte ≠ 101 ∧ byte ≠ 69

theorem Stops.noDigit (h : Stops rest) : NoDigit rest := by
  intro byte hbyte
  exact (h byte hbyte).1

variable {digits : Text}

/-- Digits are read as far as they go. -/
theorem takeWhile_digits (h : ∀ byte ∈ digits, isDigit byte = true) (hrest : NoDigit rest) :
    (digits ++ rest).takeWhile isDigit = digits ∧ (digits ++ rest).dropWhile isDigit = rest := by
  have hstop : rest.takeWhile isDigit = [] ∧ rest.dropWhile isDigit = rest := by
    cases rest with
    | nil => exact ⟨rfl, rfl⟩
    | cons byte others =>
        have hbyte : ¬isDigit byte = true := by
          rw [hrest byte rfl]
          decide
        exact ⟨takeWhile_cons_of_neg hbyte, dropWhile_cons_of_neg hbyte⟩
  rw [takeWhile_append_of_pos h, dropWhile_append_of_pos h, hstop.1, hstop.2]
  exact ⟨append_nil digits, rfl⟩

theorem Digits.isDigit (h : Digits digits) : ∀ byte ∈ digits, Json.isDigit byte = true := by
  intro byte hbyte
  exact isDigit_iff.mpr (h.2 byte hbyte)

theorem noDigit_dropWhile (input : Text) : NoDigit (input.dropWhile isDigit) := by
  intro byte hbyte
  have hhead := head?_dropWhile_not isDigit input
  rw [Option.mem_def.mp hbyte] at hhead
  simpa using hhead

theorem digits_takeWhile (h : (input.head?.map isDigit).getD false = true) :
    Digits (input.takeWhile isDigit) := by
  refine ⟨?_, fun byte hbyte => isDigit_iff.mp (mem_takeWhile_imp hbyte)⟩
  cases input with
  | nil => cases h
  | cons byte rest =>
      rw [takeWhile_cons_of_pos (show isDigit byte = true from h)]
      exact cons_ne_nil _ _

theorem parseDigits_iff {path message : String} :
    parseDigits path message input = .ok (digits, rest) ↔
      Digits digits ∧ NoDigit rest ∧ input = digits ++ rest := by
  unfold parseDigits
  constructor
  · intro h
    split at h
    · rename_i hfirst
      obtain ⟨rfl, rfl⟩ := Prod.mk.inj (Except.ok.inj h)
      exact ⟨digits_takeWhile hfirst, noDigit_dropWhile input,
        List.takeWhile_append_dropWhile.symm⟩
    · cases h
  · rintro ⟨hdigits, hrest, rfl⟩
    have hsplit := takeWhile_digits hdigits.isDigit hrest
    obtain ⟨first, others, rfl⟩ := exists_cons_of_ne_nil hdigits.1
    have hfirst : isDigit first = true := hdigits.isDigit first mem_cons_self
    rw [if_pos (by simpa using hfirst), hsplit.1, hsplit.2]

theorem parseInteger_iff {path : String} : parseInteger path input = .ok (digits, rest) ↔
      IntegerPart digits ∧ NoDigit rest ∧ input = digits ++ rest := by
  cases input with
  | nil =>
      constructor
      · intro h
        cases h
      · rintro ⟨hdigits, -, hinput⟩
        obtain ⟨rfl, rfl⟩ := List.nil_eq_append_iff.mp hinput
        rcases hdigits with h | ⟨⟨h, -⟩, -⟩
        · cases h
        · exact absurd rfl h
  | cons first others =>
      rw [parseInteger]
      by_cases hzero : first = 48
      · rw [if_pos hzero]
        subst hzero
        constructor
        · intro h
          split at h
          · cases h
          · rename_i hnext
            obtain ⟨rfl, rfl⟩ := Prod.mk.inj (Except.ok.inj h)
            refine ⟨.inl rfl, ?_, rfl⟩
            intro byte hbyte
            rw [Option.mem_def.mp hbyte] at hnext
            simpa using hnext
        · rintro ⟨hdigits, hrest, hinput⟩
          have hdigits' : digits = [48] := by
            rcases hdigits with h | ⟨⟨hnonempty, -⟩, hhead⟩
            · exact h
            · obtain ⟨byte, more, rfl⟩ := exists_cons_of_ne_nil hnonempty
              rw [cons_append] at hinput
              exact absurd (congrArg some (List.cons.inj hinput).1.symm) hhead
          subst hdigits'
          obtain rfl : others = rest := (List.cons.inj hinput).2
          rw [if_neg]
          intro hnext
          cases others with
          | nil => cases hnext
          | cons byte more =>
              have hbyte := hrest byte rfl
              simp [hbyte] at hnext
      · rw [if_neg hzero]
        constructor
        · intro h
          split at h
          · rename_i hfirst
            obtain ⟨rfl, rfl⟩ := Prod.mk.inj (Except.ok.inj h)
            have hdigit : isDigit first = true := by
              simp only [Bool.and_eq_true, decide_eq_true_eq, UInt8.le_iff_toNat_le,
                UInt8.reduceToNat] at hfirst
              exact isDigit_iff.mpr (by omega)
            refine ⟨.inr ⟨digits_takeWhile (by simpa using hdigit), ?_⟩, noDigit_dropWhile _,
              List.takeWhile_append_dropWhile.symm⟩
            rw [takeWhile_cons_of_pos hdigit]
            simpa using hzero
          · cases h
        · rintro ⟨hdigits, hrest, hinput⟩
          rcases hdigits with rfl | ⟨hdigits, hhead⟩
          · exact absurd (List.cons.inj hinput).1 hzero
          · have hsplit := takeWhile_digits hdigits.isDigit hrest
            rw [← hinput] at hsplit
            obtain ⟨byte, more, rfl⟩ := exists_cons_of_ne_nil hdigits.1
            obtain rfl : first = byte := (List.cons.inj hinput).1
            have hrange := hdigits.2 first mem_cons_self
            have hne : first.toNat ≠ 48 := fun h => hzero (UInt8.toNat_inj.mp h)
            rw [if_pos, hsplit.1, hsplit.2]
            simp only [Bool.and_eq_true, decide_eq_true_eq, UInt8.le_iff_toNat_le,
              UInt8.reduceToNat]
            omega

theorem parseFraction_iff {path : String} {fraction : Text} :
    parseFraction path input = .ok (fraction, rest) ↔
      OptionalFraction fraction ∧ input = fraction ++ rest ∧
        (fraction = [] → rest.head? ≠ some 46) ∧ (fraction ≠ [] → NoDigit rest) := by
  unfold parseFraction
  split
  · rename_i others
    constructor
    · intro h
      obtain ⟨⟨digits, after⟩, hread, h⟩ := Fallible.bind_ok h
      obtain ⟨rfl, rfl⟩ := Prod.mk.inj (Except.ok.inj h)
      obtain ⟨hdigits, hrest, rfl⟩ := parseDigits_iff.mp hread
      exact ⟨.inr ⟨digits, hdigits, rfl⟩, rfl, by simp, fun _ => hrest⟩
    · rintro ⟨hfraction, hinput, hhead, hrest⟩
      rcases hfraction with rfl | ⟨digits, hdigits, rfl⟩
      · rw [nil_append] at hinput
        exact absurd (by rw [← hinput]; rfl) (hhead rfl)
      · obtain rfl : others = digits ++ rest := (List.cons.inj hinput).2
        rw [parseDigits_iff.mpr ⟨hdigits, hrest (cons_ne_nil _ _), rfl⟩]
        rfl
  · rename_i hpoint
    constructor
    · intro h
      obtain ⟨rfl, rfl⟩ := Prod.mk.inj (Except.ok.inj h)
      refine ⟨.inl rfl, rfl, ?_, fun hne => absurd rfl hne⟩
      intro _ hhead
      obtain ⟨more, rfl⟩ := List.head?_eq_some_iff.mp hhead
      exact hpoint more rfl
    · rintro ⟨hfraction, hinput, -, -⟩
      rcases hfraction with rfl | ⟨digits, -, rfl⟩
      · rw [hinput]
        rfl
      · exact absurd hinput (hpoint _)

theorem parseExponent_read {path : String} {exponent : Text}
    (h : parseExponent path input = .ok (exponent, rest)) :
    OptionalExponent exponent ∧ input = exponent ++ rest := by
  cases input with
  | nil =>
      obtain ⟨rfl, rfl⟩ := Prod.mk.inj (Except.ok.inj h)
      exact ⟨.inl rfl, rfl⟩
  | cons marker others =>
      rw [parseExponent.eq_def] at h
      simp only at h
      split at h
      · rename_i hmarker
        simp only [Bool.or_eq_true, decide_eq_true_eq] at hmarker
        obtain ⟨⟨digits, after⟩, hread, h⟩ := Fallible.bind_ok h
        obtain ⟨rfl, rfl⟩ := Prod.mk.inj (Except.ok.inj h)
        split at hread <;> obtain ⟨hdigits, -, rfl⟩ := parseDigits_iff.mp hread
        · exact ⟨.inr ⟨marker, [43], digits, hmarker, .inr (.inl rfl), hdigits, rfl⟩, rfl⟩
        · exact ⟨.inr ⟨marker, [45], digits, hmarker, .inr (.inr rfl), hdigits, rfl⟩, rfl⟩
        · exact ⟨.inr ⟨marker, [], digits, hmarker, .inl rfl, hdigits, rfl⟩, rfl⟩
      · obtain ⟨rfl, rfl⟩ := Prod.mk.inj (Except.ok.inj h)
        exact ⟨.inl rfl, rfl⟩

theorem parseExponent_spelled (path : String) {exponent : Text} (h : OptionalExponent exponent)
    (hrest : Stops rest) : parseExponent path (exponent ++ rest) = .ok (exponent, rest) := by
  rcases h with rfl | ⟨marker, sign, digits, hmarker, hsign, hdigits, rfl⟩
  · cases rest with
    | nil => rfl
    | cons byte others =>
        obtain ⟨-, -, hlower, hupper⟩ := hrest byte rfl
        rw [nil_append, parseExponent.eq_def]
        simp only
        rw [if_neg (by simp [hlower, hupper])]
  · have hread : parseDigits path "exponent requires at least one digit" (digits ++ rest) =
        .ok (digits, rest) := parseDigits_iff.mpr ⟨hdigits, hrest.noDigit, rfl⟩
    rw [cons_append, parseExponent.eq_def]
    simp only
    rw [if_pos (by simpa using hmarker)]
    rcases hsign with rfl | rfl | rfl
    · -- without a sign, the next byte is a digit
      obtain ⟨byte, more, rfl⟩ := exists_cons_of_ne_nil hdigits.1
      have hrange := hdigits.2 byte mem_cons_self
      split
      · rename_i heq
        rw [(List.cons.inj heq).1] at hrange
        exact absurd hrange.1 (by decide)
      · rename_i heq
        rw [(List.cons.inj heq).1] at hrange
        exact absurd hrange.1 (by decide)
      · rw [nil_append, hread]
        rfl
    · simp only [cons_append, nil_append, hread]
      rfl
    · simp only [cons_append, nil_append, hread]
      rfl

/-- The four parts of a number. -/
structure NumberParts (sign digits fraction exponent : Text) : Prop where
  sign : OptionalMinus sign
  digits : IntegerPart digits
  fraction : OptionalFraction fraction
  exponent : OptionalExponent exponent

section Parts

variable {sign digits fraction exponent rest : Text}

/-- After the integer of a number comes no digit. -/
theorem NumberParts.noDigit (h : NumberParts sign digits fraction exponent) (hrest : Stops rest) :
    NoDigit (fraction ++ (exponent ++ rest)) := by
  intro byte hbyte
  rcases h.fraction with rfl | ⟨more, -, rfl⟩
  · rcases h.exponent with rfl | ⟨marker, sign, more, hmarker, -, -, rfl⟩
    · exact (hrest byte hbyte).1
    · obtain rfl := Option.some.inj hbyte
      rcases hmarker with rfl | rfl <;> rfl
  · obtain rfl := Option.some.inj hbyte
    rfl

/-- A fraction ends where an exponent, or anything that stops the number, begins. -/
theorem OptionalExponent.ends (h : OptionalExponent exponent) (hrest : Stops rest) :
    (exponent ++ rest).head? ≠ some 46 ∧ NoDigit (exponent ++ rest) := by
  rcases h with rfl | ⟨marker, sign, more, hmarker, -, -, rfl⟩
  · constructor
    · intro hhead
      exact (hrest 46 hhead).2.1 rfl
    · exact hrest.noDigit
  · constructor
    · intro hhead
      obtain rfl := Option.some.inj hhead
      rcases hmarker with h | h <;> cases h
    · intro byte hbyte
      obtain rfl := Option.some.inj hbyte
      rcases hmarker with rfl | rfl <;> rfl

/-- The integer of a number does not begin with its sign. -/
theorem IntegerPart.head (h : IntegerPart digits) (rest : Text) :
    ∃ byte more, digits ++ rest = byte :: more ∧ byte ≠ 45 ∧ isDigit byte = true := by
  rcases h with rfl | ⟨hdigits, -⟩
  · exact ⟨48, rest, rfl, by decide, rfl⟩
  · obtain ⟨byte, more, rfl⟩ := exists_cons_of_ne_nil hdigits.1
    have hdigit := hdigits.isDigit byte mem_cons_self
    refine ⟨byte, more ++ rest, rfl, ?_, hdigit⟩
    rintro rfl
    cases hdigit

/-- A number is read part by part, and then converted. -/
theorem parseNumber_parts (path : String) (h : NumberParts sign digits fraction exponent)
    (hrest : Stops rest) :
    parseNumber conv path (sign ++ digits ++ fraction ++ exponent ++ rest) = (do
      let value ← convertNumber conv path (!sign.isEmpty) (!fraction.isEmpty || !exponent.isEmpty)
        digits (sign ++ digits ++ fraction ++ exponent)
      .ok (value, rest)) := by
  have hinteger : parseInteger path (digits ++ (fraction ++ (exponent ++ rest))) =
      .ok (digits, fraction ++ (exponent ++ rest)) :=
    parseInteger_iff.mpr ⟨h.digits, h.noDigit hrest, rfl⟩
  have hends := h.exponent.ends hrest
  have hfraction : parseFraction path (fraction ++ (exponent ++ rest)) =
      .ok (fraction, exponent ++ rest) :=
    parseFraction_iff.mpr ⟨h.fraction, rfl, fun _ => hends.1, fun _ => hends.2⟩
  have hexponent := parseExponent_spelled path h.exponent hrest
  unfold parseNumber
  rcases h.sign with rfl | rfl
  · obtain ⟨byte, more, hfirst, hminus, -⟩ := h.digits.head (fraction ++ (exponent ++ rest))
    simp only [nil_append, append_assoc]
    split
    · rename_i heq
      rw [hfirst] at heq
      exact absurd (List.cons.inj heq).1 hminus
    · simp only [hinteger, hfraction, hexponent, bind, Except.bind, nil_append]
  · simp only [cons_append, nil_append, append_assoc, hinteger, hfraction, hexponent,
      bind, Except.bind]

/-- What is read after a sign is the rest of a number. -/
theorem unsigned_read {path : String} {sign after : Text} {value : Value}
    (hsign : OptionalMinus sign) (h : (do
        let (integer, rest) ← parseInteger path after
        let (fraction, rest) ← parseFraction path rest
        let (exponent, rest) ← parseExponent path rest
        let value ← convertNumber conv path (!sign.isEmpty)
          (!fraction.isEmpty || !exponent.isEmpty) integer (sign ++ integer ++ fraction ++ exponent)
        .ok (value, rest) : Result (Value × Text)) = .ok (value, rest)) :
    ∃ digits fraction exponent, NumberParts sign digits fraction exponent ∧
      sign ++ after = sign ++ digits ++ fraction ++ exponent ++ rest ∧
      convertNumber conv path (!sign.isEmpty) (!fraction.isEmpty || !exponent.isEmpty) digits
        (sign ++ digits ++ fraction ++ exponent) = .ok value := by
  obtain ⟨⟨digits, after'⟩, hreadDigits, h⟩ := Fallible.bind_ok h
  obtain ⟨⟨fraction, after''⟩, hreadFraction, h⟩ := Fallible.bind_ok h
  obtain ⟨⟨exponent, after'''⟩, hreadExponent, h⟩ := Fallible.bind_ok h
  obtain ⟨converted, hconverted, h⟩ := Fallible.bind_ok h
  obtain ⟨rfl, rfl⟩ := Prod.mk.inj (Except.ok.inj h)
  obtain ⟨hexponent, rfl⟩ := parseExponent_read hreadExponent
  obtain ⟨hfraction, rfl, -⟩ := parseFraction_iff.mp hreadFraction
  obtain ⟨hdigits, -, rfl⟩ := parseInteger_iff.mp hreadDigits
  exact ⟨digits, fraction, exponent, ⟨hsign, hdigits, hfraction, hexponent⟩,
    by simp only [append_assoc], hconverted⟩

/-- What is read as a number has the parts of one. -/
theorem parseNumber_read {path : String} {value : Value}
    (h : parseNumber conv path input = .ok (value, rest)) :
    ∃ sign digits fraction exponent, NumberParts sign digits fraction exponent ∧
      input = sign ++ digits ++ fraction ++ exponent ++ rest ∧
      convertNumber conv path (!sign.isEmpty) (!fraction.isEmpty || !exponent.isEmpty) digits
        (sign ++ digits ++ fraction ++ exponent) = .ok value := by
  unfold parseNumber at h
  split at h
  rename_i sign after hsplit
  split at hsplit
  · obtain ⟨rfl, rfl⟩ := Prod.mk.inj hsplit
    exact ⟨_, unsigned_read (.inr rfl) h⟩
  · obtain ⟨rfl, rfl⟩ := Prod.mk.inj hsplit
    exact ⟨_, unsigned_read (.inl rfl) h⟩

end Parts

/-- **What is read as a number is a number of the domain.** -/
theorem spellsNumber_parseNumber {path : String} {value : Value}
    (h : parseNumber conv path input = .ok (value, rest)) :
    ∃ text number, input = text ++ rest ∧ value = .number number ∧
      SpellsNumber conv text number := by
  obtain ⟨sign, digits, fraction, exponent, hparts, hinput, hconverted⟩ := parseNumber_read h
  refine ⟨sign ++ digits ++ fraction ++ exponent, ?_⟩
  unfold convertNumber at hconverted
  split at hconverted
  · rename_i hbinary
    split at hconverted
    · rename_i bits hbits
      split at hconverted
      · rename_i hfinite
        refine ⟨_, hinput, (Except.ok.inj hconverted).symm, .binary64 hparts.sign hparts.digits
          hparts.fraction hparts.exponent ?_ hbits hfinite⟩
        intro hempty
        obtain ⟨rfl, rfl⟩ := List.append_eq_nil_iff.mp hempty
        cases hbinary
      · cases hconverted
    · cases hconverted
  · rename_i hinteger
    obtain ⟨rfl, rfl⟩ : fraction = [] ∧ exponent = [] := by
      simpa using hinteger
    simp only [append_nil] at hinput hconverted ⊢
    rcases hparts.sign with rfl | rfl
    · rw [if_neg (by decide)] at hconverted
      rw [nil_append] at hinput hconverted ⊢
      split at hconverted
      · exact ⟨_, hinput, (Except.ok.inj hconverted).symm,
          .unsignedInteger hparts.digits (by omega)⟩
      · cases hconverted
    · rw [if_pos (by rfl)] at hconverted
      rw [singleton_append] at hinput hconverted ⊢
      split at hconverted
      · exact ⟨_, hinput, (Except.ok.inj hconverted).symm, .signedInteger hparts.digits (by omega)⟩
      · cases hconverted

/-- **A number of the domain is read, up to a byte that stops it.** -/
theorem parseNumber_spelled (path : String) {number : Number} (h : SpellsNumber conv text number)
    (hrest : Stops rest) : parseNumber conv path (text ++ rest) = .ok (.number number, rest) := by
  cases h with
  | unsignedInteger hdigits hrange =>
      have hread : parseNumber conv path _ = _ := parseNumber_parts path
        ⟨.inl rfl, hdigits, .inl rfl, .inl rfl⟩ hrest
      simp only [nil_append, append_nil] at hread
      rw [hread, convertNumber, if_neg (by decide), if_neg (by decide), if_pos (by omega)]
      rfl
  | signedInteger hdigits hrange =>
      have hread : parseNumber conv path _ = _ := parseNumber_parts path
        ⟨.inr rfl, hdigits, .inl rfl, .inl rfl⟩ hrest
      simp only [append_nil, singleton_append] at hread
      rw [hread, convertNumber, if_neg (by decide), if_pos (by rfl), if_pos (by omega)]
      rfl
  | @binary64 sign digits fraction exponent bits hsign hdigits hfraction hexponent hnonempty hbits
      hfinite =>
      have hbinary : (!fraction.isEmpty || !exponent.isEmpty) = true := by
        by_contra hempty
        apply hnonempty
        simpa using hempty
      rw [parseNumber_parts path ⟨hsign, hdigits, hfraction, hexponent⟩ hrest, hbinary,
        convertNumber, if_pos rfl, hbits]
      simp only [hfinite, if_true]
      rfl

end CpuPrefetch.Protocol.Json
