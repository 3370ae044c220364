/-
How strings and integers are written.

The canonicalizer writes a string byte by byte once the text is known to be UTF-8: a
sequence of several bytes is copied, and none of its bytes needs an escape.  The parser
undoes one escape at a time.  An integer is written in digits that give its value, of which
the first is not zero.
-/
import CpuPrefetch.Proofs.Protocol.CanonicalForm

namespace CpuPrefetch.Protocol.Json

open List

variable {conv : CharConv}

/-! ### Bytes -/

/-- A statement about every byte is decided on its two hexadecimal digits. -/
theorem forall_byte {p : UInt8 → Prop}
    (h : ∀ high low : Fin 16, p (UInt8.ofNat (16 * high.val + low.val))) (byte : UInt8) :
    p byte := by
  have hlt := byte.toNat_lt
  have hbyte := h ⟨byte.toNat / 16, by omega⟩ ⟨byte.toNat % 16, by omega⟩
  rwa [Nat.div_add_mod, UInt8.ofNat_toNat] at hbyte

/-- How many bytes after this one `append_string` copies with it. -/
def copiedAfter (byte : UInt8) : Nat :=
  if byte < 0x80 then 0
  else if byte &&& 0xf0 = 0xe0 then 2
  else if byte &&& 0xf8 = 0xf0 then 3
  else 1

/-- What is written for a byte outside a sequence. -/
def escapeOne (byte : UInt8) : Text :=
  if byte ≥ 0x20 && byte ≠ 34 && byte ≠ 92 then [byte] else escapeByte byte

variable {bits : UInt32} {byte : UInt8}

/-- A lead byte says how long its sequence is. -/
theorem leadByte_length {length : Nat} (h : Utf8.leadByte byte = some (bits, length)) :
    length = copiedAfter byte + 1 := by
  have hall : ∀ byte : UInt8, (Utf8.leadByte byte).all fun lead =>
      lead.2 = copiedAfter byte + 1 := forall_byte (by decide)
  have hbyte := hall byte
  rw [h] at hbyte
  simpa using hbyte

/-- A byte that needs an escape is a sequence of its own. -/
theorem copiedAfter_escaped (h : ¬(byte ≥ 0x20 && byte ≠ 34 && byte ≠ 92) = true) :
    copiedAfter byte = 0 := by
  revert h
  exact forall_byte (p := fun byte => ¬(byte ≥ 0x20 && byte ≠ 34 && byte ≠ 92) = true →
    copiedAfter byte = 0) (by decide) byte

theorem escapeOne_continuation (h : byte &&& 0xc0 = 0x80) : escapeOne byte = [byte] := by
  revert h
  exact forall_byte (p := fun byte => byte &&& 0xc0 = 0x80 → escapeOne byte = [byte])
    (by decide) byte

/-! ### Sequences -/

/-- The bytes of a sequence after its first. -/
def Continues (bytes : Text) : Prop := ∀ byte ∈ bytes, byte &&& 0xc0 = 0x80

theorem continues_of_continuationBytes {codePoint : UInt32} {bytes : List UInt8}
    (h : Utf8.continuationBytes bits bytes = some codePoint) : Continues bytes := by
  induction bytes generalizing bits with
  | nil => exact nofun
  | cons byte rest ih =>
      rw [Utf8.continuationBytes] at h
      split at h
      · cases h
      · rename_i hbyte
        exact List.forall_mem_cons.mpr ⟨not_not.mp hbyte, ih h⟩

theorem continues_of_decodeSequence {codePoint : UInt32} {length : Nat} {bytes : List UInt8}
    (h : decodeSequence bits length bytes = .ok codePoint) : Continues bytes := by
  unfold decodeSequence at h
  split at h
  · cases h
  · rename_i hbytes
    exact continues_of_continuationBytes hbytes

/-- A text that is UTF-8 begins with a sequence, and goes on as such a text. -/
theorem isUtf8_sequence {first : UInt8} {rest : Text} (h : IsUtf8 (first :: rest)) :
    ∃ tail others, rest = tail ++ others ∧ tail.length = copiedAfter first ∧ Continues tail ∧
      IsUtf8 others := by
  obtain ⟨codePoints, h⟩ := h
  rw [decodeUtf8] at h
  split at h
  · cases h
  · rename_i hlead
    split at h
    · obtain ⟨codePoint, hsequence, h⟩ := Fallible.bind_ok h
      obtain ⟨others, hothers, -⟩ := Fallible.bind_ok h
      exact ⟨[_], _, rfl, Nat.succ.inj (leadByte_length hlead),
        continues_of_decodeSequence hsequence, others, hothers⟩
    · cases h
  · rename_i hlead
    split at h
    · obtain ⟨codePoint, hsequence, h⟩ := Fallible.bind_ok h
      obtain ⟨others, hothers, -⟩ := Fallible.bind_ok h
      exact ⟨[_, _], _, rfl, Nat.succ.inj (leadByte_length hlead),
        continues_of_decodeSequence hsequence, others, hothers⟩
    · cases h
  · rename_i hlead
    split at h
    · obtain ⟨codePoint, hsequence, h⟩ := Fallible.bind_ok h
      obtain ⟨others, hothers, -⟩ := Fallible.bind_ok h
      exact ⟨[_, _, _], _, rfl, Nat.succ.inj (leadByte_length hlead),
        continues_of_decodeSequence hsequence, others, hothers⟩
    · cases h
  · rename_i bits length h2 h3 h4 hlead
    obtain ⟨codePoint, -, h⟩ := Fallible.bind_ok h
    obtain ⟨others, hothers, -⟩ := Fallible.bind_ok h
    refine ⟨[], rest, rfl, ?_, forall_mem_nil _, others, hothers⟩
    -- the lengths two, three and four have their own branches
    have hlength := leadByte_length hlead
    have hshort : copiedAfter first ≤ 3 := by
      unfold copiedAfter
      repeat' split
      all_goals decide
    have htwo : length ≠ 2 := h2
    have hthree : length ≠ 3 := h3
    have hfour : length ≠ 4 := h4
    rw [length_nil]
    omega

theorem escapeText_first (first : UInt8) (rest : Text) :
    escapeText 0 (first :: rest) = escapeOne first ++ escapeText (copiedAfter first) rest := by
  rw [escapeText, escapeOne]
  split
  · unfold copiedAfter
    split
    · rfl
    · split
      · rfl
      · split <;> rfl
  · rename_i hescaped
    rw [copiedAfter_escaped hescaped]

theorem escapeText_copied (tail others : Text) :
    escapeText tail.length (tail ++ others) = tail ++ escapeText 0 others := by
  induction tail with
  | nil => rfl
  | cons byte rest ih => rw [length_cons, cons_append, escapeText, ih, cons_append]

theorem flatMap_escapeOne {tail : Text} (h : Continues tail) : tail.flatMap escapeOne = tail := by
  induction tail with
  | nil => rfl
  | cons byte rest ih =>
      obtain ⟨hbyte, hrest⟩ := List.forall_mem_cons.mp h
      rw [flatMap_cons, escapeOne_continuation hbyte, ih hrest, singleton_append]

/-- A text that is UTF-8 is written byte by byte. -/
theorem escapeText_eq {text : Text} (h : IsUtf8 text) :
    escapeText 0 text = text.flatMap escapeOne := by
  induction hsize : text.length using Nat.strong_induction_on generalizing text with
  | _ size ih =>
      cases text with
      | nil => rfl
      | cons first rest =>
          obtain ⟨tail, others, rfl, hlength, htail, hothers⟩ := isUtf8_sequence h
          have hshorter : others.length < size := by
            rw [← hsize, length_cons, length_append]
            omega
          rw [escapeText_first, ← hlength, escapeText_copied, ih _ hshorter hothers rfl,
            flatMap_cons, flatMap_append, flatMap_escapeOne htail]

/-! ### Strings -/

/-- The escape of a control byte is read back as that byte. -/
theorem hexValue_escape (h : byte < 0x80) :
    hexValue 0 [48, 48, hexDigitText ((byte >>> 4) &&& 0x0f), hexDigitText (byte &&& 0x0f)] =
      some byte.toUInt32 ∧ encodeUtf8 byte.toUInt32 = some [byte] ∧
      ¬(byte.toUInt32 ≥ 0xd800 && byte.toUInt32 ≤ 0xdbff) = true ∧
      ¬(byte.toUInt32 ≥ 0xdc00 && byte.toUInt32 ≤ 0xdfff) = true := by
  revert h
  exact forall_byte (p := fun byte => byte < 0x80 →
    hexValue 0 [48, 48, hexDigitText ((byte >>> 4) &&& 0x0f), hexDigitText (byte &&& 0x0f)] =
      some byte.toUInt32 ∧ encodeUtf8 byte.toUInt32 = some [byte] ∧
      ¬(byte.toUInt32 ≥ 0xd800 && byte.toUInt32 ≤ 0xdbff) = true ∧
      ¬(byte.toUInt32 ≥ 0xdc00 && byte.toUInt32 ≤ 0xdfff) = true) (by decide) byte

theorem parseString_quote (path : String) (output rest : Text) :
    parseString path output (34 :: rest) = finishString path output rest := by
  rw [parseString.eq_def]
  simp only [↓reduceIte]

theorem parseString_plain (path : String) (output rest : Text) (hquote : byte ≠ 34)
    (hcontrol : ¬byte < 0x20) (hescape : byte ≠ 92) :
    parseString path output (byte :: rest) = parseString path (output ++ [byte]) rest := by
  rw [parseString.eq_def]
  simp only
  rw [if_neg hquote, if_neg hcontrol, if_pos hescape]

/-- An escape of one letter is read back. -/
theorem parseString_letter (path : String) (output rest : Text) {letter : UInt8}
    (h : simpleEscape letter = some byte) :
    parseString path output (92 :: letter :: rest) = parseString path (output ++ [byte]) rest := by
  rw [parseString.eq_def]
  simp only
  rw [if_neg (by decide), if_neg (by decide), if_neg (by decide)]
  simp only [h]

/-- An escape is one letter, or the code of a control byte. -/
theorem escapeByte_cases (h : ¬(byte ≥ 0x20 && byte ≠ 34 && byte ≠ 92) = true) :
    (escapeByte byte = [92, (escapeByte byte).getD 1 0] ∧
        simpleEscape ((escapeByte byte).getD 1 0) = some byte) ∨
      (byte < 0x80 ∧ escapeByte byte =
        [92, 117, 48, 48, hexDigitText ((byte >>> 4) &&& 0x0f), hexDigitText (byte &&& 0x0f)]) := by
  revert h
  exact forall_byte (p := fun byte => ¬(byte ≥ 0x20 && byte ≠ 34 && byte ≠ 92) = true →
    (escapeByte byte = [92, (escapeByte byte).getD 1 0] ∧
        simpleEscape ((escapeByte byte).getD 1 0) = some byte) ∨
      (byte < 0x80 ∧ escapeByte byte =
        [92, 117, 48, 48, hexDigitText ((byte >>> 4) &&& 0x0f), hexDigitText (byte &&& 0x0f)]))
    (by decide) byte

theorem appendString_eq {text written : Text} (h : appendString text = .ok written) :
    IsUtf8 text ∧ written = 34 :: text.flatMap escapeOne ++ [34] := by
  have htext := appendString_defined_iff.mp ⟨written, h⟩
  obtain ⟨codePoints, -, h⟩ := Fallible.bind_ok h
  refine ⟨htext, ?_⟩
  rw [← escapeText_eq htext]
  exact (Except.ok.inj h).symm

/-! ### Integers -/

theorem decimal_digits (n : Nat) : ∀ byte ∈ decimal n, isDigit byte = true := by
  unfold decimal
  split
  · intro byte hbyte
    rw [List.mem_singleton.mp hbyte]
    rfl
  · intro byte hbyte
    obtain ⟨digit, hdigit, rfl⟩ := List.mem_map.mp hbyte
    have hlt := Nat.digits_lt_base (by decide : 1 < 10) (List.mem_reverse.mp hdigit)
    interval_cases digit <;> decide

theorem digitsValue_append (left : Text) (byte : UInt8) :
    digitsValue (left ++ [byte]) = digitsValue left * 10 + (byte.toNat - 48) := by
  rw [digitsValue, digitsValue, foldl_append]
  rfl

theorem digitsValue_decimal (n : Nat) : digitsValue (decimal n) = n := by
  unfold decimal
  split
  · rename_i hzero
    rw [hzero]
    rfl
  · -- the digits come least significant first, and are written the other way round
    have hreversed : ∀ digits : List Nat, (∀ digit ∈ digits, digit < 10) →
        digitsValue (digits.reverse.map fun digit => UInt8.ofNat (48 + digit)) =
          Nat.ofDigits 10 digits := by
      intro digits hdigits
      induction digits with
      | nil => rfl
      | cons digit rest ih =>
          obtain ⟨hdigit, hrest⟩ := List.forall_mem_cons.mp hdigits
          have hbyte : (UInt8.ofNat (48 + digit)).toNat - 48 = digit := by
            rw [UInt8.toNat_ofNat']
            omega
          rw [reverse_cons, map_append, map_singleton, digitsValue_append,
            ih hrest, hbyte, Nat.ofDigits_cons]
          omega
    rw [hreversed _ fun digit hdigit => Nat.digits_lt_base (by decide) hdigit, Nat.ofDigits_digits]

/-- A number does not begin with a zero, unless it is zero. -/
theorem decimal_first {n : Nat} (h : n ≠ 0) :
    ∃ first rest, decimal n = first :: rest ∧ (49 ≤ first && first ≤ 57) = true := by
  have hne : Nat.digits 10 n ≠ [] := Nat.digits_ne_nil_iff_ne_zero.mpr h
  have hlast := Nat.getLast_digit_ne_zero 10 h
  have hlt := Nat.digits_lt_base (by decide : 1 < 10) (getLast_mem hne)
  have hdecimal : decimal n =
      UInt8.ofNat (48 + (Nat.digits 10 n).getLast hne) ::
        ((Nat.digits 10 n).dropLast.reverse.map fun digit => UInt8.ofNat (48 + digit)) := by
    conv_lhs => rw [decimal, if_neg h, ← dropLast_append_getLast hne]
    rw [reverse_append, reverse_singleton, singleton_append, map_cons]
  refine ⟨_, _, hdecimal, ?_⟩
  generalize (Nat.digits 10 n).getLast hne = digit at hlast hlt
  interval_cases digit <;> first | exact absurd rfl hlast | decide

/-- A number as it is read back: by its canonical spelling. -/
def Number.respelled : Number → Number
  | .signedInteger _ value =>
      if value < 0 then .signedInteger (45 :: decimal value.toInt.natAbs) value
      else .unsignedInteger (decimal value.toInt.natAbs) (.ofNat value.toInt.natAbs)
  | .unsignedInteger _ value => .unsignedInteger (decimal value.toNat) value
  | .binary64 lexical bits => .binary64 lexical bits

/-- Whether the number is one of the two kinds of integer. -/
def Number.isInteger : Number → Bool
  | .binary64 _ _ => false
  | _ => true

end CpuPrefetch.Protocol.Json
