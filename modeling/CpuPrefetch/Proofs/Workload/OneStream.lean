/-
The Python generator and the C++ stream draw the same numbers.

Python computes with unbounded integers and masks, C++ with words that wrap.  Each turn
of the ten keeps four words and two key words equal to the integers, so the block at the
end is the same; the key is the same because both read it from the same digest of the
same message.
-/
import CpuPrefetch.Tools.GenerateSchedule

namespace CpuPrefetch.Tools

open Workload
open Protocol (Text ascii)
open Workload (PhiloxKey PhiloxBlock Bytes32 MasterSeed StringView)

/-! ### Words -/

theorem land_mask (value : Nat) : value &&& UINT32_MASK = value % 2 ^ 32 :=
  Nat.and_two_pow_sub_one_eq_mod value 32

/-- The words of a block are these integers. -/
structure SameBlock (block : PhiloxBlock) (counter : Nat × Nat × Nat × Nat) : Prop where
  word0 : counter.1 = block.word0.toNat
  word1 : counter.2.1 = block.word1.toNat
  word2 : counter.2.2.1 = block.word2.toNat
  word3 : counter.2.2.2 = block.word3.toNat

structure SameKey (key : PhiloxKey) (words : Nat × Nat) : Prop where
  word0 : words.1 = key.word0.toNat
  word1 : words.2 = key.word1.toNat

/-- Both halves of a product of two words. -/
theorem product_halves (multiplier word : UInt32) :
    (multiplier.toUInt64 * word.toUInt64).toUInt32.toNat =
        multiplier.toNat * word.toNat &&& UINT32_MASK ∧
      ((multiplier.toUInt64 * word.toUInt64) >>> 32).toUInt32.toNat =
        (multiplier.toNat * word.toNat) >>> 32 := by
  have hmultiplier := multiplier.toNat_lt
  have hword := word.toNat_lt
  have hproduct : (multiplier.toUInt64 * word.toUInt64).toNat =
      multiplier.toNat * word.toNat := by
    rw [UInt64.toNat_mul, UInt32.toNat_toUInt64, UInt32.toNat_toUInt64]
    exact Nat.mod_eq_of_lt (by nlinarith)
  constructor
  · rw [UInt64.toNat_toUInt32, hproduct, land_mask]
  · have hhigh : (multiplier.toNat * word.toNat) >>> 32 < 2 ^ 32 := by
      rw [Nat.shiftRight_eq_div_pow]
      exact Nat.div_lt_of_lt_mul (by nlinarith)
    rw [UInt64.toNat_toUInt32, UInt64.toNat_shiftRight, hproduct]
    exact Nat.mod_eq_of_lt hhigh

/-- A mask over three words changes nothing. -/
theorem xor_mask (a b c : UInt32) :
    (a.toNat ^^^ b.toNat ^^^ c.toNat) &&& UINT32_MASK = (a ^^^ b ^^^ c).toNat := by
  rw [← UInt32.toNat_xor, ← UInt32.toNat_xor, land_mask]
  exact Nat.mod_eq_of_lt (a ^^^ b ^^^ c).toNat_lt

theorem add_mask (a b : UInt32) : (a.toNat + b.toNat) &&& UINT32_MASK = (a + b).toNat := by
  rw [land_mask, UInt32.toNat_add]

/-! ### Turns -/

variable {key : PhiloxKey} {words : Nat × Nat}

/-- One turn keeps the words and the key equal. -/
theorem philoxStep_same {block : PhiloxBlock} {counter : Nat × Nat × Nat × Nat}
    (hblock : SameBlock block counter) (hkey : SameKey key words) (round : Nat) :
    SameBlock (philoxTurn (block, key) round).1
        (philoxStep ⟨counter, words⟩ round).counter ∧
      SameKey (philoxTurn (block, key) round).2
        (philoxStep ⟨counter, words⟩ round).roundKey := by
  obtain ⟨c0, c1, c2, c3⟩ := counter
  obtain ⟨k0, k1⟩ := words
  obtain ⟨rfl, rfl, rfl, rfl⟩ := hblock
  obtain ⟨rfl, rfl⟩ := hkey
  obtain ⟨hlow0, hhigh0⟩ := product_halves kPhiloxMultiplier0 block.word0
  obtain ⟨hlow1, hhigh1⟩ := product_halves kPhiloxMultiplier1 block.word2
  constructor
  · refine ⟨?_, hlow1.symm, ?_, hlow0.symm⟩
    · show ((_ >>> 32) ^^^ _ ^^^ _) &&& UINT32_MASK = _
      rw [show (0xCD9E8D57 : Nat) = kPhiloxMultiplier1.toNat from rfl, ← hhigh1, xor_mask]
      rfl
    · show ((_ >>> 32) ^^^ _ ^^^ _) &&& UINT32_MASK = _
      rw [show (0xD2511F53 : Nat) = kPhiloxMultiplier0.toNat from rfl, ← hhigh0, xor_mask]
      rfl
  · by_cases hround : round = 9
    · simp only [philoxStep, philoxTurn, hround, ne_eq, not_true_eq_false, if_false]
      exact ⟨rfl, rfl⟩
    · simp only [philoxStep, philoxTurn, hround, ne_eq, not_false_eq_true, if_true]
      exact ⟨add_mask key.word0 kPhiloxWeyl0, add_mask key.word1 kPhiloxWeyl1⟩

/-- The turns of a run keep them equal. -/
theorem philoxSteps_same (rounds : List Nat) {block : PhiloxBlock}
    {counter : Nat × Nat × Nat × Nat} (hblock : SameBlock block counter)
    (hkey : SameKey key words) : SameBlock (rounds.foldl philoxTurn (block, key)).1
      (rounds.foldl philoxStep ⟨counter, words⟩).counter := by
  induction rounds generalizing block key counter words with
  | nil => exact hblock
  | cons round rest ih =>
      obtain ⟨hblock', hkey'⟩ := philoxStep_same hblock hkey round
      exact ih hblock' hkey'

theorem combineWords_toNat (high low : UInt32) :
    (combineWords high low).toNat = (high.toNat <<< 32) ||| low.toNat := by
  have hhigh := high.toNat_lt
  have hshift : high.toNat <<< 32 < 2 ^ 64 := by
    rw [Nat.shiftLeft_eq]
    omega
  rw [combineWords, UInt64.toNat_or, UInt64.toNat_shiftLeft, UInt32.toNat_toUInt64,
    UInt32.toNat_toUInt64]
  exact congrArg (· ||| low.toNat) (Nat.mod_eq_of_lt hshift)

/-- With the same key, every draw is the same. -/
theorem philoxDraw_eq (hkey : SameKey key words) (drawOrdinal : UInt64) :
    philoxDraw words drawOrdinal.toNat = (draw key drawOrdinal).toNat := by
  have hlt := drawOrdinal.toNat_lt
  have hhalf : (drawOrdinal / 2).toNat = drawOrdinal.toNat / 2 := UInt64.toNat_div _ _
  have hstart : SameBlock
      ⟨((drawOrdinal / 2) >>> 32).toUInt32, (drawOrdinal / 2).toUInt32, 0, 0⟩
      ((drawOrdinal.toNat / 2) >>> 32, drawOrdinal.toNat / 2 &&& UINT32_MASK, 0, 0) := by
    refine ⟨?_, ?_, rfl, rfl⟩
    · rw [UInt64.toNat_toUInt32, UInt64.toNat_shiftRight, hhalf]
      refine (Nat.mod_eq_of_lt ?_).symm
      show (drawOrdinal.toNat / 2) >>> 32 < _
      rw [Nat.shiftRight_eq_div_pow]
      omega
    · rw [UInt64.toNat_toUInt32, hhalf, land_mask]
  obtain ⟨h0, h1, h2, h3⟩ := philoxSteps_same (List.range 10) hstart hkey
  have hparity : drawOrdinal &&& 1 = 0 ↔ drawOrdinal.toNat % 2 = 0 := by
    rw [← UInt64.toNat_inj, UInt64.toNat_and]
    show drawOrdinal.toNat &&& 1 = 0 ↔ _
    rw [Nat.and_one_is_mod]
  unfold philoxDraw draw philox4x32_10
  simp only [hparity, apply_ite UInt64.toNat, combineWords_toNat]
  rw [← h0, ← h1, ← h2, ← h3]

/-! ### Keys -/

/-- Four bytes put together with shifts are the digits of a number. -/
theorem or_shifts (a b c d : UInt8) :
    ((a.toUInt32 <<< 24) ||| (b.toUInt32 <<< 16) ||| (c.toUInt32 <<< 8) ||| d.toUInt32).toNat =
      BigEndian.load [a, b, c, d] := by
  have ha := a.toNat_lt
  have hb := b.toNat_lt
  have hc := c.toNat_lt
  have hd := d.toNat_lt
  have hshift : ∀ (byte : UInt8) (bits : Nat), bits ≤ 24 →
      byte.toNat <<< bits % 2 ^ 32 = byte.toNat * 2 ^ bits := by
    intro byte bits hbits
    have hbyte := byte.toNat_lt
    have hpow : 2 ^ bits ≤ 2 ^ 24 := Nat.pow_le_pow_right (by omega) hbits
    rw [Nat.shiftLeft_eq]
    exact Nat.mod_eq_of_lt (by nlinarith)
  have hlow : c.toNat * 2 ^ 8 ||| d.toNat = c.toNat * 2 ^ 8 + d.toNat := by
    rw [← Nat.shiftLeft_eq, Nat.shiftLeft_add_eq_or_of_lt hd]
  have hmiddle : b.toNat * 2 ^ 16 ||| (c.toNat * 2 ^ 8 + d.toNat) =
      b.toNat * 2 ^ 16 + (c.toNat * 2 ^ 8 + d.toNat) := by
    rw [← Nat.shiftLeft_eq b.toNat, Nat.shiftLeft_add_eq_or_of_lt (by omega)]
  have hhigh : a.toNat * 2 ^ 24 ||| (b.toNat * 2 ^ 16 + (c.toNat * 2 ^ 8 + d.toNat)) =
      a.toNat * 2 ^ 24 + (b.toNat * 2 ^ 16 + (c.toNat * 2 ^ 8 + d.toNat)) := by
    rw [← Nat.shiftLeft_eq a.toNat, Nat.shiftLeft_add_eq_or_of_lt (by omega)]
  simp only [UInt32.toNat_or, UInt32.toNat_shiftLeft, UInt8.toNat_toUInt32]
  show ((a.toNat <<< 24 % 2 ^ 32 ||| b.toNat <<< 16 % 2 ^ 32) ||| c.toNat <<< 8 % 2 ^ 32) |||
    d.toNat = _
  rw [hshift a 24 (by omega), hshift b 16 (by omega), hshift c 8 (by omega), Nat.or_assoc,
    Nat.or_assoc, hlow, hmiddle, hhigh]
  simp only [BigEndian.load, List.foldl_cons, List.foldl_nil]
  omega

/-- Eight bytes shifted out of a word are its digits. -/
theorem u64Be_eq (value : UInt64) : u64Be value = BigEndian.store 8 value.toNat := by
  rw [BigEndian.store_eight]
  simp only [u64Be, BigEndian.toUInt8_mask]
  rfl

/-- A text that fits a string view has the same field in both languages. -/
theorem appendField_eq {output value : Text} (h : value.length < 2 ^ 64) :
    appendField output value = .ok (output ++ field value) := by
  have hsize : ¬value.length > UINT64_MAX := by
    show ¬value.length > 2 ^ 64 - 1
    omega
  rw [appendField, if_neg hsize, field, u64Be_eq, UInt64.toNat_ofNat',
    Nat.mod_eq_of_lt h, List.append_assoc]
  rfl

/-- The two words of a digest. -/
theorem digest_words (digest : Bytes32) :
    SameKey ⟨readU32Be digest.bytes 0, readU32Be digest.bytes 4⟩
      (BigEndian.load ((digest.bytes.take 8).take 4),
        BigEndian.load ((digest.bytes.take 8).drop 4)) := by
  obtain ⟨bytes, hsize⟩ := digest
  match bytes, hsize with
  | a :: b :: c :: d :: e :: f :: g :: h :: rest, _ =>
    exact ⟨(or_shifts a b c d).symm, (or_shifts e f g h).symm⟩

theorem encodeUtf8_literal (value : String) : encodeUtf8 (literal value) = ascii value := by
  rw [ascii, ← String.utf8Encode_toList, List.utf8Encode, List.toList_data_toByteArray]
  rfl

/-- The message both languages derive a key from. -/
def derivationMessage (nameSpace : Text) : Text :=
  field kDerivationDomainProtocolVersion ++
    field kDeterministicSuite ++ field nameSpace ++
    field (purposeLabel .arrivalSchedule).bytes

theorem deriveKey_eq (hmac : Text → Text → Bytes32) (masterSeed : Text) {namespaceId : PyString}
    (hsize : (encodeUtf8 namespaceId).length < 2 ^ 64) :
    deriveKey hmac masterSeed namespaceId =
      .ok
        (BigEndian.load (((hmac masterSeed (derivationMessage (encodeUtf8 namespaceId))).bytes.take
          8).take 4),
        BigEndian.load (((hmac masterSeed (derivationMessage (encodeUtf8 namespaceId))).bytes.take
          8).drop 4)) := by
  have hprotocol : encodeUtf8 DERIVATION_DOMAIN_PROTOCOL_VERSION =
      kDerivationDomainProtocolVersion := encodeUtf8_literal _
  have hsuite : encodeUtf8 BASE_RNG_SUITE = kDeterministicSuite := encodeUtf8_literal _
  have hpurpose : encodeUtf8 PURPOSE = (purposeLabel .arrivalSchedule).bytes :=
    encodeUtf8_literal _
  have hnext : ∀ (message : Text) (f : Text → Generation Text),
      ((.ok message : Generation Text) >>= f) = f message := fun _ _ => rfl
  unfold deriveKey
  simp only [List.foldlM_cons, List.foldlM_nil, hprotocol, hsuite, hpurpose]
  rw [appendField_eq (by decide), hnext, appendField_eq (by decide), hnext, appendField_eq hsize,
    hnext, appendField_eq (purposeLabel .arrivalSchedule).size, hnext]
  rfl

theorem deriveStreamKey_eq (hmac : Text → Text → Bytes32) (masterSeed : MasterSeed)
    {nameSpace : StringView} (hnonempty : nameSpace.bytes ≠ []) :
    deriveStreamKey hmac masterSeed nameSpace .arrivalSchedule =
      .ok ⟨readU32Be (hmac masterSeed.bytes (derivationMessage nameSpace.bytes)).bytes 0,
        readU32Be (hmac masterSeed.bytes (derivationMessage nameSpace.bytes)).bytes 4⟩ := by
  have hpurpose : ¬(purposeLabel .arrivalSchedule).bytes = [] := by decide
  rw [deriveStreamKey, if_neg hnonempty, if_neg hpurpose]
  rfl

theorem encodeUtf8_ne_nil {value : PyString} (h : value ≠ []) : encodeUtf8 value ≠ [] := by
  obtain ⟨first, rest, rfl⟩ := List.exists_cons_of_ne_nil h
  intro hnil
  rw [encodeUtf8, List.flatMap_cons, List.append_eq_nil_iff] at hnil
  exact String.utf8EncodeChar_ne_nil hnil.1

/--
**One stream in two languages.**  For the bytes of one namespace, both languages derive a
key, and every draw with it is the same number.
-/
theorem one_random_stream (hmac : Text → Text → Bytes32) (masterSeed : MasterSeed)
    (namespaceId : PyString) (nameSpace : StringView)
    (hsame : nameSpace.bytes = encodeUtf8 namespaceId) (hnonempty : namespaceId ≠ []) :
    ∃ words key, deriveKey hmac masterSeed.bytes namespaceId = .ok words ∧
      deriveStreamKey hmac masterSeed nameSpace .arrivalSchedule = .ok key ∧
      ∀ drawOrdinal : UInt64,
        philoxDraw words drawOrdinal.toNat = (draw key drawOrdinal).toNat := by
  have hsize : (encodeUtf8 namespaceId).length < 2 ^ 64 := by
    rw [← hsame]
    exact nameSpace.size
  have hbytes : nameSpace.bytes ≠ [] := by
    rw [hsame]
    exact encodeUtf8_ne_nil hnonempty
  refine ⟨_, _, deriveKey_eq hmac masterSeed.bytes hsize, deriveStreamKey_eq hmac masterSeed hbytes,
    ?_⟩
  rw [hsame]
  exact philoxDraw_eq (digest_words _)

/-- The digest of the message for the namespace `a` under a seed of zeros. -/
def zeroSeedDigest : Bytes32 :=
  ⟨[233, 29, 156, 148, 132, 168, 249, 24, 32, 185, 112, 192, 87, 252, 245, 209, 1, 188, 253, 209,
    75, 155, 42, 168, 63, 130, 25, 95, 51, 216, 155, 253],
    rfl⟩

theorem one_random_stream_letter :
    ∃ words key,
      deriveKey (fun _ _ => zeroSeedDigest) (List.replicate 32 0) ['a'] = .ok words ∧
      deriveStreamKey (fun _ _ => zeroSeedDigest) ⟨List.replicate 32 0, rfl⟩
        ⟨[97], by decide⟩ .arrivalSchedule = .ok key ∧
      ∀ drawOrdinal : UInt64,
        philoxDraw words drawOrdinal.toNat = (draw key drawOrdinal).toNat :=
  one_random_stream (fun _ _ => zeroSeedDigest) ⟨List.replicate 32 0, rfl⟩ ['a']
    ⟨[97], by decide⟩ rfl (List.cons_ne_nil _ _)

end CpuPrefetch.Tools
