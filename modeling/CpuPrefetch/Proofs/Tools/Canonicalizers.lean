/-
Three canonicalizers write the same bytes.

Both Python canonicalizers work on characters, and the library in C++ on their encoding.  They
escape a string alike, and order the members of an object alike: by the UTF-16 units of the keys,
or by the bytes of those units, high byte first.  Floats are left out, which only two of them take.
-/
import CpuPrefetch.Lib.Keyed
import CpuPrefetch.Proofs.Protocol.Unicode
import CpuPrefetch.Proofs.Workload.OneStream
import CpuPrefetch.Tools.Canonical

namespace CpuPrefetch.Tools

open Protocol Json
open Protocol.Json (CharConv Value appendString commaSeparated escapeOne inOrder utf16)

variable {conv : CharConv} {repr : UInt64 → PyString}

/-! ### Strings -/

@[simp] theorem encodeUtf8_append (left right : PyString) :
    encodeUtf8 (left ++ right) = encodeUtf8 left ++ encodeUtf8 right := List.flatMap_append

@[simp] theorem encodeUtf8_cons (c : Char) (rest : PyString) :
    encodeUtf8 (c :: rest) = String.utf8EncodeChar c ++ encodeUtf8 rest := List.flatMap_cons

/-- A character beyond ASCII has no byte that is escaped. -/
theorem escapeOne_encoded {c : Char} (h : ¬c.toNat < 0x80) :
    (String.utf8EncodeChar c).flatMap escapeOne = String.utf8EncodeChar c := by
  have hplain : ∀ byte : UInt8, 0x80 ≤ byte.toNat → escapeOne byte = [byte] :=
    forall_byte (by decide)
  have hlarge : ∀ byte ∈ String.utf8EncodeChar c, escapeOne byte = [byte] := by
    intro byte hbyte
    refine hplain byte ?_
    have hvalue : ¬c.val.toNat ≤ 0x7f := fun hle => h (Nat.lt_succ_of_le hle)
    rw [String.utf8EncodeChar, if_neg hvalue] at hbyte
    split at hbyte
    · fin_cases hbyte <;> simp <;> omega
    · split at hbyte <;> fin_cases hbyte <;> simp <;> omega
  rw [List.flatMap_congr hlarge, List.flatMap_singleton']

theorem encodeUtf8_escapeChar (c : Char) :
    encodeUtf8 (escapeChar c) = (String.utf8EncodeChar c).flatMap escapeOne := by
  by_cases hsmall : c.toNat < 0x80
  · have hall : ∀ n : Fin 0x80, encodeUtf8 (escapeChar (Char.ofNat n)) =
        (String.utf8EncodeChar (Char.ofNat n)).flatMap escapeOne := by decide +kernel
    have hchar := hall ⟨c.toNat, hsmall⟩
    rwa [Char.ofNat_toNat] at hchar
  · have hne : ∀ n < 0x80, c ≠ Char.ofNat n := by
      rintro n hn rfl
      rw [Char.toNat_ofNat] at hsmall
      split at hsmall <;> omega
    have hself : escapeChar c = [c] := by
      simp only [escapeChar, if_neg (hne _ (show 34 < 0x80 by decide)),
        if_neg (hne _ (show 92 < 0x80 by decide)), if_neg (hne _ (show 10 < 0x80 by decide)),
        if_neg (hne _ (show 13 < 0x80 by decide)), if_neg (hne _ (show 9 < 0x80 by decide)),
        if_neg (hne _ (show 12 < 0x80 by decide)), if_neg (hne _ (show 8 < 0x80 by decide)),
        if_neg (show ¬c.toNat < 32 by omega)]
    rw [hself, escapeOne_encoded hsmall, encodeUtf8, List.flatMap_singleton]

/-- A string is written the same. -/
theorem appendString_quote (value : PyString) :
    appendString (encodeUtf8 value) = .ok (encodeUtf8 (quote value)) := by
  have hutf8 : IsUtf8 (encodeUtf8 value) := isUtf8_iff.mpr ⟨value, rfl⟩
  obtain ⟨written, hwritten⟩ := appendString_defined_iff.mpr hutf8
  obtain ⟨-, rfl⟩ := appendString_eq hwritten
  have hescaped : (encodeUtf8 value).flatMap escapeOne = encodeUtf8 (value.flatMap escapeChar) := by
    rw [encodeUtf8, encodeUtf8, List.flatMap_assoc, List.flatMap_assoc]
    exact List.flatMap_congr fun c _ => (encodeUtf8_escapeChar c).symm
  rw [hwritten, hescaped, quote, encodeUtf8_append, encodeUtf8_append]
  rfl

/-! ### Numbers -/

theorem encodeUtf8_toDigits (n : Nat) : encodeUtf8 (Nat.toDigits 10 n) = decimal n := by
  have hdigit : ∀ d < 10, String.utf8EncodeChar (Nat.digitChar d) = [UInt8.ofNat (48 + d)] := by
    decide
  induction n using Nat.strong_induction_on with
  | _ n ih =>
      by_cases hsmall : n < 10
      · rw [Nat.toDigits_of_lt_base hsmall, encodeUtf8, List.flatMap_singleton, hdigit n hsmall]
        interval_cases n <;> rfl
      · rw [Nat.toDigits_of_base_le (by decide) (not_lt.mp hsmall), encodeUtf8_append,
          ih _ (by omega), encodeUtf8, List.flatMap_singleton, hdigit _ (Nat.mod_lt _ (by decide)),
          decimal, decimal, if_neg (by omega), if_neg (by omega),
          Nat.digits_def' (by decide) (show 0 < n by omega), List.reverse_cons, List.map_append]
        rfl

theorem encodeUtf8_strInt (value : Int) : encodeUtf8 (strInt value) =
    if value < 0 then 45 :: decimal value.natAbs else decimal value.natAbs := by
  rw [strInt]
  split
  · rw [encodeUtf8_cons, encodeUtf8_toDigits]
    rfl
  · exact encodeUtf8_toDigits _

/-! ### Keys -/

/-- The bytes of a unit, high byte first. -/
def unitBytes (unit : UInt16) : List UInt8 := [.ofNat (unit.toNat / 256), .ofNat (unit.toNat % 256)]

theorem encodeUtf16Be_eq (value : PyString) :
    encodeUtf16Be value = (utf16 value).flatMap unitBytes := by
  rw [encodeUtf16Be, utf16, List.flatMap_assoc]
  refine List.flatMap_congr fun c _ => ?_
  have hval : c.val.toNat = c.toNat := rfl
  rcases utf16Units_cases c with ⟨hsmall, unit, hunits, hunit⟩ |
    ⟨hlarge, high, low, hunits, hhigh, hlow⟩
  · rw [utf16BeChar, if_pos (by omega), hunits, List.flatMap_singleton, unitBytes, hunit, hval]
  · rw [utf16BeChar, if_neg (by omega), hunits, List.flatMap_cons, List.flatMap_singleton,
      unitBytes, unitBytes, hhigh, hlow, hval]
    rfl

/-- Units are ordered as their bytes are. -/
theorem unitBytes_lt (left right : List UInt16) :
    left.flatMap unitBytes < right.flatMap unitBytes ↔ left < right := by
  induction left generalizing right with
  | nil =>
      cases right with
      | nil => simp
      | cons unit rest => simp [unitBytes]
  | cons unit left ih =>
      cases right with
      | nil => simp
      | cons unit' right =>
          have hlt := unit.toNat_lt
          have hlt' := unit'.toNat_lt
          simp only [List.flatMap_cons, unitBytes, List.cons_append, List.nil_append,
            List.cons_lt_cons_iff, ih]
          simp only [UInt8.lt_iff_toNat_lt, UInt16.lt_iff_toNat_lt, ← UInt8.toNat_inj,
            ← UInt16.toNat_inj, UInt8.toNat_ofNat']
          by_cases hrest : left < right
          · simp only [hrest, and_true]
            omega
          · simp only [hrest, and_false, or_false]
            omega

theorem encodeUtf16Be_le (left right : PyString) :
    encodeUtf16Be left ≤ encodeUtf16Be right ↔ utf16 left ≤ utf16 right := by
  rw [encodeUtf16Be_eq, encodeUtf16Be_eq]
  exact not_congr (unitBytes_lt _ _)

/-! ### Arrays and objects -/

theorem sequence_ok {T : Type} (values : List T) : sequence (values.map .ok) = .ok values := by
  induction values with
  | nil => rfl
  | cons value rest ih =>
      rw [List.map_cons, sequence, ih]
      rfl

theorem inOrder_ok {T : Type} (values : List T) : inOrder (values.map .ok) = .ok values := by
  induction values with
  | nil => rfl
  | cons value rest ih =>
      rw [List.map_cons, inOrder, ih]
      rfl

theorem commaSeparated_encoded (texts : List PyString) :
    commaSeparated (texts.map encodeUtf8) = encodeUtf8 (join [','] texts) := by
  induction texts with
  | nil => rfl
  | cons text rest ih =>
      cases rest with
      | nil => rfl
      | cons next others =>
          show encodeUtf8 text ++ 44 :: commaSeparated ((next :: others).map encodeUtf8) =
            encodeUtf8 (text ++ [','] ++ join [','] (next :: others))
          rw [ih, encodeUtf8_append, encodeUtf8_append, List.append_assoc]
          rfl

/-- A member whose value's text is known. -/
def memberText (item : PyString × PyString) : PyString := quote item.1 ++ [':'] ++ item.2

/-- The text of an object, from those of its members' values. -/
def objectText (written : List (PyString × PyString)) : PyString :=
  [Char.ofNat 123] ++ join [','] ((sortedItems written).map memberText) ++ [Char.ofNat 125]

theorem dictText_ok (written : List (PyString × PyString)) :
    dictText (written.map fun item => (item.1, .ok item.2)) = .ok (objectText written) := by
  have hsorted : sortedItems (written.map fun item => (item.1, Except.ok item.2)) =
      (sortedItems written).map fun item =>
        (item.1, (.ok item.2 : Except PyException PyString)) := by
    symm
    apply List.map_insertionSort
    exact fun _ _ _ _ => Iff.rfl
  have htexts : ∀ items : List (PyString × PyString), sequence ((items.map fun item =>
      (item.1, (.ok item.2 : Except PyException PyString))).map fun item => do
        let value ← item.2
        pure (quote item.1 ++ [':'] ++ value)) = .ok (items.map memberText) := by
    intro items
    rw [List.map_map, ← sequence_ok, List.map_map]
    rfl
  rw [dictText, hsorted, htexts]
  rfl

/-- The library writes an object the same, in whatever order it has its members. -/
theorem canonicalObject_ok {written : List (PyString × PyString)}
    {members : List (Text × Result Text)}
    (hkeys : (written.map Prod.fst).Nodup)
    (hmembers : members.Perm
      (written.map fun item => (encodeUtf8 item.1, .ok (encodeUtf8 item.2)))) :
    canonicalObject members = .ok (encodeUtf8 (objectText written)) := by
  have hcomp := congrFun (congrFun (List.eq_map_comp_perm fun item : PyString × PyString =>
    (encodeUtf8 item.1, (.ok (encodeUtf8 item.2) : Result Text))) members) written
  obtain ⟨written', rfl, hperm⟩ := hcomp.mpr hmembers
  have hunits : ∀ items : List (PyString × PyString), inOrder ((items.map fun item =>
      (encodeUtf8 item.1, (.ok (encodeUtf8 item.2) : Result Text))).map fun member =>
        (utf16Key member.1).map fun units => (units, member)) = .ok (items.map fun item =>
          (utf16 item.1, encodeUtf8 item.1, .ok (encodeUtf8 item.2))) := by
    intro items
    rw [← inOrder_ok, List.map_map, List.map_map]
    refine congrArg inOrder (List.map_congr_left fun item _ => ?_)
    show (utf16Key (utf8 item.1)).map _ = _
    rw [utf16Key_utf8]
    rfl
  have hsorted : sortedItems written' = sortedItems written := by
    refine Keyed.insertionSort_eq (· ≤ ·) (fun item : PyString × PyString => encodeUtf16Be item.1)
      List.le_total (fun _ _ _ => List.le_trans) (fun _ _ => List.le_antisymm) hperm ?_
    intro item hitem item' hitem' hsame
    refine List.inj_on_of_nodup_map ((hperm.map Prod.fst).nodup_iff.mpr hkeys) hitem hitem' ?_
    have hle : ∀ left right : PyString, encodeUtf16Be left = encodeUtf16Be right →
        utf16 left ≤ utf16 right := fun left right hequal =>
      (encodeUtf16Be_le left right).mp (hequal ▸ List.le_refl _)
    exact utf16_inj (List.le_antisymm (hle _ _ hsame) (hle _ _ hsame.symm))
  have htexts : ∀ items : List (PyString × PyString), inOrder ((items.map fun item =>
      (utf16 item.1, encodeUtf8 item.1, (.ok (encodeUtf8 item.2) : Result Text))).map
        fun member => do
        let key ← appendString member.2.1
        let value ← member.2.2
        .ok (key ++ 58 :: value)) = .ok (items.map fun item => encodeUtf8 (memberText item)) := by
    intro items
    rw [← inOrder_ok, List.map_map, List.map_map]
    refine congrArg inOrder (List.map_congr_left fun item _ => ?_)
    show (appendString (encodeUtf8 item.1) >>= _) = _
    rw [appendString_quote]
    show Except.ok (encodeUtf8 (quote item.1) ++ 58 :: encodeUtf8 item.2) =
      Except.ok (encodeUtf8 (quote item.1 ++ [':'] ++ item.2))
    rw [encodeUtf8_append, encodeUtf8_append, List.append_assoc]
    rfl
  have horder : (written'.map fun item => (utf16 item.1, encodeUtf8 item.1,
      (.ok (encodeUtf8 item.2) : Result Text))).insertionSort (fun left right => left.1 ≤ right.1) =
      (sortedItems written).map fun item => (utf16 item.1, encodeUtf8 item.1,
        .ok (encodeUtf8 item.2)) := by
    rw [← hsorted]
    symm
    apply List.map_insertionSort
    exact fun left _ right _ => encodeUtf16Be_le left.1 right.1
  rw [canonicalObject, orderMembers, hunits]
  show (inOrder (List.map _ (List.insertionSort _ _)) >>= _) = _
  rw [horder, htexts, objectText, encodeUtf8_append, encodeUtf8_append, ← commaSeparated_encoded,
    List.map_map]
  rfl

/-! ### The same document -/

mutual

/-- The value of the library and the Python value are of one document; an object has distinct keys,
and no order of its own. -/
def SameValue : PyValue → Value → Prop
  | .none, parsed => parsed = .null
  | .bool value, parsed => parsed = .boolean value
  | .int value, parsed =>
      (∃ lexical number, parsed = .number (.signedInteger lexical number) ∧ number.toInt = value) ∨
        ∃ lexical number, parsed = .number (.unsignedInteger lexical number) ∧ number.toNat = value
  | .float bits, parsed => ∃ lexical, parsed = .number (.binary64 lexical bits)
  | .str value, parsed => parsed = .string (encodeUtf8 value)
  | .list items, parsed => ∃ values, parsed = .array values ∧ SameItems items values
  | .dict items, parsed => (items.map Prod.fst).Nodup ∧ ∃ members members',
      parsed = .object members ∧ members.Perm members' ∧ SameMembers items members'

def SameItems : List PyValue → List Value → Prop
  | [], parsed => parsed = []
  | value :: rest, parsed => ∃ first others, parsed = first :: others ∧ SameValue value first ∧
      SameItems rest others

def SameMembers : List (PyString × PyValue) → List (Text × Value) → Prop
  | [], parsed => parsed = []
  | (key, value) :: rest, parsed => ∃ first others, parsed = (encodeUtf8 key, first) :: others ∧
      SameValue value first ∧ SameMembers rest others

end

mutual

/-- No number of the value is a float. -/
def FloatFree : PyValue → Prop
  | .float _ => False
  | .list items => FloatFreeItems items
  | .dict items => FloatFreeMembers items
  | _ => True

def FloatFreeItems : List PyValue → Prop
  | [] => True
  | value :: rest => FloatFree value ∧ FloatFreeItems rest

def FloatFreeMembers : List (PyString × PyValue) → Prop
  | [] => True
  | (_, value) :: rest => FloatFree value ∧ FloatFreeMembers rest

end

/-- All three write this text for the value. -/
structure Written (conv : CharConv) (repr : UInt64 → PyString) (value : PyValue)
    (parsed : Value) (text : PyString) : Prop where
  schedule : canonicalize repr value = .ok text
  validated : Calibration.validateCanonicalValue value = .ok ()
  calibration : Calibration.encode value = .ok text
  library : Json.canonicalize conv parsed = .ok (encodeUtf8 text)

structure WrittenItems (conv : CharConv) (repr : UInt64 → PyString) (items : List PyValue)
    (parsed : List Value) (texts : List PyString) : Prop where
  schedule : canonicalizeItems repr items = texts.map .ok
  validated : Calibration.validateItems items = .ok ()
  calibration : Calibration.encodeItems items = texts.map .ok
  library : canonicalizeElements conv parsed = (texts.map encodeUtf8).map .ok

structure WrittenMembers (conv : CharConv) (repr : UInt64 → PyString)
    (items : List (PyString × PyValue)) (parsed : List (Text × Value))
    (written : List (PyString × PyString)) : Prop where
  keys : written.map Prod.fst = items.map Prod.fst
  schedule : canonicalizeMembers repr items = written.map fun item => (item.1, .ok item.2)
  validated : Calibration.validateMembers items = .ok ()
  calibration : Calibration.encodeMembers items = written.map fun item => (item.1, .ok item.2)
  library : Json.canonicalizeMembers conv parsed =
    written.map fun item => (encodeUtf8 item.1, .ok (encodeUtf8 item.2))

mutual

/-- All three write the value, and write the same; by recursion on the Python value. -/
theorem exists_written : ∀ {value : PyValue} {parsed : Value}, SameValue value parsed →
    FloatFree value → ∃ text, Written conv repr value parsed text
  | .none, _, h, _ => ⟨literal "null", rfl, rfl, rfl, by
      obtain rfl := h
      rw [encodeUtf8_literal]
      rfl⟩
  | .bool value, _, h, _ => ⟨if value then literal "true" else literal "false", rfl, rfl, rfl, by
      obtain rfl := h
      rw [apply_ite encodeUtf8, encodeUtf8_literal, encodeUtf8_literal]
      rfl⟩
  | .int value, _, h, _ => by
      have hdomain : -9223372036854775808 ≤ value ∧ value ≤ 18446744073709551615 := by
        rcases h with ⟨_, number, -, rfl⟩ | ⟨_, number, -, rfl⟩
        · have hlow := number.le_toInt
          have hhigh := number.toInt_lt
          omega
        · have hhigh := number.toNat_lt
          omega
      have hbounds : ∀ low high : Int, low = -9223372036854775808 → high = 18446744073709551615 →
          ¬(decide (value < low) || decide (value > high)) = true := by
        rintro _ _ rfl rfl
        simp only [Bool.or_eq_true, decide_eq_true_eq]
        omega
      refine ⟨strInt value, if_neg (hbounds _ _ rfl rfl), if_neg (hbounds _ _ rfl rfl), rfl, ?_⟩
      rw [encodeUtf8_strInt]
      rcases h with ⟨lexical, number, rfl, rfl⟩ | ⟨lexical, number, rfl, rfl⟩
      · simp only [← Int64.toInt_zero, ← Int64.lt_iff_toInt_lt]
        rfl
      · rw [if_neg (by omega)]
        rfl
  | .float _, _, _, hfree => hfree.elim
  | .str value, _, h, _ => ⟨quote value, rfl, rfl, rfl, by
      obtain rfl := h
      exact appendString_quote value⟩
  | .list items, _, h, hfree => by
      obtain ⟨values, rfl, hitems⟩ := h
      obtain ⟨texts, hwritten⟩ := exists_writtenItems hitems hfree
      refine ⟨['['] ++ join [','] texts ++ [']'], ?_, hwritten.validated, ?_, ?_⟩
      · rw [canonicalize, hwritten.schedule, listText, sequence_ok]
        rfl
      · rw [Calibration.encode, hwritten.calibration, listText, sequence_ok]
        rfl
      · rw [Json.canonicalize, hwritten.library, inOrder_ok, encodeUtf8_append,
          encodeUtf8_append, ← commaSeparated_encoded]
        rfl
  | .dict items, _, h, hfree => by
      obtain ⟨hkeys, members, members', rfl, hperm, hmembers⟩ := h
      obtain ⟨written, hwritten⟩ := exists_writtenMembers hmembers hfree
      refine ⟨objectText written, ?_, hwritten.validated, ?_, ?_⟩
      · rw [canonicalize, hwritten.schedule, dictText_ok]
      · rw [Calibration.encode, hwritten.calibration, dictText_ok]
      · rw [Json.canonicalize]
        refine canonicalObject_ok (hwritten.keys ▸ hkeys) ?_
        rw [← hwritten.library, canonicalizeMembers_eq,
          canonicalizeMembers_eq]
        exact hperm.map _

theorem exists_writtenItems : ∀ {items : List PyValue} {parsed : List Value},
    SameItems items parsed → FloatFreeItems items →
      ∃ texts, WrittenItems conv repr items parsed texts
  | [], _, h, _ => ⟨[], rfl, rfl, rfl, by
      obtain rfl := h
      rfl⟩
  | value :: rest, _, h, hfree => by
      obtain ⟨first, others, rfl, hfirst, hothers⟩ := h
      obtain ⟨text, hwritten⟩ := exists_written hfirst hfree.1
      obtain ⟨texts, hrest⟩ := exists_writtenItems hothers hfree.2
      refine ⟨text :: texts, ?_, ?_, ?_, ?_⟩
      · rw [canonicalizeItems, hwritten.schedule, hrest.schedule, List.map_cons]
      · rw [Calibration.validateItems, hwritten.validated, hrest.validated]
        rfl
      · rw [Calibration.encodeItems, hwritten.calibration, hrest.calibration, List.map_cons]
      · rw [canonicalizeElements, hwritten.library, hrest.library, List.map_cons,
          List.map_cons]

theorem exists_writtenMembers : ∀ {items : List (PyString × PyValue)}
    {parsed : List (Text × Value)}, SameMembers items parsed → FloatFreeMembers items →
      ∃ written, WrittenMembers conv repr items parsed written
  | [], _, h, _ => ⟨[], rfl, rfl, rfl, rfl, by
      obtain rfl := h
      rfl⟩
  | (key, value) :: rest, _, h, hfree => by
      obtain ⟨first, others, rfl, hfirst, hothers⟩ := h
      obtain ⟨text, hwritten⟩ := exists_written hfirst hfree.1
      obtain ⟨written, hrest⟩ := exists_writtenMembers hothers hfree.2
      refine ⟨(key, text) :: written, ?_, ?_, ?_, ?_, ?_⟩
      · rw [List.map_cons, List.map_cons, hrest.keys]
      · rw [canonicalizeMembers, hwritten.schedule, hrest.schedule, List.map_cons]
      · rw [Calibration.validateMembers, hwritten.validated, hrest.validated]
        rfl
      · rw [Calibration.encodeMembers, hwritten.calibration, hrest.calibration, List.map_cons]
      · rw [Json.canonicalizeMembers, hwritten.library, hrest.library, List.map_cons]

end

/-- **The three canonicalizers write the same bytes for a value without floats.** -/
theorem canonicalizers_agree {value : PyValue} {parsed : Value}
    (h : SameValue value parsed) (hfree : FloatFree value) :
    ∃ bytes, Json.canonicalize conv parsed = .ok bytes ∧
      (canonicalize repr value).map encodeUtf8 = .ok bytes ∧
      Calibration.canonicalize value = .ok bytes := by
  obtain ⟨text, hwritten⟩ := @exists_written conv repr _ _ h hfree
  refine ⟨encodeUtf8 text, hwritten.library, ?_, ?_⟩
  · rw [hwritten.schedule]
    rfl
  · rw [Calibration.canonicalize, hwritten.validated, hwritten.calibration]
    rfl

/-- A private use character, a pair of surrogates, and text that is escaped. -/
def mixedKeys : List (PyString × PyValue) :=
  [([Char.ofNat 0xe000], .int 1),
    ([Char.ofNat 0x10000], .list [.str [Char.ofNat 34, Char.ofNat 7], .none])]

theorem canonicalizers_agree_mixed : ∃ bytes,
    Json.canonicalize ⟨fun _ => none, fun _ => none⟩ (.object
      [(encodeUtf8 [Char.ofNat 0x10000], .array [.string (encodeUtf8 [Char.ofNat 34, Char.ofNat 7]),
        .null]), (encodeUtf8 [Char.ofNat 0xe000], .number (.signedInteger [49] 1))]) = .ok bytes ∧
      (canonicalize (fun _ => []) (.dict mixedKeys)).map encodeUtf8 = .ok bytes ∧
      Calibration.canonicalize (.dict mixedKeys) = .ok bytes :=
  canonicalizers_agree ⟨by decide, _, _, rfl, List.Perm.swap _ _ _, _, _, rfl,
    .inl ⟨_, _, rfl, rfl⟩, _, _, rfl, ⟨_, rfl, _, _, rfl, rfl, _, _, rfl, rfl, rfl⟩, rfl⟩
    ⟨trivial, ⟨trivial, trivial, trivial⟩, trivial⟩

end CpuPrefetch.Tools
