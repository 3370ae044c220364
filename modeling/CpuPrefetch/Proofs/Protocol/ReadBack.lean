/-
Canonical texts are read back.

What the canonicalizer writes is spelled by the grammar, rule by rule, so the parser reads
it.  An object is written in the order of its keys' UTF-16 units and read into a map
ordered by bytes; a map with the same members is the same map.
-/
import CpuPrefetch.Proofs.Protocol.Grammar
import CpuPrefetch.Proofs.Protocol.Values

namespace CpuPrefetch.Protocol.Json

open List

variable {conv : CharConv}

/-! ### Values that are read back -/

mutual

/-- The value has no binary64 number, and its objects are maps. -/
def Value.Plain : Value → Prop
  | .null => True
  | .boolean _ => True
  | .number number => number.isInteger = true
  | .string _ => True
  | .array values => PlainElements values
  | .object members => SortedKeys members ∧ PlainMembers members

def PlainElements : List Value → Prop
  | [] => True
  | value :: rest => value.Plain ∧ PlainElements rest

def PlainMembers : List (Text × Value) → Prop
  | [] => True
  | (_, value) :: rest => value.Plain ∧ PlainMembers rest

end

mutual

/-- The value with its numbers as they are read back. -/
def Value.respelled : Value → Value
  | .null => .null
  | .boolean value => .boolean value
  | .number number => .number number.respelled
  | .string text => .string text
  | .array values => .array (respelledElements values)
  | .object members => .object (respelledMembers members)

def respelledElements : List Value → List Value
  | [] => []
  | value :: rest => value.respelled :: respelledElements rest

def respelledMembers : List (Text × Value) → List (Text × Value)
  | [] => []
  | (key, value) :: rest => (key, value.respelled) :: respelledMembers rest

end

variable {values : List Value}

theorem plainElements_iff : PlainElements values ↔ ∀ value ∈ values, value.Plain := by
  induction values with
  | nil => exact ⟨fun _ => nofun, fun _ => trivial⟩
  | cons value rest ih => rw [PlainElements, ih, forall_mem_cons]

theorem plainMembers_iff {members : List (Text × Value)} :
    PlainMembers members ↔ ∀ member ∈ members, member.2.Plain := by
  induction members with
  | nil => exact ⟨fun _ => nofun, fun _ => trivial⟩
  | cons member rest ih => rw [PlainMembers, ih, forall_mem_cons]

theorem respelledElements_eq (values : List Value) :
    respelledElements values = values.map Value.respelled := by
  induction values with
  | nil => rfl
  | cons value rest ih => rw [respelledElements, ih, map_cons]

/-- A member with its value as it is read back. -/
def respelledMember (member : Text × Value) : Text × Value := (member.1, member.2.respelled)

theorem respelledMembers_eq (members : List (Text × Value)) :
    respelledMembers members = members.map respelledMember := by
  induction members with
  | nil => rfl
  | cons member rest ih => rw [respelledMembers, ih, map_cons, respelledMember]

variable {value : Value}

theorem plain_iff : value.Plain ↔ value.All Value.IsMap ∧
      value.All (Value.IsNumber fun number => number.isInteger = true) := by
  induction value using Value.byParts with
  | null =>
      rw [all_null, all_null]
      exact ⟨fun _ => ⟨trivial, trivial⟩, fun _ => trivial⟩
  | boolean value =>
      rw [all_boolean, all_boolean]
      exact ⟨fun _ => ⟨trivial, trivial⟩, fun _ => trivial⟩
  | number number =>
      rw [all_number, all_number]
      exact ⟨fun h => ⟨trivial, h⟩, fun h => h.2⟩
  | string text =>
      rw [all_string, all_string]
      exact ⟨fun _ => ⟨trivial, trivial⟩, fun _ => trivial⟩
  | array values ih =>
      rw [Value.Plain, plainElements_iff, all_array, all_array]
      constructor
      · intro h
        exact ⟨⟨trivial, fun value hvalue => ((ih value hvalue).mp (h value hvalue)).1⟩,
          trivial, fun value hvalue => ((ih value hvalue).mp (h value hvalue)).2⟩
      · rintro ⟨⟨-, hmaps⟩, -, hintegers⟩ value hvalue
        exact (ih value hvalue).mpr ⟨hmaps value hvalue, hintegers value hvalue⟩
  | object members ih =>
      rw [Value.Plain, plainMembers_iff, all_object, all_object]
      constructor
      · rintro ⟨hsorted, h⟩
        exact ⟨⟨hsorted, fun member hmember => ((ih member hmember).mp (h member hmember)).1⟩,
          trivial, fun member hmember => ((ih member hmember).mp (h member hmember)).2⟩
      · rintro ⟨⟨hsorted, hmaps⟩, -, hintegers⟩
        exact ⟨hsorted, fun member hmember =>
          (ih member hmember).mpr ⟨hmaps member hmember, hintegers member hmember⟩⟩

/-- Only the numbers are spelled anew. -/
theorem respelled_eq (value : Value) : value.respelled = value.renumbered Number.respelled := by
  induction value using Value.byParts with
  | null => rfl
  | boolean value => rfl
  | number number => rfl
  | string text => rfl
  | array values ih =>
      rw [Value.respelled, Value.renumbered, respelledElements_eq, renumberedElements_eq,
        map_congr_left ih]
  | object members ih =>
      rw [Value.respelled, Value.renumbered, respelledMembers_eq, renumberedMembers_eq]
      refine congrArg Value.object (map_congr_left ?_)
      intro member hmember
      rw [respelledMember, renumberedMember, ih member hmember]

/-! ### The order of members -/

/-- The UTF-16 units of a key that is UTF-8. -/
def unitsOf (key : Text) : List UInt16 := (utf16Key key).toOption.getD []

/-- The members in the order they are written. -/
def writingOrder (members : Object) : Object :=
  members.insertionSort fun left right => unitsOf left.1 ≤ unitsOf right.1

theorem writingOrder_perm (members : Object) : (writingOrder members).Perm members :=
  perm_insertionSort _ _

/-- What is written for a member. -/
def MemberText (conv : CharConv) (member : Text × Value) (text : Text) : Prop :=
  ∃ key value, appendString member.1 = .ok key ∧ canonicalize conv member.2 = .ok value ∧
    text = key ++ 58 :: value

variable {members : Object}

/-- The members keyed for the sort, from the members themselves. -/
theorem keyed_eq {keyed : List OrderedMember}
    (h : inOrder ((canonicalizeMembers conv members).map fun member =>
      (utf16Key member.1).map fun units => (units, member)) = .ok keyed) :
    keyed = members.map fun member =>
      (unitsOf member.1, member.1, canonicalize conv member.2) := by
  obtain ⟨hsecond, hunits⟩ := keyed_spec h
  rw [canonicalizeMembers_eq] at hsecond
  have hself : keyed = (keyed.map Prod.snd).map fun member => (unitsOf member.1, member) := by
    rw [map_map]
    refine (map_id keyed).symm.trans (map_congr_left ?_)
    intro member hmember
    rw [Function.comp, unitsOf, hunits member hmember]
    rfl
  rw [hself, hsecond, map_map]
  rfl

variable {text : Text}

/-- An object is written member by member, in the order of the keys' units. -/
theorem canonicalize_object (h : canonicalize conv (.object members) = .ok text) :
    ∃ texts, List.Forall₂ (MemberText conv) (writingOrder members) texts ∧
      text = 123 :: commaSeparated texts ++ [125] := by
  rw [canonicalize] at h
  obtain ⟨ordered, hordered, h⟩ := Fallible.bind_ok h
  obtain ⟨texts, htexts, hlast⟩ := Fallible.bind_ok h
  obtain ⟨keyed, hkeyed, hsorted⟩ := Fallible.bind_ok hordered
  obtain rfl := Except.ok.inj hsorted
  obtain rfl := Except.ok.inj hlast
  refine ⟨texts, ?_, rfl⟩
  have hsort : keyed.insertionSort (fun left right => left.1 ≤ right.1) =
      (writingOrder members).map fun member =>
        (unitsOf member.1, member.1, canonicalize conv member.2) := by
    rw [keyed_eq hkeyed, writingOrder]
    symm
    apply map_insertionSort
    exact fun _ _ _ _ => Iff.rfl
  rw [hsort, map_map] at htexts
  refine (inOrder_map htexts).imp ?_
  intro member written hwritten
  obtain ⟨key, hkey, hwritten⟩ := Fallible.bind_ok hwritten
  obtain ⟨value, hvalue, hwritten⟩ := Fallible.bind_ok hwritten
  exact ⟨key, value, hkey, hvalue, (Except.ok.inj hwritten).symm⟩

/-- An array is written element by element. -/
theorem canonicalize_array (h : canonicalize conv (.array values) = .ok text) :
    ∃ texts, List.Forall₂ (fun value text => canonicalize conv value = .ok text) values texts ∧
      text = 91 :: commaSeparated texts ++ [93] := by
  rw [canonicalize, canonicalizeElements_eq] at h
  obtain ⟨texts, htexts, h⟩ := Fallible.bind_ok h
  exact ⟨texts, inOrder_map htexts, (Except.ok.inj h).symm⟩

/-! ### What is written is spelled -/

/-- What is written for one byte stands for that byte. -/
theorem unescapes_escapeOne {byte : UInt8} {body : Text} (h : Unescapes body text) :
    Unescapes (escapeOne byte ++ body) (byte :: text) := by
  unfold escapeOne
  split
  · rename_i hplain
    simp only [ge_iff_le, ne_eq, Bool.and_eq_true, decide_eq_true_eq] at hplain
    exact .plain (UInt8.le_iff_toNat_le.mp hplain.1.1) hplain.1.2 hplain.2 h
  · rename_i hescaped
    rcases escapeByte_cases hescaped with ⟨hbytes, hletter⟩ | ⟨hcontrol, hbytes⟩
    · rw [hbytes]
      exact .letter (simpleEscape_iff.mp hletter) h
    · obtain ⟨hvalue, hencoded, -⟩ := hexValue_escape hcontrol
      obtain ⟨character, hcharacter, hsingle⟩ := encodeUtf8_iff.mp hencoded
      rw [← hcharacter] at hvalue
      have hunescapes := Unescapes.unicode (hexValue_iff.mp hvalue) h
      rw [← hsingle] at hunescapes
      rw [hbytes]
      exact hunescapes

/-- A string is spelled by its canonical text. -/
theorem spellsString_written (h : IsUtf8 text) : SpellsString (text.flatMap escapeOne) text := by
  refine ⟨?_, isUtf8_iff.mp h⟩
  clear h
  induction text with
  | nil => exact .nil
  | cons byte rest ih =>
      rw [flatMap_cons]
      exact unescapes_escapeOne ih

theorem integerPart_decimal (n : Nat) : IntegerPart (decimal n) := by
  by_cases hzero : n = 0
  · subst hzero
    exact .inl rfl
  · obtain ⟨first, rest, hdecimal, hfirst⟩ := decimal_first hzero
    refine .inr ⟨⟨?_, fun byte hbyte => isDigit_iff.mp (decimal_digits n byte hbyte)⟩, ?_⟩
    · rw [hdecimal]
      exact cons_ne_nil first rest
    · rw [hdecimal]
      intro hhead
      obtain rfl := Option.some.inj hhead
      cases hfirst

/-- An integer is spelled by its canonical text. -/
theorem spellsNumber_written {number : Number} (h : number.isInteger = true)
    (htext : canonicalNumber conv number = .ok text) : SpellsNumber conv text number.respelled := by
  have hunsigned : ∀ n < 2 ^ 64,
      SpellsNumber conv (decimal n) (.unsignedInteger (decimal n) (.ofNat n)) := by
    intro n hn
    have hspelled : SpellsNumber conv (decimal n) _ := .unsignedInteger (integerPart_decimal n)
      (by rw [digitsValue_decimal]; omega)
    rwa [digitsValue_decimal] at hspelled
  cases number with
  | binary64 lexical bits => cases h
  | unsignedInteger lexical value =>
      obtain rfl := Except.ok.inj htext
      have hspelled := hunsigned value.toNat value.toNat_lt
      rwa [UInt64.ofNat_toNat] at hspelled
  | signedInteger lexical value =>
      obtain rfl := Except.ok.inj htext
      have hlow := value.le_toInt
      have hhigh := value.toInt_lt
      rw [Number.respelled]
      split
      · rename_i hnegative
        have hsign : value.toInt < 0 := Int64.lt_iff_toInt_lt.mp hnegative
        have hvalue : -(value.toInt.natAbs : Int) = value.toInt := by omega
        have hspelled : SpellsNumber conv (45 :: decimal value.toInt.natAbs) _ :=
          .signedInteger (integerPart_decimal value.toInt.natAbs)
            (by rw [digitsValue_decimal]; omega)
        rwa [digitsValue_decimal, hvalue, Int64.ofInt_toInt] at hspelled
      · exact hunsigned _ (by omega)

/-- Texts with commas between them are spelled one by one. -/
theorem spellsElements_written {texts : List Text}
    (h : List.Forall₂ (fun value text => SpellsValue conv text value) values texts)
    (hne : values ≠ []) : SpellsElements conv (commaSeparated texts) values := by
  induction h with
  | nil => exact absurd rfl hne
  | @cons value text others moreTexts hvalue hothers ih =>
      cases hothers with
      | nil =>
          have hlast := SpellsElements.last blank_nil hvalue blank_nil
          rwa [nil_append, append_nil] at hlast
      | cons hnext hmore =>
          have hnext := SpellsElements.next blank_nil hvalue blank_nil (ih (cons_ne_nil _ _))
          rwa [nil_append, append_nil] at hnext

theorem spellsMembers_written {members : List (Text × Value)} {texts : List Text}
    (h : List.Forall₂ (fun member text => SpellsMember conv text member.1 member.2) members texts)
    (hne : members ≠ []) : SpellsMembers conv (commaSeparated texts) members := by
  induction h with
  | nil => exact absurd rfl hne
  | @cons member text others moreTexts hmember hothers ih =>
      cases hothers with
      | nil => exact .last hmember
      | cons hnext hmore => exact .next hmember (ih (cons_ne_nil _ _))

theorem spellsMember_written {member : Text × Value} (h : MemberText conv member text)
    (hvalue : ∀ written, canonicalize conv member.2 = .ok written → SpellsValue conv written
      value) : SpellsMember conv text member.1 value := by
  obtain ⟨key, written, hkey, hwritten, rfl⟩ := h
  obtain ⟨hutf8, rfl⟩ := appendString_eq hkey
  have hmember := SpellsMember.intro blank_nil (spellsString_written hutf8) blank_nil blank_nil
    (hvalue written hwritten) blank_nil
  simpa using hmember

/-- The members are read in the order they were written, into the map they came from. -/
theorem of_writingOrder (hsorted : SortedKeys members) :
    ((writingOrder members).map Prod.fst).Nodup ∧ Object.of (writingOrder members) = members := by
  have hperm := writingOrder_perm members
  have hdistinct : ((writingOrder members).map Prod.fst).Nodup :=
    (hperm.map Prod.fst).nodup_iff.mpr hsorted.nodup
  obtain ⟨object, hobject, hobjectSorted, hobjectPerm⟩ :=
    emplaceAll_perm List.Pairwise.nil (by rwa [nil_append])
  refine ⟨hdistinct, ?_⟩
  rw [← (emplaceAll_iff.mp hobject).2]
  exact sortedKeys_ext hobjectSorted hsorted (hobjectPerm.trans hperm)

theorem sortedKeys_renumbered (h : SortedKeys members) (f : Number → Number) :
    SortedKeys (members.map (renumberedMember f)) := by
  rw [SortedKeys, pairwise_map]
  exact h

theorem writingOrder_renumbered (members : Object) (f : Number → Number) :
    writingOrder (members.map (renumberedMember f)) =
      (writingOrder members).map (renumberedMember f) := by
  symm
  apply map_insertionSort
  exact fun _ _ _ _ => Iff.rfl

/-- **A canonical text spells the value it was written for**, with each number as its own text
spells it. -/
theorem spellsValue_written {f : Number → Number} (hmaps : value.All Value.IsMap)
    (hnumbers : value.All (Value.IsNumber fun number =>
      ∀ text, canonicalNumber conv number = .ok text → SpellsNumber conv text (f number)))
    (h : canonicalize conv value = .ok text) :
    SpellsValue conv text (value.renumbered f) := by
  induction value using Value.byParts generalizing text with
  | null =>
      obtain rfl := Except.ok.inj h
      exact .nullLiteral
  | boolean value =>
      obtain rfl := Except.ok.inj h
      cases value with
      | true => exact .trueLiteral
      | false => exact .falseLiteral
  | number number => exact .number (all_number.mp hnumbers text h)
  | string string =>
      obtain ⟨hutf8, rfl⟩ := appendString_eq h
      exact .string (spellsString_written hutf8)
  | array values ih =>
      obtain ⟨texts, htexts, rfl⟩ := canonicalize_array h
      obtain ⟨-, hmaps⟩ := all_array.mp hmaps
      obtain ⟨-, hnumbers⟩ := all_array.mp hnumbers
      rw [Value.renumbered, renumberedElements_eq]
      cases values with
      | nil =>
          cases htexts
          exact .emptyArray blank_nil
      | cons first others =>
          refine .array (spellsElements_written ?_ (cons_ne_nil _ _))
          rw [forall₂_map_left_iff]
          refine (forall₂_and_left _ _ |>.mpr ⟨fun value hvalue => hvalue, htexts⟩).imp ?_
          rintro value text ⟨hvalue, htext⟩
          exact ih value hvalue (hmaps value hvalue) (hnumbers value hvalue) htext
  | object members ih =>
      obtain ⟨texts, htexts, rfl⟩ := canonicalize_object h
      obtain ⟨hsorted, hmaps⟩ := all_object.mp hmaps
      obtain ⟨-, hnumbers⟩ := all_object.mp hnumbers
      obtain ⟨hdistinct, hobject⟩ := of_writingOrder (sortedKeys_renumbered hsorted f)
      rw [writingOrder_renumbered] at hdistinct hobject
      rw [Value.renumbered, renumberedMembers_eq, ← hobject]
      have hmember := fun member => (writingOrder_perm members).mem_iff (a := member)
      generalize writingOrder members = ordered at htexts hdistinct hmember
      cases ordered with
      | nil =>
          cases htexts
          exact .emptyObject blank_nil
      | cons first others =>
          refine .object (spellsMembers_written ?_ (cons_ne_nil _ _)) hdistinct
          rw [forall₂_map_left_iff]
          refine (forall₂_and_left _ _ |>.mpr ⟨fun member hmem => hmem, htexts⟩).imp ?_
          rintro member text ⟨hmem, htext⟩
          have hmem := (hmember member).mp hmem
          show SpellsMember conv text member.1 (member.2.renumbered f)
          refine spellsMember_written htext ?_
          intro written hwritten
          exact ih member hmem (hmaps member hmem) (hnumbers member hmem) hwritten

/-- **A canonical text of a value without binary64 numbers is read back as that value.** -/
theorem parse_canonicalize (hplain : value.Plain) (h : canonicalize conv value = .ok text) :
    parse conv text = .ok value.respelled := by
  obtain ⟨hmaps, hintegers⟩ := plain_iff.mp hplain
  have hspelled : SpellsValue conv text (value.renumbered Number.respelled) := by
    refine spellsValue_written hmaps ?_ h
    refine hintegers.imp ?_
    intro number hinteger text htext
    exact spellsNumber_written hinteger htext
  rw [respelled_eq]
  exact parse_spelled ⟨[], text, [], by simp, blank_nil, blank_nil, hspelled⟩

end CpuPrefetch.Protocol.Json
