/-
Canonical texts and the values they stand for.

On values without binary64 numbers, a canonical text determines its value up to how the
integers were spelled, and the value its text: writing and reading are inverse to each
other.  Neither the order in which members were emplaced nor the one in which they were
written makes a difference, since a map has one order and its members are written in
another, that of their keys' UTF-16 units.
-/
import CpuPrefetch.Proofs.Protocol.ReadBack

namespace CpuPrefetch.Protocol.Json

open List

variable {conv : CharConv} {value : Value}

/-! ### Values that are the same -/

/-- The integer, unless the number is a binary64 one. -/
def Number.integer : Number → Option Int
  | .signedInteger _ value => some value.toInt
  | .unsignedInteger _ value => some value.toNat
  | .binary64 _ _ => none

mutual

/-- The values differ at most in how their integers are spelled. -/
def Value.Same : Value → Value → Prop
  | .null, .null => True
  | .boolean left, .boolean right => left = right
  | .number left, .number right => left.integer.isSome = true ∧ left.integer = right.integer
  | .string left, .string right => left = right
  | .array left, .array right => SameElements left right
  | .object left, .object right => SameMembers left right
  | _, _ => False

def SameElements : List Value → List Value → Prop
  | [], [] => True
  | left :: lefts, right :: rights => left.Same right ∧ SameElements lefts rights
  | _, _ => False

def SameMembers : List (Text × Value) → List (Text × Value) → Prop
  | [], [] => True
  | (key, left) :: lefts, (key', right) :: rights =>
      key = key' ∧ left.Same right ∧ SameMembers lefts rights
  | _, _ => False

end

/-- An integer in its canonical spelling. -/
def spelledInteger (value : Int) : Number :=
  if value < 0 then .signedInteger (45 :: decimal value.natAbs) (.ofInt value)
  else .unsignedInteger (decimal value.natAbs) (.ofNat value.natAbs)

variable {number : Number}

theorem respelled_of_integer {value : Int} (h : number.integer = some value) :
    number.respelled = spelledInteger value := by
  cases number with
  | signedInteger lexical word =>
      obtain rfl := Option.some.inj h
      rw [Number.respelled, spelledInteger, Int64.ofInt_toInt]
      exact if_congr Int64.lt_iff_toInt_lt rfl rfl
  | unsignedInteger lexical word =>
      obtain rfl := Option.some.inj h
      rw [Number.respelled, spelledInteger, if_neg (by omega), Int.natAbs_natCast,
        UInt64.ofNat_toNat]
  | binary64 lexical bits => cases h

theorem integer_respelled (number : Number) : number.respelled.integer = number.integer := by
  cases number with
  | signedInteger lexical word =>
      have hlow := word.le_toInt
      have hhigh := word.toInt_lt
      rw [Number.respelled]
      split
      · rfl
      · rename_i hnegative
        have hsign : ¬word.toInt < 0 := fun h => hnegative (Int64.lt_iff_toInt_lt.mpr h)
        rw [Number.integer, Number.integer, UInt64.toNat_ofNat_of_lt' (by
          show word.toInt.natAbs < 2 ^ 64
          omega)]
        exact congrArg some (by omega)
  | unsignedInteger lexical word => rfl
  | binary64 lexical bits => rfl

theorem integer_isSome (h : number.isInteger = true) : number.integer.isSome = true := by
  cases number with
  | binary64 lexical bits => cases h
  | _ => rfl

/-- Integers are spelled alike exactly if they are equal. -/
theorem respelled_number_iff {left right : Number} (h : left.isInteger = true) :
    left.integer = right.integer ↔ left.respelled = right.respelled := by
  constructor
  · intro hsame
    obtain ⟨value, hvalue⟩ := Option.isSome_iff_exists.mp (integer_isSome h)
    rw [respelled_of_integer hvalue, respelled_of_integer (hsame.symm.trans hvalue)]
  · intro hsame
    rw [← integer_respelled left, hsame, integer_respelled]

theorem sameElements_iff {lefts rights : List Value} {f : Value → Value}
    (h : ∀ left ∈ lefts, ∀ right ∈ rights, left.Same right ↔ f left = f right) :
    SameElements lefts rights ↔ lefts.map f = rights.map f := by
  induction lefts generalizing rights with
  | nil => cases rights <;> simp [SameElements]
  | cons left lefts ih =>
      cases rights with
      | nil => simp [SameElements]
      | cons right rights =>
          have hfirst := h left mem_cons_self right mem_cons_self
          have hrest := ih fun left hleft right hright =>
            h left (mem_cons_of_mem _ hleft) right (mem_cons_of_mem _ hright)
          rw [SameElements, hfirst, hrest, map_cons, map_cons, List.cons.injEq]

theorem sameMembers_iff {lefts rights : List (Text × Value)} {f : Text × Value → Text × Value}
    (hkey : ∀ member, (f member).1 = member.1)
    (h : ∀ left ∈ lefts, ∀ right ∈ rights, left.2.Same right.2 ↔ (f left).2 = (f right).2) :
    SameMembers lefts rights ↔ lefts.map f = rights.map f := by
  induction lefts generalizing rights with
  | nil => cases rights <;> simp [SameMembers]
  | cons left lefts ih =>
      cases rights with
      | nil => simp [SameMembers]
      | cons right rights =>
          have hfirst := h left mem_cons_self right mem_cons_self
          have hrest := ih fun left hleft right hright =>
            h left (mem_cons_of_mem _ hleft) right (mem_cons_of_mem _ hright)
          rw [SameMembers, hfirst, hrest, map_cons, map_cons, List.cons.injEq,
            Prod.ext_iff, hkey, hkey, and_assoc]

variable {left right : Value}

/-- Values without binary64 numbers are the same exactly if they are read back alike. -/
theorem same_iff_respelled (h : left.All (Value.IsNumber fun number => number.isInteger = true)) :
    left.Same right ↔ left.respelled = right.respelled := by
  induction left using Value.byParts generalizing right with
  | null => cases right <;> simp [Value.Same, Value.respelled]
  | boolean value => cases right <;> simp [Value.Same, Value.respelled]
  | number number =>
      cases right with
      | number other =>
          have hinteger : number.isInteger = true := all_number.mp h
          rw [Value.Same, Value.respelled, Value.respelled, Value.number.injEq,
            ← respelled_number_iff hinteger]
          exact and_iff_right (integer_isSome hinteger)
      | _ => simp [Value.Same, Value.respelled]
  | string text => cases right <;> simp [Value.Same, Value.respelled]
  | array values ih =>
      cases right with
      | array others =>
          rw [Value.Same, Value.respelled, Value.respelled, Value.array.injEq, respelledElements_eq,
            respelledElements_eq]
          exact sameElements_iff fun value hvalue other _ =>
            ih value hvalue ((all_array.mp h).2 value hvalue)
      | _ => simp [Value.Same, Value.respelled]
  | object members ih =>
      cases right with
      | object others =>
          rw [Value.Same, Value.respelled, Value.respelled, Value.object.injEq, respelledMembers_eq,
            respelledMembers_eq]
          exact sameMembers_iff (fun _ => rfl) fun member hmember other _ =>
            ih member hmember ((all_object.mp h).2 member hmember)
      | _ => simp [Value.Same, Value.respelled]

/-- A canonical spelling is its own. -/
theorem respelled_idem (h : value.All (Value.IsNumber fun number => number.isInteger = true)) :
    value.respelled.respelled = value.respelled := by
  induction value using Value.byParts with
  | null => rfl
  | boolean value => rfl
  | number number =>
      obtain ⟨integer, hinteger⟩ := Option.isSome_iff_exists.mp (integer_isSome (all_number.mp h))
      have hrespelled := (integer_respelled number).trans hinteger
      show Value.number _ = Value.number _
      rw [respelled_of_integer hrespelled, respelled_of_integer hinteger]
  | string text => rfl
  | array values ih =>
      obtain ⟨-, hvalues⟩ := all_array.mp h
      rw [Value.respelled, Value.respelled, respelledElements_eq, respelledElements_eq, map_map]
      exact congrArg Value.array (map_congr_left fun value hvalue =>
        ih value hvalue (hvalues value hvalue))
  | object members ih =>
      obtain ⟨-, hmembers⟩ := all_object.mp h
      rw [Value.respelled, Value.respelled, respelledMembers_eq, respelledMembers_eq, map_map]
      refine congrArg Value.object (map_congr_left ?_)
      intro member hmember
      rw [Function.comp, respelledMember, respelledMember,
        ih member hmember (hmembers member hmember)]

/-! ### The domain -/

/-- A value of the source without binary64 numbers, whose strings and keys are UTF-8. -/
structure Value.InDomain (value : Value) : Prop where
  maps : value.All Value.IsMap
  encoded : value.All Value.IsEncoded
  integers : value.All (Value.IsNumber fun number => number.isInteger = true)

theorem Value.InDomain.plain (h : value.InDomain) : value.Plain :=
  plain_iff.mpr ⟨h.maps, h.integers⟩

theorem canonicalNumber_integer (h : number.isInteger = true) :
    ∃ text, canonicalNumber conv number = .ok text := by
  cases number with
  | binary64 lexical bits => cases h
  | _ => exact ⟨_, rfl⟩

theorem Value.InDomain.hasForm (h : value.InDomain) : HasForm conv value :=
  hasForm_iff.mpr ⟨h.encoded, h.integers.imp fun _ hinteger => canonicalNumber_integer hinteger⟩

/-- How an integer is spelled makes no difference to its canonical form. -/
theorem canonicalNumber_respelled (h : number.isInteger = true) :
    canonicalNumber conv number.respelled = canonicalNumber conv number := by
  cases number with
  | signedInteger lexical word =>
      rw [Number.respelled]
      split
      · rfl
      · rename_i hnegative
        have hhigh := word.toInt_lt
        have hlow := word.le_toInt
        rw [canonicalNumber, canonicalNumber, if_neg hnegative, UInt64.toNat_ofNat_of_lt' (by
          show word.toInt.natAbs < 2 ^ 64
          omega)]
  | unsignedInteger lexical word => rfl
  | binary64 lexical bits => cases h

theorem canonicalize_respelled
    (h : value.All (Value.IsNumber fun number => number.isInteger = true)) :
    canonicalize conv value.respelled = canonicalize conv value := by
  rw [respelled_eq]
  exact canonicalize_renumbered (h.imp fun _ hinteger => canonicalNumber_respelled hinteger)

/-- Values with one canonical text are the same. -/
theorem same_of_canonicalize (hleft : left.InDomain) (hright : right.InDomain)
    (h : canonicalize conv left = canonicalize conv right) : left.Same right := by
  obtain ⟨text, htext⟩ : HasForm conv left := hleft.hasForm
  have hread := parse_canonicalize hleft.plain htext
  rw [parse_canonicalize hright.plain (h.symm.trans htext)] at hread
  exact (same_iff_respelled hleft.integers).mpr (Except.ok.inj hread).symm

/-- The same values have one canonical text. -/
theorem canonicalize_of_same (hleft : left.InDomain) (hright : right.InDomain)
    (h : left.Same right) : canonicalize conv left = canonicalize conv right := by
  rw [← canonicalize_respelled hleft.integers, ← canonicalize_respelled hright.integers,
    (same_iff_respelled hleft.integers).mp h]

/-! ### The order of members -/

variable {members : List (Text × Value)}

/-- A map does not depend on the order its members were emplaced in. -/
theorem of_perm {others : List (Text × Value)} (hkeys : (members.map Prod.fst).Nodup)
    (h : members.Perm others) : Object.of members = Object.of others := by
  have hothers : (others.map Prod.fst).Nodup := (h.map Prod.fst).nodup_iff.mp hkeys
  obtain ⟨object, hobject, hsorted, hperm⟩ :=
    emplaceAll_perm List.Pairwise.nil (by rwa [nil_append] : (([] ++ members).map _).Nodup)
  obtain ⟨object', hobject', hsorted', hperm'⟩ :=
    emplaceAll_perm List.Pairwise.nil (by rwa [nil_append] : (([] ++ others).map _).Nodup)
  rw [← (emplaceAll_iff.mp hobject).2, ← (emplaceAll_iff.mp hobject').2]
  exact sortedKeys_ext hsorted hsorted' ((hperm.trans h).trans hperm'.symm)

/-- The characters of the two keys, in the order of their UTF-16 units. -/
def Utf16Before (left right : Text) : Prop :=
  ∃ leftChars rightChars, left = utf8 leftChars ∧ right = utf8 rightChars ∧
    utf16 leftChars < utf16 rightChars

theorem unitsOf_utf8 (chars : List Char) : unitsOf (utf8 chars) = utf16 chars := by
  rw [unitsOf, utf16Key_utf8]
  rfl

/-- The members of a map are written in strictly increasing order of their keys' UTF-16 units. -/
theorem writingOrder_strict {members : Object} (hsorted : SortedKeys members)
    (hkeys : ∀ member ∈ members, IsUtf8 member.1) :
    (writingOrder members).Pairwise fun left right => Utf16Before left.1 right.1 := by
  have hperm := writingOrder_perm members
  have hdistinct : ((writingOrder members).map Prod.fst).Nodup :=
    (hperm.map Prod.fst).nodup_iff.mpr hsorted.nodup
  rw [List.Nodup, pairwise_map] at hdistinct
  have hordered : (writingOrder members).Pairwise fun left right =>
      unitsOf left.1 ≤ unitsOf right.1 := by
    refine @List.pairwise_insertionSort _ _ _ ⟨fun left right => ?_⟩ ⟨fun a b c => ?_⟩ members
    · exact List.le_total _ _
    · exact List.le_trans
  refine (hordered.and hdistinct).imp_of_mem ?_
  rintro left right hleft hright ⟨hle, hne⟩
  obtain ⟨leftChars, hleftChars⟩ := isUtf8_iff.mp (hkeys left (hperm.mem_iff.mp hleft))
  obtain ⟨rightChars, hrightChars⟩ := isUtf8_iff.mp (hkeys right (hperm.mem_iff.mp hright))
  refine ⟨leftChars, rightChars, hleftChars, hrightChars, ?_⟩
  rw [hleftChars, hrightChars, unitsOf_utf8, unitsOf_utf8] at hle
  refine (List.le_iff_lt_or_eq.mp hle).resolve_right ?_
  intro hsame
  rw [hleftChars, hrightChars, utf16_inj hsame] at hne
  exact hne rfl

/-! ### What is read -/

variable {body : Text}

theorem spellsElements_mem {values : List Value} (h : SpellsElements conv body values) :
    ∀ value ∈ values, ∃ text, SpellsValue conv text value := by
  induction values generalizing body with
  | nil => cases h
  | cons first rest ih =>
      rw [forall_mem_cons]
      cases h with
      | last hbefore hvalue hafter =>
          exact ⟨⟨_, hvalue⟩, fun value hvalue => by cases hvalue⟩
      | next hbefore hvalue hafter hrest => exact ⟨⟨_, hvalue⟩, ih hrest⟩

theorem spellsMembers_mem (h : SpellsMembers conv body members) :
    ∀ member ∈ members, IsUtf8 member.1 ∧ ∃ text, SpellsValue conv text member.2 := by
  have hone : ∀ {body key : Text} {value : Value}, SpellsMember conv body key value →
      IsUtf8 key ∧ ∃ text, SpellsValue conv text value := by
    intro body key value hmember
    cases hmember with
    | intro hbefore hname hmiddle hbefore' hvalue hafter =>
        exact ⟨isUtf8_iff.mpr hname.2, _, hvalue⟩
  induction members generalizing body with
  | nil => cases h
  | cons first rest ih =>
      rw [forall_mem_cons]
      cases h with
      | last hmember => exact ⟨hone hmember, fun member hmember => by cases hmember⟩
      | next hmember hrest => exact ⟨hone hmember, ih hrest⟩

/-- In what is read, objects are maps, strings and keys are UTF-8, and numbers are spelled. -/
theorem spellsValue_all {text : Text} (h : SpellsValue conv text value) :
    value.All Value.IsMap ∧ value.All Value.IsEncoded ∧
      value.All (Value.IsNumber fun number => ∃ text, SpellsNumber conv text number) := by
  induction value using Value.byParts generalizing text with
  | null => exact ⟨all_null.mpr trivial, all_null.mpr trivial, all_null.mpr trivial⟩
  | boolean value => exact ⟨all_boolean.mpr trivial, all_boolean.mpr trivial,
    all_boolean.mpr trivial⟩
  | number number =>
      refine ⟨all_number.mpr trivial, all_number.mpr trivial, all_number.mpr ?_⟩
      cases h with
      | number hnumber => exact ⟨_, hnumber⟩
  | string string =>
      cases h with
      | string hstring =>
          exact ⟨all_string.mpr trivial, all_string.mpr (isUtf8_iff.mpr hstring.2),
            all_string.mpr trivial⟩
  | array values ih =>
      have hparts : ∀ value ∈ values, ∃ text, SpellsValue conv text value := by
        cases h with
        | emptyArray hblank => exact fun value hvalue => by cases hvalue
        | array hvalues => exact spellsElements_mem hvalues
      have hall := fun value hvalue => ih value hvalue (hparts value hvalue).choose_spec
      rw [all_array, all_array, all_array]
      exact ⟨⟨trivial, fun value hvalue => (hall value hvalue).1⟩, ⟨trivial, fun value hvalue =>
        (hall value hvalue).2.1⟩, trivial, fun value hvalue => (hall value hvalue).2.2⟩
  | object members ih =>
      have hparts : SortedKeys members ∧
          ∀ member ∈ members, IsUtf8 member.1 ∧ ∃ text, SpellsValue conv text member.2 := by
        cases h with
        | emptyObject hblank => exact ⟨.nil, fun member hmember => by cases hmember⟩
        | @object body written hmembers hdistinct =>
            refine ⟨of_sorted written, ?_⟩
            intro member hmember
            exact spellsMembers_mem hmembers member ((mem_of hdistinct member).mp hmember)
      obtain ⟨hsorted, hparts⟩ := hparts
      have hall := fun member hmember =>
        ih member hmember (hparts member hmember).2.choose_spec
      rw [all_object, all_object, all_object]
      exact ⟨⟨hsorted, fun member hmember => (hall member hmember).1⟩,
        ⟨fun member hmember => (hparts member hmember).1,
          fun member hmember => (hall member hmember).2.1⟩,
        trivial, fun member hmember => (hall member hmember).2.2⟩

/-- What is read, unless it has a binary64 number, is in the domain. -/
theorem inDomain_parse {text : Text} (h : parse conv text = .ok value)
    (hintegers : value.All (Value.IsNumber fun number => number.isInteger = true)) :
    value.InDomain := by
  obtain ⟨before, body, after, -, -, -, hbody⟩ := spellsDocument_parse h
  obtain ⟨hmaps, hencoded, -⟩ := spellsValue_all hbody
  exact ⟨hmaps, hencoded, hintegers⟩

/-- Members may be written in any order. -/
theorem spellsValue_perm {body' : Text} {members' : List (Text × Value)}
    (h : SpellsMembers conv body members) (h' : SpellsMembers conv body' members')
    (hkeys : (members.map Prod.fst).Nodup) (hperm : members.Perm members') :
    SpellsValue conv (123 :: body ++ [125]) (.object (Object.of members)) ∧
      SpellsValue conv (123 :: body' ++ [125]) (.object (Object.of members)) := by
  refine ⟨.object h hkeys, ?_⟩
  rw [of_perm hkeys hperm]
  exact .object h' ((hperm.map Prod.fst).nodup_iff.mp hkeys)

/-- A value in the domain is written, and read back as the same value. -/
theorem parse_same (h : value.InDomain) :
    ∃ text read, canonicalize conv value = .ok text ∧ parse conv text = .ok read ∧
      value.Same read ∧ canonicalize conv read = .ok text := by
  obtain ⟨text, htext⟩ : HasForm conv value := h.hasForm
  refine ⟨text, value.respelled, htext, parse_canonicalize h.plain htext, ?_, ?_⟩
  · exact (same_iff_respelled h.integers).mpr (respelled_idem h.integers).symm
  · rw [canonicalize_respelled h.integers, htext]

/-- The members of an object are written one by one, in the order of their keys' UTF-16 units. -/
theorem canonicalize_members {members : Object} (h : (Value.object members).InDomain) :
    ∃ ordered texts, canonicalize conv (.object members) =
      .ok (123 :: commaSeparated texts ++ [125]) ∧
      List.Forall₂ (MemberText conv) ordered texts ∧ ordered.Perm members ∧
      ordered.Pairwise fun left right => Utf16Before left.1 right.1 := by
  obtain ⟨text, htext⟩ : HasForm conv (.object members) := h.hasForm
  obtain ⟨texts, htexts, rfl⟩ := canonicalize_object htext
  exact ⟨writingOrder members, texts, htext, htexts, writingOrder_perm members,
    writingOrder_strict (all_object.mp h.maps).1 (all_object.mp h.encoded).1⟩

/-- **Writing and reading are inverse** on the values without binary64 numbers whose strings are
UTF-8: a value is written, and read back as the same value; different values are written
differently; members emplaced or written in another order are the same object, and are written in
strictly increasing UTF-16 order; and what is written for a value that was read is a fixpoint. -/
theorem canonical_round_trip (conv : CharConv) :
    (∀ value : Value, value.InDomain → ∃ text read, canonicalize conv value = .ok text ∧
      parse conv text = .ok read ∧ value.Same read) ∧
    (∀ left right : Value, left.InDomain → right.InDomain →
      (canonicalize conv left = canonicalize conv right ↔ left.Same right)) ∧
    (∀ members others : List (Text × Value), (members.map Prod.fst).Nodup → members.Perm others →
      Object.of members = Object.of others ∧ canonicalize conv (.object (Object.of members)) =
        canonicalize conv (.object (Object.of others))) ∧
    (∀ body body' members members', SpellsMembers conv body members →
      SpellsMembers conv body' members' → (members.map Prod.fst).Nodup → members.Perm members' →
      ∃ value, SpellsValue conv (123 :: body ++ [125]) value ∧
        SpellsValue conv (123 :: body' ++ [125]) value ∧
        parse conv (123 :: body ++ [125]) = .ok value ∧
        parse conv (123 :: body' ++ [125]) = .ok value) ∧
    (∀ members : Object, (Value.object members).InDomain → ∃ ordered texts,
      canonicalize conv (.object members) = .ok (123 :: commaSeparated texts ++ [125]) ∧
        List.Forall₂ (MemberText conv) ordered texts ∧ ordered.Perm members ∧
        ordered.Pairwise fun left right => Utf16Before left.1 right.1) ∧
    (∀ text value, parse conv text = .ok value →
      value.All (Value.IsNumber fun number => number.isInteger = true) →
      ∃ canonical read, canonicalize conv value = .ok canonical ∧
        parse conv canonical = .ok read ∧ canonicalize conv read = .ok canonical) := by
  refine ⟨?_, ?_, ?_, ?_, fun members => canonicalize_members, ?_⟩
  · intro value h
    obtain ⟨text, read, htext, hread, hsame, -⟩ := parse_same h
    exact ⟨text, read, htext, hread, hsame⟩
  · intro left right hleft hright
    exact ⟨same_of_canonicalize hleft hright, canonicalize_of_same hleft hright⟩
  · intro members others hkeys hperm
    have hsame := of_perm hkeys hperm
    exact ⟨hsame, by rw [hsame]⟩
  · intro body body' members members' h h' hkeys hperm
    obtain ⟨hfirst, hsecond⟩ := spellsValue_perm h h' hkeys hperm
    have hdocument : ∀ {text : Text} {value : Value}, SpellsValue conv text value →
        parse conv text = .ok value :=
      fun hspelled => parse_spelled ⟨[], _, [], by simp, blank_nil, blank_nil, hspelled⟩
    exact ⟨_, hfirst, hsecond, hdocument hfirst, hdocument hsecond⟩
  · intro text value hvalue hintegers
    obtain ⟨canonical, read, hcanonical, hread, -, hfixed⟩ :=
      parse_same (inDomain_parse hvalue hintegers)
    exact ⟨canonical, read, hcanonical, hread, hfixed⟩

/-- An object with an integer and a string. -/
def sampleObject : Value :=
  .object [(ascii "count", .number (.unsignedInteger (ascii "1") 1)),
    (ascii "name", .string [0xc3, 0xa9])]

theorem sampleObject_inDomain : sampleObject.InDomain := by
  constructor
  · refine all_object.mpr ⟨?_, ?_⟩
    · exact List.pairwise_pair.mpr (by decide)
    · simp [all_number, all_string, Value.IsMap]
  · refine all_object.mpr ⟨?_, ?_⟩
    · intro member hmember
      fin_cases hmember <;> exact isUtf8_ascii (by decide)
    · simp only [forall_mem_cons, all_number, all_string]
      exact ⟨trivial, ⟨[0xe9], by decide⟩, fun member hmember => by cases hmember⟩
  · refine all_object.mpr ⟨trivial, ?_⟩
    simp [all_number, all_string, Value.IsNumber, Number.isInteger]

theorem canonical_round_trip_sample :
    ∃ text read, canonicalize ⟨fun _ => none, fun _ => none⟩ sampleObject = .ok text ∧
      parse ⟨fun _ => none, fun _ => none⟩ text = .ok read ∧ sampleObject.Same read :=
  (canonical_round_trip ⟨fun _ => none, fun _ => none⟩).1 sampleObject sampleObject_inDomain

end CpuPrefetch.Protocol.Json
