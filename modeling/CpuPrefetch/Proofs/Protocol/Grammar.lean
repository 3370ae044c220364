/-
The parser accepts exactly its grammar.

The parser calls itself with one unit of fuel less, so each direction is an induction on
the fuel, for values and for the two loops at once.  What a call read is spelled by its
rule; what a rule spells is read by a call with enough fuel for its bytes, whatever stops
it afterwards.  The fuel itself never matters: a call that has enough of it returns what
every call with more returns, failures included.
-/
import CpuPrefetch.Proofs.Protocol.GrammarTokens
import CpuPrefetch.Proofs.Protocol.Maps

namespace CpuPrefetch.Protocol.Json

open List

variable {conv : CharConv}

/-! ### One call -/

theorem skipSpace_cons {first : UInt8} (rest : Text) (h : isSpace first = false) :
    skipSpace (first :: rest) = first :: rest := by
  rw [skipSpace, dropWhile_cons_of_neg (by rw [h]; decide)]

variable {input rest : Text} {path : String} {value : Value}

theorem parseLiteral_iff {literal : Text} {found : Value} :
    parseLiteral literal value path input = .ok (found, rest) ↔
      input = literal ++ rest ∧ found = value := by
  unfold parseLiteral
  constructor
  · intro h
    split at h
    · rename_i htaken
      obtain ⟨rfl, rfl⟩ := Prod.mk.inj (Except.ok.inj h)
      refine ⟨?_, rfl⟩
      conv_lhs => rw [← take_append_drop literal.length input, htaken]
    · cases h
  · rintro ⟨rfl, rfl⟩
    rw [take_left, if_pos rfl, drop_left]

theorem parseLiteral_written (literal : Text) (value : Value) (path : String) (rest : Text) :
    parseLiteral literal value path (literal ++ rest) = .ok (value, rest) :=
  parseLiteral_iff.mpr ⟨rfl, rfl⟩

variable {fuel : Nat}

/-- What a successful call on a value has read, by the byte the value begins with. -/
theorem parseValue_cases (h : parseValue conv (fuel + 1) path input = .ok (value, rest)) :
    (input = ascii "null" ++ rest ∧ value = .null) ∨
    (input = ascii "true" ++ rest ∧ value = .boolean true) ∨
    (input = ascii "false" ++ rest ∧ value = .boolean false) ∨
    (∃ after text, input = 34 :: after ∧ parseString path [] after = .ok (text, rest) ∧
      value = .string text) ∨
    (∃ after, input = 91 :: after ∧ skipSpace after = 93 :: rest ∧ value = .array []) ∨
    (∃ after values, input = 91 :: after ∧
      parseElements conv fuel path 0 (skipSpace after) = .ok (values, rest) ∧
      value = .array values) ∨
    (∃ after, input = 123 :: after ∧ skipSpace after = 125 :: rest ∧ value = .object []) ∨
    (∃ after members, input = 123 :: after ∧
      parseMembers conv fuel path [] (skipSpace after) = .ok (members, rest) ∧
      value = .object members) ∨
    parseNumber conv path input = .ok (value, rest) := by
  cases input with
  | nil => cases h
  | cons first after =>
      rw [parseValue.eq_def] at h
      simp only at h
      split at h
      · exact .inl (parseLiteral_iff.mp h)
      split at h
      · exact .inr (.inl (parseLiteral_iff.mp h))
      split at h
      · exact .inr (.inr (.inl (parseLiteral_iff.mp h)))
      split at h
      · rename_i hfirst
        obtain ⟨⟨text, others⟩, htext, h⟩ := Fallible.bind_ok h
        obtain ⟨rfl, rfl⟩ := Prod.mk.inj (Except.ok.inj h)
        exact .inr (.inr (.inr (.inl ⟨after, text, by rw [hfirst], htext, rfl⟩)))
      split at h
      · rename_i hfirst
        split at h
        · rename_i hclosed
          obtain ⟨rfl, rfl⟩ := Prod.mk.inj (Except.ok.inj h)
          exact .inr (.inr (.inr (.inr (.inl ⟨after, by rw [hfirst], hclosed, rfl⟩))))
        · obtain ⟨⟨values, others⟩, hvalues, h⟩ := Fallible.bind_ok h
          obtain ⟨rfl, rfl⟩ := Prod.mk.inj (Except.ok.inj h)
          exact .inr (.inr (.inr (.inr (.inr (.inl
            ⟨after, values, by rw [hfirst], hvalues, rfl⟩)))))
      split at h
      · rename_i hfirst
        split at h
        · rename_i hclosed
          obtain ⟨rfl, rfl⟩ := Prod.mk.inj (Except.ok.inj h)
          exact .inr (.inr (.inr (.inr (.inr (.inr (.inl
            ⟨after, by rw [hfirst], hclosed, rfl⟩))))))
        · obtain ⟨⟨members, others⟩, hmembers, h⟩ := Fallible.bind_ok h
          obtain ⟨rfl, rfl⟩ := Prod.mk.inj (Except.ok.inj h)
          exact .inr (.inr (.inr (.inr (.inr (.inr (.inr (.inl
            ⟨after, members, by rw [hfirst], hmembers, rfl⟩)))))))
      split at h
      · exact .inr (.inr (.inr (.inr (.inr (.inr (.inr (.inr h)))))))
      · cases h

variable {after text : Text}

theorem parseValue_string (h : parseString path [] after = .ok (text, rest)) :
    parseValue conv (fuel + 1) path (34 :: after) = .ok (.string text, rest) := by
  rw [parseValue.eq_def]
  simp only
  rw [if_neg (by decide), if_neg (by decide), if_neg (by decide), if_pos trivial, h]
  rfl

theorem parseValue_emptyArray (h : skipSpace after = 93 :: rest) :
    parseValue conv (fuel + 1) path (91 :: after) = .ok (.array [], rest) := by
  rw [parseValue.eq_def]
  simp only
  rw [if_neg (by decide), if_neg (by decide), if_neg (by decide), if_neg (by decide),
    if_pos trivial, h]
  rfl

theorem parseValue_array (hopen : (skipSpace after).head? ≠ some 93) :
    parseValue conv (fuel + 1) path (91 :: after) = (do
      let (values, rest) ← parseElements conv fuel path 0 (skipSpace after)
      .ok (.array values, rest)) := by
  rw [parseValue.eq_def]
  simp only
  rw [if_neg (by decide), if_neg (by decide), if_neg (by decide), if_neg (by decide),
    if_pos trivial]
  split
  · rename_i hclosed
    rw [hclosed] at hopen
    exact absurd rfl hopen
  · rfl

theorem parseValue_emptyObject (h : skipSpace after = 125 :: rest) :
    parseValue conv (fuel + 1) path (123 :: after) = .ok (.object [], rest) := by
  rw [parseValue.eq_def]
  simp only
  rw [if_neg (by decide), if_neg (by decide), if_neg (by decide), if_neg (by decide),
    if_neg (by decide), if_pos trivial, h]
  rfl

theorem parseValue_object (hopen : (skipSpace after).head? ≠ some 125) :
    parseValue conv (fuel + 1) path (123 :: after) = (do
      let (members, rest) ← parseMembers conv fuel path [] (skipSpace after)
      .ok (.object members, rest)) := by
  rw [parseValue.eq_def]
  simp only
  rw [if_neg (by decide), if_neg (by decide), if_neg (by decide), if_neg (by decide),
    if_neg (by decide), if_pos trivial]
  split
  · rename_i hclosed
    rw [hclosed] at hopen
    exact absurd rfl hopen
  · rfl

theorem parseValue_number (path : String) {first : UInt8} (rest : Text)
    (h : (first = 45 || isDigit first) = true) :
    parseValue conv (fuel + 1) path (first :: rest) = parseNumber conv path (first :: rest) := by
  have hother : first ≠ 110 ∧ first ≠ 116 ∧ first ≠ 102 ∧ first ≠ 34 ∧ first ≠ 91 ∧
      first ≠ 123 := by
    revert h
    exact forall_byte (p := fun first => (first = 45 || isDigit first) = true →
      first ≠ 110 ∧ first ≠ 116 ∧ first ≠ 102 ∧ first ≠ 34 ∧ first ≠ 91 ∧ first ≠ 123)
      (by decide) first
  obtain ⟨hnull, htrue, hfalse, hstring, harray, hobject⟩ := hother
  rw [parseValue.eq_def]
  simp only
  rw [if_neg hnull, if_neg htrue, if_neg hfalse, if_neg hstring, if_neg harray, if_neg hobject,
    if_pos h]

variable {values : List Value}

/-- One turn of the loop over an array. -/
theorem parseElements_iff {index : Nat} :
    parseElements conv (fuel + 1) path index input = .ok (values, rest) ↔
      ∃ value after, parseValue conv fuel (path ++ "/" ++ toString index) input =
          .ok (value, after) ∧
        ((skipSpace after = 93 :: rest ∧ values = [value]) ∨
          ∃ next others, skipSpace after = 44 :: next ∧
            parseElements conv fuel path (index + 1) (skipSpace next) = .ok (others, rest) ∧
            values = value :: others) := by
  rw [parseElements]
  constructor
  · intro h
    obtain ⟨⟨value, after⟩, hvalue, h⟩ := Fallible.bind_ok h
    refine ⟨value, after, hvalue, ?_⟩
    simp only at h
    split at h
    · cases h
    · rename_i hclosed
      obtain ⟨rfl, rfl⟩ := Prod.mk.inj (Except.ok.inj h)
      exact .inl ⟨hclosed, rfl⟩
    · rename_i next hcomma
      obtain ⟨⟨others, more⟩, hothers, h⟩ := Fallible.bind_ok h
      obtain ⟨rfl, rfl⟩ := Prod.mk.inj (Except.ok.inj h)
      exact .inr ⟨next, others, hcomma, hothers, rfl⟩
    · cases h
  · rintro ⟨value, after, hvalue, ⟨hclosed, rfl⟩ | ⟨next, others, hcomma, hothers, rfl⟩⟩
    · simp only [hvalue, hclosed, bind, Except.bind]
    · simp only [hvalue, hcomma, hothers, bind, Except.bind]

/-- One turn of the loop over an object. -/
theorem parseMembers_iff {read object : Object} :
    parseMembers conv (fuel + 1) path read input = .ok (object, rest) ↔
      ∃ name key colon before value after next, input = 34 :: name ∧
        parseString path [] name = .ok (key, colon) ∧ skipSpace colon = 58 :: before ∧
        parseValue conv fuel (path ++ "/" ++ key.shown) (skipSpace before) = .ok (value, after) ∧
        Object.emplace key value read = some next ∧
        ((skipSpace after = 125 :: rest ∧ object = next) ∨
          ∃ more, skipSpace after = 44 :: more ∧
            parseMembers conv fuel path next (skipSpace more) = .ok (object, rest)) := by
  constructor
  · intro h
    cases input with
    | nil => cases h
    | cons first name =>
        rw [parseMembers.eq_def] at h
        simp only at h
        split at h
        · cases h
        · rename_i hquote
          obtain rfl := not_not.mp hquote
          obtain ⟨⟨key, colon⟩, hkey, h⟩ := Fallible.bind_ok h
          simp only at h
          split at h
          · rename_i before hcolon
            obtain ⟨⟨value, after⟩, hvalue, h⟩ := Fallible.bind_ok h
            simp only at h
            split at h
            · cases h
            · rename_i next hnext
              refine ⟨name, key, colon, before, value, after, next, rfl, hkey, hcolon, hvalue,
                hnext, ?_⟩
              split at h
              · cases h
              · rename_i hclosed
                obtain ⟨rfl, rfl⟩ := Prod.mk.inj (Except.ok.inj h)
                exact .inl ⟨hclosed, rfl⟩
              · rename_i more hcomma
                exact .inr ⟨more, hcomma, h⟩
              · cases h
          · cases h
  · rintro ⟨name, key, colon, before, value, after, next, rfl, hkey, hcolon, hvalue, hnext, hend⟩
    rw [parseMembers.eq_def]
    simp only [ne_eq, not_true_eq_false, ↓reduceIte, hkey, hcolon, hvalue, hnext, bind,
      Except.bind]
    rcases hend with ⟨hclosed, rfl⟩ | ⟨more, hcomma, hmore⟩
    · simp only [hclosed]
    · simp only [hcomma, hmore]

/-! ### What is read is spelled -/

variable {before body : Text}

theorem spellsElements_blank (hbefore : Blank before) (h : SpellsElements conv body values) :
    SpellsElements conv (before ++ body) values := by
  cases h with
  | @last blank text after value hblank hvalue hafter =>
      have hall : SpellsElements conv (before ++ blank ++ text ++ after) [value] :=
        .last (blank_append hbefore hblank) hvalue hafter
      simpa only [append_assoc] using hall
  | @next blank text after rest value values hblank hvalue hafter hrest =>
      have hall : SpellsElements conv (before ++ blank ++ text ++ after ++ 44 :: rest)
          (value :: values) := .next (blank_append hbefore hblank) hvalue hafter hrest
      simpa only [append_assoc] using hall

theorem spellsMember_blank {key : Text} (hbefore : Blank before)
    (h : SpellsMember conv body key value) : SpellsMember conv (before ++ body) key value := by
  cases h with
  | @intro blank name middle before' text after key value hblank hname hmiddle hbefore' hvalue
      hafter =>
      have hall : SpellsMember conv (before ++ blank ++ 34 :: name ++ 34 :: middle ++
        58 :: before' ++
          text ++ after) key value :=
        .intro (blank_append hbefore hblank) hname hmiddle hbefore' hvalue hafter
      simpa only [append_assoc] using hall

theorem spellsMembers_blank {members : List (Text × Value)} (hbefore : Blank before)
    (h : SpellsMembers conv body members) : SpellsMembers conv (before ++ body) members := by
  cases h with
  | last hmember => exact .last (spellsMember_blank hbefore hmember)
  | next hmember hrest =>
      rw [← append_assoc]
      exact .next (spellsMember_blank hbefore hmember) hrest

/-- With this fuel, what the calls read is spelled by their rules. -/
structure Sound (conv : CharConv) (fuel : Nat) : Prop where
  value : ∀ {path : String} {input rest : Text} {value : Value},
    parseValue conv fuel path input = .ok (value, rest) →
    ∃ text, input = text ++ rest ∧ SpellsValue conv text value
  elements : ∀ {path : String} {index : Nat} {input rest : Text} {values : List Value},
    parseElements conv fuel path index input = .ok (values, rest) →
    ∃ body, input = body ++ 93 :: rest ∧ SpellsElements conv body values
  members : ∀ {path : String} {read object : Object} {input rest : Text},
    parseMembers conv fuel path read input = .ok (object, rest) →
    ∃ body written, input = body ++ 125 :: rest ∧ SpellsMembers conv body written ∧
      emplaceAll read written = some object

/-- What a space is skipped before begins after a blank. -/
theorem skipSpace_eq (h : skipSpace input = rest) :
    ∃ blank, Blank blank ∧ input = blank ++ rest := by
  obtain ⟨blank, hblank, hinput⟩ := skipSpace_split input
  exact ⟨blank, hblank, hinput.trans (by rw [h])⟩

theorem Sound.value_step {fuel : Nat} (ih : Sound conv fuel) {path : String} {input rest : Text}
    {value : Value} (h : parseValue conv (fuel + 1) path input = .ok (value, rest)) :
    ∃ text, input = text ++ rest ∧ SpellsValue conv text value := by
  rcases parseValue_cases h with ⟨rfl, rfl⟩ | ⟨rfl, rfl⟩ | ⟨rfl, rfl⟩ |
    ⟨after, text, rfl, htext, rfl⟩ | ⟨after, rfl, hclosed, rfl⟩ |
    ⟨after, values, rfl, hvalues, rfl⟩ | ⟨after, rfl, hclosed, rfl⟩ |
    ⟨after, members, rfl, hmembers, rfl⟩ | hnumber
  · exact ⟨_, rfl, .nullLiteral⟩
  · exact ⟨_, rfl, .trueLiteral⟩
  · exact ⟨_, rfl, .falseLiteral⟩
  · obtain ⟨body, rfl, hbody⟩ := parseString_iff.mp htext
    exact ⟨34 :: body ++ [34], by simp, .string hbody⟩
  · obtain ⟨blank, hblank, rfl⟩ := skipSpace_eq hclosed
    exact ⟨91 :: blank ++ [93], by simp, .emptyArray hblank⟩
  · obtain ⟨body, hinput, hbody⟩ := ih.elements hvalues
    obtain ⟨blank, hblank, rfl⟩ := skipSpace_eq hinput
    exact ⟨91 :: (blank ++ body) ++ [93], by simp, .array (spellsElements_blank hblank hbody)⟩
  · obtain ⟨blank, hblank, rfl⟩ := skipSpace_eq hclosed
    exact ⟨123 :: blank ++ [125], by simp, .emptyObject hblank⟩
  · obtain ⟨body, written, hinput, hbody, hobject⟩ := ih.members hmembers
    obtain ⟨blank, hblank, rfl⟩ := skipSpace_eq hinput
    obtain ⟨hdistinct, rfl⟩ := emplaceAll_iff.mp hobject
    exact ⟨123 :: (blank ++ body) ++ [125], by simp,
      .object (spellsMembers_blank hblank hbody) hdistinct⟩
  · obtain ⟨text, number, rfl, rfl, hspelled⟩ := spellsNumber_parseNumber hnumber
    exact ⟨text, rfl, .number hspelled⟩

theorem Sound.elements_step {fuel : Nat} (ih : Sound conv fuel) {path : String} {index : Nat}
    {input rest : Text} {values : List Value}
    (h : parseElements conv (fuel + 1) path index input = .ok (values, rest)) :
    ∃ body, input = body ++ 93 :: rest ∧ SpellsElements conv body values := by
  obtain ⟨value, after, hvalue, hend⟩ := parseElements_iff.mp h
  obtain ⟨text, rfl, htext⟩ := ih.value hvalue
  rcases hend with ⟨hclosed, rfl⟩ | ⟨next, others, hcomma, hothers, rfl⟩
  · obtain ⟨blank, hblank, rfl⟩ := skipSpace_eq hclosed
    exact ⟨[] ++ text ++ blank, by simp, .last blank_nil htext hblank⟩
  · obtain ⟨blank, hblank, rfl⟩ := skipSpace_eq hcomma
    obtain ⟨body, hnext, hbody⟩ := ih.elements hothers
    obtain ⟨before, hbefore, rfl⟩ := skipSpace_eq hnext
    exact ⟨[] ++ text ++ blank ++ 44 :: (before ++ body), by simp,
      .next blank_nil htext hblank (spellsElements_blank hbefore hbody)⟩

theorem Sound.members_step {fuel : Nat} (ih : Sound conv fuel) {path : String}
    {read object : Object} {input rest : Text}
    (h : parseMembers conv (fuel + 1) path read input = .ok (object, rest)) :
    ∃ body written, input = body ++ 125 :: rest ∧ SpellsMembers conv body written ∧
      emplaceAll read written = some object := by
  obtain ⟨name, key, colon, before, value, after, next, rfl, hkey, hcolon, hvalue, hnext, hend⟩ :=
    parseMembers_iff.mp h
  obtain ⟨body, rfl, hbody⟩ := parseString_iff.mp hkey
  obtain ⟨middle, hmiddle, rfl⟩ := skipSpace_eq hcolon
  obtain ⟨text, hbefore, htext⟩ := ih.value hvalue
  obtain ⟨before', hbefore', rfl⟩ := skipSpace_eq hbefore
  rcases hend with ⟨hclosed, rfl⟩ | ⟨more, hcomma, hmore⟩
  · obtain ⟨blank, hblank, rfl⟩ := skipSpace_eq hclosed
    refine ⟨_, [(key, value)], ?_, .last (.intro blank_nil hbody hmiddle hbefore' htext hblank), ?_⟩
    · simp
    · simp [emplaceAll, hnext]
  · obtain ⟨blank, hblank, rfl⟩ := skipSpace_eq hcomma
    obtain ⟨others, written, hnextInput, hothers, hwritten⟩ := ih.members hmore
    obtain ⟨before, hblank', rfl⟩ := skipSpace_eq hnextInput
    refine ⟨_, (key, value) :: written, ?_,
      .next (.intro blank_nil hbody hmiddle hbefore' htext hblank)
        (spellsMembers_blank hblank' hothers), ?_⟩
    · simp
    · rw [emplaceAll, hnext]
      exact hwritten

theorem sound (conv : CharConv) (fuel : Nat) : Sound conv fuel := by
  induction fuel with
  | zero =>
      constructor
      · intro path input rest value h
        cases h
      · intro path index input rest values h
        cases h
      · intro path read object input rest h
        cases h
  | succ fuel ih => exact ⟨ih.value_step, ih.elements_step, ih.members_step⟩

/-! ### What is spelled is read -/

theorem SpellsNumber.first {number : Number} (h : SpellsNumber conv text number) :
    ∃ first more, text = first :: more ∧ (first = 45 || isDigit first) = true := by
  have hinteger : ∀ {digits rest : Text}, IntegerPart digits →
      ∃ first more, digits ++ rest = first :: more ∧ (first = 45 || isDigit first) = true := by
    intro digits rest hdigits
    obtain ⟨first, more, hmore, -, hdigit⟩ := hdigits.head rest
    exact ⟨first, more, hmore, by rw [hdigit, Bool.or_true]⟩
  cases h with
  | unsignedInteger hdigits =>
      rw [← append_nil text]
      exact hinteger hdigits
  | signedInteger hdigits => exact ⟨45, _, rfl, rfl⟩
  | binary64 hsign hdigits hfraction hexponent =>
      rcases hsign with rfl | rfl
      · simp only [nil_append, append_assoc]
        exact hinteger hdigits
      · exact ⟨45, _, rfl, rfl⟩

/-- A value begins with no space, and with no bracket that closes. -/
theorem SpellsValue.first (h : SpellsValue conv text value) :
    ∃ first more, text = first :: more ∧ isSpace first = false ∧ first ≠ 93 := by
  cases h with
  | nullLiteral => exact ⟨110, _, rfl, rfl, by decide⟩
  | trueLiteral => exact ⟨116, _, rfl, rfl, by decide⟩
  | falseLiteral => exact ⟨102, _, rfl, rfl, by decide⟩
  | number hnumber =>
      obtain ⟨first, more, rfl, hfirst⟩ := hnumber.first
      refine ⟨first, more, rfl, ?_⟩
      revert hfirst
      exact forall_byte (p := fun first => (first = 45 || isDigit first) = true →
        isSpace first = false ∧ first ≠ 93) (by decide) first
  | string hstring => exact ⟨34, _, rfl, rfl, by decide⟩
  | emptyArray hblank => exact ⟨91, _, rfl, rfl, by decide⟩
  | array hvalues => exact ⟨91, _, rfl, rfl, by decide⟩
  | emptyObject hblank => exact ⟨123, _, rfl, rfl, by decide⟩
  | object hmembers hdistinct => exact ⟨123, _, rfl, rfl, by decide⟩

/-- The blank before a value is skipped, and no more. -/
theorem SpellsValue.skipSpace (h : SpellsValue conv text value) (hbefore : Blank before)
    (rest : Text) : Json.skipSpace (before ++ (text ++ rest)) = text ++ rest := by
  obtain ⟨first, more, rfl, hspace, -⟩ := h.first
  rw [skipSpace_blank hbefore, cons_append, skipSpace_cons _ hspace]

variable {stop : UInt8}

theorem skipSpace_stop {blank : Text} (hblank : Blank blank) (rest : Text)
    (h : isSpace stop = false) : skipSpace (blank ++ stop :: rest) = stop :: rest := by
  rw [skipSpace_blank hblank, skipSpace_cons rest h]

/-- A number stops before a blank and what follows it. -/
theorem stops_blank {blank : Text} (hblank : Blank blank) (hrest : Stops rest) :
    Stops (blank ++ rest) := by
  cases blank with
  | nil => exact hrest
  | cons byte others =>
      intro head hhead
      obtain rfl := Option.some.inj hhead
      rcases hblank byte mem_cons_self with rfl | rfl | rfl | rfl <;> decide

theorem stops_cons (rest : Text) (h : isDigit stop = false ∧ stop ≠ 46 ∧ stop ≠ 101 ∧ stop ≠ 69) :
    Stops (stop :: rest) := by
  intro head hhead
  obtain rfl := Option.some.inj hhead
  exact h

/-- With this fuel, what a rule spells is read, if its bytes are few enough. -/
structure Complete (conv : CharConv) (fuel : Nat) : Prop where
  value : ∀ (path : String) {text rest : Text} {value : Value}, SpellsValue conv text value →
    2 * text.length ≤ fuel → Stops rest →
    parseValue conv fuel path (text ++ rest) = .ok (value, rest)
  elements : ∀ (path : String) (index : Nat) {body : Text} (rest : Text) {values : List Value},
    SpellsElements conv body values → 2 * body.length + 1 ≤ fuel →
    parseElements conv fuel path index (skipSpace (body ++ 93 :: rest)) = .ok (values, rest)
  members : ∀ (path : String) {read object : Object} {body : Text} (rest : Text)
    {written : List (Text × Value)}, SpellsMembers conv body written →
    emplaceAll read written = some object → 2 * body.length + 1 ≤ fuel →
    parseMembers conv fuel path read (skipSpace (body ++ 125 :: rest)) = .ok (object, rest)

/-- The elements of an array do not begin with the bracket that closes it. -/
theorem SpellsElements.first (h : SpellsElements conv body values) (rest : Text) :
    (skipSpace (body ++ rest)).head? ≠ some 93 := by
  have hvalue : ∀ {before text : Text} {value : Value}, Blank before →
      SpellsValue conv text value → ∀ after,
      (skipSpace (before ++ (text ++ after))).head? ≠ some 93 := by
    intro before text value hbefore hspelled after hhead
    obtain ⟨first, more, rfl, -, hbracket⟩ := hspelled.first
    rw [hspelled.skipSpace hbefore] at hhead
    exact hbracket (Option.some.inj hhead)
  cases h with
  | last hbefore hspelled hafter =>
      simp only [append_assoc]
      exact hvalue hbefore hspelled _
  | next hbefore hspelled hafter hrest =>
      simp only [append_assoc]
      exact hvalue hbefore hspelled _

/-- The members of an object begin with the quote of a name. -/
theorem SpellsMembers.first {members : List (Text × Value)} (h : SpellsMembers conv body members)
    (rest : Text) : (skipSpace (body ++ rest)).head? = some 34 := by
  have hmember : ∀ {body key : Text} {value : Value}, SpellsMember conv body key value →
      ∀ after, (skipSpace (body ++ after)).head? = some 34 := by
    intro body key value hspelled after
    cases hspelled with
    | intro hbefore hname hmiddle hbefore' hvalue hafter =>
        simp only [append_assoc, cons_append]
        rw [skipSpace_stop hbefore _ (by decide)]
        rfl
  cases h with
  | last hspelled => exact hmember hspelled rest
  | next hspelled hrest =>
      rw [append_assoc]
      exact hmember hspelled _

theorem Complete.value_step {fuel : Nat} (ih : Complete conv fuel) (path : String)
    {text rest : Text} {value : Value} (h : SpellsValue conv text value)
    (hsize : 2 * text.length ≤ fuel + 1) (hrest : Stops rest) :
    parseValue conv (fuel + 1) path (text ++ rest) = .ok (value, rest) := by
  cases h with
  | nullLiteral => exact parseLiteral_written (ascii "null") .null path rest
  | trueLiteral => exact parseLiteral_written (ascii "true") (.boolean true) path rest
  | falseLiteral => exact parseLiteral_written (ascii "false") (.boolean false) path rest
  | number hnumber =>
      have hread := parseNumber_spelled path hnumber hrest
      obtain ⟨first, more, rfl, hfirst⟩ := hnumber.first
      exact (parseValue_number path _ hfirst).trans hread
  | @string body text hstring =>
      simp only [cons_append, append_assoc, nil_append]
      exact parseValue_string (parseString_iff.mpr ⟨body, rfl, hstring⟩)
  | emptyArray hblank =>
      simp only [cons_append, append_assoc, nil_append]
      exact parseValue_emptyArray (skipSpace_stop hblank rest (by decide))
  | @array body values hvalues =>
      simp only [length_cons, length_append, length_nil] at hsize
      simp only [cons_append, append_assoc, nil_append]
      rw [parseValue_array (hvalues.first _), ih.elements path 0 rest hvalues (by omega)]
      rfl
  | emptyObject hblank =>
      simp only [cons_append, append_assoc, nil_append]
      exact parseValue_emptyObject (skipSpace_stop hblank rest (by decide))
  | @object body members hmembers hdistinct =>
      simp only [length_cons, length_append, length_nil] at hsize
      simp only [cons_append, append_assoc, nil_append]
      rw [parseValue_object (by rw [hmembers.first]; decide), ih.members path rest hmembers
        (emplaceAll_iff.mpr ⟨hdistinct, rfl⟩) (by omega)]
      rfl

theorem Complete.elements_step {fuel : Nat} (ih : Complete conv fuel) (path : String)
    (index : Nat) {body : Text} (rest : Text) {values : List Value}
    (h : SpellsElements conv body values) (hsize : 2 * body.length + 1 ≤ fuel + 1) :
    parseElements conv (fuel + 1) path index (skipSpace (body ++ 93 :: rest)) =
      .ok (values, rest) := by
  cases h with
  | @last before text after value hbefore hvalue hafter =>
      simp only [length_append] at hsize
      simp only [append_assoc]
      rw [hvalue.skipSpace hbefore]
      refine parseElements_iff.mpr ⟨value, after ++ 93 :: rest, ih.value _ hvalue (by omega)
        (stops_blank hafter (stops_cons rest (by decide))), .inl ⟨?_, rfl⟩⟩
      exact skipSpace_stop hafter rest (by decide)
  | @next before text after more value values hbefore hvalue hafter hmore =>
      simp only [length_append, length_cons] at hsize
      simp only [append_assoc, cons_append]
      rw [hvalue.skipSpace hbefore]
      refine parseElements_iff.mpr ⟨value, after ++ 44 :: (more ++ 93 :: rest),
        ih.value _ hvalue (by omega) (stops_blank hafter (stops_cons _ (by decide))),
        .inr ⟨more ++ 93 :: rest, values, ?_, ih.elements path (index + 1) rest hmore (by omega),
          rfl⟩⟩
      exact skipSpace_stop hafter _ (by decide)

/-- A member is read into the map, up to the comma or the brace after it. -/
theorem Complete.member (ih : Complete conv fuel) (path : String) {read next object : Object}
    {key : Text} {more : Text} (h : SpellsMember conv body key value)
    (hnext : Object.emplace key value read = some next) (hsize : 2 * body.length ≤ fuel)
    (hstop : stop = 125 ∨ stop = 44)
    (hend : (stop = 125 ∧ more = rest ∧ object = next) ∨
      (stop = 44 ∧ parseMembers conv fuel path next (skipSpace more) = .ok (object, rest))) :
    parseMembers conv (fuel + 1) path read (skipSpace (body ++ stop :: more)) =
      .ok (object, rest) := by
  have hspace : isSpace stop = false := by rcases hstop with rfl | rfl <;> rfl
  have hstops : Stops (stop :: more) := by
    rcases hstop with rfl | rfl <;> exact stops_cons _ (by decide)
  cases h with
  | @intro before name middle before' text after key value hbefore hname hmiddle hbefore' hvalue
      hafter =>
      simp only [length_append, length_cons] at hsize
      simp only [append_assoc, cons_append]
      rw [skipSpace_stop hbefore _ (by decide)]
      refine parseMembers_iff.mpr ⟨_, key, _, before' ++ (text ++ (after ++ stop :: more)), value,
        after ++ stop :: more, next, rfl, parseString_iff.mpr ⟨name, rfl, hname⟩,
        skipSpace_stop hmiddle _ (by decide), ?_, hnext, ?_⟩
      · rw [hvalue.skipSpace hbefore']
        exact ih.value _ hvalue (by omega) (stops_blank hafter hstops)
      · rw [skipSpace_stop hafter more hspace]
        rcases hend with ⟨rfl, rfl, rfl⟩ | ⟨rfl, hmore⟩
        · exact .inl ⟨rfl, rfl⟩
        · exact .inr ⟨more, rfl, hmore⟩

theorem Complete.members_step {fuel : Nat} (ih : Complete conv fuel) (path : String)
    {read object : Object} {body : Text} (rest : Text) {written : List (Text × Value)}
    (h : SpellsMembers conv body written) (hobject : emplaceAll read written = some object)
    (hsize : 2 * body.length + 1 ≤ fuel + 1) :
    parseMembers conv (fuel + 1) path read (skipSpace (body ++ 125 :: rest)) =
      .ok (object, rest) := by
  obtain ⟨member, others, rfl⟩ : ∃ member others, written = member :: others := by
    cases h <;> exact ⟨_, _, rfl⟩
  obtain ⟨next, hnext, hothers⟩ := Option.bind_eq_some_iff.mp hobject
  cases h with
  | last hmember =>
      obtain rfl := Option.some.inj hothers
      exact ih.member path hmember hnext (by omega) (.inl rfl) (.inl ⟨rfl, rfl, rfl⟩)
  | next hmember hrest =>
      simp only [length_append, length_cons] at hsize
      rw [append_assoc, cons_append]
      exact ih.member path hmember hnext (by omega) (.inr rfl)
        (.inr ⟨rfl, ih.members path rest hrest hothers (by omega)⟩)

theorem complete (conv : CharConv) (fuel : Nat) : Complete conv fuel := by
  induction fuel with
  | zero =>
      constructor
      · intro path text rest value h hsize hrest
        obtain ⟨first, more, rfl, -⟩ := h.first
        simp only [length_cons] at hsize
        omega
      · intro path index body rest values h hsize
        omega
      · intro path read object body rest written h hobject hsize
        omega
  | succ fuel ih => exact ⟨ih.value_step, ih.elements_step, ih.members_step⟩

/-! ### Fuel -/

/-- This fuel is as good as one unit more, on an input it is enough for. -/
structure Settled (conv : CharConv) (fuel : Nat) : Prop where
  value : ∀ (path : String) {input : Text}, 2 * input.length + 1 ≤ fuel →
    parseValue conv (fuel + 1) path input = parseValue conv fuel path input
  elements : ∀ (path : String) (index : Nat) {input : Text}, 2 * input.length + 2 ≤ fuel →
    parseElements conv (fuel + 1) path index input = parseElements conv fuel path index input
  members : ∀ (path : String) (read : Object) {input : Text}, 2 * input.length + 2 ≤ fuel →
    parseMembers conv (fuel + 1) path read input = parseMembers conv fuel path read input

theorem length_skipSpace_le (input : Text) : (skipSpace input).length ≤ input.length := by
  obtain ⟨blank, -, hinput⟩ := skipSpace_split input
  conv_rhs => rw [hinput, length_append]
  omega

/-- A call on a value leaves less than it was given. -/
theorem parseValue_shorter (h : parseValue conv fuel path input = .ok (value, rest)) :
    rest.length < input.length := by
  obtain ⟨text, rfl, hspelled⟩ := (sound conv fuel).value h
  obtain ⟨first, more, rfl, -⟩ := hspelled.first
  rw [length_append, length_cons]
  omega

theorem Settled.value_step {fuel : Nat} (ih : Settled conv fuel) (path : String) {input : Text}
    (hsize : 2 * input.length + 1 ≤ fuel + 1) :
    parseValue conv (fuel + 2) path input = parseValue conv (fuel + 1) path input := by
  cases input with
  | nil => rfl
  | cons first after =>
      have hshorter := length_skipSpace_le after
      rw [length_cons] at hsize
      rw [parseValue.eq_def conv (fuel + 2), parseValue.eq_def conv (fuel + 1)]
      simp only
      have harray := ih.elements path 0 (by omega : 2 * (skipSpace after).length + 2 ≤ fuel)
      have hobject := ih.members path [] (by omega : 2 * (skipSpace after).length + 2 ≤ fuel)
      generalize skipSpace after = inside at harray hobject
      refine if_congr Iff.rfl rfl (if_congr Iff.rfl rfl (if_congr Iff.rfl rfl
        (if_congr Iff.rfl rfl (if_congr Iff.rfl ?_ (if_congr Iff.rfl ?_ rfl)))))
      · split
        · rfl
        · rw [harray]
      · split
        · rfl
        · rw [hobject]

theorem Settled.elements_step {fuel : Nat} (ih : Settled conv fuel) (path : String) (index : Nat)
    {input : Text} (hsize : 2 * input.length + 2 ≤ fuel + 1) :
    parseElements conv (fuel + 2) path index input =
      parseElements conv (fuel + 1) path index input := by
  rw [parseElements, parseElements, ih.value _ (by omega)]
  cases hvalue : parseValue conv fuel (path ++ "/" ++ toString index) input with
  | error errors => rfl
  | ok read =>
      obtain ⟨value, after⟩ := read
      have hshorter := parseValue_shorter hvalue
      have hskipped := length_skipSpace_le after
      simp only [bind, Except.bind]
      cases hafter : skipSpace after with
      | nil => rfl
      | cons stop more =>
          have hmore := length_skipSpace_le more
          rw [hafter, length_cons] at hskipped
          have hloop := ih.elements path (index + 1)
            (by omega : 2 * (skipSpace more).length + 2 ≤ fuel)
          split
          · rfl
          · rfl
          · rename_i heq
            obtain ⟨-, rfl⟩ := List.cons.inj heq
            rw [hloop]
          · rfl

theorem Settled.members_step {fuel : Nat} (ih : Settled conv fuel) (path : String) (read : Object)
    {input : Text} (hsize : 2 * input.length + 2 ≤ fuel + 1) :
    parseMembers conv (fuel + 2) path read input =
      parseMembers conv (fuel + 1) path read input := by
  cases input with
  | nil => rfl
  | cons first name =>
      rw [length_cons] at hsize
      rw [parseMembers.eq_def conv (fuel + 2), parseMembers.eq_def conv (fuel + 1)]
      simp only
      refine if_congr Iff.rfl rfl ?_
      cases hkey : parseString path [] name with
      | error errors => rfl
      | ok string =>
          obtain ⟨key, colon⟩ := string
          obtain ⟨body, hname, -⟩ := parseString_iff.mp hkey
          rw [hname, length_append, length_cons] at hsize
          simp only [bind, Except.bind]
          split
          · rename_i before hcolon
            have hbefore := length_skipSpace_le before
            have hskipped := length_skipSpace_le colon
            rw [hcolon, length_cons] at hskipped
            rw [ih.value (path ++ "/" ++ key.shown)
              (by omega : 2 * (skipSpace before).length + 1 ≤ fuel)]
            cases hvalue : parseValue conv fuel (path ++ "/" ++ key.shown) (skipSpace before) with
            | error errors => rfl
            | ok found =>
                obtain ⟨value, after⟩ := found
                have hshorter := parseValue_shorter hvalue
                cases hnext : Object.emplace key value read with
                | none => simp only [hnext]
                | some next =>
                    simp only [hnext]
                    cases hafter : skipSpace after with
                    | nil => rfl
                    | cons stop more =>
                        have hlast := length_skipSpace_le after
                        have hmore := length_skipSpace_le more
                        rw [hafter, length_cons] at hlast
                        have hloop := ih.members path next
                          (by omega : 2 * (skipSpace more).length + 2 ≤ fuel)
                        split
                        · rfl
                        · rfl
                        · rename_i heq
                          obtain ⟨-, rfl⟩ := List.cons.inj heq
                          exact hloop
                        · rfl
          · rfl

theorem settled (conv : CharConv) (fuel : Nat) : Settled conv fuel := by
  induction fuel with
  | zero =>
      constructor
      · intro path input hsize
        omega
      · intro path index input hsize
        omega
      · intro path read input hsize
        omega
  | succ fuel ih => exact ⟨ih.value_step, ih.elements_step, ih.members_step⟩

/-- The fuel of a call on a value does not matter, once it is enough for the input. -/
theorem parseValue_fuel (path : String) {more : Nat} (hfuel : 2 * input.length + 1 ≤ fuel)
    (hmore : fuel ≤ more) : parseValue conv more path input = parseValue conv fuel path input := by
  induction more, hmore using Nat.le_induction with
  | base => rfl
  | succ more hmore ih => exact ((settled conv more).value path (by omega)).trans ih

/-! ### Documents -/

theorem stops_nil : Stops [] := by
  intro byte hbyte
  cases hbyte

theorem skipSpace_eq_nil : skipSpace input = [] ↔ Blank input := by
  constructor
  · intro h
    obtain ⟨blank, hblank, rfl⟩ := skipSpace_eq h
    rwa [append_nil]
  · intro h
    rw [← append_nil input, skipSpace_blank h]
    rfl

theorem parse_ok_iff : parse conv text = .ok value ↔
      ∃ rest, parseValue conv (2 * text.length + 2) "$" (skipSpace text) = .ok (value, rest) ∧
        Blank rest := by
  rw [parse]
  constructor
  · intro h
    obtain ⟨⟨found, rest⟩, hfound, h⟩ := Fallible.bind_ok h
    simp only at h
    split at h
    · rename_i hend
      obtain rfl := Except.ok.inj h
      exact ⟨rest, hfound, skipSpace_eq_nil.mp hend⟩
    · cases h
  · rintro ⟨rest, hvalue, hrest⟩
    simp only [hvalue, bind, Except.bind]
    rw [if_pos (skipSpace_eq_nil.mpr hrest)]

/-- A document is read as the value it spells. -/
theorem parse_spelled (h : SpellsDocument conv text value) : parse conv text = .ok value := by
  obtain ⟨before, body, after, rfl, hbefore, hafter, hbody⟩ := h
  refine parse_ok_iff.mpr ⟨after, ?_, hafter⟩
  rw [append_assoc, hbody.skipSpace hbefore]
  refine (complete conv _).value "$" hbody ?_ ?_
  · simp only [length_append]
    omega
  · rw [← append_nil after]
    exact stops_blank hafter stops_nil

/-- What is read is a document that spells it. -/
theorem spellsDocument_parse (h : parse conv text = .ok value) :
    SpellsDocument conv text value := by
  obtain ⟨rest, hvalue, hrest⟩ := parse_ok_iff.mp h
  obtain ⟨body, hinput, hbody⟩ := (sound conv _).value hvalue
  obtain ⟨before, hbefore, rfl⟩ := skipSpace_eq hinput
  exact ⟨before, body, rest, (append_assoc _ _ _).symm, hbefore, hrest, hbody⟩

/-- **The parser accepts exactly its grammar**, with the value the grammar gives, and never runs
out of fuel: a call with more of it on the same text returns the same. -/
theorem parse_iff_spellsDocument (conv : CharConv) (text : Text) :
    (∀ value, parse conv text = .ok value ↔ SpellsDocument conv text value) ∧
      ((∃ value, parse conv text = .ok value) ↔ ∃ value, SpellsDocument conv text value) ∧
      ∀ fuel ≥ 2 * text.length + 2, parseValue conv fuel "$" (skipSpace text) =
        parseValue conv (2 * text.length + 2) "$" (skipSpace text) := by
  have hiff : ∀ value, parse conv text = .ok value ↔ SpellsDocument conv text value :=
    fun value => ⟨spellsDocument_parse, parse_spelled⟩
  refine ⟨hiff, exists_congr hiff, ?_⟩
  intro fuel hfuel
  have hshorter := length_skipSpace_le text
  exact parseValue_fuel "$" (by omega) hfuel

end CpuPrefetch.Protocol.Json
