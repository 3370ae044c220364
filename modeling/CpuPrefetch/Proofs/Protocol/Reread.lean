/-
Documents with binary64 numbers, written and read again.

A canonical text is read again exactly if each number in it is: what the parser reads of
the text it reads part by part, and it stops at the first number it does not take.  An
integer always comes back; a binary64 number comes back unless it is laid out as an
integer that has more than sixty-four bits.
-/
import CpuPrefetch.Proofs.Protocol.Binary64
import CpuPrefetch.Proofs.Protocol.RoundTrip

namespace CpuPrefetch.Protocol.Json

open List

variable {conv : CharConv} {value : Value}

/-! ### Numbers that come back -/

/-- What is written for the number is read as a number that is written alike. -/
def Rereadable (conv : CharConv) (number : Number) : Prop :=
  ∃ text again, canonicalNumber conv number = .ok text ∧ SpellsNumber conv text again ∧
    canonicalNumber conv again = .ok text

open Classical in
/-- The number that comes back, if one does. -/
noncomputable def reread (conv : CharConv) (number : Number) : Number :=
  if h : ∃ again text, canonicalNumber conv number = .ok text ∧ SpellsNumber conv text again ∧
      canonicalNumber conv again = .ok text then h.choose
  else number

variable {number : Number}

theorem reread_spec (h : Rereadable conv number) : ∃ text, canonicalNumber conv number = .ok text ∧
      SpellsNumber conv text (reread conv number) ∧
      canonicalNumber conv (reread conv number) = .ok text := by
  obtain ⟨text, again, hagain⟩ := h
  have hexists : ∃ again text, canonicalNumber conv number = .ok text ∧
      SpellsNumber conv text again ∧ canonicalNumber conv again = .ok text := ⟨again, text, hagain⟩
  rw [reread, dif_pos hexists]
  exact hexists.choose_spec

/-- A value all of whose numbers come back comes back. -/
theorem reread_of_numbers (hmaps : value.All Value.IsMap) (hencoded : value.All Value.IsEncoded)
    (h : value.All (Value.IsNumber (Rereadable conv))) :
    ∃ canonical read, canonicalize conv value = .ok canonical ∧ parse conv canonical = .ok read ∧
      canonicalize conv read = .ok canonical := by
  obtain ⟨canonical, hcanonical⟩ : HasForm conv value := by
    refine hasForm_iff.mpr ⟨hencoded, h.imp ?_⟩
    rintro number ⟨text, again, htext, -⟩
    exact ⟨text, htext⟩
  have hspelled : SpellsValue conv canonical (value.renumbered (reread conv)) := by
    refine spellsValue_written hmaps (h.imp ?_) hcanonical
    intro number hnumber text htext
    obtain ⟨text', htext', hspelled, -⟩ := reread_spec hnumber
    obtain rfl := Except.ok.inj (htext.symm.trans htext')
    exact hspelled
  refine ⟨canonical, value.renumbered (reread conv), hcanonical,
    parse_spelled ⟨[], canonical, [], by simp, blank_nil, blank_nil, hspelled⟩, ?_⟩
  rw [canonicalize_renumbered, hcanonical]
  refine h.imp ?_
  intro number hnumber
  obtain ⟨text, htext, -, hagain⟩ := reread_spec hnumber
  exact hagain.trans htext.symm

/-- An integer comes back. -/
theorem rereadable_integer (h : number.isInteger = true) : Rereadable conv number := by
  obtain ⟨text, htext⟩ : ∃ text, canonicalNumber conv number = .ok text := canonicalNumber_integer h
  exact ⟨text, number.respelled, htext, spellsNumber_written h htext,
    (canonicalNumber_respelled h).trans htext⟩

/-! ### Numbers that stop the parser -/

/-- What is written for the number has the parts of one. -/
def Lexical (conv : CharConv) (number : Number) : Prop :=
  ∀ text, canonicalNumber conv number = .ok text → SpellsDecimal text

/-- What is written for the number is in the domain. -/
def Spelled (conv : CharConv) (number : Number) : Prop :=
  ∀ text, canonicalNumber conv number = .ok text → ∃ again, SpellsNumber conv text again

variable {text : Text}

theorem SpellsNumber.decimal (h : SpellsNumber conv text number) : SpellsDecimal text := by
  cases h with
  | unsignedInteger hdigits =>
      exact ⟨[], text, [], [], ⟨.inl rfl, hdigits, .inl rfl, .inl rfl⟩, by simp⟩
  | @signedInteger digits hdigits =>
      exact ⟨[45], digits, [], [], ⟨.inr rfl, hdigits, .inl rfl, .inl rfl⟩, by simp⟩
  | binary64 hsign hdigits hfraction hexponent =>
      exact ⟨_, _, _, _, ⟨hsign, hdigits, hfraction, hexponent⟩, rfl⟩

theorem SpellsDecimal.first (h : SpellsDecimal text) :
    ∃ first more, text = first :: more ∧ (first = 45 || isDigit first) = true := by
  obtain ⟨sign, digits, fraction, exponent, hparts, rfl⟩ := h
  rcases hparts.sign with rfl | rfl
  · obtain ⟨first, more, hmore, -, hdigit⟩ := hparts.digits.head (fraction ++ exponent)
    exact ⟨first, more, by simpa using hmore, by rw [hdigit, Bool.or_true]⟩
  · exact ⟨45, _, rfl, rfl⟩

/-- A canonical text begins with no space, and with no bracket that closes. -/
theorem canonicalize_first (hlexical : value.All (Value.IsNumber (Lexical conv)))
    (h : canonicalize conv value = .ok text) :
    ∃ first more, text = first :: more ∧ isSpace first = false ∧ first ≠ 93 := by
  cases value with
  | null =>
      obtain rfl := Except.ok.inj h
      exact ⟨110, _, rfl, rfl, by decide⟩
  | boolean value =>
      obtain rfl := Except.ok.inj h
      cases value with
      | true => exact ⟨116, _, rfl, rfl, by decide⟩
      | false => exact ⟨102, _, rfl, rfl, by decide⟩
  | number number =>
      obtain ⟨first, more, rfl, hfirst⟩ := (all_number.mp hlexical text h).first
      refine ⟨first, more, rfl, ?_⟩
      revert hfirst
      exact forall_byte (p := fun first => (first = 45 || isDigit first) = true →
        isSpace first = false ∧ first ≠ 93) (by decide) first
  | string string =>
      obtain ⟨-, rfl⟩ := appendString_eq h
      exact ⟨34, _, rfl, rfl, by decide⟩
  | array values =>
      obtain ⟨texts, -, rfl⟩ := canonicalize_array h
      exact ⟨91, _, rfl, rfl, by decide⟩
  | object members =>
      obtain ⟨texts, -, rfl⟩ := canonicalize_object h
      exact ⟨123, _, rfl, rfl, by decide⟩

theorem commaSeparated_append (text next : Text) (texts : List Text) (rest : Text) :
    commaSeparated (text :: next :: texts) ++ rest =
      text ++ 44 :: (commaSeparated (next :: texts) ++ rest) := by
  rw [commaSeparated, append_assoc, cons_append]
  exact cons_ne_nil _ _

/-- Texts with commas begin as the first of them does. -/
theorem commaSeparated_first (first : UInt8) (letters : Text) (texts : List Text) (rest : Text) :
    ∃ more, commaSeparated ((first :: letters) :: texts) ++ rest = first :: more := by
  cases texts with
  | nil => exact ⟨letters ++ rest, rfl⟩
  | cons next others => exact ⟨_, rfl⟩

theorem skipSpace_commaSeparated {first : UInt8} (letters : Text) (texts : List Text) (rest : Text)
    (h : isSpace first = false) :
    skipSpace (commaSeparated ((first :: letters) :: texts) ++ rest) =
      commaSeparated ((first :: letters) :: texts) ++ rest := by
  obtain ⟨more, hmore⟩ := commaSeparated_first first letters texts rest
  rw [hmore, skipSpace_cons _ h]

/-- With this fuel, a call that reads a canonical text reads all of it, and each number in it. -/
structure Discerns (conv : CharConv) (fuel : Nat) : Prop where
  value : ∀ (path : String) {value read : Value} {text rest after : Text},
    value.All (Value.IsNumber (Lexical conv)) → canonicalize conv value = .ok text → Stops rest →
    parseValue conv fuel path (text ++ rest) = .ok (read, after) →
    after = rest ∧ value.All (Value.IsNumber (Spelled conv))
  elements : ∀ (path : String) (index : Nat) {values reads : List Value} {texts : List Text}
    {rest after : Text}, values ≠ [] →
    (∀ value ∈ values, value.All (Value.IsNumber (Lexical conv))) →
    List.Forall₂ (fun value text => canonicalize conv value = .ok text) values texts →
    parseElements conv fuel path index (commaSeparated texts ++ 93 :: rest) = .ok (reads, after) →
    after = rest ∧ ∀ value ∈ values, value.All (Value.IsNumber (Spelled conv))
  members : ∀ (path : String) {members read object : Object} {texts : List Text}
    {rest after : Text}, members ≠ [] →
    (∀ member ∈ members, member.2.All (Value.IsNumber (Lexical conv))) →
    List.Forall₂ (MemberText conv) members texts →
    parseMembers conv fuel path read (commaSeparated texts ++ 125 :: rest) = .ok (object, after) →
    after = rest ∧ ∀ member ∈ members, member.2.All (Value.IsNumber (Spelled conv))

theorem parseNumber_discerns (path : String) {read : Value} {rest after : Text}
    (h : SpellsDecimal text) (hrest : Stops rest)
    (hread : parseNumber conv path (text ++ rest) = .ok (read, after)) :
    after = rest ∧ ∃ again, SpellsNumber conv text again := by
  have hspelled := spellsNumber_parseNumber hread
  obtain ⟨sign, digits, fraction, exponent, hparts, rfl⟩ := h
  rw [parseNumber_parts path hparts hrest] at hread
  obtain ⟨converted, -, hread⟩ := Fallible.bind_ok hread
  obtain ⟨-, rfl⟩ := Prod.mk.inj (Except.ok.inj hread)
  obtain ⟨text, again, htext, -, hagain⟩ := hspelled
  refine ⟨rfl, again, ?_⟩
  rw [append_cancel_right htext]
  exact hagain

theorem Discerns.elements_step {fuel : Nat} (ih : Discerns conv fuel) (path : String) (index : Nat)
    {values reads : List Value} {texts : List Text} {rest after : Text} (hne : values ≠ [])
    (hlexical : ∀ value ∈ values, value.All (Value.IsNumber (Lexical conv)))
    (h : List.Forall₂ (fun value text => canonicalize conv value = .ok text) values texts)
    (hread : parseElements conv (fuel + 1) path index (commaSeparated texts ++ 93 :: rest) =
      .ok (reads, after)) :
    after = rest ∧ ∀ value ∈ values, value.All (Value.IsNumber (Spelled conv)) := by
  obtain ⟨read, left, hvalue, hend⟩ := parseElements_iff.mp hread
  cases h with
  | nil => exact absurd rfl hne
  | @cons value text others moreTexts htext hothers =>
      obtain ⟨hfirst, hlexical⟩ := List.forall_mem_cons.mp hlexical
      cases hothers with
      | nil =>
          rw [commaSeparated] at hvalue
          obtain ⟨rfl, hnumbers⟩ := ih.value _ hfirst htext (stops_cons _ (by decide)) hvalue
          rw [skipSpace_cons _ (by decide)] at hend
          rcases hend with ⟨hclosed, -⟩ | ⟨next, others, hcomma, -⟩
          · obtain ⟨-, rfl⟩ := List.cons.inj hclosed
            exact ⟨rfl, by simpa using hnumbers⟩
          · exact absurd (List.cons.inj hcomma).1 (by decide)
      | @cons second secondText others moreTexts hsecond hmore =>
          rw [commaSeparated_append] at hvalue
          obtain ⟨rfl, hnumbers⟩ := ih.value _ hfirst htext (stops_cons _ (by decide)) hvalue
          rw [skipSpace_cons _ (by decide)] at hend
          rcases hend with ⟨hclosed, -⟩ | ⟨next, laterReads, hcomma, hloop, -⟩
          · exact absurd (List.cons.inj hclosed).1 (by decide)
          · obtain ⟨-, rfl⟩ := List.cons.inj hcomma
            obtain ⟨first, letters, rfl, hspace, -⟩ :=
              canonicalize_first (hlexical second mem_cons_self) hsecond
            rw [skipSpace_commaSeparated letters moreTexts _ hspace] at hloop
            obtain ⟨hafter, hall⟩ := ih.elements path (index + 1) (cons_ne_nil _ _) hlexical
              (.cons hsecond hmore) hloop
            exact ⟨hafter, List.forall_mem_cons.mpr ⟨hnumbers, hall⟩⟩

/-- The member a turn of the loop has read, and how the turn ends. -/
theorem Discerns.member {fuel : Nat} (ih : Discerns conv fuel) (path : String)
    {member : Text × Value} {read object : Object} {rest after : Text}
    (hlexical : member.2.All (Value.IsNumber (Lexical conv))) (h : MemberText conv member text)
    (hrest : Stops rest)
    (hread : parseMembers conv (fuel + 1) path read (text ++ rest) = .ok (object, after)) :
    ∃ next left, left = rest ∧ member.2.All (Value.IsNumber (Spelled conv)) ∧
      ((skipSpace left = 125 :: after ∧ object = next) ∨
        ∃ more, skipSpace left = 44 :: more ∧
          parseMembers conv fuel path next (skipSpace more) = .ok (object, after)) := by
  obtain ⟨key, written, hkey, hwritten, rfl⟩ := h
  obtain ⟨hutf8, rfl⟩ := appendString_eq hkey
  obtain ⟨first, letters, rfl, hspace, -⟩ := canonicalize_first hlexical hwritten
  simp only [cons_append, append_assoc, nil_append] at hread
  obtain ⟨name, found, colon, before, value, left, next, hname, hfound, hcolon, hvalue, -, hend⟩ :=
    parseMembers_iff.mp hread
  obtain ⟨-, rfl⟩ := List.cons.inj hname
  have hstring : parseString path [] (member.1.flatMap escapeOne ++
      34 :: 58 :: first :: (letters ++ rest)) = .ok (member.1, 58 :: first :: (letters ++ rest)) :=
    parseString_iff.mpr ⟨_, rfl, spellsString_written hutf8⟩
  obtain ⟨rfl, rfl⟩ := Prod.mk.inj (Except.ok.inj (hstring.symm.trans hfound))
  rw [skipSpace_cons _ (by decide)] at hcolon
  obtain ⟨-, rfl⟩ := List.cons.inj hcolon
  rw [skipSpace_cons _ hspace] at hvalue
  obtain ⟨hleft, hnumbers⟩ := ih.value _ hlexical hwritten hrest hvalue
  exact ⟨next, left, hleft, hnumbers, hend⟩

theorem Discerns.members_step {fuel : Nat} (ih : Discerns conv fuel) (path : String)
    {members read object : Object} {texts : List Text} {rest after : Text} (hne : members ≠ [])
    (hlexical : ∀ member ∈ members, member.2.All (Value.IsNumber (Lexical conv)))
    (h : List.Forall₂ (MemberText conv) members texts)
    (hread : parseMembers conv (fuel + 1) path read (commaSeparated texts ++ 125 :: rest) =
      .ok (object, after)) :
    after = rest ∧ ∀ member ∈ members, member.2.All (Value.IsNumber (Spelled conv)) := by
  cases h with
  | nil => exact absurd rfl hne
  | @cons member text others moreTexts htext hothers =>
      obtain ⟨hfirst, hlexical⟩ := List.forall_mem_cons.mp hlexical
      cases hothers with
      | nil =>
          rw [commaSeparated] at hread
          obtain ⟨next, left, rfl, hnumbers, hend⟩ :=
            ih.member path hfirst htext (stops_cons _ (by decide)) hread
          rw [skipSpace_cons _ (by decide)] at hend
          rcases hend with ⟨hclosed, -⟩ | ⟨more, hcomma, -⟩
          · obtain ⟨-, rfl⟩ := List.cons.inj hclosed
            exact ⟨rfl, by simpa using hnumbers⟩
          · exact absurd (List.cons.inj hcomma).1 (by decide)
      | @cons second secondText others moreTexts hsecond hmore =>
          rw [commaSeparated_append] at hread
          obtain ⟨next, left, rfl, hnumbers, hend⟩ :=
            ih.member path hfirst htext (stops_cons _ (by decide)) hread
          rw [skipSpace_cons _ (by decide)] at hend
          rcases hend with ⟨hclosed, -⟩ | ⟨more, hcomma, hloop⟩
          · exact absurd (List.cons.inj hclosed).1 (by decide)
          · obtain ⟨-, rfl⟩ := List.cons.inj hcomma
            obtain ⟨key, written, hkey, hwritten, rfl⟩ := hsecond
            obtain ⟨hutf8, rfl⟩ := appendString_eq hkey
            simp only [cons_append] at hloop
            rw [skipSpace_commaSeparated _ moreTexts _ (by decide)] at hloop
            obtain ⟨hafter, hall⟩ := ih.members path (cons_ne_nil _ _) hlexical
              (.cons ⟨_, written, hkey, hwritten, rfl⟩ hmore) hloop
            exact ⟨hafter, List.forall_mem_cons.mpr ⟨hnumbers, hall⟩⟩

theorem Discerns.value_step {fuel : Nat} (ih : Discerns conv fuel) (path : String)
    {value read : Value} {text rest after : Text}
    (hlexical : value.All (Value.IsNumber (Lexical conv))) (h : canonicalize conv value = .ok text)
    (hrest : Stops rest)
    (hread : parseValue conv (fuel + 1) path (text ++ rest) = .ok (read, after)) :
    after = rest ∧ value.All (Value.IsNumber (Spelled conv)) := by
  cases value with
  | null =>
      obtain rfl := Except.ok.inj h
      obtain ⟨-, rfl⟩ := Prod.mk.inj (Except.ok.inj
        ((parseLiteral_written (ascii "null") .null path rest).symm.trans hread))
      exact ⟨rfl, all_null.mpr trivial⟩
  | boolean value =>
      refine ⟨?_, all_boolean.mpr trivial⟩
      obtain rfl := Except.ok.inj h
      cases value with
      | true =>
          exact (Prod.mk.inj (Except.ok.inj ((parseLiteral_written (ascii "true") (.boolean true)
            path rest).symm.trans hread))).2.symm
      | false =>
          exact (Prod.mk.inj (Except.ok.inj ((parseLiteral_written (ascii "false") (.boolean false)
            path rest).symm.trans hread))).2.symm
  | number number =>
      have hdecimal := all_number.mp hlexical text h
      obtain ⟨first, more, rfl, hfirst⟩ := hdecimal.first
      rw [cons_append, parseValue_number path _ hfirst, ← cons_append] at hread
      obtain ⟨hafter, hspelled⟩ := parseNumber_discerns path hdecimal hrest hread
      refine ⟨hafter, all_number.mpr ?_⟩
      intro written hwritten
      obtain rfl := Except.ok.inj (h.symm.trans hwritten)
      exact hspelled
  | string string =>
      obtain ⟨hutf8, rfl⟩ := appendString_eq h
      simp only [cons_append, append_assoc, nil_append] at hread
      have hstring : parseString path [] (string.flatMap escapeOne ++ 34 :: rest) =
          .ok (string, rest) := parseString_iff.mpr ⟨_, rfl, spellsString_written hutf8⟩
      obtain ⟨-, rfl⟩ := Prod.mk.inj (Except.ok.inj ((parseValue_string hstring).symm.trans hread))
      exact ⟨rfl, all_string.mpr trivial⟩
  | array values =>
      obtain ⟨texts, htexts, rfl⟩ := canonicalize_array h
      obtain ⟨-, hlexical⟩ := all_array.mp hlexical
      simp only [cons_append, append_assoc, nil_append] at hread
      rw [all_array]
      cases htexts with
      | nil =>
          have hclosed : skipSpace (commaSeparated [] ++ 93 :: rest) = 93 :: rest :=
            skipSpace_cons rest (by decide)
          obtain ⟨-, rfl⟩ := Prod.mk.inj (Except.ok.inj
            ((parseValue_emptyArray hclosed).symm.trans hread))
          exact ⟨rfl, trivial, fun value hvalue => by cases hvalue⟩
      | @cons first text others moreTexts hfirst hothers =>
          obtain ⟨byte, letters, rfl, hspace, hbracket⟩ :=
            canonicalize_first (hlexical first mem_cons_self) hfirst
          have hskip := skipSpace_commaSeparated letters moreTexts (93 :: rest) hspace
          have hopen :
            (skipSpace (commaSeparated ((byte :: letters) :: moreTexts) ++ 93 :: rest)).head? ≠
              some 93 := by
            obtain ⟨more, hmore⟩ := commaSeparated_first byte letters moreTexts (93 :: rest)
            rw [hskip, hmore]
            simpa using hbracket
          rw [parseValue_array hopen, hskip] at hread
          obtain ⟨⟨reads, left⟩, hloop, hlast⟩ := Fallible.bind_ok hread
          obtain ⟨-, rfl⟩ := Prod.mk.inj (Except.ok.inj hlast)
          obtain ⟨hafter, hall⟩ := ih.elements path 0 (cons_ne_nil _ _) hlexical
            (.cons hfirst hothers) hloop
          exact ⟨hafter, trivial, hall⟩
  | object members =>
      obtain ⟨texts, htexts, rfl⟩ := canonicalize_object h
      obtain ⟨-, hlexical⟩ := all_object.mp hlexical
      have hmember := fun member => (writingOrder_perm members).mem_iff (a := member)
      simp only [cons_append, append_assoc, nil_append] at hread
      rw [all_object]
      suffices hwritten : after = rest ∧ ∀ member ∈ writingOrder members,
          member.2.All (Value.IsNumber (Spelled conv)) from
        ⟨hwritten.1, trivial, fun member hmem => hwritten.2 member ((hmember member).mpr hmem)⟩
      have hlexical := fun member hmem => hlexical member ((hmember member).mp hmem)
      generalize writingOrder members = ordered at htexts hlexical
      cases htexts with
      | nil =>
          have hclosed : skipSpace (commaSeparated [] ++ 125 :: rest) = 125 :: rest :=
            skipSpace_cons rest (by decide)
          obtain ⟨-, rfl⟩ := Prod.mk.inj (Except.ok.inj
            ((parseValue_emptyObject hclosed).symm.trans hread))
          exact ⟨rfl, fun member hmem => by cases hmem⟩
      | @cons first text others moreTexts hfirst hothers =>
          obtain ⟨letters, rfl⟩ : ∃ letters, text = 34 :: letters := by
            obtain ⟨key, written, hkey, -, rfl⟩ := hfirst
            obtain ⟨-, rfl⟩ := appendString_eq hkey
            exact ⟨_, rfl⟩
          have hskip := skipSpace_commaSeparated letters moreTexts (125 :: rest)
            (by decide : isSpace 34 = false)
          have hopen :
            (skipSpace (commaSeparated ((34 :: letters) :: moreTexts) ++ 125 :: rest)).head? ≠
              some 125 := by
            obtain ⟨more, hmore⟩ := commaSeparated_first 34 letters moreTexts (125 :: rest)
            rw [hskip, hmore]
            simp
          rw [parseValue_object hopen, hskip] at hread
          obtain ⟨⟨object, left⟩, hloop, hlast⟩ := Fallible.bind_ok hread
          obtain ⟨-, rfl⟩ := Prod.mk.inj (Except.ok.inj hlast)
          exact ih.members path (cons_ne_nil _ _) hlexical (.cons hfirst hothers) hloop

theorem discerns (conv : CharConv) (fuel : Nat) : Discerns conv fuel := by
  induction fuel with
  | zero =>
      constructor
      · intro path value read text rest after hlexical h hrest hread
        cases hread
      · intro path index values reads texts rest after hne hlexical h hread
        cases hread
      · intro path members read object texts rest after hne hlexical h hread
        cases hread
  | succ fuel ih => exact ⟨ih.value_step, ih.elements_step, ih.members_step⟩

/-- A canonical text that is read has every number in it spelled. -/
theorem spelled_of_parse {canonical : Text} {read : Value}
    (hlexical : value.All (Value.IsNumber (Lexical conv)))
    (h : canonicalize conv value = .ok canonical) (hread : parse conv canonical = .ok read) :
    value.All (Value.IsNumber (Spelled conv)) := by
  obtain ⟨first, letters, rfl, hspace, -⟩ := canonicalize_first hlexical h
  obtain ⟨rest, hvalue, -⟩ := parse_ok_iff.mp hread
  rw [skipSpace_cons _ hspace, ← append_nil (first :: letters)] at hvalue
  exact ((discerns conv _).value "$" hlexical h stops_nil hvalue).2

/-! ### Documents -/

/-- The value has this binary64 number. -/
def Value.HasBinary64 (bits : UInt64) (value : Value) : Prop :=
  ∃ lexical, Part (.number (.binary64 lexical bits)) value

/-- **A document has a canonical form that can be read back exactly if no binary64 number in it is
oversized**: one whose shortest decimal is an integer outside the range of sixty-four bits, and
that is below 1e21, is written as that integer, which the parser refuses. -/
theorem canonical_form_reread (conv : CharConv) {text : Text} {value : Value}
    (h : SpellsDocument conv text value)
    (hconv : ∀ bits, value.HasBinary64 bits → magnitude bits ≠ 0 → ShortestRoundTrip conv bits) :
    parse conv text = .ok value ∧
      ((∃ canonical read, canonicalize conv value = .ok canonical ∧
          parse conv canonical = .ok read ∧ canonicalize conv read = .ok canonical) ↔
        ∀ bits, value.HasBinary64 bits → ¬Oversized conv bits) := by
  obtain ⟨before, body, after, -, -, -, hbody⟩ := id h
  obtain ⟨hmaps, hencoded, hspelled⟩ := spellsValue_all hbody
  have hbinary : ∀ lexical bits, Part (.number (.binary64 lexical bits)) value →
      isFinite bits = true := by
    intro lexical bits hpart
    obtain ⟨text, htext⟩ := hspelled _ hpart
    cases htext with
    | binary64 hsign hdigits hfraction hexponent hnonempty hbits hfinite => exact hfinite
  have hwritten : ∀ lexical bits, Part (.number (.binary64 lexical bits)) value → _ :=
    fun lexical bits hpart => binary64_rewritten (hbinary lexical bits hpart)
      (hconv bits ⟨lexical, hpart⟩)
  refine ⟨parse_spelled h, ?_, ?_⟩
  · rintro ⟨canonical, read, hcanonical, hread, -⟩ bits ⟨lexical, hpart⟩
    have hlexical : value.All (Value.IsNumber (Lexical conv)) := by
      refine all_isNumber.mpr ?_
      intro number hpart text htext
      cases number with
      | binary64 lexical bits =>
          obtain ⟨canonical, hbinary, hdecimal, -⟩ := hwritten lexical bits hpart
          obtain rfl := Except.ok.inj (hbinary.symm.trans htext)
          exact hdecimal
      | _ => exact (spellsNumber_written rfl htext).decimal
    have hread := all_isNumber.mp (spelled_of_parse hlexical hcanonical hread) _ hpart
    obtain ⟨written, hbinary, -, -, hspelled⟩ := hwritten lexical bits hpart
    exact hspelled (hread written hbinary)
  · intro hsizes
    refine reread_of_numbers hmaps hencoded (all_isNumber.mpr ?_)
    intro number hpart
    cases number with
    | binary64 lexical bits =>
        obtain ⟨canonical, hbinary, -, hback, -⟩ := hwritten lexical bits hpart
        obtain ⟨again, hspelled, hagain⟩ := hback (hsizes bits ⟨lexical, hpart⟩)
        exact ⟨canonical, again, hbinary, hspelled, hagain⟩
    | _ => exact rereadable_integer rfl

/-- Two numbers, written as the standard library writes them; every spelling of either is read. -/
def sampleConv : CharConv where
  fromChars text :=
    if decimalOf text = 3 / 2 then some 0x3ff8000000000000
    else if decimalOf text = 10 ^ 20 then some 0x4415af1d78b58c40
    else none
  toChars bits :=
    if bits = 0x3ff8000000000000 then some (ascii "1.5")
    else if bits = 0x4415af1d78b58c40 then some (ascii "1e+20")
    else none

theorem halves_parts : NumberParts [] [49] [46, 53] [] :=
  ⟨.inl rfl, .inr ⟨⟨by simp, by simp⟩, by simp⟩, .inr ⟨[53], ⟨by simp, by simp⟩, rfl⟩, .inl rfl⟩

theorem decimalOf_halves : decimalOf (ascii "1.5") = 3 / 2 := by
  refine (decimalOf_parts halves_parts).trans ?_
  simp [decimalValue, digitsValue, exponentOf_nil]
  norm_num

theorem large_parts {sign : Text} (h : sign = [] ∨ sign = [43]) :
    NumberParts [] [49] [] (101 :: (sign ++ [50, 48])) := by
  refine ⟨.inl rfl, .inr ⟨⟨by simp, by simp⟩, by simp⟩, .inl rfl,
    .inr ⟨101, sign, [50, 48], .inl rfl,
    ?_, ⟨by simp, by simp⟩, rfl⟩⟩
  rcases h with rfl | rfl <;> simp

theorem decimalOf_large {sign : Text} (h : sign = [] ∨ sign = [43]) :
    decimalOf ([49] ++ 101 :: (sign ++ [50, 48])) = 10 ^ 20 := by
  have hexponent : exponentOf (101 :: (sign ++ [50, 48])) = 20 := by
    rcases h with rfl | rfl <;> rfl
  refine (decimalOf_parts (large_parts h)).trans ?_
  rw [hexponent]
  simp [decimalValue, digitsValue]

theorem shortest_halves : ShortestRoundTrip sampleConv 0x3ff8000000000000 := by
  have hwritten : sampleConv.toChars 0x3ff8000000000000 = some (ascii "1.5") := rfl
  refine ⟨⟨_, _, _, _, ⟨halves_parts, by simp, by simp⟩, hwritten⟩, ?_, ?_⟩
  · intro text htext
    obtain rfl := Option.some.inj (hwritten.symm.trans htext)
    rw [decimalOf_halves]
    norm_num
  · intro text other htext _ hsame
    obtain rfl := Option.some.inj (hwritten.symm.trans htext)
    exact if_pos (hsame.trans decimalOf_halves)

theorem shortest_large : ShortestRoundTrip sampleConv 0x4415af1d78b58c40 := by
  have hwritten : sampleConv.toChars 0x4415af1d78b58c40 = some (ascii "1e+20") := rfl
  have hspelled : ascii "1e+20" = [49] ++ 101 :: ([43] ++ [50, 48]) := rfl
  have hdecimal : decimalOf (ascii "1e+20") = 10 ^ 20 := by
    rw [hspelled]
    exact decimalOf_large (.inr rfl)
  refine ⟨⟨[], [49], [], _, ⟨large_parts (.inr rfl), by simp, by simp⟩, hwritten⟩, ?_, ?_⟩
  · intro text htext
    obtain rfl := Option.some.inj (hwritten.symm.trans htext)
    rw [hdecimal]
    norm_num
  · intro text other htext _ hsame
    obtain rfl := Option.some.inj (hwritten.symm.trans htext)
    have hother : ¬decimalOf other = 3 / 2 := by
      rw [hsame, hdecimal]
      norm_num
    exact (if_neg hother).trans (if_pos (hsame.trans hdecimal))

theorem canonical_form_reread_halves :
    parse sampleConv (ascii "1.5") = .ok (.number (.binary64 (ascii "1.5") 0x3ff8000000000000)) ∧
      ((∃ canonical read, canonicalize sampleConv
            (.number (.binary64 (ascii "1.5") 0x3ff8000000000000)) = .ok canonical ∧
          parse sampleConv canonical = .ok read ∧ canonicalize sampleConv read = .ok canonical) ↔
        ∀ bits, (Value.number (.binary64 (ascii "1.5") 0x3ff8000000000000)).HasBinary64 bits →
          ¬Oversized sampleConv bits) := by
  have hspelled : SpellsNumber sampleConv (ascii "1.5")
      (.binary64 (ascii "1.5") 0x3ff8000000000000) :=
    .binary64 halves_parts.sign halves_parts.digits halves_parts.fraction halves_parts.exponent
      (by simp) (if_pos decimalOf_halves) rfl
  refine canonical_form_reread sampleConv
    ⟨[], ascii "1.5", [], by simp, blank_nil, blank_nil, .number hspelled⟩ ?_
  rintro bits ⟨lexical, hpart⟩ -
  cases hpart
  exact shortest_halves

/-- 1e20 is written as an integer of more than sixty-four bits. -/
theorem large_refused :
    parse sampleConv (ascii "1e20") =
        .ok (.number (.binary64 (ascii "1e20") 0x4415af1d78b58c40)) ∧
      ShortestRoundTrip sampleConv 0x4415af1d78b58c40 ∧
      canonicalize sampleConv (.number (.binary64 (ascii "1e20") 0x4415af1d78b58c40)) =
        .ok (ascii "100000000000000000000") ∧
      ¬∃ read, parse sampleConv (ascii "100000000000000000000") = .ok read := by
  have hbytes : ascii "1e20" = [49] ++ 101 :: ([] ++ [50, 48]) := rfl
  have hdecimal : decimalOf (ascii "1e20") = 10 ^ 20 := by
    rw [hbytes]
    exact decimalOf_large (.inl rfl)
  have hread : sampleConv.fromChars (ascii "1e20") = some 0x4415af1d78b58c40 := by
    have hother : ¬decimalOf (ascii "1e20") = 3 / 2 := by
      rw [hdecimal]
      norm_num
    exact (if_neg hother).trans (if_pos hdecimal)
  have hparts := large_parts (.inl rfl)
  have hspelled : SpellsNumber sampleConv (ascii "1e20")
      (.binary64 (ascii "1e20") 0x4415af1d78b58c40) :=
    .binary64 hparts.sign hparts.digits hparts.fraction hparts.exponent (by simp) hread rfl
  refine ⟨?_, shortest_large, ?_, ?_⟩
  · exact parse_spelled ⟨[], ascii "1e20", [], by simp, blank_nil, blank_nil, .number hspelled⟩
  · rfl
  · rintro ⟨read, hread⟩
    have hrefused : parse sampleConv (ascii "100000000000000000000") =
        .error [⟨.outOfRange, "$", "JCS-I64-RANGE",
          "nonnegative integer is outside unsigned 64-bit range"⟩] := rfl
    rw [hrefused] at hread
    cases hread

end CpuPrefetch.Protocol.Json
