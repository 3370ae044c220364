/-
Which values have a canonical form.

A string has one if it is UTF-8; an array or an object has one if everything in it has.
Whether a document can be written is so a question about its parts, and a document that
differs from one that can in a few members is settled by those members.
-/
import CpuPrefetch.Lib.Fallible
import CpuPrefetch.Protocol.Json

namespace CpuPrefetch.Protocol.Json

open List Fallible

variable {conv : CharConv} {T : Type}

/-! ### Lists of results -/

theorem inOrder_defined_iff {results : List (Result T)} :
    (∃ values, inOrder results = .ok values) ↔ ∀ result ∈ results, ∃ value, result = .ok value := by
  induction results with
  | nil => exact ⟨fun _ => nofun, fun _ => ⟨[], rfl⟩⟩
  | cons result rest ih =>
      rw [forall_mem_cons, ← ih]
      constructor
      · rintro ⟨values, h⟩
        obtain ⟨value, hvalue, h⟩ := bind_ok h
        obtain ⟨others, hothers, -⟩ := bind_ok h
        exact ⟨⟨value, hvalue⟩, others, hothers⟩
      · rintro ⟨⟨value, rfl⟩, others, hothers⟩
        refine ⟨value :: others, ?_⟩
        rw [inOrder, hothers]
        rfl

/-- The values are those of the results, one by one. -/
theorem inOrder_map {S : Type} {f : S → Result T} {items : List S} {values : List T}
    (h : inOrder (items.map f) = .ok values) :
    List.Forall₂ (fun item value => f item = .ok value) items values := by
  induction items generalizing values with
  | nil =>
      obtain rfl := Except.ok.inj h
      exact .nil
  | cons item rest ih =>
      obtain ⟨value, hvalue, h⟩ := bind_ok h
      obtain ⟨others, hothers, h⟩ := bind_ok h
      obtain rfl := Except.ok.inj h
      exact .cons hvalue (ih hothers)

/-! ### Strings -/

/-- The text is UTF-8. -/
def IsUtf8 (text : Text) : Prop := ∃ codePoints, decodeUtf8 text = .ok codePoints

variable {text : Text}

theorem appendString_defined_iff : (∃ written, appendString text = .ok written) ↔ IsUtf8 text := by
  constructor
  · rintro ⟨written, h⟩
    obtain ⟨codePoints, hdecoded, -⟩ := bind_ok h
    exact ⟨codePoints, hdecoded⟩
  · rintro ⟨codePoints, hdecoded⟩
    exact ⟨34 :: escapeText 0 text ++ [34], by rw [appendString, hdecoded]; rfl⟩

theorem utf16Key_defined_iff : (∃ units, utf16Key text = .ok units) ↔ IsUtf8 text := by
  constructor
  · rintro ⟨units, h⟩
    obtain ⟨codePoints, hdecoded, -⟩ := map_ok h
    exact ⟨codePoints, hdecoded⟩
  · rintro ⟨codePoints, hdecoded⟩
    exact ⟨codePoints.flatMap utf16Units, by rw [utf16Key, hdecoded]; rfl⟩

theorem isUtf8_cons {byte : UInt8} (hbyte : byte < 0x80) (htext : IsUtf8 text) :
    IsUtf8 (byte :: text) := by
  obtain ⟨codePoints, hdecoded⟩ := htext
  have hle : byte ≤ 0x7f := by
    rw [UInt8.lt_iff_toNat_lt] at hbyte
    rw [UInt8.le_iff_toNat_le]
    exact Nat.le_of_lt_succ hbyte
  have hlead : Utf8.leadByte byte = some (byte.toUInt32, 1) := if_pos hle
  have hsmall : byte.toNat < 0x80 := hbyte
  have hscalar : Utf8.invalidScalar 1 byte.toUInt32 = false := by
    simp [Utf8.invalidScalar, UInt32.lt_iff_toNat_lt, UInt32.le_iff_toNat_le]
    omega
  refine ⟨byte.toUInt32 :: codePoints, ?_⟩
  rw [decodeUtf8, hlead]
  simp only [decodeSequence, Utf8.continuationBytes, hscalar, hdecoded]
  rfl

/-- Texts of the source are UTF-8. -/
theorem isUtf8_ascii (h : text.all (fun byte => byte < 0x80) = true) : IsUtf8 text := by
  induction text with
  | nil => exact ⟨[], rfl⟩
  | cons byte rest ih =>
      rw [all_cons, Bool.and_eq_true, decide_eq_true_eq] at h
      exact isUtf8_cons h.1 (ih h.2)

/-! ### Objects -/

/-- The members keyed are the members, each with the units of its key. -/
theorem keyed_spec {members : List (Text × Result Text)} {keyed : List OrderedMember}
    (h : inOrder (members.map fun member =>
      (utf16Key member.1).map fun units => (units, member)) = .ok keyed) :
    keyed.map Prod.snd = members ∧ ∀ member ∈ keyed, utf16Key member.2.1 = .ok member.1 := by
  have hpairs := inOrder_map h
  clear h
  induction hpairs with
  | nil => exact ⟨rfl, nofun⟩
  | cons hfirst _ ih =>
      obtain ⟨units, hunits, rfl⟩ := map_ok hfirst
      refine ⟨congrArg (List.cons _) ih.1, ?_⟩
      rw [forall_mem_cons]
      exact ⟨hunits, ih.2⟩

theorem canonicalObject_defined_iff {members : List (Text × Result Text)} :
    (∃ text, canonicalObject members = .ok text) ↔
      ∀ member ∈ members, IsUtf8 member.1 ∧ ∃ text, member.2 = .ok text := by
  constructor
  · rintro ⟨text, h⟩ member hmember
    obtain ⟨ordered, hordered, h⟩ := bind_ok h
    obtain ⟨texts, htexts, -⟩ := bind_ok h
    obtain ⟨keyed, hkeyed, hsorted⟩ := bind_ok hordered
    obtain rfl := Except.ok.inj hsorted
    obtain ⟨hmembers, -⟩ := keyed_spec hkeyed
    rw [← hmembers] at hmember
    obtain ⟨place, hplace, rfl⟩ := List.mem_map.mp hmember
    have hwritten := inOrder_defined_iff.mp ⟨texts, htexts⟩ _
      (mem_map_of_mem ((mem_insertionSort _).mpr hplace))
    obtain ⟨entry, hentry⟩ := hwritten
    obtain ⟨key, hkey, hentry⟩ := bind_ok hentry
    obtain ⟨value, hvalue, -⟩ := bind_ok hentry
    exact ⟨appendString_defined_iff.mp ⟨key, hkey⟩, value, hvalue⟩
  · intro hmembers
    obtain ⟨keyed, hkeyed⟩ : ∃ keyed, inOrder (members.map fun member =>
        (utf16Key member.1).map fun units => (units, member)) = .ok keyed := by
      rw [inOrder_defined_iff, forall_mem_map]
      intro member hmember
      obtain ⟨units, hunits⟩ := utf16Key_defined_iff.mpr (hmembers member hmember).1
      exact ⟨(units, member), by rw [hunits]; rfl⟩
    obtain ⟨hperm, -⟩ := keyed_spec hkeyed
    obtain ⟨texts, htexts⟩ : ∃ texts, inOrder
        ((keyed.insertionSort fun left right => left.1 ≤ right.1).map fun member => do
          let key ← appendString member.2.1
          let value ← member.2.2
          .ok (key ++ 58 :: value)) = .ok texts := by
      rw [inOrder_defined_iff, forall_mem_map]
      intro place hplace
      have hmember : place.2 ∈ members := by
        rw [← hperm]
        exact mem_map_of_mem ((mem_insertionSort _).mp hplace)
      obtain ⟨hkey, value, hvalue⟩ := hmembers place.2 hmember
      obtain ⟨key, hkey⟩ := appendString_defined_iff.mpr hkey
      exact ⟨key ++ 58 :: value, by rw [hkey, hvalue]; rfl⟩
    refine ⟨123 :: commaSeparated texts ++ [125], ?_⟩
    rw [canonicalObject, orderMembers, hkeyed]
    show (inOrder _ >>= fun texts => _) = _
    rw [htexts]
    rfl

/-! ### Values -/

/-- The value has a canonical form. -/
def HasForm (conv : CharConv) (value : Value) : Prop := ∃ text, canonicalize conv value = .ok text

theorem canonicalizeElements_eq (values : List Value) :
    canonicalizeElements conv values = values.map (canonicalize conv) := by
  induction values with
  | nil => rfl
  | cons value rest ih => rw [canonicalizeElements, ih, map_cons]

theorem canonicalizeMembers_eq (members : List (Text × Value)) :
    canonicalizeMembers conv members =
      members.map fun member => (member.1, canonicalize conv member.2) := by
  induction members with
  | nil => rfl
  | cons member rest ih => rw [canonicalizeMembers, ih, map_cons]

theorem hasForm_string : HasForm conv (.string text) ↔ IsUtf8 text := by
  rw [← appendString_defined_iff, HasForm]
  rfl

theorem hasForm_array {values : List Value} :
    HasForm conv (.array values) ↔ ∀ value ∈ values, HasForm conv value := by
  have hlist : HasForm conv (.array values) ↔
      ∃ texts, inOrder (canonicalizeElements conv values) = .ok texts := by
    unfold HasForm
    rw [canonicalize]
    constructor
    · rintro ⟨text, h⟩
      obtain ⟨texts, htexts, -⟩ := bind_ok h
      exact ⟨texts, htexts⟩
    · rintro ⟨texts, htexts⟩
      exact ⟨91 :: commaSeparated texts ++ [93], by rw [htexts]; rfl⟩
  rw [hlist, canonicalizeElements_eq, inOrder_defined_iff, forall_mem_map]
  rfl

variable {members : List (Text × Value)}

theorem hasForm_object : HasForm conv (.object members) ↔
      ∀ member ∈ members, IsUtf8 member.1 ∧ HasForm conv member.2 := by
  rw [HasForm, canonicalize, canonicalObject_defined_iff, canonicalizeMembers_eq,
    forall_mem_map]
  rfl

/-! ### Objects made of members -/

theorem mem_emplace {key : Text} {value : Value} {object object' : Object}
    (h : Object.emplace key value object = some object') (member : Text × Value) :
    member ∈ object' ↔ member = (key, value) ∨ member ∈ object := by
  induction object generalizing object' with
  | nil =>
      obtain rfl := Option.some.inj h
      simp
  | cons first rest ih =>
      rw [Object.emplace] at h
      split at h
      · obtain rfl := Option.some.inj h
        simp
      · split at h
        · cases h
        · obtain ⟨others, hothers, rfl⟩ := Option.map_eq_some_iff.mp h
          rw [mem_cons, ih hothers, mem_cons]
          tauto

theorem emplace_isSome {key : Text} (value : Value) {object : Object}
    (h : ∀ member ∈ object, member.1 ≠ key) : (Object.emplace key value object).isSome := by
  induction object with
  | nil => rfl
  | cons first rest ih =>
      obtain ⟨hfirst, hrest⟩ := List.forall_mem_cons.mp h
      rw [Object.emplace]
      split
      · rfl
      · rw [if_neg (Ne.symm hfirst), Option.isSome_map]
        exact ih hrest

/-- An object of members with distinct keys has them all. -/
theorem mem_of (h : (members.map Prod.fst).Nodup) (member : Text × Value) :
    member ∈ Object.of members ↔ member ∈ members := by
  -- from the last member back: what is emplaced last finds its key free
  induction members using List.reverseRecOn generalizing member with
  | nil => exact Iff.rfl
  | append_singleton front last ih =>
      rw [map_append, nodup_append] at h
      obtain ⟨hfront, -, hfresh⟩ := h
      have hfree : ∀ other ∈ Object.of front, other.1 ≠ last.1 := by
        intro other hother
        exact hfresh other.1 (mem_map_of_mem ((ih hfront other).mp hother)) last.1 (by simp)
      obtain ⟨object, hobject⟩ := Option.isSome_iff_exists.mp (emplace_isSome last.2 hfree)
      have hof : Object.of (front ++ [last]) = object := by
        rw [Object.of, foldl_append, ← Object.of]
        show (Object.emplace last.1 last.2 (Object.of front)).getD _ = _
        rw [hobject]
        rfl
      rw [hof, mem_emplace hobject, ih hfront, mem_append, mem_singleton, or_comm]

/-- An object whose keys are texts of the source has a form if its values have. -/
theorem hasForm_of (h : (members.map Prod.fst).Nodup)
    (hkeys : ((members.map Prod.fst).all fun key => key.all fun byte => byte < 0x80) = true) :
    HasForm conv (.object (Object.of members)) ↔ ∀ value ∈ members.map Prod.snd,
      HasForm conv value := by
  rw [hasForm_object, forall_mem_map]
  constructor
  · intro hmembers member hmember
    exact (hmembers member ((mem_of h member).mpr hmember)).2
  · intro hvalues member hmember
    rw [mem_of h] at hmember
    exact ⟨isUtf8_ascii (List.all_eq_true.mp hkeys _ (mem_map_of_mem hmember)),
      hvalues member hmember⟩

end CpuPrefetch.Protocol.Json
