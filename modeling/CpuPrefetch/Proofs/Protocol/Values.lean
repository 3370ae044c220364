/-
Values, part by part.

A value is a tree whose parts are its elements and its members' values.  What a statement
asks of a value it asks of every part: that strings are UTF-8, that objects are maps, that
no number is a binary64 one.  What is read back of a canonical text differs from what was
written only in how its numbers are spelled.
-/
import CpuPrefetch.Proofs.Protocol.Maps

namespace CpuPrefetch.Protocol.Json

variable {conv : CharConv}

/-! ### Parts -/

/-- What holds of a value once it holds of all its parts, holds of every value. -/
@[elab_as_elim]
theorem Value.byParts {motive : Value → Prop} (null : motive .null)
    (boolean : ∀ value, motive (.boolean value)) (number : ∀ number, motive (.number number))
    (string : ∀ text, motive (.string text))
    (array : ∀ values, (∀ value ∈ values, motive value) → motive (.array values))
    (object : ∀ members, (∀ member ∈ members, motive member.2) → motive (.object members))
    (value : Value) : motive value := by
  refine @Value.rec motive (fun values => ∀ value ∈ values, motive value)
    (fun members => ∀ member ∈ members, motive member.2) (fun member => motive member.2) null
    boolean number string array object ?_ ?_ ?_ ?_ ?_ value
  · intro value hvalue
    cases hvalue
  · intro first rest hfirst hrest
    exact List.forall_mem_cons.mpr ⟨hfirst, hrest⟩
  · intro member hmember
    cases hmember
  · intro first rest hfirst hrest
    exact List.forall_mem_cons.mpr ⟨hfirst, hrest⟩
  · intro key value hvalue
    exact hvalue

/-- A value inside another, or the value itself. -/
inductive Part (part : Value) : Value → Prop
  | self : Part part part
  | element {values : List Value} {value : Value} (hmem : value ∈ values)
      (hpart : Part part value) : Part part (.array values)
  | member {members : Object} {member : Text × Value} (hmem : member ∈ members)
      (hpart : Part part member.2) : Part part (.object members)

/-- Every part of the value satisfies this. -/
def Value.All (p : Value → Prop) (value : Value) : Prop := ∀ part, Part part value → p part

/-- If it is an object, it is a map. -/
def Value.IsMap : Value → Prop
  | .object members => SortedKeys members
  | _ => True

/-- If it is a string or an object, its text or its keys are UTF-8. -/
def Value.IsEncoded : Value → Prop
  | .string text => IsUtf8 text
  | .object members => ∀ member ∈ members, IsUtf8 member.1
  | _ => True

/-- If it is a number, the number satisfies this. -/
def Value.IsNumber (p : Number → Prop) : Value → Prop
  | .number spelled => p spelled
  | _ => True

variable {value : Value}

theorem all_isNumber {p : Number → Prop} :
    value.All (Value.IsNumber p) ↔ ∀ number, Part (.number number) value → p number := by
  constructor
  · intro h number hpart
    exact h _ hpart
  · intro h part hpart
    cases part with
    | number number => exact h number hpart
    | _ => trivial

theorem Value.All.imp {p q : Number → Prop} (h : value.All (Value.IsNumber p))
    (himp : ∀ number, p number → q number) : value.All (Value.IsNumber q) :=
  all_isNumber.mpr fun number hpart => himp number (all_isNumber.mp h number hpart)

section

variable {p : Value → Prop}

theorem all_null : Value.null.All p ↔ p .null := by
  constructor
  · intro h
    exact h _ .self
  · intro h part hpart
    cases hpart
    exact h

theorem all_boolean {value : Bool} : (Value.boolean value).All p ↔ p (.boolean value) := by
  constructor
  · intro h
    exact h _ .self
  · intro h part hpart
    cases hpart
    exact h

theorem all_number {number : Number} : (Value.number number).All p ↔ p (.number number) := by
  constructor
  · intro h
    exact h _ .self
  · intro h part hpart
    cases hpart
    exact h

theorem all_string {text : Text} : (Value.string text).All p ↔ p (.string text) := by
  constructor
  · intro h
    exact h _ .self
  · intro h part hpart
    cases hpart
    exact h

theorem all_array {values : List Value} :
    (Value.array values).All p ↔ p (.array values) ∧ ∀ value ∈ values, value.All p := by
  constructor
  · intro h
    refine ⟨h _ .self, ?_⟩
    intro value hvalue part hpart
    exact h part (.element hvalue hpart)
  · rintro ⟨hself, h⟩ part hpart
    cases hpart with
    | self => exact hself
    | element hmem hpart => exact h _ hmem part hpart

theorem all_object {members : Object} :
    (Value.object members).All p ↔ p (.object members) ∧ ∀ member ∈ members, member.2.All p := by
  constructor
  · intro h
    refine ⟨h _ .self, ?_⟩
    intro member hmember part hpart
    exact h part (.member hmember hpart)
  · rintro ⟨hself, h⟩ part hpart
    cases hpart with
    | self => exact hself
    | member hmem hpart => exact h _ hmem part hpart

end

/-! ### Canonical forms -/

/-- A value is written if its strings, its keys and its numbers are. -/
theorem hasForm_iff : HasForm conv value ↔ value.All Value.IsEncoded ∧
      value.All (Value.IsNumber fun number => ∃ text, canonicalNumber conv number = .ok text) := by
  induction value using Value.byParts with
  | null =>
      rw [all_null, all_null]
      exact ⟨fun _ => ⟨trivial, trivial⟩, fun _ => ⟨_, rfl⟩⟩
  | boolean value =>
      rw [all_boolean, all_boolean]
      exact ⟨fun _ => ⟨trivial, trivial⟩, fun _ => ⟨_, rfl⟩⟩
  | number number =>
      rw [all_number, all_number]
      exact ⟨fun h => ⟨trivial, h⟩, fun h => h.2⟩
  | string text =>
      rw [all_string, all_string, hasForm_string]
      exact ⟨fun h => ⟨h, trivial⟩, fun h => h.1⟩
  | array values ih =>
      rw [all_array, all_array, hasForm_array]
      constructor
      · intro h
        exact ⟨⟨trivial, fun value hvalue => ((ih value hvalue).mp (h value hvalue)).1⟩,
          trivial, fun value hvalue => ((ih value hvalue).mp (h value hvalue)).2⟩
      · rintro ⟨⟨-, hencoded⟩, -, hnumbers⟩ value hvalue
        exact (ih value hvalue).mpr ⟨hencoded value hvalue, hnumbers value hvalue⟩
  | object members ih =>
      rw [all_object, all_object, hasForm_object]
      constructor
      · intro h
        exact ⟨⟨fun member hmember => (h member hmember).1,
            fun member hmember => ((ih member hmember).mp (h member hmember).2).1⟩,
          trivial, fun member hmember => ((ih member hmember).mp (h member hmember).2).2⟩
      · rintro ⟨⟨hkeys, hencoded⟩, -, hnumbers⟩ member hmember
        exact ⟨hkeys member hmember,
          (ih member hmember).mpr ⟨hencoded member hmember, hnumbers member hmember⟩⟩

/-! ### Numbers spelled anew -/

mutual

/-- The value with each of its numbers replaced. -/
def Value.renumbered (f : Number → Number) : Value → Value
  | .null => .null
  | .boolean value => .boolean value
  | .number spelled => .number (f spelled)
  | .string text => .string text
  | .array values => .array (renumberedElements f values)
  | .object members => .object (renumberedMembers f members)

def renumberedElements (f : Number → Number) : List Value → List Value
  | [] => []
  | value :: rest => value.renumbered f :: renumberedElements f rest

def renumberedMembers (f : Number → Number) : List (Text × Value) → List (Text × Value)
  | [] => []
  | (key, value) :: rest => (key, value.renumbered f) :: renumberedMembers f rest

end

section

variable {f : Number → Number}

theorem renumberedElements_eq (values : List Value) :
    renumberedElements f values = values.map (Value.renumbered f) := by
  induction values with
  | nil => rfl
  | cons value rest ih => rw [renumberedElements, ih, List.map_cons]

/-- A member with its value's numbers replaced. -/
def renumberedMember (f : Number → Number) (member : Text × Value) : Text × Value :=
  (member.1, member.2.renumbered f)

theorem renumberedMembers_eq (members : List (Text × Value)) :
    renumberedMembers f members = members.map (renumberedMember f) := by
  induction members with
  | nil => rfl
  | cons member rest ih => rw [renumberedMembers, ih, List.map_cons, renumberedMember]

/-- Numbers with the same canonical form make no difference to the value's. -/
theorem canonicalize_renumbered
    (h : value.All (Value.IsNumber fun number =>
      canonicalNumber conv (f number) = canonicalNumber conv number)) :
    canonicalize conv (value.renumbered f) = canonicalize conv value := by
  induction value using Value.byParts with
  | null => rfl
  | boolean value => rfl
  | number number => exact all_number.mp h
  | string text => rfl
  | array values ih =>
      obtain ⟨-, hvalues⟩ := all_array.mp h
      have hsame : canonicalizeElements conv (renumberedElements f values) =
          canonicalizeElements conv values := by
        rw [canonicalizeElements_eq, canonicalizeElements_eq, renumberedElements_eq, List.map_map]
        exact List.map_congr_left fun value hvalue => ih value hvalue (hvalues value hvalue)
      rw [Value.renumbered, canonicalize, canonicalize, hsame]
  | object members ih =>
      obtain ⟨-, hmembers⟩ := all_object.mp h
      have hsame : canonicalizeMembers conv (renumberedMembers f members) =
          canonicalizeMembers conv members := by
        rw [canonicalizeMembers_eq, canonicalizeMembers_eq, renumberedMembers_eq, List.map_map]
        refine List.map_congr_left ?_
        intro member hmember
        rw [Function.comp, renumberedMember, ih member hmember (hmembers member hmember)]
      rw [Value.renumbered, canonicalize, canonicalize, hsame]

end

end CpuPrefetch.Protocol.Json
