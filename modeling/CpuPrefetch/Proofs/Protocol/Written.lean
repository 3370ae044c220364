/-
Reading a document that is made of members.

The other direction of `Fields`: a field that is there, and of the right kind, is read, so
a loader goes through on a document that was put together for it.
-/
import CpuPrefetch.Proofs.Protocol.Fields
import CpuPrefetch.Protocol.LoadBlock

namespace CpuPrefetch.Protocol

open Json

variable {members : List (Text × Value)} {object : Object} {key : Text} {value : Value}

namespace Json

/-- What is at a place of the members is found under its key. -/
theorem find_at (hkeys : (members.map Prod.fst).Nodup) (place : Nat)
    (h : members[place]? = some (key, value)) : Object.find key (Object.of members) = some value :=
  find_of_mem (of_sorted members) ((mem_of hkeys _).mpr (List.mem_of_getElem? h))

theorem assign_keys {other : Text} (h : other ∈ (Object.assign key value object).map Prod.fst) :
    other = key ∨ other ∈ object.map Prod.fst := by
  induction object with
  | nil => exact Or.inl (by simpa [Object.assign] using h)
  | cons first rest ih =>
      rw [Object.assign] at h
      split at h
      · simpa using h
      · split at h
        · exact Or.inr (by simpa using h)
        · rw [List.map_cons, List.mem_cons] at h ⊢
          rcases h with hfirst | hrest
          · exact Or.inr (Or.inl hfirst)
          · exact (ih hrest).imp_right Or.inr

theorem assign_sorted (h : SortedKeys object) : SortedKeys (Object.assign key value object) := by
  induction object with
  | nil => exact List.pairwise_singleton _ _
  | cons first rest ih =>
      obtain ⟨hfirst, hrest⟩ := List.pairwise_cons.mp h
      rw [Object.assign]
      split
      · rename_i hlt
        refine List.pairwise_cons.mpr ⟨?_, h⟩
        intro member hmember
        rcases List.mem_cons.mp hmember with rfl | hlater
        · exact hlt
        · exact List.lt_trans hlt (hfirst member hlater)
      · split
        · exact List.pairwise_cons.mpr ⟨hfirst, hrest⟩
        · rename_i hge hne
          refine List.pairwise_cons.mpr ⟨?_, ih hrest⟩
          intro member hmember
          rcases assign_keys (List.mem_map_of_mem hmember) with hkey | hkey
          · rw [hkey]
            exact Std.lt_of_le_of_ne (Std.not_lt.mp hge) (Ne.symm hne)
          · obtain ⟨other, hother, hsame⟩ := List.mem_map.mp hkey
            rw [← hsame]
            exact hfirst other hother

theorem mem_assign (h : SortedKeys object) {member : Text × Value} :
    member ∈ Object.assign key value object ↔
      member = (key, value) ∨ (member ∈ object ∧ member.1 ≠ key) := by
  induction object with
  | nil => simp [Object.assign]
  | cons first rest ih =>
      obtain ⟨hfirst, hrest⟩ := List.pairwise_cons.mp h
      rw [Object.assign]
      split
      · rename_i hlt
        have hfresh : ∀ other ∈ first :: rest, other.1 ≠ key := by
          intro other hother hsame
          rcases List.mem_cons.mp hother with rfl | hlater
          · exact List.lt_irrefl _ (hsame ▸ hlt)
          · exact List.lt_irrefl _ (List.lt_trans hlt (hsame ▸ hfirst other hlater))
        rw [List.mem_cons]
        exact or_congr_right ⟨fun hmem => ⟨hmem, hfresh member hmem⟩, And.left⟩
      · split
        · rename_i hsame
          have hrestKeys : ∀ other ∈ rest, other.1 ≠ key := by
            intro other hother hkey
            exact List.lt_irrefl _ (hkey ▸ hsame ▸ hfirst other hother)
          rw [List.mem_cons, List.mem_cons, ← hsame]
          constructor
          · rintro (rfl | hmem)
            · exact Or.inl rfl
            · exact Or.inr ⟨Or.inr hmem, hsame ▸ hrestKeys member hmem⟩
          · rintro (hnew | ⟨hsame' | hmem, hkey⟩)
            · exact Or.inl hnew
            · exact absurd (by rw [hsame', hsame]) hkey
            · exact Or.inr hmem
        · rename_i hge hne
          rw [List.mem_cons, List.mem_cons, ih hrest]
          constructor
          · rintro (rfl | hnew | ⟨hmem, hkey⟩)
            · exact Or.inr ⟨Or.inl rfl, Ne.symm hne⟩
            · exact Or.inl hnew
            · exact Or.inr ⟨Or.inr hmem, hkey⟩
          · rintro (hnew | ⟨hfirst | hmem, hkey⟩)
            · exact Or.inr (Or.inl hnew)
            · exact Or.inl hfirst
            · exact Or.inr (Or.inr ⟨hmem, hkey⟩)

/-- Assigning to a key that is there replaces its value. -/
theorem assign_of (other : Value) {front back : List (Text × Value)}
    (h : ((front ++ (key, value) :: back).map Prod.fst).Nodup) :
    Object.assign key other (Object.of (front ++ (key, value) :: back)) =
      Object.of (front ++ (key, other) :: back) := by
  have h' : ((front ++ (key, other) :: back).map Prod.fst).Nodup := by simpa using h
  have hsorted : SortedKeys (Object.assign key other (Object.of (front ++ (key, value) :: back))) :=
    assign_sorted (of_sorted _)
  refine sortedKeys_ext hsorted (of_sorted _) ?_
  rw [List.perm_ext_iff_of_nodup hsorted.nodup.of_map (of_sorted _).nodup.of_map]
  rintro ⟨memberKey, memberValue⟩
  have hkeys : (memberKey, memberValue) ∈ front ++ back → memberKey ≠ key := by
    rintro hmem rfl
    have hmiddle : (front ++ (memberKey, value) :: back).Perm
      ((memberKey, value) :: (front ++ back)) :=
      List.perm_middle
    have hperm := hmiddle.map Prod.fst
    rw [hperm.nodup_iff, List.map_cons, List.nodup_cons] at h
    exact h.1 (List.mem_map.mpr ⟨_, hmem, rfl⟩)
  rw [mem_assign (of_sorted _), mem_of h, mem_of h']
  simp only [List.mem_append, List.mem_cons, Prod.mk.injEq] at hkeys ⊢
  grind

/-! ### Values that are read back as they are -/

/-- The value can be read back, and its numbers are spelled as they are read. -/
def Value.Settled (value : Value) : Prop := value.Plain ∧ value.respelled = value

theorem settled_string (text : Text) : (Value.string text).Settled := ⟨trivial, rfl⟩

theorem settled_boolean (flag : Bool) : (Value.boolean flag).Settled := ⟨trivial, rfl⟩

theorem settled_decimal (number : UInt64) :
    (Value.number (.unsignedInteger (decimal number.toNat) number)).Settled :=
  ⟨rfl, rfl⟩

theorem settled_array {values : List Value} (h : ∀ value ∈ values, value.Settled) :
    (Value.array values).Settled := by
  refine ⟨plainElements_iff.mpr fun value hvalue => (h value hvalue).1, ?_⟩
  rw [Value.respelled, respelledElements_eq,
    List.map_congr_left fun value hvalue => (h value hvalue).2, List.map_id']

/-- An object of members with distinct keys is settled if its members are. -/
theorem settled_of (hkeys : (members.map Prod.fst).Nodup)
    (h : ∀ value ∈ members.map Prod.snd, value.Settled) :
    (Value.object (Object.of members)).Settled := by
  refine ⟨plain_of hkeys fun value hvalue => (h value hvalue).1, ?_⟩
  rw [Value.respelled, respelledMembers_eq]
  refine congrArg Value.object ?_
  conv_rhs => rw [← List.map_id (Object.of members)]
  refine List.map_congr_left fun member hmember => ?_
  have hvalue := h member.2 (List.mem_map_of_mem ((mem_of hkeys member).mp hmember))
  rw [respelledMember, hvalue.2, id_eq]

end Json

namespace Load

variable {name path : String}

theorem rejectUnknown_of {allowed : List String} (hkeys : (members.map Prod.fst).Nodup)
    (h : ∀ key ∈ members.map Prod.fst, key ∈ allowed.map ascii) :
    rejectUnknown (Object.of members) allowed path = .ok () := by
  have hnone : (Object.of members).find? (fun member => member.1 ∉ allowed.map ascii) = none := by
    rw [List.find?_eq_none]
    intro member hmember
    simpa using h member.1 (List.mem_map_of_mem ((mem_of hkeys member).mp hmember))
  rw [rejectUnknown, hnone]

theorem field_of {T : Type} {read : Value → String → Result T} {result : T}
    (hfind : Object.find (ascii name) object = some value)
    (hread : read value (path ++ "/" ++ name) = .ok result) :
    field read object name path = .ok result := by
  rw [field, required, hfind]
  exact hread

variable {text : Text}

theorem stringOf_of (h : text ≠ []) : stringOf (.string text) path = .ok text := by
  rw [stringOf]
  simp [h]

theorem stringField_of (hfind : Object.find (ascii name) object = some (.string text))
    (h : text ≠ []) : stringField object name path = .ok text :=
  field_of hfind (stringOf_of h)

theorem uintField_of {lexical : Text} {number : UInt64}
    (hfind : Object.find (ascii name) object = some (.number (.unsignedInteger lexical number))) :
    uintField object name path = .ok number :=
  field_of hfind rfl

theorem parseIdentifier_of (h : text ≠ []) : parseIdentifier text path = .ok ⟨text, h⟩ := by
  rw [parseIdentifier, dif_neg h]

variable {tag : IdentifierTag}

theorem identifierField_of {id : Identifier tag}
    (hfind : Object.find (ascii name) object = some (.string id.value)) :
    identifierField tag object name path = .ok id := by
  rw [identifierField, idField, stringField_of hfind id.nonempty]
  show (parseIdentifier id.value _ >>=
    fun found => .ok (⟨found.val, found.property⟩ : Identifier tag)) = _
  rw [parseIdentifier_of id.nonempty]
  rfl

theorem optionalNullableId_of {id : Identifier tag}
    (hfind : Object.find (ascii name) object = some (.string id.value)) :
    optionalNullableId tag object name path = .ok (some id) := by
  rw [optionalNullableId, hfind]
  show (stringOf (.string id.value) _ >>= fun text => parseIdentifier text _ >>= fun found =>
    .ok (some (⟨found.val, found.property⟩ : Identifier tag))) = _
  rw [stringOf_of id.nonempty]
  show (parseIdentifier id.value _ >>= fun found =>
    .ok (some (⟨found.val, found.property⟩ : Identifier tag))) = _
  rw [parseIdentifier_of id.nonempty]
  rfl

theorem optionalNullableId_null (hfind : Object.find (ascii name) object = some .null) :
    optionalNullableId tag object name path = .ok none := by
  rw [optionalNullableId, hfind]

theorem shaField_of {digest : Sha256}
    (hfind : Object.find (ascii name) object = some (.string digest.hex)) :
    shaField object name path = .ok digest := by
  have hvalid : digest.hex.length = 64 := by
    have h := digest.valid
    rw [validSha256, Bool.and_eq_true, decide_eq_true_eq] at h
    exact h.1
  have hne : digest.hex ≠ [] := by
    intro hnil
    rw [hnil] at hvalid
    cases hvalid
  rw [shaField, stringField_of hfind hne]
  show parseSha256 digest.hex _ = _
  rw [parseSha256, if_neg (not_not.mpr hvalid), dif_pos digest.valid]

theorem versionField_of
    (hfind : Object.find (ascii name) object = some (.string kProtocolVersion)) :
    versionField object name path = .ok .v200pre2 := by
  rw [versionField, stringField_of hfind (by decide)]
  show parseProtocolVersion kProtocolVersion (path ++ "/" ++ name) = _
  rw [parseProtocolVersion, if_neg (by decide), if_pos rfl]

/-- A level's name is read as the level. -/
theorem enumValue_of {E : Type} {entries : List (String × E)} {rule literal : String} {level : E}
    (hne : ascii literal ≠ [])
    (h : (entries.find? fun entry => ascii entry.1 = ascii literal).map Prod.snd = some level) :
    enumValue (.string (ascii literal)) path rule entries = .ok level := by
  obtain ⟨entry, hentry, rfl⟩ := Option.map_eq_some_iff.mp h
  simp only [enumValue, stringOf_of hne, bind, Except.bind, hentry]

theorem enumField_of {E : Type} {entries : List (String × E)} {rule literal : String} {level : E}
    (hfind : Object.find (ascii name) object = some (.string (ascii literal)))
    (hne : ascii literal ≠ [])
    (h : (entries.find? fun entry => ascii entry.1 = ascii literal).map Prod.snd = some level) :
    enumField object name path rule entries = .ok level :=
  field_of hfind (enumValue_of hne h)

/-- Elements that are all read are read in turn. -/
theorem elements_of {T : Type} {read : Value → String → Result T} {write : T → Value}
    {items : List T}
    (h : ∀ item ∈ items, ∀ path, read (write item) path = .ok item) (index : Nat) :
    elements read path index (items.map write) = .ok items := by
  induction items generalizing index with
  | nil => rfl
  | cons item rest ih =>
      rw [List.map_cons, elements, h item List.mem_cons_self]
      show (elements read path (index + 1) (rest.map write) >>=
        fun others => .ok (item :: others)) = _
      rw [ih (fun other hother => h other (List.mem_cons_of_mem _ hother))]
      rfl

end Load

end CpuPrefetch.Protocol
