/-
The fields of a document that was written.

A document is made of members with distinct keys.  What is read back has the same value
under each key, so a loader that went through has read, field by field, what was written.
-/
import CpuPrefetch.Proofs.Protocol.ReadBack
import CpuPrefetch.Protocol.Load

namespace CpuPrefetch.Protocol

open Json

variable {members : List (Text × Value)} {object : Object} {key : Text} {value : Value}

namespace Json

/-! ### Lookups -/

theorem find_of_mem (hsorted : SortedKeys object) (h : (key, value) ∈ object) :
    Object.find key object = some value := by
  induction object with
  | nil => cases h
  | cons first rest ih =>
      obtain ⟨hfirst, hrest⟩ := List.pairwise_cons.mp hsorted
      rw [Object.find, List.find?_cons]
      rcases List.mem_cons.mp h with rfl | hlater
      · simp
      · have hne : first.1 ≠ key := by
          intro hsame
          have hlt := hfirst _ hlater
          rw [hsame] at hlt
          exact List.lt_irrefl _ hlt
        simp only [hne, decide_false]
        exact ih hrest hlater

theorem find_eq_none (h : ∀ member ∈ object, member.1 ≠ key) : Object.find key object = none := by
  rw [Object.find, List.find?_eq_none.mpr, Option.map_none]
  intro member hmember
  simpa using h member hmember

theorem find_respelled :
    Object.find key (respelledMembers object) = (Object.find key object).map Value.respelled := by
  rw [respelledMembers_eq, Object.find, Object.find, List.find?_map, Option.map_map, Option.map_map]
  rfl

/-- What a document that was read back has under a key it was written with. -/
theorem find_document (hkeys : (members.map Prod.fst).Nodup) (h : (key, value) ∈ members) :
    Object.find key (respelledMembers (Object.of members)) = some value.respelled := by
  rw [find_respelled, find_of_mem (of_sorted members) ((mem_of hkeys _).mpr h), Option.map_some]

theorem find_document_none (hkeys : (members.map Prod.fst).Nodup)
    (h : key ∉ members.map Prod.fst) :
    Object.find key (respelledMembers (Object.of members)) = none := by
  rw [find_respelled, find_eq_none, Option.map_none]
  rintro member hmember rfl
  exact h (List.mem_map_of_mem ((mem_of hkeys member).mp hmember))

theorem plain_of (hkeys : (members.map Prod.fst).Nodup)
    (h : ∀ value ∈ members.map Prod.snd, value.Plain) :
    (Value.object (Object.of members)).Plain := by
  refine ⟨of_sorted members, plainMembers_iff.mpr ?_⟩
  intro member hmember
  exact h member.2 (List.mem_map_of_mem ((mem_of hkeys member).mp hmember))

end Json

/-! ### Texts -/

/-- A literal is shown as itself. -/
theorem shown_ascii (literal : String) : Text.shown (ascii literal) = literal := by
  have hbytes : (⟨(ascii literal).toArray⟩ : ByteArray) = literal.toByteArray := by
    rw [ascii, Array.toArray_toList]
  rw [Text.shown, hbytes, String.fromUTF8?, dif_pos literal.isValidUTF8, Option.getD_some]
  rfl

namespace Load

/-! ### What a reader that went through has read -/

variable {name path : String}

theorem field_ok {T : Type} {read : Value → String → Result T} {result : T}
    (h : field read object name path = .ok result)
    (hfind : Object.find (ascii name) object = some value) :
    read value (path ++ "/" ++ name) = .ok result := by
  obtain ⟨found, hfound, h⟩ := Fallible.bind_ok h
  rw [required, hfind] at hfound
  obtain rfl := Except.ok.inj hfound
  exact h

variable {result text : Text}

theorem stringOf_ok {allowEmpty : Bool} (h : stringOf (.string text) path allowEmpty = .ok result) :
    result = text := by
  rw [stringOf] at h
  split at h
  · cases h
  · exact (Except.ok.inj h).symm

theorem stringField_ok (h : stringField object name path = .ok result)
    (hfind : Object.find (ascii name) object = some (.string text)) : result = text :=
  stringOf_ok (field_ok h hfind)

theorem unitField_ok (h : unitField object name path = .ok result)
    (hfind : Object.find (ascii name) object = some (.string text)) : result = text := by
  obtain ⟨unit, hunit, h⟩ := Fallible.bind_ok h
  obtain rfl := stringOf_ok (field_ok hunit hfind)
  split at h
  · cases h
  · exact (Except.ok.inj h).symm

theorem uintField_ok {lexical : Text} {number result : UInt64}
    (h : uintField object name path = .ok result)
    (hfind : Object.find (ascii name) object = some (.number (.unsignedInteger lexical number))) :
    result = number :=
  (Except.ok.inj (field_ok h hfind)).symm

theorem idField_ok {result : { value : Text // value ≠ [] }}
    (h : idField object name path = .ok result)
    (hfind : Object.find (ascii name) object = some (.string text)) : result.val = text := by
  obtain ⟨value, hvalue, h⟩ := Fallible.bind_ok h
  obtain rfl := stringField_ok hvalue hfind
  rw [parseIdentifier] at h
  split at h
  · cases h
  · rw [← Except.ok.inj h]

theorem runIdField_ok {result : RunId} (h : runIdField object name path = .ok result)
    (hfind : Object.find (ascii name) object = some (.string text)) : result.value = text := by
  obtain ⟨id, hid, h⟩ := Fallible.bind_ok h
  rw [← Except.ok.inj h]
  exact idField_ok hid hfind

theorem versionField_ok {result : ProtocolVersion} (h : versionField object name path = .ok result)
    (hfind : Object.find (ascii name) object = some (.string kProtocolVersion)) :
    result = .v200pre2 := by
  obtain ⟨text, htext, h⟩ := Fallible.bind_ok h
  obtain rfl := stringField_ok htext hfind
  rw [parseProtocolVersion, if_neg (by decide), if_pos rfl] at h
  exact (Except.ok.inj h).symm

theorem shaField_ok {result : Sha256} (h : shaField object name path = .ok result)
    (hfind : Object.find (ascii name) object = some (.string text)) : result.hex = text := by
  obtain ⟨value, hvalue, h⟩ := Fallible.bind_ok h
  obtain rfl := stringField_ok hvalue hfind
  rw [parseSha256] at h
  split at h
  · cases h
  · split at h
    · rw [← Except.ok.inj h]
    · cases h

theorem enumField_ok {E : Type} {rule : String} {entries : List (String × E)} {result : E}
    (h : enumField object name path rule entries = .ok result)
    (hfind : Object.find (ascii name) object = some (.string text)) :
    ∃ entry, (entries.find? fun entry => ascii entry.1 = text) = some entry ∧ entry.2 = result := by
  obtain ⟨found, hfound, hvalue⟩ := Fallible.bind_ok (field_ok h hfind)
  obtain rfl := stringOf_ok hfound
  split at hvalue
  · rename_i entry hentry
    exact ⟨entry, hentry, Except.ok.inj hvalue⟩
  · cases hvalue

end Load

end CpuPrefetch.Protocol
