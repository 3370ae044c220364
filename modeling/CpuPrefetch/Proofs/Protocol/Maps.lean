/-
Objects are maps.

A member is emplaced where its key belongs, unless the key is there already; members
emplaced one after another succeed exactly when their keys are distinct, and then make
the one map that has them all.
-/
import CpuPrefetch.Proofs.Protocol.CanonicalForm

namespace CpuPrefetch.Protocol.Json

/-- The keys of a map: in order, and each once. -/
def SortedKeys (members : Object) : Prop := members.Pairwise fun left right => left.1 < right.1

/-- The keys of a map are distinct. -/
theorem SortedKeys.nodup {members : Object} (h : SortedKeys members) :
    (members.map Prod.fst).Nodup := by
  rw [List.Nodup, List.pairwise_map]
  refine h.imp ?_
  intro left right hlt hsame
  rw [hsame] at hlt
  exact List.lt_irrefl _ hlt

variable {key : Text} {object object' : Object} {value : Value}

theorem emplace_sorted (hsorted : SortedKeys object)
    (h : Object.emplace key value object = some object') : SortedKeys object' := by
  induction object generalizing object' with
  | nil =>
      obtain rfl := Option.some.inj h
      exact List.pairwise_singleton _ _
  | cons first rest ih =>
      obtain ⟨hfirst, hrest⟩ := List.pairwise_cons.mp hsorted
      rw [Object.emplace] at h
      split at h
      · rename_i hbefore
        obtain rfl := Option.some.inj h
        refine List.pairwise_cons.mpr ⟨?_, hsorted⟩
        intro member hmember
        rcases List.mem_cons.mp hmember with rfl | hlater
        · exact hbefore
        · exact List.lt_trans hbefore (hfirst member hlater)
      · rename_i hnot
        split at h
        · cases h
        · rename_i hne
          obtain ⟨others, hothers, rfl⟩ := Option.map_eq_some_iff.mp h
          refine List.pairwise_cons.mpr ⟨?_, ih hrest hothers⟩
          intro member hmember
          rcases (mem_emplace hothers member).mp hmember with rfl | hlater
          · exact Std.not_le.mp fun hle => hne (Std.le_antisymm hle (Std.not_lt.mp hnot))
          · exact hfirst member hlater

theorem emplace_perm (h : Object.emplace key value object = some object') :
    object'.Perm ((key, value) :: object) := by
  induction object generalizing object' with
  | nil =>
      obtain rfl := Option.some.inj h
      exact .refl _
  | cons first rest ih =>
      rw [Object.emplace] at h
      split at h
      · obtain rfl := Option.some.inj h
        exact .refl _
      · split at h
        · cases h
        · obtain ⟨others, hothers, rfl⟩ := Option.map_eq_some_iff.mp h
          exact ((ih hothers).cons first).trans (.swap _ _ _)

theorem of_sorted (members : List (Text × Value)) : SortedKeys (Object.of members) := by
  induction members using List.reverseRecOn with
  | nil => exact .nil
  | append_singleton front last ih =>
      rw [Object.of, List.foldl_append, ← Object.of]
      show SortedKeys ((Object.emplace last.1 last.2 (Object.of front)).getD (Object.of front))
      cases hobject : Object.emplace last.1 last.2 (Object.of front) with
      | none => exact ih
      | some object => exact emplace_sorted ih hobject

/-- Members emplaced one after another. -/
def emplaceAll (object : Object) : List (Text × Value) → Option Object
  | [] => some object
  | member :: rest => (Object.emplace member.1 member.2 object).bind (emplaceAll · rest)

/-- Two maps with the same members are one. -/
theorem sortedKeys_ext {left right : Object} (hleft : SortedKeys left) (hright : SortedKeys right)
    (h : left.Perm right) : left = right := by
  refine h.eq_of_pairwise ?_ hleft hright
  intro a b _ _ hab hba
  exact absurd hba (List.lt_asymm hab)

variable {members : List (Text × Value)}

/-- Members with distinct keys make a map of them all. -/
theorem emplaceAll_perm (hsorted : SortedKeys object)
    (h : ((object ++ members).map Prod.fst).Nodup) :
    ∃ result, emplaceAll object members = some result ∧ SortedKeys result ∧
      result.Perm (object ++ members) := by
  induction members generalizing object with
  | nil => exact ⟨object, rfl, hsorted, by rw [List.append_nil]⟩
  | cons member rest ih =>
      have hfree : ∀ other ∈ object, other.1 ≠ member.1 := by
        rw [List.map_append, List.nodup_append] at h
        exact fun other hother => h.2.2 _ (List.mem_map_of_mem hother) _ (by simp)
      obtain ⟨next, hnext⟩ := Option.isSome_iff_exists.mp (emplace_isSome member.2 hfree)
      have hperm : (next ++ rest).Perm (object ++ member :: rest) :=
        ((emplace_perm hnext).append_right rest).trans List.perm_middle.symm
      obtain ⟨result, hresult, hresultSorted, hresultPerm⟩ :=
        ih (emplace_sorted hsorted hnext) ((hperm.map Prod.fst).nodup_iff.mpr h)
      refine ⟨result, ?_, hresultSorted, hresultPerm.trans hperm⟩
      rw [emplaceAll, hnext]
      exact hresult

/-- A key that is there already is not emplaced again. -/
theorem emplace_fresh (hsorted : SortedKeys object)
    (h : Object.emplace key value object = some object') : ∀ member ∈ object, member.1 ≠ key := by
  intro member hmember hkey
  have hdistinct := (emplace_sorted hsorted h).nodup
  rw [((emplace_perm h).map Prod.fst).nodup_iff, List.map_cons, List.nodup_cons] at hdistinct
  exact hdistinct.1 (List.mem_map.mpr ⟨member, hmember, hkey⟩)

variable {result : Object}

/-- Only members with distinct keys are all emplaced. -/
theorem emplaceAll_nodup (hsorted : SortedKeys object) (hkeys : (object.map Prod.fst).Nodup)
    (h : emplaceAll object members = some result) : ((object ++ members).map Prod.fst).Nodup := by
  induction members generalizing object with
  | nil => rwa [List.append_nil]
  | cons member rest ih =>
      obtain ⟨next, hnext, hrest⟩ := Option.bind_eq_some_iff.mp h
      have hperm := emplace_perm hnext
      have hnextKeys : (next.map Prod.fst).Nodup := by
        rw [(hperm.map Prod.fst).nodup_iff, List.map_cons, List.nodup_cons]
        refine ⟨?_, hkeys⟩
        intro hmem
        obtain ⟨other, hother, hsame⟩ := List.mem_map.mp hmem
        exact emplace_fresh hsorted hnext other hother hsame
      have hall := ih (emplace_sorted hsorted hnext) hnextKeys hrest
      have hsame : (next ++ rest).Perm (object ++ member :: rest) :=
        (hperm.append_right rest).trans List.perm_middle.symm
      exact (hsame.map Prod.fst).nodup_iff.mp hall

theorem foldl_emplaceAll (h : emplaceAll object members = some result) :
    members.foldl (fun object member =>
      (Object.emplace member.1 member.2 object).getD object) object = result := by
  induction members generalizing object with
  | nil => exact Option.some.inj h
  | cons member rest ih =>
      obtain ⟨next, hnext, hrest⟩ := Option.bind_eq_some_iff.mp h
      rw [List.foldl_cons, hnext]
      exact ih hrest

/-- **Members make a map exactly when their keys are distinct.** -/
theorem emplaceAll_iff : emplaceAll [] members = some result ↔
      (members.map Prod.fst).Nodup ∧ result = Object.of members := by
  constructor
  · intro h
    exact ⟨emplaceAll_nodup List.Pairwise.nil List.nodup_nil h, (foldl_emplaceAll h).symm⟩
  · rintro ⟨hkeys, rfl⟩
    obtain ⟨result, hresult, -⟩ := emplaceAll_perm List.Pairwise.nil hkeys
    rw [hresult, Object.of, foldl_emplaceAll hresult]

end CpuPrefetch.Protocol.Json
