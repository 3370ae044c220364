/-
Things under keys: lists in which a key is looked up, maps that keep the first value they see, and
maps that are written one name at a time.
-/
import Mathlib

/-! ### Lists of things under keys

Where the keys are distinct, the first thing under a key is the only one, so a lookup does
not depend on the order of the list.
-/

namespace Keyed

variable {A K : Type} [DecidableEq K] {key : A → K} {items items' : List A}

/-- The thing found under a key is the one thing there that has it. -/
theorem find_eq_some_iff (h : (items.map key).Nodup) {k : K} {item : A} :
    items.find? (fun item => key item = k) = some item ↔ item ∈ items ∧ key item = k := by
  constructor
  · intro hfound
    exact ⟨List.mem_of_find?_eq_some hfound, by simpa using List.find?_some hfound⟩
  · rintro ⟨hmem, rfl⟩
    have hsome : (items.find? fun other => key other = key item).isSome = true :=
      List.find?_isSome.mpr ⟨item, hmem, by simp⟩
    obtain ⟨other, hother⟩ := Option.isSome_iff_exists.mp hsome
    have hkey : key other = key item := by simpa using List.find?_some hother
    rw [hother, List.inj_on_of_nodup_map h (List.mem_of_find?_eq_some hother) hmem hkey]

/-- A lookup under distinct keys does not depend on the order. -/
theorem find_perm (hperm : items.Perm items') (h : (items.map key).Nodup) (k : K) :
    items.find? (fun item => key item = k) = items'.find? fun item => key item = k := by
  have h' : (items'.map key).Nodup := (hperm.map key).nodup_iff.mp h
  ext item
  rw [find_eq_some_iff h, find_eq_some_iff h', hperm.mem_iff]

omit [DecidableEq K] in
/-- Where some things have keys, and no two have the same, a key is that of one thing. -/
theorem eq_of_filterMap {key : A → Option K} (h : (items.filterMap key).Nodup) {item other : A}
    {k : K} (hitem : item ∈ items) (hother : other ∈ items) (hkey : key item = some k)
    (hkey' : key other = some k) : item = other := by
  induction items with
  | nil => cases hitem
  | cons first rest ih =>
      have habsent : ∀ {thing}, key first = some k → thing ∈ rest → key thing ≠ some k := by
        intro thing hfirst hthing hsame
        rw [List.filterMap_cons_some hfirst, List.nodup_cons] at h
        exact h.1 (List.mem_filterMap.mpr ⟨thing, hthing, hsame⟩)
      rcases List.mem_cons.mp hitem with rfl | hrest <;>
        rcases List.mem_cons.mp hother with rfl | hrest'
      · rfl
      · exact absurd hkey' (habsent hkey hrest')
      · exact absurd hkey (habsent hkey' hrest)
      · refine ih ?_ hrest hrest'
        cases hfirst : key first with
        | none => rwa [List.filterMap_cons_none hfirst] at h
        | some _ =>
            rw [List.filterMap_cons_some hfirst, List.nodup_cons] at h
            exact h.2

/-! ### Groups -/

/-- The groups under distinct keys have as many things as have one of the keys. -/
theorem sum_filter_length {keys : List K} (h : keys.Nodup) :
    (keys.map fun k => (items.filter fun item => key item = k).length).sum =
      (items.filter fun item => key item ∈ keys).length := by
  induction keys with
  | nil => simp
  | cons k rest ih =>
      obtain ⟨hfresh, hrest⟩ := List.nodup_cons.mp h
      simp only [← List.countP_eq_length_filter] at ih ⊢
      rw [List.map_cons, List.sum_cons, ih hrest,
        List.countP_eq_countP_filter_add items (fun item => decide (key item ∈ k :: rest))
          fun item => decide (key item = k), List.countP_filter, List.countP_filter]
      congr 1
      · refine List.countP_congr fun item _ => ?_
        simp only [decide_eq_true_eq, Bool.and_eq_true, List.mem_cons]
        tauto
      · refine List.countP_congr fun item _ => ?_
        simp only [decide_eq_true_eq, Bool.and_eq_true, Bool.not_eq_true', decide_eq_false_iff_not,
          List.mem_cons]
        constructor
        · intro hmem
          refine ⟨Or.inr hmem, ?_⟩
          rintro rfl
          exact hfresh hmem
        · tauto

omit [DecidableEq K] in
/-- What every item but one leaves empty is what that one gives. -/
theorem flatMap_of_mem {B : Type} {f : A → List B} (h : (items.map key).Nodup) {item : A}
    (hitem : item ∈ items) (hother : ∀ other ∈ items, key other ≠ key item → f other = []) :
    items.flatMap f = f item := by
  induction items with
  | nil => cases hitem
  | cons first rest ih =>
      obtain ⟨hfirst, hrest⟩ := List.nodup_cons.mp h
      rw [List.flatMap_cons]
      rcases List.mem_cons.mp hitem with rfl | hmem
      · have hempty : rest.flatMap f = [] := List.flatMap_eq_nil_iff.mpr fun other hmem =>
          hother other (List.mem_cons_of_mem _ hmem) fun hsame =>
            hfirst (hsame ▸ List.mem_map_of_mem hmem)
        rw [hempty, List.append_nil]
      · have hne : key first ≠ key item := fun hsame =>
          hfirst (hsame ▸ List.mem_map_of_mem hmem)
        rw [hother first List.mem_cons_self hne, List.nil_append,
          ih hrest hmem fun other hother' => hother other (List.mem_cons_of_mem _ hother')]

/-- Among lists of distinct things, one that is part of another has no more of them, and all of
them when it has as many. -/
theorem subset_iff_length {B : Type} {part whole : List B} (hpart : part.Nodup)
    (hwhole : whole.Nodup)
    (h : part ⊆ whole) : whole ⊆ part ↔ whole.length = part.length := by
  have hsub : part.Subperm whole := hpart.subperm h
  constructor
  · intro hback
    exact le_antisymm (hwhole.subperm hback).length_le hsub.length_le
  · intro hlength
    exact (hsub.perm_of_length_le hlength.le).symm.subset

/-! ### Sorting by key -/

/-- Where only the same thing has the same key, sorting by key leaves nothing of the order. -/
theorem insertionSort_eq {B L : Type} (order : L → L → Prop) [DecidableRel order] (key : B → L)
    {first second : List B} (total : ∀ k k', order k k' ∨ order k' k)
    (trans : ∀ k k' k'', order k k' → order k' k'' → order k k'')
    (antisymm : ∀ k k', order k k' → order k' k → k = k') (hperm : first.Perm second)
    (h : ∀ a ∈ first, ∀ b ∈ first, key a = key b → a = b) :
    first.insertionSort (fun a b => order (key a) (key b)) =
      second.insertionSort fun a b => order (key a) (key b) := by
  have hsorted : ∀ things : List B, (things.insertionSort fun a b =>
      order (key a) (key b)).Pairwise fun a b => order (key a) (key b) := fun things =>
    @List.pairwise_insertionSort _ (fun a b => order (key a) (key b)) _ ⟨fun _ _ => total _ _⟩
      ⟨fun _ _ _ => trans _ _ _⟩ things
  refine List.Perm.eq_of_pairwise ?_ (hsorted first) (hsorted second) ?_
  · intro a b ha hb hab hba
    have hfirst : b ∈ first := hperm.mem_iff.mpr ((List.mem_insertionSort _).mp hb)
    exact h a ((List.mem_insertionSort _).mp ha) b hfirst (antisymm _ _ hab hba)
  · exact (List.perm_insertionSort _ _).trans (hperm.trans (List.perm_insertionSort _ _).symm)

/-! ### What was seen before -/

section Fresh

variable {A : Type} {seen items : List A} {item : A}

/-- The items are new to what was seen, and to each other. -/
def Fresh (seen items : List A) : Prop := items.Nodup ∧ ∀ item ∈ items, item ∉ seen

@[simp] theorem fresh_nil : Fresh seen [] := by simp [Fresh]

theorem fresh_cons : Fresh seen (item :: items) ↔ item ∉ seen ∧ Fresh (item :: seen) items := by
  simp only [Fresh, List.nodup_cons, List.mem_cons, not_or, forall_eq_or_imp]
  constructor
  · rintro ⟨⟨hfirst, hnodup⟩, hnew, hrest⟩
    refine ⟨hnew, hnodup, fun other hother => ⟨?_, hrest other hother⟩⟩
    rintro rfl
    exact hfirst hother
  · rintro ⟨hnew, hnodup, hrest⟩
    exact ⟨⟨fun hmem => (hrest item hmem).1 rfl, hnodup⟩, hnew, fun other hother =>
      (hrest other hother).2⟩

theorem fresh_append {more seen' : List A} (h : ∀ item, item ∈ seen' ↔ item ∈ seen ∨ item ∈ items) :
    Fresh seen (items ++ more) ↔ Fresh seen items ∧ Fresh seen' more := by
  simp only [Fresh, List.nodup_append, List.mem_append, h, not_or]
  constructor
  · rintro ⟨⟨hitems, hmore, hapart⟩, hnew⟩
    refine ⟨⟨hitems, fun item hitem => hnew item (Or.inl hitem)⟩, hmore, fun item hitem =>
      ⟨hnew item (Or.inr hitem), fun hmem => hapart item hmem item hitem rfl⟩⟩
  · rintro ⟨⟨hitems, hnew⟩, hmore, hnew'⟩
    refine ⟨⟨hitems, hmore, ?_⟩, ?_⟩
    · rintro item hitem _ hother rfl
      exact (hnew' item hother).2 hitem
    · rintro item (hitem | hitem)
      · exact hnew item hitem
      · exact (hnew' item hitem).1

theorem fresh_iff_nodup : Fresh [] items ↔ items.Nodup := by simp [Fresh]

end Fresh

end Keyed

/-! ### Maps that keep the first value seen under each key

A loop compares every later value with the first one under its key, and with no other.  Where
the comparison is an equivalence that is as good as comparing all of them with each other, so
what the loop accepts does not depend on the order.
-/

namespace FirstSeen

variable {K V : Type} [DecidableEq K] {same : V → V → Prop}

/-- The value under a key. -/
def find (entries : List (K × V)) (key : K) : Option V :=
  (entries.find? fun entry => entry.1 = key).map Prod.snd

/-- `try_emplace`: a key that is there keeps its value. -/
def tryEmplace (entries : List (K × V)) (key : K) (value : V) : List (K × V) :=
  match find entries key with
  | some _ => entries
  | none => entries ++ [(key, value)]

theorem find_tryEmplace (entries : List (K × V)) (key key' : K) (value : V) :
    find (tryEmplace entries key value) key' =
      if key' = key then some ((find entries key).getD value) else find entries key' := by
  rw [tryEmplace]
  cases hkey : find entries key with
  | some first =>
      by_cases hsame : key' = key
      · rw [if_pos hsame, hsame]
        exact hkey
      · rw [if_neg hsame]
  | none =>
      have hlast : find (entries ++ [(key, value)]) key' =
          (find entries key').or (if key = key' then some value else none) := by
        rw [find, find, List.find?_append]
        by_cases hsame : key = key' <;> cases entries.find? fun entry => entry.1 = key' <;>
          simp [hsame]
      rw [hlast]
      by_cases hsame : key' = key
      · rw [if_pos hsame, hsame, hkey]
        simp
      · rw [if_neg hsame, if_neg (Ne.symm hsame), Option.or_none]

/-- Each value is the same as the first one under its key. -/
def Consistent (same : V → V → Prop) : List (K × V) → List (K × V) → Prop
  | _, [] => True
  | entries, pair :: rest =>
      (∀ first, find entries pair.1 = some first → same first pair.2) ∧
        Consistent same (tryEmplace entries pair.1 pair.2) rest

/-- Values under one key are the same as each other and as what is in the map. -/
structure Agrees (same : V → V → Prop) (entries pairs : List (K × V)) : Prop where
  found : ∀ pair ∈ pairs, ∀ first, find entries pair.1 = some first → same first pair.2
  pairwise : pairs.Pairwise fun pair later => pair.1 = later.1 → same pair.2 later.2

/-- **A comparison with the first value is one with every value**, for an equivalence. -/
theorem consistent_iff (h : Equivalence same) {entries pairs : List (K × V)} :
    Consistent same entries pairs ↔ Agrees same entries pairs := by
  induction pairs generalizing entries with
  | nil => exact iff_of_true trivial ⟨by simp, .nil⟩
  | cons pair rest ih =>
      rw [Consistent, ih]
      constructor
      · rintro ⟨hpair, hfound, hpairwise⟩
        refine ⟨?_, List.pairwise_cons.mpr ⟨?_, hpairwise⟩⟩
        · intro later hlater first hfirst
          rcases List.mem_cons.mp hlater with rfl | hrest
          · exact hpair first hfirst
          · by_cases hkey : later.1 = pair.1
            · refine hfound later hrest first ?_
              rw [find_tryEmplace, if_pos hkey, ← hkey, hfirst]
              rfl
            · refine hfound later hrest first ?_
              rw [find_tryEmplace, if_neg hkey, hfirst]
        · intro later hlater hkey
          have hsame := hfound later hlater ((find entries pair.1).getD pair.2)
            (by rw [find_tryEmplace, if_pos hkey.symm])
          cases hfirst : find entries pair.1 with
          | none => simpa [hfirst] using hsame
          | some first =>
              rw [hfirst] at hsame
              exact h.trans (h.symm (hpair first hfirst)) hsame
      · rintro ⟨hfound, hpairwise⟩
        obtain ⟨hfirst, hrest⟩ := List.pairwise_cons.mp hpairwise
        refine ⟨hfound pair List.mem_cons_self, ?_, hrest⟩
        intro later hlater first hsome
        rw [find_tryEmplace] at hsome
        by_cases hkey : later.1 = pair.1
        · rw [if_pos hkey, Option.some.injEq] at hsome
          cases hold : find entries pair.1 with
          | none =>
              rw [hold, Option.getD_none] at hsome
              rw [← hsome]
              exact hfirst later hlater hkey.symm
          | some old =>
              rw [hold, Option.getD_some] at hsome
              rw [← hsome]
              exact hfound later (List.mem_cons_of_mem _ hlater) old (by rw [hkey, hold])
        · rw [if_neg hkey] at hsome
          exact hfound later (List.mem_cons_of_mem _ hlater) first hsome

/-- From an empty map, all that counts is which values there are under each key. -/
theorem consistent_nil_iff (h : Equivalence same) {pairs : List (K × V)} :
    Consistent same [] pairs ↔
      ∀ pair ∈ pairs, ∀ other ∈ pairs, pair.1 = other.1 → same pair.2 other.2 := by
  rw [consistent_iff h]
  constructor
  · intro hagrees pair hpair other hother
    have hsymm : Std.Symm fun pair later : K × V => pair.1 = later.1 → same pair.2 later.2 :=
      ⟨fun _ _ hsame hkey => h.symm (hsame hkey.symm)⟩
    exact hagrees.pairwise.forall_of_forall (fun _ _ _ => h.refl _) hpair hother
  · intro hall
    refine ⟨fun pair _ first hfirst => by simp [find] at hfirst, ?_⟩
    exact List.pairwise_of_forall_mem_list hall

end FirstSeen

/-! ### Maps that are written one name at a time, and what undoing the writes leaves

The writes that undo need not match those that are undone one by one: it is enough that each
of them writes back what was there at first, and that no written name is forgotten.
-/

namespace Writes

variable {T V : Type*} [DecidableEq T] {initial : T → V} {writes done undone : List (T × V)}
  {name : T} {value : V}

/-- The map after the writes, in this order. -/
def replay (initial : T → V) (writes : List (T × V)) : T → V :=
  writes.foldl (fun state write => Function.update state write.1 write.2) initial

@[simp] theorem replay_nil (initial : T → V) : replay initial [] = initial := rfl

theorem replay_append (initial : T → V) (done rest : List (T × V)) :
    replay initial (done ++ rest) = replay (replay initial done) rest :=
  List.foldl_append

theorem replay_concat (initial : T → V) (done : List (T × V)) (write : T × V) :
    replay initial (done ++ [write]) = Function.update (replay initial done) write.1 write.2 := by
  rw [replay_append]
  rfl

/-- A name that nothing writes keeps its value. -/
theorem replay_untouched (h : ∀ write ∈ writes, write.1 ≠ name) :
    replay initial writes name = initial name := by
  induction writes using List.reverseRecOn with
  | nil => rfl
  | append_singleton done write ih =>
      rw [replay_concat, Function.update_of_ne (h write (by simp)).symm]
      exact ih fun earlier hearlier => h earlier (List.mem_append_left _ hearlier)

/-- A name that is written, and always with this value, has it in the end. -/
theorem replay_settled (hwritten : ∃ write ∈ writes, write.1 = name)
    (hvalue : ∀ write ∈ writes, write.1 = name → write.2 = value) :
    replay initial writes name = value := by
  induction writes using List.reverseRecOn with
  | nil =>
      obtain ⟨write, hwrite, -⟩ := hwritten
      cases hwrite
  | append_singleton done write ih =>
      rw [replay_concat]
      by_cases hname : write.1 = name
      · rw [← hname, Function.update_self]
        exact hvalue write (by simp) hname
      · rw [Function.update_of_ne (Ne.symm hname)]
        refine ih ?_ fun earlier hearlier => hvalue earlier (List.mem_append_left _ hearlier)
        obtain ⟨earlier, hearlier, heq⟩ := hwritten
        rcases List.mem_append.mp hearlier with hdone | hlast
        · exact ⟨earlier, hdone, heq⟩
        · rw [List.mem_singleton.mp hlast] at heq
          exact absurd heq hname

/-- Writes are undone by others that write the first values back, whatever their order. -/
theorem replay_undone (hback : ∀ write ∈ undone, write.2 = initial write.1)
    (hcovered : ∀ write ∈ done, ∃ undo ∈ undone, undo.1 = write.1) :
    replay (replay initial done) undone = initial := by
  funext name
  by_cases hname : ∃ undo ∈ undone, undo.1 = name
  · exact replay_settled hname fun undo hundo heq => heq ▸ hback undo hundo
  · push Not at hname
    rw [replay_untouched hname, replay_untouched]
    intro write hwrite heq
    obtain ⟨undo, hundo, hsame⟩ := hcovered write hwrite
    exact hname undo hundo (hsame.trans heq)

end Writes
