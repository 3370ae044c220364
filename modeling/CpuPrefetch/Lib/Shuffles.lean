/-
Shuffles that exchange the last of the remaining elements with a selected one.

A shuffle of `count` elements makes one selection for each of `count, …, 2`, below that many.
Which element ends up last is decided by the first selection alone, and the rest is a
shuffle of what the exchange has left in front of it.  So selections and rearrangements of
distinct elements correspond one to one.
-/
import Mathlib

namespace Shuffles

open List

variable {α : Type}

/-- Two elements exchanged, if both are there. -/
def exchange (values : List α) (left right : Nat) : List α :=
  match values[left]?, values[right]? with
  | some first, some second => (values.set left second).set right first
  | _, _ => values

/-- How many elements remain at each turn of a shuffle. -/
def bounds : Nat → List Nat
  | remaining + 2 => (remaining + 2) :: bounds (remaining + 1)
  | _ => []

/-- The turns of a shuffle with these selections; this many elements remain. -/
def arrange : Nat → List Nat → List α → List α
  | remaining + 2, selected :: rest, values =>
      arrange (remaining + 1) rest (exchange values (remaining + 1) selected)
  | _, _, values => values

/-- One selection for each turn, below the number of elements that remain. -/
def Selects (count : Nat) (selections : List Nat) : Prop :=
  List.Forall₂ (· < ·) selections (bounds count)

/-! ### One exchange -/

theorem exchange_perm (values : List α) (left right : Nat) :
    (exchange values left right).Perm values := by
  rw [exchange]
  split
  · rename_i first second hfirst hsecond
    obtain ⟨hleft, rfl⟩ := List.getElem?_eq_some_iff.mp hfirst
    obtain ⟨hright, rfl⟩ := List.getElem?_eq_some_iff.mp hsecond
    exact set_set_perm hleft hright
  · exact List.Perm.refl values

variable {front : List α}

/-- Elements behind those that are exchanged stay where they are. -/
theorem exchange_append (back : List α) {left right : Nat} (hleft : left < front.length)
    (hright : right < front.length) :
    exchange (front ++ back) left right = exchange front left right ++ back := by
  rw [exchange, exchange, getElem?_append_left hleft, getElem?_append_left hright,
    getElem?_eq_getElem hleft, getElem?_eq_getElem hright]
  show ((front ++ back).set left _).set right _ = (front.set left _).set right _ ++ back
  rw [set_append_left left _ hleft, set_append_left right _ (by simpa using hright)]

variable {selected : Nat}

/-- An exchange with the last element puts the selected one last. -/
theorem exchange_last (front : List α) (last : α) (h : selected ≤ front.length) :
    ∃ rest chosen, exchange (front ++ [last]) front.length selected = rest ++ [chosen] ∧
      rest.length = front.length ∧ (front ++ [last])[selected]? = some chosen := by
  have hend : (front ++ [last])[front.length]? = some last := by simp
  by_cases hlast : selected = front.length
  · refine ⟨front, last, ?_, rfl, hlast ▸ hend⟩
    rw [exchange, hlast, hend]
    simp
  · have hlt : selected < front.length := Nat.lt_of_le_of_ne h hlast
    have hchosen : (front ++ [last])[selected]? = some front[selected] := by
      rw [getElem?_append_left hlt, getElem?_eq_getElem hlt]
    refine ⟨front.set selected last, front[selected], ?_, length_set, hchosen⟩
    rw [exchange, hend, hchosen]
    simp [hlt]

/-! ### Whole shuffles -/

variable {remaining : Nat}

theorem selects_cons {selections : List Nat} :
    Selects (remaining + 2) selections ↔ ∃ selected rest, selected < remaining + 2 ∧
      Selects (remaining + 1) rest ∧ selections = selected :: rest :=
  forall₂_cons_right_iff

theorem arrange_perm (count : Nat) (selections : List Nat) (values : List α) :
    (arrange count selections values).Perm values := by
  induction count generalizing selections values with
  | zero => exact .refl _
  | succ count ih =>
      cases count with
      | zero => exact .refl _
      | succ remaining =>
          cases selections with
          | nil => exact .refl _
          | cons selected rest => exact (ih rest _).trans (exchange_perm values _ _)

/-- A shuffle of the elements in front leaves those behind them alone. -/
theorem arrange_append {count : Nat} {selections : List Nat} (h : Selects count selections)
    (hfront : front.length = count) (back : List α) :
    arrange count selections (front ++ back) = arrange count selections front ++ back := by
  have hgeneral : ∀ (count : Nat) (selections : List Nat) (front : List α),
      Selects count selections → count ≤ front.length →
        arrange count selections (front ++ back) = arrange count selections front ++ back := by
    intro count
    induction count with
    | zero => exact fun _ _ _ _ => rfl
    | succ count ih =>
        intro selections front h hle
        cases count with
        | zero => rfl
        | succ remaining =>
            obtain ⟨selected, rest, hlt, hrest, rfl⟩ := selects_cons.mp h
            rw [arrange, arrange, exchange_append back (by omega) (by omega)]
            refine ih rest _ hrest ?_
            rw [(exchange_perm front _ _).length_eq]
            omega
  exact hgeneral count selections front h (Nat.le_of_eq hfront.symm)

variable {values : List α}

/-- The first selection decides which element ends up last. -/
theorem exchange_split (hlength : values.length = remaining + 2) (hlt : selected < remaining + 2) :
    ∃ front chosen, exchange values (remaining + 1) selected = front ++ [chosen] ∧
      front.length = remaining + 1 ∧ values[selected]? = some chosen := by
  have hne : values ≠ [] := ne_nil_of_length_pos (by omega)
  obtain ⟨init, last, rfl⟩ : ∃ init last, values = init ++ [last] :=
    ⟨_, _, (dropLast_append_getLast hne).symm⟩
  have hinit : init.length = remaining + 1 := by simpa using hlength
  have hle : selected ≤ init.length := by omega
  obtain ⟨front, chosen, hexchange, hfront, hchosen⟩ := exchange_last init last hle
  rw [hinit] at hexchange hfront
  exact ⟨front, chosen, hexchange, hfront, hchosen⟩

/-- The other selections arrange what is in front of it. -/
theorem arrange_split {rest : List Nat} {chosen : α} (hrest : Selects (remaining + 1) rest)
    (hexchange : exchange values (remaining + 1) selected = front ++ [chosen])
    (hfront : front.length = remaining + 1) : arrange (remaining + 2) (selected :: rest) values =
      arrange (remaining + 1) rest front ++ [chosen] := by
  rw [arrange, hexchange, arrange_append hrest hfront]

theorem arrange_injOn (hnodup : values.Nodup) : ∀ count, values.length = count →
      Set.InjOn (fun selections => arrange count selections values) {v | Selects count v} := by
  intro count
  induction count generalizing values with
  | zero =>
      intro _ left hleft right hright _
      exact (List.forall₂_nil_right_iff.mp hleft).trans (List.forall₂_nil_right_iff.mp hright).symm
  | succ count ih =>
      intro hlength left hleft right hright heq
      cases count with
      | zero =>
          exact (List.forall₂_nil_right_iff.mp hleft).trans
            (List.forall₂_nil_right_iff.mp hright).symm
      | succ remaining =>
          obtain ⟨selected, rest, hlt, hrest, rfl⟩ := selects_cons.mp hleft
          obtain ⟨selected', rest', hlt', hrest', rfl⟩ := selects_cons.mp hright
          obtain ⟨front, chosen, hexchange, hfront, hchosen⟩ := exchange_split hlength hlt
          obtain ⟨front', chosen', hexchange', hfront', hchosen'⟩ := exchange_split hlength hlt'
          have hboth : arrange (remaining + 1) rest front ++ [chosen] =
              arrange (remaining + 1) rest' front' ++ [chosen'] := by
            rw [← arrange_split hrest hexchange hfront, ← arrange_split hrest' hexchange' hfront']
            exact heq
          obtain ⟨hinner, hlast⟩ := append_inj' hboth rfl
          obtain rfl : chosen = chosen' := head_eq_of_cons_eq hlast
          -- The elements are distinct, so the last one tells which was selected.
          have hselected : values[selected]? = values[selected']? := hchosen.trans hchosen'.symm
          rw [getElem?_inj (hlength ▸ hlt) hnodup] at hselected
          subst hselected
          obtain rfl : front = front' :=
            append_cancel_right (hexchange.symm.trans hexchange')
          have hperm : (front ++ [chosen]).Perm values :=
            hexchange ▸ exchange_perm values (remaining + 1) selected
          have hdistinct : front.Nodup := (List.nodup_append.mp (hperm.nodup_iff.mpr hnodup)).1
          rw [ih hdistinct hfront hrest hrest' hinner]

theorem arrange_surjOn : ∀ count, values.length = count → ∀ result : List α, result.Perm values →
      ∃ selections, Selects count selections ∧ arrange count selections values = result := by
  intro count
  induction count generalizing values with
  | zero =>
      intro hlength result hperm
      obtain rfl := eq_nil_of_length_eq_zero hlength
      exact ⟨[], .nil, (List.Perm.eq_nil hperm).symm⟩
  | succ count ih =>
      intro hlength result hperm
      cases count with
      | zero =>
          obtain ⟨only, rfl⟩ := List.length_eq_one_iff.mp hlength
          exact ⟨[], .nil, (List.perm_singleton.mp hperm).symm⟩
      | succ remaining =>
          have hpositive : 0 < result.length := by
            rw [hperm.length_eq, hlength]
            omega
          obtain ⟨init, last, rfl⟩ : ∃ init last, result = init ++ [last] :=
            ⟨_, _, (dropLast_append_getLast (ne_nil_of_length_pos hpositive)).symm⟩
          obtain ⟨selected, hselected⟩ :=
            mem_iff_getElem?.mp (hperm.subset (mem_append_right init mem_cons_self))
          have hlt : selected < remaining + 2 :=
            hlength ▸ (List.getElem?_eq_some_iff.mp hselected).1
          obtain ⟨front, chosen, hexchange, hfront, hchosen⟩ := exchange_split hlength hlt
          obtain rfl : last = chosen := Option.some.inj (hselected.symm.trans hchosen)
          have hfrontPerm : (front ++ [last]).Perm values :=
            hexchange ▸ exchange_perm values (remaining + 1) selected
          have hinit : init.Perm front :=
            (perm_append_right_iff [last]).mp (hperm.trans hfrontPerm.symm)
          obtain ⟨rest, hrest, hinner⟩ := ih hfront init hinit
          refine ⟨selected :: rest, selects_cons.mpr ⟨selected, rest, hlt, hrest, rfl⟩, ?_⟩
          rw [arrange_split hrest hexchange hfront, hinner]

/-- **Selections and rearrangements of distinct elements correspond one to one.** -/
theorem arrange_bijOn (hnodup : values.Nodup) :
    Set.BijOn (fun selections => arrange values.length selections values)
      {v | Selects values.length v} {result | result.Perm values} := by
  refine ⟨?_, arrange_injOn hnodup values.length rfl, ?_⟩
  · intro selections _
    exact arrange_perm values.length selections values
  · intro result hresult
    exact arrange_surjOn values.length rfl result hresult

end Shuffles
