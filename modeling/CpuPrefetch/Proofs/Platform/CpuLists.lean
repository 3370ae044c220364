/-
The lists of processors that the reader accepts.

A list is a sequence of items between commas, each a number or two numbers around a dash, whose
ranges have no processor in common.  The loop looks for a comma from where it stands and ends at
the end of the text, so it never sees that nothing follows a last comma: a list with one comma
more reads as the list.
-/
import CpuPrefetch.Proofs.Platform.Snapshots
import Mathlib.Data.List.Forall2
import Mathlib.Data.List.Sort

namespace CpuPrefetch.Platform

open List
open Protocol (Text ascii)
open Protocol.Json (digitsValue isDigit)

/-! ### The grammar -/

/-- A decimal number of 32 bits with spaces around it. -/
def CpuNumber (text : Text) (number : UInt32) : Prop :=
  ∃ before digits after : Text, text = before ++ digits ++ after ∧
    (∀ byte ∈ before, isSpace byte = true) ∧ (∀ byte ∈ after, isSpace byte = true) ∧
    digits ≠ [] ∧ (∀ byte ∈ digits, isDigit byte = true) ∧ digitsValue digits = number.toNat

/-- A number, or the first and the last number of a range. -/
inductive CpuItem : Text → UInt32 × UInt32 → Prop
  | single {text : Text} {number : UInt32} : CpuNumber text number → CpuItem text (number, number)
  | range {left right : Text} {first last : UInt32} : CpuNumber left first →
      CpuNumber right last → first ≤ last → CpuItem (left ++ 45 :: right) (first, last)

/-- One or more items with commas between them. -/
def CpuItems (text : Text) (ranges : List (UInt32 × UInt32)) : Prop :=
  ∃ items : List Text, items ≠ [] ∧ text = [44].intercalate items ∧
    List.Forall₂ CpuItem items ranges

def InRange (cpu : UInt32) (range : UInt32 × UInt32) : Prop := range.1 ≤ cpu ∧ cpu ≤ range.2

instance (cpu : UInt32) (range : UInt32 × UInt32) : Decidable (InRange cpu range) :=
  inferInstanceAs (Decidable (_ ∧ _))

/-- The ranges have no processor in common, and these are the processors in them, in order. -/
structure Denotes (ranges : List (UInt32 × UInt32)) (cpus : List UInt32) : Prop where
  apart : ranges.Pairwise fun left right => ∀ cpu, InRange cpu left → ¬ InRange cpu right
  increasing : cpus.Pairwise (· < ·)
  members : ∀ cpu, cpu ∈ cpus ↔ ∃ range ∈ ranges, InRange cpu range

/-- What a list of processors says by its grammar. -/
def CpuList (text : Text) (cpus : List UInt32) : Prop :=
  (∀ byte ∈ text, isSpace byte = true) ∧ cpus = [] ∨
    ∃ ranges, CpuItems (trim text) ranges ∧ Denotes ranges cpus

/-- A list by the grammar with one more comma at its end. -/
def CommaEnded (text : Text) (cpus : List UInt32) : Prop :=
  ∃ listed ranges, trim text = listed ++ [44] ∧ CpuItems listed ranges ∧ Denotes ranges cpus

/-! ### Numbers -/

theorem trim_padded {before middle after : Text}
    (hbefore : ∀ byte ∈ before, isSpace byte = true)
    (hafter : ∀ byte ∈ after, isSpace byte = true)
    (hmiddle : ∀ byte ∈ middle, isSpace byte = false) :
    trim (before ++ middle ++ after) = middle := by
  cases middle with
  | nil =>
      rw [append_nil, trim, dropWhile_append_of_pos hbefore,
        List.dropWhile_eq_nil_iff.mpr hafter, rdropWhile_nil]
  | cons first rest =>
      have hfront : (before ++ (first :: rest) ++ after).dropWhile isSpace =
          first :: rest ++ after := by
        rw [append_assoc, dropWhile_append_of_pos hbefore, cons_append,
          dropWhile_cons_of_neg (by simp [hmiddle first mem_cons_self])]
      have hback : ((first :: rest).reverse).dropWhile isSpace = (first :: rest).reverse := by
        rw [dropWhile_eq_self_iff]
        intro hlength
        have hmem := List.mem_reverse.mp (getElem_mem hlength)
        exact Bool.eq_false_iff.mp (hmiddle _ hmem)
      rw [trim, hfront, List.rdropWhile, reverse_append,
        dropWhile_append_of_pos (by simpa using hafter), hback, reverse_reverse]

theorem trim_spec (text : Text) : ∃ before after : Text, text = before ++ trim text ++ after ∧
    (∀ byte ∈ before, isSpace byte = true) ∧ ∀ byte ∈ after, isSpace byte = true := by
  refine ⟨text.takeWhile isSpace,
    ((text.dropWhile isSpace).reverse.takeWhile isSpace).reverse, ?_,
    fun byte hbyte => mem_takeWhile_imp hbyte,
    fun byte hbyte => mem_takeWhile_imp (List.mem_reverse.mp hbyte)⟩
  rw [append_assoc, trim, List.rdropWhile, ← reverse_append,
    takeWhile_append_dropWhile, reverse_reverse, takeWhile_append_dropWhile]

theorem isSpace_of_isDigit {byte : UInt8} (h : isDigit byte = true) : isSpace byte = false := by
  simp only [isDigit, Bool.and_eq_true, decide_eq_true_eq, UInt8.le_iff_toNat_le,
    UInt8.reduceToNat] at h
  rw [isSpace, Bool.or_eq_false_iff, Bool.and_eq_false_iff, decide_eq_false_iff_not,
    decide_eq_false_iff_not, decide_eq_false_iff_not]
  simp only [UInt8.le_iff_toNat_le, ← UInt8.toNat_inj, UInt8.reduceToNat]
  omega

variable {text : Text}

theorem fromChars_iff {bits n : Nat} : fromChars bits text = some n ↔
    text ≠ [] ∧ (∀ byte ∈ text, isDigit byte = true) ∧ n = digitsValue text ∧ n < 2 ^ bits := by
  constructor
  · intro h
    refine ⟨?_, fromChars_eq_some h⟩
    rintro rfl
    simp [fromChars] at h
  · rintro ⟨hne, hdigits, rfl, hbound⟩
    have hall : (text.isEmpty || !text.all isDigit) = false := by
      simpa using ⟨hne, hdigits⟩
    rw [fromChars, hall, if_neg Bool.false_ne_true, if_pos hbound]

variable {number : UInt32} {path : Text}

theorem parseUint32_iff {ruleId : String} :
    parseUint32 text path ruleId = .ok number ↔ CpuNumber text number := by
  have hread : parseUint32 text path ruleId = .ok number ↔
      fromChars 32 (trim text) = some number.toNat := by
    rw [parseUint32, parseInteger]
    constructor
    · intro h
      split at h
      · rename_i read hread
        obtain rfl := Except.ok.inj h
        obtain ⟨n, hn, rfl⟩ := Option.map_eq_some_iff.mp hread
        rw [hn, UInt32.toNat_ofNat_of_lt' (fromChars_iff.mp hn).2.2.2]
      · cases h
    · intro h
      simp [h]
  rw [hread, fromChars_iff]
  constructor
  · rintro ⟨hne, hdigits, hvalue, -⟩
    obtain ⟨before, after, htext, hbefore, hafter⟩ := trim_spec text
    exact ⟨before, trim text, after, htext, hbefore, hafter, hne, hdigits, hvalue.symm⟩
  · rintro ⟨before, digits, after, rfl, hbefore, hafter, hne, hdigits, hvalue⟩
    rw [trim_padded hbefore hafter fun byte hbyte => isSpace_of_isDigit (hdigits byte hbyte)]
    exact ⟨hne, hdigits, hvalue.symm, number.toNat_lt⟩

theorem CpuNumber.byte_of (h : CpuNumber text number) {byte : UInt8}
    (hspace : isSpace byte = false) (hdigit : isDigit byte = false) : byte ∉ text := by
  obtain ⟨before, digits, after, rfl, hbefore, hafter, -, hdigits, -⟩ := h
  simp only [mem_append, not_or]
  refine ⟨⟨fun hmem => ?_, fun hmem => ?_⟩, fun hmem => ?_⟩
  · simp [hbefore byte hmem] at hspace
  · simp [hdigits byte hmem] at hdigit
  · simp [hafter byte hmem] at hspace

theorem CpuNumber.ne_nil (h : CpuNumber text number) : text ≠ [] := by
  obtain ⟨before, digits, after, rfl, -, -, hne, -⟩ := h
  simp [hne]

/-! ### Ranges -/

variable {values : List UInt32}

theorem insertCpu_eq_none {value : UInt32} (hsorted : values.Pairwise (· < ·)) :
    insertCpu value values = none ↔ value ∈ values := by
  induction values with
  | nil => simp [insertCpu]
  | cons first rest ih =>
      obtain ⟨hfirst, hrest⟩ := List.pairwise_cons.mp hsorted
      rw [insertCpu, mem_cons]
      split
      · rename_i hbefore
        refine iff_of_false (by simp) fun hmem => ?_
        rcases hmem with rfl | hmem
        · exact UInt32.lt_irrefl _ hbefore
        · exact UInt32.lt_irrefl _ (UInt32.lt_trans hbefore (hfirst value hmem))
      · split
        · rename_i heq
          simp [heq]
        · rename_i hne
          simp [ih hrest, hne]

/-- Numbers join a list exactly when none of them is in it. -/
theorem insertRange_iff {count value : Nat} {inserted : List UInt32}
    (hsorted : values.Pairwise (· < ·)) (hbound : value + count ≤ 2 ^ 32) :
    insertRange count value values = some inserted ↔
      (∀ cpu ∈ values, ¬ (value ≤ cpu.toNat ∧ cpu.toNat < value + count)) ∧
        inserted.Pairwise (· < ·) ∧
        ∀ cpu, cpu ∈ inserted ↔ cpu ∈ values ∨ value ≤ cpu.toNat ∧ cpu.toNat < value + count := by
  induction count generalizing value values with
  | zero =>
      have hempty : ∀ cpu : UInt32, ¬ (value ≤ cpu.toNat ∧ cpu.toNat < value + 0) :=
        fun cpu => by omega
      simp only [insertRange, Option.some.injEq, hempty, not_false_eq_true, implies_true, or_false,
        true_and]
      constructor
      · rintro rfl
        exact ⟨hsorted, fun _ => Iff.rfl⟩
      · rintro ⟨hincreasing, hmembers⟩
        exact List.Pairwise.eq_of_mem_iff hsorted hincreasing fun cpu => (hmembers cpu).symm
  | succ count ih =>
      have hvalue : ∀ cpu : UInt32, cpu = .ofNat value ↔ cpu.toNat = value := fun cpu => by
        rw [← UInt32.toNat_inj, UInt32.toNat_ofNat_of_lt' (show value < 2 ^ 32 by omega)]
      have hsplit : ∀ cpu : UInt32, value ≤ cpu.toNat ∧ cpu.toNat < value + (count + 1) ↔
          cpu.toNat = value ∨ value + 1 ≤ cpu.toNat ∧ cpu.toNat < value + 1 + count :=
        fun cpu => by omega
      simp only [insertRange, Option.bind_eq_some_iff, hsplit]
      constructor
      · rintro ⟨next, hnext, hrest⟩
        have hmem := mem_insertCpu hnext
        have hfresh : UInt32.ofNat value ∉ values := fun hmem => by
          rw [(insertCpu_eq_none hsorted).mpr hmem] at hnext
          cases hnext
        obtain ⟨hapart, hincreasing, hmembers⟩ :=
          (ih (insertCpu_sorted hsorted hnext) (by omega)).mp hrest
        refine ⟨fun cpu hcpu => not_or.mpr ⟨fun heq => ?_, ?_⟩, hincreasing, fun cpu => ?_⟩
        · exact hfresh ((hvalue cpu).mpr heq ▸ hcpu)
        · exact hapart cpu ((hmem cpu).mpr (Or.inr hcpu))
        · rw [hmembers, hmem, hvalue]
          tauto
      · rintro ⟨hapart, hincreasing, hmembers⟩
        have hfresh : UInt32.ofNat value ∉ values := fun hmem =>
          hapart _ hmem (Or.inl ((hvalue _).mp rfl))
        obtain ⟨next, hnext⟩ := Option.ne_none_iff_exists'.mp
          (mt (insertCpu_eq_none hsorted).mp hfresh)
        have hmem := mem_insertCpu hnext
        refine ⟨next, hnext, (ih (insertCpu_sorted hsorted hnext) (by omega)).mpr
          ⟨fun cpu hcpu => ?_, hincreasing, fun cpu => ?_⟩⟩
        · rcases (hmem cpu).mp hcpu with hcpu | hcpu
          · rw [hvalue] at hcpu
            omega
          · exact fun hin => hapart cpu hcpu (Or.inr hin)
        · rw [hmembers, hmem, hvalue]
          tauto

variable {read : List UInt32}

theorem addRange_iff {first last : UInt32} (hsorted : values.Pairwise (· < ·)) :
    addRange path values first last = .ok read ↔
      first ≤ last ∧ (∀ cpu ∈ values, ¬ InRange cpu (first, last)) ∧ read.Pairwise (· < ·) ∧
        ∀ cpu, cpu ∈ read ↔ cpu ∈ values ∨ InRange cpu (first, last) := by
  by_cases horder : last < first
  · rw [addRange, if_pos horder]
    exact iff_of_false (by simp) fun h => UInt32.not_le.mpr horder h.1
  · have hle := UInt32.not_lt.mp horder
    have hin : ∀ cpu : UInt32, first.toNat ≤ cpu.toNat ∧
        cpu.toNat < first.toNat + (last.toNat - first.toNat + 1) ↔ InRange cpu (first, last) := by
      intro cpu
      change _ ↔ first ≤ cpu ∧ cpu ≤ last
      rw [UInt32.le_iff_toNat_le] at hle
      rw [UInt32.le_iff_toNat_le, UInt32.le_iff_toNat_le]
      omega
    have hread : addRange path values first last = .ok read ↔
        insertRange (last.toNat - first.toNat + 1) first.toNat values = some read := by
      rw [addRange, if_neg horder]
      cases insertRange (last.toNat - first.toNat + 1) first.toNat values <;> simp
    have hbound : first.toNat + (last.toNat - first.toNat + 1) ≤ 2 ^ 32 := by
      have := last.toNat_lt
      rw [UInt32.le_iff_toNat_le] at hle
      omega
    rw [hread, insertRange_iff hsorted hbound]
    simp only [hin, hle, true_and]

/-! ### Items -/

/-- A text is split at the first mark in it. -/
theorem split_mark {mark : UInt8} {left : Text} (right : Text) (h : mark ∉ left) :
    (left ++ mark :: right).takeWhile (· ≠ mark) = left ∧
      ((left ++ mark :: right).dropWhile (· ≠ mark)).drop 1 = right := by
  have hleft : ∀ byte ∈ left, decide (byte ≠ mark) = true :=
    fun byte hbyte => decide_eq_true fun heq => h (heq ▸ hbyte)
  rw [takeWhile_append_of_pos hleft, dropWhile_append_of_pos hleft]
  simp

variable {range : UInt32 × UInt32}

theorem cpuItem_iff {token : Text} : CpuItem token range ↔
    CpuNumber (token.takeWhile (· ≠ 45)) range.1 ∧
      (if 45 ∈ token then CpuNumber ((token.dropWhile (· ≠ 45)).drop 1) range.2
        else range.2 = range.1) ∧ range.1 ≤ range.2 := by
  have hdash : ∀ {text : Text} {number : UInt32}, CpuNumber text number → 45 ∉ text :=
    fun h => h.byte_of (by decide) (by decide)
  have hwhole : ∀ {text : Text}, 45 ∉ text → text.takeWhile (· ≠ 45) = text :=
    fun h => List.takeWhile_eq_self_iff.mpr fun byte hbyte =>
      decide_eq_true fun heq => h (heq ▸ hbyte)
  constructor
  · intro h
    cases h with
    | single hnumber =>
        rw [hwhole (hdash hnumber), if_neg (hdash hnumber)]
        exact ⟨hnumber, rfl, UInt32.le_refl _⟩
    | @range left right first last hfirst hlast hle =>
        obtain ⟨hleft, hright⟩ := split_mark right (hdash hfirst)
        rw [hleft, hright, if_pos (by simp)]
        exact ⟨hfirst, hlast, hle⟩
  · rintro ⟨hfirst, hlast, hle⟩
    obtain ⟨first, last⟩ := range
    split at hlast
    · rename_i hmem
      obtain ⟨left, right, rfl, hleft⟩ := eq_append_cons_of_mem hmem
      obtain ⟨hfront, hback⟩ := split_mark right hleft
      rw [hfront] at hfirst
      rw [hback] at hlast
      exact .range hfirst hlast hle
    · rename_i hmem
      rw [hwhole hmem] at hfirst
      obtain rfl : last = first := hlast
      exact .single hfirst

/-- What one turn of the loop reads. -/
theorem parseCpuToken_iff {token : Text} (hsorted : values.Pairwise (· < ·)) :
    parseCpuToken path values token = .ok read ↔
      ∃ range, CpuItem token range ∧ (∀ cpu ∈ values, ¬ InRange cpu range) ∧
        read.Pairwise (· < ·) ∧ ∀ cpu, cpu ∈ read ↔ cpu ∈ values ∨ InRange cpu range := by
  have hread : parseCpuToken path values token = .ok read ↔ ∃ first last,
      CpuNumber (token.takeWhile (· ≠ 45)) first ∧
        (if 45 ∈ token then CpuNumber ((token.dropWhile (· ≠ 45)).drop 1) last
          else last = first) ∧ addRange path values first last = .ok read := by
    have hnumber : ∀ text number, CpuNumber text number ↔
        parseUint32 text path "PLT-CPU-LIST" = .ok number := fun _ _ => parseUint32_iff.symm
    simp only [hnumber]
    rw [parseCpuToken]
    cases parseUint32 (token.takeWhile (· ≠ 45)) path "PLT-CPU-LIST" with
    | error errors => simp [bind, Except.bind]
    | ok first =>
        by_cases hdash : 45 ∈ token
        · cases parseUint32 ((token.dropWhile (· ≠ 45)).drop 1) path "PLT-CPU-LIST" <;>
            simp [hdash, bind, Except.bind]
        · simp [hdash, bind, Except.bind]
  rw [hread]
  simp only [addRange_iff hsorted, cpuItem_iff, Prod.exists, and_assoc]

/-- What the whole loop reads, after the processors that are there already. -/
theorem foldlM_parseCpuToken_iff {tokens : List Text} (hsorted : values.Pairwise (· < ·)) :
    tokens.foldlM (parseCpuToken path) values = .ok read ↔
      ∃ ranges, List.Forall₂ CpuItem tokens ranges ∧
        (ranges.Pairwise fun left right => ∀ cpu, InRange cpu left → ¬ InRange cpu right) ∧
        (∀ range ∈ ranges, ∀ cpu ∈ values, ¬ InRange cpu range) ∧ read.Pairwise (· < ·) ∧
        ∀ cpu, cpu ∈ read ↔ cpu ∈ values ∨ ∃ range ∈ ranges, InRange cpu range := by
  induction tokens generalizing values with
  | nil =>
      simp only [forall₂_nil_left_iff, exists_eq_left, foldlM_nil, pure, Except.pure,
        Except.ok.injEq, List.Pairwise.nil, not_mem_nil, false_implies, implies_true,
        false_and, exists_false, or_false, true_and]
      constructor
      · rintro rfl
        exact ⟨hsorted, fun _ => Iff.rfl⟩
      · rintro ⟨hincreasing, hmembers⟩
        exact hsorted.eq_of_mem_iff hincreasing fun cpu => (hmembers cpu).symm
  | cons token rest ih =>
      have hstep : (token :: rest).foldlM (parseCpuToken path) values = .ok read ↔
          ∃ next, parseCpuToken path values token = .ok next ∧
            rest.foldlM (parseCpuToken path) next = .ok read := by
        rw [foldlM_cons]
        cases parseCpuToken path values token <;> simp [bind, Except.bind]
      rw [hstep]
      constructor
      · rintro ⟨next, hnext, hrest⟩
        obtain ⟨range, hitem, hfresh, hincreasing, hmembers⟩ :=
          (parseCpuToken_iff hsorted).mp hnext
        obtain ⟨ranges, hitems, hapart, hothers, hread, hall⟩ := (ih hincreasing).mp hrest
        refine ⟨range :: ranges, hitems.cons hitem, List.pairwise_cons.mpr ⟨?_, hapart⟩, ?_, hread,
          fun cpu => ?_⟩
        · exact fun other hother cpu hcpu =>
            hothers other hother cpu ((hmembers cpu).mpr (Or.inr hcpu))
        · rw [forall_mem_cons]
          exact ⟨hfresh, fun other hother cpu hcpu =>
            hothers other hother cpu ((hmembers cpu).mpr (Or.inl hcpu))⟩
        · rw [hall, hmembers, exists_mem_cons_iff, or_assoc]
      · rintro ⟨_, hforall, hapart, hothers, hread, hall⟩
        obtain ⟨range, ranges, hitem, hitems, rfl⟩ := List.forall₂_cons_left_iff.mp hforall
        obtain ⟨hfirst, hapart⟩ := List.pairwise_cons.mp hapart
        obtain ⟨hfresh, hothers⟩ := List.forall_mem_cons.mp hothers
        -- after the first item the loop holds the processors of the whole list that it has met
        have hmembers : ∀ cpu, cpu ∈ read.filter (fun cpu => cpu ∈ values ∨ InRange cpu range) ↔
            cpu ∈ values ∨ InRange cpu range := by
          intro cpu
          rw [mem_filter, hall, exists_mem_cons_iff, decide_eq_true_eq]
          tauto
        have hincreasing := hread.filter fun cpu => cpu ∈ values ∨ InRange cpu range
        refine ⟨_, (parseCpuToken_iff hsorted).mpr
          ⟨range, hitem, hfresh, hincreasing, hmembers⟩, (ih hincreasing).mpr
          ⟨ranges, hitems, hapart, fun other hother cpu hcpu => ?_, hread, fun cpu => ?_⟩⟩
        · rcases (hmembers cpu).mp hcpu with hcpu | hcpu
          · exact hothers other hother cpu hcpu
          · exact hfirst other hother cpu hcpu
        · rw [hall, hmembers, exists_mem_cons_iff, or_assoc]

/-! ### Texts between commas -/

theorem CpuItem.no_comma (h : CpuItem text range) : 44 ∉ text := by
  have hnumber : ∀ {text : Text} {number : UInt32}, CpuNumber text number → 44 ∉ text :=
    fun h => h.byte_of (by decide) (by decide)
  cases h with
  | single h => exact hnumber h
  | range hfirst hlast hle =>
      simp only [mem_append, mem_cons, not_or]
      exact ⟨hnumber hfirst, by decide, hnumber hlast⟩

theorem CpuItem.ne_nil (h : CpuItem text range) : text ≠ [] := by
  cases h with
  | single h => exact h.ne_nil
  | range hfirst hlast hle => simp

variable {ranges : List (UInt32 × UInt32)}

/-- The items of a list are what stands between its commas. -/
theorem cpuItems_iff : CpuItems text ranges ↔ List.Forall₂ CpuItem (text.splitOn 44) ranges := by
  constructor
  · rintro ⟨items, hne, rfl, hitems⟩
    have hcommas : ∀ item ∈ items, 44 ∉ item :=
      ((forall₂_and_left _ _).mp (hitems.imp fun _ _ h => ⟨h.no_comma, h⟩)).1
    rwa [splitOn_intercalate 44 hcommas hne]
  · intro h
    exact ⟨text.splitOn 44, splitOn_ne_nil 44 text, (intercalate_splitOn 44).symm, h⟩

/-- Texts with an empty one after them end in the separator. -/
theorem intercalate_ended {tokens : List Text} (h : tokens ≠ []) :
    [44].intercalate (tokens ++ [[]]) = [44].intercalate tokens ++ [44] := by
  induction tokens with
  | nil => exact absurd rfl h
  | cons first rest ih =>
      cases rest with
      | nil => rw [cons_append, nil_append, intercalate_cons_cons,
          intercalate_singleton, intercalate_singleton, append_nil]
      | cons second rest =>
          rw [cons_append, cons_append, intercalate_cons_cons,
            intercalate_cons_cons, ← cons_append, ih (cons_ne_nil _ _)]
          simp only [append_assoc]

theorem splitOn_ended (text : Text) : (text ++ [44]).splitOn 44 = text.splitOn 44 ++ [[]] := by
  rw [splitOn_append_cons_self, splitOn_nil]

theorem forall_ne_nil {items : List Text} (h : List.Forall₂ CpuItem items ranges) :
    ∀ item ∈ items, item ≠ [] :=
  ((forall₂_and_left _ _).mp (h.imp fun _ _ h => ⟨h.ne_nil, h⟩)).1

/-- The items that the loop sees are those of a list, or of the text before a last comma. -/
theorem forall₂_cpuTokens_iff : List.Forall₂ CpuItem (cpuTokens text) ranges ↔
      text = [] ∧ ranges = [] ∨ CpuItems text ranges ∨
        ∃ listed, text = listed ++ [44] ∧ CpuItems listed ranges := by
  by_cases hended : (text.splitOn 44).getLast? = some []
  · obtain ⟨tokens, htokens⟩ := List.getLast?_eq_some_iff.mp hended
    have hseen : cpuTokens text = tokens := by simp [cpuTokens, htokens]
    have hnot : ¬ CpuItems text ranges := by
      rw [cpuItems_iff, htokens]
      exact fun h => forall_ne_nil h [] (by simp) rfl
    have htext : [44].intercalate (text.splitOn 44) = text := intercalate_splitOn 44
    rw [htokens] at htext
    rw [hseen, or_iff_right hnot]
    by_cases hne : tokens = []
    · subst hne
      obtain rfl : [] = text := htext
      simp
    · rw [intercalate_ended hne] at htext
      have hlisted : ∀ {listed : Text}, text = listed ++ [44] → listed.splitOn 44 = tokens := by
        rintro listed rfl
        exact append_cancel_right ((splitOn_ended listed).symm.trans htokens)
      constructor
      · intro h
        refine Or.inr ⟨_, htext.symm, ?_⟩
        rwa [cpuItems_iff, hlisted htext.symm]
      · rintro (⟨rfl, -⟩ | ⟨listed, htext', hitems⟩)
        · simp at htext
        · rwa [cpuItems_iff, hlisted htext'] at hitems
  · have hseen : cpuTokens text = text.splitOn 44 := by simp [cpuTokens, hended]
    rw [hseen, ← cpuItems_iff]
    constructor
    · exact fun h => Or.inr (Or.inl h)
    · rintro (⟨rfl, -⟩ | h | ⟨listed, rfl, -⟩)
      · simp at hended
      · exact h
      · simp [splitOn_ended] at hended

theorem parseCpuList_iff {cpus : List UInt32} :
    parseCpuList text path = .ok cpus ↔ CpuList text cpus ∨ CommaEnded text cpus := by
  have hblank : trim text = [] ↔ ∀ byte ∈ text, isSpace byte = true := by
    constructor
    · intro h
      obtain ⟨before, after, htext, hbefore, hafter⟩ := trim_spec text
      rw [htext, h, append_nil]
      exact List.forall_mem_append.mpr ⟨hbefore, hafter⟩
    · intro h
      simpa using trim_padded h (forall_mem_nil _) (forall_mem_nil (isSpace · = false))
  have hdenotes : ∀ ranges, Denotes ranges cpus ↔
      (ranges.Pairwise fun left right => ∀ cpu, InRange cpu left → ¬ InRange cpu right) ∧
        (∀ range ∈ ranges, ∀ cpu ∈ ([] : List UInt32), ¬ InRange cpu range) ∧
        cpus.Pairwise (· < ·) ∧
        ∀ cpu, cpu ∈ cpus ↔ cpu ∈ ([] : List UInt32) ∨ ∃ range ∈ ranges, InRange cpu range :=
    fun ranges => ⟨fun h => ⟨h.apart, by simp, h.increasing, by simpa using h.members⟩,
      fun h => ⟨h.1, h.2.2.1, by simpa using h.2.2.2⟩⟩
  have hnone : Denotes [] cpus ↔ cpus = [] := by
    constructor
    · intro h
      rw [eq_nil_iff_forall_not_mem]
      simpa using h.members
    · rintro rfl
      exact ⟨.nil, .nil, by simp⟩
  rw [parseCpuList, foldlM_parseCpuToken_iff .nil]
  simp only [← hdenotes, forall₂_cpuTokens_iff]
  constructor
  · rintro ⟨ranges, (⟨htext, rfl⟩ | hitems | ⟨listed, htext, hitems⟩), hcpus⟩
    · exact Or.inl (Or.inl ⟨hblank.mp htext, hnone.mp hcpus⟩)
    · exact Or.inl (Or.inr ⟨ranges, hitems, hcpus⟩)
    · exact Or.inr ⟨listed, ranges, htext, hitems, hcpus⟩
  · rintro ((⟨htext, rfl⟩ | ⟨ranges, hitems, hcpus⟩) | ⟨listed, ranges, htext, hitems, hcpus⟩)
    · exact ⟨[], Or.inl ⟨hblank.mpr htext, rfl⟩, hnone.mpr rfl⟩
    · exact ⟨ranges, Or.inr (Or.inl hitems), hcpus⟩
    · exact ⟨ranges, Or.inr (Or.inr ⟨listed, htext, hitems⟩), hcpus⟩

example : parseCpuList (ascii " 5, 0 - 02 ,7-8\n") [] = .ok [0, 1, 2, 5, 7, 8] := by decide

/-- A list with a comma after it is none by the grammar. -/
theorem CommaEnded.not_cpuList {cpus others : List UInt32} (h : CommaEnded text cpus) :
    ¬ CpuList text others := by
  obtain ⟨listed, ranges, htext, -, -⟩ := h
  rintro (⟨hspace, -⟩ | ⟨_, hitems, -⟩)
  · have hcomma : (44 : UInt8) ∈ trim text := by simp [htext]
    have := hspace 44 ((mem_trim (by decide)).mp hcomma)
    exact absurd this (by decide)
  · rw [cpuItems_iff, htext, splitOn_ended] at hitems
    exact forall_ne_nil hitems [] (by simp) rfl

/-! ### The loops end -/

/-- The counter of a range goes past its last processor without wrapping around. -/
theorem rangeLoop_eq (last : UInt32) (value : UInt64) (values : List UInt32) (extra : Nat) :
    rangeLoop last (last.toNat + 1 - value.toNat + 1 + extra) value values =
      some (insertRange (last.toNat + 1 - value.toNat) value.toNat values) := by
  generalize hcount : last.toNat + 1 - value.toNat = count
  have hwide := last.toNat_lt
  have hle : value ≤ last.toUInt64 ↔ value.toNat ≤ last.toNat := by
    rw [UInt64.le_iff_toNat_le, UInt32.toNat_toUInt64]
  induction count generalizing value values with
  | zero =>
      rw [show 0 + 1 + extra = extra + 1 by omega, rangeLoop, if_neg (by rw [hle]; omega)]
      rfl
  | succ count ih =>
      have hnext : (value + 1).toNat = value.toNat + 1 := by
        rw [UInt64.toNat_add, UInt64.toNat_one, Nat.mod_eq_of_lt (by omega)]
      have hcpu : value.toUInt32 = .ofNat value.toNat := by
        rw [← UInt32.toNat_inj, UInt64.toNat_toUInt32, UInt32.toNat_ofNat']
      rw [show count + 1 + 1 + extra = (count + 1 + extra) + 1 by omega, rangeLoop,
        if_pos (by rw [hle]; omega), insertRange, hcpu]
      cases insertCpu (.ofNat value.toNat) values with
      | none => rfl
      | some values =>
          have hturn := ih (value + 1) values (by omega)
            (by rw [UInt64.le_iff_toNat_le, UInt32.toNat_toUInt64])
          rw [hnext] at hturn
          exact hturn

theorem cpuTokens_of_ne_nil (h : text ≠ []) : cpuTokens text =
    text.takeWhile (· ≠ 44) :: cpuTokens (text.drop ((text.takeWhile (· ≠ 44)).length + 1)) := by
  by_cases hcomma : 44 ∈ text
  · obtain ⟨token, rest, rfl, htoken⟩ := eq_append_cons_of_mem hcomma
    have htake : (token ++ 44 :: rest).takeWhile (· ≠ 44) = token := (split_mark rest htoken).1
    have hdrop : (token ++ 44 :: rest).drop (token.length + 1) = rest := by
      rw [← drop_drop, drop_left, drop_one, tail_cons]
    have hne := splitOn_ne_nil 44 rest
    rw [htake, hdrop, cpuTokens, cpuTokens, splitOn_append_cons_self_of_not_mem htoken,
      getLast?_cons, getLast?_eq_some_getLast hne, Option.getD_some,
      dropLast_cons_of_ne_nil hne]
    split <;> rfl
  · have htake : text.takeWhile (· ≠ 44) = text :=
      List.takeWhile_eq_self_iff.mpr fun byte hbyte =>
        decide_eq_true fun heq => hcomma (heq ▸ hbyte)
    rw [htake, drop_eq_nil_of_le (Nat.le_succ _), cpuTokens,
      splitOn_eq_singleton hcomma]
    simp [h, cpuTokens]

/-- The position passes the end of the text after as many turns as the text has bytes. -/
theorem cpuListLoop_eq (cleaned path : Text) {fuel start : Nat} (values : List UInt32)
    (h : cleaned.length - start < fuel) : cpuListLoop cleaned path fuel start values =
      some ((cpuTokens (cleaned.drop start)).foldlM (parseCpuToken path) values) := by
  induction fuel generalizing start values with
  | zero => exact absurd h (Nat.not_lt_zero _)
  | succ fuel ih =>
      rw [cpuListLoop]
      split
      · rename_i hstart
        have hne : cleaned.drop start ≠ [] := by simpa using hstart
        rw [cpuTokens_of_ne_nil hne, foldlM_cons, drop_drop]
        dsimp only
        cases parseCpuToken path values ((cleaned.drop start).takeWhile (· ≠ 44)) with
        | error errors => rfl
        | ok next =>
            dsimp only [bind, Except.bind]
            rw [ih next (by omega), Nat.add_assoc]
      · rename_i hstart
        rw [drop_eq_nil_of_le (Nat.not_lt.mp hstart)]
        rfl

/-! ### What the reader accepts -/

/-- `parse_cpu_list` ends, and it reads the lists of the grammar and no other text exactly when
the text is not a list with one more comma at its end. -/
theorem parseCpuList_grammar (text path : Text) :
    ((∀ extra, cpuListLoop (trim text) path ((trim text).length + 1 + extra) 0 [] =
        some (parseCpuList text path)) ∧
      (∀ (first last : UInt32) (values : List UInt32) (extra : Nat),
        rangeLoop last (last.toNat + 1 - first.toNat + 1 + extra) first.toUInt64 values =
          some (insertRange (last.toNat + 1 - first.toNat) first.toNat values)) ∧
      ∀ cpus, parseCpuList text path = .ok cpus ↔ CpuList text cpus) ↔
    ¬ ∃ cpus, CommaEnded text cpus := by
  constructor
  · rintro ⟨-, -, h⟩ ⟨cpus, hended⟩
    exact hended.not_cpuList ((h cpus).mp (parseCpuList_iff.mpr (Or.inr hended)))
  · intro h
    refine ⟨fun extra => ?_, fun first last values extra => ?_, fun cpus => ?_⟩
    · rw [cpuListLoop_eq _ _ _ (by omega), drop_zero]
      rfl
    · exact rangeLoop_eq last first.toUInt64 values extra
    · rw [parseCpuList_iff]
      exact or_iff_left fun hended => h ⟨cpus, hended⟩

/-- The processor 0 with a comma after it is read, and no list of the grammar. -/
theorem parseCpuList_comma : ¬ ∀ (text path : Text) (cpus : List UInt32),
    parseCpuList text path = .ok cpus ↔ CpuList text cpus := by
  intro h
  have hread : parseCpuList (ascii "0,") (ascii "$cpus") = .ok [0] := by decide
  rcases (h _ _ _).mp hread with ⟨hspace, -⟩ | ⟨ranges, hitems, -⟩
  · exact absurd (hspace 48 (by decide)) (by decide)
  · exact forall_ne_nil (cpuItems_iff.mp hitems) [] (by decide) rfl

end CpuPrefetch.Platform
