/-
How far apart the clocks of two cores can be.

Each exchange bounds the offset from both sides; the running bounds of a window are the
intersection so far.  A difference that is refused leaves a zero in them, but it clears the
flag for good, so it never reaches evidence that passes.  No signed word overflows, whatever
the timestamps are.
-/
import CpuPrefetch.Timing.Qualification

namespace CpuPrefetch.Timing

open List

/-- The offset is at least this: the response was received when it had been sent. -/
def lowest (exchange : CrossCoreExchangeSample) : Int :=
  exchange.responseSend.toNat - exchange.responseReceive.toNat

/-- The offset is at most this: the request was received when it had been sent. -/
def highest (exchange : CrossCoreExchangeSample) : Int :=
  exchange.requestReceive.toNat - exchange.requestSend.toNat

/-- With this offset of the responder's clock nothing is received before it was sent. -/
def Consistent (offset : ℝ) (exchange : CrossCoreExchangeSample) : Prop :=
  exchange.requestSend.toNat + offset ≤ exchange.requestReceive.toNat ∧
    (exchange.responseSend.toNat : ℝ) ≤ exchange.responseReceive.toNat + offset

/-- It is the value of a signed word. -/
def FitsWord (value : Int) : Prop := -2 ^ 63 ≤ value ∧ value < 2 ^ 63

/-! ### Signed words -/

theorem fitsWord_toInt (word : Int64) : FitsWord word.toInt := ⟨word.le_toInt, word.toInt_lt⟩

theorem signed_eq {value : Int} (h : FitsWord value) :
    ∃ word : Int64, signed value = some word ∧ word.toInt = value :=
  ⟨.ofInt value, if_pos h, Int64.toInt_ofInt_of_le h.1 h.2⟩

theorem toInt_max (left right : Int64) : (max left right).toInt = max left.toInt right.toInt := by
  show (if left ≤ right then right else left).toInt = _
  by_cases hle : left ≤ right
  · rw [if_pos hle, max_eq_right (Int64.le_iff_toInt_le.mp hle)]
  · have hge := Int.le_of_not_le fun hint => hle (Int64.le_iff_toInt_le.mpr hint)
    rw [if_neg hle, max_eq_left hge]

theorem toInt_min (left right : Int64) : (min left right).toInt = min left.toInt right.toInt := by
  show (if left ≤ right then left else right).toInt = _
  by_cases hle : left ≤ right
  · rw [if_pos hle, min_eq_left (Int64.le_iff_toInt_le.mp hle)]
  · have hge := Int.le_of_not_le fun hint => hle (Int64.le_iff_toInt_le.mpr hint)
    rw [if_neg hle, min_eq_right hge]

/-- A word that is not negative keeps its value without the sign. -/
theorem toNat_toUInt64 {word : Int64} (h : 0 ≤ word.toInt) :
    (word.toUInt64.toNat : Int) = word.toInt := by
  have hlt := word.toInt_lt
  show (word.toBitVec.toNat : Int) = word.toBitVec.toInt
  have heq := BitVec.toInt_eq_toNat_bmod word.toBitVec
  change 0 ≤ word.toBitVec.toInt at h
  change word.toBitVec.toInt < 2 ^ 63 at hlt
  rw [heq] at h hlt ⊢
  have hbound := word.toBitVec.isLt
  rw [Int.bmod_def] at h hlt ⊢
  omega

/-- A difference of up to 2^63 - 1 keeps its value as a signed word. -/
theorem toInt_of_le_maximum {value : UInt64} (h : ¬value > int64Max.toUInt64) :
    value.toInt64.toInt = value.toNat ∧ value.toNat < 2 ^ 63 := by
  have hmaximum : int64Max.toUInt64.toNat = 2 ^ 63 - 1 := rfl
  rw [gt_iff_lt, UInt64.lt_iff_toNat_lt] at h
  refine ⟨?_, by omega⟩
  show value.toBitVec.toInt = _
  rw [BitVec.toInt_eq_toNat_of_lt]
  · rfl
  · show 2 * value.toNat < 2 ^ 64
    omega

/-- **What is accepted is the exact difference.** -/
theorem signedDifference_spec (left right : UInt64) :
    ∃ taken, signedDifference left right = some taken ∧
      ∀ word, taken = some word → word.toInt = (left.toNat : Int) - right.toNat := by
  unfold signedDifference
  by_cases hle : left ≥ right
  · rw [if_pos hle]
    have horder := UInt64.le_iff_toNat_le.mp hle
    have hdifference := UInt64.toNat_sub_of_le _ _ hle
    by_cases hlarge : left - right > int64Max.toUInt64
    · exact ⟨none, if_pos hlarge, nofun⟩
    · refine ⟨_, if_neg hlarge, ?_⟩
      intro word hword
      obtain rfl := Option.some.inj hword
      rw [(toInt_of_le_maximum hlarge).1, hdifference]
      omega
  · rw [if_neg hle]
    have hlt : left ≤ right := UInt64.le_of_lt (UInt64.not_le.mp hle)
    have horder := UInt64.le_iff_toNat_le.mp hlt
    have hdifference := UInt64.toNat_sub_of_le _ _ hlt
    by_cases hlarge : right - left > int64Max.toUInt64
    · exact ⟨none, if_pos hlarge, nofun⟩
    · obtain ⟨hvalue, hbound⟩ := toInt_of_le_maximum hlarge
      obtain ⟨output, houtput, hnegated⟩ := @signed_eq (-(right - left).toInt64.toInt) (by
        unfold FitsWord
        omega)
      refine ⟨some output, ?_, ?_⟩
      · show (if _ then _ else _) = _
        rw [if_neg hlarge, houtput]
        rfl
      · intro word hword
        obtain rfl := Option.some.inj hword
        rw [hnegated, hvalue, hdifference]
        omega

/-- **The width of an interval is exact, and no word overflows.** -/
theorem intervalWidth_spec {lower upper : Int64} (h : lower.toInt ≤ upper.toInt) :
    ∃ width, intervalWidth lower upper = some width ∧
      (width.toNat : Int) = upper.toInt - lower.toInt := by
  have hlower := fitsWord_toInt lower
  have hupper := fitsWord_toInt upper
  have hzero : (0 : Int64).toInt = 0 := rfl
  unfold FitsWord at hlower hupper
  unfold intervalWidth
  by_cases hnonnegative : lower ≥ 0
  · rw [if_pos hnonnegative]
    rw [ge_iff_le, Int64.le_iff_toInt_le, hzero] at hnonnegative
    obtain ⟨width, hwidth, hvalue⟩ := @signed_eq (upper.toInt - lower.toInt) (by
      unfold FitsWord
      omega)
    refine ⟨width.toUInt64, by rw [hwidth]; rfl, ?_⟩
    rw [toNat_toUInt64 (by omega), hvalue]
  · rw [if_neg hnonnegative]
    rw [ge_iff_le, Int64.le_iff_toInt_le, hzero] at hnonnegative
    obtain ⟨lowerNext, hlowerNext, hlowerValue⟩ := @signed_eq (lower.toInt + 1) (by
      unfold FitsWord
      omega)
    obtain ⟨lowerMagnitude, hlowerMagnitude, hlowerNegated⟩ := @signed_eq (-lowerNext.toInt) (by
      unfold FitsWord
      omega)
    have hlowerWord := @toNat_toUInt64 lowerMagnitude (by omega)
    by_cases hnegative : upper < 0
    · rw [if_pos hnegative]
      rw [Int64.lt_iff_toInt_lt, hzero] at hnegative
      obtain ⟨upperNext, hupperNext, hupperValue⟩ := @signed_eq (upper.toInt + 1) (by
        unfold FitsWord
        omega)
      obtain ⟨upperMagnitude, hupperMagnitude, hupperNegated⟩ := @signed_eq (-upperNext.toInt) (by
        unfold FitsWord
        omega)
      have hupperWord := @toNat_toUInt64 upperMagnitude (by omega)
      refine ⟨lowerMagnitude.toUInt64 - upperMagnitude.toUInt64, ?_, ?_⟩
      · rw [hlowerNext]
        show (signed (-lowerNext.toInt) >>= _) = _
        rw [hlowerMagnitude]
        show (signed (upper.toInt + 1) >>= _) = _
        rw [hupperNext]
        show (signed (-upperNext.toInt) >>= _) = _
        rw [hupperMagnitude]
        rfl
      · rw [UInt64.toNat_sub_of_le _ _ (by rw [UInt64.le_iff_toNat_le]; omega)]
        omega
    · rw [if_neg hnegative]
      rw [Int64.lt_iff_toInt_lt, hzero] at hnegative
      have hupperWord := @toNat_toUInt64 upper (by omega)
      refine ⟨lowerMagnitude.toUInt64 + 1 + upper.toUInt64, ?_, ?_⟩
      · rw [hlowerNext]
        show (signed (-lowerNext.toInt) >>= _) = _
        rw [hlowerMagnitude]
        rfl
      · rw [UInt64.toNat_add, UInt64.toNat_add, UInt64.toNat_one]
        omega

theorem exceedsMax_spec (left right : Int64) :
    ∃ above, exceedsMax left right = some above ∧
      (above = true ↔ 2 ^ 63 ≤ left.toInt + right.toInt) := by
  have hleft := fitsWord_toInt left
  have hright := fitsWord_toInt right
  have hmax : int64Max.toInt = 2 ^ 63 - 1 := rfl
  have hzero : (0 : Int64).toInt = 0 := rfl
  unfold FitsWord at hleft hright
  unfold exceedsMax
  by_cases hpositive : right > 0
  · rw [if_pos hpositive]
    rw [gt_iff_lt, Int64.lt_iff_toInt_lt, hzero] at hpositive
    obtain ⟨bound, hbound, hvalue⟩ := @signed_eq (int64Max.toInt - right.toInt) (by
      unfold FitsWord
      omega)
    refine ⟨decide (left > bound), by rw [hbound]; rfl, ?_⟩
    rw [decide_eq_true_iff, gt_iff_lt, Int64.lt_iff_toInt_lt]
    omega
  · refine ⟨false, if_neg hpositive, ?_⟩
    rw [gt_iff_lt, Int64.lt_iff_toInt_lt, hzero] at hpositive
    simp only [Bool.false_eq_true, false_iff]
    omega

theorem fallsBelowMin_spec (left right : Int64) :
    ∃ below, fallsBelowMin left right = some below ∧
      (below = true ↔ left.toInt + right.toInt < -2 ^ 63) := by
  have hleft := fitsWord_toInt left
  have hright := fitsWord_toInt right
  have hmin : int64Min.toInt = -2 ^ 63 := rfl
  have hzero : (0 : Int64).toInt = 0 := rfl
  unfold FitsWord at hleft hright
  unfold fallsBelowMin
  by_cases hnegative : right < 0
  · rw [if_pos hnegative]
    rw [Int64.lt_iff_toInt_lt, hzero] at hnegative
    obtain ⟨bound, hbound, hvalue⟩ := @signed_eq (int64Min.toInt - right.toInt) (by
      unfold FitsWord
      omega)
    refine ⟨decide (left < bound), by rw [hbound]; rfl, ?_⟩
    rw [decide_eq_true_iff, Int64.lt_iff_toInt_lt]
    omega
  · refine ⟨false, if_neg hnegative, ?_⟩
    rw [Int64.lt_iff_toInt_lt, hzero] at hnegative
    simp only [Bool.false_eq_true, false_iff]
    omega

/-- **What is accepted is the exact sum.** -/
theorem checkedSum_spec (left right : Int64) :
    ∃ taken, checkedSum left right = some taken ∧
      ∀ word, taken = some word → word.toInt = left.toInt + right.toInt := by
  obtain ⟨above, habove, hhigh⟩ := exceedsMax_spec left right
  obtain ⟨below, hbelow, hlow⟩ := fallsBelowMin_spec left right
  unfold checkedSum
  rw [habove]
  cases above with
  | true => exact ⟨none, rfl, nofun⟩
  | false =>
      show ∃ taken, (fallsBelowMin left right >>= _) = _ ∧ _
      rw [hbelow]
      cases below with
      | true => exact ⟨none, rfl, nofun⟩
      | false =>
          simp only [Bool.false_eq_true, false_iff] at hhigh hlow
          obtain ⟨output, houtput, hvalue⟩ := @signed_eq (left.toInt + right.toInt) (by
            unfold FitsWord
            omega)
          refine ⟨some output, ?_, ?_⟩
          · show (signed (left.toInt + right.toInt) >>= _) = _
            rw [houtput]
            rfl
          · intro word hword
            rw [← Option.some.inj hword, hvalue]

/-! ### One window -/

/-- Both differences of an exchange are values of signed words. -/
def Fits (exchange : CrossCoreExchangeSample) : Prop :=
  FitsWord (lowest exchange) ∧ FitsWord (highest exchange)

/-- The offset is between the running bounds. -/
def Bounds.Holds (bounds : Bounds) (offset : ℝ) : Prop :=
  (bounds.lower.toInt : ℝ) ≤ offset ∧ offset ≤ (bounds.upper.toInt : ℝ)

/-- The offset is between the bounds of one exchange. -/
def Within (offset : ℝ) (exchange : CrossCoreExchangeSample) : Prop :=
  (lowest exchange : ℝ) ≤ offset ∧ offset ≤ (highest exchange : ℝ)

/-- What the bounds and the flag have become after some exchanges. -/
structure Narrowed (before : Bounds) (exchanges : List CrossCoreExchangeSample) (after : Bounds) :
    Prop where
  valid : before.arithmeticValid = true
  fits : ∀ exchange ∈ exchanges, Fits exchange
  holds : ∀ offset, after.Holds offset ↔
    before.Holds offset ∧ ∀ exchange ∈ exchanges, Within offset exchange

theorem narrow_spec (before : Bounds) (exchange : CrossCoreExchangeSample) :
    ∃ after, narrow before exchange = some after ∧
      (after.arithmeticValid = true → Narrowed before [exchange] after) := by
  obtain ⟨lowerTaken, hlowerTaken, hlower⟩ :=
    signedDifference_spec exchange.responseSend exchange.responseReceive
  obtain ⟨upperTaken, hupperTaken, hupper⟩ :=
    signedDifference_spec exchange.requestReceive exchange.requestSend
  unfold narrow
  rw [hlowerTaken]
  cases lowerTaken with
  | none =>
      refine ⟨_, rfl, ?_⟩
      intro hvalid
      simp at hvalid
  | some sampleLower =>
      show ∃ after, (signedDifference exchange.requestReceive exchange.requestSend >>= _) = _ ∧ _
      rw [hupperTaken]
      refine ⟨_, rfl, ?_⟩
      intro hvalid
      cases upperTaken with
      | none => simp at hvalid
      | some sampleUpper =>
          have hsampleLower : sampleLower.toInt = lowest exchange := hlower sampleLower rfl
          have hsampleUpper : sampleUpper.toInt = highest exchange := hupper sampleUpper rfl
          refine ⟨hvalid, ?_, ?_⟩
          · rw [forall_mem_singleton]
            exact ⟨hsampleLower ▸ fitsWord_toInt sampleLower,
              hsampleUpper ▸ fitsWord_toInt sampleUpper⟩
          · intro offset
            rw [forall_mem_singleton]
            unfold Bounds.Holds Within
            simp only [Option.getD_some, toInt_max, toInt_min, hsampleLower, hsampleUpper,
              Int.cast_max, Int.cast_min, max_le_iff, le_min_iff]
            tauto

/-- **The bounds after a run of exchanges are the intersection of theirs.** -/
theorem foldlM_narrow_spec (exchanges : List CrossCoreExchangeSample) (before : Bounds) :
    ∃ after, exchanges.foldlM narrow before = some after ∧
      (after.arithmeticValid = true → Narrowed before exchanges after) := by
  induction exchanges generalizing before with
  | nil =>
      refine ⟨before, rfl, ?_⟩
      intro hvalid
      exact ⟨hvalid, nofun, by simp⟩
  | cons exchange rest ih =>
      obtain ⟨next, hnext, hfirst⟩ := narrow_spec before exchange
      obtain ⟨after, hafter, hrest⟩ := ih next
      refine ⟨after, ?_, ?_⟩
      · rw [foldlM_cons, hnext]
        exact hafter
      · intro hvalid
        have hlater := hrest hvalid
        have hearlier := hfirst hlater.valid
        refine ⟨hearlier.valid, ?_, ?_⟩
        · rw [forall_mem_cons]
          exact ⟨hearlier.fits exchange mem_cons_self, hlater.fits⟩
        · intro offset
          rw [hlater.holds, hearlier.holds, forall_mem_singleton, forall_mem_cons]
          tauto

/-- What is measured of a window, whether it passes or not. -/
structure Measured (evidence : CrossCoreWindowEvidence) : Prop where
  width : evidence.intervalNonempty = true → (evidence.widthPicoseconds.toNat : Int) =
    evidence.upperPicoseconds.toInt - evidence.lowerPicoseconds.toInt
  noWidth : evidence.intervalNonempty = false → evidence.widthPicoseconds = 0xffffffffffffffff

/-- A window that passes: its interval is the intersection of what its exchanges allow. -/
structure Sound (window : CrossCoreWindowInput) (evidence : CrossCoreWindowEvidence) : Prop where
  fits : ∀ exchange ∈ window.exchanges, Fits exchange
  nonempty : evidence.lowerPicoseconds.toInt ≤ evidence.upperPicoseconds.toInt
  interval : Set.Icc (evidence.lowerPicoseconds.toInt : ℝ) evidence.upperPicoseconds.toInt =
    ⋂ exchange ∈ window.exchanges, Set.Icc (lowest exchange : ℝ) (highest exchange)
  consistent : ∀ offset, (∀ exchange ∈ window.exchanges, Consistent offset exchange) →
    offset ∈ Set.Icc (evidence.lowerPicoseconds.toInt : ℝ) evidence.upperPicoseconds.toInt
  bounded : -100000 ≤ evidence.lowerPicoseconds.toInt ∧ evidence.upperPicoseconds.toInt ≤ 100000
  width : (evidence.widthPicoseconds.toNat : Int) =
    evidence.upperPicoseconds.toInt - evidence.lowerPicoseconds.toInt
  midpoint : evidence.midpointTwicePicoseconds.toInt =
    evidence.lowerPicoseconds.toInt + evidence.upperPicoseconds.toInt

/-- The checks of a window. -/
def CrossCoreWindowEvidence.limits (evidence : CrossCoreWindowEvidence) : Bool :=
  evidence.intervalNonempty && evidence.boundsPass && evidence.widthPass

theorem within_of_consistent {offset : ℝ} {exchange : CrossCoreExchangeSample}
    (h : Consistent offset exchange) : Within offset exchange := by
  obtain ⟨hrequest, hresponse⟩ := h
  unfold Within lowest highest
  push_cast
  constructor
  · linarith
  · linarith

/-- The first bounds are no bounds once there is an exchange. -/
theorem within_first {offset : ℝ} {exchanges : List CrossCoreExchangeSample} {valid : Bool}
    (hne : exchanges ≠ []) (hfits : ∀ exchange ∈ exchanges, Fits exchange)
    (h : ∀ exchange ∈ exchanges, Within offset exchange) :
    (Bounds.mk int64Min int64Max valid).Holds offset := by
  obtain ⟨exchange, rest, rfl⟩ := exists_cons_of_ne_nil hne
  obtain ⟨⟨hlowest, -⟩, ⟨-, hhighest⟩⟩ := hfits exchange mem_cons_self
  obtain ⟨hlower, hupper⟩ := h exchange mem_cons_self
  constructor
  · refine le_trans ?_ hlower
    exact_mod_cast hlowest
  · refine le_trans hupper ?_
    have hlast : highest exchange ≤ int64Max.toInt := Int.le_sub_one_of_lt hhighest
    exact_mod_cast hlast

theorem evaluateWindow_spec (arithmeticValid : Bool) (window : CrossCoreWindowInput) :
    ∃ valid evidence, evaluateWindow arithmeticValid window = some (valid, evidence) ∧
      Measured evidence ∧
      (valid = true → arithmeticValid = true ∧
        (window.exchanges ≠ [] → evidence.limits = true → Sound window evidence)) := by
  obtain ⟨bounds, hbounds, hnarrowed⟩ :=
    foldlM_narrow_spec window.exchanges ⟨int64Min, int64Max, arithmeticValid⟩
  unfold evaluateWindow
  rw [hbounds]
  by_cases hnonempty : (bounds.arithmeticValid && decide (bounds.lower ≤ bounds.upper)) = true
  · have horder : bounds.lower.toInt ≤ bounds.upper.toInt := by
      rw [Bool.and_eq_true, decide_eq_true_iff] at hnonempty
      exact Int64.le_iff_toInt_le.mp hnonempty.2
    obtain ⟨width, hwidth, hwidthValue⟩ := intervalWidth_spec horder
    obtain ⟨midpoint, hmidpoint, hmidpointValue⟩ := checkedSum_spec bounds.lower bounds.upper
    simp only [Option.bind_eq_bind, Option.bind_some, hnonempty, if_true, hwidth, hmidpoint]
    refine ⟨_, _, rfl, ⟨fun _ => hwidthValue, nofun⟩, ?_⟩
    intro hvalid
    obtain ⟨hsome, hbounded⟩ := (Bool.and_eq_true _ _).mp hvalid
    have hnarrow := hnarrowed hbounded
    refine ⟨hnarrow.valid, ?_⟩
    intro hne hlimits
    have hholds : ∀ offset, bounds.Holds offset ↔
        ∀ exchange ∈ window.exchanges, Within offset exchange := by
      intro offset
      rw [hnarrow.holds, and_iff_right_iff_imp]
      exact within_first hne hnarrow.fits
    refine ⟨hnarrow.fits, horder, ?_, ?_, ?_, hwidthValue, ?_⟩
    · ext offset
      rw [Set.mem_iInter₂]
      exact hholds offset
    · intro offset hconsistent
      refine (hholds offset).mpr ?_
      intro exchange hexchange
      exact within_of_consistent (hconsistent exchange hexchange)
    · unfold CrossCoreWindowEvidence.limits at hlimits
      simp only [Bool.true_and, Bool.and_eq_true, decide_eq_true_iff, ge_iff_le,
        Int64.le_iff_toInt_le] at hlimits
      exact hlimits.1
    · obtain ⟨word, hword⟩ := Option.isSome_iff_exists.mp hsome
      rw [hword]
      exact hmidpointValue word hword
  · rw [Bool.not_eq_true] at hnonempty
    simp only [Option.bind_eq_bind, Option.bind_some, hnonempty, Bool.false_eq_true, if_false]
    refine ⟨_, _, rfl, ⟨nofun, fun _ => rfl⟩, ?_⟩
    intro hvalid
    refine ⟨(hnarrowed ((Bool.and_eq_true _ _).mp hvalid).2).valid, ?_⟩
    intro _ hlimits
    simp [CrossCoreWindowEvidence.limits] at hlimits

/-- A window after one that failed cannot pass, whatever its own exchanges are. -/
theorem evaluateWindows_spec (windows : List CrossCoreWindowInput) (arithmeticValid : Bool) :
    ∃ valid evidences, evaluateWindows arithmeticValid windows = some (valid, evidences) ∧
      (∀ evidence ∈ evidences, Measured evidence) ∧ evidences.length = windows.length ∧
      (valid = true → arithmeticValid = true ∧
        ((∀ window ∈ windows, window.exchanges ≠ []) →
          (∀ evidence ∈ evidences, evidence.limits = true) →
            List.Forall₂ Sound windows evidences)) := by
  induction windows generalizing arithmeticValid with
  | nil =>
      refine ⟨arithmeticValid, [], rfl, nofun, rfl, ?_⟩
      intro hvalid
      exact ⟨hvalid, fun _ _ => .nil⟩
  | cons window rest ih =>
      obtain ⟨next, evidence, hwindow, hmeasured, hsound⟩ :=
        evaluateWindow_spec arithmeticValid window
      obtain ⟨valid, evidences, hrest, hothers, hlength, hlater⟩ := ih next
      refine ⟨valid, evidence :: evidences, ?_, ?_, congrArg Nat.succ hlength, ?_⟩
      · rw [evaluateWindows, hwindow]
        show (evaluateWindows next rest >>= _) = _
        rw [hrest]
        rfl
      · exact List.forall_mem_cons.mpr ⟨hmeasured, hothers⟩
      · intro hvalid
        obtain ⟨hnext, hrestSound⟩ := hlater hvalid
        obtain ⟨hbefore, hfirstSound⟩ := hsound hnext
        refine ⟨hbefore, ?_⟩
        intro hne hlimits
        obtain ⟨hneFirst, hneRest⟩ := List.forall_mem_cons.mp hne
        obtain ⟨hlimitsFirst, hlimitsRest⟩ := List.forall_mem_cons.mp hlimits
        exact .cons (hfirstSound hneFirst hlimitsFirst) (hrestSound hneRest hlimitsRest)

/-! ### A direction -/

theorem toInt_foldl_max (first : Int64) (rest : List Int64) :
    (rest.foldl max first).toInt = (rest.map Int64.toInt).foldl max first.toInt := by
  induction rest generalizing first with
  | nil => rfl
  | cons next rest ih => rw [foldl_cons, ih, map_cons, foldl_cons, toInt_max]

theorem toInt_foldl_min (first : Int64) (rest : List Int64) :
    (rest.foldl min first).toInt = (rest.map Int64.toInt).foldl min first.toInt := by
  induction rest generalizing first with
  | nil => rfl
  | cons next rest ih => rw [foldl_cons, ih, map_cons, foldl_cons, toInt_min]

/-- The range is the exact difference of the greatest and the least midpoint. -/
def RangeExact (evidence : CrossCoreDirectionEvidence) : Prop :=
  ∃ least greatest,
    IsLeast {midpoint | ∃ window ∈ evidence.windows,
      window.midpointTwicePicoseconds.toInt = midpoint} least ∧
    IsGreatest {midpoint | ∃ window ∈ evidence.windows,
      window.midpointTwicePicoseconds.toInt = midpoint} greatest ∧
    (evidence.midpointRangeTwicePicoseconds.toNat : Int) = greatest - least

theorem midpointRange_spec {first : CrossCoreWindowEvidence} {rest : List CrossCoreWindowEvidence}
    {midpoints : List Int64}
    (h : midpoints = (first :: rest).map CrossCoreWindowEvidence.midpointTwicePicoseconds) :
    ∃ range, intervalWidth (midpoints.tail.foldl min (midpoints.headD 0))
        (midpoints.tail.foldl max (midpoints.headD 0)) = some range ∧
      ∃ least greatest,
        IsLeast {midpoint | ∃ window ∈ first :: rest,
          window.midpointTwicePicoseconds.toInt = midpoint} least ∧
        IsGreatest {midpoint | ∃ window ∈ first :: rest,
          window.midpointTwicePicoseconds.toInt = midpoint} greatest ∧
        (range.toNat : Int) = greatest - least := by
  subst h
  have hmembers : {midpoint | ∃ window ∈ first :: rest,
      window.midpointTwicePicoseconds.toInt = midpoint} =
      {midpoint | midpoint ∈ first.midpointTwicePicoseconds.toInt ::
        (rest.map CrossCoreWindowEvidence.midpointTwicePicoseconds).map Int64.toInt} := by
    ext midpoint
    simp [@eq_comm _ midpoint]
  obtain ⟨hleast, hbelow⟩ := List.min?_eq_some_iff.mp (@List.min?_cons' _
    first.midpointTwicePicoseconds.toInt _
    ((rest.map CrossCoreWindowEvidence.midpointTwicePicoseconds).map Int64.toInt))
  obtain ⟨hgreatest, habove⟩ := List.max?_eq_some_iff.mp (@List.max?_cons' _
    first.midpointTwicePicoseconds.toInt _
    ((rest.map CrossCoreWindowEvidence.midpointTwicePicoseconds).map Int64.toInt))
  rw [← toInt_foldl_min] at hleast hbelow
  rw [← toInt_foldl_max] at hgreatest habove
  obtain ⟨range, hrange, hvalue⟩ := intervalWidth_spec (hbelow _ hgreatest)
  refine ⟨range, hrange, _, _, ?_, ?_, hvalue⟩
  · rw [hmembers]
    exact ⟨hleast, hbelow⟩
  · rw [hmembers]
    exact ⟨hgreatest, habove⟩

theorem regressions_eq_zero {exchange : CrossCoreExchangeSample} (h : regressions exchange = 0) :
    exchange.requestSend ≤ exchange.requestReceive ∧
      exchange.responseSend ≤ exchange.responseReceive := by
  unfold regressions at h
  rw [Nat.add_eq_zero_iff] at h
  constructor
  · by_contra hnot
    rw [if_pos (UInt64.not_le.mp hnot)] at h
    exact Nat.one_ne_zero h.1
  · by_contra hnot
    rw [if_pos (UInt64.not_le.mp hnot)] at h
    exact Nat.one_ne_zero h.2

theorem exchanges_ne_nil {first : CrossCoreWindowInput} {windows : List CrossCoreWindowInput}
    (h : ¬(decide (first.exchanges.length = 0) || windows.any fun window =>
      decide (window.exchanges.length ≠ first.exchanges.length)) = true) :
    ∀ window ∈ windows, window.exchanges ≠ [] := by
  intro window hwindow hnil
  apply h
  rw [Bool.or_eq_true]
  by_cases hzero : first.exchanges.length = 0
  · exact .inl (decide_eq_true hzero)
  · refine .inr (List.any_eq_true.mpr ⟨window, hwindow, decide_eq_true ?_⟩)
    rw [hnil]
    exact fun heq => hzero heq.symm

/-- **The bounds on the offset of two clocks are sound.**

No signed word overflows, whatever the exchanges are: there always is a result.  Widths
and the range of the midpoints are exact, also where the arithmetic has failed.  Where a
direction passes, every difference has fitted in a signed word, the interval of each window
is the intersection of what its exchanges allow, and nothing was received before it was
sent. -/
theorem cross_core_bounds_sound (windows : List CrossCoreWindowInput) :
    ∃ result, evaluateCrossCoreDirection windows = some result ∧
      ∀ evidence, result = some evidence →
        (∀ window ∈ evidence.windows, Measured window) ∧
        RangeExact evidence ∧
        (evidence.limitsPass = true →
          List.Forall₂ Sound windows evidence.windows ∧
          ∀ window ∈ windows, ∀ exchange ∈ window.exchanges,
            exchange.requestSend ≤ exchange.requestReceive ∧
              exchange.responseSend ≤ exchange.responseReceive) := by
  unfold evaluateCrossCoreDirection
  by_cases hwindows : windows.length ≠ kCrossCoreWindowCount
  · exact ⟨none, if_pos hwindows, nofun⟩
  rw [if_neg hwindows]
  cases windows with
  | nil => exact ⟨none, rfl, nofun⟩
  | cons first later =>
      by_cases hcounts : (decide (first.exchanges.length = 0) || (first :: later).any fun window =>
          decide (window.exchanges.length ≠ first.exchanges.length)) = true
      · exact ⟨none, if_pos hcounts, nofun⟩
      obtain ⟨valid, evidences, hevaluated, hmeasured, hlength, hsound⟩ :=
        evaluateWindows_spec (first :: later) true
      obtain ⟨evidence, others, rfl⟩ : ∃ evidence others, evidences = evidence :: others :=
        exists_cons_of_length_eq_add_one hlength
      obtain ⟨range, hrange, hexact⟩ := @midpointRange_spec evidence others _ rfl
      simp only [if_neg hcounts, hevaluated, Option.bind_eq_bind, Option.bind_some, hrange]
      refine ⟨_, rfl, ?_⟩
      intro result hresult
      obtain rfl := Option.some.inj hresult
      refine ⟨hmeasured, hexact, ?_⟩
      intro hlimits
      simp only [Bool.and_eq_true, decide_eq_true_iff] at hlimits
      obtain ⟨⟨⟨⟨hvalid, hregressions⟩, -⟩, hintervals⟩, -⟩ := hlimits
      refine ⟨(hsound hvalid).2 (exchanges_ne_nil hcounts) (List.all_eq_true.mp hintervals), ?_⟩
      intro window hwindow exchange hexchange
      have hcount := List.sum_eq_zero_iff.mp hregressions _ (mem_map_of_mem hwindow)
      exact regressions_eq_zero (List.sum_eq_zero_iff.mp hcount _ (mem_map_of_mem hexchange))

/-- Three windows half a minute apart, the first with the interval from -90 to 100. -/
def sampleWindows : List CrossCoreWindowInput :=
  [⟨0, [⟨1000, 1100, 1105, 1195⟩, ⟨2000, 2130, 2140, 2260⟩]⟩,
    ⟨30000000000, [⟨5000, 5110, 5120, 5215⟩, ⟨6000, 6105, 6110, 6220⟩]⟩,
    ⟨60000000000, [⟨9000, 9120, 9125, 9220⟩, ⟨9500, 9600, 9610, 9702⟩]⟩]

theorem cross_core_bounds_sound_passing :
    ∃ evidence, evaluateCrossCoreDirection sampleWindows = some (some evidence) ∧
      evidence.limitsPass = true ∧ (∀ window ∈ evidence.windows, Measured window) ∧
      RangeExact evidence ∧ List.Forall₂ Sound sampleWindows evidence.windows ∧
      ∀ window ∈ sampleWindows, ∀ exchange ∈ window.exchanges,
        exchange.requestSend ≤ exchange.requestReceive ∧
          exchange.responseSend ≤ exchange.responseReceive := by
  obtain ⟨result, hresult, hsound⟩ := cross_core_bounds_sound sampleWindows
  have hpasses : ((evaluateCrossCoreDirection sampleWindows).join.map fun evidence =>
      evidence.limitsPass) = some true := by decide +kernel
  rw [hresult] at hpasses
  obtain ⟨evidence, rfl, hlimits⟩ := Option.map_eq_some_iff.mp hpasses
  obtain ⟨hmeasured, hexact, hpassing⟩ := hsound evidence rfl
  obtain ⟨hwindows, hcausal⟩ := hpassing hlimits
  exact ⟨evidence, hresult, hlimits, hmeasured, hexact, hwindows, hcausal⟩

end CpuPrefetch.Timing
