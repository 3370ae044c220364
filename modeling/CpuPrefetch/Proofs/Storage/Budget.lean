/-
Storage budgets are exact, and sufficient.

A budget demands its conditions first and then its terms, in the order of the code
(`Lib/Demands`).  The terms that are not reported never decide: a run overflows exactly
when the mapped hot bytes or the raw bytes do.  The plan adds the raw bytes of its runs in
order, so it reports an overflow when the runs before the first unacceptable one overflow.
-/
import CpuPrefetch.Lib.Demands
import CpuPrefetch.Proofs.Storage.RowSizes
import CpuPrefetch.Storage.ArtifactStore
import CpuPrefetch.Storage.Budget

namespace CpuPrefetch.Storage

open List
open CheckedWords (roundUp)
open Demands (Demand Overflows Chain Settles)
open Protocol (Text StreamKind ValidationError ascii)

/-! ### Checked words -/

namespace Budget

variable {left right : UInt64} {l r : Nat}

theorem checkedAdd_chain (hleft : left.toNat = l) (hright : right.toNat = r) :
    Chain u64Max (fun sum => sum.toNat = l + r) [l + r] (checkedAdd left right) := by
  subst hleft hright
  by_cases hwraps : 2 ^ 64 - 1 < left.toNat + right.toNat
  · rw [checkedAdd, if_pos (CheckedWords.sum_guard.mpr hwraps)]
    exact ⟨fun hfits => absurd (hfits _ (mem_singleton_self _)) (Nat.not_le_of_lt hwraps),
      fun _ => rfl⟩
  · rw [checkedAdd, if_neg fun hguard => hwraps (CheckedWords.sum_guard.mp hguard)]
    refine ⟨fun _ => ⟨_, rfl, CheckedWords.toNat_add (Nat.le_of_not_lt hwraps)⟩, ?_⟩
    intro ⟨n, hn, hbeyond⟩
    rw [List.mem_singleton.mp hn] at hbeyond
    exact absurd hbeyond hwraps

theorem checkedMultiply_chain (hleft : left.toNat = l) (hright : right.toNat = r) :
    Chain u64Max (fun product => product.toNat = l * r) [l * r] (checkedMultiply left right) := by
  subst hleft hright
  by_cases hwraps : 2 ^ 64 - 1 < left.toNat * right.toNat
  · rw [checkedMultiply, if_pos (CheckedWords.product_guard.mpr hwraps)]
    exact ⟨fun hfits => absurd (hfits _ (mem_singleton_self _)) (Nat.not_le_of_lt hwraps),
      fun _ => rfl⟩
  · rw [checkedMultiply, if_neg fun hguard => hwraps (CheckedWords.product_guard.mp hguard)]
    refine ⟨fun _ => ⟨_, rfl, CheckedWords.toNat_mul (Nat.le_of_not_lt hwraps)⟩, ?_⟩
    intro ⟨n, hn, hbeyond⟩
    rw [List.mem_singleton.mp hn] at hbeyond
    exact absurd hbeyond hwraps

theorem checkedRoundUp_chain (hpage : right ≠ 0) (hleft : left.toNat = l) :
    Chain u64Max (fun rounded => rounded.toNat = roundUp l right.toNat)
      [roundUp l right.toNat] (checkedRoundUp left right) := by
  have hpositive : 0 < right.toNat :=
    Nat.pos_of_ne_zero fun hzero => hpage (UInt64.toNat_inj.mp hzero)
  have hremainder : (left % right).toNat = l % right.toNat := by
    rw [UInt64.toNat_mod, hleft]
  rw [checkedRoundUp, if_neg hpage, CheckedWords.roundUp_eq l hpositive]
  by_cases hzero : l % right.toNat = 0
  · have hword : left % right = 0 := UInt64.toNat_inj.mp (hremainder.trans hzero)
    rw [if_pos hzero, if_pos hword]
    refine ⟨fun _ => ⟨left, rfl, hleft⟩, ?_⟩
    intro ⟨n, hn, hbeyond⟩
    rw [List.mem_singleton.mp hn, ← hleft] at hbeyond
    exact absurd (UInt64.toNat_lt left) (by unfold u64Max at hbeyond; omega)
  · have hword : ¬left % right = 0 := by
      intro hword
      rw [hword] at hremainder
      exact hzero hremainder.symm
    have hle : left % right ≤ right := by
      rw [UInt64.le_iff_toNat_le, UInt64.toNat_mod]
      exact Nat.le_of_lt (Nat.mod_lt _ hpositive)
    rw [if_neg hzero, if_neg hword]
    refine checkedAdd_chain hleft ?_
    rw [UInt64.toNat_sub_of_le _ _ hle, hremainder]

end Budget

/-! ### The terms of a run -/

namespace RunStorageInput

variable (input : RunStorageInput) (page : UInt64)

/-- The rows of an artifact of this kind: as many as were scheduled, or as were accepted. -/
def rows : StreamKind → Nat
  | .producer => input.scheduledRows.toNat
  | .consumer | .joinedDerived => input.acceptedRows.toNat

def payload (kind : StreamKind) : Nat := input.rows kind * rowBytes kind input.runId

def hotActual : Nat := input.payload .producer + input.payload .consumer

/-- Room for as many consumer rows as producer rows. -/
def hotConservative : Nat :=
  input.scheduledRows.toNat * (rowBytes .producer input.runId + rowBytes .consumer input.runId)

def producerMapped : Nat := roundUp (input.payload .producer) page.toNat

def consumerMapped : Nat :=
  roundUp (input.scheduledRows.toNat * rowBytes .consumer input.runId) page.toNat

def hotMapped : Nat := input.producerMapped page + input.consumerMapped page

/-- One temporary and two durable copies of both streams, and two of the joined rows. -/
def raw : Nat :=
  3 * (input.payload .producer + input.payload .consumer) + 2 * input.payload .joinedDerived

/-- The values a budget reports. -/
def formulas : List Nat :=
  [rowBytes .producer input.runId, rowBytes .consumer input.runId,
    rowBytes .joinedDerived input.runId, input.payload .producer, input.payload .consumer,
    input.payload .joinedDerived, input.hotActual, input.hotConservative,
    input.producerMapped page, input.consumerMapped page, input.hotMapped page, input.raw]

/-- The values in the order they are computed. -/
def terms : List Nat :=
  [input.payload .producer, input.payload .consumer, input.payload .joinedDerived,
    input.hotActual, rowBytes .producer input.runId + rowBytes .consumer input.runId,
    input.hotConservative, input.producerMapped page,
    input.scheduledRows.toNat * rowBytes .consumer input.runId, input.consumerMapped page,
    input.hotMapped page, input.payload .producer + input.payload .consumer,
    3 * (input.payload .producer + input.payload .consumer), 2 * input.payload .joinedDerived,
    input.raw]

/-- What is asked of an input before anything is computed. -/
structure Checked : Prop where
  page : page ≠ 0
  accepted : input.acceptedRows ≤ input.scheduledRows
  effective : ∀ effective ∈ input.effectiveRows, effective ≤ input.acceptedRows
  runId : ValidRunId input.runId

/-- The budget reports the exact values of the formulas. -/
structure ExactBudget (budget : RunStorageBudget) : Prop where
  runId : budget.runId = input.runId
  producerRow : budget.producerRowBytes.toNat = rowBytes .producer input.runId
  consumerRow : budget.consumerRowBytes.toNat = rowBytes .consumer input.runId
  joinedRow : budget.joinedRowBytes.toNat = rowBytes .joinedDerived input.runId
  producerPayload : budget.producerPayloadBytes.toNat = input.payload .producer
  consumerPayload : budget.consumerPayloadBytes.toNat = input.payload .consumer
  joinedPayload : budget.joinedPayloadBytes.toNat = input.payload .joinedDerived
  hotActual : budget.actualHotPayloadBytes.toNat = input.hotActual
  hotConservative : budget.conservativeHotPayloadBytes.toNat = input.hotConservative
  producerMapped : budget.producerMappedBytes.toNat = input.producerMapped page
  consumerMapped : budget.consumerMappedBytes.toNat = input.consumerMapped page
  hotMapped : budget.conservativeMappedHotBytes.toNat = input.hotMapped page
  raw : budget.rawStorageBytes.toNat = input.raw
  primaryTail : budget.primaryTailCountPossible = true ↔
    ∃ effective ∈ input.effectiveRows, 200000 ≤ effective.toNat
  secondaryTail : budget.secondaryTailCountPossible = true ↔
    ∃ effective ∈ input.effectiveRows, 2000000 ≤ effective.toNat

variable {input page}

/-- What decides: every other value is at most one of these two, or is small. -/
theorem Checked.beyond_iff (h : input.Checked page) (values : List Nat)
    (hvalues : values = input.terms page ∨ values = input.formulas page) :
    (∃ n ∈ values, u64Max < n) ↔ u64Max < input.hotMapped page ∨ u64Max < input.raw := by
  have hpage : 0 < page.toNat :=
    Nat.pos_of_ne_zero fun hzero => h.page (UInt64.toNat_inj.mp hzero)
  have hproducer := CheckedWords.le_roundUp (input.payload .producer) hpage
  have hconsumer := CheckedWords.le_roundUp
    (input.scheduledRows.toNat * rowBytes .consumer input.runId) hpage
  have hconservative : input.hotConservative = input.payload .producer +
      input.scheduledRows.toNat * rowBytes .consumer input.runId := Nat.mul_add _ _ _
  have hmapped : input.hotMapped page = input.producerMapped page + input.consumerMapped page := rfl
  have hraw : input.raw = 3 * (input.payload .producer + input.payload .consumer) +
      2 * input.payload .joinedDerived := rfl
  have hactual : input.hotActual = input.payload .producer + input.payload .consumer := rfl
  have hmax : u64Max = 2 ^ 64 - 1 := rfl
  have hsmall := h.runId.rowBytes_le
  have hsmallProducer := hsmall .producer
  have hsmallConsumer := hsmall .consumer
  have hsmallJoined := hsmall .joinedDerived
  change input.payload .producer ≤ input.producerMapped page at hproducer
  change _ ≤ input.consumerMapped page at hconsumer
  rcases hvalues with rfl | rfl
  · simp only [terms, mem_cons, not_mem_nil, or_false, exists_eq_or_imp, exists_eq_left]
    omega
  · simp only [formulas, mem_cons, not_mem_nil, or_false, exists_eq_or_imp,
      exists_eq_left]
    omega

/-- The terms of a checked run come out exact, or one of them is too large. -/
theorem Checked.runTerms_chain (h : input.Checked page) :
    Chain u64Max (input.ExactBudget page) (input.formulas page)
      (Budget.runTerms input page (layoutOf input.runId)) := by
  have hword : ∀ kind, (UInt64.ofNat (rowBytes kind input.runId)).toNat =
      rowBytes kind input.runId := by
    intro kind
    have hsmall := h.runId.rowBytes_le kind
    exact UInt64.toNat_ofNat_of_lt' (Nat.lt_of_le_of_lt hsmall (by decide))
  refine Chain.relist ((h.beyond_iff _ (.inl rfl)).trans (h.beyond_iff _ (.inr rfl)).symm) ?_
  unfold Budget.runTerms terms
  refine (Budget.checkedMultiply_chain rfl (hword .producer)).next fun producer hproducer => ?_
  refine (Budget.checkedMultiply_chain rfl (hword .consumer)).next fun consumer hconsumer => ?_
  refine (Budget.checkedMultiply_chain rfl (hword .joinedDerived)).next fun joined hjoined => ?_
  refine (Budget.checkedAdd_chain hproducer hconsumer).next fun actualHot hactualHot => ?_
  refine (Budget.checkedAdd_chain (hword .producer) (hword .consumer)).next fun pair hpair => ?_
  refine (Budget.checkedMultiply_chain rfl hpair).next fun conservative hconservative => ?_
  refine (Budget.checkedRoundUp_chain h.page hproducer).next fun mappedP hmappedP => ?_
  refine (Budget.checkedMultiply_chain rfl (hword .consumer)).next fun reserved hreserved => ?_
  refine (Budget.checkedRoundUp_chain h.page hreserved).next fun mappedC hmappedC => ?_
  refine (Budget.checkedAdd_chain hmappedP hmappedC).next fun mappedHot hmappedHot => ?_
  refine (Budget.checkedAdd_chain hproducer hconsumer).next fun rawPair hrawPair => ?_
  have hthree : (kTemporaryRawCopies + kDurableRawCopies).toNat = 3 := rfl
  have htwo : kDurableRawCopies.toNat = 2 := rfl
  refine (Budget.checkedMultiply_chain hthree hrawPair).next fun rawThree hrawThree => ?_
  refine (Budget.checkedMultiply_chain htwo hjoined).next fun joinedTwo hjoinedTwo => ?_
  refine (Budget.checkedAdd_chain hrawThree hjoinedTwo).next fun rawTotal hrawTotal => ?_
  refine .done ⟨rfl, hword .producer, hword .consumer, hword .joinedDerived, hproducer, hconsumer,
    hjoined, hactualHot, hconservative, hmappedP, hmappedC, hmappedHot, hrawTotal, ?_, ?_⟩
  · cases input.effectiveRows <;> simp [UInt64.le_iff_toNat_le]
  · cases input.effectiveRows <;> simp [UInt64.le_iff_toNat_le]

end RunStorageInput

/-! ### One run -/

/-- The rules of the errors that report an overflow. -/
def overflowRules : List String :=
  ["STO-RUN-BUDGET-OVERFLOW", "STO-PLAN-RAW-OVERFLOW", "STO-PLAN-AUX-OVERFLOW"]

def Overflowed (errors : List ValidationError) : Prop :=
  ∃ error ∈ errors, error.ruleId ∈ overflowRules

theorem overflowed_map_inRun (index : Nat) (errors : List ValidationError) :
    Overflowed (errors.map (Budget.inRun index)) ↔ Overflowed errors := by
  simp [Overflowed, Budget.inRun]

/-- What a run demands: that its input is acceptable, and then that its values fit. -/
def RunStorageInput.demands (input : RunStorageInput) (page : UInt64) : List Demand :=
  .condition (input.Checked page) :: (input.formulas page).map .number

section Run

variable {input : RunStorageInput} {page : UInt64}

/-- The budget of an acceptable input is that of its terms. -/
theorem RunStorageInput.Checked.budget_eq (h : input.Checked page) :
    checkedRunStorageBudget input page =
      (Budget.runTerms input page (layoutOf input.runId)).elim
        (Budget.fail "$input" "STO-RUN-BUDGET-OVERFLOW"
          "run storage budget arithmetic overflows uint64") .ok := by
  have heffective : ¬(input.effectiveRows.any fun effective =>
      decide (effective > input.acceptedRows)) = true := by
    intro hany
    obtain ⟨effective, hsome, hgt⟩ := Option.any_eq_true .. |>.mp hany
    exact absurd (h.effective effective hsome) (UInt64.not_le.mpr (of_decide_eq_true hgt))
  unfold checkedRunStorageBudget
  rw [if_neg h.page, if_neg (UInt64.not_lt.mpr h.accepted), if_neg heffective,
    makeRowLayout_eq h.runId]
  cases hterms : Budget.runTerms input page (layoutOf input.runId) <;> simp [hterms]

/-- Any other input is refused, and not as an overflow. -/
theorem checkedRunStorageBudget_refused (h : ¬input.Checked page) :
    ∃ errors, checkedRunStorageBudget input page = .error errors ∧ ¬Overflowed errors := by
  unfold checkedRunStorageBudget
  by_cases hpage : page = 0
  · rw [if_pos hpage]
    exact ⟨_, rfl, by simp [Overflowed, overflowRules]⟩
  rw [if_neg hpage]
  by_cases haccepted : input.acceptedRows > input.scheduledRows
  · rw [if_pos haccepted]
    exact ⟨_, rfl, by simp [Overflowed, overflowRules]⟩
  rw [if_neg haccepted]
  by_cases heffective : (input.effectiveRows.any fun effective => effective > input.acceptedRows)
  · rw [if_pos heffective]
    exact ⟨_, rfl, by simp [Overflowed, overflowRules]⟩
  rw [if_neg heffective]
  cases hlayout : makeRowLayout input.runId with
  | error message => exact ⟨_, rfl, by simp [Overflowed, overflowRules]⟩
  | ok layout =>
      refine absurd ⟨hpage, UInt64.not_lt.mp haccepted, ?_, validRunId_of_layout hlayout⟩ h
      intro effective hsome
      by_contra hgt
      exact heffective (Option.any_eq_true .. |>.mpr
        ⟨effective, hsome, decide_eq_true (UInt64.not_le.mp hgt)⟩)

theorem checkedRunStorageBudget_settles (input : RunStorageInput) (page : UInt64) :
    Settles u64Max Overflowed (input.ExactBudget page) (input.demands page)
      (checkedRunStorageBudget input page) := by
  by_cases h : input.Checked page
  · rw [h.budget_eq]
    refine .met h (.chain h.runTerms_chain ?_)
    simp [Overflowed, overflowRules]
  · obtain ⟨errors, herror, hother⟩ := checkedRunStorageBudget_refused h
    rw [herror]
    exact .refused h hother

end Run

/-! ### The runs of a plan -/

namespace Budget

variable {page : UInt64} {total : Nat} {runs : List RunStorageInput}

/-- The values of these runs, and the raw bytes when theirs are added to a total. -/
def runFormulas (page : UInt64) (total : Nat) (runs : List RunStorageInput) : List Nat :=
  runs.flatMap (fun input => input.formulas page) ++ [total + (runs.map (·.raw)).sum]

/-- What the loop over the runs demands. -/
def runDemands (page : UInt64) : Nat → List RunStorageInput → List Demand
  | _, [] => []
  | total, input :: rest =>
      input.demands page ++ .number (total + input.raw) :: runDemands page (total + input.raw) rest

theorem runFormulas_cons (input : RunStorageInput) :
    runFormulas page total (input :: runs) =
      input.formulas page ++ runFormulas page (total + input.raw) runs := by
  simp only [runFormulas, flatMap_cons, map_cons, sum_cons, append_assoc,
    Nat.add_assoc]

/-- The raw bytes of the runs are among the values, so no total before is larger. -/
theorem exists_runFormulas_ge : ∃ n ∈ runFormulas page total runs, total ≤ n :=
  ⟨_, mem_append_right _ (mem_singleton_self _), Nat.le_add_right _ _⟩

theorem met_runDemands (htotal : total ≤ u64Max) :
    (∀ d ∈ runDemands page total runs, d.Met u64Max) ↔
      (∀ input ∈ runs, input.Checked page) ∧ ∀ n ∈ runFormulas page total runs, n ≤ u64Max := by
  induction runs generalizing total with
  | nil => simpa [runDemands, runFormulas] using htotal
  | cons input rest ih =>
      rw [runDemands, runFormulas_cons]
      simp only [RunStorageInput.demands, forall_mem_append, forall_mem_cons,
        Demands.met_numbers, Demand.met_condition, Demand.met_number]
      constructor
      · rintro ⟨⟨hchecked, hformulas⟩, hsum, hrest⟩
        obtain ⟨hcheckedRest, hformulasRest⟩ := (ih hsum).mp hrest
        exact ⟨⟨hchecked, hcheckedRest⟩, hformulas, hformulasRest⟩
      · rintro ⟨⟨hchecked, hcheckedRest⟩, hformulas, hformulasRest⟩
        obtain ⟨n, hn, hle⟩ := @exists_runFormulas_ge page (total + input.raw) rest
        have hsum := Nat.le_trans hle (hformulasRest n hn)
        exact ⟨⟨hchecked, hformulas⟩, hsum, (ih hsum).mpr ⟨hcheckedRest, hformulasRest⟩⟩

theorem holds_runDemands :
    (∀ d ∈ runDemands page total runs, d.Holds) ↔ ∀ input ∈ runs, input.Checked page := by
  induction runs generalizing total with
  | nil => simp [runDemands]
  | cons input rest ih =>
      rw [runDemands, RunStorageInput.demands, forall_mem_append, forall_mem_cons,
        forall_mem_cons, ih, and_iff_left (Demands.holds_numbers _),
        and_iff_right Demand.holds_number, forall_mem_cons]
      exact Iff.rfl

/-- The loop overflows when some acceptable runs at its start do. -/
theorem overflows_runDemands (htotal : total ≤ u64Max) :
    Overflows u64Max (runDemands page total runs) ↔
      ∃ leading, leading <+: runs ∧ (∀ input ∈ leading, input.Checked page) ∧
        ∃ n ∈ runFormulas page total leading, u64Max < n := by
  induction runs generalizing total with
  | nil =>
      constructor
      · simp [runDemands, Overflows]
      · rintro ⟨leading, hleading, _, n, hn, hbeyond⟩
        rw [List.prefix_nil.mp hleading] at hn
        rw [List.mem_singleton.mp hn] at hbeyond
        exact absurd hbeyond (Nat.not_lt_of_le htotal)
  | cons input rest ih =>
      have hdemands : Overflows u64Max (runDemands page total (input :: rest)) ↔
          input.Checked page ∧ ((∃ n ∈ input.formulas page, u64Max < n) ∨
            u64Max < total + input.raw ∨
              Overflows u64Max (runDemands page (total + input.raw) rest)) := by
        rw [runDemands, Demands.overflows_append, RunStorageInput.demands, forall_mem_cons,
          and_iff_left (Demands.holds_numbers _)]
        simp only [Overflows, Demands.overflows_numbers, Demand.holds_condition]
        exact and_or_left.symm
      rw [hdemands]
      constructor
      · rintro ⟨hchecked, hover⟩
        -- the runs that overflow: this one, or those the rest of the loop finds after it
        have hstart : (∃ n ∈ input.formulas page, u64Max < n) ∨ u64Max < total + input.raw →
            ∃ leading, leading <+: input :: rest ∧ (∀ run ∈ leading, run.Checked page) ∧
              ∃ n ∈ runFormulas page total leading, u64Max < n := by
          intro hthis
          refine ⟨[input], ⟨rest, rfl⟩, by simpa using hchecked, ?_⟩
          rw [runFormulas_cons]
          rcases hthis with ⟨n, hn, hbeyond⟩ | hbeyond
          · exact ⟨n, mem_append_left _ hn, hbeyond⟩
          · obtain ⟨n, hn, hle⟩ := @exists_runFormulas_ge page (total + input.raw) []
            exact ⟨n, mem_append_right _ hn, Nat.lt_of_lt_of_le hbeyond hle⟩
        by_cases hsum : total + input.raw ≤ u64Max
        · rcases hover with hformulas | hbeyond | hrest
          · exact hstart (.inl hformulas)
          · exact hstart (.inr hbeyond)
          · obtain ⟨leading, hleading, hcheckedRest, n, hn, hbeyond⟩ := (ih hsum).mp hrest
            refine ⟨input :: leading, List.cons_prefix_cons.mpr ⟨rfl, hleading⟩,
              List.forall_mem_cons.mpr ⟨hchecked, hcheckedRest⟩, n, ?_, hbeyond⟩
            rw [runFormulas_cons]
            exact mem_append_right _ hn
        · exact hstart (.inr (Nat.lt_of_not_le hsum))
      · rintro ⟨leading, hleading, hchecked, n, hn, hbeyond⟩
        rcases List.prefix_cons_iff.mp hleading with rfl | ⟨leading, rfl, hrest⟩
        · rw [List.mem_singleton.mp hn] at hbeyond
          exact absurd hbeyond (Nat.not_lt_of_le htotal)
        · rw [forall_mem_cons] at hchecked
          rw [runFormulas_cons] at hn
          refine ⟨hchecked.1, ?_⟩
          rcases List.mem_append.mp hn with hn | hn
          · exact .inl ⟨n, hn, hbeyond⟩
          · by_cases hsum : total + input.raw ≤ u64Max
            · exact .inr (.inr ((ih hsum).mpr ⟨leading, hrest, hchecked.2, n, hn, hbeyond⟩))
            · exact .inr (.inl (Nat.lt_of_not_le hsum))

/-- The raw bytes are those of all the runs, and every run has its exact budget. -/
structure ExactRuns (page : UInt64) (total : Nat) (runs : List RunStorageInput)
    (result : UInt64 × List RunStorageBudget) : Prop where
  raw : result.1.toNat = total + (runs.map (·.raw)).sum
  budgets : List.Forall₂ (fun input run => input.ExactBudget page run) runs result.2

theorem runBudgets_settles (index : Nat) (total : UInt64) (runs : List RunStorageInput) :
    Settles u64Max Overflowed (ExactRuns page total.toNat runs) (runDemands page total.toNat runs)
      (runBudgets page index total runs) := by
  induction runs generalizing index total with
  | nil => exact .done ⟨rfl, .nil⟩
  | cons input rest ih =>
      rw [runBudgets, runDemands]
      refine ((checkedRunStorageBudget_settles input page).mapError
        (overflowed_map_inRun index)).bind fun run hrun => ?_
      have hover : Overflowed [⟨.outOfRange, "$input/runs", "STO-PLAN-RAW-OVERFLOW",
          "aggregate raw-storage bytes overflow uint64"⟩] := by
        simp [Overflowed, overflowRules]
      refine (Settles.chain (checkedAdd_chain rfl hrun.raw) hover).bind fun next hnext => ?_
      have hrest := ih (index + 1) next
      rw [hnext] at hrest
      rw [← append_nil (runDemands page (total.toNat + input.raw) rest)]
      refine hrest.bind fun result hresult => .done ⟨?_, .cons hrun hresult.budgets⟩
      rw [map_cons, sum_cons, ← Nat.add_assoc]
      exact hresult.raw

end Budget

/-! ### The plan -/

namespace StageAStorageBudgetRequest

variable (request : StageAStorageBudgetRequest)

/-- The raw bytes of all runs. -/
def raw : Nat := (request.runs.map (·.raw)).sum

def auxiliaryTotal : Nat :=
  ((Budget.auxiliaryValues request.auxiliary).map UInt64.toNat).sum

/-- The values of all runs and of the plan. -/
def formulas : List Nat :=
  Budget.runFormulas request.verifiedBasePageBytes 0 request.runs ++
    [request.auxiliaryTotal, request.raw + request.auxiliaryTotal]

/-- What is asked of a plan before its runs are looked at. -/
structure Planned : Prop where
  runs : request.rTotal ≠ 0
  blocks : request.rTotal = request.blockCount
  count : kStageACellsPerBlock.toNat * request.rTotal.toNat = request.runs.length
  countable : request.runs.length ≤ u64Max
  available : request.availableBytes ≠ 0

/-- The budget reports the exact values of the formulas, and whether they are available. -/
structure ExactBudget (budget : StageAStorageBudget) : Prop where
  runCount : budget.runCount.toNat = kStageACellsPerBlock.toNat * request.rTotal.toNat
  blockCount : budget.blockCount = request.blockCount
  rTotal : budget.rTotal = request.rTotal
  temporaryRawCopies : budget.temporaryRawCopies = kTemporaryRawCopies
  durableRawCopies : budget.durableRawCopies = kDurableRawCopies
  raw : budget.rawStorageBytes.toNat = request.raw
  auxiliary : budget.auxiliaryAndReserveBytes.toNat = request.auxiliaryTotal
  required : budget.requiredBytes.toNat = request.raw + request.auxiliaryTotal
  available : budget.availableBytes = request.availableBytes
  capacityPass : budget.capacityPass = true ↔
    request.raw + request.auxiliaryTotal ≤ request.availableBytes.toNat
  runs : List.Forall₂ (fun input run => input.ExactBudget request.verifiedBasePageBytes run)
    request.runs budget.runs

/-- What a plan demands: that it is one, then what its runs demand, then the last two sums. -/
def demands : List Demand :=
  .condition request.Planned ::
    (Budget.runDemands request.verifiedBasePageBytes 0 request.runs ++
      [request.auxiliaryTotal, request.raw + request.auxiliaryTotal].map .number)

variable {request}

theorem met_demands :
    (∀ d ∈ request.demands, d.Met u64Max) ↔
      request.Planned ∧
        (∀ input ∈ request.runs, input.Checked request.verifiedBasePageBytes) ∧
          ∀ n ∈ request.formulas, n ≤ u64Max := by
  rw [demands, forall_mem_cons, forall_mem_append,
    Budget.met_runDemands (Nat.zero_le _), Demands.met_numbers, formulas, forall_mem_append,
    and_assoc]
  exact Iff.rfl

theorem overflows_demands :
    Overflows u64Max request.demands ↔
      request.Planned ∧
        ((∃ leading, leading <+: request.runs ∧
            (∀ input ∈ leading, input.Checked request.verifiedBasePageBytes) ∧
              ∃ n ∈ Budget.runFormulas request.verifiedBasePageBytes 0 leading, u64Max < n) ∨
          (∀ input ∈ request.runs, input.Checked request.verifiedBasePageBytes) ∧
            ∃ n ∈ [request.auxiliaryTotal, request.raw + request.auxiliaryTotal], u64Max < n) := by
  rw [demands, Overflows, Demands.overflows_append, Demands.overflows_numbers,
    Budget.overflows_runDemands (Nat.zero_le _), Budget.holds_runDemands]

theorem requiredBytes_chain {rawTotal : UInt64} (hraw : rawTotal.toNat = request.raw) :
    Chain u64Max
      (fun sums => sums.1.toNat = request.auxiliaryTotal ∧
        sums.2.toNat = request.raw + request.auxiliaryTotal)
      [request.auxiliaryTotal, request.raw + request.auxiliaryTotal]
      (Budget.requiredBytes request.auxiliary rawTotal) := by
  unfold Budget.requiredBytes
  have hsum := Chain.sum (fun left right => Budget.checkedAdd_chain (Eq.refl left.toNat)
    (Eq.refl right.toNat)) (Budget.auxiliaryValues request.auxiliary) 0 (Nat.zero_le _)
  have hzero : (0 : UInt64).toNat + ((Budget.auxiliaryValues request.auxiliary).map
      UInt64.toNat).sum = request.auxiliaryTotal := Nat.zero_add _
  rw [hzero] at hsum
  refine hsum.next fun auxiliary hauxiliary => ?_
  refine (Budget.checkedAdd_chain hraw hauxiliary).next fun required hrequired => ?_
  exact .done ⟨hauxiliary, hrequired⟩

/-- The number of runs, where it is the number of the runs given. -/
def expectedRuns (request : StageAStorageBudgetRequest) : Option UInt64 :=
  (Budget.checkedMultiply kStageACellsPerBlock request.rTotal).filter fun expectedRuns =>
    expectedRuns.toNat = request.runs.length

theorem expectedRuns_eq_some {runCount : UInt64} :
    request.expectedRuns = some runCount ↔
      runCount.toNat = kStageACellsPerBlock.toNat * request.rTotal.toNat ∧
        runCount.toNat = request.runs.length := by
  have hproduct := Budget.checkedMultiply_chain (Eq.refl kStageACellsPerBlock.toNat)
    (Eq.refl request.rTotal.toNat)
  rw [expectedRuns, Option.filter_eq_some_iff, decide_eq_true_eq, and_congr_left_iff]
  intro _
  constructor
  · intro hsome
    by_cases hfits : kStageACellsPerBlock.toNat * request.rTotal.toNat ≤ u64Max
    · obtain ⟨product, heq, hvalue⟩ := hproduct.within (by simpa using hfits)
      rw [← Option.some.inj (heq.symm.trans hsome)]
      exact hvalue
    · rw [hproduct.beyond ⟨_, mem_singleton_self _, Nat.lt_of_not_le hfits⟩] at hsome
      cases hsome
  · intro hvalue
    have hfits : kStageACellsPerBlock.toNat * request.rTotal.toNat ≤ u64Max := by
      rw [← hvalue]
      exact Nat.le_sub_one_of_lt runCount.toNat_lt
    obtain ⟨product, heq, hproductValue⟩ := hproduct.within (by simpa using hfits)
    rw [heq, UInt64.toNat_inj.mp (hproductValue.trans hvalue.symm)]

/-- A plan is computed from its runs and its auxiliary bytes. -/
theorem Planned.budget_settles (h : request.Planned) :
    Settles u64Max Overflowed request.ExactBudget
      (Budget.runDemands request.verifiedBasePageBytes 0 request.runs ++
        [request.auxiliaryTotal, request.raw + request.auxiliaryTotal].map .number)
      (checkedStageAStorageBudget request) := by
  have hcount : (UInt64.ofNat request.runs.length).toNat = request.runs.length :=
    UInt64.toNat_ofNat_of_lt' (Nat.lt_of_le_of_lt h.countable (by decide))
  have hexpected : request.expectedRuns = some (.ofNat request.runs.length) :=
    expectedRuns_eq_some.mpr ⟨hcount.trans h.count.symm, hcount⟩
  have hzero : ¬(decide (request.rTotal = 0) || decide (request.blockCount = 0)) = true := by
    simp [← h.blocks, h.runs]
  have hover : Overflowed [⟨.outOfRange, "$input/auxiliary", "STO-PLAN-AUX-OVERFLOW",
      "aggregate auxiliary/reserve bytes overflow uint64"⟩] := by
    simp [Overflowed, overflowRules]
  unfold expectedRuns at hexpected
  unfold checkedStageAStorageBudget
  rw [if_neg hzero, if_neg (not_not.mpr h.blocks), hexpected, Option.elim_some, Fallible.ok_bind,
    if_neg h.available]
  refine (Budget.runBudgets_settles 0 0 request.runs).bind fun result hresult => ?_
  have hraw : result.1.toNat = request.raw := hresult.raw.trans (Nat.zero_add _)
  rw [← append_nil (List.map _ _)]
  refine (Settles.chain (requiredBytes_chain hraw) hover).bind fun sums hsums => .done ?_
  refine ⟨hcount.trans h.count.symm, rfl, rfl, rfl, rfl, hraw, hsums.1, hsums.2, rfl, ?_,
    hresult.budgets⟩
  show decide (request.availableBytes ≥ sums.2) = true ↔ _
  rw [decide_eq_true_eq, ge_iff_le, UInt64.le_iff_toNat_le, hsums.2]

/-- Any other plan is refused, and not as an overflow. -/
theorem checkedStageAStorageBudget_refused (h : ¬request.Planned) :
    ∃ errors, checkedStageAStorageBudget request = .error errors ∧ ¬Overflowed errors := by
  unfold checkedStageAStorageBudget
  by_cases hzero : (decide (request.rTotal = 0) || decide (request.blockCount = 0)) = true
  · rw [if_pos hzero]
    exact ⟨_, rfl, by simp [Overflowed, overflowRules]⟩
  rw [if_neg hzero]
  by_cases hblocks : request.rTotal ≠ request.blockCount
  · rw [if_pos hblocks]
    exact ⟨_, rfl, by simp [Overflowed, overflowRules]⟩
  rw [if_neg hblocks]
  cases hexpected : request.expectedRuns with
  | none =>
      unfold expectedRuns at hexpected
      rw [hexpected]
      exact ⟨_, rfl, by simp [Overflowed, overflowRules]⟩
  | some runCount =>
      obtain ⟨hvalue, hlength⟩ := expectedRuns_eq_some.mp hexpected
      unfold expectedRuns at hexpected
      rw [hexpected]
      by_cases havailable : request.availableBytes = 0
      · refine ⟨_, if_pos havailable, by simp [Overflowed, overflowRules]⟩
      · refine absurd ⟨?_, not_not.mp hblocks, hvalue.symm.trans hlength, ?_, havailable⟩ h
        · intro hnone
          exact hzero (by simp [hnone])
        · rw [← hlength]
          exact Nat.le_sub_one_of_lt runCount.toNat_lt

theorem checkedStageAStorageBudget_settles (request : StageAStorageBudgetRequest) :
    Settles u64Max Overflowed request.ExactBudget request.demands
      (checkedStageAStorageBudget request) := by
  by_cases h : request.Planned
  · exact .met h h.budget_settles
  · obtain ⟨errors, herror, hother⟩ := checkedStageAStorageBudget_refused h
    rw [herror]
    exact .refused h hother

end StageAStorageBudgetRequest

/-! ### Sufficiency -/

section Sufficiency

variable {host : Host} {sha256 : List UInt8 → String} {input : RunStorageInput}
  {files : StoreFiles} {objectIds : StreamKind → Text}

/-- The bytes of the object of this name in a domain, if there is one. -/
def objectBytes (host : Host) (files : StoreFiles) (domain : Nat) (objectId : Text) : Nat :=
  ((files.read ⟨domain, .objects, objectName host objectId⟩).getD []).length

/-- The bytes of the producer's, the consumer's and the joined object in a domain. -/
def domainBytes (host : Host) (files : StoreFiles) (objectIds : StreamKind → Text)
    (domain : Nat) : Nat :=
  objectBytes host files domain (objectIds .producer) +
    objectBytes host files domain (objectIds .consumer) +
      objectBytes host files domain (objectIds .joinedDerived)

/-- Their bytes over both domains, which hold the durable copies. -/
def occupied (host : Host) (files : StoreFiles) (objectIds : StreamKind → Text) : Nat :=
  ((List.range kDurableRawCopies.toNat).map (domainBytes host files objectIds)).sum

/-- What is stored under these names are artifacts of the run, with no more rows than budgeted. -/
def StoredWithin (host : Host) (sha256 : List UInt8 → String) (input : RunStorageInput)
    (files : StoreFiles) (objectIds : StreamKind → Text) : Prop :=
  ∀ kind domain bytes,
    files.read ⟨domain, .objects, objectName host (objectIds kind)⟩ = some bytes →
      ∃ rows ≤ input.rows kind, RawArtifact sha256 kind input.runId rows bytes

theorem StoredWithin.objectBytes_le (h : StoredWithin host sha256 input files objectIds)
    (kind : StreamKind) (domain : Nat) :
    objectBytes host files domain (objectIds kind) ≤ input.payload kind := by
  unfold objectBytes
  cases hread : files.read ⟨domain, .objects, objectName host (objectIds kind)⟩ with
  | none => exact Nat.zero_le _
  | some bytes =>
      obtain ⟨rows, hrows, hartifact⟩ := h kind domain bytes hread
      rw [Option.getD_some, hartifact.length_eq]
      exact Nat.mul_le_mul_right _ hrows

theorem StoredWithin.domainBytes_le (h : StoredWithin host sha256 input files objectIds)
    (domain : Nat) :
    domainBytes host files objectIds domain ≤
      input.payload .producer + input.payload .consumer + input.payload .joinedDerived :=
  Nat.add_le_add (Nat.add_le_add (h.objectBytes_le .producer domain)
    (h.objectBytes_le .consumer domain)) (h.objectBytes_le .joinedDerived domain)

theorem StoredWithin.occupied_le (h : StoredWithin host sha256 input files objectIds) :
    occupied host files objectIds ≤ input.raw := by
  have hfirst := h.domainBytes_le 0
  have hsecond := h.domainBytes_le 1
  show domainBytes host files objectIds 0 + (domainBytes host files objectIds 1 + 0) ≤
    3 * (input.payload .producer + input.payload .consumer) + 2 * input.payload .joinedDerived
  omega

end Sufficiency

/--
**Budgets are exact and sufficient.**  A budget that is returned has the exact values of its
formulas; an acceptable input has one if all values fit, and overflows if one does not.  The
plan is the same over its runs, which it takes in order: it overflows when acceptable runs at
its start do, or its last sums.  What a budgeted run stores in both domains is within it.
-/
theorem budgets_exact_and_sufficient :
    (∀ input page,
      (∀ budget, checkedRunStorageBudget input page = .ok budget → input.ExactBudget page budget) ∧
        ((∃ budget, checkedRunStorageBudget input page = .ok budget) ↔
          input.Checked page ∧ ∀ n ∈ input.formulas page, n ≤ u64Max) ∧
        ((∃ errors, checkedRunStorageBudget input page = .error errors ∧ Overflowed errors) ↔
          input.Checked page ∧ ∃ n ∈ input.formulas page, u64Max < n)) ∧
    (∀ request,
      (∀ budget, checkedStageAStorageBudget request = .ok budget → request.ExactBudget budget) ∧
        ((∃ budget, checkedStageAStorageBudget request = .ok budget) ↔
          request.Planned ∧
            (∀ input ∈ request.runs, input.Checked request.verifiedBasePageBytes) ∧
              ∀ n ∈ request.formulas, n ≤ u64Max) ∧
        ((∃ errors, checkedStageAStorageBudget request = .error errors ∧ Overflowed errors) ↔
          request.Planned ∧
            ((∃ leading, leading <+: request.runs ∧
                (∀ input ∈ leading, input.Checked request.verifiedBasePageBytes) ∧
                  ∃ n ∈ Budget.runFormulas request.verifiedBasePageBytes 0 leading, u64Max < n) ∨
              (∀ input ∈ request.runs, input.Checked request.verifiedBasePageBytes) ∧
                ∃ n ∈ [request.auxiliaryTotal, request.raw + request.auxiliaryTotal],
                  u64Max < n))) ∧
    ∀ input page budget, checkedRunStorageBudget input page = .ok budget →
      ∀ host sha256 files objectIds, StoredWithin host sha256 input files objectIds →
        occupied host files objectIds ≤ budget.rawStorageBytes.toNat := by
  refine ⟨fun input page => ?_, fun request => ?_, fun input page budget hbudget => ?_⟩
  · have hsettles := checkedRunStorageBudget_settles input page
    refine ⟨fun budget hbudget => hsettles.good_of_ok hbudget, ?_, ?_⟩
    · rw [hsettles.ok_iff, RunStorageInput.demands, forall_mem_cons, Demands.met_numbers,
        Demand.met_condition]
    · rw [hsettles.overflow_iff, RunStorageInput.demands, Overflows, Demands.overflows_numbers]
  · have hsettles := request.checkedStageAStorageBudget_settles
    exact ⟨fun budget hbudget => hsettles.good_of_ok hbudget,
      hsettles.ok_iff.trans StageAStorageBudgetRequest.met_demands,
      hsettles.overflow_iff.trans StageAStorageBudgetRequest.overflows_demands⟩
  · have hexact := (checkedRunStorageBudget_settles input page).good_of_ok hbudget
    intro host sha256 files objectIds hstored
    rw [hexact.raw]
    exact hstored.occupied_le

/-! Ten scheduled and seven accepted rows of a run with a short identifier. -/

def sampleInput : RunStorageInput := ⟨[114], 10, 7, some 7⟩

def sampleHost : Host := ⟨⟨fun _ => none, fun _ => none⟩, id⟩

def sampleIds : StreamKind → Text
  | .producer => ascii "producer"
  | .consumer => ascii "consumer"
  | .joinedDerived => ascii "joined"

/-- A store that has these bytes as the consumer's object in both domains. -/
def sampleFiles (bytes : List UInt8) : StoreFiles where
  entries path := if path.folder = .objects ∧ path.domain < 2 ∧
    path.name = objectName sampleHost (sampleIds .consumer) then some 0 else none
  contents _ := bytes
  next := 1
  allocated path file h := by
    split at h
    · rw [← Option.some.inj h]
      exact Nat.one_pos
    · cases h

def sampleCalls : List (StreamCall Timing.ConsumerObservation) :=
  [.prepareForOwner, .append ⟨0, 3, ⟨5, 16⟩, ⟨6, 17⟩, ⟨7, 18⟩, ⟨8, 19⟩⟩, .sealComplete]

theorem budgets_exact_and_sufficient_sample :
    ∃ budget made, checkedRunStorageBudget sampleInput 4096 = .ok budget ∧
      sampleInput.ExactBudget 4096 budget ∧ budget.rawStorageBytes = 8488 ∧
      ConsumerObservationStream.construct ⟨[114], nofun⟩ 7 = .ok made ∧
      occupied sampleHost (sampleFiles (consumerAppending.run made sampleCalls).snapshot.bytes)
        sampleIds ≤ 8488 := by
  obtain ⟨hrun, -, hsufficient⟩ := budgets_exact_and_sufficient
  have hraw : (checkedRunStorageBudget sampleInput 4096).toOption.map
      (fun budget => budget.rawStorageBytes) = some 8488 := by decide +kernel
  obtain ⟨budget, hbudget, hbytes⟩ := Option.map_eq_some_iff.mp hraw
  have hchecked := Fallible.of_toOption hbudget
  obtain ⟨made, hmade, hone⟩ : ∃ made,
      ConsumerObservationStream.construct ⟨[114], nofun⟩ 7 = .ok made ∧
        (consumerAppending.run made sampleCalls).snapshot.rowCount = 1 := ⟨_, rfl, rfl⟩
  have hartifact := @RawArtifact.consumer (fun _ => "") _ _ _ hmade sampleCalls
  have hstored : StoredWithin sampleHost (fun _ => "") sampleInput
      (sampleFiles (consumerAppending.run made sampleCalls).snapshot.bytes) sampleIds := by
    intro kind domain bytes hread
    obtain ⟨file, hfile, rfl⟩ := Option.map_eq_some_iff.mp hread
    simp only [sampleFiles] at hfile
    split at hfile
    · rename_i hpath
      cases kind with
      | consumer => exact ⟨_, by rw [hone]; decide, hartifact⟩
      | producer => exact absurd hpath.2.2 (by decide +kernel)
      | joinedDerived => exact absurd hpath.2.2 (by decide +kernel)
    · cases hfile
  have hfits := hsufficient _ _ budget hchecked _ _ _ _ hstored
  rw [hbytes] at hfits
  exact ⟨budget, made, hchecked, (hrun _ _).1 budget hchecked, hbytes, hmade, hfits⟩

end CpuPrefetch.Storage
