import FuboxApi.InMemoryWriterBalance

/-!
# Writes that return money

A refund, a positive adjustment and a replay require a debit of zero. The wallet check lets it pass
whatever the balance is; a budget that is already negative refuses it.
-/

namespace FuboxApi.ConsistentWriter

open CheckedFold LedgerContract

/-- The amounts of a write do not fit together, or a sum is out of range. -/
def IsArithmetic : ConsistentLedgerWriterError → Prop
  | .scaleMismatch _ _ | .arithmeticOverflow => True
  | _ => False

def IsInsufficientFunds : ConsistentLedgerWriterError → Prop
  | .insufficientWalletBalance _ _ | .insufficientBudget _ _ _ _ => True
  | _ => False

/-- Refunds, positive adjustments and replays. -/
def ReturnsMoney (request : ConsistentLedgerWriteRequest) (outcome : LedgerOperationOutcome) :
    Prop :=
  match outcome, request with
  | .idempotent _, _ => True
  | .apply, .refundFull .. | .apply, .refundPartial .. => True
  | .apply, .adminAdjustment _ _ _ _ amount _ => 0 < amount.units.value
  | .apply, .reserve .. | .apply, .settle .. => False

def NoNegativeBudget (currency : String) (budgets : List ConsistentBudgetSnapshot) : Prop :=
  ∀ budget ∈ budgets, budget.active = true → budget.currency = currency →
    0 ≤ budget.remainingAmount.units.value

section

variable {left right : FixedDecimal} {scale : Nat}

theorem arithmetic_ensureSameScale :
    Yields (fun _ => True) IsArithmetic (ensureSameScale left right) := by
  unfold ensureSameScale FixedDecimal.sameScaleOr ensure
  split <;> trivial

theorem arithmetic_checkedAdd : Yields (fun _ => True) IsArithmetic (checkedAdd left right) :=
  arithmetic_ensureSameScale.bind fun _ _ => yields_mapError_const trivial fun _ _ => trivial

theorem arithmetic_checkedSubtract :
    Yields (fun _ => True) IsArithmetic (checkedSubtract left right) :=
  arithmetic_ensureSameScale.bind fun _ _ =>
    (yields_okOr trivial fun _ _ => trivial).bind fun _ _ =>
      yields_mapError_const trivial fun _ _ => trivial

theorem arithmetic_zero : Yields (fun result => result.units.value = 0) IsArithmetic (zero scale) :=
  yields_mapError_const trivial fun _ built => (FixedDecimal.zero_eq_ok.mp built).1

theorem arithmetic_total {Item : Type} {step : FixedDecimal → Item → WriterResult FixedDecimal}
    (adds : ∀ total item, Yields (fun _ => True) IsArithmetic (step total item))
    (items : List Item) : Yields (fun _ => True) IsArithmetic
      (zero scale >>= fun start => items.foldlM step start) :=
  arithmetic_zero.bind fun _ _ =>
    yields_foldlM (fun total item _ _ => adds total item) (fun _ _ => trivial) trivial

end

section

variable {request : ConsistentLedgerWriteRequest} {state : ConsistentLedgerWriterState}
  {wallet : ConsistentWalletSnapshot} {ledgerPlan : LedgerOperationPlan}
  {currency : String} {required credit : FixedDecimal}

theorem arithmetic_refundCreditForPlan (scale : Nat) :
    Yields (fun _ => True) IsArithmetic (refundCreditForPlan ledgerPlan scale) := by
  refine arithmetic_total (fun total entry => ?_) ledgerPlan.entries
  split
  · exact arithmetic_checkedAdd
  · trivial

theorem arithmetic_balanceWindow : Yields (fun _ => True) IsArithmetic
      (balanceWindow currency wallet state required credit) := by
  refine (arithmetic_total (fun _ _ => arithmetic_checkedAdd) _).bind fun _ _ => ?_
  refine (arithmetic_total (fun _ _ => arithmetic_checkedAdd) _).bind fun _ _ => ?_
  refine arithmetic_checkedAdd.bind fun _ _ => ?_
  refine arithmetic_checkedAdd.bind fun _ _ => ?_
  refine arithmetic_checkedSubtract.bind fun _ _ => ?_
  refine arithmetic_checkedAdd.bind fun _ _ => ?_
  trivial

theorem arithmetic_plannedDebit {outcome : LedgerOperationOutcome}
    (returns : ReturnsMoney request outcome) :
    Yields (fun required => required.units.value = 0) IsArithmetic
      (plannedDebit request state wallet outcome) := by
  cases outcome with
  | idempotent existingEntryId => exact arithmetic_zero
  | apply =>
    cases request with
    | reserve => exact returns.elim
    | settle => exact returns.elim
    | refundFull => exact arithmetic_zero
    | refundPartial => exact arithmetic_zero
    | adminAdjustment scope operationId requestId relatedId amount currency =>
      have positive : 0 < amount.units.value := returns
      have notNegative : ¬ amount.units.value < 0 := by omega
      simp only [plannedDebit, requiredDebitForWrite, if_neg notNegative]
      exact arithmetic_zero

variable {budgets : List ConsistentBudgetSnapshot}

theorem budgetChecks_passed_iff {checks : List ConsistentBudgetCheck}
    (requiredZero : required.units.value = 0)
    (checked : budgetChecks budgets currency required = .ok checks) :
    (∀ check ∈ checks, check.passed = true) ↔ NoNegativeBudget currency budgets := by
  constructor
  · intro passed budget budgetMem active currencyEq
    have enough := (budgetChecks_eq_ok checked passed budgetMem active currencyEq).2
    rw [FixedDecimal.le_def] at enough
    omega
  · intro nonneg check checkMem
    obtain ⟨budget, sortedMem, checkEq⟩ := exists_item_of_mapM checked checkMem
    rw [List.mem_insertionSort] at sortedMem
    obtain ⟨budgetMem, selected⟩ := List.mem_filter.mp sortedMem
    obtain ⟨active, currencyEq⟩ := of_decide_eq_true selected
    have budgetNonneg := nonneg budget budgetMem active currencyEq
    obtain ⟨remaining, subtracted, built⟩ := bind_eq_ok.mp checkEq
    have sameScale := (checkedSubtract_eq_ok.mp subtracted).1
    have enough : required ≤ budget.remainingAmount := by
      rw [FixedDecimal.le_def]
      omega
    cases built
    simpa using enough

theorem arithmetic_budgetChecks (requiredZero : required.units.value = 0) :
    Yields (fun checks => (∀ check ∈ checks, check.passed = true) ↔
        NoNegativeBudget currency budgets) IsArithmetic
      (budgetChecks budgets currency required) := by
  have checked : Yields (fun checks => ∀ check ∈ checks, True) IsArithmetic
      (budgetChecks budgets currency required) :=
    yields_mapM fun _ _ => arithmetic_checkedSubtract.bind fun _ _ => trivial
  exact checked.with_result.imp fun _ computed =>
    budgetChecks_passed_iff requiredZero computed.1

theorem yields_ensureBudgetsPassed (checks : List ConsistentBudgetCheck) :
    Yields (fun _ => ∀ check ∈ checks, check.passed = true)
      (fun failure => IsInsufficientFunds failure ∧ ¬ ∀ check ∈ checks, check.passed = true)
      (ensureBudgetsPassed checks) := by
  have okIff : ensureBudgetsPassed checks = .ok () ↔ _ := ensureBudgetsPassed_eq_ok
  unfold ensureBudgetsPassed at okIff ⊢
  split at okIff
  · next absent => exact okIff.mp rfl
  · next failed found =>
    refine ⟨trivial, fun passed => ?_⟩
    cases okIff.mpr passed

theorem yields_returningPlan
    (inner : planInnerLedgerWrite request state.ledgerEntries = .ok ledgerPlan)
    (walletFound : state.wallet = some wallet) (walletCurrency : wallet.currency = request.currency)
    (returns : ReturnsMoney request ledgerPlan.outcome) :
    Yields (fun _ => NoNegativeBudget request.currency state.budgets)
      (fun failure => IsArithmetic failure ∨
        IsInsufficientFunds failure ∧ ¬ NoNegativeBudget request.currency state.budgets)
      (planConsistentLedgerWrite request state) := by
  apply (yields_of_eq_ok (mapError_eq_ok.mpr inner)).bind
  rintro ledgerPlan rfl
  apply (yields_of_eq_ok (okOr_eq_ok.mpr walletFound)).bind
  rintro wallet rfl
  apply (yields_ensure walletCurrency).bind
  intro _ _
  apply ((arithmetic_plannedDebit returns).imp_error fun _ => Or.inl).bind
  intro required requiredZero
  apply ((arithmetic_refundCreditForPlan _).imp_error fun _ => Or.inl).bind
  intro credit _
  apply (arithmetic_balanceWindow.imp_error fun _ => Or.inl).bind
  intro window _
  have walletPassed : (walletCheck wallet.walletId window.availableBeforeWrite
      required).passed = true := by
    simp [walletCheck, FixedDecimal.isZero_iff.mpr requiredZero]
  apply (yields_ensure walletPassed).bind
  intro _ _
  apply ((arithmetic_budgetChecks requiredZero).imp_error fun _ => Or.inl).bind
  intro checks passedIff
  rw [← passedIff]
  apply ((yields_ensureBudgetsPassed checks).imp_error fun _ => Or.inr).bind
  exact fun _ passed => passed

end

/-- A write that returns money, accepted by the ledger planner in the wallet
currency and free of scale mismatches and overflows, is refused for a lack of
funds just when an active budget of the currency is negative. -/
theorem returning_write_not_blocked_iff {request : ConsistentLedgerWriteRequest}
    {state : ConsistentLedgerWriterState} {wallet : ConsistentWalletSnapshot}
    {ledgerPlan : LedgerOperationPlan}
    (inner : planInnerLedgerWrite request state.ledgerEntries = .ok ledgerPlan)
    (walletFound : state.wallet = some wallet) (walletCurrency : wallet.currency = request.currency)
    (fits : ∀ failure, planConsistentLedgerWrite request state = .error failure →
      ¬ IsArithmetic failure) (returns : ReturnsMoney request ledgerPlan.outcome) :
    (∀ failure, planConsistentLedgerWrite request state = .error failure →
      ¬ IsInsufficientFunds failure) ↔ NoNegativeBudget request.currency state.budgets := by
  have yields := yields_returningPlan inner walletFound walletCurrency returns
  cases planned : planConsistentLedgerWrite request state with
  | ok plan =>
    rw [planned] at yields
    exact iff_of_true (by simp) yields
  | error failure =>
    rw [planned] at yields
    have notArithmetic := fits failure planned
    obtain ⟨insufficient, negative⟩ := yields.resolve_left notArithmetic
    simpa [negative] using insufficient

/-- A wallet of 100 with a settle of 10, and a budget with some amount left. -/
def settledState (remaining : Int) : ConsistentLedgerWriterState where
  wallet := some ⟨sampleId 9, "USD", sampleMoney 100⟩
  creditGrants := []
  budgets := [⟨sampleId 3, .project, "USD", sampleMoney remaining, true⟩]
  ledgerEntries :=
    [⟨sampleId 5, some (sampleId 21), none, .settle, sampleMoney (-10), "USD",
      .confirmed, settleLedgerIdempotencyKey (sampleId 21)⟩]

def refundSettled : ConsistentLedgerWriteRequest :=
  .refundFull ⟨sampleId 1, none, none⟩ (sampleId 5) "USD"

/-- A budget that is one unit below zero refuses the refund. -/
theorem negative_budget_blocks_refund :
    planConsistentLedgerWrite refundSettled (settledState (-1)) =
      .error (.insufficientBudget (sampleId 3) .project (sampleMoney (-1)) (sampleMoney 0)) := by
  decide +kernel

/-- With nothing left in the budget the refund is planned. -/
theorem returning_write_not_blocked_settledState : NoNegativeBudget "USD" (settledState 0).budgets ∧
      ∀ failure, planConsistentLedgerWrite refundSettled (settledState 0) = .error failure →
        ¬ IsInsufficientFunds failure := by
  have nonneg : NoNegativeBudget "USD" (settledState 0).budgets := by
    simp only [NoNegativeBudget, settledState, List.mem_singleton, forall_eq]
    decide
  have fits : ∀ failure, planConsistentLedgerWrite refundSettled (settledState 0) =
      .error failure → ¬ IsArithmetic failure := by
    intro failure failed
    have planned : (planConsistentLedgerWrite refundSettled (settledState 0)).toOption.isSome =
        true := by
      decide +kernel
    rw [failed] at planned
    cases planned
  have returns : ∀ outcome, ReturnsMoney refundSettled outcome := by
    intro outcome
    cases outcome <;> trivial
  exact ⟨nonneg, (returning_write_not_blocked_iff (eq_ok_get (by decide +kernel)) rfl rfl fits
    (returns _)).mpr nonneg⟩

end FuboxApi.ConsistentWriter
