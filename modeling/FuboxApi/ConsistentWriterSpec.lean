import FuboxApi.LedgerPlanningSpec

/-!
# What planning a consistent write establishes

The abstract balance of a writer state is a rational number. A plan that succeeds has computed it in
the wallet's scale, and its required debit is covered by it and by every budget.
-/

namespace FuboxApi.ConsistentWriter

open CheckedFold FixedDecimal LedgerContract

/-- The active ledger amounts of a currency, in money. -/
def ledgerEffect (currency : String) (entries : List LedgerEntryRecord) : ℚ :=
  ((entries.filter fun entry => entry.currency = currency ∧ entry.status.IsActive).map
    fun entry => entry.amount.toRat).sum

/-- The active grants of a currency, in money. -/
def grantEffect (currency : String) (grants : List ConsistentCreditGrantSnapshot) : ℚ :=
  ((grants.filter fun grant => grant.active ∧ grant.currency = currency).map
    fun grant => grant.remainingAmount.toRat).sum

/-- Wallet balance plus active grants plus active ledger amounts in the wallet
currency. -/
def balance (wallet : ConsistentWalletSnapshot) (state : ConsistentLedgerWriterState) : ℚ :=
  wallet.availableBalance.toRat + grantEffect wallet.currency state.creditGrants +
    ledgerEffect wallet.currency state.ledgerEntries

/-- What the pending reserves of a request hold back, in money. -/
def reservedAmount (requestId : Uuid) (entries : List LedgerEntryRecord) : ℚ :=
  ((pendingReserves entries requestId).map fun entry => -entry.amount.toRat).sum

theorem ledgerEffect_cons (currency : String) (entry : LedgerEntryRecord)
    (entries : List LedgerEntryRecord) : ledgerEffect currency (entry :: entries) =
      (if entry.currency = currency ∧ entry.status.IsActive then
        entry.amount.toRat else 0) + ledgerEffect currency entries := by
  by_cases counts : entry.currency = currency ∧ entry.status.IsActive
  · simp [ledgerEffect, counts]
  · simp [ledgerEffect, counts]

@[simp]
theorem ledgerEffect_append (currency : String) (first second : List LedgerEntryRecord) :
    ledgerEffect currency (first ++ second) =
      ledgerEffect currency first + ledgerEffect currency second := by
  simp [ledgerEffect]

section

variable {left right result : FixedDecimal}

theorem checkedAdd_eq_ok : checkedAdd left right = .ok result ↔
      left.scale = right.scale ∧ result.scale = left.scale ∧
        result.units.value = left.units.value + right.units.value := by
  simp only [checkedAdd, bind_eq_ok, ensureSameScale, sameScaleOr,
    ensure_eq_ok, mapError_eq_ok, FixedDecimal.checkedAdd_eq_ok]
  constructor
  · rintro ⟨_, _, added⟩
    exact added
  · intro added
    exact ⟨(), added.1, added⟩

theorem checkedSubtract_eq_ok : checkedSubtract left right = .ok result ↔
      left.scale = right.scale ∧ result.scale = left.scale ∧
        result.units.value = left.units.value - right.units.value := by
  simp only [checkedSubtract, bind_eq_ok, ensureSameScale,
    sameScaleOr, ensure_eq_ok, okOr_eq_ok, mapError_eq_ok,
    FixedDecimal.fromUnits_eq_ok, BoundedInt.checkedSub, BoundedInt.checked_eq_some_iff]
  constructor
  · rintro ⟨_, same, units, unitsEq, rfl, scaleEq⟩
    exact ⟨same, scaleEq, unitsEq⟩
  · rintro ⟨same, scaleEq, unitsEq⟩
    exact ⟨(), same, result.units, unitsEq, rfl, scaleEq⟩

theorem checkedNeg_eq_ok {value : FixedDecimal} : checkedNeg value = .ok result ↔
      result.scale = value.scale ∧ result.units.value = -value.units.value :=
  FixedDecimal.negateOr_eq_ok

variable {scale : Nat}

theorem zero_eq_ok : zero scale = .ok result ↔ result.units.value = 0 ∧ result.scale = scale := by
  simp [zero]

theorem checkedAdd_toRat (added : checkedAdd left right = .ok result) :
    left.scale = right.scale ∧ result.scale = left.scale ∧
      result.toRat = left.toRat + right.toRat := by
  obtain ⟨same, resultScale, sum⟩ := checkedAdd_eq_ok.mp added
  exact ⟨same, resultScale, toRat_add resultScale.symm (same ▸ resultScale.symm) sum⟩

theorem checkedSubtract_toRat (subtracted : checkedSubtract left right = .ok result) :
    left.scale = right.scale ∧ result.scale = left.scale ∧
      result.toRat = left.toRat - right.toRat := by
  obtain ⟨same, resultScale, difference⟩ := checkedSubtract_eq_ok.mp subtracted
  exact ⟨same, resultScale, toRat_sub resultScale.symm (same ▸ resultScale.symm) difference⟩

theorem zero_toRat (zeroed : zero scale = .ok result) :
    result.scale = scale ∧ result.toRat = 0 := by
  obtain ⟨unitsEq, scaleEq⟩ := zero_eq_ok.mp zeroed
  exact ⟨scaleEq, toRat_eq_zero_iff.mpr unitsEq⟩

end

variable {currency : String} {scale : Nat} {total credit required : FixedDecimal}
  {entries : List LedgerEntryRecord} {state : ConsistentLedgerWriterState}
  {draft : LedgerEntryDraft} {checks : List ConsistentBudgetCheck}
  {plan : ConsistentLedgerWriterPlan} {request : ConsistentLedgerWriteRequest}

theorem activeCreditGrantTotal_eq_ok {grants : List ConsistentCreditGrantSnapshot}
    (summed : activeCreditGrantTotal grants currency scale = .ok total) :
    total.scale = scale ∧ total.toRat = grantEffect currency grants := by
  obtain ⟨start, zeroed, folded⟩ := bind_eq_ok.mp summed
  obtain ⟨startScale, startAmount⟩ := zero_toRat zeroed
  obtain ⟨totalScale, totalAmount, _⟩ := foldlM_eq_ok_toRat
    (fun grant : ConsistentCreditGrantSnapshot => grant.remainingAmount.toRat)
    (fun grant => grant.remainingAmount.scale) checkedAdd_toRat folded
  exact ⟨totalScale.trans startScale, by rw [totalAmount, startAmount, zero_add, grantEffect]⟩

theorem activeLedgerEffect_eq_ok (summed : activeLedgerEffect entries currency scale = .ok total) :
    total.scale = scale ∧ total.toRat = ledgerEffect currency entries ∧
      ∀ entry ∈ entries, entry.currency = currency → entry.status.IsActive →
        entry.amount.scale = scale := by
  obtain ⟨start, zeroed, folded⟩ := bind_eq_ok.mp summed
  obtain ⟨startScale, startAmount⟩ := zero_toRat zeroed
  obtain ⟨totalScale, totalAmount, scales⟩ := foldlM_eq_ok_toRat
    (fun entry : LedgerEntryRecord => entry.amount.toRat)
    (fun entry => entry.amount.scale) checkedAdd_toRat folded
  refine ⟨totalScale.trans startScale, by rw [totalAmount, startAmount, zero_add, ledgerEffect], ?_⟩
  intro entry entryMem currencyEq active
  have counted := scales entry (List.mem_filter.mpr ⟨entryMem, by simp [currencyEq, active]⟩)
  exact counted.trans startScale

theorem pendingReserveAmountForRequest_eq_ok {requestId : Uuid} {reserved : FixedDecimal}
    (summed : pendingReserveAmountForRequest entries requestId = .ok reserved) :
    reserved.toRat = reservedAmount requestId entries ∧ ∀ entry ∈ pendingReserves entries requestId,
        entry.amount.scale = reserved.scale := by
  obtain ⟨start, zeroed, folded⟩ := bind_eq_ok.mp summed
  obtain ⟨_, startAmount⟩ := zero_toRat zeroed
  obtain ⟨totalScale, totalAmount, scales⟩ := foldlM_eq_ok_toRat
    (fun entry : LedgerEntryRecord => -entry.amount.toRat)
    (fun entry => entry.amount.scale)
    (fun stepped => by
      obtain ⟨negated, negation, added⟩ := bind_eq_ok.mp stepped
      obtain ⟨negatedScale, negatedUnits⟩ := checkedNeg_eq_ok.mp negation
      obtain ⟨same, nextScale, nextAmount⟩ := checkedAdd_toRat added
      rw [nextAmount, toRat_neg negatedScale.symm negatedUnits]
      exact ⟨same.trans negatedScale, nextScale, rfl⟩)
    folded
  refine ⟨by rw [totalAmount, startAmount, zero_add, reservedAmount], ?_⟩
  intro entry entryMem
  exact (scales entry entryMem).trans totalScale.symm

theorem balanceWindow_eq_ok {wallet : ConsistentWalletSnapshot} {window : ConsistentBalanceWindow}
    (computed : balanceWindow currency wallet state required credit = .ok window) :
    window.availableBeforeWrite.scale = wallet.availableBalance.scale ∧
      window.availableBeforeWrite.toRat = wallet.availableBalance.toRat +
          grantEffect currency state.creditGrants + ledgerEffect currency state.ledgerEntries ∧
      required.scale = wallet.availableBalance.scale ∧ window.availableAfterWrite.toRat =
        window.availableBeforeWrite.toRat - required.toRat + credit.toRat ∧
      window.requiredDebit = required ∧ ∀ entry ∈ state.ledgerEntries,
        entry.currency = currency → entry.status.IsActive →
          entry.amount.scale = wallet.availableBalance.scale := by
  obtain ⟨grantTotal, grantsSummed, computed⟩ := bind_eq_ok.mp computed
  obtain ⟨ledgerTotal, ledgerSummed, computed⟩ := bind_eq_ok.mp computed
  obtain ⟨walletAndGrants, firstAdded, computed⟩ := bind_eq_ok.mp computed
  obtain ⟨available, secondAdded, computed⟩ := bind_eq_ok.mp computed
  obtain ⟨afterDebit, subtracted, computed⟩ := bind_eq_ok.mp computed
  obtain ⟨afterWrite, added, windowEq⟩ := bind_eq_ok.mp computed
  cases windowEq
  obtain ⟨_, grantAmount⟩ := activeCreditGrantTotal_eq_ok grantsSummed
  obtain ⟨_, ledgerAmount, scales⟩ := activeLedgerEffect_eq_ok ledgerSummed
  obtain ⟨_, firstScale, firstAmount⟩ := checkedAdd_toRat firstAdded
  obtain ⟨_, secondScale, secondAmount⟩ := checkedAdd_toRat secondAdded
  obtain ⟨requiredScale, _, afterDebitAmount⟩ := checkedSubtract_toRat subtracted
  have availableScale : available.scale = wallet.availableBalance.scale :=
    secondScale.trans firstScale
  exact ⟨availableScale, by rw [secondAmount, firstAmount, grantAmount, ledgerAmount],
    requiredScale.symm.trans availableScale,
    by rw [(checkedAdd_toRat added).2.2, afterDebitAmount], rfl, scales⟩

theorem refundCreditForPlan_scale {ledgerPlan : LedgerOperationPlan}
    (computed : refundCreditForPlan ledgerPlan scale = .ok credit)
    (single : ledgerPlan.entries = [draft]) (positive : 0 < draft.amount.units.value)
    (isRefund : draft.entryType = .refund) : draft.amount.scale = scale := by
  obtain ⟨start, zeroed, folded⟩ := bind_eq_ok.mp computed
  rw [single] at folded
  obtain ⟨next, stepped, _⟩ := bind_eq_ok.mp folded
  dsimp only at stepped
  rw [if_pos ⟨positive, Or.inl isRefund⟩] at stepped
  obtain ⟨same, _⟩ := checkedAdd_eq_ok.mp stepped
  exact same.symm.trans (zero_toRat zeroed).1

theorem ensureBudgetsPassed_eq_ok :
    ensureBudgetsPassed checks = .ok () ↔ ∀ check ∈ checks, check.passed = true := by
  unfold ensureBudgetsPassed
  split
  · next absent =>
    simpa using absent
  · next failed found =>
    have failedMem := List.mem_of_find?_eq_some found
    have notPassed : failed.passed = false := by
      simpa using List.find?_some found
    simp only [reduceCtorEq, false_iff, not_forall]
    exact ⟨failed, failedMem, by simp [notPassed]⟩

theorem budgetChecks_eq_ok {budgets : List ConsistentBudgetSnapshot}
    (checked : budgetChecks budgets currency required = .ok checks)
    (passed : ∀ check ∈ checks, check.passed = true) {budget : ConsistentBudgetSnapshot}
    (budgetMem : budget ∈ budgets) (active : budget.active = true)
    (currencyEq : budget.currency = currency) :
    budget.remainingAmount.scale = required.scale ∧ required ≤ budget.remainingAmount := by
  have sortedMem : budget ∈ (budgets.filter fun budget =>
      budget.active ∧ budget.currency = currency).insertionSort budgetPrecedes := by
    rw [List.mem_insertionSort]
    exact List.mem_filter.mpr ⟨budgetMem, by simp [active, currencyEq]⟩
  obtain ⟨check, checkMem, checkEq⟩ := exists_result_of_mapM checked sortedMem
  obtain ⟨remaining, subtracted, built⟩ := bind_eq_ok.mp checkEq
  cases built
  have checkPassed := passed _ checkMem
  exact ⟨(checkedSubtract_eq_ok.mp subtracted).1, by simpa using checkPassed⟩

/-- Everything that a successful plan has checked. -/
structure PlanFacts (request : ConsistentLedgerWriteRequest) (state : ConsistentLedgerWriterState)
    (plan : ConsistentLedgerWriterPlan) (wallet : ConsistentWalletSnapshot)
    (required credit : FixedDecimal) :
    Prop where
  inner : planInnerLedgerWrite request state.ledgerEntries = .ok plan.ledgerPlan
  walletFound : state.wallet = some wallet
  walletCurrency : wallet.currency = request.currency
  debit : plannedDebit request state wallet plan.outcome = .ok required
  refundCredit : refundCreditForPlan plan.ledgerPlan wallet.availableBalance.scale = .ok credit
  window : balanceWindow request.currency wallet state required credit = .ok plan.balanceWindow
  walletChecked : plan.walletCheck =
    walletCheck wallet.walletId plan.balanceWindow.availableBeforeWrite required
  walletPassed : plan.walletCheck.passed = true
  budgetsChecked : budgetChecks state.budgets request.currency required = .ok plan.budgetChecks
  budgetsPassed : ∀ check ∈ plan.budgetChecks, check.passed = true
  operation : plan.operation = request.operation
  idempotencyKey : plan.idempotencyKey = request.idempotencyKey
  scope : plan.scope = request.scope
  outcome : plan.outcome = plan.ledgerPlan.outcome

theorem planConsistentLedgerWrite_eq_ok
    (planned : planConsistentLedgerWrite request state = .ok plan) :
    ∃ wallet required credit, PlanFacts request state plan wallet required credit := by
  obtain ⟨ledgerPlan, inner, planned⟩ := bind_eq_ok.mp planned
  obtain ⟨wallet, walletFound, planned⟩ := bind_eq_ok.mp planned
  obtain ⟨_, walletCurrency, planned⟩ := bind_eq_ok.mp planned
  obtain ⟨required, debit, planned⟩ := bind_eq_ok.mp planned
  obtain ⟨credit, refundCredit, planned⟩ := bind_eq_ok.mp planned
  obtain ⟨window, windowed, planned⟩ := bind_eq_ok.mp planned
  obtain ⟨_, walletPassed, planned⟩ := bind_eq_ok.mp planned
  obtain ⟨checks, budgetsChecked, planned⟩ := bind_eq_ok.mp planned
  obtain ⟨_, budgetsPassed, planEq⟩ := bind_eq_ok.mp planned
  cases planEq
  exact ⟨wallet, required, credit,
    { inner := mapError_eq_ok.mp inner
      walletFound := okOr_eq_ok.mp walletFound
      walletCurrency := ensure_eq_ok.mp walletCurrency
      debit := debit
      refundCredit := refundCredit
      window := windowed
      walletChecked := rfl
      walletPassed := ensure_eq_ok.mp walletPassed
      budgetsChecked := budgetsChecked
      budgetsPassed := ensureBudgetsPassed_eq_ok.mp budgetsPassed
      operation := rfl
      idempotencyKey := rfl
      scope := rfl
      outcome := rfl }⟩

variable {wallet : ConsistentWalletSnapshot}

section

variable (facts : PlanFacts request state plan wallet required credit)

include facts

theorem PlanFacts.available_eq_balance :
    plan.balanceWindow.availableBeforeWrite.toRat = balance wallet state := by
  rw [(balanceWindow_eq_ok facts.window).2.1, balance, facts.walletCurrency]

theorem PlanFacts.required_scale : required.scale = wallet.availableBalance.scale :=
  (balanceWindow_eq_ok facts.window).2.2.1

theorem PlanFacts.entry_scale {entry : LedgerEntryRecord} (entryMem : entry ∈ state.ledgerEntries)
    (currencyEq : entry.currency = wallet.currency) (active : entry.status.IsActive) :
    entry.amount.scale = wallet.availableBalance.scale :=
  (balanceWindow_eq_ok facts.window).2.2.2.2.2 entry entryMem
    (currencyEq.trans facts.walletCurrency) active

theorem PlanFacts.covered : required.toRat = 0 ∨ required.toRat ≤ balance wallet state := by
  have passed := facts.walletPassed
  rw [facts.walletChecked] at passed
  simp only [walletCheck, Bool.or_eq_true, FixedDecimal.isZero_iff, decide_eq_true_eq] at passed
  rcases passed with isZero | enough
  · exact Or.inl (toRat_eq_zero_iff.mpr isZero)
  · right
    rw [← facts.available_eq_balance]
    apply (toRat_le_iff _).mpr enough
    rw [facts.required_scale, (balanceWindow_eq_ok facts.window).1]

theorem PlanFacts.budget_covered {budget : ConsistentBudgetSnapshot}
    (budgetMem : budget ∈ state.budgets) (active : budget.active = true)
    (currencyEq : budget.currency = wallet.currency) :
    budget.remainingAmount.scale = required.scale ∧
      required.toRat ≤ budget.remainingAmount.toRat := by
  obtain ⟨sameScale, enough⟩ := budgetChecks_eq_ok facts.budgetsChecked
    facts.budgetsPassed budgetMem active (currencyEq.trans facts.walletCurrency)
  exact ⟨sameScale, (toRat_le_iff sameScale.symm).mpr enough⟩

end

/-- A plan to apply, with the write it plans. -/
structure WritePlanned (state : ConsistentLedgerWriterState)
    (request : ConsistentLedgerWriteRequest) (plan : ConsistentLedgerWriterPlan)
    (draft : LedgerEntryDraft) (updates : List LedgerStatusUpdate) :
    Prop where
  planned : planConsistentLedgerWrite request state = .ok plan
  applies : plan.outcome = .apply
  write : AppliedWrite state.ledgerEntries request draft updates
  ledgerPlan : plan.ledgerPlan = plannedWrite request draft updates
  keyFresh : ∀ entry ∈ state.ledgerEntries, entry.idempotencyKey ≠ request.idempotencyKey

theorem exists_writePlanned (planned : planConsistentLedgerWrite request state = .ok plan)
    (applies : plan.outcome = .apply) :
    ∃ draft updates, WritePlanned state request plan draft updates := by
  obtain ⟨_, _, _, facts⟩ := planConsistentLedgerWrite_eq_ok planned
  obtain ⟨draft, updates, write, ledgerPlan, keyFresh⟩ :=
    planInnerLedgerWrite_apply facts.inner (facts.outcome.symm.trans applies)
  exact ⟨draft, updates, planned, applies, write, ledgerPlan, keyFresh⟩

/-- What applying a request frees: a settle gives up the pending reserves of
its request. -/
def releasedAmount (request : ConsistentLedgerWriteRequest) (entries : List LedgerEntryRecord) :
    ℚ :=
  match request with
  | .settle _ requestId _ _ => reservedAmount requestId entries
  | _ => 0

theorem AppliedWrite.updates_eq {updates : List LedgerStatusUpdate}
    (write : AppliedWrite entries request draft updates) : ∃ reserves : List LedgerEntryRecord,
      updates = reserves.map reserveSettledUpdate ∧ releasedAmount request entries =
        (reserves.map fun reserve => -reserve.amount.toRat).sum ∧
      ∀ reserve ∈ reserves, reserve ∈ entries ∧
        reserve.entryType = .reserve ∧ reserve.currency = request.currency := by
  cases write with
  | @settle _ requestId _ _ _ _ _ _ _ reserveCurrency =>
    refine ⟨pendingReserves entries requestId, rfl, rfl, ?_⟩
    intro reserve reserveMem
    obtain ⟨entryMem, selected⟩ := List.mem_filter.mp reserveMem
    have isPending : IsPendingReserveFor requestId reserve := by
      simpa using selected
    exact ⟨entryMem, isPending.2.1, reserveCurrency reserve reserveMem⟩
  | _ => exact ⟨[], rfl, rfl, by simp⟩

variable {updates : List LedgerStatusUpdate}

/-- A positive sum of pending reserves has the wallet's scale, as it is the sum
of at least one entry of the wallet. -/
theorem PlanFacts.reserved_scale {requestId : Uuid} {reserved : FixedDecimal}
    (facts : PlanFacts request state plan wallet required credit)
    (reserveCurrency : ∀ entry ∈ pendingReserves state.ledgerEntries requestId,
      entry.currency = request.currency)
    (summed : pendingReserveAmountForRequest state.ledgerEntries requestId = .ok reserved)
    (positive : 0 < reserved.units.value) : reserved.scale = wallet.availableBalance.scale := by
  obtain ⟨reservedEq, reserveScales⟩ := pendingReserveAmountForRequest_eq_ok summed
  have reservesExist : pendingReserves state.ledgerEntries requestId ≠ [] := by
    intro noReserves
    have reservedZero : reserved.toRat = 0 := by
      rw [reservedEq, reservedAmount, noReserves]
      rfl
    have := toRat_eq_zero_iff.mp reservedZero
    omega
  obtain ⟨entry, entryMem⟩ := List.exists_mem_of_ne_nil _ reservesExist
  have entryPending := List.mem_filter.mp entryMem
  have isPending : IsPendingReserveFor requestId entry := by
    simpa using entryPending.2
  have entryActive : entry.status.IsActive := by
    rw [isPending.2.2]
    exact LedgerEntryStatus.isActive_pending
  have entryScale := facts.entry_scale entryPending.1
    ((reserveCurrency entry entryMem).trans facts.walletCurrency.symm) entryActive
  exact (reserveScales entry entryMem).symm.trans entryScale

/-- A settle that costs more than its reserves requires the excess; one that
costs at most its reserves requires nothing. The lexicographic comparison of
the source is only made between amounts of the wallet's scale. -/
private theorem settle_required {requestId : Uuid} {finalCost : FixedDecimal}
    {scope : ConsistentLedgerScope}
    (facts : PlanFacts (.settle scope requestId finalCost currency) state plan
      wallet required credit) (applies : plan.outcome = .apply)
    (positive : 0 < finalCost.units.value)
    (reserveCurrency : ∀ entry ∈ pendingReserves state.ledgerEntries requestId,
      entry.currency = currency) :
    finalCost.scale = wallet.availableBalance.scale ∧ 0 ≤ required.toRat ∧
      (0 < required.toRat → finalCost.toRat -
        reservedAmount requestId state.ledgerEntries = required.toRat) ∧
      finalCost.toRat - reservedAmount requestId state.ledgerEntries ≤ required.toRat := by
  have debit := facts.debit
  rw [applies] at debit
  obtain ⟨reserved, summed, chosen⟩ := bind_eq_ok.mp debit
  rw [← (pendingReserveAmountForRequest_eq_ok summed).1]
  split at chosen
  · next excess =>
    obtain ⟨sameScale, requiredScale, requiredEq⟩ := checkedSubtract_toRat chosen
    have nonneg := (toRat_lt_iff sameScale.symm).mpr excess
    refine ⟨requiredScale.symm.trans facts.required_scale, ?_, ?_, ?_⟩
    · linarith
    · intro _
      exact requiredEq.symm
    · exact requiredEq.ge
  · next noExcess =>
    obtain ⟨requiredScale, requiredEq⟩ := zero_toRat chosen
    have costScale : finalCost.scale = wallet.availableBalance.scale :=
      requiredScale.symm.trans facts.required_scale
    have atMost := FixedDecimal.not_lt_iff.mp noExcess
    have reservedPositive : 0 < reserved.units.value := by
      rw [FixedDecimal.le_def] at atMost
      omega
    have sameScale : finalCost.scale = reserved.scale := costScale.trans
        (facts.reserved_scale reserveCurrency summed reservedPositive).symm
    have costAtMost := (toRat_le_iff sameScale).mpr atMost
    refine ⟨costScale, requiredEq.ge, ?_, ?_⟩
    · intro requiredPositive
      linarith
    · linarith

variable {change needed : ℚ}

theorem takes_required (nonneg : 0 ≤ needed) (changeEq : change = -needed) :
    0 ≤ needed ∧ (0 < needed → change = -needed) ∧ -needed ≤ change :=
  ⟨nonneg, fun _ => changeEq, changeEq.ge⟩

theorem takes_nothing (neededEq : needed = 0) (gains : 0 < change) :
    0 ≤ needed ∧ (0 < needed → change = -needed) ∧ -needed ≤ change := by
  refine ⟨neededEq.ge, ?_, by linarith⟩
  intro neededPositive
  exact absurd neededEq neededPositive.ne'

/-- The new amount has the wallet's scale, and together with what the write
frees it takes away exactly the required debit, or nothing when no debit is
required. -/
theorem WritePlanned.required_debit (planned : WritePlanned state request plan draft updates)
    (facts : PlanFacts request state plan wallet required credit) :
    draft.amount.scale = wallet.availableBalance.scale ∧ 0 ≤ required.toRat ∧ (0 < required.toRat →
        draft.amount.toRat + releasedAmount request state.ledgerEntries = -required.toRat) ∧
      -required.toRat ≤ draft.amount.toRat + releasedAmount request state.ledgerEntries := by
  obtain ⟨_, applies, write, ledgerPlan, _⟩ := planned
  have debit := facts.debit
  rw [applies] at debit
  have refundScale := refundCreditForPlan_scale facts.refundCredit
    (by rw [ledgerPlan]; rfl : plan.ledgerPlan.entries = [draft])
  cases write with
  | @reserve _ _ amount debitAmount _ positive debitScale debitUnits =>
    cases debit
    have amountPositive := toRat_pos_iff.mpr positive
    have draftAmount := toRat_neg debitScale.symm debitUnits
    simp only [reserveDraft, releasedAmount, add_zero]
    exact ⟨debitScale.trans facts.required_scale, takes_required amountPositive.le draftAmount⟩
  | @settle _ _ finalCost debitAmount _ positive debitScale debitUnits _ reserveCurrency =>
      obtain ⟨costScale, nonneg, excess, atMost⟩ :=
        settle_required facts applies positive reserveCurrency
      have draftAmount := toRat_neg debitScale.symm debitUnits
      simp only [settleDraft, releasedAmount, draftAmount]
      refine ⟨debitScale.trans costScale, nonneg, ?_, by linarith⟩
      intro requiredPositive
      linarith [excess requiredPositive]
  | refundFull _ positive | refundPartial _ positive =>
    obtain ⟨_, requiredEq⟩ := zero_toRat debit
    have amountPositive := toRat_pos_iff.mpr positive
    simp only [refundDraft, releasedAmount, add_zero]
    exact ⟨refundScale positive rfl, takes_nothing requiredEq amountPositive⟩
  | @adminAdjustment _ _ _ _ amount _ nonzero =>
    simp only [adminAdjustmentDraft, releasedAmount, add_zero]
    simp only [plannedDebit, requiredDebitForWrite] at debit
    split at debit
    · next negative =>
      obtain ⟨requiredScale, requiredUnits⟩ := checkedNeg_eq_ok.mp debit
      have requiredEq := toRat_neg requiredScale.symm requiredUnits
      have requiredPositive : 0 < required.toRat := by
        rw [toRat_pos_iff, requiredUnits]
        omega
      exact ⟨requiredScale.symm.trans facts.required_scale,
        takes_required requiredPositive.le (by linarith)⟩
    · next notNegative =>
      obtain ⟨requiredScale, requiredEq⟩ := zero_toRat debit
      have amountPositive : 0 < amount.toRat := by
        rw [toRat_pos_iff]
        omega
      exact ⟨requiredScale.symm.trans facts.required_scale, takes_nothing requiredEq amountPositive⟩

end FuboxApi.ConsistentWriter
