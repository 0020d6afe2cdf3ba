import FuboxApi.InMemoryWriterBalance

/-!
# Budgets over runs of the in-memory writer

Each plan compares its required debit with the remaining amount of the budget snapshot, and nothing
lowers that snapshot. The condition below says when the net debit of a run stays within it.
-/

namespace FuboxApi

open LedgerContract ConsistentWriter TransitionRuns

namespace ConsistentWriter

/-- Active debits of a currency minus its active refunds and credits. -/
def netDebit (currency : String) (entries : List LedgerEntryRecord) : ℚ :=
  -ledgerEffect currency entries

theorem releasedAmount_nonneg (request : ConsistentLedgerWriteRequest)
    {entries : List LedgerEntryRecord}
    (signs : ∀ entry ∈ entries, entry.entryType = .reserve → entry.amount.toRat < 0) :
    0 ≤ releasedAmount request entries := by
  cases request with
  | settle scope requestId finalCost currency =>
    apply List.sum_nonneg
    intro amount amountMem
    obtain ⟨entry, entryMem, rfl⟩ := List.mem_map.mp amountMem
    obtain ⟨inLedger, selected⟩ := List.mem_filter.mp entryMem
    have isPending : IsPendingReserveFor requestId entry := by
      simpa using selected
    linarith [signs entry inLedger isPending.2.1]
  | _ => exact le_rfl

end ConsistentWriter

namespace InMemoryConsistentLedgerWriter

/-- The plan of the request is not to apply, there is no identifier left for its
entry, or the budget has room for what the request requires beyond the net debit
that is already recorded. -/
def LeavesBudgetRoom (budget : ConsistentBudgetSnapshot) (writer : InMemoryConsistentLedgerWriter)
    (request : ConsistentLedgerWriteRequest) : Prop :=
  ∀ plan, planConsistentLedgerWrite request writer.state = .ok plan → plan.outcome = .apply →
    Uuid.fromU128 (writer.nextLedgerEntryId.asU128 + 1) ≠ none →
    ∀ required, requiredDebitForWrite request writer.state = .ok required →
      netDebit budget.currency writer.state.ledgerEntries + required.toRat ≤
        budget.remainingAmount.toRat

variable {writer after : InMemoryConsistentLedgerWriter} {request : ConsistentLedgerWriteRequest}
  {outcome : ConsistentLedgerCommandExecutionOutcome} {wallet : ConsistentWalletSnapshot}

theorem netDebit_afterWrite {plan : ConsistentLedgerWriterPlan} {draft : LedgerEntryDraft}
    {updates : List LedgerStatusUpdate}
    (planned : WritePlanned writer.state request plan draft updates)
    (walletCurrency : wallet.currency = request.currency) (next : Uuid) : netDebit wallet.currency
        (writer.afterWrite request draft next).state.ledgerEntries =
      netDebit wallet.currency writer.state.ledgerEntries - (draft.amount.toRat +
          releasedAmount request writer.state.ledgerEntries) := by
  have changed := balance_afterWrite planned walletCurrency next
  simp only [balance, netDebit] at changed ⊢
  have grantsKept : (writer.afterWrite request draft next).state.creditGrants =
      writer.state.creditGrants := rfl
  rw [grantsKept] at changed
  linarith

theorem netDebit_le_iff_leavesBudgetRoom {budget : ConsistentBudgetSnapshot}
    (currencyEq : budget.currency = wallet.currency)
    (walletFound : writer.state.wallet = some wallet) (fresh : FreshIds writer)
    (invariant : LedgerInvariant writer.state.ledgerEntries)
    (within : netDebit wallet.currency writer.state.ledgerEntries ≤ budget.remainingAmount.toRat) :
    netDebit wallet.currency (writer.executeConsistentLedgerWrite request).1.state.ledgerEntries ≤
      budget.remainingAmount.toRat ↔ LeavesBudgetRoom budget writer request := by
  have stepped := stepResult_execute writer request fresh.distinct
  unfold LeavesBudgetRoom
  rw [currencyEq]
  generalize (writer.executeConsistentLedgerWrite request).1 = after at stepped ⊢
  generalize (writer.executeConsistentLedgerWrite request).2.outcome = outcome
    at stepped
  cases stepped with
  | unchanged _ notPlanned =>
    exact iff_of_true within fun plan planEq applies =>
      (notPlanned plan planEq applies).elim
  | @exhausted plan draft updates planned last =>
    refine iff_of_true ?_ fun _ _ _ advances => (advances last).elim
    obtain ⟨_, _, _, facts⟩ := planConsistentLedgerWrite_eq_ok planned.planned
    cases walletFound.symm.trans facts.walletFound
    have released := releasedAmount_nonneg request (fun entry entryMem isReserve => by
      have negative := invariant.signs entry entryMem
      rw [FixedDecimal.toRat_lt_zero_iff]
      simpa [SignMatchesType, isReserve] using negative)
    rw [facts.walletCurrency] at within ⊢
    simp only [netDebit, withEntries, planned.write.ledgerEffect_updates]
      at within ⊢
    linarith
  | @applied plan draft updates next planned advanced =>
    obtain ⟨_, required, _, facts⟩ := planConsistentLedgerWrite_eq_ok planned.planned
    cases walletFound.symm.trans facts.walletFound
    obtain ⟨_, nonneg, exactly, atMost⟩ := planned.required_debit facts
    have debit := facts.debit
    rw [planned.applies] at debit
    rw [netDebit_afterWrite planned facts.walletCurrency]
    constructor
    · intro stays _ _ _ _ other computed
      cases debit.symm.trans computed
      rcases nonneg.eq_or_lt with nothingRequired | positive
      · linarith
      · linarith [exactly positive]
    · intro room
      have advances : Uuid.fromU128 (writer.nextLedgerEntryId.asU128 + 1) ≠ none := by
        simp [Uuid.fromU128_eq_some_iff.mpr advanced]
      linarith [room plan planned.planned planned.applies advances required debit]

/-- Along a run from an empty ledger, the net debit stays within the initial
remaining amount of a budget of the wallet currency exactly when every request
leaves the budget room. -/
theorem netDebit_within_budget_iff (wallet : ConsistentWalletSnapshot)
    (creditGrants : List ConsistentCreditGrantSnapshot) (budgets : List ConsistentBudgetSnapshot)
    (nextLedgerEntryId : Uuid) (budget : ConsistentBudgetSnapshot)
    (currencyEq : budget.currency = wallet.currency)
    (nonneg : 0 ≤ budget.remainingAmount.toRat) (requests : List ConsistentLedgerWriteRequest) :
    let start := overEmptyLedger (some wallet) creditGrants budgets nextLedgerEntryId
    (∀ earlier later, requests = earlier ++ later → netDebit wallet.currency
            (stateAfter executeConsistentLedgerWrite start earlier).state.ledgerEntries ≤
          budget.remainingAmount.toRat) ↔
      ∀ earlier request later, requests = earlier ++ request :: later → LeavesBudgetRoom budget
          (stateAfter executeConsistentLedgerWrite start earlier) request := by
  apply holds_throughout_iff
    (fun writer => FreshIds writer ∧ LedgerInvariant writer.state.ledgerEntries ∧
      writer.state.wallet = some wallet)
    (fun writer => netDebit wallet.currency writer.state.ledgerEntries ≤
      budget.remainingAmount.toRat)
    (LeavesBudgetRoom budget)
  · intro writer request ⟨fresh, invariant, walletFound⟩
    have stepped := stepResult_execute writer request fresh.distinct
    exact ⟨fresh.step stepped, invariant.step fresh stepped,
      (snapshot_of_step stepped).1.trans walletFound⟩
  · intro writer request ⟨fresh, invariant, walletFound⟩ within
    exact netDebit_le_iff_leavesBudgetRoom currencyEq walletFound fresh invariant within
  · exact ⟨freshIds_overEmptyLedger _ _ _ _, ledgerInvariant_nil, rfl⟩
  · simpa [overEmptyLedger, netDebit, ledgerEffect] using nonneg

/-- A tenant budget of 10. -/
def smallBudget : ConsistentBudgetSnapshot :=
  ⟨sampleId 3, .tenant, "USD", sampleMoney 10, true⟩

/-- A wallet of 100 with the budget of 10 and an empty ledger. -/
def budgetedWriter : InMemoryConsistentLedgerWriter :=
  overEmptyLedger (some ⟨sampleId 9, "USD", sampleMoney 100⟩) [] [smallBudget] (sampleId 1)

def reserveTen (requestId : Uuid) : ConsistentLedgerWriteRequest :=
  .reserve ⟨sampleId 1, none, none⟩ requestId (sampleMoney 10) "USD"

theorem netDebit_within_budget_iff_reserveTen : 0 ≤ smallBudget.remainingAmount.toRat ∧
      ((∀ earlier later, [reserveTen (sampleId 21)] = earlier ++ later →
          netDebit "USD" (stateAfter executeConsistentLedgerWrite budgetedWriter
              earlier).state.ledgerEntries ≤ smallBudget.remainingAmount.toRat) ↔
        ∀ earlier request later, [reserveTen (sampleId 21)] = earlier ++ request :: later →
            LeavesBudgetRoom smallBudget
              (stateAfter executeConsistentLedgerWrite budgetedWriter earlier) request) := by
  have nonneg : 0 ≤ smallBudget.remainingAmount.toRat := by decide +kernel
  exact ⟨nonneg, netDebit_within_budget_iff ⟨sampleId 9, "USD", sampleMoney 100⟩ []
      [smallBudget] (sampleId 1) smallBudget rfl nonneg _⟩

/-- Two reserves of 10 are both applied under a budget of 10. -/
theorem two_reserves_exceed_smallBudget :
    smallBudget ∈ budgetedWriter.state.budgets ∧ smallBudget.active = true ∧
      smallBudget.currency = "USD" ∧ 0 ≤ smallBudget.remainingAmount.toRat ∧
      smallBudget.remainingAmount.toRat <
        netDebit "USD" (stateAfter executeConsistentLedgerWrite budgetedWriter
          [reserveTen (sampleId 21), reserveTen (sampleId 22)]).state.ledgerEntries := by
  decide +kernel

end InMemoryConsistentLedgerWriter

end FuboxApi
