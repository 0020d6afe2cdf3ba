import FuboxApi.InMemoryWriterInvariants
import Mathlib.Tactic.Ring

/-!
# Solvency of the in-memory writer

A settle is checked only for its excess over the pending reserves of its request, and reverses
exactly those. The balance falls by the required debit that the plan covered, and rises by whatever
the write gives back.
-/

namespace FuboxApi

open LedgerContract ConsistentWriter TransitionRuns

namespace ConsistentWriter

/-- Wallet, grants and active ledger amounts together are not negative. -/
def Solvent (state : ConsistentLedgerWriterState) : Prop :=
  ∀ wallet, state.wallet = some wallet → 0 ≤ balance wallet state

theorem reservedAmount_cons (requestId : Uuid) (entry : LedgerEntryRecord)
    (entries : List LedgerEntryRecord) : reservedAmount requestId (entry :: entries) =
      (if IsPendingReserveFor requestId entry then -entry.amount.toRat else 0) +
        reservedAmount requestId entries := by
  by_cases isPending : IsPendingReserveFor requestId entry
  · simp [reservedAmount, pendingReserves, isPending]
  · simp [reservedAmount, pendingReserves, isPending]

theorem ledgerEffect_reversePendingReserves {requestId : Uuid} {currency : String}
    {entries : List LedgerEntryRecord}
    (reserveCurrency : ∀ entry ∈ pendingReserves entries requestId, entry.currency = currency) :
    ledgerEffect currency (reversePendingReserves requestId entries) =
      ledgerEffect currency entries + reservedAmount requestId entries := by
  induction entries with
  | nil => simp [reversePendingReserves, reservedAmount, pendingReserves]
  | cons entry rest ih =>
    have restCurrency : ∀ other ∈ pendingReserves rest requestId, other.currency = currency := by
      intro other otherMem
      apply reserveCurrency other
      exact List.Sublist.mem otherMem ((List.sublist_cons_self entry rest).filter _)
    have restEffect := ih restCurrency
    unfold reversePendingReserves at restEffect ⊢
    rw [List.map_cons, ledgerEffect_cons, ledgerEffect_cons, reservedAmount_cons, restEffect]
    by_cases isPending : IsPendingReserveFor requestId entry
    · have entryCurrency : entry.currency = currency :=
        reserveCurrency entry (List.mem_filter.mpr ⟨by simp, by simpa using isPending⟩)
      have entryActive : entry.status.IsActive := Or.inl isPending.2.2
      have notActive : ¬ (reverseEntry entry).status.IsActive :=
        LedgerEntryStatus.not_isActive_reversed
      rw [if_pos isPending, if_neg (fun counts => notActive counts.2),
        if_pos ⟨entryCurrency, entryActive⟩, if_pos isPending]
      ring
    · rw [if_neg isPending, if_neg isPending]
      ring

variable {state : ConsistentLedgerWriterState}
  {request : ConsistentLedgerWriteRequest} {plan : ConsistentLedgerWriterPlan}
  {draft : LedgerEntryDraft} {updates : List LedgerStatusUpdate}

theorem AppliedWrite.ledgerEffect_updates {entries : List LedgerEntryRecord}
    (write : AppliedWrite entries request draft updates) :
    ledgerEffect request.currency (entriesAfterUpdates request entries) =
      ledgerEffect request.currency entries + releasedAmount request entries := by
  cases write with
  | settle _ _ _ _ reserveCurrency =>
    exact ledgerEffect_reversePendingReserves reserveCurrency
  | _ => simp [entriesAfterUpdates, releasedAmount]

theorem WritePlanned.balance_nonneg (planned : WritePlanned state request plan draft updates)
    {wallet : ConsistentWalletSnapshot} (walletFound : state.wallet = some wallet)
    (nonneg : 0 ≤ balance wallet state) : wallet.currency = request.currency ∧
      0 ≤ balance wallet state + releasedAmount request state.ledgerEntries + draft.amount.toRat ∧
      0 ≤ balance wallet state + releasedAmount request state.ledgerEntries := by
  obtain ⟨_, required, _, facts⟩ := planConsistentLedgerWrite_eq_ok planned.planned
  cases walletFound.symm.trans facts.walletFound
  obtain ⟨_, requiredNonneg, _, takesAtMost⟩ := planned.required_debit facts
  have withEntry : 0 ≤ balance wallet state +
      releasedAmount request state.ledgerEntries + draft.amount.toRat := by
    rcases facts.covered with nothingRequired | covered
    · linarith
    · linarith
  refine ⟨facts.walletCurrency, withEntry, ?_⟩
  cases planned.write with
  | @settle _ _ finalCost debit _ positive debitScale debitUnits =>
    have debitNegative : debit.toRat < 0 := by
      rw [FixedDecimal.toRat_lt_zero_iff]
      omega
    simp only [settleDraft] at withEntry
    linarith
  | _ => simpa [releasedAmount] using nonneg

end ConsistentWriter

namespace InMemoryConsistentLedgerWriter

variable {writer after : InMemoryConsistentLedgerWriter} {request : ConsistentLedgerWriteRequest}
  {outcome : ConsistentLedgerCommandExecutionOutcome}

theorem snapshot_of_step (stepped : StepResult writer request after outcome) :
    after.state.wallet = writer.state.wallet ∧
      after.state.creditGrants = writer.state.creditGrants ∧
      after.state.budgets = writer.state.budgets := by
  cases stepped with
  | unchanged | applied | exhausted => exact ⟨rfl, rfl, rfl⟩

theorem balance_afterWrite {plan : ConsistentLedgerWriterPlan} {draft : LedgerEntryDraft}
    {updates : List LedgerStatusUpdate}
    (planned : WritePlanned writer.state request plan draft updates)
    {wallet : ConsistentWalletSnapshot} (walletCurrency : wallet.currency = request.currency)
    (next : Uuid) : balance wallet (writer.afterWrite request draft next).state =
      balance wallet writer.state + releasedAmount request writer.state.ledgerEntries +
        draft.amount.toRat := by
  have counted : (recordOfDraft writer.nextLedgerEntryId draft).currency = request.currency ∧
      (recordOfDraft writer.nextLedgerEntryId draft).status.IsActive :=
    ⟨planned.write.draft_currency, planned.write.draft_active⟩
  simp only [balance, afterWrite, walletCurrency, ledgerEffect_append,
    planned.write.ledgerEffect_updates, ledgerEffect_cons, if_pos counted]
  simp only [recordOfDraft, ledgerEffect, List.filter_nil, List.map_nil, List.sum_nil]
  ring

theorem solvent_of_step (stepped : StepResult writer request after outcome)
    (solvent : Solvent writer.state) : Solvent after.state := by
  intro wallet afterWallet
  have walletFound : writer.state.wallet = some wallet :=
    (snapshot_of_step stepped).1.symm.trans afterWallet
  have nonneg := solvent wallet walletFound
  cases stepped with
  | unchanged => exact nonneg
  | @applied plan draft updates next planned advanced =>
    obtain ⟨walletCurrency, withEntry, _⟩ := planned.balance_nonneg walletFound nonneg
    rw [balance_afterWrite planned walletCurrency]
    exact withEntry
  | @exhausted plan draft updates planned last =>
    obtain ⟨walletCurrency, _, withoutEntry⟩ := planned.balance_nonneg walletFound nonneg
    simp only [balance, withEntries, walletCurrency,
      planned.write.ledgerEffect_updates] at withoutEntry ⊢
    linarith

/-- A run that starts solvent, with pairwise distinct entry identifiers below
the next one, stays solvent. -/
theorem solvent_of_run (fresh : FreshIds writer) (solvent : Solvent writer.state)
    (requests : List ConsistentLedgerWriteRequest) : Solvent
      (stateAfter executeConsistentLedgerWrite writer requests).state :=
  (run_invariant (fun current => Solvent current.state)
    (fun _ stepped => solvent_of_step stepped) fresh solvent requests).2

/-- A wallet of 100 with a pending reserve of 10 under identifier 5. -/
def reservedState : ConsistentLedgerWriterState where
  wallet := some ⟨sampleId 9, "USD", sampleMoney 100⟩
  creditGrants := []
  budgets := []
  ledgerEntries :=
    [⟨sampleId 5, some (sampleId 21), none, .reserve, sampleMoney (-10), "USD",
      .pending, reserveLedgerIdempotencyKey (sampleId 21)⟩]

/-- A reserve of 50 for another request and its settle at 60. -/
def reserveThenSettle : List ConsistentLedgerWriteRequest :=
  [.reserve ⟨sampleId 1, none, none⟩ (sampleId 22) (sampleMoney 50) "USD",
    .settle ⟨sampleId 1, none, none⟩ (sampleId 22) (sampleMoney 60) "USD"]

theorem solvent_reservedState : Solvent reservedState := by
  intro wallet found
  cases found
  decide +kernel

theorem solvent_after_reserveThenSettle :
    FreshIds ⟨reservedState, sampleId 6⟩ ∧ Solvent reservedState ∧
      Solvent (stateAfter executeConsistentLedgerWrite
        ⟨reservedState, sampleId 6⟩ reserveThenSettle).state := by
  have fresh : FreshIds ⟨reservedState, sampleId 6⟩ := ⟨by decide +kernel, by decide +kernel⟩
  exact ⟨fresh, solvent_reservedState, solvent_of_run fresh solvent_reservedState reserveThenSettle⟩

/-- When the next identifier is already taken, the settle reverses the older
reserve of that identifier in place of its own, and the wallet is overdrawn. -/
theorem overdrawn_of_taken_identifier : Solvent reservedState ∧
      ¬ Solvent (stateAfter executeConsistentLedgerWrite
        ⟨reservedState, sampleId 5⟩ reserveThenSettle).state := by
  refine ⟨solvent_reservedState, ?_⟩
  intro solvent
  have nonneg := solvent ⟨sampleId 9, "USD", sampleMoney 100⟩ (by decide +kernel)
  revert nonneg
  decide +kernel

end InMemoryConsistentLedgerWriter

end FuboxApi
