import FuboxApi.ConsistentWriterSpec

/-!
# Planning a request that is already stored

A request whose key is in the ledger is planned again in full, with a debit of zero. When the stored
entry matches and the amounts have the wallet's scale, only an overflow can go wrong.
-/

namespace FuboxApi

open CheckedFold LedgerContract

namespace LedgerContract

/-- The overflow error of the ledger contract. -/
def Overflowed (failure : LedgerContractError) : Prop :=
  failure = .arithmeticOverflow

theorem overflowed_arithmeticOverflow : Overflowed .arithmeticOverflow :=
  rfl

theorem yields_checkedNeg {value : FixedDecimal} :
    Yields (fun negated => negated.scale = value.scale) Overflowed (checkedNeg value) :=
  FixedDecimal.yields_negateOr overflowed_arithmeticOverflow

theorem yields_addRefund {total : FixedDecimal} {entry : LedgerEntryRecord}
    (positive : 0 < entry.amount.units.value) :
    Yields (fun next => next.scale = total.scale) Overflowed (addRefund total entry) := by
  apply (yields_ensure positive).bind
  intro _ _
  apply yields_mapError_const overflowed_arithmeticOverflow
  intro next added
  exact (FixedDecimal.checkedAdd_eq_ok.mp added).2.1

theorem yields_checkedSubtract {left right : FixedDecimal} (same : left.scale = right.scale) :
    Yields (fun _ => True) Overflowed (checkedSubtract left right) := by
  apply (yields_ensure same).bind
  intro _ _
  apply yields_checkedNeg.bind
  intro negated _
  exact yields_mapError_const overflowed_arithmeticOverflow fun _ _ => trivial

theorem yields_remainingRefundableAmountExcluding {source : LedgerEntryRecord}
    {entries : List LedgerEntryRecord} {excluded : Uuid}
    (positive : ∀ entry ∈ entries, IsActiveRefundOf source.id entry →
      0 < entry.amount.units.value) : Yields (fun _ => True) Overflowed
      (remainingRefundableAmountExcluding source entries excluded) := by
  have zeroed : Yields (fun zero => zero.scale = source.amount.scale) Overflowed
      ((FixedDecimal.zero source.amount.scale).mapError
        fun _ => LedgerContractError.arithmeticOverflow) := by
    apply yields_mapError_const overflowed_arithmeticOverflow
    intro zero built
    exact (FixedDecimal.zero_eq_ok.mp built).2
  apply zeroed.bind
  intro zero zeroScale
  apply yields_checkedNeg.bind
  intro debited debitedScale
  have summed : Yields (fun refunded => refunded.scale = source.amount.scale)
      Overflowed ((entries.filter fun entry => entry.id ≠ excluded ∧
        IsActiveRefundOf source.id entry).foldlM addRefund zero) := by
    have counted : ∀ entry ∈ entries.filter fun entry =>
        entry.id ≠ excluded ∧ IsActiveRefundOf source.id entry,
        0 < entry.amount.units.value := by
      intro entry entryMem
      obtain ⟨inLedger, selected⟩ := List.mem_filter.mp entryMem
      exact positive entry inLedger (of_decide_eq_true selected).2
    refine yields_foldlM ?_ counted zeroScale
    intro total entry totalScale entryPositive
    exact (yields_addRefund entryPositive).imp fun _ nextScale =>
      nextScale.trans totalScale
  apply summed.bind
  intro refunded refundedScale
  exact yields_checkedSubtract (debitedScale.trans refundedScale.symm)

def IsReplayPlan (plan : LedgerOperationPlan) : Prop :=
  ∃ operation key existingEntryId, plan = idempotentPlan operation key existingEntryId

variable {entries : List LedgerEntryRecord} {stored : LedgerEntryRecord}

theorem yields_matched_plan {matching : ContractResult Unit}
    {operation : LedgerOperationKind} {key : String} {existingEntryId : Uuid}
    (matched : matching = .ok ()) : Yields IsReplayPlan Overflowed (matching >>= fun _ =>
        pure (idempotentPlan operation key existingEntryId)) := by
  rw [matched]
  exact ⟨operation, key, existingEntryId, rfl⟩

variable {debit : FixedDecimal}

theorem yields_planLedgerReserve {request : ReserveLedgerRequest}
    (valid : validateCurrency request.currency = .ok ())
    (debited : debitAmount "amount" request.amount = .ok debit)
    (found : findByIdempotencyKey entries
      (reserveLedgerIdempotencyKey request.requestId) = some stored)
    (matched : ensureExistingMatchesDraft stored (reserveDraft request debit) = .ok ()) :
    Yields IsReplayPlan Overflowed (planLedgerReserve request entries) := by
  apply (yields_of_eq_ok valid).bind
  intro _ _
  apply (yields_of_eq_ok debited).bind
  rintro _ rfl
  simp only [reserveDraft] at matched ⊢
  rw [found]
  exact yields_matched_plan matched

theorem yields_planLedgerSettle {request : SettleLedgerRequest}
    (valid : validateCurrency request.currency = .ok ())
    (debited : debitAmount "final_cost" request.finalCost = .ok debit)
    (found : findByIdempotencyKey entries
      (settleLedgerIdempotencyKey request.requestId) = some stored)
    (matched : ensureExistingMatchesDraft stored
      (settleDraft request debit (.settle request.requestId)) = .ok ()) :
    Yields IsReplayPlan Overflowed (planLedgerSettle request entries) := by
  apply (yields_of_eq_ok valid).bind
  intro _ _
  apply (yields_of_eq_ok debited).bind
  rintro _ rfl
  simp only [settleDraft] at matched ⊢
  rw [found]
  exact yields_matched_plan matched

theorem yields_planLedgerAdminAdjustment {request : AdminAdjustmentLedgerRequest}
    (valid : validateCurrency request.currency = .ok ()) (nonzero : request.amount.units.value ≠ 0)
    (found : findByIdempotencyKey entries
      (adminAdjustmentLedgerIdempotencyKey request.adjustmentOperationId) = some stored)
    (matched : ensureExistingMatchesDraft stored (adminAdjustmentDraft request) = .ok ()) :
    Yields IsReplayPlan Overflowed (planLedgerAdminAdjustment request entries) := by
  have notZero : request.amount.isZero = false := by
    simpa [FixedDecimal.isZero] using nonzero
  apply (yields_of_eq_ok valid).bind
  intro _ _
  apply (yields_ensure notZero).bind
  intro _ _
  simp only [adminAdjustmentDraft] at matched ⊢
  rw [found]
  exact yields_matched_plan matched

/-- A stored refund matches its request when it has the shape of a refund of
the source, and the amount that the request names or that remains without
it. -/
theorem yields_planLedgerRefund {request : RefundLedgerRequest} {refund : NormalizedRefundRequest}
    {source : LedgerEntryRecord} (normalized : normalizeRefundRequest request = .ok refund)
    (valid : validateCurrency refund.currency = .ok ())
    (sourced : findRefundSource entries refund.relatedLedgerEntryId = .ok source)
    (sourceCurrency : source.currency = refund.currency)
    (positive : ∀ entry ∈ entries, IsActiveRefundOf source.id entry → 0 < entry.amount.units.value)
    (found : findByIdempotencyKey entries refund.idempotencyKey = some stored)
    (matched : stored.relatedLedgerEntryId = some refund.relatedLedgerEntryId ∧
      stored.entryType = .refund ∧ stored.status = .confirmed ∧
      stored.currency = refund.currency ∧ 0 < stored.amount.units.value)
    (amountMatched : ∀ remaining, remainingRefundableAmountExcluding source entries stored.id =
          .ok remaining → stored.amount = refund.amount.getD remaining) :
    Yields IsReplayPlan Overflowed (planLedgerRefund request entries) := by
  apply (yields_of_eq_ok normalized).bind
  rintro _ rfl
  apply (yields_of_eq_ok valid).bind
  intro _ _
  apply (yields_of_eq_ok sourced).bind
  rintro _ rfl
  apply (yields_ensure sourceCurrency).bind
  intro _ _
  rw [found]
  apply (yields_remainingRefundableAmountExcluding positive).with_result.bind
  rintro remaining ⟨computed, _⟩
  apply yields_matched_plan
  exact bind_eq_ok.mpr ⟨(), ensure_eq_ok.mpr matched,
    ensure_eq_ok.mpr (amountMatched remaining computed)⟩

end LedgerContract

namespace ConsistentWriter

/-- The overflow errors of the writer, its own and the ledger contract's. -/
def IsOverflow : ConsistentLedgerWriterError → Prop
  | .arithmeticOverflow => True
  | .ledger failure => Overflowed failure
  | _ => False

theorem isOverflow_arithmeticOverflow : IsOverflow ConsistentLedgerWriterError.arithmeticOverflow :=
  trivial

section

variable {left right : FixedDecimal}

theorem yields_checkedAdd (same : left.scale = right.scale) :
    Yields (fun total => total.scale = left.scale) IsOverflow (checkedAdd left right) := by
  apply (yields_ensure same).bind
  intro _ _
  apply yields_mapError_const isOverflow_arithmeticOverflow
  intro total added
  exact (FixedDecimal.checkedAdd_eq_ok.mp added).2.1

theorem yields_checkedSubtract (same : left.scale = right.scale) :
    Yields (fun difference => difference.scale = left.scale) IsOverflow
      (checkedSubtract left right) := by
  apply (yields_ensure same).bind
  intro _ _
  apply (yields_okOr isOverflow_arithmeticOverflow fun _ _ => trivial).bind
  intro units _
  apply yields_mapError_const isOverflow_arithmeticOverflow
  intro difference built
  exact (FixedDecimal.fromUnits_eq_ok.mp built).2

theorem yields_zero {scale : Nat} :
    Yields (fun result => result.units.value = 0 ∧ result.scale = scale)
      IsOverflow (zero scale) := by
  apply yields_mapError_const isOverflow_arithmeticOverflow
  intro result built
  exact FixedDecimal.zero_eq_ok.mp built

end

/-- What the first planning of a request leaves behind for its replays: the
wallet, summable grants, budgets that are not negative, and active amounts in
the wallet's scale. -/
structure ReplayContext (currency : String) (wallet : ConsistentWalletSnapshot)
    (state : ConsistentLedgerWriterState) : Prop where
  walletFound : state.wallet = some wallet
  walletCurrency : wallet.currency = currency
  grantsSummable : ∃ total, activeCreditGrantTotal state.creditGrants currency
    wallet.availableBalance.scale = .ok total
  budgets : ∀ budget ∈ state.budgets, budget.active = true → budget.currency = currency →
      budget.remainingAmount.scale = wallet.availableBalance.scale ∧
        0 ≤ budget.remainingAmount.units.value
  entryScale : ∀ entry ∈ state.ledgerEntries, entry.currency = currency → entry.status.IsActive →
      entry.amount.scale = wallet.availableBalance.scale

variable {request : ConsistentLedgerWriteRequest}
  {state : ConsistentLedgerWriterState} {wallet : ConsistentWalletSnapshot}
  {currency : String} {required credit : FixedDecimal}

section

variable (context : ReplayContext currency wallet state)

include context

theorem ReplayContext.yields_activeLedgerEffect :
    Yields (fun total => total.scale = wallet.availableBalance.scale) IsOverflow
      (activeLedgerEffect state.ledgerEntries currency wallet.availableBalance.scale) := by
  apply yields_zero.bind
  rintro start ⟨_, startScale⟩
  have counted : ∀ entry ∈ state.ledgerEntries.filter fun entry =>
      entry.currency = currency ∧ entry.status.IsActive,
      entry.amount.scale = wallet.availableBalance.scale := by
    intro entry entryMem
    obtain ⟨inLedger, selected⟩ := List.mem_filter.mp entryMem
    obtain ⟨currencyEq, active⟩ := of_decide_eq_true selected
    exact context.entryScale entry inLedger currencyEq active
  refine yields_foldlM ?_ counted startScale
  intro total entry totalScale entryScale
  exact (yields_checkedAdd (totalScale.trans entryScale.symm)).imp
    fun _ nextScale => nextScale.trans totalScale

theorem ReplayContext.yields_balanceWindow
    (requiredScale : required.scale = wallet.availableBalance.scale)
    (creditScale : credit.scale = wallet.availableBalance.scale) : Yields (fun _ => True) IsOverflow
      (balanceWindow currency wallet state required credit) := by
  obtain ⟨grantTotal, grantsSummed⟩ := context.grantsSummable
  obtain ⟨grantScale, _⟩ := activeCreditGrantTotal_eq_ok grantsSummed
  apply (yields_of_eq_ok grantsSummed).bind
  rintro _ rfl
  apply context.yields_activeLedgerEffect.bind
  intro ledgerTotal ledgerScale
  apply (yields_checkedAdd grantScale.symm).bind
  intro walletAndGrants firstScale
  apply (yields_checkedAdd (firstScale.trans ledgerScale.symm)).bind
  intro available secondScale
  have availableScale : available.scale = wallet.availableBalance.scale :=
    secondScale.trans firstScale
  apply (yields_checkedSubtract (availableScale.trans requiredScale.symm)).bind
  intro afterDebit thirdScale
  apply (yields_checkedAdd ((thirdScale.trans availableScale).trans creditScale.symm)).bind
  intro afterWrite _
  exact trivial

theorem ReplayContext.yields_budgetChecks (requiredZero : required.units.value = 0)
    (requiredScale : required.scale = wallet.availableBalance.scale) :
    Yields (fun checks => ∀ check ∈ checks, check.passed = true) IsOverflow
      (budgetChecks state.budgets currency required) := by
  apply yields_mapM
  intro budget budgetMem
  rw [List.mem_insertionSort] at budgetMem
  obtain ⟨known, selected⟩ := List.mem_filter.mp budgetMem
  obtain ⟨active, currencyEq⟩ := of_decide_eq_true selected
  obtain ⟨budgetScale, nonneg⟩ := context.budgets budget known active currencyEq
  have sameScale : budget.remainingAmount.scale = required.scale :=
    budgetScale.trans requiredScale.symm
  apply (yields_checkedSubtract sameScale).bind
  intro remaining _
  have enough : required ≤ budget.remainingAmount := by
    rw [FixedDecimal.le_def]
    omega
  simpa [Yields, pure, Except.pure] using enough

end

theorem ReplayContext.yields_planConsistentLedgerWrite
    (context : ReplayContext request.currency wallet state)
    (inner : Yields IsReplayPlan Overflowed (planInnerLedgerWrite request state.ledgerEntries)) :
    Yields (fun plan => ∃ existingEntryId, plan.outcome = .idempotent existingEntryId) IsOverflow
      (planConsistentLedgerWrite request state) := by
  have renamed : Yields IsReplayPlan IsOverflow
      ((planInnerLedgerWrite request state.ledgerEntries).mapError
        ConsistentLedgerWriterError.ledger) :=
    inner.mapError fun _ overflowed => overflowed
  apply renamed.bind
  rintro ledgerPlan ⟨operation, key, existingEntryId, rfl⟩
  apply (yields_of_eq_ok (okOr_eq_ok.mpr context.walletFound)).bind
  rintro wallet rfl
  apply (yields_ensure context.walletCurrency).bind
  intro _ _
  apply yields_zero.bind
  rintro required ⟨requiredZero, requiredScale⟩
  have credited : Yields (fun credit => credit.scale = wallet.availableBalance.scale) IsOverflow
      (refundCreditForPlan (idempotentPlan operation key existingEntryId)
        wallet.availableBalance.scale) := by
    apply yields_zero.bind
    exact fun credit isZero => isZero.2
  apply credited.bind
  intro credit creditScale
  apply (context.yields_balanceWindow requiredScale creditScale).bind
  intro window _
  have walletPassed : (walletCheck wallet.walletId window.availableBeforeWrite
      required).passed = true := by
    simp [walletCheck, FixedDecimal.isZero_iff.mpr requiredZero]
  apply (yields_ensure walletPassed).bind
  intro _ _
  apply (context.yields_budgetChecks requiredZero requiredScale).bind
  intro checks checksPassed
  apply (yields_of_eq_ok (ensureBudgetsPassed_eq_ok.mpr checksPassed)).bind
  intro _ _
  exact ⟨existingEntryId, rfl⟩

end ConsistentWriter

end FuboxApi
