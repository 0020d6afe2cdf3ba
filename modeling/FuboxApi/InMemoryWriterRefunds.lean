import FuboxApi.InMemoryWriterInvariants

/-!
# Refunds never exceed their settle

A full refund pays back what the earlier refunds left, a partial one strictly less. What remains is
computed without the entry of the nil identifier, which no refund has in a run from an empty ledger.
-/

namespace FuboxApi

open LedgerContract ConsistentWriter TransitionRuns

variable {entries : List LedgerEntryRecord}

namespace ConsistentWriter

theorem refundedAmount_entriesAfterUpdates (sourceId : Uuid)
    (request : ConsistentLedgerWriteRequest) (entries : List LedgerEntryRecord) :
    refundedAmount sourceId (entriesAfterUpdates request entries) =
      refundedAmount sourceId entries := by
  cases request with
  | settle scope requestId finalCost currency =>
    simp only [entriesAfterUpdates, reversePendingReserves]
    induction entries with
    | nil => rfl
    | cons entry rest ih =>
      rw [List.map_cons, refundedAmount_cons, refundedAmount_cons, ih]
      by_cases isPending : IsPendingReserveFor requestId entry
      · have notRefund : ¬ IsActiveRefundOf sourceId entry := by
          intro isRefund
          cases isPending.2.1.symm.trans isRefund.2.1
        have reversedNotRefund : ¬ IsActiveRefundOf sourceId (reverseEntry entry) := by
          intro isRefund
          exact LedgerEntryStatus.not_isActive_reversed isRefund.2.2
        simp [isPending, notRefund, reversedNotRefund]
      · simp [isPending]
  | _ => rfl

def RefundsNotNil (entries : List LedgerEntryRecord) : Prop :=
  ∀ entry ∈ entries, entry.entryType = .refund → entry.id ≠ Uuid.nil

variable {sourceId : Uuid}

theorem RefundsNotNil.updates (notNil : RefundsNotNil entries)
    (request : ConsistentLedgerWriteRequest) :
    RefundsNotNil (entriesAfterUpdates request entries) := by
  intro entry entryMem isRefund
  obtain ⟨original, originalMem, rfl | ⟨isReserve, _, rfl⟩⟩ :=
    exists_entry_of_mem_entriesAfterUpdates entryMem
  · exact notNil _ originalMem isRefund
  · cases isReserve.symm.trans isRefund

theorem refundedAmount_filter_ne_nil (notNil : RefundsNotNil entries) : refundedAmount sourceId
        (entries.filter fun entry => entry.id ≠ Uuid.nil) = refundedAmount sourceId entries := by
  unfold refundedAmount
  rw [List.filter_filter]
  congr 2
  apply List.filter_congr
  intro entry entryMem
  by_cases isRefund : IsActiveRefundOf sourceId entry
  · simp [isRefund, notNil entry entryMem isRefund.2.1]
  · simp [isRefund]

theorem refundedAmount_eq_zero (unrelated : ∀ entry ∈ entries, entry.entryType = .refund →
      entry.relatedLedgerEntryId ≠ some sourceId) : refundedAmount sourceId entries = 0 := by
  have noRefunds : (entries.filter fun entry => IsActiveRefundOf sourceId entry) = [] := by
    rw [List.filter_eq_nil_iff]
    intro entry entryMem isRefund
    have refundOf : IsActiveRefundOf sourceId entry := by simpa using isRefund
    exact unrelated entry entryMem refundOf.2.1 refundOf.1
  rw [refundedAmount, noRefunds]
  rfl

end ConsistentWriter

namespace InMemoryConsistentLedgerWriter

/-- What a run from an empty ledger keeps of the refunds. -/
structure RefundInvariant (entries : List LedgerEntryRecord) : Prop where
  related_known : ∀ entry ∈ entries, entry.entryType = .refund →
    ∃ source ∈ entries, entry.relatedLedgerEntryId = some source.id
  not_nil : RefundsNotNil entries
  bounded : ∀ source ∈ entries, source.entryType = .settle → source.status = .confirmed →
      refundedAmount source.id entries ≤ -source.amount.toRat

def RefundsSettle (settleId : Uuid) : ConsistentLedgerWriteRequest → Prop
  | .refundFull _ relatedLedgerEntryId _ => relatedLedgerEntryId = settleId
  | .refundPartial _ relatedLedgerEntryId _ _ _ =>
    relatedLedgerEntryId = settleId
  | _ => False

/-- A confirmed settle whose refunds add up to its debit. -/
def FullyRefunded (settleId : Uuid) (writer : InMemoryConsistentLedgerWriter) : Prop :=
  ∃ settle ∈ writer.state.ledgerEntries, settle.id = settleId ∧
    settle.entryType = .settle ∧ settle.status = .confirmed ∧
      refundedAmount settleId writer.state.ledgerEntries = -settle.amount.toRat

variable {currency : String} {settleId : Uuid}

/-- A write that adds a refund pays back a positive part of what remains of
its source; a full refund pays back all of it. -/
theorem exists_refundSource_of_write {request : ConsistentLedgerWriteRequest}
    {draft : LedgerEntryDraft} {updates : List LedgerStatusUpdate}
    (write : AppliedWrite entries request draft updates) (isRefund : draft.entryType = .refund) :
    ∃ source remaining, RefundSource entries source.id request.currency source remaining ∧
      draft.relatedLedgerEntryId = some source.id ∧
      RefundsSettle source.id request ∧ 0 < draft.amount.toRat ∧
      draft.amount.toRat ≤ remaining.toRat ∧ (draft.amount = remaining ∨
        ∃ scope related operation amount currency,
          request = .refundPartial scope related operation amount currency) := by
  cases write with
  | reserve => cases isRefund
  | settle => cases isRefund
  | adminAdjustment => cases isRefund
  | @refundFull _ _ _ source remaining refundSource positive =>
    obtain ⟨_, rfl⟩ := refundSource.mem
    exact ⟨source, remaining, refundSource, rfl, rfl,
      FixedDecimal.toRat_pos_iff.mpr positive, le_rfl, Or.inl rfl⟩
  | @refundPartial _ _ _ amount _ source remaining refundSource positive amountScale less =>
      obtain ⟨_, rfl⟩ := refundSource.mem
      have amountLess := (FixedDecimal.toRat_lt_iff amountScale.symm).mpr less
      exact ⟨source, remaining, refundSource, rfl, rfl,
        FixedDecimal.toRat_pos_iff.mpr positive, amountLess.le, Or.inr ⟨_, _, _, _, _, rfl⟩⟩

theorem remaining_eq_of_not_nil (notNil : RefundsNotNil entries) {related : Uuid}
    {source : LedgerEntryRecord} {remaining : FixedDecimal}
    (refundSource : RefundSource entries related currency source remaining) :
    remaining.toRat = -source.amount.toRat - refundedAmount source.id entries := by
  obtain ⟨_, remainingEq, _⟩ := remainingRefundableAmountExcluding_eq_ok refundSource.computed
  rw [remainingEq, refundedAmount_filter_ne_nil notNil]

variable {writer after : InMemoryConsistentLedgerWriter} {request : ConsistentLedgerWriteRequest}
  {outcome : ConsistentLedgerCommandExecutionOutcome}

theorem refundedAmount_afterWrite (sourceId : Uuid) (draft : LedgerEntryDraft) (next : Uuid) :
    refundedAmount sourceId (writer.afterWrite request draft next).state.ledgerEntries =
      refundedAmount sourceId writer.state.ledgerEntries + if IsActiveRefundOf sourceId
            (recordOfDraft writer.nextLedgerEntryId draft) then draft.amount.toRat else 0 := by
  rw [afterWrite, refundedAmount_append, refundedAmount_entriesAfterUpdates,
    refundedAmount_cons, refundedAmount_nil, add_zero]
  rfl

theorem settle_mem_of_step {settle : LedgerEntryRecord}
    (stepped : StepResult writer request after outcome)
    (settleMem : settle ∈ writer.state.ledgerEntries) (isSettle : settle.entryType = .settle) :
    settle ∈ after.state.ledgerEntries := by
  have keptByUpdates : settle ∈ entriesAfterUpdates request writer.state.ledgerEntries := by
    cases request with
    | settle scope requestId finalCost currency =>
      apply List.mem_map.mpr
      refine ⟨settle, settleMem, if_neg ?_⟩
      intro isPending
      cases isPending.2.1.symm.trans isSettle
    | _ => exact settleMem
  cases stepped with
  | unchanged => exact settleMem
  | applied => exact List.mem_append_left _ keptByUpdates
  | exhausted => exact keptByUpdates

theorem refundInvariant_nil : RefundInvariant [] := by
  constructor <;> simp [RefundsNotNil]

theorem refundsNotNil_of_step (fresh : FreshIds writer)
    (stepped : StepResult writer request after outcome)
    (notNil : RefundsNotNil writer.state.ledgerEntries) :
    RefundsNotNil after.state.ledgerEntries := by
  cases stepped with
  | unchanged => exact notNil
  | exhausted => exact notNil.updates request
  | @applied plan draft updates next planned advanced =>
    intro entry entryMem isRefund
    rcases List.mem_append.mp entryMem with oldMem | newMem
    · exact notNil.updates request entry oldMem isRefund
    · rw [List.mem_singleton.mp newMem] at isRefund ⊢
      obtain ⟨source, _, refundSource, _⟩ := exists_refundSource_of_write planned.write isRefund
      have sourceBelow := fresh.below source refundSource.mem.1
      intro isNil
      have zero : writer.nextLedgerEntryId.asU128 = 0 := congrArg Uuid.asU128 isNil
      omega

theorem RefundInvariant.updates (invariant : RefundInvariant entries)
    (request : ConsistentLedgerWriteRequest) :
    RefundInvariant (entriesAfterUpdates request entries) := by
  have idsKept := map_entriesAfterUpdates LedgerEntryRecord.id reverseEntry_id request entries
  constructor
  · intro entry entryMem isRefund
    obtain ⟨original, originalMem, rfl | ⟨isReserve, _, rfl⟩⟩ :=
      exists_entry_of_mem_entriesAfterUpdates entryMem
    · obtain ⟨source, sourceMem, relatedEq⟩ :=
        invariant.related_known _ originalMem isRefund
      have idMem : source.id ∈ (entriesAfterUpdates request entries).map LedgerEntryRecord.id := by
        rw [idsKept]
        exact List.mem_map_of_mem sourceMem
      obtain ⟨updated, updatedMem, updatedId⟩ := List.mem_map.mp idMem
      exact ⟨updated, updatedMem, by rw [relatedEq, updatedId]⟩
    · cases isReserve.symm.trans isRefund
  · exact invariant.not_nil.updates request
  · intro source sourceMem isSettle confirmed
    rw [refundedAmount_entriesAfterUpdates]
    have active : source.status.IsActive := Or.inr confirmed
    exact invariant.bounded source
      (mem_of_active_mem_entriesAfterUpdates sourceMem active) isSettle confirmed

theorem RefundInvariant.refundedAmount_next (fresh : FreshIds writer)
    (invariant : RefundInvariant writer.state.ledgerEntries) :
    refundedAmount writer.nextLedgerEntryId writer.state.ledgerEntries = 0 := by
  apply refundedAmount_eq_zero
  intro entry entryMem isRefund relatedEq
  obtain ⟨earlier, earlierMem, earlierEq⟩ := invariant.related_known entry entryMem isRefund
  have sameId : earlier.id = writer.nextLedgerEntryId := by
    simpa using earlierEq.symm.trans relatedEq
  have earlierBelow := fresh.below earlier earlierMem
  rw [sameId] at earlierBelow
  exact lt_irrefl _ earlierBelow

theorem RefundInvariant.step (fresh : FreshIds writer)
    (stepped : StepResult writer request after outcome)
    (invariant : RefundInvariant writer.state.ledgerEntries) :
    RefundInvariant after.state.ledgerEntries := by
  cases stepped with
  | unchanged => exact invariant
  | exhausted => exact invariant.updates request
  | @applied plan draft updates next planned advanced =>
    have updated := invariant.updates request
    constructor
    · intro entry entryMem isRefund
      rcases List.mem_append.mp entryMem with oldMem | newMem
      · obtain ⟨source, sourceMem, relatedEq⟩ :=
          updated.related_known entry oldMem isRefund
        exact ⟨source, List.mem_append_left _ sourceMem, relatedEq⟩
      · rw [List.mem_singleton.mp newMem] at isRefund ⊢
        obtain ⟨source, _, refundSource, relatedEq, _⟩ :=
          exists_refundSource_of_write planned.write isRefund
        refine ⟨source, ?_, relatedEq⟩
        exact settle_mem_of_step (.applied planned advanced) refundSource.mem.1 refundSource.settle
    · exact refundsNotNil_of_step fresh (.applied planned advanced) invariant.not_nil
    · intro source sourceMem isSettle confirmed
      rw [refundedAmount_afterWrite]
      split
      · next isRefund =>
        obtain ⟨refunded, remaining, refundSource, relatedEq, _, _, atMost, _⟩ :=
          exists_refundSource_of_write planned.write isRefund.2.1
        have sameId : refunded.id = source.id := by
          have := relatedEq.symm.trans isRefund.1
          simpa using this
        have remainingEq := remaining_eq_of_not_nil invariant.not_nil refundSource
        have sameSource : refunded = source := by
          apply List.inj_on_of_nodup_map
            (fresh.step (.applied planned advanced)).distinct _ sourceMem sameId
          exact settle_mem_of_step (.applied planned advanced)
            refundSource.mem.1 refundSource.settle
        subst sameSource
        linarith
      · next notRefund =>
        rw [add_zero]
        rcases List.mem_append.mp sourceMem with oldMem | newMem
        · have active : source.status.IsActive := Or.inr confirmed
          exact invariant.bounded source
            (mem_of_active_mem_entriesAfterUpdates oldMem active) isSettle
            confirmed
        · have sourceEq := List.mem_singleton.mp newMem
          have noRefunds : refundedAmount source.id writer.state.ledgerEntries = 0 := by
            rw [sourceEq]
            exact invariant.refundedAmount_next fresh
          have negative : SignMatchesType source := by
            rw [sourceEq]
            exact signMatchesType_recordOfDraft planned.write _
          have debitNegative : source.amount.toRat < 0 := by
            rw [FixedDecimal.toRat_lt_zero_iff]
            simpa [SignMatchesType, isSettle] using negative
          linarith

section

variable (fresh : FreshIds writer) (notNil : RefundsNotNil writer.state.ledgerEntries)
  (full : FullyRefunded settleId writer) (stepped : StepResult writer request after outcome)

include fresh notNil full stepped

theorem not_applied_of_fullyRefunded (refunds : RefundsSettle settleId request) :
    outcome ≠ .applied := by
  obtain ⟨settle, settleMem, idEq, isSettle, confirmed, sum⟩ := full
  cases stepped with
  | unchanged notApplied => exact notApplied
  | exhausted => simp
  | @applied plan draft updates next planned advanced =>
    have isRefund : draft.entryType = .refund := by
      cases planned.write with
      | refundFull => rfl
      | refundPartial => rfl
      | reserve => cases refunds
      | settle => cases refunds
      | adminAdjustment => cases refunds
    obtain ⟨source, remaining, refundSource, _, refundsSource, positive, atMost,
      _⟩ := exists_refundSource_of_write planned.write isRefund
    have sourceId : source.id = settle.id := by
      cases request with
      | refundFull | refundPartial => exact refundsSource.symm.trans (refunds.trans idEq.symm)
      | _ => cases refunds
    have sameSource : source = settle :=
      List.inj_on_of_nodup_map fresh.distinct refundSource.mem.1 settleMem sourceId
    have remainingEq := remaining_eq_of_not_nil notNil refundSource
    rw [sameSource, idEq, sum] at remainingEq
    linarith

theorem FullyRefunded.step : FullyRefunded settleId after := by
  obtain ⟨settle, settleMem, idEq, isSettle, confirmed, sum⟩ := id full
  refine ⟨settle, settle_mem_of_step stepped settleMem isSettle, idEq, isSettle, confirmed, ?_⟩
  have notApplied := not_applied_of_fullyRefunded fresh notNil full stepped
  cases stepped with
  | unchanged => exact sum
  | exhausted =>
    rw [withEntries, refundedAmount_entriesAfterUpdates]
    exact sum
  | @applied plan draft updates next planned advanced =>
    rw [refundedAmount_afterWrite, if_neg, add_zero]
    · exact sum
    · intro isRefund
      obtain ⟨source, _, _, relatedEq, refunds, _⟩ :=
        exists_refundSource_of_write planned.write isRefund.2.1
      have sourceId : source.id = settleId := by
        simpa using relatedEq.symm.trans isRefund.1
      rw [sourceId] at refunds
      exact notApplied refunds rfl

end

theorem fullyRefunded_of_applied {scope : ConsistentLedgerScope}
    (notNil : RefundsNotNil writer.state.ledgerEntries)
    (stepped : StepResult writer (.refundFull scope settleId currency) after .applied) :
    FullyRefunded settleId after := by
  have stillThere : ∀ {settle : LedgerEntryRecord},
      settle ∈ writer.state.ledgerEntries → settle.entryType = .settle →
        settle ∈ after.state.ledgerEntries := settle_mem_of_step stepped
  cases stepped with
  | unchanged notApplied => exact (notApplied rfl).elim
  | @applied plan draft updates next planned advanced =>
    cases planned.write with
    | @refundFull _ _ _ source remaining refundSource positive =>
      obtain ⟨sourceMem, sourceId⟩ := refundSource.mem
      have remainingEq := remaining_eq_of_not_nil notNil refundSource
      refine ⟨source, stillThere sourceMem refundSource.settle, sourceId,
        refundSource.settle, refundSource.confirmed, ?_⟩
      have isRefund : IsActiveRefundOf settleId
          (recordOfDraft writer.nextLedgerEntryId (refundDraft source
            ⟨settleId, none, currency, .full, .refund,
              refundLedgerIdempotencyKey settleId⟩ remaining)) :=
        ⟨congrArg some sourceId, rfl, LedgerEntryStatus.isActive_confirmed⟩
      rw [refundedAmount_afterWrite, if_pos isRefund]
      rw [sourceId] at remainingEq
      simp only [refundDraft]
      linarith

/-- Along every run from an empty ledger the refunds of a confirmed settle stay
within its debit; an applied full refund brings them up to the debit, where
they stay, and no later refund of that settle is applied. -/
theorem refunds_bounded_of_run (wallet : Option ConsistentWalletSnapshot)
    (creditGrants : List ConsistentCreditGrantSnapshot) (budgets : List ConsistentBudgetSnapshot)
    (nextLedgerEntryId : Uuid) (requests : List ConsistentLedgerWriteRequest) :
    let reached := stateAfter executeConsistentLedgerWrite
      (overEmptyLedger wallet creditGrants budgets nextLedgerEntryId) requests
    (∀ settle ∈ reached.state.ledgerEntries, settle.entryType = .settle →
      settle.status = .confirmed → refundedAmount settle.id reached.state.ledgerEntries ≤
          -settle.amount.toRat) ∧
    ∀ scope settleId currency, (reached.executeConsistentLedgerWrite
          (.refundFull scope settleId currency)).2.outcome = .applied →
        ∀ later,
          let afterwards := stateAfter executeConsistentLedgerWrite
            (reached.executeConsistentLedgerWrite (.refundFull scope settleId currency)).1 later
          FullyRefunded settleId afterwards ∧ ∀ request, RefundsSettle settleId request →
              (afterwards.executeConsistentLedgerWrite request).2.outcome ≠ .applied := by
  intro reached
  obtain ⟨fresh, invariant⟩ := run_invariant
    (fun writer => RefundInvariant writer.state.ledgerEntries)
    RefundInvariant.step (freshIds_overEmptyLedger wallet creditGrants budgets
      nextLedgerEntryId) refundInvariant_nil requests
  refine ⟨invariant.bounded, ?_⟩
  intro scope settleId currency applied later afterwards
  have stepped := stepResult_execute reached (.refundFull scope settleId currency) fresh.distinct
  rw [applied] at stepped
  obtain ⟨laterFresh, laterNotNil, full⟩ := run_invariant
    (fun writer => RefundsNotNil writer.state.ledgerEntries ∧ FullyRefunded settleId writer)
    (fun currentFresh stepped kept => ⟨refundsNotNil_of_step currentFresh stepped kept.1,
        kept.2.step currentFresh kept.1 stepped⟩)
    (fresh.step stepped)
    ⟨refundsNotNil_of_step fresh stepped invariant.not_nil,
      fullyRefunded_of_applied invariant.not_nil stepped⟩
    later
  refine ⟨full, ?_⟩
  intro request refunds
  exact not_applied_of_fullyRefunded laterFresh laterNotNil full
    (stepResult_execute afterwards request laterFresh.distinct) refunds

end InMemoryConsistentLedgerWriter

end FuboxApi
