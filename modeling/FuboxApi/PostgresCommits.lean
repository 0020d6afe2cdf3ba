import FuboxApi.PostgresConcurrency
import Mathlib.Tactic.Ring

/-!
# What a committed plan does to the balances

Between its snapshot and its transaction the rows that a plan read can only have changed their
status, so its updates freed exactly the amounts that it had read.
-/

namespace FuboxApi

open CheckedFold LedgerContract ConsistentWriter PostgresExecution
open WriterSnapshot LedgerDatabase

theorem moneyColumn_assign_eq_some {amount : FixedDecimal}
    (scaleEq : amount.scale = defaultMoneyScale) {stored : ℚ}
    (assigned : moneyColumn.assign amount.toRat = some stored) : stored = amount.toRat := by
  have amountEq : amount.toRat = (amount.units.value : ℚ) / 10 ^ moneyColumn.scale := by
    rw [FixedDecimal.toRat, scaleEq]
    rfl
  rw [amountEq, NumericColumn.assign_intCast_div] at assigned
  split at assigned
  · cases assigned
    exact amountEq.symm
  · cases assigned

namespace ConsistentWriter

variable {entries : List LedgerEntryRecord} {request : ConsistentLedgerWriteRequest}
  {draft : LedgerEntryDraft} {updates : List LedgerStatusUpdate}
  (write : AppliedWrite entries request draft updates)

include write

theorem AppliedWrite.settle_negative (isSettle : draft.entryType = .settle) :
    draft.amount.toRat < 0 := by
  cases write with
  | @settle _ _ _ debit _ positive _ debitUnits =>
    rw [FixedDecimal.toRat_lt_zero_iff]
    exact debitUnits ▸ neg_neg_of_pos positive
  | _ => cases isSettle

theorem AppliedWrite.refund_related (isRefund : draft.entryType = .refund) :
    ∃ source ∈ entries, draft.relatedLedgerEntryId = some source.id := by
  cases write with
  | refundFull refundSource | refundPartial refundSource => exact ⟨_, refundSource.mem.1, rfl⟩
  | _ => cases isRefund

end ConsistentWriter

namespace PostgresWriters

/-- A plan that was made when the ledger held earlier rows, which may have
changed their status since. -/
def PlannedFrom (now : Int) (database : LedgerDatabase) (plan : ConsistentLedgerWriterPlan) :
    Prop :=
  ∃ walletId requestId relatedLedgerEntryId request state earlier,
    earlier.map eraseStatus ⊆ database.ledgerEntries.map eraseStatus ∧
      writerStateSnapshot now walletId request.scope request.currency requestId
        relatedLedgerEntryId request.idempotencyKey
        { database with ledgerEntries := earlier } = .ok state ∧
      planConsistentLedgerWrite request state = .ok plan

def newRow (now : Int) (newId : Uuid) (plan : ConsistentLedgerWriterPlan)
    (draft : LedgerEntryDraft) : LedgerEntryRow :=
  rowOfDraft (sqlContext now newId) plan draft draft.amount.toRat

/-- The rows that a plan releases belong to the wallet that it was checked against. -/
def ReleasesOwn (plan : ConsistentLedgerWriterPlan) (database : LedgerDatabase) : Prop :=
  ∀ update ∈ plan.ledgerPlan.statusUpdates, ∀ row ∈ database.ledgerEntries,
    row.tenantId = plan.scope.tenantId → row.id = update.ledgerEntryId →
      row.walletId = some plan.walletCheck.walletId

/-- Everything that a committed plan did. -/
structure CommittedWrite (now : Int) (newId : Uuid) (plan : ConsistentLedgerWriterPlan)
    (draft : LedgerEntryDraft) (before after : LedgerDatabase) : Prop where
  single : plan.ledgerPlan.entries = [draft]
  keyFree : ∀ row ∈ before.ledgerEntries, row.tenantId = plan.scope.tenantId →
    row.idempotencyKey ≠ plan.idempotencyKey
  idFresh : newId ∉ before.ledgerEntries.map LedgerEntryRow.id
  frame : StatusesOnly { before with
    ledgerEntries := before.ledgerEntries ++ [newRow now newId plan draft] } after
  refundKnown : draft.entryType = .refund → ∃ related ∈ before.ledgerEntries.map LedgerEntryRow.id,
      draft.relatedLedgerEntryId = some related
  active : draft.status.IsActive
  settleNegative : draft.entryType = .settle → draft.amount.toRat < 0
  requiredNonneg : 0 ≤ plan.balanceWindow.requiredDebit.toRat
  ownWallet : ReleasesOwn plan before → ∀ wallet ∈ before.wallets,
    wallet.id = plan.walletCheck.walletId →
    ∃ change, walletBalance now wallet after = walletBalance now wallet before + change ∧
      (0 < plan.balanceWindow.requiredDebit.toRat →
        change = -plan.balanceWindow.requiredDebit.toRat) ∧
      -plan.balanceWindow.requiredDebit.toRat ≤ change
  otherWallet : ReleasesOwn plan before → ∀ wallet, wallet.id ≠ plan.walletCheck.walletId →
    walletBalance now wallet after = walletBalance now wallet before
  refunded : ∀ settle, refundedTotal settle after = refundedTotal settle before +
      refundedBy settle (newRow now newId plan draft)

variable {earlier rows : List LedgerEntryRow} {old row : LedgerEntryRow}

section

variable (kept : earlier.map eraseStatus ⊆ rows.map eraseStatus) (oldMem : old ∈ earlier)

include kept oldMem

theorem exists_current :
    ∃ current ∈ rows, current.id = old.id ∧ eraseStatus current = eraseStatus old := by
  obtain ⟨current, currentMem, currentEq⟩ := List.mem_map.mp (kept (List.mem_map_of_mem oldMem))
  have currentId : (eraseStatus current).id = (eraseStatus old).id := by rw [currentEq]
  exact ⟨current, currentMem, currentId, currentEq⟩

theorem id_mem_of_kept : old.id ∈ rows.map LedgerEntryRow.id := by
  obtain ⟨current, currentMem, currentId, _⟩ := exists_current kept oldMem
  exact List.mem_map.mpr ⟨current, currentMem, currentId⟩

theorem eraseStatus_eq_of_id (distinct : (rows.map LedgerEntryRow.id).Nodup) (rowMem : row ∈ rows)
    (idEq : row.id = old.id) : eraseStatus row = eraseStatus old := by
  obtain ⟨current, currentMem, currentId, currentEq⟩ := exists_current kept oldMem
  have same := List.inj_on_of_nodup_map distinct currentMem rowMem (currentId.trans idEq.symm)
  exact same ▸ currentEq

end

theorem ledgerAmount_reversed {wallet : WalletRow} (pending : row.status = .pending) :
    ledgerAmount wallet { row with status := .reversed } = ledgerAmount wallet row +
        if row.tenantId = wallet.tenantId ∧ row.walletId = some wallet.id ∧
          row.currency = wallet.currency then -row.amount else 0 := by
  simp only [ledgerAmount, pending, LedgerEntryStatus.not_isActive_reversed,
    LedgerEntryStatus.isActive_pending, and_false, and_true, if_false]
  split <;> ring

theorem refundedBy_reversed {settle : LedgerEntryRow} (notRefund : row.entryType ≠ .refund) :
    refundedBy settle { row with status := .reversed } = refundedBy settle row + 0 := by
  simp [refundedBy, notRefund]

variable {now : Int} {newId : Uuid} {plan : ConsistentLedgerWriterPlan} {database : LedgerDatabase}
  {reserves : List LedgerEntryRecord}

theorem committed_statements {draft : LedgerEntryDraft} (applies : plan.outcome = .apply)
    (single : plan.ledgerPlan.entries = [draft])
    (updatesEq : plan.ledgerPlan.statusUpdates = reserves.map reserveSettledUpdate)
    (scaleEq : draft.amount.scale = defaultMoneyScale)
    (committed : (transaction now newId plan database).2.committed = true) :
    (∀ row ∈ database.ledgerEntries, row.tenantId = plan.scope.tenantId →
        row.idempotencyKey ≠ plan.idempotencyKey) ∧
      newId ∉ database.ledgerEntries.map LedgerEntryRow.id ∧ (statusUpdateCommands reserves).foldlM
          (applyCommand (sqlContext now newId) plan) { database with ledgerEntries :=
            database.ledgerEntries ++ [newRow now newId plan draft] } =
        .ok (transaction now newId plan database).1 := by
  have folded := foldlM_mutatingStatements_of_committed committed
  rw [foldlM_mutatingStatements applies, single, updatesEq] at folded
  obtain ⟨inserted, insertion, updated⟩ := bind_eq_ok.mp folded
  obtain ⟨amount, stored, keyFree, idFresh, rfl⟩ := (applyCommand_insert_eq_ok single).mp insertion
  rw [moneyColumn_assign_eq_some scaleEq stored] at updated
  exact ⟨keyFree, idFresh, updated⟩

/-- The rows that the status updates of a committed plan can match. -/
structure ReserveRow (tenantId : Uuid) (currency : String) (reserve : LedgerEntryRecord)
    (row : LedgerEntryRow) : Prop where
  tenantId : row.tenantId = tenantId
  entryType : row.entryType = .reserve
  currency : row.currency = currency
  amount : row.amount = reserve.amount.toRat

theorem reserveRow_of_id {tenantId : Uuid} {currency : String}
    {reserve : LedgerEntryRecord} (kept : earlier.map eraseStatus ⊆ rows.map eraseStatus)
    (distinct : (rows.map LedgerEntryRow.id).Nodup)
    (read : ∃ old ∈ earlier, HoldsEntry tenantId old reserve)
    (isReserve : reserve.entryType = .reserve) (currencyEq : reserve.currency = currency)
    (rowMem : row ∈ rows) (idEq : row.id = reserve.id) :
    ReserveRow tenantId currency reserve row := by
  obtain ⟨old, oldMem, holds⟩ := read
  have same := eraseStatus_eq_of_id kept oldMem distinct rowMem (idEq.trans holds.id.symm)
  simp only [eraseStatus, LedgerEntryRow.mk.injEq] at same
  obtain ⟨_, sameTenant, _, _, _, _, _, sameType, sameAmount, sameCurrency, _, _⟩ := same
  have oldType : old.entryType = .reserve := by
    rw [holds.entryType, isReserve]
    rfl
  exact ⟨sameTenant.trans holds.tenantId, sameType.trans oldType,
    (sameCurrency.trans holds.currency).trans currencyEq, sameAmount.trans holds.amount⟩

theorem walletBalance_of_statusUpdates (now : Int) {context : SqlContext} {after : LedgerDatabase}
    (wallet : WalletRow) (difference : LedgerEntryRecord → ℚ)
    (changes : ∀ reserve ∈ reserves, ∀ other ∈ database.ledgerEntries ++ [row],
      other.tenantId = plan.scope.tenantId → other.id = reserve.id → other.status = .pending →
        ledgerAmount wallet { other with status := .reversed } =
          ledgerAmount wallet other + difference reserve)
    (updated : (statusUpdateCommands reserves).foldlM (applyCommand context plan)
      { database with ledgerEntries := database.ledgerEntries ++ [row] } = .ok after) :
    walletBalance now wallet after = walletBalance now wallet database +
      (ledgerAmount wallet row + (reserves.map difference).sum) := by
  have sum := sum_of_statusUpdates (ledgerAmount wallet) difference changes updated
  have grants := (statusesOnly_of_statusUpdates updated).creditGrants
  simp only [List.map_append, List.map_singleton, List.sum_append, List.sum_singleton] at sum
  rw [walletBalance, walletBalance, grants, sum]
  ring

section

variable {tenantId walletId : Uuid} {currency : String}

/-- The new row is none of those that the plan has read. -/
theorem reserveRows_of_read
    (kept : earlier.map eraseStatus ⊆ database.ledgerEntries.map eraseStatus)
    (distinct : (database.ledgerEntries.map LedgerEntryRow.id).Nodup)
    (idFresh : row.id ∉ database.ledgerEntries.map LedgerEntryRow.id) (read : ∀ reserve ∈ reserves,
      (∃ old ∈ earlier, HoldsEntry tenantId old reserve) ∧
        reserve.entryType = .reserve ∧ reserve.currency = currency) :
    ∀ reserve ∈ reserves, ∀ other ∈ database.ledgerEntries ++ [row], other.id = reserve.id →
      other ∈ database.ledgerEntries ∧ ReserveRow tenantId currency reserve other := by
  intro reserve reserveMem other otherMem idEq
  obtain ⟨wasRead, isReserve, currencyEq⟩ := read reserve reserveMem
  obtain ⟨old, oldMem, holds⟩ := wasRead
  have inTable : other ∈ database.ledgerEntries := by
    rcases List.mem_append.mp otherMem with inTable | isNew
    · exact inTable
    · obtain rfl := List.mem_singleton.mp isNew
      exact absurd (idEq.trans holds.id.symm ▸ id_mem_of_kept kept oldMem) idFresh
  exact ⟨inTable, reserveRow_of_id kept distinct ⟨old, oldMem, holds⟩ isReserve currencyEq inTable
    idEq⟩

variable {context : SqlContext} {after : LedgerDatabase}
  (reserveRows : ∀ reserve ∈ reserves, ∀ other ∈ database.ledgerEntries ++ [row],
    other.id = reserve.id →
      other ∈ database.ledgerEntries ∧ ReserveRow tenantId currency reserve other)
  (updated : (statusUpdateCommands reserves).foldlM (applyCommand context plan)
    { database with ledgerEntries := database.ledgerEntries ++ [row] } = .ok after)

include reserveRows updated

section

variable (own : ∀ reserve ∈ reserves, ∀ other ∈ database.ledgerEntries, other.tenantId = tenantId →
    other.id = reserve.id → other.walletId = some walletId)

include own

variable {wallet : WalletRow}

theorem walletBalance_of_ownReserves (sameTenant : tenantId = wallet.tenantId)
    (sameWallet : walletId = wallet.id) (sameCurrency : currency = wallet.currency) :
    walletBalance now wallet after = walletBalance now wallet database +
      (ledgerAmount wallet row + (reserves.map fun reserve => -reserve.amount.toRat).sum) := by
  apply walletBalance_of_statusUpdates now wallet _ _ updated
  intro reserve reserveMem other otherMem _ idEq pending
  obtain ⟨inTable, facts⟩ := reserveRows reserve reserveMem other otherMem idEq
  have ofWallet := own reserve reserveMem other inTable facts.tenantId idEq
  rw [ledgerAmount_reversed pending, if_pos ⟨facts.tenantId.trans sameTenant,
    ofWallet.trans (congrArg some sameWallet), facts.currency.trans sameCurrency⟩, facts.amount]

theorem walletBalance_of_otherReserves (differs : walletId ≠ wallet.id) :
    walletBalance now wallet after =
      walletBalance now wallet database + ledgerAmount wallet row := by
  have unchanged := walletBalance_of_statusUpdates now wallet (fun _ => 0)
    (fun reserve reserveMem other otherMem _ idEq pending => by
      obtain ⟨inTable, facts⟩ := reserveRows reserve reserveMem other otherMem idEq
      have ofWallet := own reserve reserveMem other inTable facts.tenantId idEq
      rw [ledgerAmount_reversed pending, if_neg]
      rintro ⟨_, walletEq, _⟩
      exact differs (Option.some.inj (ofWallet.symm.trans walletEq))) updated
  simpa using unchanged

end

theorem refundedTotal_of_reserves (settle : LedgerEntryRow) :
    refundedTotal settle after = refundedTotal settle database + refundedBy settle row := by
  have sum := sum_of_statusUpdates (refundedBy settle) (fun _ => 0)
    (fun reserve reserveMem other otherMem _ idEq _ => by
      have facts := (reserveRows reserve reserveMem other otherMem idEq).2
      exact refundedBy_reversed (by simp [facts.entryType])) updated
  rw [refundedTotal, sum, refundedTotal]
  simp

end

theorem committedWrite_of_committed
    (distinct : (database.ledgerEntries.map LedgerEntryRow.id).Nodup)
    (walletsDistinct : (database.wallets.map WalletRow.id).Nodup)
    (planned : PlannedFrom now database plan) (applies : plan.outcome = .apply)
    (committed : (transaction now newId plan database).2.committed = true) :
    ∃ draft, CommittedWrite now newId plan draft database
      (transaction now newId plan database).1 := by
  obtain ⟨walletId, requestId, related, request, state, earlier, kept, read, planEq⟩ := planned
  obtain ⟨draft, updates, write⟩ := exists_writePlanned planEq applies
  obtain ⟨wallet, required, _, facts⟩ := planConsistentLedgerWrite_eq_ok planEq
  obtain ⟨⟨walletRow, walletMem, walletRowId, walletTenant, available,
    availableScale, stateWallet⟩, entriesRead⟩ := writerStateSnapshot_eq_ok read
  cases stateWallet.symm.trans facts.walletFound
  obtain ⟨draftScale, requiredNonneg, takesExactly, takesAtMost⟩ := write.required_debit facts
  obtain ⟨reserves, rfl, released, reserveFacts⟩ := write.write.updates_eq
  have single : plan.ledgerPlan.entries = [draft] := by
    rw [write.ledgerPlan]; rfl
  have updatesEq : plan.ledgerPlan.statusUpdates = reserves.map reserveSettledUpdate := by
    rw [write.ledgerPlan]; rfl
  obtain ⟨keyFree, idFresh, updated⟩ := committed_statements applies single updatesEq
    (draftScale.trans availableScale) committed
  have windowRequired : plan.balanceWindow.requiredDebit = required :=
    (balanceWindow_eq_ok facts.window).2.2.2.2.1
  have planWallet : plan.walletCheck.walletId = walletId := by
    rw [facts.walletChecked]
    rfl
  have reserveRows : ∀ reserve ∈ reserves, ∀ row ∈ database.ledgerEntries ++
      [newRow now newId plan draft], row.id = reserve.id → row ∈ database.ledgerEntries ∧
        ReserveRow request.scope.tenantId request.currency reserve row :=
    reserveRows_of_read kept distinct idFresh fun reserve reserveMem =>
      ⟨entriesRead reserve (reserveFacts reserve reserveMem).1, (reserveFacts reserve reserveMem).2⟩
  have ofWallet (own : ReleasesOwn plan database) : ∀ reserve ∈ reserves,
      ∀ row ∈ database.ledgerEntries, row.tenantId = request.scope.tenantId →
        row.id = reserve.id → row.walletId = some walletId := by
    intro reserve reserveMem row rowMem tenantEq idEq
    rw [ReleasesOwn, updatesEq, facts.scope, planWallet] at own
    exact own (reserveSettledUpdate reserve) (List.mem_map_of_mem reserveMem) row rowMem tenantEq
      idEq
  refine ⟨draft, single, keyFree, idFresh, statusesOnly_of_statusUpdates updated,
    ?_, write.write.draft_active, write.write.settle_negative,
    windowRequired ▸ requiredNonneg, ?_, ?_, refundedTotal_of_reserves reserveRows updated⟩
  · intro isRefund
    obtain ⟨source, sourceMem, relatedEq⟩ := write.write.refund_related isRefund
    obtain ⟨old, oldMem, holds⟩ := entriesRead source sourceMem
    exact ⟨old.id, id_mem_of_kept kept oldMem, by rw [relatedEq, holds.id]⟩
  · intro own wallet otherMem walletEq
    have sameWallet : wallet = walletRow :=
      List.inj_on_of_nodup_map walletsDistinct otherMem walletMem
        ((walletEq.trans planWallet).trans walletRowId.symm)
    subst sameWallet
    have ownRow : ledgerAmount wallet (newRow now newId plan draft) = draft.amount.toRat := by
      apply if_pos
      exact ⟨(congrArg _ facts.scope).trans walletTenant.symm, congrArg some walletEq.symm,
        write.write.draft_currency.trans facts.walletCurrency.symm, write.write.draft_active⟩
    refine ⟨_, walletBalance_of_ownReserves reserveRows updated (ofWallet own)
      walletTenant.symm walletRowId.symm facts.walletCurrency.symm, ?_⟩
    rw [ownRow, ← released, windowRequired]
    exact ⟨takesExactly, takesAtMost⟩
  · intro own wallet differs
    have otherRow : ledgerAmount wallet (newRow now newId plan draft) = 0 := by
      apply if_neg
      rintro ⟨_, walletEq, _⟩
      exact differs (Option.some.inj walletEq).symm
    rw [walletBalance_of_otherReserves reserveRows updated (ofWallet own)
      (fun same => differs (same.symm.trans planWallet.symm)), otherRow, add_zero]

end PostgresWriters

end FuboxApi
