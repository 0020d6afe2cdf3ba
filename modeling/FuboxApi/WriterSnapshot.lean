import FuboxApi.ControlPlaneTables
import FuboxApi.PostgresExecutionSpec

/-!
# Reading a writer state from the tables

The control plane parses the amounts of the rows in the default scale and takes the wallet's
`balance_floor` for its available balance. Of the ledger it reads the rows of the request, the
related entry with what refers to it, and the row under the key of the operation, whatever wallet
they belong to.
-/

namespace FuboxApi.WriterSnapshot

open CheckedFold

open PostgresExecution

def creditGrantSnapshotFromRow (row : CreditGrantRow) :
    AdminResult ConsistentCreditGrantSnapshot := do
  let remainingAmount ← parseBillingFixedDecimal row.remainingAmount
  return {
    grantId := row.id
    currency := row.currency
    remainingAmount := remainingAmount
    active := true }

def budgetSnapshotFromRow (row : BudgetRow) : AdminResult ConsistentBudgetSnapshot := do
  let remainingAmount ← parseBillingFixedDecimal row.limitAmount
  return {
    budgetId := row.id
    dimension := row.scope
    currency := row.currency
    remainingAmount := remainingAmount
    active := true }

def billingLedgerEntryTypeFromDb : LedgerRowType → AdminResult LedgerEntryType
  | .reserve => .ok .reserve
  | .settle => .ok .settle
  | .refund => .ok .refund
  | .adjust => .ok .adjust
  | .expire | .creditGrant | .creditExpire =>
    .error (.badRequest "ledger entry type is unsupported")

def billingLedgerEntryRecordFromRow (row : LedgerEntryRow) : AdminResult LedgerEntryRecord := do
  let entryType ← billingLedgerEntryTypeFromDb row.entryType
  let amount ← parseBillingFixedDecimal row.amount
  return {
    id := row.id
    requestId := row.requestId
    relatedLedgerEntryId := row.relatedLedgerEntryId
    entryType := entryType
    amount := amount
    currency := row.currency
    status := row.status
    idempotencyKey := row.idempotencyKey }

def ledgerRowsOfOperation (tenantId : Uuid) (requestId relatedLedgerEntryId : Option Uuid)
    (operationKey : String) (rows : List LedgerEntryRow) : List LedgerEntryRow :=
  rows.filter fun row => row.tenantId = tenantId ∧ (requestId.isSome ∧ row.requestId = requestId ∨
      relatedLedgerEntryId = some row.id ∨
      relatedLedgerEntryId.isSome ∧ row.relatedLedgerEntryId = relatedLedgerEntryId ∨
      row.idempotencyKey = operationKey)

def writerStateSnapshot (now : Int) (walletId : Uuid) (scope : ConsistentLedgerScope)
    (currency : String) (requestId relatedLedgerEntryId : Option Uuid) (operationKey : String)
    (database : LedgerDatabase) : AdminResult ConsistentLedgerWriterState := do
  let wallet ← okOr (.notFound "wallet") (database.wallets.find? fun wallet =>
    wallet.tenantId = scope.tenantId ∧ wallet.id = walletId ∧
      (wallet.status = .active ∨ wallet.status = .suspended))
  let availableBalance ← parseBillingFixedDecimal wallet.balanceFloor
  let creditGrants ← (grantsOfWallet now scope.tenantId walletId currency
    database.creditGrants).mapM creditGrantSnapshotFromRow
  let budgets ← (budgetsInScope scope.tenantId scope.projectId
    scope.virtualKeyId currency database.budgets).mapM budgetSnapshotFromRow
  let ledgerEntries ← (ledgerRowsOfOperation scope.tenantId requestId relatedLedgerEntryId
    operationKey database.ledgerEntries).mapM billingLedgerEntryRecordFromRow
  return {
    wallet := some ⟨wallet.id, wallet.currency, availableBalance⟩
    creditGrants := creditGrants
    budgets := budgets
    ledgerEntries := ledgerEntries }

theorem billingLedgerEntryTypeFromDb_eq_ok {rowType : LedgerRowType} {entryType : LedgerEntryType}
    (read : billingLedgerEntryTypeFromDb rowType = .ok entryType) :
    rowType = LedgerRow.rowType entryType := by
  cases rowType <;> cases read <;> rfl

theorem billingLedgerEntryRecordFromRow_eq_ok {row : LedgerEntryRow} {entry : LedgerEntryRecord}
    (read : billingLedgerEntryRecordFromRow row = .ok entry) :
    HoldsEntry row.tenantId row entry := by
  obtain ⟨entryType, typeRead, read⟩ := bind_eq_ok.mp read
  obtain ⟨amount, amountRead, read⟩ := bind_eq_ok.mp read
  cases read
  exact ⟨rfl, rfl, rfl, rfl, billingLedgerEntryTypeFromDb_eq_ok typeRead,
    (parseBillingFixedDecimal_eq_ok amountRead).2.symm, rfl, rfl, rfl⟩

/-- A snapshot has the wallet with its balance in the default scale, and every
ledger entry is held by a row. -/
theorem writerStateSnapshot_eq_ok {now : Int} {walletId : Uuid} {scope : ConsistentLedgerScope}
    {currency operationKey : String} {requestId relatedLedgerEntryId : Option Uuid}
    {database : LedgerDatabase} {state : ConsistentLedgerWriterState}
    (read : writerStateSnapshot now walletId scope currency requestId relatedLedgerEntryId
      operationKey database = .ok state) :
    (∃ wallet ∈ database.wallets, wallet.id = walletId ∧ wallet.tenantId = scope.tenantId ∧
      ∃ availableBalance, availableBalance.scale = defaultMoneyScale ∧
        state.wallet = some ⟨walletId, wallet.currency, availableBalance⟩) ∧
      ∀ entry ∈ state.ledgerEntries, ∃ row ∈ database.ledgerEntries,
        HoldsEntry scope.tenantId row entry := by
  obtain ⟨wallet, found, read⟩ := bind_eq_ok.mp read
  obtain ⟨availableBalance, balanceRead, read⟩ := bind_eq_ok.mp read
  obtain ⟨_, _, read⟩ := bind_eq_ok.mp read
  obtain ⟨_, _, read⟩ := bind_eq_ok.mp read
  obtain ⟨entries, entriesRead, read⟩ := bind_eq_ok.mp read
  cases read
  have walletFound := okOr_eq_ok.mp found
  have selected := List.find?_some walletFound
  simp only [decide_eq_true_eq] at selected
  refine ⟨⟨wallet, List.mem_of_find?_eq_some walletFound, selected.2.1,
    selected.1, availableBalance, (parseBillingFixedDecimal_eq_ok balanceRead).1,
    by rw [selected.2.1]⟩, ?_⟩
  intro entry entryMem
  obtain ⟨row, rowMem, rowRead⟩ := exists_item_of_mapM entriesRead entryMem
  obtain ⟨inTable, selected⟩ := List.mem_filter.mp rowMem
  simp only [decide_eq_true_eq] at selected
  exact ⟨row, inTable, selected.1 ▸ billingLedgerEntryRecordFromRow_eq_ok rowRead⟩

end FuboxApi.WriterSnapshot
