import FuboxApi.ConsistentWriterSpec
import FuboxApi.KeyedRows
import FuboxApi.TransitionRuns
import FuboxApi.WriterSnapshot

/-!
# Concurrent writers over Postgres

Writers read a snapshot, plan against it, and run the plan later as one transaction. The balance
assertion compares two values that were bound when it was planned, so a plan also commits when the
ledger has moved on.
-/

namespace FuboxApi

open CheckedFold LedgerContract ConsistentWriter PostgresExecution
open WriterSnapshot TransitionRuns

/-- The tables and the plans that wait for their transaction. -/
structure PostgresWriters where
  database : LedgerDatabase
  planned : List ConsistentLedgerWriterPlan

/-- One writer plans a request for a wallet from the rows of a request and of a related entry, or a
planned writer runs its transaction, which takes the given identifier for its new row. -/
inductive WriterAction where
  | plan (walletId : Uuid) (requestId relatedLedgerEntryId : Option Uuid)
      (request : ConsistentLedgerWriteRequest)
  | execute (index : Nat) (newId : Uuid)

namespace PostgresWriters

/-- The surroundings of a transaction at a time. -/
def sqlContext (now : Int) (newId : Uuid) : SqlContext where
  now := now
  newId := newId
  amountColumn := moneyColumn.assign

def planFromSnapshot (now : Int) (walletId : Uuid) (requestId relatedLedgerEntryId : Option Uuid)
    (request : ConsistentLedgerWriteRequest) (database : LedgerDatabase) :
    Option ConsistentLedgerWriterPlan :=
  match writerStateSnapshot now walletId request.scope request.currency requestId
      relatedLedgerEntryId request.idempotencyKey database with
  | .error _ => none
  | .ok state => (planConsistentLedgerWrite request state).toOption

def transaction (now : Int) (newId : Uuid) (plan : ConsistentLedgerWriterPlan)
    (database : LedgerDatabase) : LedgerDatabase × ConsistentLedgerPostgresExecutorResult :=
  runPostgresPlan (sqlContext now newId) plan (executionPlan plan) database

/-- One step of the writers, with the result of a transaction. -/
def step (now : Int) (writers : PostgresWriters) : WriterAction →
      PostgresWriters × Option ConsistentLedgerPostgresExecutorResult
  | .plan walletId requestId relatedLedgerEntryId request =>
    match planFromSnapshot now walletId requestId relatedLedgerEntryId request writers.database with
    | none => (writers, none)
    | some plan =>
      ({ writers with planned := writers.planned ++ [plan] }, none)
  | .execute index newId =>
    match writers.planned[index]? with
    | none => (writers, none)
    | some plan =>
      let (database, result) := transaction now newId plan writers.database
      (⟨database, writers.planned.eraseIdx index⟩, some result)

end PostgresWriters

namespace LedgerDatabase

/-- What a row adds to the balance of a wallet. -/
def ledgerAmount (wallet : WalletRow) (row : LedgerEntryRow) : ℚ :=
  if row.tenantId = wallet.tenantId ∧ row.walletId = some wallet.id ∧
      row.currency = wallet.currency ∧ row.status.IsActive then
    row.amount
  else 0

/-- Wallet plus valid grants plus active ledger amounts. -/
def walletBalance (now : Int) (wallet : WalletRow) (database : LedgerDatabase) : ℚ :=
  wallet.balanceFloor + ((grantsOfWallet now wallet.tenantId wallet.id wallet.currency
      database.creditGrants).map CreditGrantRow.remainingAmount).sum +
    (database.ledgerEntries.map (ledgerAmount wallet)).sum

/-- What a row refunds of a settle. -/
def refundedBy (settle row : LedgerEntryRow) : ℚ :=
  if row.tenantId = settle.tenantId ∧
      row.relatedLedgerEntryId = some settle.id ∧ row.entryType = .refund ∧
      row.status.IsActive then
    row.amount
  else 0

def refundedTotal (settle : LedgerEntryRow) (database : LedgerDatabase) : ℚ :=
  (database.ledgerEntries.map (refundedBy settle)).sum

def IsConfirmedSettle (row : LedgerEntryRow) : Prop :=
  row.entryType = .settle ∧ row.status = .confirmed

instance (row : LedgerEntryRow) : Decidable (IsConfirmedSettle row) :=
  inferInstanceAs (Decidable (_ ∧ _))

/-- No wallet is overdrawn and no settle is refunded beyond its debit. -/
structure Sound (now : Int) (database : LedgerDatabase) : Prop where
  solvent : ∀ wallet ∈ database.wallets, 0 ≤ walletBalance now wallet database
  refundsBounded : ∀ settle ∈ database.ledgerEntries, IsConfirmedSettle settle →
    refundedTotal settle database ≤ -settle.amount

end LedgerDatabase

namespace PostgresExecution

/-- What status updates of pending rows leave as it is. -/
structure StatusesOnly (before after : LedgerDatabase) : Prop where
  wallets : after.wallets = before.wallets
  creditGrants : after.creditGrants = before.creditGrants
  budgets : after.budgets = before.budgets
  rows : after.ledgerEntries.map eraseStatus = before.ledgerEntries.map eraseStatus
  confirmed : ∀ row, row.status = .confirmed →
    (row ∈ after.ledgerEntries ↔ row ∈ before.ledgerEntries)

variable {context : SqlContext} {plan : ConsistentLedgerWriterPlan}
  {database after : LedgerDatabase} {reserves : List LedgerEntryRecord}

def statusUpdateCommands (reserves : List LedgerEntryRecord) :
    List (UInt16 → ConsistentLedgerBoundedCommand) :=
  (reserves.map reserveSettledUpdate).map fun update order =>
    statusUpdateCommand order update.ledgerEntryId

theorem StatusesOnly.updateRows (id : Uuid) : StatusesOnly database { database with
      ledgerEntries := database.ledgerEntries.map (updatedRow plan.scope.tenantId id) } where
  wallets := rfl
  creditGrants := rfl
  budgets := rfl
  rows := by simp [Function.comp_def]
  confirmed row isConfirmed := by
    constructor
    · intro rowMem
      obtain ⟨original, originalMem, rfl⟩ := List.mem_map.mp rowMem
      rw [updatedRow_of_not_reversed (by rw [isConfirmed]; simp)]
      exact originalMem
    · intro rowMem
      refine List.mem_map.mpr ⟨row, rowMem, ?_⟩
      exact updatedRow_of_not_pending (by simp [isConfirmed])

theorem StatusesOnly.trans {middle : LedgerDatabase} (first : StatusesOnly database middle)
    (second : StatusesOnly middle after) : StatusesOnly database after where
  wallets := second.wallets.trans first.wallets
  creditGrants := second.creditGrants.trans first.creditGrants
  budgets := second.budgets.trans first.budgets
  rows := second.rows.trans first.rows
  confirmed row isConfirmed :=
    (second.confirmed row isConfirmed).trans (first.confirmed row isConfirmed)

theorem statusesOnly_of_statusUpdates (folded : (statusUpdateCommands reserves).foldlM
      (applyCommand context plan) database = .ok after) : StatusesOnly database after := by
  induction reserves generalizing database with
  | nil =>
    cases folded
    exact ⟨rfl, rfl, rfl, rfl, fun _ _ => Iff.rfl⟩
  | cons reserve rest ih =>
    obtain ⟨next, applied, continued⟩ := bind_eq_ok.mp folded
    obtain ⟨_, rfl⟩ := applyCommand_statusUpdate_eq_ok.mp applied
    exact (StatusesOnly.updateRows reserve.id).trans (ih continued)

theorem sum_map_updatedRow (weight : LedgerEntryRow → ℚ) {difference : ℚ} {tenantId id : Uuid}
    {rows : List LedgerEntryRow} (matched : (rows.countP fun row => MatchesStatusUpdate tenantId id
      (ledgerEntryStatusSql .pending) row) = 1)
    (changes : ∀ row ∈ rows, row.tenantId = tenantId → row.id = id → row.status = .pending →
      weight { row with status := .reversed } = weight row + difference) :
    ((rows.map (updatedRow tenantId id)).map weight).sum = (rows.map weight).sum + difference := by
  have stepSum := KeyedRows.sum_map_change weight
    (fun row => decide (MatchesStatusUpdate tenantId id (ledgerEntryStatusSql .pending) row))
    (fun row => { row with status := .reversed }) difference
    (fun row (rowMem : row ∈ rows) selected => by
      obtain ⟨tenantEq, idEq, isPending⟩ :=
        matchesStatusUpdate_pending_iff.mp (of_decide_eq_true selected)
      exact changes row rowMem tenantEq idEq isPending)
  rw [matched, one_nsmul] at stepSum
  simp only [decide_eq_true_eq] at stepSum
  exact stepSum

theorem sum_of_statusUpdates (weight : LedgerEntryRow → ℚ) (difference : LedgerEntryRecord → ℚ)
    (changes : ∀ reserve ∈ reserves, ∀ row ∈ database.ledgerEntries,
      row.tenantId = plan.scope.tenantId → row.id = reserve.id → row.status = .pending →
        weight { row with status := .reversed } = weight row + difference reserve)
    (folded : (statusUpdateCommands reserves).foldlM
      (applyCommand context plan) database = .ok after) : (after.ledgerEntries.map weight).sum =
      (database.ledgerEntries.map weight).sum + (reserves.map difference).sum := by
  induction reserves generalizing database with
  | nil =>
    cases folded
    simp
  | cons reserve rest ih =>
    obtain ⟨next, applied, continued⟩ := bind_eq_ok.mp folded
    obtain ⟨matched, rfl⟩ := applyCommand_statusUpdate_eq_ok.mp applied
    have stepSum := sum_map_updatedRow weight matched (changes reserve (by simp))
    have restSum := ih (fun later laterMem row rowMem tenantEq idEq isPending => by
      obtain ⟨original, originalMem, rfl⟩ := List.mem_map.mp rowMem
      have unchanged := updatedRow_of_not_reversed
        (by rw [isPending]; simp : LedgerEntryRow.status _ ≠ .reversed)
      rw [unchanged] at tenantEq idEq isPending ⊢
      exact changes later (by simp [laterMem]) original originalMem tenantEq
        idEq isPending) continued
    rw [restSum, stepSum, List.map_cons, List.sum_cons, add_assoc]

end PostgresExecution

end FuboxApi
