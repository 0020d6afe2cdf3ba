import FuboxApi.InMemoryWriter
import FuboxApi.PostgresTables

/-!
# Execution plans for Postgres

A writer plan becomes four locking reads and one SQL statement for each bounded command, with
parameters bound from the plan. The executor runs them in one transaction and rolls back at the
first one that fails or touches another number of rows than expected.
-/

namespace FuboxApi

open CheckedFold

inductive ConsistentLedgerPostgresStatementKind where
  | lockWallet
  | lockCreditGrants
  | lockBudgets
  | lockLedgerEntries
  | assertBalanceWindow
  | assertBudgetWindow
  | insertLedgerEntry
  | updateLedgerStatus

inductive ConsistentLedgerPostgresRowCountExpectation where
  | exactlyOne
  | zeroOrMore

structure ConsistentLedgerPostgresStatement where
  order : UInt16
  kind : ConsistentLedgerPostgresStatementKind
  commandOrder : Option UInt16
  commandKind : Option ConsistentLedgerBoundedCommandKind
  rowCountExpectation : ConsistentLedgerPostgresRowCountExpectation
  requestId : Option Uuid
  ledgerEntryId : Option Uuid
  relatedLedgerEntryId : Option Uuid
  budgetId : Option Uuid
  entryType : Option LedgerEntryType
  amount : Option FixedDecimal
  currency : Option String
  status : Option LedgerEntryStatus
  metadata : Option LedgerEntryMetadata

structure ConsistentLedgerPostgresExecutionPlan where
  operation : LedgerOperationKind
  outcome : LedgerOperationOutcome
  scope : ConsistentLedgerScope
  sqlStatements : List ConsistentLedgerPostgresStatement

inductive ConsistentLedgerPostgresExecutorOutcome where
  | applied
  | idempotent
  | rolledBack

inductive ConsistentLedgerPostgresStatementOutcome where
  | executed
  | refused
deriving DecidableEq

structure ConsistentLedgerPostgresStatementResult where
  order : UInt16
  kind : ConsistentLedgerPostgresStatementKind
  outcome : ConsistentLedgerPostgresStatementOutcome
  rowsAffected : Nat

structure ConsistentLedgerPostgresExecutorError where
  code : String
  category : String

abbrev ExecutorAnswer :=
  Except ConsistentLedgerPostgresExecutorError

structure ConsistentLedgerPostgresExecutorResult where
  operation : LedgerOperationKind
  outcome : ConsistentLedgerPostgresExecutorOutcome
  committed : Bool
  rolledBack : Bool
  statementResults : List ConsistentLedgerPostgresStatementResult
  error : Option ConsistentLedgerPostgresExecutorError

inductive ConsistentLedgerPostgresDbErrorKind where
  | uniqueViolation
  | foreignKeyViolation
  | checkViolation
  | notNullViolation
  | serializationFailure
  | deadlockDetected
  | timeout
  | connection
  | unknown

inductive ConsistentLedgerPostgresSqlxBindMarker where
  | tenantId
  | projectId
  | virtualKeyId
  | walletId
  | currency
  | now
  | requestId
  | sourceLedgerEntryId
  | relatedLedgerEntryId
  | ledgerEntryId
  | budgetId
  | requiredDebit
  | availableBeforeWrite
  | entryType
  | amount
  | status
  | fromStatus
  | toStatus
  | metadata
  | operationKeyBind

/-- A bound parameter. The text of a fixed decimal is represented by the
decimal whose display text it is. -/
inductive ConsistentLedgerPostgresSqlxBindValue where
  | uuid (value : Uuid)
  | optionalUuid (value : Option Uuid)
  | text (value : String)
  | decimalText (value : FixedDecimal)
  | json (value : LedgerEntryMetadata)
  | operationKey (value : String)

namespace ConsistentLedgerPostgresExecutorError

def statementRefused (code : String) : ConsistentLedgerPostgresExecutorError :=
  ⟨code, "statement_refusal"⟩

def rowCountMismatch (code : String) : ConsistentLedgerPostgresExecutorError :=
  ⟨code, "row_count_enforcement"⟩

end ConsistentLedgerPostgresExecutorError

namespace PostgresExecution

open ConsistentLedgerPostgresExecutorError

def mapConsistentLedgerPostgresDbError :
    ConsistentLedgerPostgresDbErrorKind → ConsistentLedgerPostgresExecutorError
  | .uniqueViolation => ⟨"db_unique_constraint_violation", "db_constraint"⟩
  | .foreignKeyViolation => ⟨"db_foreign_key_violation", "db_constraint"⟩
  | .checkViolation => ⟨"db_check_constraint_violation", "db_constraint"⟩
  | .notNullViolation => ⟨"db_not_null_violation", "db_constraint"⟩
  | .serializationFailure => ⟨"db_serialization_failure", "db_transaction"⟩
  | .deadlockDetected => ⟨"db_deadlock_detected", "db_transaction"⟩
  | .timeout => ⟨"db_timeout", "db_transaction"⟩
  | .connection => ⟨"db_connection_error", "db_connection"⟩
  | .unknown => ⟨"db_error", "db_unknown"⟩

/-- A locking read, which carries nothing but the currency of the window. -/
def lockStatement (order : UInt16) (kind : ConsistentLedgerPostgresStatementKind)
    (rowCountExpectation : ConsistentLedgerPostgresRowCountExpectation) (currency : Option String) :
    ConsistentLedgerPostgresStatement where
  order := order
  kind := kind
  commandOrder := none
  commandKind := none
  rowCountExpectation := rowCountExpectation
  requestId := none
  ledgerEntryId := none
  relatedLedgerEntryId := none
  budgetId := none
  entryType := none
  amount := none
  currency := currency
  status := none
  metadata := none

variable (context : SqlContext) (writerPlan : ConsistentLedgerWriterPlan)
  (statement : ConsistentLedgerPostgresStatement)

def orderedLockStatements : List ConsistentLedgerPostgresStatement :=
  let currency := some writerPlan.balanceWindow.currency
  [lockStatement 1 .lockWallet .exactlyOne currency,
    lockStatement 2 .lockCreditGrants .zeroOrMore currency,
    lockStatement 3 .lockBudgets .zeroOrMore currency,
    lockStatement 4 .lockLedgerEntries .zeroOrMore none]

def commandStatementKind :
    ConsistentLedgerBoundedCommandKind → ConsistentLedgerPostgresStatementKind
  | .assertBalanceWindow => .assertBalanceWindow
  | .assertBudgetWindow => .assertBudgetWindow
  | .insertLedgerEntry => .insertLedgerEntry
  | .updateLedgerStatus => .updateLedgerStatus

/-- A status update drops the related entry of its command. -/
def commandStatement (order : UInt16) (command : ConsistentLedgerBoundedCommand) :
    ConsistentLedgerPostgresStatement where
  order := order
  kind := commandStatementKind command.kind
  commandOrder := some command.order
  commandKind := some command.kind
  rowCountExpectation := .exactlyOne
  requestId := command.requestId
  ledgerEntryId := command.ledgerEntryId
  relatedLedgerEntryId :=
    match command.kind with
    | .updateLedgerStatus => none
    | _ => command.relatedLedgerEntryId
  budgetId := command.budgetId
  entryType := command.entryType
  amount := command.amount
  currency := command.currency
  status := command.status
  metadata := command.metadata

/-- Number the statements of the commands, as the running `next_order` counter
does. -/
def commandStatements : UInt16 → List ConsistentLedgerBoundedCommand →
      List ConsistentLedgerPostgresStatement
  | _, [] => []
  | order, command :: rest =>
    commandStatement order command :: commandStatements (order + 1) rest

def planConsistentLedgerPostgresExecution (commandPlan : ConsistentLedgerCommandPlan) :
    ConsistentLedgerPostgresExecutionPlan where
  operation := writerPlan.operation
  outcome := writerPlan.outcome
  scope := writerPlan.scope
  sqlStatements :=
    orderedLockStatements writerPlan ++
      commandStatements ((orderedLockStatements writerPlan).length.toUInt16 + 1)
        commandPlan.commands

def sqlxBindMarkersForStatement : ConsistentLedgerPostgresStatementKind →
      List ConsistentLedgerPostgresSqlxBindMarker
  | .lockWallet => [.tenantId, .projectId, .currency]
  | .lockCreditGrants => [.tenantId, .walletId, .currency]
  | .lockBudgets => [.tenantId, .projectId, .virtualKeyId, .currency]
  | .lockLedgerEntries =>
    [.tenantId, .requestId, .sourceLedgerEntryId, .relatedLedgerEntryId, .operationKeyBind]
  | .assertBalanceWindow =>
    [.tenantId, .currency, .availableBeforeWrite, .requiredDebit]
  | .assertBudgetWindow => [.tenantId, .budgetId, .currency, .requiredDebit]
  | .insertLedgerEntry =>
    [.tenantId, .projectId, .virtualKeyId, .walletId, .requestId,
      .relatedLedgerEntryId, .entryType, .amount, .currency, .status, .operationKeyBind, .metadata]
  | .updateLedgerStatus => [.tenantId, .ledgerEntryId, .fromStatus, .toStatus]

def firstLedgerEntryRequestId : Option Uuid :=
  writerPlan.ledgerPlan.entries.head?.bind fun entry => entry.requestId

def sourceLedgerEntryId : Option Uuid :=
  statement.relatedLedgerEntryId.or
    (writerPlan.ledgerPlan.entries.head?.bind fun entry => entry.relatedLedgerEntryId)

def ledgerEntryTypeSql : LedgerEntryType → String
  | .reserve => "reserve"
  | .settle => "settle"
  | .refund => "refund"
  | .adjust => "adjust"

def ledgerEntryStatusSql : LedgerEntryStatus → String
  | .pending => "pending"
  | .confirmed => "confirmed"
  | .reversed => "reversed"

/-- A statement field that a parameter cannot do without. -/
def requiredField {α : Type} (code : String) (field : Option α) : ExecutorAnswer α :=
  okOr (statementRefused code) field

def sqlxBindValue (marker : ConsistentLedgerPostgresSqlxBindMarker) :
    ExecutorAnswer ConsistentLedgerPostgresSqlxBindValue :=
  match marker with
  | .tenantId => .ok (.uuid writerPlan.scope.tenantId)
  | .projectId => .ok (.optionalUuid writerPlan.scope.projectId)
  | .virtualKeyId => .ok (.optionalUuid writerPlan.scope.virtualKeyId)
  | .walletId => .ok (.uuid writerPlan.walletCheck.walletId)
  | .currency =>
    .ok (.text (statement.currency.getD writerPlan.balanceWindow.currency))
  | .now => .ok (.text "now")
  | .requestId =>
    .ok (.optionalUuid (statement.requestId.or (firstLedgerEntryRequestId writerPlan)))
  | .sourceLedgerEntryId =>
    .ok (.optionalUuid (sourceLedgerEntryId writerPlan statement))
  | .relatedLedgerEntryId =>
    .ok (.optionalUuid (statement.relatedLedgerEntryId.or
        (sourceLedgerEntryId writerPlan statement)))
  | .ledgerEntryId => do
      let id ← requiredField "sqlx_ledger_entry_id_missing" statement.ledgerEntryId
      return .uuid id
  | .budgetId => do
      let id ← requiredField "sqlx_budget_id_missing" statement.budgetId
      return .uuid id
  | .requiredDebit =>
    .ok (.decimalText (statement.amount.getD writerPlan.balanceWindow.requiredDebit))
  | .availableBeforeWrite =>
    .ok (.decimalText writerPlan.balanceWindow.availableBeforeWrite)
  | .entryType => do
      let entryType ← requiredField "sqlx_entry_type_missing" statement.entryType
      return .text (ledgerEntryTypeSql entryType)
  | .amount => do
      let amount ← requiredField "sqlx_amount_missing" statement.amount
      return .decimalText amount
  | .status => do
      let status ← requiredField "sqlx_status_missing" statement.status
      return .text (ledgerEntryStatusSql status)
  | .fromStatus => .ok (.text (ledgerEntryStatusSql .pending))
  | .toStatus => do
      let status ← requiredField "sqlx_to_status_missing" statement.status
      return .text (ledgerEntryStatusSql status)
  | .metadata => do
      let metadata ← requiredField "sqlx_metadata_missing" statement.metadata
      return .json metadata
  | .operationKeyBind => .ok (.operationKey writerPlan.idempotencyKey)

def sqlxExecutableBinds : ExecutorAnswer (List ConsistentLedgerPostgresSqlxBindValue) :=
  (sqlxBindMarkersForStatement statement.kind).mapM (sqlxBindValue writerPlan statement)

def rowCountMismatchCode (kind : ConsistentLedgerPostgresStatementKind) (rowsAffected : Nat) :
    String :=
  match kind, rowsAffected with
  | .lockWallet, 0 => "wallet_lock_missing_row"
  | .lockWallet, _ => "wallet_lock_row_count_mismatch"
  | .assertBalanceWindow, 0 => "balance_assert_missing_row"
  | .assertBalanceWindow, _ => "balance_assert_row_count_mismatch"
  | .assertBudgetWindow, 0 => "budget_assert_missing_row"
  | .assertBudgetWindow, _ => "budget_assert_row_count_mismatch"
  | .insertLedgerEntry, 0 => "ledger_insert_conflict_no_row"
  | .insertLedgerEntry, _ => "ledger_insert_row_count_mismatch"
  | .updateLedgerStatus, 0 => "ledger_update_missing_row"
  | .updateLedgerStatus, _ => "ledger_update_row_count_mismatch"
  | .lockCreditGrants, _ | .lockBudgets, _ | .lockLedgerEntries, _ =>
    "lock_row_count_mismatch"

def enforceStatementRowCount (rowsAffected : Nat) : Option ConsistentLedgerPostgresExecutorError :=
  match statement.rowCountExpectation with
  | .exactlyOne =>
    if rowsAffected = 1 then none
    else some (rowCountMismatch (rowCountMismatchCode statement.kind rowsAffected))
  | .zeroOrMore => none

/-- What a transaction reads from outside the tables: the time of `now()`, the
identifier that `gen_random_uuid()` gives to its new row, and what the amount
column makes of an assigned number. -/
structure SqlContext where
  now : Int
  newId : Uuid
  amountColumn : ℚ → Option ℚ

/-- The rows that `LockWallet` selects. -/
def walletsInScope (tenantId : Uuid) (projectId : Option Uuid) (currency : String)
    (wallets : List WalletRow) : List WalletRow :=
  wallets.filter fun wallet =>
    wallet.tenantId = tenantId ∧ wallet.projectId = projectId ∧ wallet.currency = currency ∧
      (wallet.status = .active ∨ wallet.status = .suspended)

/-- The rows that `LockCreditGrants` selects. -/
def grantsOfWallet (now : Int) (tenantId walletId : Uuid) (currency : String)
    (grants : List CreditGrantRow) : List CreditGrantRow :=
  grants.filter fun grant =>
    grant.tenantId = tenantId ∧ grant.walletId = walletId ∧
      grant.currency = currency ∧ grant.IsValidAt now

/-- The rows that `LockBudgets` selects. -/
def budgetsInScope (tenantId : Uuid) (projectId virtualKeyId : Option Uuid) (currency : String)
    (budgets : List BudgetRow) : List BudgetRow :=
  budgets.filter fun budget =>
    budget.tenantId = tenantId ∧
      (budget.scope = .tenant ∨ budget.scope = .project ∧ budget.projectId = projectId ∨
        budget.scope = .virtualKey ∧ budget.virtualKeyId = virtualKeyId) ∧
      budget.currency = currency ∧ budget.status = .active ∧
      budget.deletedAt = none

/-- The rows that `LockLedgerEntries` selects. -/
def lockedLedgerEntries (tenantId : Uuid) (requestId sourceId relatedId : Option Uuid)
    (key : String) (rows : List LedgerEntryRow) : List LedgerEntryRow :=
  rows.filter fun row =>
    row.tenantId = tenantId ∧
      (requestId ≠ none ∧ row.requestId = requestId ∨ sourceId ≠ none ∧ some row.id = sourceId ∨
        relatedId ≠ none ∧ row.relatedLedgerEntryId = relatedId ∨ row.idempotencyKey = key)

/-- Insert a row unless its key is taken; a taken identifier is an error. -/
def insertLedgerRow (row : LedgerEntryRow) (rows : List LedgerEntryRow) :
    Except ConsistentLedgerPostgresDbErrorKind (Nat × List LedgerEntryRow) :=
  if ∃ other ∈ rows, other.tenantId = row.tenantId ∧ other.idempotencyKey = row.idempotencyKey then
    .ok (0, rows)
  else if ∃ other ∈ rows, other.id = row.id then
    .error .uniqueViolation
  else
    .ok (1, rows ++ [row])

def MatchesStatusUpdate (tenantId id : Uuid) (fromStatus : String) (row : LedgerEntryRow) : Prop :=
  row.tenantId = tenantId ∧ row.id = id ∧ row.status.text = fromStatus

instance (tenantId id : Uuid) (fromStatus : String) (row : LedgerEntryRow) :
    Decidable (MatchesStatusUpdate tenantId id fromStatus row) :=
  inferInstanceAs (Decidable (_ ∧ _))

/-- Set the status of every matching row and count them. -/
def updateLedgerRows (tenantId id : Uuid) (fromStatus : String) (toStatus : LedgerEntryStatus)
    (rows : List LedgerEntryRow) : Nat × List LedgerEntryRow :=
  (rows.countP fun row => MatchesStatusUpdate tenantId id fromStatus row, rows.map fun row =>
      if MatchesStatusUpdate tenantId id fromStatus row then
        { row with status := toStatus }
      else row)

/-- What Postgres does with the statement text of a kind and its bound
parameters: the number of rows it returns and the tables it leaves. -/
def runSql (kind : ConsistentLedgerPostgresStatementKind)
    (binds : List ConsistentLedgerPostgresSqlxBindValue) (database : LedgerDatabase) :
    Except ConsistentLedgerPostgresDbErrorKind (Nat × LedgerDatabase) :=
  match kind, binds with
  | .lockWallet, [.uuid tenantId, .optionalUuid projectId, .text currency] =>
    .ok ((walletsInScope tenantId projectId currency database.wallets).length, database)
  | .lockCreditGrants, [.uuid tenantId, .uuid walletId, .text currency] =>
    .ok ((grantsOfWallet context.now tenantId walletId currency
      database.creditGrants).length, database)
  | .lockBudgets,
      [.uuid tenantId, .optionalUuid projectId, .optionalUuid virtualKeyId, .text currency] =>
      .ok ((budgetsInScope tenantId projectId virtualKeyId currency
        database.budgets).length, database)
  | .lockLedgerEntries, [.uuid tenantId, .optionalUuid requestId, .optionalUuid sourceId,
        .optionalUuid relatedId, .operationKey key] =>
      .ok ((lockedLedgerEntries tenantId requestId sourceId relatedId key
        database.ledgerEntries).length, database)
  | .assertBalanceWindow, [.uuid _, .text _, .decimalText available, .decimalText required] =>
      .ok (if required.toRat ≤ available.toRat then 1 else 0, database)
  | .assertBudgetWindow, [.uuid tenantId, .uuid budgetId, .text currency, .decimalText required] =>
      .ok (database.budgets.countP fun budget => budget.tenantId = tenantId ∧ budget.id = budgetId ∧
            budget.currency = currency ∧ required.toRat ≤ budget.limitAmount, database)
  | .insertLedgerEntry, [.uuid tenantId, .optionalUuid projectId, .optionalUuid virtualKeyId,
        .uuid walletId, .optionalUuid requestId, .optionalUuid relatedId,
        .text entryType, .decimalText amount, .text currency, .text status,
        .operationKey key, .json _] => do
      let entryType ← okOr .checkViolation (LedgerRowType.ofText entryType)
      let status ← okOr .checkViolation (LedgerEntryStatus.ofText status)
      let amount ← okOr .unknown (context.amountColumn amount.toRat)
      let (count, rows) ← insertLedgerRow
        { id := context.newId
          tenantId := tenantId
          projectId := projectId
          virtualKeyId := virtualKeyId
          walletId := some walletId
          requestId := requestId
          relatedLedgerEntryId := relatedId
          entryType := entryType
          amount := amount
          currency := currency
          status := status
          idempotencyKey := key }
        database.ledgerEntries
      return (count, { database with ledgerEntries := rows })
  | .updateLedgerStatus, [.uuid tenantId, .uuid id, .text fromStatus, .text toStatus] => do
      let toStatus ← okOr .checkViolation (LedgerEntryStatus.ofText toStatus)
      let (count, rows) := updateLedgerRows tenantId id fromStatus toStatus database.ledgerEntries
      return (count, { database with ledgerEntries := rows })
  | _, _ => .error .unknown

/-- The transaction that an execution plan runs against. Every method also
gives back the executor it leaves behind. -/
structure ConsistentLedgerPostgresTransactionExecutor (Executor : Type) where
  beginTransaction : Executor → Executor × ExecutorAnswer Unit
  executeStatement : Executor → ConsistentLedgerPostgresStatement → Executor × ExecutorAnswer
        ConsistentLedgerPostgresStatementResult
  commitTransaction : Executor → Executor × ExecutorAnswer Unit
  rollbackTransaction : Executor → Executor × ExecutorAnswer Unit

section

variable {Executor : Type}

def refusedStatementResult : ConsistentLedgerPostgresStatementResult where
  order := statement.order
  kind := statement.kind
  outcome := .refused
  rowsAffected := 0

/-- The order and kind of a result are those of the planned statement. -/
def sanitizedStatementResult (result : ConsistentLedgerPostgresStatementResult) :
    ConsistentLedgerPostgresStatementResult :=
  { result with order := statement.order, kind := statement.kind }

/-- Run the statements up to the first failure. -/
def executeStatements (methods : ConsistentLedgerPostgresTransactionExecutor Executor) :
    Executor → List ConsistentLedgerPostgresStatement →
      Executor × List ConsistentLedgerPostgresStatementResult ×
        Option ConsistentLedgerPostgresExecutorError
  | executor, [] => (executor, [], none)
  | executor, statement :: rest =>
    match methods.executeStatement executor statement with
    | (next, .error error) =>
      (next, [refusedStatementResult statement], some error)
    | (next, .ok raw) =>
      let result := sanitizedStatementResult statement raw
      if result.outcome = .refused then
        (next, [result], some (statementRefused "statement_refused"))
      else
        match enforceStatementRowCount statement result.rowsAffected with
        | some error => (next, [{ result with outcome := .refused }], some error)
        | none =>
          let (last, results, error) := executeStatements methods next rest
          (last, result :: results, error)

def executorResult (plan : ConsistentLedgerPostgresExecutionPlan)
    (outcome : ConsistentLedgerPostgresExecutorOutcome) (committed rolledBack : Bool)
    (statementResults : List ConsistentLedgerPostgresStatementResult)
    (error : Option ConsistentLedgerPostgresExecutorError) :
    ConsistentLedgerPostgresExecutorResult where
  operation := plan.operation
  outcome := outcome
  committed := committed
  rolledBack := rolledBack
  statementResults := statementResults
  error := error

/-- Roll back and report the failure. -/
def rolledBackResult (methods : ConsistentLedgerPostgresTransactionExecutor Executor)
    (executor : Executor) (plan : ConsistentLedgerPostgresExecutionPlan)
    (results : List ConsistentLedgerPostgresStatementResult)
    (error : ConsistentLedgerPostgresExecutorError) :
    Executor × ConsistentLedgerPostgresExecutorResult :=
  let (ended, rollback) := methods.rollbackTransaction executor
  (ended, executorResult plan .rolledBack false rollback.isOk results (some error))

def executeConsistentLedgerPostgresPlan
    (methods : ConsistentLedgerPostgresTransactionExecutor Executor) (executor : Executor)
    (plan : ConsistentLedgerPostgresExecutionPlan) :
    Executor × ConsistentLedgerPostgresExecutorResult :=
  match methods.beginTransaction executor with
  | (started, .error error) =>
    (started, executorResult plan .rolledBack false false [] (some error))
  | (started, .ok ()) =>
    match executeStatements methods started plan.sqlStatements with
    | (stopped, results, some error) =>
      rolledBackResult methods stopped plan results error
    | (done, results, none) =>
      match methods.commitTransaction done with
      | (failed, .error error) =>
        rolledBackResult methods failed plan results error
      | (committed, .ok ()) =>
        let outcome : ConsistentLedgerPostgresExecutorOutcome :=
          match plan.outcome with
          | .idempotent _ => .idempotent
          | .apply => .applied
        (committed, executorResult plan outcome true false results none)

end

/-- A connection: the committed tables and those of the open transaction. -/
structure PostgresSession where
  committed : LedgerDatabase
  working : LedgerDatabase

def bindAndRun (database : LedgerDatabase) : ExecutorAnswer (Nat × LedgerDatabase) := do
  let binds ← sqlxExecutableBinds writerPlan statement
  (runSql context statement.kind binds database).mapError mapConsistentLedgerPostgresDbError

/-- Transactions of Postgres: a commit publishes all the statements at once, a
rollback none of them. -/
def postgresTransaction : ConsistentLedgerPostgresTransactionExecutor PostgresSession where
  beginTransaction session :=
    ({ session with working := session.committed }, .ok ())
  executeStatement session statement :=
    match bindAndRun context writerPlan statement session.working with
    | .error error => (session, .error error)
    | .ok (rowsAffected, working) =>
      ({ session with working := working },
        .ok ⟨statement.order, statement.kind, .executed, rowsAffected⟩)
  commitTransaction session :=
    ({ session with committed := session.working }, .ok ())
  rollbackTransaction session :=
    ({ session with working := session.committed }, .ok ())

/-- Run a plan as one transaction over the committed tables. -/
def runPostgresPlan (plan : ConsistentLedgerPostgresExecutionPlan) (database : LedgerDatabase) :
    LedgerDatabase × ConsistentLedgerPostgresExecutorResult :=
  let (session, result) := executeConsistentLedgerPostgresPlan
    (postgresTransaction context writerPlan) ⟨database, database⟩ plan
  (session.committed, result)

end PostgresExecution

end FuboxApi
