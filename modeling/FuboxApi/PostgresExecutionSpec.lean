import FuboxApi.PostgresExecution
import FuboxApi.LedgerPlanningSpec

/-!
# What running a Postgres plan does

Running a plan is folding `applyStatement` over its statements and committing the result, or
changing nothing. Locks and assertions leave the tables alone.
-/

namespace FuboxApi.PostgresExecution

open CheckedFold ConsistentWriter

variable {context : SqlContext} {writerPlan : ConsistentLedgerWriterPlan}
  {database after : LedgerDatabase}

/-- Run one statement and enforce its row count. -/
def applyStatement (context : SqlContext) (writerPlan : ConsistentLedgerWriterPlan)
    (database : LedgerDatabase) (statement : ConsistentLedgerPostgresStatement) :
    ExecutorAnswer LedgerDatabase := do
  let (rowsAffected, next) ← bindAndRun context writerPlan statement database
  match enforceStatementRowCount statement rowsAffected with
  | some error => .error error
  | none => .ok next

theorem executeStatements_postgresTransaction (context : SqlContext)
    (writerPlan : ConsistentLedgerWriterPlan) (session : PostgresSession)
    (statements : List ConsistentLedgerPostgresStatement) : ∃ working results error,
      executeStatements (postgresTransaction context writerPlan) session statements =
        ({ session with working := working }, results, error) ∧
      match statements.foldlM (applyStatement context writerPlan)
          session.working with
      | .ok final => working = final ∧ error = none
      | .error failure => error = some failure := by
  induction statements generalizing session with
  | nil => exact ⟨session.working, [], none, rfl, rfl, rfl⟩
  | cons statement rest ih =>
    rw [List.foldlM_cons, executeStatements]
    simp only [postgresTransaction, applyStatement]
    cases ran : bindAndRun context writerPlan statement session.working with
    | error failure => exact ⟨session.working, _, _, rfl, rfl⟩
    | ok answer =>
      obtain ⟨rowsAffected, next⟩ := answer
      simp only [sanitizedStatementResult, reduceCtorEq, if_false, bind, Except.bind]
      cases enforced : enforceStatementRowCount statement rowsAffected with
      | some failure => exact ⟨next, _, _, rfl, rfl⟩
      | none =>
        obtain ⟨working, results, error, restEq, restResult⟩ := ih { session with working := next }
        simp only [postgresTransaction] at restEq
        simp only [restEq]
        exact ⟨working, _, error, rfl, restResult⟩

theorem runPostgresPlan_eq (context : SqlContext) (writerPlan : ConsistentLedgerWriterPlan)
    (plan : ConsistentLedgerPostgresExecutionPlan) (database : LedgerDatabase) :
    match plan.sqlStatements.foldlM (applyStatement context writerPlan)
        database with
    | .ok final =>
      (runPostgresPlan context writerPlan plan database).1 = final ∧
        (runPostgresPlan context writerPlan plan database).2.committed = true
    | .error failure =>
      (runPostgresPlan context writerPlan plan database).1 = database ∧
        (runPostgresPlan context writerPlan plan database).2.committed = false ∧
        (runPostgresPlan context writerPlan plan database).2.error = some failure := by
  obtain ⟨working, results, error, executed, result⟩ :=
    executeStatements_postgresTransaction context writerPlan ⟨database, database⟩ plan.sqlStatements
  have started : (postgresTransaction context writerPlan).beginTransaction
      ⟨database, database⟩ = (⟨database, database⟩, .ok ()) := rfl
  simp only [runPostgresPlan, executeConsistentLedgerPostgresPlan, started, executed]
  cases folded : plan.sqlStatements.foldlM (applyStatement context writerPlan)
      database with
  | ok final =>
    rw [folded] at result
    obtain ⟨rfl, rfl⟩ := result
    exact ⟨rfl, rfl⟩
  | error failure =>
    rw [folded] at result
    subst result
    exact ⟨rfl, rfl, rfl⟩

theorem applyStatement_order (order commandOrder : UInt16)
    (command : ConsistentLedgerBoundedCommand) : applyStatement context writerPlan database
        (commandStatement order { command with order := commandOrder }) =
      applyStatement context writerPlan database (commandStatement 0 command) := by
  have sameBinds : sqlxBindValue writerPlan
      (commandStatement order { command with order := commandOrder }) =
        sqlxBindValue writerPlan (commandStatement 0 command) := by
    funext marker
    cases marker <;> rfl
  simp only [applyStatement, bindAndRun, sqlxExecutableBinds, sameBinds]
  rfl

/-- The effect of a command that is numbered by the plan. -/
def applyCommand (context : SqlContext) (writerPlan : ConsistentLedgerWriterPlan)
    (database : LedgerDatabase) (command : UInt16 → ConsistentLedgerBoundedCommand) :
    ExecutorAnswer LedgerDatabase :=
  applyStatement context writerPlan database (commandStatement 0 (command 0))

theorem foldlM_commandStatements (kept : ConsistentLedgerPostgresStatementKind → Bool)
    {commands : List (UInt16 → ConsistentLedgerBoundedCommand)}
    (numbered : ∀ command ∈ commands, ∀ order, command order = { command 0 with order := order })
    (order commandOrder : UInt16) :
    ((commandStatements order (numberCommands commandOrder
        commands)).filter fun statement => kept statement.kind).foldlM
        (applyStatement context writerPlan) database = (commands.filter fun command =>
        kept (commandStatementKind (command 0).kind)).foldlM
          (applyCommand context writerPlan) database := by
  induction commands generalizing order commandOrder database with
  | nil => rfl
  | cons command rest ih =>
    have restNumbered : ∀ other ∈ rest, ∀ order,
        other order = { other 0 with order := order } := fun other otherMem =>
      numbered other (by simp [otherMem])
    have commandEq := numbered command (by simp) commandOrder
    have sameKind : (commandStatement order (command commandOrder)).kind =
        commandStatementKind (command 0).kind := by
      rw [commandEq]
      rfl
    rw [numberCommands, commandStatements]
    by_cases keptKind : kept (commandStatementKind (command 0).kind) = true
    · rw [List.filter_cons, List.filter_cons, sameKind, if_pos keptKind,
        if_pos keptKind, List.foldlM_cons, List.foldlM_cons, commandEq, applyStatement_order]
      congr 1
      funext next
      exact ih restNumbered (order + 1) (commandOrder + 1)
    · rw [List.filter_cons, List.filter_cons, sameKind, if_neg keptKind, if_neg keptKind]
      exact ih restNumbered (order + 1) (commandOrder + 1)

def planCommands (plan : ConsistentLedgerWriterPlan) :
    List (UInt16 → ConsistentLedgerBoundedCommand) :=
  [fun order => balanceAssertCommand order plan] ++
    plan.budgetChecks.map (fun budget order => budgetAssertCommand order budget) ++
    plan.ledgerPlan.entries.map (fun entry order =>
      insertLedgerCommand order entry) ++
    plan.ledgerPlan.statusUpdates.map (fun update order =>
      statusUpdateCommand order update.ledgerEntryId)

theorem planCommands_numbered (plan : ConsistentLedgerWriterPlan) :
    ∀ command ∈ planCommands plan, ∀ order, command order = { command 0 with order := order } := by
  intro command commandMem order
  simp only [planCommands, List.mem_append, List.mem_singleton, List.mem_map]
    at commandMem
  rcases commandMem with ((rfl | ⟨_, _, rfl⟩) | ⟨_, _, rfl⟩) | ⟨_, _, rfl⟩ <;> rfl

namespace LedgerRow

/-- The column value of an entry type. -/
def rowType : LedgerEntryType → LedgerRowType
  | .reserve => .reserve
  | .settle => .settle
  | .refund => .refund
  | .adjust => .adjust

@[simp]
theorem ofText_ledgerEntryTypeSql (entryType : LedgerEntryType) :
    LedgerRowType.ofText (ledgerEntryTypeSql entryType) = some (rowType entryType) := by
  cases entryType <;> decide

@[simp]
theorem ofText_ledgerEntryStatusSql (status : LedgerEntryStatus) :
    LedgerEntryStatus.ofText (ledgerEntryStatusSql status) = some status := by
  cases status <;> decide

theorem rowType_injective : Function.Injective rowType := by
  intro left right
  cases left <;> cases right <;> decide

end LedgerRow

structure HoldsEntry (tenantId : Uuid) (row : LedgerEntryRow) (entry : LedgerEntryRecord) :
    Prop where
  tenantId : row.tenantId = tenantId
  id : row.id = entry.id
  requestId : row.requestId = entry.requestId
  relatedLedgerEntryId : row.relatedLedgerEntryId = entry.relatedLedgerEntryId
  entryType : row.entryType = LedgerRow.rowType entry.entryType
  amount : row.amount = entry.amount.toRat
  currency : row.currency = entry.currency
  status : row.status = entry.status
  idempotencyKey : row.idempotencyKey = entry.idempotencyKey

def rowOfDraft (context : SqlContext) (writerPlan : ConsistentLedgerWriterPlan)
    (draft : LedgerEntryDraft) (amount : ℚ) : LedgerEntryRow where
  id := context.newId
  tenantId := writerPlan.scope.tenantId
  projectId := writerPlan.scope.projectId
  virtualKeyId := writerPlan.scope.virtualKeyId
  walletId := some writerPlan.walletCheck.walletId
  requestId := draft.requestId
  relatedLedgerEntryId := draft.relatedLedgerEntryId
  entryType := LedgerRow.rowType draft.entryType
  amount := amount
  currency := draft.currency
  status := draft.status
  idempotencyKey := writerPlan.idempotencyKey

variable {draft : LedgerEntryDraft} {plan : ConsistentLedgerPostgresExecutionPlan}

theorem sqlxExecutableBinds_insert (single : writerPlan.ledgerPlan.entries = [draft]) :
    sqlxExecutableBinds writerPlan (commandStatement 0 (insertLedgerCommand 0 draft)) =
      .ok [.uuid writerPlan.scope.tenantId, .optionalUuid writerPlan.scope.projectId,
        .optionalUuid writerPlan.scope.virtualKeyId,
        .uuid writerPlan.walletCheck.walletId, .optionalUuid draft.requestId,
        .optionalUuid draft.relatedLedgerEntryId,
        .text (ledgerEntryTypeSql draft.entryType), .decimalText draft.amount,
        .text draft.currency, .text (ledgerEntryStatusSql draft.status),
        .operationKey writerPlan.idempotencyKey, .json draft.metadata] := by
  have requestId : draft.requestId.or (firstLedgerEntryRequestId writerPlan) = draft.requestId := by
    simp [firstLedgerEntryRequestId, single]
  have relatedId : draft.relatedLedgerEntryId.or (sourceLedgerEntryId writerPlan
      (commandStatement 0 (insertLedgerCommand 0 draft))) = draft.relatedLedgerEntryId := by
    simp [sourceLedgerEntryId, single, commandStatement, insertLedgerCommand, bareCommand]
  rw [← requestId, ← relatedId]
  rfl

theorem insertLedgerRow_eq_ok_one {row : LedgerEntryRow} {rows afterRows : List LedgerEntryRow} :
    insertLedgerRow row rows = .ok (1, afterRows) ↔ (∀ other ∈ rows, other.tenantId = row.tenantId →
        other.idempotencyKey ≠ row.idempotencyKey) ∧
      row.id ∉ rows.map LedgerEntryRow.id ∧ afterRows = rows ++ [row] := by
  unfold insertLedgerRow
  split
  · next taken =>
    obtain ⟨other, otherMem, tenantEq, keyEq⟩ := taken
    simp only [Except.ok.injEq, Prod.mk.injEq, zero_ne_one, false_and, false_iff]
    intro ⟨free, _⟩
    exact free other otherMem tenantEq keyEq
  · next free =>
    split
    · next known =>
      simp only [reduceCtorEq, false_iff]
      intro ⟨_, unknown, _⟩
      exact unknown (List.mem_map.mpr known)
    · next unknown =>
      simp only [not_exists, not_and] at free unknown
      simp only [Except.ok.injEq, Prod.mk.injEq, true_and, List.mem_map, not_exists, not_and]
      constructor
      · rintro rfl
        exact ⟨free, unknown, rfl⟩
      · rintro ⟨_, _, rfl⟩
        rfl

theorem applyStatement_commandStatement_eq_ok {command : ConsistentLedgerBoundedCommand} :
    applyStatement context writerPlan database (commandStatement 0 command) = .ok after ↔
      bindAndRun context writerPlan (commandStatement 0 command) database = .ok (1, after) := by
  rw [applyStatement, bind_eq_ok]
  constructor
  · rintro ⟨⟨rowsAffected, next⟩, ran, enforced⟩
    simp only [enforceStatementRowCount, commandStatement] at enforced
    split at enforced
    · cases enforced
    · next notFailed =>
      split at notFailed
      · next isOne =>
        cases enforced
        rw [ran, isOne]
      · cases notFailed
  · intro ran
    exact ⟨_, ran, rfl⟩

/-- An insert command succeeds exactly when the column takes the amount and
key and identifier are free; it adds the row of the draft. -/
theorem applyCommand_insert_eq_ok (single : writerPlan.ledgerPlan.entries = [draft]) :
    applyCommand context writerPlan database
        (fun order => insertLedgerCommand order draft) = .ok after ↔
      ∃ amount, context.amountColumn draft.amount.toRat = some amount ∧
        (∀ row ∈ database.ledgerEntries, row.tenantId = writerPlan.scope.tenantId →
            row.idempotencyKey ≠ writerPlan.idempotencyKey) ∧
        context.newId ∉ database.ledgerEntries.map LedgerEntryRow.id ∧ after = { database with
          ledgerEntries := database.ledgerEntries ++
            [rowOfDraft context writerPlan draft amount] } := by
  rw [applyCommand, applyStatement_commandStatement_eq_ok, bindAndRun,
    sqlxExecutableBinds_insert single]
  change (runSql context .insertLedgerEntry _ database).mapError _ = _ ↔ _
  rw [mapError_eq_ok]
  simp only [runSql, LedgerRow.ofText_ledgerEntryTypeSql, LedgerRow.ofText_ledgerEntryStatusSql]
  constructor
  · intro ran
    obtain ⟨_, ⟨⟩, ran⟩ := bind_eq_ok.mp ran
    obtain ⟨_, ⟨⟩, ran⟩ := bind_eq_ok.mp ran
    obtain ⟨amount, stored, ran⟩ := bind_eq_ok.mp ran
    obtain ⟨⟨count, rows⟩, inserted, answer⟩ := bind_eq_ok.mp ran
    cases answer
    obtain ⟨keyFree, idFree, rowsEq⟩ := insertLedgerRow_eq_ok_one.mp inserted
    exact ⟨amount, okOr_eq_ok.mp stored, keyFree, idFree, by rw [rowsEq]; rfl⟩
  · rintro ⟨amount, stored, keyFree, idFree, rfl⟩
    have inserted : insertLedgerRow (rowOfDraft context writerPlan draft amount)
        database.ledgerEntries = .ok (1, _) :=
      insertLedgerRow_eq_ok_one.mpr ⟨keyFree, idFree, rfl⟩
    exact bind_eq_ok.mpr ⟨_, rfl, bind_eq_ok.mpr ⟨_, rfl,
      bind_eq_ok.mpr ⟨amount, okOr_eq_ok.mpr stored, bind_eq_ok.mpr ⟨_, inserted, rfl⟩⟩⟩⟩

def updatedRow (tenantId id : Uuid) (row : LedgerEntryRow) : LedgerEntryRow :=
  if MatchesStatusUpdate tenantId id (ledgerEntryStatusSql .pending) row then
    { row with status := .reversed }
  else row

theorem text_eq_ledgerEntryStatusSql_iff {left right : LedgerEntryStatus} :
    left.text = ledgerEntryStatusSql right ↔ left = right := by
  cases left <;> cases right <;> decide

def eraseStatus (row : LedgerEntryRow) : LedgerEntryRow :=
  { row with status := .pending }

section

variable {tenantId id : Uuid} {row : LedgerEntryRow}

theorem matchesStatusUpdate_pending_iff :
    MatchesStatusUpdate tenantId id (ledgerEntryStatusSql .pending) row ↔
      row.tenantId = tenantId ∧ row.id = id ∧ row.status = .pending := by
  rw [MatchesStatusUpdate, text_eq_ledgerEntryStatusSql_iff]

@[simp]
theorem eraseStatus_updatedRow : eraseStatus (updatedRow tenantId id row) = eraseStatus row := by
  unfold updatedRow
  split <;> rfl

theorem updatedRow_of_not_pending (notPending : row.status ≠ .pending) :
    updatedRow tenantId id row = row := by
  apply if_neg
  intro selected
  exact notPending (matchesStatusUpdate_pending_iff.mp selected).2.2

theorem updatedRow_of_not_reversed (notReversed : (updatedRow tenantId id row).status ≠ .reversed) :
    updatedRow tenantId id row = row := by
  unfold updatedRow at notReversed ⊢
  split
  · next selected =>
    rw [if_pos selected] at notReversed
    exact absurd rfl notReversed
  · rfl

end

theorem applyCommand_statusUpdate_eq_ok {id : Uuid} : applyCommand context writerPlan database
        (fun order => statusUpdateCommand order id) = .ok after ↔
      (database.ledgerEntries.countP fun row => MatchesStatusUpdate writerPlan.scope.tenantId id
          (ledgerEntryStatusSql .pending) row) = 1 ∧ after = { database with
          ledgerEntries := database.ledgerEntries.map
            (updatedRow writerPlan.scope.tenantId id) } := by
  rw [applyCommand, applyStatement_commandStatement_eq_ok]
  change Except.mapError mapConsistentLedgerPostgresDbError
    (runSql context .updateLedgerStatus [.uuid writerPlan.scope.tenantId, .uuid id,
      .text (ledgerEntryStatusSql .pending),
      .text (ledgerEntryStatusSql .reversed)] database) = _ ↔ _
  rw [mapError_eq_ok]
  simp only [runSql, LedgerRow.ofText_ledgerEntryStatusSql]
  change Except.ok _ = Except.ok _ ↔ _
  simp only [updateLedgerRows, Except.ok.injEq, Prod.mk.injEq]
  exact and_congr_right fun _ => eq_comm

/-- Locks and assertions only read. -/
def readsOnly : ConsistentLedgerPostgresStatementKind → Bool
  | .insertLedgerEntry | .updateLedgerStatus => false
  | _ => true

theorem runSql_of_readsOnly {kind : ConsistentLedgerPostgresStatementKind}
    (isRead : readsOnly kind = true) {binds : List ConsistentLedgerPostgresSqlxBindValue}
    {count : Nat} (ran : runSql context kind binds database = .ok (count, after)) :
    after = database := by
  unfold runSql at ran
  split at ran
  all_goals first | (cases ran; rfl) | cases isRead | cases ran

theorem applyStatement_of_readsOnly {statement : ConsistentLedgerPostgresStatement}
    (isRead : readsOnly statement.kind = true)
    (applied : applyStatement context writerPlan database statement = .ok after) :
    after = database := by
  obtain ⟨⟨count, next⟩, ran, enforced⟩ := bind_eq_ok.mp applied
  obtain ⟨binds, _, answered⟩ := bind_eq_ok.mp ran
  have unchanged := runSql_of_readsOnly isRead (mapError_eq_ok.mp answered)
  dsimp only at enforced
  split at enforced
  · cases enforced
  · cases enforced
    exact unchanged

def mutatingStatements (plan : ConsistentLedgerPostgresExecutionPlan) :
    List ConsistentLedgerPostgresStatement :=
  plan.sqlStatements.filter fun statement => !readsOnly statement.kind

def executionPlan (writerPlan : ConsistentLedgerWriterPlan) :
    ConsistentLedgerPostgresExecutionPlan :=
  planConsistentLedgerPostgresExecution writerPlan (planConsistentLedgerWriteCommands writerPlan)

theorem foldlM_mutatingStatements (applies : writerPlan.outcome = .apply) :
    (mutatingStatements (executionPlan writerPlan)).foldlM
        (applyStatement context writerPlan) database =
      ((writerPlan.ledgerPlan.entries.map fun entry order =>
          insertLedgerCommand order entry) ++
        writerPlan.ledgerPlan.statusUpdates.map fun update order =>
          statusUpdateCommand order update.ledgerEntryId).foldlM
        (applyCommand context writerPlan) database := by
  have commandsEq : (planConsistentLedgerWriteCommands writerPlan).commands =
        numberCommands 1 (planCommands writerPlan) := by
    simp only [planConsistentLedgerWriteCommands, applies]
    rfl
  have locksDropped : (orderedLockStatements writerPlan).filter
      (fun statement => !readsOnly statement.kind) = [] := rfl
  rw [mutatingStatements, executionPlan, planConsistentLedgerPostgresExecution,
    commandsEq, List.filter_append, locksDropped, List.nil_append,
    foldlM_commandStatements (fun kind => !readsOnly kind) (planCommands_numbered writerPlan)]
  congr 1
  simp [planCommands, List.filter_append, List.filter_map, Function.comp_def,
    balanceAssertCommand, budgetAssertCommand,
    insertLedgerCommand, statusUpdateCommand,
    bareCommand, commandStatementKind, readsOnly]

theorem foldlM_of_committed
    (committed : (runPostgresPlan context writerPlan plan database).2.committed = true) :
    plan.sqlStatements.foldlM (applyStatement context writerPlan) database =
      .ok (runPostgresPlan context writerPlan plan database).1 := by
  have run := runPostgresPlan_eq context writerPlan plan database
  split at run
  · next final folded => rw [folded, run.1]
  · rw [run.2.1] at committed
    cases committed

theorem committed_of_foldlM (plan : ConsistentLedgerPostgresExecutionPlan)
    (folded : plan.sqlStatements.foldlM (applyStatement context writerPlan) database = .ok after) :
    (runPostgresPlan context writerPlan plan database).2.committed = true ∧
      (runPostgresPlan context writerPlan plan database).1 = after := by
  have run := runPostgresPlan_eq context writerPlan plan database
  rw [folded] at run
  exact ⟨run.2, run.1⟩

theorem runPostgresPlan_of_not_committed
    (notCommitted : (runPostgresPlan context writerPlan plan database).2.committed = false) :
    (runPostgresPlan context writerPlan plan database).1 = database := by
  have run := runPostgresPlan_eq context writerPlan plan database
  split at run
  · rw [run.2] at notCommitted
    cases notCommitted
  · exact run.1

theorem foldlM_mutatingStatements_of_committed
    (committed : (runPostgresPlan context writerPlan plan database).2.committed = true) :
    (mutatingStatements plan).foldlM (applyStatement context writerPlan) database =
      .ok (runPostgresPlan context writerPlan plan database).1 := by
  apply foldlM_filter_eq_ok (foldlM_of_committed committed)
  intro total statement next isRead applied
  exact applyStatement_of_readsOnly (by simpa using isRead) applied

end FuboxApi.PostgresExecution
