import FuboxApi.ConsistentWriter

/-!
# The in-memory writer

Applying a plan mutates the writer step by step, so a failure in the middle leaves the steps before
it in place: each function gives back the writer it leaves behind together with its result.
-/

namespace FuboxApi

inductive ConsistentLedgerBoundedCommandKind where
  | assertBalanceWindow
  | assertBudgetWindow
  | insertLedgerEntry
  | updateLedgerStatus

structure ConsistentLedgerBoundedCommand where
  order : UInt16
  kind : ConsistentLedgerBoundedCommandKind
  requestId : Option Uuid
  ledgerEntryId : Option Uuid
  relatedLedgerEntryId : Option Uuid
  entryType : Option LedgerEntryType
  status : Option LedgerEntryStatus
  amount : Option FixedDecimal
  currency : Option String
  budgetId : Option Uuid
  budgetDimension : Option ConsistentBudgetDimension
  metadata : Option LedgerEntryMetadata

structure ConsistentLedgerCommandPlan where
  operation : LedgerOperationKind
  outcome : LedgerOperationOutcome
  scope : ConsistentLedgerScope
  commands : List ConsistentLedgerBoundedCommand

inductive ConsistentLedgerCommandExecutionOutcome where
  | applied
  | idempotent
  | rejected
deriving DecidableEq

structure ConsistentLedgerCommandExecutionError where
  code : String
  category : String
deriving DecidableEq

structure ConsistentLedgerInMemoryStateSummary where
  ledgerEntryCount : Nat
  pendingReserveCount : Nat
  confirmedSettleCount : Nat
  confirmedRefundCount : Nat
  confirmedAdjustmentCount : Nat
  reversedReserveCount : Nat

structure ConsistentLedgerCommandExecution where
  operation : LedgerOperationKind
  outcome : ConsistentLedgerCommandExecutionOutcome
  commands : List ConsistentLedgerBoundedCommand
  error : Option ConsistentLedgerCommandExecutionError
  stateSummary : ConsistentLedgerInMemoryStateSummary

structure InMemoryConsistentLedgerWriter where
  state : ConsistentLedgerWriterState
  nextLedgerEntryId : Uuid

namespace ConsistentWriter

variable (order : UInt16) (plan : ConsistentLedgerWriterPlan)

/-- A command that sets nothing but its order and kind. -/
def bareCommand (kind : ConsistentLedgerBoundedCommandKind) : ConsistentLedgerBoundedCommand where
  order := order
  kind := kind
  requestId := none
  ledgerEntryId := none
  relatedLedgerEntryId := none
  entryType := none
  status := none
  amount := none
  currency := none
  budgetId := none
  budgetDimension := none
  metadata := none

def balanceAssertCommand : ConsistentLedgerBoundedCommand :=
  { bareCommand order .assertBalanceWindow with
    amount := some plan.balanceWindow.requiredDebit
    currency := some plan.balanceWindow.currency }

def budgetAssertCommand (budget : ConsistentBudgetCheck) : ConsistentLedgerBoundedCommand :=
  { bareCommand order .assertBudgetWindow with
    amount := some budget.requiredDebit
    budgetId := some budget.budgetId
    budgetDimension := some budget.dimension }

def insertLedgerCommand (entry : LedgerEntryDraft) : ConsistentLedgerBoundedCommand :=
  { bareCommand order .insertLedgerEntry with
    requestId := entry.requestId
    relatedLedgerEntryId := entry.relatedLedgerEntryId
    entryType := some entry.entryType
    status := some entry.status
    amount := some entry.amount
    currency := some entry.currency
    metadata := some entry.metadata }

/-- The target status is fixed, whatever the planned update says. -/
def statusUpdateCommand (ledgerEntryId : Uuid) : ConsistentLedgerBoundedCommand :=
  { bareCommand order .updateLedgerStatus with
    ledgerEntryId := some ledgerEntryId
    status := some .reversed }

/-- Number the commands consecutively, as the running `order` counter does. -/
def numberCommands : UInt16 → List (UInt16 → ConsistentLedgerBoundedCommand) →
      List ConsistentLedgerBoundedCommand
  | _, [] => []
  | order, command :: rest => command order :: numberCommands (order + 1) rest

def boundedCommandsForPlan : List ConsistentLedgerBoundedCommand :=
  numberCommands 1
    ([fun order => balanceAssertCommand order plan] ++ plan.budgetChecks.map (fun budget order =>
        budgetAssertCommand order budget) ++ plan.ledgerPlan.entries.map (fun entry order =>
        insertLedgerCommand order entry) ++ plan.ledgerPlan.statusUpdates.map (fun update order =>
        statusUpdateCommand order update.ledgerEntryId))

def planConsistentLedgerWriteCommands : ConsistentLedgerCommandPlan where
  operation := plan.operation
  outcome := plan.outcome
  scope := plan.scope
  commands :=
    match plan.outcome with
    | .idempotent _ => []
    | .apply => boundedCommandsForPlan plan

def countEntries (state : ConsistentLedgerWriterState) (entryType : LedgerEntryType)
    (status : LedgerEntryStatus) : Nat :=
  state.ledgerEntries.countP fun entry =>
    entry.entryType = entryType ∧ entry.status = status

def stateSummary (state : ConsistentLedgerWriterState) : ConsistentLedgerInMemoryStateSummary where
  ledgerEntryCount := state.ledgerEntries.length
  pendingReserveCount := countEntries state .reserve .pending
  confirmedSettleCount := countEntries state .settle .confirmed
  confirmedRefundCount := countEntries state .refund .confirmed
  confirmedAdjustmentCount := countEntries state .adjust .confirmed
  reversedReserveCount := countEntries state .reserve .reversed

def ledgerErrorCode : LedgerContractError → String
  | .idempotencyConflict _ => "idempotency_conflict"
  | .requestAlreadyReserved _ => "request_already_reserved"
  | .requestAlreadySettled _ => "request_already_settled"
  | .reserveCurrencyMismatch _ _ => "reserve_currency_mismatch"
  | .refundSourceNotFound _ => "refund_source_not_found"
  | .refundSourceNotConfirmedSettleDebit _ =>
    "refund_source_not_confirmed_settle_debit"
  | .refundCurrencyMismatch _ _ => "refund_currency_mismatch"
  | .fullRefundAmountNotAllowed => "full_refund_amount_not_allowed"
  | .partialRefundAmountRequired => "partial_refund_amount_required"
  | .partialRefundOperationIdRequired => "partial_refund_operation_id_required"
  | .partialRefundConsumesRemaining _ _ => "partial_refund_consumes_remaining"
  | .adminAdjustmentZeroAmount => "admin_adjustment_zero_amount"
  | .refundAmountExceedsRemaining _ _ => "refund_amount_exceeds_remaining"
  | .nonPositiveAmount _ => "non_positive_amount"
  | .invalidCurrency _ => "invalid_currency"
  | .scaleMismatch _ _ => "ledger_scale_mismatch"
  | .arithmeticOverflow => "ledger_arithmetic_overflow"

def consistentWriterErrorCode : ConsistentLedgerWriterError → String
  | .walletRequired => "wallet_required"
  | .walletCurrencyMismatch _ _ => "wallet_currency_mismatch"
  | .insufficientWalletBalance _ _ => "insufficient_wallet_balance"
  | .insufficientBudget _ _ _ _ => "insufficient_budget"
  | .scaleMismatch _ _ => "scale_mismatch"
  | .arithmeticOverflow => "arithmetic_overflow"
  | .inMemoryStateConflict _ => "in_memory_state_conflict"
  | .ledger error => ledgerErrorCode error

def consistentWriterErrorCategory : ConsistentLedgerWriterError → String
  | .ledger _ => "ledger_contract"
  | .insufficientWalletBalance _ _ | .insufficientBudget _ _ _ _ =>
    "balance_contract"
  | .walletRequired | .walletCurrencyMismatch _ _ | .scaleMismatch _ _
  | .arithmeticOverflow | .inMemoryStateConflict _ => "writer_contract"

def rejectedExecution (operation : LedgerOperationKind)
    (commands : List ConsistentLedgerBoundedCommand) (error : ConsistentLedgerWriterError)
    (state : ConsistentLedgerWriterState) : ConsistentLedgerCommandExecution where
  operation := operation
  outcome := .rejected
  commands := commands
  error := some
    { code := consistentWriterErrorCode error
      category := consistentWriterErrorCategory error }
  stateSummary := stateSummary state

/-- Set the status of the first entry with the identifier of the update. -/
def applyStatusUpdate (update : LedgerStatusUpdate) : List LedgerEntryRecord →
      WriterResult (List LedgerEntryRecord)
  | [] => .error (.inMemoryStateConflict "status_update_target_missing")
  | entry :: rest =>
    if entry.id = update.ledgerEntryId then
      if entry.status = update.fromStatus then
        .ok ({ entry with status := update.toStatus } :: rest)
      else
        .error (.inMemoryStateConflict "status_update_from_mismatch")
    else
      (applyStatusUpdate update rest).map (entry :: ·)

def applyStatusUpdates : List LedgerStatusUpdate → List LedgerEntryRecord →
      List LedgerEntryRecord × WriterResult Unit
  | [], entries => (entries, .ok ())
  | update :: rest, entries =>
    match applyStatusUpdate update entries with
    | .error error => (entries, .error error)
    | .ok updated => applyStatusUpdates rest updated

end ConsistentWriter

namespace InMemoryConsistentLedgerWriter

open ConsistentWriter

def withEntries (writer : InMemoryConsistentLedgerWriter) (entries : List LedgerEntryRecord) :
    InMemoryConsistentLedgerWriter :=
  { writer with state := { writer.state with ledgerEntries := entries } }

def takeNextLedgerEntryId (writer : InMemoryConsistentLedgerWriter) :
    WriterResult (Uuid × InMemoryConsistentLedgerWriter) :=
  match Uuid.fromU128 (writer.nextLedgerEntryId.asU128 + 1) with
  | none => .error .arithmeticOverflow
  | some next =>
    .ok (writer.nextLedgerEntryId, { writer with nextLedgerEntryId := next })

/-- The ledger row that a draft becomes under a new identifier. -/
def recordOfDraft (id : Uuid) (draft : LedgerEntryDraft) : LedgerEntryRecord where
  id := id
  requestId := draft.requestId
  relatedLedgerEntryId := draft.relatedLedgerEntryId
  entryType := draft.entryType
  amount := draft.amount
  currency := draft.currency
  status := draft.status
  idempotencyKey := draft.idempotencyKey

def pushDrafts : List LedgerEntryDraft → InMemoryConsistentLedgerWriter →
      InMemoryConsistentLedgerWriter × WriterResult Unit
  | [], writer => (writer, .ok ())
  | draft :: rest, writer =>
    match writer.takeNextLedgerEntryId with
    | .error error => (writer, .error error)
    | .ok (id, advanced) =>
      pushDrafts rest
        (advanced.withEntries (advanced.state.ledgerEntries ++ [recordOfDraft id draft]))

def applyLedgerPlan (writer : InMemoryConsistentLedgerWriter) (plan : LedgerOperationPlan) :
    InMemoryConsistentLedgerWriter × WriterResult Unit :=
  let updated := applyStatusUpdates plan.statusUpdates writer.state.ledgerEntries
  match updated.2 with
  | .error error => (writer.withEntries updated.1, .error error)
  | .ok () => pushDrafts plan.entries (writer.withEntries updated.1)

def executeConsistentLedgerWrite (writer : InMemoryConsistentLedgerWriter)
    (request : ConsistentLedgerWriteRequest) :
    InMemoryConsistentLedgerWriter × ConsistentLedgerCommandExecution :=
  match planConsistentLedgerWrite request writer.state with
  | .error error =>
    (writer, rejectedExecution request.operation [] error writer.state)
  | .ok plan =>
    let commands := (planConsistentLedgerWriteCommands plan).commands
    match plan.outcome with
    | .apply =>
      let applied := writer.applyLedgerPlan plan.ledgerPlan
      match applied.2 with
      | .error error =>
        (applied.1, rejectedExecution request.operation commands error applied.1.state)
      | .ok () =>
        (applied.1,
          { operation := request.operation
            outcome := .applied
            commands := commands
            error := none
            stateSummary := stateSummary applied.1.state })
    | .idempotent _ =>
      (writer,
        { operation := request.operation
          outcome := .idempotent
          commands := commands
          error := none
          stateSummary := stateSummary writer.state })

end InMemoryConsistentLedgerWriter

end FuboxApi
