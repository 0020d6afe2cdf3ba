import FuboxApi.LedgerPlanning
import Mathlib.Data.List.Sort

/-!
# The consistent ledger writer

A write request is planned against a snapshot of the wallet, the credit grants, the budgets and the
ledger. The in-memory writer applies the status updates of a plan before it appends the new entries.
-/

namespace FuboxApi

open CheckedFold

structure ConsistentLedgerScope where
  tenantId : Uuid
  projectId : Option Uuid
  virtualKeyId : Option Uuid
deriving DecidableEq

inductive ConsistentLedgerWriteRequest where
  | reserve (scope : ConsistentLedgerScope) (requestId : Uuid)
      (amount : FixedDecimal) (currency : String)
  | settle (scope : ConsistentLedgerScope) (requestId : Uuid)
      (finalCost : FixedDecimal) (currency : String)
  | refundFull (scope : ConsistentLedgerScope) (relatedLedgerEntryId : Uuid) (currency : String)
  | refundPartial (scope : ConsistentLedgerScope)
      (relatedLedgerEntryId refundOperationId : Uuid) (amount : FixedDecimal)
      (currency : String)
  | adminAdjustment (scope : ConsistentLedgerScope)
      (adjustmentOperationId : Uuid) (requestId : Option Uuid)
      (relatedLedgerEntryId : Option Uuid) (amount : FixedDecimal)
      (currency : String)

namespace ConsistentLedgerWriteRequest

def scope : ConsistentLedgerWriteRequest → ConsistentLedgerScope
  | reserve scope _ _ _ => scope
  | settle scope _ _ _ => scope
  | refundFull scope _ _ => scope
  | refundPartial scope _ _ _ _ => scope
  | adminAdjustment scope _ _ _ _ _ => scope

def currency : ConsistentLedgerWriteRequest → String
  | reserve _ _ _ currency => currency
  | settle _ _ _ currency => currency
  | refundFull _ _ currency => currency
  | refundPartial _ _ _ _ currency => currency
  | adminAdjustment _ _ _ _ _ currency => currency

def operation : ConsistentLedgerWriteRequest → LedgerOperationKind
  | reserve .. => .reserve
  | settle .. => .settle
  | refundFull .. => .refund
  | refundPartial .. => .refundPartial
  | adminAdjustment .. => .adminAdjustment

def idempotencyKey : ConsistentLedgerWriteRequest → String
  | reserve _ requestId _ _ => reserveLedgerIdempotencyKey requestId
  | settle _ requestId _ _ => settleLedgerIdempotencyKey requestId
  | refundFull _ relatedLedgerEntryId _ =>
    refundLedgerIdempotencyKey relatedLedgerEntryId
  | refundPartial _ relatedLedgerEntryId refundOperationId _ _ =>
    refundPartialLedgerIdempotencyKey relatedLedgerEntryId refundOperationId
  | adminAdjustment _ adjustmentOperationId _ _ _ _ =>
    adminAdjustmentLedgerIdempotencyKey adjustmentOperationId

end ConsistentLedgerWriteRequest

structure ConsistentWalletSnapshot where
  walletId : Uuid
  currency : String
  availableBalance : FixedDecimal
deriving DecidableEq

structure ConsistentCreditGrantSnapshot where
  grantId : Uuid
  currency : String
  remainingAmount : FixedDecimal
  active : Bool

inductive ConsistentBudgetDimension where
  | tenant
  | project
  | virtualKey
deriving DecidableEq

def ConsistentBudgetDimension.sortKey : ConsistentBudgetDimension → Nat
  | tenant => 0
  | project => 1
  | virtualKey => 2

structure ConsistentBudgetSnapshot where
  budgetId : Uuid
  dimension : ConsistentBudgetDimension
  currency : String
  remainingAmount : FixedDecimal
  active : Bool
deriving DecidableEq

structure ConsistentLedgerWriterState where
  wallet : Option ConsistentWalletSnapshot
  creditGrants : List ConsistentCreditGrantSnapshot
  budgets : List ConsistentBudgetSnapshot
  ledgerEntries : List LedgerEntryRecord

inductive ConsistentLedgerWriterError where
  | walletRequired
  | walletCurrencyMismatch (walletCurrency requestCurrency : String)
  | insufficientWalletBalance (available required : FixedDecimal)
  | insufficientBudget (budgetId : Uuid) (dimension : ConsistentBudgetDimension)
      (remaining required : FixedDecimal)
  | scaleMismatch (expected actual : Nat)
  | arithmeticOverflow
  | inMemoryStateConflict (reason : String)
  | ledger (error : LedgerContractError)
deriving DecidableEq

abbrev WriterResult :=
  Except ConsistentLedgerWriterError

structure ConsistentBalanceWindow where
  currency : String
  walletAvailableBalance : FixedDecimal
  activeCreditGrantTotal : FixedDecimal
  activeLedgerEffect : FixedDecimal
  availableBeforeWrite : FixedDecimal
  requiredDebit : FixedDecimal
  refundCredit : FixedDecimal
  availableAfterWrite : FixedDecimal
deriving DecidableEq

structure ConsistentWalletCheck where
  walletId : Uuid
  required : Bool
  passed : Bool
  reason : String
deriving DecidableEq

structure ConsistentBudgetCheck where
  budgetId : Uuid
  dimension : ConsistentBudgetDimension
  remainingBeforeWrite : FixedDecimal
  requiredDebit : FixedDecimal
  remainingAfterWrite : FixedDecimal
  passed : Bool
deriving DecidableEq

structure ConsistentLedgerWriterPlan where
  operation : LedgerOperationKind
  idempotencyKey : String
  outcome : LedgerOperationOutcome
  scope : ConsistentLedgerScope
  balanceWindow : ConsistentBalanceWindow
  walletCheck : ConsistentWalletCheck
  budgetChecks : List ConsistentBudgetCheck
  ledgerPlan : LedgerOperationPlan
deriving DecidableEq

namespace ConsistentWriter

def ensureSameScale (left right : FixedDecimal) : WriterResult Unit :=
  left.sameScaleOr .scaleMismatch right

def checkedAdd (left right : FixedDecimal) : WriterResult FixedDecimal := do
  ensureSameScale left right
  (left.checkedAdd right).mapError fun _ => .arithmeticOverflow

def checkedSubtract (left right : FixedDecimal) : WriterResult FixedDecimal := do
  ensureSameScale left right
  let units ← okOr .arithmeticOverflow (left.units.checkedSub right.units)
  (FixedDecimal.fromUnits units left.scale).mapError fun _ =>
    .arithmeticOverflow

def checkedNeg (value : FixedDecimal) : WriterResult FixedDecimal :=
  value.negateOr .arithmeticOverflow

def zero (scale : Nat) : WriterResult FixedDecimal :=
  (FixedDecimal.zero scale).mapError fun _ => .arithmeticOverflow

variable (request : ConsistentLedgerWriteRequest) (state : ConsistentLedgerWriterState)

def planInnerLedgerWrite (existingEntries : List LedgerEntryRecord) :
    ContractResult LedgerOperationPlan :=
  match request with
  | .reserve _ requestId amount currency =>
    LedgerContract.planLedgerReserve
      { requestId := requestId, amount := amount, currency := currency }
      existingEntries
  | .settle _ requestId finalCost currency =>
    LedgerContract.planLedgerSettle
      { requestId := requestId, finalCost := finalCost, currency := currency }
      existingEntries
  | .refundFull _ relatedLedgerEntryId currency =>
    LedgerContract.planLedgerRefund (.full relatedLedgerEntryId currency none) existingEntries
  | .refundPartial _ relatedLedgerEntryId refundOperationId amount currency =>
    LedgerContract.planLedgerRefund
      (.partialAmount relatedLedgerEntryId (some refundOperationId) (some amount) currency)
      existingEntries
  | .adminAdjustment _ adjustmentOperationId requestId relatedLedgerEntryId amount currency =>
      LedgerContract.planLedgerAdminAdjustment
        { adjustmentOperationId := adjustmentOperationId
          requestId := requestId
          relatedLedgerEntryId := relatedLedgerEntryId
          amount := amount
          currency := currency }
        existingEntries

/-- The scale is that of the first entry of the request, whatever its type. -/
def pendingReserveAmountForRequest (entries : List LedgerEntryRecord) (requestId : Uuid) :
    WriterResult FixedDecimal := do
  let scale := ((entries.find? fun entry => entry.requestId = some requestId).map
      fun entry => entry.amount.scale).getD defaultMoneyScale
  let zero ← zero scale
  (LedgerContract.pendingReserves entries requestId).foldlM (fun total entry => do
      let reserved ← checkedNeg entry.amount
      checkedAdd total reserved)
    zero

def requiredDebitForWrite : WriterResult FixedDecimal :=
  match request with
  | .reserve _ _ amount _ => .ok amount
  | .settle _ requestId finalCost _ => do
      let reserved ← pendingReserveAmountForRequest state.ledgerEntries requestId
      if reserved < finalCost then
        checkedSubtract finalCost reserved
      else
        zero finalCost.scale
  | .refundFull .. | .refundPartial .. =>
    zero ((state.wallet.map fun wallet => wallet.availableBalance.scale).getD defaultMoneyScale)
  | .adminAdjustment _ _ _ _ amount _ =>
    if amount.units.value < 0 then checkedNeg amount else zero amount.scale

def refundCreditForPlan (ledgerPlan : LedgerOperationPlan) (scale : Nat) :
    WriterResult FixedDecimal := do
  let zero ← zero scale
  ledgerPlan.entries.foldlM (fun total entry =>
      if 0 < entry.amount.units.value ∧ (entry.entryType = .refund ∨ entry.entryType = .adjust) then
        checkedAdd total entry.amount
      else
        .ok total)
    zero

def activeCreditGrantTotal (grants : List ConsistentCreditGrantSnapshot) (currency : String)
    (scale : Nat) : WriterResult FixedDecimal := do
  let zero ← zero scale
  (grants.filter fun grant => grant.active ∧ grant.currency = currency).foldlM
    (fun total grant => checkedAdd total grant.remainingAmount) zero

def activeLedgerEffect (entries : List LedgerEntryRecord) (currency : String) (scale : Nat) :
    WriterResult FixedDecimal := do
  let zero ← zero scale
  (entries.filter fun entry => entry.currency = currency ∧ entry.status.IsActive).foldlM
    (fun total entry => checkedAdd total entry.amount) zero

def balanceWindow (currency : String) (wallet : ConsistentWalletSnapshot)
    (state : ConsistentLedgerWriterState) (requiredDebit refundCredit : FixedDecimal) :
    WriterResult ConsistentBalanceWindow := do
  let grantTotal ← activeCreditGrantTotal state.creditGrants currency wallet.availableBalance.scale
  let ledgerEffect ← activeLedgerEffect state.ledgerEntries currency wallet.availableBalance.scale
  let walletAndGrants ← checkedAdd wallet.availableBalance grantTotal
  let availableBeforeWrite ← checkedAdd walletAndGrants ledgerEffect
  let availableAfterDebit ← checkedSubtract availableBeforeWrite requiredDebit
  let availableAfterWrite ← checkedAdd availableAfterDebit refundCredit
  return {
    currency := currency
    walletAvailableBalance := wallet.availableBalance
    activeCreditGrantTotal := grantTotal
    activeLedgerEffect := ledgerEffect
    availableBeforeWrite := availableBeforeWrite
    requiredDebit := requiredDebit
    refundCredit := refundCredit
    availableAfterWrite := availableAfterWrite }

def walletCheck (walletId : Uuid) (availableBeforeWrite requiredDebit : FixedDecimal) :
    ConsistentWalletCheck :=
  let passed := requiredDebit.isZero || requiredDebit ≤ availableBeforeWrite
  { walletId := walletId
    required := !requiredDebit.isZero
    passed := passed
    reason :=
      if passed then "available_balance_covers_required_debit"
      else "available_balance_below_required_debit" }

/-- The order in which budgets are checked: by dimension, then by
identifier. -/
def budgetPrecedes (left right : ConsistentBudgetSnapshot) : Prop :=
  left.dimension.sortKey < right.dimension.sortKey ∨
    left.dimension.sortKey = right.dimension.sortKey ∧ left.budgetId.asU128 ≤ right.budgetId.asU128

instance : DecidableRel budgetPrecedes :=
  fun _ _ => inferInstanceAs (Decidable (_ ∨ _))

def budgetCheck (requiredDebit : FixedDecimal) (budget : ConsistentBudgetSnapshot) :
    WriterResult ConsistentBudgetCheck := do
  let remainingAfterWrite ← checkedSubtract budget.remainingAmount requiredDebit
  return {
    budgetId := budget.budgetId
    dimension := budget.dimension
    remainingBeforeWrite := budget.remainingAmount
    requiredDebit := requiredDebit
    remainingAfterWrite := remainingAfterWrite
    passed := requiredDebit ≤ budget.remainingAmount }

def budgetChecks (budgets : List ConsistentBudgetSnapshot) (currency : String)
    (requiredDebit : FixedDecimal) : WriterResult (List ConsistentBudgetCheck) :=
  ((budgets.filter fun budget => budget.active ∧ budget.currency = currency).insertionSort
    budgetPrecedes).mapM (budgetCheck requiredDebit)

/-- A replay requires nothing; any other write requires its own debit. -/
def plannedDebit (wallet : ConsistentWalletSnapshot) (outcome : LedgerOperationOutcome) :
    WriterResult FixedDecimal :=
  match outcome with
  | .idempotent _ => zero wallet.availableBalance.scale
  | .apply => requiredDebitForWrite request state

def ensureBudgetsPassed (checks : List ConsistentBudgetCheck) : WriterResult Unit :=
  match checks.find? fun check => !check.passed with
  | none => .ok ()
  | some failed =>
    .error (.insufficientBudget failed.budgetId failed.dimension
      failed.remainingBeforeWrite failed.requiredDebit)

def planConsistentLedgerWrite : WriterResult ConsistentLedgerWriterPlan := do
  let ledgerPlan ← (planInnerLedgerWrite request state.ledgerEntries).mapError
    ConsistentLedgerWriterError.ledger
  let wallet ← okOr .walletRequired state.wallet
  ensure (wallet.currency = request.currency)
    (.walletCurrencyMismatch wallet.currency request.currency)
  let requiredDebit ← plannedDebit request state wallet ledgerPlan.outcome
  let refundCredit ← refundCreditForPlan ledgerPlan wallet.availableBalance.scale
  let window ← balanceWindow request.currency wallet state requiredDebit refundCredit
  let check := walletCheck wallet.walletId window.availableBeforeWrite requiredDebit
  ensure (check.passed = true)
    (.insufficientWalletBalance window.availableBeforeWrite requiredDebit)
  let checks ← budgetChecks state.budgets request.currency requiredDebit
  ensureBudgetsPassed checks
  return {
    operation := request.operation
    idempotencyKey := request.idempotencyKey
    outcome := ledgerPlan.outcome
    scope := request.scope
    balanceWindow := window
    walletCheck := check
    budgetChecks := checks
    ledgerPlan := ledgerPlan }

end ConsistentWriter

end FuboxApi
