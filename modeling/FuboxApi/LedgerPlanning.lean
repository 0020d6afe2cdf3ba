import FuboxApi.LedgerEntries

/-!
# Planning ledger operations

Each planning function validates a request, looks its idempotency key up, and answers with a replay,
or with one draft entry and the status updates that go with it.
-/

namespace FuboxApi

open CheckedFold

structure ReserveLedgerRequest where
  requestId : Uuid
  amount : FixedDecimal
  currency : String

structure SettleLedgerRequest where
  requestId : Uuid
  finalCost : FixedDecimal
  currency : String

inductive RefundLedgerRequest where
  | full (relatedLedgerEntryId : Uuid) (currency : String) (amount : Option FixedDecimal)
  | partialAmount (relatedLedgerEntryId : Uuid)
      (refundOperationId : Option Uuid) (amount : Option FixedDecimal)
      (currency : String)

structure AdminAdjustmentLedgerRequest where
  adjustmentOperationId : Uuid
  requestId : Option Uuid
  relatedLedgerEntryId : Option Uuid
  amount : FixedDecimal
  currency : String

namespace LedgerContract

def checkedNeg (value : FixedDecimal) : ContractResult FixedDecimal :=
  value.negateOr .arithmeticOverflow

def ensureSameScale (expected actual : FixedDecimal) : ContractResult Unit :=
  expected.sameScaleOr .scaleMismatch actual

def checkedSubtract (left right : FixedDecimal) : ContractResult FixedDecimal := do
  ensureSameScale left right
  let negated ← checkedNeg right
  (left.checkedAdd negated).mapError fun _ => .arithmeticOverflow

def requirePositive (field : String) (amount : FixedDecimal) : ContractResult Unit :=
  ensure (0 < amount.units.value) (.nonPositiveAmount field)

def debitAmount (field : String) (amount : FixedDecimal) : ContractResult FixedDecimal := do
  requirePositive field amount
  checkedNeg amount

def validateCurrency (currency : String) : ContractResult Unit :=
  ensure (isCurrencyCode currency = true) (.invalidCurrency currency)

variable (entryType : LedgerEntryType) (source : LedgerEntryRecord) (request : SettleLedgerRequest)
  (existingEntries : List LedgerEntryRecord) (requestId : Uuid) (entry : LedgerEntryRecord)

def findByIdempotencyKey (idempotencyKey : String) : Option LedgerEntryRecord :=
  existingEntries.find? fun entry => entry.idempotencyKey = idempotencyKey

/-- An active entry of the given type for a request. -/
def IsActiveFor : Prop :=
  entry.requestId = some requestId ∧ entry.entryType = entryType ∧ entry.status.IsActive

instance : Decidable (IsActiveFor entryType requestId entry) :=
  inferInstanceAs (Decidable (_ ∧ _))

def findActiveForRequest : Option LedgerEntryRecord :=
  existingEntries.find? fun entry => IsActiveFor entryType requestId entry

def findActiveReserveForRequest : List LedgerEntryRecord → Uuid → Option LedgerEntryRecord :=
  findActiveForRequest .reserve

def findActiveSettleForRequest : List LedgerEntryRecord → Uuid → Option LedgerEntryRecord :=
  findActiveForRequest .settle

def IsPendingReserveFor : Prop :=
  entry.requestId = some requestId ∧ entry.entryType = .reserve ∧ entry.status = .pending

instance : Decidable (IsPendingReserveFor requestId entry) :=
  inferInstanceAs (Decidable (_ ∧ _))

def pendingReserves : List LedgerEntryRecord :=
  existingEntries.filter fun entry => IsPendingReserveFor requestId entry

def reserveSettledUpdate : LedgerStatusUpdate where
  ledgerEntryId := entry.id
  fromStatus := .pending
  toStatus := .reversed
  reason := .reserveSettled

def pendingReserveUpdatesForSettle (settleCurrency : String) :
    ContractResult (List LedgerStatusUpdate) :=
  (pendingReserves existingEntries requestId).mapM fun entry => do
    ensure (entry.currency = settleCurrency)
      (.reserveCurrencyMismatch entry.currency settleCurrency)
    return reserveSettledUpdate entry

def findRefundSource (relatedLedgerEntryId : Uuid) : ContractResult LedgerEntryRecord := do
  let source ← okOr (.refundSourceNotFound relatedLedgerEntryId)
    (existingEntries.find? fun entry => entry.id = relatedLedgerEntryId)
  ensure (source.entryType = .settle ∧ source.status = .confirmed ∧ source.amount.units.value < 0)
    (.refundSourceNotConfirmedSettleDebit relatedLedgerEntryId)
  return source

def IsActiveRefundOf (sourceId : Uuid) (entry : LedgerEntryRecord) : Prop :=
  entry.relatedLedgerEntryId = some sourceId ∧ entry.entryType = .refund ∧ entry.status.IsActive

instance (sourceId : Uuid) (entry : LedgerEntryRecord) :
    Decidable (IsActiveRefundOf sourceId entry) :=
  inferInstanceAs (Decidable (_ ∧ _))

def addRefund (total : FixedDecimal) (entry : LedgerEntryRecord) : ContractResult FixedDecimal := do
  requirePositive "refund.amount" entry.amount
  (total.checkedAdd entry.amount).mapError fun _ => .arithmeticOverflow

def remainingRefundableAmountExcluding (excludedEntryId : Uuid) : ContractResult FixedDecimal := do
  let zero ← (FixedDecimal.zero source.amount.scale).mapError
    fun _ => LedgerContractError.arithmeticOverflow
  let debited ← checkedNeg source.amount
  let refunded ← (existingEntries.filter fun entry =>
        entry.id ≠ excludedEntryId ∧ IsActiveRefundOf source.id entry).foldlM
      addRefund zero
  checkedSubtract debited refunded

def remainingRefundableAmount : ContractResult FixedDecimal :=
  remainingRefundableAmountExcluding source existingEntries Uuid.nil

/-- The stored entry has the draft's shape. A reserve that a later settle
reversed still counts as the pending reserve it was drafted as. -/
def ensureExistingMatchesDraft (existing : LedgerEntryRecord) (draft : LedgerEntryDraft) :
    ContractResult Unit :=
  ensure (existing.requestId = draft.requestId ∧
      existing.relatedLedgerEntryId = draft.relatedLedgerEntryId ∧
      existing.entryType = draft.entryType ∧ existing.amount = draft.amount ∧
      existing.currency = draft.currency ∧ (existing.status = draft.status ∨
        draft.entryType = .reserve ∧ draft.status = .pending ∧ existing.status = .reversed))
    (.idempotencyConflict draft.idempotencyKey)

structure NormalizedRefundRequest where
  relatedLedgerEntryId : Uuid
  amount : Option FixedDecimal
  currency : String
  kind : LedgerRefundKind
  operation : LedgerOperationKind
  idempotencyKey : String

def normalizeRefundRequest : RefundLedgerRequest → ContractResult NormalizedRefundRequest
  | .full relatedLedgerEntryId currency amount => do
      ensure (amount = none) .fullRefundAmountNotAllowed
      return {
        relatedLedgerEntryId := relatedLedgerEntryId
        amount := amount
        currency := currency
        kind := .full
        operation := .refund
        idempotencyKey := refundLedgerIdempotencyKey relatedLedgerEntryId }
  | .partialAmount relatedLedgerEntryId refundOperationId amount currency => do
      let refundOperationId ← okOr .partialRefundOperationIdRequired refundOperationId
      return {
        relatedLedgerEntryId := relatedLedgerEntryId
        amount := amount
        currency := currency
        kind := .partialAmount
        operation := .refundPartial
        idempotencyKey := refundPartialLedgerIdempotencyKey relatedLedgerEntryId refundOperationId }

def ensureExistingMatchesRefund (existing : LedgerEntryRecord) (refund : NormalizedRefundRequest)
    (remainingExcludingExisting : FixedDecimal) : ContractResult Unit := do
  ensure (existing.relatedLedgerEntryId = some refund.relatedLedgerEntryId ∧
      existing.entryType = .refund ∧ existing.status = .confirmed ∧
      existing.currency = refund.currency ∧ 0 < existing.amount.units.value)
    (.idempotencyConflict refund.idempotencyKey)
  ensure (existing.amount = refund.amount.getD remainingExcludingExisting)
    (.idempotencyConflict refund.idempotencyKey)

def applyPlan (operation : LedgerOperationKind) (idempotencyKey : String)
    (draft : LedgerEntryDraft) : LedgerOperationPlan where
  operation := operation
  idempotencyKey := idempotencyKey
  outcome := .apply
  entries := [draft]
  statusUpdates := []

def idempotentPlan (operation : LedgerOperationKind) (idempotencyKey : String)
    (existingEntryId : Uuid) : LedgerOperationPlan where
  operation := operation
  idempotencyKey := idempotencyKey
  outcome := .idempotent existingEntryId
  entries := []
  statusUpdates := []

def reserveDraft (request : ReserveLedgerRequest) (amount : FixedDecimal) : LedgerEntryDraft where
  requestId := some request.requestId
  relatedLedgerEntryId := none
  entryType := .reserve
  amount := amount
  currency := request.currency
  status := .pending
  idempotencyKey := reserveLedgerIdempotencyKey request.requestId
  metadata := .reserve request.requestId

def planLedgerReserve (request : ReserveLedgerRequest) (existingEntries : List LedgerEntryRecord) :
    ContractResult LedgerOperationPlan := do
  validateCurrency request.currency
  let amount ← debitAmount "amount" request.amount
  let draft := reserveDraft request amount
  match findByIdempotencyKey existingEntries draft.idempotencyKey with
  | some existing => do
      ensureExistingMatchesDraft existing draft
      return idempotentPlan .reserve draft.idempotencyKey existing.id
  | none => do
      ensure (findActiveSettleForRequest existingEntries request.requestId = none)
        (.requestAlreadySettled request.requestId)
      ensure (findActiveReserveForRequest existingEntries request.requestId = none)
        (.requestAlreadyReserved request.requestId)
      return applyPlan .reserve draft.idempotencyKey draft

def settleDraft (amount : FixedDecimal) (metadata : LedgerEntryMetadata) : LedgerEntryDraft where
  requestId := some request.requestId
  relatedLedgerEntryId := none
  entryType := .settle
  amount := amount
  currency := request.currency
  status := .confirmed
  idempotencyKey := settleLedgerIdempotencyKey request.requestId
  metadata := metadata

def planLedgerSettleWithMetadata (metadata : LedgerEntryMetadata) :
    ContractResult LedgerOperationPlan := do
  validateCurrency request.currency
  let amount ← debitAmount "final_cost" request.finalCost
  let draft := settleDraft request amount metadata
  match findByIdempotencyKey existingEntries draft.idempotencyKey with
  | some existing => do
      ensureExistingMatchesDraft existing draft
      return idempotentPlan .settle draft.idempotencyKey existing.id
  | none => do
      ensure (findActiveSettleForRequest existingEntries request.requestId = none)
        (.requestAlreadySettled request.requestId)
      let statusUpdates ← pendingReserveUpdatesForSettle existingEntries
        request.requestId draft.currency
      return { applyPlan .settle draft.idempotencyKey draft with
        statusUpdates := statusUpdates }

def planLedgerSettle : ContractResult LedgerOperationPlan :=
  planLedgerSettleWithMetadata request existingEntries (.settle request.requestId)

def refundDraft (refund : NormalizedRefundRequest) (amount : FixedDecimal) : LedgerEntryDraft where
  requestId := source.requestId
  relatedLedgerEntryId := some source.id
  entryType := .refund
  amount := amount
  currency := source.currency
  status := .confirmed
  idempotencyKey := refund.idempotencyKey
  metadata := .refund source.id refund.kind

/-- What a new refund pays back: everything that remains, or a requested part
that leaves something over. -/
def refundAmount (refund : NormalizedRefundRequest) (remaining : FixedDecimal) :
    ContractResult FixedDecimal :=
  match refund.kind with
  | .full => .ok remaining
  | .partialAmount => do
      let requested ← okOr .partialRefundAmountRequired refund.amount
      requirePositive "amount" requested
      ensureSameScale remaining requested
      ensure (requested < remaining) (.partialRefundConsumesRemaining requested remaining)
      return requested

def planLedgerRefund (request : RefundLedgerRequest) (existingEntries : List LedgerEntryRecord) :
    ContractResult LedgerOperationPlan := do
  let refund ← normalizeRefundRequest request
  validateCurrency refund.currency
  let source ← findRefundSource existingEntries refund.relatedLedgerEntryId
  ensure (source.currency = refund.currency)
    (.refundCurrencyMismatch source.currency refund.currency)
  match findByIdempotencyKey existingEntries refund.idempotencyKey with
  | some existing => do
      let remainingExcludingExisting ←
        remainingRefundableAmountExcluding source existingEntries existing.id
      ensureExistingMatchesRefund existing refund remainingExcludingExisting
      return idempotentPlan refund.operation refund.idempotencyKey existing.id
  | none => do
      let remaining ← remainingRefundableAmount source existingEntries
      let amount ← refundAmount refund remaining
      requirePositive "remaining_refundable_amount" amount
      ensure (amount ≤ remaining) (.refundAmountExceedsRemaining amount remaining)
      return applyPlan refund.operation refund.idempotencyKey (refundDraft source refund amount)

def adminAdjustmentDraft (request : AdminAdjustmentLedgerRequest) : LedgerEntryDraft where
  requestId := request.requestId
  relatedLedgerEntryId := request.relatedLedgerEntryId
  entryType := .adjust
  amount := request.amount
  currency := request.currency
  status := .confirmed
  idempotencyKey :=
    adminAdjustmentLedgerIdempotencyKey request.adjustmentOperationId
  metadata := .adminAdjustment request.requestId request.relatedLedgerEntryId
    (if 0 < request.amount.units.value then .credit else .debit)

def planLedgerAdminAdjustment (request : AdminAdjustmentLedgerRequest)
    (existingEntries : List LedgerEntryRecord) : ContractResult LedgerOperationPlan := do
  validateCurrency request.currency
  ensure (request.amount.isZero = false) .adminAdjustmentZeroAmount
  let draft := adminAdjustmentDraft request
  match findByIdempotencyKey existingEntries draft.idempotencyKey with
  | some existing => do
      ensureExistingMatchesDraft existing draft
      return idempotentPlan .adminAdjustment draft.idempotencyKey existing.id
  | none =>
    return applyPlan .adminAdjustment draft.idempotencyKey draft

end LedgerContract

end FuboxApi
