import FuboxApi.FixedDecimal
import FuboxApi.Uuid

/-!
# Ledger entries and operation plans

The rows of a ledger, the drafts and status updates that a planned operation asks for, and the
idempotency keys that name the operations.
-/

namespace FuboxApi

inductive LedgerEntryType where
  | reserve
  | settle
  | refund
  | adjust
deriving DecidableEq

inductive LedgerEntryStatus where
  | pending
  | confirmed
  | reversed
deriving DecidableEq

namespace LedgerEntryStatus

/-- Pending and confirmed entries count; reversed ones do not. -/
def IsActive (status : LedgerEntryStatus) : Prop :=
  status = pending ∨ status = confirmed

instance (status : LedgerEntryStatus) : Decidable status.IsActive :=
  inferInstanceAs (Decidable (_ ∨ _))

@[simp]
theorem isActive_pending : pending.IsActive :=
  Or.inl rfl

@[simp]
theorem isActive_confirmed : confirmed.IsActive :=
  Or.inr rfl

@[simp]
theorem not_isActive_reversed : ¬ reversed.IsActive := by
  simp [IsActive]

end LedgerEntryStatus

inductive LedgerOperationKind where
  | reserve
  | settle
  | refund
  | refundPartial
  | adminAdjustment
deriving DecidableEq

inductive LedgerRefundKind where
  | full
  | partialAmount
deriving DecidableEq

inductive LedgerAdminAdjustmentKind where
  | credit
  | debit
deriving DecidableEq

inductive LedgerStatusUpdateReason where
  | reserveSettled
deriving DecidableEq

structure LedgerEntryRecord where
  id : Uuid
  requestId : Option Uuid
  relatedLedgerEntryId : Option Uuid
  entryType : LedgerEntryType
  amount : FixedDecimal
  currency : String
  status : LedgerEntryStatus
  idempotencyKey : String
deriving DecidableEq

structure LedgerEntryMetadata where
  operation : LedgerOperationKind
  requestId : Option Uuid
  relatedLedgerEntryId : Option Uuid
  refundKind : Option LedgerRefundKind
  adminAdjustmentKind : Option LedgerAdminAdjustmentKind
deriving DecidableEq

structure LedgerEntryDraft where
  requestId : Option Uuid
  relatedLedgerEntryId : Option Uuid
  entryType : LedgerEntryType
  amount : FixedDecimal
  currency : String
  status : LedgerEntryStatus
  idempotencyKey : String
  metadata : LedgerEntryMetadata
deriving DecidableEq

structure LedgerStatusUpdate where
  ledgerEntryId : Uuid
  fromStatus : LedgerEntryStatus
  toStatus : LedgerEntryStatus
  reason : LedgerStatusUpdateReason
deriving DecidableEq

inductive LedgerOperationOutcome where
  | apply
  | idempotent (existingEntryId : Uuid)
deriving DecidableEq

structure LedgerOperationPlan where
  operation : LedgerOperationKind
  idempotencyKey : String
  outcome : LedgerOperationOutcome
  entries : List LedgerEntryDraft
  statusUpdates : List LedgerStatusUpdate
deriving DecidableEq

inductive LedgerContractError where
  | nonPositiveAmount (field : String)
  | invalidCurrency (currency : String)
  | idempotencyConflict (key : String)
  | requestAlreadyReserved (requestId : Uuid)
  | requestAlreadySettled (requestId : Uuid)
  | reserveCurrencyMismatch (reserveCurrency settleCurrency : String)
  | refundSourceNotFound (ledgerEntryId : Uuid)
  | refundSourceNotConfirmedSettleDebit (ledgerEntryId : Uuid)
  | refundCurrencyMismatch (expected actual : String)
  | fullRefundAmountNotAllowed
  | partialRefundAmountRequired
  | partialRefundOperationIdRequired
  | partialRefundConsumesRemaining (requested remaining : FixedDecimal)
  | adminAdjustmentZeroAmount
  | refundAmountExceedsRemaining (requested remaining : FixedDecimal)
  | scaleMismatch (expected actual : Nat)
  | arithmeticOverflow
deriving DecidableEq

abbrev ContractResult :=
  Except LedgerContractError

def reserveLedgerIdempotencyKey (requestId : Uuid) : String :=
  "reserve:" ++ requestId.toText

def settleLedgerIdempotencyKey (requestId : Uuid) : String :=
  "settle:" ++ requestId.toText

def refundLedgerIdempotencyKey (relatedLedgerEntryId : Uuid) : String :=
  "refund:" ++ relatedLedgerEntryId.toText

def refundPartialLedgerIdempotencyKey (relatedLedgerEntryId refundOperationId : Uuid) : String :=
  "refund_partial:" ++ relatedLedgerEntryId.toText ++ ":" ++ refundOperationId.toText

def adminAdjustmentLedgerIdempotencyKey (adjustmentOperationId : Uuid) : String :=
  "admin_adjustment:" ++ adjustmentOperationId.toText

/-- An identifier for worked cases. -/
def sampleId (number : Nat) : Uuid :=
  (Uuid.fromU128 number).getD Uuid.nil

/-- An amount in hundred-millionths for worked cases. -/
def sampleMoney (units : Int) : FixedDecimal :=
  ⟨(BoundedInt.checked units).getD zeroUnits, defaultMoneyScale, defaultMoneyScale_le⟩

namespace LedgerEntryMetadata

def reserve (requestId : Uuid) : LedgerEntryMetadata where
  operation := .reserve
  requestId := some requestId
  relatedLedgerEntryId := none
  refundKind := none
  adminAdjustmentKind := none

def settle (requestId : Uuid) : LedgerEntryMetadata where
  operation := .settle
  requestId := some requestId
  relatedLedgerEntryId := none
  refundKind := none
  adminAdjustmentKind := none

def refund (relatedLedgerEntryId : Uuid) (refundKind : LedgerRefundKind) : LedgerEntryMetadata where
  operation :=
    match refundKind with
    | .full => .refund
    | .partialAmount => .refundPartial
  requestId := none
  relatedLedgerEntryId := some relatedLedgerEntryId
  refundKind := some refundKind
  adminAdjustmentKind := none

def adminAdjustment (requestId relatedLedgerEntryId : Option Uuid)
    (adjustmentKind : LedgerAdminAdjustmentKind) : LedgerEntryMetadata where
  operation := .adminAdjustment
  requestId := requestId
  relatedLedgerEntryId := relatedLedgerEntryId
  refundKind := none
  adminAdjustmentKind := some adjustmentKind

end LedgerEntryMetadata

end FuboxApi
