import FuboxApi.PaymentWebhooks

/-!
# Refunds and chargebacks

A refund or chargeback runs as a series of statements outside a transaction. Its ledger row carries
the amount with a positive sign, and the hash that should recognise a repeated event is taken from
the identifier of the new payment event.
-/

namespace FuboxApi

open CheckedFold CreditWriters

/-- What a reversal reports about its ledger row and the voided grant. -/
structure ReversalReadback where
  refundWritten : Bool
  reversalLedgerEntryId : Option Uuid
  ledgerRefStatus : String
  ledgerRefReason : String
  creditReversalStatus : String
  creditReversalReason : String

/-- How the execution of a recorded event ends when it does not fail. -/
inductive PaymentPlanOutcome where
  | notRun (reason : String)
  | captured (outcome : CreditOutcome)
  | reversed (readback : ReversalReadback)

/-- The refund of an event, found by its hash or inserted. -/
structure RefundReference where
  refundId : Uuid
  written : Bool
  reversalLedgerEntryId : Option Uuid

/-- The ledger row of a reversal, with the status and reason of its readback. -/
structure LedgerReference where
  reversalLedgerEntryId : Option Uuid
  status : String
  reason : String

namespace PaymentReversal

open PaymentWebhooks

variable (runtime : ControlPlaneRuntime) (inputs : TransactionInputs) (newId : Uuid)
  (event : RecordedPaymentEvent) (capture : PaymentCaptureRow)

def reversalRefusal (captureAmount : FixedDecimal) : Option String :=
  let refs := event.request.refs
  if capture.currency ≠ event.currency ∨ event.amount.money.units ≠ captureAmount.units then
    some "reversal_amount_or_currency_mismatch"
  else if refDiffers refs.walletId capture.walletId ∨ refDiffers refs.orderId capture.orderId ∨
      optionalRefDiffers refs.projectId capture.projectId ∨
      refDiffers refs.paymentIntentId capture.paymentIntentId ∨
      optionalRefDiffers refs.creditGrantId capture.creditGrantId ∨
      optionalRefDiffers refs.ledgerEntryId capture.ledgerEntryId then
    some "reversal_ref_scope_mismatch"
  else none

def reversalIdempotencyHash : String :=
  event.idempotencyKeyHash.getD
    (runtime.sha256Hex ("payment-provider-reversal:idempotency:v1:" ++ event.paymentEventId.toText))

def reversalReason : PaymentProviderEventType → String
  | .chargeback => "provider_chargeback"
  | _ => "provider_refund"

variable (idempotencyHash : String) (database : BillingDatabase)

/-- Find the refund of the event, or insert it and mark the order. -/
def ensurePaymentRefund : AdminResult (RefundReference × BillingDatabase) :=
  let tenantId := event.request.tenantId
  match database.paymentRefunds.find? fun refund =>
      refund.tenantId = tenantId ∧ refund.idempotencyKeyHash = idempotencyHash with
  | some existing =>
    .ok (⟨existing.id, false, existing.reversalLedgerEntryId⟩, database)
  | none => do
      let amount ← assignMoney event.amount.toRat
      ensure (newId ∉ database.paymentRefunds.map PaymentRefundRow.id)
        (.database (.uniqueViolation "payment_refunds" "id"))
      return (⟨newId, true, none⟩, { database with
        paymentRefunds := database.paymentRefunds ++ [{
          id := newId
          tenantId := tenantId
          projectId := capture.projectId
          walletId := capture.walletId
          orderId := capture.orderId
          paymentCaptureId := capture.id
          currency := event.currency
          amount := amount
          reason := reversalReason event.request.eventType
          idempotencyKeyHash := idempotencyHash
          creditGrantId := capture.creditGrantId
          ledgerEntryId := capture.ledgerEntryId
          reversalLedgerEntryId := none }]
        paymentOrders := database.paymentOrders.map fun order =>
          if order.tenantId = tenantId ∧ order.id = capture.orderId then
            { order with status := .refunded }
          else order })

def reversalLedgerKey (refundId sourceLedgerEntryId : Uuid) : String :=
  "payment-provider-reversal-ledger:" ++
    runtime.sha256Hex (idempotencyHash ++ ":" ++ refundId.toText ++ ":" ++
      sourceLedgerEntryId.toText)

def reversalEntry (refundId sourceLedgerEntryId : Uuid) : LedgerEntryRow :=
  { creditLedgerEntry newId event.request.tenantId capture.projectId
      capture.walletId .refund event.amount.toRat event.currency
      (reversalLedgerKey runtime idempotencyHash refundId sourceLedgerEntryId) with
    relatedLedgerEntryId := some sourceLedgerEntryId }

/-- The source rows that a reversal accepts. -/
def IsReversalSafe (source : LedgerEntryRow) (sourceAmount : FixedDecimal) : Prop :=
  source.walletId = some capture.walletId ∧ source.currency = event.currency ∧
    source.status = .confirmed ∧
    source.entryType ∈ [LedgerRowType.creditGrant, .settle, .adjust] ∧
    event.amount.money.units.value ≤ sourceAmount.units.value

instance (source : LedgerEntryRow) (sourceAmount : FixedDecimal) :
    Decidable (IsReversalSafe event capture source sourceAmount) :=
  inferInstanceAs (Decidable (_ ∧ _))

/-- Store the reference to the ledger row in the refund. -/
def linkReversal (tenantId refundId reversalId : Uuid) (database : BillingDatabase) :
    BillingDatabase :=
  { database with
    paymentRefunds := database.paymentRefunds.map fun refund =>
      if refund.tenantId = tenantId ∧ refund.id = refundId ∧
          refund.reversalLedgerEntryId = none then
        { refund with reversalLedgerEntryId := some reversalId }
      else refund }

/-- An insert with `on conflict do nothing`, and a read by the key after it. -/
def writeReversalEntry (row : LedgerEntryRow) (database : BillingDatabase) :
    AdminResult (Uuid × BillingDatabase) :=
  match ledgerEntryWithKey database row.tenantId row.idempotencyKey with
  | some existing => .ok (existing.id, database)
  | none => do
      let database ← insertLedgerEntry database row
      return (row.id, database)

/-- Find or write the ledger row of the reversal. -/
def ensureReversalEntry (refund : RefundReference) (database : BillingDatabase) :
    AdminResult (LedgerReference × BillingDatabase) :=
  match refund.reversalLedgerEntryId, capture.ledgerEntryId with
  | some reversalId, _ =>
    .ok (⟨some reversalId, "read_back", "existing_reversal_ledger_ref"⟩, database)
  | none, none =>
    .ok (⟨none, "not_attempted", "source_capture_ledger_ref_missing"⟩, database)
  | none, some sourceId =>
    match database.ledgerEntries.find? fun row =>
        row.tenantId = event.request.tenantId ∧ row.id = sourceId with
    | none => .ok (⟨none, "refused", "source_ledger_ref_not_found"⟩, database)
    | some source => do
        let sourceAmount ← parseBillingFixedDecimal source.amount
        if IsReversalSafe event capture source sourceAmount then do
          let (reversalId, database) ← writeReversalEntry
            (reversalEntry runtime newId event capture idempotencyHash
              refund.refundId sourceId) database
          return (⟨some reversalId,
              if refund.written then "written" else "read_back",
              "reversal_ledger_ref_written"⟩,
            linkReversal event.request.tenantId refund.refundId reversalId database)
        else
          return (⟨none, "refused", "source_ledger_ref_not_reversal_safe"⟩, database)

def voidedGrant (grant : CreditGrantRow) : CreditGrantRow :=
  { grant with
    status := .voided
    remainingAmount := 0
    remaining_nonneg := le_refl 0
    remaining_le := grant.amount_pos.le }

def grantMatchesCapture (grant : CreditGrantRow) (grantAmount : FixedDecimal) : Prop :=
  grant.walletId = capture.walletId ∧ grant.currency = event.currency ∧
    grantAmount = event.amount.money ∧ grant.source = "payment_provider_capture"

instance (grant : CreditGrantRow) (grantAmount : FixedDecimal) :
    Decidable (grantMatchesCapture event capture grant grantAmount) :=
  inferInstanceAs (Decidable (_ ∧ _))

def voidCapturedGrant (grantId : Uuid) (database : BillingDatabase) : BillingDatabase :=
  { database with
    creditGrants := database.creditGrants.map fun grant =>
      if grant.id = grantId ∧ grant.tenantId = event.request.tenantId ∧
          grant.walletId = capture.walletId ∧ grant.currency = event.currency ∧
          grant.amount = event.amount.toRat ∧
          grant.remainingAmount = event.amount.toRat ∧
          grant.source = "payment_provider_capture" ∧ grant.status = .active then
        voidedGrant grant
      else grant }

/-- Void the grant of the capture; the status and reason of the readback come
first. -/
def reverseSourceGrant (reversalLedgerEntryId : Option Uuid) (database : BillingDatabase) :
    AdminResult ((String × String) × BillingDatabase) :=
  match capture.creditGrantId with
  | none => .ok (("blocked", "source_credit_grant_missing"), database)
  | some grantId =>
    match database.creditGrants.find? fun grant =>
        grant.tenantId = event.request.tenantId ∧ grant.id = grantId with
    | none => .ok (("blocked", "source_credit_grant_not_found"), database)
    | some grant => do
        let grantAmount ← parseBillingFixedDecimal grant.amount
        let grantRemainingAmount ← parseBillingFixedDecimal grant.remainingAmount
        if reversalLedgerEntryId = none then
          return (("blocked", "reversal_ledger_entry_missing"), database)
        else if grant.status = .voided ∧ grantMatchesCapture event capture grant grantAmount then
          return (("read_back", "source_credit_grant_already_voided"), database)
        else if grant.status = .active ∧ grantMatchesCapture event capture grant grantAmount ∧
            grantRemainingAmount = event.amount.money then
          return (("written", "source_credit_grant_voided"),
            voidCapturedGrant event capture grantId database)
        else if ¬ grantMatchesCapture event capture grant grantAmount then
          return (("blocked", "source_credit_grant_capture_wallet_currency_amount_source_mismatch"),
            database)
        else if grant.status ≠ .active then
          return (("blocked", "source_credit_grant_status_not_active"), database)
        else
          return (("blocked", "source_credit_grant_remaining_amount_mismatch"), database)

/-- The statements of an accepted reversal. Each one is committed on its own,
so a later failure keeps the earlier writes. -/
def reverseCapture : BillingDatabase × AdminResult PaymentPlanOutcome :=
  let idempotencyHash := reversalIdempotencyHash runtime event
  match ensurePaymentRefund inputs.newRowId event capture idempotencyHash
      database with
  | .error failure => (database, .error failure)
  | .ok (refund, refunded) =>
    match ensureReversalEntry runtime inputs.newLedgerEntryId event capture
        idempotencyHash refund refunded with
    | .error failure => (refunded, .error failure)
    | .ok (entry, reversed) =>
      match reverseSourceGrant event capture entry.reversalLedgerEntryId
          reversed with
      | .error failure => (reversed, .error failure)
      | .ok ((status, reason), after) =>
        (after, .ok (.reversed ⟨refund.written, entry.reversalLedgerEntryId,
          entry.status, entry.reason, status, reason⟩))

def executePaymentProviderReversalPlan : BillingDatabase × AdminResult PaymentPlanOutcome :=
  match event.request.refs.paymentCaptureId with
  | none => (database, .ok (.notRun "payment_capture_id_required"))
  | some captureId =>
    match database.paymentCaptures.find? fun capture =>
        capture.tenantId = event.request.tenantId ∧ capture.id = captureId with
    | none => (database, .ok (.notRun "payment_capture_not_found"))
    | some capture =>
      match parseBillingFixedDecimal capture.amount with
      | .error failure => (database, .error failure)
      | .ok captureAmount =>
        match reversalRefusal event capture captureAmount with
        | some reason => (database, .ok (.notRun reason))
        | none => reverseCapture runtime inputs event capture database

def executeVerifiedPaymentProviderBusinessPlan : BillingDatabase × AdminResult PaymentPlanOutcome :=
  match event.request.eventType with
  | .callback => (database, .ok (.notRun "callback_event_recorded_only"))
  | .capture =>
    match executePaymentProviderCapturePlan runtime inputs event database with
    | .error failure => (database, .error failure)
    | .ok (outcome, after) => (after, .ok (.captured outcome))
  | .refund | .chargeback =>
    executePaymentProviderReversalPlan runtime inputs event database

end PaymentReversal

structure WebhookDelivery where
  newEventId : Uuid
  inputs : TransactionInputs
  webhook : ProviderWebhook

namespace WebhookDelivery

open PaymentWebhooks PaymentReversal

/-- Record the event of a delivery and execute it. -/
def deliver (runtime : ControlPlaneRuntime) (database : BillingDatabase)
    (delivery : WebhookDelivery) : BillingDatabase × AdminResult PaymentPlanOutcome :=
  match recordPaymentProviderWebhook runtime delivery.newEventId delivery.webhook
      database with
  | .error failure => (database, .error failure)
  | .ok (event, recorded) =>
    executeVerifiedPaymentProviderBusinessPlan runtime delivery.inputs event recorded

end WebhookDelivery

end FuboxApi
