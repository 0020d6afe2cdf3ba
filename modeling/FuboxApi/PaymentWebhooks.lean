import FuboxApi.CreditWriters

/-!
# Payment webhooks and captures

A verified webhook is normalised, recorded as a payment event, and then executed. The hash that
should recognise a repeated capture is taken from the identifier of the new event. A capture locks
the payment intent and does not look at its status.
-/

namespace FuboxApi

open CheckedFold CreditWriters

inductive PaymentProviderEventType where
  | callback
  | capture
  | refund
  | chargeback
deriving DecidableEq

structure PaymentProviderEventMappingReadback where
  providerEventType : Option String
  normalizedEventType : Option PaymentProviderEventType
  unsupportedReason : Option String

/-- The local references that the metadata of an event may carry. -/
structure PaymentEventRefs where
  orderId : Option Uuid
  projectId : Option Uuid
  walletId : Option Uuid
  paymentIntentId : Option Uuid
  paymentCaptureId : Option Uuid
  creditGrantId : Option Uuid
  ledgerEntryId : Option Uuid

/-- A webhook whose signature was verified. -/
structure ProviderWebhook where
  provider : String
  providerEventType : Option String
  externalEventId : String
  tenantId : Uuid
  amount : ℚ
  currency : String
  refs : PaymentEventRefs

structure PaymentProviderWebhookEventRequest where
  tenantId : Uuid
  eventType : PaymentProviderEventType
  externalEventId : String
  amount : ℚ
  currency : String
  idempotencyKey : Option String
  refs : PaymentEventRefs

structure RecordedPaymentEvent where
  request : PaymentProviderWebhookEventRequest
  paymentEventId : Uuid
  externalEventIdHash : String
  amount : PositiveAmount
  currency : String
  idempotencyKeyHash : Option String

namespace PaymentWebhooks

def normalizedEventType : Option String → Option PaymentProviderEventType
  | some "checkout.session.completed" | some "payment_intent.created" =>
    some .callback
  | some "payment_intent.succeeded" | some "charge.succeeded" => some .capture
  | some "charge.refunded" | some "refund.created" | some "refund.succeeded" =>
    some .refund
  | some "charge.dispute.created" | some "charge.dispute.closed" =>
    some .chargeback
  | _ => none

def mapStripeLikeEventType (providerEventType : Option String) :
    PaymentProviderEventMappingReadback where
  providerEventType := providerEventType
  normalizedEventType := normalizedEventType providerEventType
  unsupportedReason :=
    if providerEventType = none then some "event_type_missing"
    else if normalizedEventType providerEventType = none then
      some "event_type_not_supported"
    else none

/-- The adapter never fills the idempotency key. -/
def requestFromNormalizedAdapterEvent (webhook : ProviderWebhook)
    (eventType : PaymentProviderEventType) : PaymentProviderWebhookEventRequest where
  tenantId := webhook.tenantId
  eventType := eventType
  externalEventId := webhook.externalEventId
  amount := webhook.amount
  currency := webhook.currency
  idempotencyKey := none
  refs := webhook.refs

def nonEmpty (value field : String) : AdminResult String := do
  ensure (¬ value.toList.all Char.isWhitespace) (.badRequest (field ++ " must not be empty"))
  return value

def validateLocalPaymentDemoScope (tenantId : Uuid) : AdminResult Unit :=
  ensure (tenantId = defaultTenantId)
    (.badRequest "tenant_id must match the current control-plane tenant")

def normalizeLocalPaymentDemoCurrency (currency : String) : AdminResult String := do
  let currency ← nonEmpty currency "currency"
  (LedgerContract.validateCurrency currency).mapError fun _ =>
    .badRequest "currency must be an uppercase currency code"
  return currency

def dbEventType : PaymentProviderEventType → String
  | .callback => "provider_handoff"
  | .capture => "capture_confirm"
  | .refund => "refund"
  | .chargeback => "refusal"

def externalEventIdHash (runtime : ControlPlaneRuntime) (provider externalEventId : String) :
    String :=
  runtime.sha256Hex ("payment-provider-webhook:event:v1:" ++ provider ++ ":" ++ externalEventId)

def insertPaymentEvent (newId : Uuid) (request : PaymentProviderWebhookEventRequest)
    (database : BillingDatabase) : AdminResult BillingDatabase := do
  ensure (newId ∉ database.paymentEvents.map PaymentEventRow.id)
    (.database (.uniqueViolation "payment_events" "id"))
  ensure (∀ intentId ∈ request.refs.paymentIntentId, ∃ intent ∈ database.paymentIntents,
        intent.tenantId = request.tenantId ∧ intent.id = intentId)
    (.database (.foreignKeyViolation "payment_events" "payment_intent_id"))
  ensure (∀ captureId ∈ request.refs.paymentCaptureId, ∃ capture ∈ database.paymentCaptures,
        capture.tenantId = request.tenantId ∧ capture.id = captureId)
    (.database (.foreignKeyViolation "payment_events" "payment_capture_id"))
  return { database with
    paymentEvents := database.paymentEvents ++ [{
      id := newId
      tenantId := request.tenantId
      paymentIntentId := request.refs.paymentIntentId
      paymentCaptureId := request.refs.paymentCaptureId
      eventType := dbEventType request.eventType }] }

def recordPaymentProviderWebhook (runtime : ControlPlaneRuntime) (newId : Uuid)
    (webhook : ProviderWebhook) (database : BillingDatabase) :
    AdminResult (RecordedPaymentEvent × BillingDatabase) := do
  let mapping := mapStripeLikeEventType webhook.providerEventType
  let eventType ← okOr
    (.badRequest (mapping.unsupportedReason.getD "unsupported_payment_provider_event"))
    mapping.normalizedEventType
  let request := requestFromNormalizedAdapterEvent webhook eventType
  validateLocalPaymentDemoScope request.tenantId
  let externalEventId ← nonEmpty request.externalEventId "external_event_id"
  let amount ← normalizeLocalPaymentDemoAmount request.amount
  let currency ← normalizeLocalPaymentDemoCurrency request.currency
  let database ← insertPaymentEvent newId request database
  return ({
    request := request
    paymentEventId := newId
    externalEventIdHash :=
      externalEventIdHash runtime webhook.provider externalEventId
    amount := amount
    currency := currency
    idempotencyKeyHash := request.idempotencyKey.map fun key =>
      runtime.sha256Hex ("payment-provider-webhook:idempotency:v1:" ++ key) }, database)

/-- A given reference that differs from the stored one. -/
def refDiffers (given : Option Uuid) (stored : Uuid) : Bool :=
  given.any fun provided => provided ≠ stored

variable (runtime : ControlPlaneRuntime) (inputs : TransactionInputs) (newId : Uuid)
  (event : RecordedPaymentEvent) (intent : PaymentIntentRow)

/-- The same for a stored reference that may be null. -/
def optionalRefDiffers (given stored : Option Uuid) : Bool :=
  given.any fun provided => some provided ≠ stored

def captureRefusal (intentAmount : FixedDecimal) (database : BillingDatabase) : Option String :=
  if intent.currency ≠ event.currency ∨ intentAmount ≠ event.amount.money then
    some "capture_amount_or_currency_mismatch"
  else if refDiffers event.request.refs.walletId intent.walletId ∨
      refDiffers event.request.refs.orderId intent.orderId ∨
      optionalRefDiffers event.request.refs.projectId intent.projectId then
    some "capture_ref_scope_mismatch"
  else if lockCreditGrantWallet database event.request.tenantId intent.walletId ≠
      some event.currency then
    some "wallet_currency_mismatch"
  else none

def captureIdempotencyHash : String :=
  event.idempotencyKeyHash.getD
    (runtime.sha256Hex ("payment-provider-capture:idempotency:v1:" ++ event.paymentEventId.toText))

def insertPaymentCapture (idempotencyHash : String) (database : BillingDatabase) :
    AdminResult (PaymentCaptureRow × BillingDatabase) :=
  match assigned : moneyColumn.assign event.amount.toRat with
  | none => .error (.database .numericValueOutOfRange)
  | some amount =>
    if positive : 0 < amount then do
      ensure (newId ∉ database.paymentCaptures.map PaymentCaptureRow.id)
        (.database (.uniqueViolation "payment_captures" "id"))
      ensure (∀ other ∈ database.paymentCaptures, ¬ (other.tenantId = event.request.tenantId ∧
            other.idempotencyKeyHash = idempotencyHash))
        (.database (.uniqueViolation "payment_captures" "tenant_id, idempotency_key_hash"))
      ensure (∀ other ∈ database.paymentCaptures, ¬ (other.tenantId = event.request.tenantId ∧
            other.paymentIntentId = intent.id ∧
            other.providerReferenceHash = event.externalEventIdHash))
        (.database (.uniqueViolation "payment_captures"
          "tenant_id, payment_intent_id, provider_reference_hash"))
      let capture : PaymentCaptureRow := {
        id := newId
        tenantId := event.request.tenantId
        projectId := intent.projectId
        walletId := intent.walletId
        orderId := intent.orderId
        paymentIntentId := intent.id
        providerReferenceHash := event.externalEventIdHash
        currency := event.currency
        amount := amount
        idempotencyKeyHash := idempotencyHash
        creditGrantId := none
        ledgerEntryId := none
        amount_pos := positive
        amount_stored := NumericColumn.stores_of_assign assigned }
      return (capture, { database with
        paymentCaptures := database.paymentCaptures ++ [capture] })
    else .error (.database (.checkViolation "payment_captures" "amount > 0"))

/-- The status of the intent and the order after a new capture. -/
def markCaptured (tenantId : Uuid) (capture : PaymentCaptureRow) (database : BillingDatabase) :
    BillingDatabase :=
  { database with
    paymentIntents := database.paymentIntents.map fun intent =>
      if intent.tenantId = tenantId ∧ intent.id = capture.paymentIntentId then
        { intent with status := .captured }
      else intent
    paymentOrders := database.paymentOrders.map fun order =>
      if order.tenantId = tenantId ∧ order.id = capture.orderId then
        { order with
          status := .paid
          paymentIntentId := order.paymentIntentId.or (some capture.paymentIntentId)
          paymentCaptureId := order.paymentCaptureId.or (some capture.id) }
      else order }

/-- Store the references to the credit in the capture and its order. -/
def linkCredit (tenantId captureId orderId creditGrantId ledgerEntryId : Uuid)
    (database : BillingDatabase) : BillingDatabase :=
  { database with
    paymentCaptures := database.paymentCaptures.map fun capture =>
      if capture.tenantId = tenantId ∧ capture.id = captureId ∧
          capture.creditGrantId = none ∧ capture.ledgerEntryId = none then
        { capture with
          creditGrantId := some creditGrantId
          ledgerEntryId := some ledgerEntryId }
      else capture
    paymentOrders := database.paymentOrders.map fun order =>
      if order.tenantId = tenantId ∧ order.id = orderId then
        { order with
          creditGrantId := order.creditGrantId.or (some creditGrantId)
          ledgerEntryId := order.ledgerEntryId.or (some ledgerEntryId) }
      else order }

def captureLedgerKey (idempotencyHash : String) (captureId creditGrantId : Uuid) : String :=
  "payment-provider-capture-ledger:" ++
    runtime.sha256Hex (idempotencyHash ++ ":" ++ captureId.toText ++ ":" ++ creditGrantId.toText)

def creditCapture (idempotencyHash : String) (capture : PaymentCaptureRow)
    (database : BillingDatabase) : AdminResult (CreditOutcome × BillingDatabase) :=
  match capture.creditGrantId, capture.ledgerEntryId with
  | none, none => do
      let database ← insertCreditGrant inputs.newCreditGrantId database
        (immediateGrant inputs.now event.request.tenantId intent.walletId
          event.amount.toRat event.currency "payment_provider_capture" (some intent.id))
      let database ← insertLedgerEntry database
        (creditLedgerEntry inputs.newLedgerEntryId event.request.tenantId
          intent.projectId intent.walletId .creditGrant event.amount.toRat event.currency
          (captureLedgerKey runtime idempotencyHash capture.id inputs.newCreditGrantId))
      return (.recorded ⟨⟨event.request.tenantId, intent.walletId, event.currency,
          event.amount.toRat⟩, true, true⟩,
        linkCredit event.request.tenantId capture.id intent.orderId
          inputs.newCreditGrantId inputs.newLedgerEntryId database)
  | some _, some _ => .ok (.replayed, database)
  | _, _ => .ok (.settled "blocked", database)

/-- Whether a stored capture under the same hash is another capture. -/
def captureConflicts (existing : PaymentCaptureRow) (existingAmount : FixedDecimal) : Prop :=
  refDiffers event.request.refs.paymentCaptureId existing.id ∨
    existing.walletId ≠ intent.walletId ∨ existing.orderId ≠ intent.orderId ∨
    existing.paymentIntentId ≠ intent.id ∨ existing.currency ≠ event.currency ∨
    existingAmount ≠ event.amount.money

instance (existing : PaymentCaptureRow) (existingAmount : FixedDecimal) :
    Decidable (captureConflicts event intent existing existingAmount) :=
  inferInstanceAs (Decidable (_ ∨ _))

/-- Find the capture of an accepted event by its hash, or insert it, and credit
it. -/
def captureIntent (database : BillingDatabase) : AdminResult (CreditOutcome × BillingDatabase) :=
  let idempotencyHash := captureIdempotencyHash runtime event
  match database.paymentCaptures.find? fun capture =>
      capture.tenantId = event.request.tenantId ∧
        capture.idempotencyKeyHash = idempotencyHash with
  | some existing => do
      let existingAmount ← parseBillingFixedDecimal existing.amount
      if captureConflicts event intent existing existingAmount then
        return (.refused "capture_idempotency_conflict", database)
      else
        creditCapture runtime inputs event intent idempotencyHash existing database
  | none => do
      let (capture, inserted) ← insertPaymentCapture inputs.newRowId event intent
        idempotencyHash database
      if refDiffers event.request.refs.paymentCaptureId capture.id then
        return (.refused "capture_ref_scope_mismatch", database)
      else
        creditCapture runtime inputs event intent idempotencyHash capture
          (markCaptured event.request.tenantId capture inserted)

def executePaymentProviderCapturePlan (database : BillingDatabase) :
    AdminResult (CreditOutcome × BillingDatabase) :=
  if event.request.eventType ≠ .capture then
    .ok (.refused "capture_event_type_required", database)
  else
    match event.request.refs.paymentIntentId with
    | none => .ok (.refused "payment_intent_id_required", database)
    | some paymentIntentId =>
      match database.paymentIntents.find? fun intent =>
          intent.tenantId = event.request.tenantId ∧
            intent.id = paymentIntentId with
      | none => .ok (.refused "payment_intent_not_found", database)
      | some intent => do
          let intentAmount ← parseBillingFixedDecimal intent.amount
          match captureRefusal event intent intentAmount database with
          | some code => return (.refused code, database)
          | none => captureIntent runtime inputs event intent database

def sampleIntent : PaymentIntentRow :=
  ⟨sampleId 51, defaultTenantId, none, sampleId 9, sampleId 52, "USD", 10,
    .providerHandoff, ten_pos, stores_ten⟩

/-- A wallet without credit and a payment intent of 10 for it. -/
def intentDatabase : BillingDatabase :=
  { BillingDatabase.empty with
    wallets := [⟨sampleId 9, defaultTenantId, none, "USD", .active, 0, 0, none⟩]
    paymentIntents := [sampleIntent] }

/-- An event of 10 for the intent. -/
def sampleWebhook (eventType eventId : String) (captureId : Option Uuid) : ProviderWebhook :=
  ⟨"stripe_like_sandbox", some eventType, eventId, defaultTenantId, 10, "USD",
    ⟨none, none, none, some sampleIntent.id, captureId, none, none⟩⟩

end PaymentWebhooks

end FuboxApi
