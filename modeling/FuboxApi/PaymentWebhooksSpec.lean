import FuboxApi.CreditWritersSpec

/-!
# What a capture writes

A capture plan either changes nothing or credits one capture with the amount of the intent, as a
grant and as a ledger row.
-/

namespace FuboxApi.PaymentWebhooks

open CheckedFold CreditWriters

structure RecordedFrom (runtime : ControlPlaneRuntime) (webhook : ProviderWebhook)
    (event : RecordedPaymentEvent) : Prop where
  eventType : normalizedEventType webhook.providerEventType = some event.request.eventType
  request : event.request = requestFromNormalizedAdapterEvent webhook event.request.eventType
  reference : event.externalEventIdHash =
    externalEventIdHash runtime webhook.provider webhook.externalEventId

theorem nonEmpty_eq_ok {value field result : String} (checked : nonEmpty value field = .ok result) :
    result = value := by
  obtain ⟨_, _, checked⟩ := bind_eq_ok.mp checked
  exact (Except.ok.inj checked).symm

theorem recordPaymentProviderWebhook_eq_ok {runtime : ControlPlaneRuntime} {newId : Uuid}
    {webhook : ProviderWebhook} {event : RecordedPaymentEvent} {database after : BillingDatabase}
    (recorded : recordPaymentProviderWebhook runtime newId webhook database = .ok (event, after)) :
    RecordedFrom runtime webhook event ∧
      ∃ events, after = { database with paymentEvents := events } := by
  obtain ⟨eventType, mapped, recorded⟩ := bind_eq_ok.mp recorded
  obtain ⟨_, _, recorded⟩ := bind_eq_ok.mp recorded
  obtain ⟨externalId, idChecked, recorded⟩ := bind_eq_ok.mp recorded
  obtain ⟨amount, _, recorded⟩ := bind_eq_ok.mp recorded
  obtain ⟨currency, _, recorded⟩ := bind_eq_ok.mp recorded
  obtain ⟨withEvent, inserted, recorded⟩ := bind_eq_ok.mp recorded
  cases recorded
  obtain rfl := nonEmpty_eq_ok idChecked
  obtain ⟨_, _, inserted⟩ := bind_eq_ok.mp inserted
  obtain ⟨_, _, inserted⟩ := bind_eq_ok.mp inserted
  obtain ⟨_, _, inserted⟩ := bind_eq_ok.mp inserted
  cases inserted
  exact ⟨⟨okOr_eq_ok.mp mapped, rfl, rfl⟩, _, rfl⟩

def capturedGrant (inputs : TransactionInputs) (event : RecordedPaymentEvent)
    (intent : PaymentIntentRow) : CreditGrantRow :=
  (immediateGrant inputs.now event.request.tenantId intent.walletId
    event.amount.toRat event.currency "payment_provider_capture"
    (some intent.id)).row inputs.newCreditGrantId event.amount.toRat event.amount.toRat_pos

/-- The ledger row that a capture writes. -/
def capturedEntry (runtime : ControlPlaneRuntime) (inputs : TransactionInputs)
    (event : RecordedPaymentEvent) (intent : PaymentIntentRow) (captureId : Uuid) :
    LedgerEntryRow :=
  creditLedgerEntry inputs.newLedgerEntryId event.request.tenantId
    intent.projectId intent.walletId .creditGrant event.amount.toRat event.currency
    (captureLedgerKey runtime (captureIdempotencyHash runtime event) captureId
      inputs.newCreditGrantId)

def withCaptureCredit (runtime : ControlPlaneRuntime) (inputs : TransactionInputs)
    (event : RecordedPaymentEvent) (intent : PaymentIntentRow) (capture : PaymentCaptureRow)
    (database : BillingDatabase) : BillingDatabase :=
  linkCredit event.request.tenantId capture.id intent.orderId
    inputs.newCreditGrantId inputs.newLedgerEntryId
    { database with
      creditGrants := database.creditGrants ++ [capturedGrant inputs event intent]
      ledgerEntries := database.ledgerEntries ++
        [capturedEntry runtime inputs event intent capture.id] }

/-- The tables with a new capture, before it is credited. -/
def withCapture (event : RecordedPaymentEvent) (capture : PaymentCaptureRow)
    (database : BillingDatabase) : BillingDatabase :=
  markCaptured event.request.tenantId capture
    { database with paymentCaptures := database.paymentCaptures ++ [capture] }

variable {runtime : ControlPlaneRuntime} {inputs : TransactionInputs}
  {event : RecordedPaymentEvent} {intent : PaymentIntentRow}
  {capture : PaymentCaptureRow} {database after : BillingDatabase}
  {outcome : CreditOutcome}

def captureRecord (event : RecordedPaymentEvent) (intent : PaymentIntentRow) : CreditRecord :=
  ⟨⟨event.request.tenantId, intent.walletId, event.currency, event.amount.toRat⟩, true, true⟩

theorem creditCapture_eq_ok (executed : creditCapture runtime inputs event intent
      (captureIdempotencyHash runtime event) capture database = .ok (outcome, after)) :
    (capture.creditGrantId = none ∧ capture.ledgerEntryId = none ∧
      outcome = .recorded (captureRecord event intent) ∧
      inputs.newCreditGrantId ∉ database.creditGrants.map CreditGrantRow.id ∧
      inputs.newLedgerEntryId ∉ database.ledgerEntries.map LedgerEntryRow.id ∧
      after = withCaptureCredit runtime inputs event intent capture database) ∨
    ((capture.creditGrantId ≠ none ∨ capture.ledgerEntryId ≠ none) ∧
      (∀ record, outcome ≠ .recorded record) ∧ after = database) := by
  unfold creditCapture at executed
  split at executed
  · next noGrant noEntry =>
    obtain ⟨withGrant, grantInserted, executed⟩ := bind_eq_ok.mp executed
    obtain ⟨withEntry, entryInserted, executed⟩ := bind_eq_ok.mp executed
    cases executed
    obtain ⟨amount, positive, assigned, grantFresh, _, rfl⟩ :=
      insertCreditGrant_eq_ok.mp grantInserted
    obtain ⟨stored, entryAssigned, entryFresh, _, _, rfl⟩ :=
      insertLedgerEntry_eq_ok.mp entryInserted
    obtain rfl := event.amount.storedExactly amount assigned
    obtain rfl := event.amount.storedExactly stored entryAssigned
    exact .inl ⟨noGrant, noEntry, rfl, grantFresh, entryFresh, rfl⟩
  · next hasGrant hasEntry =>
    cases executed
    exact .inr ⟨.inl (by simp [hasGrant]), by simp, rfl⟩
  · next noneBoth someBoth =>
    cases executed
    refine .inr ⟨?_, by simp, rfl⟩
    by_contra neither
    simp only [ne_eq, not_or, not_not] at neither
    exact noneBoth neither.1 neither.2

/-- A capture row that the keys of the table admit. -/
structure IsNewCapture (newId : Uuid) (event : RecordedPaymentEvent) (intent : PaymentIntentRow)
    (database : BillingDatabase) (capture : PaymentCaptureRow) : Prop where
  id_eq : capture.id = newId
  tenant : capture.tenantId = event.request.tenantId
  wallet : capture.walletId = intent.walletId
  intent_eq : capture.paymentIntentId = intent.id
  reference : capture.providerReferenceHash = event.externalEventIdHash
  currency : capture.currency = event.currency
  amount : capture.amount = event.amount.toRat
  noGrant : capture.creditGrantId = none
  noEntry : capture.ledgerEntryId = none
  freshId : newId ∉ database.paymentCaptures.map PaymentCaptureRow.id
  freshReference : ∀ other ∈ database.paymentCaptures,
    ¬ (other.tenantId = event.request.tenantId ∧ other.paymentIntentId = intent.id ∧
      other.providerReferenceHash = event.externalEventIdHash)

variable {newId : Uuid}

theorem insertPaymentCapture_eq_ok (inserted : insertPaymentCapture newId event intent
      (captureIdempotencyHash runtime event) database = .ok (capture, after)) :
    IsNewCapture newId event intent database capture ∧ after = { database with
        paymentCaptures := database.paymentCaptures ++ [capture] } := by
  unfold insertPaymentCapture at inserted
  split at inserted
  · cases inserted
  · next amount assigned =>
    split at inserted
    · obtain ⟨_, freshId, inserted⟩ := bind_eq_ok.mp inserted
      obtain ⟨_, _, inserted⟩ := bind_eq_ok.mp inserted
      obtain ⟨_, freshReference, inserted⟩ := bind_eq_ok.mp inserted
      cases inserted
      exact ⟨⟨rfl, rfl, rfl, rfl, rfl, rfl, event.amount.storedExactly amount assigned, rfl, rfl,
        ensure_eq_ok.mp freshId, ensure_eq_ok.mp freshReference⟩, rfl⟩
    · cases inserted

structure CapturesIntent (event : RecordedPaymentEvent) (database : BillingDatabase)
    (intent : PaymentIntentRow) : Prop where
  eventType : event.request.eventType = .capture
  named : event.request.refs.paymentIntentId = some intent.id
  mem : intent ∈ database.paymentIntents
  tenant : intent.tenantId = event.request.tenantId
  currency : intent.currency = event.currency
  amount : event.amount.toRat = intent.amount
  accepted : ∃ intentAmount, parseBillingFixedDecimal intent.amount =
    .ok intentAmount ∧ captureRefusal event intent intentAmount database = none

theorem capturesIntent_of_accepted {intentId : Uuid} {intentAmount : FixedDecimal}
    (eventType : event.request.eventType = .capture)
    (named : event.request.refs.paymentIntentId = some intentId)
    (found : (database.paymentIntents.find? fun intent =>
      intent.tenantId = event.request.tenantId ∧ intent.id = intentId) =
        some intent) (parsed : parseBillingFixedDecimal intent.amount = .ok intentAmount)
    (accepted : captureRefusal event intent intentAmount database = none) :
    CapturesIntent event database intent := by
  have selected := List.find?_some found
  simp only [decide_eq_true_eq] at selected
  have refusal := accepted
  unfold captureRefusal at refusal
  split at refusal
  · cases refusal
  · next agrees =>
    simp only [not_or, ne_eq, not_not] at agrees
    have amountEq := (parseBillingFixedDecimal_eq_ok parsed).2
    exact ⟨eventType, selected.2.symm ▸ named, List.mem_of_find?_eq_some found,
      selected.1, agrees.1, by rw [PositiveAmount.toRat, ← agrees.2, amountEq],
      intentAmount, parsed, accepted⟩

/-- A stored capture that an event captures again. -/
structure AgreesWithCapture (event : RecordedPaymentEvent) (intent : PaymentIntentRow)
    (capture : PaymentCaptureRow) : Prop where
  tenant : capture.tenantId = event.request.tenantId
  wallet : capture.walletId = intent.walletId
  intent_eq : capture.paymentIntentId = intent.id
  currency : capture.currency = event.currency
  amount : capture.amount = event.amount.toRat

theorem IsNewCapture.agrees (isNew : IsNewCapture newId event intent database capture) :
    AgreesWithCapture event intent capture :=
  ⟨isNew.tenant, isNew.wallet, isNew.intent_eq, isNew.currency, isNew.amount⟩

/-- The ways in which a capture plan can end. -/
inductive CaptureResult (runtime : ControlPlaneRuntime) (inputs : TransactionInputs)
    (event : RecordedPaymentEvent) (database : BillingDatabase) :
    CreditOutcome → BillingDatabase → Prop
  | unchanged {outcome : CreditOutcome} (without : ∀ record, outcome ≠ .recorded record) :
      CaptureResult runtime inputs event database outcome database
  | completed {intent : PaymentIntentRow} {capture : PaymentCaptureRow}
      (captures : CapturesIntent event database intent)
      (mem : capture ∈ database.paymentCaptures)
      (agrees : AgreesWithCapture event intent capture)
      (noGrant : capture.creditGrantId = none)
      (noEntry : capture.ledgerEntryId = none)
      (freshGrant : inputs.newCreditGrantId ∉ database.creditGrants.map CreditGrantRow.id)
      (freshEntry : inputs.newLedgerEntryId ∉ database.ledgerEntries.map LedgerEntryRow.id) :
      CaptureResult runtime inputs event database (.recorded (captureRecord event intent))
        (withCaptureCredit runtime inputs event intent capture database)
  | captured {intent : PaymentIntentRow} {capture : PaymentCaptureRow}
      (captures : CapturesIntent event database intent)
      (isNew : IsNewCapture inputs.newRowId event intent database capture)
      (freshGrant : inputs.newCreditGrantId ∉ database.creditGrants.map CreditGrantRow.id)
      (freshEntry : inputs.newLedgerEntryId ∉ database.ledgerEntries.map LedgerEntryRow.id) :
      CaptureResult runtime inputs event database (.recorded (captureRecord event intent))
        (withCaptureCredit runtime inputs event intent capture (withCapture event capture database))

theorem captureIntent_result (captures : CapturesIntent event database intent)
    (executed : captureIntent runtime inputs event intent database = .ok (outcome, after)) :
    CaptureResult runtime inputs event database outcome after := by
  simp only [captureIntent] at executed
  split at executed
  · next existing found =>
    obtain ⟨existingAmount, parsed, executed⟩ := bind_eq_ok.mp executed
    have selected := List.find?_some found
    simp only [decide_eq_true_eq] at selected
    split at executed
    · cases executed
      exact .unchanged (by simp)
    · next agrees =>
      simp only [captureConflicts, not_or, ne_eq, not_not] at agrees
      obtain ⟨_, wallet, _, intentEq, currency, amountEq⟩ := agrees
      have amount : existing.amount = event.amount.toRat := by
        rw [← (parseBillingFixedDecimal_eq_ok parsed).2, amountEq]
        rfl
      rcases creditCapture_eq_ok executed with
        ⟨noGrant, noEntry, rfl, freshGrant, freshEntry, rfl⟩ | ⟨_, without, rfl⟩
      · exact .completed captures (List.mem_of_find?_eq_some found)
          ⟨selected.1, wallet, intentEq, currency, amount⟩ noGrant noEntry
          freshGrant freshEntry
      · exact .unchanged without
  · obtain ⟨⟨capture, inserted⟩, captureInserted, executed⟩ :=
      bind_eq_ok.mp executed
    obtain ⟨isNew, rfl⟩ := insertPaymentCapture_eq_ok captureInserted
    split at executed
    · cases executed
      exact .unchanged (by simp)
    · rcases creditCapture_eq_ok executed with
        ⟨_, _, rfl, freshGrant, freshEntry, rfl⟩ | ⟨linked, _, _⟩
      · exact .captured captures isNew freshGrant freshEntry
      · exact absurd linked (by simp [isNew.noGrant, isNew.noEntry])

theorem executePaymentProviderCapturePlan_result
    (executed : executePaymentProviderCapturePlan runtime inputs event database =
      .ok (outcome, after)) : CaptureResult runtime inputs event database outcome after := by
  unfold executePaymentProviderCapturePlan at executed
  split at executed
  · cases executed
    exact .unchanged (by simp)
  · next isCapture =>
    split at executed
    · cases executed
      exact .unchanged (by simp)
    · next intentId named =>
      split at executed
      · cases executed
        exact .unchanged (by simp)
      · next intent found =>
        obtain ⟨intentAmount, parsed, executed⟩ := bind_eq_ok.mp executed
        split at executed
        · cases executed
          exact .unchanged (by simp)
        · next accepted =>
          exact captureIntent_result
            (capturesIntent_of_accepted (not_not.mp isCapture) named found parsed accepted)
            executed

theorem capturedGrant_held : (captureRecord event intent).credit.HeldByGrant ⟨inputs.now, none⟩
      (capturedGrant inputs event intent) :=
  ⟨rfl, rfl, rfl, rfl, rfl, rfl⟩

theorem capturedEntry_held {captureId : Uuid} : (captureRecord event intent).credit.HeldByEntry
      (capturedEntry runtime inputs event intent captureId) :=
  ⟨rfl, rfl, rfl, rfl, rfl⟩

theorem CaptureResult.effect (result : CaptureResult runtime inputs event database outcome after) :
    CreditEffect ⟨inputs.now, none⟩ CreditRecord.WritesBoth
      database.toLedgerDatabase after.toLedgerDatabase outcome := by
  have credited : ∀ intent captureId, RecordsCredit (captureRecord event intent) ⟨inputs.now, none⟩
        database.toLedgerDatabase
        { database.toLedgerDatabase with
          creditGrants :=
            database.creditGrants ++ [capturedGrant inputs event intent]
          ledgerEntries := database.ledgerEntries ++
            [capturedEntry runtime inputs event intent captureId] }
        (some (capturedGrant inputs event intent))
        (some (capturedEntry runtime inputs event intent captureId)) := by
    intro intent captureId
    refine ⟨⟨rfl, rfl, rfl⟩, rfl, rfl, ?_, ?_⟩
    · rintro row ⟨⟩
      exact capturedGrant_held
    · rintro row ⟨⟩
      exact capturedEntry_held
  cases result with
  | unchanged without => exact .unrecorded without (Appends.refl _)
  | completed captures | captured captures =>
    exact .recorded event.amount.toRat_pos (.inl rfl) ⟨rfl, rfl⟩ (credited _ _)

end FuboxApi.PaymentWebhooks
