import FuboxApi.PaymentReversalSpec
import FuboxApi.TransitionRuns

/-!
# Reversing a credited capture

The balance after refunds and chargebacks of a capture is compared with the balance without the two
rows that credited it. A reversal appends positive ledger rows and keeps that of the capture.
-/

namespace FuboxApi

open CheckedFold KeyedRows PaymentWebhooks PaymentReversal Relation TransitionRuns

structure CreditedCapture (database : BillingDatabase) (capture : PaymentCaptureRow)
    (grantId : Uuid) (entry : LedgerEntryRow) :
    Prop where
  captures_distinct : (database.paymentCaptures.map PaymentCaptureRow.id).Nodup
  entries_distinct : (database.ledgerEntries.map LedgerEntryRow.id).Nodup
  capture_mem : capture ∈ database.paymentCaptures
  grant_ref : capture.creditGrantId = some grantId
  entry_ref : capture.ledgerEntryId = some entry.id
  entry_mem : entry ∈ database.ledgerEntries
  held : capture.credit.HeldByEntry entry

def LedgerDatabase.withoutCredit (grantId entryId : Uuid) (database : LedgerDatabase) :
    LedgerDatabase :=
  { database with
    creditGrants := database.creditGrants.filter fun grant =>
      decide (grant.id ≠ grantId)
    ledgerEntries := database.ledgerEntries.filter fun row =>
      decide (row.id ≠ entryId) }

namespace WebhookDelivery

/-- A verified webhook about a refund or chargeback of the whole capture. -/
structure IsFullReversalOf (delivery : WebhookDelivery) (capture : PaymentCaptureRow) : Prop where
  eventType : normalizedEventType delivery.webhook.providerEventType = some .refund ∨
      normalizedEventType delivery.webhook.providerEventType = some .chargeback
  named : delivery.webhook.refs.paymentCaptureId = some capture.id
  tenant : delivery.webhook.tenantId = capture.tenantId
  currency : delivery.webhook.currency = capture.currency
  amount : delivery.webhook.amount = capture.amount

/-- The balance that the gateway reads after the deliveries is the one that it
would read without the credit of the capture. -/
def Undone (runtime : ControlPlaneRuntime) (query : BalanceQuery) (grantId entryId : Uuid)
    (database : BillingDatabase) (deliveries : List WebhookDelivery) : Prop :=
  query.preAuthorizeWalletBalance
      (stateAfter (deliver runtime) database deliveries).toLedgerDatabase =
    query.preAuthorizeWalletBalance (database.toLedgerDatabase.withoutCredit grantId entryId)

section

variable {runtime : ControlPlaneRuntime} {database current after : BillingDatabase}
  {capture : PaymentCaptureRow} {grantId : Uuid} {entry : LedgerEntryRow}
  {delivery : WebhookDelivery}

theorem deliver_statements
    (captures_distinct : (current.paymentCaptures.map PaymentCaptureRow.id).Nodup)
    (capture_mem : capture ∈ current.paymentCaptures)
    (reversal : delivery.IsFullReversalOf capture) :
    ReflTransGen (ReversalStatement capture) current (deliver runtime current delivery).1 := by
  unfold deliver
  split
  · exact .refl
  · next event recorded eventRecorded =>
    obtain ⟨origin, events, rfl⟩ := recordPaymentProviderWebhook_eq_ok eventRecorded
    have eventStatement : ReversalStatement capture current
        { current with paymentEvents := events } :=
      .unrelated ⟨rfl, rfl, rfl⟩
    have named : event.request.refs.paymentCaptureId = some capture.id := by
      rw [origin.request]
      exact reversal.named
    have isReversal : event.request.eventType = .refund ∨
        event.request.eventType = .chargeback := by
      simpa only [origin.eventType, Option.some.injEq] using reversal.eventType
    have plan : (executeVerifiedPaymentProviderBusinessPlan runtime
        delivery.inputs event { current with paymentEvents := events }) =
        executePaymentProviderReversalPlan runtime delivery.inputs event
          { current with paymentEvents := events } := by
      unfold executeVerifiedPaymentProviderBusinessPlan
      rcases isReversal with eventType | eventType <;> rw [eventType]
    rw [plan]
    apply ReflTransGen.head eventStatement
    rcases executePaymentProviderReversalPlan_statements with
      unchanged | ⟨other, reverses, statements⟩
    · rw [unchanged]
    · have sameId : other.id = capture.id :=
        Option.some.inj (reverses.named.symm.trans named)
      obtain rfl := List.inj_on_of_nodup_map captures_distinct reverses.mem capture_mem sameId
      exact statements

/-- What the statements of a reversal keep of the tables they started from. -/
structure Retains (capture : PaymentCaptureRow) (grantId : Uuid)
    (database current : BillingDatabase) : Prop where
  wallets : current.wallets = database.wallets
  paymentCaptures : current.paymentCaptures = database.paymentCaptures
  otherGrants : (current.creditGrants.filter fun grant => decide (grant.id ≠ grantId)) =
      database.creditGrants.filter fun grant => decide (grant.id ≠ grantId)
  ledgerEntries : ∃ refunds, current.ledgerEntries = database.ledgerEntries ++ refunds ∧
    ∀ row ∈ refunds, capture.credit.HeldByEntry row

theorem Retains.refl (database : BillingDatabase) : Retains capture grantId database database :=
  ⟨rfl, rfl, rfl, [], by simp, by simp⟩

theorem filter_ne_map_voided (voids : CreditGrantRow → Prop) [DecidablePred voids]
    (named : ∀ grant, voids grant → grant.id = grantId) (grants : List CreditGrantRow) :
    ((grants.map fun grant => if voids grant then voidedGrant grant else grant).filter
        fun grant => decide (grant.id ≠ grantId)) =
      grants.filter fun grant => decide (grant.id ≠ grantId) := by
  induction grants with
  | nil => rfl
  | cons grant rest ih =>
    rw [List.map_cons, List.filter_cons, List.filter_cons, ih]
    by_cases voided : voids grant
    · have idEq := named grant voided
      simp [voided, voidedGrant, idEq]
    · simp [voided]

theorem Retains.statement (grant_ref : capture.creditGrantId = some grantId)
    (retains : Retains capture grantId database current)
    (statement : ReversalStatement capture current after) :
    Retains capture grantId database after := by
  obtain ⟨refunds, entriesEq, held⟩ := retains.ledgerEntries
  cases statement with
  | unrelated same =>
    have ledgerEq := same.ledger
    refine ⟨?_, same.paymentCaptures.trans retains.paymentCaptures, ?_, refunds, ?_, held⟩
    · rw [ledgerEq, retains.wallets]
    · rw [ledgerEq, retains.otherGrants]
    · rw [ledgerEq, entriesEq]
  | @appendsEntry row _ rowHeld =>
    refine ⟨retains.wallets, retains.paymentCaptures, retains.otherGrants,
      refunds ++ [row], by simp [entriesEq], ?_⟩
    intro other otherMem
    rcases List.mem_append.mp otherMem with earlier | last
    · exact held other earlier
    · rw [List.mem_singleton.mp last]
      exact rowHeld
  | @voidsGrant voids _ named =>
    refine ⟨retains.wallets, retains.paymentCaptures, ?_, refunds, entriesEq, held⟩
    rw [← retains.otherGrants]
    apply filter_ne_map_voided
    intro grant voided
    exact Option.some.inj ((named grant voided).symm.trans grant_ref)

theorem Retains.statements (grant_ref : capture.creditGrantId = some grantId)
    (retains : Retains capture grantId database current)
    (statements : ReflTransGen (ReversalStatement capture) current after) :
    Retains capture grantId database after := by
  induction statements with
  | refl => exact retains
  | tail _ statement ih => exact ih.statement grant_ref statement

theorem retains_of_reversals (credited : CreditedCapture database capture grantId entry)
    {deliveries : List WebhookDelivery}
    (reversals : ∀ delivery ∈ deliveries, delivery.IsFullReversalOf capture) :
    Retains capture grantId database (stateAfter (deliver runtime) database deliveries) := by
  refine stateAfter_invariant_of_stepsMeet ?_ (Retains.refl database)
    (StepsMeet.of_forall_mem reversals) deliveries [] (by simp)
  intro current delivery reversal retains
  apply retains.statements credited.grant_ref
  apply deliver_statements _ _ reversal
  · rw [retains.paymentCaptures]
    exact credited.captures_distinct
  · rw [retains.paymentCaptures]
    exact credited.capture_mem

variable {query : BalanceQuery} {wallet : WalletRow}

/-- Tables that retain the credit of a capture have its amount, and that of
every refund, above the balance without the credit. -/
theorem Retains.availableBalance_ge (retains : Retains capture grantId database current)
    (credited : CreditedCapture database capture grantId entry)
    (reads : query.ReadsWallet capture.tenantId capture.walletId capture.currency
      database.wallets wallet) : query.availableBalance wallet
        (database.toLedgerDatabase.withoutCredit grantId entry.id) + capture.amount ≤
      query.availableBalance wallet current.toLedgerDatabase := by
  obtain ⟨refunds, entriesEq, held⟩ := retains.ledgerEntries
  have removed := selectedSum_remove
    (query.countsLedgerEntry wallet.id query.currency) LedgerEntryRow.amount
    credited.entries_distinct credited.entry_mem
  rw [credited.held.contribution reads] at removed
  have refunded := selectedSum_eq_nsmul
    (query.countsLedgerEntry wallet.id query.currency) LedgerEntryRow.amount
    fun row rowMem => (held row rowMem).contribution reads
  have refundedNonneg : 0 ≤ refunds.length • capture.amount := nsmul_nonneg capture.amount_pos.le _
  have grants := selectedSum_le_of_sublist
    (query.countsGrant wallet.id query.currency) CreditGrantRow.remainingAmount
    (List.filter_sublist (l := current.creditGrants)
      (p := fun grant => decide (grant.id ≠ grantId)))
    fun grant _ => grant.remaining_nonneg
  rw [retains.otherGrants] at grants
  simp only [BalanceQuery.availableBalance, BalanceQuery.creditBalance,
    BalanceQuery.ledgerBalance, LedgerDatabase.withoutCredit, entriesEq,
    selectedSum_append, refunded]
  simp only [PaymentCaptureRow.credit] at removed ⊢
  linarith

/-- No sequence of refunds and chargebacks undoes the credit of a capture. -/
theorem not_undone_of_reversals (credited : CreditedCapture database capture grantId entry)
    (reads : query.ReadsWallet capture.tenantId capture.walletId capture.currency
      database.wallets wallet) (deliveries : List WebhookDelivery)
    (reversals : ∀ delivery ∈ deliveries, delivery.IsFullReversalOf capture) :
    ¬ Undone runtime query grantId entry.id database deliveries := by
  have retains : Retains capture grantId database
      (stateAfter (deliver runtime) database deliveries) :=
    retains_of_reversals credited reversals
  have bound := retains.availableBalance_ge credited reads
  have selectedAfter : query.selectedWallet
      (stateAfter (deliver runtime) database deliveries).wallets = some wallet := by
    rw [retains.wallets, reads.selected]
  have selectedWithout : query.selectedWallet
      (database.toLedgerDatabase.withoutCredit grantId entry.id).wallets = some wallet :=
    reads.selected
  rw [Undone, (BalanceQuery.readings_of_selectedWallet selectedAfter).1,
    (BalanceQuery.readings_of_selectedWallet selectedWithout).1]
  intro undone
  have balanceEq := congrArg Prod.snd (Option.some.inj undone)
  have positive := capture.amount_pos
  linarith

end

/-- A delivery whose new rows are numbered from the given number on. -/
def sampleDelivery (number : Nat) (eventType eventId : String) (captureId : Option Uuid) :
    WebhookDelivery where
  newEventId := sampleId number
  inputs := ⟨5, sampleId (number + 1), sampleId (number + 2), sampleId (number + 3)⟩
  webhook := sampleWebhook eventType eventId captureId

/-- The tables after the intent was captured. -/
def capturedDatabase : BillingDatabase :=
  stateAfter (deliver sampleRuntime) intentDatabase
    [sampleDelivery 60 "payment_intent.succeeded" "evt_1" none]

def refundTwice : List WebhookDelivery :=
  [sampleDelivery 70 "charge.refunded" "evt_2" (some (sampleId 61)),
    sampleDelivery 80 "charge.refunded" "evt_2" (some (sampleId 61))]

def capturedPayment : PaymentCaptureRow :=
  capturedDatabase.paymentCaptures.head (by decide +kernel)

def capturedPaymentEntry : LedgerEntryRow :=
  capturedDatabase.ledgerEntries.head (by decide +kernel)

theorem creditedCapture_capturedPayment :
    CreditedCapture capturedDatabase capturedPayment (sampleId 62) capturedPaymentEntry where
  captures_distinct := by decide +kernel
  entries_distinct := by decide +kernel
  capture_mem := List.head_mem _
  grant_ref := by decide +kernel
  entry_ref := by decide +kernel
  entry_mem := List.head_mem _
  held := ⟨by decide +kernel, by decide +kernel, by decide +kernel,
    by decide +kernel, by decide +kernel⟩

theorem isFullReversalOf_refundTwice :
    ∀ delivery ∈ refundTwice, delivery.IsFullReversalOf capturedPayment := by
  have first : (sampleDelivery 70 "charge.refunded" "evt_2"
      (some (sampleId 61))).IsFullReversalOf capturedPayment :=
    ⟨.inl (by decide +kernel), by decide +kernel, by decide +kernel,
      by decide +kernel, by decide +kernel⟩
  have again : (sampleDelivery 80 "charge.refunded" "evt_2"
      (some (sampleId 61))).IsFullReversalOf capturedPayment :=
    ⟨first.eventType, first.named, first.tenant, first.currency, first.amount⟩
  simp [refundTwice, first, again]

theorem not_undone_refundTwice : CreditedCapture capturedDatabase capturedPayment (sampleId 62)
        capturedPaymentEntry ∧
      (∀ delivery ∈ refundTwice, delivery.IsFullReversalOf capturedPayment) ∧
      ¬ Undone sampleRuntime sampleQuery (sampleId 62) capturedPaymentEntry.id
        capturedDatabase refundTwice := by
  refine ⟨creditedCapture_capturedPayment, isFullReversalOf_refundTwice, ?_⟩
  have reads : sampleQuery.ReadsWallet capturedPayment.tenantId
      capturedPayment.walletId capturedPayment.currency capturedDatabase.wallets
      ⟨sampleId 9, defaultTenantId, none, "USD", .active, 0, 0, none⟩ :=
    ⟨by decide +kernel, by decide +kernel, by decide +kernel, by decide +kernel⟩
  exact not_undone_of_reversals creditedCapture_capturedPayment reads refundTwice
    isFullReversalOf_refundTwice

/-- The wallet reads 0 before the capture, 20 after it and after one refund, and
30 when the refund event is delivered again. -/
theorem refunds_raise_balance :
    sampleQuery.preAuthorizeWalletBalance intentDatabase.toLedgerDatabase = some ("USD", 0) ∧
      sampleQuery.preAuthorizeWalletBalance capturedDatabase.toLedgerDatabase = some ("USD", 20) ∧
      sampleQuery.preAuthorizeWalletBalance (stateAfter (deliver sampleRuntime) capturedDatabase
            (refundTwice.take 1)).toLedgerDatabase = some ("USD", 20) ∧
      sampleQuery.preAuthorizeWalletBalance (stateAfter (deliver sampleRuntime) capturedDatabase
            refundTwice).toLedgerDatabase = some ("USD", 30) ∧
      ¬ Undone sampleRuntime sampleQuery (sampleId 62) (sampleId 63)
        capturedDatabase (refundTwice.take 1) ∧
      ¬ Undone sampleRuntime sampleQuery (sampleId 62) (sampleId 63)
        capturedDatabase refundTwice := by
  unfold Undone
  decide +kernel

end WebhookDelivery

end FuboxApi
