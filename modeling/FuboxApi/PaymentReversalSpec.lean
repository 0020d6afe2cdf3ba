import FuboxApi.PaymentReversal
import FuboxApi.PaymentWebhooksSpec
import Mathlib.Logic.Relation

/-!
# What a reversal writes

Each statement of a reversal leaves the money tables alone, appends a ledger row that adds the
amount of the capture, or voids its grant; a plan is a sequence of them that may stop anywhere.
-/

namespace FuboxApi

open CheckedFold CreditWriters PaymentWebhooks Relation

def PaymentCaptureRow.credit (capture : PaymentCaptureRow) : Credit :=
  ⟨capture.tenantId, capture.walletId, capture.currency, capture.amount⟩

namespace PaymentReversal

/-- The statements between two databases left wallets, grants, ledger rows,
captures and intents alone. -/
structure SameMoney (before after : BillingDatabase) : Prop where
  ledger : after.toLedgerDatabase = before.toLedgerDatabase
  paymentCaptures : after.paymentCaptures = before.paymentCaptures
  paymentIntents : after.paymentIntents = before.paymentIntents

inductive ReversalStatement (capture : PaymentCaptureRow) (before : BillingDatabase) :
    BillingDatabase → Prop
  | unrelated {after : BillingDatabase} (same : SameMoney before after) :
      ReversalStatement capture before after
  | appendsEntry {entry : LedgerEntryRow}
      (fresh : entry.id ∉ before.ledgerEntries.map LedgerEntryRow.id)
      (held : capture.credit.HeldByEntry entry) :
      ReversalStatement capture before
        { before with ledgerEntries := before.ledgerEntries ++ [entry] }
  | voidsGrant {voids : CreditGrantRow → Prop} [DecidablePred voids]
      (named : ∀ grant, voids grant → capture.creditGrantId = some grant.id) :
      ReversalStatement capture before
        { before with
          creditGrants := before.creditGrants.map fun grant =>
            if voids grant then voidedGrant grant else grant }

structure ReversesCapture (event : RecordedPaymentEvent) (database : BillingDatabase)
    (capture : PaymentCaptureRow) : Prop where
  named : event.request.refs.paymentCaptureId = some capture.id
  mem : capture ∈ database.paymentCaptures
  tenant : capture.tenantId = event.request.tenantId
  currency : capture.currency = event.currency
  amount : event.amount.toRat = capture.amount

variable {runtime : ControlPlaneRuntime} {inputs : TransactionInputs}
  {newId : Uuid} {event : RecordedPaymentEvent} {capture : PaymentCaptureRow}
  {hash : String} {start database after : BillingDatabase}
  {refund : RefundReference}

theorem ensurePaymentRefund_statements
    (executed : ensurePaymentRefund newId event capture hash database = .ok (refund, after)) :
    ReflTransGen (ReversalStatement capture) database after := by
  simp only [ensurePaymentRefund] at executed
  split at executed
  · cases executed
    exact .refl
  · obtain ⟨_, _, executed⟩ := bind_eq_ok.mp executed
    obtain ⟨_, _, executed⟩ := bind_eq_ok.mp executed
    cases executed
    exact .single (.unrelated ⟨rfl, rfl, rfl⟩)

theorem writeReversalEntry_statements {refundId sourceId reversalId : Uuid}
    (reverses : ReversesCapture event start capture)
    (executed : writeReversalEntry (reversalEntry runtime newId event capture hash
      refundId sourceId) database = .ok (reversalId, after)) :
    ReflTransGen (ReversalStatement capture) database after := by
  unfold writeReversalEntry at executed
  split at executed
  · cases executed
    exact .refl
  · obtain ⟨withEntry, inserted, executed⟩ := bind_eq_ok.mp executed
    cases executed
    obtain ⟨amount, assigned, fresh, _, _, rfl⟩ := insertLedgerEntry_eq_ok.mp inserted
    obtain rfl := event.amount.storedExactly amount assigned
    exact .single (.appendsEntry fresh ⟨reverses.tenant.symm, rfl,
      reverses.currency.symm, reverses.amount, rfl⟩)

theorem ensureReversalEntry_statements {entry : LedgerReference}
    (reverses : ReversesCapture event start capture)
    (executed : ensureReversalEntry runtime newId event capture hash refund
      database = .ok (entry, after)) : ReflTransGen (ReversalStatement capture) database after := by
  unfold ensureReversalEntry at executed
  split at executed
  · cases executed
    exact .refl
  · cases executed
    exact .refl
  · split at executed
    · cases executed
      exact .refl
    · obtain ⟨sourceAmount, _, executed⟩ := bind_eq_ok.mp executed
      split at executed
      · obtain ⟨⟨reversalId, written⟩, rowWritten, executed⟩ :=
          bind_eq_ok.mp executed
        cases executed
        exact (writeReversalEntry_statements reverses rowWritten).tail (.unrelated ⟨rfl, rfl, rfl⟩)
      · cases executed
        exact .refl

theorem reverseSourceGrant_statements {reversalId : Option Uuid} {readback : String × String}
    (executed : reverseSourceGrant event capture reversalId database = .ok (readback, after)) :
    ReflTransGen (ReversalStatement capture) database after := by
  unfold reverseSourceGrant at executed
  split at executed
  · cases executed
    exact .refl
  · next grantId grantRef =>
    have voided : ReversalStatement capture database
        (voidCapturedGrant event capture grantId database) := by
      apply ReversalStatement.voidsGrant
      intro grant selected
      rw [grantRef, selected.1]
    split at executed
    · cases executed
      exact .refl
    · obtain ⟨_, _, executed⟩ := bind_eq_ok.mp executed
      obtain ⟨_, _, executed⟩ := bind_eq_ok.mp executed
      split_ifs at executed <;> cases executed
      all_goals first | exact .refl | exact .single voided

theorem reverseCapture_statements (reverses : ReversesCapture event database capture) :
    ReflTransGen (ReversalStatement capture) database
      (reverseCapture runtime inputs event capture database).1 := by
  simp only [reverseCapture]
  split
  · exact .refl
  · next refund refunded refundEnsured =>
    have refundStatements := ensurePaymentRefund_statements refundEnsured
    split
    · exact refundStatements
    · next entry reversed entryEnsured =>
      have entryStatements := refundStatements.trans
        (ensureReversalEntry_statements reverses entryEnsured)
      split
      · exact entryStatements
      · next grantReversed =>
        exact entryStatements.trans (reverseSourceGrant_statements grantReversed)

theorem reversesCapture_of_accepted {captureId : Uuid} {captureAmount : FixedDecimal}
    (named : event.request.refs.paymentCaptureId = some captureId)
    (found : (database.paymentCaptures.find? fun capture =>
      capture.tenantId = event.request.tenantId ∧ capture.id = captureId) =
        some capture) (parsed : parseBillingFixedDecimal capture.amount = .ok captureAmount)
    (accepted : reversalRefusal event capture captureAmount = none) :
    ReversesCapture event database capture := by
  have selected := List.find?_some found
  simp only [decide_eq_true_eq] at selected
  simp only [reversalRefusal] at accepted
  split at accepted
  · cases accepted
  · next agrees =>
    simp only [not_or, ne_eq, not_not] at agrees
    obtain ⟨scaleEq, amountEq⟩ := parseBillingFixedDecimal_eq_ok parsed
    refine ⟨selected.2.symm ▸ named, List.mem_of_find?_eq_some found, selected.1, agrees.1, ?_⟩
    rw [PositiveAmount.toRat, ← amountEq, FixedDecimal.toRat, FixedDecimal.toRat,
      agrees.2, event.amount.scale_eq, scaleEq]

theorem executePaymentProviderReversalPlan_statements :
    (executePaymentProviderReversalPlan runtime inputs event database).1 = database ∨
      ∃ capture, ReversesCapture event database capture ∧
        ReflTransGen (ReversalStatement capture) database
          (executePaymentProviderReversalPlan runtime inputs event database).1 := by
  unfold executePaymentProviderReversalPlan
  split
  · exact .inl rfl
  · next captureId named =>
    split
    · exact .inl rfl
    · next capture found =>
      split
      · exact .inl rfl
      · next captureAmount parsed =>
        split
        · exact .inl rfl
        · next accepted =>
          have reverses := reversesCapture_of_accepted named found parsed accepted
          exact .inr ⟨capture, reverses, reverseCapture_statements reverses⟩

end PaymentReversal

end FuboxApi
