import FuboxApi.PaymentWebhooksSpec
import FuboxApi.SubscriptionSchedulerSpec
import FuboxApi.TransitionRuns

/-!
# How often a credit is counted

The gateway adds up grants and ledger rows. A credit is counted once when its operation writes one
of these; vouchers, captures and others write two.
-/

namespace FuboxApi

open CreditWriters SubscriptionScheduler PaymentWebhooks TransitionRuns

inductive CreditOperation where
  | voucherRedeem (inputs : TransactionInputs) (request : NormalizedVoucherRedeemRequest)
  | paymentCapture (inputs : TransactionInputs) (event : RecordedPaymentEvent)
  | subscriptionEvent (inputs : TransactionInputs) (mode : SchedulerMode) (tenantId eventId : Uuid)
  | adminCreditGrant (inputs : TransactionInputs)
      (request : NormalizedCreateAdminCreditGrantRequest)

namespace CreditOperation

variable (runtime : ControlPlaneRuntime)

def inputs : CreditOperation → TransactionInputs
  | voucherRedeem inputs _ => inputs
  | paymentCapture inputs _ => inputs
  | subscriptionEvent inputs _ _ _ => inputs
  | adminCreditGrant inputs _ => inputs

def execute (database : BillingDatabase) :
    CreditOperation → AdminResult (CreditOutcome × BillingDatabase)
  | voucherRedeem inputs request =>
    executeVoucherRedeem runtime inputs request database
  | paymentCapture inputs event =>
    executePaymentProviderCapturePlan runtime inputs event database
  | subscriptionEvent inputs mode tenantId eventId =>
    applySubscriptionSchedulerLocalExecution runtime inputs mode tenantId eventId database
  | adminCreditGrant inputs request =>
    executeCreateAdminCreditGrant inputs request database

/-- Run an operation as one transaction; an error rolls it back. -/
def step (database : BillingDatabase) (operation : CreditOperation) :
    BillingDatabase × AdminResult CreditOutcome :=
  match operation.execute runtime database with
  | .ok (outcome, after) => (after, .ok outcome)
  | .error failure => (database, .error failure)

/-- The validity bounds of the grant that an operation writes. -/
def window : CreditOperation → GrantWindow
  | adminCreditGrant inputs request => adminGrantWindow inputs.now request
  | operation => ⟨operation.inputs.now, none⟩

def Writes (database : BillingDatabase) (record : CreditRecord) : CreditOperation → Prop
  | voucherRedeem _ _ | paymentCapture _ _ => record.WritesBoth
  | subscriptionEvent _ _ tenantId eventId =>
    ∃ event subscription plan,
      joinedEvent tenantId eventId database = some (event, subscription, plan) ∧
        WritesForEvent tenantId event database record
  | adminCreditGrant _ _ => record.WritesGrantOnly

variable {runtime} {database after : BillingDatabase}
  {operation : CreditOperation} {outcome : CreditOutcome}

theorem execute_effect (executed : operation.execute runtime database = .ok (outcome, after)) :
    CreditEffect operation.window (operation.Writes database ·)
      database.toLedgerDatabase after.toLedgerDatabase outcome := by
  cases operation with
  | voucherRedeem inputs request => exact executeVoucherRedeem_effect executed
  | paymentCapture inputs event =>
    exact (executePaymentProviderCapturePlan_result executed).effect
  | subscriptionEvent inputs mode tenantId eventId =>
    exact applySubscriptionSchedulerLocalExecution_effect executed
  | adminCreditGrant inputs request =>
    exact executeCreateAdminCreditGrant_effect executed

end CreditOperation

namespace BalanceQuery

/-- Both readings of the gateway rise by an amount. -/
def RisesBy (query : BalanceQuery) (amount : ℚ) (before after : LedgerDatabase) : Prop :=
  query.preAuthorizeWalletBalance after = (query.preAuthorizeWalletBalance before).map
        (fun reading => (reading.1, reading.2 + amount)) ∧
    query.paidReserveBalanceWindow after = (query.paidReserveBalanceWindow before).map
        (fun reading => (reading.1, reading.2 + amount))

/-- A query that reads the credited wallet at the time of the operation or
later. -/
structure Observes (query : BalanceQuery) (operation : CreditOperation) (credit : Credit)
    (wallets : List WalletRow) (wallet : WalletRow) : Prop
    extends query.ReadsWallet credit.tenantId credit.walletId credit.currency wallets wallet where
  later : operation.inputs.now ≤ query.now

theorem risesBy_iff {query : BalanceQuery} {before after : LedgerDatabase} {wallet : WalletRow}
    (wallets : after.wallets = before.wallets)
    (selected : query.selectedWallet before.wallets = some wallet) (amount : ℚ) :
    query.RisesBy amount before after ↔ query.availableBalance wallet after =
        query.availableBalance wallet before + amount := by
  have selectedAfter : query.selectedWallet after.wallets = some wallet := by
    rw [wallets, selected]
  obtain ⟨preBefore, paidBefore⟩ := readings_of_selectedWallet selected
  obtain ⟨preAfter, paidAfter⟩ := readings_of_selectedWallet selectedAfter
  simp [RisesBy, preBefore, paidBefore, preAfter, paidAfter]

end BalanceQuery

namespace CreditOperation

/-- The credit that an operation commits is counted exactly once by a query
that observes it. -/
def CountsOnce (runtime : ControlPlaneRuntime) (query : BalanceQuery) (database : BillingDatabase)
    (operation : CreditOperation) : Prop :=
  ∀ record, (step runtime database operation).2 = .ok (.recorded record) → ∀ wallet,
      query.Observes operation record.credit database.wallets wallet →
        query.RisesBy record.credit.amount database.toLedgerDatabase
          (step runtime database operation).1.toLedgerDatabase

/-- When an event that credits a wallet writes one of its two rows: a renewal
that finds one of them, and a negative proration that finds its ledger row. -/
def EventRecordsOnce (tenantId : Uuid) (event : SubscriptionEventRow) (database : BillingDatabase) :
    Prop :=
  match event.eventType with
  | .renew =>
    event.creditGrantId ≠ none ∨ event.ledgerEntryId ≠ none ∨
      ¬ LedgerKeyFree tenantId (renewalLedgerKey event) database
  | .prorate =>
    ¬ LedgerKeyFree tenantId (negativeProrationLedgerKey event) database
  | _ => False

/-- When an operation that credits a wallet writes exactly one row that counts
at the time of a query. -/
def RecordsOnce (query : BalanceQuery) (database : BillingDatabase) : CreditOperation → Prop
  | voucherRedeem _ _ => False
  | paymentCapture _ _ => False
  | subscriptionEvent _ _ tenantId eventId =>
    ∃ event subscription plan,
      joinedEvent tenantId eventId database = some (event, subscription, plan) ∧
        EventRecordsOnce tenantId event database
  | adminCreditGrant inputs request =>
    (adminGrantWindow inputs.now request).Contains query.now

theorem add_ite_eq_self_iff {amount : ℚ} (positive : 0 < amount) (base : ℚ) (first second : Prop)
    [Decidable first] [Decidable second] :
    base + (if first then amount else 0) + (if second then amount else 0) =
        base + amount ↔ (first ↔ ¬ second) := by
  by_cases isFirst : first <;> by_cases isSecond : second <;>
    simp [isFirst, isSecond, positive.ne']

section

variable {runtime : ControlPlaneRuntime} {query : BalanceQuery}
  {database : BillingDatabase} {operation : CreditOperation}
  {record : CreditRecord}

theorem contains_of_le {start now : Int} (later : start ≤ now) :
    (⟨start, none⟩ : GrantWindow).Contains now :=
  ⟨later, by simp⟩

theorem writesForEvent_recordsOnce_iff {tenantId : Uuid} {event : SubscriptionEventRow}
    (writes : WritesForEvent tenantId event database record)
    (someWritten : record.creditGrantWritten = true ∨ record.ledgerEntryWritten = true) :
    (record.creditGrantWritten = true ↔ ¬ record.ledgerEntryWritten = true) ↔
      EventRecordsOnce tenantId event database := by
  unfold WritesForEvent at writes
  split at writes
  · next eventType =>
    obtain ⟨grantWritten, entryWritten⟩ := writes
    simp only [EventRecordsOnce, eventType]
    tauto
  · next eventType =>
    obtain ⟨grantWritten, entryWritten⟩ := writes
    simp [EventRecordsOnce, eventType, ← entryWritten, grantWritten]
  · exact writes.elim

theorem writes_recordsOnce_iff (writes : operation.Writes database record)
    (someWritten : record.creditGrantWritten = true ∨ record.ledgerEntryWritten = true)
    (later : operation.inputs.now ≤ query.now) :
    (record.creditGrantWritten = true ∧ operation.window.Contains query.now ↔
        ¬ record.ledgerEntryWritten = true) ↔ operation.RecordsOnce query database := by
  cases operation with
  | voucherRedeem inputs request | paymentCapture inputs event =>
    simp [RecordsOnce, writes.1, writes.2, window, contains_of_le later]
  | subscriptionEvent inputs mode tenantId eventId =>
    obtain ⟨event, subscription, plan, joined, writes⟩ := writes
    have inWindow : (subscriptionEvent inputs mode tenantId eventId).window.Contains query.now :=
      contains_of_le later
    rw [and_iff_left inWindow, writesForEvent_recordsOnce_iff writes someWritten]
    simp [RecordsOnce, joined]
  | adminCreditGrant inputs request =>
    simp [RecordsOnce, writes.1, writes.2, window]

theorem risesBy_iff_recordsOnce {wallet : WalletRow}
    (committed : (step runtime database operation).2 = .ok (.recorded record))
    (observes : query.Observes operation record.credit database.wallets wallet) :
    query.RisesBy record.credit.amount database.toLedgerDatabase
        (step runtime database operation).1.toLedgerDatabase ↔
      operation.RecordsOnce query database := by
  cases executed : operation.execute runtime database with
  | error failure => simp [step, executed] at committed
  | ok result =>
    obtain ⟨outcome, after⟩ := result
    simp only [step, executed, Except.ok.injEq] at committed ⊢
    subst committed
    cases execute_effect executed with
    | unrecorded without => exact absurd rfl (without record)
    | recorded positive someWritten writes records =>
      rw [BalanceQuery.risesBy_iff records.appends.wallets observes.selected,
        records.availableBalance observes.toReadsWallet, add_ite_eq_self_iff positive,
        writes_recordsOnce_iff writes someWritten observes.later]

/-- After every history, a committed credit that a query observes is counted
exactly once if and only if its operation writes one row that counts. -/
theorem countsOnce_iff_recordsOnce (start : BillingDatabase) (history : List CreditOperation)
    (committed : (step runtime (stateAfter (step runtime) start history)
      operation).2 = .ok (.recorded record)) {wallet : WalletRow}
    (observes : query.Observes operation record.credit
      (stateAfter (step runtime) start history).wallets wallet) : query.RisesBy record.credit.amount
        (stateAfter (step runtime) start history).toLedgerDatabase
        (stateAfter (step runtime) start (history ++ [operation])).toLedgerDatabase ↔
      operation.RecordsOnce query (stateAfter (step runtime) start history) := by
  rw [stateAfter_append]
  exact risesBy_iff_recordsOnce committed observes

end

def grantTen : CreditOperation :=
  .adminCreditGrant ⟨5, sampleId 41, sampleId 42, sampleId 43⟩
    ⟨defaultTenantId, sampleId 9, ⟨sampleMoney 1000000000, rfl, by decide⟩, "USD", "promotion",
      none, none, "key", "fingerprint"⟩

def captureTen : CreditOperation :=
  .paymentCapture ⟨5, sampleId 44, sampleId 45, sampleId 46⟩
    ⟨⟨defaultTenantId, .capture, "evt_1", 10, "USD", none,
        ⟨none, none, none, some sampleIntent.id, none, none, none⟩⟩,
      sampleId 60, "hash", ⟨sampleMoney 1000000000, rfl, by decide⟩, "USD", none⟩

def emptyWallet : WalletRow :=
  ⟨sampleId 9, defaultTenantId, none, "USD", .active, 0, 0, none⟩

theorem observes_ten {operation : CreditOperation} {wallets : List WalletRow}
    (early : operation.inputs.now ≤ sampleQuery.now) (known : wallets = [emptyWallet]) :
    sampleQuery.Observes operation ⟨defaultTenantId, sampleId 9, "USD", 10⟩ wallets emptyWallet :=
  ⟨⟨by subst known; decide +kernel, rfl, rfl, rfl⟩, early⟩

/-- The grant is counted once, and the capture behind it is not. -/
theorem countsOnce_iff_recordsOnce_captureTen :
    sampleQuery.RisesBy 10 intentDatabase.toLedgerDatabase
        (stateAfter (step sampleRuntime) intentDatabase [grantTen]).toLedgerDatabase ∧
      ¬ sampleQuery.RisesBy 10
        (stateAfter (step sampleRuntime) intentDatabase [grantTen]).toLedgerDatabase
        (stateAfter (step sampleRuntime) intentDatabase
          [grantTen, captureTen]).toLedgerDatabase := by
  have granted : (step sampleRuntime intentDatabase grantTen).2 =
      .ok (.recorded ⟨⟨defaultTenantId, sampleId 9, "USD", 10⟩, true, false⟩) := by decide +kernel
  have captured : (step sampleRuntime (stateAfter (step sampleRuntime) intentDatabase [grantTen])
      captureTen).2 =
        .ok (.recorded ⟨⟨defaultTenantId, sampleId 9, "USD", 10⟩, true, true⟩) := by decide +kernel
  exact ⟨(countsOnce_iff_recordsOnce intentDatabase [] granted (observes_ten (by decide) rfl)).mpr
      ⟨by decide, by simp [adminGrantWindow]⟩,
    (countsOnce_iff_recordsOnce intentDatabase [grantTen] captured
      (observes_ten (by decide) (by decide +kernel))).not.mpr id⟩

/-- Capturing a payment of 10 raises both readings from 0 to 20. -/
theorem captureTen_countsTwice :
    sampleQuery.preAuthorizeWalletBalance intentDatabase.toLedgerDatabase = some ("USD", 0) ∧
      sampleQuery.preAuthorizeWalletBalance
          (step sampleRuntime intentDatabase captureTen).1.toLedgerDatabase = some ("USD", 20) ∧
      sampleQuery.paidReserveBalanceWindow
          (step sampleRuntime intentDatabase captureTen).1.toLedgerDatabase =
        some (sampleId 9, 20) ∧
      ¬ CountsOnce sampleRuntime sampleQuery intentDatabase captureTen := by
  refine ⟨by decide +kernel, by decide +kernel, by decide +kernel, ?_⟩
  intro counts
  have captured : (step sampleRuntime intentDatabase captureTen).2 =
      .ok (.recorded ⟨⟨defaultTenantId, sampleId 9, "USD", 10⟩, true, true⟩) := by decide +kernel
  have rises := counts _ captured _ (@observes_ten captureTen _ (by decide) rfl)
  revert rises
  unfold BalanceQuery.RisesBy
  decide +kernel

end CreditOperation

end FuboxApi
