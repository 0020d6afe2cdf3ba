import FuboxApi.PostgresTables

/-!
# Voucher, payment and subscription tables

The tables through which the control plane records credits, with the columns that its statements
read. Check constraints on amounts and the type of the money columns are fields of the rows.
-/

namespace FuboxApi

open CheckedFold

/-- The ways in which a statement can fail. -/
inductive DbError where
  | uniqueViolation (table columns : String)
  | foreignKeyViolation (table column : String)
  | checkViolation (table condition : String)
  | notNullViolation (table column : String)
  | numericValueOutOfRange
  | rowNotFound
  | invalidTextRepresentation
deriving DecidableEq

inductive AdminError where
  | badRequest (message : String)
  | notFound (resource : String)
  | database (error : DbError)
deriving DecidableEq

abbrev AdminResult :=
  Except AdminError

def defaultTenantId : Uuid :=
  ⟨1, by decide⟩

/-- Parse the text of a `numeric` column in the default scale. -/
def parseBillingFixedDecimal (value : ℚ) : AdminResult FixedDecimal :=
  let units := value * 10 ^ defaultMoneyScale
  match BoundedInt.checked units.num, decide (units.den = 1) with
  | some units, true => .ok ⟨units, defaultMoneyScale, defaultMoneyScale_le⟩
  | _, _ => .error (.badRequest "billing amount must be a decimal string")

theorem parseBillingFixedDecimal_eq_ok {value : ℚ} {amount : FixedDecimal}
    (parsed : parseBillingFixedDecimal value = .ok amount) :
    amount.scale = defaultMoneyScale ∧ amount.toRat = value := by
  simp only [parseBillingFixedDecimal] at parsed
  split at parsed
  · next units inRange integral =>
    cases parsed
    refine ⟨rfl, ?_⟩
    have unitsEq := BoundedInt.checked_eq_some_iff.mp inRange
    have isInteger : ((value * 10 ^ defaultMoneyScale).num : ℚ) = value * 10 ^ defaultMoneyScale :=
      Rat.coe_int_num_of_den_eq_one (of_decide_eq_true integral)
    rw [FixedDecimal.toRat, unitsEq, isInteger]
    field_simp
  · cases parsed

structure PositiveAmount where
  money : FixedDecimal
  scale_eq : money.scale = defaultMoneyScale
  units_pos : 0 < money.units.value

inductive VoucherStatus where
  | issued
  | redeemed
  | expired
  | revoked
deriving DecidableEq

structure VoucherIssuanceRow where
  id : Uuid
  tenantId : Uuid
  projectId : Option Uuid
  walletId : Option Uuid
  currency : String
  amount : ℚ
  codeHash : String
  status : VoucherStatus
  maxRedemptions : Nat
  redemptionCount : Nat
  expiresAt : Option Int
  amount_pos : 0 < amount
  amount_stored : moneyColumn.Stores amount

structure VoucherRedemptionRow where
  id : Uuid
  tenantId : Uuid
  projectId : Option Uuid
  walletId : Uuid
  voucherId : Uuid
  currency : String
  amount : ℚ
  idempotencyKeyHash : String
  creditGrantId : Option Uuid
  ledgerEntryId : Option Uuid
  requestFingerprint : Option String

inductive PaymentOrderStatus where
  | created
  | pendingPayment
  | paid
  | cancelled
  | expired
  | refunded
  | failed

structure PaymentOrderRow where
  id : Uuid
  tenantId : Uuid
  status : PaymentOrderStatus
  paymentIntentId : Option Uuid
  paymentCaptureId : Option Uuid
  creditGrantId : Option Uuid
  ledgerEntryId : Option Uuid

inductive PaymentIntentStatus where
  | intentCreated
  | providerHandoff
  | captured
  | cancelled
  | refunded
  | failed

structure PaymentIntentRow where
  id : Uuid
  tenantId : Uuid
  projectId : Option Uuid
  walletId : Uuid
  orderId : Uuid
  currency : String
  amount : ℚ
  status : PaymentIntentStatus
  amount_pos : 0 < amount
  amount_stored : moneyColumn.Stores amount

structure PaymentCaptureRow where
  id : Uuid
  tenantId : Uuid
  projectId : Option Uuid
  walletId : Uuid
  orderId : Uuid
  paymentIntentId : Uuid
  providerReferenceHash : String
  currency : String
  amount : ℚ
  idempotencyKeyHash : String
  creditGrantId : Option Uuid
  ledgerEntryId : Option Uuid
  amount_pos : 0 < amount
  amount_stored : moneyColumn.Stores amount

structure PaymentRefundRow where
  id : Uuid
  tenantId : Uuid
  projectId : Option Uuid
  walletId : Uuid
  orderId : Uuid
  paymentCaptureId : Uuid
  currency : String
  amount : ℚ
  reason : String
  idempotencyKeyHash : String
  creditGrantId : Option Uuid
  ledgerEntryId : Option Uuid
  reversalLedgerEntryId : Option Uuid

structure PaymentEventRow where
  id : Uuid
  tenantId : Uuid
  paymentIntentId : Option Uuid
  paymentCaptureId : Option Uuid
  eventType : String

inductive SubscriptionPlanStatus where
  | draft
  | active
  | archived
deriving DecidableEq

inductive BillingInterval where
  | month
  | year
  | oneTime

structure SubscriptionPlanRow where
  id : Uuid
  tenantId : Uuid
  status : SubscriptionPlanStatus
  currency : String
  billingInterval : BillingInterval
  unitPrice : ℚ
  includedCreditAmount : ℚ
  included_stored : moneyColumn.Stores includedCreditAmount

inductive SubscriptionStatus where
  | created
  | trialing
  | active
  | renewed
  | paused
  | resumed
  | cancelled
  | paymentFailed
  | expired
  | terminated
deriving DecidableEq

structure SubscriptionRow where
  id : Uuid
  tenantId : Uuid
  projectId : Option Uuid
  walletId : Uuid
  planId : Uuid
  status : SubscriptionStatus
  currency : String
  currentPeriodStart : Int
  currentPeriodEnd : Int
  latestCreditGrantId : Option Uuid
  latestLedgerEntryId : Option Uuid

inductive SubscriptionEventType where
  | create
  | trialEnd
  | activate
  | renew
  | pause
  | resume
  | cancel
  | prorate
  | paymentFailed
  | dunning
  | expire
  | terminate
  | refusal
  | reconciliation
deriving DecidableEq

inductive SubscriptionEventStatus where
  | scheduled
  | applied
  | replayed
  | refused
  | matched
deriving DecidableEq

/-- A row of `subscription_events_or_schedules`, with the target plan of its
request summary. -/
structure SubscriptionEventRow where
  id : Uuid
  tenantId : Uuid
  subscriptionId : Uuid
  eventType : SubscriptionEventType
  eventStatus : SubscriptionEventStatus
  idempotencyKeyHash : String
  creditGrantId : Option Uuid
  ledgerEntryId : Option Uuid
  targetPlanId : Option Uuid

structure BillingDatabase extends LedgerDatabase where
  voucherIssuances : List VoucherIssuanceRow
  voucherRedemptions : List VoucherRedemptionRow
  paymentOrders : List PaymentOrderRow
  paymentIntents : List PaymentIntentRow
  paymentCaptures : List PaymentCaptureRow
  paymentRefunds : List PaymentRefundRow
  paymentEvents : List PaymentEventRow
  subscriptionPlans : List SubscriptionPlanRow
  subscriptions : List SubscriptionRow
  subscriptionEvents : List SubscriptionEventRow

theorem ten_pos : (0 : ℚ) < 10 := by
  decide +kernel

theorem stores_ten : moneyColumn.Stores 10 := by
  decide +kernel

def BillingDatabase.empty : BillingDatabase where
  wallets := []
  creditGrants := []
  budgets := []
  ledgerEntries := []
  voucherIssuances := []
  voucherRedemptions := []
  paymentOrders := []
  paymentIntents := []
  paymentCaptures := []
  paymentRefunds := []
  paymentEvents := []
  subscriptionPlans := []
  subscriptions := []
  subscriptionEvents := []

/-- The columns that an insert into `credit_grants` lists; the remaining amount
is the amount, and the status is `active`. -/
structure CreditGrantDraft where
  tenantId : Uuid
  walletId : Uuid
  amount : ℚ
  currency : String
  source : String
  validFrom : Int
  validUntil : Option Int
  metadata : CreditGrantMetadata

namespace PositiveAmount

def toRat (amount : PositiveAmount) : ℚ :=
  amount.money.toRat

theorem toRat_pos (amount : PositiveAmount) : 0 < amount.toRat :=
  FixedDecimal.toRat_pos_iff.mpr amount.units_pos

end PositiveAmount

/-- Read an amount from a request, which has to be positive. -/
def normalizeLocalPaymentDemoAmount (value : ℚ) : AdminResult PositiveAmount :=
  match parsed : parseBillingFixedDecimal value with
  | .error failure => .error failure
  | .ok money =>
    if positive : 0 < money.units.value then
      .ok ⟨money, (parseBillingFixedDecimal_eq_ok parsed).1, positive⟩
    else .error (.badRequest "amount must be positive")

def assignMoney (value : ℚ) : AdminResult ℚ :=
  okOr (.database .numericValueOutOfRange) (moneyColumn.assign value)

namespace CreditGrantDraft

def row (newId : Uuid) (draft : CreditGrantDraft) (amount : ℚ) (positive : 0 < amount) :
    CreditGrantRow where
  id := newId
  tenantId := draft.tenantId
  walletId := draft.walletId
  amount := amount
  remainingAmount := amount
  currency := draft.currency
  source := draft.source
  validFrom := draft.validFrom
  validUntil := draft.validUntil
  status := .active
  metadata := draft.metadata
  amount_pos := positive
  remaining_nonneg := positive.le
  remaining_le := le_refl amount

end CreditGrantDraft

variable (newId : Uuid) (database : BillingDatabase)

/-- The check constraint on the validity bounds of a grant. -/
def CreditGrantDraft.HasWindow (draft : CreditGrantDraft) : Prop :=
  draft.validUntil.all fun validUntil => draft.validFrom < validUntil

instance (draft : CreditGrantDraft) : Decidable draft.HasWindow :=
  inferInstanceAs (Decidable (_ = true))

def insertCreditGrant (draft : CreditGrantDraft) : AdminResult BillingDatabase := do
  let amount ← assignMoney draft.amount
  ensure (newId ∉ database.creditGrants.map CreditGrantRow.id)
    (.database (.uniqueViolation "credit_grants" "id"))
  ensure draft.HasWindow (.database (.checkViolation "credit_grants" "valid_until > valid_from"))
  if positive : 0 < amount then
    return { database with creditGrants :=
        database.creditGrants ++ [draft.row newId amount positive] }
  else
    .error (.database (.checkViolation "credit_grants" "amount > 0"))

/-- Insert a row, with its amount assigned to the column. -/
def insertLedgerEntry (row : LedgerEntryRow) : AdminResult BillingDatabase := do
  let amount ← assignMoney row.amount
  ensure (row.id ∉ database.ledgerEntries.map LedgerEntryRow.id)
    (.database (.uniqueViolation "ledger_entries" "id"))
  ensure (∀ other ∈ database.ledgerEntries, ¬ (other.tenantId = row.tenantId ∧
        other.idempotencyKey = row.idempotencyKey))
    (.database (.uniqueViolation "ledger_entries" "tenant_id, idempotency_key"))
  ensure (amount ≠ 0) (.database (.checkViolation "ledger_entries" "amount <> 0"))
  return { database with
    ledgerEntries := database.ledgerEntries ++ [{ row with amount := amount }] }

/-- The row under an idempotency key. -/
def ledgerEntryWithKey (tenantId : Uuid) (idempotencyKey : String) : Option LedgerEntryRow :=
  database.ledgerEntries.find? fun row =>
    row.tenantId = tenantId ∧ row.idempotencyKey = idempotencyKey

/-- The currency of an active wallet, read for update. -/
def lockCreditGrantWallet (tenantId walletId : Uuid) : Option String :=
  (database.wallets.find? fun wallet => wallet.tenantId = tenantId ∧ wallet.id = walletId ∧
      wallet.status = .active).map WalletRow.currency

end FuboxApi
