import FuboxApi.ControlPlaneTables
import FuboxApi.KeyedRows

/-!
# Vouchers, admin grants and subscription credits

The transactions that credit a wallet without a payment: a grant and a confirmed ledger row for the
same amount, or the grant alone for an admin. Hashes, the calendar and the rounding of numeric
quotients come from outside the tables.
-/

namespace FuboxApi

open CheckedFold KeyedRows

structure ControlPlaneRuntime where
  sha256Hex : String → String
  numericDivide : ℚ → ℚ → ℚ
  addMonth : Int → Int
  addYear : Int → Int

/-- The time of `now()` in a transaction and the identifiers that
`gen_random_uuid()` gives to its new rows. -/
structure TransactionInputs where
  now : Int
  newRowId : Uuid
  newCreditGrantId : Uuid
  newLedgerEntryId : Uuid

/-- An amount that a wallet is credited with. -/
structure Credit where
  tenantId : Uuid
  walletId : Uuid
  currency : String
  amount : ℚ
deriving DecidableEq

/-- A runtime for worked cases, whose hash is the identity. -/
def sampleRuntime : ControlPlaneRuntime where
  sha256Hex := id
  numericDivide := fun dividend divisor => dividend / divisor
  addMonth := fun time => time + 30
  addYear := fun time => time + 365

/-- A credit that a transaction wrote to the grants, the ledger or both. -/
structure CreditRecord where
  credit : Credit
  creditGrantWritten : Bool
  ledgerEntryWritten : Bool
deriving DecidableEq

/-- How a transaction of the control plane ends when it does not fail. -/
inductive CreditOutcome where
  | refused (code : String)
  | replayed
  | settled (status : String)
  | recorded (record : CreditRecord)
deriving DecidableEq

/-- The identifier that a conditional insert returns, and whether the insert
wrote a row. -/
structure RowWrite where
  id : Option Uuid
  written : Bool

namespace CreditWriters

def creditLedgerEntry (newId tenantId : Uuid) (projectId : Option Uuid) (walletId : Uuid)
    (entryType : LedgerRowType) (amount : ℚ) (currency idempotencyKey : String) :
    LedgerEntryRow where
  id := newId
  tenantId := tenantId
  projectId := projectId
  virtualKeyId := none
  walletId := some walletId
  requestId := none
  relatedLedgerEntryId := none
  entryType := entryType
  amount := amount
  currency := currency
  status := .confirmed
  idempotencyKey := idempotencyKey

def immediateGrant (now : Int) (tenantId walletId : Uuid) (amount : ℚ) (currency source : String)
    (paymentIntentId : Option Uuid) : CreditGrantDraft where
  tenantId := tenantId
  walletId := walletId
  amount := amount
  currency := currency
  source := source
  validFrom := now
  validUntil := none
  metadata := ⟨none, none, paymentIntentId⟩

/-- An insert with `on conflict (tenant_id, idempotency_key) do update` that
changes nothing. -/
def insertLedgerEntryOrReadBack (database : BillingDatabase) (row : LedgerEntryRow) :
    AdminResult (RowWrite × BillingDatabase) :=
  match ledgerEntryWithKey database row.tenantId row.idempotencyKey with
  | some existing => .ok (⟨some existing.id, false⟩, database)
  | none => do
      let database ← insertLedgerEntry database row
      return (⟨some row.id, true⟩, database)

/-- What a transaction reports about the two rows of a credit. -/
def creditOutcome (status : String) (credit : Credit) (grant entry : RowWrite) : CreditOutcome :=
  if grant.written || entry.written then
    .recorded ⟨credit, grant.written, entry.written⟩
  else
    .settled status

structure NormalizedVoucherRedeemRequest where
  tenantId : Uuid
  projectId : Option Uuid
  walletId : Uuid
  currency : String
  codeHash : String
  idempotencyFingerprint : String
  requestFingerprint : String

def voucherRedeemRefusalCode (now : Int) (request : NormalizedVoucherRedeemRequest)
    (voucher : VoucherIssuanceRow) : Option String :=
  if voucher.status = .expired ∨ voucher.expiresAt.any (fun expiresAt => expiresAt ≤ now) then
    some "voucher_expired"
  else if voucher.status = .revoked then some "voucher_revoked"
  else if voucher.status ≠ .issued then some "voucher_not_redeemable"
  else if voucher.currency ≠ request.currency then
    some "voucher_currency_mismatch"
  else if voucher.walletId ≠ some request.walletId ∨ voucher.projectId ≠ request.projectId then
    some "voucher_scope_ownership_mismatch"
  else if voucher.maxRedemptions ≤ voucher.redemptionCount then
    some "voucher_redemption_limit_reached"
  else none

def insertVoucherRedemption (newId : Uuid)
    (request : NormalizedVoucherRedeemRequest) (voucher : VoucherIssuanceRow)
    (creditGrantId ledgerEntryId : Uuid) (database : BillingDatabase) :
    AdminResult BillingDatabase := do
  ensure (newId ∉ database.voucherRedemptions.map VoucherRedemptionRow.id)
    (.database (.uniqueViolation "voucher_redemptions" "id"))
  ensure (∀ other ∈ database.voucherRedemptions, ¬ (other.tenantId = request.tenantId ∧
        other.idempotencyKeyHash = request.idempotencyFingerprint))
    (.database (.uniqueViolation "voucher_redemptions" "tenant_id, idempotency_key_hash"))
  return { database with
    voucherRedemptions := database.voucherRedemptions ++ [{
      id := newId
      tenantId := request.tenantId
      projectId := request.projectId
      walletId := request.walletId
      voucherId := voucher.id
      currency := voucher.currency
      amount := voucher.amount
      idempotencyKeyHash := request.idempotencyFingerprint
      creditGrantId := some creditGrantId
      ledgerEntryId := some ledgerEntryId
      requestFingerprint := some request.requestFingerprint }] }

def updateVoucherIssuanceAfterRedeem (voucherId : Uuid) (database : BillingDatabase) :
    BillingDatabase :=
  { database with
    voucherIssuances := database.voucherIssuances.map fun voucher =>
      if voucher.tenantId = defaultTenantId ∧ voucher.id = voucherId then
        { voucher with
          redemptionCount := voucher.redemptionCount + 1
          status :=
            if voucher.maxRedemptions ≤ voucher.redemptionCount + 1 then
              .redeemed
            else voucher.status }
      else voucher }

def voucherLedgerKey (runtime : ControlPlaneRuntime) (voucherId creditGrantId : Uuid) : String :=
  runtime.sha256Hex ("voucher-ledger:v1:" ++ voucherId.toText ++ ":" ++ creditGrantId.toText)

def redeemVoucher (runtime : ControlPlaneRuntime) (inputs : TransactionInputs)
    (request : NormalizedVoucherRedeemRequest) (voucher : VoucherIssuanceRow)
    (database : BillingDatabase) : AdminResult (CreditOutcome × BillingDatabase) := do
  let walletId ← okOr (.database (.notNullViolation "credit_grants" "wallet_id")) voucher.walletId
  let database ← insertCreditGrant inputs.newCreditGrantId database
    (immediateGrant inputs.now voucher.tenantId walletId voucher.amount
      voucher.currency "voucher_redeem" none)
  let database ← insertLedgerEntry database
    (creditLedgerEntry inputs.newLedgerEntryId voucher.tenantId voucher.projectId
      walletId .creditGrant voucher.amount voucher.currency
      (voucherLedgerKey runtime voucher.id inputs.newCreditGrantId))
  let database ← insertVoucherRedemption inputs.newRowId request voucher
    inputs.newCreditGrantId inputs.newLedgerEntryId database
  return (.recorded ⟨⟨voucher.tenantId, walletId, voucher.currency, voucher.amount⟩, true, true⟩,
    updateVoucherIssuanceAfterRedeem voucher.id database)

/-- The lookups of the redemption and of the voucher are taken for statements that Postgres
accepts. -/
def executeVoucherRedeem (runtime : ControlPlaneRuntime) (inputs : TransactionInputs)
    (request : NormalizedVoucherRedeemRequest) (database : BillingDatabase) :
    AdminResult (CreditOutcome × BillingDatabase) :=
  match database.voucherRedemptions.find? fun redemption =>
      redemption.tenantId = defaultTenantId ∧
        redemption.idempotencyKeyHash = request.idempotencyFingerprint with
  | some existing =>
    if existing.requestFingerprint = some request.requestFingerprint then
      .ok (.replayed, database)
    else .ok (.refused "idempotency_conflict", database)
  | none =>
    match database.voucherIssuances.find? fun voucher =>
        voucher.tenantId = defaultTenantId ∧
          voucher.codeHash = request.codeHash with
    | none => .ok (.refused "voucher_not_found", database)
    | some voucher =>
      match voucherRedeemRefusalCode inputs.now request voucher with
      | some code => .ok (.refused code, database)
      | none => redeemVoucher runtime inputs request voucher database

structure NormalizedCreateAdminCreditGrantRequest where
  tenantId : Uuid
  walletId : Uuid
  amount : PositiveAmount
  currency : String
  source : String
  validFrom : Option Int
  validUntil : Option Int
  idempotencyFingerprint : String
  requestFingerprint : String

def adminCreditGrantDraft (now : Int) (request : NormalizedCreateAdminCreditGrantRequest) :
    CreditGrantDraft where
  tenantId := request.tenantId
  walletId := request.walletId
  amount := request.amount.toRat
  currency := request.currency
  source := request.source
  validFrom := request.validFrom.getD now
  validUntil := request.validUntil
  metadata := ⟨some request.idempotencyFingerprint, some request.requestFingerprint, none⟩

def executeCreateAdminCreditGrant (inputs : TransactionInputs)
    (request : NormalizedCreateAdminCreditGrantRequest) (database : BillingDatabase) :
    AdminResult (CreditOutcome × BillingDatabase) :=
  match database.creditGrants.find? fun grant =>
      grant.tenantId = defaultTenantId ∧ grant.metadata.idempotencyFingerprint =
          some request.idempotencyFingerprint with
  | some existing =>
    if existing.metadata.requestFingerprint = some request.requestFingerprint then
      .ok (.replayed, database)
    else .ok (.refused "idempotency_conflict", database)
  | none =>
    if lockCreditGrantWallet database defaultTenantId request.walletId ≠ some request.currency then
      .ok (.refused "wallet_currency_mismatch", database)
    else do
      let database ← insertCreditGrant inputs.newCreditGrantId database
        (adminCreditGrantDraft inputs.now request)
      return (.recorded ⟨⟨request.tenantId, request.walletId, request.currency,
        request.amount.toRat⟩, true, false⟩, database)

end CreditWriters

end FuboxApi
