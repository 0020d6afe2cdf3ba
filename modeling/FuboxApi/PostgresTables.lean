import FuboxApi.ConsistentWriter
import FuboxApi.NumericColumn

/-!
# Wallet, grant, budget and ledger tables

The tables of the initial migration with the columns that the billing statements mention. Text
columns have the values of the check constraints, amounts are those of `numeric(20, 8)`, and
timestamps are integers.
-/

namespace FuboxApi

inductive WalletStatus where
  | active
  | suspended
  | closed
  | deleted
deriving DecidableEq

structure WalletRow where
  id : Uuid
  tenantId : Uuid
  projectId : Option Uuid
  currency : String
  status : WalletStatus
  balanceFloor : ℚ
  createdAt : Int
  deletedAt : Option Int
deriving DecidableEq

inductive CreditGrantStatus where
  | active
  | consumed
  | expired
  | voided
deriving DecidableEq

/-- The keys of a grant's metadata that statements read back. -/
structure CreditGrantMetadata where
  idempotencyFingerprint : Option String
  requestFingerprint : Option String
  paymentIntentId : Option Uuid

/-- A grant, with the check constraints on its amounts. -/
structure CreditGrantRow where
  id : Uuid
  tenantId : Uuid
  walletId : Uuid
  amount : ℚ
  remainingAmount : ℚ
  currency : String
  source : String
  validFrom : Int
  validUntil : Option Int
  status : CreditGrantStatus
  metadata : CreditGrantMetadata
  amount_pos : 0 < amount
  remaining_nonneg : 0 ≤ remainingAmount
  remaining_le : remainingAmount ≤ amount

inductive BudgetStatus where
  | active
  | disabled
  | deleted
deriving DecidableEq

structure BudgetRow where
  id : Uuid
  tenantId : Uuid
  projectId : Option Uuid
  virtualKeyId : Option Uuid
  scope : ConsistentBudgetDimension
  currency : String
  limitAmount : ℚ
  status : BudgetStatus
  deletedAt : Option Int

/-- The values of `ledger_entries.entry_type`. -/
inductive LedgerRowType where
  | reserve
  | settle
  | refund
  | adjust
  | expire
  | creditGrant
  | creditExpire
deriving DecidableEq

structure LedgerEntryRow where
  id : Uuid
  tenantId : Uuid
  projectId : Option Uuid
  virtualKeyId : Option Uuid
  walletId : Option Uuid
  requestId : Option Uuid
  relatedLedgerEntryId : Option Uuid
  entryType : LedgerRowType
  amount : ℚ
  currency : String
  status : LedgerEntryStatus
  idempotencyKey : String
deriving DecidableEq

structure LedgerDatabase where
  wallets : List WalletRow
  creditGrants : List CreditGrantRow
  budgets : List BudgetRow
  ledgerEntries : List LedgerEntryRow

/-- The type of the amount columns. -/
def moneyColumn : NumericColumn := ⟨20, 8⟩

/-- A grant counts between its validity bounds while it is active. -/
def CreditGrantRow.IsValidAt (now : Int) (grant : CreditGrantRow) : Prop :=
  grant.status = .active ∧ grant.validFrom ≤ now ∧
    ∀ validUntil, grant.validUntil = some validUntil → now < validUntil

instance (now : Int) (grant : CreditGrantRow) : Decidable (grant.IsValidAt now) :=
  match untilEq : grant.validUntil with
  | none =>
    decidable_of_iff (grant.status = .active ∧ grant.validFrom ≤ now)
      (by simp [CreditGrantRow.IsValidAt, untilEq])
  | some validUntil =>
    decidable_of_iff (grant.status = .active ∧ grant.validFrom ≤ now ∧ now < validUntil)
      (by simp [CreditGrantRow.IsValidAt, untilEq])

namespace LedgerRowType

/-- The text that the column holds. -/
def text : LedgerRowType → String
  | reserve => "reserve"
  | settle => "settle"
  | refund => "refund"
  | adjust => "adjust"
  | expire => "expire"
  | creditGrant => "credit_grant"
  | creditExpire => "credit_expire"

/-- The values that the check constraint admits. -/
def ofText (entered : String) : Option LedgerRowType :=
  [reserve, settle, refund, adjust, expire, creditGrant, creditExpire].find?
    fun rowType => rowType.text = entered

end LedgerRowType

namespace LedgerEntryStatus

/-- The text that the status column holds. -/
def text : LedgerEntryStatus → String
  | pending => "pending"
  | confirmed => "confirmed"
  | reversed => "reversed"

/-- The values that the check constraint admits. -/
def ofText (entered : String) : Option LedgerEntryStatus :=
  [pending, confirmed, reversed].find? fun status => status.text = entered

end LedgerEntryStatus

end FuboxApi
