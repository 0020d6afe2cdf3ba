import FuboxApi.KeyedRows
import FuboxApi.PostgresTables

/-!
# The available balance of the gateway

The pre-authorization query and the statement that writes a paid reserve both add up the grants and
rows of one wallet. They compare currencies with the wallet in one case and with the request in the
other; the selected wallet has the currency of the request.
-/

namespace FuboxApi

open KeyedRows

/-- The parameters of a balance query and the time of its `now()`. -/
structure BalanceQuery where
  tenantId : Uuid
  projectId : Uuid
  currency : String
  now : Int

namespace BalanceQuery

variable (query : BalanceQuery)

/-- The wallets among which the query chooses. -/
def candidateWallets (wallets : List WalletRow) : List WalletRow :=
  wallets.filter fun wallet =>
    wallet.tenantId = query.tenantId ∧
      (wallet.projectId = some query.projectId ∨ wallet.projectId = none) ∧
      wallet.currency = query.currency ∧ wallet.status = .active ∧
      wallet.deletedAt = none

/-- A wallet of the project comes first, then the oldest one. -/
def ComesBefore (first second : WalletRow) : Prop :=
  (first.projectId = some query.projectId ∧ second.projectId ≠ some query.projectId) ∨
    (first.projectId = some query.projectId ↔ second.projectId = some query.projectId) ∧
      (first.createdAt < second.createdAt ∨ first.createdAt = second.createdAt ∧
          first.id.asU128 ≤ second.id.asU128)

instance : DecidableRel query.ComesBefore := fun _ _ =>
  inferInstanceAs (Decidable (_ ∨ _))

def selectedWallet (wallets : List WalletRow) : Option WalletRow :=
  ((query.candidateWallets wallets).insertionSort query.ComesBefore).head?

variable (walletId : Uuid) (currency : String) (database : LedgerDatabase)

def countsGrant (grant : CreditGrantRow) : Bool :=
  grant.walletId = walletId ∧ grant.currency = currency ∧
    grant.tenantId = query.tenantId ∧ grant.IsValidAt query.now

/-- The ledger rows that count for a wallet in a currency: its own, and those
of the project that name no wallet. -/
def countsLedgerEntry (row : LedgerEntryRow) : Bool :=
  row.currency = currency ∧
    (row.walletId = some walletId ∨ row.walletId = none ∧ row.projectId = some query.projectId) ∧
    row.tenantId = query.tenantId ∧ row.status.IsActive

def creditBalance : ℚ :=
  selectedSum (query.countsGrant walletId currency)
    CreditGrantRow.remainingAmount database.creditGrants

def ledgerBalance : ℚ :=
  selectedSum (query.countsLedgerEntry walletId currency)
    LedgerEntryRow.amount database.ledgerEntries

/-- `PRE_AUTHORIZE_WALLET_BALANCE_SQL`. -/
def preAuthorizeWalletBalance : Option (String × ℚ) :=
  (query.selectedWallet database.wallets).map fun wallet =>
    (wallet.currency, query.creditBalance wallet.id wallet.currency database +
        query.ledgerBalance wallet.id wallet.currency database - wallet.balanceFloor)

def paidReserveBalanceWindow : Option (Uuid × ℚ) :=
  (query.selectedWallet database.wallets).map fun wallet =>
    (wallet.id, query.creditBalance wallet.id query.currency database +
        query.ledgerBalance wallet.id query.currency database - wallet.balanceFloor)

def availableBalance (wallet : WalletRow) (database : LedgerDatabase) : ℚ :=
  query.creditBalance wallet.id query.currency database +
    query.ledgerBalance wallet.id query.currency database - wallet.balanceFloor

structure ReadsWallet (tenantId walletId : Uuid) (currency : String) (wallets : List WalletRow)
    (wallet : WalletRow) : Prop where
  selected : query.selectedWallet wallets = some wallet
  wallet_id : wallet.id = walletId
  tenant : query.tenantId = tenantId
  currency_eq : query.currency = currency

variable {query} {wallet : WalletRow}

theorem selectedWallet_currency {wallets : List WalletRow}
    (selected : query.selectedWallet wallets = some wallet) : wallet.currency = query.currency := by
  have sorted := List.mem_of_head? selected
  rw [List.mem_insertionSort] at sorted
  have candidate := List.mem_filter.mp sorted
  simp only [decide_eq_true_eq] at candidate
  exact candidate.2.2.2.1

theorem readings_of_selectedWallet {database : LedgerDatabase}
    (selected : query.selectedWallet database.wallets = some wallet) :
    query.preAuthorizeWalletBalance database =
        some (query.currency, query.availableBalance wallet database) ∧
      query.paidReserveBalanceWindow database =
        some (wallet.id, query.availableBalance wallet database) := by
  rw [preAuthorizeWalletBalance, paidReserveBalanceWindow, selected]
  simp only [Option.map_some, selectedWallet_currency selected]
  exact ⟨rfl, rfl⟩

end BalanceQuery

end FuboxApi
