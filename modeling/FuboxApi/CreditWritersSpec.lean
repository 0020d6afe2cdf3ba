import FuboxApi.GatewayBalance
import FuboxApi.PaymentWebhooks
import FuboxApi.SubscriptionScheduler
import Mathlib.Tactic.Ring

/-!
# What the credit transactions write

A credit appends at most one grant and at most one ledger row. A query that reads the wallet rises
by the amount for the grant, while it is valid, and once more for the row.
-/

namespace FuboxApi

open CheckedFold KeyedRows

variable {value : ℚ}

theorem assignMoney_eq_ok {amount : ℚ} :
    assignMoney value = .ok amount ↔ moneyColumn.assign value = some amount := by
  rw [assignMoney, okOr_eq_ok]

/-- A number that a money column keeps as it is, if it has room for it. -/
def StoredExactly (value : ℚ) : Prop :=
  ∀ amount, moneyColumn.assign value = some amount → amount = value

theorem storedExactly_of_stores (stored : moneyColumn.Stores value) : StoredExactly value := by
  intro amount assigned
  exact Option.some.inj (assigned.symm.trans stored)

theorem storedExactly_units (units : ℤ) : StoredExactly (units / 10 ^ defaultMoneyScale) := by
  intro amount assigned
  have scaleEq : moneyColumn.scale = defaultMoneyScale := rfl
  rw [← scaleEq, NumericColumn.assign_intCast_div] at assigned
  split at assigned
  · exact (Option.some.inj assigned).symm
  · cases assigned

theorem PositiveAmount.storedExactly (amount : PositiveAmount) : StoredExactly amount.toRat := by
  have exact := storedExactly_units amount.money.units.value
  rwa [PositiveAmount.toRat, FixedDecimal.toRat, amount.scale_eq]

variable {newId : Uuid} {database after : BillingDatabase}

section

theorem insertCreditGrant_eq_ok {draft : CreditGrantDraft} :
    insertCreditGrant newId database draft = .ok after ↔ ∃ amount, ∃ positive : 0 < amount,
        moneyColumn.assign draft.amount = some amount ∧
        newId ∉ database.creditGrants.map CreditGrantRow.id ∧ draft.HasWindow ∧
        after = { database with creditGrants :=
            database.creditGrants ++ [draft.row newId amount positive] } := by
  constructor
  · intro inserted
    obtain ⟨amount, assigned, inserted⟩ := bind_eq_ok.mp inserted
    obtain ⟨_, fresh, inserted⟩ := bind_eq_ok.mp inserted
    obtain ⟨_, window, inserted⟩ := bind_eq_ok.mp inserted
    split at inserted
    · next positive =>
      cases inserted
      exact ⟨amount, positive, assignMoney_eq_ok.mp assigned, ensure_eq_ok.mp fresh,
        ensure_eq_ok.mp window, rfl⟩
    · cases inserted
  · rintro ⟨amount, positive, assigned, fresh, window, rfl⟩
    refine bind_eq_ok.mpr ⟨amount, assignMoney_eq_ok.mpr assigned, ?_⟩
    refine bind_eq_ok.mpr ⟨(), ensure_eq_ok.mpr fresh, ?_⟩
    exact bind_eq_ok.mpr ⟨(), ensure_eq_ok.mpr window, dif_pos positive⟩

theorem insertLedgerEntry_eq_ok {row : LedgerEntryRow} :
    insertLedgerEntry database row = .ok after ↔
      ∃ amount, moneyColumn.assign row.amount = some amount ∧
        row.id ∉ database.ledgerEntries.map LedgerEntryRow.id ∧
        (∀ other ∈ database.ledgerEntries, ¬ (other.tenantId = row.tenantId ∧
          other.idempotencyKey = row.idempotencyKey)) ∧ amount ≠ 0 ∧ after = { database with
          ledgerEntries :=
            database.ledgerEntries ++ [{ row with amount := amount }] } := by
  constructor
  · intro inserted
    obtain ⟨amount, assigned, inserted⟩ := bind_eq_ok.mp inserted
    obtain ⟨_, fresh, inserted⟩ := bind_eq_ok.mp inserted
    obtain ⟨_, freshKey, inserted⟩ := bind_eq_ok.mp inserted
    obtain ⟨_, nonzero, inserted⟩ := bind_eq_ok.mp inserted
    cases inserted
    exact ⟨amount, assignMoney_eq_ok.mp assigned, ensure_eq_ok.mp fresh,
      ensure_eq_ok.mp freshKey, ensure_eq_ok.mp nonzero, rfl⟩
  · rintro ⟨amount, assigned, fresh, freshKey, nonzero, rfl⟩
    refine bind_eq_ok.mpr ⟨amount, assignMoney_eq_ok.mpr assigned, ?_⟩
    refine bind_eq_ok.mpr ⟨(), ensure_eq_ok.mpr fresh, ?_⟩
    refine bind_eq_ok.mpr ⟨(), ensure_eq_ok.mpr freshKey, ?_⟩
    exact bind_eq_ok.mpr ⟨(), ensure_eq_ok.mpr nonzero, rfl⟩

end

def sampleQuery : BalanceQuery :=
  ⟨defaultTenantId, sampleId 2, "USD", 5⟩

/-- The rows that a transaction appends to the tables that the gateway reads. -/
structure Appends (before after : LedgerDatabase) (grants : List CreditGrantRow)
    (entries : List LedgerEntryRow) : Prop where
  wallets : after.wallets = before.wallets
  creditGrants : after.creditGrants = before.creditGrants ++ grants
  ledgerEntries : after.ledgerEntries = before.ledgerEntries ++ entries

namespace Appends

variable {first second third : LedgerDatabase} {grants moreGrants : List CreditGrantRow}
  {entries moreEntries : List LedgerEntryRow}

theorem refl (database : LedgerDatabase) : Appends database database [] [] :=
  ⟨rfl, by simp, by simp⟩

theorem trans (former : Appends first second grants entries)
    (latter : Appends second third moreGrants moreEntries) :
    Appends first third (grants ++ moreGrants) (entries ++ moreEntries) where
  wallets := latter.wallets.trans former.wallets
  creditGrants := by
    rw [latter.creditGrants, former.creditGrants, List.append_assoc]
  ledgerEntries := by
    rw [latter.ledgerEntries, former.ledgerEntries, List.append_assoc]

theorem availableBalance (appends : Appends first second grants entries) (query : BalanceQuery)
    (wallet : WalletRow) : query.availableBalance wallet second =
      query.availableBalance wallet first + selectedSum (query.countsGrant wallet.id query.currency)
          CreditGrantRow.remainingAmount grants +
        selectedSum (query.countsLedgerEntry wallet.id query.currency)
          LedgerEntryRow.amount entries := by
  simp only [BalanceQuery.availableBalance, BalanceQuery.creditBalance,
    BalanceQuery.ledgerBalance, appends.creditGrants, appends.ledgerEntries, selectedSum_append]
  ring

end Appends

structure GrantWindow where
  validFrom : Int
  validUntil : Option Int

def GrantWindow.Contains (window : GrantWindow) (now : Int) : Prop :=
  window.validFrom ≤ now ∧ ∀ validUntil ∈ window.validUntil, now < validUntil

instance (window : GrantWindow) (now : Int) : Decidable (window.Contains now) :=
  inferInstanceAs (Decidable (_ ∧ _))

namespace Credit

variable (credit : Credit)

structure HeldByGrant (window : GrantWindow) (grant : CreditGrantRow) : Prop where
  tenant : grant.tenantId = credit.tenantId
  wallet : grant.walletId = credit.walletId
  currency : grant.currency = credit.currency
  amount : grant.remainingAmount = credit.amount
  active : grant.status = .active
  bounds : (⟨grant.validFrom, grant.validUntil⟩ : GrantWindow) = window

structure HeldByEntry (row : LedgerEntryRow) : Prop where
  tenant : row.tenantId = credit.tenantId
  wallet : row.walletId = some credit.walletId
  currency : row.currency = credit.currency
  amount : row.amount = credit.amount
  confirmed : row.status = .confirmed

variable {credit} {query : BalanceQuery} {wallets : List WalletRow} {wallet : WalletRow}
  (reads : query.ReadsWallet credit.tenantId credit.walletId credit.currency wallets wallet)

include reads

theorem HeldByGrant.contribution {window : GrantWindow} {grant : CreditGrantRow}
    (held : credit.HeldByGrant window grant) :
    contribution (query.countsGrant wallet.id query.currency) CreditGrantRow.remainingAmount grant =
      if window.Contains query.now then credit.amount else 0 := by
  have counts : query.countsGrant wallet.id query.currency grant = true ↔
      window.Contains query.now := by
    simp [BalanceQuery.countsGrant, held.wallet, held.currency, held.tenant,
      reads.wallet_id, reads.currency_eq, reads.tenant, GrantWindow.Contains,
      CreditGrantRow.IsValidAt, held.active, ← held.bounds]
  simp only [KeyedRows.contribution, counts, held.amount]

theorem HeldByEntry.contribution {row : LedgerEntryRow} (held : credit.HeldByEntry row) :
    contribution (query.countsLedgerEntry wallet.id query.currency)
        LedgerEntryRow.amount row = credit.amount := by
  have counts : query.countsLedgerEntry wallet.id query.currency row = true := by
    simp [BalanceQuery.countsLedgerEntry, held.wallet, held.currency, held.tenant,
      reads.wallet_id, reads.currency_eq, reads.tenant, held.confirmed]
  simp only [KeyedRows.contribution, counts, if_true, held.amount]

end Credit

structure RecordsCredit (record : CreditRecord) (window : GrantWindow)
    (before after : LedgerDatabase) (grant : Option CreditGrantRow)
    (entry : Option LedgerEntryRow) : Prop where
  appends : Appends before after grant.toList entry.toList
  grantWritten : grant.isSome = record.creditGrantWritten
  entryWritten : entry.isSome = record.ledgerEntryWritten
  grantHolds : ∀ row ∈ grant, record.credit.HeldByGrant window row
  entryHolds : ∀ row ∈ entry, record.credit.HeldByEntry row

theorem RecordsCredit.availableBalance {record : CreditRecord} {window : GrantWindow}
    {before after : LedgerDatabase} {grant : Option CreditGrantRow} {entry : Option LedgerEntryRow}
    (records : RecordsCredit record window before after grant entry) {query : BalanceQuery}
    {wallet : WalletRow} (reads : query.ReadsWallet record.credit.tenantId record.credit.walletId
      record.credit.currency before.wallets wallet) : query.availableBalance wallet after =
      query.availableBalance wallet before +
        (if record.creditGrantWritten = true ∧ window.Contains query.now then
          record.credit.amount else 0) +
        (if record.ledgerEntryWritten = true then record.credit.amount else 0) := by
  rw [records.appends.availableBalance query wallet, ← records.grantWritten, ← records.entryWritten]
  congr 1
  · congr 1
    cases grant with
    | none => simp
    | some row =>
      rw [Option.toList_some, selectedSum_singleton,
        (records.grantHolds row rfl).contribution reads]
      simp
  · cases entry with
    | none => simp
    | some row =>
      rw [Option.toList_some, selectedSum_singleton,
        (records.entryHolds row rfl).contribution reads]
      simp

open CreditWriters

variable {runtime : ControlPlaneRuntime} {inputs : TransactionInputs} {outcome : CreditOutcome}
  {request : NormalizedVoucherRedeemRequest}

theorem records_insertCreditGrant {draft : CreditGrantDraft}
    (inserted : insertCreditGrant newId database draft = .ok after)
    (exact : StoredExactly draft.amount) : ∃ grant,
      RecordsCredit ⟨⟨draft.tenantId, draft.walletId, draft.currency, draft.amount⟩, true, false⟩
        ⟨draft.validFrom, draft.validUntil⟩ database.toLedgerDatabase after.toLedgerDatabase
        grant none := by
  obtain ⟨amount, positive, assigned, _, _, rfl⟩ := insertCreditGrant_eq_ok.mp inserted
  refine ⟨some (draft.row newId amount positive), ⟨rfl, rfl, by simp⟩, rfl, rfl, ?_, by simp⟩
  rintro row ⟨⟩
  exact ⟨rfl, rfl, rfl, exact amount assigned, rfl, rfl⟩

theorem records_insertLedgerEntry {tenantId walletId : Uuid} {projectId : Option Uuid}
    {entryType : LedgerRowType} {amount : ℚ} {currency key : String} {window : GrantWindow}
    (inserted : insertLedgerEntry database
      (creditLedgerEntry newId tenantId projectId walletId entryType amount
        currency key) = .ok after) (exact : StoredExactly amount) : ∃ entry,
      RecordsCredit ⟨⟨tenantId, walletId, currency, amount⟩, false, true⟩ window
        database.toLedgerDatabase after.toLedgerDatabase none entry := by
  obtain ⟨stored, assigned, _, _, _, rfl⟩ := insertLedgerEntry_eq_ok.mp inserted
  refine ⟨some _, ⟨rfl, by simp, rfl⟩, rfl, rfl, by simp, ?_⟩
  rintro row ⟨⟩
  exact ⟨rfl, rfl, rfl, exact stored assigned, rfl⟩

/-- How a transaction affects the tables of the gateway, with a condition on
the rows that it writes for a credit. -/
inductive CreditEffect (window : GrantWindow) (writes : CreditRecord → Prop)
    (before after : LedgerDatabase) : CreditOutcome → Prop
  | recorded {record : CreditRecord} {grant : Option CreditGrantRow}
      {entry : Option LedgerEntryRow} (amount_pos : 0 < record.credit.amount)
      (someWritten : record.creditGrantWritten = true ∨ record.ledgerEntryWritten = true)
      (written : writes record)
      (records : RecordsCredit record window before after grant entry) :
      CreditEffect window writes before after (.recorded record)
  | unrecorded {outcome : CreditOutcome} (without : ∀ record, outcome ≠ .recorded record)
      (unchanged : Appends before after [] []) :
      CreditEffect window writes before after outcome

namespace CreditRecord

def WritesBoth (record : CreditRecord) : Prop :=
  record.creditGrantWritten = true ∧ record.ledgerEntryWritten = true

def WritesGrantOnly (record : CreditRecord) : Prop :=
  record.creditGrantWritten = true ∧ record.ledgerEntryWritten = false

end CreditRecord

theorem RecordsCredit.trans {credit : Credit} {window : GrantWindow}
    {before middle after : LedgerDatabase} {grant : Option CreditGrantRow}
    {entry : Option LedgerEntryRow} {grantWritten entryWritten : Bool}
    (first : RecordsCredit ⟨credit, grantWritten, false⟩ window before middle grant none)
    (second : RecordsCredit ⟨credit, false, entryWritten⟩ window middle after none entry) :
    RecordsCredit ⟨credit, grantWritten, entryWritten⟩ window before after grant entry where
  appends := by simpa using first.appends.trans second.appends
  grantWritten := first.grantWritten
  entryWritten := second.entryWritten
  grantHolds := first.grantHolds
  entryHolds := second.entryHolds

theorem redeemVoucher_effect {voucher : VoucherIssuanceRow}
    (executed : redeemVoucher runtime inputs request voucher database = .ok (outcome, after)) :
    CreditEffect ⟨inputs.now, none⟩ CreditRecord.WritesBoth
      database.toLedgerDatabase after.toLedgerDatabase outcome := by
  obtain ⟨walletId, _, executed⟩ := bind_eq_ok.mp executed
  obtain ⟨withGrant, grantInserted, executed⟩ := bind_eq_ok.mp executed
  obtain ⟨withEntry, entryInserted, executed⟩ := bind_eq_ok.mp executed
  obtain ⟨withRedemption, redemptionInserted, executed⟩ := bind_eq_ok.mp executed
  cases executed
  obtain ⟨_, _, redemptionInserted⟩ := bind_eq_ok.mp redemptionInserted
  obtain ⟨_, _, redemptionInserted⟩ := bind_eq_ok.mp redemptionInserted
  cases redemptionInserted
  have exact := storedExactly_of_stores voucher.amount_stored
  obtain ⟨grant, grantRecords⟩ := records_insertCreditGrant grantInserted exact
  obtain ⟨entry, entryRecords⟩ := records_insertLedgerEntry entryInserted exact
  exact .recorded voucher.amount_pos (.inl rfl) ⟨rfl, rfl⟩ (grantRecords.trans entryRecords)

theorem executeVoucherRedeem_effect
    (executed : executeVoucherRedeem runtime inputs request database = .ok (outcome, after)) :
    CreditEffect ⟨inputs.now, none⟩ CreditRecord.WritesBoth
      database.toLedgerDatabase after.toLedgerDatabase outcome := by
  unfold executeVoucherRedeem at executed
  split at executed
  · split at executed <;> cases executed <;>
      exact .unrecorded (by simp) (Appends.refl _)
  · split at executed
    · cases executed
      exact .unrecorded (by simp) (Appends.refl _)
    · split at executed
      · cases executed
        exact .unrecorded (by simp) (Appends.refl _)
      · exact redeemVoucher_effect executed

def adminGrantWindow (now : Int) (request : NormalizedCreateAdminCreditGrantRequest) :
    GrantWindow :=
  ⟨request.validFrom.getD now, request.validUntil⟩

theorem executeCreateAdminCreditGrant_effect {request : NormalizedCreateAdminCreditGrantRequest}
    (executed : executeCreateAdminCreditGrant inputs request database = .ok (outcome, after)) :
    CreditEffect (adminGrantWindow inputs.now request)
      CreditRecord.WritesGrantOnly database.toLedgerDatabase after.toLedgerDatabase outcome := by
  unfold executeCreateAdminCreditGrant at executed
  split at executed
  · split at executed <;> cases executed <;>
      exact .unrecorded (by simp) (Appends.refl _)
  · split at executed
    · cases executed
      exact .unrecorded (by simp) (Appends.refl _)
    · obtain ⟨withGrant, inserted, executed⟩ := bind_eq_ok.mp executed
      cases executed
      obtain ⟨grant, records⟩ := records_insertCreditGrant inserted request.amount.storedExactly
      exact .recorded request.amount.toRat_pos (.inl rfl) ⟨rfl, rfl⟩ records

end FuboxApi
